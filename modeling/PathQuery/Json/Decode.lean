import PathQuery.Json.Printer
import PathQuery.Json.Tree

/-!
# Decoding JSON trees

Decoders turn a tree into a value of a domain type and report the first problem in the order of the
text: a fault of the text itself, a value of the wrong shape, or (`rejected`) what the domain has
against a value of the right shape.

* `DecodeError ε` : the problems, with the domain's own in `ε`;
* `decodeText`, `decodeBool`, `decodeInt64`, `decodeOption`, `decodeList`, `decodeMap` : the simple
  shapes;
* `Record.decode` : a record, given as an object or as the list of its fields in order;
* `decodeDocument` : a whole text.
-/

namespace PathQuery.Json

/-- What was found where something else was expected. -/
inductive Found where
  | null
  | bool (b : Bool)
  | number (n : Number)
  | string (s : String)
  | list
  | object

def Found.describe : Found → String
  | .null => "null"
  | .bool true => "boolean `true`"
  | .bool false => "boolean `false`"
  | .number (.int n) => "integer `" ++ Numeral.ofInt n ++ "`"
  | .number (.float x) => "floating point `" ++ floatStyle.write x ++ "`"
  | .string s => "string " ++ Text.quoted s
  | .list => "sequence"
  | .object => "map"

/-- Why a tree is not the value asked for. -/
inductive DecodeError (ε : Type) where
  | text (cause : TextError)
  | invalidType (found : Found) (expected : String)
  | invalidValue (found : Found) (expected : String)
  | missingField (name : String)
  | duplicateField (name : String)
  | unknownVariant (found : String) (known : List String)
  | noVariant (type : String)
  | invalidLength (length : Nat) (type : String) (fields : Nat)
  | rejected (cause : ε)

def DecodeError.message (rejection : ε → String) : DecodeError ε → String
  | .text cause => cause.message
  | .invalidType found expected => "invalid type: " ++ found.describe ++ ", expected " ++ expected
  | .invalidValue found expected =>
    "invalid value: " ++ found.describe ++ ", expected " ++ expected
  | .missingField name => "missing field `" ++ name ++ "`"
  | .duplicateField name => "duplicate field `" ++ name ++ "`"
  | .unknownVariant found known =>
    "unknown variant `" ++ found ++ "`, expected " ++
      " or ".intercalate (known.map fun k => "`" ++ k ++ "`")
  | .noVariant type => "data did not match any variant of untagged enum " ++ type
  | .invalidLength length type fields =>
    "invalid length " ++ Numeral.ofNat length ++ ", expected struct " ++ type ++ " with " ++
      Numeral.ofNat fields ++ " elements"
  | .rejected cause => rejection cause

abbrev Decoder (ε α : Type) := Tree → Except (DecodeError ε) α

variable {ε α : Type}

/-- A step of reading the text itself. -/
def orText (r : Except TextError α) : Except (DecodeError ε) α :=
  match r with
  | .ok a => .ok a
  | .error cause => .error (.text cause)

/-- The error of a tree that has the wrong shape. -/
def wrongType (expected : String) : Decoder ε α
  | .null => .error (.invalidType .null expected)
  | .bool b => .error (.invalidType (.bool b) expected)
  | .number n => do .error (.invalidType (.number (← orText n)) expected)
  | .string s => do .error (.invalidType (.string (← orText s)) expected)
  | .list _ _ => .error (.invalidType .list expected)
  | .object _ _ => .error (.invalidType .object expected)
  | .broken cause => .error (.text cause)

def decodeText : Decoder ε String
  | .string s => orText s
  | t => wrongType "a string" t

def decodeBool : Decoder ε Bool
  | .bool b => .ok b
  | t => wrongType "a boolean" t

def decodeInt64 : Decoder ε Int64
  | .number n => do
    match ← orText n with
    | .int k =>
      if Numeral.fitsInt64 k then .ok (Int64.ofInt k)
      else .error (.invalidValue (.number (.int k)) "i64")
    | .float x => .error (.invalidType (.number (.float x)) "i64")
  | t => wrongType "i64" t

/-- Null is the absent value. -/
def decodeOption (decode : Decoder ε α) : Decoder ε (Option α)
  | .null => .ok none
  | t => (decode t).map some

/-- Reads the items of a list one after the other, then the fault behind them. -/
def decodeList (decode : Decoder ε α) : Decoder ε (List α)
  | .list items fault => do
    let values ← items.mapM decode
    match fault with
    | some cause => .error (.text cause)
    | none => .ok values
  | t => wrongType "a sequence" t

/-- Adds decoded entries to those before them; a repeated key takes its last value. -/
def decodeEntries (decode : Decoder ε α) :
    List (Tree.Key × Tree) → Named α → Except (DecodeError ε) (Named α)
  | [], done => .ok done
  | (key, t) :: rest, done => do
    let k ← orText key
    let v ← decode t
    decodeEntries decode rest (done.insert k v)

def decodeMap (decode : Decoder ε α) : Decoder ε (Named α)
  | .object entries fault => do
    let values ← decodeEntries decode entries .empty
    match fault with
    | some cause => .error (.text cause)
    | none => .ok values
  | t => wrongType "a map" t

/-! ## Records -/

/-- A field of a record: its key, whether it may be left out, and how its value is taken in. -/
structure Field (ε σ : Type) where
  name : String
  required : Bool
  take : σ → Tree → Except (DecodeError ε) σ

/-- A record: its name in messages and its fields in order. -/
structure Record (ε σ : Type) where
  name : String
  fields : List (Field ε σ)

namespace Record

variable {σ : Type}

/-- Takes in the entries; `seen` are the fields that had a value before. Unknown keys are
skipped. -/
def takeEntries (r : Record ε σ) :
    List (Tree.Key × Tree) → (seen : List String) → σ → Except (DecodeError ε) (List String × σ)
  | [], seen, s => .ok (seen, s)
  | (key, t) :: rest, seen, s => do
    let k ← orText key
    match r.fields.find? fun f => f.name == k with
    | none =>
      match t.fault? with
      | some cause => .error (.text cause)
      | none => takeEntries r rest seen s
    | some f =>
      if k ∈ seen then .error (.duplicateField k)
      else do takeEntries r rest (k :: seen) (← f.take s t)

/-- Takes in the items of a list as the fields in order; the rest of both is left. -/
def takeItems : List (Field ε σ) → List Tree → σ → Except (DecodeError ε)
    (List (Field ε σ) × List Tree × σ)
  | f :: fields, t :: items, s => do takeItems fields items (← f.take s t)
  | fields, items, s => .ok (fields, items, s)

/-- The fault of a list that does not end behind the last field: whatever stands there is too
much. -/
def surplus : TextError → TextError
  | .endInList => .endInList
  | .trailingComma => .trailingComma
  | _ => .trailingCharacters

/-- The record made by taking the parts of a tree into `s`. -/
def decode (r : Record ε σ) (s : σ) : Decoder ε σ
  | .object entries fault => do
    let (seen, s) ← r.takeEntries entries [] s
    match fault with
    | some cause => .error (.text cause)
    | none =>
      match r.fields.find? fun f => f.required && !seen.contains f.name with
      | some f => .error (.missingField f.name)
      | none => .ok s
  | .list items fault => do
    let (fields, left, s) ← takeItems r.fields items s
    match fields, left, fault with
    | [], [], none => .ok s
    | [], [], some cause => .error (.text (surplus cause))
    | [], _ :: _, _ => .error (.text .trailingCharacters)
    | _ :: _, _, some cause => .error (.text cause)
    | fields, _, none =>
      if fields.any Field.required then
        .error (.invalidLength items.length r.name r.fields.length)
      else .ok s
  | t => wrongType ("struct " ++ r.name) t

end Record

/-! ## Whole texts -/

/-- Whether a text is JSON from end to end. -/
def isText (s : String) : Bool :=
  match ofText s with
  | .ok _ => true
  | .error _ => false

def decodeDocument (decode : Decoder ε α) (s : String) : Except (DecodeError ε) α := do
  let document := Document.ofText s
  let a ← decode document.root
  if document.trailing then .error (.text .trailingCharacters) else .ok a

end PathQuery.Json
