import PathQuery.Error
import PathQuery.Text.Blank
import PathQuery.Text.Pieces

/-!
# Queries

A query says how to sort, which rows to return, what they must satisfy and what to search for; every
part may be left out. `Query.read` decodes its JSON text. The sort keys are a list of texts or one
text with commas between the keys.
-/

namespace PathQuery

structure Query where
  sort : Option (List String)
  limit : Option Int64
  offset : Option Int64
  page : Option Int64
  filter : Option Filter
  search : Option String

namespace Query

def empty : Query := ⟨none, none, none, none, none, none⟩

def beqFilter : Option Filter → Option Filter → Bool
  | none, none => true
  | some f, some g => Filter.beq f g
  | _, _ => false

def beq (a b : Query) : Bool :=
  a.sort == b.sort && a.limit == b.limit && a.offset == b.offset && a.page == b.page &&
    beqFilter a.filter b.filter && a.search == b.search

instance : BEq Query := ⟨beq⟩

open Json

/-- The keys between the commas of a text, blank ones left out. -/
def splitKeys (s : String) : List String := Text.trimAll (Text.split ',' s)

def texts? : List Json → Option (List String)
  | [] => some []
  | .string s :: rest => (texts? rest).map (s :: ·)
  | _ :: _ => none

/-- The sort keys that a value writes. -/
def keys? : Json → Option (List String)
  | .array items => texts? items
  | .string s => some (splitKeys s)
  | _ => none

/-- The depth of brackets left inside a record. -/
def innerDepth : Nat := maxDepth - 1

def decodeSort : Decoder Filter.ReadError (List String) := fun t => do
  match keys? (← orText (t.value innerDepth)) with
  | some keys => .ok keys
  | none => .error (.noVariant "Sort")

def decodeFilter : Decoder Filter.ReadError Filter := fun t => do
  match Filter.ofJson (← orText (t.value innerDepth)) with
  | .ok f => .ok f
  | .error cause => .error (.rejected cause)

def record : Record Filter.ReadError Query where
  name := "Query"
  fields :=
    [⟨"sort", false, fun q t => do return { q with sort := ← decodeOption decodeSort t }⟩,
     ⟨"limit", false, fun q t => do return { q with limit := ← decodeOption decodeInt64 t }⟩,
     ⟨"offset", false, fun q t => do return { q with offset := ← decodeOption decodeInt64 t }⟩,
     ⟨"page", false, fun q t => do return { q with page := ← decodeOption decodeInt64 t }⟩,
     ⟨"filter", false, fun q t => do return { q with filter := ← decodeOption decodeFilter t }⟩,
     ⟨"search", false, fun q t => do return { q with search := ← decodeOption decodeText t }⟩]

def decode : Decoder Filter.ReadError Query := record.decode empty

/-- The query of a JSON text. -/
def read (text : String) : Except QueryError Query :=
  match decodeDocument decode text with
  | .ok q => .ok q
  | .error cause => .error (.invalid (.unreadable cause))

end Query

end PathQuery
