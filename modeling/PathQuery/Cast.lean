import PathQuery.Calendar.Reader
import PathQuery.Json.Printer
import PathQuery.Param.Basic
import PathQuery.Schema.Basic
import PathQuery.Text.Blank

/-!
# Operands as parameters

`castValue` turns an operand into the parameter of the type that belongs to a field: numbers and
booleans may be given as text, times in several forms, and whatever has no type of its own is bound
as text. Without a field type the operand keeps its own type.
-/

namespace PathQuery

/-- Why an operand is not a value of a field's type. -/
inductive CastError where
  | null
  | notText (found : Json)
  | notInteger (found : Json)
  | integerNumber (n : Json.Number)
  | integerText (s : String)
  | integerRange (n : Int)
  | notNumber (found : Json)
  | numberText (s : String)
  | notBoolean (found : Json)
  | booleanNumber (n : Json.Number)
  | booleanText (s : String)
  | notUuid (found : Json)
  | uuid (cause : Uuid.ReadError)
  | notMoment (found : Json)
  | dateText (s : String)
  | timeText (s : String)

def CastError.message : CastError → String
  | .null => "Null cannot be bound as a value"
  | .notText found => "Expected a string, number, or boolean, found " ++ found.compact
  | .notInteger found => "Expected an integer, found " ++ found.compact
  | .integerNumber n => "Failed to cast " ++ n.toText ++ " to an integer"
  | .integerText s => "Could not parse \"" ++ s ++ "\" as an integer"
  | .integerRange n =>
    "Integer overflow: " ++ Numeral.ofInt n ++ " is out of range for a 32-bit integer"
  | .notNumber found => "Expected a number, found " ++ found.compact
  | .numberText s => "Could not parse \"" ++ s ++ "\" as a number"
  | .notBoolean found => "Expected a boolean, found " ++ found.compact
  | .booleanNumber n => "Could not cast " ++ n.toText ++ " to a boolean"
  | .booleanText s => "Could not parse \"" ++ s ++ "\" as a boolean"
  | .notUuid found => "Expected a UUID, found " ++ found.compact
  | .uuid cause => cause.message
  | .notMoment found => "Expected a date or time, found " ++ found.compact
  | .dateText s => "Could not parse " ++ s ++ " as a valid date or date-time"
  | .timeText s => "Could not parse " ++ s ++ " as a valid time-only format"

namespace Cast

def boolText (b : Bool) : String := if b then "true" else "false"

/-- The text of a string, number or boolean. -/
def text : Json → Except CastError String
  | .string s => .ok s
  | .number n => .ok n.toText
  | .bool b => .ok (boolText b)
  | found => .error (.notText found)

def natural : Json → Param
  | .string s => .text s
  | .number n =>
    match n.toInt64? with
    | some k => .int8 (Int64.ofInt k)
    | none => .float8 n.toFloat
  | .bool b => .bool b
  | v => .json v

/-- An integer of 64 bits. -/
def integer : Json → Except CastError Int
  | .number n =>
    match n.toInt64? with
    | some k => .ok k
    | none => .error (.integerNumber n)
  | .string s =>
    match Numeral.readInt64 (Text.trim s) with
    | .ok k => .ok k
    | .error _ => .error (.integerText s)
  | found => .error (.notInteger found)

/-- An integer of 32 bits. -/
def smallInteger (v : Json) : Except CastError Int := do
  let k ← integer v
  if Numeral.fitsInt32 k then .ok k else .error (.integerRange k)

def float : Json → Except CastError Float
  | .number n => .ok n.toFloat
  | .string s =>
    match Numeral.readFloat? (Text.trim s) with
    | some x => .ok x
    | none => .error (.numberText s)
  | found => .error (.notNumber found)

def boolean : Json → Except CastError Bool
  | .bool b => .ok b
  | .string s =>
    if s = "true" ∨ s = "1" then .ok true
    else if s = "false" ∨ s = "0" then .ok false
    else .error (.booleanText s)
  | .number n =>
    match n.toInt64? with
    | some 1 => .ok true
    | some 0 => .ok false
    | _ => .error (.booleanNumber n)
  | found => .error (.notBoolean found)

def uuid : Json → Except CastError Uuid
  | .string s =>
    match Uuid.read s with
    | .ok u => .ok u
    | .error cause => .error (.uuid cause)
  | found => .error (.notUuid found)

/-! ## Dates and times -/

open Calendar

/-- A date with a time of day, with or without an offset from UTC. -/
inductive Moment where
  | offset (t : OffsetDateTime)
  | plain (t : DateTime)

namespace Moment

/-- The moment that a text writes; a text with an offset is tried first. -/
def read? (s : String) : Option Moment :=
  match readOffsetDateTime? s with
  | some t => some (.offset t)
  | none => (readDateTime? s).map .plain

/-- The date and time as written. -/
def civil : Moment → DateTime
  | .offset t => t.civil
  | .plain t => t

/-- The moment in UTC; without offset it is taken as UTC. -/
def utc : Moment → DateTime
  | .offset t => t.utc
  | .plain t => t

end Moment

/-- The moment that a text writes; a date alone is its midnight. -/
def moment (s : String) : Except CastError Moment :=
  match Moment.read? s with
  | some m => .ok m
  | none =>
    match readDate? s with
    | some d => .ok (.plain ⟨d, .midnight⟩)
    | none => .error (.dateText s)

/-- The time of day that a text writes, alone or behind a date. -/
def timeOfDay (s : String) : Except CastError TimeOfDay :=
  match Moment.read? s with
  | some m => .ok m.civil.time
  | none =>
    match readTimeOfDay? s with
    | some t => .ok t
    | none => .error (.timeText s)

def momentText : Json → Except CastError String
  | .string s => .ok s
  | found => .error (.notMoment found)

end Cast

/-- The parameter of a field's type that an operand stands for. -/
def castValue (v : Json) (type : Option FieldType) : Except CastError Param :=
  if v.isNull then .error .null
  else
    match type with
    | none => .ok (Cast.natural v)
    | some .integer => do return .int4 (Int32.ofInt (← Cast.smallInteger v))
    | some .bigInteger => do return .int8 (Int64.ofInt (← Cast.integer v))
    | some .float => do return .float8 (← Cast.float v)
    | some .decimal => do return .float8 (← Cast.float v)
    | some .boolean => do return .bool (← Cast.boolean v)
    | some .uuid => do return .uuid (← Cast.uuid v)
    | some .date => do return .date (← Cast.moment (← Cast.momentText v)).civil.date
    | some .dateTime => do return .dateTime (← Cast.moment (← Cast.momentText v)).civil
    | some .timestamp => do return .timestamp (← Cast.moment (← Cast.momentText v)).utc
    | some .time => do return .time (← Cast.timeOfDay (← Cast.momentText v))
    | some .json => .ok (.json v)
    | some .geometry =>
      match v with
      | .object _ => .ok (.text v.compact)
      | v => do return .text (← Cast.text v)
    | some _ => do return .text (← Cast.text v)

end PathQuery
