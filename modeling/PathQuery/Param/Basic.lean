import PathQuery.Calendar.Basic
import PathQuery.Json.Basic
import PathQuery.Uuid

/-!
# Statement parameters

* `Param` : a value that a statement binds in place of a placeholder;
* `Param.beq` : equality of parameters, which need the same type and equal values. Doubles and JSON
  values are compared as such, so not every parameter equals itself.
-/

namespace PathQuery

/-- A value bound to a placeholder. -/
inductive Param where
  | int4 (n : Int32)
  | int8 (n : Int64)
  | float8 (x : Float)
  | bool (b : Bool)
  | text (s : String)
  | uuid (u : Uuid)
  | date (d : Calendar.Date)
  | time (t : Calendar.TimeOfDay)
  | dateTime (t : Calendar.DateTime)
  /-- A moment, as a date and time in UTC. -/
  | timestamp (utc : Calendar.DateTime)
  | json (v : Json)

namespace Param

def beq : Param → Param → Bool
  | .int4 a, .int4 b => a == b
  | .int8 a, .int8 b => a == b
  | .float8 a, .float8 b => a == b
  | .bool a, .bool b => a == b
  | .text a, .text b => a == b
  | .uuid a, .uuid b => a == b
  | .date a, .date b => a == b
  | .time a, .time b => a == b
  | .dateTime a, .dateTime b => a == b
  | .timestamp a, .timestamp b => a == b
  | .json a, .json b => a == b
  | _, _ => false

instance : BEq Param := ⟨beq⟩

end Param

end PathQuery
