import PathQuery.Environment

/-!
# Configuration

`Config` limits what queries may ask for; `Config.ofEnvironment` reads it from three variables.
-/

namespace PathQuery

structure Config where
  /-- Greatest limit accepted, which also stands for no limit. -/
  maxLimit : Option Int64
  /-- Greatest number of hops in a path. -/
  maxRelationalDepth : Nat
  /-- Whether fields must be in the schema. -/
  strictFields : Bool
  deriving DecidableEq

namespace Config

/-- No limit, ten hops, any fields. -/
def default : Config := ⟨none, 10, false⟩

instance : Inhabited Config := ⟨default⟩

def limitKey : String := "CMS_QUERY_LIMIT_MAX"

def depthKey : String := "CMS_MAX_RELATIONAL_DEPTH"

def strictKey : String := "CMS_QUERY_STRICT_FIELDS"

/-- The cap that a number sets: -1 sets none. -/
def cap (limit : Option Int) : Except EnvironmentError (Option Int64) :=
  match limit with
  | none => .ok none
  | some n =>
    if n = -1 then .ok none
    else if 0 < n then .ok (some (Int64.ofInt n))
    else .error (.invalid limitKey (Numeral.ofInt n) "expected a positive integer or -1")

def ofEnvironment (e : Environment) : Except EnvironmentError Config := do
  let readLimit := Environment.readInt Int64.minValue.toInt Int64.maxValue.toInt
  let maxLimit ← cap (← e.parsed readLimit limitKey)
  let depth ← e.parsed (Environment.readInt 0 (UInt64.size - 1)) depthKey
  let strict ← e.enabled strictKey default.strictFields
  return ⟨maxLimit, (depth.map Int.toNat).getD default.maxRelationalDepth, strict⟩

end Config

end PathQuery
