import PathQuery.Numeral.Integer
import PathQuery.Text.Blank
import PathQuery.Text.LowerCase

/-!
# Environments

An environment gives texts to some names. `Environment.enabled` reads a switch and
`Environment.parsed` a value of another type; a blank value counts as none there.
-/

namespace PathQuery

structure Environment where
  get : String → Option String

inductive EnvironmentError where
  | notBoolean (key value : String)
  | invalid (key value cause : String)
  deriving DecidableEq, Repr

def EnvironmentError.message : EnvironmentError → String
  | .notBoolean key value =>
    "Invalid value for " ++ key ++ ": " ++ value ++
      ". Expected true, 1, yes, on, enabled, enable OR false, 0, no, off, disabled, disable"
  | .invalid key value cause =>
    "Invalid value for " ++ key ++ ": " ++ value ++ " (" ++ cause ++ ")"

namespace Environment

def empty : Environment := ⟨fun _ => none⟩

def set (e : Environment) (key value : String) : Environment :=
  ⟨fun k => if k = key then some value else e.get k⟩

/-- The environment of some entries; the last one of a name counts. -/
def ofList (entries : List (String × String)) : Environment :=
  entries.foldl (fun e p => e.set p.1 p.2) empty

def switch? (word : String) : Option Bool :=
  if word ∈ ["true", "1", "yes", "on", "enabled", "enable"] then some true
  else if word ∈ ["false", "0", "no", "off", "disabled", "disable"] then some false
  else none

/-- Whether a switch is on; `default` if it is not set. -/
def enabled (e : Environment) (key : String) (default : Bool) : Except EnvironmentError Bool :=
  match e.get key with
  | none => .ok default
  | some value =>
    match switch? (Text.toLower value) with
    | some b => .ok b
    | none => .error (.notBoolean key value)

/-- The value of a name as `read` takes it, without white space around it. -/
def parsed (e : Environment) (read : String → Except String α) (key : String) :
    Except EnvironmentError (Option α) :=
  match e.get key with
  | none => .ok none
  | some value =>
    if Text.isBlankText value then .ok none
    else
      match read (Text.trim value) with
      | .ok a => .ok (some a)
      | .error cause => .error (.invalid key value cause)

def readInt (lo hi : Int) (s : String) : Except String Int :=
  (Numeral.readInt lo hi s).mapError Numeral.IntegerError.message

def readBool (s : String) : Except String Bool :=
  if s = "true" then .ok true
  else if s = "false" then .ok false
  else .error "provided string was not `true` or `false`"

end Environment

end PathQuery
