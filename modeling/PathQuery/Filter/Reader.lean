import PathQuery.Filter.Basic
import PathQuery.Json.Printer

/-!
# Reading filters

A filter is written as an object. `_and` and `_or` hold lists of filters, the tokens of operators
hold operands and stand only below a field, and every other key that does not start with an
underscore is a field; a field whose value is no object is compared with it for equality.
Comparisons and fields do not stand side by side.
-/

namespace PathQuery

namespace Filter

inductive ReadError where
  | notObject (found : Json)
  | notList (key : String)
  | unknownOperator (token : String)
  | operatorWithoutField (op : Operator)
  | mixedLevels (found : Json)

def ReadError.message : ReadError → String
  | .notObject found => "Filter must be an object, found " ++ found.compact
  | .notList key => "\"" ++ key ++ "\" must be an array of filters"
  | .unknownOperator token => "Unknown filter operator \"" ++ token ++ "\""
  | .operatorWithoutField op => "Operator \"" ++ op.token ++ "\" must be applied to a field"
  | .mixedLevels found =>
    "Filter " ++ found.compact ++ " mixes operators and fields at the same level"

/-- What a key of a filter stands for. -/
inductive Key where
  | group (op : Sql.Logical)
  | operator (token : String)
  | field

def Key.of (key : String) : Key :=
  if key = "_and" then .group .and
  else if key = "_or" then .group .or
  else if key.toList.head? = some '_' then .operator key
  else .field

/-- Whether comparisons and fields stand side by side. -/
def isMixed (f : Filter) : Bool := f.any Node.isComparison && f.any Node.isField

def ofNodes (source : Json) (nodes : List Node) : Except ReadError Filter :=
  if isMixed nodes then .error (.mixedLevels source) else .ok nodes

/-- A comparison; at the root there is no field to compare. -/
def readComparison (root : Bool) (token : String) (operand : Json) : Except ReadError Node :=
  match Operator.ofToken? token with
  | none => .error (.unknownOperator token)
  | some op => if root then .error (.operatorWithoutField op) else .ok (.comparison op operand)

mutual

/-- The filter of a value; `root` says that no field stands above it. -/
def read (root : Bool) : Json → Except ReadError Filter
  | .object entries => do ofNodes (.object entries) (← readEntries root entries)
  | found => .error (.notObject found)

def readEntries (root : Bool) : List (String × Json) → Except ReadError (List Node)
  | [] => .ok []
  | (key, value) :: rest => do
    let node ←
      match Key.of key with
      | .group op =>
        match value with
        | .array children => do pure (Node.group op (← readChildren root children))
        | _ => .error (.notList key)
      | .operator token => readComparison root token value
      | .field =>
        match value with
        | .object _ => do pure (Node.field (.ofKey key) (← read false value))
        | operand => pure (Node.field (.ofKey key) [.comparison .eq operand])
    return node :: (← readEntries root rest)

def readChildren (root : Bool) : List Json → Except ReadError (List Filter)
  | [] => .ok []
  | value :: rest => do
    let child ← read root value
    return child :: (← readChildren root rest)

end

def ofJson (value : Json) : Except ReadError Filter := read true value

end Filter

end PathQuery
