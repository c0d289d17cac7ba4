/-!
# JSON values

* `Json` : a value; the entries of an object keep their order;
* `Json.Number` : an integer or a double, which are different values even where they are equal
  as numbers;
* `Json.beq` : equality of values, in which the order of an object's entries does not count and
  doubles are compared as numbers.
-/

namespace PathQuery

inductive Json.Number where
  | int (n : Int)
  | float (x : Float)

inductive Json where
  | null
  | bool (b : Bool)
  | number (n : Json.Number)
  | string (s : String)
  | array (items : List Json)
  | object (entries : List (String × Json))
  deriving Inhabited

namespace Json

def Number.beq : Number → Number → Bool
  | .int a, .int b => a == b
  | .float a, .float b => a == b
  | _, _ => false

mutual

/-- Equality of values, the order of entries left aside. -/
def beq : Json → Json → Bool
  | .null, .null => true
  | .bool a, .bool b => a == b
  | .number a, .number b => a.beq b
  | .string a, .string b => a == b
  | .array a, .array b => beqItems a b
  | .object a, .object b => a.length == b.length && beqEntries a b
  | _, _ => false

/-- Equality of items, place by place. -/
def beqItems : List Json → List Json → Bool
  | [], [] => true
  | a :: as, b :: bs => beq a b && beqItems as bs
  | _, _ => false

/-- Whether each entry has its like among the others. -/
def beqEntries : List (String × Json) → List (String × Json) → Bool
  | [], _ => true
  | (key, value) :: rest, others =>
    (match others.lookup key with
      | some other => beq value other
      | none => false) && beqEntries rest others

end

instance : BEq Json := ⟨beq⟩

def isNull : Json → Bool
  | .null => true
  | _ => false

end Json

end PathQuery
