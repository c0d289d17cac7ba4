import PathQuery.Filter.Operator
import PathQuery.Filter.Segment
import PathQuery.Json.Basic
import PathQuery.Sql.Basic

/-!
# Filters

A filter is a list of nodes, all of which must hold: groups of filters, comparisons, and fields with
a filter of their own. A field whose filter holds only comparisons is a column; any other field is a
relation, and its filter is about what the relation leads to.
-/

namespace PathQuery

inductive Node where
  | group (op : Sql.Logical) (children : List (List Node))
  | field (segment : Segment) (nested : List Node)
  /-- A comparison; null stands for no operand. -/
  | comparison (op : Operator) (operand : Json)

/-- A filter: the nodes that must all hold. -/
abbrev Filter := List Node

namespace Node

def isComparison : Node → Bool
  | .comparison _ _ => true
  | _ => false

def isField : Node → Bool
  | .field _ _ => true
  | _ => false

end Node

namespace Filter

/-- Whether every node is a comparison, which makes the field above a column. -/
def isComparisons (f : Filter) : Bool := f.all Node.isComparison

/-- The segment and the nested filter of a filter that is a single field. -/
def singleField? : Filter → Option (Segment × Filter)
  | [.field segment nested] => some (segment, nested)
  | _ => none

def comparisons (f : Filter) : List (Operator × Json) :=
  f.filterMap fun
    | .comparison op operand => some (op, operand)
    | _ => none

/-- Whether a group of these filters holds of everything: one of them asks for nothing. -/
def matchesAll (op : Sql.Logical) (children : List Filter) : Bool :=
  op == .or && children.any List.isEmpty

mutual

/-- Equality of nodes; operands are compared as JSON values. -/
def beqNode : Node → Node → Bool
  | .group op cs, .group op' cs' => op == op' && beqAll cs cs'
  | .field s f, .field s' f' => s == s' && beq f f'
  | .comparison op v, .comparison op' v' => op == op' && v == v'
  | _, _ => false

def beq : List Node → List Node → Bool
  | [], [] => true
  | n :: ns, n' :: ns' => beqNode n n' && beq ns ns'
  | _, _ => false

def beqAll : List (List Node) → List (List Node) → Bool
  | [], [] => true
  | f :: fs, f' :: fs' => beq f f' && beqAll fs fs'
  | _, _ => false

end

end Filter

end PathQuery
