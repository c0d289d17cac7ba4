/-!
# Comparison operators

The operators of filters, with their tokens. `Operator.ofToken?` reads exactly the tokens.
-/

namespace PathQuery

inductive Operator where
  | eq
  | neq
  | null
  | notNull
  | empty
  | notEmpty
  | contains
  | notContains
  | startsWith
  | notStartsWith
  | endsWith
  | notEndsWith
  | gt
  | gte
  | lt
  | lte
  | isIn
  | notIn
  | between
  | notBetween
  | intersects
  | notIntersects
  | intersectsBox
  | notIntersectsBox
  deriving DecidableEq, Repr

namespace Operator

def token : Operator → String
  | .eq => "_eq"
  | .neq => "_neq"
  | .null => "_null"
  | .notNull => "_nnull"
  | .empty => "_empty"
  | .notEmpty => "_nempty"
  | .contains => "_contains"
  | .notContains => "_ncontains"
  | .startsWith => "_starts_with"
  | .notStartsWith => "_nstarts_with"
  | .endsWith => "_ends_with"
  | .notEndsWith => "_nends_with"
  | .gt => "_gt"
  | .gte => "_gte"
  | .lt => "_lt"
  | .lte => "_lte"
  | .isIn => "_in"
  | .notIn => "_nin"
  | .between => "_between"
  | .notBetween => "_nbetween"
  | .intersects => "_intersects"
  | .notIntersects => "_nintersects"
  | .intersectsBox => "_intersects_bbox"
  | .notIntersectsBox => "_nintersects_bbox"

def ofToken? : String → Option Operator
  | "_eq" => some .eq
  | "_neq" => some .neq
  | "_null" => some .null
  | "_nnull" => some .notNull
  | "_empty" => some .empty
  | "_nempty" => some .notEmpty
  | "_contains" => some .contains
  | "_ncontains" => some .notContains
  | "_starts_with" => some .startsWith
  | "_nstarts_with" => some .notStartsWith
  | "_ends_with" => some .endsWith
  | "_nends_with" => some .notEndsWith
  | "_gt" => some .gt
  | "_gte" => some .gte
  | "_lt" => some .lt
  | "_lte" => some .lte
  | "_in" => some .isIn
  | "_nin" => some .notIn
  | "_between" => some .between
  | "_nbetween" => some .notBetween
  | "_intersects" => some .intersects
  | "_nintersects" => some .notIntersects
  | "_intersects_bbox" => some .intersectsBox
  | "_nintersects_bbox" => some .notIntersectsBox
  | _ => none

/-- Operators that test the field itself and apply even without an operand. -/
def isNullness : Operator → Bool
  | .null => true
  | .notNull => true
  | .empty => true
  | .notEmpty => true
  | _ => false

theorem ofToken?_token (op : Operator) : ofToken? op.token = some op := by
  cases op <;> rfl

theorem eq_token_of_ofToken? {s : String} {op : Operator} (h : ofToken? s = some op) :
    s = op.token := by
  unfold ofToken? at h
  split at h <;> simp at h <;> subst h <;> rfl

end Operator

end PathQuery
