import PathQuery.Proofs.Filter.Paths

/-!
# The columns of a filter

* `Filter.columns` : the fields above comparisons alone, each with the hops that lead to it, in the
  order of a walk;
* `Schema.Defines` : whether hops lead to a collection that has a field.
-/

namespace PathQuery

mutual

/-- The columns of a node, behind the hops above them. A group that matches everything has none. -/
def Node.columns : Node → List (List Segment × Segment)
  | .comparison _ _ => []
  | .group op children => if Filter.matchesAll op children then [] else Filter.childColumns children
  | .field segment nested =>
    if Filter.isComparisons nested then [([], segment)]
    else (Filter.columns nested).map fun column => (segment :: column.1, column.2)

def Filter.columns : List Node → List (List Segment × Segment)
  | [] => []
  | node :: rest => Node.columns node ++ Filter.columns rest

def Filter.childColumns : List (List Node) → List (List Segment × Segment)
  | [] => []
  | child :: rest => Filter.columns child ++ Filter.childColumns rest

end

/-- Whether hops from a collection lead to one that has the field of a column. -/
def Schema.Defines (s : Schema) (c : String) (column : List Segment × Segment) : Prop :=
  ∃ c', s.destination? c column.1 = some c' ∧ (s.field? c' column.2.field).isSome = true

namespace Filter

theorem columns_append (f g : Filter) : columns (f ++ g) = columns f ++ columns g := by
  induction f with
  | nil => rfl
  | cons node f ih => rw [List.cons_append, columns, columns, ih, List.append_assoc]

theorem childColumns_eq (fs : List Filter) : childColumns fs = columns fs.flatten := by
  induction fs with
  | nil => rfl
  | cons f fs ih => rw [childColumns, ih, List.flatten_cons, columns_append]

end Filter

namespace Schema

variable {s : Schema} {c target : String} {segment : Segment} {hop : Hop}

/-- A column behind a hop is one behind the collection that the hop leads to. -/
theorem defines_cons_iff (hh : s.hop? c segment.field = some hop) (ht : hop.target s segment = .ok target)
    (hops : List Segment) (column : Segment) :
    s.Defines c (segment :: hops, column) ↔ s.Defines target (hops, column) := by
  rw [Defines, Defines, destination?_cons hh ht]

/-- All columns of a field that is a hop are defined as soon as those below it are. -/
theorem defines_field_iff {nested : Filter} (hc : Filter.isComparisons nested = false)
    (hh : s.hop? c segment.field = some hop) (ht : hop.target s segment = .ok target) :
    (∀ column ∈ Node.columns (.field segment nested), s.Defines c column) ↔
      ∀ column ∈ Filter.columns nested, s.Defines target column := by
  rw [Node.columns, hc, if_neg Bool.false_ne_true, List.forall_mem_map]
  exact forall₂_congr fun column _ => defines_cons_iff hh ht column.1 column.2

end Schema

end PathQuery
