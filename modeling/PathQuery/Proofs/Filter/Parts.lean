import PathQuery.Filter.Basic

/-!
# Parts of filters

* `Filter.Forall` : what holds of all operators of a filter;
* `Filter.HasField` : the fields that a filter names, at any depth.

The children of a group count as one filter, as they do for the walks.
-/

namespace PathQuery.Filter

inductive Forall (O : Operator → Prop) : Filter → Prop where
  | nil : Forall O []
  | comparison {op v rest} (ho : O op) (hrest : Forall O rest) : Forall O (.comparison op v :: rest)
  | group {op children rest} (hgroup : Forall O children.flatten) (hrest : Forall O rest) :
      Forall O (.group op children :: rest)
  | field {segment nested rest} (hnested : Forall O nested) (hrest : Forall O rest) :
      Forall O (.field segment nested :: rest)

inductive HasField : Filter → String → Prop where
  | here {segment nested rest} : HasField (.field segment nested :: rest) segment.field
  | nested {segment nested rest s} (h : HasField nested s) :
      HasField (.field segment nested :: rest) s
  | group {op children rest s} (h : HasField children.flatten s) :
      HasField (.group op children :: rest) s
  | rest {node rest s} (h : HasField rest s) : HasField (node :: rest) s

variable {O : Operator → Prop}

theorem Forall.rest {node : Node} {f : Filter} (h : Forall O (node :: f)) : Forall O f := by
  cases h with
  | comparison _ hrest => exact hrest
  | group _ hrest => exact hrest
  | field _ hrest => exact hrest

theorem Forall.children {op : Sql.Logical} {children : List Filter} {f : Filter}
    (h : Forall O (.group op children :: f)) : Forall O children.flatten := by
  cases h with
  | group hgroup _ => exact hgroup

theorem Forall.nested {segment : Segment} {nested f : Filter}
    (h : Forall O (.field segment nested :: f)) : Forall O nested := by
  cases h with
  | field hnested _ => exact hnested

theorem Forall.comparisons {f : Filter} (h : Forall O f) : ∀ c ∈ f.comparisons, O c.1 := by
  induction h with
  | nil => exact fun c hc => absurd hc List.not_mem_nil
  | comparison ho _ ih =>
    intro c hc
    rcases List.mem_cons.1 hc with rfl | hc
    · exact ho
    · exact ih c hc
  | group _ _ _ ih => exact ih
  | field _ _ _ ih => exact ih

end PathQuery.Filter
