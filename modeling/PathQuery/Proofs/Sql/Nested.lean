import PathQuery.Proofs.Sql.Simplify

/-!
# Statements inside conditions

* `Column.isScalar` : whether no statement stands in a column;
* `Predicate.Nests` : whether the only statements in a condition are those that a column is looked
  for in by `IN`, each of them as a law allows for the column.
-/

namespace PathQuery.Sql

mutual

/-- Whether no statement stands in a column. -/
def Column.isScalar : Column → Bool
  | .field _ _ => true
  | .param _ => true
  | .list items => Column.allScalar items
  | .query _ => false
  | .null => true
  | .call _ argument => argument.isScalar

def Column.allScalar : List Column → Bool
  | [] => true
  | c :: cs => c.isScalar && Column.allScalar cs

end

theorem Column.allScalar_eq (cs : List Column) : Column.allScalar cs = cs.all Column.isScalar := by
  induction cs with
  | nil => rfl
  | cons c cs ih => rw [allScalar, ih, List.all_cons]

/-- Whether statements stand in a condition only where a column is looked for in them, as the law
allows. -/
inductive Predicate.Nests (law : Column → Select → Prop) : Predicate → Prop where
  | const {b} : Nests law (.const b)
  | membership {c s} (h : law c s) : Nests law (.compare .isIn c (.query s))
  | compare {op l r} (hl : l.isScalar = true) (hr : r.isScalar = true) : Nests law (.compare op l r)
  | between {c low high} (hc : c.isScalar = true) (hlow : low.isScalar = true) (hhigh : high.isScalar = true) :
      Nests law (.between c low high)
  | raw {fragments} (h : ∀ c, .column c ∈ fragments → c.isScalar = true) : Nests law (.raw fragments)
  | and {p q} (hp : Nests law p) (hq : Nests law q) : Nests law (.and p q)
  | or {p q} (hp : Nests law p) (hq : Nests law q) : Nests law (.or p q)
  | not {p} (hp : Nests law p) : Nests law (.not p)

variable {law law' : Column → Select → Prop}

theorem Predicate.closed_nests : Closed (Predicate.Nests law) where
  const := fun _ => .const
  and := fun _ _ hp hq => .and hp hq
  or := fun _ _ hp hq => .or hp hq

theorem Predicate.Nests.mono {p : Predicate} (h : p.Nests law) (hlaw : ∀ c s, law c s → law' c s) :
    p.Nests law' := by
  induction h with
  | const => exact .const
  | membership hc => exact .membership (hlaw _ _ hc)
  | compare hl hr => exact .compare hl hr
  | between hc hlow hhigh => exact .between hc hlow hhigh
  | raw hc => exact .raw hc
  | and _ _ ihp ihq => exact .and ihp ihq
  | or _ _ ihp ihq => exact .or ihp ihq
  | not _ ih => exact .not ih

end PathQuery.Sql
