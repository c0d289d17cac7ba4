import PathQuery.Sql.Simplify

/-!
# Properties of built conditions

A property that constants have, and that `AND` and `OR` keep, goes from conditions to what the
connectives build from them (`Closed.conj`, `Closed.disj`, `Closed.all`). So does one that a
connective keeps as it combines two conditions (`Logical.all_induction`). A law for what is listed
of a condition is such a property (`Closed.forall_mem`).
-/

namespace PathQuery.Sql

/-- Whether a property of conditions holds of the constants and is kept by the connectives. -/
structure Predicate.Closed (P : Predicate → Prop) : Prop where
  const : ∀ b, P (.const b)
  and : ∀ p q, P p → P q → P (.and p q)
  or : ∀ p q, P p → P q → P (.or p q)

namespace Predicate.Closed

variable {P : Predicate → Prop} (hP : Closed P)

include hP

theorem conj {p q : Predicate} (hp : P p) (hq : P q) : P (p.conj q) := by
  unfold Predicate.conj
  split
  · exact hP.const false
  · exact hP.const false
  · exact hq
  · exact hp
  · split
    · exact hp
    · exact hP.and p q hp hq

theorem disj {p q : Predicate} (hp : P p) (hq : P q) : P (p.disj q) := by
  unfold Predicate.disj
  split
  · exact hP.const true
  · exact hP.const true
  · exact hq
  · exact hp
  · split
    · exact hp
    · exact hP.or p q hp hq

theorem extend {op : Logical} {o : Option Predicate} {p : Predicate} (ho : ∀ q ∈ o, P q) (hp : P p) :
    P (op.extend o p) := by
  cases o with
  | none => exact hp
  | some q =>
    cases op with
    | and => exact hP.conj (ho q rfl) hp
    | or => exact hP.disj (ho q rfl) hp

theorem foldl_push {g : Group} (hg : ∀ q ∈ g.condition, P q) {ps : List Predicate}
    (h : ∀ p ∈ ps, P p) : ∀ q ∈ (ps.foldl Group.push g).condition, P q := by
  induction ps generalizing g with
  | nil => exact hg
  | cons p ps ih =>
    refine ih ?_ fun q hq => h q (List.mem_cons_of_mem _ hq)
    rintro _ ⟨⟩
    exact hP.extend hg (h p List.mem_cons_self)

/-- What conditions come to under one connective. -/
theorem all {op : Logical} {ps : List Predicate} (h : ∀ p ∈ ps, P p) : ∀ q ∈ op.all ps, P q :=
  hP.foldl_push (fun q hq => absurd hq (Option.not_mem_none q)) h

/-- A condition that may be missing, with a constant in its place. -/
theorem getD {o : Option Predicate} (h : ∀ p ∈ o, P p) (b : Bool) : P (o.getD (.const b)) := by
  cases o with
  | none => exact hP.const b
  | some p => exact h p rfl

omit hP in
/-- A law for all that is listed of a condition, where the connectives list what is listed of both
sides. -/
theorem forall_mem {α : Type} {f : Predicate → List α} (hconst : ∀ b, f (.const b) = [])
    (hand : ∀ p q, f (.and p q) = f p ++ f q) (hor : ∀ p q, f (.or p q) = f p ++ f q) (law : α → Prop) :
    Closed fun p => ∀ a ∈ f p, law a where
  const b := by
    rw [hconst]
    exact List.forall_mem_nil _
  and p q hp hq := by
    rw [hand]
    exact List.forall_mem_append.2 ⟨hp, hq⟩
  or p q hp hq := by
    rw [hor]
    exact List.forall_mem_append.2 ⟨hp, hq⟩

end Predicate.Closed

namespace Logical

variable {op : Logical}

theorem foldl_push_induction {P : Predicate → Prop} (hop : ∀ p q, P p → P q → P (op.combine p q))
    {p : Predicate} (hp : P p) {ps : List Predicate} (h : ∀ q ∈ ps, P q) :
    ∃ r, (ps.foldl Group.push ⟨op, some p⟩).condition = some r ∧ P r := by
  induction ps generalizing p with
  | nil => exact ⟨p, rfl, hp⟩
  | cons q ps ih =>
    have hq := h q List.mem_cons_self
    exact ih (hop p q hp hq) fun r hr => h r (List.mem_cons_of_mem q hr)

/-- There is a condition under a connective as soon as there is one to combine. -/
theorem all_eq_none_iff {ps : List Predicate} : op.all ps = none ↔ ps = [] := by
  constructor
  · intro h
    cases ps with
    | nil => rfl
    | cons p ps =>
      obtain ⟨r, hr, -⟩ : ∃ r, op.all (p :: ps) = some r ∧ True :=
        foldl_push_induction (fun _ _ _ _ => trivial) trivial fun _ _ => trivial
      exact absurd (hr.symm.trans h) (Option.some_ne_none r)
  · rintro rfl
    rfl

/-- What a connective keeps as it combines two conditions holds of all of them combined. -/
theorem all_induction {P : Predicate → Prop} (hop : ∀ p q, P p → P q → P (op.combine p q))
    {ps : List Predicate} (h : ∀ p ∈ ps, P p) : ∀ q ∈ op.all ps, P q := by
  intro q hq
  cases ps with
  | nil => exact absurd hq (Option.not_mem_none q)
  | cons p ps =>
    obtain ⟨r, hr, hP⟩ := foldl_push_induction hop (h p List.mem_cons_self)
      fun q hq => h q (List.mem_cons_of_mem p hq)
    obtain rfl := Option.some.inj (hr.symm.trans hq)
    exact hP

end Logical

end PathQuery.Sql
