import Mathlib.Data.String.Basic
import PathQuery.Comparison
import PathQuery.Proofs.Outcome
import PathQuery.Proofs.Sql.Truth

/-!
# Operators and their opposites

* `Operator.Opposes` : the pairs of operators of which the second asks the opposite of the first;
* `Opposed` : what comes of the two operators of a pair: both are refused for the same cause, or
  both ask nothing, or they put conditions on the column that are related;
* `Dialect.Orders` : whether a dialect compares values by their order.

Whether an operand can be used is up to the field's type and not to the operator
(`Target.alike_cast`), and what the second operator asks is as true as what the first one asks is
false, null cells included (`Target.compare_opposed`).
-/

namespace PathQuery

open Sql (Column Predicate Truth Dialect Database Env)

/-- The pairs of an operator and its opposite. -/
inductive Operator.Opposes : Operator → Operator → Prop where
  | equality : Opposes .eq .neq
  | nullness : Opposes .null .notNull
  | emptiness : Opposes .empty .notEmpty
  | containing : Opposes .contains .notContains
  | starting : Opposes .startsWith .notStartsWith
  | ending : Opposes .endsWith .notEndsWith
  | membership : Opposes .isIn .notIn
  | range : Opposes .between .notBetween
  | above : Opposes .gt .lte
  | below : Opposes .lt .gte

/-- What comes of two operators for a field: an error each with the same cause, nothing, or related
conditions. -/
inductive Opposed (field : String) (op op' : Operator) (R : Predicate → Predicate → Prop) :
    Except QueryError (Option Predicate) → Except QueryError (Option Predicate) → Prop where
  | refused (cause : CastError) : Opposed field op op' R (.error (.invalid (.badOperand field op cause)))
      (.error (.invalid (.badOperand field op' cause)))
  | nothing : Opposed field op op' R (.ok none) (.ok none)
  | asked {p q} (h : R p q) : Opposed field op op' R (.ok (some p)) (.ok (some q))

/-! ## Operands -/

namespace Target

variable {α : Type} (t : Target) (op op' : Operator)

/-- Whether two operators make the same of an operand, or can make nothing of it for the same
cause. -/
def Alike (x y : Except QueryError α) : Prop :=
  (∃ cause, x = .error (.invalid (.badOperand t.field op cause)) ∧
    y = .error (.invalid (.badOperand t.field op' cause))) ∨ ∃ a, x = .ok a ∧ y = .ok a

theorem alike_cast (v : Json) : t.Alike op op' (t.cast op v) (t.cast op' v) := by
  unfold cast
  cases castValue v t.type with
  | error cause => exact .inl ⟨cause, rfl, rfl⟩
  | ok p => exact .inr ⟨.param p, rfl, rfl⟩

/-- The first operand that cannot be used is the same for all operators. -/
theorem alike_mapM (vs : List Json) : t.Alike op op' (vs.mapM (t.cast op)) (vs.mapM (t.cast op')) := by
  induction vs with
  | nil => exact .inr ⟨[], rfl, rfl⟩
  | cons v vs ih =>
    rw [List.mapM_cons, List.mapM_cons]
    obtain ⟨cause, hv, hv'⟩ | ⟨c, hv, hv'⟩ := t.alike_cast op op' v
    · exact .inl ⟨cause, by rw [hv]; rfl, by rw [hv']; rfl⟩
    · rw [hv, hv']
      obtain ⟨cause, hvs, hvs'⟩ | ⟨cs, hvs, hvs'⟩ := ih
      · exact .inl ⟨cause, by rw [hvs]; rfl, by rw [hvs']; rfl⟩
      · exact .inr ⟨c :: cs, by rw [hvs]; rfl, by rw [hvs']; rfl⟩

variable {t op op'} {R : Predicate → Predicate → Prop}

/-- Operators that make related conditions of whatever they are given are opposed on an operand. -/
theorem opposed_cast (v : Json) {f f' : Column → Predicate} (h : ∀ c, R (f c) (f' c)) :
    Opposed t.field op op' R (do return some (f (← t.cast op v))) (do return some (f' (← t.cast op' v))) := by
  obtain ⟨cause, hv, hv'⟩ | ⟨c, hv, hv'⟩ := t.alike_cast op op' v
  · rw [hv, hv']
    exact .refused cause
  · rw [hv, hv']
    exact .asked (h c)

/-- The opposite test of the column itself is the negation, also where the operand turns both
around. -/
theorem nullness_negate (h : op = .null ∧ op' = .notNull ∨ op = .empty ∧ op' = .notEmpty) (v : Json) :
    t.nullness op' v = (t.nullness op v).negate := by
  obtain ⟨rfl, rfl⟩ | ⟨rfl, rfl⟩ := h <;>
    cases v with
    | bool b => cases b <;> rfl
    | _ => rfl

variable (hsigned : ∀ p, R (op.signed p) (op'.signed p)) (v : Json)
include hsigned

theorem opposed_like (hpattern : op.pattern = op'.pattern) :
    Opposed t.field op op' R (do return some (← t.like op v)) (do return some (← t.like op' v)) := by
  unfold like
  rw [hpattern]
  cases Cast.text v with
  | error cause => exact .refused cause
  | ok s => exact .asked (hsigned _)

theorem opposed_membership :
    Opposed t.field op op' R (do return some (← t.membership op v)) (do return some (← t.membership op' v)) := by
  unfold membership
  cases v.elements with
  | nil => exact .asked (hsigned _)
  | cons v vs =>
    dsimp only
    obtain ⟨cause, hvs, hvs'⟩ | ⟨cs, hvs, hvs'⟩ := t.alike_mapM op op' (v :: vs)
    · rw [hvs, hvs']
      exact .refused cause
    · rw [hvs, hvs']
      exact .asked (hsigned _)

theorem opposed_range : Opposed t.field op op' R (t.range op v) (t.range op' v) := by
  unfold range
  rcases v.elements with _ | ⟨low, _ | ⟨high, _ | ⟨w, ws⟩⟩⟩
  · exact .nothing
  · exact .nothing
  · dsimp only
    obtain ⟨cause, hl, hl'⟩ | ⟨l, hl, hl'⟩ := t.alike_cast op op' low
    · rw [hl, hl']
      exact .refused cause
    · rw [hl, hl']
      obtain ⟨cause, hh, hh'⟩ | ⟨h, hh, hh'⟩ := t.alike_cast op op' high
      · rw [hh, hh']
        exact .refused cause
      · rw [hh, hh']
        exact .asked (hsigned _)
  · exact .nothing

end Target

/-! ## Truths -/

section

variable {V : Type}

/-- Whether a dialect compares values by their order. -/
def Sql.Dialect.Orders [LinearOrder V] (d : Dialect V) : Prop := ∀ a b, d.less a b = decide (a < b)

variable [DecidableEq V] (d : Dialect V) (db : Database V) (e : Env V)

/-- Whether a condition is as true as another one is false, and unknown where that one is. -/
def Sql.Predicate.Negates (p q : Predicate) : Prop := q.truth d db e = (p.truth d db e).not

theorem negates_negate (p : Predicate) : p.Negates d db e p.negate := p.truth_negate

theorem negates_gt (c c' : Column) : (Predicate.compare .gt c c').Negates d db e (.compare .le c c') := by
  unfold Predicate.Negates
  rw [Predicate.truth, Predicate.truth, Dialect.compare, Dialect.compare]
  exact Truth.both_not (fun a b => d.less b a) _ _

theorem negates_lt (c c' : Column) : (Predicate.compare .lt c c').Negates d db e (.compare .ge c c') := by
  unfold Predicate.Negates
  rw [Predicate.truth, Predicate.truth, Dialect.compare, Dialect.compare]
  exact Truth.both_not d.less _ _

end

/-- What an operator asks of a column and what its opposite asks of it are refused for the same
cause, or are both nothing, or are conditions of which one is as true as the other is false, for
values in any linear order and null cells alike. -/
theorem Target.compare_opposed {V : Type} [LinearOrder V] {d : Dialect V} (hd : d.Orders) (db : Database V) (e : Env V)
    (t : Target) (g : Geometry) {op op' : Operator} (hop : op.Opposes op') (v : Json) :
    (∀ a b : V, d.compare .lt false [some a] [some b] = .ofBool (a < b) ∧
      d.compare .le false [some a] [some b] = .ofBool (a ≤ b) ∧
      d.compare .gt false [some a] [some b] = .ofBool (b < a) ∧
      d.compare .ge false [some a] [some b] = .ofBool (b ≤ a)) ∧
    Opposed t.field op op' (Predicate.Negates d db e) (t.compare g op v) (t.compare g op' v) := by
  constructor
  · intro a b
    have hnot (x y : V) : (!d.less x y) = decide (y ≤ x) := by
      rw [hd, ← decide_not, decide_eq_decide, not_lt]
    refine ⟨congrArg Truth.ofBool (hd a b), congrArg Truth.ofBool (hnot b a), congrArg Truth.ofBool (hd b a),
      congrArg Truth.ofBool (hnot a b)⟩
  · have hwith : Opposed t.field op op' (Predicate.Negates d db e) (t.compareWith g op v) (t.compareWith g op' v) := by
      cases hop with
      | equality => exact opposed_cast v fun c => negates_negate d db e (.equals t.column c)
      | nullness => exact .asked (nullness_negate (.inl ⟨rfl, rfl⟩) v ▸ negates_negate d db e _)
      | emptiness => exact .asked (nullness_negate (.inr ⟨rfl, rfl⟩) v ▸ negates_negate d db e _)
      | containing | starting | ending => exact opposed_like (negates_negate d db e) v rfl
      | membership => exact opposed_membership (negates_negate d db e) v
      | range => exact opposed_range (negates_negate d db e) v
      | above => exact opposed_cast v fun c => negates_gt d db e t.column c
      | below => exact opposed_cast v fun c => negates_lt d db e t.column c
    have hnullness : op'.isNullness = op.isNullness := by cases hop <;> rfl
    unfold Target.compare
    rw [hnullness]
    split
    · exact .nothing
    · exact hwith

/-- Of a title after a word: what asks for titles after that word and what asks for titles up to it,
and what asks for one of two other titles and what asks for none of them. -/
theorem Target.compare_opposed_title :
    let title : Target := ⟨.field "articles" "title", "title", some .string⟩
    let listed : Json := .array [.string "mars", .string "moon"]
    let novel : Env String := fun _ _ => some "novel"
    Dialect.words.Orders ∧ Operator.Opposes .gt .lte ∧ Operator.Opposes .isIn .notIn ∧
      Opposed "title" .gt .lte (Predicate.Negates .words (fun _ => []) novel)
        (title.compare .postgis .gt (.string "mars")) (title.compare .postgis .lte (.string "mars")) ∧
      (Predicate.compare .gt title.column (.param (.text "mars"))).truth .words (fun _ => []) novel = .true ∧
      ∃ p q, title.compare .postgis .isIn listed = .ok (some p) ∧ title.compare .postgis .notIn listed = .ok (some q) ∧
        p.truth .words (fun _ => []) novel = .false ∧ q.truth .words (fun _ => []) novel = .true := by
  intro title listed novel
  have horders : Dialect.words.Orders := fun _ _ => rfl
  have habove := Target.compare_opposed horders (fun _ => []) novel title .postgis .above (.string "mars")
  have hmembership := Target.compare_opposed horders (fun _ => []) novel title .postgis .membership listed
  have hnovel := (habove.1 "novel" "mars").2.2.1
  have hnegates {p q : Predicate} (hp : title.compare .postgis .isIn listed = .ok (some p))
      (hq : title.compare .postgis .notIn listed = .ok (some q)) : p.Negates .words (fun _ => []) novel q := by
    have h := hmembership.2
    rw [hp, hq] at h
    cases h with
    | asked h => exact h
  refine ⟨horders, .above, .membership, habove.2, hnovel.trans (by decide +kernel), _, _, rfl, rfl, rfl, ?_⟩
  exact (hnegates rfl rfl).trans rfl

end PathQuery
