import PathQuery.Proofs.Compile.Plan
import PathQuery.Proofs.Schema.Names
import PathQuery.Proofs.Sql.Scope

/-!
# Passes over one draft

A pass keeps its own aliases apart and knows nothing of the draft that it is for.

* `Plan.Drawn` : the aliases of joins are tokens drawn since, which `aliases_of_compileFilter` says
  of a pass;
* `joins_of_compileFilter` : a draft takes the joins of a pass whose aliases it does not have, and
  no others;
* `Passes` : any number of passes, each of which draws where the last one ended.

A source that hands out a token once more makes a draft lose joins (`joins_lost_of_repeated`). From
one that never does, no pass of a run loses any (`Passes.joins_eq`).
-/

namespace PathQuery

open Sql (Draft Join)

variable {setting : Setting} {subquery : Bool}

/-! ## Tokens drawn -/

/-- Whether the joins that a plan has more than another go by tokens that were drawn since. -/
structure Plan.Drawn (source : AliasSource) (p p' : Plan) : Prop where
  le : p.draws ≤ p'.draws
  joins : ∀ j ∈ p'.joins, j ∈ p.joins ∨ ∃ i, p.draws ≤ i ∧ i < p'.draws ∧ j.aliasName = source.token i

namespace Plan.Drawn

variable {source : AliasSource} {p p' p'' : Plan}

theorem refl (p : Plan) : p.Drawn source p := ⟨Nat.le_refl _, fun _ hj => .inl hj⟩

theorem trans (h : p.Drawn source p') (h' : p'.Drawn source p'') : p.Drawn source p'' where
  le := Nat.le_trans h.le h'.le
  joins := by
    intro j hj
    rcases h'.joins j hj with hj | ⟨i, hle, hlt, hi⟩
    · rcases h.joins j hj with hj | ⟨i, hle, hlt, hi⟩
      · exact .inl hj
      · exact .inr ⟨i, hle, Nat.lt_of_lt_of_le hlt h'.le, hi⟩
    · exact .inr ⟨i, Nat.le_trans h.le hle, hlt, hi⟩

end Plan.Drawn

theorem Plan.Extends.drawn {hop : Hop} {segment : Segment} {c target : String} {path : Path} {p p' : Plan}
    (h : p.Extends setting hop segment c path target p') : p.Drawn setting.source p' := by
  cases h with
  | known ha => exact .refl p
  | @joins n on draws hn hf ho hle hlt =>
    refine ⟨Nat.le_trans hle (Nat.le_of_lt hlt), List.forall_mem_append.2 ⟨fun j hj => .inl hj, ?_⟩⟩
    exact List.forall_mem_singleton.2 (.inr ⟨n, hle, hlt, rfl⟩)

theorem Plans.drawn {c : String} {path : Path} {f : Filter} {p p' : Plan}
    (h : Plans setting subquery c path f p p') : p.Drawn setting.source p' := by
  induction h with
  | nil => exact .refl _
  | comparison _ ih => exact ih
  | everything _ _ ih => exact ih
  | group _ _ _ ihgroup ihrest => exact ihgroup.trans ihrest
  | column _ _ ih => exact ih
  | unrelated _ _ _ ih => exact ih
  | deferred _ _ _ _ ih => exact ih
  | hop _ _ _ _ ha _ _ ihnested ihrest => exact ha.drawn.trans (ihnested.trans ihrest)

theorem le_of_planJoins {c : String} {f : Filter} {n : Nat} {plan : Plan}
    (h : planJoins setting subquery c f n = .ok plan) : n ≤ plan.draws :=
  (plans_of_planJoins h).drawn.le

mutual

theorem le_of_nodeConditions {pass : Pass} {c : String} {path : Path} {d d' : Nat} {ps : List Sql.Predicate} :
    (n : Node) → nodeConditions setting pass c path n d = .ok (ps, d') → d ≤ d'
  | .comparison op v, h => by
    rw [nodeConditions] at h
    exact absurd h (by simp)
  | .group op children, h => by
    rw [nodeConditions] at h
    split at h
    next =>
      obtain ⟨-, rfl⟩ := Prod.mk.inj (Except.ok.inj h)
      exact Nat.le_refl _
    next =>
      obtain ⟨⟨qs, e⟩, hq, h⟩ := exists_of_bind_eq_ok h
      obtain ⟨-, rfl⟩ := Prod.mk.inj (Except.ok.inj h)
      exact le_of_childConditions children hq
  | .field segment nested, h => by
    rw [nodeConditions] at h
    obtain ⟨⟨⟩, -, h⟩ := exists_of_bind_eq_ok h
    split at h
    next =>
      obtain ⟨qs, -, h⟩ := exists_of_bind_eq_ok h
      obtain ⟨-, rfl⟩ := Prod.mk.inj (Except.ok.inj h)
      exact Nat.le_refl _
    next =>
      obtain ⟨hop, -, h⟩ := exists_of_bind_eq_ok h
      split at h
      next =>
        obtain ⟨key, -, h⟩ := exists_of_bind_eq_ok h
        obtain ⟨plan, hp, h⟩ := exists_of_bind_eq_ok h
        obtain ⟨⟨qs, e⟩, hq, h⟩ := exists_of_bind_eq_ok h
        obtain ⟨-, rfl⟩ := Prod.mk.inj (Except.ok.inj h)
        exact Nat.le_trans (le_of_planJoins hp) (le_of_conditions nested hq)
      next =>
        obtain ⟨target, -, h⟩ := exists_of_bind_eq_ok h
        exact le_of_conditions nested h

theorem le_of_conditions {pass : Pass} {c : String} {path : Path} {d d' : Nat} {ps : List Sql.Predicate} :
    (f : List Node) → conditions setting pass c path f d = .ok (ps, d') → d ≤ d'
  | [], h => by
    rw [conditions] at h
    obtain ⟨-, rfl⟩ := Prod.mk.inj (Except.ok.inj h)
    exact Nat.le_refl _
  | n :: rest, h => by
    rw [conditions] at h
    obtain ⟨⟨qs, e⟩, hq, h⟩ := exists_of_bind_eq_ok h
    obtain ⟨⟨rs, e'⟩, hr, h⟩ := exists_of_bind_eq_ok h
    obtain ⟨-, rfl⟩ := Prod.mk.inj (Except.ok.inj h)
    exact Nat.le_trans (le_of_nodeConditions n hq) (le_of_conditions rest hr)

theorem le_of_childConditions {pass : Pass} {c : String} {path : Path} {d d' : Nat} {ps : List Sql.Predicate} :
    (fs : List (List Node)) → childConditions setting pass c path fs d = .ok (ps, d') → d ≤ d'
  | [], h => by
    rw [childConditions] at h
    obtain ⟨-, rfl⟩ := Prod.mk.inj (Except.ok.inj h)
    exact Nat.le_refl _
  | f :: fs, h => by
    rw [childConditions] at h
    obtain ⟨⟨qs, e⟩, hq, h⟩ := exists_of_bind_eq_ok h
    obtain ⟨⟨rs, e'⟩, hr, h⟩ := exists_of_bind_eq_ok h
    obtain ⟨-, rfl⟩ := Prod.mk.inj (Except.ok.inj h)
    exact Nat.le_trans (le_of_conditions f hq) (le_of_childConditions fs hr)

end

/-- The joins of a pass have different aliases, which are tokens drawn in the pass. -/
theorem aliases_of_compileFilter {c : String} {f : Filter} {n n' : Nat} {compiled : Compiled}
    (h : compileFilter setting subquery c f n = .ok (compiled, n')) :
    (compiled.joins.map Join.aliasName).Nodup ∧ n ≤ n' ∧
      ∀ j ∈ compiled.joins, ∃ i, n ≤ i ∧ i < n' ∧ j.aliasName = setting.source.token i := by
  unfold compileFilter at h
  obtain ⟨plan, hp, h⟩ := exists_of_bind_eq_ok h
  obtain ⟨⟨ps, m⟩, hc, h⟩ := exists_of_bind_eq_ok h
  obtain ⟨rfl, rfl⟩ := Prod.mk.inj (Except.ok.inj h)
  have hplans := plans_of_planJoins hp
  have hle := le_of_conditions f hc
  refine ⟨(hplans.sound (Plan.sound_start c n)).nodup.of_cons, Nat.le_trans (le_of_planJoins hp) hle, ?_⟩
  intro j hj
  rcases hplans.drawn.joins j hj with hj | ⟨i, hi, hlt, ha⟩
  · exact absurd hj List.not_mem_nil
  · exact ⟨i, hi, Nat.lt_of_lt_of_le hlt hle, ha⟩

/-! ## One pass -/

section Pass

variable {c : String} {f : Filter} {n n' : Nat} {compiled : Compiled}

theorem Compiled.joins_apply (compiled : Compiled) (d : Draft) :
    (compiled.apply d).joins = (compiled.joins.foldl Draft.addJoin d).joins := by
  unfold Compiled.apply
  cases compiled.condition <;> rfl

theorem joins_apply_of_compileFilter (h : compileFilter setting subquery c f n = .ok (compiled, n')) (d : Draft) :
    (compiled.apply d).joins = d.joins ++ compiled.joins.filter fun j => !d.hasJoin j.aliasName := by
  rw [compiled.joins_apply, Draft.foldl_addJoin (aliases_of_compileFilter h).1]

theorem nodup_apply_of_compileFilter (h : compileFilter setting subquery c f n = .ok (compiled, n')) {d : Draft}
    (hd : (d.joins.map Join.aliasName).Nodup) : ((compiled.apply d).joins.map Join.aliasName).Nodup := by
  rw [joins_apply_of_compileFilter h, List.map_append]
  refine hd.append ((aliases_of_compileFilter h).1.sublist (List.filter_sublist.map _)) ?_
  intro a ha hnew
  obtain ⟨j, hj, rfl⟩ := List.mem_map.1 hnew
  simp [Draft.hasJoin_iff.2 ha] at hj

/-- A draft keeps its joins and takes those of a pass whose aliases it does not have, so aliases
that were different still are. It takes all of them exactly if it has none of their aliases, which
are tokens drawn in the pass. -/
theorem joins_of_compileFilter (h : compileFilter setting subquery c f n = .ok (compiled, n')) (d : Draft) :
    (compiled.apply d).joins = d.joins ++ compiled.joins.filter (fun j => !d.hasJoin j.aliasName) ∧
      ((d.joins.map Join.aliasName).Nodup → ((compiled.apply d).joins.map Join.aliasName).Nodup) ∧
      ((compiled.apply d).joins = d.joins ++ compiled.joins ↔
        ∀ j ∈ compiled.joins, d.hasJoin j.aliasName = false) ∧
      ∀ j ∈ compiled.joins, ∃ i, n ≤ i ∧ i < n' ∧ j.aliasName = setting.source.token i := by
  have hjoins := joins_apply_of_compileFilter h d
  refine ⟨hjoins, nodup_apply_of_compileFilter h, ?_, (aliases_of_compileFilter h).2.2⟩
  rw [hjoins, List.append_cancel_left_eq, List.filter_eq_self]
  exact forall₂_congr fun j _ => by rw [Bool.not_eq_true']

/-- Blocks on a page. -/
def Filter.onPage : Filter := [.field (.mk "page" none) [.field (.mk "id" none) [.comparison .eq (.string "home")]]]

/-- Blocks that show a heading of a text. -/
def Filter.showing : Filter :=
  [.field (.mk "item" (some "headings")) [.field (.mk "text" none) [.comparison .eq (.string "News")]]]

/-- A draft takes the join of a second pass, which draws where the first one ended. -/
theorem joins_of_compileFilter_showing : ∃ first second,
    compileFilter (.default .layout) false "blocks" .onPage 0 = .ok (first, 1) ∧
    compileFilter (.default .layout) false "blocks" .showing 1 = .ok (second, 2) ∧
    (second.apply (first.apply (.new "blocks"))).joins = (first.apply (.new "blocks")).joins ++ second.joins := by
  obtain ⟨first, second, hfirst, hsecond, hnew⟩ : ∃ first second,
      compileFilter (.default .layout) false "blocks" .onPage 0 = .ok (first, 1) ∧
      compileFilter (.default .layout) false "blocks" .showing 1 = .ok (second, 2) ∧
      ∀ j ∈ second.joins, (first.apply (.new "blocks")).hasJoin j.aliasName = false := by
    refine ⟨_, _, rfl, rfl, ?_⟩
    decide
  exact ⟨first, second, hfirst, hsecond, (joins_of_compileFilter hsecond _).2.2.1.2 hnew⟩

end Pass

/-- A source that hands out every token of another twice. -/
def AliasSource.twice (s : AliasSource) : AliasSource where
  token n := s.token (n / 2)
  reach used n := 2 * s.reach used (n / 2)
  exists_unused used n := by
    obtain ⟨i, hi, h⟩ := s.exists_unused used (n / 2)
    refine ⟨2 * i, by omega, ?_⟩
    rwa [Nat.add_mul_div_left n i (by decide)]

/-- If the second pass is handed the token of the first, its join is not in the draft: the only
table joined is that of the pages. -/
theorem joins_lost_of_repeated :
    let setting : Setting := { Setting.default .layout with source := (AliasSource.letters 7485998).twice }
    ∃ first second,
      compileFilter setting false "blocks" .onPage 0 = .ok (first, 1) ∧
      compileFilter setting false "blocks" .showing 1 = .ok (second, 2) ∧
      ((first.apply (.new "blocks")).joins.map Join.aliasName).Nodup ∧
      second.joins.map Join.table = ["headings"] ∧
      (second.apply (first.apply (.new "blocks"))).joins.map Join.table = ["pages"] ∧
      ∃ j ∈ second.joins, j ∉ (second.apply (first.apply (.new "blocks"))).joins := by
  intro setting
  refine ⟨_, _, rfl, rfl, by decide, rfl, by decide, _, List.mem_cons_self, fun h => ?_⟩
  have htable := List.mem_map_of_mem (f := Join.table) h
  exact absurd htable (by decide)

/-! ## Runs of passes -/

variable (setting) in
/-- The drafts before and after passes, each of which draws where the last one ended, with the joins
of them all. -/
inductive Passes : Draft → Nat → List Join → Draft → Nat → Prop where
  | done (d : Draft) (n : Nat) : Passes d n [] d n
  | pass {subquery c f compiled d n m js d' n'} (h : compileFilter setting subquery c f n = .ok (compiled, m))
      (hrest : Passes (compiled.apply d) m js d' n') : Passes d n (compiled.joins ++ js) d' n'

namespace Passes

variable {d d' : Draft} {n n' : Nat} {js : List Join}

theorem nodup (h : Passes setting d n js d' n') (hd : (d.joins.map Join.aliasName).Nodup) :
    (d'.joins.map Join.aliasName).Nodup := by
  induction h with
  | done => exact hd
  | pass h _ ih => exact ih (nodup_apply_of_compileFilter h hd)

/-- No pass of a run loses a join if no token comes twice and the draft has no alias that is still
to come. -/
theorem joins_eq (h : Passes setting d n js d' n') (hs : Function.Injective setting.source.token)
    (hd : ∀ i, n ≤ i → d.hasJoin (setting.source.token i) = false) : d'.joins = d.joins ++ js := by
  induction h with
  | done => rw [List.append_nil]
  | @pass subquery c f compiled d n m js d' n' h _ ih =>
    obtain ⟨-, hle, htokens⟩ := aliases_of_compileFilter h
    have hnew : ∀ j ∈ compiled.joins, d.hasJoin j.aliasName = false := by
      intro j hj
      obtain ⟨i, hi, -, ha⟩ := htokens j hj
      rw [ha]
      exact hd i hi
    have hjoins : (compiled.apply d).joins = d.joins ++ compiled.joins := by
      rw [compiled.joins_apply, Draft.foldl_addJoin_of_new (aliases_of_compileFilter h).1 hnew]
    -- the tokens to come are neither those of the draft nor those that the pass has drawn
    have hcome : ∀ i, m ≤ i → (compiled.apply d).hasJoin (setting.source.token i) = false := by
      intro i hi
      refine Bool.eq_false_iff.2 fun hmem => ?_
      rw [Draft.hasJoin_iff, hjoins, List.map_append, List.mem_append] at hmem
      rcases hmem with hmem | hmem
      · exact Bool.eq_false_iff.1 (hd i (Nat.le_trans hle hi)) (Draft.hasJoin_iff.2 hmem)
      · obtain ⟨j, hj, ha⟩ := List.mem_map.1 hmem
        obtain ⟨k, -, hk, hb⟩ := htokens j hj
        exact absurd (hs (ha.symm.trans hb)) (by omega)
    rw [ih hcome, hjoins, List.append_assoc]

/-- Tokens of letters never come twice, so a draft that had no joins has those of all passes. -/
theorem joins_of_letters {start : Nat} (h : Passes { setting with source := .letters start } d n js d' n')
    (hd : d.joins = []) : d'.joins = js := by
  have hinjective : Function.Injective (AliasSource.letters start).token := fun a b hab =>
    Nat.add_left_cancel (AliasSource.wordToken_inj hab)
  rw [h.joins_eq hinjective fun i _ => by simp [Draft.hasJoin, hd], hd, List.nil_append]

end Passes

end PathQuery
