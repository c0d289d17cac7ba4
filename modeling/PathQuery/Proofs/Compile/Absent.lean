import PathQuery.Proofs.Compile.Walk
import PathQuery.Proofs.Filter.Paths
import PathQuery.Proofs.Schema.Names
import PathQuery.Proofs.Sql.Simplify

/-!
# Filters without operands

* `Filter.Absent` : whether no comparison of a filter has the operand that it needs, and no group of
  it asks for nothing;
* `Presence` : the conditions that ask for nothing but related rows.

A comparison without its operand puts no condition on a column, and nothing comes of columns, groups
and joined hops with nothing but such comparisons below. A hop that is left to a sub-select still
asks for a related row, whichever it is (`Walks.eq_nil_iff`, `Walks.presence`).
-/

namespace PathQuery

open Sql (Predicate Draft Join Logical)

/-- Whether all comparisons of a filter have null for an operand and need one, and its groups match
something else than everything. -/
inductive Filter.Absent : Filter → Prop where
  | nil : Absent []
  | comparison {op v rest} (hv : v.isNull = true) (ho : op.isNullness = false) (hrest : Absent rest) :
      Absent (.comparison op v :: rest)
  | group {op children rest} (hm : Filter.matchesAll op children = false) (hgroup : Absent children.flatten)
      (hrest : Absent rest) : Absent (.group op children :: rest)
  | field {segment nested rest} (hnested : Absent nested) (hrest : Absent rest) :
      Absent (.field segment nested :: rest)

/-- Conditions that a row of `c` has related rows, none of which has to be like anything. -/
inductive Presence (s : Schema) (c : String) : Predicate → Prop where
  | membership {hop : Hop} {field key : String} {joins : List Join} (hh : s.hop? c field = some hop)
      (hk : hop.kind = .oneToMany) (hkey : s.primaryKey c = .ok key) :
      Presence s c (hop.membership c key ⟨joins, none⟩)
  | combine {p q} (op : Logical) (hp : Presence s c p) (hq : Presence s c q) : Presence s c (op.combine p q)

theorem Presence.all {s : Schema} {c : String} {op : Logical} {ps : List Predicate}
    (h : ∀ p ∈ ps, Presence s c p) : ∀ q ∈ op.all ps, Presence s c q :=
  Logical.all_induction (fun _ _ hp hq => .combine op hp hq) h

namespace Filter.Absent

variable {node : Node} {f : Filter}

theorem rest (h : Absent (node :: f)) : Absent f := by
  cases h with
  | comparison _ _ hrest => exact hrest
  | group _ _ hrest => exact hrest
  | field _ hrest => exact hrest

theorem group_inv {op : Logical} {children : List Filter} (h : Absent (.group op children :: f)) :
    Filter.matchesAll op children = false ∧ Absent children.flatten := by
  cases h with
  | group hm hgroup _ => exact ⟨hm, hgroup⟩

theorem nested {segment : Segment} {nested : Filter} (h : Absent (.field segment nested :: f)) : Absent nested := by
  cases h with
  | field hnested _ => exact hnested

theorem comparisons (h : f.Absent) : ∀ c ∈ f.comparisons, c.2.isNull = true ∧ c.1.isNullness = false := by
  induction h with
  | nil => exact fun c hc => absurd hc List.not_mem_nil
  | comparison hv ho _ ih =>
    intro c hc
    rcases List.mem_cons.1 hc with rfl | hc
    · exact ⟨hv, ho⟩
    · exact ih c hc
  | group _ _ _ _ ih => exact ih
  | field _ _ _ ih => exact ih

end Filter.Absent

/-- Comparisons without their operands put no condition on a column. -/
theorem Target.conditions_of_absent (t : Target) (geometry : Geometry) (cs : List (Operator × Json))
    (h : ∀ c ∈ cs, c.2.isNull = true ∧ c.1.isNullness = false) : t.conditions geometry cs = .ok [] := by
  induction cs with
  | nil => rfl
  | cons c cs ih =>
    obtain ⟨hv, ho⟩ := h c List.mem_cons_self
    have hskip : t.compare geometry c.1 c.2 = .ok none := by
      unfold Target.compare
      rw [hv, ho]
      rfl
    rw [Target.conditions, hskip, ih fun c hc => h c (List.mem_cons_of_mem _ hc)]
    rfl

variable {setting : Setting}

theorem columnConditions_of_absent {pass : Pass} {c : String} {path : Path} {field : String} {f : Filter}
    {ps : List Predicate} (ha : f.Absent) (h : columnConditions setting pass c path field f = .ok ps) : ps = [] := by
  unfold columnConditions at h
  obtain ⟨type, -, h⟩ := exists_of_bind_eq_ok h
  rw [Target.conditions_of_absent _ _ _ ha.comparisons] at h
  exact (Except.ok.inj h).symm

/-! ## What is left of the walk -/

/-- Whether some hop at the top of a filter leads to many rows. -/
def Schema.reachesMany (s : Schema) (c : String) (f : Filter) : Bool := (Filter.hopPaths f).any (s.startsMany c)

namespace Schema

variable {s : Schema} {c : String} {segment : Segment} {nested f : Filter} {hop : Hop}

theorem reachesMany_cons_of_nil {node : Node} (h : node.hopPaths = []) :
    s.reachesMany c (node :: f) = s.reachesMany c f := by
  rw [reachesMany, Filter.hopPaths, h]
  rfl

theorem reachesMany_group {op : Logical} {children : List Filter} (hm : Filter.matchesAll op children = false) :
    s.reachesMany c (.group op children :: f) = (s.reachesMany c children.flatten || s.reachesMany c f) := by
  rw [reachesMany, Filter.hopPaths, Node.hopPaths, hm, List.any_append, Filter.childHopPaths_eq]
  rfl

theorem reachesMany_hop (hc : Filter.isComparisons nested = false) (hh : s.hop? c segment.field = some hop) :
    s.reachesMany c (.field segment nested :: f) = (hop.kind == .oneToMany || s.reachesMany c f) := by
  have hstart (hops : List Segment) : s.startsMany c (segment :: hops) = (hop.kind == .oneToMany) := by
    rw [startsMany, hh]
  rw [reachesMany, Filter.hopPaths, Filter.hopPaths_field hc, List.any_append, List.any_cons, hstart]
  refine congrArg (· || _) ?_
  rw [List.any_map, Bool.or_eq_left_iff_imp, List.any_eq_true]
  rintro ⟨hops, -, hmany⟩
  rwa [← hstart hops]

end Schema

/-- Without operands, conditions come of first hops to many rows alone. -/
theorem Walks.eq_nil_iff {pass : Pass} {c : String} {path : Path} {f : Filter} {ps : List Predicate}
    (h : Walks setting pass c path f ps) (ha : f.Absent) :
    ps = [] ↔ (isFirst pass.subquery path && setting.schema.reachesMany c f) = false := by
  induction h with
  | nil => simp [Schema.reachesMany, Filter.hopPaths]
  | everything hm _ _ => exact absurd (hm.symm.trans ha.group_inv.1) (by simp)
  | group hm _ _ ihgroup ihrest =>
    rw [List.append_eq_nil_iff, Option.toList_eq_nil_iff, Logical.all_eq_none_iff, ihgroup ha.group_inv.2,
      ihrest ha.rest, Schema.reachesMany_group hm, Bool.and_or_distrib_left, Bool.or_eq_false_iff]
  | column hc _ hq _ ih =>
    rw [columnConditions_of_absent ha.nested hq, List.nil_append, ih ha.rest,
      Schema.reachesMany_cons_of_nil (by rw [Node.hopPaths, if_pos hc])]
  | deferred hc _ hh hf _ _ _ _ _ _ =>
    obtain ⟨hkind, hfirst⟩ := Hop.isDeferred_iff.1 hf
    rw [hfirst, Schema.reachesMany_hop hc hh, hkind]
    simp
  | @hop pass c path segment nested rest hop target qs ps hc _ hh hf _ _ _ ihnested ihrest =>
    -- the hops below are not the first, so nothing below is left to a sub-select
    have hnested : qs = [] := (ihnested ha.nested).2 (by rw [isFirst_append]; rfl)
    have hkind : (isFirst pass.subquery path && hop.kind == .oneToMany) = false := by
      have hnot := Hop.isDeferred_eq_false_iff.1 hf
      rw [Bool.and_eq_false_imp]
      exact fun hfirst => beq_eq_false_iff_ne.2 fun hk => hnot ⟨hk, hfirst⟩
    rw [hnested, List.nil_append, ihrest ha.rest, Schema.reachesMany_hop hc hh, Bool.and_or_distrib_left, hkind,
      Bool.false_or]

/-- Without operands, what conditions there are ask for related rows of the collection itself, and
for nothing of these. -/
theorem Walks.presence {pass : Pass} {c : String} {path : Path} {f : Filter} {ps : List Predicate}
    (h : Walks setting pass c path f ps) (ha : f.Absent) : ∀ p ∈ ps, Presence setting.schema c p := by
  induction h with
  | nil => exact fun p hp => absurd hp List.not_mem_nil
  | everything hm _ _ => exact absurd (hm.symm.trans ha.group_inv.1) (by simp)
  | group _ _ _ ihgroup ihrest =>
    refine List.forall_mem_append.2 ⟨fun p hp => ?_, ihrest ha.rest⟩
    exact Presence.all (ihgroup ha.group_inv.2) p (Option.mem_toList.1 hp)
  | column _ _ hq _ ih =>
    rw [columnConditions_of_absent ha.nested hq]
    exact ih ha.rest
  | deferred _ _ hh hf hk _ hbody _ _ ihrest =>
    obtain ⟨hkind, -⟩ := Hop.isDeferred_iff.1 hf
    have hnone := (hbody.eq_nil_iff ha.nested).2 rfl
    refine List.forall_mem_cons.2 ⟨?_, ihrest ha.rest⟩
    rw [hnone]
    exact .membership hh hkind hk
  | hop _ _ _ _ _ hnested _ _ ihrest =>
    have hnone := (hnested.eq_nil_iff ha.nested).2 (by rw [isFirst_append]; rfl)
    rw [hnone]
    exact ihrest ha.rest

theorem Compiled.condition_apply (c : Compiled) (d : Draft) :
    (c.apply d).condition = c.condition.elim d.condition fun p => some (Logical.extend .and d.condition p) := by
  have hjoined : (c.joins.foldl Draft.addJoin d).condition = d.condition := by
    have hstep (d : Draft) (j : Join) : (d.addJoin j).condition = d.condition := by
      unfold Draft.addJoin
      split <;> rfl
    induction c.joins generalizing d with
    | nil => rfl
    | cons j js ih => rw [List.foldl_cons, ih, hstep]
  unfold Compiled.apply
  cases c.condition with
  | none => exact hjoined
  | some p => exact congrArg (fun o => some (Logical.extend .and o p)) hjoined

/-- A filter without operands puts no condition on the rows exactly if no hop at its top is left to
a sub-select. The conditions of sub-selects, of which the bodies have none, ask for related rows. -/
theorem condition_eq_none_iff_of_absent {subquery : Bool} {c : String} {f : Filter} {n n' : Nat}
    {compiled : Compiled} (ha : f.Absent) (h : compileFilter setting subquery c f n = .ok (compiled, n')) :
    (compiled.condition = none ↔ subquery = true ∨ setting.schema.reachesMany c f = false) ∧
      (∀ p ∈ compiled.condition, Presence setting.schema c p) ∧
      ∀ d : Draft, (subquery = true ∨ setting.schema.reachesMany c f = false) →
        (compiled.apply d).condition = d.condition := by
  obtain ⟨plan, ps, -, hw, rfl⟩ := exists_of_compileFilter h
  have hnone : (plan.body ps).condition = none ↔ subquery = true ∨ setting.schema.reachesMany c f = false := by
    rw [Plan.body, Logical.all_eq_none_iff, hw.eq_nil_iff ha, Bool.and_eq_false_iff]
    simp [isFirst]
  refine ⟨hnone, Presence.all (hw.presence ha), fun d hd => ?_⟩
  rw [Compiled.condition_apply, hnone.2 hd]
  rfl

/-- Users with an article of a title that is not given. -/
def Filter.untitled : Filter := [.field (.mk "articles" none) [.field (.mk "title" none) [.comparison .eq .null]]]

/-- Articles of an author with a name, or of no length, that are not given. -/
def Filter.unsigned : Filter :=
  [.group .or [[.field (.mk "author" none) [.field (.mk "name" none) [.comparison .contains .null]]],
    [.group .and [], .field (.mk "size" none) [.comparison .gt .null, .comparison .isIn .null]]]]

theorem Filter.absent_untitled : Filter.untitled.Absent := .field (.field (.comparison rfl rfl .nil) .nil) .nil

theorem Filter.absent_unsigned : Filter.unsigned.Absent :=
  .group rfl (.field (.field (.comparison rfl rfl .nil) .nil)
    (.group rfl .nil (.field (.comparison rfl rfl (.comparison rfl rfl .nil)) .nil))) .nil

/-- Without an operand, users are still asked for an article. -/
theorem condition_untitled : Filter.untitled.Absent ∧ ∃ compiled n,
    compileFilter (.default .newsroom) false "users" .untitled 0 = .ok (compiled, n) ∧
      compiled.condition ≠ none :=
  ⟨Filter.absent_untitled, _, _, rfl, Option.some_ne_none _⟩

/-- Articles are joined to their author and not asked for anything; users are asked for an article
unless it is joined. -/
theorem condition_eq_none_iff_unsigned : ∃ compiled joined deferred n n' n'',
    compileFilter (.default .newsroom) false "articles" .unsigned 0 = .ok (compiled, n) ∧
    compileFilter (.default .newsroom) true "users" .untitled 0 = .ok (joined, n') ∧
    compileFilter (.default .newsroom) false "users" .untitled 0 = .ok (deferred, n'') ∧
    compiled.condition = none ∧ joined.condition = none ∧ deferred.condition ≠ none := by
  obtain ⟨compiled, n, h⟩ : ∃ compiled n, compileFilter (.default .newsroom) false "articles" .unsigned 0 =
    .ok (compiled, n) := ⟨_, _, rfl⟩
  obtain ⟨joined, n', h'⟩ : ∃ compiled n, compileFilter (.default .newsroom) true "users" .untitled 0 =
    .ok (compiled, n) := ⟨_, _, rfl⟩
  obtain ⟨deferred, n'', h''⟩ : ∃ compiled n, compileFilter (.default .newsroom) false "users" .untitled 0 =
    .ok (compiled, n) := ⟨_, _, rfl⟩
  have hcompiled := (condition_eq_none_iff_of_absent Filter.absent_unsigned h).1
  have hjoined := (condition_eq_none_iff_of_absent Filter.absent_untitled h').1
  have hdeferred := (condition_eq_none_iff_of_absent Filter.absent_untitled h'').1
  refine ⟨compiled, joined, deferred, n, n', n'', h, h', h'', ?_, ?_, ?_⟩
  · exact hcompiled.2 (.inr rfl)
  · exact hjoined.2 (.inl rfl)
  · rw [Ne, hdeferred]
    decide

end PathQuery
