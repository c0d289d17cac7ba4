import PathQuery.Proofs.Compile.Relations
import PathQuery.Proofs.Sql.Inside

/-!
# Statements inside hold no statements

A hop to many rows is left to a statement inside only as the first hop of a pass that is not one
inside itself. So no statement stands in the conditions of a pass inside (`Walks.nests_keyList`),
and none in the joins of any pass (`queries_of_planJoins`), however many such hops a filter has.
-/

namespace PathQuery

open Sql (Column Predicate Draft Join Select Logical)

variable {setting : Setting} {subquery : Bool} {c : String} {path : Path} {f : Filter}

theorem Hop.queries_condition {h : Hop} {s : Schema} {segment : Segment} {table target a : String} {on : Predicate}
    (ho : h.condition s segment c table target a = .ok on) : on.queries = [] := by
  obtain ⟨l, r, rfl | ⟨k, rfl⟩⟩ := Hop.condition_eq_ok ho <;> rfl

/-- Joins compare columns, so no statement stands in them. -/
theorem queries_of_planJoins {n : Nat} {plan : Plan} (h : planJoins setting subquery c f n = .ok plan) :
    ∀ j ∈ plan.joins, j.on.queries = [] := by
  intro j hj
  obtain ⟨path, from_, segment, hop, table, -, -, -, ho⟩ := (fits_of_planJoins h).1.origin j hj
  exact Hop.queries_condition ho

theorem isKeyList_of_planJoins {related field : String} {n : Nat} {plan : Plan} {ps : List Predicate}
    (hp : planJoins setting true related f n = .ok plan) (hps : ∀ p ∈ ps, p.Nests fun _ _ => False) :
    ((plan.body ps).apply ((Draft.new related).withColumns [.field related field])).toSelect.IsKeyList := by
  have hsound := (plans_of_planJoins hp).sound (Plan.sound_start related n)
  rw [hsound.apply_new]
  refine ⟨rfl, rfl, rfl, rfl, ?_⟩
  have hsource : (Sql.joined related plan.joins).queries = [] := Sql.queries_joined (queries_of_planJoins hp)
  have hcondition : ((Logical.all .and ps).getD (.const true)).queries = [] :=
    (Predicate.closed_nests.getD (Predicate.closed_nests.all hps) true).queries_eq_nil
  rw [Draft.queries_toSelect, hsource, hcondition]
  rfl

/-- Statements stand in the conditions of a walk only where a column is looked for in them, and only
if the pass is not one inside; no statement stands in these. -/
theorem Walks.nests_keyList {pass : Pass} {ps : List Predicate} (h : Walks setting pass c path f ps)
    (hg : setting.geometry.IsScalar) :
    ∀ p ∈ ps, p.Nests fun column s => pass.subquery = false ∧ column.isScalar = true ∧ s.IsKeyList := by
  induction h with
  | nil => exact fun p hp => absurd hp List.not_mem_nil
  | everything _ _ ih => exact List.forall_mem_cons.2 ⟨.const, ih⟩
  | group _ _ _ ihgroup ihrest =>
    refine List.forall_mem_append.2 ⟨fun p hp => ?_, ihrest⟩
    exact Predicate.closed_nests.all ihgroup p (Option.mem_toList.1 hp)
  | column _ _ hq _ ih =>
    obtain ⟨tests, -, rfl⟩ := exists_tests_of_columnConditions hq
    exact List.forall_mem_append.2 ⟨List.forall_mem_map.2 fun t _ => t.on_nests hg rfl, ih⟩
  | @deferred _ _ _ _ _ _ _ _ _ _ qs _ _ _ _ hf _ hp _ _ ihbody ihrest =>
    obtain ⟨-, hsub⟩ := isFirst_iff.1 (Hop.isDeferred_iff.1 hf).2
    -- the body is a pass inside, which leaves no hop to another
    have hbody : ∀ q ∈ qs, q.Nests fun _ _ => False :=
      fun q hq => (ihbody q hq).mono fun _ _ h => absurd h.1 (by simp)
    exact List.forall_mem_cons.2 ⟨.membership ⟨hsub, rfl, isKeyList_of_planJoins hp hbody⟩, ihrest⟩
  | hop _ _ _ _ _ _ _ ihnested ihrest => exact List.forall_mem_append.2 ⟨ihnested, ihrest⟩

/-- Statements inside never nest. No statement stands in the joins of a pass, and none in the
condition of a pass inside, however many hops to many rows the filter has. Elsewhere each statement
in the condition is one that a column is looked for in by `IN`: it selects one column, in no order
and of all its rows, and no statement stands in its joins or in its condition. -/
theorem queries_of_compileFilter {n n' : Nat} {compiled : Compiled} (hg : setting.geometry.IsScalar)
    (h : compileFilter setting subquery c f n = .ok (compiled, n')) :
    (∀ j ∈ compiled.joins, j.on.queries = []) ∧
    (subquery = true → ∀ p ∈ compiled.condition, p.queries = []) ∧
    (subquery = false → ∀ p ∈ compiled.condition,
      p.Nests fun column s => column.isScalar = true ∧ s.IsKeyList) := by
  obtain ⟨plan, ps, hp, hw, rfl⟩ := exists_of_compileFilter h
  have hnests : ∀ p ∈ Logical.all .and ps, p.Nests _ := Predicate.closed_nests.all (hw.nests_keyList hg)
  refine ⟨queries_of_planJoins hp, ?_, ?_⟩
  · rintro rfl p hp
    have hnone : p.Nests fun _ _ => False := (hnests p hp).mono fun _ _ h => absurd h.1 (by simp)
    exact hnone.queries_eq_nil
  · rintro rfl p hp
    exact (hnests p hp).mono fun _ _ h => h.2

/-- Two hops to many rows, the second of which is in the statement that finds the first one's
keys. -/
theorem queries_headed : ∃ compiled n p s,
    compileFilter (.default .layout) false "pages" .headed 0 = .ok (compiled, n) ∧
    (∀ j ∈ compiled.joins, j.on.queries = []) ∧ compiled.condition = some p ∧ p.queries = [s] ∧
    p.Nests (fun column s => column.isScalar = true ∧ s.IsKeyList) := by
  have hg : (Setting.default .layout).geometry.IsScalar := Geometry.isScalar_postgis
  obtain ⟨compiled, n, h, p, s, hp, hs⟩ : ∃ compiled n,
      compileFilter (.default .layout) false "pages" .headed 0 = .ok (compiled, n) ∧
      ∃ p s, compiled.condition = some p ∧ p.queries = [s] := ⟨_, _, rfl, _, _, rfl, rfl⟩
  obtain ⟨hjoins, -, hcondition⟩ := queries_of_compileFilter hg h
  exact ⟨compiled, n, p, s, h, hjoins, hp, hs, hcondition rfl p hp⟩

end PathQuery
