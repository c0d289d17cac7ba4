import Mathlib.Data.List.Nodup
import PathQuery.Proofs.Compile.Plan
import PathQuery.Proofs.Filter.Paths
import PathQuery.Proofs.Schema.Names

/-!
# One join for each path

Joins are told apart by their aliases and aliases are found by paths, so the walk for the joins has
to keep the two in step. `Plan.Visited` says that it does: the joins of the plan are those of the
paths visited so far, once each and in the order of first visits. A hop visits one path more
(`Plan.Extends.visited`), and a walk visits the paths that `Schema.visits` reads off the filter
(`Plans.visited`).
-/

namespace PathQuery

open Sql (Join)

/-- The first visits, once a path is visited last: they change only if it is new. -/
theorem eraseDups_concat (paths : List Path) (path : Path) :
    (paths ++ [path]).eraseDups = if path ∈ paths then paths.eraseDups else paths.eraseDups ++ [path] := by
  rw [List.eraseDups_append, List.removeAll]
  split
  next h => simp [h]
  next h => simp [h, List.eraseDups_cons]

/-- Whether the joins of a plan are those of the paths visited, in the order of first visits. -/
structure Plan.Visited (p : Plan) (visits : List Path) : Prop where
  joined : visits.eraseDups.map p.aliases.lookup? = p.joins.map fun j => some j.aliasName
  known : ∀ path a, p.aliases.lookup? path = some a → path ∈ visits

variable {setting : Setting} {subquery : Bool} {c target : String} {path : Path} {p p' : Plan} {visits : List Path}

theorem Plan.visited_start (root : String) (draws : Nat) : (Plan.start root draws).Visited [] where
  joined := rfl
  known := fun path a ha => absurd ha (by simp)

theorem Plan.Visited.exists_alias (hv : p.Visited visits) (h : path ∈ visits) :
    ∃ a, p.aliases.lookup? path = some a := by
  have hmem : p.aliases.lookup? path ∈ visits.eraseDups.map p.aliases.lookup? :=
    List.mem_map_of_mem (List.mem_eraseDups.2 h)
  rw [hv.joined] at hmem
  obtain ⟨j, -, hj⟩ := List.mem_map.1 hmem
  exact ⟨j.aliasName, hj.symm⟩

/-- A hop visits its path: a known one changes nothing, and a new one comes last with the join that
is added. -/
theorem Plan.Extends.visited {hop : Hop} {segment : Segment}
    (h : p.Extends setting hop segment c path target p') (hv : p.Visited visits) :
    p'.Visited (visits ++ [path ++ [segment.key]]) := by
  cases h with
  | known ha =>
    have hmem := hv.known _ _ ha
    refine ⟨?_, fun other a h => List.mem_append_left _ (hv.known other a h)⟩
    rw [eraseDups_concat, if_pos hmem, hv.joined]
  | @joins n on draws hn hf ho =>
    have hnew : path ++ [segment.key] ∉ visits := by
      intro hmem
      obtain ⟨a, ha⟩ := hv.exists_alias hmem
      rw [hn] at ha
      exact absurd ha (by simp)
    -- the alias that is recorded is not that of a path visited before
    have hold : ∀ other ∈ visits.eraseDups,
        (p.aliases.record (path ++ [segment.key]) (setting.source.token n)).lookup? other =
          p.aliases.lookup? other := by
      intro other hother
      have hne : other ≠ path ++ [segment.key] := fun heq => hnew (heq ▸ List.mem_eraseDups.1 hother)
      rw [AliasMap.lookup?_record, if_neg hne]
    constructor
    · rw [eraseDups_concat, if_neg hnew, List.map_append, List.map_congr_left hold, hv.joined, List.map_append,
        List.map_singleton, AliasMap.lookup?_record, if_pos rfl]
      rfl
    · intro other a ha
      rcases AliasMap.eq_or_of_lookup?_record ha with ⟨rfl, -⟩ | ha
      · exact List.mem_append_right _ (List.mem_singleton_self _)
      · exact List.mem_append_left _ (hv.known other a ha)

/-- A walk visits the paths of its filter behind the path that leads to it. -/
theorem Plans.visited {f : Filter} (h : Plans setting subquery c path f p p') (hv : p.Visited visits) :
    p'.Visited (visits ++ (setting.schema.visits (isFirst subquery path) c f).map (path ++ ·)) := by
  induction h generalizing visits with
  | nil =>
    rw [Schema.visits_nil, List.map_nil, List.append_nil]
    exact hv
  | comparison _ ih =>
    rw [Schema.visits_cons_of_nil (by rw [Node.hopPaths])]
    exact ih hv
  | everything hm _ ih =>
    rw [Schema.visits_cons_of_nil (by rw [Node.hopPaths, if_pos hm])]
    exact ih hv
  | group hm _ _ ihgroup ihrest =>
    rw [Schema.visits_group hm, List.map_append, ← List.append_assoc]
    exact ihrest (ihgroup hv)
  | column hc _ ih =>
    rw [Schema.visits_cons_of_nil (by rw [Node.hopPaths, if_pos hc])]
    exact ih hv
  | unrelated hc hh _ ih =>
    rw [Schema.visits_cons_of_not hc (Schema.goesAlong_unrelated hh)]
    exact ih hv
  | deferred hc hh hf _ ih =>
    obtain ⟨hk, hfirst⟩ := Hop.isDeferred_iff.1 hf
    rw [hfirst] at ih ⊢
    rw [Schema.visits_cons_of_not hc (Schema.goesAlong_deferred hh hk)]
    exact ih hv
  | @hop c path segment nested rest hop target p p' p'' q hc hh hf ht ha _ _ ihnested ihrest =>
    have hk := Hop.isDeferred_eq_false_iff.1 hf
    have hnested := ihnested (ha.visited hv)
    rw [isFirst_append] at hnested
    have hrest := ihrest hnested
    rw [Schema.visits_hop hc hh ht hk]
    simpa [List.map_map, Function.comp_def, List.append_assoc] using hrest

variable (setting) in
/-- A pass that finds its joins has one for each path that its filter visits, in the order of first
visits, under the alias of the path; no other path has an alias, and no two paths have the same. -/
theorem joins_of_visits {f : Filter} {n : Nat} {plan : Plan} (h : planJoins setting subquery c f n = .ok plan) :
    let visits := setting.schema.visits (!subquery) c f
    visits.eraseDups.map plan.aliases.lookup? = plan.joins.map (fun j => some j.aliasName) ∧
      visits.eraseDups.Nodup ∧ (plan.joins.map Join.aliasName).Nodup ∧ [] ∉ visits ∧
      (∀ path a, plan.aliases.lookup? path = some a → path ∈ visits) ∧
      ∀ path ∈ visits, ∀ path' ∈ visits, plan.aliases.lookup? path = plan.aliases.lookup? path' → path = path' := by
  intro visits
  have hp := plans_of_planJoins h
  have hv : plan.Visited visits := by
    simpa [isFirst] using hp.visited (Plan.visited_start c n)
  have hjoins : (plan.joins.map Join.aliasName).Nodup := (hp.sound (Plan.sound_start c n)).nodup.of_cons
  have haliases : (visits.eraseDups.map plan.aliases.lookup?).Nodup := by
    have hsome := hjoins.map (f := some) fun _ _ heq => Option.some.inj heq
    rw [List.map_map] at hsome
    rw [hv.joined]
    exact hsome
  refine ⟨hv.joined, haliases.of_map, hjoins, Schema.nil_not_mem_visits f, hv.known, ?_⟩
  intro path hpath path' hpath' heq
  exact List.inj_on_of_nodup_map haliases (List.mem_eraseDups.2 hpath) (List.mem_eraseDups.2 hpath') heq

/-- Articles whose author has a name or an article of a title, and the name once more. One group
asks for nothing. -/
def Filter.byColleague : Filter :=
  [.group .or [[.field (.mk "author" none) [.field (.mk "name" none) [.comparison .eq (.string "Ann")]]],
      [.field (.mk "author" none)
        [.field (.mk "articles" none) [.field (.mk "title" none) [.comparison .eq (.string "x")]]]]],
    .group .or [[], [.field (.mk "author" none) [.field (.mk "editor" none) []]]],
    .field (.mk "author" none) [.field (.mk "name" none) [.comparison .neq (.string "Bo")],
      .field (.mk "desk" none) [.field (.mk "name" none) [.comparison .eq (.string "x")]]]]

/-- Four visits to two paths, and two joins. -/
theorem joins_of_visits_byColleague : ∃ plan,
    planJoins (.default .newsroom) false "articles" .byColleague 0 = .ok plan ∧
    Schema.newsroom.visits true "articles" .byColleague =
      [["author"], ["author"], ["author", "articles"], ["author"]] ∧
    [["author"], ["author", "articles"]].map plan.aliases.lookup? = plan.joins.map (fun j => some j.aliasName) := by
  obtain ⟨plan, h⟩ : ∃ plan, planJoins (.default .newsroom) false "articles" .byColleague 0 = .ok plan := ⟨_, rfl⟩
  exact ⟨plan, h, rfl, (joins_of_visits (.default .newsroom) h).1⟩

end PathQuery
