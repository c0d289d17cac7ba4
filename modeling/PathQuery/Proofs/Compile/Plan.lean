import Mathlib.Data.List.Nodup
import PathQuery.Compile.Joins
import PathQuery.Proofs.Compile.Walk

/-!
# The walk for the joins

* `Plan.Sound` : the aliases of a plan are those of its joins, and no two tables of the pass have
  one name;
* `Plan.Extends` : a hop adds nothing to a sound plan if its path has an alias, and one join
  otherwise;
* `Plans` : the plans before and after a filter, by one rule for each way to pass a node.

`plans_of_planJoins` finds these rules behind `planJoins`; along them plans stay sound
(`Plans.sound`) and keep what they have (`Plans.grows`).
-/

namespace PathQuery

open Sql (Join)

/-- Whether the aliases of a plan are those of its joins, all different and none the collection of
the pass. -/
structure Plan.Sound (p : Plan) (root : String) : Prop where
  root_used : root ∈ p.aliases.used
  joins_used : ∀ j ∈ p.joins, j.aliasName ∈ p.aliases.used
  joined : ∀ path a, p.aliases.lookup? path = some a → p.hasJoin a = true
  nodup : (root :: p.joins.map Join.aliasName).Nodup

variable {setting : Setting}

variable (setting) in
/-- What the hop of a segment, from a collection that a path leads to, makes of a plan. -/
inductive Plan.Extends (hop : Hop) (segment : Segment) (c : String) (path : Path) (target : String)
    (p : Plan) : Plan → Prop where
  | known {a} (ha : p.aliases.lookup? (path ++ [segment.key]) = some a) :
      Extends hop segment c path target p p
  | joins {n on draws} (hn : p.aliases.lookup? (path ++ [segment.key]) = none)
      (hf : setting.source.token n ∉ p.aliases.used)
      (ho : hop.condition setting.schema segment c (p.aliases.tableFor path c) target
        (setting.source.token n) = .ok on) (hle : p.draws ≤ n) (hlt : n < draws) :
      Extends hop segment c path target p
        ⟨p.aliases.record (path ++ [segment.key]) (setting.source.token n),
          p.joins ++ [⟨target, setting.source.token n, on⟩], draws⟩

structure Plan.Grows (p p' : Plan) : Prop where
  aliases : ∀ path a, p.aliases.lookup? path = some a → p'.aliases.lookup? path = some a
  joins : p.joins <+: p'.joins

theorem Plan.Grows.refl (p : Plan) : p.Grows p := ⟨fun _ _ h => h, List.prefix_rfl⟩

theorem Plan.Grows.trans {p p' p'' : Plan} (h : p.Grows p') (h' : p'.Grows p'') : p.Grows p'' :=
  ⟨fun path a ha => h'.aliases path a (h.aliases path a ha), h.joins.trans h'.joins⟩

@[simp] theorem Plan.lookup?_start (root : String) (draws : Nat) (path : Path) :
    (Plan.start root draws).aliases.lookup? path = none := by
  rw [Plan.start, AliasMap.lookup?_reserve, AliasMap.lookup?_empty]

theorem Plan.sound_start (root : String) (draws : Nat) : (Plan.start root draws).Sound root where
  root_used := List.mem_cons_self
  joins_used := fun _ hj => absurd hj List.not_mem_nil
  joined := fun path a h => absurd h (by simp)
  nodup := List.nodup_singleton root

theorem Plan.hasJoin_iff {p : Plan} {a : String} :
    p.hasJoin a = true ↔ a ∈ p.joins.map Join.aliasName := by
  simp [Plan.hasJoin]

/-- A name that is not used is none of the tables of a sound plan. -/
theorem Plan.Sound.not_mem {p : Plan} {root a : String} (hs : p.Sound root) (ha : a ∉ p.aliases.used) :
    a ∉ root :: p.joins.map Join.aliasName := by
  intro hm
  rcases List.mem_cons.1 hm with rfl | hm
  · exact ha hs.root_used
  · obtain ⟨j, hj, rfl⟩ := List.mem_map.1 hm
    exact ha (hs.joins_used j hj)

namespace Plan.Extends

variable {hop : Hop} {segment : Segment} {root c target : String} {path : Path} {p p' : Plan}

theorem sound (h : p.Extends setting hop segment c path target p') (hs : p.Sound root) : p'.Sound root := by
  cases h with
  | known ha => exact hs
  | @joins n on draws hn hf ho =>
    refine ⟨List.mem_cons_of_mem _ hs.root_used, ?_, ?_, ?_⟩
    · refine List.forall_mem_append.2 ⟨fun j hj => List.mem_cons_of_mem _ (hs.joins_used j hj), ?_⟩
      exact List.forall_mem_singleton.2 List.mem_cons_self
    · intro other b hb
      rw [Plan.hasJoin_iff, List.map_append, List.mem_append]
      rcases AliasMap.eq_or_of_lookup?_record hb with ⟨-, rfl⟩ | hb
      · exact .inr List.mem_cons_self
      · exact .inl (Plan.hasJoin_iff.1 (hs.joined other b hb))
    · rw [List.map_append, ← List.cons_append]
      refine hs.nodup.append (List.nodup_singleton _) ?_
      exact List.disjoint_singleton.2 (hs.not_mem hf)

theorem exists_alias (h : p.Extends setting hop segment c path target p') :
    ∃ a, p'.aliases.lookup? (path ++ [segment.key]) = some a := by
  cases h with
  | known ha => exact ⟨_, ha⟩
  | joins hn hf ho => exact ⟨_, by rw [AliasMap.lookup?_record, if_pos rfl]⟩

theorem grows (h : p.Extends setting hop segment c path target p') : p.Grows p' := by
  cases h with
  | known ha => exact .refl p
  | joins hn hf ho =>
    refine ⟨fun other a h => ?_, List.prefix_append _ _⟩
    rw [AliasMap.lookup?_record]
    split
    next heq => rw [heq, hn] at h; exact absurd h (by simp)
    next => exact h

end Plan.Extends

/-- A hop to a path with an alias leaves a sound plan. -/
theorem Plan.Sound.addHop_of_some {p : Plan} {root c a : String} {path : Path} {hop : Hop} {segment : Segment}
    (hs : p.Sound root) (hl : p.aliases.lookup? (path ++ [segment.key]) = some a) :
    p.addHop setting hop segment c path = do return (← hop.target setting.schema segment, p) := by
  simp only [addHop, AliasMap.allocate, hl, hs.joined _ _ hl, if_true]

/-- A hop to any other path draws a token for it. -/
theorem Plan.Sound.addHop_of_none {p : Plan} {root c : String} {path : Path} {hop : Hop} {segment : Segment}
    (hs : p.Sound root) (hl : p.aliases.lookup? (path ++ [segment.key]) = none) :
    p.addHop setting hop segment c path = do
      let target ← hop.target setting.schema segment
      let drawn := setting.source.draw p.aliases.used p.draws
      let on ← hop.condition setting.schema segment c (p.aliases.tableFor path c) target drawn.1
      return (target, ⟨p.aliases.record (path ++ [segment.key]) drawn.1, p.joins ++ [⟨target, drawn.1, on⟩],
        drawn.2⟩) := by
  have hfree : p.hasJoin (setting.source.draw p.aliases.used p.draws).1 = false := by
    refine Bool.eq_false_iff.2 fun hj => hs.not_mem (setting.source.draw_not_mem p.aliases.used p.draws) ?_
    exact List.mem_cons_of_mem root (Plan.hasJoin_iff.1 hj)
  simp only [addHop, AliasMap.allocate, hl, hfree, if_neg Bool.false_ne_true]

theorem Plan.Sound.extends {p p' : Plan} {root c target : String} {path : Path} {hop : Hop}
    {segment : Segment} (hs : p.Sound root)
    (h : p.addHop setting hop segment c path = .ok (target, p')) :
    hop.target setting.schema segment = .ok target ∧
      p.Extends setting hop segment c path target p' := by
  cases hl : p.aliases.lookup? (path ++ [segment.key]) with
  | some a =>
    rw [hs.addHop_of_some hl] at h
    obtain ⟨t, ht, h⟩ := exists_of_bind_eq_ok h
    obtain ⟨rfl, rfl⟩ := Prod.mk.inj (Except.ok.inj h)
    exact ⟨ht, .known hl⟩
  | none =>
    rw [hs.addHop_of_none hl] at h
    obtain ⟨t, ht, h⟩ := exists_of_bind_eq_ok h
    obtain ⟨on, ho, h⟩ := exists_of_bind_eq_ok h
    obtain ⟨rfl, rfl⟩ := Prod.mk.inj (Except.ok.inj h)
    have hf := setting.source.draw_not_mem p.aliases.used p.draws
    exact ⟨ht, .joins hl hf ho (setting.source.le_seek _ _ _) (Nat.lt_succ_self _)⟩

variable (setting) in
/-- The plans before and after a filter in a walk that succeeds. -/
inductive Plans (subquery : Bool) : String → Path → Filter → Plan → Plan → Prop where
  | nil {c path p} : Plans subquery c path [] p p
  | comparison {c path op v rest p p'} (hrest : Plans subquery c path rest p p') :
      Plans subquery c path (.comparison op v :: rest) p p'
  | everything {c path op children rest p p'} (hm : Filter.matchesAll op children = true)
      (hrest : Plans subquery c path rest p p') :
      Plans subquery c path (.group op children :: rest) p p'
  | group {c path op children rest p p' p''} (hm : Filter.matchesAll op children = false)
      (hgroup : Plans subquery c path children.flatten p p')
      (hrest : Plans subquery c path rest p' p'') :
      Plans subquery c path (.group op children :: rest) p p''
  | column {c path segment nested rest p p'} (hc : Filter.isComparisons nested = true)
      (hrest : Plans subquery c path rest p p') :
      Plans subquery c path (.field segment nested :: rest) p p'
  | unrelated {c path segment nested rest p p'} (hc : Filter.isComparisons nested = false)
      (hh : setting.schema.hop? c segment.field = none) (hrest : Plans subquery c path rest p p') :
      Plans subquery c path (.field segment nested :: rest) p p'
  | deferred {c path segment nested rest hop p p'} (hc : Filter.isComparisons nested = false)
      (hh : setting.schema.hop? c segment.field = some hop)
      (hf : hop.isDeferred subquery path = true) (hrest : Plans subquery c path rest p p') :
      Plans subquery c path (.field segment nested :: rest) p p'
  | hop {c path segment nested rest hop target p p' p'' q}
      (hc : Filter.isComparisons nested = false)
      (hh : setting.schema.hop? c segment.field = some hop)
      (hf : hop.isDeferred subquery path = false)
      (ht : hop.target setting.schema segment = .ok target)
      (ha : p.Extends setting hop segment c path target p')
      (hnested : Plans subquery target (path ++ [segment.key]) nested p' p'')
      (hrest : Plans subquery c path rest p'' q) :
      Plans subquery c path (.field segment nested :: rest) p q

variable {subquery : Bool}

theorem Plans.append {c : String} {path : Path} {f g : Filter} {p p' p'' : Plan}
    (hf : Plans setting subquery c path f p p') (hg : Plans setting subquery c path g p' p'') :
    Plans setting subquery c path (f ++ g) p p'' := by
  induction hf with
  | nil => exact hg
  | comparison _ ih => exact .comparison (ih hg)
  | everything hm _ ih => exact .everything hm (ih hg)
  | group hm hgroup _ _ ih => exact .group hm hgroup (ih hg)
  | column hc _ ih => exact .column hc (ih hg)
  | unrelated hc hh _ ih => exact .unrelated hc hh (ih hg)
  | deferred hc hh hf _ ih => exact .deferred hc hh hf (ih hg)
  | hop hc hh hf ht ha hnested _ _ ih => exact .hop hc hh hf ht ha hnested (ih hg)

theorem Plans.sound {root c : String} {path : Path} {f : Filter} {p p' : Plan}
    (h : Plans setting subquery c path f p p') (hs : p.Sound root) : p'.Sound root := by
  induction h with
  | nil => exact hs
  | comparison _ ih => exact ih hs
  | everything _ _ ih => exact ih hs
  | group _ _ _ ihgroup ihrest => exact ihrest (ihgroup hs)
  | column _ _ ih => exact ih hs
  | unrelated _ _ _ ih => exact ih hs
  | deferred _ _ _ _ ih => exact ih hs
  | hop _ _ _ _ ha _ _ ihnested ihrest => exact ihrest (ihnested (ha.sound hs))

theorem Plans.grows {c : String} {path : Path} {f : Filter} {p p' : Plan}
    (h : Plans setting subquery c path f p p') : p.Grows p' := by
  induction h with
  | nil => exact .refl _
  | comparison _ ih => exact ih
  | everything _ _ ih => exact ih
  | group _ _ _ ihgroup ihrest => exact ihgroup.trans ihrest
  | column _ _ ih => exact ih
  | unrelated _ _ _ ih => exact ih
  | deferred _ _ _ _ ih => exact ih
  | hop _ _ _ _ ha _ _ ihnested ihrest => exact ha.grows.trans (ihnested.trans ihrest)

mutual

theorem plans_of_planNode {root c : String} {path : Path} {p p' : Plan} (hs : p.Sound root) :
    (n : Node) → planNode setting subquery c path n p = .ok p' → Plans setting subquery c path [n] p p'
  | .comparison op v, h => by
    rw [planNode] at h
    obtain rfl := Except.ok.inj h
    exact .comparison .nil
  | .group op children, h => by
    rw [planNode] at h
    split at h
    next hm =>
      obtain rfl := Except.ok.inj h
      exact .everything hm .nil
    next hm => exact .group (Bool.eq_false_iff.2 hm) (plans_of_planChildren hs children h) .nil
  | .field segment nested, h => by
    rw [planNode] at h
    split at h
    next hc =>
      obtain rfl := Except.ok.inj h
      exact .column hc .nil
    next hc =>
      have hc := Bool.eq_false_iff.2 hc
      obtain ⟨⟨⟩, -, h⟩ := exists_of_bind_eq_ok h
      split at h
      next hh =>
        obtain rfl := Except.ok.inj h
        exact .unrelated hc hh .nil
      next hop hh =>
        split at h
        next hf =>
          obtain rfl := Except.ok.inj h
          exact .deferred hc hh hf .nil
        next hf =>
          obtain ⟨⟨target, q⟩, ha, h⟩ := exists_of_bind_eq_ok h
          obtain ⟨ht, hq⟩ := hs.extends ha
          exact .hop hc hh (Bool.eq_false_iff.2 hf) ht hq (plans_of_planNodes (hq.sound hs) nested h) .nil

theorem plans_of_planNodes {root c : String} {path : Path} {p p' : Plan} (hs : p.Sound root) :
    (f : List Node) → planNodes setting subquery c path f p = .ok p' → Plans setting subquery c path f p p'
  | [], h => by
    rw [planNodes] at h
    obtain rfl := Except.ok.inj h
    exact .nil
  | n :: rest, h => by
    rw [planNodes] at h
    obtain ⟨q, hq, h⟩ := exists_of_bind_eq_ok h
    have hn := plans_of_planNode hs n hq
    exact hn.append (plans_of_planNodes (hn.sound hs) rest h)

theorem plans_of_planChildren {root c : String} {path : Path} {p p' : Plan} (hs : p.Sound root) :
    (fs : List (List Node)) → planChildren setting subquery c path fs p = .ok p' →
    Plans setting subquery c path fs.flatten p p'
  | [], h => by
    rw [planChildren] at h
    obtain rfl := Except.ok.inj h
    exact .nil
  | f :: fs, h => by
    rw [planChildren] at h
    obtain ⟨q, hq, h⟩ := exists_of_bind_eq_ok h
    have hf := plans_of_planNodes hs f hq
    rw [List.flatten_cons]
    exact hf.append (plans_of_planChildren (hf.sound hs) fs h)

end

theorem plans_of_planJoins {c : String} {f : Filter} {d : Nat} {plan : Plan}
    (h : planJoins setting subquery c f d = .ok plan) :
    Plans setting subquery c [] f (.start c d) plan :=
  plans_of_planNodes (Plan.sound_start c d) f h

end PathQuery
