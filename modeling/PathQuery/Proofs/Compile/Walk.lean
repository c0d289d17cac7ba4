import PathQuery.Apply
import PathQuery.Proofs.Outcome

/-!
# The walk for the conditions

`Walks` says what conditions a filter comes to in a walk that succeeds, by one rule for each way to
pass a node; the children of a group are walked as one filter. `walks_of_conditions` finds these
rules behind `conditions`, and `exists_of_compileFilter` puts a whole pass together from its two
walks.
-/

namespace PathQuery

open Sql (Predicate Logical)

theorem checkDepth_eq_ok {config : Config} {depth : Nat} {u : Unit} :
    config.checkDepth depth = .ok u ↔ depth ≤ config.maxRelationalDepth := by
  unfold Config.checkDepth
  split <;> simp <;> omega

theorem hop_eq_ok {setting : Setting} {collection : String} {segment : Segment} {hop : Hop} :
    setting.hop collection segment = .ok hop ↔
      setting.schema.hop? collection segment.field = some hop := by
  unfold Setting.hop
  split <;> simp [*]

theorem fieldType_eq_ok {setting : Setting} {collection field : String} {type : Option FieldType} :
    setting.fieldType collection field = .ok type ↔
      type = (setting.schema.field? collection field).map SchemaField.type ∧
        (setting.config.strictFields = true → (setting.schema.field? collection field).isSome = true) := by
  unfold Setting.fieldType
  split
  next f hf =>
    rw [hf]
    exact ⟨fun h => ⟨(Except.ok.inj h).symm, fun _ => rfl⟩, fun h => congrArg Except.ok h.1.symm⟩
  next hf =>
    rw [hf]
    split
    next hs => exact ⟨nofun, fun h => absurd (h.2 hs) Bool.false_ne_true⟩
    next hs => exact ⟨fun h => ⟨(Except.ok.inj h).symm, fun h => absurd h hs⟩, fun h => congrArg Except.ok h.1.symm⟩

/-- Whether a place of a pass is before the first hop of a pass that leaves hops to many rows to
others. -/
def isFirst (subquery : Bool) (path : Path) : Bool := path.isEmpty && !subquery

theorem Hop.isDeferred_iff {hop : Hop} {subquery : Bool} {path : Path} :
    hop.isDeferred subquery path = true ↔ hop.kind = .oneToMany ∧ isFirst subquery path = true := by
  simp [isDeferred, isFirst, and_assoc]

theorem Hop.isDeferred_eq_false_iff {hop : Hop} {subquery : Bool} {path : Path} :
    hop.isDeferred subquery path = false ↔ ¬ (hop.kind = .oneToMany ∧ isFirst subquery path = true) := by
  rw [← Hop.isDeferred_iff, Bool.not_eq_true]

theorem isFirst_iff {subquery : Bool} {path : Path} :
    isFirst subquery path = true ↔ path = [] ∧ subquery = false := by
  simp [isFirst]

theorem isFirst_append (subquery : Bool) (path : Path) (key : String) :
    isFirst subquery (path ++ [key]) = false := by
  simp [isFirst]

/-- The body of a deferred hop, once it is compiled. -/
def Plan.body (plan : Plan) (ps : List Predicate) : Compiled := ⟨plan.joins, Logical.all .and ps⟩

/-- The condition of a deferred hop: the key of a row is among the foreign keys that the body
finds. -/
def Hop.membership (h : Hop) (collection key : String) (body : Compiled) : Predicate :=
  .compare .isIn (.field collection key) (body.foreignKeys h.relation.collection h.relation.field)

variable (setting : Setting)

/-- The conditions of a filter in a walk that succeeds. -/
inductive Walks : Pass → String → Path → Filter → List Predicate → Prop where
  | nil {pass c path} : Walks pass c path [] []
  | everything {pass c path op children rest ps} (hm : Filter.matchesAll op children = true)
      (hrest : Walks pass c path rest ps) :
      Walks pass c path (.group op children :: rest) (.const true :: ps)
  | group {pass c path op children rest qs ps} (hm : Filter.matchesAll op children = false)
      (hgroup : Walks pass c path children.flatten qs) (hrest : Walks pass c path rest ps) :
      Walks pass c path (.group op children :: rest) ((op.all qs).toList ++ ps)
  | column {pass c path segment nested rest qs ps} (hc : Filter.isComparisons nested = true)
      (hd : path.length + Filter.chainHops nested ≤ setting.config.maxRelationalDepth)
      (hq : columnConditions setting pass c path segment.field nested = .ok qs)
      (hrest : Walks pass c path rest ps) :
      Walks pass c path (.field segment nested :: rest) (qs ++ ps)
  | deferred {pass c path segment nested rest hop key plan draws qs ps}
      (hc : Filter.isComparisons nested = false)
      (hd : path.length + Filter.chainHops nested ≤ setting.config.maxRelationalDepth)
      (hh : setting.schema.hop? c segment.field = some hop)
      (hf : hop.isDeferred pass.subquery path = true) (hk : setting.schema.primaryKey c = .ok key)
      (hp : planJoins setting true hop.relation.collection nested draws = .ok plan)
      (hbody : Walks ⟨true, plan.aliases⟩ hop.relation.collection [] nested qs)
      (hrest : Walks pass c path rest ps) :
      Walks pass c path (.field segment nested :: rest) (hop.membership c key (plan.body qs) :: ps)
  | hop {pass c path segment nested rest hop target qs ps} (hc : Filter.isComparisons nested = false)
      (hd : path.length + Filter.chainHops nested ≤ setting.config.maxRelationalDepth)
      (hh : setting.schema.hop? c segment.field = some hop)
      (hf : hop.isDeferred pass.subquery path = false)
      (ht : hop.target setting.schema segment = .ok target)
      (hnested : Walks pass target (path ++ [segment.key]) nested qs)
      (hrest : Walks pass c path rest ps) :
      Walks pass c path (.field segment nested :: rest) (qs ++ ps)

variable {setting}

theorem Walks.append {pass : Pass} {c : String} {path : Path} {f g : Filter} {ps qs : List Predicate}
    (hf : Walks setting pass c path f ps) (hg : Walks setting pass c path g qs) :
    Walks setting pass c path (f ++ g) (ps ++ qs) := by
  induction hf with
  | nil => exact hg
  | everything hm _ ih => exact .everything hm (ih hg)
  | group hm hgroup _ _ ih => rw [List.append_assoc]; exact .group hm hgroup (ih hg)
  | column hc hd hq _ ih => rw [List.append_assoc]; exact .column hc hd hq (ih hg)
  | deferred hc hd hh hf hk hp hbody _ _ ih => exact .deferred hc hd hh hf hk hp hbody (ih hg)
  | hop hc hd hh hf ht hnested _ _ ih => rw [List.append_assoc]; exact .hop hc hd hh hf ht hnested (ih hg)

theorem Walks.single {pass : Pass} {c : String} {path : Path} {n : Node} {ps : List Predicate}
    (h : Walks setting pass c path [n] (ps ++ [])) : Walks setting pass c path [n] ps := by
  rwa [List.append_nil] at h

mutual

theorem walks_of_nodeConditions {pass : Pass} {c : String} {path : Path} {d d' : Nat}
    {ps : List Predicate} : (n : Node) → nodeConditions setting pass c path n d = .ok (ps, d') →
    Walks setting pass c path [n] ps
  | .comparison op v, h => by
    rw [nodeConditions] at h
    exact absurd h (by simp)
  | .group op children, h => by
    rw [nodeConditions] at h
    split at h
    next hm =>
      obtain ⟨rfl, -⟩ := Prod.mk.inj (Except.ok.inj h)
      exact .everything hm .nil
    next hm =>
      obtain ⟨⟨qs, e⟩, hq, h⟩ := exists_of_bind_eq_ok h
      obtain ⟨rfl, -⟩ := Prod.mk.inj (Except.ok.inj h)
      exact (Walks.group (Bool.eq_false_iff.2 hm) (walks_of_childConditions children hq) .nil).single
  | .field segment nested, h => by
    rw [nodeConditions] at h
    obtain ⟨⟨⟩, hd, h⟩ := exists_of_bind_eq_ok h
    have hd := checkDepth_eq_ok.1 hd
    split at h
    next hc =>
      obtain ⟨qs, hq, h⟩ := exists_of_bind_eq_ok h
      obtain ⟨rfl, -⟩ := Prod.mk.inj (Except.ok.inj h)
      exact (Walks.column hc hd hq .nil).single
    next hc =>
      have hc := Bool.eq_false_iff.2 hc
      obtain ⟨hop, hh, h⟩ := exists_of_bind_eq_ok h
      have hh := hop_eq_ok.1 hh
      split at h
      next hf =>
        obtain ⟨key, hk, h⟩ := exists_of_bind_eq_ok h
        obtain ⟨plan, hp, h⟩ := exists_of_bind_eq_ok h
        obtain ⟨⟨qs, e⟩, hq, h⟩ := exists_of_bind_eq_ok h
        obtain ⟨rfl, -⟩ := Prod.mk.inj (Except.ok.inj h)
        exact .deferred hc hd hh hf hk hp (walks_of_conditions nested hq) .nil
      next hf =>
        obtain ⟨target, ht, h⟩ := exists_of_bind_eq_ok h
        exact (Walks.hop hc hd hh (Bool.eq_false_iff.2 hf) ht (walks_of_conditions nested h) .nil).single

theorem walks_of_conditions {pass : Pass} {c : String} {path : Path} {d d' : Nat}
    {ps : List Predicate} : (f : List Node) → conditions setting pass c path f d = .ok (ps, d') →
    Walks setting pass c path f ps
  | [], h => by
    rw [conditions] at h
    obtain ⟨rfl, -⟩ := Prod.mk.inj (Except.ok.inj h)
    exact .nil
  | n :: rest, h => by
    rw [conditions] at h
    obtain ⟨⟨qs, e⟩, hq, h⟩ := exists_of_bind_eq_ok h
    obtain ⟨⟨rs, e'⟩, hr, h⟩ := exists_of_bind_eq_ok h
    obtain ⟨rfl, -⟩ := Prod.mk.inj (Except.ok.inj h)
    exact (walks_of_nodeConditions n hq).append (walks_of_conditions rest hr)

theorem walks_of_childConditions {pass : Pass} {c : String} {path : Path} {d d' : Nat}
    {ps : List Predicate} : (fs : List (List Node)) →
    childConditions setting pass c path fs d = .ok (ps, d') → Walks setting pass c path fs.flatten ps
  | [], h => by
    rw [childConditions] at h
    obtain ⟨rfl, -⟩ := Prod.mk.inj (Except.ok.inj h)
    exact .nil
  | f :: fs, h => by
    rw [childConditions] at h
    obtain ⟨⟨qs, e⟩, hq, h⟩ := exists_of_bind_eq_ok h
    obtain ⟨⟨rs, e'⟩, hr, h⟩ := exists_of_bind_eq_ok h
    obtain ⟨rfl, -⟩ := Prod.mk.inj (Except.ok.inj h)
    rw [List.flatten_cons]
    exact (walks_of_conditions f hq).append (walks_of_childConditions fs hr)

end

/-- A pass that succeeds has a plan, and conditions that name tables by its aliases. -/
theorem exists_of_compileFilter {subquery : Bool} {c : String} {f : Filter} {d d' : Nat} {compiled : Compiled}
    (h : compileFilter setting subquery c f d = .ok (compiled, d')) :
    ∃ plan ps, planJoins setting subquery c f d = .ok plan ∧
      Walks setting ⟨subquery, plan.aliases⟩ c [] f ps ∧ compiled = plan.body ps := by
  unfold compileFilter at h
  obtain ⟨plan, hp, h⟩ := exists_of_bind_eq_ok h
  obtain ⟨⟨ps, e⟩, hc, h⟩ := exists_of_bind_eq_ok h
  obtain ⟨rfl, -⟩ := Prod.mk.inj (Except.ok.inj h)
  exact ⟨plan, ps, hp, walks_of_conditions f hc, rfl⟩

/-- A filter that is applied to a draft is compiled in one pass over the collection. -/
theorem exists_of_applyFilter {subquery : Bool} {c : String} {f : Filter} {n n' : Nat} {d d' : Sql.Draft}
    (h : setting.applyFilter d f c subquery n = .ok (d', n')) :
    ∃ plan ps, planJoins setting subquery c f n = .ok plan ∧
      Walks setting ⟨subquery, plan.aliases⟩ c [] f ps ∧ d' = (plan.body ps).apply d := by
  unfold Setting.applyFilter at h
  obtain ⟨⟨compiled, m⟩, hcompiled, h⟩ := exists_of_bind_eq_ok h
  obtain ⟨rfl, -⟩ := Prod.mk.inj (Except.ok.inj h)
  obtain ⟨plan, ps, hp, hw, rfl⟩ := exists_of_compileFilter hcompiled
  exact ⟨plan, ps, hp, hw, rfl⟩

end PathQuery
