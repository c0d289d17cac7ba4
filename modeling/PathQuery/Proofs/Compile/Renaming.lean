import PathQuery.Proofs.Alias.Fresh
import PathQuery.Proofs.Compile.Passes
import PathQuery.Proofs.Compile.Relations
import PathQuery.Proofs.Compile.Test
import PathQuery.Proofs.Schema.Names
import PathQuery.Proofs.Sql.Parameters

/-!
# Which tokens are drawn does not matter

Two passes over one filter with tokens of different sources go the same way, and what they come to
differs in the names of aliases only.

* `Plan.rename`, `Compiled.rename` : joins and conditions with other aliases;
* `Setting.drawing` : a setting with another source of tokens;
* `Matches` : whether a permutation makes the tokens that one pass has drawn those of the other, and
  changes no collection;
* `Setting.DrawsFresh` : whether the tokens that a pass draws are fresh.

Both walks fail at the same place whatever they draw, since they know the same paths. As far as the
tokens match, the plans of one are those of the other renamed (`planNodes_agree`), and so are its
conditions (`conditions_agree`), since no simplification is up to the names of tables
(`Logical.all_rename`).
-/

namespace PathQuery

open Sql (Column Predicate Draft Join Select Logical)

/-! ## Other aliases -/

namespace AliasMap

def rename (ρ : String → String) (m : AliasMap) : AliasMap :=
  ⟨m.entries.map fun e => (e.1, ρ e.2), m.used.map ρ⟩

variable {ρ : String → String} (m : AliasMap) (path : Path)

theorem lookup?_rename : (m.rename ρ).lookup? path = (m.lookup? path).map ρ := by
  unfold lookup? rename
  induction m.entries with
  | nil => rfl
  | cons e es ih =>
    rw [List.map_cons, List.lookup_cons, List.lookup_cons, ih]
    cases path == e.1 <;> rfl

theorem tableFor_rename {c : String} (hc : ρ c = c) :
    (m.rename ρ).tableFor path c = ρ (m.tableFor path c) := by
  unfold tableFor
  rw [lookup?_rename]
  split
  · exact hc.symm
  · cases m.lookup? path with
    | none => exact hc.symm
    | some a => rfl

end AliasMap

def Plan.rename (ρ : String → String) (p : Plan) : Plan :=
  ⟨p.aliases.rename ρ, p.joins.map (Join.rename ρ), p.draws⟩

def Compiled.rename (ρ : String → String) (compiled : Compiled) : Compiled :=
  ⟨compiled.joins.map (Join.rename ρ), compiled.condition.map (Predicate.rename ρ)⟩

section

variable {ρ : String → String}

theorem Plan.start_rename {root : String} (hroot : ρ root = root) (draws : Nat) :
    (Plan.start root draws).rename ρ = .start root draws := by
  simp [Plan.start, rename, AliasMap.rename, AliasMap.reserve, AliasMap.empty, hroot]

/-- What a pass makes of a draft changes its names with the aliases of the pass. -/
theorem Compiled.apply_rename (hρ : ρ.Injective) (compiled : Compiled) (d : Draft) :
    (compiled.rename ρ).apply (d.rename ρ) = (compiled.apply d).rename ρ := by
  unfold apply rename
  rw [Draft.foldl_addJoin_rename hρ]
  cases compiled.condition with
  | none => rfl
  | some p => exact Draft.andWhere_rename hρ _ p

theorem Compiled.foreignKeys_rename (hρ : ρ.Injective) (compiled : Compiled) {related : String}
    (hrelated : ρ related = related) (field : String) :
    (compiled.rename ρ).foreignKeys related field = (compiled.foreignKeys related field).rename ρ := by
  have hnew : ((Draft.new related).withColumns [.field related field]).rename ρ =
      (Draft.new related).withColumns [.field related field] := by
    simp [Draft.rename, Draft.new, Draft.withColumns, Column.rename, hrelated]
  unfold foreignKeys
  rw [Column.rename, ← Draft.toSelect_rename, ← apply_rename hρ, hnew]

theorem Plan.body_rename (hρ : ρ.Injective) (plan : Plan) (ps : List Predicate) :
    (plan.rename ρ).body (ps.map (Predicate.rename ρ)) = (plan.body ps).rename ρ := by
  unfold body
  rw [← Logical.all_rename _ hρ]
  rfl

theorem Hop.membership_rename (hρ : ρ.Injective) (hop : Hop) {c : String} (hc : ρ c = c)
    (hrelated : ρ hop.relation.collection = hop.relation.collection) (key : String) (plan : Plan)
    (ps : List Predicate) : hop.membership c key ((plan.rename ρ).body (ps.map (Predicate.rename ρ))) =
      (hop.membership c key (plan.body ps)).rename ρ := by
  unfold membership
  rw [Plan.body_rename hρ, Compiled.foreignKeys_rename hρ _ hrelated, Predicate.rename, Column.rename, hc]

/-- The condition of a hop fails or not whatever the names of its tables are. -/
theorem Hop.condition_agree (hop : Hop) (s : Schema) (segment : Segment)
    (c target table table' a a' : String) :
    Agree (fun on on' => ∀ ρ : Equiv.Perm String, table' = ρ table → a' = ρ a → on' = on.rename ρ)
      (hop.condition s segment c table target a) (hop.condition s segment c table' target a') := by
  unfold condition
  cases hop.kind with
  | manyToOne =>
    refine (Agree.same _).bind fun key _ h => .ok ?_
    rintro ρ rfl rfl
    obtain ⟨rfl, -⟩ := h
    rfl
  | manyToAny =>
    cases hop.collectionField? with
    | none => exact .error _
    | some collectionField =>
      refine (Agree.same _).bind fun key _ h => .ok ?_
      rintro ρ rfl rfl
      obtain ⟨rfl, -⟩ := h
      rw [Predicate.conj_rename ρ.injective]
      rfl
  | oneToMany =>
    refine (Agree.same _).bind fun key _ h => .ok ?_
    rintro ρ rfl rfl
    obtain ⟨rfl, -⟩ := h
    rfl

end

/-- Whether conditions of geometry are written alike for all tables. -/
def Geometry.Uniform (g : Geometry) : Prop :=
  ∀ (ρ : Equiv.Perm String) op c p, g.write op (c.rename ρ) p = (g.write op c p).rename ρ

theorem Geometry.uniform_postgis : Geometry.postgis.Uniform := by
  intro ρ op c p
  cases op <;> rfl

theorem Test.on_rename {g : Geometry} (hg : g.Uniform) (ρ : Equiv.Perm String) (c : Column) (t : Test) :
    t.on g (c.rename ρ) = (t.on g c).rename ρ := by
  induction t with
  | const value | compare op p | null value | between low high => rfl
  | among ps =>
    have hps : Column.renameAll ρ (ps.map .param) = ps.map .param := by
      rw [Column.renameAll_eq_map, List.map_map]
      rfl
    rw [on, on, Predicate.rename, Column.rename, hps]
  | shape op p => exact hg ρ op c p
  | not t ih => rw [on, on, Predicate.rename, ih]

/-! ## Tokens in step -/

/-- The same schema, configuration and conditions of geometry with tokens of another source. -/
def Setting.drawing (setting : Setting) (source : AliasSource) : Setting :=
  { setting with source := source }

namespace Setting

variable (setting : Setting) (source : AliasSource)

@[simp] theorem schema_drawing : (setting.drawing source).schema = setting.schema := rfl

@[simp] theorem config_drawing : (setting.drawing source).config = setting.config := rfl

@[simp] theorem geometry_drawing : (setting.drawing source).geometry = setting.geometry := rfl

@[simp] theorem source_drawing : (setting.drawing source).source = source := rfl

@[simp] theorem hop_drawing (c : String) (segment : Segment) :
    (setting.drawing source).hop c segment = setting.hop c segment := rfl

end Setting

/-- Whether a permutation that changes none of some names makes the tokens of a source those of
another, as far as both are drawn: those of the first one up to place `m`, which are fresh, and
those of the other up to `m'`. -/
structure Matches (source source' : AliasSource) (names : String → Prop) (n : Nat)
    (ρ : Equiv.Perm String) (m m' : Nat) : Prop where
  fresh : source.Fresh names n m
  tokens : ∀ i, n ≤ i → i < m → i < m' → ρ (source.token i) = source'.token i
  fixed : ∀ name, names name → ρ name = name

/-- Whether a plan, which has drawn the tokens from place `n` on, uses no names but these and the
given ones. -/
structure Plan.Drew (source : AliasSource) (names : String → Prop) (n : Nat) (p : Plan) : Prop where
  le : n ≤ p.draws
  used : ∀ u ∈ p.aliases.used, names u ∨ ∃ i, n ≤ i ∧ i < p.draws ∧ u = source.token i

section

variable {setting : Setting} {source source' : AliasSource} {names : String → Prop} {n : Nat}

theorem Matches.mono {ρ : Equiv.Perm String} {m m' k k' : Nat}
    (h : Matches source source' names n ρ m m') (hk : k ≤ m) (hk' : k' ≤ m') :
    Matches source source' names n ρ k k' where
  fresh := h.fresh.mono hk
  tokens i hi him him' := h.tokens i hi (Nat.lt_of_lt_of_le him hk) (Nat.lt_of_lt_of_le him' hk')
  fixed := h.fixed

namespace Plan.Drew

variable {p : Plan}

theorem start {root : String} {d : Nat} (hle : n ≤ d) (hroot : names root) :
    (Plan.start root d).Drew source names n :=
  ⟨hle, List.forall_mem_singleton.2 (.inl hroot)⟩

theorem not_mem (hp : p.Drew source names n) {m : Nat} (hfresh : source.Fresh names n m)
    (hlt : p.draws < m) : source.token p.draws ∉ p.aliases.used := by
  intro hmem
  rcases hp.used _ hmem with hname | ⟨i, hi, hid, heq⟩
  · exact hfresh.new _ hp.le hlt hname
  · exact absurd (hfresh.injective _ i hp.le hlt hi (Nat.lt_trans hid hlt) heq) (Nat.ne_of_gt hid)

/-- Fresh tokens that match are drawn by both walks. -/
theorem draw (hp : p.Drew source names n) {ρ : Equiv.Perm String}
    (h : Matches source source' names n ρ (source.draw p.aliases.used p.draws).2
      (source'.draw (p.rename ρ).aliases.used (p.rename ρ).draws).2) :
    source.draw p.aliases.used p.draws = (source.token p.draws, p.draws + 1) ∧
      source'.draw (p.rename ρ).aliases.used (p.rename ρ).draws = (ρ (source.token p.draws), p.draws + 1) := by
  have hlt := source.lt_draw p.aliases.used p.draws
  have hnew := hp.not_mem h.fresh hlt
  have htoken := h.tokens p.draws hp.le hlt (source'.lt_draw _ p.draws)
  have hnew' : source'.token p.draws ∉ (p.rename ρ).aliases.used := by
    rw [← htoken]
    exact fun hmem => hnew ((List.mem_map_of_injective ρ.injective).1 hmem)
  exact ⟨AliasSource.draw_of_not_mem hnew, htoken ▸ AliasSource.draw_of_not_mem hnew'⟩

theorem record (hp : p.Drew source names n) (path : Path) (js : List Join) :
    Plan.Drew source names n ⟨p.aliases.record path (source.draw p.aliases.used p.draws).1, js,
      (source.draw p.aliases.used p.draws).2⟩ where
  le := Nat.le_trans hp.le (Nat.le_of_lt (source.lt_draw _ _))
  used := by
    intro u hu
    rcases List.mem_cons.1 hu with rfl | hu
    · exact .inr ⟨_, Nat.le_trans hp.le (source.le_seek _ _ _), Nat.lt_succ_self _, rfl⟩
    · exact (hp.used u hu).imp_right fun ⟨i, hi, hid, heq⟩ => ⟨i, hi, Nat.lt_trans hid (source.lt_draw _ _), heq⟩

end Plan.Drew

variable (source source' names n) in
/-- Plans in step: they have aliases for the same paths, and the second one is the first one renamed
as far as the tokens match. -/
structure InStep (root : String) (p q : Plan) : Prop where
  sound : p.Sound root
  sound' : q.Sound root
  drew : p.Drew source names n
  known : ∀ path, (p.aliases.lookup? path).isSome = (q.aliases.lookup? path).isSome
  renamed : ∀ ρ, Matches source source' names n ρ p.draws q.draws → q = p.rename ρ

theorem inStep_start {root : String} {d d' : Nat} (hle : n ≤ d) (hroot : names root)
    (hd : ∀ ρ, Matches source source' names n ρ d d' → d' = d) :
    InStep source source' names n root (.start root d) (.start root d') where
  sound := Plan.sound_start root d
  sound' := Plan.sound_start root d'
  drew := .start hle hroot
  known _ := rfl
  renamed ρ h := by rw [Plan.start_rename (h.fixed root hroot), hd ρ h]

/-- Both walks draw a token, or both know the alias of a path. -/
theorem addHop_agree {root c : String} {p q : Plan} (h : InStep source source' names n root p q)
    (hc : names c) (hop : Hop) (segment : Segment) (path : Path) :
    Agree (fun r r' => r.1 = r'.1 ∧ hop.target setting.schema segment = .ok r.1 ∧
        InStep source source' names n root r.2 r'.2)
      (p.addHop (setting.drawing source) hop segment c path)
      (q.addHop (setting.drawing source') hop segment c path) := by
  have hknown := h.known (path ++ [segment.key])
  cases hl : p.aliases.lookup? (path ++ [segment.key]) with
  | some a =>
    obtain ⟨b, hl'⟩ := Option.isSome_iff_exists.1 (hknown.symm.trans (by rw [hl, Option.isSome_some]))
    rw [h.sound.addHop_of_some hl, h.sound'.addHop_of_some hl']
    refine (Agree.same _).bind fun target _ ht => ?_
    obtain ⟨rfl, ht⟩ := ht
    exact .ok ⟨rfl, ht, h⟩
  | none =>
    have hl' : q.aliases.lookup? (path ++ [segment.key]) = none := by simpa [hl] using hknown.symm
    rw [h.sound.addHop_of_none hl, h.sound'.addHop_of_none hl']
    refine (Agree.same _).bind fun target _ ht => ?_
    obtain ⟨rfl, ht⟩ := ht
    refine (hop.condition_agree _ _ _ _ _ _ _ _).results.bind fun on on' hon => .ok ⟨rfl, ht, ?_⟩
    obtain ⟨hon, ho, ho'⟩ := hon
    have hp : p.Extends (setting.drawing source) hop segment c path target _ :=
      .joins hl (source.draw_not_mem _ _) ho (source.le_seek _ _ _) (Nat.lt_succ_self _)
    have hq : q.Extends (setting.drawing source') hop segment c path target _ :=
      .joins hl' (source'.draw_not_mem _ _) ho' (source'.le_seek _ _ _) (Nat.lt_succ_self _)
    have hlt := source.lt_draw p.aliases.used p.draws
    have hlt' := source'.lt_draw q.aliases.used q.draws
    refine ⟨hp.sound h.sound, hq.sound h.sound', h.drew.record _ _, fun other => ?_, fun ρ hρ => ?_⟩
    · simp only [AliasMap.lookup?_record]
      split
      · rfl
      · exact h.known other
    · obtain rfl := h.renamed ρ (hρ.mono (Nat.le_of_lt hlt) (Nat.le_of_lt hlt'))
      obtain ⟨hdraw, hdraw'⟩ := h.drew.draw hρ
      have htable := p.aliases.tableFor_rename path (hρ.fixed c hc)
      rw [hon ρ htable ((congrArg Prod.fst hdraw').trans (congrArg (ρ ∘ Prod.fst) hdraw.symm))]
      simp only [Setting.source_drawing, hdraw, hdraw']
      simp [Plan.rename, Join.rename, AliasMap.rename, AliasMap.record]
/-! ## The walk for the joins -/

variable {subquery : Bool}

mutual

theorem planNode_agree (hnames : ∀ name, setting.schema.Relates name → names name)
    {root c : String} (hc : names c) (path : Path) : (node : Node) → {p q : Plan} →
    InStep source source' names n root p q →
    Agree (InStep source source' names n root)
      (planNode (setting.drawing source) subquery c path node p)
      (planNode (setting.drawing source') subquery c path node q)
  | .comparison _ _, p, q, h => by
    rw [planNode, planNode]
    exact .ok h
  | .group op children, p, q, h => by
    rw [planNode, planNode]
    split
    next => exact .ok h
    next => exact planChildren_agree hnames hc path children h
  | .field segment nested, p, q, h => by
    rw [planNode, planNode, Setting.config_drawing, Setting.config_drawing, Setting.schema_drawing,
      Setting.schema_drawing]
    split
    next => exact .ok h
    next =>
      refine (Agree.same _).bind fun _ _ _ => ?_
      split
      next => exact .ok h
      next hop hh =>
        split
        next => exact .ok h
        next =>
          refine (addHop_agree h hc hop segment path).bind fun r r' hr => ?_
          obtain ⟨target, p'⟩ := r
          obtain ⟨_, q'⟩ := r'
          obtain ⟨rfl, ht, h⟩ := hr
          exact planNodes_agree hnames (hnames target (Schema.relates_target hh ht)) _ nested h

theorem planNodes_agree (hnames : ∀ name, setting.schema.Relates name → names name)
    {root c : String} (hc : names c) (path : Path) : (f : List Node) → {p q : Plan} →
    InStep source source' names n root p q →
    Agree (InStep source source' names n root)
      (planNodes (setting.drawing source) subquery c path f p)
      (planNodes (setting.drawing source') subquery c path f q)
  | [], p, q, h => by
    rw [planNodes, planNodes]
    exact .ok h
  | node :: rest, p, q, h => by
    rw [planNodes, planNodes]
    exact (planNode_agree hnames hc path node h).bind fun _ _ h => planNodes_agree hnames hc path rest h

theorem planChildren_agree (hnames : ∀ name, setting.schema.Relates name → names name)
    {root c : String} (hc : names c) (path : Path) : (fs : List (List Node)) → {p q : Plan} →
    InStep source source' names n root p q →
    Agree (InStep source source' names n root)
      (planChildren (setting.drawing source) subquery c path fs p)
      (planChildren (setting.drawing source') subquery c path fs q)
  | [], p, q, h => by
    rw [planChildren, planChildren]
    exact .ok h
  | f :: fs, p, q, h => by
    rw [planChildren, planChildren]
    exact (planNodes_agree hnames hc path f h).bind fun _ _ h => planChildren_agree hnames hc path fs h

end

theorem planJoins_agree (hnames : ∀ name, setting.schema.Relates name → names name)
    {root : String} (hroot : names root) (f : Filter) {d d' : Nat} (hle : n ≤ d)
    (hd : ∀ ρ, Matches source source' names n ρ d d' → d' = d) :
    Agree (InStep source source' names n root)
      (planJoins (setting.drawing source) subquery root f d)
      (planJoins (setting.drawing source') subquery root f d') :=
  planNodes_agree hnames hroot [] f (inStep_start hle hroot hd)

/-! ## The walk for the conditions -/

theorem columnConditions_agree (hg : setting.geometry.Uniform) (c : String) (m m' : AliasMap)
    (path : Path) (field : String) (f : Filter) :
    Agree (fun ps qs => ∀ ρ : Equiv.Perm String, ρ c = c → m' = m.rename ρ →
        qs = ps.map (Predicate.rename ρ))
      (columnConditions (setting.drawing source) ⟨subquery, m⟩ c path field f)
      (columnConditions (setting.drawing source') ⟨subquery, m'⟩ c path field f) := by
  unfold columnConditions
  refine (Agree.same _).bind fun type _ h => ?_
  obtain ⟨rfl, -⟩ := h
  have hconditions (table : String) : Target.conditions ⟨.field table field, field, type⟩ setting.geometry
      f.comparisons = (asks field type f.comparisons).map (List.map (·.on setting.geometry (.field table field))) :=
    conditions_of f.comparisons
  simp only [Setting.geometry_drawing, hconditions]
  cases asks field type f.comparisons with
  | error e => exact .error e
  | ok ts =>
    refine .ok ?_
    rintro ρ hc rfl
    rw [List.map_map, m.tableFor_rename path hc]
    exact List.map_congr_left fun t _ => t.on_rename hg ρ (.field (m.tableFor path c) field)

variable (source source' names n) in
/-- Aliases and places in step: those of the second walk are those of the first one, renamed as far
as the tokens match. -/
def AliasesInStep (m m' : AliasMap) (d d' : Nat) : Prop :=
  ∀ ρ, Matches source source' names n ρ d d' → m' = m.rename ρ ∧ d' = d

variable (source source' names n) in
/-- Conditions in step, with the places behind the tokens drawn for them. -/
def ConditionsInStep (r r' : List Predicate × Nat) : Prop :=
  ∀ ρ, Matches source source' names n ρ r.2 r'.2 → r' = (r.1.map (Predicate.rename ρ), r.2)

theorem AliasesInStep.next {m m' : AliasMap} {d d' : Nat} {r r' : List Predicate × Nat}
    (hm : AliasesInStep source source' names n m m' d d') (hr : ConditionsInStep source source' names n r r')
    (hle : d ≤ r.2) (hle' : d' ≤ r'.2) : AliasesInStep source source' names n m m' r.2 r'.2 :=
  fun ρ h => ⟨(hm ρ (h.mono hle hle')).1, by rw [hr ρ h]⟩

theorem ConditionsInStep.append {r r' t t' : List Predicate × Nat}
    (hr : ConditionsInStep source source' names n r r')
    (ht : ConditionsInStep source source' names n t t') (hle : r.2 ≤ t.2) (hle' : r'.2 ≤ t'.2) :
    ConditionsInStep source source' names n (r.1 ++ t.1, t.2) (r'.1 ++ t'.1, t'.2) := by
  intro ρ h
  rw [hr ρ (h.mono hle hle'), ht ρ h, List.map_append]

mutual

theorem nodeConditions_agree (hg : setting.geometry.Uniform)
    (hnames : ∀ name, setting.schema.Relates name → names name) {c : String} (hc : names c)
    (subquery : Bool) {m m' : AliasMap} (path : Path) : (node : Node) → {d d' : Nat} →
    n ≤ d → AliasesInStep source source' names n m m' d d' →
    Agree (ConditionsInStep source source' names n)
      (nodeConditions (setting.drawing source) ⟨subquery, m⟩ c path node d)
      (nodeConditions (setting.drawing source') ⟨subquery, m'⟩ c path node d')
  | .comparison op _, d, d', hle, hm => by
    rw [nodeConditions, nodeConditions]
    exact .error _
  | .group op children, d, d', hle, hm => by
    rw [nodeConditions, nodeConditions]
    split
    next => exact .ok fun ρ h => by rw [(hm ρ h).2]; rfl
    next =>
      refine (childConditions_agree hg hnames hc subquery path children hle hm).bind fun r r' hr => .ok fun ρ h => ?_
      obtain ⟨ps, e⟩ := r
      rw [hr ρ h, ← Logical.all_rename op ρ.injective]
      cases op.all ps <;> rfl
  | .field segment nested, d, d', hle, hm => by
    rw [nodeConditions, nodeConditions, Setting.config_drawing, Setting.config_drawing]
    refine (Agree.same _).bind fun _ _ _ => ?_
    split
    next =>
      refine (columnConditions_agree hg c m m' path segment.field nested).bind fun ps qs hps => .ok fun ρ h => ?_
      obtain ⟨hm, hd⟩ := hm ρ h
      rw [hps ρ (h.fixed c hc) hm, hd]
    next =>
      rw [Setting.hop_drawing, Setting.hop_drawing]
      refine (Agree.same _).bind fun hop _ h => ?_
      obtain ⟨rfl, hh⟩ := h
      have hh := hop_eq_ok.1 hh
      split
      next =>
        have hrelated := hnames _ (Schema.relates_relation_collection hh)
        refine (Agree.same _).bind fun key _ h => ?_
        obtain ⟨rfl, -⟩ := h
        refine (planJoins_agree hnames hrelated nested hle fun ρ h => (hm ρ h).2).bind fun plan plan' hplan => ?_
        have hinside : AliasesInStep source source' names n plan.aliases plan'.aliases plan.draws plan'.draws :=
          fun ρ h => by rw [hplan.renamed ρ h]; exact ⟨rfl, rfl⟩
        refine (conditions_agree hg hnames hrelated true [] nested hplan.drew.le hinside).results.bind fun r r' hr => ?_
        obtain ⟨ps, e⟩ := r
        obtain ⟨qs, e'⟩ := r'
        obtain ⟨hr, hx, hy⟩ := hr
        refine .ok fun ρ h => ?_
        obtain rfl := hplan.renamed ρ (h.mono (le_of_conditions nested hx) (le_of_conditions nested hy))
        obtain ⟨rfl, rfl⟩ := Prod.mk.inj (hr ρ h)
        exact congrArg (fun p => ([p], e')) (hop.membership_rename ρ.injective (h.fixed c hc) (h.fixed _ hrelated) key
          plan ps)
      next =>
        refine (Agree.same _).bind fun target _ h => ?_
        obtain ⟨rfl, ht⟩ := h
        exact conditions_agree hg hnames (hnames target (Schema.relates_target hh ht)) subquery _ nested hle hm

theorem conditions_agree (hg : setting.geometry.Uniform)
    (hnames : ∀ name, setting.schema.Relates name → names name) {c : String} (hc : names c)
    (subquery : Bool) {m m' : AliasMap} (path : Path) : (f : List Node) → {d d' : Nat} →
    n ≤ d → AliasesInStep source source' names n m m' d d' →
    Agree (ConditionsInStep source source' names n)
      (conditions (setting.drawing source) ⟨subquery, m⟩ c path f d)
      (conditions (setting.drawing source') ⟨subquery, m'⟩ c path f d')
  | [], d, d', hle, hm => by
    rw [conditions, conditions]
    exact .ok fun ρ h => by rw [(hm ρ h).2]; rfl
  | node :: rest, d, d', hle, hm => by
    rw [conditions, conditions]
    refine (nodeConditions_agree hg hnames hc subquery path node hle hm).results.bind fun r r' hr => ?_
    obtain ⟨hr, hx, hy⟩ := hr
    have hd := le_of_nodeConditions node hx
    have hm := hm.next hr hd (le_of_nodeConditions node hy)
    refine (conditions_agree hg hnames hc subquery path rest (Nat.le_trans hle hd) hm).results.bind fun t t' ht => ?_
    obtain ⟨ht, hx, hy⟩ := ht
    exact .ok (hr.append ht (le_of_conditions rest hx) (le_of_conditions rest hy))

theorem childConditions_agree (hg : setting.geometry.Uniform)
    (hnames : ∀ name, setting.schema.Relates name → names name) {c : String} (hc : names c)
    (subquery : Bool) {m m' : AliasMap} (path : Path) : (fs : List (List Node)) →
    {d d' : Nat} → n ≤ d → AliasesInStep source source' names n m m' d d' →
    Agree (ConditionsInStep source source' names n)
      (childConditions (setting.drawing source) ⟨subquery, m⟩ c path fs d)
      (childConditions (setting.drawing source') ⟨subquery, m'⟩ c path fs d')
  | [], d, d', hle, hm => by
    rw [childConditions, childConditions]
    exact .ok fun ρ h => by rw [(hm ρ h).2]; rfl
  | f :: fs, d, d', hle, hm => by
    rw [childConditions, childConditions]
    refine (conditions_agree hg hnames hc subquery path f hle hm).results.bind fun r r' hr => ?_
    obtain ⟨hr, hx, hy⟩ := hr
    have hd := le_of_conditions f hx
    have hm := hm.next hr hd (le_of_conditions f hy)
    refine (childConditions_agree hg hnames hc subquery path fs (Nat.le_trans hle hd) hm).results.bind fun t t' ht => ?_
    obtain ⟨ht, hx, hy⟩ := ht
    exact .ok (hr.append ht (le_of_childConditions fs hx) (le_of_childConditions fs hy))

end

theorem compileFilter_agree (hg : setting.geometry.Uniform)
    (hnames : ∀ name, setting.schema.Relates name → names name) {c : String} (hc : names c)
    (subquery : Bool) (f : Filter) :
    Agree (fun r r' => ∀ ρ, Matches source source' names n ρ r.2 r'.2 → r' = (r.1.rename ρ, r.2))
      (compileFilter (setting.drawing source) subquery c f n)
      (compileFilter (setting.drawing source') subquery c f n) := by
  unfold compileFilter
  refine (planJoins_agree hnames hc f (Nat.le_refl n) fun _ _ => rfl).bind fun plan plan' hplan => ?_
  have hm : AliasesInStep source source' names n plan.aliases plan'.aliases plan.draws plan'.draws :=
    fun ρ h => by rw [hplan.renamed ρ h]; exact ⟨rfl, rfl⟩
  refine (conditions_agree hg hnames hc subquery [] f hplan.drew.le hm).results.bind fun r r' hr => .ok fun ρ h => ?_
  obtain ⟨ps, e⟩ := r
  obtain ⟨qs, e'⟩ := r'
  obtain ⟨hr, hx, hy⟩ := hr
  obtain rfl := hplan.renamed ρ (h.mono (le_of_conditions f hx) (le_of_conditions f hy))
  obtain ⟨rfl, rfl⟩ := Prod.mk.inj (hr ρ h)
  exact congrArg (·, e') (plan.body_rename ρ.injective ps)

end

/-- Whether the tokens that a pass draws, if it comes to an end, are different, and no collections
of the pass or of a relation. -/
def Setting.DrawsFresh (setting : Setting) (subquery : Bool) (c : String) (f : Filter) (n : Nat) : Prop :=
  ∀ compiled n', compileFilter setting subquery c f n = .ok (compiled, n') →
    setting.source.Fresh (fun name => name = c ∨ setting.schema.Relates name) n n'

/-- Which tokens a pass draws does not matter, as long as they are fresh. With the tokens of another
source the pass fails with the same error, or it comes to the same joins and the same condition with
other aliases: a permutation of names, which leaves the collections alone and makes the tokens of
one source those of the other, makes one of the other. There are as many joins, and the statement
binds the same parameters in the same order. -/
theorem compileFilter_renamed (setting : Setting) {source source' : AliasSource} {subquery : Bool} {c : String}
    {f : Filter} {n : Nat} (hg : setting.geometry.Uniform) (hs : (setting.drawing source).DrawsFresh subquery c f n)
    (hs' : (setting.drawing source').DrawsFresh subquery c f n) :
    (∃ e, compileFilter (setting.drawing source) subquery c f n = .error e ∧
      compileFilter (setting.drawing source') subquery c f n = .error e) ∨
    ∃ (ρ : Equiv.Perm String) (compiled : Compiled) (n' : Nat),
      compileFilter (setting.drawing source) subquery c f n = .ok (compiled, n') ∧
      compileFilter (setting.drawing source') subquery c f n = .ok (compiled.rename ρ, n') ∧
      (∀ i, n ≤ i → i < n' → ρ (source.token i) = source'.token i) ∧
      (∀ name, name = c ∨ setting.schema.Relates name → ρ name = name) ∧
      (compiled.rename ρ).joins.length = compiled.joins.length ∧
      ((compiled.rename ρ).apply (.new c)).toSql.params = (compiled.apply (.new c)).toSql.params := by
  have hagree : Agree
      (fun r r' => ∀ ρ, Matches source source' (fun name => name = c ∨ setting.schema.Relates name)
        n ρ r.2 r'.2 → r' = (r.1.rename ρ, r.2))
      (compileFilter (setting.drawing source) subquery c f n)
      (compileFilter (setting.drawing source') subquery c f n) :=
    compileFilter_agree hg (fun _ h => .inr h) (.inl rfl) subquery f
  generalize hx : compileFilter (setting.drawing source) subquery c f n = x at hagree ⊢
  generalize hy : compileFilter (setting.drawing source') subquery c f n = y at hagree ⊢
  cases hagree with
  | error e => exact .inl ⟨e, rfl, rfl⟩
  | @ok r r' h =>
    obtain ⟨compiled, m⟩ := r
    obtain ⟨compiled', m'⟩ := r'
    have hfresh := hs compiled m hx
    obtain ⟨ρ, htokens, hfixed⟩ := AliasSource.exists_perm_of_fresh (hfresh.mono (Nat.min_le_left m m'))
      ((hs' compiled' m' hy).mono (Nat.min_le_right m m'))
    have hmatch : Matches source source' _ n ρ m m' :=
      ⟨hfresh, fun i hi him him' => htokens i hi (Nat.lt_min.2 ⟨him, him'⟩), hfixed⟩
    obtain ⟨rfl, rfl⟩ := Prod.mk.inj (h ρ hmatch)
    rw [Nat.min_self] at htokens
    refine .inr ⟨ρ, compiled, m', rfl, rfl, htokens, hfixed, List.length_map _, ?_⟩
    have happly : (compiled.rename ρ).apply (.new c) = (compiled.apply (.new c)).rename ρ :=
      compiled.apply_rename ρ.injective (.new c)
    rw [happly, Draft.toSql, Select.params_toSql, Draft.toSelect_rename, Select.params_rename, Draft.toSql,
      Select.params_toSql]

/-- Two rows of letters make the same of three hops that are joined in a statement inside. The hop
that leads there draws no token. -/
theorem compileFilter_renamed_headed : ∃ (ρ : Equiv.Perm String) (compiled : Compiled),
    compileFilter ((Setting.default .layout).drawing (.letters 0)) false "pages" .headed 0 = .ok (compiled, 3) ∧
    compileFilter ((Setting.default .layout).drawing (.letters 7485998)) false "pages" .headed 0 =
      .ok (compiled.rename ρ, 3) ∧ ρ "aaaaa" = "qjxza" ∧
    ((compiled.rename ρ).apply (.new "pages")).toSql.params = (compiled.apply (.new "pages")).toSql.params := by
  obtain ⟨first, h⟩ : ∃ first, compileFilter ((Setting.default .layout).drawing (.letters 0)) false "pages" .headed 0 =
      .ok (first, 3) := ⟨_, rfl⟩
  obtain ⟨second, h'⟩ : ∃ second, compileFilter ((Setting.default .layout).drawing (.letters 7485998)) false "pages"
      .headed 0 = .ok (second, 3) := ⟨_, rfl⟩
  have hs : ((Setting.default .layout).drawing (.letters 0)).DrawsFresh false "pages" .headed 0 := by
    intro compiled n' hn
    obtain ⟨-, rfl⟩ := Prod.mk.inj (Except.ok.inj (hn.symm.trans h))
    exact AliasSource.fresh_letters fun i _ => by revert i; decide
  have hs' : ((Setting.default .layout).drawing (.letters 7485998)).DrawsFresh false "pages" .headed 0 := by
    intro compiled n' hn
    obtain ⟨-, rfl⟩ := Prod.mk.inj (Except.ok.inj (hn.symm.trans h'))
    exact AliasSource.fresh_letters fun i _ => by revert i; decide
  rcases compileFilter_renamed (.default .layout) Geometry.uniform_postgis hs hs' with
    ⟨e, he, -⟩ | ⟨ρ, compiled, n', hfirst, hsecond, htokens, -, -, hparams⟩
  · exact absurd (he.symm.trans h) (by simp)
  · obtain ⟨rfl, rfl⟩ := Prod.mk.inj (Except.ok.inj (hfirst.symm.trans h))
    exact ⟨ρ, compiled, hfirst, hsecond, htokens 0 (Nat.le_refl 0) (by decide), hparams⟩

end PathQuery
