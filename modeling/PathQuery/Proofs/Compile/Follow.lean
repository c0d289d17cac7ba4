import PathQuery.Proofs.Compile.Scope
import PathQuery.Proofs.Filter.Choice

/-!
# The joins of a pass follow its paths

* `Setting.follow` : the collection and the row that the keys of a path lead to, hop by hop;
* `Filter.ToOne` : hops lead to one row, but for first hops to many rows, which are left to
  statements inside;
* `Plan.Follows` : the tables joined by a plan hold, for every row of the root, the rows that its
  paths lead to.

Where primary keys are distinct, a hop to one row matches one row of its target at most, so each
join adds a row to every environment and never multiplies them (`Plans.follows`).
-/

namespace PathQuery

open Sql (Column Predicate Join joined Truth Row Env Database Dialect)

variable {V : Type} [DecidableEq V]

/-- Whether the primary keys of the collections are distinct and never null. -/
def Sql.Database.Keyed (db : Database V) (s : Schema) : Prop :=
  ∀ name c, s.collection? name = some c →
    (∀ r ∈ db name, (r c.primary).isSome = true) ∧ ((db name).map fun r => r c.primary).Nodup

omit [DecidableEq V] in
theorem Sql.Database.Keyed.nodup {db : Database V} {s : Schema} (h : db.Keyed s) {table key : String}
    (hk : s.primaryKey table = .ok key) : ((db table).map fun r => r key).Nodup := by
  obtain ⟨c, hc, rfl⟩ := Schema.exists_of_primaryKey hk
  exact (h table c hc).2

/-- Whether the hops of a filter about a collection lead to one row. Hops to many rows are allowed
only where they come `first`, with hops to one row below them; a group that matches everything is
not looked into. -/
inductive Filter.ToOne (s : Schema) : (first : Bool) → String → Filter → Prop where
  | nil {first c} : ToOne s first c []
  | comparison {first c op v rest} (hrest : ToOne s first c rest) :
      ToOne s first c (.comparison op v :: rest)
  | everything {first c op children rest} (hm : Filter.matchesAll op children = true)
      (hrest : ToOne s first c rest) : ToOne s first c (.group op children :: rest)
  | group {first c op children rest} (hgroup : ToOne s first c children.flatten)
      (hrest : ToOne s first c rest) : ToOne s first c (.group op children :: rest)
  | column {first c segment nested rest} (hc : Filter.isComparisons nested = true)
      (hrest : ToOne s first c rest) : ToOne s first c (.field segment nested :: rest)
  | one {first c segment nested rest hop target} (hh : s.hop? c segment.field = some hop)
      (hk : hop.kind ≠ .oneToMany) (ht : hop.target s segment = .ok target)
      (hnested : ToOne s false target nested) (hrest : ToOne s first c rest) :
      ToOne s first c (.field segment nested :: rest)
  | many {c segment nested rest hop} (hh : s.hop? c segment.field = some hop)
      (hk : hop.kind = .oneToMany) (hnested : ToOne s false hop.relation.collection nested)
      (hrest : ToOne s true c rest) : ToOne s true c (.field segment nested :: rest)

/-! ## One match at most -/

section

variable {d : Dialect V} {db : Database V} {e : Env V}

/-- At most one of some rows has a value under a key without repetitions. -/
theorem filter_key {rows : List (Row V)} {key : String} (h : (rows.map fun r => r key).Nodup) (v : V) :
    rows.filter (fun r => r key = some v) = (rows.find? fun r => r key = some v).toList := by
  induction rows with
  | nil => rfl
  | cons r rows ih =>
    rw [List.map_cons, List.nodup_cons] at h
    by_cases hr : r key = some v
    · have hnone : rows.filter (fun r => r key = some v) = [] := by
        refine List.filter_eq_nil_iff.2 fun x hx => ?_
        intro hv
        refine h.1 (List.mem_map.2 ⟨x, hx, ?_⟩)
        rw [of_decide_eq_true hv, hr]
      rw [List.filter_cons_of_pos (by simpa using hr), List.find?_cons_of_pos (by simpa using hr), hnone]
      rfl
    · rw [List.filter_cons_of_neg (by simpa using hr), List.find?_cons_of_neg (by simpa using hr), ih h.2]

/-- The rows that match a cell are the row that it refers to, or none if that is the row of
nulls. -/
theorem exists_match {table key : String} (h : ((db table).map fun r => r key).Nodup) (cell : Option V) :
    ∃ m : Option (Row V), m.getD .null = db.row table key cell ∧
      (db table).filter (fun r => Truth.both (fun x y => x == y) cell (r key) = .true) = m.toList := by
  cases cell with
  | none => exact ⟨none, rfl, List.filter_eq_nil_iff.2 fun r _ => by simp [Truth.both]⟩
  | some v =>
    refine ⟨(db table).find? fun r => r key = some v, rfl, ?_⟩
    rw [← filter_key h v]
    refine List.filter_congr fun r _ => decide_eq_decide.2 ?_
    rw [Truth.both_eq_true]
    constructor
    · rintro ⟨w, hw, hr⟩
      exact hr.trans hw.symm
    · exact fun hr => ⟨v, rfl, hr⟩

/-- A join with one match at most adds a row to each environment. -/
theorem rows_joined_append {root : String} {js : List Join} {j : Join} {E : Row V → Env V}
    {move : Row V → Row V} (h : (joined root js).rows d db e = (db root).map E)
    (hm : ∀ r, ∃ m : Option (Row V), m.getD .null = move r ∧
      (db j.table).filter (fun x => j.on.truth d db ((E r).set j.aliasName x) = .true) = m.toList) :
    (joined root (js ++ [j])).rows d db e = (db root).map fun r => (E r).set j.aliasName (move r) := by
  rw [Sql.joined_append, Sql.Table.rows, h, List.flatMap_map, List.map_eq_flatMap]
  refine congrArg ((db root).flatMap ·) (funext fun r => ?_)
  obtain ⟨m, hmove, hfilter⟩ := hm r
  rw [Sql.Table.rows, List.filter_map]
  have hf : (db j.table).filter ((fun y => decide (j.on.truth d db y = .true)) ∘
      fun x => (E r).set ((some j.aliasName).getD j.table) x) = m.toList := hfilter
  rw [hf, ← hmove]
  cases m <;> rfl

end

variable (setting : Setting) (d : Dialect V) (db : Database V)

/-- The collection and the row that a key leads to from others. -/
def Setting.step (place : String × Row V) (key : String) : String × Row V :=
  match setting.schema.hop? place.1 (Segment.ofKey key).field with
  | none => place
  | some hop =>
    match hop.target setting.schema (.ofKey key) with
    | .error _ => place
    | .ok target => (target, hop.referenced setting d db (.ofKey key) target place.2)

/-- The collection and the row that a path leads to from a row of `root`. -/
def Setting.follow (root : String) (r : Row V) (path : Path) : String × Row V :=
  path.foldl (setting.step d db) (root, r)

/-- Whether the tables of a plan hold the rows that its paths lead to, in the environment of each
row. -/
structure Plan.Follows (p : Plan) (root : String) (e : Env V) (E : Row V → Env V) : Prop where
  rows : (joined root p.joins).rows d db e = (db root).map E
  start : ∀ r, E r root = r
  aliases : ∀ path a, p.aliases.lookup? path = some a → ∀ r, E r a = (setting.follow d db root r path).2

variable {setting d db}

theorem Setting.follow_append {root c target : String} {path : Path} {segment : Segment} {hop : Hop}
    {r : Row V}
    (hh : setting.schema.hop? c segment.field = some hop)
    (ht : hop.target setting.schema segment = .ok target)
    (hc : (setting.follow d db root r path).1 = c) :
    setting.follow d db root r (path ++ [segment.key]) =
      (target, hop.referenced setting d db segment target (setting.follow d db root r path).2) := by
  unfold follow at hc ⊢
  rw [List.foldl_append, List.foldl_cons, List.foldl_nil]
  generalize path.foldl (setting.step d db) (root, r) = place at hc ⊢
  unfold step
  rw [segment.ofKey_key, hc, hh]
  dsimp only
  rw [ht]

/-- The condition of a join by a key compares the cell of the one table with the key of the
other. -/
theorem truth_reference {table a : String} (ha : table ≠ a) (field key : String) (e : Env V) (x : Row V) :
    (Predicate.compare .eq (.field table field) (.field a key)).truth d db (e.set a x) =
      Truth.both (fun y z => y == z) (e table field) (x key) := by
  rw [Predicate.truth_eq_fields, Env.set_of_ne e x ha, Env.set_self]

/-- The condition of a join by a key and a name of a collection asks for both. -/
theorem truth_scoped_reference {table a : String} (ha : table ≠ a) (field key collectionField : String)
    (scope : Param) (e : Env V) (x : Row V) :
    (Predicate.conj (.compare .eq (.field table field) (.field a key))
      (.compare .eq (.field table collectionField) (.param scope))).truth d db (e.set a x) = .true ↔
      Truth.both (fun y z => y == z) (e table field) (x key) = .true ∧
        e table collectionField = some (d.value scope) := by
  rw [Predicate.truth_conj, Truth.and_eq_true, truth_reference ha, Predicate.truth_eq_param,
    Env.set_of_ne e x ha]
  refine and_congr_right fun _ => ?_
  rw [Truth.both_eq_true]
  constructor
  · rintro ⟨v, hv, hw⟩
    exact hv.trans hw.symm
  · exact fun hv => ⟨_, hv, rfl⟩

/-- The condition of a hop matches the rows that the hop leads to. -/
theorem Hop.filter_condition {hop : Hop} {segment : Segment} {c table target a : String} {on : Predicate}
    (ho : hop.condition setting.schema segment c table target a = .ok on) (ha : table ≠ a) (e : Env V) :
    (db target).filter (fun x => on.truth d db (e.set a x) = .true) =
      hop.related setting d db segment c target (e table) := by
  unfold Hop.condition at ho
  unfold Hop.related
  cases hkind : hop.kind with
  | manyToOne =>
    rw [hkind] at ho
    obtain ⟨key, hk, ho⟩ := exists_of_bind_eq_ok ho
    obtain rfl := Except.ok.inj ho
    rw [hk]
    exact List.filter_congr fun x _ => by rw [truth_reference ha]
  | manyToAny =>
    rw [hkind] at ho
    cases hcf : hop.collectionField? with
    | none =>
      rw [hcf] at ho
      exact absurd ho (by simp)
    | some collectionField =>
      rw [hcf] at ho
      obtain ⟨key, hk, ho⟩ := exists_of_bind_eq_ok ho
      obtain rfl := Except.ok.inj ho
      rw [hk]
      dsimp only
      split
      next hscope =>
        refine List.filter_congr fun x _ => decide_eq_decide.2 ?_
        rw [truth_scoped_reference ha]
        exact and_iff_left hscope
      next hscope =>
        refine List.filter_eq_nil_iff.2 fun x _ => ?_
        rw [decide_eq_true_iff, truth_scoped_reference ha]
        exact fun h => hscope h.2
  | oneToMany =>
    rw [hkind] at ho
    obtain ⟨key, hk, ho⟩ := exists_of_bind_eq_ok ho
    obtain rfl := Except.ok.inj ho
    rw [hk]
    refine List.filter_congr fun x _ => Bool.eq_iff_iff.2 ?_
    rw [decide_eq_true_iff, truth_reference ha, Truth.both_eq_true, isRelated, Bool.and_eq_true,
      Option.isSome_iff_exists, beq_iff_eq]
    constructor
    · rintro ⟨v, hv, hx⟩
      exact ⟨⟨v, hv⟩, hx.trans hv.symm⟩
    · rintro ⟨⟨v, hv⟩, hx⟩
      exact ⟨v, hv, hx.trans hv⟩

/-- A hop to one row leads to the row that it refers to, and to no other. -/
theorem Hop.exists_related {hop : Hop} (segment : Segment) (c target : String) (row : Row V)
    (hone : hop.kind ≠ .oneToMany) (hdb : db.Keyed setting.schema) :
    ∃ m : Option (Row V), m.getD .null = hop.referenced setting d db segment target row ∧
      hop.related setting d db segment c target row = m.toList := by
  unfold Hop.referenced Hop.related
  cases hk : setting.schema.primaryKey target with
  | error _ =>
    cases hkind : hop.kind with
    | oneToMany => exact absurd hkind hone
    | _ => exact ⟨none, rfl, rfl⟩
  | ok key =>
    obtain ⟨m, hm, hf⟩ := exists_match (hdb.nodup hk) (row hop.relation.field)
    cases hkind : hop.kind with
    | manyToOne => exact ⟨m, hm, hf⟩
    | manyToAny =>
      cases hop.collectionField? with
      | none => exact ⟨none, rfl, rfl⟩
      | some collectionField =>
        dsimp only
        split
        · exact ⟨m, hm, hf⟩
        · exact ⟨none, rfl, rfl⟩
    | oneToMany => exact absurd hkind hone

/-- The condition of a hop to one row matches the row that the hop leads to, and no other. -/
theorem Hop.exists_match_condition {hop : Hop} {segment : Segment} {c table target a : String}
    {on : Predicate} (ho : hop.condition setting.schema segment c table target a = .ok on)
    (hone : hop.kind ≠ .oneToMany) (ha : table ≠ a) (hdb : db.Keyed setting.schema) (e : Env V) :
    ∃ m : Option (Row V), m.getD .null = hop.referenced setting d db segment target (e table) ∧
      (db target).filter (fun x => on.truth d db (e.set a x) = .true) = m.toList := by
  rw [Hop.filter_condition ho ha]
  exact hop.exists_related segment c target (e table) hone hdb

variable {root c target : String} {path : Path} {p p' : Plan} {e : Env V} {E : Row V → Env V}

theorem Plan.Follows.table (hE : p.Follows setting d db root e E) (hk : p.Knows root path c) (r : Row V) :
    E r (p.aliases.tableFor path c) = (setting.follow d db root r path).2 :=
  hk.at_table (hE.start r) fun other a ha => hE.aliases other a ha r

theorem Plan.Extends.follows {hop : Hop} {segment : Segment}
    (h : p.Extends setting hop segment c path target p') (hp : p.Sound root) (hk : p.Knows root path c)
    (hE : p.Follows setting d db root e E) (hdb : db.Keyed setting.schema)
    (hh : setting.schema.hop? c segment.field = some hop)
    (hone : hop.kind ≠ .oneToMany) (ht : hop.target setting.schema segment = .ok target)
    (hc : ∀ r, (setting.follow d db root r path).1 = c) :
    ∃ E', p'.Follows setting d db root e E' := by
  cases h with
  | known ha => exact ⟨E, hE⟩
  | @joins n on draws hn hf ho =>
    have hmem := hk.table_mem hp
    have hnew := hp.not_mem hf
    have hne : p.aliases.tableFor path c ≠ setting.source.token n := fun heq => hnew (heq ▸ hmem)
    refine ⟨fun r => (E r).set (setting.source.token n)
      (hop.referenced setting d db segment target (setting.follow d db root r path).2), ?_, ?_, ?_⟩
    · refine rows_joined_append hE.rows fun r => ?_
      rw [← hE.table hk r]
      exact Hop.exists_match_condition ho hone hne hdb (E r)
    · intro r
      rw [Env.set_of_ne, hE.start]
      exact fun heq => hnew (heq ▸ List.mem_cons_self)
    · intro other a ha r
      rcases AliasMap.eq_or_of_lookup?_record ha with ⟨rfl, rfl⟩ | ha
      · rw [Env.set_self, Setting.follow_append hh ht (hc r)]
      · rw [Env.set_of_ne, hE.aliases other a ha r]
        intro heq
        exact hnew (heq ▸ List.mem_cons_of_mem root (Plan.hasJoin_iff.1 (hp.joined other a ha)))

/-! ## A whole walk -/

namespace Filter

variable {s : Schema} {first : Bool} {node : Node} {f : Filter}

theorem ToOne.rest (h : ToOne s first c (node :: f)) : ToOne s first c f := by
  cases h with
  | comparison hrest => exact hrest
  | everything _ hrest => exact hrest
  | group _ hrest => exact hrest
  | column _ hrest => exact hrest
  | one _ _ _ _ hrest => exact hrest
  | many _ _ _ hrest => exact hrest

theorem ToOne.children {op : Sql.Logical} {children : List Filter}
    (h : ToOne s first c (.group op children :: f)) (hm : Filter.matchesAll op children = false) :
    ToOne s first c children.flatten := by
  cases h with
  | everything hn _ => exact absurd (hm.symm.trans hn) (by simp)
  | group hgroup _ => exact hgroup

theorem ToOne.nested {segment : Segment} {nested : Filter} {hop : Hop}
    (h : ToOne s first c (.field segment nested :: f)) (hc : Filter.isComparisons nested = false)
    (hh : s.hop? c segment.field = some hop) (ht : hop.target s segment = .ok target)
    (hk : ¬ (hop.kind = .oneToMany ∧ first = true)) : hop.kind ≠ .oneToMany ∧ ToOne s false target nested := by
  cases h with
  | column hn _ => exact absurd (hc.symm.trans hn) (by simp)
  | one hh' hone ht' hnested _ =>
    obtain rfl := Option.some.inj (hh.symm.trans hh')
    obtain rfl := Except.ok.inj (ht.symm.trans ht')
    exact ⟨hone, hnested⟩
  | many hh' hmany _ _ =>
    obtain rfl := Option.some.inj (hh.symm.trans hh')
    exact absurd ⟨hmany, rfl⟩ hk

theorem ToOne.body {segment : Segment} {nested : Filter} {hop : Hop}
    (h : ToOne s first c (.field segment nested :: f)) (hc : Filter.isComparisons nested = false)
    (hh : s.hop? c segment.field = some hop) (hk : hop.kind = .oneToMany) :
    ToOne s false hop.relation.collection nested := by
  cases h with
  | column hn _ => exact absurd (hc.symm.trans hn) (by simp)
  | one hh' hone _ _ _ =>
    obtain rfl := Option.some.inj (hh.symm.trans hh')
    exact absurd hk hone
  | many hh' _ hnested _ =>
    obtain rfl := Option.some.inj (hh.symm.trans hh')
    exact hnested

end Filter

/-- The tables that a walk joins follow the paths that it goes along. -/
theorem Plans.follows {subquery : Bool} {f : Filter} (h : Plans setting subquery c path f p p')
    (hdb : db.Keyed setting.schema)
    (hone : f.ToOne setting.schema (isFirst subquery path) c) (hp : p.Sound root)
    (hk : p.Knows root path c) (hc : ∀ r, (setting.follow d db root r path).1 = c)
    (hE : p.Follows setting d db root e E) : ∃ E', p'.Follows setting d db root e E' := by
  induction h generalizing E with
  | nil => exact ⟨E, hE⟩
  | comparison _ ih => exact ih hone.rest hp hk hc hE
  | everything _ _ ih => exact ih hone.rest hp hk hc hE
  | group hm hgroup _ ihgroup ihrest =>
    obtain ⟨E₁, hE₁⟩ := ihgroup (hone.children hm) hp hk hc hE
    exact ihrest hone.rest (hgroup.sound hp) (hk.grows hgroup.grows) hc hE₁
  | column _ _ ih => exact ih hone.rest hp hk hc hE
  | unrelated _ _ _ ih => exact ih hone.rest hp hk hc hE
  | deferred _ _ _ _ ih => exact ih hone.rest hp hk hc hE
  | @hop c path segment nested rest hop target p p' p'' q hcs hh hf ht ha hnested _ ihnested ihrest =>
    obtain ⟨hkind, hon⟩ := hone.nested hcs hh ht (Hop.isDeferred_eq_false_iff.1 hf)
    obtain ⟨E₁, hE₁⟩ := ha.follows hp hk hE hdb hh hkind ht hc
    -- below the hop the collection is its target whichever row of the root the path starts from
    have htarget (r : Row V) : (setting.follow d db root r (path ++ [segment.key])).1 = target := by
      rw [Setting.follow_append hh ht (hc r)]
    rw [← isFirst_append subquery path segment.key] at hon
    obtain ⟨E₂, hE₂⟩ := ihnested hon (ha.sound hp) ha.knows htarget hE₁
    have hg := ha.grows.trans hnested.grows
    exact ihrest hone.rest (hnested.sound (ha.sound hp)) (hk.grows hg) hc hE₂

/-- The tables of a pass hold, at every place that it reaches, the row that leads there. -/
theorem follows_of_planJoins {subquery : Bool} {f : Filter} {n : Nat} {plan : Plan}
    (h : planJoins setting subquery root f n = .ok plan) (hdb : db.Keyed setting.schema)
    (hone : f.ToOne setting.schema (!subquery) root) (e : Env V) :
    ∃ E, plan.Follows setting d db root e E ∧ ∀ r c' path', Reaches setting subquery root [] f c' path' →
      E r (plan.aliases.tableFor path' c') = (setting.follow d db root r path').2 := by
  have hstart : (Plan.start root n).Follows setting d db root e (e.set root) := by
    refine ⟨?_, Env.set_self e root, fun path a ha => absurd ha (by simp)⟩
    exact Sql.Table.rows.eq_1 d db e root none
  have hk := Plan.knows_start root n
  obtain ⟨E, hE⟩ := (plans_of_planJoins h).follows hdb hone (Plan.sound_start root n) hk
    (fun _ => rfl) hstart
  exact ⟨E, hE, fun r c' path' hr => hE.table ((plans_of_planJoins h).knows hk hr) r⟩

end PathQuery
