import PathQuery.Proofs.Compile.Scope
import PathQuery.Proofs.Filter.Paths
import PathQuery.Proofs.Sql.Nested

/-!
# Statements read what relations lead to

* `Schema.Stems` : a join is about a relation that the schema has for the collection of a table
  before it, and it joins what this relation leads to, in one of three forms;
* `Plan.Stems` : the joins of a plan are such, and each path that has an alias leads to the table of
  its join;
* `Schema.Related` : a statement inside finds the foreign keys of a relation to many rows of a
  collection.

The name of a table may come from a scope of the filter, so the law has to hold wherever the walk
for the joins gets (`Plans.stems`); the walk for the conditions adds no tables but those of
statements inside, each from a plan of its own (`Walks.nests`).
-/

namespace PathQuery

open Sql (Column Predicate Draft Join Select)

/-- The collections that a statement reads, with the names that they go by. -/
def Sql.namedTables (root : String) (js : List Join) : List (String × String) :=
  (root, root) :: js.map fun j => (j.aliasName, j.table)

/-- Whether a join stems from a relation that `parent`, the root or a join before it, has as a
collection `c`. -/
inductive Schema.Stems (s : Schema) (subquery : Bool) (root : String) (before : List Join) : Join → Prop where
  /-- It joins the row of the related collection that a foreign key refers to. -/
  | manyToOne {parent c r target k a} (hp : (parent, c) ∈ Sql.namedTables root before)
      (hh : s.hop? c r.field = some ⟨r, .manyToOne⟩) (hr : r ∈ s.relations) (hc : r.collection = c)
      (ht : r.relatedCollection = some target) (hk : s.collection? target = some k) :
      Stems s subquery root before ⟨target, a, .compare .eq (.field parent r.field) (.field a k.primary)⟩
  /-- It joins the row that a foreign key refers to if the row names its collection, which is an
  allowed one. -/
  | manyToAny {parent c r details allowed target collectionField k a}
      (hp : (parent, c) ∈ Sql.namedTables root before) (hh : s.hop? c r.field = some ⟨r, .manyToAny⟩)
      (hr : r ∈ s.relations) (hc : r.collection = c) (hd : r.details = some details)
      (hallowed : details.oneAllowedCollections = some allowed) (ht : target ∈ allowed)
      (hf : details.oneCollectionField = some collectionField) (hk : s.collection? target = some k) :
      Stems s subquery root before ⟨target, a,
        .and (.compare .eq (.field parent r.field) (.field a k.primary))
          (.compare .eq (.field parent collectionField) (.param (.text target)))⟩
  /-- It joins the rows whose foreign keys refer to the parent, which is a join itself if the pass
  is not one inside. -/
  | oneToMany {parent c r details field k a} (hp : (parent, c) ∈ Sql.namedTables root before)
      (hh : s.hop? c field = some ⟨r, .oneToMany⟩) (hr : r ∈ s.relations) (hc : r.relatedCollection = some c)
      (hd : r.details = some details) (hf : details.oneField = some field) (hk : s.collection? c = some k)
      (hmany : subquery = true ∨ parent ∈ before.map Join.aliasName) :
      Stems s subquery root before
        ⟨r.collection, a, .compare .eq (.field parent k.primary) (.field a r.field)⟩

/-! ## Hops -/

theorem Hop.stems {s : Schema} {subquery : Bool} {root c parent target a : String} {before : List Join} {hop : Hop}
    {segment : Segment} {on : Predicate} (hh : s.hop? c segment.field = some hop)
    (ht : hop.target s segment = .ok target) (ho : hop.condition s segment c parent target a = .ok on)
    (hp : (parent, c) ∈ Sql.namedTables root before)
    (hmany : hop.kind = .oneToMany → subquery = true ∨ parent ∈ before.map Join.aliasName) :
    s.Stems subquery root before ⟨target, a, on⟩ := by
  have hr := Schema.relation_mem_of_hop? hh
  obtain ⟨r, kind⟩ := hop
  cases kind with
  | manyToOne =>
    obtain ⟨hc, hf⟩ := Schema.field_of_hop? hh (by simp)
    have htarget := Hop.related_of_target ht
    obtain ⟨key, hkey, ho⟩ := exists_of_bind_eq_ok ho
    obtain ⟨k, hk, rfl⟩ := Schema.exists_of_primaryKey hkey
    obtain rfl := Except.ok.inj ho
    exact .manyToOne hp (hf ▸ hh) hr hc htarget hk
  | manyToAny =>
    obtain ⟨hc, hf⟩ := Schema.field_of_hop? hh (by simp)
    obtain ⟨hscope, details, allowed, hd, hallowed, hm⟩ := Hop.scope_of_target ht
    unfold Hop.condition at ho
    dsimp only at ho
    split at ho
    next => exact absurd ho (by simp)
    next collectionField hcf =>
      obtain ⟨key, hkey, ho⟩ := exists_of_bind_eq_ok ho
      obtain ⟨k, hk, rfl⟩ := Schema.exists_of_primaryKey hkey
      obtain rfl := Except.ok.inj ho
      have hcf : details.oneCollectionField = some collectionField := by
        simpa [Hop.collectionField?, hd] using hcf
      rw [hscope, Option.getD_some, conj_compare_param]
      exact .manyToAny hp (hf ▸ hh) hr hc hd hallowed hm hcf hk
  | oneToMany =>
    obtain ⟨hc, details, hd, hf⟩ := Schema.details_of_hop? hh
    obtain rfl : r.collection = target := Except.ok.inj ht
    obtain ⟨key, hkey, ho⟩ := exists_of_bind_eq_ok ho
    obtain ⟨k, hk, rfl⟩ := Schema.exists_of_primaryKey hkey
    obtain rfl := Except.ok.inj ho
    exact .oneToMany hp hh hr hc hd hf hk (hmany rfl)

/-! ## Joins -/

variable {setting : Setting} {subquery : Bool} {root c target : String} {path : Path} {f : Filter} {p p' : Plan}

theorem Schema.destination?_concat {s : Schema} {segment : Segment} {hop : Hop}
    (hc : s.destination? root (path.map Segment.ofKey) = some c)
    (hh : s.hop? c segment.field = some hop) (ht : hop.target s segment = .ok target) :
    s.destination? root ((path ++ [segment.key]).map Segment.ofKey) = some target := by
  rw [List.map_append, destination?_append hc, List.map_singleton, segment.ofKey_key, destination?_cons hh ht]
  rfl

variable (setting subquery) in
/-- Whether the joins of a plan stem from relations, and its aliases are of the tables that their
paths lead to. -/
structure Plan.Stems (p : Plan) (root : String) : Prop where
  joins : ∀ before j, before ++ [j] <+: p.joins → setting.schema.Stems subquery root before j
  aliases : ∀ path a, p.aliases.lookup? path = some a → ∃ j ∈ p.joins, j.aliasName = a ∧
    setting.schema.destination? root (path.map Segment.ofKey) = some j.table

namespace Plan

theorem stems_start (root : String) (draws : Nat) : (Plan.start root draws).Stems setting subquery root where
  joins := fun before j hj => absurd (List.prefix_nil.1 hj) (by simp)
  aliases := fun path a ha => absurd ha (by simp)

/-- Below the first hop, the table of a place is that of a join. -/
theorem Stems.mem_joins (hp : p.Stems setting subquery root) (hk : p.Knows root path c) (hpath : path ≠ [])
    (hc : setting.schema.destination? root (path.map Segment.ofKey) = some c) :
    (p.aliases.tableFor path c, c) ∈ p.joins.map fun j => (j.aliasName, j.table) := by
  obtain ⟨a, ha⟩ := hk.exists_alias hpath
  obtain ⟨j, hj, rfl, hd⟩ := hp.aliases path a ha
  obtain rfl := Option.some.inj (hc.symm.trans hd)
  have htable : p.aliases.table? path j.table = some j.aliasName := by
    rw [AliasMap.table?, if_neg (by simpa using hpath), ha]
  rw [AliasMap.tableFor_eq htable]
  exact List.mem_map_of_mem hj

/-- The table of a place is one of the statement, and it is the collection that the place is
about. -/
theorem Stems.mem_namedTables (hp : p.Stems setting subquery root) (hk : p.Knows root path c)
    (hc : setting.schema.destination? root (path.map Segment.ofKey) = some c) :
    (p.aliases.tableFor path c, c) ∈ Sql.namedTables root p.joins := by
  by_cases hpath : path = []
  · obtain rfl := hk.root_eq hpath
    rw [hpath]
    exact List.mem_cons_self
  · exact List.mem_cons_of_mem _ (hp.mem_joins hk hpath hc)

/-- A hop from a place joins what its relation leads to. -/
theorem Extends.stems {hop : Hop} {segment : Segment} (h : p.Extends setting hop segment c path target p')
    (hp : p.Stems setting subquery root) (hk : p.Knows root path c)
    (hc : setting.schema.destination? root (path.map Segment.ofKey) = some c)
    (hh : setting.schema.hop? c segment.field = some hop)
    (hf : hop.isDeferred subquery path = false) (ht : hop.target setting.schema segment = .ok target) :
    p'.Stems setting subquery root := by
  cases h with
  | known ha => exact hp
  | @joins n on draws hn hu ho =>
    refine ⟨fun before j hj => ?_, fun other a ha => ?_⟩
    · rcases List.prefix_concat_iff.1 hj with heq | hj
      · obtain ⟨rfl, hlast⟩ := List.append_inj' heq rfl
        obtain rfl := List.singleton_inj.1 hlast
        refine Hop.stems hh ht ho (hp.mem_namedTables hk hc) fun hkind => ?_
        -- a hop to many rows that is not deferred is in a statement inside or below another hop
        by_cases hpath : path = []
        · left
          simpa [Hop.isDeferred, hkind, hpath] using hf
        · right
          obtain ⟨j, hj, heq⟩ := List.mem_map.1 (hp.mem_joins hk hpath hc)
          exact List.mem_map.2 ⟨j, hj, (Prod.mk.inj heq).1⟩
      · exact hp.joins before j hj
    · rcases AliasMap.eq_or_of_lookup?_record ha with ⟨rfl, rfl⟩ | ha
      · exact ⟨_, List.mem_append_right _ (List.mem_singleton_self _), rfl,
          Schema.destination?_concat hc hh ht⟩
      · obtain ⟨j, hj, hja, hd⟩ := hp.aliases other a ha
        exact ⟨j, List.mem_append_left _ hj, hja, hd⟩

end Plan

theorem Plans.stems (h : Plans setting subquery c path f p p')
    (hp : p.Stems setting subquery root) (hk : p.Knows root path c)
    (hc : setting.schema.destination? root (path.map Segment.ofKey) = some c) : p'.Stems setting subquery root := by
  induction h with
  | nil => exact hp
  | comparison _ ih => exact ih hp hk hc
  | everything _ _ ih => exact ih hp hk hc
  | group _ hgroup _ ihgroup ihrest =>
    exact ihrest (ihgroup hp hk hc) (hk.grows hgroup.grows) hc
  | column _ _ ih => exact ih hp hk hc
  | unrelated _ _ _ ih => exact ih hp hk hc
  | deferred _ _ _ _ ih => exact ih hp hk hc
  | hop _ hh hf ht ha hnested _ ihnested ihrest =>
    have hp₁ := ha.stems hp hk hc hh hf ht
    have hp₂ := ihnested hp₁ ha.knows (Schema.destination?_concat hc hh ht)
    exact ihrest hp₂ (hk.grows (ha.grows.trans hnested.grows)) hc

theorem stems_of_planJoins {n : Nat} {plan : Plan} (h : planJoins setting subquery root f n = .ok plan) :
    plan.Stems setting subquery root :=
  (plans_of_planJoins h).stems (Plan.stems_start root n) (Plan.knows_start root n) rfl

/-! ## Statements inside -/

/-- Whether conditions of geometry hold no statement, unless their column does. -/
def Geometry.IsScalar (g : Geometry) : Prop :=
  ∀ op c p, c.isScalar = true → (g.write op c p).Nests fun _ _ => False

theorem Geometry.isScalar_postgis : Geometry.postgis.IsScalar := by
  intro op c p hc
  have hcall (before between after : String) : (call before between after c p).Nests fun _ _ => False := by
    refine .raw fun c' hc' => ?_
    simp only [List.mem_cons, Sql.Fragment.column.injEq, reduceCtorEq, List.not_mem_nil, false_or, or_false] at hc'
    rcases hc' with rfl | rfl
    · exact hc
    · rfl
  cases op <;> exact hcall _ _ _

theorem Test.on_nests {g : Geometry} {column : Column} {law : Column → Select → Prop} (hg : g.IsScalar)
    (hc : column.isScalar = true) (t : Test) : (t.on g column).Nests law := by
  induction t with
  | const value => exact .const
  | null value => exact .compare hc rfl
  | compare op p => exact .compare hc rfl
  | among ps =>
    refine .compare hc ?_
    rw [Column.isScalar, Column.allScalar_eq, List.all_map]
    exact List.all_eq_true.2 fun _ _ => rfl
  | between low high => exact .between hc rfl rfl
  | shape op p => exact (hg op column p hc).mono fun _ _ h => h.elim
  | not t ih => exact .not ih

/-- The statements inside a statement about `c`: each finds the foreign keys of a relation that
leads from many rows to `c`, and the column that is looked for in them is the key of `c`. -/
inductive Schema.Related (s : Schema) (c : String) : Column → Select → Prop where
  | keys {r details field k joins condition} (hh : s.hop? c field = some ⟨r, .oneToMany⟩) (hr : r ∈ s.relations)
      (hc : r.relatedCollection = some c) (hd : r.details = some details) (hf : details.oneField = some field)
      (hk : s.collection? c = some k)
      (hjoins : ∀ before j, before ++ [j] <+: joins → s.Stems true r.collection before j)
      (hcondition : ∀ p ∈ condition, p.Nests fun _ _ => False) :
      Related s c (.field c k.primary)
        (Draft.toSelect ⟨r.collection, [.field r.collection r.field], joins, condition, [], none, none⟩)

/-- The conditions of a walk hold no statements but those that find related rows, and only outside
of others. -/
theorem Walks.nests {pass : Pass} {ps : List Predicate} (h : Walks setting pass c path f ps)
    (hg : setting.geometry.IsScalar) (hroot : path = [] → c = root) :
    ∀ p ∈ ps, p.Nests fun column s => pass.subquery = false ∧ setting.schema.Related root column s := by
  induction h generalizing root with
  | nil => exact fun p hp => absurd hp List.not_mem_nil
  | everything _ _ ih => exact List.forall_mem_cons.2 ⟨.const, ih hroot⟩
  | group _ _ _ ihgroup ihrest =>
    refine List.forall_mem_append.2 ⟨fun p hp => ?_, ihrest hroot⟩
    exact Predicate.closed_nests.all (ihgroup hroot) p (Option.mem_toList.1 hp)
  | column _ _ hq _ ih =>
    obtain ⟨tests, -, rfl⟩ := exists_tests_of_columnConditions hq
    exact List.forall_mem_append.2 ⟨List.forall_mem_map.2 fun t _ => t.on_nests hg rfl, ih hroot⟩
  | @deferred pass c path segment nested rest hop key plan draws qs ps _ _ hh hf hkey hp _ _ ihbody ihrest =>
    obtain ⟨r, kind⟩ := hop
    obtain ⟨rfl, hfirst⟩ := Hop.isDeferred_iff.1 hf
    obtain ⟨hpath, hsub⟩ := isFirst_iff.1 hfirst
    obtain rfl := hroot hpath
    obtain ⟨hc, details, hd, hfield⟩ := Schema.details_of_hop? hh
    obtain ⟨k, hk, rfl⟩ := Schema.exists_of_primaryKey hkey
    -- the body is a pass inside, where hops to many rows are joined
    have hbody : ∀ q ∈ Sql.Logical.all .and qs, q.Nests fun _ _ => False :=
      Predicate.closed_nests.all fun q hq =>
        (ihbody (fun _ => rfl) q hq).mono fun _ _ h => absurd h.1 (by simp)
    have hsound := (plans_of_planJoins hp).sound (Plan.sound_start r.collection draws)
    refine List.forall_mem_cons.2 ⟨?_, ihrest hroot⟩
    rw [Hop.membership, Compiled.foreignKeys, hsound.apply_new]
    exact .membership ⟨hsub, .keys hh (Schema.relation_mem_of_hop? hh) hc hd hfield hk
      (stems_of_planJoins hp).joins hbody⟩
  | hop _ _ _ _ _ _ _ ihnested ihrest =>
    exact List.forall_mem_append.2 ⟨ihnested fun hn => absurd hn (by simp), ihrest hroot⟩

/-- The statement of a filter reads its collection and what relations lead to, one after the other,
from there; a statement inside does so from a collection that has a relation to the first one. -/
theorem stems_of_applyFilter {n n' : Nat} {d : Draft}
    (h : setting.applyFilter (Draft.new c) f c subquery n = .ok (d, n'))
    (hg : setting.geometry.IsScalar) : ∃ joins condition, d = ⟨c, [], joins, condition, [], none, none⟩ ∧
      (∀ before j, before ++ [j] <+: joins → setting.schema.Stems subquery c before j) ∧
      ∀ p ∈ condition, p.Nests fun column s => subquery = false ∧ setting.schema.Related c column s := by
  obtain ⟨plan, ps, hp, hw, rfl⟩ := exists_of_applyFilter h
  have hsound := (plans_of_planJoins hp).sound (Plan.sound_start c n)
  refine ⟨plan.joins, Sql.Logical.all .and ps, hsound.apply_new [] ps, (stems_of_planJoins hp).joins, ?_⟩
  exact Predicate.closed_nests.all (hw.nests hg fun _ => rfl)

/-- Pages with a block that shows a heading of a text, on a page with a block of a number. -/
def Filter.headed : Filter :=
  [.field (.mk "blocks" none)
    [.field (.mk "item" (some "headings")) [.field (.mk "text" none) [.comparison .eq (.string "x")]],
      .field (.mk "page" none) [.field (.mk "blocks" none) [.field (.mk "id" none) [.comparison .eq (.string "3")]]]]]

/-- A statement inside with a join of each form. -/
theorem stems_headed : ∃ joins condition n,
    (Setting.default .layout).applyFilter (Draft.new "pages") .headed "pages" false 0 =
      .ok (⟨"pages", [], joins, condition, [], none, none⟩, n) ∧
    (∀ before j, before ++ [j] <+: joins → Schema.layout.Stems false "pages" before j) ∧
    ∀ p ∈ condition, p.Nests (Schema.layout.Related "pages") := by
  obtain ⟨d, n, h⟩ : ∃ d n, (Setting.default .layout).applyFilter (Draft.new "pages") .headed "pages" false 0 =
      .ok (d, n) := ⟨_, _, rfl⟩
  obtain ⟨joins, condition, rfl, hjoins, hcondition⟩ := stems_of_applyFilter h Geometry.isScalar_postgis
  exact ⟨joins, condition, n, h, hjoins, fun p hp => (hcondition p hp).mono fun _ _ hrelated => hrelated.2⟩

end PathQuery
