import PathQuery.Proofs.Compile.Query
import PathQuery.Proofs.Compile.Test
import PathQuery.Proofs.Schema.Names
import PathQuery.Proofs.Sql.Scope

/-!
# Compiled statements are well scoped

The two walks of a pass must agree on the paths they go along.

* `Reaches` : the collections and paths that a pass gets to, whatever it does there;
* `Plan.Knows` : a plan has an alias for a path, unless the path is that of the root itself;
* `Plan.Fits` : the joins of a sound plan are well scoped, and each starts from a table that its
  plan knows.

The walk for the joins makes a plan that knows all that is reached (`Plans.knows`) and fits
(`Plans.fits`); the walk for the conditions names tables only where it reaches, so it stays in the
scope of the joins (`Walks.scoped`).
-/

namespace PathQuery

open Sql (Column Predicate Draft Join joined)

/-- Whether conditions of geometry are about nothing but their column. -/
def Geometry.Local (g : Geometry) : Prop :=
  ∀ op names c p, Column.Scoped names c → (g.write op c p).Scoped names

theorem Geometry.local_postgis : Geometry.postgis.Local := by
  intro op names c p h
  have hcall (before between after : String) : (call before between after c p).Scoped names := by
    rw [call, Predicate.Scoped]
    simp only [Sql.Fragment.AllScoped, Column.Scoped]
    exact ⟨h, trivial, trivial⟩
  cases op <;> exact hcall _ _ _

variable {setting : Setting}

/-- The places of a pass: a collection, and the path that leads to it. -/
inductive Reaches (setting : Setting) (subquery : Bool) : String → Path → Filter → String → Path → Prop where
  | here {c path f} : Reaches setting subquery c path f c path
  | rest {c path node rest c' path'} (h : Reaches setting subquery c path rest c' path') :
      Reaches setting subquery c path (node :: rest) c' path'
  | group {c path op children rest c' path'} (hm : Filter.matchesAll op children = false)
      (h : Reaches setting subquery c path children.flatten c' path') :
      Reaches setting subquery c path (.group op children :: rest) c' path'
  | hop {c path segment nested rest hop target c' path'} (hc : Filter.isComparisons nested = false)
      (hh : setting.schema.hop? c segment.field = some hop) (hf : hop.isDeferred subquery path = false)
      (ht : hop.target setting.schema segment = .ok target)
      (h : Reaches setting subquery target (path ++ [segment.key]) nested c' path') :
      Reaches setting subquery c path (.field segment nested :: rest) c' path'

/-- The name of the table that a path reaches, if the map has it. -/
def AliasMap.table? (m : AliasMap) (path : Path) (c : String) : Option String :=
  if path.isEmpty then some c else m.lookup? path

theorem AliasMap.tableFor_eq {m : AliasMap} {path : Path} {c table : String}
    (h : m.table? path c = some table) : m.tableFor path c = table := by
  unfold table? at h
  unfold tableFor
  split at h
  next hp => rw [if_pos hp, Option.some.inj h]
  next hp => rw [if_neg hp, h, Option.getD_some]

namespace Plan

/-- Whether a plan of a pass over `root` has a table for a path to `c`. -/
structure Knows (p : Plan) (root : String) (path : Path) (c : String) : Prop where
  root_eq : path = [] → c = root
  exists_alias : path ≠ [] → ∃ a, p.aliases.lookup? path = some a

/-- Whether a join comes from a hop that starts at a table of the plan. -/
def Origin (setting : Setting) (p : Plan) (root : String) (j : Join) : Prop :=
  ∃ path c segment hop table, p.Knows root path c ∧ p.aliases.table? path c = some table ∧
    p.aliases.lookup? (path ++ [segment.key]) = some j.aliasName ∧
    Hop.condition hop setting.schema segment c table j.table j.aliasName = .ok j.on

structure Fits (setting : Setting) (p : Plan) (root : String) : Prop where
  sound : p.Sound root
  wellScoped : (joined root p.joins).WellScoped
  origin : ∀ j ∈ p.joins, p.Origin setting root j

variable {p p' : Plan} {root c : String} {path : Path}

theorem Knows.grows (h : p.Knows root path c) (hg : p.Grows p') : p'.Knows root path c :=
  ⟨h.root_eq, fun hp => (h.exists_alias hp).imp fun a ha => hg.aliases path a ha⟩

theorem Knows.exists_table (h : p.Knows root path c) : ∃ table, p.aliases.table? path c = some table := by
  unfold AliasMap.table?
  split
  next => exact ⟨c, rfl⟩
  next hp => exact h.exists_alias fun hn => hp (hn ▸ rfl)

theorem Knows.table_mem (h : p.Knows root path c) (hs : p.Sound root) :
    p.aliases.tableFor path c ∈ root :: p.joins.map Join.aliasName := by
  cases path with
  | nil => exact h.root_eq rfl ▸ List.mem_cons_self
  | cons key path =>
    obtain ⟨a, ha⟩ := h.exists_alias (List.cons_ne_nil key path)
    have ht : p.aliases.tableFor (key :: path) c = a := AliasMap.tableFor_eq ha
    rw [ht]
    exact List.mem_cons_of_mem root (Plan.hasJoin_iff.1 (hs.joined _ a ha))

/-- The table of a path that is known has what the root and the aliases have for their paths. -/
theorem Knows.at_table {α : Type} {E : String → α} {g : Path → α} (h : p.Knows root path c) (hstart : E root = g [])
    (haliases : ∀ path a, p.aliases.lookup? path = some a → E a = g path) : E (p.aliases.tableFor path c) = g path := by
  cases path with
  | nil =>
    have ht : p.aliases.tableFor [] c = root := h.root_eq rfl
    rw [ht, hstart]
  | cons key path =>
    obtain ⟨a, ha⟩ := h.exists_alias (List.cons_ne_nil key path)
    have ht : p.aliases.tableFor (key :: path) c = a := AliasMap.tableFor_eq ha
    rw [ht, haliases _ a ha]

theorem Grows.table? {table : String} (hg : p.Grows p') (h : p.aliases.table? path c = some table) :
    p'.aliases.table? path c = some table := by
  unfold AliasMap.table? at h ⊢
  split at h
  next hp => rw [if_pos hp, h]
  next hp => rw [if_neg hp, hg.aliases _ _ h]

theorem Origin.grows {j : Join} (h : p.Origin setting root j) (hg : p.Grows p') :
    p'.Origin setting root j := by
  obtain ⟨path, c, segment, hop, table, hk, ht, hj, ho⟩ := h
  exact ⟨path, c, segment, hop, table, hk.grows hg, hg.table? ht, hg.aliases _ _ hj, ho⟩

end Plan

theorem conj_compare_param (l l' : Column) (a key : String) (p : Param) :
    (Predicate.compare .eq l (.field a key)).conj (.compare .eq l' (.param p)) =
      .and (.compare .eq l (.field a key)) (.compare .eq l' (.param p)) := by
  have hne : (Predicate.compare .eq l (.field a key) == .compare .eq l' (.param p)) = false := by
    show Predicate.beq _ _ = false
    have hr : (Column.field a key).beq (.param p) = false := field_beq_param a key p
    rw [Predicate.beq, hr, Bool.and_false]
  rw [Predicate.conj, hne]
  all_goals simp

/-- Joins compare a column of the table with one of the target. A hop to any of several collections
also compares a column of the table with the scope that names the target. -/
theorem Hop.condition_eq_ok {h : Hop} {s : Schema} {segment : Segment} {c table target a : String} {on : Predicate}
    (ho : h.condition s segment c table target a = .ok on) :
    ∃ l r, on = .compare .eq (.field table l) (.field a r) ∨
      ∃ k, on = .and (.compare .eq (.field table l) (.field a r))
        (.compare .eq (.field table k) (.param (.text (segment.scope.getD "")))) := by
  unfold Hop.condition at ho
  split at ho
  next =>
    obtain ⟨key, -, ho⟩ := exists_of_bind_eq_ok ho
    exact ⟨_, _, .inl (Except.ok.inj ho).symm⟩
  next =>
    split at ho
    next => exact absurd ho (by simp)
    next collectionField _ =>
      obtain ⟨key, -, ho⟩ := exists_of_bind_eq_ok ho
      exact ⟨_, _, .inr ⟨collectionField, (Except.ok.inj ho).symm.trans (conj_compare_param _ _ _ _ _)⟩⟩
  next =>
    obtain ⟨key, -, ho⟩ := exists_of_bind_eq_ok ho
    exact ⟨_, _, .inl (Except.ok.inj ho).symm⟩

theorem Hop.condition_scoped {h : Hop} {s : Schema} {segment : Segment} {c table target a : String}
    {on : Predicate} {names : List String} (ht : table ∈ names) (ha : a ∈ names)
    (ho : h.condition s segment c table target a = .ok on) : on.Scoped names := by
  obtain ⟨l, r, hon⟩ := Hop.condition_eq_ok ho
  have hkeys : (Predicate.compare .eq (.field table l) (.field a r)).Scoped names :=
    Predicate.scoped_compare (Column.scoped_field ht) (Column.scoped_field ha)
  rcases hon with rfl | ⟨k, rfl⟩
  · exact hkeys
  · exact Predicate.closed_scoped.and _ _ hkeys
      (Predicate.scoped_compare (Column.scoped_field ht) (Column.scoped_param _))

namespace Plan

variable {p p' : Plan} {root c target : String} {path : Path} {hop : Hop} {segment : Segment}

theorem Fits.start (root : String) (draws : Nat) : (Plan.start root draws).Fits setting root where
  sound := sound_start root draws
  wellScoped := trivial
  origin := fun _ hj => absurd hj List.not_mem_nil

/-- A hop from a place that the plan knows leads to one that its extension knows. -/
theorem Extends.knows (h : p.Extends setting hop segment c path target p') :
    p'.Knows root (path ++ [segment.key]) target :=
  ⟨fun hn => absurd hn (by simp), fun _ => h.exists_alias⟩

theorem Extends.fits (h : p.Extends setting hop segment c path target p') (hp : p.Fits setting root)
    (hk : p.Knows root path c) : p'.Fits setting root := by
  have hg := h.grows
  have hs := h.sound hp.sound
  have hmem := hk.table_mem hp.sound
  cases h with
  | known ha => exact hp
  | @joins n on draws hn hf ho =>
    refine ⟨hs, Sql.wellScoped_joined_append hp.wellScoped (hp.sound.not_mem hf) ?_, ?_⟩
    · rw [List.map_append, ← List.cons_append]
      exact Hop.condition_scoped (List.mem_append_left _ hmem) (List.mem_append_right _ List.mem_cons_self) ho
    · refine List.forall_mem_append.2 ⟨fun j hj => (hp.origin j hj).grows hg, ?_⟩
      obtain ⟨table, ht⟩ := hk.exists_table
      rw [AliasMap.tableFor_eq ht] at ho
      refine List.forall_mem_singleton.2 ⟨path, c, segment, hop, table, hk.grows hg, hg.table? ht, ?_, ho⟩
      rw [AliasMap.lookup?_record, if_pos rfl]

end Plan

/-! ## A whole walk -/

variable {subquery : Bool} {root c : String} {path : Path} {f : Filter} {p p' : Plan}

theorem Plans.knows (h : Plans setting subquery c path f p p') (hk : p.Knows root path c)
    {c' : String} {path' : Path} (hr : Reaches setting subquery c path f c' path') :
    p'.Knows root path' c' := by
  induction h with
  | nil =>
    cases hr with
    | here => exact hk
  | comparison hrest ih =>
    cases hr with
    | here => exact hk.grows hrest.grows
    | rest hr => exact ih hk hr
  | everything hm hrest ih =>
    cases hr with
    | here => exact hk.grows hrest.grows
    | rest hr => exact ih hk hr
    | group hn hr => exact absurd (hm.symm.trans hn) (by simp)
  | group hm hgroup hrest ihgroup ihrest =>
    cases hr with
    | here => exact hk.grows (hgroup.grows.trans hrest.grows)
    | rest hr => exact ihrest (hk.grows hgroup.grows) hr
    | group hn hr => exact (ihgroup hk hr).grows hrest.grows
  | column hc hrest ih =>
    cases hr with
    | here => exact hk.grows hrest.grows
    | rest hr => exact ih hk hr
    | hop hn hh hf ht hr => exact absurd (hc.symm.trans hn) (by simp)
  | unrelated hc hh hrest ih =>
    cases hr with
    | here => exact hk.grows hrest.grows
    | rest hr => exact ih hk hr
    | hop hn hh' hf ht hr => exact absurd (hh.symm.trans hh') (by simp)
  | deferred hc hh hf hrest ih =>
    cases hr with
    | here => exact hk.grows hrest.grows
    | rest hr => exact ih hk hr
    | hop hn hh' hf' ht hr =>
      obtain rfl := Option.some.inj (hh.symm.trans hh')
      exact absurd (hf.symm.trans hf') (by simp)
  | hop hc hh hf ht ha hnested hrest ihnested ihrest =>
    cases hr with
    | here => exact hk.grows (ha.grows.trans (hnested.grows.trans hrest.grows))
    | rest hr => exact ihrest (hk.grows (ha.grows.trans hnested.grows)) hr
    | hop hn hh' hf' ht' hr =>
      obtain rfl := Option.some.inj (hh.symm.trans hh')
      obtain rfl := Except.ok.inj (ht.symm.trans ht')
      exact (ihnested ha.knows hr).grows hrest.grows

theorem Plans.fits (h : Plans setting subquery c path f p p') (hp : p.Fits setting root)
    (hk : p.Knows root path c) : p'.Fits setting root := by
  induction h with
  | nil => exact hp
  | comparison _ ih => exact ih hp hk
  | everything _ _ ih => exact ih hp hk
  | group _ hgroup _ ihgroup ihrest => exact ihrest (ihgroup hp hk) (hk.grows hgroup.grows)
  | column _ _ ih => exact ih hp hk
  | unrelated _ _ _ ih => exact ih hp hk
  | deferred _ _ _ _ ih => exact ih hp hk
  | hop _ _ _ _ ha hnested _ ihnested ihrest =>
    exact ihrest (ihnested (ha.fits hp hk) ha.knows) (hk.grows (ha.grows.trans hnested.grows))

theorem Plan.knows_start (root : String) (draws : Nat) : (Plan.start root draws).Knows root [] root :=
  ⟨fun _ => rfl, fun h => absurd rfl h⟩

/-- The plan of a pass fits, and it knows every place that the pass reaches. -/
theorem fits_of_planJoins {d : Nat} {plan : Plan} (h : planJoins setting subquery root f d = .ok plan) :
    plan.Fits setting root ∧
      ∀ c' path', Reaches setting subquery root [] f c' path' → plan.Knows root path' c' := by
  have hp := plans_of_planJoins h
  have hk := Plan.knows_start root d
  exact ⟨hp.fits (.start root d) hk, fun c' path' hr => hp.knows hk hr⟩

theorem Test.on_scoped {g : Geometry} {column : Column} {names : List String} (hg : g.Local)
    (hc : column.Scoped names) (t : Test) : (t.on g column).Scoped names := by
  induction t with
  | const value => trivial
  | null value => exact Predicate.scoped_compare hc trivial
  | compare op p => exact Predicate.scoped_compare hc (Column.scoped_param p)
  | among ps =>
    refine Predicate.scoped_compare hc ?_
    rw [Column.Scoped, Column.allScoped_iff]
    exact List.forall_mem_map.2 fun p _ => Column.scoped_param p
  | between low high =>
    rw [on, Predicate.Scoped]
    exact ⟨hc, Column.scoped_param low, Column.scoped_param high⟩
  | shape op p => exact hg op names column p hc
  | not t ih =>
    rw [on, Predicate.Scoped]
    exact ih

theorem columnConditions_scoped {pass : Pass} {field : String} {ps : List Predicate}
    {names : List String} (hg : setting.geometry.Local)
    (h : columnConditions setting pass c path field f = .ok ps)
    (ht : pass.aliases.tableFor path c ∈ names) : ∀ p ∈ ps, p.Scoped names := by
  obtain ⟨tests, -, rfl⟩ := exists_tests_of_columnConditions h
  exact List.forall_mem_map.2 fun t _ => t.on_scoped hg (Column.scoped_field ht)

/-! ## Statements -/

/-- What a pass makes of a draft without joins. -/
theorem Plan.Sound.apply_body {plan : Plan} {d : Draft} (h : plan.Sound d.table) (hj : d.joins = [])
    (ps : List Predicate) : (plan.body ps).apply d =
      (Sql.Logical.all .and ps).elim { d with joins := plan.joins }
        (Draft.andWhere { d with joins := plan.joins }) := by
  have hadd : plan.joins.foldl Draft.addJoin d = { d with joins := plan.joins } := by
    rw [Draft.foldl_addJoin_of_new h.nodup.of_cons fun j _ => by simp [Draft.hasJoin, hj], hj, List.nil_append]
  unfold Compiled.apply Plan.body
  dsimp only
  rw [hadd]
  cases Sql.Logical.all .and ps <;> rfl

theorem Plan.Sound.apply_new {plan : Plan} {root : String} (h : plan.Sound root) (cs : List Column)
    (ps : List Predicate) : (plan.body ps).apply ((Draft.new root).withColumns cs) =
      ⟨root, cs, plan.joins, Sql.Logical.all .and ps, [], none, none⟩ := by
  rw [Plan.Sound.apply_body (d := (Draft.new root).withColumns cs) h rfl]
  cases Sql.Logical.all .and ps <;> rfl

/-- The statement of a pass whose plan fits, over conditions in its scope. -/
theorem Plan.Fits.scoped_apply {plan : Plan} {d : Draft} {ps : List Predicate} (h : plan.Fits setting d.table)
    (hd : d.Scoped) (hj : d.joins = [])
    (hps : ∀ p ∈ ps, p.Scoped (d.table :: plan.joins.map Join.aliasName)) :
    ((plan.body ps).apply d).Scoped ∧ ((plan.body ps).apply d).table = d.table := by
  have hsub : d.names ⊆ d.table :: plan.joins.map Join.aliasName := by
    rw [Draft.names, hj]
    exact fun x hx => List.mem_singleton.1 hx ▸ List.mem_cons_self
  have hjoined : Draft.Scoped { d with joins := plan.joins } :=
    { joins := h.wellScoped
      columns := fun c hc => Column.Scoped.mono hsub c (hd.columns c hc)
      condition := fun p hp => Predicate.Scoped.mono hsub p (hd.condition p hp)
      order := fun o ho => Column.Scoped.mono hsub o.column (hd.order o ho) }
  rw [h.sound.apply_body hj]
  cases hall : Sql.Logical.all .and ps with
  | none => exact ⟨hjoined, rfl⟩
  | some p => exact ⟨hjoined.andWhere (Predicate.closed_scoped.all hps p hall), rfl⟩

theorem scoped_new (table : String) : (Draft.new table).Scoped where
  joins := trivial
  columns := fun _ hc => absurd hc List.not_mem_nil
  condition := fun p hp => absurd hp (Option.not_mem_none p)
  order := fun _ ho => absurd ho List.not_mem_nil

theorem Walks.scoped {pass : Pass} {ps : List Predicate} {names : List String}
    (h : Walks setting pass c path f ps) (hg : setting.geometry.Local)
    (hr : ∀ c' path', Reaches setting pass.subquery c path f c' path' →
      pass.aliases.tableFor path' c' ∈ names)
    (hroot : path = [] → c ∈ names) : ∀ p ∈ ps, p.Scoped names := by
  induction h generalizing names with
  | nil => exact fun p hp => absurd hp List.not_mem_nil
  | everything _ _ ih =>
    rw [List.forall_mem_cons]
    refine ⟨?_, ih (fun c' path' h => hr c' path' (.rest h)) hroot⟩
    rw [Predicate.Scoped]
    trivial
  | group hm _ _ ihgroup ihrest =>
    have hgroup := ihgroup (fun c' path' h => hr c' path' (.group hm h)) hroot
    refine List.forall_mem_append.2 ⟨fun p hp => ?_, ihrest (fun c' path' h => hr c' path' (.rest h)) hroot⟩
    exact Predicate.closed_scoped.all hgroup p (Option.mem_toList.1 hp)
  | column _ _ hq _ ih =>
    exact List.forall_mem_append.2 ⟨columnConditions_scoped hg hq (hr _ _ .here),
      ih (fun c' path' h => hr c' path' (.rest h)) hroot⟩
  | @deferred pass c path segment nested rest hop key plan draws qs ps hc hd hh hf hk hp _ _ ihbody ihrest =>
    obtain ⟨hfits, hknows⟩ := fits_of_planJoins hp
    have hbody := ihbody (fun c' path' h => (hknows c' path' h).table_mem hfits.sound)
      fun _ => List.mem_cons_self
    obtain ⟨hpath, -⟩ := isFirst_iff.1 (Hop.isDeferred_iff.1 hf).2
    have hcolumns : ((Draft.new hop.relation.collection).withColumns
        [.field hop.relation.collection hop.relation.field]).Scoped :=
      { scoped_new hop.relation.collection with
        columns := List.forall_mem_singleton.2 (Column.scoped_field List.mem_cons_self) }
    have hselect := (hfits.scoped_apply hcolumns rfl hbody).1.toSelect
    rw [List.forall_mem_cons]
    refine ⟨Predicate.scoped_compare (Column.scoped_field (hroot hpath)) ?_,
      ihrest (fun c' path' h => hr c' path' (.rest h)) hroot⟩
    rw [Compiled.foreignKeys, Column.Scoped]
    exact hselect
  | hop hc _ hh hf ht _ _ ihnested ihrest =>
    exact List.forall_mem_append.2 ⟨ihnested (fun c' path' h => hr c' path' (.hop hc hh hf ht h))
      (fun hn => absurd hn (by simp)), ihrest (fun c' path' h => hr c' path' (.rest h)) hroot⟩

theorem search_scoped {s : Schema} {tests : List Predicate} {names : List String}
    (h : ∀ t ∈ tests, SearchTest s c t) (hc : c ∈ names) :
    ((Sql.Logical.all .or tests).getD (.const false)).Scoped names := by
  have htests : ∀ t ∈ tests, t.Scoped names := by
    intro t ht
    cases h t ht with
    | like hk hp pattern =>
      refine Predicate.scoped_compare ?_ (Column.scoped_param pattern)
      rw [Column.Scoped]
      exact Column.scoped_field hc
    | eq hk hp value => exact Predicate.scoped_compare (Column.scoped_field hc) (Column.scoped_param value)
  exact Predicate.closed_scoped.getD (Predicate.closed_scoped.all htests) false

/-- A query adds nothing to an empty draft but parts in its scope. -/
theorem applyQuery_scoped {q : Query} {n n' : Nat} {d : Draft} (hg : setting.geometry.Local)
    (h : setting.applyQuery (Draft.new c) c q subquery n = .ok (d, n')) : d.Scoped ∧ d.table = c := by
  refine applyQuery_induction (P := fun d => d.Scoped ∧ d.table = c) h ?_ ?_ ?_
  · intro order limit offset horder
    refine ⟨{ scoped_new c with order := fun o ho => ?_ }, rfl⟩
    obtain ⟨key, -, ho⟩ := horder o ho
    rw [ho]
    exact Column.scoped_field List.mem_cons_self
  · rintro d f - m plan ps hp hw hj ⟨hd, rfl⟩
    obtain ⟨hfits, hknows⟩ := fits_of_planJoins hp
    refine hfits.scoped_apply hd hj (hw.scoped hg ?_ fun _ => List.mem_cons_self)
    exact fun c' path' hr => (hknows c' path' hr).table_mem hfits.sound
  · rintro d tests htests ⟨hd, rfl⟩
    exact ⟨hd.andWhere (search_scoped htests List.mem_cons_self), rfl⟩

variable (setting) in
/-- Every statement that a query compiles to is well scoped: its tables have different names, the
`n`-th join is about the collection and the joins up to it, and all else, statements inside
included, is about the tables of its own statement. In no pass is a place reached whose path has no
alias, and every join starts from the table of a path that the plan knows. -/
theorem statements_wellScoped (hg : setting.geometry.Local) (c : String) (subquery : Bool) :
    (∀ (q : Query) (n n' : Nat) (d : Draft),
      setting.applyQuery (Draft.new c) c q subquery n = .ok (d, n') →
        d.toSelect.WellScoped ∧ d.toSelect.source = joined c d.joins ∧
        (c :: d.joins.map Join.aliasName).Nodup ∧
        ∀ (i : Nat) (hi : i < d.joins.length),
          d.joins[i].on.Scoped (c :: (d.joins.take (i + 1)).map Join.aliasName)) ∧
    ∀ (f : Filter) (n : Nat) (plan : Plan), planJoins setting subquery c f n = .ok plan →
      (∀ c' path', Reaches setting subquery c [] f c' path' →
        ∃ table, plan.aliases.table? path' c' = some table ∧ table ∈ c :: plan.joins.map Join.aliasName) ∧
      ∀ j ∈ plan.joins, plan.Origin setting c j := by
  refine ⟨fun q n n' d h => ?_, fun f n plan h => ?_⟩
  · obtain ⟨hd, rfl⟩ := applyQuery_scoped hg h
    have hnodup := Sql.Table.WellScoped.nodup _ hd.joins
    rw [Sql.names_joined] at hnodup
    exact ⟨hd.toSelect, rfl, hnodup, Sql.scoped_getElem_of_wellScoped hd.joins⟩
  · obtain ⟨hfits, hknows⟩ := fits_of_planJoins h
    refine ⟨fun c' path' hr => ?_, hfits.origin⟩
    obtain ⟨table, ht⟩ := (hknows c' path' hr).exists_table
    exact ⟨table, ht, AliasMap.tableFor_eq ht ▸ (hknows c' path' hr).table_mem hfits.sound⟩

/-- Users with an article whose author has an article of a title, and the authors' names in
order. -/
def Query.colleagues : Query where
  sort := some ["name"]
  limit := none
  offset := none
  page := none
  filter := some [.field (.mk "articles" none) [.field (.mk "author" none) [.field (.mk "articles" none)
    [.field (.mk "title" none) [.comparison .eq (.string "x")]]]]]
  search := some "y"

/-- A statement inside with two joins of its own. -/
theorem colleagues_wellScoped : ∃ d n,
    (Setting.default .newsroom).applyQuery (Draft.new "users") "users" .colleagues false 0 = .ok (d, n) ∧
    d.toSelect.WellScoped ∧ ("users" :: d.joins.map Join.aliasName).Nodup := by
  obtain ⟨hscoped, -⟩ := statements_wellScoped (.default .newsroom) Geometry.local_postgis "users" false
  refine ⟨_, _, rfl, ?_⟩
  obtain ⟨hs, -, hn, -⟩ := hscoped .colleagues 0 _ _ rfl
  exact ⟨hs, hn⟩

end PathQuery
