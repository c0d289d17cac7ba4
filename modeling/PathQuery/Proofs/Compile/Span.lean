import PathQuery.Proofs.Compile.Refinement
import PathQuery.Proofs.Filter.Choice

/-!
# The joins of a pass span its choices

Every hop may lead to many rows, and a join then multiplies the environments that it is added to.

* `Plan.Spans` : the tables joined by a plan hold, along each choice, the rows that its paths lead
  to, and they have an environment for every choice and no other;
* `mem_rows_iff_chosen` : the statement of a filter returns a row of the collection if the filter is
  true of it along some choice, whichever hops are left to statements inside.
-/

namespace PathQuery

open Sql (Column Predicate Select OrderTerm Draft Join joined Truth Row Env Database Dialect Logical window)

variable {V : Type} [DecidableEq V]

variable (setting : Setting) (d : Dialect V) (db : Database V) in
/-- Whether the environments of a plan's tables are those of the choices. -/
structure Plan.Spans (p : Plan) (root : String) (e : Env V) (E : Choice → Row V → Env V) : Prop where
  mem_rows : ∀ x, x ∈ (joined root p.joins).rows d db e ↔ ∃ r ∈ db root, ∃ φ, x = E φ r
  start : ∀ φ r, E φ r root = r
  aliases : ∀ path a, p.aliases.lookup? path = some a → ∀ φ r,
    E φ r a = (setting.trace d db φ (root, r) path).2
  /-- Nothing is chosen for a path without an alias. -/
  unread : ∀ path key n, p.aliases.lookup? (path ++ [key]) = none → ∀ φ r, E (φ.update path key n) r = E φ r

variable {setting : Setting} {d : Dialect V} {db : Database V}

theorem Setting.trace_append (φ : Choice) (place : String × Row V) (path rest : Path) :
    setting.trace d db φ place (path ++ rest) =
      setting.trace d db (φ.below path) (setting.trace d db φ place path) rest := by
  induction path generalizing φ place with
  | nil => rfl
  | cons key path ih =>
    rw [List.cons_append, trace, trace, ih, Choice.below_below]
    rfl

theorem Setting.trace_hop {φ : Choice} {place : String × Row V} {c target : String} {path : Path} {segment : Segment}
    {hop : Hop} (hh : setting.schema.hop? c segment.field = some hop)
    (ht : hop.target setting.schema segment = .ok target) (hc : (setting.trace d db φ place path).1 = c) :
    setting.trace d db φ place (path ++ [segment.key]) = (target,
      .pick (hop.related setting d db segment c target (setting.trace d db φ place path).2) (φ path segment.key)) := by
  rw [trace_append, trace, trace, Choice.below_apply_nil]
  generalize setting.trace d db φ place path = place' at hc ⊢
  unfold take
  rw [segment.ofKey_key, hc, hh]
  dsimp only
  rw [ht]

/-! ## One join more -/

/-- A join takes each row that matches, or the row of nulls. -/
theorem mem_rows_joined_append {root : String} {js : List Join} {j : Join} {e x : Env V} :
    x ∈ (joined root (js ++ [j])).rows d db e ↔ ∃ y ∈ (joined root js).rows d db e, ∃ n, x = y.set j.aliasName
      (.pick ((db j.table).filter fun r => j.on.truth d db (y.set j.aliasName r) = .true) n) := by
  rw [Sql.joined_append, Sql.Table.rows, List.mem_flatMap]
  refine exists_congr fun y => and_congr_right fun _ => ?_
  rw [Sql.Table.rows, List.filter_map]
  have hfilter : (db j.table).filter ((fun y' => decide (j.on.truth d db y' = .true)) ∘
      fun r => y.set ((some j.aliasName).getD j.table) r) =
        (db j.table).filter fun r => j.on.truth d db (y.set j.aliasName r) = .true := rfl
  rw [hfilter]
  cases hm : (db j.table).filter fun r => j.on.truth d db (y.set j.aliasName r) = .true with
  | nil =>
    have hone : x ∈ [Sql.Table.nulls y (.named j.table (some j.aliasName))] ↔ x = y.set j.aliasName .null :=
      List.mem_singleton
    rw [List.map_nil]
    dsimp only
    rw [hone]
    constructor
    · exact fun hx => ⟨0, hx⟩
    · rintro ⟨n, hx⟩
      exact hx
  | cons r rs =>
    rw [List.map_cons]
    dsimp only
    rw [← List.map_cons (f := fun r => y.set ((some j.aliasName).getD j.table) r), List.mem_map]
    constructor
    · rintro ⟨r', hr', rfl⟩
      obtain ⟨n, hn⟩ := Row.exists_pick hr'
      exact ⟨n, by rw [hn]; rfl⟩
    · rintro ⟨n, rfl⟩
      exact ⟨_, Row.pick_mem (List.cons_ne_nil r rs) n, rfl⟩

variable {root c target : String} {path : Path} {p p' : Plan} {e : Env V} {E : Choice → Row V → Env V}

theorem Plan.Spans.table (hE : p.Spans setting d db root e E) (hk : p.Knows root path c) (φ : Choice) (r : Row V) :
    E φ r (p.aliases.tableFor path c) = (setting.trace d db φ (root, r) path).2 :=
  hk.at_table (hE.start φ r) fun other a ha => hE.aliases other a ha φ r

theorem Plan.Extends.spans {hop : Hop} {segment : Segment}
    (h : p.Extends setting hop segment c path target p') (hp : p.Sound root) (hk : p.Knows root path c)
    (hE : p.Spans setting d db root e E)
    (hh : setting.schema.hop? c segment.field = some hop) (ht : hop.target setting.schema segment = .ok target)
    (hc : ∀ φ r, (setting.trace d db φ (root, r) path).1 = c) : ∃ E', p'.Spans setting d db root e E' := by
  cases h with
  | known ha => exact ⟨E, hE⟩
  | @joins n on draws hn hf ho =>
    have hnew := hp.not_mem hf
    have hne : p.aliases.tableFor path c ≠ setting.source.token n := fun heq => hnew (heq ▸ hk.table_mem hp)
    -- the rows that a choice has to choose from at the end of the path
    let many (φ : Choice) (r : Row V) : List (Row V) :=
      hop.related setting d db segment c target (E φ r (p.aliases.tableFor path c))
    have hunread (φ : Choice) (r : Row V) (m : Nat) : E (φ.update path segment.key m) r = E φ r :=
      hE.unread path segment.key m hn φ r
    refine ⟨fun φ r => (E φ r).set (setting.source.token n) (.pick (many φ r) (φ path segment.key)), ?_, ?_, ?_, ?_⟩
    · intro x
      rw [mem_rows_joined_append]
      constructor
      · rintro ⟨y, hy, m, rfl⟩
        obtain ⟨r, hr, φ, rfl⟩ := (hE.mem_rows y).1 hy
        refine ⟨r, hr, φ.update path segment.key m, ?_⟩
        dsimp only [many]
        rw [hunread, Choice.update_self, Hop.filter_condition ho hne]
      · rintro ⟨r, hr, φ, rfl⟩
        refine ⟨E φ r, (hE.mem_rows _).2 ⟨r, hr, φ, rfl⟩, φ path segment.key, ?_⟩
        rw [Hop.filter_condition ho hne]
    · intro φ r
      rw [Env.set_of_ne, hE.start]
      exact fun heq => hnew (heq ▸ List.mem_cons_self)
    · intro other a ha φ r
      rcases AliasMap.eq_or_of_lookup?_record ha with ⟨rfl, rfl⟩ | ha
      · dsimp only [many]
        rw [Env.set_self, Setting.trace_hop hh ht (hc φ r), hE.table hk]
      · rw [Env.set_of_ne, hE.aliases other a ha]
        intro heq
        exact hnew (heq ▸ List.mem_cons_of_mem root (Plan.hasJoin_iff.1 (hp.joined other a ha)))
    · intro other key m hother φ r
      rw [AliasMap.lookup?_record] at hother
      split at hother
      next => exact absurd hother (by simp)
      next hdiff =>
        dsimp only [many]
        rw [hE.unread other key m hother, Choice.update_of_ne φ m (Ne.symm hdiff)]

/-! ## A whole walk -/

theorem Plans.spans {subquery : Bool} {f : Filter} (h : Plans setting subquery c path f p p')
    (hp : p.Sound root) (hk : p.Knows root path c) (hc : ∀ φ r, (setting.trace d db φ (root, r) path).1 = c)
    (hE : p.Spans setting d db root e E) : ∃ E', p'.Spans setting d db root e E' := by
  induction h generalizing E with
  | nil => exact ⟨E, hE⟩
  | comparison _ ih => exact ih hp hk hc hE
  | everything _ _ ih => exact ih hp hk hc hE
  | group _ hgroup _ ihgroup ihrest =>
    obtain ⟨E₁, hE₁⟩ := ihgroup hp hk hc hE
    exact ihrest (hgroup.sound hp) (hk.grows hgroup.grows) hc hE₁
  | column _ _ ih => exact ih hp hk hc hE
  | unrelated _ _ _ ih => exact ih hp hk hc hE
  | deferred _ _ _ _ ih => exact ih hp hk hc hE
  | @hop c path segment nested rest hop target p p' p'' q _ hh _ ht ha hnested _ ihnested ihrest =>
    obtain ⟨E₁, hE₁⟩ := ha.spans hp hk hE hh ht hc
    have htarget (φ : Choice) (r : Row V) : (setting.trace d db φ (root, r) (path ++ [segment.key])).1 = target := by
      rw [Setting.trace_hop hh ht (hc φ r)]
    obtain ⟨E₂, hE₂⟩ := ihnested (ha.sound hp) ha.knows htarget hE₁
    have hg := ha.grows.trans hnested.grows
    exact ihrest (hnested.sound (ha.sound hp)) (hk.grows hg) hc hE₂

/-- The tables of a pass hold, at every place that it reaches, the row that a choice leads to
there. -/
theorem spans_of_planJoins {subquery : Bool} {f : Filter} {n : Nat} {plan : Plan}
    (h : planJoins setting subquery root f n = .ok plan) (e : Env V) :
    ∃ E, plan.Spans setting d db root e E ∧ ∀ φ r c' path', Reaches setting subquery root [] f c' path' →
      E φ r (plan.aliases.tableFor path' c') = (setting.trace d db φ (root, r) path').2 := by
  have hstart : (Plan.start root n).Spans setting d db root e fun _ r => e.set root r := by
    refine ⟨fun x => ?_, fun _ r => Env.set_self e root r, fun path a ha => absurd ha (by simp), fun _ _ _ _ _ _ => rfl⟩
    have hrows : (joined root (Plan.start root n).joins).rows d db e = (db root).map (e.set root) :=
      Sql.Table.rows.eq_1 d db e root none
    rw [hrows, List.mem_map]
    constructor
    · rintro ⟨r, hr, rfl⟩
      exact ⟨r, hr, fun _ _ => 0, rfl⟩
    · rintro ⟨r, hr, -, rfl⟩
      exact ⟨r, hr, rfl⟩
  have hk := Plan.knows_start root n
  obtain ⟨E, hE⟩ := (plans_of_planJoins h).spans (Plan.sound_start root n) hk (fun _ _ => rfl) hstart
  exact ⟨E, hE, fun φ r c' path' hr => hE.table ((plans_of_planJoins h).knows hk hr) φ r⟩

/-! ## Conditions along choices -/

/-- What the statement of a pass returns, if its conditions agree with truths along each choice. -/
theorem Plan.Spans.mem_results_apply_body {plan : Plan} (hE : plan.Spans setting d db root e E) (hs : plan.Sound root)
    {ps : List Predicate} {ts : Choice → Row V → List Truth}
    (hps : ∀ φ r, Predicate.AgreeAll d db (E φ r) ps (ts φ r)) (cs : List Column) {x : Env V × List (Option V)} :
    x ∈ ((plan.body ps).apply ((Draft.new root).withColumns cs)).toSelect.results d db e ↔
      ∃ r ∈ db root, ∃ φ, (Logical.total .and (ts φ r)).getD .true = .true ∧
        x = (E φ r, Column.allCells d db (E φ r) cs) := by
  have hselect : Draft.toSelect ⟨root, cs, plan.joins, Logical.all .and ps, [], none, none⟩ =
      ⟨joined root plan.joins, cs, (Logical.all .and ps).getD (.const true), none, none, none⟩ := rfl
  rw [hs.apply_new cs ps, hselect, Select.results, OrderTerm.sort]
  unfold window
  dsimp only [Option.map_none, Option.getD_none]
  rw [List.drop_zero, List.mem_map]
  constructor
  · rintro ⟨y, hy, rfl⟩
    obtain ⟨hy, htrue⟩ := List.mem_filter.1 hy
    obtain ⟨r, hr, φ, rfl⟩ := (hE.mem_rows y).1 hy
    exact ⟨r, hr, φ, (hps φ r).getD_all.1 (of_decide_eq_true htrue), rfl⟩
  · rintro ⟨r, hr, φ, htrue, rfl⟩
    refine ⟨E φ r, List.mem_filter.2 ⟨(hE.mem_rows _).2 ⟨r, hr, φ, rfl⟩, ?_⟩, rfl⟩
    exact decide_eq_true ((hps φ r).getD_all.2 htrue)

/-- A deferred hop asks whether one of the related rows has what is below it, along some choice. -/
theorem Hop.membership_iff {hop : Hop} {plan : Plan} {c key : String} {e : Env V}
    (hE : plan.Spans setting d db hop.relation.collection e E) (hs : plan.Sound hop.relation.collection)
    {ps : List Predicate} {ts : Choice → Row V → List Truth}
    (hps : ∀ φ r, Predicate.AgreeAll d db (E φ r) ps (ts φ r)) :
    (hop.membership c key (plan.body ps)).truth d db e = .true ↔
      ∃ r ∈ (db hop.relation.collection).filter (hop.isRelated (e c key)), ∃ φ,
        (Logical.total .and (ts φ r)).getD .true = .true := by
  rw [membership, Predicate.truth, Column.cells, Dialect.compare, Truth.among_eq_true,
    Compiled.foreignKeys, Column.cells]
  constructor
  · rintro ⟨v, hv, hmem⟩
    have hv : e c key = some v := hv
    obtain ⟨x, hx, hcell⟩ := List.mem_flatMap.1 hmem
    obtain ⟨r, hr, φ, htrue, rfl⟩ := (hE.mem_results_apply_body hs hps _).1 hx
    have hcell : some v ∈ [E φ r hop.relation.collection hop.relation.field] := hcell
    rw [hE.start, List.mem_singleton] at hcell
    refine ⟨r, List.mem_filter.2 ⟨hr, ?_⟩, φ, htrue⟩
    simp [isRelated, hv, ← hcell]
  · rintro ⟨r, hr, φ, htrue⟩
    obtain ⟨hr, hrelated⟩ := List.mem_filter.1 hr
    rw [isRelated, Bool.and_eq_true, Option.isSome_iff_exists, beq_iff_eq] at hrelated
    obtain ⟨⟨v, hv⟩, hkey⟩ := hrelated
    refine ⟨v, hv, List.mem_flatMap.2 ⟨_, (hE.mem_results_apply_body hs hps _).2 ⟨r, hr, φ, htrue, rfl⟩, ?_⟩⟩
    have hcell : some v ∈ [E φ r hop.relation.collection hop.relation.field] := by
      rw [hE.start, List.mem_singleton, hkey, hv]
    exact hcell

/-- The conditions of a walk agree with the truths of the filter along a choice, for the row that
the path leads to. -/
theorem Walks.agree_chosen {pass : Pass} {f : Filter} {ps : List Predicate} {φ : Choice} {r : Row V}
    (h : Walks setting pass c path f ps) (hg : setting.geometry.OfCell d db)
    (hc : (setting.trace d db φ (root, r) path).1 = c)
    (he : ∀ c' path', Reaches setting pass.subquery c path f c' path' →
      e (pass.aliases.tableFor path' c') = (setting.trace d db φ (root, r) path').2) :
    Predicate.AgreeAll d db e ps (Filter.chosen setting d db (isFirst pass.subquery path) c (φ.below path)
      (setting.trace d db φ (root, r) path).2 f) := by
  induction h generalizing root r e φ with
  | nil =>
    rw [Filter.chosen]
    exact .nil
  | everything hm _ ih =>
    rw [Filter.chosen, Node.chosen, if_pos hm]
    refine .cons ?_ (ih hc fun c' path' hr => he c' path' (.rest hr))
    rw [Predicate.truth_const]
    exact Iff.rfl
  | group hm _ _ ihgroup ihrest =>
    rw [Filter.chosen, Node.chosen, if_neg (Bool.eq_false_iff.1 hm), Filter.childChosen_eq]
    have hgroup := ihgroup hc fun c' path' hr => he c' path' (.group hm hr)
    exact hgroup.all.append (ihrest hc fun c' path' hr => he c' path' (.rest hr))
  | column hcs _ hq _ ih =>
    rw [Filter.chosen, Node.chosen, if_pos hcs]
    refine .append ?_ (ih hc fun c' path' hr => he c' path' (.rest hr))
    unfold Predicate.AgreeAll
    rw [columnConditions_truth hg hq (he _ _ .here)]
    exact List.forall₂_same.2 fun t _ => Iff.rfl
  | @deferred pass c path segment nested rest hop key plan draws qs ps hcs _ hh hf hk hp _ _ ihbody ihrest =>
    obtain ⟨hkind, hfirst⟩ := Hop.isDeferred_iff.1 hf
    -- the body is a pass of its own, which spans the choices from every related row
    obtain ⟨E, hE, hplaces⟩ := spans_of_planJoins hp e
    have hstart (φ' : Choice) (r' : Row V) : (setting.trace d db φ' (hop.relation.collection, r') []).1 = _ := rfl
    have hagree (φ' : Choice) (r' : Row V) := ihbody (hstart φ' r') (hplaces φ' r')
    obtain ⟨hpath, -⟩ := isFirst_iff.1 hfirst
    have hrow : e c = (setting.trace d db φ (root, r) path).2 := by
      rw [← he c path .here, hpath]
      rfl
    have hsound : plan.Sound hop.relation.collection := (plans_of_planJoins hp).sound (Plan.sound_start _ _)
    rw [Filter.chosen, Node.chosen, if_neg (Bool.eq_false_iff.1 hcs), hh]
    dsimp only
    rw [if_pos ⟨hkind, hfirst⟩]
    refine .cons ?_ (ihrest hc fun c' path' hr => he c' path' (.rest hr))
    unfold Truth.Agree
    rw [hop.membership_iff hE hsound hagree, Truth.ofProp_eq_true, Hop.related, hkind, hk, hrow]
    exact Iff.rfl
  | @hop pass c path segment nested rest hop target qs ps hcs _ hh hf ht _ _ ihnested ihrest =>
    have htrace := Setting.trace_hop hh ht hc
    have hnested := ihnested (by rw [htrace]) fun c' path' hr => he c' path' (.hop hcs hh hf ht hr)
    rw [htrace, isFirst_append] at hnested
    rw [Filter.chosen, Node.chosen, if_neg (Bool.eq_false_iff.1 hcs), hh]
    dsimp only
    rw [if_neg (Hop.isDeferred_eq_false_iff.1 hf), ht, Choice.below_below, Choice.below_apply_nil]
    exact hnested.append (ihrest hc fun c' path' hr => he c' path' (.rest hr))

/-- The statement of a filter returns the rows of the collection that the filter is true of along
some choice. -/
theorem mem_rows_iff_chosen {subquery : Bool} {f : Filter} {draft : Draft} {n n' : Nat}
    (h : setting.applyFilter (Draft.new c) f c subquery n = .ok (draft, n'))
    (hg : setting.geometry.OfCell d db) (e : Env V) (r : Row V) :
    r ∈ (draft.toSelect.rows d db e).map (fun x => x c) ↔ r ∈ db c ∧ ∃ φ,
      (Logical.total .and (Filter.chosen setting d db (!subquery) c φ r f)).getD .true = .true := by
  obtain ⟨plan, ps, hp, hw, rfl⟩ := exists_of_applyFilter h
  obtain ⟨E, hE, hplaces⟩ := spans_of_planJoins hp e
  have hstart (φ : Choice) (r : Row V) : (setting.trace d db φ (c, r) []).1 = c := rfl
  have hagree (φ : Choice) (r : Row V) := hw.agree_chosen hg (hstart φ r) (hplaces φ r)
  have hsound : plan.Sound c := (plans_of_planJoins hp).sound (Plan.sound_start c n)
  have hmem {x : Env V × List (Option V)} : x ∈ ((plan.body ps).apply (Draft.new c)).toSelect.results d db e ↔ _ :=
    hE.mem_results_apply_body hsound hagree []
  unfold Select.rows
  rw [List.map_map, List.mem_map]
  constructor
  · rintro ⟨x, hx, rfl⟩
    obtain ⟨r, hr, φ, htrue, rfl⟩ := hmem.1 hx
    have hrow : ((fun x : Env V => x c) ∘ Prod.fst) (E φ r, Column.allCells d db (E φ r) []) = r := hE.start φ r
    rw [hrow]
    exact ⟨hr, φ, htrue⟩
  · rintro ⟨hr, φ, htrue⟩
    exact ⟨_, hmem.2 ⟨r, hr, φ, htrue, rfl⟩, hE.start φ r⟩

end PathQuery
