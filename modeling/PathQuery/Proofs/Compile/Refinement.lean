import PathQuery.Proofs.Compile.Follow

/-!
# Compiled filters mean what they say

The statement of a filter returns the rows of the collection that the filter is true of. The
conditions of a pass have the truths that the filter has for the rows its tables hold
(`Walks.agree`), where a statement inside is as true as the filter below a first hop to many rows.
-/

namespace PathQuery

open Sql (Column Predicate Select OrderTerm Draft joined Truth Row Env Database Dialect Logical window)

variable {V : Type} [DecidableEq V]

/-- Whether conditions of geometry depend on nothing but the cell of their column. -/
def Geometry.OfCell (g : Geometry) (d : Dialect V) (db : Database V) : Prop :=
  ∀ op p t n t' n' (e e' : Env V), e t n = e' t' n' →
    (g.write op (.field t n) p).truth d db e = (g.write op (.field t' n') p).truth d db e'

theorem Geometry.ofCell_postgis (d : Dialect V) (db : Database V) : postgis.OfCell d db := by
  intro op p t n t' n' e e' h
  have hcall (before between after : String) :
      (call before between after (.field t n) p).truth d db e =
        (call before between after (.field t' n') p).truth d db e' := by
    rw [call, call, Predicate.truth, Predicate.truth]
    simp only [Sql.Fragment.parts, Column.cells, h]
  cases op <;> exact hcall _ _ _

variable {setting : Setting} {d : Dialect V} {db : Database V}

theorem allCells_params (ps : List Param) (e : Env V) :
    Column.allCells d db e (ps.map .param) = ps.map fun p => some (d.value p) := by
  induction ps with
  | nil => rfl
  | cons p ps ih => rw [List.map_cons, Column.allCells, Column.cells, ih]; rfl

/-- A test asks the same of a column of any table that holds the same cell. -/
theorem Test.truth_on {g : Geometry} (hg : g.OfCell d db) {t n t' n' : String} {e e' : Env V}
    (h : e t n = e' t' n') (test : Test) :
    (test.on g (.field t n)).truth d db e = (test.on g (.field t' n')).truth d db e' := by
  induction test with
  | const value => rw [on, on, Predicate.truth, Predicate.truth]
  | null value =>
    rw [on, on, Predicate.truth, Predicate.truth]
    simp only [Column.cells, h]
  | compare op p =>
    rw [on, on, Predicate.truth, Predicate.truth]
    simp only [Column.cells, Column.isNull, h]
  | among ps =>
    rw [on, on, Predicate.truth, Predicate.truth]
    simp only [Column.cells, allCells_params, h]
  | between low high =>
    rw [on, on, Predicate.truth, Predicate.truth]
    simp only [Column.cells, h]
  | shape op p => exact hg op p t n t' n' e e' h
  | not test ih => rw [on, on, Predicate.truth, Predicate.truth, ih]

theorem columnConditions_truth {pass : Pass} {c : String} {path : Path} {field : String} {f : Filter}
    {ps : List Predicate} {e : Env V} {row : Row V} (hg : setting.geometry.OfCell d db)
    (h : columnConditions setting pass c path field f = .ok ps)
    (hrow : e (pass.aliases.tableFor path c) = row) :
    ps.map (Predicate.truth d db e) = comparisonTruths setting d db c row field f := by
  unfold columnConditions at h
  obtain ⟨type, htype, h⟩ := exists_of_bind_eq_ok h
  have h : (Target.of field field type (pass.aliases.tableFor path c)).conditions setting.geometry
      f.comparisons = .ok ps := h
  obtain ⟨tests, -, htests⟩ := exists_tests f.comparisons h
  obtain rfl := Except.ok.inj (h.symm.trans (htests _))
  unfold comparisonTruths
  rw [htype]
  dsimp only
  rw [htests c]
  dsimp only
  rw [List.map_map, List.map_map]
  exact List.map_congr_left fun test _ => test.truth_on hg (by rw [hrow])

/-- What a statement returns whose tables follow a plan. -/
theorem Plan.Follows.results_toSelect {plan : Plan} {root : String} {e : Env V} {E : Row V → Env V}
    (hE : plan.Follows setting d db root e E) (cs : List Column) (condition : Option Predicate) :
    (Draft.toSelect ⟨root, cs, plan.joins, condition, [], none, none⟩).results d db e =
      ((db root).filter fun r => (condition.getD (.const true)).truth d db (E r) = .true).map fun r =>
        (E r, Column.allCells d db (E r) cs) := by
  have hselect : Draft.toSelect ⟨root, cs, plan.joins, condition, [], none, none⟩ =
      ⟨joined root plan.joins, cs, condition.getD (.const true), none, none, none⟩ := rfl
  rw [hselect, Select.results, hE.rows, OrderTerm.sort, List.filter_map]
  unfold window
  exact List.map_map

/-- What the statement of a pass returns, if its conditions agree with truths for each row of the
root. -/
theorem Plan.Follows.results_apply_body {plan : Plan} {root : String} {e : Env V} {E : Row V → Env V}
    (hE : plan.Follows setting d db root e E) (hs : plan.Sound root) {ps : List Predicate}
    {ts : Row V → List Truth} (hps : ∀ r, Predicate.AgreeAll d db (E r) ps (ts r)) (cs : List Column) :
    ((plan.body ps).apply ((Draft.new root).withColumns cs)).toSelect.results d db e =
      ((db root).filter fun r => (Logical.total .and (ts r)).getD .true = .true).map fun r =>
        (E r, Column.allCells d db (E r) cs) := by
  rw [hs.apply_new cs ps, hE.results_toSelect]
  refine congrArg (List.map _) (List.filter_congr fun r _ => decide_eq_decide.2 ?_)
  exact (hps r).getD_all

/-- A deferred hop asks whether one of the related rows has what is below it. -/
theorem Hop.membership_agree {hop : Hop} {plan : Plan} {c key : String} {e : Env V} {E : Row V → Env V}
    (hE : plan.Follows setting d db hop.relation.collection e E) (hs : plan.Sound hop.relation.collection)
    {ps : List Predicate} {ts : Row V → List Truth} (hps : ∀ r, Predicate.AgreeAll d db (E r) ps (ts r)) :
    Truth.Agree ((hop.membership c key (plan.body ps)).truth d db e)
      (.ofBool (((db hop.relation.collection).filter (hop.isRelated (e c key))).any fun r =>
        (Logical.total .and (ts r)).getD .true == .true)) := by
  have hcells : ((plan.body ps).foreignKeys hop.relation.collection hop.relation.field).cells d db e =
      ((db hop.relation.collection).filter fun r => (Logical.total .and (ts r)).getD .true = .true).map
        fun r => r hop.relation.field := by
    rw [Compiled.foreignKeys, Column.cells, hE.results_apply_body hs hps, List.flatMap_map,
      List.map_eq_flatMap]
    refine congrArg (List.flatMap · _) (funext fun r => ?_)
    rw [Column.allCells, Column.allCells, Column.cells, hE.start]
    rfl
  unfold Truth.Agree
  rw [membership, Predicate.truth, hcells, Column.cells, Truth.ofBool_eq_true, List.any_eq_true]
  rw [Dialect.compare, Truth.among_eq_true]
  constructor
  · rintro ⟨v, hv, hmem⟩
    obtain ⟨r, hr, hkey⟩ := List.mem_map.1 hmem
    obtain ⟨hr, htrue⟩ := List.mem_filter.1 hr
    have hv : e c key = some v := hv
    refine ⟨r, List.mem_filter.2 ⟨hr, ?_⟩, by simpa using htrue⟩
    simp [isRelated, hv, hkey]
  · rintro ⟨r, hr, htrue⟩
    obtain ⟨hr, hrelated⟩ := List.mem_filter.1 hr
    rw [isRelated, Bool.and_eq_true, Option.isSome_iff_exists, beq_iff_eq] at hrelated
    obtain ⟨⟨v, hv⟩, hkey⟩ := hrelated
    exact ⟨v, hv, List.mem_map.2 ⟨r, List.mem_filter.2 ⟨hr, by simpa using htrue⟩, hkey.trans hv⟩⟩

/-- The conditions of a walk agree with the truths of the filter for the row that the path leads to,
in an environment with the rows that lead to the places it reaches. -/
theorem Walks.agree {pass : Pass} {c root : String} {path : Path} {f : Filter} {ps : List Predicate}
    {r : Row V} {e : Env V} (h : Walks setting pass c path f ps) (hg : setting.geometry.OfCell d db)
    (hdb : db.Keyed setting.schema)
    (hone : f.ToOne setting.schema (isFirst pass.subquery path) c)
    (hc : (setting.follow d db root r path).1 = c)
    (he : ∀ c' path', Reaches setting pass.subquery c path f c' path' →
      e (pass.aliases.tableFor path' c') = (setting.follow d db root r path').2) :
    Predicate.AgreeAll d db e ps
      (Filter.truths setting d db (isFirst pass.subquery path) c (setting.follow d db root r path).2 f) := by
  induction h generalizing root r e with
  | nil =>
    rw [Filter.truths]
    exact .nil
  | everything hm _ ih =>
    rw [Filter.truths, Node.truths, if_pos hm]
    refine .cons ?_ (ih hone.rest hc fun c' path' hr => he c' path' (.rest hr))
    rw [Predicate.truth_const]
    exact Iff.rfl
  | group hm _ _ ihgroup ihrest =>
    rw [Filter.truths, Node.truths, if_neg (Bool.eq_false_iff.1 hm), Filter.childTruths_eq]
    have hgroup := ihgroup (hone.children hm) hc fun c' path' hr => he c' path' (.group hm hr)
    exact hgroup.all.append (ihrest hone.rest hc fun c' path' hr => he c' path' (.rest hr))
  | column hcs _ hq _ ih =>
    rw [Filter.truths, Node.truths, if_pos hcs]
    refine .append ?_ (ih hone.rest hc fun c' path' hr => he c' path' (.rest hr))
    unfold Predicate.AgreeAll
    rw [columnConditions_truth hg hq (he _ _ .here)]
    exact List.forall₂_same.2 fun t _ => Iff.rfl
  | @deferred pass c path segment nested rest hop key plan draws qs ps hcs _ hh hf hk hp _ _ ihbody ihrest =>
    obtain ⟨hkind, hfirst⟩ := Hop.isDeferred_iff.1 hf
    -- the body is a pass of its own, whose tables follow its paths from every related row
    have hbody := hone.body hcs hh hkind
    obtain ⟨E, hE, hplaces⟩ := follows_of_planJoins hp hdb hbody e
    have hstart (r' : Row V) : (setting.follow d db hop.relation.collection r' []).1 = _ := rfl
    have hagree (r' : Row V) := ihbody hbody (hstart r') (hplaces r')
    obtain ⟨hpath, -⟩ := isFirst_iff.1 hfirst
    have hrow : e c = (setting.follow d db root r path).2 := by
      rw [← he c path .here, hpath]
      rfl
    rw [Filter.truths, Node.truths, if_neg (Bool.eq_false_iff.1 hcs), hh]
    dsimp only
    rw [if_pos ⟨hkind, hfirst⟩, hk]
    dsimp only
    have hrest := ihrest hone.rest hc fun c' path' hr => he c' path' (.rest hr)
    rw [← hrow] at hrest ⊢
    exact .cons (hop.membership_agree hE ((plans_of_planJoins hp).sound (Plan.sound_start _ _)) hagree) hrest
  | @hop pass c path segment nested rest hop target qs ps hcs _ hh hf ht _ _ ihnested ihrest =>
    have hnf := Hop.isDeferred_eq_false_iff.1 hf
    obtain ⟨-, hon⟩ := hone.nested hcs hh ht hnf
    have hfollow := Setting.follow_append hh ht hc
    rw [← isFirst_append pass.subquery path segment.key] at hon
    have hnested := ihnested hon (by rw [hfollow]) fun c' path' hr => he c' path' (.hop hcs hh hf ht hr)
    rw [hfollow, isFirst_append] at hnested
    rw [Filter.truths, Node.truths, if_neg (Bool.eq_false_iff.1 hcs), hh]
    dsimp only
    rw [if_neg hnf, ht]
    exact hnested.append (ihrest hone.rest hc fun c' path' hr => he c' path' (.rest hr))

/-- The statement of a filter returns the rows of the collection that the filter is true of, each as
often and in the order that the collection has it. -/
theorem rows_applyFilter {c : String} {f : Filter} {draft : Draft} {n n' : Nat}
    (h : setting.applyFilter (Draft.new c) f c false n = .ok (draft, n'))
    (hone : f.ToOne setting.schema true c) (hdb : db.Keyed setting.schema)
    (hg : setting.geometry.OfCell d db) (e : Env V) :
    (draft.toSelect.rows d db e).map (fun x => x c) =
      (db c).filter fun r => Filter.truth setting d db c r f = .true := by
  obtain ⟨plan, ps, hp, hw, rfl⟩ := exists_of_applyFilter h
  obtain ⟨E, hE, hplaces⟩ := follows_of_planJoins hp hdb hone e
  have hstart (r : Row V) : (setting.follow d db c r []).1 = c := rfl
  have hagree (r : Row V) := hw.agree hg hdb hone (hstart r) (hplaces r)
  have hsound : plan.Sound c := (plans_of_planJoins hp).sound (Plan.sound_start c n)
  have hresults : ((plan.body ps).apply (Draft.new c)).toSelect.results d db e = _ :=
    hE.results_apply_body hsound hagree []
  unfold Select.rows
  rw [hresults, List.map_map, List.map_map]
  have hroot : ((fun x : Env V => x c) ∘ Prod.fst) ∘ (fun r => (E r, Column.allCells d db (E r) [])) = id :=
    funext hE.start
  rw [hroot, List.map_id]
  rfl

/-- Users with an article whose author has a name. -/
def Filter.signed : Filter :=
  [.field (.mk "articles" none) [.field (.mk "author" none)
    [.field (.mk "name" none) [.comparison .eq (.string "Ann")]]]]

def Sql.Row.ann : Row String := fun column => List.lookup column [("id", "1"), ("name", "Ann")]

def Sql.Row.bo : Row String := fun column => List.lookup column [("id", "2"), ("name", "Bo")]

/-- Two users; one of them has two articles, and one article has no author. -/
def Sql.Database.desk : Database String
  | "users" => [.ann, .bo]
  | "articles" =>
    [fun column => List.lookup column [("id", "3"), ("title", "x"), ("author", "1")],
      fun column => List.lookup column [("id", "4"), ("title", "y"), ("author", "1")],
      fun column => List.lookup column [("id", "5"), ("title", "x")]]
  | _ => []

theorem Sql.Database.keyed_desk : Sql.Database.desk.Keyed .newsroom := by
  intro name c hc
  have hmem : (name, c) ∈ Schema.newsroom.collections.entries := Named.find?_eq_some_iff.1 hc
  rcases List.mem_pair.1 hmem with h | h
  · obtain ⟨rfl, rfl⟩ := Prod.mk.inj h
    decide
  · obtain ⟨rfl, rfl⟩ := Prod.mk.inj h
    decide

/-- Neither two articles nor one without an author return a user twice. -/
theorem rows_signed : ∃ draft n,
    (Setting.default .newsroom).applyFilter (Draft.new "users") .signed "users" false 0 = .ok (draft, n) ∧
    (draft.toSelect.rows Dialect.words .desk fun _ => .null).map (fun x => x "users") = [.ann] := by
  have hone : Filter.signed.ToOne .newsroom true "users" :=
    .many rfl rfl (.one rfl (by decide) rfl (.column rfl .nil) .nil) .nil
  obtain ⟨draft, n, h⟩ : ∃ draft n, (Setting.default .newsroom).applyFilter (Draft.new "users") .signed "users"
      false 0 = .ok (draft, n) := ⟨_, _, rfl⟩
  refine ⟨draft, n, h, ?_⟩
  have hann : Filter.truth (Setting.default .newsroom) .words .desk "users" .ann .signed = .true := by
    decide +kernel
  have hbo : Filter.truth (Setting.default .newsroom) .words .desk "users" .bo .signed = .false := by
    decide +kernel
  have hdesk : Sql.Database.desk "users" = [.ann, .bo] := rfl
  rw [rows_applyFilter h hone Sql.Database.keyed_desk (Geometry.ofCell_postgis _ _) _, hdesk]
  simp [hann, hbo]

end PathQuery
