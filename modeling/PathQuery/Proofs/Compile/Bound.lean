import PathQuery.Proofs.Cast
import PathQuery.Proofs.Compile.Inside
import PathQuery.Proofs.Sql.Parameters

/-!
# No null is bound

Null is no operand, and what else a statement binds is text, the number of a window or the value
that a search looks for. So no JSON null is among the parameters of a compiled statement
(`binds_of_applyQuery`), if none comes from the conditions of geometry (`Geometry.IsRaw`).
-/

namespace PathQuery

open Sql (Column Predicate Fragment Draft Join Logical)

/-- Whether conditions of geometry are text around their column and their parameter. -/
def Geometry.IsRaw (g : Geometry) : Prop :=
  ∀ op c p, ∃ fragments, g.write op c p = .raw fragments ∧
    ∀ c', .column c' ∈ fragments → c' = c ∨ c' = .param p

theorem Geometry.isRaw_postgis : Geometry.postgis.IsRaw := by
  intro op c p
  have hcall (before between after : String) : ∃ fragments, call before between after c p = .raw fragments ∧
      ∀ c', .column c' ∈ fragments → c' = c ∨ c' = .param p := by
    refine ⟨_, rfl, fun c' hc' => ?_⟩
    simpa only [List.mem_cons, Fragment.column.injEq, reduceCtorEq, List.not_mem_nil, false_or, or_false] using hc'
  cases op <;> exact hcall _ _ _

theorem Geometry.IsRaw.isScalar {g : Geometry} (hg : g.IsRaw) : g.IsScalar := by
  intro op c p hc
  obtain ⟨fragments, hraw, hcolumns⟩ := hg op c p
  rw [hraw]
  refine .raw fun c' hc' => ?_
  rcases hcolumns c' hc' with rfl | rfl
  · exact hc
  · rfl

/-- What a pass adds to a draft is bound in its joins and its conditions. -/
theorem Plan.binds_apply_body {law : Param → Prop} {d : Draft} {plan : Plan} {ps : List Predicate} (h : d.Binds law)
    (hjoins : ∀ j ∈ plan.joins, ∀ v ∈ j.on.params, law v) (hps : ∀ p ∈ ps, ∀ v ∈ p.params, law v) :
    ((plan.body ps).apply d).Binds law := by
  have hj := h.addJoins hjoins
  unfold Compiled.apply Plan.body
  dsimp only
  split
  next p hp => exact hj.andWhere ((Predicate.closed_params law).all hps p hp)
  next => exact hj

/-! ## Conditions -/

variable {setting : Setting} {subquery : Bool} {c : String} {path : Path} {f : Filter}

theorem Test.From.params_ne_null {type : Option FieldType} {op : Operator} {t : Test}
    (h : t.From type op) {g : Geometry} (hg : g.IsRaw) (table column : String) :
    ∀ v ∈ (t.on g (.field table column)).params, v ≠ .json .null := by
  have htext (s : String) : Param.text s ≠ .json .null := Param.noConfusion
  induction h with
  | const | null => exact List.forall_mem_nil _
  | empty => exact List.forall_mem_singleton.2 (htext "")
  | compare hp => exact List.forall_mem_singleton.2 (ne_null_of_castValue hp)
  | like pattern => exact List.forall_mem_singleton.2 (htext pattern)
  | @among ps hps =>
    have hparams : ((Test.among ps).on g (.field table column)).params = Column.listParams (ps.map .param) := rfl
    rw [hparams, Sql.Column.listParams_map_param]
    intro p hp
    obtain ⟨v, hv⟩ := hps p hp
    exact ne_null_of_castValue hv
  | between hl hh =>
    exact List.forall_mem_cons.2 ⟨ne_null_of_castValue hl, List.forall_mem_singleton.2 (ne_null_of_castValue hh)⟩
  | shape _ geojson =>
    obtain ⟨fragments, hraw, hcolumns⟩ := hg op (.field table column) (.text geojson)
    rw [Test.on, hraw, Predicate.params]
    intro v hv
    obtain ⟨c, hc, hv⟩ := Fragment.exists_of_mem_listParams fragments hv
    rcases hcolumns c hc with rfl | rfl
    · exact absurd hv List.not_mem_nil
    · exact List.mem_singleton.1 hv ▸ htext geojson
  | not _ ih => exact ih

/-- The only parameter of a join is the name of a collection. -/
theorem Hop.params_condition {h : Hop} {s : Schema} {segment : Segment} {table target a : String} {on : Predicate}
    (ho : h.condition s segment c table target a = .ok on) : ∀ v ∈ on.params, v ≠ .json .null := by
  obtain ⟨l, r, rfl | ⟨k, rfl⟩⟩ := Hop.condition_eq_ok ho
  · exact List.forall_mem_nil _
  · exact List.forall_mem_singleton.2 Param.noConfusion

theorem params_of_planJoins {n : Nat} {plan : Plan} (h : planJoins setting subquery c f n = .ok plan) :
    ∀ j ∈ plan.joins, ∀ v ∈ j.on.params, v ≠ .json .null := by
  intro j hj
  obtain ⟨path, from_, segment, hop, table, -, -, -, ho⟩ := (fits_of_planJoins h).1.origin j hj
  exact Hop.params_condition ho

theorem Walks.params_ne_null {pass : Pass} {ps : List Predicate} (h : Walks setting pass c path f ps)
    (hg : setting.geometry.IsRaw) : ∀ p ∈ ps, ∀ v ∈ p.params, v ≠ .json .null := by
  induction h with
  | nil => exact List.forall_mem_nil _
  | everything _ _ ih => exact List.forall_mem_cons.2 ⟨List.forall_mem_nil _, ih⟩
  | group _ _ _ ihgroup ihrest =>
    refine List.forall_mem_append.2 ⟨fun p hp => ?_, ihrest⟩
    exact (Predicate.closed_params _).all ihgroup p (Option.mem_toList.1 hp)
  | column _ _ hq _ ih =>
    obtain ⟨tests, hfrom, rfl⟩ := exists_asked_of_columnConditions hq
    refine List.forall_mem_append.2 ⟨List.forall_mem_map.2 fun t ht => ?_, ih⟩
    obtain ⟨o, -, hfrom⟩ := hfrom t ht
    exact hfrom.params_ne_null hg _ _
  | @deferred _ _ _ _ _ _ hop _ _ _ _ _ _ _ _ _ _ hp _ _ ihbody ihrest =>
    refine List.forall_mem_cons.2 ⟨?_, ihrest⟩
    have hkeys : Draft.Binds (· ≠ .json .null)
        ((Draft.new hop.relation.collection).withColumns [.field hop.relation.collection hop.relation.field]) :=
      { Sql.Draft.binds_new hop.relation.collection with columns := List.forall_mem_nil _ }
    exact (Plan.binds_apply_body hkeys (params_of_planJoins hp) ihbody).toSelect
  | hop _ _ _ _ _ _ _ ihnested ihrest => exact List.forall_mem_append.2 ⟨ihnested, ihrest⟩

/-! ## Queries -/

theorem params_of_compileSearch {s : Schema} {term : String} {p : Predicate} (h : compileSearch s c term = .ok p) :
    ∀ v ∈ p.params, v ≠ .json .null := by
  obtain ⟨k, -, rfl⟩ := exists_of_compileSearch h
  have hfields : ∀ t ∈ k.fields.entries.filterMap fun f => searchField? c term f.1 f.2,
      ∀ v ∈ t.params, v ≠ .json .null := by
    intro t ht
    obtain ⟨f, -, ht⟩ := List.mem_filterMap.1 ht
    unfold searchField? at ht
    dsimp only at ht
    split at ht
    · obtain rfl := Option.some.inj ht
      exact List.forall_mem_singleton.2 Param.noConfusion
    · obtain ⟨value, hvalue, rfl⟩ := Option.map_eq_some_iff.1 ht
      refine List.forall_mem_singleton.2 ?_
      rintro rfl
      exact kind_ne_json_of_exactMatch? hvalue rfl
  have hclosed := Predicate.closed_params (· ≠ .json .null)
  exact hclosed.getD (hclosed.all hfields) false

theorem binds_of_applyQuery {q : Query} {n n' : Nat} {d : Draft} (hg : setting.geometry.IsRaw)
    (h : setting.applyQuery (Draft.new c) c q subquery n = .ok (d, n')) : d.Binds (· ≠ .json .null) := by
  refine applyQuery_parts h ?_ ?_ ?_
  · intro order limit offset horder
    have hnil : Sql.OrderTerm.listParams order = [] := by
      refine Sql.OrderTerm.listParams_eq_nil fun o ho => ?_
      obtain ⟨key, -, heq⟩ := horder o ho
      rw [heq, Column.params]
    exact
      { Sql.Draft.binds_new c with
        order := by
          dsimp only
          rw [hnil]
          exact List.forall_mem_nil _
        limit := fun _ _ => Param.noConfusion
        offset := fun _ _ => Param.noConfusion }
  · intro d f _ m plan ps hp hw _ hd
    exact Plan.binds_apply_body hd (params_of_planJoins hp) (hw.params_ne_null hg)
  · intro d _ _ p hp hd
    exact hd.andWhere (params_of_compileSearch hp)

end PathQuery
