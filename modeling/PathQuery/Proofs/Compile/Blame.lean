import PathQuery.Proofs.Compile.Phases
import PathQuery.Proofs.Schema.Faults
import PathQuery.Proofs.Schema.Names

/-!
# Who is to blame for an error

Comparisons, sort keys, windows and searches only refuse what the query asks
(`Target.exists_invalid` and those after it). The two walks over a filter also fail at hops, in ways
that the schema explains (`explains_of_planNodes`, `explains_of_conditions`). So whatever is
inconsistent when a query is refused is a fault that the schema really has
(`Setting.explains_of_applyQuery`), and a consistent schema is never blamed
(`okOrInvalid_of_consistent`).
-/

namespace PathQuery

/-- Whether a computation succeeds or refuses what the query asks. -/
def OkOrInvalid {α : Type} (x : Except QueryError α) : Prop :=
  (∃ a, x = .ok a) ∨ ∃ cause, x = .error (.invalid cause)

/-! ## Comparisons -/

namespace Target

variable {t : Target} {op : Operator} {v : Json} {e : QueryError}

theorem exists_invalid_of_cast (h : t.cast op v = .error e) : ∃ cause, e = .invalid cause := by
  unfold Target.cast at h
  split at h
  next => exact absurd h (by simp)
  next => exact ⟨_, (Except.error.inj h).symm⟩

theorem exists_invalid_of_like (h : t.like op v = .error e) : ∃ cause, e = .invalid cause := by
  unfold Target.like at h
  split at h
  next => exact absurd h (by simp)
  next => exact ⟨_, (Except.error.inj h).symm⟩

theorem exists_invalid_of_membership (h : t.membership op v = .error e) : ∃ cause, e = .invalid cause := by
  unfold Target.membership at h
  split at h
  next => exact absurd h (by simp)
  next =>
    obtain ⟨value, -, hvalue⟩ := exists_of_mapM_eq_error _ (error_of_bind_pure_eq_error h)
    exact exists_invalid_of_cast hvalue

theorem exists_invalid_of_range (h : t.range op v = .error e) : ∃ cause, e = .invalid cause := by
  unfold Target.range at h
  split at h
  next =>
    rcases error_of_bind_eq_error h with h | ⟨l, -, h⟩
    · exact exists_invalid_of_cast h
    · exact exists_invalid_of_cast (error_of_bind_pure_eq_error h)
  next => exact absurd h (by simp)

theorem exists_invalid_of_geojson (h : t.geojson op v = .error e) : ∃ cause, e = .invalid cause := by
  unfold Target.geojson at h
  split at h
  next => exact absurd h (by simp)
  next => exact absurd h (by simp)
  next => exact ⟨_, (Except.error.inj h).symm⟩

theorem exists_invalid_of_compare {geometry : Geometry} (h : t.compare geometry op v = .error e) :
    ∃ cause, e = .invalid cause := by
  unfold Target.compare at h
  split at h
  next => exact absurd h (by simp)
  next =>
    cases op with
    | null | notNull | empty | notEmpty => exact absurd h (by simp [compareWith])
    | eq | neq | gt | gte | lt | lte => exact exists_invalid_of_cast (error_of_bind_pure_eq_error h)
    | contains | notContains | startsWith | notStartsWith | endsWith | notEndsWith =>
      exact exists_invalid_of_like (error_of_bind_pure_eq_error h)
    | isIn | notIn => exact exists_invalid_of_membership (error_of_bind_pure_eq_error h)
    | between | notBetween => exact exists_invalid_of_range h
    | intersects | notIntersects | intersectsBox | notIntersectsBox =>
      exact exists_invalid_of_geojson (error_of_bind_pure_eq_error h)

theorem exists_invalid_of_conditions {geometry : Geometry} (cs : List (Operator × Json))
    (h : t.conditions geometry cs = .error e) : ∃ cause, e = .invalid cause := by
  induction cs with
  | nil => exact absurd h (by simp [Target.conditions])
  | cons c cs ih =>
    rw [Target.conditions] at h
    rcases error_of_bind_eq_error h with h | ⟨p, -, h⟩
    · exact exists_invalid_of_compare h
    · exact ih (error_of_bind_pure_eq_error h)

end Target

variable {setting : Setting} {subquery : Bool} {c : String} {e : QueryError}

theorem exists_invalid_of_columnConditions {pass : Pass} {path : Path} {field : String} {f : Filter}
    (h : columnConditions setting pass c path field f = .error e) : ∃ cause, e = .invalid cause := by
  unfold columnConditions at h
  rcases error_of_bind_eq_error h with h | ⟨type, -, h⟩
  · unfold Setting.fieldType at h
    split at h
    next => exact absurd h (by simp)
    next =>
      split at h
      next => exact ⟨_, (Except.error.inj h).symm⟩
      next => exact absurd h (by simp)
  · exact Target.exists_invalid_of_conditions _ h

/-! ## The parts of a query besides the filter -/

theorem exists_invalid_of_compileSort {keys : List String} (h : compileSort c keys = .error e) :
    ∃ cause, e = .invalid cause := by
  obtain ⟨key, -, h⟩ := exists_of_mapM_eq_error _ h
  unfold sortTerm at h
  dsimp only at h
  split at h
  next => exact ⟨_, (Except.error.inj h).symm⟩
  next =>
    split at h
    next => exact ⟨_, (Except.error.inj h).symm⟩
    next => exact absurd h (by simp)

theorem exists_invalid_of_compileLimit {config : Config} {limit : Option Int64}
    (h : compileLimit config limit = .error e) : ∃ cause, e = .invalid cause := by
  unfold compileLimit at h
  grind

theorem exists_invalid_of_compileOffset {offset page limit : Option Int64}
    (h : compileOffset offset page limit = .error e) : ∃ cause, e = .invalid cause := by
  unfold compileOffset compilePage at h
  grind

theorem exists_invalid_of_compileSearch {s : Schema} {term : String} (h : compileSearch s c term = .error e) :
    ∃ cause, e = .invalid cause := by
  unfold compileSearch at h
  split at h
  next => exact ⟨_, (Except.error.inj h).symm⟩
  next => exact absurd h (by simp)

/-! ## The walks -/

theorem explains_of_checkDepth {s : Schema} {config : Config} {depth : Nat} (h : config.checkDepth depth = .error e) :
    s.Explains e := by
  unfold Config.checkDepth at h
  split at h
  next =>
    obtain rfl := Except.error.inj h
    exact .invalid _
  next => exact absurd h (by simp)

theorem Schema.Explains.of_exists_invalid {s : Schema} (h : ∃ cause, e = .invalid cause) : s.Explains e := by
  obtain ⟨cause, rfl⟩ := h
  exact .invalid cause

theorem Plan.explains_of_addHop {p : Plan} {hop : Hop} {segment : Segment} {path : Path}
    (hh : setting.schema.hop? c segment.field = some hop) (h : p.addHop setting hop segment c path = .error e) :
    setting.schema.Explains e := by
  unfold Plan.addHop at h
  rcases error_of_bind_eq_error h with h | ⟨target, ht, h⟩
  · exact hop.explains_target hh h
  · dsimp only at h
    split at h
    next => exact absurd h pure_ne_error
    next => exact hop.explains_condition hh ht (error_of_bind_pure_eq_error h)

mutual

theorem explains_of_planNode {c : String} {path : Path} {p : Plan} :
    (n : Node) → planNode setting subquery c path n p = .error e → setting.schema.Explains e
  | .comparison _ _, h => by
    rw [planNode] at h
    exact absurd h (by simp)
  | .group op children, h => by
    rw [planNode] at h
    split at h
    next => exact absurd h (by simp)
    next => exact explains_of_planChildren children h
  | .field segment nested, h => by
    rw [planNode] at h
    split at h
    next => exact absurd h (by simp)
    next =>
      rcases error_of_bind_eq_error h with h | ⟨-, -, h⟩
      · exact explains_of_checkDepth h
      split at h
      next => exact absurd h pure_ne_error
      next hop hh =>
        split at h
        next => exact absurd h pure_ne_error
        next =>
          rcases error_of_bind_eq_error h with h | ⟨⟨target, q⟩, -, h⟩
          · exact Plan.explains_of_addHop hh h
          · exact explains_of_planNodes nested h

theorem explains_of_planNodes {c : String} {path : Path} {p : Plan} :
    (f : List Node) → planNodes setting subquery c path f p = .error e → setting.schema.Explains e
  | [], h => by
    rw [planNodes] at h
    exact absurd h (by simp)
  | n :: rest, h => by
    rw [planNodes] at h
    rcases error_of_bind_eq_error h with h | ⟨q, -, h⟩
    · exact explains_of_planNode n h
    · exact explains_of_planNodes rest h

theorem explains_of_planChildren {c : String} {path : Path} {p : Plan} :
    (fs : List (List Node)) → planChildren setting subquery c path fs p = .error e → setting.schema.Explains e
  | [], h => by
    rw [planChildren] at h
    exact absurd h (by simp)
  | f :: fs, h => by
    rw [planChildren] at h
    rcases error_of_bind_eq_error h with h | ⟨q, -, h⟩
    · exact explains_of_planNodes f h
    · exact explains_of_planChildren fs h

end

mutual

theorem explains_of_nodeConditions {pass : Pass} {c : String} {path : Path} {d : Nat} :
    (n : Node) → nodeConditions setting pass c path n d = .error e → setting.schema.Explains e
  | .comparison op v, h => by
    rw [nodeConditions] at h
    obtain rfl := Except.error.inj h
    exact .invalid _
  | .group op children, h => by
    rw [nodeConditions] at h
    split at h
    next => exact absurd h (by simp)
    next => exact explains_of_childConditions children (error_of_bind_pure_eq_error h)
  | .field segment nested, h => by
    rw [nodeConditions] at h
    rcases error_of_bind_eq_error h with h | ⟨-, -, h⟩
    · exact explains_of_checkDepth h
    split at h
    next => exact .of_exists_invalid (exists_invalid_of_columnConditions (error_of_bind_pure_eq_error h))
    next =>
      rcases error_of_bind_eq_error h with h | ⟨hop, hh, h⟩
      · unfold Setting.hop at h
        split at h
        next => exact absurd h (by simp)
        next =>
          obtain rfl := Except.error.inj h
          exact .invalid _
      have hh := hop_eq_ok.1 hh
      split at h
      next hdeferred =>
        rcases error_of_bind_eq_error h with h | ⟨key, -, h⟩
        · exact Schema.explains_primaryKey hh (Hop.isDeferred_iff.1 hdeferred).1 h
        rcases error_of_bind_eq_error h with h | ⟨plan, -, h⟩
        · exact explains_of_planNodes nested h
        rcases error_of_bind_eq_error h with h | ⟨qs, -, h⟩
        · exact explains_of_conditions nested h
        · exact absurd h pure_ne_error
      next =>
        rcases error_of_bind_eq_error h with h | ⟨target, -, h⟩
        · exact hop.explains_target hh h
        · exact explains_of_conditions nested h

theorem explains_of_conditions {pass : Pass} {c : String} {path : Path} {d : Nat} :
    (f : List Node) → conditions setting pass c path f d = .error e → setting.schema.Explains e
  | [], h => by
    rw [conditions] at h
    exact absurd h (by simp)
  | n :: rest, h => by
    rw [conditions] at h
    rcases error_of_bind_eq_error h with h | ⟨ps, -, h⟩
    · exact explains_of_nodeConditions n h
    · exact explains_of_conditions rest (error_of_bind_pure_eq_error h)

theorem explains_of_childConditions {pass : Pass} {c : String} {path : Path} {d : Nat} :
    (fs : List (List Node)) → childConditions setting pass c path fs d = .error e → setting.schema.Explains e
  | [], h => by
    rw [childConditions] at h
    exact absurd h (by simp)
  | f :: fs, h => by
    rw [childConditions] at h
    rcases error_of_bind_eq_error h with h | ⟨ps, -, h⟩
    · exact explains_of_conditions f h
    · exact explains_of_childConditions fs (error_of_bind_pure_eq_error h)

end

theorem explains_of_compileFilter {f : Filter} {n : Nat} (h : compileFilter setting subquery c f n = .error e) :
    setting.schema.Explains e := by
  rcases error_of_bind_eq_error h with h | ⟨plan, -, h⟩
  · exact explains_of_planNodes f h
  · exact explains_of_conditions f (error_of_bind_pure_eq_error h)

namespace Setting

variable {n : Nat} {d : Sql.Draft}

theorem explains_of_applyFilter {f : Filter} (h : setting.applyFilter d f c subquery n = .error e) :
    setting.schema.Explains e :=
  explains_of_compileFilter (error_of_bind_pure_eq_error h)

theorem explains_of_applySearch {term : String} (h : setting.applySearch d term c = .error e) :
    setting.schema.Explains e :=
  .of_exists_invalid (exists_invalid_of_compileSearch (error_of_bind_pure_eq_error h))

theorem explains_of_applyQuery {q : Query} (h : setting.applyQuery d c q subquery n = .error e) :
    setting.schema.Explains e := by
  rcases error_of_bind_eq_error (error_of_bind_pure_eq_error h) with h | ⟨order, -, h⟩
  · exact .of_exists_invalid (exists_invalid_of_compileSort h)
  rcases error_of_bind_eq_error h with h | ⟨limit, -, h⟩
  · exact .of_exists_invalid (exists_invalid_of_compileLimit h)
  rcases error_of_bind_eq_error h with h | ⟨offset, -, h⟩
  · exact .of_exists_invalid (exists_invalid_of_compileOffset h)
  rcases error_of_bind_eq_error h with h | ⟨filtered, -, h⟩
  · obtain ⟨f, -, h⟩ := compileFilter?_eq_error h
    exact explains_of_compileFilter h
  · obtain ⟨term, -, -, h⟩ := compileSearch?_eq_error (error_of_bind_pure_eq_error h)
    exact .of_exists_invalid (exists_invalid_of_compileSearch h)

end Setting

/-- Of a consistent schema, an error that the schema explains is the query's. -/
theorem Schema.Consistent.okOrInvalid {α : Type} {s : Schema} (hs : s.Consistent) {x : Except QueryError α}
    (h : ∀ e, x = .error e → s.Explains e) : OkOrInvalid x := by
  cases x with
  | ok a => exact .inl ⟨a, rfl⟩
  | error e =>
    obtain ⟨cause, rfl⟩ := hs.exists_invalid (h e rfl)
    exact .inr ⟨cause, rfl⟩

variable (setting) in
/-- Whatever is asked, a consistent schema is not blamed. Any schema is only blamed for faults that
it has, and that a hop to any of several collections has no field for the collection is none that
any schema can have. -/
theorem okOrInvalid_of_consistent (d : Sql.Draft) (c : String) (subquery : Bool) (n : Nat) :
    (setting.schema.Consistent →
      (∀ q, OkOrInvalid (setting.applyQuery d c q subquery n)) ∧
      (∀ f, OkOrInvalid (setting.applyFilter d f c subquery n)) ∧
      ∀ term, OkOrInvalid (setting.applySearch d term c)) ∧
    (∀ field hop, setting.schema.hop? c field = some hop → hop.kind = .manyToAny → hop.collectionField? ≠ none) ∧
    ∀ collection field, (∀ q, setting.applyQuery d c q subquery n ≠
        .error (.inconsistent (.noCollectionField collection field))) ∧
      ∀ f, setting.applyFilter d f c subquery n ≠
        .error (.inconsistent (.noCollectionField collection field)) := by
  refine ⟨fun hs => ⟨fun q => ?_, fun f => ?_, fun term => ?_⟩, fun field hop hh hk => ?_,
    fun collection field => ⟨fun q h => ?_, fun f h => ?_⟩⟩
  · exact hs.okOrInvalid fun e => Setting.explains_of_applyQuery
  · exact hs.okOrInvalid fun e => Setting.explains_of_applyFilter
  · exact hs.okOrInvalid fun e => Setting.explains_of_applySearch
  · obtain ⟨f, hf⟩ := Schema.exists_collectionField hh hk
    rw [hf]
    exact Option.some_ne_none f
  · cases Setting.explains_of_applyQuery h with
    | fault hf => cases hf
  · cases Setting.explains_of_applyFilter h with
    | fault hf => cases hf

/-- The items of blocks lead to headings only, which are there, so no query fails for the schema. -/
theorem okOrInvalid_layout : Schema.layout.Consistent ∧
    ∀ q, OkOrInvalid ((Setting.default .layout).applyQuery (.new "pages") "pages" q false 0) := by
  have hs : Schema.layout.Consistent := by decide
  exact ⟨hs, ((okOrInvalid_of_consistent (.default .layout) (.new "pages") "pages" false 0).1 hs).1⟩

end PathQuery
