import PathQuery.Compile.Joins
import PathQuery.Proofs.Outcome
import PathQuery.Proofs.Schema.Hop

/-!
# Faults of a schema

* `Schema.Consistent` : whether all collections that relations refer to are in the schema;
* `Schema.Fault` : what else an inconsistency may tell of a schema;
* `Schema.Explains` : whether an error tells of the query, or of something that is the matter with
  the schema.

Hops and the primary keys that they ask for fail in ways that the schema explains. A hop to any of
several collections always has a field that names the collection (`exists_collectionField`).
-/

namespace PathQuery

namespace Schema

def Has (s : Schema) (c : String) : Prop := (s.collection? c).isSome

instance (s : Schema) (c : String) : Decidable (s.Has c) := inferInstanceAs (Decidable (_ = true))

theorem not_has_iff {s : Schema} {c : String} : ¬ s.Has c ↔ (s.collection? c).isNone = true := by
  simp [Has]

/-- Whether all that the relations of a schema refer to is there. -/
structure Consistent (s : Schema) : Prop where
  has_collection : ∀ r ∈ s.relations, s.Has r.collection
  /-- Only a relation with a field for the collection and allowed collections may have no related
  one. -/
  related : ∀ r ∈ s.relations,
    (∀ d ∈ r.details, d.oneCollectionField = none ∨ d.oneAllowedCollections = none) → r.relatedCollection ≠ none
  has_related : ∀ r ∈ s.relations, ∀ c ∈ r.relatedCollection, s.Has c
  has_allowed : ∀ r ∈ s.relations, ∀ d ∈ r.details, ∀ cs ∈ d.oneAllowedCollections, ∀ c ∈ cs, s.Has c

instance (s : Schema) : Decidable s.Consistent :=
  decidable_of_iff
    ((∀ r ∈ s.relations, s.Has r.collection) ∧
      (∀ r ∈ s.relations, (∀ d ∈ r.details, d.oneCollectionField = none ∨ d.oneAllowedCollections = none) →
        r.relatedCollection ≠ none) ∧
      (∀ r ∈ s.relations, ∀ c ∈ r.relatedCollection, s.Has c) ∧
      ∀ r ∈ s.relations, ∀ d ∈ r.details, ∀ cs ∈ d.oneAllowedCollections, ∀ c ∈ cs, s.Has c)
    ⟨fun ⟨h, h', h'', h'''⟩ => ⟨h, h', h'', h'''⟩, fun ⟨h, h', h'', h'''⟩ => ⟨h, h', h'', h'''⟩⟩

inductive Fault (s : Schema) : Inconsistency → Prop where
  | related {r c} (hr : r ∈ s.relations) (hc : r.relatedCollection = some c) (hn : ¬ s.Has c) :
      Fault s (.missingCollection c)
  | unrelated {r} (hr : r ∈ s.relations) (ht : r.isToAny = false) (hc : r.relatedCollection = none) :
      Fault s (.noRelatedCollection r.collection r.field)
  | allowed {r d cs c} (hr : r ∈ s.relations) (hd : r.details = some d) (hcs : d.oneAllowedCollections = some cs)
      (hc : c ∈ cs) (hn : ¬ s.Has c) : Fault s (.missingScope c r.collection r.field)

/-- Whether an error tells of the query, or of a fault that the schema has. -/
inductive Explains (s : Schema) : QueryError → Prop where
  | invalid (cause : InvalidQuery) : Explains s (.invalid cause)
  | fault {cause : Inconsistency} (h : s.Fault cause) : Explains s (.inconsistent cause)

variable {s : Schema} {hop : Hop} {c field : String} {segment : Segment} {r : Relation} {e : QueryError}

theorem isToAny_eq_false_iff :
    r.isToAny = false ↔ ∀ d ∈ r.details, d.oneCollectionField = none ∨ d.oneAllowedCollections = none := by
  unfold Relation.isToAny
  cases r.details with
  | none => simp
  | some d =>
    obtain ⟨field, collectionField, allowed, action⟩ := d
    cases collectionField <;> cases allowed <;> simp

theorem Consistent.not_fault {cause : Inconsistency} (h : s.Consistent) : ¬ s.Fault cause := by
  intro hf
  cases hf with
  | related hr hc hn => exact hn (h.has_related _ hr _ hc)
  | unrelated hr ht hc => exact h.related _ hr (isToAny_eq_false_iff.1 ht) hc
  | allowed hr hd hcs hc hn => exact hn (h.has_allowed _ hr _ hd _ hcs _ hc)

theorem Consistent.exists_invalid (h : s.Consistent) (he : s.Explains e) : ∃ cause, e = .invalid cause := by
  cases he with
  | invalid cause => exact ⟨cause, rfl⟩
  | fault hf => exact absurd hf h.not_fault

/-- Whether a hop leads to any of several collections is up to its relation, unless it leads to many
rows. -/
theorem isToAny_of_hop? (h : s.hop? c field = some hop) (hk : hop.kind ≠ .oneToMany) :
    hop.relation.isToAny = (hop.kind == .manyToAny) := by
  unfold hop? at h
  split at h
  next r hr =>
    obtain rfl := Option.some.inj h
    cases r.isToAny <;> rfl
  next =>
    obtain ⟨r, -, rfl⟩ := Option.map_eq_some_iff.1 h
    exact absurd rfl hk

theorem exists_collectionField (h : s.hop? c field = some hop) (hk : hop.kind = .manyToAny) :
    ∃ f, hop.collectionField? = some f := by
  have hany := isToAny_of_hop? h (by simp [hk])
  rw [hk] at hany
  unfold Relation.isToAny at hany
  split at hany
  next d hd =>
    rw [beq_self_eq_true, Bool.and_eq_true] at hany
    obtain ⟨f, hf⟩ := Option.isSome_iff_exists.1 hany.1
    exact ⟨f, Option.bind_eq_some_iff.2 ⟨d, hd, hf⟩⟩
  next => exact absurd hany (by simp)

theorem primaryKey_eq_error (h : s.primaryKey c = .error e) :
    ¬ s.Has c ∧ e = .inconsistent (.missingCollection c) := by
  unfold primaryKey at h
  split at h
  next => exact absurd h (by simp)
  next hn => exact ⟨by simp [Has, hn], (Except.error.inj h).symm⟩

theorem explains_primaryKey (hh : s.hop? c field = some hop) (hk : hop.kind = .oneToMany)
    (h : s.primaryKey c = .error e) : s.Explains e := by
  obtain ⟨r, kind⟩ := hop
  obtain rfl : kind = .oneToMany := hk
  obtain ⟨hn, rfl⟩ := primaryKey_eq_error h
  exact .fault (.related (relation_mem_of_hop? hh) (details_of_hop? hh).1 hn)

end Schema

namespace Hop

open Schema

variable {s : Schema} {hop : Hop} {c field table target aliasName : String} {segment : Segment} {e : QueryError}

theorem explains_target (hh : s.hop? c field = some hop) (h : hop.target s segment = .error e) : s.Explains e := by
  have hr := relation_mem_of_hop? hh
  obtain ⟨r, kind⟩ := hop
  cases kind with
  | oneToMany => exact absurd h (by simp [Hop.target])
  | manyToOne =>
    unfold Hop.target at h
    dsimp only at h
    split at h
    next => exact absurd h (by simp)
    next hc =>
      obtain rfl := Except.error.inj h
      exact .fault (.unrelated hr (isToAny_of_hop? hh (by simp)) hc)
  | manyToAny =>
    unfold Hop.target at h
    dsimp only at h
    split at h
    next =>
      obtain rfl := Except.error.inj h
      exact .invalid _
    next scope hs =>
      split at h
      next =>
        obtain rfl := Except.error.inj h
        exact .invalid _
      next hm =>
        split at h
        next hn =>
          obtain rfl := Except.error.inj h
          obtain ⟨d, cs, hd, hcs, hc⟩ := exists_of_mem_allowed (Decidable.not_not.1 hm)
          exact .fault (.allowed hr hd hcs hc (not_has_iff.2 hn))
        next => exact absurd h (by simp)

/-- A hop to any of several collections leads to one of the schema. -/
theorem has_of_target {r : Relation} (h : Hop.target ⟨r, .manyToAny⟩ s segment = .ok target) : s.Has target := by
  unfold Hop.target at h
  dsimp only at h
  split at h
  next => exact absurd h (by simp)
  next scope hs =>
    split at h
    next => exact absurd h (by simp)
    next =>
      split at h
      next => exact absurd h (by simp)
      next hn =>
        obtain rfl := Except.ok.inj h
        exact Decidable.not_not.1 fun hs => hn (not_has_iff.1 hs)

/-- A hop that leads somewhere is joined, or a related collection is missing. -/
theorem explains_condition (hh : s.hop? c segment.field = some hop) (ht : hop.target s segment = .ok target)
    (h : hop.condition s segment c table target aliasName = .error e) : s.Explains e := by
  have hr := relation_mem_of_hop? hh
  obtain ⟨r, kind⟩ := hop
  cases kind with
  | oneToMany => exact explains_primaryKey hh rfl (error_of_bind_pure_eq_error h)
  | manyToOne =>
    obtain ⟨hn, rfl⟩ := primaryKey_eq_error (error_of_bind_pure_eq_error h)
    exact .fault (.related hr (related_of_target ht) hn)
  | manyToAny =>
    obtain ⟨f, hf⟩ := exists_collectionField hh rfl
    unfold Hop.condition at h
    simp only [hf] at h
    exact absurd (has_of_target ht) (primaryKey_eq_error (error_of_bind_pure_eq_error h)).1

end Hop

end PathQuery
