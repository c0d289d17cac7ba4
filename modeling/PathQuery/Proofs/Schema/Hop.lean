import PathQuery.Schema.Hop

/-!
# What hops are found

What a schema says of a relation if a field makes a hop by it (`field_of_hop?`, `details_of_hop?`),
and of the collection that the hop leads to (`related_of_target`, `scope_of_target`).
-/

namespace PathQuery

namespace Schema

variable {s : Schema} {hop : Hop} {c field key : String} {r : Relation} {kind : Hop.Kind}

theorem relation_mem_of_hop? (h : s.hop? c field = some hop) : hop.relation ∈ s.relations := by
  unfold hop? at h
  split at h
  next r hr =>
    rw [← Option.some.inj h]
    exact List.mem_of_find?_eq_some hr
  next =>
    obtain ⟨r, hr, rfl⟩ := Option.map_eq_some_iff.1 h
    exact List.mem_of_find?_eq_some hr

theorem exists_of_primaryKey (h : s.primaryKey c = .ok key) :
    ∃ k, s.collection? c = some k ∧ k.primary = key := by
  unfold primaryKey at h
  split at h
  next k hk => exact ⟨k, hk, Except.ok.inj h⟩
  next => exact absurd h (by simp)

/-- A hop that is not to many rows belongs to the field that makes it. -/
theorem field_of_hop? (h : s.hop? c field = some ⟨r, kind⟩) (hk : kind ≠ .oneToMany) :
    r.collection = c ∧ r.field = field := by
  unfold hop? at h
  split at h
  next r' hr =>
    obtain ⟨rfl, -⟩ := Hop.mk.inj (Option.some.inj h)
    have hof := List.find?_some hr
    simpa [Relation.isOf] using hof
  next =>
    obtain ⟨r', -, heq⟩ := Option.map_eq_some_iff.1 h
    exact absurd (Hop.mk.inj heq).2.symm hk

/-- A hop to many rows is of a relation that leads back to the collection by the field. -/
theorem details_of_hop? (h : s.hop? c field = some ⟨r, .oneToMany⟩) :
    r.relatedCollection = some c ∧ ∃ details, r.details = some details ∧ details.oneField = some field := by
  unfold hop? at h
  split at h
  next r' hr =>
    have hkind := (Hop.mk.inj (Option.some.inj h)).2
    split at hkind <;> exact absurd hkind (by simp)
  next =>
    obtain ⟨r', hr, heq⟩ := Option.map_eq_some_iff.1 h
    obtain ⟨rfl, -⟩ := Hop.mk.inj heq
    have hreverse := List.find?_some hr
    simp only [Relation.isReverseOf, Bool.and_eq_true, beq_iff_eq] at hreverse
    exact ⟨hreverse.1, Option.bind_eq_some_iff.1 hreverse.2⟩

end Schema

namespace Hop

variable {s : Schema} {segment : Segment} {r : Relation} {target : String}

/-- A hop to many rows leads to the collection that holds their foreign keys, however it is
written. -/
theorem target_of_oneToMany {hop : Hop} (hk : hop.kind = .oneToMany) (segment : Segment) :
    hop.target s segment = .ok hop.relation.collection := by
  obtain ⟨r, kind⟩ := hop
  obtain rfl : kind = .oneToMany := hk
  rfl

theorem related_of_target (h : Hop.target ⟨r, .manyToOne⟩ s segment = .ok target) :
    r.relatedCollection = some target := by
  unfold Hop.target at h
  dsimp only at h
  split at h
  next related hrelated => rw [hrelated, Except.ok.inj h]
  next => exact absurd h (by simp)

theorem exists_of_mem_allowed {hop : Hop} {scope : String} (h : scope ∈ hop.allowed) :
    ∃ details allowed, hop.relation.details = some details ∧ details.oneAllowedCollections = some allowed ∧
      scope ∈ allowed := by
  unfold Hop.allowed at h
  cases hallowed : hop.relation.details.bind RelationDetails.oneAllowedCollections with
  | none =>
    rw [hallowed] at h
    exact absurd h List.not_mem_nil
  | some allowed =>
    rw [hallowed] at h
    obtain ⟨details, hd, ha⟩ := Option.bind_eq_some_iff.1 hallowed
    exact ⟨details, allowed, hd, ha, h⟩

/-- The scope of a hop to any of several collections is an allowed one. -/
theorem scope_of_target (h : Hop.target ⟨r, .manyToAny⟩ s segment = .ok target) :
    segment.scope = some target ∧ ∃ details allowed, r.details = some details ∧
      details.oneAllowedCollections = some allowed ∧ target ∈ allowed := by
  unfold Hop.target at h
  dsimp only at h
  split at h
  next => exact absurd h (by simp)
  next scope hs =>
    split at h
    next => exact absurd h (by simp)
    next hm =>
      split at h
      next => exact absurd h (by simp)
      next =>
        obtain rfl := Except.ok.inj h
        exact ⟨hs, exists_of_mem_allowed (Decidable.not_not.1 hm)⟩

end Hop

end PathQuery
