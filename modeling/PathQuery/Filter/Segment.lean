import PathQuery.Text.Pieces

/-!
# Segments of a path

A key of a filter names a field and, after the first colon, the collection expected on the other
side of a relation to any of several collections. Keys and segments are the same up to spelling
(`key_ofKey`, `ofKey_key`).
-/

namespace PathQuery

/-- One step of a path: a field, and the collection it is expected to lead to. No field holds a
colon, which for a literal one is found by evaluation. -/
structure Segment where
  field : String
  scope : Option String
  no_colon : field.toList.contains ':' = false := by exact Eq.refl false
  deriving DecidableEq, Repr

namespace Segment

theorem contains_eq_false_iff {s : String} : s.toList.contains ':' = false ↔ ':' ∉ s.toList := by
  rw [List.contains_eq_mem, decide_eq_false_iff_not]

/-- The segment that a key writes. -/
def ofKey (key : String) : Segment :=
  match h : Text.cut? ':' key with
  | some (field, scope) =>
    ⟨field, some scope, contains_eq_false_iff.2 (Text.cut?_eq_some_iff.1 h).2⟩
  | none => ⟨key, none, contains_eq_false_iff.2 (Text.cut?_eq_none_iff.1 h)⟩

/-- The key that writes the segment. -/
def key (s : Segment) : String :=
  match s.scope with
  | some scope => s.field ++ ":" ++ scope
  | none => s.field

/-- Nothing of a key is lost in its segment. -/
theorem key_ofKey (k : String) : (ofKey k).key = k := by
  unfold ofKey
  split
  next field scope h =>
    apply String.toList_injective
    rw [(Text.cut?_eq_some_iff.1 h).1]
    simp [key]
  next => rfl

theorem ofKey_key (s : Segment) : ofKey s.key = s := by
  obtain ⟨field, scope, hfree⟩ := s
  have hfield := contains_eq_false_iff.1 hfree
  unfold ofKey
  cases scope with
  | none =>
    have hcut : Text.cut? ':' field = none := Text.cut?_eq_none_iff.2 hfield
    split
    next h => exact absurd (hcut.symm.trans h) (by simp)
    next => rfl
  | some scope =>
    have hcut : Text.cut? ':' (field ++ ":" ++ scope) = some (field, scope) :=
      Text.cut?_eq_some_iff.2 ⟨by simp, hfield⟩
    split
    next h =>
      obtain ⟨rfl, rfl⟩ := Prod.mk.inj (Option.some.inj (hcut.symm.trans h))
      rfl
    next h => exact absurd (hcut.symm.trans h) (by simp)

end Segment

end PathQuery
