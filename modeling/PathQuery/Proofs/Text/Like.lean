import Mathlib.Data.List.Infix

/-!
# Patterns of texts

In a pattern a percent sign stands for any characters and an underscore for any one character, and a
backslash has the character behind it stand for itself.

* `Pattern.places?` : the places of a pattern, if its last backslash has a character behind it;
* `Pattern.fits` : whether a text fits places;
* `Pattern.Plain` : texts without one of the three characters.

The texts that fit one pattern after another are cut in two (`Pattern.fits_append`). A plain text
fits itself and nothing else fits it (`Pattern.fits_map_exactly`), while any other pattern is fit by
a text that is shorter or is another one (`Pattern.plain_of_sample`).
-/

namespace PathQuery.Pattern

/-- What stands for characters in a pattern. -/
inductive Place where
  | any
  | one
  | exactly (c : Char)
  deriving DecidableEq

namespace Place

/-- The place of a character that is not escaped. -/
def of : Char → Place
  | '%' => .any
  | '_' => .one
  | c => .exactly c

theorem of_eq (c : Char) :
    c = '%' ∧ of c = .any ∨ c = '_' ∧ of c = .one ∨ (c ≠ '%' ∧ c ≠ '_') ∧ of c = .exactly c := by
  unfold of
  split
  next => exact .inl ⟨rfl, rfl⟩
  next => exact .inr (.inl ⟨rfl, rfl⟩)
  next hany hone => exact .inr (.inr ⟨⟨hany, hone⟩, rfl⟩)

/-- Whether a place stands for some characters. -/
def Takes : Place → List Char → Prop
  | .any, _ => True
  | .one, m => ∃ c, m = [c]
  | .exactly c, m => m = [c]

end Place

/-- The places of a pattern, or of the rest of one behind a backslash; none if nothing is behind the
last backslash. -/
def places? (escaped : Bool) : List Char → Option (List Place)
  | [] => if escaped then none else some []
  | c :: cs =>
    if escaped then (places? false cs).map (.exactly c :: ·)
    else if c = '\\' then places? true cs
    else (places? false cs).map (.of c :: ·)

/-- Whether a text fits the places of a pattern. -/
def fits : List Place → List Char → Bool
  | [], s => s.isEmpty
  | .any :: ps, s => s.tails.any (fits ps)
  | .one :: ps, _ :: s => fits ps s
  | .exactly c :: ps, d :: s => d == c && fits ps s
  | _ :: _, [] => false

/-- Whether a text has none of the characters that stand for others. -/
def Plain (s : List Char) : Prop := ∀ c ∈ s, c ≠ '%' ∧ c ≠ '_' ∧ c ≠ '\\'

instance : DecidablePred Plain := fun s => List.decidableBAll (fun c => c ≠ '%' ∧ c ≠ '_' ∧ c ≠ '\\') s

/-! ## Texts that fit -/

section

variable {p : Place} {ps qs : List Place} {s v : List Char}

theorem fits_nil : fits [] s = true ↔ s = [] := List.isEmpty_iff

theorem fits_cons : fits (p :: ps) s = true ↔ ∃ m u, s = m ++ u ∧ p.Takes m ∧ fits ps u = true := by
  cases p with
  | any =>
    rw [fits, List.any_eq_true]
    constructor
    · rintro ⟨u, hu, hfits⟩
      obtain ⟨m, rfl⟩ := (List.mem_tails _ _).1 hu
      exact ⟨m, u, rfl, trivial, hfits⟩
    · rintro ⟨m, u, rfl, -, hfits⟩
      exact ⟨u, (List.mem_tails _ _).2 (List.suffix_append m u), hfits⟩
  | one =>
    constructor
    · cases s with
      | nil => exact fun h => absurd h Bool.false_ne_true
      | cons d s => exact fun h => ⟨[d], s, rfl, ⟨d, rfl⟩, h⟩
    · rintro ⟨_, u, rfl, ⟨d, rfl⟩, hfits⟩
      exact hfits
  | exactly c =>
    constructor
    · cases s with
      | nil => exact fun h => absurd h Bool.false_ne_true
      | cons d s =>
        intro h
        rw [fits, Bool.and_eq_true, beq_iff_eq] at h
        exact ⟨[d], s, rfl, congrArg (fun x => [x]) h.1, h.2⟩
    · rintro ⟨_, u, rfl, rfl, hfits⟩
      rw [List.singleton_append, fits, beq_self_eq_true, Bool.true_and]
      exact hfits

/-- A text that fits two patterns in a row is cut into texts that fit the one and the other. -/
theorem fits_append : fits (ps ++ qs) s = true ↔ ∃ t u, s = t ++ u ∧ fits ps t = true ∧ fits qs u = true := by
  induction ps generalizing s with
  | nil =>
    constructor
    · exact fun h => ⟨[], s, rfl, rfl, h⟩
    · rintro ⟨t, u, rfl, ht, hu⟩
      rwa [fits_nil.1 ht]
  | cons p ps ih =>
    rw [List.cons_append, fits_cons]
    constructor
    · rintro ⟨m, _, rfl, hm, h⟩
      obtain ⟨t, u, rfl, ht, hu⟩ := ih.1 h
      exact ⟨m ++ t, u, (List.append_assoc m t u).symm, fits_cons.2 ⟨m, t, rfl, hm, ht⟩, hu⟩
    · rintro ⟨_, u, rfl, h, hu⟩
      obtain ⟨m, t, rfl, hm, ht⟩ := fits_cons.1 h
      exact ⟨m, t ++ u, List.append_assoc m t u, hm, ih.2 ⟨t, u, rfl, ht, hu⟩⟩

theorem fits_any_cons : fits (.any :: ps) s = true ↔ ∃ m, m <:+ s ∧ fits ps m = true := by
  rw [fits, List.any_eq_true]
  exact exists_congr fun m => and_congr_left' (List.mem_tails m s)

theorem fits_append_any : fits (ps ++ [.any]) s = true ↔ ∃ m, m <+: s ∧ fits ps m = true := by
  rw [fits_append]
  constructor
  · rintro ⟨t, u, rfl, ht, -⟩
    exact ⟨t, List.prefix_append t u, ht⟩
  · rintro ⟨t, ⟨u, rfl⟩, ht⟩
    exact ⟨t, u, rfl, ht, fits_any_cons.2 ⟨[], List.nil_suffix, rfl⟩⟩

theorem fits_any_append_any : fits (.any :: (ps ++ [.any])) s = true ↔ ∃ m, m <:+: s ∧ fits ps m = true := by
  rw [fits_any_cons]
  constructor
  · rintro ⟨t, ht, h⟩
    obtain ⟨m, hm, hfits⟩ := fits_append_any.1 h
    exact ⟨m, hm.isInfix.trans ht.isInfix, hfits⟩
  · rintro ⟨m, hm, hfits⟩
    obtain ⟨t, ht, hs⟩ := List.infix_iff_prefix_suffix.1 hm
    exact ⟨t, hs, fits_append_any.2 ⟨m, ht, hfits⟩⟩

/-- Characters that stand for themselves are fit by their text alone. -/
theorem fits_map_exactly : fits (v.map .exactly) s = true ↔ s = v := by
  induction v generalizing s with
  | nil => exact fits_nil
  | cons c v ih =>
    rw [List.map_cons, fits_cons]
    constructor
    · rintro ⟨_, u, rfl, rfl, hu⟩
      rw [ih.1 hu, List.singleton_append]
    · rintro rfl
      exact ⟨[c], v, rfl, rfl, ih.2 rfl⟩

end

/-! ## Places of patterns -/

section

variable {u v w : List Char} {ps : List Place}

theorem places?_percent (cs : List Char) : places? false ('%' :: cs) = (places? false cs).map (.any :: ·) := rfl

theorem places?_append {escaped : Bool} (h : places? escaped u = some ps) :
    places? escaped (u ++ w) = (places? false w).map (ps ++ ·) := by
  induction u generalizing escaped ps with
  | nil =>
    cases escaped with
    | true => exact absurd h (by simp [places?])
    | false =>
      obtain rfl := Option.some.inj h
      exact (Option.map_id' (x := places? false w)).symm
  | cons c u ih =>
    rw [places?] at h
    rw [List.cons_append, places?]
    split at h
    next hesc =>
      obtain ⟨qs, hqs, rfl⟩ := Option.map_eq_some_iff.1 h
      rw [if_pos hesc, ih hqs, Option.map_map]
      rfl
    next hesc =>
      rw [if_neg hesc]
      split at h
      next hc => rw [if_pos hc, ih h]
      next hc =>
        obtain ⟨qs, hqs, rfl⟩ := Option.map_eq_some_iff.1 h
        rw [if_neg hc, ih hqs, Option.map_map]
        rfl

theorem places?_of_plain (h : Plain v) : places? false v = some (v.map .exactly) := by
  induction v with
  | nil => rfl
  | cons c v ih =>
    obtain ⟨hc, hv⟩ := List.forall_mem_cons.1 h
    rw [places?, if_neg Bool.false_ne_true, if_neg hc.2.2, ih hv]
    obtain ⟨hany, -⟩ | ⟨hone, -⟩ | ⟨-, hof⟩ := Place.of_eq c
    · exact absurd hany hc.1
    · exact absurd hone hc.2.1
    · rw [hof]
      rfl

/-! ## Texts that show what is not plain -/

/-- Characters that a place stands for; those for an underscore are others. -/
def Place.sample : Place → List Char
  | .any => []
  | .one => ['x']
  | .exactly c => [c]

theorem fits_sample (ps : List Place) : fits ps (ps.flatMap Place.sample) = true := by
  induction ps with
  | nil => rfl
  | cons p ps ih =>
    refine fits_cons.2 ⟨p.sample, ps.flatMap Place.sample, List.flatMap_cons, ?_, ih⟩
    cases p with
    | any => trivial
    | one => exact ⟨'x', rfl⟩
    | exactly c => rfl

/-- The pattern that some characters are the rest of. -/
def unread (escaped : Bool) (cs : List Char) : List Char := if escaped then '\\' :: cs else cs

/-- A text that fits a pattern, also one that goes on with a percent sign, is not longer than the
pattern, and it is the pattern itself only if that is plain. -/
theorem plain_of_sample {escaped : Bool} (hw : w = [] ∨ w = ['%']) (h : places? escaped (v ++ w) = some ps) :
    (ps.flatMap Place.sample).length ≤ (unread escaped v).length ∧
      (ps.flatMap Place.sample = unread escaped v → Plain (unread escaped v)) := by
  induction v generalizing escaped ps with
  | nil =>
    obtain rfl | rfl := hw <;> cases escaped
    · obtain rfl := Option.some.inj h
      exact ⟨Nat.le_refl 0, fun _ => List.forall_mem_nil _⟩
    · exact absurd h (by simp [places?])
    · obtain rfl := Option.some.inj h
      exact ⟨Nat.le_refl 0, fun _ => List.forall_mem_nil _⟩
    · obtain rfl := Option.some.inj h
      exact ⟨Nat.le_refl 1, fun h => absurd h (by decide)⟩
  | cons c v ih =>
    rw [List.cons_append, places?] at h
    cases escaped with
    | true =>
      obtain ⟨qs, hqs, rfl⟩ := Option.map_eq_some_iff.1 h
      have hlen : (qs.flatMap Place.sample).length ≤ v.length := (ih hqs).1
      have hshort : ((Place.exactly c :: qs).flatMap Place.sample).length < ('\\' :: c :: v).length :=
        Nat.lt_succ_of_le (Nat.succ_le_succ hlen)
      exact ⟨hshort.le, fun heq => absurd (congrArg List.length heq) hshort.ne⟩
    | false =>
      rw [if_neg Bool.false_ne_true] at h
      split at h
      next hc =>
        subst hc
        exact ih h
      next hc =>
        obtain ⟨qs, hqs, rfl⟩ := Option.map_eq_some_iff.1 h
        have hlen : (qs.flatMap Place.sample).length ≤ v.length := (ih hqs).1
        have hplain : qs.flatMap Place.sample = v → Plain v := (ih hqs).2
        obtain ⟨-, hof⟩ | ⟨rfl, hof⟩ | ⟨hother, hof⟩ := Place.of_eq c
        · rw [hof]
          exact ⟨Nat.le_succ_of_le hlen, fun heq => absurd (congrArg List.length heq) (Nat.lt_succ_of_le hlen).ne⟩
        · exact ⟨Nat.succ_le_succ hlen, fun heq => absurd (List.cons.inj heq).1 (by decide)⟩
        · rw [hof]
          refine ⟨Nat.succ_le_succ hlen, fun heq => ?_⟩
          exact List.forall_mem_cons.2 ⟨⟨hother.1, hother.2, hc⟩, hplain (List.cons.inj heq).2⟩

end

end PathQuery.Pattern
