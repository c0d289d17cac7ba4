import Mathlib.Logic.Equiv.Basic
import Mathlib.GroupTheory.Perm.Basic
import PathQuery.Alias.Source

/-!
# Fresh tokens

* `AliasSource.Fresh` : whether the tokens of a source between two places are different, and none of
  them is one of some names.

Fresh tokens are drawn as they come (`draw_of_not_mem`). And which they are does not matter: those
of one source are those of another up to a permutation of all names that leaves the given ones alone
(`exists_perm_of_fresh`).
-/

namespace PathQuery.AliasSource

/-- Whether the tokens from place `n` on, before place `m`, are different and none of some names. -/
structure Fresh (s : AliasSource) (names : String → Prop) (n m : Nat) : Prop where
  injective : ∀ i j, n ≤ i → i < m → n ≤ j → j < m → s.token i = s.token j → i = j
  new : ∀ i, n ≤ i → i < m → ¬ names (s.token i)

variable {s s' : AliasSource} {names : String → Prop} {n m : Nat}

theorem Fresh.mono {k : Nat} (h : s.Fresh names n m) (hle : k ≤ m) : s.Fresh names n k where
  injective i j hi him hj hjm :=
    h.injective i j hi (Nat.lt_of_lt_of_le him hle) hj (Nat.lt_of_lt_of_le hjm hle)
  new i hi him := h.new i hi (Nat.lt_of_lt_of_le him hle)

theorem fresh_letters {start : Nat} (h : ∀ i, n ≤ i → i < m → ¬ names (wordToken (start + i))) :
    (letters start).Fresh names n m where
  injective _ _ _ _ _ _ heq := Nat.add_left_cancel (wordToken_inj heq)
  new := h

theorem draw_of_not_mem {used : List String} (h : s.token n ∉ used) : s.draw used n = (s.token n, n + 1) := by
  obtain ⟨i, hi, -⟩ := s.exists_unused used n
  have hnext : s.next used n = n := by
    unfold next
    cases hreach : s.reach used n with
    | zero => exact absurd (hreach ▸ hi) (Nat.not_lt_zero i)
    | succ steps => rw [seek, if_neg h]
  rw [draw, hnext]

/-- Fresh tokens of two sources are the same up to a permutation. -/
theorem exists_perm_of_fresh (h : s.Fresh names n m) (h' : s'.Fresh names n m) :
    ∃ ρ : Equiv.Perm String, (∀ i, n ≤ i → i < m → ρ (s.token i) = s'.token i) ∧
      ∀ name, names name → ρ name = name := by
  induction m with
  | zero => exact ⟨1, fun i _ hi => absurd hi (Nat.not_lt_zero i), fun _ _ => rfl⟩
  | succ m ih =>
    obtain ⟨ρ, htokens, hnames⟩ := ih (h.mono (Nat.le_succ m)) (h'.mono (Nat.le_succ m))
    rcases Nat.lt_or_ge m n with hlt | hle
    · exact ⟨ρ, fun i hi him => absurd (Nat.le_trans hi (Nat.le_of_lt_succ him)) (Nat.not_le_of_lt hlt), hnames⟩
    have hlast : m < m + 1 := Nat.lt_succ_self m
    -- the last token changes places with what the permutation so far makes of it
    refine ⟨Equiv.swap (ρ (s.token m)) (s'.token m) * ρ, fun i hi him => ?_, fun name hname => ?_⟩
    · rcases Nat.lt_succ_iff_lt_or_eq.1 him with hlt | rfl
      · have hne : s.token i ≠ s.token m := fun heq =>
          absurd (h.injective i m hi him hle hlast heq) (Nat.ne_of_lt hlt)
        have hne' : s'.token i ≠ s'.token m := fun heq =>
          absurd (h'.injective i m hi him hle hlast heq) (Nat.ne_of_lt hlt)
        rw [Equiv.Perm.mul_apply, Equiv.swap_apply_of_ne_of_ne (ρ.injective.ne hne) (htokens i hi hlt ▸ hne'),
          htokens i hi hlt]
      · rw [Equiv.Perm.mul_apply, Equiv.swap_apply_left]
    · have hne : name ≠ ρ (s.token m) := by
        intro heq
        have htoken : name = s.token m := ρ.injective ((hnames name hname).trans heq)
        exact h.new m hle hlast (htoken ▸ hname)
      have hne' : name ≠ s'.token m := fun heq => h'.new m hle hlast (heq ▸ hname)
      rw [Equiv.Perm.mul_apply, hnames name hname, Equiv.swap_apply_of_ne_of_ne hne hne']

end PathQuery.AliasSource
