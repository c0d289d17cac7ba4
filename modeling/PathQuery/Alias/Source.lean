/-!
# Sources of aliases

An alias source is an endless row of tokens. Repetitions are allowed, but from every place on there
is always a token that is not among any given names, so drawing until the token is unused comes to
an end.

* `AliasSource.draw` : the next unused token and the place behind it;
* `AliasSource.letters` : tokens of five small letters, all different, counted up from a given one.
-/

namespace PathQuery

/-- An endless row of tokens. -/
structure AliasSource where
  token : Nat → String
  /-- How far ahead of a place to look for a token not among some names. -/
  reach : List String → Nat → Nat
  exists_unused : ∀ used n, ∃ i < reach used n, token (n + i) ∉ used

namespace AliasSource

/-- The first place from `n` on whose token is unused, if it is among the next `steps`. -/
def seek (s : AliasSource) (used : List String) : (steps n : Nat) → Nat
  | 0, n => n
  | steps + 1, n => if s.token n ∈ used then seek s used steps (n + 1) else n

def next (s : AliasSource) (used : List String) (n : Nat) : Nat := s.seek used (s.reach used n) n

/-- The next unused token, and the place behind it. -/
def draw (s : AliasSource) (used : List String) (n : Nat) : String × Nat :=
  (s.token (s.next used n), s.next used n + 1)

theorem le_seek (s : AliasSource) (used : List String) (steps n : Nat) :
    n ≤ s.seek used steps n := by
  induction steps generalizing n with
  | zero => exact Nat.le_refl n
  | succ steps ih =>
    simp only [seek]
    split
    · exact Nat.le_of_succ_le (ih (n + 1))
    · exact Nat.le_refl n

theorem token_seek (s : AliasSource) (used : List String) (steps n i : Nat) (hi : i < steps)
    (h : s.token (n + i) ∉ used) : s.token (s.seek used steps n) ∉ used := by
  induction steps generalizing n i with
  | zero => omega
  | succ steps ih =>
    simp only [seek]
    split
    · cases i with
      | zero => contradiction
      | succ i =>
        refine ih (n + 1) i (by omega) ?_
        rwa [Nat.add_assoc, Nat.add_comm 1 i]
    · assumption

theorem draw_not_mem (s : AliasSource) (used : List String) (n : Nat) :
    (s.draw used n).1 ∉ used := by
  obtain ⟨i, hi, h⟩ := s.exists_unused used n
  exact s.token_seek used _ n i hi h

theorem lt_draw (s : AliasSource) (used : List String) (n : Nat) : n < (s.draw used n).2 :=
  Nat.lt_succ_of_le (s.le_seek used _ n)

/-! ## Tokens of letters -/

def letter (d : Nat) : Char := Char.ofNat ('a'.toNat + d)

/-- The last `width` digits of a number in base 26, as letters. -/
def word : (width n : Nat) → List Char
  | 0, _ => []
  | width + 1, n => word width (n / 26) ++ [letter (n % 26)]

def words (width : Nat) : Nat := Nat.pow 26 width

/-- Five letters; the numbers beyond them have as many letters more. -/
def wordToken (n : Nat) : String :=
  String.ofList (word 5 n ++ List.replicate (n / words 5) 'a')

theorem length_word (width n : Nat) : (word width n).length = width := by
  induction width generalizing n with
  | zero => rfl
  | succ width ih => simp [word, ih]

theorem letter_inj {a b : Nat} (ha : a < 26) (hb : b < 26) (h : letter a = letter b) : a = b := by
  have key : ∀ a : Fin 26, ∀ b : Fin 26, letter a = letter b → a = b := by decide
  exact congrArg Fin.val (key ⟨a, ha⟩ ⟨b, hb⟩ h)

theorem word_inj {width a b : Nat} (h : word width a = word width b) :
    a % words width = b % words width := by
  induction width generalizing a b with
  | zero => simp [words, Nat.mod_one]
  | succ width ih =>
    simp only [word] at h
    obtain ⟨hw, hl⟩ := List.append_inj' h rfl
    have hd := letter_inj (Nat.mod_lt a (by decide)) (Nat.mod_lt b (by decide)) (List.singleton_inj.1 hl)
    have hq := ih hw
    have hp : words (width + 1) = words width * 26 := rfl
    rw [hp, Nat.mul_comm, Nat.mod_mul, Nat.mod_mul, hd, hq]

theorem wordToken_inj {a b : Nat} (h : wordToken a = wordToken b) : a = b := by
  have hl := String.ofList_injective h
  have hn := congrArg List.length hl
  simp only [List.length_append, length_word, List.length_replicate] at hn
  have hw := (List.append_inj hl (by rw [length_word, length_word])).1
  have hm := word_inj hw
  have ha := Nat.div_add_mod a (words 5)
  have hb := Nat.div_add_mod b (words 5)
  have hq : a / words 5 = b / words 5 := by omega
  rw [← ha, ← hb, hq, hm]

/-- Among one more token than there are names, one is none of the names. -/
theorem exists_wordToken_not_mem (start : Nat) (used : List String) (n : Nat) :
    ∃ i < used.length + 1, wordToken (start + (n + i)) ∉ used := by
  refine Classical.byContradiction fun hc => ?_
  have hall : ∀ i < used.length + 1, wordToken (start + (n + i)) ∈ used := fun i hi =>
    Classical.byContradiction fun hn => hc ⟨i, hi, hn⟩
  let tokens := (List.range (used.length + 1)).map fun i => wordToken (start + (n + i))
  have hnodup : tokens.Nodup := by
    refine List.pairwise_map.2 (List.Pairwise.imp ?_ List.nodup_range)
    intro i j hij h
    have := wordToken_inj h
    omega
  have hsub : tokens ⊆ used := by
    intro t ht
    obtain ⟨i, hi, rfl⟩ := List.mem_map.1 ht
    exact hall i (List.mem_range.1 hi)
  have hle := List.Nodup.length_le_of_subset hnodup hsub
  simp only [tokens, List.length_map, List.length_range] at hle
  omega

/-- Tokens of letters, the first one being that of `start`. -/
def letters (start : Nat) : AliasSource where
  token n := wordToken (start + n)
  reach used _ := used.length + 1
  exists_unused := exists_wordToken_not_mem start

end AliasSource

end PathQuery
