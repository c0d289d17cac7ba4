import Mathlib.Algebra.Group.Int.Defs
import PathQuery.Numeral.ReadFloat
import PathQuery.Proofs.Outcome
import PathQuery.Text.Blank

/-!
# How numbers are spelled

* `Text.Solid` : texts without white space;
* `Numeral.Spells` : the integer that digits behind an optional sign write.

A text is read as an integer of a range exactly if it spells one in that range
(`readInt_eq_ok_iff`), so readers of different ranges agree where both read. What an integer is
written as spells it (`spells_ofInt`). No white space stands in a text that is read as a number
(`Spells.solid`, `solid_of_readFloat?`), so nothing is trimmed off it.
-/

namespace PathQuery

/-! ## Texts without white space -/

namespace Text

def Solid (cs : List Char) : Prop := ∀ c ∈ cs, isBlank c = false

instance : DecidablePred Solid := fun cs => List.decidableBAll (fun c => isBlank c = false) cs

theorem isBlank_of_isDigit {c : Char} (h : c.isDigit = true) : isBlank c = false := by
  rw [Char.isDigit, Bool.and_eq_true, decide_eq_true_iff, decide_eq_true_iff] at h
  have hlow : 48 ≤ c.toNat := UInt32.le_iff_toNat_le.1 h.1
  have hhigh : c.toNat ≤ 57 := UInt32.le_iff_toNat_le.1 h.2
  rw [isBlank, ← Bool.not_eq_true, Ranges.contains_iff]
  simp only [blankRanges, List.mem_cons, List.not_mem_nil, or_false, exists_eq_or_imp, exists_eq_left]
  omega

theorem toLower_of_isBlank {c : Char} (h : isBlank c = true) : c.toLower = c := by
  rw [isBlank, Ranges.contains_iff] at h
  simp only [blankRanges, List.mem_cons, List.not_mem_nil, or_false, exists_eq_or_imp, exists_eq_left] at h
  have hupper : ¬ (c.val ≥ 'A'.val ∧ c.val ≤ 'Z'.val) := by
    simp only [ge_iff_le, UInt32.le_iff_toNat_le]
    have hval : c.toNat = c.val.toNat := rfl
    have hbounds : 'A'.val.toNat = 65 ∧ 'Z'.val.toNat = 90 := ⟨rfl, rfl⟩
    omega
  exact dif_neg hupper

theorem solid_digits {ds : List Char} (h : ∀ c ∈ ds, c.isDigit = true) : Solid ds :=
  fun c hc => isBlank_of_isDigit (h c hc)

theorem Solid.append {cs ds : List Char} (hc : Solid cs) (hd : Solid ds) : Solid (cs ++ ds) :=
  List.forall_mem_append.2 ⟨hc, hd⟩

theorem Solid.cons {c : Char} {cs : List Char} (hc : isBlank c = false) (hcs : Solid cs) : Solid (c :: cs) :=
  List.forall_mem_cons.2 ⟨hc, hcs⟩

/-- A word in any case has no white space if the word in lower case has none. -/
theorem Solid.of_map_toLower {cs : List Char} (h : Solid (cs.map Char.toLower)) : Solid cs := by
  intro c hc
  have hlower : isBlank c.toLower = false := h c.toLower (List.mem_map_of_mem hc)
  cases hblank : isBlank c with
  | false => rfl
  | true => rw [toLower_of_isBlank hblank, hblank] at hlower; exact hlower

theorem Solid.dropWhile {cs : List Char} (h : Solid cs) : cs.dropWhile isBlank = cs := by
  cases cs with
  | nil => rfl
  | cons c cs => rw [List.dropWhile_cons_of_neg (by simp [h c List.mem_cons_self])]

theorem Solid.trim {s : String} (h : Solid s.toList) : trim s = s := by
  have hreverse : Solid s.toList.reverse := fun c hc => h c (List.mem_reverse.1 hc)
  rw [Text.trim, trimChars, h.dropWhile, hreverse.dropWhile, List.reverse_reverse, String.ofList_toList]

end Text

namespace Numeral

/-- The integer that digits behind an optional sign write. -/
inductive Spells : List Char → Int → Prop where
  | digits {ds} (hne : ds ≠ []) (hds : ∀ c ∈ ds, c.isDigit = true) : Spells ds (digitsValue ds)
  | plus {ds} (hne : ds ≠ []) (hds : ∀ c ∈ ds, c.isDigit = true) : Spells ('+' :: ds) (digitsValue ds)
  | minus {ds} (hne : ds ≠ []) (hds : ∀ c ∈ ds, c.isDigit = true) : Spells ('-' :: ds) (-digitsValue ds)

/-! ## Reading -/

section

variable {bound value n : Nat} {overflow : IntegerError} {cs : List Char}

theorem digitValue?_of_isDigit {c : Char} (h : c.isDigit = true) : digitValue? c = some (c.toNat - '0'.toNat) :=
  if_pos h

theorem digitValue?_eq_none {c : Char} (h : ¬ c.isDigit = true) : digitValue? c = none := if_neg h

theorem le_ofDigitChars (cs : List Char) (value : Nat) : value ≤ Nat.ofDigitChars 10 cs value := by
  induction cs generalizing value with
  | nil => exact Nat.le_refl value
  | cons c cs ih =>
    rw [Nat.ofDigitChars_cons]
    have hrest := ih (10 * value + (c.toNat - '0'.toNat))
    omega

/-- Digits are read if what they write is within the bound, which it then is from the first digit
on. -/
theorem readDigits_eq_ok_iff (hv : value ≤ bound) : readDigits bound overflow value cs = .ok n ↔
    (∀ c ∈ cs, c.isDigit = true) ∧ n = Nat.ofDigitChars 10 cs value ∧ n ≤ bound := by
  induction cs generalizing value with
  | nil =>
    rw [readDigits, Nat.ofDigitChars_nil]
    constructor
    · intro h
      obtain rfl := Except.ok.inj h
      exact ⟨List.forall_mem_nil _, rfl, hv⟩
    · rintro ⟨-, rfl, -⟩
      rfl
  | cons c cs ih =>
    rw [readDigits, Nat.ofDigitChars_cons, List.forall_mem_cons]
    by_cases hc : c.isDigit = true
    · rw [digitValue?_of_isDigit hc]
      dsimp only
      by_cases hnext : 10 * value + (c.toNat - '0'.toNat) ≤ bound
      · rw [if_pos hnext, ih hnext]
        simp only [hc, true_and]
      · rw [if_neg hnext]
        have hle := le_ofDigitChars cs (10 * value + (c.toNat - '0'.toNat))
        constructor
        · exact fun h => absurd h (by simp)
        · rintro ⟨-, rfl, hn⟩
          exact absurd (Nat.le_trans hle hn) hnext
    · rw [digitValue?_eq_none hc]
      constructor
      · exact fun h => absurd h (by simp)
      · exact fun h => absurd h.1.1 hc

end

section

variable {lo hi n : Int} {ds cs : List Char}

theorem map_readDigits_eq_ok_iff {bound : Nat} {overflow : IntegerError} {f : Nat → Int} :
    (readDigits bound overflow 0 ds).map f = .ok n ↔
      (∀ c ∈ ds, c.isDigit = true) ∧ digitsValue ds ≤ bound ∧ n = f (digitsValue ds) := by
  constructor
  · intro h
    obtain ⟨k, hk, rfl⟩ := exists_of_map_eq_ok h
    obtain ⟨hds, rfl, hle⟩ := (readDigits_eq_ok_iff (Nat.zero_le bound)).1 hk
    exact ⟨hds, hle, rfl⟩
  · rintro ⟨hds, hle, rfl⟩
    rw [(readDigits_eq_ok_iff (Nat.zero_le bound)).2 ⟨hds, rfl, hle⟩]
    rfl

theorem not_isDigit_plus : ¬ '+'.isDigit = true := by decide

theorem not_isDigit_minus : ¬ '-'.isDigit = true := by decide

/-- A text that spells an integer begins with a sign or with one of its digits. -/
theorem Spells.cons_inv {c : Char} (h : Spells (c :: cs) n) :
    c.isDigit = true ∧ (∀ d ∈ cs, d.isDigit = true) ∧ n = digitsValue (c :: cs) ∨
      c = '+' ∧ cs ≠ [] ∧ (∀ d ∈ cs, d.isDigit = true) ∧ n = digitsValue cs ∨
      c = '-' ∧ cs ≠ [] ∧ (∀ d ∈ cs, d.isDigit = true) ∧ n = -digitsValue cs := by
  cases h with
  | digits _ hds =>
    rw [List.forall_mem_cons] at hds
    exact .inl ⟨hds.1, hds.2, rfl⟩
  | plus hne hds => exact .inr (.inl ⟨rfl, hne, hds, rfl⟩)
  | minus hne hds => exact .inr (.inr ⟨rfl, hne, hds, rfl⟩)

theorem readIntChars_eq_ok_iff (hlo : lo < 0) (hhi : 0 ≤ hi) :
    readIntChars lo hi cs = .ok n ↔ Spells cs n ∧ lo ≤ n ∧ n ≤ hi := by
  unfold readIntChars
  split
  next =>
    constructor
    · exact fun h => absurd h (by simp)
    · rintro ⟨h, -⟩
      cases h with
      | digits hne => exact absurd rfl hne
  next =>
    constructor
    · exact fun h => absurd h (by simp)
    · rintro ⟨h, -⟩
      obtain ⟨h, -⟩ | ⟨-, h, -⟩ | ⟨h, -⟩ := h.cons_inv
      · exact absurd h not_isDigit_plus
      · exact absurd rfl h
      · exact absurd h (by decide)
  next =>
    constructor
    · exact fun h => absurd h (by simp)
    · rintro ⟨h, -⟩
      obtain ⟨h, -⟩ | ⟨h, -⟩ | ⟨-, h, -⟩ := h.cons_inv
      · exact absurd h not_isDigit_minus
      · exact absurd h (by decide)
      · exact absurd rfl h
  next ds hne =>
    rw [map_readDigits_eq_ok_iff]
    have hne : ds ≠ [] := fun h => hne h
    constructor
    · rintro ⟨hds, hle, rfl⟩
      refine ⟨.plus hne hds, ?_⟩
      rw [Int.ofNat_eq_natCast]
      omega
    · rintro ⟨h, -, hn⟩
      obtain ⟨h, -⟩ | ⟨-, -, hds, rfl⟩ | ⟨h, -⟩ := h.cons_inv
      · exact absurd h not_isDigit_plus
      · exact ⟨hds, by omega, rfl⟩
      · exact absurd h (by decide)
  next c ds _ hminus hplus =>
    split
    next hc =>
      obtain ⟨rfl, -⟩ := hc
      have hne : ds ≠ [] := hminus rfl
      have hmap (x : Except IntegerError Nat) : (x >>= fun k => pure (k : Int)).map (fun k => -k) =
          Except.map (fun k : Nat => -(k : Int)) x := by
        cases x <;> rfl
      rw [hmap, map_readDigits_eq_ok_iff]
      constructor
      · rintro ⟨hds, hle, rfl⟩
        exact ⟨.minus hne hds, by omega⟩
      · rintro ⟨h, hn, -⟩
        obtain ⟨h, -⟩ | ⟨h, -⟩ | ⟨-, -, hds, rfl⟩ := h.cons_inv
        · exact absurd h not_isDigit_minus
        · exact absurd h (by decide)
        · exact ⟨hds, by omega, rfl⟩
    next hc =>
      have hminus : c ≠ '-' := fun h => hc ⟨h, hlo⟩
      have hplus : c ≠ '+' := hplus
      rw [map_readDigits_eq_ok_iff]
      constructor
      · rintro ⟨hds, hle, rfl⟩
        refine ⟨.digits (List.cons_ne_nil c ds) hds, ?_⟩
        rw [Int.ofNat_eq_natCast]
        omega
      · rintro ⟨h, -, hn⟩
        obtain ⟨hc, hds, rfl⟩ | ⟨h, -⟩ | ⟨h, -⟩ := h.cons_inv
        · exact ⟨List.forall_mem_cons.2 ⟨hc, hds⟩, by omega, rfl⟩
        · exact absurd h hplus
        · exact absurd h hminus

/-- A text is read as an integer of a range exactly if it spells that integer and the range
has it. -/
theorem readInt_eq_ok_iff (hlo : lo < 0) (hhi : 0 ≤ hi) {s : String} :
    readInt lo hi s = .ok n ↔ Spells s.toList n ∧ lo ≤ n ∧ n ≤ hi :=
  readIntChars_eq_ok_iff hlo hhi

theorem readInt64_eq_ok_iff {s : String} : readInt64 s = .ok n ↔ Spells s.toList n ∧ fitsInt64 n = true := by
  rw [readInt64, readInt_eq_ok_iff (by decide) (by decide), fitsInt64, Bool.and_eq_true, decide_eq_true_iff,
    decide_eq_true_iff]

theorem readInt32_eq_ok_iff {s : String} : readInt32 s = .ok n ↔ Spells s.toList n ∧ fitsInt32 n = true := by
  rw [readInt32, readInt_eq_ok_iff (by decide) (by decide), fitsInt32, Bool.and_eq_true, decide_eq_true_iff,
    decide_eq_true_iff]

end

/-! ## Machine integers -/

theorem fitsInt64_iff {n : Int} : fitsInt64 n = true ↔ -2 ^ 63 ≤ n ∧ n ≤ 2 ^ 63 - 1 := by
  rw [fitsInt64, Bool.and_eq_true, decide_eq_true_iff, decide_eq_true_iff, Int64.toInt_minValue, Int64.toInt_maxValue]

theorem fitsInt32_iff {n : Int} : fitsInt32 n = true ↔ -2 ^ 31 ≤ n ∧ n ≤ 2 ^ 31 - 1 := by
  rw [fitsInt32, Bool.and_eq_true, decide_eq_true_iff, decide_eq_true_iff, Int32.toInt_minValue, Int32.toInt_maxValue]

theorem fitsInt64_of_fitsInt32 {n : Int} (h : fitsInt32 n = true) : fitsInt64 n = true := by
  rw [fitsInt32_iff] at h
  rw [fitsInt64_iff]
  omega

theorem toInt_ofInt_of_fitsInt32 {n : Int} (h : fitsInt32 n = true) : (Int32.ofInt n).toInt = n := by
  rw [fitsInt32_iff] at h
  exact Int32.toInt_ofInt_of_le h.1 (by omega)

theorem toInt_ofInt_of_fitsInt64 {n : Int} (h : fitsInt64 n = true) : (Int64.ofInt n).toInt = n := by
  rw [fitsInt64_iff] at h
  exact Int64.toInt_ofInt_of_le h.1 (by omega)

theorem fitsInt32_toInt (n : Int32) : fitsInt32 n.toInt = true :=
  fitsInt32_iff.2 ⟨n.le_toInt, Int.le_sub_one_of_lt n.toInt_lt⟩

theorem fitsInt64_toInt (n : Int64) : fitsInt64 n.toInt = true :=
  fitsInt64_iff.2 ⟨n.le_toInt, Int.le_sub_one_of_lt n.toInt_lt⟩

/-! ## Writing -/

theorem digitsValue_toDigits (n : Nat) : digitsValue (Nat.toDigits 10 n) = n := Nat.ofDigitChars_ten_toDigits

theorem isDigit_of_mem_toDigits {n : Nat} : ∀ c ∈ Nat.toDigits 10 n, c.isDigit = true :=
  fun _ hc => Nat.isDigit_of_mem_toDigits (by decide) (by decide) hc

theorem spells_ofInt (n : Int) : Spells (ofInt n).toList n := by
  cases n with
  | ofNat k =>
    have h : Spells (Nat.toDigits 10 k) _ := .digits Nat.toDigits_ne_nil isDigit_of_mem_toDigits
    rw [digitsValue_toDigits] at h
    rw [ofInt, ofNat, String.toList_ofList]
    exact h
  | negSucc k =>
    have h : Spells ('-' :: Nat.toDigits 10 (k + 1)) _ := .minus Nat.toDigits_ne_nil isDigit_of_mem_toDigits
    rw [digitsValue_toDigits] at h
    have htext : (ofInt (.negSucc k)).toList = '-' :: Nat.toDigits 10 (k + 1) := by
      rw [ofInt, ofNat, String.toList_append]
      exact congrArg ('-' :: ·) String.toList_ofList
    rw [htext]
    exact h

/-! ## White space -/

open Text (Solid)

theorem Spells.solid {cs : List Char} {n : Int} (h : Spells cs n) : Solid cs := by
  cases h with
  | digits _ hds => exact Text.solid_digits hds
  | plus _ hds => exact .cons (by decide) (Text.solid_digits hds)
  | minus _ hds => exact .cons (by decide) (Text.solid_digits hds)

theorem solid_of_takeSign {cs : List Char} (h : Solid (takeSign cs).2) : Solid cs := by
  unfold takeSign at h
  split at h
  · exact .cons (by decide) h
  · exact .cons (by decide) h
  · exact h

theorem solid_of_readExponent? {cs : List Char} {e : Int} (h : readExponent? cs = some e) : Solid cs := by
  unfold readExponent? at h
  split at h
  · exact List.forall_mem_nil _
  next c cs =>
    split at h
    next hc =>
      dsimp only at h
      split at h
      next hds =>
        refine .cons ?_ (solid_of_takeSign (Text.solid_digits (List.all_eq_true.1 hds.2)))
        rcases hc with rfl | rfl <;> decide
      next => exact absurd h (by simp)
    next => exact absurd h (by simp)

theorem solid_takeWhile_isDigit (cs : List Char) : Solid (cs.takeWhile Char.isDigit) :=
  Text.solid_digits (List.all_eq_true.1 List.all_takeWhile)

theorem solid_of_readPositional? {cs : List Char} {x : Float} (h : readPositional? cs = some x) : Solid cs := by
  unfold readPositional? at h
  dsimp only at h
  rw [← List.takeWhile_append_dropWhile (p := Char.isDigit) (l := cs)]
  refine (solid_takeWhile_isDigit cs).append ?_
  split at h
  next r hr =>
    split at h
    · exact absurd h (by simp)
    · obtain ⟨e, he, -⟩ := Option.map_eq_some_iff.1 h
      rw [hr, ← List.takeWhile_append_dropWhile (p := Char.isDigit) (l := r)]
      exact .cons (by decide) ((solid_takeWhile_isDigit r).append (solid_of_readExponent? he))
  next =>
    split at h
    · exact absurd h (by simp)
    · obtain ⟨e, he, -⟩ := Option.map_eq_some_iff.1 h
      exact solid_of_readExponent? he

theorem solid_of_readFloat? {s : String} {x : Float} (h : readFloat? s = some x) : Solid s.toList := by
  unfold readFloat? at h
  refine solid_of_takeSign ?_
  generalize takeSign s.toList = signed at h
  obtain ⟨negative, cs⟩ := signed
  obtain ⟨y, hy, -⟩ := Option.map_eq_some_iff.1 h
  dsimp only at hy ⊢
  split at hy
  next hword =>
    refine .of_map_toLower ?_
    rcases hword with hword | hword <;> rw [hword] <;> decide
  next =>
    split at hy
    next hword =>
      refine .of_map_toLower ?_
      rw [hword]
      decide
    next => exact solid_of_readPositional? hy

end Numeral

end PathQuery
