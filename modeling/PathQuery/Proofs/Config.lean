import PathQuery.Config
import PathQuery.Proofs.Outcome

/-!
# Configurations that are read

A number that is read lies in the range it is read for (`Numeral.range_of_readInt`), so 64 bits hold
the cap that an environment sets, and it lets at least one row through (`Config.one_le_maxLimit`).
-/

namespace PathQuery

namespace Numeral

variable {lo hi n : Int}

theorem range_of_readIntChars (hlo : lo ≤ 0) (hhi : 0 ≤ hi) {cs : List Char} (h : readIntChars lo hi cs = .ok n) :
    lo ≤ n ∧ n ≤ hi := by
  -- what digits write is a natural number up to the bound of their sign
  have hdigits {bound k : Nat} {fault : IntegerError} {ds : List Char} (h : readDigits bound fault 0 ds = .ok k) :
      k ≤ bound := readDigits_le (Nat.zero_le bound) h
  have hpositive {ds : List Char} (h : (readDigits hi.toNat .tooLarge 0 ds).map Int.ofNat = .ok n) :
      lo ≤ n ∧ n ≤ hi := by
    obtain ⟨k, hk, rfl⟩ := exists_of_map_eq_ok h
    have hbound := hdigits hk
    rw [Int.ofNat_eq_natCast]
    omega
  unfold readIntChars at h
  split at h
  · exact absurd h (by simp)
  · exact absurd h (by simp)
  · exact absurd h (by simp)
  · exact hpositive h
  · split at h
    · obtain ⟨k, hk, rfl⟩ := exists_of_map_eq_ok h
      obtain ⟨j, hj, hk⟩ := exists_of_bind_eq_ok hk
      obtain rfl := Except.ok.inj hk
      have hbound := hdigits hj
      omega
    · exact hpositive h

theorem range_of_readInt (hlo : lo ≤ 0) (hhi : 0 ≤ hi) {s : String} (h : readInt lo hi s = .ok n) :
    lo ≤ n ∧ n ≤ hi :=
  range_of_readIntChars hlo hhi h

end Numeral

theorem Environment.exists_of_parsed {α : Type} {e : Environment} {read : String → Except String α} {key : String}
    {a : α} (h : e.parsed read key = .ok (some a)) : ∃ s, read s = .ok a := by
  unfold parsed at h
  split at h
  · exact absurd h (by simp)
  next value _ =>
    split at h
    · exact absurd h (by simp)
    · split at h
      next b hb =>
        obtain rfl := Option.some.inj (Except.ok.inj h)
        exact ⟨Text.trim value, hb⟩
      next => exact absurd h (by simp)

namespace Config

variable {config : Config} {e : Environment}

/-- A cap that is a number of 64 bits lets at least one row through. -/
theorem one_le_of_cap {limit : Option Int} {m : Int64} (hrange : ∀ n ∈ limit, n ≤ Int64.maxValue.toInt)
    (h : cap limit = .ok (some m)) : 1 ≤ m := by
  unfold cap at h
  split at h
  · exact absurd h (by simp)
  next n =>
    have hn : n ≤ Int64.maxValue.toInt := hrange n rfl
    rw [Int64.toInt_maxValue] at hn
    split at h
    · exact absurd h (by simp)
    · split at h
      next hpos =>
        obtain rfl := Option.some.inj (Except.ok.inj h)
        rw [Int64.le_iff_toInt_le, Int64.toInt_one, Int64.toInt_ofInt_of_le (by omega) (by omega)]
        exact hpos
      next => exact absurd h (by simp)

theorem one_le_maxLimit (h : ofEnvironment e = .ok config) : ∀ m ∈ config.maxLimit, 1 ≤ m := by
  unfold ofEnvironment at h
  obtain ⟨limit, hlimit, h⟩ := exists_of_bind_eq_ok h
  obtain ⟨maxLimit, hmax, h⟩ := exists_of_bind_eq_ok h
  obtain ⟨depth, -, h⟩ := exists_of_bind_eq_ok h
  obtain ⟨strict, -, h⟩ := exists_of_bind_eq_ok h
  obtain rfl := Except.ok.inj h
  rintro m rfl
  refine one_le_of_cap (fun n hn => ?_) hmax
  obtain rfl := Option.mem_def.1 hn
  obtain ⟨s, hs⟩ := Environment.exists_of_parsed hlimit
  exact (Numeral.range_of_readInt (by decide) (by decide) (eq_ok_of_mapError hs)).2

end Config

end PathQuery
