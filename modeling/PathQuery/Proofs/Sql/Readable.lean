import PathQuery.Proofs.Sql.Parse

/-!
# Readable statements

What a parser can tell from its text: nothing is written as it stands, and functions are words of
letters that the language does not use itself.

* `isFunction` : the words that functions are called by, which makes `isPlain isFunction` the test
  of being readable;
* `Column.exists_start` : what readable columns begin with.
-/

namespace PathQuery.Sql

open Parse (startsColumn)

/-- Whether a name is a word of letters that a function may have. -/
def isFunction (s : String) : Bool := s != "" && isLetters s && !reservedWords.contains s

theorem isLetters_of_isFunction (s : String) (h : isFunction s = true) : isLetters s = true := by
  rw [isFunction, Bool.and_eq_true, Bool.and_eq_true] at h
  exact h.1.2

theorem Column.exists_start (c : Column) (h : c.isPlain isFunction = true) :
    ∃ s ss, c.symbols = s :: ss ∧ startsColumn s = true := by
  cases c with
  | field table name => exact ⟨_, _, rfl, rfl⟩
  | param p => exact ⟨_, _, rfl, rfl⟩
  | list items => exact ⟨_, _, rfl, rfl⟩
  | query s => exact ⟨_, _, rfl, rfl⟩
  | null => exact ⟨_, _, rfl, rfl⟩
  | call function argument =>
    rw [Column.isPlain, isFunction, Bool.and_eq_true, Bool.and_eq_true, Bool.and_eq_true] at h
    obtain ⟨⟨⟨hne, -⟩, hfree⟩, -⟩ := h
    refine ⟨.word function, .mark "(" :: argument.symbols ++ [.mark ")"], ?_, ?_⟩
    · rw [Column.symbols, Symbol.call, if_neg (bne_iff_ne.1 hne)]
      rfl
    · rw [startsColumn, hfree, Bool.or_true]

end PathQuery.Sql
