/-!
# Sets of characters

A set of code points as a list of closed ranges, in increasing order. The tables of character
properties are written this way; `Ranges.contains` asks for one character.
-/

namespace PathQuery.Text

/-- A set of code points: the first and the last of each run. -/
abbrev Ranges := List (Nat × Nat)

/-- Whether `c` lies in one of the runs. -/
def Ranges.contains (rs : Ranges) (c : Char) : Bool :=
  rs.any fun r => r.1 ≤ c.toNat && c.toNat ≤ r.2

theorem Ranges.contains_iff (rs : Ranges) (c : Char) :
    rs.contains c = true ↔ ∃ r ∈ rs, r.1 ≤ c.toNat ∧ c.toNat ≤ r.2 := by
  simp [Ranges.contains]

end PathQuery.Text
