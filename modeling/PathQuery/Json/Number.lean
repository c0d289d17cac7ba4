import PathQuery.Json.Basic
import PathQuery.Numeral.FloatText
import PathQuery.Numeral.ReadFloat

/-!
# JSON numbers in text

* `Number.toText` : integers in decimal; doubles positionally from `1e-5` up to `1e16`;
* `Number.ofSpelling?` : the number a spelling stands for. Without point and exponent it is an
  integer if 64 bits hold it, signed or unsigned; `-0` is the double. Everything else is a double
  read in two roundings: the leading digits that 64 bits hold are rounded to a double, and the
  result is multiplied or divided by a power of ten. Digits left out count only towards the power.
-/

namespace PathQuery.Json

/-- Doubles in JSON text. -/
def floatStyle : Numeral.FloatStyle where
  least := -5
  greatest := 15
  plus := "+"
  tie := .toEven
  infinity := "inf"
  nan := "NaN"

def Number.toText : Number → String
  | .int n => Numeral.ofInt n
  | .float x => floatStyle.write x

def Number.toInt64? : Number → Option Int
  | .int n => if Numeral.fitsInt64 n then some n else none
  | .float _ => none

/-- The double nearest to an integer. -/
def floatOfInt (n : Int) : Float :=
  if n < 0 then -Float.ofNat n.natAbs else Float.ofNat n.natAbs

def Number.toFloat : Number → Float
  | .int n => floatOfInt n
  | .float x => x

/-- The digits that 64 bits hold behind `value`, and the digits left. -/
def absorb (value : Nat) : List Char → Nat × List Char
  | [] => (value, [])
  | c :: cs =>
    let next := 10 * value + (c.toNat - '0'.toNat)
    if next < UInt64.size then absorb next cs else (value, c :: cs)

def powerOfTen (e : Nat) : Float := Float.ofScientific 1 false e

/-- `x` divided by `10 ^ k` in steps of at most 308 powers. -/
def scaleDown : (steps : Nat) → (x : Float) → (k : Nat) → Float
  | 0, x, _ => x
  | steps + 1, x, k =>
    if k ≤ 308 then x / powerOfTen k
    else scaleDown steps (x / powerOfTen 308) (k - 308)

/-- `value * 10 ^ exponent` as a double, none if it is too large for one. -/
def scale? (value : Nat) (exponent : Int) : Option Float :=
  let x := Float.ofNat value
  if value = 0 then some 0.0
  else if 308 < exponent then none
  else if 0 ≤ exponent then
    let y := x * powerOfTen exponent.toNat
    if y.isInf then none else some y
  else if exponent < -1000 then some 0.0
  else some (scaleDown 4 x (-exponent).toNat)

/-- A number as written: its sign, the digits before and after the point, the exponent. -/
structure Spelling where
  negative : Bool
  whole : List Char
  fraction : Option (List Char)
  exponent : Option Int

def Spelling.toFloat? (n : Spelling) : Option Float :=
  let fraction := n.fraction.getD []
  let (w, left) := absorb 0 n.whole
  let (value, skipped) := absorb w fraction
  let used := fraction.length - skipped.length
  (scale? value (n.exponent.getD 0 + left.length - used)).map fun x => if n.negative then -x else x

def Number.ofSpelling? (n : Spelling) : Option Number :=
  let (w, left) := absorb 0 n.whole
  match n.fraction, n.exponent, left with
  | none, none, [] =>
    if n.negative then
      if w = 0 ∨ !Numeral.fitsInt64 (-w) then some (.float (-Float.ofNat w)) else some (.int (-w))
    else some (.int w)
  | _, _, _ => n.toFloat?.map .float

end PathQuery.Json
