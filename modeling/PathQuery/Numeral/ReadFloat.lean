import PathQuery.Numeral.Integer

/-!
# Reading doubles

`readFloat?` reads an optional sign before `inf`, `infinity` or `nan` in any case, or before digits
with at most one point among them, and an optional exponent. The value is the double nearest to the
number written, so a number too large becomes infinite and one too small becomes zero.
-/

namespace PathQuery.Numeral

/-- The double nearest to `digits * 10 ^ exponent`. -/
def nearest (digits : Nat) (exponent : Int) : Float :=
  let leading := exponent + (Nat.toDigits 10 digits).length
  if digits = 0 then 0.0
  else if 310 < leading then 1.0 / 0.0
  else if leading < -330 then 0.0
  else if 0 ≤ exponent then Float.ofScientific digits false exponent.toNat
  else Float.ofScientific digits true (-exponent).toNat

def digitsValue (cs : List Char) : Nat :=
  cs.foldl (fun n c => 10 * n + (c.toNat - '0'.toNat)) 0

/-- An optional sign, as whether it is `-`, and what follows it. -/
def takeSign : List Char → Bool × List Char
  | '-' :: cs => (true, cs)
  | '+' :: cs => (false, cs)
  | cs => (false, cs)

/-- The exponent that ends a numeral: none, or `e`, an optional sign and digits. -/
def readExponent? : List Char → Option Int
  | [] => some 0
  | c :: cs =>
    if c = 'e' ∨ c = 'E' then
      let (negative, ds) := takeSign cs
      if ds ≠ [] ∧ ds.all Char.isDigit then
        some (if negative then -(digitsValue ds : Int) else digitsValue ds)
      else none
    else none

/-- The number that digits, a point and an exponent write. -/
def readPositional? (cs : List Char) : Option Float :=
  let whole := cs.takeWhile Char.isDigit
  let (fraction, rest) :=
    match cs.dropWhile Char.isDigit with
    | '.' :: r => (r.takeWhile Char.isDigit, r.dropWhile Char.isDigit)
    | r => ([], r)
  if whole = [] ∧ fraction = [] then none
  else
    (readExponent? rest).map fun e => nearest (digitsValue (whole ++ fraction)) (e - fraction.length)

/-- The double nearest to the number that a text writes. -/
def readFloat? (s : String) : Option Float :=
  let (negative, cs) := takeSign s.toList
  let word := cs.map Char.toLower
  let magnitude :=
    if word = ['i', 'n', 'f'] ∨ word = "infinity".toList then some (1.0 / 0.0)
    else if word = ['n', 'a', 'n'] then some (0.0 / 0.0)
    else readPositional? cs
  magnitude.map fun x => if negative then -x else x

end PathQuery.Numeral
