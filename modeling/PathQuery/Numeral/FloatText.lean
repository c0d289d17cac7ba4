import PathQuery.Numeral.Integer
import PathQuery.Numeral.Shortest

/-!
# The text of a double

A double is written with its shortest digits, positionally while the exponent of the first digit
lies in the style's range and in scientific form outside it. A positional number has a point and at
least one digit on each side of it.
-/

namespace PathQuery.Numeral

structure FloatStyle where
  /-- Least exponent of the first digit that is written positionally. -/
  least : Int
  /-- Greatest exponent of the first digit that is written positionally. -/
  greatest : Int
  /-- What stands before the digits of an exponent that is not negative. -/
  plus : String
  /-- Which of two shortest decimals equally near to a double is written. -/
  tie : Tie
  infinity : String
  nan : String

/-- A positional number: the digits with the point after the digit of exponent zero. -/
def positional (digits : List Char) (exponent : Int) : List Char :=
  let n := digits.length
  if 0 ≤ exponent then digits ++ List.replicate exponent.toNat '0' ++ ['.', '0']
  else
    let point := (n : Int) + exponent
    if 0 < point then digits.take point.toNat ++ '.' :: digits.drop point.toNat
    else ['0', '.'] ++ List.replicate (-point).toNat '0' ++ digits

/-- A number in scientific form: one digit, the others behind a point, and the exponent. -/
def scientific (plus : String) (digits : List Char) (leading : Int) : List Char :=
  let mantissa :=
    match digits with
    | d :: e :: ds => d :: '.' :: e :: ds
    | ds => ds
  mantissa ++ 'e' :: (if 0 ≤ leading then plus.toList else []) ++ (ofInt leading).toList

/-- The digits of a positive number or zero, laid out in a style. -/
def FloatStyle.layOut (style : FloatStyle) (d : Decimal) : String :=
  let digits := (ofNat d.digits).toList
  let leading := d.exponent + digits.length - 1
  String.ofList <|
    if style.least ≤ leading ∧ leading ≤ style.greatest then positional digits d.exponent
    else scientific style.plus digits leading

def FloatStyle.write (style : FloatStyle) (x : Float) : String :=
  let bits := x.toBits
  let sign := if bits >>> 63 = 1 then "-" else ""
  if x.isNaN then style.nan
  else if x.isInf then sign ++ style.infinity
  else sign ++ style.layOut (shortest style.tie (Binary.ofBits bits))

end PathQuery.Numeral
