/-!
# The shortest decimal of a double

A finite double is `m * 2 ^ q`. The reals that round to it form an interval around it, ends included
exactly if `m` is even. `shortest` is the decimal with the fewest digits in that interval, of those
the one nearest to the double, and of two equally near the one that the tie rule names. It tests,
for one digit, two digits and so on, the two neighbours of the double on that decimal grid;
seventeen digits always do.
-/

namespace PathQuery.Numeral

/-- The number `digits * 10 ^ exponent`. -/
structure Decimal where
  digits : Nat
  exponent : Int
  deriving DecidableEq, Repr

/-- Which of two decimals equally near to a double is taken. -/
inductive Tie where
  | toEven
  | up
  deriving DecidableEq, Repr

def Tie.pick : Tie → Nat → Nat
  | .toEven, d => if d % 2 = 0 then d else d + 1
  | .up, d => d + 1

/-- A positive finite double, `m * 2 ^ q`. -/
structure Binary where
  m : Nat
  q : Int
  deriving DecidableEq, Repr

/-- The least `m` of a double that is not too small to have 53 binary digits. -/
def leadingBit : Nat := 1 <<< 52

/-- The binary value of the bits of a finite double, its sign left aside. -/
def Binary.ofBits (bits : UInt64) : Binary :=
  let exponent : Nat := (bits.toNat / leadingBit) % 2048
  let fraction : Nat := bits.toNat % leadingBit
  if exponent = 0 then ⟨fraction, -1074⟩ else ⟨leadingBit + fraction, (exponent : Int) - 1075⟩

namespace Binary

/-- Numerator of a quarter unit `2 ^ (q - 2)` counted in `10 ^ e`. -/
def num (b : Binary) (e : Int) : Nat :=
  Nat.pow 2 (b.q - 2).toNat * Nat.pow 10 (-e).toNat

def den (b : Binary) (e : Int) : Nat := Nat.pow 2 (2 - b.q).toNat * Nat.pow 10 e.toNat

/-- The lower end of the interval, in quarter units: the gap below a power of two is half as
wide. -/
def low (b : Binary) : Nat :=
  if b.m = leadingBit ∧ -1074 < b.q then 4 * b.m - 1 else 4 * b.m - 2

def high (b : Binary) : Nat := 4 * b.m + 2

/-- Whether `d * 10 ^ e` rounds to the double. -/
def rounds (b : Binary) (e : Int) (d : Nat) : Bool :=
  let lower := b.low * b.num e
  let upper := b.high * b.num e
  let point := d * b.den e
  if b.m % 2 = 0 then lower ≤ point && point ≤ upper else lower < point && point < upper

/-- The multiple of `10 ^ e` next to the double that rounds to it, the nearer one if both do. -/
def onGrid? (tie : Tie) (b : Binary) (e : Int) : Option Nat :=
  let value := 4 * b.m * b.num e
  let d := value / b.den e
  let rest := value % b.den e
  match b.rounds e d, b.rounds e (d + 1) with
  | true, true =>
    if 2 * rest < b.den e then some d
    else if b.den e < 2 * rest then some (d + 1)
    else some (tie.pick d)
  | true, false => some d
  | false, true => some (d + 1)
  | false, false => none

/-- Whether the double is at least `10 ^ e`. -/
def atLeast (b : Binary) (e : Int) : Bool := b.den e ≤ 4 * b.m * b.num e

/-- The exponent of the double's first decimal digit. -/
def leading (b : Binary) : Int :=
  let guess := ((b.m.log2 : Int) + b.q) * 30103 / 100000
  if b.atLeast (guess + 1) then guess + 1 else if b.atLeast guess then guess else guess - 1

/-- The first grid of `n` or more digits with a decimal that rounds to the double. -/
def firstGrid (tie : Tie) (b : Binary) : (more n : Nat) → Decimal
  | 0, n =>
    let e := b.leading + 1 - n
    ⟨4 * b.m * b.num e / b.den e, e⟩
  | more + 1, n =>
    let e := b.leading + 1 - n
    match b.onGrid? tie e with
    | some d => ⟨d, e⟩
    | none => firstGrid tie b more (n + 1)

end Binary

/-- A decimal with the zeros at the end of its digits moved into the exponent. -/
def dropZeros : (fuel : Nat) → Decimal → Decimal
  | 0, d => d
  | fuel + 1, d =>
    if d.digits ≠ 0 ∧ d.digits % 10 = 0 then dropZeros fuel ⟨d.digits / 10, d.exponent + 1⟩ else d

/-- The shortest decimal that rounds to the double; zero is `0`. -/
def shortest (tie : Tie) (b : Binary) : Decimal :=
  if b.m = 0 then ⟨0, 0⟩ else dropZeros 20 (b.firstGrid tie 17 1)

end PathQuery.Numeral
