/-!
# Integers in decimal

* `ofNat`, `ofInt` : the decimal text of a number;
* `readInt lo hi` : the number between `lo` and `hi` that a text writes as an optional sign and
  digits. The sign `-` is known only where `lo` is negative, and the first digit that leaves the
  range is the fault, whatever follows it.
-/

namespace PathQuery.Numeral

def ofNat (n : Nat) : String := String.ofList (Nat.toDigits 10 n)

def ofInt : Int → String
  | .ofNat n => ofNat n
  | .negSucc n => "-" ++ ofNat (n + 1)

inductive IntegerError where
  | empty
  | invalidDigit
  | tooLarge
  | tooSmall
  deriving DecidableEq, Repr

def IntegerError.message : IntegerError → String
  | .empty => "cannot parse integer from empty string"
  | .invalidDigit => "invalid digit found in string"
  | .tooLarge => "number too large to fit in target type"
  | .tooSmall => "number too small to fit in target type"

def digitValue? (c : Char) : Option Nat :=
  if c.isDigit then some (c.toNat - '0'.toNat) else none

/-- The value of a hexadecimal digit, in either case. -/
def hexValue? (c : Char) : Option Nat :=
  if c.isDigit then some (c.toNat - '0'.toNat)
  else if 'a' ≤ c ∧ c ≤ 'f' then some (c.toNat - 'a'.toNat + 10)
  else if 'A' ≤ c ∧ c ≤ 'F' then some (c.toNat - 'A'.toNat + 10)
  else none

/-- Appends the digits to `value`; `overflow` is the fault of growing past `bound`. -/
def readDigits (bound : Nat) (overflow : IntegerError) (value : Nat) :
    List Char → Except IntegerError Nat
  | [] => .ok value
  | c :: cs =>
    match digitValue? c with
    | none => .error .invalidDigit
    | some d =>
      if 10 * value + d ≤ bound then readDigits bound overflow (10 * value + d) cs
      else .error overflow

/-- The integer between `lo` and `hi` that the characters write. -/
def readIntChars (lo hi : Int) : List Char → Except IntegerError Int
  | [] => .error .empty
  | ['+'] => .error .invalidDigit
  | ['-'] => .error .invalidDigit
  | '+' :: cs => (readDigits hi.toNat .tooLarge 0 cs).map Int.ofNat
  | c :: cs =>
    if c = '-' ∧ lo < 0 then (readDigits (-lo).toNat .tooSmall 0 cs).map fun n => -(n : Int)
    else (readDigits hi.toNat .tooLarge 0 (c :: cs)).map Int.ofNat

/-- The integer between `lo` and `hi` that a text writes. -/
def readInt (lo hi : Int) (s : String) : Except IntegerError Int := readIntChars lo hi s.toList

def fitsInt64 (n : Int) : Bool := Int64.minValue.toInt ≤ n && n ≤ Int64.maxValue.toInt

def fitsInt32 (n : Int) : Bool := Int32.minValue.toInt ≤ n && n ≤ Int32.maxValue.toInt

def readInt64 (s : String) : Except IntegerError Int :=
  readInt Int64.minValue.toInt Int64.maxValue.toInt s

def readInt32 (s : String) : Except IntegerError Int :=
  readInt Int32.minValue.toInt Int32.maxValue.toInt s

theorem readDigits_le {bound : Nat} {overflow : IntegerError} {value n : Nat} {cs : List Char}
    (hv : value ≤ bound) (h : readDigits bound overflow value cs = .ok n) : n ≤ bound := by
  induction cs generalizing value with
  | nil => simp [readDigits] at h; omega
  | cons c cs ih =>
    simp only [readDigits] at h
    split at h
    · simp at h
    · split at h
      · exact ih ‹_› h
      · simp at h

end PathQuery.Numeral
