import PathQuery.Calendar.Basic
import PathQuery.Numeral.ReadFloat
import PathQuery.Text.Blank

/-!
# Reading dates and times

* `readOffsetDateTime?` : the Internet format, `2024-03-01T10:30:00.5+01:00`, with every number at
  its full width;
* `readDateTime?`, `readDate?`, `readTimeOfDay?` : the same without offset, where white space may
  stand before each number, numbers may be shorter, and a year with a sign may be longer.

A fraction of a second needs one digit; those after the ninth are dropped.
-/

namespace PathQuery.Calendar

/-- Characters still to be read; each reader returns those it leaves. -/
abbrev Rest := List Char

/-- Exactly `n` digits. -/
def takeDigits? (n : Nat) (s : Rest) : Option (Nat × Rest) :=
  let ds := s.take n
  if ds.length = n ∧ ds.all Char.isDigit then some (Numeral.digitsValue ds, s.drop n) else none

/-- One up to `n` digits, as many as there are. -/
def takeUpTo? (n : Nat) (s : Rest) : Option (Nat × Rest) :=
  let ds := (s.take n).takeWhile Char.isDigit
  if ds = [] then none else some (Numeral.digitsValue ds, s.drop ds.length)

def takeRun? (s : Rest) : Option (Nat × Rest) :=
  let ds := s.takeWhile Char.isDigit
  if ds = [] then none else some (Numeral.digitsValue ds, s.dropWhile Char.isDigit)

def expect? (c : Char) : Rest → Option Rest
  | d :: s => if d = c then some s else none
  | [] => none

/-- Nothing, or a point and digits, as nanoseconds. -/
def takeFraction? : Rest → Option (Nat × Rest)
  | '.' :: s =>
    let ds := s.takeWhile Char.isDigit
    let kept := ds.take 9
    if ds = [] then none
    else some (Numeral.digitsValue kept * Nat.pow 10 (9 - kept.length), s.dropWhile Char.isDigit)
  | s => some (0, s)

/-! ## The Internet format -/

/-- `Z`, or a sign, hours and minutes, as minutes ahead of UTC. -/
def takeOffset? : Rest → Option (Int × Rest)
  | [] => none
  | c :: s =>
    if c = 'Z' ∨ c = 'z' then some (0, s)
    else if c = '+' ∨ c = '-' ∨ c = '\u2212' then do
      let (hours, s) ← takeDigits? 2 s
      let s ← expect? ':' s
      let (minutes, s) ← takeDigits? 2 s
      if hours < 24 ∧ minutes < 60 then
        let ahead : Int := hours * 60 + minutes
        some (if c = '+' then ahead else -ahead, s)
      else none
    else none

/-- What stands between the date and the time. -/
def takeSeparator? : Rest → Option Rest
  | c :: s => if c = 'T' ∨ c = 't' ∨ c = ' ' then some s else none
  | [] => none

def readOffsetDateTime? (s : String) : Option OffsetDateTime := do
  let (year, r) ← takeDigits? 4 s.toList
  let r ← expect? '-' r
  let (month, r) ← takeDigits? 2 r
  let r ← expect? '-' r
  let (day, r) ← takeDigits? 2 r
  let r ← takeSeparator? r
  let (hour, r) ← takeDigits? 2 r
  let r ← expect? ':' r
  let (minute, r) ← takeDigits? 2 r
  let r ← expect? ':' r
  let (second, r) ← takeDigits? 2 r
  let (nanos, r) ← takeFraction? r
  let (offset, r) ← takeOffset? r
  if r = [] then
    let civil : DateTime := ⟨← Date.of? year month day, ← TimeOfDay.ofClock? hour minute second nanos⟩
    let utc ← civil.earlier? offset
    some ⟨civil, offset, utc⟩
  else none

/-! ## Without offset -/

/-- A year: up to four digits, or a sign and any number of them. -/
def takeYear? : Rest → Option (Int × Rest)
  | '-' :: s => (takeRun? s).map fun p => (-p.1, p.2)
  | '+' :: s => (takeRun? s).map fun p => (p.1, p.2)
  | s => (takeUpTo? 4 s).map fun p => (p.1, p.2)

/-- White space and one or two digits. -/
def takePair? (s : Rest) : Option (Nat × Rest) := takeUpTo? 2 (s.dropWhile Text.isBlank)

def takeDate? (s : Rest) : Option (Date × Rest) := do
  let (year, r) ← takeYear? (s.dropWhile Text.isBlank)
  let r ← expect? '-' r
  let (month, r) ← takePair? r
  let r ← expect? '-' r
  let (day, r) ← takePair? r
  some (← Date.of? year month day, r)

def takeTimeOfDay? (s : Rest) : Option (TimeOfDay × Rest) := do
  let (hour, r) ← takePair? s
  let r ← expect? ':' r
  let (minute, r) ← takePair? r
  let r ← expect? ':' r
  let (second, r) ← takePair? r
  let (nanos, r) ← takeFraction? r
  some (← TimeOfDay.ofClock? hour minute second nanos, r)

def readDate? (s : String) : Option Date := do
  let (date, r) ← takeDate? s.toList
  if r = [] then some date else none

def readTimeOfDay? (s : String) : Option TimeOfDay := do
  let (time, r) ← takeTimeOfDay? s.toList
  if r = [] then some time else none

def readDateTime? (s : String) : Option DateTime := do
  let (date, r) ← takeDate? s.toList
  let r ← expect? 'T' r
  let (time, r) ← takeTimeOfDay? r
  if r = [] then some ⟨date, time⟩ else none

end PathQuery.Calendar
