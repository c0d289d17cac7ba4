import PathQuery.Calendar.Basic
import PathQuery.Numeral.Integer

/-!
# The text of dates and times

Years outside 0 to 9999 have a sign. A fraction of a second has three, six or nine digits, as few as
hold it, and a leap second is second 60.
-/

namespace PathQuery.Calendar

def padded (width n : Nat) : String :=
  let ds := Nat.toDigits 10 n
  String.ofList (List.replicate (width - ds.length) '0' ++ ds)

def Date.toText (d : Date) : String :=
  let year := padded 4 d.year.natAbs
  let signed := if d.year < 0 then "-" ++ year else if 9999 < d.year then "+" ++ year else year
  signed ++ "-" ++ padded 2 d.month ++ "-" ++ padded 2 d.day

/-- Nanoseconds below a second, with the point before them. -/
def fractionText (nanos : Nat) : String :=
  if nanos = 0 then ""
  else if nanos % 1000000 = 0 then "." ++ padded 3 (nanos / 1000000)
  else if nanos % 1000 = 0 then "." ++ padded 6 (nanos / 1000)
  else "." ++ padded 9 nanos

def TimeOfDay.toText (t : TimeOfDay) : String :=
  let leap := t.nanos / 1000000000
  padded 2 (t.seconds / 3600) ++ ":" ++ padded 2 (t.seconds / 60 % 60) ++ ":" ++
    padded 2 (t.seconds % 60 + leap) ++ fractionText (t.nanos % 1000000000)

def DateTime.toText (t : DateTime) : String := t.date.toText ++ "T" ++ t.time.toText

end PathQuery.Calendar
