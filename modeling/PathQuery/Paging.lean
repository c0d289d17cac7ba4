import PathQuery.Config
import PathQuery.Error

/-!
# Paging

A limit of -1 asks for everything, which the configured cap replaces; any other limit must not be
negative or above the cap. Pages count from 1 and, with a positive limit, take the place of the
offset.
-/

namespace PathQuery

def compileLimit (config : Config) (limit : Option Int64) : Except QueryError (Option Int64) :=
  match limit with
  | none => .ok none
  | some n =>
    if n = -1 then .ok config.maxLimit
    else if n < -1 then .error (.invalid (.negativeLimit n))
    else
      match config.maxLimit with
      | some max => if max < n then .error (.invalid (.limitTooLarge n max)) else .ok (some n)
      | none => .ok (some n)

/-- The rows before a page, none if they are too many for 64 bits. -/
def pageOffset? (limit page : Int64) : Option Int64 :=
  let rows := limit.toInt * (page.toInt - 1)
  if Numeral.fitsInt64 rows then some (Int64.ofInt rows) else none

def compilePage (offset : Option Int64) (page : Int64) (limit : Option Int64) :
    Except QueryError (Option Int64) :=
  if page < 1 then .error (.invalid (.pageNotPositive page))
  else
    match limit with
    | none => .ok offset
    | some n =>
      if 0 < n then
        match pageOffset? n page with
        | some rows => .ok (some rows)
        | none => .error (.invalid (.pageOutOfRange page))
      else .ok offset

def compileOffset (offset page limit : Option Int64) : Except QueryError (Option Int64) :=
  match offset with
  | some n =>
    if n < 0 then .error (.invalid (.negativeOffset n))
    else
      match page with
      | none => .ok (some n)
      | some p => compilePage (some n) p limit
  | none =>
    match page with
    | none => .ok none
    | some p => compilePage none p limit

end PathQuery
