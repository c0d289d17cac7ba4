import PathQuery.Json.Printer
import PathQuery.Param.Basic

/-!
# Parameters in the binary format of PostgreSQL

Numbers are big-endian, dates count days and times microseconds since the start of 2000 (a time of
day: since midnight), texts are UTF-8. Each parameter has the types it may be sent as; for any other
type there is no encoding.
-/

namespace PathQuery.Param

/-- The types of the database that parameters are sent as. -/
inductive WireType where
  | int4
  | int8
  | float8
  | bool
  | text
  | varchar
  | uuid
  | date
  | time
  | timestamp
  | timestamptz
  | json
  | jsonb
  deriving DecidableEq, Repr

def WireType.ofName? : String → Option WireType
  | "int4" => some .int4
  | "int8" => some .int8
  | "float8" => some .float8
  | "bool" => some .bool
  | "text" => some .text
  | "varchar" => some .varchar
  | "uuid" => some .uuid
  | "date" => some .date
  | "time" => some .time
  | "timestamp" => some .timestamp
  | "timestamptz" => some .timestamptz
  | "json" => some .json
  | "jsonb" => some .jsonb
  | _ => none

/-- The last `width` bytes of a number, most significant first. -/
def bigEndian (width n : Nat) : List UInt8 :=
  ((List.range width).map fun i => UInt8.ofNat (n >>> (8 * i))).reverse

/-- A signed number of `width` bytes in two's complement. -/
def signedBytes (width : Nat) (n : Int) : List UInt8 :=
  bigEndian width (BitVec.ofInt (8 * width) n).toNat

def utf8 (s : String) : List UInt8 := s.toUTF8.toList

/-- Microseconds since the start of 2000, nearer to it by less than one. -/
def microseconds (t : Calendar.DateTime) : Int := t.nanosSince2000.tdiv 1000

/-- The bytes of a parameter sent as a type, none if it is not sent as that type. -/
def encode? : Param → WireType → Option (List UInt8)
  | .int4 n, .int4 => some (signedBytes 4 n.toInt)
  | .int8 n, .int8 => some (signedBytes 8 n.toInt)
  | .float8 x, .float8 => some (bigEndian 8 x.toBits.toNat)
  | .bool b, .bool => some [if b then 1 else 0]
  | .text s, .text => some (utf8 s)
  | .text s, .varchar => some (utf8 s)
  | .uuid u, .uuid => some (bigEndian 16 u.bits.toNat)
  | .date d, .date => some (signedBytes 4 d.dayNumber)
  | .time t, .time => some (signedBytes 8 (t.seconds * 1000000 + t.nanos / 1000))
  | .dateTime t, .timestamp => some (signedBytes 8 (microseconds t))
  | .timestamp t, .timestamptz => some (signedBytes 8 (microseconds t))
  | .json v, .json => some (utf8 v.compact)
  | .json v, .jsonb => some (1 :: utf8 v.compact)
  | _, _ => none

end PathQuery.Param
