import PathQuery.Numeral.Integer
import PathQuery.Text.Ranges

/-!
# UUIDs

A UUID is a number of 128 bits. It is written as 32 hexadecimal digits in five groups of 8, 4, 4, 4
and 12; `Uuid.read` also takes the digits without hyphens, and the groups in braces or behind
`urn:uuid:`.
-/

namespace PathQuery

/-- A number of 128 bits. -/
structure Uuid where
  bits : BitVec 128
  deriving DecidableEq

namespace Uuid

inductive ReadError where
  /-- A character that no UUID holds, and its byte offset. -/
  | character (c : Char) (index : Nat)
  /-- The text is too long for any form, or its digits without hyphens are not 32. -/
  | length (bytes : Nat)
  | groupCount (groups : Nat)
  /-- A group has the wrong length. -/
  | groupLength (group expected found : Nat)
  deriving DecidableEq

def ReadError.message : ReadError → String
  | .character c i =>
    "invalid character: found `" ++ String.ofList [c] ++ "` at " ++ Numeral.ofNat i
  | .length n =>
    "invalid length: found " ++ Numeral.ofNat n
  | .groupCount n => "invalid group count: expected 5, found " ++ Numeral.ofNat n
  | .groupLength group expected found =>
    "invalid group length in group " ++ Numeral.ofNat group ++ ": expected " ++
      Numeral.ofNat expected ++ ", found " ++ Numeral.ofNat found

/-- The number that hexadecimal digits write behind `value`. -/
def readHex? (value : Nat) : List Char → Option Nat
  | [] => some value
  | c :: cs => do readHex? (16 * value + (← Numeral.hexValue? c)) cs

def groupLengths : List Nat := [8, 4, 4, 4, 12]

/-- The runs of characters between hyphens. -/
def groups : List Char → List (List Char)
  | [] => [[]]
  | c :: cs =>
    match groups cs with
    | [] => [[c]]
    | g :: gs => if c = '-' then [] :: g :: gs else (c :: g) :: gs

/-- The number of five groups of the right lengths. -/
def readGroups? (cs : List Char) : Option Nat :=
  let gs := groups cs
  if gs.map List.length = groupLengths then readHex? 0 gs.flatten else none

/-- What stands inside braces, if anything does. -/
def unbraced? (cs : List Char) : Option (List Char) :=
  match cs with
  | '\x7b' :: rest => if rest.getLast? = some '\x7d' then some rest.dropLast else none
  | _ => none

/-- What stands behind `urn:uuid:`, in letters of any case. -/
def behindUrn? (cs : List Char) : Option (List Char) :=
  if (cs.take 9).map Char.toLower = "urn:uuid:".toList then some (cs.drop 9) else none

def read? (s : String) : Option Uuid :=
  let cs := s.toList
  let value :=
    if cs.length = 32 then readHex? 0 cs
    else
      match unbraced? cs, behindUrn? cs with
      | some inner, _ => readGroups? inner
      | none, some inner => readGroups? inner
      | none, none => readGroups? cs
  value.map fun n => ⟨BitVec.ofNat 128 n⟩

/-- The first character that no UUID holds, and its byte offset behind `index`. -/
def strayCharacter? (index : Nat) : List Char → Option (Char × Nat)
  | [] => none
  | c :: cs =>
    if c = '-' ∨ (Numeral.hexValue? c).isSome then strayCharacter? (index + c.utf8Size) cs
    else some (c, index)

/-- The first group whose length is wrong, as its number, the right length and its own. -/
def wrongGroup? (number : Nat) : List Nat → List (List Char) → Option (Nat × Nat × Nat)
  | n :: ns, g :: gs =>
    if g.length = n then wrongGroup? (number + 1) ns gs else some (number, n, g.length)
  | _, _ => none

/-- Bytes of the longest form, the groups behind `urn:uuid:`. -/
def longest : Nat := 45

/-- Why a text of at most `longest` bytes that is no UUID is none. -/
def explainShort (s : String) : ReadError :=
  let cs := s.toList
  let (inner, offset, bare) :=
    match unbraced? cs, behindUrn? cs with
    | some inner, _ => (inner, 1, false)
    | none, some inner => (inner, 9, false)
    | none, none => (cs, 0, true)
  match strayCharacter? offset inner with
  | some (c, i) => .character c i
  | none =>
    let gs := groups inner
    if gs.length = 1 ∧ bare = true then .length s.utf8ByteSize
    else if gs.length ≠ 5 then .groupCount gs.length
    else
      match wrongGroup? 0 groupLengths gs with
      | some (group, expected, found) => .groupLength group expected found
      | none => .groupLength 4 12 12

/-- Why a text that is no UUID is none; one that is too long is not looked into. -/
def explain (s : String) : ReadError :=
  if longest < s.utf8ByteSize then .length s.utf8ByteSize else explainShort s

/-- The UUID that a text writes, or why it writes none. -/
def read (s : String) : Except ReadError Uuid :=
  match read? s with
  | some u => .ok u
  | none => .error (explain s)

def hexDigit (n : Nat) : Char := Nat.digitChar n

def digits (u : Uuid) : List Char :=
  (List.range 32).map fun i => hexDigit ((u.bits.toNat >>> (4 * (31 - i))) % 16)

def toText (u : Uuid) : String :=
  let ds := u.digits
  String.ofList <|
    ds.take 8 ++ '-' :: (ds.drop 8).take 4 ++ '-' :: (ds.drop 12).take 4 ++
      '-' :: (ds.drop 16).take 4 ++ '-' :: ds.drop 20

end Uuid

end PathQuery
