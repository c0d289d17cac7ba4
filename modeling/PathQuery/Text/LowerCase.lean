import PathQuery.Text.Casing

/-!
# Lower case

Each character is mapped by the table, with two exceptions: a capital I with a dot becomes an i and
a combining dot, and a capital sigma at the end of a word becomes the final sigma. A sigma ends its
word if a cased character stands before it and none after it, with case-ignorable characters between
them overlooked.
-/

namespace PathQuery.Text

def simpleLower (c : Char) : Char :=
  match lowerRuns.find? fun (first, last, step, _) =>
      first ≤ c.toNat && c.toNat ≤ last && (c.toNat - first) % step == 0 with
  | some (_, _, _, shift) => Char.ofNat (c.toNat + shift).toNat
  | none => c

/-- The lower case of a character wherever it stands. -/
def lowerChar (c : Char) : List Char :=
  if c = '\u0130' then ['i', '\u0307'] else [simpleLower c]

/-- Whether the next character, case-ignorable ones overlooked, has a case. -/
def casedAhead (cs : List Char) : Bool :=
  match cs.dropWhile isCaseIgnorable with
  | [] => false
  | c :: _ => isCased c

/-- The lower case of the characters after `before`, which is given last character first. -/
def lowerChars (before : List Char) : List Char → List Char
  | [] => []
  | c :: after =>
    let lowered :=
      if c = '\u03A3' then [if casedAhead before && !casedAhead after then '\u03C2' else '\u03C3']
      else lowerChar c
    lowered ++ lowerChars (c :: before) after

def toLower (s : String) : String := String.ofList (lowerChars [] s.toList)

end PathQuery.Text
