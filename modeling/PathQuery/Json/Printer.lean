import PathQuery.Json.Number
import PathQuery.Text.Quoted

/-!
# JSON text

* `compact` : a value without white space;
* `pretty` : a value with one item or entry a line, indented by two spaces.

Strings escape the quote, the backslash and the control characters and nothing else.
-/

namespace PathQuery.Json

def escape (c : Char) : List Char :=
  if c = '"' then ['\\', '"']
  else if c = '\\' then ['\\', '\\']
  else if c = '\n' then ['\\', 'n']
  else if c = '\r' then ['\\', 'r']
  else if c = '\t' then ['\\', 't']
  else if c.toNat = 8 then ['\\', 'b']
  else if c.toNat = 12 then ['\\', 'f']
  else if c.toNat < 16 then ['\\', 'u', '0', '0', '0'] ++ Text.hexDigits c.toNat
  else if c.toNat < 32 then ['\\', 'u', '0', '0'] ++ Text.hexDigits c.toNat
  else [c]

def stringText (s : String) : String := String.ofList ('"' :: s.toList.flatMap escape ++ ['"'])

mutual

def compact : Json → String
  | .null => "null"
  | .bool true => "true"
  | .bool false => "false"
  | .number n => n.toText
  | .string s => stringText s
  | .array items => "[" ++ ",".intercalate (compactItems items) ++ "]"
  | .object entries => "\x7b" ++ ",".intercalate (compactEntries entries) ++ "\x7d"

def compactItems : List Json → List String
  | [] => []
  | value :: rest => compact value :: compactItems rest

def compactEntries : List (String × Json) → List String
  | [] => []
  | (key, value) :: rest => (stringText key ++ ":" ++ compact value) :: compactEntries rest

end

/-- A new line, indented by two spaces a level. -/
def newLine (level : Nat) : String := String.ofList ('\n' :: List.replicate (2 * level) ' ')

mutual

/-- A value inside `level` brackets, its items and entries on lines of their own. -/
def prettyAt (level : Nat) : Json → String
  | .array items =>
    if items.isEmpty then "[]"
    else "[" ++ ",".intercalate (prettyItems (level + 1) items) ++ newLine level ++ "]"
  | .object entries =>
    if entries.isEmpty then "\x7b\x7d"
    else
      "\x7b" ++ ",".intercalate (prettyEntries (level + 1) entries) ++ newLine level ++ "\x7d"
  | .null => "null"
  | .bool true => "true"
  | .bool false => "false"
  | .number n => n.toText
  | .string s => stringText s

def prettyItems (level : Nat) : List Json → List String
  | [] => []
  | value :: rest => (newLine level ++ prettyAt level value) :: prettyItems level rest

def prettyEntries (level : Nat) : List (String × Json) → List String
  | [] => []
  | (key, value) :: rest =>
    (newLine level ++ stringText key ++ ": " ++ prettyAt level value) :: prettyEntries level rest

end

def pretty (value : Json) : String := prettyAt 0 value

end PathQuery.Json
