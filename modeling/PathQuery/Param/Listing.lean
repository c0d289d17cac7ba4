import PathQuery.Calendar.Printer
import PathQuery.Json.Printer
import PathQuery.Param.Basic
import PathQuery.Text.Quoted

/-!
# Parameters in a listing

`Param.describe` is the text of a parameter for people: texts are quoted, dates and times are in the
Internet format, and JSON values name the shape of each part.
-/

namespace PathQuery

namespace Json

mutual

/-- A JSON value with the shape of each part named. -/
def describe : Json → String
  | .null => "Null"
  | .bool true => "Bool(true)"
  | .bool false => "Bool(false)"
  | .number n => "Number(" ++ n.toText ++ ")"
  | .string s => "String(" ++ Text.quoted s ++ ")"
  | .array items => "Array [" ++ ", ".intercalate (describeItems items) ++ "]"
  | .object entries => "Object \x7b" ++ ", ".intercalate (describeEntries entries) ++ "\x7d"

def describeItems : List Json → List String
  | [] => []
  | value :: rest => describe value :: describeItems rest

def describeEntries : List (String × Json) → List String
  | [] => []
  | (key, value) :: rest => (Text.quoted key ++ ": " ++ describe value) :: describeEntries rest

end

end Json

namespace Param

def floatStyle : Numeral.FloatStyle where
  least := -4
  greatest := 15
  plus := ""
  tie := .up
  infinity := "inf"
  nan := "NaN"

/-- The text of a parameter for people. -/
def describe : Param → String
  | .int4 n => Numeral.ofInt n.toInt
  | .int8 n => Numeral.ofInt n.toInt
  | .float8 x => floatStyle.write x
  | .bool true => "true"
  | .bool false => "false"
  | .text s => Text.quoted s
  | .uuid u => u.toText
  | .date d => d.toText
  | .time t => t.toText
  | .dateTime t => t.toText
  | .timestamp t => t.toText ++ "Z"
  | .json v => v.describe

end Param

end PathQuery
