import PathQuery.Text.Ranges

/-!
# White space

`blankRanges` are the characters with the property White_Space, and `trim` drops them from both
ends of a text.
-/

namespace PathQuery.Text

/-- Characters with the property White_Space. -/
def blankRanges : Ranges :=
  [(0x9, 0xD), (0x20, 0x20), (0x85, 0x85), (0xA0, 0xA0), (0x1680, 0x1680), (0x2000, 0x200A),
   (0x2028, 0x2029), (0x202F, 0x202F), (0x205F, 0x205F), (0x3000, 0x3000)]

def isBlank (c : Char) : Bool := blankRanges.contains c

/-- The characters without the white space before and after them. -/
def trimChars (cs : List Char) : List Char :=
  ((cs.dropWhile isBlank).reverse.dropWhile isBlank).reverse

def trim (s : String) : String := String.ofList (trimChars s.toList)

/-- Texts without the white space around them; those that held nothing else are left out. -/
def trimAll (ts : List String) : List String := (ts.map trim).filter fun t => t ≠ ""

def isBlankText (s : String) : Bool := s.toList.all isBlank

end PathQuery.Text
