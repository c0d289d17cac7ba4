import PathQuery.Json.Number

/-!
# The tokens of JSON text

`tokens` cuts a text into brackets, commas, colons, words, numbers and strings. A token that cannot
be finished is `broken` and is the last one. A string with a lone surrogate and a number too large
for a double are whole tokens without a value: they are faults only where the value is asked for.
-/

namespace PathQuery.Json

inductive TextError where
  | endInValue
  | endInList
  | endInObject
  | endInString
  | expectedColon
  | expectedListEnd
  | expectedObjectEnd
  | expectedWord
  | expectedValue
  | invalidEscape
  | invalidNumber
  | numberOutOfRange
  | controlCharacter
  | keyNotString
  | loneSurrogate
  | trailingComma
  | trailingCharacters
  | endInEscape
  | tooDeep
  deriving DecidableEq, Repr

def TextError.message : TextError → String
  | .endInValue => "EOF while parsing a value"
  | .endInList => "EOF while parsing a list"
  | .endInObject => "EOF while parsing an object"
  | .endInString => "EOF while parsing a string"
  | .expectedColon => "expected `:`"
  | .expectedListEnd => "expected `,` or `]`"
  | .expectedObjectEnd => "expected `,` or `\x7d`"
  | .expectedWord => "expected ident"
  | .expectedValue => "expected value"
  | .invalidEscape => "invalid escape"
  | .invalidNumber => "invalid number"
  | .numberOutOfRange => "number out of range"
  | .controlCharacter => "control character (\\u0000-\\u001F) found while parsing a string"
  | .keyNotString => "key must be a string"
  | .loneSurrogate => "lone leading surrogate in hex escape"
  | .trailingComma => "trailing comma"
  | .trailingCharacters => "trailing characters"
  | .endInEscape => "unexpected end of hex escape"
  | .tooDeep => "recursion limit exceeded"

inductive Token where
  | openList
  | closeList
  | openObject
  | closeObject
  | comma
  | colon
  | null
  | bool (b : Bool)
  | number (n : Except TextError Number)
  | string (s : Except TextError String)
  /-- A token that breaks off; `quoted` says that it started as a string. -/
  | broken (quoted : Bool) (cause : TextError)

def isSpace (c : Char) : Bool := c = ' ' || c = '\n' || c = '\t' || c = '\r'

/-! ## Strings -/

/-- The character a one-letter escape stands for. -/
def shortEscape? (c : Char) : Option Char :=
  if c = '"' ∨ c = '\\' ∨ c = '/' then some c
  else if c = 'b' then some (Char.ofNat 8)
  else if c = 'f' then some (Char.ofNat 12)
  else if c = 'n' then some '\n'
  else if c = 'r' then some '\r'
  else if c = 't' then some '\t'
  else none

/-- The unit that four hexadecimal digits write. -/
def unit? (a b c d : Char) : Option Nat := do
  return ((← Numeral.hexValue? a) * 16 + (← Numeral.hexValue? b)) * 256 + (← Numeral.hexValue? c) * 16 +
    (← Numeral.hexValue? d)

def isHighSurrogate (u : Nat) : Bool := 0xD800 ≤ u && u ≤ 0xDBFF

def isLowSurrogate (u : Nat) : Bool := 0xDC00 ≤ u && u ≤ 0xDFFF

def pairChar (high low : Nat) : Char := Char.ofNat (0x10000 + (high - 0xD800) * 0x400 + (low - 0xDC00))

/-- The token of the string after its opening quote and what follows it. `done` holds the characters
read, last first, and `flaw` why they do not make a text. -/
def scanString (done : List Char) (flaw : Option TextError) : List Char → Token × List Char
  | [] => (.broken true (flaw.getD .endInString), [])
  | '"' :: rest =>
    (.string (match flaw with
      | some cause => .error cause
      | none => .ok (String.ofList done.reverse)), rest)
  | '\\' :: 'u' :: a :: b :: c :: d :: rest =>
    match unit? a b c d with
    | none => (.broken true (flaw.getD .invalidEscape), rest)
    | some u =>
      if isHighSurrogate u then
        match rest with
        | '\\' :: 'u' :: a' :: b' :: c' :: d' :: rest' =>
          match unit? a' b' c' d' with
          | none => (.broken true (flaw.getD .invalidEscape), rest')
          | some v =>
            if isLowSurrogate v then scanString (pairChar u v :: done) flaw rest'
            else scanString done (flaw <|> some .loneSurrogate) rest'
        | [] => (.broken true (flaw.getD .endInString), [])
        | rest => scanString done (flaw <|> some .endInEscape) rest
      else if isLowSurrogate u then scanString done (flaw <|> some .loneSurrogate) rest
      else scanString (Char.ofNat u :: done) flaw rest
  | '\\' :: 'u' :: _ => (.broken true (flaw.getD .endInString), [])
  | '\\' :: [] => (.broken true (flaw.getD .endInString), [])
  | '\\' :: c :: rest =>
    match shortEscape? c with
    | some e => scanString (e :: done) flaw rest
    | none => (.broken true (flaw.getD .invalidEscape), rest)
  | c :: rest =>
    if c.toNat < 32 then (.broken true (flaw.getD .controlCharacter), rest)
    else scanString (c :: done) flaw rest

/-! ## Numbers and words -/

/-- The fault of a numeral that stops before a digit it needs. -/
def missingDigit : List Char → Token × List Char
  | [] => (.broken false .endInValue, [])
  | _ :: rest => (.broken false .invalidNumber, rest)

/-- The exponent after its `e`, and the token made of it. -/
def scanExponent (n : Spelling) (s : List Char) : Token × List Char :=
  let (negative, s) := Numeral.takeSign s
  let ds := s.takeWhile Char.isDigit
  let rest := s.dropWhile Char.isDigit
  if ds = [] then missingDigit s
  else
    let e : Int := Numeral.digitsValue ds
    let value := Number.ofSpelling? { n with exponent := some (if negative then -e else e) }
    (.number (match value with
      | some v => .ok v
      | none => .error .numberOutOfRange), rest)

/-- What may follow the digits before and after the point. -/
def scanTail (n : Spelling) : List Char → Token × List Char
  | c :: rest =>
    if c = 'e' ∨ c = 'E' then scanExponent n rest
    else
      (.number (match Number.ofSpelling? n with
        | some v => .ok v
        | none => .error .numberOutOfRange), c :: rest)
  | [] =>
    (.number (match Number.ofSpelling? n with
      | some v => .ok v
      | none => .error .numberOutOfRange), [])

/-- A numeral whose first digit is `first`. -/
def scanNumber (negative : Bool) (first : Char) (s : List Char) : Token × List Char :=
  let whole := s.takeWhile Char.isDigit
  let rest := s.dropWhile Char.isDigit
  if first = '0' ∧ whole ≠ [] then (.broken false .invalidNumber, rest)
  else
    let n : Spelling := ⟨negative, first :: whole, none, none⟩
    match rest with
    | '.' :: r =>
      let fraction := r.takeWhile Char.isDigit
      let r' := r.dropWhile Char.isDigit
      if fraction = [] then missingDigit r else scanTail { n with fraction := some fraction } r'
    | r => scanTail n r

/-- A numeral after its minus sign. -/
def scanNegative : List Char → Token × List Char
  | [] => (.broken false .endInValue, [])
  | d :: s => if d.isDigit then scanNumber true d s else (.broken false .invalidNumber, s)

/-- The rest of a word, letter by letter. -/
def scanWord (token : Token) : (letters : List Char) → List Char → Token × List Char
  | [], s => (token, s)
  | _ :: _, [] => (.broken false .endInValue, [])
  | l :: ls, c :: s => if l = c then scanWord token ls s else (.broken false .expectedWord, s)

/-- The token that starts with `c`, and what follows it. -/
def nextToken (c : Char) (s : List Char) : Token × List Char :=
  if c = '[' then (.openList, s)
  else if c = ']' then (.closeList, s)
  else if c = '\x7b' then (.openObject, s)
  else if c = '\x7d' then (.closeObject, s)
  else if c = ',' then (.comma, s)
  else if c = ':' then (.colon, s)
  else if c = '"' then scanString [] none s
  else if c = 'n' then scanWord .null ['u', 'l', 'l'] s
  else if c = 't' then scanWord (.bool true) ['r', 'u', 'e'] s
  else if c = 'f' then scanWord (.bool false) ['a', 'l', 's', 'e'] s
  else if c = '-' then scanNegative s
  else if c.isDigit then scanNumber false c s
  else (.broken false .expectedValue, s)

/-! ## What follows a token is shorter than what it was read from -/

theorem scanString_length_le (done : List Char) (flaw : Option TextError) (s : List Char) :
    (scanString done flaw s).2.length ≤ s.length := by
  fun_induction scanString done flaw s <;> simp_all <;> omega

theorem length_dropWhile_le (p : Char → Bool) (s : List Char) : (s.dropWhile p).length ≤ s.length := by
  induction s with
  | nil => simp
  | cons c s ih =>
    simp only [List.dropWhile_cons]
    split
    · simp only [List.length_cons]; omega
    · simp

theorem missingDigit_length_le (s : List Char) : (missingDigit s).2.length ≤ s.length := by
  cases s <;> simp [missingDigit]

theorem takeSign_length_le (s : List Char) :
    (Numeral.takeSign s).2.length ≤ s.length := by
  unfold Numeral.takeSign; split <;> simp

theorem scanExponent_length_le (n : Spelling) (s : List Char) :
    (scanExponent n s).2.length ≤ s.length := by
  have hs := takeSign_length_le s
  have hm := missingDigit_length_le (Numeral.takeSign s).2
  have hd := length_dropWhile_le Char.isDigit (Numeral.takeSign s).2
  simp only [scanExponent]
  split
  · omega
  · simp only; omega

theorem scanTail_length_le (n : Spelling) (s : List Char) : (scanTail n s).2.length ≤ s.length := by
  cases s with
  | nil => simp [scanTail]
  | cons c s =>
    have := scanExponent_length_le n s
    simp only [scanTail]
    split
    · simp only [List.length_cons]; omega
    · simp

theorem scanNumber_length_le (negative : Bool) (first : Char) (s : List Char) :
    (scanNumber negative first s).2.length ≤ s.length := by
  have hd := length_dropWhile_le Char.isDigit s
  simp only [scanNumber]
  split
  · exact hd
  · split
    · rename_i r heq
      have hr : r.length + 1 ≤ s.length := by
        have := congrArg List.length heq
        simp only [List.length_cons] at this; omega
      have hm := missingDigit_length_le r
      have hr' := length_dropWhile_le Char.isDigit r
      split
      · omega
      · exact Nat.le_trans (scanTail_length_le _ _) (by omega)
    · exact Nat.le_trans (scanTail_length_le _ _) hd

theorem scanWord_length_le (token : Token) (letters s : List Char) :
    (scanWord token letters s).2.length ≤ s.length := by
  fun_induction scanWord token letters s with
  | case1 s => exact Nat.le_refl _
  | case2 => exact Nat.le_refl _
  | case3 l ls s ih => exact Nat.le_succ_of_le ih
  | case4 l ls c s hne => exact Nat.le_succ _

theorem scanNegative_length_le (s : List Char) : (scanNegative s).2.length ≤ s.length := by
  cases s with
  | nil => simp [scanNegative]
  | cons d s =>
    simp only [scanNegative]
    split
    · exact Nat.le_succ_of_le (scanNumber_length_le _ _ _)
    · simp

theorem length_ite_le {p : Prop} [Decidable p] {x y : Token × List Char} {n : Nat}
    (hx : x.2.length ≤ n) (hy : y.2.length ≤ n) : (if p then x else y).2.length ≤ n := by
  split <;> assumption

theorem nextToken_length_le (c : Char) (s : List Char) : (nextToken c s).2.length ≤ s.length := by
  unfold nextToken
  repeat' (with_reducible apply length_ite_le)
  all_goals first
    | exact Nat.le_refl _
    | exact scanString_length_le _ _ _
    | exact scanWord_length_le _ _ _
    | exact scanNegative_length_le _
    | exact scanNumber_length_le _ _ _

/-! ## A whole text -/

/-- The tokens of a text, up to the first broken one. -/
def tokens : List Char → List Token
  | [] => []
  | c :: s =>
    if isSpace c then tokens s
    else
      match (nextToken c s).1 with
      | .broken quoted cause => [.broken quoted cause]
      | token => token :: tokens (nextToken c s).2
termination_by s => s.length
decreasing_by
  · simp
  · exact Nat.lt_succ_of_le (nextToken_length_le c s)

end PathQuery.Json
