import PathQuery.Json.Token
import PathQuery.Named

/-!
# The tree of a JSON text

A text is read into a tree that keeps what values lose: repeated keys, and the place of the first
fault. Reading never fails; a tree that breaks off says where and why, so whoever decodes it meets
the faults of the text and their own in the order of the text.

* `Tree` : the tree; `Document` : the tree and whether anything stands behind it;
* `Document.ofText` : the document of a text;
* `Tree.value` : the tree as a value, at most `depth` brackets deep. A repeated key keeps its
  first place and takes its last value.
-/

namespace PathQuery.Json

/-- The tree of a text, up to its first fault. -/
inductive Tree where
  | null
  | bool (b : Bool)
  | number (n : Except TextError Number)
  | string (s : Except TextError String)
  /-- The items of a list and the fault behind them. -/
  | list (items : List Tree) (fault : Option TextError)
  /-- The entries of an object and the fault behind them. -/
  | object (entries : List (Except TextError String × Tree)) (fault : Option TextError)
  | broken (cause : TextError)

/-- A key as its token says it. -/
abbrev Tree.Key := Except TextError String

/-- A list or object that is being read, its parts last first. -/
inductive Frame where
  | list (items : List Tree)
  | entries (entries : List (Tree.Key × Tree))
  | entry (entries : List (Tree.Key × Tree)) (key : Tree.Key)

/-- What may come next. -/
inductive Place where
  | value
  | listStart
  | afterItem
  | afterItemComma
  | objectStart
  | afterEntry
  | afterEntryComma
  | colon
  deriving DecidableEq

/-- The fault of a text that ends here. -/
def Place.atEnd : Place → TextError
  | .value => .endInValue
  | .listStart => .endInList
  | .afterItem => .endInList
  | .afterItemComma => .endInValue
  | .objectStart => .endInObject
  | .afterEntry => .endInObject
  | .afterEntryComma => .endInValue
  | .colon => .endInObject

/-- Puts a tree that breaks off into the brackets around it. -/
def wrap : Tree → List Frame → Tree
  | t, [] => t
  | t, .list items :: stack => wrap (.list (t :: items).reverse none) stack
  | _, .entries entries :: stack => wrap (.object entries.reverse none) stack
  | t, .entry entries key :: stack => wrap (.object ((key, t) :: entries).reverse none) stack

/-- The tree of a text whose fault lies inside the brackets of `stack`. -/
def breakOff (cause : TextError) : List Frame → Tree
  | [] => .broken cause
  | .list items :: stack => wrap (.list items.reverse (some cause)) stack
  | .entries entries :: stack => wrap (.object entries.reverse (some cause)) stack
  | .entry entries key :: stack =>
    wrap (.object ((key, .broken cause) :: entries).reverse none) stack

/-- The tree of a text, and whether anything follows it. -/
structure Document where
  root : Tree
  trailing : Bool

/-- Puts a whole tree into the innermost brackets; none if there are no brackets. -/
def put (t : Tree) : List Frame → Option (List Frame × Place)
  | .list items :: stack => some (.list (t :: items) :: stack, .afterItem)
  | .entry entries key :: stack => some (.entries ((key, t) :: entries) :: stack, .afterEntry)
  | _ => none

/-- What a token does where it may come: to the stack of brackets, or to the reading as a whole. -/
inductive Step where
  | next (stack : List Frame) (place : Place)
  | whole (t : Tree)
  | fault (cause : TextError)

/-- A whole value inside the brackets of `stack`. -/
def settle (t : Tree) (stack : List Frame) : Step :=
  match put t stack with
  | some (stack, place) => .next stack place
  | none => .whole t

def close : List Frame → Step
  | .list items :: stack => settle (.list items.reverse none) stack
  | .entries entries :: stack => settle (.object entries.reverse none) stack
  | _ => .fault .expectedValue

def startValue (stack : List Frame) : Token → Step
  | .openList => .next (.list [] :: stack) .listStart
  | .openObject => .next (.entries [] :: stack) .objectStart
  | .null => settle .null stack
  | .bool b => settle (.bool b) stack
  | .number n => settle (.number n) stack
  | .string s => settle (.string s) stack
  | .broken _ cause => .fault cause
  | _ => .fault .expectedValue

def startKey : List Frame → Token → Step
  | .entries entries :: stack, .string key => .next (.entry entries key :: stack) .colon
  | _, .broken true cause => .fault cause
  | _, _ => .fault .keyNotString

/-- What a token does at its place. -/
def step (stack : List Frame) : Place → Token → Step
  | .value, token => startValue stack token
  | .listStart, .closeList => close stack
  | .listStart, token => startValue stack token
  | .afterItem, .comma => .next stack .afterItemComma
  | .afterItem, .closeList => close stack
  | .afterItem, _ => .fault .expectedListEnd
  | .afterItemComma, .closeList => .fault .trailingComma
  | .afterItemComma, token => startValue stack token
  | .objectStart, .closeObject => close stack
  | .objectStart, token => startKey stack token
  | .afterEntry, .comma => .next stack .afterEntryComma
  | .afterEntry, .closeObject => close stack
  | .afterEntry, _ => .fault .expectedObjectEnd
  | .afterEntryComma, .closeObject => .fault .trailingComma
  | .afterEntryComma, token => startKey stack token
  | .colon, .colon => .next stack .value
  | .colon, _ => .fault .expectedColon

/-- Reads the tokens inside the brackets of `stack`. -/
def Document.ofTokens (stack : List Frame) (place : Place) : List Token → Document
  | [] => ⟨breakOff place.atEnd stack, false⟩
  | token :: rest =>
    match step stack place token with
    | .next stack place => ofTokens stack place rest
    | .whole t => ⟨t, !rest.isEmpty⟩
    | .fault cause => ⟨breakOff cause stack, false⟩

def Document.ofText (s : String) : Document := ofTokens [] .value (tokens s.toList)

/-! ## Trees as values -/

namespace Tree

mutual

/-- The value of a tree with at most `depth` brackets inside one another. -/
def value (depth : Nat) : Tree → Except TextError Json
  | .null => .ok .null
  | .bool b => .ok (.bool b)
  | .number n => n.map .number
  | .string s => s.map .string
  | .list items fault =>
    match depth with
    | 0 => .error .tooDeep
    | depth + 1 => do
      let values ← itemValues depth items
      match fault with
      | some cause => .error cause
      | none => .ok (.array values)
  | .object entries fault =>
    match depth with
    | 0 => .error .tooDeep
    | depth + 1 => do
      let values ← entryValues depth entries []
      match fault with
      | some cause => .error cause
      | none => .ok (.object values)
  | .broken cause => .error cause

def itemValues (depth : Nat) : List Tree → Except TextError (List Json)
  | [] => .ok []
  | t :: rest => do
    let v ← value depth t
    let vs ← itemValues depth rest
    .ok (v :: vs)

/-- Adds the entries to those read before them. -/
def entryValues (depth : Nat) :
    List (Except TextError String × Tree) → List (String × Json) →
      Except TextError (List (String × Json))
  | [], done => .ok done
  | (key, t) :: rest, done => do
    let k ← key
    let v ← value depth t
    entryValues depth rest (insertEntry k v done)

end

mutual

/-- The first fault of a tree whose values nobody asks for. -/
def fault? : Tree → Option TextError
  | .list items fault => itemFault? items <|> fault
  | .object entries fault => entryFault? entries <|> fault
  | .broken cause => some cause
  | _ => none

def itemFault? : List Tree → Option TextError
  | [] => none
  | t :: rest => fault? t <|> itemFault? rest

def entryFault? : List (Except TextError String × Tree) → Option TextError
  | [] => none
  | (_, t) :: rest => fault? t <|> entryFault? rest

end

end Tree

/-- How many brackets a text may open inside one another. -/
def maxDepth : Nat := 127

def ofText (s : String) : Except TextError Json := do
  let document := Document.ofText s
  let v ← document.root.value maxDepth
  if document.trailing then .error .trailingCharacters else .ok v

end PathQuery.Json
