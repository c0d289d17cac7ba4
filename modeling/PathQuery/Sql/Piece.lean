import PathQuery.Numeral.Integer
import PathQuery.Param.Basic

/-!
# Pieces of SQL text

A piece is SQL text together with the parameters it binds. The placeholder of a parameter is its
number in the whole statement, so a piece is written once it is known how many parameters come
before it; pieces are put together with `++`. `SqlText` is a text that grows by pieces.
-/

namespace PathQuery.Sql

/-- SQL text and its parameters, behind a number of earlier parameters. -/
structure Piece where
  write : (before : Nat) → String × List Param

namespace Piece

def append (a b : Piece) : Piece :=
  ⟨fun n =>
    let (s, ps) := a.write n
    let (t, qs) := b.write (n + ps.length)
    (s ++ t, ps ++ qs)⟩

instance : Append Piece := ⟨append⟩

def lit (s : String) : Piece := ⟨fun _ => (s, [])⟩

/-- Doubles the quotes of a name. -/
def doubleQuotes : List Char → List Char
  | [] => []
  | c :: cs => if c = '"' then '"' :: '"' :: doubleQuotes cs else c :: doubleQuotes cs

/-- A name between double quotes, its own quotes doubled. -/
def name (s : String) : Piece := lit (String.ofList ('"' :: doubleQuotes s.toList ++ ['"']))

/-- The placeholder of a parameter. -/
def param (p : Param) : Piece := ⟨fun n => ("$" ++ Numeral.ofNat (n + 1), [p])⟩

/-- Pieces with a text between each two. -/
def separated (sep : String) : List Piece → Piece
  | [] => lit ""
  | [p] => p
  | p :: q :: ps => p ++ lit sep ++ separated sep (q :: ps)

end Piece

/-- SQL text and the parameters of its placeholders, in order. -/
structure SqlText where
  text : String
  params : List Param

namespace SqlText

def empty : SqlText := ⟨"", []⟩

def add (t : SqlText) (p : Piece) : SqlText :=
  let (s, ps) := p.write t.params.length
  ⟨t.text ++ s, t.params ++ ps⟩

end SqlText

def Piece.toSql (p : Piece) : SqlText := SqlText.empty.add p

/-! ## The text and the parameters of a piece -/

namespace Piece

theorem write_append (a b : Piece) (n : Nat) :
    (a ++ b).write n =
      ((a.write n).1 ++ (b.write (n + (a.write n).2.length)).1,
        (a.write n).2 ++ (b.write (n + (a.write n).2.length)).2) := rfl

@[simp] theorem write_lit (s : String) (n : Nat) : (lit s).write n = (s, []) := rfl

@[simp] theorem write_param (p : Param) (n : Nat) :
    (param p).write n = ("$" ++ Numeral.ofNat (n + 1), [p]) := rfl

theorem append_assoc (a b c : Piece) : a ++ b ++ c = a ++ (b ++ c) := by
  have h : ∀ n, (a ++ b ++ c).write n = (a ++ (b ++ c)).write n := fun n => by
    simp [write_append, String.append_assoc, Nat.add_assoc]
  exact congrArg Piece.mk (funext h)

end Piece

end PathQuery.Sql
