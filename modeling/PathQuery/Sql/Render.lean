import PathQuery.Sql.Basic
import PathQuery.Sql.Piece

/-!
# The text of statements

Columns, conditions, tables and statements as pieces of SQL text. Chains of one connective are
written in one pair of parentheses; a comparison of equality with null becomes `IS NULL` or `IS NOT
NULL`; an alias that is the name of its table is left out, and so is a condition that always holds.
-/

namespace PathQuery.Sql

open Piece (lit)

def Comparator.text : Comparator → String
  | .eq => "="
  | .ne => "<>"
  | .lt => "<"
  | .le => "<="
  | .gt => ">"
  | .ge => ">="
  | .isIn => "IN"
  | .like => "LIKE"

def Logical.text : Logical → String
  | .and => "AND"
  | .or => "OR"

def Direction.text : Direction → String
  | .ascending => "ASC"
  | .descending => "DESC"

def limitPiece (n : Int64) : Piece := lit "LIMIT " ++ Piece.param (.int8 n)

def offsetPiece (n : Int64) : Piece := lit "OFFSET " ++ Piece.param (.int8 n)

/-- A piece behind a space, or nothing. -/
def clause (p : Option Piece) : Piece :=
  match p with
  | some p => lit " " ++ p
  | none => lit ""

/-- A table's name and its alias, unless that is the name itself. -/
def namedPiece (name : String) (aliasName : Option String) : Piece :=
  match aliasName with
  | some a => if name = a then .name name else .name name ++ lit " AS " ++ .name a
  | none => .name name

/-- A chain of conditions, in parentheses unless it stands in a longer chain of its kind. -/
def chain (within : Option Logical) (op : Logical) (left right : Piece) : Piece :=
  let body := left ++ lit (" " ++ op.text ++ " ") ++ right
  if within = some op then body else lit "(" ++ body ++ lit ")"

/-- The columns selected, which are all of them if none are named. -/
def selectedPiece (columns : List Piece) : Piece :=
  match columns with
  | [] => lit "*"
  | _ => .separated ", " columns

/-- `ORDER BY` and its columns. -/
def orderingPiece (terms : List Piece) : Piece := lit "ORDER BY " ++ .separated ", " terms

/-- `WHERE` and the text of a condition, unless the condition always holds. -/
def restrictionPiece (condition : Predicate) (text : Piece) : Option Piece :=
  match condition with
  | .const true => none
  | _ => some (lit "WHERE " ++ text)

mutual

def Column.piece : Column → Piece
  | .field table name => .name table ++ lit "." ++ .name name
  | .param p => .param p
  | .list items => lit "(" ++ .separated ", " (Column.pieces items) ++ lit ")"
  | .query s => lit "(" ++ s.piece ++ lit ")"
  | .null => lit "NULL"
  | .call function argument => lit function ++ lit "(" ++ argument.piece ++ lit ")"

def Column.pieces : List Column → List Piece
  | [] => []
  | c :: cs => c.piece :: Column.pieces cs

/-- A condition inside a chain of `within`, if that is one. -/
def Predicate.pieceIn (within : Option Logical) : Predicate → Piece
  | .const true => lit "TRUE"
  | .const false => lit "FALSE"
  | .compare .eq left .null => left.piece ++ lit " IS NULL"
  | .compare .ne left .null => left.piece ++ lit " IS NOT NULL"
  | .compare op left right => left.piece ++ lit (" " ++ op.text ++ " ") ++ right.piece
  | .between c low high => c.piece ++ lit " BETWEEN " ++ low.piece ++ lit " AND " ++ high.piece
  | .raw fragments => Fragment.piece fragments
  | .and p q => chain within .and (p.pieceIn (some .and)) (q.pieceIn (some .and))
  | .or p q => chain within .or (p.pieceIn (some .or)) (q.pieceIn (some .or))
  | .not p => lit "NOT(" ++ p.pieceIn none ++ lit ")"

def Fragment.piece : List Fragment → Piece
  | [] => lit ""
  | .text s :: rest => lit s ++ Fragment.piece rest
  | .column c :: rest => c.piece ++ Fragment.piece rest

def Table.piece : Table → Piece
  | .named name aliasName => namedPiece name aliasName
  | .leftJoin left right on =>
    left.piece ++ lit " LEFT JOIN " ++ right.piece ++ lit " ON " ++ on.pieceIn none

def OrderTerm.piece : OrderTerm → Piece
  | ⟨c, direction⟩ => c.piece ++ lit (" " ++ direction.text)

def OrderTerm.pieces : List OrderTerm → List Piece
  | [] => []
  | o :: os => o.piece :: OrderTerm.pieces os

def OrderTerm.clause : Option (List OrderTerm) → Option Piece
  | none => none
  | some os => some (orderingPiece (OrderTerm.pieces os))

def Select.piece : Select → Piece
  | ⟨source, columns, condition, order, limit, offset⟩ =>
    lit "SELECT " ++ selectedPiece (Column.pieces columns) ++ lit " FROM " ++ source.piece ++
      clause (restrictionPiece condition (condition.pieceIn none)) ++
      clause (OrderTerm.clause order) ++ clause (limit.map limitPiece) ++
      clause (offset.map offsetPiece)

end

def Predicate.piece (p : Predicate) : Piece := p.pieceIn none

/-- An order standing alone. -/
def orderPiece (os : List OrderTerm) : Piece := orderingPiece (OrderTerm.pieces os)

def Select.toSql (s : Select) : SqlText := s.piece.toSql

end PathQuery.Sql
