import PathQuery.Param.Basic

/-!
# SQL statements

* `Column` : what stands on one side of a comparison or in a list of columns;
* `Predicate` : a condition; `Table` : what a statement reads from; `Select` : a statement;
* `Logical` : the two ways to combine conditions.

The types refer to each other, since a column may be a whole statement. Equality (`beq`) is by
structure, with parameters compared as parameters.
-/

namespace PathQuery.Sql

inductive Logical where
  | and
  | or
  deriving DecidableEq, Repr, Inhabited

inductive Comparator where
  | eq
  | ne
  | lt
  | le
  | gt
  | ge
  /-- Membership in a list or in the rows of a statement. -/
  | isIn
  | like
  deriving DecidableEq, Repr

inductive Direction where
  | ascending
  | descending
  deriving DecidableEq, Repr

mutual

/-- A value in a statement. -/
inductive Column where
  /-- A column of a table, which is called by its name or its alias. -/
  | field (table name : String)
  | param (p : Param)
  | list (items : List Column)
  /-- The rows of a statement. -/
  | query (s : Select)
  | null
  | call (function : String) (argument : Column)

/-- A condition. -/
inductive Predicate where
  | const (value : Bool)
  | compare (op : Comparator) (left right : Column)
  | between (c low high : Column)
  /-- Text and columns written as they stand. -/
  | raw (fragments : List Fragment)
  | and (left right : Predicate)
  | or (left right : Predicate)
  | not (p : Predicate)

/-- A part of a condition that is written as it stands. -/
inductive Fragment where
  | text (s : String)
  | column (c : Column)

/-- A table, or tables joined from the left. -/
inductive Table where
  | named (name : String) (aliasName : Option String)
  | leftJoin (left right : Table) (on : Predicate)

structure OrderTerm where
  column : Column
  direction : Direction

/-- A statement; without columns it selects all of them. -/
structure Select where
  source : Table
  columns : List Column
  condition : Predicate
  order : Option (List OrderTerm)
  limit : Option Int64
  offset : Option Int64

end

/-! ## Equality -/

mutual

def Column.beq : Column → Column → Bool
  | .field t c, .field t' c' => t == t' && c == c'
  | .param p, .param p' => p == p'
  | .list cs, .list cs' => Column.beqList cs cs'
  | .query s, .query s' => Select.beq s s'
  | .null, .null => true
  | .call f c, .call f' c' => f == f' && Column.beq c c'
  | _, _ => false

def Column.beqList : List Column → List Column → Bool
  | [], [] => true
  | c :: cs, c' :: cs' => Column.beq c c' && Column.beqList cs cs'
  | _, _ => false

def Predicate.beq : Predicate → Predicate → Bool
  | .const b, .const b' => b == b'
  | .compare op l r, .compare op' l' r' => op == op' && Column.beq l l' && Column.beq r r'
  | .between c l h, .between c' l' h' => Column.beq c c' && Column.beq l l' && Column.beq h h'
  | .raw fs, .raw fs' => Fragment.beqList fs fs'
  | .and p q, .and p' q' => Predicate.beq p p' && Predicate.beq q q'
  | .or p q, .or p' q' => Predicate.beq p p' && Predicate.beq q q'
  | .not p, .not p' => Predicate.beq p p'
  | _, _ => false

def Fragment.beq : Fragment → Fragment → Bool
  | .text s, .text s' => s == s'
  | .column c, .column c' => Column.beq c c'
  | _, _ => false

def Fragment.beqList : List Fragment → List Fragment → Bool
  | [], [] => true
  | f :: fs, f' :: fs' => Fragment.beq f f' && Fragment.beqList fs fs'
  | _, _ => false

def Table.beq : Table → Table → Bool
  | .named n a, .named n' a' => n == n' && a == a'
  | .leftJoin l r p, .leftJoin l' r' p' => Table.beq l l' && Table.beq r r' && Predicate.beq p p'
  | _, _ => false

def OrderTerm.beq : OrderTerm → OrderTerm → Bool
  | ⟨c, d⟩, ⟨c', d'⟩ => Column.beq c c' && d == d'

def OrderTerm.beqList : List OrderTerm → List OrderTerm → Bool
  | [], [] => true
  | o :: os, o' :: os' => OrderTerm.beq o o' && OrderTerm.beqList os os'
  | _, _ => false

def OrderTerm.beqOption : Option (List OrderTerm) → Option (List OrderTerm) → Bool
  | none, none => true
  | some os, some os' => OrderTerm.beqList os os'
  | _, _ => false

def Select.beq : Select → Select → Bool
  | ⟨t, cs, p, o, l, f⟩, ⟨t', cs', p', o', l', f'⟩ =>
    Table.beq t t' && Column.beqList cs cs' && Predicate.beq p p' && OrderTerm.beqOption o o' &&
      l == l' && f == f'

end

instance : BEq Column := ⟨Column.beq⟩
instance : BEq Predicate := ⟨Predicate.beq⟩
instance : BEq Table := ⟨Table.beq⟩
instance : BEq Select := ⟨Select.beq⟩
instance : BEq OrderTerm := ⟨OrderTerm.beq⟩

end PathQuery.Sql
