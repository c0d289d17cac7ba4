import PathQuery.Sql.Draft

/-!
# What statements mean

Rows map the names of columns to cells, which may be null, and a database gives the rows of each
table. Under an environment, which holds a row for the name of every table in sight,

* `Column.cells` are the cells of a column: one, or those of a list or of the rows of a statement;
* `Predicate.truth` is the truth of a condition, which null makes unknown;
* `Table.rows` are the environments with a row for each table; a left join keeps a row without a
  match and joins a row of nulls to it;
* `Select.rows` are those of its tables that the condition is true of, in order and within the
  window.

What values parameters stand for and how they compare is left to a `Dialect`.
-/

namespace PathQuery.Sql

inductive Truth where
  | false
  | unknown
  | true
  deriving DecidableEq, Repr

namespace Truth

def ofBool (b : Bool) : Truth := if b then .true else .false

def and : Truth → Truth → Truth
  | .false, _ => .false
  | _, .false => .false
  | .true, b => b
  | .unknown, _ => .unknown

def or : Truth → Truth → Truth
  | .true, _ => .true
  | _, .true => .true
  | .false, b => b
  | .unknown, _ => .unknown

def not : Truth → Truth
  | .false => .true
  | .unknown => .unknown
  | .true => .false

end Truth

/-- A cell for each column; null is no value. -/
abbrev Row (V : Type) := String → Option V

/-- A row for each table in sight. -/
abbrev Env (V : Type) := String → Row V

abbrev Database (V : Type) := String → List (Row V)

/-- The row of an outer join without a match. -/
def Row.null {V : Type} : Row V := fun _ => none

/-- The environment with a row for one more table. -/
def Env.set {V : Type} (e : Env V) (table : String) (r : Row V) : Env V :=
  fun name => if name = table then r else e name

theorem Env.set_self {V : Type} (e : Env V) (table : String) (r : Row V) : e.set table r table = r :=
  if_pos rfl

theorem Env.set_of_ne {V : Type} (e : Env V) {table name : String} (r : Row V) (h : name ≠ table) :
    e.set table r name = e name :=
  if_neg h

/-- How a database reads parameters and compares values. -/
structure Dialect (V : Type) where
  value : Param → V
  /-- Equal parameters stand for one value. -/
  value_eq : ∀ p q : Param, (p == q) = true → value p = value q
  less : V → V → Bool
  like : V → V → Bool
  call : String → Option V → Option V
  /-- The truth of a condition that is written as it stands, with the cells of its columns. -/
  raw : List (String ⊕ List (Option V)) → Truth

section

variable {V : Type} [DecidableEq V]

/-- A test of two values; null makes it unknown. -/
def Truth.both (test : V → V → Bool) : Option V → Option V → Truth
  | some a, some b => .ofBool (test a b)
  | _, _ => .unknown

/-- Whether a cell is one of some. -/
def Truth.among (cell : Option V) : List (Option V) → Truth
  | [] => .false
  | c :: cs => (Truth.both (fun a b => a == b) cell c).or (Truth.among cell cs)

def single : List (Option V) → Option V
  | [c] => c
  | _ => none

namespace Dialect

variable (d : Dialect V)

/-- The truth of a comparison; one of equality with `NULL` itself tests for null. -/
def compare (op : Comparator) (null : Bool) (left right : List (Option V)) : Truth :=
  match op, null with
  | .eq, true => .ofBool (single left).isNone
  | .ne, true => .ofBool (single left).isSome
  | .eq, false => .both (fun a b => a == b) (single left) (single right)
  | .ne, false => .both (fun a b => a != b) (single left) (single right)
  | .lt, _ => .both d.less (single left) (single right)
  | .le, _ => .both (fun a b => !d.less b a) (single left) (single right)
  | .gt, _ => .both (fun a b => d.less b a) (single left) (single right)
  | .ge, _ => .both (fun a b => !d.less a b) (single left) (single right)
  | .isIn, _ => .among (single left) right
  | .like, _ => .both d.like (single left) (single right)

/-- Whether a cell goes before another in ascending order; nulls go last. -/
def before : Option V → Option V → Bool
  | some a, some b => d.less a b
  | some _, none => true
  | none, _ => false

/-- Whether a row with some keys may stand before one with others. -/
def inOrder : List (Direction × Option V) → List (Direction × Option V) → Bool
  | (.ascending, a) :: ks, (_, b) :: ls => d.before a b || !d.before b a && inOrder ks ls
  | (.descending, a) :: ks, (_, b) :: ls => d.before b a || !d.before a b && inOrder ks ls
  | _, _ => true

end Dialect

def window {α : Type} (limit offset : Option Int64) (rows : List α) : List α :=
  let rest := rows.drop ((offset.map fun n => n.toInt.toNat).getD 0)
  match limit with
  | some n => rest.take n.toInt.toNat
  | none => rest

def Table.nulls {V : Type} (e : Env V) : Table → Env V
  | .named name aliasName => e.set (aliasName.getD name) .null
  | .leftJoin left right _ => right.nulls (left.nulls e)

def Column.isNull : Column → Bool
  | .null => true
  | _ => false

variable (d : Dialect V) (db : Database V)

mutual

def Column.cells (e : Env V) : Column → List (Option V)
  | .field table name => [e table name]
  | .param p => [some (d.value p)]
  | .list items => Column.allCells e items
  | .query s => (s.results e).flatMap Prod.snd
  | .null => [none]
  | .call function argument => (argument.cells e).map (d.call function)
  termination_by structural x => x

def Column.allCells (e : Env V) : List Column → List (Option V)
  | [] => []
  | c :: cs => c.cells e ++ Column.allCells e cs
  termination_by structural x => x

def Predicate.truth (e : Env V) : Predicate → Truth
  | .const value => .ofBool value
  | .compare op left right => d.compare op right.isNull (left.cells e) (right.cells e)
  | .between c low high =>
    (d.compare .ge false (c.cells e) (low.cells e)).and (d.compare .le false (c.cells e) (high.cells e))
  | .raw fragments => d.raw (Fragment.parts e fragments)
  | .and p q => (p.truth e).and (q.truth e)
  | .or p q => (p.truth e).or (q.truth e)
  | .not p => (p.truth e).not
  termination_by structural x => x

def Fragment.parts (e : Env V) : List Fragment → List (String ⊕ List (Option V))
  | [] => []
  | .text s :: rest => .inl s :: Fragment.parts e rest
  | .column c :: rest => .inr (c.cells e) :: Fragment.parts e rest
  termination_by structural x => x

def Table.rows (e : Env V) : Table → List (Env V)
  | .named name aliasName => (db name).map fun r => e.set (aliasName.getD name) r
  | .leftJoin left right on => (left.rows e).flatMap fun l =>
    match (right.rows l).filter fun r => on.truth r = .true with
    | [] => [right.nulls l]
    | matching => matching
  termination_by structural x => x

def OrderTerm.key (e : Env V) : OrderTerm → Direction × Option V
  | ⟨c, direction⟩ => (direction, single (c.cells e))
  termination_by structural x => x

def OrderTerm.keys (e : Env V) : List OrderTerm → List (Direction × Option V)
  | [] => []
  | o :: os => o.key e :: OrderTerm.keys e os
  termination_by structural x => x

def OrderTerm.sort (rows : List (Env V)) : Option (List OrderTerm) → List (Env V)
  | none => rows
  | some os => rows.mergeSort fun a b => d.inOrder (OrderTerm.keys a os) (OrderTerm.keys b os)
  termination_by structural x => x

/-- The rows of a statement, each with the cells of the columns that it selects. -/
def Select.results (e : Env V) : Select → List (Env V × List (Option V))
  | ⟨source, columns, condition, order, limit, offset⟩ =>
    (window limit offset
      (OrderTerm.sort ((source.rows e).filter fun r => condition.truth r = .true) order)).map
        fun r => (r, Column.allCells r columns)
  termination_by structural x => x

end

/-- The environments of a statement's rows. -/
def Select.rows (e : Env V) (s : Select) : List (Env V) := (s.results d db e).map Prod.fst

end

/-- The dialect of the examples: values are texts, compared as they stand. -/
def Dialect.words : Dialect String where
  value
    | .text s => s
    | _ => ""
  value_eq p q h := by
    cases p with
    | text a =>
      cases q with
      | text b => exact beq_iff_eq.1 h
      | _ => exact absurd h Bool.false_ne_true
    | _ =>
      cases q with
      | text b => exact absurd h Bool.false_ne_true
      | _ => rfl
  less a b := a < b
  like a b := a == b
  call _ cell := cell
  raw _ := .unknown

end PathQuery.Sql
