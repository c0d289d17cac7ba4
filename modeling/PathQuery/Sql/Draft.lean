import PathQuery.Sql.Render
import PathQuery.Sql.Simplify

/-!
# Drafts of statements

A draft collects the parts of a statement: selected columns, joins, a condition, an order and a
window of rows. `Draft.toSelect` joins the tables from the left in the order they were added.
-/

namespace PathQuery.Sql

/-- A table to be joined under an alias. -/
structure Join where
  table : String
  aliasName : String
  on : Predicate

/-- A statement under construction. -/
structure Draft where
  table : String
  columns : List Column
  joins : List Join
  condition : Option Predicate
  order : List OrderTerm
  limit : Option Int64
  offset : Option Int64

namespace Draft

def new (table : String) : Draft := ⟨table, [], [], none, [], none, none⟩

def withColumns (d : Draft) (columns : List Column) : Draft := { d with columns := columns }

def leftJoin (d : Draft) (j : Join) : Draft := { d with joins := d.joins ++ [j] }

def hasJoin (d : Draft) (aliasName : String) : Bool := d.joins.any fun j => j.aliasName == aliasName

/-- Adds a join unless its alias is there already. -/
def addJoin (d : Draft) (j : Join) : Draft := if d.hasJoin j.aliasName then d else d.leftJoin j

/-- Adds a condition; the first one becomes the condition as it is. -/
def restrict (d : Draft) (op : Logical) (p : Predicate) : Draft :=
  { d with condition := some (op.extend d.condition p) }

def andWhere (d : Draft) (p : Predicate) : Draft := d.restrict .and p

def orWhere (d : Draft) (p : Predicate) : Draft := d.restrict .or p

def orderBy (d : Draft) (o : OrderTerm) : Draft := { d with order := d.order ++ [o] }

def withLimit (d : Draft) (limit : Option Int64) : Draft := { d with limit := limit }

def withOffset (d : Draft) (offset : Option Int64) : Draft := { d with offset := offset }

/-- The table with the joins behind it. -/
def source (d : Draft) : Table :=
  d.joins.foldl (fun left j => .leftJoin left (.named j.table (some j.aliasName)) j.on)
    (.named d.table none)

def toSelect (d : Draft) : Select where
  source := d.source
  columns := d.columns
  condition := d.condition.getD (.const true)
  order := if d.order.isEmpty then none else some d.order
  limit := d.limit
  offset := d.offset

def toSql (d : Draft) : SqlText := d.toSelect.toSql

def beqJoin (a b : Join) : Bool := a.table == b.table && a.aliasName == b.aliasName && a.on == b.on

def beq (a b : Draft) : Bool :=
  a.table == b.table && a.columns == b.columns && a.joins.length == b.joins.length &&
    (a.joins.zip b.joins).all (fun p => beqJoin p.1 p.2) && a.condition == b.condition &&
    a.order == b.order && a.limit == b.limit && a.offset == b.offset

instance : BEq Draft := ⟨beq⟩

end Draft

end PathQuery.Sql
