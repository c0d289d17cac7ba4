import PathQuery.Sql.Basic

/-!
# Building conditions

* `Predicate.equals`, `Predicate.differs` : comparison of two columns, decided at once where both
  are the same or both are parameters;
* `Predicate.conj`, `Predicate.disj`, `Predicate.negate` : the connectives, which leave out
  constants, repeated operands and double negation;
* `Group` : conditions combined one after the other, from the left.
-/

namespace PathQuery.Sql

/-- Whether two parameters are equal; none if one of the columns is no parameter. -/
def Column.sameParam? : Column → Column → Option Bool
  | .param p, .param q => some (p == q)
  | _, _ => none

namespace Predicate

def equals (l r : Column) : Predicate :=
  if l == r then .const true
  else if l.sameParam? r = some false then .const false
  else .compare .eq l r

def negate : Predicate → Predicate
  | .const b => .const !b
  | .compare .eq l r => .compare .ne l r
  | .compare .ne l r => .compare .eq l r
  | .not p => p
  | p => .not p

def differs (l r : Column) : Predicate := negate (equals l r)

def conj : Predicate → Predicate → Predicate
  | .const false, _ => .const false
  | _, .const false => .const false
  | .const true, q => q
  | p, .const true => p
  | p, q => if p == q then p else .and p q

def disj : Predicate → Predicate → Predicate
  | .const true, _ => .const true
  | _, .const true => .const true
  | .const false, q => q
  | p, .const false => p
  | p, q => if p == q then p else .or p q

end Predicate

def Logical.combine : Logical → Predicate → Predicate → Predicate
  | .and => Predicate.conj
  | .or => Predicate.disj

/-- Adds a condition to what there is; the first one stands as it is. -/
def Logical.extend (op : Logical) (existing : Option Predicate) (p : Predicate) : Predicate :=
  match existing with
  | none => p
  | some q => op.combine q p

structure Group where
  logical : Logical
  condition : Option Predicate

namespace Group

def new (logical : Logical) : Group := ⟨logical, none⟩

def push (g : Group) (p : Predicate) : Group := { g with condition := some (g.logical.extend g.condition p) }

def isEmpty (g : Group) : Bool := g.condition.isNone

def ofList (logical : Logical) (ps : List Predicate) : Group := ps.foldl push (new logical)

end Group

/-- The conditions under one connective, none if there are none. -/
def Logical.all (op : Logical) (ps : List Predicate) : Option Predicate := (Group.ofList op ps).condition

end PathQuery.Sql
