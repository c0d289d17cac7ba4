import PathQuery.Error
import PathQuery.Geometry
import PathQuery.Sql.Simplify
import PathQuery.Text.Pieces

/-!
# Comparisons

`Target.compare` is the condition that a comparison puts on a column. There is none if the operand
is null (unless the operator tests the column itself) or if a range does not have exactly two ends.
-/

namespace PathQuery

open Sql (Column Predicate)

/-- What a comparison is about: the column, the field's name for messages, and its type if the
schema has the field. -/
structure Target where
  column : Column
  field : String
  type : Option FieldType

/-- Null is no element, a text is cut at its commas, and a single value is a list of one. -/
def Json.elements : Json → List Json
  | .array items => items.filter fun v => !v.isNull
  | .string s => (Text.split ',' s).map .string
  | .null => []
  | v => [v]

/-- Operators that are the negation of another. -/
def Operator.isNegated : Operator → Bool
  | .notContains => true
  | .notStartsWith => true
  | .notEndsWith => true
  | .notIn => true
  | .notBetween => true
  | _ => false

/-- A condition, negated for a negated operator. -/
def Operator.signed (op : Operator) (p : Predicate) : Predicate :=
  if op.isNegated then p.negate else p

/-- The pattern that a text operator looks for. -/
def Operator.pattern (op : Operator) (s : String) : String :=
  match op with
  | .startsWith => s ++ "%"
  | .notStartsWith => s ++ "%"
  | .endsWith => "%" ++ s
  | .notEndsWith => "%" ++ s
  | _ => "%" ++ s ++ "%"

namespace Target

def cast (t : Target) (op : Operator) (v : Json) : Except QueryError Column :=
  match castValue v t.type with
  | .ok p => .ok (.param p)
  | .error cause => .error (.invalid (.badOperand t.field op cause))

/-- The test of the column itself; the operand `false` asks for the opposite. -/
def nullness (t : Target) (op : Operator) (operand : Json) : Predicate :=
  let inverted :=
    match operand with
    | .bool false => true
    | _ => false
  match op, inverted with
  | .null, false => .compare .eq t.column .null
  | .null, true => .compare .ne t.column .null
  | .notNull, false => .compare .ne t.column .null
  | .notNull, true => .compare .eq t.column .null
  | .empty, false => .compare .eq t.column (.param (.text ""))
  | .empty, true => .compare .ne t.column (.param (.text ""))
  | _, false => .compare .ne t.column (.param (.text ""))
  | _, true => .compare .eq t.column (.param (.text ""))

def like (t : Target) (op : Operator) (operand : Json) : Except QueryError Predicate :=
  match Cast.text operand with
  | .ok s => .ok (op.signed (.compare .like t.column (.param (.text (op.pattern s)))))
  | .error cause => .error (.invalid (.badOperand t.field op cause))

/-- Membership in the elements of the operand; nothing is in an empty list. -/
def membership (t : Target) (op : Operator) (operand : Json) : Except QueryError Predicate :=
  match operand.elements with
  | [] => .ok (op.signed (.const false))
  | values => do
    return op.signed (.compare .isIn t.column (.list (← values.mapM (t.cast op))))

/-- The range between two elements. -/
def range (t : Target) (op : Operator) (operand : Json) : Except QueryError (Option Predicate) :=
  match operand.elements with
  | [low, high] => do
    let l ← t.cast op low
    let h ← t.cast op high
    return some (op.signed (.between t.column l h))
  | _ => .ok none

def geojson (t : Target) (op : Operator) (operand : Json) : Except QueryError Param :=
  match operand with
  | .string s => .ok (.text s)
  | .object _ => .ok (.text operand.compact)
  | _ => .error (.invalid (.badGeometry t.field op operand))

/-- The condition of an operator that has an operand or needs none. -/
def compareWith (t : Target) (geometry : Geometry) (op : Operator) (operand : Json) :
    Except QueryError (Option Predicate) :=
  match op with
  | .null | .notNull | .empty | .notEmpty => .ok (some (t.nullness op operand))
  | .eq => do return some (.equals t.column (← t.cast op operand))
  | .neq => do return some (.differs t.column (← t.cast op operand))
  | .gt => do return some (.compare .gt t.column (← t.cast op operand))
  | .gte => do return some (.compare .ge t.column (← t.cast op operand))
  | .lt => do return some (.compare .lt t.column (← t.cast op operand))
  | .lte => do return some (.compare .le t.column (← t.cast op operand))
  | .contains | .notContains | .startsWith | .notStartsWith | .endsWith | .notEndsWith => do
    return some (← t.like op operand)
  | .isIn | .notIn => do return some (← t.membership op operand)
  | .between | .notBetween => t.range op operand
  | .intersects => do return some (geometry.intersects t.column (← t.geojson op operand))
  | .notIntersects => do return some (geometry.notIntersects t.column (← t.geojson op operand))
  | .intersectsBox => do return some (geometry.intersectsBox t.column (← t.geojson op operand))
  | .notIntersectsBox => do return some (geometry.notIntersectsBox t.column (← t.geojson op operand))

/-- The condition that a comparison puts on the column, if it puts one. -/
def compare (t : Target) (geometry : Geometry) (op : Operator) (operand : Json) :
    Except QueryError (Option Predicate) :=
  if operand.isNull && !op.isNullness then .ok none else t.compareWith geometry op operand

end Target

end PathQuery
