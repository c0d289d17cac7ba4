import PathQuery.Proofs.Compile.Test
import PathQuery.Proofs.Sql.Truth

/-!
# What filters mean

The meaning of a filter for a row of a collection, without joins and statements inside statements.

* `Database.row` : the row that a key refers to;
* `Hop.referenced` : the row that a hop to one row leads to;
* `Filter.truths` : the truths of what a filter asks of a row, in order. The conditions below a
  group are combined by the group's connective, whatever lies between; a hop to one row asks the
  same of the row it leads to, and a first hop to many rows asks whether one of them has all that is
  below;
* `Filter.truth` : all of that together.
-/

namespace PathQuery

open Sql (Truth Row Database Dialect Logical)

variable {V : Type} [DecidableEq V]

/-- The row of a table with a value in a column, all null if there is none. -/
def Sql.Database.row (db : Database V) (table column : String) (cell : Option V) : Row V :=
  match cell with
  | some v => ((db table).find? fun r => r column = some v).getD .null
  | none => .null

variable (setting : Setting) (d : Dialect V) (db : Database V)

/-- The row of `target` that a hop leads to; a hop to any of several collections leads to a row only
if that row's collection is the one that the segment is written with. -/
def Hop.referenced (h : Hop) (segment : Segment) (target : String) (row : Row V) : Row V :=
  match setting.schema.primaryKey target with
  | .error _ => .null
  | .ok key =>
    match h.kind, h.collectionField? with
    | .manyToOne, _ => db.row target key (row h.relation.field)
    | .manyToAny, some collectionField =>
      if row collectionField = some (d.value (.text (segment.scope.getD ""))) then
        db.row target key (row h.relation.field)
      else .null
    | _, _ => .null

def comparisonTruths (c : String) (row : Row V) (field : String) (f : Filter) : List Truth :=
  match setting.fieldType c field with
  | .error _ => []
  | .ok type =>
    match (Target.of field field type c).conditions setting.geometry (Filter.comparisons f) with
    | .error _ => []
    | .ok ps => ps.map fun p => p.truth d db fun _ => row

/-- Whether a row is one of the many that a hop leads to from a row with this key. -/
def Hop.isRelated (h : Hop) (cell : Option V) (r : Row V) : Bool :=
  cell.isSome && r h.relation.field == cell

mutual

/-- The truths of a node for a row of `c`; `first` says that no hop leads there. -/
def Node.truths (first : Bool) (c : String) (row : Row V) : Node → List Truth
  | .comparison _ _ => []
  | .group op children =>
    if Filter.matchesAll op children then [.true]
    else (op.total (Filter.childTruths first c row children)).toList
  | .field segment nested =>
    if Filter.isComparisons nested then comparisonTruths setting d db c row segment.field nested
    else
      match setting.schema.hop? c segment.field with
      | none => []
      | some hop =>
        if hop.kind = .oneToMany ∧ first = true then
          match setting.schema.primaryKey c with
          | .error _ => []
          | .ok key =>
            let many := (db hop.relation.collection).filter (hop.isRelated (row key))
            [.ofBool (many.any fun r => ((Logical.total .and
              (Filter.truths false hop.relation.collection r nested)).getD .true) == .true)]
        else
          match hop.target setting.schema segment with
          | .error _ => []
          | .ok target =>
            Filter.truths false target (hop.referenced setting d db segment target row) nested

def Filter.truths (first : Bool) (c : String) (row : Row V) : List Node → List Truth
  | [] => []
  | node :: rest => Node.truths first c row node ++ Filter.truths first c row rest

def Filter.childTruths (first : Bool) (c : String) (row : Row V) : List (List Node) → List Truth
  | [] => []
  | child :: rest => Filter.truths first c row child ++ Filter.childTruths first c row rest

end

/-- The truth of a filter for a row of a collection. -/
def Filter.truth (c : String) (row : Row V) (f : Filter) : Truth :=
  (Logical.total .and (Filter.truths setting d db true c row f)).getD .true

variable {setting d db}

theorem Filter.truths_append (first : Bool) (c : String) (row : Row V) (f g : Filter) :
    truths setting d db first c row (f ++ g) =
      truths setting d db first c row f ++ truths setting d db first c row g := by
  induction f with
  | nil => rw [truths]; rfl
  | cons node f ih => rw [List.cons_append, truths, truths, ih, List.append_assoc]

theorem Filter.childTruths_eq (first : Bool) (c : String) (row : Row V) (fs : List Filter) :
    childTruths setting d db first c row fs = truths setting d db first c row fs.flatten := by
  induction fs with
  | nil => rw [childTruths, List.flatten_nil, truths]
  | cons f fs ih => rw [childTruths, ih, List.flatten_cons, truths_append]

end PathQuery
