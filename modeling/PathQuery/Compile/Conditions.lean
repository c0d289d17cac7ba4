import PathQuery.Comparison
import PathQuery.Compile.Joins

/-!
# The conditions of a pass

`conditions` walks a filter and gives the conditions that must all hold, naming each column by the
alias that the joins gave to its path. A deferred hop becomes a condition on the primary key: it is
among the foreign keys that a sub-select finds, whose body is compiled in a pass of its own.

`compileFilter` is a whole pass: its joins and its condition, which `Compiled.apply` puts into a
draft.
-/

namespace PathQuery

open Sql (Column Predicate Join Draft)

structure Compiled where
  joins : List Join
  condition : Option Predicate

/-- Adds the joins that are not there yet, and the condition. -/
def Compiled.apply (c : Compiled) (d : Draft) : Draft :=
  let joined := c.joins.foldl Draft.addJoin d
  match c.condition with
  | some p => joined.andWhere p
  | none => joined

/-- The rows of `related` that a pass lets through, as their foreign keys. -/
def Compiled.foreignKeys (c : Compiled) (related foreignKey : String) : Column :=
  .query (c.apply ((Draft.new related).withColumns [.field related foreignKey])).toSelect

/-- What a walk over the filter knows of its pass. -/
structure Pass where
  subquery : Bool
  aliases : AliasMap

/-- The type of a field, none if the schema does not have it and need not. -/
def Setting.fieldType (setting : Setting) (collection field : String) :
    Except QueryError (Option FieldType) :=
  match setting.schema.field? collection field with
  | some f => .ok (some f.type)
  | none =>
    if setting.config.strictFields then .error (.invalid (.unknownField field collection))
    else .ok none

/-- The hop of a segment that must be one. -/
def Setting.hop (setting : Setting) (collection : String) (segment : Segment) :
    Except QueryError Hop :=
  match setting.schema.hop? collection segment.field with
  | some hop => .ok hop
  | none => .error (.invalid (.notRelational collection segment.field))

def Target.conditions (t : Target) (geometry : Geometry) :
    List (Operator × Json) → Except QueryError (List Predicate)
  | [] => .ok []
  | (op, operand) :: rest => do
    let p ← t.compare geometry op operand
    let ps ← conditions t geometry rest
    return p.toList ++ ps

variable (setting : Setting)

/-- The conditions of the comparisons below a field of `collection`, which `path` leads to. -/
def columnConditions (pass : Pass) (collection : String) (path : Path) (field : String)
    (f : Filter) : Except QueryError (List Predicate) := do
  let type ← setting.fieldType collection field
  let column := Column.field (pass.aliases.tableFor path collection) field
  Target.conditions ⟨column, field, type⟩ setting.geometry (Filter.comparisons f)

mutual

/-- The conditions of a node about `collection`, which `path` leads to, and the tokens drawn after
it. -/
def nodeConditions (pass : Pass) (collection : String) (path : Path) :
    Node → (draws : Nat) → Except QueryError (List Predicate × Nat)
  | .comparison op _, _ => .error (.invalid (.filter (.operatorWithoutField op)))
  | .group op children, draws =>
    if Filter.matchesAll op children then .ok ([.const true], draws)
    else do
      let (ps, draws) ← childConditions pass collection path children draws
      return ((op.all ps).toList, draws)
  | .field segment nested, draws => do
    setting.config.checkDepth (path.length + Filter.chainHops nested)
    if Filter.isComparisons nested then
      return (← columnConditions setting pass collection path segment.field nested, draws)
    else
      let hop ← setting.hop collection segment
      if hop.isDeferred pass.subquery path then
        let key ← setting.schema.primaryKey collection
        let related := hop.relation.collection
        let plan ← planJoins setting true related nested draws
        let (ps, draws) ← conditions ⟨true, plan.aliases⟩ related [] nested plan.draws
        let body : Compiled := ⟨plan.joins, Sql.Logical.all .and ps⟩
        let keys := body.foreignKeys related hop.relation.field
        return ([.compare .isIn (.field collection key) keys], draws)
      else
        let target ← hop.target setting.schema segment
        conditions pass target (path ++ [segment.key]) nested draws

def conditions (pass : Pass) (collection : String) (path : Path) :
    List Node → (draws : Nat) → Except QueryError (List Predicate × Nat)
  | [], draws => .ok ([], draws)
  | node :: rest, draws => do
    let (ps, draws) ← nodeConditions pass collection path node draws
    let (qs, draws) ← conditions pass collection path rest draws
    return (ps ++ qs, draws)

def childConditions (pass : Pass) (collection : String) (path : Path) :
    List (List Node) → (draws : Nat) → Except QueryError (List Predicate × Nat)
  | [], draws => .ok ([], draws)
  | child :: rest, draws => do
    let (ps, draws) ← conditions pass collection path child draws
    let (qs, draws) ← childConditions pass collection path rest draws
    return (ps ++ qs, draws)

end

/-- A pass over `collection`: its joins and its condition, and the tokens drawn after it. -/
def compileFilter (subquery : Bool) (collection : String) (f : Filter) (draws : Nat) :
    Except QueryError (Compiled × Nat) := do
  let plan ← planJoins setting subquery collection f draws
  let (ps, draws) ← conditions setting ⟨subquery, plan.aliases⟩ collection [] f plan.draws
  return (⟨plan.joins, Sql.Logical.all .and ps⟩, draws)

end PathQuery
