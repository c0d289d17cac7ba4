import PathQuery.Compile.Pass
import PathQuery.Sql.Draft

/-!
# The joins of a pass

`planJoins` walks a filter and joins, once for each path, the tables that its hops lead to. Groups
that match everything are skipped, a field that is no relation ends its path, and a deferred hop is
left out with all below it.
-/

namespace PathQuery

open Sql (Column Predicate Join)

/-- The joins planned so far, the aliases of their paths, and the tokens drawn. -/
structure Plan where
  aliases : AliasMap
  joins : List Join
  draws : Nat

/-- The condition that joins the target of a hop, under `aliasName`, to the table it starts from. -/
def Hop.condition (h : Hop) (s : Schema) (segment : Segment)
    (collection table target aliasName : String) : Except QueryError Predicate :=
  match h.kind with
  | .manyToOne => do
    return .compare .eq (.field table h.relation.field) (.field aliasName (← s.primaryKey target))
  | .manyToAny =>
    match h.collectionField? with
    | none => .error (.inconsistent (.noCollectionField h.relation.collection h.relation.field))
    | some collectionField => do
      return .conj
        (.compare .eq (.field table h.relation.field) (.field aliasName (← s.primaryKey target)))
        (.compare .eq (.field table collectionField) (.param (.text (segment.scope.getD ""))))
  | .oneToMany => do
    return .compare .eq (.field table (← s.primaryKey collection)) (.field aliasName h.relation.field)

namespace Plan

/-- A plan before the first join; the pass's collection is no alias. -/
def start (collection : String) (draws : Nat) : Plan := ⟨AliasMap.empty.reserve collection, [], draws⟩

def hasJoin (p : Plan) (aliasName : String) : Bool := p.joins.any fun j => j.aliasName == aliasName

/-- Joins the target of a hop unless it is joined already; the target and the plan after that. -/
def addHop (p : Plan) (setting : Setting) (hop : Hop) (segment : Segment) (collection : String)
    (path : Path) : Except QueryError (String × Plan) := do
  let table := p.aliases.tableFor path collection
  let target ← hop.target setting.schema segment
  let (aliasName, aliases, draws) :=
    p.aliases.allocate setting.source (path ++ [segment.key]) p.draws
  if p.hasJoin aliasName then return (target, ⟨aliases, p.joins, draws⟩)
  else
    let on ← hop.condition setting.schema segment collection table target aliasName
    return (target, ⟨aliases, p.joins ++ [⟨target, aliasName, on⟩], draws⟩)

end Plan

variable (setting : Setting) (subquery : Bool)

mutual

/-- The plan with the joins of a node about `collection`, which `path` leads to. -/
def planNode (collection : String) (path : Path) : Node → Plan → Except QueryError Plan
  | .comparison _ _, plan => .ok plan
  | .group op children, plan =>
    if Filter.matchesAll op children then .ok plan else planChildren collection path children plan
  | .field segment nested, plan =>
    if Filter.isComparisons nested then .ok plan
    else do
      setting.config.checkDepth (path.length + Filter.chainHops nested)
      match setting.schema.hop? collection segment.field with
      | none => return plan
      | some hop =>
        if hop.isDeferred subquery path then return plan
        else
          let (target, plan) ← plan.addHop setting hop segment collection path
          planNodes target (path ++ [segment.key]) nested plan

def planNodes (collection : String) (path : Path) : List Node → Plan → Except QueryError Plan
  | [], plan => .ok plan
  | node :: rest, plan => do
    let plan ← planNode collection path node plan
    planNodes collection path rest plan

def planChildren (collection : String) (path : Path) :
    List (List Node) → Plan → Except QueryError Plan
  | [], plan => .ok plan
  | child :: rest, plan => do
    let plan ← planNodes collection path child plan
    planChildren collection path rest plan

end

/-- The joins of a pass over `collection`, after `draws` tokens were drawn. -/
def planJoins (collection : String) (f : Filter) (draws : Nat) : Except QueryError Plan :=
  planNodes setting subquery collection [] f (Plan.start collection draws)

end PathQuery
