import PathQuery.Alias.Map
import PathQuery.Config
import PathQuery.Filter.Basic
import PathQuery.Geometry
import PathQuery.Schema.Hop

/-!
# Passes

A filter is compiled in passes: one over the collection of the query, and one over the related
collection of each sub-select. `Setting` is what all passes share. A pass walks the filter twice,
once for its joins and once for its conditions, and both walks ask the questions answered here: how
long a path is, and whether a hop is joined or left to a sub-select.
-/

namespace PathQuery

/-- What all passes share. -/
structure Setting where
  schema : Schema
  config : Config
  geometry : Geometry
  source : AliasSource

mutual

/-- The hops of the chain that starts with a field above the node alone. -/
def Node.chainHops : Node → Nat
  | .field _ nested => 1 + Filter.chainHops nested
  | .group _ _ => 1
  | .comparison _ _ => 0

/-- The hops of the chain that starts with a field above `f`: while there is a single field below,
the chain goes on, and a field above comparisons alone is a column and no hop. -/
def Filter.chainHops : List Node → Nat
  | [node] => Node.chainHops node
  | f => if Filter.isComparisons f then 0 else 1

end

/-- Refuses paths longer than the configuration allows. -/
def Config.checkDepth (config : Config) (depth : Nat) : Except QueryError Unit :=
  if config.maxRelationalDepth < depth then
    .error (.invalid (.tooDeep depth config.maxRelationalDepth))
  else .ok ()

/-- Whether a hop is left to a sub-select: it leads to many rows and is the first hop of a pass that
is not itself the body of a sub-select. -/
def Hop.isDeferred (h : Hop) (subquery : Bool) (path : Path) : Bool :=
  h.kind == .oneToMany && path.isEmpty && !subquery

end PathQuery
