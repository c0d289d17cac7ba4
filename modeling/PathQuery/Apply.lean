import PathQuery.Compile.Conditions
import PathQuery.Paging
import PathQuery.Query
import PathQuery.Search
import PathQuery.Sorting

/-!
# Applying queries to drafts

* `Setting.compileQuery` : the parts of a query, compiled in order: sort, limit, offset, filter,
  search;
* `Setting.applyQuery`, `Setting.applyFilter`, `Setting.applySearch` : the draft with a query, a
  filter or a search added, or the reason why it cannot be. Nothing is added unless all of it
  compiles.

The number of tokens drawn from the alias source goes in and comes out, so that passes over one
draft draw different aliases.
-/

namespace PathQuery

open Sql (Predicate Draft OrderTerm)

structure CompiledQuery where
  order : List OrderTerm
  limit : Option Int64
  offset : Option Int64
  filter : Option Compiled
  search : Option Predicate

/-- Adds an order, replaces the window where there is one, and adds the filter and the search. -/
def CompiledQuery.apply (c : CompiledQuery) (d : Draft) : Draft :=
  let d := c.order.foldl Draft.orderBy d
  let d := if c.limit.isSome then d.withLimit c.limit else d
  let d := if c.offset.isSome then d.withOffset c.offset else d
  let d :=
    match c.filter with
    | some f => f.apply d
    | none => d
  match c.search with
  | some p => d.andWhere p
  | none => d

namespace Setting

/-- The default configuration and PostGIS, with aliases counted up from an unlikely word. -/
def default (s : Schema) : Setting := ⟨s, .default, .postgis, .letters 7485998⟩

variable (setting : Setting)

def compileFilter? (subquery : Bool) (collection : String) (f : Option Filter) (draws : Nat) :
    Except QueryError (Option Compiled × Nat) :=
  match f with
  | none => .ok (none, draws)
  | some f => do
    let (compiled, draws) ← compileFilter setting subquery collection f draws
    return (some compiled, draws)

def compileSearch? (collection : String) (term : Option String) :
    Except QueryError (Option Predicate) :=
  match term with
  | none => .ok none
  | some term =>
    if term = "" then .ok none
    else do return some (← compileSearch setting.schema collection term)

/-- The parts of a query over a collection, and the tokens drawn after it. -/
def compileQuery (collection : String) (q : Query) (subquery : Bool) (draws : Nat) :
    Except QueryError (CompiledQuery × Nat) := do
  let order ← compileSort collection (q.sort.getD [])
  let limit ← compileLimit setting.config q.limit
  let offset ← compileOffset q.offset q.page q.limit
  let (filter, draws) ← setting.compileFilter? subquery collection q.filter draws
  let search ← setting.compileSearch? collection q.search
  return (⟨order, limit, offset, filter, search⟩, draws)

def applyQuery (d : Draft) (collection : String) (q : Query) (subquery : Bool) (draws : Nat) :
    Except QueryError (Draft × Nat) := do
  let (compiled, draws) ← setting.compileQuery collection q subquery draws
  return (compiled.apply d, draws)

def applyFilter (d : Draft) (f : Filter) (collection : String) (subquery : Bool) (draws : Nat) :
    Except QueryError (Draft × Nat) := do
  let (compiled, draws) ← compileFilter setting subquery collection f draws
  return (compiled.apply d, draws)

def applySearch (d : Draft) (term collection : String) : Except QueryError Draft := do
  return d.andWhere (← compileSearch setting.schema collection term)

end Setting

def Schema.ofText (text : String) : Except QueryError Schema :=
  match Schema.read text with
  | .ok s => .ok s
  | .error cause => .error (.schema cause)

end PathQuery
