import PathQuery.Alias.Map
import PathQuery.Filter.Basic
import PathQuery.Schema.Hop

/-!
# The paths of a filter

* `Filter.hopPaths` : the hops that lead from the top of a filter to the other side of each relation
  in it, in the order of a walk, as often as the filter has them;
* `Schema.destination?` : the collection that hops lead to;
* `Schema.visits` : the paths of the hops that a pass over a collection goes along.
-/

namespace PathQuery

mutual

/-- The hops of a node: each field that is no column, behind the hops above it. A group that matches
everything has none. -/
def Node.hopPaths : Node → List (List Segment)
  | .comparison _ _ => []
  | .group op children => if Filter.matchesAll op children then [] else Filter.childHopPaths children
  | .field segment nested =>
    if Filter.isComparisons nested then []
    else [segment] :: (Filter.hopPaths nested).map fun hops => segment :: hops

def Filter.hopPaths : List Node → List (List Segment)
  | [] => []
  | node :: rest => Node.hopPaths node ++ Filter.hopPaths rest

def Filter.childHopPaths : List (List Node) → List (List Segment)
  | [] => []
  | child :: rest => Filter.hopPaths child ++ Filter.childHopPaths rest

end

namespace Schema

/-- The collection that hops lead to from another, if each of them is a relation that leads on. -/
def destination? (s : Schema) : String → List Segment → Option String
  | c, [] => some c
  | c, segment :: rest =>
    match s.hop? c segment.field with
    | none => none
    | some hop =>
      match hop.target s segment with
      | .error _ => none
      | .ok target => s.destination? target rest

/-- Whether the first of some hops leads to many rows. -/
def startsMany (s : Schema) (c : String) : List Segment → Bool
  | [] => false
  | segment :: _ =>
    match s.hop? c segment.field with
    | none => false
    | some hop => hop.kind == .oneToMany

/-- Whether a pass goes along hops from a collection: they lead somewhere, and where hops to many
rows are left to others if they come `first`, the first one is none of these. -/
def goesAlong (s : Schema) (first : Bool) (c : String) (hops : List Segment) : Bool :=
  (s.destination? c hops).isSome && !(first && s.startsMany c hops)

/-- The paths that a pass over a collection visits, in order. -/
def visits (s : Schema) (first : Bool) (c : String) (f : Filter) : List Path :=
  ((Filter.hopPaths f).filter (s.goesAlong first c)).map fun hops => hops.map Segment.key

end Schema

/-! ## Hops -/

namespace Filter

theorem hopPaths_append (f g : Filter) : hopPaths (f ++ g) = hopPaths f ++ hopPaths g := by
  induction f with
  | nil => rfl
  | cons node f ih => rw [List.cons_append, hopPaths, hopPaths, ih, List.append_assoc]

/-- The children of a group count as one filter. -/
theorem childHopPaths_eq (fs : List Filter) : childHopPaths fs = hopPaths fs.flatten := by
  induction fs with
  | nil => rfl
  | cons f fs ih => rw [childHopPaths, ih, List.flatten_cons, hopPaths_append]

theorem hopPaths_field {segment : Segment} {nested : Filter} (hc : isComparisons nested = false) :
    Node.hopPaths (.field segment nested) = [segment] :: (hopPaths nested).map fun hops => segment :: hops := by
  rw [Node.hopPaths, hc]
  rfl

mutual

theorem ne_nil_of_mem_node {hops : List Segment} : (n : Node) → hops ∈ n.hopPaths → hops ≠ []
  | .comparison _ _, h => by
    rw [Node.hopPaths] at h
    exact absurd h List.not_mem_nil
  | .group op children, h => by
    rw [Node.hopPaths] at h
    split at h
    · exact absurd h List.not_mem_nil
    · exact ne_nil_of_mem_children children h
  | .field segment nested, h => by
    rw [Node.hopPaths] at h
    split at h
    · exact absurd h List.not_mem_nil
    · rcases List.mem_cons.1 h with rfl | h
      · exact List.cons_ne_nil segment []
      · obtain ⟨rest, -, rfl⟩ := List.mem_map.1 h
        exact List.cons_ne_nil segment rest

/-- Every place of a filter that hops lead to is behind one at least. -/
theorem ne_nil_of_mem_hopPaths {hops : List Segment} : (f : List Node) → hops ∈ hopPaths f → hops ≠ []
  | [], h => absurd h List.not_mem_nil
  | n :: rest, h => by
    rw [hopPaths] at h
    rcases List.mem_append.1 h with h | h
    · exact ne_nil_of_mem_node n h
    · exact ne_nil_of_mem_hopPaths rest h

theorem ne_nil_of_mem_children {hops : List Segment} : (fs : List (List Node)) → hops ∈ childHopPaths fs → hops ≠ []
  | [], h => absurd h List.not_mem_nil
  | f :: fs, h => by
    rw [childHopPaths] at h
    rcases List.mem_append.1 h with h | h
    · exact ne_nil_of_mem_hopPaths f h
    · exact ne_nil_of_mem_children fs h

end

end Filter

namespace Schema

variable {s : Schema} {c target : String} {segment : Segment} {hop : Hop}

theorem destination?_cons (hh : s.hop? c segment.field = some hop) (ht : hop.target s segment = .ok target)
    (rest : List Segment) : s.destination? c (segment :: rest) = s.destination? target rest := by
  simp only [destination?, hh, ht]

theorem destination?_append {hops : List Segment} {c' : String} (h : s.destination? c hops = some c')
    (rest : List Segment) : s.destination? c (hops ++ rest) = s.destination? c' rest := by
  induction hops generalizing c with
  | nil =>
    obtain rfl := Option.some.inj h
    rfl
  | cons segment hops ih =>
    rw [List.cons_append, destination?]
    rw [destination?] at h
    split at h
    next => exact absurd h (by simp)
    next hop hh =>
      split at h
      next => exact absurd h (by simp)
      next target ht => exact ih h

/-! ## Visits -/

variable {first : Bool} {rest nested : Filter} {op : Sql.Logical} {children : List Filter}

@[simp] theorem visits_nil : s.visits first c [] = [] := rfl

theorem nil_not_mem_visits (f : Filter) : [] ∉ s.visits first c f := by
  intro h
  obtain ⟨hops, hmem, hnil⟩ := List.mem_map.1 h
  exact Filter.ne_nil_of_mem_hopPaths f (List.mem_filter.1 hmem).1 (List.map_eq_nil_iff.1 hnil)

theorem visits_append (f g : Filter) : s.visits first c (f ++ g) = s.visits first c f ++ s.visits first c g := by
  simp only [visits, Filter.hopPaths_append, List.filter_append, List.map_append]

theorem visits_cons_of_nil {node : Node} (h : node.hopPaths = []) :
    s.visits first c (node :: rest) = s.visits first c rest := by
  rw [visits, Filter.hopPaths, h]
  rfl

theorem visits_group (hm : Filter.matchesAll op children = false) :
    s.visits first c (.group op children :: rest) =
      s.visits first c children.flatten ++ s.visits first c rest := by
  rw [← visits_append, visits, visits, Filter.hopPaths, Node.hopPaths, hm, Filter.hopPaths_append,
    Filter.childHopPaths_eq]
  rfl

/-- Nothing is visited below a hop that no pass goes along. -/
theorem visits_cons_of_not (hc : Filter.isComparisons nested = false)
    (h : ∀ hops, s.goesAlong first c (segment :: hops) = false) :
    s.visits first c (.field segment nested :: rest) = s.visits first c rest := by
  have hnone : (Node.hopPaths (.field segment nested)).filter (s.goesAlong first c) = [] := by
    refine List.filter_eq_nil_iff.2 fun hops hmem => ?_
    rw [Filter.hopPaths_field hc] at hmem
    rcases List.mem_cons.1 hmem with rfl | hmem
    · simp [h]
    · obtain ⟨below, -, rfl⟩ := List.mem_map.1 hmem
      simp [h]
  rw [visits, Filter.hopPaths, List.filter_append, hnone]
  rfl

theorem goesAlong_unrelated (hh : s.hop? c segment.field = none) (hops : List Segment) :
    s.goesAlong first c (segment :: hops) = false := by
  simp only [goesAlong, destination?, hh]
  rfl

theorem goesAlong_deferred (hh : s.hop? c segment.field = some hop) (hk : hop.kind = .oneToMany)
    (hops : List Segment) : s.goesAlong true c (segment :: hops) = false := by
  simp [goesAlong, startsMany, hh, hk]

/-- Below a hop that it goes along, a pass goes along all that leads somewhere. -/
theorem goesAlong_cons (hh : s.hop? c segment.field = some hop) (ht : hop.target s segment = .ok target)
    (hk : ¬ (hop.kind = .oneToMany ∧ first = true)) (hops : List Segment) :
    s.goesAlong first c (segment :: hops) = s.goesAlong false target hops := by
  have hstart : (first && s.startsMany c (segment :: hops)) = false := by
    simp only [startsMany, hh]
    cases first with
    | false => rfl
    | true => simpa using hk
  rw [goesAlong, hstart, destination?_cons hh ht, goesAlong]
  rfl

theorem visits_hop (hc : Filter.isComparisons nested = false) (hh : s.hop? c segment.field = some hop)
    (ht : hop.target s segment = .ok target) (hk : ¬ (hop.kind = .oneToMany ∧ first = true)) :
    s.visits first c (.field segment nested :: rest) =
      [segment.key] :: (s.visits false target nested).map (fun path => segment.key :: path) ++
        s.visits first c rest := by
  have hfilter : (Node.hopPaths (.field segment nested)).filter (s.goesAlong first c) =
      [segment] :: ((Filter.hopPaths nested).filter (s.goesAlong false target)).map fun hops => segment :: hops := by
    have hbelow : s.goesAlong first c ∘ (fun hops => segment :: hops) = s.goesAlong false target :=
      funext (goesAlong_cons hh ht hk)
    have hhere : s.goesAlong first c [segment] = true := goesAlong_cons hh ht hk []
    rw [Filter.hopPaths_field hc, List.filter_cons_of_pos hhere, List.filter_map, hbelow]
  rw [visits, Filter.hopPaths, List.filter_append, hfilter, List.map_append, List.map_cons, List.map_map,
    visits, List.map_map]
  rfl

end Schema

end PathQuery
