import PathQuery.Proofs.Compile.Walk
import PathQuery.Proofs.Schema.Names

/-!
# How deep a filter may go

* `Filter.Chain` : the hops from the top of a filter down to some place in it;
* `Filter.branches` : whether a filter is anything but a single chain of fields down to comparisons.

A pass holds every chain to the limit, but the body of a deferred hop is a pass of its own and
counts its hops from the start again. Only the length of an unbranched chain is checked before the
body is left to that pass, so a body that branches may go one hop beyond the limit, and no further
(`Walks.hops_le`).
-/

namespace PathQuery

open Sql (Draft)

/-- The hops down a filter, each with what is asked of the other side. A group that matches
everything is not looked into, and a field above comparisons is no hop. -/
inductive Filter.Chain : Filter → List (Segment × Filter) → Prop where
  | nil {f} : Chain f []
  | rest {node rest hops} (h : Chain rest hops) : Chain (node :: rest) hops
  | group {op children rest hops} (hm : Filter.matchesAll op children = false)
      (h : Chain children.flatten hops) : Chain (.group op children :: rest) hops
  | hop {segment nested rest hops} (hc : Filter.isComparisons nested = false) (h : Chain nested hops) :
      Chain (.field segment nested :: rest) ((segment, nested) :: hops)

mutual

def Node.branches : Node → Bool
  | .field _ nested => Filter.branches nested
  | .group _ _ => true
  | .comparison _ _ => false

/-- Whether a filter is anything but fields one below the other, with comparisons below the last. -/
def Filter.branches : List Node → Bool
  | [node] => Node.branches node
  | f => !Filter.isComparisons f

end

namespace Filter

theorem one_le_chainHops {f : Filter} (h : f.isComparisons = false) : 1 ≤ chainHops f := by
  unfold chainHops
  split
  next n =>
    cases n with
    | field segment nested => exact Nat.le_add_right 1 _
    | group op children => exact Nat.le_refl 1
    | comparison op v => exact absurd h (by simp [isComparisons, Node.isComparison])
  next => rw [h]; exact Nat.le_refl 1

theorem Chain.eq_nil {f : Filter} {hops : List (Segment × Filter)} (h : f.Chain hops)
    (hc : f.isComparisons = true) : hops = [] := by
  induction h with
  | nil => rfl
  | rest _ ih =>
    rw [isComparisons, List.all_cons, Bool.and_eq_true] at hc
    exact ih hc.2
  | group _ _ _ => exact absurd hc (by simp [isComparisons, Node.isComparison])
  | hop _ _ _ => exact absurd hc (by simp [isComparisons, Node.isComparison])

/-- The chain that a filter without branches is has the length that is checked. -/
theorem Chain.length_lt {f : Filter} {hops : List (Segment × Filter)} (h : f.Chain hops)
    (hc : f.isComparisons = false) (hb : branches f = false) : hops.length < chainHops f := by
  induction h with
  | nil => exact one_le_chainHops hc
  | @rest node rest hops h ih =>
    cases rest with
    | nil =>
      rw [h.eq_nil rfl]
      exact one_le_chainHops hc
    | cons node' rest =>
      rw [branches, hc] at hb
      · exact absurd hb (by simp)
      · simp
  | @group op children rest hops _ _ _ =>
    cases rest with
    | nil => exact absurd hb (by simp [branches, Node.branches])
    | cons node rest =>
      rw [branches, hc] at hb
      · exact absurd hb (by simp)
      · simp
  | @hop segment nested rest hops hnc h ih =>
    cases rest with
    | nil =>
      rw [branches, Node.branches] at hb
      rw [chainHops, Node.chainHops, List.length_cons, Nat.add_comm]
      exact Nat.add_lt_add_left (ih hnc hb) 1
    | cons node rest =>
      rw [branches, hc] at hb
      · exact absurd hb (by simp)
      · simp

end Filter

variable {setting : Setting}

/-- Where no hop is deferred, chains and the path that leads to them are within the limit
together. -/
theorem Walks.length_add_le {pass : Pass} {c : String} {path : Path} {f : Filter}
    {ps : List Sql.Predicate} (h : Walks setting pass c path f ps)
    (hd : ∀ hop : Hop, hop.isDeferred pass.subquery path = false)
    (hpath : path.length ≤ setting.config.maxRelationalDepth) {hops : List (Segment × Filter)}
    (hc : f.Chain hops) : path.length + hops.length ≤ setting.config.maxRelationalDepth := by
  induction h generalizing hops with
  | nil => cases hc; exact hpath
  | everything hm _ ih =>
    cases hc with
    | nil => exact hpath
    | rest h => exact ih hd hpath h
    | group hn h => exact absurd (hm.symm.trans hn) (by simp)
  | group _ _ _ ihgroup ihrest =>
    cases hc with
    | nil => exact hpath
    | rest h => exact ihrest hd hpath h
    | group hn h => exact ihgroup hd hpath h
  | column hcs _ _ _ ih =>
    cases hc with
    | nil => exact hpath
    | rest h => exact ih hd hpath h
    | hop hn h => exact absurd (hcs.symm.trans hn) (by simp)
  | deferred _ _ _ hf _ _ _ _ _ _ => exact absurd (hf.symm.trans (hd _)) (by simp)
  | @hop pass c path segment nested rest hop target qs ps hcs hdepth _ _ _ _ _ ihnested ihrest =>
    cases hc with
    | nil => exact hpath
    | rest h => exact ihrest hd hpath h
    | @hop _ _ _ hops _ h =>
      have hone := Filter.one_le_chainHops hcs
      have hlen : (path ++ [segment.key]).length = path.length + 1 := List.length_append
      have hnested := ihnested (fun hop => ?_) (by omega) h
      · rw [List.length_cons]
        omega
      · simp [Hop.isDeferred]

theorem Walks.hops_le {pass : Pass} {c : String} {f : Filter} {ps : List Sql.Predicate}
    (h : Walks setting pass c [] f ps) {hops : List (Segment × Filter)} (hc : f.Chain hops) :
    hops.length ≤ setting.config.maxRelationalDepth ∨
      pass.subquery = false ∧ ∃ segment nested below hop, hops = (segment, nested) :: below ∧
        setting.schema.hop? c segment.field = some hop ∧ hop.kind = .oneToMany ∧
        Filter.branches nested = true ∧ below.length = setting.config.maxRelationalDepth := by
  generalize hp : ([] : Path) = path at h
  induction h generalizing hops with
  | nil => cases hc; exact .inl (Nat.zero_le _)
  | everything hm _ ih =>
    cases hc with
    | nil => exact .inl (Nat.zero_le _)
    | rest h => exact ih h hp
    | group hn h => exact absurd (hm.symm.trans hn) (by simp)
  | group _ _ _ ihgroup ihrest =>
    cases hc with
    | nil => exact .inl (Nat.zero_le _)
    | rest h => exact ihrest h hp
    | group hn h => exact ihgroup h hp
  | column hcs _ _ _ ih =>
    cases hc with
    | nil => exact .inl (Nat.zero_le _)
    | rest h => exact ih h hp
    | hop hn h => exact absurd (hcs.symm.trans hn) (by simp)
  | @deferred pass c path segment nested rest hop key plan draws qs ps hcs hdepth hh hf _ _ hbody _ _ ih =>
    cases hc with
    | nil => exact .inl (Nat.zero_le _)
    | rest h => exact ih h hp
    | @hop _ _ _ below _ h =>
      subst hp
      simp only [Hop.isDeferred, Bool.and_eq_true, Bool.not_eq_true', beq_iff_eq] at hf
      have hbelow := hbody.length_add_le (fun hop => by simp [Hop.isDeferred]) (Nat.zero_le _) h
      rw [List.length_nil, Nat.zero_add] at hbelow hdepth
      rcases Nat.lt_or_ge below.length setting.config.maxRelationalDepth with hlt | hge
      · exact .inl hlt
      -- the check at the deferred hop counts the hops below it only until they branch
      cases hb : Filter.branches nested with
      | false =>
        have hlt := h.length_lt hcs hb
        exact .inl (Nat.le_trans hlt hdepth)
      | true =>
        exact .inr ⟨hf.2, segment, nested, below, hop, rfl, hh, hf.1.1, hb, Nat.le_antisymm hbelow hge⟩
  | @hop pass c path segment nested rest hop target qs ps hcs hdepth _ _ _ hnested _ _ ih =>
    cases hc with
    | nil => exact .inl (Nat.zero_le _)
    | rest h => exact ih h hp
    | @hop _ _ _ hops _ h =>
      subst hp
      have hone := Filter.one_le_chainHops hcs
      rw [List.length_nil, Nat.zero_add] at hdepth
      have hlen := hnested.length_add_le (fun hop => by simp [Hop.isDeferred]) (Nat.le_trans hone hdepth) h
      rw [List.length_append, List.length_nil, List.length_singleton] at hlen
      rw [List.length_cons]
      omega

/-- Exactly the filters with a branching body of a deferred hop that uses up the limit by itself go
beyond it, and no filter goes further than one hop beyond. -/
theorem exceeds_iff_of_applyFilter {d d' : Draft} {f : Filter} {c : String} {subquery : Bool} {n n' : Nat}
    (h : setting.applyFilter d f c subquery n = .ok (d', n')) :
    ((∃ hops, f.Chain hops ∧ setting.config.maxRelationalDepth < hops.length) ↔
      subquery = false ∧ ∃ segment nested below hop, f.Chain ((segment, nested) :: below) ∧
        setting.schema.hop? c segment.field = some hop ∧ hop.kind = .oneToMany ∧
        Filter.branches nested = true ∧ below.length = setting.config.maxRelationalDepth) ∧
    ∀ hops, f.Chain hops → hops.length ≤ setting.config.maxRelationalDepth + 1 := by
  obtain ⟨plan, ps, -, hw, -⟩ := exists_of_applyFilter h
  refine ⟨⟨?_, ?_⟩, ?_⟩
  · rintro ⟨hops, hc, hlt⟩
    rcases hw.hops_le hc with hle | ⟨hs, segment, nested, below, hop, rfl, hh⟩
    · exact absurd hlt (Nat.not_lt.2 hle)
    · exact ⟨hs, segment, nested, below, hop, hc, hh⟩
  · rintro ⟨-, segment, nested, below, hop, hc, -, -, -, hlen⟩
    exact ⟨_, hc, by rw [List.length_cons, hlen]; exact Nat.lt_succ_self _⟩
  · intro hops hc
    rcases hw.hops_le hc with hle | ⟨-, segment, nested, below, hop, rfl, -, -, -, hlen⟩
    · exact Nat.le_succ_of_le hle
    · exact Nat.le_of_eq (congrArg (· + 1) hlen)

/-- Users with an article by an author of a name. -/
def Filter.coauthored : Filter :=
  [.field (.mk "articles" none)
    [.group .and [[.field (.mk "author" none) [.field (.mk "name" none) [.comparison .eq (.string "x")]]]]]]

def Setting.shallow : Setting := ⟨.newsroom, ⟨none, 1, false⟩, .postgis, .letters 7485998⟩

theorem Filter.chain_coauthored : ∃ hops, Filter.coauthored.Chain hops ∧ hops.length = 2 :=
  ⟨_, .hop rfl (.group rfl (.hop rfl .nil)), rfl⟩

theorem Setting.applyFilter_coauthored : ∃ d n,
    Setting.shallow.applyFilter (Draft.new "users") .coauthored "users" false 0 = .ok (d, n) :=
  ⟨_, _, rfl⟩

/-- The deferred hop and the hop in its branching body exceed the limit together. -/
theorem exceeds_coauthored :
    (∃ d n, Setting.shallow.applyFilter (Draft.new "users") .coauthored "users" false 0 = .ok (d, n)) ∧
    ∃ hops, Filter.coauthored.Chain hops ∧ ¬ hops.length ≤ Setting.shallow.config.maxRelationalDepth := by
  obtain ⟨hops, hc, hlen⟩ := Filter.chain_coauthored
  exact ⟨Setting.applyFilter_coauthored, hops, hc, by rw [hlen]; decide⟩

/-- Users who are asked for articles by an author need the deferred hop to exceed the limit,
by one. -/
theorem exceeds_iff_coauthored : ∃ d n,
    Setting.shallow.applyFilter (Draft.new "users") .coauthored "users" false 0 = .ok (d, n) ∧
    (∃ segment nested below hop, Filter.coauthored.Chain ((segment, nested) :: below) ∧
      Setting.shallow.schema.hop? "users" segment.field = some hop ∧ hop.kind = .oneToMany ∧
      Filter.branches nested = true ∧ below.length = 1) ∧
    ∀ hops, Filter.coauthored.Chain hops → hops.length ≤ 2 := by
  obtain ⟨d, n, h⟩ := Setting.applyFilter_coauthored
  obtain ⟨hops, hc, hlen⟩ := Filter.chain_coauthored
  obtain ⟨hiff, hle⟩ := exceeds_iff_of_applyFilter h
  exact ⟨d, n, h, (hiff.1 ⟨hops, hc, by rw [hlen]; decide⟩).2, hle⟩

end PathQuery
