import Mathlib.Logic.Relation
import PathQuery.Proofs.Compile.Query
import PathQuery.Proofs.Schema.Names
import PathQuery.Proofs.Sql.Assignment

/-!
# Queries narrow drafts

* `Draft.Narrows` : a draft keeps the table, the columns and the joins of another, and its condition
  is true only where the other's is;
* `Applied` : what a filter, a search or a query makes of a draft, whatever the setting.

Joins are only added behind those that are there, and conditions only under `AND`, so every step
narrows (`Applied.narrows`), and so does any number of steps (`narrows_of_applied`).
-/

namespace PathQuery

open Sql (Predicate Draft Join Assignment Truth)

/-- Whether a draft keeps what another has and lets through no row that the other does not. -/
structure Sql.Draft.Narrows (d d' : Draft) : Prop where
  table : d'.table = d.table
  columns : d'.columns = d.columns
  joins : d.joins <+: d'.joins
  condition : ∀ p ∈ d.condition, ∃ q ∈ d'.condition, ∀ a : Assignment, a.truth q = .true → a.truth p = .true

namespace Sql.Draft.Narrows

theorem refl (d : Draft) : d.Narrows d := ⟨rfl, rfl, List.prefix_rfl, fun p hp => ⟨p, hp, fun _ h => h⟩⟩

theorem trans {d d' d'' : Draft} (h : d.Narrows d') (h' : d'.Narrows d'') : d.Narrows d'' where
  table := h'.table.trans h.table
  columns := h'.columns.trans h.columns
  joins := h.joins.trans h'.joins
  condition := by
    intro p hp
    obtain ⟨q, hq, hqp⟩ := h.condition p hp
    obtain ⟨r, hr, hrq⟩ := h'.condition q hq
    exact ⟨r, hr, fun a ha => hqp a (hrq a ha)⟩

theorem andWhere (d : Draft) (p : Predicate) : d.Narrows (d.andWhere p) where
  table := rfl
  columns := rfl
  joins := List.prefix_rfl
  condition := by
    intro q hq
    refine ⟨q.conj p, ?_, fun a ha => ?_⟩
    · rw [Draft.andWhere, Draft.restrict, Option.mem_def.1 hq]
      rfl
    · rw [a.truth_conj, Truth.and_eq_true] at ha
      exact ha.1

theorem addJoin (d : Draft) (j : Join) : d.Narrows (d.addJoin j) := by
  unfold Draft.addJoin
  split
  · exact .refl d
  · exact ⟨rfl, rfl, List.prefix_append d.joins [j], fun p hp => ⟨p, hp, fun _ h => h⟩⟩

theorem addJoins (d : Draft) (js : List Join) : d.Narrows (js.foldl Draft.addJoin d) := by
  induction js generalizing d with
  | nil => exact .refl d
  | cons j js ih => exact (addJoin d j).trans (ih (d.addJoin j))

end Sql.Draft.Narrows

theorem Compiled.narrows (c : Compiled) (d : Draft) : d.Narrows (c.apply d) := by
  have hjoins := Draft.Narrows.addJoins d c.joins
  unfold Compiled.apply
  split
  · exact hjoins.trans (.andWhere _ _)
  · exact hjoins

theorem CompiledQuery.narrows (c : CompiledQuery) (d : Draft) : d.Narrows (c.apply d) := by
  obtain ⟨limit, offset, happly⟩ := c.apply_eq d
  -- the order and the window are replaced, which is nothing that a narrower draft has to keep
  have hframed : d.Narrows { d with order := d.order ++ c.order, limit := limit, offset := offset } :=
    ⟨rfl, rfl, List.prefix_rfl, fun p hp => ⟨p, hp, fun _ h => h⟩⟩
  have hfiltered : d.Narrows (c.filter.elim
      { d with order := d.order ++ c.order, limit := limit, offset := offset }
      (·.apply { d with order := d.order ++ c.order, limit := limit, offset := offset })) := by
    cases c.filter with
    | none => exact hframed
    | some b => exact hframed.trans (b.narrows _)
  rw [happly]
  cases c.search with
  | none => exact hfiltered
  | some p => exact hfiltered.trans (.andWhere _ p)

/-- What one filter, search or query makes of a draft. -/
inductive Applied : Draft → Draft → Prop where
  | filter {setting : Setting} {d d' : Draft} {f : Filter} {c : String} {subquery : Bool} {n n' : Nat}
      (h : setting.applyFilter d f c subquery n = .ok (d', n')) : Applied d d'
  | search {setting : Setting} {d d' : Draft} {term c : String} (h : setting.applySearch d term c = .ok d') :
      Applied d d'
  | query {setting : Setting} {d d' : Draft} {c : String} {q : Query} {subquery : Bool} {n n' : Nat}
      (h : setting.applyQuery d c q subquery n = .ok (d', n')) : Applied d d'

theorem Applied.narrows {d d' : Draft} (h : Applied d d') : d.Narrows d' := by
  cases h with
  | filter h =>
    obtain ⟨⟨compiled, m⟩, -, h⟩ := exists_of_bind_eq_ok h
    obtain ⟨rfl, -⟩ := Prod.mk.inj (Except.ok.inj h)
    exact compiled.narrows d
  | search h =>
    obtain ⟨p, -, h⟩ := exists_of_bind_eq_ok h
    obtain rfl := Except.ok.inj h
    exact .andWhere d p
  | query h =>
    obtain ⟨⟨compiled, m⟩, -, h⟩ := exists_of_bind_eq_ok h
    obtain ⟨rfl, -⟩ := Prod.mk.inj (Except.ok.inj h)
    exact compiled.narrows d

/-- However many filters, searches and queries are applied, a draft keeps its table, its
columns and, in their order, its joins, and where its last condition is true, the one that it
had before is. -/
theorem narrows_of_applied {d d' : Draft} (h : Relation.ReflTransGen Applied d d') : d.Narrows d' := by
  induction h with
  | refl => exact .refl d
  | tail _ hlast ih => exact ih.trans hlast.narrows

/-- The articles of one author. -/
def Sql.Draft.own : Draft :=
  ((Draft.new "articles").leftJoin
    ⟨"users", "owner", .compare .eq (.field "articles" "author") (.field "owner" "id")⟩).andWhere
      (.compare .eq (.field "owner" "name") (.param (.text "Ann")))

/-- Articles of any kind, or of a title. -/
def Filter.anyOrTitled : Filter := [.group .or [[], [.field (.mk "title" none) [.comparison .eq (.string "x")]]]]

/-- Articles of an author, or with one of no titles, whose text holds a term. -/
def Query.signedOrNone : Query where
  sort := some ["title"]
  limit := some 5
  offset := none
  page := none
  filter := some [.group .or [[.field (.mk "author" none) [.field (.mk "name" none) [.comparison .eq (.string "Bo")]]],
    [.field (.mk "title" none) [.comparison .isIn (.array [])]]]]
  search := some "y"

/-- A filter that matches everything, a search and a query with a join of its own leave the clause
in force. -/
theorem narrows_own : ∃ d d' d'' n n',
    (Setting.default .newsroom).applyFilter .own .anyOrTitled "articles" false 0 = .ok (d, n) ∧
    (Setting.default .newsroom).applySearch d "x" "articles" = .ok d' ∧
    (Setting.default .newsroom).applyQuery d' "articles" .signedOrNone true 0 = .ok (d'', n') ∧
    Draft.own.Narrows d'' := by
  obtain ⟨d, n, hfilter⟩ : ∃ d n, (Setting.default .newsroom).applyFilter .own .anyOrTitled "articles" false 0 =
      .ok (d, n) := ⟨_, _, rfl⟩
  obtain ⟨d', hsearch⟩ : ∃ d', (Setting.default .newsroom).applySearch d "x" "articles" = .ok d' := ⟨_, rfl⟩
  obtain ⟨d'', n', hquery⟩ : ∃ d'' n', (Setting.default .newsroom).applyQuery d' "articles" .signedOrNone true 0 =
      .ok (d'', n') := ⟨_, _, rfl⟩
  refine ⟨d, d', d'', n, n', hfilter, hsearch, hquery, narrows_of_applied ?_⟩
  exact ((Relation.ReflTransGen.single (.filter hfilter)).tail (.search hsearch)).tail (.query hquery)

end PathQuery
