import PathQuery.Proofs.Sql.Nested
import PathQuery.Proofs.Sql.Scope

/-!
# Statements inside statements

* `Column.queries`, `Predicate.queries`, `Select.queries` : the statements that stand in a part of
  another, in its joins, columns, conditions and order, but not those further inside;
* `Select.Inside` : a statement and all that stand in it, at any depth;
* `Select.IsKeyList` : a statement to look for a column in, with no statement inside.

Where the statements in a condition are those that a column is looked for in, they are as the law
for them says (`Predicate.Nests.exists_law`).
-/

namespace PathQuery.Sql

mutual

/-- The statements in a column, which may be one itself. -/
def Column.queries : Column → List Select
  | .field _ _ => []
  | .param _ => []
  | .list items => Column.listQueries items
  | .query s => [s]
  | .null => []
  | .call _ argument => argument.queries

def Column.listQueries : List Column → List Select
  | [] => []
  | c :: cs => c.queries ++ Column.listQueries cs

end

def Fragment.queries : Fragment → List Select
  | .text _ => []
  | .column c => c.queries

def Predicate.queries : Predicate → List Select
  | .const _ => []
  | .compare _ left right => left.queries ++ right.queries
  | .between c low high => c.queries ++ low.queries ++ high.queries
  | .raw fragments => fragments.flatMap Fragment.queries
  | .and p q => p.queries ++ q.queries
  | .or p q => p.queries ++ q.queries
  | .not p => p.queries

def Table.queries : Table → List Select
  | .named _ _ => []
  | .leftJoin left right on => left.queries ++ right.queries ++ on.queries

def Select.queries (s : Select) : List Select :=
  s.source.queries ++ Column.listQueries s.columns ++ s.condition.queries ++
    (s.order.getD []).flatMap fun o => o.column.queries

/-- A statement and those inside it. -/
inductive Select.Inside : Select → Select → Prop where
  | refl {s} : Inside s s
  | query {s t r} (ht : t ∈ s.queries) (hr : Inside r t) : Inside r s

/-- Whether a statement is one to look for a column in: it selects one column of all its rows, in no
order, and no statement stands inside. -/
structure Select.IsKeyList (s : Select) : Prop where
  columns : s.columns.length = 1
  order : s.order = none
  limit : s.limit = none
  offset : s.offset = none
  queries : s.queries = []

mutual

theorem Column.queries_eq_nil : (c : Column) → c.isScalar = true → c.queries = []
  | .field _ _, _ | .param _, _ | .null, _ => rfl
  | .query _, h => absurd h Bool.false_ne_true
  | .list items, h => by
    rw [Column.isScalar] at h
    exact Column.listQueries_of_allScalar items h
  | .call _ argument, h => by
    rw [Column.isScalar] at h
    exact Column.queries_eq_nil argument h

theorem Column.listQueries_of_allScalar : (cs : List Column) → Column.allScalar cs = true →
    Column.listQueries cs = []
  | [], _ => rfl
  | c :: cs, h => by
    rw [Column.allScalar, Bool.and_eq_true] at h
    rw [Column.listQueries, Column.queries_eq_nil c h.1, Column.listQueries_of_allScalar cs h.2, List.append_nil]

end

theorem Predicate.closed_queries (law : Select → Prop) : Closed fun p => ∀ s ∈ p.queries, law s :=
  .forall_mem (fun _ => rfl) (fun _ _ => rfl) (fun _ _ => rfl) law

/-- Every statement in a condition is one that a column is looked for in, as the law allows. -/
theorem Predicate.Nests.exists_law {law : Column → Select → Prop} {p : Predicate} (h : p.Nests law)
    (hlaw : ∀ c s, law c s → c.isScalar = true) : ∀ s ∈ p.queries, ∃ c, law c s := by
  induction h with
  | const => exact List.forall_mem_nil _
  | @membership c s hc =>
    rw [queries, Column.queries_eq_nil c (hlaw c s hc), List.nil_append]
    exact List.forall_mem_singleton.2 ⟨c, hc⟩
  | compare hl hr =>
    rw [queries, Column.queries_eq_nil _ hl, Column.queries_eq_nil _ hr]
    exact List.forall_mem_nil _
  | between hc hlow hhigh =>
    rw [queries, Column.queries_eq_nil _ hc, Column.queries_eq_nil _ hlow, Column.queries_eq_nil _ hhigh]
    exact List.forall_mem_nil _
  | raw hc =>
    intro s hs
    obtain ⟨f, hf, hs⟩ := List.mem_flatMap.1 hs
    cases f with
    | text t => exact absurd hs List.not_mem_nil
    | column c =>
      rw [Fragment.queries, Column.queries_eq_nil c (hc c hf)] at hs
      exact absurd hs List.not_mem_nil
  | and _ _ ihp ihq => exact List.forall_mem_append.2 ⟨ihp, ihq⟩
  | or _ _ ihp ihq => exact List.forall_mem_append.2 ⟨ihp, ihq⟩
  | not _ ih => exact ih

theorem Predicate.Nests.queries_eq_nil {p : Predicate} (h : p.Nests fun _ _ => False) : p.queries = [] := by
  refine List.eq_nil_iff_forall_not_mem.2 fun s hs => ?_
  obtain ⟨_, hfalse⟩ := h.exists_law (fun _ _ h => h.elim) s hs
  exact hfalse

theorem queries_joined {root : String} {js : List Join} (h : ∀ j ∈ js, j.on.queries = []) :
    (joined root js).queries = [] := by
  induction js using List.reverseRecOn with
  | nil => rfl
  | append_singleton js j ih =>
    obtain ⟨hjs, hj⟩ := List.forall_mem_append.1 h
    rw [joined_append, Table.queries, ih hjs, List.forall_mem_singleton.1 hj]
    rfl

theorem Draft.queries_toSelect (d : Draft) : d.toSelect.queries =
    (joined d.table d.joins).queries ++ Column.listQueries d.columns ++ (d.condition.getD (.const true)).queries ++
      d.order.flatMap fun o => o.column.queries := by
  obtain ⟨table, columns, joins, condition, order, limit, offset⟩ := d
  cases order <;> rfl

end PathQuery.Sql
