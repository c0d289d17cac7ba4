import PathQuery.Proofs.Sql.Scope

/-!
# What columns are compared with

* `Predicate.compared` : the columns in a condition that are compared with parameters, each with its
  parameter. A pattern is no value of a column, text that is written as it stands is no comparison,
  and what is compared in a statement inside is compared there;
* `Table.tables` : the names that the tables of a statement go by, with what they stand for.

Where names are all different, each stands for one table (`eq_of_mem_tables`).
-/

namespace PathQuery.Sql

/-- A column of a table and a parameter that it is compared with. -/
structure Compared where
  table : String
  column : String
  param : Param

namespace Column

def param? : Column → Option Param
  | .param p => some p
  | _ => none

/-- The parameters that a side of a comparison offers: itself, or the items of a list. -/
def offers : Column → List Param
  | .list items => items.filterMap param?
  | c => c.param?.toList

/-- What a side of a comparison is compared with, if it is a column of a table. -/
def comparedWith (values : List Param) : Column → List Compared
  | .field table column => values.map (Compared.mk table column)
  | _ => []

/-- What the sides of a comparison come to: each column of a table, with the parameters on all
sides. -/
def compared (sides : List Column) : List Compared :=
  sides.flatMap (comparedWith (sides.flatMap offers))

/-- A column between sides that are none of tables is compared with what they offer. -/
theorem compared_field {table column : String} {others : List Column} (h : ∀ t f, .field t f ∉ others) :
    compared (.field table column :: others) = (others.flatMap offers).map (Compared.mk table column) := by
  have hothers : others.flatMap (comparedWith (others.flatMap offers)) = [] := by
    refine List.flatMap_eq_nil_iff.2 fun c hc => ?_
    cases c with
    | field t f => exact absurd hc (h t f)
    | _ => rfl
  have hoffers : (Column.field table column :: others).flatMap offers = others.flatMap offers := rfl
  rw [compared, hoffers, List.flatMap_cons, hothers, List.append_nil]
  rfl

end Column

def Predicate.compared : Predicate → List Compared
  | .const _ => []
  | .compare op left right => if op = .like then [] else Column.compared [left, right]
  | .between c low high => Column.compared [c, low, high]
  | .raw _ => []
  | .and p q => p.compared ++ q.compared
  | .or p q => p.compared ++ q.compared
  | .not p => p.compared

namespace Predicate

variable {table column : String} {k : Compared}

theorem closed_compared (law : Compared → Prop) : Closed fun p => ∀ k ∈ p.compared, law k :=
  .forall_mem (fun _ => rfl) (fun _ _ => rfl) (fun _ _ => rfl) law

/-- Whatever a column is compared with, it is one of the parameters on the other side. -/
theorem mem_compared_compare {op : Comparator} {c : Column} (hc : ∀ t f, c ≠ .field t f)
    (hk : k ∈ (Predicate.compare op (.field table column) c).compared) :
    op ≠ .like ∧ ∃ v ∈ c.offers, k = ⟨table, column, v⟩ := by
  rw [compared] at hk
  split at hk
  · exact absurd hk List.not_mem_nil
  next hop =>
    rw [Column.compared_field (by simpa using fun t f h => hc t f h.symm), List.flatMap_singleton] at hk
    obtain ⟨v, hv, rfl⟩ := List.mem_map.1 hk
    exact ⟨hop, v, hv, rfl⟩

theorem compared_between (low high : Param) :
    (Predicate.between (.field table column) (.param low) (.param high)).compared =
      [⟨table, column, low⟩, ⟨table, column, high⟩] := rfl

end Predicate

/-! ## Tables by name -/

def Table.tables : Table → List (String × String)
  | .named name aliasName => [(aliasName.getD name, name)]
  | .leftJoin left right _ => left.tables ++ right.tables

theorem Table.map_fst_tables (t : Table) : t.tables.map Prod.fst = t.names := by
  cases t with
  | named _ _ => rfl
  | leftJoin left right _ =>
    rw [Table.tables, List.map_append, Table.map_fst_tables left, Table.map_fst_tables right, Table.names]

theorem tables_joined (root : String) (js : List Join) :
    (joined root js).tables = (root, root) :: js.map fun j => (j.aliasName, j.table) := by
  induction js using List.reverseRecOn with
  | nil => rfl
  | append_singleton js j ih =>
    rw [joined_append, Table.tables, ih, List.map_append]
    rfl

/-- A name stands for one table where names are all different. -/
theorem Table.eq_of_mem_tables {t : Table} (hn : t.names.Nodup) {name a b : String} (ha : (name, a) ∈ t.tables)
    (hb : (name, b) ∈ t.tables) : a = b := by
  rw [← map_fst_tables] at hn
  exact congrArg Prod.snd (List.inj_on_of_nodup_map hn ha hb rfl)

end PathQuery.Sql
