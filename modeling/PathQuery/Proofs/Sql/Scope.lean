import Mathlib.Data.List.Induction
import Mathlib.Data.List.Nodup
import PathQuery.Proofs.Sql.Simplify
import PathQuery.Sql.Draft

/-!
# The scope of names in statements

* `Table.names` : the names that tables go by in a statement, in the order they are joined;
* `Column.Scoped`, `Predicate.Scoped` : whether every column is one of a table among some names; a
  statement inside has a scope of its own and refers to no table outside;
* `Table.WellScoped` : tables have different names, and the condition of a join is about the tables
  joined so far;
* `Select.WellScoped` : the parts of a statement are about its tables.
-/

namespace PathQuery.Sql

def Table.names : Table → List String
  | .named name aliasName => [aliasName.getD name]
  | .leftJoin left right _ => left.names ++ right.names

mutual

def Column.Scoped (names : List String) : Column → Prop
  | .field table _ => table ∈ names
  | .param _ => True
  | .list items => Column.AllScoped names items
  | .query s => s.WellScoped
  | .null => True
  | .call _ argument => argument.Scoped names

def Column.AllScoped (names : List String) : List Column → Prop
  | [] => True
  | c :: cs => c.Scoped names ∧ Column.AllScoped names cs

def Predicate.Scoped (names : List String) : Predicate → Prop
  | .const _ => True
  | .compare _ left right => left.Scoped names ∧ right.Scoped names
  | .between c low high => c.Scoped names ∧ low.Scoped names ∧ high.Scoped names
  | .raw fragments => Fragment.AllScoped names fragments
  | .and p q => p.Scoped names ∧ q.Scoped names
  | .or p q => p.Scoped names ∧ q.Scoped names
  | .not p => p.Scoped names

def Fragment.AllScoped (names : List String) : List Fragment → Prop
  | [] => True
  | .text _ :: rest => Fragment.AllScoped names rest
  | .column c :: rest => c.Scoped names ∧ Fragment.AllScoped names rest

def Table.WellScoped : Table → Prop
  | .named _ _ => True
  | .leftJoin left right on =>
    left.WellScoped ∧ right.WellScoped ∧ left.names.Disjoint right.names ∧
      on.Scoped (left.names ++ right.names)

def OrderTerm.Scoped (names : List String) : OrderTerm → Prop
  | ⟨c, _⟩ => c.Scoped names

def OrderTerm.AllScoped (names : List String) : List OrderTerm → Prop
  | [] => True
  | o :: os => o.Scoped names ∧ OrderTerm.AllScoped names os

def OrderTerm.ClauseScoped (names : List String) : Option (List OrderTerm) → Prop
  | none => True
  | some os => OrderTerm.AllScoped names os

def Select.WellScoped : Select → Prop
  | ⟨source, columns, condition, order, _, _⟩ =>
    source.WellScoped ∧ Column.AllScoped source.names columns ∧ condition.Scoped source.names ∧
      OrderTerm.ClauseScoped source.names order

end

section

variable {names : List String}

theorem Column.allScoped_iff (cs : List Column) :
    Column.AllScoped names cs ↔ ∀ c ∈ cs, c.Scoped names := by
  induction cs with
  | nil => simp [AllScoped]
  | cons c cs ih => rw [AllScoped, ih, List.forall_mem_cons]

theorem OrderTerm.allScoped_iff (os : List OrderTerm) :
    OrderTerm.AllScoped names os ↔ ∀ o ∈ os, o.column.Scoped names := by
  induction os with
  | nil => simp [AllScoped]
  | cons o os ih =>
    obtain ⟨c, direction⟩ := o
    rw [AllScoped, ih, List.forall_mem_cons, Scoped]

theorem Predicate.closed_scoped : Closed (Predicate.Scoped names) where
  const := fun _ => trivial
  and p q hp hq := by
    rw [Predicate.Scoped]
    exact ⟨hp, hq⟩
  or p q hp hq := by
    rw [Predicate.Scoped]
    exact ⟨hp, hq⟩

theorem Predicate.scoped_compare {op : Comparator} {l r : Column} (hl : l.Scoped names)
    (hr : r.Scoped names) : (Predicate.compare op l r).Scoped names := by
  rw [Predicate.Scoped]
  exact ⟨hl, hr⟩

theorem Column.scoped_field {table name : String} (h : table ∈ names) :
    (Column.field table name).Scoped names := by
  rw [Column.Scoped]
  exact h

theorem Column.scoped_param (p : Param) : (Column.param p).Scoped names := by
  rw [Column.Scoped]
  trivial

mutual

theorem Column.Scoped.mono {names more : List String} (hs : names ⊆ more) :
    (c : Column) → c.Scoped names → c.Scoped more
  | .field _ _, h => by
    rw [Column.Scoped] at h ⊢
    exact hs h
  | .param _, _ => by
    rw [Column.Scoped]
    trivial
  | .list items, h => by
    rw [Column.Scoped] at h ⊢
    exact Column.AllScoped.mono hs items h
  | .query _, h => by
    rw [Column.Scoped] at h ⊢
    exact h
  | .null, _ => by
    rw [Column.Scoped]
    trivial
  | .call _ argument, h => by
    rw [Column.Scoped] at h ⊢
    exact Column.Scoped.mono hs argument h

theorem Column.AllScoped.mono {names more : List String} (hs : names ⊆ more) :
    (cs : List Column) → Column.AllScoped names cs → Column.AllScoped more cs
  | [], _ => by
    rw [Column.AllScoped]
    trivial
  | c :: cs, h => by
    rw [Column.AllScoped] at h ⊢
    exact ⟨Column.Scoped.mono hs c h.1, Column.AllScoped.mono hs cs h.2⟩

end

mutual

theorem Predicate.Scoped.mono {names more : List String} (hs : names ⊆ more) :
    (p : Predicate) → p.Scoped names → p.Scoped more
  | .const _, _ => by
    rw [Predicate.Scoped]
    trivial
  | .compare _ left right, h => by
    rw [Predicate.Scoped] at h ⊢
    exact ⟨Column.Scoped.mono hs left h.1, Column.Scoped.mono hs right h.2⟩
  | .between c low high, h => by
    rw [Predicate.Scoped] at h ⊢
    exact ⟨Column.Scoped.mono hs c h.1, Column.Scoped.mono hs low h.2.1, Column.Scoped.mono hs high h.2.2⟩
  | .raw fragments, h => by
    rw [Predicate.Scoped] at h ⊢
    exact Fragment.AllScoped.mono hs fragments h
  | .and p q, h => by
    rw [Predicate.Scoped] at h ⊢
    exact ⟨Predicate.Scoped.mono hs p h.1, Predicate.Scoped.mono hs q h.2⟩
  | .or p q, h => by
    rw [Predicate.Scoped] at h ⊢
    exact ⟨Predicate.Scoped.mono hs p h.1, Predicate.Scoped.mono hs q h.2⟩
  | .not p, h => by
    rw [Predicate.Scoped] at h ⊢
    exact Predicate.Scoped.mono hs p h

theorem Fragment.AllScoped.mono {names more : List String} (hs : names ⊆ more) :
    (fs : List Fragment) → Fragment.AllScoped names fs → Fragment.AllScoped more fs
  | [], _ => by
    rw [Fragment.AllScoped]
    trivial
  | .text _ :: rest, h => by
    rw [Fragment.AllScoped] at h ⊢
    exact Fragment.AllScoped.mono hs rest h
  | .column c :: rest, h => by
    rw [Fragment.AllScoped] at h ⊢
    exact ⟨Column.Scoped.mono hs c h.1, Fragment.AllScoped.mono hs rest h.2⟩

end

end

/-! ## Tables joined from the left -/

def joined (root : String) (js : List Join) : Table :=
  js.foldl (fun left j => .leftJoin left (.named j.table (some j.aliasName)) j.on) (.named root none)

theorem joined_append (root : String) (js : List Join) (j : Join) :
    joined root (js ++ [j]) = .leftJoin (joined root js) (.named j.table (some j.aliasName)) j.on := by
  rw [joined, List.foldl_append]
  rfl

theorem names_joined (root : String) (js : List Join) :
    (joined root js).names = root :: js.map Join.aliasName := by
  induction js using List.reverseRecOn with
  | nil => rfl
  | append_singleton js j ih =>
    rw [joined_append, Table.names, ih, List.map_append]
    rfl

/-- A join is well scoped behind others if its alias is new and its condition knows the tables so
far. -/
theorem wellScoped_joined_append {root : String} {js : List Join} {j : Join}
    (h : (joined root js).WellScoped) (ha : j.aliasName ∉ root :: js.map Join.aliasName)
    (ho : j.on.Scoped (root :: (js ++ [j]).map Join.aliasName)) :
    (joined root (js ++ [j])).WellScoped := by
  rw [List.map_append, ← List.cons_append] at ho
  rw [joined_append, Table.WellScoped, names_joined]
  refine ⟨h, ?_, ?_, ho⟩
  · rw [Table.WellScoped]
    trivial
  · rw [Table.names, List.disjoint_singleton]
    exact ha

/-- The law of joins, place by place: the condition of a join is about the root and the joins up to
it. -/
theorem scoped_getElem_of_wellScoped {root : String} {js : List Join} (h : (joined root js).WellScoped)
    (n : Nat) (hn : n < js.length) :
    js[n].on.Scoped (root :: (js.take (n + 1)).map Join.aliasName) := by
  induction js using List.reverseRecOn with
  | nil => exact absurd hn (Nat.not_lt_zero n)
  | append_singleton js j ih =>
    rw [joined_append, Table.WellScoped, names_joined] at h
    rw [List.length_append, List.length_singleton] at hn
    rcases Nat.lt_or_ge n js.length with hlt | hge
    · rw [List.getElem_append_left hlt, List.take_append_of_le_length hlt]
      exact ih h.1 hlt
    · obtain rfl : n = js.length := by omega
      rw [List.getElem_concat_length rfl, List.take_of_length_le (by simp), List.map_append]
      exact h.2.2.2

theorem Table.WellScoped.nodup : (t : Table) → t.WellScoped → t.names.Nodup
  | .named _ _, _ => List.nodup_singleton _
  | .leftJoin left right _, h => by
    rw [Table.WellScoped] at h
    exact (Table.WellScoped.nodup left h.1).append (Table.WellScoped.nodup right h.2.1) h.2.2.1

/-! ## Drafts -/

namespace Draft

def names (d : Draft) : List String := d.table :: d.joins.map Join.aliasName

/-- Whether the parts of a draft are about its tables. -/
structure Scoped (d : Draft) : Prop where
  joins : (joined d.table d.joins).WellScoped
  columns : ∀ c ∈ d.columns, c.Scoped d.names
  condition : ∀ p ∈ d.condition, p.Scoped d.names
  order : ∀ o ∈ d.order, o.column.Scoped d.names

variable {d : Draft}

theorem names_source (d : Draft) : d.source.names = d.names := names_joined d.table d.joins

theorem Scoped.toSelect (h : d.Scoped) : d.toSelect.WellScoped := by
  rw [Draft.toSelect, Select.WellScoped, names_source, Column.allScoped_iff]
  refine ⟨h.joins, h.columns, ?_, ?_⟩
  · exact Predicate.closed_scoped.getD h.condition true
  · split
    · rw [OrderTerm.ClauseScoped]
      trivial
    · rw [OrderTerm.ClauseScoped, OrderTerm.allScoped_iff]
      exact h.order

theorem Scoped.andWhere (h : d.Scoped) {p : Predicate} (hp : p.Scoped d.names) : (d.andWhere p).Scoped := by
  refine { h with condition := ?_ }
  rintro _ ⟨⟩
  exact Predicate.closed_scoped.extend h.condition hp

theorem hasJoin_iff {a : String} : d.hasJoin a = true ↔ a ∈ d.joins.map Join.aliasName := by
  simp [hasJoin]

/-- Of joins under different names, those whose names are not there yet are added behind the joins
that are. -/
theorem foldl_addJoin {js : List Join} (h : (js.map Join.aliasName).Nodup) :
    js.foldl Draft.addJoin d = { d with joins := d.joins ++ js.filter fun j => !d.hasJoin j.aliasName } := by
  induction js generalizing d with
  | nil => rw [List.filter_nil, List.append_nil]; rfl
  | cons j js ih =>
    obtain ⟨hnew, hjs⟩ := List.nodup_cons.1 h
    rw [List.foldl_cons, ih hjs, addJoin]
    cases hj : d.hasJoin j.aliasName with
    | true => simp [hj]
    | false =>
      -- the join that is added now has none of the names to come
      have hrest : ∀ k ∈ js, (d.leftJoin j).hasJoin k.aliasName = d.hasJoin k.aliasName := by
        intro k hk
        have hne : j.aliasName ≠ k.aliasName := fun he => hnew (he ▸ List.mem_map_of_mem hk)
        simp [hasJoin, leftJoin, hne]
      rw [if_neg Bool.false_ne_true, List.filter_congr fun k hk => congrArg (!·) (hrest k hk)]
      simp [leftJoin, hj]

theorem foldl_addJoin_of_new {js : List Join} (h : (js.map Join.aliasName).Nodup)
    (hnew : ∀ j ∈ js, d.hasJoin j.aliasName = false) :
    js.foldl Draft.addJoin d = { d with joins := d.joins ++ js } := by
  rw [foldl_addJoin h, List.filter_eq_self.2 fun j hj => by rw [hnew j hj]; rfl]

end Draft

end PathQuery.Sql
