import PathQuery.Proofs.Sql.Scope

/-!
# Names of tables changed

`Column.rename`, `Predicate.rename`, `Select.rename` : a part of a statement with other names for
its tables, in columns and in the aliases of joins, while the tables themselves stay the same.

If no two names are changed to one, renaming keeps equality (`Predicate.beq_rename`), so the
connectives simplify what is renamed as they do what it was (`Predicate.conj_rename`,
`Predicate.disj_rename`, `Logical.all_rename`).
-/

namespace PathQuery.Sql

mutual

def Column.rename (ρ : String → String) : Column → Column
  | .field table name => .field (ρ table) name
  | .param p => .param p
  | .list items => .list (Column.renameAll ρ items)
  | .query s => .query (s.rename ρ)
  | .null => .null
  | .call function argument => .call function (argument.rename ρ)

def Column.renameAll (ρ : String → String) : List Column → List Column
  | [] => []
  | c :: cs => c.rename ρ :: Column.renameAll ρ cs

def Predicate.rename (ρ : String → String) : Predicate → Predicate
  | .const value => .const value
  | .compare op left right => .compare op (left.rename ρ) (right.rename ρ)
  | .between c low high => .between (c.rename ρ) (low.rename ρ) (high.rename ρ)
  | .raw fragments => .raw (Fragment.renameAll ρ fragments)
  | .and p q => .and (p.rename ρ) (q.rename ρ)
  | .or p q => .or (p.rename ρ) (q.rename ρ)
  | .not p => .not (p.rename ρ)

def Fragment.rename (ρ : String → String) : Fragment → Fragment
  | .text s => .text s
  | .column c => .column (c.rename ρ)

def Fragment.renameAll (ρ : String → String) : List Fragment → List Fragment
  | [] => []
  | f :: fs => f.rename ρ :: Fragment.renameAll ρ fs

def Table.rename (ρ : String → String) : Table → Table
  | .named name aliasName => .named name (aliasName.map ρ)
  | .leftJoin left right on => .leftJoin (left.rename ρ) (right.rename ρ) (on.rename ρ)

def OrderTerm.rename (ρ : String → String) : OrderTerm → OrderTerm
  | ⟨c, direction⟩ => ⟨c.rename ρ, direction⟩

def OrderTerm.renameAll (ρ : String → String) : List OrderTerm → List OrderTerm
  | [] => []
  | o :: os => o.rename ρ :: OrderTerm.renameAll ρ os

def OrderTerm.renameClause (ρ : String → String) : Option (List OrderTerm) → Option (List OrderTerm)
  | none => none
  | some os => some (OrderTerm.renameAll ρ os)

def Select.rename (ρ : String → String) : Select → Select
  | ⟨source, columns, condition, order, limit, offset⟩ =>
    ⟨source.rename ρ, Column.renameAll ρ columns, condition.rename ρ, OrderTerm.renameClause ρ order, limit, offset⟩

end

variable {ρ : String → String}

theorem Column.renameAll_eq_map (cs : List Column) : Column.renameAll ρ cs = cs.map (Column.rename ρ) := by
  induction cs with
  | nil => rfl
  | cons c cs ih => rw [renameAll, ih, List.map_cons]

theorem OrderTerm.renameAll_eq_map (os : List OrderTerm) : OrderTerm.renameAll ρ os = os.map (OrderTerm.rename ρ) := by
  induction os with
  | nil => rfl
  | cons o os ih => rw [renameAll, ih, List.map_cons]

/-! ## Equality -/

mutual

theorem Column.beq_rename (hρ : ρ.Injective) : (c c' : Column) → (c.rename ρ).beq (c'.rename ρ) = c.beq c'
  | .field t n, c' => by
    cases c' with
    | field t' n' => rw [Column.rename, Column.rename, Column.beq, Column.beq, hρ.beq_eq]
    | _ => simp [Column.rename, Column.beq]
  | .param p, c' => by cases c' <;> simp [Column.rename, Column.beq]
  | .list cs, c' => by
    cases c' with
    | list cs' => rw [Column.rename, Column.rename, Column.beq, Column.beq, Column.beqList_rename hρ cs cs']
    | _ => simp [Column.rename, Column.beq]
  | .query s, c' => by
    cases c' with
    | query s' => rw [Column.rename, Column.rename, Column.beq, Column.beq, Select.beq_rename hρ s s']
    | _ => simp [Column.rename, Column.beq]
  | .null, c' => by cases c' <;> simp [Column.rename, Column.beq]
  | .call f c, c' => by
    cases c' with
    | call f' c' => rw [Column.rename, Column.rename, Column.beq, Column.beq, Column.beq_rename hρ c c']
    | _ => simp [Column.rename, Column.beq]

theorem Column.beqList_rename (hρ : ρ.Injective) : (cs cs' : List Column) →
    Column.beqList (Column.renameAll ρ cs) (Column.renameAll ρ cs') = Column.beqList cs cs'
  | [], [] => rfl
  | [], c :: cs => by simp [Column.renameAll, Column.beqList]
  | c :: cs, [] => by simp [Column.renameAll, Column.beqList]
  | c :: cs, c' :: cs' => by
    rw [Column.renameAll, Column.renameAll, Column.beqList, Column.beqList, Column.beq_rename hρ c c',
      Column.beqList_rename hρ cs cs']

theorem Predicate.beq_rename (hρ : ρ.Injective) : (p p' : Predicate) → (p.rename ρ).beq (p'.rename ρ) = p.beq p'
  | .const _, p' => by cases p' <;> simp [Predicate.rename, Predicate.beq]
  | .compare op l r, p' => by
    cases p' with
    | compare op' l' r' =>
      rw [Predicate.rename, Predicate.rename, Predicate.beq, Predicate.beq, Column.beq_rename hρ l l',
        Column.beq_rename hρ r r']
    | _ => simp [Predicate.rename, Predicate.beq]
  | .between c l h, p' => by
    cases p' with
    | between c' l' h' =>
      rw [Predicate.rename, Predicate.rename, Predicate.beq, Predicate.beq, Column.beq_rename hρ c c',
        Column.beq_rename hρ l l', Column.beq_rename hρ h h']
    | _ => simp [Predicate.rename, Predicate.beq]
  | .raw fs, p' => by
    cases p' with
    | raw fs' =>
      rw [Predicate.rename, Predicate.rename, Predicate.beq, Predicate.beq, Fragment.beqList_rename hρ fs fs']
    | _ => simp [Predicate.rename, Predicate.beq]
  | .and p q, p' => by
    cases p' with
    | and p' q' =>
      rw [Predicate.rename, Predicate.rename, Predicate.beq, Predicate.beq, Predicate.beq_rename hρ p p',
        Predicate.beq_rename hρ q q']
    | _ => simp [Predicate.rename, Predicate.beq]
  | .or p q, p' => by
    cases p' with
    | or p' q' =>
      rw [Predicate.rename, Predicate.rename, Predicate.beq, Predicate.beq, Predicate.beq_rename hρ p p',
        Predicate.beq_rename hρ q q']
    | _ => simp [Predicate.rename, Predicate.beq]
  | .not p, p' => by
    cases p' with
    | not p' => rw [Predicate.rename, Predicate.rename, Predicate.beq, Predicate.beq, Predicate.beq_rename hρ p p']
    | _ => simp [Predicate.rename, Predicate.beq]

theorem Fragment.beq_rename (hρ : ρ.Injective) : (f f' : Fragment) → (f.rename ρ).beq (f'.rename ρ) = f.beq f'
  | .text _, f' => by cases f' <;> simp [Fragment.rename, Fragment.beq]
  | .column c, f' => by
    cases f' with
    | column c' => rw [Fragment.rename, Fragment.rename, Fragment.beq, Fragment.beq, Column.beq_rename hρ c c']
    | text _ => simp [Fragment.rename, Fragment.beq]

theorem Fragment.beqList_rename (hρ : ρ.Injective) : (fs fs' : List Fragment) →
    Fragment.beqList (Fragment.renameAll ρ fs) (Fragment.renameAll ρ fs') = Fragment.beqList fs fs'
  | [], [] => rfl
  | [], f :: fs => by simp [Fragment.renameAll, Fragment.beqList]
  | f :: fs, [] => by simp [Fragment.renameAll, Fragment.beqList]
  | f :: fs, f' :: fs' => by
    rw [Fragment.renameAll, Fragment.renameAll, Fragment.beqList, Fragment.beqList, Fragment.beq_rename hρ f f',
      Fragment.beqList_rename hρ fs fs']

theorem Table.beq_rename (hρ : ρ.Injective) : (t t' : Table) → (t.rename ρ).beq (t'.rename ρ) = t.beq t'
  | .named n a, t' => by
    cases t' with
    | named n' a' =>
      rw [Table.rename, Table.rename, Table.beq, Table.beq, (Option.map_injective hρ).beq_eq]
    | _ => simp [Table.rename, Table.beq]
  | .leftJoin l r on, t' => by
    cases t' with
    | leftJoin l' r' on' =>
      rw [Table.rename, Table.rename, Table.beq, Table.beq, Table.beq_rename hρ l l', Table.beq_rename hρ r r',
        Predicate.beq_rename hρ on on']
    | _ => simp [Table.rename, Table.beq]

theorem OrderTerm.beqList_rename (hρ : ρ.Injective) : (os os' : List OrderTerm) →
    OrderTerm.beqList (OrderTerm.renameAll ρ os) (OrderTerm.renameAll ρ os') = OrderTerm.beqList os os'
  | [], [] => rfl
  | [], o :: os => by simp [OrderTerm.renameAll, OrderTerm.beqList]
  | o :: os, [] => by simp [OrderTerm.renameAll, OrderTerm.beqList]
  | ⟨c, d⟩ :: os, ⟨c', d'⟩ :: os' => by
    rw [OrderTerm.renameAll, OrderTerm.renameAll, OrderTerm.beqList, OrderTerm.beqList, OrderTerm.rename,
      OrderTerm.rename, OrderTerm.beq, OrderTerm.beq, Column.beq_rename hρ c c', OrderTerm.beqList_rename hρ os os']

theorem OrderTerm.beqOption_rename (hρ : ρ.Injective) : (o o' : Option (List OrderTerm)) →
    OrderTerm.beqOption (OrderTerm.renameClause ρ o) (OrderTerm.renameClause ρ o') = OrderTerm.beqOption o o'
  | none, none => rfl
  | none, some os => by simp [OrderTerm.renameClause, OrderTerm.beqOption]
  | some os, none => by simp [OrderTerm.renameClause, OrderTerm.beqOption]
  | some os, some os' => by
    rw [OrderTerm.renameClause, OrderTerm.renameClause, OrderTerm.beqOption, OrderTerm.beqOption,
      OrderTerm.beqList_rename hρ os os']

theorem Select.beq_rename (hρ : ρ.Injective) : (s s' : Select) → (s.rename ρ).beq (s'.rename ρ) = s.beq s'
  | ⟨t, cs, p, o, l, f⟩, ⟨t', cs', p', o', l', f'⟩ => by
    rw [Select.rename, Select.rename, Select.beq, Select.beq, Table.beq_rename hρ t t', Column.beqList_rename hρ cs cs',
      Predicate.beq_rename hρ p p', OrderTerm.beqOption_rename hρ o o']

end

/-! ## Connectives -/

namespace Predicate

/-- The value of a condition that is decided beforehand. -/
def value? : Predicate → Option Bool
  | .const b => some b
  | _ => none

theorem value?_rename (p : Predicate) : (p.rename ρ).value? = p.value? := by
  cases p <;> rfl

/-- What a conjunction comes to is up to the values of both sides, and to whether they are the
same. -/
theorem conj_eq (p q : Predicate) : p.conj q =
    match p.value?, q.value? with
    | some false, _ => .const false
    | _, some false => .const false
    | some true, _ => q
    | _, some true => p
    | none, none => if p == q then p else .and p q := by
  rcases p with (_ | _) | _ | _ | _ | _ | _ | _ <;> rcases q with (_ | _) | _ | _ | _ | _ | _ | _ <;> rfl

theorem disj_eq (p q : Predicate) : p.disj q =
    match p.value?, q.value? with
    | some true, _ => .const true
    | _, some true => .const true
    | some false, _ => q
    | _, some false => p
    | none, none => if p == q then p else .or p q := by
  rcases p with (_ | _) | _ | _ | _ | _ | _ | _ <;> rcases q with (_ | _) | _ | _ | _ | _ | _ | _ <;> rfl

theorem conj_rename (hρ : ρ.Injective) (p q : Predicate) : (p.conj q).rename ρ = (p.rename ρ).conj (q.rename ρ) := by
  have hbeq : (p.rename ρ == q.rename ρ) = (p == q) := beq_rename hρ p q
  rw [conj_eq, conj_eq, value?_rename, value?_rename, hbeq]
  rcases p.value? with _ | _ | _ <;> rcases q.value? with _ | _ | _ <;> first | rfl | exact apply_ite _ _ _ _

theorem disj_rename (hρ : ρ.Injective) (p q : Predicate) : (p.disj q).rename ρ = (p.rename ρ).disj (q.rename ρ) := by
  have hbeq : (p.rename ρ == q.rename ρ) = (p == q) := beq_rename hρ p q
  rw [disj_eq, disj_eq, value?_rename, value?_rename, hbeq]
  rcases p.value? with _ | _ | _ <;> rcases q.value? with _ | _ | _ <;> first | rfl | exact apply_ite _ _ _ _

end Predicate

namespace Logical

variable (op : Logical)

theorem combine_rename (hρ : ρ.Injective) (p q : Predicate) :
    (op.combine p q).rename ρ = op.combine (p.rename ρ) (q.rename ρ) := by
  cases op with
  | and => exact Predicate.conj_rename hρ p q
  | or => exact Predicate.disj_rename hρ p q

theorem extend_rename (hρ : ρ.Injective) (o : Option Predicate) (p : Predicate) :
    (op.extend o p).rename ρ = op.extend (o.map (Predicate.rename ρ)) (p.rename ρ) := by
  cases o with
  | none => rfl
  | some q => exact op.combine_rename hρ q p

theorem foldl_push_rename (hρ : ρ.Injective) (o : Option Predicate) (ps : List Predicate) :
    ((ps.foldl Group.push ⟨op, o⟩).condition).map (Predicate.rename ρ) =
      ((ps.map (Predicate.rename ρ)).foldl Group.push ⟨op, o.map (Predicate.rename ρ)⟩).condition := by
  induction ps generalizing o with
  | nil => rfl
  | cons p ps ih =>
    rw [List.foldl_cons, List.map_cons, List.foldl_cons]
    have hpush : Group.push ⟨op, o.map (Predicate.rename ρ)⟩ (p.rename ρ) =
        ⟨op, (some (op.extend o p)).map (Predicate.rename ρ)⟩ := by
      rw [Option.map_some, op.extend_rename hρ]
      rfl
    rw [hpush]
    exact ih (some (op.extend o p))

/-- Conditions come to the same under one connective, whatever names their tables go by. -/
theorem all_rename (hρ : ρ.Injective) (ps : List Predicate) :
    (op.all ps).map (Predicate.rename ρ) = op.all (ps.map (Predicate.rename ρ)) :=
  op.foldl_push_rename hρ none ps

end Logical

/-! ## Drafts -/

def Join.rename (ρ : String → String) (j : Join) : Join := ⟨j.table, ρ j.aliasName, j.on.rename ρ⟩

namespace Draft

def rename (ρ : String → String) (d : Draft) : Draft where
  table := d.table
  columns := d.columns.map (Column.rename ρ)
  joins := d.joins.map (Join.rename ρ)
  condition := d.condition.map (Predicate.rename ρ)
  order := d.order.map (OrderTerm.rename ρ)
  limit := d.limit
  offset := d.offset

theorem source_rename (d : Draft) : (d.rename ρ).source = d.source.rename ρ := by
  show joined d.table (d.joins.map (Join.rename ρ)) = (joined d.table d.joins).rename ρ
  induction d.joins using List.reverseRecOn with
  | nil => rfl
  | append_singleton js j ih =>
    rw [List.map_append, List.map_singleton, joined_append, joined_append, ih]
    rfl

theorem toSelect_rename (d : Draft) : (d.rename ρ).toSelect = d.toSelect.rename ρ := by
  have horder : (if (d.rename ρ).order.isEmpty then none else some (d.rename ρ).order) =
      OrderTerm.renameClause ρ (if d.order.isEmpty then none else some d.order) := by
    show (if (d.order.map _).isEmpty then none else some (d.order.map _)) = _
    cases d.order with
    | nil => rfl
    | cons o os => exact congrArg some (OrderTerm.renameAll_eq_map (o :: os)).symm
  have hcondition : (d.rename ρ).condition.getD (.const true) = (d.condition.getD (.const true)).rename ρ := by
    show (d.condition.map _).getD _ = _
    cases d.condition <;> rfl
  unfold toSelect
  rw [source_rename, horder, hcondition, Select.rename, Column.renameAll_eq_map]
  rfl

theorem hasJoin_rename (hρ : ρ.Injective) (d : Draft) (a : String) : (d.rename ρ).hasJoin (ρ a) = d.hasJoin a := by
  unfold hasJoin rename
  rw [List.any_map]
  exact List.any_congr rfl fun j => hρ.beq_eq

theorem addJoin_rename (hρ : ρ.Injective) (d : Draft) (j : Join) :
    (d.rename ρ).addJoin (j.rename ρ) = (d.addJoin j).rename ρ := by
  unfold addJoin
  rw [show (j.rename ρ).aliasName = ρ j.aliasName from rfl, hasJoin_rename hρ]
  split
  · rfl
  · simp [leftJoin, rename]

theorem foldl_addJoin_rename (hρ : ρ.Injective) (d : Draft) (js : List Join) :
    (js.map (Join.rename ρ)).foldl addJoin (d.rename ρ) = (js.foldl addJoin d).rename ρ := by
  induction js generalizing d with
  | nil => rfl
  | cons j js ih => rw [List.map_cons, List.foldl_cons, List.foldl_cons, addJoin_rename hρ, ih]

theorem andWhere_rename (hρ : ρ.Injective) (d : Draft) (p : Predicate) :
    (d.rename ρ).andWhere (p.rename ρ) = (d.andWhere p).rename ρ := by
  unfold andWhere restrict rename
  rw [Option.map_some, Logical.extend_rename _ hρ]

end Draft

end PathQuery.Sql
