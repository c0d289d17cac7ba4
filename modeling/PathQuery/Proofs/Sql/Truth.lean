import Mathlib.Data.List.Forall2
import PathQuery.Proofs.Sql.Assignment

/-!
# The truth of built conditions

Equal columns have the same cells and equal conditions the same truth (`Column.cells_eq`,
`Predicate.truth_eq`), so the truths of conditions under an environment are an assignment
(`Dialect.assignment`), and conditions keep them when repeated operands and constants are left out:
`truth_conj`, and `truth_all` for any number of conditions under one connective.
-/

namespace PathQuery.Sql

variable {V : Type}

/-! ## Equal parts -/

theorem Table.nulls_eq (e : Env V) : (t t' : Table) → t.beq t' = true → t.nulls e = t'.nulls e
  | .named n a, .named n' a', h => by
    rw [Table.beq, Bool.and_eq_true, beq_iff_eq, beq_iff_eq] at h
    rw [h.1, h.2]
  | .leftJoin l r on, .leftJoin l' r' on', h => by
    rw [Table.beq, Bool.and_eq_true, Bool.and_eq_true] at h
    rw [Table.nulls, Table.nulls, Table.nulls_eq e l l' h.1.1, Table.nulls_eq _ r r' h.1.2]
  | .named _ _, .leftJoin _ _ _, h => by simp [Table.beq] at h
  | .leftJoin _ _ _, .named _ _, h => by simp [Table.beq] at h

theorem Column.isNull_eq : (c c' : Column) → c.beq c' = true → c.isNull = c'.isNull
  | .null, .null, _ => rfl
  | .null, .field _ _, h | .null, .param _, h | .null, .list _, h | .null, .query _, h
  | .null, .call _ _, h => by simp [Column.beq] at h
  | .field _ _, c', h | .param _, c', h | .list _, c', h | .query _, c', h | .call _ _, c', h => by
    cases c' with
    | null => simp [Column.beq] at h
    | _ => rfl

variable [DecidableEq V] {d : Dialect V} {db : Database V}

mutual

theorem Column.cells_eq (e : Env V) : (c c' : Column) → c.beq c' = true → c.cells d db e = c'.cells d db e
  | .field t n, c', h => by
    cases c' with
    | field t' n' =>
      rw [Column.beq, Bool.and_eq_true, beq_iff_eq, beq_iff_eq] at h
      rw [h.1, h.2]
    | _ => simp [Column.beq] at h
  | .param p, c', h => by
    cases c' with
    | param p' =>
      rw [Column.beq] at h
      rw [Column.cells, Column.cells, d.value_eq p p' h]
    | _ => simp [Column.beq] at h
  | .list cs, c', h => by
    cases c' with
    | list cs' =>
      rw [Column.beq] at h
      rw [Column.cells, Column.cells, Column.allCells_eq e cs cs' h]
    | _ => simp [Column.beq] at h
  | .query s, c', h => by
    cases c' with
    | query s' =>
      rw [Column.beq] at h
      rw [Column.cells, Column.cells, Select.results_eq e s s' h]
    | _ => simp [Column.beq] at h
  | .null, c', h => by
    cases c' with
    | null => rfl
    | _ => simp [Column.beq] at h
  | .call f c, c', h => by
    cases c' with
    | call f' c' =>
      rw [Column.beq, Bool.and_eq_true, beq_iff_eq] at h
      rw [Column.cells, Column.cells, h.1, Column.cells_eq e c c' h.2]
    | _ => simp [Column.beq] at h
  termination_by structural x => x

theorem Column.allCells_eq (e : Env V) : (cs cs' : List Column) → Column.beqList cs cs' = true →
    Column.allCells d db e cs = Column.allCells d db e cs'
  | [], [], _ => rfl
  | c :: cs, c' :: cs', h => by
    rw [Column.beqList, Bool.and_eq_true] at h
    rw [Column.allCells, Column.allCells, Column.cells_eq e c c' h.1, Column.allCells_eq e cs cs' h.2]
  | [], _ :: _, h => by simp [Column.beqList] at h
  | _ :: _, [], h => by simp [Column.beqList] at h
  termination_by structural x => x

theorem Predicate.truth_eq (e : Env V) : (p p' : Predicate) → p.beq p' = true →
    p.truth d db e = p'.truth d db e
  | .const b, p', h => by
    cases p' with
    | const b' =>
      rw [Predicate.beq, beq_iff_eq] at h
      rw [h]
    | _ => simp [Predicate.beq] at h
  | .compare op l r, p', h => by
    cases p' with
    | compare op' l' r' =>
      rw [Predicate.beq, Bool.and_eq_true, Bool.and_eq_true, beq_iff_eq] at h
      obtain ⟨⟨rfl, hl⟩, hr⟩ := h
      rw [Predicate.truth, Predicate.truth, Column.cells_eq e l l' hl, Column.cells_eq e r r' hr,
        Column.isNull_eq r r' hr]
    | _ => simp [Predicate.beq] at h
  | .between c l u, p', h => by
    cases p' with
    | between c' l' u' =>
      rw [Predicate.beq, Bool.and_eq_true, Bool.and_eq_true] at h
      rw [Predicate.truth, Predicate.truth, Column.cells_eq e c c' h.1.1, Column.cells_eq e l l' h.1.2,
        Column.cells_eq e u u' h.2]
    | _ => simp [Predicate.beq] at h
  | .raw fs, p', h => by
    cases p' with
    | raw fs' =>
      rw [Predicate.beq] at h
      rw [Predicate.truth, Predicate.truth, Fragment.parts_eq e fs fs' h]
    | _ => simp [Predicate.beq] at h
  | .and p q, p', h => by
    cases p' with
    | and p' q' =>
      rw [Predicate.beq, Bool.and_eq_true] at h
      rw [Predicate.truth, Predicate.truth, Predicate.truth_eq e p p' h.1, Predicate.truth_eq e q q' h.2]
    | _ => simp [Predicate.beq] at h
  | .or p q, p', h => by
    cases p' with
    | or p' q' =>
      rw [Predicate.beq, Bool.and_eq_true] at h
      rw [Predicate.truth, Predicate.truth, Predicate.truth_eq e p p' h.1, Predicate.truth_eq e q q' h.2]
    | _ => simp [Predicate.beq] at h
  | .not p, p', h => by
    cases p' with
    | not p' =>
      rw [Predicate.beq] at h
      rw [Predicate.truth, Predicate.truth, Predicate.truth_eq e p p' h]
    | _ => simp [Predicate.beq] at h
  termination_by structural x => x

theorem Fragment.parts_eq (e : Env V) : (fs fs' : List Fragment) → Fragment.beqList fs fs' = true →
    Fragment.parts d db e fs = Fragment.parts d db e fs'
  | [], [], _ => rfl
  | .text s :: fs, .text s' :: fs', h => by
    rw [Fragment.beqList, Fragment.beq, Bool.and_eq_true, beq_iff_eq] at h
    rw [Fragment.parts, Fragment.parts, h.1, Fragment.parts_eq e fs fs' h.2]
  | .column c :: fs, .column c' :: fs', h => by
    rw [Fragment.beqList, Fragment.beq, Bool.and_eq_true] at h
    rw [Fragment.parts, Fragment.parts, Column.cells_eq e c c' h.1, Fragment.parts_eq e fs fs' h.2]
  | [], _ :: _, h => by simp [Fragment.beqList] at h
  | _ :: _, [], h => by simp [Fragment.beqList] at h
  | .text _ :: _, .column _ :: _, h => by simp [Fragment.beqList, Fragment.beq] at h
  | .column _ :: _, .text _ :: _, h => by simp [Fragment.beqList, Fragment.beq] at h
  termination_by structural x => x

theorem Table.rows_eq (e : Env V) : (t t' : Table) → t.beq t' = true → t.rows d db e = t'.rows d db e
  | .named n a, .named n' a', h => by
    rw [Table.beq, Bool.and_eq_true, beq_iff_eq, beq_iff_eq] at h
    rw [h.1, h.2]
  | .leftJoin l r on, .leftJoin l' r' on', h => by
    rw [Table.beq, Bool.and_eq_true, Bool.and_eq_true] at h
    rw [Table.rows, Table.rows, Table.rows_eq e l l' h.1.1]
    have hon : (fun y => decide (on.truth d db y = .true)) = fun y => decide (on'.truth d db y = .true) :=
      funext fun y => by rw [Predicate.truth_eq y on on' h.2]
    rw [hon]
    refine congrArg ((l'.rows d db e).flatMap ·) (funext fun x => ?_)
    rw [Table.rows_eq x r r' h.1.2, Table.nulls_eq x r r' h.1.2]
  | .named _ _, .leftJoin _ _ _, h => by simp [Table.beq] at h
  | .leftJoin _ _ _, .named _ _, h => by simp [Table.beq] at h
  termination_by structural x => x

theorem OrderTerm.key_eq (e : Env V) : (o o' : OrderTerm) → o.beq o' = true → o.key d db e = o'.key d db e
  | ⟨c, direction⟩, ⟨c', direction'⟩, h => by
    rw [OrderTerm.beq, Bool.and_eq_true, beq_iff_eq] at h
    rw [OrderTerm.key, OrderTerm.key, Column.cells_eq e c c' h.1, h.2]
  termination_by structural x => x

theorem OrderTerm.keys_eq (e : Env V) : (os os' : List OrderTerm) → OrderTerm.beqList os os' = true →
    OrderTerm.keys d db e os = OrderTerm.keys d db e os'
  | [], [], _ => rfl
  | o :: os, o' :: os', h => by
    rw [OrderTerm.beqList, Bool.and_eq_true] at h
    rw [OrderTerm.keys, OrderTerm.keys, OrderTerm.key_eq e o o' h.1, OrderTerm.keys_eq e os os' h.2]
  | [], _ :: _, h => by simp [OrderTerm.beqList] at h
  | _ :: _, [], h => by simp [OrderTerm.beqList] at h
  termination_by structural x => x

theorem OrderTerm.sort_eq (rows : List (Env V)) : (o o' : Option (List OrderTerm)) →
    OrderTerm.beqOption o o' = true → OrderTerm.sort d db rows o = OrderTerm.sort d db rows o'
  | none, none, _ => rfl
  | some os, some os', h => by
    rw [OrderTerm.beqOption] at h
    rw [OrderTerm.sort, OrderTerm.sort]
    refine congrArg (rows.mergeSort ·) (funext fun a => funext fun b => ?_)
    rw [OrderTerm.keys_eq a os os' h, OrderTerm.keys_eq b os os' h]
  | none, some _, h => by simp [OrderTerm.beqOption] at h
  | some _, none, h => by simp [OrderTerm.beqOption] at h
  termination_by structural x => x

theorem Select.results_eq (e : Env V) : (s s' : Select) → s.beq s' = true →
    s.results d db e = s'.results d db e
  | ⟨t, cs, p, o, l, f⟩, ⟨t', cs', p', o', l', f'⟩, h => by
    rw [Select.beq] at h
    simp only [Bool.and_eq_true, beq_iff_eq] at h
    obtain ⟨⟨⟨⟨⟨ht, hcs⟩, hp⟩, ho⟩, rfl⟩, rfl⟩ := h
    have hon : (fun y => decide (p.truth d db y = .true)) = fun y => decide (p'.truth d db y = .true) :=
      funext fun y => by rw [Predicate.truth_eq y p p' hp]
    rw [Select.results, Select.results, Table.rows_eq e t t' ht, hon, OrderTerm.sort_eq _ o o' ho]
    exact congrArg (List.map · _) (funext fun r => by rw [Column.allCells_eq r cs cs' hcs])
  termination_by structural x => x

end

/-! ## Connectives -/

theorem Truth.both_eq_true {a b : Option V} :
    Truth.both (fun x y => x == y) a b = .true ↔ ∃ v, a = some v ∧ b = some v := by
  cases a with
  | none => simp [Truth.both]
  | some x =>
    cases b with
    | none => simp [Truth.both]
    | some y =>
      by_cases h : x = y
      · simp [Truth.both, Truth.ofBool, h]
      · simp [Truth.both, Truth.ofBool, h, Ne.symm h]

namespace Predicate

variable {e : Env V}

theorem truth_eq_fields (t n t' n' : String) :
    (Predicate.compare .eq (.field t n) (.field t' n')).truth d db e =
      Truth.both (fun x y => x == y) (e t n) (e t' n') := by
  rw [Predicate.truth, Column.cells, Column.cells]
  rfl

theorem truth_eq_param (t n : String) (p : Param) :
    (Predicate.compare .eq (.field t n) (.param p)).truth d db e =
      Truth.both (fun x y => x == y) (e t n) (some (d.value p)) := by
  rw [Predicate.truth, Column.cells, Column.cells]
  rfl

theorem truth_const (b : Bool) : (Predicate.const b).truth d db e = .ofBool b := by
  rw [Predicate.truth]

end Predicate

def Dialect.assignment (d : Dialect V) (db : Database V) (e : Env V) : Assignment where
  atom := Predicate.truth d db e
  atom_eq p q _ h := Predicate.truth_eq e p q h

theorem truth_assignment (e : Env V) : (p : Predicate) → (d.assignment db e).truth p = p.truth d db e
  | .const b => by rw [Predicate.truth, Assignment.truth]
  | .compare op l r => by rw [Assignment.truth, Dialect.assignment]
  | .between c l u => by rw [Assignment.truth, Dialect.assignment]
  | .raw fs => by rw [Assignment.truth, Dialect.assignment]
  | .and p q => by rw [Predicate.truth, Assignment.truth, truth_assignment e p, truth_assignment e q]
  | .or p q => by rw [Predicate.truth, Assignment.truth, truth_assignment e p, truth_assignment e q]
  | .not p => by rw [Predicate.truth, Assignment.truth, truth_assignment e p]
  termination_by structural p => p

theorem Predicate.truth_conj {e : Env V} (p q : Predicate) :
    (p.conj q).truth d db e = (p.truth d db e).and (q.truth d db e) := by
  simp only [← truth_assignment, Assignment.truth_conj]

omit [DecidableEq V] in
/-- The opposite of a test is true of two values where the test is false. -/
theorem Truth.both_not (test : V → V → Bool) (a b : Option V) :
    Truth.both (fun x y => !test x y) a b = (Truth.both test a b).not := by
  cases a with
  | none => rfl
  | some x =>
    cases b with
    | none => rfl
    | some y => exact Truth.ofBool_not (test x y)

/-- Inequality is as true as equality is false, and so are the two tests for null. -/
theorem Dialect.complementary (d : Dialect V) (db : Database V) (e : Env V) : (d.assignment db e).Complementary := by
  intro l r
  show (Predicate.compare .ne l r).truth d db e = ((Predicate.compare .eq l r).truth d db e).not
  rw [Predicate.truth, Predicate.truth]
  cases r.isNull with
  | true =>
    rw [Dialect.compare, Dialect.compare, ← Truth.ofBool_not]
    exact congrArg Truth.ofBool (Option.not_isNone _).symm
  | false => exact Truth.both_not (fun x y => x == y) _ _

theorem Predicate.truth_negate {e : Env V} (p : Predicate) : p.negate.truth d db e = (p.truth d db e).not := by
  simp only [← truth_assignment, Assignment.truth_negate (d.complementary db e)]

theorem Logical.truth_all (op : Logical) (ps : List Predicate) (e : Env V) :
    (op.all ps).map (Predicate.truth d db e) = op.total (ps.map (Predicate.truth d db e)) := by
  have htruth : (d.assignment db e).truth = Predicate.truth d db e := funext (truth_assignment e)
  rw [← htruth]
  exact (d.assignment db e).truth_all op ps

/-! ## Agreement -/

/-- Whether two truths are the same but for what is not true. -/
def Truth.Agree (a b : Truth) : Prop := a = .true ↔ b = .true

theorem Logical.agree_both {op : Logical} {a a' b b' : Truth} (ha : a.Agree a') (hb : b.Agree b') :
    (op.both a b).Agree (op.both a' b') := by
  unfold Truth.Agree at *
  cases op with
  | and => rw [both, Truth.and_eq_true, Truth.and_eq_true, ha, hb]
  | or => rw [both, Truth.or_eq_true, Truth.or_eq_true, ha, hb]

theorem Logical.agree_foldl {op : Logical} {as bs : List Truth} (h : List.Forall₂ Truth.Agree as bs)
    {a b : Truth} (hab : a.Agree b) : (as.foldl op.both a).Agree (bs.foldl op.both b) := by
  induction h generalizing a b with
  | nil => exact hab
  | cons ha _ ih => exact ih (agree_both hab ha)

theorem Logical.agree_total (op : Logical) {as bs : List Truth} (h : List.Forall₂ Truth.Agree as bs) :
    List.Forall₂ Truth.Agree (op.total as).toList (op.total bs).toList := by
  cases h with
  | nil => exact .nil
  | cons ha hs => exact .cons (agree_foldl hs ha) .nil

/-- Whether conditions agree with truths, one by one. -/
def Predicate.AgreeAll (d : Dialect V) (db : Database V) (e : Env V) (ps : List Predicate)
    (ts : List Truth) : Prop :=
  List.Forall₂ Truth.Agree (ps.map (Predicate.truth d db e)) ts

theorem Predicate.AgreeAll.append {e : Env V} {ps qs : List Predicate} {ts us : List Truth}
    (h : AgreeAll d db e ps ts) (h' : AgreeAll d db e qs us) : AgreeAll d db e (ps ++ qs) (ts ++ us) := by
  unfold AgreeAll at *
  rw [List.map_append]
  exact List.rel_append h h'

theorem Predicate.AgreeAll.all {e : Env V} {ps : List Predicate} {ts : List Truth} {op : Logical}
    (h : AgreeAll d db e ps ts) : AgreeAll d db e (op.all ps).toList (op.total ts).toList := by
  have ht := op.agree_total h
  rw [← Logical.truth_all] at ht
  unfold AgreeAll
  rwa [← Option.toList_map]

/-- The condition of a statement is true with the truths that its parts agree with. -/
theorem Predicate.AgreeAll.getD_all {e : Env V} {ps : List Predicate} {ts : List Truth} {op : Logical}
    (h : AgreeAll d db e ps ts) : (((op.all ps).getD (.const true)).truth d db e = .true) ↔
      (op.total ts).getD .true = .true := by
  have hall : AgreeAll d db e (op.all ps).toList (op.total ts).toList := h.all
  unfold AgreeAll at hall
  cases hp : op.all ps with
  | none =>
    rw [hp] at hall
    have ht : (op.total ts).toList = [] := List.forall₂_nil_left_iff.1 hall
    rw [Option.toList_eq_nil_iff.1 ht, Option.getD_none, Option.getD_none, truth_const]
    rfl
  | some p =>
    rw [hp, Option.toList_some, List.map_singleton] at hall
    cases ht : op.total ts with
    | none =>
      rw [ht] at hall
      cases hall
    | some t =>
      rw [ht] at hall
      obtain ⟨hpt, -⟩ := List.forall₂_cons.1 hall
      exact hpt

/-! ## What is true under a connective -/

/-- Whether all of some truths are true, or one of them. -/
def Logical.Holds : Logical → List Truth → Prop
  | .and, ts => ∀ t ∈ ts, t = .true
  | .or, ts => ∃ t ∈ ts, t = .true

namespace Logical

variable {op : Logical} {ts us : List Truth}

theorem holds_nil_iff : op.Holds [] ↔ op = .and := by
  cases op with
  | and => simp [Holds]
  | or => simp [Holds]

theorem holds_and_cons {t : Truth} : Logical.and.Holds (t :: ts) ↔ t = .true ∧ Logical.and.Holds ts :=
  List.forall_mem_cons

theorem holds_or_cons {t : Truth} : Logical.or.Holds (t :: ts) ↔ t = .true ∨ Logical.or.Holds ts :=
  List.exists_mem_cons_iff _ _ _

theorem holds_singleton {t : Truth} : op.Holds [t] ↔ t = .true := by
  cases op with
  | and => rw [holds_and_cons, holds_nil_iff, and_iff_left rfl]
  | or => rw [holds_or_cons, holds_nil_iff, or_iff_left (by simp)]

theorem holds_and_append : Logical.and.Holds (ts ++ us) ↔ Logical.and.Holds ts ∧ Logical.and.Holds us :=
  List.forall_mem_append

theorem holds_or_append : Logical.or.Holds (ts ++ us) ↔ Logical.or.Holds ts ∨ Logical.or.Holds us := by
  unfold Holds
  constructor
  · rintro ⟨t, ht, htrue⟩
    exact (List.mem_append.1 ht).imp (fun h => ⟨t, h, htrue⟩) fun h => ⟨t, h, htrue⟩
  · rintro (⟨t, ht, htrue⟩ | ⟨t, ht, htrue⟩)
    · exact ⟨t, List.mem_append_left us ht, htrue⟩
    · exact ⟨t, List.mem_append_right ts ht, htrue⟩

/-- A single truth is the same under both connectives. -/
theorem holds_iff_of_length (h : op = .or → ts.length = 1) : op.Holds ts ↔ Logical.and.Holds ts := by
  cases op with
  | and => exact Iff.rfl
  | or =>
    obtain ⟨t, rfl⟩ := List.length_eq_one_iff.1 (h rfl)
    rw [holds_singleton, holds_singleton]

theorem foldl_both_eq_true {t : Truth} : ts.foldl op.both t = .true ↔ op.Holds (t :: ts) := by
  induction ts generalizing t with
  | nil => exact holds_singleton.symm
  | cons u ts ih =>
    rw [List.foldl_cons, ih]
    cases op with
    | and => rw [holds_and_cons, holds_and_cons, holds_and_cons, both, Truth.and_eq_true, and_assoc]
    | or => rw [holds_or_cons, holds_or_cons, holds_or_cons, both, Truth.or_eq_true, or_assoc]

/-- Truths that come to one under a connective hold under any other as they hold under their own. -/
theorem holds_total (op' : Logical) (h : ts ≠ []) : op'.Holds (op.total ts).toList ↔ op.Holds ts := by
  obtain ⟨t, ts, rfl⟩ := List.exists_cons_of_ne_nil h
  rw [total, Option.toList_some, holds_singleton, foldl_both_eq_true]

theorem toList_total_eq_nil : (op.total ts).toList = [] ↔ ts = [] := by
  cases ts with
  | nil => exact iff_of_true rfl rfl
  | cons t ts => exact iff_of_false (List.cons_ne_nil _ _) (List.cons_ne_nil _ _)

theorem getD_total_and : (Logical.and.total ts).getD .true = .true ↔ Logical.and.Holds ts := by
  cases ts with
  | nil => exact iff_of_true rfl (holds_nil_iff.2 rfl)
  | cons t ts => exact foldl_both_eq_true

end Logical

theorem Truth.among_eq_true {cell : Option V} {cells : List (Option V)} :
    Truth.among cell cells = .true ↔ ∃ v, cell = some v ∧ some v ∈ cells := by
  induction cells with
  | nil => simp [among]
  | cons c cells ih =>
    rw [among, or_eq_true, both_eq_true, ih]
    constructor
    · rintro (⟨v, hv, hc⟩ | ⟨v, hv, hc⟩)
      · exact ⟨v, hv, hc ▸ List.mem_cons_self⟩
      · exact ⟨v, hv, List.mem_cons_of_mem c hc⟩
    · rintro ⟨v, hv, hc⟩
      rcases List.mem_cons.1 hc with hc | hc
      · exact .inl ⟨v, hv, hc.symm⟩
      · exact .inr ⟨v, hv, hc⟩

end PathQuery.Sql
