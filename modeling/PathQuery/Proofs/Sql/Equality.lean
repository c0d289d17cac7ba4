import PathQuery.Proofs.Sql.Truth

/-!
# Equality that is decided at once

* `Column.row` : the cells of a side of an equality, one for each item of a list;
* `Dialect.equality`, `Dialect.inequality` : the truth of an equality and of its opposite as they
  are written;
* `Dialect.rowwise` : the truths of conditions, equality being one of rows;
* `Dialect.Decides` : whether the database comes to what is decided without it.

Two columns that are the same count as equal, and two parameters that are not equal as different.
What is built keeps the truth of the comparison exactly where the database comes to the same
(`truth_equality_iff_decides`): not if a cell that is compared with itself is null, and not for one
number in two widths (`truth_decided_wrongly`).
-/

namespace PathQuery.Sql

variable {V : Type}

/-- A row as one cell: a single cell as it is, others as the value that a dialect makes of them. -/
def packed (tuple : List (Option V) → V) : List (Option V) → Option V
  | [c] => c
  | cs => some (tuple cs)

/-- Whether a row is null in all of its cells or in none. -/
def Whole (row : List (Option V)) : Prop := (∃ c ∈ row, c.isSome = true) ↔ ∀ c ∈ row, c.isSome = true

variable [DecidableEq V]

/-- The truth of the equality of two rows, cell by cell; rows of different lengths cannot be
compared. -/
def Truth.rows : List (Option V) → List (Option V) → Truth
  | [], [] => .true
  | a :: as, b :: bs => (Truth.both (fun x y => x == y) a b).and (Truth.rows as bs)
  | _, _ => .unknown

variable (d : Dialect V) (tuple : List (Option V) → V) (db : Database V) (e : Env V)

mutual

/-- The row that a column is in an equality: a cell for each item of a list, a single one for any
other column. -/
def Column.row : Column → List (Option V)
  | .list items => Column.rowItems items
  | c => [single (c.cells d db e)]
  termination_by structural x => x

def Column.rowItems : List Column → List (Option V)
  | [] => []
  | c :: cs => packed tuple c.row :: Column.rowItems cs
  termination_by structural x => x

end

namespace Dialect

/-- The truth of `l = r`, which is `l IS NULL` if `NULL` itself stands on the right. -/
def equality (l r : Column) : Truth :=
  if r.isNull then .ofBool ((l.row d tuple db e).all Option.isNone)
  else .rows (l.row d tuple db e) (r.row d tuple db e)

/-- The truth of `l <> r`, or of `l IS NOT NULL`, which asks for all cells of a row. -/
def inequality (l r : Column) : Truth :=
  if r.isNull then .ofBool ((l.row d tuple db e).all Option.isSome)
  else (Truth.rows (l.row d tuple db e) (r.row d tuple db e)).not

/-- Whether the database comes to what is decided about two columns without it: no cell of a column
is null that is compared with itself, and parameters that are not equal as such have different
values. -/
structure Decides (l r : Column) : Prop where
  same : (l == r) = true → r.isNull = true ∨ ∀ c ∈ l.row d tuple db e, c.isSome = true
  params : ∀ p q, l = .param p → r = .param q → (p == q) = false → d.value p ≠ d.value q

end Dialect

/-! ## Rows -/

section

variable {d tuple db e}

mutual

theorem Column.row_eq : (c c' : Column) → c.beq c' = true → c.row d tuple db e = c'.row d tuple db e
  | .list cs, c', h => by
    cases c' with
    | list cs' =>
      rw [Column.beq] at h
      exact Column.rowItems_eq cs cs' h
    | _ => simp [Column.beq] at h
  | .field _ _, c', h | .param _, c', h | .query _, c', h | .null, c', h | .call _ _, c', h => by
    cases c' with
    | list => simp [Column.beq] at h
    | _ => exact congrArg (fun cells => [single cells]) (Column.cells_eq e _ _ h)
  termination_by structural x => x

theorem Column.rowItems_eq : (cs cs' : List Column) → Column.beqList cs cs' = true →
    Column.rowItems d tuple db e cs = Column.rowItems d tuple db e cs'
  | [], [], _ => rfl
  | c :: cs, c' :: cs', h => by
    rw [Column.beqList, Bool.and_eq_true] at h
    rw [Column.rowItems, Column.rowItems, Column.row_eq c c' h.1, Column.rowItems_eq cs cs' h.2]
  | [], _ :: _, h => by simp [Column.beqList] at h
  | _ :: _, [], h => by simp [Column.beqList] at h
  termination_by structural x => x

end

end

theorem Truth.rows_self {row : List (Option V)} : Truth.rows row row = .true ↔ ∀ c ∈ row, c.isSome = Bool.true := by
  induction row with
  | nil => simp [Truth.rows]
  | cons c row ih =>
    have hcell : Truth.both (fun x y => x == y) c c = .true ↔ c.isSome = Bool.true := by
      rw [Truth.both_eq_true, Option.isSome_iff_exists]
      exact exists_congr fun v => and_self_iff
    rw [Truth.rows, Truth.and_eq_true, hcell, ih, List.forall_mem_cons]

section

variable {d tuple db e} {l r : Column}

omit [DecidableEq V] in
theorem eq_null_of_beq (h : (l == r) = true) (hnull : r.isNull = true) : l = .null := by
  have heq := Column.isNull_eq l r h
  rw [hnull] at heq
  cases l with
  | null => rfl
  | _ => exact absurd heq Bool.false_ne_true

omit [DecidableEq V] in
theorem whole_singleton (c : Option V) : Whole [c] := by
  cases c <;> simp [Whole]

theorem Dialect.equality_self (h : (l == r) = true) : d.equality tuple db e l r = .true ↔
    r.isNull = true ∨ ∀ c ∈ l.row d tuple db e, c.isSome = true := by
  unfold equality
  split
  next hnull =>
    obtain rfl := eq_null_of_beq h hnull
    exact iff_of_true rfl (.inl hnull)
  next hnull =>
    rw [← Column.row_eq l r h, Truth.rows_self]
    exact (or_iff_right hnull).symm

theorem Dialect.equality_params (p q : Param) :
    d.equality tuple db e (.param p) (.param q) = .ofBool (d.value p == d.value q) :=
  Truth.and_true _

/-- The two columns of a comparison are the same, or are parameters that are not equal, or are
compared in the statement. -/
theorem Predicate.equals_cases (l r : Column) :
    (l == r) = true ∧ equals l r = .const true ∨
      (∃ p q, l = .param p ∧ r = .param q ∧ (p == q) = false ∧ equals l r = .const false) ∨
      (l == r) = false ∧ (∀ p q, l = .param p → r = .param q → (p == q) = true) ∧ equals l r = .compare .eq l r := by
  unfold equals
  split
  next h => exact .inl ⟨h, rfl⟩
  next h =>
    have hne : (l == r) = false := eq_false_of_ne_true h
    split
    next hparam =>
      unfold Column.sameParam? at hparam
      split at hparam
      next p q => exact .inr (.inl ⟨p, q, rfl, rfl, Option.some.inj hparam, rfl⟩)
      next => exact absurd hparam (by simp)
    next hparam =>
      refine .inr (.inr ⟨hne, ?_, rfl⟩)
      rintro p q rfl rfl
      exact eq_true_of_ne_false fun hpq => hparam (congrArg some hpq)

end

/-- The truths of conditions, equality being one of rows. -/
def Dialect.rowwise : Assignment where
  atom
    | .compare .eq l r => d.equality tuple db e l r
    | .compare .ne l r => d.inequality tuple db e l r
    | p => p.truth d db e
  atom_eq p q _ h := by
    cases p with
    | compare op l r =>
      cases q with
      | compare op' l' r' =>
        have hsides := h
        rw [Predicate.beq, Bool.and_eq_true, Bool.and_eq_true, beq_iff_eq] at hsides
        obtain ⟨⟨rfl, hl⟩, hr⟩ := hsides
        have hnull := Column.isNull_eq r r' hr
        have hlrow : l.row d tuple db e = l'.row d tuple db e := Column.row_eq l l' hl
        have hrrow : r.row d tuple db e = r'.row d tuple db e := Column.row_eq r r' hr
        cases op with
        | eq =>
          show d.equality tuple db e l r = d.equality tuple db e l' r'
          rw [equality, equality, hnull, hlrow, hrrow]
        | ne =>
          show d.inequality tuple db e l r = d.inequality tuple db e l' r'
          rw [inequality, inequality, hnull, hlrow, hrrow]
        | _ => exact Predicate.truth_eq e _ _ h
      | _ => simp [Predicate.beq] at h
    | _ =>
      cases q with
      | compare => simp [Predicate.beq] at h
      | _ => exact Predicate.truth_eq e _ _ h

section

variable {d tuple db e} {l r : Column}

theorem Column.param_beq (p q : Param) : (Column.param p == Column.param q) = (p == q) := by
  show Column.beq _ _ = _
  rw [Column.beq]

/-- What is built of two columns has the truth of `l = r` exactly if the database comes to what is
decided. -/
theorem truth_equals_eq_iff : (d.rowwise tuple db e).truth (.equals l r) = d.equality tuple db e l r ↔
    d.Decides tuple db e l r := by
  obtain ⟨hsame, heq⟩ | ⟨p, q, rfl, rfl, hpq, heq⟩ | ⟨hsame, hparams, heq⟩ := Predicate.equals_cases l r
  · rw [heq, eq_comm]
    refine (Dialect.equality_self hsame).trans ⟨fun h => ⟨fun _ => h, ?_⟩, fun h => h.same hsame⟩
    rintro p q rfl rfl hpq
    rw [Column.param_beq, hpq] at hsame
    exact absurd hsame Bool.false_ne_true
  · rw [heq, Dialect.equality_params]
    have hvalues : Truth.ofBool false = .ofBool (d.value p == d.value q) ↔ d.value p ≠ d.value q := by
      by_cases h : d.value p = d.value q <;> simp [h, Truth.ofBool]
    refine hvalues.trans ⟨fun h => ⟨fun hsame => ?_, ?_⟩, fun h => h.params p q rfl rfl hpq⟩
    · rw [Column.param_beq, hpq] at hsame
      exact absurd hsame Bool.false_ne_true
    · rintro _ _ ⟨⟩ ⟨⟩ -
      exact h
  · rw [heq]
    refine iff_of_true rfl ⟨fun h => ?_, fun p q hl hr hpq => ?_⟩
    · rw [hsame] at h
      exact absurd h Bool.false_ne_true
    · rw [hparams p q hl hr] at hpq
      exact absurd hpq.symm Bool.false_ne_true

/-- The opposite of an equality is its negation but for rows that are null in part. -/
theorem Dialect.inequality_eq_iff : d.inequality tuple db e l r = (d.equality tuple db e l r).not ↔
    (r.isNull = true → Whole (l.row d tuple db e)) := by
  unfold inequality equality Whole
  split
  next hnull =>
    have hofBool (a b : Bool) : Truth.ofBool a = .ofBool b ↔ (a = true ↔ b = true) := by cases a <;> cases b <;> decide
    have hcell (c : Option V) : ¬ c.isNone = true ↔ c.isSome = true := by cases c <;> simp
    rw [← Truth.ofBool_not, hofBool, List.all_eq_true, Bool.not_eq_true', List.all_eq_false]
    simp only [hcell]
    exact ⟨fun h _ => h.symm, fun h => (h hnull).symm⟩
  next hnull => exact iff_of_true rfl fun h => absurd h hnull

/-- What is built of two columns to be different has the truth of the negation of `l = r` exactly if
the database comes to what is decided and no row that is null in part is tested for null. -/
theorem truth_differs_eq_iff : (d.rowwise tuple db e).truth (.differs l r) = (d.equality tuple db e l r).not ↔
    d.Decides tuple db e l r ∧ (r.isNull = true → Whole (l.row d tuple db e)) := by
  have hdecided {b : Bool} (h : Predicate.equals l r = .const b) :
      (d.rowwise tuple db e).truth (.differs l r) = (d.equality tuple db e l r).not ↔ d.Decides tuple db e l r := by
    have hnot : (d.rowwise tuple db e).truth (.differs l r) = ((d.rowwise tuple db e).truth (.equals l r)).not := by
      rw [Predicate.differs, h]
      exact Truth.ofBool_not b
    rw [hnot, ← truth_equals_eq_iff]
    exact ⟨fun h => by rw [← Truth.not_not (Assignment.truth _ _), h, Truth.not_not], congrArg Truth.not⟩
  obtain ⟨hsame, heq⟩ | ⟨p, q, rfl, rfl, -, heq⟩ | ⟨-, -, heq⟩ := Predicate.equals_cases l r
  · refine (hdecided heq).trans (and_iff_left fun hnull => ?_).symm
    obtain rfl := eq_null_of_beq hsame hnull
    exact whole_singleton none
  · exact (hdecided heq).trans (and_iff_left fun hnull => absurd hnull Bool.false_ne_true).symm
  · have hdecides : d.Decides tuple db e l r := truth_equals_eq_iff.1 (by rw [heq]; rfl)
    rw [Predicate.differs, heq]
    exact Dialect.inequality_eq_iff.trans (and_iff_right hdecides).symm

theorem Dialect.decides_field_param (table name : String) (p : Param) :
    d.Decides tuple db e (.field table name) (.param p) := by
  refine ⟨fun h => ?_, fun q _ h => absurd h (by simp)⟩
  exact absurd (show Column.beq _ _ = true from h) (by simp [Column.beq])

end

/-- What is built to compare two columns has the truth of the comparison as it is written exactly if
the database comes to what is decided without it, and where they are to be different, if no row that
is null in part is tested for null besides. A comparison of a column of a table with a parameter
always has it. -/
theorem truth_equality_iff_decides (d : Dialect V) (tuple : List (Option V) → V) (db : Database V) (e : Env V) :
    (∀ l r, (d.rowwise tuple db e).truth (.equals l r) = d.equality tuple db e l r ↔ d.Decides tuple db e l r) ∧
    (∀ l r, (d.rowwise tuple db e).truth (.differs l r) = (d.equality tuple db e l r).not ↔
      d.Decides tuple db e l r ∧ (r.isNull = true → Whole (l.row d tuple db e))) ∧
    ∀ table name p,
      (d.rowwise tuple db e).truth (.equals (.field table name) (.param p)) =
        d.equality tuple db e (.field table name) (.param p) ∧
      (d.rowwise tuple db e).truth (.differs (.field table name) (.param p)) =
        (d.equality tuple db e (.field table name) (.param p)).not := by
  refine ⟨fun l r => truth_equals_eq_iff, fun l r => truth_differs_eq_iff, fun table name p => ⟨?_, ?_⟩⟩
  · exact truth_equals_eq_iff.2 (Dialect.decides_field_param table name p)
  · exact truth_differs_eq_iff.2
      ⟨Dialect.decides_field_param table name p, fun hnull => absurd hnull Bool.false_ne_true⟩

/-- The dialect of integers, whichever width they have. -/
def Dialect.integers : Dialect Int where
  value
    | .int4 n => n.toInt
    | .int8 n => n.toInt
    | _ => 0
  value_eq p q h := by
    cases p with
    | int4 =>
      cases q with
      | int4 => exact congrArg Int32.toInt (beq_iff_eq.1 h)
      | _ => exact absurd h Bool.false_ne_true
    | int8 =>
      cases q with
      | int8 => exact congrArg Int64.toInt (beq_iff_eq.1 h)
      | _ => exact absurd h Bool.false_ne_true
    | _ =>
      cases q with
      | int4 | int8 => exact absurd h Bool.false_ne_true
      | _ => rfl
  less a b := a < b
  like _ _ := false
  call _ cell := cell
  raw _ := .unknown

/-- A title that is null is decided to be equal to itself, and an integer of 32 bits to differ from
the same one of 64 bits. A row with that title and an integer is not null, but is not found by what
asks for that. -/
theorem truth_decided_wrongly :
    let title : Column := .field "articles" "title"
    let row : Column := .list [title, .param (.int4 1)]
    let a := Dialect.integers.rowwise (fun _ => 0) (fun _ => []) fun _ _ => none
    let equality := Dialect.integers.equality (fun _ => 0) (fun _ => []) fun _ _ => none
    a.truth (.equals title title) = .true ∧ equality title title = .unknown ∧
      a.truth (.equals (.param (.int4 1)) (.param (.int8 1))) = .false ∧
      equality (.param (.int4 1)) (.param (.int8 1)) = .true ∧
      a.truth (.differs row .null) = .false ∧ (equality row .null).not = .true := by
  decide +kernel

end PathQuery.Sql
