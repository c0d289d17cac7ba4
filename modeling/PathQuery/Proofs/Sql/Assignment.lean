import PathQuery.Proofs.Sql.Meaning

/-!
# Conditions under an assignment

* `Assignment` : truths for the conditions that are no connectives of others;
* `Assignment.truth` : the truth of every condition, by three-valued logic;
* `Logical.mixed`, `Logical.total` : truths combined from the left, under connectives of their own
  or under one.

Built conditions leave out constants, repeated operands and double negation, and keep their truth
(`truth_conj`, `truth_disj`, `truth_negate`), however many are combined (`connectives_keep_truth`).
-/

namespace PathQuery.Sql

namespace Truth

@[simp] theorem and_self (a : Truth) : a.and a = a := by cases a <;> rfl

@[simp] theorem or_self (a : Truth) : a.or a = a := by cases a <;> rfl

theorem and_false (a : Truth) : a.and .false = .false := by cases a <;> rfl

theorem true_and (a : Truth) : Truth.true.and a = a := by cases a <;> rfl

theorem and_true (a : Truth) : a.and .true = a := by cases a <;> rfl

theorem false_or (a : Truth) : Truth.false.or a = a := by cases a <;> rfl

theorem or_false (a : Truth) : a.or .false = a := by cases a <;> rfl

theorem or_true (a : Truth) : a.or .true = .true := by cases a <;> rfl

theorem and_eq_true {a b : Truth} : a.and b = .true ↔ a = .true ∧ b = .true := by
  cases a <;> cases b <;> decide

theorem or_eq_true {a b : Truth} : a.or b = .true ↔ a = .true ∨ b = .true := by
  cases a <;> cases b <;> decide

theorem ofBool_eq_true {b : Bool} : ofBool b = .true ↔ b = Bool.true := by cases b <;> decide

theorem ofBool_not (b : Bool) : ofBool (!b) = (ofBool b).not := by cases b <;> rfl

theorem not_not (a : Truth) : a.not.not = a := by cases a <;> rfl

end Truth

/-! ## Truths under connectives -/

namespace Logical

def both : Logical → Truth → Truth → Truth
  | .and => Truth.and
  | .or => Truth.or

/-- Truths under a connective, none if there are none. -/
def total (op : Logical) : List Truth → Option Truth
  | [] => none
  | t :: ts => some (ts.foldl op.both t)

/-- One more truth under a connective; the first one stands as it is. -/
def merge (op : Logical) : Option Truth → Truth → Truth
  | none, t => t
  | some u, t => op.both u t

/-- Truths combined from the left, each one after the first by the connective that it comes with. -/
def mixed : List (Logical × Truth) → Option Truth
  | [] => none
  | (_, t) :: rest => some (rest.foldl (fun u x => x.1.both u x.2) t)

theorem foldl_merge (xs : List (Logical × Truth)) :
    xs.foldl (fun u x => some (x.1.merge u x.2)) none = mixed xs := by
  have hsome (rest : List (Logical × Truth)) (t : Truth) :
      rest.foldl (fun u x => some (x.1.merge u x.2)) (some t) =
        some (rest.foldl (fun u x => x.1.both u x.2) t) := by
    induction rest generalizing t with
    | nil => rfl
    | cons x rest ih => exact ih _
  cases xs with
  | nil => rfl
  | cons x rest => exact hsome rest x.2

theorem mixed_map (op : Logical) (ts : List Truth) : mixed (ts.map fun t => (op, t)) = op.total ts := by
  cases ts with
  | nil => rfl
  | cons t ts => simp only [List.map_cons, mixed, total, List.foldl_map]

end Logical

/-! ## Assignments -/

/-- Whether a condition is no constant and no connective of others. -/
def Predicate.isAtom : Predicate → Bool
  | .compare _ _ _ => true
  | .between _ _ _ => true
  | .raw _ => true
  | _ => false

/-- Truths for the conditions that are no connectives of others; equal ones have the same. -/
structure Assignment where
  atom : Predicate → Truth
  atom_eq : ∀ p q, p.isAtom = true → p.beq q = true → atom p = atom q

namespace Assignment

def truth (a : Assignment) : Predicate → Truth
  | .const value => .ofBool value
  | .compare op left right => a.atom (.compare op left right)
  | .between c low high => a.atom (.between c low high)
  | .raw fragments => a.atom (.raw fragments)
  | .and p q => (a.truth p).and (a.truth q)
  | .or p q => (a.truth p).or (a.truth q)
  | .not p => (a.truth p).not
  termination_by structural p => p

/-- Whether `<>` is as true as `=` is false, which goes for `IS NOT NULL` and `IS NULL` too. -/
def Complementary (a : Assignment) : Prop :=
  ∀ l r, a.atom (.compare .ne l r) = (a.atom (.compare .eq l r)).not

variable (a : Assignment)

theorem truth_eq : (p q : Predicate) → p.beq q = true → a.truth p = a.truth q
  | .const b, q, h => by
    cases q with
    | const b' =>
      rw [Predicate.beq, beq_iff_eq] at h
      rw [h]
    | _ => simp [Predicate.beq] at h
  | .compare op l r, q, h => by
    cases q with
    | compare op' l' r' => exact a.atom_eq _ _ rfl h
    | _ => simp [Predicate.beq] at h
  | .between c l u, q, h => by
    cases q with
    | between c' l' u' => exact a.atom_eq _ _ rfl h
    | _ => simp [Predicate.beq] at h
  | .raw fs, q, h => by
    cases q with
    | raw fs' => exact a.atom_eq _ _ rfl h
    | _ => simp [Predicate.beq] at h
  | .and p₁ p₂, q, h => by
    cases q with
    | and q₁ q₂ =>
      rw [Predicate.beq, Bool.and_eq_true] at h
      rw [truth, truth, truth_eq p₁ q₁ h.1, truth_eq p₂ q₂ h.2]
    | _ => simp [Predicate.beq] at h
  | .or p₁ p₂, q, h => by
    cases q with
    | or q₁ q₂ =>
      rw [Predicate.beq, Bool.and_eq_true] at h
      rw [truth, truth, truth_eq p₁ q₁ h.1, truth_eq p₂ q₂ h.2]
    | _ => simp [Predicate.beq] at h
  | .not p, q, h => by
    cases q with
    | not q =>
      rw [Predicate.beq] at h
      rw [truth, truth, truth_eq p q h]
    | _ => simp [Predicate.beq] at h
  termination_by structural p => p

theorem truth_conj (p q : Predicate) : a.truth (p.conj q) = (a.truth p).and (a.truth q) := by
  unfold Predicate.conj
  split
  · rfl
  · exact (Truth.and_false _).symm
  · exact (Truth.true_and _).symm
  · exact (Truth.and_true _).symm
  · split
    next h => rw [a.truth_eq p q h, Truth.and_self]
    next => rfl

theorem truth_disj (p q : Predicate) : a.truth (p.disj q) = (a.truth p).or (a.truth q) := by
  unfold Predicate.disj
  split
  · rfl
  · exact (Truth.or_true _).symm
  · exact (Truth.false_or _).symm
  · exact (Truth.or_false _).symm
  · split
    next h => rw [a.truth_eq p q h, Truth.or_self]
    next => rfl

variable {a} in
theorem truth_negate (ha : a.Complementary) (p : Predicate) : a.truth p.negate = (a.truth p).not := by
  cases p with
  | const b => exact Truth.ofBool_not b
  | compare op l r =>
    cases op with
    | eq => exact ha l r
    | ne =>
      have hne : a.truth (.compare .ne l r) = (a.truth (.compare .eq l r)).not := ha l r
      rw [hne, Truth.not_not]
      rfl
    | _ => rfl
  | not p => exact (Truth.not_not (a.truth p)).symm
  | _ => rfl

theorem truth_combine (op : Logical) (p q : Predicate) :
    a.truth (op.combine p q) = op.both (a.truth p) (a.truth q) := by
  cases op with
  | and => exact a.truth_conj p q
  | or => exact a.truth_disj p q

theorem truth_extend (op : Logical) (o : Option Predicate) (p : Predicate) :
    a.truth (op.extend o p) = op.merge (o.map a.truth) (a.truth p) := by
  cases o with
  | none => rfl
  | some q => exact a.truth_combine op q p

/-- Conditions added one after the other have the truth of their truths added so. -/
theorem map_truth_foldl (cs : List (Logical × Predicate)) :
    (cs.foldl (fun o c => some (c.1.extend o c.2)) none).map a.truth =
      Logical.mixed (cs.map fun c => (c.1, a.truth c.2)) := by
  have hstep (o : Option Predicate) (c : Logical × Predicate) :
      some (c.1.merge (o.map a.truth) (a.truth c.2)) = (some (c.1.extend o c.2)).map a.truth :=
    congrArg some (a.truth_extend c.1 o c.2).symm
  rw [← Logical.foldl_merge, List.foldl_map]
  exact (List.foldl_hom (Option.map a.truth) hstep).symm

theorem condition_foldl_push (op : Logical) (ps : List Predicate) (o : Option Predicate) :
    (ps.foldl Group.push ⟨op, o⟩).condition = ps.foldl (fun o p => some (op.extend o p)) o := by
  induction ps generalizing o with
  | nil => rfl
  | cons p ps ih => exact ih _

theorem truth_all (op : Logical) (ps : List Predicate) :
    (op.all ps).map a.truth = op.total (ps.map a.truth) := by
  have hall : op.all ps = (ps.map fun p => (op, p)).foldl (fun o c => some (c.1.extend o c.2)) none := by
    rw [List.foldl_map]
    exact condition_foldl_push op ps none
  rw [hall, map_truth_foldl, ← Logical.mixed_map, List.map_map, List.map_map]
  rfl

theorem condition_foldl_restrict (d : Draft) (cs : List (Logical × Predicate)) :
    (cs.foldl (fun d c => d.restrict c.1 c.2) d).condition =
      cs.foldl (fun o c => some (c.1.extend o c.2)) d.condition :=
  (List.foldl_hom Draft.condition fun _ _ => rfl).symm

variable {a} in
/-- What is built from conditions has the truth that three-valued logic gives it: the
connectives of two conditions and of one, the conditions of a group, of which there is none
only if nothing was pushed, and those added to a draft without one, where the connective of
the first does not matter. -/
theorem connectives_keep_truth (ha : a.Complementary) :
    (∀ p q : Predicate, a.truth (p.conj q) = (a.truth p).and (a.truth q)) ∧
    (∀ p q : Predicate, a.truth (p.disj q) = (a.truth p).or (a.truth q)) ∧
    (∀ p : Predicate, a.truth p.negate = (a.truth p).not) ∧
    (∀ (op : Logical) (ps : List Predicate), ((Group.ofList op ps).condition = none ↔ ps = []) ∧
      (Group.ofList op ps).condition.map a.truth = op.total (ps.map a.truth)) ∧
    ∀ (d : Draft) (cs : List (Logical × Predicate)), d.condition = none →
      (cs.foldl (fun d c => d.restrict c.1 c.2) d).condition.map a.truth =
        Logical.mixed (cs.map fun c => (c.1, a.truth c.2)) := by
  refine ⟨a.truth_conj, a.truth_disj, truth_negate ha, fun op ps => ?_, fun d cs hd => ?_⟩
  · have htotal := a.truth_all op ps
    refine ⟨?_, htotal⟩
    rw [← Option.map_eq_none_iff (f := a.truth)]
    have hgroup : (Group.ofList op ps).condition = op.all ps := rfl
    rw [hgroup, htotal]
    cases ps <;> simp [Logical.total]
  · rw [condition_foldl_restrict, hd]
    exact a.map_truth_foldl cs

/-- Where all that is asked for equality matches and nothing else is known. -/
def matching : Assignment where
  atom
    | .compare .eq _ _ => .true
    | .compare .ne _ _ => .false
    | _ => .unknown
  atom_eq p q _ h := by
    cases p with
    | compare op l r =>
      cases q with
      | compare op' l' r' =>
        rw [Predicate.beq, Bool.and_eq_true, Bool.and_eq_true, beq_iff_eq] at h
        obtain ⟨⟨rfl, -⟩, -⟩ := h
        cases op <;> rfl
      | _ => simp [Predicate.beq] at h
    | _ =>
      cases q with
      | compare op' l' r' => simp [Predicate.beq] at h
      | _ => rfl

/-- An unknown condition is neither kept from being negated nor from standing first among
clauses. -/
theorem connectives_keep_truth_matching :
    let titled : Predicate := .compare .eq (.field "articles" "title") .null
    let long : Predicate := .compare .gt (.field "articles" "size") (.param (.text "3"))
    let clauses : List (Logical × Predicate) := [(.or, long), (.or, titled), (.and, long)]
    matching.Complementary ∧ matching.truth (titled.conj long).negate = .unknown ∧
      (Group.ofList .or [long, titled]).condition.map matching.truth = some .true ∧
      (clauses.foldl (fun d c => d.restrict c.1 c.2) (Draft.new "articles")).condition.map matching.truth =
        some .unknown := by
  intro titled long clauses
  have hmatching : matching.Complementary := fun _ _ => rfl
  obtain ⟨hconj, -, hnegate, hgroup, hclauses⟩ := connectives_keep_truth hmatching
  refine ⟨hmatching, ?_, ?_, ?_⟩
  · rw [hnegate, hconj]
    rfl
  · exact (hgroup .or [long, titled]).2
  · exact hclauses (Draft.new "articles") clauses rfl

end Assignment

end PathQuery.Sql
