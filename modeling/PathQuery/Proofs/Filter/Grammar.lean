import Mathlib.Data.List.Forall2
import PathQuery.Proofs.Filter.Reading

/-!
# The grammar of filters

* `Filter.IsFilter`, `Filter.IsEntry` : the values that are filters and the entries that may stand
  in one, by one rule for each kind of key;
* `Filter.Entries` : the nodes that the entries of an object come to.

What is read is what the grammar has: all entries of an object must be read (`exists_entries_iff`),
and operators and fields among the nodes are those among the keys (`Entries.isMixed_iff`).
-/

namespace PathQuery.Filter

def isGroupKey (key : String) : Bool := key == "_and" || key == "_or"

def isFieldKey (key : String) : Bool := key.toList.head? != some '_'

def IsOperatorKey (key : String) : Prop := ∃ op : Operator, key = op.token

mutual

/-- Whether a value is a filter; `root` says that no field stands above it. -/
inductive IsFilter : (root : Bool) → Json → Prop where
  | object {root entries} (hentries : ∀ e ∈ entries, IsEntry root e.1 e.2)
      (hmixed : ¬ ((∃ e ∈ entries, IsOperatorKey e.1) ∧ ∃ e ∈ entries, isFieldKey e.1)) :
      IsFilter root (.object entries)

/-- Whether an entry may stand in a filter. -/
inductive IsEntry : (root : Bool) → String → Json → Prop where
  | group {root key values} (hk : isGroupKey key) (hvalues : ∀ v ∈ values, IsFilter root v) :
      IsEntry root key (.array values)
  | operator (op : Operator) (operand : Json) : IsEntry false op.token operand
  | operand {root key operand} (hk : isFieldKey key) (ho : ∀ entries, operand ≠ .object entries) :
      IsEntry root key operand
  | field {root key entries} (hk : isFieldKey key) (hnested : IsFilter false (.object entries)) :
      IsEntry root key (.object entries)

end

/-! ## Keys -/

theorem keyOf_eq_group_iff {key : String} {op : Sql.Logical} :
    Key.of key = .group op ↔ key = "_and" ∧ op = .and ∨ key = "_or" ∧ op = .or := by
  unfold Key.of
  split
  next h => subst h; simp [eq_comm]
  next h =>
    split
    next h' => subst h'; simp [eq_comm]
    next h' => split <;> simp [h, h']

theorem exists_keyOf_eq_group_iff {key : String} : (∃ op, Key.of key = .group op) ↔ isGroupKey key := by
  simp only [keyOf_eq_group_iff, isGroupKey, Bool.or_eq_true, beq_iff_eq]
  constructor
  · rintro ⟨op, ⟨h, -⟩ | ⟨h, -⟩⟩
    · exact .inl h
    · exact .inr h
  · rintro (h | h)
    · exact ⟨.and, .inl ⟨h, rfl⟩⟩
    · exact ⟨.or, .inr ⟨h, rfl⟩⟩

theorem keyOf_eq_field_iff {key : String} : Key.of key = .field ↔ isFieldKey key := by
  unfold Key.of
  split
  next h => subst h; simp [isFieldKey]
  next =>
    split
    next h => subst h; simp [isFieldKey]
    next => split <;> simp [isFieldKey, *]

theorem keyOf_token (op : Operator) : Key.of op.token = .operator op.token := by
  cases op <;> rfl

theorem eq_of_keyOf_eq_operator {key token : String} (h : Key.of key = .operator token) : key = token := by
  unfold Key.of at h
  split at h
  next => exact absurd h (by simp)
  next =>
    split at h
    next => exact absurd h (by simp)
    next =>
      split at h
      next => exact Key.operator.inj h
      next => exact absurd h (by simp)

/-! ## Entries -/

/-- Whether the entries of an object come to these nodes. -/
abbrev Entries (root : Bool) (entries : List (String × Json)) (nodes : List Node) : Prop :=
  List.Forall₂ (fun e n => Entry root e.1 e.2 n) entries nodes

variable {root : Bool}

theorem readComparison_eq_ok {token : String} {op : Operator} (h : Operator.ofToken? token = some op) (operand : Json) :
    readComparison false token operand = .ok (.comparison op operand) := by
  rw [readComparison, h]
  rfl

theorem Entry.readEntries_cons {key : String} {value : Json} {node : Node} {rest : List (String × Json)}
    {nodes : List Node} (h : Entry root key value node) (hrest : readEntries root rest = .ok nodes) :
    readEntries root ((key, value) :: rest) = .ok (node :: nodes) := by
  cases h with
  | group hk hchildren =>
    rw [readEntries, hk]
    · simp only [hchildren, hrest]
      rfl
    · simp
  | comparison hk ho hroot =>
    subst hroot
    cases value <;> simp only [readEntries, hk, readComparison_eq_ok ho, hrest] <;> rfl
  | field hk hnested =>
    rw [readEntries, hk]
    simp only [hnested, hrest]
    rfl
  | column hk ho =>
    rw [readEntries, hk]
    · simp only [hrest]
      rfl
    · exact ho

theorem readEntries_eq_ok_iff {entries : List (String × Json)} {nodes : List Node} :
    readEntries root entries = .ok nodes ↔ Entries root entries nodes := by
  induction entries generalizing nodes with
  | nil => simp [readEntries, Entries, eq_comm]
  | cons e rest ih =>
    constructor
    · intro h
      obtain ⟨node, ns, he, hns, rfl⟩ := exists_of_readEntries h
      exact .cons he (ih.1 hns)
    · rintro (_ | ⟨he, hrest⟩)
      exact he.readEntries_cons (ih.2 hrest)

theorem readChildren_eq_ok_iff {values : List Json} {fs : List Filter} :
    readChildren root values = .ok fs ↔ List.Forall₂ (fun v f => read root v = .ok f) values fs := by
  induction values generalizing fs with
  | nil => simp [readChildren, eq_comm]
  | cons v rest ih =>
    rw [readChildren]
    constructor
    · intro h
      obtain ⟨f, hf, h⟩ := exists_of_bind_eq_ok h
      obtain ⟨gs, hgs, h⟩ := exists_of_bind_eq_ok h
      obtain rfl := Except.ok.inj h
      exact .cons hf (ih.1 hgs)
    · rintro (_ | ⟨hf, hrest⟩)
      simp only [hf, ih.2 hrest]
      rfl

theorem read_object_eq_ok_iff {entries : List (String × Json)} {f : Filter} :
    read root (.object entries) = .ok f ↔ Entries root entries f ∧ isMixed f = false := by
  rw [read]
  constructor
  · intro h
    obtain ⟨nodes, hnodes, h⟩ := exists_of_bind_eq_ok h
    unfold ofNodes at h
    split at h
    next => exact absurd h (by simp)
    next hmixed =>
      obtain rfl := Except.ok.inj h
      exact ⟨readEntries_eq_ok_iff.1 hnodes, Bool.eq_false_iff.2 hmixed⟩
  · rintro ⟨hentries, hmixed⟩
    rw [readEntries_eq_ok_iff.2 hentries]
    simp only [ofNodes, hmixed, bind, Except.bind]
    rfl

/-! ## Operators and fields side by side -/

theorem Entry.isComparison_iff {key : String} {value : Json} {node : Node} (h : Entry root key value node) :
    node.isComparison ↔ IsOperatorKey key := by
  have hoperator (hk : IsOperatorKey key) : ∃ token, Key.of key = .operator token := by
    obtain ⟨op, rfl⟩ := hk
    exact ⟨_, keyOf_token op⟩
  cases h with
  | group hk _ | field hk _ | column hk _ =>
    refine ⟨fun h => absurd h (by simp [Node.isComparison]), fun h => ?_⟩
    obtain ⟨token, ht⟩ := hoperator h
    exact absurd (hk.symm.trans ht) (by simp)
  | @comparison token op _ hk ho _ =>
    obtain rfl := eq_of_keyOf_eq_operator hk
    exact iff_of_true rfl ⟨op, Operator.eq_token_of_ofToken? ho⟩

theorem Entry.isField_iff {key : String} {value : Json} {node : Node} (h : Entry root key value node) :
    node.isField ↔ isFieldKey key := by
  rw [← keyOf_eq_field_iff]
  cases h with
  | group hk _ => simp [Node.isField, hk]
  | comparison hk _ _ => simp [Node.isField, hk]
  | field hk _ => exact iff_of_true rfl hk
  | column hk _ => exact iff_of_true rfl hk

theorem any_iff_of_forall₂ {α β : Type} {R : α → β → Prop} {l : List α} {m : List β} {p : β → Bool} {Q : α → Prop}
    (h : List.Forall₂ R l m) (hpq : ∀ a b, R a b → (p b ↔ Q a)) : m.any p ↔ ∃ a ∈ l, Q a := by
  induction h with
  | nil => simp
  | cons hab _ ih => simp [hpq _ _ hab, ih]

theorem Entries.isMixed_iff {entries : List (String × Json)} {nodes : List Node} (h : Entries root entries nodes) :
    isMixed nodes ↔ (∃ e ∈ entries, IsOperatorKey e.1) ∧ ∃ e ∈ entries, isFieldKey e.1 := by
  rw [isMixed, Bool.and_eq_true, any_iff_of_forall₂ h fun _ _ he => he.isComparison_iff,
    any_iff_of_forall₂ h fun _ _ he => he.isField_iff]

/-! ## What is read -/

mutual

/-- The values that are read are the filters. -/
theorem exists_read_iff {root : Bool} : (v : Json) → ((∃ f, read root v = .ok f) ↔ IsFilter root v)
  | .object entries => by
    constructor
    · rintro ⟨f, h⟩
      obtain ⟨hentries, hmixed⟩ := read_object_eq_ok_iff.1 h
      refine .object ((exists_entries_iff entries).1 ⟨f, hentries⟩) fun hm => ?_
      exact Bool.eq_false_iff.1 hmixed (hentries.isMixed_iff.2 hm)
    · rintro ⟨hentries, hmixed⟩
      obtain ⟨nodes, hnodes⟩ := (exists_entries_iff entries).2 hentries
      exact ⟨nodes, read_object_eq_ok_iff.2 ⟨hnodes, Bool.eq_false_iff.2 fun hm => hmixed (hnodes.isMixed_iff.1 hm)⟩⟩
  | .null | .bool _ | .number _ | .string _ | .array _ => by
    constructor
    · rintro ⟨f, h⟩
      rw [read] at h
      · exact absurd h (by simp)
      · simp
    · intro h
      cases h

theorem exists_entries_iff {root : Bool} : (entries : List (String × Json)) →
    ((∃ nodes, Entries root entries nodes) ↔ ∀ e ∈ entries, IsEntry root e.1 e.2)
  | [] => by simp
  | (key, value) :: rest => by
    rw [List.forall_mem_cons, ← exists_entries_iff rest]
    constructor
    · rintro ⟨_, _ | ⟨he, hrest⟩⟩
      refine ⟨?_, _, hrest⟩
      cases he with
      | group hk hchildren =>
        exact .group (exists_keyOf_eq_group_iff.1 ⟨_, hk⟩) ((exists_children_iff _).1 ⟨_, hchildren⟩)
      | comparison hk ho hroot =>
        obtain rfl := (eq_of_keyOf_eq_operator hk).trans (Operator.eq_token_of_ofToken? ho)
        exact hroot ▸ .operator _ value
      | field hk hnested =>
        exact .field (keyOf_eq_field_iff.1 hk) ((exists_read_iff (.object _)).1 ⟨_, hnested⟩)
      | column hk ho => exact .operand (keyOf_eq_field_iff.1 hk) ho
    · rintro ⟨he, nodes, hrest⟩
      suffices hnode : ∃ node, Entry root key value node by
        obtain ⟨node, hnode⟩ := hnode
        exact ⟨node :: nodes, .cons hnode hrest⟩
      cases he with
      | group hk hvalues =>
        obtain ⟨op, hop⟩ := exists_keyOf_eq_group_iff.2 hk
        obtain ⟨children, hchildren⟩ := (exists_children_iff _).2 hvalues
        exact ⟨_, .group hop hchildren⟩
      | operator op operand => exact ⟨_, .comparison (keyOf_token op) (Operator.ofToken?_token op) rfl⟩
      | operand hk ho => exact ⟨_, .column (keyOf_eq_field_iff.2 hk) ho⟩
      | field hk hnested =>
        obtain ⟨nested, hread⟩ := (exists_read_iff (.object _)).2 hnested
        exact ⟨_, .field (keyOf_eq_field_iff.2 hk) hread⟩

theorem exists_children_iff {root : Bool} : (values : List Json) →
    ((∃ fs, readChildren root values = .ok fs) ↔ ∀ v ∈ values, IsFilter root v)
  | [] => by simp [readChildren]
  | v :: rest => by
    rw [List.forall_mem_cons, ← exists_read_iff v, ← exists_children_iff rest]
    simp only [readChildren_eq_ok_iff]
    constructor
    · rintro ⟨_, _ | ⟨hf, hrest⟩⟩
      exact ⟨⟨_, hf⟩, _, hrest⟩
    · rintro ⟨⟨f, hf⟩, fs, hrest⟩
      exact ⟨f :: fs, .cons hf hrest⟩

end

end PathQuery.Filter
