import PathQuery.Proofs.Filter.Grammar

/-!
# Filters written back

* `Filter.toJson` : the value that writes a filter, in its own order;
* `Filter.spell` : a value with a comparison for equality written out wherever a field has a bare
  operand.

Nothing is lost when a filter is read: written back, it is the value with its bare operands spelled
out, which reads as the same filter (`toJson_and_read_spell`).
-/

namespace PathQuery

namespace Filter

def groupKey : Sql.Logical → String
  | .and => "_and"
  | .or => "_or"

end Filter

mutual

def Node.toEntry : Node → String × Json
  | .group op children => (Filter.groupKey op, .array (Filter.toValues children))
  | .field segment nested => (segment.key, .object (Filter.toEntries nested))
  | .comparison op operand => (op.token, operand)

def Filter.toEntries : List Node → List (String × Json)
  | [] => []
  | node :: rest => node.toEntry :: Filter.toEntries rest

def Filter.toValues : List (List Node) → List Json
  | [] => []
  | f :: rest => .object (Filter.toEntries f) :: Filter.toValues rest

end

namespace Filter

def toJson (f : Filter) : Json := .object (toEntries f)

mutual

/-- A filter with every bare operand spelled out. -/
def spell : Json → Json
  | .object entries => .object (spellEntries entries)
  | value => value

/-- The value of an entry; below a field, what is no object is an operand. -/
def spellValue (key : String) : Json → Json
  | .object entries => if isFieldKey key then .object (spellEntries entries) else .object entries
  | .array values =>
    if isGroupKey key then .array (spellValues values)
    else if isFieldKey key then .object [("_eq", .array values)] else .array values
  | operand => if isFieldKey key then .object [("_eq", operand)] else operand

def spellEntries : List (String × Json) → List (String × Json)
  | [] => []
  | (key, value) :: rest => (key, spellValue key value) :: spellEntries rest

def spellValues : List Json → List Json
  | [] => []
  | value :: rest => spell value :: spellValues rest

end

variable {root : Bool}

theorem groupKey_of_keyOf {key : String} {op : Sql.Logical} (h : Key.of key = .group op) : groupKey op = key := by
  obtain ⟨rfl, rfl⟩ | ⟨rfl, rfl⟩ := keyOf_eq_group_iff.1 h <;> rfl

/-- A bare operand reads as its spelling does. -/
theorem read_eq (operand : Json) : read false (.object [("_eq", operand)]) = .ok [.comparison .eq operand] := by
  refine read_object_eq_ok_iff.2 ⟨.cons (.comparison (keyOf_token .eq) rfl rfl) .nil, rfl⟩

theorem isGroupKey_eq_false {key : String} (h : ∀ op, Key.of key ≠ .group op) : isGroupKey key = false := by
  rw [← Bool.not_eq_true, ← exists_keyOf_eq_group_iff]
  rintro ⟨op, hop⟩
  exact h op hop

theorem isFieldKey_eq_false {key : String} (h : Key.of key ≠ .field) : isFieldKey key = false := by
  rwa [← Bool.not_eq_true, ← keyOf_eq_field_iff]

/-- Operands of operators stay as they are. -/
theorem spellValue_operator {key token : String} (h : Key.of key = .operator token) (operand : Json) :
    spellValue key operand = operand := by
  have hgroup : isGroupKey key = false := isGroupKey_eq_false (by simp [h])
  have hfield : isFieldKey key = false := isFieldKey_eq_false (by simp [h])
  cases operand <;> simp [spellValue, hgroup, hfield]

theorem spellValue_column {key : String} (h : Key.of key = .field) {operand : Json}
    (ho : ∀ entries, operand ≠ .object entries) : spellValue key operand = .object [("_eq", operand)] := by
  have hgroup : isGroupKey key = false := isGroupKey_eq_false (by simp [h])
  have hfield := keyOf_eq_field_iff.1 h
  cases operand with
  | object entries => exact absurd rfl (ho entries)
  | _ => simp [spellValue, hgroup, hfield]

mutual

/-- A filter that is read is written as the value with its operands spelled out, which reads as the
same filter. -/
theorem toJson_and_read_spell {root : Bool} {f : Filter} : (v : Json) → read root v = .ok f →
    toJson f = spell v ∧ read root (spell v) = .ok f
  | .object entries, h => by
    obtain ⟨hentries, hmixed⟩ := read_object_eq_ok_iff.1 h
    obtain ⟨hprint, hspell⟩ := toEntries_and_spellEntries entries hentries
    rw [spell]
    exact ⟨congrArg Json.object hprint, read_object_eq_ok_iff.2 ⟨hspell, hmixed⟩⟩
  | .null, h | .bool _, h | .number _, h | .string _, h | .array _, h => by
    rw [read] at h
    · exact absurd h (by simp)
    · simp

theorem toEntries_and_spellEntries {root : Bool} {nodes : List Node} : (entries : List (String × Json)) →
    Entries root entries nodes →
    toEntries nodes = spellEntries entries ∧ Entries root (spellEntries entries) nodes
  | [], .nil => ⟨rfl, .nil⟩
  | (key, value) :: rest, .cons (b := node) he hrest => by
    obtain ⟨hprint, hspell⟩ := toEntries_and_spellEntries rest hrest
    rw [toEntries, spellEntries, hprint]
    suffices hnode : node.toEntry = (key, spellValue key value) ∧ Entry root key (spellValue key value) node from
      ⟨congrArg (· :: spellEntries rest) hnode.1, .cons hnode.2 hspell⟩
    cases he with
    | group hk hchildren =>
      obtain ⟨hp, hs⟩ := toValues_and_spellValues _ hchildren
      rw [spellValue, if_pos (exists_keyOf_eq_group_iff.1 ⟨_, hk⟩), Node.toEntry, groupKey_of_keyOf hk, hp]
      exact ⟨rfl, .group hk hs⟩
    | comparison hk ho hroot =>
      rw [spellValue_operator hk, Node.toEntry, ← Operator.eq_token_of_ofToken? ho, ← eq_of_keyOf_eq_operator hk]
      exact ⟨rfl, .comparison hk ho hroot⟩
    | field hk hnested =>
      obtain ⟨hp, hs⟩ := toJson_and_read_spell (.object _) hnested
      rw [spell] at hp hs
      rw [spellValue, if_pos (keyOf_eq_field_iff.1 hk), Node.toEntry, Segment.key_ofKey]
      exact ⟨congrArg (Prod.mk key) hp, .field hk hs⟩
    | column hk ho =>
      rw [spellValue_column hk ho, Node.toEntry, Segment.key_ofKey]
      exact ⟨rfl, .field hk (read_eq value)⟩

theorem toValues_and_spellValues {root : Bool} {fs : List Filter} : (values : List Json) →
    readChildren root values = .ok fs →
    toValues fs = spellValues values ∧ readChildren root (spellValues values) = .ok fs
  | [], h => by
    rw [readChildren] at h
    obtain rfl := Except.ok.inj h
    exact ⟨rfl, rfl⟩
  | value :: rest, h => by
    rw [readChildren] at h
    obtain ⟨f, hf, h⟩ := exists_of_bind_eq_ok h
    obtain ⟨gs, hgs, h⟩ := exists_of_bind_eq_ok h
    obtain rfl := Except.ok.inj h
    obtain ⟨hprint, hread⟩ := toJson_and_read_spell value hf
    obtain ⟨hprints, hreads⟩ := toValues_and_spellValues rest hgs
    rw [toValues, spellValues, hprints, ← hprint]
    refine ⟨rfl, ?_⟩
    rw [hprint, readChildren, hread, hreads]
    rfl

end

/-- The values that are read are those of the grammar. A filter that is read is written as its value
with bare operands spelled out, and what is written reads as the filter. -/
theorem ofJson_exact (v : Json) :
    ((∃ f, ofJson v = .ok f) ↔ IsFilter true v) ∧
    ∀ f, ofJson v = .ok f → f.toJson = spell v ∧ ofJson f.toJson = .ok f := by
  refine ⟨exists_read_iff v, fun f h => ?_⟩
  obtain ⟨hprint, hread⟩ := toJson_and_read_spell v h
  rw [hprint]
  exact ⟨rfl, hread⟩

/-- A scope, an operand that is bare and one that is not, on both sides of a group. -/
def written (title : Json) : Json :=
  .object [("_or", .array [.object [], .object [("item:headings", .object [("title", title)])]]),
    ("author", .object [("age", .object [("_in", .array [.number (.int 1)])])])]

theorem ofJson_exact_written : ∃ f, ofJson (written (.string "x")) = .ok f ∧
    f.toJson = written (.object [("_eq", .string "x")]) ∧ ofJson f.toJson = .ok f := by
  obtain ⟨f, h⟩ : ∃ f, ofJson (written (.string "x")) = .ok f := ⟨_, rfl⟩
  exact ⟨f, h, (ofJson_exact (written (.string "x"))).2 f h⟩

end Filter

end PathQuery
