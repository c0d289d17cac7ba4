import Mathlib.Data.List.Forall2
import Mathlib.Data.List.ReduceOption
import PathQuery.Proofs.Compile.Typed
import PathQuery.Proofs.Numeral.Spelling
import PathQuery.Proofs.Sql.Flat
import PathQuery.Search

/-!
# What a search asks

* `Predicate.alternatives` : the alternatives of a condition, none of them for `FALSE`;
* `WritesValue` : the values that a term writes as it stands, for the field types that are searched
  for equal values;
* `SearchesFor` : what a search asks of a field, if it asks anything.

A search asks each field in its turn, and no alternative is lost or merged with another one, since
they are about different columns (`alternatives_all`). The value that it looks for is the one that a
filter finds with the term as an operand, although filters trim their operands and read integers as
ones of 64 bits first (`compileSearch_exact`).
-/

namespace PathQuery

open Sql (Column Predicate Logical)

/-- The alternatives of a condition; `FALSE` has none. -/
def Sql.Predicate.alternatives : Predicate → List Predicate
  | .const false => []
  | p => p.operands .or

/-- The values that a term writes as it stands. -/
inductive WritesValue (term : String) : FieldType → Param → Prop where
  | integer (n : Int32) (h : Numeral.Spells term.toList n.toInt) : WritesValue term .integer (.int4 n)
  | bigInteger (n : Int64) (h : Numeral.Spells term.toList n.toInt) : WritesValue term .bigInteger (.int8 n)
  | float {x} (h : Numeral.readFloat? term = some x) (hx : x.isFinite = true) : WritesValue term .float (.float8 x)
  | decimal {x} (h : Numeral.readFloat? term = some x) (hx : x.isFinite = true) :
      WritesValue term .decimal (.float8 x)
  | uuid {u} (h : Uuid.read? term = some u) : WritesValue term .uuid (.uuid u)

/-- What a search for a term asks of a field, if it asks anything. -/
inductive SearchesFor (collection term : String) : String × SchemaField → Option Predicate → Prop where
  | text {name field} (h : field.type = .string ∨ field.type = .text) :
      SearchesFor collection term (name, field) (some (.compare .like (.call "LOWER" (.field collection name))
        (.param (.text ("%" ++ Text.toLower term ++ "%")))))
  | value {name field p} (h : WritesValue term field.type p) :
      SearchesFor collection term (name, field) (some (.compare .eq (.field collection name) (.param p)))
  | nothing {name field} (htext : ¬ (field.type = .string ∨ field.type = .text))
      (hvalue : ∀ p, ¬ WritesValue term field.type p) : SearchesFor collection term (name, field) none

/-! ## Alternatives -/

namespace Sql.Predicate

variable {p q : Predicate} {ps : List Predicate}

/-- Conditions that are no constants and not the same are alternatives of each other. -/
theorem disj_eq_or (hp : ∀ b, p ≠ .const b) (hq : ∀ b, q ≠ .const b) (hne : (p == q) = false) :
    p.disj q = .or p q := by
  unfold disj
  split
  · exact absurd rfl (hp true)
  · exact absurd rfl (hq true)
  · exact absurd rfl (hp false)
  · exact absurd rfl (hq false)
  · rw [hne]
    rfl

theorem ne_const_of_isAtom (h : p.isAtom = true) (b : Bool) : p ≠ .const b := by
  rintro rfl
  exact absurd h Bool.false_ne_true

theorem or_beq_of_isAtom {p₁ p₂ : Predicate} (h : q.isAtom = true) : (Predicate.or p₁ p₂ == q) = false := by
  show Predicate.beq _ _ = false
  cases q with
  | or => exact absurd h Bool.false_ne_true
  | _ => simp [Predicate.beq]

theorem alternatives_eq_operands (h : ∀ b, p ≠ .const b) : p.alternatives = p.operands .or := by
  cases p with
  | const b => exact absurd rfl (h b)
  | _ => rfl

theorem operands_of_isAtom (h : p.isAtom = true) : p.operands .or = [p] := by
  cases p with
  | compare | between | raw => rfl
  | _ => exact absurd h Bool.false_ne_true

theorem alternatives_foldl (hp : ∀ b, p ≠ .const b) (hps : ∀ q ∈ ps, q.isAtom = true ∧ (p == q) = false) :
    (ps.foldl disj p).alternatives = p.operands .or ++ ps := by
  induction ps generalizing p with
  | nil => rw [List.foldl_nil, List.append_nil, alternatives_eq_operands hp]
  | cons q ps ih =>
    obtain ⟨⟨hatom, hne⟩, hps⟩ := List.forall_mem_cons.1 hps
    rw [List.foldl_cons, disj_eq_or hp (ne_const_of_isAtom hatom) hne,
      ih (by simp) fun r hr => ⟨(hps r hr).1, or_beq_of_isAtom (hps r hr).1⟩]
    have hor : (Predicate.or p q).operands .or = p.operands .or ++ q.operands .or := operands_link p q
    rw [hor, operands_of_isAtom hatom, List.append_assoc, List.singleton_append]

theorem foldl_extend (op : Logical) (p : Predicate) (ps : List Predicate) :
    ps.foldl (fun o q => some (op.extend o q)) (some p) = some (ps.foldl op.combine p) := by
  induction ps generalizing p with
  | nil => rfl
  | cons q ps ih => exact ih _

/-- Different conditions under `OR` are its alternatives, in order; `FALSE` stands for none. -/
theorem alternatives_all (hatom : ∀ p ∈ ps, p.isAtom = true) (hne : ps.Pairwise fun p q => (p == q) = false) :
    ((Logical.all .or ps).getD (.const false)).alternatives = ps := by
  cases ps with
  | nil => rfl
  | cons p ps =>
    rw [List.forall_mem_cons] at hatom
    rw [List.pairwise_cons] at hne
    have hall : Logical.all .or (p :: ps) = some (ps.foldl disj p) :=
      (Assignment.condition_foldl_push .or ps (some p)).trans (foldl_extend .or p ps)
    rw [hall, Option.getD_some, alternatives_foldl (ne_const_of_isAtom hatom.1)
      fun q hq => ⟨hatom.2 q hq, hne.1 q hq⟩, operands_of_isAtom hatom.1, List.singleton_append]

end Sql.Predicate

/-! ## Values -/

section

variable {term : String} {type : FieldType} {p : Param}

theorem float8_eq_of_isFinite {o : Option Float} :
    (o.filter Float.isFinite).map Param.float8 = some p ↔
      ∃ x, o = some x ∧ x.isFinite = true ∧ p = .float8 x := by
  rw [Option.map_eq_some_iff]
  simp only [Option.filter_eq_some_iff, and_assoc, eq_comm]

theorem exactMatch?_eq_some_iff : exactMatch? type term = some p ↔ WritesValue term type p := by
  constructor
  · intro h
    cases type with
    | integer =>
      obtain ⟨n, hn, rfl⟩ := Option.map_eq_some_iff.1 h
      obtain ⟨hspells, hfits⟩ := Numeral.readInt32_eq_ok_iff.1 (toOption_eq_some_iff.1 hn)
      exact .integer _ (by rwa [Numeral.toInt_ofInt_of_fitsInt32 hfits])
    | bigInteger =>
      obtain ⟨n, hn, rfl⟩ := Option.map_eq_some_iff.1 h
      obtain ⟨hspells, hfits⟩ := Numeral.readInt64_eq_ok_iff.1 (toOption_eq_some_iff.1 hn)
      exact .bigInteger _ (by rwa [Numeral.toInt_ofInt_of_fitsInt64 hfits])
    | float =>
      obtain ⟨x, hx, hfinite, rfl⟩ := float8_eq_of_isFinite.1 h
      exact .float hx hfinite
    | decimal =>
      obtain ⟨x, hx, hfinite, rfl⟩ := float8_eq_of_isFinite.1 h
      exact .decimal hx hfinite
    | uuid =>
      obtain ⟨u, hu, rfl⟩ := Option.map_eq_some_iff.1 h
      exact .uuid hu
    | _ => exact absurd h (by simp [exactMatch?])
  · intro h
    cases h with
    | integer n h =>
      have hread := Numeral.readInt32_eq_ok_iff.2 ⟨h, Numeral.fitsInt32_toInt n⟩
      rw [exactMatch?, hread]
      exact congrArg (some ∘ Param.int4) n.ofInt_toInt
    | bigInteger n h =>
      have hread := Numeral.readInt64_eq_ok_iff.2 ⟨h, Numeral.fitsInt64_toInt n⟩
      rw [exactMatch?, hread]
      exact congrArg (some ∘ Param.int8) n.ofInt_toInt
    | float h hx => exact float8_eq_of_isFinite.2 ⟨_, h, hx, rfl⟩
    | decimal h hx => exact float8_eq_of_isFinite.2 ⟨_, h, hx, rfl⟩
    | uuid h => rw [exactMatch?, h]; rfl

theorem castValue_of_writesValue (h : WritesValue term type p) : castValue (.string term) (some type) = .ok p := by
  have hfloat {x : Float} (h : Numeral.readFloat? term = some x) : Cast.float (.string term) = .ok x := by
    rw [Cast.float, (Numeral.solid_of_readFloat? h).trim, h]
  cases h with
  | integer n h =>
    have hfits := Numeral.fitsInt32_toInt n
    rw [castValue_integer (Cast.integer_of_spells h (Numeral.fitsInt64_of_fitsInt32 hfits)),
      if_pos hfits, n.ofInt_toInt]
  | bigInteger n h =>
    rw [castValue_bigInteger (Cast.integer_of_spells h (Numeral.fitsInt64_toInt n)), n.ofInt_toInt]
  | float h | decimal h =>
    show (do return Param.float8 (← Cast.float (.string term))) = _
    rw [hfloat h]
    rfl
  | uuid h =>
    show (do return Param.uuid (← Cast.uuid (.string term))) = _
    rw [Cast.uuid, Uuid.read, h]
    rfl

end

/-! ## Fields -/

section

variable {collection term : String}

theorem isText_iff {type : FieldType} : type.isText = true ↔ type = .string ∨ type = .text := by
  cases type <;> simp [FieldType.isText]

theorem searchesFor_searchField? (f : String × SchemaField) :
    SearchesFor collection term f (searchField? collection term f.1 f.2) := by
  obtain ⟨name, field⟩ := f
  unfold searchField?
  dsimp only
  split
  next htext => exact .text (isText_iff.1 htext)
  next htext =>
    cases hvalue : exactMatch? field.type term with
    | none =>
      refine .nothing (fun h => htext (isText_iff.2 h)) fun p hp => ?_
      rw [exactMatch?_eq_some_iff.2 hp] at hvalue
      exact absurd hvalue (by simp)
    | some p => exact .value (exactMatch?_eq_some_iff.1 hvalue)

theorem SearchesFor.isAtom {f : String × SchemaField} {p : Predicate} (h : SearchesFor collection term f (some p)) :
    p.isAtom = true := by
  cases h <;> rfl

theorem SearchesFor.beq_eq_false {f f' : String × SchemaField} {p p' : Predicate}
    (h : SearchesFor collection term f (some p)) (h' : SearchesFor collection term f' (some p')) (hne : f.1 ≠ f'.1) :
    (p == p') = false := by
  show Predicate.beq p p' = false
  cases h with
  | text =>
    cases h' with
    | text => simp [Predicate.beq, Column.beq, hne]
    | value => simp [Predicate.beq]
  | value =>
    cases h' with
    | text => simp [Predicate.beq]
    | value => simp [Predicate.beq, Column.beq, hne]

theorem alternatives_searchFields (fields : Named SchemaField) :
    ((Logical.all .or ((fields.map fun f => searchField? collection term f.1 f.2).filterMap id)).getD
      (.const false)).alternatives = (fields.map fun f => searchField? collection term f.1 f.2).reduceOption := by
  have hsearches {f : String × SchemaField} {p : Predicate} (hp : searchField? collection term f.1 f.2 = some p) :
      SearchesFor collection term f (some p) :=
    hp ▸ searchesFor_searchField? f
  rw [Named.map, List.reduceOption, List.filterMap_map, Sql.Predicate.alternatives_all]
  · intro p hp
    obtain ⟨f, -, hf⟩ := List.mem_filterMap.1 hp
    exact (hsearches hf).isAtom
  · rw [List.pairwise_filterMap]
    refine (List.pairwise_map.1 fields.distinct).imp ?_
    exact fun hne p hp q hq => (hsearches hp).beq_eq_false (hsearches hq) hne

end

/-- A filter with a single comparison of a field of the schema comes to the condition of that
comparison alone. -/
theorem compileFilter_comparison {setting : Setting} {collection : String} {segment : Segment} {field : SchemaField}
    (hfield : setting.schema.field? collection segment.field = some field) {op : Operator} {v : Json} {p : Predicate}
    (hp : (Target.of segment.field segment.field (some field.type) collection).compare
      setting.geometry op v = .ok (some p)) (subquery : Bool) (draws : Nat) :
    compileFilter setting subquery collection [.field segment [.comparison op v]] draws =
      .ok (⟨[], some p⟩, draws) := by
  have hplan : planJoins setting subquery collection [.field segment [.comparison op v]] draws =
      .ok (Plan.start collection draws) := by
    rw [planJoins, planNodes, planNode]
    rfl
  have hdepth : setting.config.checkDepth (([] : Path).length + Filter.chainHops [.comparison op v]) = .ok () :=
    if_neg (Nat.not_lt_zero _)
  have htype : setting.fieldType collection segment.field = .ok (some field.type) := by
    rw [Setting.fieldType, hfield]
  have htarget (pass : Pass) : (Target.of segment.field segment.field (some field.type)
      (pass.aliases.tableFor [] collection)).conditions setting.geometry [(op, v)] = .ok [p] := by
    show (Target.of segment.field segment.field (some field.type) collection).conditions setting.geometry [(op, v)] = _
    rw [Target.conditions, Target.conditions, hp]
    rfl
  have hcolumn (pass : Pass) :
      columnConditions setting pass collection [] segment.field [.comparison op v] = .ok [p] := by
    rw [columnConditions, htype]
    exact htarget pass
  have hnode (pass : Pass) : nodeConditions setting pass collection [] (.field segment [.comparison op v]) draws =
      .ok ([p], draws) := by
    rw [nodeConditions, hdepth, hcolumn]
    rfl
  have hconditions (pass : Pass) : conditions setting pass collection [] [.field segment [.comparison op v]] draws =
      .ok ([p], draws) := by
    rw [conditions, hnode]
    rfl
  rw [compileFilter, hplan]
  show (conditions setting _ collection [] _ draws >>= _) = _
  rw [hconditions]
  rfl

theorem compare_of_writesValue {collection name term : String} {type : FieldType} {v : Param} {g : Geometry}
    (h : WritesValue term type v) : (Target.of name name (some type) collection).compare g .eq (.string term) =
      .ok (some (.compare .eq (.field collection name) (.param v))) := by
  have hcast : (Target.of name name (some type) collection).cast .eq (.string term) = .ok (.param v) := by
    unfold Target.cast Target.of
    dsimp only
    rw [castValue_of_writesValue h]
  show (Target.cast _ _ _ >>= fun c => pure (some (Predicate.equals (.field collection name) c))) = _
  rw [hcast]
  exact congrArg (Except.ok ∘ some) (equals_field_param collection name v)

/-- A search fails exactly if its collection is not in the schema. Otherwise it asks of each field
what there is to ask, in order and with nothing lost, merged or repeated: whether a text holds the
term in lower case, or whether a number or UUID is the value that the term writes. The operator
`_eq` with the term as its operand asks the same of that field, and so does every filter of this one
comparison. -/
theorem compileSearch_exact (s : Schema) (collection term : String) :
    ((∃ e, compileSearch s collection term = .error e) ↔ s.collection? collection = none) ∧
    ∀ c, s.collection? collection = some c → ∃ (p : Predicate) (asked : List (Option Predicate)),
      compileSearch s collection term = .ok p ∧
      List.Forall₂ (SearchesFor collection term) c.fields.entries asked ∧ p.alternatives = asked.reduceOption ∧
      ∀ name field, (name, field) ∈ c.fields.entries → ∀ v, WritesValue term field.type v →
        (∀ geometry, (Target.of name name (some field.type) collection).compare geometry .eq (.string term) =
          .ok (some (.compare .eq (.field collection name) (.param v)))) ∧
        ∀ setting : Setting, setting.schema = s → ∀ segment : Segment, segment.field = name → ∀ subquery draws,
          compileFilter setting subquery collection [.field segment [.comparison .eq (.string term)]] draws =
            .ok (⟨[], some (.compare .eq (.field collection name) (.param v))⟩, draws) := by
  constructor
  · unfold compileSearch
    cases s.collection? collection with
    | none => exact ⟨fun _ => rfl, fun _ => ⟨_, rfl⟩⟩
    | some c => exact ⟨fun ⟨_, h⟩ => absurd h (by simp), fun h => absurd h (by simp)⟩
  · intro c hc
    refine ⟨_, c.fields.map fun f => searchField? collection term f.1 f.2, ?_, ?_,
      alternatives_searchFields c.fields, ?_⟩
    · rw [compileSearch, hc]
    · exact List.forall₂_map_right_iff.2 (List.forall₂_same.2 fun f _ => searchesFor_searchField? f)
    · intro name field hfield v hv
      refine ⟨fun _ => compare_of_writesValue hv, ?_⟩
      rintro setting rfl segment rfl subquery draws
      exact compileFilter_comparison (Schema.field?_of_mem hc hfield) (compare_of_writesValue hv) subquery draws

/-- A number in titles and as the number of pages, which are all that is asked; pages are found by
the filter too. -/
theorem compileSearch_pages : WritesValue "71" .integer (.int4 71) ∧
    (∃ p, compileSearch .archive "articles" "71" = .ok p ∧ p.alternatives =
      [.compare .like (.call "LOWER" (.field "articles" "title")) (.param (.text ("%" ++ Text.toLower "71" ++ "%"))),
        .compare .eq (.field "articles" "pages") (.param (.int4 71))]) ∧
    compileFilter (.default .archive) false "articles" [.field (.mk "pages" none) [.comparison .eq (.string "71")]] 0 =
      .ok (⟨[], some (.compare .eq (.field "articles" "pages") (.param (.int4 71)))⟩, 0) := by
  have hspells : Numeral.Spells "71".toList _ := .digits (by decide) (List.all_eq_true.1 (by decide))
  have hvalue : WritesValue "71" .integer (.int4 71) := .integer 71 hspells
  obtain ⟨p, asked, hp, hasked, halternatives, hfilter⟩ := (compileSearch_exact .archive "articles" "71").2 _ rfl
  have hpages {v : Param} (hv : WritesValue "71" .integer v) :=
    (hfilter "pages" ⟨.integer, false⟩ (by decide) v hv).2 (.default .archive) rfl (.mk "pages" none) rfl false 0
  refine ⟨hvalue, ⟨p, hp, ?_⟩, hpages hvalue⟩
  obtain _ | ⟨htitle, _ | ⟨hsize, _ | _⟩⟩ := hasked
  rw [halternatives]
  cases htitle with
  | text =>
    cases hsize with
    | text h => exact absurd h (by decide)
    | @value _ _ v h =>
      have heq := (hpages h).symm.trans (hpages hvalue)
      obtain rfl : v = .int4 71 := by simpa using heq
      rfl
    | nothing _ h => exact absurd hvalue (h _)
  | value h => cases h
  | nothing h => exact absurd (.inl rfl) h

end PathQuery
