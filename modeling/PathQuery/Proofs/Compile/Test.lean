import PathQuery.Compile.Conditions
import PathQuery.Proofs.Compile.Walk

/-!
# What comparisons ask

A `Test` is what a comparison asks of a column, whichever the column is; `Test.on` is the condition
that asks it.

* `Operator.ask` : what an operator asks of the columns of a field, or why it cannot ask that;
* `Test.From` : which tests an operator may ask, and where their parameters are from.

The comparisons below a field come to the same tests or to the same error under every alias of the
field's table (`conditions_of`), so what holds of the conditions of a column is shown once for each
kind of test.
-/

namespace PathQuery

open Sql (Column Predicate Comparator)

def Operator.isShape : Operator → Bool
  | .intersects => true
  | .notIntersects => true
  | .intersectsBox => true
  | .notIntersectsBox => true
  | _ => false

def Geometry.write (g : Geometry) (op : Operator) : Column → Param → Predicate :=
  match op with
  | .intersects => g.intersects
  | .notIntersects => g.notIntersects
  | .intersectsBox => g.intersectsBox
  | _ => g.notIntersectsBox

/-- What a comparison asks of a column. -/
inductive Test where
  | const (value : Bool)
  /-- Whether the column is null, or whether it is not. -/
  | null (value : Bool)
  | compare (op : Comparator) (p : Param)
  | among (ps : List Param)
  | between (low high : Param)
  | shape (op : Operator) (p : Param)
  | not (t : Test)

namespace Test

/-- The condition that asks a test of a column. -/
def on (g : Geometry) (c : Column) : Test → Predicate
  | .const value => .const value
  | .null value => .compare (if value then .eq else .ne) c .null
  | .compare op p => .compare op c (.param p)
  | .among ps => .compare .isIn c (.list (ps.map .param))
  | .between low high => .between c (.param low) (.param high)
  | .shape op p => g.write op c p
  | .not t => .not (t.on g c)

def isFlat : Test → Bool
  | .shape _ _ => false
  | .not t => t.isFlat
  | _ => true

/-- The tests that an operator may ask of a field of a type. -/
inductive From (type : Option FieldType) : Operator → Test → Prop where
  | const {op value} : From type op (.const value)
  | null {op value} : From type op (.null value)
  | empty {op cmp} (ho : op = .empty ∨ op = .notEmpty) : From type op (.compare cmp (.text ""))
  | compare {op cmp v p} (hp : castValue v type = .ok p) : From type op (.compare cmp p)
  | like {op} (pattern : String) : From type op (.compare .like (.text pattern))
  | among {op ps} (hps : ∀ p ∈ ps, ∃ v, castValue v type = .ok p) : From type op (.among ps)
  | between {op v w low high} (hl : castValue v type = .ok low) (hh : castValue w type = .ok high) :
      From type op (.between low high)
  | shape {op} (ho : op.isShape = true) (geojson : String) : From type op (.shape op (.text geojson))
  | not {op t} (h : From type op t) : From type op (.not t)

theorem From.isFlat {type : Option FieldType} {op : Operator} {t : Test} (h : From type op t)
    (hs : op.isShape = false) : t.isFlat = true := by
  induction h with
  | shape ho => exact absurd (ho.symm.trans hs) (by simp)
  | not _ ih => exact ih
  | _ => rfl

end Test

open Test

variable {g : Geometry} {column field : String} {type : Option FieldType} {op : Operator} {v : Json}

def Target.of (column field : String) (type : Option FieldType) (table : String) : Target :=
  ⟨.field table column, field, type⟩

/-- A negated operator asks the opposite. -/
def Operator.signedTest (op : Operator) (t : Test) : Test := if op.isNegated then .not t else t

def Operator.nullTest (op : Operator) (inverted : Bool) : Test :=
  match op with
  | .null => .null (!inverted)
  | .notNull => .null inverted
  | .empty => .compare (if inverted then .ne else .eq) (.text "")
  | _ => .compare (if inverted then .eq else .ne) (.text "")

/-- The operand that asks for the opposite. -/
def inverts : Json → Bool
  | .bool false => true
  | _ => false

theorem nullness_on (table : String) : (Target.of column field type table).nullness op v =
    (op.nullTest (inverts v)).on g (.field table column) := by
  cases v with
  | bool b => cases b <;> cases op <;> rfl
  | _ => cases op <;> rfl

theorem signed_on {test : Test} {p : Predicate} {c : Column}
    (hp : p = test.on g c) (hn : (test.on g c).negate = .not (test.on g c)) :
    op.signed p = (op.signedTest test).on g c := by
  unfold Operator.signed Operator.signedTest
  split
  · rw [hp, hn, Test.on]
  · exact hp

theorem from_signedTest {test : Test} (h : test.From type op) : (op.signedTest test).From type op := by
  unfold Operator.signedTest
  split
  · exact .not h
  · exact h

/-! ## Comparisons -/

namespace Operator

/-- The parameter of an operand, whichever the column is. -/
def operand (op : Operator) (field : String) (type : Option FieldType) (v : Json) : Except QueryError Param :=
  match castValue v type with
  | .ok p => .ok p
  | .error cause => .error (.invalid (.badOperand field op cause))

def askLike (op : Operator) (field : String) (v : Json) : Except QueryError Test :=
  match Cast.text v with
  | .ok s => .ok (op.signedTest (.compare .like (.text (op.pattern s))))
  | .error cause => .error (.invalid (.badOperand field op cause))

def askMembership (op : Operator) (field : String) (type : Option FieldType) (v : Json) : Except QueryError Test :=
  match v.elements with
  | [] => .ok (.const op.isNegated)
  | values => do return op.signedTest (.among (← values.mapM (op.operand field type)))

def askRange (op : Operator) (field : String) (type : Option FieldType) (v : Json) :
    Except QueryError (Option Test) :=
  match v.elements with
  | [low, high] => do
    let l ← op.operand field type low
    let h ← op.operand field type high
    return some (op.signedTest (.between l h))
  | _ => .ok none

def askShape (op : Operator) (field : String) (v : Json) : Except QueryError Test :=
  match v with
  | .string s => .ok (.shape op (.text s))
  | .object _ => .ok (.shape op (.text v.compact))
  | _ => .error (.invalid (.badGeometry field op v))

/-- What an operator asks of the columns of a field, if it asks anything. -/
def ask (op : Operator) (field : String) (type : Option FieldType) (v : Json) : Except QueryError (Option Test) :=
  match op with
  | .null | .notNull | .empty | .notEmpty => .ok (some (op.nullTest (inverts v)))
  | .eq => do return some (.compare .eq (← op.operand field type v))
  | .neq => do return some (.compare .ne (← op.operand field type v))
  | .gt => do return some (.compare .gt (← op.operand field type v))
  | .gte => do return some (.compare .ge (← op.operand field type v))
  | .lt => do return some (.compare .lt (← op.operand field type v))
  | .lte => do return some (.compare .le (← op.operand field type v))
  | .contains | .notContains | .startsWith | .notStartsWith | .endsWith | .notEndsWith => do
    return some (← op.askLike field v)
  | .isIn | .notIn => do return some (← op.askMembership field type v)
  | .between | .notBetween => op.askRange field type v
  | .intersects | .notIntersects | .intersectsBox | .notIntersectsBox => do return some (← op.askShape field v)

/-- What a comparison asks: nothing without an operand that the operator needs. -/
def ask? (op : Operator) (field : String) (type : Option FieldType) (v : Json) : Except QueryError (Option Test) :=
  if v.isNull && !op.isNullness then .ok none else op.ask field type v

end Operator

/-- What the comparisons below a field ask of its columns. -/
def asks (field : String) (type : Option FieldType) : List (Operator × Json) → Except QueryError (List Test)
  | [] => .ok []
  | (op, v) :: rest => do
    let t ← op.ask? field type v
    let ts ← asks field type rest
    return t.toList ++ ts

/-! ## In any table -/

theorem field_beq_param (table column : String) (p : Param) :
    (Column.field table column == Column.param p) = false := by
  show Column.beq _ _ = false
  rw [Column.beq]
  all_goals simp

theorem equals_field_param (table column : String) (p : Param) :
    Predicate.equals (.field table column) (.param p) = .compare .eq (.field table column) (.param p) := by
  unfold Predicate.equals
  rw [field_beq_param, Column.sameParam?]
  · rfl
  · simp

variable {table : String}

theorem cast_of : (Target.of column field type table).cast op v = (op.operand field type v).map .param := by
  unfold Target.cast Operator.operand Target.of
  dsimp only
  cases castValue v type <;> rfl

theorem mapM_cast_of (vs : List Json) : vs.mapM ((Target.of column field type table).cast op) =
    (vs.mapM (op.operand field type)).map (List.map .param) := by
  induction vs with
  | nil => rfl
  | cons v vs ih =>
    rw [List.mapM_cons, List.mapM_cons, ih, cast_of]
    cases op.operand field type v with
    | error e => rfl
    | ok p => cases vs.mapM (op.operand field type) <;> rfl

theorem like_of : (Target.of column field type table).like op v =
    (op.askLike field v).map (·.on g (.field table column)) := by
  unfold Target.like Operator.askLike
  cases Cast.text v with
  | error cause => rfl
  | ok s => exact congrArg Except.ok (signed_on rfl rfl)

theorem membership_of : (Target.of column field type table).membership op v =
    (op.askMembership field type v).map (·.on g (.field table column)) := by
  unfold Target.membership Operator.askMembership
  cases v.elements with
  | nil => cases op <;> rfl
  | cons v vs =>
    dsimp only
    rw [mapM_cast_of]
    cases (v :: vs).mapM (op.operand field type) with
    | error e => rfl
    | ok ps => exact congrArg Except.ok (signed_on rfl rfl)

theorem range_of : (Target.of column field type table).range op v =
    (op.askRange field type v).map (Option.map (·.on g (.field table column))) := by
  unfold Target.range Operator.askRange
  rcases v.elements with _ | ⟨low, _ | ⟨high, _ | ⟨v, vs⟩⟩⟩
  · rfl
  · rfl
  · dsimp only
    rw [cast_of, cast_of]
    cases op.operand field type low with
    | error e => rfl
    | ok l =>
      cases op.operand field type high with
      | error e => rfl
      | ok h => exact congrArg (Except.ok ∘ some) (signed_on rfl rfl)
  · rfl

theorem shape_of (write : Column → Param → Predicate) (h : g.write op = write) :
    (do return some (write (.field table column) (← (Target.of column field type table).geojson op v)) :
      Except QueryError (Option Predicate)) =
      (do return some (← op.askShape field v) : Except QueryError (Option Test)).map
        (Option.map (·.on g (.field table column))) := by
  subst h
  cases v <;> rfl

/-- A comparison of a column with the operand itself. -/
theorem operand_of (condition : Column → Column → Predicate) (cmp : Comparator)
    (hc : ∀ p, condition (.field table column) (.param p) = .compare cmp (.field table column) (.param p)) :
    (do return some (condition (.field table column) (← (Target.of column field type table).cast op v)) :
      Except QueryError (Option Predicate)) =
      (do return some (.compare cmp (← op.operand field type v)) : Except QueryError (Option Test)).map
        (Option.map (·.on g (.field table column))) := by
  rw [cast_of]
  cases op.operand field type v with
  | error e => rfl
  | ok p => exact congrArg (Except.ok ∘ some) (hc p)

/-- An operator asks the same of the columns of a field in all tables, or fails in all of them. -/
theorem compareWith_of : (Target.of column field type table).compareWith g op v =
    (op.ask field type v).map (Option.map (·.on g (.field table column))) := by
  cases op with
  | null | notNull | empty | notEmpty => exact congrArg (Except.ok ∘ some) (nullness_on table)
  | eq => exact operand_of .equals .eq (equals_field_param table column)
  | neq => exact operand_of .differs .ne fun p => congrArg _ (equals_field_param table column p)
  | gt => exact operand_of (.compare .gt) .gt fun _ => rfl
  | gte => exact operand_of (.compare .ge) .ge fun _ => rfl
  | lt => exact operand_of (.compare .lt) .lt fun _ => rfl
  | lte => exact operand_of (.compare .le) .le fun _ => rfl
  | contains | notContains | startsWith | notStartsWith | endsWith | notEndsWith =>
    simp only [Target.compareWith, Operator.ask, like_of (g := g)]
    cases Operator.askLike _ field v <;> rfl
  | isIn | notIn =>
    simp only [Target.compareWith, Operator.ask, membership_of (g := g)]
    cases Operator.askMembership _ field type v <;> rfl
  | between | notBetween => exact range_of
  | intersects => exact shape_of g.intersects rfl
  | notIntersects => exact shape_of g.notIntersects rfl
  | intersectsBox => exact shape_of g.intersectsBox rfl
  | notIntersectsBox => exact shape_of g.notIntersectsBox rfl

theorem compare_of : (Target.of column field type table).compare g op v =
    (op.ask? field type v).map (Option.map (·.on g (.field table column))) := by
  unfold Target.compare Operator.ask?
  split
  · rfl
  · exact compareWith_of

/-- The comparisons below a field ask the same of its columns in all tables, or fail in all of
them. -/
theorem conditions_of (cs : List (Operator × Json)) : (Target.of column field type table).conditions g cs =
    (asks field type cs).map (List.map (·.on g (.field table column))) := by
  induction cs with
  | nil => rfl
  | cons c cs ih =>
    obtain ⟨op, v⟩ := c
    rw [Target.conditions, asks, ih, compare_of]
    cases op.ask? field type v with
    | error e => rfl
    | ok t =>
      cases asks field type cs with
      | error e => rfl
      | ok ts => cases t <;> rfl

/-! ## What tests are asked -/

section

variable {t : Test}

theorem operand_eq_ok {p : Param} (h : op.operand field type v = .ok p) : castValue v type = .ok p := by
  unfold Operator.operand at h
  split at h
  next p' hp => rw [hp, Except.ok.inj h]
  next => exact absurd h (by simp)

theorem from_nullTest (h : op.isNullness = true) (inverted : Bool) : (op.nullTest inverted).From type op := by
  cases op with
  | null | notNull => exact .null
  | empty => exact .empty (.inl rfl)
  | notEmpty => exact .empty (.inr rfl)
  | _ => exact absurd h Bool.false_ne_true

theorem from_askLike (h : op.askLike field v = .ok t) : t.From type op := by
  unfold Operator.askLike at h
  split at h
  next =>
    obtain rfl := Except.ok.inj h
    exact from_signedTest (.like _)
  next => exact absurd h (by simp)

theorem from_askMembership (h : op.askMembership field type v = .ok t) : t.From type op := by
  unfold Operator.askMembership at h
  split at h
  next =>
    obtain rfl := Except.ok.inj h
    exact .const
  next =>
    obtain ⟨ps, hps, h⟩ := exists_of_bind_eq_ok h
    obtain rfl := Except.ok.inj h
    refine from_signedTest (.among fun p hp => ?_)
    obtain ⟨w, -, hw⟩ := exists_of_mem_mapM _ hps p hp
    exact ⟨w, operand_eq_ok hw⟩

theorem from_askRange {o : Option Test} (h : op.askRange field type v = .ok o) : ∀ t ∈ o, t.From type op := by
  unfold Operator.askRange at h
  split at h
  next =>
    obtain ⟨l, hl, h⟩ := exists_of_bind_eq_ok h
    obtain ⟨u, hu, h⟩ := exists_of_bind_eq_ok h
    obtain rfl := Except.ok.inj h
    rintro _ ⟨⟩
    exact from_signedTest (.between (operand_eq_ok hl) (operand_eq_ok hu))
  next =>
    obtain rfl := Except.ok.inj h
    exact fun t ht => absurd ht (Option.not_mem_none t)

theorem from_askShape (hs : op.isShape = true) (h : op.askShape field v = .ok t) : t.From type op := by
  unfold Operator.askShape at h
  split at h
  next =>
    obtain rfl := Except.ok.inj h
    exact .shape hs _
  next =>
    obtain rfl := Except.ok.inj h
    exact .shape hs _
  next => exact absurd h (by simp)

theorem from_ask {o : Option Test} (h : op.ask field type v = .ok o) : ∀ t ∈ o, t.From type op := by
  have hcompare {cmp : Comparator}
      (h : (do return some (.compare cmp (← op.operand field type v)) : Except QueryError (Option Test)) = .ok o) :
      ∀ t ∈ o, t.From type op := by
    obtain ⟨p, hp, h⟩ := exists_of_bind_eq_ok h
    obtain rfl := Except.ok.inj h
    rintro _ ⟨⟩
    exact .compare (operand_eq_ok hp)
  cases op with
  | null | notNull | empty | notEmpty =>
    obtain rfl := Except.ok.inj h
    rintro _ ⟨⟩
    exact from_nullTest rfl _
  | eq | neq | gt | gte | lt | lte => exact hcompare h
  | contains | notContains | startsWith | notStartsWith | endsWith | notEndsWith =>
    obtain ⟨t, ht, h⟩ := exists_of_bind_eq_ok h
    obtain rfl := Except.ok.inj h
    rintro _ ⟨⟩
    exact from_askLike ht
  | isIn | notIn =>
    obtain ⟨t, ht, h⟩ := exists_of_bind_eq_ok h
    obtain rfl := Except.ok.inj h
    rintro _ ⟨⟩
    exact from_askMembership ht
  | between | notBetween => exact from_askRange h
  | intersects | notIntersects | intersectsBox | notIntersectsBox =>
    obtain ⟨t, ht, h⟩ := exists_of_bind_eq_ok h
    obtain rfl := Except.ok.inj h
    rintro _ ⟨⟩
    exact from_askShape rfl ht

theorem from_asks (cs : List (Operator × Json)) {ts : List Test} (h : asks field type cs = .ok ts) :
    ∀ t ∈ ts, ∃ c ∈ cs, t.From type c.1 := by
  induction cs generalizing ts with
  | nil =>
    obtain rfl := Except.ok.inj h
    exact List.forall_mem_nil _
  | cons c cs ih =>
    obtain ⟨op, v⟩ := c
    obtain ⟨o, ho, h⟩ := exists_of_bind_eq_ok h
    obtain ⟨us, hus, h⟩ := exists_of_bind_eq_ok h
    obtain rfl := Except.ok.inj h
    refine List.forall_mem_append.2 ⟨fun t ht => ⟨(op, v), List.mem_cons_self, ?_⟩, fun t ht => ?_⟩
    · unfold Operator.ask? at ho
      split at ho
      · obtain rfl := Except.ok.inj ho
        exact absurd (Option.mem_toList.1 ht) (Option.not_mem_none t)
      · exact from_ask ho t (Option.mem_toList.1 ht)
    · obtain ⟨c, hc, hfrom⟩ := ih hus t ht
      exact ⟨c, List.mem_cons_of_mem _ hc, hfrom⟩

end

/-- The comparisons below a field come to the same tests in every table. -/
theorem exists_tests {table : String} (cs : List (Operator × Json)) {ps : List Predicate}
    (h : (Target.of column field type table).conditions g cs = .ok ps) :
    ∃ tests : List Test, (∀ t ∈ tests, ∃ c ∈ cs, t.From type c.1) ∧
      ∀ table, (Target.of column field type table).conditions g cs =
        .ok (tests.map (·.on g (.field table column))) := by
  rw [conditions_of] at h
  cases hasks : asks field type cs with
  | error e => exact absurd (hasks ▸ h) (by simp [Except.map])
  | ok tests => exact ⟨tests, from_asks cs hasks, fun table => by rw [conditions_of, hasks]; rfl⟩

variable {setting : Setting} {pass : Pass} {c : String} {path : Path} {f : Filter} {ps : List Predicate}

theorem exists_asked_of_columnConditions (h : columnConditions setting pass c path field f = .ok ps) :
    ∃ tests : List Test,
      (∀ t ∈ tests, ∃ o ∈ f.comparisons, t.From ((setting.schema.field? c field).map SchemaField.type) o.1) ∧
      ps = tests.map (·.on setting.geometry (.field (pass.aliases.tableFor path c) field)) := by
  unfold columnConditions at h
  obtain ⟨type, htype, h⟩ := exists_of_bind_eq_ok h
  obtain rfl := (fieldType_eq_ok.1 htype).1
  have h : (Target.of field field _ (pass.aliases.tableFor path c)).conditions setting.geometry f.comparisons =
      .ok ps := h
  obtain ⟨tests, hfrom, htests⟩ := exists_tests f.comparisons h
  exact ⟨tests, hfrom, Except.ok.inj (h.symm.trans (htests _))⟩

/-- Without operators of geometry, no test of a column is one of them. -/
theorem exists_tests_of_columnConditions (h : columnConditions setting pass c path field f = .ok ps) :
    ∃ tests : List Test, (f.comparisons.all (fun c => !c.1.isShape) = true → ∀ t ∈ tests, t.isFlat = true) ∧
      ps = tests.map (·.on setting.geometry (.field (pass.aliases.tableFor path c) field)) := by
  obtain ⟨tests, hfrom, hps⟩ := exists_asked_of_columnConditions h
  refine ⟨tests, fun hall t ht => ?_, hps⟩
  obtain ⟨o, ho, hfrom⟩ := hfrom t ht
  exact hfrom.isFlat (by simpa using List.all_eq_true.1 hall o ho)

end PathQuery
