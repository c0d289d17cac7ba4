import PathQuery.Cast
import PathQuery.Proofs.Numeral.Spelling
import PathQuery.Proofs.Outcome
import PathQuery.Search

/-!
# The types of parameters

* `Param.Kind` : the type of a parameter, whichever value it has;
* `FieldType.kind` : the type of the parameters that belong to a field type.

Whatever stands for an operand belongs to the type of its field (`kind_of_castValue`), and so does
the value that a search looks for (`kind_of_exactMatch?`). No operand comes to a JSON null
(`ne_null_of_castValue`). What becomes of an integer, in whichever form it is given, is up to the
width of the field (`castValue_integer`, `castValue_bigInteger`).
-/

namespace PathQuery

inductive Param.Kind where
  | int4
  | int8
  | float8
  | bool
  | text
  | uuid
  | date
  | time
  | dateTime
  | timestamp
  | json
  deriving DecidableEq, Repr

def Param.kind : Param → Param.Kind
  | .int4 _ => .int4
  | .int8 _ => .int8
  | .float8 _ => .float8
  | .bool _ => .bool
  | .text _ => .text
  | .uuid _ => .uuid
  | .date _ => .date
  | .time _ => .time
  | .dateTime _ => .dateTime
  | .timestamp _ => .timestamp
  | .json _ => .json

/-- The type of the parameters for a field type; types without one of their own are text. -/
def FieldType.kind : FieldType → Param.Kind
  | .integer => .int4
  | .bigInteger => .int8
  | .float => .float8
  | .decimal => .float8
  | .boolean => .bool
  | .uuid => .uuid
  | .date => .date
  | .dateTime => .dateTime
  | .timestamp => .timestamp
  | .time => .time
  | .json => .json
  | _ => .text

variable {v : Json} {p : Param}

/-- What becomes of a result by a constructor of parameters has the type that the constructor
gives. -/
theorem kind_of_bind_pure {ε α : Type} {x : Except ε α} {f : α → Param} {kind : Param.Kind}
    (h : (do return f (← x)) = .ok p) (hf : ∀ a, (f a).kind = kind) : p.kind = kind := by
  obtain ⟨a, -, h⟩ := exists_of_bind_eq_ok h
  obtain rfl := Except.ok.inj h
  exact hf a

/-- The parameter of an operand belongs to the type of the field. -/
theorem kind_of_castValue {type : FieldType} (h : castValue v (some type) = .ok p) : p.kind = type.kind := by
  unfold castValue at h
  split at h
  · exact absurd h (by simp)
  · cases type with
    | date | dateTime | timestamp | time =>
      obtain ⟨s, -, h⟩ := exists_of_bind_eq_ok h
      exact kind_of_bind_pure h fun _ => rfl
    | json =>
      obtain rfl := Except.ok.inj h
      rfl
    | geometry =>
      dsimp only at h
      split at h
      · obtain rfl := Except.ok.inj h
        rfl
      · exact kind_of_bind_pure h fun _ => rfl
    | _ => exact kind_of_bind_pure h fun _ => rfl

/-- An operand that is not null comes to no null, whether or not its field has a type. -/
theorem ne_null_of_castValue {type : Option FieldType} (h : castValue v type = .ok p) : p ≠ .json .null := by
  rintro rfl
  cases type with
  | some type =>
    -- only fields of JSON take the operand as it is
    have hk := kind_of_castValue h
    unfold castValue at h
    split at h
    · exact absurd h (by simp)
    next hv =>
      cases type with
      | json =>
        obtain rfl := Param.json.inj (Except.ok.inj h)
        exact hv rfl
      | _ => exact absurd hk (by decide)
  | none =>
    unfold castValue at h
    split at h
    · exact absurd h (by simp)
    next hv =>
      have h : Cast.natural v = .json .null := Except.ok.inj h
      unfold Cast.natural at h
      split at h
      · exact absurd h (by simp)
      · split at h <;> exact absurd h (by simp)
      · exact absurd h (by simp)
      · obtain rfl := Param.json.inj h
        exact hv rfl

theorem kind_of_exactMatch? {type : FieldType} {term : String} (h : exactMatch? type term = some p) :
    p.kind = type.kind := by
  cases type with
  | integer | bigInteger | float | decimal | uuid =>
    obtain ⟨a, -, rfl⟩ := Option.map_eq_some_iff.1 h
    rfl
  | _ => exact absurd h (by simp [exactMatch?])

theorem kind_ne_json_of_exactMatch? {type : FieldType} {term : String} (h : exactMatch? type term = some p) :
    p.kind ≠ .json := by
  rw [kind_of_exactMatch? h]
  cases type with
  | json => exact absurd h (by simp [exactMatch?])
  | _ => decide

/-! ## Integers -/

theorem Cast.integer_of_spells {s : String} {n : Int} (h : Numeral.Spells s.toList n)
    (hn : Numeral.fitsInt64 n = true) : integer (.string s) = .ok n := by
  rw [integer, h.solid.trim, Numeral.readInt64_eq_ok_iff.2 ⟨h, hn⟩]

theorem Cast.integer_number {n : Int} (hn : Numeral.fitsInt64 n = true) : integer (.number (.int n)) = .ok n := by
  rw [integer, Json.Number.toInt64?, if_pos hn]

theorem Cast.isNull_of_integer {n : Int} (h : integer v = .ok n) : v.isNull = false := by
  cases v with
  | null => exact absurd h (by simp [integer])
  | _ => rfl

theorem castValue_integer {n : Int} (h : Cast.integer v = .ok n) : castValue v (some .integer) =
    if Numeral.fitsInt32 n then .ok (.int4 (Int32.ofInt n)) else .error (.integerRange n) := by
  unfold castValue
  rw [Cast.isNull_of_integer h]
  have hsmall : Cast.smallInteger v = if Numeral.fitsInt32 n then .ok n else .error (.integerRange n) := by
    rw [Cast.smallInteger, h]
    rfl
  show (do return Param.int4 (Int32.ofInt (← Cast.smallInteger v))) = _
  rw [hsmall]
  split <;> rfl

theorem castValue_bigInteger {n : Int} (h : Cast.integer v = .ok n) :
    castValue v (some .bigInteger) = .ok (.int8 (Int64.ofInt n)) := by
  unfold castValue
  rw [Cast.isNull_of_integer h]
  show (do return Param.int8 (Int64.ofInt (← Cast.integer v))) = _
  rw [h]
  rfl

end PathQuery
