import Mathlib.Data.List.Forall2
import Mathlib.Data.String.Basic
import PathQuery.Comparison
import PathQuery.Proofs.Cast

/-!
# Operands that are lists

* `Json.Padded` : a list with null put in between its items;
* `Json.Enumerates` : the operands that a list of integers is given as, a text with commas among
  them;
* `Operator.Lists` : what the operators that take a list ask of a column;
* `FieldType.Holds` : the parameters of the two types of integers.

Such an operator sees no more of its operand than the elements (`Target.compare_of_elements`): a
text with commas has those of the array of its parts, and null is none of them. How a list of
integers is given does not matter, and it is refused exactly for its first integer that the field
has no room for (`Target.compare_lists`).
-/

namespace PathQuery

open Sql (Column Predicate)

def Operator.takesList : Operator → Bool
  | .isIn | .notIn | .between | .notBetween => true
  | _ => false

/-- Whether an operator asks something of a list of that length; a range has two ends. -/
def Operator.accepts (op : Operator) (count : Nat) : Bool :=
  match op with
  | .between | .notBetween => count == 2
  | _ => true

/-- What an operator asks of a column for a list that it accepts. -/
inductive Operator.Lists (column : Column) : Operator → List Column → Predicate → Prop where
  | isIn (cs : List Column) : Lists column .isIn cs (.compare .isIn column (.list cs))
  | notIn (cs : List Column) : Lists column .notIn cs (.not (.compare .isIn column (.list cs)))
  | between (low high : Column) : Lists column .between [low, high] (.between column low high)
  | notBetween (low high : Column) : Lists column .notBetween [low, high] (.not (.between column low high))

/-- Whether one list is the other with null put in at any places. -/
inductive Json.Padded : List Json → List Json → Prop where
  | nil : Padded [] []
  | null {vs ws : List Json} (h : Padded vs ws) : Padded vs (.null :: ws)
  | item (v : Json) {vs ws : List Json} (h : Padded vs ws) : Padded (v :: vs) (v :: ws)

/-- The operands that a list of integers is given as: a text with commas, the texts or the
numbers. -/
inductive Json.Enumerates (ns : List Int64) : Json → Prop where
  | joined : Enumerates ns (.string (",".intercalate (ns.map fun n => Numeral.ofInt n.toInt)))
  | texts : Enumerates ns (.array (ns.map fun n => .string (Numeral.ofInt n.toInt)))
  | numbers : Enumerates ns (.array (ns.map fun n => .number (.int n.toInt)))

/-- The parameter that an integer is in a field of integers. -/
inductive FieldType.Holds : FieldType → Int → Param → Prop where
  | integer (n : Int32) : Holds .integer n.toInt (.int4 n)
  | bigInteger (n : Int64) : Holds .bigInteger n.toInt (.int8 n)

/-- Whether a field of integers has room for one. -/
def FieldType.fits : FieldType → Int → Bool
  | .integer, n => Numeral.fitsInt32 n
  | .bigInteger, n => Numeral.fitsInt64 n
  | _, _ => false

/-- What comes of an operator and a list of integers: nothing unless it accepts so many, an error at
the first integer that the field has no room for, and otherwise the condition with the integers as
parameters. -/
structure Target.TakesIntegers (t : Target) (op : Operator) (type : FieldType) (ns : List Int64)
    (outcome : Except QueryError (Option Predicate)) : Prop where
  nothing : op.accepts ns.length = false → outcome = .ok none
  refused_iff : (∃ e, outcome = .error e) ↔ op.accepts ns.length = true ∧ ∃ n ∈ ns, type.fits n.toInt = false
  refused_first : op.accepts ns.length = true → ∀ before n after, ns = before ++ n :: after →
    (∀ m ∈ before, type.fits m.toInt = true) → type.fits n.toInt = false →
      outcome = .error (.invalid (.badOperand t.field op (.integerRange n.toInt)))
  asked : op.accepts ns.length = true → (∀ n ∈ ns, type.fits n.toInt = true) →
    ∃ ps p, List.Forall₂ (fun n q => type.Holds n.toInt q) ns ps ∧ op.Lists t.column (ps.map .param) p ∧
      outcome = .ok (some p)

/-! ## Elements -/

namespace Text

/-- A text put together with separators falls apart into what it was made of. -/
theorem pieces_intercalate {sep : Char} {parts : List (List Char)} (hne : parts ≠ [])
    (h : ∀ p ∈ parts, sep ∉ p) : pieces sep ([sep].intercalate parts) = parts := by
  induction parts with
  | nil => exact absurd rfl hne
  | cons p parts ih =>
    rw [List.forall_mem_cons] at h
    cases parts with
    | nil => rw [List.intercalate_singleton, pieces_eq_singleton h.1]
    | cons q parts =>
      rw [List.intercalate_cons_cons, List.append_assoc, List.singleton_append, pieces_append_cons h.1,
        ih (List.cons_ne_nil q parts) h.2]

theorem split_intercalate {ss : List String} (hne : ss ≠ []) (h : ∀ s ∈ ss, ',' ∉ s.toList) :
    split ',' (",".intercalate ss) = ss := by
  have hparts : ss.map String.toList ≠ [] := fun hnil => hne (List.map_eq_nil_iff.1 hnil)
  have hjoined : (",".intercalate ss).toList = [','].intercalate (ss.map String.toList) := String.toList_intercalate
  rw [split, hjoined, pieces_intercalate hparts (List.forall_mem_map.2 h), List.map_map]
  exact List.map_id'' (fun s => String.ofList_toList) ss

end Text

namespace Json

theorem elements_array {vs : List Json} (h : ∀ v ∈ vs, v.isNull = false) : (array vs).elements = vs :=
  List.filter_eq_self.2 fun v hv => by rw [h v hv]; rfl

theorem elements_texts (ss : List String) : (array (ss.map .string)).elements = ss.map .string :=
  elements_array (List.forall_mem_map.2 fun _ _ => rfl)

theorem elements_joined {ss : List String} (hne : ss ≠ []) (h : ∀ s ∈ ss, ',' ∉ s.toList) :
    (string (",".intercalate ss)).elements = ss.map .string :=
  congrArg (List.map Json.string) (Text.split_intercalate hne h)

theorem Padded.elements_eq {vs ws : List Json} (h : Padded vs ws) : (array ws).elements = (array vs).elements := by
  show ws.filter _ = vs.filter _
  induction h with
  | nil => rfl
  | null _ ih => rw [List.filter_cons_of_neg (by simp [isNull]), ih]
  | item v _ ih => rw [List.filter_cons, List.filter_cons, ih]

theorem Enumerates.isNull {ns : List Int64} {v : Json} (h : v.Enumerates ns) : v.isNull = false := by
  cases h <;> rfl

end Json

/-! ## Integers -/

theorem Numeral.Spells.comma_notMem {cs : List Char} {n : Int} (h : Spells cs n) : ',' ∉ cs := by
  have hdigits {ds : List Char} (hds : ∀ c ∈ ds, c.isDigit = true) : ',' ∉ ds :=
    fun hmem => absurd (hds ',' hmem) (by decide)
  cases h with
  | digits _ hds => exact hdigits hds
  | plus _ hds | minus _ hds => exact List.not_mem_cons_of_ne_of_not_mem (by decide) (hdigits hds)

/-- The elements of a list of integers are their texts or the numbers. -/
theorem Json.Enumerates.elements_eq {ns : List Int64} {v : Json} (hne : ns ≠ []) (h : v.Enumerates ns) :
    v.elements = ns.map (fun n => .string (Numeral.ofInt n.toInt)) ∨
      v.elements = ns.map fun n => .number (.int n.toInt) := by
  cases h with
  | joined =>
    refine .inl ?_
    rw [elements_joined (fun h => hne (List.map_eq_nil_iff.1 h))
      (List.forall_mem_map.2 fun n _ => (Numeral.spells_ofInt n.toInt).comma_notMem), List.map_map]
    rfl
  | texts => exact .inl (elements_array (List.forall_mem_map.2 fun _ _ => rfl))
  | numbers => exact .inr (elements_array (List.forall_mem_map.2 fun _ _ => rfl))

section

variable {type : FieldType} (htype : type = .integer ∨ type = .bigInteger) {v w : Json}
include htype

theorem castValue_of_fits {n : Int} (h : Cast.integer v = .ok n) (hn : type.fits n = true) :
    ∃ p, type.Holds n p ∧ castValue v (some type) = .ok p := by
  rcases htype with rfl | rfl
  · have hholds := FieldType.Holds.integer (Int32.ofInt n)
    rw [Numeral.toInt_ofInt_of_fitsInt32 hn] at hholds
    exact ⟨_, hholds, (castValue_integer h).trans (if_pos hn)⟩
  · have hholds := FieldType.Holds.bigInteger (Int64.ofInt n)
    rw [Numeral.toInt_ofInt_of_fitsInt64 hn] at hholds
    exact ⟨_, hholds, castValue_bigInteger h⟩

/-- An integer of 64 bits for which a field has no room is the fault. -/
theorem castValue_of_not_fits {n : Int64} (h : Cast.integer v = .ok n.toInt) (hn : type.fits n.toInt = false) :
    castValue v (some type) = .error (.integerRange n.toInt) := by
  rcases htype with rfl | rfl
  · have hn : Numeral.fitsInt32 n.toInt = false := hn
    rw [castValue_integer h, if_neg (by simp [hn])]
  · have hn : Numeral.fitsInt64 n.toInt = false := hn
    exact absurd (Numeral.fitsInt64_toInt n) (by simp [hn])

theorem castValue_eq_of_integer {n : Int} (hv : Cast.integer v = .ok n) (hw : Cast.integer w = .ok n) :
    castValue v (some type) = castValue w (some type) := by
  rcases htype with rfl | rfl
  · rw [castValue_integer hv, castValue_integer hw]
  · rw [castValue_bigInteger hv, castValue_bigInteger hw]

end

/-! ## Conditions -/

/-- The condition of an operator on a column and a list, if it accepts the list. -/
def Operator.listed (op : Operator) (column : Column) (cs : List Column) : Option Predicate :=
  match op, cs with
  | .isIn, cs | .notIn, cs => some (op.signed (.compare .isIn column (.list cs)))
  | .between, [low, high] | .notBetween, [low, high] => some (op.signed (.between column low high))
  | _, _ => none

theorem Operator.exists_lists {op : Operator} (hop : op.takesList = true) (column : Column) {cs : List Column}
    (h : op.accepts cs.length = true) : ∃ p, op.listed column cs = some p ∧ op.Lists column cs p := by
  have htwo (hlen : (cs.length == 2) = true) : ∃ low high, cs = [low, high] :=
    List.length_eq_two.1 (beq_iff_eq.1 hlen)
  cases op with
  | isIn => exact ⟨_, rfl, .isIn cs⟩
  | notIn => exact ⟨_, rfl, .notIn cs⟩
  | between =>
    obtain ⟨low, high, rfl⟩ := htwo h
    exact ⟨_, rfl, .between low high⟩
  | notBetween =>
    obtain ⟨low, high, rfl⟩ := htwo h
    exact ⟨_, rfl, .notBetween low high⟩
  | _ => exact absurd hop Bool.false_ne_true

namespace Target

variable {op : Operator} (hop : op.takesList = true) (t : Target) (g : Geometry) {v w : Json}
include hop

/-- An operator that takes a list sees the elements of its operand only. -/
theorem compare_of_elements (hv : v.isNull = false) (hw : w.isNull = false) (h : v.elements = w.elements) :
    t.compare g op v = t.compare g op w := by
  unfold compare
  rw [hv, hw]
  cases op with
  | isIn | notIn => simp only [compareWith, membership, h]
  | between | notBetween => simp only [compareWith, range, h]
  | _ => exact absurd hop Bool.false_ne_true

/-- The elements are cast one after the other, if they are as many as the operator accepts. -/
theorem compare_eq_listed (hv : v.isNull = false) (hne : v.elements ≠ []) : t.compare g op v =
    if op.accepts v.elements.length then do return op.listed t.column (← v.elements.mapM (t.cast op))
    else .ok none := by
  unfold compare
  rw [hv]
  have hrange (hop : op = .between ∨ op = .notBetween) : t.range op v =
      if v.elements.length == 2 then do return op.listed t.column (← v.elements.mapM (t.cast op)) else .ok none := by
    unfold range
    rcases v.elements with _ | ⟨low, _ | ⟨high, _ | ⟨u, us⟩⟩⟩
    · rfl
    · rfl
    · rw [List.mapM_cons, List.mapM_cons, List.mapM_nil]
      dsimp only
      cases t.cast op low with
      | error e => rfl
      | ok l =>
        cases t.cast op high with
        | error e => rfl
        | ok h => rcases hop with rfl | rfl <;> rfl
    · exact (if_neg (by simp)).symm
  have hmembership (hop : op = .isIn ∨ op = .notIn) : (do return some (← t.membership op v)) =
      (do return op.listed t.column (← v.elements.mapM (t.cast op)) : Except QueryError (Option Predicate)) := by
    unfold membership
    split
    next hnil => exact absurd hnil hne
    next =>
      cases v.elements.mapM (t.cast op) with
      | error e => rfl
      | ok cs => rcases hop with rfl | rfl <;> rfl
  cases op with
  | isIn => exact hmembership (.inl rfl)
  | notIn => exact hmembership (.inr rfl)
  | between => exact hrange (.inl rfl)
  | notBetween => exact hrange (.inr rfl)
  | _ => exact absurd hop Bool.false_ne_true

end Target

/-! ## Lists of integers -/

namespace Target

variable {t : Target} {type : FieldType} (ht : t.type = some type) (htype : type = .integer ∨ type = .bigInteger)
  {op : Operator}
include ht htype

theorem cast_text (n : Int64) :
    t.cast op (.string (Numeral.ofInt n.toInt)) = t.cast op (.number (.int n.toInt)) := by
  unfold cast
  have hn := Numeral.fitsInt64_toInt n
  rw [ht, castValue_eq_of_integer htype (Cast.integer_of_spells (Numeral.spells_ofInt n.toInt) hn)
    (Cast.integer_number hn)]

theorem cast_of_fits {n : Int64} (hn : type.fits n.toInt = true) :
    ∃ p, type.Holds n.toInt p ∧ t.cast op (.number (.int n.toInt)) = .ok (.param p) := by
  obtain ⟨p, hp, hcast⟩ := castValue_of_fits htype (Cast.integer_number (Numeral.fitsInt64_toInt n)) hn
  refine ⟨p, hp, ?_⟩
  unfold cast
  rw [ht, hcast]

variable (op) in
theorem mapM_cast_of_fits {ns : List Int64} (h : ∀ n ∈ ns, type.fits n.toInt = true) :
    ∃ ps, List.Forall₂ (fun n p => type.Holds n.toInt p) ns ps ∧
      (ns.mapM fun n => t.cast op (.number (.int n.toInt))) = .ok (ps.map .param) := by
  induction ns with
  | nil => exact ⟨[], .nil, rfl⟩
  | cons n ns ih =>
    rw [List.forall_mem_cons] at h
    obtain ⟨p, hp, hcast⟩ := cast_of_fits ht htype h.1
    obtain ⟨ps, hps, hrest⟩ := ih h.2
    refine ⟨p :: ps, .cons hp hps, ?_⟩
    rw [List.mapM_cons, hcast, hrest]
    rfl

variable (op) in
/-- The first integer that the field has no room for is the fault of the list. -/
theorem mapM_cast_of_not_fits {before after : List Int64} {n : Int64}
    (hbefore : ∀ m ∈ before, type.fits m.toInt = true) (hn : type.fits n.toInt = false) :
    ((before ++ n :: after).mapM fun n => t.cast op (.number (.int n.toInt))) =
      .error (.invalid (.badOperand t.field op (.integerRange n.toInt))) := by
  obtain ⟨ps, -, hps⟩ := mapM_cast_of_fits ht htype op hbefore
  have hcast : t.cast op (.number (.int n.toInt)) =
      .error (.invalid (.badOperand t.field op (.integerRange n.toInt))) := by
    unfold cast
    rw [ht, castValue_of_not_fits htype (Cast.integer_number (Numeral.fitsInt64_toInt n)) hn]
  exact mapM_append_eq_error hps hcast

/-- However a list of integers is given, its numbers are cast one after the other, if they are as
many as the operator accepts. -/
theorem compare_of_enumerates (hop : op.takesList = true) (g : Geometry) {ns : List Int64} (hne : ns ≠ []) {v : Json}
    (hv : v.Enumerates ns) : t.compare g op v =
      if op.accepts ns.length then
        do return op.listed t.column (← ns.mapM fun n => t.cast op (.number (.int n.toInt)))
      else .ok none := by
  have hmap {f : Int64 → Json} (hf : v.elements = ns.map f)
      (hcast : ∀ n, t.cast op (f n) = t.cast op (.number (.int n.toInt))) : t.compare g op v =
        if op.accepts ns.length then
          do return op.listed t.column (← ns.mapM fun n => t.cast op (.number (.int n.toInt)))
        else .ok none := by
    rw [compare_eq_listed hop t g hv.isNull (by rw [hf]; exact fun h => hne (List.map_eq_nil_iff.1 h)), hf,
      List.length_map, List.mapM_map]
    simp only [Function.comp_def, hcast]
  rcases hv.elements_eq hne with helements | helements
  · exact hmap helements (cast_text ht htype)
  · exact hmap helements fun _ => rfl

theorem takesIntegers (hop : op.takesList = true) (ns : List Int64) : t.TakesIntegers op type ns
    (if op.accepts ns.length then
      do return op.listed t.column (← ns.mapM fun n => t.cast op (.number (.int n.toInt)))
    else .ok none) := by
  have hfirst {before after : List Int64} {n : Int64} (hns : ns = before ++ n :: after)
      (hbefore : ∀ m ∈ before, type.fits m.toInt = true) (hn : type.fits n.toInt = false) :
      (ns.mapM fun n => t.cast op (.number (.int n.toInt))) =
        .error (.invalid (.badOperand t.field op (.integerRange n.toInt))) := by
    rw [hns]
    exact mapM_cast_of_not_fits ht htype op hbefore hn
  cases haccepts : op.accepts ns.length with
  | false =>
    have hno {P : Prop} (h : op.accepts ns.length = true) : P := by simp [haccepts] at h
    exact ⟨fun _ => rfl, ⟨fun ⟨_, he⟩ => absurd he (by simp), fun h => hno h.1⟩, hno, hno⟩
  | true =>
    rw [if_pos rfl]
    refine ⟨fun h => absurd (h.symm.trans haccepts) (by simp), ⟨?_, ?_⟩, ?_, ?_⟩
    · rintro ⟨e, he⟩
      refine ⟨haccepts, ?_⟩
      by_contra hnone
      have hfits : ∀ n ∈ ns, type.fits n.toInt = true :=
        fun n hn => Bool.eq_true_of_not_eq_false fun h => hnone ⟨n, hn, h⟩
      obtain ⟨ps, -, hps⟩ := mapM_cast_of_fits ht htype op hfits
      rw [hps] at he
      exact pure_ne_error he
    · rintro ⟨-, n, hmem, hn⟩
      have hsome : (ns.find? fun m => !type.fits m.toInt).isSome = true :=
        List.find?_isSome.2 ⟨n, hmem, by rw [hn]; rfl⟩
      obtain ⟨m, hm⟩ := Option.isSome_iff_exists.1 hsome
      obtain ⟨hm, before, after, hns, hbefore⟩ := List.find?_eq_some_iff_append.1 hm
      rw [hfirst hns (fun k hk => by simpa using hbefore k hk) (by simpa using hm)]
      exact ⟨_, rfl⟩
    · intro _ before n after hns hbefore hn
      rw [hfirst hns hbefore hn]
      rfl
    · intro _ h
      obtain ⟨ps, hps, hmap⟩ := mapM_cast_of_fits ht htype op h
      have hlen : op.accepts (ps.map Column.param).length = true := by
        rw [List.length_map, ← hps.length_eq]
        exact haccepts
      obtain ⟨p, hp, hlists⟩ := Operator.exists_lists hop t.column hlen
      refine ⟨ps, p, hps, hlists, ?_⟩
      rw [hmap]
      exact congrArg Except.ok hp

end Target

/-- The ways to give a list of operands come to the same: a text with commas and the array of its
parts, an array with null put in anywhere, and for a field of integers the text of some integers,
their texts and the numbers. Integers are refused exactly if the operator accepts so many and the
field has no room for one of them; otherwise each of them is the parameter of that value. -/
theorem Target.compare_lists {op : Operator} (hop : op.takesList = true) (t : Target) (g : Geometry) :
    (∀ ss : List String, ss ≠ [] → (∀ s ∈ ss, ',' ∉ s.toList) →
      t.compare g op (.string (",".intercalate ss)) = t.compare g op (.array (ss.map .string))) ∧
    (∀ vs ws, Json.Padded vs ws → t.compare g op (.array ws) = t.compare g op (.array vs)) ∧
    ∀ type, t.type = some type → type = .integer ∨ type = .bigInteger → ∀ ns : List Int64, ns ≠ [] →
      ∃ outcome, (∀ v, v.Enumerates ns → t.compare g op v = outcome) ∧ t.TakesIntegers op type ns outcome := by
  refine ⟨?_, ?_, ?_⟩
  · intro ss hne hss
    refine compare_of_elements hop t g rfl rfl ?_
    rw [Json.elements_joined hne hss, Json.elements_texts]
  · intro vs ws h
    exact compare_of_elements hop t g rfl rfl h.elements_eq
  · intro type ht htype ns hne
    exact ⟨_, fun v hv => compare_of_enumerates ht htype hop g hne hv, takesIntegers ht htype hop ns⟩

/-- A range whose upper end is beyond 32 bits, as a text, as an array of texts with null between
them and as numbers. -/
theorem Target.compare_lists_pages :
    Operator.between.takesList = true ∧ (Json.string "7,3000000000").Enumerates [7, 3000000000] ∧
      Json.Padded [.string "7", .string "3000000000"] [.string "7", .null, .string "3000000000"] ∧
      ∀ v ∈ [Json.string "7,3000000000", .array [.string "7", .null, .string "3000000000"],
          .array [.number (.int 7), .number (.int 3000000000)]],
        Target.compare ⟨.field "articles" "pages", "pages", some .integer⟩ .postgis .between v =
          .error (.invalid (.badOperand "pages" .between (.integerRange 3000000000))) := by
  have hjoined : (Json.string "7,3000000000").Enumerates [7, 3000000000] := .joined
  have hpadded : Json.Padded [.string "7", .string "3000000000"] [.string "7", .null, .string "3000000000"] :=
    .item _ (.null (.item _ .nil))
  have hop : Operator.between.takesList = true := rfl
  obtain ⟨-, hnulls, hintegers⟩ := Target.compare_lists hop
    ⟨.field "articles" "pages", "pages", some .integer⟩ .postgis
  obtain ⟨outcome, hall, houtcome⟩ := hintegers .integer rfl (.inl rfl) [7, 3000000000] (by decide)
  have hseven : ∀ m ∈ [(7 : Int64)], FieldType.integer.fits m.toInt = true := List.forall_mem_singleton.2 (by decide)
  have hfault := houtcome.refused_first rfl [7] 3000000000 [] rfl hseven (by decide)
  refine ⟨hop, hjoined, hpadded, ?_⟩
  simp only [List.forall_mem_cons, List.not_mem_nil, false_imp_iff, implies_true, and_true]
  refine ⟨(hall _ hjoined).trans hfault, ?_, (hall _ .numbers).trans hfault⟩
  rw [hnulls _ _ hpadded]
  exact (hall _ .texts).trans hfault

end PathQuery
