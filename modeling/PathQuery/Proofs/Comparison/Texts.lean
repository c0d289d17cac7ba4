import PathQuery.Proofs.Compile.Test
import PathQuery.Proofs.Sql.Truth
import PathQuery.Proofs.Text.Like
import PathQuery.Search

/-!
# What is asked of texts

* `Dialect.ReadsTexts` : the dialects that compare texts with patterns as `LIKE` does and lower the
  case of texts;
* `Operator.Finds` : the text operators, each with the part of a text that it looks for or looks out
  for;
* `Predicate.TrueOf` : the texts in a column that a condition is true of.

Nothing is escaped in an operand before it is made a pattern. One without any of the three
characters of patterns is found as it stands, and no other operand is; any other one is found as the
pattern that it is (`compare_text_iff`).
-/

namespace PathQuery

open Sql (Column Predicate Truth Dialect Database Env)
open Pattern (places? fits Plain)

/-- Whether a dialect compares texts with patterns place by place, and lowers the case of texts by a
function. -/
structure Sql.Dialect.ReadsTexts {V : Type} (d : Dialect V) (lower : String → String) : Prop where
  like (s pattern : String) {ps : List Pattern.Place} (h : places? false pattern.toList = some ps) :
    d.like (d.value (.text s)) (d.value (.text pattern)) = fits ps s.toList
  call (s : String) : d.call "LOWER" (some (d.value (.text s))) = some (d.value (.text (lower s)))

/-- Operators that look for a part of texts, or for texts without it. -/
inductive Operator.Finds : Operator → Bool → (List Char → List Char → Prop) → Prop where
  | contains : Finds .contains true (· <:+: ·)
  | notContains : Finds .notContains false (· <:+: ·)
  | startsWith : Finds .startsWith true (· <+: ·)
  | notStartsWith : Finds .notStartsWith false (· <+: ·)
  | endsWith : Finds .endsWith true (· <:+ ·)
  | notEndsWith : Finds .notEndsWith false (· <:+ ·)

/-! ## Patterns of operators -/

namespace Operator.Finds

variable {op : Operator} {positive : Bool} {part : List Char → List Char → Prop}

theorem isNegated (h : op.Finds positive part) : op.isNegated = !positive := by cases h <;> rfl

theorem isInfix (h : op.Finds positive part) {m s : List Char} (hm : part m s) : m <:+: s := by
  cases h with
  | contains | notContains => exact hm
  | startsWith | notStartsWith => exact List.IsPrefix.isInfix hm
  | endsWith | notEndsWith => exact List.IsSuffix.isInfix hm

/-- How percent signs and an operand make up the pattern of an operator. -/
theorem toList_pattern (h : op.Finds positive part) (v : String) :
    (op.pattern v).toList = '%' :: (v.toList ++ ['%']) ∧ part = (· <:+: ·) ∨
      (op.pattern v).toList = v.toList ++ ['%'] ∧ part = (· <+: ·) ∨
      (op.pattern v).toList = '%' :: v.toList ∧ part = (· <:+ ·) := by
  cases h with
  | contains | notContains =>
    refine .inl ⟨?_, rfl⟩
    show ("%" ++ v ++ "%").toList = _
    rw [String.toList_append, String.toList_append]
    rfl
  | startsWith | notStartsWith =>
    refine .inr (.inl ⟨?_, rfl⟩)
    exact String.toList_append
  | endsWith | notEndsWith =>
    refine .inr (.inr ⟨?_, rfl⟩)
    exact String.toList_append

/-- The pattern of an operand that is a pattern is fit by the texts with a part that fits the
operand. -/
theorem fits_pattern (h : op.Finds positive part) {v : String} {ps : List Pattern.Place}
    (hv : places? false v.toList = some ps) : ∃ qs, places? false (op.pattern v).toList = some qs ∧
      ∀ s, fits qs s = true ↔ ∃ m, part m s ∧ fits ps m = true := by
  have hafter : places? false (v.toList ++ ['%']) = some (ps ++ [.any]) := Pattern.places?_append hv
  obtain ⟨hpattern, rfl⟩ | ⟨hpattern, rfl⟩ | ⟨hpattern, rfl⟩ := h.toList_pattern v
  · refine ⟨.any :: (ps ++ [.any]), ?_, fun s => Pattern.fits_any_append_any⟩
    rw [hpattern, Pattern.places?_percent, hafter]
    rfl
  · refine ⟨ps ++ [.any], ?_, fun s => Pattern.fits_append_any⟩
    rw [hpattern, hafter]
  · refine ⟨.any :: ps, ?_, fun s => Pattern.fits_any_cons⟩
    rw [hpattern, Pattern.places?_percent, hv]
    rfl

theorem fits_pattern_of_plain (h : op.Finds positive part) {v : String} (hv : Plain v.toList) :
    ∃ qs, places? false (op.pattern v).toList = some qs ∧ ∀ s, fits qs s = true ↔ part v.toList s := by
  obtain ⟨qs, hqs, hfits⟩ := h.fits_pattern (Pattern.places?_of_plain hv)
  refine ⟨qs, hqs, fun s => (hfits s).trans ?_⟩
  simp only [Pattern.fits_map_exactly, exists_eq_right]

/-- A text fits the pattern of an operand that is no part of it, unless the operand is plain. -/
theorem exists_fits_pattern (h : op.Finds positive part) {v : String} {qs : List Pattern.Place}
    (hqs : places? false (op.pattern v).toList = some qs) :
    ∃ s, fits qs s = true ∧ (part v.toList s → Plain v.toList) := by
  have hsample {w : List Char} {ps : List Pattern.Place} (hw : w = [] ∨ w = ['%'])
      (hps : places? false (v.toList ++ w) = some ps) (hpart : part v.toList (ps.flatMap Pattern.Place.sample)) :
      Plain v.toList := by
    obtain ⟨hlen, hplain⟩ := Pattern.plain_of_sample hw hps
    exact hplain ((h.isInfix hpart).eq_of_length_le hlen).symm
  obtain ⟨hpattern, -⟩ | ⟨hpattern, -⟩ | ⟨hpattern, -⟩ := h.toList_pattern v
  · rw [hpattern, Pattern.places?_percent] at hqs
    obtain ⟨ps, hps, rfl⟩ := Option.map_eq_some_iff.1 hqs
    exact ⟨ps.flatMap Pattern.Place.sample, Pattern.fits_sample (.any :: ps), hsample (.inr rfl) hps⟩
  · rw [hpattern] at hqs
    exact ⟨_, Pattern.fits_sample qs, hsample (.inr rfl) hqs⟩
  · rw [hpattern, Pattern.places?_percent] at hqs
    obtain ⟨ps, hps, rfl⟩ := Option.map_eq_some_iff.1 hqs
    rw [← List.append_nil v.toList] at hps
    exact ⟨ps.flatMap Pattern.Place.sample, Pattern.fits_sample (.any :: ps), hsample (.inl rfl) hps⟩

end Operator.Finds

/-! ## Truths -/

section

variable {V : Type} [DecidableEq V] {d : Dialect V} {lower : String → String} (hd : d.ReadsTexts lower)
  (db : Database V)

/-- Whether a condition is true of those texts in a column that have a property. -/
def Sql.Predicate.TrueOf (d : Dialect V) (db : Database V) (table column : String) (p : Predicate)
    (P : String → Prop) : Prop :=
  ∀ (e : Env V) (s : String), e table column = some (d.value (.text s)) → (p.truth d db e = .true ↔ P s)

/-- A condition on a column that is true or false has the opposite truth under a negated
operator. -/
theorem truth_signed {op : Operator} {positive : Bool} {part : List Char → List Char → Prop}
    (h : op.Finds positive part) {e : Env V} {p : Predicate} {b : Bool} (hp : p.truth d db e = .ofBool b) :
    (op.signed p).truth d db e = .true ↔ (b = true ↔ positive = true) := by
  unfold Operator.signed
  rw [h.isNegated]
  cases positive with
  | true => cases b <;> simp [hp, Truth.ofBool]
  | false => cases b <;> simp [Predicate.truth_negate, hp, Truth.ofBool, Truth.not]

include hd

/-- A text in a column is compared with a pattern place by place. -/
theorem truth_like {c : Column} {pattern : String} {ps : List Pattern.Place}
    (hps : places? false pattern.toList = some ps) {e : Env V} {s : String}
    (hc : c.cells d db e = [some (d.value (.text s))]) :
    (Predicate.compare .like c (.param (.text pattern))).truth d db e = .ofBool (fits ps s.toList) := by
  rw [Predicate.truth, hc, Column.cells]
  exact congrArg Truth.ofBool (hd.like s pattern hps)

theorem cells_lower {table column s : String} {e : Env V} (hs : e table column = some (d.value (.text s))) :
    (Column.call "LOWER" (.field table column)).cells d db e = [some (d.value (.text (lower s)))] := by
  rw [Column.cells, Column.cells, hs, List.map_singleton, hd.call]

end

/-- The texts that the text operators find, and those that a search finds in a column of texts. An
operand without any of the characters of patterns is found as it stands, at its place in the text;
no other operand whose pattern can be read is, but one that is a pattern itself is found as that
pattern. A term whose lower case is plain is found in the lower case of the texts. -/
theorem compare_text_iff {V : Type} [DecidableEq V] {d : Dialect V} {lower : String → String}
    (hd : d.ReadsTexts lower) (db : Database V) (g : Geometry) :
    (∀ {op : Operator} {positive : Bool} {part : List Char → List Char → Prop}, op.Finds positive part →
      ∀ (table column field : String) (type : Option FieldType) (v : String),
        ∃ p, (Target.of column field type table).compare g op (.string v) = .ok (some p) ∧
          (Plain v.toList →
            p.TrueOf d db table column fun s => part v.toList s.toList ↔ positive = true) ∧
          (∀ ps, places? false v.toList = some ps →
            p.TrueOf d db table column fun s => (∃ m, part m s.toList ∧ fits ps m = true) ↔ positive = true) ∧
          ∀ qs, places? false (op.pattern v).toList = some qs →
            (p.TrueOf d db table column fun s => part v.toList s.toList ↔ positive = true) → Plain v.toList) ∧
    ∀ (collection term name : String) (field : SchemaField), field.type.isText = true →
      ∃ p, searchField? collection term name field = some p ∧
        (Plain (Text.toLower term).toList →
          p.TrueOf d db collection name fun s => (Text.toLower term).toList <:+: (lower s).toList) := by
  constructor
  · intro op positive part hop table column field type v
    let p := op.signed (.compare .like (.field table column) (.param (.text (op.pattern v))))
    have hcompare : (Target.of column field type table).compare g op (.string v) = .ok (some p) := by
      cases hop <;> rfl
    have htrue {qs : List Pattern.Place} (hqs : places? false (op.pattern v).toList = some qs) {e : Env V} {s : String}
        (hs : e table column = some (d.value (.text s))) :
        p.truth d db e = .true ↔ (fits qs s.toList = true ↔ positive = true) :=
      truth_signed db hop (truth_like hd db hqs (by rw [Column.cells, hs]))
    refine ⟨p, hcompare, fun hplain e s hs => ?_, fun ps hps e s hs => ?_, fun qs hqs hlaw => ?_⟩
    · obtain ⟨qs, hqs, hfits⟩ := hop.fits_pattern_of_plain hplain
      rw [htrue hqs hs, hfits]
    · obtain ⟨qs, hqs, hfits⟩ := hop.fits_pattern hps
      rw [htrue hqs hs, hfits]
    · obtain ⟨s, hfits, hplain⟩ := hop.exists_fits_pattern hqs
      have hs := hlaw (fun _ _ => some (d.value (.text (String.ofList s)))) (String.ofList s) rfl
      rw [htrue hqs rfl, String.toList_ofList] at hs
      refine hplain ?_
      cases positive <;> simpa [hfits] using hs
  · intro collection term name field htext
    refine ⟨_, if_pos htext, fun hplain e s hs => ?_⟩
    obtain ⟨qs, hqs, hfits⟩ := Operator.Finds.contains.fits_pattern_of_plain hplain
    have hqs : places? false (searchPattern term).toList = some qs := hqs
    rw [truth_like hd db hqs (cells_lower hd db hs), Truth.ofBool_eq_true]
    exact hfits (lower s).toList

/-- The dialect of words with patterns. -/
def Sql.Dialect.patterns : Dialect String :=
  { Dialect.words with
    like := fun s pattern => ((places? false pattern.toList).map (fits · s.toList)).getD false
    call := fun _ cell => cell.map Text.toLower }

theorem readsTexts_patterns : Dialect.patterns.ReadsTexts Text.toLower where
  like s pattern ps h := by
    show ((places? false pattern.toList).map (fits · s.toList)).getD false = fits ps s.toList
    rw [h]
    rfl
  call s := rfl

/-- A plain word in titles, asked for with and without case. -/
theorem compare_text_apple :
    Dialect.patterns.ReadsTexts Text.toLower ∧ Operator.Finds .contains true (· <:+: ·) ∧
      Plain "apple".toList ∧ Plain (Text.toLower "Apple").toList ∧
      (∃ p, (Target.of "title" "title" (some .string) "articles").compare .postgis .contains (.string "apple") =
          .ok (some p) ∧
        p.TrueOf .patterns (fun _ => []) "articles" "title" fun s => "apple".toList <:+: s.toList ↔ true = true) ∧
      ∃ p, searchField? "articles" "Apple" "title" ⟨.string, false⟩ = some p ∧
        p.TrueOf .patterns (fun _ => []) "articles" "title" fun s =>
          (Text.toLower "Apple").toList <:+: (Text.toLower s).toList := by
  have hplain : Plain "apple".toList := by decide
  have hlower : Plain (Text.toLower "Apple").toList := by decide +kernel
  have hiff := compare_text_iff readsTexts_patterns (fun _ => []) .postgis
  obtain ⟨p, hp, happle, -, -⟩ := hiff.1 .contains "articles" "title" "title" (some .string) "apple"
  obtain ⟨q, hq, hfound⟩ := hiff.2 "articles" "Apple" "title" ⟨.string, false⟩ rfl
  exact ⟨readsTexts_patterns, .contains, hplain, hlower, ⟨p, hp, happle hplain⟩, q, hq, hfound hlower⟩

/-- A percent sign in the operand finds a text without one. -/
theorem compare_text_percent :
    Dialect.patterns.ReadsTexts Text.toLower ∧
      (∃ p, (Target.of "title" "title" (some .string) "articles").compare .postgis .contains (.string "50%") =
          .ok (some p) ∧
        p.truth Dialect.patterns (fun _ => []) (fun _ _ => some "50 apples") = .true) ∧
      ¬ "50%".toList <:+: "50 apples".toList := by
  have hplaces : places? false "%50%%".toList = some [.any, .exactly '5', .exactly '0', .any, .any] := by decide
  have hcells : (Column.field "articles" "title").cells Dialect.patterns (fun _ => []) (fun _ _ => some "50 apples") =
      [some "50 apples"] := by rw [Column.cells]
  refine ⟨readsTexts_patterns, ⟨_, rfl, ?_⟩, by decide⟩
  exact (truth_like readsTexts_patterns _ hplaces hcells).trans (by decide)

end PathQuery
