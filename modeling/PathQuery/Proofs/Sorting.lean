import Mathlib.Data.List.DropRight
import PathQuery.Proofs.Comparison.Lists
import PathQuery.Proofs.Compile.Phases
import PathQuery.Proofs.Json.Decode

/-!
# Sort keys of a query

* `SortsBy`, `SortFault` : the order that a key asks for, and what is the matter with one that asks
  for none;
* `Query.keyList`, `Query.keyText` : the two ways to write sort keys, and `Query.SwapsSort` : two
  texts that differ in them;
* `Setting.answer` : what a query makes of a draft, from its text on;
* `Setting.Orders` : what sort keys add to the answer to a query.

White space is trimmed and blank keys are left out when a text with commas is read, and once more
when keys are compiled, which changes nothing (`Text.trimAll_trimAll`). Texts that differ in their
sort keys are read as queries that do (`Query.SwapsSort.read_agree`), and a query is answered as
without sort keys, but for its order (`Setting.answer_with_sort`). So it does not matter which way
the keys are written (`answer_keyList_eq_keyText`).
-/

namespace PathQuery

open Sql (Draft Join OrderTerm)

/-- The order that a key without white space around it asks for. -/
inductive SortsBy (c : String) : String → OrderTerm → Prop where
  | ascending {field} (h : field.toList.head? ≠ some '-') : SortsBy c field ⟨.field c field, .ascending⟩
  | descending (field) : SortsBy c ("-" ++ field) ⟨.field c field, .descending⟩

/-- Whether a key without white space around it names no field. -/
def Unsortable (key : String) : Prop := key = "-" ∨ '.' ∈ key.toList

instance : DecidablePred Unsortable := fun key => inferInstanceAs (Decidable (key = "-" ∨ '.' ∈ key.toList))

/-- What is the matter with a key that names no field. -/
inductive SortFault : String → InvalidQuery → Prop where
  | dash : SortFault "-" (.emptySortKey "-")
  | ascending {field} (h : field.toList.head? ≠ some '-') (hdot : '.' ∈ field.toList) :
      SortFault field (.relationalSortKey field)
  | descending {field} (hdot : '.' ∈ field.toList) : SortFault ("-" ++ field) (.relationalSortKey field)

namespace Query

open Json

/-- Sort keys as a list of texts. -/
def keyList (keys : List String) : Tree := .list (keys.map fun key => .string (.ok key)) none

/-- Sort keys as one text with commas between them. -/
def keyText (keys : List String) : Tree := .string (.ok (",".intercalate keys))

/-- Whether two texts are one query, but for the value of its sort keys. -/
structure SwapsSort (value value' : Tree) (text text' : String) : Prop where
  root : Tree.Swaps "sort" value value' (Document.ofText text).root (Document.ofText text').root
  trailing : (Document.ofText text).trailing = (Document.ofText text').trailing

end Query

namespace Setting

variable (setting : Setting) (d : Draft) (c : String)

def answer (text : String) (subquery : Bool) (n : Nat) : Except QueryError (Draft × Nat) := do
  let q ← Query.read text
  setting.applyQuery d c q subquery n

/-- What comes of a query with some sort keys, compared with the query of a text without any: the
first key that names no field is the fault of a query that is read, and without such a key only the
order is another one. It has one term more for every key that is not blank. -/
structure Orders (keys : List String) (plain : String) (subquery : Bool) (n : Nat)
    (outcome : Except QueryError (Draft × Nat)) : Prop where
  unread : ∀ e, Query.read plain = .error e → outcome = .error e
  refused_iff : (∃ e, outcome = .error e) ↔
    (∃ key ∈ keys, Unsortable (Text.trim key)) ∨ ∃ e, setting.answer d c plain subquery n = .error e
  refused_first : ∀ q, Query.read plain = .ok q → ∀ before key after, keys = before ++ key :: after →
    (∀ other ∈ before, ¬ Unsortable (Text.trim other)) → ∀ cause, SortFault (Text.trim key) cause →
      outcome = .error (.invalid cause)
  ordered : (∀ key ∈ keys, ¬ Unsortable (Text.trim key)) → ∃ terms,
    List.Forall₂ (fun key term => SortsBy c (Text.trim key) term) (keys.filter fun key => !Text.isBlankText key) terms ∧
    outcome = (setting.answer d c plain subquery n).map fun r => ({ r.1 with order := d.order ++ terms }, r.2)

end Setting

/-! ## White space -/

namespace Text

theorem trimChars_eq (cs : List Char) : trimChars cs = (cs.dropWhile isBlank).rdropWhile isBlank := rfl

theorem trimChars_eq_nil_iff {cs : List Char} : trimChars cs = [] ↔ ∀ c ∈ cs, isBlank c = true := by
  rw [trimChars_eq, List.rdropWhile_eq_nil_iff]
  constructor
  · intro h c hc
    rw [← List.takeWhile_append_dropWhile (p := isBlank) (l := cs)] at hc
    exact (List.mem_append.1 hc).elim List.mem_takeWhile_imp (h c)
  · exact fun h c hc => h c (List.dropWhile_suffix isBlank |>.subset hc)

/-- What is left in front of the white space at the end still begins with something else. -/
theorem dropWhile_trimChars (cs : List Char) : (trimChars cs).dropWhile isBlank = trimChars cs := by
  rw [List.dropWhile_eq_self_iff]
  intro hlen
  have hbegins : trimChars cs <+: cs.dropWhile isBlank := List.rdropWhile_prefix isBlank _
  rw [hbegins.getElem hlen]
  exact List.dropWhile_get_zero_not _ cs (Nat.lt_of_lt_of_le hlen hbegins.length_le)

theorem trimChars_trimChars (cs : List Char) : trimChars (trimChars cs) = trimChars cs := by
  rw [trimChars_eq (trimChars cs), dropWhile_trimChars, trimChars_eq, List.rdropWhile_idempotent]

theorem trim_trim (s : String) : trim (trim s) = trim s := by
  rw [trim, trim, String.toList_ofList, trimChars_trimChars]

/-- Nothing but white space is left of a text if nothing else was there. -/
theorem trim_eq_empty_iff {s : String} : trim s = "" ↔ isBlankText s = true := by
  rw [isBlankText, List.all_eq_true, ← trimChars_eq_nil_iff, trim]
  exact ⟨fun h => String.ofList_injective h, fun h => congrArg String.ofList h⟩

theorem trimAll_eq (ts : List String) : trimAll ts = (ts.filter fun t => !isBlankText t).map trim := by
  rw [trimAll, List.filter_map]
  refine congrArg (List.map trim) (List.filter_congr fun t _ => ?_)
  cases hblank : isBlankText t with
  | true => simp [trim_eq_empty_iff.2 hblank]
  | false => simpa using fun h => Bool.eq_false_iff.1 hblank (trim_eq_empty_iff.1 h)

theorem trimAll_trimAll (ts : List String) : trimAll (trimAll ts) = trimAll ts := by
  have hmem : ∀ t ∈ trimAll ts, trim t = t ∧ t ≠ "" := by
    intro t ht
    obtain ⟨ht, hne⟩ := List.mem_filter.1 ht
    obtain ⟨s, -, rfl⟩ := List.mem_map.1 ht
    exact ⟨trim_trim s, of_decide_eq_true hne⟩
  have hmap : (trimAll ts).map trim = trimAll ts := by
    conv_rhs => rw [← List.map_id (trimAll ts)]
    exact List.map_congr_left fun t ht => (hmem t ht).1
  show ((trimAll ts).map trim).filter _ = _
  rw [hmap]
  exact List.filter_eq_self.2 fun t ht => decide_eq_true (hmem t ht).2

end Text

/-! ## Keys -/

section

variable {c : String}

theorem sortKey_of_ascending {key : String} (h : key.toList.head? ≠ some '-') : sortKey key = (key, .ascending) := by
  unfold sortKey
  split
  next field heq => exact absurd (by rw [heq]; rfl) h
  next => rfl

theorem sortKey_of_descending (field : String) : sortKey ("-" ++ field) = (field, .descending) := by
  have hkey : ("-" ++ field).toList = '-' :: field.toList := String.toList_append
  unfold sortKey
  split
  next rest heq =>
    obtain rfl : field.toList = rest := (List.cons.inj (hkey.symm.trans heq)).2
    rw [String.ofList_toList]
  next hne => exact absurd hkey (hne _)

theorem head?_ne_or_exists_field (key : String) : key.toList.head? ≠ some '-' ∨ ∃ field, key = "-" ++ field := by
  by_cases h : key.toList.head? = some '-'
  · obtain ⟨cs, hcs⟩ := List.head?_eq_some_iff.1 h
    have hfield : (String.ofList cs).toList = cs := String.toList_ofList
    refine .inr ⟨String.ofList cs, String.toList_injective ?_⟩
    rw [hcs, String.toList_append, hfield]
    rfl
  · exact .inl h

theorem sortTerm_of_fault {key : String} {cause : InvalidQuery} (h : SortFault key cause) :
    sortTerm c key = .error (.invalid cause) := by
  cases h with
  | dash => rfl
  | ascending h hdot =>
    rw [sortTerm, sortKey_of_ascending h]
    dsimp only
    rw [if_neg (by rintro rfl; exact absurd hdot List.not_mem_nil), if_pos hdot]
  | @descending field hdot =>
    rw [sortTerm, sortKey_of_descending]
    dsimp only
    rw [if_neg (by rintro rfl; exact absurd hdot List.not_mem_nil), if_pos hdot]

theorem exists_sortTerm {key : String} (hne : key ≠ "") (h : ¬ Unsortable key) :
    ∃ term, SortsBy c key term ∧ sortTerm c key = .ok term := by
  rcases head?_ne_or_exists_field key with hhead | ⟨field, rfl⟩
  · refine ⟨_, .ascending hhead, ?_⟩
    rw [sortTerm, sortKey_of_ascending hhead]
    dsimp only
    rw [if_neg hne, if_neg fun hdot => h (.inr hdot)]
  · refine ⟨_, .descending field, ?_⟩
    rw [sortTerm, sortKey_of_descending]
    dsimp only
    rw [if_neg (by rintro rfl; exact h (.inl rfl)), if_neg fun hdot => h (.inr ?_)]
    rw [String.toList_append]
    exact List.mem_append_right _ hdot

theorem exists_sortFault {key : String} (h : Unsortable key) : ∃ cause, SortFault key cause := by
  rcases h with rfl | hdot
  · exact ⟨_, .dash⟩
  rcases head?_ne_or_exists_field key with hhead | ⟨field, rfl⟩
  · exact ⟨_, .ascending hhead hdot⟩
  · rw [String.toList_append] at hdot
    exact ⟨_, .descending ((List.mem_append.1 hdot).resolve_left (by decide))⟩

theorem SortFault.unsortable {key : String} {cause : InvalidQuery} (h : SortFault key cause) : Unsortable key := by
  cases h with
  | dash => exact .inl rfl
  | ascending _ hdot => exact .inr hdot
  | descending hdot => exact .inr (by rw [String.toList_append]; exact List.mem_append_right _ hdot)

theorem not_unsortable_empty : ¬ Unsortable "" := by
  rintro (h | h)
  · exact absurd h (by decide)
  · exact absurd h List.not_mem_nil

/-- Keys that are not blank are compiled one after the other, trimmed. -/
theorem compileSort_eq (keys : List String) : compileSort c keys =
    (keys.filter fun key => !Text.isBlankText key).mapM fun key => sortTerm c (Text.trim key) := by
  rw [compileSort, Text.trimAll_eq, List.mapM_map, Function.comp_def]

theorem compileSort_trimAll (keys : List String) : compileSort c (Text.trimAll keys) = compileSort c keys := by
  rw [compileSort, compileSort, Text.trimAll_trimAll]

/-- Keys that all name fields ask for an order by each of them that is not blank. -/
theorem exists_of_sortable {keys : List String} (h : ∀ key ∈ keys, ¬ Unsortable (Text.trim key)) : ∃ terms,
    List.Forall₂ (fun key term => SortsBy c (Text.trim key) term) (keys.filter fun key => !Text.isBlankText key) terms ∧
    compileSort c keys = .ok terms := by
  rw [compileSort_eq]
  have hkeys : ∀ key ∈ keys.filter fun key => !Text.isBlankText key,
      Text.trim key ≠ "" ∧ ¬ Unsortable (Text.trim key) := by
    intro key hkey
    obtain ⟨hmem, hblank⟩ := List.mem_filter.1 hkey
    exact ⟨fun hnil => by simp [Text.trim_eq_empty_iff.1 hnil] at hblank, h key hmem⟩
  generalize (keys.filter fun key => !Text.isBlankText key) = solid at hkeys ⊢
  induction solid with
  | nil => exact ⟨[], .nil, rfl⟩
  | cons key solid ih =>
    rw [List.forall_mem_cons] at hkeys
    obtain ⟨term, hsorts, hterm⟩ := exists_sortTerm (c := c) hkeys.1.1 hkeys.1.2
    obtain ⟨terms, hterms, hrest⟩ := ih hkeys.2
    refine ⟨term :: terms, .cons hsorts hterms, ?_⟩
    rw [List.mapM_cons, hterm, hrest]
    rfl

theorem compileSort_of_fault {before after : List String} {key : String} {cause : InvalidQuery}
    (hbefore : ∀ other ∈ before, ¬ Unsortable (Text.trim other)) (h : SortFault (Text.trim key) cause) :
    compileSort c (before ++ key :: after) = .error (.invalid cause) := by
  obtain ⟨terms, -, hterms⟩ := exists_of_sortable (c := c) hbefore
  have hsolid : Text.isBlankText key = false := by
    refine Bool.eq_false_iff.2 fun hblank => not_unsortable_empty ?_
    rw [← Text.trim_eq_empty_iff.2 hblank]
    exact h.unsortable
  rw [compileSort_eq] at hterms ⊢
  rw [List.filter_append, List.filter_cons_of_pos (by rw [hsolid]; rfl)]
  exact mapM_append_eq_error hterms (sortTerm_of_fault h)

-- the blank key is no fault, and the lone dash comes too late
example : compileSort "articles" ["title", " ", "author.name", "-"] =
    .error (.invalid (.relationalSortKey "author.name")) := by
  rfl

theorem exists_error_of_unsortable {keys : List String} (h : ∃ key ∈ keys, Unsortable (Text.trim key)) :
    ∃ e, compileSort c keys = .error e := by
  obtain ⟨key, hkey, hbad⟩ := h
  have hsome : (keys.find? fun key => decide (Unsortable (Text.trim key))).isSome = true :=
    List.find?_isSome.2 ⟨key, hkey, decide_eq_true hbad⟩
  obtain ⟨first, hfirst⟩ := Option.isSome_iff_exists.1 hsome
  obtain ⟨hbad, before, after, rfl, hbefore⟩ := List.find?_eq_some_iff_append.1 hfirst
  obtain ⟨cause, hfault⟩ := exists_sortFault (of_decide_eq_true hbad)
  exact ⟨_, compileSort_of_fault (fun other hother => by simpa using hbefore other hother) hfault⟩

end

/-! ## Reading -/

namespace Query

open Json

theorem splitKeys_intercalate {keys : List String} (h : ∀ key ∈ keys, ',' ∉ key.toList) :
    splitKeys (",".intercalate keys) = Text.trimAll keys := by
  cases keys with
  | nil => rfl
  | cons key keys => rw [splitKeys, Text.split_intercalate (List.cons_ne_nil key keys) h]

theorem itemValues_texts (depth : Nat) (keys : List String) :
    Tree.itemValues depth (keys.map fun key => .string (.ok key)) = .ok (keys.map .string) := by
  induction keys with
  | nil => rfl
  | cons key keys ih =>
    rw [List.map_cons, Tree.itemValues, ih]
    rfl

theorem texts?_map (keys : List String) : texts? (keys.map .string) = some keys := by
  induction keys with
  | nil => rfl
  | cons key keys ih => rw [List.map_cons, texts?, ih, Option.map_some]

theorem decode_keyList (keys : List String) : decodeOption decodeSort (keyList keys) = .ok (some keys) := by
  have hvalue : (keyList keys).value innerDepth = .ok (.array (keys.map .string)) := by
    show (Tree.itemValues _ _ >>= fun values => Except.ok (Json.array values)) = _
    rw [itemValues_texts]
    rfl
  show (decodeSort (keyList keys)).map some = _
  rw [decodeSort, hvalue]
  dsimp only [orText, bind, Except.bind, keys?]
  rw [texts?_map]
  rfl

theorem decode_keyText {keys : List String} (h : ∀ key ∈ keys, ',' ∉ key.toList) :
    decodeOption decodeSort (keyText keys) = .ok (some (Text.trimAll keys)) := by
  show Except.ok (some (splitKeys (",".intercalate keys))) = _
  rw [splitKeys_intercalate h]

/-- Two texts that differ in the value of their sort keys are read as queries that differ in their
sort keys. -/
theorem SwapsSort.read_agree {value value' : Tree} {text text' : String} {keys keys' : Option (List String)}
    (h : SwapsSort value value' text text') (hvalue : decodeOption decodeSort value = .ok keys)
    (hvalue' : decodeOption decodeSort value' = .ok keys') :
    Agree (fun q q' => q.sort = keys ∧ q' = { q with sort := keys' }) (read text) (read text') := by
  -- another field takes its value into both queries alike
  have htake {α : Type} (decode : Decoder Filter.ReadError (Option α)) {put : Query → Option α → Query}
      (hput : ∀ q a, (put q a).sort = q.sort ∧ put { q with sort := keys' } a = { put q a with sort := keys' }) :
      ∀ q q' t, q.sort = keys ∧ q' = { q with sort := keys' } →
        Agree (fun q q' => q.sort = keys ∧ q' = { q with sort := keys' })
          (do return put q (← decode t)) (do return put q' (← decode t)) := by
    rintro q _ t ⟨hq, rfl⟩
    refine (Agree.same (decode t)).bind ?_
    rintro a _ ⟨rfl, -⟩
    exact .ok ⟨(hput q a).1.trans hq, (hput q a).2⟩
  have hroot : Agree (fun q q' => q.sort = keys ∧ q' = { q with sort := keys' })
      (decode (Document.ofText text).root) (decode (Document.ofText text').root) := by
    refine Record.decode_agree (r := record) rfl (fun q => ?_) ?_ h.root empty
    · dsimp only
      rw [hvalue, hvalue']
      exact .ok ⟨rfl, rfl⟩
    · rw [List.forall_mem_cons, List.forall_mem_cons, List.forall_mem_cons, List.forall_mem_cons,
        List.forall_mem_singleton]
      exact ⟨htake _ fun _ _ => ⟨rfl, rfl⟩, htake _ fun _ _ => ⟨rfl, rfl⟩, htake _ fun _ _ => ⟨rfl, rfl⟩,
        htake _ fun _ _ => ⟨rfl, rfl⟩, htake _ fun _ _ => ⟨rfl, rfl⟩⟩
  have hdocument : Agree (fun q q' => q.sort = keys ∧ q' = { q with sort := keys' })
      (decodeDocument decode text) (decodeDocument decode text') := by
    refine hroot.bind fun q q' hq => ?_
    rw [h.trailing]
    split
    next => exact .error _
    next => exact .ok hq
  unfold read
  generalize decodeDocument decode text = x at hdocument ⊢
  generalize decodeDocument decode text' = y at hdocument ⊢
  cases hdocument with
  | ok hq => exact .ok hq
  | error cause => exact .error _

end Query

/-! ## Queries -/

theorem Sql.Draft.addJoins_with_order (js : List Join) (d : Draft) (order : List OrderTerm) :
    js.foldl Draft.addJoin { d with order := order } = { js.foldl Draft.addJoin d with order := order } := by
  induction js generalizing d with
  | nil => rfl
  | cons j js ih =>
    rw [List.foldl_cons, List.foldl_cons, ← ih]
    congr 1
    unfold addJoin
    by_cases h : d.hasJoin j.aliasName = true
    · rw [if_pos h, if_pos (show hasJoin { d with order := order } j.aliasName = true from h)]
    · rw [if_neg h, if_neg (show ¬ hasJoin { d with order := order } j.aliasName = true from h)]
      rfl

theorem Compiled.apply_with_order (compiled : Compiled) (d : Draft) (order : List OrderTerm) :
    compiled.apply { d with order := order } = { compiled.apply d with order := order } := by
  unfold Compiled.apply
  rw [Draft.addJoins_with_order]
  cases compiled.condition <;> rfl

/-- A compiled query with another order only orders a draft in another way. -/
theorem CompiledQuery.apply_with_order (q : CompiledQuery) (d : Draft) (order : List OrderTerm) :
    CompiledQuery.apply { q with order := order } d = { q.apply d with order := d.order ++ order } := by
  have hframe : frame { q with order := order } d = { q.frame d with order := d.order ++ order } := rfl
  rw [apply_frame, apply_frame, hframe]
  dsimp only
  cases q.filter with
  | none => cases q.search <;> rfl
  | some compiled =>
    rw [Option.elim_some, Option.elim_some, compiled.apply_with_order]
    cases q.search <;> rfl

namespace Setting

variable {setting : Setting} {d : Draft} {c : String} {subquery : Bool} {n : Nat}

/-- A query is compiled as without its sort keys, but for its order. -/
theorem compileQuery_with_sort (q : Query) (keys : List String) :
    setting.compileQuery c { q with sort := some keys } subquery n = (do
      let order ← compileSort c keys
      (setting.compileQuery c { q with sort := none } subquery n).map fun r => ({ r.1 with order := order }, r.2)) := by
  unfold compileQuery
  dsimp only [Option.getD_some, Option.getD_none]
  cases compileSort c keys with
  | error e => rfl
  | ok order =>
    cases compileLimit setting.config q.limit with
    | error e => rfl
    | ok limit =>
      cases compileOffset q.offset q.page q.limit with
      | error e => rfl
      | ok offset =>
        cases setting.compileFilter? subquery c q.filter n with
        | error e => rfl
        | ok filtered => cases setting.compileSearch? c q.search <;> rfl

/-- A query is answered as without its sort keys, but for its order. -/
theorem applyQuery_with_sort (q : Query) (keys : List String) :
    setting.applyQuery d c { q with sort := some keys } subquery n = (do
      let order ← compileSort c keys
      (setting.applyQuery d c { q with sort := none } subquery n).map fun r =>
        ({ r.1 with order := d.order ++ order }, r.2)) := by
  unfold applyQuery
  rw [compileQuery_with_sort]
  cases compileSort c keys with
  | error e => rfl
  | ok order =>
    cases setting.compileQuery c { q with sort := none } subquery n with
    | error e => rfl
    | ok r => exact congrArg (fun d' => Except.ok (d', r.2)) (r.1.apply_with_order d order)

theorem applyQuery_trimAll (q : Query) (keys : List String) :
    setting.applyQuery d c { q with sort := some (Text.trimAll keys) } subquery n =
      setting.applyQuery d c { q with sort := some keys } subquery n := by
  rw [applyQuery_with_sort, applyQuery_with_sort, compileSort_trimAll]

/-- A text with sort keys is answered as the one without any, but for the order that they ask
for. -/
theorem answer_with_sort {value : Json.Tree} {plain text : String} {keys : List String}
    (h : Query.SwapsSort .null value plain text) (hvalue : Json.decodeOption Query.decodeSort value = .ok (some keys)) :
    setting.answer d c text subquery n = (do
      let q ← Query.read plain
      let order ← compileSort c keys
      (setting.applyQuery d c q subquery n).map fun r => ({ r.1 with order := d.order ++ order }, r.2)) := by
  have hread := h.read_agree rfl hvalue
  unfold answer
  generalize Query.read plain = x at hread ⊢
  generalize Query.read text = y at hread ⊢
  cases hread with
  | error e => rfl
  | @ok q q' hq =>
    obtain ⟨hnone, rfl⟩ := hq
    have hplain : { q with sort := none } = q := hnone ▸ rfl
    show setting.applyQuery d c _ subquery n = _
    rw [applyQuery_with_sort, hplain]
    rfl

/-- Texts with sort keys that come to the same once they are trimmed are answered alike. -/
theorem answer_eq {value value' : Json.Tree} {text text' : String} {keys : List String}
    (h : Query.SwapsSort value value' text text') (hvalue : Json.decodeOption Query.decodeSort value = .ok (some keys))
    (hvalue' : Json.decodeOption Query.decodeSort value' = .ok (some (Text.trimAll keys))) :
    setting.answer d c text subquery n = setting.answer d c text' subquery n := by
  have hread := h.read_agree hvalue hvalue'
  unfold answer
  generalize Query.read text = x at hread ⊢
  generalize Query.read text' = y at hread ⊢
  cases hread with
  | error e => rfl
  | @ok q q' hq =>
    obtain ⟨hkeys, rfl⟩ := hq
    have hlisted : { q with sort := some keys } = q := hkeys ▸ rfl
    show setting.applyQuery d c q subquery n = setting.applyQuery d c _ subquery n
    rw [applyQuery_trimAll, hlisted]

theorem orders_of_compileSort (keys : List String) (plain : String) :
    setting.Orders d c keys plain subquery n (do
      let q ← Query.read plain
      let order ← compileSort c keys
      (setting.applyQuery d c q subquery n).map fun r => ({ r.1 with order := d.order ++ order }, r.2)) := by
  constructor
  case unread =>
    intro e he
    rw [he]
    rfl
  case refused_first =>
    rintro q hq before key after rfl hbefore cause hfault
    rw [hq, compileSort_of_fault hbefore hfault]
    rfl
  case ordered =>
    intro hkeys
    obtain ⟨terms, hterms, hcompiled⟩ := exists_of_sortable (c := c) hkeys
    refine ⟨terms, hterms, ?_⟩
    rw [hcompiled, answer]
    cases Query.read plain <;> rfl
  case refused_iff =>
    unfold answer
    cases Query.read plain with
    | error e => exact ⟨fun _ => .inr ⟨e, rfl⟩, fun _ => ⟨e, rfl⟩⟩
    | ok q =>
      dsimp only [bind, Except.bind]
      by_cases hkeys : ∃ key ∈ keys, Unsortable (Text.trim key)
      · obtain ⟨e, he⟩ := exists_error_of_unsortable (c := c) hkeys
        rw [he]
        exact ⟨fun _ => .inl hkeys, fun _ => ⟨e, rfl⟩⟩
      · obtain ⟨terms, -, hcompiled⟩ := exists_of_sortable (c := c) fun key hkey hbad => hkeys ⟨key, hkey, hbad⟩
        rw [hcompiled, or_iff_right hkeys]
        cases setting.applyQuery d c q subquery n with
        | error e => exact ⟨fun _ => ⟨e, rfl⟩, fun _ => ⟨e, rfl⟩⟩
        | ok r => exact ⟨fun ⟨_, h⟩ => absurd h (by simp [Except.map]), fun ⟨_, h⟩ => absurd h (by simp)⟩

end Setting

/-- Sort keys without commas are answered alike as a list and as one text with commas between them.
The query is refused where it would be without them, and for the first key that names no field, and
otherwise it is ordered by the keys that are not blank. -/
theorem answer_keyList_eq_keyText (setting : Setting) (d : Draft) (c : String) (subquery : Bool) (n : Nat)
    {keys : List String} (hkeys : ∀ key ∈ keys, ',' ∉ key.toList) {listed joined : String}
    (h : Query.SwapsSort (Query.keyList keys) (Query.keyText keys) listed joined) :
    setting.answer d c listed subquery n = setting.answer d c joined subquery n ∧
    ∀ plain, Query.SwapsSort .null (Query.keyList keys) plain listed →
      setting.Orders d c keys plain subquery n (setting.answer d c listed subquery n) := by
  refine ⟨Setting.answer_eq h (Query.decode_keyList keys) (Query.decode_keyText hkeys), fun plain hplain => ?_⟩
  rw [Setting.answer_with_sort hplain (Query.decode_keyList keys)]
  exact Setting.orders_of_compileSort keys plain

/-- A key behind a dash and with white space around it, a blank one, and one without any. -/
theorem answer_words_title :
    let keys := [" -words ", "", "title"]
    let plain := "\x7b\"sort\":null,\"limit\":5\x7d"
    let listed := "\x7b\"sort\":[\" -words \",\"\",\"title\"],\"limit\":5\x7d"
    let joined := "\x7b\"sort\":\" -words ,,title\",\"limit\":5\x7d"
    let setting := Setting.default .newsroom
    (∀ key ∈ keys, ',' ∉ key.toList) ∧ Query.SwapsSort (Query.keyList keys) (Query.keyText keys) listed joined ∧
    Query.SwapsSort .null (Query.keyList keys) plain listed ∧
    setting.answer (.new "articles") "articles" listed false 0 =
      setting.answer (.new "articles") "articles" joined false 0 ∧
    setting.Orders (.new "articles") "articles" keys plain false 0
      (setting.answer (.new "articles") "articles" listed false 0) := by
  have hkeys : ∀ key ∈ [" -words ", "", "title"], ',' ∉ key.toList := by decide
  have hplain : Json.Document.ofText "\x7b\"sort\":null,\"limit\":5\x7d" =
      ⟨.object [(.ok "sort", .null), (.ok "limit", .number (.ok (.int 5)))] none, false⟩ := by
    with_unfolding_all rfl
  have hlisted : Json.Document.ofText "\x7b\"sort\":[\" -words \",\"\",\"title\"],\"limit\":5\x7d" =
      ⟨.object [(.ok "sort", Query.keyList [" -words ", "", "title"]), (.ok "limit", .number (.ok (.int 5)))] none,
        false⟩ := by
    with_unfolding_all rfl
  have hjoined : Json.Document.ofText "\x7b\"sort\":\" -words ,,title\",\"limit\":5\x7d" =
      ⟨.object [(.ok "sort", Query.keyText [" -words ", "", "title"]), (.ok "limit", .number (.ok (.int 5)))] none,
        false⟩ := by
    with_unfolding_all rfl
  intro keys plain listed joined setting
  have hswap : Query.SwapsSort (Query.keyList keys) (Query.keyText keys) listed joined :=
    ⟨by rw [hlisted, hjoined]; exact .entry [] _ none, by rw [hlisted, hjoined]⟩
  have hswap' : Query.SwapsSort .null (Query.keyList keys) plain listed :=
    ⟨by rw [hplain, hlisted]; exact .entry [] _ none, by rw [hplain, hlisted]⟩
  obtain ⟨heq, horders⟩ := answer_keyList_eq_keyText setting (.new "articles") "articles" false 0 hkeys hswap
  exact ⟨hkeys, hswap, hswap', heq, horders plain hswap'⟩

end PathQuery
