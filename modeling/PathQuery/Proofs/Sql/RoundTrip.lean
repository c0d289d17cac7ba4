import PathQuery.Proofs.Sql.Condition

/-!
# Statements are read back

The symbols of a readable statement are read back as the flat statement (`Select.parsed`). A list of
columns ends where no column begins, a row of joins where no join does, and every clause before the
words of those behind it (`Behind`), so each reader stops where the part that it reads ends.

* `Table.joins` : a table as a row of joins to its first table, however they are nested;
* `Select.Parsed` : statements that are read back, flat, where they end.
-/

namespace PathQuery.Sql

open Parse

/-! ## Lists of columns -/

namespace Column

theorem listed_parsed {cs : List Column} (hcs : ∀ c ∈ cs, c.isPlain isFunction = true)
    (h : ∀ c ∈ cs, c.Parsed) {n : Nat} (hn : (Symbol.commas (symbolLists cs)).length < n)
    {r : List Symbol} (hcomma : mark "," r = none)
    (hr : ∀ s t, r = s :: t → startsColumn s = false) :
    listed (Parse.column n) n (Symbol.commas (symbolLists cs) ++ r) = some (flatList cs, r) := by
  rw [symbolLists_eq_map, Symbol.commas_eq_joined] at hn
  rw [symbolLists_eq_map, flatList_eq_map]
  refine listed_reads ?_ ?_ ?_ hcomma hr
  · rw [List.forall₂_map_left_iff, List.forall₂_map_right_iff, List.forall₂_same]
    intro c hc
    have hle := Symbol.length_le_joined (s := .mark ",") c.symbols (List.mem_map_of_mem hc)
    exact h c hc n (by omega)
  · refine List.forall_mem_map.2 fun c hc => ?_
    exact c.exists_start (hcs c hc)
  · have hcount := Symbol.length_le_length_joined (.mark ",") (cs.map symbols)
    omega

/-- A list of columns does not begin as a statement does. -/
theorem word_select_list {cs : List Column} (hcs : ∀ c ∈ cs, c.isPlain isFunction = true) (r : List Symbol) :
    word "SELECT" (Symbol.commas (symbolLists cs) ++ .mark ")" :: r) = none := by
  cases cs with
  | nil => rfl
  | cons c cs =>
    obtain ⟨s, t, hc, hs⟩ := c.exists_start (hcs c List.mem_cons_self)
    have hcons : ∃ u, Symbol.commas (symbolLists (c :: cs)) ++ .mark ")" :: r = s :: u := by
      rw [symbolLists, hc]
      cases cs <;> exact ⟨_, rfl⟩
    obtain ⟨u, hu⟩ := hcons
    rw [hu]
    exact word_of_startsColumn hs (by decide) (by decide) u

end Column

/-! ## Tables -/

namespace Table

def first : Table → Table
  | .named name aliasName => .named name aliasName
  | .leftJoin left _ _ => left.first

def joins : Table → List (Table × Predicate)
  | .named _ _ => []
  | .leftJoin left right on => left.joins ++ [(right, on)]

def joinSymbols (j : Table × Predicate) : List Symbol := .word "JOIN" :: (j.1.symbols ++ .word "ON" :: j.2.symbols)

theorem length_le_flatMap {w : String} {sss : List (List Symbol)} {ss : List Symbol} (h : ss ∈ sss) :
    ss.length < (sss.flatMap fun ss => .word w :: ss).length := by
  obtain ⟨before, behind, rfl⟩ := List.append_of_mem h
  simp only [List.flatMap_append, List.flatMap_cons, List.length_append, List.length_cons]
  omega

theorem length_le_length_flatMap (w : String) (sss : List (List Symbol)) :
    sss.length ≤ (sss.flatMap fun ss => .word w :: ss).length := by
  induction sss with
  | nil => exact Nat.le_refl 0
  | cons ss sss ih =>
    rw [List.flatMap_cons, List.length_append, List.length_cons, List.length_cons]
    omega

theorem exists_first (t : Table) : ∃ name aliasName, t.first = .named name aliasName := by
  cases t with
  | named name aliasName => exact ⟨name, aliasName, rfl⟩
  | leftJoin left right on => exact exists_first left

theorem symbols_eq (t : Table) :
    t.symbols = t.first.symbols ++ (t.joins.map joinSymbols).flatMap fun ss => .word "LEFT" :: ss := by
  cases t with
  | named name aliasName => simp [first, joins]
  | leftJoin left right on =>
    rw [symbols, symbols_eq left]
    simp [first, joins, joinSymbols, Predicate.symbols]

theorem flat_eq (t : Table) : t.flat =
    (t.joins.map fun j => (j.1.flat, j.2.flat)).foldl (fun left j => .leftJoin left j.1 j.2) t.first.flat := by
  cases t with
  | named name aliasName => rfl
  | leftJoin left right on =>
    rw [flat, flat_eq left]
    simp [first, joins, Predicate.flat]

/-- Whether the symbols of a table are read back as the flat table. -/
def Parsed (t : Table) : Prop := ∀ n r, t.symbols.length < n → word "AS" r = none → word "LEFT" r = none →
  Parse.table n (t.symbols ++ r) = some (t.flat, r)

theorem named_reads (name : String) (aliasName : Option String) {r : List Symbol} (hr : word "AS" r = none) :
    Parse.named (namedSymbols name aliasName ++ r) = some ((Table.named name aliasName).flat, r) := by
  cases aliasName with
  | none => simp [Parse.named, namedSymbols, Parse.name, maybe_none hr, flat, flatAlias]
  | some a =>
    by_cases h : name = a
    · simp [Parse.named, namedSymbols, Parse.name, h, maybe_none hr, flat, flatAlias]
    · simp [Parse.named, namedSymbols, Parse.name, h, maybe, flat, flatAlias]

theorem parsed_of_joins {t : Table} (h : ∀ j ∈ t.joins, j.1.Parsed ∧ j.2.Parsed) : t.Parsed := by
  intro n r hlen has hleft
  obtain ⟨n, rfl⟩ := Nat.exists_eq_add_one_of_ne_zero (Nat.ne_of_gt (Nat.lt_of_le_of_lt (Nat.zero_le _) hlen))
  obtain ⟨name, aliasName, hfirst⟩ := t.exists_first
  have hpos : 0 < t.first.symbols.length := by
    rw [hfirst, symbols]
    unfold namedSymbols
    split
    · split <;> exact Nat.succ_pos _
    · exact Nat.succ_pos _
  have hsymbols := t.symbols_eq
  have hsum := congrArg List.length hsymbols
  rw [List.length_append] at hsum
  have hjoins : List.Forall₂ (Reads (join (Parse.table n) (Parse.predicate n))) (t.joins.map joinSymbols)
      (t.joins.map fun j => (j.1.flat, j.2.flat)) := by
    rw [List.forall₂_map_left_iff, List.forall₂_map_right_iff, List.forall₂_same]
    intro j hj r
    obtain ⟨hright, hon⟩ := h j hj
    have hle := length_le_flatMap (w := "LEFT") (List.mem_map_of_mem (f := joinSymbols) hj)
    simp only [joinSymbols, List.length_cons, List.length_append] at hle
    have htable := hright n (.word "ON" :: (j.2.symbols ++ r)) (by omega) rfl rfl
    have hpredicate := hon.reads n (by omega) r
    rw [joinSymbols, List.cons_append, join, word_word, List.append_assoc, List.cons_append]
    simp only [Option.bind_eq_bind, Option.bind_some, htable, word_word, hpredicate]
    rfl
  have hcount := length_le_length_flatMap "LEFT" (t.joins.map joinSymbols)
  have hrepeated := repeated_reads hjoins (n := n) (by omega) hleft
  have hbehind : word "AS" (((t.joins.map joinSymbols).flatMap fun ss => .word "LEFT" :: ss) ++ r) = none := by
    cases t.joins with
    | nil => exact has
    | cons j js => rfl
  rw [hsymbols, List.append_assoc, Parse.table, t.flat_eq, hfirst, symbols, named_reads name aliasName hbehind]
  simp only [Option.bind_eq_bind, Option.bind_some, hrepeated]
  rfl

end Table

/-! ## Clauses -/

/-- What stands behind a statement: nothing, or the parenthesis that it stands in. -/
def Ends (r : List Symbol) : Prop := r = [] ∨ ∃ t, r = .mark ")" :: t

/-- What stands behind a part of a statement: a clause that one of some words begins, or the end. -/
def Behind (ws : List String) (r : List Symbol) : Prop := Ends r ∨ ∃ w ∈ ws, ∃ t, r = .word w :: t

namespace Behind

variable {ws : List String} {w m : String} {ss r : List Symbol}

theorem word_eq_none (h : Behind ws r) (hw : w ∉ ws) : word w r = none := by
  obtain (rfl | ⟨t, rfl⟩) | ⟨v, hv, t, rfl⟩ := h
  · rfl
  · rfl
  · exact word_of_ne fun heq => hw (heq ▸ hv)

theorem mark_eq_none (h : Behind ws r) (hm : ")" ≠ m) : mark m r = none := by
  obtain (rfl | ⟨t, rfl⟩) | ⟨v, -, t, rfl⟩ := h
  · rfl
  · exact mark_of_ne hm
  · rfl

theorem startsColumn_eq_false (h : Behind ws r) (hws : ∀ w ∈ ws, reservedWords.contains w = true ∧ w ≠ "NULL")
    {s : Symbol} {t : List Symbol} (hr : r = s :: t) : startsColumn s = false := by
  obtain (rfl | ⟨u, rfl⟩) | ⟨v, hv, u, rfl⟩ := h
  · exact absurd hr (by simp)
  · obtain ⟨rfl, -⟩ := List.cons.inj hr
    rfl
  · obtain ⟨rfl, -⟩ := List.cons.inj hr
    obtain ⟨hreserved, hnull⟩ := hws v hv
    rw [startsColumn, hreserved, beq_false_of_ne hnull]
    rfl

/-- A clause that may be left out. -/
theorem clause (h : Behind ws r) (hs : ss = [] ∨ ∃ t, ss = .word w :: t) : Behind (w :: ws) (ss ++ r) := by
  obtain rfl | ⟨t, rfl⟩ := hs
  · obtain hends | ⟨v, hv, t, rfl⟩ := h
    · exact .inl hends
    · exact .inr ⟨v, List.mem_cons_of_mem w hv, t, rfl⟩
  · exact .inr ⟨w, List.mem_cons_self, t ++ r, rfl⟩

end Behind

theorem limit_reads (limit : Option Int64) {r : List Symbol} (hr : word "LIMIT" r = none) :
    maybe count "LIMIT" (limitSymbols limit ++ r) = some (limit, r) := by
  cases limit with
  | none => exact maybe_none hr
  | some n => exact maybe_some rfl

theorem offset_reads (offset : Option Int64) {r : List Symbol} (hr : word "OFFSET" r = none) :
    maybe count "OFFSET" (offsetSymbols offset ++ r) = some (offset, r) := by
  cases offset with
  | none => exact maybe_none hr
  | some n => exact maybe_some rfl

theorem restriction_reads {p : Predicate} (h : p.Parsed) {n : Nat}
    (hn : (restrictionSymbols p p.symbols).length ≤ n) {r : List Symbol} (hr : word "WHERE" r = none) :
    ∃ o, maybe (Parse.predicate n) "WHERE" (restrictionSymbols p p.symbols ++ r) = some (o, r) ∧
      o.getD (.const true) = p.flat := by
  by_cases hp : p = .const true
  · subst hp
    exact ⟨none, maybe_none hr, rfl⟩
  · have hsymbols : restrictionSymbols p p.symbols = .word "WHERE" :: p.symbols := by
      unfold restrictionSymbols
      split
      · exact absurd rfl hp
      · rfl
    rw [hsymbols] at hn ⊢
    exact ⟨some p.flat, maybe_some (h.reads n (Nat.le_of_succ_le hn) r), rfl⟩

namespace OrderTerm

theorem term_reads {o : OrderTerm} (h : o.column.Parsed) {n : Nat} (hn : o.symbols.length ≤ n) :
    Reads (term (Parse.column n)) o.symbols o.flat := by
  obtain ⟨c, d⟩ := o
  intro r
  rw [symbols, List.length_append] at hn
  have hc : Parse.column n (c.symbols ++ .word d.text :: r) = some (c.flat, .word d.text :: r) :=
    h n (Nat.le_of_add_right_le hn) _
  rw [symbols, List.append_assoc, List.singleton_append, term]
  simp only [Option.bind_eq_bind, hc, Option.bind_some, direction_text]
  rfl

/-- The order of a statement, if it has one. -/
theorem clause_reads {o : Option (List OrderTerm)} (ho : clauseIsPlain isFunction o = true)
    (h : ∀ os ∈ o, ∀ t ∈ os, t.column.Parsed) {n : Nat} (hn : (clauseSymbols o).length ≤ n) {ws : List String}
    {r : List Symbol} (hr : Behind ws r) (hws : ∀ w ∈ ws, reservedWords.contains w = true ∧ w ≠ "NULL")
    (horder : "ORDER" ∉ ws) :
    maybe (ordering (Parse.column n) n) "ORDER" (clauseSymbols o ++ r) =
      some (flatClause o, r) := by
  cases o with
  | none => exact maybe_none (hr.word_eq_none horder)
  | some os =>
    rw [clauseIsPlain, arePlain_iff] at ho
    rw [clauseSymbols, flatClause, List.cons_append]
    refine maybe_some ?_
    rw [clauseSymbols, symbolLists_eq_map, Symbol.commas_eq_joined] at hn
    simp only [List.length_cons] at hn
    rw [List.cons_append, ordering, word_word, symbolLists_eq_map, flatList_eq_map]
    refine listed_reads ?_ ?_ ?_ (hr.mark_eq_none (by decide)) fun s t => hr.startsColumn_eq_false hws
    · rw [List.forall₂_map_left_iff, List.forall₂_map_right_iff, List.forall₂_same]
      intro t ht
      have hle := Symbol.length_le_joined (s := .mark ",") t.symbols (List.mem_map_of_mem ht)
      exact term_reads (h os rfl t ht) (by omega)
    · refine List.forall_mem_map.2 fun t ht => ?_
      obtain ⟨c, d⟩ := t
      obtain ⟨s, ss, hs, hstart⟩ := c.exists_start (ho _ ht)
      exact ⟨s, ss ++ [.word d.text], by rw [symbols, hs, List.cons_append], hstart⟩
    · have hcount := Symbol.length_le_length_joined (.mark ",") (os.map symbols)
      omega

end OrderTerm

/-! ## Whole statements -/

/-- Whether the symbols of a statement are read back as the flat statement. -/
def Select.Parsed (s : Select) : Prop :=
  ∀ n r, s.symbols.length ≤ n → Ends r → Parse.select n (s.symbols ++ r) = some (s.flat, r)

namespace Column.Parsed

theorem field (table name : String) : Parsed (.field table name) := by
  intro n hlen r
  obtain ⟨n, rfl⟩ := Nat.exists_eq_add_one_of_ne_zero (Nat.ne_of_gt (Nat.lt_of_lt_of_le (Nat.succ_pos _) hlen))
  rfl

theorem param (p : Param) : Parsed (.param p) := by
  intro n hlen r
  obtain ⟨n, rfl⟩ := Nat.exists_eq_add_one_of_ne_zero (Nat.ne_of_gt (Nat.lt_of_lt_of_le (Nat.succ_pos _) hlen))
  rfl

theorem null : Parsed .null := by
  intro n hlen r
  obtain ⟨n, rfl⟩ := Nat.exists_eq_add_one_of_ne_zero (Nat.ne_of_gt (Nat.lt_of_lt_of_le (Nat.succ_pos _) hlen))
  rfl

theorem list {cs : List Column} (hcs : ∀ c ∈ cs, c.isPlain isFunction = true) (h : ∀ c ∈ cs, c.Parsed) :
    Parsed (.list cs) := by
  intro n hlen r
  rw [symbols, List.length_append, List.length_cons, List.length_singleton] at hlen
  obtain ⟨n, rfl⟩ := Nat.exists_eq_add_one_of_ne_zero (n := n) (by omega)
  have hlisted := listed_parsed hcs h (n := n) (by omega) (r := .mark ")" :: r) rfl
    fun s t hr => by obtain ⟨rfl, -⟩ := List.cons.inj hr; rfl
  rw [symbols, List.cons_append, List.cons_append, List.append_assoc, List.singleton_append, Parse.column]
  dsimp only
  rw [if_neg (fun hm => hm rfl), word_select_list hcs, hlisted]
  simp only [Option.isSome_none, Bool.false_eq_true, if_false, Option.bind_eq_bind, Option.bind_some, mark_mark, flat]
  rfl

theorem query {s : Select} (h : s.Parsed) : Parsed (.query s) := by
  intro n hlen r
  rw [symbols, List.length_append, List.length_cons, List.length_singleton] at hlen
  obtain ⟨n, rfl⟩ := Nat.exists_eq_add_one_of_ne_zero (n := n) (by omega)
  have hselect := h n (.mark ")" :: r) (by omega) (.inr ⟨r, rfl⟩)
  obtain ⟨t, hword⟩ : ∃ t, word "SELECT" (s.symbols ++ .mark ")" :: r) = some t := by
    cases s
    exact ⟨_, rfl⟩
  rw [symbols, List.cons_append, List.cons_append, List.append_assoc, List.singleton_append, Parse.column]
  dsimp only
  rw [if_neg (fun hm => hm rfl), hword, hselect]
  simp only [Option.isSome_some, if_true, Option.bind_eq_bind, Option.bind_some, mark_mark, flat]
  rfl

theorem call {function : String} {argument : Column} (hf : isFunction function = true) (h : argument.Parsed) :
    Parsed (.call function argument) := by
  rw [isFunction, Bool.and_eq_true, Bool.and_eq_true, Bool.not_eq_true'] at hf
  obtain ⟨⟨hne, -⟩, hfree⟩ := hf
  have hsymbols : (Column.call function argument).symbols =
      .word function :: .mark "(" :: (argument.symbols ++ [.mark ")"]) := by
    rw [symbols, Symbol.call, if_neg (bne_iff_ne.1 hne)]
    rfl
  have hnull : function ≠ "NULL" := by
    rintro rfl
    exact absurd hfree (by decide)
  intro n hlen r
  rw [hsymbols] at hlen ⊢
  simp only [List.length_cons, List.length_append] at hlen
  obtain ⟨n, rfl⟩ := Nat.exists_eq_add_one_of_ne_zero (n := n) (by omega)
  have hargument := h n (by omega) (.mark ")" :: r)
  rw [List.cons_append, List.cons_append, List.append_assoc, List.singleton_append, Parse.column]
  dsimp only
  rw [if_neg hnull, hfree]
  simp only [Bool.false_eq_true, if_false, mark_mark, Option.bind_eq_bind, Option.bind_some, hargument, flat]
  rfl

end Column.Parsed

namespace Select

theorem selected_reads {cs : List Column} (hcs : ∀ c ∈ cs, c.isPlain isFunction = true)
    (h : ∀ c ∈ cs, c.Parsed) {n : Nat} (hn : (selectedSymbols (Column.symbolLists cs)).length < n) (r : List Symbol) :
    selected (Parse.column n) n (selectedSymbols (Column.symbolLists cs) ++ .word "FROM" :: r) =
      some (Column.flatList cs, .word "FROM" :: r) := by
  cases cs with
  | nil => rfl
  | cons c cs =>
    obtain ⟨s, t, hc, hs⟩ := c.exists_start (hcs c List.mem_cons_self)
    have hlisted := Column.listed_parsed hcs h hn (r := .word "FROM" :: r) rfl
      fun s t hr => by obtain ⟨rfl, -⟩ := List.cons.inj hr; rfl
    have hmark : mark "*" (selectedSymbols (Column.symbolLists (c :: cs)) ++ .word "FROM" :: r) = none := by
      rw [Column.symbolLists, hc]
      cases cs <;> exact mark_of_startsColumn hs (by decide) _
    rw [selected, hmark]
    exact hlisted

theorem parsed_of {source : Table} {columns : List Column} {condition : Predicate}
    {order : Option (List OrderTerm)} {limit offset : Option Int64} (hsource : source.Parsed)
    (hreadable : ∀ c ∈ columns, c.isPlain isFunction = true) (hcolumns : ∀ c ∈ columns, c.Parsed)
    (hcondition : condition.Parsed) (horder : OrderTerm.clauseIsPlain isFunction order = true)
    (hterms : ∀ os ∈ order, ∀ o ∈ os, o.column.Parsed) :
    Parsed ⟨source, columns, condition, order, limit, offset⟩ := by
  intro n r hlen hr
  rw [symbols] at hlen
  simp only [List.length_append, List.length_cons] at hlen
  obtain ⟨n, rfl⟩ := Nat.exists_eq_add_one_of_ne_zero (n := n) (by omega)
  -- what is behind each part, from the last one on
  have bend : Behind [] r := .inl hr
  have boffset : Behind ["OFFSET"] (offsetSymbols offset ++ r) :=
    bend.clause (by cases offset <;> simp [offsetSymbols])
  have blimit : Behind ["LIMIT", "OFFSET"] (limitSymbols limit ++ (offsetSymbols offset ++ r)) :=
    boffset.clause (by cases limit <;> simp [limitSymbols])
  have sorder : OrderTerm.clauseSymbols order = [] ∨ ∃ t, OrderTerm.clauseSymbols order = .word "ORDER" :: t := by
    cases order <;> simp [OrderTerm.clauseSymbols]
  have border := blimit.clause sorder
  have scondition : restrictionSymbols condition condition.symbols = [] ∨
      ∃ t, restrictionSymbols condition condition.symbols = .word "WHERE" :: t := by
    unfold restrictionSymbols
    split <;> simp
  have bcondition := border.clause scondition
  have hselected := selected_reads hreadable hcolumns (n := n) (by omega) (source.symbols ++
    (restrictionSymbols condition condition.symbols ++ (OrderTerm.clauseSymbols order ++
      (limitSymbols limit ++ (offsetSymbols offset ++ r)))))
  have htable := hsource n _ (by omega) (bcondition.word_eq_none (by decide)) (bcondition.word_eq_none (by decide))
  have hrestriction : (restrictionSymbols condition condition.symbols).length ≤ n := by
    rw [Predicate.symbols]
    omega
  obtain ⟨o, hwhere, ho⟩ := restriction_reads hcondition hrestriction (border.word_eq_none (by decide))
  have hclause := OrderTerm.clause_reads horder hterms (n := n) (by omega) blimit (by decide) (by decide)
  have hlimit := limit_reads limit (boffset.word_eq_none (by decide))
  have hoffset := offset_reads offset (bend.word_eq_none (by simp))
  have hsymbols : Select.symbols ⟨source, columns, condition, order, limit, offset⟩ ++ r =
      .word "SELECT" :: (selectedSymbols (Column.symbolLists columns) ++ .word "FROM" :: (source.symbols ++
        (restrictionSymbols condition condition.symbols ++ (OrderTerm.clauseSymbols order ++
          (limitSymbols limit ++ (offsetSymbols offset ++ r)))))) := by
    simp [symbols, Predicate.symbols]
  rw [hsymbols, Parse.select, word_word]
  simp only [Option.bind_eq_bind, Option.bind_some, hselected, word_word, htable, hwhere, hclause, hlimit, hoffset, ho,
    flat]
  rfl

end Select

mutual

theorem Column.parsed : (c : Column) → c.isPlain isFunction = true → c.Parsed
  | .field table name, _ => .field table name
  | .param p, _ => .param p
  | .list items, h => by
    rw [Column.isPlain] at h
    exact .list (Column.arePlain_iff.1 h) (Column.parsed_of_mem items h)
  | .query s, h => by
    rw [Column.isPlain] at h
    exact .query (Select.parsed s h)
  | .null, _ => .null
  | .call function argument, h => by
    rw [Column.isPlain, Bool.and_eq_true] at h
    exact .call h.1 (Column.parsed argument h.2)

theorem Column.parsed_of_mem : (cs : List Column) → Column.arePlain isFunction cs = true → ∀ c ∈ cs, c.Parsed
  | [], _ => fun _ hc => absurd hc List.not_mem_nil
  | c :: cs, h => by
    rw [Column.arePlain, Bool.and_eq_true] at h
    exact List.forall_mem_cons.2 ⟨Column.parsed c h.1, Column.parsed_of_mem cs h.2⟩

theorem Predicate.parsed : (p : Predicate) → p.isPlain isFunction = true → p.Parsed ∧ p.OperandsParsed
  | .const b, _ => ⟨.const b, .of_alone (.const b) fun _ => rfl⟩
  | .compare op left right, h => by
    rw [Predicate.isPlain, Bool.and_eq_true] at h
    have hp : (Predicate.compare op left right).Parsed :=
      .compare h.1 (Column.parsed left h.1) (Column.parsed right h.2)
    exact ⟨hp, .of_alone hp fun _ => rfl⟩
  | .between c low high, h => by
    rw [Predicate.isPlain, Bool.and_eq_true, Bool.and_eq_true] at h
    have hp : (Predicate.between c low high).Parsed :=
      .between h.1.1 (Column.parsed c h.1.1) (Column.parsed low h.1.2) (Column.parsed high h.2)
    exact ⟨hp, .of_alone hp fun _ => rfl⟩
  | .raw _, h => by
    rw [Predicate.isPlain] at h
    exact absurd h Bool.false_ne_true
  | .and p q, h => by
    rw [Predicate.isPlain, Bool.and_eq_true] at h
    obtain ⟨-, hp⟩ := Predicate.parsed p h.1
    obtain ⟨-, hq⟩ := Predicate.parsed q h.2
    exact ⟨hp.link .and hq, hp.of_link .and hq⟩
  | .or p q, h => by
    rw [Predicate.isPlain, Bool.and_eq_true] at h
    obtain ⟨-, hp⟩ := Predicate.parsed p h.1
    obtain ⟨-, hq⟩ := Predicate.parsed q h.2
    exact ⟨hp.link .or hq, hp.of_link .or hq⟩
  | .not p, h => by
    rw [Predicate.isPlain] at h
    have hp : (Predicate.not p).Parsed := .not (Predicate.parsed p h).1
    exact ⟨hp, .of_alone hp fun _ => rfl⟩

theorem Table.parsed : (t : Table) → t.isPlain isFunction = true → t.Parsed ∧ ∀ j ∈ t.joins, j.1.Parsed ∧ j.2.Parsed
  | .named name aliasName, _ =>
    have hjoins : ∀ j ∈ (Table.named name aliasName).joins, j.1.Parsed ∧ j.2.Parsed :=
      fun _ hj => absurd hj List.not_mem_nil
    ⟨Table.parsed_of_joins hjoins, hjoins⟩
  | .leftJoin left right on, h => by
    rw [Table.isPlain, Bool.and_eq_true, Bool.and_eq_true] at h
    have hjoins : ∀ j ∈ (Table.leftJoin left right on).joins, j.1.Parsed ∧ j.2.Parsed := by
      refine List.forall_mem_append.2 ⟨(Table.parsed left h.1.1).2, List.forall_mem_singleton.2 ?_⟩
      exact ⟨(Table.parsed right h.1.2).1, (Predicate.parsed on h.2).1⟩
    exact ⟨Table.parsed_of_joins hjoins, hjoins⟩

theorem OrderTerm.parsed_of_mem : (os : List OrderTerm) → OrderTerm.arePlain isFunction os = true →
    ∀ o ∈ os, o.column.Parsed
  | [], _ => fun _ ho => absurd ho List.not_mem_nil
  | ⟨c, _⟩ :: os, h => by
    rw [OrderTerm.arePlain, OrderTerm.isPlain, Bool.and_eq_true] at h
    exact List.forall_mem_cons.2 ⟨Column.parsed c h.1, OrderTerm.parsed_of_mem os h.2⟩

theorem OrderTerm.parsed_of_clause : (o : Option (List OrderTerm)) → OrderTerm.clauseIsPlain isFunction o = true →
    ∀ os ∈ o, ∀ t ∈ os, t.column.Parsed
  | none, _ => fun _ h => absurd h (Option.not_mem_none _)
  | some os, h => by
    rintro _ ⟨⟩
    rw [OrderTerm.clauseIsPlain] at h
    exact OrderTerm.parsed_of_mem os h

theorem Select.parsed : (s : Select) → s.isPlain isFunction = true → s.Parsed
  | ⟨source, columns, condition, order, limit, offset⟩, h => by
    rw [Select.isPlain, Bool.and_eq_true, Bool.and_eq_true, Bool.and_eq_true] at h
    obtain ⟨⟨⟨hsource, hcolumns⟩, hcondition⟩, horder⟩ := h
    exact Select.parsed_of (Table.parsed source hsource).1 (Column.arePlain_iff.1 hcolumns)
      (Column.parsed_of_mem columns hcolumns) (Predicate.parsed condition hcondition).1 horder
      (OrderTerm.parsed_of_clause order horder)

end

end PathQuery.Sql
