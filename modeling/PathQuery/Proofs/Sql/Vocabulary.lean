import PathQuery.Proofs.Sql.Reading
import PathQuery.Proofs.Sql.Simplify
import PathQuery.Sql.Draft

/-!
# What a plain statement is made of

* `Symbol.From N`, `Token.From N` : names that have the property `N`, placeholders, and a fixed
  vocabulary of words and marks;
* `Column.Safe N`, `Predicate.Safe N`, `Draft.Safe N` : plain parts of a statement whose symbols are
  of this kind. Statements are put together from safe parts;
* `SqlText.Writes` : what a piece adds to a text is read as some symbols, and binds their
  parameters.
-/

namespace PathQuery.Sql

open Token (Opens Closes)

def keywords : List String :=
  ["SELECT", "FROM", "LEFT", "JOIN", "ON", "AS", "WHERE", "AND", "OR", "NOT", "IS", "NULL", "TRUE", "FALSE",
    "BETWEEN", "IN", "LIKE", "ORDER", "BY", "ASC", "DESC", "LIMIT", "OFFSET", "LOWER"]

def marks : List String := ["(", ")", ",", ".", "*", "=", "<>", "<", "<=", ">", ">="]

/-- Whether a symbol is a name of a kind, a parameter, or of the fixed vocabulary. -/
def Symbol.From (N : String → Prop) : Symbol → Prop
  | .name s => N s
  | .word w => w ∈ keywords
  | .mark m => m ∈ marks
  | .param _ => True

def Token.From (N : String → Prop) : Token → Prop
  | .name s => N s
  | .word w => w ∈ keywords
  | .mark m => m ∈ marks
  | .placeholder _ => True

variable {N : String → Prop}

theorem Token.from_of_mem_number {ss : List Symbol} {n : Nat} (h : ∀ s ∈ ss, s.From N) :
    ∀ t ∈ Symbol.number n ss, t.From N := by
  induction ss generalizing n with
  | nil => exact fun t ht => absurd ht List.not_mem_nil
  | cons s ss ih =>
    have hrest (m : Nat) := ih (n := m) fun t ht => h t (List.mem_cons_of_mem s ht)
    have hs := h s List.mem_cons_self
    cases s with
    | param p =>
      intro t ht
      rcases List.mem_cons.1 ht with rfl | ht
      · trivial
      · exact hrest _ t ht
    | _ =>
      intro t ht
      rcases List.mem_cons.1 ht with rfl | ht
      · exact hs
      · exact hrest n t ht

def Token.placeholder? : Token → Option Nat
  | .placeholder n => some n
  | _ => none

/-- The placeholders of a text count on from the parameters before it. -/
theorem Symbol.placeholders_number (n : Nat) (ss : List Symbol) :
    (Symbol.number n ss).filterMap Token.placeholder? = List.range' (n + 1) (Symbol.params ss).length := by
  induction ss generalizing n with
  | nil => rfl
  | cons s ss ih =>
    cases s with
    | param p =>
      have hp : (Symbol.params (.param p :: ss)).length = (Symbol.params ss).length + 1 := rfl
      rw [Symbol.number, List.filterMap_cons, Token.placeholder?, ih, hp, List.range'_succ]
    | _ => exact ih n

/-- Whether a piece adds text that is read as some symbols, with the placeholders that come next,
and binds the parameters of these symbols. -/
def SqlText.Writes (before : SqlText) (p : Piece) (ss : List Symbol) : Prop :=
  ∃ text, (before.add p).text = before.text ++ text ∧
    Token.read text.toList = some (Symbol.number before.params.length ss) ∧
    (Symbol.number before.params.length ss).filterMap Token.placeholder? =
      List.range' (before.params.length + 1) (Symbol.params ss).length ∧
    (before.add p).params = before.params ++ Symbol.params ss

theorem SqlText.writes_of_spells (before : SqlText) {p : Piece} {ss : List Symbol} (h : p.Spells ss) :
    before.Writes p ss := by
  obtain ⟨hp, ht⟩ := h before.params.length
  refine ⟨(p.write before.params.length).1, rfl, ht, Symbol.placeholders_number _ ss, ?_⟩
  exact congrArg (before.params ++ ·) hp

/-! ## Safe parts -/

/-- Whether a column is plain and its symbols are from `N` and the vocabulary. -/
structure Column.Safe (N : String → Prop) (c : Column) : Prop where
  plain : c.isPlain isLetters = true
  symbols : ∀ s ∈ c.symbols, s.From N

/-- Whether a condition is plain and its symbols are from `N` and the vocabulary, in any chain. -/
structure Predicate.Safe (N : String → Prop) (p : Predicate) : Prop where
  plain : p.isPlain isLetters = true
  symbols : ∀ within, ∀ s ∈ p.symbolsIn within, s.From N

structure Select.Safe (N : String → Prop) (s : Select) : Prop where
  plain : s.isPlain isLetters = true
  symbols : ∀ x ∈ s.symbols, x.From N

theorem Symbol.from_commas {sss : List (List Symbol)} (h : ∀ ss ∈ sss, ∀ s ∈ ss, s.From N) :
    ∀ s ∈ Symbol.commas sss, s.From N := by
  induction sss with
  | nil => exact fun s hs => absurd hs List.not_mem_nil
  | cons ss sss ih =>
    cases sss with
    | nil => exact h ss List.mem_cons_self
    | cons ts sss =>
      rw [Symbol.commas, List.forall_mem_append, List.forall_mem_cons]
      refine ⟨h ss List.mem_cons_self, ?_, ih fun us hus => h us (List.mem_cons_of_mem ss hus)⟩
      show "," ∈ marks
      decide

namespace Column

theorem safe_field {table name : String} (ht : N table) (hn : N name) : (Column.field table name).Safe N := by
  refine ⟨rfl, ?_⟩
  rw [Column.symbols, List.forall_mem_cons, List.forall_mem_cons, List.forall_mem_singleton]
  exact ⟨ht, show "." ∈ marks by decide, hn⟩

theorem safe_param (p : Param) : (Column.param p).Safe N :=
  ⟨rfl, List.forall_mem_singleton.2 trivial⟩

theorem safe_null : Column.null.Safe N :=
  ⟨rfl, List.forall_mem_singleton.2 (show "NULL" ∈ keywords by decide)⟩

theorem from_paren {ss : List Symbol} (h : ∀ s ∈ ss, s.From N) :
    ∀ s ∈ Symbol.mark "(" :: ss ++ [.mark ")"], s.From N := by
  rw [List.cons_append, List.forall_mem_cons, List.forall_mem_append, List.forall_mem_singleton]
  exact ⟨show "(" ∈ marks by decide, h, show ")" ∈ marks by decide⟩

theorem from_symbolLists {cs : List Column} (h : ∀ c ∈ cs, c.Safe N) :
    ∀ ss ∈ symbolLists cs, ∀ s ∈ ss, s.From N := by
  rw [symbolLists_eq_map]
  exact List.forall_mem_map.2 fun c hc => (h c hc).symbols

theorem safe_list {cs : List Column} (h : ∀ c ∈ cs, c.Safe N) : (Column.list cs).Safe N := by
  refine ⟨?_, ?_⟩
  · rw [isPlain, arePlain_iff]
    exact fun c hc => (h c hc).plain
  · rw [symbols]
    exact from_paren (Symbol.from_commas (from_symbolLists h))

theorem safe_query {s : Select} (h : s.Safe N) : (Column.query s).Safe N := by
  refine ⟨?_, ?_⟩
  · rw [isPlain]
    exact h.plain
  · rw [symbols]
    exact from_paren h.symbols

theorem safe_lower {c : Column} (h : c.Safe N) : (Column.call "LOWER" c).Safe N := by
  refine ⟨?_, ?_⟩
  · rw [isPlain, h.plain]
    decide
  · rw [symbols, List.append_assoc, List.forall_mem_append]
    exact ⟨List.forall_mem_singleton.2 (show "LOWER" ∈ keywords by decide), from_paren h.symbols⟩

end Column

theorem Comparator.symbol_from (op : Comparator) : op.symbol.From N := by
  cases op with
  | isIn => exact show "IN" ∈ keywords by decide
  | like => exact show "LIKE" ∈ keywords by decide
  | _ => exact show _ ∈ marks by decide

namespace Predicate

theorem safe_const (b : Bool) : (Predicate.const b).Safe N := by
  refine ⟨rfl, fun _ => ?_⟩
  cases b with
  | true => exact List.forall_mem_singleton.2 (show "TRUE" ∈ keywords by decide)
  | false => exact List.forall_mem_singleton.2 (show "FALSE" ∈ keywords by decide)

theorem safe_compare {op : Comparator} {l r : Column} (hl : l.Safe N) (hr : r.Safe N) :
    (Predicate.compare op l r).Safe N := by
  have his : (Symbol.word "IS").From N := show "IS" ∈ keywords by decide
  have hnull : (Symbol.word "NULL").From N := show "NULL" ∈ keywords by decide
  have hnot : (Symbol.word "NOT").From N := show "NOT" ∈ keywords by decide
  refine ⟨?_, fun within => ?_⟩
  · rw [isPlain, hl.plain, hr.plain]
    rfl
  · by_cases he : op = .eq ∧ r = .null
    · obtain ⟨rfl, rfl⟩ := he
      rw [symbolsIn, List.forall_mem_append, List.forall_mem_cons, List.forall_mem_singleton]
      exact ⟨hl.symbols, his, hnull⟩
    by_cases hn : op = .ne ∧ r = .null
    · obtain ⟨rfl, rfl⟩ := hn
      rw [symbolsIn, List.forall_mem_append, List.forall_mem_cons, List.forall_mem_cons,
        List.forall_mem_singleton]
      exact ⟨hl.symbols, his, hnot, hnull⟩
    rw [symbolsIn, List.forall_mem_append, List.forall_mem_cons]
    · exact ⟨hl.symbols, op.symbol_from, hr.symbols⟩
    all_goals tauto

theorem safe_between {c low high : Column} (hc : c.Safe N) (hl : low.Safe N) (hh : high.Safe N) :
    (Predicate.between c low high).Safe N := by
  refine ⟨?_, fun within => ?_⟩
  · rw [isPlain, hc.plain, hl.plain, hh.plain]
    rfl
  · rw [symbolsIn, List.append_assoc, List.forall_mem_append, List.cons_append, List.forall_mem_cons,
      List.forall_mem_append, List.forall_mem_cons]
    exact ⟨hc.symbols, show "BETWEEN" ∈ keywords by decide, hl.symbols, show "AND" ∈ keywords by decide,
      hh.symbols⟩

theorem safe_not {p : Predicate} (h : p.Safe N) : (Predicate.not p).Safe N := by
  refine ⟨?_, fun within => ?_⟩
  · rw [isPlain]
    exact h.plain
  · rw [symbolsIn, List.cons_append, List.forall_mem_cons]
    exact ⟨show "NOT" ∈ keywords by decide, Column.from_paren (h.symbols none)⟩

theorem from_chain {within : Option Logical} {op : Logical} {ss ts : List Symbol}
    (hs : ∀ s ∈ ss, s.From N) (ht : ∀ s ∈ ts, s.From N) :
    ∀ s ∈ chainSymbols within op ss ts, s.From N := by
  have hop : (Symbol.word op.text).From N := by
    cases op with
    | and => exact show "AND" ∈ keywords by decide
    | or => exact show "OR" ∈ keywords by decide
  have hb : ∀ s ∈ ss ++ .word op.text :: ts, s.From N :=
    List.forall_mem_append.2 ⟨hs, List.forall_mem_cons.2 ⟨hop, ht⟩⟩
  unfold chainSymbols
  split
  · exact hb
  · exact Column.from_paren hb

theorem closed_safe : Closed (Safe N) where
  const := safe_const
  and p q hp hq := by
    refine ⟨?_, fun within => ?_⟩
    · rw [isPlain, hp.plain, hq.plain]
      rfl
    · rw [symbolsIn]
      exact from_chain (hp.symbols _) (hq.symbols _)
  or p q hp hq := by
    refine ⟨?_, fun within => ?_⟩
    · rw [isPlain, hp.plain, hq.plain]
      rfl
    · rw [symbolsIn]
      exact from_chain (hp.symbols _) (hq.symbols _)

end Predicate

/-! ## Safe drafts -/

structure Join.Safe (N : String → Prop) (j : Join) : Prop where
  table : N j.table
  aliasName : N j.aliasName
  on : j.on.Safe N

structure Draft.Safe (N : String → Prop) (d : Draft) : Prop where
  table : N d.table
  columns : ∀ c ∈ d.columns, c.Safe N
  joins : ∀ j ∈ d.joins, j.Safe N
  condition : ∀ p ∈ d.condition, p.Safe N
  order : ∀ o ∈ d.order, o.column.Safe N

theorem from_named {name : String} {a : Option String} (hn : N name) (ha : ∀ x ∈ a, N x) :
    ∀ s ∈ namedSymbols name a, s.From N := by
  unfold namedSymbols
  split
  next a =>
    split
    · exact List.forall_mem_singleton.2 hn
    · rw [List.forall_mem_cons, List.forall_mem_cons, List.forall_mem_singleton]
      exact ⟨hn, show "AS" ∈ keywords by decide, ha a rfl⟩
  next => exact List.forall_mem_singleton.2 hn

theorem safe_joined {t : Table} (ht : t.isPlain isLetters = true ∧ ∀ s ∈ t.symbols, s.From N) {js : List Join}
    (hj : ∀ j ∈ js, j.Safe N) :
    let joined := js.foldl (fun left j => .leftJoin left (.named j.table (some j.aliasName)) j.on) t
    joined.isPlain isLetters = true ∧ ∀ s ∈ joined.symbols, s.From N := by
  induction js generalizing t with
  | nil => exact ht
  | cons j js ih =>
    have hj' := hj j List.mem_cons_self
    refine ih ⟨?_, ?_⟩ fun k hk => hj k (List.mem_cons_of_mem j hk)
    · rw [Table.isPlain, ht.1, hj'.on.plain]
      rfl
    · rw [Table.symbols, List.append_assoc, List.forall_mem_append, List.cons_append, List.forall_mem_cons,
        List.cons_append, List.forall_mem_cons, List.forall_mem_append, List.forall_mem_cons]
      refine ⟨ht.2, show "LEFT" ∈ keywords by decide, show "JOIN" ∈ keywords by decide, ?_,
        show "ON" ∈ keywords by decide, hj'.on.symbols none⟩
      exact from_named hj'.table fun x hx => Option.mem_some.1 hx ▸ hj'.aliasName

theorem OrderTerm.safe_list {os : List OrderTerm} (h : ∀ o ∈ os, o.column.Safe N) :
    OrderTerm.arePlain isLetters os = true ∧ ∀ ss ∈ OrderTerm.symbolLists os, ∀ s ∈ ss, s.From N := by
  induction os with
  | nil => exact ⟨rfl, fun ss hss => absurd hss List.not_mem_nil⟩
  | cons o os ih =>
    obtain ⟨c, direction⟩ := o
    rw [List.forall_mem_cons] at h
    obtain ⟨hp, hs⟩ := ih h.2
    refine ⟨?_, ?_⟩
    · rw [arePlain, isPlain, h.1.plain, hp]
      rfl
    · rw [symbolLists, List.forall_mem_cons, symbols, List.forall_mem_append, List.forall_mem_singleton]
      refine ⟨⟨h.1.symbols, ?_⟩, hs⟩
      cases direction with
      | ascending => exact show "ASC" ∈ keywords by decide
      | descending => exact show "DESC" ∈ keywords by decide

theorem from_restriction {p : Predicate} (h : p.Safe N) :
    ∀ s ∈ restrictionSymbols p (p.symbolsIn none), s.From N := by
  unfold restrictionSymbols
  split
  · exact fun s hs => absurd hs List.not_mem_nil
  · rw [List.forall_mem_cons]
    exact ⟨show "WHERE" ∈ keywords by decide, h.symbols none⟩

theorem from_window (limit offset : Option Int64) :
    (∀ s ∈ limitSymbols limit, s.From N) ∧ ∀ s ∈ offsetSymbols offset, s.From N := by
  refine ⟨?_, ?_⟩
  · cases limit with
    | none => exact fun s hs => absurd hs List.not_mem_nil
    | some n =>
      rw [limitSymbols, List.forall_mem_cons, List.forall_mem_singleton]
      exact ⟨show "LIMIT" ∈ keywords by decide, trivial⟩
  · cases offset with
    | none => exact fun s hs => absurd hs List.not_mem_nil
    | some n =>
      rw [offsetSymbols, List.forall_mem_cons, List.forall_mem_singleton]
      exact ⟨show "OFFSET" ∈ keywords by decide, trivial⟩

theorem from_selected {cs : List Column} (h : ∀ c ∈ cs, c.Safe N) :
    ∀ s ∈ selectedSymbols (Column.symbolLists cs), s.From N := by
  unfold selectedSymbols
  split
  · exact List.forall_mem_singleton.2 (show "*" ∈ marks by decide)
  · exact Symbol.from_commas (Column.from_symbolLists h)

namespace Draft.Safe

variable {d : Draft}

theorem toSelect (h : d.Safe N) : d.toSelect.Safe N := by
  have ht : (Table.named d.table none).isPlain isLetters = true ∧
      ∀ s ∈ (Table.named d.table none).symbols, s.From N :=
    ⟨rfl, from_named h.table fun x hx => absurd hx (Option.not_mem_none x)⟩
  obtain ⟨hsp, hss⟩ := safe_joined ht h.joins
  obtain ⟨hop, hos⟩ := OrderTerm.safe_list h.order
  have hc : (d.condition.getD (.const true)).Safe N := Predicate.closed_safe.getD h.condition true
  have horder : OrderTerm.clauseIsPlain isLetters (if d.order.isEmpty then none else some d.order) = true ∧
      ∀ s ∈ OrderTerm.clauseSymbols (if d.order.isEmpty then none else some d.order), s.From N := by
    split
    · exact ⟨rfl, fun s hs => absurd hs List.not_mem_nil⟩
    · refine ⟨hop, ?_⟩
      rw [OrderTerm.clauseSymbols, List.forall_mem_cons, List.forall_mem_cons]
      exact ⟨show "ORDER" ∈ keywords by decide, show "BY" ∈ keywords by decide, Symbol.from_commas hos⟩
  obtain ⟨hlimit, hoffset⟩ := from_window (N := N) d.limit d.offset
  refine ⟨?_, ?_⟩
  · have hcp := Column.arePlain_iff.2 fun c hc => (h.columns c hc).plain
    rw [Draft.toSelect, Select.isPlain, Draft.source, hsp, hcp, hc.plain, horder.1]
    rfl
  · rw [Draft.toSelect, Select.symbols]
    simp only [List.forall_mem_append, List.forall_mem_cons, List.cons_append]
    exact ⟨show "SELECT" ∈ keywords by decide, ⟨⟨⟨⟨⟨from_selected h.columns,
      show "FROM" ∈ keywords by decide, hss⟩, from_restriction hc⟩, horder.2⟩, hlimit⟩, hoffset⟩⟩

theorem new {table : String} (h : N table) : (Draft.new table).Safe N where
  table := h
  columns := fun _ hc => absurd hc List.not_mem_nil
  joins := fun _ hj => absurd hj List.not_mem_nil
  condition := fun p hp => absurd hp (Option.not_mem_none p)
  order := fun _ ho => absurd ho List.not_mem_nil

theorem withColumns (h : d.Safe N) {cs : List Column} (hc : ∀ c ∈ cs, c.Safe N) :
    (d.withColumns cs).Safe N :=
  { h with columns := hc }

theorem addJoin (h : d.Safe N) {j : Join} (hj : j.Safe N) : (d.addJoin j).Safe N := by
  unfold Draft.addJoin
  split
  · exact h
  · refine { h with joins := ?_ }
    exact List.forall_mem_append.2 ⟨h.joins, List.forall_mem_singleton.2 hj⟩

theorem andWhere (h : d.Safe N) {p : Predicate} (hp : p.Safe N) : (d.andWhere p).Safe N := by
  refine { h with condition := ?_ }
  rintro _ ⟨⟩
  exact Predicate.closed_safe.extend h.condition hp

theorem addJoins {js : List Join} (h : d.Safe N) (hj : ∀ j ∈ js, j.Safe N) :
    (js.foldl Draft.addJoin d).Safe N := by
  induction js generalizing d with
  | nil => exact h
  | cons j js ih =>
    exact ih (h.addJoin (hj j List.mem_cons_self)) fun k hk => hj k (List.mem_cons_of_mem j hk)

end Draft.Safe

end PathQuery.Sql
