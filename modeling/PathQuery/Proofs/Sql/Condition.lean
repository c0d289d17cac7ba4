import PathQuery.Proofs.Sql.Readable

/-!
# Conditions are read back

A condition is read as a test of the column that it begins with, and as a constant, a negation or a
chain if it begins with none. A chain begins with a parenthesis as a list of columns does, but what
is read off it as a column goes on neither with a comma nor with a parenthesis
(`Predicate.Parsed.stuck`), so it is no list.

* `Column.Parsed`, `Predicate.Parsed` : what is read back, flat, with any bound that its symbols do
  not exceed;
* `Predicate.OperandsParsed` : conditions whose operands in a chain are read back;
* `Predicate.OperandsParsed.link` : the chain of two of them is read back.
-/

namespace PathQuery.Sql

open Parse

def Column.Parsed (c : Column) : Prop := ∀ n, c.symbols.length ≤ n → Reads (column n) c.symbols c.flat

/-- The words and marks that a condition does not begin with. -/
def Predicate.Starts (ss : List Symbol) : Prop :=
  ∀ r, word "SELECT" (ss ++ r) = none ∧ mark ")" (ss ++ r) = none

/-- Whether the symbols of a condition are read back as the flat condition, and a column read off
them is none of a list. -/
structure Predicate.Parsed (p : Predicate) : Prop where
  reads : ∀ n, p.symbols.length ≤ n → Reads (Parse.predicate n) p.symbols p.flat
  starts : Predicate.Starts p.symbols
  stuck : ∀ n r c rest, p.symbols.length ≤ n → Parse.column n (p.symbols ++ r) = some (c, rest) →
    mark "," rest = none ∧ mark ")" rest = none

namespace Predicate.Parsed

variable {p : Predicate}

theorem constant {w : String} (hp : p.symbols = [.word w]) (hw : reservedWords.contains w = true) (hn : w ≠ "NULL")
    (hs : w ≠ "SELECT")
    (hread : ∀ n r, column n (.word w :: r) = none → Parse.predicate (n + 1) (.word w :: r) = some (p.flat, r)) :
    Parsed p := by
  refine ⟨fun n hlen r => ?_, fun r => ?_, fun n r c rest _ h => ?_⟩
  · rw [hp] at hlen ⊢
    obtain ⟨n, rfl⟩ := Nat.exists_eq_add_one_of_ne_zero (Nat.ne_of_gt hlen)
    exact hread n r (column_keyword hw hn n r)
  · rw [hp]
    exact ⟨word_of_ne hs, rfl⟩
  · rw [hp, List.singleton_append, column_keyword hw hn] at h
    exact absurd h (by simp)

theorem const : (b : Bool) → Parsed (.const b)
  | true => constant rfl (by decide) (by decide) (by decide) fun _ _ h => predicate_of_column h
  | false => constant rfl (by decide) (by decide) (by decide) fun _ _ h => predicate_of_column h

theorem not (h : Parsed p) : Parsed (.not p) := by
  have hsymbols : (Predicate.not p).symbols = .word "NOT" :: .mark "(" :: (p.symbols ++ [.mark ")"]) := rfl
  have hcolumn (n : Nat) (r : List Symbol) : column n (.word "NOT" :: r) = none :=
    column_keyword (by decide) (by decide) n r
  refine ⟨fun n hlen r => ?_, fun r => ?_, fun n r c rest _ hc => ?_⟩
  · simp only [hsymbols, List.length_cons, List.length_append] at hlen
    obtain ⟨n, rfl⟩ := Nat.exists_eq_add_one_of_ne_zero (Nat.ne_of_gt (Nat.lt_of_lt_of_le (Nat.succ_pos _) hlen))
    have hread := h.reads n (by omega) (.mark ")" :: r)
    rw [hsymbols, List.cons_append, List.cons_append, List.append_assoc, List.singleton_append,
      predicate_of_column (hcolumn n _)]
    simp [composed, hread, flat, flatIn, Logical.nest]
  · exact ⟨word_of_ne (by decide), rfl⟩
  · rw [hsymbols, List.cons_append, hcolumn] at hc
    exact absurd hc (by simp)

/-- A condition that begins with a column and goes on as a test of it. -/
theorem test {c : Column} {s : Symbol} {ss : List Symbol} (hp : p.symbols = c.symbols ++ s :: ss)
    (hc : c.isPlain isFunction = true) (hs : ∀ r, mark "," (s :: r) = none ∧ mark ")" (s :: r) = none)
    (hread : c.Parsed)
    (htest : ∀ n r, (s :: ss).length ≤ n → comparison (column n) c.flat (s :: ss ++ r) = some (p.flat, r)) :
    Parsed p := by
  have hlength : p.symbols.length = c.symbols.length + (s :: ss).length := by rw [hp, List.length_append]
  obtain ⟨t, ts, ht, hstart⟩ := c.exists_start hc
  refine ⟨fun n hlen r => ?_, fun r => ?_, fun n r c' rest hlen h => ?_⟩
  · have hpos : 0 < c.symbols.length := by rw [ht]; exact Nat.succ_pos _
    have hpos' : 0 < (s :: ss).length := Nat.succ_pos _
    obtain ⟨n, rfl⟩ := Nat.exists_eq_add_one_of_ne_zero (n := n) (by omega)
    rw [hp, List.append_assoc, Parse.predicate, hread n (by omega)]
    exact htest n r (by omega)
  · rw [hp, ht]
    exact ⟨word_of_startsColumn hstart (by decide) (by decide) _, mark_of_startsColumn hstart (by decide) _⟩
  · rw [hp, List.append_assoc, hread n (by omega)] at h
    obtain ⟨-, rfl⟩ := Prod.mk.inj (Option.some.inj h)
    exact hs _

theorem between {c low high : Column} (hc : c.isPlain isFunction = true)
    (hread : c.Parsed) (hlow : low.Parsed) (hhigh : high.Parsed) :
    Parsed (.between c low high) := by
  have hp : (Predicate.between c low high).symbols =
      c.symbols ++ .word "BETWEEN" :: (low.symbols ++ .word "AND" :: high.symbols) := by
    rw [Predicate.symbols, symbolsIn, List.append_assoc, List.cons_append]
  refine test hp hc (fun r => ⟨rfl, rfl⟩) hread fun n r hlen => ?_
  simp only [List.length_cons, List.length_append] at hlen
  have hl := hlow n (by omega) (.word "AND" :: (high.symbols ++ r))
  have hh := hhigh n (by omega) r
  simp [comparison, word_of_ne, hl, hh, flat, flatIn, Logical.nest]

theorem compare {op : Comparator} {left right : Column} (hl : left.isPlain isFunction = true)
    (hleft : left.Parsed) (hright : right.Parsed) :
    Parsed (.compare op left right) := by
  by_cases he : op = .eq ∧ right = .null
  · obtain ⟨rfl, rfl⟩ := he
    refine test rfl hl (fun r => ⟨rfl, rfl⟩) hleft fun n r _ => ?_
    simp [comparison, flat, flatIn, Logical.nest, Column.flat]
  by_cases hn : op = .ne ∧ right = .null
  · obtain ⟨rfl, rfl⟩ := hn
    refine test rfl hl (fun r => ⟨rfl, rfl⟩) hleft fun n r _ => ?_
    simp [comparison, word_of_ne, flat, flatIn, Logical.nest, Column.flat]
  have hp : (Predicate.compare op left right).symbols = left.symbols ++ op.symbol :: right.symbols := by
    rw [Predicate.symbols, symbolsIn]
    all_goals tauto
  refine test hp hl (fun r => ?_) hleft fun n r hlen => ?_
  · cases op <;> exact ⟨rfl, rfl⟩
  · rw [List.length_cons] at hlen
    have hr := hright n (by omega) r
    have hword : word "IS" (op.symbol :: (right.symbols ++ r)) = none ∧
        word "BETWEEN" (op.symbol :: (right.symbols ++ r)) = none := by
      cases op <;> exact ⟨rfl, rfl⟩
    rw [List.cons_append, comparison, hword.1, hword.2]
    simp [comparator_symbol, hr, flat, flatIn, Logical.nest]

/-- A chain begins as a list of columns does, but no column is read off it: what is read of its
first operand goes on neither with a comma nor with a parenthesis. -/
theorem column_of_chain {x : Predicate} {op : Logical} {tail : List Symbol} (hx : Parsed x) {n : Nat}
    (hn : x.symbols.length < n) :
    column n (.mark "(" :: (x.symbols ++ .word op.text :: tail)) = none := by
  obtain ⟨n, rfl⟩ := Nat.exists_eq_add_one_of_ne_zero (n := n) (by omega)
  obtain ⟨hselect, hclose⟩ := hx.starts (.word op.text :: tail)
  rw [column]
  dsimp only
  rw [if_neg (fun hm => hm rfl), hselect]
  simp only [Option.isSome_none, Bool.false_eq_true, if_false]
  cases hl : listed (column n) n (x.symbols ++ .word op.text :: tail) with
  | none => rfl
  | some found =>
    have hend := listed_stuck (fun c rest => hx.stuck n _ c rest (by omega)) hclose hl
    simp [hend]

/-- A chain of conditions that are read back is read back, and is no list of columns. -/
theorem chain (op : Logical) (x y : Predicate) (ps : List Predicate) (h : ∀ q ∈ x :: y :: ps, Parsed q)
    (hp : p.symbols = .mark "(" ::
      (Symbol.joined (.word op.text) ((x :: y :: ps).map Predicate.symbols) ++ [.mark ")"]))
    (hflat : p.flat = op.nest ((x :: y :: ps).map flat)) : Parsed p := by
  have hx := h x List.mem_cons_self
  -- the symbols of the first operand and what is behind them
  have hbody (r : List Symbol) : p.symbols ++ r = .mark "(" :: (x.symbols ++
      .word op.text :: (Symbol.joined (.word op.text) ((y :: ps).map Predicate.symbols) ++ .mark ")" :: r)) := by
    simp [hp, Symbol.joined]
  have hlength : p.symbols.length = x.symbols.length +
      (Symbol.joined (.word op.text) ((y :: ps).map Predicate.symbols)).length + 3 := by
    have hb := congrArg List.length (hbody [])
    simp only [List.append_nil, List.length_cons, List.length_append, List.length_nil] at hb
    omega
  refine ⟨fun n hlen r => ?_, fun r => ?_, fun n r c rest hlen hc => ?_⟩
  · obtain ⟨n, rfl⟩ := Nat.exists_eq_add_one_of_ne_zero (n := n) (by omega)
    rw [hbody, predicate_of_column (hx.column_of_chain (by omega)), composed]
    have hfirst := hx.reads n (by omega)
    have hrest : List.Forall₂ (Reads (Parse.predicate n)) ((y :: ps).map Predicate.symbols) ((y :: ps).map flat) := by
      rw [List.forall₂_map_left_iff, List.forall₂_map_right_iff, List.forall₂_same]
      intro q hq
      have hle := Symbol.length_le_joined (s := .word op.text) q.symbols (List.mem_map_of_mem hq)
      exact (h q (List.mem_cons_of_mem x hq)).reads n (by omega)
    have hcount := Symbol.length_le_length_joined (.word op.text) ((y :: ps).map Predicate.symbols)
    have hend : word op.text (.mark ")" :: r) = none := rfl
    have hseparated := separated_reads (word_word op.text) hrest (List.cons_ne_nil _ _) (n := n) (by omega) hend
    rw [if_neg (fun hm => hm rfl), hflat]
    simp only [Option.bind_eq_bind, hfirst _, Option.bind_some, logical_text, hseparated, mark_mark]
    rfl
  · rw [hbody]
    exact ⟨rfl, rfl⟩
  · rw [hbody, hx.column_of_chain (by omega)] at hc
    exact absurd hc (by simp)

end Predicate.Parsed

/-! ## Chains -/

namespace Predicate

theorem symbolsIn_some (op : Logical) : (p : Predicate) →
    p.symbolsIn (some op) = Symbol.joined (.word op.text) ((p.operands op).map symbols)
  | .and p q => by
    cases op with
    | and =>
      have hp : (p.operands .and).map symbols ≠ [] := fun h => operands_ne_nil _ p (List.map_eq_nil_iff.1 h)
      have hq : (q.operands .and).map symbols ≠ [] := fun h => operands_ne_nil _ q (List.map_eq_nil_iff.1 h)
      rw [operands, if_pos rfl, List.map_append, Symbol.joined_append hp hq, ← symbolsIn_some .and p,
        ← symbolsIn_some .and q]
      rfl
    | or => rfl
  | .or p q => by
    cases op with
    | or =>
      have hp : (p.operands .or).map symbols ≠ [] := fun h => operands_ne_nil _ p (List.map_eq_nil_iff.1 h)
      have hq : (q.operands .or).map symbols ≠ [] := fun h => operands_ne_nil _ q (List.map_eq_nil_iff.1 h)
      rw [operands, if_pos rfl, List.map_append, Symbol.joined_append hp hq, ← symbolsIn_some .or p,
        ← symbolsIn_some .or q]
      rfl
    | and => rfl
  | .const true => rfl
  | .const false => rfl
  | .compare op' _ right => by cases op' <;> cases right <;> rfl
  | .between _ _ _ => rfl
  | .raw _ => rfl
  | .not _ => rfl

theorem symbols_link (op : Logical) (p q : Predicate) : (op.link p q).symbols =
    .mark "(" :: (Symbol.joined (.word op.text) ((p.operands op ++ q.operands op).map symbols) ++ [.mark ")"]) := by
  have hp : (p.operands op).map symbols ≠ [] := fun h => operands_ne_nil _ p (List.map_eq_nil_iff.1 h)
  have hq : (q.operands op).map symbols ≠ [] := fun h => operands_ne_nil _ q (List.map_eq_nil_iff.1 h)
  rw [List.map_append, Symbol.joined_append hp hq, ← symbolsIn_some, ← symbolsIn_some]
  cases op <;> rfl

/-- Whether all operands of a condition in a chain are read back. -/
def OperandsParsed (p : Predicate) : Prop := ∀ op, ∀ q ∈ p.operands op, q.Parsed

theorem OperandsParsed.link (op : Logical) {p q : Predicate} (hp : p.OperandsParsed) (hq : q.OperandsParsed) :
    (op.link p q).Parsed := by
  obtain ⟨x, xs, hx⟩ := List.exists_cons_of_ne_nil (operands_ne_nil op p)
  obtain ⟨y, ys, hy⟩ := List.exists_cons_of_ne_nil (operands_ne_nil op q)
  have happend : ∃ z zs, p.operands op ++ q.operands op = x :: z :: zs := by
    rw [hx, hy]
    cases xs <;> exact ⟨_, _, rfl⟩
  obtain ⟨z, zs, happend⟩ := happend
  refine Parsed.chain op x z zs ?_ ?_ ?_
  · rw [← happend]
    exact List.forall_mem_append.2 ⟨hp op, hq op⟩
  · rw [symbols_link, happend]
  · rw [flat_link, happend]

theorem OperandsParsed.of_alone {p : Predicate} (h : p.Parsed) (hp : ∀ op, p.operands op = [p]) :
    p.OperandsParsed := by
  intro op q hq
  rw [hp] at hq
  obtain rfl := List.mem_singleton.1 hq
  exact h

/-- In a chain of its kind the operands of a chain are its own, and in another it is one operand. -/
theorem OperandsParsed.of_link (op : Logical) {p q : Predicate} (hp : p.OperandsParsed) (hq : q.OperandsParsed) :
    (op.link p q).OperandsParsed := by
  intro op'
  by_cases hop : op = op'
  · subst hop
    rw [operands_link]
    exact List.forall_mem_append.2 ⟨hp op, hq op⟩
  · have halone : (op.link p q).operands op' = [op.link p q] := by
      cases op <;> cases op' <;> first | exact absurd rfl hop | rfl
    rw [halone]
    exact List.forall_mem_singleton.2 (hp.link op hq)

end Predicate

end PathQuery.Sql
