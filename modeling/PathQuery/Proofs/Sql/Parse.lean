import Mathlib.Data.List.Forall2
import PathQuery.Proofs.Sql.Flat

/-!
# A parser of statements

Symbols are read back as flat columns, conditions, tables and statements. A condition that begins
with a column is a comparison, a test for null or a range, and what else begins with a parenthesis
is a chain; words of the language are no functions.

* `Parse.Reader` : what reads something from the front of some symbols and leaves the rest;
* `Parse.separated`, `Parse.listed`, `Parse.repeated`, `Parse.maybe` : readers of lists, of
  repetitions behind a word, and of clauses;
* `Parse.column`, `Parse.predicate`, `Parse.table`, `Parse.select` : readers of the parts of a
  statement, with a bound on how deep they go;
* `Symbol.joined` : lists of symbols with a separator between them;
* `Parse.Reads` : what a reader reads off some symbols whatever is behind them.
-/

namespace PathQuery.Sql

/-- The words that statements are written with. -/
def reservedWords : List String :=
  ["SELECT", "FROM", "AS", "LEFT", "JOIN", "ON", "WHERE", "ORDER", "BY", "ASC", "DESC", "LIMIT", "OFFSET", "AND", "OR",
    "NOT", "IS", "NULL", "IN", "LIKE", "BETWEEN", "TRUE", "FALSE"]

namespace Parse

/-- What reads something from the front of some symbols and leaves the rest. -/
abbrev Reader (α : Type) := List Symbol → Option (α × List Symbol)

def word (w : String) : List Symbol → Option (List Symbol)
  | .word s :: rest => if s = w then some rest else none
  | _ => none

def mark (m : String) : List Symbol → Option (List Symbol)
  | .mark s :: rest => if s = m then some rest else none
  | _ => none

def name : Reader String
  | .name s :: rest => some (s, rest)
  | _ => none

/-- A number in the place of a parameter. -/
def count : Reader Int64
  | .param (.int8 n) :: rest => some (n, rest)
  | _ => none

/-- Whether a column may begin with a symbol. -/
def startsColumn : Symbol → Bool
  | .name _ => true
  | .param _ => true
  | .mark m => m == "("
  | .word w => w == "NULL" || !reservedWords.contains w

section

variable {α : Type} (item : Reader α)

/-- One or more items with separators between them. -/
def separated (separator : List Symbol → Option (List Symbol)) : (bound : Nat) → Reader (List α)
  | 0, _ => none
  | n + 1, ss => do
    let (a, rest) ← item ss
    match separator rest with
    | none => some ([a], rest)
    | some rest => do
      let (as, rest) ← separated separator n rest
      return (a :: as, rest)

/-- Items with commas between them, if there are any; all of them begin as columns do. -/
def listed (bound : Nat) : Reader (List α)
  | [] => some ([], [])
  | s :: ss => if startsColumn s then separated item (mark ",") bound (s :: ss) else some ([], s :: ss)

/-- Items as long as each one stands behind the word. -/
def repeated (w : String) : (bound : Nat) → Reader (List α)
  | 0, _ => none
  | n + 1, ss =>
    match word w ss with
    | none => some ([], ss)
    | some rest => do
      let (a, rest) ← item rest
      let (as, rest) ← repeated w n rest
      return (a :: as, rest)

/-- An item, if the word is there. -/
def maybe (w : String) : Reader (Option α) := fun ss =>
  match word w ss with
  | none => some (none, ss)
  | some rest => do
    let (a, rest) ← item rest
    return (some a, rest)

end

def comparator : Reader Comparator
  | .word w :: rest => if w = "IN" then some (.isIn, rest) else if w = "LIKE" then some (.like, rest) else none
  | .mark m :: rest =>
    if m = "=" then some (.eq, rest)
    else if m = "<>" then some (.ne, rest)
    else if m = "<" then some (.lt, rest)
    else if m = "<=" then some (.le, rest)
    else if m = ">" then some (.gt, rest)
    else if m = ">=" then some (.ge, rest)
    else none
  | _ => none

/-- What a condition says of its first column. -/
def comparison (column : Reader Column) (c : Column) : Reader Predicate := fun ss =>
  match word "IS" ss, word "BETWEEN" ss with
  | some rest, _ =>
    match word "NULL" rest with
    | some rest => some (.compare .eq c .null, rest)
    | none => do
      let rest ← word "NULL" (← word "NOT" rest)
      return (.compare .ne c .null, rest)
  | none, some rest => do
    let (low, rest) ← column rest
    let (high, rest) ← column (← word "AND" rest)
    return (.between c low high, rest)
  | none, none => do
    let (op, rest) ← comparator ss
    let (right, rest) ← column rest
    return (.compare op c right, rest)

def logical : Reader Logical
  | .word w :: rest => if w = "AND" then some (.and, rest) else if w = "OR" then some (.or, rest) else none
  | _ => none

/-- A condition that begins with no column: a constant, a negation or a chain. -/
def composed (predicate : Reader Predicate) (bound : Nat) : Reader Predicate
  | .word w :: rest =>
    if w = "TRUE" then some (.const true, rest)
    else if w = "FALSE" then some (.const false, rest)
    else if w = "NOT" then do
      let (p, rest) ← predicate (← mark "(" rest)
      return (.not p, ← mark ")" rest)
    else none
  | .mark m :: rest =>
    if m ≠ "(" then none
    else do
      let (p, rest) ← predicate rest
      let (op, rest) ← logical rest
      let (ps, rest) ← separated predicate (word op.text) bound rest
      return (op.nest (p :: ps), ← mark ")" rest)
  | _ => none

def named : Reader Table := fun ss => do
  let (table, rest) ← name ss
  let (aliasName, rest) ← maybe name "AS" rest
  return (.named table aliasName, rest)

def join (table : Reader Table) (predicate : Reader Predicate) : Reader (Table × Predicate) := fun ss => do
  let (right, rest) ← table (← word "JOIN" ss)
  let (on, rest) ← predicate (← word "ON" rest)
  return ((right, on), rest)

def direction : Reader Direction
  | .word w :: rest =>
    if w = "ASC" then some (.ascending, rest) else if w = "DESC" then some (.descending, rest) else none
  | _ => none

def term (column : Reader Column) : Reader OrderTerm := fun ss => do
  let (c, rest) ← column ss
  let (d, rest) ← direction rest
  return (⟨c, d⟩, rest)

def ordering (column : Reader Column) (bound : Nat) : Reader (List OrderTerm) := fun ss => do
  listed (term column) bound (← word "BY" ss)

def selected (column : Reader Column) (bound : Nat) : Reader (List Column) := fun ss =>
  match mark "*" ss with
  | some rest => some ([], rest)
  | none => listed column bound ss

mutual

def column : (bound : Nat) → Reader Column
  | 0, _ => none
  | n + 1, ss =>
    match ss with
    | .name table :: rest => do
      let (field, rest) ← name (← mark "." rest)
      return (.field table field, rest)
    | .param p :: rest => some (.param p, rest)
    | .mark m :: rest =>
      if m ≠ "(" then none
      else if (word "SELECT" rest).isSome then do
        let (s, rest) ← select n rest
        return (.query s, ← mark ")" rest)
      else do
        let (cs, rest) ← listed (column n) n rest
        return (.list cs, ← mark ")" rest)
    | .word w :: rest =>
      if w = "NULL" then some (.null, rest)
      else if reservedWords.contains w then none
      else do
        let (c, rest) ← column n (← mark "(" rest)
        return (.call w c, ← mark ")" rest)
    | [] => none

def predicate : (bound : Nat) → Reader Predicate
  | 0, _ => none
  | n + 1, ss =>
    match column n ss with
    | some (c, rest) => comparison (column n) c rest
    | none => composed (predicate n) n ss

def table : (bound : Nat) → Reader Table
  | 0, _ => none
  | n + 1, ss => do
    let (first, rest) ← named ss
    let (joins, rest) ← repeated (join (table n) (predicate n)) "LEFT" n rest
    return (joins.foldl (fun left j => .leftJoin left j.1 j.2) first, rest)

def select : (bound : Nat) → Reader Select
  | 0, _ => none
  | n + 1, ss => do
    let rest ← word "SELECT" ss
    let (columns, rest) ← selected (column n) n rest
    let (source, rest) ← table n (← word "FROM" rest)
    let (condition, rest) ← maybe (predicate n) "WHERE" rest
    let (order, rest) ← maybe (ordering (column n) n) "ORDER" rest
    let (limit, rest) ← maybe count "LIMIT" rest
    let (offset, rest) ← maybe count "OFFSET" rest
    return (⟨source, columns, condition.getD (.const true), order, limit, offset⟩, rest)

end

end Parse

/-! ## Symbols with separators -/

namespace Symbol

/-- Symbols with one symbol between each two lists of them. -/
def joined (s : Symbol) : List (List Symbol) → List Symbol
  | [] => []
  | [ss] => ss
  | ss :: ts :: rest => ss ++ s :: joined s (ts :: rest)

theorem commas_eq_joined : (sss : List (List Symbol)) → commas sss = joined (.mark ",") sss
  | [] => rfl
  | [_] => rfl
  | ss :: ts :: rest => by rw [commas, joined, commas_eq_joined (ts :: rest)]

variable {s : Symbol}

theorem joined_append {sss tss : List (List Symbol)} (hs : sss ≠ []) (ht : tss ≠ []) :
    joined s (sss ++ tss) = joined s sss ++ s :: joined s tss := by
  induction sss with
  | nil => exact absurd rfl hs
  | cons ss sss ih =>
    cases sss with
    | nil =>
      obtain ⟨ts, tss, rfl⟩ := List.exists_cons_of_ne_nil ht
      rfl
    | cons ss' sss =>
      have h := ih (List.cons_ne_nil _ _)
      rw [List.cons_append, List.cons_append, joined, ← List.cons_append, h, joined]
      simp

theorem length_le_joined {sss : List (List Symbol)} : ∀ ss ∈ sss, ss.length ≤ (joined s sss).length := by
  induction sss with
  | nil => exact fun ss h => absurd h List.not_mem_nil
  | cons ts sss ih =>
    intro ss h
    cases sss with
    | nil =>
      obtain rfl := List.mem_singleton.1 h
      exact Nat.le_refl _
    | cons us sss =>
      rw [joined, List.length_append, List.length_cons]
      rcases List.mem_cons.1 h with rfl | h
      · exact Nat.le_add_right _ _
      · exact Nat.le_trans (ih ss h) (by omega)

/-- There are as many lists as symbols between them, and one more. -/
theorem length_le_length_joined (s : Symbol) (sss : List (List Symbol)) : sss.length ≤ (joined s sss).length + 1 := by
  induction sss with
  | nil => exact Nat.zero_le _
  | cons ss sss ih =>
    cases sss with
    | nil => simp
    | cons ts sss =>
      simp only [joined, List.length_append, List.length_cons] at ih ⊢
      omega

end Symbol

/-! ## Readers -/

namespace Parse

variable {α : Type} {item : Reader α} {w m : String} {ss r : List Symbol} {n : Nat}

/-- Whether a reader reads something off some symbols, whatever is behind them. -/
def Reads (item : Reader α) (ss : List Symbol) (a : α) : Prop := ∀ r, item (ss ++ r) = some (a, r)

@[simp] theorem word_word (w : String) (r : List Symbol) : word w (.word w :: r) = some r := if_pos rfl

@[simp] theorem mark_mark (m : String) (r : List Symbol) : mark m (.mark m :: r) = some r := if_pos rfl

theorem word_of_ne {v : String} (h : v ≠ w) : word w (.word v :: r) = none := if_neg h

theorem mark_of_ne {v : String} (h : v ≠ m) : mark m (.mark v :: r) = none := if_neg h

theorem separated_reads {separator : List Symbol → Option (List Symbol)} {s : Symbol}
    (hs : ∀ r, separator (s :: r) = some r) {sss : List (List Symbol)} {as : List α}
    (h : List.Forall₂ (Reads item) sss as) (hne : sss ≠ []) (hn : sss.length ≤ n) (hr : separator r = none) :
    separated item separator n (Symbol.joined s sss ++ r) = some (as, r) := by
  induction h generalizing n with
  | nil => exact absurd rfl hne
  | @cons ss a sss as ha has ih =>
    obtain ⟨n, rfl⟩ := Nat.exists_eq_add_one_of_ne_zero (Nat.ne_of_gt (Nat.lt_of_lt_of_le (Nat.succ_pos _) hn))
    cases has with
    | nil =>
      rw [separated, Symbol.joined, ha r]
      simp only [Option.bind_eq_bind, Option.bind_some, hr]
    | cons hb hbs =>
      have hrest := ih (List.cons_ne_nil _ _) (Nat.le_of_succ_le_succ hn)
      rw [separated, Symbol.joined, List.append_assoc, List.cons_append, ha]
      simp only [Option.bind_eq_bind, Option.bind_some, hs, hrest]
      rfl

/-- Nothing is left over behind a list in which columns begin, unless it is empty. -/
theorem listed_reads {sss : List (List Symbol)} {as : List α} (h : List.Forall₂ (Reads item) sss as)
    (hstart : ∀ ss ∈ sss, ∃ s t, ss = s :: t ∧ startsColumn s = true) (hn : sss.length ≤ n)
    (hcomma : mark "," r = none) (hr : ∀ s t, r = s :: t → startsColumn s = false) :
    listed item n (Symbol.commas sss ++ r) = some (as, r) := by
  rw [Symbol.commas_eq_joined]
  cases sss with
  | nil =>
    cases h
    cases r with
    | nil => rfl
    | cons s t => exact if_neg (Bool.eq_false_iff.1 (hr s t rfl))
  | cons ss sss =>
    obtain ⟨s, t, rfl, hs⟩ := hstart ss List.mem_cons_self
    have hread := separated_reads (s := .mark ",") (mark_mark ",") h (List.cons_ne_nil _ _) hn hcomma
    have hcons : ∃ u, Symbol.joined (.mark ",") ((s :: t) :: sss) ++ r = s :: u := by
      cases sss <;> exact ⟨_, rfl⟩
    obtain ⟨u, hu⟩ := hcons
    rw [hu] at hread ⊢
    rw [listed, if_pos hs, hread]

/-- No parenthesis closes a list that cannot be gone on with. -/
theorem listed_stuck (h : ∀ a rest, item ss = some (a, rest) → mark "," rest = none ∧ mark ")" rest = none)
    (hs : mark ")" ss = none) {found : List α × List Symbol} (hl : listed item n ss = some found) :
    mark ")" found.2 = none := by
  cases ss with
  | nil =>
    obtain rfl := Option.some.inj hl
    rfl
  | cons s t =>
    rw [listed] at hl
    split at hl
    · cases n with
      | zero => exact absurd hl (by simp [separated])
      | succ n =>
        rw [separated] at hl
        cases hitem : item (s :: t) with
        | none => exact absurd hl (by simp [hitem])
        | some first =>
          obtain ⟨hcomma, hclose⟩ := h first.1 first.2 hitem
          simp only [Option.bind_eq_bind, hitem, Option.bind_some, hcomma] at hl
          obtain rfl := Option.some.inj hl
          exact hclose
    · obtain rfl := Option.some.inj hl
      exact hs

theorem repeated_reads {sss : List (List Symbol)} {as : List α} (h : List.Forall₂ (Reads item) sss as)
    (hn : sss.length < n) (hr : word w r = none) :
    repeated item w n (sss.flatMap (fun ss => .word w :: ss) ++ r) = some (as, r) := by
  induction h generalizing n with
  | nil =>
    obtain ⟨n, rfl⟩ := Nat.exists_eq_add_one_of_ne_zero (Nat.ne_of_gt hn)
    rw [repeated, List.flatMap_nil, List.nil_append, hr]
  | @cons ss a sss as ha _ ih =>
    obtain ⟨n, rfl⟩ := Nat.exists_eq_add_one_of_ne_zero (Nat.ne_of_gt (Nat.lt_of_le_of_lt (Nat.zero_le _) hn))
    have hrest := ih (Nat.lt_of_succ_lt_succ hn)
    rw [repeated, List.flatMap_cons, List.cons_append, List.cons_append, word_word, List.append_assoc]
    simp only [Option.bind_eq_bind, ha _, Option.bind_some, hrest]
    rfl

theorem maybe_none (h : word w r = none) : maybe item w r = some (none, r) := by
  rw [maybe, h]

theorem maybe_some {a : α} (h : item ss = some (a, r)) : maybe item w (.word w :: ss) = some (some a, r) := by
  rw [maybe, word_word]
  simp only [Option.bind_eq_bind, h, Option.bind_some]
  rfl

theorem comparator_symbol (op : Comparator) (r : List Symbol) : comparator (op.symbol :: r) = some (op, r) := by
  cases op <;> rfl

theorem logical_text (op : Logical) (r : List Symbol) : logical (.word op.text :: r) = some (op, r) := by
  cases op <;> rfl

theorem direction_text (d : Direction) (r : List Symbol) : direction (.word d.text :: r) = some (d, r) := by
  cases d <;> rfl

/-- A column begins with no word of the language but `NULL`. -/
theorem word_of_startsColumn {s : Symbol} {w : String} (hs : startsColumn s = true)
    (hw : reservedWords.contains w = true) (hn : w ≠ "NULL") (r : List Symbol) : word w (s :: r) = none := by
  cases s with
  | word v =>
    refine word_of_ne fun hv => ?_
    subst hv
    rw [startsColumn, hw, Bool.or_eq_true, beq_iff_eq] at hs
    exact hs.elim hn Bool.false_ne_true
  | _ => rfl

/-- A column begins with no mark but a parenthesis. -/
theorem mark_of_startsColumn {s : Symbol} {m : String} (hs : startsColumn s = true) (hm : m ≠ "(")
    (r : List Symbol) : mark m (s :: r) = none := by
  cases s with
  | mark v =>
    refine mark_of_ne fun hv => ?_
    subst hv
    exact hm (beq_iff_eq.1 hs)
  | _ => rfl

theorem column_keyword {w : String} (hw : reservedWords.contains w = true) (hn : w ≠ "NULL") (n : Nat)
    (r : List Symbol) : column n (.word w :: r) = none := by
  cases n with
  | zero => rfl
  | succ n =>
    rw [column]
    dsimp only
    rw [if_neg hn, if_pos hw]

theorem predicate_of_column {n : Nat} {ss : List Symbol} (h : column n ss = none) :
    predicate (n + 1) ss = composed (predicate n) n ss := by
  rw [Parse.predicate, h]

end Parse

end PathQuery.Sql
