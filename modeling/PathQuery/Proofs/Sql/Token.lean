import PathQuery.Sql.Piece

/-!
# Tokens of SQL text

A lexer for the text of statements. It knows names between double quotes with their own quotes
doubled, placeholders, words, operators and marks; a blank only separates tokens, and a token goes
on for as long as it can.

* `Token.run` : the tokens that a text finishes, and the one it leaves pending;
* `Token.read` : the tokens of a whole text, none if it has a stray character or leaves a name open;
* `Token.read_append` : two texts one after the other are read apart where a separator stands
  between them.
-/

namespace PathQuery.Sql

inductive Token where
  /-- A name, without its quotes. -/
  | name (s : String)
  | placeholder (n : Nat)
  | word (s : String)
  | mark (s : String)
  deriving DecidableEq, Repr

namespace Token

/-- What the characters read last may still become; they are kept last one first. -/
inductive Pending where
  | nothing
  | openName (seen : List Char)
  /-- A name behind a quote, which ends it unless another quote follows. -/
  | closedName (seen : List Char)
  | dollar
  | placeholder (n : Nat)
  | word (seen : List Char)
  | operator (seen : List Char)
  | mark (c : Char)
  deriving DecidableEq, Repr

def isWordStart (c : Char) : Bool := c.isAlpha || c == '_'

def isWordChar (c : Char) : Bool := isWordStart c || c.isDigit

def isOperatorChar (c : Char) : Bool := c == '<' || c == '>' || c == '='

namespace Pending

/-- The pending token with a character more, if the character belongs to it. -/
def extend? (p : Pending) (c : Char) : Option Pending :=
  match p with
  | .openName seen => some (if c = '"' then .closedName seen else .openName (c :: seen))
  | .closedName seen => if c = '"' then some (.openName ('"' :: seen)) else none
  | .dollar => (Numeral.digitValue? c).map .placeholder
  | .placeholder n => (Numeral.digitValue? c).map fun d => .placeholder (10 * n + d)
  | .word seen => if isWordChar c then some (.word (c :: seen)) else none
  | .operator seen => if isOperatorChar c then some (.operator (c :: seen)) else none
  | .nothing => none
  | .mark _ => none

/-- The tokens that the pending one comes to if it ends here. -/
def finish? : Pending → Option (List Token)
  | .nothing => some []
  | .openName _ => none
  | .closedName seen => some [.name (String.ofList seen.reverse)]
  | .dollar => none
  | .placeholder n => some [.placeholder n]
  | .word seen => some [.word (String.ofList seen.reverse)]
  | .operator seen => some [.mark (String.ofList seen.reverse)]
  | .mark c => some [.mark (String.ofList [c])]

/-- The pending token that a character begins. -/
def begin? (c : Char) : Option Pending :=
  if c = ' ' then some .nothing
  else if c = '"' then some (.openName [])
  else if c = '$' then some .dollar
  else if isWordStart c then some (.word [c])
  else if isOperatorChar c then some (.operator [c])
  else if c ∈ ['(', ')', ',', '.', '*'] then some (.mark c)
  else none

end Pending

/-- Reads on from a pending token. -/
def run (p : Pending) : List Char → Option (List Token × Pending)
  | [] => some ([], p)
  | c :: cs =>
    match p.extend? c with
    | some q => run q cs
    | none => do
      let ts ← p.finish?
      let (us, q) ← run (← Pending.begin? c) cs
      return (ts ++ us, q)

/-- The tokens of a text that goes on with a pending token. -/
def readFrom (p : Pending) (cs : List Char) : Option (List Token) := do
  let (ts, q) ← run p cs
  return ts ++ (← q.finish?)

def read (cs : List Char) : Option (List Token) := readFrom .nothing cs

/-- The characters that stand between tokens without going on with any. -/
def isSeparator (c : Char) : Bool := c ∈ [' ', '(', ')', ',', '.']

/-! ## Texts one after the other -/

theorem isSeparator_iff {c : Char} :
    isSeparator c = true ↔ c = ' ' ∨ c = '(' ∨ c = ')' ∨ c = ',' ∨ c = '.' := by
  simp [isSeparator]

/-- A separator belongs to no token that may end before it. -/
theorem extend?_separator {p : Pending} {ts : List Token} {c : Char} (hp : p.finish? = some ts)
    (hc : isSeparator c = true) : p.extend? c = none := by
  rcases isSeparator_iff.1 hc with rfl | rfl | rfl | rfl | rfl <;>
    cases p <;> first | rfl | simp [Pending.finish?] at hp

/-- What a separator begins ends with it. -/
theorem extend?_begin?_separator {q : Pending} {c : Char} (hc : isSeparator c = true)
    (hq : Pending.begin? c = some q) (d : Char) : q.extend? d = none := by
  rcases isSeparator_iff.1 hc with rfl | rfl | rfl | rfl | rfl <;> cases hq <;> rfl

theorem run_append (p : Pending) (a b : List Char) :
    run p (a ++ b) = (run p a).bind fun r => (run r.2 b).map fun t => (r.1 ++ t.1, t.2) := by
  induction a generalizing p with
  | nil => simp [run]
  | cons c cs ih =>
    simp only [List.cons_append, run]
    cases p.extend? c with
    | some q => exact ih q
    | none =>
      cases p.finish? with
      | none => rfl
      | some ts =>
        cases Pending.begin? c with
        | none => rfl
        | some q =>
          simp only [ih q, Option.bind_eq_bind, Option.bind_some, Option.pure_def]
          cases run q cs with
          | none => rfl
          | some r => cases h : run r.2 b <;> simp [h]

/-- A token that cannot go on is finished before the text is read on. -/
theorem readFrom_of_ended {p : Pending} {ts : List Token} {cs : List Char}
    (hp : p.finish? = some ts) (h : ∀ c ∈ cs.head?, p.extend? c = none) :
    readFrom p cs = (read cs).map (ts ++ ·) := by
  cases cs with
  | nil => simp [read, readFrom, run, hp, show Pending.nothing.finish? = some [] from rfl]
  | cons c cs =>
    have hc : p.extend? c = none := h c rfl
    simp only [read, readFrom, run, hc, hp, show Pending.nothing.extend? c = none from rfl,
      show Pending.nothing.finish? = some [] from rfl]
    cases Pending.begin? c with
    | none => rfl
    | some q =>
      cases h : run q cs with
      | none => simp [h]
      | some r => cases hr : r.2.finish? <;> simp [h, hr]

theorem readFrom_append {p q : Pending} {a b : List Char} {ts : List Token}
    (h : run p a = some (ts, q)) : readFrom p (a ++ b) = (readFrom q b).map (ts ++ ·) := by
  simp only [readFrom, run_append, h, Option.bind_some, Option.bind_eq_bind]
  cases run q b with
  | none => rfl
  | some r => cases hr : r.2.finish? <;> simp [hr]

/-- The tokens of a text, where it leaves one pending. -/
theorem read_eq_some {cs : List Char} {ts : List Token} (h : read cs = some ts) :
    ∃ us q vs, run .nothing cs = some (us, q) ∧ q.finish? = some vs ∧ ts = us ++ vs := by
  simp only [read, readFrom, Option.bind_eq_bind, Option.bind_eq_some_iff] at h
  obtain ⟨⟨us, q⟩, hr, vs, hv, he⟩ := h
  exact ⟨us, q, vs, hr, hv, (Option.some.inj he).symm⟩

/-- Whether a text begins with a separator. -/
def Opens (cs : List Char) : Prop := ∃ c rest, cs = c :: rest ∧ isSeparator c = true

/-- Whether a text ends with a separator. -/
def Closes (cs : List Char) : Prop := ∃ front c, cs = front ++ [c] ∧ isSeparator c = true

theorem Closes.append {b : List Char} (h : Closes b) (a : List Char) : Closes (a ++ b) := by
  obtain ⟨front, c, rfl, hc⟩ := h
  exact ⟨a ++ front, c, (List.append_assoc a front [c]).symm, hc⟩

/-- A text that ends with a separator leaves nothing pending that could go on. -/
theorem Closes.extend?_eq_none {cs : List Char} {us vs : List Token} {q : Pending} (h : Closes cs)
    (hr : run .nothing cs = some (us, q)) (hq : q.finish? = some vs) (d : Char) :
    q.extend? d = none := by
  obtain ⟨front, c, rfl, hc⟩ := h
  rw [run_append] at hr
  simp only [Option.bind_eq_some_iff, Option.map_eq_some_iff] at hr
  obtain ⟨⟨ts, p⟩, -, ⟨us', q'⟩, hs, he⟩ := hr
  obtain ⟨-, rfl⟩ := Prod.mk.inj he
  simp only [run] at hs
  cases hp : p.extend? c with
  | some p' =>
    -- Only a name takes a separator in, and it stays open.
    simp only [hp, Option.some.injEq, Prod.mk.injEq] at hs
    obtain ⟨-, rfl⟩ := hs
    rcases isSeparator_iff.1 hc with rfl | rfl | rfl | rfl | rfl <;>
      cases p <;> simp [Pending.extend?, isWordChar, isWordStart, isOperatorChar,
        Numeral.digitValue?] at hp <;> subst hp <;> simp [Pending.finish?] at hq
  | none =>
    simp only [hp, Option.bind_eq_bind, Option.bind_eq_some_iff] at hs
    obtain ⟨_, -, b, hb, _, hv, he⟩ := hs
    cases hv
    cases he
    exact extend?_begin?_separator hc hb d

/-- Texts are read apart where one of them has a separator between them. -/
theorem read_append {a b : List Char} {ts us : List Token} (ha : read a = some ts)
    (hb : read b = some us) (h : Closes a ∨ Opens b) : read (a ++ b) = some (ts ++ us) := by
  obtain ⟨ts, q, vs, hr, hq, rfl⟩ := read_eq_some ha
  have hend : ∀ c ∈ b.head?, q.extend? c = none := by
    rcases h with h | ⟨c, rest, rfl, hc⟩
    · exact fun c _ => h.extend?_eq_none hr hq c
    · rintro _ ⟨⟩
      exact extend?_separator hq hc
  rw [read, readFrom_append hr, readFrom_of_ended hq hend, hb]
  simp

/-! ## Words, names and placeholders -/

theorem run_word {cs : List Char} (h : ∀ c ∈ cs, isWordChar c = true) (seen : List Char) :
    run (.word seen) cs = some ([], .word (cs.reverse ++ seen)) := by
  induction cs generalizing seen with
  | nil => rfl
  | cons c cs ih =>
    have hc : isWordChar c = true := h c List.mem_cons_self
    simp [run, Pending.extend?, hc, ih (fun d hd => h d (List.mem_cons_of_mem c hd))]

theorem read_letters {s : String} (hs : s ≠ "") (h : s.toList.all Char.isAlpha = true) :
    read s.toList = some [.word s] := by
  have hw : ∀ c ∈ s.toList, isWordChar c = true := fun c hc => by
    simp [isWordChar, isWordStart, List.all_eq_true.1 h c hc]
  cases hl : s.toList with
  | nil => exact absurd (String.toList_eq_nil_iff.1 hl) hs
  | cons c cs =>
    rw [hl] at h hw
    have hb : Pending.begin? c = some (.word [c]) := by
      have hc : c.isAlpha = true := List.all_eq_true.1 h c List.mem_cons_self
      have hn : c ≠ ' ' ∧ c ≠ '"' ∧ c ≠ '$' := by
        refine ⟨?_, ?_, ?_⟩ <;> rintro rfl <;> exact absurd hc (by decide)
      simp [Pending.begin?, hn.1, hn.2.1, hn.2.2, isWordStart, hc]
    have hr := run_word (fun d hd => hw d (List.mem_cons_of_mem c hd)) [c]
    simp [read, readFrom, run, Pending.extend?, hb, hr, Pending.finish?, ← hl, String.ofList_toList]

theorem run_openName (cs seen : List Char) :
    run (.openName seen) (Piece.doubleQuotes cs ++ ['"']) =
      some ([], .closedName (cs.reverse ++ seen)) := by
  induction cs generalizing seen with
  | nil => rfl
  | cons c cs ih =>
    by_cases hc : c = '"'
    · subst hc
      simp [Piece.doubleQuotes, run, Pending.extend?, ih]
    · simp [Piece.doubleQuotes, run, Pending.extend?, hc, ih]

theorem read_name (cs : List Char) :
    read ('"' :: Piece.doubleQuotes cs ++ ['"']) = some [.name (String.ofList cs)] := by
  simp [read, readFrom, run, Pending.extend?, show Pending.begin? '"' = some (.openName []) from rfl,
    run_openName, Pending.finish?]

theorem run_digits {cs : List Char} (h : ∀ c ∈ cs, c.isDigit = true) (n : Nat) :
    run (.placeholder n) cs = some ([], .placeholder (Nat.ofDigitChars 10 cs n)) := by
  induction cs generalizing n with
  | nil => simp [run]
  | cons c cs ih =>
    have hc : c.isDigit = true := h c List.mem_cons_self
    simp only [run, Pending.extend?, Numeral.digitValue?, hc, if_true, Option.map_some,
      Nat.ofDigitChars_cons]
    exact ih (fun d hd => h d (List.mem_cons_of_mem c hd)) _

theorem read_placeholder (n : Nat) : read ('$' :: Nat.toDigits 10 n) = some [.placeholder n] := by
  have hd : ∀ c ∈ Nat.toDigits 10 n, c.isDigit = true := fun c hc =>
    Nat.isDigit_of_mem_toDigits (by decide) (by decide) hc
  have hv : Nat.ofDigitChars 10 (Nat.toDigits 10 n) 0 = n := Nat.ofDigitChars_ten_toDigits
  cases hl : Nat.toDigits 10 n with
  | nil => exact absurd hl Nat.toDigits_ne_nil
  | cons c cs =>
    rw [hl] at hd hv
    rw [Nat.ofDigitChars_cons] at hv
    have hc : c.isDigit = true := hd c List.mem_cons_self
    have hr := run_digits (fun d h => hd d (List.mem_cons_of_mem c h)) (c.toNat - '0'.toNat)
    rw [show '0'.toNat = 48 from rfl] at hr hv
    rw [Nat.mul_zero, Nat.zero_add] at hv
    simp [read, readFrom, run, Pending.extend?, show Pending.begin? '$' = some .dollar from rfl,
      Numeral.digitValue?, hc, hr, hv, Pending.finish?]

end Token

end PathQuery.Sql
