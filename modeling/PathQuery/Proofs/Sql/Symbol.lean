import PathQuery.Proofs.Sql.Token
import PathQuery.Sql.Render

/-!
# What a statement writes

The symbols of columns, conditions, tables and statements, in order: names, words, marks, and the
parameters themselves where the text has placeholders. `Symbol.number` turns symbols into the tokens
of a text behind some earlier parameters, and `Symbol.params` are the parameters that the text
binds.

`isPlain` holds of what has symbols: nothing is written as it stands, and the names of functions
pass a test, which is that they are letters (`isLetters`) or a stricter one (`isPlain_mono`).
-/

namespace PathQuery.Sql

/-- A token, or a parameter whose placeholder has no number yet. -/
inductive Symbol where
  | name (s : String)
  | word (s : String)
  | mark (s : String)
  | param (p : Param)

namespace Symbol

def param? : Symbol → Option Param
  | .param p => some p
  | _ => none

/-- The parameters among some symbols. -/
def params (ss : List Symbol) : List Param := ss.filterMap param?

/-- The tokens of some symbols behind `before` parameters. -/
def number (before : Nat) : List Symbol → List Token
  | [] => []
  | .name s :: rest => .name s :: number before rest
  | .word s :: rest => .word s :: number before rest
  | .mark s :: rest => .mark s :: number before rest
  | .param _ :: rest => .placeholder (before + 1) :: number (before + 1) rest

def commas : List (List Symbol) → List Symbol
  | [] => []
  | [ss] => ss
  | ss :: ts :: rest => ss ++ .mark "," :: commas (ts :: rest)

/-- The word of a function, if its name has any letters. -/
def call (function : String) : List Symbol := if function = "" then [] else [.word function]

end Symbol

def Comparator.symbol : Comparator → Symbol
  | .isIn => .word "IN"
  | .like => .word "LIKE"
  | op => .mark op.text

def namedSymbols (name : String) (aliasName : Option String) : List Symbol :=
  match aliasName with
  | some a => if name = a then [.name name] else [.name name, .word "AS", .name a]
  | none => [.name name]

/-- A chain of conditions, in parentheses unless it stands in a longer chain of its kind. -/
def chainSymbols (within : Option Logical) (op : Logical) (left right : List Symbol) : List Symbol :=
  let body := left ++ .word op.text :: right
  if within = some op then body else .mark "(" :: body ++ [.mark ")"]

def limitSymbols (limit : Option Int64) : List Symbol :=
  match limit with
  | some n => [.word "LIMIT", .param (.int8 n)]
  | none => []

def offsetSymbols (offset : Option Int64) : List Symbol :=
  match offset with
  | some n => [.word "OFFSET", .param (.int8 n)]
  | none => []

def selectedSymbols (columns : List (List Symbol)) : List Symbol :=
  match columns with
  | [] => [.mark "*"]
  | _ => Symbol.commas columns

def restrictionSymbols (condition : Predicate) (symbols : List Symbol) : List Symbol :=
  match condition with
  | .const true => []
  | _ => .word "WHERE" :: symbols

mutual

def Column.symbols : Column → List Symbol
  | .field table name => [.name table, .mark ".", .name name]
  | .param p => [.param p]
  | .list items => .mark "(" :: Symbol.commas (Column.symbolLists items) ++ [.mark ")"]
  | .query s => .mark "(" :: s.symbols ++ [.mark ")"]
  | .null => [.word "NULL"]
  | .call function argument => Symbol.call function ++ .mark "(" :: argument.symbols ++ [.mark ")"]

def Column.symbolLists : List Column → List (List Symbol)
  | [] => []
  | c :: cs => c.symbols :: Column.symbolLists cs

/-- The symbols of a condition inside a chain of `within`, if that is one. -/
def Predicate.symbolsIn (within : Option Logical) : Predicate → List Symbol
  | .const true => [.word "TRUE"]
  | .const false => [.word "FALSE"]
  | .compare .eq left .null => left.symbols ++ [.word "IS", .word "NULL"]
  | .compare .ne left .null => left.symbols ++ [.word "IS", .word "NOT", .word "NULL"]
  | .compare op left right => left.symbols ++ op.symbol :: right.symbols
  | .between c low high =>
    c.symbols ++ .word "BETWEEN" :: low.symbols ++ .word "AND" :: high.symbols
  | .raw _ => []
  | .and p q => chainSymbols within .and (p.symbolsIn (some .and)) (q.symbolsIn (some .and))
  | .or p q => chainSymbols within .or (p.symbolsIn (some .or)) (q.symbolsIn (some .or))
  | .not p => .word "NOT" :: .mark "(" :: p.symbolsIn none ++ [.mark ")"]

def Table.symbols : Table → List Symbol
  | .named name aliasName => namedSymbols name aliasName
  | .leftJoin left right on =>
    left.symbols ++ .word "LEFT" :: .word "JOIN" :: right.symbols ++ .word "ON" :: on.symbolsIn none

def OrderTerm.symbols : OrderTerm → List Symbol
  | ⟨c, direction⟩ => c.symbols ++ [.word direction.text]

def OrderTerm.symbolLists : List OrderTerm → List (List Symbol)
  | [] => []
  | o :: os => o.symbols :: OrderTerm.symbolLists os

def OrderTerm.clauseSymbols : Option (List OrderTerm) → List Symbol
  | none => []
  | some os => .word "ORDER" :: .word "BY" :: Symbol.commas (OrderTerm.symbolLists os)

def Select.symbols : Select → List Symbol
  | ⟨source, columns, condition, order, limit, offset⟩ =>
    .word "SELECT" :: selectedSymbols (Column.symbolLists columns) ++ .word "FROM" :: source.symbols ++
      restrictionSymbols condition (condition.symbolsIn none) ++ OrderTerm.clauseSymbols order ++
      limitSymbols limit ++ offsetSymbols offset

end

def Predicate.symbols (p : Predicate) : List Symbol := p.symbolsIn none

theorem Column.symbolLists_eq_map (cs : List Column) : Column.symbolLists cs = cs.map Column.symbols := by
  induction cs with
  | nil => rfl
  | cons c cs ih => rw [Column.symbolLists, ih, List.map_cons]

theorem OrderTerm.symbolLists_eq_map (os : List OrderTerm) :
    OrderTerm.symbolLists os = os.map OrderTerm.symbols := by
  induction os with
  | nil => rfl
  | cons o os ih => rw [OrderTerm.symbolLists, ih, List.map_cons]

/-! ## Plain statements -/

def isLetters (s : String) : Bool := s.toList.all Char.isAlpha

mutual

/-- Whether a column is written by symbols alone, and calls only functions whose names pass a
test. -/
def Column.isPlain (calls : String → Bool) : Column → Bool
  | .field _ _ => true
  | .param _ => true
  | .list items => Column.arePlain calls items
  | .query s => s.isPlain calls
  | .null => true
  | .call function argument => calls function && argument.isPlain calls

def Column.arePlain (calls : String → Bool) : List Column → Bool
  | [] => true
  | c :: cs => c.isPlain calls && Column.arePlain calls cs

def Predicate.isPlain (calls : String → Bool) : Predicate → Bool
  | .const _ => true
  | .compare _ left right => left.isPlain calls && right.isPlain calls
  | .between c low high => c.isPlain calls && low.isPlain calls && high.isPlain calls
  | .raw _ => false
  | .and p q => p.isPlain calls && q.isPlain calls
  | .or p q => p.isPlain calls && q.isPlain calls
  | .not p => p.isPlain calls

def Table.isPlain (calls : String → Bool) : Table → Bool
  | .named _ _ => true
  | .leftJoin left right on => left.isPlain calls && right.isPlain calls && on.isPlain calls

def OrderTerm.isPlain (calls : String → Bool) : OrderTerm → Bool
  | ⟨c, _⟩ => c.isPlain calls

def OrderTerm.arePlain (calls : String → Bool) : List OrderTerm → Bool
  | [] => true
  | o :: os => o.isPlain calls && OrderTerm.arePlain calls os

def OrderTerm.clauseIsPlain (calls : String → Bool) : Option (List OrderTerm) → Bool
  | none => true
  | some os => OrderTerm.arePlain calls os

def Select.isPlain (calls : String → Bool) : Select → Bool
  | ⟨source, columns, condition, order, _, _⟩ =>
    source.isPlain calls && Column.arePlain calls columns && condition.isPlain calls &&
      OrderTerm.clauseIsPlain calls order

end

section

variable {calls fewer : String → Bool}

theorem Column.arePlain_iff {cs : List Column} :
    Column.arePlain calls cs = true ↔ ∀ c ∈ cs, c.isPlain calls = true := by
  induction cs with
  | nil => simp [Column.arePlain]
  | cons c cs ih => rw [Column.arePlain, Bool.and_eq_true, ih, List.forall_mem_cons]

theorem OrderTerm.arePlain_iff {os : List OrderTerm} :
    OrderTerm.arePlain calls os = true ↔ ∀ o ∈ os, o.isPlain calls = true := by
  induction os with
  | nil => simp [OrderTerm.arePlain]
  | cons o os ih => rw [OrderTerm.arePlain, Bool.and_eq_true, ih, List.forall_mem_cons]

mutual

/-- What is plain by a stricter test of functions is plain. -/
theorem Column.isPlain_mono (h : ∀ function, fewer function = true → calls function = true) :
    (c : Column) → c.isPlain fewer = true → c.isPlain calls = true
  | .field _ _, _ => rfl
  | .param _, _ => rfl
  | .list items, hp => by
    rw [Column.isPlain] at hp
    rw [Column.isPlain, Column.arePlain_mono h items hp]
  | .query s, hp => by
    rw [Column.isPlain] at hp
    rw [Column.isPlain, Select.isPlain_mono h s hp]
  | .null, _ => rfl
  | .call function argument, hp => by
    rw [Column.isPlain, Bool.and_eq_true] at hp
    rw [Column.isPlain, h function hp.1, Column.isPlain_mono h argument hp.2]
    rfl

theorem Column.arePlain_mono (h : ∀ function, fewer function = true → calls function = true) :
    (cs : List Column) → Column.arePlain fewer cs = true → Column.arePlain calls cs = true
  | [], _ => rfl
  | c :: cs, hp => by
    rw [Column.arePlain, Bool.and_eq_true] at hp
    rw [Column.arePlain, Column.isPlain_mono h c hp.1, Column.arePlain_mono h cs hp.2]
    rfl

theorem Predicate.isPlain_mono (h : ∀ function, fewer function = true → calls function = true) :
    (p : Predicate) → p.isPlain fewer = true → p.isPlain calls = true
  | .const _, _ => rfl
  | .compare _ l r, hp => by
    rw [Predicate.isPlain, Bool.and_eq_true] at hp
    rw [Predicate.isPlain, Column.isPlain_mono h l hp.1, Column.isPlain_mono h r hp.2]
    rfl
  | .between c l u, hp => by
    rw [Predicate.isPlain, Bool.and_eq_true, Bool.and_eq_true] at hp
    rw [Predicate.isPlain, Column.isPlain_mono h c hp.1.1, Column.isPlain_mono h l hp.1.2,
      Column.isPlain_mono h u hp.2]
    rfl
  | .raw _, hp => by
    rw [Predicate.isPlain] at hp
    exact absurd hp Bool.false_ne_true
  | .and p q, hp => by
    rw [Predicate.isPlain, Bool.and_eq_true] at hp
    rw [Predicate.isPlain, Predicate.isPlain_mono h p hp.1, Predicate.isPlain_mono h q hp.2]
    rfl
  | .or p q, hp => by
    rw [Predicate.isPlain, Bool.and_eq_true] at hp
    rw [Predicate.isPlain, Predicate.isPlain_mono h p hp.1, Predicate.isPlain_mono h q hp.2]
    rfl
  | .not p, hp => by
    rw [Predicate.isPlain] at hp
    rw [Predicate.isPlain, Predicate.isPlain_mono h p hp]

theorem Table.isPlain_mono (h : ∀ function, fewer function = true → calls function = true) :
    (t : Table) → t.isPlain fewer = true → t.isPlain calls = true
  | .named _ _, _ => rfl
  | .leftJoin l r on, hp => by
    rw [Table.isPlain, Bool.and_eq_true, Bool.and_eq_true] at hp
    rw [Table.isPlain, Table.isPlain_mono h l hp.1.1, Table.isPlain_mono h r hp.1.2,
      Predicate.isPlain_mono h on hp.2]
    rfl

theorem OrderTerm.arePlain_mono (h : ∀ function, fewer function = true → calls function = true) :
    (os : List OrderTerm) → OrderTerm.arePlain fewer os = true → OrderTerm.arePlain calls os = true
  | [], _ => rfl
  | ⟨c, _⟩ :: os, hp => by
    rw [OrderTerm.arePlain, OrderTerm.isPlain, Bool.and_eq_true] at hp
    rw [OrderTerm.arePlain, OrderTerm.isPlain, Column.isPlain_mono h c hp.1,
      OrderTerm.arePlain_mono h os hp.2]
    rfl

theorem Select.isPlain_mono (h : ∀ function, fewer function = true → calls function = true) :
    (s : Select) → s.isPlain fewer = true → s.isPlain calls = true
  | ⟨source, columns, condition, order, _, _⟩, hp => by
    rw [Select.isPlain, Bool.and_eq_true, Bool.and_eq_true, Bool.and_eq_true] at hp
    have horder : OrderTerm.clauseIsPlain calls order = true := by
      cases order with
      | none => rfl
      | some os => exact OrderTerm.arePlain_mono h os hp.2
    rw [Select.isPlain, Table.isPlain_mono h source hp.1.1.1, Column.arePlain_mono h columns hp.1.1.2,
      Predicate.isPlain_mono h condition hp.1.2, horder]
    rfl

end

end

end PathQuery.Sql
