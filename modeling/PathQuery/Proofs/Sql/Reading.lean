import Mathlib.Data.List.Forall2
import PathQuery.Proofs.Sql.Symbol

/-!
# The text of a plain statement is read as its symbols

`Piece.Spells p ss` : behind any number of parameters, `p` binds the parameters of `ss` and its text
is read as the tokens of `ss`. Pieces are put together with separators between them
(`Spells.append`), so a column, a condition or a statement spells its symbols once its parts do.
-/

namespace PathQuery.Sql

open Token (Opens Closes)
open Piece (lit)

namespace Symbol

@[simp] theorem params_append (ss ts : List Symbol) : params (ss ++ ts) = params ss ++ params ts :=
  List.filterMap_append

theorem number_append (n : Nat) (ss ts : List Symbol) :
    number n (ss ++ ts) = number n ss ++ number (n + (params ss).length) ts := by
  induction ss generalizing n with
  | nil => simp [number, params]
  | cons s ss ih =>
    cases s with
    | param p =>
      have h : n + 1 + (params ss).length = n + (params (.param p :: ss)).length :=
        Nat.add_right_comm n 1 (params ss).length
      rw [List.cons_append, number, ih, h, number, List.cons_append]
    | _ => exact congrArg (List.cons _) (ih n)

/-- Symbols without parameters are the same tokens anywhere. -/
theorem number_of_params_eq_nil {ss : List Symbol} (h : params ss = []) (n m : Nat) :
    number n ss = number m ss := by
  induction ss with
  | nil => rfl
  | cons s ss ih =>
    cases s with
    | param p => exact absurd h (List.cons_ne_nil p (params ss))
    | _ => exact congrArg (List.cons _) (ih h)

end Symbol

namespace Piece

/-- Whether a piece binds the parameters of some symbols and its text is read as their tokens. -/
def Spells (p : Piece) (ss : List Symbol) : Prop :=
  ∀ n, (p.write n).2 = Symbol.params ss ∧ Token.read (p.write n).1.toList = some (Symbol.number n ss)

theorem spells_lit {s : String} {ws : List Symbol} (hp : Symbol.params ws = [])
    (h : Token.read s.toList = some (Symbol.number 0 ws)) : (lit s).Spells ws := fun n =>
  ⟨hp.symm, h.trans (congrArg some (Symbol.number_of_params_eq_nil hp 0 n))⟩

namespace Spells

variable {p q : Piece} {s : String} {ss ts ws : List Symbol}

theorem append (hp : p.Spells ss) (hq : q.Spells ts)
    (h : ∀ n m, Closes (p.write n).1.toList ∨ Opens (q.write m).1.toList) :
    (p ++ q).Spells (ss ++ ts) := by
  intro n
  obtain ⟨hps, hpr⟩ := hp n
  obtain ⟨hqs, hqr⟩ := hq (n + (p.write n).2.length)
  rw [write_append, Symbol.params_append, Symbol.number_append, String.toList_append]
  refine ⟨by rw [hqs, hps], ?_⟩
  rw [hps] at hqr ⊢
  exact Token.read_append hpr hqr (h _ _)

/-- Text that ends with a separator, before a piece. -/
theorem after (hs : (lit s).Spells ws) (hq : q.Spells ts) (hc : Closes s.toList) :
    (lit s ++ q).Spells (ws ++ ts) :=
  hs.append hq fun _ _ => .inl hc

/-- Text that begins with a separator, behind a piece. -/
theorem before (hp : p.Spells ss) (hs : (lit s).Spells ws) (ho : Opens s.toList) :
    (p ++ lit s).Spells (ss ++ ws) :=
  hp.append hs fun _ _ => .inr ho

/-- Text between separators, between two pieces. -/
theorem join (hp : p.Spells ss) (hs : (lit s).Spells ws) (hq : q.Spells ts) (ho : Opens s.toList)
    (hc : Closes s.toList) : (p ++ lit s ++ q).Spells (ss ++ ws ++ ts) := by
  refine (hp.before hs ho).append hq fun n _ => .inl ?_
  rw [write_append, String.toList_append]
  exact hc.append _

/-- A piece in parentheses. -/
theorem paren (hp : p.Spells ss) :
    (lit "(" ++ p ++ lit ")").Spells ([.mark "("] ++ ss ++ [.mark ")"]) := by
  have ho : (lit "(").Spells [.mark "("] := spells_lit rfl (by decide)
  have hc : (lit ")").Spells [.mark ")"] := spells_lit rfl (by decide)
  exact before (after ho hp ⟨[], '(', rfl, rfl⟩) hc ⟨')', [], rfl, rfl⟩

/-- A clause, if there is one, behind a piece. -/
theorem clause (hp : p.Spells ss) {o : Option Piece} (hn : o = none → ts = [])
    (hq : ∀ q ∈ o, q.Spells ts) : (p ++ Sql.clause o).Spells (ss ++ ts) := by
  cases o with
  | none =>
    rw [hn rfl, List.append_nil]
    intro n
    simpa [Sql.clause, write_append] using hp n
  | some q =>
    have hs : (lit " ").Spells [] := spells_lit rfl (by decide)
    have hb := hp.join hs (hq q rfl) ⟨' ', [], rfl, rfl⟩ ⟨[], ' ', rfl, rfl⟩
    rw [List.append_nil, append_assoc] at hb
    exact hb

theorem separated {ps : List Piece} {sss : List (List Symbol)} (h : List.Forall₂ Spells ps sss) :
    (Piece.separated ", " ps).Spells (Symbol.commas sss) := by
  induction h with
  | nil => exact spells_lit rfl (by decide)
  | @cons p ss ps sss hp hps ih =>
    cases hps with
    | nil => exact hp
    | cons hq hqs =>
      have hs : (lit ", ").Spells [.mark ","] := spells_lit rfl (by decide)
      have hj := hp.join hs ih ⟨',', [' '], rfl, rfl⟩ ⟨[','], ' ', rfl, rfl⟩
      rwa [List.append_assoc] at hj

end Spells

theorem spells_name (s : String) : (name s).Spells [.name s] := by
  intro n
  refine ⟨rfl, ?_⟩
  rw [name, write_lit, String.toList_ofList, Token.read_name, String.ofList_toList]
  rfl

theorem spells_param (p : Param) : (param p).Spells [.param p] := by
  intro n
  refine ⟨rfl, ?_⟩
  rw [write_param, String.toList_append, Numeral.ofNat, String.toList_ofList, String.toList_ofList,
    List.singleton_append, Token.read_placeholder]
  rfl

theorem spells_call {function : String} (h : function.toList.all Char.isAlpha = true) :
    (lit function).Spells (Symbol.call function) := by
  by_cases hf : function = ""
  · subst hf
    exact spells_lit rfl (by decide)
  · rw [Symbol.call, if_neg hf]
    exact spells_lit rfl (Token.read_letters hf h)

end Piece

open Piece (spells_lit spells_name spells_param spells_call)

theorem Direction.spells_text (d : Direction) : (lit (" " ++ d.text)).Spells [.word d.text] := by
  cases d <;> exact spells_lit rfl (by decide)

theorem Comparator.spells_text (op : Comparator) : (lit (" " ++ op.text ++ " ")).Spells [op.symbol] := by
  cases op <;> exact spells_lit rfl (by decide)

theorem Logical.spells_text (op : Logical) : (lit (" " ++ op.text ++ " ")).Spells [.word op.text] := by
  cases op <;> exact spells_lit rfl (by decide)

/-- A text between blanks begins and ends with a separator. -/
theorem opens_closes_blanks (s : String) :
    Opens (" " ++ s ++ " ").toList ∧ Closes (" " ++ s ++ " ").toList := by
  rw [String.toList_append, String.toList_append]
  exact ⟨⟨' ', s.toList ++ [' '], rfl, rfl⟩, ⟨' ' :: s.toList, ' ', rfl, rfl⟩⟩

theorem Piece.Spells.joinBlanks {p q : Piece} {s : String} {ss ts ws : List Symbol} (hp : p.Spells ss)
    (hs : (lit (" " ++ s ++ " ")).Spells ws) (hq : q.Spells ts) :
    (p ++ lit (" " ++ s ++ " ") ++ q).Spells (ss ++ ws ++ ts) :=
  hp.join hs hq (opens_closes_blanks s).1 (opens_closes_blanks s).2

theorem spells_named (name : String) (aliasName : Option String) :
    (namedPiece name aliasName).Spells (namedSymbols name aliasName) := by
  cases aliasName with
  | none => exact spells_name name
  | some a =>
    have hs : (lit " AS ").Spells [.word "AS"] := spells_lit rfl (by decide)
    have ho : Opens " AS ".toList := ⟨' ', "AS ".toList, rfl, rfl⟩
    have hc : Closes " AS ".toList := ⟨" AS".toList, ' ', rfl, rfl⟩
    simp only [namedPiece, namedSymbols]
    split
    · exact spells_name name
    · exact (spells_name name).join hs (spells_name a) ho hc

theorem spells_chain {p q : Piece} {ss ts : List Symbol} (within : Option Logical) (op : Logical)
    (hp : p.Spells ss) (hq : q.Spells ts) : (chain within op p q).Spells (chainSymbols within op ss ts) := by
  have hb := hp.joinBlanks op.spells_text hq
  rw [List.append_assoc] at hb
  unfold chain chainSymbols
  split
  · exact hb
  · exact hb.paren

theorem spells_limit (limit : Option Int64) {p : Piece} {ss : List Symbol} (hp : p.Spells ss) :
    (p ++ clause (limit.map limitPiece)).Spells (ss ++ limitSymbols limit) := by
  cases limit with
  | none => exact hp.clause (fun _ => rfl) (fun q hq => nomatch hq)
  | some n =>
    refine hp.clause (fun h => nomatch h) ?_
    rintro _ ⟨⟩
    have hs : (lit "LIMIT ").Spells [.word "LIMIT"] := spells_lit rfl (by decide)
    exact hs.after (spells_param _) ⟨"LIMIT".toList, ' ', rfl, rfl⟩

theorem spells_offset (offset : Option Int64) {p : Piece} {ss : List Symbol} (hp : p.Spells ss) :
    (p ++ clause (offset.map offsetPiece)).Spells (ss ++ offsetSymbols offset) := by
  cases offset with
  | none => exact hp.clause (fun _ => rfl) (fun q hq => nomatch hq)
  | some n =>
    refine hp.clause (fun h => nomatch h) ?_
    rintro _ ⟨⟩
    have hs : (lit "OFFSET ").Spells [.word "OFFSET"] := spells_lit rfl (by decide)
    exact hs.after (spells_param _) ⟨"OFFSET".toList, ' ', rfl, rfl⟩

theorem spells_selected {ps : List Piece} {sss : List (List Symbol)}
    (h : List.Forall₂ Piece.Spells ps sss) : (selectedPiece ps).Spells (selectedSymbols sss) := by
  cases h with
  | nil => exact spells_lit rfl (by decide)
  | cons hp hps => exact Piece.Spells.separated (.cons hp hps)

theorem spells_restriction {p q : Piece} {ss ts : List Symbol} (hp : p.Spells ss)
    (condition : Predicate) (hq : q.Spells ts) :
    (p ++ clause (restrictionPiece condition q)).Spells (ss ++ restrictionSymbols condition ts) := by
  have hw : (lit "WHERE ").Spells [.word "WHERE"] := spells_lit rfl (by decide)
  have ha := hw.after hq ⟨"WHERE".toList, ' ', rfl, rfl⟩
  have hsome : (p ++ clause (some (lit "WHERE " ++ q))).Spells (ss ++ .word "WHERE" :: ts) := by
    refine hp.clause (fun h => nomatch h) ?_
    rintro _ ⟨⟩
    exact ha
  cases condition with
  | const value =>
    cases value with
    | true => exact hp.clause (fun _ => rfl) (fun q hq => nomatch hq)
    | false => exact hsome
  | _ => exact hsome

theorem spells_compare {op : Comparator} {left right : Column} (within : Option Logical)
    (hl : left.piece.Spells left.symbols) (hr : right.piece.Spells right.symbols) :
    (Predicate.pieceIn within (.compare op left right)).Spells
      (Predicate.symbolsIn within (.compare op left right)) := by
  have hnull : (lit " IS NULL").Spells [.word "IS", .word "NULL"] := spells_lit rfl (by decide)
  have hnot : (lit " IS NOT NULL").Spells [.word "IS", .word "NOT", .word "NULL"] :=
    spells_lit rfl (by decide)
  have hop := hl.joinBlanks op.spells_text hr
  rw [List.append_assoc] at hop
  by_cases he : op = .eq ∧ right = .null
  · obtain ⟨rfl, rfl⟩ := he
    exact hl.before hnull ⟨' ', "IS NULL".toList, rfl, rfl⟩
  by_cases hn : op = .ne ∧ right = .null
  · obtain ⟨rfl, rfl⟩ := hn
    exact hl.before hnot ⟨' ', "IS NOT NULL".toList, rfl, rfl⟩
  rw [Predicate.pieceIn, Predicate.symbolsIn]
  · exact hop
  all_goals tauto

mutual

theorem Column.spells : (c : Column) → c.isPlain isLetters = true → c.piece.Spells c.symbols
  | .field table name, _ => by
    have hs : (lit ".").Spells [.mark "."] := spells_lit rfl (by decide)
    exact (spells_name table).join hs (spells_name name) ⟨'.', [], rfl, rfl⟩ ⟨[], '.', rfl, rfl⟩
  | .param p, _ => spells_param p
  | .list items, h => by
    rw [Column.isPlain] at h
    exact (Piece.Spells.separated (Column.spells_list items h)).paren
  | .query s, h => by
    rw [Column.isPlain] at h
    exact (Select.spells s h).paren
  | .null, _ => spells_lit rfl (by decide)
  | .call function argument, h => by
    rw [Column.isPlain, Bool.and_eq_true] at h
    have ha := Column.spells argument h.2
    have ho : (lit "(").Spells [.mark "("] := spells_lit rfl (by decide)
    have hc : (lit ")").Spells [.mark ")"] := spells_lit rfl (by decide)
    have hj := (spells_call h.1).join ho ha ⟨'(', [], rfl, rfl⟩ ⟨[], '(', rfl, rfl⟩
    have hb := hj.before hc ⟨')', [], rfl, rfl⟩
    rw [Column.piece, Column.symbols]
    simpa using hb

theorem Column.spells_list : (cs : List Column) → Column.arePlain isLetters cs = true →
    List.Forall₂ Piece.Spells (Column.pieces cs) (Column.symbolLists cs)
  | [], _ => .nil
  | c :: cs, h => by
    rw [Column.arePlain, Bool.and_eq_true] at h
    exact .cons (Column.spells c h.1) (Column.spells_list cs h.2)

theorem Predicate.spells (within : Option Logical) : (p : Predicate) → p.isPlain isLetters = true →
    (p.pieceIn within).Spells (p.symbolsIn within)
  | .const true, _ => show (lit "TRUE").Spells [.word "TRUE"] from spells_lit rfl (by decide)
  | .const false, _ => show (lit "FALSE").Spells [.word "FALSE"] from spells_lit rfl (by decide)
  | .compare op left right, h => by
    rw [Predicate.isPlain, Bool.and_eq_true] at h
    exact spells_compare within (Column.spells left h.1) (Column.spells right h.2)
  | .between c low high, h => by
    rw [Predicate.isPlain, Bool.and_eq_true, Bool.and_eq_true] at h
    have hb : (lit (" " ++ "BETWEEN" ++ " ")).Spells [.word "BETWEEN"] := spells_lit rfl (by decide)
    have ha : (lit (" " ++ "AND" ++ " ")).Spells [.word "AND"] := spells_lit rfl (by decide)
    have hj := (Column.spells c h.1.1).joinBlanks hb (Column.spells low h.1.2)
    have hk := hj.joinBlanks ha (Column.spells high h.2)
    rw [Predicate.pieceIn, Predicate.symbolsIn]
    simpa using hk
  | .raw _, h => by
    rw [Predicate.isPlain] at h
    exact absurd h Bool.false_ne_true
  | .and p q, h => by
    rw [Predicate.isPlain, Bool.and_eq_true] at h
    exact spells_chain within .and (Predicate.spells _ p h.1) (Predicate.spells _ q h.2)
  | .or p q, h => by
    rw [Predicate.isPlain, Bool.and_eq_true] at h
    exact spells_chain within .or (Predicate.spells _ p h.1) (Predicate.spells _ q h.2)
  | .not p, h => by
    rw [Predicate.isPlain] at h
    have ho : (lit "NOT(").Spells [.word "NOT", .mark "("] := spells_lit rfl (by decide)
    have hc : (lit ")").Spells [.mark ")"] := spells_lit rfl (by decide)
    have ha := ho.after (Predicate.spells none p h) ⟨"NOT".toList, '(', rfl, rfl⟩
    exact ha.before hc ⟨')', [], rfl, rfl⟩

theorem Table.spells : (t : Table) → t.isPlain isLetters = true → t.piece.Spells t.symbols
  | .named name aliasName, _ => spells_named name aliasName
  | .leftJoin left right on, h => by
    rw [Table.isPlain, Bool.and_eq_true, Bool.and_eq_true] at h
    have hl : (lit (" " ++ "LEFT JOIN" ++ " ")).Spells [.word "LEFT", .word "JOIN"] :=
      spells_lit rfl (by decide)
    have ho : (lit (" " ++ "ON" ++ " ")).Spells [.word "ON"] := spells_lit rfl (by decide)
    have hj := (Table.spells left h.1.1).joinBlanks hl (Table.spells right h.1.2)
    have hk := hj.joinBlanks ho (Predicate.spells none on h.2)
    rw [Table.piece, Table.symbols]
    simpa using hk

theorem OrderTerm.spells : (o : OrderTerm) → o.isPlain isLetters = true → o.piece.Spells o.symbols
  | ⟨c, direction⟩, h => by
    rw [OrderTerm.isPlain] at h
    have ho : Opens (" " ++ direction.text).toList := by
      rw [String.toList_append]
      exact ⟨' ', direction.text.toList, rfl, rfl⟩
    exact (Column.spells c h).before direction.spells_text ho

theorem OrderTerm.spells_list : (os : List OrderTerm) → OrderTerm.arePlain isLetters os = true →
    List.Forall₂ Piece.Spells (OrderTerm.pieces os) (OrderTerm.symbolLists os)
  | [], _ => .nil
  | o :: os, h => by
    rw [OrderTerm.arePlain, Bool.and_eq_true] at h
    exact .cons (OrderTerm.spells o h.1) (OrderTerm.spells_list os h.2)

theorem OrderTerm.spells_clause {p : Piece} {ss : List Symbol} (hp : p.Spells ss) :
    (o : Option (List OrderTerm)) → OrderTerm.clauseIsPlain isLetters o = true →
    (p ++ clause (OrderTerm.clause o)).Spells (ss ++ OrderTerm.clauseSymbols o)
  | none, _ => by
    rw [OrderTerm.clause, OrderTerm.clauseSymbols]
    exact hp.clause (fun _ => rfl) (fun q hq => nomatch hq)
  | some os, h => by
    rw [OrderTerm.clauseIsPlain] at h
    have hs : (lit "ORDER BY ").Spells [.word "ORDER", .word "BY"] := spells_lit rfl (by decide)
    have hc : Closes "ORDER BY ".toList := ⟨"ORDER BY".toList, ' ', rfl, rfl⟩
    have ha := hs.after (Piece.Spells.separated (OrderTerm.spells_list os h)) hc
    rw [OrderTerm.clause, OrderTerm.clauseSymbols]
    refine hp.clause (fun h => nomatch h) ?_
    rintro _ ⟨⟩
    exact ha

theorem Select.spells : (s : Select) → s.isPlain isLetters = true → s.piece.Spells s.symbols
  | ⟨source, columns, condition, order, limit, offset⟩, h => by
    rw [Select.isPlain, Bool.and_eq_true, Bool.and_eq_true, Bool.and_eq_true] at h
    obtain ⟨⟨⟨hsource, hcolumns⟩, hcondition⟩, horder⟩ := h
    have hselect : (lit "SELECT ").Spells [.word "SELECT"] := spells_lit rfl (by decide)
    have hfrom : (lit (" " ++ "FROM" ++ " ")).Spells [.word "FROM"] := spells_lit rfl (by decide)
    have hselected := hselect.after (spells_selected (Column.spells_list columns hcolumns))
      ⟨"SELECT".toList, ' ', rfl, rfl⟩
    have htable := hselected.joinBlanks hfrom (Table.spells source hsource)
    have hwhere := spells_restriction htable condition (Predicate.spells none condition hcondition)
    have hwindow := spells_offset offset (spells_limit limit (OrderTerm.spells_clause hwhere order horder))
    rw [Select.piece, Select.symbols]
    simpa using hwindow

end

end PathQuery.Sql
