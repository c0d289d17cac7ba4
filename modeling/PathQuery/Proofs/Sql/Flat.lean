import PathQuery.Proofs.Sql.Symbol
import PathQuery.Proofs.Sql.Truth

/-!
# Flat statements

Chains of one connective are written without the parentheses inside them, and a table's alias is not
written if it is the table's name, so a text cannot tell statements that differ in nothing else.
`Select.flat` is what they have in common: chains nest to the right, over operands that are no
chains of their connective, and no table is called by its own name.

* `Logical.nest` : the condition of some operands under a connective, nested to the right;
* `Predicate.operands` : the operands of a chain, however it is nested;
* `Predicate.flatIn` : the flat operands of a condition inside a chain, if that is one;
* `Select.piece_flat` : flat statements have the same text;
* `Select.results_flat` : flat statements have the same results.
-/

namespace PathQuery.Sql

/-- The condition with a connective on top, as it stands. -/
def Logical.link : Logical → Predicate → Predicate → Predicate
  | .and => .and
  | .or => .or

/-- Operands under a connective, nested to the right. -/
def Logical.nest (op : Logical) : List Predicate → Predicate
  | [] => .const true
  | [p] => p
  | p :: q :: ps => op.link p (nest op (q :: ps))

def flatAlias (name : String) (aliasName : Option String) : Option String :=
  match aliasName with
  | some a => if name = a then none else some a
  | none => none

/-- A chain inside a chain of `within`: its operands there, or else itself. -/
def Logical.flatChain (within : Option Logical) (op : Logical) (ps : List Predicate) : List Predicate :=
  if within = some op then ps else [op.nest ps]

mutual

def Column.flat : Column → Column
  | .field table name => .field table name
  | .param p => .param p
  | .list items => .list (Column.flatList items)
  | .query s => .query s.flat
  | .null => .null
  | .call function argument => .call function argument.flat
  termination_by structural x => x

def Column.flatList : List Column → List Column
  | [] => []
  | c :: cs => c.flat :: Column.flatList cs
  termination_by structural x => x

/-- The flat operands of a condition inside a chain of `within`, if that is one. -/
def Predicate.flatIn (within : Option Logical) : Predicate → List Predicate
  | .const b => [.const b]
  | .compare op left right => [.compare op left.flat right.flat]
  | .between c low high => [.between c.flat low.flat high.flat]
  | .raw fragments => [.raw fragments]
  | .and p q => Logical.flatChain within .and (p.flatIn (some .and) ++ q.flatIn (some .and))
  | .or p q => Logical.flatChain within .or (p.flatIn (some .or) ++ q.flatIn (some .or))
  | .not p => [.not (Logical.nest .and (p.flatIn none))]
  termination_by structural x => x

def Table.flat : Table → Table
  | .named name aliasName => .named name (flatAlias name aliasName)
  | .leftJoin left right on => .leftJoin left.flat right.flat (Logical.nest .and (on.flatIn none))
  termination_by structural x => x

def OrderTerm.flat : OrderTerm → OrderTerm
  | ⟨c, direction⟩ => ⟨c.flat, direction⟩
  termination_by structural x => x

def OrderTerm.flatList : List OrderTerm → List OrderTerm
  | [] => []
  | o :: os => o.flat :: OrderTerm.flatList os
  termination_by structural x => x

def OrderTerm.flatClause : Option (List OrderTerm) → Option (List OrderTerm)
  | none => none
  | some os => some (OrderTerm.flatList os)
  termination_by structural x => x

def Select.flat : Select → Select
  | ⟨source, columns, condition, order, limit, offset⟩ =>
    ⟨source.flat, Column.flatList columns, Logical.nest .and (condition.flatIn none), OrderTerm.flatClause order,
      limit, offset⟩
  termination_by structural x => x

end

def Predicate.flat (p : Predicate) : Predicate := Logical.nest .and (p.flatIn none)

/-- The operands of a chain of a connective, and any other condition as one operand. -/
def Predicate.operands (op : Logical) : Predicate → List Predicate
  | .and p q => if op = .and then p.operands op ++ q.operands op else [.and p q]
  | .or p q => if op = .or then p.operands op ++ q.operands op else [.or p q]
  | p => [p]

theorem Column.flatList_eq_map (cs : List Column) : Column.flatList cs = cs.map Column.flat := by
  induction cs with
  | nil => rfl
  | cons c cs ih => rw [Column.flatList, ih, List.map_cons]

theorem OrderTerm.flatList_eq_map (os : List OrderTerm) : OrderTerm.flatList os = os.map OrderTerm.flat := by
  induction os with
  | nil => rfl
  | cons o os ih => rw [OrderTerm.flatList, ih, List.map_cons]

/-! ## Operands -/

namespace Predicate

variable {op : Logical} {p q : Predicate}

theorem operands_link (p q : Predicate) : (op.link p q).operands op = p.operands op ++ q.operands op := by
  cases op <;> simp [Logical.link, operands]

theorem operands_ne_nil (op : Logical) : (p : Predicate) → p.operands op ≠ []
  | .and p q => by
    rw [operands]
    split
    · exact List.append_ne_nil_of_left_ne_nil (operands_ne_nil op p) _
    · exact List.cons_ne_nil _ _
  | .or p q => by
    rw [operands]
    split
    · exact List.append_ne_nil_of_left_ne_nil (operands_ne_nil op p) _
    · exact List.cons_ne_nil _ _
  | .const _ => List.cons_ne_nil _ _
  | .compare _ _ _ => List.cons_ne_nil _ _
  | .between _ _ _ => List.cons_ne_nil _ _
  | .raw _ => List.cons_ne_nil _ _
  | .not _ => List.cons_ne_nil _ _

/-- A condition standing alone is one operand. -/
theorem flatIn_none (p : Predicate) : p.flatIn none = [p.flat] := by
  unfold flat
  cases p <;> simp [flatIn, Logical.flatChain, Logical.nest]

/-- Inside a chain, the flat operands of a condition are its operands, each of them flat. -/
theorem flatIn_some (op : Logical) : (p : Predicate) → p.flatIn (some op) = (p.operands op).map flat
  | .and p q => by
    cases op with
    | and => simp [flatIn, Logical.flatChain, operands, flatIn_some .and p, flatIn_some .and q]
    | or => simp [flatIn, Logical.flatChain, operands, flat, Logical.nest]
  | .or p q => by
    cases op with
    | and => simp [flatIn, Logical.flatChain, operands, flat, Logical.nest]
    | or => simp [flatIn, Logical.flatChain, operands, flatIn_some .or p, flatIn_some .or q]
  | .const _ => by simp [flatIn, operands, flat, Logical.nest]
  | .compare _ _ _ => by simp [flatIn, operands, flat, Logical.nest]
  | .between _ _ _ => by simp [flatIn, operands, flat, Logical.nest]
  | .raw _ => by simp [flatIn, operands, flat, Logical.nest]
  | .not _ => by simp [flatIn, operands, flat, Logical.nest]
  termination_by structural p => p

theorem flat_link (op : Logical) (p q : Predicate) :
    (op.link p q).flat = op.nest ((p.operands op ++ q.operands op).map flat) := by
  rw [List.map_append, ← flatIn_some, ← flatIn_some]
  cases op <;> simp [flat, Logical.link, flatIn, Logical.flatChain, Logical.nest]

theorem flatIn_ne_nil {within : Option Logical} (p : Predicate) : p.flatIn within ≠ [] := by
  cases within with
  | none =>
    rw [p.flatIn_none]
    exact List.cons_ne_nil _ _
  | some op =>
    rw [p.flatIn_some]
    exact fun h => p.operands_ne_nil op (List.map_eq_nil_iff.1 h)

end Predicate

/-! ## Text -/

open Piece (lit)

theorem namedPiece_flatAlias (name : String) (aliasName : Option String) :
    namedPiece name (flatAlias name aliasName) = namedPiece name aliasName := by
  cases aliasName with
  | none => rfl
  | some a =>
    by_cases h : name = a
    · simp [flatAlias, namedPiece, h]
    · simp [flatAlias, h]

theorem Column.isNull_flat (c : Column) : c.flat.isNull = c.isNull := by cases c <;> rfl

theorem Predicate.pieceIn_compare (within : Option Logical) (op : Comparator) (l r : Column) :
    (Predicate.compare op l r).pieceIn within =
      match op, r.isNull with
      | .eq, true => l.piece ++ lit " IS NULL"
      | .ne, true => l.piece ++ lit " IS NOT NULL"
      | op, _ => l.piece ++ lit (" " ++ op.text ++ " ") ++ r.piece := by
  cases op <;> cases r <;> rfl

/-- A condition with a connective on top is written in parentheses unless it stands in a chain of
the connective. -/
theorem Predicate.pieceIn_link (within : Option Logical) (op : Logical) (p q : Predicate) :
    (op.link p q).pieceIn within = chain within op (p.pieceIn (some op)) (q.pieceIn (some op)) := by
  cases op <;> rw [Logical.link, Predicate.pieceIn]

theorem Logical.exists_nest_eq_link (op : Logical) {ps qs : List Predicate} (hp : ps ≠ []) (hq : qs ≠ []) :
    ∃ p q, op.nest (ps ++ qs) = op.link p q := by
  obtain ⟨p, ps, rfl⟩ := List.exists_cons_of_ne_nil hp
  have hne : ps ++ qs ≠ [] := List.append_ne_nil_of_right_ne_nil ps hq
  obtain ⟨q, rest, hrest⟩ := List.exists_cons_of_ne_nil hne
  exact ⟨p, op.nest (q :: rest), by rw [List.cons_append, hrest, nest]⟩

theorem Logical.pieceIn_nest_cons (op : Logical) (p : Predicate) {ps : List Predicate} (h : ps ≠ []) :
    (op.nest (p :: ps)).pieceIn (some op) =
      p.pieceIn (some op) ++ lit (" " ++ op.text ++ " ") ++ (op.nest ps).pieceIn (some op) := by
  obtain ⟨q, qs, rfl⟩ := List.exists_cons_of_ne_nil h
  rw [nest, Predicate.pieceIn_link, chain, if_pos rfl]

/-- Operands in a chain are written one after the other, however they are put together. -/
theorem Logical.pieceIn_nest_append (op : Logical) {ps qs : List Predicate} (hp : ps ≠ []) (hq : qs ≠ []) :
    (op.nest (ps ++ qs)).pieceIn (some op) =
      (op.nest ps).pieceIn (some op) ++ lit (" " ++ op.text ++ " ") ++ (op.nest qs).pieceIn (some op) := by
  induction ps with
  | nil => exact absurd rfl hp
  | cons p ps ih =>
    cases ps with
    | nil => exact op.pieceIn_nest_cons p hq
    | cons p' ps =>
      have hne : p' :: ps ≠ [] := List.cons_ne_nil p' ps
      rw [List.cons_append, op.pieceIn_nest_cons p (List.append_ne_nil_of_left_ne_nil hne qs), ih hne,
        op.pieceIn_nest_cons p hne]
      simp only [Piece.append_assoc]

theorem Predicate.pieceIn_flatChain {within : Option Logical} {op op' : Logical} {ps qs : List Predicate}
    (hp : ps ≠ []) (hq : qs ≠ []) (h : ∀ o ∈ within, o = op') :
    (op'.nest (Logical.flatChain within op (ps ++ qs))).pieceIn within =
      chain within op ((op.nest ps).pieceIn (some op)) ((op.nest qs).pieceIn (some op)) := by
  have hchain := op.pieceIn_nest_append hp hq
  unfold Logical.flatChain
  by_cases hw : within = some op
  · obtain rfl := h op hw
    rw [if_pos hw, hw, hchain, chain, if_pos rfl]
  · obtain ⟨p, q, hlink⟩ := op.exists_nest_eq_link hp hq
    rw [hlink, pieceIn_link, chain, if_pos rfl] at hchain
    rw [if_neg hw, Logical.nest, hlink, pieceIn_link, chain, chain, if_neg hw, if_neg hw, hchain]

theorem restrictionPiece_flat (p : Predicate) (text : Piece) :
    restrictionPiece (Logical.nest .and (p.flatIn none)) text = restrictionPiece p text := by
  have hlink (op : Logical) (p q : Predicate) : restrictionPiece (op.link p q) text = some (lit "WHERE " ++ text) := by
    cases op <;> rfl
  have hchain (op : Logical) (p q : Predicate) :
      restrictionPiece (Logical.nest .and ((op.link p q).flatIn none)) text = some (lit "WHERE " ++ text) := by
    rw [Predicate.flatIn_none, Logical.nest, Predicate.flat_link, List.map_append]
    obtain ⟨p', q', hnest⟩ := op.exists_nest_eq_link
      (fun hnil => p.operands_ne_nil op (List.map_eq_nil_iff.1 hnil))
      (fun hnil => q.operands_ne_nil op (List.map_eq_nil_iff.1 hnil))
    rw [hnest, hlink]
  cases p with
  | const value => rfl
  | compare op left right => rfl
  | between c low high => rfl
  | raw fragments => rfl
  | and p q => exact hchain .and p q
  | or p q => exact hchain .or p q
  | not p => rfl

mutual

theorem Column.piece_flat : (c : Column) → c.flat.piece = c.piece
  | .field _ _ => rfl
  | .param _ => rfl
  | .list items => by rw [Column.flat, Column.piece, Column.piece, Column.pieces_flat items]
  | .query s => by rw [Column.flat, Column.piece, Column.piece, Select.piece_flat s]
  | .null => rfl
  | .call f c => by rw [Column.flat, Column.piece, Column.piece, Column.piece_flat c]
  termination_by structural x => x

theorem Column.pieces_flat : (cs : List Column) → Column.pieces (Column.flatList cs) = Column.pieces cs
  | [] => rfl
  | c :: cs => by rw [Column.flatList, Column.pieces, Column.pieces, Column.piece_flat c, Column.pieces_flat cs]
  termination_by structural x => x

theorem Predicate.pieceIn_flatIn (within : Option Logical) (op : Logical) (h : ∀ o ∈ within, o = op) :
    (p : Predicate) → (op.nest (p.flatIn within)).pieceIn within = p.pieceIn within
  | .const _ => rfl
  | .compare _ l r => by
    rw [Predicate.flatIn, Logical.nest, Predicate.pieceIn_compare, Predicate.pieceIn_compare, Column.piece_flat l,
      Column.piece_flat r, Column.isNull_flat]
  | .between c l u => by
    rw [Predicate.flatIn, Logical.nest, Predicate.pieceIn, Predicate.pieceIn, Column.piece_flat c, Column.piece_flat l,
      Column.piece_flat u]
  | .raw _ => rfl
  | .and p q => by
    rw [Predicate.flatIn, Predicate.pieceIn_flatChain p.flatIn_ne_nil q.flatIn_ne_nil h, Predicate.pieceIn,
      Predicate.pieceIn_flatIn (some .and) .and (fun _ ho => (Option.some.inj ho).symm) p,
      Predicate.pieceIn_flatIn (some .and) .and (fun _ ho => (Option.some.inj ho).symm) q]
  | .or p q => by
    rw [Predicate.flatIn, Predicate.pieceIn_flatChain p.flatIn_ne_nil q.flatIn_ne_nil h, Predicate.pieceIn,
      Predicate.pieceIn_flatIn (some .or) .or (fun _ ho => (Option.some.inj ho).symm) p,
      Predicate.pieceIn_flatIn (some .or) .or (fun _ ho => (Option.some.inj ho).symm) q]
  | .not p => by
    rw [Predicate.flatIn, Logical.nest, Predicate.pieceIn, Predicate.pieceIn,
      Predicate.pieceIn_flatIn none .and (fun _ ho => absurd ho (Option.not_mem_none _)) p]
  termination_by structural x => x

theorem Table.piece_flat : (t : Table) → t.flat.piece = t.piece
  | .named n a => by rw [Table.flat, Table.piece, Table.piece, namedPiece_flatAlias]
  | .leftJoin l r on => by
    rw [Table.flat, Table.piece, Table.piece, Table.piece_flat l, Table.piece_flat r,
      Predicate.pieceIn_flatIn none .and (fun _ ho => absurd ho (Option.not_mem_none _)) on]
  termination_by structural x => x

theorem OrderTerm.pieces_flat : (os : List OrderTerm) → OrderTerm.pieces (OrderTerm.flatList os) = OrderTerm.pieces os
  | [] => rfl
  | ⟨c, direction⟩ :: os => by
    rw [OrderTerm.flatList, OrderTerm.flat, OrderTerm.pieces, OrderTerm.pieces, OrderTerm.piece, OrderTerm.piece,
      Column.piece_flat c, OrderTerm.pieces_flat os]
  termination_by structural x => x

theorem OrderTerm.clause_flat : (o : Option (List OrderTerm)) →
    OrderTerm.clause (OrderTerm.flatClause o) = OrderTerm.clause o
  | none => rfl
  | some os => by rw [OrderTerm.flatClause, OrderTerm.clause, OrderTerm.clause, OrderTerm.pieces_flat os]
  termination_by structural x => x

theorem Select.piece_flat : (s : Select) → s.flat.piece = s.piece
  | ⟨source, columns, condition, order, limit, offset⟩ => by
    rw [Select.flat, Select.piece, Select.piece, Table.piece_flat source, Column.pieces_flat columns,
      restrictionPiece_flat, OrderTerm.clause_flat order,
      Predicate.pieceIn_flatIn none .and (fun _ ho => absurd ho (Option.not_mem_none _)) condition]
  termination_by structural x => x

end

/-! ## Meaning -/

theorem Logical.both_assoc (op : Logical) (a b c : Truth) : op.both (op.both a b) c = op.both a (op.both b c) := by
  cases op <;> cases a <;> cases b <;> cases c <;> rfl

theorem getD_flatAlias (name : String) (aliasName : Option String) :
    (flatAlias name aliasName).getD name = aliasName.getD name := by
  cases aliasName with
  | none => rfl
  | some a =>
    by_cases h : name = a
    · simp [flatAlias, h]
    · simp [flatAlias, h]

theorem Table.nulls_flat {V : Type} (e : Env V) : (t : Table) → t.flat.nulls e = t.nulls e
  | .named n a => by rw [Table.flat, Table.nulls, Table.nulls, getD_flatAlias]
  | .leftJoin l r _ => by rw [Table.flat, Table.nulls, Table.nulls, Table.nulls_flat e l, Table.nulls_flat _ r]

section

variable {V : Type} [DecidableEq V] {d : Dialect V} {db : Database V}

theorem Predicate.truth_link (op : Logical) (e : Env V) (p q : Predicate) :
    (op.link p q).truth d db e = op.both (p.truth d db e) (q.truth d db e) := by
  cases op <;> rw [Logical.link, Predicate.truth] <;> rfl

theorem Logical.truth_nest_cons (op : Logical) (e : Env V) (p : Predicate) {ps : List Predicate} (h : ps ≠ []) :
    (op.nest (p :: ps)).truth d db e = op.both (p.truth d db e) ((op.nest ps).truth d db e) := by
  obtain ⟨q, qs, rfl⟩ := List.exists_cons_of_ne_nil h
  rw [nest, Predicate.truth_link]

theorem Logical.truth_nest_append (op : Logical) (e : Env V) {ps qs : List Predicate} (hp : ps ≠ []) (hq : qs ≠ []) :
    (op.nest (ps ++ qs)).truth d db e = op.both ((op.nest ps).truth d db e) ((op.nest qs).truth d db e) := by
  induction ps with
  | nil => exact absurd rfl hp
  | cons p ps ih =>
    cases ps with
    | nil => exact op.truth_nest_cons e p hq
    | cons p' ps =>
      have hne : p' :: ps ≠ [] := List.cons_ne_nil p' ps
      rw [List.cons_append, op.truth_nest_cons e p (List.append_ne_nil_of_left_ne_nil hne qs), ih hne,
        op.truth_nest_cons e p hne, op.both_assoc]

/-- A chain has the truth of its operands, wherever it stands. -/
theorem Predicate.truth_flatChain {within : Option Logical} {op op' : Logical} (e : Env V) {ps qs : List Predicate}
    (hp : ps ≠ []) (hq : qs ≠ []) (h : ∀ o ∈ within, o = op') :
    (op'.nest (Logical.flatChain within op (ps ++ qs))).truth d db e =
      op.both ((op.nest ps).truth d db e) ((op.nest qs).truth d db e) := by
  unfold Logical.flatChain
  split
  next hw =>
    obtain rfl := h op hw
    exact op.truth_nest_append e hp hq
  next => exact op.truth_nest_append e hp hq

mutual

theorem Column.cells_flat (e : Env V) : (c : Column) → c.flat.cells d db e = c.cells d db e
  | .field _ _ => rfl
  | .param _ => rfl
  | .list items => by rw [Column.flat, Column.cells, Column.cells, Column.allCells_flat e items]
  | .query s => by rw [Column.flat, Column.cells, Column.cells, Select.results_flat e s]
  | .null => rfl
  | .call f c => by rw [Column.flat, Column.cells, Column.cells, Column.cells_flat e c]
  termination_by structural x => x

theorem Column.allCells_flat (e : Env V) : (cs : List Column) →
    Column.allCells d db e (Column.flatList cs) = Column.allCells d db e cs
  | [] => rfl
  | c :: cs => by
    rw [Column.flatList, Column.allCells, Column.allCells, Column.cells_flat e c, Column.allCells_flat e cs]
  termination_by structural x => x

theorem Predicate.truth_flatIn (e : Env V) (within : Option Logical) (op : Logical) (h : ∀ o ∈ within, o = op) :
    (p : Predicate) → (op.nest (p.flatIn within)).truth d db e = p.truth d db e
  | .const _ => rfl
  | .compare _ l r => by
    rw [Predicate.flatIn, Logical.nest, Predicate.truth, Predicate.truth, Column.cells_flat e l, Column.cells_flat e r,
      Column.isNull_flat]
  | .between c l u => by
    rw [Predicate.flatIn, Logical.nest, Predicate.truth, Predicate.truth, Column.cells_flat e c, Column.cells_flat e l,
      Column.cells_flat e u]
  | .raw _ => rfl
  | .and p q => by
    rw [Predicate.flatIn, Predicate.truth_flatChain e p.flatIn_ne_nil q.flatIn_ne_nil h, Predicate.truth,
      Predicate.truth_flatIn e (some .and) .and (fun _ ho => (Option.some.inj ho).symm) p,
      Predicate.truth_flatIn e (some .and) .and (fun _ ho => (Option.some.inj ho).symm) q]
    rfl
  | .or p q => by
    rw [Predicate.flatIn, Predicate.truth_flatChain e p.flatIn_ne_nil q.flatIn_ne_nil h, Predicate.truth,
      Predicate.truth_flatIn e (some .or) .or (fun _ ho => (Option.some.inj ho).symm) p,
      Predicate.truth_flatIn e (some .or) .or (fun _ ho => (Option.some.inj ho).symm) q]
    rfl
  | .not p => by
    rw [Predicate.flatIn, Logical.nest, Predicate.truth, Predicate.truth,
      Predicate.truth_flatIn e none .and (fun _ ho => absurd ho (Option.not_mem_none _)) p]
  termination_by structural x => x

theorem Table.rows_flat (e : Env V) : (t : Table) → t.flat.rows d db e = t.rows d db e
  | .named n a => by rw [Table.flat, Table.rows, Table.rows, getD_flatAlias]
  | .leftJoin l r on => by
    have hon : (fun y => decide ((Logical.nest .and (on.flatIn none)).truth d db y = .true)) =
        fun y => decide (on.truth d db y = .true) := funext fun y => by
      rw [Predicate.truth_flatIn y none .and (fun _ ho => absurd ho (Option.not_mem_none _)) on]
    rw [Table.flat, Table.rows, Table.rows, Table.rows_flat e l, hon]
    refine congrArg ((l.rows d db e).flatMap ·) (funext fun x => ?_)
    rw [Table.rows_flat x r, Table.nulls_flat]
  termination_by structural x => x

theorem OrderTerm.keys_flat (e : Env V) : (os : List OrderTerm) →
    OrderTerm.keys d db e (OrderTerm.flatList os) = OrderTerm.keys d db e os
  | [] => rfl
  | ⟨c, direction⟩ :: os => by
    rw [OrderTerm.flatList, OrderTerm.flat, OrderTerm.keys, OrderTerm.keys, OrderTerm.key, OrderTerm.key,
      Column.cells_flat e c, OrderTerm.keys_flat e os]
  termination_by structural x => x

theorem OrderTerm.sort_flat (rows : List (Env V)) : (o : Option (List OrderTerm)) →
    OrderTerm.sort d db rows (OrderTerm.flatClause o) = OrderTerm.sort d db rows o
  | none => rfl
  | some os => by
    rw [OrderTerm.flatClause, OrderTerm.sort, OrderTerm.sort]
    refine congrArg (rows.mergeSort ·) (funext fun a => funext fun b => ?_)
    rw [OrderTerm.keys_flat a os, OrderTerm.keys_flat b os]
  termination_by structural x => x

theorem Select.results_flat (e : Env V) : (s : Select) → s.flat.results d db e = s.results d db e
  | ⟨source, columns, condition, order, limit, offset⟩ => by
    have hcondition : (fun y => decide ((Logical.nest .and (condition.flatIn none)).truth d db y = .true)) =
        fun y => decide (condition.truth d db y = .true) := funext fun y => by
      rw [Predicate.truth_flatIn y none .and (fun _ ho => absurd ho (Option.not_mem_none _)) condition]
    rw [Select.flat, Select.results, Select.results, Table.rows_flat e source, hcondition, OrderTerm.sort_flat _ order]
    exact congrArg (List.map · _) (funext fun r => by rw [Column.allCells_flat r columns])
  termination_by structural x => x

end

end

end PathQuery.Sql
