import PathQuery.Proofs.Sql.Rename
import PathQuery.Proofs.Sql.Scope
import PathQuery.Sql.Render

/-!
# The parameters of statements

* `Column.params`, `Predicate.params`, `Select.params` : the parameters in a part of a statement, in
  the order in which it is written;
* `Piece.Binds` : whether a piece binds some parameters, behind whatever other parameters it stands;
* `Draft.Binds` : whether a law holds of all parameters of a draft.

The text of a statement binds its parameters (`Select.params_toSql`), and no name of a table has a
part in them (`Select.params_rename`). A law for the parameters of a draft is one for its statement
(`Draft.Binds.toSelect`).
-/

namespace PathQuery.Sql

mutual

def Column.params : Column → List Param
  | .field _ _ => []
  | .param p => [p]
  | .list items => Column.listParams items
  | .query s => s.params
  | .null => []
  | .call _ argument => argument.params

def Column.listParams : List Column → List Param
  | [] => []
  | c :: cs => c.params ++ Column.listParams cs

def Predicate.params : Predicate → List Param
  | .const _ => []
  | .compare _ left right => left.params ++ right.params
  | .between c low high => c.params ++ low.params ++ high.params
  | .raw fragments => Fragment.listParams fragments
  | .and p q => p.params ++ q.params
  | .or p q => p.params ++ q.params
  | .not p => p.params

def Fragment.params : Fragment → List Param
  | .text _ => []
  | .column c => c.params

def Fragment.listParams : List Fragment → List Param
  | [] => []
  | f :: fs => f.params ++ Fragment.listParams fs

def Table.params : Table → List Param
  | .named _ _ => []
  | .leftJoin left right on => left.params ++ right.params ++ on.params

def OrderTerm.params : OrderTerm → List Param
  | ⟨c, _⟩ => c.params

def OrderTerm.listParams : List OrderTerm → List Param
  | [] => []
  | o :: os => o.params ++ OrderTerm.listParams os

def OrderTerm.clauseParams : Option (List OrderTerm) → List Param
  | none => []
  | some os => OrderTerm.listParams os

def Select.params : Select → List Param
  | ⟨source, columns, condition, order, limit, offset⟩ =>
    Column.listParams columns ++ source.params ++ condition.params ++ OrderTerm.clauseParams order ++
      (limit.map Param.int8).toList ++ (offset.map Param.int8).toList

end

/-! ## What pieces bind -/

/-- Whether a piece binds some parameters. -/
def Piece.Binds (p : Piece) (ps : List Param) : Prop := ∀ n, (p.write n).2 = ps

namespace Piece.Binds

variable {p q : Piece} {ps qs : List Param}

theorem lit (s : String) : (Piece.lit s).Binds [] := fun _ => rfl

theorem name (s : String) : (Piece.name s).Binds [] := fun _ => rfl

theorem param (p : Param) : (Piece.param p).Binds [p] := fun _ => rfl

theorem append (hp : p.Binds ps) (hq : q.Binds qs) : (p ++ q).Binds (ps ++ qs) := by
  intro n
  rw [write_append, hp n, hq _]

theorem append_lit (hp : p.Binds ps) (s : String) : (p ++ Piece.lit s).Binds ps := by
  have h := hp.append (lit s)
  rwa [List.append_nil] at h

theorem lit_append (hp : p.Binds ps) (s : String) : (Piece.lit s ++ p).Binds ps := (lit s).append hp

theorem separated_cons (sep : String) (hp : p.Binds ps) {rest : List Piece} (h : (Piece.separated sep rest).Binds qs) :
    (Piece.separated sep (p :: rest)).Binds (ps ++ qs) := by
  cases rest with
  | nil =>
    obtain rfl : [] = qs := h 0
    rw [List.append_nil]
    exact hp
  | cons q rest => exact (hp.append_lit sep).append h

theorem chain (within : Option Logical) (op : Logical) (hp : p.Binds ps) (hq : q.Binds qs) :
    (Sql.chain within op p q).Binds (ps ++ qs) := by
  have hbody : (p ++ Piece.lit (" " ++ op.text ++ " ") ++ q).Binds (ps ++ qs) := (hp.append_lit _).append hq
  unfold Sql.chain
  split
  · exact hbody
  · exact (hbody.lit_append "(").append_lit ")"

/-- A condition that always holds is not written, and binds nothing. -/
theorem restriction {condition : Predicate} (h : p.Binds condition.params) :
    (Sql.clause (restrictionPiece condition p)).Binds condition.params := by
  unfold restrictionPiece
  split
  · exact lit ""
  · exact (h.lit_append _).lit_append _

theorem window (piece : Int64 → Piece) (h : ∀ n, (piece n).Binds [.int8 n]) (o : Option Int64) :
    (Sql.clause (o.map piece)).Binds (o.map Param.int8).toList := by
  cases o with
  | none => exact lit ""
  | some n => exact (h n).lit_append _

theorem selected {pieces : List Piece} (h : (Piece.separated ", " pieces).Binds ps) :
    (selectedPiece pieces).Binds ps := by
  cases pieces with
  | nil => exact h
  | cons p rest => exact h

theorem named (name : String) (aliasName : Option String) : (namedPiece name aliasName).Binds [] := by
  unfold namedPiece
  split
  · split
    · exact Binds.name _
    · exact ((Binds.name _).append_lit _).append (Binds.name _)
  · exact Binds.name _

end Piece.Binds

/-! ## The text of a statement -/

open Piece (Binds)

mutual

theorem Column.binds_piece : (c : Column) → c.piece.Binds c.params
  | .field table name => by
    rw [Column.piece, Column.params]
    exact ((Binds.name table).append_lit ".").append (Binds.name name)
  | .param p => by
    rw [Column.piece, Column.params]
    exact .param p
  | .list items => by
    rw [Column.piece, Column.params]
    exact ((Column.binds_pieces items).lit_append "(").append_lit ")"
  | .query s => by
    rw [Column.piece, Column.params]
    exact ((Select.binds_piece s).lit_append "(").append_lit ")"
  | .null => by
    rw [Column.piece, Column.params]
    exact .lit _
  | .call function argument => by
    rw [Column.piece, Column.params]
    exact ((((Binds.lit function).append_lit "(").append (Column.binds_piece argument))).append_lit ")"

theorem Column.binds_pieces : (cs : List Column) →
    (Piece.separated ", " (Column.pieces cs)).Binds (Column.listParams cs)
  | [] => .lit ""
  | c :: cs => (Column.binds_piece c).separated_cons ", " (Column.binds_pieces cs)

theorem Predicate.binds_piece (within : Option Logical) : (p : Predicate) → (p.pieceIn within).Binds p.params
  | .const true => .lit _
  | .const false => .lit _
  | .compare op left right => by
    have hl := Column.binds_piece left
    have hr := Column.binds_piece right
    rw [Predicate.params]
    unfold Predicate.pieceIn
    split
    next h => exact Predicate.noConfusion h
    next h => exact Predicate.noConfusion h
    next h =>
      obtain ⟨-, rfl, rfl⟩ := Predicate.compare.inj h
      rw [Column.params, List.append_nil]
      exact hl.append_lit _
    next h =>
      obtain ⟨-, rfl, rfl⟩ := Predicate.compare.inj h
      rw [Column.params, List.append_nil]
      exact hl.append_lit _
    next h =>
      obtain ⟨-, rfl, rfl⟩ := Predicate.compare.inj h
      exact (hl.append_lit _).append hr
    all_goals rename_i h; exact Predicate.noConfusion h
  | .between c low high => by
    rw [Predicate.pieceIn, Predicate.params]
    exact ((((Column.binds_piece c).append_lit _).append (Column.binds_piece low)).append_lit _).append
      (Column.binds_piece high)
  | .raw fragments => by
    rw [Predicate.pieceIn, Predicate.params]
    exact Fragment.binds_piece fragments
  | .and p q => by
    rw [Predicate.pieceIn, Predicate.params]
    exact (Predicate.binds_piece _ p).chain within .and (Predicate.binds_piece _ q)
  | .or p q => by
    rw [Predicate.pieceIn, Predicate.params]
    exact (Predicate.binds_piece _ p).chain within .or (Predicate.binds_piece _ q)
  | .not p => by
    rw [Predicate.pieceIn, Predicate.params]
    exact ((Predicate.binds_piece none p).lit_append _).append_lit _

theorem Fragment.binds_piece : (fs : List Fragment) → (Fragment.piece fs).Binds (Fragment.listParams fs)
  | [] => .lit ""
  | .text s :: rest => by
    rw [Fragment.piece, Fragment.listParams, Fragment.params]
    exact (Fragment.binds_piece rest).lit_append s
  | .column c :: rest => by
    rw [Fragment.piece, Fragment.listParams, Fragment.params]
    exact (Column.binds_piece c).append (Fragment.binds_piece rest)

theorem Table.binds_piece : (t : Table) → t.piece.Binds t.params
  | .named name aliasName => .named name aliasName
  | .leftJoin left right on => by
    rw [Table.piece, Table.params]
    exact ((((Table.binds_piece left).append_lit _).append (Table.binds_piece right)).append_lit _).append
      (Predicate.binds_piece none on)

theorem OrderTerm.binds_piece : (o : OrderTerm) → o.piece.Binds o.params
  | ⟨c, direction⟩ => by
    rw [OrderTerm.piece, OrderTerm.params]
    exact (Column.binds_piece c).append_lit _

theorem OrderTerm.binds_pieces : (os : List OrderTerm) →
    (Piece.separated ", " (OrderTerm.pieces os)).Binds (OrderTerm.listParams os)
  | [] => .lit ""
  | o :: os => (OrderTerm.binds_piece o).separated_cons ", " (OrderTerm.binds_pieces os)

theorem OrderTerm.binds_clause : (o : Option (List OrderTerm)) →
    (clause (OrderTerm.clause o)).Binds (OrderTerm.clauseParams o)
  | none => .lit ""
  | some os => ((OrderTerm.binds_pieces os).lit_append _).lit_append _

theorem Select.binds_piece : (s : Select) → s.piece.Binds s.params
  | ⟨source, columns, condition, order, limit, offset⟩ => by
    rw [Select.piece, Select.params]
    have hcolumns := ((Column.binds_pieces columns).selected).lit_append "SELECT "
    have hsource := (hcolumns.append_lit " FROM ").append (Table.binds_piece source)
    have hcondition := hsource.append (Predicate.binds_piece none condition).restriction
    have hlimit := Binds.window limitPiece (fun n => (Binds.param (.int8 n)).lit_append "LIMIT ") limit
    have hoffset := Binds.window offsetPiece (fun n => (Binds.param (.int8 n)).lit_append "OFFSET ") offset
    exact ((hcondition.append (OrderTerm.binds_clause order)).append hlimit).append hoffset

end

/-- A statement binds its parameters, in the order in which it is written. -/
theorem Select.params_toSql (s : Select) : s.toSql.params = s.params := by
  show [] ++ (s.piece.write 0).2 = s.params
  rw [List.nil_append, s.binds_piece 0]

/-! ## Other names -/

section

variable {ρ : String → String}

mutual

theorem Column.params_rename : (c : Column) → (c.rename ρ).params = c.params
  | .field _ _ => by rw [Column.rename, Column.params, Column.params]
  | .param _ | .null => by rw [Column.rename]
  | .list items => by rw [Column.rename, Column.params, Column.params, Column.listParams_renameAll items]
  | .query s => by rw [Column.rename, Column.params, Column.params, Select.params_rename s]
  | .call _ argument => by rw [Column.rename, Column.params, Column.params, Column.params_rename argument]

theorem Column.listParams_renameAll : (cs : List Column) →
    Column.listParams (Column.renameAll ρ cs) = Column.listParams cs
  | [] => rfl
  | c :: cs => by
    rw [Column.renameAll, Column.listParams, Column.listParams, Column.params_rename c, Column.listParams_renameAll cs]

theorem Predicate.params_rename (p : Predicate) : (p.rename ρ).params = p.params := by
  cases p with
  | const _ => rw [Predicate.rename]
  | compare _ left right =>
    rw [Predicate.rename, Predicate.params, Predicate.params, Column.params_rename left, Column.params_rename right]
  | between c low high =>
    rw [Predicate.rename, Predicate.params, Predicate.params, Column.params_rename c, Column.params_rename low,
      Column.params_rename high]
  | raw fragments => rw [Predicate.rename, Predicate.params, Predicate.params, Fragment.listParams_renameAll fragments]
  | and p q | or p q =>
    rw [Predicate.rename, Predicate.params, Predicate.params, Predicate.params_rename p, Predicate.params_rename q]
  | not p => rw [Predicate.rename, Predicate.params, Predicate.params, Predicate.params_rename p]

theorem Fragment.params_rename : (f : Fragment) → (f.rename ρ).params = f.params
  | .text _ => by rw [Fragment.rename]
  | .column c => by rw [Fragment.rename, Fragment.params, Fragment.params, Column.params_rename c]

theorem Fragment.listParams_renameAll : (fs : List Fragment) →
    Fragment.listParams (Fragment.renameAll ρ fs) = Fragment.listParams fs
  | [] => rfl
  | f :: fs => by
    rw [Fragment.renameAll, Fragment.listParams, Fragment.listParams, Fragment.params_rename f,
      Fragment.listParams_renameAll fs]

theorem Table.params_rename : (t : Table) → (t.rename ρ).params = t.params
  | .named _ _ => by rw [Table.rename, Table.params, Table.params]
  | .leftJoin left right on => by
    rw [Table.rename, Table.params, Table.params, Table.params_rename left, Table.params_rename right,
      Predicate.params_rename on]

theorem OrderTerm.params_rename : (o : OrderTerm) → (o.rename ρ).params = o.params
  | ⟨c, _⟩ => by rw [OrderTerm.rename, OrderTerm.params, OrderTerm.params, Column.params_rename c]

theorem OrderTerm.listParams_renameAll : (os : List OrderTerm) →
    OrderTerm.listParams (OrderTerm.renameAll ρ os) = OrderTerm.listParams os
  | [] => rfl
  | o :: os => by
    rw [OrderTerm.renameAll, OrderTerm.listParams, OrderTerm.listParams, OrderTerm.params_rename o,
      OrderTerm.listParams_renameAll os]

theorem OrderTerm.clauseParams_renameClause : (o : Option (List OrderTerm)) →
    OrderTerm.clauseParams (OrderTerm.renameClause ρ o) = OrderTerm.clauseParams o
  | none => rfl
  | some os => by
    rw [OrderTerm.renameClause, OrderTerm.clauseParams, OrderTerm.clauseParams, OrderTerm.listParams_renameAll os]

theorem Select.params_rename : (s : Select) → (s.rename ρ).params = s.params
  | ⟨source, columns, condition, order, _, _⟩ => by
    rw [Select.rename, Select.params, Select.params, Table.params_rename source, Column.listParams_renameAll columns,
      Predicate.params_rename condition, OrderTerm.clauseParams_renameClause order]

end

end

/-! ## Laws for parameters -/

theorem OrderTerm.listParams_eq_nil {os : List OrderTerm} (h : ∀ o ∈ os, o.column.params = []) :
    OrderTerm.listParams os = [] := by
  induction os with
  | nil => rfl
  | cons o os ih =>
    obtain ⟨column, direction⟩ := o
    obtain ⟨ho, hos⟩ := List.forall_mem_cons.1 h
    rw [listParams, params, ho, ih hos, List.append_nil]

theorem Column.listParams_map_param (ps : List Param) : Column.listParams (ps.map .param) = ps := by
  induction ps with
  | nil => rfl
  | cons p ps ih => rw [List.map_cons, listParams, ih]; rfl

theorem Fragment.exists_of_mem_listParams {v : Param} (fs : List Fragment) (hv : v ∈ Fragment.listParams fs) :
    ∃ c, .column c ∈ fs ∧ v ∈ c.params := by
  induction fs with
  | nil => exact absurd hv List.not_mem_nil
  | cons f fs ih =>
    rw [listParams] at hv
    rcases List.mem_append.1 hv with hv | hv
    · cases f with
      | text s => exact absurd hv List.not_mem_nil
      | column c => exact ⟨c, List.mem_cons_self, hv⟩
    · obtain ⟨c, hc, hv⟩ := ih hv
      exact ⟨c, List.mem_cons_of_mem _ hc, hv⟩

theorem Predicate.closed_params (law : Param → Prop) : Closed fun p => ∀ v ∈ p.params, law v :=
  .forall_mem (fun _ => rfl) (fun _ _ => rfl) (fun _ _ => rfl) law

theorem params_joined {law : Param → Prop} {root : String} {js : List Join} (h : ∀ j ∈ js, ∀ v ∈ j.on.params, law v) :
    ∀ v ∈ (joined root js).params, law v := by
  induction js using List.reverseRecOn with
  | nil => exact List.forall_mem_nil _
  | append_singleton js j ih =>
    obtain ⟨hjs, hj⟩ := List.forall_mem_append.1 h
    rw [joined_append, Table.params]
    simp only [List.forall_mem_append]
    exact ⟨⟨ih hjs, List.forall_mem_nil _⟩, List.forall_mem_singleton.1 hj⟩

namespace Draft

/-- Whether a law holds of all parameters of a draft. -/
structure Binds (law : Param → Prop) (d : Draft) : Prop where
  columns : ∀ v ∈ Column.listParams d.columns, law v
  joins : ∀ j ∈ d.joins, ∀ v ∈ j.on.params, law v
  condition : ∀ p ∈ d.condition, ∀ v ∈ p.params, law v
  order : ∀ v ∈ OrderTerm.listParams d.order, law v
  limit : ∀ n ∈ d.limit, law (.int8 n)
  offset : ∀ n ∈ d.offset, law (.int8 n)

variable {law : Param → Prop} {d : Draft}

theorem Binds.andWhere (h : d.Binds law) {p : Predicate} (hp : ∀ v ∈ p.params, law v) : (d.andWhere p).Binds law := by
  refine { h with condition := ?_ }
  rintro _ ⟨⟩
  exact (Predicate.closed_params law).extend h.condition hp

/-- A law for the parameters of a draft is one for those of its statement. -/
theorem Binds.toSelect (h : d.Binds law) : ∀ v ∈ d.toSelect.params, law v := by
  have hcondition : ∀ v ∈ (d.condition.getD (.const true)).params, law v :=
    (Predicate.closed_params law).getD h.condition true
  have horder : ∀ v ∈ OrderTerm.clauseParams (if d.order.isEmpty then none else some d.order), law v := by
    split
    · exact List.forall_mem_nil _
    · exact h.order
  have hwindow {o : Option Int64} (ho : ∀ n ∈ o, law (.int8 n)) : ∀ v ∈ (o.map Param.int8).toList, law v := by
    intro v hv
    obtain ⟨n, hn, rfl⟩ := Option.map_eq_some_iff.1 (Option.mem_toList.1 hv)
    exact ho n hn
  rw [Draft.toSelect, Select.params]
  simp only [List.forall_mem_append]
  exact ⟨⟨⟨⟨⟨h.columns, params_joined h.joins⟩, hcondition⟩, horder⟩, hwindow h.limit⟩, hwindow h.offset⟩

theorem Binds.addJoins {js : List Join} (h : d.Binds law) (hjs : ∀ j ∈ js, ∀ v ∈ j.on.params, law v) :
    (js.foldl Draft.addJoin d).Binds law := by
  induction js generalizing d with
  | nil => exact h
  | cons j js ih =>
    refine ih ?_ fun k hk => hjs k (List.mem_cons_of_mem _ hk)
    unfold Draft.addJoin
    split
    · exact h
    · refine { h with joins := ?_ }
      exact List.forall_mem_append.2 ⟨h.joins, List.forall_mem_singleton.2 (hjs j List.mem_cons_self)⟩

theorem binds_new (table : String) : (Draft.new table).Binds law where
  columns := List.forall_mem_nil _
  joins := List.forall_mem_nil _
  condition := fun p hp => absurd hp (Option.not_mem_none p)
  order := List.forall_mem_nil _
  limit := fun n hn => absurd hn (Option.not_mem_none n)
  offset := fun n hn => absurd hn (Option.not_mem_none n)

end Draft

end PathQuery.Sql
