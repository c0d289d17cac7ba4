import PathQuery.Proofs.Sql.Reading
import PathQuery.Proofs.Sql.RoundTrip

/-!
# The text tells statements apart

The tokens of a text and the parameters that it binds come to one list of symbols, which is read
back as one flat statement, and a flat statement has the text of the statement. So readable
statements have one text and one list of parameters exactly if they are the same, flat
(`Select.toSql_eq_iff_flat_eq`), and no two statements of different results share theirs.
-/

namespace PathQuery.Sql

/-- Numbered symbols are told apart by their tokens and their parameters. -/
theorem Symbol.eq_of_number_eq {n : Nat} {ss ts : List Symbol} (hn : number n ss = number n ts)
    (hp : params ss = params ts) : ss = ts := by
  induction ss generalizing n ts with
  | nil =>
    cases ts with
    | nil => rfl
    | cons t ts => cases t <;> exact absurd hn (by simp [number])
  | cons s ss ih =>
    cases ts with
    | nil => cases s <;> exact absurd hn (by simp [number])
    | cons t ts =>
      cases s <;> cases t <;> simp only [number, List.cons.injEq, reduceCtorEq, false_and, Token.name.injEq,
        Token.word.injEq, Token.mark.injEq, true_and] at hn
      case name.name => rw [hn.1, ih hn.2 hp]
      case word.word => rw [hn.1, ih hn.2 hp]
      case mark.mark => rw [hn.1, ih hn.2 hp]
      case param.param p q =>
        obtain ⟨rfl, hps⟩ := List.cons.inj hp
        rw [ih hn hps]

namespace Select

variable {s t : Select}

/-- The text and the parameters of a plain statement give away its symbols. -/
theorem symbols_eq_of_toSql_eq (hs : s.isPlain isLetters = true) (ht : t.isPlain isLetters = true)
    (h : s.toSql = t.toSql) : s.symbols = t.symbols := by
  obtain ⟨hsp, hsr⟩ := spells s hs 0
  obtain ⟨htp, htr⟩ := spells t ht 0
  have htext : (s.piece.write 0).1 = (t.piece.write 0).1 := congrArg SqlText.text h
  have hparams : (s.piece.write 0).2 = (t.piece.write 0).2 := congrArg SqlText.params h
  rw [htext, htr] at hsr
  exact (Symbol.eq_of_number_eq (Option.some.inj hsr) (by rw [← hsp, ← htp, hparams])).symm

theorem toSql_flat (s : Select) : s.flat.toSql = s.toSql := congrArg Piece.toSql (piece_flat s)

/-- Readable statements have one text and one list of parameters exactly if they differ in nothing
but how chains are nested and aliases that are names of tables, and then they have the same results
in every database. -/
theorem toSql_eq_iff_flat_eq (hs : s.isPlain isFunction = true) (ht : t.isPlain isFunction = true) :
    (s.toSql = t.toSql ↔ s.flat = t.flat) ∧
      (s.toSql = t.toSql → ∀ (V : Type) [DecidableEq V] (d : Dialect V) (db : Database V) (e : Env V),
        s.results d db e = t.results d db e) := by
  have hflat (h : s.toSql = t.toSql) : s.flat = t.flat := by
    have hsymbols := symbols_eq_of_toSql_eq (isPlain_mono isLetters_of_isFunction s hs)
      (isPlain_mono isLetters_of_isFunction t ht) h
    have hps := parsed s hs s.symbols.length [] (Nat.le_refl _) (.inl rfl)
    have hpt := parsed t ht s.symbols.length [] (Nat.le_of_eq (congrArg List.length hsymbols.symm)) (.inl rfl)
    rw [← hsymbols, hps] at hpt
    exact congrArg Prod.fst (Option.some.inj hpt)
  refine ⟨⟨hflat, fun h => ?_⟩, fun h V _ d db e => ?_⟩
  · rw [← toSql_flat s, h, toSql_flat]
  · rw [← results_flat e s, hflat h, results_flat e t]

/-- Three conditions nested to the left, of a table that is called by its own name, and nested to
the right. -/
theorem toSql_eq_of_nested :
    let test (name : String) : Predicate := .compare .eq (.field "users" name) (.param (.text "Ann"))
    let left : Select :=
      ⟨.named "users" (some "users"), [], .and (.and (test "first") (test "last")) (test "nick"), none, none, none⟩
    let right : Select :=
      ⟨.named "users" none, [], .and (test "first") (.and (test "last") (test "nick")), none, none, none⟩
    left ≠ right ∧ left.isPlain isFunction = true ∧ right.isPlain isFunction = true ∧ left.toSql = right.toSql ∧
      left.flat = right.flat ∧ ∀ (V : Type) [DecidableEq V] (d : Dialect V) (db : Database V) (e : Env V),
        left.results d db e = right.results d db e := by
  intro test left right
  have hleft : left.isPlain isFunction = true := by decide
  have hright : right.isPlain isFunction = true := by decide
  obtain ⟨hiff, hresults⟩ := toSql_eq_iff_flat_eq hleft hright
  have hflat : left.flat = right.flat := rfl
  have hsql : left.toSql = right.toSql := hiff.2 hflat
  exact ⟨by simp [left, right], hleft, hright, hsql, hflat, hresults hsql⟩

end Select

end PathQuery.Sql
