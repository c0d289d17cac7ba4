import PathQuery.Filter.Reader
import PathQuery.Proofs.Outcome

/-!
# Filters that are read

`Filter.Entry` says what node an entry of an object comes to, by one rule for each kind of key;
entries are read one by one (`exists_of_readEntries`).
-/

namespace PathQuery.Filter

/-- The node of an entry that is read; `root` says that no field stands above it. -/
inductive Entry (root : Bool) : String → Json → Node → Prop where
  | group {key op values children} (hk : Key.of key = .group op)
      (hchildren : readChildren root values = .ok children) :
      Entry root key (.array values) (.group op children)
  | comparison {key token op operand} (hk : Key.of key = .operator token)
      (ho : Operator.ofToken? token = some op) (hroot : root = false) :
      Entry root key operand (.comparison op operand)
  | field {key entries nested} (hk : Key.of key = .field)
      (hnested : read false (.object entries) = .ok nested) :
      Entry root key (.object entries) (.field (.ofKey key) nested)
  | column {key operand} (hk : Key.of key = .field) (ho : ∀ entries, operand ≠ .object entries) :
      Entry root key operand (.field (.ofKey key) [.comparison .eq operand])

variable {root : Bool}

theorem exists_of_readComparison {token : String} {operand : Json} {node : Node}
    (h : readComparison root token operand = .ok node) :
    ∃ op, Operator.ofToken? token = some op ∧ root = false ∧ node = .comparison op operand := by
  unfold readComparison at h
  split at h
  next => exact absurd h (by simp)
  next op ho =>
    split at h
    next => exact absurd h (by simp)
    next hr => exact ⟨op, ho, Bool.eq_false_iff.2 hr, (Except.ok.inj h).symm⟩

theorem exists_of_readEntries_tail {rest : List (String × Json)} {node : Node} {nodes : List Node}
    (h : (readEntries root rest >>= fun ns => pure (node :: ns)) = .ok nodes) :
    ∃ ns, readEntries root rest = .ok ns ∧ nodes = node :: ns := by
  obtain ⟨ns, hns, h⟩ := exists_of_bind_eq_ok h
  exact ⟨ns, hns, (Except.ok.inj h).symm⟩

theorem exists_of_readEntries {key : String} {value : Json} {rest : List (String × Json)} {nodes : List Node}
    (h : readEntries root ((key, value) :: rest) = .ok nodes) :
    ∃ node ns, Entry root key value node ∧ readEntries root rest = .ok ns ∧ nodes = node :: ns := by
  by_cases hv : ∃ entries, value = .object entries
  · obtain ⟨entries, rfl⟩ := hv
    rw [readEntries] at h
    split at h
    next => exact absurd h (by simp [bind, Except.bind])
    next token hk =>
      obtain ⟨node, hn, h⟩ := exists_of_bind_eq_ok h
      obtain ⟨op, ho, hr, rfl⟩ := exists_of_readComparison hn
      obtain ⟨ns, hns, rfl⟩ := exists_of_readEntries_tail h
      exact ⟨_, ns, .comparison hk ho hr, hns, rfl⟩
    next hk =>
      obtain ⟨nested, hn, h⟩ := exists_of_bind_eq_ok h
      obtain ⟨ns, hns, rfl⟩ := exists_of_readEntries_tail h
      exact ⟨_, ns, .field hk hn, hns, rfl⟩
  · have hv (entries : List (String × Json)) (hn : value = .object entries) : False := hv ⟨entries, hn⟩
    rw [readEntries] at h
    · split at h
      next op hk =>
        split at h
        next values =>
          obtain ⟨children, hc, h⟩ := exists_of_bind_eq_ok h
          obtain ⟨ns, hns, rfl⟩ := exists_of_readEntries_tail h
          exact ⟨_, ns, .group hk hc, hns, rfl⟩
        next => exact absurd h (by simp [bind, Except.bind])
      next token hk =>
        obtain ⟨node, hn, h⟩ := exists_of_bind_eq_ok h
        obtain ⟨op, ho, hr, rfl⟩ := exists_of_readComparison hn
        obtain ⟨ns, hns, rfl⟩ := exists_of_readEntries_tail h
        exact ⟨_, ns, .comparison hk ho hr, hns, rfl⟩
      next hk =>
        obtain ⟨ns, hns, rfl⟩ := exists_of_readEntries_tail h
        exact ⟨_, ns, .column hk hv, hns, rfl⟩
    · exact hv

end PathQuery.Filter
