/-!
# Values by name

* `insertEntry` : an entry more, which takes the place of the one with its name;
* `Named` : values under different names, in the order in which the names came first.
-/

namespace PathQuery

variable {α β : Type}

/-- Adds an entry at the end, or replaces the value where the name stands already. -/
def insertEntry (name : String) (value : α) : List (String × α) → List (String × α)
  | [] => [(name, value)]
  | (n, v) :: rest => if n = name then (n, value) :: rest else (n, v) :: insertEntry name value rest

theorem map_fst_insertEntry (name : String) (value : α) (l : List (String × α)) :
    (insertEntry name value l).map Prod.fst =
      if name ∈ l.map Prod.fst then l.map Prod.fst else l.map Prod.fst ++ [name] := by
  induction l with
  | nil => rfl
  | cons entry l ih =>
    rw [insertEntry]
    by_cases h : entry.1 = name
    · simp [h]
    · rw [if_neg h, List.map_cons, ih]
      simp only [List.map_cons, List.mem_cons, Ne.symm h, false_or]
      split <;> rfl

theorem nodup_insertEntry (name : String) (value : α) {l : List (String × α)} (h : (l.map Prod.fst).Nodup) :
    ((insertEntry name value l).map Prod.fst).Nodup := by
  rw [map_fst_insertEntry]
  split
  next => exact h
  next hnew =>
    refine List.nodup_append.2 ⟨h, by simp, fun n hn n' hn' heq => ?_⟩
    obtain rfl := List.mem_singleton.1 hn'
    exact hnew (heq ▸ hn)

/-- Values under different names, in order. -/
structure Named (α : Type) where
  entries : List (String × α)
  distinct : (entries.map Prod.fst).Nodup := by decide
  deriving DecidableEq, Repr

namespace Named

def empty : Named α := ⟨[], List.nodup_nil⟩

def insert (m : Named α) (name : String) (value : α) : Named α :=
  ⟨insertEntry name value m.entries, nodup_insertEntry name value m.distinct⟩

def find? (m : Named α) (name : String) : Option α := m.entries.lookup name

def map (m : Named α) (f : String × α → β) : List β := m.entries.map f

/-- Each entry is the one that its name finds. -/
theorem find?_eq_some_iff {m : Named α} {name : String} {a : α} :
    m.find? name = some a ↔ (name, a) ∈ m.entries := by
  rw [find?, List.lookup_eq_some_iff]
  constructor
  · rintro ⟨before, after, heq, -⟩
    exact heq ▸ List.mem_append_right _ List.mem_cons_self
  · intro h
    obtain ⟨before, after, heq⟩ := List.append_of_mem h
    refine ⟨before, after, heq, fun p hp => bne_iff_ne.2 fun hname => ?_⟩
    have hdistinct := m.distinct
    rw [heq, List.map_append, List.map_cons] at hdistinct
    exact (List.nodup_append.1 hdistinct).2.2 p.1 (List.mem_map_of_mem hp) name List.mem_cons_self hname.symm

end Named

end PathQuery
