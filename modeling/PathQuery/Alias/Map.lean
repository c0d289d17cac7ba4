import PathQuery.Alias.Source

/-!
# Aliases by path

While a filter is compiled, every path that is joined gets an alias of its own. `AliasMap` keeps the
aliases handed out and the names that may not be: those of the aliases and those reserved.
-/

namespace PathQuery

/-- The keys that lead from the collection of a pass to a joined table. -/
abbrev Path := List String

/-- The aliases of paths, last one first, and the names in use. -/
structure AliasMap where
  entries : List (Path × String)
  used : List String

namespace AliasMap

def empty : AliasMap := ⟨[], []⟩

/-- Keeps a name from being handed out. -/
def reserve (m : AliasMap) (name : String) : AliasMap := { m with used := name :: m.used }

def lookup? (m : AliasMap) (path : Path) : Option String := m.entries.lookup path

/-- The name of the table that a path reaches: the alias of the path, or the collection's own
name. -/
def tableFor (m : AliasMap) (path : Path) (collection : String) : String :=
  if path.isEmpty then collection else (m.lookup? path).getD collection

def record (m : AliasMap) (path : Path) (aliasName : String) : AliasMap :=
  ⟨(path, aliasName) :: m.entries, aliasName :: m.used⟩

/-- The alias of a path, drawn from the source at place `n` if it has none; the map and the place
after that. -/
def allocate (m : AliasMap) (source : AliasSource) (path : Path) (n : Nat) :
    String × AliasMap × Nat :=
  match m.lookup? path with
  | some aliasName => (aliasName, m, n)
  | none =>
    let (aliasName, n) := source.draw m.used n
    (aliasName, m.record path aliasName, n)

@[simp] theorem lookup?_empty (path : Path) : empty.lookup? path = none := rfl

@[simp] theorem lookup?_reserve (m : AliasMap) (name : String) (path : Path) :
    (m.reserve name).lookup? path = m.lookup? path := rfl

theorem lookup?_record (m : AliasMap) (path other : Path) (aliasName : String) :
    (m.record path aliasName).lookup? other = if other = path then some aliasName else m.lookup? other := by
  simp only [record, lookup?, List.lookup_cons]
  by_cases h : other = path
  · subst h; simp
  · have hb : (other == path) = false := beq_false_of_ne h
    simp [h, hb]

theorem eq_or_of_lookup?_record {m : AliasMap} {path other : Path} {aliasName a : String}
    (h : (m.record path aliasName).lookup? other = some a) :
    (other = path ∧ a = aliasName) ∨ m.lookup? other = some a := by
  rw [lookup?_record] at h
  split at h
  next heq => exact .inl ⟨heq, (Option.some.inj h).symm⟩
  next => exact .inr h

end AliasMap

end PathQuery
