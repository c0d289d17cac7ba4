/-!
# Cutting a text at a separator

* `split` : all pieces between the separators, empty ones included, so there is always one;
* `cut?` : the two sides of the first separator.
-/

namespace PathQuery.Text

/-- The runs of characters between the separators. -/
def pieces (sep : Char) : List Char → List (List Char)
  | [] => [[]]
  | c :: cs =>
    if c = sep then [] :: pieces sep cs
    else
      match pieces sep cs with
      | [] => [[c]]
      | p :: ps => (c :: p) :: ps

theorem pieces_eq_singleton {sep : Char} {cs : List Char} (h : sep ∉ cs) :
    pieces sep cs = [cs] := by
  induction cs with
  | nil => rfl
  | cons c cs ih =>
    simp only [List.mem_cons, not_or] at h
    simp [pieces, ih h.2, Ne.symm h.1]

theorem pieces_append_cons {sep : Char} {cs : List Char} (h : sep ∉ cs) (rest : List Char) :
    pieces sep (cs ++ sep :: rest) = cs :: pieces sep rest := by
  induction cs with
  | nil => simp [pieces]
  | cons c cs ih =>
    simp only [List.mem_cons, not_or] at h
    simp [pieces, ih h.2, Ne.symm h.1]

def split (sep : Char) (s : String) : List String := (pieces sep s.toList).map String.ofList

/-- The characters before and after the first separator, if there is one. -/
def cutChars? (sep : Char) : List Char → Option (List Char × List Char)
  | [] => none
  | c :: cs => if c = sep then some ([], cs) else (cutChars? sep cs).map fun p => (c :: p.1, p.2)

def cut? (sep : Char) (s : String) : Option (String × String) :=
  (cutChars? sep s.toList).map fun p => (String.ofList p.1, String.ofList p.2)

theorem cutChars?_append_cons {sep : Char} {a : List Char} (h : sep ∉ a) (b : List Char) :
    cutChars? sep (a ++ sep :: b) = some (a, b) := by
  induction a with
  | nil => simp [cutChars?]
  | cons c a ih =>
    simp only [List.mem_cons, not_or] at h
    simp [cutChars?, ih h.2, Ne.symm h.1]

theorem cutChars?_eq_some_iff {sep : Char} {cs a b : List Char} :
    cutChars? sep cs = some (a, b) ↔ cs = a ++ sep :: b ∧ sep ∉ a := by
  refine ⟨fun h => ?_, fun ⟨hcs, ha⟩ => hcs ▸ cutChars?_append_cons ha b⟩
  induction cs generalizing a with
  | nil => simp [cutChars?] at h
  | cons c cs ih =>
    by_cases hc : c = sep
    · simp [cutChars?, hc] at h
      obtain ⟨rfl, rfl⟩ := h
      simp [hc]
    · simp only [cutChars?, hc, if_false, Option.map_eq_some_iff, Prod.mk.injEq, Prod.exists] at h
      obtain ⟨p, q, hp, rfl, rfl⟩ := h
      obtain ⟨rfl, hn⟩ := ih hp
      simp [Ne.symm hc, hn]

theorem cutChars?_eq_none_iff {sep : Char} {cs : List Char} : cutChars? sep cs = none ↔ sep ∉ cs := by
  induction cs with
  | nil => simp [cutChars?]
  | cons c cs ih =>
    by_cases hc : c = sep
    · simp [cutChars?, hc]
    · simp [cutChars?, hc, ih, Ne.symm hc]

theorem cut?_eq_some_iff {sep : Char} {s a b : String} :
    cut? sep s = some (a, b) ↔ s.toList = a.toList ++ sep :: b.toList ∧ sep ∉ a.toList := by
  rw [← cutChars?_eq_some_iff, cut?, Option.map_eq_some_iff]
  constructor
  · rintro ⟨p, hp, heq⟩
    obtain ⟨rfl, rfl⟩ := Prod.mk.inj heq
    rw [String.toList_ofList, String.toList_ofList, hp]
  · exact fun h => ⟨_, h, by rw [String.ofList_toList, String.ofList_toList]⟩

theorem cut?_eq_none_iff {sep : Char} {s : String} : cut? sep s = none ↔ sep ∉ s.toList := by
  rw [cut?, Option.map_eq_none_iff, cutChars?_eq_none_iff]

end PathQuery.Text
