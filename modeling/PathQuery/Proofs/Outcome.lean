/-!
# Computations that succeed and fail

`exists_of_bind_eq_ok` takes a computation with a result apart, one step at a time, and
`error_of_bind_eq_error` one without. An error is that of a step that can fail:
`error_of_bind_pure_eq_error`, `exists_of_mapM_eq_error`. The results of a list of computations are
those of its members (`exists_of_mem_mapM`).

`Keeps` compares two computations of which the second has a result wherever the first has it, and
`Agree` two that fail with the same error or have results in a relation.
-/

namespace PathQuery

/-- A computation with a result has one at its first step, and goes on from it. -/
theorem exists_of_bind_eq_ok {ε α β : Type} {x : Except ε α} {f : α → Except ε β} {b : β}
    (h : (x >>= f) = .ok b) : ∃ a, x = .ok a ∧ f a = .ok b :=
  match x, h with
  | .ok a, h => ⟨a, rfl, h⟩

/-- A computation without a result fails at its first step or goes on from it and fails later. -/
theorem error_of_bind_eq_error {ε α β : Type} {x : Except ε α} {f : α → Except ε β} {e : ε}
    (h : (x >>= f) = .error e) : x = .error e ∨ ∃ a, x = .ok a ∧ f a = .error e :=
  match x, h with
  | .ok a, h => .inr ⟨a, rfl, h⟩
  | .error _, h => .inl (congrArg Except.error (Except.error.inj h))

theorem exists_of_map_eq_ok {ε α β : Type} {x : Except ε α} {f : α → β} {b : β} (h : x.map f = .ok b) :
    ∃ a, x = .ok a ∧ f a = b :=
  match x, h with
  | .ok a, h => ⟨a, rfl, Except.ok.inj h⟩

theorem toOption_eq_some_iff {ε α : Type} {x : Except ε α} {a : α} : x.toOption = some a ↔ x = .ok a :=
  match x with
  | .ok _ => ⟨fun h => congrArg Except.ok (Option.some.inj h), fun h => congrArg some (Except.ok.inj h)⟩
  | .error _ => ⟨nofun, nofun⟩

theorem eq_ok_of_mapError {ε ε' α : Type} {x : Except ε α} {f : ε → ε'} {a : α} (h : x.mapError f = .ok a) :
    x = .ok a :=
  match x, h with
  | .ok _, h => congrArg Except.ok (Except.ok.inj h)

theorem pure_ne_error {ε α : Type} {a : α} {e : ε} : (pure a : Except ε α) ≠ .error e := nofun

/-- What only becomes of a result does not fail. -/
theorem error_of_bind_pure_eq_error {ε α β : Type} {x : Except ε α} {f : α → β} {e : ε}
    (h : (x >>= fun a => pure (f a)) = .error e) : x = .error e :=
  match x, h with
  | .error _, h => congrArg Except.error (Except.error.inj h)

/-- Every result of a list of computations is the result of one of them. -/
theorem exists_of_mem_mapM {ε α β : Type} {f : α → Except ε β} (l : List α) {bs : List β}
    (h : l.mapM f = .ok bs) : ∀ b ∈ bs, ∃ a ∈ l, f a = .ok b := by
  induction l generalizing bs with
  | nil =>
    obtain rfl := Except.ok.inj h
    exact fun b hb => absurd hb List.not_mem_nil
  | cons a l ih =>
    rw [List.mapM_cons] at h
    obtain ⟨b, hb, h⟩ := exists_of_bind_eq_ok h
    obtain ⟨cs, hcs, h⟩ := exists_of_bind_eq_ok h
    obtain rfl := Except.ok.inj h
    intro x hx
    rcases List.mem_cons.1 hx with rfl | hx
    · exact ⟨a, List.mem_cons_self, hb⟩
    · obtain ⟨y, hy, hf⟩ := ih hcs x hx
      exact ⟨y, List.mem_cons_of_mem a hy, hf⟩

/-- A list of computations fails at one of them. -/
theorem exists_of_mapM_eq_error {ε α β : Type} {f : α → Except ε β} (l : List α) {e : ε}
    (h : l.mapM f = .error e) : ∃ a ∈ l, f a = .error e := by
  induction l with
  | nil => exact absurd h pure_ne_error
  | cons a l ih =>
    rw [List.mapM_cons] at h
    rcases error_of_bind_eq_error h with h | ⟨b, -, h⟩
    · exact ⟨a, List.mem_cons_self, h⟩
    · obtain ⟨a', ha', hf⟩ := ih (error_of_bind_pure_eq_error h)
      exact ⟨a', List.mem_cons_of_mem a ha', hf⟩

/-- A list of computations fails at the first of them that does. -/
theorem mapM_append_eq_error {ε α β : Type} {f : α → Except ε β} {before after : List α} {a : α} {bs : List β} {e : ε}
    (hbefore : before.mapM f = .ok bs) (ha : f a = .error e) : (before ++ a :: after).mapM f = .error e := by
  rw [List.mapM_append, hbefore, List.mapM_cons, ha]
  rfl

/-- Whether a computation comes to the result of another one, if that has a result. -/
def Keeps {ε α : Type} (x y : Except ε α) : Prop := ∀ a, x = .ok a → y = .ok a

namespace Keeps

variable {ε α β : Type} {x y : Except ε α}

theorem refl (x : Except ε α) : Keeps x x := fun _ h => h

theorem bind {f g : α → Except ε β} (hx : Keeps x y) (hf : ∀ a, x = .ok a → Keeps (f a) (g a)) :
    Keeps (x >>= f) (y >>= g) := by
  intro b h
  obtain ⟨a, ha, h⟩ := exists_of_bind_eq_ok h
  rw [hx a ha]
  exact hf a ha b h

end Keeps

/-- Whether two computations have related results or fail with the same error. -/
inductive Agree {ε α β : Type} (R : α → β → Prop) : Except ε α → Except ε β → Prop where
  | ok {a b} (h : R a b) : Agree R (.ok a) (.ok b)
  | error (e : ε) : Agree R (.error e) (.error e)

namespace Agree

variable {ε α β γ δ : Type} {R : α → β → Prop} {S : γ → δ → Prop} {x : Except ε α} {y : Except ε β}

theorem same (x : Except ε α) : Agree (fun a b => a = b ∧ x = .ok a) x x :=
  match x with
  | .ok _ => .ok ⟨rfl, rfl⟩
  | .error e => .error e

theorem results (h : Agree R x y) : Agree (fun a b => R a b ∧ x = .ok a ∧ y = .ok b) x y :=
  match h with
  | .ok h => .ok ⟨h, rfl, rfl⟩
  | .error e => .error e

theorem bind {f : α → Except ε γ} {g : β → Except ε δ} (h : Agree R x y) (hf : ∀ a b, R a b → Agree S (f a) (g b)) :
    Agree S (x >>= f) (y >>= g) := by
  cases h with
  | ok h => exact hf _ _ h
  | error e => exact .error e

end Agree

end PathQuery
