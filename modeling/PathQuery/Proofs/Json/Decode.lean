import PathQuery.Json.Decode
import PathQuery.Proofs.Outcome

/-!
# Records with another value of one field

Two trees that differ in the value of one field (`Tree.Swaps`) are decoded alike, up to that field
(`Record.decode_agree`).
-/

namespace PathQuery.Json

variable {ε σ : Type}

/-- Whether two trees of a record are one, but for the value of the field of a name, which is the
first of the record. -/
inductive Tree.Swaps (name : String) (t t' : Tree) : Tree → Tree → Prop where
  | entry (before after : List (Tree.Key × Tree)) (fault : Option TextError) :
      Swaps name t t' (.object (before ++ (.ok name, t) :: after) fault)
        (.object (before ++ (.ok name, t') :: after) fault)
  | item (after : List Tree) (fault : Option TextError) :
      Swaps name t t' (.list (t :: after) fault) (.list (t' :: after) fault)

namespace Record

variable {r : Record ε σ} {S : σ → σ → Prop} {f : Field ε σ}

/-- Records that are related stay so, if every field keeps them so that has had no value yet. -/
theorem takeEntries_agree {name : String}
    (hkeep : ∀ g ∈ r.fields, g.name ≠ name → ∀ s s' t, S s s' → Agree S (g.take s t) (g.take s' t)) :
    ∀ (entries : List (Tree.Key × Tree)) (seen : List String) (s s' : σ), name ∈ seen → S s s' →
      Agree (fun x y => x.1 = y.1 ∧ S x.2 y.2) (r.takeEntries entries seen s) (r.takeEntries entries seen s')
  | [], _, _, _, _, hs => .ok ⟨rfl, hs⟩
  | (key, t) :: rest, seen, s, s', hname, hs => by
    rw [takeEntries, takeEntries]
    refine (Agree.same (orText key)).bind ?_
    rintro k _ ⟨rfl, -⟩
    split
    next =>
      split
      next cause => exact .error _
      next => exact takeEntries_agree hkeep rest seen s s' hname hs
    next g hg =>
      split
      next => exact .error _
      next hk =>
        have hne : g.name ≠ name := by
          have hgk := List.find?_some hg
          rintro rfl
          exact hk (eq_of_beq hgk ▸ hname)
        refine (hkeep g (List.mem_of_find?_eq_some hg) hne s s' t hs).bind fun s₁ s₁' hs₁ => ?_
        exact takeEntries_agree hkeep rest (k :: seen) s₁ s₁' (List.mem_cons_of_mem k hname) hs₁

theorem takeEntries_append (before rest : List (Tree.Key × Tree)) (seen : List String) (s : σ) :
    r.takeEntries (before ++ rest) seen s = r.takeEntries before seen s >>= fun x => r.takeEntries rest x.1 x.2 := by
  induction before generalizing seen s with
  | nil => rfl
  | cons entry before ih =>
    obtain ⟨key, t⟩ := entry
    rw [List.cons_append, takeEntries, takeEntries, bind_assoc]
    refine bind_congr fun k => ?_
    split
    next =>
      split
      next => rfl
      next => exact ih seen s
    next f _ =>
      split
      next => rfl
      next =>
        rw [bind_assoc]
        exact bind_congr fun s₁ => ih (k :: seen) s₁

theorem takeItems_agree : ∀ (fields : List (Field ε σ)) (items : List Tree) (s s' : σ),
    (∀ g ∈ fields, ∀ s s' t, S s s' → Agree S (g.take s t) (g.take s' t)) → S s s' →
      Agree (fun x y => x.1 = y.1 ∧ x.2.1 = y.2.1 ∧ S x.2.2 y.2.2) (takeItems fields items s)
        (takeItems fields items s')
  | g :: fields, t :: items, s, s', hkeep, hs => by
    rw [takeItems, takeItems]
    refine (hkeep g List.mem_cons_self s s' t hs).bind fun s₁ s₁' hs₁ => ?_
    exact takeItems_agree fields items s₁ s₁' (fun f hf => hkeep f (List.mem_cons_of_mem g hf)) hs₁
  | [], _, _, _, _, hs => .ok ⟨rfl, rfl, hs⟩
  | _ :: _, [], _, _, _, hs => .ok ⟨rfl, rfl, hs⟩

/-- What is made of two values of the first field is related in the records as the other fields keep
it. -/
theorem decode_agree {fields : List (Field ε σ)} (hr : r.fields = f :: fields) {t t' u u' : Tree}
    (hswap : ∀ s, Agree S (f.take s t) (f.take s t'))
    (hkeep : ∀ g ∈ fields, ∀ s s' t, S s s' → Agree S (g.take s t) (g.take s' t))
    (h : Tree.Swaps f.name t t' u u') (s : σ) : Agree S (r.decode s u) (r.decode s u') := by
  cases h with
  | entry before after fault =>
    have hf : (r.fields.find? fun g => g.name == f.name) = some f := by rw [hr, List.find?_cons_of_pos (by simp)]
    have hkeep' (g : Field ε σ) (hg : g ∈ r.fields) (hne : g.name ≠ f.name) :
        ∀ s s' t, S s s' → Agree S (g.take s t) (g.take s' t) := by
      rw [hr] at hg
      exact hkeep g ((List.mem_cons.1 hg).resolve_left fun heq => hne (heq ▸ rfl))
    have htaken : Agree (fun x y => x.1 = y.1 ∧ S x.2 y.2) (r.takeEntries (before ++ (.ok f.name, t) :: after) [] s)
        (r.takeEntries (before ++ (.ok f.name, t') :: after) [] s) := by
      rw [takeEntries_append, takeEntries_append]
      refine (Agree.same (r.takeEntries before [] s)).bind ?_
      rintro ⟨seen, s₁⟩ _ ⟨rfl, -⟩
      dsimp only [takeEntries, orText, bind, Except.bind]
      rw [hf]
      dsimp only
      split
      next => exact .error _
      next =>
        refine (hswap s₁).bind fun s₂ s₂' hs₂ => ?_
        exact takeEntries_agree hkeep' after (f.name :: seen) s₂ s₂' List.mem_cons_self hs₂
    refine htaken.bind ?_
    rintro ⟨seen, s₁⟩ ⟨_, s₁'⟩ ⟨rfl, hs₁⟩
    cases fault with
    | some cause => exact .error _
    | none =>
      dsimp only
      split
      next => exact .error _
      next => exact .ok hs₁
  | item after fault =>
    have htaken : Agree (fun x y => x.1 = y.1 ∧ x.2.1 = y.2.1 ∧ S x.2.2 y.2.2)
        (takeItems r.fields (t :: after) s) (takeItems r.fields (t' :: after) s) := by
      rw [hr]
      exact (hswap s).bind fun s₁ s₁' hs₁ => takeItems_agree fields after s₁ s₁' hkeep hs₁
    refine htaken.bind ?_
    rintro ⟨left, items, s₂⟩ ⟨_, _, s₂'⟩ ⟨rfl, rfl, hs₂⟩
    dsimp only
    split
    next => exact .ok hs₂
    next => exact .error _
    next => exact .error _
    next => exact .error _
    next =>
      split
      next => exact .error _
      next => exact .ok hs₂

end Record

end PathQuery.Json
