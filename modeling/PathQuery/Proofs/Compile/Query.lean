import PathQuery.Proofs.Compile.Plan

/-!
# The parts of a compiled query

What a query adds to a draft comes from four compilers: `mem_compileSort`, `mem_compileFilter?` and
`compileSearch_eq_ok` say what its order, its filter and its search are, and
`CompiledQuery.apply_eq` how a draft gets them. `applyQuery_parts` puts this together, for
properties that each part keeps, and `applyQuery_induction` does so for properties that are not up
to the values that a search looks for.
-/

namespace PathQuery

open Sql (Column Predicate Draft OrderTerm)

variable {setting : Setting}

theorem mem_compileSort {c : String} {keys : List String} {order : List OrderTerm}
    (h : compileSort c keys = .ok order) : ∀ o ∈ order, ∃ key ∈ Text.trimAll keys,
      o.column = .field c (sortKey key).1 := by
  intro o ho
  obtain ⟨key, hk, hs⟩ := exists_of_mem_mapM _ h o ho
  refine ⟨key, hk, ?_⟩
  unfold sortTerm at hs
  dsimp only at hs
  split at hs
  · exact absurd hs (by simp)
  · split at hs
    · exact absurd hs (by simp)
    · rw [← Except.ok.inj hs]

/-- A search looks for patterns in fields and for values of fields, or for nothing. -/
inductive SearchTest (s : Schema) (c : String) : Predicate → Prop where
  | like {k p} (hk : s.collection? c = some k) (hp : p ∈ k.fields.entries) (pattern : Param) :
      SearchTest s c (.compare .like (.call "LOWER" (.field c p.1)) (.param pattern))
  | eq {k p} (hk : s.collection? c = some k) (hp : p ∈ k.fields.entries) (value : Param) :
      SearchTest s c (.compare .eq (.field c p.1) (.param value))

/-- A search is for any of the matches of its term in the fields of the collection, in their
order. -/
theorem exists_of_compileSearch {s : Schema} {c term : String} {p : Predicate} (h : compileSearch s c term = .ok p) :
    ∃ k, s.collection? c = some k ∧ p = (Sql.Logical.all .or
      (k.fields.entries.filterMap fun f => searchField? c term f.1 f.2)).getD (.const false) := by
  unfold compileSearch at h
  split at h
  next => exact absurd h (by simp)
  next k hk =>
    dsimp only at h
    rw [Named.map, List.filterMap_map] at h
    exact ⟨k, hk, (Except.ok.inj h).symm⟩

theorem compileSearch_eq_ok {s : Schema} {c term : String} {p : Predicate}
    (h : compileSearch s c term = .ok p) : ∃ tests : List Predicate, (∀ t ∈ tests, SearchTest s c t) ∧
      p = (Sql.Logical.all .or tests).getD (.const false) := by
  obtain ⟨k, hk, rfl⟩ := exists_of_compileSearch h
  refine ⟨_, ?_, rfl⟩
  intro t ht
  obtain ⟨p, hp, ht⟩ := List.mem_filterMap.1 ht
  unfold searchField? at ht
  dsimp only at ht
  split at ht
  · obtain rfl := Option.some.inj ht
    exact .like hk hp _
  · obtain ⟨value, -, rfl⟩ := Option.map_eq_some_iff.1 ht
    exact .eq hk hp value

theorem foldl_orderBy (d : Draft) (os : List OrderTerm) :
    os.foldl Draft.orderBy d = { d with order := d.order ++ os } := by
  induction os generalizing d with
  | nil => rw [List.append_nil]; rfl
  | cons o os ih => rw [List.foldl_cons, ih, Draft.orderBy, List.append_assoc]; rfl

/-- A draft with the order and the window of a compiled query. -/
def CompiledQuery.frame (c : CompiledQuery) (d : Draft) : Draft :=
  { d with order := d.order ++ c.order, limit := c.limit.or d.limit, offset := c.offset.or d.offset }

/-- A compiled query first adds its order and its window, then its filter, and its search last. -/
theorem CompiledQuery.apply_frame (c : CompiledQuery) (d : Draft) :
    c.apply d =
      let filtered := c.filter.elim (c.frame d) (·.apply (c.frame d))
      c.search.elim filtered filtered.andWhere := by
  obtain ⟨order, limit, offset, filter, search⟩ := c
  unfold CompiledQuery.apply CompiledQuery.frame
  rw [foldl_orderBy]
  cases limit <;> cases offset <;> cases filter <;> cases search <;> rfl

/-- The filter and the search of a compiled query come after whatever order and window it has. -/
theorem CompiledQuery.apply_eq (c : CompiledQuery) (d : Draft) : ∃ limit offset,
    let framed : Draft := { d with order := d.order ++ c.order, limit := limit, offset := offset }
    let filtered := c.filter.elim framed (·.apply framed)
    c.apply d = c.search.elim filtered filtered.andWhere :=
  ⟨_, _, c.apply_frame d⟩

theorem mem_compileFilter? {subquery : Bool} {c : String} {f : Option Filter} {n n' : Nat}
    {o : Option Compiled} (h : setting.compileFilter? subquery c f n = .ok (o, n')) :
    ∀ b ∈ o, ∃ g ∈ f, ∃ n m, compileFilter setting subquery c g n = .ok (b, m) := by
  unfold Setting.compileFilter? at h
  split at h
  next =>
    obtain ⟨rfl, -⟩ := Prod.mk.inj (Except.ok.inj h)
    exact fun b hb => absurd hb (Option.not_mem_none b)
  next g =>
    obtain ⟨⟨compiled, m⟩, hcompiled, h⟩ := exists_of_bind_eq_ok h
    obtain ⟨rfl, -⟩ := Prod.mk.inj (Except.ok.inj h)
    rintro _ ⟨⟩
    exact ⟨g, rfl, n, m, hcompiled⟩

theorem mem_compileSearch? {c : String} {term : Option String} {o : Option Predicate}
    (h : setting.compileSearch? c term = .ok o) :
    ∀ p ∈ o, ∃ t ∈ term, compileSearch setting.schema c t = .ok p := by
  unfold Setting.compileSearch? at h
  split at h
  next =>
    obtain rfl := Except.ok.inj h
    exact fun b hb => absurd hb (Option.not_mem_none b)
  next t =>
    split at h
    next =>
      obtain rfl := Except.ok.inj h
      exact fun b hb => absurd hb (Option.not_mem_none b)
    next =>
      obtain ⟨p, hp, h⟩ := exists_of_bind_eq_ok h
      obtain rfl := Except.ok.inj h
      rintro _ ⟨⟩
      exact ⟨t, rfl, hp⟩

/-- A property of drafts that holds with the order and the window of a query and that its filter and
its search keep holds of what the query makes of an empty draft. -/
theorem applyQuery_parts {P : Draft → Prop} {c : String} {q : Query} {subquery : Bool} {n n' : Nat}
    {d : Draft} (h : setting.applyQuery (Draft.new c) c q subquery n = .ok (d, n'))
    (hframed : ∀ order limit offset,
      (∀ o ∈ order, ∃ key ∈ Text.trimAll (q.sort.getD []), o.column = .field c (sortKey key).1) →
      P { Draft.new c with order := order, limit := limit, offset := offset })
    (hfiltered : ∀ d, ∀ f ∈ q.filter, ∀ m plan ps, planJoins setting subquery c f m = .ok plan →
      Walks setting ⟨subquery, plan.aliases⟩ c [] f ps → d.joins = [] → P d → P ((plan.body ps).apply d))
    (hsearched : ∀ d, ∀ term ∈ q.search, ∀ p, compileSearch setting.schema c term = .ok p → P d →
      P (d.andWhere p)) : P d := by
  unfold Setting.applyQuery at h
  obtain ⟨⟨compiled, m⟩, hq, h⟩ := exists_of_bind_eq_ok h
  obtain ⟨rfl, -⟩ := Prod.mk.inj (Except.ok.inj h)
  unfold Setting.compileQuery at hq
  obtain ⟨order, horder, hq⟩ := exists_of_bind_eq_ok hq
  obtain ⟨limit, -, hq⟩ := exists_of_bind_eq_ok hq
  obtain ⟨offset, -, hq⟩ := exists_of_bind_eq_ok hq
  obtain ⟨⟨filter, k⟩, hfilter, hq⟩ := exists_of_bind_eq_ok hq
  obtain ⟨search, hsearch, hq⟩ := exists_of_bind_eq_ok hq
  obtain ⟨rfl, -⟩ := Prod.mk.inj (Except.ok.inj hq)
  obtain ⟨limit', offset', happly⟩ :=
    CompiledQuery.apply_eq ⟨order, limit, offset, filter, search⟩ (Draft.new c)
  rw [happly]
  have hf : P (filter.elim { Draft.new c with order := [] ++ order, limit := limit', offset := offset' }
      (·.apply { Draft.new c with order := [] ++ order, limit := limit', offset := offset' })) := by
    have hd := hframed order limit' offset' (mem_compileSort horder)
    cases filter with
    | none => exact hd
    | some b =>
      obtain ⟨f, hf, m, m', hcompiled⟩ := mem_compileFilter? hfilter b rfl
      obtain ⟨plan, ps, hp, hw, rfl⟩ := exists_of_compileFilter hcompiled
      exact hfiltered _ f hf m plan ps hp hw rfl hd
  cases search with
  | none => exact hf
  | some p =>
    obtain ⟨term, hterm, hp⟩ := mem_compileSearch? hsearch p rfl
    exact hsearched _ term hterm p hp hf

/-- A search asks for nothing but patterns and values in fields. -/
theorem applyQuery_induction {P : Draft → Prop} {c : String} {q : Query} {subquery : Bool} {n n' : Nat}
    {d : Draft} (h : setting.applyQuery (Draft.new c) c q subquery n = .ok (d, n'))
    (hframed : ∀ order limit offset,
      (∀ o ∈ order, ∃ key ∈ Text.trimAll (q.sort.getD []), o.column = .field c (sortKey key).1) →
      P { Draft.new c with order := order, limit := limit, offset := offset })
    (hfiltered : ∀ d, ∀ f ∈ q.filter, ∀ m plan ps, planJoins setting subquery c f m = .ok plan →
      Walks setting ⟨subquery, plan.aliases⟩ c [] f ps → d.joins = [] → P d → P ((plan.body ps).apply d))
    (hsearched : ∀ d tests, (∀ t ∈ tests, SearchTest setting.schema c t) → P d →
      P (d.andWhere ((Sql.Logical.all .or tests).getD (.const false)))) : P d := by
  refine applyQuery_parts h hframed hfiltered fun d _ _ p hp hd => ?_
  obtain ⟨tests, htests, rfl⟩ := compileSearch_eq_ok hp
  exact hsearched d tests htests hd

end PathQuery
