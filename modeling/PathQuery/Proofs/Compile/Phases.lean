import PathQuery.Proofs.Compile.Narrowing

/-!
# Queries, phase by phase

* `Setting.phases` : a query whose sort, window, filter and search are applied to a draft one after
  the other;
* `Enters` : the passes over bodies of sub-selects that a walk comes to;
* `Setting.Fails` : whether a phase of a query fails, or a pass inside its filter;
* `Edit` : work on a draft in place, where all that was done before an error stays done.
  `Setting.editQuery`, `Setting.editFilter` and `Setting.editSearch` work so.

A query does to a draft what its phases do, and work in place leaves the draft as it was or as the
query makes it (`applyQuery_phases`).
-/

namespace PathQuery

open Sql (Predicate Draft Logical)

variable (setting : Setting)

/-! ## Phases -/

namespace Setting

def filterPhase (d : Draft) (f : Option Filter) (c : String) (subquery : Bool) (n : Nat) :
    Except QueryError (Draft × Nat) :=
  match f with
  | none => .ok (d, n)
  | some f => setting.applyFilter d f c subquery n

def searchPhase (d : Draft) (term : Option String) (c : String) : Except QueryError Draft :=
  match term with
  | none => .ok d
  | some term => if term = "" then .ok d else setting.applySearch d term c

/-- A query in phases: the sort keys behind those there are, the window where the query has one, the
filter, and the search. -/
def phases (d : Draft) (c : String) (q : Query) (subquery : Bool) (n : Nat) : Except QueryError (Draft × Nat) := do
  let order ← compileSort c (q.sort.getD [])
  let limit ← compileLimit setting.config q.limit
  let offset ← compileOffset q.offset q.page q.limit
  let framed : Draft := { d with order := d.order ++ order, limit := limit.or d.limit, offset := offset.or d.offset }
  let (filtered, n) ← setting.filterPhase framed q.filter c subquery n
  return (← setting.searchPhase filtered q.search c, n)

variable {setting} {c : String} {q : Query} {subquery : Bool} {n : Nat}

theorem filterPhase_eq (d : Draft) (f : Option Filter) :
    setting.filterPhase d f c subquery n = do
      let (compiled, n) ← setting.compileFilter? subquery c f n
      return (compiled.elim d (·.apply d), n) := by
  cases f with
  | none => rfl
  | some f =>
    rw [filterPhase, applyFilter, compileFilter?]
    cases compileFilter setting subquery c f n <;> rfl

theorem compileFilter?_eq_error {f : Option Filter} {e : QueryError}
    (h : setting.compileFilter? subquery c f n = .error e) :
    ∃ g, f = some g ∧ compileFilter setting subquery c g n = .error e := by
  cases f with
  | none => exact absurd h (by simp [compileFilter?])
  | some g =>
    refine ⟨g, rfl, ?_⟩
    rcases error_of_bind_eq_error h with h | ⟨compiled, -, h⟩
    · exact h
    · exact absurd h pure_ne_error

theorem compileSearch?_eq_error {term : Option String} {e : QueryError}
    (h : setting.compileSearch? c term = .error e) :
    ∃ t, term = some t ∧ t ≠ "" ∧ compileSearch setting.schema c t = .error e := by
  cases term with
  | none => exact absurd h (by simp [compileSearch?])
  | some t =>
    rw [compileSearch?] at h
    split at h
    next => exact absurd h (by simp)
    next hne =>
      rcases error_of_bind_eq_error h with h | ⟨p, -, h⟩
      · exact ⟨t, rfl, hne, h⟩
      · exact absurd h pure_ne_error

theorem searchPhase_eq (d : Draft) (term : Option String) :
    setting.searchPhase d term c = do return (← setting.compileSearch? c term).elim d d.andWhere := by
  cases term with
  | none => rfl
  | some term =>
    rw [searchPhase, compileSearch?]
    split
    · rfl
    · rw [applySearch]
      cases compileSearch setting.schema c term <;> rfl

/-- What is compiled as a whole and then applied is what the phases apply one by one. -/
theorem applyQuery_eq_phases (d : Draft) :
    setting.applyQuery d c q subquery n = setting.phases d c q subquery n := by
  unfold applyQuery compileQuery phases
  cases compileSort c (q.sort.getD []) with
  | error e => rfl
  | ok order =>
    cases compileLimit setting.config q.limit with
    | error e => rfl
    | ok limit =>
      cases compileOffset q.offset q.page q.limit with
      | error e => rfl
      | ok offset =>
        simp only [filterPhase_eq, searchPhase_eq]
        cases setting.compileFilter? subquery c q.filter n with
        | error e => rfl
        | ok filtered =>
          cases setting.compileSearch? c q.search with
          | error e => rfl
          | ok search => exact congrArg (fun d => Except.ok (d, filtered.2)) (CompiledQuery.apply_frame _ d)

end Setting

/-! ## Failures -/

/-- Whether a walk over a filter of `c`, with `n` tokens drawn, comes to the pass over a body, a
filter of `related`, with `m` tokens drawn. -/
inductive Enters (pass : Pass) (c : String) : Filter → (n : Nat) → (related : String) → Filter → (m : Nat) → Prop where
  | here {segment nested rest hop key n} (hc : Filter.isComparisons nested = false)
      (hd : Filter.chainHops nested ≤ setting.config.maxRelationalDepth)
      (hh : setting.schema.hop? c segment.field = some hop) (hk : hop.kind = .oneToMany)
      (hkey : setting.schema.primaryKey c = .ok key) :
      Enters pass c (.field segment nested :: rest) n hop.relation.collection nested n
  | group {op children rest n related body m} (hm : Filter.matchesAll op children = false)
      (h : Enters pass c children.flatten n related body m) :
      Enters pass c (.group op children :: rest) n related body m
  | rest {node rest ps n k related body m} (hn : nodeConditions setting pass c [] node n = .ok (ps, k))
      (h : Enters pass c rest k related body m) : Enters pass c (node :: rest) n related body m

/-- Whether a phase of a query fails, or the pass over the body of a sub-select in its filter. -/
inductive Setting.Fails (c : String) (q : Query) (subquery : Bool) (n : Nat) : Prop where
  | sort {e} (h : compileSort c (q.sort.getD []) = .error e)
  | limit {e} (h : compileLimit setting.config q.limit = .error e)
  | offset {e} (h : compileOffset q.offset q.page q.limit = .error e)
  | filter {f e} (hf : q.filter = some f) (h : compileFilter setting subquery c f n = .error e)
  | body {f plan related body m e} (hf : q.filter = some f) (hs : subquery = false)
      (hp : planJoins setting false c f n = .ok plan)
      (hb : Enters setting ⟨false, plan.aliases⟩ c f plan.draws related body m)
      (h : compileFilter setting true related body m = .error e)
  | search {term e} (ht : q.search = some term) (hne : term ≠ "")
      (h : compileSearch setting.schema c term = .error e)

variable {setting}

theorem conditions_append {pass : Pass} {c : String} {path : Path} (f g : Filter) (n : Nat) :
    conditions setting pass c path (f ++ g) n = do
      let (ps, n) ← conditions setting pass c path f n
      let (qs, n) ← conditions setting pass c path g n
      return (ps ++ qs, n) := by
  induction f generalizing n with
  | nil =>
    rw [List.nil_append, conditions]
    simp only [bind, Except.bind]
    cases conditions setting pass c path g n <;> rfl
  | cons node f ih =>
    rw [List.cons_append, conditions, conditions]
    cases nodeConditions setting pass c path node n with
    | error e => rfl
    | ok first =>
      obtain ⟨ps, k⟩ := first
      simp only [ih, bind, Except.bind]
      cases conditions setting pass c path f k with
      | error e => rfl
      | ok second =>
        simp only [pure, Except.pure]
        cases conditions setting pass c path g second.2 with
        | error e => rfl
        | ok third => simp only [List.append_assoc]

/-- The children of a group are walked as one filter. -/
theorem childConditions_eq {pass : Pass} {c : String} {path : Path} (fs : List Filter) (n : Nat) :
    childConditions setting pass c path fs n = conditions setting pass c path fs.flatten n := by
  induction fs generalizing n with
  | nil => rw [childConditions, List.flatten_nil, conditions]
  | cons f fs ih =>
    rw [childConditions, List.flatten_cons, conditions_append]
    simp only [ih]

/-- A walk that comes to a pass that fails fails with it. -/
theorem Enters.conditions_eq_error {pass : Pass} {c related : String} {f body : Filter} {n m : Nat} {e : QueryError}
    (h : Enters setting pass c f n related body m) (hs : pass.subquery = false)
    (hbody : compileFilter setting true related body m = .error e) :
    conditions setting pass c [] f n = .error e := by
  induction h with
  | @here segment nested rest hop key n hc hd hh hk hkey =>
    have hdeferred : hop.isDeferred pass.subquery [] = true := Hop.isDeferred_iff.2 ⟨hk, by simp [isFirst, hs]⟩
    have hdepth : setting.config.checkDepth (([] : Path).length + Filter.chainHops nested) = .ok () :=
      checkDepth_eq_ok.2 (by simpa using hd)
    rw [conditions, nodeConditions, hdepth, hop_eq_ok.2 hh]
    simp only [bind, Except.bind, hc, hdeferred, hkey, if_pos, Bool.false_eq_true, if_false]
    unfold compileFilter at hbody
    cases hp : planJoins setting true hop.relation.collection nested n with
    | error e' =>
      rw [hp] at hbody
      exact congrArg Except.error (Except.error.inj hbody)
    | ok plan =>
      simp only [hp, bind, Except.bind] at hbody ⊢
      cases hq : conditions setting ⟨true, plan.aliases⟩ hop.relation.collection [] nested plan.draws with
      | error e' =>
        rw [hq] at hbody
        exact congrArg Except.error (Except.error.inj hbody)
      | ok found =>
        rw [hq] at hbody
        exact absurd hbody pure_ne_error
  | group hm _ ih =>
    rw [conditions, nodeConditions, hm, childConditions_eq, ih hbody]
    rfl
  | rest hn _ ih =>
    rw [conditions, hn]
    simp only [bind, Except.bind, ih hbody]

namespace Setting

variable {c : String} {q : Query} {subquery : Bool} {n : Nat} {d : Draft}

theorem Fails.filter_of_body {f body : Filter} {plan : Plan} {related : String} {m : Nat} {e : QueryError}
    (hp : planJoins setting false c f n = .ok plan)
    (hb : Enters setting ⟨false, plan.aliases⟩ c f plan.draws related body m)
    (h : compileFilter setting true related body m = .error e) : compileFilter setting false c f n = .error e := by
  rw [compileFilter, hp]
  simp only [bind, Except.bind, hb.conditions_eq_error rfl h]

/-- A query is refused exactly if one of its phases fails. -/
theorem exists_error_iff : (∃ e, setting.applyQuery d c q subquery n = .error e) ↔ setting.Fails c q subquery n := by
  constructor
  · rintro ⟨e, h⟩
    rcases error_of_bind_eq_error h with h | ⟨compiled, -, h⟩
    · unfold compileQuery at h
      rcases error_of_bind_eq_error h with h | ⟨order, -, h⟩
      · exact .sort h
      rcases error_of_bind_eq_error h with h | ⟨limit, -, h⟩
      · exact .limit h
      rcases error_of_bind_eq_error h with h | ⟨offset, -, h⟩
      · exact .offset h
      rcases error_of_bind_eq_error h with h | ⟨filtered, -, h⟩
      · obtain ⟨f, hf, h⟩ := compileFilter?_eq_error h
        exact .filter hf h
      rcases error_of_bind_eq_error h with h | ⟨search, -, h⟩
      · obtain ⟨term, ht, hne, h⟩ := compileSearch?_eq_error h
        exact .search ht hne h
      · exact absurd h pure_ne_error
    · exact absurd h pure_ne_error
  · intro hfails
    cases happly : setting.applyQuery d c q subquery n with
    | error e => exact ⟨e, rfl⟩
    | ok r =>
      obtain ⟨compiled, hquery, -⟩ := exists_of_bind_eq_ok happly
      obtain ⟨order, horder, hquery⟩ := exists_of_bind_eq_ok hquery
      obtain ⟨limit, hlimit, hquery⟩ := exists_of_bind_eq_ok hquery
      obtain ⟨offset, hoffset, hquery⟩ := exists_of_bind_eq_ok hquery
      obtain ⟨filtered, hfilter, hquery⟩ := exists_of_bind_eq_ok hquery
      obtain ⟨search, hsearch, -⟩ := exists_of_bind_eq_ok hquery
      cases hfails with
      | sort h => exact absurd (h.symm.trans horder) (by simp)
      | limit h => exact absurd (h.symm.trans hlimit) (by simp)
      | offset h => exact absurd (h.symm.trans hoffset) (by simp)
      | filter hf h =>
        rw [hf, compileFilter?, h] at hfilter
        exact absurd hfilter (by simp [bind, Except.bind])
      | body hf hs hp hb h =>
        subst hs
        rw [hf, compileFilter?, Fails.filter_of_body hp hb h] at hfilter
        exact absurd hfilter (by simp [bind, Except.bind])
      | search ht hne h =>
        rw [ht, compileSearch?, if_neg hne, h] at hsearch
        exact absurd hsearch (by simp [bind, Except.bind])

-- titles have no words, which only the pass over the articles of a user finds out
example : (Setting.default .newsroom).Fails "users" { Query.empty with
    filter := some [.field (.mk "articles" none)
      [.field (.mk "title" none) [.field (.mk "words" none) [.comparison .eq .null]]]] } false 0 :=
  .body rfl rfl rfl (.here rfl (by decide) rfl rfl rfl) rfl

end Setting

/-! ## In place -/

/-- Work on a draft in place. An error ends it, and what is changed by then stays changed. -/
abbrev Edit := ExceptT QueryError (StateM Draft)

namespace Edit

variable {α β : Type}

/-- What comes of work on a draft, and the draft afterwards. -/
def on (x : Edit α) (d : Draft) : Except QueryError α × Draft := x.run.run d

/-- A computation that does not touch the draft. -/
def compute (x : Except QueryError α) : Edit α := ExceptT.mk (pure x)

def change (f : Draft → Draft) : Edit Unit := modify f

/-- Whether some work comes to an end on every draft and changes it like this. -/
def Does (x : Edit Unit) (f : Draft → Draft) : Prop := ∀ d, x.on d = (.ok (), f d)

theorem on_compute_bind (x : Except QueryError α) (f : α → Edit β) (d : Draft) :
    (compute x >>= f).on d = match x with
      | .ok a => (f a).on d
      | .error e => (.error e, d) := by
  cases x <;> rfl

theorem does_pure : Does (pure ()) id := fun _ => rfl

theorem does_change (f : Draft → Draft) : (change f).Does f := fun _ => rfl

variable {x y : Edit Unit} {f g : Draft → Draft}

/-- What comes after work that comes to an end starts from the draft that it leaves. -/
theorem Does.on_bind (h : x.Does f) (k : Unit → Edit β) (d : Draft) : (x >>= k).on d = (k ()).on (f d) := by
  have hx : x.run.run d = (.ok (), f d) := h d
  unfold on
  rw [ExceptT.run_bind, StateT.run_bind, hx]
  rfl

theorem Does.seq (hx : x.Does f) (hy : y.Does g) : (x >>= fun _ => y).Does (g ∘ f) := by
  intro d
  rw [hx.on_bind]
  exact hy (f d)

theorem does_forM (change : Draft → α → Draft) (l : List α) :
    Does (l.forM fun a => .change (change · a)) fun d => l.foldl change d := by
  induction l with
  | nil => exact does_pure
  | cons a l ih => exact (does_change (change · a)).seq ih

theorem does_option (o : Option α) {x : α → Edit Unit} {f : α → Draft → Draft} (h : ∀ a, (x a).Does (f a)) :
    Does (o.forM x) fun d => o.elim d (f · d) := by
  cases o with
  | none => exact does_pure
  | some a => exact h a

/-- What comes of work on a draft that is changed only once a result is there. -/
def outcome (d : Draft) : Except QueryError (Draft × α) → Except QueryError α × Draft
  | .ok (d', a) => (.ok a, d')
  | .error e => (.error e, d)

end Edit

/-- The joins of a pass are added one by one, and its condition. -/
def Compiled.edit (c : Compiled) : Edit Unit := do
  c.joins.forM fun j => .change (·.addJoin j)
  c.condition.forM fun p => .change (·.andWhere p)

/-- The sort keys of a query are added one by one, then the window is replaced, and the filter and
the search come last. -/
def CompiledQuery.edit (c : CompiledQuery) : Edit Unit := do
  c.order.forM fun o => .change (·.orderBy o)
  c.limit.forM fun n => .change (·.withLimit (some n))
  c.offset.forM fun n => .change (·.withOffset (some n))
  c.filter.forM Compiled.edit
  c.search.forM fun p => .change (·.andWhere p)

theorem Compiled.does_edit (c : Compiled) : c.edit.Does c.apply := by
  have h := (Edit.does_forM Draft.addJoin c.joins).seq
    (Edit.does_option c.condition fun p => Edit.does_change (·.andWhere p))
  intro d
  refine (h d).trans (congrArg (Prod.mk _) ?_)
  unfold Compiled.apply
  cases c.condition <;> rfl

theorem CompiledQuery.does_edit (c : CompiledQuery) : c.edit.Does c.apply := by
  have hsearch := Edit.does_option c.search fun p => Edit.does_change (·.andWhere p)
  have hfilter := (Edit.does_option c.filter Compiled.does_edit).seq hsearch
  have hoffset := (Edit.does_option c.offset fun n => Edit.does_change (·.withOffset (some n))).seq hfilter
  have hlimit := (Edit.does_option c.limit fun n => Edit.does_change (·.withLimit (some n))).seq hoffset
  have h := (Edit.does_forM Draft.orderBy c.order).seq hlimit
  intro d
  refine (h d).trans (congrArg (Prod.mk _) ?_)
  unfold CompiledQuery.apply
  cases c.limit <;> cases c.offset <;> cases c.filter <;> cases c.search <;> rfl

namespace Setting

variable (setting)

/-- A query applied in place: all of it is compiled, and then the draft is changed part by part. -/
def editQuery (c : String) (q : Query) (subquery : Bool) (n : Nat) : Edit Nat := do
  let (compiled, n) ← .compute (setting.compileQuery c q subquery n)
  compiled.edit
  return n

def editFilter (f : Filter) (c : String) (subquery : Bool) (n : Nat) : Edit Nat := do
  let (compiled, n) ← .compute (compileFilter setting subquery c f n)
  compiled.edit
  return n

def editSearch (term c : String) : Edit Unit := do
  let p ← .compute (compileSearch setting.schema c term)
  .change (·.andWhere p)

variable {setting} {c : String} {subquery : Bool} {n : Nat}

theorem on_editQuery (q : Query) (d : Draft) :
    (setting.editQuery c q subquery n).on d = Edit.outcome d (setting.applyQuery d c q subquery n) := by
  unfold editQuery applyQuery
  rw [Edit.on_compute_bind]
  cases setting.compileQuery c q subquery n with
  | error e => rfl
  | ok compiled => exact compiled.1.does_edit.on_bind _ d

theorem on_editFilter (f : Filter) (d : Draft) :
    (setting.editFilter f c subquery n).on d = Edit.outcome d (setting.applyFilter d f c subquery n) := by
  unfold editFilter applyFilter
  rw [Edit.on_compute_bind]
  cases compileFilter setting subquery c f n with
  | error e => rfl
  | ok compiled => exact compiled.1.does_edit.on_bind _ d

theorem on_editSearch (term : String) (d : Draft) :
    (setting.editSearch term c).on d = Edit.outcome d ((setting.applySearch d term c).map (·, ())) := by
  unfold editSearch applySearch
  rw [Edit.on_compute_bind]
  cases compileSearch setting.schema c term <;> rfl

end Setting

variable (setting) in
/-- A query does to a draft what its phases do one after the other, and is refused exactly if one of
them fails. The table and the columns stay. In place, a query, a filter and a search leave the draft
as it was if they are refused, and as they make it otherwise. -/
theorem applyQuery_phases (d : Draft) (c : String) (q : Query) (subquery : Bool) (n : Nat) :
    setting.applyQuery d c q subquery n = setting.phases d c q subquery n ∧
    ((∃ e, setting.applyQuery d c q subquery n = .error e) ↔ setting.Fails c q subquery n) ∧
    (∀ d' n', setting.applyQuery d c q subquery n = .ok (d', n') → d'.table = d.table ∧ d'.columns = d.columns) ∧
    (setting.editQuery c q subquery n).on d = Edit.outcome d (setting.applyQuery d c q subquery n) ∧
    (∀ f, (setting.editFilter f c subquery n).on d = Edit.outcome d (setting.applyFilter d f c subquery n)) ∧
    ∀ term, (setting.editSearch term c).on d = Edit.outcome d ((setting.applySearch d term c).map (·, ())) := by
  refine ⟨Setting.applyQuery_eq_phases d, Setting.exists_error_iff, fun d' n' h => ?_, Setting.on_editQuery q d,
    fun f => Setting.on_editFilter f d, fun term => Setting.on_editSearch term d⟩
  have hnarrows := (Applied.query h).narrows
  exact ⟨hnarrows.table, hnarrows.columns⟩

end PathQuery
