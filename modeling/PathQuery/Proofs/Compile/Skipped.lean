import PathQuery.Proofs.Compile.Phases

/-!
# Groups that match everything

An `_or` with an empty filter among its children matches everything, and nobody reads its other
children.

* `Filter.Replaces` : a filter is another with other children in one such group, wherever it stands.

The children that are replaced change neither how the fields above them are read
(`Replaces.isComparisons_eq_false`, `Replaces.chainHops_eq`) nor which groups match everything
(`Replaces.matchesAll_eq`). So both walks of a pass go the same way, into the bodies of sub-selects
too, and come to the same joins and conditions or the same error.
-/

namespace PathQuery

namespace Filter

/-- Whether two filters differ in the children of one `_or` group only, which has an empty child in
both. -/
inductive Replaces : Filter → Filter → Prop where
  | here {children children' rest} (h : [] ∈ children) (h' : [] ∈ children') :
      Replaces (.group .or children :: rest) (.group .or children' :: rest)
  | child {op before f g after rest} (h : Replaces f g) :
      Replaces (.group op (before ++ f :: after) :: rest) (.group op (before ++ g :: after) :: rest)
  | nested {segment f g rest} (h : Replaces f g) :
      Replaces (.field segment f :: rest) (.field segment g :: rest)
  | rest {node f g} (h : Replaces f g) : Replaces (node :: f) (node :: g)

theorem matchesAll_of_mem {children : List Filter} (h : [] ∈ children) : matchesAll .or children = true := by
  simp only [matchesAll, beq_self_eq_true, Bool.true_and, List.any_eq_true]
  exact ⟨[], h, rfl⟩

theorem chainHops_cons {node : Node} {f : Filter} (hf : f.isEmpty = false) :
    chainHops (node :: f) = if isComparisons (node :: f) then 0 else 1 := by
  cases f with
  | nil => exact absurd hf (by simp)
  | cons => rfl

namespace Replaces

variable {f g : Filter}

theorem symm (h : Replaces f g) : Replaces g f := by
  induction h with
  | here h h' => exact .here h' h
  | child _ ih => exact .child ih
  | nested _ ih => exact .nested ih
  | rest _ ih => exact .rest ih

theorem isEmpty_eq_false (h : Replaces f g) : f.isEmpty = false := by
  cases h <;> rfl

/-- There is a group somewhere, so the field above is no column. -/
theorem isComparisons_eq_false (h : Replaces f g) : f.isComparisons = false := by
  induction h with
  | here => rfl
  | child => rfl
  | nested => rfl
  | rest _ ih =>
    rw [isComparisons, List.all_cons, Bool.and_eq_false_iff]
    exact .inr ih

theorem matchesAll_eq (h : Replaces f g) (op : Sql.Logical) (before after : List Filter) :
    matchesAll op (before ++ f :: after) = matchesAll op (before ++ g :: after) := by
  simp only [matchesAll, List.any_append, List.any_cons, h.isEmpty_eq_false, h.symm.isEmpty_eq_false]

theorem chainHops_cons_eq (h : Replaces f g) (node : Node) : chainHops (node :: f) = chainHops (node :: g) := by
  rw [chainHops_cons h.isEmpty_eq_false, chainHops_cons h.symm.isEmpty_eq_false, h.rest.isComparisons_eq_false,
    h.rest.symm.isComparisons_eq_false]

/-- A chain ends at a group, whatever its children are. -/
theorem chainHops_eq (h : Replaces f g) : chainHops f = chainHops g := by
  induction h with
  | @here _ _ rest _ _ => cases rest <;> rfl
  | @child _ _ _ _ _ rest _ _ => cases rest <;> rfl
  | @nested _ _ _ rest _ ih =>
    cases rest with
    | nil => simp only [chainHops, Node.chainHops, ih]
    | cons => rfl
  | rest h _ => exact h.chainHops_cons_eq _

end Replaces

end Filter

/-! ## The walk for the joins -/

variable {setting : Setting} {subquery : Bool} {c : String} {f g : Filter}

theorem planNodes_append (path : Path) (f g : Filter) :
    planNodes setting subquery c path (f ++ g) =
      fun p => planNodes setting subquery c path f p >>= planNodes setting subquery c path g := by
  induction f with
  | nil =>
    funext p
    rw [List.nil_append, planNodes]
    rfl
  | cons node f ih =>
    funext p
    rw [List.cons_append, planNodes, planNodes, ih]
    cases planNode setting subquery c path node p <;> rfl

/-- The children of a group are walked as one filter. -/
theorem planChildren_eq (path : Path) (fs : List Filter) (p : Plan) :
    planChildren setting subquery c path fs p = planNodes setting subquery c path fs.flatten p := by
  induction fs generalizing p with
  | nil => rw [planChildren, List.flatten_nil, planNodes]
  | cons f fs ih =>
    rw [planChildren, List.flatten_cons, planNodes_append]
    simp only [ih]

theorem Filter.Replaces.planNodes_eq (h : f.Replaces g) (path : Path) (p : Plan) :
    planNodes setting subquery c path f p = planNodes setting subquery c path g p := by
  induction h generalizing c path p with
  | here h h' => simp only [planNodes, planNode, Filter.matchesAll_of_mem h, Filter.matchesAll_of_mem h', if_true]
  | @child op before f g after rest h ih =>
    simp only [planNodes, planNode, h.matchesAll_eq, planChildren_eq, List.flatten_append, List.flatten_cons,
      planNodes_append, ih]
  | nested h ih =>
    simp only [planNodes, planNode, h.isComparisons_eq_false, h.symm.isComparisons_eq_false, h.chainHops_eq, ih,
      Bool.false_eq_true, if_false]
  | rest _ ih => simp only [planNodes, ih]

theorem Filter.Replaces.planJoins_eq (h : f.Replaces g) (n : Nat) :
    planJoins setting subquery c f n = planJoins setting subquery c g n := h.planNodes_eq [] _

/-! ## The walk for the conditions -/

theorem Filter.Replaces.conditions_eq (h : f.Replaces g) (pass : Pass) (path : Path) (n : Nat) :
    conditions setting pass c path f n = conditions setting pass c path g n := by
  induction h generalizing pass c path n with
  | here h h' =>
    simp only [conditions, nodeConditions, Filter.matchesAll_of_mem h, Filter.matchesAll_of_mem h', if_true]
  | @child op before f g after rest h ih =>
    simp only [conditions, nodeConditions, h.matchesAll_eq, childConditions_eq, List.flatten_append,
      List.flatten_cons, conditions_append, ih]
  | nested h ih =>
    simp only [conditions, nodeConditions, h.isComparisons_eq_false, h.symm.isComparisons_eq_false, h.chainHops_eq,
      h.planJoins_eq, ih, Bool.false_eq_true, if_false]
  | rest _ ih => simp only [conditions, ih]

theorem Filter.Replaces.compileFilter_eq (h : f.Replaces g) (n : Nat) :
    compileFilter setting subquery c f n = compileFilter setting subquery c g n := by
  simp only [compileFilter, h.planJoins_eq, h.conditions_eq]

variable (setting subquery c) in
/-- The other children of a group that matches everything do not matter: whatever they are, a pass
has the same joins and the same condition or the same error, and so have filters and queries that
are applied to drafts. -/
theorem outcomes_eq_of_replaces (h : f.Replaces g) (n : Nat) :
    compileFilter setting subquery c f n = compileFilter setting subquery c g n ∧
    (∀ d, setting.applyFilter d f c subquery n = setting.applyFilter d g c subquery n) ∧
    ∀ d (q : Query), setting.applyQuery d c { q with filter := some f } subquery n =
      setting.applyQuery d c { q with filter := some g } subquery n := by
  have hcompile : compileFilter setting subquery c f n = compileFilter setting subquery c g n := h.compileFilter_eq n
  refine ⟨hcompile, fun d => ?_, fun d q => ?_⟩
  · rw [Setting.applyFilter, hcompile, Setting.applyFilter]
  · simp only [Setting.applyQuery, Setting.compileQuery, Setting.compileFilter?, hcompile]

/-- Users with an article of any kind, or with one of a title. -/
def Filter.anyOrTitledArticles : Filter :=
  [.field (.mk "articles" none) [.group .or [[], [.field (.mk "title" none) [.comparison .eq (.string "x")]]]]]

/-- Users with an article that has words of pages, which none has, or of any kind. -/
def Filter.strayOrAnyArticles : Filter :=
  [.field (.mk "articles" none) [.group .or
    [[.field (.mk "words" none) [.field (.mk "pages" none) [.comparison .eq .null]]], [.comparison .null .null], []]]]

/-- A title may give way to what would fail on its own. -/
theorem outcomes_eq_stray : Filter.Replaces .anyOrTitledArticles .strayOrAnyArticles ∧
    compileFilter (.default .newsroom) false "users" .anyOrTitledArticles 0 =
      compileFilter (.default .newsroom) false "users" .strayOrAnyArticles 0 := by
  have hreplaces : Filter.Replaces .anyOrTitledArticles .strayOrAnyArticles :=
    .nested (.here (by simp) (by simp))
  exact ⟨hreplaces, (outcomes_eq_of_replaces (.default .newsroom) false "users" hreplaces 0).1⟩

end PathQuery
