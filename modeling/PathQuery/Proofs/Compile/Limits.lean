import PathQuery.Proofs.Compile.Walk
import PathQuery.Proofs.Filter.Columns
import PathQuery.Proofs.Schema.Names

/-!
# What the configuration refuses

* `Config.Relaxes` : whether a configuration refuses no more paths and no more fields than another;
* `Setting.under` : a setting with another configuration.

A configuration only says which filters are refused: a pass that is not refused comes to the same
joins and the same condition under every configuration that relaxes it (`compileFilter_keeps`). What
strict fields refuse are the filters with a column that the schema does not define
(`Walks.defines`).
-/

namespace PathQuery

/-- Whether a configuration, the second one, allows what another allows. -/
structure Config.Relaxes (a b : Config) : Prop where
  depth : a.maxRelationalDepth ≤ b.maxRelationalDepth
  strict : b.strictFields = true → a.strictFields = true

namespace Setting

def under (setting : Setting) (config : Config) : Setting := { setting with config := config }

variable (setting : Setting) (config : Config)

@[simp] theorem schema_under : (setting.under config).schema = setting.schema := rfl

@[simp] theorem hop_under (c : String) (segment : Segment) :
    (setting.under config).hop c segment = setting.hop c segment := rfl

end Setting

variable {setting : Setting} {a b : Config} {subquery : Bool}

theorem Config.keeps_checkDepth (hd : a.maxRelationalDepth ≤ b.maxRelationalDepth) (depth : Nat) :
    Keeps (a.checkDepth depth) (b.checkDepth depth) := by
  intro _ h
  exact checkDepth_eq_ok.2 (Nat.le_trans (checkDepth_eq_ok.1 h) hd)

/-! ## The walk for the joins -/

mutual

theorem planNode_keeps (hd : a.maxRelationalDepth ≤ b.maxRelationalDepth) (c : String) (path : Path) :
    (n : Node) → (p : Plan) →
    Keeps (planNode (setting.under a) subquery c path n p) (planNode (setting.under b) subquery c path n p)
  | .comparison _ _, p => by
    rw [planNode, planNode]
    exact .refl _
  | .group op children, p => by
    rw [planNode, planNode]
    split
    · exact .refl _
    · exact planChildren_keeps hd c path children p
  | .field segment nested, p => by
    rw [planNode, planNode, Setting.schema_under, Setting.schema_under]
    split
    · exact .refl _
    · refine (Config.keeps_checkDepth hd _).bind fun _ _ => ?_
      split
      · exact .refl _
      · split
        · exact .refl _
        · exact (Keeps.refl _).bind fun q _ => planNodes_keeps hd q.1 _ nested q.2

/-- A walk for the joins that is not refused goes the same way where longer paths are allowed. -/
theorem planNodes_keeps (hd : a.maxRelationalDepth ≤ b.maxRelationalDepth) (c : String) (path : Path) :
    (f : List Node) → (p : Plan) →
    Keeps (planNodes (setting.under a) subquery c path f p) (planNodes (setting.under b) subquery c path f p)
  | [], p => by
    rw [planNodes, planNodes]
    exact .refl _
  | n :: rest, p => by
    rw [planNodes, planNodes]
    exact (planNode_keeps hd c path n p).bind fun q _ => planNodes_keeps hd c path rest q

theorem planChildren_keeps (hd : a.maxRelationalDepth ≤ b.maxRelationalDepth) (c : String) (path : Path) :
    (fs : List (List Node)) → (p : Plan) →
    Keeps (planChildren (setting.under a) subquery c path fs p) (planChildren (setting.under b) subquery c path fs p)
  | [], p => by
    rw [planChildren, planChildren]
    exact .refl _
  | f :: fs, p => by
    rw [planChildren, planChildren]
    exact (planNodes_keeps hd c path f p).bind fun q _ => planChildren_keeps hd c path fs q

end

theorem planJoins_keeps (hd : a.maxRelationalDepth ≤ b.maxRelationalDepth) (c : String) (f : Filter) (n : Nat) :
    Keeps (planJoins (setting.under a) subquery c f n) (planJoins (setting.under b) subquery c f n) :=
  planNodes_keeps hd c [] f _

/-! ## The walk for the conditions -/

/-- Whether the second of two configurations refuses a filter with some columns only if the first
one does. -/
structure Setting.Admits (setting : Setting) (a b : Config) (c : String) (columns : List (List Segment × Segment)) :
    Prop where
  depth : a.maxRelationalDepth ≤ b.maxRelationalDepth
  defines : a.strictFields = false → b.strictFields = true → ∀ column ∈ columns, setting.schema.Defines c column

namespace Setting.Admits

variable {c target : String} {columns more : List (List Segment × Segment)}

theorem append (h : setting.Admits a b c (columns ++ more)) :
    setting.Admits a b c columns ∧ setting.Admits a b c more :=
  ⟨⟨h.depth, fun ha hb => (List.forall_mem_append.1 (h.defines ha hb)).1⟩,
    ⟨h.depth, fun ha hb => (List.forall_mem_append.1 (h.defines ha hb)).2⟩⟩

theorem nested {segment : Segment} {nested : Filter} {hop : Hop}
    (h : setting.Admits a b c (Node.columns (.field segment nested))) (hc : Filter.isComparisons nested = false)
    (hh : setting.schema.hop? c segment.field = some hop) (ht : hop.target setting.schema segment = .ok target) :
    setting.Admits a b target (Filter.columns nested) :=
  ⟨h.depth, fun ha hb => (Schema.defines_field_iff hc hh ht).1 (h.defines ha hb)⟩

theorem keeps_fieldType {segment : Segment} (h : setting.Admits a b c [([], segment)]) :
    Keeps ((setting.under a).fieldType c segment.field) ((setting.under b).fieldType c segment.field) := by
  intro type htype
  rw [fieldType_eq_ok] at htype ⊢
  refine ⟨htype.1, fun hb => ?_⟩
  cases ha : a.strictFields with
  | true => exact htype.2 ha
  | false =>
    obtain ⟨c', hc, hfield⟩ := h.defines ha hb _ List.mem_cons_self
    obtain rfl := Option.some.inj hc
    exact hfield

end Setting.Admits

theorem columnConditions_keeps {pass : Pass} {c : String} {path : Path} {segment : Segment} {f : Filter}
    (h : setting.Admits a b c [([], segment)]) :
    Keeps (columnConditions (setting.under a) pass c path segment.field f)
      (columnConditions (setting.under b) pass c path segment.field f) :=
  h.keeps_fieldType.bind fun _ _ => .refl _

mutual

theorem nodeConditions_keeps (pass : Pass) (c : String) (path : Path) : (n : Node) →
    setting.Admits a b c n.columns → (d : Nat) →
    Keeps (nodeConditions (setting.under a) pass c path n d) (nodeConditions (setting.under b) pass c path n d)
  | .comparison _ _, _, d => by
    rw [nodeConditions, nodeConditions]
    exact .refl _
  | .group op children, h, d => by
    rw [nodeConditions, nodeConditions]
    rw [Node.columns] at h
    split
    next => exact .refl _
    next hm =>
      rw [if_neg hm] at h
      exact (childConditions_keeps pass c path children h d).bind fun _ _ => .refl _
  | .field segment nested, h, d => by
    rw [nodeConditions, nodeConditions]
    refine (Config.keeps_checkDepth h.depth _).bind fun _ _ => ?_
    split
    next hc =>
      rw [Node.columns, if_pos hc] at h
      exact (columnConditions_keeps h).bind fun _ _ => .refl _
    next hc =>
      rw [Setting.hop_under, Setting.hop_under]
      refine (Keeps.refl _).bind fun hop hhop => ?_
      have hnested : ∀ target, hop.target setting.schema segment = .ok target →
          setting.Admits a b target (Filter.columns nested) :=
        fun _ ht => h.nested (Bool.eq_false_iff.2 hc) (hop_eq_ok.1 hhop) ht
      split
      next hf =>
        obtain ⟨hkind, -⟩ := Hop.isDeferred_iff.1 hf
        have hbody := hnested hop.relation.collection (Hop.target_of_oneToMany hkind segment)
        refine (Keeps.refl _).bind fun key _ => ?_
        refine (planJoins_keeps h.depth _ nested d).bind fun plan _ => ?_
        exact (conditions_keeps _ _ [] nested hbody plan.draws).bind fun _ _ => .refl _
      next =>
        refine (Keeps.refl _).bind fun target ht => ?_
        exact conditions_keeps pass target _ nested (hnested target ht) d

/-- A walk for the conditions that is not refused comes to the same conditions where no more is
refused. -/
theorem conditions_keeps (pass : Pass) (c : String) (path : Path) : (f : List Node) →
    setting.Admits a b c (Filter.columns f) → (d : Nat) →
    Keeps (conditions (setting.under a) pass c path f d) (conditions (setting.under b) pass c path f d)
  | [], _, d => by
    rw [conditions, conditions]
    exact .refl _
  | n :: rest, h, d => by
    rw [conditions, conditions]
    obtain ⟨hn, hrest⟩ := h.append
    refine (nodeConditions_keeps pass c path n hn d).bind fun q _ => ?_
    exact (conditions_keeps pass c path rest hrest q.2).bind fun _ _ => .refl _

theorem childConditions_keeps (pass : Pass) (c : String) (path : Path) : (fs : List (List Node)) →
    setting.Admits a b c (Filter.childColumns fs) → (d : Nat) →
    Keeps (childConditions (setting.under a) pass c path fs d) (childConditions (setting.under b) pass c path fs d)
  | [], _, d => by
    rw [childConditions, childConditions]
    exact .refl _
  | f :: fs, h, d => by
    rw [childConditions, childConditions]
    obtain ⟨hf, hfs⟩ := h.append
    refine (conditions_keeps pass c path f hf d).bind fun q _ => ?_
    exact (childConditions_keeps pass c path fs hfs q.2).bind fun _ _ => .refl _

end

/-- A pass under a configuration comes to the same under one that refuses the filter only if that
one does. -/
theorem compileFilter_keeps {c : String} {f : Filter} (h : setting.Admits a b c (Filter.columns f)) (n : Nat) :
    Keeps (compileFilter (setting.under a) subquery c f n) (compileFilter (setting.under b) subquery c f n) := by
  unfold compileFilter
  refine (planJoins_keeps h.depth c f n).bind fun plan _ => ?_
  exact (conditions_keeps _ c [] f h plan.draws).bind fun _ _ => .refl _

/-! ## Strict fields -/

theorem Walks.defines {pass : Pass} {c : String} {path : Path} {f : Filter} {ps : List Sql.Predicate}
    (h : Walks setting pass c path f ps) (hs : setting.config.strictFields = true) :
    ∀ column ∈ Filter.columns f, setting.schema.Defines c column := by
  induction h with
  | nil => exact List.forall_mem_nil _
  | everything hm _ ih =>
    rw [Filter.columns, Node.columns, if_pos hm]
    exact ih
  | group hm _ _ ihgroup ihrest =>
    rw [Filter.columns, Node.columns, hm, if_neg Bool.false_ne_true, Filter.childColumns_eq]
    exact List.forall_mem_append.2 ⟨ihgroup, ihrest⟩
  | @column pass c path segment nested rest qs ps hc _ hq _ ih =>
    rw [Filter.columns, Node.columns, if_pos hc]
    refine List.forall_mem_cons.2 ⟨⟨c, rfl, ?_⟩, ih⟩
    obtain ⟨type, htype, -⟩ := exists_of_bind_eq_ok hq
    exact (fieldType_eq_ok.1 htype).2 hs
  | @deferred _ _ _ segment _ _ _ _ _ _ _ _ hc _ hh hf _ _ _ _ ihbody ihrest =>
    have ht := Hop.target_of_oneToMany (s := setting.schema) (Hop.isDeferred_iff.1 hf).1 segment
    exact List.forall_mem_append.2 ⟨(Schema.defines_field_iff hc hh ht).2 ihbody, ihrest⟩
  | hop hc _ hh _ ht _ _ ihnested ihrest =>
    exact List.forall_mem_append.2 ⟨(Schema.defines_field_iff hc hh ht).2 ihnested, ihrest⟩

variable (setting subquery) in
/-- The configuration only says which filters are refused. What a pass comes to under one
configuration, it comes to under any other that allows as long paths and has strict fields only if
the first one has them. And strict fields refuse exactly the filters with a column that is not
defined: one that no hop leads to, or whose field the collection that its hops lead to does not
have. -/
theorem compileFilter_of_relaxes (c : String) (f : Filter) (n : Nat) :
    (∀ a b : Config, a.Relaxes b → ∀ r, compileFilter (setting.under a) subquery c f n = .ok r →
      compileFilter (setting.under b) subquery c f n = .ok r) ∧
    ∀ a : Config, a.strictFields = true → ∀ r, compileFilter (setting.under a) subquery c f n = .ok r ↔
      compileFilter (setting.under { a with strictFields := false }) subquery c f n = .ok r ∧
        ∀ column ∈ Filter.columns f, setting.schema.Defines c column := by
  refine ⟨fun a b hrelax r => ?_, fun a ha r => ?_⟩
  · have hadmits : setting.Admits a b c (Filter.columns f) :=
      ⟨hrelax.depth, fun hf hb => absurd ((hrelax.strict hb).symm.trans hf) (by simp)⟩
    exact compileFilter_keeps hadmits n r
  · let lenient : Config := { a with strictFields := false }
    constructor
    · intro h
      have hadmits : setting.Admits a lenient c (Filter.columns f) :=
        ⟨Nat.le_refl _, fun _ hb => absurd hb (by simp [lenient])⟩
      obtain ⟨plan, ps, -, hw, -⟩ := exists_of_compileFilter h
      exact ⟨compileFilter_keeps hadmits n r h, hw.defines ha⟩
    · rintro ⟨h, hdefines⟩
      have hadmits : setting.Admits lenient a c (Filter.columns f) := ⟨Nat.le_refl _, fun _ _ => hdefines⟩
      exact compileFilter_keeps hadmits n r h

/-- Users of a name with an article of a title. -/
def Filter.titledBy : Filter :=
  [.field (.mk "name" none) [.comparison .eq (.string "Ann")],
    .field (.mk "articles" none) [.field (.mk "title" none) [.comparison .eq (.string "x")]]]

/-- A column of the pass and one of the pass inside, where nothing more is allowed, and where
everything is. -/
theorem compileFilter_of_relaxes_titledBy : ∃ r,
    compileFilter ((Setting.default .newsroom).under ⟨none, 1, true⟩) false "users" .titledBy 0 = .ok r ∧
    compileFilter ((Setting.default .newsroom).under .default) false "users" .titledBy 0 = .ok r ∧
    Filter.columns Filter.titledBy = [([], .mk "name" none), ([.mk "articles" none], .mk "title" none)] ∧
    ∀ column ∈ Filter.columns Filter.titledBy, Schema.newsroom.Defines "users" column := by
  obtain ⟨r, h⟩ : ∃ r, compileFilter ((Setting.default .newsroom).under ⟨none, 1, true⟩) false "users" .titledBy 0 =
      .ok r := ⟨_, rfl⟩
  obtain ⟨hrelax, hstrict⟩ := compileFilter_of_relaxes (.default .newsroom) false "users" .titledBy 0
  exact ⟨r, h, hrelax ⟨none, 1, true⟩ .default ⟨by decide, nofun⟩ r h, rfl, ((hstrict ⟨none, 1, true⟩ rfl r).1 h).2⟩

end PathQuery
