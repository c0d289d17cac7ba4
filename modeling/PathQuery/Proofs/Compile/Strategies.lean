import PathQuery.Proofs.Compile.Span

/-!
# Joined and deferred hops to many rows

A first hop to many rows is joined in a pass that is told so, and left to a statement inside in any
other. The two statements return a row of the collection alike if the filter is joinable for it.

* `Filter.Apart` : filters that share no hop to many rows, so that each chooses for itself;
* `Filter.Joinable` : filters for which joining and deferring come to the same for a row;
* `Alike` : truths along choices that come to the same, whichever way they are found.
-/

namespace PathQuery

open Sql (Truth Row Env Database Dialect Logical Draft)

/-- Whether a key leads from a collection to many rows. -/
def Schema.leadsToMany (s : Schema) (c key : String) : Bool := s.startsMany c [.ofKey key]

/-- Whether no hop to many rows is at the top of both filters. -/
def Filter.Apart (s : Schema) (c : String) (f g : Filter) : Prop :=
  ∀ key ∈ f.keys, key ∈ g.keys → s.leadsToMany c key = false

/-- Whether two choices are the same but for hops to many rows from a collection. -/
def Choice.Near (s : Schema) (c : String) (φ φ' : Choice) : Prop :=
  ∀ key, s.leadsToMany c key = false → φ.Same φ' key

variable {V : Type} [DecidableEq V]

variable (setting : Setting) (d : Dialect V) (db : Database V) in
/-- Whether first hops to many rows may be joined for a row of a collection as well as left to
statements inside. The conditions are those under `op`, and `below` says that an `or` stands above
it. -/
inductive Filter.Joinable (c : String) (row : Row V) : (below : Bool) → (op : Logical) → Filter → Prop where
  | nil {below op} : Joinable c row below op []
  | everything {below op op' children rest} (hm : Filter.matchesAll op' children = true)
      (hrest : Joinable c row below op rest) : Joinable c row below op (.group op' children :: rest)
  | group {below op op' children rest} (hm : Filter.matchesAll op' children = false)
      (hgroup : Joinable c row (below || op == .or) op' children.flatten)
      (hapart : op = .and → Filter.Apart setting.schema c children.flatten rest)
      (hrest : Joinable c row below op rest) : Joinable c row below op (.group op' children :: rest)
  | column {below op segment nested rest} (hc : Filter.isComparisons nested = true)
      (hrest : Joinable c row below op rest) : Joinable c row below op (.field segment nested :: rest)
  | one {below op segment nested rest hop} (hc : Filter.isComparisons nested = false)
      (hh : setting.schema.hop? c segment.field = some hop) (hk : hop.kind ≠ .oneToMany)
      (hrest : Joinable c row below op rest) :
      Joinable c row below op (.field segment nested :: rest)
  /-- There is a related row, or what is below is not true of a row of nulls. What is below comes to
  a condition if an `or` stands above, and to a single one right under it; and nothing else chooses
  from the same rows. -/
  | many {below op segment nested rest hop} (hc : Filter.isComparisons nested = false)
      (hh : setting.schema.hop? c segment.field = some hop) (hk : hop.kind = .oneToMany)
      (hrow : hop.related setting d db segment c hop.relation.collection row ≠ [] ∨
        ∃ t ∈ Filter.truths setting d db false hop.relation.collection .null nested, t ≠ .true)
      (hsome : below = true → Filter.truths setting d db false hop.relation.collection .null nested ≠ [])
      (hsingle : op = .or → (Filter.truths setting d db false hop.relation.collection .null nested).length = 1)
      (hapart : op = .and → segment.key ∉ Filter.keys rest) (hrest : Joinable c row below op rest) :
      Joinable c row below op (.field segment nested :: rest)

theorem Choice.Near.refl {s : Schema} {c : String} (φ : Choice) : φ.Near s c φ := fun key _ => .refl φ key

/-! ## Truths along choices -/

/-- Whether truths along choices come to the same under a connective: the ones along any choice, and
the others along one that is near. -/
structure Alike (s : Schema) (c : String) (below : Bool) (op : Logical) (A B : Choice → List Truth) : Prop where
  holds : ∀ φ, op.Holds (A φ) ↔ ∃ φ', φ.Near s c φ' ∧ op.Holds (B φ')
  /-- Whether there are any truths matters wherever they are not all asked for. -/
  empty : below = true ∨ op = .or → ∀ φ φ', A φ = [] ↔ B φ' = []

namespace Alike

variable {s : Schema} {c : String} {below : Bool} {op op' : Logical} {A B A' B' : Choice → List Truth}

/-- Truths that choices near each other agree on. -/
theorem of_near (hnear : ∀ φ φ', Choice.Near s c φ φ' → A φ = A φ')
    (hlength : ∀ φ φ', (A φ).length = (A φ').length) : Alike s c below op A A := by
  refine ⟨fun φ => ?_, fun _ φ φ' => ?_⟩
  · constructor
    · exact fun h => ⟨φ, .refl φ, h⟩
    · rintro ⟨φ', hφ, h⟩
      rwa [hnear φ φ' hφ]
  · rw [← List.length_eq_zero_iff, hlength φ φ', List.length_eq_zero_iff]

/-- Truths of two parts come to the same if those of each part do. Where all of them are asked for,
a choice has to be made for both parts at once: the one for the first part is kept on its keys, and
the other one elsewhere. -/
theorem append {keys keys' : List String} (h : Alike s c below op A B) (h' : Alike s c below op A' B')
    (hB : ∀ φ φ', (∀ key ∈ keys, φ.Same φ' key) → B φ = B φ')
    (hB' : ∀ φ φ', (∀ key ∈ keys', φ.Same φ' key) → B' φ = B' φ')
    (hapart : op = .and → ∀ key ∈ keys, key ∈ keys' → s.leadsToMany c key = false) :
    Alike s c below op (fun φ => A φ ++ A' φ) fun φ => B φ ++ B' φ := by
  refine ⟨fun φ => ?_, fun hop φ φ' => ?_⟩
  · cases op with
    | or =>
      rw [Logical.holds_or_append, h.holds, h'.holds]
      constructor
      · rintro (⟨φ', hφ, hold⟩ | ⟨φ', hφ, hold⟩)
        · exact ⟨φ', hφ, Logical.holds_or_append.2 (.inl hold)⟩
        · exact ⟨φ', hφ, Logical.holds_or_append.2 (.inr hold)⟩
      · rintro ⟨φ', hφ, hold⟩
        exact (Logical.holds_or_append.1 hold).imp (fun hold => ⟨φ', hφ, hold⟩) fun hold => ⟨φ', hφ, hold⟩
    | and =>
      rw [Logical.holds_and_append, h.holds, h'.holds]
      constructor
      · rintro ⟨⟨φ₁, hφ₁, hold₁⟩, φ₂, hφ₂, hold₂⟩
        have hfirst : B (φ₂.mix keys φ₁) = B φ₁ := hB _ _ fun key hk => Choice.mix_of_mem hk
        have hsecond : B' (φ₂.mix keys φ₁) = B' φ₂ := by
          refine hB' _ _ fun key hk => ?_
          by_cases hmem : key ∈ keys
          · have hone := hapart rfl key hmem hk
            exact (Choice.mix_of_mem hmem).trans ((hφ₁ key hone).symm.trans (hφ₂ key hone))
          · exact Choice.mix_of_not_mem hmem
        refine ⟨φ₂.mix keys φ₁, fun key hone => ?_, ?_⟩
        · by_cases hmem : key ∈ keys
          · exact (hφ₁ key hone).trans (Choice.mix_of_mem hmem).symm
          · exact (hφ₂ key hone).trans (Choice.mix_of_not_mem hmem).symm
        · rw [hfirst, hsecond]
          exact Logical.holds_and_append.2 ⟨hold₁, hold₂⟩
      · rintro ⟨φ', hφ, hold⟩
        obtain ⟨hold₁, hold₂⟩ := Logical.holds_and_append.1 hold
        exact ⟨⟨φ', hφ, hold₁⟩, φ', hφ, hold₂⟩
  · rw [List.append_eq_nil_iff, List.append_eq_nil_iff, h.empty hop φ φ', h'.empty hop φ φ']

/-- A group of truths comes to the same under another connective. Its truth is left out if there is
none in it, which is no matter only if it is all of them that are asked for, in the group and around
it. -/
theorem group (h : Alike s c (below || op == .or) op' A B) :
    Alike s c below op (fun φ => (op'.total (A φ)).toList) fun φ => (op'.total (B φ)).toList := by
  refine ⟨fun φ => ?_, fun hop φ φ' => ?_⟩
  · by_cases hall : op = .and ∧ op' = .and
    · obtain ⟨rfl, rfl⟩ := hall
      have hsame (ts : List Truth) : Logical.and.Holds (Logical.and.total ts).toList ↔ Logical.and.Holds ts := by
        by_cases hts : ts = []
        · rw [hts]
          exact Iff.rfl
        · exact Logical.holds_total .and hts
      rw [hsame, h.holds]
      exact exists_congr fun φ' => and_congr_right fun _ => (hsame (B φ')).symm
    · have hempty : (below || op == .or) = true ∨ op' = .or := by
        cases op with
        | or => exact .inl (Bool.or_true below)
        | and =>
          cases op' with
          | or => exact .inr rfl
          | and => exact absurd ⟨rfl, rfl⟩ hall
      by_cases hA : A φ = []
      · have hB (φ' : Choice) : B φ' = [] := (h.empty hempty φ φ').1 hA
        rw [hA]
        constructor
        · exact fun hold => ⟨φ, .refl φ, by rwa [hB φ]⟩
        · rintro ⟨φ', -, hold⟩
          rwa [hB φ'] at hold
      · have hB (φ' : Choice) : B φ' ≠ [] := fun hnil => hA ((h.empty hempty φ φ').2 hnil)
        rw [Logical.holds_total op hA, h.holds]
        exact exists_congr fun φ' => and_congr_right fun _ => (Logical.holds_total op (hB φ')).symm
  · have hbelow : (below || op == .or) = true ∨ op' = .or := by
      rcases hop with rfl | rfl
      · exact .inl rfl
      · exact .inl (Bool.or_true below)
    rw [Logical.toList_total_eq_nil, Logical.toList_total_eq_nil]
    exact h.empty hbelow φ φ'

end Alike

/-! ## Nodes -/

variable {setting : Setting} {d : Dialect V} {db : Database V} {c : String} {row : Row V} {below : Bool} {op : Logical}

theorem Schema.leadsToMany_key {s : Schema} {segment : Segment} {hop : Hop}
    (hh : s.hop? c segment.field = some hop) : s.leadsToMany c segment.key = (hop.kind == .oneToMany) := by
  unfold leadsToMany
  rw [segment.ofKey_key]
  simp only [startsMany, hh]

/-- What does not depend on choices, and is the same whether hops to many rows are deferred or
joined. -/
theorem Alike.of_eq {node : Node} (ts : List Truth)
    (h : ∀ first φ, node.chosen setting d db first c φ row = ts) : Alike setting.schema c below op
      (fun φ => node.chosen setting d db true c φ row) fun φ => node.chosen setting d db false c φ row := by
  rw [funext (h true), funext (h false)]
  exact .of_near (fun _ _ _ => rfl) fun _ _ => rfl

/-- A hop to one row is joined either way, and chooses nothing that may be different. -/
theorem Alike.one {segment : Segment} {nested : Filter} {hop : Hop}
    (hc : Filter.isComparisons nested = false) (hh : setting.schema.hop? c segment.field = some hop)
    (hk : hop.kind ≠ .oneToMany) : Alike setting.schema c below op
      (fun φ => Node.chosen setting d db true c φ row (.field segment nested))
      fun φ => Node.chosen setting d db false c φ row (.field segment nested) := by
  have hfirst : (fun φ => Node.chosen setting d db true c φ row (.field segment nested)) =
      fun φ => Node.chosen setting d db false c φ row (.field segment nested) := by
    funext φ
    rw [Node.chosen, Node.chosen, hh]
    dsimp only
    rw [if_neg (c := hop.kind = .oneToMany ∧ true = true) fun h => hk h.1,
      if_neg (c := hop.kind = .oneToMany ∧ false = true) fun h => hk h.1]
  rw [hfirst]
  refine Alike.of_near (fun φ φ' hφ => Node.chosen_congr _ fun key hmem => ?_) fun φ φ' => Node.length_chosen ..
  rw [Filter.keys_field hc] at hmem
  obtain rfl := List.mem_singleton.1 hmem
  refine hφ _ ?_
  rw [Schema.leadsToMany_key hh]
  exact beq_eq_false_iff_ne.2 hk

theorem Node.chosen_deferred {segment : Segment} {nested : Filter} {hop : Hop}
    (hc : Filter.isComparisons nested = false) (hh : setting.schema.hop? c segment.field = some hop)
    (hk : hop.kind = .oneToMany) (φ : Choice) :
    Node.chosen setting d db true c φ row (.field segment nested) =
      [.ofProp (∃ r ∈ hop.related setting d db segment c hop.relation.collection row, ∃ φ' : Choice,
        (Logical.total .and (Filter.chosen setting d db false hop.relation.collection φ' r nested)).getD .true =
          .true)] := by
  rw [Node.chosen, if_neg (Bool.eq_false_iff.1 hc), hh]
  dsimp only
  rw [if_pos ⟨hk, rfl⟩]

theorem Node.chosen_joined {segment : Segment} {nested : Filter} {hop : Hop} (hc : Filter.isComparisons nested = false)
    (hh : setting.schema.hop? c segment.field = some hop) (hk : hop.kind = .oneToMany) (φ : Choice) :
    Node.chosen setting d db false c φ row (.field segment nested) =
      Filter.chosen setting d db false hop.relation.collection (φ.below [segment.key])
        (.pick (hop.related setting d db segment c hop.relation.collection row) (φ [] segment.key)) nested := by
  have htarget : hop.target setting.schema segment = .ok hop.relation.collection := by
    unfold Hop.target
    rw [hk]
  rw [Node.chosen, if_neg (Bool.eq_false_iff.1 hc), hh]
  dsimp only
  rw [if_neg (fun h => Bool.false_ne_true h.2), htarget]

/-- A hop to many rows asks the same of the related rows, joined or deferred. -/
theorem Alike.many {segment : Segment} {nested : Filter} {hop : Hop}
    (hc : Filter.isComparisons nested = false) (hh : setting.schema.hop? c segment.field = some hop)
    (hk : hop.kind = .oneToMany)
    (hrow : hop.related setting d db segment c hop.relation.collection row ≠ [] ∨
      ∃ t ∈ Filter.truths setting d db false hop.relation.collection .null nested, t ≠ .true)
    (hsome : below = true → Filter.truths setting d db false hop.relation.collection .null nested ≠ [])
    (hsingle : op = .or → (Filter.truths setting d db false hop.relation.collection .null nested).length = 1) :
    Alike setting.schema c below op (fun φ => Node.chosen setting d db true c φ row (.field segment nested))
      fun φ => Node.chosen setting d db false c φ row (.field segment nested) := by
  have hlength (φ : Choice) (r : Row V) :
      (Filter.chosen setting d db false hop.relation.collection φ r nested).length =
        (Filter.truths setting d db false hop.relation.collection .null nested).length := by
    rw [Filter.length_chosen φ φ _ r .null, Filter.chosen_null]
  refine ⟨fun φ => ?_, fun hempty φ φ' => ?_⟩
  · rw [Node.chosen_deferred hc hh hk, Logical.holds_singleton, Truth.ofProp_eq_true]
    constructor
    · rintro ⟨r, hr, φ', htrue⟩
      obtain ⟨n, hn⟩ := Row.exists_pick hr
      obtain ⟨hhere, hbelow⟩ := φ.graft_self segment.key n φ'
      refine ⟨φ.graft segment.key n φ', fun key hone => (Choice.graft_of_ne n ?_).symm, ?_⟩
      · rintro rfl
        rw [Schema.leadsToMany_key hh, hk] at hone
        exact absurd hone (by decide)
      · rw [Node.chosen_joined hc hh hk, hhere, hbelow, hn,
          Logical.holds_iff_of_length fun ho => (hlength φ' r).trans (hsingle ho)]
        exact Logical.getD_total_and.1 htrue
    · rintro ⟨φ', -, hold⟩
      rw [Node.chosen_joined hc hh hk, Logical.holds_iff_of_length fun ho => (hlength _ _).trans (hsingle ho)] at hold
      -- without a related row the body would be true of the row of nulls
      have hne : hop.related setting d db segment c hop.relation.collection row ≠ [] := by
        rcases hrow with hne | ⟨t, ht, hfalse⟩
        · exact hne
        · intro hnil
          rw [hnil, Row.pick_nil, Filter.chosen_null] at hold
          exact hfalse (hold t ht)
      exact ⟨_, Row.pick_mem hne (φ' [] segment.key), φ'.below [segment.key], Logical.getD_total_and.2 hold⟩
  · rw [Node.chosen_deferred hc hh hk, Node.chosen_joined hc hh hk, ← List.length_eq_zero_iff (l := Filter.chosen ..),
      hlength]
    refine iff_of_false (List.cons_ne_nil _ _) ?_
    rcases hempty with hbelow | ho
    · exact fun hzero => hsome hbelow (List.length_eq_zero_iff.1 hzero)
    · rw [hsingle ho]
      decide

theorem Alike.cons {node : Node} {rest : Filter}
    (hnode : Alike setting.schema c below op (fun φ => node.chosen setting d db true c φ row)
      fun φ => node.chosen setting d db false c φ row)
    (hrest : Alike setting.schema c below op (fun φ => Filter.chosen setting d db true c φ row rest)
      fun φ => Filter.chosen setting d db false c φ row rest)
    (hapart : op = .and → Filter.Apart setting.schema c [node] rest) :
    Alike setting.schema c below op (fun φ => Filter.chosen setting d db true c φ row (node :: rest))
      fun φ => Filter.chosen setting d db false c φ row (node :: rest) := by
  have hchosen (first : Bool) : (fun φ => Filter.chosen setting d db first c φ row (node :: rest)) =
      fun φ => node.chosen setting d db first c φ row ++ Filter.chosen setting d db first c φ row rest := by
    funext φ
    rw [Filter.chosen]
  rw [hchosen, hchosen]
  exact hnode.append hrest (fun _ _ => Node.chosen_congr node) (fun _ _ => Filter.chosen_congr rest) hapart

/-! ## Whole filters -/

/-- A joinable filter has truths that come to the same, whether hops to many rows are deferred or
joined. -/
theorem Filter.Joinable.alike {f : Filter} (h : f.Joinable setting d db c row below op) :
    Alike setting.schema c below op (fun φ => Filter.chosen setting d db true c φ row f)
      fun φ => Filter.chosen setting d db false c φ row f := by
  have hnone {node : Node} {rest : Filter} (hn : node.hopPaths = []) : Filter.Apart setting.schema c [node] rest := by
    intro key hmem
    rw [Filter.keys_cons_of_nil hn] at hmem
    exact absurd hmem List.not_mem_nil
  induction h with
  | nil =>
    have hchosen (first : Bool) : (fun φ => Filter.chosen setting d db first c φ row []) = fun _ => [] := by
      funext φ
      rw [Filter.chosen]
    rw [hchosen, hchosen]
    exact .of_near (fun _ _ _ => rfl) fun _ _ => rfl
  | everything hm _ ih =>
    refine .cons (.of_eq [.true] fun first φ => ?_) ih fun _ => hnone (by rw [Node.hopPaths, if_pos hm])
    rw [Node.chosen, if_pos hm]
  | @group below op op' children rest hm _ hapart _ ihgroup ihrest =>
    have hkeys : Filter.keys [.group op' children] = Filter.keys children.flatten := by
      rw [Filter.keys_group hm]
      exact List.append_nil _
    refine .cons ?_ ihrest fun ho => ?_
    · have hchosen (first : Bool) : (fun φ => Node.chosen setting d db first c φ row (.group op' children)) =
          fun φ => (op'.total (Filter.chosen setting d db first c φ row children.flatten)).toList := by
        funext φ
        rw [Node.chosen, if_neg (Bool.eq_false_iff.1 hm), Filter.childChosen_eq]
      rw [hchosen, hchosen]
      exact ihgroup.group
    · unfold Filter.Apart
      rw [hkeys]
      exact hapart ho
  | @column _ _ segment nested _ hc _ ih =>
    refine .cons (.of_eq (comparisonTruths setting d db c row segment.field nested) fun first φ => ?_)
      ih fun _ => hnone (by rw [Node.hopPaths, if_pos hc])
    rw [Node.chosen, if_pos hc]
  | one hc hh hk _ ih =>
    refine .cons (.one hc hh hk) ih fun _ key hmem _ => ?_
    rw [Filter.keys_field hc] at hmem
    obtain rfl := List.mem_singleton.1 hmem
    rw [Schema.leadsToMany_key hh]
    exact beq_eq_false_iff_ne.2 hk
  | many hc hh hk hrow hsome hsingle hapart _ ih =>
    refine .cons (.many hc hh hk hrow hsome hsingle) ih fun ho key hmem hmem' => ?_
    rw [Filter.keys_field hc] at hmem
    obtain rfl := List.mem_singleton.1 hmem
    exact absurd hmem' (hapart ho)

/-- A row that a filter is joinable for is returned by the statement that joins first hops to many
rows exactly if it is returned by the statement that leaves them to others. -/
theorem mem_rows_iff_of_joinable {f : Filter} {deferred joined : Draft} {n n' m m' : Nat}
    (h : setting.applyFilter (Draft.new c) f c false n = .ok (deferred, n'))
    (h' : setting.applyFilter (Draft.new c) f c true m = .ok (joined, m'))
    (hg : setting.geometry.OfCell d db) (e : Env V) (hf : f.Joinable setting d db c row false .and) :
    row ∈ (deferred.toSelect.rows d db e).map (fun x => x c) ↔
      row ∈ (joined.toSelect.rows d db e).map fun x => x c := by
  rw [mem_rows_iff_chosen h hg e row, mem_rows_iff_chosen h' hg e row]
  refine and_congr_right fun _ => ?_
  have halike := hf.alike
  constructor
  · rintro ⟨φ, htrue⟩
    obtain ⟨φ', -, hold⟩ := (halike.holds φ).1 (Logical.getD_total_and.1 htrue)
    exact ⟨φ', Logical.getD_total_and.2 hold⟩
  · rintro ⟨φ', htrue⟩
    exact ⟨φ', Logical.getD_total_and.2 ((halike.holds φ').2 ⟨φ', .refl φ', Logical.getD_total_and.1 htrue⟩)⟩

/-- Users of a name, or with an article of a title. -/
def Filter.published : Filter :=
  [.group .or [[.field (.mk "name" none) [.comparison .eq (.string "Bo")]],
    [.field (.mk "articles" none) [.field (.mk "title" none) [.comparison .eq (.string "x")]]]]]

/-- A title is not true of a user without articles, and it is all that is asked for under the
connective. -/
theorem Filter.joinable_published (row : Row String) :
    Filter.published.Joinable (Setting.default .newsroom) Dialect.words .desk "users" row false .and := by
  have htruths : Filter.truths (Setting.default .newsroom) Dialect.words .desk false "articles" .null
      [.field (.mk "title" none) [.comparison .eq (.string "x")]] = [.unknown] := by decide +kernel
  refine .group rfl (.column rfl (.many rfl rfl rfl (.inr ?_) ?_ ?_ ?_ .nil)) ?_ .nil
  · exact ⟨.unknown, htruths ▸ List.mem_singleton_self _, by decide⟩
  · exact fun _ hnil => absurd (htruths.symm.trans hnil) (by decide)
  · exact fun _ => congrArg List.length htruths
  · exact fun _ => List.not_mem_nil
  · exact fun _ key _ hmem => absurd hmem List.not_mem_nil

theorem mem_rows_iff_published : ∃ deferred joined n m,
    (Setting.default .newsroom).applyFilter (Draft.new "users") .published "users" false 0 = .ok (deferred, n) ∧
    (Setting.default .newsroom).applyFilter (Draft.new "users") .published "users" true 0 = .ok (joined, m) ∧
    ∀ row, row ∈ (deferred.toSelect.rows Dialect.words .desk fun _ => .null).map (fun x => x "users") ↔
      row ∈ (joined.toSelect.rows Dialect.words .desk fun _ => .null).map fun x => x "users" := by
  obtain ⟨deferred, n, h⟩ : ∃ draft n, (Setting.default .newsroom).applyFilter (Draft.new "users") .published "users"
      false 0 = .ok (draft, n) := ⟨_, _, rfl⟩
  obtain ⟨joined, m, h'⟩ : ∃ draft n, (Setting.default .newsroom).applyFilter (Draft.new "users") .published "users"
      true 0 = .ok (draft, n) := ⟨_, _, rfl⟩
  exact ⟨deferred, joined, n, m, h, h', fun row => mem_rows_iff_of_joinable h h'
    (Geometry.ofCell_postgis _ _) _ (Filter.joinable_published row)⟩

/-- Users with an article without a title. -/
def Filter.headless : Filter :=
  [.field (.mk "articles" none) [.field (.mk "title" none) [.comparison .null (.bool true)]]]

/-- Users with an article that is and is not of a title, as the only alternative. -/
def Filter.torn : Filter :=
  [.group .or [[.field (.mk "articles" none) [.field (.mk "title" none)
    [.comparison .eq (.string "x"), .comparison .neq (.string "x")]]]]]

/-- Users with an article of one title and an article of another. -/
def Filter.twice : Filter :=
  [.group .and [[.field (.mk "articles" none) [.field (.mk "title" none) [.comparison .eq (.string "x")]]],
    [.field (.mk "articles" none) [.field (.mk "title" none) [.comparison .eq (.string "y")]]]]]

/-- The two statements differ for a user without articles, for conditions that become alternatives
when they are joined, and for two articles that are joined as one. -/
theorem rows_joined_differ : Sql.Database.desk.Keyed .newsroom ∧ ∀ f ∈ [Filter.headless, .torn, .twice],
    ∃ deferred joined n m,
      (Setting.default .newsroom).applyFilter (Draft.new "users") f "users" false 0 = .ok (deferred, n) ∧
      (Setting.default .newsroom).applyFilter (Draft.new "users") f "users" true 0 = .ok (joined, m) ∧
      ¬ ∀ row, row ∈ (deferred.toSelect.rows Dialect.words .desk fun _ => .null).map (fun x => x "users") ↔
        row ∈ (joined.toSelect.rows Dialect.words .desk fun _ => .null).map fun x => x "users" := by
  -- rows are told apart by the names of the users
  have hnames {as bs : List (Env String)} (name : String) (ha : some name ∈ as.map fun x => x "users" "name")
      (hb : some name ∉ bs.map fun x => x "users" "name") :
      ¬ ∀ row, row ∈ as.map (fun x => x "users") ↔ row ∈ bs.map fun x => x "users" := by
    intro h
    obtain ⟨x, hx, hname⟩ := List.mem_map.1 ha
    obtain ⟨y, hy, hrow⟩ := List.mem_map.1 ((h (x "users")).1 (List.mem_map_of_mem hx))
    exact hb (List.mem_map.2 ⟨y, hy, (congrFun hrow "name").trans hname⟩)
  refine ⟨Sql.Database.keyed_desk, fun f hf => ?_⟩
  simp only [List.mem_cons, List.not_mem_nil, or_false] at hf
  rcases hf with rfl | rfl | rfl
  · refine ⟨_, _, _, _, rfl, rfl, fun h => ?_⟩
    exact hnames "Bo" (by decide +kernel) (by decide +kernel) fun row => (h row).symm
  · refine ⟨_, _, _, _, rfl, rfl, fun h => ?_⟩
    exact hnames "Ann" (by decide +kernel) (by decide +kernel) fun row => (h row).symm
  · refine ⟨_, _, _, _, rfl, rfl, ?_⟩
    exact hnames "Ann" (by decide +kernel) (by decide +kernel)

end PathQuery
