import PathQuery.Proofs.Compile.Bound
import PathQuery.Proofs.Sql.Compared

/-!
# Parameters have the types of their columns

* `Schema.AsksEmpty` : the columns that a filter compares with the empty text, whatever their types
  are;
* `Schema.Types`, `Schema.Typed` : whether what a column is compared with belongs to the type of the
  column's field, and whether all of a statement does so;
* `Draft.Typed` : whether this holds of the statement of a draft and of those inside.

A walk compares the columns of its places (`Walks.types`), and the name of a place stands for the
collection that the place is about (`mem_tables_of_planJoins`); both hold again of the statements
inside (`Walks.typed_queries`). A search does so for the fields of the collection
(`types_of_compileSearch`).
-/

namespace PathQuery

open Sql (Column Predicate Draft Join Select Compared Table Logical joined)

/-- Whether a filter about a collection asks if a field of another, which it leads to, is the empty
text. -/
inductive Schema.AsksEmpty (s : Schema) : String → Filter → String → String → Prop where
  | here {c segment nested rest o} (hc : Filter.isComparisons nested = true) (ho : o ∈ Filter.comparisons nested)
      (he : o.1 = .empty ∨ o.1 = .notEmpty) : AsksEmpty s c (.field segment nested :: rest) c segment.field
  | hop {c segment nested rest hop target t field} (hh : s.hop? c segment.field = some hop)
      (ht : hop.target s segment = .ok target) (h : AsksEmpty s target nested t field) :
      AsksEmpty s c (.field segment nested :: rest) t field
  | group {c op children rest t field} (hm : Filter.matchesAll op children = false)
      (h : AsksEmpty s c children.flatten t field) : AsksEmpty s c (.group op children :: rest) t field
  | rest {c node rest t field} (h : AsksEmpty s c rest t field) : AsksEmpty s c (node :: rest) t field

/-- Whether a parameter has the type of a field if the schema has the field, but for the empty text
where it is asked for. -/
def Schema.Suits (s : Schema) (E : String → String → Prop) (c field : String) (v : Param) : Prop :=
  ∀ f, s.field? c field = some f → v.kind = f.type.kind ∨ v = .text "" ∧ E c field

/-- Whether the name of a compared column stands for a collection whose field the parameter
suits. -/
def Schema.Types (s : Schema) (E : String → String → Prop) (t : Table) (k : Compared) : Prop :=
  ∃ c, (k.table, c) ∈ t.tables ∧ s.Suits E c k.column k.param

theorem Schema.Types.mono {s : Schema} {E : String → String → Prop} {t t' : Table} {k : Compared} (h : s.Types E t k)
    (ht : t.tables ⊆ t'.tables) : s.Types E t' k :=
  h.imp fun _ hc => ⟨ht hc.1, hc.2⟩

/-- Whether a statement has its tables under different names and compares their columns with what
suits them. -/
structure Schema.Typed (s : Schema) (E : String → String → Prop) (q : Select) : Prop where
  nodup : q.source.names.Nodup
  compared : ∀ k ∈ q.condition.compared, s.Types E q.source k

variable {setting : Setting} {subquery : Bool} {c : String} {path : Path} {f : Filter} {E : String → String → Prop}

/-! ## Comparisons -/

/-- Whatever an operator asks of a column compares it with operands of its type, or with the empty
text. -/
theorem Test.From.compared {type : Option FieldType} {op : Operator} {t : Test} (h : t.From type op) {g : Geometry}
    (hg : g.IsRaw) (table column : String) : ∀ k ∈ (t.on g (.field table column)).compared,
      ∃ p, k = ⟨table, column, p⟩ ∧
        ((∃ v, castValue v type = .ok p) ∨ p = .text "" ∧ (op = .empty ∨ op = .notEmpty)) := by
  induction h with
  | const => exact List.forall_mem_nil _
  | null =>
    intro k hk
    obtain ⟨-, p, hp, -⟩ := Predicate.mem_compared_compare (fun _ _ => Column.noConfusion) hk
    exact absurd hp List.not_mem_nil
  | empty ho =>
    intro k hk
    obtain ⟨-, p, hp, rfl⟩ := Predicate.mem_compared_compare (fun _ _ => Column.noConfusion) hk
    exact ⟨p, rfl, .inr ⟨List.mem_singleton.1 hp, ho⟩⟩
  | @compare _ v _ hcast =>
    intro k hk
    obtain ⟨-, p, hp, rfl⟩ := Predicate.mem_compared_compare (fun _ _ => Column.noConfusion) hk
    exact ⟨p, rfl, .inl ⟨v, List.mem_singleton.1 hp ▸ hcast⟩⟩
  | like => exact List.forall_mem_nil _
  | among hps =>
    intro k hk
    obtain ⟨-, p, hp, rfl⟩ := Predicate.mem_compared_compare (fun _ _ => Column.noConfusion) hk
    obtain ⟨c, hc, hp⟩ := List.mem_filterMap.1 hp
    obtain ⟨p', hp', rfl⟩ := List.mem_map.1 hc
    obtain rfl := Option.some.inj hp
    exact ⟨p', rfl, .inl (hps p' hp')⟩
  | between hl hh =>
    rw [Test.on, Predicate.compared_between]
    exact List.forall_mem_cons.2 ⟨⟨_, rfl, .inl ⟨_, hl⟩⟩, List.forall_mem_singleton.2 ⟨_, rfl, .inl ⟨_, hh⟩⟩⟩
  | shape _ geojson =>
    obtain ⟨fragments, hraw, -⟩ := hg _ (.field table column) (.text geojson)
    rw [Test.on, hraw]
    exact List.forall_mem_nil _
  | not _ ih => exact ih

theorem columnConditions_types {pass : Pass} {segment : Segment} {nested : Filter} {ps : List Predicate} {t : Table}
    (h : columnConditions setting pass c path segment.field nested = .ok ps) (hg : setting.geometry.IsRaw)
    (ht : (pass.aliases.tableFor path c, c) ∈ t.tables)
    (hE : ∀ o ∈ nested.comparisons, o.1 = .empty ∨ o.1 = .notEmpty → E c segment.field) :
    ∀ p ∈ ps, ∀ k ∈ p.compared, setting.schema.Types E t k := by
  obtain ⟨tests, hfrom, rfl⟩ := exists_asked_of_columnConditions h
  refine List.forall_mem_map.2 fun test htest k hk => ?_
  obtain ⟨o, ho, hfrom⟩ := hfrom test htest
  obtain ⟨p, rfl, hp⟩ := hfrom.compared hg _ _ k hk
  refine ⟨c, ht, fun fld hfld => ?_⟩
  rcases hp with ⟨v, hv⟩ | ⟨hp, hop⟩
  · rw [hfld] at hv
    exact .inl (kind_of_castValue hv)
  · exact .inr ⟨hp, hE o ho hop⟩

/-! ## Places -/

theorem Reaches.destination? {root c' : String} {path' : Path} (h : Reaches setting subquery c path f c' path')
    (hc : setting.schema.destination? root (path.map Segment.ofKey) = some c) :
    setting.schema.destination? root (path'.map Segment.ofKey) = some c' := by
  induction h with
  | here => exact hc
  | rest _ ih => exact ih hc
  | group _ _ ih => exact ih hc
  | hop _ hh _ ht _ ih =>
    exact ih (Schema.destination?_concat hc hh ht)

/-- In the statement of a pass, the name of a place stands for the collection that the place is
about. -/
theorem mem_tables_of_planJoins {n : Nat} {plan : Plan} (h : planJoins setting subquery c f n = .ok plan)
    {c' : String} {path' : Path} (hr : Reaches setting subquery c [] f c' path') :
    (plan.aliases.tableFor path' c', c') ∈ (joined c plan.joins).tables := by
  rw [Sql.tables_joined]
  exact (stems_of_planJoins h).mem_namedTables ((fits_of_planJoins h).2 c' path' hr)
    (hr.destination? rfl)

theorem Walks.types {pass : Pass} {ps : List Predicate} {t : Table} (h : Walks setting pass c path f ps)
    (hg : setting.geometry.IsRaw) (hE : ∀ c' field, setting.schema.AsksEmpty c f c' field → E c' field)
    (ht : ∀ c' path', Reaches setting pass.subquery c path f c' path' →
      (pass.aliases.tableFor path' c', c') ∈ t.tables) :
    ∀ p ∈ ps, ∀ k ∈ p.compared, setting.schema.Types E t k := by
  induction h with
  | nil => exact List.forall_mem_nil _
  | everything _ _ ih =>
    refine List.forall_mem_cons.2 ⟨List.forall_mem_nil _, ?_⟩
    exact ih (fun c' field h => hE c' field (.rest h)) fun c' path' h => ht c' path' (.rest h)
  | group hm _ _ ihgroup ihrest =>
    have hgroup := ihgroup (fun c' field h => hE c' field (.group hm h)) fun c' path' h => ht c' path' (.group hm h)
    refine List.forall_mem_append.2 ⟨fun p hp => ?_, ?_⟩
    · exact (Predicate.closed_compared _).all hgroup p (Option.mem_toList.1 hp)
    · exact ihrest (fun c' field h => hE c' field (.rest h)) fun c' path' h => ht c' path' (.rest h)
  | column hc _ hq _ ih =>
    refine List.forall_mem_append.2 ⟨?_, ?_⟩
    · exact columnConditions_types hq hg (ht _ _ .here) fun o ho he => hE _ _ (.here hc ho he)
    · exact ih (fun c' field h => hE c' field (.rest h)) fun c' path' h => ht c' path' (.rest h)
  | deferred _ _ _ _ _ _ _ _ _ ihrest =>
    refine List.forall_mem_cons.2 ⟨List.forall_mem_nil _, ?_⟩
    exact ihrest (fun c' field h => hE c' field (.rest h)) fun c' path' h => ht c' path' (.rest h)
  | hop hc _ hh hf htarget _ _ ihnested ihrest =>
    refine List.forall_mem_append.2 ⟨?_, ?_⟩
    · exact ihnested (fun c' field h => hE c' field (.hop hh htarget h))
        fun c' path' h => ht c' path' (.hop hc hh hf htarget h)
    · exact ihrest (fun c' field h => hE c' field (.rest h)) fun c' path' h => ht c' path' (.rest h)

/-! ## Statements -/

theorem Schema.typed_toSelect {s : Schema} {d : Draft} (hn : d.names.Nodup)
    (hc : ∀ p ∈ d.condition, ∀ k ∈ p.compared, s.Types E (joined d.table d.joins) k) : s.Typed E d.toSelect := by
  refine ⟨Draft.names_source d ▸ hn, ?_⟩
  exact (Predicate.closed_compared _).getD hc true

/-- The statements in the conditions of a walk compare their columns with what suits them. -/
theorem Walks.typed_queries {pass : Pass} {ps : List Predicate} (h : Walks setting pass c path f ps)
    (hg : setting.geometry.IsRaw)
    (hE : ∀ c' field, setting.schema.AsksEmpty c f c' field → E c' field) :
    ∀ p ∈ ps, ∀ s ∈ p.queries, setting.schema.Typed E s := by
  induction h with
  | nil => exact List.forall_mem_nil _
  | everything _ _ ih =>
    exact List.forall_mem_cons.2 ⟨List.forall_mem_nil _, ih fun c' field h => hE c' field (.rest h)⟩
  | group hm _ _ ihgroup ihrest =>
    have hgroup := ihgroup fun c' field h => hE c' field (.group hm h)
    refine List.forall_mem_append.2 ⟨fun p hp => ?_, ihrest fun c' field h => hE c' field (.rest h)⟩
    exact (Predicate.closed_queries _).all hgroup p (Option.mem_toList.1 hp)
  | column _ _ hq _ ih =>
    obtain ⟨tests, -, rfl⟩ := exists_tests_of_columnConditions hq
    refine List.forall_mem_append.2 ⟨List.forall_mem_map.2 fun t _ => ?_, ?_⟩
    · rw [(t.on_nests hg.isScalar rfl).queries_eq_nil]
      exact List.forall_mem_nil _
    · exact ih fun c' field h => hE c' field (.rest h)
  | @deferred pass c path segment nested rest hop key plan draws qs ps _ _ hh hf _ hp hbody _ _ ihrest =>
    have htarget := Hop.target_of_oneToMany (s := setting.schema) (Hop.isDeferred_iff.1 hf).1 segment
    refine List.forall_mem_cons.2
      ⟨List.forall_mem_singleton.2 ?_, ihrest fun c' field h => hE c' field (.rest h)⟩
    -- the statement inside is that of a pass over what the hop leads to
    have htypes := hbody.types hg (fun c' field h => hE c' field (.hop hh htarget h))
      fun c' path' hr => mem_tables_of_planJoins hp hr
    have hsound := (plans_of_planJoins hp).sound (Plan.sound_start _ draws)
    rw [hsound.apply_new]
    exact Schema.typed_toSelect hsound.nodup ((Predicate.closed_compared _).all htypes)
  | hop _ _ hh _ ht _ _ ihnested ihrest =>
    exact List.forall_mem_append.2 ⟨ihnested fun c' field h => hE c' field (.hop hh ht h),
      ihrest fun c' field h => hE c' field (.rest h)⟩

/-! ## Queries -/

theorem types_of_compileSearch {s : Schema} {term : String} {p : Predicate} {t : Table}
    (h : compileSearch s c term = .ok p) (ht : (c, c) ∈ t.tables) : ∀ k ∈ p.compared, s.Types E t k := by
  obtain ⟨collection, hcollection, rfl⟩ := exists_of_compileSearch h
  have hfields : ∀ q ∈ collection.fields.entries.filterMap fun f => searchField? c term f.1 f.2,
      ∀ k ∈ q.compared, s.Types E t k := by
    intro q hq
    obtain ⟨⟨name, field⟩, hfield, hq⟩ := List.mem_filterMap.1 hq
    unfold searchField? at hq
    dsimp only at hq
    split at hq
    · obtain rfl := Option.some.inj hq
      exact List.forall_mem_nil _
    · obtain ⟨value, hvalue, rfl⟩ := Option.map_eq_some_iff.1 hq
      intro k hk
      obtain ⟨-, v, hv, rfl⟩ := Predicate.mem_compared_compare (fun _ _ => Column.noConfusion) hk
      obtain rfl := List.mem_singleton.1 hv
      refine ⟨c, ht, fun fld hfld => .inl ?_⟩
      obtain rfl := Option.some.inj ((Schema.field?_of_mem hcollection hfield).symm.trans hfld)
      exact kind_of_exactMatch? hvalue
  have hclosed := Predicate.closed_compared (s.Types E t)
  exact hclosed.getD (hclosed.all hfields) false

theorem queries_of_compileSearch {s : Schema} {term : String} {p : Predicate} (h : compileSearch s c term = .ok p) :
    p.queries = [] := by
  obtain ⟨tests, htests, rfl⟩ := compileSearch_eq_ok h
  have hnone : ∀ t ∈ tests, ∀ q ∈ t.queries, False := by
    intro t ht
    cases htests t ht <;> exact List.forall_mem_nil _
  have hclosed := Predicate.closed_queries fun _ => False
  exact List.eq_nil_iff_forall_not_mem.2 (hclosed.getD (hclosed.all hnone) false)

/-- Whether the statement of a draft and those inside, none of which holds another one, compare
columns with what suits them. -/
structure Draft.Typed (s : Schema) (E : String → String → Prop) (c : String) (d : Draft) : Prop where
  table : d.table = c
  columns : d.columns = []
  order : ∀ o ∈ d.order, o.column.queries = []
  joins : ∀ j ∈ d.joins, j.on.queries = []
  nodup : d.names.Nodup
  compared : ∀ p ∈ d.condition, ∀ k ∈ p.compared, s.Types E (joined d.table d.joins) k
  inside : ∀ p ∈ d.condition, ∀ q ∈ p.queries, q.queries = [] ∧ s.Typed E q

theorem Draft.Typed.of_inside {s : Schema} {d : Draft} (h : Draft.Typed s E c d) {q : Select}
    (hq : q.Inside d.toSelect) : s.Typed E q := by
  cases hq with
  | refl => exact Schema.typed_toSelect h.nodup h.compared
  | @query _ t _ ht hq =>
    have hqueries : t ∈ (d.condition.getD (.const true)).queries := by
      have horder : d.order.flatMap (fun o => o.column.queries) = [] := List.flatMap_eq_nil_iff.2 h.order
      rw [Draft.queries_toSelect, Sql.queries_joined h.joins, h.columns, horder, List.append_nil] at ht
      exact ht
    obtain ⟨hnone, htyped⟩ := (Predicate.closed_queries _).getD h.inside true t hqueries
    cases hq with
    | refl => exact htyped
    | query ht' _ => exact absurd (hnone ▸ ht') List.not_mem_nil

theorem Draft.Typed.andWhere {s : Schema} {d : Draft} (h : Draft.Typed s E c d) {p : Predicate}
    (hp : ∀ k ∈ p.compared, s.Types E (joined d.table d.joins) k)
    (hq : ∀ q ∈ p.queries, q.queries = [] ∧ s.Typed E q) : Draft.Typed s E c (d.andWhere p) := by
  refine { h with compared := ?_, inside := ?_ }
  · rintro _ ⟨⟩
    exact (Predicate.closed_compared _).extend h.compared hp
  · rintro _ ⟨⟩
    exact (Predicate.closed_queries _).extend h.inside hq

/-- What a pass adds to a draft without joins compares the columns of its places with what suits
them. -/
theorem Draft.Typed.apply_body {d : Draft} {n : Nat} {plan : Plan} {ps : List Predicate}
    (h : Draft.Typed setting.schema E c d) (hj : d.joins = []) (hg : setting.geometry.IsRaw)
    (hE : ∀ c' field, setting.schema.AsksEmpty c f c' field → E c' field)
    (hp : planJoins setting subquery c f n = .ok plan) (hw : Walks setting ⟨subquery, plan.aliases⟩ c [] f ps) :
    Draft.Typed setting.schema E c ((plan.body ps).apply d) := by
  obtain rfl := h.table
  have hsound := (plans_of_planJoins hp).sound (Plan.sound_start d.table n)
  have hjoined : Draft.Typed setting.schema E d.table { d with joins := plan.joins } := by
    refine { h with joins := queries_of_planJoins hp, nodup := hsound.nodup, compared := fun p hp k hk => ?_ }
    refine (h.compared p hp k hk).mono ?_
    rw [Sql.tables_joined, Sql.tables_joined, hj]
    exact List.cons_subset_cons _ (List.nil_subset _)
  rw [hsound.apply_body hj]
  cases hall : Logical.all .and ps with
  | none => exact hjoined
  | some p =>
    refine hjoined.andWhere ?_ fun q hq => ⟨?_, ?_⟩
    · exact (Predicate.closed_compared _).all
        (hw.types hg hE fun c' path' hr => mem_tables_of_planJoins hp hr) p hall
    · obtain ⟨_, -, -, hkeys⟩ := (Predicate.closed_nests.all (hw.nests_keyList hg.isScalar) p hall).exists_law
        (fun _ _ h => h.2.1) q hq
      exact hkeys.queries
    · exact (Predicate.closed_queries _).all (hw.typed_queries hg hE) p hall q hq

theorem typed_of_applyQuery {q : Query} {n n' : Nat} {d : Draft} (hg : setting.geometry.IsRaw)
    (hE : ∀ f ∈ q.filter, ∀ c' field, setting.schema.AsksEmpty c f c' field → E c' field)
    (h : setting.applyQuery (Draft.new c) c q subquery n = .ok (d, n')) : Draft.Typed setting.schema E c d := by
  refine applyQuery_parts h ?_ ?_ ?_
  · intro order limit offset horder
    refine ⟨rfl, rfl, fun o ho => ?_, List.forall_mem_nil _, List.nodup_singleton c, ?_, ?_⟩
    · obtain ⟨key, -, heq⟩ := horder o ho
      rw [heq]
      rfl
    · exact fun p hp => absurd hp (Option.not_mem_none p)
    · exact fun p hp => absurd hp (Option.not_mem_none p)
  · intro d f hf m plan ps hp hw hj hd
    exact hd.apply_body hj hg (hE f hf) hp hw
  · intro d _ _ p hp hd
    have htable : (c, c) ∈ (joined d.table d.joins).tables := by
      rw [Sql.tables_joined, hd.table]
      exact List.mem_cons_self
    refine hd.andWhere (types_of_compileSearch hp htable) ?_
    rw [queries_of_compileSearch hp]
    exact List.forall_mem_nil _

/-- Every parameter has the type of the column that it is compared with. In a compiled statement and
in those inside, the name of a compared column stands for one collection, and if the schema has the
field there, each parameter has the type of the field; only the empty text is compared with any
field, where the filter asks for it. No JSON null is bound. -/
theorem kind_of_applyQuery {q : Query} {n n' : Nat} {d : Draft} (hg : setting.geometry.IsRaw)
    (h : setting.applyQuery (Draft.new c) c q subquery n = .ok (d, n')) :
    (∀ s : Select, s.Inside d.toSelect → ∀ k ∈ s.condition.compared, ∃ t, (k.table, t) ∈ s.source.tables ∧
      (∀ t', (k.table, t') ∈ s.source.tables → t' = t) ∧ ∀ field, setting.schema.field? t k.column = some field →
        k.param.kind = field.type.kind ∨
          k.param = .text "" ∧ ∃ f ∈ q.filter, setting.schema.AsksEmpty c f t k.column) ∧
    ∀ p ∈ d.toSql.params, p ≠ .json .null := by
  have htyped := typed_of_applyQuery hg
    (E := fun t field => ∃ f ∈ q.filter, setting.schema.AsksEmpty c f t field) (fun f hf _ _ h => ⟨f, hf, h⟩) h
  refine ⟨fun s hinside k hk => ?_, ?_⟩
  · obtain ⟨hnodup, hcompared⟩ := htyped.of_inside hinside
    obtain ⟨t, ht, hsuits⟩ := hcompared k hk
    exact ⟨t, ht, fun t' ht' => Table.eq_of_mem_tables hnodup ht' ht, hsuits⟩
  · rw [Draft.toSql, Select.params_toSql]
    exact (binds_of_applyQuery hg h).toSelect

/-- Articles with their lengths, and users with their ages. -/
def Schema.archive : Schema :=
  ⟨.mk [("articles", ⟨"id", .mk [("title", ⟨.string, false⟩), ("pages", ⟨.integer, false⟩)]⟩),
      ("users", ⟨"id", .mk [("name", ⟨.string, false⟩), ("age", ⟨.bigInteger, true⟩)]⟩)],
    [⟨"articles", "author", some "users", some ⟨some "articles", none, none, .nullify⟩⟩]⟩

/-- Users of an age who wrote an article without title or one of three or four pages, found by a
number. -/
def Query.veterans : Query where
  sort := none
  limit := none
  offset := none
  page := none
  filter := some [.field (.mk "age" none) [.comparison .gte (.number (.int 60))],
    .field (.mk "articles" none) [.group .or [[.field (.mk "title" none) [.comparison .empty (.bool true)]],
      [.field (.mk "pages" none) [.comparison .isIn (.array [.number (.int 3), .null, .number (.int 4)])]]]]]
  search := some "71"

/-- An age and the value of a search; inside, the empty text and the items of a list, of which null
is none. -/
theorem kind_of_veterans : ∃ d n,
    (Setting.default .archive).applyQuery (Draft.new "users") "users" .veterans false 0 = .ok (d, n) ∧
    d.toSelect.condition.compared.map (fun k => (k.column, k.param.kind)) = [("age", .int8), ("age", .int8)] ∧
    d.toSelect.queries.map (fun s => s.condition.compared.map fun k => (k.column, k.param.kind)) =
      [[("title", .text), ("pages", .int4), ("pages", .int4)]] ∧
    (∀ s : Select, s.Inside d.toSelect → ∀ k ∈ s.condition.compared, ∃ t, (k.table, t) ∈ s.source.tables ∧
      ∀ field, Schema.archive.field? t k.column = some field → k.param.kind = field.type.kind ∨
        k.param = .text "" ∧ ∃ f ∈ Query.veterans.filter, Schema.archive.AsksEmpty "users" f t k.column) ∧
    ∀ p ∈ d.toSql.params, p ≠ .json .null := by
  obtain ⟨d, n, h, hcompared, hqueries⟩ : ∃ d n,
      (Setting.default .archive).applyQuery (Draft.new "users") "users" .veterans false 0 = .ok (d, n) ∧
      d.toSelect.condition.compared.map (fun k => (k.column, k.param.kind)) = [("age", .int8), ("age", .int8)] ∧
      d.toSelect.queries.map (fun s => s.condition.compared.map fun k => (k.column, k.param.kind)) =
        [[("title", .text), ("pages", .int4), ("pages", .int4)]] := by
    refine ⟨_, _, rfl, ?_⟩
    decide +kernel
  obtain ⟨hkind, hnull⟩ := kind_of_applyQuery Geometry.isRaw_postgis h
  refine ⟨d, n, h, hcompared, hqueries, fun s hinside k hk => ?_, hnull⟩
  obtain ⟨t, ht, -, hfield⟩ := hkind s hinside k hk
  exact ⟨t, ht, hfield⟩

end PathQuery
