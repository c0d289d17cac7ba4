import PathQuery.Proofs.Compile.Query
import PathQuery.Proofs.Compile.Test
import PathQuery.Proofs.Filter.Parts
import PathQuery.Proofs.Schema.Names
import PathQuery.Proofs.Sql.Vocabulary

/-!
# What compiled statements are made of

A query without geometry compiles to a safe statement: its names are the collection, names of the
schema, fields that the query names, and aliases (`Query.Names`). Operands and search terms are none
of these, so they reach the text only through placeholders.
-/

namespace PathQuery

open Sql (Column Predicate Draft Join)

def Filter.IsFlat (f : Filter) : Prop := f.Forall fun op => op.isShape = false

/-- The names that a compiled query may use. -/
inductive Query.Names (setting : Setting) (c : String) (q : Query) : String → Prop where
  | collection : Names setting c q c
  | schema {s} (h : setting.schema.Mentions s) : Names setting c q s
  | aliasName (n : Nat) : Names setting c q (setting.source.token n)
  | filter {f s} (hf : q.filter = some f) (hs : f.HasField s) : Names setting c q s
  | sort {key} (hk : key ∈ Text.trimAll (q.sort.getD [])) : Names setting c q (sortKey key).1

/-- Whether names contain those of a schema and the aliases of a source. -/
structure Setting.Within (setting : Setting) (N : String → Prop) : Prop where
  schema : ∀ s, setting.schema.Mentions s → N s
  aliasName : ∀ n, N (setting.source.token n)

structure Plan.Safe (N : String → Prop) (p : Plan) : Prop where
  aliases : ∀ path a, p.aliases.lookup? path = some a → N a
  joins : ∀ j ∈ p.joins, j.Safe N

variable {setting : Setting} {N : String → Prop}

theorem Test.on_safe {g : Geometry} {c : Column} (hc : c.Safe N) {t : Test} (h : t.isFlat = true) :
    (t.on g c).Safe N := by
  induction t with
  | const value => exact Predicate.safe_const value
  | null value => exact Predicate.safe_compare hc Column.safe_null
  | compare op p => exact Predicate.safe_compare hc (Column.safe_param p)
  | among ps =>
    refine Predicate.safe_compare hc (Column.safe_list ?_)
    exact List.forall_mem_map.2 fun p _ => Column.safe_param p
  | between low high =>
    exact Predicate.safe_between hc (Column.safe_param low) (Column.safe_param high)
  | shape op p => exact absurd h Bool.false_ne_true
  | not t ih => exact Predicate.safe_not (ih h)

theorem AliasMap.tableFor_of {m : AliasMap} {path : Path} {c : String} (hc : N c)
    (ha : ∀ a, m.lookup? path = some a → N a) : N (m.tableFor path c) := by
  unfold tableFor
  split
  · exact hc
  · cases h : m.lookup? path with
    | none => exact hc
    | some a => exact ha a h

theorem columnConditions_safe {pass : Pass} {c : String} {path : Path} {field : String} {f : Filter}
    {ps : List Predicate} (h : columnConditions setting pass c path field f = .ok ps) (hf : f.IsFlat)
    (ht : N (pass.aliases.tableFor path c)) (hn : N field) : ∀ p ∈ ps, p.Safe N := by
  obtain ⟨tests, hflat, rfl⟩ := exists_tests_of_columnConditions h
  have hs : f.comparisons.all (fun c => !c.1.isShape) = true := by
    rw [List.all_eq_true]
    intro c hc
    rw [hf.comparisons c hc]
    rfl
  exact List.forall_mem_map.2 fun t ht' => Test.on_safe (Column.safe_field ht hn) (hflat hs t ht')

theorem Hop.condition_safe {h : Hop} {segment : Segment} {c table target a field : String}
    {on : Predicate} (hN : setting.Within N) (hh : setting.schema.hop? c field = some h)
    (ht : N table) (ha : N a)
    (ho : h.condition setting.schema segment c table target a = .ok on) : on.Safe N := by
  have hf := hN.schema _ (Schema.mentions_relation_field hh)
  unfold Hop.condition at ho
  split at ho
  next =>
    obtain ⟨key, hk, ho⟩ := exists_of_bind_eq_ok ho
    obtain rfl := Except.ok.inj ho
    have hk := hN.schema _ (Schema.mentions_primaryKey hk)
    exact Predicate.safe_compare (Column.safe_field ht hf) (Column.safe_field ha hk)
  next =>
    split at ho
    next => exact absurd ho (by simp)
    next collectionField hc =>
      obtain ⟨key, hk, ho⟩ := exists_of_bind_eq_ok ho
      obtain rfl := Except.ok.inj ho
      have hk := hN.schema _ (Schema.mentions_primaryKey hk)
      have hc := hN.schema _ (Schema.mentions_collectionField hh hc)
      exact Predicate.closed_safe.conj
        (Predicate.safe_compare (Column.safe_field ht hf) (Column.safe_field ha hk))
        (Predicate.safe_compare (Column.safe_field ht hc) (Column.safe_param _))
  next =>
    obtain ⟨key, hk, ho⟩ := exists_of_bind_eq_ok ho
    obtain rfl := Except.ok.inj ho
    have hk := hN.schema _ (Schema.mentions_primaryKey hk)
    exact Predicate.safe_compare (Column.safe_field ht hk) (Column.safe_field ha hf)

theorem Plans.safe {subquery : Bool} {c : String} {path : Path} {f : Filter} {p p' : Plan}
    (h : Plans setting subquery c path f p p') (hN : setting.Within N) (hc : N c) (hp : p.Safe N) :
    p'.Safe N := by
  induction h with
  | nil => exact hp
  | comparison _ ih => exact ih hc hp
  | everything _ _ ih => exact ih hc hp
  | group _ _ _ ihgroup ihrest => exact ihrest hc (ihgroup hc hp)
  | column _ _ ih => exact ih hc hp
  | unrelated _ _ _ ih => exact ih hc hp
  | deferred _ _ _ _ ih => exact ih hc hp
  | hop _ hh _ ht ha _ _ ihnested ihrest =>
    have htarget := hN.schema _ (Schema.mentions_target hh ht)
    refine ihrest hc (ihnested htarget ?_)
    cases ha with
    | known _ => exact hp
    | @joins n on draws hn hf ho =>
      refine ⟨fun path a h => ?_, ?_⟩
      · rcases AliasMap.eq_or_of_lookup?_record h with ⟨-, rfl⟩ | h
        · exact hN.aliasName n
        · exact hp.aliases path a h
      · refine List.forall_mem_append.2 ⟨hp.joins, List.forall_mem_singleton.2 ?_⟩
        refine ⟨htarget, hN.aliasName n, Hop.condition_safe hN hh ?_ (hN.aliasName n) ho⟩
        exact AliasMap.tableFor_of hc (hp.aliases _)

theorem planJoins_safe {subquery : Bool} {c : String} {f : Filter} {d : Nat} {plan : Plan}
    (h : planJoins setting subquery c f d = .ok plan) (hN : setting.Within N) (hc : N c) :
    plan.Safe N := by
  refine (plans_of_planJoins h).safe hN hc ⟨fun path a h => ?_, fun j hj => ?_⟩
  · exact absurd h (by simp)
  · exact absurd hj List.not_mem_nil

theorem Plan.Safe.apply_body {plan : Plan} (h : plan.Safe N) {ps : List Predicate}
    (hps : ∀ p ∈ ps, p.Safe N) {d : Draft} (hd : d.Safe N) : ((plan.body ps).apply d).Safe N := by
  have hj := hd.addJoins h.joins
  unfold Compiled.apply Plan.body
  dsimp only
  split
  next p hp => exact hj.andWhere (Predicate.closed_safe.all hps p hp)
  next => exact hj

theorem Walks.safe {pass : Pass} {c : String} {path : Path} {f : Filter} {ps : List Predicate}
    (h : Walks setting pass c path f ps) (hN : setting.Within N) (hc : N c)
    (ha : ∀ path a, pass.aliases.lookup? path = some a → N a) (hflat : f.IsFlat)
    (hf : ∀ s, f.HasField s → N s) : ∀ p ∈ ps, p.Safe N := by
  induction h with
  | nil => exact fun p hp => absurd hp List.not_mem_nil
  | everything _ _ ih =>
    rw [List.forall_mem_cons]
    exact ⟨Predicate.safe_const true, ih hc ha hflat.rest fun s h => hf s (.rest h)⟩
  | group _ _ _ ihgroup ihrest =>
    have hall := ihgroup hc ha hflat.children fun s h => hf s (.group h)
    refine List.forall_mem_append.2 ⟨fun p hp => ?_, ihrest hc ha hflat.rest fun s h => hf s (.rest h)⟩
    exact Predicate.closed_safe.all hall p (Option.mem_toList.1 hp)
  | column _ _ hq _ ih =>
    refine List.forall_mem_append.2 ⟨?_, ih hc ha hflat.rest fun s h => hf s (.rest h)⟩
    exact columnConditions_safe hq hflat.nested (AliasMap.tableFor_of hc (ha _)) (hf _ .here)
  | deferred _ _ hh _ hk hp _ _ ihbody ihrest =>
    -- the statement inside is safe as a draft of its own, over the aliases of its plan
    have hrel := hN.schema _ (Schema.mentions_relation_collection hh)
    have hplan := planJoins_safe hp hN hrel
    have hbody := ihbody hrel hplan.aliases hflat.nested fun s h => hf s (.nested h)
    have hfk := Column.safe_field hrel (hN.schema _ (Schema.mentions_relation_field hh))
    have hdraft := hplan.apply_body hbody ((Draft.Safe.new hrel).withColumns (List.forall_mem_singleton.2 hfk))
    have hkey := Column.safe_field hc (hN.schema _ (Schema.mentions_primaryKey hk))
    rw [List.forall_mem_cons]
    exact ⟨Predicate.safe_compare hkey (Column.safe_query hdraft.toSelect),
      ihrest hc ha hflat.rest fun s h => hf s (.rest h)⟩
  | hop _ _ hh _ ht _ _ ihnested ihrest =>
    have htarget := hN.schema _ (Schema.mentions_target hh ht)
    exact List.forall_mem_append.2 ⟨ihnested htarget ha hflat.nested fun s h => hf s (.nested h),
      ihrest hc ha hflat.rest fun s h => hf s (.rest h)⟩

theorem search_safe {c : String} {tests : List Predicate} (hN : setting.Within N) (hc : N c)
    (h : ∀ t ∈ tests, SearchTest setting.schema c t) :
    ((Sql.Logical.all .or tests).getD (.const false)).Safe N := by
  have hsafe : ∀ t ∈ tests, t.Safe N := by
    intro t ht
    cases h t ht with
    | like hk hp pattern =>
      have hf := Column.safe_field hc (hN.schema _ (.field hk hp))
      exact Predicate.safe_compare (Column.safe_lower hf) (Column.safe_param pattern)
    | eq hk hp value =>
      have hf := Column.safe_field hc (hN.schema _ (.field hk hp))
      exact Predicate.safe_compare hf (Column.safe_param value)
  exact Predicate.closed_safe.getD (Predicate.closed_safe.all hsafe) false

theorem Query.within_names (setting : Setting) (c : String) (q : Query) :
    setting.Within (q.Names setting c) :=
  ⟨fun _ h => .schema h, .aliasName⟩

/-- A query without geometry adds nothing to an empty draft but safe parts. -/
theorem applyQuery_safe {c : String} {q : Query} {subquery : Bool} {n n' : Nat} {d : Draft}
    (h : setting.applyQuery (Draft.new c) c q subquery n = .ok (d, n'))
    (hflat : ∀ f ∈ q.filter, f.IsFlat) : d.Safe (q.Names setting c) := by
  have hN := q.within_names setting c
  have hc : q.Names setting c c := .collection
  refine applyQuery_induction h ?_ ?_ ?_
  · intro order limit offset horder
    refine { Draft.Safe.new hc with order := fun o ho => ?_ }
    obtain ⟨key, hk, ho⟩ := horder o ho
    rw [ho]
    exact Column.safe_field hc (.sort hk)
  · intro d f hf m plan ps hp hw _ hd
    have hplan := planJoins_safe hp hN hc
    exact hplan.apply_body (hw.safe hN hc hplan.aliases (hflat f hf) fun s hs => .filter hf hs) hd
  · intro d tests htests hd
    exact hd.andWhere (search_safe hN hc htests)

/-! ## What the text of statements holds -/

open Sql (SqlText Select Token) in
/-- The text that a plain column, condition or statement adds to any text is read as its symbols:
each name is one quoted name, each parameter the next placeholder. So the text of a compiled query
without geometry has nothing but names of the query and the schema, placeholders and the fixed
vocabulary. -/
theorem text_holds_no_values (before : SqlText) :
    (∀ c : Column, c.isPlain Sql.isLetters = true → before.Writes c.piece c.symbols) ∧
    (∀ p : Predicate, p.isPlain Sql.isLetters = true → before.Writes p.piece p.symbols) ∧
    (∀ s : Select, s.isPlain Sql.isLetters = true → before.Writes s.piece s.symbols) ∧
    ∀ (setting : Setting) (c : String) (q : Query) (subquery : Bool) (n n' : Nat) (d : Draft),
      (∀ f ∈ q.filter, f.IsFlat) → setting.applyQuery (Draft.new c) c q subquery n = .ok (d, n') →
      d.toSelect.isPlain Sql.isLetters = true ∧ ∃ tokens, Token.read d.toSql.text.toList = some tokens ∧
        (∀ t ∈ tokens, t.From (q.Names setting c)) ∧
        tokens.filterMap Token.placeholder? = List.range' 1 d.toSql.params.length := by
  refine ⟨fun c hc => before.writes_of_spells (c.spells hc), fun p hp => ?_,
    fun s hs => before.writes_of_spells (s.spells hs), ?_⟩
  · exact before.writes_of_spells (p.spells none hp)
  · intro setting c q subquery n n' d hflat h
    have hsafe := (applyQuery_safe h hflat).toSelect
    obtain ⟨text, ht, hread, hplaceholders, hparams⟩ :=
      SqlText.empty.writes_of_spells (d.toSelect.spells hsafe.plain)
    refine ⟨hsafe.plain, Sql.Symbol.number 0 d.toSelect.symbols, ?_, ?_, ?_⟩
    · have hempty : d.toSql.text = text := ht.trans (String.empty_append)
      rw [hempty]
      exact hread
    · exact Token.from_of_mem_number hsafe.symbols
    · have hparams : d.toSql.params = Sql.Symbol.params d.toSelect.symbols := hparams
      rw [hparams]
      exact hplaceholders

/-- The articles of an author, latest titles first. -/
def Query.byAuthor : Query where
  sort := some ["-title"]
  limit := some 3
  offset := none
  page := none
  filter := some [.field (.mk "author" none) [.field (.mk "name" none) [.comparison .eq (.string "\" OR $1")]]]
  search := some "y"

open Sql (SqlText Select Token) in
/-- Names that look like quotes and placeholders, behind a parameter, and a query for articles. -/
theorem byAuthor_text_holds_no_values :
    SqlText.Writes ⟨"$1 ", [.bool true]⟩ (Column.field "a\"$1" "b").piece (Column.field "a\"$1" "b").symbols ∧
    SqlText.Writes ⟨"$1 ", [.bool true]⟩ (Predicate.compare .like (.call "LOWER" .null) (.param (.text "$"))).piece
      (Predicate.compare .like (.call "LOWER" .null) (.param (.text "$"))).symbols ∧
    SqlText.Writes ⟨"$1 ", [.bool true]⟩ (Draft.new "\"").toSelect.piece (Draft.new "\"").toSelect.symbols ∧
    ∃ d n, (Setting.default .newsroom).applyQuery (Draft.new "articles") "articles" .byAuthor false 0 =
        .ok (d, n) ∧ d.toSelect.isPlain Sql.isLetters = true ∧
      ∃ tokens, Token.read d.toSql.text.toList = some tokens ∧
        (∀ t ∈ tokens, t.From (Query.byAuthor.Names (.default .newsroom) "articles")) ∧
        tokens.filterMap Token.placeholder? = List.range' 1 d.toSql.params.length := by
  obtain ⟨hc, hp, hs, hq⟩ := text_holds_no_values ⟨"$1 ", [.bool true]⟩
  refine ⟨hc _ rfl, hp _ rfl, hs _ rfl, _, _, rfl, ?_⟩
  refine hq _ _ _ false 0 _ _ ?_ rfl
  rintro _ ⟨⟩
  exact .field (.field (.comparison rfl .nil) .nil) .nil

end PathQuery
