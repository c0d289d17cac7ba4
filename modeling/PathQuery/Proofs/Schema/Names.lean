import PathQuery.Proofs.Schema.Hop

/-!
# The names of a schema

* `Schema.Mentions` : the names that stand in a schema other than as the key of a collection. Hops
  and primary keys come to names that the schema mentions;
* `Schema.Relates` : the names of collections among these, which are those that hops come to.
-/

namespace PathQuery

def Relation.names (r : Relation) : List String :=
  [r.collection, r.field] ++ r.relatedCollection.toList ++
    (r.details.bind RelationDetails.oneCollectionField).toList ++
    (r.details.bind RelationDetails.oneAllowedCollections).getD []

/-- The collections that a relation leads from and to. -/
def Relation.collections (r : Relation) : List String :=
  r.collection :: r.relatedCollection.toList ++ (r.details.bind RelationDetails.oneAllowedCollections).getD []

namespace Schema

inductive Mentions (s : Schema) : String → Prop where
  | primary {name c} (hc : s.collection? name = some c) : Mentions s c.primary
  | field {name c p} (hc : s.collection? name = some c) (hp : p ∈ c.fields.entries) : Mentions s p.1
  | relation {r name} (hr : r ∈ s.relations) (hn : name ∈ r.names) : Mentions s name

variable {s : Schema} {hop : Hop} {c field key target : String} {segment : Segment}

theorem mentions_relation_field (h : s.hop? c field = some hop) : s.Mentions hop.relation.field :=
  .relation (relation_mem_of_hop? h) (by simp [Relation.names])

theorem mentions_relation_collection (h : s.hop? c field = some hop) :
    s.Mentions hop.relation.collection :=
  .relation (relation_mem_of_hop? h) (by simp [Relation.names])

theorem mentions_collectionField (h : s.hop? c field = some hop) {f : String}
    (hf : hop.collectionField? = some f) : s.Mentions f := by
  refine .relation (relation_mem_of_hop? h) ?_
  have hf : hop.relation.details.bind RelationDetails.oneCollectionField = some f := hf
  simp [Relation.names, hf]

theorem mentions_primaryKey (h : s.primaryKey c = .ok key) : s.Mentions key := by
  obtain ⟨k, hk, rfl⟩ := exists_of_primaryKey h
  exact .primary hk

theorem mentions_target (h : s.hop? c field = some hop) (ht : hop.target s segment = .ok target) :
    s.Mentions target := by
  refine .relation (relation_mem_of_hop? h) ?_
  obtain ⟨r, kind⟩ := hop
  cases kind with
  | manyToOne =>
    have hrelated := Hop.related_of_target ht
    simp [Relation.names, hrelated]
  | oneToMany =>
    obtain rfl := Except.ok.inj ht
    simp [Relation.names]
  | manyToAny =>
    obtain ⟨-, details, allowed, hd, hallowed, hm⟩ := Hop.scope_of_target ht
    simp [Relation.names, hd, hallowed, hm]

/-! ## Collections -/

/-- Whether a relation of the schema leads from or to a collection of this name. -/
def Relates (s : Schema) (name : String) : Prop := ∃ r ∈ s.relations, name ∈ r.collections

instance (s : Schema) (name : String) : Decidable (s.Relates name) :=
  inferInstanceAs (Decidable (∃ r ∈ s.relations, name ∈ r.collections))

theorem relates_relation_collection (h : s.hop? c field = some hop) : s.Relates hop.relation.collection :=
  ⟨hop.relation, relation_mem_of_hop? h, List.mem_append_left _ List.mem_cons_self⟩

theorem relates_target (h : s.hop? c field = some hop) (ht : hop.target s segment = .ok target) : s.Relates target := by
  refine ⟨hop.relation, relation_mem_of_hop? h, ?_⟩
  obtain ⟨r, kind⟩ := hop
  cases kind with
  | manyToOne =>
    have hrelated := Hop.related_of_target ht
    simp [Relation.collections, hrelated]
  | oneToMany =>
    obtain rfl := Except.ok.inj ht
    simp [Relation.collections]
  | manyToAny =>
    obtain ⟨-, details, allowed, hd, hallowed, hm⟩ := Hop.scope_of_target ht
    simp [Relation.collections, hd, hallowed, hm]

/-- Articles and their authors, who call them their articles; the schema of most examples. -/
def newsroom : Schema :=
  ⟨.mk [("articles", ⟨"id", .mk [("title", ⟨.string, false⟩)]⟩), ("users", ⟨"id", .mk [("name", ⟨.string, false⟩)]⟩)],
    [⟨"articles", "author", some "users", some ⟨some "articles", none, none, .nullify⟩⟩]⟩

/-- Pages of blocks, each of which shows a heading. -/
def layout : Schema :=
  ⟨.mk [("pages", ⟨"id", .empty⟩), ("blocks", ⟨"id", .empty⟩),
      ("headings", ⟨"id", .mk [("text", ⟨.string, false⟩)]⟩)],
    [⟨"blocks", "page", some "pages", some ⟨some "blocks", none, none, .nullify⟩⟩,
      ⟨"blocks", "item", none, some ⟨none, some "kind", some ["headings"], .nullify⟩⟩]⟩

end Schema

end PathQuery
