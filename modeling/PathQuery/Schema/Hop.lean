import PathQuery.Error

/-!
# Hops

A hop leads from a collection along one of its fields to another collection.

* `Schema.hop?` : the relation that a field takes part in, and the side it is seen from. A field
  that holds the foreign key goes before one that only is the other side's name for it;
* `Hop.target` : the collection that a segment leads to; a hop to any of several collections takes
  it from the segment's scope;
* `Schema.primaryKey` : the primary key of a collection that a relation refers to.
-/

namespace PathQuery

/-- Whether the relation belongs to a field of a collection. -/
def Relation.isOf (r : Relation) (collection field : String) : Bool :=
  r.collection == collection && r.field == field

/-- Whether a field of a collection is the other side's name for the relation. -/
def Relation.isReverseOf (r : Relation) (collection field : String) : Bool :=
  r.relatedCollection == some collection && (r.details.bind RelationDetails.oneField) == some field

/-- Whether the relation leads to any of several collections. -/
def Relation.isToAny (r : Relation) : Bool :=
  match r.details with
  | some d => d.oneCollectionField.isSome && d.oneAllowedCollections.isSome
  | none => false

inductive Hop.Kind where
  | manyToOne
  | oneToMany
  | manyToAny
  deriving DecidableEq, Repr

/-- A relation seen from one of its sides. -/
structure Hop where
  relation : Relation
  kind : Hop.Kind
  deriving DecidableEq, Repr

namespace Schema

/-- The hop that a field of a collection makes. -/
def hop? (s : Schema) (collection field : String) : Option Hop :=
  match s.relations.find? fun r => r.isOf collection field with
  | some r => some ⟨r, if r.isToAny then .manyToAny else .manyToOne⟩
  | none =>
    (s.relations.find? fun r => r.isReverseOf collection field).map fun r => ⟨r, .oneToMany⟩

def primaryKey (s : Schema) (collection : String) : Except QueryError String :=
  match s.collection? collection with
  | some c => .ok c.primary
  | none => .error (.inconsistent (.missingCollection collection))

end Schema

namespace Hop

/-- The collections that the hop may lead to by scope. -/
def allowed (h : Hop) : List String := (h.relation.details.bind (·.oneAllowedCollections)).getD []

/-- The field that names the collection of a row's related row. -/
def collectionField? (h : Hop) : Option String := h.relation.details.bind (·.oneCollectionField)

/-- The collection that the hop leads to when it is written as `segment`. -/
def target (h : Hop) (s : Schema) (segment : Segment) : Except QueryError String :=
  let collection := h.relation.collection
  let field := h.relation.field
  match h.kind with
  | .manyToOne =>
    match h.relation.relatedCollection with
    | some related => .ok related
    | none => .error (.inconsistent (.noRelatedCollection collection field))
  | .oneToMany => .ok collection
  | .manyToAny =>
    match segment.scope with
    | none => .error (.invalid .missingScope)
    | some scope =>
      if scope ∉ h.allowed then .error (.invalid (.scopeNotAllowed scope collection field))
      else if (s.collection? scope).isNone then
        .error (.inconsistent (.missingScope scope collection field))
      else .ok scope

end Hop

end PathQuery
