import PathQuery.Named

/-!
# Schemas

A schema lists the collections, with their fields and primary keys, and the relations between them.
A relation belongs to the field of the collection that holds the foreign key; its details say what
the other side calls it (`oneField`) and, for a relation to any of several collections, which field
names the collection (`oneCollectionField`) and which are allowed (`oneAllowedCollections`).
-/

namespace PathQuery

inductive FieldType where
  | string
  | text
  | integer
  | bigInteger
  | float
  | decimal
  | boolean
  | uuid
  | date
  | dateTime
  | timestamp
  | time
  | json
  | csv
  | hash
  | geometry
  | binary
  | alias
  | unknown
  deriving DecidableEq, Repr

/-- Types whose values are searched as text. -/
def FieldType.isText : FieldType → Bool
  | .string => true
  | .text => true
  | _ => false

structure SchemaField where
  type : FieldType
  nullable : Bool
  deriving DecidableEq, Repr

/-- A collection: the name of its primary key and its fields in order. -/
structure Collection where
  primary : String
  fields : Named SchemaField
  deriving DecidableEq, Repr

/-- What becomes of rows whose relation is taken away. -/
inductive DeselectAction where
  | nullify
  | delete
  deriving DecidableEq, Repr

/-- What a relation looks like from its other side. -/
structure RelationDetails where
  oneField : Option String
  oneCollectionField : Option String
  oneAllowedCollections : Option (List String)
  oneDeselectAction : DeselectAction
  deriving DecidableEq, Repr

/-- A relation, from the field that holds its foreign key. -/
structure Relation where
  collection : String
  field : String
  relatedCollection : Option String
  details : Option RelationDetails
  deriving DecidableEq, Repr

structure Schema where
  collections : Named Collection
  relations : List Relation
  deriving DecidableEq, Repr

namespace Schema

def collection? (s : Schema) (name : String) : Option Collection := s.collections.find? name

def field? (s : Schema) (collection field : String) : Option SchemaField := do
  (← s.collection? collection).fields.find? field

theorem field?_of_mem {s : Schema} {collection name : String} {c : Collection} {field : SchemaField}
    (hc : s.collection? collection = some c) (h : (name, field) ∈ c.fields.entries) :
    s.field? collection name = some field := by
  rw [field?, hc]
  exact Named.find?_eq_some_iff.2 h

end Schema

end PathQuery
