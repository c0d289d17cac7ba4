import PathQuery.Json.Decode
import PathQuery.Schema.Basic

/-!
# Reading schemas

`Schema.read` decodes the JSON text of a schema. A field type may be written as its name or as an
object with that name as the key of null, and a name that is not known is the type `unknown`.
-/

namespace PathQuery

def FieldType.ofName : String → FieldType
  | "string" => .string
  | "text" => .text
  | "integer" => .integer
  | "bigInteger" => .bigInteger
  | "float" => .float
  | "decimal" => .decimal
  | "boolean" => .boolean
  | "uuid" => .uuid
  | "date" => .date
  | "dateTime" => .dateTime
  | "timestamp" => .timestamp
  | "time" => .time
  | "json" => .json
  | "csv" => .csv
  | "hash" => .hash
  | "geometry" => .geometry
  | "binary" => .binary
  | "alias" => .alias
  | _ => .unknown

namespace Schema

open Json

/-- A schema text that cannot be read; a schema has no rules beyond its shape. -/
abbrev ReadError := DecodeError Empty

def ReadError.message (e : ReadError) : String := DecodeError.message Empty.elim e

/-- A name out of a fixed set: the name itself, or an object with it as the key of null. -/
def decodeName (known : String → Except ReadError α) : Decoder Empty α
  | .string s => do known (← orText s)
  | .object [] (some cause) => .error (.text cause)
  | .object [] none => .error (.text .expectedValue)
  | .object ((key, t) :: rest) fault => do
    let value ← known (← orText key)
    match t with
    | .null =>
      match rest, fault with
      | [], none => .ok value
      | [], some .endInObject => .error (.text .endInObject)
      | _, _ => .error (.text .expectedValue)
    | t => wrongType "unit" t
  | .broken cause => .error (.text cause)
  | _ => .error (.text .expectedValue)

def decodeFieldType : Decoder Empty FieldType := decodeName fun s => .ok (FieldType.ofName s)

def decodeDeselectAction : Decoder Empty DeselectAction :=
  decodeName fun s =>
    if s = "nullify" then .ok .nullify
    else if s = "delete" then .ok .delete
    else .error (.unknownVariant s ["nullify", "delete"])

def fieldRecord : Record Empty SchemaField where
  name := "FieldOverview"
  fields :=
    [⟨"type", true, fun f t => do return { f with type := ← decodeFieldType t }⟩,
     ⟨"nullable", false, fun f t => do return { f with nullable := ← decodeBool t }⟩]

def decodeField : Decoder Empty SchemaField := fieldRecord.decode ⟨.unknown, true⟩

def collectionRecord : Record Empty Collection where
  name := "CollectionOverview"
  fields :=
    [⟨"primary", true, fun c t => do return { c with primary := ← decodeText t }⟩,
     ⟨"fields", false, fun c t => do return { c with fields := ← decodeMap decodeField t }⟩]

def decodeCollection : Decoder Empty Collection := collectionRecord.decode ⟨"", .empty⟩

def detailsRecord : Record Empty RelationDetails where
  name := "RelationMeta"
  fields :=
    [⟨"one_field", false, fun d t => do return { d with oneField := ← decodeOption decodeText t }⟩,
     ⟨"one_collection_field", false, fun d t => do
        return { d with oneCollectionField := ← decodeOption decodeText t }⟩,
     ⟨"one_allowed_collections", false, fun d t => do
        return { d with oneAllowedCollections := ← decodeOption (decodeList decodeText) t }⟩,
     ⟨"one_deselect_action", false, fun d t => do
        return { d with oneDeselectAction := ← decodeDeselectAction t }⟩]

def decodeDetails : Decoder Empty RelationDetails := detailsRecord.decode ⟨none, none, none, .nullify⟩

def relationRecord : Record Empty Relation where
  name := "Relation"
  fields :=
    [⟨"collection", true, fun r t => do return { r with collection := ← decodeText t }⟩,
     ⟨"field", true, fun r t => do return { r with field := ← decodeText t }⟩,
     ⟨"related_collection", false, fun r t => do
        return { r with relatedCollection := ← decodeOption decodeText t }⟩,
     ⟨"meta", false, fun r t => do return { r with details := ← decodeOption decodeDetails t }⟩]

def decodeRelation : Decoder Empty Relation := relationRecord.decode ⟨"", "", none, none⟩

def schemaRecord : Record Empty Schema where
  name := "SchemaOverview"
  fields :=
    [⟨"collections", true, fun s t => do
        return { s with collections := ← decodeMap decodeCollection t }⟩,
     ⟨"relations", false, fun s t => do return { s with relations := ← decodeList decodeRelation t }⟩]

def read (text : String) : Except ReadError Schema :=
  decodeDocument (schemaRecord.decode ⟨.empty, []⟩) text

end Schema

end PathQuery
