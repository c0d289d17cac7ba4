import PathQuery.Error
import PathQuery.Numeral.ReadFloat
import PathQuery.Sql.Simplify
import PathQuery.Text.LowerCase

/-!
# Search

A search looks for a term in every field of a collection: in text fields anywhere, in lower case,
and in fields of numbers and UUIDs as the value that the term writes, where it writes one. Without
any such field nothing is found.
-/

namespace PathQuery

open Sql (Column Predicate)

/-- The value that a term writes as a field's type. -/
def exactMatch? (type : FieldType) (term : String) : Option Param :=
  match type with
  | .integer => (Numeral.readInt32 term).toOption.map fun n => .int4 (Int32.ofInt n)
  | .bigInteger => (Numeral.readInt64 term).toOption.map fun n => .int8 (Int64.ofInt n)
  | .float | .decimal => ((Numeral.readFloat? term).filter Float.isFinite).map .float8
  | .uuid => (Uuid.read? term).map .uuid
  | _ => none

def searchPattern (term : String) : String := "%" ++ Text.toLower term ++ "%"

/-- The condition that a field matches a term, if it can. -/
def searchField? (collection term : String) (name : String) (field : SchemaField) :
    Option Predicate :=
  let column := Column.field collection name
  if field.type.isText then
    some (.compare .like (.call "LOWER" column) (.param (.text (searchPattern term))))
  else (exactMatch? field.type term).map fun p => .compare .eq column (.param p)

/-- The condition that one of the fields of a collection matches a term. -/
def compileSearch (s : Schema) (collection term : String) : Except QueryError Predicate :=
  match s.collection? collection with
  | none => .error (.invalid (.unknownCollection collection))
  | some c =>
    let matching := c.fields.map fun p => searchField? collection term p.1 p.2
    .ok ((Sql.Logical.all .or (matching.filterMap id)).getD (.const false))

end PathQuery
