import PathQuery.Error
import PathQuery.Text.Blank

/-!
# Sort keys

A sort key is a field of the collection, behind a `-` for descending order. White space around it
does not count and blank keys are left out.
-/

namespace PathQuery

def sortKey (key : String) : String × Sql.Direction :=
  match key.toList with
  | '-' :: field => (String.ofList field, .descending)
  | _ => (key, .ascending)

/-- The order that a key without white space around it asks for. -/
def sortTerm (collection key : String) : Except QueryError Sql.OrderTerm :=
  let (field, direction) := sortKey key
  if field = "" then .error (.invalid (.emptySortKey key))
  else if '.' ∈ field.toList then .error (.invalid (.relationalSortKey field))
  else .ok ⟨.field collection field, direction⟩

def compileSort (collection : String) (keys : List String) : Except QueryError (List Sql.OrderTerm) :=
  (Text.trimAll keys).mapM (sortTerm collection)

end PathQuery
