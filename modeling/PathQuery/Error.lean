import PathQuery.Cast
import PathQuery.Filter.Reader
import PathQuery.Schema.Reader

/-!
# What can go wrong with a query

* `InvalidQuery` : the query cannot be compiled as written;
* `Inconsistency` : a relation refers to something the schema does not have;
* `QueryError` : either of them, a refusal, or a schema that cannot be read. `message` is the full
  text and `userMessage` what may be shown to whoever wrote the query: faults of the schema are not
  theirs.
-/

namespace PathQuery

/-- Why a query cannot be compiled as written. -/
inductive InvalidQuery where
  | unreadable (cause : Json.DecodeError Filter.ReadError)
  | filter (cause : Filter.ReadError)
  | tooDeep (depth max : Nat)
  | notRelational (collection field : String)
  | missingScope
  | scopeNotAllowed (scope collection field : String)
  | unknownField (field collection : String)
  | badOperand (field : String) (op : Operator) (cause : CastError)
  | badGeometry (field : String) (op : Operator) (found : Json)
  | unknownCollection (name : String)
  | emptySortKey (key : String)
  | relationalSortKey (field : String)
  | negativeLimit (limit : Int64)
  | limitTooLarge (limit max : Int64)
  | negativeOffset (offset : Int64)
  | pageNotPositive (page : Int64)
  | pageOutOfRange (page : Int64)
  /-- A problem in the words of whoever found it. -/
  | stated (text : String)

namespace InvalidQuery

def operandLead (field : String) (op : Operator) : String :=
  "Invalid value for \"" ++ field ++ "\" (" ++ op.token ++ "): "

def int64Text (n : Int64) : String := Numeral.ofInt n.toInt

def message : InvalidQuery → String
  | .unreadable cause => "Invalid query: " ++ cause.message Filter.ReadError.message
  | .filter cause => cause.message
  | .tooDeep depth max =>
    "Filter path is " ++ Numeral.ofNat depth ++ " relations deep, exceeding the maximum of " ++
      Numeral.ofNat max
  | .notRelational collection field => collection ++ "." ++ field ++ " is not a relational field"
  | .missingScope => "You have to provide a collection scope when filtering on a many-to-any item"
  | .scopeNotAllowed scope collection field =>
    "Collection \"" ++ scope ++ "\" is not an allowed scope for the many-to-any field \"" ++
      collection ++ "." ++ field ++ "\""
  | .unknownField field collection =>
    "Field \"" ++ field ++ "\" does not exist in collection \"" ++ collection ++ "\""
  | .badOperand field op cause => operandLead field op ++ cause.message
  | .badGeometry field op found =>
    operandLead field op ++ "expected a GeoJSON geometry, found " ++ found.compact
  | .unknownCollection name => "Collection \"" ++ name ++ "\" does not exist"
  | .emptySortKey key => "Invalid sort field \"" ++ key ++ "\""
  | .relationalSortKey field =>
    "Sorting on the relational field \"" ++ field ++ "\" is not supported"
  | .negativeLimit limit =>
    "\"limit\" must be -1 or a non-negative integer, found " ++ int64Text limit
  | .limitTooLarge limit max =>
    "\"limit\" of " ++ int64Text limit ++ " exceeds the maximum of " ++ int64Text max
  | .negativeOffset offset =>
    "\"offset\" must be a non-negative integer, found " ++ int64Text offset
  | .pageNotPositive page => "\"page\" must be a positive integer, found " ++ int64Text page
  | .pageOutOfRange page => "\"page\" " ++ int64Text page ++ " is out of range"
  | .stated text => text

end InvalidQuery

/-- What a relation refers to and the schema does not have. -/
inductive Inconsistency where
  | missingCollection (name : String)
  | noRelatedCollection (collection field : String)
  | missingScope (scope collection field : String)
  | noCollectionField (collection field : String)
  /-- A problem in the words of whoever found it. -/
  | stated (text : String)

def Inconsistency.message : Inconsistency → String
  | .missingCollection name =>
    "Collection \"" ++ name ++ "\" is referenced by a relation but is not in the schema"
  | .noRelatedCollection collection field =>
    "Relation \"" ++ collection ++ "." ++ field ++ "\" has no related collection"
  | .missingScope scope collection field =>
    "Collection \"" ++ scope ++ "\" is allowed for \"" ++ collection ++ "." ++ field ++
      "\" but is not in the schema"
  | .noCollectionField collection field =>
    "Many-to-any relation \"" ++ collection ++ "." ++ field ++ "\" has no collection field"
  | .stated text => text

inductive QueryError where
  | invalid (cause : InvalidQuery)
  | inconsistent (cause : Inconsistency)
  | forbidden (reason : String)
  | schema (cause : Schema.ReadError)

namespace QueryError

def message : QueryError → String
  | .invalid cause => cause.message
  | .inconsistent cause => "Schema inconsistency: " ++ cause.message
  | .forbidden reason => "Forbidden: " ++ reason
  | .schema cause => "Invalid schema snapshot: " ++ cause.message

/-- The message for whoever wrote the query. -/
def userMessage : QueryError → String
  | .invalid cause => cause.message
  | .inconsistent _ => "Internal error"
  | .forbidden reason => reason
  | .schema _ => "Internal error"

end QueryError

end PathQuery
