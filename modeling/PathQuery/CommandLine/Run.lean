import PathQuery.Apply
import PathQuery.CommandLine.Arguments
import PathQuery.Param.Listing

/-!
# Running the command line

`run` carries out a command: it reads the schema and the query, compiles the query and prints the
statement with its parameters. How files and the standard input are read is left to the caller.
-/

namespace PathQuery.CommandLine

/-- What a run prints and the code it exits with. -/
structure Outcome where
  exit : UInt32
  stdout : String
  stderr : String

/-- Where a run reads from; a text that cannot be read comes with the reason. -/
structure Sources (m : Type → Type) where
  file : String → m (Except String String)
  stdin : m (Except String String)

/-- Why a run fails, and what caused that. -/
structure Failure where
  message : String
  cause : Option String

/-- A cause on lines of its own. -/
def indented (s : String) : String := "    " ++ "\n    ".intercalate (Text.split '\n' s)

/-- A failure as it is reported. -/
def Failure.report (f : Failure) : String :=
  "Error: " ++ f.message ++
    (match f.cause with
      | some cause => "\n\nCaused by:\n" ++ indented cause
      | none => "") ++ "\n"

def Failure.of (message : String) : Failure := ⟨message, none⟩

/-- A failure to compile, as it is shown to whoever wrote the query. -/
def Failure.ofQuery (e : QueryError) : Failure := .of e.userMessage

def usageText : String :=
  "Compile CMS queries into parameterized PostgreSQL\n\n" ++
  "Usage: cms-query compile --schema <schema> --collection <collection> [--query <query>]\n" ++
  "                         [--subquery] [--format <format>]\n\n" ++
  "  -s, --schema <schema>          file of the schema (JSON)\n" ++
  "  -c, --collection <collection>  collection the query selects from\n" ++
  "  -q, --query <query>            file of the query (JSON), or - for the standard input\n" ++
  "      --subquery                 compile the query as the body of a subquery\n" ++
  "  -f, --format <format>          text or json\n" ++
  "  -h, --help                     print this\n" ++
  "  -V, --version                  print the version\n"

def versionText : String := "cms-query 0.1.0\n"

/-- The query of a text; a blank text asks for nothing. -/
def readQuery (text : String) : Except QueryError Query :=
  if Text.isBlankText text then .ok .empty else Query.read text

/-- The statement of a query over a collection. -/
def compileTexts (env : Environment) (schema collection query : String) (subquery : Bool) :
    Except Failure Sql.SqlText := do
  let schema ← (Schema.read schema).mapError fun e =>
    ⟨(QueryError.schema e).message, some e.message⟩
  let query ← (readQuery query).mapError fun e => .of e.message
  let config ← (Config.ofEnvironment env).mapError fun e => .of e.message
  let setting := { Setting.default schema with config := config }
  let (draft, _) ← (setting.applyQuery (.new collection) collection query subquery 0).mapError
    Failure.ofQuery
  return draft.toSql

def listing (n : Nat) : List Param → String
  | [] => ""
  | p :: ps => "$" ++ Numeral.ofNat n ++ ": " ++ p.describe ++ "\n" ++ listing (n + 1) ps

def Format.print (format : Format) (sql : Sql.SqlText) : String :=
  match format with
  | .text => sql.text ++ "\n" ++ listing 1 sql.params
  | .json =>
    let params := sql.params.map fun p => Json.string p.describe
    Json.pretty (.object [("sql", .string sql.text), ("params", .array params)]) ++ "\n"

def Outcome.of (r : Except Failure String) : Outcome :=
  match r with
  | .ok text => ⟨0, text, ""⟩
  | .error f => ⟨1, "", f.report⟩

/-- A text that is read, or the failure to read it. -/
def orFail (what : String) (r : Except String String) : Except Failure String :=
  r.mapError fun cause => ⟨"Failed to read " ++ what, some cause⟩

variable {m : Type → Type} [Monad m]

def readTexts (sources : Sources m) (schemaFile query : String) :
    m (Except Failure (String × String)) := do
  match orFail ("schema from " ++ schemaFile) (← sources.file schemaFile) with
  | .error f => return .error f
  | .ok schemaText =>
    let queryText ←
      if query = "-" then pure (orFail "the query from stdin" (← sources.stdin))
      else pure (orFail ("query from " ++ query) (← sources.file query))
    return queryText.map fun q => (schemaText, q)

def Command.run (env : Environment) (sources : Sources m) : Command → m Outcome
  | .version => return ⟨0, versionText, ""⟩
  | .help => return ⟨0, usageText, ""⟩
  | .compile schemaFile collection query subquery format => do
    let texts ← readTexts sources schemaFile query
    return .of do
      let (schemaText, queryText) ← texts
      let sql ← compileTexts env schemaText collection queryText subquery
      return format.print sql

def run (env : Environment) (sources : Sources m) (args : List String) : m Outcome :=
  match Command.ofArguments? args with
  | some command => command.run env sources
  | none => return ⟨2, "", usageText⟩

end PathQuery.CommandLine
