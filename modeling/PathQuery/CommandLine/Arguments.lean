import PathQuery.Text.Pieces

/-!
# Arguments of the command line

`Command.ofArguments?` reads the arguments; none means that they do not fit the usage. An option
takes its value from the same argument, behind `=` or right behind its letter, or from the next one.
No option is given twice.
-/

namespace PathQuery.CommandLine

inductive Format where
  | text
  | json
  deriving DecidableEq, Repr

/-- The options of `compile` as far as they were given. -/
structure Options where
  schemaFile : Option String
  collection : Option String
  query : Option String
  format : Option Format
  subquery : Bool
  deriving DecidableEq, Repr

inductive Command where
  | version
  | help
  /-- Compile a query over a collection; the query `-` is read from the standard input. -/
  | compile (schemaFile collection query : String) (subquery : Bool) (format : Format)
  deriving DecidableEq, Repr

namespace Options

def none : Options := ⟨.none, .none, .none, .none, false⟩

inductive Name where
  | schemaFile
  | collection
  | query
  | format
  deriving DecidableEq, Repr

def Name.ofLong? : String → Option Name
  | "schema" => some .schemaFile
  | "collection" => some .collection
  | "query" => some .query
  | "format" => some .format
  | _ => .none

def Name.ofShort? : Char → Option Name
  | 's' => some .schemaFile
  | 'c' => some .collection
  | 'q' => some .query
  | 'f' => some .format
  | _ => .none

/-- The options with one more value; none if it was given before or is not allowed. -/
def give? (o : Options) (name : Name) (value : String) : Option Options :=
  match name with
  | .schemaFile =>
    if o.schemaFile.isNone ∧ value ≠ "" then some { o with schemaFile := some value } else .none
  | .collection => if o.collection.isNone then some { o with collection := some value } else .none
  | .query => if o.query.isNone then some { o with query := some value } else .none
  | .format =>
    if o.format.isSome then .none
    else if value = "text" then some { o with format := some .text }
    else if value = "json" then some { o with format := some .json }
    else .none

/-- The command of all options, none if a required one is missing. -/
def finish? (o : Options) : Option Command := do
  some (.compile (← o.schemaFile) (← o.collection) (o.query.getD "-") o.subquery
    (o.format.getD .text))

end Options

/-- What one argument of `compile` says. -/
inductive Argument where
  | setting (name : Options.Name) (value : String)
  /-- An option whose value is the next argument. -/
  | awaiting (name : Options.Name)
  | subquery
  | help
  /-- The end of the options. -/
  | done
  | unknown
  deriving DecidableEq, Repr

/-- An argument behind two hyphens. -/
def Argument.ofLong (s : String) : Argument :=
  match Text.cut? '=' s with
  | some (name, value) =>
    match Options.Name.ofLong? name with
    | some name => .setting name value
    | none => .unknown
  | none =>
    if s = "" then .done
    else if s = "subquery" then .subquery
    else if s = "help" then .help
    else
      match Options.Name.ofLong? s with
      | some name => .awaiting name
      | none => .unknown

/-- An argument behind one hyphen. -/
def Argument.ofShort (letter : Char) (rest : List Char) : Argument :=
  if letter = 'h' then .help
  else
    match Options.Name.ofShort? letter, rest with
    | none, _ => .unknown
    | some name, [] => .awaiting name
    | some name, '=' :: value => .setting name (String.ofList value)
    | some name, value => .setting name (String.ofList value)

def Argument.of (s : String) : Argument :=
  match s.toList with
  | '-' :: '-' :: rest => ofLong (String.ofList rest)
  | '-' :: letter :: rest => ofShort letter rest
  | _ => .unknown

/-- Whether an argument may be the value of the option before it. -/
def isValue (s : String) : Bool := s == "-" || s.toList.head? != some '-'

def Command.ofCompile? (o : Options) : List String → Option Command
  | [] => o.finish?
  | arg :: rest =>
    match Argument.of arg, rest with
    | .setting name value, rest => (o.give? name value).bind fun o => ofCompile? o rest
    | .awaiting name, value :: rest =>
      if isValue value then (o.give? name value).bind fun o => ofCompile? o rest else none
    | .awaiting _, [] => none
    | .subquery, rest => if o.subquery then none else ofCompile? { o with subquery := true } rest
    | .help, _ => some .help
    | .done, [] => o.finish?
    | .done, _ => none
    | .unknown, _ => none

def Command.ofArguments? : List String → Option Command
  | [] => none
  | arg :: rest =>
    if arg = "compile" then ofCompile? .none rest
    else if arg = "--version" then some .version
    else if arg = "--help" then some .help
    else
      match arg.toList with
      | '-' :: 'V' :: _ => some .version
      | '-' :: 'h' :: _ => some .help
      | _ => none

end PathQuery.CommandLine
