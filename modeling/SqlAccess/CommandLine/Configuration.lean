import SqlAccess.CommandLine.Grammar
import SqlAccess.ConnectionString
import SqlAccess.Page.Request

/-!
# Configuration

What the command line asks for: a database, how to go about it, and one subcommand. Options
of the program stand in front of the subcommand, its own behind it.
-/

namespace SqlAccess.CommandLine

/-- What is asked about a page of a table. -/
structure PageArguments where
  table : String
  orderBy : String
  keyset : Bool
  limit : UInt64
  offset : Option UInt64
  index : Option UInt64
  after : Option String
deriving DecidableEq, Repr

/-- What is asked about several tables. -/
structure InspectArguments where
  tables : List String
  data : Bool
  columns : Bool
  foreignKeys : Bool
  triggers : Bool
  definition : Bool
deriving DecidableEq, Repr

/-- What is to be done. -/
inductive Subcommand where
  | info
  | tables
  | columns (table : String)
  | foreignKeys (table : String)
  | triggers (table : String)
  | definition (table : String)
  | page (arguments : PageArguments)
  | inspect (arguments : InspectArguments)
deriving DecidableEq, Repr

/-- A command line that was understood. -/
structure Configuration where
  database : Option String
  dialect : Option Dialect
  /-- Seconds for the whole command. -/
  timeout : UInt64
  logLevel : String
  jsonLogs : Bool
  subcommand : Subcommand
deriving DecidableEq, Repr

/-- The request of a page. A position by index wins over an offset; the key of the last row is
a number where it reads as one, and counts in keyset mode only. -/
def PageArguments.request (arguments : PageArguments) : Page.Request where
  mode := if arguments.keyset then .keyset else .limitOffset
  limit := arguments.limit
  position := match arguments.index, arguments.offset with
    | some pages, _ => .index pages
    | none, some rows => .offset rows
    | none, none => .offset 0
  orderingField := arguments.orderBy
  after :=
    if arguments.keyset then
      arguments.after.map fun key =>
        match Decimal.int64Value? key.toList with
        | some i => .int (Int64.ofInt i)
        | none => .string key
    else none

/-- Without any choice all metadata is wanted, but no rows. -/
def InspectArguments.wantsAll (arguments : InspectArguments) : Bool :=
  !(arguments.data || arguments.columns || arguments.foreignKeys || arguments.triggers ||
    arguments.definition)

/-- The dialect that was chosen, or else the one that the connection string is written for. -/
def Configuration.resolvedDialect (configuration : Configuration) : Except String Dialect :=
  match configuration.dialect, configuration.database with
  | some dialect, _ => .ok dialect
  | none, none => .error "no database configured"
  | none, some database =>
    match ConnectionString.dialect? database with
    | some dialect => .ok dialect
    | none => .error "cannot infer the database type; pass --dialect sqlite|postgres|mssql"

namespace Configuration

/-- A natural of 64 bits, with an optional plus. -/
def word? (s : String) : Option UInt64 :=
  let digits := match s.toList with
    | '+' :: rest => rest
    | other => other
  ((Decimal.natValue? digits).filter (· < UInt64.size)).map UInt64.ofNat

/-- The dialect of a word of the command line. -/
def dialectOf? : String → Option Dialect
  | "sqlite" => some .sqlite
  | "postgres" => some .postgres
  | "mssql" => some .sqlServer
  | _ => none

/-- True for keyset pages, by the word of the command line. -/
def keysetOf? : String → Option Bool
  | "limit-offset" => some false
  | "keyset" => some true
  | _ => none

/-- Every text. -/
def anyText : OptionKind := .value fun _ => none

/-- A natural of 64 bits. -/
def anyWord : OptionKind :=
  .value fun s => if (word? s).isSome then none else some .unreadableValue

/-- One of a list of words. -/
def wordOf {α : Type} (read : String → Option α) : OptionKind :=
  .value fun s => if (read s).isSome then none else some .notAChoice

/-- The option that every command has. -/
def helpRule : OptionRule := { name := "help", short := some 'h', kind := .help }

/-- The subcommands, and the one that explains them. -/
def subcommandNames : List String :=
  ["info", "tables", "columns", "foreign-keys", "triggers", "ddl", "page", "inspect", "help"]

/-- What stands in front of the subcommand. -/
def topGrammar : Grammar where
  options := [
    { name := "database", short := some 'd', kind := anyText, standIn := some "CROSSDB_DATABASE" },
    { name := "dialect", kind := wordOf dialectOf?, standIn := some "CROSSDB_DIALECT" },
    { name := "timeout", kind := anyWord, standIn := some "CROSSDB_TIMEOUT" },
    { name := "log-level", kind := anyText, standIn := some "CROSSDB_LOG_LEVEL" },
    { name := "json-logs", kind := .flag, standIn := some "CROSSDB_JSON_LOGS" },
    helpRule,
    { name := "version", short := some 'V', kind := .version }]
  subcommands := subcommandNames

/-- A subcommand without arguments. -/
def bareGrammar : Grammar where
  options := [helpRule]

/-- A subcommand about one table. -/
def tableGrammar : Grammar where
  options := [helpRule]
  operands := .one

/-- The subcommand for pages. -/
def pageGrammar : Grammar where
  options := [
    { name := "order-by", kind := anyText },
    { name := "mode", kind := wordOf keysetOf? },
    { name := "limit", kind := anyWord },
    { name := "offset", kind := anyWord },
    { name := "index", kind := anyWord },
    { name := "after", kind := anyText },
    helpRule]
  operands := .one
  exclusive := [("offset", "index")]

/-- The subcommand for several tables. -/
def inspectGrammar : Grammar where
  options :=
    (["data", "columns", "foreign-keys", "triggers", "ddl"].map fun name =>
      { name := name, kind := .flag }) ++ [helpRule]
  operands := .many

/-- The page that was asked for. -/
def pageOf (table : String) (reading : Reading) : PageArguments where
  table := table
  orderBy := (reading.value? "order-by").getD "id"
  keyset := ((reading.value? "mode").bind keysetOf?).getD false
  limit := ((reading.value? "limit").bind word?).getD 50
  offset := (reading.value? "offset").bind word?
  index := (reading.value? "index").bind word?
  after := reading.value? "after"

/-- What was asked about several tables; their names may be joined by commas. -/
def inspectOf (reading : Reading) : InspectArguments where
  tables := (reading.operands.flatMap fun word => Text.splitOn ',' word.toList).map String.ofList
  data := reading.has "data"
  columns := reading.has "columns"
  foreignKeys := reading.has "foreign-keys"
  triggers := reading.has "triggers"
  definition := reading.has "ddl"

/-- Help about a subcommand; the words have to name one. -/
def helpFault : List String → UsageFault
  | [] => .helpAsked
  | [name] => if subcommandNames.contains name then .helpAsked else .unknownSubcommand
  | _ => .unknownSubcommand

/-- Read a command about one table. -/
def readTable (make : String → Subcommand) (words : List String) :
    Except UsageFault Subcommand := do
  let reading ← tableGrammar.read words
  return make (reading.operands.headD "")

/-- Read a subcommand and the words behind it. -/
def readSubcommand (name : String) (words : List String) : Except UsageFault Subcommand :=
  match name with
  | "info" => (bareGrammar.read words).map fun _ => .info
  | "tables" => (bareGrammar.read words).map fun _ => .tables
  | "columns" => readTable .columns words
  | "foreign-keys" => readTable .foreignKeys words
  | "triggers" => readTable .triggers words
  | "ddl" => readTable .definition words
  | "page" => (pageGrammar.read words).map fun reading =>
      .page (pageOf (reading.operands.headD "") reading)
  | "inspect" => (inspectGrammar.read words).map fun reading => .inspect (inspectOf reading)
  | _ => .error (helpFault words)

/-- The configuration of the words of a command line, the environment behind it. -/
def parse (environment : List (String × String)) (words : List String) :
    Except UsageFault Configuration := do
  let (reading, continuation) ← topGrammar.readWords {} false words
  let subcommand ← match continuation with
    | some (name, rest) => some <$> readSubcommand name rest
    | none => pure none
  let finished ← topGrammar.finish environment reading
  match subcommand with
  | some subcommand =>
    return {
      database := finished.value? "database"
      dialect := (finished.value? "dialect").bind dialectOf?
      timeout := ((finished.value? "timeout").bind word?).getD 30
      logLevel := (finished.value? "log-level").getD "warn"
      jsonLogs := finished.value? "json-logs" == some "true"
      subcommand := subcommand }
  | none =>
    if finished.given.isEmpty then throw .nothingGiven else throw .missingSubcommand

end Configuration

end SqlAccess.CommandLine
