import SqlAccess.Text.Quoted
import SqlAccess.Decimal.Digits

/-!
# The three dialects

Everything that depends on the engine is a function of this tag. Identifiers are
quoted by enclosing them and doubling the closing character inside; placeholders
are numbered from one.
-/

namespace SqlAccess

/-- The engines that are spoken to. -/
inductive Dialect where
  /-- File-embedded. -/
  | sqlite
  | postgres
  /-- Reached over TDS. -/
  | sqlServer
deriving DecidableEq, Repr, Inhabited

/-- A table as it is listed or asked for. -/
structure TableRef where
  schema : Option String
  name : String
deriving DecidableEq, Repr, Inhabited

/-- The schema and the name with a dot between them, unquoted. -/
def TableRef.qualifiedName (table : TableRef) : String :=
  match table.schema with
  | some schema => schema ++ "." ++ table.name
  | none => table.name

namespace Dialect

/-- The name that messages use. -/
def displayName : Dialect → String
  | .sqlite => "SQLite"
  | .postgres => "PostgreSQL"
  | .sqlServer => "SQL Server"

/-- The name that serialized values use. -/
def tag : Dialect → String
  | .sqlite => "sqlite"
  | .postgres => "postgresql"
  | .sqlServer => "sqlserver"

/-- The dialect of a serialized name. -/
def ofTag? : String → Option Dialect
  | "sqlite" => some .sqlite
  | "postgresql" => some .postgres
  | "sqlserver" => some .sqlServer
  | _ => none

/-- The port that a server of this kind listens on; a file has none. -/
def defaultPort : Dialect → Option Nat
  | .sqlite => none
  | .postgres => some 5432
  | .sqlServer => some 1433

/-- The opening quote of an identifier. -/
def opening : Dialect → Char
  | .sqlServer => '['
  | .sqlite | .postgres => '"'

/-- The closing quote of an identifier; it is the one that is doubled inside. -/
def closing : Dialect → Char
  | .sqlServer => ']'
  | .sqlite | .postgres => '"'

/-- An identifier, quoted. -/
def quoteIdentifier (dialect : Dialect) (name : String) : String :=
  String.ofList (Text.Quoted.enclose dialect.opening dialect.closing name.toList)

/-- A table, each part of it quoted. -/
def quoteTable (dialect : Dialect) (table : TableRef) : String :=
  match table.schema with
  | some schema => dialect.quoteIdentifier schema ++ "." ++ dialect.quoteIdentifier table.name
  | none => dialect.quoteIdentifier table.name

/-- The place of the parameter with a number, counted from one. -/
def placeholder (dialect : Dialect) (index : Nat) : String :=
  match dialect with
  | .sqlite => "?" ++ Decimal.natText index
  | .postgres => "$" ++ Decimal.natText index
  | .sqlServer => "@P" ++ Decimal.natText index

/-- Every serialized name reads back as its dialect. -/
theorem of_tag?_tag (dialect : Dialect) : ofTag? dialect.tag = some dialect := by
  cases dialect <;> rfl

end Dialect

/-- Text literals: enclosed in single quotes, and a quote inside is doubled. -/
def quoteText (s : String) : String :=
  String.ofList (Text.Quoted.enclose '\'' '\'' s.toList)

/-- The text of exactly one literal; anything else is refused. -/
def unquoteText (literal : List Char) : Option String :=
  (Text.Quoted.disclose '\'' literal).map String.ofList

end SqlAccess
