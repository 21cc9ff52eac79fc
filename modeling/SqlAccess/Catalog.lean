import SqlAccess.Catalog.ColumnFacts
import SqlAccess.Catalog.Definition
import SqlAccess.Catalog.Queries
import SqlAccess.Catalog.TableName
import SqlAccess.Driver
import SqlAccess.Page.Plan

/-!
# Catalogs

Work that asks an open connection about tables. A name is resolved against the list of tables
first; what is asked afterwards depends on the entry alone. A table that cannot be resolved
gives an empty answer and no error.
-/

namespace SqlAccess.Catalog

/-- The schema of tables that are named without one. -/
def defaultSchema : Dialect → Option String
  | .sqlite => none
  | .postgres => some "public"
  | .sqlServer => some "dbo"

/-- The parameters that name a table in catalog queries. -/
def tableParams (dialect : Dialect) (table : TableRef) : List Param :=
  match defaultSchema dialect with
  | none => [.string table.name]
  | some schema => [.string table.name, .string (table.schema.getD schema)]

/-- The table of a row of the list; a row without a name is none. -/
def tableOfRow? (dialect : Dialect) (row : Row) : Option TableRef :=
  match dialect with
  | .sqlite => (Row.text? row "name").map fun name => ⟨none, name⟩
  | .postgres | .sqlServer =>
    (Row.text? row "table_name").map fun name => ⟨Row.text? row "table_schema", name⟩

/-- The user tables. -/
def tables (dialect : Dialect) : Work (List TableRef) := do
  let rows ← Work.query (tablesQuery dialect) []
  return rows.filterMap (tableOfRow? dialect)

/-- The entry of the list of tables that a name stands for. -/
def resolve (dialect : Dialect) (name : String) : Work (Option TableRef) := do
  let requested ← Work.answer (TableName.parse name)
  let entries ← tables dialect
  return TableName.resolve (defaultSchema dialect) entries requested

/-- Work on the entry that a name stands for, or a given answer where there is none. -/
def withTable {α : Type} (dialect : Dialect) (name : String) (missing : α)
    (work : TableRef → Work α) : Work α := do
  match ← resolve dialect name with
  | some table => work table
  | none => return missing

/-- The columns of an entry. -/
def columnsOf (dialect : Dialect) (table : TableRef) : Work (List Column) := do
  let rows ← Work.query (columnsQuery dialect) (tableParams dialect table)
  return rows.map fun row => (columnFacts dialect row).describe dialect

/-- The integer of a cell, zero where there is none. -/
def numberOf (row : Row) (column : String) : Int := (Row.integer? row column).getD 0

/-- The name at a place of a list of key columns; a place outside gives an empty name. -/
def keyColumnAt (keys : List Row) (place : Int) : String :=
  if place < 0 then ""
  else match keys[place.toNat]? with
    | some row => textOf row "name"
    | none => ""

/-- The column that a SQLite reference points to. One that is left out is the column of the other
table's primary key at the same place. -/
def targetColumn (row : Row) : Work String :=
  match Row.text? row "to_column" with
  | some column => return column
  | none => do
    let keys ← Work.query primaryKeyQuery [.string (textOf row "to_table")]
    return keyColumnAt keys (numberOf row "seq")

/-- The reference of a SQLite row; its name is made from the table and the number. -/
def sqliteForeignKey (table : TableRef) (row : Row) (toColumn : String) : ForeignKey :=
  let id := numberOf row "id"
  ⟨Int64.ofInt id, "fk_" ++ table.name ++ "_" ++ Decimal.intText id, textOf row "from_column",
    textOf row "to_table", toColumn⟩

/-- The references of a SQLite table, one for each row. -/
def sqliteForeignKeys (table : TableRef) : List Row → Work (List ForeignKey)
  | [] => return []
  | row :: rest => do
    let toColumn ← targetColumn row
    let others ← sqliteForeignKeys table rest
    return sqliteForeignKey table row toColumn :: others

/-- The reference of a row elsewhere. -/
def serverForeignKey (row : Row) : ForeignKey :=
  ⟨Int64.ofInt (numberOf row "id"), textOf row "constraint_name", textOf row "from_column",
    textOf row "to_table", textOf row "to_column"⟩

/-- The references of an entry. -/
def foreignKeysOf (dialect : Dialect) (table : TableRef) : Work (List ForeignKey) := do
  let rows ← Work.query (foreignKeysQuery dialect) (tableParams dialect table)
  match dialect with
  | .sqlite => sqliteForeignKeys table rows
  | .postgres | .sqlServer => return rows.map serverForeignKey

/-- The instant of a catalog text: the Internet format, or a date and a time without an offset,
which are taken as UTC. -/
def createdOf? (s : List Char) : Option Calendar.Instant :=
  (Calendar.Read.instant? s).or
    (((Calendar.Read.spacedTimestamp? s).or (Calendar.Read.timestampT? s)).map fun utc => ⟨utc⟩)

/-- The trigger of a row. All triggers of SQLite belong to the main database, which keeps no time
of creation. -/
def triggerOf (dialect : Dialect) (row : Row) : Trigger :=
  match dialect with
  | .sqlite => ⟨textOf row "name", some "main", none, textOf row "sql", none⟩
  | .postgres | .sqlServer =>
    ⟨textOf row "name", Row.text? row "schema_name", Row.text? row "catalog_name",
      textOf row "sql_definition",
      (Row.text? row "date_created").bind fun created => createdOf? created.toList⟩

/-- The triggers of an entry. -/
def triggersOf (dialect : Dialect) (table : TableRef) : Work (List Trigger) := do
  let rows ← Work.query (triggersQuery dialect) (tableParams dialect table)
  return rows.map (triggerOf dialect)

/-- The definition of an entry. -/
def definitionOf (dialect : Dialect) (table : TableRef) : Work (Option String) :=
  match dialect with
  | .sqlite => do
    let rows ← Work.query definitionQuery (tableParams dialect table)
    return rows.head?.bind fun row => Row.text? row "sql"
  | .postgres | .sqlServer => do
    let columns ← columnsOf dialect table
    return definition? dialect table columns

/-- The rows of a page of an entry. -/
def pageOf (dialect : Dialect) (request : Page.Request) (table : TableRef) :
    Work (List Row) := do
  let quoted := dialect.quoteTable table
  let plan ← Work.answer ((Page.plan dialect request quoted).mapError Page.Refusal.toError)
  Work.query ("SELECT * FROM " ++ quoted ++ plan.fragment) plan.params

/-- The columns of a table. -/
def columns (dialect : Dialect) (name : String) : Work (List Column) :=
  withTable dialect name [] (columnsOf dialect)

/-- The references of a table to others. -/
def foreignKeys (dialect : Dialect) (name : String) : Work (List ForeignKey) :=
  withTable dialect name [] (foreignKeysOf dialect)

/-- The triggers of a table. -/
def triggers (dialect : Dialect) (name : String) : Work (List Trigger) :=
  withTable dialect name [] (triggersOf dialect)

/-- The statement that creates a table. -/
def definition (dialect : Dialect) (name : String) : Work (Option String) :=
  withTable dialect name none (definitionOf dialect)

/-- A page of the rows of a table. -/
def page (dialect : Dialect) (request : Page.Request) (name : String) : Work (List Row) :=
  withTable dialect name [] (pageOf dialect request)

end SqlAccess.Catalog
