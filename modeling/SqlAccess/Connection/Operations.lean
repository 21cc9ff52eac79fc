import SqlAccess.Catalog
import SqlAccess.Connection.Handle
import SqlAccess.Metadata.Serialized

/-!
# Operations on handles

Statements, pages, metadata and databases. An operation works on a closed handle too, on a
connection of its own. Names are checked before a connection is asked for.
-/

namespace SqlAccess.Handle

/-- Have a statement executed; the result is the number of rows that were changed. -/
def execute (sql : String) (params : List Param) : Action Nat := run (Work.execute sql params)

/-- The rows of a query. -/
def query (sql : String) (params : List Param) : Action (List Row) := run (Work.query sql params)

/-- The first row of a query. -/
def queryFirst (sql : String) (params : List Param) : Action (Option Row) := do
  return (← query sql params).head?

/-- The first cell of the first row of a query. -/
def queryScalar (sql : String) (params : List Param) : Action (Option Json) := do
  return (← queryFirst sql params).bind fun row => row.head?.map (·.2)

/-- The version of the engine. -/
def serverVersion : Action (Option String) := run Work.version

/-- Work about a table, once its name is seen not to be blank. -/
def aboutTable {α : Type} (table : String) (work : Dialect → Work α) : Action α := do
  Action.answer (TableName.require table)
  let handle ← Action.current
  run (work handle.dialect)

/-- The user tables. -/
def tables : Action (List TableRef) := do
  let handle ← Action.current
  run (Catalog.tables handle.dialect)

/-- A page of the rows of a table. -/
def queryPage (table : String) (request : Page.Request) : Action (List Row) :=
  aboutTable table fun dialect => Catalog.page dialect request table

/-- The columns of a table. -/
def columns (table : String) : Action (List Column) :=
  aboutTable table fun dialect => Catalog.columns dialect table

/-- The references of a table to others. -/
def foreignKeys (table : String) : Action (List ForeignKey) :=
  aboutTable table fun dialect => Catalog.foreignKeys dialect table

/-- The triggers of a table. -/
def triggers (table : String) : Action (List Trigger) :=
  aboutTable table fun dialect => Catalog.triggers dialect table

/-- The statement that creates a table, or none where the table is missing. -/
def tableDefinition (table : String) : Action (Option String) :=
  aboutTable table fun dialect => Catalog.definition dialect table

/-- Write another connection string. -/
def redirect (connectionString : String) : Action Unit := fun _ handle =>
  ⟨.ok (), [], { handle with connectionString := connectionString }⟩

/-- Go to another database. A held connection is closed and one to the other database opened. -/
def changeDatabase (name : String) : Action Unit := do
  let handle ← Action.current
  if handle.inTransaction then
    Action.refuse (.transactionState "cannot change database while a transaction is open")
  else
    let target ← Action.answer
      (ConnectionString.withDatabase handle.dialect handle.connectionString name)
    closeConnection
    redirect target
    if handle.connection.isSome then openConnection else return ()

/-- Open a connection and close it again. -/
def touch (connectionString : String) : Action Unit := do
  let number ← dial connectionString
  fun _ handle => ⟨.ok (), [.sent number .close], handle⟩

/-- Create a database: a file beside the present one in SQLite, elsewhere one on the same server,
which is not possible in a transaction. -/
def createDatabase (name : String) : Action Unit := do
  Action.answer (DatabaseName.validate name)
  let handle ← Action.current
  match handle.dialect with
  | .sqlite =>
    let target ← Action.answer
      (ConnectionString.withDatabase handle.dialect handle.connectionString name)
    touch target
  | .postgres | .sqlServer =>
    if handle.inTransaction then
      Action.refuse (.transactionState "CREATE DATABASE cannot run inside a transaction")
    else
      let _ ← execute ("CREATE DATABASE " ++ handle.dialect.quoteIdentifier name) []

/-- A summary of a handle, fit to be shown. -/
structure Info where
  dialect : Dialect
  /-- Passwords are hidden. -/
  connectionString : String
  database : Option String
  serverVersion : Option String
  state : ConnectionState
deriving DecidableEq, Repr

/-- The serialized summary; what is not known is left out. -/
def Info.toJson (info : Info) : Json :=
  .object ([("database_type", .string info.dialect.tag),
      ("connection_string", .string info.connectionString)] ++
    Json.fieldIfAny "database" (info.database.map .string) ++
    Json.fieldIfAny "server_version" (info.serverVersion.map .string) ++
    [("state", .string info.state.tag)])

/-- The summary of a handle, with the version that the engine reports. -/
def info : Action Info := do
  let version ← serverVersion
  let handle ← Action.current
  return ⟨handle.dialect, ConnectionString.masked handle.connectionString, handle.databaseName?,
    version, handle.state⟩

end SqlAccess.Handle
