import SqlAccess.Cell.Sqlite
import SqlAccess.Session.Statement

/-!
# SQLite sessions in memory

A session over a database in memory that holds at most one table. A transaction keeps the
state from before it; a rollback goes back there. What is bound to a statement comes back
as SQLite stores it.
-/

namespace SqlAccess.SqliteSession

open Cell (Stored)

/-- The table: the declared types of its columns, and its rows in the order of insertion. -/
structure StoredTable where
  declared : List String
  rows : List (List Stored)
deriving DecidableEq, Repr

/-- An open session: the table if there is one, and the state to go back to while a transaction
runs. -/
structure Opened where
  table : Option StoredTable := none
  saved : Option (Option StoredTable) := none
deriving DecidableEq, Repr

/-- A session; none once it has ended. -/
abbrev Session := Option Opened

/-- What is asked of a session. -/
inductive Request where
  /-- The parameters as one row. -/
  | select (params : List Param)
  /-- Another table in the place of the present one, and all of its rows. -/
  | replace (declared : List String) (rows : List (List Param))
  | count
  | delete
  | begin
  | commit
  | rollback
  | version
  | close
deriving DecidableEq, Repr

/-- What a request gives. -/
inductive Value where
  | done
  | affected (count : Nat)
  | rows (rows : List Row)
  | version (text : String)
  /-- The affected rows of each insertion, and the rows of the table. -/
  | inserted (affected : List Nat) (rows : List Row)

/-- The answer to a request. -/
structure Answer where
  result : Except Error Value
  notes : List String
  session : Session

/-- The version of the engine. -/
def version : String := "3.46.0"

/-- A refusal of the engine. -/
def refusal (message : String) : Error := Error.ofClientFault (.server (some "1") message)

/-- The names of columns: `c1`, `c2` and so on. -/
def columnNames (count : Nat) : List String :=
  (List.range' 1 count).map fun i => "c" ++ Decimal.natText i

/-- A row of cells under the names of the columns. -/
def rowOf (declared : List (Option String)) (values : List Stored) : Row :=
  (columnNames values.length).zip
    ((declared.zip values).map fun (type, value) => value.toJson type)

/-- The rows of a table. -/
def StoredTable.shown (table : StoredTable) : List Row :=
  table.rows.map (rowOf (table.declared.map some))

/-- The parameters as a row of expressions, which have no declared type. -/
def selected (params : List Param) : Row :=
  rowOf (params.map fun _ => none) (params.map Stored.ofParam)

/-- The rows that fit the columns, up to the first that does not, and its refusal. -/
def accepted (width : Nat) : List (List Param) → List (List Param) × Option Error
  | [] => ([], none)
  | row :: rest =>
    if row.length = width then
      let (others, error) := accepted width rest
      (row :: others, error)
    else ([], some (refusal ("table t has " ++ Decimal.natText width ++ " columns but " ++
      Decimal.natText row.length ++ " values were supplied")))

/-- An empty list of parameters, as it is noted. -/
def bare : String := Param.diagnostics []

/-- Another table. Its making is noted, then every row. -/
def replace (opened : Opened) (declared : List String) (rows : List (List Param)) : Answer :=
  let (fitting, error) := accepted declared.length rows
  let table : StoredTable := ⟨declared, fitting.map fun row => row.map Stored.ofParam⟩
  let after := some { opened with table := some table }
  match error with
  | some error =>
    ⟨.error error, [bare, bare] ++ (rows.take (fitting.length + 1)).map Param.diagnostics,
      after⟩
  | none =>
    ⟨.ok (.inserted (fitting.map fun _ => 1) table.shown),
      [bare, bare] ++ rows.map Param.diagnostics ++ [bare], after⟩

/-- What an open session answers. -/
def respond (opened : Opened) : Request → Answer
  | .select params =>
    let result := if params.isEmpty then .error (refusal "incomplete input")
      else .ok (.rows [selected params])
    ⟨result, [Param.diagnostics params], some opened⟩
  | .replace declared rows => replace opened declared rows
  | .count =>
    match opened.table with
    | none => ⟨.error (refusal "no such table: t"), [bare], some opened⟩
    | some table => ⟨.ok (.rows [[("n", .int table.rows.length)]]), [bare], some opened⟩
  | .delete =>
    match opened.table with
    | none => ⟨.error (refusal "no such table: t"), [bare], some opened⟩
    | some table =>
      ⟨.ok (.affected table.rows.length), [bare],
        some { opened with table := some { table with rows := [] } }⟩
  | .begin =>
    match opened.saved with
    | none => ⟨.ok .done, [], some { opened with saved := some opened.table }⟩
    | some _ =>
      ⟨.error (refusal "cannot start a transaction within a transaction"), [], some opened⟩
  | .commit =>
    match opened.saved with
    | some _ => ⟨.ok .done, [], some { opened with saved := none }⟩
    | none => ⟨.error (refusal "cannot commit - no transaction is active"), [], some opened⟩
  | .rollback =>
    match opened.saved with
    | some before => ⟨.ok .done, [], some ⟨before, none⟩⟩
    | none => ⟨.error (refusal "cannot rollback - no transaction is active"), [], some opened⟩
  | .version => ⟨.ok (.version version), [], some opened⟩
  | .close => ⟨.ok .done, [], none⟩

/-- The note that is made of a request before the session is found to have ended. -/
def firstNote : Request → List String
  | .select params => [Param.diagnostics params]
  | .replace _ _ | .count | .delete => [bare]
  | .begin | .commit | .rollback | .version | .close => []

/-- The answer of a session. A session that has ended can only be asked to end again. -/
def ask (session : Session) (request : Request) : Answer :=
  match session with
  | some opened => respond opened request
  | none =>
    if request = .close then ⟨.ok .done, [], none⟩
    else ⟨.error .sessionClosed, firstNote request, none⟩

end SqlAccess.SqliteSession
