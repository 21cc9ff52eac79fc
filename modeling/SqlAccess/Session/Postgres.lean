import SqlAccess.Cell.Postgres
import SqlAccess.Session.Statement

/-!
# PostgreSQL sessions

What a session sends to the server for a command, and what it makes of the reply. Plain
statements are sent as they are; statements with parameters and statements with rows are
prepared, and their parameters are bound. A server may refuse a prepared statement before
it is bound or after.
-/

namespace SqlAccess.PostgresSession

/-- What is sent. -/
inductive Message where
  | simple (sql : String)
  | prepare (sql : String)
  | bind (params : List Param)
deriving DecidableEq, Repr

/-- A column of a reply. -/
structure ReplyColumn where
  name : String
  /-- The name of the type, in upper case. -/
  typeName : String
deriving DecidableEq, Repr

/-- What the server replies to a statement. -/
inductive Reply where
  /-- Rows of binary values, and the number of affected rows. -/
  | result (columns : List ReplyColumn) (rows : List (List (Option (List UInt8)))) (affected : Nat)
  /-- A refusal with its code; late, when parameters were bound before it. -/
  | refusal (code message : String) (late : Bool)
deriving DecidableEq, Repr

/-- What a command gives. -/
inductive Value where
  | done
  | affected (count : Nat)
  | rows (rows : List Row)
  | version (text : Option String)

/-- The answer to a command. -/
structure Exchange where
  result : Except Error Value
  sent : List Message
  notes : List String

/-- The statement that asks for the version. -/
def versionQuery : String := "SELECT current_setting('server_version')"

/-- The statement of a command, and its parameters if it is prepared. -/
def statement : Command → String × Option (List Param)
  | .query sql params => (sql, some params)
  | .execute sql params => (sql, if params.isEmpty then none else some params)
  | .begin => ("BEGIN", none)
  | .commit => ("COMMIT", none)
  | .rollback => ("ROLLBACK", none)
  | .version => (versionQuery, some [])
  | .close => ("", none)

/-- What is sent for a statement that gets a reply. -/
def messages (reply : Reply) : String × Option (List Param) → List Message
  | (sql, none) => [.simple sql]
  | (sql, some params) =>
    match reply with
    | .refusal _ _ false => [.prepare sql]
    | _ => [.prepare sql, .bind params]

/-- A row of a reply. A name that comes again keeps its place and takes the last cell. -/
def row? (columns : List ReplyColumn) (cells : List (Option (List UInt8))) : Option Row := do
  let decoded ← (columns.zip cells).mapM fun (column, cell) => do
    return (column.name, ← Cell.Postgres.ofValue? column.typeName cell)
  return Fields.ofPairs decoded

/-- The types whose values are read as a version. -/
def textTypes : List String := ["TEXT", "NAME", "BPCHAR", "VARCHAR", "UNKNOWN", "CITEXT"]

/-- The version in a reply: the first cell of the first row. -/
def version (columns : List ReplyColumn) (rows : List (List (Option (List UInt8)))) :
    Except Error (Option String) :=
  match rows with
  | [] => .ok none
  | cells :: _ =>
    match columns, cells with
    | column :: _, some bytes :: _ =>
      match Text.Utf8.decode? bytes with
      | some text =>
        if textTypes.contains column.typeName then .ok (some (String.ofList text))
        else .error (Error.ofClientFault .columnDecode)
      | none => .error (Error.ofClientFault .columnDecode)
    | _ :: _, none :: _ => .error (Error.ofClientFault .columnDecode)
    | _, _ => .error (Error.ofClientFault .columnIndexOutOfBounds)

/-- What a command makes of a reply; nothing where a day lies beyond the calendar. -/
def value? (command : Command) : Reply → Option (Except Error Value)
  | .refusal code message _ => some (.error (Error.ofClientFault (.server (some code) message)))
  | .result columns rows affected =>
    match command with
    | .query _ _ => (rows.mapM (row? columns)).map fun rows => .ok (.rows rows)
    | .execute _ _ => some (.ok (.affected affected))
    | .version => some ((version columns rows).map .version)
    | .begin | .commit | .rollback | .close => some (.ok .done)

/-- The answer of a session to a command. A session that has ended sends nothing, and only its end
can be asked for again. -/
def exchange? (isOpen : Bool) (command : Command) (reply : Reply) : Option Exchange :=
  if command = .close then some ⟨.ok .done, [], command.notes⟩
  else if isOpen then
    (value? command reply).map fun result =>
      ⟨result, messages reply (statement command), command.notes⟩
  else some ⟨.error .sessionClosed, [], command.notes⟩

/-- Whether a session is open after a command. -/
def isOpenAfter (isOpen : Bool) (command : Command) : Bool := isOpen && command != .close

end SqlAccess.PostgresSession
