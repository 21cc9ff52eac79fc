import SqlAccess.Dialect
import SqlAccess.LogicalType

/-!
# Errors

An error says what was refused or what failed. The refusals are made by this library
before anything is sent; the failures come from a native driver, and the fault behind
them is kept, since it decides whether another attempt makes sense.
-/

namespace SqlAccess

/-- Faults of the native driver that serves SQLite and PostgreSQL. -/
inductive ClientFault where
  /-- The connection string cannot be used. -/
  | configuration
  | io
  | tls
  | protocol
  | poolTimedOut
  | poolClosed
  /-- The engine refused, with its code if it gave one. -/
  | server (code : Option String) (message : String)
  | rowNotFound
  | columnNotFound
  | columnIndexOutOfBounds
  | columnDecode
  | decode
  /-- Every other fault. -/
  | other
deriving DecidableEq, Repr

/-- Faults of the native driver that serves SQL Server. -/
inductive TdsFault where
  | io
  | tls
  /-- The server asked to connect elsewhere. -/
  | routing
  /-- The server refused, with its error number. -/
  | server (code : Nat) (message : String)
  | conversion
  /-- Every other fault. -/
  | other
deriving DecidableEq, Repr

/-- What a failure was caused by. -/
inductive Fault where
  | client (fault : ClientFault)
  | tds (fault : TdsFault)
  /-- A URL that cannot be read. -/
  | address
  /-- A fault of the system underneath. -/
  | system
deriving DecidableEq, Repr

/-- A fault that comes back in the same way on every attempt. -/
def Fault.isPermanent : Fault → Bool
  | .client .configuration => true
  | .client _ => false
  | .tds .io | .tds .tls | .tds .routing => false
  | .tds _ => true
  | .address => true
  | .system => false

/-- What can go wrong. -/
inductive Error where
  /-- An empty connection string, table or column name. -/
  | configuration (message : String)
  | connectParams (message : String) (cause : Option Fault)
  | databaseName (name reason : String)
  | transactionState (message : String)
  | invalidState (message : String)
  | unsupportedType (logical : LogicalType) (dialect : Dialect)
  | database (message : String) (sqlState : Option String) (cause : Option Fault)
  | invalidInput (message : String)
deriving DecidableEq, Repr

namespace Error

/-- The name of the kind of error. -/
def kind : Error → String
  | .configuration _ => "Configuration"
  | .connectParams _ _ => "ConnectParams"
  | .databaseName _ _ => "DatabaseName"
  | .transactionState _ => "TransactionState"
  | .invalidState _ => "InvalidState"
  | .unsupportedType _ _ => "UnsupportedType"
  | .database _ _ _ => "Database"
  | .invalidInput _ => "InvalidInput"

/-- The text of an error. -/
def message : Error → String
  | .configuration message => "Configuration error: " ++ message
  | .connectParams message _ => "Invalid connection parameters: " ++ message
  | .databaseName name reason => "Invalid database name '" ++ name ++ "': " ++ reason
  | .transactionState message => "Transaction state error: " ++ message
  | .invalidState message => "Invalid state: " ++ message
  | .unsupportedType logical dialect =>
    "Unsupported type: " ++ logical.name ++ " has no mapping for " ++ dialect.displayName
  | .database message _ _ => "Database error: " ++ message
  | .invalidInput message => "Invalid input: " ++ message

/-- The fault behind a failure. -/
def cause : Error → Option Fault
  | .connectParams _ cause => cause
  | .database _ _ cause => cause
  | _ => none

/-- The code that the engine reported. -/
def sqlState : Error → Option String
  | .database _ state _ => state
  | _ => none

/-- True where another attempt may succeed: a connection failed, and for a cause that can pass. -/
def isRetryable : Error → Bool
  | .connectParams _ (some cause) => !cause.isPermanent
  | _ => false

/-- True for what is refused before a native driver is touched. -/
def isValidation : Error → Bool
  | .configuration _ | .databaseName _ _ | .transactionState _ | .invalidState _
  | .unsupportedType _ _ | .invalidInput _ => true
  | .connectParams _ _ | .database _ _ _ => false

/-- A connection that could not be used, with its fault. -/
def connecting (message : String) (fault : Fault) : Error := .connectParams message (some fault)

/-- A failed statement without a code, with its fault. -/
def failing (message : String) (fault : Fault) : Error := .database message none (some fault)

/-- The error that a fault of the SQLite and PostgreSQL driver becomes. -/
def ofClientFault (fault : ClientFault) : Error :=
  let cause := Fault.client fault
  match fault with
  | .configuration => connecting "Malformed connection string" cause
  | .io => connecting "Database endpoint unreachable" cause
  | .tls => connecting "TLS negotiation failed" cause
  | .protocol => connecting "Protocol error" cause
  | .poolTimedOut | .poolClosed => connecting "Connection unavailable" cause
  | .server code message => .database message code (some cause)
  | .rowNotFound => failing "No rows returned" cause
  | .columnNotFound | .columnIndexOutOfBounds => failing "Column lookup failed" cause
  | .columnDecode | .decode => failing "Failed to decode value" cause
  | .other => failing "Driver error" cause

/-- The error that a fault of the SQL Server driver becomes. -/
def ofTdsFault (fault : TdsFault) : Error :=
  let cause := Fault.tds fault
  match fault with
  | .io => connecting "Database endpoint unreachable" cause
  | .tls => connecting "TLS negotiation failed" cause
  | .routing => connecting "Server requested connection routing" cause
  | .server code message => .database message (some (Decimal.natText code)) (some cause)
  | .conversion => failing "Failed to convert value" cause
  | .other => failing "Driver error" cause

end Error

end SqlAccess
