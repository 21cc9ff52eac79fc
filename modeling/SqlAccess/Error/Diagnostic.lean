import SqlAccess.Error
import SqlAccess.Text.Diagnostic

/-!
# Diagnostics of errors

An error with the names of its parts, as a program shows it that ends with one. Of the fault
behind a failure it is only shown that there is one.
-/

namespace SqlAccess.Error

/-- The name of an error with its named parts. -/
def record (name : String) (parts : List (String × String)) : String :=
  name ++ " \x7b " ++ String.intercalate ", " (parts.map fun part => part.1 ++ ": " ++ part.2) ++
    " \x7d"

/-- A value that may be missing. -/
def optionText (value : Option String) : String :=
  match value with
  | some text => "Some(" ++ text ++ ")"
  | none => "None"

/-- The diagnostic of an error. -/
def diagnostic : Error → String
  | .configuration message => record "Configuration" [("message", Text.diagnosticText message)]
  | .connectParams message cause =>
    record "ConnectParams" [("message", Text.diagnosticText message),
      ("source", optionText (cause.map fun _ => "..."))]
  | .databaseName name reason =>
    record "DatabaseName" [("name", Text.diagnosticText name),
      ("reason", Text.diagnosticText reason)]
  | .transactionState message =>
    record "TransactionState" [("message", Text.diagnosticText message)]
  | .invalidState message => record "InvalidState" [("message", Text.diagnosticText message)]
  | .unsupportedType logical dialect =>
    record "UnsupportedType" [("logical_type", Text.diagnosticText logical.name),
      ("dialect", Text.diagnosticText dialect.displayName)]
  | .database message state cause =>
    record "Database" [("message", Text.diagnosticText message),
      ("sql_state", optionText (state.map Text.diagnosticText)),
      ("source", optionText (cause.map fun _ => "..."))]
  | .invalidInput message => record "InvalidInput" [("message", Text.diagnosticText message)]

end SqlAccess.Error
