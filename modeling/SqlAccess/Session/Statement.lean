import SqlAccess.Driver

/-!
# Statements of a session

What a session notes in the log before it sends a statement: its parameters, shortened.
Statements of the session itself, such as the end of a transaction, leave no note.
-/

namespace SqlAccess

/-- The notes of a command. -/
def Command.notes : Command → List String
  | .query _ params | .execute _ params => [Param.diagnostics params]
  | .begin | .commit | .rollback | .version | .close => []

/-- What is said about a session that has ended. -/
def Error.sessionClosed : Error := .invalidState "connection is closed"

end SqlAccess
