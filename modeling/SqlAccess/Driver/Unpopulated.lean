import SqlAccess.Driver
import SqlAccess.Opening.Objection
import SqlAccess.Session.Sqlite

/-!
# Drivers without data

SQLite databases that hold nothing, and servers that nobody answers for: every database
opens in SQLite unless its connection string is refused, every catalog is empty, and the
other dialects cannot be reached.
-/

namespace SqlAccess

/-- The answers of a dialect where no table exists. -/
def Answers.unpopulated (dialect : Dialect) : Answers where
  openConnection s :=
    match dialect, OpeningFault.objection? dialect s with
    | .sqlite, none => .ok ()
    | _, _ => .error ((OpeningFault.unanswered dialect s).toError dialect)
  query _ _ := .ok []
  execute _ _ := .ok 0
  begin := .ok ()
  commit := .ok ()
  rollback := .ok ()
  version := .ok (some SqliteSession.version)
  close := .ok ()

/-- The driver of a dialect where no table exists. -/
def Driver.unpopulated (dialect : Dialect) : Driver := .steady (.unpopulated dialect)

end SqlAccess
