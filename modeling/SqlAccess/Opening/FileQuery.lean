import SqlAccess.Opening
import SqlAccess.Text.Diagnostic
import SqlAccess.Url.Form

/-!
# Queries of SQLite connection strings

The query behind a file path sets how the file is opened. Only known settings with known
values are accepted. The scheme may stand several times; the path is percent-encoded.
-/

namespace SqlAccess.FileQuery

/-- The rest of a text behind all repetitions of a part; there are no more of them than
characters. -/
def dropAll (part s : List Char) : List Char :=
  Nat.repeat (fun rest => (Text.dropStart? part rest).getD rest) s.length s

/-- A connection string without its scheme. -/
def withoutScheme (s : List Char) : List Char :=
  dropAll "sqlite:".toList (dropAll "sqlite://".toList s)

/-- The values that a setting takes; `none` for a setting that takes any. -/
def settings : List (String × Option (List String)) :=
  [("mode", some ["ro", "rw", "rwc", "memory"]), ("cache", some ["private", "shared"]),
    ("immutable", some ["true", "1", "false", "0"]), ("vfs", none)]

/-- What is wrong with one setting. -/
def settingObjection? (setting : List Char × List Char) : Option OpeningFault :=
  let name := String.ofList setting.1
  let value := String.ofList setting.2
  match settings.lookup name with
  | none => some (.configuration
      ("unknown query parameter \x60" ++ name ++ "\x60 while parsing connection URL"))
  | some none => none
  | some (some values) =>
    if values.contains value then none
    else some (.configuration
      ("unknown value " ++ Text.diagnosticText value ++ " for \x60" ++ name ++ "\x60"))

/-- What is wrong with a path. -/
def pathObjection? (path : List Char) : Option OpeningFault :=
  match Text.Utf8.decode? (Text.Percent.decode (Text.Utf8.encode path)) with
  | some _ => none
  | none => some (.configuration "invalid utf-8 sequence")

/-- The first thing that is wrong with a connection string. -/
def objection? (s : List Char) : Option OpeningFault :=
  match Text.cutAt '?' (withoutScheme s) with
  | none => pathObjection? (withoutScheme s)
  | some (path, query) =>
    (pathObjection? path).or ((Url.Form.pairs query).findSome? settingObjection?)

end SqlAccess.FileQuery
