import SqlAccess.ConnectionString.DatabaseName
import SqlAccess.ConnectionString.FilePath
import SqlAccess.ConnectionString.Settings
import SqlAccess.Url
import SqlAccess.Url.Form

/-!
# Connection strings

Of a connection string only the name of the database is understood: it is read, it is
replaced by another one, and passwords are hidden. Everything else goes to the native driver
as it is. SQLite strings are file paths; the others are URLs of four schemes or lists of
settings. Blanks around a string mean nothing.
-/

namespace SqlAccess.ConnectionString

/-- The schemes of the connection strings that are URLs. -/
def urlSchemes : List String := ["postgres://", "postgresql://", "mssql://", "sqlserver://"]

/-- True for a string with one of the four schemes, in any case. -/
def isUrl (s : List Char) : Bool :=
  urlSchemes.any fun scheme => (Text.dropStart? scheme.toList (Text.lowerAscii s)).isSome

/-- The dialect that a connection string is written for, if it shows. Schemes are looked at
first, then server keys, then the ending of a file name. -/
def dialect? (connectionString : String) : Option Dialect :=
  let lower := Text.lower (Text.trim connectionString.toList)
  let starts (part : String) : Bool := (Text.dropStart? part.toList lower).isSome
  let ends (part : String) : Bool := (Text.dropEnd? part.toList lower).isSome
  let has (part : String) : Bool := Text.contains part.toList lower
  if starts "postgres://" || starts "postgresql://" then some .postgres
  else if starts "sqlite:" then some .sqlite
  else if starts "mssql://" || starts "sqlserver://" then some .sqlServer
  else if starts "server=" || starts "data source=" || has ";server=" || has ";data source=" then
    some .sqlServer
  else if ends ".db" || ends ".sqlite" || lower == ":memory:".toList then some .sqlite
  else none

/-- The database of a URL: its path, or the query value `dbname` where the path is empty. -/
def urlDatabase? (url : Url) : Option (List Char) :=
  let name := url.path.dropWhile (· = '/')
  if name.isEmpty then
    let pairs := Url.Form.pairs (url.query.getD [])
    (pairs.find? fun pair => Text.sameIgnoringAsciiCase pair.1 "dbname".toList).map (·.2)
  else
    let value := match Text.cutAt '&' name with
      | some (first, _) => first
      | none => name
    some (Url.Form.decode value)

/-- The database that a connection string names. -/
def databaseName? (dialect : Dialect) (connectionString : String) : Option String :=
  let trimmed := Text.trim connectionString.toList
  let name? : Option (List Char) :=
    match dialect with
    | .sqlite => some (FilePath.parse trimmed).stem |>.filter fun stem => !stem.isEmpty
    | .postgres | .sqlServer =>
      if isUrl trimmed then
        match Url.parse? trimmed with
        | .ok url => urlDatabase? url
        | .error _ => none
      else Settings.database? trimmed
  name?.map String.ofList

/-- The connection string with another database. The name is checked first; a database in
memory cannot be replaced. -/
def withDatabase (dialect : Dialect) (connectionString name : String) : Except Error String := do
  DatabaseName.validate name
  let trimmed := Text.trim connectionString.toList
  if trimmed.isEmpty then throw (.configuration "connection string must not be empty")
  match dialect with
  | .sqlite =>
    let file := FilePath.parse trimmed
    if file.isMemory then
      throw (.databaseName name "an in-memory SQLite database has no file to switch")
    return String.ofList (file.withStem name.toList).text
  | .postgres | .sqlServer =>
    if isUrl trimmed then
      match Url.parse? trimmed with
      | .ok url => return String.ofList (url.withPath ('/' :: name.toList)).text
      | .error fault => throw (.configuration ("Invalid connection URL: " ++ fault.message))
    else return String.ofList (Settings.withDatabase trimmed name.toList)

/-- A URL with its password hidden: the text between the last colon of the credentials and the
first at sign. -/
def maskedUrl (s : List Char) : List Char :=
  match Text.cutAtPart "://".toList s with
  | some (scheme, afterScheme) =>
    match Text.cutAt '@' afterScheme with
    | some (credentials, host) =>
      match Text.cutAtLast ':' credentials with
      | some (user, _) =>
        scheme ++ "://".toList ++ user ++ ":****@".toList ++ host
      | none => s
    | none => s
  | none => s

/-- A connection string fit to be shown: blanks at its ends removed and passwords hidden. -/
def masked (connectionString : String) : String :=
  let trimmed := Text.trim connectionString.toList
  String.ofList (if isUrl trimmed then maskedUrl trimmed else Settings.masked trimmed)

end SqlAccess.ConnectionString
