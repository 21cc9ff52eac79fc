import SqlAccess.Opening.FileQuery
import SqlAccess.Opening.ServerSettings
import SqlAccess.Opening.UrlQuery

/-!
# Connection strings that cannot be opened

What a native driver objects to before it tries to reach anything. Without an objection the
attempt is made, and how it ends is not decided here.
-/

namespace SqlAccess.OpeningFault

/-- True for the two schemes that SQL Server strings may have. -/
def isServerUrl (s : List Char) : Bool :=
  ["mssql://", "sqlserver://"].any fun scheme => scheme.toList.isPrefixOf (Text.lower s)

/-- What the driver of a dialect objects to. -/
def objection? (dialect : Dialect) (connectionString : String) : Option OpeningFault :=
  let s := connectionString.toList
  match dialect with
  | .sqlite => FileQuery.objection? s
  | .postgres => UrlQuery.objection? s
  | .sqlServer =>
    let trimmed := Text.trim s
    if isServerUrl trimmed then
      match Url.parse? trimmed with
      | .error fault => some ⟨fault.message, .address⟩
      | .ok _ => none
    else ServerSettings.objection? trimmed

/-- Why an attempt fails that nobody answers: the objection of the driver, or else that nothing was
reached. -/
def unanswered (dialect : Dialect) (connectionString : String) : OpeningFault :=
  (objection? dialect connectionString).getD (unreachable dialect)

end SqlAccess.OpeningFault
