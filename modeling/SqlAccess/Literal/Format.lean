import SqlAccess.Error
import SqlAccess.Literal

/-!
# Writing default values

A value becomes a literal of a dialect, under the logical type of its column. An
absent value is NULL and an expression passes through; every other value is refused
where the type cannot hold it.
-/

namespace SqlAccess

namespace Dialect

/-- A truth value. -/
def boolLiteral (dialect : Dialect) (value : Bool) : String :=
  match dialect with
  | .postgres => if value then "true" else "false"
  | .sqlite | .sqlServer => if value then "1" else "0"

/-- A text. SQL Server keeps characters beyond its code page only in national literals. -/
def textLiteral (dialect : Dialect) (s : String) : String :=
  match dialect with
  | .sqlServer => "N" ++ quoteText s
  | .sqlite | .postgres => quoteText s

/-- What follows the text of an XML value. -/
def xmlSuffix : Dialect → String
  | .postgres => "::xml"
  | .sqlite | .sqlServer => ""

/-- Bytes, in upper-case digits. -/
def bytesLiteral (dialect : Dialect) (bytes : List UInt8) : String :=
  let digits := String.ofList (Bytes.hexUpper bytes)
  match dialect with
  | .sqlite => "X'" ++ digits ++ "'"
  | .postgres => "'\\x" ++ digits ++ "'::bytea"
  | .sqlServer => "0x" ++ digits

end Dialect

namespace Literal

/-- The refusal of a value for a type. -/
def refuse (logical : LogicalType) (value : Literal) : Error :=
  .invalidInput
    ("cannot render " ++ value.diagnostic ++ " as a " ++ logical.name ++ " default")

/-- A literal that was found, else the refusal. -/
def orRefuse (logical : LogicalType) (value : Literal) : Option String → Except Error String
  | some literal => .ok literal
  | none => .error (refuse logical value)

/-- An integer literal. -/
def formatInteger (value : Literal) : Except Error String :=
  orRefuse .bigInt value <|
    match value with
    | .int i => some (Decimal.intText i.toInt)
    | .bool b => some (if b then "1" else "0")
    | .float x => if x.isIntegral then some x.statementText else none
    | _ => (value.numeral?.bind Decimal.int64Value?).map Decimal.intText

/-- The text of a decimal, when it is one. -/
def decimalText? (value : Literal) : Option String :=
  (value.numeral?.filter isDecimalText).map String.ofList

/-- A floating-point literal. -/
def formatFloat (value : Literal) : Except Error String :=
  match value with
  | .float x =>
    if x.isFinite then .ok x.statementText
    else .error (.invalidInput
      ("non-finite value " ++ x.statementText ++ " has no SQL literal"))
  | .int i => .ok (Decimal.intText i.toInt)
  | _ => orRefuse .double value value.decimalText?

/-- A decimal literal: the text of a decimal as it stands, else as a floating-point literal. -/
def formatDecimal (value : Literal) : Except Error String :=
  match value.decimalText? with
  | some literal => .ok literal
  | none => formatFloat value

/-- A quoted text of characters. -/
def quoteChars (s : List Char) : String := quoteText (String.ofList s)

/-- A value that is neither null nor an expression, as a literal of its column's type. -/
def formatValue (dialect : Dialect) (logical : LogicalType) (value : Literal) :
    Except Error String :=
  match logical with
  | .tinyInt | .smallInt | .int | .bigInt => formatInteger value
  | .float | .double => formatFloat value
  | .decimal => formatDecimal value
  | .boolean => orRefuse logical value (value.asBool.map dialect.boolLiteral)
  | .string | .text | .other => .ok (dialect.textLiteral value.asText)
  | .xml => .ok (dialect.textLiteral value.asText ++ dialect.xmlSuffix)
  | .date => orRefuse logical value (value.asTimestamp.map fun ts => quoteChars ts.date.text)
  | .time => orRefuse logical value (value.asTime.map fun time => quoteChars time.clockText)
  | .dateTime | .dateTime2 | .dateTimeOffset =>
    orRefuse logical value (value.asTimestamp.map fun ts => quoteChars ts.clockText)
  | .guid => orRefuse logical value (value.asGuid.map fun guid => quoteChars guid.text)
  | .binary =>
    match value with
    | .bytes content => .ok (dialect.bytesLiteral content)
    | _ => .error (refuse logical value)

/-- A default value as a literal; an absent one is NULL. -/
def format (dialect : Dialect) (logical : LogicalType) (value : Option Literal) :
    Except Error String :=
  match value with
  | none | some .null => .ok "NULL"
  | some (.expression sql) => .ok sql
  | some value => formatValue dialect logical value

end Literal

end SqlAccess
