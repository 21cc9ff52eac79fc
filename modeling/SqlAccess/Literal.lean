import SqlAccess.Binary64
import SqlAccess.Bytes.Hex
import SqlAccess.Calendar.Timestamp
import SqlAccess.Guid
import SqlAccess.Text.Diagnostic
import SqlAccess.Text.Lowercase
import SqlAccess.Text.Utf8

/-!
# Default values

The value that a column takes when none is given, before it is written as a literal
of a dialect.
-/

namespace SqlAccess

/-- A default value. -/
inductive Literal where
  | null
  | bool (value : Bool)
  | int (value : Int64)
  | float (value : Binary64)
  /-- The exact text of a decimal. -/
  | decimal (digits : String)
  | text (value : String)
  | date (value : Calendar.Date)
  | time (value : Calendar.TimeOfDay)
  | timestamp (value : Calendar.Timestamp)
  | guid (value : Guid)
  | bytes (value : List UInt8)
  /-- SQL that is passed on as it is. -/
  | expression (sql : String)
deriving DecidableEq, Repr

namespace Literal

/-- How messages show a value. -/
def diagnostic : Literal → String
  | .null => "Null"
  | .bool value => "Bool(" ++ (if value then "true" else "false") ++ ")"
  | .int value => "Int(" ++ Decimal.intText value.toInt ++ ")"
  | .float value => "Float(" ++ value.diagnosticText ++ ")"
  | .decimal digits => "Decimal(" ++ Text.diagnosticText digits ++ ")"
  | .text value => "Text(" ++ Text.diagnosticText value ++ ")"
  | .date value => "Date(" ++ String.ofList value.text ++ ")"
  | .time value => "Time(" ++ String.ofList value.text ++ ")"
  | .timestamp value => "DateTime(" ++ String.ofList (value.textWith 'T') ++ ")"
  | .guid value => "Guid(" ++ String.ofList value.text ++ ")"
  | .bytes value =>
    "Bytes([" ++ String.intercalate ", " (value.map fun b => Decimal.natText b.toNat) ++ "])"
  | .expression sql => "Expression(" ++ Text.diagnosticText sql ++ ")"

/-- The characters of a value when it stands in a text. Bytes are read as UTF-8, faults replaced. -/
def asText : Literal → String
  | .text s | .decimal s | .expression s => s
  | .bool value => if value then "true" else "false"
  | .int value => Decimal.intText value.toInt
  | .float value => value.statementText
  | .date value => String.ofList value.text
  | .time value => String.ofList value.clockText
  | .timestamp value => String.ofList value.clockText
  | .guid value => String.ofList value.text
  | .bytes value => String.ofList (Text.Utf8.decodeLenient value)
  | .null => ""

/-- The words for yes and for no, in lower case. -/
def truthOfWord : String → Option Bool
  | "true" | "1" | "t" | "yes" => some true
  | "false" | "0" | "f" | "no" => some false
  | _ => none

/-- The truth value that a literal stands for, if it stands for one. -/
def asBool : Literal → Option Bool
  | .bool value => some value
  | .int value => if value = 0 then some false else if value = 1 then some true else none
  | .text s | .decimal s => truthOfWord (Text.loweredAscii (Text.trimmed s))
  | _ => none

/-- The timestamp that a literal stands for: itself, the midnight of a date, or a text that is
either. -/
def asTimestamp : Literal → Option Calendar.Timestamp
  | .timestamp value => some value
  | .date value => some ⟨value, .midnight⟩
  | .text s =>
    let body := Text.trim s.toList
    (Calendar.Read.spacedTimestamp? body).orElse fun _ =>
      (Calendar.Read.timestampT? body).orElse fun _ =>
        (Calendar.Read.date? body).map fun date => ⟨date, .midnight⟩
  | _ => none

/-- The time of day that a literal stands for. -/
def asTime : Literal → Option Calendar.TimeOfDay
  | .time value => some value
  | .timestamp value => some value.time
  | .text s =>
    let body := Text.trim s.toList
    (Calendar.Read.time? body).orElse fun _ => Calendar.Read.shortTime? body
  | _ => none

/-- The GUID that a literal stands for. -/
def asGuid : Literal → Option Guid
  | .guid value => some value
  | .text s => Guid.parse? (Text.trim s.toList)
  | _ => none

/-- The text that a text or a decimal holds, blanks at its ends removed. -/
def numeral? : Literal → Option (List Char)
  | .decimal s | .text s => some (Text.trim s.toList)
  | _ => none

end Literal

/-- Text without its sign. -/
def unsigned : List Char → List Char
  | '-' :: rest => rest
  | '+' :: rest => rest
  | s => s

/-- An optional sign, at least one digit and at most one point; no exponent, no grouping. -/
def isDecimalText (s : List Char) : Bool :=
  let body := unsigned s
  body.all (fun c => Decimal.isDigit c || c == '.') && body.any Decimal.isDigit &&
    body.count '.' ≤ 1

end SqlAccess
