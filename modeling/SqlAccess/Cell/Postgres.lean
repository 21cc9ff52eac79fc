import SqlAccess.Bytes.BigEndian
import SqlAccess.Calendar.Instant
import SqlAccess.Cell
import SqlAccess.Cell.Category
import SqlAccess.Guid
import SqlAccess.Json.Reader
import SqlAccess.Text.Utf8

/-!
# PostgreSQL cells

A cell arrives as bytes in the binary format of its type. The category of the type name
chooses the decoder, and the decoder accepts the types that it can read: a type of the same
category that it cannot read gives null, as does a value that it cannot read. Days and
instants are counted from the first of January 2000. A day beyond the calendar, a number or a
truth value with bytes missing and a decomposed document of another version are no values at
all, not even null: there is nothing to answer.
-/

namespace SqlAccess.Cell.Postgres

/-- Days from the first of January 1970 to the first of January 2000. -/
def epochDay : Int := 10957

/-- Microseconds of a day. -/
def microsecondsOfDay : Int := 86400 * 1000000

/-- An integer of one to eight bytes, where signed bits of a width hold it. -/
def integer? (width : Nat) (bytes : List UInt8) : Option Int :=
  if 1 ≤ bytes.length ∧ bytes.length ≤ 8 then
    (some (Bytes.signedBigEndian bytes)).filter (Decimal.fitsSigned width)
  else none

/-- The width of an integer type. -/
def integerWidth? : String → Option Nat
  | "INT2" => some 16
  | "INT4" => some 32
  | "INT8" => some 64
  | _ => none

/-- A text in UTF-8. -/
def text (bytes : List UInt8) : Json := Json.ofOption ((Text.Utf8.decode? bytes).map ofText)

/-- The first bytes, if there are as many. -/
def leading? (count : Nat) (bytes : List UInt8) : Option (List UInt8) :=
  if count ≤ bytes.length then some (bytes.take count) else none

/-- A number in the first four or eight bytes, by its type. -/
def float? (typeName : String) (bytes : List UInt8) : Option Json :=
  match typeName with
  | "FLOAT4" => (leading? 4 bytes).map fun word =>
      ofFloat (Binary64.ofBits32 (UInt32.ofNat (Bytes.bigEndian word)))
  | "FLOAT8" => (leading? 8 bytes).map fun word =>
      ofFloat ⟨UInt64.ofNat (Bytes.bigEndian word)⟩
  | _ => some .null

/-- A truth value, by its first byte. -/
def flag? (typeName : String) (bytes : List UInt8) : Option Json :=
  if typeName = "BOOL" then bytes.head?.map fun b => .bool (b != 0) else some .null

/-- A JSON document as it is written. -/
def document (bytes : List UInt8) : Json :=
  Json.ofOption ((Text.Utf8.decode? bytes).bind Json.read?)

/-- A JSON document; one in the decomposed format has its version, 1, in front. -/
def document? (typeName : String) (bytes : List UInt8) : Option Json :=
  if typeName = "JSONB" then
    match bytes with
    | 1 :: rest => some (document rest)
    | _ => none
  else some (document bytes)

/-- The time of day some microseconds after midnight, carried over the end of the day. -/
def timeOfDay? (microseconds : Int) : Option Calendar.TimeOfDay :=
  Calendar.TimeOfDay.ofNanos? (1000 * (Int.fmod microseconds microsecondsOfDay).toNat)

/-- The timestamp some microseconds after the first of January 2000. -/
def timestamp? (microseconds : Int) : Option Calendar.Timestamp :=
  Calendar.Timestamp.ofNanos? (1000 * (epochDay * microsecondsOfDay + microseconds))

/-- A cell that shows a count of days or of microseconds. A count that cannot be read gives null;
one beyond the calendar gives nothing. -/
def counted? {α : Type} (width : Nat) (convert : Int → Option α) (shown : α → List Char)
    (bytes : List UInt8) : Option Json :=
  match integer? width bytes with
  | none => some .null
  | some count => (convert count).map fun value => ofText (shown value)

/-- The cell of bytes of a type, given by its name in upper case. -/
def ofBytes? (typeName : String) (bytes : List UInt8) : Option Json :=
  match Category.ofTypeName .postgres typeName with
  | .decimal =>
    some (if Category.hasPart ["numeric", "decimal"] (Text.lowered typeName) then text bytes
      else .null)
  | .integer =>
    some (Json.ofOption ((integerWidth? typeName).bind fun width =>
      (integer? width bytes).map .int))
  | .boolean => flag? typeName bytes
  | .float => float? typeName bytes
  | .binary => some (if typeName = "BYTEA" then ofBytes bytes else .null)
  | .json => document? typeName bytes
  | .uuid => some (Json.ofOption ((Guid.ofBytes? bytes).map fun guid => ofText guid.text))
  | .date =>
    counted? 32 (fun days => Calendar.Date.ofDays? (epochDay + days)) Calendar.Date.text bytes
  | .time => counted? 64 timeOfDay? Calendar.TimeOfDay.text bytes
  | .timestamp => counted? 64 timestamp? (Calendar.Timestamp.textWith ' ') bytes
  | .timestampTz =>
    counted? 64 (fun count => (timestamp? count).map Calendar.Instant.mk)
      Calendar.Instant.offsetText bytes
  | .text | .unknown => some (text bytes)

/-- The cell of a value of a type; NULL is null. -/
def ofValue? (typeName : String) : Option (List UInt8) → Option Json
  | none => some .null
  | some bytes => ofBytes? typeName bytes

end SqlAccess.Cell.Postgres
