/-!
# Logical column types

What a column holds, whatever the engine calls it.
-/

namespace SqlAccess

/-- The kinds of column data that are told apart. -/
inductive LogicalType where
  | tinyInt
  | smallInt
  | int
  | bigInt
  /-- Character data of bounded length. -/
  | string
  /-- Character data without a bound. -/
  | text
  | binary
  | float
  | double
  | decimal
  | boolean
  | date
  | time
  | dateTime
  | dateTime2
  | dateTimeOffset
  | guid
  | xml
  /-- A catalog type without a logical counterpart. -/
  | other
deriving DecidableEq, Repr, Inhabited

namespace LogicalType

/-- Every logical type, in the order of the declaration. -/
def all : List LogicalType :=
  [.tinyInt, .smallInt, .int, .bigInt, .string, .text, .binary, .float, .double, .decimal,
   .boolean, .date, .time, .dateTime, .dateTime2, .dateTimeOffset, .guid, .xml, .other]

/-- The name in messages and in serialized values. -/
def name : LogicalType → String
  | .tinyInt => "tiny_int"
  | .smallInt => "small_int"
  | .int => "int"
  | .bigInt => "big_int"
  | .string => "string"
  | .text => "text"
  | .binary => "binary"
  | .float => "float"
  | .double => "double"
  | .decimal => "decimal"
  | .boolean => "boolean"
  | .date => "date"
  | .time => "time"
  | .dateTime => "date_time"
  | .dateTime2 => "date_time2"
  | .dateTimeOffset => "date_time_offset"
  | .guid => "guid"
  | .xml => "xml"
  | .other => "other"

/-- The logical type of a name. -/
def ofName? (name : String) : Option LogicalType :=
  all.find? fun logical => logical.name == name

/-- The four widths of integers. -/
def isInteger : LogicalType → Bool
  | .tinyInt | .smallInt | .int | .bigInt => true
  | _ => false

/-- Integers, binary fractions and decimals. -/
def isNumeric (logical : LogicalType) : Bool :=
  logical.isInteger ||
    match logical with
    | .float | .double | .decimal => true
    | _ => false

/-- Character data. -/
def isString : LogicalType → Bool
  | .string | .text => true
  | _ => false

/-- A date together with a time of day. -/
def isTimestamp : LogicalType → Bool
  | .dateTime | .dateTime2 | .dateTimeOffset => true
  | _ => false

/-- Every name reads back as its type. -/
theorem of_name?_name (logical : LogicalType) : ofName? logical.name = some logical := by
  cases logical <;> decide

end LogicalType

end SqlAccess
