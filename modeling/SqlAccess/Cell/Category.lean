import SqlAccess.Dialect
import SqlAccess.Text.Lowercase
import SqlAccess.Text.Pieces

/-!
# Categories of column types

How a cell is decoded depends on the category of the type name that the engine reports. Some
categories are recognized by a part of the name, others by the whole of it; the order of the
questions matters where a name has the parts of several.
-/

namespace SqlAccess

/-- The ways to decode a cell. -/
inductive Category where
  | integer
  | float
  | decimal
  | boolean
  | text
  | binary
  | json
  | uuid
  | date
  | time
  | timestamp
  | timestampTz
  | unknown
deriving DecidableEq, Repr

namespace Category

/-- The name of a category. -/
def name : Category → String
  | .integer => "Integer"
  | .float => "Float"
  | .decimal => "Decimal"
  | .boolean => "Boolean"
  | .text => "Text"
  | .binary => "Binary"
  | .json => "Json"
  | .uuid => "Uuid"
  | .date => "Date"
  | .time => "Time"
  | .timestamp => "Timestamp"
  | .timestampTz => "TimestampTz"
  | .unknown => "Unknown"

/-- True when a name has one of the parts. -/
def hasPart (parts : List String) (name : String) : Bool :=
  parts.any fun part => Text.mentions name part

/-- The category of a name in lower case. SQLite keeps exact numbers as floats. -/
def ofLowered (dialect : Dialect) (name : String) : Category :=
  if hasPart ["decimal", "numeric", "money"] name then
    if dialect = .sqlite then .float else .decimal
  else if ["bool", "boolean", "bit"].contains name then .boolean
  else if hasPart ["int", "serial"] name then .integer
  else if hasPart ["float", "double"] name || name == "real" then .float
  else if ["json", "jsonb"].contains name then .json
  else if ["uuid", "uniqueidentifier"].contains name then .uuid
  else if hasPart ["blob", "binary"] name || name == "bytea" then .binary
  else if name == "date" then .date
  else if name == "time" then .time
  else if ["timestamp", "datetime", "datetime2", "smalldatetime"].contains name then .timestamp
  else if ["timestamptz", "datetimeoffset"].contains name then .timestampTz
  else if ["text", "varchar", "char", "bpchar", "name", "nvarchar", "nchar"].contains name then
    .text
  else .unknown

/-- The category of a type name, in any case. -/
def ofTypeName (dialect : Dialect) (typeName : String) : Category :=
  ofLowered dialect (Text.lowered typeName)

end Category

end SqlAccess
