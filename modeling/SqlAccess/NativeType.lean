import SqlAccess.Error
import SqlAccess.Text.Blank
import SqlAccess.Text.Lowercase
import SqlAccess.Text.Pieces

/-!
# Native column types

For every dialect, how a logical type is declared, and which logical type a catalog
name stands for. Names are compared in lower case and without their parameters; a
name that is not listed stands for `other`.
-/

namespace SqlAccess

/-- How a native type takes its parameters. -/
inductive Rendering where
  /-- A fixed name. -/
  | plain (name : String)
  /-- The name with a positive length, else the form without a bound. -/
  | sized (name unbounded : String)
  /-- The name, with a positive precision, and with a positive scale beside it. -/
  | precise (name : String)
deriving DecidableEq, Repr

/-- The length, precision and scale of a column, as far as they are known. -/
structure TypeParameters where
  length : Option Int64
  precision : Option Int32
  scale : Option Int32
deriving DecidableEq, Repr, Inhabited

namespace Rendering

/-- A parameter that is there and above zero. -/
def positive? (parameter : Option Int) : Option Int := parameter.filter fun n => 0 < n

/-- A declaration with its parameters. Parameters that are not positive count as absent. -/
def declare (rendering : Rendering) (parameters : TypeParameters) : String :=
  match rendering with
  | .plain name => name
  | .sized name unbounded =>
    match positive? (parameters.length.map Int64.toInt) with
    | some n => name ++ "(" ++ Decimal.intText n ++ ")"
    | none => unbounded
  | .precise name =>
    match positive? (parameters.precision.map Int32.toInt) with
    | none => name
    | some p =>
      match positive? (parameters.scale.map Int32.toInt) with
      | some s => name ++ "(" ++ Decimal.intText p ++ ", " ++ Decimal.intText s ++ ")"
      | none => name ++ "(" ++ Decimal.intText p ++ ")"

end Rendering

/-- How SQLite declares a logical type. -/
def sqliteRendering : LogicalType → Option Rendering
  | .tinyInt => some (.plain "tinyint")
  | .smallInt => some (.plain "smallint")
  | .int => some (.plain "integer")
  | .bigInt => some (.plain "bigint")
  | .string => some (.sized "varchar" "text")
  | .text => some (.plain "text")
  | .binary => some (.plain "blob")
  | .float | .double => some (.plain "double precision")
  | .decimal => some (.precise "numeric")
  | .boolean => some (.plain "boolean")
  | .date => some (.plain "date")
  | .time => some (.plain "time")
  | .dateTime | .dateTime2 | .dateTimeOffset => some (.plain "datetime")
  | .guid | .xml | .other => none

/-- How PostgreSQL declares a logical type. -/
def postgresRendering : LogicalType → Option Rendering
  | .tinyInt | .smallInt => some (.plain "smallint")
  | .int => some (.plain "integer")
  | .bigInt => some (.plain "bigint")
  | .string => some (.sized "varchar" "text")
  | .text => some (.plain "text")
  | .binary => some (.plain "bytea")
  | .float | .double => some (.plain "double precision")
  | .decimal => some (.precise "numeric")
  | .boolean => some (.plain "boolean")
  | .date => some (.plain "date")
  | .time => some (.plain "time")
  | .dateTime | .dateTime2 => some (.plain "timestamp")
  | .dateTimeOffset => some (.plain "timestamp with time zone")
  | .guid => some (.plain "uuid")
  | .xml => some (.plain "xml")
  | .other => none

/-- How SQL Server declares a logical type. -/
def sqlServerRendering : LogicalType → Option Rendering
  | .tinyInt => some (.plain "tinyint")
  | .smallInt => some (.plain "smallint")
  | .int => some (.plain "int")
  | .bigInt => some (.plain "bigint")
  | .string => some (.sized "nvarchar" "nvarchar(max)")
  | .text => some (.plain "nvarchar(max)")
  | .binary => some (.sized "varbinary" "varbinary(max)")
  | .float | .double => some (.plain "double precision")
  | .decimal => some (.precise "decimal")
  | .boolean => some (.plain "bit")
  | .date => some (.plain "date")
  | .time => some (.plain "time")
  | .dateTime => some (.plain "datetime")
  | .dateTime2 => some (.plain "datetime2")
  | .dateTimeOffset => some (.plain "datetimeoffset")
  | .guid => some (.plain "uniqueidentifier")
  | .xml => some (.plain "xml")
  | .other => none

/-- The names of catalog types in SQLite. -/
def sqliteTypeNames : List (String × LogicalType) :=
  [("tinyint", .tinyInt), ("smallint", .smallInt), ("int", .int), ("integer", .int),
   ("mediumint", .int), ("bigint", .bigInt), ("varchar", .string), ("nvarchar", .string),
   ("char", .string), ("nchar", .string), ("character", .string), ("varying character", .string),
   ("text", .text), ("clob", .text), ("blob", .binary), ("real", .float), ("float", .float),
   ("double", .double), ("double precision", .double), ("numeric", .decimal),
   ("decimal", .decimal), ("boolean", .boolean), ("bool", .boolean), ("bit", .boolean),
   ("date", .date), ("time", .time), ("datetime", .dateTime), ("timestamp", .dateTime)]

/-- The names of catalog types in PostgreSQL. -/
def postgresTypeNames : List (String × LogicalType) :=
  [("smallint", .smallInt), ("int2", .smallInt), ("smallserial", .smallInt), ("integer", .int),
   ("int", .int), ("int4", .int), ("serial", .int), ("bigint", .bigInt), ("int8", .bigInt),
   ("bigserial", .bigInt), ("character varying", .string), ("varchar", .string),
   ("character", .string), ("char", .string), ("bpchar", .string), ("text", .text),
   ("citext", .text), ("name", .text), ("bytea", .binary), ("real", .float), ("float4", .float),
   ("double precision", .double), ("float8", .double), ("numeric", .decimal),
   ("decimal", .decimal), ("boolean", .boolean), ("bool", .boolean), ("date", .date),
   ("time", .time), ("time without time zone", .time), ("timestamp", .dateTime),
   ("timestamp without time zone", .dateTime), ("timestamp with time zone", .dateTimeOffset),
   ("timestamptz", .dateTimeOffset), ("uuid", .guid), ("xml", .xml)]

/-- The names of catalog types in SQL Server. -/
def sqlServerTypeNames : List (String × LogicalType) :=
  [("tinyint", .tinyInt), ("smallint", .smallInt), ("int", .int), ("bigint", .bigInt),
   ("varchar", .string), ("nvarchar", .string), ("char", .string), ("nchar", .string),
   ("text", .text), ("ntext", .text), ("binary", .binary), ("varbinary", .binary),
   ("image", .binary), ("real", .float), ("float", .double), ("decimal", .decimal),
   ("numeric", .decimal), ("money", .decimal), ("smallmoney", .decimal), ("bit", .boolean),
   ("date", .date), ("time", .time), ("datetime", .dateTime), ("smalldatetime", .dateTime),
   ("datetime2", .dateTime2), ("datetimeoffset", .dateTimeOffset), ("uniqueidentifier", .guid),
   ("xml", .xml)]

/-- A type name in lower case without its parameters: what stands before the first opening
parenthesis, and behind the last closing one if anything stands there. -/
def baseTypeName (catalogType : String) : String :=
  let name := Text.lower (Text.trim catalogType.toList)
  match Text.cutAt '(' name with
  | none => String.ofList name
  | some (front, _) =>
    let back := match Text.cutAtLast ')' name with
      | some (_, back) => Text.trim back
      | none => []
    let base := Text.trimEnd front
    String.ofList (if back.isEmpty then base else base ++ ' ' :: back)

namespace Dialect

/-- How a dialect declares a logical type; none where it cannot. -/
def rendering : Dialect → LogicalType → Option Rendering
  | .sqlite => sqliteRendering
  | .postgres => postgresRendering
  | .sqlServer => sqlServerRendering

/-- The names of catalog types in a dialect. -/
def typeNames : Dialect → List (String × LogicalType)
  | .sqlite => sqliteTypeNames
  | .postgres => postgresTypeNames
  | .sqlServer => sqlServerTypeNames

/-- The logical type that a catalog name stands for. -/
def logicalType (dialect : Dialect) (catalogType : String) : LogicalType :=
  (dialect.typeNames.lookup (baseTypeName catalogType)).getD .other

/-- The declaration of a logical type with its parameters. -/
def nativeType (dialect : Dialect) (logical : LogicalType) (parameters : TypeParameters) :
    Except Error String :=
  match dialect.rendering logical with
  | some rendering => .ok (rendering.declare parameters)
  | none => .error (.unsupportedType logical dialect)

end Dialect

end SqlAccess
