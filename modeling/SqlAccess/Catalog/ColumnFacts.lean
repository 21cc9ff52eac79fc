import SqlAccess.Literal.Catalog
import SqlAccess.Literal.Format
import SqlAccess.Metadata
import SqlAccess.NativeType

/-!
# Facts about columns

What a catalog row says about a column, before types and defaults are put into the shape
that is the same for all dialects.
-/

namespace SqlAccess.Catalog

/-- A column as the catalog has it. -/
structure ColumnFacts where
  name : String
  catalogType : String
  maxLength : Option Int64
  precision : Option Int32
  scale : Option Int32
  default : Option String
  isPrimaryKey : Bool
  isNullable : Bool
deriving DecidableEq, Repr

/-- A cell as text, empty where there is none. -/
def textOf (row : Row) (column : String) : String := (Row.text? row column).getD ""

/-- A cell as an integer of 64 bits. -/
def int64Of? (row : Row) (column : String) : Option Int64 :=
  (Row.integer? row column).map Int64.ofInt

/-- An integer where 32 bits hold it. -/
def narrow? (i : Int) : Option Int32 :=
  if Decimal.fitsSigned 32 i then some (Int32.ofInt i) else none

/-- A cell as an integer of 32 bits. -/
def int32Of? (row : Row) (column : String) : Option Int32 :=
  (Row.integer? row column).bind narrow?

/-- The first two numbers in the parentheses of a declared type: from the first opening one to the
last closing one, or to the end where none is closed. -/
def declaredParameters (declared : List Char) : Option Int × Option Int :=
  match Text.cutAt '(' declared with
  | none => (none, none)
  | some (before, after) =>
    let inner? : Option (List Char) :=
      match Text.cutAtLast ')' after with
      | some (inner, _) => some inner
      | none => if before.contains ')' then none else some after
    match inner? with
    | none => (none, none)
    | some inner =>
      let numbers := (Text.splitOn ',' inner).map fun piece => Decimal.int64Value? (Text.trim piece)
      (numbers.head?.join, numbers[1]?.join)

/-- The facts of a SQLite catalog row. The declared type carries the parameters. -/
def sqliteFacts (row : Row) : ColumnFacts :=
  let declared := textOf row "type"
  let logical := Dialect.sqlite.logicalType declared
  let (first, second) := declaredParameters declared.toList
  { name := textOf row "name"
    catalogType := declared
    maxLength := if logical.isString then first.map Int64.ofInt else none
    precision := if logical = .decimal then first.bind narrow? else none
    scale := if logical = .decimal then second.bind narrow? else none
    default := Row.text? row "dflt_value"
    isPrimaryKey := 0 < (Row.integer? row "pk").getD 0
    isNullable := !Row.flag row "not_null" }

/-- The facts of a catalog row elsewhere. PostgreSQL names the type of arrays and of its users'
types in a column of its own. -/
def serverFacts (dialect : Dialect) (row : Row) : ColumnFacts :=
  let dataType := textOf row "data_type"
  let catalogType :=
    if dialect = .postgres && ["ARRAY", "USER-DEFINED"].contains dataType then
      (Row.text? row "udt_name").getD dataType
    else dataType
  { name := textOf row "column_name"
    catalogType := catalogType
    maxLength := int64Of? row "char_max_length"
    precision := int32Of? row "numeric_precision"
    scale := int32Of? row "numeric_scale"
    default := Row.text? row "column_default"
    isPrimaryKey := Row.flag row "is_primary_key"
    isNullable := Row.flag row "is_nullable" }

/-- The facts of a catalog row. -/
def columnFacts (dialect : Dialect) (row : Row) : ColumnFacts :=
  match dialect with
  | .sqlite => sqliteFacts row
  | .postgres | .sqlServer => serverFacts dialect row

namespace ColumnFacts

/-- The length that stands for no bound. -/
def unbounded : Int64 := -1

/-- A length of minus one is none. -/
def boundedLength (facts : ColumnFacts) : Option Int64 :=
  facts.maxLength.filter fun length => length != unbounded

/-- Character data of length minus one is text. -/
def logicalType (dialect : Dialect) (facts : ColumnFacts) : LogicalType :=
  let logical := dialect.logicalType facts.catalogType
  if facts.maxLength = some unbounded ∧ logical = .string then .text else logical

/-- The type in the dialect's own words; what has no logical counterpart keeps its name. -/
def nativeType (dialect : Dialect) (facts : ColumnFacts) : String :=
  let logical := facts.logicalType dialect
  if logical = .other then facts.catalogType
  else
    match dialect.nativeType logical ⟨facts.boundedLength, facts.precision, facts.scale⟩ with
    | .ok native => native
    | .error _ => facts.catalogType

/-- A default as a literal of the dialect. What is no literal, or none for the type, stays as the
catalog has it. -/
def defaultText (dialect : Dialect) (logical : LogicalType) (raw : String) : String :=
  if logical = .other then raw
  else
    match Literal.ofCatalog dialect raw with
    | none => raw
    | some value =>
      match Literal.format dialect logical (some value) with
      | .ok text => text
      | .error _ => raw

/-- The column in the shape that is the same for all dialects. -/
def describe (dialect : Dialect) (facts : ColumnFacts) : Column :=
  let logical := facts.logicalType dialect
  { name := facts.name
    logicalType := logical
    nativeType := facts.nativeType dialect
    maxLength := facts.boundedLength
    precision := facts.precision
    scale := facts.scale
    default := facts.default.map (defaultText dialect logical)
    isPrimaryKey := facts.isPrimaryKey
    isNullable := facts.isNullable }

end ColumnFacts

end SqlAccess.Catalog
