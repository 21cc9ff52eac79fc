import SqlAccess.Json.Decode
import SqlAccess.Metadata

/-!
# Serialized metadata

Every descriptor is written as an object with its fields in a fixed order; a field without a
value is left out. Of the definition of a table three states are told apart: not asked is
left out, asked and missing is null, asked and there is text.
-/

namespace SqlAccess

/-- A field that is left out when it has no value. -/
def Json.fieldIfAny (name : String) (value : Option Json) : Fields :=
  match value with
  | some value => [(name, value)]
  | none => []

open Json (fieldIfAny)

/-- A table, its schema in front. -/
def TableRef.toJson (table : TableRef) : Json :=
  .object (fieldIfAny "schema" (table.schema.map .string) ++ [("name", .string table.name)])

/-- The table of a serialized form. -/
def TableRef.ofJson? (value : Json) : Option TableRef := do
  let record ← value.record? 2
  let schema ← record.optional 0 "schema" Json.text?
  let name ← record.required 1 "name" Json.text?
  return ⟨schema, name⟩

/-- The logical type of a serialized name. -/
def LogicalType.ofJson? (value : Json) : Option LogicalType :=
  value.tag?.bind LogicalType.ofName?

/-- The dialect of a serialized name. -/
def Dialect.ofJson? (value : Json) : Option Dialect := value.tag?.bind Dialect.ofTag?

namespace Column

/-- A column. -/
def toJson (column : Column) : Json :=
  .object ([("name", .string column.name), ("logical_type", .string column.logicalType.name),
      ("native_type", .string column.nativeType)] ++
    fieldIfAny "char_max_length" (column.maxLength.map fun n => .int n.toInt) ++
    fieldIfAny "numeric_precision" (column.precision.map fun n => .int n.toInt) ++
    fieldIfAny "numeric_scale" (column.scale.map fun n => .int n.toInt) ++
    fieldIfAny "default_value" (column.default.map .string) ++
    [("is_primary_key", .bool column.isPrimaryKey), ("is_nullable", .bool column.isNullable)])

/-- The column of a serialized form. -/
def ofJson? (value : Json) : Option Column := do
  let record ← value.record? 9
  let name ← record.required 0 "name" Json.text?
  let logicalType ← record.required 1 "logical_type" LogicalType.ofJson?
  let nativeType ← record.required 2 "native_type" Json.text?
  let maxLength ← record.optional 3 "char_max_length" Json.int64?
  let precision ← record.optional 4 "numeric_precision" Json.int32?
  let scale ← record.optional 5 "numeric_scale" Json.int32?
  let default ← record.optional 6 "default_value" Json.text?
  let isPrimaryKey ← record.required 7 "is_primary_key" Json.bool?
  let isNullable ← record.required 8 "is_nullable" Json.bool?
  return ⟨name, logicalType, nativeType, maxLength, precision, scale, default, isPrimaryKey,
    isNullable⟩

end Column

namespace ForeignKey

/-- A reference. -/
def toJson (key : ForeignKey) : Json :=
  .object [("id", .int key.id.toInt), ("constraint_name", .string key.constraintName),
    ("from_column", .string key.fromColumn), ("to_table", .string key.toTable),
    ("to_column", .string key.toColumn)]

/-- The reference of a serialized form. -/
def ofJson? (value : Json) : Option ForeignKey := do
  let record ← value.record? 5
  let id ← record.required 0 "id" Json.int64?
  let constraintName ← record.required 1 "constraint_name" Json.text?
  let fromColumn ← record.required 2 "from_column" Json.text?
  let toTable ← record.required 3 "to_table" Json.text?
  let toColumn ← record.required 4 "to_column" Json.text?
  return ⟨id, constraintName, fromColumn, toTable, toColumn⟩

end ForeignKey

namespace Trigger

/-- A trigger. -/
def toJson (trigger : Trigger) : Json :=
  .object ([("name", .string trigger.name)] ++
    fieldIfAny "schema" (trigger.schema.map .string) ++
    fieldIfAny "catalog" (trigger.catalog.map .string) ++
    [("sql_definition", .string trigger.definition)] ++
    fieldIfAny "date_created"
      (trigger.created.map fun instant => .string (String.ofList instant.text)))

/-- The instant of a text in the relaxed format. -/
def instant? (value : Json) : Option Calendar.Instant :=
  value.text?.bind fun s => Calendar.Read.relaxedInstant? s.toList

/-- The trigger of a serialized form. -/
def ofJson? (value : Json) : Option Trigger := do
  let record ← value.record? 5
  let name ← record.required 0 "name" Json.text?
  let schema ← record.optional 1 "schema" Json.text?
  let catalog ← record.optional 2 "catalog" Json.text?
  let definition ← record.required 3 "sql_definition" Json.text?
  let created ← record.optional 4 "date_created" instant?
  return ⟨name, schema, catalog, definition, created⟩

end Trigger

namespace TableMetadata

/-- A list of serialized values. -/
def listJson {α : Type} (toJson : α → Json) (items : List α) : Json :=
  .array (items.map toJson)

/-- The metadata of a table. -/
def toJson (table : TableMetadata) : Json :=
  .object ([("table_name", .string table.tableName)] ++
    fieldIfAny "data" (table.data.map (listJson Json.object)) ++
    fieldIfAny "columns" (table.columns.map (listJson Column.toJson)) ++
    fieldIfAny "foreign_keys" (table.foreignKeys.map (listJson ForeignKey.toJson)) ++
    fieldIfAny "triggers" (table.triggers.map (listJson Trigger.toJson)) ++
    fieldIfAny "sql_definition"
      (table.definition.map fun definition => Json.ofOption (definition.map .string)))

/-- The metadata of a serialized form. -/
def ofJson? (value : Json) : Option TableMetadata := do
  let record ← value.record? 6
  let tableName ← record.required 0 "table_name" Json.text?
  let data ← record.optional 1 "data" (Json.list? Json.fields?)
  let columns ← record.optional 2 "columns" (Json.list? Column.ofJson?)
  let foreignKeys ← record.optional 3 "foreign_keys" (Json.list? ForeignKey.ofJson?)
  let triggers ← record.optional 4 "triggers" (Json.list? Trigger.ofJson?)
  let definition ← record.defaulted 5 "sql_definition" none fun written =>
    (Json.nullable Json.text? written).map some
  return ⟨tableName, data, columns, foreignKeys, triggers, definition⟩

end TableMetadata

namespace MetadataMap

/-- The tables in the order of their names. -/
def toJson (map : MetadataMap) : Json :=
  .object (map.entries.map fun entry => (entry.1, entry.2.toJson))

/-- The map of a serialized form. -/
def ofJson? (value : Json) : Option MetadataMap := do
  let fields ← value.fields?
  let pairs ← fields.mapM fun field =>
    (TableMetadata.ofJson? field.2).map fun table => (field.1, table)
  return ofPairs pairs

end MetadataMap

end SqlAccess
