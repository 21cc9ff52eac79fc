import SqlAccess.Dialect

/-!
# Catalog queries

The statements that ask each engine about its tables. All of them name their columns alike.
A table is given as a parameter, except in the list of all tables: by its name in SQLite, and
by its name and its schema elsewhere.
-/

namespace SqlAccess.Catalog

/-- The user tables, ordered by schema and name. -/
def tablesQuery : Dialect → String
  | .sqlite =>
    "SELECT name FROM sqlite_master WHERE type = 'table' AND name NOT LIKE 'sqlite_%' " ++
      "ORDER BY name"
  | .postgres =>
    "SELECT table_schema::text AS table_schema, table_name::text AS table_name " ++
      "FROM information_schema.tables WHERE table_type = 'BASE TABLE' " ++
      "AND table_schema NOT IN ('pg_catalog', 'information_schema') " ++
      "ORDER BY table_schema, table_name"
  | .sqlServer =>
    "SELECT TABLE_SCHEMA AS table_schema, TABLE_NAME AS table_name " ++
      "FROM INFORMATION_SCHEMA.TABLES WHERE TABLE_TYPE = 'BASE TABLE' " ++
      "ORDER BY TABLE_SCHEMA, TABLE_NAME"

/-- The columns of a table in their order. -/
def columnsQuery : Dialect → String
  | .sqlite =>
    "SELECT name, type, \"notnull\" AS not_null, dflt_value, pk " ++
      "FROM pragma_table_info(?1) ORDER BY cid"
  | .postgres =>
    "SELECT c.column_name::text AS column_name, c.data_type::text AS data_type, " ++
      "c.udt_name::text AS udt_name, c.character_maximum_length::bigint AS char_max_length, " ++
      "c.numeric_precision::int AS numeric_precision, c.numeric_scale::int AS numeric_scale, " ++
      "c.column_default::text AS column_default, c.is_nullable::text AS is_nullable, " ++
      "CASE WHEN pk.column_name IS NOT NULL THEN true ELSE false END AS is_primary_key " ++
      "FROM information_schema.columns c LEFT JOIN ( SELECT kcu.column_name " ++
      "FROM information_schema.table_constraints tc " ++
      "JOIN information_schema.key_column_usage kcu " ++
      "ON tc.constraint_name = kcu.constraint_name AND tc.table_schema = kcu.table_schema " ++
      "WHERE tc.table_name = $1 AND tc.table_schema = $2 " ++
      "AND tc.constraint_type = 'PRIMARY KEY' ) pk ON c.column_name = pk.column_name " ++
      "WHERE c.table_name = $1 AND c.table_schema = $2 ORDER BY c.ordinal_position"
  | .sqlServer =>
    "SELECT c.COLUMN_NAME AS column_name, c.DATA_TYPE AS data_type, " ++
      "CAST(c.CHARACTER_MAXIMUM_LENGTH AS bigint) AS char_max_length, " ++
      "CAST(c.NUMERIC_PRECISION AS int) AS numeric_precision, " ++
      "CAST(c.NUMERIC_SCALE AS int) AS numeric_scale, c.COLUMN_DEFAULT AS column_default, " ++
      "c.IS_NULLABLE AS is_nullable, " ++
      "CASE WHEN pk.COLUMN_NAME IS NULL THEN 0 ELSE 1 END AS is_primary_key " ++
      "FROM INFORMATION_SCHEMA.COLUMNS c LEFT JOIN ( SELECT kcu.COLUMN_NAME " ++
      "FROM INFORMATION_SCHEMA.TABLE_CONSTRAINTS tc " ++
      "JOIN INFORMATION_SCHEMA.KEY_COLUMN_USAGE kcu " ++
      "ON tc.CONSTRAINT_NAME = kcu.CONSTRAINT_NAME AND tc.TABLE_SCHEMA = kcu.TABLE_SCHEMA " ++
      "WHERE tc.CONSTRAINT_TYPE = 'PRIMARY KEY' AND tc.TABLE_NAME = @P1 " ++
      "AND tc.TABLE_SCHEMA = @P2 ) pk ON pk.COLUMN_NAME = c.COLUMN_NAME " ++
      "WHERE c.TABLE_NAME = @P1 AND c.TABLE_SCHEMA = @P2 ORDER BY c.ORDINAL_POSITION"

/-- The references of a table to others, a row for each pair of columns. -/
def foreignKeysQuery : Dialect → String
  | .sqlite =>
    "SELECT id, seq, \"table\" AS to_table, \"from\" AS from_column, \"to\" AS to_column " ++
      "FROM pragma_foreign_key_list(?1) ORDER BY id, seq"
  | .postgres =>
    "SELECT con.oid::bigint AS id, con.conname::text AS constraint_name, " ++
      "src.attname::text AS from_column, ref.relname::text AS to_table, " ++
      "dst.attname::text AS to_column FROM pg_constraint con " ++
      "JOIN pg_class rel ON rel.oid = con.conrelid " ++
      "JOIN pg_namespace nsp ON nsp.oid = rel.relnamespace " ++
      "JOIN pg_class ref ON ref.oid = con.confrelid " ++
      "CROSS JOIN LATERAL unnest(con.conkey, con.confkey) AS k(src_attnum, dst_attnum) " ++
      "JOIN pg_attribute src ON src.attrelid = con.conrelid AND src.attnum = k.src_attnum " ++
      "JOIN pg_attribute dst ON dst.attrelid = con.confrelid AND dst.attnum = k.dst_attnum " ++
      "WHERE con.contype = 'f' AND rel.relname = $1 AND nsp.nspname = $2 " ++
      "ORDER BY con.conname, src.attnum"
  | .sqlServer =>
    "SELECT CAST(fk.object_id AS bigint) AS id, fk.name AS constraint_name, " ++
      "pc.name AS from_column, rt.name AS to_table, rc.name AS to_column " ++
      "FROM sys.foreign_keys fk " ++
      "JOIN sys.foreign_key_columns fkc ON fkc.constraint_object_id = fk.object_id " ++
      "JOIN sys.tables pt ON pt.object_id = fk.parent_object_id " ++
      "JOIN sys.columns pc " ++
      "ON pc.object_id = fkc.parent_object_id AND pc.column_id = fkc.parent_column_id " ++
      "JOIN sys.tables rt ON rt.object_id = fkc.referenced_object_id " ++
      "JOIN sys.columns rc " ++
      "ON rc.object_id = fkc.referenced_object_id AND rc.column_id = fkc.referenced_column_id " ++
      "WHERE pt.name = @P1 AND SCHEMA_NAME(pt.schema_id) = @P2 " ++
      "ORDER BY fk.name, fkc.constraint_column_id"

/-- The columns of the primary key of a SQLite table, in the order of the key. -/
def primaryKeyQuery : String :=
  "SELECT name FROM pragma_table_info(?1) WHERE pk > 0 ORDER BY pk"

/-- The triggers of a table. -/
def triggersQuery : Dialect → String
  | .sqlite =>
    "SELECT name, sql FROM sqlite_master WHERE type = 'trigger' AND tbl_name = ?1 ORDER BY name"
  | .postgres =>
    "SELECT t.tgname::text AS name, nsp.nspname::text AS schema_name, " ++
      "current_database()::text AS catalog_name, " ++
      "pg_get_triggerdef(t.oid)::text AS sql_definition FROM pg_trigger t " ++
      "JOIN pg_class rel ON rel.oid = t.tgrelid " ++
      "JOIN pg_namespace nsp ON nsp.oid = rel.relnamespace " ++
      "WHERE NOT t.tgisinternal AND rel.relname = $1 AND nsp.nspname = $2 ORDER BY t.tgname"
  | .sqlServer =>
    "SELECT tr.name AS name, SCHEMA_NAME(t.schema_id) AS schema_name, " ++
      "DB_NAME() AS catalog_name, OBJECT_DEFINITION(tr.object_id) AS sql_definition, " ++
      "tr.create_date AS date_created FROM sys.triggers tr " ++
      "JOIN sys.tables t ON t.object_id = tr.parent_id " ++
      "WHERE t.name = @P1 AND SCHEMA_NAME(t.schema_id) = @P2 ORDER BY tr.name"

/-- The statement that created a SQLite table. -/
def definitionQuery : String :=
  "SELECT sql FROM sqlite_master WHERE type = 'table' AND name = ?1"

end SqlAccess.Catalog
