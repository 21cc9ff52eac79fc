import SqlAccess.Metadata

/-!
# Rebuilt definitions

PostgreSQL and SQL Server keep no statement that created a table, so one is put together from
the columns: a line for each column, and one for the primary key if there is one.
-/

namespace SqlAccess.Catalog

/-- The line of a column. -/
def columnLine (dialect : Dialect) (column : Column) : String :=
  let default := match column.default with
    | some text => " DEFAULT " ++ text
    | none => ""
  let notNull := if column.isNullable then "" else " NOT NULL"
  "    " ++ dialect.quoteIdentifier column.name ++ " " ++ column.nativeType ++ default ++ notNull

/-- The line of the primary key, if some column belongs to it. -/
def primaryKeyLine? (dialect : Dialect) (columns : List Column) : Option String :=
  match columns.filter fun column => column.isPrimaryKey with
  | [] => none
  | keys =>
    some ("    PRIMARY KEY (" ++
      String.intercalate ", " (keys.map fun column => dialect.quoteIdentifier column.name) ++ ")")

/-- The statement that creates a table with these columns; none where there are no columns. -/
def definition? (dialect : Dialect) (table : TableRef) (columns : List Column) : Option String :=
  if columns.isEmpty then none
  else
    let lines := columns.map (columnLine dialect) ++ (primaryKeyLine? dialect columns).toList
    some ("CREATE TABLE " ++ dialect.quoteTable table ++ " (\n" ++
      String.intercalate ",\n" lines ++ "\n)")

end SqlAccess.Catalog
