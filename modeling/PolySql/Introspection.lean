import PolySql.Literal

/-!
# Introspection

The queries that ask a database for its tables and for the columns, foreign keys and indexes of one
table.  SQLite answers through pragmas, MySQL partly through `SHOW`; the others have catalogues.
-/

namespace PolySql.Dialect

/-- A pragma about a table.  What stands before the last dot of the table's name is its schema, and
goes before the pragma. -/
def pragma (d : Dialect) (name table : String) : String :=
  match ((table.toList.splitOn '.').map String.ofList).reverse with
  | last :: qualifier :: qualifiers =>
    let schema := ".".intercalate (qualifier :: qualifiers).reverse
    s!"PRAGMA {d.quoteIdentifier schema}.{name}({d.quoteIdentifier last})"
  | _ => s!"PRAGMA {name}({d.quoteIdentifier table})"

/-- The query for the names of the tables. -/
def listTables : Dialect → String
  | ansi =>
    "SELECT table_name AS name FROM information_schema.tables " ++
    "WHERE table_schema = CURRENT_SCHEMA() AND table_type = 'BASE TABLE' " ++
    "ORDER BY table_name"
  | mysql =>
    "SELECT table_name AS name FROM information_schema.tables " ++
    "WHERE table_schema = DATABASE() AND table_type = 'BASE TABLE' " ++
    "ORDER BY table_name"
  | postgres =>
    "SELECT tablename AS name FROM pg_catalog.pg_tables " ++
    "WHERE schemaname = current_schema() ORDER BY tablename"
  | sqlite =>
    "SELECT name FROM sqlite_master " ++
    "WHERE type = 'table' AND name NOT LIKE 'sqlite\\_%' ESCAPE '\\' ORDER BY name"
  | tsql =>
    "SELECT TABLE_NAME AS name FROM INFORMATION_SCHEMA.TABLES " ++
    "WHERE TABLE_TYPE = 'BASE TABLE' AND TABLE_SCHEMA = SCHEMA_NAME() " ++
    "ORDER BY TABLE_NAME"

/-- The query for the columns of a table. -/
def listColumns (d : Dialect) (table : String) : String :=
  match d with
  | mysql => "SHOW FULL COLUMNS FROM " ++ d.quoteName table
  | sqlite => d.pragma "table_info" table
  | tsql =>
    "SELECT COLUMN_NAME AS name, DATA_TYPE AS type, IS_NULLABLE AS nullable, " ++
    "COLUMN_DEFAULT AS default_value FROM INFORMATION_SCHEMA.COLUMNS " ++
    "WHERE TABLE_SCHEMA = SCHEMA_NAME() AND TABLE_NAME = " ++ d.literal table ++
    " ORDER BY ORDINAL_POSITION"
  | ansi | postgres =>
    "SELECT column_name AS name, data_type AS type, is_nullable AS nullable, " ++
    "column_default AS default_value FROM information_schema.columns " ++
    "WHERE table_schema = CURRENT_SCHEMA() AND table_name = " ++ d.literal table ++
    " ORDER BY ordinal_position"

/-- The query for the foreign keys of a table. -/
def listForeignKeys (d : Dialect) (table : String) : String :=
  match d with
  | mysql =>
    "SELECT constraint_name AS name, column_name, " ++
    "referenced_table_name AS references_table, " ++
    "referenced_column_name AS references_column " ++
    "FROM information_schema.key_column_usage " ++
    "WHERE table_schema = DATABASE() AND table_name = " ++ d.literal table ++
    " AND referenced_table_name IS NOT NULL"
  | sqlite => d.pragma "foreign_key_list" table
  | tsql =>
    "SELECT fk.name AS name, pc.name AS column_name, " ++
    "rt.name AS references_table, rc.name AS references_column " ++
    "FROM sys.foreign_keys fk " ++
    "JOIN sys.foreign_key_columns fkc ON fkc.constraint_object_id = fk.object_id " ++
    "JOIN sys.columns pc ON pc.object_id = fkc.parent_object_id " ++
    "AND pc.column_id = fkc.parent_column_id " ++
    "JOIN sys.tables rt ON rt.object_id = fkc.referenced_object_id " ++
    "JOIN sys.columns rc ON rc.object_id = fkc.referenced_object_id " ++
    "AND rc.column_id = fkc.referenced_column_id " ++
    "WHERE fk.parent_object_id = OBJECT_ID(" ++ d.literal table ++ ")"
  | ansi | postgres =>
    "SELECT tc.constraint_name AS name, kcu.column_name AS column_name, " ++
    "ccu.table_name AS references_table, ccu.column_name AS references_column " ++
    "FROM information_schema.table_constraints tc " ++
    "JOIN information_schema.key_column_usage kcu " ++
    "ON tc.constraint_name = kcu.constraint_name AND tc.table_schema = kcu.table_schema " ++
    "JOIN information_schema.constraint_column_usage ccu " ++
    "ON ccu.constraint_name = tc.constraint_name AND ccu.table_schema = tc.table_schema " ++
    "WHERE tc.constraint_type = 'FOREIGN KEY' AND tc.table_name = " ++ d.literal table

/-- The query for the indexes of a table.  The standard knows no indexes, so that of `ansi` only
names the table. -/
def listIndexes (d : Dialect) (table : String) : String :=
  match d with
  | ansi => "INDEXES OF " ++ d.literal table
  | mysql => "SHOW INDEX FROM " ++ d.quoteName table
  | sqlite => d.pragma "index_list" table
  | tsql =>
    "SELECT i.name AS name, i.is_unique AS is_unique, i.is_primary_key AS is_primary " ++
    "FROM sys.indexes i WHERE i.object_id = OBJECT_ID(" ++ d.literal table ++
    ") AND i.name IS NOT NULL"
  | postgres =>
    "SELECT indexname AS name, indexdef AS definition FROM pg_catalog.pg_indexes " ++
    "WHERE schemaname = current_schema() AND tablename = " ++ d.literal table ++
    " ORDER BY indexname"

end PolySql.Dialect
