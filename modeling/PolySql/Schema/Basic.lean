import PolySql.DataType.Basic
import PolySql.Value

/-!
# Schemas

Columns, keys, tables and indexes as a schema statement describes them, and the statements.
-/

namespace PolySql

/-- What a column holds in a row that does not say. -/
inductive ColumnDefault where
  | value (value : Value)
  | raw (sql : String)
  deriving DecidableEq, Repr

/-- A column.  Only its name and its type have to be said. -/
structure Column where
  name : String
  type : DataType
  /-- Whether null is allowed, if that is said at all. -/
  nullable? : Option Bool := none
  default? : Option ColumnDefault := none
  autoIncrement : Bool := false
  primaryKey : Bool := false
  unique : Bool := false
  deriving DecidableEq, Repr

/-- What happens to a row when the row it refers to changes. -/
inductive ReferentialAction where
  | noAction
  | restrict
  | cascade
  | setNull
  | setDefault
  deriving DecidableEq, Repr

/-- A foreign key. -/
structure ForeignKey where
  name : String
  columns : List String
  table : String
  tableColumns : List String
  onDelete? : Option ReferentialAction := none
  onUpdate? : Option ReferentialAction := none
  deriving DecidableEq, Repr

/-- A table to be created. -/
structure Table where
  name : String
  ifNotExists : Bool
  columns : List Column
  /-- The columns of a key that is not that of a single column. -/
  primaryKey : List String := []
  foreignKeys : List ForeignKey := []
  deriving DecidableEq, Repr

/-- An index to be created. -/
structure Index where
  name : String
  table : String
  columns : List String
  unique : Bool := false
  deriving DecidableEq, Repr

/-- A change of the schema. -/
inductive SchemaChange where
  | createTable (table : Table)
  | renameTable (table newName : String)
  | dropTable (table : String) (ifExists : Bool)
  | addColumn (table : String) (column : Column)
  | renameColumn (table column newName : String)
  | changeColumn (table : String) (column : Column)
  | dropColumn (table column : String)
  | addForeignKey (table : String) (key : ForeignKey)
  | dropForeignKey (table name : String)
  | createIndex (index : Index)
  | dropIndex (table name : String)
  deriving DecidableEq, Repr

end PolySql
