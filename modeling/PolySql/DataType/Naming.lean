import PolySql.DataType.Basic
import PolySql.Dialect

/-!
# Names of column types

What each dialect calls a column type.
-/

namespace PolySql

/-- A type name with a length. -/
def sizedName (name : String) (length : UInt16) : String := s!"{name}({length.toNat})"

def decimalName (precision scale : UInt8) : String :=
  s!"DECIMAL({precision.toNat}, {scale.toNat})"

/-- The standard's names, for `ansi` and PostgreSQL.  There is no one-byte integer. -/
def ansiTypeName : DataType → String
  | .bool => "BOOLEAN"
  | .int8 | .int16 => "SMALLINT"
  | .int32 => "INTEGER"
  | .int64 => "BIGINT"
  | .float32 => "REAL"
  | .float64 => "DOUBLE PRECISION"
  | .decimal precision scale => decimalName precision scale
  | .string => "TEXT"
  | .char length => sizedName "CHAR" length
  | .varchar length => sizedName "VARCHAR" length
  | .date => "DATE"
  | .time => "TIME"
  | .timestamp => "TIMESTAMP"
  | .timestampTz => "TIMESTAMP WITH TIME ZONE"
  | .binary => "BYTEA"
  | .json => "JSONB"
  | .uuid => "UUID"

/-- A truth value is a number of one digit, and no timestamp has a time zone. -/
def mysqlTypeName : DataType → String
  | .bool => "TINYINT(1)"
  | .int8 => "TINYINT"
  | .int16 => "SMALLINT"
  | .int32 => "INT"
  | .int64 => "BIGINT"
  | .float32 => "FLOAT"
  | .float64 => "DOUBLE"
  | .decimal precision scale => decimalName precision scale
  | .string => "TEXT"
  | .char length => sizedName "CHAR" length
  | .varchar length => sizedName "VARCHAR" length
  | .date => "DATE"
  | .time => "TIME"
  | .timestamp | .timestampTz => "DATETIME"
  | .binary => "BLOB"
  | .json => "JSON"
  | .uuid => "CHAR(36)"

/-- SQLite has storage classes only; `INTEGER` makes a primary key the number of the row. -/
def sqliteTypeName : DataType → String
  | .bool | .int8 | .int16 | .int32 | .int64 => "INTEGER"
  | .float32 | .float64 => "REAL"
  | .decimal .. => "NUMERIC"
  | .binary => "BLOB"
  | .string | .char _ | .varchar _ | .date | .time | .timestamp | .timestampTz | .json | .uuid =>
    "TEXT"

/-- A type name with a length, the greatest of which has a name. -/
def tsqlSizedName (name : String) (length : UInt16) : String :=
  if length.toNat = 65535 then s!"{name}(MAX)" else sizedName name length

def tsqlTypeName : DataType → String
  | .bool => "BIT"
  | .int8 => "TINYINT"
  | .int16 => "SMALLINT"
  | .int32 => "INT"
  | .int64 => "BIGINT"
  | .float32 => "REAL"
  | .float64 => "FLOAT"
  | .decimal precision scale => decimalName precision scale
  | .string | .json => "NVARCHAR(MAX)"
  | .char length => tsqlSizedName "NCHAR" length
  | .varchar length => tsqlSizedName "NVARCHAR" length
  | .date => "DATE"
  | .time => "TIME"
  | .timestamp => "DATETIME2"
  | .timestampTz => "DATETIMEOFFSET"
  | .binary => "VARBINARY(MAX)"
  | .uuid => "UNIQUEIDENTIFIER"

/-- The dialect's name of a column type. -/
def Dialect.typeName : Dialect → DataType → String
  | ansi | postgres => ansiTypeName
  | mysql => mysqlTypeName
  | sqlite => sqliteTypeName
  | tsql => tsqlTypeName

end PolySql
