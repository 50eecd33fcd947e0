/-!
# Column types

The types a column may have, whatever a dialect calls them, and the types in which a program holds
their values.
-/

namespace PolySql

/-- A column type. -/
inductive DataType where
  | bool
  | int8
  | int16
  | int32
  | int64
  | float32
  | float64
  /-- Decimal numbers of `precision` digits, `scale` of them after the point. -/
  | decimal (precision scale : UInt8)
  /-- Text of any length. -/
  | string
  /-- Text of a fixed length. -/
  | char (length : UInt16)
  /-- Text of a greatest length. -/
  | varchar (length : UInt16)
  | date
  | time
  | timestamp
  | timestampTz
  | binary
  | json
  | uuid
  deriving DecidableEq, Repr

/-- How a program holds the values of a column. -/
inductive HostType where
  | bool
  | int
  | float
  | string
  | binary
  | json
  deriving DecidableEq, Repr

def HostType.name : HostType → String
  | bool => "bool"
  | int => "int"
  | float => "float"
  | string => "string"
  | binary => "binary"
  | json => "json"

/-- The host type of a column type.  Decimals are held as text, so that no digit is lost. -/
def DataType.hostType : DataType → HostType
  | bool => .bool
  | int8 | int16 | int32 | int64 => .int
  | float32 | float64 => .float
  | binary => .binary
  | json => .json
  | decimal .. | string | char _ | varchar _ | date | time | timestamp | timestampTz | uuid =>
    .string

end PolySql
