import PolySql.DataType.Basic
import PolySql.Decimal.Unsigned
import PolySql.Dialect
import PolySql.Text.AsciiCase
import PolySql.Text.LowerCase
import PolySql.Text.Whitespace

/-!
# Reading column types

A column type is read from any of the names that databases report.  Letter case, the amount of white
space and the attributes of numbers (`isAttribute`) do not matter.  A type with parameters is read
first: decimals, then texts of a greatest length, then texts of a fixed length.  What is left is
looked up in a table, integers without the display width that may stand in parentheses.
-/

namespace PolySql.DataType

/-- The words that say nothing about the type. -/
def isAttribute (word : List Char) : Bool :=
  word = "unsigned".toList || word = "signed".toList || word = "zerofill".toList

/-- The words in lower case with one space between neighbours, attributes left out. -/
def normalForm (cs : List Char) : List Char :=
  [' '].intercalate
    ((Text.wordChars (Text.lowercaseChars cs)).filter fun word => !isAttribute word)

/-- What stands between the parentheses, if the characters are that and white space around it. -/
def inParens? (cs : List Char) : Option (List Char) :=
  match Text.trimChars cs with
  | '(' :: rest => if rest.getLast? = some ')' then some rest.dropLast else none
  | _ => none

/-- The parameters of a type with one of the given names. -/
def parameters? (names : List String) (cs : List Char) : Option (List Char) :=
  names.findSome? fun name => (name.toList.isPrefixOf? cs).bind inParens?

/-- A precision and a scale. -/
def decimalOf? (parameters : List Char) : Option DataType :=
  match (parameters.splitOn ',').map Text.trimChars with
  | [precision, scale] => do
    let precision ← Decimal.readUnsigned? 255 precision
    let scale ← Decimal.readUnsigned? 255 scale
    return decimal (UInt8.ofNat precision) (UInt8.ofNat scale)
  | _ => none

/-- A length; the greatest has a name. -/
def lengthOf? (parameters : List Char) : Option UInt16 :=
  let length := Text.trimChars parameters
  if length.map Char.toLower = "max".toList then some 65535
  else (Decimal.readUnsigned? 65535 length).map UInt16.ofNat

/-- The integer types that may have a display width. -/
def integerNames : List String :=
  ["tinyint", "smallint", "mediumint", "int", "integer", "bigint"]

/-- An integer type without what follows a parenthesis, and any other type as it is. -/
def withoutDisplayWidth (cs : List Char) : List Char :=
  let name := Text.trimChars (cs.takeWhile (· ≠ '('))
  if '(' ∈ cs ∧ String.ofList name ∈ integerNames then name else cs

/-- The types that are known by their names alone. -/
def simpleTypes : List (String × DataType) :=
  [("bool", bool), ("boolean", bool), ("bit", bool),
    ("tinyint", int8),
    ("smallint", int16), ("int16", int16), ("int2", int16),
    ("int", int32), ("integer", int32), ("int32", int32), ("int4", int32), ("mediumint", int32),
    ("bigint", int64), ("int64", int64), ("int8", int64),
    ("real", float32), ("float4", float32), ("float32", float32),
    ("double", float64), ("float8", float64), ("float64", float64),
    ("double precision", float64), ("float", float64),
    ("decimal", decimal 18 2), ("numeric", decimal 18 2), ("number", decimal 18 2),
    ("text", string), ("string", string), ("clob", string), ("ntext", string),
    ("tinytext", string), ("mediumtext", string), ("longtext", string),
    ("varchar", string), ("nvarchar", string),
    ("date", date),
    ("time", time),
    ("timestamp", timestamp), ("datetime", timestamp), ("datetime2", timestamp),
    ("timestamptz", timestampTz), ("timestamp with time zone", timestampTz),
    ("datetimeoffset", timestampTz),
    ("binary", binary), ("blob", binary), ("bytea", binary), ("varbinary", binary),
    ("image", binary), ("longblob", binary), ("mediumblob", binary),
    ("json", json), ("jsonb", json),
    ("uuid", uuid), ("guid", uuid), ("uniqueidentifier", uuid)]

def decimalNames : List String := ["decimal", "numeric"]

def varcharNames : List String := ["varchar", "character varying", "nvarchar"]

def charNames : List String := ["char", "character", "nchar"]

/-- The type of a normal form. -/
def ofNormalForm? (cs : List Char) : Option DataType :=
  match parameters? decimalNames cs with
  | some parameters => decimalOf? parameters
  | none =>
    match parameters? varcharNames cs with
    | some parameters => (lengthOf? parameters).map varchar
    | none =>
      match parameters? charNames cs with
      | some parameters => (lengthOf? parameters).map char
      | none => simpleTypes.lookup (String.ofList (withoutDisplayWidth cs))

/-- The type that a text names. -/
def ofText? (s : String) : Option DataType := ofNormalForm? (normalForm s.toList)

end PolySql.DataType

namespace PolySql

/-- The host type of a reported column type; a type that is not known is held as text.  MySQL
reports a truth value as an integer with a display width of one. -/
def Dialect.hostType (d : Dialect) (s : String) : HostType :=
  if d = mysql ∧ (Text.words (Text.lower s)).head? = some "tinyint(1)" then .bool
  else ((DataType.ofText? s).map DataType.hostType).getD .string

end PolySql
