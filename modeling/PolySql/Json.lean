import PolySql.OrderedMap
import PolySql.Value

/-!
# JSON texts

Values as compact JSON.  A string escapes the quote, the backslash and the control characters and
nothing else; a float that is not finite is null.
-/

namespace PolySql.Json

/-- A lower-case hexadecimal number of at least four digits. -/
def fourHexDigits (n : Nat) : List Char :=
  let digits := Nat.toDigits 16 n
  List.replicate (4 - digits.length) '0' ++ digits

/-- One character of a string. -/
def escapeChar (c : Char) : List Char :=
  if c = '\x22' then ['\\', '\x22']
  else if c = '\\' then ['\\', '\\']
  else if c = '\x08' then ['\\', 'b']
  else if c = '\x0c' then ['\\', 'f']
  else if c = '\n' then ['\\', 'n']
  else if c = '\r' then ['\\', 'r']
  else if c = '\t' then ['\\', 't']
  else if c.toNat < 0x20 then ['\\', 'u'] ++ fourHexDigits c.toNat
  else [c]

/-- A string with its quotes. -/
def string (s : String) : String := "\"" ++ String.ofList (s.toList.flatMap escapeChar) ++ "\""

/-- Floats in JSON: as in statements, but an exponent that is not negative has a plus sign. -/
def floatLayout : Decimal.Layout := { Value.floatLayout with plus := "+" }

def value : Value → String
  | .null => "null"
  | .bool true => "true"
  | .bool false => "false"
  | .int n => toString n.toInt
  | .float x => (floatLayout.text? x).getD "null"
  | .text s => string s

def array (values : List Value) : String := "[" ++ ",".intercalate (values.map value) ++ "]"

/-- An object with its members in the order of the map. -/
def object (members : OrderedMap String Value) : String :=
  let member := fun (entry : String × Value) => string entry.1 ++ ":" ++ value entry.2
  "\x7b" ++ ",".intercalate (members.entries.map member) ++ "\x7d"

end PolySql.Json
