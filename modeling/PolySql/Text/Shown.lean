import PolySql.Text.Printable

/-!
# Texts shown in messages

A character or text that a message shows stands between quotes.  Inside them the quote itself and
the backslash have a backslash before them, five control characters have short names, and a
character that cannot be shown as it is becomes its code point in braces.
-/

namespace PolySql.Text

/-- The code point in lower-case hexadecimal digits, in braces. -/
def codePointEscape (c : Char) : String :=
  "\\u\x7b" ++ String.ofList (Nat.toDigits 16 c.toNat) ++ "\x7d"

/-- One character between quotes `quote`. -/
def shownInside (quote : Char) (c : Char) : String :=
  if c = '\x00' then "\\0"
  else if c = '\t' then "\\t"
  else if c = '\r' then "\\r"
  else if c = '\n' then "\\n"
  else if c = quote ∨ c = '\\' then String.ofList ['\\', c]
  else if isPrintable c then String.singleton c
  else codePointEscape c

/-- The character between single quotes. -/
def shownChar (c : Char) : String := "'" ++ shownInside '\x27' c ++ "'"

/-- The text between double quotes. -/
def shownText (s : String) : String :=
  "\"" ++ String.join (s.toList.map (shownInside '\x22')) ++ "\""

end PolySql.Text
