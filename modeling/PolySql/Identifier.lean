import PolySql.Dialect

/-!
# Quoted identifiers

A name stands between the quote characters of the dialect, and a closing quote inside it is written
twice.  A dotted name is quoted segment by segment; a segment `*` stands for every column and is not
quoted.
-/

namespace PolySql

/-- The characters around an identifier. -/
structure QuotePair where
  opening : Char
  closing : Char
  deriving DecidableEq, Repr

/-- The quote characters of the dialect. -/
def Dialect.quotes : Dialect → QuotePair
  | ansi | postgres | sqlite => ⟨'\x22', '\x22'⟩
  | mysql => ⟨'\x60', '\x60'⟩
  | tsql => ⟨'[', ']'⟩

/-- Every `mark` twice, all else once. -/
def doubled (mark : Char) (cs : List Char) : List Char :=
  cs.flatMap fun c => if c = mark then [c, c] else [c]

/-- The name between the quote characters, a closing one inside it doubled. -/
def QuotePair.around (quotes : QuotePair) (name : List Char) : List Char :=
  quotes.opening :: doubled quotes.closing name ++ [quotes.closing]

namespace Dialect

/-- A single name: a column, an alias, a constraint, an index. -/
def quoteIdentifier (d : Dialect) (name : String) : String :=
  String.ofList (d.quotes.around name.toList)

/-- One segment of a dotted name. -/
def quoteSegment (d : Dialect) (segment : List Char) : List Char :=
  if segment = ['*'] then segment else d.quotes.around segment

/-- The characters of a quoted dotted name. -/
def quoteNameChars (d : Dialect) (name : List Char) : List Char :=
  ['.'].intercalate ((name.splitOn '.').map d.quoteSegment)

/-- A table or column name, with a qualifier or without. -/
def quoteName (d : Dialect) (name : String) : String := String.ofList (d.quoteNameChars name.toList)

@[simp] theorem toList_quoteIdentifier (d : Dialect) (name : String) :
    (d.quoteIdentifier name).toList = d.quotes.around name.toList := by
  simp [quoteIdentifier]

@[simp] theorem toList_quoteName (d : Dialect) (name : String) :
    (d.quoteName name).toList = d.quoteNameChars name.toList := by
  simp [quoteName]

end Dialect

end PolySql
