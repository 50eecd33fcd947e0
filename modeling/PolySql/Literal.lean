import PolySql.Error
import PolySql.Identifier
import PolySql.Text.AsciiCase

/-!
# Literals

Values as SQL text.  A text is escaped (`escapeText`) and put between quotes (`wrapLiteral`); the
pattern forms escape its wildcards first (`escapePattern`) and add wildcards at one end or both.
-/

namespace PolySql

/-- How a value becomes text. -/
inductive LiteralForm where
  /-- Escaped text without quotes. -/
  | plain
  /-- A literal. -/
  | quoted
  /-- A pattern for texts that contain the value. -/
  | contains
  /-- A pattern for texts that start with the value. -/
  | startsWith
  /-- A pattern for texts that end with the value. -/
  | endsWith
  deriving DecidableEq, Repr

namespace LiteralForm

def name : LiteralForm → String
  | plain => "plain"
  | quoted => "quoted"
  | contains => "like"
  | startsWith => "like-left"
  | endsWith => "like-right"

/-- The form of a name, in any letter case. -/
def ofName (name : String) : Except CompileError LiteralForm :=
  match Text.lower name with
  | "plain" | "value" => .ok plain
  | "quoted" => .ok quoted
  | "like" => .ok contains
  | "like-left" | "left-like" => .ok startsWith
  | "like-right" | "right-like" => .ok endsWith
  | _ => .error (.unknownLiteralForm name)

end LiteralForm

/-- One character of a text between quotes, where a backslash escapes. -/
def backslashEscape (c : Char) : List Char :=
  if c = '\\' then ['\\', '\\']
  else if c = '\x27' then ['\\', '\x27']
  else if c = '\x22' then ['\\', '\x22']
  else if c = '\x00' then ['\\', '0']
  else if c = '\n' then ['\\', 'n']
  else if c = '\r' then ['\\', 'r']
  else if c = '\x1a' then ['\\', 'Z']
  else [c]

/-- The characters that are escaped, each with what stands for it after the backslash. -/
def backslashPairs : List (Char × Char) :=
  [('\\', '\\'), ('\x27', '\x27'), ('\x22', '\x22'), ('\x00', '0'), ('\n', 'n'), ('\r', 'r'),
    ('\x1a', 'Z')]

/-- A character stands for itself or is escaped. -/
theorem backslashEscape_cases (c : Char) :
    (backslashEscape c = [c] ∧ c ≠ '\\' ∧ c ≠ '\x27') ∨
      ∃ e, (c, e) ∈ backslashPairs ∧ backslashEscape c = ['\\', e] := by
  simp only [backslashEscape, backslashPairs]
  grind

/-- One character of a pattern in which a backslash escapes. -/
def backslashWildcard (c : Char) : List Char :=
  if c = '\\' ∨ c = '%' ∨ c = '_' then ['\\', c] else [c]

/-- One character of a pattern in which brackets hold a choice of characters. -/
def bracketWildcard (c : Char) : List Char :=
  if c = '[' ∨ c = '%' ∨ c = '_' then ['[', c, ']'] else [c]

/-- Every character is ASCII. -/
def isAscii (cs : List Char) : Bool := cs.all fun c => decide (c.toNat < 128)

namespace Dialect

/-- The characters of a text as they stand between the quotes of a literal. -/
def escapeTextChars (d : Dialect) (cs : List Char) : List Char :=
  match d with
  | mysql => cs.flatMap backslashEscape
  | _ => doubled '\x27' cs

/-- The characters of a text as they match themselves in a pattern. -/
def escapePatternChars (d : Dialect) (cs : List Char) : List Char :=
  match d with
  | tsql => cs.flatMap bracketWildcard
  | _ => cs.flatMap backslashWildcard

/-- Escaped characters between quotes.  T-SQL marks a literal that is not ASCII. -/
def wrapLiteralChars (d : Dialect) (escaped : List Char) : List Char :=
  let quoted := '\x27' :: escaped ++ ['\x27']
  if d = tsql ∧ isAscii escaped = false then 'N' :: quoted else quoted

/-- The characters of a text literal. -/
def literalChars (d : Dialect) (cs : List Char) : List Char :=
  d.wrapLiteralChars (d.escapeTextChars cs)

def escapeText (d : Dialect) (s : String) : String := String.ofList (d.escapeTextChars s.toList)

def escapePattern (d : Dialect) (s : String) : String :=
  String.ofList (d.escapePatternChars s.toList)

def wrapLiteral (d : Dialect) (escaped : String) : String :=
  String.ofList (d.wrapLiteralChars escaped.toList)

/-- A text literal. -/
def literal (d : Dialect) (s : String) : String := String.ofList (d.literalChars s.toList)

@[simp] theorem toList_literal (d : Dialect) (s : String) :
    (d.literal s).toList = d.literalChars s.toList := by
  simp [literal]

/-- The literal of a pattern around an escaped text, with the clause that names the escape
character. -/
def patternLiteral (d : Dialect) (before text after : String) : String :=
  d.literal (before ++ d.escapePattern text ++ after) ++ d.likeClause

/-- A text or number in the given form.  Outside the pattern forms only a text is escaped. -/
def formText (d : Dialect) (form : LiteralForm) (isText : Bool) (text : String) : String :=
  match form with
  | .plain => if isText then d.escapeText text else text
  | .quoted => if isText then d.literal text else text
  | .contains => d.patternLiteral "%" text "%"
  | .startsWith => d.patternLiteral "" text "%"
  | .endsWith => d.patternLiteral "%" text ""

/-- A value as SQL text.  Null and truth values are the same in every form. -/
def renderValue (d : Dialect) (value : Value) (form : LiteralForm) : Except CompileError String :=
  match value with
  | .null => .ok "NULL"
  | .bool b => .ok (d.boolText b)
  | .int n => .ok (d.formText form false (toString n.toInt))
  | .float x =>
    match Value.floatText? x with
    | some text => .ok (d.formText form false text)
    | none => .error (.nonFiniteFloat x)
  | .text s => .ok (d.formText form true s)

end Dialect

end PolySql
