import PolySql.Text.Alphanumeric

/-!
# Environment variables in texts

A text may refer to variables as `$name` or with the name in braces.  It is cut into segments once,
from the left (`Segment.scan`), and each reference is replaced by the value of its variable.  A value
is copied as it is and never scanned for references.
-/

namespace PolySql

/-- The variables of a process and their values. -/
abbrev Environment := List (String × String)

/-- The value of a name: what follows the name and an equals sign in the text of the first variable
that begins so, the text being the variable's own name, an equals sign and its value.  The empty name
has none. -/
def Environment.get? (env : Environment) (name : String) : Option String :=
  if name.isEmpty then none
  else env.findSome? fun (key, value) =>
    ((name.toList ++ ['=']).isPrefixOf? (key.toList ++ '=' :: value.toList)).map String.ofList

/-- A character of a text, or a reference to a variable. -/
inductive Segment where
  | literal (c : Char)
  | reference (name : List Char)
  deriving DecidableEq, Repr

namespace Segment

/-- The characters of a name without braces. -/
def isNameChar (c : Char) : Bool := Text.isAlphanumeric c || c == '_'

/-- The segments of a text.  A name in braces goes to the closing brace or to the end of the text; a
name without braces is as long as it can be; a dollar sign before neither stands for itself. -/
def scan : List Char → List Segment
  | [] => []
  | '$' :: '\x7b' :: rest =>
    reference (rest.takeWhile (· ≠ '\x7d')) :: scan ((rest.dropWhile (· ≠ '\x7d')).drop 1)
  | '$' :: rest =>
    if (rest.takeWhile isNameChar).isEmpty then literal '$' :: scan rest
    else reference (rest.takeWhile isNameChar) :: scan (rest.dropWhile isNameChar)
  | c :: rest => literal c :: scan rest
termination_by cs => cs.length
decreasing_by
  · have := (List.dropWhile_suffix (l := rest) (· ≠ '\x7d')).length_le
    simp only [List.length_drop, List.length_cons]
    omega
  · simp
  · have := (List.dropWhile_suffix (l := rest) isNameChar).length_le
    simp only [List.length_cons]
    omega
  · simp

/-- What a segment stands for.  The error is the name of a variable that has no value. -/
def value (env : Environment) : Segment → Except String (List Char)
  | literal c => .ok [c]
  | reference name =>
    match env.get? (String.ofList name) with
    | some value => .ok value.toList
    | none => .error (String.ofList name)

end Segment

/-- The text with the values of its variables.  The error is the name of the first variable that has
none. -/
def Environment.expand (env : Environment) (s : String) : Except String String :=
  return String.ofList (← (Segment.scan s.toList).mapM (Segment.value env)).flatten

end PolySql
