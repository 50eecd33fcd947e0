import PolySql.Error
import PolySql.Text.AsciiCase
import PolySql.Text.Whitespace

/-!
# Conjunctions

The words that join conditions.  `&&` and `||` are the signs MySQL has for `AND` and `OR`; the other
dialects write the words.  `XOR` is known to MySQL alone.
-/

namespace PolySql

/-- What joins the conditions of a group. -/
inductive Conjunction where
  | and
  | or
  | xor
  /-- `&&` -/
  | andSign
  /-- `||` -/
  | orSign
  deriving DecidableEq, Repr

namespace Conjunction

instance : Inhabited Conjunction := ⟨and⟩

def symbol : Conjunction → String
  | and => "AND"
  | or => "OR"
  | xor => "XOR"
  | andSign => "&&"
  | orSign => "||"

/-- Groups that bind at least as tightly as `AND`. -/
def isAndLike : Conjunction → Bool
  | and | xor | andSign => true
  | or | orSign => false

def isOrLike (c : Conjunction) : Bool := !c.isAndLike

/-- A group joined by `child` needs parentheses inside a group joined by `parent`. -/
def needsParens (parent child : Conjunction) : Bool := parent.isAndLike && child.isOrLike

/-- The conjunction of a word, in any letter case and with any white space around it. -/
def ofText (text : String) : Except CompileError Conjunction :=
  match Text.upper (Text.trim text) with
  | "AND" => .ok and
  | "OR" => .ok or
  | "XOR" => .ok xor
  | "&&" => .ok andSign
  | "||" => .ok orSign
  | _ => .error (.invalidConjunction text)

end Conjunction

/-- The keyword of a conjunction. -/
def Dialect.keyword (d : Dialect) (c : Conjunction) : Except CompileError String :=
  if d = mysql then .ok c.symbol
  else match c with
    | .and | .andSign => .ok "AND"
    | .or | .orSign => .ok "OR"
    | .xor => .error (.unsupported .xorConjunction d)

end PolySql
