import PolySql.Error
import PolySql.Text.AsciiCase
import PolySql.Text.Whitespace

/-!
# Comparison operators

An operator is named by its words in any letter case, with any white space around and between them.
-/

namespace PolySql

/-- A comparison. -/
inductive Operator where
  | eq
  | lt
  | gt
  | le
  | ge
  /-- `<>` -/
  | ne
  /-- `!=` -/
  | bangEq
  | like
  | notLike
  | isIn
  | notIn
  | between
  | notBetween
  | is
  deriving DecidableEq, Repr

namespace Operator

def symbol : Operator → String
  | eq => "="
  | lt => "<"
  | gt => ">"
  | le => "<="
  | ge => ">="
  | ne => "<>"
  | bangEq => "!="
  | like => "LIKE"
  | notLike => "NOT LIKE"
  | isIn => "IN"
  | notIn => "NOT IN"
  | between => "BETWEEN"
  | notBetween => "NOT BETWEEN"
  | is => "IS"

/-- The right side is a list. -/
def isList : Operator → Bool
  | isIn | notIn => true
  | _ => false

/-- The right side is a range. -/
def isRange : Operator → Bool
  | between | notBetween => true
  | _ => false

/-- The operator of a text, if it is one. -/
def ofText? (text : String) : Option Operator :=
  match Text.upper (Text.squeeze text) with
  | "=" => some eq
  | "<" => some lt
  | ">" => some gt
  | "<=" => some le
  | ">=" => some ge
  | "<>" => some ne
  | "!=" => some bangEq
  | "LIKE" => some like
  | "NOT LIKE" => some notLike
  | "IN" => some isIn
  | "NOT IN" => some notIn
  | "BETWEEN" => some between
  | "NOT BETWEEN" => some notBetween
  | "IS" => some is
  | _ => none

def ofText (text : String) : Except CompileError Operator :=
  match ofText? text with
  | some operator => .ok operator
  | none => .error (.invalidOperator text .unknown)

theorem ofText?_of_ofText {text : String} {operator : Operator} (h : ofText text = .ok operator) :
    ofText? text = some operator := by
  unfold ofText at h
  split at h <;> simp_all

theorem ne_is_of_isList {operator : Operator} (h : operator.isList = true) : operator ≠ is := by
  rintro rfl
  nomatch h

theorem ne_is_of_isRange {operator : Operator} (h : operator.isRange = true) : operator ≠ is := by
  rintro rfl
  nomatch h

end Operator

end PolySql
