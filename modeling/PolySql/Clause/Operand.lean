import PolySql.Clause.Item

/-!
# Operands

The right side of a comparison, a cell of an insertion or the new value of a column.
-/

namespace PolySql

/-- The right side of a comparison. -/
inductive Operand (σ : Type) where
  /-- Bound as a parameter. -/
  | value (value : Value)
  | raw (sql : String)
  | column (name : String)
  | query (query : σ)
  deriving DecidableEq, Repr

namespace Operand

variable {σ τ : Type}

def map (f : σ → τ) : Operand σ → Operand τ
  | value v => value v
  | raw sql => raw sql
  | column name => column name
  | query q => query (f q)

def template (d : Dialect) : Operand Rendering → Rendering
  | value v => .ok [.slot v]
  | raw sql => .ok sql
  | column name => .ok (d.quoteName name)
  | query q => q.map Template.parens

/-- Operands with commas between them. -/
def listTemplate (d : Dialect) (operands : List (Operand Rendering)) : Rendering :=
  return Template.join ", " (← operands.mapM (·.template d))

/-- The right side of `IS`: a value is written out, never bound. -/
def unboundTemplate (d : Dialect) : Operand Rendering → Rendering
  | value (.float x) =>
    match Value.floatText? x with
    | some text => .ok text
    | none => .error (.nonFiniteFloat x)
  | value v => .ok (v.plainText?.getD "")
  | other => other.template d

/-! ### In writing -/

/-- The value of an operand that is one. -/
def value? : Operand σ → Option Value
  | value v => some v
  | _ => none

theorem value?_eq_some_iff {x : Operand σ} {v : Value} : x.value? = some v ↔ x = value v := by
  cases x <;> simp [value?]

def write (d : Dialect) : Operand (Writing String) → Writing String
  | value v => Writing.place v
  | raw sql => pure sql
  | column name => pure (d.quoteName name)
  | query q => return "(" ++ (← q) ++ ")"

/-- The texts of several operands. -/
def writeEach (d : Dialect) (operands : List (Operand (Writing String))) : Writing (List String) :=
  operands.mapM (·.write d)

def writeList (d : Dialect) (operands : List (Operand (Writing String))) : Writing String :=
  return ", ".intercalate (← writeEach d operands)

/-- The texts of several operands.  Values are bound at once if there is nothing else. -/
def writeBatch (d : Dialect) (operands : List (Operand (Writing String))) :
    Writing (List String) :=
  match operands.mapM value? with
  | some values => Writing.placeAll values
  | none => writeEach d operands

def writeUnbound (d : Dialect) : Operand (Writing String) → Writing String
  | value (.float x) =>
    match Value.floatText? x with
    | some text => pure text
    | none => throw (.nonFiniteFloat x)
  | value v => pure (v.plainText?.getD "")
  | other => other.write d

end Operand

end PolySql
