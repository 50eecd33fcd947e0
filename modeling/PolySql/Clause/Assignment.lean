import PolySql.Clause.Operand

/-!
# Assignments of an update
-/

namespace PolySql

/-- An entry of `SET`. -/
inductive Assignment (σ : Type) where
  | set (column : String) (value : Operand σ)
  | raw (sql : String)

namespace Assignment

variable {σ τ : Type}

def map (f : σ → τ) : Assignment σ → Assignment τ
  | set column value => set column (value.map f)
  | raw sql => raw sql

def template (d : Dialect) : Assignment Rendering → Rendering
  | set column value => return d.quoteName column ++ " = " ++ (← value.template d)
  | raw sql => .ok sql

/-- The entries of `SET`.  It needs one. -/
def listTemplate (d : Dialect) (assignments : List (Assignment Rendering)) : Rendering :=
  if assignments.isEmpty then .error (.emptyList .assignments)
  else return Template.join ", " (← assignments.mapM (·.template d))

/-! ### In writing -/

def write (d : Dialect) : Assignment (Writing String) → Writing String
  | set column value => return d.quoteName column ++ " = " ++ (← value.write d)
  | raw sql => pure sql

def writeList (d : Dialect) (assignments : List (Assignment (Writing String))) : Writing String :=
  if assignments.isEmpty then throw (.emptyList .assignments)
  else return ", ".intercalate (← assignments.mapM (·.write d))

end Assignment

end PolySql
