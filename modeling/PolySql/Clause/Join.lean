import PolySql.Clause.Condition

/-!
# Joins
-/

namespace PolySql

/-- How the rows of two tables are paired. -/
inductive JoinType where
  | inner
  | left
  | right
  | full
  | cross
  deriving DecidableEq, Repr

namespace JoinType

def name : JoinType → String
  | inner => "inner"
  | left => "left"
  | right => "right"
  | full => "full"
  | cross => "cross"

/-- The words before `JOIN`. -/
def keyword : JoinType → String
  | inner => "INNER"
  | left => "LEFT"
  | right => "RIGHT"
  | full => "FULL OUTER"
  | cross => "CROSS"

/-- The join of its words, in any letter case and with any white space around and between them. -/
def ofText (text : String) : Except CompileError JoinType :=
  match Text.lower (Text.squeeze text) with
  | "inner" => .ok inner
  | "left" | "left outer" => .ok left
  | "right" | "right outer" => .ok right
  | "full" | "full outer" => .ok full
  | "cross" => .ok cross
  | _ => .error (.invalidJoinType text)

end JoinType

/-- A joined table, with the condition it is joined on. -/
structure Join (σ : Type) where
  type : JoinType
  tables : List (Selectable σ)
  on? : Option (Condition σ)

namespace Join

variable {σ τ : Type}

def map (f : σ → τ) (join : Join σ) : Join τ :=
  ⟨join.type, join.tables.map (·.map f), join.on?.map (·.map f)⟩

/-- The condition after `ON`, if there is one. -/
def onTemplate (d : Dialect) (on? : Option (Condition Rendering)) : Rendering := do
  match on? with
  | none => return []
  | some on =>
    match ← on.template? d with
    | none => return []
    | some condition => return " ON " ++ condition

/-- The join after a space. -/
def template (d : Dialect) (join : Join Rendering) : Rendering := do
  let tables ← tableListTemplate d join.tables
  let on ← onTemplate d join.on?
  return " " ++ join.type.keyword ++ " JOIN " ++ tables ++ on

/-! ### In writing -/

def writeOn (d : Dialect) (on? : Option (Condition (Writing String))) : Writing String := do
  match on? with
  | none => return ""
  | some on =>
    match ← on.write? d with
    | none => return ""
    | some condition => return " ON " ++ condition

def write (d : Dialect) (join : Join (Writing String)) : Writing String := do
  let tables ← writeTableList d join.tables
  let on ← writeOn d join.on?
  return " " ++ join.type.keyword ++ " JOIN " ++ tables ++ on

end Join

end PolySql
