import PolySql.Clause.Operand
import PolySql.Conjunction
import PolySql.Operator

/-!
# Conditions

A condition is a tree of groups over comparisons, raw texts and subqueries.  Operators are kept as
they were written and resolved when the condition is rendered.

Rendering counts the terms at the top of a text (`Rendered.terms`): a group of several terms gets
parentheses where it stands in a group that binds more tightly.  A group in which nothing is
rendered renders nothing, and one in which a single term is rendered is that term.
-/

namespace PolySql

/-- A condition. -/
inductive Condition (σ : Type) where
  /-- A comparison, in parentheses. -/
  | compare (operator column : String) (operands : List (Operand σ))
  /-- An equality, without parentheses. -/
  | equal (column : String) (operand : Operand σ)
  | raw (sql : String)
  /-- A subquery, in parentheses. -/
  | query (query : σ)
  | group (conjunction : Conjunction) (children : List (Condition σ))

/-- A rendered condition and the number of terms at its top. -/
structure Rendered where
  template : Template
  terms : Nat

namespace Condition

variable {σ τ : Type}

/-! ### Common conditions -/

def all (children : List (Condition σ)) : Condition σ := group .and children

def any (children : List (Condition σ)) : Condition σ := group .or children

def xor (children : List (Condition σ)) : Condition σ := group .xor children

def like (column : String) (pattern : Operand σ) : Condition σ := compare "LIKE" column [pattern]

def isIn (column : String) (operands : List (Operand σ)) : Condition σ :=
  compare "IN" column operands

def notIn (column : String) (operands : List (Operand σ)) : Condition σ :=
  compare "NOT IN" column operands

def between (column : String) (low high : Operand σ) : Condition σ :=
  compare "BETWEEN" column [low, high]

def notBetween (column : String) (low high : Operand σ) : Condition σ :=
  compare "NOT BETWEEN" column [low, high]

def is (column : String) (operand : Operand σ) : Condition σ := compare "IS" column [operand]

def isNull (column : String) : Condition σ := is column (.value .null)

def isNotNull (column : String) : Condition σ := is column (.raw "NOT NULL")

/-! ### Shape -/

mutual

def map (f : σ → τ) : Condition σ → Condition τ
  | compare operator column operands => compare operator column (operands.map (·.map f))
  | equal column operand => equal column (operand.map f)
  | raw sql => raw sql
  | query q => query (f q)
  | group conjunction children => group conjunction (mapEach f children)

def mapEach (f : σ → τ) : List (Condition σ) → List (Condition τ)
  | [] => []
  | c :: cs => c.map f :: mapEach f cs

end

mutual

/-- A group with nothing in it but such groups: it renders nothing. -/
def isEmpty : Condition σ → Bool
  | group _ children => allEmpty children
  | _ => false

def allEmpty : List (Condition σ) → Bool
  | [] => true
  | c :: cs => c.isEmpty && allEmpty cs

end

mutual

@[simp] theorem isEmpty_map (f : σ → τ) : ∀ x : Condition σ, (x.map f).isEmpty = x.isEmpty
  | compare _ _ _ | equal _ _ | raw _ | query _ => rfl
  | group _ children => allEmpty_mapEach f children

theorem allEmpty_mapEach (f : σ → τ) :
    ∀ xs : List (Condition σ), allEmpty (mapEach f xs) = allEmpty xs
  | [] => rfl
  | x :: xs => by simp [mapEach, allEmpty, isEmpty_map f x, allEmpty_mapEach f xs]

end

/-! ### Rendering -/

/-- The right side of `IN`: one subquery, or operands. -/
def listTemplate (d : Dialect) : List (Operand Rendering) → Rendering
  | [.query q] => q
  | operands => Operand.listTemplate d operands

/-- A comparison with the operator in `text`. -/
def comparisonTemplate (d : Dialect) (text column : String) (operands : List (Operand Rendering)) :
    Rendering := do
  let operator ← Operator.ofText text
  let before := "(" ++ d.quoteName column ++ " " ++ operator.symbol ++ " "
  if operator.isList then
    if operands.isEmpty then throw (.invalidOperator text .noOperand)
    return before ++ Template.parens (← listTemplate d operands) ++ ")"
  else if operator.isRange then
    match operands with
    | [low, high] => return before ++ (← low.template d) ++ " AND " ++ (← high.template d) ++ ")"
    | _ => throw (.invalidOperator text (.notTwoOperands operands.length))
  else
    match operands with
    | [operand] =>
      if operator = .is then return before ++ (← operand.unboundTemplate d) ++ ")"
      else return before ++ (← operand.template d) ++ ")"
    | _ => throw (.invalidOperator text (.notOneOperand operands.length))

/-- The rendered child as it stands in a group joined by `parent`. -/
def nestedIn (parent : Conjunction) (child : Condition σ) (rendered : Rendered) : Rendered :=
  match child with
  | group conjunction _ =>
    if rendered.terms > 1 ∧ parent.needsParens conjunction = true then
      ⟨rendered.template.parens, 1⟩
    else rendered
  | _ => rendered

/-- The terms of a group joined by its keyword, which matters only where there are two. -/
def joinTerms (d : Dialect) (conjunction : Conjunction) :
    List Rendered → Except CompileError (Option Rendered)
  | [] => .ok none
  | [term] => .ok (some term)
  | terms => do
    let keyword ← d.keyword conjunction
    return some ⟨Template.join s!" {keyword} " (terms.map (·.template)), terms.length⟩

mutual

/-- The condition as text, if there is anything to write. -/
def render (d : Dialect) : Condition Rendering → Except CompileError (Option Rendered)
  | compare operator column operands => do
    return some ⟨← comparisonTemplate d operator column operands, 1⟩
  | equal column operand => do
    return some ⟨d.quoteName column ++ " = " ++ (← operand.template d), 1⟩
  | raw sql => .ok (some ⟨sql, 1⟩)
  | query q => do return some ⟨(← q).parens, 1⟩
  | group conjunction children => do
    joinTerms d conjunction (← renderEach d conjunction children)

/-- The terms that the conditions give to a group joined by `parent`. -/
def renderEach (d : Dialect) (parent : Conjunction) :
    List (Condition Rendering) → Except CompileError (List Rendered)
  | [] => .ok []
  | c :: cs => do
    let rendered? ← c.render d
    let terms ← renderEach d parent cs
    return (rendered?.map (c.nestedIn parent)).toList ++ terms

end

/-- The text of a condition that stands alone, as after `ON`. -/
def template? (d : Dialect) (c : Condition Rendering) : Except CompileError (Option Template) :=
  return (← c.render d).map (·.template)

end Condition

/-! ### In writing -/

/-- A written condition and the number of terms at its top. -/
structure Written where
  text : String
  terms : Nat

namespace Condition

variable {σ : Type}

def writeList (d : Dialect) : List (Operand (Writing String)) → Writing String
  | [.query q] => q
  | operands => return ", ".intercalate (← Operand.writeBatch d operands)

def writeComparison (d : Dialect) (text column : String)
    (operands : List (Operand (Writing String))) : Writing String := do
  let operator ← MonadExcept.ofExcept (Operator.ofText text)
  let before := "(" ++ d.quoteName column ++ " " ++ operator.symbol ++ " "
  if operator.isList then
    if operands.isEmpty then throw (.invalidOperator text .noOperand)
    return before ++ "(" ++ (← writeList d operands) ++ ")" ++ ")"
  else if operator.isRange then
    match operands with
    | [low, high] => return before ++ (← low.write d) ++ " AND " ++ (← high.write d) ++ ")"
    | _ => throw (.invalidOperator text (.notTwoOperands operands.length))
  else
    match operands with
    | [operand] =>
      if operator = .is then return before ++ (← operand.writeUnbound d) ++ ")"
      else return before ++ (← operand.write d) ++ ")"
    | _ => throw (.invalidOperator text (.notOneOperand operands.length))

/-- The written child as it stands in a group joined by `parent`. -/
def writtenIn (parent : Conjunction) (child : Condition σ) (written : Written) : Written :=
  match child with
  | group conjunction _ =>
    if written.terms > 1 ∧ parent.needsParens conjunction = true then
      ⟨"(" ++ written.text ++ ")", 1⟩
    else written
  | _ => written

/-- The written terms of a group joined by its keyword. -/
def joinWritten (d : Dialect) (conjunction : Conjunction) :
    List Written → Except CompileError (Option Written)
  | [] => .ok none
  | [term] => .ok (some term)
  | terms => do
    let keyword ← d.keyword conjunction
    return some ⟨s!" {keyword} ".intercalate (terms.map (·.text)), terms.length⟩

mutual

def write (d : Dialect) : Condition (Writing String) → Writing (Option Written)
  | compare operator column operands => do
    return some ⟨← writeComparison d operator column operands, 1⟩
  | equal column operand => do
    return some ⟨d.quoteName column ++ " = " ++ (← operand.write d), 1⟩
  | raw sql => pure (some ⟨sql, 1⟩)
  | query q => do return some ⟨"(" ++ (← q) ++ ")", 1⟩
  | group conjunction children => do
    MonadExcept.ofExcept (joinWritten d conjunction (← writeEach d conjunction children))

/-- The written terms that the conditions give to a group joined by `parent`. -/
def writeEach (d : Dialect) (parent : Conjunction) :
    List (Condition (Writing String)) → Writing (List Written)
  | [] => pure []
  | c :: cs => do
    let written? ← c.write d
    let terms ← writeEach d parent cs
    return (written?.map (c.writtenIn parent)).toList ++ terms

end

/-- The text of a condition that stands alone, as after `ON`. -/
def write? (d : Dialect) (c : Condition (Writing String)) : Writing (Option String) :=
  return (← c.write d).map (·.text)

end Condition

end PolySql
