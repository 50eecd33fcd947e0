import PolySql.Statement.Basic

/-!
# Recursion over statements

`Statement.fold f` works out a statement from its subqueries up: `f` is given the clauses with the
results of the subqueries in their places.  `fold_of` is the equation by which it is used; the
functions before it only walk down to the subqueries and are equal to the `map`s of the clause
types.
-/

namespace PolySql.Statement

variable {α : Type}

mutual

/-- The result of `f` on the clauses with the results of the subqueries in their places. -/
def fold (f : Clauses α → α) : Statement → α
  | of c => f (foldClauses f c)

def foldClauses (f : Clauses α → α) : Clauses Statement → Clauses α
  | ⟨body, joins, filters, groups, havings, orders, limit?⟩ =>
    ⟨foldBody f body, foldJoins f joins, foldFilters f filters, foldItems f groups,
      foldFilters f havings, orders, limit?⟩

def foldBody (f : Clauses α → α) : Body Statement → Body α
  | .raw sql => .raw sql
  | .select tables columns options =>
    .select (foldSelectables f tables) (foldSelectables f columns) options
  | .insert table rows options => .insert table (foldInsertion f rows) options
  | .update tables assignments options =>
    .update (foldSelectables f tables) (foldAssignments f assignments) options
  | .delete tables options => .delete (foldSelectables f tables) options

def foldItem (f : Clauses α → α) : Item Statement → Item α
  | .name n => .name n
  | .raw sql => .raw sql
  | .query q => .query (fold f q)

def foldItems (f : Clauses α → α) : List (Item Statement) → List (Item α)
  | [] => []
  | x :: xs => foldItem f x :: foldItems f xs

def foldSelectable (f : Clauses α → α) : Selectable Statement → Selectable α
  | ⟨item, alias?⟩ => ⟨foldItem f item, alias?⟩

def foldSelectables (f : Clauses α → α) : List (Selectable Statement) → List (Selectable α)
  | [] => []
  | x :: xs => foldSelectable f x :: foldSelectables f xs

def foldOperand (f : Clauses α → α) : Operand Statement → Operand α
  | .value v => .value v
  | .raw sql => .raw sql
  | .column n => .column n
  | .query q => .query (fold f q)

def foldOperands (f : Clauses α → α) : List (Operand Statement) → List (Operand α)
  | [] => []
  | x :: xs => foldOperand f x :: foldOperands f xs

def foldCells (f : Clauses α → α) : List (String × Operand Statement) → List (String × Operand α)
  | [] => []
  | (column, x) :: xs => (column, foldOperand f x) :: foldCells f xs

def foldLists (f : Clauses α → α) :
    List (String × List (Operand Statement)) → List (String × List (Operand α))
  | [] => []
  | (column, x) :: xs => (column, foldOperands f x) :: foldLists f xs

def foldInsertion (f : Clauses α → α) : Insertion Statement → Insertion α
  | .raw sql => .raw sql
  | .row cells => .row (foldCells f cells)
  | .columns lists => .columns (foldLists f lists)
  | .query names q => .query names (fold f q)

def foldAssignment (f : Clauses α → α) : Assignment Statement → Assignment α
  | .set column value => .set column (foldOperand f value)
  | .raw sql => .raw sql

def foldAssignments (f : Clauses α → α) : List (Assignment Statement) → List (Assignment α)
  | [] => []
  | x :: xs => foldAssignment f x :: foldAssignments f xs

def foldCondition (f : Clauses α → α) : Condition Statement → Condition α
  | .compare operator column operands => .compare operator column (foldOperands f operands)
  | .equal column operand => .equal column (foldOperand f operand)
  | .raw sql => .raw sql
  | .query q => .query (fold f q)
  | .group conjunction children => .group conjunction (foldConditions f children)

def foldConditions (f : Clauses α → α) : List (Condition Statement) → List (Condition α)
  | [] => []
  | x :: xs => foldCondition f x :: foldConditions f xs

def foldFilter (f : Clauses α → α) : Filter Statement → Filter α
  | ⟨condition, conjunction⟩ => ⟨foldCondition f condition, conjunction⟩

def foldFilters (f : Clauses α → α) : List (Filter Statement) → List (Filter α)
  | [] => []
  | x :: xs => foldFilter f x :: foldFilters f xs

def foldOn (f : Clauses α → α) : Option (Condition Statement) → Option (Condition α)
  | none => none
  | some on => some (foldCondition f on)

def foldJoin (f : Clauses α → α) : Join Statement → Join α
  | ⟨type, tables, on?⟩ => ⟨type, foldSelectables f tables, foldOn f on?⟩

def foldJoins (f : Clauses α → α) : List (Join Statement) → List (Join α)
  | [] => []
  | x :: xs => foldJoin f x :: foldJoins f xs

end

/-! ### The walk is the map -/

variable (f : Clauses α → α)

theorem foldItem_eq (x : Item Statement) : foldItem f x = x.map (fold f) := by
  cases x <;> rfl

theorem foldItems_eq : ∀ xs : List (Item Statement), foldItems f xs = xs.map (·.map (fold f))
  | [] => rfl
  | x :: xs => by simp [foldItems, foldItem_eq, foldItems_eq xs]

theorem foldSelectables_eq :
    ∀ xs : List (Selectable Statement), foldSelectables f xs = xs.map (·.map (fold f))
  | [] => rfl
  | ⟨_, _⟩ :: xs => by
    simp [foldSelectables, foldSelectable, foldItem_eq, foldSelectables_eq xs, Selectable.map]

theorem foldOperand_eq (x : Operand Statement) : foldOperand f x = x.map (fold f) := by
  cases x <;> rfl

theorem foldOperands_eq :
    ∀ xs : List (Operand Statement), foldOperands f xs = xs.map (·.map (fold f))
  | [] => rfl
  | x :: xs => by simp [foldOperands, foldOperand_eq, foldOperands_eq xs]

theorem foldCells_eq :
    ∀ xs : List (String × Operand Statement),
      foldCells f xs = xs.map fun (column, cell) => (column, cell.map (fold f))
  | [] => rfl
  | (_, x) :: xs => by simp [foldCells, foldOperand_eq, foldCells_eq xs]

theorem foldLists_eq :
    ∀ xs : List (String × List (Operand Statement)),
      foldLists f xs = xs.map fun (column, cells) => (column, cells.map (·.map (fold f)))
  | [] => rfl
  | (_, x) :: xs => by simp [foldLists, foldOperands_eq, foldLists_eq xs]

theorem foldInsertion_eq (x : Insertion Statement) : foldInsertion f x = x.map (fold f) := by
  cases x <;> simp [foldInsertion, Insertion.map, foldCells_eq, foldLists_eq]

theorem foldAssignments_eq :
    ∀ xs : List (Assignment Statement), foldAssignments f xs = xs.map (·.map (fold f))
  | [] => rfl
  | .set _ _ :: xs | .raw _ :: xs => by
    simp [foldAssignments, foldAssignment, foldOperand_eq, foldAssignments_eq xs, Assignment.map]

theorem foldBody_eq (x : Body Statement) : foldBody f x = x.map (fold f) := by
  cases x <;>
    simp [foldBody, Body.map, foldSelectables_eq, foldInsertion_eq, foldAssignments_eq]

mutual

theorem foldCondition_eq : ∀ x : Condition Statement, foldCondition f x = x.map (fold f)
  | .compare _ _ _ => by simp [foldCondition, Condition.map, foldOperands_eq]
  | .equal _ _ => by simp [foldCondition, Condition.map, foldOperand_eq]
  | .raw _ | .query _ => rfl
  | .group _ children => by simp [foldCondition, Condition.map, foldConditions_eq children]

theorem foldConditions_eq :
    ∀ xs : List (Condition Statement), foldConditions f xs = Condition.mapEach (fold f) xs
  | [] => rfl
  | x :: xs => by
    simp [foldConditions, Condition.mapEach, foldCondition_eq x, foldConditions_eq xs]

end

theorem foldFilters_eq :
    ∀ xs : List (Filter Statement), foldFilters f xs = xs.map (·.map (fold f))
  | [] => rfl
  | ⟨_, _⟩ :: xs => by
    simp [foldFilters, foldFilter, foldCondition_eq, foldFilters_eq xs, Filter.map]

theorem foldOn_eq (on? : Option (Condition Statement)) :
    foldOn f on? = on?.map (·.map (fold f)) := by
  cases on? <;> simp [foldOn, foldCondition_eq]

theorem foldJoins_eq : ∀ xs : List (Join Statement), foldJoins f xs = xs.map (·.map (fold f))
  | [] => rfl
  | ⟨_, _, _⟩ :: xs => by
    simp [foldJoins, foldJoin, foldSelectables_eq, foldOn_eq, foldJoins_eq xs, Join.map]

/-- The result on a statement, from the results on its subqueries. -/
@[simp] theorem fold_of (c : Clauses Statement) : fold f (of c) = f (c.map (fold f)) := by
  obtain ⟨_, _, _, _, _, _, _⟩ := c
  simp [fold, foldClauses, Clauses.map, foldBody_eq, foldJoins_eq, foldFilters_eq, foldItems_eq]

end PolySql.Statement
