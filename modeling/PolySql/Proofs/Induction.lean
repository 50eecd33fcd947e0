import PolySql.Statement.Fold

/-!
# Induction over statements

**Induction** (`Statement.induct`).  A property holds of every statement if it holds of each
statement whose subqueries have it.  The subqueries that have it are the subtype `{s // P s}`, so
the step is given the clauses over that subtype; no predicate "every subquery of these clauses" is
needed.

A clause type is a functor in what stands for a subquery (`map_map`), which takes the results of a
recursion on the subqueries back to a recursion on the subtype.
-/

namespace PolySql

variable {σ τ υ : Type} (f : σ → τ) (g : τ → υ)

/-! ### Maps compose -/

@[simp] theorem Item.map_map : ∀ x : Item σ, (x.map f).map g = x.map (g ∘ f)
  | .name _ | .raw _ | .query _ => rfl

@[simp] theorem Selectable.map_map (x : Selectable σ) : (x.map f).map g = x.map (g ∘ f) := by
  simp [Selectable.map]

@[simp] theorem Operand.map_map : ∀ x : Operand σ, (x.map f).map g = x.map (g ∘ f)
  | .value _ | .raw _ | .column _ | .query _ => rfl

mutual

@[simp] theorem Condition.map_map : ∀ x : Condition σ, (x.map f).map g = x.map (g ∘ f)
  | .compare _ _ _ | .equal _ _ | .raw _ | .query _ => by simp [Condition.map]
  | .group _ children => by simp [Condition.map, Condition.mapEach_mapEach children]

theorem Condition.mapEach_mapEach :
    ∀ xs : List (Condition σ), mapEach g (mapEach f xs) = mapEach (g ∘ f) xs
  | [] => rfl
  | x :: xs => by simp [mapEach, Condition.map_map x, Condition.mapEach_mapEach xs]

end

@[simp] theorem Filter.map_map (x : Filter σ) : (x.map f).map g = x.map (g ∘ f) := by
  simp [Filter.map]

@[simp] theorem Join.map_map (x : Join σ) : (x.map f).map g = x.map (g ∘ f) := by
  simp [Join.map, Function.comp_def]

@[simp] theorem Assignment.map_map : ∀ x : Assignment σ, (x.map f).map g = x.map (g ∘ f)
  | .set _ _ | .raw _ => by simp [Assignment.map]

@[simp] theorem Insertion.map_map : ∀ x : Insertion σ, (x.map f).map g = x.map (g ∘ f)
  | .raw _ | .row _ | .columns _ | .query _ _ => by simp [Insertion.map]

@[simp] theorem Body.map_map : ∀ x : Body σ, (x.map f).map g = x.map (g ∘ f)
  | .raw _ | .select _ _ _ | .insert _ _ _ | .update _ _ _ | .delete _ _ => by simp [Body.map]

@[simp] theorem Clauses.map_map (x : Clauses σ) : (x.map f).map g = x.map (g ∘ f) := by
  simp [Clauses.map]

namespace Statement

/-! ### Putting the subqueries back -/

section Rebuild

-- Only `rebuild` names the hypothesis; the others of the block use it through their calls.
set_option linter.unusedSectionVars false

variable {α : Type} {f : Clauses α → α} {π : α → Statement}
variable (h : ∀ c, π (f c) = of (c.map π))

include h

mutual

/-- If `π` of a result is the statement of the results on its subqueries, then it is the statement
that was worked out. -/
theorem rebuild : ∀ s : Statement, π (fold f s) = s
  | of c => by rw [fold, h, rebuildClauses c]

theorem rebuildClauses : ∀ c : Clauses Statement, (foldClauses f c).map π = c
  | ⟨body, joins, filters, groups, havings, orders, limit?⟩ => by
    simp only [foldClauses, Clauses.map, rebuildBody body, rebuildJoins joins,
      rebuildFilters filters, rebuildItems groups, rebuildFilters havings]

theorem rebuildBody : ∀ x : Body Statement, (foldBody f x).map π = x
  | .raw _ => rfl
  | .select tables columns options => by
    simp only [foldBody, Body.map, rebuildSelectables tables, rebuildSelectables columns]
  | .insert table rows options => by simp only [foldBody, Body.map, rebuildInsertion rows]
  | .update tables assignments options => by
    simp only [foldBody, Body.map, rebuildSelectables tables, rebuildAssignments assignments]
  | .delete tables options => by simp only [foldBody, Body.map, rebuildSelectables tables]

theorem rebuildItem : ∀ x : Item Statement, (foldItem f x).map π = x
  | .name _ | .raw _ => rfl
  | .query q => by simp only [foldItem, Item.map, rebuild q]

theorem rebuildItems : ∀ xs : List (Item Statement), (foldItems f xs).map (·.map π) = xs
  | [] => rfl
  | x :: xs => by simp only [foldItems, List.map_cons, rebuildItem x, rebuildItems xs]

theorem rebuildSelectable : ∀ x : Selectable Statement, (foldSelectable f x).map π = x
  | ⟨item, _⟩ => by simp only [foldSelectable, Selectable.map, rebuildItem item]

theorem rebuildSelectables :
    ∀ xs : List (Selectable Statement), (foldSelectables f xs).map (·.map π) = xs
  | [] => rfl
  | x :: xs => by
    simp only [foldSelectables, List.map_cons, rebuildSelectable x, rebuildSelectables xs]

theorem rebuildOperand : ∀ x : Operand Statement, (foldOperand f x).map π = x
  | .value _ | .raw _ | .column _ => rfl
  | .query q => by simp only [foldOperand, Operand.map, rebuild q]

theorem rebuildOperands : ∀ xs : List (Operand Statement), (foldOperands f xs).map (·.map π) = xs
  | [] => rfl
  | x :: xs => by simp only [foldOperands, List.map_cons, rebuildOperand x, rebuildOperands xs]

theorem rebuildCells :
    ∀ xs : List (String × Operand Statement),
      (foldCells f xs).map (fun (column, cell) => (column, cell.map π)) = xs
  | [] => rfl
  | (_, x) :: xs => by simp only [foldCells, List.map_cons, rebuildOperand x, rebuildCells xs]

theorem rebuildLists :
    ∀ xs : List (String × List (Operand Statement)),
      (foldLists f xs).map (fun (column, cells) => (column, cells.map (·.map π))) = xs
  | [] => rfl
  | (_, x) :: xs => by simp only [foldLists, List.map_cons, rebuildOperands x, rebuildLists xs]

theorem rebuildInsertion : ∀ x : Insertion Statement, (foldInsertion f x).map π = x
  | .raw _ => rfl
  | .row cells => by simp only [foldInsertion, Insertion.map, rebuildCells cells]
  | .columns lists => by simp only [foldInsertion, Insertion.map, rebuildLists lists]
  | .query _ q => by simp only [foldInsertion, Insertion.map, rebuild q]

theorem rebuildAssignment : ∀ x : Assignment Statement, (foldAssignment f x).map π = x
  | .set _ x => by simp only [foldAssignment, Assignment.map, rebuildOperand x]
  | .raw _ => rfl

theorem rebuildAssignments :
    ∀ xs : List (Assignment Statement), (foldAssignments f xs).map (·.map π) = xs
  | [] => rfl
  | x :: xs => by
    simp only [foldAssignments, List.map_cons, rebuildAssignment x, rebuildAssignments xs]

theorem rebuildCondition : ∀ x : Condition Statement, (foldCondition f x).map π = x
  | .compare _ _ operands => by simp only [foldCondition, Condition.map, rebuildOperands operands]
  | .equal _ operand => by simp only [foldCondition, Condition.map, rebuildOperand operand]
  | .raw _ => rfl
  | .query q => by simp only [foldCondition, Condition.map, rebuild q]
  | .group _ children => by simp only [foldCondition, Condition.map, rebuildConditions children]

theorem rebuildConditions :
    ∀ xs : List (Condition Statement), Condition.mapEach π (foldConditions f xs) = xs
  | [] => rfl
  | x :: xs => by
    simp only [foldConditions, Condition.mapEach, rebuildCondition x, rebuildConditions xs]

theorem rebuildFilter : ∀ x : Filter Statement, (foldFilter f x).map π = x
  | ⟨condition, _⟩ => by simp only [foldFilter, Filter.map, rebuildCondition condition]

theorem rebuildFilters : ∀ xs : List (Filter Statement), (foldFilters f xs).map (·.map π) = xs
  | [] => rfl
  | x :: xs => by simp only [foldFilters, List.map_cons, rebuildFilter x, rebuildFilters xs]

theorem rebuildOn :
    ∀ on? : Option (Condition Statement), (foldOn f on?).map (·.map π) = on?
  | none => rfl
  | some on => by simp only [foldOn, Option.map_some, rebuildCondition on]

theorem rebuildJoin : ∀ x : Join Statement, (foldJoin f x).map π = x
  | ⟨_, tables, on?⟩ => by
    simp only [foldJoin, Join.map, rebuildSelectables tables, rebuildOn on?]

theorem rebuildJoins : ∀ xs : List (Join Statement), (foldJoins f xs).map (·.map π) = xs
  | [] => rfl
  | x :: xs => by simp only [foldJoins, List.map_cons, rebuildJoin x, rebuildJoins xs]

end

end Rebuild

/-- **Induction over statements.**  The clauses in the step are over the subqueries that have the
property already. -/
theorem induct {P : Statement → Prop}
    (step : ∀ c : Clauses {s // P s}, P (of (c.map Subtype.val))) (s : Statement) : P s := by
  -- The fold gives a statement with its proof, and `rebuild` says which statement that is.
  let f : Clauses {s // P s} → {s // P s} := fun c => ⟨of (c.map Subtype.val), step c⟩
  have h : (fold f s).val = s := rebuild (π := Subtype.val) (fun _ => rfl) s
  exact h ▸ (fold f s).property

end Statement

end PolySql
