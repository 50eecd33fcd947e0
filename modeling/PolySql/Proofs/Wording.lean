import PolySql.Statement.Fold

/-!
# The wording of a statement

The texts that a statement brings along are names, which are quoted where they are written, and
texts that are written as they are (`Statement.wordings`).  Only those that its renderings write are
counted: no clause that the kind of the statement does not have, and of the values only a text to
the right of `IS`.
-/

namespace PolySql

/-- A text that a statement brings along. -/
inductive Wording where
  /-- Quoted where it is written. -/
  | name (text : String)
  /-- Written as it is. -/
  | verbatim (text : String)
  deriving DecidableEq, Repr

def Wording.text : Wording → String
  | name s | verbatim s => s

/-! ### The wording of clauses -/

def Item.wordings : Item (List Wording) → List Wording
  | .name n => [.name n]
  | .raw sql => [.verbatim sql]
  | .query ws => ws

def Selectable.wordings (s : Selectable (List Wording)) : List Wording :=
  s.item.wordings ++ (s.alias?.map Wording.name).toList

namespace Operand

def wordings : Operand (List Wording) → List Wording
  | value _ => []
  | raw sql => [.verbatim sql]
  | column name => [.name name]
  | query ws => ws

/-- To the right of `IS` a text is written as it is. -/
def unboundWordings : Operand (List Wording) → List Wording
  | value (.text s) => [.verbatim s]
  | other => other.wordings

end Operand

namespace Condition

mutual

def wordings : Condition (List Wording) → List Wording
  | compare operator column operands =>
    .name column ::
      (if Operator.ofText? operator = some .is then operands.flatMap (·.unboundWordings)
      else operands.flatMap (·.wordings))
  | equal column operand => .name column :: operand.wordings
  | raw sql => [.verbatim sql]
  | query ws => ws
  | group _ children => wordingsEach children

def wordingsEach : List (Condition (List Wording)) → List Wording
  | [] => []
  | c :: cs => c.wordings ++ wordingsEach cs

end

end Condition

def Filter.wordings (filter : Filter (List Wording)) : List Wording := filter.condition.wordings

def Join.wordings (join : Join (List Wording)) : List Wording :=
  join.tables.flatMap (·.wordings) ++ join.on?.elim [] (·.wordings)

def Assignment.wordings : Assignment (List Wording) → List Wording
  | set column operand => .name column :: operand.wordings
  | raw sql => [.verbatim sql]

def Insertion.wordings : Insertion (List Wording) → List Wording
  | raw sql => [.verbatim sql]
  | row cells => cells.flatMap fun (column, cell) => .name column :: cell.wordings
  | columns lists =>
    lists.flatMap fun (column, cells) => .name column :: cells.flatMap (·.wordings)
  | query names ws => names.map .name ++ ws

def SortKey.wordings : SortKey → List Wording
  | column name _ => [.name name]
  | raw sql => [.verbatim sql]

def Options.wordings (options : Options) : List Wording := options.modifiers.map .verbatim

def Clauses.wordings (c : Clauses (List Wording)) : List Wording :=
  match c.body with
  | .raw sql => [.verbatim sql]
  | .select tables columns options =>
    options.wordings ++ columns.flatMap (·.wordings) ++ tables.flatMap (·.wordings) ++
      c.joins.flatMap (·.wordings) ++ c.filters.flatMap (·.wordings) ++
      c.groups.flatMap (·.wordings) ++ c.havings.flatMap (·.wordings) ++
      c.orders.flatMap (·.wordings)
  | .insert table rows options => options.wordings ++ .name table :: rows.wordings
  | .update tables assignments options =>
    options.wordings ++ tables.flatMap (·.wordings) ++ c.joins.flatMap (·.wordings) ++
      assignments.flatMap (·.wordings) ++ c.filters.flatMap (·.wordings) ++
      c.orders.flatMap (·.wordings)
  | .delete tables options =>
    options.wordings ++ tables.flatMap (·.wordings) ++ c.filters.flatMap (·.wordings) ++
      c.orders.flatMap (·.wordings)

/-- The texts that a statement brings along. -/
def Statement.wordings (s : Statement) : List Wording := s.fold Clauses.wordings

theorem Statement.wordings_of (c : Clauses Statement) :
    (of c).wordings = (c.map wordings).wordings :=
  fold_of _ _

end PolySql
