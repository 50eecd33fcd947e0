import PolySql.Clause.Assignment
import PolySql.Clause.Filter
import PolySql.Clause.Insertion
import PolySql.Clause.Join
import PolySql.Clause.Ordering

/-!
# Statements

A statement is its clauses, and its subqueries are statements again.  `Clauses σ` are the clauses of
one statement over whatever stands for its subqueries; `Statement` closes the circle.
-/

namespace PolySql

/-- What stands right after the verb. -/
structure Options where
  distinct : Bool
  /-- Keywords that are written as they are. -/
  modifiers : List String
  deriving DecidableEq, Repr

def Options.none : Options := ⟨false, []⟩

/-- What a statement does. -/
inductive Body (σ : Type) where
  | raw (sql : String)
  | select (tables columns : List (Selectable σ)) (options : Options)
  | insert (table : String) (rows : Insertion σ) (options : Options)
  | update (tables : List (Selectable σ)) (assignments : List (Assignment σ)) (options : Options)
  | delete (tables : List (Selectable σ)) (options : Options)

/-- The clauses of one statement. -/
structure Clauses (σ : Type) where
  body : Body σ
  joins : List (Join σ)
  /-- The conditions of `WHERE`. -/
  filters : List (Filter σ)
  groups : List (Item σ)
  havings : List (Filter σ)
  orders : List SortKey
  limit? : Option Limit

/-- A statement. -/
inductive Statement where
  | of (clauses : Clauses Statement)

variable {σ τ : Type}

def Body.map (f : σ → τ) : Body σ → Body τ
  | .raw sql => .raw sql
  | .select tables columns options =>
    .select (tables.map (·.map f)) (columns.map (·.map f)) options
  | .insert table rows options => .insert table (rows.map f) options
  | .update tables assignments options =>
    .update (tables.map (·.map f)) (assignments.map (·.map f)) options
  | .delete tables options => .delete (tables.map (·.map f)) options

def Body.kind : Body σ → StatementKind
  | .raw _ => .raw
  | .select .. => .select
  | .insert .. => .insert
  | .update .. => .update
  | .delete .. => .delete

namespace Clauses

/-- The clauses with something else in the places of the subqueries. -/
def map (f : σ → τ) (c : Clauses σ) : Clauses τ where
  body := c.body.map f
  joins := c.joins.map (·.map f)
  filters := c.filters.map (·.map f)
  groups := c.groups.map (·.map f)
  havings := c.havings.map (·.map f)
  orders := c.orders
  limit? := c.limit?

/-- A body without further clauses. -/
def ofBody (body : Body σ) : Clauses σ := ⟨body, [], [], [], [], [], none⟩

end Clauses

namespace Statement

def clauses : Statement → Clauses Statement
  | of c => c

/-- A statement that is only begun. -/
def start (body : Body Statement) : Statement := of (.ofBody body)

def kind (s : Statement) : StatementKind := s.clauses.body.kind

instance : Inhabited Statement := ⟨start (.raw "")⟩

end Statement

end PolySql
