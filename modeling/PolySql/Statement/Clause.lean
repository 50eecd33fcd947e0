import PolySql.Changing
import PolySql.Statement.Basic

/-!
# Adding clauses to a statement

Clauses are added to a statement one call at a time (`Addition`).  A kind of clause is allowed on
some kinds of statements and in some dialects (`Statement.allows`); lists grow at their ends, and a
limit is set at most once.
-/

namespace PolySql

/-- What one call adds to a statement. -/
inductive Addition where
  | join (join : Join Statement)
  | filter (filter? : Option (Filter Statement))
  | group (items : List (Item Statement))
  | having (filter? : Option (Filter Statement))
  | order (keys : List SortKey)
  | limit (limit? : Option Limit)

namespace Addition

def clause : Addition → ClauseKind
  | join _ => .join
  | filter _ => .filter
  | group _ => .group
  | having _ => .having
  | order _ => .order
  | limit _ => .limit

/-- There is nothing to add. -/
def isVacant : Addition → Bool
  | join _ => false
  | filter filter? | having filter? => filter?.isNone
  | group items => items.isEmpty
  | order keys => keys.isEmpty
  | limit limit? => limit?.isNone

end Addition

/-- The clauses with the addition at the end of its list. -/
def Clauses.add (c : Clauses Statement) : Addition → Clauses Statement
  | .join join => { c with joins := c.joins ++ [join] }
  | .filter filter? => { c with filters := c.filters ++ filter?.toList }
  | .group items => { c with groups := c.groups ++ items }
  | .having filter? => { c with havings := c.havings ++ filter?.toList }
  | .order keys => { c with orders := c.orders ++ keys }
  | .limit limit? => { c with limit? := limit?.or c.limit? }

namespace Statement

/-- Whether a statement takes a kind of clause. -/
def allow (d : Dialect) (kind : StatementKind) (clause : ClauseKind) : Except CompileError Unit :=
  match kind, clause with
  | .select, _ => .ok ()
  | .update, .filter | .delete, .filter => .ok ()
  | .update, .join =>
    if d.supportsUpdateJoin then .ok () else .error (.unsupported .updateJoin d)
  | .update, .order | .update, .limit | .delete, .order | .delete, .limit =>
    if d.supportsDmlOrderLimit then .ok () else .error (.unsupported .dmlOrderLimit d)
  | kind, clause => .error (.clauseNotAllowed clause kind)

/-- Put the addition at the end of its list.  A limit is set at most once. -/
def add (addition : Addition) : Changing Statement Unit := do
  match addition with
  | .limit _ => if (← get).clauses.limit?.isSome then throw .duplicateLimit
  | _ => pure ()
  modify fun s => of (s.clauses.add addition)

end Statement

end PolySql
