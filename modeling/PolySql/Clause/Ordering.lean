import PolySql.Template
import PolySql.Token

/-!
# Order and row limit

The clauses at the end of a statement.  They bind nothing and cannot fail.
-/

namespace PolySql

inductive Direction where
  | ascending
  | descending
  deriving DecidableEq, Repr

/-- An entry of `ORDER BY`. -/
inductive SortKey where
  | column (name : String) (direction? : Option Direction)
  | raw (sql : String)
  deriving DecidableEq, Repr

/-- How many rows are kept, and how many are skipped before them. -/
structure Limit where
  count : UInt64
  offset? : Option UInt64
  deriving DecidableEq, Repr

def SortKey.text (d : Dialect) : SortKey → String
  | column name none => d.quoteName name
  | column name (some .ascending) => d.quoteName name ++ " ASC"
  | column name (some .descending) => d.quoteName name ++ " DESC"
  | raw sql => sql

/-- `ORDER BY` after a space.  Without keys it is there only where a limit needs it, and then it
orders by nothing. -/
def orderText (d : Dialect) (keys : List SortKey) (limited : Bool) : String :=
  if keys.isEmpty then
    if d.limitNeedsOrder && limited then " ORDER BY (SELECT NULL)" else ""
  else " ORDER BY " ++ ", ".intercalate (keys.map (·.text d))

/-- The row limit after a space, if there is one. -/
def limitText (d : Dialect) : Option Limit → String
  | none => ""
  | some limit => " " ++ Token.render d (d.pagination (some limit.count) limit.offset?)

/-- The end of a statement. -/
def tailTemplate (d : Dialect) (keys : List SortKey) (limit? : Option Limit) : Template :=
  orderText d keys limit?.isSome ++ limitText d limit?

end PolySql
