/-!
# Dialects

The dialects of SQL that statements are rendered in, and what they differ in where a word or a yes
or no says it.  `ansi` is the common ground: it has no engine of its own and no rule but the
standard's.  Every other dialect is described by its departures from it.
-/

namespace PolySql

/-- A dialect of SQL. -/
inductive Dialect where
  | ansi
  | mysql
  | postgres
  | sqlite
  | tsql
  deriving DecidableEq, Repr

namespace Dialect

instance : Inhabited Dialect := ⟨ansi⟩

def name : Dialect → String
  | ansi => "ansi"
  | mysql => "mysql"
  | postgres => "postgres"
  | sqlite => "sqlite"
  | tsql => "tsql"

def all : List Dialect := [ansi, mysql, postgres, sqlite, tsql]

theorem mem_all (d : Dialect) : d ∈ all := by cases d <;> decide

/-! ### Words -/

/-- A truth value as a literal: a keyword where the dialect has a Boolean type, else a number. -/
def boolText (d : Dialect) (b : Bool) : String :=
  match d with
  | ansi | postgres => if b then "true" else "false"
  | mysql | sqlite | tsql => if b then "1" else "0"

/-- What declares the escape character of a `LIKE` pattern, where none is implied. -/
def likeClause : Dialect → String
  | sqlite => " ESCAPE '\\'"
  | _ => ""

/-- What follows the table of an insertion that names no column. -/
def emptyInsertBody : Dialect → String
  | mysql => "() VALUES ()"
  | _ => "DEFAULT VALUES"

/-- What makes a column number its rows. -/
def identity : Dialect → String
  | ansi | postgres => "GENERATED BY DEFAULT AS IDENTITY"
  | mysql => "AUTO_INCREMENT"
  | sqlite => "AUTOINCREMENT"
  | tsql => "IDENTITY(1, 1)"

/-! ### Abilities -/

/-- `identity` stands after `PRIMARY KEY`, not before it. -/
def identityAfterKey (d : Dialect) : Bool := d = sqlite

/-- A row limit needs an `ORDER BY` before it. -/
def limitNeedsOrder (d : Dialect) : Bool := d = tsql

/-- `UPDATE` and `DELETE` take `ORDER BY` and a row limit. -/
def supportsDmlOrderLimit (d : Dialect) : Bool := d = mysql

/-- `UPDATE` takes joins. -/
def supportsUpdateJoin (d : Dialect) : Bool := d = mysql

end Dialect

end PolySql
