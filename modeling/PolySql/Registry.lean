import PolySql.Error
import PolySql.OrderedMap
import PolySql.Text.AsciiCase
import PolySql.Text.Shown
import PolySql.Text.Whitespace

/-!
# Engine names

A registry says which dialect serves an engine, and it would say so of anything else, for it never
looks at what it holds.  A name is registered in lower case, and looked up in lower case and without
the white space around it.
-/

namespace PolySql

/-- What serves each engine, by its name: a dialect where nothing else is said. -/
structure Registry (α : Type := Dialect) where
  engines : OrderedMap String α
  deriving DecidableEq, Repr

namespace Registry

variable {α : Type}

def empty : Registry α := ⟨.empty⟩

/-- The key under which a name is registered. -/
def registeredKey (name : String) : String := Text.lower name

/-- The key with which a name is looked up. -/
def lookupKey (name : String) : String := Text.lower (Text.trim name)

/-- Let something serve an engine, in the place of what served it. -/
def register (r : Registry α) (name : String) (server : α) : Registry α :=
  ⟨r.engines.insert (registeredKey name) server⟩

/-- The engines whose names are known from the start. -/
def builtinEngines : List (String × Dialect) :=
  [("mysql", .mysql), ("mariadb", .mysql),
    ("pgsql", .postgres), ("postgres", .postgres), ("postgresql", .postgres),
    ("sqlite", .sqlite), ("sqlite3", .sqlite),
    ("sqlsrv", .tsql), ("mssql", .tsql), ("tsql", .tsql)]

def builtins : Registry :=
  builtinEngines.foldl (fun r (name, d) => r.register name d) empty

/-- What serves an engine. -/
def get (r : Registry α) (name : String) : Except CompileError α :=
  match r.engines.get? (lookupKey name) with
  | some server => .ok server
  | none => .error (.unsupportedEngine name)

def contains (r : Registry α) (name : String) : Bool := r.engines.contains (lookupKey name)

/-- The registered names in the order of their characters. -/
def names (r : Registry α) : List String := r.engines.keys.mergeSort fun a b => decide (a ≤ b)

/-- The registered names as a message shows them. -/
def shown (r : Registry α) : String :=
  "DialectRegistry \x7b names: [" ++ ", ".intercalate (r.names.map Text.shownText) ++ "] \x7d"

end Registry

end PolySql
