/-!
# TOML documents

A document is a table of tables and scalars.  A table remembers how it came to be, because that
decides what may still be added to it (`enter?`, `openTable?`):

* a table that a header or an inline value defines is complete and is not defined again;
* a table that dotted keys make grows by further dotted keys;
* a table that only stands on the way to a header may still be defined by one.
-/

namespace PolySql.Toml

/-- A value that is no table. -/
inductive Scalar where
  | string (s : String)
  | integer (n : Int)
  | boolean (b : Bool)
  deriving DecidableEq, Repr

/-- How a table came to be. -/
inductive Origin where
  /-- On the way to a header. -/
  | passed
  /-- By a header of its own. -/
  | header
  /-- By dotted keys. -/
  | dotted
  /-- As an inline value. -/
  | inlined
  deriving DecidableEq, Repr

/-- A value. -/
inductive Node where
  | scalar (scalar : Scalar)
  | table (origin : Origin) (entries : List (String × Node))

/-- The entries of a table, in the order in which their keys were first seen. -/
abbrev Entries := List (String × Node)

/-- The entries with a new node under a key that is there. -/
def replace (key : String) (node : Node) (entries : Entries) : Entries :=
  entries.map fun entry => if entry.1 = key then (key, node) else entry

/-- Enter a node under a dotted key: the keys `path` lead to the table, `key` is its key there. -/
def enter? (path : List String) (key : String) (node : Node) (entries : Entries) :
    Option Entries :=
  match path with
  | [] => if (entries.lookup key).isSome then none else some (entries ++ [(key, node)])
  | first :: rest =>
    match entries.lookup first with
    | none => do
      let inner ← enter? rest key node []
      return entries ++ [(first, .table .dotted inner)]
    | some (.table .dotted inner) => do
      let inner ← enter? rest key node inner
      return replace first (.table .dotted inner) entries
    | some (.table .passed inner) =>
      if rest.isEmpty then none
      else do
        let inner ← enter? rest key node inner
        return replace first (.table .passed inner) entries
    | _ => none

/-- Define the table of a header: the keys `path` lead to it, `key` is its own. -/
def openTable? (path : List String) (key : String) (entries : Entries) : Option Entries :=
  match path with
  | [] =>
    match entries.lookup key with
    | none => some (entries ++ [(key, .table .header [])])
    | some (.table .passed inner) => some (replace key (.table .header inner) entries)
    | _ => none
  | first :: rest =>
    match entries.lookup first with
    | none => do
      let inner ← openTable? rest key []
      return entries ++ [(first, .table .passed inner)]
    | some (.table .inlined _) => none
    | some (.table origin inner) => do
      let inner ← openTable? rest key inner
      return replace first (.table origin inner) entries
    | some (.scalar _) => none

/-- Change the table to which the keys lead. -/
def modifyAt? (path : List String) (f : Entries → Option Entries) (entries : Entries) :
    Option Entries :=
  match path with
  | [] => f entries
  | first :: rest =>
    match entries.lookup first with
    | some (.table origin inner) => do
      let inner ← modifyAt? rest f inner
      return replace first (.table origin inner) entries
    | _ => none

end PolySql.Toml
