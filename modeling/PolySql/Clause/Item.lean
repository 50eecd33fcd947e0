import PolySql.Identifier
import PolySql.Writing

/-!
# Items of select and table lists

What stands in a select list, a table list or a `GROUP BY`.  The clause types are given over a type
`σ` that stands where a subquery does: it is `Statement` in a statement, `Rendering` while one is
laid out as a template and `Writing String` while one is written.
-/

namespace PolySql

/-- A rendered statement or clause, or why there is none. -/
abbrev Rendering := Except CompileError Template

/-- A column, table or expression. -/
inductive Item (σ : Type) where
  /-- A name, dotted or not. -/
  | name (name : String)
  | raw (sql : String)
  | query (query : σ)
  deriving DecidableEq, Repr

/-- An entry of a select or table list, with an alias or without. -/
structure Selectable (σ : Type) where
  item : Item σ
  alias? : Option String
  deriving DecidableEq, Repr

variable {σ τ : Type}

def Item.map (f : σ → τ) : Item σ → Item τ
  | .name n => .name n
  | .raw sql => .raw sql
  | .query q => .query (f q)

def Selectable.map (f : σ → τ) (s : Selectable σ) : Selectable τ := ⟨s.item.map f, s.alias?⟩

/-- An entry without an alias. -/
def Selectable.plain (item : Item σ) : Selectable σ := ⟨item, none⟩

/-- The entries of a map from aliases to items. -/
def Selectable.ofAliases (items : OrderedMap String (Item σ)) : List (Selectable σ) :=
  items.entries.map fun (label, item) => ⟨item, some label⟩

def Item.template (d : Dialect) : Item Rendering → Rendering
  | .name n => .ok (d.quoteName n)
  | .raw sql => .ok sql
  | .query q => q.map Template.parens

def Selectable.template (d : Dialect) (s : Selectable Rendering) : Rendering := do
  let item ← s.item.template d
  match s.alias? with
  | none => pure item
  | some label => pure (item ++ " AS " ++ d.quoteIdentifier label)

/-- Items with commas between them. -/
def Item.listTemplate (d : Dialect) (items : List (Item Rendering)) : Rendering :=
  return Template.join ", " (← items.mapM (·.template d))

/-- Entries with commas between them. -/
def Selectable.listTemplate (d : Dialect) (entries : List (Selectable Rendering)) : Rendering :=
  return Template.join ", " (← entries.mapM (·.template d))

/-- A select list.  Without entries it selects every column. -/
def selectListTemplate (d : Dialect) (columns : List (Selectable Rendering)) : Rendering :=
  if columns.isEmpty then .ok "*" else Selectable.listTemplate d columns

/-- A table list.  It needs an entry. -/
def tableListTemplate (d : Dialect) (tables : List (Selectable Rendering)) : Rendering :=
  if tables.isEmpty then .error (.emptyList .tables) else Selectable.listTemplate d tables

/-! ### In writing -/

def Item.write (d : Dialect) : Item (Writing String) → Writing String
  | .name n => pure (d.quoteName n)
  | .raw sql => pure sql
  | .query q => return "(" ++ (← q) ++ ")"

def Selectable.write (d : Dialect) (s : Selectable (Writing String)) : Writing String := do
  let item ← s.item.write d
  match s.alias? with
  | none => pure item
  | some label => pure (item ++ " AS " ++ d.quoteIdentifier label)

def Item.writeList (d : Dialect) (items : List (Item (Writing String))) : Writing String :=
  return ", ".intercalate (← items.mapM (·.write d))

def Selectable.writeList (d : Dialect) (entries : List (Selectable (Writing String))) :
    Writing String :=
  return ", ".intercalate (← entries.mapM (·.write d))

def writeSelectList (d : Dialect) (columns : List (Selectable (Writing String))) :
    Writing String :=
  if columns.isEmpty then pure "*" else Selectable.writeList d columns

def writeTableList (d : Dialect) (tables : List (Selectable (Writing String))) : Writing String :=
  if tables.isEmpty then throw (.emptyList .tables) else Selectable.writeList d tables

end PolySql
