import PolySql.Schema.Definition

/-!
# Schema changes

Every change has a form that most dialects share; MySQL, SQLite and T-SQL have forms of their own
for some, and SQLite and T-SQL cannot make all of them.
-/

namespace PolySql.SchemaChange

/-- `ALTER TABLE` with what is done to it. -/
def alterTable (table : String) (action : List Token) : List Token :=
  Token.words [.alter, .table, .name table] ++ spaced action

/-- The renaming procedure of T-SQL, with the path of the object and its new name as literals. -/
def renameObject (d : Dialect) (path newName : String) : List Token :=
  Token.words [.raw "EXEC", .raw "sp_rename", .raw (d.literal path)] ++
    [.comma, .space, .raw (d.literal newName)]

def renameTableTokens (d : Dialect) (table newName : String) : List Token :=
  match d with
  | .mysql => Token.words [.rename, .table, .name table, .«to», .name newName]
  | .tsql => renameObject d table newName
  | _ => alterTable table (Token.words [.rename, .«to», .name newName])

def dropTableTokens (table : String) (ifExists : Bool) : List Token :=
  let condition := if ifExists then [Token.if, Token.exists] else []
  Token.words ([.drop, .table] ++ condition ++ [.name table])

/-- T-SQL leaves out the word `COLUMN`. -/
def addColumnTokens (d : Dialect) (table : String) (c : Column) : Phrase := do
  let definition ← c.tokens d
  let verb := if d = .tsql then [Token.raw "ADD"] else [Token.raw "ADD", Token.column]
  return alterTable table (Token.words verb ++ spaced definition)

def renameColumnTokens (d : Dialect) (table column newName : String) : List Token :=
  match d with
  | .tsql =>
    renameObject d (table ++ "." ++ column) newName ++ [.comma, .space, .raw "'COLUMN'"]
  | _ =>
    alterTable table
      (Token.words [.rename, .column, .identifier column, .«to», .identifier newName])

/-- `ALTER COLUMN` with what is done to it. -/
def alterColumn (column : String) (action : List Token) : List Token :=
  Token.words ([.alter, .column, .identifier column] ++ action)

/-- The type, whether null is allowed and the default are changed one by one. -/
def alterColumnSteps (d : Dialect) (c : Column) : Except CompileError (List (List Token)) := do
  let type := [alterColumn c.name [.raw "TYPE", .raw (d.typeName c.type)]]
  let null := match c.nullable? with
    | none => []
    | some true => [alterColumn c.name [.drop, .not, .null]]
    | some false => [alterColumn c.name [.set, .not, .null]]
  let default ← match c.default? with
    | none => pure []
    | some default => pure [alterColumn c.name (.setDefault :: (← default.tokens d))]
  return type ++ null ++ default

/-- MySQL repeats the whole definition; T-SQL changes no default; SQLite changes nothing. -/
def changeColumnTokens (d : Dialect) (table : String) (c : Column) : Phrase :=
  match d with
  | .mysql => do
    let definition ← c.tokens d
    return alterTable table ([.raw "MODIFY", .space, .column] ++ spaced definition)
  | .sqlite => .error (.unsupported .changeColumn d)
  | .tsql =>
    if c.default?.isSome then .error (.unsupported .changeColumnDefault d)
    else .ok (alterTable table
      (alterColumn c.name (.raw (d.typeName c.type) :: Column.nullTokens c.nullable?)))
  | _ => return alterTable table ([Token.comma, Token.space].intercalate (← alterColumnSteps d c))

def dropColumnTokens (table column : String) : List Token :=
  alterTable table (Token.words [.drop, .column, .identifier column])

def addForeignKeyTokens (d : Dialect) (table : String) (k : ForeignKey) : Phrase :=
  if d = .sqlite then .error (.unsupported .addForeignKey d)
  else .ok (alterTable table (.raw "ADD" :: spaced k.tokens))

def dropForeignKeyTokens (d : Dialect) (table name : String) : Phrase :=
  match d with
  | .mysql => .ok (alterTable table (Token.words [.drop, .foreign, .key, .identifier name]))
  | .sqlite => .error (.unsupported .dropForeignKey d)
  | _ => .ok (alterTable table (Token.words [.drop, .constraint, .identifier name]))

/-- MySQL and T-SQL have indexes of one name on several tables. -/
def dropIndexTokens (d : Dialect) (table name : String) : List Token :=
  match d with
  | .mysql | .tsql => Token.words [.drop, .index, .identifier name, .on, .name table]
  | _ => Token.words [.drop, .index, .identifier name]

/-- The change as a row of tokens. -/
def tokens (d : Dialect) : SchemaChange → Phrase
  | createTable table =>
    if d = .tsql && table.ifNotExists then .error (.unsupported .createIfNotExists d)
    else table.tokens d
  | renameTable table newName => .ok (renameTableTokens d table newName)
  | dropTable table ifExists => .ok (dropTableTokens table ifExists)
  | addColumn table column => addColumnTokens d table column
  | renameColumn table column newName => .ok (renameColumnTokens d table column newName)
  | changeColumn table column => changeColumnTokens d table column
  | dropColumn table column => .ok (dropColumnTokens table column)
  | addForeignKey table key => addForeignKeyTokens d table key
  | dropForeignKey table name => dropForeignKeyTokens d table name
  | createIndex index => index.tokens
  | dropIndex table name => .ok (dropIndexTokens d table name)

/-- The text of the change. -/
def sql (d : Dialect) (change : SchemaChange) : Except CompileError String :=
  (change.tokens d).map (Token.render d)

end PolySql.SchemaChange
