import PolySql.DataType.Naming
import PolySql.Literal
import PolySql.Schema.Basic
import PolySql.Token

/-!
# Definitions of columns, keys and tables

The parts of schema statements as rows of tokens.  A column definition fails on a default without a
literal and on an identity that the dialect allows in a key only.
-/

namespace PolySql

/-- Rows of tokens, or why there is none. -/
abbrev Phrase := Except CompileError (List Token)

/-- The row of tokens after a space, if there is one. -/
def spaced : List Token → List Token
  | [] => []
  | tokens => .space :: tokens

def ColumnDefault.tokens (d : Dialect) : ColumnDefault → Phrase
  | value v => return [.raw (← d.renderValue v .quoted)]
  | raw sql => .ok [.raw sql]

namespace Column

/-- `NULL` or `NOT NULL`. -/
def nullTokens : Option Bool → List Token
  | none => []
  | some true => [.null]
  | some false => [.not, .null]

/-- `DEFAULT` and the default. -/
def defaultTokens (d : Dialect) : Option ColumnDefault → Phrase
  | none => .ok []
  | some default => return .default :: (← default.tokens d)

/-- Identity and primary key, in the order that the dialect wants. -/
def keyTokens (d : Dialect) (c : Column) : Phrase :=
  let identity := if c.autoIncrement then [Token.raw d.identity] else []
  let key := if c.primaryKey then [Token.primary, Token.key] else []
  if d.identityAfterKey then
    if c.autoIncrement && !c.primaryKey then .error (.unsupported .identityOffKey d)
    else .ok (key ++ identity)
  else .ok (identity ++ key)

/-- The definition of a column. -/
def tokens (d : Dialect) (c : Column) : Phrase := do
  let default ← defaultTokens d c.default?
  let key ← c.keyTokens d
  let unique := if c.unique then [Token.unique] else []
  return Token.words ([.identifier c.name, .raw (d.typeName c.type)] ++ nullTokens c.nullable? ++
    default ++ key ++ unique)

end Column

def ReferentialAction.token : ReferentialAction → Token
  | noAction => .noAction
  | restrict => .restrict
  | cascade => .cascade
  | setNull => .setNull
  | setDefault => .setDefault

namespace ForeignKey

/-- What is done on an event, if that is said. -/
def actionTokens (event : Token) : Option ReferentialAction → List Token
  | none => []
  | some action => [.on, event, action.token]

/-- The definition of a foreign key. -/
def tokens (k : ForeignKey) : List Token :=
  Token.words ([.constraint, .identifier k.name, .foreign, .key, .names k.columns, .references,
    .name k.table, .names k.tableColumns] ++ actionTokens .delete k.onDelete? ++
    actionTokens .update k.onUpdate?)

end ForeignKey

namespace Table

/-- The entries between the parentheses: columns, then the primary key, then foreign keys. -/
def entries (d : Dialect) (t : Table) : Except CompileError (List (List Token)) := do
  let columns ← t.columns.mapM (·.tokens d)
  let key := if t.primaryKey.isEmpty then []
    else [Token.words [.primary, .key, .names t.primaryKey]]
  return columns ++ key ++ t.foreignKeys.map (·.tokens)

/-- The creation of a table. -/
def tokens (d : Dialect) (t : Table) : Phrase :=
  if t.columns.isEmpty then .error (.emptyList (.tableColumns t.name))
  else do
    let entries ← t.entries d
    let condition := if t.ifNotExists then [Token.if, Token.not, Token.exists] else []
    return Token.words ([.create, .table] ++ condition ++ [.name t.name]) ++ [.space, .openParen] ++
      [Token.comma, Token.space].intercalate entries ++ [.closeParen]

end Table

/-- The creation of an index. -/
def Index.tokens (i : Index) : Phrase :=
  if i.columns.isEmpty then .error (.emptyList (.indexColumns i.name))
  else
    let unique := if i.unique then [Token.unique] else []
    .ok (Token.words ([.create] ++ unique ++
      [.index, .identifier i.name, .on, .name i.table, .names i.columns]))

end PolySql
