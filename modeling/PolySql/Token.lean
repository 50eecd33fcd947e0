import PolySql.Identifier

/-!
# Tokens

The words, marks and names that schema statements and row limits are written with.  A token has one
text in each dialect; a row of tokens is written without anything between them, so spaces are tokens
too (`words` puts them in).
-/

namespace PolySql

/-- A piece of SQL text. -/
inductive Token where
  -- Queries
  | select
  | distinct
  | «from»
  | «where»
  | having
  | groupBy
  | orderBy
  | on
  | join
  | inner
  | left
  | right
  | full
  | outer
  | cross
  | limit
  | offset
  | fetch
  | next
  | rows
  | only
  | not
  | null
  -- Changes of rows
  | insert
  | into
  | update
  | set
  | delete
  -- Changes of the schema
  | create
  | alter
  | drop
  | table
  | column
  | index
  | constraint
  | primary
  | key
  | foreign
  | references
  | unique
  | default
  | cascade
  | restrict
  | noAction
  | setNull
  | setDefault
  | «if»
  | «exists»
  | rename
  | «to»
  -- Marks
  | comma
  | openParen
  | closeParen
  | space
  /-- A name that is quoted as one. -/
  | identifier (name : String)
  /-- A table or column name, quoted segment by segment. -/
  | name (name : String)
  /-- Names in parentheses. -/
  | names (names : List String)
  | count (n : UInt64)
  /-- Text that is written as it is. -/
  | raw (sql : String)

namespace Token

/-- The text of a token. -/
def text (d : Dialect) : Token → String
  | select => "SELECT"
  | distinct => "DISTINCT"
  | «from» => "FROM"
  | «where» => "WHERE"
  | having => "HAVING"
  | groupBy => "GROUP BY"
  | orderBy => "ORDER BY"
  | on => "ON"
  | join => "JOIN"
  | inner => "INNER"
  | left => "LEFT"
  | right => "RIGHT"
  | full => "FULL"
  | outer => "OUTER"
  | cross => "CROSS"
  | limit => "LIMIT"
  | offset => "OFFSET"
  | fetch => "FETCH"
  | next => "NEXT"
  | rows => "ROWS"
  | only => "ONLY"
  | not => "NOT"
  | null => "NULL"
  | insert => "INSERT"
  | into => "INTO"
  | update => "UPDATE"
  | set => "SET"
  | delete => "DELETE"
  | create => "CREATE"
  | alter => "ALTER"
  | drop => "DROP"
  | table => "TABLE"
  | column => "COLUMN"
  | index => "INDEX"
  | constraint => "CONSTRAINT"
  | primary => "PRIMARY"
  | key => "KEY"
  | foreign => "FOREIGN"
  | references => "REFERENCES"
  | unique => "UNIQUE"
  | default => "DEFAULT"
  | cascade => "CASCADE"
  | restrict => "RESTRICT"
  | noAction => "NO ACTION"
  | setNull => "SET NULL"
  | setDefault => "SET DEFAULT"
  | «if» => "IF"
  | «exists» => "EXISTS"
  | rename => "RENAME"
  | «to» => "TO"
  | comma => ","
  | openParen => "("
  | closeParen => ")"
  | space => " "
  | identifier n => d.quoteIdentifier n
  | name n => d.quoteName n
  | names ns => "(" ++ ", ".intercalate (ns.map d.quoteName) ++ ")"
  | count k => toString k.toNat
  | raw sql => sql

/-- The text of a row of tokens. -/
def render (d : Dialect) (tokens : List Token) : String := String.join (tokens.map (text d))

/-- The tokens with a space between neighbours. -/
def words (tokens : List Token) : List Token := tokens.intersperse space

end Token

/-- The clause that keeps a number of rows and skips others before them. -/
def Dialect.pagination (d : Dialect) (count? offset? : Option UInt64) : List Token :=
  match d with
  | tsql =>
    let fetched := match count? with
      | some count => [.fetch, .next, .count count, .rows, .only]
      | none => []
    Token.words ([.offset, .count (offset?.getD 0), .rows] ++ fetched)
  | _ =>
    let counted := match count? with
      | some count => [.limit, .count count]
      | none => []
    let skipped := match offset? with
      | some offset => [.offset, .count offset]
      | none => []
    Token.words (counted ++ skipped)

end PolySql
