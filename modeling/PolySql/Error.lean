import PolySql.Dialect
import PolySql.Value

/-!
# Errors

What can be wrong with a statement, by cause, and the one place where causes become words
(`CompileError.message`).
-/

namespace PolySql

/-- Kinds of statements. -/
inductive StatementKind where
  | raw
  | select
  | insert
  | update
  | delete
  deriving DecidableEq, Repr

def StatementKind.name : StatementKind → String
  | raw => "raw"
  | select => "select"
  | insert => "insert"
  | update => "update"
  | delete => "delete"

/-- Kinds of clauses that are added to a statement; `filter` is its `WHERE`. -/
inductive ClauseKind where
  | join
  | filter
  | group
  | having
  | order
  | limit
  deriving DecidableEq, Repr

def ClauseKind.name : ClauseKind → String
  | join => "join"
  | filter => "where"
  | group => "group"
  | having => "having"
  | order => "order"
  | limit => "limit"

/-- Lists that may not be empty. -/
inductive RequiredList where
  | tables
  | assignments
  | insertColumn (column : String)
  | tableColumns (table : String)
  | indexColumns (index : String)
  deriving DecidableEq, Repr

def RequiredList.name : RequiredList → String
  | tables => "table"
  | assignments => "set"
  | insertColumn column => s!"insert column {column}"
  | tableColumns table => s!"columns of table {table}"
  | indexColumns index => s!"columns of index {index}"

/-- What is wrong with an operator or its operands. -/
inductive OperatorFault where
  | unknown
  | noOperand
  | notOneOperand (count : Nat)
  | notTwoOperands (count : Nat)
  deriving DecidableEq, Repr

def OperatorFault.reason : OperatorFault → String
  | unknown => "unknown operator"
  | noOperand => "expects at least 1 operand"
  | notOneOperand count => s!"expects 1 operand, got {count}"
  | notTwoOperands count => s!"expects 2 operands, got {count}"

/-- Things that some dialects cannot say. -/
inductive Feature where
  | xorConjunction
  | updateJoin
  | dmlOrderLimit
  | identityOffKey
  | createIfNotExists
  | changeColumn
  | changeColumnDefault
  | addForeignKey
  | dropForeignKey
  deriving DecidableEq, Repr

def Feature.description : Feature → String
  | xorConjunction => "XOR conjunction"
  | updateJoin => "UPDATE with JOIN"
  | dmlOrderLimit => "ORDER BY or LIMIT on UPDATE/DELETE"
  | identityOffKey => "auto-increment on a non primary key column"
  | createIfNotExists => "CREATE TABLE IF NOT EXISTS"
  | changeColumn => "changing a column"
  | changeColumnDefault => "changing a column default with ALTER COLUMN"
  | addForeignKey => "adding a foreign key to an existing table"
  | dropForeignKey => "dropping a foreign key"

/-- Why a statement cannot be built or rendered. -/
inductive CompileError where
  | noStatement
  | duplicateLimit
  | invalidOperator (operator : String) (fault : OperatorFault)
  | unsupportedEngine (name : String)
  | missingVariable (name : String)
  | unknownLiteralForm (name : String)
  | clauseNotAllowed (clause : ClauseKind) (kind : StatementKind)
  | distinctNotAllowed (kind : StatementKind)
  | emptyList (list : RequiredList)
  | invalidJoinType (name : String)
  | invalidConjunction (name : String)
  | nonFiniteFloat (x : Float)
  | unsupported (feature : Feature) (dialect : Dialect)
  deriving DecidableEq, Repr

/-- The wording of an error. -/
def CompileError.message : CompileError → String
  | noStatement => "No statement in progress"
  | duplicateLimit => "Fragment 'limit' may only be set once per statement"
  | invalidOperator operator fault => s!"Invalid operator '{operator}': {fault.reason}"
  | unsupportedEngine name => s!"Unsupported database engine: {name}"
  | missingVariable name => s!"Missing environment variable: {name}"
  | unknownLiteralForm name => s!"Unsupported escape format: {name}"
  | clauseNotAllowed clause kind =>
    s!"Fragment '{clause.name}' is not allowed on a {kind.name} statement"
  | distinctNotAllowed kind => s!"Fragment 'distinct' is not allowed on a {kind.name} statement"
  | emptyList list => s!"Fragment '{list.name}' is empty"
  | invalidJoinType name => s!"Invalid join type: {name}"
  | invalidConjunction name => s!"Invalid conjunction: {name}"
  | nonFiniteFloat x =>
    s!"Cannot render non-finite float {Value.specialText x} as a SQL literal"
  | unsupported feature dialect =>
    s!"{feature.description} is not supported by the {dialect.name} dialect"

end PolySql
