import PolySql.Statement.Clause
import PolySql.Statement.Compile

/-!
# Building statements

A builder holds a stack of statements under construction.  Starting a statement puts it on top,
clauses go to the statement on top, and taking a statement off, as a subquery or compiled, uncovers
the one below.  The builder that a call leaves is there whether the call fails or not.
-/

namespace PolySql

/-- SQL text with its parameters. -/
structure Compiled where
  sql : String
  params : Params
  deriving DecidableEq, Repr

/-- Statements under construction, the inmost first, for one dialect and one kind of placeholder. -/
structure Builder where
  dialect : Dialect
  mode : ParamMode
  /-- What stands before the name in a named placeholder. -/
  marker : Char
  stack : List Statement

namespace Builder

/-- A builder without statements. -/
def new (dialect : Dialect) (mode : ParamMode) : Builder := ⟨dialect, mode, ':', []⟩

def withMarker (b : Builder) (marker : Char) : Builder := { b with marker }

/-- Number of statements under construction. -/
def depth (b : Builder) : Nat := b.stack.length

def isIdle (b : Builder) : Bool := b.stack.isEmpty

/-! ### Starting statements -/

/-- Put a statement on the stack that does what `body` says. -/
def start (b : Builder) (body : Body Statement) : Builder :=
  { b with stack := .start body :: b.stack }

def raw (b : Builder) (sql : String) : Builder := b.start (.raw sql)

def select (b : Builder) (tables columns : List (Selectable Statement))
    (options : Options := .none) : Builder :=
  b.start (.select tables columns options)

def insert (b : Builder) (table : String) (rows : Insertion Statement)
    (options : Options := .none) : Builder :=
  b.start (.insert table rows options)

def update (b : Builder) (tables : List (Selectable Statement))
    (assignments : List (Assignment Statement)) (options : Options := .none) : Builder :=
  b.start (.update tables assignments options)

def delete (b : Builder) (tables : List (Selectable Statement)) (options : Options := .none) :
    Builder :=
  b.start (.delete tables options)

/-! ### Adding clauses -/

/-- Change the statement on top, if it takes this kind of clause.  What the change leaves of the
statement is on top afterwards, also when the change fails. -/
def onTop (clause : ClauseKind) (change : Changing Statement Unit) : Changing Builder Unit := do
  let b ← get
  match b.stack with
  | [] => throw .noStatement
  | top :: below =>
    MonadExcept.ofExcept (Statement.allow b.dialect top.kind clause)
    let (result, top) := change.on top
    modify fun b => { b with stack := top :: below }
    MonadExcept.ofExcept result

/-- Add to the statement on top.  Nothing can be added to any statement, but there has to be one. -/
def add (addition : Addition) : Changing Builder Unit := do
  if addition.isVacant then
    if (← get).isIdle then throw .noStatement
  else onTop addition.clause (Statement.add addition)

def join (tables : List (Selectable Statement)) (on? : Option (Condition Statement))
    (type : JoinType := .inner) : Changing Builder Unit :=
  add (.join ⟨type, tables, on?⟩)

def filter (condition? : Option (Condition Statement)) (conjunction : Conjunction := .and) :
    Changing Builder Unit :=
  add (.filter (condition?.map (⟨·, conjunction⟩)))

def group (items : List (Item Statement)) : Changing Builder Unit := add (.group items)

def having (condition? : Option (Condition Statement)) (conjunction : Conjunction := .and) :
    Changing Builder Unit :=
  add (.having (condition?.map (⟨·, conjunction⟩)))

def order (keys : List SortKey) : Changing Builder Unit := add (.order keys)

/-- Keep `count?` rows.  Without a count nothing is set, whatever the offset. -/
def limit (count? offset? : Option UInt64) : Changing Builder Unit :=
  add (.limit (count?.map (⟨·, offset?⟩)))

/-! ### Taking statements off -/

/-- Take the statement on top as it is. -/
def subquery : Changing Builder Statement := do
  match (← get).stack with
  | [] => throw .noStatement
  | top :: below =>
    modify fun b => { b with stack := below }
    return top

/-- Compile a statement with a binder of its own. -/
def compile (b : Builder) (s : Statement) : Except CompileError Compiled :=
  (s.compile b.dialect (.fresh b.mode b.marker)).map fun (sql, binder) => ⟨sql, binder.params⟩

/-- Take the statement on top and compile it.  Its parameters take the place of those at hand. -/
def buildInto : Changing (Builder × Params) String := do
  let (b, _) ← get
  match b.stack with
  | [] => throw .noStatement
  | top :: below =>
    modify fun (b, params) => ({ b with stack := below }, params)
    let compiled ← MonadExcept.ofExcept (b.compile top)
    modify fun (b, _) => (b, compiled.params)
    return compiled.sql

/-- Take the statement on top and compile it. -/
def build : Changing Builder Compiled := ExceptT.mk fun b =>
  let (result, b, params) := buildInto.on (b, .empty)
  (result.map (⟨·, params⟩), b)

end Builder

end PolySql
