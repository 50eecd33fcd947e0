import PolySql.Statement.Fold

/-!
# Rendering statements

`Clauses.template` lays out the clauses of one statement around its rendered subqueries, in text
order; `Statement.template` does it from the inmost subquery up.  `Clauses.write` and
`Statement.write` write the same clauses with a binder at hand, and compiling is writing.
-/

namespace PolySql

/-- The modifiers, each after a space. -/
def Options.modifierText (options : Options) : String :=
  String.join (options.modifiers.map (" " ++ ·))

/-- `DISTINCT` is for selections only. -/
def Options.rejectDistinct (options : Options) (kind : StatementKind) : Except CompileError Unit :=
  if options.distinct then .error (.distinctNotAllowed kind) else .ok ()

namespace Clauses

/-- A clause with its keyword, if it has a text. -/
def withKeyword (keyword : String) : Option Template → Template
  | none => []
  | some text => s!" {keyword} " ++ text

/-- The joins one after the other. -/
def joinsTemplate (d : Dialect) (joins : List (Join Rendering)) : Rendering :=
  return (← joins.mapM (·.template d)).flatten

def groupsTemplate (d : Dialect) (groups : List (Item Rendering)) : Rendering :=
  if groups.isEmpty then .ok [] else return " GROUP BY " ++ (← Item.listTemplate d groups)

def filtersTemplate (d : Dialect) (keyword : String) (filters : List (Filter Rendering)) :
    Rendering :=
  return withKeyword keyword (← Filter.listTemplate? d filters)

/-- The text of the clauses that the kind of the statement has. -/
def template (d : Dialect) (c : Clauses Rendering) : Rendering :=
  let tail := tailTemplate d c.orders c.limit?
  match c.body with
  | .raw sql => .ok sql
  | .select tables columns options => do
    let columns ← selectListTemplate d columns
    let tables ← tableListTemplate d tables
    let joins ← joinsTemplate d c.joins
    let filters ← filtersTemplate d "WHERE" c.filters
    let groups ← groupsTemplate d c.groups
    let havings ← filtersTemplate d "HAVING" c.havings
    let verb := if options.distinct then "SELECT DISTINCT" else "SELECT"
    return verb ++ options.modifierText ++ " " ++ columns ++ " FROM " ++ tables ++ joins ++
      filters ++ groups ++ havings ++ tail
  | .insert table rows options => do
    options.rejectDistinct .insert
    let rows ← rows.template d
    return "INSERT" ++ options.modifierText ++ " INTO " ++ d.quoteName table ++ " " ++ rows
  | .update tables assignments options => do
    options.rejectDistinct .update
    let tables ← tableListTemplate d tables
    let joins ← joinsTemplate d c.joins
    let assignments ← Assignment.listTemplate d assignments
    let filters ← filtersTemplate d "WHERE" c.filters
    return "UPDATE" ++ options.modifierText ++ " " ++ tables ++ joins ++ " SET " ++ assignments ++
      filters ++ tail
  | .delete tables options => do
    options.rejectDistinct .delete
    let tables ← tableListTemplate d tables
    let filters ← filtersTemplate d "WHERE" c.filters
    return "DELETE" ++ options.modifierText ++ " FROM " ++ tables ++ filters ++ tail

/-! ### In writing -/

def writeJoins (d : Dialect) (joins : List (Join (Writing String))) : Writing String :=
  return String.join (← joins.mapM (·.write d))

def writeGroups (d : Dialect) (groups : List (Item (Writing String))) : Writing String :=
  if groups.isEmpty then pure "" else return " GROUP BY " ++ (← Item.writeList d groups)

def writeFilters (d : Dialect) (keyword : String) (filters : List (Filter (Writing String))) :
    Writing String := do
  match ← Filter.writeList? d filters with
  | none => return ""
  | some text => return s!" {keyword} " ++ text

def write (d : Dialect) (c : Clauses (Writing String)) : Writing String :=
  let tail := orderText d c.orders c.limit?.isSome ++ limitText d c.limit?
  match c.body with
  | .raw sql => pure sql
  | .select tables columns options => do
    let columns ← writeSelectList d columns
    let tables ← writeTableList d tables
    let joins ← writeJoins d c.joins
    let filters ← writeFilters d "WHERE" c.filters
    let groups ← writeGroups d c.groups
    let havings ← writeFilters d "HAVING" c.havings
    let verb := if options.distinct then "SELECT DISTINCT" else "SELECT"
    return verb ++ options.modifierText ++ " " ++ columns ++ " FROM " ++ tables ++ joins ++
      filters ++ groups ++ havings ++ tail
  | .insert table rows options => do
    MonadExcept.ofExcept (options.rejectDistinct .insert)
    let rows ← rows.write d
    return "INSERT" ++ options.modifierText ++ " INTO " ++ d.quoteName table ++ " " ++ rows
  | .update tables assignments options => do
    MonadExcept.ofExcept (options.rejectDistinct .update)
    let tables ← writeTableList d tables
    let joins ← writeJoins d c.joins
    let assignments ← Assignment.writeList d assignments
    let filters ← writeFilters d "WHERE" c.filters
    return "UPDATE" ++ options.modifierText ++ " " ++ tables ++ joins ++ " SET " ++ assignments ++
      filters ++ tail
  | .delete tables options => do
    MonadExcept.ofExcept (options.rejectDistinct .delete)
    let tables ← writeTableList d tables
    let filters ← writeFilters d "WHERE" c.filters
    return "DELETE" ++ options.modifierText ++ " FROM " ++ tables ++ filters ++ tail

end Clauses

namespace Statement

/-- The rendered statement with slots for its values. -/
def template (d : Dialect) (s : Statement) : Rendering := s.fold (Clauses.template d)

/-- The statement in writing: what is written for its subqueries is put among its clauses. -/
def write (d : Dialect) (s : Statement) : Writing String := s.fold (Clauses.write d)

/-- The text of the statement, and the binder with its values. -/
def compile (d : Dialect) (b : Binder) (s : Statement) : Except CompileError (String × Binder) :=
  (s.write d).result b

/-- The template of a statement, from the templates of its subqueries. -/
theorem template_of (d : Dialect) (c : Clauses Statement) :
    (of c).template d = (c.map (template d)).template d :=
  fold_of _ _

theorem write_of (d : Dialect) (c : Clauses Statement) :
    (of c).write d = (c.map (write d)).write d :=
  fold_of _ _

end Statement

end PolySql
