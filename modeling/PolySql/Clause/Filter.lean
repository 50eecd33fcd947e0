import PolySql.Clause.Condition

/-!
# Filters

`WHERE` and `HAVING` are lists of filters: conditions with the conjunction that joins each to the
ones before it.  Filters that render nothing are left out together with their conjunctions.
-/

namespace PolySql

/-- A condition of a `WHERE` or `HAVING`, joined to those before it. -/
structure Filter (σ : Type) where
  condition : Condition σ
  conjunction : Conjunction

namespace Filter

variable {σ τ : Type}

def map (f : σ → τ) (filter : Filter σ) : Filter τ := ⟨filter.condition.map f, filter.conjunction⟩

/-- The filter's conjunction and text, if there is anything to write. -/
def render (d : Dialect) (filter : Filter Rendering) :
    Except CompileError (Option (Conjunction × Rendered)) :=
  return (← filter.condition.render d).map (filter.conjunction, ·)

/-- One of several rendered conditions: a single term. -/
def unit (rendered : Rendered) : Template :=
  if rendered.terms > 1 then rendered.template.parens else rendered.template

/-- A rendered condition after its conjunction. -/
def continuation (d : Dialect) (entry : Conjunction × Rendered) : Rendering := do
  let keyword ← d.keyword entry.1
  return s!" {keyword} " ++ unit entry.2

/-- Rendered conditions one after the other. -/
def joinRendered (d : Dialect) : List (Conjunction × Rendered) → Rendering
  | [] => .ok []
  | [entry] => .ok entry.2.template
  | first :: rest => return unit first.2 ++ (← rest.mapM (continuation d)).flatten

/-- The text of the filters, if there is any. -/
def listTemplate? (d : Dialect) (filters : List (Filter Rendering)) :
    Except CompileError (Option Template) := do
  let rendered ← filters.mapM (·.render d)
  let template ← joinRendered d (rendered.filterMap id)
  return if template.isBlank then none else some template

/-! ### In writing -/

def write (d : Dialect) (filter : Filter (Writing String)) :
    Writing (Option (Conjunction × Written)) :=
  return (← filter.condition.write d).map (filter.conjunction, ·)

/-- One of several written conditions: a single term. -/
def writtenUnit (written : Written) : String :=
  if written.terms > 1 then "(" ++ written.text ++ ")" else written.text

/-- A written condition after its conjunction. -/
def writtenContinuation (d : Dialect) (entry : Conjunction × Written) :
    Except CompileError String := do
  let keyword ← d.keyword entry.1
  return s!" {keyword} " ++ writtenUnit entry.2

/-- Written conditions one after the other. -/
def joinWritten (d : Dialect) : List (Conjunction × Written) → Except CompileError String
  | [] => .ok ""
  | [entry] => .ok entry.2.text
  | first :: rest =>
    return writtenUnit first.2 ++ String.join (← rest.mapM (writtenContinuation d))

def writeList? (d : Dialect) (filters : List (Filter (Writing String))) :
    Writing (Option String) := do
  let written ← filters.mapM (·.write d)
  let text ← MonadExcept.ofExcept (joinWritten d (written.filterMap id))
  return if text.isEmpty then none else some text

end Filter

end PolySql
