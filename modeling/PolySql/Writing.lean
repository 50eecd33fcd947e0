import PolySql.Error
import PolySql.Template

/-!
# Writing

A statement is written from the front to the back with one binder at hand.  A value goes into the
binder at the moment its placeholder is written, and what was bound before an error stays bound.

A clause is laid out twice: as a template, which has no binder, and in writing.  Filling the
template gives what is written (`Statement.compile_eq` in the end).
-/

namespace PolySql

/-- Something that is written with a binder at hand, or the error that ends the writing. -/
abbrev Writing : Type → Type := ExceptT CompileError (StateM Binder)

namespace Writing

variable {α : Type}

/-- What is written with `b` at hand, and the binder afterwards. -/
def result (w : Writing α) (b : Binder) : Except CompileError (α × Binder) :=
  match w.run.run b with
  | (.ok a, b) => .ok (a, b)
  | (.error e, _) => .error e

/-- Bind a value and write its placeholder. -/
def place (value : Value) : Writing String :=
  ExceptT.lift (modifyGet (·.bind value))

/-- Bind several values at once and write their placeholders. -/
def placeAll (batch : List Value) : Writing (List String) :=
  ExceptT.lift (modifyGet (·.bindAll batch))

end Writing

end PolySql
