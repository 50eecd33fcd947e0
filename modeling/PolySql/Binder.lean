import PolySql.Params

/-!
# Binders

A binder takes the values of one statement and answers with placeholders.  A positional binder
answers `?`; a named one makes up the names `p1`, `p2`, … and answers with the marker character and
the name.  A batch is bound value by value (`bindAll_eq`).
-/

namespace PolySql

/-- The values bound so far, and what a new placeholder looks like. -/
inductive Binder where
  | positional (values : List Value)
  | named (marker : Char) (values : OrderedMap String Value)
  deriving DecidableEq, Repr

namespace Binder

/-- A binder without values. -/
def fresh (mode : ParamMode) (marker : Char) : Binder :=
  match mode with
  | .positional => positional []
  | .named => named marker .empty

/-- Number of values bound. -/
def size : Binder → Nat
  | positional values => values.length
  | named _ values => values.size

def isEmpty (b : Binder) : Bool := b.size == 0

/-- The parameters bound so far. -/
def params : Binder → Params
  | positional values => .positional values
  | named _ values => .named values

/-- The name of the `n`-th value. -/
def nameAt (n : Nat) : String := "p" ++ toString n

/-- Bind one value: its placeholder, and the binder that holds it. -/
def bind (b : Binder) (value : Value) : String × Binder :=
  match b with
  | positional values => ("?", positional (values ++ [value]))
  | named marker values =>
    let name := nameAt (values.size + 1)
    (String.singleton marker ++ name, named marker (values.insert name value))

/-- Bind several values one after the other. -/
def bindEach (b : Binder) : List Value → List String × Binder
  | [] => ([], b)
  | value :: rest =>
    let (placeholder, b) := b.bind value
    let (placeholders, b) := b.bindEach rest
    (placeholder :: placeholders, b)

/-- Bind several values at once. -/
def bindAll (b : Binder) (batch : List Value) : List String × Binder :=
  match b with
  | positional values => (List.replicate batch.length "?", positional (values ++ batch))
  | named _ _ => b.bindEach batch

/-- A batch is bound value by value. -/
theorem bindAll_eq (b : Binder) (batch : List Value) : b.bindAll batch = b.bindEach batch := by
  cases b with
  | named marker values => rfl
  | positional values =>
    induction batch generalizing values with
    | nil => simp [bindAll, bindEach]
    | cons value rest ih =>
      have ih := ih (values ++ [value])
      simp only [bindAll, bindEach, bind] at ih ⊢
      simp [← ih, List.replicate_succ]

end Binder

end PolySql
