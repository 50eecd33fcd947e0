import PolySql.Binder

/-!
# Templates

A rendered statement before its values are bound: pieces of text and slots for values, in text
order.  It does not depend on how placeholders look; `Template.fill` puts them in, left to right.
-/

namespace PolySql

/-- A piece of a rendered statement. -/
inductive Piece where
  | text (text : String)
  | slot (value : Value)
  deriving DecidableEq, Repr

/-- A rendered statement with slots for its values. -/
abbrev Template := List Piece

namespace Template

instance : Coe String Template := ⟨fun s => [.text s]⟩

/-- The template between parentheses. -/
def parens (t : Template) : Template := "(" ++ t ++ ")"

/-- The templates with `separator` between neighbours. -/
def join (separator : String) (ts : List Template) : Template := [.text separator].intercalate ts

/-- The values of the slots, in text order. -/
def values (t : Template) : List Value :=
  t.filterMap fun
    | .text _ => none
    | .slot value => some value

/-- No text and no slot: nothing will be written. -/
def isBlank (t : Template) : Bool :=
  t.all fun
    | .text s => s.isEmpty
    | .slot _ => false

/-- The text with placeholders in the slots, and the binder with the values. -/
def fill (b : Binder) : Template → String × Binder
  | [] => ("", b)
  | .text s :: rest =>
    let (text, b) := fill b rest
    (s ++ text, b)
  | .slot value :: rest =>
    let (placeholder, b) := b.bind value
    let (text, b) := fill b rest
    (placeholder ++ text, b)

@[simp] theorem fill_nil (b : Binder) : fill b [] = ("", b) := rfl

@[simp] theorem fill_append (b : Binder) (t u : Template) :
    fill b (t ++ u) =
      ((fill b t).1 ++ (fill (fill b t).2 u).1, (fill (fill b t).2 u).2) := by
  induction t generalizing b with
  | nil => simp
  | cons piece rest ih => cases piece <;> simp [fill, ih, String.append_assoc]

@[simp] theorem values_append (t u : Template) : (t ++ u).values = t.values ++ u.values := by
  simp [values]

end Template

end PolySql
