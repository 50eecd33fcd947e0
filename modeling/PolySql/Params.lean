import PolySql.Json

/-!
# Parameters

The values a compiled statement leaves to be bound, either in the order of their placeholders or
under names.
-/

namespace PolySql

/-- How placeholders refer to values. -/
inductive ParamMode where
  | positional
  | named
  deriving DecidableEq, Repr

def ParamMode.name : ParamMode → String
  | positional => "positional"
  | named => "named"

/-- The mode of exactly this name. -/
def ParamMode.ofName? : String → Option ParamMode
  | "positional" => some positional
  | "named" => some named
  | _ => none

/-- The values of a compiled statement. -/
inductive Params where
  | positional (values : List Value)
  | named (values : OrderedMap String Value)
  deriving DecidableEq, Repr

namespace Params

/-- No parameters; without a statement the order is all there is. -/
def empty : Params := positional []

instance : Inhabited Params := ⟨empty⟩

/-- The values in binding order. -/
def values : Params → List Value
  | positional values => values
  | named values => values.values

def size (p : Params) : Nat := p.values.length

def isEmpty (p : Params) : Bool := p.values.isEmpty

def mode : Params → ParamMode
  | positional _ => .positional
  | named _ => .named

/-- A JSON array, or an object in binding order. -/
def json : Params → String
  | positional values => Json.array values
  | named values => Json.object values

end Params

end PolySql
