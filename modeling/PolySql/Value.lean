import PolySql.Decimal.Layout

/-!
# Values

The scalars a statement binds as parameters or renders as literals.  A value that came from a
narrower number is widened, never rounded, and a missing one is null.
-/

namespace PolySql

/-- A scalar. -/
inductive Value where
  | null
  | bool (b : Bool)
  | int (n : Int64)
  | float (x : Float)
  | text (s : String)
  deriving DecidableEq, Repr

namespace Value

instance : Inhabited Value := ⟨null⟩

/-! ### Widening -/

def ofInt8 (n : Int8) : Value := int n.toInt64
def ofInt16 (n : Int16) : Value := int n.toInt64
def ofInt32 (n : Int32) : Value := int n.toInt64
def ofUInt8 (n : UInt8) : Value := int (Int64.ofNat n.toNat)
def ofUInt16 (n : UInt16) : Value := int (Int64.ofNat n.toNat)
def ofUInt32 (n : UInt32) : Value := int (Int64.ofNat n.toNat)
def ofFloat32 (x : Float32) : Value := float x.toFloat

/-- A missing value is null. -/
def ofOption {α : Type} (toValue : α → Value) (x? : Option α) : Value := (x?.map toValue).getD null

/-! ### Texts -/

/-- Floats in statements: the point is written in the first sixteen places and in the first four
zeros after it, and an exponent has no plus sign. -/
def floatLayout : Decimal.Layout := ⟨-5, 16, ""⟩

def floatText? (x : Float) : Option String := floatLayout.text? x

/-- The name of a float that is not finite. -/
def specialText (x : Float) : String :=
  if Decimal.isNaN x then "NaN" else if Decimal.isNegative x then "-inf" else "inf"

def isNull : Value → Bool
  | null => true
  | _ => false

/-- The value without quotes, as it stands after `IS`.  A float that is not finite has none. -/
def plainText? : Value → Option String
  | null => some "NULL"
  | bool true => some "TRUE"
  | bool false => some "FALSE"
  | int n => some (toString n.toInt)
  | float x => floatText? x
  | text s => some s

end Value

end PolySql
