/-!
# Shortest decimals of binary64 numbers

The shortest decimal of a finite number is the one with the fewest digits among those that read back
as the number, and of these the nearest to it, a tie going to the even digit.

A positive number is `significand · 2 ^ exponent` (`Binary`).  The decimals that read back as it
fill the interval (`Binary.lower`, `Binary.upper`), whose ends belong to it when the significand is
even.  All sizes are exact: numbers are compared in quarters of the last binary place, over the
common denominator `Binary.denominator`.
-/

namespace PolySql.Decimal

/-- The magnitude `significand · 2 ^ exponent` of a finite binary64 number. -/
structure Binary where
  significand : Nat
  exponent : Int
  deriving DecidableEq, Repr

/-- The decimal `digits · 10 ^ exponent`. -/
structure Scientific where
  digits : Nat
  exponent : Int
  deriving DecidableEq, Repr

/-! ### The fields of a number -/

/-- The eleven exponent bits. -/
def exponentField (x : Float) : Nat := x.toBits.toNat / Nat.pow 2 52 % Nat.pow 2 11

/-- The fifty-two fraction bits. -/
def fractionField (x : Float) : Nat := x.toBits.toNat % Nat.pow 2 52

/-- The sign bit is set. -/
def isNegative (x : Float) : Bool := decide (Nat.pow 2 63 ≤ x.toBits.toNat)

/-- Neither an infinity nor a NaN. -/
def isFinite (x : Float) : Bool := decide (exponentField x ≠ Nat.pow 2 11 - 1)

/-- Not a number. -/
def isNaN (x : Float) : Bool := !isFinite x && decide (fractionField x ≠ 0)

/-- The magnitude of a finite number. -/
def magnitude (x : Float) : Binary :=
  if exponentField x = 0 then ⟨fractionField x, -1074⟩
  else ⟨Nat.pow 2 52 + fractionField x, exponentField x - 1075⟩

namespace Binary

/-! ### The interval that reads back, in quarters of the last binary place -/

/-- The number itself. -/
def center (b : Binary) : Nat := 4 * b.significand

/-- Half a place above the number. -/
def upper (b : Binary) : Nat := 4 * b.significand + 2

/-- Half a place below the number; above a power of two the place below is half as wide. -/
def lower (b : Binary) : Nat :=
  if b.significand = Nat.pow 2 52 ∧ -1074 < b.exponent then 4 * b.significand - 1
  else 4 * b.significand - 2

/-- The factor from quarters of the last binary place to units over `denominator`. -/
def scale (b : Binary) : Nat := Nat.pow 2 (b.exponent - 2).toNat

/-- The common denominator. -/
def denominator (b : Binary) : Nat := Nat.pow 2 (2 - b.exponent).toNat

/-- The numerator of the decimal `digits · 10 ^ e`, and the factor by which its denominator is
larger than `denominator`. -/
def onGrid (b : Binary) (digits : Nat) (e : Int) : Nat × Nat :=
  (digits * Nat.pow 10 e.toNat * b.denominator, Nat.pow 10 (-e).toNat)

/-- The decimal `digits · 10 ^ e` reads back as the number. -/
def readsBack (b : Binary) (digits : Nat) (e : Int) : Bool :=
  let (n, factor) := b.onGrid digits e
  let low := b.lower * b.scale * factor
  let high := b.upper * b.scale * factor
  if b.significand % 2 = 0 then decide (low ≤ n) && decide (n ≤ high)
  else decide (low < n) && decide (n < high)

/-- How far the decimal `digits · 10 ^ e` is from the number, over a denominator fixed by `e`. -/
def distance (b : Binary) (digits : Nat) (e : Int) : Nat :=
  let (n, factor) := b.onGrid digits e
  let c := b.center * b.scale * factor
  (n - c) + (c - n)

/-- The greatest `digits` with `digits · 10 ^ e` not above the number. -/
def floorOnGrid (b : Binary) (e : Int) : Nat :=
  b.center * b.scale * Nat.pow 10 (-e).toNat / (b.denominator * Nat.pow 10 e.toNat)

/-- The position `p` with `10 ^ (p - 1) ≤ number < 10 ^ p`. -/
def magnitudePosition (b : Binary) : Int :=
  let n := b.center * b.scale
  if b.denominator ≤ n then (Nat.toDigits 10 (n / b.denominator)).length
  else 1 - ((Nat.toDigits 10 ((b.denominator - 1) / n)).length : Int)

/-! ### The shortest decimal -/

/-- Of the number's two neighbours on the grid of `10 ^ e`, the nearer that reads back. -/
def nearestOnGrid? (b : Binary) (e : Int) : Option Scientific :=
  let below := b.floorOnGrid e
  let above := below + 1
  match b.readsBack below e, b.readsBack above e with
  | false, false => none
  | true, false => some ⟨below, e⟩
  | false, true => some ⟨above, e⟩
  | true, true =>
    let nearer := compare (b.distance below e) (b.distance above e)
    some ⟨if nearer = .lt ∨ nearer = .eq ∧ below % 2 = 0 then below else above, e⟩

/-- The nearest decimal on the coarsest grid that has one.  Seventeen digits always read back. -/
def shortest (b : Binary) : Scientific :=
  let position := b.magnitudePosition
  let grids := (List.range 17).map fun (n : Nat) => position - ((n : Int) + 1)
  (grids.findSome? b.nearestOnGrid?).getD ⟨b.floorOnGrid (position - 17), position - 17⟩

end Binary

end PolySql.Decimal
