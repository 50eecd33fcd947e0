import PolySql.Decimal.Shortest

/-!
# Texts of binary64 numbers

A finite number is written with the digits of its shortest decimal, the point at its place where the
place is near the digits and an exponent otherwise.  A `Layout` says which places are near and how
an exponent is marked.
-/

namespace PolySql.Decimal

/-- How the digits of a decimal are laid out. -/
structure Layout where
  /-- The places of the point, counted from the first digit, that are written without an exponent
  are those above `leastPlace`. -/
  leastPlace : Int
  /-- The greatest place of the point that is written without an exponent. -/
  greatestPlace : Int
  /-- What stands between the exponent mark and an exponent that is not negative. -/
  plus : String

/-- `text` without the zeros at its end. -/
def dropTrailingZeros (digits : List Char) : List Char :=
  (digits.reverse.dropWhile (· = '0')).reverse

/-- The digits that count, and the place of the point counted from the first of them. -/
def Scientific.placed (s : Scientific) : List Char × Int :=
  let digits := Nat.toDigits 10 s.digits
  (dropTrailingZeros digits, s.exponent + digits.length)

/-- The digits with an exponent after them. -/
def Layout.scientific (layout : Layout) (digits : List Char) (place : Int) : List Char :=
  let mantissa := match digits with
    | [] => []
    | [digit] => [digit]
    | digit :: rest => digit :: '.' :: rest
  let exponent := place - 1
  let sign := if exponent < 0 then "-" else layout.plus
  mantissa ++ ['e'] ++ sign.toList ++ Nat.toDigits 10 exponent.natAbs

/-- The digits with the point at its place, and a digit on either side of it. -/
def positional (digits : List Char) (place : Int) : List Char :=
  if place ≤ 0 then "0.".toList ++ List.replicate (-place).toNat '0' ++ digits
  else if digits.length ≤ place.toNat then
    digits ++ List.replicate (place.toNat - digits.length) '0' ++ ".0".toList
  else digits.take place.toNat ++ ['.'] ++ digits.drop place.toNat

/-- The text of a magnitude. -/
def Layout.magnitudeText (layout : Layout) (b : Binary) : List Char :=
  if b.significand = 0 then "0.0".toList
  else
    let (digits, place) := b.shortest.placed
    if layout.leastPlace < place ∧ place ≤ layout.greatestPlace then positional digits place
    else layout.scientific digits place

/-- The text of a finite number. -/
def Layout.text? (layout : Layout) (x : Float) : Option String :=
  if isFinite x then
    some (String.ofList ((if isNegative x then ['-'] else []) ++ layout.magnitudeText (magnitude x)))
  else
    none

end PolySql.Decimal
