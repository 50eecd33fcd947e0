/-!
# Unsigned decimal literals

`readUnsigned?` reads an optional plus sign and one or more ASCII digits, leading zeros allowed, and
refuses a value above the given limit.  It reads back every number that the digits of the number
were written for (`readUnsigned?_toDigits`).
-/

namespace PolySql.Decimal

/-- The digits without the one plus sign that may stand before them. -/
def dropPlus : List Char → List Char
  | '+' :: digits => digits
  | digits => digits

/-- The value of an unsigned decimal literal of at most `limit`. -/
def readUnsigned? (limit : Nat) (cs : List Char) : Option Nat :=
  let digits := dropPlus cs
  if digits ≠ [] ∧ digits.all Char.isDigit = true ∧ Nat.ofDigitChars 10 digits 0 ≤ limit then
    some (Nat.ofDigitChars 10 digits 0)
  else
    none

theorem dropPlus_of_all_isDigit {cs : List Char} (h : cs.all Char.isDigit = true) :
    dropPlus cs = cs := by
  unfold dropPlus
  split
  · exact absurd h (by simp)
  · rfl

/-- The digits of a number in range read as that number. -/
theorem readUnsigned?_toDigits {limit n : Nat} (h : n ≤ limit) :
    readUnsigned? limit (Nat.toDigits 10 n) = some n := by
  have hall : (Nat.toDigits 10 n).all Char.isDigit = true := by
    simp only [List.all_eq_true]
    intro c hc
    exact Nat.isDigit_of_mem_toDigits (by decide) (by decide) hc
  have hne : Nat.toDigits 10 n ≠ [] := Nat.toDigits_ne_nil
  simp [readUnsigned?, dropPlus_of_all_isDigit hall, hne, hall,
    Nat.ofDigitChars_toDigits (b := 10) (by decide) (by decide), h]

end PolySql.Decimal
