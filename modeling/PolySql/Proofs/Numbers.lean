import PolySql.Value

/-!
# The characters of numbers

Number texts are made of digits, points, signs and the mark of an exponent, whatever the number is
(`numeric_nat`, `numeric_int`, `Decimal.Layout.numeric_text`).  No such character means anything to a
reader of SQL outside quotes.
-/

namespace PolySql

/-- A digit, or what stands between the digits of a number. -/
def isNumeric (c : Char) : Bool := c.isDigit || c ∈ ['.', '-', '+', 'e']

/-- All characters are numeric. -/
def NumericChars (cs : List Char) : Prop := ∀ c ∈ cs, isNumeric c = true

/-- All characters of the text are numeric. -/
def Numeric (s : String) : Prop := NumericChars s.toList

instance (cs : List Char) : Decidable (NumericChars cs) :=
  List.decidableBAll (isNumeric · = true) cs

instance (s : String) : Decidable (Numeric s) := inferInstanceAs (Decidable (NumericChars s.toList))

@[simp] theorem numericChars_cons {c : Char} {cs : List Char} :
    NumericChars (c :: cs) ↔ isNumeric c = true ∧ NumericChars cs :=
  List.forall_mem_cons

@[simp] theorem numericChars_append {cs cs' : List Char} :
    NumericChars (cs ++ cs') ↔ NumericChars cs ∧ NumericChars cs' :=
  List.forall_mem_append

@[simp] theorem numeric_append {s s' : String} : Numeric (s ++ s') ↔ Numeric s ∧ Numeric s' := by
  simp [Numeric]

theorem NumericChars.subset {cs cs' : List Char} (h : NumericChars cs) (sub : cs' ⊆ cs) :
    NumericChars cs' :=
  fun c hc => h c (sub hc)

theorem numericChars_toDigits (n : Nat) : NumericChars (Nat.toDigits 10 n) := by
  intro c hc
  rw [isNumeric, Nat.isDigit_of_mem_toDigits (by decide) (by decide) hc, Bool.true_or]

theorem numeric_nat (n : Nat) : Numeric n.repr := by
  simpa [Numeric, Nat.repr] using numericChars_toDigits n

theorem numeric_int (n : Int) : Numeric (toString n) := by
  cases n with
  | ofNat n => exact numeric_nat n
  | negSucc n => exact numeric_append.2 ⟨by decide, numeric_nat (n + 1)⟩

namespace Decimal

theorem numericChars_placed (s : Scientific) : NumericChars s.placed.1 := by
  refine (numericChars_toDigits s.digits).subset fun c hc => ?_
  simp only [Scientific.placed, dropTrailingZeros, List.mem_reverse] at hc
  simpa using (List.dropWhile_suffix _).subset hc

theorem numericChars_replicate_zero (n : Nat) : NumericChars (List.replicate n '0') := by
  intro c hc
  rw [List.eq_of_mem_replicate hc]
  decide

theorem numericChars_positional {digits : List Char} (h : NumericChars digits) (place : Int) :
    NumericChars (positional digits place) := by
  have left := fun n => h.subset (List.take_subset n digits)
  have right := fun n => h.subset (List.drop_subset n digits)
  unfold positional
  split
  · simp only [numericChars_append]
    exact ⟨⟨by decide, numericChars_replicate_zero _⟩, h⟩
  · split
    · simp only [numericChars_append]
      exact ⟨⟨h, numericChars_replicate_zero _⟩, by decide⟩
    · simp only [numericChars_append]
      exact ⟨⟨left _, by decide⟩, right _⟩

variable {layout : Layout}

theorem Layout.numericChars_scientific (plus : Numeric layout.plus) {digits : List Char}
    (h : NumericChars digits) (place : Int) : NumericChars (layout.scientific digits place) := by
  have sign : NumericChars (if place - 1 < 0 then "-" else layout.plus).toList := by
    split
    · decide
    · exact plus
  have exponent := numericChars_toDigits (place - 1).natAbs
  have mark : NumericChars ['e'] := by decide
  have point : isNumeric '.' = true := by decide
  simp only [scientific, numericChars_append]
  refine ⟨⟨⟨?_, mark⟩, sign⟩, exponent⟩
  rcases digits with _ | ⟨digit, _ | ⟨digit', digits⟩⟩
  · exact h
  · exact h
  · obtain ⟨digit, rest⟩ := numericChars_cons.1 h
    exact numericChars_cons.2 ⟨digit, numericChars_cons.2 ⟨point, rest⟩⟩

theorem Layout.numeric_text (plus : Numeric layout.plus) {x : Float} {text : String}
    (h : layout.text? x = some text) : Numeric text := by
  have magnitude : NumericChars (layout.magnitudeText (magnitude x)) := by
    unfold magnitudeText
    split
    · decide
    · dsimp only
      split
      · exact numericChars_positional (numericChars_placed _) _
      · exact numericChars_scientific plus (numericChars_placed _) _
  unfold text? at h
  split at h
  · obtain rfl := Option.some.inj h
    rw [Numeric, String.toList_ofList, numericChars_append]
    exact ⟨by split <;> decide, magnitude⟩
  · nomatch h

end Decimal

end PolySql
