import PolySql.Operator

/-!
# The words of operators

**A text is an operator if its words are the operator's** (`Operator.ofText?_eq_some_iff`), whatever
the case of the letters and the white space around and between the words.
-/

namespace PolySql

/-- What is in no list and not in the separator is not in the joined list. -/
theorem not_mem_intercalate {α : Type} {a : α} {separator : List α} (hs : a ∉ separator)
    (xss : List (List α)) : a ∉ separator.intercalate xss ↔ ∀ xs ∈ xss, a ∉ xs := by
  induction xss with
  | nil => simp
  | cons xs xss ih =>
    cases xss with
    | nil => simp
    | cons ys xss => simp_all [List.intercalate_cons_cons]

namespace Text

/-! ### Words -/

/-- Characters, but no white space. -/
def IsWord (cs : List Char) : Prop := cs ≠ [] ∧ ∀ c ∈ cs, isWhitespace c = false

theorem not_of_mem_splitOnP {α : Type} {p : α → Bool} {xs : List α} :
    ∀ run ∈ xs.splitOnP p, ∀ x ∈ run, p x = false := by
  induction xs with
  | nil => simp [List.splitOnP_nil]
  | cons x xs ih =>
    obtain ⟨first, rest, runs⟩ := List.exists_cons_of_ne_nil (List.splitOnP_ne_nil p xs)
    rw [List.splitOnP_cons_eq_if_modifyHead, runs]
    rw [runs] at ih
    cases hx : p x with
    | true => simpa using ih
    | false => simpa [hx] using ih

theorem isWord_of_mem_wordChars {cs word : List Char} (h : word ∈ wordChars cs) : IsWord word := by
  obtain ⟨run, full⟩ := List.mem_filter.1 h
  exact ⟨by simpa using full, not_of_mem_splitOnP word run⟩

theorem wordChars_of_isWord {cs : List Char} (h : IsWord cs) : wordChars cs = [cs] := by
  simp [wordChars, List.splitOnP_eq_singleton h.2, h.1]

theorem wordChars_append_cons {c : Char} (h : isWhitespace c = true) (cs cs' : List Char) :
    wordChars (cs ++ c :: cs') = wordChars cs ++ wordChars cs' := by
  rw [wordChars, List.splitOnP_append_cons _ _ h, List.filter_append, wordChars, wordChars]

/-- Words with spaces between them are taken apart again. -/
theorem wordChars_intercalate {ws : List (List Char)} (h : ∀ w ∈ ws, IsWord w) :
    wordChars ([' '].intercalate ws) = ws := by
  induction ws with
  | nil => rfl
  | cons w ws ih =>
    have first := wordChars_of_isWord (h w (by simp))
    have rest := ih fun v hv => h v (by simp [hv])
    cases ws with
    | nil => rw [List.intercalate_singleton, first]
    | cons v ws =>
      rw [List.intercalate_cons_cons, List.append_assoc, List.singleton_append,
        wordChars_append_cons (by decide), first, rest, List.singleton_append]

theorem words_intercalate {ws : List String} (h : ∀ w ∈ ws, IsWord w.toList) :
    words (" ".intercalate ws) = ws := by
  have chars : (" ".intercalate ws).toList = [' '].intercalate (ws.map String.toList) := by
    simp [String.toList_intercalate]
  rw [words, chars, wordChars_intercalate (by simpa using h)]
  simp

/-! ### Letter case -/

/-- The visible characters of ASCII are no white space. -/
theorem isWhitespace_of_visible {c : Char} (h : 33 ≤ c.toNat ∧ c.toNat ≤ 126) :
    isWhitespace c = false := by
  rw [Bool.eq_false_iff, isWhitespace, ne_eq, CharRanges.contains_iff]
  simp only [whitespaceRanges, List.mem_cons, List.not_mem_nil, or_false, exists_eq_or_imp,
    exists_eq_left]
  omega

theorem isWhitespace_toUpper (c : Char) : isWhitespace c.toUpper = isWhitespace c := by
  by_cases h : 'a'.val ≤ c.val ∧ c.val ≤ 'z'.val
  · have lower : 97 ≤ c.toNat ∧ c.toNat ≤ 122 := h
    have upper : c.toUpper.toNat = c.toNat - 32 := by
      delta Char.toUpper
      rw [dif_pos h]
      -- The distance from `a` to `A` is taken modulo the size of the word.
      have wrapped : (c.val + ('A'.val - 'a'.val)).toNat = (c.toNat + 4294967264) % 2 ^ 32 :=
        UInt32.toNat_add _ _
      exact wrapped.trans (by omega)
    rw [isWhitespace_of_visible (by omega), isWhitespace_of_visible (by omega)]
  · have same : c.toUpper = c := dif_neg h
    rw [same]

theorem IsWord.toUpper {cs : List Char} (h : IsWord cs) : IsWord (cs.map Char.toUpper) := by
  refine ⟨by simpa using h.1, fun c hc => ?_⟩
  obtain ⟨e, he, rfl⟩ := List.mem_map.1 hc
  rw [isWhitespace_toUpper]
  exact h.2 e he

theorem map_toUpper_intercalate (ws : List (List Char)) :
    ([' '].intercalate ws).map Char.toUpper = [' '].intercalate (ws.map (·.map Char.toUpper)) := by
  have space : ' '.toUpper = ' ' := by decide
  induction ws with
  | nil => rfl
  | cons w ws ih =>
    cases ws with
    | nil => simp
    | cons v ws => simpa [List.intercalate_cons_cons, space] using ih

theorem upper_squeeze (s : String) : upper (squeeze s) = " ".intercalate ((words s).map upper) := by
  rw [← String.toList_inj]
  simp [squeeze, words, String.toList_intercalate, map_toUpper_intercalate, Function.comp_def]

/-- Neither the spaces nor the letter case of a text changes where its words are. -/
theorem words_upper_squeeze (s : String) : words (upper (squeeze s)) = (words s).map upper := by
  rw [upper_squeeze]
  refine words_intercalate fun w hw => ?_
  simp only [words, List.map_map, List.mem_map] at hw
  obtain ⟨v, hv, rfl⟩ := hw
  simpa using (isWord_of_mem_wordChars hv).toUpper

end Text

namespace Operator

/-- The words of the text are the operator's, in any letter case. -/
def Names (operator : Operator) (text : String) : Prop :=
  (Text.words text).map Text.upper = Text.words operator.symbol

instance (operator : Operator) (text : String) : Decidable (operator.Names text) :=
  inferInstanceAs (Decidable (_ = _))

theorem intercalate_words_symbol (operator : Operator) :
    " ".intercalate (Text.words operator.symbol) = operator.symbol := by
  cases operator <;> rfl

theorem upper_squeeze_eq_iff (operator : Operator) (text : String) :
    Text.upper (Text.squeeze text) = operator.symbol ↔ operator.Names text := by
  constructor
  · intro h
    rw [Names, ← Text.words_upper_squeeze, h]
  · intro h
    rw [Text.upper_squeeze, h, intercalate_words_symbol]

/-- **The operator of a text is the one that its words name.** -/
theorem ofText?_eq_some_iff {operator : Operator} {text : String} :
    ofText? text = some operator ↔ operator.Names text := by
  rw [← upper_squeeze_eq_iff]
  constructor
  · intro h
    unfold ofText? at h
    split at h <;> cases h <;> assumption
  · intro h
    rw [ofText?, h]
    cases operator <;> rfl

end Operator

end PolySql
