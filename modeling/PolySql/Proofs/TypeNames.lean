import Mathlib.Data.List.Infix
import PolySql.DataType.Naming
import PolySql.DataType.Reading
import PolySql.Proofs.Operators

/-!
# Type names read back

The name that a dialect gives a type is reported when its columns are looked up, in any letter case
and with white space around it.  Only the words of the name and the small letters of ASCII matter to
the readers (`DataType.ofText?_congr`, `Dialect.hostType_congr`), and the names with parameters are
read as the types they were written for (`DataType.ofText?_decimalName`,
`Dialect.ofText?_typeName_char`, `Dialect.ofText?_typeName_varchar`).  **A column is held as the
type it was created for** (`Dialect.hostType_of_created`), except a column of bytes in T-SQL.
-/

namespace PolySql

namespace Text

/-! ### Words and white space -/

/-- Nothing but white space. -/
def IsBlank (cs : List Char) : Prop := ∀ c ∈ cs, isWhitespace c = true

-- The instance is the one for lists; over characters another is found, which tries all of them.
instance (cs : List Char) : Decidable (IsBlank cs) := List.decidableBAll _ _

/-- Visible characters of ASCII only. -/
def Visible (cs : List Char) : Prop := ∀ c ∈ cs, 33 ≤ c.toNat ∧ c.toNat ≤ 126

instance (cs : List Char) : Decidable (Visible cs) := List.decidableBAll _ _

variable {blank cs cs' : List Char} {c : Char}

theorem Visible.append (h : Visible cs) (h' : Visible cs') : Visible (cs ++ cs') :=
  List.forall_mem_append.2 ⟨h, h'⟩

theorem Visible.isWord (h : Visible cs) (ne : cs ≠ []) : IsWord cs :=
  ⟨ne, fun c hc => isWhitespace_of_visible (h c hc)⟩

theorem wordChars_blank_append (h : IsBlank blank) (cs : List Char) :
    wordChars (blank ++ cs) = wordChars cs := by
  induction blank with
  | nil => rfl
  | cons c blank ih =>
    obtain ⟨space, rest⟩ := List.forall_mem_cons.1 h
    exact (wordChars_append_cons space [] (blank ++ cs)).trans (ih rest)

theorem wordChars_append_blank (h : IsBlank blank) (cs : List Char) :
    wordChars (cs ++ blank) = wordChars cs := by
  cases blank with
  | nil => rw [List.append_nil]
  | cons c blank =>
    obtain ⟨space, rest⟩ := List.forall_mem_cons.1 h
    have none : wordChars blank = wordChars [] := by simpa using wordChars_blank_append rest []
    rw [wordChars_append_cons space, none]
    exact List.append_nil _

theorem trimStart_blank_append (h : IsBlank blank) (cs : List Char) :
    trimStart (blank ++ cs) = trimStart cs :=
  List.dropWhile_append_of_pos h

theorem trimChars_blank_append (h : IsBlank blank) (cs : List Char) :
    trimChars (blank ++ cs) = trimChars cs := by
  rw [trimChars, trimStart_blank_append h, trimChars]

/-- The words hold all characters but the white space. -/
theorem flatten_wordChars (cs : List Char) :
    (wordChars cs).flatten = cs.filter fun c => !isWhitespace c := by
  rw [wordChars, List.flatten_filter_not_isEmpty]
  induction cs with
  | nil => rfl
  | cons c cs ih =>
    obtain ⟨first, rest, runs⟩ := List.exists_cons_of_ne_nil (List.splitOnP_ne_nil isWhitespace cs)
    rw [runs] at ih
    rw [List.splitOnP_cons_eq_if_modifyHead, runs]
    cases space : isWhitespace c <;> simpa [space] using ih

/-! ### Letter case -/

/-- The capital letters of ASCII are changed, and no others. -/
theorem toLower_cases (c : Char) :
    (65 ≤ c.toNat ∧ c.toNat ≤ 90) ∧ c.toLower.toNat = c.toNat + 32 ∨
      ¬ (65 ≤ c.toNat ∧ c.toNat ≤ 90) ∧ c.toLower = c := by
  by_cases capital : c.val ≥ 'A'.val ∧ c.val ≤ 'Z'.val
  · have bounds : 65 ≤ c.toNat ∧ c.toNat ≤ 90 := capital
    refine .inl ⟨bounds, ?_⟩
    delta Char.toLower
    rw [dif_pos capital]
    have small : (c.val + ('a'.val - 'A'.val)).toNat = (c.toNat + 32) % 2 ^ 32 :=
      UInt32.toNat_add _ _
    exact small.trans (by omega)
  · exact .inr ⟨capital, dif_neg capital⟩

theorem isWhitespace_toLower (c : Char) : isWhitespace c.toLower = isWhitespace c := by
  rcases toLower_cases c with ⟨capital, small⟩ | ⟨-, same⟩
  · rw [isWhitespace_of_visible (by omega), isWhitespace_of_visible (by omega)]
  · rw [same]

theorem Visible.map_toLower (h : Visible cs) : Visible (cs.map Char.toLower) := by
  refine List.forall_mem_map.2 fun c hc => ?_
  have visible := h c hc
  rcases toLower_cases c with ⟨capital, small⟩ | ⟨-, same⟩
  · omega
  · rwa [same]

theorem wordChars_map_toLower (cs : List Char) :
    wordChars (cs.map Char.toLower) = (wordChars cs).map (·.map Char.toLower) := by
  have runs : (cs.map Char.toLower).splitOnP isWhitespace =
      (cs.splitOnP isWhitespace).map (·.map Char.toLower) := by
    induction cs with
    | nil => rfl
    | cons c cs ih =>
      obtain ⟨first, rest, runs⟩ :=
        List.exists_cons_of_ne_nil (List.splitOnP_ne_nil isWhitespace cs)
      rw [List.map_cons, List.splitOnP_cons_eq_if_modifyHead, List.splitOnP_cons_eq_if_modifyHead,
        ih, runs, isWhitespace_toLower]
      split <;> simp
  rw [wordChars, wordChars, runs, List.filter_map]
  simp [Function.comp_def]

/-- The first run has the capital letters of ASCII. -/
theorem image?_letters (c : Char) :
    (CaseRun.image? ⟨0x41, 0x5a, 1, 0x61⟩ c).getD c = c.toLower := by
  unfold CaseRun.image?
  rcases toLower_cases c with ⟨capital, small⟩ | ⟨other, same⟩
  · have code : 0x61 + (c.toNat - 0x41) = c.toLower.toNat := by omega
    rw [if_pos ⟨capital.1, capital.2, Nat.mod_one _⟩, code, Char.ofNat_toNat, Option.getD_some]
  · rw [if_neg fun inside => other ⟨inside.1, inside.2.1⟩, Option.getD_none, same]

/-- The other runs have no characters of ASCII and no white space. -/
theorem image?_eq_none (h : isWhitespace c = true ∨ c.toNat < 128) :
    ∀ run ∈ caseRuns.tail, run.image? c = none := by
  have apart : ∀ run ∈ caseRuns.tail, 128 ≤ run.first ∧
      ∀ range ∈ whitespaceRanges, run.last < range.1 ∨ range.2 < run.first := by
    decide +kernel
  intro run hrun
  obtain ⟨later, outside⟩ := apart run hrun
  refine if_neg fun inside => ?_
  rcases h with space | ascii
  · obtain ⟨range, listed, first, last⟩ := CharRanges.contains_iff.1 space
    have sides := outside range listed
    omega
  · omega

/-- Of white space and the characters of ASCII, the letters of ASCII alone have a lower case. -/
theorem lowercaseChar_eq (h : isWhitespace c = true ∨ c.toNat < 128) :
    lowercaseChar c = [c.toLower] := by
  have exception : c ≠ '\u0130' := by
    rintro rfl
    exact absurd h (by decide)
  have runs : caseRuns = ⟨0x41, 0x5a, 1, 0x61⟩ :: caseRuns.tail := rfl
  have others := List.findSome?_eq_none_iff.2 (image?_eq_none h)
  rw [lowercaseChar, if_neg exception, runs, List.findSome?_cons, others, ← image?_letters]
  cases CaseRun.image? ⟨0x41, 0x5a, 1, 0x61⟩ c <;> rfl

theorem lowercaseChars_eq (h : ∀ c ∈ cs, isWhitespace c = true ∨ c.toNat < 128) :
    lowercaseChars cs = cs.map Char.toLower := by
  induction cs with
  | nil => rfl
  | cons c cs ih =>
    obtain ⟨first, rest⟩ := List.forall_mem_cons.1 h
    rw [lowercaseChars, List.flatMap_cons, lowercaseChar_eq first, ← lowercaseChars, ih rest,
      List.map_cons, List.singleton_append]

/-- The words in lower case. -/
def lowerWords (s : String) : List (List Char) := (wordChars s.toList).map (·.map Char.toLower)

theorem words_lower (s : String) : words (lower s) = (lowerWords s).map String.ofList := by
  rw [words, toList_lower, wordChars_map_toLower, lowerWords]

/-- A text in another letter case and with white space around it has the same words. -/
theorem lowerWords_of_blank {before text after t : String} (hbefore : IsBlank before.toList)
    (hafter : IsBlank after.toList) (h : lower text = lower t) :
    lowerWords (before ++ text ++ after) = lowerWords t := by
  have letters : text.toList.map Char.toLower = t.toList.map Char.toLower := by
    simpa using congrArg String.toList h
  rw [lowerWords, String.toList_append, String.toList_append, wordChars_append_blank hafter,
    wordChars_blank_append hbefore, ← wordChars_map_toLower, letters, wordChars_map_toLower,
    lowerWords]

/-- What has words of ASCII has no other letters. -/
theorem ascii_of_lowerWords {s : String} (h : ∀ word ∈ lowerWords s, Visible word) :
    ∀ c ∈ s.toList, isWhitespace c = true ∨ c.toNat < 128 := by
  intro c hc
  by_cases space : isWhitespace c = true
  · exact .inl space
  have here : c ∈ (wordChars s.toList).flatten := by simp [flatten_wordChars, hc, space]
  obtain ⟨word, listed, hword⟩ := List.mem_flatten.1 here
  have visible := h _ (List.mem_map_of_mem listed) _ (List.mem_map_of_mem hword)
  rcases toLower_cases c with ⟨capital, -⟩ | ⟨-, same⟩
  · exact .inr (by omega)
  · exact .inr (by rw [← same]; omega)

end Text

namespace DataType

open Text (Visible lowerWords)

/-- The types without parameters. -/
def simple : List DataType :=
  [bool, int8, int16, int32, int64, float32, float64, string, date, time, timestamp, timestampTz,
    binary, json, uuid]

/-! ### Words of type names -/

/-- The words of the text are of visible characters of ASCII. -/
def AsciiWords (s : String) : Prop := ∀ word ∈ lowerWords s, Visible word

instance (s : String) : Decidable (AsciiWords s) := List.decidableBAll _ _

/-- The type that words in lower case name. -/
def ofWords? (words : List (List Char)) : Option DataType :=
  ofNormalForm? ([' '].intercalate (words.filter fun word => !isAttribute word))

theorem ofText?_eq {s : String} (h : AsciiWords s) : ofText? s = ofWords? (lowerWords s) := by
  rw [ofText?, normalForm, Text.lowercaseChars_eq (Text.ascii_of_lowerWords h),
    Text.wordChars_map_toLower, ofWords?, lowerWords]

theorem ofText?_congr {s t : String} (h : lowerWords s = lowerWords t) (ht : AsciiWords t) :
    ofText? s = ofText? t := by
  have hs : AsciiWords s := by rwa [AsciiWords, h]
  rw [ofText?_eq hs, ofText?_eq ht, h]

theorem ofWords?_eq {words : List (List Char)} (h : ∀ word ∈ words, isAttribute word = false) :
    ofWords? words = ofNormalForm? ([' '].intercalate words) := by
  rw [ofWords?, List.filter_eq_self.2 fun word hword => by rw [h word hword]; rfl]

/-- The attributes have letters only. -/
theorem isAttribute_eq_false {word : List Char} {c : Char} (hc : c ∈ word)
    (h : c.isAlpha = false) : isAttribute word = false := by
  rw [Bool.eq_false_iff]
  intro named
  simp only [isAttribute, Bool.or_eq_true, decide_eq_true_eq] at named
  have letters : word.all Char.isAlpha = true := by
    rcases named with (rfl | rfl) | rfl <;> decide
  rw [List.all_eq_true.1 letters c hc] at h
  cases h

/-! ### Digits -/

theorem isDigit_of_mem_digits {n : Nat} {c : Char} (h : c ∈ Nat.toDigits 10 n) :
    c.isDigit = true :=
  Nat.isDigit_of_mem_toDigits (by decide) (by decide) h

theorem visible_digits (n : Nat) : Visible (Nat.toDigits 10 n) := by
  intro c hc
  have bounds : 48 ≤ c.toNat ∧ c.toNat ≤ 57 := Char.isDigit_iff_toNat.1 (isDigit_of_mem_digits hc)
  omega

theorem visible_parens {inner : List Char} (h : Visible inner) :
    Visible ('(' :: inner ++ [')']) :=
  Visible.append (List.forall_mem_cons.2 ⟨by decide, h⟩) (by decide)

theorem toLower_of_isDigit {c : Char} (h : c.isDigit = true) : c.toLower = c := by
  refine dif_neg fun capital => ?_
  have bound : c.toNat ≤ 57 := (Char.isDigit_iff_toNat.1 h).2
  have first : 65 ≤ c.toNat := capital.1
  omega

theorem map_toLower_digits (n : Nat) :
    (Nat.toDigits 10 n).map Char.toLower = Nat.toDigits 10 n :=
  (List.map_congr_left fun _ hc => toLower_of_isDigit (isDigit_of_mem_digits hc)).trans
    (List.map_id' _)

/-! ### Parameters -/

theorem trimStart_eq_self {cs : List Char} (h : ∀ c ∈ cs.head?, Text.isWhitespace c = false) :
    Text.trimStart cs = cs := by
  cases cs with
  | nil => rfl
  | cons c cs => exact List.dropWhile_cons_of_neg (by simp [h c rfl])

theorem trimChars_eq_self {cs : List Char} (first : ∀ c ∈ cs.head?, Text.isWhitespace c = false)
    (last : ∀ c ∈ cs.getLast?, Text.isWhitespace c = false) : Text.trimChars cs = cs := by
  rw [Text.trimChars, trimStart_eq_self first, trimStart_eq_self (by simpa using last),
    List.reverse_reverse]

theorem inParens?_append (inner : List Char) : inParens? ('(' :: inner ++ [')']) = some inner := by
  have opening : Text.isWhitespace '(' = false := by decide
  have closing : Text.isWhitespace ')' = false := by decide
  have last : ∀ c ∈ ('(' :: inner ++ [')']).getLast?, Text.isWhitespace c = false := by
    rw [List.getLast?_concat]
    simpa using closing
  have trimmed : Text.trimChars ('(' :: inner ++ [')']) = '(' :: inner ++ [')'] :=
    trimChars_eq_self (by simpa using opening) last
  rw [inParens?, trimmed]
  simp

theorem parameters?_append (name : String) (names : List String) (inner : List Char) :
    parameters? (name :: names) (name.toList ++ ('(' :: inner ++ [')'])) = some inner := by
  have rest : name.toList.isPrefixOf? (name.toList ++ ('(' :: inner ++ [')'])) =
      some ('(' :: inner ++ [')']) := List.isPrefixOf?_eq_some_iff_append_eq.2 rfl
  simp only [parameters?, List.findSome?_cons, rest, Option.bind_some, inParens?_append]

theorem parameters?_cons_of_none {name : String} {cs : List Char}
    (h : name.toList.isPrefixOf? cs = none) (names : List String) :
    parameters? (name :: names) cs = parameters? names cs := by
  simp only [parameters?, List.findSome?_cons, h, Option.bind_none]

theorem trimChars_digits (n : Nat) : Text.trimChars (Nat.toDigits 10 n) = Nat.toDigits 10 n :=
  have visible := ((visible_digits n).isWord Nat.toDigits_ne_nil).2
  trimChars_eq_self (fun c hc => visible c (List.mem_of_mem_head? hc))
    fun c hc => visible c (List.mem_of_mem_getLast? hc)

theorem trimChars_space_cons (cs : List Char) : Text.trimChars (' ' :: cs) = Text.trimChars cs :=
  have space : Text.IsBlank [' '] := by decide
  Text.trimChars_blank_append space cs

theorem decimalOf?_digits (p s : UInt8) :
    decimalOf? (Nat.toDigits 10 p.toNat ++ ',' :: ' ' :: Nat.toDigits 10 s.toNat) =
      some (decimal p s) := by
  have noComma (n : Nat) : ',' ∉ Nat.toDigits 10 n := fun h => by
    simpa using isDigit_of_mem_digits h
  have parts : (Nat.toDigits 10 p.toNat ++ ',' :: ' ' :: Nat.toDigits 10 s.toNat).splitOn ',' =
      [Nat.toDigits 10 p.toNat, ' ' :: Nat.toDigits 10 s.toNat] := by
    have joined : Nat.toDigits 10 p.toNat ++ ',' :: ' ' :: Nat.toDigits 10 s.toNat =
        [','].intercalate [Nat.toDigits 10 p.toNat, ' ' :: Nat.toDigits 10 s.toNat] := by
      simp [List.intercalate_cons_cons]
    rw [joined, List.splitOn_intercalate ',' (by simp [noComma]) (by simp)]
  rw [decimalOf?, parts, List.map_cons, List.map_cons, List.map_nil, trimChars_space_cons,
    trimChars_digits, trimChars_digits]
  simp [Decimal.readUnsigned?_toDigits (Nat.le_of_lt_succ p.toNat_lt),
    Decimal.readUnsigned?_toDigits (Nat.le_of_lt_succ s.toNat_lt)]

theorem lengthOf?_digits (n : UInt16) : lengthOf? (Nat.toDigits 10 n.toNat) = some n := by
  have small : (Nat.toDigits 10 n.toNat).map Char.toLower = Nat.toDigits 10 n.toNat :=
    map_toLower_digits n.toNat
  have number : Nat.toDigits 10 n.toNat ≠ "max".toList := by
    intro h
    have letter : 'm' ∈ Nat.toDigits 10 n.toNat := by rw [h]; decide
    simpa using isDigit_of_mem_digits letter
  rw [lengthOf?, trimChars_digits, small, if_neg number,
    Decimal.readUnsigned?_toDigits (Nat.le_of_lt_succ n.toNat_lt)]
  simp

theorem ofNormalForm?_decimal (inner : List Char) :
    ofNormalForm? ("decimal".toList ++ ('(' :: inner ++ [')'])) = decimalOf? inner := by
  have found : parameters? decimalNames ("decimal".toList ++ ('(' :: inner ++ [')'])) =
      some inner := parameters?_append "decimal" ["numeric"] inner
  rw [ofNormalForm?, found]

theorem ofNormalForm?_varchar {name : String} (h : name ∈ ["varchar", "nvarchar"])
    (inner : List Char) :
    ofNormalForm? (name.toList ++ ('(' :: inner ++ [')'])) = (lengthOf? inner).map varchar := by
  simp only [List.mem_cons, List.not_mem_nil, or_false] at h
  have decimal : parameters? decimalNames (name.toList ++ ('(' :: inner ++ [')'])) = none := by
    rcases h with rfl | rfl <;> rfl
  have found : parameters? varcharNames (name.toList ++ ('(' :: inner ++ [')'])) = some inner := by
    rcases h with rfl | rfl
    · exact parameters?_append "varchar" _ inner
    · rw [varcharNames, parameters?_cons_of_none rfl, parameters?_cons_of_none rfl]
      exact parameters?_append "nvarchar" _ inner
  rw [ofNormalForm?, decimal, found]

theorem ofNormalForm?_char {name : String} (h : name ∈ ["char", "nchar"]) (inner : List Char) :
    ofNormalForm? (name.toList ++ ('(' :: inner ++ [')'])) = (lengthOf? inner).map char := by
  simp only [List.mem_cons, List.not_mem_nil, or_false] at h
  have decimal : parameters? decimalNames (name.toList ++ ('(' :: inner ++ [')'])) = none := by
    rcases h with rfl | rfl <;> rfl
  have varchar : parameters? varcharNames (name.toList ++ ('(' :: inner ++ [')'])) = none := by
    rcases h with rfl | rfl <;> rfl
  have found : parameters? charNames (name.toList ++ ('(' :: inner ++ [')'])) = some inner := by
    rcases h with rfl | rfl
    · exact parameters?_append "char" _ inner
    · rw [charNames, parameters?_cons_of_none rfl, parameters?_cons_of_none rfl]
      exact parameters?_append "nchar" _ inner
  rw [ofNormalForm?, decimal, varchar, found]

/-! ### Names with parameters -/

theorem toList_decimalName (p s : UInt8) :
    (decimalName p s).toList = ("DECIMAL(".toList ++ Nat.toDigits 10 p.toNat ++ [',']) ++
      ' ' :: (Nat.toDigits 10 s.toNat ++ [')']) := by
  simp [decimalName, toString]

theorem lowerWords_decimalName (p s : UInt8) :
    lowerWords (decimalName p s) =
      ["decimal".toList ++ ('(' :: Nat.toDigits 10 p.toNat ++ [',']),
        Nat.toDigits 10 s.toNat ++ [')']] := by
  have first : Text.IsWord ("DECIMAL(".toList ++ Nat.toDigits 10 p.toNat ++ [',']) :=
    ((Visible.append (by decide) (visible_digits p.toNat)).append (by decide)).isWord (by simp)
  have second : Text.IsWord (Nat.toDigits 10 s.toNat ++ [')']) :=
    ((visible_digits s.toNat).append (by decide)).isWord (by simp)
  rw [lowerWords, toList_decimalName, Text.wordChars_append_cons (by decide),
    Text.wordChars_of_isWord first, Text.wordChars_of_isWord second]
  simp [map_toLower_digits]

theorem asciiWords_decimalName (p s : UInt8) : AsciiWords (decimalName p s) := by
  rw [AsciiWords, lowerWords_decimalName, List.forall_mem_cons, List.forall_mem_singleton]
  have precision : Visible ('(' :: Nat.toDigits 10 p.toNat ++ [',']) :=
    Visible.append (List.forall_mem_cons.2 ⟨by decide, visible_digits p.toNat⟩) (by decide)
  exact ⟨Visible.append (by decide) precision, (visible_digits s.toNat).append (by decide)⟩

/-- A decimal type is read from its name. -/
theorem ofText?_decimalName (p s : UInt8) : ofText? (decimalName p s) = some (decimal p s) := by
  have types : ∀ word ∈ lowerWords (decimalName p s), isAttribute word = false := by
    rw [lowerWords_decimalName, List.forall_mem_cons, List.forall_mem_singleton]
    exact ⟨isAttribute_eq_false (c := '(') (by simp) (by decide),
      isAttribute_eq_false (c := ')') (by simp) (by decide)⟩
  have form : [' '].intercalate (lowerWords (decimalName p s)) = "decimal".toList ++
      ('(' :: (Nat.toDigits 10 p.toNat ++ ',' :: ' ' :: Nat.toDigits 10 s.toNat) ++ [')']) := by
    rw [lowerWords_decimalName, List.intercalate_cons_cons, List.intercalate_singleton]
    simp
  rw [ofText?_eq (asciiWords_decimalName p s), ofWords?_eq types, form, ofNormalForm?_decimal,
    decimalOf?_digits]

/-- The text is the name with the length in parentheses. -/
def Limits (name : String) (n : UInt16) (s : String) : Prop :=
  ∃ inner, s.toList = name.toList ++ ('(' :: inner ++ [')']) ∧ Visible inner ∧
    lengthOf? (inner.map Char.toLower) = some n

theorem limits_sizedName (name : String) (n : UInt16) : Limits name n (sizedName name n) := by
  refine ⟨Nat.toDigits 10 n.toNat, ?_, visible_digits n.toNat, ?_⟩
  · simp [sizedName, toString]
  · rw [map_toLower_digits, lengthOf?_digits]

theorem limits_tsqlSizedName (name : String) (n : UInt16) :
    Limits name n (tsqlSizedName name n) := by
  rw [tsqlSizedName]
  split
  · next last =>
    obtain rfl : n = 65535 := UInt16.toNat_inj.1 last
    exact ⟨"MAX".toList, by simp [toString], by decide, by decide⟩
  · exact limits_sizedName name n

namespace Limits

variable {name s : String} {n : UInt16}

/-- Such a text is one word. -/
theorem exists_lowerWords (h : Limits name n s) (visible : Visible name.toList) :
    ∃ inner, lowerWords s = [(Text.lower name).toList ++ ('(' :: inner ++ [')'])] ∧
      Visible inner ∧ lengthOf? inner = some n := by
  obtain ⟨inner, parts, hinner, length⟩ := h
  refine ⟨inner.map Char.toLower, ?_, hinner.map_toLower, length⟩
  have word : Text.IsWord s.toList := by
    rw [parts]
    exact (visible.append (visible_parens hinner)).isWord (by simp)
  rw [lowerWords, Text.wordChars_of_isWord word, parts, Text.toList_lower]
  simp

theorem asciiWords (h : Limits name n s) (visible : Visible name.toList) : AsciiWords s := by
  obtain ⟨inner, words, hinner, -⟩ := h.exists_lowerWords visible
  rw [AsciiWords, words, List.forall_mem_singleton, Text.toList_lower]
  exact visible.map_toLower.append (visible_parens hinner)

/-- A type with a length is read from its name. -/
theorem ofText?_eq (h : Limits name n s) (visible : Visible name.toList)
    {sized : UInt16 → DataType}
    (read : ∀ inner, ofNormalForm? ((Text.lower name).toList ++ ('(' :: inner ++ [')'])) =
      (lengthOf? inner).map sized) :
    ofText? s = some (sized n) := by
  obtain ⟨inner, words, -, length⟩ := h.exists_lowerWords visible
  have types : ∀ word ∈ lowerWords s, isAttribute word = false := by
    rw [words, List.forall_mem_singleton]
    exact isAttribute_eq_false (c := '(') (by simp) (by decide)
  rw [DataType.ofText?_eq (h.asciiWords visible), ofWords?_eq types, words,
    List.intercalate_singleton, read, length, Option.map_some]

/-- Such a text begins as the name does. -/
theorem head?_ne_tinyint (h : Limits name n s) (visible : Visible name.toList)
    (other : (Text.lower name).toList.head? ≠ some 't') :
    (lowerWords s).head? ≠ some "tinyint(1)".toList := by
  obtain ⟨inner, words, -, -⟩ := h.exists_lowerWords visible
  rw [words, List.head?_cons]
  intro same
  have first := congrArg List.head? (Option.some.inj same)
  cases lowered : (Text.lower name).toList with
  | nil => simp [lowered] at first
  | cons c cs =>
    rw [lowered] at first other
    exact other first

end Limits

end DataType

namespace Dialect

open DataType (AsciiWords Limits)
open Text (Visible)

/-! ### Host types -/

/-- The host type of a column that the dialect stores.  T-SQL and SQLite have no type for documents,
SQLite none for truth values. -/
def heldAs : Dialect → DataType → HostType
  | tsql, .json | sqlite, .json => .string
  | sqlite, .bool => .int
  | _, t => t.hostType

/-- The host type of a column whose type has the words, in lower case. -/
def hostTypeOf (d : Dialect) (words : List (List Char)) : HostType :=
  if d = mysql ∧ words.head? = some "tinyint(1)".toList then .bool
  else ((DataType.ofWords? words).map DataType.hostType).getD .string

/-- The names without parameters, read one by one. -/
theorem simple_typeName : ∀ t ∈ DataType.simple, ∀ d ∈ all,
    AsciiWords (d.typeName t) ∧ d.hostTypeOf (Text.lowerWords (d.typeName t)) =
      if d = tsql ∧ t = .binary then .string else d.heldAs t := by
  decide +kernel

theorem limits_typeName_char {d : Dialect} (stored : d ≠ sqlite) (n : UInt16) :
    ∃ name ∈ ["CHAR", "NCHAR"], Limits name n (d.typeName (.char n)) := by
  cases d with
  | sqlite => contradiction
  | tsql => exact ⟨"NCHAR", by decide, DataType.limits_tsqlSizedName "NCHAR" n⟩
  | _ => exact ⟨"CHAR", by decide, DataType.limits_sizedName "CHAR" n⟩

theorem limits_typeName_varchar {d : Dialect} (stored : d ≠ sqlite) (n : UInt16) :
    ∃ name ∈ ["VARCHAR", "NVARCHAR"], Limits name n (d.typeName (.varchar n)) := by
  cases d with
  | sqlite => contradiction
  | tsql => exact ⟨"NVARCHAR", by decide, DataType.limits_tsqlSizedName "NVARCHAR" n⟩
  | _ => exact ⟨"VARCHAR", by decide, DataType.limits_sizedName "VARCHAR" n⟩

/-- A text of a fixed length is read from its name. -/
theorem ofText?_typeName_char {d : Dialect} (stored : d ≠ sqlite) (n : UInt16) :
    DataType.ofText? (d.typeName (.char n)) = some (.char n) := by
  obtain ⟨name, listed, limits⟩ := limits_typeName_char stored n
  have names : ∀ name ∈ ["CHAR", "NCHAR"],
      Visible name.toList ∧ Text.lower name ∈ ["char", "nchar"] := by decide
  exact limits.ofText?_eq (names name listed).1 (DataType.ofNormalForm?_char (names name listed).2)

/-- A text of a greatest length is read from its name. -/
theorem ofText?_typeName_varchar {d : Dialect} (stored : d ≠ sqlite) (n : UInt16) :
    DataType.ofText? (d.typeName (.varchar n)) = some (.varchar n) := by
  obtain ⟨name, listed, limits⟩ := limits_typeName_varchar stored n
  have names : ∀ name ∈ ["VARCHAR", "NVARCHAR"],
      Visible name.toList ∧ Text.lower name ∈ ["varchar", "nvarchar"] := by decide
  exact limits.ofText?_eq (names name listed).1
    (DataType.ofNormalForm?_varchar (names name listed).2)

/-- The name of a text with a length is in ASCII, and does not begin as that of truth values. -/
theorem words_typeName_of_length {d : Dialect} (stored : d ≠ sqlite) {t : DataType} {n : UInt16}
    (h : t = .char n ∨ t = .varchar n) :
    AsciiWords (d.typeName t) ∧
      (Text.lowerWords (d.typeName t)).head? ≠ some "tinyint(1)".toList := by
  obtain ⟨name, listed, limits⟩ : ∃ name ∈ ["CHAR", "NCHAR"] ++ ["VARCHAR", "NVARCHAR"],
      Limits name n (d.typeName t) := by
    rcases h with rfl | rfl
    · obtain ⟨name, listed, limits⟩ := limits_typeName_char stored n
      exact ⟨name, List.mem_append_left _ listed, limits⟩
    · obtain ⟨name, listed, limits⟩ := limits_typeName_varchar stored n
      exact ⟨name, List.mem_append_right _ listed, limits⟩
  have names : ∀ name ∈ ["CHAR", "NCHAR"] ++ ["VARCHAR", "NVARCHAR"],
      Visible name.toList ∧ (Text.lower name).toList.head? ≠ some 't' := by decide
  obtain ⟨visible, other⟩ := names name listed
  exact ⟨limits.asciiWords visible, limits.head?_ne_tinyint visible other⟩

theorem asciiWords_typeName (d : Dialect) (t : DataType) : AsciiWords (d.typeName t) := by
  by_cases engine : d = sqlite
  · subst engine
    cases t with
    | decimal p s => exact show AsciiWords "NUMERIC" by decide
    | char n | varchar n => exact (simple_typeName .string (by decide) sqlite (by decide)).1
    | _ => exact (simple_typeName _ (by simp [DataType.simple]) sqlite (by decide)).1
  · cases t with
    | decimal p s =>
      cases d with
      | sqlite => exact absurd rfl engine
      | _ => exact DataType.asciiWords_decimalName p s
    | char n => exact (words_typeName_of_length engine (.inl rfl)).1
    | varchar n => exact (words_typeName_of_length engine (.inr rfl)).1
    | _ => exact (simple_typeName _ (by simp [DataType.simple]) d d.mem_all).1

theorem hostType_eq (d : Dialect) {s : String} (h : AsciiWords s) :
    d.hostType s = d.hostTypeOf (Text.lowerWords s) := by
  have first : (Text.words (Text.lower s)).head? = some "tinyint(1)" ↔
      (Text.lowerWords s).head? = some "tinyint(1)".toList := by
    rw [Text.words_lower, List.head?_map]
    cases (Text.lowerWords s).head? with
    | none => simp
    | some word =>
      rw [Option.map_some, Option.some_inj, Option.some_inj, ← String.toList_inj,
        String.toList_ofList]
  simp only [hostType, hostTypeOf, first, DataType.ofText?_eq h]

theorem hostType_congr (d : Dialect) {s t : String} (h : Text.lowerWords s = Text.lowerWords t)
    (ht : AsciiWords t) : d.hostType s = d.hostType t := by
  have hs : AsciiWords s := by rwa [AsciiWords, h]
  rw [d.hostType_eq hs, d.hostType_eq ht, h]

/-- A type that is known has its host type, unless it is MySQL's name for truth values. -/
theorem hostType_of_ofText? {d : Dialect} {s : String} {t : DataType} (ascii : AsciiWords s)
    (known : DataType.ofText? s = some t)
    (other : d = mysql → (Text.lowerWords s).head? ≠ some "tinyint(1)".toList) :
    d.hostType s = t.hostType := by
  have notBool : ¬ (d = mysql ∧ (Text.lowerWords s).head? = some "tinyint(1)".toList) :=
    fun h => other h.1 h.2
  rw [d.hostType_eq ascii, hostTypeOf, if_neg notBool, ← DataType.ofText?_eq ascii, known,
    Option.map_some, Option.getD_some]

theorem hostType_decimalName (d : Dialect) (p s : UInt8) :
    d.hostType (decimalName p s) = .string :=
  hostType_of_ofText? (DataType.asciiWords_decimalName p s) (DataType.ofText?_decimalName p s)
    fun _ => by simp [DataType.lowerWords_decimalName]

/-- **What a dialect calls a type is read back as the type that holds it**, except T-SQL's name for
bytes. -/
theorem hostType_typeName (d : Dialect) (t : DataType) :
    d.hostType (d.typeName t) = if d = tsql ∧ t = .binary then .string else d.heldAs t := by
  have ascii := d.asciiWords_typeName t
  by_cases engine : d = sqlite
  · subst engine
    rw [sqlite.hostType_eq ascii]
    cases t with
    | decimal p s => exact show sqlite.hostTypeOf (Text.lowerWords "NUMERIC") = .string by decide
    | char n | varchar n => exact (simple_typeName .string (by decide) sqlite (by decide)).2
    | _ => exact (simple_typeName _ (by simp [DataType.simple]) sqlite (by decide)).2
  · cases t with
    | decimal p s =>
      rw [if_neg (by simp)]
      cases d with
      | sqlite => exact absurd rfl engine
      | _ => exact hostType_decimalName _ p s
    | char n =>
      have other := (words_typeName_of_length engine (.inl (Eq.refl (DataType.char n)))).2
      rw [hostType_of_ofText? ascii (ofText?_typeName_char engine n) fun _ => other,
        if_neg (by simp)]
      cases d <;> rfl
    | varchar n =>
      have other := (words_typeName_of_length engine (.inr (Eq.refl (DataType.varchar n)))).2
      rw [hostType_of_ofText? ascii (ofText?_typeName_varchar engine n) fun _ => other,
        if_neg (by simp)]
      cases d <;> rfl
    | _ =>
      rw [d.hostType_eq ascii]
      exact (simple_typeName _ (by simp [DataType.simple]) d d.mem_all).2

/-- **A column is held as the type it was created for**, in whatever letter case and between
whatever white space its type is reported, except a column of bytes in T-SQL: what stores it is not
known, and so it is held as text. -/
theorem hostType_of_created (d : Dialect) (t : DataType) {before text after : String}
    (hbefore : Text.IsBlank before.toList) (hafter : Text.IsBlank after.toList)
    (reported : Text.lower text = Text.lower (d.typeName t)) :
    (d.hostType (before ++ text ++ after) = d.heldAs t ↔ ¬ (d = tsql ∧ t = .binary)) ∧
      (d = tsql ∧ t = .binary → d.hostType (before ++ text ++ after) = .string) := by
  have same : d.hostType (before ++ text ++ after) = d.hostType (d.typeName t) :=
    d.hostType_congr (Text.lowerWords_of_blank hbefore hafter reported) (d.asciiWords_typeName t)
  rw [same, hostType_typeName]
  split
  · next bytes =>
    obtain ⟨rfl, rfl⟩ := bytes
    decide
  · next other => simp [other]

/-- A reported truth value of MySQL, with its display width. -/
theorem hostType_of_created_bool : mysql.hostType (" " ++ "TinyInt(1)" ++ "\t") = .bool :=
  (mysql.hostType_of_created .bool (by decide) (by decide) (by decide)).1.2 (by decide)

/-- T-SQL's name for bytes is not known, though its name for text with the same parameter is. -/
theorem hostType_of_created_binary :
    tsql.typeName .binary = "VARBINARY(MAX)" ∧ tsql.hostType "VARBINARY(MAX)" = .string ∧
      tsql.heldAs .binary = .binary ∧ tsql.typeName (.varchar 65535) = "NVARCHAR(MAX)" ∧
      DataType.ofText? "NVARCHAR(MAX)" = some (.varchar 65535) := by
  have bytes : tsql.typeName .binary = "VARBINARY(MAX)" := rfl
  have text : tsql.typeName (.varchar 65535) = "NVARCHAR(MAX)" := rfl
  have other : tsql ≠ sqlite := by decide
  refine ⟨bytes, ?_, rfl, text, ?_⟩
  · rw [← bytes, hostType_typeName, if_pos ⟨rfl, rfl⟩]
  · rw [← text, ofText?_typeName_varchar other]

end Dialect

end PolySql
