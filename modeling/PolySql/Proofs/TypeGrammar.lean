import PolySql.Proofs.ByteOffsets

/-!
# The grammar of types with parameters

A type with parameters is written as one of the names of its family, a space at most, and the
parameters in parentheses (`DataType.Applied`).  The reader looks for prefixes and takes all that
stands before the last parenthesis, but a text has one name and one list of parameters at most
(`DataType.Applied.unique`), so what is read is what that family reads from these parameters
(`DataType.ofNormalForm?_of_applied`).  **The types with parameters are read from the texts of the
grammar and from no others** (`DataType.read_from_grammar`), and parameters that are not in the
grammar make the text the name of no type.
-/

namespace PolySql

namespace Decimal

variable {cs : List Char} {c : Char} {limit n : Nat}

/-- A plus sign at most, and the digits of the value. -/
def IsLiteral (cs : List Char) (n : Nat) : Prop :=
  ∃ digits, (cs = digits ∨ cs = '+' :: digits) ∧ digits ≠ [] ∧
    (∀ c ∈ digits, c.isDigit = true) ∧ Nat.ofDigitChars 10 digits 0 = n

theorem IsLiteral.mem (h : IsLiteral cs n) (hc : c ∈ cs) : c = '+' ∨ c.isDigit = true := by
  obtain ⟨digits, rfl | rfl, -, all, -⟩ := h
  · exact .inr (all c hc)
  · exact (List.mem_cons.1 hc).imp_right (all c)

theorem eq_or_eq_dropPlus (cs : List Char) : cs = dropPlus cs ∨ cs = '+' :: dropPlus cs := by
  unfold dropPlus
  split
  · exact .inr rfl
  · exact .inl rfl

theorem readUnsigned?_eq_some_iff :
    readUnsigned? limit cs = some n ↔ IsLiteral cs n ∧ n ≤ limit := by
  constructor
  · intro read
    simp only [readUnsigned?] at read
    split at read
    · next literal =>
      obtain ⟨ne, all, le⟩ := literal
      obtain rfl := Option.some.inj read
      exact ⟨⟨dropPlus cs, eq_or_eq_dropPlus cs, ne, List.all_eq_true.1 all, rfl⟩, le⟩
    · cases read
  · rintro ⟨⟨digits, parts, ne, all, rfl⟩, le⟩
    have same : dropPlus cs = digits := by
      rcases parts with rfl | rfl
      · exact dropPlus_of_all_isDigit (List.all_eq_true.2 all)
      · rfl
    simp only [readUnsigned?, same]
    rw [if_pos ⟨ne, List.all_eq_true.2 all, le⟩]

/-- One byte holds the values up to its limit. -/
theorem readByte_eq_some_iff {n : UInt8} :
    (readUnsigned? 255 cs).map UInt8.ofNat = some n ↔ IsLiteral cs n.toNat := by
  rw [Option.map_eq_some_iff]
  constructor
  · rintro ⟨m, read, rfl⟩
    obtain ⟨literal, le⟩ := readUnsigned?_eq_some_iff.1 read
    rwa [UInt8.toNat_ofNat_of_lt' (Nat.lt_succ_of_le le)]
  · intro literal
    exact ⟨n.toNat, readUnsigned?_eq_some_iff.2 ⟨literal, Nat.le_of_lt_succ n.toNat_lt⟩,
      UInt8.ofNat_toNat⟩

/-- Two bytes hold the values up to their limit. -/
theorem readTwoBytes_eq_some_iff {n : UInt16} :
    (readUnsigned? 65535 cs).map UInt16.ofNat = some n ↔ IsLiteral cs n.toNat := by
  rw [Option.map_eq_some_iff]
  constructor
  · rintro ⟨m, read, rfl⟩
    obtain ⟨literal, le⟩ := readUnsigned?_eq_some_iff.1 read
    rwa [UInt16.toNat_ofNat_of_lt' (Nat.lt_succ_of_le le)]
  · intro literal
    exact ⟨n.toNat, readUnsigned?_eq_some_iff.2 ⟨literal, Nat.le_of_lt_succ n.toNat_lt⟩,
      UInt16.ofNat_toNat⟩

end Decimal

namespace DataType

open Decimal (IsLiteral)

variable {cs inner inner' : List Char} {t : DataType}

/-! ### Parameters -/

/-- A length, or the name of the greatest. -/
def IsLength (inner : List Char) (n : UInt16) : Prop :=
  Text.trimChars inner = "max".toList ∧ n = 65535 ∨ IsLiteral (Text.trimChars inner) n.toNat

/-- Two literals with a comma between. -/
def IsPrecisionAndScale (inner : List Char) (p s : UInt8) : Prop :=
  ∃ a b, inner = a ++ ',' :: b ∧
    IsLiteral (Text.trimChars a) p.toNat ∧ IsLiteral (Text.trimChars b) s.toNat

/-- Lengths are read from texts in lower case. -/
theorem lengthOf?_eq_some_iff (lower : ∀ c ∈ inner, c.toLower = c) {n : UInt16} :
    lengthOf? inner = some n ↔ IsLength inner n := by
  have same : (Text.trimChars inner).map Char.toLower = Text.trimChars inner :=
    (List.map_congr_left fun c hc => lower c (Text.mem_of_mem_trimChars hc)).trans (List.map_id' _)
  simp only [lengthOf?, same, IsLength]
  by_cases greatest : Text.trimChars inner = "max".toList
  · have letters : ¬ IsLiteral (Text.trimChars inner) n.toNat := by
      intro literal
      rcases literal.mem (c := 'm') (by rw [greatest]; decide) with plus | digit
      · cases plus
      · cases digit
    rw [if_pos greatest, Option.some_inj, eq_comm]
    exact ⟨fun last => .inl ⟨greatest, last⟩, fun length => length.elim And.right fun literal =>
      absurd literal letters⟩
  · rw [if_neg greatest, Decimal.readTwoBytes_eq_some_iff]
    exact ⟨.inr, fun length => length.resolve_left fun named => greatest named.1⟩

/-- A text has no comma if a literal is all that is left when it is trimmed. -/
theorem not_mem_comma {n : Nat} (h : IsLiteral (Text.trimChars inner) n) : ',' ∉ inner := by
  intro comma
  rcases h.mem (Text.mem_trimChars comma (by decide)) with plus | digit
  · cases plus
  · cases digit

theorem decimalOf?_eq_some_iff :
    decimalOf? inner = some t ↔ ∃ p s, IsPrecisionAndScale inner p s ∧ t = decimal p s := by
  have joined (a b : List Char) : [','].intercalate [a, b] = a ++ ',' :: b := by
    rw [List.intercalate_cons_cons, List.intercalate_singleton, List.append_assoc]
    rfl
  constructor
  · intro read
    simp only [decimalOf?] at read
    split at read
    · next precision scale trimmed =>
      obtain ⟨a, others, parts, rfl, trimmedOthers⟩ := List.map_eq_cons_iff.1 trimmed
      obtain ⟨b, none, rfl, rfl, noOthers⟩ := List.map_eq_cons_iff.1 trimmedOthers
      obtain rfl := List.map_eq_nil_iff.1 noOthers
      obtain ⟨m, first, read⟩ := Option.bind_eq_some_iff.1 read
      obtain ⟨k, second, read⟩ := Option.bind_eq_some_iff.1 read
      obtain rfl := Option.some.inj read
      have text : inner = a ++ ',' :: b := by rw [← joined, ← parts, List.intercalate_splitOn]
      exact ⟨_, _, ⟨a, b, text,
        Decimal.readByte_eq_some_iff.1 (Option.map_eq_some_iff.2 ⟨m, first, rfl⟩),
        Decimal.readByte_eq_some_iff.1 (Option.map_eq_some_iff.2 ⟨k, second, rfl⟩)⟩, rfl⟩
    · cases read
  · rintro ⟨p, s, ⟨a, b, rfl, first, second⟩, rfl⟩
    have parts : (a ++ ',' :: b).splitOn ',' = [a, b] := by
      rw [← joined, List.splitOn_intercalate ',' ?_ (by simp)]
      exact List.forall_mem_cons.2 ⟨not_mem_comma first,
        List.forall_mem_singleton.2 (not_mem_comma second)⟩
    obtain ⟨m, readFirst, rfl⟩ := Option.map_eq_some_iff.1 (Decimal.readByte_eq_some_iff.2 first)
    obtain ⟨k, readSecond, rfl⟩ := Option.map_eq_some_iff.1 (Decimal.readByte_eq_some_iff.2 second)
    rw [decimalOf?, parts]
    simp [readFirst, readSecond]

/-! ### Names and parentheses -/

/-- One of the names and the parameters in parentheses, with a space between or none. -/
def Applied (names : List String) (inner cs : List Char) : Prop :=
  ∃ name ∈ names, ∃ gap ∈ ["", " "], cs = name.toList ++ gap.toList ++ ('(' :: inner ++ [')'])

/-- The types with parameters, by what their parameters are read as. -/
inductive Family where
  | decimal
  | varchar
  | char
  deriving DecidableEq

namespace Family

/-- In the order in which they are tried. -/
def all : List Family := [decimal, varchar, char]

def names : Family → List String
  | decimal => decimalNames
  | varchar => varcharNames
  | char => charNames

def read : Family → List Char → Option DataType
  | decimal, inner => decimalOf? inner
  | varchar, inner => (lengthOf? inner).map .varchar
  | char, inner => (lengthOf? inner).map .char

/-- The parameters are those of the type. -/
inductive Reads : Family → List Char → DataType → Prop
  | decimal {inner p s} : IsPrecisionAndScale inner p s → Reads decimal inner (.decimal p s)
  | varchar {inner n} : IsLength inner n → Reads varchar inner (.varchar n)
  | char {inner n} : IsLength inner n → Reads char inner (.char n)

variable {family family' : Family}

theorem mem_all (family : Family) : family ∈ all := by
  cases family <;> decide

/-- No name is of two families. -/
theorem eq_of_mem_names : ∀ name ∈ family.names, name ∈ family'.names → family = family' := by
  cases family <;> cases family' <;> decide

/-- The names have no parentheses, and no white space at their ends. -/
theorem plain_names : ∀ name ∈ family.names, ∀ gap ∈ ["", " "],
    '(' ∉ name.toList ++ gap.toList ∧ Text.trimChars (name.toList ++ gap.toList) = name.toList := by
  cases family <;> decide

theorem read_eq_some_iff (lower : ∀ c ∈ inner, c.toLower = c) :
    family.read inner = some t ↔ family.Reads inner t := by
  have sized (type : UInt16 → DataType) : (lengthOf? inner).map type = some t ↔
      ∃ n, IsLength inner n ∧ type n = t := by
    rw [Option.map_eq_some_iff]
    exact exists_congr fun n => and_congr_left' (lengthOf?_eq_some_iff lower)
  constructor
  · intro found
    cases family with
    | decimal =>
      obtain ⟨p, s, parameters, rfl⟩ := decimalOf?_eq_some_iff.1 found
      exact .decimal parameters
    | varchar =>
      obtain ⟨n, length, rfl⟩ := (sized .varchar).1 found
      exact .varchar length
    | char =>
      obtain ⟨n, length, rfl⟩ := (sized .char).1 found
      exact .char length
  · intro reads
    cases reads with
    | decimal parameters => exact decimalOf?_eq_some_iff.2 ⟨_, _, parameters, rfl⟩
    | varchar length => exact (sized .varchar).2 ⟨_, length, rfl⟩
    | char length => exact (sized .char).2 ⟨_, length, rfl⟩

end Family

variable {family family' : Family}

theorem Applied.mem {names : List String} (h : Applied names inner cs) {c : Char} (hc : c ∈ inner) : c ∈ cs := by
  obtain ⟨name, -, gap, -, rfl⟩ := h
  simp [hc]

/-- The name stands before the first parenthesis, and the parameters after it. -/
theorem Applied.split (h : Applied family.names inner cs) :
    String.ofList (Text.trimChars (cs.takeWhile (· ≠ '('))) ∈ family.names ∧
      cs.dropWhile (· ≠ '(') = '(' :: inner ++ [')'] := by
  obtain ⟨name, listed, gap, spaced, rfl⟩ := h
  obtain ⟨closed, trimmed⟩ := Family.plain_names name listed gap spaced
  have before : ∀ c ∈ name.toList ++ gap.toList, decide (c ≠ '(') = true := by
    intro c hc
    exact decide_eq_true fun opening => closed (opening ▸ hc)
  rw [List.takeWhile_append_of_pos before, List.dropWhile_append_of_pos before, List.cons_append,
    List.takeWhile_cons_of_neg (by simp), List.dropWhile_cons_of_neg (by simp), List.append_nil,
    trimmed, String.ofList_toList]
  exact ⟨listed, rfl⟩

/-- A text has one family and one list of parameters at most. -/
theorem Applied.unique (h : Applied family.names inner cs) (h' : Applied family'.names inner' cs) :
    family = family' ∧ inner = inner' := by
  obtain ⟨listed, rest⟩ := h.split
  obtain ⟨listed', rest'⟩ := h'.split
  rw [rest] at rest'
  exact ⟨Family.eq_of_mem_names _ listed listed',
    List.append_cancel_right (List.cons.inj rest').2⟩

/-- Parameters are found where the names are applied to them. -/
theorem parameters?_eq_some_iff (h : Text.Squeezed cs) :
    parameters? family.names cs = some inner ↔ Applied family.names inner cs := by
  have sound {inner : List Char} (found : parameters? family.names cs = some inner) :
      Applied family.names inner cs := by
    obtain ⟨name, listed, found⟩ := List.exists_of_findSome?_eq_some found
    obtain ⟨rest, start, parens⟩ := Option.bind_eq_some_iff.1 found
    obtain rfl := List.isPrefixOf?_eq_some_iff_append_eq.1 start
    rcases h.rest_of_trimChars (inParens?_eq_some_iff.1 parens) with rfl | rfl
    · exact ⟨name, listed, "", by decide, by simp⟩
    · exact ⟨name, listed, " ", by decide, by simp⟩
  refine ⟨sound, fun applied => ?_⟩
  -- A name that is tried before may be found as well, but not with other parameters.
  obtain ⟨inner', found⟩ : ∃ inner', parameters? family.names cs = some inner' := by
    obtain ⟨name, listed, gap, spaced, rfl⟩ := applied
    have parens : inParens? (gap.toList ++ ('(' :: inner ++ [')'])) = some inner := by
      simp only [List.mem_cons, List.not_mem_nil, or_false] at spaced
      rcases spaced with rfl | rfl
      · exact inParens?_append inner
      · rw [inParens?_eq_some_iff]
        exact (trimChars_space_cons _).trans (inParens?_eq_some_iff.1 (inParens?_append inner))
    refine Option.ne_none_iff_exists'.1 fun missed => ?_
    have here := List.findSome?_eq_none_iff.1 missed name listed
    rw [List.append_assoc, List.isPrefixOf?_eq_some_iff_append_eq.2 rfl, Option.bind_some,
      parens] at here
    cases here
  rw [found, ((sound found).unique applied).2]

/-! ### Types -/

theorem ofNormalForm?_eq (cs : List Char) : ofNormalForm? cs =
    (Family.all.findSome? fun family => (parameters? family.names cs).map family.read).getD
      (simpleTypes.lookup (String.ofList (withoutDisplayWidth cs))) := by
  simp only [ofNormalForm?, Family.all, Family.names, List.findSome?_cons, List.findSome?_nil]
  cases parameters? decimalNames cs with
  | some inner => rfl
  | none =>
    cases parameters? varcharNames cs with
    | some inner => rfl
    | none => cases parameters? charNames cs <;> rfl

/-- The parameters are read as those of the family that the name is of. -/
theorem ofNormalForm?_of_applied (h : Text.Squeezed cs) (applied : Applied family.names inner cs) :
    ofNormalForm? cs = family.read inner := by
  rw [ofNormalForm?_eq]
  cases found : Family.all.findSome? fun family =>
      (parameters? family.names cs).map family.read with
  | none =>
    have missed := List.findSome?_eq_none_iff.1 found family family.mem_all
    rw [(parameters?_eq_some_iff h).2 applied] at missed
    cases missed
  | some result =>
    obtain ⟨family', -, here⟩ := List.exists_of_findSome?_eq_some found
    obtain ⟨inner', parameters, rfl⟩ := Option.map_eq_some_iff.1 here
    obtain ⟨rfl, rfl⟩ := applied.unique ((parameters?_eq_some_iff h).1 parameters)
    rfl

theorem ofNormalForm?_of_not_applied (h : Text.Squeezed cs)
    (none : ∀ (family : Family) inner, ¬ Applied family.names inner cs) :
    ofNormalForm? cs = simpleTypes.lookup (String.ofList (withoutDisplayWidth cs)) := by
  have missed : Family.all.findSome? (fun family =>
      (parameters? family.names cs).map family.read) = Option.none := by
    refine List.findSome?_eq_none_iff.2 fun family _ => Option.map_eq_none_iff.2 ?_
    refine Option.eq_none_iff_forall_ne_some.2 fun inner found => ?_
    exact none family inner ((parameters?_eq_some_iff h).1 found)
  rw [ofNormalForm?_eq, missed, Option.getD_none]

/-- The table has one type with parameters, which is that of numbers. -/
theorem simpleTypes_of_mem : ∀ entry ∈ simpleTypes, entry.2 ∈ simple ∨
    entry.1 ∈ ["decimal", "numeric", "number"] ∧ entry.2 = decimal 18 2 := by
  decide

theorem ofNormalForm?_number : ∀ name ∈ ["decimal", "numeric", "number"],
    ofNormalForm? name.toList = some (decimal 18 2) := by
  decide

/-- No name of the table has parameters, and of the others three are the type of numbers. -/
theorem lookup_simpleTypes (parameterized : t ∉ simple)
    (found : simpleTypes.lookup (String.ofList (withoutDisplayWidth cs)) = some t) :
    String.ofList cs ∈ ["decimal", "numeric", "number"] ∧ t = decimal 18 2 := by
  obtain ⟨before, after, table, -⟩ := List.lookup_eq_some_iff.1 found
  have entry : (String.ofList (withoutDisplayWidth cs), t) ∈ simpleTypes := by
    rw [table]
    simp
  obtain ⟨number, default⟩ := (simpleTypes_of_mem _ entry).resolve_left parameterized
  simp only [withoutDisplayWidth] at number
  split at number
  · next width =>
    have integers : ∀ name ∈ integerNames, name ∉ ["decimal", "numeric", "number"] := by decide
    exact absurd number (integers _ width.2)
  · exact ⟨number, default⟩

/-- A type with parameters is read from a name with parameters of the grammar, or from a name of
numbers alone. -/
theorem ofText?_eq_some_iff (parameterized : t ∉ simple) (s : String) : ofText? s = some t ↔
    (∃ (family : Family) (inner : List Char),
      Applied family.names inner (normalForm s.toList) ∧ family.Reads inner t) ∨
    String.ofList (normalForm s.toList) ∈ ["decimal", "numeric", "number"] ∧ t = decimal 18 2 := by
  have squeezed := squeezed_normalForm s.toList
  have lower {family : Family} {inner : List Char}
      (applied : Applied family.names inner (normalForm s.toList)) :
      ∀ c ∈ inner, c.toLower = c :=
    fun c hc => toLower_of_mem_normalForm (applied.mem hc)
  rw [ofText?]
  constructor
  · intro read
    by_cases applied : ∃ (family : Family) (inner : List Char),
        Applied family.names inner (normalForm s.toList)
    · obtain ⟨family, inner, applied⟩ := applied
      rw [ofNormalForm?_of_applied squeezed applied] at read
      exact .inl ⟨family, inner, applied, (Family.read_eq_some_iff (lower applied)).1 read⟩
    · rw [ofNormalForm?_of_not_applied squeezed fun family inner here =>
        applied ⟨family, inner, here⟩] at read
      exact .inr (lookup_simpleTypes parameterized read)
  · rintro (⟨family, inner, applied, reads⟩ | ⟨number, rfl⟩)
    · rw [ofNormalForm?_of_applied squeezed applied]
      exact (Family.read_eq_some_iff (lower applied)).2 reads
    · have read := ofNormalForm?_number _ number
      rwa [String.toList_ofList] at read

/-- Parameters that are not those of a type leave no type to read. -/
theorem ofText?_eq_none (family : Family) {s : String}
    (applied : Applied family.names inner (normalForm s.toList))
    (ill : ∀ t, ¬ family.Reads inner t) : ofText? s = none := by
  have lower : ∀ c ∈ inner, c.toLower = c :=
    fun c hc => toLower_of_mem_normalForm (applied.mem hc)
  rw [ofText?, ofNormalForm?_of_applied (squeezed_normalForm s.toList) applied]
  exact Option.eq_none_iff_forall_ne_some.2 fun t read =>
    ill t ((Family.read_eq_some_iff lower).1 read)

/-- **The types with parameters are read from the texts of the grammar and from no others**, and a
name with other parameters in parentheses is that of no type.  Read at offsets, no text is cut where
it cannot be. -/
theorem read_from_grammar (s : String) :
    (∀ n, ofText? s = some (varchar n) ↔ ∃ inner,
      Applied ["varchar", "character varying", "nvarchar"] inner (normalForm s.toList) ∧
        IsLength inner n) ∧
    (∀ n, ofText? s = some (char n) ↔ ∃ inner,
      Applied ["char", "character", "nchar"] inner (normalForm s.toList) ∧ IsLength inner n) ∧
    (∀ p q, ofText? s = some (decimal p q) ↔
      (∃ inner, Applied ["decimal", "numeric"] inner (normalForm s.toList) ∧
        IsPrecisionAndScale inner p q) ∨
      String.ofList (normalForm s.toList) ∈ ["decimal", "numeric", "number"] ∧ p = 18 ∧ q = 2) ∧
    (∀ inner, Applied ["varchar", "character varying", "nvarchar"] inner (normalForm s.toList) ∨
        Applied ["char", "character", "nchar"] inner (normalForm s.toList) →
      (¬ ∃ n, IsLength inner n) → ofText? s = none) ∧
    (∀ inner, Applied ["decimal", "numeric"] inner (normalForm s.toList) →
      (¬ ∃ p q, IsPrecisionAndScale inner p q) → ofText? s = none) ∧
    atOffsets s = .ok (ofText? s) := by
  refine ⟨fun n => ?_, fun n => ?_, fun p q => ?_, ?_, ?_, atOffsets_eq s⟩
  · rw [ofText?_eq_some_iff (by simp [simple]) s]
    constructor
    · rintro (⟨family, inner, applied, reads⟩ | ⟨-, number⟩)
      · cases reads with
        | varchar length => exact ⟨inner, applied, length⟩
      · cases number
    · rintro ⟨inner, applied, length⟩
      exact .inl ⟨.varchar, inner, applied, .varchar length⟩
  · rw [ofText?_eq_some_iff (by simp [simple]) s]
    constructor
    · rintro (⟨family, inner, applied, reads⟩ | ⟨-, number⟩)
      · cases reads with
        | char length => exact ⟨inner, applied, length⟩
      · cases number
    · rintro ⟨inner, applied, length⟩
      exact .inl ⟨.char, inner, applied, .char length⟩
  · rw [ofText?_eq_some_iff (by simp [simple]) s, decimal.injEq]
    refine or_congr_left ?_
    constructor
    · rintro ⟨family, inner, applied, reads⟩
      cases reads with
      | decimal parameters => exact ⟨inner, applied, parameters⟩
    · rintro ⟨inner, applied, parameters⟩
      exact ⟨.decimal, inner, applied, .decimal parameters⟩
  · rintro inner (applied | applied) ill
    · refine ofText?_eq_none .varchar applied fun t reads => ?_
      cases reads with
      | varchar length => exact ill ⟨_, length⟩
    · refine ofText?_eq_none .char applied fun t reads => ?_
      cases reads with
      | char length => exact ill ⟨_, length⟩
  · intro inner applied ill
    refine ofText?_eq_none .decimal applied fun t reads => ?_
    cases reads with
    | decimal parameters => exact ill ⟨_, _, parameters⟩

/-- A length with a sign and leading zeros, a parameter too many, and characters of several bytes. -/
theorem read_from_grammar_mixed :
    ofText? "Character\tVARYING (+0255) " = some (varchar 255) ∧
      ofText? "NUMERIC(10, 2, 1)" = none ∧ atOffsets "varchar(é)ü)" = .ok none := by
  have forms : normalForm "Character\tVARYING (+0255) ".toList =
      "character varying (+0255)".toList ∧
      normalForm "NUMERIC(10, 2, 1)".toList = "numeric(10, 2, 1)".toList ∧
      normalForm "varchar(é)ü)".toList = "varchar(é)ü)".toList := by
    decide +kernel
  have sized := (read_from_grammar "Character\tVARYING (+0255) ").1 255
  have listed := (read_from_grammar "NUMERIC(10, 2, 1)").2.2.2.2.1 "10, 2, 1".toList
  obtain ⟨-, -, -, lengths, -, offsets⟩ := read_from_grammar "varchar(é)ü)"
  have other := lengths "é)ü".toList
  rw [forms.1] at sized
  rw [forms.2.1] at listed
  rw [forms.2.2] at other
  refine ⟨sized.2 ⟨"+0255".toList, ?_, .inr ?_⟩, listed ?_ ?_, offsets.trans ?_⟩
  · exact ⟨"character varying", by decide, " ", by decide, by decide⟩
  · exact ⟨"0255".toList, .inr (by decide), by decide, List.all_eq_true.1 rfl, by decide⟩
  · exact ⟨"numeric", by decide, "", by decide, by decide⟩
  · rintro ⟨p, q, parameters⟩
    have read := decimalOf?_eq_some_iff.2 ⟨p, q, parameters, rfl⟩
    rw [show decimalOf? "10, 2, 1".toList = none by decide] at read
    cases read
  · rw [other (.inl ⟨"varchar", by decide, "", by decide, by decide⟩)]
    rintro ⟨n, length⟩
    have lower : ∀ c ∈ "é)ü".toList, c.toLower = c :=
      (List.map_inj_left (g := id)).1 (show _ = "é)ü".toList.map id by decide)
    have read := (lengthOf?_eq_some_iff lower).2 length
    rw [show lengthOf? "é)ü".toList = none by decide] at read
    cases read

end DataType

end PolySql
