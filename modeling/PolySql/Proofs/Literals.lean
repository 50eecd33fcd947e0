import PolySql.Literal

/-!
# Reading literals

A literal is read by its quotes (`Dialect.readLiteral?`): two quotes stand for one, one alone ends
the text, and in MySQL a backslash and the next character stand for a character, except before a
wildcard of a pattern, where the backslash stays.

**Whatever a text is, its literal is read as that text**, and reading ends where the literal ends
(`Dialect.literal_read_back`): what is written for a character is read as it, and so what is written
for one after the other is read as the text (`read_flatMap`).
-/

namespace PolySql

/-- What a backslash and a character stand for. -/
def unescaped (c : Char) : List Char :=
  match c with
  | '0' => ['\x00']
  | 'b' => ['\x08']
  | 'n' => ['\n']
  | 'r' => ['\r']
  | 't' => ['\t']
  | 'Z' => ['\x1a']
  | '%' => ['\\', '%']
  | '_' => ['\\', '_']
  | c => [c]

/-- A text and what stands after it, with more of the text before. -/
def prepend (cs : List Char) (read : List Char × List Char) : List Char × List Char :=
  (cs ++ read.1, read.2)

@[simp] theorem prepend_nil : prepend [] = id := rfl

theorem prepend_append (cs cs' : List Char) :
    prepend (cs ++ cs') = prepend cs ∘ prepend cs' := by
  funext read
  simp [prepend]

/-- What is read as its characters one by one is read as the text. -/
theorem read_flatMap {read? : List Char → Option (List Char × List Char)}
    {piece : Char → List Char} (h : ∀ c cs, read? (piece c ++ cs) = (read? cs).map (prepend [c]))
    (text cs : List Char) :
    read? (text.flatMap piece ++ cs) = (read? cs).map (prepend text) := by
  induction text with
  | nil => simp
  | cons c text ih =>
    rw [List.flatMap_cons, List.append_assoc, h, ih, Option.map_map, ← prepend_append]
    rfl

namespace Dialect

/-- Read a text after its opening quote: the text, and what stands after the closing one. -/
def readText? (d : Dialect) : List Char → Option (List Char × List Char)
  | [] => none
  | '\'' :: '\'' :: cs => (d.readText? cs).map (prepend ['\''])
  | '\'' :: cs => some ([], cs)
  | '\\' :: c :: cs =>
    if d = mysql then (d.readText? cs).map (prepend (unescaped c))
    else (d.readText? (c :: cs)).map (prepend ['\\'])
  | c :: cs => (d.readText? cs).map (prepend [c])

/-- Read a literal: its text, and what stands after it.  T-SQL may mark it with a letter. -/
def readLiteral? (d : Dialect) : List Char → Option (List Char × List Char)
  | '\'' :: cs => d.readText? cs
  | 'N' :: '\'' :: cs => if d = tsql then d.readText? cs else none
  | _ => none

variable {d : Dialect} {c : Char} {cs rest : List Char}

/-! ### Characters between quotes -/

/-- A quote ends the text, unless another follows. -/
theorem readText?_quote (h : rest.head? ≠ some '\'') :
    d.readText? ('\'' :: rest) = some ([], rest) := by
  rw [readText?]
  rintro cs rfl
  exact h rfl

theorem readText?_cons (quote : c ≠ '\'') (plain : d = mysql → c ≠ '\\') :
    d.readText? (c :: cs) = (d.readText? cs).map (prepend [c]) := by
  by_cases backslash : c = '\\'
  · subst backslash
    have other : d ≠ mysql := fun hd => plain hd rfl
    rcases cs with _ | ⟨e, cs⟩ <;> simp [readText?, other]
  · rw [readText?] <;> simp_all

theorem readText?_backslash (c : Char) (cs : List Char) :
    mysql.readText? ('\\' :: c :: cs) = (mysql.readText? cs).map (prepend (unescaped c)) := by
  rw [readText?, if_pos rfl]

/-- Where quotes are doubled, what is written for a character is read as it. -/
theorem readText?_doubled (other : d ≠ mysql) (c : Char) (cs : List Char) :
    d.readText? ((if c = '\'' then [c, c] else [c]) ++ cs) =
      (d.readText? cs).map (prepend [c]) := by
  split
  · next quote =>
    subst quote
    rw [List.cons_append, List.cons_append, List.nil_append, readText?]
  · next quote => exact readText?_cons quote fun hd => absurd hd other

theorem unescaped_of_mem_backslashPairs {e : Char} (h : (c, e) ∈ backslashPairs) :
    unescaped e = [c] := by
  have all : ∀ pair ∈ backslashPairs, unescaped pair.2 = [pair.1] := by decide
  exact all _ h

/-- Where a backslash escapes, what is written for a character is read as it. -/
theorem readText?_backslashEscape (c : Char) (cs : List Char) :
    mysql.readText? (backslashEscape c ++ cs) = (mysql.readText? cs).map (prepend [c]) := by
  rcases backslashEscape_cases c with ⟨same, backslash, quote⟩ | ⟨e, listed, escaped⟩
  · rw [same]
    exact readText?_cons quote fun _ => backslash
  · rw [escaped, ← unescaped_of_mem_backslashPairs listed]
    exact readText?_backslash e cs

theorem readText?_escapeTextChars (text cs : List Char) :
    d.readText? (d.escapeTextChars text ++ cs) = (d.readText? cs).map (prepend text) := by
  cases d with
  | mysql => exact read_flatMap readText?_backslashEscape text cs
  | _ => exact read_flatMap (readText?_doubled (by decide)) text cs

/-! ### Literals -/

/-- **A literal is read as its text**, whatever that is, and reading ends where the literal ends. -/
theorem readLiteral?_literalChars (text : List Char) (h : rest.head? ≠ some '\'') :
    d.readLiteral? (d.literalChars text ++ rest) = some (text, rest) := by
  have closed : d.readText? (d.escapeTextChars text ++ '\'' :: rest) = some (text, rest) := by
    rw [readText?_escapeTextChars, readText?_quote h]
    simp [prepend]
  unfold literalChars wrapLiteralChars
  dsimp only
  split
  · next marked =>
    obtain ⟨rfl, -⟩ := marked
    simpa [readLiteral?] using closed
  · simpa [readLiteral?] using closed

/-- Doubling adds no character that is not there already. -/
theorem isAscii_doubled (mark : Char) (text : List Char) :
    isAscii (doubled mark text) = isAscii text := by
  induction text with
  | nil => rfl
  | cons c text ih =>
    have first : isAscii (if c = mark then [c, c] else [c]) = decide (c.toNat < 128) := by
      split <;> simp [isAscii]
    simp only [isAscii, doubled, List.flatMap_cons, List.all_append, List.all_cons] at ih first ⊢
    rw [ih, first]

/-- Only T-SQL marks literals, and only those of texts that are not ASCII. -/
theorem head?_literalChars (text : List Char) :
    (d.literalChars text).head? = some 'N' ↔ d = tsql ∧ ∃ c ∈ text, 128 ≤ c.toNat := by
  have other : isAscii text = false ↔ ∃ c ∈ text, 128 ≤ c.toNat := by simp [isAscii]
  unfold literalChars wrapLiteralChars
  by_cases engine : d = tsql
  · subst engine
    rw [escapeTextChars, isAscii_doubled, ← other]
    · split <;> simp_all
    · decide
  · simp [engine]

/-- **A literal is read back as the text that it was written for**, whatever the text is and
whatever stands after the literal but a quote, and nothing after the literal is read.  A text value
in quoted form is that literal.  In T-SQL it is marked if not all of the text is ASCII. -/
theorem literal_read_back (d : Dialect) (text rest : String) (h : rest.toList.head? ≠ some '\'') :
    d.readLiteral? (d.literal text ++ rest).toList = some (text.toList, rest.toList) ∧
      (∃ sql, d.renderValue (.text text) .quoted = .ok sql ∧
        d.readLiteral? (sql ++ rest).toList = some (text.toList, rest.toList)) ∧
      ((d.literal text).toList.head? = some 'N' ↔
        d = tsql ∧ ∃ c ∈ text.toList, 128 ≤ c.toNat) := by
  have read : d.readLiteral? (d.literal text ++ rest).toList =
      some (text.toList, rest.toList) := by
    rw [String.toList_append, toList_literal]
    exact readLiteral?_literalChars text.toList h
  refine ⟨read, ⟨d.literal text, rfl, read⟩, ?_⟩
  rw [toList_literal]
  exact head?_literalChars text.toList

/-- The backslash before the closing quote is escaped, so the quote ends the literal. -/
theorem literal_read_back_mysql :
    let text := "'\x1a \"\\"
    let rest := " OR '' = ''"
    rest.toList.head? ≠ some '\'' ∧ mysql.literal text = "'\\'\\Z \\\"\\\\'" ∧
      mysql.readLiteral? (mysql.literal text ++ rest).toList = some (text.toList, rest.toList) :=
  ⟨by decide, rfl, (literal_read_back mysql _ _ (by decide)).1⟩

end Dialect

end PolySql
