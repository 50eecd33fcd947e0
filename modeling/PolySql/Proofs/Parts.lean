import PolySql.Literal
import PolySql.Proofs.Closing

/-!
# Parts of texts

The reader of `Dialect.next` also knows the escapes of the dialect: MySQL passes over the character
after a backslash in a text.  A text is balanced (`Dialect.Balanced`) if such a reader who begins
outside quotes ends outside quotes and leaves no parenthesis open, and it falls into parts
(`Dialect.parts?`) at the separators outside quotes and parentheses.

**A balanced text is put together from its parts.**  What is one part (`Dialect.IsPart`) stays one
part next to plain characters (`Dialect.cut_append_cons`), in parentheses (`Dialect.cut_raise`) and
in quotes (`Dialect.whole_quoted`), whatever stands there, so quoted names and literals are one part
each.  Parts with commas between them are found again (`Dialect.parts?_intercalate`).
-/

namespace PolySql

/-- Where a reader is who knows the escapes of the dialect. -/
inductive Cursor where
  | reading (position : Position)
  /-- Right after a backslash in a text, where it escapes the next character. -/
  | escaped (depth : Nat)
  deriving DecidableEq, Repr

namespace Cursor

def start : Cursor := reading .start

/-- Outside quotes and outside all parentheses. -/
def isFree : Cursor → Bool
  | reading p => !p.zone.isWithin && p.depth == 0
  | escaped _ => false

/-- The cursor with one more parenthesis open. -/
def raise : Cursor → Cursor
  | reading p => reading (p.raise 1)
  | escaped depth => escaped (depth + 1)

@[simp] theorem isFree_start : start.isFree = true := rfl

@[simp] theorem isFree_raise (p : Cursor) : p.raise.isFree = false := by
  cases p <;> simp [raise, isFree, Position.raise]

end Cursor

namespace Dialect

/-- Read a character.  In MySQL a backslash in a text escapes the next one. -/
def next (d : Dialect) : Cursor → Char → Option Cursor
  | .escaped depth, _ => some (.reading ⟨.within .text, depth⟩)
  | .reading p, c =>
    if d = mysql ∧ p.zone = .within .text ∧ c = '\\' then some (.escaped p.depth)
    else (d.step p c).map .reading

/-- Read several characters. -/
def scan (d : Dialect) (p : Cursor) : List Char → Option Cursor
  | [] => some p
  | c :: cs => (d.next p c).bind (d.scan · cs)

/-- A reader who begins outside quotes ends outside quotes and with balanced parentheses. -/
def Balanced (d : Dialect) (text : String) : Prop :=
  ∃ p ∈ d.scan .start text.toList, p.isFree = true

/-- The parts of what is read from `p` on, if that is balanced in the end. -/
def cut (d : Dialect) (separator : Char) (p : Cursor) : List Char → Option (List (List Char))
  | [] => if p.isFree then some [[]] else none
  | c :: cs => ((d.next p c).bind (d.cut separator · cs)).map fun parts =>
    if p.isFree ∧ c = separator then [] :: parts else parts.modifyHead (c :: ·)

/-- What stands between the separators outside quotes and parentheses, if the text is balanced. -/
def parts? (d : Dialect) (separator : Char) (text : String) : Option (List String) :=
  (d.cut separator .start text.toList).map (·.map String.ofList)

variable {d : Dialect} {p q : Cursor} {c separator : Char} {cs cs' : List Char}

/-! ### Balanced texts -/

theorem isSome_cut_iff : (d.cut separator p cs).isSome ↔ ∃ q ∈ d.scan p cs, q.isFree = true := by
  induction cs generalizing p with
  | nil => cases h : p.isFree <;> simp [cut, scan, h]
  | cons c cs ih =>
    cases h : d.next p c with
    | none => simp [cut, scan, h]
    | some q => simpa [cut, scan, h] using ih

theorem balanced_of_parts? {text : String} {parts : List String}
    (h : d.parts? separator text = some parts) : d.Balanced text := by
  obtain ⟨found, hfound, -⟩ := Option.map_eq_some_iff.1 h
  exact isSome_cut_iff.1 (by rw [hfound]; rfl)

theorem parts?_eq_some_iff {text : String} {parts : List String} :
    d.parts? separator text = some parts ↔
      d.cut separator .start text.toList = some (parts.map String.toList) := by
  rw [parts?, Option.map_eq_some_iff]
  constructor
  · rintro ⟨found, hfound, rfl⟩
    simp [hfound]
  · intro h
    exact ⟨_, h, by simp⟩

/-! ### Reading outside quotes -/

theorem next_of_not_within {position : Position} (out : position.zone.isWithin = false) (c : Char) :
    d.next (.reading position) c = (d.step position c).map .reading := by
  have outside : position.zone ≠ .within .text := by
    intro within
    simp [within, Zone.isWithin] at out
  simp [next, outside]

theorem exists_position_of_isFree (free : p.isFree = true) :
    ∃ zone, p = .reading ⟨zone, 0⟩ ∧ zone.isWithin = false := by
  cases p with
  | reading position =>
    obtain ⟨zone, depth⟩ := position
    obtain ⟨out, rfl⟩ : zone.isWithin = false ∧ depth = 0 := by simpa [Cursor.isFree] using free
    exact ⟨zone, rfl, out⟩
  | escaped depth => nomatch free

theorem next_of_not_mem_signs (h : c ∉ d.signs) (free : p.isFree = true) :
    d.next p c = some .start := by
  obtain ⟨zone, rfl, out⟩ := exists_position_of_isFree free
  rw [next_of_not_within out, step_of_not_mem_signs out h]
  rfl

theorem next_opening (free : p.isFree = true) : d.next p '(' = some Cursor.start.raise := by
  obtain ⟨zone, rfl, out⟩ := exists_position_of_isFree free
  rw [next_of_not_within out, step_opening out]
  rfl

theorem next_closing (free : p.isFree = true) : d.next p.raise ')' = some .start := by
  obtain ⟨zone, rfl, out⟩ := exists_position_of_isFree free
  rw [Cursor.raise, Position.raise, next_of_not_within out, step_closing out]
  rfl

/-- One more open parenthesis around a text does not change how it is read. -/
theorem next_raise (h : d.next p c = some q) : d.next p.raise c = some q.raise := by
  cases p with
  | escaped depth =>
    obtain rfl : Cursor.reading ⟨.within .text, depth⟩ = q := by simpa [next] using h
    rfl
  | reading position =>
    simp only [next, Cursor.raise, Position.raise] at h ⊢
    split at h
    · next escapes =>
      obtain rfl := Option.some.inj h
      rw [if_pos escapes]
    · next plain =>
      obtain ⟨position', hstep, rfl⟩ := Option.map_eq_some_iff.1 h
      have raised := step_raise 1 hstep
      rw [Position.raise] at raised
      rw [if_neg plain, raised]
      rfl

/-! ### Parts next to each other -/

/-- What is one part from `p` on stays one, and is continued after a character which a reader meets
outside quotes and parentheses, unless that is the separator. -/
theorem cut_append_cons (whole : d.cut separator p cs = some [cs])
    (met : ∀ {p : Cursor}, p.isFree = true → d.next p c = some q) :
    d.cut separator p (cs ++ c :: cs') = (d.cut separator q cs').map fun parts =>
      if c = separator then cs :: parts else parts.modifyHead (cs ++ c :: ·) := by
  induction cs generalizing p with
  | nil =>
    have free : p.isFree = true := by simpa [cut] using whole
    simp [cut, met free, free]
  | cons e cs ih =>
    obtain ⟨parts, found, joined⟩ := Option.map_eq_some_iff.1 whole
    obtain ⟨r, hr, found⟩ := Option.bind_eq_some_iff.1 found
    split at joined
    · nomatch joined
    · next inner =>
      obtain rfl : parts = [cs] := by
        rcases parts with _ | ⟨part, parts⟩ <;> simp_all
      rw [List.cons_append, cut, hr, Option.bind_some, ih found, Option.map_map]
      congr 1
      funext parts
      simp only [Function.comp, if_neg inner]
      split
      · rfl
      · rcases parts with _ | ⟨part, parts⟩ <;> rfl

/-- In parentheses nothing separates. -/
theorem cut_raise {other : Char} {parts : List (List Char)} (h : d.cut other p cs = some parts) :
    d.cut separator p.raise (cs ++ ')' :: cs') =
      (d.cut separator .start cs').map (·.modifyHead (cs ++ ')' :: ·)) := by
  induction cs generalizing p parts with
  | nil =>
    cases free : p.isFree with
    | false => simp [cut, free] at h
    | true => simp [cut, next_closing free]
  | cons e cs ih =>
    obtain ⟨parts, found, -⟩ := Option.map_eq_some_iff.1 h
    obtain ⟨r, hr, found⟩ := Option.bind_eq_some_iff.1 found
    rw [List.cons_append, cut, next_raise hr, Option.bind_some, ih found, Option.map_map]
    congr 1
    funext parts
    simp only [Function.comp, Cursor.isFree_raise, Bool.false_eq_true, false_and, if_false]
    rcases parts with _ | ⟨part, parts⟩ <;> rfl

/-- The characters are balanced, and no separator stands outside quotes and parentheses. -/
def Whole (d : Dialect) (separator : Char) (cs : List Char) : Prop :=
  d.cut separator .start cs = some [cs]

theorem whole_nil : d.Whole separator [] := rfl

namespace Whole

theorem append_cons (h : d.Whole separator cs) (plain : c ∉ d.signs) (ne : c ≠ separator)
    (h' : d.Whole separator cs') : d.Whole separator (cs ++ c :: cs') := by
  rw [Whole, cut_append_cons h (next_of_not_mem_signs plain), h']
  simp [ne]

theorem cons (plain : c ∉ d.signs) (ne : c ≠ separator) (h : d.Whole separator cs) :
    d.Whole separator (c :: cs) :=
  append_cons whole_nil plain ne h

/-- Anything that is balanced may stand in parentheses. -/
theorem parens (h : d.Whole separator cs) (ne : '(' ≠ separator) {other : Char}
    {parts : List (List Char)} (inner : d.cut other .start cs' = some parts) :
    d.Whole separator (cs ++ '(' :: (cs' ++ [')'])) := by
  rw [Whole, cut_append_cons h next_opening, cut_raise inner]
  simp [cut, ne]

end Whole

theorem whole_of_forall (h : ∀ c ∈ cs, c ∉ d.signs ∧ c ≠ separator) : d.Whole separator cs := by
  induction cs with
  | nil => exact whole_nil
  | cons c cs ih =>
    obtain ⟨here, there⟩ := List.forall_mem_cons.1 h
    exact .cons here.1 here.2 (ih there)

/-! ### Parts between commas -/

theorem space_not_mem_signs : ' ' ∉ d.signs := by cases d <;> decide

theorem comma_not_mem_signs : ',' ∉ d.signs := by cases d <;> decide

/-- The text is balanced, and no separator stands outside quotes and parentheses. -/
def IsPart (d : Dialect) (separator : Char) (text : String) : Prop :=
  d.parts? separator text = some [text]

theorem isPart_iff_whole : d.IsPart separator s ↔ d.Whole separator s.toList :=
  parts?_eq_some_iff

instance (text : String) : Decidable (d.IsPart separator text) :=
  decidable_of_iff (d.cut separator .start text.toList = some [text.toList]) isPart_iff_whole.symm

/-- What stands between commas that are followed by a space. -/
def afterCommas : List String → List String
  | [] => []
  | entry :: entries => entry :: entries.map (" " ++ ·)

variable {s t : String}

theorem balanced_iff_isSome_cut (separator : Char) :
    d.Balanced s ↔ (d.cut separator .start s.toList).isSome :=
  isSome_cut_iff.symm

theorem IsPart.balanced (h : d.IsPart separator s) : d.Balanced s :=
  balanced_of_parts? h

/-- Outside quotes a space leaves a text balanced. -/
theorem IsPart.balanced_space (h : d.IsPart separator s) (ht : d.Balanced t) :
    d.Balanced (s ++ " " ++ t) := by
  rw [balanced_iff_isSome_cut separator] at ht ⊢
  have whole := isPart_iff_whole.1 h
  simpa [cut_append_cons whole (next_of_not_mem_signs space_not_mem_signs)] using ht

theorem IsPart.parens (h : d.IsPart ',' s) (ht : d.Balanced t) :
    d.IsPart ',' (s ++ "(" ++ t ++ ")") := by
  obtain ⟨parts, hparts⟩ := Option.isSome_iff_exists.1 ((balanced_iff_isSome_cut ',').1 ht)
  simpa [isPart_iff_whole] using Whole.parens (isPart_iff_whole.1 h) (by decide) hparts

theorem IsPart.append_space (h : d.IsPart separator s) (ne : ' ' ≠ separator) :
    d.IsPart separator (s ++ " ") := by
  simpa [isPart_iff_whole] using
    Whole.append_cons (isPart_iff_whole.1 h) space_not_mem_signs ne whole_nil

/-- Before the first parentheses stands what has none. -/
theorem parts?_parens (h : d.IsPart '(' s) (ht : d.Balanced t) :
    d.parts? '(' (s ++ "(" ++ t ++ ")") = some [s, t ++ ")"] := by
  obtain ⟨parts, hparts⟩ := Option.isSome_iff_exists.1 ((balanced_iff_isSome_cut ',').1 ht)
  rw [parts?_eq_some_iff]
  simp [cut_append_cons (isPart_iff_whole.1 h) next_opening, cut_raise hparts, cut]

theorem cut_intercalate {e : List Char} {es : List (List Char)}
    (h : ∀ e' ∈ e :: es, d.Whole ',' e') :
    d.cut ',' .start ([',', ' '].intercalate (e :: es)) = some (e :: es.map (' ' :: ·)) := by
  induction es generalizing e with
  | nil => simpa [Whole] using h e
  | cons e' es ih =>
    obtain ⟨here, there⟩ := List.forall_mem_cons.1 h
    -- The space after the comma belongs to the part that follows.
    have rest : d.cut ',' .start (' ' :: [',', ' '].intercalate (e' :: es)) =
        some ((' ' :: e') :: es.map (' ' :: ·)) := by
      rw [cut, next_of_not_mem_signs space_not_mem_signs Cursor.isFree_start, Option.bind_some,
        ih there]
      rfl
    rw [List.intercalate_cons_cons, List.append_assoc, List.cons_append, List.cons_append,
      List.nil_append, cut_append_cons here (next_of_not_mem_signs comma_not_mem_signs), rest]
    rfl

/-- Entries of one part each, with commas between them, are found again. -/
theorem parts?_intercalate {entries : List String} (h : ∀ e ∈ entries, d.IsPart ',' e)
    (ne : entries ≠ []) : d.parts? ',' (", ".intercalate entries) = some (afterCommas entries) := by
  obtain ⟨entry, entries, rfl⟩ := List.exists_cons_of_ne_nil ne
  have wholes : ∀ e ∈ entry.toList :: entries.map String.toList, d.Whole ',' e := by
    simpa [isPart_iff_whole] using h
  rw [parts?_eq_some_iff, String.toList_intercalate]
  simpa [afterCommas, Function.comp_def] using cut_intercalate wholes

theorem balanced_intercalate {entries : List String} (h : ∀ e ∈ entries, d.IsPart ',' e) :
    d.Balanced (", ".intercalate entries) := by
  by_cases ne : entries = []
  · exact ⟨.start, by rw [ne]; rfl, rfl⟩
  · exact balanced_of_parts? (parts?_intercalate h ne)

/-! ### Quotes -/

/-- Reading the characters from `p` on leads back to `p`, past no separator. -/
def Stays (d : Dialect) (separator : Char) (p : Cursor) (cs : List Char) : Prop :=
  ∀ rest, d.cut separator p (cs ++ rest) = (d.cut separator p rest).map (·.modifyHead (cs ++ ·))

theorem stays_nil : d.Stays separator p [] := fun rest => by
  rw [List.nil_append]
  cases d.cut separator p rest with
  | none => rfl
  | some parts => cases parts <;> rfl

theorem Stays.append (h : d.Stays separator p cs) (h' : d.Stays separator p cs') :
    d.Stays separator p (cs ++ cs') := fun rest => by
  rw [List.append_assoc, h, h', Option.map_map]
  congr 1
  funext parts
  cases parts <;> simp

theorem Stays.flatMap {f : Char → List Char} (h : ∀ c, d.Stays separator p (f c))
    (cs : List Char) : d.Stays separator p (cs.flatMap f) := by
  induction cs with
  | nil => exact stays_nil
  | cons c cs ih => exact (h c).append ih

/-- A character that a reader within quotes passes over. -/
theorem stays_of_next (within : p.isFree = false) (h : d.next p c = some p) :
    d.Stays separator p [c] := fun rest => by
  simp [cut, h, within]

/-- Two characters, the second of which leads back to where the first was met. -/
theorem stays_of_next_next (within : p.isFree = false) {c' : Char} (h : d.next p c = some q)
    (h' : d.next q c' = some p) (ne : c' ≠ separator) : d.Stays separator p [c, c'] := by
  intro rest
  simp only [List.cons_append, List.nil_append, cut, h, h', Option.bind_some, within, ne,
    Bool.false_eq_true, false_and, and_false, if_false, Option.map_map]
  congr 1
  funext parts
  cases parts <;> rfl

/-- The character that opens quotes. -/
def opening (d : Dialect) : Quoted → Char
  | .identifier => d.quotes.opening
  | .text => '\''

/-- Within quotes, outside parentheses. -/
def inside (quoted : Quoted) : Cursor := .reading ⟨.within quoted, 0⟩

variable {quoted : Quoted}

theorem next_opening_quote : d.next .start (d.opening quoted) = some (inside quoted) := by
  cases d <;> cases quoted <;> decide

theorem next_mark :
    d.next (inside quoted) (d.mark quoted) = some (.reading ⟨.after quoted, 0⟩) := by
  cases d <;> cases quoted <;> decide

theorem next_mark_again :
    d.next (.reading ⟨.after quoted, 0⟩) (d.mark quoted) = some (inside quoted) := by
  cases d <;> cases quoted <;> decide

theorem next_inside (ne : c ≠ d.mark quoted) (plain : d = mysql → quoted = .text → c ≠ '\\') :
    d.next (inside quoted) c = some (inside quoted) := by
  have escapes : ¬(d = mysql ∧ Zone.within quoted = .within .text ∧ c = '\\') := by
    rintro ⟨hd, hquoted, hc⟩
    exact plain hd (Zone.within.inj hquoted) hc
  rw [inside, next, if_neg escapes]
  simp [step, ne]

/-- A separator is a comma or an opening parenthesis. -/
def IsSeparator (c : Char) : Prop := c = ',' ∨ c = '('

@[simp] theorem isSeparator_comma : IsSeparator ',' := .inl rfl

@[simp] theorem isSeparator_opening : IsSeparator '(' := .inr rfl

section Separator

variable (sep : IsSeparator separator)
include sep

theorem IsSeparator.ne_mark : d.mark quoted ≠ separator := by
  rcases sep with rfl | rfl <;> cases d <;> cases quoted <;> decide

theorem IsSeparator.ne_opening : d.opening quoted ≠ separator := by
  rcases sep with rfl | rfl <;> cases d <;> cases quoted <;> decide

/-- What stays within quotes is one part with them. -/
theorem whole_quoted (quoted : Quoted) (stays : d.Stays separator (inside quoted) cs) :
    d.Whole separator (d.opening quoted :: (cs ++ [d.mark quoted])) := by
  have within : (inside quoted).isFree = false := rfl
  have after : (Cursor.reading ⟨.after quoted, 0⟩).isFree = true := rfl
  rw [Whole, cut, next_opening_quote, Option.bind_some, stays]
  simp [cut, next_mark, sep.ne_opening, within, after]

/-- A doubled mark stands for itself. -/
theorem stays_doubled (quoted : Quoted) (plain : d = mysql → quoted ≠ .text) (cs : List Char) :
    d.Stays separator (inside quoted) (doubled (d.mark quoted) cs) := by
  refine Stays.flatMap (fun c => ?_) cs
  split
  · next mark =>
    subst mark
    exact stays_of_next_next rfl next_mark next_mark_again sep.ne_mark
  · next ne => exact stays_of_next rfl (next_inside ne fun hd hquoted => absurd hquoted (plain hd))

theorem stays_backslashEscape (c : Char) :
    mysql.Stays separator (inside .text) (backslashEscape c) := by
  rcases backslashEscape_cases c with ⟨same, backslash, quote⟩ | ⟨e, listed, escaped⟩
  · rw [same]
    exact stays_of_next rfl (next_inside quote fun _ _ => backslash)
  · have ne : e ≠ separator := by
      have all : ∀ pair ∈ backslashPairs, pair.2 ≠ ',' ∧ pair.2 ≠ '(' := by decide
      rcases sep with rfl | rfl
      · exact (all _ listed).1
      · exact (all _ listed).2
    rw [escaped]
    exact stays_of_next_next (q := .escaped 0) rfl rfl rfl ne

/-! ### Names and literals -/

theorem whole_around (name : List Char) : d.Whole separator (d.quotes.around name) := by
  have stays : d.Stays separator (inside .identifier) (doubled d.quotes.closing name) :=
    stays_doubled sep .identifier (by simp) name
  simpa [QuotePair.around, opening, mark] using whole_quoted sep .identifier stays

theorem whole_quoteSegment (segment : List Char) : d.Whole separator (d.quoteSegment segment) := by
  unfold quoteSegment
  split
  · next star =>
    rw [star]
    refine whole_nil.cons ?_ ?_
    · cases d <;> decide
    · rcases sep with rfl | rfl <;> decide
  · exact whole_around sep segment

theorem whole_quoteNameChars (name : List Char) : d.Whole separator (d.quoteNameChars name) := by
  have dot : '.' ∉ d.signs := by cases d <;> decide
  have ne : '.' ≠ separator := by rcases sep with rfl | rfl <;> decide
  unfold quoteNameChars
  induction name.splitOn '.' with
  | nil => exact whole_nil
  | cons segment segments ih =>
    cases segments with
    | nil => simpa using whole_quoteSegment sep segment
    | cons segment' segments =>
      have here : d.Whole separator (d.quoteSegment segment) := whole_quoteSegment sep segment
      simpa [List.intercalate_cons_cons] using here.append_cons dot ne ih

theorem stays_escapeTextChars (cs : List Char) :
    d.Stays separator (inside .text) (d.escapeTextChars cs) := by
  cases d with
  | mysql => exact Stays.flatMap (stays_backslashEscape sep) cs
  | _ => exact stays_doubled sep .text (by simp) cs

/-- Whatever the text is, its literal is one part. -/
theorem whole_literalChars (cs : List Char) : d.Whole separator (d.literalChars cs) := by
  have quoted : d.Whole separator ('\'' :: (d.escapeTextChars cs ++ ['\''])) :=
    whole_quoted sep .text (stays_escapeTextChars sep cs)
  unfold literalChars wrapLiteralChars
  dsimp only
  split
  · refine quoted.cons ?_ ?_
    · cases d <;> decide
    · rcases sep with rfl | rfl <;> decide
  · exact quoted

/-! ### Texts that are one part -/

theorem isPart_of_plain (plain : Plain s) (comma : ',' ∉ s.toList) : d.IsPart separator s := by
  refine isPart_iff_whole.2 (whole_of_forall fun c hc => ⟨not_mem_signs_of_plain plain c hc, ?_⟩)
  rintro rfl
  rcases sep with rfl | rfl
  · exact comma hc
  · nomatch plain _ hc

theorem isPart_of_numeric (h : Numeric s) : d.IsPart separator s := by
  refine isPart_of_plain sep h.plain fun comma => ?_
  nomatch h _ comma

theorem isPart_literal (text : String) : d.IsPart separator (d.literal text) := by
  simpa [isPart_iff_whole] using whole_literalChars sep text.toList

end Separator

end Dialect

end PolySql
