import Mathlib.Data.List.Infix
import PolySql.Proofs.Literals

/-!
# Patterns

A pattern is read from the text of its literal, with the escape character that the dialect implies or
that the clause after the literal names (`Dialect.readPattern?`).  It accepts the texts that its items
account for from left to right (`Pattern.accepts`).

**The pattern forms of a value find its text**: the texts that contain it, start with it or end with
it, and no others (`Dialect.renderValue_finds`).  What is written for a text inside a pattern is read
as items that accept just that text (`PatternSyntax.Writes`), wildcards or not; the items before and
after it accept anything.

A pattern form treats a number as the text of its digits (`Value.searchText?`).  **Truth values are
the only ones that are not treated as texts** (`Dialect.renderValue_as_text_iff`): they are the bare
words that they are in every other form.
-/

namespace PolySql

/-- The characters that may stand at one place. -/
inductive Choice where
  | any
  | only (c : Char)
  /-- The characters of a class, as they are written between brackets. -/
  | among (content : List Char)
  deriving DecidableEq, Repr

namespace Choice

/-- The class holds the character by itself or in a range. -/
def lists : List Char → Char → Bool
  | first :: '-' :: last :: content, c => (first ≤ c && c ≤ last) || lists content c
  | first :: content, c => c = first || lists content c
  | [], _ => false

/-- The character may stand there. -/
def admits : Choice → Char → Bool
  | any, _ => true
  | only e, c => c = e
  | among ('^' :: content), c => !lists content c
  | among content, c => lists content c

end Choice

/-- What a pattern is made of. -/
inductive PatternItem where
  /-- Any characters, or none. -/
  | sequence
  | one (choice : Choice)
  deriving DecidableEq, Repr

abbrev Pattern := List PatternItem

/-- The pattern matches the whole text. -/
def Pattern.accepts : Pattern → List Char → Bool
  | [], text => text.isEmpty
  | .sequence :: p, text => text.tails.any (accepts p)
  | .one choice :: p, c :: text => choice.admits c && accepts p text
  | .one _ :: _, [] => false

/-! ### Reading patterns -/

/-- What other characters than `%` and `_` mean more than themselves in a pattern. -/
structure PatternSyntax where
  escape? : Option Char
  /-- Whether brackets hold classes. -/
  brackets : Bool

/-- Where the reader of a pattern is. -/
inductive PatternState where
  | plain
  /-- Right after the escape character. -/
  | escaped
  /-- Between brackets, after what is read there, backwards. -/
  | within (content : List Char)

/-- Read the items of a pattern.  Nothing may be left open at its end. -/
def PatternSyntax.read? (s : PatternSyntax) : PatternState → List Char → Option Pattern
  | .plain, [] => some []
  | .escaped, [] | .within _, [] => none
  | .plain, c :: cs =>
    if s.escape? = some c then s.read? .escaped cs
    else if c = '%' then (s.read? .plain cs).map (.sequence :: ·)
    else if c = '_' then (s.read? .plain cs).map (.one .any :: ·)
    else if s.brackets ∧ c = '[' then s.read? (.within []) cs
    else (s.read? .plain cs).map (.one (.only c) :: ·)
  | .escaped, c :: cs => (s.read? .plain cs).map (.one (.only c) :: ·)
  | .within content, c :: cs =>
    if c = ']' then (s.read? .plain cs).map (.one (.among content.reverse) :: ·)
    else s.read? (.within (c :: content)) cs

namespace Dialect

/-- The escape character of a pattern that no clause follows. -/
def impliedEscape? : Dialect → Option Char
  | mysql | postgres => some '\\'
  | ansi | sqlite | tsql => none

/-- The escape character of a pattern, by what follows its literal. -/
def escapeAfter? (d : Dialect) (clause : List Char) : Option (Option Char) := do
  if clause = [] then return d.impliedEscape?
  let literal ← " ESCAPE ".toList.isPrefixOf? clause
  match ← d.readLiteral? literal with
  | ([c], []) => return some c
  | _ => none

/-- Read what stands after `LIKE`. -/
def readPattern? (d : Dialect) (sql : String) : Option Pattern := do
  let (text, clause) ← d.readLiteral? sql.toList
  let escape? ← d.escapeAfter? clause
  PatternSyntax.read? ⟨escape?, d = tsql⟩ .plain text

end Dialect

variable {p q : Pattern} {text cs cs' : List Char}

/-! ### What patterns accept -/

namespace Pattern

theorem accepts_sequence_cons :
    accepts (.sequence :: p) text = true ↔ ∃ t, t <:+ text ∧ p.accepts t = true := by
  simp [accepts]

/-- Before anything that the rest of the pattern accepts stands just this text. -/
def Exact (p : Pattern) (t : List Char) : Prop :=
  ∀ q text, accepts (p ++ q) text = true ↔ ∃ rest, text = t ++ rest ∧ accepts q rest = true

theorem exact_nil : Exact [] [] := fun q text => by simp

theorem exact_one {choice : Choice} {c : Char} (h : ∀ e, choice.admits e = true ↔ e = c) :
    Exact [.one choice] [c] := fun q text => by
  cases text with
  | nil => simp [accepts]
  | cons e text => simp [accepts, h]

theorem Exact.append {t t' : List Char} (h : Exact p t) (h' : Exact q t') :
    Exact (p ++ q) (t ++ t') := fun r text => by
  rw [List.append_assoc, h]
  constructor
  · rintro ⟨rest, rfl, accepted⟩
    obtain ⟨rest', rfl, accepted'⟩ := (h' r rest).1 accepted
    exact ⟨rest', by simp, accepted'⟩
  · rintro ⟨rest, rfl, accepted⟩
    exact ⟨t' ++ rest, by simp, (h' r _).2 ⟨rest, rfl, accepted⟩⟩

variable {t : List Char}

theorem Exact.accepts_iff (h : Exact p t) : p.accepts text = true ↔ text = t := by
  simpa [accepts] using h [] text

/-- With anything after it, the text is a beginning. -/
theorem Exact.accepts_startsWith (h : Exact p t) :
    accepts (p ++ [.sequence]) text = true ↔ t <+: text := by
  have any : ∀ rest, accepts [.sequence] rest = true := fun rest =>
    accepts_sequence_cons.2 ⟨[], List.nil_suffix, rfl⟩
  simp [h _ text, any, List.IsPrefix, eq_comm]

/-- With anything before it, the text is an end. -/
theorem Exact.accepts_endsWith (h : Exact p t) :
    accepts (.sequence :: p) text = true ↔ t <:+ text := by
  simp [accepts_sequence_cons, h.accepts_iff]

theorem Exact.accepts_contains (h : Exact p t) :
    accepts (.sequence :: (p ++ [.sequence])) text = true ↔ t <:+: text := by
  simp [accepts_sequence_cons, h.accepts_startsWith, List.infix_iff_prefix_suffix, and_comm]

end Pattern

/-! ### What is read of a text in a pattern -/

namespace PatternSyntax

variable {s : PatternSyntax}

/-- The characters are read as items of their own. -/
def Reads (s : PatternSyntax) (cs : List Char) (p : Pattern) : Prop :=
  ∀ rest, s.read? .plain (cs ++ rest) = (s.read? .plain rest).map (p ++ ·)

theorem reads_nil : s.Reads [] [] := fun rest => by simp

theorem Reads.append (h : s.Reads cs p) (h' : s.Reads cs' q) : s.Reads (cs ++ cs') (p ++ q) :=
  fun rest => by
    rw [List.append_assoc, h, h', Option.map_map]
    congr 1
    funext r
    simp

theorem Reads.read?_eq (h : s.Reads cs p) : s.read? .plain cs = some p := by
  simpa [read?] using h []

theorem reads_sequence (h : s.escape? ≠ some '%') : s.Reads ['%'] [.sequence] := fun rest => by
  simp [read?, h]

/-- The characters are read as what accepts just this text. -/
def Writes (s : PatternSyntax) (cs t : List Char) : Prop :=
  ∃ p, s.Reads cs p ∧ Pattern.Exact p t

theorem Writes.flatMap {piece : Char → List Char} (h : ∀ c, s.Writes (piece c) [c])
    (t : List Char) : s.Writes (t.flatMap piece) t := by
  induction t with
  | nil => exact ⟨[], reads_nil, Pattern.exact_nil⟩
  | cons c t ih =>
    obtain ⟨p, reads, exact⟩ := h c
    obtain ⟨q, reads', exact'⟩ := ih
    exact ⟨p ++ q, reads.append reads', exact.append exact'⟩

/-- After the escape character and outside brackets a character stands for itself. -/
theorem writes_backslashWildcard (c : Char) :
    Writes ⟨some '\\', false⟩ (backslashWildcard c) [c] := by
  refine ⟨[.one (.only c)], fun rest => ?_, Pattern.exact_one (by simp [Choice.admits])⟩
  unfold backslashWildcard
  split
  · simp [read?]
  · next plain =>
    simp only [not_or] at plain
    simp [read?, plain, Ne.symm plain.1]

/-- A character stands for itself, and so it does in a class of its own. -/
theorem writes_bracketWildcard (c : Char) : Writes ⟨none, true⟩ (bracketWildcard c) [c] := by
  unfold bracketWildcard
  split
  · next wildcard =>
    refine ⟨[.one (.among [c])], fun rest => ?_, Pattern.exact_one ?_⟩
    · rcases wildcard with rfl | rfl | rfl <;> simp [read?]
    · rcases wildcard with rfl | rfl | rfl <;> simp [Choice.admits, Choice.lists]
  · next plain =>
    simp only [not_or] at plain
    exact ⟨[.one (.only c)], fun rest => by simp [read?, plain],
      Pattern.exact_one (by simp [Choice.admits])⟩

end PatternSyntax

/-! ### Pattern literals -/

/-- The form is that of a pattern. -/
def LiteralForm.isPattern : LiteralForm → Bool
  | contains | startsWith | endsWith => true
  | plain | quoted => false

/-- The text of a value that is one or is a finite number. -/
def Value.searchText? : Value → Option String
  | .null | .bool _ => none
  | .int n => some (toString n.toInt)
  | .float x => floatText? x
  | .text s => some s

namespace Dialect

variable {d : Dialect}

/-- The value in this form is a pattern that accepts just the texts with this property. -/
def Finds (d : Dialect) (v : Value) (form : LiteralForm) (P : String → Prop) : Prop :=
  ∃ sql p, d.renderValue v form = .ok sql ∧ d.readPattern? sql = some p ∧
    ∀ text : String, p.accepts text.toList = true ↔ P text

/-- How the patterns of an engine are written. -/
def patternSyntax (d : Dialect) : PatternSyntax :=
  if d = tsql then ⟨none, true⟩ else ⟨some '\\', false⟩

theorem escape?_patternSyntax : d.patternSyntax.escape? ≠ some '%' := by cases d <;> decide

/-- What a literal holds is read with the escape character that the dialect implies or the clause
names. -/
theorem readPattern?_literal (engine : d ≠ ansi) (pattern : String) :
    d.readPattern? (d.literal pattern ++ d.likeClause) =
      d.patternSyntax.read? .plain pattern.toList := by
  have follows : d.likeClause.toList.head? ≠ some '\'' := by cases d <;> decide
  have escape : d.escapeAfter? d.likeClause.toList = some d.patternSyntax.escape? := by
    cases d <;> first | exact absurd rfl engine | rfl
  have same : PatternSyntax.mk d.patternSyntax.escape? (d = tsql) = d.patternSyntax := by
    cases d <;> rfl
  simp [readPattern?, readLiteral?_literalChars _ follows, escape, same]

theorem readPattern?_patternLiteral (engine : d ≠ ansi) {before t after : String}
    (h : d.patternSyntax.Reads
      (before.toList ++ (d.escapePatternChars t.toList ++ after.toList)) p) :
    d.readPattern? (d.patternLiteral before t after) = some p := by
  rw [patternLiteral, readPattern?_literal engine]
  simpa [escapePattern] using h.read?_eq

theorem writes_escapePatternChars (t : List Char) :
    d.patternSyntax.Writes (d.escapePatternChars t) t := by
  cases d with
  | tsql => exact .flatMap PatternSyntax.writes_bracketWildcard t
  | _ => exact .flatMap PatternSyntax.writes_backslashWildcard t

theorem renderValue_eq_patternLiteral {v : Value} {t : String} (h : v.searchText? = some t) :
    d.renderValue v .contains = .ok (d.patternLiteral "%" t "%") ∧
      d.renderValue v .startsWith = .ok (d.patternLiteral "" t "%") ∧
      d.renderValue v .endsWith = .ok (d.patternLiteral "%" t "") := by
  cases v with
  | null | bool b => nomatch h
  | int n =>
    obtain rfl := Option.some.inj h
    exact ⟨rfl, rfl, rfl⟩
  | float x =>
    have found : Value.floatText? x = some t := h
    simp [renderValue, found, formText]
  | text s =>
    obtain rfl := Option.some.inj h
    exact ⟨rfl, rfl, rfl⟩

/-- **The pattern forms of a value find its text**, whatever it is, in every engine: the texts that
contain it, those that start with it, and those that end with it. -/
theorem renderValue_finds (engine : d ≠ ansi) {v : Value} {t : String}
    (h : v.searchText? = some t) :
    d.Finds v .contains (t.toList <:+: ·.toList) ∧ d.Finds v .startsWith (t.toList <+: ·.toList) ∧
      d.Finds v .endsWith (t.toList <:+ ·.toList) := by
  obtain ⟨contains, startsWith, endsWith⟩ := renderValue_eq_patternLiteral (d := d) h
  obtain ⟨p, reads, exact⟩ := writes_escapePatternChars (d := d) t.toList
  have sequence := PatternSyntax.reads_sequence (escape?_patternSyntax (d := d))
  refine ⟨⟨_, .sequence :: (p ++ [.sequence]), contains, ?_, fun x => exact.accepts_contains⟩,
    ⟨_, p ++ [.sequence], startsWith, ?_, fun x => exact.accepts_startsWith⟩,
    ⟨_, .sequence :: p, endsWith, ?_, fun x => exact.accepts_endsWith⟩⟩
  · exact readPattern?_patternLiteral engine (sequence.append (reads.append sequence))
  · exact readPattern?_patternLiteral engine (reads.append sequence)
  · exact readPattern?_patternLiteral engine (by simpa using sequence.append reads)

/-- In MySQL a backslash is escaped in the pattern, and both backslashes are in its literal. -/
theorem renderValue_finds_mysql :
    let t := "1\\_%'["
    mysql ≠ ansi ∧ (Value.text t).searchText? = some t ∧
      mysql.renderValue (.text t) .contains = .ok "'%1\\\\\\\\\\\\_\\\\%\\'[%'" ∧
      mysql.Finds (.text t) .contains (t.toList <:+: ·.toList) ∧
      mysql.Finds (.text t) .startsWith (t.toList <+: ·.toList) ∧
      mysql.Finds (.text t) .endsWith (t.toList <:+ ·.toList) :=
  ⟨by decide, rfl, rfl, renderValue_finds (by decide) rfl⟩

/-! ### Values as texts -/

/-- The text of a value: its own, or else its plain form. -/
def valueText (d : Dialect) : Value → Except CompileError String
  | .text s => .ok s
  | v => d.renderValue v .plain

theorem valueText_of_searchText? {v : Value} {t : String} (h : v.searchText? = some t) :
    d.valueText v = .ok t := by
  cases v with
  | null | bool b => nomatch h
  | float x =>
    have found : Value.floatText? x = some t := h
    simp [valueText, renderValue, found, formText]
  | int n | text s =>
    obtain rfl := Option.some.inj h
    rfl

/-- A value that is known and finite, if it is a number, has a text or is a truth value. -/
theorem exists_searchText? {v : Value} (known : v ≠ .null)
    (finite : ∀ x, v = .float x → Decimal.isFinite x = true) :
    (∃ t, v.searchText? = some t) ∨ ∃ b, v = .bool b := by
  cases v with
  | null => exact absurd rfl known
  | bool b => exact .inr ⟨b, rfl⟩
  | int n => exact .inl ⟨_, rfl⟩
  | float x =>
    refine .inl (Option.isSome_iff_exists.1 ?_)
    simp [Value.searchText?, Value.floatText?, Decimal.Layout.text?, finite x rfl]
  | text s => exact .inl ⟨s, rfl⟩

/-- In a pattern form all values with one text are the literal of one pattern. -/
theorem exists_renderValue_eq_literal {form : LiteralForm} (pattern : form.isPattern = true)
    (t : String) : ∃ p, ∀ v : Value, v.searchText? = some t →
      d.renderValue v form = .ok (d.literal p ++ d.likeClause) := by
  cases form with
  | plain | quoted => nomatch pattern
  | contains => exact ⟨_, fun v h => (renderValue_eq_patternLiteral h).1⟩
  | startsWith => exact ⟨_, fun v h => (renderValue_eq_patternLiteral h).2.1⟩
  | endsWith => exact ⟨_, fun v h => (renderValue_eq_patternLiteral h).2.2⟩

/-- The word for a truth value is no literal. -/
theorem boolText_ne_literal (b : Bool) (p : String) :
    d.boolText b ≠ d.literal p ++ d.likeClause := by
  intro same
  have follows : d.likeClause.toList.head? ≠ some '\'' := by cases d <;> decide
  have read := readLiteral?_literalChars (d := d) p.toList follows
  have bare : d.readLiteral? (d.boolText b).toList = none := by cases d <;> cases b <;> rfl
  rw [← toList_literal, ← String.toList_append, ← same, bare] at read
  nomatch read

/-- **A pattern form treats a value as its text, unless it is a truth value.**  The result is then
the literal of a pattern; a truth value is a bare word. -/
theorem renderValue_as_text_iff (d : Dialect) {v : Value} {form : LiteralForm}
    (pattern : form.isPattern = true) (known : v ≠ .null)
    (finite : ∀ x, v = .float x → Decimal.isFinite x = true) :
    ∃ t, d.valueText v = .ok t ∧
      (d.renderValue v form = d.renderValue (.text t) form ↔ ∀ b, v ≠ .bool b) ∧
      ((∃ p, d.renderValue v form = .ok (d.literal p ++ d.likeClause)) ↔ ∀ b, v ≠ .bool b) ∧
      ∀ b, v = .bool b → d.renderValue v form = .ok (d.boolText b) := by
  rcases exists_searchText? known finite with ⟨t, h⟩ | ⟨b, rfl⟩
  · obtain ⟨p, written⟩ := exists_renderValue_eq_literal (d := d) pattern t
    have no_bool : ∀ b, v ≠ .bool b := by
      rintro b rfl
      nomatch h
    have as_text : d.renderValue v form = d.renderValue (.text t) form := by
      rw [written v h, written (.text t) rfl]
    exact ⟨t, valueText_of_searchText? h, iff_of_true as_text no_bool,
      iff_of_true ⟨p, written v h⟩ no_bool, fun b hv => absurd hv (no_bool b)⟩
  · obtain ⟨p, written⟩ := exists_renderValue_eq_literal (d := d) pattern (d.boolText b)
    have bare : d.renderValue (.bool b) form = .ok (d.boolText b) := rfl
    have truth : ¬ ∀ b', Value.bool b ≠ .bool b' := fun h => h b rfl
    refine ⟨d.boolText b, bare, iff_of_false ?_ truth, iff_of_false ?_ truth, ?_⟩
    · rw [bare, written (.text (d.boolText b)) rfl, Except.ok.injEq]
      exact boolText_ne_literal b p
    · rintro ⟨q, literal⟩
      exact boolText_ne_literal b q (Except.ok.inj (bare.symm.trans literal))
    · intro b' same
      obtain rfl := Value.bool.inj same
      exact bare

/-- The sign of a number is part of its text. -/
theorem renderValue_as_text_sqlite :
    let v := Value.int (-5)
    LiteralForm.startsWith.isPattern = true ∧ v ≠ .null ∧
      (∀ x, v = .float x → Decimal.isFinite x = true) ∧ sqlite.valueText v = .ok "-5" ∧
      sqlite.renderValue v .startsWith = .ok "'-5%' ESCAPE '\\'" ∧
      sqlite.renderValue v .startsWith = sqlite.renderValue (.text "-5") .startsWith := by
  have pattern : LiteralForm.startsWith.isPattern = true := rfl
  have known : Value.int (-5) ≠ .null := nofun
  have finite : ∀ x, Value.int (-5) = .float x → Decimal.isFinite x = true := nofun
  obtain ⟨t, text, as_text, -⟩ := renderValue_as_text_iff sqlite pattern known finite
  obtain rfl : "-5" = t := Except.ok.inj text
  exact ⟨pattern, known, finite, rfl, rfl, as_text.2 nofun⟩

/-- A truth value in a pattern form is a number in MySQL, and no pattern that finds it. -/
theorem renderValue_bool_mysql :
    mysql.valueText (.bool true) = .ok "1" ∧ mysql.renderValue (.bool true) .contains = .ok "1" ∧
      mysql.renderValue (.text "1") .contains = .ok "'%1%'" :=
  ⟨rfl, rfl, rfl⟩

end Dialect

end PolySql
