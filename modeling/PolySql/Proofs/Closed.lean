import PolySql.Identifier

/-!
# Closed texts

A reader goes over a text character by character (`Dialect.read`).  Outside quotes parentheses are
counted.  Within quotes everything but the closing mark is passed over; a mark that comes again at
once does not end the quotes but stands for itself.

A text is closed (`Dialect.Closed`) if a reader who comes to it outside quotes leaves it outside
quotes, with no parenthesis left open and none closed that was not open.
-/

namespace PolySql

/-- What stands between quotes. -/
inductive Quoted where
  | identifier
  | text
  deriving DecidableEq, Repr

/-- Where a reader is. -/
inductive Zone where
  | outside
  | within (quoted : Quoted)
  /-- Right after the closing mark, unless the next character doubles it. -/
  | after (quoted : Quoted)
  deriving DecidableEq, Repr

/-- Where a reader is, and how many parentheses are open. -/
structure Position where
  zone : Zone
  depth : Nat
  deriving DecidableEq, Repr

def Zone.isWithin : Zone → Bool
  | within _ => true
  | outside | after _ => false

namespace Position

def start : Position := ⟨.outside, 0⟩

/-- The position with `n` more parentheses open. -/
def raise (n : Nat) (p : Position) : Position := ⟨p.zone, p.depth + n⟩

end Position

namespace Dialect

/-- The mark that closes the quotes. -/
def mark (d : Dialect) : Quoted → Char
  | .identifier => d.quotes.closing
  | .text => '\''

/-- The quotes that a character opens. -/
def opens? (d : Dialect) (c : Char) : Option Quoted :=
  if c = d.quotes.opening then some .identifier else if c = '\'' then some .text else none

/-- Read a character outside quotes.  A parenthesis that was not open cannot be closed. -/
def readOutside (d : Dialect) (depth : Nat) (c : Char) : Option Position :=
  match d.opens? c with
  | some quoted => some ⟨.within quoted, depth⟩
  | none =>
    if c = '(' then some ⟨.outside, depth + 1⟩
    else if c = ')' then
      match depth with
      | 0 => none
      | depth + 1 => some ⟨.outside, depth⟩
    else some ⟨.outside, depth⟩

/-- Read a character. -/
def step (d : Dialect) (p : Position) (c : Char) : Option Position :=
  match p.zone with
  | .outside => d.readOutside p.depth c
  | .within quoted => if c = d.mark quoted then some ⟨.after quoted, p.depth⟩ else some p
  | .after quoted =>
    if c = d.mark quoted then some ⟨.within quoted, p.depth⟩ else d.readOutside p.depth c

/-- Read several characters. -/
def read (d : Dialect) (p : Position) : List Char → Option Position
  | [] => some p
  | c :: cs => (d.step p c).bind (d.read · cs)

/-- A reader who comes outside quotes leaves outside quotes and with balanced parentheses. -/
def Closed (d : Dialect) (text : String) : Prop :=
  ∃ p ∈ d.read .start text.toList, p.zone.isWithin = false ∧ p.depth = 0

instance (d : Dialect) (text : String) : Decidable (d.Closed text) :=
  inferInstanceAs (Decidable (∃ p ∈ d.read .start text.toList, _ ∧ _))

/-- The characters that a reader does not pass over outside quotes. -/
def signs (d : Dialect) : List Char := [d.quotes.opening, d.quotes.closing, '\'', '(', ')']

variable {d : Dialect} {p p' : Position} {cs cs' : List Char}

/-! ### Reading on -/

@[simp] theorem read_nil : d.read p [] = some p := rfl

theorem read_append : d.read p (cs ++ cs') = (d.read p cs).bind (d.read · cs') := by
  induction cs generalizing p with
  | nil => rfl
  | cons c cs ih =>
    simp only [List.cons_append, read]
    cases d.step p c with
    | none => rfl
    | some q => exact ih

theorem read_append_of_read (h : d.read p cs = some p') : d.read p (cs ++ cs') = d.read p' cs' := by
  rw [read_append, h]
  rfl

theorem readOutside_raise {depth : Nat} {c : Char} (n : Nat)
    (h : d.readOutside depth c = some p') :
    d.readOutside (depth + n) c = some (p'.raise n) := by
  unfold readOutside at h ⊢
  cases hc : d.opens? c with
  | some quoted =>
    obtain rfl : ⟨.within quoted, depth⟩ = p' := by simpa [hc] using h
    rfl
  | none =>
    simp only [hc] at h ⊢
    by_cases opening : c = '('
    · obtain rfl : ⟨.outside, depth + 1⟩ = p' := by simpa [opening] using h
      simp [opening, Position.raise, Nat.add_right_comm]
    · by_cases closing : c = ')'
      · cases depth with
        | zero => simp [closing] at h
        | succ depth =>
          obtain rfl : ⟨.outside, depth⟩ = p' := by simpa [closing] using h
          simp [closing, Position.raise, Nat.add_right_comm depth 1 n]
      · obtain rfl : ⟨.outside, depth⟩ = p' := by simpa [opening, closing] using h
        simp [opening, closing, Position.raise]

theorem step_raise (n : Nat) {c : Char} (h : d.step p c = some p') :
    d.step (p.raise n) c = some (p'.raise n) := by
  obtain ⟨zone, depth⟩ := p
  cases zone with
  | outside => exact readOutside_raise n h
  | within quoted =>
    simp only [step, Position.raise] at h ⊢
    split at h <;> obtain rfl := Option.some.inj h <;> simp_all
  | after quoted =>
    by_cases again : c = d.mark quoted
    · obtain rfl : ⟨.within quoted, depth⟩ = p' := by simpa [step, again] using h
      simp [step, again, Position.raise]
    · have out : d.readOutside depth c = some p' := by simpa [step, again] using h
      exact (if_neg again).trans (readOutside_raise n out)

/-- More open parentheses around a text do not change how it is read. -/
theorem read_raise (n : Nat) (h : d.read p cs = some p') :
    d.read (p.raise n) cs = some (p'.raise n) := by
  induction cs generalizing p with
  | nil =>
    obtain rfl : p = p' := by simpa using h
    rfl
  | cons c cs ih =>
    simp only [read, Option.bind_eq_some_iff] at h ⊢
    obtain ⟨q, hq, h⟩ := h
    exact ⟨q.raise n, step_raise n hq, ih h⟩

/-! ### Characters outside quotes -/

/-- Outside quotes a character that is no closing mark means the same wherever it stands. -/
theorem step_of_ne_mark (out : p.zone.isWithin = false) {c : Char}
    (ne : ∀ quoted, c ≠ d.mark quoted) :
    d.step p c = d.readOutside p.depth c := by
  obtain ⟨zone, depth⟩ := p
  cases zone with
  | outside => rfl
  | within quoted => nomatch out
  | after quoted => exact if_neg (ne quoted)

theorem step_of_not_mem_signs (out : p.zone.isWithin = false) {c : Char} (h : c ∉ d.signs) :
    d.step p c = some ⟨.outside, p.depth⟩ := by
  simp only [signs, List.mem_cons, List.not_mem_nil, or_false, not_or] at h
  obtain ⟨opening, closing, quote, left, right⟩ := h
  rw [step_of_ne_mark out (by rintro (_ | _) <;> assumption)]
  simp [readOutside, opens?, opening, quote, left, right]

theorem read_of_not_mem_signs (out : p.zone.isWithin = false) (h : ∀ c ∈ cs, c ∉ d.signs)
    (ne : cs ≠ []) : d.read p cs = some ⟨.outside, p.depth⟩ := by
  induction cs generalizing p with
  | nil => exact absurd rfl ne
  | cons c cs ih =>
    rw [read, step_of_not_mem_signs out (h c (by simp)), Option.bind_some]
    cases cs with
    | nil => rfl
    | cons c' cs => exact ih rfl (fun e he => h e (by simp [he])) (by simp)

theorem step_opening (out : p.zone.isWithin = false) :
    d.step p '(' = some ⟨.outside, p.depth + 1⟩ := by
  rw [step_of_ne_mark out (by rintro (_ | _) <;> cases d <;> decide)]
  cases d <;> rfl

theorem step_closing {zone : Zone} (out : zone.isWithin = false) (n : Nat) :
    d.step ⟨zone, n + 1⟩ ')' = some ⟨.outside, n⟩ := by
  rw [step_of_ne_mark out (by rintro (_ | _) <;> cases d <;> decide)]
  cases d <;> rfl

/-! ### Quoted names -/

/-- The opening mark opens quotes even where it would double a closing one. -/
theorem step_quote (out : p.zone.isWithin = false) :
    d.step p d.quotes.opening = some ⟨.within .identifier, p.depth⟩ := by
  obtain ⟨zone, depth⟩ := p
  rcases zone with _ | _ | (_ | _)
  · cases d <;> rfl
  · nomatch out
  · cases d <;> rfl
  · cases d <;> rfl

theorem read_doubled (n : Nat) (name : List Char) :
    d.read ⟨.within .identifier, n⟩ (doubled d.quotes.closing name) =
      some ⟨.within .identifier, n⟩ := by
  induction name with
  | nil => rfl
  | cons c name ih =>
    by_cases closing : c = d.quotes.closing
    · simpa [doubled, read, step, mark, closing] using ih
    · simpa [doubled, read, step, mark, closing] using ih

/-- Whatever the name is, its quotes end where it ends. -/
theorem read_around (out : p.zone.isWithin = false) (name : List Char) :
    d.read p (d.quotes.around name) = some ⟨.after .identifier, p.depth⟩ := by
  rw [QuotePair.around, List.cons_append, read, step_quote out, Option.bind_some,
    read_append_of_read (read_doubled _ _)]
  simp [read, step, mark]

theorem read_quoteSegment (out : p.zone.isWithin = false) (segment : List Char) :
    ∃ p', d.read p (d.quoteSegment segment) = some p' ∧ p'.zone.isWithin = false ∧
      p'.depth = p.depth := by
  unfold quoteSegment
  split
  · next star =>
    have plain : '*' ∉ d.signs := by cases d <;> decide
    rw [star, read_of_not_mem_signs out (by simpa using plain) (by simp)]
    exact ⟨_, rfl, rfl, rfl⟩
  · exact ⟨_, read_around out segment, rfl, rfl⟩

theorem read_quoteSegments (out : p.zone.isWithin = false) (segments : List (List Char)) :
    ∃ p', d.read p (['.'].intercalate (segments.map d.quoteSegment)) = some p' ∧
      p'.zone.isWithin = false ∧ p'.depth = p.depth := by
  induction segments generalizing p with
  | nil => exact ⟨p, rfl, out, rfl⟩
  | cons segment segments ih =>
    obtain ⟨q, hq, outq, depthq⟩ := read_quoteSegment (d := d) out segment
    cases segments with
    | nil => exact ⟨q, by simpa using hq, outq, depthq⟩
    | cons segment' segments =>
      have dot : '.' ∉ d.signs := by cases d <;> decide
      obtain ⟨p', hp', outp', depthp'⟩ := ih (p := ⟨.outside, q.depth⟩) rfl
      refine ⟨p', ?_, outp', depthp'.trans depthq⟩
      rw [List.map_cons, List.map_cons, List.intercalate_cons_cons, List.append_assoc,
        read_append_of_read hq, List.singleton_append, read, step_of_not_mem_signs outq dot,
        Option.bind_some]
      exact hp'

theorem read_quoteNameChars (out : p.zone.isWithin = false) (name : List Char) :
    ∃ p', d.read p (d.quoteNameChars name) = some p' ∧ p'.zone.isWithin = false ∧
      p'.depth = p.depth :=
  read_quoteSegments out _

end Dialect

end PolySql
