/-!
# Lexemes of TOML

A document is cut into marks, bare words and quoted texts; blanks and comments are dropped and the
ends of lines are kept.  `lex?` refuses characters that may stand nowhere outside quotes, control
characters anywhere, and unknown escapes.
-/

namespace PolySql.Toml

/-- A lexeme. -/
inductive Lexeme where
  | lineEnd
  | dot
  | equals
  | comma
  | openBrace
  | closeBrace
  | openBracket
  | closeBracket
  | bare (word : List Char)
  | quoted (text : List Char)
  deriving DecidableEq, Repr

/-- What a reader makes of the front of its input, and the rest, which is shorter. -/
abbrev Read (τ α : Type) (input : List τ) := Option { r : α × List τ // r.2.length < input.length }

/-- The characters of quoted texts and comments: everything but control characters and tabs. -/
def isTextChar (c : Char) : Bool := c = '\t' || (0x20 ≤ c.toNat && c.toNat ≠ 0x7f)

/-- The characters of keys, numbers and truth values. -/
def isBareChar (c : Char) : Bool := c.isAlphanum || c = '_' || c = '-' || c = '+'

/-- The character of a one-letter escape. -/
def simpleEscape? : Char → Option Char
  | 'b' => some '\x08'
  | 't' => some '\t'
  | 'n' => some '\n'
  | 'f' => some '\x0c'
  | 'r' => some '\r'
  | 'e' => some '\x1b'
  | '\x22' => some '\x22'
  | '\\' => some '\\'
  | _ => none

def hexDigit? (c : Char) : Option Nat :=
  if '0' ≤ c ∧ c ≤ '9' then some (c.toNat - '0'.toNat)
  else if 'a' ≤ c ∧ c ≤ 'f' then some (c.toNat - 'a'.toNat + 10)
  else if 'A' ≤ c ∧ c ≤ 'F' then some (c.toNat - 'A'.toNat + 10)
  else none

/-- The character of a code point in hexadecimal digits. -/
def codePoint? (digits : List Char) : Option Char := do
  let values ← digits.mapM hexDigit?
  let n := values.foldl (fun n digit => 16 * n + digit) 0
  if n.isValidChar then some (Char.ofNat n) else none

/-- The text to a closing double quote. -/
def basicText? : (cs : List Char) → Read Char (List Char) cs
  | [] => none
  | '\x22' :: rest => some ⟨([], rest), by simp⟩
  | '\\' :: 'x' :: a :: b :: rest => do
    let char ← codePoint? [a, b]
    let ⟨(text, rest), h⟩ ← basicText? rest
    return ⟨(char :: text, rest), by simp only [List.length_cons] at h ⊢; omega⟩
  | '\\' :: 'u' :: a :: b :: c :: d :: rest => do
    let char ← codePoint? [a, b, c, d]
    let ⟨(text, rest), h⟩ ← basicText? rest
    return ⟨(char :: text, rest), by simp only [List.length_cons] at h ⊢; omega⟩
  | '\\' :: 'U' :: a :: b :: c :: d :: e :: f :: g :: i :: rest => do
    let char ← codePoint? [a, b, c, d, e, f, g, i]
    let ⟨(text, rest), h⟩ ← basicText? rest
    return ⟨(char :: text, rest), by simp only [List.length_cons] at h ⊢; omega⟩
  | '\\' :: escape :: rest => do
    let char ← simpleEscape? escape
    let ⟨(text, rest), h⟩ ← basicText? rest
    return ⟨(char :: text, rest), by simp only [List.length_cons] at h ⊢; omega⟩
  | c :: rest => do
    if c = '\\' ∨ isTextChar c = false then none
    let ⟨(text, rest), h⟩ ← basicText? rest
    return ⟨(c :: text, rest), by simp only [List.length_cons] at h ⊢; omega⟩

/-- The text to a closing single quote. -/
def literalText? : (cs : List Char) → Read Char (List Char) cs
  | [] => none
  | '\x27' :: rest => some ⟨([], rest), by simp⟩
  | c :: rest => do
    if isTextChar c = false then none
    let ⟨(text, rest), h⟩ ← literalText? rest
    return ⟨(c :: text, rest), by simp only [List.length_cons] at h ⊢; omega⟩

/-- The mark that a character is. -/
def mark? : Char → Option Lexeme
  | '\n' => some .lineEnd
  | '.' => some .dot
  | '=' => some .equals
  | ',' => some .comma
  | '\x7b' => some .openBrace
  | '\x7d' => some .closeBrace
  | '[' => some .openBracket
  | ']' => some .closeBracket
  | _ => none

/-- The lexemes of a document. -/
def lex? (cs : List Char) : Option (List Lexeme) :=
  match cs with
  | [] => some []
  | '\r' :: '\n' :: rest => do return .lineEnd :: (← lex? rest)
  | '\x22' :: rest => do
    let ⟨(text, after), _⟩ ← basicText? rest
    return .quoted text :: (← lex? after)
  | '\x27' :: rest => do
    let ⟨(text, after), _⟩ ← literalText? rest
    return .quoted text :: (← lex? after)
  | '#' :: rest => lex? (rest.dropWhile isTextChar)
  | c :: rest =>
    if c = ' ' ∨ c = '\t' then lex? rest
    else if isBareChar c then do
      return .bare (c :: rest.takeWhile isBareChar) :: (← lex? (rest.dropWhile isBareChar))
    else match mark? c with
      | some mark => do return mark :: (← lex? rest)
      | none => none
termination_by cs.length
decreasing_by
  · simp only [List.length_cons]; omega
  · rename_i h; simp only [List.length_cons] at h ⊢; omega
  · rename_i h; simp only [List.length_cons] at h ⊢; omega
  · exact Nat.lt_succ_of_le (List.dropWhile_suffix isTextChar).length_le
  · simp
  · exact Nat.lt_succ_of_le (List.dropWhile_suffix isBareChar).length_le
  · simp

end PolySql.Toml
