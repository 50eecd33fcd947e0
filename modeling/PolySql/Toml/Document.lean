import PolySql.Toml.Basic
import PolySql.Toml.Lexeme

/-!
# Reading TOML documents

A document is read from header to header and from entry to entry: a header opens a table, and an
entry goes into the table that was opened last.  Each stands on a line of its own, but inside an
inline table lines may end.  The values are texts, integers, truth values and inline tables.  Dotted
keys and nested inline tables have a greatest length (`pathLimit`, `nestingLimit`).
-/

namespace PolySql.Toml

/-! ### Scalars -/

/-- The value of digits of a base, among which single underscores may stand. -/
def digitsValue? (base : Nat) (cs : List Char) : Option Nat := do
  let groups := cs.splitOn '_'
  if groups.any List.isEmpty then none
  let digits ← groups.flatten.mapM hexDigit?
  if digits.all (· < base) then some (digits.foldl (fun n digit => base * n + digit) 0) else none

/-- A decimal number without needless zeros. -/
def decimalValue? : List Char → Option Nat
  | '0' :: _ :: _ => none
  | cs => digitsValue? 10 cs

/-- An integer of 128 bits, signed or not: decimal with a sign or without, or of another base with a
letter for the base. -/
def integer? (cs : List Char) : Option Int := do
  let n ← match cs with
    | '0' :: 'x' :: digits => (digitsValue? 16 digits).map Int.ofNat
    | '0' :: 'o' :: digits => (digitsValue? 8 digits).map Int.ofNat
    | '0' :: 'b' :: digits => (digitsValue? 2 digits).map Int.ofNat
    | '+' :: digits => (decimalValue? digits).map Int.ofNat
    | '-' :: digits => (decimalValue? digits).map fun n => -(n : Int)
    | digits => (decimalValue? digits).map Int.ofNat
  if -(Nat.pow 2 127 : Int) ≤ n ∧ n < Nat.pow 2 128 then some n else none

/-- The value of a bare word. -/
def scalar? (word : List Char) : Option Scalar :=
  if word = "true".toList then some (.boolean true)
  else if word = "false".toList then some (.boolean false)
  else (integer? word).map .integer

/-! ### Keys and values -/

/-- The key that a lexeme is. -/
def key? : Lexeme → Option String
  | .bare word => if '+' ∈ word then none else some (String.ofList word)
  | .quoted text => some (String.ofList text)
  | _ => none

/-- The most keys that dots may join. -/
def pathLimit : Nat := 80

/-- A dotted key: the keys before its last dot, and the last. -/
def dottedKey? (lexemes : List Lexeme) : Option (List String × String) := do
  let keys ← (lexemes.splitOn .dot).mapM fun
    | [lexeme] => key? lexeme
    | _ => none
  let last ← keys.getLast?
  if keys.length ≤ pathLimit then some (keys.dropLast, last) else none

/-- The lexemes without the line ends at the front. -/
def dropLineEnds (input : List Lexeme) : List Lexeme := input.dropWhile (· = .lineEnd)

theorem length_dropLineEnds_le (input : List Lexeme) :
    (dropLineEnds input).length ≤ input.length :=
  (List.dropWhile_suffix _).length_le

/-- The lexemes without the line ends at the back. -/
def dropLineEndsRight (input : List Lexeme) : List Lexeme := (dropLineEnds input.reverse).reverse

/-- A dotted key and the equals sign after it, with `trim` for what may stand between the two. -/
def assignedKey? (trim : List Lexeme → List Lexeme) (input : List Lexeme) :
    Read Lexeme (List String × String) input :=
  match h : input.dropWhile (· ≠ .equals) with
  | _ :: rest => do
    let key ← dottedKey? (trim (input.takeWhile (· ≠ .equals)))
    return ⟨(key, rest), by
      have := congrArg List.length (List.takeWhile_append_dropWhile (p := (· ≠ .equals)) (l := input))
      simp only [h, List.length_append, List.length_cons] at this
      simp only
      omega⟩
  | [] => none

/-- The most inline tables that may stand inside one another. -/
def nestingLimit : Nat := 80

mutual

/-- A value in which at most `depth` inline tables stand inside one another. -/
def value? (depth : Nat) (input : List Lexeme) : Read Lexeme Node input :=
  match input with
  | .quoted text :: rest => some ⟨(.scalar (.string (String.ofList text)), rest), by simp⟩
  | .bare word :: rest => (scalar? word).map fun s => ⟨(.scalar s, rest), by simp⟩
  | .openBrace :: rest =>
    match depth with
    | 0 => none
    | depth + 1 => do
      let ⟨(entries, after), h⟩ ← members? depth [] rest
      return ⟨(.table .inlined entries, after), by simp only [List.length_cons] at h ⊢; omega⟩
  | _ => none
termination_by input.length

/-- The members of an inline table after those that were read, to the closing brace.  Lines may end
between them and around their equals signs, and a comma may stand after the last. -/
def members? (depth : Nat) (entries : Entries) (input : List Lexeme) :
    Read Lexeme Entries input :=
  match hi : dropLineEnds input with
  | .closeBrace :: after => some ⟨(entries, after), by
      have := length_dropLineEnds_le input
      simp only [hi, List.length_cons] at this ⊢
      omega⟩
  | start => do
    have hinput : start.length ≤ input.length := hi ▸ length_dropLineEnds_le input
    let ⟨((path, key), rest), h⟩ ← assignedKey? dropLineEndsRight start
    have hrest := length_dropLineEnds_le rest
    let ⟨(node, rest'), h'⟩ ← value? depth (dropLineEnds rest)
    let entries ← enter? path key node entries
    match hr : dropLineEnds rest' with
    | .comma :: after => do
      have hafter : after.length + 1 ≤ rest'.length := by
        simpa only [hr, List.length_cons] using length_dropLineEnds_le rest'
      let ⟨(entries, after'), h''⟩ ← members? depth entries after
      return ⟨(entries, after'), by simp only at h h' h'' ⊢; omega⟩
    | .closeBrace :: after =>
      have hafter : after.length + 1 ≤ rest'.length := by
        simpa only [hr, List.length_cons] using length_dropLineEnds_le rest'
      return ⟨(entries, after), by simp only at h h' ⊢; omega⟩
    | _ => none
termination_by input.length
decreasing_by
  all_goals simp only at *
  all_goals omega

end

/-! ### Documents -/

/-- What has been read: the document and the path of the table that is open. -/
structure Progress where
  entries : Entries
  current : List String

/-- Read headers and entries, each to the end of its line. -/
def read? (progress : Progress) (input : List Lexeme) : Option Progress :=
  match input with
  | [] => some progress
  | .lineEnd :: rest => read? progress rest
  | .openBracket :: rest => do
    let header := rest.takeWhile (· ≠ .lineEnd)
    if header.getLast? ≠ some .closeBracket then none
    let (path, key) ← dottedKey? header.dropLast
    let entries ← openTable? path key progress.entries
    read? ⟨entries, path ++ [key]⟩ (rest.dropWhile (· ≠ .lineEnd))
  | start => do
    let ⟨((path, key), rest), _⟩ ← assignedKey? id start
    let ⟨(node, rest'), h⟩ ← value? nestingLimit rest
    let entries ← modifyAt? progress.current (enter? path key node) progress.entries
    match rest', h with
    | [], _ => return { progress with entries }
    | .lineEnd :: after, _ => read? { progress with entries } after
    | _, _ => none
termination_by input.length
decreasing_by
  · simp
  · exact Nat.lt_succ_of_le (List.dropWhile_suffix _).length_le
  · rename_i hkey hvalue
    simp only [List.length_cons] at hkey hvalue ⊢
    omega

/-- The characters after the byte order mark that a document may begin with. -/
def dropByteOrderMark : List Char → List Char
  | '\ufeff' :: cs => cs
  | cs => cs

/-- The entries of a document, if it is one. -/
def document? (s : String) : Option Entries := do
  let lexemes ← lex? (dropByteOrderMark s.toList)
  let progress ← read? ⟨[], []⟩ lexemes
  return progress.entries

end PolySql.Toml
