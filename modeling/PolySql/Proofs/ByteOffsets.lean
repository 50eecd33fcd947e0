import PolySql.Proofs.NormalForms

/-!
# Types read by byte offsets

The parameters of a type can be cut out at offsets, which are counted in the bytes of UTF-8 and found
from the sizes of the names and of the text.  A cut is refused when an offset lies past the end or
inside a character, or when the first lies after the second (`Text.cut`, `Text.cut_eq_ok_iff`).  No
cut is refused when a type is read so, whatever its text is, **and the type is the one that is read
without offsets** (`DataType.atOffsets_eq`).
-/

namespace PolySql

namespace Text

variable {cs front part rest : List Char} {c : Char} {n start stop : Nat}

/-- The size in UTF-8. -/
def byteSize (cs : List Char) : Nat := (String.ofList cs).utf8ByteSize

@[simp] theorem byteSize_nil : byteSize [] = 0 := rfl

@[simp] theorem byteSize_append (cs cs' : List Char) :
    byteSize (cs ++ cs') = byteSize cs + byteSize cs' := by
  rw [byteSize, String.ofList_append, String.utf8ByteSize_append, byteSize, byteSize]

@[simp] theorem byteSize_cons (c : Char) (cs : List Char) :
    byteSize (c :: cs) = c.utf8Size + byteSize cs := by
  have single : byteSize [c] = c.utf8Size := by
    rw [byteSize, ← String.singleton_eq_ofList, String.utf8ByteSize_singleton]
  rw [← List.singleton_append, byteSize_append, single]

theorem byteSize_eq_zero_iff : byteSize cs = 0 ↔ cs = [] := by
  refine ⟨fun none => ?_, fun empty => by rw [empty, byteSize_nil]⟩
  cases cs with
  | nil => rfl
  | cons c cs =>
    have pos := c.utf8Size_pos
    rw [byteSize_cons] at none
    omega

/-! ### Cuts -/

/-- Why a cut is refused. -/
inductive CutFault where
  | pastEnd
  | insideChar
  | backwards
  deriving DecidableEq, Repr

/-- The characters before an offset, and those from it on. -/
def splitAtByte : Nat → List Char → Except CutFault (List Char × List Char)
  | 0, cs => .ok ([], cs)
  | _ + 1, [] => .error .pastEnd
  | n + 1, c :: cs =>
    if c.utf8Size ≤ n + 1 then
      (splitAtByte (n + 1 - c.utf8Size) cs).map fun parts => (c :: parts.1, parts.2)
    else .error .insideChar

/-- A text is split only between characters, at any place. -/
theorem splitAtByte_eq_ok_iff :
    splitAtByte n cs = .ok (front, rest) ↔ cs = front ++ rest ∧ byteSize front = n := by
  fun_induction splitAtByte n cs generalizing front with
  | case1 cs =>
    rw [Except.ok.injEq, Prod.mk.injEq, byteSize_eq_zero_iff]
    constructor
    · rintro ⟨rfl, rfl⟩
      exact ⟨rfl, rfl⟩
    · rintro ⟨rfl, rfl⟩
      exact ⟨rfl, rfl⟩
  | case2 n =>
    refine iff_of_false nofun ?_
    rintro ⟨parts, size⟩
    rw [(List.append_eq_nil_iff.1 parts.symm).1] at size
    cases size
  | case3 n c cs fits ih =>
    constructor
    · intro done
      cases inner : splitAtByte (n + 1 - c.utf8Size) cs with
      | error fault =>
        rw [inner] at done
        cases done
      | ok parts =>
        rw [inner] at done
        obtain ⟨rfl, rfl⟩ := Prod.mk.inj (Except.ok.inj done)
        obtain ⟨rfl, size⟩ := ih.1 inner
        exact ⟨rfl, by rw [byteSize_cons]; omega⟩
    · rintro ⟨parts, size⟩
      cases front with
      | nil => cases size
      | cons c' front =>
        obtain ⟨rfl, rest⟩ := List.cons.inj parts
        rw [byteSize_cons] at size
        rw [ih.2 ⟨rest, by omega⟩]
        rfl
  | case4 n c cs wide =>
    refine iff_of_false nofun ?_
    rintro ⟨parts, size⟩
    cases front with
    | nil => cases size
    | cons c' front =>
      obtain rfl := (List.cons.inj parts).1
      rw [byteSize_cons] at size
      omega

/-- The characters between two offsets. -/
def cut (cs : List Char) (start stop : Nat) : Except CutFault (List Char) :=
  if stop < start then .error .backwards
  else do
    let (front, _) ← splitAtByte stop cs
    let (_, part) ← splitAtByte start front
    return part

/-- A cut gives the part that begins and ends at the offsets, and is refused if there is none. -/
theorem cut_eq_ok_iff : cut cs start stop = .ok part ↔
    ∃ before after, cs = before ++ part ++ after ∧ byteSize before = start ∧
      byteSize (before ++ part) = stop := by
  constructor
  · intro done
    unfold cut at done
    split at done
    · cases done
    cases outer : splitAtByte stop cs with
    | error fault => simp [outer, bind, Except.bind] at done
    | ok parts =>
      cases inner : splitAtByte start parts.1 with
      | error fault => simp [outer, inner, bind, Except.bind] at done
      | ok parts' =>
        have same : parts'.2 = part := by
          simpa [outer, inner, bind, Except.bind, pure, Except.pure] using done
        obtain ⟨text, stops⟩ := splitAtByte_eq_ok_iff.1 outer
        obtain ⟨front, starts⟩ := splitAtByte_eq_ok_iff.1 inner
        rw [front, same] at text stops
        exact ⟨parts'.1, parts.2, text, starts, stops⟩
  · rintro ⟨before, after, rfl, starts, stops⟩
    have ordered : ¬ stop < start := by
      rw [byteSize_append] at stops
      omega
    have outer : splitAtByte stop (before ++ part ++ after) = .ok (before ++ part, after) :=
      splitAtByte_eq_ok_iff.2 ⟨rfl, stops⟩
    have inner : splitAtByte start (before ++ part) = .ok (before, part) :=
      splitAtByte_eq_ok_iff.2 ⟨rfl, starts⟩
    simp only [cut, if_neg ordered, outer, inner, bind, Except.bind, pure, Except.pure]

/-- The offset of the first such character. -/
def findByte? (c : Char) : List Char → Option Nat
  | [] => none
  | c' :: cs => if c' = c then some 0 else (findByte? c cs).map (c'.utf8Size + ·)

theorem findByte?_eq (c : Char) (cs : List Char) : findByte? c cs =
    if c ∈ cs then some (byteSize (cs.takeWhile (· ≠ c))) else none := by
  induction cs with
  | nil => rfl
  | cons c' cs ih =>
    rw [findByte?, ih]
    by_cases here : c' = c
    · subst here
      rw [if_pos rfl, if_pos (List.mem_cons_self ..), List.takeWhile_cons_of_neg (by simp)]
      rfl
    · rw [if_neg here, List.takeWhile_cons_of_pos (by simpa using here)]
      by_cases later : c ∈ cs
      · rw [if_pos later, if_pos (List.mem_cons_of_mem c' later), Option.map_some, byteSize_cons]
      · rw [if_neg later, if_neg (by simp [later, Ne.symm here])]
        rfl

end Text

namespace DataType

open Text (CutFault cut byteSize)

variable {cs inner : List Char}

/-! ### Types -/

/-- What stands between the parentheses, without the first byte and the last. -/
def inParensAt (cs : List Char) : Except CutFault (Option (List Char)) :=
  let text := Text.trimChars cs
  if text.head? = some '(' ∧ text.getLast? = some ')' then
    (cut text 1 (byteSize text - 1)).map some
  else .ok none

/-- The parameters of a type with one of the given names, cut from the end of the name on. -/
def parametersAt (cs : List Char) : List String → Except CutFault (Option (List Char))
  | [] => .ok none
  | name :: names => do
    let text := Text.trimChars cs
    if name.toList.isPrefixOf text then
      let rest ← cut text (byteSize name.toList) (byteSize text)
      match ← inParensAt rest with
      | some inner => return some inner
      | none => parametersAt cs names
    else parametersAt cs names

/-- An integer type cut before its first parenthesis, and any other type as it is. -/
def withoutDisplayWidthAt (cs : List Char) : Except CutFault (List Char) :=
  match Text.findByte? '(' cs with
  | some stop => do
    let name := Text.trimChars (← cut cs 0 stop)
    return if String.ofList name ∈ integerNames then name else cs
  | none => .ok cs

/-- The type of a text, read by offsets. -/
def atOffsets (s : String) : Except CutFault (Option DataType) := do
  let cs := normalForm s.toList
  match ← parametersAt cs decimalNames with
  | some parameters => return decimalOf? parameters
  | none =>
    match ← parametersAt cs varcharNames with
    | some parameters => return (lengthOf? parameters).map varchar
    | none =>
      match ← parametersAt cs charNames with
      | some parameters => return (lengthOf? parameters).map char
      | none => return simpleTypes.lookup (String.ofList (← withoutDisplayWidthAt cs))

theorem enclosed_iff : cs.head? = some '(' ∧ cs.getLast? = some ')' ↔
    ∃ inner, cs = '(' :: inner ++ [')'] := by
  constructor
  · rintro ⟨opened, closed⟩
    obtain ⟨rest, rfl⟩ := List.head?_eq_some_iff.1 opened
    cases rest with
    | nil => cases closed
    | cons c rest =>
      rw [List.getLast?_cons_of_ne_nil (by simp)] at closed
      obtain ⟨inner, closed⟩ := List.getLast?_eq_some_iff.1 closed
      exact ⟨inner, by rw [closed]; rfl⟩
  · rintro ⟨inner, rfl⟩
    exact ⟨rfl, List.getLast?_concat⟩

/-- A parenthesis is one byte. -/
theorem inParensAt_eq (cs : List Char) : inParensAt cs = .ok (inParens? cs) := by
  rw [inParensAt]
  by_cases parens : ∃ inner, Text.trimChars cs = '(' :: inner ++ [')']
  · obtain ⟨inner, text⟩ := parens
    have stops : byteSize (['('] ++ inner) = byteSize ('(' :: inner ++ [')']) - 1 := by
      have one : ')'.utf8Size = 1 := by decide
      simp only [List.cons_append, List.nil_append, Text.byteSize_cons, Text.byteSize_append,
        Text.byteSize_nil, one]
      omega
    have middle : cut ('(' :: inner ++ [')']) 1 (byteSize ('(' :: inner ++ [')']) - 1) = .ok inner :=
      Text.cut_eq_ok_iff.2 ⟨['('], [')'], rfl, rfl, stops⟩
    rw [inParens?_eq_some_iff.2 text, text, if_pos (enclosed_iff.2 ⟨inner, rfl⟩), middle]
    rfl
  · have none : inParens? cs = none := Option.eq_none_iff_forall_ne_some.2 fun inner found =>
      parens ⟨inner, inParens?_eq_some_iff.1 found⟩
    rw [if_neg (mt enclosed_iff.1 parens), none]

theorem parametersAt_eq (h : Text.Squeezed cs) (names : List String) :
    parametersAt cs names = .ok (parameters? names cs) := by
  induction names with
  | nil => rfl
  | cons name names ih =>
    rw [parametersAt, h.trimChars_eq, ih, parameters?, parameters?, List.findSome?_cons,
      ← List.isSome_isPrefixOf?_eq_isPrefixOf]
    cases start : name.toList.isPrefixOf? cs with
    | none => rfl
    | some rest =>
      obtain rfl := List.isPrefixOf?_eq_some_iff_append_eq.1 start
      have tail : cut (name.toList ++ rest) (byteSize name.toList)
          (byteSize (name.toList ++ rest)) = .ok rest :=
        Text.cut_eq_ok_iff.2 ⟨name.toList, [], by simp, rfl, rfl⟩
      simp only [Option.isSome_some, if_true, tail, Option.bind_some, bind, Except.bind,
        inParensAt_eq]
      cases inParens? rest <;> rfl

theorem withoutDisplayWidthAt_eq (cs : List Char) :
    withoutDisplayWidthAt cs = .ok (withoutDisplayWidth cs) := by
  rw [withoutDisplayWidthAt, withoutDisplayWidth, Text.findByte?_eq]
  by_cases opened : '(' ∈ cs
  · have front : cut cs 0 (byteSize (cs.takeWhile (· ≠ '('))) = .ok (cs.takeWhile (· ≠ '(')) :=
      Text.cut_eq_ok_iff.2 ⟨[], cs.dropWhile (· ≠ '('), by simp, rfl, rfl⟩
    rw [if_pos opened]
    simp only [front, opened, true_and, bind, Except.bind, pure, Except.pure]
  · rw [if_neg opened, if_neg fun width => opened width.1]

/-- **No cut is refused**, and offsets lead to the type that is read without them. -/
theorem atOffsets_eq (s : String) : atOffsets s = .ok (ofText? s) := by
  have names := parametersAt_eq (squeezed_normalForm s.toList)
  rw [atOffsets, ofText?, ofNormalForm?, names, names, names, withoutDisplayWidthAt_eq]
  cases parameters? decimalNames (normalForm s.toList) with
  | some inner => rfl
  | none =>
    cases parameters? varcharNames (normalForm s.toList) with
    | some inner => rfl
    | none => cases parameters? charNames (normalForm s.toList) <;> rfl

end DataType

end PolySql
