import Mathlib.Data.List.Chain
import PolySql.Proofs.Trimming

/-!
# Normal forms of type texts

Before a column type is read its text is brought into a normal form.  Its words are in lower case and
stand one space apart (`DataType.squeezed_normalForm`, `DataType.toLower_of_mem_normalForm`), so of
the white space that a reader would trim away only a single space can be there
(`Text.Squeezed.rest_of_trimChars`), as before parentheses (`DataType.inParens?_eq_some_iff`).
-/

namespace PolySql

namespace Text

variable {cs cs' core : List Char} {c : Char}

/-! ### Squeezed texts -/

/-- The white space is single spaces between other characters. -/
structure Squeezed (cs : List Char) : Prop where
  /-- All white space is spaces. -/
  eq_space : ∀ c ∈ cs, isWhitespace c = true → c = ' '
  /-- Next to white space there is none. -/
  apart : cs.IsChain fun c c' => isWhitespace c = true → isWhitespace c' = false
  first : ∀ c ∈ cs.head?, isWhitespace c = false
  last : ∀ c ∈ cs.getLast?, isWhitespace c = false

theorem IsWord.squeezed (h : IsWord cs) : Squeezed cs where
  eq_space c hc space := by
    rw [h.2 c hc] at space
    cases space
  apart := by
    have words := h.2
    clear h
    induction cs with
    | nil => exact .nil
    | cons c cs ih =>
      obtain ⟨first, rest⟩ := List.forall_mem_cons.1 words
      exact List.isChain_cons.2 ⟨fun y hy _ => rest y (List.mem_of_mem_head? hy), ih rest⟩
  first c hc := h.2 c (List.mem_of_mem_head? hc)
  last c hc := h.2 c (List.mem_of_mem_getLast? hc)

/-- A word and a space go before a text that is squeezed and not empty. -/
theorem Squeezed.cons_word {word : List Char} (hword : IsWord word) (h : Squeezed cs)
    (ne : cs ≠ []) : Squeezed (word ++ ' ' :: cs) where
  eq_space c hc space := by
    rcases List.mem_append.1 hc with inWord | inRest
    · exact hword.squeezed.eq_space c inWord space
    · rcases List.mem_cons.1 inRest with rfl | inRest
      · rfl
      · exact h.eq_space c inRest space
  apart := by
    refine List.isChain_append.2 ⟨hword.squeezed.apart, ?_, ?_⟩
    · exact List.isChain_cons.2 ⟨fun y hy _ => h.first y hy, h.apart⟩
    · intro x hx y _ space
      rw [hword.squeezed.last x hx] at space
      cases space
  first c hc := by
    rw [List.head?_append_of_ne_nil _ hword.1] at hc
    exact hword.squeezed.first c hc
  last c hc := by
    rw [List.getLast?_append_of_ne_nil _ (by simp), List.getLast?_cons_of_ne_nil ne] at hc
    exact h.last c hc

theorem squeezed_intercalate {words : List (List Char)} (h : ∀ word ∈ words, IsWord word) :
    Squeezed ([' '].intercalate words) := by
  induction words with
  | nil => exact ⟨nofun, .nil, nofun, nofun⟩
  | cons word words ih =>
    obtain ⟨first, rest⟩ := List.forall_mem_cons.1 h
    cases words with
    | nil =>
      rw [List.intercalate_singleton]
      exact first.squeezed
    | cons next words =>
      have ne : [' '].intercalate (next :: words) ≠ [] := by
        cases words <;> simp [List.intercalate_cons_cons, (rest next (by simp)).1]
      rw [List.intercalate_cons_cons, List.append_assoc]
      exact (ih rest).cons_word first ne

namespace Squeezed

theorem trimChars_eq (h : Squeezed cs) : trimChars cs = cs :=
  DataType.trimChars_eq_self h.first h.last

/-- What trimming takes away from the end of a squeezed text is a space in front, if anything. -/
theorem rest_of_trimChars {front : List Char} (h : Squeezed (front ++ cs))
    (trimmed : trimChars cs = core) : cs = core ∨ cs = ' ' :: core := by
  obtain ⟨before, after, hbefore, hafter, parts⟩ := surrounds_trimChars cs
  rw [trimmed] at parts
  obtain rfl : after = [] := by
    by_contra some
    obtain ⟨c, hc⟩ := Option.ne_none_iff_exists'.1 (mt List.getLast?_eq_none_iff.1 some)
    have visible : isWhitespace c = false := h.last c <| by
      rw [parts, ← List.append_assoc, List.getLast?_append_of_ne_nil _ some]
      exact hc
    rw [hafter c (List.mem_of_mem_getLast? hc)] at visible
    cases visible
  rw [List.append_nil] at parts
  cases before with
  | nil => exact .inl parts
  | cons c before =>
    obtain ⟨space, blank⟩ := List.forall_mem_cons.1 hbefore
    obtain rfl : c = ' ' := h.eq_space c (by simp [parts]) space
    cases before with
    | nil => exact .inr parts
    | cons c' before =>
      -- A second space would stand next to the first.
      have next := (List.isChain_append.1 h.apart).2.1
      rw [parts] at next
      have visible := (List.isChain_cons_cons.1 next).1 space
      rw [blank c' (by simp)] at visible
      cases visible

end Squeezed

/-! ### Lower case -/

/-- What is no code point becomes the first character. -/
theorem toNat_ofNat (n : Nat) : (Char.ofNat n).toNat = n ∨ (Char.ofNat n).toNat = 0 := by
  by_cases valid : n.isValidChar
  · have same : Char.ofNat n = Char.ofNatAux n valid := dif_pos valid
    exact .inl (congrArg Char.toNat same)
  · have zero : Char.ofNat n = '\x00' := dif_neg valid
    exact .inr (congrArg Char.toNat zero)

/-- A small letter of one character is none of the capital letters of ASCII. -/
theorem image?_above {run : CaseRun} (hrun : run ∈ caseRuns) {small : Char}
    (h : run.image? c = some small) : small.toNat < 65 ∨ 90 < small.toNat := by
  have above : ∀ run ∈ caseRuns, 90 < run.image := by decide +kernel
  have image := above run hrun
  unfold CaseRun.image? at h
  split at h
  · obtain rfl := Option.some.inj h
    rcases toNat_ofNat (run.image + (c.toNat - run.first)) with same | zero
    · omega
    · omega
  · cases h

/-- What is in lower case has no capital letters of ASCII. -/
theorem toLower_of_mem_lowercaseChar {small : Char} (h : small ∈ lowercaseChar c) :
    small.toLower = small := by
  by_contra changed
  obtain ⟨capital, -⟩ := (toLower_cases small).resolve_right fun same => changed same.2
  unfold lowercaseChar at h
  split at h
  · rcases List.mem_pair.1 h with rfl | rfl
    · exact absurd capital (by decide)
    · exact absurd capital (by decide)
  · obtain rfl := List.mem_singleton.1 h
    cases found : caseRuns.findSome? (·.image? c) with
    | none =>
      rw [found, Option.getD_none] at capital
      have first := List.findSome?_eq_none_iff.1 found _ (List.head_mem (l := caseRuns) nofun)
      unfold CaseRun.image? at first
      rw [if_pos ⟨capital.1, capital.2, Nat.mod_one _⟩] at first
      cases first
    | some image =>
      obtain ⟨run, hrun, here⟩ := List.exists_of_findSome?_eq_some found
      rw [found, Option.getD_some] at capital
      have := image?_above hrun here
      omega

end Text

namespace DataType

/-- What is in parentheses has white space around it at most. -/
theorem inParens?_eq_some_iff {cs inner : List Char} :
    inParens? cs = some inner ↔ Text.trimChars cs = '(' :: inner ++ [')'] := by
  constructor
  · intro found
    unfold inParens? at found
    split at found
    · next rest opened =>
      split at found
      · next closed =>
        obtain rfl := Option.some.inj found
        obtain ⟨inner, rfl⟩ := List.getLast?_eq_some_iff.1 closed
        rw [opened, List.dropLast_concat]
        rfl
      · cases found
    · cases found
  · intro text
    rw [inParens?, text]
    simp

/-- The words of a normal form stand one space apart. -/
theorem squeezed_normalForm (cs : List Char) : Text.Squeezed (normalForm cs) :=
  Text.squeezed_intercalate fun _ hword =>
    Text.isWord_of_mem_wordChars (List.mem_filter.1 hword).1

/-- A normal form has no capital letters. -/
theorem toLower_of_mem_normalForm {cs : List Char} {c : Char} (h : c ∈ normalForm cs) :
    c.toLower = c := by
  by_cases space : c = ' '
  · subst space
    decide
  by_contra capital
  -- All words are made of what lower case leaves.
  refine (not_mem_intercalate (by simpa using space) _).2 (fun word hword hc => capital ?_) h
  have here : c ∈ (Text.wordChars (Text.lowercaseChars cs)).flatten :=
    List.mem_flatten_of_mem (List.mem_filter.1 hword).1 hc
  rw [Text.flatten_wordChars] at here
  obtain ⟨letter, -, small⟩ := List.mem_flatMap.1 (List.mem_filter.1 here).1
  exact Text.toLower_of_mem_lowercaseChar small

end DataType

end PolySql
