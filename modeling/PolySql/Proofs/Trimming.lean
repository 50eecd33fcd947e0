import PolySql.Proofs.TypeNames

/-!
# Trimming

What trimming takes away of a text is the white space in front and behind (`Text.surrounds_trimChars`),
so what it leaves is settled by any core that the text surrounds with white space
(`Text.Surrounds.trimChars_eq`).  Trimming again takes nothing away (`Text.trimChars_trimChars`), and
the letter case does not matter to it (`Text.trimChars_map_toLower`).
-/

namespace PolySql

namespace Text

variable {blank core cs : List Char} {c : Char}

/-! ### White space around a text -/

/-- The text is the core with white space around it. -/
def Surrounds (cs core : List Char) : Prop :=
  ∃ before after, IsBlank before ∧ IsBlank after ∧ cs = before ++ core ++ after

theorem IsBlank.reverse (h : IsBlank cs) : IsBlank cs.reverse :=
  fun c hc => h c (List.mem_reverse.1 hc)

/-- What is trimmed away is white space in front and behind. -/
theorem surrounds_trimChars (cs : List Char) : Surrounds cs (trimChars cs) := by
  have blank (ds : List Char) : IsBlank (ds.takeWhile isWhitespace) :=
    List.all_eq_true.1 List.all_takeWhile
  have split (ds : List Char) : ds.takeWhile isWhitespace ++ trimStart ds = ds :=
    List.takeWhile_append_dropWhile
  refine ⟨cs.takeWhile isWhitespace, ((trimStart cs).reverse.takeWhile isWhitespace).reverse,
    blank cs, (blank _).reverse, ?_⟩
  rw [trimChars, List.append_assoc, ← List.reverse_append, split, List.reverse_reverse, split]

theorem mem_of_mem_trimChars (h : c ∈ trimChars cs) : c ∈ cs := by
  obtain ⟨before, after, -, -, parts⟩ := surrounds_trimChars cs
  rw [parts]
  simp [h]

/-- What is no white space is not trimmed away. -/
theorem mem_trimChars (h : c ∈ cs) (visible : isWhitespace c = false) : c ∈ trimChars cs := by
  obtain ⟨before, after, hbefore, hafter, parts⟩ := surrounds_trimChars cs
  have outside {ds : List Char} (blank : IsBlank ds) : c ∉ ds := by
    intro inside
    rw [blank c inside] at visible
    cases visible
  rw [parts, List.mem_append, List.mem_append] at h
  exact (h.resolve_right (outside hafter)).resolve_left (outside hbefore)

/-- Nothing is trimmed away if nothing is missing. -/
theorem trimChars_eq_self_of_length (h : (trimChars cs).length = cs.length) :
    trimChars cs = cs := by
  obtain ⟨before, after, -, -, parts⟩ := surrounds_trimChars cs
  have sizes : cs.length = before.length + (trimChars cs).length + after.length := by
    conv_lhs => rw [parts]
    rw [List.length_append, List.length_append]
  obtain rfl : before = [] := List.length_eq_zero_iff.1 (by omega)
  obtain rfl : after = [] := List.length_eq_zero_iff.1 (by omega)
  simpa using parts.symm

theorem trimChars_append_blank (h : IsBlank blank) (cs : List Char) :
    trimChars (cs ++ blank) = trimChars cs := by
  have nothing : trimStart blank = [] := by
    rw [← List.append_nil blank, trimStart_blank_append h, trimStart, List.dropWhile_nil]
  have parts : trimStart (cs ++ blank) =
      if (trimStart cs).isEmpty then trimStart blank else trimStart cs ++ blank :=
    List.dropWhile_append
  rw [trimChars, parts, trimChars]
  split
  · next empty => rw [nothing, List.isEmpty_iff.1 empty]
  · rw [List.reverse_append, trimStart_blank_append h.reverse]

theorem Surrounds.trimChars_eq (h : Surrounds cs core) : trimChars cs = trimChars core := by
  obtain ⟨before, after, hbefore, hafter, parts⟩ := h
  rw [parts, trimChars_append_blank hafter, trimChars_blank_append hbefore]

theorem trimChars_trimChars (cs : List Char) : trimChars (trimChars cs) = trimChars cs :=
  (Surrounds.trimChars_eq (surrounds_trimChars cs)).symm

/-! ### Letter case -/

theorem trimStart_map_toLower (cs : List Char) :
    trimStart (cs.map Char.toLower) = (trimStart cs).map Char.toLower := by
  have same : isWhitespace ∘ Char.toLower = isWhitespace := funext isWhitespace_toLower
  rw [trimStart, List.dropWhile_map, same, trimStart]

theorem trimChars_map_toLower (cs : List Char) :
    trimChars (cs.map Char.toLower) = (trimChars cs).map Char.toLower := by
  rw [trimChars, trimStart_map_toLower, ← List.map_reverse, trimStart_map_toLower,
    ← List.map_reverse, trimChars]

end Text

end PolySql
