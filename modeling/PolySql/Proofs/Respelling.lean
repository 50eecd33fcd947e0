import PolySql.Proofs.TypeNames

/-!
# Type names in another spelling

Databases report a type in their own letter case and with their own white space.  A text spells
another one if it differs from it in these alone (`Text.Spells`): its letters may be capital or small,
white space may stand around it, and for each space there may be a longer run of white space.  Such
texts have the same words (`Text.Spells.lowerWords_eq`).

**A type is read back from its name, however it is spelled** (`Dialect.typeName_read_back`): in
PostgreSQL and the standard every type but the one-byte integer, which has the name of the two-byte
one, and in MySQL and T-SQL the types with parameters, whatever these are.
-/

namespace PolySql

namespace Text

/-! ### Spellings -/

/-- The first characters are the others in another letter case, with a run of white space for each
space. -/
inductive Respelled : List Char → List Char → Prop where
  | nil : Respelled [] []
  | letter {c c' : Char} {cs cs' : List Char} (same : c.toLower = c'.toLower)
      (rest : Respelled cs cs') : Respelled (c :: cs) (c' :: cs')
  | space {run cs cs' : List Char} (some : run ≠ []) (blank : IsBlank run)
      (rest : Respelled cs cs') : Respelled (run ++ cs) (' ' :: cs')

/-- The text `s` is `t` in another letter case, with white space around it and longer runs of white
space for its spaces. -/
def Spells (s t : String) : Prop :=
  ∃ before text after : List Char, s.toList = before ++ text ++ after ∧
    IsBlank before ∧ IsBlank after ∧ Respelled text t.toList

namespace Respelled

variable {cs cs' ds ds' : List Char}

theorem of_letters (same : cs.map Char.toLower = cs'.map Char.toLower) : Respelled cs cs' := by
  induction cs generalizing cs' with
  | nil =>
    obtain rfl := List.map_eq_nil_iff.1 same.symm
    exact .nil
  | cons c cs ih =>
    obtain ⟨c', cs', rfl, first, rest⟩ := List.map_eq_cons_iff.1 same.symm
    exact .letter first.symm (ih rest.symm)

theorem append (h : Respelled cs cs') (h' : Respelled ds ds') :
    Respelled (cs ++ ds) (cs' ++ ds') := by
  induction h with
  | nil => exact h'
  | letter same rest ih => exact .letter same ih
  | space some blank rest ih =>
    rw [List.append_assoc]
    exact .space some blank ih

/-- Neither the letter case nor the amount of white space changes the words.  What stands before
counts as well, for it may end within a word. -/
theorem wordChars_eq (h : Respelled cs cs') (front : List Char) :
    wordChars (front ++ cs.map Char.toLower) = wordChars (front ++ cs'.map Char.toLower) := by
  induction h generalizing front with
  | nil => rfl
  | @letter c c' cs cs' same rest ih =>
    have longer := ih (front ++ [c'.toLower])
    rw [List.append_assoc, List.append_assoc] at longer
    rw [List.map_cons, List.map_cons, same]
    exact longer
  | @space run cs cs' some blank rest ih =>
    obtain ⟨c, run, rfl⟩ := List.exists_cons_of_ne_nil some
    obtain ⟨first, others⟩ := List.forall_mem_cons.1 blank
    have blankRun : IsBlank (run.map Char.toLower) := by
      refine List.forall_mem_map.2 fun c hc => ?_
      rw [isWhitespace_toLower]
      exact others c hc
    have spaces : isWhitespace c.toLower = true ∧ isWhitespace (' ').toLower = true :=
      ⟨by rw [isWhitespace_toLower, first], by decide⟩
    rw [List.cons_append, List.map_cons, List.map_cons, List.map_append,
      wordChars_append_cons spaces.1, wordChars_append_cons spaces.2,
      wordChars_blank_append blankRun]
    exact congrArg (wordChars front ++ ·) (ih [])

end Respelled

theorem Spells.lowerWords_eq {s t : String} (h : Spells s t) : lowerWords s = lowerWords t := by
  obtain ⟨before, text, after, parts, hbefore, hafter, respelled⟩ := h
  have words := respelled.wordChars_eq []
  rw [List.nil_append, List.nil_append, wordChars_map_toLower, wordChars_map_toLower] at words
  rw [lowerWords, lowerWords, parts, wordChars_append_blank hafter, wordChars_blank_append hbefore,
    words]

end Text

namespace DataType

/-- The type has a precision and a scale, or a length. -/
def HasParameters : DataType → Prop
  | decimal .. | char _ | varchar _ => True
  | _ => False

end DataType

namespace Dialect

open DataType (ofText? ofWords? simple)

/-! ### Names read back -/

theorem ofWords?_typeName_ansi : ∀ t ∈ simple,
    ofWords? (Text.lowerWords (ansi.typeName t)) = some (if t = .int8 then .int16 else t) := by
  decide +kernel

theorem ofText?_typeName_of_hasParameters {d : Dialect} {t : DataType} (stored : d ≠ sqlite)
    (h : t.HasParameters) : ofText? (d.typeName t) = some t := by
  cases t with
  | decimal p s =>
    cases d with
    | sqlite => contradiction
    | _ => exact DataType.ofText?_decimalName p s
  | char n => exact ofText?_typeName_char stored n
  | varchar n => exact ofText?_typeName_varchar stored n
  | _ => exact h.elim

theorem ofText?_typeName_ansi (t : DataType) :
    ofText? (ansi.typeName t) = some (if t = .int8 then .int16 else t) := by
  have other : ansi ≠ sqlite := by decide
  cases t with
  | decimal p s | char n | varchar n =>
    rw [if_neg (by simp)]
    exact ofText?_typeName_of_hasParameters other trivial
  | _ =>
    rw [DataType.ofText?_eq (ansi.asciiWords_typeName _)]
    exact ofWords?_typeName_ansi _ (by simp [simple])

/-- **A type is read back from its name, however it is spelled.**  The name of the one-byte integer
is that of the two-byte one in PostgreSQL and the standard; the greatest length has a name of its own
in T-SQL. -/
theorem typeName_read_back (d : Dialect) (t : DataType) {s : String}
    (h : Text.Spells s (d.typeName t)) :
    (d = ansi ∨ d = postgres → t ≠ .int8 → ofText? s = some t) ∧
    (d = ansi ∨ d = postgres → t = .int8 → d.typeName t = "SMALLINT" ∧ ofText? s = some .int16) ∧
    (d = mysql ∨ d = tsql → t.HasParameters → ofText? s = some t) ∧
    tsql.typeName (.char 65535) = "NCHAR(MAX)" ∧
    tsql.typeName (.varchar 65535) = "NVARCHAR(MAX)" := by
  have read : ofText? s = ofText? (d.typeName t) :=
    DataType.ofText?_congr h.lowerWords_eq (d.asciiWords_typeName t)
  have standard : d = ansi ∨ d = postgres →
      ofText? s = some (if t = .int8 then .int16 else t) := by
    intro named
    have same : d.typeName t = ansi.typeName t := by rcases named with rfl | rfl <;> rfl
    rw [read, same, ofText?_typeName_ansi]
  refine ⟨fun named other => ?_, fun named byte => ?_, fun named parameters => ?_, rfl, rfl⟩
  · rw [standard named, if_neg other]
  · refine ⟨?_, by rw [standard named, if_pos byte]⟩
    subst byte
    rcases named with rfl | rfl <;> rfl
  · rw [read]
    refine ofText?_typeName_of_hasParameters ?_ parameters
    rcases named with rfl | rfl <;> decide

/-- A decimal as a database may report it, with white space that is not a space. -/
theorem typeName_read_back_decimal :
    Text.Spells "\tDecimal(10,\n  2)\u00a0" (mysql.typeName (.decimal 10 2)) ∧
      ofText? "\tDecimal(10,\n  2)\u00a0" = some (.decimal 10 2) := by
  have spelled : Text.Spells "\tDecimal(10,\n  2)\u00a0" (mysql.typeName (.decimal 10 2)) := by
    refine ⟨['\t'], "Decimal(10,\n  2)".toList, ['\u00a0'], by decide, by decide, by decide, ?_⟩
    have first : Text.Respelled "Decimal(10,".toList "DECIMAL(10,".toList := .of_letters (by decide)
    have last : Text.Respelled "2)".toList "2)".toList := .of_letters rfl
    have space : Text.IsBlank "\n  ".toList := by decide
    exact first.append (.space (by decide) space last)
  exact ⟨spelled, (mysql.typeName_read_back _ spelled).2.2.1 (.inl rfl) trivial⟩

end Dialect

end PolySql
