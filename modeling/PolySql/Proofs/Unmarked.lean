import PolySql.Proofs.Induction
import PolySql.Proofs.LaidOut
import PolySql.Proofs.Operators

/-!
# Texts without question marks

A text is unmarked if no question mark is in it.  Quoting a name puts none in, and what is plain has
none.

**A question mark in a rendering is in a wording of the statement** (`Statement.unmarked_template`),
or it is a placeholder.  If no wording has one, the question marks of a positional text are the
placeholders (`Template.count_fill`).
-/

namespace PolySql

/-- No question mark is in the text. -/
def Unmarked (s : String) : Prop := '?' ∉ s.toList

instance (s : String) : Decidable (Unmarked s) := inferInstanceAs (Decidable ('?' ∉ s.toList))

theorem Plain.unmarked {s : String} (h : Plain s) : Unmarked s := fun marked =>
  absurd (h '?' marked) (by decide)

/-- No wording has a question mark. -/
def AllUnmarked (ws : List Wording) : Prop := ∀ w ∈ ws, Unmarked w.text

instance (ws : List Wording) : Decidable (AllUnmarked ws) :=
  inferInstanceAs (Decidable (∀ w ∈ ws, Unmarked w.text))

/-! ### Quoted names -/

theorem QuotePair.not_mem_around {quotes : QuotePair} {c : Char} {name : List Char}
    (hopen : c ≠ quotes.opening) (hclose : c ≠ quotes.closing) (h : c ∉ name) :
    c ∉ quotes.around name := by
  simp only [around, doubled, List.mem_append, List.mem_cons, List.mem_flatMap]
  rintro ((rfl | ⟨e, he, hc⟩) | rfl | hc)
  · exact hopen rfl
  · obtain rfl : c = e := by
      split at hc <;> simpa using hc
    exact h he
  · exact hclose rfl
  · nomatch hc

namespace Dialect

variable {d : Dialect} {name : String}

theorem not_mem_around {cs : List Char} (h : '?' ∉ cs) : '?' ∉ d.quotes.around cs :=
  QuotePair.not_mem_around (by cases d <;> decide) (by cases d <;> decide) h

theorem unmarked_quoteIdentifier (h : Unmarked name) : Unmarked (d.quoteIdentifier name) := by
  rw [Unmarked, toList_quoteIdentifier]
  exact not_mem_around h

theorem unmarked_quoteName (h : Unmarked name) : Unmarked (d.quoteName name) := by
  have dot : '?' ∉ ['.'] := by decide
  rw [Unmarked, toList_quoteName, quoteNameChars, not_mem_intercalate dot]
  have segments : ['.'].intercalate (name.toList.splitOn '.') = name.toList :=
    List.intercalate_splitOn '.'
  rw [Unmarked, ← segments, not_mem_intercalate dot] at h
  simp only [List.mem_map]
  rintro _ ⟨segment, hsegment, rfl⟩
  rw [quoteSegment]
  split
  · exact h segment hsegment
  · exact not_mem_around (h segment hsegment)

end Dialect

/-! ### Templates -/

/-- No piece of text has a question mark. -/
def Template.AllUnmarked (t : Template) : Prop := ∀ s, .text s ∈ t → Unmarked s

namespace Template

@[simp] theorem allUnmarked_nil : AllUnmarked [] := nofun

@[simp] theorem allUnmarked_text (s : String) (t : Template) :
    AllUnmarked (.text s :: t) ↔ Unmarked s ∧ t.AllUnmarked := by
  simp [AllUnmarked]

@[simp] theorem allUnmarked_slot (value : Value) (t : Template) :
    AllUnmarked (.slot value :: t) ↔ t.AllUnmarked := by
  simp [AllUnmarked]

@[simp] theorem allUnmarked_append (t u : Template) :
    (t ++ u).AllUnmarked ↔ t.AllUnmarked ∧ u.AllUnmarked := by
  simp [AllUnmarked, or_imp, forall_and]

/-- In a positional text the question marks are the placeholders. -/
theorem count_fill {t : Template} (h : t.AllUnmarked) (vs : List Value) :
    (fill (.positional vs) t).1.toList.count '?' = t.values.length := by
  induction t generalizing vs with
  | nil => rfl
  | cons piece t ih =>
    cases piece with
    | text s =>
      obtain ⟨hs, ht⟩ := (allUnmarked_text s t).1 h
      simp [fill, ih ht, List.count_eq_zero_of_not_mem hs, values]
    | slot value =>
      have ht := (allUnmarked_slot value t).1 h
      simp [fill, Binder.bind, ih ht, values, Nat.add_comm]

end Template

/-- What is laid out from unmarked texts and templates is unmarked. -/
theorem Laid.allUnmarked {σ : Type} {d : Dialect} {Q : σ → Template → Prop} {a b : Spot}
    {t : Template} {qs : List σ} (h : Laid d (fun w => Unmarked w.text) Q a t b qs)
    (hQ : ∀ q t, Q q t → t.AllUnmarked) : t.AllUnmarked := by
  induction h with
  | nil => simp
  | empty => simp +decide
  | words n s h => simpa using h.1.unmarked
  | opening => simp +decide
  | closing => simp +decide
  | name n h => simpa [Wording.text] using Dialect.unmarked_quoteName h
  | label n h => simpa [Wording.text] using Dialect.unmarked_quoteIdentifier h
  | verbatim n h => simpa [Wording.text] using h
  | slot => simp
  | enclosed n h => simp +decide [Template.parens, hQ _ _ h]
  | bare n h => exact hQ _ _ h
  | append h h' ih ih' => simp [ih, ih']
  | spell h h' ih ih' => simp_all [Unmarked]
  | enter h ih | leave h ih | subset h sub ih => exact ih

/-- **A question mark in a template is in a wording of the statement.** -/
theorem Statement.unmarked_template (d : Dialect) (s : Statement) :
    AllUnmarked s.wordings → Ensures (s.template d) Template.AllUnmarked := by
  induction s using induct with
  | step c =>
    intro hc t ht
    rw [template_of, Clauses.map_map] at ht
    rw [wordings_of, Clauses.map_map] at hc
    refine (Clauses.laid_template c hc t ht 0).allUnmarked fun q t renders => ?_
    exact q.property renders.2 t renders.1

end PolySql
