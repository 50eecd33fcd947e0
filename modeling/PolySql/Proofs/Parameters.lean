import PolySql.Proofs.Bindings
import PolySql.Proofs.Unmarked

/-!
# Parameters

**A compiled statement binds the values of the statement** (`Statement.compile_values`), all of
them, in text order and nothing else.  The values are found without asking for a dialect or a mode,
so all dialects in which a statement compiles bind the same.  In a positional text there is one
question mark for each, unless the statement brings question marks along in its names and texts.
-/

namespace PolySql

open Binder

/-- What a fresh binder holds after it took the values. -/
theorem Binder.values_bindEach_fresh (mode : ParamMode) (marker : Char) (vs : List Value) :
    ((fresh mode marker).bindEach vs).2.params.values = vs := by
  cases mode with
  | positional => rw [bindEach_fresh_positional]; rfl
  | named =>
    rw [bindEach_fresh_named]
    exact map_snd_numbered 0 vs

namespace Statement

variable {d : Dialect} {s : Statement} {mode : ParamMode} {marker : Char}

/-- **The parameters are the values of the statement, in text order.** -/
theorem compile_values {text : String} {b : Binder}
    (h : s.compile d (fresh mode marker) = .ok (text, b)) :
    b.params.values = s.values ∧ b = ((fresh mode marker).bindEach s.values).2 ∧
      (mode = .positional → AllUnmarked s.wordings →
        text.toList.count '?' = s.values.length) := by
  rw [compile_eq] at h
  cases ht : s.template d with
  | error e => simp [ht, Except.map] at h
  | ok t =>
    have values : t.values = s.values := values_template d s t ht
    obtain ⟨rfl, rfl⟩ : (Template.fill (fresh mode marker) t).1 = text ∧
        (Template.fill (fresh mode marker) t).2 = b := by
      simpa [ht, Except.map, Prod.ext_iff] using h
    have bound : (Template.fill (fresh mode marker) t).2 =
        ((fresh mode marker).bindEach s.values).2 := by
      rw [Template.fill_eq_weave, values]
    refine ⟨?_, bound, ?_⟩
    · rw [bound, values_bindEach_fresh]
    · rintro rfl unmarked
      rw [← values]
      exact Template.count_fill (unmarked_template d s unmarked t ht) []

/-- A text among the values may have a question mark, and what `IS` compares with is not bound. -/
theorem compile_values_delete :
    let s : Statement := of { Clauses.ofBody (.delete [.plain (.name "t")] .none) with
      filters := [⟨.isIn "a" [.value (.int 1), .value (.text "?")], .and⟩,
        ⟨.compare " is" "b" [.value .null], .or⟩] }
    let text := "DELETE FROM [t] WHERE ([a] IN (?, ?)) OR ([b] IS NULL)"
    s.compile .tsql (fresh .positional ':') = .ok (text, .positional [.int 1, .text "?"]) ∧
      s.values = [.int 1, .text "?"] ∧ text.toList.count '?' = s.values.length := by
  intro s text
  have compiled :
      s.compile .tsql (fresh .positional ':') = .ok (text, .positional [.int 1, .text "?"]) := rfl
  obtain ⟨values, -, marks⟩ := compile_values compiled
  exact ⟨compiled, values.symm, marks rfl (by decide)⟩

end Statement

end PolySql
