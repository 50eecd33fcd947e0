import PolySql.Proofs.Placeholders
import PolySql.Proofs.Stack

/-!
# Inner statements

While a statement is under construction another one can be started on top of it.  The calls that
concern the inner statement may start further ones on top of that, take them off, fail to add and
fail to compile.

**Inner statements leave the outer ones alone** (`Builder.run_inner`).  Calls that begin with a
start, stay above the statements there were and in the end return to as many leave the builder as it
was, so later calls answer what they would have answered without them.  Every build numbers its
parameters from `p1`, whatever was built before.

The statements below are a suffix of the stack, and no move reaches it as long as there are more
statements than that (`Moves.suffix`); a run is a chain of moves (`Builder.run_suffix`).
-/

namespace PolySql

/-! ### The statements below -/

/-- The statements below the one on top stay where they are, even when the one on top is taken. -/
theorem Moves.suffix {d : Dialect} {stack stack' below : List Statement}
    (move : Moves d stack stack') (there : below <:+ stack) (above : below.length < stack.length) :
    below <:+ stack' := by
  -- What lies below has fewer statements than the stack, so it does not begin with the one on top.
  have under : ∀ top rest, stack = top :: rest → below <:+ rest := by
    rintro top rest rfl
    rcases List.suffix_cons_iff.1 there with rfl | there
    · exact absurd above (Nat.lt_irrefl _)
    · exact there
  cases move with
  | stay => exact there
  | start body stack => exact there.trans (List.suffix_cons _ _)
  | extend rest allowed extended => exact (under _ rest rfl).trans (List.suffix_cons _ _)
  | take top => exact under top _ rfl

namespace Builder

/-- A run changes nothing but the stack. -/
theorem run_settings (b : Builder) (calls : List Call) :
    (b.run calls).2 = { b with stack := (b.run calls).2.stack } := by
  induction calls generalizing b with
  | nil => rfl
  | cons call calls ih =>
    obtain ⟨stack, -, next⟩ := b.perform_moves call
    have after := ih (b.perform call).2
    rw [run_cons, after]
    simp [next]

/-- What `Moves.suffix` says of one call holds of a run that stays above: the induction is on the
calls. -/
theorem run_suffix (calls : List Call) {b : Builder} {below : List Statement}
    (there : below <:+ b.stack)
    (above : ∀ calls', calls' <+: calls → below.length < (b.run calls').2.depth) :
    below <:+ (b.run calls).2.stack := by
  induction calls generalizing b with
  | nil => exact there
  | cons call calls ih =>
    obtain ⟨stack, move, next⟩ := b.perform_moves call
    have now : below.length < b.stack.length := above [] (List.nil_prefix)
    refine ih (b := (b.perform call).2) ?_ fun calls' before => ?_
    · rw [next]
      exact move.suffix there now
    · exact above (call :: calls') ((List.cons_prefix_cons).2 ⟨rfl, before⟩)

/-! ### Numbered parameters -/

end Builder

/-- The placeholders and the parameters are named from `p1` on, in the order of the text. -/
def Compiled.NumberedFromOne (marker : Char) (c : Compiled) : Prop :=
  ∃ (head : String) (tails : List String) (values : List Value),
    tails.length = values.length ∧
    c.sql = Template.weave head tails (Binder.namedPlaceholders marker 0 values.length) ∧
    c.params = .named ⟨Binder.numbered 0 values⟩

namespace Builder

variable {b : Builder}

theorem numberedFromOne_compile (named : b.mode = .named) {s : Statement} {c : Compiled}
    (compiled : b.compile s = .ok c) : c.NumberedFromOne b.marker := by
  have fresh : Binder.fresh b.mode b.marker = .named b.marker ⟨Binder.numbered 0 []⟩ := by
    rw [named]
    rfl
  rw [compile, s.compile_eq, fresh] at compiled
  cases ht : s.template b.dialect with
  | error e => simp [ht, Except.map] at compiled
  | ok t =>
    obtain rfl : ⟨_, (Template.fill _ t).2.params⟩ = c := by
      simpa [ht, Except.map] using compiled
    refine ⟨t.head, t.tails, t.values, t.length_tails, ?_, ?_⟩
    · rw [Template.fill_eq_weave, Binder.bindEach_numbered]
      rfl
    · rw [Template.fill_eq_weave, Binder.bindEach_numbered]
      rfl

/-- Every statement that a call builds is numbered anew. -/
theorem numberedFromOne_perform (named : b.mode = .named) (call : Call) :
    (∀ c, (b.perform call).1 = .built (.ok c) → c.NumberedFromOne b.marker) ∧
      ∀ sql params, (b.perform call).1 = .builtInto (.ok sql) params →
        Compiled.NumberedFromOne b.marker ⟨sql, params⟩ := by
  cases call with
  | build =>
    refine ⟨fun c built => ?_, fun sql params built => ?_⟩
    · cases stack : b.stack with
      | nil => simp [perform, on_build_of_stack_eq_nil stack] at built
      | cons top below =>
        refine numberedFromOne_compile named (s := top) ?_
        simpa [perform, on_build_of_stack_eq_cons stack] using built
    · cases built
  | buildInto before =>
    refine ⟨fun c built => ?_, fun sql params built => ?_⟩
    · cases built
    · cases stack : b.stack with
      | nil => simp [perform, on_buildInto_of_stack_eq_nil stack] at built
      | cons top below =>
        refine numberedFromOne_compile named (s := top) ?_
        cases compiled : b.compile top with
        | error e => simp [perform, on_buildInto_of_stack_eq_cons stack, compiled] at built
        | ok c =>
          obtain ⟨rfl, rfl⟩ : c.sql = sql ∧ c.params = params := by
            simpa [perform, on_buildInto_of_stack_eq_cons stack, compiled] using built
          rfl
  | _ => refine ⟨fun c built => ?_, fun sql params built => ?_⟩ <;> cases built

theorem numberedFromOne_run (named : b.mode = .named) (calls : List Call) :
    (∀ c, .built (.ok c) ∈ (b.run calls).1 → c.NumberedFromOne b.marker) ∧
      ∀ sql params, .builtInto (.ok sql) params ∈ (b.run calls).1 →
        Compiled.NumberedFromOne b.marker ⟨sql, params⟩ := by
  induction calls generalizing b with
  | nil => exact ⟨nofun, nofun⟩
  | cons call calls ih =>
    obtain ⟨stack, -, next⟩ := b.perform_moves call
    have now := numberedFromOne_perform named call
    have later := ih (b := (b.perform call).2) (by rw [next]; exact named)
    rw [show (b.perform call).2.marker = b.marker from next ▸ rfl] at later
    simp only [run_cons, List.mem_cons]
    exact ⟨fun c built => built.elim (fun h => now.1 c h.symm) (later.1 c),
      fun sql params built => built.elim (fun h => now.2 sql params h.symm) (later.2 sql params)⟩

/-! ### Inner runs -/

/-- **Inner statements leave the outer ones alone.**  The calls begin with a start, leave more
statements than there were until the last one, and as many after it.  Then the builder is as it was,
and later calls answer as if there had been none of them.  In a builder of named placeholders every
build is numbered from `p1`. -/
theorem run_inner {body : Body Statement} {inner : List Call} {last : Call}
    (above : ∀ calls, calls <+: inner → b.depth < (b.run (.start body :: calls)).2.depth)
    (back : (b.run (.start body :: inner ++ [last])).2.depth = b.depth) :
    (b.run (.start body :: inner ++ [last])).2 = b ∧
    (∀ later, b.run (.start body :: inner ++ [last] ++ later) =
      ((b.run (.start body :: inner ++ [last])).1 ++ (b.run later).1, (b.run later).2)) ∧
    (b.mode = .named → ∀ later,
      (∀ c, .built (.ok c) ∈ (b.run later).1 → c.NumberedFromOne b.marker) ∧
      ∀ sql params, .builtInto (.ok sql) params ∈ (b.run later).1 →
        Compiled.NumberedFromOne b.marker ⟨sql, params⟩) := by
  have there : b.stack <:+ (b.run (.start body :: inner)).2.stack :=
    run_suffix inner (b := b.start body) (List.suffix_cons _ _) above
  obtain ⟨stack, move, next⟩ := (b.run (.start body :: inner)).2.perform_moves last
  have suffix : b.stack <:+ stack := move.suffix there (above inner List.prefix_rfl)
  have final : (b.run (.start body :: inner ++ [last])).2 = { b with stack := stack } := by
    rw [run_concat, next, b.run_settings (.start body :: inner)]
  -- As many statements are left as there were, so nothing stands above the suffix.
  have same : b.stack = stack := by
    rw [final] at back
    exact suffix.eq_of_length back.symm
  have returned : (b.run (.start body :: inner ++ [last])).2 = b := by
    rw [final, ← same]
  refine ⟨returned, fun later => ?_, fun named later => numberedFromOne_run named later⟩
  rw [run_append, returned]

/-- The inner statement has a limit and refuses a second one, another one is taken from above it,
and it does not compile in the end. -/
theorem run_inner_failing :
    let b := (new .mysql .named).raw "SELECT 1"
    let inner : List Call := [.add (.limit (some ⟨1, none⟩)), .add (.limit (some ⟨2, none⟩)),
      .start (.raw "x"), .subquery]
    (∀ calls, calls <+: inner → b.depth < (b.run (.start (.select [] [] .none) :: calls)).2.depth) ∧
    (b.run (.start (.select [] [] .none) :: inner ++ [.build])).2.depth = b.depth ∧
    (b.run (.start (.select [] [] .none) :: inner ++ [.build])).2 = b := by
  intro b inner
  have above : ∀ calls, calls <+: inner →
      b.depth < (b.run (.start (.select [] [] .none) :: calls)).2.depth := by
    have some : ∀ n ≤ 4,
        b.depth < (b.run (.start (.select [] [] .none) :: inner.take n)).2.depth := by decide
    intro calls before
    rw [List.prefix_iff_eq_take.1 before]
    exact some calls.length before.length_le
  have back : (b.run (.start (.select [] [] .none) :: inner ++ [.build])).2.depth = b.depth := by
    decide
  exact ⟨above, back, (run_inner above back).1⟩

end Builder

end PolySql
