import PolySql.Proofs.Stack

/-!
# Nothing that was added is dropped

The layout of a statement passes over the clauses that its kind does not have, so a clause that got
into a statement where it does not belong would be lost without an error.

**No such statement can be built** (`Builder.run_proper`).  Whatever calls are made on a new
builder, and whether they fail or not, every statement under construction and every subquery taken
has only clauses that its kind has in the dialect.  A limit that was set stays as it is.
-/

namespace PolySql

/-! ### The clauses of a statement -/

/-- There is a clause of this kind. -/
def Clauses.Has {σ : Type} (c : Clauses σ) : ClauseKind → Prop
  | .join => c.joins ≠ []
  | .filter => c.filters ≠ []
  | .group => c.groups ≠ []
  | .having => c.havings ≠ []
  | .order => c.orders ≠ []
  | .limit => c.limit? ≠ none

namespace Statement

/-- Only clauses that the kind of the statement has in the dialect. -/
def Proper (d : Dialect) (s : Statement) : Prop :=
  match s.kind, s.clauses with
  | .select, _ => True
  | .raw, c | .insert, c =>
    c.joins = [] ∧ c.filters = [] ∧ c.groups = [] ∧ c.havings = [] ∧ c.orders = [] ∧ c.limit? = none
  | .update, c =>
    c.groups = [] ∧ c.havings = [] ∧ (d.supportsUpdateJoin = false → c.joins = []) ∧
      (d.supportsDmlOrderLimit = false → c.orders = [] ∧ c.limit? = none)
  | .delete, c =>
    c.joins = [] ∧ c.groups = [] ∧ c.havings = [] ∧
      (d.supportsDmlOrderLimit = false → c.orders = [] ∧ c.limit? = none)

/-- Every clause of the statement is one that may be added to it. -/
def AllAllowed (d : Dialect) (s : Statement) : Prop :=
  ∀ clause, s.clauses.Has clause → allow d s.kind clause = .ok ()

theorem allAllowed_start (d : Dialect) (body : Body Statement) : (start body).AllAllowed d := by
  intro clause has
  cases clause <;> exact absurd rfl has

/-- What may not be added is not there. -/
theorem AllAllowed.proper {d : Dialect} {s : Statement} (h : s.AllAllowed d) : s.Proper d := by
  have absent : ∀ clause, allow d s.kind clause ≠ .ok () → ¬ s.clauses.Has clause :=
    fun clause refused has => refused (h clause has)
  have joins := absent .join
  have filters := absent .filter
  have groups := absent .group
  have havings := absent .having
  have orders := absent .order
  have limit := absent .limit
  simp only [Clauses.Has, ne_eq, Classical.not_not] at joins filters groups havings orders limit
  unfold Proper
  cases hk : s.kind <;> simp_all [allow]

end Statement

/-! ### What an addition leaves -/

namespace Addition.Extends

variable {addition : Addition} {c c' : Clauses Statement}

theorem body_eq (h : addition.Extends c c') : c'.body = c.body := by
  cases addition with
  | limit limit? => exact h.2 ▸ rfl
  | _ => exact h ▸ rfl

/-- No clause of another kind is added. -/
theorem has (h : addition.Extends c c') {clause : ClauseKind} (now : c'.Has clause) :
    clause = addition.clause ∨ c.Has clause := by
  cases addition with
  | limit limit? =>
    obtain ⟨-, rfl⟩ := h
    cases clause with
    | limit => exact .inl rfl
    | _ => exact .inr now
  | _ =>
    obtain rfl := h
    cases clause <;> first | exact .inl rfl | exact .inr now

theorem limit?_eq (h : addition.Extends c c') {limit : Limit} (set : c.limit? = some limit) :
    c'.limit? = some limit := by
  cases addition with
  | limit limit? => exact absurd (h.1.symm.trans set) (by simp)
  | _ => exact h ▸ set

end Addition.Extends

/-! ### Calls -/

namespace Moves

variable {d : Dialect} {stack stack' : List Statement}

/-- Whatever is done to the stack, the statements on it have only what may be added to them. -/
theorem allAllowed (move : Moves d stack stack') (h : ∀ s ∈ stack, s.AllAllowed d) :
    ∀ s ∈ stack', s.AllAllowed d := by
  cases move with
  | stay => exact h
  | start body stack =>
    intro s hs
    rcases List.mem_cons.1 hs with rfl | hs
    · exact Statement.allAllowed_start d body
    · exact h s hs
  | @extend addition top top' below allowed extended =>
    intro s hs
    rcases List.mem_cons.1 hs with rfl | hs
    · have kind : s.kind = top.kind := congrArg Body.kind extended.body_eq
      intro clause now
      rw [kind]
      rcases extended.has now with rfl | before
      · exact allowed
      · exact h top (by simp) clause before
    · exact h s (by simp [hs])
  | take top below =>
    intro s hs
    exact h s (by simp [hs])

/-- A statement with a limit keeps it, as long as it is not taken. -/
theorem limit?_eq (move : Moves d stack stack') {above below : List Statement} {s : Statement}
    {limit : Limit} (place : stack = above ++ s :: below) (set : s.clauses.limit? = some limit)
    (there : below.length < stack'.length) :
    ∃ above' s', stack' = above' ++ s' :: below ∧ s'.clauses.limit? = some limit := by
  cases move with
  | stay => exact ⟨above, s, place, set⟩
  | start body stack => exact ⟨.start body :: above, s, by simp [place], set⟩
  | @extend addition top top' rest allowed extended =>
    rcases List.cons_eq_append_iff.1 place with ⟨rfl, onTop⟩ | ⟨above', rfl, rfl⟩
    · obtain ⟨rfl, rfl⟩ := List.cons.inj onTop
      exact ⟨[], top', rfl, extended.limit?_eq set⟩
    · exact ⟨top' :: above', s, rfl, set⟩
  | take top rest =>
    rcases List.cons_eq_append_iff.1 place with ⟨rfl, onTop⟩ | ⟨above', rfl, rfl⟩
    · obtain ⟨rfl, rfl⟩ := List.cons.inj onTop
      exact absurd there (Nat.lt_irrefl _)
    · exact ⟨above', s, rfl, set⟩

end Moves

namespace Builder

/-- A subquery that is taken was on the stack. -/
theorem mem_stack_of_taken {b : Builder} {call : Call} {s : Statement}
    (h : (b.perform call).1 = .taken (.ok s)) : s ∈ b.stack := by
  cases call with
  | subquery =>
    cases stack : b.stack with
    | nil => simp [perform, on_subquery_of_stack_eq_nil stack] at h
    | cons top below =>
      obtain rfl : top = s := by simpa [perform, on_subquery_of_stack_eq_cons stack] using h
      exact List.mem_cons_self
  | _ => cases h

/-! ### Runs -/

/-- What `Moves` preserves, a run preserves: the induction is on the calls. -/
theorem run_allAllowed (calls : List Call) {b : Builder}
    (h : ∀ s ∈ b.stack, s.AllAllowed b.dialect) :
    (∀ s ∈ (b.run calls).2.stack, s.AllAllowed b.dialect) ∧
      ∀ s, .taken (.ok s) ∈ (b.run calls).1 → s.AllAllowed b.dialect := by
  induction calls generalizing b with
  | nil => exact ⟨h, nofun⟩
  | cons call calls ih =>
    obtain ⟨stack, move, next⟩ := b.perform_moves call
    have after := ih (b := (b.perform call).2) (by rw [next]; exact move.allAllowed h)
    rw [show (b.perform call).2.dialect = b.dialect from next ▸ rfl] at after
    refine ⟨after.1, fun s hs => ?_⟩
    rcases List.mem_cons.1 hs with now | later
    · exact h s (mem_stack_of_taken now.symm)
    · exact after.2 s later

/-- The statement with the limit is on the stack throughout, so each call finds it there. -/
theorem run_limit? (calls : List Call) {b : Builder} {above below : List Statement} {s : Statement}
    {limit : Limit} (place : b.stack = above ++ s :: below) (set : s.clauses.limit? = some limit)
    (there : ∀ calls', calls' <+: calls → below.length < (b.run calls').2.depth) :
    ∃ above' s', (b.run calls).2.stack = above' ++ s' :: below ∧
      s'.clauses.limit? = some limit := by
  induction calls generalizing b above s with
  | nil => exact ⟨above, s, place, set⟩
  | cons call calls ih =>
    obtain ⟨stack, move, next⟩ := b.perform_moves call
    have still : below.length < (b.perform call).2.stack.length := there [call] (by simp)
    rw [next] at still
    obtain ⟨above', s', place', set'⟩ := move.limit?_eq place set still
    refine ih (b := (b.perform call).2) (by rw [next]; exact place') set' fun calls' before => ?_
    exact there (call :: calls') ((List.cons_prefix_cons).2 ⟨rfl, before⟩)

/-- **Nothing that was added is dropped.**  On the way of any calls from a new builder, the
statements under construction and the subqueries taken have only clauses that their layouts write
and the dialect has.  A limit that was set on a statement is its limit after any further calls
during which the statement stays. -/
theorem run_proper (d : Dialect) (mode : ParamMode) (marker : Char) (calls : List Call) :
    let (answers, b) := ((new d mode).withMarker marker).run calls
    (∀ s ∈ b.stack, s.Proper d) ∧
    (∀ s, .taken (.ok s) ∈ answers → s.Proper d) ∧
    ∀ above s below limit, b.stack = above ++ s :: below → s.clauses.limit? = some limit →
      ∀ later, (∀ calls', calls' <+: later → below.length < (b.run calls').2.depth) →
        ∃ above' s', (b.run later).2.stack = above' ++ s' :: below ∧
          s'.clauses.limit? = some limit := by
  have allowed := run_allAllowed calls (b := (new d mode).withMarker marker) nofun
  refine ⟨fun s hs => (allowed.1 s hs).proper, fun s hs => (allowed.2 s hs).proper, ?_⟩
  intro above s below limit place set later there
  exact run_limit? later place set there

end Builder

end PolySql
