import PolySql.Builder.Run

/-!
# The stack of a builder

Every call works on the statement on top and on nothing below it.  `Moves` lists what a call can do
to the stack, and `Builder.perform_moves` says that it does no more; what holds of the statements of
a builder is proved from these moves.

**Calls are whole** (`Builder.calls_whole`).  A call that fails to add leaves the builder as it was.
One that succeeds adds to the end of one list of the statement on top.  A call that takes a
statement off takes the one on top, whether it compiles or not, and the caller's parameters change
only if it does.
-/

namespace PolySql

/-- `c'` is `c` with the addition at the end of the list of its kind.  A limit is set where there
was none. -/
def Addition.Extends (addition : Addition) (c c' : Clauses Statement) : Prop :=
  match addition with
  | .join entry => c' = { c with joins := c.joins ++ [entry] }
  | .filter filter? => c' = { c with filters := c.filters ++ filter?.toList }
  | .group items => c' = { c with groups := c.groups ++ items }
  | .having filter? => c' = { c with havings := c.havings ++ filter?.toList }
  | .order keys => c' = { c with orders := c.orders ++ keys }
  | .limit limit? => c.limit? = none ∧ c' = { c with limit? := limit? }

/-- What a call can do to the statements under construction. -/
inductive Moves (d : Dialect) : List Statement → List Statement → Prop where
  | stay (stack : List Statement) : Moves d stack stack
  | start (body : Body Statement) (stack : List Statement) : Moves d stack (.start body :: stack)
  | extend {addition : Addition} {top top' : Statement} (below : List Statement)
      (allowed : Statement.allow d top.kind addition.clause = .ok ())
      (extended : addition.Extends top.clauses top'.clauses) :
      Moves d (top :: below) (top' :: below)
  | take (top : Statement) (below : List Statement) : Moves d (top :: below) below

namespace Statement

/-- An addition to a statement is made, or the statement has its limit already and stays. -/
theorem on_add (s : Statement) (addition : Addition) :
    (∃ s', (add addition).on s = (.ok (), s') ∧ addition.Extends s.clauses s'.clauses) ∨
      (add addition).on s = (.error .duplicateLimit, s) := by
  cases addition with
  | limit limit? =>
    cases h : s.clauses.limit? with
    | none =>
      refine .inl ⟨of { s.clauses with limit? := limit? }, ?_, h, rfl⟩
      simp [add, Changing.on_bind, Clauses.add, h]
    | some limit => exact .inr (by simp [add, Changing.on_bind, h])
  | _ => exact .inl ⟨_, rfl, rfl⟩

end Statement

namespace Builder

/-! ### Adding -/

/-- Nothing can be added to any statement. -/
theorem on_add_of_isVacant {addition : Addition} (vacant : addition.isVacant = true) (b : Builder) :
    (add addition).on b = (if b.stack = [] then .error .noStatement else .ok (), b) := by
  cases h : b.stack <;> simp [add, vacant, Changing.on_bind, isIdle, h]

theorem on_add_of_stack_eq_nil {addition : Addition} {b : Builder} (h : b.stack = []) :
    (add addition).on b = (.error .noStatement, b) := by
  by_cases vacant : addition.isVacant = true
  · rw [on_add_of_isVacant vacant, if_pos h]
  · simp [add, vacant, onTop, Changing.on_bind, h]

/-- What is not nothing is added to the statement on top, if that takes it. -/
theorem on_add_of_stack_eq_cons {addition : Addition} (filled : addition.isVacant = false)
    {b : Builder} {top : Statement} {below : List Statement} (h : b.stack = top :: below) :
    (add addition).on b =
      match Statement.allow b.dialect top.kind addition.clause with
      | .error e => (.error e, b)
      | .ok () =>
        (((Statement.add addition).on top).1,
          { b with stack := ((Statement.add addition).on top).2 :: below }) := by
  simp only [add, filled, onTop, Changing.on_bind, Changing.on_get, h, Bool.false_eq_true, if_false,
    Changing.on_ofExcept]
  cases Statement.allow b.dialect top.kind addition.clause <;> rfl

/-- **What adding can do.**  It fails and leaves the builder, or there was nothing to add to the
statement there is, or the statement on top takes the addition. -/
theorem on_add_cases (b : Builder) (addition : Addition) :
    (∃ e, (add addition).on b = (.error e, b)) ∨
    (addition.isVacant = true ∧ b.stack ≠ [] ∧ (add addition).on b = (.ok (), b)) ∨
    ∃ top top' below, addition.isVacant = false ∧ b.stack = top :: below ∧
      (add addition).on b = (.ok (), { b with stack := top' :: below }) ∧
      Statement.allow b.dialect top.kind addition.clause = .ok () ∧
      addition.Extends top.clauses top'.clauses := by
  cases h : b.stack with
  | nil => exact .inl ⟨_, on_add_of_stack_eq_nil h⟩
  | cons top below =>
    cases vacant : addition.isVacant with
    | true =>
      refine .inr (.inl ⟨rfl, by simp, ?_⟩)
      rw [on_add_of_isVacant vacant, if_neg (by simp [h])]
    | false =>
      rw [on_add_of_stack_eq_cons vacant h]
      cases allowed : Statement.allow b.dialect top.kind addition.clause with
      | error e => exact .inl ⟨e, rfl⟩
      | ok u =>
        rcases top.on_add addition with ⟨top', added, extended⟩ | twice
        · exact .inr (.inr ⟨top, top', below, rfl, rfl, by rw [added], allowed, extended⟩)
        · refine .inl ⟨.duplicateLimit, ?_⟩
          rw [twice, ← h]

/-! ### Taking off -/

variable {b : Builder}

theorem on_subquery_of_stack_eq_nil (h : b.stack = []) :
    subquery.on b = (.error .noStatement, b) := by
  simp [subquery, Changing.on_bind, h]

theorem on_buildInto_of_stack_eq_nil (h : b.stack = []) (params : Params) :
    buildInto.on (b, params) = (.error .noStatement, b, params) := by
  simp [buildInto, Changing.on_bind, h]

theorem on_build_eq (b : Builder) :
    build.on b =
      ((buildInto.on (b, .empty)).1.map (⟨·, (buildInto.on (b, .empty)).2.2⟩),
        (buildInto.on (b, .empty)).2.1) := rfl

theorem on_build_of_stack_eq_nil (h : b.stack = []) : build.on b = (.error .noStatement, b) := by
  rw [on_build_eq, on_buildInto_of_stack_eq_nil h]
  rfl

variable {top : Statement} {below : List Statement} (h : b.stack = top :: below)
include h

theorem on_subquery_of_stack_eq_cons : subquery.on b = (.ok top, { b with stack := below }) := by
  simp only [subquery, Changing.on_bind, Changing.on_get, h, Changing.on_modify, Changing.on_pure]

/-- The statement on top is gone, and the parameters are new only if it compiles. -/
theorem on_buildInto_of_stack_eq_cons (params : Params) :
    buildInto.on (b, params) =
      match b.compile top with
      | .error e => (.error e, { b with stack := below }, params)
      | .ok compiled => (.ok compiled.sql, { b with stack := below }, compiled.params) := by
  simp only [buildInto, Changing.on_bind, Changing.on_get, h, Changing.on_modify,
    Changing.on_ofExcept]
  cases b.compile top <;> rfl

theorem on_build_of_stack_eq_cons :
    build.on b = (b.compile top, { b with stack := below }) := by
  rw [on_build_eq, on_buildInto_of_stack_eq_cons h]
  cases b.compile top <;> rfl

omit h

/-! ### Calls -/

/-- **A call does what `Moves` lists**, and changes nothing but the stack. -/
theorem perform_moves (b : Builder) (call : Call) :
    ∃ stack, Moves b.dialect b.stack stack ∧ (b.perform call).2 = { b with stack := stack } := by
  cases call with
  | start body => exact ⟨_, .start body b.stack, rfl⟩
  | add addition =>
    rcases b.on_add_cases addition with
      ⟨e, failed⟩ | ⟨-, -, vacant⟩ | ⟨top, top', below, -, h, added, allowed, extended⟩
    · exact ⟨b.stack, .stay _, by simp [perform, failed]⟩
    · exact ⟨b.stack, .stay _, by simp [perform, vacant]⟩
    · exact ⟨top' :: below, h ▸ .extend below allowed extended, by simp [perform, added]⟩
  | subquery =>
    cases h : b.stack with
    | nil => exact ⟨[], .stay _, by simp [perform, on_subquery_of_stack_eq_nil h, ← h]⟩
    | cons top below =>
      exact ⟨below, .take top below, by simp [perform, on_subquery_of_stack_eq_cons h]⟩
  | build =>
    cases h : b.stack with
    | nil => exact ⟨[], .stay _, by simp [perform, on_build_of_stack_eq_nil h, ← h]⟩
    | cons top below =>
      exact ⟨below, .take top below, by simp [perform, on_build_of_stack_eq_cons h]⟩
  | buildInto params =>
    cases h : b.stack with
    | nil => exact ⟨[], .stay _, by simp [perform, on_buildInto_of_stack_eq_nil h, ← h]⟩
    | cons top below =>
      refine ⟨below, .take top below, ?_⟩
      simp only [perform, on_buildInto_of_stack_eq_cons h]
      cases b.compile top <;> rfl

/-- **Calls are whole.**  A call that fails to add leaves the builder as it was.  One that adds
something puts it at the end of its list in the statement on top, and leaves the statements below.
Nothing can be added if and only if there is a statement.  A call that takes a statement off fails
and leaves everything when there is none, and otherwise takes the one on top and no other, whether
it compiles or not.  The caller's parameters give way to those of the compiled statement, whatever
they were, and stay when it does not compile. -/
theorem calls_whole (b : Builder) :
    (∀ addition e b', (add addition).on b = (.error e, b') → b' = b) ∧
    (∀ addition b', addition.isVacant = false → (add addition).on b = (.ok (), b') →
      ∃ top top' below, b.stack = top :: below ∧ b' = { b with stack := top' :: below } ∧
        addition.Extends top.clauses top'.clauses) ∧
    (∀ addition, addition.isVacant = true →
      (add addition).on b = (if b.stack = [] then .error .noStatement else .ok (), b)) ∧
    (b.stack = [] → ∀ params,
      subquery.on b = (.error .noStatement, b) ∧
      build.on b = (.error .noStatement, b) ∧
      buildInto.on (b, params) = (.error .noStatement, b, params)) ∧
    (∀ top below, b.stack = top :: below → ∀ params,
      subquery.on b = (.ok top, { b with stack := below }) ∧
      build.on b = (b.compile top, { b with stack := below }) ∧
      buildInto.on (b, params) =
        match b.compile top with
        | .error e => (.error e, { b with stack := below }, params)
        | .ok compiled => (.ok compiled.sql, { b with stack := below }, compiled.params)) := by
  refine ⟨?failing, ?adding, ?vacant, ?idle, ?taking⟩
  case failing =>
    intro addition e b' failed
    rcases b.on_add_cases addition with
      ⟨e', h⟩ | ⟨-, -, h⟩ | ⟨top, top', below, -, -, h, -, -⟩
    · rw [h] at failed
      exact (Prod.mk.inj failed).2.symm
    all_goals simp [h] at failed
  case adding =>
    intro addition b' filled added
    rcases b.on_add_cases addition with
      ⟨e, h⟩ | ⟨vacant, -, -⟩ | ⟨top, top', below, -, stack, h, -, extended⟩
    · simp [h] at added
    · simp [filled] at vacant
    · rw [h] at added
      exact ⟨top, top', below, stack, (Prod.mk.inj added).2.symm, extended⟩
  case vacant =>
    intro addition vacant
    exact on_add_of_isVacant vacant b
  case idle =>
    intro h params
    exact ⟨on_subquery_of_stack_eq_nil h, on_build_of_stack_eq_nil h,
      on_buildInto_of_stack_eq_nil h params⟩
  case taking =>
    intro top below h params
    exact ⟨on_subquery_of_stack_eq_cons h, on_build_of_stack_eq_cons h,
      on_buildInto_of_stack_eq_cons h params⟩

end Builder

end PolySql
