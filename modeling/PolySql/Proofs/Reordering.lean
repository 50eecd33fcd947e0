import Mathlib.Data.List.FinRange
import Mathlib.Data.List.Sort
import PolySql.Proofs.Stack

/-!
# The order of additions

Clauses of different kinds can be added in any order.

**Additions may be reordered** (`Builder.run_reordered`).  If additions of one kind stay in their
order, any order of all of them leaves the same builder, and each addition has the same answer,
whether it is made or refused.

What an addition reads and changes is `only` the clauses of its own kind, in a statement whose body
nobody changes.  Without the clauses of other kinds a run is the run of the additions of that kind
alone (`Builder.only_run`), so a reordering that keeps these in their order cannot be told from the
run as it was, one kind at a time.
-/

namespace PolySql

/-! ### The clauses of one kind -/

/-- The body with the clauses of one kind. -/
def Clauses.only {σ : Type} (kind : ClauseKind) (c : Clauses σ) : Clauses σ :=
  match kind with
  | .join => { Clauses.ofBody c.body with joins := c.joins }
  | .filter => { Clauses.ofBody c.body with filters := c.filters }
  | .group => { Clauses.ofBody c.body with groups := c.groups }
  | .having => { Clauses.ofBody c.body with havings := c.havings }
  | .order => { Clauses.ofBody c.body with orders := c.orders }
  | .limit => { Clauses.ofBody c.body with limit? := c.limit? }

@[simp] theorem Clauses.body_only {σ : Type} (kind : ClauseKind) (c : Clauses σ) :
    (c.only kind).body = c.body := by
  cases kind <;> rfl

/-- Clauses that are the same kind by kind are the same. -/
theorem Clauses.eq_of_only_eq {σ : Type} {c c' : Clauses σ} (h : ∀ kind, c.only kind = c'.only kind) :
    c = c' := by
  have joins := h .join
  have filters := h .filter
  have groups := h .group
  have havings := h .having
  have orders := h .order
  have limit := h .limit
  simp only [only, ofBody, mk.injEq, and_true, true_and] at joins filters groups havings orders limit
  cases c
  cases c'
  simp_all

namespace Statement

def only (kind : ClauseKind) (s : Statement) : Statement := of (s.clauses.only kind)

@[simp] theorem kind_only (kind : ClauseKind) (s : Statement) : (s.only kind).kind = s.kind :=
  congrArg Body.kind (Clauses.body_only kind s.clauses)

/-- An addition does the same whether there are clauses of other kinds or not. -/
theorem on_add_only (addition : Addition) (s : Statement) :
    (add addition).on (s.only addition.clause) =
      (((add addition).on s).1, ((add addition).on s).2.only addition.clause) := by
  cases addition with
  | limit _ =>
    -- What is answered depends on whether there is a limit, and `only` leaves that.
    obtain ⟨_, _, _, _, _, _, limit?⟩ := s
    cases limit? <;> rfl
  | _ => rfl

/-- An addition changes no clause of another kind. -/
theorem only_on_add {addition : Addition} {kind : ClauseKind} (other : addition.clause ≠ kind)
    (s : Statement) : ((add addition).on s).2.only kind = s.only kind := by
  rcases s.on_add addition with ⟨s', added, extended⟩ | refused
  · rw [added]
    refine congrArg of ?_
    cases addition with
    | limit limit? => cases kind <;> first | exact absurd rfl other | rw [extended.2]; rfl
    | _ => cases kind <;> first | exact absurd rfl other | rw [extended]; rfl
  · rw [refused]

end Statement

/-! ### Additions to a builder -/

namespace Builder

/-- The builder without the clauses of other kinds in the statement on top. -/
def only (kind : ClauseKind) (b : Builder) : Builder :=
  { b with stack := b.stack.modifyHead (Statement.only kind) }

/-- Builders of the same settings whose statements are the same kind by kind are the same. -/
theorem eq_of_only_eq {b b' : Builder} (h : ∀ kind, b.only kind = b'.only kind) : b = b' := by
  obtain ⟨d, mode, marker, stack⟩ := b
  obtain ⟨d', mode', marker', stack'⟩ := b'
  have one := h .join
  simp only [only, mk.injEq] at h one
  obtain ⟨rfl, rfl, rfl, statements⟩ := one
  rcases stack with _ | ⟨top, below⟩ <;> rcases stack' with _ | ⟨top', below'⟩
  · rfl
  · nomatch statements
  · nomatch statements
  · simp only [List.modifyHead_cons, List.cons.injEq, true_and] at h statements
    have tops : top.clauses = top'.clauses :=
      Clauses.eq_of_only_eq fun kind => Statement.of.inj (h kind).1
    obtain ⟨c⟩ := top
    obtain ⟨c'⟩ := top'
    obtain rfl : c = c' := tops
    rw [statements.2]

/-- An addition has the same answer, and does the same, whether there are clauses of other kinds or
not. -/
theorem perform_only (addition : Addition) (b : Builder) :
    (b.only addition.clause).perform (.add addition) =
      ((b.perform (.add addition)).1, (b.perform (.add addition)).2.only addition.clause) := by
  simp only [perform]
  cases stack : b.stack with
  | nil =>
    have stack' : (b.only addition.clause).stack = [] := by simp [only, stack]
    rw [on_add_of_stack_eq_nil stack, on_add_of_stack_eq_nil stack']
  | cons top below =>
    have stack' : (b.only addition.clause).stack = top.only addition.clause :: below := by
      simp [only, stack]
    cases vacant : addition.isVacant with
    | true => simp [on_add_of_isVacant vacant, stack, stack']
    | false =>
      rw [on_add_of_stack_eq_cons vacant stack, on_add_of_stack_eq_cons vacant stack',
        Statement.kind_only, Statement.on_add_only]
      have dialect : (b.only addition.clause).dialect = b.dialect := rfl
      rw [dialect]
      cases Statement.allow b.dialect top.kind addition.clause <;> simp [only, stack]

/-- An addition changes no clause of another kind. -/
theorem only_perform {addition : Addition} {kind : ClauseKind} (other : addition.clause ≠ kind)
    (b : Builder) : (b.perform (.add addition)).2.only kind = b.only kind := by
  simp only [perform]
  cases stack : b.stack with
  | nil => rw [on_add_of_stack_eq_nil stack]
  | cons top below =>
    cases vacant : addition.isVacant with
    | true => rw [on_add_of_isVacant vacant]
    | false =>
      rw [on_add_of_stack_eq_cons vacant stack]
      cases Statement.allow b.dialect top.kind addition.clause with
      | error e => rfl
      | ok u => simp [only, stack, Statement.only_on_add other]

/-! ### Runs of additions -/

/-- **A run leaves of one kind what the additions of that kind alone leave**: the induction is on
the additions, and those of other kinds are not seen. -/
theorem only_run (kind : ClauseKind) (additions : List Addition) (b : Builder) :
    (b.run (additions.map .add)).2.only kind =
      ((b.only kind).run ((additions.filter (·.clause = kind)).map .add)).2 := by
  induction additions generalizing b with
  | nil => rfl
  | cons addition additions ih =>
    rw [List.map_cons, run_cons, ih]
    by_cases own : addition.clause = kind
    · subst own
      rw [List.filter_cons_of_pos (by simp), List.map_cons, run_cons, perform_only]
    · rw [List.filter_cons_of_neg (by simpa using own), only_perform own]

/-- What an addition answers after others depends on those of its own kind alone. -/
theorem answer_after (addition : Addition) {before before' : List Addition}
    (same : before.filter (·.clause = addition.clause) =
      before'.filter (·.clause = addition.clause)) (b : Builder) :
    ((b.run (before.map .add)).2.perform (.add addition)).1 =
      ((b.run (before'.map .add)).2.perform (.add addition)).1 := by
  have alone : ∀ additions : List Addition,
      ((b.run (additions.map .add)).2.perform (.add addition)).1 =
        (((b.only addition.clause).run
          ((additions.filter (·.clause = addition.clause)).map .add)).2.perform
            (.add addition)).1 := by
    intro additions
    rw [← only_run, perform_only]
  rw [alone before, alone before', same]

/-! ### Permutations -/

section Permutations

variable {n : Nat} (additions : Fin n → Addition) (σ : Equiv.Perm (Fin n))

/-- The reordering keeps additions of one kind in their order. -/
def KeepsKinds : Prop :=
  ∀ i j, i < j → (additions (σ i)).clause = (additions (σ j)).clause → σ i < σ j

variable {additions σ}

/-- The places of the additions of one kind are in order after the reordering. -/
theorem KeepsKinds.pairwise (kept : KeepsKinds additions σ) (kind : ClauseKind) {places : List (Fin n)}
    (sorted : places.Pairwise (· < ·)) :
    ((places.map σ).filter fun i => (additions i).clause = kind).Pairwise (· < ·) := by
  rw [List.pairwise_filter, List.pairwise_map]
  refine sorted.imp fun {i j} before hi hj => kept i j before ?_
  simp only [decide_eq_true_eq] at hi hj
  rw [hi, hj]

theorem mem_take_finRange {i : Nat} {j : Fin n} : j ∈ (List.finRange n).take i ↔ j < i := by
  simp only [List.mem_take_iff_getElem, List.getElem_finRange, List.length_finRange]
  constructor
  · rintro ⟨k, hk, rfl⟩
    exact (Nat.lt_min.1 hk).1
  · intro h
    exact ⟨j, Nat.lt_min.2 ⟨h, j.isLt⟩, rfl⟩

theorem KeepsKinds.all (kept : KeepsKinds additions σ) (kind : ClauseKind) :
    (((List.finRange n).map σ).filter fun j => (additions j).clause = kind) =
      (List.finRange n).filter fun j => (additions j).clause = kind := by
  refine (kept.pairwise kind (List.pairwise_lt_finRange n)).eq_of_mem_iff
    ((List.pairwise_lt_finRange n).filter _) fun j => ?_
  simp only [List.mem_filter, List.mem_map, List.mem_finRange, true_and]
  exact and_iff_right (σ.surjective j)

/-- Before an addition stand the same additions of its kind as before the reordering. -/
theorem KeepsKinds.before (kept : KeepsKinds additions σ) (i : Fin n) :
    ((((List.finRange n).take i).map σ).filter
        fun j => (additions j).clause = (additions (σ i)).clause) =
      ((List.finRange n).take (σ i)).filter
        fun j => (additions j).clause = (additions (σ i)).clause := by
  have sorted : ∀ k, ((List.finRange n).take k).Pairwise (· < ·) := fun k =>
    (List.pairwise_lt_finRange n).sublist (List.take_sublist k _)
  refine (kept.pairwise _ (sorted i)).eq_of_mem_iff ((sorted (σ i)).filter _) fun j => ?_
  simp only [List.mem_filter, List.mem_map, mem_take_finRange, decide_eq_true_eq]
  refine and_congr_left fun own => ⟨?_, fun earlier => ?_⟩
  · rintro ⟨k, earlier, rfl⟩
    exact kept k i earlier own
  · obtain ⟨k, rfl⟩ := σ.surjective j
    refine ⟨k, Nat.lt_of_not_le fun later => ?_, rfl⟩
    -- Were it later, the order of the two would have been turned round.
    rcases Nat.lt_or_eq_of_le later with later | same
    · exact Nat.lt_asymm earlier (kept i k later own.symm)
    · rw [Fin.ext same] at earlier
      exact Nat.lt_irrefl _ earlier

/-- The answer of an addition among others. -/
def answerAt (b : Builder) (additions : Fin n → Addition) (i : Fin n) : Answer :=
  ((b.run ((((List.finRange n).take i).map additions).map .add)).2.perform (.add (additions i))).1

theorem ofFn_add (additions : Fin n → Addition) :
    (List.ofFn fun i => Call.add (additions i)) = ((List.finRange n).map additions).map .add := by
  rw [List.ofFn_eq_map, List.map_map]
  rfl

theorem run_ofFn_add (b : Builder) (additions : Fin n → Addition) :
    (b.run (List.ofFn fun i => .add (additions i))).1 = List.ofFn (b.answerAt additions) := by
  refine List.ext_getElem? fun i => ?_
  rw [run_getElem?, List.getElem?_ofFn, List.getElem?_ofFn, ofFn_add, ← List.map_take,
    ← List.map_take]
  split <;> rfl

/-- The additions of one kind at some places, after the reordering and before. -/
theorem filter_reordered (kind : ClauseKind) (places : List (Fin n)) :
    (places.map fun i => additions (σ i)).filter (·.clause = kind) =
      ((places.map σ).filter fun j => (additions j).clause = kind).map additions := by
  simp only [List.filter_map, List.map_map]
  rfl

/-- **Additions may be reordered**, if those of one kind stay in their order.  Each has the answer
that it had, whether it is made or refused, and the builder that they leave is the same, so what is
built from it is the same. -/
theorem run_reordered (b : Builder) (kept : KeepsKinds additions σ) :
    let first := b.run (List.ofFn fun i => .add (additions i))
    let second := b.run (List.ofFn fun i => .add (additions (σ i)))
    (∃ answers : Fin n → Answer,
      first.1 = List.ofFn answers ∧ second.1 = List.ofFn fun i => answers (σ i)) ∧
    second.2 = first.2 ∧ build.on second.2 = build.on first.2 := by
  intro first second
  have left : second.2 = first.2 := by
    refine eq_of_only_eq fun kind => ?_
    simp only [first, second, ofFn_add, only_run]
    rw [filter_reordered, kept.all, List.filter_map]
    rfl
  refine ⟨⟨b.answerAt additions, b.run_ofFn_add additions, ?_⟩, left, by rw [left]⟩
  refine (b.run_ofFn_add fun i => additions (σ i)).trans (congrArg List.ofFn (funext fun i => ?_))
  refine answer_after _ ?_ b
  rw [filter_reordered, kept.before, List.filter_map]
  rfl

/-- Two of these are refused: an `UPDATE` takes no second limit and no groups. -/
theorem run_reordered_update :
    let b := (new .mysql .positional).update [.plain (.name "t")] [.raw "a = 1"]
    let additions : Fin 4 → Addition := List.get [.limit (some ⟨1, none⟩), .limit (some ⟨2, none⟩),
      .group [.name "g"], .order [.raw "c"]]
    let σ : Equiv.Perm (Fin 4) := (Equiv.swap 0 1).trans (Equiv.swap 1 3)
    KeepsKinds additions σ ∧
      (b.run (List.ofFn fun i => .add (additions (σ i)))).2 =
        (b.run (List.ofFn fun i => .add (additions i))).2 := by
  intro b additions σ
  have kept : KeepsKinds additions σ := by
    unfold KeepsKinds
    decide
  exact ⟨kept, (run_reordered b kept).2.1⟩

end Permutations

end Builder

end PolySql
