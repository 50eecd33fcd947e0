/-!
# When there is a result

`SucceedsIff r P` says that `r` has a result exactly if `P` holds.  Its rules follow the ways in
which renderings are put together.  Where there is none there is an error, in a list that of the
first entry that fails (`mapM_eq_error`).
-/

namespace PolySql

/-- There is a result exactly if `P` holds. -/
def SucceedsIff {ε α : Type} (r : Except ε α) (P : Prop) : Prop := (∃ a, r = .ok a) ↔ P

namespace SucceedsIff

variable {ε α β ι : Type} {r : Except ε α} {P Q : Prop}

theorem ok (a : α) : SucceedsIff (.ok a : Except ε α) True := ⟨fun _ => trivial, fun _ => ⟨a, rfl⟩⟩

theorem error (e : ε) : SucceedsIff (.error e : Except ε α) False := ⟨nofun, nofun⟩

theorem congr (h : SucceedsIff r P) (same : P ↔ Q) : SucceedsIff r Q := h.trans same

theorem of_ok (a : α) (h : P) : SucceedsIff (.ok a : Except ε α) P :=
  (ok a).congr (iff_of_true trivial h)

theorem of_error (e : ε) (h : ¬ P) : SucceedsIff (.error e : Except ε α) P :=
  (error e).congr (iff_of_false not_false h)

/-- A check before anything else: what it stops has no result. -/
theorem guard {p : Prop} [Decidable p] {e : ε} (h : SucceedsIff r P) :
    SucceedsIff (if p then .error e else r) (¬ p ∧ P) := by
  by_cases stopped : p
  · rw [if_pos stopped]
    exact of_error e fun both => both.1 stopped
  · rw [if_neg stopped]
    exact h.congr ⟨fun holds => ⟨stopped, holds⟩, And.right⟩

/-- Both parts have to succeed.  Of the first it may be needed what its result is. -/
theorem bind {k : α → Except ε β} (h : SucceedsIff r P)
    (hk : ∀ a, r = .ok a → SucceedsIff (k a) Q) : SucceedsIff (r >>= k) (P ∧ Q) := by
  cases r with
  | error e =>
    have failed : ¬ P := fun hP => nomatch h.2 hP
    exact (error e).congr (by simp [failed])
  | ok a =>
    have succeeded : P := h.1 ⟨a, rfl⟩
    exact (hk a rfl).congr (by simp [succeeded])

theorem map {l : α → β} (h : SucceedsIff r P) : SucceedsIff (r.map l) P := by
  cases r with
  | error e => exact (error e).congr ⟨nofun, fun hP => nomatch h.2 hP⟩
  | ok a => exact (ok (l a)).congr ⟨fun _ => h.1 ⟨a, rfl⟩, fun _ => trivial⟩

/-- Nothing that is only made of a result can fail. -/
theorem last {l : α → β} (h : SucceedsIff r P) : SucceedsIff (r >>= fun a => .ok (l a)) P :=
  (h.bind fun a _ => ok (l a)).congr (iff_of_eq (and_true P))

/-- A list succeeds if each of its entries does. -/
theorem mapM {f : ι → Except ε α} {P : ι → Prop} (xs : List ι)
    (h : ∀ x ∈ xs, SucceedsIff (f x) (P x)) : SucceedsIff (xs.mapM f) (∀ x ∈ xs, P x) := by
  induction xs with
  | nil => exact (ok []).congr (by simp)
  | cons x xs ih =>
    have rest := ih fun y hy => h y (by simp [hy])
    rw [List.mapM_cons]
    refine ((h x (by simp)).bind fun a _ => rest.last).congr ?_
    simp

/-- There is an error exactly where there is no result. -/
theorem fails_iff (h : SucceedsIff r (¬ P)) : (∃ e, r = .error e) ↔ P := by
  by_cases holds : P
  · cases r with
    | error e => exact ⟨fun _ => holds, fun _ => ⟨e, rfl⟩⟩
    | ok a => exact absurd holds (h.1 ⟨a, rfl⟩)
  · obtain ⟨a, rfl⟩ := h.2 holds
    exact ⟨nofun, fun holds' => absurd holds' holds⟩

end SucceedsIff

/-- The first entry that fails is the one that is reported, whatever comes after it. -/
theorem mapM_eq_error {ε α ι : Type} {f : ι → Except ε α} {before : List ι} {x : ι} {e : ε}
    (fine : ∀ y ∈ before, ∃ a, f y = .ok a) (failed : f x = .error e) (after : List ι) :
    (before ++ x :: after).mapM f = .error e := by
  induction before with
  | nil =>
    rw [List.nil_append, List.mapM_cons, failed]
    rfl
  | cons y before ih =>
    obtain ⟨a, first⟩ := fine y (by simp)
    have rest := ih fun z hz => fine z (by simp [hz])
    rw [List.cons_append, List.mapM_cons, first, rest]
    rfl

end PolySql
