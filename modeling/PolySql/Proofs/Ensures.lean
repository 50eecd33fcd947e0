import PolySql.Proofs.Filling

/-!
# What a result has

`Ensures r P` says that every result of `r` has the property `P`, and `Yields w P` that all that the
pass `w` writes has it.  They ask nothing of an error.  Their rules follow the ways in which
renderings and passes are put together.
-/

namespace PolySql

/-- A result of `r`, if there is one, has the property `P`. -/
def Ensures {ε α : Type} (r : Except ε α) (P : α → Prop) : Prop := ∀ a, r = .ok a → P a

namespace Ensures

variable {ε α β ι : Type} {r : Except ε α} {P : α → Prop} {Q : β → Prop}

theorem ok {a : α} (h : P a) : Ensures (.ok a : Except ε α) P := by
  rintro _ ⟨⟩
  exact h

theorem error (e : ε) : Ensures (.error e) P := nofun

theorem bind {k : α → Except ε β} (h : Ensures r P) (hk : ∀ a, P a → Ensures (k a) Q) :
    Ensures (r >>= k) Q := by
  cases r with
  | error e => exact .error e
  | ok a => exact hk a (h a rfl)

/-- Of the first part it may be needed what its result is. -/
theorem known {k : α → Except ε β} (hk : ∀ a, r = .ok a → Ensures (k a) Q) : Ensures (r >>= k) Q :=
  bind (P := (r = .ok ·)) (fun _ ha => ha) hk

/-- Of the first part nothing is needed. -/
theorem skip {k : α → Except ε β} (hk : ∀ a, Ensures (k a) Q) : Ensures (r >>= k) Q :=
  known fun a _ => hk a

theorem map {l : α → β} (h : Ensures r P) (hl : ∀ a, P a → Q (l a)) : Ensures (r.map l) Q := by
  cases r with
  | error e => exact .error e
  | ok a => exact .ok (hl a (h a rfl))

/-- The views of the results over a list are what they are at each entry. -/
theorem mapM_map {f : ι → Except ε α} {view : α → β} {v : ι → β} (xs : List ι)
    (h : ∀ x ∈ xs, Ensures (f x) (view · = v x)) :
    Ensures (xs.mapM f) fun as => as.map view = xs.map v := by
  induction xs with
  | nil => exact .ok rfl
  | cons x xs ih =>
    rw [List.mapM_cons]
    refine (h x (by simp)).bind fun a ha => ?_
    refine (ih fun y hy => h y (by simp [hy])).bind fun as has => .ok ?_
    rw [List.map_cons, ha, has, List.map_cons]

/-- A property of the results at all entries is one of all results. -/
theorem mapM {f : ι → Except ε α} (xs : List ι) (h : ∀ x ∈ xs, Ensures (f x) P) :
    Ensures (xs.mapM f) fun as => ∀ a ∈ as, P a := by
  induction xs with
  | nil => exact .ok (by simp)
  | cons x xs ih =>
    rw [List.mapM_cons]
    refine (h x (by simp)).bind fun a ha => ?_
    refine (ih fun y hy => h y (by simp [hy])).bind fun as has => .ok ?_
    simpa [ha] using has

end Ensures

/-! ### What a pass writes -/

/-- What the pass writes has the property, whatever binder is at hand. -/
def Yields {α : Type} (w : Writing α) (P : α → Prop) : Prop := ∀ b, Ensures (w.result b) (P ·.1)

namespace Yields

variable {α β : Type} {P : α → Prop} {Q : β → Prop}

theorem pure {a : α} (h : P a) : Yields (Pure.pure a) P := fun _ => .ok h

theorem bind {w : Writing α} {k : α → Writing β} (h : Yields w P) (hk : ∀ a, P a → Yields (k a) Q) :
    Yields (w >>= k) Q := by
  intro b
  rw [Writing.result_bind]
  exact (h b).bind fun p hp => hk p.1 hp p.2

/-- Of the first part nothing is needed. -/
theorem skip {w : Writing α} {k : α → Writing β} (hk : ∀ a, Yields (k a) Q) : Yields (w >>= k) Q :=
  bind (P := fun _ => True) (fun _ _ _ => trivial) fun a _ => hk a

theorem throw (e : CompileError) : Yields (MonadExcept.throw e : Writing α) P := fun _ => .error e

theorem ofExcept {r : Except CompileError α} (h : Ensures r P) :
    Yields (MonadExcept.ofExcept r) P := by
  intro b
  rw [Writing.result_ofExcept]
  exact h.map fun _ ha => ha

end Yields

end PolySql
