import PolySql.Writing

/-!
# Filling is writing

`Fills w r fill` says that a pass `w` with a binder at hand and a layout `r` without one agree:
with every binder, `w` gives what `fill` makes of the result of `r`, and an error where `r` has that
error.  Passes and layouts that are put together in the same way agree if their parts do; this
module has the rules for the ways that occur, and what filling does to joined templates.
-/

namespace PolySql

/-! ### The result of a pass -/

namespace Writing

variable {α β : Type}

@[simp] theorem result_pure (a : α) (b : Binder) : (pure a : Writing α).result b = .ok (a, b) := rfl

@[simp] theorem result_throw (e : CompileError) (b : Binder) :
    (throw e : Writing α).result b = .error e := rfl

@[simp] theorem result_place (value : Value) (b : Binder) :
    (place value).result b = .ok (b.bind value) := rfl

@[simp] theorem result_placeAll (batch : List Value) (b : Binder) :
    (placeAll batch).result b = .ok (b.bindAll batch) := rfl

/-- A pass goes on with what its first part gives and with the binder it leaves. -/
theorem result_bind (w : Writing α) (k : α → Writing β) (b : Binder) :
    (w >>= k).result b = w.result b >>= fun p => (k p.1).result p.2 := by
  simp only [result, bind, ExceptT.bind, ExceptT.mk, ExceptT.run, StateT.bind, StateT.run,
    ExceptT.bindCont]
  rcases w b with ⟨_ | _, _⟩ <;> rfl

@[simp] theorem result_ofExcept (r : Except CompileError α) (b : Binder) :
    (MonadExcept.ofExcept r : Writing α).result b = r.map (·, b) := by
  cases r <;> rfl

end Writing

/-! ### Agreement -/

/-- What `w` gives with a binder is what `fill` makes of the result of `r`. -/
def Fills {α β : Type} (w : Writing β) (r : Except CompileError α)
    (fill : Binder → α → β × Binder) : Prop :=
  ∀ b, w.result b = r.map (fill b)

namespace Fills

variable {α β γ δ : Type} {w : Writing β} {r : Except CompileError α}
variable {fill : Binder → α → β × Binder} {fill' : Binder → γ → δ × Binder}

theorem pure {b' : β} {a : α} (h : ∀ b, fill b a = (b', b)) :
    Fills (Pure.pure b') (.ok a) fill := by
  intro b
  simp [Except.map, h]

theorem throw (e : CompileError) : Fills (MonadExcept.throw e : Writing β) (.error e) fill :=
  fun _ => rfl

/-- What follows `w` and `r` may be compared from each result on, with the binder that filling the
result leaves.  `out` is what is made of the whole. -/
theorem bind {k : β → Writing δ} {l : α → Except CompileError γ} {out : γ → δ × Binder}
    {b : Binder} (h : Fills w r fill)
    (hk : ∀ a, (k (fill b a).1).result (fill b a).2 = (l a).map out) :
    (w >>= k).result b = (r >>= l).map out := by
  rw [Writing.result_bind, h b]
  cases r with
  | error e => rfl
  | ok a => exact hk a

/-- Both are done. -/
theorem done {b : Binder} {c : δ} {a : γ} {out : γ → δ × Binder} (h : out a = (c, b)) :
    (Pure.pure c : Writing δ).result b = (Pure.pure a : Except CompileError γ).map out :=
  congrArg Except.ok h.symm

theorem map {k : β → δ} {l : α → γ} (h : Fills w r fill)
    (hk : ∀ b a, fill' b (l a) = (k (fill b a).1, (fill b a).2)) :
    Fills (return k (← w)) (return l (← r)) fill' :=
  fun b => h.bind fun a => done (hk b a)

theorem ofExcept {r : Except CompileError α} {r' : Except CompileError β}
    (h : ∀ b, r'.map (·, b) = r.map (fill b)) :
    Fills (MonadExcept.ofExcept r') r fill :=
  fun b => by rw [Writing.result_ofExcept, h]

/-- A step without a binder is the same in a pass and in a layout. -/
theorem same (r : Except CompileError α) : Fills (MonadExcept.ofExcept r) r fun b a => (a, b) :=
  .ofExcept fun _ => rfl

end Fills

/-! ### Several results -/

/-- `fill` at each result in turn, each with the binder that the one before it leaves. -/
def fillEach {α β : Type} (fill : Binder → α → β × Binder) (b : Binder) : List α → List β × Binder
  | [] => ([], b)
  | a :: as =>
    let (a', b) := fill b a
    let (as', b) := fillEach fill b as
    (a' :: as', b)

/-- `fill` at the result, if there is one. -/
def fillOption {α β : Type} (fill : Binder → α → β × Binder) (b : Binder) :
    Option α → Option β × Binder
  | none => (none, b)
  | some a => (some (fill b a).1, (fill b a).2)

section FillEach

variable {α β γ δ ι : Type} {fill : Binder → α → β × Binder}

theorem length_fillEach (b : Binder) (as : List α) :
    (fillEach fill b as).1.length = as.length := by
  induction as generalizing b with
  | nil => rfl
  | cons a as ih => simp [fillEach, ih]

theorem fillEach_filterMap (b : Binder) (as : List (Option α)) :
    fillEach fill b (as.filterMap id) =
      ((fillEach (fillOption fill) b as).1.filterMap id, (fillEach (fillOption fill) b as).2) := by
  induction as generalizing b with
  | nil => rfl
  | cons a as ih =>
    cases a with
    | none => exact ih b
    | some a =>
      show fillEach fill b (a :: as.filterMap id) = _
      simp only [fillEach, ih]
      rfl

/-- Passes and layouts over one list agree if they agree at each entry. -/
theorem Fills.mapM {w : ι → Writing β} {r : ι → Except CompileError α} (xs : List ι)
    (h : ∀ x ∈ xs, Fills (w x) (r x) fill) :
    Fills (xs.mapM w) (xs.mapM r) (fillEach fill) := by
  induction xs with
  | nil => exact Fills.pure fun _ => rfl
  | cons x xs ih =>
    rw [List.mapM_cons, List.mapM_cons]
    intro b
    refine (h x (by simp)).bind fun a => ?_
    refine (ih fun y hy => h y (by simp [hy])).bind fun as => ?_
    rfl

/-- Passes that bind nothing may be compared one after the other: `out` gives the result of each
with the binder that is there before it. -/
theorem bind_of_map {r' : Except CompileError β} {r : Except CompileError α}
    {k : β → Except CompileError δ} {l : α → Except CompileError γ} {out : α → β × Binder}
    {out' : γ → δ × Binder} {b b' : Binder} (h : r'.map (·, b) = r.map out)
    (hk : ∀ a a', out a = (a', b) → (k a').map (·, b') = (l a).map out') :
    (r' >>= k).map (·, b') = (r >>= l).map out' := by
  cases r' <;> cases r <;>
    simp only [Except.map, Except.ok.injEq, Except.error.injEq, reduceCtorEq] at h
  · subst h
    rfl
  · exact hk _ _ h.symm

/-- A further pass `k` over what filling gives agrees with the pass `l` over the results, if it does
at each entry. -/
theorem mapM_fillEach {k : β → Except CompileError δ} {l : α → Except CompileError γ}
    {out : Binder → γ → δ × Binder}
    (h : ∀ b a, (k (fill b a).1).map (·, (fill b a).2) = (l a).map (out b)) (b : Binder)
    (as : List α) :
    ((fillEach fill b as).1.mapM k).map (·, (fillEach fill b as).2) =
      (as.mapM l).map (fillEach out b) := by
  induction as generalizing b with
  | nil => rfl
  | cons a as ih =>
    simp only [fillEach, List.mapM_cons]
    refine bind_of_map (h b a) fun c c' hc => ?_
    refine bind_of_map (ih (fill b a).2) fun cs cs' hcs => ?_
    refine congrArg Except.ok ?_
    simp [fillEach, hc, hcs]

end FillEach

/-! ### Filling templates -/

namespace Template

@[simp] theorem fill_text (b : Binder) (s : String) (t : Template) :
    fill b (.text s :: t) = (s ++ (fill b t).1, (fill b t).2) := rfl

@[simp] theorem fill_slot (b : Binder) (value : Value) (t : Template) :
    fill b (.slot value :: t) =
      ((b.bind value).1 ++ (fill (b.bind value).2 t).1, (fill (b.bind value).2 t).2) := rfl

@[simp] theorem fill_parens (b : Binder) (t : Template) :
    fill b t.parens = ("(" ++ (fill b t).1 ++ ")", (fill b t).2) := by
  simp [parens, String.append_assoc]

theorem fill_join (separator : String) (b : Binder) (ts : List Template) :
    fill b (join separator ts) =
      (separator.intercalate (fillEach fill b ts).1, (fillEach fill b ts).2) := by
  induction ts generalizing b with
  | nil => rfl
  | cons t ts ih =>
    cases ts with
    | nil => simp [join, fillEach, String.intercalate_singleton]
    | cons u us =>
      have ih := ih (fill b t).2
      simp only [join, List.intercalate_cons_cons] at ih ⊢
      simp only [fillEach] at ih ⊢
      simp [ih, String.intercalate_cons_cons, String.append_assoc]

theorem fill_flatten (b : Binder) (ts : List Template) :
    fill b ts.flatten = (String.join (fillEach fill b ts).1, (fillEach fill b ts).2) := by
  induction ts generalizing b with
  | nil => rfl
  | cons t ts ih => simp [fillEach, ih]

theorem fill_of_isBlank {t : Template} (h : t.isBlank = true) (b : Binder) :
    fill b t = ("", b) := by
  induction t with
  | nil => rfl
  | cons piece t ih =>
    cases piece with
    | text s =>
      obtain ⟨rfl, ht⟩ : s = "" ∧ isBlank t = true := by simpa [isBlank] using h
      simp [ih ht]
    | slot value => simp [isBlank] at h

theorem placeholder_ne_empty (b : Binder) (value : Value) : (b.bind value).1 ≠ "" := by
  cases b <;> simp [Binder.bind, Binder.nameAt, String.append_eq_empty_iff]

/-- A placeholder is never empty, so only a blank template is filled to the empty text. -/
theorem fill_eq_empty_iff (t : Template) (b : Binder) :
    (fill b t).1 = "" ↔ t.isBlank = true := by
  induction t generalizing b with
  | nil => simp [isBlank]
  | cons piece t ih =>
    cases piece with
    | text s => simpa [isBlank, String.append_eq_empty_iff] using fun _ => ih b
    | slot value => simp [isBlank, String.append_eq_empty_iff, placeholder_ne_empty]

theorem isEmpty_fill (t : Template) (b : Binder) : (fill b t).1.isEmpty = t.isBlank := by
  rw [Bool.eq_iff_iff, String.isEmpty_iff, fill_eq_empty_iff]

end Template

end PolySql
