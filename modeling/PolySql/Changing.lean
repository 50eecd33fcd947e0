import PolySql.Error

/-!
# Calls that change a state

A call that changes a state and may fail leaves a state in either case: what was changed before an
error stays changed.  That a failing call changes nothing is therefore a fact about the call, never
one about its type.
-/

namespace PolySql

/-- A call that changes a state, or the error that ends it. -/
abbrev Changing (σ : Type) : Type → Type := ExceptT CompileError (StateM σ)

namespace Changing

variable {σ α β : Type}

/-- What a call gives on `s`, and the state it leaves. -/
def on (call : Changing σ α) (s : σ) : Except CompileError α × σ := call.run.run s

@[simp] theorem on_pure (a : α) (s : σ) : (pure a : Changing σ α).on s = (.ok a, s) := rfl

@[simp] theorem on_throw (e : CompileError) (s : σ) :
    (throw e : Changing σ α).on s = (.error e, s) := rfl

@[simp] theorem on_get (s : σ) : (get : Changing σ σ).on s = (.ok s, s) := rfl

@[simp] theorem on_modify (f : σ → σ) (s : σ) :
    (modify f : Changing σ Unit).on s = (.ok (), f s) := rfl

@[simp] theorem on_ofExcept (r : Except CompileError α) (s : σ) :
    (MonadExcept.ofExcept r : Changing σ α).on s = (r, s) := by
  cases r <;> rfl

/-- A call goes on with what its first part gives and on the state that part leaves. -/
theorem on_bind (call : Changing σ α) (next : α → Changing σ β) (s : σ) :
    (call >>= next).on s =
      match call.on s with
      | (.ok a, s) => (next a).on s
      | (.error e, s) => (.error e, s) := by
  simp only [on, bind, ExceptT.bind, ExceptT.mk, ExceptT.run, StateT.bind, StateT.run,
    ExceptT.bindCont]
  rcases call s with ⟨_ | _, _⟩ <;> rfl

end Changing

end PolySql
