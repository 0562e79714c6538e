/-!
# GilStreaming.Lib.Fallible

Programs that change a state and may fail, where a failure leaves the state as it was then:
exceptions of C++ over what the function has changed so far.

`bind_ok` and its kin take apart a run that returns. `KeepsUnless` is for the part of a
state that a program may change only on one of its ways out: it composes without a look at
what the program computes.
-/

namespace GilStreaming

/-- A program over the state `σ` with exceptions `ε`. -/
abbrev Fallible (ε σ : Type) := ExceptT ε (StateM σ)

namespace Fallible

variable {ε σ α β γ : Type}

/-- The result, and the state at the end. -/
def exec (x : Fallible ε σ α) (s : σ) : Except ε α × σ := (ExceptT.run x).run s

/-! ### Runs that return -/

theorem exec_pure (a : α) (s : σ) : exec (pure a : Fallible ε σ α) s = (.ok a, s) := rfl

theorem exec_get (s : σ) : exec (get : Fallible ε σ σ) s = (.ok s, s) := rfl

theorem exec_set (s s' : σ) : exec (set s' : Fallible ε σ PUnit) s = (.ok ⟨⟩, s') := rfl

theorem exec_modify (f : σ → σ) (s : σ) :
    exec (modify f : Fallible ε σ PUnit) s = (.ok ⟨⟩, f s) := rfl

theorem exec_throw (e : ε) (s : σ) : exec (throw e : Fallible ε σ α) s = (.error e, s) := rfl

/-- A computation without a state. -/
theorem exec_ofExcept (x : Except ε α) (s : σ) :
    exec (MonadExcept.ofExcept x : Fallible ε σ α) s = (x, s) := by
  cases x <;> rfl

theorem exec_bind (x : Fallible ε σ α) (f : α → Fallible ε σ β) (s : σ) :
    exec (x >>= f) s =
      match exec x s with
      | (.ok a, s') => exec (f a) s'
      | (.error e, s') => (.error e, s') := by
  simp only [exec, ExceptT.run_bind, StateT.run_bind]
  cases hx : StateT.run (ExceptT.run x) s with
  | mk r s' => cases r <;> rfl

theorem exec_tryCatch (x : Fallible ε σ α) (handler : ε → Fallible ε σ α) (s : σ) :
    exec (tryCatch x handler) s =
      match exec x s with
      | (.ok a, s') => (.ok a, s')
      | (.error e, s') => exec (handler e) s' := by
  have hrun : exec (tryCatch x handler) s =
      StateT.run (ExceptT.run x >>= fun r =>
        match r with
        | .ok a => pure (.ok a)
        | .error e => ExceptT.run (handler e)) s := rfl
  rw [hrun, StateT.run_bind]
  simp only [exec]
  cases hx : StateT.run (ExceptT.run x) s with
  | mk r s' => cases r <;> rfl

theorem bind_ok {x : Fallible ε σ α} {f : α → Fallible ε σ β} {s s'' : σ} {b : β} :
    exec (x >>= f) s = (.ok b, s'') ↔
      ∃ a s', exec x s = (.ok a, s') ∧ exec (f a) s' = (.ok b, s'') := by
  rw [exec_bind]
  cases hx : exec x s with
  | mk r s' =>
      cases r with
      | ok a =>
          constructor
          · exact fun h => ⟨a, s', rfl, h⟩
          · rintro ⟨a', s'', ⟨⟩, h⟩
            exact h
      | error e => simp

/-! ### What a run leaves alone -/

/-- Where a run does not end in one of the results `good`, the view of the state is as it
was. -/
def KeepsUnless (view : σ → γ) (good : Except ε α → Prop) (x : Fallible ε σ α) : Prop :=
  ∀ s, good (exec x s).1 ∨ view (exec x s).2 = view s

/-- Whatever a run ends with, the view of the state is as it was. -/
abbrev Keeps (view : σ → γ) (x : Fallible ε σ α) : Prop := KeepsUnless view (fun _ => False) x

section

variable {view : σ → γ} {x : Fallible ε σ α}

theorem Keeps.view_eq (h : Keeps view x) (s : σ) : view (exec x s).2 = view s :=
  (h s).resolve_left id

theorem KeepsUnless.of_keeps {good : Except ε α → Prop} (h : Keeps view x) :
    KeepsUnless view good x :=
  fun s => .inr (h.view_eq s)

theorem keeps_pure (a : α) : Keeps view (pure a : Fallible ε σ α) := fun _ => .inr rfl

theorem keeps_throw (e : ε) : Keeps view (throw e : Fallible ε σ α) := fun _ => .inr rfl

theorem keeps_ofExcept (r : Except ε α) :
    Keeps view (MonadExcept.ofExcept r : Fallible ε σ α) := by
  cases r with
  | ok a => exact keeps_pure a
  | error e => exact keeps_throw e

theorem keeps_modify {f : σ → σ} (h : ∀ s, view (f s) = view s) :
    Keeps view (modify f : Fallible ε σ PUnit) := fun s => .inr (h s)

theorem KeepsUnless.bind {f : α → Fallible ε σ β} {good : Except ε β → Prop}
    (hx : Keeps view x) (hf : ∀ a, KeepsUnless view good (f a)) :
    KeepsUnless view good (x >>= f) := by
  intro s
  have hview := hx.view_eq s
  rw [exec_bind]
  cases hrun : exec x s with
  | mk r s' =>
      rw [hrun] at hview
      cases r with
      | ok a =>
          rcases hf a s' with hgood | hkept
          · exact .inl hgood
          · exact .inr (hkept.trans hview)
      | error e => exact .inr hview

theorem Keeps.tryCatch {handler : ε → Fallible ε σ α} (hx : Keeps view x)
    (hhandler : ∀ e, Keeps view (handler e)) : Keeps view (tryCatch x handler) := by
  intro s
  have hview := hx.view_eq s
  rw [exec_tryCatch]
  cases hrun : exec x s with
  | mk r s' =>
      rw [hrun] at hview
      cases r with
      | ok a => exact .inr hview
      | error e => exact .inr (((hhandler e).view_eq s').trans hview)

end

end Fallible

end GilStreaming
