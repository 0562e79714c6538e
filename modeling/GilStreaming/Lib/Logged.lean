import GilStreaming.Lib.Fallible

/-!
# GilStreaming.Lib.Logged

A fallible program written out with a log of what it does on the way.

The log is output only: it is what a run adds, so that a program with a log is the program
without it (`Erases`), and what all entries of a log satisfy is read off a bind at a time
(`all_bind`), whatever the run ends with.
-/

namespace GilStreaming

/-- A program over the state `σ` with exceptions `ε` that logs entries `ω`. -/
def Logged (ε σ ω α : Type) := σ → (Except ε α × σ) × List ω

namespace Logged

open Fallible

variable {ε σ ω α β : Type}

instance : Monad (Logged ε σ ω) where
  pure a := fun s => ((.ok a, s), [])
  bind x f := fun s =>
    match x s with
    | ((.ok a, s'), ws) => ((f a s').1, ws ++ (f a s').2)
    | ((.error e, s'), ws) => ((.error e, s'), ws)

/-- A program that logs nothing. -/
def silent (x : Fallible ε σ α) : Logged ε σ ω α := fun s => (exec x s, [])

def log (ws : List ω) : Logged ε σ ω PUnit := fun s => ((.ok ⟨⟩, s), ws)

/-! ### Without the log -/

/-- The program is `x`, but for the log. -/
def Erases (t : Logged ε σ ω α) (x : Fallible ε σ α) : Prop := ∀ s, (t s).1 = exec x s

theorem erases_silent (x : Fallible ε σ α) : Erases (silent x : Logged ε σ ω α) x := fun _ => rfl

theorem Erases.bind {t : Logged ε σ ω α} {x : Fallible ε σ α} {f : α → Logged ε σ ω β}
    {g : α → Fallible ε σ β} (h : Erases t x) (hf : ∀ a, Erases (f a) (g a)) :
    Erases (t >>= f) (x >>= g) := by
  intro s
  have hs := h s
  rw [exec_bind]
  show (match t s with
    | ((.ok a, s'), ws) => ((f a s').1, ws ++ (f a s').2)
    | ((.error e, s'), ws) => ((.error e, s'), ws)).1 = _
  cases ht : t s with
  | mk r ws =>
      rw [ht] at hs
      rw [← hs]
      cases r with
      | mk r s' =>
          cases r with
          | ok a => exact hf a s'
          | error e => rfl

/-- Logging does nothing else. -/
theorem Erases.log {t : Logged ε σ ω α} {x : Fallible ε σ α} (h : Erases t x) (ws : List ω) :
    Erases (log ws >>= fun _ => t) x :=
  fun s => h s

/-! ### What is logged -/

/-- All that a run logs satisfies `P`. -/
def All (P : ω → Prop) (t : Logged ε σ ω α) (s : σ) : Prop := ∀ w ∈ (t s).2, P w

variable {P : ω → Prop} {s : σ}

@[simp] theorem all_silent (x : Fallible ε σ α) : All P (silent x : Logged ε σ ω α) s :=
  fun _ h => absurd h List.not_mem_nil

@[simp] theorem all_pure (a : α) : All P (pure a : Logged ε σ ω α) s :=
  fun _ h => absurd h List.not_mem_nil

theorem all_log {ws : List ω} : All P (log ws : Logged ε σ ω PUnit) s ↔ ∀ w ∈ ws, P w := Iff.rfl

/-- What follows counts only where a run comes to it. -/
theorem all_bind {t : Logged ε σ ω α} {f : α → Logged ε σ ω β} :
    All P (t >>= f) s ↔ All P t s ∧ ∀ a s', (t s).1 = (.ok a, s') → All P (f a) s' := by
  show (∀ w ∈ (match t s with
    | ((.ok a, s'), ws) => ((f a s').1, ws ++ (f a s').2)
    | ((.error e, s'), ws) => ((.error e, s'), ws)).2, P w) ↔ _
  unfold All
  cases t s with
  | mk r ws =>
      cases r with
      | mk r s' =>
          cases r with
          | ok a => simp [or_imp, forall_and]
          | error e => simp

theorem all_log_bind {ws : List ω} {t : Logged ε σ ω α} :
    All P (log ws >>= fun _ => t) s ↔ (∀ w ∈ ws, P w) ∧ All P t s := by
  rw [all_bind, all_log]
  refine and_congr_right fun _ => ⟨fun h => h ⟨⟩ s rfl, fun h a s' hs => ?_⟩
  cases hs
  exact h

theorem all_silent_bind {x : Fallible ε σ α} {f : α → Logged ε σ ω β} :
    All P (silent x >>= f) s ↔ ∀ a s', exec x s = (.ok a, s') → All P (f a) s' := by
  rw [all_bind, and_iff_right (all_silent x)]
  rfl

/-- A step by its run. -/
theorem all_silent_bind_run {x : Fallible ε σ α} {f : α → Logged ε σ ω β} {r : Except ε α} {s' : σ}
    (h : exec x s = (r, s')) :
    All P (silent x >>= f) s ↔ ∀ a, r = .ok a → All P (f a) s' := by
  rw [all_silent_bind, h]
  constructor
  · intro hall a heq
    exact hall a s' (by rw [heq])
  · intro hall a s'' heq
    cases heq
    exact hall a rfl

/-- A step that does not fail. -/
theorem all_silent_bind_ok {x : Fallible ε σ α} {f : α → Logged ε σ ω β} {a : α} {s' : σ}
    (h : exec x s = (.ok a, s')) : All P (silent x >>= f) s ↔ All P (f a) s' := by
  rw [all_silent_bind_run h]
  simp

end Logged

end GilStreaming
