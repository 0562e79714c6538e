import Mathlib.Data.List.Induction
import Mathlib.Logic.Basic

/-!
# GilStreaming.Lib.PressLog

What is down after a log of presses and releases.

`isDown` reads a log in order, and `isDown_iff` is the same without a state: some press has no
release after it. `Owned` is the form in which a machine that writes such a log accounts for all
that is down. Each entry changes what is owed by one button, so the rules for it ask about the
other buttons only.
-/

namespace GilStreaming.PressLog

universe u

variable {β : Type u} [DecidableEq β]

inductive Action
  | press
  | release
  deriving DecidableEq, Repr

/-- The last action on `b` is a press. -/
def isDown (log : List (Action × β)) (b : β) : Bool :=
  log.foldl (fun down entry => if entry.2 = b then entry.1 == .press else down) false

@[simp] theorem isDown_nil (b : β) : isDown [] b = false := rfl

theorem isDown_concat (log : List (Action × β)) (entry : Action × β) (b : β) :
    isDown (log ++ [entry]) b = if entry.2 = b then entry.1 == .press else isDown log b := by
  rw [isDown, List.foldl_append]
  rfl

theorem isDown_append_releases (log : List (Action × β)) (bs : List β) (b : β) :
    isDown (log ++ bs.map fun b' => (.release, b')) b = (isDown log b && !bs.contains b) := by
  induction bs using List.reverseRecOn with
  | nil => simp
  | append_singleton bs b' ih =>
      rw [List.map_append, List.map_singleton, ← List.append_assoc, isDown_concat, ih]
      by_cases hb : b' = b
      · simp [hb]
      · simp [hb, Ne.symm hb]

/-- What is down has been pressed, and not been released since. -/
theorem isDown_iff {log : List (Action × β)} {b : β} :
    isDown log b = true ↔
      ∃ before after, log = before ++ (.press, b) :: after ∧ (Action.release, b) ∉ after := by
  induction log using List.reverseRecOn with
  | nil => simp
  | append_singleton log entry ih =>
      obtain ⟨action, b'⟩ := entry
      rw [isDown_concat]
      constructor
      · intro h
        by_cases hb : b' = b
        · subst hb
          cases action with
          | press => exact ⟨log, [], rfl, List.not_mem_nil⟩
          | release => simp at h
        · rw [if_neg hb] at h
          obtain ⟨before, after, rfl, hafter⟩ := ih.mp h
          exact ⟨before, after ++ [(action, b')], by simp, by simp [hafter, Ne.symm hb]⟩
      · intro h
        obtain ⟨before, after, heq, hafter⟩ := h
        -- The press is the last entry, or the last entry comes after it.
        rcases List.eq_nil_or_concat after with rfl | ⟨after', last, rfl⟩
        · obtain ⟨-, hlast⟩ := List.append_inj' heq rfl
          cases hlast
          simp
        · rw [List.concat_eq_append, ← List.cons_append, ← List.append_assoc] at heq
          obtain ⟨hlog, hlast⟩ := List.append_inj' heq rfl
          cases hlast
          rw [List.concat_eq_append, List.mem_append, not_or] at hafter
          by_cases hb : b' = b
          · subst hb
            cases action with
            | press => simp
            | release => simp at hafter
          · rw [if_neg hb]
            exact ih.mpr ⟨before, after', hlog, hafter.1⟩

/-! ### Owners -/

/-- Everything that is down is owned. -/
def Owned (log : List (Action × β)) (owned : β → Prop) : Prop :=
  ∀ b, isDown log b = true → owned b

theorem owned_nil (owned : β → Prop) : Owned [] owned := fun _ h => by cases h

theorem Owned.mono {log : List (Action × β)} {owned owned' : β → Prop} (h : Owned log owned)
    (himp : ∀ b, owned b → owned' b) : Owned log owned' := fun b hb => himp b (h b hb)

theorem Owned.press {log : List (Action × β)} {owned owned' : β → Prop} {b : β}
    (h : Owned log owned) (hb : owned' b) (hother : ∀ b', b' ≠ b → owned b' → owned' b') :
    Owned (log ++ [(.press, b)]) owned' := by
  intro b' hdown
  rw [isDown_concat] at hdown
  by_cases heq : b = b'
  · exact heq ▸ hb
  · rw [if_neg heq] at hdown
    exact hother b' (Ne.symm heq) (h b' hdown)

theorem Owned.release {log : List (Action × β)} {owned owned' : β → Prop} {b : β}
    (h : Owned log owned) (hother : ∀ b', b' ≠ b → owned b' → owned' b') :
    Owned (log ++ [(.release, b)]) owned' := by
  intro b' hdown
  rw [isDown_concat] at hdown
  by_cases heq : b = b'
  · simp [heq] at hdown
  · rw [if_neg heq] at hdown
    exact hother b' (Ne.symm heq) (h b' hdown)

end GilStreaming.PressLog
