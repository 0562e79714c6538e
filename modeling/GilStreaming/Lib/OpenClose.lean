import Mathlib.Data.Finset.Basic

/-!
# GilStreaming.Lib.OpenClose

Logs of what is opened and closed.

`track` follows a log from what is open before it. It fails where something is opened that is open
already, or closed that is not, so a log that `track` takes from nothing to nothing closes
everything that it opens, once each and never before it is opened.
-/

namespace GilStreaming

universe u v

variable {α : Type u}

inductive OpenClose (α : Type u)
  | opens (x : α)
  | closes (x : α)
  deriving DecidableEq, Repr

namespace OpenClose

variable [DecidableEq α] {x : α} {held held' : Finset α} {acts acts' : List (OpenClose α)}

/-- What is open after the log. -/
def track : Finset α → List (OpenClose α) → Option (Finset α)
  | held, [] => some held
  | held, .opens x :: acts => if x ∈ held then none else track (insert x held) acts
  | held, .closes x :: acts => if x ∈ held then track (held.erase x) acts else none

@[simp] theorem track_nil : track held [] = some held := rfl

@[simp] theorem track_opens (hx : x ∉ held) :
    track held (.opens x :: acts) = track (insert x held) acts := if_neg hx

@[simp] theorem track_closes (hx : x ∈ held) :
    track held (.closes x :: acts) = track (held.erase x) acts := if_pos hx

theorem track_append :
    track held (acts ++ acts') = (track held acts).bind fun held => track held acts' := by
  induction acts generalizing held with
  | nil => rfl
  | cons act acts ih =>
      cases act with
      | opens x =>
          rw [List.cons_append, track, track]
          split
          · rfl
          · exact ih
      | closes x =>
          rw [List.cons_append, track, track]
          split
          · exact ih
          · rfl

/-- **Sequence rule.** -/
theorem track_append_of (h : track held acts = some held') :
    track held (acts ++ acts') = track held' acts' := by
  rw [track_append, h]
  rfl

end OpenClose

end GilStreaming
