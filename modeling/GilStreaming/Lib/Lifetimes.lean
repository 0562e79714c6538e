import Mathlib.Data.Finset.Basic

/-!
# GilStreaming.Lib.Lifetimes

Objects that are created, used and deleted by hand.

Objects rest on others: what has a higher rank may refer to what has a lower one. A log is orderly
where no object is created twice at a time, where objects are used only while they live, and where
an object is deleted only while it lives and when nothing of a higher rank lives any more.
-/

namespace GilStreaming

universe u

/-- What is done with an object. -/
inductive LifeAct (α : Type u)
  | creates (x : α)
  | uses (x : α)
  | deletes (x : α)
  deriving DecidableEq, Repr

namespace LifeAct

variable {α : Type u} [DecidableEq α] {rank : α → Nat} {x : α} {alive : Finset α}
  {acts acts' : List (LifeAct α)} {act : LifeAct α}

/-- What lives after an act. -/
def after (alive : Finset α) : LifeAct α → Finset α
  | creates x => insert x alive
  | uses _ => alive
  | deletes x => alive.erase x

/-- What lives after the acts. -/
def living (alive : Finset α) (acts : List (LifeAct α)) : Finset α := acts.foldl after alive

@[simp] theorem living_nil : living alive [] = alive := rfl

@[simp] theorem living_cons : living alive (act :: acts) = living (after alive act) acts := rfl

theorem living_append : living alive (acts ++ acts') = living (living alive acts) acts' :=
  List.foldl_append

/-- May the act be done while the objects live? -/
def Allowed (rank : α → Nat) (alive : Finset α) : LifeAct α → Prop
  | creates x => x ∉ alive
  | uses x => x ∈ alive
  | deletes x => x ∈ alive ∧ ∀ y ∈ alive, rank y ≤ rank x

/-- Every act may be done where it is done. -/
def Orderly (rank : α → Nat) : Finset α → List (LifeAct α) → Prop
  | _, [] => True
  | alive, act :: acts => Allowed rank alive act ∧ Orderly rank (after alive act) acts

@[simp] theorem orderly_nil : Orderly rank alive [] := trivial

@[simp] theorem orderly_cons :
    Orderly rank alive (act :: acts) ↔
      Allowed rank alive act ∧ Orderly rank (after alive act) acts := Iff.rfl

/-- **Sequence rule.** -/
theorem orderly_append :
    Orderly rank alive (acts ++ acts') ↔
      Orderly rank alive acts ∧ Orderly rank (living alive acts) acts' := by
  induction acts generalizing alive with
  | nil => simp
  | cons act acts ih => simp [ih, and_assoc]

/-- Uses change nothing. -/
theorem living_uses (xs : List α) : living alive (xs.map uses) = alive := by
  induction xs with
  | nil => rfl
  | cons x xs ih => exact ih

theorem orderly_uses {xs : List α} : Orderly rank alive (xs.map uses) ↔ ∀ x ∈ xs, x ∈ alive := by
  induction xs with
  | nil => simp
  | cons x xs ih => simp [ih, Allowed, after]

end LifeAct

end GilStreaming
