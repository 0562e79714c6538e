import Mathlib.Data.List.Range
import Mathlib.Data.List.Perm.Basic
import Mathlib.Data.List.Count

/-!
# GilStreaming.Lib.Pipeline

A pipeline accepts elements and hands them out again in the order in which it accepted
them, later, and it may lose some on the way.

An element is known by its place, the number of elements accepted before it. A `Pipeline`
cannot be built unless every place is pending, returned or lost, exactly once, and
unless what was returned and what is pending is in order. `place_of_returned` follows
from this alone: an element comes out later in the sequence of those returned than it
was accepted, by the number of earlier elements that were lost.
-/

namespace GilStreaming

universe u

structure Pipeline (α : Type u) where
  accepted : List α
  /-- The places of the elements inside, the oldest first. -/
  pending : List Nat
  returned : List Nat
  lost : List Nat
  ordered : (returned ++ pending).Pairwise (· < ·)
  complete : (returned ++ pending ++ lost).Perm (List.range accepted.length)

namespace Pipeline

variable {α : Type u} (p : Pipeline α)

def empty : Pipeline α where
  accepted := []
  pending := []
  returned := []
  lost := []
  ordered := List.Pairwise.nil
  complete := List.Perm.nil

theorem lt_of_mem {n : Nat} (h : n ∈ p.returned ++ p.pending ++ p.lost) :
    n < p.accepted.length :=
  List.mem_range.mp (p.complete.mem_iff.mp h)

def accept (x : α) : Pipeline α where
  accepted := p.accepted ++ [x]
  pending := p.pending ++ [p.accepted.length]
  returned := p.returned
  lost := p.lost
  ordered := by
    rw [← List.append_assoc, List.pairwise_append]
    refine ⟨p.ordered, List.pairwise_singleton _ _, fun n hn m hm => ?_⟩
    obtain rfl := List.mem_singleton.mp hm
    exact p.lt_of_mem (List.mem_append_left _ hn)
  complete := by
    rw [List.length_append, List.length_singleton, List.range_succ]
    refine List.Perm.trans ?_ (p.complete.append_right [p.accepted.length])
    rw [← List.append_assoc, List.append_assoc (p.returned ++ p.pending),
      List.append_assoc (p.returned ++ p.pending)]
    exact List.perm_append_comm.append_left _

theorem head?_append_tail (l : List Nat) : l.head?.toList ++ l.tail = l := by
  cases l <;> rfl

/-- Hand out the oldest element. -/
def receive : Pipeline α :=
  { p with
    pending := p.pending.tail
    returned := p.returned ++ p.pending.head?.toList
    ordered := by
      rw [List.append_assoc, head?_append_tail]
      exact p.ordered
    complete := by
      rw [List.append_assoc p.returned, head?_append_tail]
      exact p.complete }

theorem perm_eraseIdx (l : List Nat) (i : Nat) : (l.eraseIdx i ++ l[i]?.toList).Perm l := by
  by_cases hi : i < l.length
  · rw [List.getElem?_eq_getElem hi]
    exact List.perm_append_comm.trans (List.getElem_cons_eraseIdx_perm hi)
  · rw [List.eraseIdx_of_length_le (by omega), List.getElem?_eq_none (by omega)]
    simp

/-- Lose the element that has `i` older ones in front of it. -/
def lose (i : Nat) : Pipeline α :=
  { p with
    pending := p.pending.eraseIdx i
    lost := p.lost ++ p.pending[i]?.toList
    ordered := p.ordered.sublist ((List.eraseIdx_sublist _ _).append_left _)
    complete := by
      have hmoved : (p.returned ++ p.pending.eraseIdx i ++ (p.lost ++ p.pending[i]?.toList)).Perm
          (p.returned ++ (p.pending.eraseIdx i ++ p.pending[i]?.toList) ++ p.lost) := by
        simpa only [List.append_assoc] using
          List.perm_append_comm.append_left (p.returned ++ p.pending.eraseIdx i)
      exact hmoved.trans ((((perm_eraseIdx _ _).append_left _).append_right _).trans p.complete) }

/-! ### The place of what is returned -/

/-- As many elements of an ordered list are smaller than the one at `k`. -/
theorem countP_lt_of_getElem? {l : List Nat} (h : l.Pairwise (· < ·)) {k n : Nat}
    (hn : l[k]? = some n) : l.countP (· < n) = k := by
  induction l generalizing k with
  | nil => exact absurd hn (by simp)
  | cons a l ih =>
      obtain ⟨ha, hl⟩ := List.pairwise_cons.mp h
      cases k with
      | zero =>
          obtain rfl : a = n := by simpa using hn
          rw [List.countP_eq_zero]
          intro m hm
          rcases List.mem_cons.mp hm with rfl | hm
          · simp
          · have := ha m hm
            simp only [decide_eq_true_eq]
            omega
      | succ k =>
          rw [List.getElem?_cons_succ] at hn
          have hlt : a < n := ha n (List.mem_of_getElem? hn)
          rw [List.countP_cons_of_pos (by simpa using hlt), ih hl hn]

theorem countP_lt_range {n m : Nat} (h : n ≤ m) : (List.range m).countP (· < n) = n := by
  obtain ⟨k, rfl⟩ := Nat.exists_eq_add_of_le h
  rw [List.range_add, List.countP_append, List.countP_map]
  have hlow : (List.range n).countP (· < n) = n := by
    rw [List.countP_eq_length.mpr (by simp), List.length_range]
  have hhigh : (List.range k).countP ((fun i => decide (i < n)) ∘ (n + ·)) = 0 := by
    rw [List.countP_eq_zero]
    simp
  omega

/-- **The place of what is returned.** -/
theorem place_of_returned {k n : Nat} (h : p.returned[k]? = some n) :
    n = k + p.lost.countP (· < n) := by
  have hlt : n < p.accepted.length :=
    p.lt_of_mem (List.mem_append_left _ (List.mem_append_left _ (List.mem_of_getElem? h)))
  have hk : (p.returned ++ p.pending)[k]? = some n := by
    rw [List.getElem?_append_left (List.getElem?_eq_some_iff.mp h).1, h]
  have hcount := p.complete.countP_eq (fun m => decide (m < n))
  rw [List.countP_append, countP_lt_of_getElem? p.ordered hk, countP_lt_range hlt.le] at hcount
  exact hcount.symm

/-! ### Pipelines that have skipped nothing -/

/-- What was returned is what was accepted first, with nothing left out. -/
def Gapless : Prop := p.returned = List.range p.returned.length

variable {p}

theorem gapless_iff : p.Gapless ↔ ∀ k n : Nat, p.returned[k]? = some n → n = k := by
  constructor
  · intro h k n hn
    rw [h, List.getElem?_eq_some_iff] at hn
    obtain ⟨hk, hn⟩ := hn
    rw [← hn, List.getElem_range]
  · intro h
    refine List.ext_getElem (by simp) fun k hk _ => ?_
    rw [List.getElem_range]
    exact h k _ (List.getElem?_eq_getElem hk)

/-- Nothing is skipped unless an element older than the one returned was lost. -/
theorem gapless_receive_iff (hp : p.Gapless) {n : Nat} {rest : List Nat}
    (hpending : p.pending = n :: rest) : p.receive.Gapless ↔ ¬ ∃ m ∈ p.lost, m < n := by
  have hreturned : p.receive.returned = p.returned ++ [n] := by simp [receive, hpending]
  have hplace : n = p.returned.length + p.lost.countP (· < n) :=
    p.receive.place_of_returned (by simp [hreturned])
  have hnone : (¬ ∃ m ∈ p.lost, m < n) ↔ p.lost.countP (· < n) = 0 := by
    simp [List.countP_eq_zero]
  rw [hnone, Gapless, hreturned, List.length_append, List.length_singleton, List.range_succ,
    ← hp, List.append_cancel_left_eq, List.cons.injEq]
  simp only [and_true]
  omega

end Pipeline

end GilStreaming
