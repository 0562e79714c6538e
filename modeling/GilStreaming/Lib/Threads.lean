import Mathlib.Data.List.Basic

/-!
# GilStreaming.Lib.Threads

Requests under way, as a list that only grows.

A thread is appended when its request arrives and replaced when it goes on, and its index
is its name. Here is what a look-up, and a count of the threads at some stage, becomes
under the two operations.
-/

namespace GilStreaming.Threads

universe u

variable {α : Type u} {l : List α} {i j : Nat} {t t' v : α}

/-- The threads after the `i`-th has gone on. -/
theorem getElem?_set_eq_some (hi : l[i]? = some t) :
    (l.set i t')[j]? = some v ↔ (j = i ∧ v = t') ∨ (j ≠ i ∧ l[j]? = some v) := by
  have hlt := (List.getElem?_eq_some_iff.mp hi).1
  by_cases hj : j = i
  · subst hj
    simp [List.getElem?_set_self hlt, eq_comm]
  · simp [List.getElem?_set_ne (Ne.symm hj), hj]

/-- The threads after another one has arrived. -/
theorem getElem?_concat_eq_some :
    (l ++ [t])[j]? = some v ↔ l[j]? = some v ∨ (j = l.length ∧ v = t) := by
  rcases Nat.lt_trichotomy j l.length with hlt | heq | hgt
  · rw [List.getElem?_append_left hlt]
    simp [Nat.ne_of_lt hlt]
  · subst heq
    simp [eq_comm]
  · simp [List.getElem?_append, Nat.not_lt.mpr (Nat.le_of_lt hgt), Nat.ne_of_gt hgt,
      Nat.sub_ne_zero_of_lt hgt]

/-- A pass over the threads that changes none. -/
theorem mapIdx_eq_self {f : Nat → α → α} (h : ∀ j t, l[j]? = some t → f j t = t) :
    l.mapIdx f = l := by
  refine List.ext_getElem? fun j => ?_
  rw [List.getElem?_mapIdx]
  cases hj : l[j]? with
  | none => rfl
  | some t => exact congrArg some (h j t hj)

/-- A pass over the threads in which only the `i`-th goes on. -/
theorem mapIdx_eq_set {f : Nat → α → α} (hi : l[i]? = some t) (ht : f i t = t')
    (h : ∀ j v, j ≠ i → f j v = v) : l.mapIdx f = l.set i t' := by
  refine List.ext_getElem? fun j => ?_
  rw [List.getElem?_mapIdx]
  by_cases hj : j = i
  · subst hj
    rw [hi, List.getElem?_set_self (List.getElem?_eq_some_iff.mp hi).1, Option.map_some, ht]
  · rw [List.getElem?_set_ne (Ne.symm hj)]
    cases l[j]? with
    | none => rfl
    | some v => exact congrArg some (h j v hj)

/-- A count after the `i`-th thread has gone on. -/
theorem countP_set_add (hi : l[i]? = some t) (t' : α) (q : α → Bool) :
    (l.set i t').countP q + (if q t then 1 else 0) = l.countP q + if q t' then 1 else 0 := by
  obtain ⟨hlt, hget⟩ := List.getElem?_eq_some_iff.mp hi
  rw [List.countP_set hlt, hget]
  by_cases hq : q t = true
  · have hpos : 0 < l.countP q := List.countP_pos_iff.mpr ⟨t, List.mem_of_getElem? hi, hq⟩
    rw [if_pos hq]
    omega
  · rw [if_neg hq]
    omega

/-- A thread that goes on to where it does not count raises no count. -/
theorem countP_set_le {q : α → Bool} (h : q t' = false) (l : List α) (i : Nat) :
    (l.set i t').countP q ≤ l.countP q := by
  cases hi : l[i]? with
  | none =>
      exact Nat.le_of_eq (by rw [List.set_eq_of_length_le (List.getElem?_eq_none_iff.mp hi)])
  | some t =>
      have := countP_set_add hi t' q
      rw [h] at this
      simp only [Bool.false_eq_true, if_false] at this
      omega

/-- What the threads still have to give, after the `i`-th has given its part. -/
theorem filterMap_set_none {β : Type u} {f : α → Option β} {b : β} (hi : l[i]? = some t)
    (hb : f t = some b) (ht' : f t' = none) :
    (l.filterMap f).Perm (b :: (l.set i t').filterMap f) := by
  obtain ⟨hlt, hget⟩ := List.getElem?_eq_some_iff.mp hi
  rw [List.set_eq_take_append_cons_drop, if_pos hlt]
  conv_lhs => rw [← List.take_append_drop i l, List.drop_eq_getElem_cons hlt, hget]
  rw [List.filterMap_append, List.filterMap_append, List.filterMap_cons_some hb,
    List.filterMap_cons_none ht']
  exact List.perm_middle

/-- A thread that goes on without giving anything. -/
theorem filterMap_set_same {β : Type u} {f : α → Option β} (hi : l[i]? = some t)
    (ht' : f t' = f t) : (l.set i t').filterMap f = l.filterMap f := by
  obtain ⟨hlt, hget⟩ := List.getElem?_eq_some_iff.mp hi
  rw [List.set_eq_take_append_cons_drop, if_pos hlt]
  conv_rhs => rw [← List.take_append_drop i l, List.drop_eq_getElem_cons hlt, hget]
  rw [List.filterMap_append, List.filterMap_append]
  cases hf : f t with
  | none => rw [List.filterMap_cons_none hf, List.filterMap_cons_none (ht'.trans hf)]
  | some b => rw [List.filterMap_cons_some hf, List.filterMap_cons_some (ht'.trans hf)]

end GilStreaming.Threads
