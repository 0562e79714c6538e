import Mathlib.Data.List.Count
import Mathlib.Data.List.Nodup
import Mathlib.Logic.Relation

/-!
# GilStreaming.Lib.Custody

Items in the custody of a component that uses some of them, in order, and frees each.

An item is taken, and waits. From among those that wait one is picked and used, or any is
dropped and freed. The item that was used last is still in use until another one has been
used, so it is kept, and freed when another takes its place or when the component is closed.
`Move` is what can happen to the items; how they are stored, and which threads move them, is
up to a component, whose steps are then sequences of moves.

`Inv` holds after every sequence of moves (`Inv.moves`). It says that nothing is freed or used
twice, that nothing is used after it was freed, and when the item used last may be freed.
-/

namespace GilStreaming

universe u

/-- What is done with the items, as the outside sees it. -/
inductive CustodyAct (α : Type u)
  | use (x : α)
  | free (x : α)
  /-- Nothing is used from here. -/
  | close
  deriving DecidableEq, Repr

namespace CustodyAct

variable {α : Type u}

def used? : CustodyAct α → Option α
  | use x => some x
  | _ => none

def freed? : CustodyAct α → Option α
  | free x => some x
  | _ => none

/-- The items that a log uses, in order. -/
def used (log : List (CustodyAct α)) : List α := log.filterMap used?

/-- The items that a log frees, in order. -/
def freed (log : List (CustodyAct α)) : List α := log.filterMap freed?

variable (log log' : List (CustodyAct α)) (x : α)

@[simp] theorem used_nil : used ([] : List (CustodyAct α)) = [] := rfl

@[simp] theorem freed_nil : freed ([] : List (CustodyAct α)) = [] := rfl

@[simp] theorem used_append : used (log ++ log') = used log ++ used log' :=
  List.filterMap_append

@[simp] theorem freed_append : freed (log ++ log') = freed log ++ freed log' :=
  List.filterMap_append

@[simp] theorem used_use : used [use x] = [x] := rfl

@[simp] theorem used_free : used [free x] = [] := rfl

@[simp] theorem used_close : used [(close : CustodyAct α)] = [] := rfl

@[simp] theorem freed_use : freed [use x] = [] := rfl

@[simp] theorem freed_free : freed [free x] = [x] := rfl

@[simp] theorem freed_close : freed [(close : CustodyAct α)] = [] := rfl

variable {log x}

theorem mem_used : x ∈ used log ↔ use x ∈ log := by
  constructor
  · intro h
    obtain ⟨e, he, hx⟩ := List.mem_filterMap.mp h
    cases e with
    | use y => exact Option.some.inj hx ▸ he
    | free y => exact absurd hx (by simp [used?])
    | close => exact absurd hx (by simp [used?])
  · exact fun h => List.mem_filterMap.mpr ⟨_, h, rfl⟩

theorem mem_freed : x ∈ freed log ↔ free x ∈ log := by
  constructor
  · intro h
    obtain ⟨e, he, hx⟩ := List.mem_filterMap.mp h
    cases e with
    | use y => exact absurd hx (by simp [freed?])
    | free y => exact Option.some.inj hx ▸ he
    | close => exact absurd hx (by simp [freed?])
  · exact fun h => List.mem_filterMap.mpr ⟨_, h, rfl⟩

variable [DecidableEq α]

theorem count_used : (used log).count x = log.count (use x) := by
  induction log with
  | nil => rfl
  | cons act log ih =>
      rw [show act :: log = [act] ++ log from rfl, used_append, List.count_append,
        List.count_append, ih]
      cases act <;> simp [List.count_cons]

theorem count_freed : (freed log).count x = log.count (free x) := by
  induction log with
  | nil => rfl
  | cons act log ih =>
      rw [show act :: log = [act] ++ log from rfl, freed_append, List.count_append,
        List.count_append, ih]
      cases act <;> simp [List.count_cons]

end CustodyAct

open CustodyAct

/-- Where the items are. -/
structure Custody (α : Type u) where
  /-- All that were taken, in order. -/
  taken : List α
  /-- Those that may still be used, in order. -/
  waiting : List α
  /-- Those that are only to be freed. -/
  dropped : List α
  /-- The one that is about to be used. -/
  next : Option α
  /-- The one that was used, before it takes the place of the one kept. -/
  current : Option α
  /-- The one that was used and is still in use. -/
  kept : Option α
  closed : Bool
  log : List (CustodyAct α)

namespace Custody

variable {α : Type u}

/-- What can happen to the items. -/
inductive Move : Custody α → Custody α → Prop
  | take (c : Custody α) (x : α) (hnew : x ∉ c.taken) :
    Move c { c with taken := c.taken ++ [x], waiting := c.waiting ++ [x] }
  | drop (c : Custody α) (before : List α) (x : α) (after first last : List α)
    (hwaiting : c.waiting = before ++ x :: after) (hdropped : c.dropped = first ++ last) :
    Move c { c with waiting := before ++ after, dropped := first ++ x :: last }
  | free (c : Custody α) (before : List α) (x : α) (after : List α)
    (hdropped : c.dropped = before ++ x :: after) :
    Move c { c with dropped := before ++ after, log := c.log ++ [.free x] }
  | pick (c : Custody α) (x : α) (rest : List α) (hwaiting : c.waiting = x :: rest)
    (hnext : c.next = none) (hclosed : c.closed = false) :
    Move c { c with waiting := rest, next := some x }
  | use (c : Custody α) (x : α) (hnext : c.next = some x) (hcurrent : c.current = none) :
    Move c { c with next := none, current := some x, log := c.log ++ [.use x] }
  | keep (c : Custody α) (x : α) (hcurrent : c.current = some x) (hkept : c.kept = none) :
    Move c { c with current := none, kept := some x }
  | replace (c : Custody α) (x y : α) (hcurrent : c.current = some x) (hkept : c.kept = some y) :
    Move c { c with current := none, kept := some x, log := c.log ++ [.free y] }
  | close (c : Custody α) (hnext : c.next = none) (hcurrent : c.current = none) :
    Move c { c with closed := true, log := c.log ++ [.close] }
  | release (c : Custody α) (x : α) (hclosed : c.closed = true) (hkept : c.kept = some x) :
    Move c { c with kept := none, log := c.log ++ [.free x] }

/-- Any number of moves. -/
abbrev Moves : Custody α → Custody α → Prop := Relation.ReflTransGen Move

theorem Move.moves_eq {c c₁ c' : Custody α} (h : c.Move c₁) (heq : c₁ = c') : c.Moves c' :=
  heq ▸ .single h

/-- An item that waits is dropped and freed. -/
theorem Moves.discard {c : Custody α} {before after : List α} {x : α}
    (hwaiting : c.waiting = before ++ x :: after) :
    c.Moves { c with waiting := before ++ after, log := c.log ++ [.free x] } :=
  .tail (.single (.drop c before x after [] c.dropped hwaiting rfl)) (.free _ [] x c.dropped rfl)

/-- The items that are not freed yet. -/
def held (c : Custody α) : List α :=
  c.dropped ++ c.next.toList ++ c.current.toList ++ c.kept.toList ++ c.waiting

/-- No move holds more than it takes. -/
theorem Move.held_le {c c' : Custody α} (h : c.Move c') :
    c'.held.length + c.taken.length ≤ c.held.length + c'.taken.length := by
  cases h
  all_goals simp_all only [held, List.length_append]
  all_goals simp
  all_goals omega

theorem Moves.held_le {c c' : Custody α} (h : c.Moves c') :
    c'.held.length + c.taken.length ≤ c.held.length + c'.taken.length := by
  induction h with
  | refl => exact Nat.le_refl _
  | tail _ hmove ih =>
      have := hmove.held_le
      omega

/-- What may be done after `before`. An item is freed once, and used once and only before it
is freed; and where it has been used, another has been used since, or nothing is used any
more. -/
def Allowed (before : List (CustodyAct α)) : CustodyAct α → Prop
  | .use x => .use x ∉ before ∧ .free x ∉ before
  | .free x => .free x ∉ before ∧
    ∀ pre post, before = pre ++ .use x :: post → (∃ y, .use y ∈ post) ∨ .close ∈ post
  | .close => True

/-- Everything in the log was allowed when it was done. -/
def Orderly (log : List (CustodyAct α)) : Prop :=
  ∀ before act after, log = before ++ act :: after → Allowed before act

theorem orderly_nil : Orderly ([] : List (CustodyAct α)) := by
  intro before act after h
  exact absurd h (by simp)

theorem Orderly.concat {log : List (CustodyAct α)} {act : CustodyAct α} (h : Orderly log)
    (hact : Allowed log act) : Orderly (log ++ [act]) := by
  intro before act' after heq
  rcases List.eq_nil_or_concat after with rfl | ⟨after, last, rfl⟩
  · obtain ⟨rfl, hlast⟩ := List.append_inj' heq rfl
    exact List.singleton_inj.mp hlast ▸ hact
  · have heq : log ++ [act] = (before ++ act' :: after) ++ [last] := by simpa using heq
    exact h before act' after (List.append_inj' heq rfl).1

variable [DecidableEq α]

/-- What holds of the items after any moves. -/
structure Inv (c : Custody α) : Prop where
  nodup : c.taken.Nodup
  /-- Each item taken is either freed, once, or in one place. -/
  count : ∀ x, (freed c.log).count x + c.held.count x = c.taken.count x
  /-- Items are used in the order in which they were taken. -/
  order : (used c.log ++ c.next.toList ++ c.waiting).Sublist c.taken
  /-- What was used and is not freed is the item in use, or the one kept. -/
  shown : ∀ x ∈ used c.log, x ∈ freed c.log ∨ c.current = some x ∨ c.kept = some x
  current_last : ∀ x, c.current = some x → (used c.log).getLast? = some x
  closed : c.closed = true → c.next = none ∧ c.current = none ∧
    ∃ before after, c.log = before ++ .close :: after ∧ used after = []
  orderly : Orderly c.log

/-- Nothing is taken yet. -/
def empty : Custody α := ⟨[], [], [], none, none, none, false, []⟩

theorem inv_empty : (empty : Custody α).Inv where
  nodup := List.nodup_nil
  count _ := rfl
  order := List.Sublist.refl _
  shown x h := absurd h (by simp [empty])
  current_last x h := absurd h (by simp [empty])
  closed h := absurd h (by simp [empty])
  orderly := orderly_nil

section Inv

variable {c c' : Custody α} {x : α} (h : c.Inv)

include h

theorem Inv.count_le_one (x : α) : (freed c.log).count x + c.held.count x ≤ 1 := by
  rw [h.count]
  exact List.nodup_iff_count_le_one.mp h.nodup x

/-- What is held is not freed. -/
theorem Inv.not_freed (hx : x ∈ c.held) : x ∉ freed c.log := by
  intro hfreed
  have hle := h.count_le_one x
  have hheld := List.count_pos_iff.mpr hx
  have hpos := List.count_pos_iff.mpr hfreed
  omega

/-- What is only to be freed was never used. -/
theorem Inv.dropped_not_used (hx : x ∈ c.dropped) : x ∉ used c.log := by
  intro hused
  have hle := h.count_le_one x
  have hpos := List.count_pos_iff.mpr hx
  simp only [held, List.count_append] at hle
  rcases h.shown x hused with hfreed | hcurrent | hkept
  · exact h.not_freed (by simp [held, hx]) hfreed
  · simp only [hcurrent, Option.toList_some, List.count_singleton_self] at hle
    omega
  · simp only [hkept, Option.toList_some, List.count_singleton_self] at hle
    omega

theorem Inv.allowed_free_dropped (hx : x ∈ c.dropped) : Allowed c.log (.free x) := by
  refine ⟨fun hfree => h.not_freed (by simp [held, hx]) (mem_freed.mpr hfree), ?_⟩
  intro pre post hlog
  exact absurd (mem_used.mpr (by rw [hlog]; simp)) (h.dropped_not_used hx)

theorem Inv.allowed_use (hx : c.next = some x) : Allowed c.log (.use x) := by
  have hnodup := h.nodup.sublist h.order
  rw [hx, List.append_assoc, Option.toList_some] at hnodup
  refine ⟨fun huse => ?_, fun hfree =>
    h.not_freed (by simp [held, hx]) (mem_freed.mpr hfree)⟩
  exact List.disjoint_of_nodup_append hnodup (mem_used.mpr huse) (by simp)

/-- The item that is kept may be freed once the current one has been used. -/
theorem Inv.allowed_free_kept {y : α} (hcurrent : c.current = some x) (hkept : c.kept = some y) :
    Allowed c.log (.free y) := by
  refine ⟨fun hfree => h.not_freed (by simp [held, hkept]) (mem_freed.mpr hfree), ?_⟩
  intro pre post hlog
  have hne : x ≠ y := by
    rintro rfl
    have hle := h.count_le_one x
    simp only [held, hcurrent, hkept, Option.toList_some, List.count_append,
      List.count_singleton_self] at hle
    omega
  have hlast := h.current_last x hcurrent
  rw [hlog, used_append, show CustodyAct.use y :: post = [.use y] ++ post from rfl, used_append,
    used_use] at hlast
  left
  cases hpost : used post with
  | nil =>
      rw [hpost, List.append_nil, List.getLast?_concat] at hlast
      exact absurd (Option.some.inj hlast).symm hne
  | cons z rest => exact ⟨z, mem_used.mp (by rw [hpost]; simp)⟩

/-- The item that is kept may be freed once nothing is used any more. -/
theorem Inv.allowed_release (hclosed : c.closed = true) (hkept : c.kept = some x) :
    Allowed c.log (.free x) := by
  refine ⟨fun hfree => h.not_freed (by simp [held, hkept]) (mem_freed.mpr hfree), ?_⟩
  intro pre post hlog
  obtain ⟨-, -, before, after, hclose, hafter⟩ := h.closed hclosed
  have huse : CustodyAct.use x ∉ CustodyAct.close :: after := by
    intro hmem
    rcases List.mem_cons.mp hmem with hmem | hmem
    · exact absurd hmem (by simp)
    · exact absurd (mem_used.mpr hmem) (by simp [hafter])
  rcases List.append_eq_append_iff.mp (hlog.symm.trans hclose) with
    ⟨extra, -, hextra⟩ | ⟨extra, -, hextra⟩
  · cases extra with
    | nil => exact absurd (List.cons.inj hextra).1 (by simp)
    | cons act extra => exact .inr ((List.cons.inj hextra).2 ▸ by simp)
  · exact absurd (hextra ▸ by simp) huse

end Inv

variable {c c' : Custody α}

/-- Every move keeps the invariant. -/
theorem Inv.move (h : c.Inv) (hmove : c.Move c') : c'.Inv := by
  have hcount := h.count
  have horder := h.order
  unfold held at hcount
  cases hmove with
  | take x hnew =>
      refine { h with
        nodup := List.nodup_append.mpr ⟨h.nodup, List.nodup_singleton x, ?_⟩
        count := fun y => ?_
        order := ?_ }
      · intro y hy z hz heq
        exact hnew (List.mem_singleton.mp hz ▸ heq ▸ hy)
      · have := hcount y
        simp only [held, List.count_append] at this ⊢
        omega
      · rw [← List.append_assoc]
        exact horder.append (List.Sublist.refl [x])
  | drop before x after first last hwaiting hdropped =>
      refine { h with count := fun y => ?_, order := ?_ }
      · have := hcount y
        simp only [hwaiting, hdropped, held, List.count_append, List.count_cons] at this ⊢
        omega
      · rw [hwaiting] at horder
        refine List.Sublist.trans ?_ horder
        exact ((List.sublist_cons_self x after).append_left before).append_left _
  | free before x after hdropped =>
      have hallowed := h.allowed_free_dropped (show x ∈ c.dropped by rw [hdropped]; simp)
      refine ⟨h.nodup, fun y => ?_, ?_, fun y hy => ?_, fun y hy => ?_, fun hc => ?_,
        h.orderly.concat hallowed⟩
      · have := hcount y
        simp only [hdropped, held, freed_append, freed_free, List.count_append, List.count_cons,
          List.count_nil] at this ⊢
        omega
      · simpa using horder
      · rcases h.shown y (by simpa using hy) with hfreed | hrest
        · exact .inl (by simp [hfreed])
        · exact .inr hrest
      · simpa using h.current_last y hy
      · obtain ⟨hnext, hcurrent, pre, post, hlog, hpost⟩ := h.closed hc
        exact ⟨hnext, hcurrent, pre, post ++ [.free x], by simp [hlog], by simp [hpost]⟩
  | pick x rest hwaiting hnext hclosed =>
      refine { h with
        count := fun y => ?_
        order := ?_
        closed := fun hc => absurd (hclosed.symm.trans hc) (by simp) }
      · have := hcount y
        simp only [hwaiting, hnext, held, List.count_append, List.count_cons, List.count_nil,
          Option.toList_none, Option.toList_some] at this ⊢
        omega
      · simpa [hwaiting, hnext] using horder
  | use x hnext hcurrent =>
      have hallowed := h.allowed_use hnext
      have hopen : c.closed = false := by
        cases hc : c.closed with
        | false => rfl
        | true => exact absurd ((h.closed hc).1.symm.trans hnext) (by simp)
      refine ⟨h.nodup, fun y => ?_, ?_, fun y hy => ?_, fun y hy => ?_,
        fun hc => absurd (hopen.symm.trans hc) (by simp), h.orderly.concat hallowed⟩
      · have := hcount y
        simp only [hnext, hcurrent, held, freed_append, freed_use, List.append_nil,
          List.count_append, List.count_cons, List.count_nil, Option.toList_none,
          Option.toList_some] at this ⊢
        omega
      · simpa [hnext] using horder
      · simp only [used_append, used_use, List.mem_append, List.mem_singleton] at hy
        rcases hy with hy | rfl
        · rcases h.shown y hy with hfreed | hcur | hkept
          · exact .inl (by simpa using hfreed)
          · exact absurd (hcurrent.symm.trans hcur) (by simp)
          · exact .inr (.inr hkept)
        · exact .inr (.inl rfl)
      · obtain rfl := Option.some.inj hy
        simp
  | keep x hcurrent hkept =>
      refine { h with
        count := fun y => ?_
        shown := fun y hy => ?_
        current_last := fun y hy => absurd hy (by simp)
        closed := fun hc => absurd ((h.closed hc).2.1.symm.trans hcurrent) (by simp) }
      · have := hcount y
        simp only [hcurrent, hkept, held, List.count_append, List.count_cons, List.count_nil,
          Option.toList_none, Option.toList_some] at this ⊢
        omega
      · rcases h.shown y hy with hfreed | hcur | hkept'
        · exact .inl hfreed
        · exact .inr (.inr (hcurrent.symm.trans hcur))
        · exact absurd (hkept.symm.trans hkept') (by simp)
  | replace x z hcurrent hkept =>
      have hallowed := h.allowed_free_kept hcurrent hkept
      refine ⟨h.nodup, fun y => ?_, by simpa using horder, fun y hy => ?_,
        fun y hy => absurd hy (by simp),
        fun hc => absurd ((h.closed hc).2.1.symm.trans hcurrent) (by simp),
        h.orderly.concat hallowed⟩
      · have := hcount y
        simp only [hcurrent, hkept, held, freed_append, freed_free, List.count_append,
          List.count_cons, List.count_nil, Option.toList_none, Option.toList_some] at this ⊢
        omega
      · rcases h.shown y (by simpa using hy) with hfreed | hcur | hkept'
        · exact .inl (by simp [hfreed])
        · exact .inr (.inr (hcurrent.symm.trans hcur))
        · exact .inl (by simp [Option.some.inj (hkept.symm.trans hkept')])
  | close hnext hcurrent =>
      refine ⟨h.nodup, fun y => by simpa [held] using hcount y, by simpa using horder,
        fun y hy => by simpa using h.shown y (by simpa using hy),
        fun y hy => absurd (hcurrent.symm.trans hy) (by simp),
        fun _ => ⟨hnext, hcurrent, c.log, [], rfl, rfl⟩, h.orderly.concat trivial⟩
  | release x hclosed hkept =>
      have hallowed := h.allowed_release hclosed hkept
      refine ⟨h.nodup, fun y => ?_, by simpa using horder, fun y hy => ?_,
        fun y hy => by simpa using h.current_last y hy, fun hc => ?_,
        h.orderly.concat hallowed⟩
      · have := hcount y
        simp only [hkept, held, freed_append, freed_free, List.count_append, List.count_cons,
          List.count_nil, Option.toList_none, Option.toList_some] at this ⊢
        omega
      · rcases h.shown y (by simpa using hy) with hfreed | hcur | hkept'
        · exact .inl (by simp [hfreed])
        · exact .inr (.inl hcur)
        · exact .inl (by simp [Option.some.inj (hkept.symm.trans hkept')])
      · obtain ⟨hnext, hcurrent, pre, post, hlog, hpost⟩ := h.closed hc
        exact ⟨hnext, hcurrent, pre, post ++ [.free x], by simp [hlog], by simp [hpost]⟩

theorem Inv.moves (h : c.Inv) (hmoves : c.Moves c') : c'.Inv := by
  induction hmoves with
  | refl => exact h
  | tail _ hmove ih => exact ih.move hmove

/-! ### What the invariant says -/

section Inv

variable (h : c.Inv)

include h

/-- Nothing is freed twice. -/
theorem Inv.freed_nodup : (freed c.log).Nodup := by
  rw [List.nodup_iff_count_le_one]
  intro x
  have := h.count_le_one x
  omega

theorem Inv.used_sublist : (used c.log).Sublist c.taken :=
  ((List.sublist_append_left _ _).trans (List.sublist_append_left _ _)).trans h.order

/-- When nothing is held any more, what was taken is freed, each item once. -/
theorem Inv.freed_perm (hheld : c.held = []) : (freed c.log).Perm c.taken := by
  rw [List.perm_iff_count]
  intro x
  have := h.count x
  rwa [hheld, List.count_nil, Nat.add_zero] at this

end Inv

end Custody

end GilStreaming
