import Mathlib.Data.List.Sort
import Mathlib.Data.List.Nodup

/-!
# GilStreaming.Lib.RowMerge

The rows of a list view, brought up to date in place.

A view is told of single rows that are removed, inserted or changed, and `replay` is what
it then shows. `mergeRows` brings old rows up to date with new ones the way such a model
does it: rows that are gone are dropped, rows that stay take their new values where they
stand, and each new row is inserted before the first row with a greater key.

For new rows that are sorted by key and have distinct ids, `mergeRows_eq_iff` says exactly
when this yields the new rows: the rows that stay are in the new order already, and a row
that is added has a key below that of every row that stays and follows it.
-/

namespace GilStreaming

universe u

/-! ### Changes of a view -/

inductive RowChange (α : Type u)
  | removed (row : Nat)
  | inserted (row : Nat) (a : α)
  | changed (row : Nat) (a : α)
  deriving DecidableEq, Repr

namespace RowChange

variable {α : Type u}

def apply (rows : List α) : RowChange α → List α
  | removed row => rows.eraseIdx row
  | inserted row a => rows.insertIdx row a
  | changed row a => rows.set row a

def replay (rows : List α) (changes : List (RowChange α)) : List α :=
  changes.foldl apply rows

@[simp] theorem replay_nil (rows : List α) : replay rows [] = rows := rfl

@[simp] theorem replay_cons (rows : List α) (c : RowChange α) (changes : List (RowChange α)) :
    replay rows (c :: changes) = replay (c.apply rows) changes := rfl

theorem replay_append (rows : List α) (before after : List (RowChange α)) :
    replay rows (before ++ after) = replay (replay rows before) after :=
  List.foldl_append

end RowChange

/-! ### Merging -/

section Merge

variable {α : Type u} {ι κ : Type} [DecidableEq ι] [LinearOrder κ]
variable (id : α → ι) (key : α → κ)

/-- The row at which `a` is inserted, or none when a row with its id comes first. -/
def newRow (a : α) : List α → Option Nat
  | [] => some 0
  | b :: rows =>
    if id b = id a then none
    else if key a < key b then some 0
    else (newRow a rows).map (· + 1)

def addRow (rows : List α) (a : α) : List α :=
  match newRow id key a rows with
  | none => rows
  | some row => rows.insertIdx row a

/-- The old rows that stay, with their new values. -/
def retained (new old : List α) : List α :=
  old.filterMap fun a => new.find? fun b => decide (id a = id b)

def mergeRows (new old : List α) : List α :=
  new.foldl (addRow id key) (retained id new old)

variable {id key} {rows new old before after : List α} {a b : α}

@[simp] theorem addRow_nil (a : α) : addRow id key [] a = [a] := rfl

theorem addRow_cons (b : α) (rows : List α) (a : α) :
    addRow id key (b :: rows) a =
      if id b = id a then b :: rows
      else if key a < key b then a :: b :: rows
      else b :: addRow id key rows a := by
  rw [addRow, newRow]
  by_cases hid : id b = id a
  · rw [if_pos hid, if_pos hid]
  · rw [if_neg hid, if_neg hid]
    by_cases hkey : key a < key b
    · rw [if_pos hkey, if_pos hkey]
      rfl
    · rw [if_neg hkey, if_neg hkey, addRow]
      cases newRow id key a rows <;> rfl

/-- The search passes over the rows that may stand before `a`. -/
theorem addRow_append (h : ∀ b ∈ before, id b ≠ id a ∧ key b ≤ key a) (rows : List α) :
    addRow id key (before ++ rows) a = before ++ addRow id key rows a := by
  induction before with
  | nil => rfl
  | cons b before ih =>
      obtain ⟨hid, hkey⟩ := h b List.mem_cons_self
      rw [List.cons_append, addRow_cons, if_neg hid, if_neg hkey.not_gt,
        ih fun b' hb' => h b' (List.mem_cons_of_mem _ hb')]
      rfl

theorem sublist_addRow (rows : List α) (a : α) : rows.Sublist (addRow id key rows a) := by
  induction rows with
  | nil => exact List.nil_sublist _
  | cons b rows ih =>
      rw [addRow_cons]
      split
      · exact List.Sublist.refl _
      · split
        · exact List.sublist_cons_self _ _
        · exact ih.cons_cons b

theorem mem_addRow (h : b ∈ addRow id key rows a) : b ∈ rows ∨ b = a := by
  induction rows with
  | nil => exact .inr (List.mem_singleton.1 h)
  | cons c rows ih =>
      rw [addRow_cons] at h
      split at h
      · exact .inl h
      · split at h
        · exact (List.mem_cons.1 h).symm
        · cases List.mem_cons.1 h with
          | inl hc => exact .inl (hc ▸ List.mem_cons_self)
          | inr hrest => exact (ih hrest).imp_left (List.mem_cons_of_mem _)

/-- An insertion keeps the rows sorted. -/
theorem pairwise_addRow (h : rows.Pairwise fun a b => key a ≤ key b) (a : α) :
    (addRow id key rows a).Pairwise fun a b => key a ≤ key b := by
  induction rows with
  | nil => exact List.pairwise_singleton _ _
  | cons b rows ih =>
      rw [addRow_cons]
      obtain ⟨hb, hrows⟩ := List.pairwise_cons.1 h
      split
      · exact h
      · split
        · case _ hlt =>
            refine List.pairwise_cons.2 ⟨fun c hc => ?_, h⟩
            cases List.mem_cons.1 hc with
            | inl hcb => exact hcb ▸ hlt.le
            | inr hc => exact hlt.le.trans (hb c hc)
        · case _ hle =>
            refine List.pairwise_cons.2 ⟨fun c hc => ?_, ih hrows⟩
            cases mem_addRow hc with
            | inl hc => exact hb c hc
            | inr hca => exact hca ▸ not_lt.1 hle

/-- A row is inserted behind every row with the same key or a smaller one. -/
theorem pair_sublist_addRow (hsorted : rows.Pairwise fun a b => key a ≤ key b)
    (hid : ∀ c ∈ rows, id c ≠ id a) (hb : b ∈ rows) (hkey : key b ≤ key a) :
    [b, a].Sublist (addRow id key rows a) := by
  induction rows with
  | nil => exact absurd hb List.not_mem_nil
  | cons c rows ih =>
      obtain ⟨hc, hrows⟩ := List.pairwise_cons.1 hsorted
      have hcb : key c ≤ key b := by
        cases List.mem_cons.1 hb with
        | inl h => exact h ▸ le_rfl
        | inr h => exact hc b h
      rw [addRow_cons, if_neg (hid c List.mem_cons_self), if_neg (hcb.trans hkey).not_gt]
      have hrest : ∀ c ∈ rows, id c ≠ id a := fun c' hc' => hid c' (List.mem_cons_of_mem _ hc')
      cases List.mem_cons.1 hb with
      | inr h => exact (ih hrows hrest h).cons c
      | inl h =>
          -- `a` stands somewhere behind the row that is passed over.
          have ha : a ∈ addRow id key rows a := by
            clear ih hrows hcb hkey hsorted hc hid hb
            induction rows with
            | nil => exact List.mem_cons_self
            | cons d rows ih =>
                rw [addRow_cons, if_neg (hrest d List.mem_cons_self)]
                split
                · exact List.mem_cons_self
                · exact List.mem_cons_of_mem _
                    (ih fun c' hc' => hrest c' (List.mem_cons_of_mem _ hc'))
          rw [h]
          exact (List.singleton_sublist.2 ha).cons_cons c

/-! ### All the new rows -/

variable (id key) in
theorem sublist_foldl_addRow (rows new : List α) :
    rows.Sublist (new.foldl (addRow id key) rows) := by
  induction new generalizing rows with
  | nil => exact List.Sublist.refl _
  | cons a new ih => exact (sublist_addRow rows a).trans (ih _)

theorem mem_foldl_addRow (h : b ∈ new.foldl (addRow id key) rows) : b ∈ rows ∨ b ∈ new := by
  induction new generalizing rows with
  | nil => exact .inl h
  | cons a new ih =>
      cases ih h with
      | inr hnew => exact .inr (List.mem_cons_of_mem _ hnew)
      | inl hrow =>
          cases mem_addRow hrow with
          | inl hb => exact .inl hb
          | inr hb => exact .inr (hb ▸ List.mem_cons_self)

theorem pairwise_foldl_addRow (h : rows.Pairwise fun a b => key a ≤ key b) (new : List α) :
    (new.foldl (addRow id key) rows).Pairwise fun a b => key a ≤ key b := by
  induction new generalizing rows with
  | nil => exact h
  | cons a new ih => exact ih (pairwise_addRow h a)

/-- The rows of `before` are in place; those of `new` that are there already are `kept`. -/
theorem foldl_addRow_append (hkept : rows.Sublist new)
    (hsorted : (before ++ new).Pairwise fun a b => key a ≤ key b)
    (hids : ((before ++ new).map id).Nodup)
    (hties : ∀ a b, [a, b].Sublist new → a ∉ rows → b ∈ rows → key a < key b) :
    new.foldl (addRow id key) (before ++ rows) = before ++ new := by
  induction hkept generalizing before with
  | slnil => rfl
  | @cons rows new a hkept ih =>
      have hbefore : ∀ b ∈ before, id b ≠ id a ∧ key b ≤ key a := fun b hb =>
        ⟨(List.pairwise_append.1 (List.pairwise_map.1 hids)).2.2 b hb a List.mem_cons_self,
          (List.pairwise_append.1 hsorted).2.2 b hb a List.mem_cons_self⟩
      have hnot : a ∉ rows := fun ha =>
        (List.pairwise_cons.1 (List.pairwise_append.1 (List.pairwise_map.1 hids)).2.1).1 a
          (hkept.subset ha) rfl
      have hadd : addRow id key rows a = a :: rows := by
        cases rows with
        | nil => rfl
        | cons b rows =>
            have hb : b ∈ new := hkept.subset List.mem_cons_self
            have hid : id b ≠ id a := fun h =>
              (List.pairwise_cons.1 (List.pairwise_append.1 (List.pairwise_map.1 hids)).2.1).1 b
                hb h.symm
            rw [addRow_cons, if_neg hid,
              if_pos (hties a b ((List.singleton_sublist.2 hb).cons_cons a) hnot
                List.mem_cons_self)]
      rw [List.foldl_cons, addRow_append hbefore, hadd, List.append_cons before a rows,
        List.append_cons before a new]
      rw [List.append_cons] at hsorted hids
      exact ih hsorted hids fun x y hxy => hties x y (hxy.cons a)
  | @cons_cons rows new a hkept ih =>
      have hbefore : ∀ b ∈ before, id b ≠ id a ∧ key b ≤ key a := fun b hb =>
        ⟨(List.pairwise_append.1 (List.pairwise_map.1 hids)).2.2 b hb a List.mem_cons_self,
          (List.pairwise_append.1 hsorted).2.2 b hb a List.mem_cons_self⟩
      rw [List.foldl_cons, addRow_append hbefore, addRow_cons, if_pos rfl,
        List.append_cons before a rows, List.append_cons before a new]
      rw [List.append_cons] at hsorted hids
      refine ih hsorted hids fun x y hxy hx hy => ?_
      have hne : x ≠ a := fun h => by
        have hxnew : x ∈ new := hxy.subset List.mem_cons_self
        rw [← List.append_cons] at hids
        exact (List.pairwise_cons.1 (List.pairwise_append.1 (List.pairwise_map.1 hids)).2.1).1 x
          hxnew (congrArg id h.symm)
      refine hties x y (hxy.cons a) (fun h => ?_) (List.mem_cons_of_mem _ hy)
      exact (List.mem_cons.1 h).elim hne hx

theorem not_pair_sublist_swap (hnodup : new.Nodup) (h : [a, b].Sublist new) :
    ¬ [b, a].Sublist new := by
  induction new with
  | nil => exact absurd h.length_le (by simp)
  | cons c new ih =>
      obtain ⟨hc, hnew⟩ := List.nodup_cons.1 hnodup
      intro hswap
      cases h with
      | cons _ h =>
          cases hswap with
          | cons _ hswap => exact ih hnew h hswap
          | cons_cons _ _ => exact hc (h.subset (by simp))
      | cons_cons _ h =>
          cases hswap with
          | cons _ hswap => exact hc (hswap.subset (by simp))
          | cons_cons _ hswap => exact hc (hswap.subset List.mem_cons_self)

theorem mem_retained : b ∈ retained id new old →
    b ∈ new ∧ id b ∈ old.map id := by
  intro h
  obtain ⟨a, ha, hfind⟩ := List.mem_filterMap.1 h
  have hid : id a = id b := by simpa using List.find?_some hfind
  exact ⟨List.mem_of_find?_eq_some hfind, List.mem_map.2 ⟨a, ha, hid⟩⟩

theorem mem_retained_iff (hids : (new.map id).Nodup) (hb : b ∈ new) :
    b ∈ retained id new old ↔ id b ∈ old.map id := by
  refine ⟨fun h => (mem_retained h).2, fun h => ?_⟩
  obtain ⟨a, ha, hid⟩ := List.mem_map.1 h
  refine List.mem_filterMap.2 ⟨a, ha, ?_⟩
  cases hfind : new.find? fun b => decide (id a = id b) with
  | none => exact absurd (decide_eq_true hid) (List.find?_eq_none.1 hfind b hb)
  | some c =>
      have hc : id a = id c := by simpa using List.find?_some hfind
      exact congrArg some (List.inj_on_of_nodup_map hids (List.mem_of_find?_eq_some hfind) hb
        (hc.symm.trans hid))

/-- The old rows can be brought up to date in place: those that stay are in the order of the
new ones, and a row that is added has a key below that of every row that stays and follows
it. -/
structure InPlace (id : α → ι) (key : α → κ) (new old : List α) : Prop where
  order : (retained id new old).Sublist new
  ties : ∀ a b, [a, b].Sublist new → id a ∉ old.map id → id b ∈ old.map id → key a < key b

theorem mergeRows_of_inPlace (hsorted : new.Pairwise fun a b => key a ≤ key b)
    (hids : (new.map id).Nodup) (h : InPlace id key new old) : mergeRows id key new old = new := by
  have hall : new.foldl (addRow id key) ([] ++ retained id new old) = [] ++ new := by
    refine foldl_addRow_append h.order hsorted hids fun a b hab ha hb => ?_
    have hmem : a ∈ new := hab.subset List.mem_cons_self
    exact h.ties a b hab (fun h => ha ((mem_retained_iff hids hmem).2 h)) (mem_retained hb).2
  exact hall

/-- A row that was there already, and that a new row must precede, has a greater key. -/
theorem inPlace_of_mergeRows (hsorted : new.Pairwise fun a b => key a ≤ key b)
    (hids : (new.map id).Nodup) (h : mergeRows id key new old = new) : InPlace id key new old := by
  have horder : (retained id new old).Sublist new := by
    have hsub := sublist_foldl_addRow id key (retained id new old) new
    rwa [show new.foldl (addRow id key) (retained id new old) = new from h] at hsub
  refine ⟨horder, fun a b hab ha hb => ?_⟩
  obtain ⟨upTo, rest, hnew, haUpTo, hbrest⟩ := List.cons_sublist_iff.1 hab
  obtain ⟨front, middle, hupTo⟩ := List.append_of_mem haUpTo
  have hsplit : new = front ++ a :: (middle ++ rest) := by
    rw [hnew, hupTo, List.append_assoc, List.cons_append]
  have hmem : a ∈ new := hab.subset List.mem_cons_self
  have hbkept : b ∈ retained id new old :=
    (mem_retained_iff hids (hab.subset (by simp))).2 hb
  -- The rows at the time when `a` is added.
  generalize hrows : front.foldl (addRow id key) (retained id new old) = rows
  have hrowsSorted : rows.Pairwise fun a b => key a ≤ key b :=
    hrows ▸ pairwise_foldl_addRow (hsorted.sublist horder) front
  have hrowsIds : ∀ c ∈ rows, id c ≠ id a := by
    intro c hc hid
    rw [← hrows] at hc
    cases mem_foldl_addRow hc with
    | inl hkept => exact ha (hid ▸ (mem_retained hkept).2)
    | inr hfront =>
        rw [hsplit, List.map_append] at hids
        exact (List.nodup_append.1 hids).2.2 _ (List.mem_map_of_mem hfront) _ List.mem_cons_self
          hid
  have hresult : (addRow id key rows a).Sublist new := by
    have hsub := sublist_foldl_addRow id key (addRow id key rows a) (middle ++ rest)
    have hmerge : mergeRows id key new old =
        (middle ++ rest).foldl (addRow id key) (addRow id key rows a) := by
      rw [mergeRows, ← hrows, ← List.foldl_cons, ← List.foldl_append, ← hsplit]
    rwa [← hmerge, h] at hsub
  by_contra hkey
  have hswap : [b, a].Sublist new :=
    (pair_sublist_addRow hrowsSorted hrowsIds
      (hrows ▸ (sublist_foldl_addRow id key _ front).subset hbkept) (not_lt.1 hkey)).trans hresult
  exact not_pair_sublist_swap (List.Nodup.of_map _ hids) hab hswap

/-- **Merging in place.** -/
theorem mergeRows_eq_iff (hsorted : new.Pairwise fun a b => key a ≤ key b)
    (hids : (new.map id).Nodup) : mergeRows id key new old = new ↔ InPlace id key new old :=
  ⟨inPlace_of_mergeRows hsorted hids, mergeRows_of_inPlace hsorted hids⟩

/-- The plain case: no key is changed, and no two new rows have the same one. -/
theorem InPlace.of_keys (hstrict : new.Pairwise fun a b => key a < key b)
    (hold : old.Pairwise fun a b => key a ≤ key b) (hids : (old.map id).Nodup)
    (hkeys : ∀ a ∈ old, ∀ b ∈ new, id a = id b → key a = key b) : InPlace id key new old := by
  refine ⟨?_, fun a b hab _ _ => List.pairwise_iff_forall_sublist.1 hstrict hab⟩
  have hkept (b : α) {a : α} (ha : a ∈ old)
      (h : b ∈ new.find? fun b => decide (id a = id b)) : b ∈ new ∧ id a = id b :=
    ⟨List.mem_of_find?_eq_some h, by simpa using List.find?_some h⟩
  have hsorted : (retained id new old).Pairwise fun a b => key a ≤ key b := by
    refine List.pairwise_filterMap.2 (hold.imp_of_mem fun {a a'} ha ha' hle b hb b' hb' => ?_)
    obtain ⟨hbnew, hid⟩ := hkept b ha hb
    obtain ⟨hbnew', hid'⟩ := hkept b' ha' hb'
    rwa [← hkeys a ha b hbnew hid, ← hkeys a' ha' b' hbnew' hid']
  have hnodup : (retained id new old).Nodup := by
    refine List.pairwise_filterMap.2 ((List.pairwise_map.1 hids).imp_of_mem
      fun {a a'} ha ha' hne b hb b' hb' h => hne ?_)
    rw [(hkept b ha hb).2, (hkept b' ha' hb').2, show b = b' from h]
  have hinj : (new.map key).Nodup := List.pairwise_map.2 (hstrict.imp LT.lt.ne)
  have hstrictKept : (retained id new old).Pairwise fun a b => key a < key b :=
    (hsorted.and hnodup).imp_of_mem fun hb hb' h => h.1.lt_of_ne fun heq =>
      h.2 (List.inj_on_of_nodup_map hinj (mem_retained hb).1 (mem_retained hb').1 heq)
  have : Std.Antisymm fun a b : α => key a < key b := ⟨fun _ _ h h' => absurd h' h.asymm⟩
  exact List.sublist_of_subperm_of_pairwise
    (List.subperm_of_subset hnodup fun b hb => (mem_retained hb).1) hstrictKept hstrict

end Merge

end GilStreaming
