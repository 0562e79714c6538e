import Mathlib.Data.List.AList
import Mathlib.Data.List.Induction

/-!
# GilStreaming.Lib.GoMap

Go's built-in maps over Mathlib's association lists.

`m[k]`, `m[k] = v`, `delete(m, k)` and `len(m)` are `AList`'s own operations.
What is added here is what a Go program does beyond them: keeping the entries a
predicate accepts (a `range` loop that deletes as it goes), and the `range` loop
itself, whose order the language leaves open. A `RangeOrder` is one choice of
that order: it permutes the entries, so a fact proved for every `RangeOrder`
holds whatever order the runtime picks.

`KeyedBy` and `DistinctOn` are the two invariants an index over a map usually
needs: every value sits under its own key, and no two entries agree on a given
projection.
-/

namespace GilStreaming

universe u v w

/-- A Go `map[κ]ν`. -/
abbrev GoMap (κ : Type u) (ν : Type v) := AList fun _ : κ => ν

/-- One choice of the order in which a `range` loop visits a map's entries. -/
structure RangeOrder (α : Type u) where
  visit : List α → List α
  visit_perm : ∀ l, (visit l).Perm l

/-- The order in which the entries are stored. -/
def RangeOrder.stored {α : Type u} : RangeOrder α := ⟨id, fun _ => .refl _⟩

namespace GoMap

variable {κ : Type u} {ν : Type v} {β : Type w}

/-- `for k, v := range m { if !p(k, v) { delete(m, k) } }`. -/
def filter (p : κ → ν → Bool) (m : GoMap κ ν) : GoMap κ ν where
  entries := m.entries.filter fun e => p e.1 e.2
  nodupKeys := m.nodupKeys.sublist List.filter_sublist

/-- `len(m)`. -/
def len (m : GoMap κ ν) : Nat := m.entries.length

/-- The entries in the order a `range` loop visits them. -/
def range (m : GoMap κ ν) (order : RangeOrder (Σ _ : κ, ν)) : List (Σ _ : κ, ν) :=
  order.visit m.entries

/-- The values in the order a `range` loop visits them. -/
def values (m : GoMap κ ν) (order : RangeOrder (Σ _ : κ, ν)) : List ν :=
  (m.range order).map fun e => e.2

/-- Every value is stored under the key `f` reads off it. -/
def KeyedBy (f : ν → κ) [DecidableEq κ] (m : GoMap κ ν) : Prop :=
  ∀ ⦃k v⦄, m.lookup k = some v → f v = k

/-- No two entries of `m` agree on `f`. -/
def DistinctOn (f : ν → β) [DecidableEq κ] (m : GoMap κ ν) : Prop :=
  ∀ ⦃k k' v v'⦄, m.lookup k = some v → m.lookup k' = some v' → f v = f v' → k = k'

variable [DecidableEq κ] {m m' : GoMap κ ν} {order : RangeOrder (Σ _ : κ, ν)}
  {p : κ → ν → Bool} {f : ν → β}

/-! ### Look-ups after an update -/

@[simp] theorem lookup_filter (p : κ → ν → Bool) (m : GoMap κ ν) (k : κ) :
    (m.filter p).lookup k = (m.lookup k).filter (p k) := by
  refine Option.ext fun v => ?_
  constructor
  · intro h
    have hmem : (⟨k, v⟩ : Σ _ : κ, ν) ∈ m.entries.filter fun e => p e.1 e.2 :=
      AList.mem_lookup_iff.mp h
    obtain ⟨hmem, hp⟩ := List.mem_filter.mp hmem
    exact Option.filter_eq_some_iff.mpr ⟨AList.mem_lookup_iff.mpr hmem, hp⟩
  · intro h
    obtain ⟨hmem, hp⟩ := Option.filter_eq_some_iff.mp h
    exact AList.mem_lookup_iff.mpr
      (List.mem_filter.mpr ⟨AList.mem_lookup_iff.mp hmem, hp⟩)

theorem lookup_filter_eq_some {k : κ} {v : ν} :
    (m.filter p).lookup k = some v ↔ m.lookup k = some v ∧ p k v = true := by
  rw [lookup_filter, Option.filter_eq_some_iff]

/-- An insertion read back: the new value at its key, the old one elsewhere. -/
theorem lookup_insert_eq (m : GoMap κ ν) (k k' : κ) (v : ν) :
    (m.insert k v).lookup k' = if k' = k then some v else m.lookup k' := by
  by_cases h : k' = k
  · subst h; simp
  · rw [if_neg h, AList.lookup_insert_ne h]

/-- A deletion read back. -/
theorem lookup_erase_eq (m : GoMap κ ν) (k k' : κ) :
    (m.erase k).lookup k' = if k' = k then none else m.lookup k' := by
  by_cases h : k' = k
  · subst h; simp
  · rw [if_neg h, AList.lookup_erase_ne h]

/-! ### `range` loops -/

theorem mem_range {e : Σ _ : κ, ν} : e ∈ m.range order ↔ m.lookup e.1 = some e.2 := by
  rw [range, (order.visit_perm _).mem_iff]
  exact AList.mem_lookup_iff.symm

theorem mem_values {v : ν} : v ∈ m.values order ↔ ∃ k, m.lookup k = some v := by
  simp only [values, List.mem_map, mem_range]
  exact ⟨fun ⟨e, he, hv⟩ => ⟨e.1, hv ▸ he⟩, fun ⟨k, hk⟩ => ⟨⟨k, v⟩, hk, rfl⟩⟩

/-- A search loop that finds an entry found one of the map's. -/
theorem find?_range_eq_some {q : (Σ _ : κ, ν) → Bool} {e : Σ _ : κ, ν}
    (h : (m.range order).find? q = some e) : m.lookup e.1 = some e.2 ∧ q e = true :=
  ⟨mem_range.mp (List.mem_of_find?_eq_some h), List.find?_some h⟩

/-- A search loop that finds nothing has seen every entry fail. -/
theorem find?_range_eq_none {q : (Σ _ : κ, ν) → Bool} :
    (m.range order).find? q = none ↔ ∀ k v, m.lookup k = some v → ¬ q ⟨k, v⟩ = true := by
  rw [List.find?_eq_none]
  exact ⟨fun h k v hk => h ⟨k, v⟩ (mem_range.mpr hk), fun h e he => h e.1 e.2 (mem_range.mp he)⟩

/-- A search for something only one entry satisfies finds that entry, in
whatever order the loop runs. -/
theorem find?_range_unique {q : (Σ _ : κ, ν) → Bool} {k : κ} {v : ν}
    (hk : m.lookup k = some v) (hq : q ⟨k, v⟩ = true)
    (huniq : ∀ k' v', m.lookup k' = some v' → q ⟨k', v'⟩ = true → k' = k) :
    (m.range order).find? q = some ⟨k, v⟩ := by
  cases hfind : (m.range order).find? q with
  | none => exact absurd hq (find?_range_eq_none.mp hfind k v hk)
  | some e =>
      obtain ⟨k', v'⟩ := e
      obtain ⟨hk', hq'⟩ := find?_range_eq_some hfind
      obtain rfl := huniq k' v' hk' hq'
      rw [show v' = v from Option.some.inj (hk'.symm.trans hk)]

/-! ### Indexing a list -/

/-- `for _, v := range vs { m[f(v)] = v }` on an empty map. -/
def indexBy (f : ν → κ) (vs : List ν) : GoMap κ ν :=
  vs.foldl (fun m v => m.insert (f v) v) ∅

/-- When no two values share a key, every one is found under its own, whatever the order. -/
theorem lookup_indexBy {f : ν → κ} {vs : List ν} (k : κ) (v : ν)
    (hinj : ∀ u ∈ vs, ∀ u' ∈ vs, f u = f u' → u = u') :
    (indexBy f vs).lookup k = some v ↔ v ∈ vs ∧ f v = k := by
  induction vs using List.reverseRecOn with
  | nil => simp [indexBy]
  | append_singleton vs u ih =>
      have hcons : indexBy f (vs ++ [u]) = (indexBy f vs).insert (f u) u := by
        rw [indexBy, List.foldl_append]
        rfl
      rw [hcons, lookup_insert_eq]
      split
      · next hk =>
          constructor
          · intro h
            obtain rfl := Option.some.inj h
            exact ⟨by simp, hk.symm⟩
          · rintro ⟨hv, hf⟩
            rw [hinj v hv u (by simp) (hf.trans hk)]
      · next hk =>
          rw [ih fun w hw w' hw' => hinj w (by simp [hw]) w' (by simp [hw'])]
          refine and_congr_left fun hf => ?_
          have hne : v ≠ u := fun h => hk (h ▸ hf.symm)
          simp [hne]

/-! ### Counting entries -/

/-- The number of entries that satisfy `p`. -/
def count (p : κ → ν → Bool) (m : GoMap κ ν) : Nat := m.entries.countP fun e => p e.1 e.2

theorem count_insert (m : GoMap κ ν) (k : κ) (v : ν) :
    count p (AList.insert k v m) = count p (m.erase k) + if p k v then 1 else 0 := by
  rw [count, AList.entries_insert, List.countP_cons]
  rfl

theorem count_erase {k : κ} {v : ν} (h : m.lookup k = some v) :
    count p m = count p (m.erase k) + if p k v then 1 else 0 := by
  have hmem : (⟨k, v⟩ : Σ _ : κ, ν) ∈ m.entries := AList.mem_lookup_iff.mp h
  obtain ⟨v', l, l', hl, hentries, herase⟩ := List.exists_of_kerase (List.mem_keys_of_mem hmem)
  have hv : v' = v := by
    have hmem' : (⟨k, v'⟩ : Σ _ : κ, ν) ∈ m.entries := by rw [hentries]; simp
    exact Option.some.inj ((AList.mem_lookup_iff.mpr hmem').symm.trans h)
  subst hv
  have hcount : count p (m.erase k) = l.countP (fun e => p e.1 e.2) + l'.countP _ :=
    (congrArg (List.countP _) herase).trans List.countP_append
  rw [count, hcount, hentries, List.countP_append, List.countP_cons, Nat.add_assoc]

theorem count_erase_le (m : GoMap κ ν) (k : κ) : count p (m.erase k) ≤ count p m :=
  (List.kerase_sublist k m.entries).countP_le

omit [DecidableEq κ] in
theorem count_filter_le (q : κ → ν → Bool) (m : GoMap κ ν) :
    count p (m.filter q) ≤ count p m :=
  (List.filter_sublist (l := m.entries)).countP_le

/-! ### The two index invariants -/

/-- Shrinking a map, or replacing values by ones with the same projection,
keeps the entries distinct. -/
theorem DistinctOn.of_le (h : DistinctOn f m)
    (hle : ∀ k v', m'.lookup k = some v' → ∃ v, m.lookup k = some v ∧ f v' = f v) :
    DistinctOn f m' := by
  intro k k' v v' hk hk' hf
  obtain ⟨u, hu, hfu⟩ := hle k v hk
  obtain ⟨u', hu', hfu'⟩ := hle k' v' hk'
  exact h hu hu' (hfu.symm.trans (hf.trans hfu'))

/-- A new entry keeps the entries distinct when no other one shares its
projection. -/
theorem DistinctOn.insert {k : κ} {v : ν} (h : DistinctOn f m)
    (hnew : ∀ k' v', k' ≠ k → m.lookup k' = some v' → f v' ≠ f v) :
    DistinctOn f (AList.insert k v m) := by
  intro a b x y ha hb hxy
  rw [lookup_insert_eq] at ha hb
  split at ha <;> split at hb
  · next h1 h2 => rw [h1, h2]
  · next h1 h2 =>
      obtain rfl := Option.some.inj ha
      exact absurd hxy.symm (hnew b y h2 hb)
  · next h1 h2 =>
      obtain rfl := Option.some.inj hb
      exact absurd hxy (hnew a x h1 ha)
  · exact h ha hb hxy

theorem distinctOn_empty : DistinctOn f (∅ : GoMap κ ν) := by
  intro k k' v v' hk
  simp at hk

end GoMap

end GilStreaming
