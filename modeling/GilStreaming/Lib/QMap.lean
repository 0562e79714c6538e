import Mathlib.Data.List.Basic
import Mathlib.Order.Lattice

/-!
# GilStreaming.Lib.QMap

Qt's `QMap`: a map that is iterated in the order of its keys.

The entries are a list that is strictly sorted, so that the order of a loop over the map is
not left open. Besides the operations there is what a look-up becomes after each of them,
and which values a loop visits.
-/

namespace GilStreaming

universe u v

/-- `QMap<κ, ν>`. -/
structure QMap (κ : Type u) (ν : Type v) [LT κ] where
  entries : List (κ × ν)
  sorted : entries.Pairwise fun e e' => e.1 < e'.1

namespace QMap

variable {κ : Type u} {ν : Type v} [LinearOrder κ]

/-- `m[k] = v` on the entries. -/
def insertEntry (k : κ) (v : ν) : List (κ × ν) → List (κ × ν)
  | [] => [(k, v)]
  | e :: es =>
    if k < e.1 then (k, v) :: e :: es
    else if k = e.1 then (k, v) :: es
    else e :: insertEntry k v es

theorem mem_insertEntry {k : κ} {v : ν} {e : κ × ν} {es : List (κ × ν)}
    (h : e ∈ insertEntry k v es) : e = (k, v) ∨ e ∈ es := by
  induction es with
  | nil => exact .inl (List.mem_singleton.mp h)
  | cons e' es ih =>
      rw [insertEntry] at h
      split at h
      · exact List.mem_cons.mp h
      · split at h
        · exact (List.mem_cons.mp h).imp_right (List.mem_cons_of_mem _)
        · rcases List.mem_cons.mp h with rfl | h
          · exact .inr List.mem_cons_self
          · exact (ih h).imp_right (List.mem_cons_of_mem _)

theorem insertEntry_sorted (k : κ) (v : ν) {es : List (κ × ν)}
    (h : es.Pairwise fun e e' => e.1 < e'.1) :
    (insertEntry k v es).Pairwise fun e e' => e.1 < e'.1 := by
  induction es with
  | nil => exact List.pairwise_singleton _ _
  | cons e es ih =>
      obtain ⟨hfirst, hrest⟩ := List.pairwise_cons.mp h
      rw [insertEntry]
      split
      · next hlt =>
          refine List.pairwise_cons.mpr ⟨fun e' he' => ?_, h⟩
          rcases List.mem_cons.mp he' with rfl | he'
          · exact hlt
          · exact lt_trans hlt (hfirst e' he')
      · next hnlt =>
          split
          · next heq => exact List.pairwise_cons.mpr ⟨fun e' he' => heq ▸ hfirst e' he', hrest⟩
          · next hne =>
              refine List.pairwise_cons.mpr ⟨fun e' he' => ?_, ih hrest⟩
              rcases mem_insertEntry he' with rfl | he'
              · exact lt_of_le_of_ne (not_lt.mp hnlt) (Ne.symm hne)
              · exact hfirst e' he'

def empty : QMap κ ν := ⟨[], .nil⟩

/-- `m.contains(k)` and `m.value(k)`. -/
def lookup (m : QMap κ ν) (k : κ) : Option ν := List.lookup k m.entries

/-- `m[k] = v`. -/
def insert (m : QMap κ ν) (k : κ) (v : ν) : QMap κ ν :=
  ⟨insertEntry k v m.entries, insertEntry_sorted k v m.sorted⟩

/-- A loop that replaces every value by `f` of it. -/
def map (m : QMap κ ν) (f : ν → ν) : QMap κ ν where
  entries := m.entries.map fun e => (e.1, f e.2)
  sorted := List.pairwise_map.mpr m.sorted

def keys (m : QMap κ ν) : List κ := m.entries.map Prod.fst

/-- The values, in the order of the keys. -/
def values (m : QMap κ ν) : List ν := m.entries.map Prod.snd

@[simp] theorem lookup_empty (k : κ) : (empty : QMap κ ν).lookup k = none := rfl

theorem lookup_cons_ne {k : κ} {e : κ × ν} (h : k ≠ e.1) (es : List (κ × ν)) :
    List.lookup k (e :: es) = List.lookup k es := by
  rw [List.lookup_cons, beq_eq_false_iff_ne.mpr h]

/-- An insertion read back: the new value at its key, the old one elsewhere. -/
theorem lookup_insert (m : QMap κ ν) (k k' : κ) (v : ν) :
    (m.insert k v).lookup k' = if k' = k then some v else m.lookup k' := by
  unfold lookup insert
  dsimp only
  induction m.entries with
  | nil =>
      by_cases h : k' = k
      · rw [if_pos h, h, insertEntry, List.lookup_cons_self]
      · rw [if_neg h, insertEntry, lookup_cons_ne h]
  | cons e es ih =>
      rw [insertEntry]
      by_cases h : k' = k
      · rw [if_pos h] at ih ⊢
        subst h
        split
        · exact List.lookup_cons_self
        · split
          · exact List.lookup_cons_self
          · next hne => rw [lookup_cons_ne hne, ih]
      · rw [if_neg h] at ih ⊢
        split
        · rw [lookup_cons_ne h]
        · split
          · next heq => rw [lookup_cons_ne h, lookup_cons_ne (heq ▸ h)]
          · by_cases he : k' = e.1
            · subst he
              rw [List.lookup_cons_self, List.lookup_cons_self]
            · rw [lookup_cons_ne he, lookup_cons_ne he, ih]

theorem lookup_map (m : QMap κ ν) (f : ν → ν) (k : κ) :
    (m.map f).lookup k = (m.lookup k).map f := by
  unfold lookup map
  dsimp only
  induction m.entries with
  | nil => rfl
  | cons e es ih =>
      obtain ⟨k', v⟩ := e
      rw [List.map_cons]
      by_cases h : k = k'
      · subst h
        rw [List.lookup_cons_self, List.lookup_cons_self, Option.map_some]
      · rw [lookup_cons_ne (e := (k', v)) h, ← ih]
        exact lookup_cons_ne h _

theorem lookup_eq_some {m : QMap κ ν} {k : κ} {v : ν} :
    m.lookup k = some v ↔ (k, v) ∈ m.entries := by
  obtain ⟨entries, sorted⟩ := m
  unfold lookup
  dsimp only
  induction entries with
  | nil => simp
  | cons e es ih =>
      obtain ⟨hfirst, hrest⟩ := List.pairwise_cons.mp sorted
      rw [List.mem_cons]
      by_cases h : k = e.1
      · subst h
        rw [List.lookup_cons_self]
        constructor
        · rintro ⟨⟩
          exact .inl rfl
        · rintro (heq | hmem)
          · rw [← heq]
          · exact absurd (hfirst _ hmem) (lt_irrefl _)
      · rw [lookup_cons_ne h, ih hrest]
        exact ⟨.inr, fun hmem => hmem.resolve_left fun heq => h (congrArg Prod.fst heq)⟩

/-- A loop visits the values of the map. -/
theorem mem_values {m : QMap κ ν} {v : ν} : v ∈ m.values ↔ ∃ k, m.lookup k = some v := by
  simp only [values, List.mem_map, lookup_eq_some, Prod.exists, exists_eq_right]

/-- A loop visits the keys that the map contains. -/
theorem mem_keys {m : QMap κ ν} {k : κ} : k ∈ m.keys ↔ ∃ v, m.lookup k = some v := by
  simp only [keys, List.mem_map, lookup_eq_some, Prod.exists, exists_and_right, exists_eq_right]

/-- A loop comes to every key once. -/
theorem keys_nodup (m : QMap κ ν) : m.keys.Nodup :=
  (List.pairwise_map.mpr m.sorted).imp fun h => ne_of_lt h

/-! ### Building a map in order -/

theorem insertEntry_of_lt {k : κ} {v : ν} {es : List (κ × ν)} (h : ∀ e ∈ es, e.1 < k) :
    insertEntry k v es = es ++ [(k, v)] := by
  induction es with
  | nil => rfl
  | cons e es ih =>
      have he : e.1 < k := h e List.mem_cons_self
      rw [insertEntry, if_neg he.not_gt, if_neg he.ne',
        ih fun e' he' => h e' (List.mem_cons_of_mem _ he')]
      rfl

theorem foldl_insert_entries_append {key : ν → κ} {vs : List ν} (m : QMap κ ν)
    (h : vs.Pairwise fun v v' => key v < key v') (hm : ∀ e ∈ m.entries, ∀ v ∈ vs, e.1 < key v) :
    (vs.foldl (fun m v => m.insert (key v) v) m).entries =
      m.entries ++ vs.map fun v => (key v, v) := by
  induction vs generalizing m with
  | nil => exact (List.append_nil _).symm
  | cons v vs ih =>
      obtain ⟨hv, hvs⟩ := List.pairwise_cons.mp h
      have hinsert : (m.insert (key v) v).entries = m.entries ++ [(key v, v)] :=
        insertEntry_of_lt fun e he => hm e he v List.mem_cons_self
      rw [List.foldl_cons, ih (m.insert (key v) v) hvs, hinsert, List.append_assoc]
      · rfl
      · intro e he v' hv'
        rw [hinsert] at he
        rcases List.mem_append.mp he with he | he
        · exact hm e he v' (List.mem_cons_of_mem _ hv')
        · rw [List.mem_singleton.mp he]
          exact hv v' hv'

/-- A map that is built in the order of its keys. -/
theorem foldl_insert_entries {key : ν → κ} {vs : List ν}
    (h : vs.Pairwise fun v v' => key v < key v') :
    (vs.foldl (fun m v => m.insert (key v) v) (.empty : QMap κ ν)).entries =
      vs.map fun v => (key v, v) :=
  (foldl_insert_entries_append .empty h fun _ he => absurd he List.not_mem_nil).trans
    (List.nil_append _)

end QMap

end GilStreaming
