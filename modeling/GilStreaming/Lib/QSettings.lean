import Mathlib.Data.List.Basic

/-!
# GilStreaming.Lib.QSettings

Qt's `QSettings`: values under keys that are paths, written one after the other.

A write that a crash cuts short leaves the effect of its first operations, so a writer is a
list of `SettingsOp`, and a crash keeps a `take` of it. The arrays of `QSettings` are built
on top: an array has its size under a key of its own, which is removed when the writing
starts and written when it ends, and each entry has the keys below its index.

The facts are about what an operation leaves alone (`applyAll_outside`), what the size of
an array is while it is written (`writeArray_unfinished`), and what is read from it
afterwards (`readArray_writeArray`).
-/

namespace GilStreaming

universe u v

/-- A stored value. Every key is written with values of one kind only. -/
inductive QVariant
  | string (s : String)
  | number (n : Int)
  | bool (b : Bool)
  | bytes (b : List UInt8)
  deriving DecidableEq, Repr

namespace QVariant

/-! ### Reading a value, `none` where there is no key -/

def toString : Option QVariant → String
  | some (string s) => s
  | _ => ""

def toBool : Option QVariant → Bool
  | some (bool b) => b
  | _ => false

def toInt : Option QVariant → Int
  | some (number n) => n
  | _ => 0

def toByteArray : Option QVariant → List UInt8
  | some (bytes b) => b
  | _ => []

end QVariant

/-- One part of a key: a name, or the number of an array entry. -/
inductive KeyPart
  | name (s : String)
  | index (i : Nat)
  deriving DecidableEq, Repr

/-- A key, such as `hosts/1/uuid`. -/
abbrev SettingsKey := List KeyPart

/-- What the settings hold. -/
abbrev QSettings := SettingsKey → Option QVariant

/-- A single change of the settings. -/
inductive SettingsOp
  | setValue (key : SettingsKey) (value : QVariant)
  /-- Removes the key and all keys below it. -/
  | remove (key : SettingsKey)
  deriving DecidableEq, Repr

namespace SettingsOp

def key : SettingsOp → SettingsKey
  | setValue key _ => key
  | remove key => key

def apply (settings : QSettings) : SettingsOp → QSettings
  | setValue key value => fun k => if k = key then some value else settings k
  | remove key => fun k => if key <+: k then none else settings k

/-- An operation leaves alone what is not below its key. -/
theorem apply_outside {op : SettingsOp} {k : SettingsKey} (h : ¬ op.key <+: k)
    (settings : QSettings) : op.apply settings k = settings k := by
  cases op with
  | setValue key value =>
      refine if_neg fun hk => h ?_
      rw [hk]
      exact List.prefix_refl _
  | remove key => exact if_neg h

theorem apply_remove {key k : SettingsKey} (h : key <+: k) (settings : QSettings) :
    apply settings (remove key) k = none :=
  if_pos h

end SettingsOp

namespace QSettings

variable {α : Type u} {β : Type v} {settings settings' : QSettings} {ops ops' : List SettingsOp}
  {p k : SettingsKey}

def applyAll (settings : QSettings) (ops : List SettingsOp) : QSettings :=
  ops.foldl SettingsOp.apply settings

@[simp] theorem applyAll_nil (settings : QSettings) : applyAll settings [] = settings := rfl

theorem applyAll_cons (settings : QSettings) (op : SettingsOp) (ops : List SettingsOp) :
    applyAll settings (op :: ops) = applyAll (op.apply settings) ops := rfl

theorem applyAll_append (settings : QSettings) (ops ops' : List SettingsOp) :
    applyAll settings (ops ++ ops') = applyAll (applyAll settings ops) ops' :=
  List.foldl_append

/-- What becomes of a key depends on what it held, and on nothing else in the settings. -/
theorem applyAll_congr_at (ops : List SettingsOp) (h : settings k = settings' k) :
    applyAll settings ops k = applyAll settings' ops k := by
  induction ops generalizing settings settings' with
  | nil => exact h
  | cons op ops ih =>
      refine ih ?_
      cases op with
      | setValue key value =>
          show (if k = key then some value else settings k) = _
          rw [h]
          rfl
      | remove key =>
          show (if key <+: k then none else settings k) = _
          rw [h]
          rfl

/-! ### What operations leave alone -/

/-- The operations only touch keys below `p`. -/
def Within (p : SettingsKey) (ops : List SettingsOp) : Prop := ∀ op ∈ ops, p <+: op.key

theorem Within.append (h : Within p ops) (h' : Within p ops') : Within p (ops ++ ops') := by
  intro op hop
  rcases List.mem_append.mp hop with hop | hop
  · exact h op hop
  · exact h' op hop

theorem Within.take (h : Within p ops) (n : Nat) : Within p (ops.take n) :=
  fun op hop => h op (List.mem_of_mem_take hop)

theorem Within.weaken {q : SettingsKey} (h : Within p ops) (hq : q <+: p) : Within q ops :=
  fun op hop => hq.trans (h op hop)

theorem applyAll_of_forall (h : ∀ op ∈ ops, ¬ op.key <+: k) (settings : QSettings) :
    applyAll settings ops k = settings k := by
  induction ops generalizing settings with
  | nil => rfl
  | cons op ops ih =>
      rw [applyAll_cons, ih (fun op' hop' => h op' (List.mem_cons_of_mem _ hop'))]
      exact SettingsOp.apply_outside (h op List.mem_cons_self) settings

/-- Operations below `p` leave every other key alone. -/
theorem applyAll_outside (h : Within p ops) (hk : ¬ p <+: k) (settings : QSettings) :
    applyAll settings ops k = settings k :=
  applyAll_of_forall (fun op hop hkey => hk ((h op hop).trans hkey)) settings

/-- The two settings hold the same below `p`. -/
def AgreeBelow (p : SettingsKey) (settings settings' : QSettings) : Prop :=
  ∀ k, p <+: k → settings k = settings' k

/-- Operations below a key leave what is below another one alone, if neither is below
the other. -/
theorem applyAll_agreeBelow {q : SettingsKey} (h : Within p ops) (hpq : ¬ p <+: q)
    (hqp : ¬ q <+: p) (settings : QSettings) :
    AgreeBelow q (applyAll settings ops) settings := by
  intro k hk
  refine applyAll_outside h (fun hp => ?_) settings
  rcases List.prefix_or_prefix_of_prefix hp hk with hle | hle
  · exact hpq hle
  · exact hqp hle

/-! ### Values under one key -/

/-- A `setValue` for each of the names below the key. -/
def setValues (p : SettingsKey) (values : List (String × QVariant)) : List SettingsOp :=
  values.map fun e => .setValue (p ++ [.name e.1]) e.2

theorem setValues_within (p : SettingsKey) (values : List (String × QVariant)) :
    Within p (setValues p values) := by
  intro op hop
  obtain ⟨e, -, rfl⟩ := List.mem_map.mp hop
  exact List.prefix_append ..

/-- A value read back, when every name is set once. -/
theorem applyAll_setValues {values : List (String × QVariant)} {name : String}
    {value : QVariant} (hnodup : (values.map Prod.fst).Nodup) (h : (name, value) ∈ values)
    (settings : QSettings) :
    applyAll settings (setValues p values) (p ++ [.name name]) = some value := by
  induction values generalizing settings with
  | nil => exact absurd h (by simp)
  | cons e values ih =>
      obtain ⟨hfirst, hrest⟩ := List.nodup_cons.mp hnodup
      rw [setValues, List.map_cons, applyAll_cons]
      rcases List.mem_cons.mp h with rfl | h
      · rw [applyAll_of_forall]
        · exact if_pos rfl
        · intro op hop hkey
          obtain ⟨e, he, rfl⟩ := List.mem_map.mp hop
          have heq := hkey.eq_of_length (by simp [SettingsOp.key])
          simp only [SettingsOp.key, List.append_cancel_left_eq, List.cons.injEq,
            KeyPart.name.injEq, and_true] at heq
          exact hfirst (List.mem_map.mpr ⟨e, he, heq⟩)
      · exact ih hrest h _

/-- What is below a name that is not set is left alone. -/
theorem applyAll_setValues_other {values : List (String × QVariant)} {name : String}
    (h : name ∉ values.map Prod.fst) (settings : QSettings) (k : SettingsKey) :
    applyAll settings (setValues p values) (p ++ .name name :: k) =
      settings (p ++ .name name :: k) := by
  refine applyAll_of_forall (fun op hop hkey => ?_) settings
  obtain ⟨e, he, rfl⟩ := List.mem_map.mp hop
  have hname : KeyPart.name e.1 = KeyPart.name name :=
    (List.cons_prefix_cons.mp ((List.prefix_append_right_inj p).mp hkey)).1
  exact h (List.mem_map.mpr ⟨e, he, KeyPart.name.inj hname⟩)

/-! ### Arrays -/

/-- The key of an array's size. -/
def sizeKey (key : SettingsKey) : SettingsKey := key ++ [.name "size"]

/-- The key of the entry that `setArrayIndex(i)` selects. -/
def entryKey (key : SettingsKey) (i : Nat) : SettingsKey := key ++ [.index (i + 1)]

/-- The loop over the entries, from the `i`-th on. -/
def writeEntries (write : SettingsKey → α → List SettingsOp) (key : SettingsKey) :
    Nat → List α → List SettingsOp
  | _, [] => []
  | i, x :: xs => write (entryKey key i) x ++ writeEntries write key (i + 1) xs

/-- `beginWriteArray(key)`, the loop over the entries, and `endArray()`. -/
def writeArray (write : SettingsKey → α → List SettingsOp) (key : SettingsKey) (xs : List α) :
    List SettingsOp :=
  .remove (sizeKey key) ::
    (writeEntries write key 0 xs ++ [.setValue (sizeKey key) (.number xs.length)])

/-- `beginReadArray(key)`. -/
def arraySize (settings : QSettings) (key : SettingsKey) : Int :=
  QVariant.toInt (settings (sizeKey key))

/-- `beginReadArray(key)` and the loop over the entries. -/
def readArray (read : QSettings → SettingsKey → β) (settings : QSettings) (key : SettingsKey) :
    List β :=
  (List.range (arraySize settings key).toNat).map fun i => read settings (entryKey key i)

theorem prefix_entryKey (key : SettingsKey) (i : Nat) : key <+: entryKey key i :=
  List.prefix_append ..

theorem prefix_sizeKey (key : SettingsKey) : key <+: sizeKey key := List.prefix_append ..

/-- An array is read from what is below its key. -/
theorem readArray_congr {read : QSettings → SettingsKey → β}
    (hread : ∀ p settings settings', AgreeBelow p settings settings' →
      read settings p = read settings' p) {key : SettingsKey}
    (h : AgreeBelow key settings settings') :
    readArray read settings key = readArray read settings' key := by
  rw [readArray, readArray, arraySize, arraySize, h _ (prefix_sizeKey key)]
  refine List.map_congr_left fun i _ => hread _ _ _ fun k hk => ?_
  exact h k ((prefix_entryKey key i).trans hk)

/-- No entry is below another one. -/
theorem not_prefix_entryKey (key : SettingsKey) {i j : Nat} (h : i ≠ j) :
    ¬ entryKey key i <+: entryKey key j := by
  intro hp
  have := hp.eq_of_length (by simp [entryKey])
  simp only [entryKey, List.append_cancel_left_eq, List.cons.injEq, KeyPart.index.injEq,
    Nat.add_right_cancel_iff, and_true] at this
  exact h this

/-- The size is below no entry. -/
theorem entryKey_not_prefix_sizeKey (key : SettingsKey) (i : Nat) :
    ¬ entryKey key i <+: sizeKey key := by
  intro hp
  have := hp.eq_of_length (by simp [entryKey, sizeKey])
  simp [entryKey, sizeKey] at this

/-- No entry is below the size. -/
theorem sizeKey_not_prefix_entryKey (key : SettingsKey) (i : Nat) :
    ¬ sizeKey key <+: entryKey key i := by
  intro hp
  have := hp.eq_of_length (by simp [entryKey, sizeKey])
  simp [entryKey, sizeKey] at this

theorem arraySize_writeArray (write : SettingsKey → α → List SettingsOp) (key : SettingsKey)
    (xs : List α) (settings : QSettings) :
    arraySize (applyAll settings (writeArray write key xs)) key = xs.length := by
  have hlast : applyAll settings (writeArray write key xs) (sizeKey key) =
      some (.number xs.length) := by
    rw [writeArray, applyAll_cons, applyAll_append]
    exact if_pos rfl
  rw [arraySize, hlast]
  rfl

/-- What becomes of the size leaves the entries alone. -/
theorem apply_sizeKey_agreeBelow {op : SettingsOp} {key : SettingsKey} (h : op.key = sizeKey key)
    (i : Nat) (settings : QSettings) :
    AgreeBelow (entryKey key i) (op.apply settings) settings := by
  intro k hk
  refine SettingsOp.apply_outside (fun hkey => ?_) settings
  rcases List.prefix_or_prefix_of_prefix (h ▸ hkey) hk with hle | hle
  · exact sizeKey_not_prefix_entryKey key i hle
  · exact entryKey_not_prefix_sizeKey key i hle

theorem writeEntries_congr {write : SettingsKey → α → List SettingsOp} {value : α → β}
    (h : ∀ p x y, value x = value y → write p x = write p y) {key : SettingsKey} {i : Nat}
    {xs ys : List α} (hxs : xs.map value = ys.map value) :
    writeEntries write key i xs = writeEntries write key i ys := by
  induction xs generalizing ys i with
  | nil => rw [List.map_eq_nil_iff.mp hxs.symm]
  | cons x xs ih =>
      cases ys with
      | nil => exact absurd hxs (by simp)
      | cons y ys =>
          obtain ⟨hx, hrest⟩ := List.cons.inj hxs
          rw [writeEntries, writeEntries, h _ x y hx, ih hrest]

theorem writeArray_congr {write : SettingsKey → α → List SettingsOp} {value : α → β}
    (h : ∀ p x y, value x = value y → write p x = write p y) {key : SettingsKey}
    {xs ys : List α} (hxs : xs.map value = ys.map value) :
    writeArray write key xs = writeArray write key ys := by
  have hlength : xs.length = ys.length := by
    have := congrArg List.length hxs
    rwa [List.length_map, List.length_map] at this
  rw [writeArray, writeArray, writeEntries_congr h hxs, hlength]

section Writing

variable {write : SettingsKey → α → List SettingsOp} (hwrite : ∀ p x, Within p (write p x))

include hwrite

/-- The loop touches the entries from `i` on, and nothing else. -/
theorem writeEntries_op {key : SettingsKey} {i : Nat} {xs : List α} {op : SettingsOp}
    (h : op ∈ writeEntries write key i xs) : ∃ j, i ≤ j ∧ entryKey key j <+: op.key := by
  induction xs generalizing i with
  | nil => exact absurd h (by simp [writeEntries])
  | cons x xs ih =>
      rcases List.mem_append.mp h with h | h
      · exact ⟨i, Nat.le_refl i, hwrite _ _ op h⟩
      · obtain ⟨j, hj, hkey⟩ := ih h
        exact ⟨j, by omega, hkey⟩

theorem writeEntries_sizeKey {key : SettingsKey} {i : Nat} {xs : List α}
    (h : ∀ op ∈ ops, op ∈ writeEntries write key i xs) (settings : QSettings) :
    applyAll settings ops (sizeKey key) = settings (sizeKey key) := by
  refine applyAll_of_forall (fun op hop hkey => ?_) settings
  obtain ⟨j, -, hj⟩ := writeEntries_op hwrite (h op hop)
  exact entryKey_not_prefix_sizeKey key j (hj.trans hkey)

/-- The loop from `i` on leaves the earlier entries alone. -/
theorem writeEntries_agreeBelow {key : SettingsKey} {i j : Nat} {xs : List α} (hij : i < j)
    (settings : QSettings) :
    AgreeBelow (entryKey key i) (applyAll settings (writeEntries write key j xs)) settings := by
  intro k hk
  refine applyAll_of_forall (fun op hop hkey => ?_) settings
  obtain ⟨n, hn, hop⟩ := writeEntries_op hwrite hop
  have hne : n ≠ i := by omega
  rcases List.prefix_or_prefix_of_prefix (hop.trans hkey) hk with hle | hle
  · exact not_prefix_entryKey key hne hle
  · exact not_prefix_entryKey key hne.symm hle

theorem writeArray_within (key : SettingsKey) (xs : List α) :
    Within key (writeArray write key xs) := by
  intro op hop
  rcases List.mem_cons.mp hop with rfl | hop
  · exact prefix_sizeKey key
  rcases List.mem_append.mp hop with hop | hop
  · obtain ⟨j, -, hkey⟩ := writeEntries_op hwrite hop
    exact (prefix_entryKey key j).trans hkey
  · rw [List.mem_singleton.mp hop]
    exact prefix_sizeKey key

/-- **An unfinished array.** From the first operation to the last but one, an array that is
written has no size. -/
theorem writeArray_unfinished {key : SettingsKey} {xs : List α} {n : Nat} (hn : 0 < n)
    (hlast : n < (writeArray write key xs).length) (settings : QSettings) :
    applyAll settings ((writeArray write key xs).take n) (sizeKey key) = none := by
  obtain ⟨n, rfl⟩ := Nat.exists_eq_add_of_lt hn
  simp only [writeArray, List.length_cons, List.length_append, List.length_nil] at hlast
  rw [writeArray, Nat.zero_add, List.take_succ_cons, List.take_append_of_le_length (by omega),
    applyAll_cons, writeEntries_sizeKey hwrite fun op hop => List.mem_of_mem_take hop]
  exact if_pos (List.prefix_refl _)

end Writing

section Reading

variable {write : SettingsKey → α → List SettingsOp} {read : QSettings → SettingsKey → β}
  {value : α → β} (hwrite : ∀ p x, Within p (write p x))
  (hread : ∀ p settings settings', AgreeBelow p settings settings' →
    read settings p = read settings' p)

include hwrite hread

/-- An entry read back after the loop: writing it is all that counts, since the loop comes
to its keys once. -/
theorem read_writeEntries {key : SettingsKey} {i j : Nat} {xs : List α} {x : α}
    (hx : xs[j]? = some x) (settings : QSettings)
    (hentry : ∀ settings', AgreeBelow (entryKey key (i + j)) settings' settings →
      read (applyAll settings' (write (entryKey key (i + j)) x)) (entryKey key (i + j)) =
        value x) :
    read (applyAll settings (writeEntries write key i xs)) (entryKey key (i + j)) = value x := by
  induction xs generalizing i j settings with
  | nil => exact absurd hx (by simp)
  | cons y xs ih =>
      rw [writeEntries, applyAll_append]
      cases j with
      | zero =>
          obtain rfl := Option.some.inj hx
          rw [Nat.add_zero i] at hentry ⊢
          rw [hread _ _ _ (writeEntries_agreeBelow hwrite (Nat.lt_succ_self i) _)]
          exact hentry settings fun k _ => rfl
      | succ j =>
          have hij : i + (j + 1) = i + 1 + j := by omega
          rw [hij] at hentry ⊢
          refine ih hx _ fun settings' hagree => hentry settings' fun k hk => ?_
          have hne : i ≠ i + 1 + j := by omega
          rw [hagree k hk]
          exact applyAll_agreeBelow (hwrite _ _) (not_prefix_entryKey key hne)
            (not_prefix_entryKey key hne.symm) settings k hk

/-- **An array read back.** What is read from an array after it has been written is what
was written, if an entry alone is read back so. -/
theorem readArray_writeArray {key : SettingsKey} {xs : List α} {settings : QSettings}
    (hentry : ∀ i settings' x, AgreeBelow (entryKey key i) settings' settings →
      read (applyAll settings' (write (entryKey key i) x)) (entryKey key i) = value x) :
    readArray read (applyAll settings (writeArray write key xs)) key = xs.map value := by
  rw [readArray, arraySize_writeArray, Int.toNat_natCast]
  refine List.ext_getElem (by simp) fun j hj hj' => ?_
  rw [List.length_map] at hj'
  rw [List.getElem_map, List.getElem_range, List.getElem_map, writeArray, applyAll_cons,
    applyAll_append, applyAll_cons _ (.setValue _ _), applyAll_nil,
    hread _ _ _ (@apply_sizeKey_agreeBelow (.setValue (sizeKey key) _) key rfl j _)]
  have hloop : read (applyAll (SettingsOp.apply settings (.remove (sizeKey key)))
      (writeEntries write key 0 xs)) (entryKey key (0 + j)) = value xs[j] := by
    refine read_writeEntries hwrite hread (List.getElem?_eq_getElem hj') _
      fun settings' hagree => hentry _ _ _ fun k hk => ?_
    rw [hagree k hk]
    exact apply_sizeKey_agreeBelow rfl _ settings k hk
  rwa [Nat.zero_add] at hloop

end Reading

end QSettings

end GilStreaming
