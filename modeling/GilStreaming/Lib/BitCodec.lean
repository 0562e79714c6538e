import Mathlib.Data.List.Basic
import Mathlib.Data.Nat.Bitwise

/-!
# GilStreaming.Lib.BitCodec

Formats that are written and read bit by bit.

A tape is a state with a next bit, which can be read or put. A reader is a program over such
states, and a writer is one that may fail. `Emits` says which bits a writer puts, and `Reads` what
a reader makes of bits that lie ahead of it, so both compose along `++`. `Codes` is the pair: what
the writer puts, the reader takes for this value. Its rules follow the shape of programs, and the
bits themselves appear in the leaves of a format only.
-/

namespace GilStreaming

universe u

/-! ### Numbers as bits -/

/-- The last `n` binary digits of `v`, the highest first. -/
def bitsOf : Nat → Nat → List Bool
  | 0, _ => []
  | n + 1, v => v.testBit n :: bitsOf n v

/-- The number with these digits. -/
def valueOf : List Bool → Nat
  | [] => 0
  | bit :: bits => bit.toNat <<< bits.length ||| valueOf bits

@[simp] theorem length_bitsOf (n v : Nat) : (bitsOf n v).length = n := by
  induction n with
  | zero => rfl
  | succ n ih => rw [bitsOf, List.length_cons, ih]

theorem bitsOf_add (m n v : Nat) : bitsOf (m + n) v = bitsOf m (v >>> n) ++ bitsOf n v := by
  induction m with
  | zero => rw [Nat.zero_add]; rfl
  | succ m ih =>
      rw [Nat.succ_add, bitsOf, ih, bitsOf, Nat.testBit_shiftRight, Nat.add_comm n m]
      rfl

theorem bitsOf_zero (n : Nat) : bitsOf n 0 = List.replicate n false := by
  induction n with
  | zero => rfl
  | succ n ih => rw [bitsOf, ih, Nat.zero_testBit, List.replicate_succ]

theorem getD_bitsOf {n v k : Nat} (h : k < n) :
    (bitsOf n v).getD k false = v.testBit (n - 1 - k) := by
  induction n generalizing k with
  | zero => exact absurd h (Nat.not_lt_zero k)
  | succ n ih =>
      cases k with
      | zero => rfl
      | succ k =>
          rw [bitsOf, List.getD_cons_succ, ih (Nat.lt_of_succ_lt_succ h)]
          congr 1
          omega

theorem testBit_valueOf_bitsOf (n v i : Nat) :
    (valueOf (bitsOf n v)).testBit i = (decide (i < n) && v.testBit i) := by
  induction n with
  | zero => simp [bitsOf, valueOf]
  | succ n ih =>
      rw [bitsOf, valueOf, Nat.testBit_or, ih, length_bitsOf, Nat.testBit_shiftLeft]
      obtain hlt | rfl | hgt := lt_trichotomy i n
      · simp [hlt, not_le.mpr hlt, Nat.lt_succ_of_lt hlt]
      · cases v.testBit i <;> simp
      · -- The digit is above all of these.
        have hdigit : (v.testBit n).toNat.testBit (i - n) = false :=
          Nat.testBit_lt_two_pow ((Bool.toNat_lt _).trans_le
            (Nat.pow_le_pow_right Nat.zero_lt_two (by omega : 1 ≤ i - n)))
        simp [hdigit, not_lt.mpr hgt.le, not_lt.mpr (Nat.succ_le_of_lt hgt)]

theorem valueOf_bitsOf (n v : Nat) : valueOf (bitsOf n v) = v % 2 ^ n := by
  refine Nat.eq_of_testBit_eq fun i => ?_
  rw [testBit_valueOf_bitsOf, Nat.testBit_mod_two_pow]

/-! ### Tapes -/

/-- A state with a place from where bits are read, or put. -/
structure BitTape (σ : Type u) where
  /-- A bit is left. -/
  ready : σ → Prop
  next : σ → Bool × σ
  put : σ → Bool → σ

namespace BitTape

variable {σ α β : Type u} (T : BitTape σ)

/-- The bits are ahead of a state, and another one is behind them. -/
def Ahead : σ → List Bool → σ → Prop
  | s, [], s' => s' = s
  | s, bit :: bits, s' => T.ready s ∧ (T.next s).1 = bit ∧ Ahead (T.next s).2 bits s'

theorem ahead_append {s s' : σ} {bits bits' : List Bool} :
    T.Ahead s (bits ++ bits') s' ↔ ∃ s₁, T.Ahead s bits s₁ ∧ T.Ahead s₁ bits' s' := by
  induction bits generalizing s with
  | nil => simp [Ahead]
  | cons bit bits ih => simp only [List.cons_append, Ahead, ih]; tauto

/-- What the reader makes of the bits. -/
def Reads (r : StateM σ α) (bits : List Bool) (a : α) : Prop :=
  ∀ s s', T.Ahead s bits s' → r.run s = (a, s')

/-- The writer puts the bits. -/
def Emits (w : StateT σ Option PUnit) (bits : List Bool) : Prop :=
  ∀ s, w.run s = some (⟨⟩, bits.foldl T.put s)

/-- What the writer puts, the reader takes for `a`. -/
def Codes (r : StateM σ α) (w : StateT σ Option PUnit) (a : α) : Prop :=
  ∃ bits, T.Emits w bits ∧ T.Reads r bits a

variable {T} {r : StateM σ α} {w w' : StateT σ Option PUnit} {bits bits' : List Bool} {a : α}
  {b : β}

theorem Reads.pure (a : α) : T.Reads (pure a) [] a := by
  intro s s' h
  rw [Ahead] at h
  rw [h]
  rfl

theorem Reads.bind {f : α → StateM σ β} (h : T.Reads r bits a) (h' : T.Reads (f a) bits' b) :
    T.Reads (r >>= f) (bits ++ bits') b := by
  intro s s' hahead
  obtain ⟨s₁, hbits, hbits'⟩ := (ahead_append T).mp hahead
  rw [StateT.run_bind, h s s₁ hbits]
  exact h' s₁ s' hbits'

theorem Reads.map (f : α → β) (h : T.Reads r bits a) : T.Reads (f <$> r) bits (f a) := by
  intro s s' hahead
  rw [StateT.run_map, h s s' hahead]
  rfl

theorem Emits.pure : T.Emits (pure ⟨⟩) [] := fun _ => rfl

theorem Emits.bind (h : T.Emits w bits) (h' : T.Emits w' bits') :
    T.Emits (w >>= fun _ => w') (bits ++ bits') := by
  intro s
  rw [StateT.run_bind, h s, List.foldl_append]
  exact h' _

theorem Codes.pure (a : α) : T.Codes (pure a) (pure ⟨⟩) a := ⟨[], Emits.pure, Reads.pure a⟩

theorem Codes.bind {f : α → StateM σ β} (h : T.Codes r w a) (h' : T.Codes (f a) w' b) :
    T.Codes (r >>= f) (w >>= fun _ => w') b := by
  obtain ⟨bits, hw, hr⟩ := h
  obtain ⟨bits', hw', hr'⟩ := h'
  exact ⟨bits ++ bits', hw.bind hw', hr.bind hr'⟩

/-- The last part of a format, where `f` makes the value of what is read. -/
theorem Codes.map {f : α → β} (h : T.Codes r w a) : T.Codes (f <$> r) w (f a) := by
  obtain ⟨bits, hw, hr⟩ := h
  exact ⟨bits, hw, hr.map f⟩

/-- The last part, where a value is made of all parts. -/
theorem Codes.bindPure (f : α → β) (h : T.Codes r w a) :
    T.Codes (r >>= fun a => Pure.pure (f a)) w (f a) := h.map (f := f)

/-! ### Parts that may be absent, and parts that are repeated -/

/-- A part that is there if `c` holds, with a value for its absence. -/
def readIf (c : Prop) [Decidable c] (absent : α) (r : StateM σ α) : StateM σ α :=
  if c then r else Pure.pure absent

def writeIf (c : Prop) [Decidable c] (w : StateT σ Option PUnit) : StateT σ Option PUnit :=
  if c then w else Pure.pure ⟨⟩

theorem Codes.ofIf {c : Prop} [Decidable c] {absent : α} (hpresent : c → T.Codes r w a)
    (habsent : ¬ c → a = absent) : T.Codes (readIf c absent r) (writeIf c w) a := by
  by_cases hc : c
  · rw [readIf, writeIf, if_pos hc, if_pos hc]
    exact hpresent hc
  · rw [readIf, writeIf, if_neg hc, if_neg hc, habsent hc]
    exact Codes.pure absent

variable {ι : Type}

/-- A part for each of these. -/
def readEach (r : ι → StateM σ α) : List ι → StateM σ (List α)
  | [] => Pure.pure []
  | i :: is => r i >>= fun a => (a :: ·) <$> readEach r is

def writeEach (w : ι → StateT σ Option PUnit) : List ι → StateT σ Option PUnit
  | [] => Pure.pure ⟨⟩
  | i :: is => do w i; writeEach w is

theorem Codes.each {r : ι → StateM σ α} {w : ι → StateT σ Option PUnit} {f : ι → α} {is : List ι}
    (h : ∀ i ∈ is, T.Codes (r i) (w i) (f i)) :
    T.Codes (readEach r is) (writeEach w is) (is.map f) := by
  induction is with
  | nil => exact Codes.pure []
  | cons i is ih =>
      exact (h i List.mem_cons_self).bind (ih fun j hj => h j (List.mem_cons_of_mem i hj)).map

end BitTape

end GilStreaming
