import GilStreaming.Lib.BitCodec
import Mathlib.Data.List.GetD

/-!
# GilStreaming.Streaming.BitStream

The bits of a NAL unit: `bs_t` of `h264bitstream/bs.h`.

The pointers are indices into the buffer. A `uint32_t` is a natural number. Reading has a result
everywhere, zero behind the end. `bs_write_u` shifts a `uint32_t`, and a shift by 32 or more has no
result: `bs_write_ue` asks for one as soon as its code has more than 32 bits, which is from 65535
on.
-/

namespace GilStreaming.Streaming

open BitTape

/-- `bs_t`. -/
structure Bs where
  buf : List UInt8
  p : Nat
  bitsLeft : Nat
  deriving DecidableEq, Repr

namespace Bs

/-- `bs_init`. -/
def init (buf : List UInt8) : Bs := ⟨buf, 0, 8⟩

variable (b : Bs)

def byteAligned : Bool := b.bitsLeft = 8

def eof : Bool := b.buf.length ≤ b.p

def overrun : Bool := b.buf.length < b.p

/-- `bs_pos`. -/
def pos : Nat := if b.overrun then b.buf.length else b.p

/-- One bit on. -/
def moved : Bs :=
  if b.bitsLeft - 1 = 0 then { b with p := b.p + 1, bitsLeft := 8 }
  else { b with bitsLeft := b.bitsLeft - 1 }

/-! ### Reading -/

def readU1 : StateM Bs Nat := fun b =>
  (if b.eof then 0 else (b.buf.getD b.p 0).toNat >>> (b.bitsLeft - 1) &&& 1, b.moved)

def skipU1 : StateM Bs PUnit := modify moved

/-- The loop of `bs_read_u`, with this number of bits to go. -/
def readUFrom : Nat → Nat → StateM Bs Nat
  | 0, r => pure r
  | n + 1, r => do readUFrom n (r ||| (← readU1) <<< n)

def readU (n : Nat) : StateM Bs Nat := readUFrom n 0

def skipU : Nat → StateM Bs PUnit
  | 0 => pure ⟨⟩
  | n + 1 => do skipU1; skipU n

/-- `bs_read_u8`, where an aligned byte is read at once. -/
def readU8 : StateM Bs Nat := do
  let b ← get
  if b.bitsLeft = 8 && !b.eof then
    set { b with p := b.p + 1 }
    return (b.buf.getD b.p 0).toNat
  else readU 8

/-- The zeros before the first one, and no more than this. -/
def leadingZeros : Nat → StateM Bs Nat
  | 0 => pure 0
  | n + 1 => do
      if (← get).eof then return 0
      else if (← readU1) = 0 then return (← leadingZeros n) + 1
      else return 0

def readUe : StateM Bs Nat := do
  let i ← leadingZeros 32
  if 32 ≤ i then return 0
  else return (← readU i) + (1 <<< i - 1)

/-- A `uint32_t` as an `int`. -/
def toInt (n : Nat) : Int := if n < 2147483648 then n else n - 4294967296

def readSe : StateM Bs Int := do
  let r := toInt (← readUe)
  -- The code adds one to an `int32_t`: the overflow of the largest one is left out.
  if r % 2 = 1 then return (r + 1).tdiv 2 else return -r.tdiv 2

/-! ### Writing -/

/-- Bit `k` of a byte becomes that of `v`. -/
def setBit (byte : UInt8) (k v : Nat) : UInt8 :=
  (byte &&& ~~~((1 : UInt8) <<< UInt8.ofNat k)) ||| (UInt8.ofNat (v &&& 1) <<< UInt8.ofNat k)

/-- The buffer after `bs_write_u1`. -/
def put (v : Nat) : Bs :=
  (if b.eof then b
  else { b with buf := b.buf.modify b.p fun byte => setBit byte (b.bitsLeft - 1) v }).moved

abbrev Writer := StateT Bs Option PUnit

def writeU1 (v : Nat) : Writer := fun b => some (⟨⟩, b.put v)

/-- `v >> k`. -/
def shiftRight (v k : Nat) : Option Nat := if k < 32 then some (v >>> k) else none

/-- The loop of `bs_write_u`, with this number of bits to go. -/
def writeUFrom (v : Nat) : Nat → Writer
  | 0 => pure ⟨⟩
  | n + 1 => do
      let bit ← shiftRight v n
      writeU1 (bit &&& 1)
      writeUFrom v n

def writeU (n v : Nat) : Writer := writeUFrom v n

/-- `bs_write_u8`, where an aligned byte is written at once. -/
def writeU8 (v : Nat) : Writer := do
  let b ← get
  if b.bitsLeft = 8 && !b.eof then set { b with buf := b.buf.set b.p (UInt8.ofNat v), p := b.p + 1 }
  else writeU 8 v

/-- The lengths of the numbers below 256. -/
def lenTable : List Nat :=
  [1, 1] ++ .replicate 2 2 ++ .replicate 4 3 ++ .replicate 8 4 ++ .replicate 16 5 ++
    .replicate 32 6 ++ .replicate 64 7 ++ .replicate 128 8

/-- The number of binary digits of a `uint32_t`. -/
def codeLength (v : Nat) : Nat :=
  if 0x01000000 ≤ v then 24 + lenTable.getD (v >>> 24) 0
  else if 0x00010000 ≤ v then 16 + lenTable.getD (v >>> 16) 0
  else if 0x00000100 ≤ v then 8 + lenTable.getD (v >>> 8) 0
  else lenTable.getD v 0

def writeUe (v : Nat) : Writer :=
  if v = 0 then writeU1 1
  else
    let v := (v + 1) % 4294967296
    writeU (2 * codeLength v - 1) v

/-- An `int` as a `uint32_t`. -/
def toUInt (v : Int) : Nat := (v % 4294967296).toNat

def writeSe (v : Int) : Writer :=
  if v ≤ 0 then writeUe (toUInt (-v * 2)) else writeUe (toUInt (v * 2 - 1))

/-! ### Positions -/

/-- The stream at a bit. -/
def atBit (buf : List UInt8) (i : Nat) : Bs := ⟨buf, i / 8, 8 - i % 8⟩

def bitAt (buf : List UInt8) (i : Nat) : Bool := (buf.getD (i / 8) 0).toNat.testBit (7 - i % 8)

variable {buf : List UInt8} {i j : Nat} {bits : List Bool}

@[simp] theorem init_eq (buf : List UInt8) : init buf = atBit buf 0 := rfl

@[simp] theorem moved_atBit : (atBit buf i).moved = atBit buf (i + 1) := by
  unfold moved atBit
  split
  · next h =>
      have hi : i % 8 = 7 := by simp only at h; omega
      simp only [Bs.mk.injEq, true_and]
      omega
  · next h =>
      simp only at h
      simp only [Bs.mk.injEq, true_and]
      omega

@[simp] theorem eof_atBit : (atBit buf i).eof = decide (8 * buf.length ≤ i) := by
  rw [eof, decide_eq_decide]
  show buf.length ≤ i / 8 ↔ _
  omega

theorem bitAt_of_le (h : 8 * buf.length ≤ i) : bitAt buf i = false := by
  rw [bitAt, List.getD_eq_default _ _ (by omega)]
  exact Nat.zero_testBit _

theorem readU1_atBit : readU1 (atBit buf i) = ((bitAt buf i).toNat, atBit buf (i + 1)) := by
  rw [readU1, moved_atBit, eof_atBit, Prod.mk.injEq]
  refine ⟨?_, rfl⟩
  by_cases h : 8 * buf.length ≤ i
  · rw [decide_eq_true h, if_pos rfl, bitAt_of_le h]
    rfl
  · rw [decide_eq_false h, if_neg Bool.false_ne_true, bitAt, Nat.toNat_testBit, Nat.and_one_is_mod,
      Nat.shiftRight_eq_div_pow]
    show _ / 2 ^ (8 - i % 8 - 1) % 2 = _
    rw [Nat.sub_right_comm]
    rfl

/-! ### Setting a bit -/

theorem testBit_setBit {byte : UInt8} {k v : Nat} (hk : k < 8) {j : Nat} (hj : j < 8) :
    (setBit byte k v).toNat.testBit j = if j = k then v.testBit 0 else byte.toNat.testBit j := by
  have hmod : k % 2 ^ 8 = k := Nat.mod_eq_of_lt (by omega)
  have hmod8 : k % 8 = k := Nat.mod_eq_of_lt hk
  -- The complement of the bit, as a difference.
  have hmask : UInt8.size - 1 - UInt8.toNat 1 <<< k % 2 ^ 8 =
      2 ^ 8 - (1 <<< k % 2 ^ 8 + 1) := by
    simp [UInt8.size]
  simp only [setBit, UInt8.toNat_or, UInt8.toNat_and, UInt8.toNat_not, Nat.testBit_or,
    Nat.testBit_and, UInt8.toNat_shiftLeft, UInt8.toNat_ofNat', hmod, hmod8, hmask]
  rw [Nat.testBit_two_pow_sub_succ (Nat.mod_lt _ (by decide)), Nat.testBit_mod_two_pow,
    Nat.testBit_mod_two_pow, Nat.testBit_shiftLeft, Nat.testBit_shiftLeft, Nat.testBit_mod_two_pow,
    Nat.testBit_and]
  obtain hlt | rfl | hgt := lt_trichotomy j k
  · simp [hj, hlt.ne, not_le.mpr hlt]
  · simp [hj]
  · have hone : Nat.testBit 1 (j - k) = false :=
      Nat.testBit_lt_two_pow (Nat.one_lt_two_pow (by omega))
    simp [hj, hgt.ne', hone]

/-- The buffer after a bit is put at `i`. -/
def putAt (buf : List UInt8) (i v : Nat) : List UInt8 :=
  buf.modify (i / 8) fun byte => setBit byte (7 - i % 8) v

@[simp] theorem length_putAt (buf : List UInt8) (i v : Nat) :
    (putAt buf i v).length = buf.length := List.length_modify _ _ _

theorem bitAt_putAt {v : Nat} (h : i < 8 * buf.length) :
    bitAt (putAt buf i v) j = if j = i then v.testBit 0 else bitAt buf j := by
  have hbyte : i / 8 < buf.length := by omega
  rw [bitAt, bitAt, putAt, List.getD_eq_getElem?_getD, List.getD_eq_getElem?_getD]
  by_cases hsame : i / 8 = j / 8
  · rw [← hsame, List.getElem?_modify_eq, List.getElem?_eq_getElem hbyte, Option.map_eq_map,
      Option.map_some, Option.getD_some, Option.getD_some, testBit_setBit (by omega) (by omega)]
    refine if_congr ?_ rfl rfl
    omega
  · rw [List.getElem?_modify_ne _ _ hsame, if_neg fun h => hsame (by rw [h])]

theorem put_atBit {v : Nat} (h : i < 8 * buf.length) :
    (atBit buf i).put v = atBit (putAt buf i v) (i + 1) := by
  rw [put, eof_atBit, decide_eq_false (not_le.mpr h), if_neg Bool.false_ne_true, ← moved_atBit]
  show Bs.moved ⟨buf.modify (i / 8) fun byte => setBit byte (8 - i % 8 - 1) v, _, _⟩ = _
  rw [Nat.sub_right_comm]
  rfl

/-- Nothing is written behind the end. -/
theorem put_atBit_of_le {v : Nat} (h : 8 * buf.length ≤ i) :
    (atBit buf i).put v = atBit buf (i + 1) := by
  rw [put, eof_atBit, decide_eq_true h, if_pos rfl, moved_atBit]

/-! ### The tape -/

/-- Bits are read until the end of the buffer. -/
def tape : BitTape Bs where
  ready b := b.eof = false
  next b := ((readU1 b).1 = 1, (readU1 b).2)
  put b bit := b.put bit.toNat

theorem tape_next (buf : List UInt8) (i : Nat) :
    tape.next (atBit buf i) = (bitAt buf i, atBit buf (i + 1)) := by
  show (decide ((readU1 (atBit buf i)).1 = 1), (readU1 (atBit buf i)).2) = _
  rw [readU1_atBit]
  cases bitAt buf i <;> rfl

theorem ahead_of_bitAt (buf : List UInt8) (i : Nat) (bits : List Bool)
    (hfit : i + bits.length ≤ 8 * buf.length)
    (hbits : ∀ k < bits.length, bitAt buf (i + k) = bits.getD k false) :
    tape.Ahead (atBit buf i) bits (atBit buf (i + bits.length)) := by
  induction bits generalizing i with
  | nil => rfl
  | cons bit bits ih =>
      rw [List.length_cons] at hfit hbits ⊢
      refine ⟨?_, ?_, ?_⟩
      · show (atBit buf i).eof = false
        rw [eof_atBit]
        exact decide_eq_false (by omega)
      · rw [tape_next]
        exact hbits 0 (Nat.succ_pos _)
      · rw [tape_next, Nat.add_comm bits.length, ← Nat.add_assoc]
        refine ih _ (by omega) fun k hk => ?_
        rw [Nat.add_assoc, Nat.add_comm 1 k]
        exact hbits (k + 1) (Nat.succ_lt_succ hk)

/-- Where there is room, the bits are in the buffer after they were put, and the others as
before. -/
theorem foldl_put (bits : List Bool) (buf : List UInt8) (i : Nat)
    (hfit : i + bits.length ≤ 8 * buf.length) :
    ∃ buf' : List UInt8, bits.foldl tape.put (atBit buf i) = atBit buf' (i + bits.length) ∧
      buf'.length = buf.length ∧
      ∀ j, bitAt buf' j =
        if i ≤ j ∧ j < i + bits.length then bits.getD (j - i) false else bitAt buf j := by
  induction bits generalizing buf i with
  | nil => exact ⟨buf, rfl, rfl, fun j => (if_neg (by simp)).symm⟩
  | cons bit bits ih =>
      rw [List.length_cons] at hfit ⊢
      have hput : tape.put (atBit buf i) bit = atBit (putAt buf i bit.toNat) (i + 1) :=
        put_atBit (by omega)
      obtain ⟨buf', hbuf', hlength, hbits⟩ :=
        ih (putAt buf i bit.toNat) (i + 1) (by rw [length_putAt]; omega)
      refine ⟨buf', ?_, hlength.trans (length_putAt _ _ _), fun j => ?_⟩
      · rw [List.foldl_cons, hput, hbuf']
        congr 1
        omega
      · rw [hbits, bitAt_putAt (by omega)]
        obtain hlt | rfl | hgt := lt_trichotomy j i
        · rw [if_neg (by omega), if_neg hlt.ne, if_neg (by omega)]
        · rw [if_neg (by omega), if_pos rfl, if_pos (by omega), Nat.sub_self, Nat.testBit_zero]
          cases bit <;> rfl
        · have hnext : j - i = j - (i + 1) + 1 := by omega
          rw [if_neg hgt.ne', hnext, List.getD_cons_succ]
          refine if_congr ?_ rfl rfl
          omega

/-- A bit is put at the place of the stream, or behind the end. -/
theorem put_moves (buf : List UInt8) (i v : Nat) :
    ∃ buf' : List UInt8, (atBit buf i).put v = atBit buf' (i + 1) ∧ buf'.length = buf.length := by
  by_cases h : i < 8 * buf.length
  · exact ⟨_, put_atBit h, length_putAt _ _ _⟩
  · exact ⟨buf, put_atBit_of_le (not_lt.mp h), rfl⟩

/-- The place of a writer is that of the number of bits. -/
theorem foldl_put_atBit (bits : List Bool) (buf : List UInt8) (i : Nat) :
    ∃ buf' : List UInt8, bits.foldl tape.put (atBit buf i) = atBit buf' (i + bits.length) ∧
      buf'.length = buf.length := by
  induction bits generalizing buf i with
  | nil => exact ⟨buf, rfl, rfl⟩
  | cons bit bits ih =>
      obtain ⟨buf₁, hbuf₁, hlength₁⟩ := put_moves buf i bit.toNat
      have hput : tape.put (atBit buf i) bit = atBit buf₁ (i + 1) := hbuf₁
      obtain ⟨buf', hbuf', hlength⟩ := ih buf₁ (i + 1)
      refine ⟨buf', ?_, hlength.trans hlength₁⟩
      rw [List.foldl_cons, hput, hbuf', List.length_cons]
      congr 1
      omega

theorem bitAt_take {n : Nat} (h : i < 8 * n) : bitAt (buf.take n) i = bitAt buf i := by
  rw [bitAt, bitAt, List.getD_eq_getElem?_getD, List.getD_eq_getElem?_getD,
    List.getElem?_take_of_lt (by omega)]

theorem buf_ext {buf buf' : List UInt8} (hlength : buf.length = buf'.length)
    (h : ∀ i, bitAt buf i = bitAt buf' i) : buf = buf' := by
  refine List.ext_getElem hlength fun p hp hp' => UInt8.toNat_inj.mp ?_
  refine Nat.eq_of_testBit_eq fun j => ?_
  by_cases hj : j < 8
  · have hbit := h (8 * p + (7 - j))
    have hdiv : (8 * p + (7 - j)) / 8 = p := by omega
    have hmod : 7 - (8 * p + (7 - j)) % 8 = j := by omega
    rw [bitAt, bitAt, hdiv, hmod, List.getD_eq_getElem _ _ hp, List.getD_eq_getElem _ _ hp'] at hbit
    exact hbit
  · have hpow : 2 ^ 8 ≤ 2 ^ j := Nat.pow_le_pow_right (by decide) (not_lt.mp hj)
    rw [Nat.testBit_lt_two_pow ((UInt8.toNat_lt _).trans_le hpow),
      Nat.testBit_lt_two_pow ((UInt8.toNat_lt _).trans_le hpow)]

/-- The end of a stream with whole bytes. -/
theorem foldl_put_bytes {bits : List Bool} {n : Nat} (h : bits.length = 8 * n)
    (buf : List UInt8) :
    (bits.foldl tape.put (init buf)).byteAligned = true ∧
      (bits.foldl tape.put (init buf)).p = n ∧
      (bits.foldl tape.put (init buf)).overrun = decide (buf.length < n) := by
  obtain ⟨buf', hbuf', hlength⟩ := foldl_put_atBit bits buf 0
  rw [init_eq, hbuf', Nat.zero_add, h]
  have hn : 8 * n / 8 = n := by omega
  refine ⟨decide_eq_true ?_, hn, ?_⟩
  · show 8 - 8 * n % 8 = 8
    omega
  · show decide (buf'.length < 8 * n / 8) = _
    rw [hlength, hn]

/-- The bytes of some bits. -/
def packed (bits : List Bool) : List UInt8 :=
  (bits.foldl tape.put (init (List.replicate (bits.length / 8) 0))).buf

theorem packed_spec {bits : List Bool} {n : Nat} (h : bits.length = 8 * n) :
    (packed bits).length = n ∧ ∀ j < 8 * n, bitAt (packed bits) j = bits.getD j false := by
  have hn : bits.length / 8 = n := by omega
  obtain ⟨buf', hbuf', hlength, hbits⟩ := foldl_put bits (List.replicate n 0) 0
    (by rw [List.length_replicate]; omega)
  rw [packed, hn, init_eq, hbuf']
  refine ⟨hlength.trans (List.length_replicate ..), fun j hj => ?_⟩
  show bitAt buf' j = _
  rw [hbits, if_pos (by omega), Nat.sub_zero]

/-- Where they fit they are what is in any buffer in which the bits are put. -/
theorem take_foldl_put {bits : List Bool} {n : Nat} (h : bits.length = 8 * n) {buf : List UInt8}
    (hfit : n ≤ buf.length) : (bits.foldl tape.put (init buf)).buf.take n = packed bits := by
  obtain ⟨buf', hbuf', hlength, hbits⟩ := foldl_put bits buf 0 (by omega)
  obtain ⟨hpacked, hpackedBits⟩ := packed_spec h
  rw [init_eq, hbuf']
  show buf'.take n = _
  have htake : (buf'.take n).length = n := by
    rw [List.length_take]
    omega
  refine buf_ext (htake.trans hpacked.symm) fun j => ?_
  by_cases hj : j < 8 * n
  · rw [bitAt_take hj, hbits, if_pos (by omega), hpackedBits j hj, Nat.sub_zero]
  · rw [bitAt_of_le (by omega), bitAt_of_le (by omega)]

/-- The bits are ahead in their bytes, to the end. -/
theorem ahead_packed {bits : List Bool} {n : Nat} (h : bits.length = 8 * n) :
    tape.Ahead (init (packed bits)) bits (atBit (packed bits) (8 * n)) := by
  obtain ⟨hpacked, hpackedBits⟩ := packed_spec h
  have hahead := ahead_of_bitAt (packed bits) 0 bits (by omega)
    fun k hk => by rw [Nat.zero_add, hpackedBits k (by omega)]
  rwa [Nat.zero_add, h] at hahead

/-! ### Bits and numbers -/

theorem put_testBit (b : Bs) (v : Nat) : b.put (v.testBit 0).toNat = b.put v := by
  have hbit : ((v.testBit 0).toNat &&& 1) = v &&& 1 := by
    rw [Nat.testBit_zero, Nat.and_one_is_mod, Nat.and_one_is_mod]
    obtain h | h := Nat.mod_two_eq_zero_or_one v <;> simp [h]
  simp only [put, setBit, hbit]

theorem emits_writeU1 (v : Nat) : tape.Emits (writeU1 v) [v.testBit 0] := by
  intro b
  show some (_, b.put v) = some (_, b.put (v.testBit 0).toNat)
  rw [put_testBit]

theorem reads_readU1 (bit : Bool) : tape.Reads readU1 [bit] bit.toNat := by
  intro b b' h
  obtain ⟨-, hbit, rfl⟩ := h
  have hvalue : (readU1 b).1 = 0 ∨ (readU1 b).1 = 1 := by
    rw [readU1]
    split
    · exact .inl rfl
    · rw [Nat.and_one_is_mod]
      exact Nat.mod_two_eq_zero_or_one _
  refine Prod.ext ?_ rfl
  show (readU1 b).1 = bit.toNat
  rw [← hbit]
  show _ = (decide ((readU1 b).1 = 1)).toNat
  obtain h | h := hvalue <;> rw [h] <;> rfl

theorem reads_readUFrom (bits : List Bool) (r : Nat) :
    tape.Reads (readUFrom bits.length r) bits (r ||| valueOf bits) := by
  induction bits generalizing r with
  | nil =>
      rw [valueOf, Nat.or_zero]
      exact Reads.pure r
  | cons bit bits ih =>
      rw [valueOf, ← Nat.or_assoc]
      exact (reads_readU1 bit).bind (ih (r ||| bit.toNat <<< bits.length))

theorem reads_readU {bits : List Bool} {n : Nat} (h : bits.length = n) :
    tape.Reads (readU n) bits (valueOf bits) := by
  have hreads := reads_readUFrom bits 0
  rwa [Nat.zero_or, h] at hreads

theorem reads_skipU (bits : List Bool) : tape.Reads (skipU bits.length) bits ⟨⟩ := by
  induction bits with
  | nil => exact Reads.pure _
  | cons bit bits ih =>
      have hskip : tape.Reads skipU1 [bit] ⟨⟩ := by
        intro b b' h
        obtain ⟨-, -, rfl⟩ := h
        rfl
      exact hskip.bind ih

theorem emits_writeUFrom (v : Nat) {n : Nat} (h : n ≤ 32) :
    tape.Emits (writeUFrom v n) (bitsOf n v) := by
  induction n with
  | zero => exact Emits.pure
  | succ n ih =>
      have hbit := emits_writeU1 (v >>> n &&& 1)
      have htest : (v >>> n &&& 1).testBit 0 = v.testBit n := by
        rw [Nat.testBit_and, Nat.testBit_shiftRight, Nat.add_zero]
        simp
      rw [htest] at hbit
      have hrest := hbit.bind (ih (by omega))
      intro b
      refine Eq.trans ?_ (hrest b)
      rw [writeUFrom, shiftRight, if_pos (by omega)]
      rfl

/-! ### Bytes -/

theorem getD_bitsOf_byte (buf : List UInt8) (p : Nat) {k : Nat} (hk : k < 8) :
    (bitsOf 8 (buf.getD p 0).toNat).getD k false = bitAt buf (8 * p + k) := by
  have hdiv : (8 * p + k) / 8 = p := by omega
  have hmod : (8 * p + k) % 8 = k := by omega
  rw [getD_bitsOf hk, bitAt, hdiv, hmod]

/-- An aligned stream, by its bits. -/
theorem eq_atBit_of_aligned {b : Bs} (h : b.bitsLeft = 8) : b = atBit b.buf (8 * b.p) := by
  obtain ⟨buf, p, bitsLeft⟩ := b
  have hdiv : 8 * p / 8 = p := by omega
  have hmod : 8 - 8 * p % 8 = 8 := by omega
  rw [atBit, hdiv, hmod]
  exact congrArg (Bs.mk buf p) h

theorem bitAt_of_ahead {b : Bs} (h : tape.Ahead (atBit buf i) bits b) :
    b = atBit buf (i + bits.length) ∧
      ∀ k < bits.length, bitAt buf (i + k) = bits.getD k false := by
  induction bits generalizing i with
  | nil => exact ⟨h, fun k hk => absurd hk (Nat.not_lt_zero k)⟩
  | cons bit bits ih =>
      obtain ⟨-, hbit, hrest⟩ := h
      rw [tape_next] at hbit hrest
      obtain ⟨hb, hbits⟩ := ih hrest
      refine ⟨?_, fun k hk => ?_⟩
      · rw [hb, List.length_cons]
        congr 1
        omega
      · cases k with
        | zero => exact hbit
        | succ k =>
            have hk' := hbits k (Nat.lt_of_succ_lt_succ hk)
            rwa [Nat.add_assoc, Nat.add_comm 1 k] at hk'

theorem readU8_fast {b : Bs} (h : (b.bitsLeft = 8 && !b.eof) = true) :
    readU8.run b = ((b.buf.getD b.p 0).toNat, { b with p := b.p + 1 }) := by
  show (if (b.bitsLeft = 8 && !b.eof) = true then _ else _ : StateM Bs Nat) b = _
  rw [if_pos h]
  rfl

theorem readU8_slow {b : Bs} (h : ¬ (b.bitsLeft = 8 && !b.eof) = true) :
    readU8.run b = (readU 8).run b := by
  show (if (b.bitsLeft = 8 && !b.eof) = true then _ else _ : StateM Bs Nat) b = _
  rw [if_neg h]
  rfl

theorem reads_readU8 {bits : List Bool} (h : bits.length = 8) :
    tape.Reads readU8 bits (valueOf bits) := by
  intro b b' hahead
  by_cases hfast : (b.bitsLeft = 8 && !b.eof) = true
  · have haligned : b.bitsLeft = 8 := of_decide_eq_true (Bool.and_eq_true_iff.mp hfast).1
    rw [eq_atBit_of_aligned haligned] at hahead
    obtain ⟨rfl, hbits⟩ := bitAt_of_ahead hahead
    have hbyte : bits = bitsOf 8 (b.buf.getD b.p 0).toNat := by
      refine List.ext_getElem (by rw [h, length_bitsOf]) fun k hk hk' => ?_
      rw [← List.getD_eq_getElem _ false hk, ← List.getD_eq_getElem _ false hk',
        getD_bitsOf_byte _ _ (h ▸ hk), hbits k hk]
    rw [readU8_fast hfast, hbyte, valueOf_bitsOf, length_bitsOf,
      Nat.mod_eq_of_lt (UInt8.toNat_lt _)]
    exact Prod.ext rfl (eq_atBit_of_aligned (b := { b with p := b.p + 1 }) haligned)
  · rw [readU8_slow hfast]
    exact reads_readU h b b' hahead

theorem writeU8_fast {b : Bs} {v : Nat} (h : (b.bitsLeft = 8 && !b.eof) = true) :
    (writeU8 v).run b =
      some (⟨⟩, { b with buf := b.buf.set b.p (UInt8.ofNat v), p := b.p + 1 }) := by
  show (if (b.bitsLeft = 8 && !b.eof) = true then _ else _ : Writer) b = _
  rw [if_pos h]
  rfl

theorem writeU8_slow {b : Bs} {v : Nat} (h : ¬ (b.bitsLeft = 8 && !b.eof) = true) :
    (writeU8 v).run b = (writeU 8 v).run b := by
  show (if (b.bitsLeft = 8 && !b.eof) = true then _ else _ : Writer) b = _
  rw [if_neg h]
  rfl

theorem emits_writeU8 (v : Nat) : tape.Emits (writeU8 v) (bitsOf 8 v) := by
  intro b
  by_cases hfast : (b.bitsLeft = 8 && !b.eof) = true
  · obtain ⟨haligned, heof⟩ := Bool.and_eq_true_iff.mp hfast
    have hbound : b.p < b.buf.length := by
      have heof' : b.eof = false := by simpa using heof
      exact not_le.mp (of_decide_eq_false heof')
    obtain ⟨buf', hput, hlength, hbits⟩ := foldl_put (bitsOf 8 v) b.buf (8 * b.p)
      (by rw [length_bitsOf]; omega)
    rw [length_bitsOf] at hput hbits
    -- Bit by bit the byte becomes that of `v`.
    have hbuf : b.buf.set b.p (UInt8.ofNat v) = buf' := by
      refine buf_ext (by rw [List.length_set, hlength]) fun j => ?_
      rw [hbits, bitAt, List.getD_eq_getElem?_getD]
      by_cases hj : 8 * b.p ≤ j ∧ j < 8 * b.p + 8
      · have hdiv : j / 8 = b.p := by omega
        have hdigit : 8 - 1 - (j - 8 * b.p) = 7 - j % 8 := by omega
        rw [if_pos hj, hdiv, List.getElem?_set_self hbound, Option.getD_some, UInt8.toNat_ofNat',
          Nat.testBit_mod_two_pow, getD_bitsOf (by omega), hdigit, decide_eq_true (by omega),
          Bool.true_and]
      · rw [if_neg hj, List.getElem?_set_ne (by omega), bitAt, List.getD_eq_getElem?_getD]
    have hfold := (congrArg (List.foldl tape.put · (bitsOf 8 v))
      (eq_atBit_of_aligned (of_decide_eq_true haligned))).trans hput
    rw [writeU8_fast hfast, hfold, ← hbuf]
    exact congrArg (fun s => some (PUnit.unit, s))
      (eq_atBit_of_aligned (b := ⟨b.buf.set b.p (UInt8.ofNat v), b.p + 1, b.bitsLeft⟩)
        (of_decide_eq_true haligned))
  · rw [writeU8_slow hfast]
    exact emits_writeUFrom v (by decide) b

/-! ### Exponential Golomb codes -/

theorem lenTable_spec {v : Nat} (hpos : 0 < v) (hlt : v < 256) :
    0 < lenTable.getD v 0 ∧ lenTable.getD v 0 ≤ 8 ∧ 2 ^ (lenTable.getD v 0 - 1) ≤ v ∧
      v < 2 ^ lenTable.getD v 0 := by
  have hall : (List.range 256).all (fun v => decide (v = 0) || (decide (0 < lenTable.getD v 0) &&
      decide (lenTable.getD v 0 ≤ 8) && Nat.ble (2 ^ (lenTable.getD v 0 - 1)) v &&
      Nat.blt v (2 ^ lenTable.getD v 0))) = true := by decide +kernel
  have hv := List.all_eq_true.mp hall v (List.mem_range.mpr hlt)
  simpa [hpos.ne', and_assoc] using hv

/-- The digits of a number are those of its upper part and the ones dropped. -/
theorem digits_shiftRight {v k n : Nat} (hn : 0 < n) (hle : 2 ^ (n - 1) ≤ v >>> k)
    (hlt : v >>> k < 2 ^ n) : 2 ^ (k + n - 1) ≤ v ∧ v < 2 ^ (k + n) := by
  rw [Nat.shiftRight_eq_div_pow] at hle hlt
  rw [Nat.add_sub_assoc hn, Nat.pow_add, Nat.pow_add, Nat.mul_comm, Nat.mul_comm (2 ^ k)]
  exact ⟨(Nat.le_div_iff_mul_le (Nat.two_pow_pos k)).mp hle,
    (Nat.div_lt_iff_lt_mul (Nat.two_pow_pos k)).mp hlt⟩

/-- `codeLength` counts the digits. -/
theorem codeLength_spec {v : Nat} (hpos : 0 < v) (hlt : v < 4294967296) :
    0 < codeLength v ∧ codeLength v ≤ 32 ∧ 2 ^ (codeLength v - 1) ≤ v ∧ v < 2 ^ codeLength v := by
  -- One byte is looked up, and the others are counted.
  have hbyte : ∀ k, k ≤ 24 → 0 < v >>> k → v >>> k < 256 →
      0 < k + lenTable.getD (v >>> k) 0 ∧ k + lenTable.getD (v >>> k) 0 ≤ 32 ∧
        2 ^ (k + lenTable.getD (v >>> k) 0 - 1) ≤ v ∧ v < 2 ^ (k + lenTable.getD (v >>> k) 0) := by
    intro k hk hpos hlt
    obtain ⟨hlen, hlen8, hle, hlt⟩ := lenTable_spec hpos hlt
    exact ⟨by omega, by omega, digits_shiftRight hlen hle hlt⟩
  unfold codeLength
  split
  · exact hbyte 24 (by decide) (by rw [Nat.shiftRight_eq_div_pow]; omega)
      (by rw [Nat.shiftRight_eq_div_pow]; omega)
  split
  · exact hbyte 16 (by decide) (by rw [Nat.shiftRight_eq_div_pow]; omega)
      (by rw [Nat.shiftRight_eq_div_pow]; omega)
  split
  · exact hbyte 8 (by decide) (by rw [Nat.shiftRight_eq_div_pow]; omega)
      (by rw [Nat.shiftRight_eq_div_pow]; omega)
  · obtain ⟨hlen, hlen8, hle, hlt⟩ := lenTable_spec hpos (by omega)
    exact ⟨hlen, by omega, hle, hlt⟩

/-- A loop that stops at the end of the buffer reads the first bit. -/
theorem reads_of_ready {α : Type} {r r' : StateM Bs α} {bit : Bool} {a : α}
    (h : ∀ b : Bs, b.eof = false → r.run b = r'.run b) (hr : tape.Reads r' (bit :: bits) a) :
    tape.Reads r (bit :: bits) a :=
  fun b b' hahead => (h b hahead.1).trans (hr b b' hahead)

theorem leadingZeros_succ (n : Nat) {b : Bs} (h : b.eof = false) :
    (leadingZeros (n + 1)).run b =
      (readU1 >>= fun v => if v = 0 then (· + 1) <$> leadingZeros n else pure 0 : StateM Bs Nat).run
        b := by
  show (if b.eof = true then _ else _ : StateM Bs Nat) b = _
  rw [h, if_neg Bool.false_ne_true]
  show (if (readU1 b).1 = 0 then _ else _ : StateM Bs Nat) (readU1 b).2 =
    (if (readU1 b).1 = 0 then _ else _ : StateM Bs Nat) (readU1 b).2
  split <;> rfl

theorem reads_leadingZeros {n k : Nat} (h : k < n) :
    tape.Reads (leadingZeros n) (List.replicate k false ++ [true]) k := by
  induction k generalizing n with
  | zero =>
      obtain ⟨n, rfl⟩ := Nat.exists_eq_succ_of_ne_zero h.ne'
      exact reads_of_ready (fun _ => leadingZeros_succ n)
        ((reads_readU1 true).bind (Reads.pure 0))
  | succ k ih =>
      obtain ⟨n, rfl⟩ := Nat.exists_eq_succ_of_ne_zero (Nat.ne_zero_of_lt h)
      have hrest := Reads.map (· + 1) (ih (Nat.lt_of_succ_lt_succ h))
      exact reads_of_ready (fun _ => leadingZeros_succ n) ((reads_readU1 false).bind hrest)

/-- The code of `v`. -/
def ueBits (v : Nat) : List Bool :=
  List.replicate (codeLength (v + 1) - 1) false ++ bitsOf (codeLength (v + 1)) (v + 1)

theorem reads_readUe {v : Nat} (h : v < 4294967295) : tape.Reads readUe (ueBits v) v := by
  obtain ⟨hpos, hle32, hle, hlt⟩ := codeLength_spec (v := v + 1) (Nat.succ_pos v) (by omega)
  obtain ⟨i, hi⟩ : ∃ i, codeLength (v + 1) = i + 1 := ⟨_, (Nat.sub_add_cancel hpos).symm⟩
  rw [hi, Nat.add_sub_cancel] at hle
  rw [hi] at hlt
  -- The highest digit is the one that ends the zeros.
  have htop : (v + 1).testBit i = true := by
    rw [Nat.testBit_eq_decide_div_mod_eq, decide_eq_true_eq]
    have hdiv : (v + 1) / 2 ^ i = 1 :=
      Nat.div_eq_of_lt_le (by omega) (by rw [Nat.pow_succ] at hlt; omega)
    rw [hdiv]
  have hrest : (v + 1) % 2 ^ i + (1 <<< i - 1) = v := by
    rw [Nat.pow_succ] at hlt
    rw [Nat.one_shiftLeft, Nat.mod_eq_sub_mod hle, Nat.mod_eq_of_lt (by omega)]
    omega
  rw [ueBits, hi, Nat.add_sub_cancel, bitsOf, htop, List.append_cons]
  refine (reads_leadingZeros (by omega)).bind ?_
  rw [if_neg (by omega)]
  have hmap := Reads.map (· + (1 <<< i - 1)) (reads_readU (length_bitsOf i (v + 1)))
  rwa [valueOf_bitsOf, hrest] at hmap

theorem writeUe_of_pos {v : Nat} (hpos : 0 < v) (hlt : v < 4294967295) :
    writeUe v = writeUFrom (v + 1) (2 * codeLength (v + 1) - 1) := by
  rw [writeUe, if_neg hpos.ne', Nat.mod_eq_of_lt (by omega)]
  rfl

theorem emits_writeUe {v : Nat} (h : v < 65535) : tape.Emits (writeUe v) (ueBits v) := by
  obtain rfl | hpos := Nat.eq_zero_or_pos v
  · exact emits_writeU1 1
  · obtain ⟨hpos', -, hle, hlt⟩ := codeLength_spec (v := v + 1) (Nat.succ_pos v) (by omega)
    rw [writeUe_of_pos hpos (by omega)]
    have hlength : 2 * codeLength (v + 1) - 1 =
        (codeLength (v + 1) - 1) + codeLength (v + 1) := by omega
    have h16 : codeLength (v + 1) ≤ 16 := by
      by_contra hgt
      have := Nat.pow_le_pow_right Nat.zero_lt_two (by omega : 16 ≤ codeLength (v + 1) - 1)
      omega
    have hemits := emits_writeUFrom (v + 1) (by omega : 2 * codeLength (v + 1) - 1 ≤ 32)
    rwa [hlength, bitsOf_add, Nat.shiftRight_eq_div_pow, Nat.div_eq_of_lt hlt, bitsOf_zero,
      ← hlength] at hemits

/-- The loop of `bs_write_u` has no result for more than 32 bits. -/
theorem writeUFrom_undefined (v : Nat) {n : Nat} (h : 32 < n) (b : Bs) :
    (writeUFrom v n).run b = none := by
  obtain ⟨n, rfl⟩ := Nat.exists_eq_succ_of_ne_zero (Nat.ne_zero_of_lt h)
  rw [writeUFrom, shiftRight, if_neg (by omega)]
  rfl

/-- From here on the code is written with shifts that a `uint32_t` does not have. -/
theorem writeUe_undefined {v : Nat} (hle : 65535 ≤ v) (hlt : v < 4294967295) (b : Bs) :
    (writeUe v).run b = none := by
  obtain ⟨-, -, -, hlt'⟩ := codeLength_spec (v := v + 1) (Nat.succ_pos v) (by omega)
  rw [writeUe_of_pos (by omega) hlt]
  refine writeUFrom_undefined _ ?_ b
  by_contra hle'
  have := Nat.pow_le_pow_right Nat.zero_lt_two (by omega : codeLength (v + 1) ≤ 16)
  omega

/-! ### Trailing bits -/

/-- The loops of `read_rbsp_trailing_bits` and `write_rbsp_trailing_bits`, which end within eight
bits. -/
def skipToByte : Nat → StateM Bs PUnit
  | 0 => pure ⟨⟩
  | n + 1 => do
      if (← get).byteAligned then return ⟨⟩
      skipU 1
      skipToByte n

def writeToByte : Nat → Writer
  | 0 => pure ⟨⟩
  | n + 1 => do
      if (← get).byteAligned then return ⟨⟩
      writeU 1 0
      writeToByte n

def readRbspTrailingBits : StateM Bs PUnit := do
  skipU 1
  skipToByte 8

def writeRbspTrailingBits : Writer := do
  writeU 1 1
  writeToByte 8

/-- The bits to the next byte. -/
def padding (i : Nat) : Nat := (8 - i % 8) % 8

@[simp] theorem byteAligned_atBit : (atBit buf i).byteAligned = decide (padding i = 0) := by
  rw [byteAligned, decide_eq_decide]
  show 8 - i % 8 = 8 ↔ _
  unfold padding
  omega

theorem skipToByte_atBit {n : Nat} (h : padding i ≤ n) :
    (skipToByte n).run (atBit buf i) = (⟨⟩, atBit buf (i + padding i)) := by
  induction n generalizing i with
  | zero =>
      rw [Nat.le_zero.mp h]
      rfl
  | succ n ih =>
      show (if (atBit buf i).byteAligned = true then _ else _ : StateM Bs PUnit) (atBit buf i) = _
      rw [byteAligned_atBit]
      by_cases haligned : padding i = 0
      · rw [decide_eq_true haligned, if_pos rfl, haligned]
        rfl
      · have hpadding : padding i = padding (i + 1) + 1 := by
          unfold padding at *
          omega
        rw [decide_eq_false haligned, if_neg Bool.false_ne_true]
        show (skipToByte n).run (atBit buf i).moved = _
        rw [moved_atBit, ih (by omega), hpadding, Nat.add_right_comm]
        rfl

theorem writeToByte_atBit {n : Nat} (h : padding i ≤ n) :
    (writeToByte n).run (atBit buf i) =
      some (⟨⟩, (List.replicate (padding i) false).foldl tape.put (atBit buf i)) := by
  induction n generalizing i buf with
  | zero =>
      rw [Nat.le_zero.mp h]
      rfl
  | succ n ih =>
      show (if (atBit buf i).byteAligned = true then _ else _ : Writer) (atBit buf i) = _
      rw [byteAligned_atBit]
      by_cases haligned : padding i = 0
      · rw [decide_eq_true haligned, if_pos rfl, haligned]
        rfl
      · have hpadding : padding i = padding (i + 1) + 1 := by
          unfold padding at *
          omega
        obtain ⟨buf', hput, -⟩ := put_moves buf i 0
        have hput' : tape.put (atBit buf i) false = atBit buf' (i + 1) := hput
        rw [decide_eq_false haligned, if_neg Bool.false_ne_true, hpadding, List.replicate_succ,
          List.foldl_cons, hput', ← ih (by omega)]
        show (writeToByte n).run ((atBit buf i).put 0) = _
        rw [hput]

/-- What ends a payload: a one, and zeros to the next byte. -/
def trailing (i : Nat) : List Bool := true :: List.replicate (padding (i + 1)) false

theorem readRbspTrailingBits_atBit :
    readRbspTrailingBits.run (atBit buf i) = (⟨⟩, atBit buf (i + (trailing i).length)) := by
  show (skipToByte 8).run (atBit buf i).moved = _
  rw [moved_atBit, skipToByte_atBit (by unfold padding; omega), trailing, List.length_cons,
    List.length_replicate, Nat.add_assoc, Nat.add_comm 1]

theorem writeRbspTrailingBits_atBit :
    writeRbspTrailingBits.run (atBit buf i) =
      some (⟨⟩, (trailing i).foldl tape.put (atBit buf i)) := by
  obtain ⟨buf', hput, -⟩ := put_moves buf i 1
  have hput' : tape.put (atBit buf i) true = atBit buf' (i + 1) := hput
  show (writeToByte 8).run ((atBit buf i).put 1) = _
  rw [hput, writeToByte_atBit (by unfold padding; omega), trailing, List.foldl_cons, hput']

/-- A payload with its trailing bits has whole bytes, and the last one is not zero. -/
theorem length_trailing (bits : List Bool) :
    ∃ n, (bits ++ trailing bits.length).length = 8 * (n + 1) ∧ 8 * n ≤ bits.length := by
  refine ⟨bits.length / 8, ?_, by omega⟩
  rw [List.length_append, trailing, List.length_cons, List.length_replicate]
  unfold padding
  omega

/-! ### Numbers that are written and read -/

theorem codes_u1 {v : Nat} (h : v < 2) : tape.Codes readU1 (writeU1 v) v := by
  have hbit : (v.testBit 0).toNat = v := by
    rw [Nat.testBit_zero]
    obtain rfl | rfl : v = 0 ∨ v = 1 := by omega
    all_goals rfl
  have hreads := reads_readU1 (v.testBit 0)
  rw [hbit] at hreads
  exact ⟨_, emits_writeU1 v, hreads⟩

theorem codes_u {n v : Nat} (hn : n ≤ 32) (h : v < 2 ^ n) :
    tape.Codes (readU n) (writeU n v) v := by
  have hreads := reads_readU (length_bitsOf n v)
  rw [valueOf_bitsOf, Nat.mod_eq_of_lt h] at hreads
  exact ⟨_, emits_writeUFrom v hn, hreads⟩

theorem codes_skipU {n : Nat} (hn : n ≤ 32) (v : Nat) :
    tape.Codes (skipU n) (writeU n v) ⟨⟩ := by
  have hreads := reads_skipU (bitsOf n v)
  rw [length_bitsOf] at hreads
  exact ⟨_, emits_writeUFrom v hn, hreads⟩

theorem codes_u8 {v : Nat} (h : v < 256) : tape.Codes readU8 (writeU8 v) v := by
  have hreads := reads_readU8 (length_bitsOf 8 v)
  have hmod : v % 2 ^ 8 = v := Nat.mod_eq_of_lt h
  rw [valueOf_bitsOf, hmod] at hreads
  exact ⟨_, emits_writeU8 v, hreads⟩

theorem codes_ue {v : Nat} (h : v < 65535) : tape.Codes readUe (writeUe v) v :=
  ⟨_, emits_writeUe h, reads_readUe (by omega)⟩

/-- The signed numbers alternate with the negative ones in the unsigned codes. -/
theorem codes_se {v : Int} (hle : -32768 < v) (hlt : v < 32768) :
    tape.Codes readSe (writeSe v) v := by
  have hread : ∀ n : Nat, n < 65535 →
      tape.Codes readSe (writeUe n)
        (if (n : Int) % 2 = 1 then ((n : Int) + 1).tdiv 2 else -(n : Int).tdiv 2) := by
    intro n hn
    have hint : toInt n = n := if_pos (by omega)
    have hmap := (codes_ue hn).map (f := fun n => if toInt n % 2 = 1 then (toInt n + 1).tdiv 2
      else -(toInt n).tdiv 2)
    simp only [hint] at hmap
    obtain ⟨bits, hw, hr⟩ := hmap
    refine ⟨bits, hw, fun b b' hahead => (?_ : _ = _).trans (hr b b' hahead)⟩
    show (if toInt (readUe b).1 % 2 = 1 then _ else _ : StateM Bs Int) (readUe b).2 =
      (if toInt (readUe b).1 % 2 = 1 then _ else _, (readUe b).2)
    split <;> rfl
  unfold writeSe
  split
  · have hn : toUInt (-v * 2) = (-v * 2).toNat := by rw [toUInt, Int.emod_eq_of_lt] <;> omega
    have hcodes := hread (-v * 2).toNat (by omega)
    rw [hn]
    rwa [Int.toNat_of_nonneg (by omega), if_neg (by omega), Int.mul_tdiv_cancel _ (by decide),
      neg_neg] at hcodes
  · have hn : toUInt (v * 2 - 1) = (v * 2 - 1).toNat := by rw [toUInt, Int.emod_eq_of_lt] <;> omega
    have hcodes := hread (v * 2 - 1).toNat (by omega)
    rw [hn]
    rwa [Int.toNat_of_nonneg (by omega), if_pos (by omega), Int.sub_add_cancel,
      Int.mul_tdiv_cancel _ (by decide)] at hcodes

/-! ### No other number is written and read

Behind the range of the codes the writer has no result. The largest numbers wrap before they are
written, `4294967295` to a single zero and `-2147483648` to the code of zero. -/

theorem atBit_inj {buf' : List UInt8} (h : atBit buf i = atBit buf' j) : buf = buf' ∧ i = j := by
  simp only [atBit, Bs.mk.injEq] at h
  exact ⟨h.1, by omega⟩

/-- A writer puts the bits somewhere, from where they are read. -/
theorem exists_ahead (bits : List Bool) :
    ∃ n buf, bits.foldl tape.put (init (List.replicate n 0)) = atBit buf bits.length ∧
      tape.Ahead (init buf) bits (atBit buf bits.length) := by
  obtain ⟨buf', hput, hlength, hbits⟩ := foldl_put bits (List.replicate bits.length 0) 0
    (by rw [List.length_replicate]; omega)
  rw [List.length_replicate] at hlength
  rw [Nat.zero_add] at hput hbits
  have hahead := ahead_of_bitAt buf' 0 bits (by omega)
    fun k hk => by rw [Nat.zero_add, hbits, if_pos ⟨Nat.zero_le k, hk⟩, Nat.sub_zero]
  rw [Nat.zero_add] at hahead
  exact ⟨bits.length, buf', hput, hahead⟩

/-- The bits of a writer are determined by what it does. -/
theorem emits_unique {w : Writer} {bits' : List Bool} (h : tape.Emits w bits)
    (h' : tape.Emits w bits') : bits = bits' := by
  -- In a buffer with room for both.
  obtain ⟨n, hn, hn'⟩ : ∃ n, bits.length ≤ 8 * n ∧ bits'.length ≤ 8 * n :=
    ⟨bits.length + bits'.length, by omega, by omega⟩
  have hroom : (List.replicate n (0 : UInt8)).length = n := List.length_replicate ..
  obtain ⟨buf, hput, -, hbits⟩ := foldl_put bits (List.replicate n 0) 0 (by omega)
  obtain ⟨buf', hput', -, hbits'⟩ := foldl_put bits' (List.replicate n 0) 0
    (by omega)
  have hrun := (h (init (List.replicate n 0))).symm.trans (h' _)
  rw [init_eq, hput, hput'] at hrun
  obtain ⟨rfl, hlength⟩ := atBit_inj (congrArg Prod.snd (Option.some.inj hrun))
  refine List.ext_getElem (by omega) fun k hk hk' => ?_
  have hbit := (hbits k).symm.trans (hbits' k)
  rwa [if_pos (by omega), if_pos (by omega), Nat.sub_zero, List.getD_eq_getElem _ _ hk,
    List.getD_eq_getElem _ _ hk'] at hbit

/-- A writer is for one value. -/
theorem codes_unique {α : Type} {r : StateM Bs α} {w : Writer} {a a' : α}
    (h : tape.Codes r w a) (h' : tape.Codes r w a') : a = a' := by
  obtain ⟨bits, hw, hr⟩ := h
  obtain ⟨bits', hw', hr'⟩ := h'
  cases emits_unique hw hw'
  obtain ⟨n, buf, -, hahead⟩ := exists_ahead bits
  exact congrArg Prod.fst ((hr _ _ hahead).symm.trans (hr' _ _ hahead))

theorem not_codes_of_undefined {α : Type} {r : StateM Bs α} {w : Writer} {a : α}
    (h : ∀ b : Bs, w.run b = none) : ¬ tape.Codes r w a := by
  rintro ⟨bits, hw, -⟩
  have hnone := (h (init [])).symm.trans (hw (init []))
  cases hnone

theorem codes_ue_iff {v : Nat} (hv : v < 4294967296) :
    tape.Codes readUe (writeUe v) v ↔ v < 65535 := by
  refine ⟨fun h => ?_, codes_ue⟩
  by_contra hle
  obtain hlt | rfl : v < 4294967295 ∨ v = 4294967295 := by omega
  · exact not_codes_of_undefined (writeUe_undefined (not_lt.mp hle) hlt) h
  · -- The bit is a zero, and the reader goes on behind it.
    obtain ⟨bits, hw, hr⟩ := h
    cases emits_unique hw (emits_writeU1 0 : tape.Emits (writeUe 4294967295) [false])
    have hread := hr (init [0]) (atBit [0] 1) ⟨rfl, rfl, rfl⟩
    exact absurd (congrArg Prod.fst hread) (by decide)

theorem codes_se_iff {v : Int} (hle : -2147483648 ≤ v) (hlt : v < 2147483648) :
    tape.Codes readSe (writeSe v) v ↔ -32768 < v ∧ v < 32768 := by
  refine ⟨fun h => ?_, fun h => codes_se h.1 h.2⟩
  by_contra hrange
  obtain rfl | hmin := eq_or_ne v (-2147483648)
  · exact absurd (codes_unique h (codes_se (v := 0) (by decide) (by decide))) (by decide)
  · refine not_codes_of_undefined (fun b => ?_) h
    unfold writeSe
    split
    · refine writeUe_undefined ?_ ?_ b <;> unfold toUInt <;> omega
    · refine writeUe_undefined ?_ ?_ b <;> unfold toUInt <;> omega

/-- The codes are those of the numbers of sixteen bits, and these alone: a `uint32_t` or `int` is
read as it was written exactly if it is one of them. -/
theorem golomb_exact :
    (∀ v < 4294967296, tape.Codes readUe (writeUe v) v ↔ v < 65535) ∧
      ∀ v : Int, -2147483648 ≤ v → v < 2147483648 →
        (tape.Codes readSe (writeSe v) v ↔ -32768 < v ∧ v < 32768) :=
  ⟨fun _ => codes_ue_iff, fun _ => codes_se_iff⟩

theorem golomb_exact_at_ends :
    (tape.Codes readUe (writeUe 65534) 65534 ↔ 65534 < 65535) ∧
      (tape.Codes readSe (writeSe (-32768)) (-32768) ↔
        (-32768 : Int) < -32768 ∧ (-32768 : Int) < 32768) :=
  ⟨golomb_exact.1 65534 (by decide), golomb_exact.2 (-32768) (by decide) (by decide)⟩

/-! ### Fields -/

/-- A number that is assigned to an `int`. -/
def asInt (r : StateM Bs Nat) : StateM Bs Int := toInt <$> r

/-- An `int` with a value below this. -/
def Below (bound : Nat) (x : Int) : Prop := 0 ≤ x ∧ x < bound

instance (bound : Nat) (x : Int) : Decidable (Below bound x) :=
  inferInstanceAs (Decidable (_ ∧ _))

theorem Below.mono {m n : Nat} {x : Int} (h : Below m x) (hle : m ≤ n) : Below n x := by
  obtain ⟨hpos, hlt⟩ := h
  exact ⟨hpos, by omega⟩

theorem toInt_toUInt {x : Int} (hle : -2147483648 ≤ x) (hlt : x < 2147483648) :
    toInt (toUInt x) = x := by
  unfold toInt toUInt
  split <;> omega

theorem toUInt_lt (x : Int) : toUInt x < 4294967296 := by
  unfold toUInt
  omega

theorem codes_asInt {r : StateM Bs Nat} {w : Writer} {x : Int} (hle : -2147483648 ≤ x)
    (hlt : x < 2147483648) (h : tape.Codes r w (toUInt x)) : tape.Codes (asInt r) w x := by
  have hmap := h.map (f := toInt)
  rwa [toInt_toUInt hle hlt] at hmap

/-- A field with a code for the numbers below a bound. -/
theorem codes_below {r : StateM Bs Nat} {w : Nat → Writer} {bound : Nat} (hbound : bound ≤ 65536)
    (h : ∀ v < bound, tape.Codes r (w v) v) {x : Int} (hx : Below bound x) :
    tape.Codes (asInt r) (w (toUInt x)) x := by
  obtain ⟨hle, hlt⟩ := hx
  refine codes_asInt (by omega) (by omega) (h _ ?_)
  unfold toUInt
  omega

theorem codes_flag {x : Int} (hx : Below 2 x) :
    tape.Codes (asInt readU1) (writeU1 (toUInt x)) x :=
  codes_below (w := writeU1) (by decide) (fun _ => codes_u1) hx

theorem codes_byte {x : Int} (hx : Below 256 x) :
    tape.Codes (asInt readU8) (writeU8 (toUInt x)) x :=
  codes_below (w := writeU8) (by decide) (fun _ => codes_u8) hx

theorem codes_golomb {x : Int} (hx : Below 65535 x) :
    tape.Codes (asInt readUe) (writeUe (toUInt x)) x :=
  codes_below (w := writeUe) (by decide) (fun _ => codes_ue) hx

/-- A field of some bits. -/
theorem codes_bits {n : Nat} {x : Int} (hn : n ≤ 16) (hx : Below (2 ^ n) x) :
    tape.Codes (asInt (readU n)) (writeU n (toUInt x)) x :=
  codes_below (Nat.pow_le_pow_right Nat.zero_lt_two hn)
    (fun _ => codes_u (hn.trans (by decide))) hx

/-- A field of 32 bits, which may become negative. -/
theorem codes_word {x : Int} (hle : -2147483648 ≤ x) (hlt : x < 2147483648) :
    tape.Codes (asInt (readU 32)) (writeU 32 (toUInt x)) x :=
  codes_asInt hle hlt (codes_u le_rfl (toUInt_lt x))

end Bs

end GilStreaming.Streaming
