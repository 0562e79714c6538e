import Mathlib.Data.List.Basic

/-!
# GilStreaming.Streaming.NalUnit

The bytes of a NAL unit: `h264bitstream/h264_nal.c`.

A start code is `00 00 01`, and a NAL unit goes to the next one, or to three zeros. Its payload may
hold such bytes, so `rbsp_to_nal` puts a three behind two zeros wherever a byte below four follows,
and `nal_to_rbsp` takes it away. A position in a buffer is the suffix from there on. Both functions
stop with `-1` where the other buffer is full, which is `none`.
-/

namespace GilStreaming.Streaming

/-! ### Finding a NAL unit -/

/-- The first loop of `find_nal_unit`. -/
def seekStart : List UInt8 → List UInt8
  | a :: b :: c :: rest =>
      if a = 0 ∧ b = 0 ∧ (c = 1 ∨ c = 0 ∧ rest.head? = some 1) then a :: b :: c :: rest
      else seekStart (b :: c :: rest)
  | short => short

/-- The second loop. -/
def seekEnd : List UInt8 → List UInt8
  | a :: b :: c :: rest =>
      if a = 0 ∧ b = 0 ∧ (c = 0 ∨ c = 1) then a :: b :: c :: rest else seekEnd (b :: c :: rest)
  | short => short

def startsWithCode (buf : List UInt8) : Bool := buf.take 3 = [0, 0, 1]

/-- `find_nal_unit`: where the NAL unit starts and ends, both zero if there is none. -/
def findNalUnit (buf : List UInt8) : Nat × Nat :=
  let found := seekStart buf
  if found.length ≤ 2 then (0, 0)
  else
    let found := if startsWithCode found then found else found.drop 1
    if !startsWithCode found then (0, 0)
    else
      let nal := found.drop 3
      let rest := seekEnd nal
      (buf.length - nal.length, if rest.length ≤ 2 then buf.length else buf.length - rest.length)

/-! ### The payload -/

/-- The zeros in a row after another byte. -/
def zeros (count : Nat) (byte : UInt8) : Nat := if byte = 0 then count + 1 else 0

/-- The loop of `rbsp_to_nal`. Behind a three the byte is looked at again, with no zeros before
it. -/
def rbspToNalFrom (nalSize : Nat) : Nat → Nat → List UInt8 → Option (List UInt8)
  | _, _, [] => some []
  | j, count, byte :: rest =>
      if nalSize ≤ j then none
      else if count = 2 ∧ byte &&& 0xFC = 0 then
        if nalSize ≤ j + 1 then none
        else (3 :: byte :: ·) <$> rbspToNalFrom nalSize (j + 2) (zeros 0 byte) rest
      else (byte :: ·) <$> rbspToNalFrom nalSize (j + 1) (zeros count byte) rest

/-- `rbsp_to_nal`, which starts with a zero of its own. -/
def rbspToNal (rbsp : List UInt8) (nalSize : Nat) : Option (List UInt8) :=
  (0 :: ·) <$> rbspToNalFrom nalSize 1 0 rbsp

/-- The loop of `nal_to_rbsp`: the payload, and the bytes that were read. -/
def nalToRbspFrom (rbspSize : Nat) : Nat → Nat → List UInt8 → Option (List UInt8 × Nat)
  | _, _, [] => some ([], 0)
  | j, count, byte :: rest =>
      if count = 2 ∧ byte < 3 then none
      else if count = 2 ∧ byte = 3 then
        match rest with
        -- A three at the end is not counted.
        | [] => some ([], 0)
        | next :: rest =>
            if 3 < next then none
            else if rbspSize ≤ j then none
            else (nalToRbspFrom rbspSize (j + 1) (zeros 0 next) rest).map
              fun (bytes, n) => (next :: bytes, n + 2)
      else if rbspSize ≤ j then none
      else (nalToRbspFrom rbspSize (j + 1) (zeros count byte) rest).map
        fun (bytes, n) => (byte :: bytes, n + 1)

def nalToRbsp (nal : List UInt8) (rbspSize : Nat) : Option (List UInt8 × Nat) :=
  nalToRbspFrom rbspSize 0 0 nal

/-! ### Escaping

`escape` is what `rbsp_to_nal` writes where there is room. -/

/-- The payload with its threes, behind `count` zeros. -/
def escape : Nat → List UInt8 → List UInt8
  | _, [] => []
  | count, byte :: rest =>
      if count = 2 ∧ byte ≤ 3 then 3 :: byte :: escape (zeros 0 byte) rest
      else byte :: escape (zeros count byte) rest

theorem and_eq_zero_iff (byte : UInt8) : byte &&& 0xFC = 0 ↔ byte ≤ 3 := by
  have hall : (List.range 256).all (fun n => decide (UInt8.ofNat n &&& 0xFC = 0) ==
      decide (UInt8.ofNat n ≤ 3)) = true := by decide +kernel
  have hbyte := List.all_eq_true.mp hall byte.toNat (List.mem_range.mpr (UInt8.toNat_lt byte))
  rw [UInt8.ofNat_toNat, beq_iff_eq, decide_eq_decide] at hbyte
  exact hbyte

/-- `rbsp_to_nal` fails for want of room only. -/
theorem rbspToNalFrom_eq (nalSize j count : Nat) (rbsp : List UInt8) :
    rbspToNalFrom nalSize j count rbsp =
      if (escape count rbsp).length ≤ nalSize - j then some (escape count rbsp) else none := by
  induction rbsp generalizing j count with
  | nil => rw [escape, List.length_nil, if_pos (Nat.zero_le _)]; rfl
  | cons byte rest ih =>
      rw [rbspToNalFrom, escape]
      simp only [and_eq_zero_iff, ih]
      by_cases hstuff : count = 2 ∧ byte ≤ 3
      · simp only [if_pos hstuff, List.length_cons]
        split_ifs <;> first | rfl | omega
      · simp only [if_neg hstuff, List.length_cons]
        split_ifs <;> first | rfl | omega

theorem rbspToNal_eq (rbsp : List UInt8) (nalSize : Nat) :
    rbspToNal rbsp nalSize =
      if (escape 0 rbsp).length ≤ nalSize - 1 then some (0 :: escape 0 rbsp) else none := by
  rw [rbspToNal, rbspToNalFrom_eq]
  split <;> rfl

theorem zeros_le {count : Nat} {byte : UInt8} (hcount : count ≤ 2)
    (h : ¬ (count = 2 ∧ byte ≤ 3)) : zeros count byte ≤ 2 := by
  unfold zeros
  split
  · next hbyte =>
      have hne : count ≠ 2 := fun h2 => h ⟨h2, by rw [hbyte]; decide⟩
      omega
  · exact Nat.zero_le 2

theorem zeros_zero_le (byte : UInt8) : zeros 0 byte ≤ 2 :=
  zeros_le (Nat.zero_le 2) fun h => absurd h.1 (by decide)

/-- A byte that is not behind two zeros, or is above three, is taken as it is. -/
theorem nalToRbspFrom_plain {rbspSize j count : Nat} {byte : UInt8} {rest : List UInt8}
    (hbyte : ¬ (count = 2 ∧ byte ≤ 3)) :
    nalToRbspFrom rbspSize j count (byte :: rest) =
      if rbspSize ≤ j then none
      else (nalToRbspFrom rbspSize (j + 1) (zeros count byte) rest).map
        fun (bytes, n) => (byte :: bytes, n + 1) := by
  rw [nalToRbspFrom.eq_def]
  refine (if_neg fun h => hbyte ⟨h.1, ?_⟩).trans (if_neg fun h => hbyte ⟨h.1, ?_⟩)
  · exact UInt8.le_of_lt (UInt8.lt_of_lt_of_le h.2 (UInt8.le_refl 3))
  · rw [h.2]
    exact UInt8.le_refl 3

/-- Behind two zeros and a three it is the byte that follows. -/
theorem nalToRbspFrom_stuffed {rbspSize j : Nat} {next : UInt8} {rest : List UInt8} :
    nalToRbspFrom rbspSize j 2 (3 :: next :: rest) =
      if 3 < next then none
      else if rbspSize ≤ j then none
      else (nalToRbspFrom rbspSize (j + 1) (zeros 0 next) rest).map
        fun (bytes, n) => (next :: bytes, n + 2) := by
  rw [nalToRbspFrom]
  exact (if_neg fun h => absurd h.2 (by decide)).trans (if_pos ⟨rfl, rfl⟩)

/-- `nal_to_rbsp` undoes the escape where there is room. -/
theorem nalToRbspFrom_escape {rbspSize j count : Nat} {rbsp : List UInt8}
    (hroom : rbsp.length ≤ rbspSize - j) (hcount : count ≤ 2) :
    nalToRbspFrom rbspSize j count (escape count rbsp) =
      some (rbsp, (escape count rbsp).length) := by
  induction rbsp generalizing j count with
  | nil => rfl
  | cons byte rest ih =>
      rw [List.length_cons] at hroom
      rw [escape]
      split
      · next hstuff =>
          obtain ⟨rfl, hbyte⟩ := hstuff
          rw [nalToRbspFrom_stuffed, if_neg (UInt8.not_lt.mpr hbyte), if_neg (by omega),
            ih (by omega) (zeros_zero_le byte)]
          rfl
      · next hplain =>
          rw [nalToRbspFrom_plain hplain, if_neg (by omega),
            ih (by omega) (zeros_le hcount hplain)]
          rfl

/-- What `nal_to_rbsp` takes is the escape of what it returns, where a three at the end may be
left. -/
theorem eq_escape_of_nalToRbspFrom {rbspSize j count n : Nat} {nal rbsp : List UInt8}
    (hcount : count ≤ 2) (h : nalToRbspFrom rbspSize j count nal = some (rbsp, n)) :
    n = (escape count rbsp).length ∧ rbsp.length ≤ rbspSize - j ∧
      ∃ tail, nal = escape count rbsp ++ tail ∧ (tail = [] ∨ tail = [3]) := by
  fun_induction nalToRbspFrom rbspSize j count nal generalizing rbsp n with
  | case1 =>
      cases h
      exact ⟨rfl, Nat.zero_le _, [], rfl, .inl rfl⟩
  | case3 j count byte hlt hthree =>
      cases h
      exact ⟨rfl, Nat.zero_le _, [byte], rfl, .inr (by rw [hthree.2])⟩
  | case6 j count byte hlt hthree next rest hnext hroom ih =>
      obtain ⟨rfl, rfl⟩ := hthree
      obtain ⟨⟨bytes, k⟩, hrest, hbytes⟩ := Option.map_eq_some_iff.mp h
      cases hbytes
      obtain ⟨rfl, hle, tail, rfl, htail⟩ := ih (zeros_zero_le next) hrest
      have hescape : escape 2 (next :: bytes) = 3 :: next :: escape (zeros 0 next) bytes :=
        if_pos ⟨rfl, UInt8.not_lt.mp hnext⟩
      rw [hescape]
      exact ⟨rfl, by rw [List.length_cons]; omega, tail, rfl, htail⟩
  | case8 j count byte rest hlt hthree hroom ih =>
      have hplain : ¬ (count = 2 ∧ byte ≤ 3) := fun h =>
        hthree ⟨h.1, UInt8.le_antisymm h.2 (UInt8.not_lt.mp fun h3 => hlt ⟨h.1, h3⟩)⟩
      obtain ⟨⟨bytes, k⟩, hrest, hbytes⟩ := Option.map_eq_some_iff.mp h
      cases hbytes
      obtain ⟨rfl, hle, tail, rfl, htail⟩ := ih (zeros_le hcount hplain) hrest
      have hescape : escape count (byte :: bytes) = byte :: escape (zeros count byte) bytes :=
        if_neg hplain
      rw [hescape]
      exact ⟨rfl, by rw [List.length_cons]; omega, tail, rfl, htail⟩
  | case2 | case4 | case5 | case7 => cases h

/-! ### No start code in a payload -/

/-- Behind `count` zeros, no two zeros are followed by a byte below three. -/
def CodeFree : Nat → List UInt8 → Prop
  | _, [] => True
  | count, byte :: rest => ¬ (2 ≤ count ∧ byte < 3) ∧ CodeFree (zeros count byte) rest

theorem codeFree_escape {count : Nat} (hcount : count ≤ 2) (rbsp : List UInt8) :
    CodeFree count (escape count rbsp) := by
  induction rbsp generalizing count with
  | nil => trivial
  | cons byte rest ih =>
      rw [escape]
      split
      · exact ⟨fun h => absurd h.2 (by decide), fun h => absurd h.1 (Nat.not_succ_le_zero 1),
          ih (zeros_zero_le byte)⟩
      · next hplain =>
          refine ⟨fun h => hplain ⟨by omega, ?_⟩, ih (zeros_le hcount hplain)⟩
          exact UInt8.le_of_lt h.2

theorem CodeFree.not_startCode {count : Nat} {bytes : List UInt8} (h : CodeFree count bytes)
    {x : UInt8} (hx : x < 3) : ¬ [0, 0, x] <:+: bytes := by
  rintro ⟨pre, post, rfl⟩
  induction pre generalizing count with
  | nil => exact h.2.2.1 ⟨Nat.le_add_left 2 count, hx⟩
  | cons byte pre ih => exact ih h.2

theorem codeFree_append_three {count : Nat} {bytes : List UInt8} (h : CodeFree count bytes) :
    CodeFree count (bytes ++ [3]) := by
  induction bytes generalizing count with
  | nil => exact ⟨fun h => absurd h.2 (by decide), trivial⟩
  | cons byte bytes ih => exact ⟨h.1, ih h.2⟩

/-- What is read has no start code in it. -/
theorem codeFree_of_nalToRbsp {nal rbsp : List UInt8} {rbspSize n : Nat}
    (h : nalToRbsp nal rbspSize = some (rbsp, n)) : CodeFree 0 nal := by
  obtain ⟨-, -, tail, rfl, rfl | rfl⟩ := eq_escape_of_nalToRbspFrom (Nat.zero_le 2) h
  · rw [List.append_nil]
    exact codeFree_escape (Nat.zero_le 2) rbsp
  · exact codeFree_append_three (codeFree_escape (Nat.zero_le 2) rbsp)

/-! ### The NAL unit that is found -/

/-- A start code, or three zeros. -/
def EndsUnit (bytes : List UInt8) : Prop := [0, 0, 0] <+: bytes ∨ [0, 0, 1] <+: bytes

theorem EndsUnit.three {bytes : List UInt8} (h : EndsUnit bytes) :
    ∃ c rest, bytes = 0 :: 0 :: c :: rest ∧ (c = 0 ∨ c = 1) := by
  obtain ⟨rest, rfl⟩ | ⟨rest, rfl⟩ := h
  · exact ⟨0, rest, rfl, .inl rfl⟩
  · exact ⟨1, rest, rfl, .inr rfl⟩

theorem seekEnd_self {bytes : List UInt8} (h : EndsUnit bytes) : seekEnd bytes = bytes := by
  obtain ⟨c, rest, rfl, hc⟩ := h.three
  exact if_pos ⟨rfl, rfl, hc⟩

theorem length_seekEnd {count : Nat} {nal : List UInt8} (hfree : CodeFree count nal) :
    (seekEnd nal).length ≤ 2 := by
  fun_induction seekEnd nal generalizing count with
  | case1 a b c rest h =>
      obtain ⟨rfl, rfl, hc⟩ := h
      exact absurd ⟨Nat.le_add_left 2 count, by obtain rfl | rfl := hc <;> decide⟩ hfree.2.2.1
  | case2 a b c rest h ih => exact ih hfree.2
  | case3 short hshort =>
      match short with
      | [] | [_] | [_, _] => simp
      | a :: b :: c :: rest => exact (hshort a b c rest rfl).elim

/-- The end is not within a payload that does not end with a zero. -/
theorem seekEnd_append {count : Nat} {nal next : List UInt8} (hfree : CodeFree count nal)
    (hlast : nal.getLast? ≠ some 0) (hnext : EndsUnit next) : seekEnd (nal ++ next) = next := by
  induction nal generalizing count with
  | nil => exact seekEnd_self hnext
  | cons a nal ih =>
      obtain ⟨z, rest, rfl, hz⟩ := hnext.three
      -- The three bytes are of the payload, or one that is not zero is among the first two.
      match nal with
      | [] =>
          have ha : a ≠ 0 := fun ha => hlast (by rw [ha]; rfl)
          exact (if_neg fun h => ha h.1).trans (seekEnd_self hnext)
      | [b] =>
          have hb : b ≠ 0 := fun hb => hlast (by rw [hb]; rfl)
          exact (if_neg fun h => hb h.2.1).trans (ih hfree.2 hlast)
      | b :: c :: nal =>
          refine (if_neg fun h => ?_).trans (ih hfree.2 hlast)
          obtain ⟨rfl, rfl, hc⟩ := h
          exact hfree.2.2.1 ⟨Nat.le_add_left 2 count, by obtain rfl | rfl := hc <;> decide⟩

/-- The start codes, with three or four bytes. -/
def StartCode (code : List UInt8) : Prop := code = [0, 0, 1] ∨ code = [0, 0, 0, 1]

theorem findNalUnit_startCode {code : List UInt8} (hcode : StartCode code) (bytes : List UInt8) :
    findNalUnit (code ++ bytes) =
      (code.length, if (seekEnd bytes).length ≤ 2 then (code ++ bytes).length
        else (code ++ bytes).length - (seekEnd bytes).length) := by
  obtain rfl | rfl := hcode
  · show (bytes.length + 3 - bytes.length, _) = _
    rw [Nat.add_sub_cancel_left]
    rfl
  · show (bytes.length + 4 - bytes.length, _) = _
    rw [Nat.add_sub_cancel_left]
    rfl

/-- A payload without start codes is found behind one, up to the next one or the end. -/
theorem findNalUnit_payload {code nal next : List UInt8} (hcode : StartCode code)
    (hfree : CodeFree 0 nal) (hnext : next = [] ∨ EndsUnit next ∧ nal.getLast? ≠ some 0) :
    findNalUnit (code ++ (nal ++ next)) = (code.length, code.length + nal.length) := by
  rw [findNalUnit_startCode hcode]
  obtain rfl | ⟨hnext, hlast⟩ := hnext
  · rw [List.append_nil, if_pos (length_seekEnd hfree), List.length_append]
  · obtain ⟨c, rest, rfl, -⟩ := hnext.three
    rw [seekEnd_append hfree hlast hnext, if_neg (by simp), List.length_append, List.length_append,
      ← Nat.add_assoc, Nat.add_sub_cancel]

theorem length_le_escape (count : Nat) (rbsp : List UInt8) :
    rbsp.length ≤ (escape count rbsp).length := by
  induction rbsp generalizing count with
  | nil => exact Nat.zero_le _
  | cons byte rest ih =>
      rw [escape]
      split
      · exact Nat.le_succ_of_le (Nat.succ_le_succ (ih _))
      · exact Nat.succ_le_succ (ih _)

theorem getLast?_escape (count : Nat) (rbsp : List UInt8) :
    (escape count rbsp).getLast? = rbsp.getLast? := by
  induction rbsp generalizing count with
  | nil => rfl
  | cons byte rest ih =>
      rw [escape]
      split
      · rw [List.getLast?_cons_cons, List.getLast?_cons, ih, ← List.getLast?_cons]
      · rw [List.getLast?_cons, ih, ← List.getLast?_cons]

/-! ### The two directions -/

/-- `nal_to_rbsp` reads a whole NAL unit exactly if `rbsp_to_nal` writes it for what is read. -/
theorem nalToRbsp_eq_some_iff {nal rbsp : List UInt8} {rbspSize : Nat} :
    nalToRbsp nal rbspSize = some (rbsp, nal.length) ↔
      rbspToNal rbsp (nal.length + 1) = some (0 :: nal) ∧ rbsp.length ≤ rbspSize := by
  rw [rbspToNal_eq, Nat.add_sub_cancel]
  constructor
  · intro h
    obtain ⟨hlength, hroom, tail, hnal, -⟩ := eq_escape_of_nalToRbspFrom (Nat.zero_le 2) h
    have htail : tail = [] := by
      have := congrArg List.length hnal
      rw [List.length_append] at this
      exact List.eq_nil_of_length_eq_zero (by omega)
    rw [htail, List.append_nil] at hnal
    rw [← hnal, if_pos (Nat.le_refl _)]
    exact ⟨rfl, hroom⟩
  · rintro ⟨hwrite, hroom⟩
    split at hwrite
    · cases Option.some.inj hwrite
      exact nalToRbspFrom_escape hroom (Nat.zero_le 2)
    · cases hwrite

/-- A payload that is written is found in a stream behind a start code, to its last byte, and read
as it was. No start code is within it. -/
theorem framed_payload {code rbsp nal next : List UInt8} {nalSize : Nat} (hcode : StartCode code)
    (hwrite : rbspToNal rbsp nalSize = some (0 :: nal))
    (hnext : next = [] ∨ EndsUnit next ∧ rbsp.getLast? ≠ some 0) :
    findNalUnit (code ++ (nal ++ next)) = (code.length, code.length + nal.length) ∧
      nalToRbsp nal nal.length = some (rbsp, nal.length) ∧
      ∀ x < 3, ¬ [0, 0, x] <:+: nal := by
  rw [rbspToNal_eq] at hwrite
  split at hwrite
  · cases Option.some.inj hwrite
    have hfree := codeFree_escape (Nat.zero_le 2) rbsp
    refine ⟨findNalUnit_payload hcode hfree ?_, ?_, fun x => hfree.not_startCode⟩
    · rwa [getLast?_escape]
    · exact nalToRbspFrom_escape (length_le_escape 0 rbsp) (Nat.zero_le 2)
  · cases hwrite

theorem framed_payload_with_zeros :
    findNalUnit ([0, 0, 0, 1] ++ ([0, 0, 3, 1, 128] ++ [0, 0, 1])) = (4, 9) ∧
      nalToRbsp [0, 0, 3, 1, 128] 5 = some ([0, 0, 1, 128], 5) ∧
      ∀ x : UInt8, x < 3 → ¬ [0, 0, x] <:+: [0, 0, 3, 1, 128] :=
  have hwrite : rbspToNal [0, 0, 1, 128] 16 = some (0 :: [0, 0, 3, 1, 128]) := by decide
  framed_payload (.inr rfl) hwrite (.inr ⟨.inr ⟨[], rfl⟩, by decide⟩)

end GilStreaming.Streaming
