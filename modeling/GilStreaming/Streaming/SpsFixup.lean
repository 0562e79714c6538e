import GilStreaming.Streaming.NalUnit
import GilStreaming.Streaming.SequenceParameters

/-!
# GilStreaming.Streaming.SpsFixup

NAL units with a sequence parameter set, and how `FFmpegVideoDecoder::writeBuffer` changes them.

`read_nal_unit` and `write_nal_unit` put the bits of a set into the bytes of a NAL unit.
`writeBuffer` reads the set of a frame, sets the fields on which the latency of a decoder depends,
and writes it back behind its start code. The first part says that a set survives the two
functions, the second what is left of it after a fix-up.
-/

namespace GilStreaming.Streaming

open Bs BitTape

/-- `nal_t`. -/
structure Nal where
  nalRefIdc : Int := 0
  nalUnitType : Int := 0
  deriving DecidableEq, Repr

/-- `h264_stream_t`, as `h264_new` makes it. -/
structure H264Stream where
  nal : Nal := {}
  sps : Sps := {}
  deriving DecidableEq, Repr

def readNal : StateM Bs Nal := do
  skipU 1
  let nalRefIdc ← asInt (readU 2)
  let nalUnitType ← asInt (readU 5)
  return ⟨nalRefIdc, nalUnitType⟩

def writeNal (nal : Nal) : Writer := do
  writeU 1 0
  writeU 2 (toUInt nal.nalRefIdc)
  writeU 5 (toUInt nal.nalUnitType)

/-- `read_nal_unit`: the stream after it, and the size or `-1`. -/
def readNalUnit (h : H264Stream) (buf : List UInt8) : H264Stream × Int :=
  match nalToRbsp buf buf.length with
  | none => (h, -1)
  | some (rbsp, nalSize) =>
      let (nal, b) := readNal.run (init rbsp)
      -- `NAL_UNIT_TYPE_SPS`.
      if nal.nalUnitType = 7 then
        let (sps, b) := readSeqParameterSet.run b
        let (_, b) := readRbspTrailingBits.run b
        (⟨nal, sps⟩, if b.overrun then -1 else nalSize)
      else (⟨nal, h.sps⟩, -1)

/-- `write_nal_unit`: the bytes that are at the start of a buffer with this size, and no bytes for
`-1`. Without a shift that is defined there is no result at all. -/
def writeNalUnit (h : H264Stream) (size : Nat) : Option (Option (List UInt8)) := do
  let (_, b) ← (writeNal h.nal).run (init (List.replicate size 0))
  if h.nal.nalUnitType = 7 then
    let (_, b) ← (writeSeqParameterSet h.sps).run b
    let (_, b) ← writeRbspTrailingBits.run b
    return if b.overrun then none else rbspToNal (b.buf.take b.pos) size
  else return none

/-! ### A set in a NAL unit -/

theorem codes_nal {nal : Nal} (href : Below 4 nal.nalRefIdc) (htype : Below 32 nal.nalUnitType) :
    tape.Codes readNal (writeNal nal) nal := by
  refine (codes_skipU (by decide) 0).bind ((codes_bits (by decide) href).bind ?_)
  exact Codes.bindPure (Nal.mk _) (codes_bits (n := 5) (by decide) htype)

/-- A stream that can be written. -/
structure H264Stream.WellFormed (h : H264Stream) : Prop where
  nalRefIdc : Below 4 h.nal.nalRefIdc
  nalUnitType : h.nal.nalUnitType = 7
  sps : h.sps.WellFormed

/-- The bits of a stream, without the trailing ones. -/
theorem codes_stream {h : H264Stream} (hwf : h.WellFormed) :
    ∃ bits₁ bits₂, tape.Emits (writeNal h.nal) bits₁ ∧ tape.Reads readNal bits₁ h.nal ∧
      tape.Emits (writeSeqParameterSet h.sps) bits₂ ∧
      tape.Reads readSeqParameterSet bits₂ h.sps := by
  have htype : Below 32 h.nal.nalUnitType := by
    rw [hwf.nalUnitType]
    decide
  obtain ⟨bits₁, hw₁, hr₁⟩ := codes_nal hwf.nalRefIdc htype
  obtain ⟨bits₂, hw₂, hr₂⟩ := codes_seqParameterSet hwf.sps
  exact ⟨bits₁, bits₂, hw₁, hr₁, hw₂, hr₂⟩

/-- The payload for these bits. -/
def payload (bits : List Bool) : List UInt8 := packed (bits ++ trailing bits.length)

theorem getLast?_payload (bits : List Bool) : (payload bits).getLast? ≠ some 0 := by
  obtain ⟨n, hlength, hn⟩ := length_trailing bits
  obtain ⟨hpacked, hbits⟩ := packed_spec hlength
  -- The one that ends the bits is in the last byte.
  have hn' : bits.length < 8 * (n + 1) := by
    rw [← hlength, List.length_append, trailing, List.length_cons]
    omega
  have hone : bitAt (payload bits) bits.length = true := by
    rw [payload, hbits _ hn', List.getD_eq_getElem?_getD, List.getElem?_append_right le_rfl,
      Nat.sub_self]
    rfl
  intro hlast
  have hdiv : bits.length / 8 = n := by omega
  rw [List.getLast?_eq_getElem?, payload, hpacked, Nat.add_sub_cancel] at hlast
  rw [bitAt, hdiv, List.getD_eq_getElem?_getD, payload, hlast] at hone
  simp at hone

theorem writeNalUnit_eq {h : H264Stream} {bits₁ bits₂ : List Bool} (htype : h.nal.nalUnitType = 7)
    (hw₁ : tape.Emits (writeNal h.nal) bits₁)
    (hw₂ : tape.Emits (writeSeqParameterSet h.sps) bits₂) (size : Nat) :
    writeNalUnit h size =
      some (if (escape 0 (payload (bits₁ ++ bits₂))).length < size then
        some (0 :: escape 0 (payload (bits₁ ++ bits₂))) else none) := by
  obtain ⟨n, hlength, -⟩ := length_trailing (bits₁ ++ bits₂)
  obtain ⟨-, hp, hoverrun⟩ := foldl_put_bytes hlength (List.replicate size 0)
  -- The three writers put the bits one after the other.
  have hrun : writeNalUnit h size =
      let b := (bits₁ ++ bits₂ ++ trailing (bits₁ ++ bits₂).length).foldl tape.put
        (init (List.replicate size 0))
      some (if b.overrun then none else rbspToNal (b.buf.take b.pos) size) := by
    obtain ⟨buf, hbuf, -⟩ := foldl_put_atBit (bits₁ ++ bits₂) (List.replicate size 0) 0
    rw [Nat.zero_add, ← init_eq] at hbuf
    rw [writeNalUnit, hw₁, List.foldl_append, hbuf]
    show (if h.nal.nalUnitType = 7 then _ else _ : Option (Option (List UInt8))) = _
    rw [if_pos htype, hw₂, ← List.foldl_append, hbuf]
    show ((writeRbspTrailingBits.run (atBit buf (bits₁ ++ bits₂).length)).bind _) = _
    rw [writeRbspTrailingBits_atBit]
    rfl
  rw [hrun]
  simp only [hoverrun, pos, hp, List.length_replicate]
  by_cases hfit : size < n + 1
  · -- The payload alone is longer than the buffer.
    have hpacked := (packed_spec hlength).1
    have hle := length_le_escape 0 (payload (bits₁ ++ bits₂))
    rw [decide_eq_true hfit, if_pos rfl, if_neg]
    rw [payload] at hle ⊢
    omega
  · rw [decide_eq_false hfit, if_neg Bool.false_ne_true, if_neg Bool.false_ne_true,
      take_foldl_put hlength (by rw [List.length_replicate]; omega), rbspToNal_eq]
    have hpos : ((escape 0 (payload (bits₁ ++ bits₂))).length ≤ size - 1) =
        ((escape 0 (payload (bits₁ ++ bits₂))).length < size) := by
      rw [eq_iff_iff]
      omega
    show some (if (escape 0 (payload (bits₁ ++ bits₂))).length ≤ size - 1 then _ else _) = _
    simp only [hpos]
    rfl

theorem readNalUnit_payload {h : H264Stream} {bits₁ bits₂ : List Bool}
    (htype : h.nal.nalUnitType = 7) (hr₁ : tape.Reads readNal bits₁ h.nal)
    (hr₂ : tape.Reads readSeqParameterSet bits₂ h.sps) (h₀ : H264Stream) :
    readNalUnit h₀ (escape 0 (payload (bits₁ ++ bits₂))) =
      (h, ((escape 0 (payload (bits₁ ++ bits₂))).length : Int)) := by
  obtain ⟨n, hlength, -⟩ := length_trailing (bits₁ ++ bits₂)
  obtain ⟨b, hahead, -⟩ := (ahead_append tape).mp (ahead_packed hlength)
  -- The stream behind the set, where the trailing bits start.
  obtain ⟨hb, -⟩ := bitAt_of_ahead (i := 0) hahead
  change b = atBit (payload (bits₁ ++ bits₂)) _ at hb
  obtain ⟨b₁, hahead₁, hahead₂⟩ := (ahead_append tape).mp hahead
  have hread : nalToRbsp (escape 0 (payload (bits₁ ++ bits₂)))
      (escape 0 (payload (bits₁ ++ bits₂))).length =
      some (payload (bits₁ ++ bits₂), (escape 0 (payload (bits₁ ++ bits₂))).length) :=
    nalToRbspFrom_escape (length_le_escape 0 _) (Nat.zero_le 2)
  have hoverrun : (atBit (payload (bits₁ ++ bits₂)) (0 + (bits₁ ++ bits₂).length +
      (trailing (0 + (bits₁ ++ bits₂).length)).length)).overrun = false := by
    refine decide_eq_false (not_lt.mpr ?_)
    show (0 + (bits₁ ++ bits₂).length + _) / 8 ≤ (payload (bits₁ ++ bits₂)).length
    rw [payload, (packed_spec hlength).1, Nat.zero_add, ← List.length_append, hlength]
    omega
  have hrun : (readNal.run (init (payload (bits₁ ++ bits₂)))) = (h.nal, b₁) := hr₁ _ _ hahead₁
  rw [readNalUnit, hread]
  simp only [hrun, hr₂ _ _ hahead₂, hb, readRbspTrailingBits_atBit, hoverrun, htype, if_pos,
    Bool.false_eq_true, if_false]

/-- A well-formed stream is written as one NAL unit for every buffer that is longer, which does not
end with a zero and has no start code in it. The unit is read as this stream. -/
theorem readNalUnit_writeNalUnit {h : H264Stream} (hwf : h.WellFormed) (h₀ : H264Stream) :
    ∃ nal : List UInt8,
      (∀ size, writeNalUnit h size =
        some (if nal.length < size then some (0 :: nal) else none)) ∧
      readNalUnit h₀ nal = (h, (nal.length : Int)) ∧
      nal.getLast? ≠ some 0 ∧ ∀ x < 3, ¬ [0, 0, x] <:+: nal := by
  obtain ⟨bits₁, bits₂, hw₁, hr₁, hw₂, hr₂⟩ := codes_stream hwf
  refine ⟨escape 0 (payload (bits₁ ++ bits₂)), writeNalUnit_eq hwf.nalUnitType hw₁ hw₂,
    readNalUnit_payload hwf.nalUnitType hr₁ hr₂ h₀, ?_,
    fun x => (codeFree_escape (Nat.zero_le 2) _).not_startCode⟩
  rw [getLast?_escape]
  exact getLast?_payload _

/-- A set of 1280 by 720 with two reference frames and times, and no restrictions. -/
def sampleSps : Sps :=
  { profileIdc := 77
    levelIdc := 31
    numRefFrames := 2
    picWidthInMbsMinus1 := 79
    picHeightInMapUnitsMinus1 := 44
    frameMbsOnlyFlag := 1
    direct8x8InferenceFlag := 1
    vuiParametersPresentFlag := 1
    vui := { timingInfoPresentFlag := 1, numUnitsInTick := 1, timeScale := 120 } }

theorem sampleSps_wellFormed : sampleSps.WellFormed where
  profileIdc := by decide
  constraintSet0 := by decide
  constraintSet1 := by decide
  constraintSet2 := by decide
  constraintSet3 := by decide
  constraintSet4 := by decide
  constraintSet5 := by decide
  levelIdc := by decide
  seqParameterSetId := by decide
  high := fun h => absurd h (by decide)
  high_absent := fun _ => rfl
  log2MaxFrameNum := by decide
  picOrderCnt := ⟨by decide, fun _ => by decide, fun h => absurd rfl h,
    fun h => absurd h (by decide), fun _ => rfl⟩
  numRefFrames := by decide
  gaps := by decide
  picWidth := by decide
  picHeight := by decide
  frameMbsOnly := by decide
  adaptive := fun h => absurd h (by decide)
  adaptive_absent := fun _ => rfl
  direct := by decide
  cropping := ⟨by decide, fun h => absurd rfl h, fun _ => rfl⟩
  vuiFlag := by decide
  vui := fun _ =>
    { aspectRatioInfo := ⟨by decide, fun h => absurd rfl h, fun _ => rfl,
        fun h => absurd h (by decide), fun _ => rfl⟩
      overscanInfo := ⟨by decide, fun h => absurd rfl h, fun _ => rfl⟩
      videoSignalType := ⟨by decide, fun h => absurd rfl h, fun _ => rfl, fun h => absurd rfl h,
        fun _ => rfl⟩
      chromaLocInfo := ⟨by decide, fun h => absurd rfl h, fun _ => rfl⟩
      timingInfo := ⟨by decide, fun _ => by decide, fun h => absurd (by decide) h⟩
      nalFlag := by decide
      nalHrd := fun h => absurd rfl h
      nalHrd_absent := fun _ => rfl
      vclFlag := by decide
      vclHrd := fun h => absurd rfl h
      vclHrd_absent := fun _ => rfl
      lowDelay := fun h => absurd h (by decide)
      lowDelay_absent := fun _ => rfl
      picStruct := by decide
      restriction := ⟨by decide, fun h => absurd rfl h, fun _ => rfl⟩ }
  vui_absent := fun h => absurd (by decide) h

def sampleStream : H264Stream := ⟨⟨3, 7⟩, sampleSps⟩

theorem sampleStream_wellFormed : sampleStream.WellFormed := ⟨by decide, rfl, sampleSps_wellFormed⟩

/-- The sample in a high profile, with a scaling list that repeats its first scale, one that is
the default, and both tables for the reference decoder. -/
def highSps : Sps :=
  { sampleSps with
    profileIdc := 100
    seqScalingMatrixPresentFlag := 1
    scalingLists := ⟨1, List.replicate 16 20, 0⟩ :: ⟨1, List.replicate 16 8, 1⟩ ::
      List.replicate 6 {}
    vui := { sampleSps.vui with nalHrdParametersPresentFlag := 1, vclHrdParametersPresentFlag := 1 }
    hrdNal := { cpbCntMinus1 := 1, bitRateScale := 4, schedSel := [⟨624, 999, 0⟩, ⟨1249, 1999, 1⟩] }
    hrdVcl := { schedSel := [⟨499, 799, 0⟩], timeOffsetLength := 24 } }

theorem highSps_wellFormed : highSps.WellFormed :=
  { sampleSps_wellFormed with
    profileIdc := (by decide : Below 256 100)
    high := fun _ =>
      { chromaFormatIdc := by decide
        residual := fun h => absurd h (by decide)
        residual_absent := fun _ => rfl
        luma := by decide
        chroma := by decide
        bypass := by decide
        matrix := by decide
        lists := fun _ => ⟨by decide, fun
          | 0, _ => ⟨by decide, fun h => absurd h (by decide), fun _ => ⟨by decide,
              .inl ⟨rfl, fun scale h => List.eq_of_mem_replicate h ▸ by decide⟩⟩⟩
          | 1, _ => ⟨by decide, fun h => absurd h (by decide), fun _ => ⟨by decide,
              .inr ⟨rfl, fun scale h => List.eq_of_mem_replicate h⟩⟩⟩
          | i + 2, _ => by
              have habsent : (List.replicate 6 ({} : ScalingList)).getD i {} = {} := by
                rw [List.getD_eq_getElem?_getD, List.getElem?_replicate]
                split <;> rfl
              show ((List.replicate 6 ({} : ScalingList)).getD i {}).WellFormed _
              rw [habsent]
              exact ⟨by decide, fun _ => ⟨rfl, rfl⟩, fun h => absurd rfl h⟩⟩
        lists_absent := fun h => absurd (by decide) h }
    high_absent := fun h => absurd (by decide) h
    vui := fun h =>
      { sampleSps_wellFormed.vui h with
        nalFlag := (by decide : Below 2 1)
        nalHrd := fun _ => ⟨by decide, by decide, by decide, by decide, fun entry hentry => by
          obtain rfl | hentry := List.mem_cons.mp hentry
          · exact ⟨by decide, by decide, by decide⟩
          · obtain rfl := List.mem_singleton.mp hentry
            exact ⟨by decide, by decide, by decide⟩, by decide, by decide, by decide, by decide⟩
        nalHrd_absent := fun h => absurd (by decide) h
        vclFlag := (by decide : Below 2 1)
        vclHrd := fun _ => ⟨by decide, by decide, by decide, by decide, fun entry hentry => by
          obtain rfl := List.mem_singleton.mp hentry
          exact ⟨by decide, by decide, by decide⟩, by decide, by decide, by decide, by decide⟩
        vclHrd_absent := fun h => absurd (by decide) h
        lowDelay := fun _ => (by decide : Below 2 0)
        lowDelay_absent := fun h => absurd (.inl (by decide)) h }
    vui_absent := fun h => absurd (by decide) h }

def highStream : H264Stream := ⟨⟨3, 7⟩, highSps⟩

theorem readNalUnit_writeNalUnit_sample :
    ∃ nal : List UInt8,
      (∀ size, writeNalUnit highStream size =
        some (if nal.length < size then some (0 :: nal) else none)) ∧
      readNalUnit {} nal = (highStream, (nal.length : Int)) ∧
      nal.getLast? ≠ some 0 ∧ ∀ x < 3, ¬ [0, 0, x] <:+: nal :=
  readNalUnit_writeNalUnit ⟨by decide, rfl, highSps_wellFormed⟩ {}

/-! ### The fix-up -/

/-- An `LENTRY`, and whether it is a `BUFFER_TYPE_SPS`. -/
structure Entry where
  isSps : Bool
  data : List UInt8
  deriving DecidableEq, Repr

def maxSpsExtraSize : Nat := 16

/-- `AV_INPUT_BUFFER_PADDING_SIZE`. -/
def inputBufferPaddingSize : Nat := 64

/-- `fullLength` of a frame with these buffers. -/
def fullLength (entries : List Entry) : Nat := (entries.map fun entry => entry.data.length).sum

/-- `requiredBufferSize` of `submitDecodeUnit`, where the frame is an IDR frame or not. -/
def requiredBufferSize (isIdr : Bool) (entries : List Entry) : Nat :=
  fullLength entries + if isIdr then maxSpsExtraSize else 0

/-- What `submitDecodeUnit` reserves for the frame. -/
def reservedSize (isIdr : Bool) (entries : List Entry) : Nat :=
  requiredBufferSize isIdr entries + inputBufferPaddingSize

def needsFixup (sps : Sps) : Bool := sps.numRefFrames ≠ 1 || sps.vui.maxDecFrameBuffering ≠ 1

/-- The restrictions with their defaults, where they are not present. -/
def fixupRestriction (restriction : BitstreamRestriction) : BitstreamRestriction :=
  let restriction := { restriction with maxDecFrameBuffering := 1 }
  if restriction.bitstreamRestrictionFlag = 0 then
    { restriction with
      bitstreamRestrictionFlag := 1
      motionVectorsOverPicBoundariesFlag := 1
      maxBytesPerPicDenom := 2
      maxBitsPerMbDenom := 1
      log2MaxMvLengthHorizontal := 16
      log2MaxMvLengthVertical := 16
      numReorderFrames := 0 }
  else restriction

def fixup (sps : Sps) : Sps :=
  { sps with
    numRefFrames := 1
    vui := { sps.vui with
      toBitstreamRestriction := fixupRestriction sps.vui.toBitstreamRestriction } }

/-- A unit behind its start code, and what `write_nal_unit` has returned. Of a unit that is not
written the offset moves by `-1` and not by its length, and what is behind it is written over. -/
def putUnit (out start : List UInt8) (nalStart : Nat) (written : Option (List UInt8)) :
    Option (List UInt8) :=
  let size : Int := match written with
    | some nal => nal.length
    | none => -1
  let offset := out.length + (size - 1) + nalStart
  if offset < 0 then none
  else some ((out ++ start ++ (written.getD []).drop 1).take offset.toNat)

/-- `writeBuffer`, with the bytes before `offset`. -/
def writeBuffer (needsSpsFixup : Bool) (out : List UInt8) (entry : Entry) :
    Option (List UInt8) :=
  if needsSpsFixup && entry.isSps then
    let (nalStart, nalEnd) := findNalUnit entry.data
    let stream := (readNalUnit {} ((entry.data.drop nalStart).take (nalEnd - nalStart))).1
    if needsFixup stream.sps then do
      let written ← writeNalUnit { stream with sps := fixup stream.sps }
        (maxSpsExtraSize + entry.data.length - nalStart)
      putUnit out (entry.data.take nalStart) nalStart written
    else some (out ++ entry.data)
  else some (out ++ entry.data)

/-- The loop of `submitDecodeUnit` over the buffers of a frame. -/
def writeBuffers (needsSpsFixup : Bool) : List UInt8 → List Entry → Option (List UInt8)
  | out, [] => some out
  | out, entry :: entries => do
      writeBuffers needsSpsFixup (← writeBuffer needsSpsFixup out entry) entries

/-! ### What is left of a set -/

/-- Without its flag the usability information is not written. -/
def writtenSps (sps : Sps) : Sps :=
  if sps.vuiParametersPresentFlag ≠ 0 then sps
  else { sps with vui := {}, hrdNal := {}, hrdVcl := {} }

theorem writeSeqParameterSet_writtenSps (sps : Sps) :
    writeSeqParameterSet (writtenSps sps) = writeSeqParameterSet sps := by
  unfold writtenSps
  split
  · rfl
  · next habsent =>
      have hnone : ∀ w w' : Writer, writeIf (sps.vuiParametersPresentFlag ≠ 0) w =
          writeIf (sps.vuiParametersPresentFlag ≠ 0) w' := fun w w' => by
        rw [writeIf, writeIf, if_neg habsent, if_neg habsent]
      unfold writeSeqParameterSet
      rw [hnone]

theorem fixupRestriction_wellFormed {restriction : BitstreamRestriction}
    (h : restriction.WellFormed) : (fixupRestriction restriction).WellFormed := by
  unfold fixupRestriction
  simp only
  split
  · exact ⟨by decide, fun _ => by decide, fun h => absurd (by decide) h⟩
  · next hflag =>
      obtain ⟨hvectors, hbytes, hbits, hhorizontal, hvertical, hreorder, -⟩ := h.fields hflag
      exact ⟨h.flag, fun _ => ⟨hvectors, hbytes, hbits, hhorizontal, hvertical, hreorder,
          (by decide : Below 65535 1)⟩, fun h => absurd hflag h⟩

/-- A set is well-formed after the fix-up, as far as it is written. -/
theorem writtenSps_fixup_wellFormed {sps : Sps} (h : sps.WellFormed) :
    (writtenSps (fixup sps)).WellFormed := by
  by_cases hvui : sps.vuiParametersPresentFlag ≠ 0
  · have hwritten : writtenSps (fixup sps) = fixup sps := if_pos hvui
    have hrestriction := fixupRestriction_wellFormed (h.vui hvui).restriction
    rw [hwritten]
    exact { h with
      numRefFrames := (by decide : Below 65535 1)
      vui := fun _ => { h.vui hvui with restriction := hrestriction }
      vui_absent := fun habsent => absurd hvui habsent }
  · have hwritten : writtenSps (fixup sps) =
        { fixup sps with vui := {}, hrdNal := {}, hrdVcl := {} } := if_neg hvui
    rw [hwritten]
    exact { h with
      numRefFrames := (by decide : Below 65535 1)
      vui := fun hpresent => absurd hpresent hvui
      vui_absent := fun _ => rfl }

/-! ### The bytes of a frame -/

/-- A buffer with a NAL unit behind its start code, which is read as this stream, and the stream
is well-formed. Reading alone does not check that. -/
structure Readable (data code nal : List UInt8) (h : H264Stream) : Prop where
  data_eq : data = code ++ nal
  startCode : StartCode code
  read : (readNalUnit {} nal).1 = h
  wellFormed : h.WellFormed

theorem Readable.findNalUnit {data code nal : List UInt8} {h : H264Stream}
    (hr : Readable data code nal h) :
    findNalUnit data = (code.length, code.length + nal.length) := by
  have hfree : CodeFree 0 nal := by
    -- Without a payload the stream is as it was, and has no type.
    cases hread : nalToRbsp nal nal.length with
    | none =>
        have hstream := hr.read
        have htype := hr.wellFormed.nalUnitType
        rw [readNalUnit, hread] at hstream
        rw [← hstream] at htype
        exact absurd htype (by decide)
    | some found => exact codeFree_of_nalToRbsp hread
  have hfind := findNalUnit_payload hr.startCode hfree (.inl rfl)
  rwa [List.append_nil, ← hr.data_eq] at hfind

/-- The stream with the fix-up is written as this NAL unit. -/
structure FixedUnit (h : H264Stream) (nal : List UInt8) : Prop where
  write : ∀ size, writeNalUnit { h with sps := fixup h.sps } size =
    some (if nal.length < size then some (0 :: nal) else none)
  read : readNalUnit {} nal = (⟨h.nal, writtenSps (fixup h.sps)⟩, (nal.length : Int))

theorem exists_fixedUnit {h : H264Stream} (hwf : h.WellFormed) : ∃ nal, FixedUnit h nal := by
  have hwf' : H264Stream.WellFormed ⟨h.nal, writtenSps (fixup h.sps)⟩ :=
    ⟨hwf.nalRefIdc, hwf.nalUnitType, writtenSps_fixup_wellFormed hwf.sps⟩
  obtain ⟨nal, hwrite, hread, -⟩ := readNalUnit_writeNalUnit hwf' {}
  refine ⟨nal, fun size => (?_ : _ = _).trans (hwrite size), hread⟩
  unfold writeNalUnit
  simp only [writeSeqParameterSet_writtenSps]

/-- The NAL unit of the sample. -/
def sampleNal : List UInt8 :=
  [103, 77, 0, 31, 246, 2, 128, 45, 208, 128, 0, 0, 3, 0, 128, 0, 0, 60, 2]

theorem sampleNal_readable :
    Readable ([0, 0, 0, 1] ++ sampleNal) [0, 0, 0, 1] sampleNal sampleStream :=
  ⟨rfl, .inr rfl, by decide +kernel, sampleStream_wellFormed⟩

/-- What a buffer adds to a frame. -/
inductive Piece : Entry → List UInt8 → Prop
  | other {data : List UInt8} : Piece ⟨false, data⟩ data
  | kept {data code nal : List UInt8} {h : H264Stream} (hr : Readable data code nal h)
      (hneeds : needsFixup h.sps = false) : Piece ⟨true, data⟩ data
  | fixed {data code nal nal' : List UInt8} {h : H264Stream} (hr : Readable data code nal h)
      (hneeds : needsFixup h.sps = true) (hunit : FixedUnit h nal')
      (hroom : nal'.length < maxSpsExtraSize + nal.length) : Piece ⟨true, data⟩ (code ++ nal')
  | lost {data code nal nal' : List UInt8} {h : H264Stream} (hr : Readable data code nal h)
      (hneeds : needsFixup h.sps = true) (hunit : FixedUnit h nal')
      (hroom : ¬ nal'.length < maxSpsExtraSize + nal.length) :
      Piece ⟨true, data⟩ (code.take (code.length - 2))

theorem putUnit_some (out start nal : List UInt8) :
    putUnit out start start.length (some (0 :: nal)) = some (out ++ (start ++ nal)) := by
  have hoffset : ((out.length : Int) + ((0 :: nal).length - 1) + start.length) =
      ((out ++ start ++ nal).length : Nat) := by
    simp only [List.length_append, List.length_cons]
    omega
  unfold putUnit
  simp only [hoffset]
  rw [if_neg (by omega), Int.toNat_natCast]
  exact congrArg some ((List.take_length).trans (List.append_assoc _ _ _))

theorem putUnit_none (out : List UInt8) {start : List UInt8} (h : 2 ≤ start.length) :
    putUnit out start start.length none = some (out ++ start.take (start.length - 2)) := by
  have hoffset : ((out.length : Int) + (-1 - 1) + start.length) =
      (out.length + (start.length - 2) : Nat) := by omega
  unfold putUnit
  simp only [hoffset]
  rw [if_neg (by omega), Int.toNat_natCast]
  show some ((out ++ start ++ []).take _) = _
  rw [List.append_nil, List.take_append, List.take_of_length_le (by omega),
    Nat.add_sub_cancel_left]

theorem StartCode.two_le {code : List UInt8} (h : StartCode code) : 2 ≤ code.length := by
  obtain rfl | rfl := h <;> decide

/-- What `writeBuffer` makes of a set. -/
theorem writeBuffer_readable {out data code nal : List UInt8} {h : H264Stream}
    (hr : Readable data code nal h) :
    writeBuffer true out ⟨true, data⟩ =
      if needsFixup h.sps then
        (writeNalUnit { h with sps := fixup h.sps } (maxSpsExtraSize + nal.length)).bind
          (putUnit out code code.length)
      else some (out ++ data) := by
  have hunit : (data.drop code.length).take (code.length + nal.length - code.length) = nal := by
    rw [hr.data_eq, List.drop_left, Nat.add_sub_cancel_left, List.take_length]
  have hcode : data.take code.length = code := by rw [hr.data_eq, List.take_left]
  have hsize : maxSpsExtraSize + data.length - code.length = maxSpsExtraSize + nal.length := by
    rw [hr.data_eq, List.length_append]
    omega
  unfold writeBuffer
  simp only [Bool.and_self, if_pos, hr.findNalUnit, hunit, hr.read, hcode, hsize]
  rfl

theorem writeBuffer_piece {entry : Entry} (out : List UInt8)
    (h : entry.isSps = true → ∃ code nal h, Readable entry.data code nal h) :
    ∃ piece, writeBuffer true out entry = some (out ++ piece) ∧ Piece entry piece := by
  obtain ⟨isSps, data⟩ := entry
  cases isSps with
  | false => exact ⟨data, rfl, .other⟩
  | true =>
      obtain ⟨code, nal, h, hr⟩ := h rfl
      rw [writeBuffer_readable hr]
      cases hneeds : needsFixup h.sps with
      | false => exact ⟨data, rfl, .kept hr hneeds⟩
      | true =>
          obtain ⟨nal', hunit⟩ := exists_fixedUnit hr.wellFormed
          rw [if_pos rfl, hunit.write, Option.bind_some]
          by_cases hroom : nal'.length < maxSpsExtraSize + nal.length
          · rw [if_pos hroom]
            exact ⟨code ++ nal', putUnit_some out code nal', .fixed hr hneeds hunit hroom⟩
          · rw [if_neg hroom]
            exact ⟨_, putUnit_none out hr.startCode.two_le, .lost hr hneeds hunit hroom⟩

theorem writeBuffers_append {entries : List Entry} (out : List UInt8)
    (h : ∀ entry ∈ entries, entry.isSps = true →
      ∃ code nal h, Readable entry.data code nal h) :
    ∃ pieces, writeBuffers true out entries = some (out ++ pieces.flatten) ∧
      List.Forall₂ Piece entries pieces := by
  induction entries generalizing out with
  | nil => exact ⟨[], by rw [List.flatten_nil, List.append_nil]; rfl, .nil⟩
  | cons entry entries ih =>
      obtain ⟨piece, hwrite, hpiece⟩ := writeBuffer_piece out (h entry List.mem_cons_self)
      obtain ⟨pieces, hrest, hpieces⟩ :=
        ih (out ++ piece) fun e he => h e (List.mem_cons_of_mem entry he)
      refine ⟨piece :: pieces, ?_, .cons hpiece hpieces⟩
      rw [writeBuffers, hwrite, List.flatten_cons, ← List.append_assoc, ← hrest]
      rfl

/-- A set grows by less than the extra size. -/
theorem Piece.length_le {entry : Entry} {piece : List UInt8} (h : Piece entry piece) :
    piece.length ≤ entry.data.length + if entry.isSps then maxSpsExtraSize else 0 := by
  cases h with
  | other => exact Nat.le_refl _
  | kept => exact Nat.le_add_right _ _
  | fixed hr hneeds hunit hroom =>
      rw [hr.data_eq, List.length_append, List.length_append, if_pos rfl]
      omega
  | lost hr hneeds hunit hroom =>
      rw [hr.data_eq, List.length_append, List.length_take]
      omega

theorem length_pieces {entries : List Entry} {pieces : List (List UInt8)}
    (h : List.Forall₂ Piece entries pieces) :
    pieces.flatten.length ≤
      fullLength entries + maxSpsExtraSize * entries.countP fun entry => entry.isSps := by
  induction h with
  | nil => exact Nat.zero_le _
  | @cons entry piece entries pieces hpiece _ ih =>
      have hle := hpiece.length_le
      rw [fullLength] at ih ⊢
      rw [List.flatten_cons, List.length_append, List.map_cons, List.sum_cons, List.countP_cons,
        Nat.mul_add]
      split at hle
      · next hsps =>
          rw [if_pos hsps]
          omega
      · next hsps =>
          rw [if_neg hsps]
          omega

/-- The bytes of a frame are those of its buffers, where each set that needs a fix-up is replaced
by the one with it. The frame grows by the extra size for each set at most: with the one set that
an IDR frame has, it leaves the padding of the reserved space free. -/
theorem writeBuffers_pieces (isIdr : Bool) {entries : List Entry}
    (h : ∀ entry ∈ entries, entry.isSps = true →
      ∃ code nal h, Readable entry.data code nal h) :
    ∃ pieces, writeBuffers true [] entries = some pieces.flatten ∧
      List.Forall₂ Piece entries pieces ∧
      pieces.flatten.length ≤
        fullLength entries + maxSpsExtraSize * entries.countP (fun entry => entry.isSps) ∧
      (entries.countP (fun entry => entry.isSps) ≤ (if isIdr then 1 else 0) →
        pieces.flatten.length + inputBufferPaddingSize ≤ reservedSize isIdr entries) := by
  obtain ⟨pieces, hwrite, hpieces⟩ := writeBuffers_append [] h
  have hlength := length_pieces hpieces
  refine ⟨pieces, hwrite, hpieces, hlength, fun hcount => ?_⟩
  have hextra : maxSpsExtraSize * entries.countP (fun entry => entry.isSps) ≤
      if isIdr then maxSpsExtraSize else 0 := by
    refine (Nat.mul_le_mul_left _ hcount).trans ?_
    split <;> simp
  rw [reservedSize, requiredBufferSize]
  omega

theorem writeBuffers_pieces_sample :
    ∃ pieces, writeBuffers true [] [⟨true, [0, 0, 0, 1] ++ sampleNal⟩, ⟨false, [0, 0, 1, 104]⟩] =
        some pieces.flatten ∧
      List.Forall₂ Piece [⟨true, [0, 0, 0, 1] ++ sampleNal⟩, ⟨false, [0, 0, 1, 104]⟩] pieces ∧
      pieces.flatten.length + 64 ≤ 107 := by
  have hreadable : ∀ entry ∈ [⟨true, [0, 0, 0, 1] ++ sampleNal⟩, ⟨false, [0, 0, 1, 104]⟩],
      Entry.isSps entry = true → ∃ code nal h, Readable entry.data code nal h := by
    intro entry hentry hsps
    obtain rfl | hentry := List.mem_cons.mp hentry
    · exact ⟨_, _, _, sampleNal_readable⟩
    · cases List.mem_singleton.mp hentry
      cases hsps
  obtain ⟨pieces, hwrite, hpieces, -, hfits⟩ := writeBuffers_pieces true hreadable
  exact ⟨pieces, hwrite, hpieces, hfits (by decide)⟩

/-! ### A second fix-up -/

theorem fixupRestriction_flag (restriction : BitstreamRestriction) :
    (fixupRestriction restriction).bitstreamRestrictionFlag ≠ 0 := by
  unfold fixupRestriction
  simp only
  split
  · decide
  · next hflag => exact hflag

theorem fixupRestriction_max (restriction : BitstreamRestriction) :
    (fixupRestriction restriction).maxDecFrameBuffering = 1 := by
  unfold fixupRestriction
  simp only
  split <;> rfl

theorem fixupRestriction_of_max {restriction : BitstreamRestriction}
    (hflag : restriction.bitstreamRestrictionFlag ≠ 0)
    (hmax : restriction.maxDecFrameBuffering = 1) : fixupRestriction restriction = restriction := by
  unfold fixupRestriction
  simp only
  rw [if_neg hflag, ← hmax]

/-- The fix-up of what is left after one changes nothing that is written. -/
theorem writtenSps_fixup_again (sps : Sps) :
    writtenSps (fixup (writtenSps (fixup sps))) = writtenSps (fixup sps) := by
  by_cases hvui : sps.vuiParametersPresentFlag ≠ 0
  · have hwritten : writtenSps (fixup sps) = fixup sps := if_pos hvui
    have hagain : fixup (fixup sps) = fixup sps := by
      show { sps with
        numRefFrames := 1
        vui := { sps.vui with
          toBitstreamRestriction :=
            fixupRestriction (fixupRestriction sps.vui.toBitstreamRestriction) } } = fixup sps
      rw [fixupRestriction_of_max (fixupRestriction_flag _) (fixupRestriction_max _)]
      rfl
    rw [hwritten, hagain, hwritten]
  · have hwritten : writtenSps (fixup sps) =
        { fixup sps with vui := {}, hrdNal := {}, hrdVcl := {} } := if_neg hvui
    rw [hwritten]
    exact if_neg hvui

/-- A unit with the fix-up is kept by a second one, and it limits the frames of the decoder exactly
if the set has usability information. -/
theorem writeBuffer_again {out data code nal nal' : List UInt8} {h : H264Stream}
    (hr : Readable data code nal h) (hunit : FixedUnit h nal') :
    writeBuffer true out ⟨true, code ++ nal'⟩ = some (out ++ (code ++ nal')) ∧
      ((readNalUnit {} nal').1.sps.vui.maxDecFrameBuffering = 1 ↔
        h.sps.vuiParametersPresentFlag ≠ 0) := by
  have hr' : Readable (code ++ nal') code nal' ⟨h.nal, writtenSps (fixup h.sps)⟩ :=
    ⟨rfl, hr.startCode, congrArg Prod.fst hunit.read, hr.wellFormed.nalRefIdc,
      hr.wellFormed.nalUnitType, writtenSps_fixup_wellFormed hr.wellFormed.sps⟩
  constructor
  · rw [writeBuffer_readable hr']
    split
    · -- The set is written as before, and the unit is as long as the one it was read from.
      have hwrite : writeNalUnit ⟨h.nal, fixup (writtenSps (fixup h.sps))⟩
          (maxSpsExtraSize + nal'.length) =
          writeNalUnit ⟨h.nal, fixup h.sps⟩ (maxSpsExtraSize + nal'.length) := by
        unfold writeNalUnit
        simp only
        rw [← writeSeqParameterSet_writtenSps (fixup (writtenSps (fixup h.sps))),
          writtenSps_fixup_again, writeSeqParameterSet_writtenSps]
      rw [hwrite, hunit.write, if_pos (Nat.lt_add_of_pos_left (by decide))]
      exact putUnit_some out code nal'
    · rfl
  · rw [hunit.read]
    show (writtenSps (fixup h.sps)).vui.maxDecFrameBuffering = 1 ↔ _
    unfold writtenSps
    split
    · next hvui => exact iff_of_true (fixupRestriction_max _) hvui
    · next hvui => exact iff_of_false (by decide : ¬ (0 : Int) = 1) hvui

theorem writeBuffer_again_sample :
    ∃ nal', writeBuffer true [] ⟨true, [0, 0, 0, 1] ++ nal'⟩ = some ([0, 0, 0, 1] ++ nal') ∧
      ((readNalUnit {} nal').1.sps.vui.maxDecFrameBuffering = 1 ↔
        sampleSps.vuiParametersPresentFlag ≠ 0) := by
  obtain ⟨nal', hunit⟩ := exists_fixedUnit sampleStream_wellFormed
  exact ⟨nal', writeBuffer_again sampleNal_readable hunit⟩

end GilStreaming.Streaming
