import GilStreaming.Streaming.BitStream
import Mathlib.Data.List.Basic

/-!
# GilStreaming.Streaming.SequenceParameters

The sequence parameter set of a stream: `h264bitstream/h264_stream.c`.

A field is an `int` and zero while it is not read. The fields that are read together under a flag
are a structure of their own, which the whole extends. Of an array there are the entries that are
read.
-/

namespace GilStreaming.Streaming

open Bs BitTape

/-! ### The fields -/

/-- An entry of the arrays of `hrd_t`. -/
structure SchedSel where
  bitRateValueMinus1 : Int := 0
  cpbSizeValueMinus1 : Int := 0
  cbrFlag : Int := 0
  deriving DecidableEq, Repr

/-- `hrd_t`. -/
structure Hrd where
  cpbCntMinus1 : Int := 0
  bitRateScale : Int := 0
  cpbSizeScale : Int := 0
  schedSel : List SchedSel := []
  initialCpbRemovalDelayLengthMinus1 : Int := 0
  cpbRemovalDelayLengthMinus1 : Int := 0
  dpbOutputDelayLengthMinus1 : Int := 0
  timeOffsetLength : Int := 0
  deriving DecidableEq, Repr

structure AspectRatioInfo where
  aspectRatioInfoPresentFlag : Int := 0
  aspectRatioIdc : Int := 0
  sarWidth : Int := 0
  sarHeight : Int := 0
  deriving DecidableEq, Repr

structure OverscanInfo where
  overscanInfoPresentFlag : Int := 0
  overscanAppropriateFlag : Int := 0
  deriving DecidableEq, Repr

structure VideoSignalType where
  videoSignalTypePresentFlag : Int := 0
  videoFormat : Int := 0
  videoFullRangeFlag : Int := 0
  colourDescriptionPresentFlag : Int := 0
  colourPrimaries : Int := 0
  transferCharacteristics : Int := 0
  matrixCoefficients : Int := 0
  deriving DecidableEq, Repr

structure ChromaLocInfo where
  chromaLocInfoPresentFlag : Int := 0
  chromaSampleLocTypeTopField : Int := 0
  chromaSampleLocTypeBottomField : Int := 0
  deriving DecidableEq, Repr

structure TimingInfo where
  timingInfoPresentFlag : Int := 0
  numUnitsInTick : Int := 0
  timeScale : Int := 0
  fixedFrameRateFlag : Int := 0
  deriving DecidableEq, Repr

structure HrdFlags where
  nalHrdParametersPresentFlag : Int := 0
  vclHrdParametersPresentFlag : Int := 0
  lowDelayHrdFlag : Int := 0
  deriving DecidableEq, Repr

structure BitstreamRestriction where
  bitstreamRestrictionFlag : Int := 0
  motionVectorsOverPicBoundariesFlag : Int := 0
  maxBytesPerPicDenom : Int := 0
  maxBitsPerMbDenom : Int := 0
  log2MaxMvLengthHorizontal : Int := 0
  log2MaxMvLengthVertical : Int := 0
  numReorderFrames : Int := 0
  maxDecFrameBuffering : Int := 0
  deriving DecidableEq, Repr

/-- `vui` of `sps_t`. -/
structure Vui extends AspectRatioInfo, OverscanInfo, VideoSignalType, ChromaLocInfo, TimingInfo,
    HrdFlags, BitstreamRestriction where
  picStructPresentFlag : Int := 0
  deriving DecidableEq, Repr

/-- An entry of the arrays for the scaling lists. -/
structure ScalingList where
  seqScalingListPresentFlag : Int := 0
  scalingList : List Int := []
  useDefaultScalingMatrixFlag : Int := 0
  deriving DecidableEq, Repr

/-- What the high profiles have. The chroma format is set before it is read. -/
structure HighProfile where
  chromaFormatIdc : Int := 1
  residualColourTransformFlag : Int := 0
  bitDepthLumaMinus8 : Int := 0
  bitDepthChromaMinus8 : Int := 0
  qpprimeYZeroTransformBypassFlag : Int := 0
  seqScalingMatrixPresentFlag : Int := 0
  scalingLists : List ScalingList := []
  deriving DecidableEq, Repr

structure PicOrderCnt where
  picOrderCntType : Int := 0
  log2MaxPicOrderCntLsbMinus4 : Int := 0
  deltaPicOrderAlwaysZeroFlag : Int := 0
  offsetForNonRefPic : Int := 0
  offsetForTopToBottomField : Int := 0
  numRefFramesInPicOrderCntCycle : Int := 0
  offsetForRefFrame : List Int := []
  deriving DecidableEq, Repr

structure FrameCropping where
  frameCroppingFlag : Int := 0
  frameCropLeftOffset : Int := 0
  frameCropRightOffset : Int := 0
  frameCropTopOffset : Int := 0
  frameCropBottomOffset : Int := 0
  deriving DecidableEq, Repr

/-- `sps_t`. -/
structure Sps extends HighProfile, PicOrderCnt, FrameCropping where
  profileIdc : Int := 0
  constraintSet0Flag : Int := 0
  constraintSet1Flag : Int := 0
  constraintSet2Flag : Int := 0
  constraintSet3Flag : Int := 0
  constraintSet4Flag : Int := 0
  constraintSet5Flag : Int := 0
  levelIdc : Int := 0
  seqParameterSetId : Int := 0
  log2MaxFrameNumMinus4 : Int := 0
  numRefFrames : Int := 0
  gapsInFrameNumValueAllowedFlag : Int := 0
  picWidthInMbsMinus1 : Int := 0
  picHeightInMapUnitsMinus1 : Int := 0
  frameMbsOnlyFlag : Int := 0
  mbAdaptiveFrameFieldFlag : Int := 0
  direct8x8InferenceFlag : Int := 0
  vuiParametersPresentFlag : Int := 0
  vui : Vui := {}
  hrdNal : Hrd := {}
  hrdVcl : Hrd := {}
  deriving DecidableEq, Repr

/-! ### Reading -/

/-- The loop of `read_scaling_list`, with the number of entries to go and whether an entry was
read. -/
def readScalingFrom : Nat → Bool → Int → Int → Int → StateM Bs (List Int × Int)
  | 0, _, _, _, flag => pure ([], flag)
  | n + 1, later, lastScale, nextScale, flag => do
      let next ← readIf (nextScale ≠ 0) (nextScale, flag) do
        let deltaScale ← readSe
        let nextScale := (lastScale + deltaScale + 256).tmod 256
        return (nextScale, if later = false ∧ nextScale = 0 then 1 else 0)
      let scale := if next.1 = 0 then lastScale else next.1
      let rest ← readScalingFrom n true scale next.1 next.2
      return (scale :: rest.1, rest.2)

/-- `read_scaling_list`. -/
def readScalingList (size : Nat) : StateM Bs (List Int × Int) := readScalingFrom size false 8 8 0

/-- The entries of a scaling list. -/
def scalingSize (i : Nat) : Nat := if i < 6 then 16 else 64

def readScalingEntry (i : Nat) : StateM Bs ScalingList := do
  let present ← asInt readU1
  let list ← readIf (present ≠ 0) ([], 0) (readScalingList (scalingSize i))
  return ⟨present, list.1, list.2⟩

def scalingCount (chromaFormatIdc : Int) : Nat := if chromaFormatIdc ≠ 3 then 8 else 12

def isHighProfile (profileIdc : Int) : Bool :=
  [100, 110, 122, 244, 44, 83, 86, 118, 128, 138, 139, 134].contains profileIdc

def readHighProfile : StateM Bs HighProfile := do
  let chromaFormatIdc ← asInt readUe
  let residualColourTransformFlag ← readIf (chromaFormatIdc = 3) 0 (asInt readU1)
  let bitDepthLumaMinus8 ← asInt readUe
  let bitDepthChromaMinus8 ← asInt readUe
  let qpprimeYZeroTransformBypassFlag ← asInt readU1
  let seqScalingMatrixPresentFlag ← asInt readU1
  let scalingLists ← readIf (seqScalingMatrixPresentFlag ≠ 0) []
    (readEach readScalingEntry (List.range (scalingCount chromaFormatIdc)))
  return ⟨chromaFormatIdc, residualColourTransformFlag, bitDepthLumaMinus8, bitDepthChromaMinus8,
    qpprimeYZeroTransformBypassFlag, seqScalingMatrixPresentFlag, scalingLists⟩

def readPicOrderCnt : StateM Bs PicOrderCnt := do
  let picOrderCntType ← asInt readUe
  let log2MaxPicOrderCntLsbMinus4 ← readIf (picOrderCntType = 0) 0 (asInt readUe)
  let cycle ← readIf (picOrderCntType = 1) (0, 0, 0, 0, []) do
    let deltaPicOrderAlwaysZeroFlag ← asInt readU1
    let offsetForNonRefPic ← readSe
    let offsetForTopToBottomField ← readSe
    let count ← asInt readUe
    let count := if 256 < count then 256 else count
    let offsets ← readEach (fun _ => readSe) (List.range count.toNat)
    return (deltaPicOrderAlwaysZeroFlag, offsetForNonRefPic, offsetForTopToBottomField, count,
      offsets)
  return ⟨picOrderCntType, log2MaxPicOrderCntLsbMinus4, cycle.1, cycle.2.1, cycle.2.2.1,
    cycle.2.2.2.1, cycle.2.2.2.2⟩

def readFrameCropping : StateM Bs FrameCropping := do
  let frameCroppingFlag ← asInt readU1
  let offsets ← readIf (frameCroppingFlag ≠ 0) (0, 0, 0, 0) do
    let left ← asInt readUe
    let right ← asInt readUe
    let top ← asInt readUe
    let bottom ← asInt readUe
    return (left, right, top, bottom)
  return ⟨frameCroppingFlag, offsets.1, offsets.2.1, offsets.2.2.1, offsets.2.2.2⟩

def readSchedSel : StateM Bs SchedSel := do
  let bitRateValueMinus1 ← asInt readUe
  let cpbSizeValueMinus1 ← asInt readUe
  let cbrFlag ← asInt readU1
  return ⟨bitRateValueMinus1, cpbSizeValueMinus1, cbrFlag⟩

/-- `read_hrd_parameters`. -/
def readHrdParameters : StateM Bs Hrd := do
  let count ← asInt readUe
  let cpbCntMinus1 := if 31 < count then 31 else count
  let bitRateScale ← asInt (readU 4)
  let cpbSizeScale ← asInt (readU 4)
  let schedSel ← readEach (fun _ => readSchedSel) (List.range (cpbCntMinus1 + 1).toNat)
  let initialCpbRemovalDelayLengthMinus1 ← asInt (readU 5)
  let cpbRemovalDelayLengthMinus1 ← asInt (readU 5)
  let dpbOutputDelayLengthMinus1 ← asInt (readU 5)
  let timeOffsetLength ← asInt (readU 5)
  return ⟨cpbCntMinus1, bitRateScale, cpbSizeScale, schedSel, initialCpbRemovalDelayLengthMinus1,
    cpbRemovalDelayLengthMinus1, dpbOutputDelayLengthMinus1, timeOffsetLength⟩

def readAspectRatioInfo : StateM Bs AspectRatioInfo := do
  let aspectRatioInfoPresentFlag ← asInt readU1
  let info ← readIf (aspectRatioInfoPresentFlag ≠ 0) (0, 0, 0) do
    let aspectRatioIdc ← asInt readU8
    -- `SAR_Extended`.
    let sar ← readIf (aspectRatioIdc = 255) (0, 0) do
      let sarWidth ← asInt (readU 16)
      let sarHeight ← asInt (readU 16)
      return (sarWidth, sarHeight)
    return (aspectRatioIdc, sar)
  return ⟨aspectRatioInfoPresentFlag, info.1, info.2.1, info.2.2⟩

def readOverscanInfo : StateM Bs OverscanInfo := do
  let overscanInfoPresentFlag ← asInt readU1
  let overscanAppropriateFlag ← readIf (overscanInfoPresentFlag ≠ 0) 0 (asInt readU1)
  return ⟨overscanInfoPresentFlag, overscanAppropriateFlag⟩

def readVideoSignalType : StateM Bs VideoSignalType := do
  let videoSignalTypePresentFlag ← asInt readU1
  let signal ← readIf (videoSignalTypePresentFlag ≠ 0) (0, 0, 0, 0, 0, 0) do
    let videoFormat ← asInt (readU 3)
    let videoFullRangeFlag ← asInt readU1
    let colourDescriptionPresentFlag ← asInt readU1
    let colour ← readIf (colourDescriptionPresentFlag ≠ 0) (0, 0, 0) do
      let colourPrimaries ← asInt readU8
      let transferCharacteristics ← asInt readU8
      let matrixCoefficients ← asInt readU8
      return (colourPrimaries, transferCharacteristics, matrixCoefficients)
    return (videoFormat, videoFullRangeFlag, colourDescriptionPresentFlag, colour)
  return ⟨videoSignalTypePresentFlag, signal.1, signal.2.1, signal.2.2.1, signal.2.2.2.1,
    signal.2.2.2.2.1, signal.2.2.2.2.2⟩

def readChromaLocInfo : StateM Bs ChromaLocInfo := do
  let chromaLocInfoPresentFlag ← asInt readU1
  let fields ← readIf (chromaLocInfoPresentFlag ≠ 0) (0, 0) do
    let top ← asInt readUe
    let bottom ← asInt readUe
    return (top, bottom)
  return ⟨chromaLocInfoPresentFlag, fields.1, fields.2⟩

def readTimingInfo : StateM Bs TimingInfo := do
  let timingInfoPresentFlag ← asInt readU1
  let timing ← readIf (timingInfoPresentFlag ≠ 0) (0, 0, 0) do
    let numUnitsInTick ← asInt (readU 32)
    let timeScale ← asInt (readU 32)
    let fixedFrameRateFlag ← asInt readU1
    return (numUnitsInTick, timeScale, fixedFrameRateFlag)
  return ⟨timingInfoPresentFlag, timing.1, timing.2.1, timing.2.2⟩

/-- The part of `read_vui_parameters` with the two `hrd_t` of an `sps_t`. -/
def readHrds : StateM Bs (HrdFlags × Hrd × Hrd) := do
  let nalHrdParametersPresentFlag ← asInt readU1
  let hrdNal ← readIf (nalHrdParametersPresentFlag ≠ 0) {} readHrdParameters
  let vclHrdParametersPresentFlag ← asInt readU1
  let hrdVcl ← readIf (vclHrdParametersPresentFlag ≠ 0) {} readHrdParameters
  let lowDelayHrdFlag ← readIf (nalHrdParametersPresentFlag ≠ 0 ∨ vclHrdParametersPresentFlag ≠ 0) 0
    (asInt readU1)
  return (⟨nalHrdParametersPresentFlag, vclHrdParametersPresentFlag, lowDelayHrdFlag⟩, hrdNal,
    hrdVcl)

def readBitstreamRestriction : StateM Bs BitstreamRestriction := do
  let bitstreamRestrictionFlag ← asInt readU1
  let limits : BitstreamRestriction ← readIf (bitstreamRestrictionFlag ≠ 0) {} do
    let motionVectorsOverPicBoundariesFlag ← asInt readU1
    let maxBytesPerPicDenom ← asInt readUe
    let maxBitsPerMbDenom ← asInt readUe
    let log2MaxMvLengthHorizontal ← asInt readUe
    let log2MaxMvLengthVertical ← asInt readUe
    let numReorderFrames ← asInt readUe
    let maxDecFrameBuffering ← asInt readUe
    return ⟨bitstreamRestrictionFlag, motionVectorsOverPicBoundariesFlag, maxBytesPerPicDenom,
      maxBitsPerMbDenom, log2MaxMvLengthHorizontal, log2MaxMvLengthVertical, numReorderFrames,
      maxDecFrameBuffering⟩
  return { limits with bitstreamRestrictionFlag }

/-- `read_vui_parameters`. -/
def readVuiParameters : StateM Bs (Vui × Hrd × Hrd) := do
  let aspectRatioInfo ← readAspectRatioInfo
  let overscanInfo ← readOverscanInfo
  let videoSignalType ← readVideoSignalType
  let chromaLocInfo ← readChromaLocInfo
  let timingInfo ← readTimingInfo
  let hrds ← readHrds
  let picStructPresentFlag ← asInt readU1
  let bitstreamRestriction ← readBitstreamRestriction
  return (⟨aspectRatioInfo, overscanInfo, videoSignalType, chromaLocInfo, timingInfo, hrds.1,
    bitstreamRestriction, picStructPresentFlag⟩, hrds.2)

/-- `read_seq_parameter_set_rbsp`. -/
def readSeqParameterSet : StateM Bs Sps := do
  let profileIdc ← asInt readU8
  let constraintSet0Flag ← asInt readU1
  let constraintSet1Flag ← asInt readU1
  let constraintSet2Flag ← asInt readU1
  let constraintSet3Flag ← asInt readU1
  let constraintSet4Flag ← asInt readU1
  let constraintSet5Flag ← asInt readU1
  skipU 2
  let levelIdc ← asInt readU8
  let seqParameterSetId ← asInt readUe
  let highProfile ← readIf (isHighProfile profileIdc) {} readHighProfile
  let log2MaxFrameNumMinus4 ← asInt readUe
  let picOrderCnt ← readPicOrderCnt
  let numRefFrames ← asInt readUe
  let gapsInFrameNumValueAllowedFlag ← asInt readU1
  let picWidthInMbsMinus1 ← asInt readUe
  let picHeightInMapUnitsMinus1 ← asInt readUe
  let frameMbsOnlyFlag ← asInt readU1
  let mbAdaptiveFrameFieldFlag ← readIf (frameMbsOnlyFlag = 0) 0 (asInt readU1)
  let direct8x8InferenceFlag ← asInt readU1
  let frameCropping ← readFrameCropping
  let vuiParametersPresentFlag ← asInt readU1
  let vui ← readIf (vuiParametersPresentFlag ≠ 0) ({}, {}, {}) readVuiParameters
  return ⟨highProfile, picOrderCnt, frameCropping, profileIdc, constraintSet0Flag,
    constraintSet1Flag, constraintSet2Flag, constraintSet3Flag, constraintSet4Flag,
    constraintSet5Flag, levelIdc, seqParameterSetId, log2MaxFrameNumMinus4, numRefFrames,
    gapsInFrameNumValueAllowedFlag, picWidthInMbsMinus1, picHeightInMapUnitsMinus1,
    frameMbsOnlyFlag, mbAdaptiveFrameFieldFlag, direct8x8InferenceFlag, vuiParametersPresentFlag,
    vui.1, vui.2.1, vui.2.2⟩

/-! ### Writing -/

/-- The loop of `write_scaling_list`, with the entries to go and whether one was written. -/
def writeScalingFrom (flag : Int) : Bool → Int → Int → List Int → Writer
  | _, _, _, [] => pure ⟨⟩
  | later, lastScale, nextScale, scale :: rest =>
      if nextScale ≠ 0 then do
        let nextScale :=
          if flag ≠ 0 then 0
          else if later && scale = lastScale && rest.all (· = lastScale) then 0
          else scale
        let deltaScale := nextScale - lastScale
        writeSe (if deltaScale < -128 then deltaScale + 256
          else if 127 < deltaScale then deltaScale - 256
          else deltaScale)
        writeScalingFrom flag true scale nextScale rest
      else writeScalingFrom flag true scale nextScale rest

/-- An array, of which the entries that were not read are zero. -/
def entries (xs : List Int) (n : Nat) : List Int := (List.range n).map fun i => xs.getD i 0

/-- `write_scaling_list`. -/
def writeScalingList (size : Nat) (list : ScalingList) : Writer :=
  writeScalingFrom list.useDefaultScalingMatrixFlag false 8 8 (entries list.scalingList size)

def writeScalingEntry (lists : List ScalingList) (i : Nat) : Writer := do
  let list := lists.getD i {}
  writeU1 (toUInt list.seqScalingListPresentFlag)
  writeIf (list.seqScalingListPresentFlag ≠ 0) (writeScalingList (scalingSize i) list)

def writeHighProfile (high : HighProfile) : Writer := do
  writeUe (toUInt high.chromaFormatIdc)
  writeIf (high.chromaFormatIdc = 3) (writeU1 (toUInt high.residualColourTransformFlag))
  writeUe (toUInt high.bitDepthLumaMinus8)
  writeUe (toUInt high.bitDepthChromaMinus8)
  writeU1 (toUInt high.qpprimeYZeroTransformBypassFlag)
  writeU1 (toUInt high.seqScalingMatrixPresentFlag)
  writeIf (high.seqScalingMatrixPresentFlag ≠ 0)
    (writeEach (writeScalingEntry high.scalingLists)
      (List.range (scalingCount high.chromaFormatIdc)))

def writePicOrderCnt (poc : PicOrderCnt) : Writer := do
  writeUe (toUInt poc.picOrderCntType)
  writeIf (poc.picOrderCntType = 0) (writeUe (toUInt poc.log2MaxPicOrderCntLsbMinus4))
  writeIf (poc.picOrderCntType = 1) do
    writeU1 (toUInt poc.deltaPicOrderAlwaysZeroFlag)
    writeSe poc.offsetForNonRefPic
    writeSe poc.offsetForTopToBottomField
    writeUe (toUInt poc.numRefFramesInPicOrderCntCycle)
    writeEach (fun i => writeSe (poc.offsetForRefFrame.getD i 0))
      (List.range poc.numRefFramesInPicOrderCntCycle.toNat)

def writeFrameCropping (crop : FrameCropping) : Writer := do
  writeU1 (toUInt crop.frameCroppingFlag)
  writeIf (crop.frameCroppingFlag ≠ 0) do
    writeUe (toUInt crop.frameCropLeftOffset)
    writeUe (toUInt crop.frameCropRightOffset)
    writeUe (toUInt crop.frameCropTopOffset)
    writeUe (toUInt crop.frameCropBottomOffset)

def writeSchedSel (entry : SchedSel) : Writer := do
  writeUe (toUInt entry.bitRateValueMinus1)
  writeUe (toUInt entry.cpbSizeValueMinus1)
  writeU1 (toUInt entry.cbrFlag)

/-- `write_hrd_parameters`. -/
def writeHrdParameters (hrd : Hrd) : Writer := do
  writeUe (toUInt hrd.cpbCntMinus1)
  writeU 4 (toUInt hrd.bitRateScale)
  writeU 4 (toUInt hrd.cpbSizeScale)
  writeEach (fun i => writeSchedSel (hrd.schedSel.getD i {}))
    (List.range (hrd.cpbCntMinus1 + 1).toNat)
  writeU 5 (toUInt hrd.initialCpbRemovalDelayLengthMinus1)
  writeU 5 (toUInt hrd.cpbRemovalDelayLengthMinus1)
  writeU 5 (toUInt hrd.dpbOutputDelayLengthMinus1)
  writeU 5 (toUInt hrd.timeOffsetLength)

def writeAspectRatioInfo (info : AspectRatioInfo) : Writer := do
  writeU1 (toUInt info.aspectRatioInfoPresentFlag)
  writeIf (info.aspectRatioInfoPresentFlag ≠ 0) do
    writeU8 (toUInt info.aspectRatioIdc)
    writeIf (info.aspectRatioIdc = 255) do
      writeU 16 (toUInt info.sarWidth)
      writeU 16 (toUInt info.sarHeight)

def writeOverscanInfo (info : OverscanInfo) : Writer := do
  writeU1 (toUInt info.overscanInfoPresentFlag)
  writeIf (info.overscanInfoPresentFlag ≠ 0) (writeU1 (toUInt info.overscanAppropriateFlag))

def writeVideoSignalType (signal : VideoSignalType) : Writer := do
  writeU1 (toUInt signal.videoSignalTypePresentFlag)
  writeIf (signal.videoSignalTypePresentFlag ≠ 0) do
    writeU 3 (toUInt signal.videoFormat)
    writeU1 (toUInt signal.videoFullRangeFlag)
    writeU1 (toUInt signal.colourDescriptionPresentFlag)
    writeIf (signal.colourDescriptionPresentFlag ≠ 0) do
      writeU8 (toUInt signal.colourPrimaries)
      writeU8 (toUInt signal.transferCharacteristics)
      writeU8 (toUInt signal.matrixCoefficients)

def writeChromaLocInfo (info : ChromaLocInfo) : Writer := do
  writeU1 (toUInt info.chromaLocInfoPresentFlag)
  writeIf (info.chromaLocInfoPresentFlag ≠ 0) do
    writeUe (toUInt info.chromaSampleLocTypeTopField)
    writeUe (toUInt info.chromaSampleLocTypeBottomField)

def writeTimingInfo (timing : TimingInfo) : Writer := do
  writeU1 (toUInt timing.timingInfoPresentFlag)
  writeIf (timing.timingInfoPresentFlag ≠ 0) do
    writeU 32 (toUInt timing.numUnitsInTick)
    writeU 32 (toUInt timing.timeScale)
    writeU1 (toUInt timing.fixedFrameRateFlag)

/-- The part of `write_vui_parameters` with the two `hrd_t` of an `sps_t`. -/
def writeHrds (flags : HrdFlags) (hrdNal hrdVcl : Hrd) : Writer := do
  writeU1 (toUInt flags.nalHrdParametersPresentFlag)
  writeIf (flags.nalHrdParametersPresentFlag ≠ 0) (writeHrdParameters hrdNal)
  writeU1 (toUInt flags.vclHrdParametersPresentFlag)
  writeIf (flags.vclHrdParametersPresentFlag ≠ 0) (writeHrdParameters hrdVcl)
  writeIf (flags.nalHrdParametersPresentFlag ≠ 0 ∨ flags.vclHrdParametersPresentFlag ≠ 0)
    (writeU1 (toUInt flags.lowDelayHrdFlag))

def writeBitstreamRestriction (restriction : BitstreamRestriction) : Writer := do
  writeU1 (toUInt restriction.bitstreamRestrictionFlag)
  writeIf (restriction.bitstreamRestrictionFlag ≠ 0) do
    writeU1 (toUInt restriction.motionVectorsOverPicBoundariesFlag)
    writeUe (toUInt restriction.maxBytesPerPicDenom)
    writeUe (toUInt restriction.maxBitsPerMbDenom)
    writeUe (toUInt restriction.log2MaxMvLengthHorizontal)
    writeUe (toUInt restriction.log2MaxMvLengthVertical)
    writeUe (toUInt restriction.numReorderFrames)
    writeUe (toUInt restriction.maxDecFrameBuffering)

/-- `write_vui_parameters`. -/
def writeVuiParameters (vui : Vui) (hrdNal hrdVcl : Hrd) : Writer := do
  writeAspectRatioInfo vui.toAspectRatioInfo
  writeOverscanInfo vui.toOverscanInfo
  writeVideoSignalType vui.toVideoSignalType
  writeChromaLocInfo vui.toChromaLocInfo
  writeTimingInfo vui.toTimingInfo
  writeHrds vui.toHrdFlags hrdNal hrdVcl
  writeU1 (toUInt vui.picStructPresentFlag)
  writeBitstreamRestriction vui.toBitstreamRestriction

/-- `write_seq_parameter_set_rbsp`. -/
def writeSeqParameterSet (sps : Sps) : Writer := do
  writeU8 (toUInt sps.profileIdc)
  writeU1 (toUInt sps.constraintSet0Flag)
  writeU1 (toUInt sps.constraintSet1Flag)
  writeU1 (toUInt sps.constraintSet2Flag)
  writeU1 (toUInt sps.constraintSet3Flag)
  writeU1 (toUInt sps.constraintSet4Flag)
  writeU1 (toUInt sps.constraintSet5Flag)
  writeU 2 0
  writeU8 (toUInt sps.levelIdc)
  writeUe (toUInt sps.seqParameterSetId)
  writeIf (isHighProfile sps.profileIdc) (writeHighProfile sps.toHighProfile)
  writeUe (toUInt sps.log2MaxFrameNumMinus4)
  writePicOrderCnt sps.toPicOrderCnt
  writeUe (toUInt sps.numRefFrames)
  writeU1 (toUInt sps.gapsInFrameNumValueAllowedFlag)
  writeUe (toUInt sps.picWidthInMbsMinus1)
  writeUe (toUInt sps.picHeightInMapUnitsMinus1)
  writeU1 (toUInt sps.frameMbsOnlyFlag)
  writeIf (sps.frameMbsOnlyFlag = 0) (writeU1 (toUInt sps.mbAdaptiveFrameFieldFlag))
  writeU1 (toUInt sps.direct8x8InferenceFlag)
  writeFrameCropping sps.toFrameCropping
  writeU1 (toUInt sps.vuiParametersPresentFlag)
  writeIf (sps.vuiParametersPresentFlag ≠ 0) (writeVuiParameters sps.vui sps.hrdNal sps.hrdVcl)

/-! ### Arrays -/

theorem map_getD_range {α : Type} (xs : List α) (d : α) :
    (List.range xs.length).map (fun i => xs.getD i d) = xs := by
  refine List.ext_getElem (by simp) fun i h h' => ?_
  simp [List.getElem?_eq_getElem h']

theorem codes_array {α : Type} {r : Nat → StateM Bs α} {w : Nat → Writer} {xs : List α} {d : α}
    {n : Nat} (hn : xs.length = n) (h : ∀ i < n, tape.Codes (r i) (w i) (xs.getD i d)) :
    tape.Codes (readEach r (List.range n)) (writeEach w (List.range n)) xs := by
  have heach := Codes.each (f := fun i => xs.getD i d) fun i hi => h i (List.mem_range.mp hi)
  rwa [← hn, map_getD_range, hn] at heach

theorem getD_mem {α : Type} {xs : List α} {i : Nat} (h : i < xs.length) (d : α) :
    xs.getD i d ∈ xs := by
  rw [List.getD_eq_getElem?_getD, List.getElem?_eq_getElem h]
  exact List.getElem_mem h

/-! ### Scaling lists -/

theorem readScalingFrom_repeat (n : Nat) (later : Bool) (lastScale flag : Int) :
    readScalingFrom (n + 1) later lastScale 0 flag =
      (readScalingFrom n true lastScale 0 flag >>= fun rest =>
        pure (lastScale :: rest.1, rest.2)) := rfl

/-- What a step of `read_scaling_list` makes of the number that it reads. -/
def nextScaleOf (lastScale deltaScale : Int) : Int := (lastScale + deltaScale + 256).tmod 256

theorem readScalingFrom_step (n : Nat) (later : Bool) {lastScale nextScale flag : Int}
    (h : nextScale ≠ 0) :
    readScalingFrom (n + 1) later lastScale nextScale flag =
      (readSe >>= fun deltaScale =>
        let next := nextScaleOf lastScale deltaScale
        readScalingFrom n true (if next = 0 then lastScale else next) next
            (if later = false ∧ next = 0 then 1 else 0) >>= fun rest =>
          pure ((if next = 0 then lastScale else next) :: rest.1, rest.2)) := by
  rw [readScalingFrom, readIf, if_pos h]
  rfl

/-- The difference that is written for the next scale. -/
def deltaScaleOf (lastScale nextScale : Int) : Int :=
  if nextScale - lastScale < -128 then nextScale - lastScale + 256
  else if 127 < nextScale - lastScale then nextScale - lastScale - 256
  else nextScale - lastScale

theorem nextScaleOf_deltaScaleOf {lastScale nextScale : Int} (hlast : 0 < lastScale)
    (hlast' : lastScale < 256) (hnext : 0 ≤ nextScale) (hnext' : nextScale < 256) :
    nextScaleOf lastScale (deltaScaleOf lastScale nextScale) = nextScale := by
  unfold nextScaleOf deltaScaleOf
  rw [Int.tmod_eq_emod_of_nonneg (by split_ifs <;> omega)]
  split_ifs <;> omega

theorem codes_deltaScale {lastScale nextScale : Int} (hlast : 0 < lastScale)
    (hlast' : lastScale < 256) (hnext : 0 ≤ nextScale) (hnext' : nextScale < 256) :
    tape.Codes readSe (writeSe (deltaScaleOf lastScale nextScale))
      (deltaScaleOf lastScale nextScale) := by
  refine codes_se ?_ ?_
  all_goals unfold deltaScaleOf; split_ifs <;> omega

/-- One step of both loops, with the scale that is written. -/
theorem codes_scaling_step {n : Nat} (later : Bool) {lastScale nextScale next : Int}
    (flag : Int) {flag' : Int} {scales : List Int} {w : Writer} (h : nextScale ≠ 0)
    (hlast : 0 < lastScale) (hlast' : lastScale < 256) (hnext : 0 ≤ next) (hnext' : next < 256)
    (hrest : tape.Codes (readScalingFrom n true (if next = 0 then lastScale else next) next
      (if later = false ∧ next = 0 then 1 else 0)) w (scales, flag')) :
    tape.Codes (readScalingFrom (n + 1) later lastScale nextScale flag)
      (writeSe (deltaScaleOf lastScale next) >>= fun _ => w)
      ((if next = 0 then lastScale else next) :: scales, flag') := by
  rw [readScalingFrom_step n later h]
  refine (codes_deltaScale hlast hlast' hnext hnext').bind ?_
  rw [nextScaleOf_deltaScaleOf hlast hlast' hnext hnext']
  exact hrest.bindPure fun rest : List Int × Int => (_ :: rest.1, rest.2)

/-- Once a scale is repeated to the end nothing is written. -/
theorem codes_scaling_repeat (later : Bool) (flag flag' : Int) {lastScale : Int}
    {scales : List Int} (h : ∀ scale ∈ scales, scale = lastScale) :
    tape.Codes (readScalingFrom scales.length later lastScale 0 flag)
      (writeScalingFrom flag' later lastScale 0 scales) (scales, flag) := by
  induction scales generalizing later with
  | nil => exact Codes.pure _
  | cons scale rest ih =>
      cases h scale List.mem_cons_self
      rw [List.length_cons, readScalingFrom_repeat]
      exact (ih true fun s hs => h s (List.mem_cons_of_mem _ hs)).bindPure
        fun rest : List Int × Int => (lastScale :: rest.1, rest.2)

/-- The scale that a step of `write_scaling_list` writes, where zero stands for no more scales. -/
def writtenScale (flag : Int) (later : Bool) (lastScale scale : Int) (rest : List Int) : Int :=
  if flag ≠ 0 then 0
  else if later && scale = lastScale && rest.all (· = lastScale) then 0
  else scale

theorem writeScalingFrom_step (flag : Int) (later : Bool) {lastScale nextScale : Int}
    (scale : Int) (rest : List Int) (h : nextScale ≠ 0) :
    writeScalingFrom flag later lastScale nextScale (scale :: rest) =
      (writeSe (deltaScaleOf lastScale (writtenScale flag later lastScale scale rest)) >>= fun _ =>
        writeScalingFrom flag true scale (writtenScale flag later lastScale scale rest) rest) := by
  rw [writeScalingFrom, if_pos h]
  rfl

/-- The scales are written one by one until they repeat. -/
theorem codes_scaling {lastScale nextScale : Int} {scales : List Int} {later : Bool}
    (hnext : nextScale ≠ 0) (hlast : 0 < lastScale) (hlast' : lastScale < 256)
    (h : ∀ scale ∈ scales, 0 < scale ∧ scale < 256) :
    tape.Codes (readScalingFrom scales.length later lastScale nextScale 0)
      (writeScalingFrom 0 later lastScale nextScale scales) (scales, 0) := by
  induction scales generalizing later lastScale nextScale with
  | nil => exact Codes.pure _
  | cons scale rest ih =>
      obtain ⟨hscale, hscale'⟩ := h scale List.mem_cons_self
      rw [List.length_cons, writeScalingFrom_step 0 later scale rest hnext]
      by_cases hrepeat : (later && scale = lastScale && rest.all (· = lastScale)) = true
      · have hwritten : writtenScale 0 later lastScale scale rest = 0 :=
          (if_neg (not_not.mpr rfl)).trans (if_pos hrepeat)
        simp only [Bool.and_eq_true, decide_eq_true_eq, List.all_eq_true] at hrepeat
        obtain ⟨⟨rfl, rfl⟩, hall⟩ := hrepeat
        rw [hwritten]
        exact codes_scaling_step true 0 hnext hlast hlast' (Int.le_refl 0) (by decide)
          (codes_scaling_repeat true 0 0 hall)
      · have hwritten : writtenScale 0 later lastScale scale rest = scale :=
          (if_neg (not_not.mpr rfl)).trans (if_neg hrepeat)
        rw [hwritten]
        have hne : scale ≠ 0 := Int.ne_of_gt hscale
        have hrest : tape.Codes (readScalingFrom rest.length true scale scale 0)
            (writeScalingFrom 0 true scale scale rest) (rest, 0) :=
          ih hne hscale hscale' fun s hs => h s (List.mem_cons_of_mem _ hs)
        have hscale₀ : (if scale = 0 then lastScale else scale) = scale := if_neg hne
        have hflag : (if later = false ∧ scale = 0 then (1 : Int) else 0) = 0 :=
          if_neg fun h => hne h.2
        have hstep := codes_scaling_step later 0 hnext hlast hlast' (Int.le_of_lt hscale) hscale'
          (by rw [hscale₀, hflag]; exact hrest)
        rwa [hscale₀] at hstep

/-- The default matrix is written as a single difference. -/
theorem codes_scaling_default {flag : Int} (hflag : flag ≠ 0) {size : Nat} (hsize : 0 < size) :
    tape.Codes (readScalingList size)
      (writeScalingFrom flag false 8 8 (List.replicate size 8)) (List.replicate size 8, 1) := by
  obtain ⟨n, rfl⟩ := Nat.exists_eq_succ_of_ne_zero hsize.ne'
  have hwritten : writtenScale flag false 8 8 (List.replicate n 8) = 0 := if_pos hflag
  rw [List.replicate_succ, writeScalingFrom_step flag false 8 _ (by decide), hwritten]
  refine codes_scaling_step false 0 (by decide) (by decide) (by decide) (Int.le_refl 0) (by decide)
    ?_
  have hrepeat := codes_scaling_repeat true 1 flag fun s (hs : s ∈ List.replicate n (8 : Int)) =>
    List.eq_of_mem_replicate hs
  rwa [List.length_replicate] at hrepeat

/-- A list that is read: its scales, or the default one. -/
structure ScalingList.WellFormed (list : ScalingList) (size : Nat) : Prop where
  flag : Below 2 list.seqScalingListPresentFlag
  absent : list.seqScalingListPresentFlag = 0 →
    list.scalingList = [] ∧ list.useDefaultScalingMatrixFlag = 0
  present : list.seqScalingListPresentFlag ≠ 0 → list.scalingList.length = size ∧
    (list.useDefaultScalingMatrixFlag = 0 ∧ (∀ scale ∈ list.scalingList, 0 < scale ∧ scale < 256) ∨
      list.useDefaultScalingMatrixFlag = 1 ∧ ∀ scale ∈ list.scalingList, scale = 8)

theorem codes_scalingList {list : ScalingList} {size : Nat} (hsize : 0 < size)
    (hpresent : list.seqScalingListPresentFlag ≠ 0) (h : list.WellFormed size) :
    tape.Codes (readScalingList size) (writeScalingList size list)
      (list.scalingList, list.useDefaultScalingMatrixFlag) := by
  obtain ⟨hlength, hscales⟩ := h.present hpresent
  have hentries : entries list.scalingList size = list.scalingList := by
    rw [entries, ← hlength, map_getD_range]
  rw [writeScalingList, hentries]
  obtain ⟨hflag, hscales⟩ | ⟨hflag, hscales⟩ := hscales
  · rw [hflag, readScalingList, ← hlength]
    exact codes_scaling (by decide) (by decide) (by decide) hscales
  · have hdefault : list.scalingList = List.replicate size 8 :=
      List.eq_replicate_iff.mpr ⟨hlength, hscales⟩
    rw [hflag, hdefault]
    exact codes_scaling_default (by decide) hsize

theorem codes_scalingEntry {lists : List ScalingList} {i : Nat}
    (h : (lists.getD i {}).WellFormed (scalingSize i)) :
    tape.Codes (readScalingEntry i) (writeScalingEntry lists i) (lists.getD i {}) := by
  have hsize : 0 < scalingSize i := by
    unfold scalingSize
    split <;> decide
  unfold writeScalingEntry
  generalize lists.getD i {} = list at h
  refine (codes_flag h.flag).bind (Codes.bindPure
    (a := (list.scalingList, list.useDefaultScalingMatrixFlag))
    (fun l => ScalingList.mk list.seqScalingListPresentFlag l.1 l.2) ?_)
  exact Codes.ofIf (fun hpresent => codes_scalingList hsize hpresent h) fun habsent => by
    obtain ⟨hlist, hflag⟩ := h.absent (not_not.mp habsent)
    rw [hlist, hflag]

/-! ### What is well-formed

The fields of a set that the writer can write: each within its bits, those that are absent as they
are before they are read, and each array with the entries that are counted. -/

structure HighProfile.WellFormed (high : HighProfile) : Prop where
  chromaFormatIdc : Below 65535 high.chromaFormatIdc
  residual : high.chromaFormatIdc = 3 → Below 2 high.residualColourTransformFlag
  residual_absent : ¬ high.chromaFormatIdc = 3 → high.residualColourTransformFlag = 0
  luma : Below 65535 high.bitDepthLumaMinus8
  chroma : Below 65535 high.bitDepthChromaMinus8
  bypass : Below 2 high.qpprimeYZeroTransformBypassFlag
  matrix : Below 2 high.seqScalingMatrixPresentFlag
  lists : high.seqScalingMatrixPresentFlag ≠ 0 →
    high.scalingLists.length = scalingCount high.chromaFormatIdc ∧
      ∀ i < scalingCount high.chromaFormatIdc,
        (high.scalingLists.getD i {}).WellFormed (scalingSize i)
  lists_absent : ¬ high.seqScalingMatrixPresentFlag ≠ 0 → high.scalingLists = []

structure PicOrderCnt.WellFormed (poc : PicOrderCnt) : Prop where
  type : Below 65535 poc.picOrderCntType
  lsb : poc.picOrderCntType = 0 → Below 65535 poc.log2MaxPicOrderCntLsbMinus4
  lsb_absent : ¬ poc.picOrderCntType = 0 → poc.log2MaxPicOrderCntLsbMinus4 = 0
  cycle : poc.picOrderCntType = 1 → Below 2 poc.deltaPicOrderAlwaysZeroFlag ∧
    (-32768 < poc.offsetForNonRefPic ∧ poc.offsetForNonRefPic < 32768) ∧
    (-32768 < poc.offsetForTopToBottomField ∧ poc.offsetForTopToBottomField < 32768) ∧
    Below 257 poc.numRefFramesInPicOrderCntCycle ∧
    poc.offsetForRefFrame.length = poc.numRefFramesInPicOrderCntCycle.toNat ∧
    ∀ offset ∈ poc.offsetForRefFrame, -32768 < offset ∧ offset < 32768
  cycle_absent : ¬ poc.picOrderCntType = 1 →
    (poc.deltaPicOrderAlwaysZeroFlag, poc.offsetForNonRefPic, poc.offsetForTopToBottomField,
      poc.numRefFramesInPicOrderCntCycle, poc.offsetForRefFrame) = (0, 0, 0, 0, [])

structure FrameCropping.WellFormed (crop : FrameCropping) : Prop where
  flag : Below 2 crop.frameCroppingFlag
  offsets : crop.frameCroppingFlag ≠ 0 → Below 65535 crop.frameCropLeftOffset ∧
    Below 65535 crop.frameCropRightOffset ∧ Below 65535 crop.frameCropTopOffset ∧
    Below 65535 crop.frameCropBottomOffset
  offsets_absent : ¬ crop.frameCroppingFlag ≠ 0 →
    (crop.frameCropLeftOffset, crop.frameCropRightOffset, crop.frameCropTopOffset,
      crop.frameCropBottomOffset) = (0, 0, 0, 0)

structure SchedSel.WellFormed (entry : SchedSel) : Prop where
  bitRateValue : Below 65535 entry.bitRateValueMinus1
  cpbSizeValue : Below 65535 entry.cpbSizeValueMinus1
  cbrFlag : Below 2 entry.cbrFlag

structure Hrd.WellFormed (hrd : Hrd) : Prop where
  cpbCnt : Below 32 hrd.cpbCntMinus1
  bitRateScale : Below 16 hrd.bitRateScale
  cpbSizeScale : Below 16 hrd.cpbSizeScale
  length : hrd.schedSel.length = (hrd.cpbCntMinus1 + 1).toNat
  schedSel : ∀ entry ∈ hrd.schedSel, entry.WellFormed
  initialCpbRemovalDelayLength : Below 32 hrd.initialCpbRemovalDelayLengthMinus1
  cpbRemovalDelayLength : Below 32 hrd.cpbRemovalDelayLengthMinus1
  dpbOutputDelayLength : Below 32 hrd.dpbOutputDelayLengthMinus1
  timeOffsetLength : Below 32 hrd.timeOffsetLength

structure AspectRatioInfo.WellFormed (info : AspectRatioInfo) : Prop where
  flag : Below 2 info.aspectRatioInfoPresentFlag
  idc : info.aspectRatioInfoPresentFlag ≠ 0 → Below 256 info.aspectRatioIdc
  idc_absent : ¬ info.aspectRatioInfoPresentFlag ≠ 0 →
    (info.aspectRatioIdc, info.sarWidth, info.sarHeight) = (0, 0, 0)
  sar : info.aspectRatioIdc = 255 → Below 65536 info.sarWidth ∧ Below 65536 info.sarHeight
  sar_absent : ¬ info.aspectRatioIdc = 255 → (info.sarWidth, info.sarHeight) = (0, 0)

structure OverscanInfo.WellFormed (info : OverscanInfo) : Prop where
  flag : Below 2 info.overscanInfoPresentFlag
  appropriate : info.overscanInfoPresentFlag ≠ 0 → Below 2 info.overscanAppropriateFlag
  appropriate_absent : ¬ info.overscanInfoPresentFlag ≠ 0 → info.overscanAppropriateFlag = 0

structure VideoSignalType.WellFormed (signal : VideoSignalType) : Prop where
  flag : Below 2 signal.videoSignalTypePresentFlag
  format : signal.videoSignalTypePresentFlag ≠ 0 → Below 8 signal.videoFormat ∧
    Below 2 signal.videoFullRangeFlag ∧ Below 2 signal.colourDescriptionPresentFlag
  format_absent : ¬ signal.videoSignalTypePresentFlag ≠ 0 →
    (signal.videoFormat, signal.videoFullRangeFlag, signal.colourDescriptionPresentFlag,
      signal.colourPrimaries, signal.transferCharacteristics, signal.matrixCoefficients) =
    (0, 0, 0, 0, 0, 0)
  colour : signal.colourDescriptionPresentFlag ≠ 0 → Below 256 signal.colourPrimaries ∧
    Below 256 signal.transferCharacteristics ∧ Below 256 signal.matrixCoefficients
  colour_absent : ¬ signal.colourDescriptionPresentFlag ≠ 0 →
    (signal.colourPrimaries, signal.transferCharacteristics, signal.matrixCoefficients) = (0, 0, 0)

structure ChromaLocInfo.WellFormed (info : ChromaLocInfo) : Prop where
  flag : Below 2 info.chromaLocInfoPresentFlag
  fields : info.chromaLocInfoPresentFlag ≠ 0 → Below 65535 info.chromaSampleLocTypeTopField ∧
    Below 65535 info.chromaSampleLocTypeBottomField
  fields_absent : ¬ info.chromaLocInfoPresentFlag ≠ 0 →
    (info.chromaSampleLocTypeTopField, info.chromaSampleLocTypeBottomField) = (0, 0)

structure TimingInfo.WellFormed (timing : TimingInfo) : Prop where
  flag : Below 2 timing.timingInfoPresentFlag
  fields : timing.timingInfoPresentFlag ≠ 0 →
    (-2147483648 ≤ timing.numUnitsInTick ∧ timing.numUnitsInTick < 2147483648) ∧
    (-2147483648 ≤ timing.timeScale ∧ timing.timeScale < 2147483648) ∧
    Below 2 timing.fixedFrameRateFlag
  fields_absent : ¬ timing.timingInfoPresentFlag ≠ 0 →
    (timing.numUnitsInTick, timing.timeScale, timing.fixedFrameRateFlag) = (0, 0, 0)

structure BitstreamRestriction.WellFormed (restriction : BitstreamRestriction) : Prop where
  flag : Below 2 restriction.bitstreamRestrictionFlag
  fields : restriction.bitstreamRestrictionFlag ≠ 0 →
    Below 2 restriction.motionVectorsOverPicBoundariesFlag ∧
    Below 65535 restriction.maxBytesPerPicDenom ∧ Below 65535 restriction.maxBitsPerMbDenom ∧
    Below 65535 restriction.log2MaxMvLengthHorizontal ∧
    Below 65535 restriction.log2MaxMvLengthVertical ∧ Below 65535 restriction.numReorderFrames ∧
    Below 65535 restriction.maxDecFrameBuffering
  fields_absent : ¬ restriction.bitstreamRestrictionFlag ≠ 0 → restriction = {}

structure Vui.WellFormed (vui : Vui) (hrdNal hrdVcl : Hrd) : Prop where
  aspectRatioInfo : vui.toAspectRatioInfo.WellFormed
  overscanInfo : vui.toOverscanInfo.WellFormed
  videoSignalType : vui.toVideoSignalType.WellFormed
  chromaLocInfo : vui.toChromaLocInfo.WellFormed
  timingInfo : vui.toTimingInfo.WellFormed
  nalFlag : Below 2 vui.nalHrdParametersPresentFlag
  nalHrd : vui.nalHrdParametersPresentFlag ≠ 0 → hrdNal.WellFormed
  nalHrd_absent : ¬ vui.nalHrdParametersPresentFlag ≠ 0 → hrdNal = {}
  vclFlag : Below 2 vui.vclHrdParametersPresentFlag
  vclHrd : vui.vclHrdParametersPresentFlag ≠ 0 → hrdVcl.WellFormed
  vclHrd_absent : ¬ vui.vclHrdParametersPresentFlag ≠ 0 → hrdVcl = {}
  lowDelay : vui.nalHrdParametersPresentFlag ≠ 0 ∨ vui.vclHrdParametersPresentFlag ≠ 0 →
    Below 2 vui.lowDelayHrdFlag
  lowDelay_absent :
    ¬ (vui.nalHrdParametersPresentFlag ≠ 0 ∨ vui.vclHrdParametersPresentFlag ≠ 0) →
      vui.lowDelayHrdFlag = 0
  picStruct : Below 2 vui.picStructPresentFlag
  restriction : vui.toBitstreamRestriction.WellFormed

structure Sps.WellFormed (sps : Sps) : Prop where
  profileIdc : Below 256 sps.profileIdc
  constraintSet0 : Below 2 sps.constraintSet0Flag
  constraintSet1 : Below 2 sps.constraintSet1Flag
  constraintSet2 : Below 2 sps.constraintSet2Flag
  constraintSet3 : Below 2 sps.constraintSet3Flag
  constraintSet4 : Below 2 sps.constraintSet4Flag
  constraintSet5 : Below 2 sps.constraintSet5Flag
  levelIdc : Below 256 sps.levelIdc
  seqParameterSetId : Below 65535 sps.seqParameterSetId
  high : isHighProfile sps.profileIdc = true → sps.toHighProfile.WellFormed
  high_absent : ¬ isHighProfile sps.profileIdc = true → sps.toHighProfile = {}
  log2MaxFrameNum : Below 65535 sps.log2MaxFrameNumMinus4
  picOrderCnt : sps.toPicOrderCnt.WellFormed
  numRefFrames : Below 65535 sps.numRefFrames
  gaps : Below 2 sps.gapsInFrameNumValueAllowedFlag
  picWidth : Below 65535 sps.picWidthInMbsMinus1
  picHeight : Below 65535 sps.picHeightInMapUnitsMinus1
  frameMbsOnly : Below 2 sps.frameMbsOnlyFlag
  adaptive : sps.frameMbsOnlyFlag = 0 → Below 2 sps.mbAdaptiveFrameFieldFlag
  adaptive_absent : ¬ sps.frameMbsOnlyFlag = 0 → sps.mbAdaptiveFrameFieldFlag = 0
  direct : Below 2 sps.direct8x8InferenceFlag
  cropping : sps.toFrameCropping.WellFormed
  vuiFlag : Below 2 sps.vuiParametersPresentFlag
  vui : sps.vuiParametersPresentFlag ≠ 0 → sps.vui.WellFormed sps.hrdNal sps.hrdVcl
  vui_absent : ¬ sps.vuiParametersPresentFlag ≠ 0 →
    (sps.vui, sps.hrdNal, sps.hrdVcl) = ({}, {}, {})

/-! ### What is written is read -/

theorem codes_highProfile {high : HighProfile} (h : high.WellFormed) :
    tape.Codes readHighProfile (writeHighProfile high) high := by
  refine (codes_golomb h.chromaFormatIdc).bind ?_
  refine (Codes.ofIf (fun hc => codes_flag (h.residual hc)) h.residual_absent).bind ?_
  refine (codes_golomb h.luma).bind ?_
  refine (codes_golomb h.chroma).bind ?_
  refine (codes_flag h.bypass).bind ?_
  refine (codes_flag h.matrix).bind ?_
  refine Codes.bindPure (HighProfile.mk _ _ _ _ _ _) (Codes.ofIf (fun hc => ?_) h.lists_absent)
  obtain ⟨hlength, hlists⟩ := h.lists hc
  exact codes_array hlength fun i hi => codes_scalingEntry (hlists i hi)

theorem codes_picOrderCnt {poc : PicOrderCnt} (h : poc.WellFormed) :
    tape.Codes readPicOrderCnt (writePicOrderCnt poc) poc := by
  refine (codes_golomb h.type).bind ?_
  refine (Codes.ofIf (fun hc => codes_golomb (h.lsb hc)) h.lsb_absent).bind ?_
  refine Codes.bindPure (fun cycle : Int × Int × Int × Int × List Int =>
    PicOrderCnt.mk _ _ cycle.1 cycle.2.1 cycle.2.2.1 cycle.2.2.2.1 cycle.2.2.2.2)
    (Codes.ofIf (fun hc => ?_) h.cycle_absent)
  obtain ⟨hdelta, hnonRef, htopBottom, hcount, hlength, hoffsets⟩ := h.cycle hc
  refine (codes_flag hdelta).bind ((codes_se hnonRef.1 hnonRef.2).bind
    ((codes_se htopBottom.1 htopBottom.2).bind ?_))
  refine (codes_golomb (hcount.mono (by decide))).bind ?_
  have hclamp : (if 256 < poc.numRefFramesInPicOrderCntCycle then 256
      else poc.numRefFramesInPicOrderCntCycle) = poc.numRefFramesInPicOrderCntCycle :=
    if_neg (Int.not_lt.mpr (Int.le_of_lt_add_one hcount.2))
  simp only [hclamp]
  exact Codes.bindPure (fun offsets : List Int => (_, _, _, _, offsets))
    (codes_array hlength fun i hi =>
      have hoffset := hoffsets _ (getD_mem (hlength ▸ hi) 0)
      codes_se hoffset.1 hoffset.2)

theorem codes_frameCropping {crop : FrameCropping} (h : crop.WellFormed) :
    tape.Codes readFrameCropping (writeFrameCropping crop) crop := by
  refine (codes_flag h.flag).bind ?_
  refine Codes.bindPure (fun offsets : Int × Int × Int × Int =>
    FrameCropping.mk _ offsets.1 offsets.2.1 offsets.2.2.1 offsets.2.2.2)
    (Codes.ofIf (fun hc => ?_) h.offsets_absent)
  obtain ⟨hleft, hright, htop, hbottom⟩ := h.offsets hc
  refine (codes_golomb hleft).bind ((codes_golomb hright).bind ((codes_golomb htop).bind ?_))
  exact Codes.bindPure (fun bottom : Int => (_, _, _, bottom)) (codes_golomb hbottom)

theorem codes_schedSel {entry : SchedSel} (h : entry.WellFormed) :
    tape.Codes readSchedSel (writeSchedSel entry) entry := by
  refine (codes_golomb h.bitRateValue).bind ((codes_golomb h.cpbSizeValue).bind ?_)
  exact Codes.bindPure (SchedSel.mk _ _) (codes_flag h.cbrFlag)

theorem codes_hrd {hrd : Hrd} (h : hrd.WellFormed) :
    tape.Codes readHrdParameters (writeHrdParameters hrd) hrd := by
  refine (codes_golomb (h.cpbCnt.mono (by decide))).bind ?_
  have hclamp : (if 31 < hrd.cpbCntMinus1 then 31 else hrd.cpbCntMinus1) = hrd.cpbCntMinus1 :=
    if_neg (Int.not_lt.mpr (Int.le_of_lt_add_one h.cpbCnt.2))
  simp only [hclamp]
  refine (codes_bits (by decide) h.bitRateScale).bind ?_
  refine (codes_bits (by decide) h.cpbSizeScale).bind ?_
  refine (codes_array h.length fun i hi =>
    codes_schedSel (h.schedSel _ (getD_mem (h.length ▸ hi) {}))).bind ?_
  refine (codes_bits (by decide) h.initialCpbRemovalDelayLength).bind ?_
  refine (codes_bits (by decide) h.cpbRemovalDelayLength).bind ?_
  refine (codes_bits (by decide) h.dpbOutputDelayLength).bind ?_
  exact Codes.bindPure (Hrd.mk _ _ _ _ _ _ _) (codes_bits (by decide) h.timeOffsetLength)

theorem codes_aspectRatioInfo {info : AspectRatioInfo} (h : info.WellFormed) :
    tape.Codes readAspectRatioInfo (writeAspectRatioInfo info) info := by
  refine (codes_flag h.flag).bind ?_
  refine Codes.bindPure (fun fields : Int × Int × Int =>
    AspectRatioInfo.mk _ fields.1 fields.2.1 fields.2.2) (Codes.ofIf (fun hc => ?_) h.idc_absent)
  refine (codes_byte (h.idc hc)).bind ?_
  refine Codes.bindPure (fun sar : Int × Int => (_, sar)) (Codes.ofIf (fun hc => ?_) h.sar_absent)
  obtain ⟨hwidth, hheight⟩ := h.sar hc
  refine (codes_bits (n := 16) (by decide) hwidth).bind ?_
  exact Codes.bindPure (fun height : Int => (_, height)) (codes_bits (n := 16) (by decide) hheight)

theorem codes_overscanInfo {info : OverscanInfo} (h : info.WellFormed) :
    tape.Codes readOverscanInfo (writeOverscanInfo info) info := by
  refine (codes_flag h.flag).bind ?_
  exact Codes.bindPure (OverscanInfo.mk _)
    (Codes.ofIf (fun hc => codes_flag (h.appropriate hc)) h.appropriate_absent)

theorem codes_videoSignalType {signal : VideoSignalType} (h : signal.WellFormed) :
    tape.Codes readVideoSignalType (writeVideoSignalType signal) signal := by
  refine (codes_flag h.flag).bind ?_
  refine Codes.bindPure (fun fields : Int × Int × Int × Int × Int × Int =>
    VideoSignalType.mk _ fields.1 fields.2.1 fields.2.2.1 fields.2.2.2.1 fields.2.2.2.2.1
      fields.2.2.2.2.2) (Codes.ofIf (fun hc => ?_) h.format_absent)
  obtain ⟨hformat, hrange, hcolour⟩ := h.format hc
  refine (codes_bits (n := 3) (by decide) hformat).bind ?_
  refine (codes_flag hrange).bind ((codes_flag hcolour).bind ?_)
  refine Codes.bindPure (fun colour : Int × Int × Int => (_, _, _, colour))
    (Codes.ofIf (fun hc => ?_) h.colour_absent)
  obtain ⟨hprimaries, htransfer, hmatrix⟩ := h.colour hc
  refine (codes_byte hprimaries).bind ((codes_byte htransfer).bind ?_)
  exact Codes.bindPure (fun matrix : Int => (_, _, matrix)) (codes_byte hmatrix)

theorem codes_chromaLocInfo {info : ChromaLocInfo} (h : info.WellFormed) :
    tape.Codes readChromaLocInfo (writeChromaLocInfo info) info := by
  refine (codes_flag h.flag).bind ?_
  refine Codes.bindPure (fun fields : Int × Int => ChromaLocInfo.mk _ fields.1 fields.2)
    (Codes.ofIf (fun hc => ?_) h.fields_absent)
  obtain ⟨htop, hbottom⟩ := h.fields hc
  refine (codes_golomb htop).bind ?_
  exact Codes.bindPure (fun bottom : Int => (_, bottom)) (codes_golomb hbottom)

theorem codes_timingInfo {timing : TimingInfo} (h : timing.WellFormed) :
    tape.Codes readTimingInfo (writeTimingInfo timing) timing := by
  refine (codes_flag h.flag).bind ?_
  refine Codes.bindPure (fun fields : Int × Int × Int =>
    TimingInfo.mk _ fields.1 fields.2.1 fields.2.2) (Codes.ofIf (fun hc => ?_) h.fields_absent)
  obtain ⟨hunits, hscale, hfixed⟩ := h.fields hc
  refine (codes_word hunits.1 hunits.2).bind ((codes_word hscale.1 hscale.2).bind ?_)
  exact Codes.bindPure (fun rate : Int => (_, _, rate)) (codes_flag hfixed)

theorem codes_hrds {vui : Vui} {hrdNal hrdVcl : Hrd} (h : vui.WellFormed hrdNal hrdVcl) :
    tape.Codes readHrds (writeHrds vui.toHrdFlags hrdNal hrdVcl)
      (vui.toHrdFlags, hrdNal, hrdVcl) := by
  refine (codes_flag h.nalFlag).bind ?_
  refine (Codes.ofIf (fun hc => codes_hrd (h.nalHrd hc)) h.nalHrd_absent).bind ?_
  refine (codes_flag h.vclFlag).bind ?_
  refine (Codes.ofIf (fun hc => codes_hrd (h.vclHrd hc)) h.vclHrd_absent).bind ?_
  exact Codes.bindPure (fun lowDelay : Int => (HrdFlags.mk _ _ lowDelay, _, _))
    (Codes.ofIf (fun hc => codes_flag (h.lowDelay hc)) h.lowDelay_absent)

theorem codes_bitstreamRestriction {restriction : BitstreamRestriction}
    (h : restriction.WellFormed) :
    tape.Codes readBitstreamRestriction (writeBitstreamRestriction restriction) restriction := by
  refine (codes_flag h.flag).bind ?_
  refine Codes.bindPure (a := restriction) (fun limits : BitstreamRestriction =>
    { limits with bitstreamRestrictionFlag := restriction.bitstreamRestrictionFlag })
    (Codes.ofIf (fun hc => ?_) h.fields_absent)
  obtain ⟨hvectors, hbytes, hbits, hhorizontal, hvertical, hreorder, hbuffering⟩ := h.fields hc
  refine (codes_flag hvectors).bind ((codes_golomb hbytes).bind ((codes_golomb hbits).bind ?_))
  refine (codes_golomb hhorizontal).bind ((codes_golomb hvertical).bind ?_)
  refine (codes_golomb hreorder).bind ?_
  exact Codes.bindPure (BitstreamRestriction.mk _ _ _ _ _ _ _) (codes_golomb hbuffering)

theorem codes_vui {vui : Vui} {hrdNal hrdVcl : Hrd} (h : vui.WellFormed hrdNal hrdVcl) :
    tape.Codes readVuiParameters (writeVuiParameters vui hrdNal hrdVcl) (vui, hrdNal, hrdVcl) := by
  refine (codes_aspectRatioInfo h.aspectRatioInfo).bind ?_
  refine (codes_overscanInfo h.overscanInfo).bind ?_
  refine (codes_videoSignalType h.videoSignalType).bind ?_
  refine (codes_chromaLocInfo h.chromaLocInfo).bind ?_
  refine (codes_timingInfo h.timingInfo).bind ?_
  refine (codes_hrds h).bind ?_
  refine (codes_flag h.picStruct).bind ?_
  exact Codes.bindPure (fun restriction : BitstreamRestriction =>
    (Vui.mk _ _ _ _ _ _ restriction _, _)) (codes_bitstreamRestriction h.restriction)

/-- A well-formed set is read as it was written. -/
theorem codes_seqParameterSet {sps : Sps} (h : sps.WellFormed) :
    tape.Codes readSeqParameterSet (writeSeqParameterSet sps) sps := by
  refine (codes_byte h.profileIdc).bind ?_
  refine (codes_flag h.constraintSet0).bind ((codes_flag h.constraintSet1).bind ?_)
  refine (codes_flag h.constraintSet2).bind ((codes_flag h.constraintSet3).bind ?_)
  refine (codes_flag h.constraintSet4).bind ((codes_flag h.constraintSet5).bind ?_)
  refine (codes_skipU (by decide) 0).bind ?_
  refine (codes_byte h.levelIdc).bind ((codes_golomb h.seqParameterSetId).bind ?_)
  refine (Codes.ofIf (fun hc => codes_highProfile (h.high hc)) h.high_absent).bind ?_
  refine (codes_golomb h.log2MaxFrameNum).bind ((codes_picOrderCnt h.picOrderCnt).bind ?_)
  refine (codes_golomb h.numRefFrames).bind ((codes_flag h.gaps).bind ?_)
  refine (codes_golomb h.picWidth).bind ((codes_golomb h.picHeight).bind ?_)
  refine (codes_flag h.frameMbsOnly).bind ?_
  refine (Codes.ofIf (fun hc => codes_flag (h.adaptive hc)) h.adaptive_absent).bind ?_
  refine (codes_flag h.direct).bind ((codes_frameCropping h.cropping).bind ?_)
  refine (codes_flag h.vuiFlag).bind ?_
  exact Codes.bindPure (a := (sps.vui, sps.hrdNal, sps.hrdVcl)) (fun vui : Vui × Hrd × Hrd =>
    Sps.mk _ _ _ _ _ _ _ _ _ _ _ _ _ _ _ _ _ _ _ _ _ vui.1 vui.2.1 vui.2.2)
    (Codes.ofIf (fun hc => codes_vui (h.vui hc)) h.vui_absent)

end GilStreaming.Streaming
