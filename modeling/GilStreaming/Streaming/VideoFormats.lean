import Mathlib.Data.List.Basic
import Mathlib.Data.Bool.Basic

/-!
# GilStreaming.Streaming.VideoFormats

The video formats of a stream and `SupportedVideoFormatList` of `session.h`.

Every `VIDEO_FORMAT` constant and every `SCM` constant of moonlight-common-c is one bit, so
that an `int` of such bits is a set of formats, or of codec modes of the host, and a mask
is a test on its elements; `formats & mask`, as a condition, is `formats.any mask`. The list
is in order of priority: its front is the format of the stream.
-/

namespace GilStreaming.Streaming

/-! ### Formats and codec modes -/

/-- The `VIDEO_FORMAT` constants. -/
inductive VideoFormat where
  | h264 | h264High8_444
  | h265 | h265Main10 | h265Rext8_444 | h265Rext10_444
  | av1Main8 | av1Main10 | av1High8_444 | av1High10_444
deriving DecidableEq, Repr

/-- The `SCM` constants. -/
inductive ServerCodecMode where
  | h264 | h264High8_444
  | hevc | hevcMain10 | hevcRext8_444 | hevcRext10_444
  | av1Main8 | av1Main10 | av1High8_444 | av1High10_444
deriving DecidableEq, Repr

/-- An `int` that is tested against formats. -/
abbrev Mask := VideoFormat → Bool

/-- An `int` of `SCM` bits. -/
abbrev CodecModes := ServerCodecMode → Bool

namespace VideoFormat

/-- `VIDEO_FORMAT_MASK_H264`. -/
def isH264 : Mask
  | h264 | h264High8_444 => true
  | _ => false

/-- `VIDEO_FORMAT_MASK_H265`. -/
def isH265 : Mask
  | h265 | h265Main10 | h265Rext8_444 | h265Rext10_444 => true
  | _ => false

/-- `VIDEO_FORMAT_MASK_AV1`. -/
def isAv1 : Mask
  | av1Main8 | av1Main10 | av1High8_444 | av1High10_444 => true
  | _ => false

/-- `VIDEO_FORMAT_MASK_10BIT`. -/
def is10Bit : Mask
  | h265Main10 | h265Rext10_444 | av1Main10 | av1High10_444 => true
  | _ => false

/-- `VIDEO_FORMAT_MASK_YUV444`. -/
def isYuv444 : Mask
  | h264High8_444 | h265Rext8_444 | h265Rext10_444 | av1High8_444 | av1High10_444 => true
  | _ => false

/-- The `SCM` bit of a host that encodes the format. -/
def codecMode : VideoFormat → ServerCodecMode
  | h264 => .h264
  | h264High8_444 => .h264High8_444
  | h265 => .hevc
  | h265Main10 => .hevcMain10
  | h265Rext8_444 => .hevcRext8_444
  | h265Rext10_444 => .hevcRext10_444
  | av1Main8 => .av1Main8
  | av1Main10 => .av1Main10
  | av1High8_444 => .av1High8_444
  | av1High10_444 => .av1High10_444

end VideoFormat

namespace ServerCodecMode

/-- All of them, in the order of `mapping`. -/
def all : List ServerCodecMode :=
  [h264, h264High8_444, hevc, hevcMain10, hevcRext8_444, hevcRext10_444,
    av1Main8, av1Main10, av1High8_444, av1High10_444]

/-- The bits of HEVC. -/
def isHevc : CodecModes
  | hevc | hevcMain10 | hevcRext8_444 | hevcRext10_444 => true
  | _ => false

/-- `SCM_MASK_AV1`. -/
def isAv1 : CodecModes
  | av1Main8 | av1Main10 | av1High8_444 | av1High10_444 => true
  | _ => false

/-- `SCM_MASK_10BIT`. -/
def is10Bit : CodecModes
  | hevcMain10 | hevcRext10_444 | av1Main10 | av1High10_444 => true
  | _ => false

/-- `SCM_MASK_YUV444`. -/
def isYuv444 : CodecModes
  | h264High8_444 | hevcRext8_444 | hevcRext10_444 | av1High8_444 | av1High10_444 => true
  | _ => false

end ServerCodecMode

/-! ### The list -/

namespace SupportedVideoFormatList

open VideoFormat

def removeByMask (formats : List VideoFormat) (mask : Mask) : List VideoFormat :=
  formats.filter fun f => !mask f

def deprioritizeByMask (formats : List VideoFormat) (mask : Mask) : List VideoFormat :=
  removeByMask formats mask ++ formats.filter mask

/-- `mapping` of `maskByServerCodecModes`. -/
def mapping : List (ServerCodecMode × VideoFormat) :=
  [(.h264, h264), (.h264High8_444, h264High8_444), (.hevc, h265), (.hevcMain10, h265Main10),
    (.hevcRext8_444, h265Rext8_444), (.hevcRext10_444, h265Rext10_444),
    (.av1Main8, av1Main8), (.av1Main10, av1Main10), (.av1High8_444, av1High8_444),
    (.av1High10_444, av1High10_444)]

/-- The formats of the list whose bit is among `serverCodecModes`. -/
def maskByServerCodecModes (formats : List VideoFormat) (serverCodecModes : CodecModes) : Mask :=
  fun f => formats.contains f &&
    mapping.any fun entry => serverCodecModes entry.1 && decide (entry.2 = f)

@[simp] theorem mapping_any (modes : CodecModes) (f : VideoFormat) :
    (mapping.any fun entry => modes entry.1 && decide (entry.2 = f)) = modes f.codecMode := by
  cases f <;> simp [mapping, codecMode]

@[simp] theorem maskByServerCodecModes_apply (formats : List VideoFormat) (modes : CodecModes)
    (f : VideoFormat) :
    maskByServerCodecModes formats modes f = (formats.contains f && modes f.codecMode) := by
  rw [maskByServerCodecModes, mapping_any]

@[simp] theorem mem_removeByMask {formats : List VideoFormat} {mask : Mask} {f : VideoFormat} :
    f ∈ removeByMask formats mask ↔ f ∈ formats ∧ mask f = false := by
  simp [removeByMask]

@[simp] theorem mem_deprioritizeByMask {formats : List VideoFormat} {mask : Mask}
    {f : VideoFormat} : f ∈ deprioritizeByMask formats mask ↔ f ∈ formats := by
  cases h : mask f <;> simp [deprioritizeByMask, h]

/-- `maskByServerCodecModes(modes) & mask`, as a condition: a format of the list that the
mask allows and whose bit is there. -/
def common (formats : List VideoFormat) (modes : CodecModes) (mask : Mask) : Bool :=
  formats.any fun f => maskByServerCodecModes formats modes f && mask f

theorem common_eq (formats : List VideoFormat) (modes : CodecModes) (mask : Mask) :
    common formats modes mask = formats.any fun f => modes f.codecMode && mask f := by
  rw [Bool.eq_iff_iff]
  simp [common, and_assoc]

end SupportedVideoFormatList

end GilStreaming.Streaming
