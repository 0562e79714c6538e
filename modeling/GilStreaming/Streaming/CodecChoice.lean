import GilStreaming.Streaming.Negotiation
import Mathlib.Data.List.Find

/-!
# GilStreaming.Streaming.CodecChoice

Does the host encode the format that a launch locks in?
-/

namespace GilStreaming.Streaming.Session

open SupportedVideoFormatList

variable (l : Launch)

/-! ### The list of `initialize` -/

/-- The list for `VCC_AUTO` by what the probes have decided: whether the 10-bit formats of
HEVC and of AV1 are dropped, whether HEVC and AV1 come late, and whether HEVC is off. -/
def arranged (yuv444 hdr noHevc10 noAv110 lateHevc lateAv1 noHevc : Bool) : List VideoFormat :=
  let formats := allFormats
  let formats := if noHevc10 then removeByMask formats fun f => f.isH265 && f.is10Bit else formats
  let formats := if noAv110 then removeByMask formats fun f => f.isAv1 && f.is10Bit else formats
  let formats := if lateHevc then deprioritizeByMask formats VideoFormat.isH265 else formats
  let formats := if lateAv1 then deprioritizeByMask formats VideoFormat.isAv1 else formats
  let formats := if noHevc then removeByMask formats VideoFormat.isH265 else formats
  let formats :=
    if !yuv444 then removeByMask formats VideoFormat.isYuv444
    else deprioritizeByMask formats fun f => !f.isYuv444
  if !hdr then removeByMask formats VideoFormat.is10Bit
  else deprioritizeByMask formats fun f => !f.is10Bit

/-- What a decoder is there for, at the resolution of the settings. -/
def probe (f : VideoFormat) : DecoderAvailability := (prepared l).getDecoderAvailability l f

/-- The decisions of `VCC_AUTO`. -/
def noHevc10 : Bool := l.preferences.enableHdr && probe l (hevc10 l) = .none

def noAv110 : Bool := noHevc10 l && probe l (av110 l) = .none

/-- `hevcDA`, once it has its last value. -/
def hevcDA : DecoderAvailability :=
  if l.preferences.enableHdr && !noAv110 l then probe l (hevc10 l) else probe l (hevc8 l)

def lateHevc : Bool :=
  hevcDA l ≠ .hardware &&
    (l.preferences.videoDecoderSelection ≠ .forceSoftware || !l.preferences.enableHdr)

def lateAv1 : Bool :=
  hevcDA l = .hardware ||
    (!l.preferences.enableHdr && (l.platform.avoidsAv1 || probe l (av18 l) ≠ .hardware))

def noHevc : Bool :=
  l.platform.darwin && gfeTooOld (Client.NvHttp.parseQuad l.computer.gfeVersion)

theorem probeHevc_eq (s : Session) (hprobe : s.getDecoderAvailability l = probe l) :
    s.probeHevc l =
      (let formats := allFormats
       let formats :=
         if noHevc10 l then removeByMask formats fun f => f.isH265 && f.is10Bit else formats
       if noAv110 l then removeByMask formats fun f => f.isAv1 && f.is10Bit else formats,
        hevcDA l) := by
  rw [probeHevc, hprobe]
  cases hhdr : l.preferences.enableHdr with
  | false => simp [noHevc10, noAv110, hevcDA, hhdr]
  | true =>
      by_cases hhevc : probe l (hevc10 l) = .none
      · by_cases hav1 : probe l (av110 l) = .none
        · simp [noHevc10, noAv110, hevcDA, hhdr, hhevc, hav1]
        · simp [noHevc10, noAv110, hevcDA, hhdr, hhevc, hav1]
      · simp [noHevc10, noAv110, hevcDA, hhdr, hhevc]

theorem deprioritizeCodecs_eq (s : Session) (hprobe : s.getDecoderAvailability l = probe l)
    (formats : List VideoFormat) : s.deprioritizeCodecs l formats (hevcDA l) =
      (let formats :=
         if lateHevc l then deprioritizeByMask formats VideoFormat.isH265 else formats
       if lateAv1 l then deprioritizeByMask formats VideoFormat.isAv1 else formats) := by
  have hlate : (hevcDA l ≠ .hardware ∧ (l.preferences.videoDecoderSelection ≠ .forceSoftware ∨
      (!l.preferences.enableHdr) = true)) ↔ lateHevc l = true := by simp [lateHevc]
  rw [deprioritizeCodecs, hprobe]
  simp only [hlate]
  by_cases hhw : hevcDA l = .hardware
  · simp [lateAv1, hhw]
  · cases hhdr : l.preferences.enableHdr with
    | true => simp [lateAv1, hhw, hhdr]
    | false =>
        cases havoids : l.platform.avoidsAv1 with
        | true => simp [lateAv1, hhw, hhdr, havoids]
        | false => simp [lateAv1, hhw, hhdr, havoids]

theorem prepared_formats_auto (h : l.preferences.videoCodecConfig = .auto) :
    (prepared l).formats = arranged l.preferences.enableYUV444 l.preferences.enableHdr
      (noHevc10 l) (noAv110 l) (lateHevc l) (lateAv1 l) (noHevc l) := by
  rw [prepared, initialFormats, codecFormats, h]
  rw [autoFormats, probeHevc_eq l (requested l) rfl]
  simp only [deprioritizeCodecs_eq l (requested l) rfl]
  rfl

/-! ### The front, without YUV 4:4:4 -/

/-- What is not offered is not what a list has in common with the host. -/
theorem any_offers_420 {formats : List VideoFormat}
    (h : ∀ f ∈ formats, f.isYuv444 = true → l.computer.offers f = false) (p : Mask) :
    (formats.any fun f => l.computer.offers f && p f) =
      (formats.filter fun f => !f.isYuv444).any fun f => l.computer.offers f && p f := by
  rw [Bool.eq_iff_iff]
  simp only [List.any_eq_true, Bool.and_eq_true, List.mem_filter, Bool.not_eq_true']
  constructor
  · rintro ⟨f, hf, hoffers, hp⟩
    refine ⟨f, ⟨hf, ?_⟩, hoffers, hp⟩
    cases hyuv : f.isYuv444 with
    | false => rfl
    | true => rw [h f hf hyuv] at hoffers; cases hoffers
  · rintro ⟨f, ⟨hf, -⟩, hoffers, hp⟩
    exact ⟨f, hf, hoffers, hp⟩

/-- The front of the list for `VCC_AUTO`, by what stays of AV1, of HEVC and of the 10-bit
formats. -/
def autoFront (hdr noHevc10 noAv110 lateHevc lateAv1 noHevc av1 hevc ten : Bool) : VideoFormat :=
  let hevc10 := hdr && ten && hevc && !noHevc && !noHevc10
  let av110 := hdr && ten && av1 && !noAv110
  if hevc10 && (lateAv1 || !av110) then .h265Main10
  else if av110 then .av1Main10
  else if av1 && !lateAv1 then .av1Main8
  else if hevc && !noHevc && !lateHevc then .h265
  else .h264

theorem arranged_find? : ∀ yuv444 hdr noHevc10 noAv110 lateHevc lateAv1 noHevc av1 hevc ten,
    ((arranged yuv444 hdr noHevc10 noAv110 lateHevc lateAv1 noHevc).filter fun f =>
      !f.isYuv444).find? (fun f => (av1 || !f.isAv1) && ((hevc || !f.isH265) &&
        (!hdr || ten || !f.is10Bit))) =
    some (autoFront hdr noHevc10 noAv110 lateHevc lateAv1 noHevc av1 hevc ten) := by
  decide +kernel

/-- The list has formats with 4:4:4 or with 10 bits only where the settings ask for them. -/
theorem prepared_yuv444 {f : VideoFormat} (hf : f ∈ (prepared l).formats)
    (h : f.isYuv444 = true) : l.preferences.enableYUV444 = true := by
  by_contra hyuv
  rw [Bool.not_eq_true] at hyuv
  have hmem : f ∈ (requested l).initialFormats l := hf
  rw [initialFormats, hyuv] at hmem
  cases hhdr : l.preferences.enableHdr <;> rw [hhdr] at hmem <;> simp [h] at hmem

theorem prepared_10Bit {f : VideoFormat} (hf : f ∈ (prepared l).formats)
    (h : f.is10Bit = true) : l.preferences.enableHdr = true := by
  by_contra hhdr
  rw [Bool.not_eq_true] at hhdr
  have hmem : f ∈ (requested l).initialFormats l := hf
  rw [initialFormats, hhdr] at hmem
  simp [h] at hmem

/-- The formats of the list of `initialize` without 4:4:4. -/
def formats420 : List VideoFormat := (prepared l).formats.filter fun f => !f.isYuv444

/-- Where YUV 4:4:4 is not used, the front is the first of them that the checks keep. -/
theorem checked_head?_420 (h : usesYuv444 l = false) :
    ((prepared l).checked l).formats.head? = some (((formats420 l).find?
      (keptCodecs l (prepared l) (prepared l).formats)).getD .h264) := by
  have hyuv : ∀ f ∈ (prepared l).formats.filter (keptCodecs l (prepared l) (prepared l).formats),
      (!(l.preferences.enableYUV444 && f.isYuv444)) = !f.isYuv444 := by
    intro f hf
    cases h444 : f.isYuv444 with
    | false => simp
    | true => simp [prepared_yuv444 l (List.mem_of_mem_filter hf) h444]
  rw [checked_head?, (narrows_checkYuv444 l _ h).formats, (narrows_checkCodecs l _).formats,
    List.filter_congr hyuv, List.filter_filter, formats420, ← List.head?_filter,
    List.filter_filter]
  simp only [Bool.and_comm]

/-- Where 4:4:4 is enabled and not used, the host offers none of its modes. -/
theorem not_offers_of_unused (h : usesYuv444 l = false)
    (hyuv : l.preferences.enableYUV444 = true) {f : VideoFormat} (h444 : f.isYuv444 = true) :
    l.computer.offers f = false := by
  have hnone : (ServerCodecMode.all.any fun m =>
      l.computer.serverCodecModeSupport m && m.isYuv444) = false := by
    simpa [usesYuv444, hyuv] using h
  rw [List.any_eq_false] at hnone
  have hall : f.codecMode ∈ ServerCodecMode.all := by cases f <;> decide
  have hmode : f.codecMode.isYuv444 = true := by revert h444; cases f <;> decide
  simpa [Host.offers, hmode] using hnone f.codecMode hall

/-- The host offers no 4:4:4 mode that the list could ask for. -/
theorem not_offers_yuv444 (h : usesYuv444 l = false) {f : VideoFormat}
    (hf : f ∈ (prepared l).formats) (h444 : f.isYuv444 = true) :
    l.computer.offers f = false :=
  not_offers_of_unused l h (prepared_yuv444 l hf h444) h444

/-! ### `VCC_AUTO` -/

/-- The host encodes HEVC. -/
def hevcOn : Bool := l.computer.maxLumaPixelsHEVC ≠ 0

/-- The host offers an AV1 format of the list. -/
def av1InCommon (formats : List VideoFormat) : Bool :=
  formats.any fun f => l.computer.offers f && f.isAv1

/-- The host offers a 10-bit format of the list, of a codec that stays. -/
def tenInCommon (formats : List VideoFormat) : Bool :=
  formats.any fun f => l.computer.offers f && (f.is10Bit && (hevcOn l || !f.isH265))

theorem keptCodecs_auto (h : l.preferences.videoCodecConfig = .auto) (s : Session)
    (formats : List VideoFormat) : keptCodecs l s formats = fun f =>
      (av1InCommon l formats || !f.isAv1) && ((hevcOn l || !f.isH265) &&
        (!l.preferences.enableHdr || tenInCommon l formats || !f.is10Bit)) := by
  have hav1 : keptAv1 l formats = fun f => av1InCommon l formats || !f.isAv1 := by
    funext f
    cases hcommon : av1InCommon l formats with
    | true => simp_all [keptAv1, av1InCommon]
    | false => simp_all [keptAv1, av1InCommon]
  have hhevc : ∀ formats, keptHevc l formats = fun f => hevcOn l || !f.isH265 := by
    intro formats
    funext f
    by_cases hluma : l.computer.maxLumaPixelsHEVC = 0 <;> simp [keptHevc, hevcOn, hluma, h]
  have hten : hdrInCommon l ((formats.filter fun f => av1InCommon l formats || !f.isAv1).filter
      fun f => hevcOn l || !f.isH265) = tenInCommon l formats := by
    rw [Bool.eq_iff_iff]
    simp only [hdrInCommon, tenInCommon, List.any_eq_true, List.mem_filter, Bool.and_eq_true]
    constructor
    · rintro ⟨f, ⟨⟨hf, -⟩, hhevc⟩, hoffers, hten⟩
      exact ⟨f, hf, hoffers, hten, hhevc⟩
    · rintro ⟨f, hf, hoffers, hten, hhevc⟩
      refine ⟨f, ⟨⟨hf, ?_⟩, hhevc⟩, hoffers, hten⟩
      cases hisAv1 : f.isAv1 with
      | false => simp
      | true =>
          have hcommon : av1InCommon l formats = true :=
            List.any_eq_true.mpr ⟨f, hf, by simp [hoffers, hisAv1]⟩
          simp [hcommon]
  have hhdr : ∀ formats, keptHdr l s formats = fun f =>
      !l.preferences.enableHdr || hdrInCommon l formats || !f.is10Bit := by
    intro formats
    have hprofiles : keptProfiles l s formats = fun f =>
        hdrInCommon l formats || !f.is10Bit := by
      funext f
      cases hcommon : hdrInCommon l formats <;> simp [keptProfiles, hcommon, h]
    funext f
    rw [keptHdr, hprofiles]
    cases hcommon : hdrInCommon l formats with
    | true => simp [hcommon]
    | false => cases hten : f.is10Bit <;> simp [hten]
  funext f
  simp only [keptCodecs, hav1, hhevc, hhdr, hten]

/-! ### HEVC or AV1 forced -/

section Forced

variable {l} (hauto : l.preferences.videoCodecConfig ≠ .auto)
  (hh264 : l.preferences.videoCodecConfig ≠ .forceH264)

/-- A forced codec's check of 10-bit decoding does not take the format out. -/
def decodable (l : Launch) (s : Session) (f : VideoFormat) : Bool :=
  !undecodable l s f .av1Main10 && !undecodable l s f .h265Main10

theorem decodable_of_8Bit (s : Session) {f : VideoFormat} (h : f.is10Bit = false) :
    decodable l s f = true := by
  cases f <;> first | rfl | cases h

/-- The host offers a 10-bit format of the list that this check leaves in. -/
def decodableInCommon (l : Launch) (s : Session) (formats : List VideoFormat) : Bool :=
  formats.any fun f => l.computer.offers f && (f.is10Bit && decodable l s f)

include hauto hh264

theorem keptHdr_forced (s : Session) (formats : List VideoFormat) (f : VideoFormat) :
    keptHdr l s formats f = (!l.preferences.enableHdr || !f.is10Bit ||
      (decodableInCommon l s formats && decodable l s f)) := by
  cases hcommon : hdrInCommon l formats with
  | false =>
      -- nothing in common at all
      have hprofiles : keptProfiles l s formats = fun f => !f.is10Bit := by
        funext f
        simp [keptProfiles, hcommon]
      have hnone : decodableInCommon l s formats = false := by
        simp only [hdrInCommon, List.any_eq_false] at hcommon
        rw [decodableInCommon, List.any_eq_false]
        intro f hf hboth
        simp only [Bool.and_eq_true] at hboth
        exact hcommon f hf (by simp [hboth.1, hboth.2.1])
      rw [keptHdr, hprofiles, hnone]
      cases hten : f.is10Bit <;> simp [hten]
  | true =>
      have hprofiles : keptProfiles l s formats = decodable l s := by
        funext f
        simp [keptProfiles, hcommon, hauto, hh264, decodable]
      have hfilter : hdrInCommon l (formats.filter (decodable l s)) =
          decodableInCommon l s formats := by
        rw [hdrInCommon, decodableInCommon, List.any_filter]
        congr 1
        funext f
        rw [Bool.and_comm, Bool.and_assoc]
      rw [keptHdr, hprofiles, hfilter]
      cases hten : f.is10Bit with
      | false => simp [decodable_of_8Bit s hten]
      | true => simp [Bool.and_comm]

omit hauto hh264

/-- What the checks keep where HEVC or AV1 is forced, by what stays of AV1 and of HEVC, by
whether a 10-bit format stays, and by whether AV1 Main10 and HEVC Main10 are decoded. -/
def keptForced (forceAv1 hdr av1 hevc ten dAv1 dHevc : Bool) : Mask := fun f =>
  (if av1 then !forceAv1 || f.isAv1 else !f.isAv1) && ((hevc || !f.isH265) &&
    (!hdr || !f.is10Bit || (ten && ((f ≠ .av1Main10 || dAv1) && (f ≠ .h265Main10 || dHevc)))))

/-- The list where HEVC or AV1 is forced. -/
def forcedFormats (forceAv1 yuv444 hdr : Bool) : List VideoFormat :=
  let formats := removeByMask allFormats fun f => !(forceAv1 && f.isAv1 || f.isH265)
  let formats :=
    if !yuv444 then removeByMask formats VideoFormat.isYuv444
    else deprioritizeByMask formats fun f => !f.isYuv444
  if !hdr then removeByMask formats VideoFormat.is10Bit
  else deprioritizeByMask formats fun f => !f.is10Bit

theorem forced_find? : ∀ forceAv1 yuv444 hdr av1 hevc ten dAv1 dHevc,
    ((forcedFormats forceAv1 yuv444 hdr).filter fun f => !f.isYuv444).find?
      (keptForced forceAv1 hdr av1 hevc ten dAv1 dHevc) =
    if forceAv1 && av1 then some (if hdr && ten && dAv1 then .av1Main10 else .av1Main8)
    else if hevc then some (if hdr && ten && dHevc then .h265Main10 else .h265)
    else none := by
  decide +kernel

/-- The host does not offer the format, or there is a decoder for it. -/
def decodes (l : Launch) (f : VideoFormat) : Bool :=
  !(l.computer.offers f && decide (probe l f = .none))

theorem decodable_eq (f : VideoFormat) : decodable l (prepared l) f =
    ((f ≠ .av1Main10 || decodes l .av1Main10) && (f ≠ .h265Main10 || decodes l .h265Main10)) := by
  simp only [decodable, undecodable, decodes, probe, Bool.not_and, Bool.or_assoc, ne_eq,
    decide_not]
  rfl

include hauto hh264

theorem prepared_formats_forced : (prepared l).formats =
    forcedFormats (l.preferences.videoCodecConfig = .forceAv1) l.preferences.enableYUV444
      l.preferences.enableHdr := by
  rw [prepared, initialFormats, codecFormats]
  cases hcodec : l.preferences.videoCodecConfig with
  | auto => exact absurd hcodec hauto
  | forceH264 => exact absurd hcodec hh264
  | forceHevc => rfl
  | forceHevcHdrDeprecated => rfl
  | forceAv1 => rfl

theorem prepared_forceHevc {f : VideoFormat} (hf : f ∈ (prepared l).formats)
    (hforce : l.preferences.videoCodecConfig = .forceHevc) : f.isH265 = true := by
  rw [prepared_formats_forced hauto hh264, hforce] at hf
  revert hf
  cases l.preferences.enableYUV444 <;> cases l.preferences.enableHdr <;> cases f <;> decide

/-- What the checks of AV1 and of HEVC leave of the list. -/
def ofForced (l : Launch) : List VideoFormat :=
  (prepared l).formats.filter fun f =>
    (if av1InCommon l (prepared l).formats then
      l.preferences.videoCodecConfig ≠ .forceAv1 || f.isAv1 else !f.isAv1) &&
    (hevcOn l || !f.isH265)

/-- A 10-bit format stays. -/
def tenForced (l : Launch) : Bool := decodableInCommon l (prepared l) (ofForced l)

theorem keptCodecs_forced {f : VideoFormat} (hf : f ∈ (prepared l).formats) :
    keptCodecs l (prepared l) (prepared l).formats f =
      keptForced (l.preferences.videoCodecConfig = .forceAv1) l.preferences.enableHdr
        (av1InCommon l (prepared l).formats) (hevcOn l) (tenForced l) (decodes l .av1Main10)
        (decodes l .h265Main10) f := by
  have hhevc : ∀ formats f, f ∈ (prepared l).formats →
      keptHevc l formats f = (hevcOn l || !f.isH265) := by
    intro formats f hf
    by_cases hluma : l.computer.maxLumaPixelsHEVC = 0
    · simp [keptHevc, hevcOn, hluma]
    · by_cases hforce : l.preferences.videoCodecConfig = .forceHevc
      · simp [keptHevc, hevcOn, hluma, prepared_forceHevc hauto hh264 hf hforce]
      · simp [keptHevc, hevcOn, hluma, hforce]
  have hav1 : ∀ f, keptAv1 l (prepared l).formats f =
      if av1InCommon l (prepared l).formats then
        l.preferences.videoCodecConfig ≠ .forceAv1 || f.isAv1 else !f.isAv1 := fun f => rfl
  have hof : ((prepared l).formats.filter (keptAv1 l (prepared l).formats)).filter
      (keptHevc l ((prepared l).formats.filter (keptAv1 l (prepared l).formats))) =
        ofForced l := by
    rw [List.filter_filter, ofForced]
    refine List.filter_congr fun f hf => ?_
    rw [hhevc _ f hf, hav1, Bool.and_comm]
  rw [keptCodecs, hof, hhevc _ f hf, hav1, keptHdr_forced hauto hh264, decodable_eq, keptForced,
    tenForced, decide_not]

end Forced

/-! ### What is offered, format by format -/

/-- A test on the formats without 4:4:4 of which only two can be met. -/
theorem any_two {formats : List VideoFormat} {p : Mask} {f g : VideoFormat} {pf pg : Bool}
    (h : ∀ x, x.isYuv444 = false → p x = (x = f && pf || x = g && pg)) :
    (formats.filter fun x => !x.isYuv444).any p =
      (formats.filter fun x => !x.isYuv444).any fun x => x = f && pf || x = g && pg := by
  rw [Bool.eq_iff_iff]
  simp only [List.any_eq_true, List.mem_filter, Bool.not_eq_true']
  refine exists_congr fun x => and_congr_right fun hx => ?_
  rw [h x hx.2]

theorem av1_420 (x : VideoFormat) (h : x.isYuv444 = false) :
    (l.computer.offers x && x.isAv1) = (x = .av1Main8 && l.computer.offers .av1Main8 ||
      x = .av1Main10 && l.computer.offers .av1Main10) := by
  cases x <;> simp_all [VideoFormat.isAv1, VideoFormat.isYuv444]

theorem ten_420 (kept : Mask) (x : VideoFormat) (h : x.isYuv444 = false) :
    (l.computer.offers x && (x.is10Bit && kept x)) =
      (x = .av1Main10 && (l.computer.offers .av1Main10 && kept .av1Main10) ||
        x = .h265Main10 && (l.computer.offers .h265Main10 && kept .h265Main10)) := by
  cases x <;> simp_all [VideoFormat.is10Bit, VideoFormat.isYuv444]

theorem arranged_any : ∀ yuv444 hdr noHevc10 noAv110 lateHevc lateAv1 noHevc p8 p10 q,
    (((arranged yuv444 hdr noHevc10 noAv110 lateHevc lateAv1 noHevc).filter fun x =>
      !x.isYuv444).any fun x => x = .av1Main8 && p8 || x = .av1Main10 && p10) =
        (p8 || (hdr && !noAv110 && p10)) ∧
    (((arranged yuv444 hdr noHevc10 noAv110 lateHevc lateAv1 noHevc).filter fun x =>
      !x.isYuv444).any fun x => x = .av1Main10 && p10 || x = .h265Main10 && q) =
        (hdr && (!noAv110 && p10 || !noHevc10 && !noHevc && q)) := by
  decide +kernel

theorem forced_any : ∀ forceAv1 yuv444 hdr p8 p10 q,
    (((forcedFormats forceAv1 yuv444 hdr).filter fun x =>
      !x.isYuv444).any fun x => x = .av1Main8 && p8 || x = .av1Main10 && p10) =
        (forceAv1 && (p8 || hdr && p10)) ∧
    (((forcedFormats forceAv1 yuv444 hdr).filter fun x =>
      !x.isYuv444).any fun x => x = .av1Main10 && p10 || x = .h265Main10 && q) =
        (hdr && (forceAv1 && p10 || q)) := by
  decide +kernel

section Unused

variable {l} (h : usesYuv444 l = false)

include h

/-- What the list has in common with the host, by a test that nothing with 4:4:4 counts in. -/
theorem any_offers_prepared (p : Mask) :
    ((prepared l).formats.any fun f => l.computer.offers f && p f) =
      (formats420 l).any fun f => l.computer.offers f && p f :=
  any_offers_420 l (fun _ => not_offers_yuv444 l h) p

theorem av1InCommon_auto (hauto : l.preferences.videoCodecConfig = .auto) :
    av1InCommon l (prepared l).formats = (l.computer.offers .av1Main8 ||
      (l.preferences.enableHdr && !noAv110 l && l.computer.offers .av1Main10)) := by
  rw [av1InCommon, any_offers_prepared h, formats420, prepared_formats_auto l hauto,
    any_two (av1_420 l), (arranged_any _ _ _ _ _ _ _ _ _ false).1]

theorem tenInCommon_auto (hauto : l.preferences.videoCodecConfig = .auto) :
    tenInCommon l (prepared l).formats = (l.preferences.enableHdr &&
      (!noAv110 l && l.computer.offers .av1Main10 ||
        !noHevc10 l && !noHevc l && (l.computer.offers .h265Main10 && hevcOn l))) := by
  rw [tenInCommon, any_offers_prepared h, formats420, prepared_formats_auto l hauto,
    any_two (ten_420 l _), (arranged_any _ _ _ _ _ _ _ false _ _).2]
  simp [VideoFormat.isH265]

theorem checked_head?_auto (hauto : l.preferences.videoCodecConfig = .auto) :
    ((prepared l).checked l).formats.head? = some (autoFront l.preferences.enableHdr
      (noHevc10 l) (noAv110 l) (lateHevc l) (lateAv1 l) (noHevc l)
      (av1InCommon l (prepared l).formats) (hevcOn l) (tenInCommon l (prepared l).formats)) := by
  rw [checked_head?_420 l h, keptCodecs_auto l hauto]
  generalize av1InCommon l (prepared l).formats = av1
  generalize tenInCommon l (prepared l).formats = ten
  rw [formats420, prepared_formats_auto l hauto, arranged_find?]
  rfl

section

variable (hauto : l.preferences.videoCodecConfig ≠ .auto)
  (hh264 : l.preferences.videoCodecConfig ≠ .forceH264)

include hauto hh264

theorem av1InCommon_forced : av1InCommon l (prepared l).formats =
    (decide (l.preferences.videoCodecConfig = .forceAv1) && (l.computer.offers .av1Main8 ||
      l.preferences.enableHdr && l.computer.offers .av1Main10)) := by
  rw [av1InCommon, any_offers_prepared h, formats420, prepared_formats_forced hauto hh264,
    any_two (av1_420 l), (forced_any _ _ _ _ _ false).1]

theorem tenForced_eq : tenForced l = (l.preferences.enableHdr &&
    if av1InCommon l (prepared l).formats then
      l.computer.offers .av1Main10 && decodes l .av1Main10
    else hevcOn l && (l.computer.offers .h265Main10 && decodes l .h265Main10)) := by
  have hav1 := av1InCommon_forced h hauto hh264
  have hkept : tenForced l = (prepared l).formats.any fun f => l.computer.offers f &&
      (f.is10Bit && (((if av1InCommon l (prepared l).formats then
        l.preferences.videoCodecConfig ≠ .forceAv1 || f.isAv1 else !f.isAv1) &&
          (hevcOn l || !f.isH265)) && decodable l (prepared l) f)) := by
    rw [tenForced, decodableInCommon, ofForced, List.any_filter]
    congr 1
    funext f
    cases l.computer.offers f <;> cases f.is10Bit <;> simp
  rw [hkept]
  generalize av1InCommon l (prepared l).formats = av1 at hav1 ⊢
  rw [any_offers_prepared h, formats420, prepared_formats_forced hauto hh264,
    any_two (ten_420 l _), (forced_any _ _ _ false _ _).2]
  by_cases hforce : l.preferences.videoCodecConfig = .forceAv1
  · cases av1 <;>
      simp [hforce, VideoFormat.isAv1, VideoFormat.isH265, decodable_eq, Bool.and_left_comm]
  · have hnone : av1 = false := by simp [hav1, hforce]
    simp [hforce, hnone, VideoFormat.isAv1, VideoFormat.isH265, decodable_eq,
      Bool.and_left_comm]

theorem checked_head?_forced : ((prepared l).checked l).formats.head? = some (
    if av1InCommon l (prepared l).formats then
      if tenForced l then .av1Main10 else .av1Main8
    else if hevcOn l then
      if tenForced l then .h265Main10 else .h265
    else .h264) := by
  have hav1 := av1InCommon_forced h hauto hh264
  have hten := tenForced_eq h hauto hh264
  have hkept : ∀ f ∈ formats420 l, keptCodecs l (prepared l) (prepared l).formats f =
      keptForced (l.preferences.videoCodecConfig = .forceAv1) l.preferences.enableHdr
        (av1InCommon l (prepared l).formats) (hevcOn l) (tenForced l) (decodes l .av1Main10)
        (decodes l .h265Main10) f :=
    fun f hf => keptCodecs_forced hauto hh264 (List.mem_of_mem_filter hf)
  rw [checked_head?_420 l h, List.find?_congr hkept]
  generalize av1InCommon l (prepared l).formats = av1 at hav1 hten ⊢
  rw [formats420, prepared_formats_forced hauto hh264, forced_find?, hten]
  cases av1 with
  | false => cases hevcOn l <;> cases decodes l .h265Main10 <;> simp
  | true =>
      have hforce : l.preferences.videoCodecConfig = .forceAv1 := by
        by_contra hne
        simp [hne] at hav1
      cases decodes l .av1Main10 <;> simp [hforce]

end

end Unused

/-! ### Is the locked format offered? -/

theorem validateLaunch_true {s : Session} (h : (s.validateLaunch l).1 = true) :
    (s.validateLaunch l).2 = s.checked l := by
  revert h
  unfold validateLaunch finalChecks
  split
  · exact fun h => by cases h
  · split
    · exact fun h => by cases h
    · split
      · exact fun h => by cases h
      · split
        · exact fun h => by cases h
        · exact fun _ => rfl

/-- `initialize` locks in the front of the checked list. -/
theorem initializeSession_locked (h : ((prepared l).validateLaunch l).1 = true) :
    (initializeSession l).2.supportedVideoFormats = ((prepared l).checked l).formats.head? := by
  rw [initializeSession, ← validateLaunch_true l h]
  simp only [h, if_true]

/-- Every format that is left comes from the list of `initialize`, or is H.264. -/
theorem mem_checked {f : VideoFormat} (hf : f ∈ ((prepared l).checked l).formats) :
    f = .h264 ∨ f ∈ (prepared l).formats ∧ (usesYuv444 l = true → l.computer.offers f = true) := by
  rw [checked_formats] at hf
  split at hf
  · exact .inl (List.mem_singleton.mp hf)
  · right
    cases hused : usesYuv444 l with
    | false =>
        rw [(narrows_checkYuv444 l _ hused).mem, (narrows_checkCodecs l _).mem] at hf
        exact ⟨hf.1.1, by simp⟩
    | true =>
        have hmem := (checkYuv444_suffix _ hused).mem hf
        rw [List.mem_filter, (narrows_checkCodecs l _).mem] at hmem
        exact ⟨hmem.1.1, fun _ => hmem.2⟩

/-- The host that is used for HEVC encodes what is asked of it. -/
def HevcComplete : Prop :=
  hevcOn l = true → l.computer.offers .h265 = true ∨
    l.preferences.enableHdr = true ∧ l.computer.offers .h265Main10 = true ∧
      probe l .h265Main10 ≠ .none

/-- The same for `VCC_AUTO`. Where HDR can use a 10-bit format of the host, the one that
comes first has to be offered; else SCM_HEVC has to be where HEVC comes first. -/
def AutoComplete : Prop :=
  let hevc := hevcOn l && !noHevc l
  let hevc10 := l.preferences.enableHdr && hevc && !noHevc10 l
  let av110 := l.preferences.enableHdr && !noAv110 l
  if hevc10 && l.computer.offers .h265Main10 || av110 && l.computer.offers .av1Main10 then
    if hevc10 && (lateAv1 l ||
        !(l.computer.offers .av1Main8 || l.computer.offers .av1Main10)) then
      l.computer.offers .h265Main10 = true
    else l.computer.offers .av1Main10 = true
  else
    hevc && !lateHevc l → l.computer.offers .h265 = true ∨
      l.computer.offers .av1Main8 = true ∧ lateAv1 l = false

/-- The condition under which the host encodes the format that a launch locks in. -/
def HostComplete : Prop :=
  usesYuv444 l = true ∨
    match l.preferences.videoCodecConfig with
    | .auto => AutoComplete l
    | .forceH264 => True
    | .forceHevc | .forceHevcHdrDeprecated => HevcComplete l
    | .forceAv1 =>
        if l.computer.offers .av1Main8 ||
            l.preferences.enableHdr && l.computer.offers .av1Main10 then
          l.computer.offers .av1Main8 = true ∨ probe l .av1Main10 ≠ .none
        else HevcComplete l

/-- The modes of the host, as far as a launch without 4:4:4 can ask for them. -/
def offered (a8 a10 h8 h10 : Bool) : Mask
  | .av1Main8 => a8
  | .av1Main10 => a10
  | .h265 => h8
  | .h265Main10 => h10
  | _ => true

theorem autoFront_offered : ∀ hdr noHevc10 noAv110 lateHevc lateAv1 noHevc a8 a10 h8 h10 hevcOn,
    (noAv110 = true → noHevc10 = true) →
    offered a8 a10 h8 h10 (autoFront hdr noHevc10 noAv110 lateHevc lateAv1 noHevc
        (a8 || (hdr && !noAv110 && a10)) hevcOn
        (hdr && (!noAv110 && a10 || !noHevc10 && !noHevc && (h10 && hevcOn)))) =
      if hdr && (hevcOn && !noHevc) && !noHevc10 && h10 || hdr && !noAv110 && a10 then
        if hdr && (hevcOn && !noHevc) && !noHevc10 && (lateAv1 || !(a8 || a10)) then h10 else a10
      else !(hevcOn && !noHevc && !lateHevc) || (h8 || a8 && !lateAv1) := by
  decide +kernel

variable {l}

/-- A front that is one of these formats is offered where the bit of its mode is there. -/
theorem offers_eq_offered (hh264 : l.computer.offers .h264 = true) {f : VideoFormat}
    (hf : f = .av1Main8 ∨ f = .av1Main10 ∨ f = .h265 ∨ f = .h265Main10 ∨ f = .h264) :
    l.computer.offers f = offered (l.computer.offers .av1Main8) (l.computer.offers .av1Main10)
      (l.computer.offers .h265) (l.computer.offers .h265Main10) f := by
  rcases hf with rfl | rfl | rfl | rfl | rfl
  all_goals first | rfl | exact hh264

theorem autoFront_cases : ∀ hdr noHevc10 noAv110 lateHevc lateAv1 noHevc av1 hevc ten,
    let f := autoFront hdr noHevc10 noAv110 lateHevc lateAv1 noHevc av1 hevc ten
    f = .av1Main8 ∨ f = .av1Main10 ∨ f = .h265 ∨ f = .h265Main10 ∨ f = .h264 := by
  decide +kernel

theorem front_offered_auto (hh264 : l.computer.offers .h264 = true)
    (h : usesYuv444 l = false) (hauto : l.preferences.videoCodecConfig = .auto) {f : VideoFormat}
    (hf : ((prepared l).checked l).formats.head? = some f) :
    l.computer.offers f = true ↔ AutoComplete l := by
  have hno : noAv110 l = true → noHevc10 l = true := fun hav1 =>
    (Bool.and_eq_true_iff.mp hav1).1
  rw [checked_head?_auto h hauto, av1InCommon_auto h hauto, tenInCommon_auto h hauto,
    Option.some.injEq] at hf
  subst hf
  rw [offers_eq_offered hh264 (autoFront_cases ..), autoFront_offered _ _ _ _ _ _ _ _ _ _ _ hno,
    AutoComplete]
  split
  · split <;> rfl
  · cases hevcOn l && !noHevc l && !lateHevc l <;> simp

theorem front_offered_hevc (hh264 : l.computer.offers .h264 = true) {f : VideoFormat}
    (hf : f = if hevcOn l then
      if l.preferences.enableHdr &&
          (hevcOn l && (l.computer.offers .h265Main10 && decodes l .h265Main10)) then .h265Main10
      else .h265
      else .h264) :
    l.computer.offers f = true ↔ HevcComplete l := by
  cases hhevc : hevcOn l with
  | false => simp [hf, hhevc, HevcComplete, hh264]
  | true =>
      cases hoffers : l.computer.offers .h265Main10 with
      | false => simp [hf, hhevc, HevcComplete, hoffers]
      | true =>
          cases hhdr : l.preferences.enableHdr with
          | false => simp [hf, hhevc, HevcComplete, hhdr]
          | true =>
              by_cases hprobe : probe l .h265Main10 = .none
              · simp [hf, hhevc, HevcComplete, hoffers, decodes, hprobe]
              · simp [hf, hhevc, HevcComplete, hoffers, decodes, hprobe, hhdr]

theorem front_offered_forced (hh264 : l.computer.offers .h264 = true)
    (h : usesYuv444 l = false) (hauto : l.preferences.videoCodecConfig ≠ .auto)
    (hforce : l.preferences.videoCodecConfig ≠ .forceH264) {f : VideoFormat}
    (hf : ((prepared l).checked l).formats.head? = some f) :
    l.computer.offers f = true ↔
      if decide (l.preferences.videoCodecConfig = .forceAv1) && (l.computer.offers .av1Main8 ||
          l.preferences.enableHdr && l.computer.offers .av1Main10) then
        l.computer.offers .av1Main8 = true ∨ probe l .av1Main10 ≠ .none
      else HevcComplete l := by
  rw [checked_head?_forced h hauto hforce, tenForced_eq h hauto hforce,
    av1InCommon_forced h hauto hforce, Option.some.injEq] at hf
  split
  · rename_i hav1
    rw [if_pos hav1, if_pos hav1] at hf
    subst hf
    cases h8 : l.computer.offers .av1Main8 with
    | true => split <;> simp_all
    | false =>
        -- without its 8-bit mode, AV1 stays for the sake of the 10-bit one
        obtain ⟨-, hten⟩ : _ ∧ l.preferences.enableHdr = true ∧
            l.computer.offers .av1Main10 = true := by simpa [h8] using hav1
        by_cases hprobe : probe l .av1Main10 = .none
        · simp [hten, decodes, hprobe, h8]
        · simp [hten, decodes, hprobe]
  · rename_i hav1
    rw [if_neg hav1, if_neg hav1] at hf
    exact front_offered_hevc hh264 hf.symm

theorem checked_head?_h264 (h : usesYuv444 l = false)
    (hforce : l.preferences.videoCodecConfig = .forceH264) :
    ((prepared l).checked l).formats.head? = some .h264 := by
  have hlist : formats420 l = [.h264] := by
    rw [formats420, prepared, initialFormats, codecFormats, hforce]
    cases l.preferences.enableYUV444 <;> cases l.preferences.enableHdr <;> rfl
  rw [checked_head?_420 l h, hlist, List.find?_singleton]
  split <;> rfl

/-- **The locked format, exactly where the host offers it.** Of the launches that
`validateLaunch` lets through, just those of a `HostComplete` host lock in a format whose
mode the host advertises. The format has 10 bits only with HDR, and is 4:4:4 only where
that is enabled. -/
theorem locked_format_offered_iff (l : Launch) (hh264 : l.computer.offers .h264 = true)
    (hok : ((prepared l).validateLaunch l).1 = true) :
    (∃ f, (initializeSession l).2.supportedVideoFormats = some f ∧ l.computer.offers f = true ∧
      (f.is10Bit = true → l.preferences.enableHdr = true) ∧
      (f.isYuv444 = true → l.preferences.enableYUV444 = true)) ↔ HostComplete l := by
  obtain ⟨f, hf⟩ : ∃ f, ((prepared l).checked l).formats.head? = some f :=
    ⟨_, checked_head? l (prepared l)⟩
  have hmem := mem_checked l (List.mem_of_mem_head? hf)
  have hten : f.is10Bit = true → l.preferences.enableHdr = true := by
    rcases hmem with rfl | ⟨hmem, -⟩
    · exact fun h => by cases h
    · exact prepared_10Bit l hmem
  have hyuv : f.isYuv444 = true → l.preferences.enableYUV444 = true := by
    rcases hmem with rfl | ⟨hmem, -⟩
    · exact fun h => by cases h
    · exact prepared_yuv444 l hmem
  have hoffers : l.computer.offers f = true ↔ HostComplete l := by
    cases hused : usesYuv444 l with
    | true =>
        refine iff_of_true ?_ (Or.inl hused)
        rcases hmem with rfl | ⟨-, hmem⟩
        · exact hh264
        · exact hmem hused
    | false =>
        rw [HostComplete, hused]
        simp only [Bool.false_eq_true, false_or]
        cases hcodec : l.preferences.videoCodecConfig with
        | auto => exact front_offered_auto hh264 hused hcodec hf
        | forceH264 =>
            rw [checked_head?_h264 hused hcodec, Option.some.injEq] at hf
            simp [← hf, hh264]
        | _ =>
            simpa [hcodec] using front_offered_forced hh264 hused (by simp [hcodec])
              (by simp [hcodec]) hf
  rw [initializeSession_locked l hok, hf, ← hoffers]
  constructor
  · rintro ⟨g, hg, hg', -⟩
    rw [Option.some.inj hg]
    exact hg'
  · exact fun hf' => ⟨f, rfl, hf', hten, hyuv⟩

/-- A launch with HDR and automatic settings, on a client that decodes everything in software
and a host that has the given modes. -/
def softwareLaunch (modes : CodecModes) : Launch where
  preferences := {
    width := 1920
    height := 1080
    fps := 60
    audioConfig := .stereo
    videoCodecConfig := .auto
    videoDecoderSelection := .auto
    rendererSelection := .auto
    enableHdr := true
    enableYUV444 := false
    absoluteMouseMode := false
    configurationWarnings := true }
  computer := {
    name := "host"
    isSupportedServerVersion := true
    isNvidiaServerSoftware := false
    gfeVersion := "3.23.0.74"
    maxLumaPixelsHEVC := 1869449984
    serverCodecModeSupport := modes }
  isAppCollectorGame := false
  platform := ⟨false, true, false, true⟩
  chooseDecoder := fun _ _ _ _ _ _ => some false
  testAudio := fun _ => true
  unmappedGamepads := false

/-- A host with all modes gets what it offers. -/
theorem locked_format_offered_all :
    ∃ f, (initializeSession (softwareLaunch fun _ => true)).2.supportedVideoFormats = some f ∧
      (softwareLaunch fun _ => true).computer.offers f = true ∧
      (f.is10Bit = true → true = true) ∧ (f.isYuv444 = true → false = true) :=
  (locked_format_offered_iff (softwareLaunch fun _ => true) rfl (by decide +kernel)).mpr
    (Or.inr (show AutoComplete _ from (rfl : true = true)))

/-- A host with 8-bit AV1 and 10-bit HEVC: the list keeps AV1 for its 8-bit format and the
10-bit formats for HEVC's, and AV1 Main10 comes first. -/
theorem locked_format_not_offered :
    ¬ ∀ l : Launch, l.computer.offers .h264 = true →
      (l.computer.maxLumaPixelsHEVC = 0 ↔
        ∀ m, m.isHevc = true → l.computer.serverCodecModeSupport m = false) →
      ((prepared l).validateLaunch l).1 = true →
      ∃ f, (initializeSession l).2.supportedVideoFormats = some f ∧
        l.computer.offers f = true ∧ (f.is10Bit = true → l.preferences.enableHdr = true) ∧
        (f.isYuv444 = true → l.preferences.enableYUV444 = true) := by
  intro h
  let modes : CodecModes := fun m => m = .h264 || m = .hevc || m = .hevcMain10 || m = .av1Main8
  have hlocked : (initializeSession (softwareLaunch modes)).2.supportedVideoFormats =
      some .av1Main10 := by decide +kernel
  obtain ⟨f, hf, hoffers, -⟩ := h (softwareLaunch modes) rfl
    (iff_of_false (by decide) fun hnone => absurd (hnone .hevc rfl) (by decide))
    (by decide +kernel)
  rw [hlocked] at hf
  rw [← Option.some.inj hf] at hoffers
  exact absurd hoffers (by decide)

end GilStreaming.Streaming.Session
