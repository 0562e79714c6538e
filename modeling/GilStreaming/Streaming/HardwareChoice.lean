import GilStreaming.Streaming.CodecChoice

/-!
# GilStreaming.Streaming.HardwareChoice

Launches with hardware decoding forced.

The last check of `validateLaunch` asks for a hardware decoder of the front, but not where
the list has a 10-bit format, since HDR was checked before. The 10-bit formats come first,
so the check is skipped just for a front of 10 bits, and that front need not be what was
probed before: `VCC_AUTO` probes the 4:4:4 profiles where 4:4:4 is enabled, though the host
may lack them, and it does not probe AV1 where it finds HEVC, though the host may lack that.
-/

namespace GilStreaming.Streaming.Session

open SupportedVideoFormatList

variable (l : Launch)

/-! ### The condition -/

/-- The stream after the check of 4K, for which the decoders are asked in the end. -/
def finalStream : Session := (requested l).check4K l

/-- A decoder in hardware is there for the format and the resolution of the stream. -/
def InHardware (f : VideoFormat) : Prop :=
  (finalStream l).getDecoderAvailability l f = .hardware

instance (f : VideoFormat) : Decidable (InHardware l f) :=
  inferInstanceAs (Decidable (_ = DecoderAvailability.hardware))

/-- Of a forced codec, the 4:4:4 profile comes first where it is used, offered and decoded
at the resolution of the settings, and then its Main10 profile. -/
def ForcedInHardware (yuv444 main10 : VideoFormat) : Prop :=
  if usesYuv444 l && l.computer.offers yuv444 && probe l yuv444 = .hardware then
    InHardware l yuv444
  else
    l.computer.offers main10 && probe l main10 = .hardware → InHardware l main10

/-- With `VCC_AUTO`, the 10-bit format that comes first. -/
def AutoInHardware : Prop :=
  let hevc := hevcOn l && !noHevc l
  if probe l (hevc10 l) = .hardware then
    if usesYuv444 l then
      if hevc && l.computer.offers .h265Rext10_444 then InHardware l .h265Rext10_444
      else if l.computer.offers .av1High10_444 && probe l .av1High10_444 = .hardware then
        InHardware l .av1High10_444
      else if hevc && l.computer.offers .h265Main10 then InHardware l .h265Main10
      else l.computer.offers .av1Main10 → InHardware l .av1Main10
    else if hevc && (l.computer.offers .h265Main10 || l.computer.offers .av1Main10) then
      InHardware l .h265Main10
    else l.computer.offers .av1Main10 → InHardware l .av1Main10
  else if probe l (av110 l) = .hardware then
    if usesYuv444 l && l.computer.offers .av1High10_444 then InHardware l .av1High10_444
    else l.computer.offers .av1Main10 → InHardware l .av1Main10
  else True

/-- The host offers AV1 with HDR, in a profile that the settings allow. -/
def offersAv1 : Bool :=
  l.computer.offers .av1Main8 || l.computer.offers .av1Main10 ||
    l.preferences.enableYUV444 &&
      (l.computer.offers .av1High8_444 || l.computer.offers .av1High10_444)

/-- Without HDR there is no 10-bit format. With it, the one that comes first has to be
decoded in hardware. -/
def HdrInHardware : Prop :=
  l.preferences.enableHdr = true →
    match l.preferences.videoCodecConfig with
    | .auto => AutoInHardware l
    | .forceH264 => True
    | .forceHevc | .forceHevcHdrDeprecated =>
        hevcOn l = true → ForcedInHardware l .h265Rext10_444 .h265Main10
    | .forceAv1 =>
        if offersAv1 l then ForcedInHardware l .av1High10_444 .av1Main10
        else hevcOn l = true → ForcedInHardware l .h265Rext10_444 .h265Main10

/-- The resolution is beyond what a host with Nvidia's software encodes. -/
def overLimit : Bool :=
  ((finalStream l).width > 4096 || (finalStream l).height > 4096) &&
    l.computer.isNvidiaServerSoftware &&
    (l.computer.maxLumaPixelsHEVC = 0 || !l.computer.serverCodecModeSupport .hevcMain10)

/-! ### 10-bit formats come first -/

/-- No 10-bit format stands behind one of 8 bits. -/
def TensFirst (formats : List VideoFormat) : Prop :=
  formats.Pairwise fun f g => g.is10Bit = true → f.is10Bit = true

theorem tensFirst_prepared : TensFirst (prepared l).formats := by
  rw [prepared, initialFormats]
  split
  · refine List.pairwise_of_forall_mem_list fun f _ g hg hten => ?_
    simp [hten] at hg
  · refine List.pairwise_append.mpr ⟨?_, ?_, ?_⟩
    · refine List.pairwise_of_forall_mem_list fun f hf g _ _ => ?_
      simpa using (mem_removeByMask.mp hf).2
    · refine List.pairwise_of_forall_mem_list fun f _ g hg hten => ?_
      simp [hten] at hg
    · intro f _ g hg hten
      simp [hten] at hg

/-- What is left before the last resort is a part of the list of `initialize`. -/
theorem checkYuv444_sublist :
    (((prepared l).checkCodecs l).checkYuv444 l).formats.Sublist (prepared l).formats := by
  have hcodecs : ((prepared l).checkCodecs l).formats.Sublist (prepared l).formats := by
    rw [(narrows_checkCodecs l _).formats]
    exact List.filter_sublist
  cases hused : usesYuv444 l with
  | false =>
      rw [(narrows_checkYuv444 l _ hused).formats]
      exact List.filter_sublist.trans hcodecs
  | true => exact ((checkYuv444_suffix _ hused).sublist.trans List.filter_sublist).trans hcodecs

theorem tensFirst_checked : TensFirst ((prepared l).checked l).formats := by
  rw [checked_formats]
  split
  · exact List.pairwise_singleton _ _
  · exact (tensFirst_prepared l).sublist (checkYuv444_sublist l)

/-- With a front of 8 bits there is no 10-bit format. -/
theorem no_tens_of_front {formats : List VideoFormat} (h : TensFirst formats) {f : VideoFormat}
    (hf : formats.head? = some f) (height : f.is10Bit = false) :
    formats.any VideoFormat.is10Bit = false := by
  cases formats with
  | nil => cases hf
  | cons g rest =>
      obtain rfl : g = f := Option.some.inj hf
      have hrest := (List.pairwise_cons.mp h).1
      simpa [height] using fun f hf => Bool.eq_false_iff.mpr fun hten =>
        absurd (hrest f hf hten) (by simp [height])

/-! ### What the last checks look at -/

theorem sameStream_final : SameStream (finalStream l) ((prepared l).checked l) := by
  have hcodecs := (narrows_checkCodecs l (prepared l)).toSameStream
  have hyuv : SameStream (prepared l) (((prepared l).checkCodecs l).checkYuv444 l) := by
    cases hused : usesYuv444 l with
    | false => exact hcodecs.trans (narrows_checkYuv444 l _ hused).toSameStream
    | true => exact hcodecs.trans (checkYuv444_stream _ hused)
  have hrequested : SameStream (requested l) (prepared l) := ⟨rfl, rfl, rfl⟩
  exact (sameStream_check4K l hrequested).trans (sameStream_checked l _ hyuv)

theorem decoder_final (f : VideoFormat) :
    ((prepared l).checked l).getDecoderAvailability l f = .hardware ↔ InHardware l f := by
  rw [(sameStream_final l).decoder, InHardware]

/-- A refusal with a message, or a front that is decoded in hardware. -/
def Honoured (r : Bool × Session) : Prop :=
  if r.1 then
    ∃ f, r.2.formats.head? = some f ∧ r.2.getDecoderAvailability l f = .hardware
  else r.2.launchErrors ≠ []

theorem honoured_refused (s : Session) (text : String) :
    Honoured l (false, s.displayLaunchError text) := by
  simp [Honoured, displayLaunchError]

theorem not_honoured {r : Bool × Session} (hpassed : r.1 = true) {f : VideoFormat}
    (hf : r.2.formats.head? = some f) (hsoft : r.2.getDecoderAvailability l f ≠ .hardware) :
    ¬ Honoured l r := by
  rw [Honoured, if_pos hpassed, hf]
  rintro ⟨g, hg, hhardware⟩
  exact hsoft (Option.some.inj hg ▸ hhardware)

theorem finalChecks_limit (hlimit : overLimit l = true) :
    Honoured l (((prepared l).checked l).finalChecks l) := by
  rw [overLimit, ← (sameStream_final l).width, ← (sameStream_final l).height] at hlimit
  rw [finalChecks, if_pos hlimit]
  exact honoured_refused l _ _

/-- A list with a 10-bit format passes what comes after the check of the resolution. -/
theorem finalChecks_tens (hlimit : overLimit l = false)
    (hten : ((prepared l).checked l).formats.any VideoFormat.is10Bit = true) :
    ((prepared l).checked l).finalChecks l = (true, (prepared l).checked l) := by
  have hother : (((prepared l).checked l).formats.any fun f => !f.isH264) = true := by
    obtain ⟨f, hmem, hf⟩ := List.any_eq_true.mp hten
    exact List.any_eq_true.mpr ⟨f, hmem, by revert hf; cases f <;> decide⟩
  rw [overLimit, ← (sameStream_final l).width, ← (sameStream_final l).height] at hlimit
  rw [finalChecks, if_neg (Bool.eq_false_iff.mp hlimit), hother, hten]
  simp only [Bool.not_true, Bool.and_false, Bool.false_eq_true, if_false, false_and, and_false]

/-- Any other list is checked for the decoder of its front. -/
theorem finalChecks_eights (hforce : l.preferences.videoDecoderSelection = .forceHardware)
    {f : VideoFormat} (hf : ((prepared l).checked l).formats.head? = some f)
    (hten : ((prepared l).checked l).formats.any VideoFormat.is10Bit = false) :
    Honoured l (((prepared l).checked l).finalChecks l) := by
  unfold finalChecks
  split
  · exact honoured_refused l _ _
  · split
    · exact honoured_refused l _ _
    · split
      · exact honoured_refused l _ _
      · rename_i hpassed
        refine (if_pos rfl).mpr ⟨f, hf, ?_⟩
        by_contra hsoft
        exact hpassed ⟨hforce, by rw [hten]; rfl, by rw [hf]; simpa using hsoft⟩

/-- The launch is let through only with a front that is decoded in hardware, and a launch
that is refused shows an error. -/
def HonoursHardware : Prop := Honoured l ((prepared l).validateLaunch l)

/-- The last checks leave a front of 10 bits alone. -/
theorem honoursHardware_iff_front {f : VideoFormat}
    (hforce : l.preferences.videoDecoderSelection = .forceHardware)
    (hf : ((prepared l).checked l).formats.head? = some f) :
    HonoursHardware l ↔ l.computer.isSupportedServerVersion = false ∨ overLimit l = true ∨
      (f.is10Bit = true → InHardware l f) := by
  rw [HonoursHardware, validateLaunch]
  cases hsupported : l.computer.isSupportedServerVersion with
  | false => exact iff_of_true (honoured_refused l _ _) (.inl rfl)
  | true =>
      rw [if_neg (by simp)]
      cases hlimit : overLimit l with
      | true => exact iff_of_true (finalChecks_limit l hlimit) (.inr (.inl rfl))
      | false =>
          cases hten : f.is10Bit with
          | false =>
              refine iff_of_true (finalChecks_eights l hforce hf ?_) (.inr (.inr fun h => ?_))
              · exact no_tens_of_front (tensFirst_checked l) hf hten
              · cases h
          | true =>
              rw [finalChecks_tens l hlimit
                (List.any_eq_true.mpr ⟨f, List.mem_of_mem_head? hf, hten⟩)]
              simp [Honoured, hf, decoder_final]

/-! ### The decisions of `VCC_AUTO` with HDR -/

section Decisions

variable {l} (hhdr : l.preferences.enableHdr = true)

include hhdr

theorem decisions_hardware (h : probe l (hevc10 l) = .hardware) :
    noHevc10 l = false ∧ noAv110 l = false ∧ lateHevc l = false ∧ lateAv1 l = true := by
  simp [noHevc10, noAv110, lateHevc, lateAv1, hevcDA, hhdr, h]

theorem decisions_none (h : probe l (hevc10 l) = .none) :
    noHevc10 l = true ∧ (noAv110 l = decide (probe l (av110 l) = .none)) := by
  simp [noHevc10, noAv110, hhdr, h]

end Decisions

/-! ### The front, where YUV 4:4:4 is used -/

/-- The first format that passes has 10 bits just if it is the first 10-bit one to pass. -/
theorem ten_front {formats : List VideoFormat} (h : TensFirst formats) (p : Mask)
    (Q : VideoFormat → Prop) :
    (((formats.find? p).getD .h264).is10Bit = true → Q ((formats.find? p).getD .h264)) ↔
      ∀ g, (formats.filter VideoFormat.is10Bit).find? p = some g → Q g := by
  induction formats with
  | nil => simp [VideoFormat.is10Bit]
  | cons f rest ih =>
      obtain ⟨hrest, htail⟩ := List.pairwise_cons.mp h
      cases hp : p f with
      | false =>
          rw [List.find?_cons_of_neg (by simp [hp]), ih htail]
          cases hf : f.is10Bit <;> simp [hf, hp]
      | true =>
          rw [List.find?_cons_of_pos hp, Option.getD_some]
          cases hf : f.is10Bit with
          | true => simp [hf, hp]
          | false =>
              have hnone : rest.filter VideoFormat.is10Bit = [] := by
                simpa using fun g hg => Bool.eq_false_iff.mpr fun hten =>
                  absurd (hrest g hg hten) (by simp [hf])
              simp [hf, hnone]

/-- The first format that passes, one by one. -/
theorem first_cons (f : VideoFormat) (rest : List VideoFormat) (p : Mask)
    (Q : VideoFormat → Prop) : (∀ g, (f :: rest).find? p = some g → Q g) ↔
      if p f = true then Q f else ∀ g, rest.find? p = some g → Q g := by
  cases hp : p f <;> simp [hp]

section Used

variable {l} (h : usesYuv444 l = true)
  (hforce : l.preferences.videoDecoderSelection = .forceHardware)

include h hforce

theorem checked_head?_used : ((prepared l).checked l).formats.head? = some
    (((prepared l).formats.find? fun f => keptCodecs l (prepared l) (prepared l).formats f &&
      (l.computer.offers f && (!f.isYuv444 || probe l f = .hardware))).getD .h264) := by
  have hcodecs := narrows_checkCodecs l (prepared l)
  rw [checked_head?, checkYuv444_head? _ h hforce, hcodecs.formats, List.find?_filter,
    List.find?_filter]
  simp only [hcodecs.decoder, probe, Bool.decide_and, Bool.decide_eq_true]
  rfl

/-- The front, by the 10-bit formats of the list and by what is kept of them. -/
theorem front_used {kept : Mask} (hkept : ∀ f ∈ (prepared l).formats, f.is10Bit = true →
      l.computer.offers f = true → keptCodecs l (prepared l) (prepared l).formats f = kept f)
    {f : VideoFormat} (hf : ((prepared l).checked l).formats.head? = some f) :
    (f.is10Bit = true → InHardware l f) ↔
      ∀ g, ((prepared l).formats.filter VideoFormat.is10Bit).find? (fun f =>
        l.computer.offers f && (kept f && (!f.isYuv444 || probe l f = .hardware))) = some g →
          InHardware l g := by
  rw [checked_head?_used h hforce, Option.some.injEq] at hf
  rw [← hf, ten_front (tensFirst_prepared l) _ (InHardware l)]
  have hfind : ((prepared l).formats.filter VideoFormat.is10Bit).find? (fun f =>
      keptCodecs l (prepared l) (prepared l).formats f && (l.computer.offers f &&
        (!f.isYuv444 || probe l f = .hardware))) =
      ((prepared l).formats.filter VideoFormat.is10Bit).find? fun f =>
        l.computer.offers f && (kept f && (!f.isYuv444 || probe l f = .hardware)) := by
    refine List.find?_congr fun f hf => ?_
    obtain ⟨hmem, hten⟩ := List.mem_filter.mp hf
    cases hoffers : l.computer.offers f with
    | false => simp
    | true => rw [hkept f hmem hten hoffers, Bool.true_and, Bool.true_and]
  rw [hfind]

omit h hforce

theorem arranged_tens : ∀ lateHevc lateAv1 noHevc,
    (arranged true true false false false true noHevc).filter VideoFormat.is10Bit =
      (if noHevc then [.av1High10_444, .av1Main10]
      else [.h265Rext10_444, .av1High10_444, .h265Main10, .av1Main10]) ∧
    (arranged true true true false lateHevc lateAv1 noHevc).filter VideoFormat.is10Bit =
      [.av1High10_444, .av1Main10] ∧
    (arranged true true true true lateHevc lateAv1 noHevc).filter VideoFormat.is10Bit = [] := by
  decide +kernel

/-- What the checks of the codecs keep of the 10-bit formats that the host offers: AV1 is
in common then, and a 10-bit format too. -/
theorem keptCodecs_auto_used (hauto : l.preferences.videoCodecConfig = .auto) {f : VideoFormat}
    (hf : f ∈ (prepared l).formats) (hten : f.is10Bit = true)
    (hoffers : l.computer.offers f = true) :
    keptCodecs l (prepared l) (prepared l).formats f = (hevcOn l || !f.isH265) := by
  rw [keptCodecs_auto l hauto]
  have hav1 : (av1InCommon l (prepared l).formats || !f.isAv1) = true := by
    cases hisAv1 : f.isAv1 with
    | false => simp
    | true =>
        have hcommon : av1InCommon l (prepared l).formats = true :=
          List.any_eq_true.mpr ⟨f, hf, by simp [hoffers, hisAv1]⟩
        simp [hcommon]
  cases hhevc : (hevcOn l || !f.isH265) with
  | false => simp [hav1, hhevc]
  | true =>
      have hcommon : tenInCommon l (prepared l).formats = true :=
        List.any_eq_true.mpr ⟨f, hf, by simp [hoffers, hten, hhevc]⟩
      simp [hav1, hhevc, hcommon]

include h hforce

theorem front_used_auto (hauto : l.preferences.videoCodecConfig = .auto)
    (hhdr : l.preferences.enableHdr = true)
    (hda : ∀ f, probe l f ≠ .software) {f : VideoFormat}
    (hf : ((prepared l).checked l).formats.head? = some f) :
    (f.is10Bit = true → InHardware l f) ↔ AutoInHardware l := by
  have hyuv : l.preferences.enableYUV444 = true := (Bool.and_eq_true_iff.mp h).1
  rw [front_used h hforce (fun _ => keptCodecs_auto_used hauto) hf, prepared_formats_auto l hauto,
    hyuv, hhdr, AutoInHardware]
  cases hhevc : probe l (hevc10 l) with
  | software => exact absurd hhevc (hda _)
  | hardware =>
      obtain ⟨ha, hb, hc, hd⟩ := decisions_hardware hhdr hhevc
      have hrext : probe l .h265Rext10_444 = .hardware := by simpa [hevc10, hyuv] using hhevc
      rw [ha, hb, hc, hd, (arranged_tens false false _).1]
      rw [if_pos rfl, if_pos h]
      cases hoff : noHevc l with
      | true =>
          rw [if_pos rfl, first_cons, first_cons]
          simp [VideoFormat.isH265, VideoFormat.isYuv444]
      | false =>
          rw [if_neg Bool.false_ne_true, first_cons, first_cons, first_cons, first_cons]
          simp [VideoFormat.isH265, VideoFormat.isYuv444, hrext, and_comm]
  | none =>
      obtain ⟨ha, hb⟩ := decisions_none hhdr hhevc
      have hav1 : av110 l = .av1High10_444 := if_pos hyuv
      rw [ha, hb, hav1]
      cases hprobe : probe l .av1High10_444 with
      | software => exact absurd hprobe (hda _)
      | none => simp [(arranged_tens _ _ _).2.2]
      | hardware =>
          rw [decide_eq_false (by simp), (arranged_tens _ _ _).2.1, first_cons, first_cons]
          simp [VideoFormat.isH265, VideoFormat.isYuv444, hprobe, h]

omit h hforce

theorem forced_tens : ∀ forceAv1,
    (forcedFormats forceAv1 true true).filter VideoFormat.is10Bit =
      if forceAv1 then [.av1High10_444, .h265Rext10_444, .av1Main10, .h265Main10]
      else [.h265Rext10_444, .h265Main10] := by
  decide +kernel

theorem forced_av1 : ∀ forceAv1, (forcedFormats forceAv1 true true).filter VideoFormat.isAv1 =
    if forceAv1 then [.av1High10_444, .av1Main10, .av1High8_444, .av1Main8] else [] := by
  decide +kernel

section Forced

variable (hauto : l.preferences.videoCodecConfig ≠ .auto)
  (hh264 : l.preferences.videoCodecConfig ≠ .forceH264) (hhdr : l.preferences.enableHdr = true)

include hauto hh264 hhdr

theorem av1InCommon_forced_used (hyuv : l.preferences.enableYUV444 = true) :
    av1InCommon l (prepared l).formats =
      (decide (l.preferences.videoCodecConfig = .forceAv1) && offersAv1 l) := by
  have hfilter : av1InCommon l (prepared l).formats =
      ((prepared l).formats.filter VideoFormat.isAv1).any l.computer.offers := by
    rw [av1InCommon, List.any_filter]
    simp only [Bool.and_comm]
  rw [hfilter, prepared_formats_forced hauto hh264, hyuv, hhdr, forced_av1]
  cases decide (l.preferences.videoCodecConfig = .forceAv1) with
  | false => rfl
  | true =>
      simp only [if_true, List.any_cons, List.any_nil, Bool.or_false, Bool.true_and, offersAv1,
        hyuv]
      cases l.computer.offers .av1Main8 <;> cases l.computer.offers .av1Main10 <;>
        simp [Bool.or_comm]

/-- What the checks of the codecs keep of the 10-bit formats that the host offers. -/
theorem keptCodecs_forced_used (hda : ∀ f, probe l f ≠ .software) {f : VideoFormat}
    (hf : f ∈ (prepared l).formats) (hten : f.is10Bit = true)
    (hoffers : l.computer.offers f = true) :
    keptCodecs l (prepared l) (prepared l).formats f =
      ((if av1InCommon l (prepared l).formats then
        l.preferences.videoCodecConfig ≠ .forceAv1 || f.isAv1 else !f.isAv1) &&
          ((hevcOn l || !f.isH265) && (f.isYuv444 || probe l f = .hardware))) := by
  have hdecodes : decodable l (prepared l) f = (f.isYuv444 || probe l f = .hardware) := by
    rw [decodable_eq]
    cases hprobe : probe l f with
    | software => exact absurd hprobe (hda f)
    | none => cases f <;> simp_all [VideoFormat.is10Bit, VideoFormat.isYuv444, decodes]
    | hardware => cases f <;> simp_all [VideoFormat.is10Bit, VideoFormat.isYuv444, decodes]
  rw [keptCodecs_forced hauto hh264 hf, keptForced, ← decodable_eq, ← hdecodes, hhdr, hten,
    decide_not]
  have hcommon : f ∈ ofForced l → decodable l (prepared l) f = true → tenForced l = true :=
    fun hmem hd => List.any_eq_true.mpr ⟨f, hmem, by simp [hoffers, hten, hd]⟩
  rw [ofForced, List.mem_filter, decide_not] at hcommon
  cases hd : decodable l (prepared l) f with
  | false => simp
  | true =>
      cases hkept : (if av1InCommon l (prepared l).formats then
          !decide (l.preferences.videoCodecConfig = .forceAv1) || f.isAv1 else !f.isAv1) &&
            (hevcOn l || !f.isH265) with
      | false => rw [← Bool.and_assoc, ← Bool.and_assoc, hkept]; rfl
      | true => rw [← Bool.and_assoc, ← Bool.and_assoc, hkept, hcommon ⟨hf, hkept⟩ hd]; rfl

include h hforce in
/-- Where a codec is forced and 4:4:4 is used, its 4:4:4 profile comes before Main10. -/
theorem front_used_forced (hda : ∀ f, probe l f ≠ .software) {f : VideoFormat}
    (hf : ((prepared l).checked l).formats.head? = some f) :
    (f.is10Bit = true → InHardware l f) ↔
      if decide (l.preferences.videoCodecConfig = .forceAv1) && offersAv1 l then
        ForcedInHardware l .av1High10_444 .av1Main10
      else hevcOn l = true → ForcedInHardware l .h265Rext10_444 .h265Main10 := by
  have hyuv : l.preferences.enableYUV444 = true := (Bool.and_eq_true_iff.mp h).1
  have hav1 := av1InCommon_forced_used hauto hh264 hhdr hyuv
  have hkept := fun f hf hten hoffers =>
    keptCodecs_forced_used hauto hh264 hhdr hda (f := f) hf hten hoffers
  rw [← hav1]
  generalize av1InCommon l (prepared l).formats = av1 at hav1 hkept ⊢
  rw [front_used h hforce hkept hf, prepared_formats_forced hauto hh264, hyuv, hhdr,
    forced_tens]
  by_cases hcodec : l.preferences.videoCodecConfig = .forceAv1
  · rw [decide_eq_true hcodec, if_pos rfl, first_cons, first_cons, first_cons, first_cons]
    cases av1 with
    | true =>
        simp [hcodec, VideoFormat.isH265, VideoFormat.isAv1, VideoFormat.isYuv444,
          ForcedInHardware, h]
    | false =>
        cases hevcOn l <;> simp [VideoFormat.isH265, VideoFormat.isAv1, VideoFormat.isYuv444,
          ForcedInHardware, h]
  · obtain rfl : av1 = false := by simp [hav1, hcodec]
    rw [decide_eq_false hcodec, if_neg Bool.false_ne_true, first_cons, first_cons]
    cases hevcOn l <;> simp [VideoFormat.isH265, VideoFormat.isAv1, VideoFormat.isYuv444,
      ForcedInHardware, h]

end Forced

end Used

/-! ### The front, without YUV 4:4:4 -/

/-- A 10-bit front, or one of 8 bits. -/
theorem ten_ite {p : Prop} [Decidable p] {ten eight : VideoFormat} (hten : ten.is10Bit = true)
    (height : eight.is10Bit = false) {Q : VideoFormat → Prop} :
    ((if p then ten else eight).is10Bit = true → Q (if p then ten else eight)) ↔
      (p → Q ten) := by
  split <;> simp [*]

/-- What the front has to be, if it has 10 bits. -/
theorem ten_guard {f : VideoFormat} {Q : VideoFormat → Prop} :
    (f.is10Bit = true → Q f) ↔ ∀ g ∈ Option.guard VideoFormat.is10Bit f, Q g := by
  simp [Option.mem_def, Option.guard_eq_some_iff]

/-- The front where HEVC has been found in hardware for 10 bits. -/
theorem autoFront_hardware : ∀ noHevc hevc av18 av110 main10 : Bool,
    Option.guard VideoFormat.is10Bit (autoFront true false false false true noHevc
      (av18 || true && !false && av110) hevc
      (true && (!false && av110 || !false && !noHevc && (main10 && hevc)))) =
      if hevc && !noHevc && (main10 || av110) then some .h265Main10
      else if av110 then some .av1Main10 else none := by
  decide +kernel

/-- The front where it has not. -/
theorem autoFront_none : ∀ noAv110 lateHevc lateAv1 noHevc hevc av18 av110 main10 : Bool,
    Option.guard VideoFormat.is10Bit (autoFront true true noAv110 lateHevc lateAv1 noHevc
      (av18 || true && !noAv110 && av110) hevc
      (true && (!noAv110 && av110 || !true && !noHevc && (main10 && hevc)))) =
      if !noAv110 && av110 then some .av1Main10 else none := by
  decide +kernel

section Unused

variable {l} (h : usesYuv444 l = false) (hhdr : l.preferences.enableHdr = true)
  (hda : ∀ f, probe l f ≠ .software)

include h hhdr hda

theorem front_unused_auto (hauto : l.preferences.videoCodecConfig = .auto) {f : VideoFormat}
    (hf : ((prepared l).checked l).formats.head? = some f) :
    (f.is10Bit = true → InHardware l f) ↔ AutoInHardware l := by
  rw [checked_head?_auto h hauto, av1InCommon_auto h hauto, tenInCommon_auto h hauto,
    Option.some.injEq, hhdr] at hf
  rw [AutoInHardware, h, ← hf, ten_guard]
  cases hhevc : probe l (hevc10 l) with
  | software => exact absurd hhevc (hda _)
  | hardware =>
      obtain ⟨ha, hb, hc, hd⟩ := decisions_hardware hhdr hhevc
      rw [ha, hb, hc, hd, autoFront_hardware, if_pos rfl, if_neg Bool.false_ne_true]
      split
      · simp
      · split <;> simp [*]
  | none =>
      obtain ⟨ha, hb⟩ := decisions_none hhdr hhevc
      rw [ha, hb, autoFront_none]
      simp only [reduceCtorEq, if_false, Bool.false_and, Bool.false_eq_true]
      cases hprobe : probe l (av110 l) with
      | software => exact absurd hprobe (hda _)
      | hardware => cases l.computer.offers .av1Main10 <;> simp
      | none => simp

theorem front_unused_forced (hauto : l.preferences.videoCodecConfig ≠ .auto)
    (hh264 : l.preferences.videoCodecConfig ≠ .forceH264) {f : VideoFormat}
    (hf : ((prepared l).checked l).formats.head? = some f) :
    (f.is10Bit = true → InHardware l f) ↔
      if decide (l.preferences.videoCodecConfig = .forceAv1) && offersAv1 l then
        ForcedInHardware l .av1High10_444 .av1Main10
      else hevcOn l = true → ForcedInHardware l .h265Rext10_444 .h265Main10 := by
  have hoffers : offersAv1 l = (l.computer.offers .av1Main8 || l.computer.offers .av1Main10) := by
    cases hyuv : l.preferences.enableYUV444 with
    | false => simp [offersAv1, hyuv]
    | true =>
        have h8 : l.computer.offers .av1High8_444 = false := not_offers_of_unused l h hyuv rfl
        have h10 : l.computer.offers .av1High10_444 = false := not_offers_of_unused l h hyuv rfl
        simp [offersAv1, h8, h10]
  have hdecodes : ∀ f, (l.computer.offers f && decodes l f) =
      (l.computer.offers f && decide (probe l f = .hardware)) := by
    intro f
    cases hprobe : probe l f with
    | software => exact absurd hprobe (hda f)
    | none => cases hof : l.computer.offers f <;> simp [decodes, hprobe, hof]
    | hardware => simp [decodes, hprobe]
  rw [checked_head?_forced h hauto hh264, tenForced_eq h hauto hh264,
    av1InCommon_forced h hauto hh264, Option.some.injEq, hhdr, Bool.true_and, Bool.true_and,
    ← hoffers, hdecodes, hdecodes] at hf
  subst hf
  cases hav1 : decide (l.preferences.videoCodecConfig = .forceAv1) && offersAv1 l with
  | true =>
      rw [if_pos rfl, if_pos rfl, if_pos rfl, ten_ite rfl rfl, ForcedInHardware, h]
      simp
  | false =>
      rw [if_neg Bool.false_ne_true, if_neg Bool.false_ne_true, if_neg Bool.false_ne_true]
      cases hhevc : hevcOn l with
      | false => simp [VideoFormat.is10Bit]
      | true =>
          rw [if_pos rfl, ten_ite rfl rfl, ForcedInHardware, h]
          simp

end Unused

theorem front_forced (hforce : l.preferences.videoDecoderSelection = .forceHardware)
    (hauto : l.preferences.videoCodecConfig ≠ .auto)
    (hh264 : l.preferences.videoCodecConfig ≠ .forceH264) (hhdr : l.preferences.enableHdr = true)
    (hda : ∀ f, probe l f ≠ .software) {f : VideoFormat}
    (hf : ((prepared l).checked l).formats.head? = some f) :
    (f.is10Bit = true → InHardware l f) ↔
      if decide (l.preferences.videoCodecConfig = .forceAv1) && offersAv1 l then
        ForcedInHardware l .av1High10_444 .av1Main10
      else hevcOn l = true → ForcedInHardware l .h265Rext10_444 .h265Main10 := by
  cases hused : usesYuv444 l with
  | false => exact front_unused_forced hused hhdr hda hauto hh264 hf
  | true => exact front_used_forced hused hforce hauto hh264 hhdr hda hf

/-- A list of H.264 formats has none of 10 bits. -/
theorem front_h264 (hcodec : l.preferences.videoCodecConfig = .forceH264) {f : VideoFormat}
    (hf : f ∈ ((prepared l).checked l).formats) : f.is10Bit = false := by
  rcases mem_checked l hf with rfl | ⟨hmem, -⟩
  · rfl
  · rw [prepared, initialFormats, codecFormats, hcodec] at hmem
    have hh264 : f.isH264 = true := by
      cases hyuv : l.preferences.enableYUV444 <;> cases hhdr : l.preferences.enableHdr <;>
        simp_all
    revert hh264
    cases f <;> decide

/-- **Hardware decoding forced, exactly where it is honoured.** Where the decoders answer
hardware or nothing, a launch is let through with a front that is decoded in hardware or
refused with an error, just if the host is refused before any decoder is asked, or if with
HDR the 10-bit format that comes first is decoded in hardware. -/
theorem forceHardware_honoured_iff (l : Launch)
    (hforce : l.preferences.videoDecoderSelection = .forceHardware)
    (hda : ∀ f width height fps,
      l.chooseDecoder .forceHardware .probeOnly f width height fps ≠ some false) :
    HonoursHardware l ↔ l.computer.isSupportedServerVersion = false ∨ overLimit l = true ∨
      HdrInHardware l := by
  have hprobe : ∀ f, probe l f ≠ .software := by
    intro f hsoft
    rw [probe, getDecoderAvailability, hforce] at hsoft
    split at hsoft
    · cases hsoft
    · exact hda _ _ _ _ ‹_›
    · cases hsoft
  obtain ⟨f, hf⟩ : ∃ f, ((prepared l).checked l).formats.head? = some f :=
    ⟨_, checked_head? l (prepared l)⟩
  have hmem := List.mem_of_mem_head? hf
  rw [honoursHardware_iff_front l hforce hf]
  suffices hfront : (f.is10Bit = true → InHardware l f) ↔ HdrInHardware l by rw [hfront]
  by_cases hhdr : l.preferences.enableHdr = true
  · rw [HdrInHardware, forall_prop_of_true hhdr]
    cases hcodec : l.preferences.videoCodecConfig with
    | auto =>
        cases hused : usesYuv444 l with
        | false => exact front_unused_auto hused hhdr hprobe hcodec hf
        | true => exact front_used_auto hused hforce hcodec hhdr hprobe hf
    | forceH264 => exact iff_of_true (by simp [front_h264 l hcodec hmem]) trivial
    | _ =>
        simpa [hcodec] using front_forced l hforce (by simp [hcodec]) (by simp [hcodec]) hhdr
          hprobe hf
  · refine iff_of_true (fun hten => ?_) fun h => absurd h hhdr
    rcases mem_checked l hmem with rfl | ⟨hmem, -⟩
    · cases hten
    · exact absurd (prepared_10Bit l hmem hten) hhdr

/-- A launch with hardware decoding forced, HDR and YUV 4:4:4, on a client that decodes some
formats in hardware and a host that has the given modes. -/
def hardwareLaunch (decoded : Mask) (modes : CodecModes) : Launch :=
  let l := softwareLaunch modes
  { l with
    preferences := { l.preferences with
      videoDecoderSelection := .forceHardware
      enableYUV444 := true }
    chooseDecoder := fun _ _ f _ _ _ => if decoded f then some true else none }

/-- All formats decoded, on a host with all modes. -/
theorem forceHardware_honoured_all :
    HonoursHardware (hardwareLaunch (fun _ => true) fun _ => true) :=
  (forceHardware_honoured_iff (hardwareLaunch (fun _ => true) fun _ => true) rfl
    fun _ _ _ _ => by simp [hardwareLaunch]).mpr (.inr (.inr fun _ => rfl))

/-- A client that decodes the 4:4:4 profiles and H.264 in hardware, but not HEVC Main10, on a
host that has Main10 and no 4:4:4 mode: HDR was probed with the 4:4:4 profile. The launch is
let through, and `initialize` fails for want of a decoder without any error. -/
theorem forceHardware_not_honoured :
    ∃ l : Launch, l.preferences.videoDecoderSelection = .forceHardware ∧
      (∀ f width height fps,
        l.chooseDecoder .forceHardware .probeOnly f width height fps ≠ some false) ∧
      ¬ HonoursHardware l ∧
      (initializeSession l).1 = false ∧ (initializeSession l).2.launchErrors = [] := by
  let l := hardwareLaunch (fun f => f.isYuv444 || f.isH264) fun m =>
    m = .h264 || m = .hevc || m = .hevcMain10
  refine ⟨l, rfl, ?_, ?_, by decide +kernel, by decide +kernel⟩
  · intro f width height fps
    show (if _ then some true else none) ≠ some false
    split <;> simp
  · exact not_honoured l (by decide +kernel) (f := .h265Main10) (by decide +kernel)
      (by decide +kernel)

end GilStreaming.Streaming.Session
