import GilStreaming.Streaming.Session

/-!
# GilStreaming.Streaming.Negotiation

What `validateLaunch` leaves of the list of formats.

Every check that does not fail the launch only takes formats out of the list, so each
`Narrows` the session by a mask (`keptAv1`, `keptHevc`, `keptHdr`), and which formats it
takes out depends on the settings, the host and the decoders. The front of the list is
then the first format of the list of `initialize` that every mask lets through.
-/

namespace GilStreaming.Streaming

open SupportedVideoFormatList

/-- The host advertises the `SCM` bit of the format. -/
def Host.offers (c : Host) (f : VideoFormat) : Bool := c.serverCodecModeSupport f.codecMode

theorem codecMode_isAv1 (f : VideoFormat) : f.codecMode.isAv1 = f.isAv1 := by cases f <;> rfl

theorem codecMode_is10Bit (f : VideoFormat) : f.codecMode.is10Bit = f.is10Bit := by
  cases f <;> rfl

theorem codecMode_inj {f g : VideoFormat} : f.codecMode = g.codecMode ↔ f = g := by
  cases f <;> cases g <;> simp [VideoFormat.codecMode]

namespace Session

/-! ### Taking formats out -/

/-- The resolution and the frame rate are as they were. -/
structure SameStream (s s' : Session) : Prop where
  width : s'.width = s.width
  height : s'.height = s.height
  fps : s'.fps = s.fps

/-- From `s` to `s'` the list has lost what `kept` does not let through, and the stream is
the same. -/
structure Narrows (s s' : Session) (kept : Mask) : Prop extends SameStream s s' where
  formats : s'.formats = s.formats.filter kept

section

variable {l : Launch} {s s' s'' : Session} {kept kept' : Mask}

/-- The decoders answer for the resolution and the frame rate. -/
theorem SameStream.decoder (h : SameStream s s') (f : VideoFormat) :
    s'.getDecoderAvailability l f = s.getDecoderAvailability l f := by
  rw [getDecoderAvailability, getDecoderAvailability, h.width, h.height, h.fps]

theorem SameStream.trans (h : SameStream s s') (h' : SameStream s' s'') : SameStream s s'' :=
  ⟨h'.width.trans h.width, h'.height.trans h.height, h'.fps.trans h.fps⟩

theorem Narrows.mem (h : Narrows s s' kept) {f : VideoFormat} :
    f ∈ s'.formats ↔ f ∈ s.formats ∧ kept f = true := by
  rw [h.formats, List.mem_filter]

theorem Narrows.trans (h : Narrows s s' kept) (h' : Narrows s' s'' kept') :
    Narrows s s'' fun f => kept f && kept' f where
  formats := by
    rw [h'.formats, h.formats, List.filter_filter]
    exact List.filter_congr fun f _ => Bool.and_comm _ _
  toSameStream := h.toSameStream.trans h'.toSameStream

/-- Masks that agree on the list are the same. -/
theorem Narrows.congr (h : Narrows s s' kept) (heq : ∀ f ∈ s.formats, kept f = kept' f) :
    Narrows s s' kept' :=
  { h with formats := h.formats.trans (List.filter_congr heq) }

theorem Narrows.of_kept (h : ∀ f ∈ s.formats, kept f = true) : Narrows s s kept :=
  ⟨⟨rfl, rfl, rfl⟩, (List.filter_eq_self.mpr h).symm⟩

theorem narrows_removeByMask (s : Session) (mask : Mask) :
    Narrows s { s with formats := removeByMask s.formats mask } fun f => !mask f :=
  ⟨⟨rfl, rfl, rfl⟩, rfl⟩

theorem narrows_emitLaunchWarning (l : Launch) (s : Session) (text : String) :
    Narrows s (s.emitLaunchWarning l text) fun _ => true := by
  have hself : s.formats = s.formats.filter fun _ => true := (List.filter_true _).symm
  rw [emitLaunchWarning]
  split <;> exact ⟨⟨rfl, rfl, rfl⟩, hself⟩

theorem narrows_warnIf (l : Launch) (s : Session) (p : Bool) (text : String) :
    Narrows s (s.warnIf l p text) fun _ => true := by
  rw [warnIf]
  split
  · exact narrows_emitLaunchWarning l s text
  · exact .of_kept fun _ _ => rfl

/-- Formats are taken out after a warning. -/
theorem Narrows.warned (h : Narrows s s' fun _ => true) (mask : Mask) :
    Narrows s { s' with formats := removeByMask s'.formats mask } fun f => !mask f := by
  simpa using h.trans (narrows_removeByMask s' mask)

end

/-! ### The checks of the codecs -/

/-- The formats that `checkAv1` keeps of a list. -/
def keptAv1 (l : Launch) (formats : List VideoFormat) : Mask := fun f =>
  if formats.any fun f => l.computer.offers f && f.isAv1 then
    l.preferences.videoCodecConfig ≠ .forceAv1 || f.isAv1
  else !f.isAv1

/-- The formats that `checkHevc` keeps. -/
def keptHevc (l : Launch) (formats : List VideoFormat) : Mask := fun f =>
  if l.computer.maxLumaPixelsHEVC = 0 then !f.isH265
  else l.preferences.videoCodecConfig ≠ .forceHevc || !formats.any VideoFormat.isH265 || f.isH265

variable (l : Launch) (s : Session)

theorem narrows_checkSettings : Narrows s (s.checkSettings l) fun _ => true :=
  ((narrows_warnIf l s _ _).trans (narrows_warnIf l _ _ _)).congr fun _ _ => rfl

theorem narrows_checkAv1 : Narrows s (s.checkAv1 l) (keptAv1 l s.formats) := by
  have hcommon : common s.formats (fun m => l.computer.serverCodecModeSupport m && m.isAv1)
      (fun _ => true) = s.formats.any fun f => l.computer.offers f && f.isAv1 := by
    simp only [common_eq, codecMode_isAv1, Bool.and_true, Host.offers]
  rw [checkAv1, hcommon]
  by_cases hany : s.formats.any VideoFormat.isAv1 = true
  · rw [if_pos hany]
    by_cases hoffers : (s.formats.any fun f => l.computer.offers f && f.isAv1) = true
    · simp only [hoffers, Bool.not_true, Bool.false_eq_true, if_false]
      split
      · rename_i hforce
        refine ((narrows_warnIf l s _ _).warned _).congr fun f _ => ?_
        simp [keptAv1, hoffers, hforce]
      · rename_i hforce
        refine (narrows_warnIf l s _ _).congr fun f _ => ?_
        simp [keptAv1, hoffers, hforce]
    · rw [if_pos (by simpa using hoffers)]
      refine ((narrows_warnIf l s _ _).warned _).congr fun f _ => ?_
      simp [keptAv1, hoffers]
  · rw [if_neg hany]
    -- no AV1 format in the list: there is none in common, and none to remove
    refine Narrows.of_kept fun f hf => ?_
    have hnone : ∀ g ∈ s.formats, g.isAv1 = false := by simpa using hany
    have hoffers : (s.formats.any fun f => l.computer.offers f && f.isAv1) = false := by
      simpa using fun g hg _ => hnone g hg
    simp [keptAv1, hoffers, hnone f hf]

theorem narrows_checkHevc : Narrows s (s.checkHevc l) (keptHevc l s.formats) := by
  rw [checkHevc]
  by_cases hany : s.formats.any VideoFormat.isH265 = true
  · rw [if_pos hany]
    by_cases hluma : l.computer.maxLumaPixelsHEVC = 0
    · rw [if_pos hluma]
      refine ((narrows_warnIf l s _ _).warned _).congr fun f _ => ?_
      rw [keptHevc, if_pos hluma]
    · rw [if_neg hluma]
      split
      · rename_i hforce
        refine ((narrows_warnIf l s _ _).warned _).congr fun f _ => ?_
        simp [keptHevc, hluma, hforce, hany]
      · rename_i hforce
        refine (narrows_warnIf l s _ _).congr fun f _ => ?_
        simp [keptHevc, hluma, hforce]
  · rw [if_neg hany]
    refine Narrows.of_kept fun f hf => ?_
    have hnone : ∀ g ∈ s.formats, g.isH265 = false := by simpa using hany
    rw [keptHevc]
    split
    · simp [hnone f hf]
    · simp [Bool.eq_false_iff.mpr hany]

theorem narrows_checkH264 : Narrows s (s.checkH264 l) fun _ => true := by
  unfold checkH264
  split
  · split
    · exact narrows_emitLaunchWarning l s _
    · split <;> exact narrows_emitLaunchWarning l s _
  · exact .of_kept fun _ _ => rfl

/-! ### The checks of HDR -/

/-- A 10-bit profile that a forced codec is checked for and that no decoder is there for. -/
def undecodable (f g : VideoFormat) : Bool :=
  f = g && l.computer.offers g && s.getDecoderAvailability l g = .none

theorem checkMain10_narrows (codec : String) (g : VideoFormat) (displayed : Bool) :
    Narrows s (checkMain10 l g codec (s, displayed)).1 fun f => !undecodable l s f g := by
  have hcommon : common s.formats (fun m => l.computer.serverCodecModeSupport m &&
      m == g.codecMode) (fun _ => true) = (s.formats.contains g && l.computer.offers g) := by
    rw [common_eq, Bool.eq_iff_iff]
    simp only [Bool.and_true, List.any_eq_true, Bool.and_eq_true, beq_iff_eq, codecMode_inj,
      List.contains_iff_mem, Host.offers]
    constructor
    · rintro ⟨f, hf, hoffers, rfl⟩
      exact ⟨hf, hoffers⟩
    · exact fun ⟨hg, hoffers⟩ => ⟨g, hg, hoffers, rfl⟩
  rw [checkMain10, hcommon]
  by_cases hboth : (s.formats.contains g && l.computer.offers g) = true
  · have hoffers : l.computer.offers g = true := (Bool.and_eq_true_iff.mp hboth).2
    rw [if_pos hboth]
    by_cases hnone : s.getDecoderAvailability l g = .none
    · rw [if_pos hnone]
      refine ((narrows_emitLaunchWarning l s _).warned _).congr fun f _ => ?_
      simp [undecodable, hoffers, hnone, Bool.beq_eq_decide_eq]
    · rw [if_neg hnone]
      have hkept : ∀ f ∈ s.formats, true = !undecodable l s f g := by simp [undecodable, hnone]
      split
      · exact (narrows_emitLaunchWarning l s _).congr hkept
      · exact .of_kept fun f hf => (hkept f hf).symm
  · rw [if_neg hboth]
    refine .of_kept fun f hf => ?_
    simp only [undecodable, Bool.not_eq_true', Bool.and_eq_false_iff, decide_eq_false_iff_not]
    by_cases hfg : f = g
    · subst hfg
      exact .inl (.inr (by simpa [hf] using hboth))
    · exact .inl (.inl hfg)

/-- The host offers a 10-bit format of the list. -/
def hdrInCommon (formats : List VideoFormat) : Bool :=
  formats.any fun f => l.computer.offers f && f.is10Bit

/-- The formats that `checkHdrProfiles` keeps. -/
def keptProfiles (formats : List VideoFormat) : Mask := fun f =>
  if l.preferences.videoCodecConfig = .forceH264 || !hdrInCommon l formats then !f.is10Bit
  else
    l.preferences.videoCodecConfig = .auto ||
      (!undecodable l s f .av1Main10 && !undecodable l s f .h265Main10)

/-- The formats that `checkHdr` keeps. -/
def keptHdr (formats : List VideoFormat) : Mask := fun f =>
  !l.preferences.enableHdr || (keptProfiles l s formats f &&
    (hdrInCommon l (formats.filter (keptProfiles l s formats)) || !f.is10Bit))

theorem common_10Bit (formats : List VideoFormat) :
    common formats (fun m => l.computer.serverCodecModeSupport m && m.is10Bit)
      (fun _ => true) = hdrInCommon l formats := by
  simp only [common_eq, codecMode_is10Bit, Bool.and_true, Host.offers, hdrInCommon]

theorem narrows_checkHdrProfiles :
    Narrows s (s.checkHdrProfiles l) (keptProfiles l s s.formats) := by
  rw [checkHdrProfiles, common_10Bit]
  by_cases hh264 : l.preferences.videoCodecConfig = .forceH264
  · rw [if_pos hh264]
    refine ((narrows_emitLaunchWarning l s _).warned _).congr fun f _ => ?_
    simp [keptProfiles, hh264]
  rw [if_neg hh264]
  by_cases hany : s.formats.any VideoFormat.is10Bit = true
  · rw [if_neg (by simpa using hany)]
    by_cases hcommon : hdrInCommon l s.formats = true
    · rw [if_neg (by simpa using hcommon)]
      split
      · rename_i hauto
        have hav1 := checkMain10_narrows l s "AV1" .av1Main10 false
        refine (hav1.trans (checkMain10_narrows l _ "HEVC" .h265Main10 _)).congr fun f _ => ?_
        simp [keptProfiles, hh264, hcommon, hauto, undecodable, hav1.decoder]
      · rename_i hauto
        exact .of_kept fun f _ => by simp [keptProfiles, hcommon, not_not.mp hauto]
    · rw [if_pos (by simpa using hcommon)]
      refine ((narrows_emitLaunchWarning l s _).warned _).congr fun f _ => ?_
      simp [keptProfiles, hcommon]
  · rw [if_pos (by simpa using hany)]
    -- no 10-bit format in the list: there is none in common, and none to remove
    have hnone : ∀ f ∈ s.formats, f.is10Bit = false := by simpa using hany
    have hcommon : hdrInCommon l s.formats = false := by
      simpa [hdrInCommon] using fun f hf _ => hnone f hf
    refine (narrows_emitLaunchWarning l s _).congr fun f hf => ?_
    simp [keptProfiles, hcommon, hnone f hf]

theorem narrows_checkHdr : Narrows s (s.checkHdr l) (keptHdr l s s.formats) := by
  rw [checkHdr]
  by_cases hhdr : l.preferences.enableHdr = true
  · have hprofiles := narrows_checkHdrProfiles l s
    have hcommon : common (s.checkHdrProfiles l).formats l.computer.serverCodecModeSupport
        VideoFormat.is10Bit =
          hdrInCommon l (s.formats.filter (keptProfiles l s s.formats)) := by
      rw [common_eq, hprofiles.formats]
      rfl
    rw [if_pos hhdr]
    simp only [hcommon]
    split
    · rename_i hlost
      have hnone : hdrInCommon l (s.formats.filter (keptProfiles l s s.formats)) = false := by
        simpa using (Bool.and_eq_true_iff.mp hlost).2
      refine (hprofiles.trans
        ((narrows_emitLaunchWarning l _ _).warned VideoFormat.is10Bit)).congr fun f _ => ?_
      simp [keptHdr, hhdr, hnone]
    · rename_i hkept
      refine hprofiles.congr fun f hf => ?_
      cases hprofile : keptProfiles l s s.formats f with
      | false => simp [keptHdr, hhdr, hprofile]
      | true =>
          -- the list is kept: either the host offers one of its 10-bit formats or it has none
          have hmem : f ∈ (s.checkHdrProfiles l).formats := hprofiles.mem.mpr ⟨hf, hprofile⟩
          simp only [keptHdr, hhdr, hprofile]
          cases htwo : hdrInCommon l (s.formats.filter (keptProfiles l s s.formats)) with
          | true => rfl
          | false =>
              have hnone : ∀ g ∈ (s.checkHdrProfiles l).formats, g.is10Bit = false := by
                simpa [htwo] using hkept
              simp [hnone f hmem]
  · rw [if_neg hhdr]
    exact .of_kept fun f _ => by simp [keptHdr, hhdr]

/-! ### The check of YUV 4:4:4 -/

/-- YUV 4:4:4 is enabled and the host offers it. -/
def usesYuv444 : Bool :=
  l.preferences.enableYUV444 &&
    ServerCodecMode.all.any fun m => l.computer.serverCodecModeSupport m && m.isYuv444

/-- Where YUV 4:4:4 is not used, its formats leave the list. -/
theorem narrows_checkYuv444 (h : usesYuv444 l = false) :
    Narrows s (s.checkYuv444 l) fun f => !(l.preferences.enableYUV444 && f.isYuv444) := by
  unfold checkYuv444
  by_cases hyuv : l.preferences.enableYUV444 = true
  · have hnone : (ServerCodecMode.all.any fun m =>
        l.computer.serverCodecModeSupport m && m.isYuv444) = false := by
      simpa [usesYuv444, hyuv] using h
    simp only [hyuv, hnone, if_true, Bool.not_false]
    exact ((narrows_emitLaunchWarning l s _).warned _).congr fun f _ => rfl
  · rw [if_neg hyuv]
    exact .of_kept fun f _ => by simp [hyuv]

theorem skipYuv444_stream (formats : List VideoFormat) :
    SameStream s (skipYuv444 l s formats) := by
  fun_induction skipYuv444 l s formats with
  | case1 => exact ⟨rfl, rfl, rfl⟩
  | case2 f rest _ _ ih => exact ih
  | case3 f rest =>
      have hset : SameStream s { s with formats := f :: rest } := ⟨rfl, rfl, rfl⟩
      exact hset.trans (narrows_emitLaunchWarning l _ _).toSameStream
  | case4 => exact ⟨rfl, rfl, rfl⟩

theorem skipYuv444_suffix (formats : List VideoFormat) :
    (skipYuv444 l s formats).formats <:+ formats := by
  fun_induction skipYuv444 l s formats with
  | case1 => exact List.suffix_rfl
  | case2 f rest _ _ ih => exact ih.trans (List.suffix_cons f rest)
  | case3 f rest =>
      exact ⟨[], (narrows_emitLaunchWarning l _ _).formats.trans (List.filter_true _)⟩
  | case4 => exact List.suffix_rfl

/-- Where hardware decoding is forced, the loop stops at the first format that is not 4:4:4
or is decoded in hardware. -/
theorem skipYuv444_head? (hforce : l.preferences.videoDecoderSelection = .forceHardware)
    (formats : List VideoFormat) :
    (skipYuv444 l s formats).formats.head? =
      formats.find? fun f => !f.isYuv444 || s.getDecoderAvailability l f = .hardware := by
  fun_induction skipYuv444 l s formats with
  | case1 => rfl
  | case2 f rest hskip _ ih =>
      rw [ih, List.find?_cons_of_neg]
      simpa using hskip
  | case3 f rest _ hnot => exact absurd hforce hnot
  | case4 f rest hstop =>
      rw [List.find?_cons_of_pos]
      · rfl
      · simpa [Decidable.imp_iff_not_or] using hstop

section Used

variable {l} (h : usesYuv444 l = true)

include h

/-- Where YUV 4:4:4 is used, only what the host offers stays, and the loop runs unless the
front is not 4:4:4 or software decoding is forced. -/
theorem checkYuv444_used : ∃ s', SameStream s s' ∧
    s'.formats = s.formats.filter l.computer.offers ∧
    s.checkYuv444 l =
      if s'.frontIsYuv420 then s'.emitLaunchWarning l
        "Your host PC doesn't support YUV 4:4:4 streaming for selected video codec."
      else if l.preferences.videoDecoderSelection ≠ .forceSoftware then
        (skipYuv444 l s' s'.formats).warnIf l (skipYuv444 l s' s'.formats).frontIsYuv420
          "This PC's GPU doesn't support YUV 4:4:4 decoding for selected video codec."
      else s' := by
  obtain ⟨hyuv, hsome⟩ := Bool.and_eq_true_iff.mp h
  have hmask : (removeByMask s.formats fun f =>
      !maskByServerCodecModes s.formats l.computer.serverCodecModeSupport f) =
        s.formats.filter l.computer.offers :=
    List.filter_congr fun f hf => by simp [hf, Host.offers]
  refine ⟨{ s with formats := s.formats.filter l.computer.offers }, ⟨rfl, rfl, rfl⟩, rfl, ?_⟩
  rw [checkYuv444, if_pos hyuv, if_neg (by simp [hsome]), hmask]

theorem checkYuv444_stream : SameStream s (s.checkYuv444 l) := by
  obtain ⟨s', hstream, -, heq⟩ := checkYuv444_used s h
  rw [heq]
  split
  · exact hstream.trans (narrows_emitLaunchWarning l s' _).toSameStream
  · split
    · exact (hstream.trans (skipYuv444_stream l s' _)).trans
        (narrows_warnIf l _ _ _).toSameStream
    · exact hstream

theorem checkYuv444_suffix :
    (s.checkYuv444 l).formats <:+ s.formats.filter l.computer.offers := by
  obtain ⟨s', -, hformats, heq⟩ := checkYuv444_used s h
  rw [heq, ← hformats]
  split
  · exact ⟨[], (narrows_emitLaunchWarning l _ _).formats.trans (List.filter_true _)⟩
  · split
    · rw [(narrows_warnIf l _ _ _).formats, List.filter_true]
      exact skipYuv444_suffix l s' s'.formats
    · exact List.suffix_rfl

theorem checkYuv444_head? (hforce : l.preferences.videoDecoderSelection = .forceHardware) :
    (s.checkYuv444 l).formats.head? = (s.formats.filter l.computer.offers).find? fun f =>
      !f.isYuv444 || s.getDecoderAvailability l f = .hardware := by
  obtain ⟨s', hstream, hformats, heq⟩ := checkYuv444_used s h
  rw [heq, ← hformats]
  split
  · rename_i hfront
    rw [(narrows_emitLaunchWarning l _ _).formats, List.filter_true]
    cases hlist : s'.formats with
    | nil => rfl
    | cons f rest =>
        rw [List.find?_cons_of_pos]
        · rfl
        · simpa [frontIsYuv420, hlist] using Or.inl hfront
  · rw [if_pos (by simp [hforce]), (narrows_warnIf l _ _ _).formats, List.filter_true,
      skipYuv444_head? l s' hforce]
    simp only [hstream.decoder]

end Used

/-! ### All checks -/

/-- The formats that the checks of the codecs and of HDR keep of a list. -/
def keptCodecs (formats : List VideoFormat) : Mask := fun f =>
  let ofAv1 := formats.filter (keptAv1 l formats)
  let ofHevc := ofAv1.filter (keptHevc l ofAv1)
  keptAv1 l formats f && (keptHevc l ofAv1 f && keptHdr l s ofHevc f)

/-- The checks before the one of YUV 4:4:4. -/
def checkCodecs : Session := ((((s.checkSettings l).checkAv1 l).checkHevc l).checkH264 l).checkHdr l

theorem keptHdr_congr {s s' : Session} (h : SameStream s s') (formats : List VideoFormat) :
    keptHdr l s' formats = keptHdr l s formats := by
  have hundecodable : undecodable l s' = undecodable l s := by
    funext f g
    rw [undecodable, undecodable, h.decoder]
  have hprofiles : keptProfiles l s' formats = keptProfiles l s formats := by
    funext f
    rw [keptProfiles, keptProfiles, hundecodable]
  funext f
  rw [keptHdr, keptHdr, hprofiles]

theorem narrows_checkCodecs : Narrows s (s.checkCodecs l) (keptCodecs l s s.formats) := by
  have hsettings := narrows_checkSettings l s
  have hav1 := narrows_checkAv1 l (s.checkSettings l)
  have hhevc := narrows_checkHevc l ((s.checkSettings l).checkAv1 l)
  have hh264 := narrows_checkH264 l (((s.checkSettings l).checkAv1 l).checkHevc l)
  have hhdr := narrows_checkHdr l ((((s.checkSettings l).checkAv1 l).checkHevc l).checkH264 l)
  have hbefore := ((hsettings.toSameStream.trans hav1.toSameStream).trans
    hhevc.toSameStream).trans hh264.toSameStream
  refine ⟨hbefore.trans hhdr.toSameStream, ?_⟩
  rw [checkCodecs, hhdr.formats, keptHdr_congr l hbefore, hh264.formats, List.filter_true,
    hhevc.formats, hav1.formats, hsettings.formats, List.filter_true, List.filter_filter,
    List.filter_filter]
  refine List.filter_congr fun f _ => ?_
  rw [keptCodecs, Bool.and_comm, Bool.and_comm (keptHdr _ _ _ _)]

theorem sameStream_check4K {s s' : Session} (h : SameStream s s') :
    SameStream (s.check4K l) (s'.check4K l) := by
  rw [check4K, check4K, h.width]
  split
  · exact ⟨rfl, rfl, ((narrows_emitLaunchWarning l s' _).fps.trans h.fps).trans
      (narrows_emitLaunchWarning l s _).fps.symm⟩
  · exact h

theorem check4K_formats : (s.check4K l).formats = s.formats := by
  rw [check4K]
  split
  · exact (narrows_emitLaunchWarning l s _).formats.trans (List.filter_true _)
  · rfl

theorem narrows_checkAudio : Narrows s (s.checkAudio l) fun _ => true := by
  rw [checkAudio]
  split
  · exact .of_kept fun _ _ => rfl
  · split
    · have hwarned := narrows_emitLaunchWarning l { s with audioConfiguration := .stereo }
      exact ⟨⟨(hwarned _).width, (hwarned _).height, (hwarned _).fps⟩, (hwarned _).formats⟩
    · exact narrows_emitLaunchWarning l s _

theorem narrows_checkGamepads : Narrows s (s.checkGamepads l) fun _ => true :=
  narrows_warnIf l s _ _

theorem sameStream_lastResort : SameStream s s.lastResort := by
  rw [lastResort]
  split <;> exact ⟨rfl, rfl, rfl⟩

/-- After the check of YUV 4:4:4 the list is the same, but for the last resort. -/
theorem checked_formats : (s.checked l).formats =
    if ((s.checkCodecs l).checkYuv444 l).formats.isEmpty then [.h264]
    else ((s.checkCodecs l).checkYuv444 l).formats := by
  have hlater : ((((s.checkCodecs l).checkYuv444 l).check4K l).checkAudio l
      |>.checkGamepads l).formats = ((s.checkCodecs l).checkYuv444 l).formats := by
    rw [(narrows_checkGamepads l _).formats, List.filter_true,
      (narrows_checkAudio l _).formats, List.filter_true, check4K_formats]
  rw [← hlater]
  unfold checked lastResort
  exact apply_ite Session.formats _ _ _

theorem checked_head? : (s.checked l).formats.head? =
    some (((s.checkCodecs l).checkYuv444 l).formats.head?.getD .h264) := by
  rw [checked_formats]
  cases ((s.checkCodecs l).checkYuv444 l).formats <;> rfl

/-- The last checks look at the resolution that `check4K` leaves. -/
theorem sameStream_checked (h : SameStream s ((s.checkCodecs l).checkYuv444 l)) :
    SameStream (s.check4K l) (s.checked l) := by
  refine SameStream.trans ?_ (sameStream_lastResort _)
  refine SameStream.trans ?_ (narrows_checkGamepads l _).toSameStream
  exact (sameStream_check4K l h).trans (narrows_checkAudio l _).toSameStream

end Session

end GilStreaming.Streaming
