import GilStreaming.Streaming.DecoderFrames

/-!
# GilStreaming.Streaming.DecoderSelection

Which decoder the setup ends with.

The chosen candidate has decoded and shown a test frame. A decoder in software is used only after
every candidate in hardware has given up, and there is no decoder only where no candidate is left.
-/

namespace GilStreaming.Streaming.DecoderSetup

open Fallible

/-! ### Candidates -/

/-- What a codec is tried with in one pass. -/
def passCandidates (m : Machine) (codec : AVCodec) (params : DecoderParameters) (pass : Nat) :
    List Candidate :=
  codec.hwConfigs.map (hwAccelCandidate m codec params pass)

/-- What a codec is tried with in all passes. -/
def hwCandidates (m : Machine) (codec : AVCodec) (params : DecoderParameters) : List Candidate :=
  passes.flatMap (passCandidates m codec params)

/-- What a codec is tried with without a hardware configuration. -/
def plainCandidates (out : Outside) (m : Machine) (codec : AVCodec) (params : DecoderParameters) :
    List Candidate :=
  (pixelFormatCandidates out m codec params).map fun (kind, format) =>
    ⟨codec, format, none, some kind⟩

/-- The codec is one that the user has named for the format. -/
def Hinted (m : Machine) (params : DecoderParameters) (codec : AVCodec) : Prop :=
  codec.name ≠ "" ∧
    (codec.name = m.h264DecoderHint ∧ params.videoFormat.isH264 = true ∨
      codec.name = m.hevcDecoderHint ∧ params.videoFormat.isH265 = true ∨
      codec.name = m.av1DecoderHint ∧ params.videoFormat.isAv1 = true)

/-- The candidate has been tried in vain. -/
def GaveUp (log : List Act) (c : Candidate) : Prop := ∃ reason, .gaveUp c reason ∈ log

/-- A candidate of the codec has found that the hardware does not support it. -/
def NoHardware (m : Machine) (params : DecoderParameters) (log : List Act) (codec : AVCodec) :
    Prop :=
  ∃ c ∈ hwCandidates m codec params, .gaveUp c .noHardwareSupport ∈ log

/-- There is nothing left to try in hardware. -/
def HardwareExhausted (out : Outside) (m : Machine) (params : DecoderParameters)
    (log : List Act) : Prop :=
  ∀ codec ∈ out.codecs, isCandidate m params codec = true →
    NoHardware m params log codec ∨
      (∀ c ∈ hwCandidates m codec params, GaveUp log c) ∧
        (codec.isHardware = true → ∀ c ∈ plainCandidates out m codec params, GaveUp log c)

/-- There is nothing left to try in software. -/
def SoftwareExhausted (out : Outside) (m : Machine) (params : DecoderParameters)
    (log : List Act) : Prop :=
  ∀ codec ∈ out.codecs, isCandidate m params codec = true → codec.isHardware = false →
    ∀ c ∈ plainCandidates out m codec params, GaveUp log c

/-- The context has been opened for the candidate, a frame has come out of it, and a frontend has
shown the frame. -/
def Tested (c : Candidate) (context : Context) (log : List Act) : Prop :=
  ∃ frontend, List.Sublist [.ask (.openCodec context c.hwConfig c.requiredFormat) true,
    .receiveFrame context .frame, .ask (.testRenderFrame frontend) true] log

/-- The context has been opened for the candidate. -/
def opening (c : Candidate) (context : Context) : Act :=
  .ask (.openCodec context c.hwConfig c.requiredFormat) true

/-- The decoder is one for the candidate with an open codec, and such a decoder has passed the test.
It is this very one where the test needs no decoder of its own. -/
def Works (m : Machine) (c : Candidate) (d : Decoder) : Prop :=
  d.hwDecodeCfg = c.hwConfig ∧ (∃ b, d.backendRenderer = some b ∧ c.kind = some b.kind) ∧
    ∃ context tested, d.videoDecoderCtx = some context ∧ context.codec = c.codec ∧
      opening c context ∈ d.log ∧ tested.codec = c.codec ∧ Tested c tested d.log ∧
      (isSeparateTestDecoderRequired m c.codec = false → tested = context)

section Logs

variable {m : Machine} {params : DecoderParameters} {out : Outside} {log log' : List Act}
  {c : Candidate} {codec : AVCodec} {context : Context} {acts : List Act} {act : Act}

theorem sublist_later (h : List.Sublist acts log) (hlog : log <+: log') :
    List.Sublist acts log' :=
  h.trans hlog.sublist

theorem sublist_concat (h : List.Sublist acts log) :
    List.Sublist (acts ++ [act]) (log ++ [act]) :=
  h.append (List.Sublist.refl [act])

theorem Tested.later (h : Tested c context log) (hlog : log <+: log') : Tested c context log' :=
  h.imp fun _ hacts => sublist_later hacts hlog

theorem GaveUp.later (h : GaveUp log c) (hlog : log <+: log') : GaveUp log' c :=
  h.imp fun _ hmem => hlog.subset hmem

theorem NoHardware.later (h : NoHardware m params log codec) (hlog : log <+: log') :
    NoHardware m params log' codec :=
  h.imp fun _ hc => ⟨hc.1, hlog.subset hc.2⟩

/-- What a codec has been tried with in vain stays so. -/
theorem tried_later {cs : List Candidate}
    (h : NoHardware m params log codec ∨ ∀ c ∈ cs, GaveUp log c) (hlog : log <+: log') :
    NoHardware m params log' codec ∨ ∀ c ∈ cs, GaveUp log' c :=
  h.imp (·.later hlog) fun h c hc => (h c hc).later hlog

theorem HardwareExhausted.later (h : HardwareExhausted out m params log) (hlog : log <+: log') :
    HardwareExhausted out m params log' := by
  intro codec hcodec hcandidate
  rcases h codec hcodec hcandidate with hno | ⟨hhw, hplain⟩
  · exact .inl (hno.later hlog)
  · exact .inr ⟨fun c hc => (hhw c hc).later hlog,
      fun hhardware c hc => (hplain hhardware c hc).later hlog⟩

end Logs

section Programs

variable {γ : Type} {view : Decoder → γ} {out : Outside} {m : Machine}
  {params : DecoderParameters} {P : Decoder → Prop} {E : InitFailureReason → Decoder → Prop}
  {c : Candidate} {codec : AVCodec}

/-! ### The test -/

theorem triple_receiveFrame {context : Context} {Q : ReceivedFrame → Decoder → Prop}
    (h : ∀ d, P d → ∀ result, Q result (d.did (.receiveFrame context result))) :
    Triple P (receiveFrame out context) Q E :=
  fun d hd => h d hd _

/-- The configuration and the format of the candidate. -/
def Decoder.Asks (c : Candidate) (d : Decoder) : Prop :=
  d.hwDecodeCfg = c.hwConfig ∧ d.requiredPixelFormat = c.requiredFormat

/-- The context of the decoder, with the codec of the candidate. -/
def Decoder.Has (c : Candidate) (context : Context) (d : Decoder) : Prop :=
  context.codec = c.codec ∧ d.videoDecoderCtx = some context

theorem triple_openContext :
    Triple (Decoder.Asks c) (openContext out m c.codec c.requiredFormat params)
      (fun _ d => ∃ context, d.Has c context ∧ opening c context ∈ d.log)
      fun _ _ => True := by
  refine triple_withAnyPart (fun b => triple_withAnyPart (fun f => ?_) fun _ _ => trivial)
    fun _ _ => trivial
  refine Triple.bind (R := fun _ => Decoder.Asks c)
    (triple_require (fun d hd => hd.1.1) fun _ _ => trivial) fun _ => ?_
  refine Triple.bind (R := fun _ d => ∃ context, d.Has c context ∧ d.Asks c)
    (triple_modify fun d hd => ⟨_, ⟨rfl, rfl⟩, hd⟩) fun _ => triple_exists fun context => ?_
  refine triple_withPart (fun d hd => hd.1.2) ?_
  refine Triple.bind (R := fun _ d => d.Has c context ∧ d.Asks c)
    (triple_require (fun d hd => hd) fun _ _ => trivial) fun _ => ?_
  refine Triple.bind (R := fun d' d => d' = d ∧ d.Has c context ∧ d.Asks c)
    (triple_get fun d hd => ⟨rfl, hd⟩) fun d' => triple_require ?_ fun _ _ => trivial
  rintro _ ⟨rfl, hcontext, hhw, hformat⟩
  refine ⟨context, hcontext, ?_⟩
  rw [opening, ← hhw, ← hformat]
  exact List.mem_append_right _ (List.mem_singleton_self _)

theorem triple_receiveTestFrame {context : Context} {testFrame : VideoFormat} {acts : List Act}
    (retries : Nat) :
    Triple (fun d => List.Sublist acts d.log) (receiveTestFrame out context testFrame retries)
      (fun _ d => List.Sublist (acts ++ [.receiveFrame context .frame]) d.log)
      fun _ _ => True := by
  induction retries with
  | zero => exact triple_throw fun _ _ => trivial
  | succ retries ih =>
      -- Only the last round adds the frame to what is asked for.
      refine Triple.bind (R := fun _ d => List.Sublist acts d.log)
        (triple_require (fun d hd => sublist_later hd (List.prefix_append _ _))
          fun _ _ => trivial) fun _ => ?_
      refine Triple.bind (R := fun result d =>
          if result = .frame then List.Sublist (acts ++ [.receiveFrame context .frame]) d.log
          else List.Sublist acts d.log)
        (triple_receiveFrame fun d hd result => ?_) fun result => ?_
      · split
        · next hframe => exact hframe ▸ sublist_concat hd
        · exact sublist_later hd (List.prefix_append _ _)
      · cases result with
        | frame => exact triple_pure fun d hd => hd
        | again => exact ih
        | error => exact triple_throw fun _ _ => trivial

theorem triple_decodeTestFrame {context : Context} :
    Triple (fun d => d.videoDecoderCtx = some context ∧ opening c context ∈ d.log)
      (decodeTestFrame out params) (fun _ d => Tested c context d.log) fun _ _ => True := by
  refine triple_withPart (fun d hd => hd.1) ?_
  refine triple_withAnyPart (fun f => ?_) fun _ _ => trivial
  refine Triple.bind (R := fun _ d => List.Sublist [opening c context] d.log)
    (triple_require (fun d hd => ?_) fun _ _ => trivial) fun _ => ?_
  · exact sublist_later (List.singleton_sublist.mpr hd.1.2) (List.prefix_append _ _)
  · refine Triple.bind (triple_receiveTestFrame 5) fun _ => ?_
    exact triple_require (fun d hd => ⟨f, sublist_concat hd⟩) fun _ _ => trivial

theorem triple_completeInitialization {testMode : TestMode} {useAlternateFrontend : Bool} :
    Triple (fun d => d.hwDecodeCfg = c.hwConfig)
      (completeInitialization out m c.codec c.requiredFormat params testMode useAlternateFrontend)
      (fun _ d => ∃ context, d.Has c context ∧ opening c context ∈ d.log ∧
        (testMode ≠ .noTesting → Tested c context d.log))
      fun _ _ => True := by
  refine Triple.bind (R := fun _ d => d.hwDecodeCfg = c.hwConfig)
    (triple_of_frame (frame_createFrontendRenderer _) fun d d' hd h => ?_) fun _ => ?_
  · exact (congrArg (·.2.2.2.2.1) hd.view).trans h
  refine Triple.bind (R := fun _ => Decoder.Asks c) (triple_modify fun d hd => ⟨hd, rfl⟩)
    fun _ => ?_
  refine Triple.bind (R := fun _ => Decoder.Asks c)
    (triple_onlyIf (fun _ => triple_of_frame frame_createPacer fun d d' hd h => ?_)
      fun _ _ hd => hd) fun _ => ?_
  · exact ⟨(congrArg (·.2.2.2.2.1) hd.view).trans h.1, (congrArg (·.2.2.1) hd.view).trans h.2⟩
  refine Triple.bind triple_openContext fun _ => triple_exists fun context => ?_
  have hhas (d d' : Decoder) (hd : Onward Decoder.opened d d') (h : d.Has c context) :
      d'.Has c context := ⟨h.1, (congrArg Prod.fst hd.view).trans h.2⟩
  refine Triple.bind (R := fun _ d => d.Has c context ∧ opening c context ∈ d.log ∧
    (testMode ≠ .noTesting → Tested c context d.log))
    (triple_onlyIf (fun _ => ?_) fun d hmode hd => ?_) fun _ => ?_
  · refine (triple_decodeTestFrame.frame frame_decodeTestFrame
      (M := fun d => d.Has c context ∧ opening c context ∈ d.log) fun d d' hd h => ?_).mono
      (fun d hd => ⟨⟨hd.1.2, hd.2⟩, hd⟩) (fun _ d hd => ⟨hd.2.1, hd.2.2, fun _ => hd.1⟩)
      fun _ _ _ => trivial
    exact ⟨hhas d d' hd h.1, hd.log.subset h.2⟩
  · exact ⟨hd.1, hd.2, fun hne => absurd hmode (by simp [hne])⟩
  · refine (triple_onlyIf (Q := fun _ d => d.Has c context ∧ _)
      (fun _ => triple_of_frame frame_startRendering fun d d' hd h => ?_) fun _ _ hd => hd).mono
      (fun _ hd => hd) (fun _ _ hd => ⟨context, hd⟩) fun _ _ _ => trivial
    exact ⟨hhas d d' hd h.1, hd.log.subset h.2.1, fun hmode => (h.2.2 hmode).later hd.log⟩

/-! ### One candidate -/

/-- The decoder is set up for the candidate. -/
def Decoder.For (c : Candidate) (kind : RendererKind) (d : Decoder) : Prop :=
  d.hwDecodeCfg = c.hwConfig ∧ ∃ b, d.backendRenderer = some b ∧ b.kind = kind

theorem Decoder.For.onward {d d' : Decoder} {kind : RendererKind} (h : d.For c kind)
    (hd : Onward Decoder.attempt d d') : d'.For c kind := by
  obtain ⟨hhw, b, hb, hkind⟩ := h
  exact ⟨(congrArg (·.2.1) hd.view).trans hhw, b, (congrArg Prod.fst hd.view).trans hb, hkind⟩

theorem triple_completeFor {kind : RendererKind} {testMode : TestMode}
    {useAlternateFrontend : Bool} :
    Triple (Decoder.For c kind)
      (completeInitialization out m c.codec c.requiredFormat params testMode useAlternateFrontend)
      (fun _ d => ∃ context, d.For c kind ∧ d.Has c context ∧ opening c context ∈ d.log ∧
        (testMode ≠ .noTesting → Tested c context d.log))
      fun _ _ => True :=
  (triple_completeInitialization.frame (frame_completeInitialization _ _ _ _)
    fun _ _ hd h => h.onward hd).mono (fun _ hd => ⟨hd.1, hd⟩)
    (fun _ _ ⟨⟨context, h⟩, hfor⟩ => ⟨context, hfor, h⟩) fun _ _ _ => trivial

theorem triple_testThenSetUp {kind : RendererKind} {useAlternateFrontend : Bool}
    (hkind : c.kind = some kind) :
    Triple (Decoder.For c kind) (testThenSetUp out m c kind params useAlternateFrontend)
      (fun _ => Works m c) fun _ _ => True := by
  refine Triple.bind (R := fun _ => Decoder.For c kind) (triple_get fun d hd => hd) fun d' => ?_
  refine Triple.bind triple_completeFor fun _ => triple_exists fun tested => ?_
  have htests : (if d'.testOnly || isSeparateTestDecoderRequired m c.codec then
      TestMode.testFrameOnly else .testFrame) ≠ .noTesting := by
    split <;> decide
  refine triple_onlyIf (fun hagain => ?_)
    fun d hagain ⟨⟨hhw, b, hb, hbkind⟩, hhas, hopen, htested⟩ => ?_
  · -- The decoder of the test is deleted, and what remains of it is in the log.
    obtain ⟨-, hseparate⟩ := Bool.and_eq_true_iff.mp hagain
    refine Triple.bind (R := fun _ d => d.hwDecodeCfg = c.hwConfig ∧ tested.codec = c.codec ∧
      Tested c tested d.log) (triple_modify fun d hd => ?_) fun _ => ?_
    · have honward := onward_reset d
      exact ⟨(congrArg Prod.fst honward.view).trans hd.1.1, hd.2.1.1,
        (hd.2.2.2 htests).later honward.log⟩
    refine Triple.bind (R := fun _ d => d.For c kind ∧ tested.codec = c.codec ∧
      Tested c tested d.log) (triple_modify fun d hd => ?_) fun _ => ?_
    · exact ⟨⟨hd.1, _, rfl, rfl⟩, hd.2.1, hd.2.2.later (List.prefix_append _ _)⟩
    refine Triple.bind (R := fun _ d => d.For c kind ∧ tested.codec = c.codec ∧
      Tested c tested d.log) (triple_of_frame frame_initializeBackend fun d d' hd h => ?_)
      fun _ => ?_
    · exact ⟨h.1.onward hd, h.2.1, h.2.2.later hd.log⟩
    refine (triple_completeFor.frame (frame_completeInitialization _ _ _ _)
      (M := fun d => tested.codec = c.codec ∧ Tested c tested d.log)
      fun d d' hd h => ⟨h.1, h.2.later hd.log⟩).mono (fun _ hd => hd) ?_ fun _ _ _ => trivial
    rintro - d ⟨⟨context, ⟨hhw, b, hb, hbkind⟩, hhas, hopen, -⟩, hcodec, htested⟩
    exact ⟨hhw, ⟨b, hb, hbkind ▸ hkind⟩, context, tested, hhas.2, hhas.1, hopen, hcodec, htested,
      fun h => absurd (hseparate.symm.trans h) (by decide)⟩
  · exact ⟨hhw, ⟨b, hb, hbkind ▸ hkind⟩, tested, tested, hhas.2, hhas.1, hopen, hhas.1,
      htested htests,
      fun _ => rfl⟩

theorem triple_tryFrontends (modes : List Bool) (reason : InitFailureReason) :
    Triple (fun d => d.hwDecodeCfg = c.hwConfig) (tryFrontends out m c params modes reason)
      (fun _ => Works m c) fun _ _ => True := by
  have hhw (d d' : Decoder) (hd : Onward Decoder.candidate d d')
      (h : d.hwDecodeCfg = c.hwConfig) : d'.hwDecodeCfg = c.hwConfig :=
    (congrArg Prod.fst hd.view).trans h
  induction modes generalizing reason with
  | nil => exact triple_throw fun _ _ => trivial
  | cons useAlternateFrontend modes ih =>
      unfold tryFrontends
      split
      · exact triple_throw fun _ _ => trivial
      · next kind hkind =>
          refine Triple.bind (R := fun _ => Decoder.For c kind)
            (triple_modify fun d hd => ⟨hd, _, rfl, rfl⟩) fun _ => ?_
          refine Triple.bind (R := fun _ => Decoder.For c kind) ?_ fun initialized => ?_
          · exact triple_of_frame (frame_succeeds frame_initializeBackend)
              fun _ _ hd h => h.onward hd
          have hsetUp : Triple (Decoder.For c kind)
              (do ensure initialized .unknown
                  testThenSetUp out m c kind params useAlternateFrontend)
              (fun _ => Works m c) fun _ d => d.hwDecodeCfg = c.hwConfig := by
            refine Triple.bind (R := fun _ => Decoder.For c kind)
              (triple_ensure (fun _ _ hd => hd) fun _ _ hd => hd.1) fun _ => ?_
            exact ((triple_testThenSetUp hkind).frame (frame_testThenSetUp _ _ _) hhw).mono
              (fun _ hd => ⟨hd, hd.1⟩) (fun _ _ hd => hd.1) fun _ _ hd => hd.2
          refine Triple.bind hsetUp.succeeds fun works => ?_
          cases works with
          | true => exact triple_pure fun _ hd => hd
          | false =>
              refine Triple.bind (R := fun _ d => d.hwDecodeCfg = c.hwConfig) ?_ fun reason => ?_
              · refine Triple.mono (triple_of_frame (frame_withPart fun b =>
                  frame_getInitFailureReason (fun _ _ => rfl) b) hhw) (fun _ hd => ?_)
                  (fun _ _ hd => hd) fun _ _ _ => trivial
                exact hd.elim fun _ hd => hd
              · refine Triple.bind (R := fun _ d => d.hwDecodeCfg = c.hwConfig)
                  (triple_modify fun d hd => hhw _ _ (onward_reset d) hd) fun _ => ?_
                split
                · exact ih reason
                · exact triple_throw fun _ _ => trivial

/-- **One candidate.** -/
theorem triple_tryInitializeRenderer :
    Triple (fun _ => True) (tryInitializeRenderer out m c params) (fun _ => Works m c)
      fun reason d => .gaveUp c reason ∈ d.log := by
  refine Triple.bind (R := fun _ d => d.hwDecodeCfg = c.hwConfig) (triple_modify fun _ _ => rfl)
    fun _ => ?_
  refine (triple_tryFrontends (frontendModes m) .unknown).tryCatch fun reason => ?_
  refine Triple.bind (R := fun _ d => .gaveUp c reason ∈ d.log) (triple_modify fun d _ => ?_)
    fun _ => triple_throw fun _ hd => hd
  exact List.mem_append_right d.log (List.mem_singleton_self _)

/-! ### One codec -/

/-- The end of a search for a codec: its hardware does not support the format, or all these
candidates have given up. -/
def Ended (m : Machine) (params : DecoderParameters) (codec : AVCodec) (cs : List Candidate)
    (reason : InitFailureReason) (d : Decoder) : Prop :=
  if reason = .noHardwareSupport then NoHardware m params d.log codec
  else ∀ c ∈ cs, GaveUp d.log c

theorem triple_tryHwConfigs {pass : Nat} (hpass : pass ∈ passes) :
    Triple (fun _ => True) (tryHwConfigs out m codec params pass)
      (fun _ d => ∃ c ∈ passCandidates m codec params pass, Works m c d)
      (Ended m params codec (passCandidates m codec params pass)) := by
  refine triple_search_all (R := Onward Decoder.terminallyFailed)
    (fun config d => GaveUp d.log (hwAccelCandidate m codec params pass config))
    (fun config reason d => .gaveUp (hwAccelCandidate m codec params pass config) reason ∈ d.log)
    (fun _ _ _ hd h => h.later hd.log) (fun _ _ => frame_tryInitializeRenderer _)
    (fun _ => frame_stopWithoutHardware) (fun config hconfig => ?_)
    (fun config hconfig reason => ?_) fun d _ hall => ?_
  · exact triple_tryInitializeRenderer.mono (fun _ hd => hd)
      (fun _ d hd => ⟨_, List.mem_map_of_mem hconfig, hd⟩) fun _ _ hd => hd
  · refine triple_ensure (fun d _ hd => ⟨trivial, reason, hd⟩) fun d hstop hd => ?_
    obtain rfl : reason = .noHardwareSupport := by simpa using hstop
    exact ⟨_, List.mem_flatMap.mpr ⟨pass, hpass, List.mem_map_of_mem hconfig⟩, hd⟩
  · exact fun c hc => (List.mem_map.mp hc).elim fun config h => h.2 ▸ hall config h.1

theorem triple_tryHwAccelPasses :
    Triple (fun _ => True) (tryHwAccelPasses out m codec params)
      (fun _ d => ∃ c ∈ hwCandidates m codec params, Works m c d)
      (Ended m params codec (hwCandidates m codec params)) := by
  refine triple_search_all (R := Onward Decoder.terminallyFailed)
    (fun pass d => ∀ c ∈ passCandidates m codec params pass, GaveUp d.log c)
    (fun pass => Ended m params codec (passCandidates m codec params pass))
    (fun _ _ _ hd h c hc => (h c hc).later hd.log) (fun pass _ => frame_tryHwConfigs codec pass)
    (fun _ => frame_stopWithoutHardware) (fun pass hpass => ?_) (fun pass hpass reason => ?_)
    fun d _ hall => ?_
  · exact (triple_tryHwConfigs hpass).mono (fun _ hd => hd)
      (fun _ d ⟨c, hc, hd⟩ => ⟨c, List.mem_flatMap.mpr ⟨pass, hpass, hc⟩, hd⟩) fun _ _ hd => hd
  · refine triple_ensure (fun d hgoes hd => ?_) fun d hstop hd => ?_
    · exact ⟨trivial, (if_neg (of_decide_eq_true hgoes)).mp hd⟩
    · obtain rfl : reason = .noHardwareSupport := by simpa using hstop
      exact hd
  · intro c hc
    obtain ⟨pass, hpass, hc⟩ := List.mem_flatMap.mp hc
    exact hall pass hpass c hc

theorem triple_tryPixelFormats :
    Triple (fun _ => True) (tryPixelFormats out m codec params)
      (fun _ d => ∃ c ∈ plainCandidates out m codec params, Works m c d)
      fun _ d => ∀ c ∈ plainCandidates out m codec params, GaveUp d.log c := by
  refine triple_search_all (R := Onward Decoder.terminallyFailed)
    (fun (kind, format) d => GaveUp d.log ⟨codec, format, none, some kind⟩)
    (fun (kind, format) reason d => .gaveUp ⟨codec, format, none, some kind⟩ reason ∈ d.log)
    (fun _ _ _ hd h => h.later hd.log) (fun _ _ => frame_tryInitializeRenderer _)
    (fun _ _ => frame_pure ()) (fun kf hkf => ?_)
    (fun _ _ reason => triple_pure fun d hd => ⟨trivial, reason, hd⟩) fun d _ hall => ?_
  · exact triple_tryInitializeRenderer.mono (fun _ hd => hd)
      (fun _ d hd => ⟨_, List.mem_map_of_mem hkf, hd⟩) fun _ _ hd => hd
  · exact fun c hc => (List.mem_map.mp hc).elim fun kf h => h.2 ▸ hall kf h.1

/-- A codec that is tried in both ways. -/
theorem triple_tryBoth :
    Triple (fun _ => True) (tryInitializeRendererForUnknownDecoder out m (some codec) params true)
      (fun _ d => ∃ c ∈ hwCandidates m codec params ++ plainCandidates out m codec params,
        Works m c d)
      fun _ d => NoHardware m params d.log codec ∨
        ∀ c ∈ hwCandidates m codec params ++ plainCandidates out m codec params,
          GaveUp d.log c := by
  refine Triple.tryCatch (R := Ended m params codec (hwCandidates m codec params))
    (triple_tryHwAccelPasses.mono (fun _ hd => hd)
      (fun _ d ⟨c, hc, hd⟩ => ⟨c, List.mem_append_left _ hc, hd⟩) fun _ _ hd => hd) fun reason => ?_
  split
  · next hno =>
      subst hno
      exact triple_throw fun d hd => .inl hd
  · next hother =>
      refine (triple_tryPixelFormats.frame (frame_tryPixelFormats codec)
        (M := fun d => ∀ c ∈ hwCandidates m codec params, GaveUp d.log c)
        fun _ _ hd h c hc => (h c hc).later hd.log).mono
        (fun d hd => ⟨trivial, ?_⟩)
        (fun _ d ⟨⟨c, hc, hd⟩, _⟩ => ⟨c, List.mem_append_right _ hc, hd⟩)
        fun _ d hd => .inr fun c hc => (List.mem_append.mp hc).elim (hd.2 c) (hd.1 c)
      rwa [Ended, if_neg hother] at hd

/-! ### The codecs -/

/-- What is noted as a terminal failure was one. -/
def Decoder.Explained (m : Machine) (params : DecoderParameters) (d : Decoder) : Prop :=
  ∀ codec ∈ d.terminallyFailed, NoHardware m params d.log codec

theorem Decoder.Explained.onward {d d' : Decoder} (h : d.Explained m params)
    (hd : Onward Decoder.terminallyFailed d d') : d'.Explained m params :=
  fun codec hcodec => (h codec (hd.view ▸ hcodec)).later hd.log

/-- The decoder works for a candidate of the codec, and that in hardware. -/
def Decoder.InHardware (out : Outside) (m : Machine) (params : DecoderParameters)
    (d : Decoder) : Prop :=
  ∃ c, Works m c d ∧ c.codec ∈ out.codecs ∧ isCandidate m params c.codec = true ∧
    d.isHardwareAccelerated c.codec = true ∧
    c ∈ hwCandidates m c.codec params ++ plainCandidates out m c.codec params

/-- In one pass every codec that is not a hardware decoder itself has given up. -/
def PassExhausted (out : Outside) (m : Machine) (params : DecoderParameters) (pass : Nat)
    (d : Decoder) : Prop :=
  ∀ codec ∈ out.codecs, isCandidate m params codec = true → codec.isHardware = false →
    NoHardware m params d.log codec ∨ ∀ c ∈ passCandidates m codec params pass, GaveUp d.log c

/-- All hardware decoders have given up. -/
def DecodersExhausted (out : Outside) (m : Machine) (params : DecoderParameters)
    (d : Decoder) : Prop :=
  ∀ codec ∈ out.codecs, isCandidate m params codec = true → codec.isHardware = true →
    NoHardware m params d.log codec ∨
      ∀ c ∈ hwCandidates m codec params ++ plainCandidates out m codec params, GaveUp d.log c

theorem hwConfig_of_mem_passCandidates {pass : Nat} (hc : c ∈ passCandidates m codec params pass) :
    c.codec = codec ∧ c.hwConfig.isSome = true := by
  obtain ⟨config, -, rfl⟩ := List.mem_map.mp hc
  exact ⟨rfl, rfl⟩

theorem codec_of_mem_hwCandidates (hc : c ∈ hwCandidates m codec params) :
    c.codec = codec ∧ c.hwConfig.isSome = true := by
  obtain ⟨pass, -, hc⟩ := List.mem_flatMap.mp hc
  exact hwConfig_of_mem_passCandidates hc

theorem codec_of_mem_plainCandidates (hc : c ∈ plainCandidates out m codec params) :
    c.codec = codec ∧ c.hwConfig = none := by
  obtain ⟨kf, -, rfl⟩ := List.mem_map.mp hc
  exact ⟨rfl, rfl⟩

theorem codec_of_mem_candidates
    (hc : c ∈ hwCandidates m codec params ++ plainCandidates out m codec params) :
    c.codec = codec :=
  (List.mem_append.mp hc).elim (fun hc => (codec_of_mem_hwCandidates hc).1)
    fun hc => (codec_of_mem_plainCandidates hc).1

theorem triple_tryInitializeHwAccelDecoder {pass : Nat} (hpass : pass ∈ passes) :
    Triple (Decoder.Explained m params) (tryInitializeHwAccelDecoder out m params pass)
      (fun _ => Decoder.InHardware out m params)
      fun _ d => d.Explained m params ∧ PassExhausted out m params pass d := by
  refine triple_search_all (R := Onward Decoder.nothing)
    (fun codec d => isCandidate m params codec = true → codec.isHardware = false →
      NoHardware m params d.log codec ∨ ∀ c ∈ passCandidates m codec params pass, GaveUp d.log c)
    (fun codec reason d => d.Explained m params ∧
      (reason = .noHardwareSupport → NoHardware m params d.log codec) ∧
      (isCandidate m params codec = true → codec.isHardware = false →
        NoHardware m params d.log codec ∨
          ∀ c ∈ passCandidates m codec params pass, GaveUp d.log c))
    (fun _ _ _ hd h hcandidate hhardware => tried_later (h hcandidate hhardware) hd.log)
    (fun codec _ => ?_) frame_noteTerminalFailure
    (fun codec hcodec => ?_) (fun codec _ reason => triple_modify fun d hd => ?_)
    fun d hd hall => ⟨hd, hall⟩
  · refine frame_get.bind fun d => ?_
    split
    · exact (frame_tryHwConfigs codec pass).of_view fun _ => ()
    · exact frame_throw _
  · refine Triple.bind (R := fun d' d => d' = d ∧ d.Explained m params)
      (triple_get fun d hd => ⟨rfl, hd⟩) fun d' => ?_
    split
    · next htried =>
        refine ((triple_tryHwConfigs hpass).frame (frame_tryHwConfigs codec pass)
          fun _ _ hd h => Decoder.Explained.onward h hd).mono (fun d hd => ⟨trivial, hd.2⟩) ?_ ?_
        · rintro - d ⟨⟨c, hc, hworks⟩, -⟩
          obtain ⟨rfl, hconfig⟩ := hwConfig_of_mem_passCandidates hc
          refine ⟨c, hworks, hcodec, htried.1, ?_, ?_⟩
          · rw [Decoder.isHardwareAccelerated, hworks.1, hconfig, Bool.true_or]
          · exact List.mem_append_left _ (List.mem_flatMap.mpr ⟨pass, hpass, hc⟩)
        · rintro reason d ⟨hended, hexplained⟩
          rw [Ended] at hended
          split at hended
          · exact ⟨hexplained, fun _ => hended, fun _ _ => .inl hended⟩
          · next hother => exact ⟨hexplained, fun h => absurd h hother, fun _ _ => .inr hended⟩
    · next hskipped =>
        -- A candidate is skipped only where it is among the terminal failures.
        refine triple_throw ?_
        rintro d ⟨rfl, hexplained⟩
        refine ⟨hexplained, nofun, fun hcandidate hhardware => .inl (hexplained codec ?_)⟩
        by_contra hmem
        exact hskipped ⟨hcandidate, hhardware, hmem⟩
  · obtain ⟨hexplained, hno, hfailed⟩ := hd
    split
    · next hreason =>
        refine ⟨fun codec' hcodec' => ?_, hfailed⟩
        rcases List.mem_cons.mp hcodec' with rfl | hcodec'
        · exact hno hreason
        · exact hexplained codec' hcodec'
    · exact ⟨hexplained, hfailed⟩

theorem triple_tryInitializeNonHwAccelDecoder {requireZeroCopyFormat : Bool} :
    Triple (Decoder.Explained m params)
      (tryInitializeNonHwAccelDecoder out m params requireZeroCopyFormat)
      (fun _ => Decoder.InHardware out m params)
      fun _ d => d.Explained m params ∧
        (requireZeroCopyFormat = false → DecodersExhausted out m params d) := by
  refine triple_search_all (R := Onward Decoder.terminallyFailed)
    (fun codec d => requireZeroCopyFormat = false → isCandidate m params codec = true →
      codec.isHardware = true → NoHardware m params d.log codec ∨
        ∀ c ∈ hwCandidates m codec params ++ plainCandidates out m codec params, GaveUp d.log c)
    (fun codec _ d => d.Explained m params ∧ (requireZeroCopyFormat = false →
      isCandidate m params codec = true → codec.isHardware = true →
        NoHardware m params d.log codec ∨
          ∀ c ∈ hwCandidates m codec params ++ plainCandidates out m codec params,
            GaveUp d.log c))
    (fun _ _ _ hd h hany hcandidate hhardware => tried_later (h hany hcandidate hhardware) hd.log)
    (fun codec _ => ?_) (fun _ _ => frame_pure ())
    (fun codec hcodec => ?_) (fun _ _ _ => triple_pure fun _ hd => hd)
    fun d hd hall => ⟨hd, fun hany codec hcodec => hall codec hcodec hany⟩
  · refine frame_get.bind fun d => ?_
    split
    · exact frame_tryInitializeRendererForUnknownDecoder _ _
    · exact frame_throw _
  · refine Triple.bind (R := fun d' d => d' = d ∧ d.Explained m params)
      (triple_get fun d hd => ⟨rfl, hd⟩) fun d' => ?_
    split
    · next htried =>
        refine (triple_tryBoth.frame (frame_tryInitializeRendererForUnknownDecoder _ _)
          fun _ _ hd h => Decoder.Explained.onward h hd).mono (fun d hd => ⟨trivial, hd.2⟩) ?_
          fun _ d hd => ⟨hd.2, fun _ _ _ => hd.1⟩
        rintro - d ⟨⟨c, hc, hworks⟩, -⟩
        obtain rfl := codec_of_mem_candidates hc
        refine ⟨c, hworks, hcodec, htried.1, ?_, hc⟩
        rw [Decoder.isHardwareAccelerated, htried.2.1, Bool.or_true]
    · next hskipped =>
        refine triple_throw ?_
        rintro d ⟨rfl, hexplained⟩
        refine ⟨hexplained, fun hany hcandidate hhardware => .inl (hexplained codec ?_)⟩
        by_contra hmem
        exact hskipped ⟨hcandidate, hhardware,
          fun h => absurd (hany.symm.trans h) (by decide), hmem⟩

theorem PassExhausted.onward {pass : Nat} {d d' : Decoder} (h : PassExhausted out m params pass d)
    (hd : Onward view d d') : PassExhausted out m params pass d' :=
  fun codec hcodec hcandidate hhardware =>
    tried_later (h codec hcodec hcandidate hhardware) hd.log

theorem DecodersExhausted.onward {d d' : Decoder} (h : DecodersExhausted out m params d)
    (hd : Onward view d d') : DecodersExhausted out m params d' :=
  fun codec hcodec hcandidate hhardware =>
    tried_later (h codec hcodec hcandidate hhardware) hd.log

theorem hardwareExhausted {d : Decoder}
    (hpasses : ∀ pass ∈ passes, PassExhausted out m params pass d)
    (hdecoders : DecodersExhausted out m params d) : HardwareExhausted out m params d.log := by
  intro codec hcodec hcandidate
  cases hhardware : codec.isHardware with
  | true =>
      refine (hdecoders codec hcodec hcandidate hhardware).imp_right fun hall => ?_
      exact ⟨fun c hc => hall c (List.mem_append_left _ hc),
        fun _ c hc => hall c (List.mem_append_right _ hc)⟩
  | false =>
      refine or_iff_not_imp_left.mpr fun hno => ⟨fun c hc => ?_, nofun⟩
      obtain ⟨pass, hpass, hc⟩ := List.mem_flatMap.mp hc
      exact ((hpasses pass hpass codec hcodec hcandidate hhardware).resolve_left hno) c hc

/-! ### `initialize` -/

theorem triple_tryHardware :
    Triple (fun _ => True) (tryHardware out m params) (fun _ => Decoder.InHardware out m params)
      fun _ d => HardwareExhausted out m params d.log := by
  refine Triple.bind (R := fun _ => Decoder.Explained m params)
    (triple_modify fun d _ codec hcodec => absurd hcodec List.not_mem_nil) fun _ => ?_
  -- The tiers in their order; what has given up stays in the log.
  refine triple_firstOf_cons (triple_tryInitializeHwAccelDecoder (by decide)) ?_
  refine triple_firstOf_cons
    (R := fun d => d.Explained m params ∧ PassExhausted out m params 0 d) ?_ ?_
  · exact (triple_tryInitializeNonHwAccelDecoder.frame (frame_tryInitializeNonHwAccelDecoder true)
      fun _ _ hd h => PassExhausted.onward h hd).mono (fun _ hd => hd) (fun _ _ hd => hd.1)
      fun _ _ hd => ⟨hd.1.1, hd.2⟩
  refine triple_firstOf_cons (R := fun d => d.Explained m params ∧
    PassExhausted out m params 0 d ∧ DecodersExhausted out m params d) ?_ ?_
  · exact (triple_tryInitializeNonHwAccelDecoder.frame (frame_tryInitializeNonHwAccelDecoder false)
      fun _ _ hd h => PassExhausted.onward h hd).mono (fun _ hd => hd) (fun _ _ hd => hd.1)
      fun _ _ hd => ⟨hd.1.1, hd.2, hd.1.2 rfl⟩
  have htier {pass : Nat} (hpass : pass ∈ passes) {before : Decoder → Prop}
      (hbefore : ∀ d d', Onward Decoder.nothing d d' → before d → before d') :
      Triple (fun d => d.Explained m params ∧ before d)
        (tryInitializeHwAccelDecoder out m params pass) (fun _ => Decoder.InHardware out m params)
        fun _ d => d.Explained m params ∧ PassExhausted out m params pass d ∧ before d :=
    ((triple_tryInitializeHwAccelDecoder hpass).frame (frame_tryInitializeHwAccelDecoder pass)
      hbefore).mono (fun _ hd => hd) (fun _ _ hd => hd.1) fun _ _ hd => ⟨hd.1.1, hd.1.2, hd.2⟩
  refine triple_firstOf_cons (htier (by decide) fun _ _ hd h => ⟨h.1.onward hd, h.2.onward hd⟩) ?_
  refine triple_firstOf_cons (htier (by decide) fun _ _ hd h =>
    ⟨h.1.onward hd, h.2.1.onward hd, h.2.2.onward hd⟩) ?_
  refine triple_throw fun d ⟨_, htwo, hone, hzero, hdecoders⟩ => hardwareExhausted ?_ hdecoders
  intro pass hpass
  fin_cases hpass
  · exact hzero
  · exact hone
  · exact htwo

/-- The decoder works for a candidate in software. -/
def Decoder.InSoftware (out : Outside) (m : Machine) (params : DecoderParameters)
    (d : Decoder) : Prop :=
  ∃ c, Works m c d ∧ c.codec ∈ out.codecs ∧ isCandidate m params c.codec = true ∧
    d.isHardwareAccelerated c.codec = false ∧ c ∈ plainCandidates out m c.codec params

theorem frame_trySoftware : Frame Decoder.terminallyFailed (trySoftware out m params) := by
  refine frame_search _ (fun codec _ => ?_) fun _ _ => frame_pure ()
  split
  · exact frame_tryInitializeRendererForUnknownDecoder _ _
  · exact frame_throw _

theorem triple_trySoftware :
    Triple (fun _ => True) (trySoftware out m params) (fun _ => Decoder.InSoftware out m params)
      fun _ d => SoftwareExhausted out m params d.log := by
  refine triple_search_all (R := Onward Decoder.terminallyFailed)
    (fun codec d => isCandidate m params codec = true → codec.isHardware = false →
      ∀ c ∈ plainCandidates out m codec params, GaveUp d.log c)
    (fun codec _ d => isCandidate m params codec = true → codec.isHardware = false →
      ∀ c ∈ plainCandidates out m codec params, GaveUp d.log c)
    (fun _ _ _ hd h hcandidate hhardware c hc => (h hcandidate hhardware c hc).later hd.log)
    (fun codec _ => ?_) (fun _ _ => frame_pure ()) (fun codec hcodec => ?_)
    (fun _ _ _ => triple_pure fun _ hd => ⟨trivial, hd⟩) fun _ _ hall => hall
  · split
    · exact frame_tryInitializeRendererForUnknownDecoder _ _
    · exact frame_throw _
  · split
    · next htried =>
        refine triple_tryPixelFormats.mono (fun _ hd => hd) ?_ fun _ _ hd _ _ => hd
        rintro - d ⟨c, hc, hworks⟩
        obtain ⟨rfl, hconfig⟩ := codec_of_mem_plainCandidates hc
        refine ⟨c, hworks, hcodec, htried.1, ?_, hc⟩
        rw [Decoder.isHardwareAccelerated, hworks.1, hconfig, htried.2]
        rfl
    · next hskipped =>
        exact triple_throw fun _ _ hcandidate hhardware => absurd ⟨hcandidate, hhardware⟩ hskipped

/-- The decoder works for a candidate of a codec that the user has named. -/
def Decoder.AsHinted (out : Outside) (m : Machine) (params : DecoderParameters)
    (d : Decoder) : Prop :=
  ∃ c, Works m c d ∧ c.codec ∈ out.codecs ∧ c.codec.isDecoder = true ∧ Hinted m params c.codec ∧
    c ∈ hwCandidates m c.codec params ++ plainCandidates out m c.codec params

theorem triple_tryHint {isFormat : Mask} {hint : String}
    (hhint : ∀ codec : AVCodec, hint ≠ "" → isFormat params.videoFormat = true →
      codec.name = hint → Hinted m params codec) :
    Triple (fun _ => True) (tryHint out m params isFormat hint)
      (fun _ => Decoder.AsHinted out m params) fun _ _ => True := by
  unfold tryHint
  split
  · next hnamed =>
      cases hfind : out.codecs.find? fun codec => codec.isDecoder && codec.name = hint with
      | none => exact triple_throw fun _ _ => trivial
      | some codec =>
          have hfound := List.find?_some hfind
          rw [Bool.and_eq_true, decide_eq_true_eq] at hfound
          refine triple_tryBoth.mono (fun _ hd => hd) ?_ fun _ _ _ => trivial
          rintro - d ⟨c, hc, hworks⟩
          obtain rfl := codec_of_mem_candidates hc
          exact ⟨c, hworks, List.mem_of_find?_eq_some hfind, hfound.1,
            hhint c.codec hnamed.1 hnamed.2 hfound.2, hc⟩
  · exact triple_throw fun _ _ => trivial

/-- What the decoder is chosen from. -/
def Decoder.Chosen (out : Outside) (m : Machine) (params : DecoderParameters)
    (d : Decoder) : Prop :=
  d.AsHinted out m params ∨ params.vds ≠ .forceSoftware ∧ d.InHardware out m params ∨
    params.vds ≠ .forceHardware ∧ d.InSoftware out m params ∧
      (params.vds ≠ .forceSoftware → HardwareExhausted out m params d.log)

theorem triple_initializeDecoder :
    Triple (fun _ => True) (initializeDecoder out m params)
      (fun _ => Decoder.Chosen out m params)
      fun _ d => (params.vds ≠ .forceSoftware → HardwareExhausted out m params d.log) ∧
        (params.vds ≠ .forceHardware → SoftwareExhausted out m params d.log) := by
  have hhint {isFormat : Mask} {hint : String} (h : ∀ codec : AVCodec, hint ≠ "" →
      isFormat params.videoFormat = true → codec.name = hint → Hinted m params codec) :
      Triple (fun _ => True) (tryHint out m params isFormat hint)
        (fun _ => Decoder.Chosen out m params) fun _ _ => True :=
    (triple_tryHint h).mono (fun _ hd => hd) (fun _ _ hd => .inl hd) fun _ _ hd => hd
  refine triple_firstOf_cons (hhint fun codec hne hformat hname => ?_) ?_
  · exact ⟨hname ▸ hne, .inl ⟨hname, hformat⟩⟩
  refine triple_firstOf_cons (hhint fun codec hne hformat hname => ?_) ?_
  · exact ⟨hname ▸ hne, .inr (.inl ⟨hname, hformat⟩)⟩
  refine triple_firstOf_cons (hhint fun codec hne hformat hname => ?_) ?_
  · exact ⟨hname ▸ hne, .inr (.inr ⟨hname, hformat⟩)⟩
  refine triple_firstOf_cons
    (R := fun d => params.vds ≠ .forceSoftware → HardwareExhausted out m params d.log) ?_ ?_
  · split
    · next hvds =>
        exact triple_tryHardware.mono (fun _ hd => hd) (fun _ _ hd => .inr (.inl ⟨hvds, hd⟩))
          fun _ _ hd _ => hd
    · next hvds => exact triple_throw fun _ _ h => absurd h hvds
  refine triple_firstOf_cons (R := fun d =>
    (params.vds ≠ .forceSoftware → HardwareExhausted out m params d.log) ∧
      (params.vds ≠ .forceHardware → SoftwareExhausted out m params d.log)) ?_
    (triple_throw fun _ hd => hd)
  split
  · next hvds =>
      exact (triple_trySoftware.frame frame_trySoftware fun _ _ hd h hhardware =>
        (h hhardware).later hd.log).mono (fun _ hd => ⟨trivial, hd⟩)
        (fun _ _ hd => .inr (.inr ⟨hvds, hd.1, hd.2⟩)) fun _ _ hd => ⟨hd.2, fun _ => hd.1⟩
  · next hvds => exact triple_throw fun _ hd => ⟨hd, fun h => absurd h hvds⟩

/-- **The decoder that is chosen.** Its codec has been opened, and has passed its test. Unless the
user has named the codec, it is for the format of the stream, whether it is in hardware is as the
settings allow, and in software it is only after everything in hardware has given up, where that was
allowed. There is none only where every candidate that was allowed has given up. -/
theorem decoder_chosen (out : Outside) (m : Machine) (params : DecoderParameters)
    (testOnly : Bool) :
    let (result, d) := exec (initializeDecoder out m params) (Decoder.new testOnly)
    match result with
    | .ok _ => ∃ c, Works m c d ∧ c.codec ∈ out.codecs ∧ c.codec.isDecoder = true ∧
        c ∈ hwCandidates m c.codec params ++ plainCandidates out m c.codec params ∧
        (Hinted m params c.codec ∨ isDecoderMatchForParams m c.codec params = true ∧
          if d.isHardwareAccelerated c.codec then params.vds ≠ .forceSoftware
          else params.vds ≠ .forceHardware ∧
            (params.vds ≠ .forceSoftware → HardwareExhausted out m params d.log))
    | .error _ => (params.vds ≠ .forceSoftware → HardwareExhausted out m params d.log) ∧
        (params.vds ≠ .forceHardware → SoftwareExhausted out m params d.log) := by
  have hends : Triple (fun _ => True) (initializeDecoder out m params)
      (fun _ => Decoder.Chosen out m params) _ := triple_initializeDecoder
  have hends := hends (Decoder.new testOnly) trivial
  rcases hrun : exec (initializeDecoder out m params) (Decoder.new testOnly) with ⟨result, d⟩
  rw [hrun] at hends
  cases result with
  | error reason => exact hends
  | ok a =>
      rcases hends with ⟨c, hworks, hcodec, hdecoder, hhinted, hc⟩ |
        ⟨hvds, c, hworks, hcodec, hcandidate, haccelerated, hc⟩ |
        ⟨hvds, ⟨c, hworks, hcodec, hcandidate, haccelerated, hc⟩, hexhausted⟩
      · exact ⟨c, hworks, hcodec, hdecoder, hc, .inl hhinted⟩
      · obtain ⟨hdecoder, hmatch⟩ := Bool.and_eq_true_iff.mp hcandidate
        exact ⟨c, hworks, hcodec, hdecoder, hc, .inr ⟨hmatch, (if_pos haccelerated).mpr hvds⟩⟩
      · obtain ⟨hdecoder, hmatch⟩ := Bool.and_eq_true_iff.mp hcandidate
        refine ⟨c, hworks, hcodec, hdecoder, List.mem_append_right _ hc, .inr ⟨hmatch, ?_⟩⟩
        rw [if_neg (by simp [haccelerated])]
        exact ⟨hvds, hexhausted⟩

end Programs

end GilStreaming.Streaming.DecoderSetup
