import GilStreaming.Streaming.DecoderSetup
import Mathlib.Tactic.FinCases

/-!
# GilStreaming.Streaming.DecoderFrames

What the setup of a decoder leaves alone.

The log only grows. A function lower down leaves more of the decoder alone than its callers do, so
a frame is about a view of the decoder, and the view gets smaller on the way up.
-/

namespace GilStreaming.Streaming.DecoderSetup

open Fallible

/-- The log goes on, and the view of the decoder is as it was. -/
structure Onward {γ : Type} (view : Decoder → γ) (d d' : Decoder) : Prop where
  log : d.log <+: d'.log
  view : view d' = view d

/-- Whatever the program ends with. -/
abbrev Frame {γ α : Type} (view : Decoder → γ) (x : Setup α) : Prop := Along (Onward view) x

namespace Decoder

/-! ### Views -/

/-- What only a new candidate changes. -/
def candidate (d : Decoder) := (d.hwDecodeCfg, d.terminallyFailed)

/-- What only a new backend changes too. -/
def attempt (d : Decoder) := (d.backendRenderer, d.candidate)

/-- What is kept once the test mode has been set. -/
def inMode (d : Decoder) := (d.currentTestMode, d.requiredPixelFormat, d.attempt)

/-- What is kept once the context has been opened. -/
def opened (d : Decoder) := (d.videoDecoderCtx, d.inMode)

end Decoder

section Frames

variable {γ δ α β : Type} {view : Decoder → γ} {d : Decoder}

theorem onward_refl (d : Decoder) : Onward view d d := ⟨List.prefix_refl _, rfl⟩

theorem onward_trans (d d' d'' : Decoder) (h : Onward view d d') (h' : Onward view d' d'') :
    Onward view d d'' :=
  ⟨h.log.trans h'.log, h'.view.trans h.view⟩

theorem Onward.of_log {d d' : Decoder} (hlog : d'.log = d.log) (hview : view d' = view d) :
    Onward view d d' :=
  ⟨hlog ▸ List.prefix_refl _, hview⟩

theorem Onward.of_act {d d' : Decoder} {act : Act} (hlog : d'.log = d.log ++ [act])
    (hview : view d' = view d) : Onward view d d' :=
  ⟨hlog ▸ List.prefix_append _ _, hview⟩

/-- A smaller view. -/
theorem Frame.of_view {x : Setup α} (h : Frame view x) (f : γ → δ) :
    Frame (fun d => f (view d)) x :=
  h.mono fun _ _ h => ⟨h.log, congrArg f h.view⟩

theorem Frame.keeps {x : Setup α} (h : Frame view x) : Keeps view x := fun d => .inr (h d).view

/-- What a frame keeps, whatever the program ends with. -/
theorem triple_of_frame {x : Setup α} {M : Decoder → Prop} (h : Frame view x)
    (hM : ∀ d d', Onward view d d' → M d → M d') : Triple M x (fun _ => M) fun _ _ => True :=
  (Along.triple h hM).mono (fun _ hd => hd) (fun _ _ hd => hd) fun _ _ _ => trivial

theorem frame_pure (a : α) : Frame view (pure a) := along_pure onward_refl a

theorem frame_throw (e : InitFailureReason) : Frame view (throw e : Setup α) :=
  along_throw onward_refl e

theorem frame_get : Frame view (get : Setup Decoder) := along_get onward_refl

theorem Frame.bind {x : Setup α} {f : α → Setup β} (hx : Frame view x)
    (hf : ∀ a, Frame view (f a)) : Frame view (x >>= f) :=
  Along.bind onward_trans hx hf

theorem Frame.tryCatch {x : Setup α} {handler : InitFailureReason → Setup α} (hx : Frame view x)
    (hhandler : ∀ e, Frame view (handler e)) : Frame view (tryCatch x handler) :=
  Along.tryCatch onward_trans hx hhandler

theorem frame_succeeds {x : Setup Unit} (hx : Frame view x) : Frame view (succeeds x) :=
  (hx.bind fun _ => frame_pure true).tryCatch fun _ => frame_pure false

theorem frame_search {body : β → Setup α} {onFailure : β → InitFailureReason → Setup Unit}
    (last : InitFailureReason) {bs : List β} (hbody : ∀ b ∈ bs, Frame view (body b))
    (honFailure : ∀ b e, Frame view (onFailure b e)) :
    Frame view (search body onFailure last bs) :=
  along_search onward_refl onward_trans last hbody honFailure

theorem frame_withPart {part : Decoder → Option α} {f : α → Setup β}
    (hf : ∀ x, Frame view (f x)) : Frame view (withPart part f) := by
  refine frame_get.bind fun d => ?_
  cases part d with
  | some x => exact hf x
  | none => exact frame_throw _

end Frames

section Programs

variable {γ : Type} {view : Decoder → γ} {out : Outside} {m : Machine} {params : DecoderParameters}
  {P : Decoder → Prop} {E : InitFailureReason → Decoder → Prop}

/-! ### Calls -/

theorem triple_ask {question : Question} {Q : Bool → Decoder → Prop}
    (h : ∀ d, P d → ∀ answer, Q answer (d.did (.ask question answer))) :
    Triple P (ask out question) Q E :=
  fun d hd => h d hd _

theorem triple_require {question : Question} {Q : Unit → Decoder → Prop}
    (hyes : ∀ d, P d → Q () (d.did (.ask question true)))
    (hno : ∀ d, P d → E .unknown (d.did (.ask question false))) :
    Triple P (require out question) Q E := by
  refine Triple.bind
    (R := fun answer d' => ∃ d, P d ∧ d' = d.did (.ask question answer))
    (triple_ask fun d hd answer => ⟨d, hd, rfl⟩) fun answer => triple_ensure ?_ ?_
  · rintro _ rfl ⟨d, hd, rfl⟩
    exact hyes d hd
  · rintro _ rfl ⟨d, hd, rfl⟩
    exact hno d hd

theorem triple_withPart {α β : Type} {part : Decoder → Option α} {f : α → Setup β} {x : α}
    {Q : β → Decoder → Prop} (hpart : ∀ d, P d → part d = some x) (h : Triple P (f x) Q E) :
    Triple P (withPart part f) Q E := by
  refine Triple.bind (R := fun d' d => P d ∧ part d' = some x)
    (triple_get fun d hd => ⟨hd, hpart d hd⟩) fun d' => triple_of_state ?_
  rintro d ⟨hd, hx⟩
  rw [hx]
  rintro _ rfl
  exact h _ hd

/-- A part that may be null. -/
theorem triple_withAnyPart {α β : Type} {part : Decoder → Option α} {f : α → Setup β}
    {Q : β → Decoder → Prop} (h : ∀ x, Triple (fun d => P d ∧ part d = some x) (f x) Q E)
    (hnone : ∀ d, P d → E .unknown d) : Triple P (withPart part f) Q E := by
  refine Triple.bind (R := fun d' d => d' = d ∧ P d) (triple_get fun d hd => ⟨rfl, hd⟩)
    fun d' => ?_
  cases hpart : part d' with
  | some x =>
      rintro _ ⟨rfl, hd⟩
      exact h x _ ⟨hd, hpart⟩
  | none => exact triple_throw fun d hd => hnone d hd.2

theorem frame_ask (hview : ∀ d act, view (d.did act) = view d) (question : Question) :
    Frame view (ask out question) :=
  fun d => .of_act rfl (hview d _)

theorem frame_require (hview : ∀ d act, view (d.did act) = view d) (question : Question) :
    Frame view (require out question) :=
  (frame_ask hview question).bind fun ok => along_ensure onward_refl ok _

theorem frame_getInitFailureReason (hview : ∀ d act, view (d.did act) = view d) (r : Renderer) :
    Frame view (getInitFailureReason out r) :=
  fun d => .of_act rfl (hview d _)

theorem frame_receiveFrame (hview : ∀ d act, view (d.did act) = view d) (context : Context) :
    Frame view (receiveFrame out context) :=
  fun d => .of_act rfl (hview d _)

/-! ### Renderers -/

theorem frame_initializeRendererInternal (r : Renderer) :
    Frame Decoder.opened (initializeRendererInternal out r params) := by
  refine frame_get.bind fun d => ?_
  split
  · exact frame_throw _
  · refine (frame_ask (fun _ _ => rfl) _).bind fun ok => ?_
    split
    · exact frame_pure _
    · refine (frame_getInitFailureReason (fun _ _ => rfl) r).bind fun reason => ?_
      refine Frame.bind (along_modify fun d => ?_) fun _ => frame_throw _
      split
      · exact .of_log rfl rfl
      · exact onward_refl d

theorem onward_deleteFrontend (d : Decoder) : Onward Decoder.opened d d.deleteFrontend := by
  unfold Decoder.deleteFrontend
  split
  · split
    · exact .of_log rfl rfl
    · exact .of_act rfl rfl
  · exact onward_refl d

theorem frame_tryFrontend (kind : RendererKind) (hdr : Bool) :
    Frame Decoder.opened (tryFrontend out kind params hdr) := by
  refine Frame.bind (along_modify fun d => .of_act rfl rfl) fun _ => Frame.tryCatch ?_ fun e => ?_
  · refine frame_withPart fun f => (frame_initializeRendererInternal f).bind fun _ => ?_
    exact along_onlyIf onward_refl hdr (frame_require (fun _ _ => rfl) _)
  · exact Frame.bind (along_modify onward_deleteFrontend) fun _ => frame_throw _

theorem frame_requireThenTry (question : Question) (kind : RendererKind) (hdr : Bool) :
    Frame Decoder.opened
      (do require out question
          tryFrontend out kind params hdr) :=
  (frame_require (fun _ _ => rfl) question).bind fun _ => frame_tryFrontend kind hdr

theorem of_mem_ite {α : Type} {c : Prop} [Decidable c] {x y : α}
    (h : x ∈ if c then [y] else []) : x = y := by
  split at h
  · exact List.mem_singleton.mp h
  · cases h

theorem frame_alternateFrontends (b : Renderer) :
    Frame Decoder.opened (firstOf .unknown (alternateFrontends out m b params)) := by
  refine along_firstOf onward_refl onward_trans _ fun x hx => ?_
  rcases List.mem_append.mp hx with hx | hx
  · split at hx
    · rcases List.mem_append.mp hx with hx | hx
      · rcases List.mem_append.mp hx with hx | hx
        · exact of_mem_ite hx ▸ frame_tryFrontend _ _
        · exact of_mem_ite hx ▸ frame_requireThenTry _ _ _
      · exact of_mem_ite hx ▸ frame_tryFrontend _ _
    · exact of_mem_ite hx ▸ frame_tryFrontend _ _
  · exact of_mem_ite hx ▸ frame_requireThenTry _ _ _

theorem frame_indirectFrontends (b : Renderer) :
    Frame Decoder.opened (firstOf .unknown (indirectFrontends out m b params)) := by
  refine along_firstOf onward_refl onward_trans _ fun x hx => ?_
  rcases List.mem_append.mp hx with hx | hx
  · rcases List.mem_append.mp hx with hx | hx
    · exact of_mem_ite hx ▸ frame_tryFrontend _ _
    · exact of_mem_ite hx ▸ frame_requireThenTry _ _ _
  · rw [List.mem_singleton.mp hx]
    exact Frame.bind (along_modify fun d => .of_act rfl rfl) fun _ =>
      frame_withPart fun f => frame_initializeRendererInternal f

theorem frame_createFrontendRenderer (useAlternateFrontend : Bool) :
    Frame Decoder.opened (createFrontendRenderer out m params useAlternateFrontend) := by
  refine frame_withPart fun b => ?_
  split
  · exact frame_alternateFrontends b
  · refine (frame_ask (fun _ _ => rfl) _).bind fun direct => ?_
    split
    · exact along_modify fun d => .of_log rfl rfl
    · exact frame_indirectFrontends b

/-! ### `completeInitialization` -/

theorem frame_enablePacing (f : Renderer) : Frame Decoder.opened (enablePacing out f params) := by
  unfold enablePacing
  split
  · exact frame_pure true
  · split
    · exact frame_ask (fun _ _ => rfl) _
    · exact frame_pure false

theorem frame_createPacer : Frame Decoder.opened (createPacer out params) := by
  refine frame_withPart fun f => Frame.bind (along_modify fun d => .of_act rfl rfl) fun _ => ?_
  exact frame_withPart fun n => (frame_enablePacing f).bind fun pacing =>
    frame_require (fun _ _ => rfl) _

theorem frame_openContext (codec : AVCodec) (requiredFormat : Option AVPixelFormat) :
    Frame Decoder.inMode (openContext out m codec requiredFormat params) := by
  refine frame_withPart fun b => frame_withPart fun f => ?_
  refine (frame_require (fun _ _ => rfl) _).bind fun _ => ?_
  refine Frame.bind (along_modify fun d => .of_act rfl rfl) fun _ => frame_withPart fun c => ?_
  exact (frame_require (fun _ _ => rfl) _).bind fun _ => frame_get.bind fun d =>
    frame_require (fun _ _ => rfl) _

theorem frame_receiveTestFrame (context : Context) (testFrame : VideoFormat) (retries : Nat) :
    Frame Decoder.opened (receiveTestFrame out context testFrame retries) := by
  induction retries with
  | zero => exact frame_throw _
  | succ retries ih =>
      refine (frame_require (fun _ _ => rfl) _).bind fun _ =>
        (frame_receiveFrame (fun _ _ => rfl) context).bind fun result => ?_
      -- `again` is the only result that goes round the loop.
      cases result with
      | frame => exact frame_pure ()
      | again => exact ih
      | error => exact frame_throw _

theorem frame_decodeTestFrame : Frame Decoder.opened (decodeTestFrame out params) :=
  frame_withPart fun c => frame_withPart fun _ =>
    (frame_require (fun _ _ => rfl) _).bind fun _ =>
      (frame_receiveTestFrame c _ 5).bind fun _ => frame_require (fun _ _ => rfl) _

theorem frame_needsSpsFixup (b : Renderer) :
    Frame Decoder.opened (needsSpsFixup out b params) := by
  unfold needsSpsFixup
  split
  · exact (frame_ask (fun _ _ => rfl) _).bind fun invalidates => frame_pure _
  · exact frame_pure false

theorem frame_startRendering : Frame Decoder.opened (startRendering out params) := by
  refine frame_withPart fun b => frame_withPart fun _ => ?_
  refine (frame_needsSpsFixup b).bind fun fixup => ?_
  refine Frame.bind (along_modify fun d => ⟨?_, rfl⟩) fun _ => ?_
  · exact (List.prefix_append _ _).trans (List.prefix_append _ _)
  · exact (frame_require (fun _ _ => rfl) _).bind fun _ => along_modify fun d => .of_act rfl rfl

theorem frame_completeInitialization (codec : AVCodec) (requiredFormat : Option AVPixelFormat)
    (testMode : TestMode) (useAlternateFrontend : Bool) :
    Frame Decoder.attempt
      (completeInitialization out m codec requiredFormat params testMode useAlternateFrontend) := by
  refine ((frame_createFrontendRenderer _).of_view (·.2.2.2)).bind fun _ => ?_
  refine Frame.bind (along_modify fun d => .of_log rfl rfl) fun _ => ?_
  refine Frame.bind (along_onlyIf onward_refl _ (frame_createPacer.of_view (·.2.2.2))) fun _ => ?_
  refine ((frame_openContext codec requiredFormat).of_view (·.2.2)).bind fun _ => ?_
  refine Frame.bind (along_onlyIf onward_refl _ (frame_decodeTestFrame.of_view (·.2.2.2)))
    fun _ => ?_
  exact along_onlyIf onward_refl _ (frame_startRendering.of_view (·.2.2.2))

/-! ### Candidates -/

theorem frame_initializeBackend : Frame Decoder.attempt (initializeBackend out params) :=
  frame_withPart fun b => (frame_initializeRendererInternal b).of_view (·.2.2.2)

theorem onward_deleteThread (d : Decoder) : Onward Decoder.candidate d d.deleteThread := by
  unfold Decoder.deleteThread
  split
  · exact .of_act rfl rfl
  · exact onward_refl d

theorem onward_deletePacer (d : Decoder) : Onward Decoder.candidate d d.deletePacer := by
  unfold Decoder.deletePacer
  split
  · exact .of_act rfl rfl
  · exact onward_refl d

theorem onward_freeContext (d : Decoder) : Onward Decoder.candidate d d.freeContext := by
  unfold Decoder.freeContext
  split
  · exact .of_act rfl rfl
  · exact onward_refl d

theorem onward_unregister (d : Decoder) : Onward Decoder.candidate d d.unregister := by
  unfold Decoder.unregister
  split
  · exact onward_refl d
  · exact .of_act rfl rfl

theorem onward_deleteBackend (d : Decoder) : Onward Decoder.candidate d d.deleteBackend := by
  unfold Decoder.deleteBackend
  split
  · exact .of_act rfl rfl
  · exact onward_refl d

theorem onward_reset (d : Decoder) : Onward Decoder.candidate d d.reset := by
  have hfrontend (d : Decoder) : Onward Decoder.candidate d d.deleteFrontend :=
    ⟨(onward_deleteFrontend d).log, congrArg (·.2.2.2.2) (onward_deleteFrontend d).view⟩
  have hpacer := onward_trans _ _ _ (onward_deleteThread d) (onward_deletePacer _)
  have hcontext := onward_trans _ _ _ hpacer (onward_freeContext _)
  have hoverlay := onward_trans _ _ _ hcontext (onward_unregister _)
  exact onward_trans _ _ _ (onward_trans _ _ _ hoverlay (hfrontend _)) (onward_deleteBackend _)

theorem frame_testThenSetUp (c : Candidate) (kind : RendererKind) (useAlternateFrontend : Bool) :
    Frame Decoder.candidate (testThenSetUp out m c kind params useAlternateFrontend) := by
  refine frame_get.bind fun d => ?_
  refine ((frame_completeInitialization _ _ _ _).of_view Prod.snd).bind fun _ => ?_
  refine along_onlyIf onward_refl _ (Frame.bind (along_modify onward_reset) fun _ => ?_)
  refine Frame.bind (along_modify fun d => .of_act rfl rfl) fun _ => ?_
  exact (frame_initializeBackend.of_view Prod.snd).bind fun _ =>
    (frame_completeInitialization _ _ _ _).of_view Prod.snd

theorem frame_tryFrontends (c : Candidate) (modes : List Bool) (reason : InitFailureReason) :
    Frame Decoder.candidate (tryFrontends out m c params modes reason) := by
  induction modes generalizing reason with
  | nil => exact frame_throw reason
  | cons useAlternateFrontend modes ih =>
      unfold tryFrontends
      split
      · exact frame_throw reason
      · next kind _ =>
          refine Frame.bind (along_modify fun d => .of_act rfl rfl) fun _ => ?_
          refine (frame_succeeds (frame_initializeBackend.of_view Prod.snd)).bind
            fun initialized => ?_
          refine Frame.bind (frame_succeeds ?_) fun works => ?_
          · exact Frame.bind (along_ensure onward_refl _ _) fun _ => frame_testThenSetUp c kind _
          · split
            · exact frame_pure ()
            · refine (frame_withPart fun b => frame_getInitFailureReason (fun _ _ => rfl) b).bind
                fun reason => ?_
              refine Frame.bind (along_modify onward_reset) fun _ => ?_
              split
              · exact ih reason
              · exact frame_throw reason

theorem frame_tryInitializeRenderer (c : Candidate) :
    Frame Decoder.terminallyFailed (tryInitializeRenderer out m c params) := by
  refine Frame.bind (along_modify fun d => .of_log rfl rfl) fun _ => ?_
  refine ((frame_tryFrontends c _ _).of_view Prod.snd).tryCatch fun reason => ?_
  exact Frame.bind (along_modify fun d => .of_act rfl rfl) fun _ => frame_throw reason

/-! ### Codecs -/

theorem frame_stopWithoutHardware (reason : InitFailureReason) :
    Frame Decoder.terminallyFailed (stopWithoutHardware reason) :=
  along_ensure onward_refl _ _

theorem frame_tryHwConfigs (codec : AVCodec) (pass : Nat) :
    Frame Decoder.terminallyFailed (tryHwConfigs out m codec params pass) :=
  frame_search _ (fun _ _ => frame_tryInitializeRenderer _) fun _ => frame_stopWithoutHardware

theorem frame_tryHwAccelPasses (codec : AVCodec) :
    Frame Decoder.terminallyFailed (tryHwAccelPasses out m codec params) :=
  frame_search _ (fun pass _ => frame_tryHwConfigs codec pass) fun _ => frame_stopWithoutHardware

theorem frame_tryPixelFormats (codec : AVCodec) :
    Frame Decoder.terminallyFailed (tryPixelFormats out m codec params) :=
  frame_search _ (fun _ _ => frame_tryInitializeRenderer _) fun _ _ => frame_pure ()

theorem frame_tryInitializeRendererForUnknownDecoder (decoder : Option AVCodec)
    (tryHwAccel : Bool) :
    Frame Decoder.terminallyFailed
      (tryInitializeRendererForUnknownDecoder out m decoder params tryHwAccel) := by
  cases decoder with
  | none => exact frame_throw _
  | some codec =>
      cases tryHwAccel with
      | false => exact frame_tryPixelFormats codec
      | true =>
          refine (frame_tryHwAccelPasses codec).tryCatch fun reason => ?_
          split
          · exact frame_throw reason
          · exact frame_tryPixelFormats codec

/-- Of a decoder nothing is kept, but the log grows. -/
def Decoder.nothing (_ : Decoder) : Unit := ()

theorem frame_noteTerminalFailure (codec : AVCodec) (reason : InitFailureReason) :
    Frame Decoder.nothing (noteTerminalFailure codec reason) := by
  refine along_modify fun d => ?_
  split
  · exact .of_log rfl rfl
  · exact onward_refl d

theorem frame_tryInitializeHwAccelDecoder (pass : Nat) :
    Frame Decoder.nothing (tryInitializeHwAccelDecoder out m params pass) := by
  refine frame_search _ (fun codec _ => frame_get.bind fun d => ?_) frame_noteTerminalFailure
  split
  · exact (frame_tryHwConfigs codec pass).of_view fun _ => ()
  · exact frame_throw _

theorem frame_tryInitializeNonHwAccelDecoder (requireZeroCopyFormat : Bool) :
    Frame Decoder.terminallyFailed
      (tryInitializeNonHwAccelDecoder out m params requireZeroCopyFormat) := by
  refine frame_search _ (fun codec _ => frame_get.bind fun d => ?_) fun _ _ => frame_pure ()
  split
  · exact frame_tryInitializeRendererForUnknownDecoder _ _
  · exact frame_throw _

end Programs

end GilStreaming.Streaming.DecoderSetup
