import GilStreaming.Streaming.DecoderThread

/-!
# GilStreaming.Streaming.FrameTiming

The timing of the frames that the decoder thread hands to `Pacer`.

`TimingStep` says once what a step does to the codec, to `m_FrameInfoQueue` and to the
frames, and `InStep` is what all of them keep: the queue holds the units of the accepted
packets but for as many of the first as there were frames, so the frame at `k` takes the
unit at `k`. The unit that produced it is the one at the frame's place in the codec, and
`Pipeline.gapless_iff` says when the two are the same. An error of
`avcodec_receive_frame` leaves the queue as it is, so the frames after a lost one take
the units of earlier packets.
-/

namespace GilStreaming.Streaming

open Trace

/-- The frame has the RTP timestamp of the unit and is charged its decode time. -/
structure SubmittedFrame.Carries (f : SubmittedFrame) (du : DecodeUnit) : Prop where
  pts : f.pts = some (du.rtpTimestamp.toNat : Int)
  decodeTimeUs : f.decodeTimeUs = some (f.receivedUs - du.enqueueTimeUs)

/-- What a frame gets from its decode unit. -/
def DecodeUnit.timing (du : DecodeUnit) : UInt32 × UInt64 := (du.rtpTimestamp, du.enqueueTimeUs)

theorem SubmittedFrame.Carries.timing_eq {f : SubmittedFrame} {du du' : DecodeUnit}
    (h : f.Carries du) (h' : f.Carries du') : du.timing = du'.timing := by
  have hpts : (du.rtpTimestamp.toNat : Int) = du'.rtpTimestamp.toNat :=
    Option.some.inj (h.pts.symm.trans h'.pts)
  have htime : f.receivedUs - du.enqueueTimeUs = f.receivedUs - du'.enqueueTimeUs :=
    Option.some.inj (h.decodeTimeUs.symm.trans h'.decodeTimeUs)
  have hrtp : du.rtpTimestamp = du'.rtpTimestamp := UInt32.toNat_inj.mp (Int.ofNat_inj.mp hpts)
  have henqueue : du.enqueueTimeUs = du'.enqueueTimeUs := (UInt64.sub_right_inj _).mp htime
  rw [DecodeUnit.timing, DecodeUnit.timing, hrtp, henqueue]

namespace FFmpegVideoDecoder

/-- The frame carries the timing of the decode unit that produced it. -/
def OwnTiming (d : FFmpegVideoDecoder) (f : SubmittedFrame) : Prop :=
  ∃ du, d.videoDecoderCtx.accepted[f.packet]? = some du ∧ f.Carries du

/-- The place of the packet whose frame the codec returns in a step. -/
def returnedPacket (d : FFmpegVideoDecoder) (e : DecoderEvent) : Option Nat :=
  match e, d.decoderThread with
  | .receiveFrame (.frame _ _), .receiving => d.videoDecoderCtx.pending.head?
  | _, _ => none

/-- The codec returns a frame although it has lost one of an earlier packet. -/
def Overtakes (d : FFmpegVideoDecoder) (e : DecoderEvent) : Prop :=
  ∃ packet ∈ d.returnedPacket e, ∃ lost ∈ d.videoDecoderCtx.lost, lost < packet

instance (d : FFmpegVideoDecoder) (e : DecoderEvent) : Decidable (d.Overtakes e) :=
  inferInstanceAs (Decidable (∃ packet ∈ d.returnedPacket e, ∃ lost ∈ d.videoDecoderCtx.lost, _))

end FFmpegVideoDecoder

/-! ### What a step does to the timing -/

/-- The part of the decoder that ties the frames to the decode units. -/
structure FrameInfo where
  ctx : Pipeline DecodeUnit
  queue : List DecodeUnit
  submitted : List SubmittedFrame
  framesIn : Nat
  framesOut : Nat

/-- A step sends a decode unit, hands on the frame of a packet, loses a frame, or does none
of this. -/
inductive FrameInfo.Step : FrameInfo → Option Nat → FrameInfo → Prop
  | stays (x : FrameInfo) : Step x none x
  | accepts (x : FrameInfo) (du : DecodeUnit) :
      Step x none { x with
        ctx := x.ctx.accept du
        queue := x.queue ++ [du]
        framesIn := x.framesIn + 1 }
  | returns (x : FrameInfo) (f : SubmittedFrame) (rest : List Nat)
      (hpending : x.ctx.pending = f.packet :: rest)
      (hcarries : ∀ du ∈ x.queue.head?, f.Carries du) :
      Step x (some f.packet) { x with
        ctx := x.ctx.receive
        queue := x.queue.tail
        submitted := x.submitted ++ [f]
        framesOut := x.framesOut + 1 }
  | loses (x : FrameInfo) (i : Nat) : Step x none { x with ctx := x.ctx.lose i }

namespace FFmpegVideoDecoder

def frameInfo (d : FFmpegVideoDecoder) : FrameInfo :=
  ⟨d.videoDecoderCtx, d.frameInfoQueue, d.submitted, d.framesIn, d.framesOut⟩

theorem failDecode_frameInfo (d : FFmpegVideoDecoder) : d.failDecode.frameInfo = d.frameInfo := by
  simp only [failDecode]
  split <;> rfl

theorem countDroppedFrames_frameInfo (d : FFmpegVideoDecoder) (u : Submission) :
    (d.countDroppedFrames u).frameInfo = d.frameInfo := by
  simp only [countDroppedFrames]
  split <;> rfl

theorem flipStatsWindow_frameInfo (d : FFmpegVideoDecoder) (u : Submission) :
    (d.flipStatsWindow u).frameInfo = d.frameInfo := by
  unfold flipStatsWindow
  split <;> rfl

theorem countReceivedFrame_frameInfo (d : FFmpegVideoDecoder) (du : DecodeUnit) :
    (d.countReceivedFrame du).frameInfo = d.frameInfo := rfl

/-- The statistics of a decode unit tie no frame to it. -/
theorem countDecodeUnit_frameInfo (d : FFmpegVideoDecoder) (u : Submission) :
    (d.countDecodeUnit u).frameInfo = d.frameInfo := by
  rw [countDecodeUnit, countReceivedFrame_frameInfo, flipStatsWindow_frameInfo,
    countDroppedFrames_frameInfo]

/-- What is left of the decoder by `submitDecodeUnit`, by whether the packet is sent. -/
theorem submitDecodeUnit_cases (d : FFmpegVideoDecoder) (u : Submission) :
    (d.submitDecodeUnit u).2 = d ∨
      (d.submitDecodeUnit u).2 = (d.countDecodeUnit u).failDecode ∨
      (d.submitDecodeUnit u).2 = (d.countDecodeUnit u).enqueueDecodeUnit u.du := by
  unfold submitDecodeUnit
  split
  · exact .inl rfl
  · split
    · exact .inr (.inl rfl)
    · exact .inr (.inr rfl)

theorem enqueueDecodeUnit_step (d : FFmpegVideoDecoder) (du : DecodeUnit) :
    d.frameInfo.Step none (d.enqueueDecodeUnit du).frameInfo :=
  .accepts d.frameInfo du

theorem submitDecodeUnit_step (d : FFmpegVideoDecoder) (u : Submission) :
    d.frameInfo.Step none (d.submitDecodeUnit u).2.frameInfo := by
  have hcounted := countDecodeUnit_frameInfo d u
  rcases submitDecodeUnit_cases d u with h | h | h
  · rw [h]
    exact .stays _
  · rw [h, failDecode_frameInfo, hcounted]
    exact .stays _
  · rw [h, ← hcounted]
    exact enqueueDecodeUnit_step _ u.du

theorem completeVideoFrame_step (d : FFmpegVideoDecoder) (u : Submission) :
    d.frameInfo.Step none (d.completeVideoFrame u).frameInfo :=
  submitDecodeUnit_step d u

theorem submitFrame_step {d : FFmpegVideoDecoder} {packet : Nat} {rest : List Nat}
    (hpending : d.videoDecoderCtx.pending = packet :: rest) (pktDts receivedUs : UInt64) :
    d.frameInfo.Step (some packet) (d.submitFrame packet pktDts receivedUs).frameInfo := by
  unfold submitFrame
  dsimp only
  cases hqueue : d.frameInfoQueue with
  | nil =>
      have h := FrameInfo.Step.returns d.frameInfo ⟨packet, pktDts, receivedUs, none, none⟩ rest
        hpending (by simp [frameInfo, hqueue])
      simpa [frameInfo, hqueue] using h
  | cons du queue =>
      have h := FrameInfo.Step.returns d.frameInfo
        ⟨packet, pktDts, receivedUs, some du.rtpTimestamp.toNat,
          some (receivedUs - du.enqueueTimeUs)⟩ rest hpending (by
            intro du' hdu'
            obtain rfl : du = du' := by simpa [frameInfo, hqueue] using hdu'
            exact ⟨rfl, rfl⟩)
      simpa [frameInfo, hqueue] using h

theorem receiveFailed_step (d : FFmpegVideoDecoder) (lost : Option Nat) :
    d.frameInfo.Step none (d.receiveFailed lost).frameInfo := by
  rw [← failDecode_frameInfo]
  cases lost with
  | none => exact .stays _
  | some i => exact .loses d.failDecode.frameInfo i

/-- What a step does besides moving the thread: nothing, or it submits a decode unit, or the
codec returns a frame or fails to. -/
theorem step_cases (d : FFmpegVideoDecoder) (e : DecoderEvent) :
    (∃ quit thread, d.returnedPacket e = none ∧
      d.step e = { d with decoderThreadShouldQuit := quit, decoderThread := thread }) ∨
    (∃ u thread, d.returnedPacket e = none ∧
      d.step e = { d.completeVideoFrame u with decoderThread := thread }) ∨
    (∃ packet pending pktDts receivedUs thread,
      d.videoDecoderCtx.pending = packet :: pending ∧ d.returnedPacket e = some packet ∧
      d.step e = { d.submitFrame packet pktDts receivedUs with decoderThread := thread }) ∨
    (∃ lost thread, d.returnedPacket e = none ∧
      d.step e = { d.receiveFailed lost with decoderThread := thread }) := by
  have hidle (hnone : d.returnedPacket e = none) (hstep : d.step e = d) :
      ∃ quit thread, d.returnedPacket e = none ∧
        d.step e = { d with decoderThreadShouldQuit := quit, decoderThread := thread } :=
    ⟨d.decoderThreadShouldQuit, d.decoderThread, hnone, hstep⟩
  cases e with
  | quit => exact .inl ⟨true, d.decoderThread, rfl, by unfold step; cases d.decoderThread <;> rfl⟩
  | test =>
      cases hthread : d.decoderThread with
      | looping =>
          refine .inl ⟨d.decoderThreadShouldQuit, (d.step .test).decoderThread, rfl, ?_⟩
          unfold step
          rw [hthread]
          dsimp only
          split
          · rfl
          · split <;> rfl
      | retrying =>
          refine .inl ⟨d.decoderThreadShouldQuit, (d.step .test).decoderThread, rfl, ?_⟩
          unfold step
          rw [hthread]
      | _ => exact .inl (hidle rfl (by unfold step; rw [hthread]))
  | nextVideoFrame u =>
      cases hthread : d.decoderThread with
      | waiting =>
          cases u with
          | none =>
              exact .inl ⟨d.decoderThreadShouldQuit, .looping, rfl, by unfold step; rw [hthread]⟩
          | some u => exact .inr (.inl ⟨u, _, rfl, by unfold step; rw [hthread]⟩)
      | polling =>
          cases u with
          | none =>
              exact .inl ⟨d.decoderThreadShouldQuit, .retrying, rfl, by unfold step; rw [hthread]⟩
          | some u => exact .inr (.inl ⟨u, .retrying, rfl, by unfold step; rw [hthread]⟩)
      | _ => exact .inl (hidle rfl (by unfold step; rw [hthread]; cases u <;> rfl))
  | allocFrame ok =>
      cases hthread : d.decoderThread with
      | allocating =>
          exact .inl ⟨d.decoderThreadShouldQuit, _, rfl, by unfold step; rw [hthread]⟩
      | _ => exact .inl (hidle rfl (by unfold step; rw [hthread]))
  | receiveFrame result =>
      cases result with
      | eagain =>
          have hnone : d.returnedPacket (.receiveFrame .eagain) = none := rfl
          cases hthread : d.decoderThread with
          | receiving =>
              exact .inl ⟨d.decoderThreadShouldQuit, .polling, hnone, by unfold step; rw [hthread]⟩
          | _ => exact .inl (hidle hnone (by unfold step; rw [hthread]))
      | error lost =>
          have hnone : d.returnedPacket (.receiveFrame (.error lost)) = none := rfl
          cases hthread : d.decoderThread with
          | receiving =>
              exact .inr (.inr (.inr ⟨lost, .looping, hnone, by unfold step; rw [hthread]⟩))
          | _ => exact .inl (hidle hnone (by unfold step; rw [hthread]))
      | frame pktDts receivedUs =>
          cases hthread : d.decoderThread with
          | receiving =>
              cases hpending : d.videoDecoderCtx.pending with
              | nil =>
                  exact .inl (hidle (by unfold returnedPacket; rw [hthread, hpending]; rfl)
                    (by unfold step; rw [hthread]; dsimp only; rw [hpending]))
              | cons packet pending =>
                  exact .inr (.inr (.inl ⟨packet, pending, pktDts, receivedUs, .looping, rfl,
                    by unfold returnedPacket; rw [hthread, hpending]; rfl,
                    by unfold step; rw [hthread]; dsimp only; rw [hpending]⟩))
          | _ =>
              exact .inl (hidle (by unfold returnedPacket; rw [hthread])
                (by unfold step; rw [hthread]))

theorem step_frameInfo (d : FFmpegVideoDecoder) (e : DecoderEvent) :
    d.frameInfo.Step (d.returnedPacket e) (d.step e).frameInfo := by
  obtain ⟨quit, thread, hnone, hstep⟩ | ⟨u, thread, hnone, hstep⟩ |
    ⟨packet, pending, pktDts, receivedUs, thread, hpending, hpacket, hstep⟩ |
    ⟨lost, thread, hnone, hstep⟩ := step_cases d e
  · rw [hnone, hstep]
    exact .stays _
  · rw [hnone, hstep]
    exact completeVideoFrame_step d u
  · rw [hpacket, hstep]
    exact submitFrame_step hpending pktDts receivedUs
  · rw [hnone, hstep]
    exact receiveFailed_step d lost

end FFmpegVideoDecoder

/-! ### What every step keeps -/

namespace FrameInfo

variable {x y : FrameInfo}

/-- The queue holds the units of the accepted packets but the first ones, one for each frame,
and the frame at `k` has the timing of the unit at `k`. -/
structure InStep (x : FrameInfo) : Prop where
  queue : x.queue = x.ctx.accepted.drop x.submitted.length
  packets : x.submitted.map (·.packet) = x.ctx.returned
  carries : ∀ (k : Nat) (f : SubmittedFrame), x.submitted[k]? = some f →
    ∃ du, x.ctx.accepted[k]? = some du ∧ f.Carries du
  framesIn : x.framesIn = x.ctx.accepted.length
  framesOut : x.framesOut = x.submitted.length

theorem InStep.submitted_add_pending_le (h : x.InStep) :
    x.submitted.length + x.ctx.pending.length ≤ x.ctx.accepted.length := by
  have hlength := x.ctx.complete.length_eq
  have hpackets := congrArg List.length h.packets
  simp only [List.length_append, List.length_range, List.length_map] at hlength hpackets
  omega

/-- What the thread asserts of its counters and of the queue. -/
theorem InStep.queue_length (h : x.InStep) :
    x.framesOut ≤ x.framesIn ∧ x.queue.length = x.framesIn - x.framesOut := by
  have hle := h.submitted_add_pending_le
  rw [h.queue, h.framesIn, h.framesOut, List.length_drop]
  exact ⟨by omega, rfl⟩

theorem InStep.step {packet : Option Nat} (h : x.InStep) (hstep : x.Step packet y) :
    y.InStep := by
  have hle := h.submitted_add_pending_le
  cases hstep with
  | stays => exact h
  | accepts du =>
      refine ⟨?_, h.packets, fun k f hf => ?_, by simp [Pipeline.accept, h.framesIn], h.framesOut⟩
      · show x.queue ++ [du] = (x.ctx.accepted ++ [du]).drop x.submitted.length
        rw [h.queue, List.drop_append_of_le_length (by omega)]
      · obtain ⟨du', hdu', hcarries⟩ := h.carries k f hf
        have hk : k < x.ctx.accepted.length := (List.getElem?_eq_some_iff.mp hdu').1
        exact ⟨du', (List.getElem?_append_left hk).trans hdu', hcarries⟩
  | returns f rest hpending hcarries =>
      rw [hpending, List.length_cons] at hle
      refine ⟨?_, ?_, fun k g hg => ?_, h.framesIn, by simp [h.framesOut]⟩
      · show x.queue.tail = x.ctx.accepted.drop (x.submitted ++ [f]).length
        rw [h.queue, List.tail_drop, List.length_append, List.length_singleton]
      · show (x.submitted ++ [f]).map (·.packet) = x.ctx.returned ++ x.ctx.pending.head?.toList
        rw [List.map_append, h.packets, hpending]
        rfl
      · by_cases hk : k < x.submitted.length
        · exact h.carries k g ((List.getElem?_append_left hk).symm.trans hg)
        · -- the frame takes the head of the queue, which is the unit at its place
          have hlast : k < (x.submitted ++ [f]).length := (List.getElem?_eq_some_iff.mp hg).1
          rw [List.length_append, List.length_singleton] at hlast
          obtain rfl : k = x.submitted.length := by omega
          obtain rfl : f = g := by simpa using hg
          have hlt : x.submitted.length < x.ctx.accepted.length := by omega
          have hdu := List.getElem?_eq_getElem hlt
          refine ⟨_, hdu, hcarries _ ?_⟩
          rw [h.queue, List.head?_drop, hdu]
          rfl
  | loses i => exact ⟨h.queue, h.packets, h.carries, h.framesIn, h.framesOut⟩

/-- A step keeps the codec from skipping a packet unless it overtakes a lost one. -/
theorem Step.gapless_iff {packet : Option Nat} (hstep : x.Step packet y)
    (hgapless : x.ctx.Gapless) :
    y.ctx.Gapless ↔ ¬ ∃ n ∈ packet, ∃ lost ∈ x.ctx.lost, lost < n := by
  cases hstep with
  | stays => exact iff_of_true hgapless (by simp)
  | accepts du => exact iff_of_true hgapless (by simp)
  | returns f rest hpending hcarries =>
      rw [Pipeline.gapless_receive_iff hgapless hpending]
      simp
  | loses i => exact iff_of_true hgapless (by simp)

theorem Step.submitted_eq (hstep : x.Step none y) : y.submitted = x.submitted := by
  cases hstep <;> rfl

/-- The codec only ever accepts more packets. -/
theorem Step.accepted_extends {packet : Option Nat} (hstep : x.Step packet y) :
    x.ctx.accepted <+: y.ctx.accepted := by
  cases hstep with
  | stays => exact List.prefix_rfl
  | accepts du => exact List.prefix_append _ _
  | returns f rest hpending hcarries => exact List.prefix_rfl
  | loses i => exact List.prefix_rfl

end FrameInfo

namespace FFmpegVideoDecoder

variable {d : FFmpegVideoDecoder}

/-- Where the codec has skipped nothing, each frame has taken its own unit. -/
theorem ownTiming_of_gapless (h : d.frameInfo.InStep) (hgapless : d.videoDecoderCtx.Gapless)
    {f : SubmittedFrame} (hf : f ∈ d.submitted) : d.OwnTiming f := by
  obtain ⟨k, hk⟩ := List.mem_iff_getElem?.mp hf
  obtain ⟨du, hdu, hcarries⟩ := h.carries k f hk
  have hpacket : d.videoDecoderCtx.returned[k]? = some f.packet := by
    show d.frameInfo.ctx.returned[k]? = some f.packet
    rw [← h.packets, List.getElem?_map, show d.frameInfo.submitted[k]? = some f from hk]
    rfl
  obtain rfl : f.packet = k := Pipeline.gapless_iff.mp hgapless k _ hpacket
  exact ⟨du, hdu, hcarries⟩

/-- No two decode units have the same timing. -/
def DistinctTiming (d : FFmpegVideoDecoder) : Prop :=
  (d.videoDecoderCtx.accepted.map DecodeUnit.timing).Nodup

theorem gapless_of_ownTiming (h : d.frameInfo.InStep) (hdistinct : d.DistinctTiming)
    (hown : ∀ f ∈ d.submitted, d.OwnTiming f) : d.videoDecoderCtx.Gapless := by
  rw [Pipeline.gapless_iff]
  intro k n hn
  obtain ⟨f, hf, rfl⟩ : ∃ f, d.submitted[k]? = some f ∧ f.packet = n := by
    have hpackets : d.submitted.map (·.packet) = d.videoDecoderCtx.returned := h.packets
    rw [← hpackets, List.getElem?_map, Option.map_eq_some_iff] at hn
    exact hn
  obtain ⟨du, hdu, hcarries⟩ := h.carries k f hf
  obtain ⟨du', hdu', hcarries'⟩ := hown f (List.mem_of_getElem? hf)
  have hsame : (d.videoDecoderCtx.accepted.map DecodeUnit.timing)[f.packet]? =
      (d.videoDecoderCtx.accepted.map DecodeUnit.timing)[k]? := by
    rw [List.getElem?_map, List.getElem?_map, hdu',
      show d.videoDecoderCtx.accepted[k]? = some du from hdu]
    exact congrArg some (hcarries'.timing_eq hcarries)
  have hlt : f.packet < (d.videoDecoderCtx.accepted.map DecodeUnit.timing).length := by
    rw [List.length_map]
    exact (List.getElem?_eq_some_iff.mp hdu').1
  exact (List.getElem?_inj hlt hdistinct).mp hsame

/-! ### Runs -/

theorem inStep_reset (d : FFmpegVideoDecoder) : d.reset.frameInfo.InStep :=
  ⟨rfl, rfl, fun _ _ h => absurd h (by simp [reset, frameInfo]), rfl, rfl⟩

theorem inStep_step (e : DecoderEvent) (h : d.frameInfo.InStep) : (d.step e).frameInfo.InStep :=
  h.step (step_frameInfo d e)

theorem inStep_run (d : FFmpegVideoDecoder) (events : List DecoderEvent) :
    (run step d.reset events).frameInfo.InStep := by
  induction events using List.reverseRecOn with
  | nil => exact inStep_reset d
  | append_singleton events e ih =>
      rw [run_concat]
      exact inStep_step e ih

theorem accepted_run_extends (d : FFmpegVideoDecoder) (events : List DecoderEvent) :
    d.videoDecoderCtx.accepted <+: (run step d events).videoDecoderCtx.accepted := by
  induction events generalizing d with
  | nil => exact List.prefix_rfl
  | cons e events ih => exact (step_frameInfo d e).accepted_extends.trans (ih (d.step e))

theorem DistinctTiming.of_prefix {before events : List DecoderEvent} (hbefore : before <+: events)
    (h : (run step d events).DistinctTiming) : (run step d before).DistinctTiming := by
  obtain ⟨after, rfl⟩ := hbefore
  rw [run_append] at h
  exact List.Nodup.sublist ((accepted_run_extends _ after).sublist.map _) h

/-- In every run in which no frame is returned after one of an earlier packet was lost, each
frame that `Pacer` is handed has the RTP timestamp of the decode unit that produced it, and
is charged its decode time. Where no two decode units have the same timing this holds of no
other run. -/
theorem frames_keep_timing (d : FFmpegVideoDecoder) (events : List DecoderEvent) :
    (AllSteps step (fun d e => ¬ d.Overtakes e) d.reset events →
      ∀ before, before <+: events → ∀ f ∈ (run step d.reset before).submitted,
        (run step d.reset before).OwnTiming f) ∧
    ((run step d.reset events).DistinctTiming →
      (∀ before, before <+: events → ∀ f ∈ (run step d.reset before).submitted,
        (run step d.reset before).OwnTiming f) →
      AllSteps step (fun d e => ¬ d.Overtakes e) d.reset events) := by
  have hexact := @run_invariant_iff _ _ step (fun d => d.frameInfo.InStep)
    (fun d => d.videoDecoderCtx.Gapless) Overtakes (fun _ e h => inStep_step e h)
    (fun d e _ h => (step_frameInfo d e).gapless_iff h) d.reset (inStep_reset d) rfl
    events
  constructor
  · intro hsteps before hbefore f hf
    exact ownTiming_of_gapless (inStep_run d before) (hexact.mpr hsteps before hbefore) hf
  · intro hdistinct hown
    refine hexact.mp fun before hbefore => ?_
    exact gapless_of_ownTiming (inStep_run d before) (hdistinct.of_prefix hbefore)
      (hown before hbefore)

section Sample

/-- A decode unit with its place, its frame type, and when it was queued. -/
def decodeUnit (frameNumber : Int) (frameType : FrameType) (enqueueTimeUs : UInt64)
    (rtpTimestamp : UInt32) : DecodeUnit where
  frameNumber
  frameType
  frameHostProcessingLatency := 0
  receiveTimeUs := enqueueTimeUs
  enqueueTimeUs
  rtpTimestamp

/-- The codec takes two decode units, fails once without losing a frame, and returns both. -/
def twoFrameRun : List DecoderEvent :=
  [.test, .nextVideoFrame (some ⟨decodeUnit 1 .idr 1000 90000, true, 1000, 1000, 0⟩),
    .allocFrame true, .receiveFrame .eagain,
    .nextVideoFrame (some ⟨decodeUnit 2 .pframe 17000 91500, true, 0, 17000, 0⟩),
    .test, .receiveFrame (.error none),
    .test, .allocFrame true, .receiveFrame (.frame 18000 18000),
    .test, .allocFrame true, .receiveFrame (.frame 20000 20000)]

theorem twoFrameRun_keeps_timing :
    (run step constructed.reset twoFrameRun).submitted =
        [⟨0, 18000, 18000, some 90000, some 17000⟩, ⟨1, 20000, 20000, some 91500, some 3000⟩] ∧
      ∀ f ∈ (run step constructed.reset twoFrameRun).submitted,
        (run step constructed.reset twoFrameRun).OwnTiming f :=
  ⟨by decide +kernel,
    (frames_keep_timing constructed twoFrameRun).1 (by decide +kernel) _ List.prefix_rfl⟩

end Sample

/-! ### The decode time -/

/-- The decode time of the finished windows and of the active one. -/
def totalDecodeTimeUs (d : FFmpegVideoDecoder) : UInt64 :=
  d.globalVideoStats.totalDecodeTimeUs + d.activeWndVideoStats.totalDecodeTimeUs

/-- What the frames are charged in all. -/
def chargedTimeUs (submitted : List SubmittedFrame) : UInt64 :=
  submitted.foldl (fun total f => total + f.decodeTimeUs.getD 0) 0

theorem failDecode_totalDecodeTimeUs (d : FFmpegVideoDecoder) :
    d.failDecode.totalDecodeTimeUs = d.totalDecodeTimeUs := by
  simp only [failDecode]
  split <;> rfl

theorem countDroppedFrames_totalDecodeTimeUs (d : FFmpegVideoDecoder) (u : Submission) :
    (d.countDroppedFrames u).totalDecodeTimeUs = d.totalDecodeTimeUs := by
  simp only [countDroppedFrames]
  split <;> rfl

theorem countReceivedFrame_totalDecodeTimeUs (d : FFmpegVideoDecoder) (du : DecodeUnit) :
    (d.countReceivedFrame du).totalDecodeTimeUs = d.totalDecodeTimeUs := rfl

theorem enqueueDecodeUnit_totalDecodeTimeUs (d : FFmpegVideoDecoder) (du : DecodeUnit) :
    (d.enqueueDecodeUnit du).totalDecodeTimeUs = d.totalDecodeTimeUs := rfl

/-- A window that is flipped keeps its decode time. -/
theorem flipStatsWindow_totalDecodeTimeUs (d : FFmpegVideoDecoder) (u : Submission) :
    (d.flipStatsWindow u).totalDecodeTimeUs = d.totalDecodeTimeUs := by
  unfold flipStatsWindow
  split
  · exact UInt64.add_zero _
  · rfl

theorem countDecodeUnit_totalDecodeTimeUs (d : FFmpegVideoDecoder) (u : Submission) :
    (d.countDecodeUnit u).totalDecodeTimeUs = d.totalDecodeTimeUs := by
  rw [countDecodeUnit, countReceivedFrame_totalDecodeTimeUs, flipStatsWindow_totalDecodeTimeUs,
    countDroppedFrames_totalDecodeTimeUs]

theorem completeVideoFrame_totalDecodeTimeUs (d : FFmpegVideoDecoder) (u : Submission) :
    (d.completeVideoFrame u).totalDecodeTimeUs = d.totalDecodeTimeUs := by
  show (d.submitDecodeUnit u).2.totalDecodeTimeUs = _
  have hcounted := countDecodeUnit_totalDecodeTimeUs d u
  rcases submitDecodeUnit_cases d u with h | h | h
  · rw [h]
  · rw [h, failDecode_totalDecodeTimeUs, hcounted]
  · rw [h, enqueueDecodeUnit_totalDecodeTimeUs, hcounted]

theorem submitFrame_totalDecodeTimeUs (d : FFmpegVideoDecoder) (packet : Nat)
    (pktDts receivedUs : UInt64) {start : UInt64}
    (h : d.totalDecodeTimeUs = start + chargedTimeUs d.submitted) :
    (d.submitFrame packet pktDts receivedUs).totalDecodeTimeUs =
      start + chargedTimeUs (d.submitFrame packet pktDts receivedUs).submitted := by
  unfold submitFrame
  dsimp only
  cases d.frameInfoQueue with
  | nil =>
      show d.totalDecodeTimeUs = start + chargedTimeUs (d.submitted ++ [_])
      rw [h, chargedTimeUs, chargedTimeUs, List.foldl_append]
      exact congrArg (start + ·) (UInt64.add_zero _).symm
  | cons du queue =>
      show d.globalVideoStats.totalDecodeTimeUs +
          (d.activeWndVideoStats.totalDecodeTimeUs + (receivedUs - du.enqueueTimeUs)) =
        start + chargedTimeUs (d.submitted ++ [_])
      rw [← UInt64.add_assoc, show d.globalVideoStats.totalDecodeTimeUs +
        d.activeWndVideoStats.totalDecodeTimeUs = _ from h, UInt64.add_assoc, chargedTimeUs,
        chargedTimeUs, List.foldl_append]
      rfl

theorem charged_step (e : DecoderEvent) {start : UInt64}
    (h : d.totalDecodeTimeUs = start + chargedTimeUs d.submitted) :
    (d.step e).totalDecodeTimeUs = start + chargedTimeUs (d.step e).submitted := by
  obtain ⟨quit, thread, -, hstep⟩ | ⟨u, thread, -, hstep⟩ |
    ⟨packet, pending, pktDts, receivedUs, thread, -, -, hstep⟩ | ⟨lost, thread, -, hstep⟩ :=
    step_cases d e
  · rw [hstep]
    exact h
  · rw [hstep]
    show (d.completeVideoFrame u).totalDecodeTimeUs =
      start + chargedTimeUs (d.completeVideoFrame u).submitted
    rw [show (d.completeVideoFrame u).submitted = d.submitted from
      (completeVideoFrame_step d u).submitted_eq, completeVideoFrame_totalDecodeTimeUs, h]
  · rw [hstep]
    exact submitFrame_totalDecodeTimeUs d packet pktDts receivedUs h
  · rw [hstep]
    show d.failDecode.totalDecodeTimeUs = start + chargedTimeUs (d.receiveFailed lost).submitted
    rw [show (d.receiveFailed lost).submitted = d.submitted from
      (receiveFailed_step d lost).submitted_eq, failDecode_totalDecodeTimeUs, h]

/-- **The decode time.** What the statistics gain is what the frames are charged. -/
theorem charged_run (d : FFmpegVideoDecoder) (events : List DecoderEvent) :
    (run step d.reset events).totalDecodeTimeUs =
      d.totalDecodeTimeUs + chargedTimeUs (run step d.reset events).submitted := by
  induction events using List.reverseRecOn with
  | nil => exact (UInt64.add_zero _).symm
  | append_singleton events e ih =>
      rw [run_concat]
      exact charged_step e ih

/-- The assertions of the thread hold in every run. -/
theorem queue_length_run (d : FFmpegVideoDecoder) (events : List DecoderEvent) :
    (run step d.reset events).framesOut ≤ (run step d.reset events).framesIn ∧
      (run step d.reset events).frameInfoQueue.length =
        (run step d.reset events).framesIn - (run step d.reset events).framesOut :=
  (inStep_run d events).queue_length

/-! ### A lost frame -/

/-- The codec takes two decode units, loses the frame of the first and returns the other. -/
def lostFrameRun : List DecoderEvent :=
  [.test, .nextVideoFrame (some ⟨decodeUnit 1 .idr 1000 90000, true, 1000, 1000, 0⟩),
    .allocFrame true, .receiveFrame .eagain,
    .nextVideoFrame (some ⟨decodeUnit 2 .pframe 17000 91500, true, 0, 17000, 0⟩),
    .test, .receiveFrame (.error (some 0)),
    .test, .allocFrame true, .receiveFrame (.frame 20000 20000)]

/-- The frame of the second decode unit takes the timing of the first. -/
theorem frame_after_lost_frame :
    (run step constructed.reset lostFrameRun).submitted =
        [⟨1, 20000, 20000, some 90000, some 19000⟩] ∧
      ¬ ∀ f ∈ (run step constructed.reset lostFrameRun).submitted,
        (run step constructed.reset lostFrameRun).OwnTiming f := by
  have hsubmitted : (run step constructed.reset lostFrameRun).submitted =
      [⟨1, 20000, 20000, some 90000, some 19000⟩] := by decide +kernel
  have hunit : (run step constructed.reset lostFrameRun).videoDecoderCtx.accepted[1]? =
      some (decodeUnit 2 .pframe 17000 91500) := by decide +kernel
  refine ⟨hsubmitted, ?_⟩
  -- the two facts are all that is needed of the run
  generalize run step constructed.reset lostFrameRun = d at hsubmitted hunit
  rw [hsubmitted]
  intro hown
  obtain ⟨du, hdu, hcarries⟩ := hown _ (List.mem_singleton_self _)
  obtain rfl : decodeUnit 2 .pframe 17000 91500 = du := Option.some.inj (hunit.symm.trans hdu)
  exact absurd hcarries.pts (by decide)

end FFmpegVideoDecoder

end GilStreaming.Streaming
