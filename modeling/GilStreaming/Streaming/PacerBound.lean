import GilStreaming.Streaming.PacerFrames

/-!
# GilStreaming.Streaming.PacerBound

How many frames `Pacer` holds.

The decoder's pool has `PACER_MAX_OUTSTANDING_FRAMES` surfaces for it. The number is that of
one full queue, a frame that is being rendered and the deferred one, but each of the two
queues can be full by itself. Nothing except a submission adds a frame, and a submission to a
full queue frees one first, so the number is exceeded by a submission that finds as many
frames and room in its queue (`Pacer.Overfills`). Without a V-sync source there is one queue
only, and that does not happen.
-/

namespace GilStreaming.Streaming

open Trace

namespace RenderState

/-- The frame that the thread has taken from the render queue. -/
def frames (state : RenderState) : List Frame :=
  state.dropped ++ state.next.toList ++ state.current.toList

theorem length_frames_le (state : RenderState) : state.frames.length ≤ 1 := by
  cases state <;> simp [frames, dropped, next, current]

end RenderState

namespace Pacer

/-- The frames that a `Pacer` holds: those in its queues, the one that is being rendered or
freed by the thread that renders, the deferred one, and the one that is being freed by the
V-sync thread. -/
def outstanding (p : Pacer) : Nat :=
  p.pacingQueue.length + p.renderQueue.length + p.rendererThread.frames.length +
    p.deferredFreeFrame.toList.length + p.vsyncThread.dropped.length

/-- The queue that `submitFrame` puts a frame into. -/
def submitQueue (p : Pacer) : List Frame :=
  if p.config.vsyncSource then p.pacingQueue else p.renderQueue

/-- A frame is submitted while the pool is used up, and its queue has room. -/
def Overfills (p : Pacer) (action : PacerAction) : Prop :=
  action = .submit ∧ p.submitThread = .idle ∧ p.destructor = .notCalled ∧
    p.outstanding = pacerMaxOutstandingFrames ∧ p.submitQueue.length < maxQueuedFrames

instance (p : Pacer) (action : PacerAction) : Decidable (p.Overfills action) :=
  inferInstanceAs (Decidable (_ ∧ _))

variable {p : Pacer}

theorem outstanding_eq (p : Pacer) : p.outstanding = p.custody.held.length := by
  simp only [outstanding, RenderState.frames, Custody.held, custody, List.length_append]
  omega

/-! ### The queues -/

/-- No queue is longer than it may be, and without its thread there is no V-sync. -/
structure Bounded (p : Pacer) : Prop where
  pacing : p.pacingQueue.length ≤ maxQueuedFrames
  render : p.renderQueue.length ≤ maxQueuedFrames
  vsync_none : p.config.vsyncThread = false → p.vsyncThread = .done

theorem bounded_initialized (config : PacerConfig) : (initialized config).Bounded where
  pacing := Nat.zero_le _
  render := Nat.zero_le _
  vsync_none h := by
    rw [initialized, show config.vsyncThread = false from h]
    rfl

/-- A queue after a frame was added. -/
theorem length_enqueue (queue : List Frame) (frame : Frame) :
    ((dropFrameForEnqueue queue).1 ++ [frame]).length =
      if queue.length = maxQueuedFrames then maxQueuedFrames else queue.length + 1 := by
  rcases dropFrameForEnqueue_cases queue with ⟨heq, hne⟩ | ⟨first, rest, hqueue, hlen, heq⟩
  · rw [heq, if_neg hne]
    simp
  · rw [heq, if_pos hlen, ← hlen, hqueue]
    simp

theorem length_enqueue_le {queue : List Frame} (h : queue.length ≤ maxQueuedFrames)
    (frame : Frame) : ((dropFrameForEnqueue queue).1 ++ [frame]).length ≤ maxQueuedFrames := by
  rw [length_enqueue]
  split <;> omega

namespace Bounded

theorem wakeVsync (h : p.Bounded) : p.wakeVsync.Bounded := by
  unfold Pacer.wakeVsync
  split
  · next woken hwaiting =>
      refine { h with vsync_none := fun hthread => ?_ }
      exact absurd (hwaiting.symm.trans (h.vsync_none hthread)) (by simp)
  · exact h

theorem wakeRenderer (h : p.Bounded) : p.wakeRenderer.Bounded := by
  unfold Pacer.wakeRenderer
  split
  · exact { h with }
  · exact h

theorem wakeForRendering (h : p.Bounded) : p.wakeForRendering.Bounded := by
  unfold Pacer.wakeForRendering
  split
  · exact h.wakeRenderer
  · exact h

theorem enqueueFrameForRendering (h : p.Bounded) (frame : Frame) :
    (p.enqueueFrameForRendering frame).Bounded :=
  { h with render := length_enqueue_le h.render frame }

theorem stepSubmit (h : p.Bounded) : p.stepSubmit.Bounded := by
  unfold Pacer.stepSubmit
  split
  · split
    · unfold submitFrame
      dsimp only
      split
      · exact { h with pacing := length_enqueue_le h.pacing _ }
      · refine Bounded.enqueueFrameForRendering ?_ _
        exact { h with }
    · exact h
  · have hidle : ({ p with submitThread := .idle } : Pacer).Bounded := { h with }
    dsimp only
    split
    · exact hidle.wakeVsync
    · exact hidle.wakeForRendering

section Vsync

variable (h : p.Bounded) (hrunning : p.vsyncThread ≠ .done)

include h hrunning

/-- A thread that runs is there. -/
theorem of_vsync {p' : Pacer} (hconfig : p'.config = p.config)
    (hpacing : p'.pacingQueue.length ≤ maxQueuedFrames)
    (hrender : p'.renderQueue.length ≤ maxQueuedFrames) : p'.Bounded where
  pacing := hpacing
  render := hrender
  vsync_none hthread := absurd (h.vsync_none (hconfig ▸ hthread)) hrunning

theorem dequeueForRendering : p.dequeueForRendering.Bounded := by
  have hpacing := h.pacing
  unfold Pacer.dequeueForRendering
  split
  · exact h.of_vsync hrunning rfl h.pacing h.render
  · next frame rest hqueue =>
      rw [hqueue, List.length_cons] at hpacing
      exact h.of_vsync hrunning rfl (Nat.le_of_succ_le hpacing) (length_enqueue_le h.render frame)

theorem catchUpPacing (frameDropTarget : Nat) : (p.catchUpPacing frameDropTarget).Bounded := by
  have hpacing := h.pacing
  unfold Pacer.catchUpPacing
  split
  · exact h.of_vsync hrunning rfl h.pacing h.render
  · next frame rest hqueue =>
      rw [hqueue, List.length_cons] at hpacing
      split
      · exact h.of_vsync hrunning rfl (Nat.le_of_succ_le hpacing) h.render
      · exact h.dequeueForRendering hrunning

theorem handleVsync : p.handleVsync.Bounded := by
  unfold Pacer.handleVsync
  split
  · have hrolled : ({ p with
        pacingQueueHistory := rollHistory (p.config.displayFps / 2) p.pacingQueueHistory
          p.pacingQueue.length } : Pacer).Bounded := { h with }
    exact hrolled.catchUpPacing hrunning _
  · exact h.catchUpPacing hrunning 1

end Vsync

theorem stepVsync (h : p.Bounded) : p.stepVsync.Bounded := by
  unfold Pacer.stepVsync
  split
  · next hv => exact h.of_vsync (by simp [hv]) rfl h.pacing h.render
  · next hv => exact h.handleVsync (by simp [hv])
  · next hv => exact h.of_vsync (by simp [hv]) rfl h.pacing h.render
  · next hv => exact h.catchUpPacing (by simp [hv]) _
  · next woken hv =>
      split
      · exact h
      · split
        · exact h.of_vsync (by simp [hv]) rfl h.pacing h.render
        · exact h.dequeueForRendering (by simp [hv])
  · next hv =>
      refine Bounded.wakeForRendering ?_
      exact h.of_vsync (by simp [hv]) rfl h.pacing h.render
  · exact h
  · exact h

theorem vsyncTimeout (h : p.Bounded) : p.vsyncTimeout.Bounded := by
  unfold Pacer.vsyncTimeout
  split
  · next hv => exact h.of_vsync (by simp [hv]) rfl h.pacing h.render
  · exact h

/-- The first frame of the render queue is taken away. -/
theorem tail (h : p.Bounded) {frame : Frame} {rest : List Frame}
    (hqueue : p.renderQueue = frame :: rest) (state : RenderState) :
    ({ p with renderQueue := rest, rendererThread := state } : Pacer).Bounded := by
  have hrender := h.render
  rw [hqueue, List.length_cons] at hrender
  exact { h with render := Nat.le_of_succ_le hrender }

theorem acquireFrame (h : p.Bounded) : p.acquireFrame.Bounded := by
  unfold Pacer.acquireFrame
  split
  · exact { h with }
  · split
    · exact { h with }
    · next hqueue => exact h.tail hqueue _

theorem renderOnMainThread (h : p.Bounded) : p.renderOnMainThread.Bounded := by
  unfold Pacer.renderOnMainThread
  split
  · exact h
  · next hqueue => exact h.tail hqueue _

theorem catchUpRendering (h : p.Bounded) (frameDropTarget : Nat) :
    (p.catchUpRendering frameDropTarget).Bounded := by
  unfold Pacer.catchUpRendering
  split
  · exact { h with }
  · next hqueue =>
      split
      · exact h.tail hqueue _
      · exact { h with }

theorem stepRender (h : p.Bounded) : p.stepRender.Bounded := by
  unfold Pacer.stepRender
  split
  · split
    · exact h.acquireFrame
    · split
      · exact h.renderOnMainThread
      · exact h
  · split
    · exact h
    · exact h.acquireFrame
  · exact { h with }
  · exact { h with }
  · unfold dropQueuedFrames
    split
    · exact h.catchUpRendering 1
    · refine Bounded.catchUpRendering ?_ _
      exact { h with }
  · exact { h with }
  · exact h.catchUpRendering _
  · exact h

theorem stepDestructor (h : p.Bounded) : p.stepDestructor.Bounded := by
  have hcalled : ∀ state, ({ p with destructor := state } : Pacer).Bounded :=
    fun state => { h with }
  unfold Pacer.stepDestructor
  split
  · split
    · exact { h with }
    · exact h
  · dsimp only
    split
    · exact (hcalled _).wakeVsync
    · exact hcalled _
  · split
    · exact hcalled _
    · exact h
  · dsimp only
    split
    · exact (hcalled _).wakeRenderer
    · exact { h with }
  · split
    · exact hcalled _
    · exact h
  · have hpacing := h.pacing
    have hrender := h.render
    unfold drainFrame
    split
    · next hqueue =>
        rw [hqueue, List.length_cons] at hrender
        exact { h with render := Nat.le_of_succ_le hrender }
    · next hqueue =>
        rw [hqueue, List.length_cons] at hpacing
        exact { h with pacing := Nat.le_of_succ_le hpacing }
    · exact { h with }
    · exact hcalled _
  · exact h

theorem step (h : p.Bounded) (action : PacerAction) : (p.step action).Bounded := by
  cases action with
  | submit => exact h.stepSubmit
  | vsync => exact h.stepVsync
  | vsyncTimeout => exact h.vsyncTimeout
  | render => exact h.stepRender
  | destroy => exact h.stepDestructor

end Bounded

/-! ### What is submitted -/

/-- What only `initialize` and a submission set. -/
def setup (p : Pacer) : PacerConfig × Nat := (p.config, p.submitted)

theorem setup_wakeVsync : p.wakeVsync.setup = p.setup := by
  unfold wakeVsync
  split <;> rfl

theorem setup_wakeRenderer : p.wakeRenderer.setup = p.setup := by
  unfold wakeRenderer
  split <;> rfl

theorem setup_wakeForRendering : p.wakeForRendering.setup = p.setup := by
  unfold wakeForRendering
  split
  · exact setup_wakeRenderer
  · rfl

theorem setup_dequeueForRendering :
    p.dequeueForRendering.setup = p.setup := by
  unfold dequeueForRendering
  split <;> rfl

theorem setup_catchUpPacing (frameDropTarget : Nat) :
    (p.catchUpPacing frameDropTarget).setup = p.setup := by
  unfold catchUpPacing
  split
  · rfl
  · split
    · rfl
    · exact setup_dequeueForRendering

theorem setup_acquireFrame : p.acquireFrame.setup = p.setup := by
  unfold acquireFrame
  split
  · rfl
  · split <;> rfl

theorem setup_renderOnMainThread :
    p.renderOnMainThread.setup = p.setup := by
  unfold renderOnMainThread
  split <;> rfl

theorem setup_catchUpRendering (frameDropTarget : Nat) :
    (p.catchUpRendering frameDropTarget).setup = p.setup := by
  unfold catchUpRendering
  split
  · rfl
  · split <;> rfl

theorem setup_drainFrame : p.drainFrame.setup = p.setup := by
  unfold drainFrame
  split <;> rfl

theorem setup_stepVsync : p.stepVsync.setup = p.setup := by
  unfold stepVsync
  split
  · rfl
  · unfold handleVsync
    split <;> exact setup_catchUpPacing _
  · rfl
  · exact setup_catchUpPacing _
  · split
    · rfl
    · split
      · rfl
      · exact setup_dequeueForRendering
  · exact setup_wakeForRendering
  · rfl
  · rfl

theorem setup_stepRender : p.stepRender.setup = p.setup := by
  unfold stepRender
  split
  · split
    · exact setup_acquireFrame
    · split
      · exact setup_renderOnMainThread
      · rfl
  · split
    · rfl
    · exact setup_acquireFrame
  · rfl
  · rfl
  · unfold dropQueuedFrames
    split <;> exact setup_catchUpRendering _
  · rfl
  · exact setup_catchUpRendering _
  · rfl

theorem setup_stepDestructor : p.stepDestructor.setup = p.setup := by
  unfold stepDestructor
  split
  · split <;> rfl
  · dsimp only
    split
    · exact setup_wakeVsync
    · rfl
  · split <;> rfl
  · dsimp only
    split
    · exact setup_wakeRenderer
    · rfl
  · split <;> rfl
  · exact setup_drainFrame
  · rfl

/-- Only a submission adds a frame. -/
theorem setup_step {action : PacerAction} (h : action ≠ .submit) :
    (p.step action).setup = p.setup := by
  cases action with
  | submit => exact absurd rfl h
  | vsync => exact setup_stepVsync
  | vsyncTimeout =>
      show p.vsyncTimeout.setup = p.setup
      unfold vsyncTimeout
      split <;> rfl
  | render => exact setup_stepRender
  | destroy => exact setup_stepDestructor

theorem config_step (action : PacerAction) : (p.step action).config = p.config := by
  by_cases haction : action = .submit
  · subst haction
    show p.stepSubmit.config = p.config
    unfold stepSubmit
    split
    · split
      · unfold submitFrame
        dsimp only
        split <;> rfl
      · rfl
    · dsimp only
      split
      · exact congrArg Prod.fst (@setup_wakeVsync { p with submitThread := .idle })
      · exact congrArg Prod.fst (@setup_wakeForRendering { p with submitThread := .idle })
  · exact congrArg Prod.fst (setup_step haction)

/-- A step that is not a submission leaves no more frames than there were. -/
theorem outstanding_step_le (h : p.Consistent) {action : PacerAction}
    (hsubmitted : (p.step action).submitted = p.submitted) :
    (p.step action).outstanding ≤ p.outstanding := by
  have hheld := (step_moves h action).held_le
  rw [show p.custody.taken = List.range p.submitted from rfl,
    show (p.step action).custody.taken = List.range (p.step action).submitted from rfl,
    hsubmitted] at hheld
  rw [outstanding_eq, outstanding_eq]
  omega

/-- A submission adds a frame, or frees one first. -/
theorem outstanding_submitFrame : p.submitFrame.outstanding =
    p.outstanding + if p.submitQueue.length = maxQueuedFrames then 0 else 1 := by
  unfold submitFrame submitQueue
  dsimp only
  split
  · simp only [outstanding, length_enqueue]
    split <;> omega
  · simp only [outstanding, enqueueFrameForRendering, length_enqueue]
    split <;> omega

/-- One step keeps the bound exactly if it does not overfill. -/
theorem outstanding_step_iff (h : p.Consistent) (hbounded : p.Bounded) (action : PacerAction)
    (hle : p.outstanding ≤ pacerMaxOutstandingFrames) :
    (p.step action).outstanding ≤ pacerMaxOutstandingFrames ↔ ¬ p.Overfills action := by
  by_cases hsubmit : action = .submit ∧ p.submitThread = .idle ∧ p.destructor = .notCalled
  · obtain ⟨rfl, hidle, hcalled⟩ := hsubmit
    have hstep : p.step .submit = p.submitFrame := by
      show p.stepSubmit = _
      unfold stepSubmit
      rw [hidle]
      exact if_pos hcalled
    have hqueue : p.submitQueue.length ≤ maxQueuedFrames := by
      unfold submitQueue
      split
      · exact hbounded.pacing
      · exact hbounded.render
    rw [hstep, outstanding_submitFrame]
    constructor
    · rintro hafter ⟨-, -, -, hfull, hroom⟩
      rw [if_neg (Nat.ne_of_lt hroom)] at hafter
      omega
    · intro hfits
      split
      · exact hle
      · next hne =>
          by_contra hover
          exact hfits ⟨rfl, hidle, hcalled, by omega, by omega⟩
  · refine iff_of_true ?_ fun hover => hsubmit ⟨hover.1, hover.2.1, hover.2.2.1⟩
    refine Nat.le_trans (outstanding_step_le h ?_) hle
    by_cases haction : action = .submit
    · subst haction
      show p.stepSubmit.submitted = p.submitted
      unfold stepSubmit
      split
      · next hidle =>
          split
          · next hcalled => exact absurd ⟨rfl, hidle, hcalled⟩ hsubmit
          · rfl
      · dsimp only
        split
        · exact congrArg Prod.snd (@setup_wakeVsync { p with submitThread := .idle })
        · exact congrArg Prod.snd (@setup_wakeForRendering { p with submitThread := .idle })
    · exact congrArg Prod.snd (setup_step haction)

/-- Without a V-sync source there is one queue, which leaves two frames beside it. -/
theorem outstanding_le_of_no_source (h : p.Consistent) (hbounded : p.Bounded)
    (hsource : p.config.vsyncSource = false) : p.outstanding ≤ pacerMaxOutstandingFrames := by
  have hthread : p.config.vsyncThread = false := by
    cases hthread : p.config.vsyncThread with
    | false => rfl
    | true => exact absurd ((p.config.source_of_thread hthread).symm.trans hsource) (by simp)
  have hvsync : p.vsyncThread.dropped.length = 0 := by rw [hbounded.vsync_none hthread]; rfl
  have hpacing : p.pacingQueue.length = 0 := by rw [h.pacing_nil hsource]; rfl
  have hrender := hbounded.render
  have hframes := p.rendererThread.length_frames_le
  have hdeferred : p.deferredFreeFrame.toList.length ≤ 1 := by
    cases p.deferredFreeFrame <;> simp
  unfold outstanding pacerMaxOutstandingFrames
  unfold maxQueuedFrames at hrender
  omega

theorem bounded_run (config : PacerConfig) (actions : List PacerAction) :
    ((initialized config).run actions).Bounded := by
  induction actions using List.reverseRecOn with
  | nil => exact bounded_initialized config
  | append_singleton actions action ih =>
      rw [run, run_concat]
      exact ih.step action

theorem config_run (config : PacerConfig) (actions : List PacerAction) :
    ((initialized config).run actions).config = config := by
  induction actions using List.reverseRecOn with
  | nil => rfl
  | append_singleton actions action ih =>
      rw [run, run_concat, config_step]
      exact ih

/-- In an interleaving of the threads, no more frames than the pool has for it are held at any
time, exactly when no submission finds that many and room in its queue. Without a V-sync
source that is so in every interleaving. -/
theorem outstanding_le_iff (config : PacerConfig) (actions : List PacerAction) :
    ((∀ pre, pre <+: actions →
        ((initialized config).run pre).outstanding ≤ pacerMaxOutstandingFrames) ↔
      AllSteps step (fun p action => ¬ p.Overfills action) (initialized config) actions) ∧
    (config.vsyncSource = false →
      AllSteps step (fun p action => ¬ p.Overfills action) (initialized config) actions) := by
  have hiff : (∀ pre, pre <+: actions →
        ((initialized config).run pre).outstanding ≤ pacerMaxOutstandingFrames) ↔
      AllSteps step (fun p action => ¬ p.Overfills action) (initialized config) actions := by
    refine run_invariant_iff (I := fun p : Pacer => p.Consistent ∧ p.Bounded)
      (fun p action h => ⟨h.1.step action, h.2.step action⟩)
      (fun p action h hle => outstanding_step_iff h.1 h.2 action hle)
      ⟨consistent_initialized config, bounded_initialized config⟩ ?_ actions
    rw [outstanding_eq, custody_initialized]
    exact Nat.zero_le _
  refine ⟨hiff, fun hsource => hiff.mp fun pre _ => ?_⟩
  exact outstanding_le_of_no_source (consistent_run config pre) (bounded_run config pre)
    ((congrArg PacerConfig.vsyncSource (config_run config pre)).trans hsource)

/-- A renderer and then a V-sync source that are slower than the decoder. -/
def stalledRun : List PacerAction :=
  [.submit, .submit, .vsync, .vsync, .vsync, .submit, .submit, .vsync, .vsync, .vsync,
    .submit, .submit, .vsync, .vsync, .vsync, .submit, .submit, .submit, .submit, .submit]

/-- Both queues are full: six frames are held. -/
theorem two_full_queues :
    let config : PacerConfig := ⟨true, true, true, false, 60, 60, fun _ => rfl⟩
    ((initialized config).run stalledRun).outstanding = 6 ∧
      ¬ ((initialized config).run stalledRun).outstanding ≤ pacerMaxOutstandingFrames := by
  decide

end Pacer

end GilStreaming.Streaming
