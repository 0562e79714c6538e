import GilStreaming.Streaming.PacerSteps

/-!
# GilStreaming.Streaming.PacerWait

Whether `handleVsync` dequeues from an empty pacing queue.

It waits for a frame once, and takes the wake-up for a frame. `submitFrame` wakes it after it
has released the lock, so the wake-up can come when the V-sync thread has already taken the
frame without waiting, and is in the wait for the next one (`Pacer.LateWake`,
`late_wake_dequeues_nothing`). The loop of `renderThread` looks at its queue again instead.
Nothing but the V-sync thread empties the pacing queue, so a wake-up that finds a frame there
leaves it to the wait that it ends.
-/

namespace GilStreaming.Streaming

open Trace

/-- The V-sync thread is in its wait for a frame. -/
def VsyncState.isWaiting : VsyncState → Bool
  | .waiting _ => true
  | _ => false

namespace Pacer

/-- `submitFrame` wakes the V-sync thread from its wait, and the pacing queue is empty. -/
def LateWake (p : Pacer) (action : PacerAction) : Prop :=
  action = .submit ∧ p.submitThread = .waking ∧ p.config.vsyncSource = true ∧
    p.vsyncThread.isWaiting = true ∧ p.pacingQueue = []

instance (p : Pacer) (action : PacerAction) : Decidable (p.LateWake action) :=
  inferInstanceAs (Decidable (_ ∧ _))

/-- A wait that was woken finds a frame, unless the V-sync thread is to stop. -/
structure Awake (p : Pacer) : Prop where
  woken : p.vsyncThread = .waiting true → p.pacingQueue ≠ [] ∨ p.stopping = true
  defined : p.vsyncThread ≠ .undefined

variable {p : Pacer}

theorem awake_initialized (config : PacerConfig) : (initialized config).Awake := by
  cases hthread : config.vsyncThread <;> constructor <;> simp [initialized, hthread]

/-- A step that changes nothing of this. -/
theorem Awake.of_eq (h : p.Awake) {p' : Pacer} (hvsync : p'.vsyncThread = p.vsyncThread)
    (hpacing : p'.pacingQueue = p.pacingQueue) (hstopping : p'.stopping = p.stopping) :
    p'.Awake where
  woken hwaiting := by
    rw [hpacing, hstopping]
    exact h.woken (hvsync ▸ hwaiting)
  defined := hvsync ▸ h.defined

/-- A thread that is neither woken nor undefined. -/
theorem Awake.of_state {state : VsyncState} (hwaiting : state ≠ .waiting true)
    (hdefined : state ≠ .undefined) (h : p.vsyncThread = state) : p.Awake where
  woken hw := absurd (h.symm.trans hw) hwaiting
  defined := h ▸ hdefined

/-! ### The steps of the other threads -/

theorem Awake.wakeRenderer (h : p.Awake) : p.wakeRenderer.Awake := by
  unfold Pacer.wakeRenderer
  split
  · exact h.of_eq rfl rfl rfl
  · exact h

theorem Awake.wakeForRendering (h : p.Awake) : p.wakeForRendering.Awake := by
  unfold Pacer.wakeForRendering
  split
  · exact h.wakeRenderer
  · exact h

/-- A wake-up that finds a frame, or that is for the thread to stop. -/
theorem Awake.wakeVsync (h : p.Awake)
    (hframe : p.vsyncThread.isWaiting = true → p.pacingQueue ≠ [] ∨ p.stopping = true) :
    p.wakeVsync.Awake := by
  unfold Pacer.wakeVsync
  split
  · next woken hwaiting =>
      exact ⟨fun _ => hframe (by rw [hwaiting]; rfl), by simp⟩
  · exact h

theorem Awake.stepSubmit (h : p.Awake) (hlate : ¬ p.LateWake .submit) : p.stepSubmit.Awake := by
  unfold Pacer.stepSubmit
  split
  · split
    · unfold submitFrame
      dsimp only
      split
      · exact ⟨fun _ => .inl (by simp), h.defined⟩
      · exact h.of_eq rfl rfl rfl
    · exact h
  · next hwaking =>
      have hidle : ({ p with submitThread := .idle } : Pacer).Awake := h.of_eq rfl rfl rfl
      dsimp only
      split
      · next hsource =>
          refine hidle.wakeVsync fun hwaiting => .inl fun hempty => ?_
          exact hlate ⟨rfl, hwaking, hsource, hwaiting, hempty⟩
      · exact hidle.wakeForRendering

theorem Awake.acquireFrame (h : p.Awake) : p.acquireFrame.Awake := by
  unfold Pacer.acquireFrame
  split
  · exact h.of_eq rfl rfl rfl
  · split
    · exact h.of_eq rfl rfl rfl
    · exact h.of_eq rfl rfl rfl

theorem Awake.catchUpRendering (h : p.Awake) (frameDropTarget : Nat) :
    (p.catchUpRendering frameDropTarget).Awake := by
  unfold Pacer.catchUpRendering
  split
  · exact h.of_eq rfl rfl rfl
  · split
    · exact h.of_eq rfl rfl rfl
    · exact h.of_eq rfl rfl rfl

theorem Awake.stepRender (h : p.Awake) : p.stepRender.Awake := by
  unfold Pacer.stepRender
  split
  · split
    · exact h.acquireFrame
    · split
      · unfold renderOnMainThread
        split
        · exact h
        · exact h.of_eq rfl rfl rfl
      · exact h
  · split
    · exact h
    · exact h.acquireFrame
  · exact h.of_eq rfl rfl rfl
  · exact h.of_eq rfl rfl rfl
  · unfold dropQueuedFrames
    split
    · exact h.catchUpRendering 1
    · refine Awake.catchUpRendering ?_ _
      exact h.of_eq rfl rfl rfl
  · exact h.of_eq rfl rfl rfl
  · exact h.catchUpRendering _
  · exact h

theorem Awake.stepDestructor (h : p.Awake) (hconsistent : p.Consistent) :
    p.stepDestructor.Awake := by
  unfold Pacer.stepDestructor
  split
  · split
    · exact ⟨fun _ => .inr rfl, h.defined⟩
    · exact h
  · next hcalled =>
      have hstopping : p.stopping = true := hconsistent.stopping (by simp [hcalled])
      have hjoining : ({ p with destructor := .joiningVsync } : Pacer).Awake :=
        h.of_eq rfl rfl rfl
      dsimp only
      split
      · exact hjoining.wakeVsync fun _ => .inr hstopping
      · exact hjoining
  · split
    · exact h.of_eq rfl rfl rfl
    · exact h
  · have hjoining : ({ p with destructor := .joiningRender } : Pacer).Awake :=
      h.of_eq rfl rfl rfl
    dsimp only
    split
    · exact hjoining.wakeRenderer
    · exact hjoining.of_eq rfl rfl rfl
  · split
    · exact h.of_eq rfl rfl rfl
    · exact h
  · next hdraining =>
      -- The V-sync thread is not there any more when its queue is drained.
      have hdone : p.vsyncThread = .done := hconsistent.vsync_done (by simp [hdraining])
      unfold drainFrame
      split <;> exact .of_state (by simp) (by simp) hdone
  · exact h

/-! ### The steps of the V-sync thread -/

theorem awake_dequeueForRendering (hframe : p.pacingQueue ≠ []) :
    p.dequeueForRendering.Awake := by
  unfold dequeueForRendering
  split
  · next hempty => exact absurd hempty hframe
  · exact .of_state (by simp) (by simp) rfl

theorem awake_catchUpPacing (frameDropTarget : Nat) : (p.catchUpPacing frameDropTarget).Awake := by
  unfold catchUpPacing
  split
  · exact .of_state (by simp) (by simp) rfl
  · next frame rest hqueue =>
      split
      · exact .of_state (by simp) (by simp) rfl
      · exact awake_dequeueForRendering (by simp [hqueue])

theorem awake_handleVsync : p.handleVsync.Awake := by
  unfold handleVsync
  split <;> exact awake_catchUpPacing _

theorem Awake.stepVsync (h : p.Awake) : p.stepVsync.Awake := by
  unfold Pacer.stepVsync
  split
  · cases p.stopping <;> exact .of_state (by simp) (by simp) rfl
  · exact awake_handleVsync
  · exact .of_state (by simp) (by simp) rfl
  · exact awake_catchUpPacing _
  · next woken hwaiting =>
      split
      · exact h
      · next hwoken =>
          split
          · exact .of_state (by simp) (by simp) rfl
          · next hrunning =>
              have hwoken : woken = true := by simpa using hwoken
              exact awake_dequeueForRendering
                ((h.woken (hwoken ▸ hwaiting)).resolve_right hrunning)
  · refine Awake.wakeForRendering ?_
    exact .of_state (by simp) (by simp) rfl
  · exact h
  · exact h

theorem Awake.vsyncTimeout (h : p.Awake) : p.vsyncTimeout.Awake := by
  unfold Pacer.vsyncTimeout
  split
  · exact .of_state (by simp) (by simp) rfl
  · exact h

theorem Awake.step (h : p.Awake) (hconsistent : p.Consistent) (action : PacerAction)
    (hlate : ¬ p.LateWake action) : (p.step action).Awake := by
  cases action with
  | submit => exact h.stepSubmit hlate
  | vsync => exact h.stepVsync
  | vsyncTimeout => exact h.vsyncTimeout
  | render => exact h.stepRender
  | destroy => exact h.stepDestructor hconsistent

/-! ### Every interleaving -/

theorem awake_run (config : PacerConfig) {actions : List PacerAction}
    (h : AllSteps step (fun p action => ¬ p.LateWake action) (initialized config) actions) :
    ((initialized config).run actions).Awake := by
  induction actions using List.reverseRecOn with
  | nil => exact awake_initialized config
  | append_singleton actions action ih =>
      obtain ⟨hbefore, hlast⟩ := allSteps_concat.mp h
      rw [run, run_concat]
      exact (ih hbefore).step (consistent_run config actions) action hlast

/-- After a late wake-up, the next step of the V-sync thread dequeues from the empty queue. -/
theorem LateWake.undefined (h : p.LateWake .submit) (hrunning : p.stopping = false) :
    ((p.step .submit).step .vsync).vsyncThread = .undefined := by
  obtain ⟨-, hwaking, hsource, hwaiting, hempty⟩ := h
  have hstep : p.step .submit = { p with submitThread := .idle, vsyncThread := .waiting true } := by
    show p.stepSubmit = _
    unfold stepSubmit wakeVsync
    rw [hwaking]
    cases hvsync : p.vsyncThread <;> simp_all [VsyncState.isWaiting]
  rw [hstep]
  show ({ p with submitThread := .idle, vsyncThread := .waiting true } :
    Pacer).stepVsync.vsyncThread = _
  unfold stepVsync dequeueForRendering
  simp [hrunning, hempty]

/-- In an interleaving in which no wake-up of `submitFrame` comes when the frame is gone and
the V-sync thread waits for another one, `handleVsync` never dequeues from an empty queue.
After such a wake-up it does so in its next step, unless it is to stop. -/
theorem dequeues_a_frame (config : PacerConfig) (actions : List PacerAction) :
    (AllSteps step (fun p action => ¬ p.LateWake action) (initialized config) actions →
      ∀ pre, pre <+: actions → ((initialized config).run pre).vsyncThread ≠ .undefined) ∧
    (((initialized config).run actions).LateWake .submit →
      ((initialized config).run actions).stopping = false →
      ((initialized config).run (actions ++ [.submit, .vsync])).vsyncThread = .undefined) := by
  constructor
  · rintro h pre ⟨post, rfl⟩
    exact (awake_run config (allSteps_append.mp h).1).defined
  · intro hlate hrunning
    rw [run, run_append]
    exact hlate.undefined hrunning

/-- A frame, and a wait that is woken for it. -/
def wokenRun : List PacerAction := [.vsync, .vsync, .submit, .submit, .vsync, .vsync]

theorem dequeues_a_frame_woken :
    let config : PacerConfig := ⟨true, true, true, false, 60, 60, fun _ => rfl⟩
    ((initialized config).run wokenRun).vsyncThread ≠ .undefined :=
  (dequeues_a_frame ⟨true, true, true, false, 60, 60, fun _ => rfl⟩ wokenRun).1 (by decide)
    wokenRun (List.prefix_refl _)

/-- A frame that the V-sync thread takes, and waits for the next one, before `submitFrame`
wakes it. -/
def lateWakeRun : List PacerAction :=
  [.submit, .vsync, .vsync, .vsync, .vsync, .vsync, .submit, .vsync]

/-- The wait ends with a wake-up, and the queue is empty. -/
theorem late_wake_dequeues_nothing :
    let config : PacerConfig := ⟨true, true, true, false, 60, 60, fun _ => rfl⟩
    ((initialized config).run lateWakeRun).vsyncThread = .undefined := by
  decide

end Pacer

end GilStreaming.Streaming
