import GilStreaming.Streaming.Pacer

/-!
# GilStreaming.Streaming.PacerSteps

How the threads of a `Pacer` hang together, in every state that it can reach.

The destructor waits for the threads in turn, so what it has waited for is done, and the main
thread does not render while it is in the destructor. `Consistent.of_vsync` and
`Consistent.of_render` say what a step of a running thread may change for this to stay so.
-/

namespace GilStreaming.Streaming

open Trace

theorem dropFrameForEnqueue_cases (queue : List Frame) :
    dropFrameForEnqueue queue = (queue, []) ∧ queue.length ≠ maxQueuedFrames ∨
      ∃ frame rest, queue = frame :: rest ∧ queue.length = maxQueuedFrames ∧
        dropFrameForEnqueue queue = (rest, [.avFrameFree frame]) := by
  cases queue with
  | nil => exact .inl ⟨rfl, by decide⟩
  | cons frame rest =>
      rw [dropFrameForEnqueue]
      split
      · next h => exact .inr ⟨frame, rest, rfl, h, rfl⟩
      · next h => exact .inl ⟨rfl, h⟩

namespace Pacer

/-- How the queues and the threads hang together. -/
structure Consistent (p : Pacer) : Prop where
  /-- Without a V-sync source, the frames go to the render queue. -/
  pacing_nil : p.config.vsyncSource = false → p.pacingQueue = []
  stopping : p.destructor ≠ .notCalled → p.stopping = true
  cleanup : .cleanupRenderContext ∈ p.log → p.stopping = true
  /-- The V-sync thread has been joined. -/
  vsync_done : p.destructor ∈ [.joinedVsync, .joiningRender, .draining, .returned] →
    p.vsyncThread = .done
  /-- The main thread is in the destructor, and not in `renderOnMainThread`. -/
  main_idle : p.config.renderThread = false →
    p.destructor ∈ [.stopping, .joiningVsync, .joinedVsync] → p.rendererThread = .looping
  /-- The render thread has been joined. -/
  render_done : p.destructor ∈ [.draining, .returned] → p.rendererThread = .done
  drained : p.destructor = .returned →
    p.renderQueue = [] ∧ p.pacingQueue = [] ∧ p.deferredFreeFrame = none

theorem consistent_initialized (config : PacerConfig) : (initialized config).Consistent := by
  constructor <;> simp [initialized]

variable {p : Pacer}

theorem cleanup_notMem_dropFrameForEnqueue (queue : List Frame) :
    PacerEffect.cleanupRenderContext ∉ (dropFrameForEnqueue queue).2 := by
  rcases dropFrameForEnqueue_cases queue with ⟨heq, -⟩ | ⟨frame, rest, -, -, heq⟩ <;>
    simp [heq]

namespace Consistent

theorem wakeVsync (h : p.Consistent) : p.wakeVsync.Consistent := by
  unfold Pacer.wakeVsync
  split
  · next woken hwaiting =>
      refine { h with vsync_done := fun hjoined => ?_ }
      exact absurd (hwaiting.symm.trans (h.vsync_done hjoined)) (by simp)
  · exact h

theorem wakeRenderer (h : p.Consistent) : p.wakeRenderer.Consistent := by
  unfold Pacer.wakeRenderer
  split
  · next woken hwaiting =>
      refine { h with
        main_idle := fun hthread hdestructor => ?_
        render_done := fun hjoined => ?_ }
      · exact absurd (hwaiting.symm.trans (h.main_idle hthread hdestructor)) (by simp)
      · exact absurd (hwaiting.symm.trans (h.render_done hjoined)) (by simp)
  · exact h

theorem wakeForRendering (h : p.Consistent) : p.wakeForRendering.Consistent := by
  unfold Pacer.wakeForRendering
  split
  · exact h.wakeRenderer
  · exact h

theorem stepSubmit (h : p.Consistent) : p.stepSubmit.Consistent := by
  unfold Pacer.stepSubmit
  split
  · split
    · next hdestructor =>
        unfold submitFrame
        dsimp only
        split
        · next hsource =>
            refine { h with
              pacing_nil := fun hnone => absurd (hsource.symm.trans hnone) (by simp)
              cleanup := fun hmem => h.cleanup ?_
              drained := fun hreturned => absurd (hdestructor.symm.trans hreturned) (by simp) }
            exact (List.mem_append.mp hmem).resolve_right (cleanup_notMem_dropFrameForEnqueue _)
        · refine { h with
            cleanup := fun hmem => h.cleanup ?_
            drained := fun hreturned => absurd (hdestructor.symm.trans hreturned) (by simp) }
          exact (List.mem_append.mp hmem).resolve_right (cleanup_notMem_dropFrameForEnqueue _)
    · exact h
  · have hidle : ({ p with submitThread := .idle } : Pacer).Consistent := { h with }
    dsimp only
    split
    · exact hidle.wakeVsync
    · exact hidle.wakeForRendering

/-- As long as the V-sync thread runs, the destructor is not past the wait for it. -/
theorem of_vsync (h : p.Consistent) (hrunning : p.vsyncThread ≠ .done) {p' : Pacer}
    (hconfig : p'.config = p.config) (hdestructor : p'.destructor = p.destructor)
    (hstopping : p'.stopping = p.stopping) (hrenderer : p'.rendererThread = p.rendererThread)
    (hpacing : p.pacingQueue = [] → p'.pacingQueue = [])
    (hcleanup : .cleanupRenderContext ∈ p'.log → .cleanupRenderContext ∈ p.log) :
    p'.Consistent where
  pacing_nil hsource := hpacing (h.pacing_nil (hconfig ▸ hsource))
  stopping hcalled := hstopping.trans (h.stopping (hdestructor ▸ hcalled))
  cleanup hmem := hstopping.trans (h.cleanup (hcleanup hmem))
  vsync_done hjoined := absurd (h.vsync_done (hdestructor ▸ hjoined)) hrunning
  main_idle hthread hcalled :=
    hrenderer.trans (h.main_idle (hconfig ▸ hthread) (hdestructor ▸ hcalled))
  render_done hjoined := hrenderer.trans (h.render_done (hdestructor ▸ hjoined))
  drained hreturned :=
    absurd (h.vsync_done (by simp [hdestructor ▸ hreturned])) hrunning

theorem dequeueForRendering (h : p.Consistent) (hrunning : p.vsyncThread ≠ .done) :
    p.dequeueForRendering.Consistent := by
  unfold Pacer.dequeueForRendering
  split
  · exact h.of_vsync hrunning rfl rfl rfl rfl id id
  · next frame rest hqueue =>
      refine h.of_vsync hrunning rfl rfl rfl rfl (fun hnil => ?_) fun hmem => ?_
      · exact absurd (hqueue.symm.trans hnil) (by simp)
      · exact (List.mem_append.mp hmem).resolve_right (cleanup_notMem_dropFrameForEnqueue _)

theorem catchUpPacing (h : p.Consistent) (hrunning : p.vsyncThread ≠ .done)
    (frameDropTarget : Nat) : (p.catchUpPacing frameDropTarget).Consistent := by
  unfold Pacer.catchUpPacing
  split
  · exact h.of_vsync hrunning rfl rfl rfl rfl id id
  · next frame rest hqueue =>
      split
      · exact h.of_vsync hrunning rfl rfl rfl rfl
          (fun hnil => absurd (hqueue.symm.trans hnil) (by simp)) id
      · exact h.dequeueForRendering hrunning

theorem handleVsync (h : p.Consistent) (hrunning : p.vsyncThread ≠ .done) :
    p.handleVsync.Consistent := by
  unfold Pacer.handleVsync
  split
  · have hrolled : ({ p with
        pacingQueueHistory := rollHistory (p.config.displayFps / 2) p.pacingQueueHistory
          p.pacingQueue.length } : Pacer).Consistent :=
      h.of_vsync hrunning rfl rfl rfl rfl id id
    exact hrolled.catchUpPacing hrunning _
  · exact h.catchUpPacing hrunning 1

theorem stepVsync (h : p.Consistent) : p.stepVsync.Consistent := by
  unfold Pacer.stepVsync
  split
  · next hv => exact h.of_vsync (by simp [hv]) rfl rfl rfl rfl id id
  · next hv => exact h.handleVsync (by simp [hv])
  · next frameDropTarget frame hv =>
      exact h.of_vsync (by simp [hv]) rfl rfl rfl rfl id (by simp)
  · next hv => exact h.catchUpPacing (by simp [hv]) _
  · next woken hv =>
      split
      · exact h
      · split
        · exact h.of_vsync (by simp [hv]) rfl rfl rfl rfl id id
        · exact h.dequeueForRendering (by simp [hv])
  · next hv =>
      refine Consistent.wakeForRendering ?_
      exact h.of_vsync (by simp [hv]) rfl rfl rfl rfl id id
  · exact h
  · exact h

theorem vsyncTimeout (h : p.Consistent) : p.vsyncTimeout.Consistent := by
  unfold Pacer.vsyncTimeout
  split
  · next hv => exact h.of_vsync (by simp [hv]) rfl rfl rfl rfl id id
  · exact h

/-- As long as the thread that renders has a step to make, the destructor is not past the wait
for it, and not on the main thread itself. -/
theorem of_render (h : p.Consistent)
    (hrunning : p.rendererThread ≠ .done) (hmain : p.config.renderThread = false →
      p.destructor ∉ [.stopping, .joiningVsync, .joinedVsync]) {p' : Pacer}
    (hconfig : p'.config = p.config) (hdestructor : p'.destructor = p.destructor)
    (hstopping : p'.stopping = p.stopping) (hvsync : p'.vsyncThread = p.vsyncThread)
    (hpacing : p'.pacingQueue = p.pacingQueue)
    (hcleanup : .cleanupRenderContext ∈ p'.log →
      .cleanupRenderContext ∈ p.log ∨ p.stopping = true) : p'.Consistent where
  pacing_nil hsource := hpacing.trans (h.pacing_nil (hconfig ▸ hsource))
  stopping hcalled := hstopping.trans (h.stopping (hdestructor ▸ hcalled))
  cleanup hmem := hstopping.trans ((hcleanup hmem).elim h.cleanup id)
  vsync_done hjoined := hvsync.trans (h.vsync_done (hdestructor ▸ hjoined))
  main_idle hthread hcalled :=
    absurd (hdestructor ▸ hcalled) (hmain (hconfig ▸ hthread))
  render_done hjoined := absurd (h.render_done (hdestructor ▸ hjoined)) hrunning
  drained hreturned :=
    absurd (h.render_done (by simp [hdestructor ▸ hreturned])) hrunning

section Render

variable (h : p.Consistent) (hrunning : p.rendererThread ≠ .done)
  (hmain : p.config.renderThread = false →
    p.destructor ∉ [.stopping, .joiningVsync, .joinedVsync])

include h hrunning hmain

theorem acquireFrame : p.acquireFrame.Consistent := by
  unfold Pacer.acquireFrame
  split
  · next hstopping =>
      exact h.of_render hrunning hmain rfl rfl rfl rfl rfl fun _ => .inr hstopping
  · split
    · exact h.of_render hrunning hmain rfl rfl rfl rfl rfl .inl
    · exact h.of_render hrunning hmain rfl rfl rfl rfl rfl .inl

theorem renderOnMainThread : p.renderOnMainThread.Consistent := by
  unfold Pacer.renderOnMainThread
  split
  · exact h
  · exact h.of_render hrunning hmain rfl rfl rfl rfl rfl .inl

theorem catchUpRendering (frameDropTarget : Nat) :
    (p.catchUpRendering frameDropTarget).Consistent := by
  unfold Pacer.catchUpRendering
  split
  · exact h.of_render hrunning hmain rfl rfl rfl rfl rfl .inl
  · split
    · exact h.of_render hrunning hmain rfl rfl rfl rfl rfl .inl
    · exact h.of_render hrunning hmain rfl rfl rfl rfl rfl .inl

theorem dropQueuedFrames : p.dropQueuedFrames.Consistent := by
  unfold Pacer.dropQueuedFrames
  split
  · exact h.catchUpRendering hrunning hmain 1
  · have hrolled : ({ p with
        renderQueueHistory := rollHistory (p.config.maxVideoFps / 2) p.renderQueueHistory
          p.renderQueue.length } : Pacer).Consistent :=
      h.of_render hrunning hmain rfl rfl rfl rfl rfl .inl
    exact hrolled.catchUpRendering hrunning hmain _

end Render

theorem stepRender (h : p.Consistent) : p.stepRender.Consistent := by
  -- The main thread is in front of its loop when it is in the destructor.
  have hmain : p.rendererThread ≠ .looping → p.config.renderThread = false →
      p.destructor ∉ [.stopping, .joiningVsync, .joinedVsync] :=
    fun hne hthread hcalled => hne (h.main_idle hthread hcalled)
  unfold Pacer.stepRender
  split
  · next hr =>
      split
      · next hthread =>
          exact h.acquireFrame (by simp [hr]) fun hnone =>
            absurd (hthread.symm.trans hnone) (by simp)
      · split
        · next hcalled => exact h.renderOnMainThread (by simp [hr]) fun _ => by simp [hcalled]
        · exact h
  · next woken hr =>
      split
      · exact h
      · exact h.acquireFrame (by simp [hr]) (hmain (by simp [hr]))
  · next frame hr =>
      exact h.of_render (by simp [hr]) (hmain (by simp [hr])) rfl rfl rfl rfl rfl
        fun hmem => .inl (by simpa using hmem)
  · next frame hr =>
      refine h.of_render (by simp [hr]) (hmain (by simp [hr])) rfl rfl rfl rfl rfl fun hmem => ?_
      cases hdeferred : p.deferredFreeFrame <;> simp [hdeferred] at hmem <;> exact .inl hmem
  · next hr => exact h.dropQueuedFrames (by simp [hr]) (hmain (by simp [hr]))
  · next frameDropTarget frame hr =>
      exact h.of_render (by simp [hr]) (hmain (by simp [hr])) rfl rfl rfl rfl rfl
        fun hmem => .inl (by simpa using hmem)
  · next hr => exact h.catchUpRendering (by simp [hr]) (hmain (by simp [hr])) _
  · exact h

theorem drainFrame (h : p.Consistent) (hdraining : p.destructor = .draining) :
    p.drainFrame.Consistent := by
  have hreturned : p.destructor ≠ .returned := by simp [hdraining]
  unfold Pacer.drainFrame
  split
  · exact { h with
      cleanup := fun hmem => h.cleanup (by simpa using hmem)
      drained := fun hr => absurd hr hreturned }
  · exact { h with
      pacing_nil := fun hsource => absurd (h.pacing_nil hsource) (by simp [*])
      cleanup := fun hmem => h.cleanup (by simpa using hmem)
      drained := fun hr => absurd hr hreturned }
  · exact { h with
      cleanup := fun hmem => h.cleanup (by simpa using hmem)
      drained := fun hr => absurd hr hreturned }
  · next hrender hpacing hdeferred =>
      exact { h with
        stopping := fun _ => h.stopping (by simp [hdraining])
        vsync_done := fun _ => h.vsync_done (by simp [hdraining])
        main_idle := fun _ hcalled => absurd hcalled (by simp)
        render_done := fun _ => h.render_done (by simp [hdraining])
        drained := fun _ => ⟨hrender, hpacing, hdeferred⟩ }

theorem stepDestructor (h : p.Consistent) : p.stepDestructor.Consistent := by
  unfold Pacer.stepDestructor
  split
  · split
    · next hidle =>
        exact { h with
          stopping := fun _ => rfl
          cleanup := fun _ => rfl
          vsync_done := fun hjoined => absurd hjoined (by simp)
          main_idle := fun hthread _ =>
            hidle.2.resolve_left fun h => absurd (h.symm.trans hthread) (by simp)
          render_done := fun hjoined => absurd hjoined (by simp)
          drained := fun hr => absurd hr (by simp) }
    · exact h
  · next hcalled =>
      have hjoining : ({ p with destructor := .joiningVsync } : Pacer).Consistent :=
        { h with
          stopping := fun _ => h.stopping (by simp [hcalled])
          vsync_done := fun hjoined => absurd hjoined (by simp)
          main_idle := fun hthread _ => h.main_idle hthread (by simp [hcalled])
          render_done := fun hjoined => absurd hjoined (by simp)
          drained := fun hr => absurd hr (by simp) }
      dsimp only
      split
      · exact hjoining.wakeVsync
      · exact hjoining
  · next hcalled =>
      split
      · next hdone =>
          exact { h with
            stopping := fun _ => h.stopping (by simp [hcalled])
            vsync_done := fun _ => hdone
            main_idle := fun hthread _ => h.main_idle hthread (by simp [hcalled])
            render_done := fun hjoined => absurd hjoined (by simp)
            drained := fun hr => absurd hr (by simp) }
      · exact h
  · next hcalled =>
      have hstopping : p.stopping = true := h.stopping (by simp [hcalled])
      have hjoining : ({ p with destructor := .joiningRender } : Pacer).Consistent :=
        { h with
          stopping := fun _ => hstopping
          vsync_done := fun _ => h.vsync_done (by simp [hcalled])
          main_idle := fun _ hlist => absurd hlist (by simp)
          render_done := fun hjoined => absurd hjoined (by simp)
          drained := fun hr => absurd hr (by simp) }
      dsimp only
      split
      · exact hjoining.wakeRenderer
      · exact { hjoining with
          cleanup := fun _ => hstopping
          main_idle := fun _ hlist => absurd hlist (by simp [finishRendering])
          render_done := fun _ => rfl }
  · next hcalled =>
      split
      · next hdone =>
          exact { h with
            stopping := fun _ => h.stopping (by simp [hcalled])
            vsync_done := fun _ => h.vsync_done (by simp [hcalled])
            main_idle := fun _ hlist => absurd hlist (by simp)
            render_done := fun _ => hdone
            drained := fun hr => absurd hr (by simp) }
      · exact h
  · next hcalled => exact h.drainFrame hcalled
  · exact h

theorem step (h : p.Consistent) (action : PacerAction) : (p.step action).Consistent := by
  cases action with
  | submit => exact h.stepSubmit
  | vsync => exact h.stepVsync
  | vsyncTimeout => exact h.vsyncTimeout
  | render => exact h.stepRender
  | destroy => exact h.stepDestructor

end Consistent

theorem consistent_run (config : PacerConfig) (actions : List PacerAction) :
    ((initialized config).run actions).Consistent := by
  induction actions using List.reverseRecOn with
  | nil => exact consistent_initialized config
  | append_singleton actions action ih =>
      rw [run, run_concat]
      exact ih.step action

end Pacer

end GilStreaming.Streaming
