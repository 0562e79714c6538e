import GilStreaming.Lib.Custody
import GilStreaming.Streaming.PacerSteps

/-!
# GilStreaming.Streaming.PacerFrames

Every frame that `Pacer` is given is freed exactly once.

`Pacer.custody` forgets the threads and says where each frame is; the two queues are one line
of frames that wait, so moving a frame from one to the other is nothing. Each step of a thread
is a sequence of moves of the frames (`step_moves`), whatever the other threads do, and what
`Custody` says about moves is then true of every interleaving (`frames_conserved`).
-/

namespace GilStreaming.Streaming

open Trace

/-! ### Where the frames are -/

def PacerEffect.act : PacerEffect → CustodyAct Frame
  | .renderFrame frame => .use frame
  | .avFrameFree frame => .free frame
  | .cleanupRenderContext => .close

/-- The frame that the V-sync thread is about to free. -/
def VsyncState.dropped : VsyncState → List Frame
  | .dropping _ frame => [frame]
  | _ => []

namespace RenderState

/-- The frame that is about to be freed, to catch up. -/
def dropped : RenderState → List Frame
  | .dropping _ frame => [frame]
  | _ => []

def next : RenderState → Option Frame
  | .rendering frame => some frame
  | _ => none

def current : RenderState → Option Frame
  | .rendered frame => some frame
  | _ => none

end RenderState

namespace Pacer

/-- The frames of a `Pacer`. -/
def custody (p : Pacer) : Custody Frame where
  taken := List.range p.submitted
  waiting := p.renderQueue ++ p.pacingQueue
  dropped := p.vsyncThread.dropped ++ p.rendererThread.dropped
  next := p.rendererThread.next
  current := p.rendererThread.current
  kept := p.deferredFreeFrame
  closed := p.rendererThread = .done
  log := p.log.map PacerEffect.act

/-! ### What the steps do to the frames -/

variable {p : Pacer}

@[simp] theorem custody_wakeVsync : p.wakeVsync.custody = p.custody := by
  unfold wakeVsync
  split
  · next woken h => simp [custody, h, VsyncState.dropped]
  · rfl

@[simp] theorem custody_wakeRenderer : p.wakeRenderer.custody = p.custody := by
  unfold wakeRenderer
  split
  · next woken h =>
      simp [custody, h, RenderState.dropped, RenderState.next, RenderState.current]
  · rfl

@[simp] theorem custody_wakeForRendering : p.wakeForRendering.custody = p.custody := by
  unfold wakeForRendering
  split
  · exact custody_wakeRenderer
  · rfl

/-- A frame is put behind those in the render queue, and in front of those in the pacing
queue. -/
theorem moves_enqueue {c : Custody Frame} (frame : Frame)
    (hc : c = { p.custody with waiting := p.renderQueue ++ frame :: p.pacingQueue }) :
    c.Moves (p.enqueueFrameForRendering frame).custody := by
  unfold enqueueFrameForRendering
  rcases dropFrameForEnqueue_cases p.renderQueue with ⟨heq, -⟩ | ⟨first, rest, hqueue, -, heq⟩
  · rw [heq, hc, show ({ p with renderQueue := p.renderQueue ++ [frame], log := p.log ++ [] } :
      Pacer).custody = { p.custody with waiting := p.renderQueue ++ frame :: p.pacingQueue } by
        simp [custody]]
  · rw [heq]
    have hmoves := @Custody.Moves.discard _ c [] (rest ++ frame :: p.pacingQueue) first
      (by rw [hc, hqueue]; rfl)
    convert hmoves using 1
    simp [custody, hc, PacerEffect.act]

theorem moves_submitFrame (h : p.config.vsyncSource = false → p.pacingQueue = []) :
    p.custody.Moves p.submitFrame.custody := by
  have hnew : p.submitted ∉ p.custody.taken := by simp [custody]
  have htake := Custody.Move.take p.custody p.submitted hnew
  unfold submitFrame
  dsimp only
  split
  · rcases dropFrameForEnqueue_cases p.pacingQueue with ⟨heq, -⟩ | ⟨first, rest, hqueue, -, heq⟩
    · rw [heq]
      refine htake.moves_eq ?_
      simp [custody, List.range_succ]
    · rw [heq]
      have hdrop := @Custody.Moves.discard _
        { p.custody with
          taken := p.custody.taken ++ [p.submitted]
          waiting := p.custody.waiting ++ [p.submitted] }
        p.renderQueue (rest ++ [p.submitted]) first (by simp [custody, hqueue])
      refine (Relation.ReflTransGen.single htake).trans ?_
      convert hdrop using 1
      simp [custody, List.range_succ, PacerEffect.act]
  · next hsource =>
      refine (Relation.ReflTransGen.single htake).trans (moves_enqueue p.submitted ?_)
      simp [custody, List.range_succ, h (by simpa using hsource)]

theorem moves_stepSubmit (h : p.Consistent) : p.custody.Moves p.stepSubmit.custody := by
  unfold stepSubmit
  split
  · split
    · exact moves_submitFrame h.pacing_nil
    · exact .refl
  · dsimp only
    split
    · rw [custody_wakeVsync]
      exact .refl
    · rw [custody_wakeForRendering]
      exact .refl

/-! ### The V-sync thread -/

/-- Where the V-sync thread is matters for the frame that it frees. -/
theorem custody_vsyncThread (state : VsyncState) (h : state.dropped = p.vsyncThread.dropped) :
    ({ p with vsyncThread := state } : Pacer).custody = p.custody := by
  simp [custody, h]

theorem moves_vsyncThread (state : VsyncState) (h : state.dropped = p.vsyncThread.dropped) :
    p.custody.Moves ({ p with vsyncThread := state } : Pacer).custody := by
  rw [custody_vsyncThread state h]

theorem moves_dequeueForRendering (hdropped : p.vsyncThread.dropped = []) :
    p.custody.Moves p.dequeueForRendering.custody := by
  unfold dequeueForRendering
  split
  · exact moves_vsyncThread _ (by rw [hdropped]; rfl)
  · next frame rest hqueue =>
      have hmoves := @moves_enqueue { p with pacingQueue := rest } p.custody frame
        (by simp [custody, hqueue])
      refine hmoves.trans (moves_vsyncThread .waking ?_)
      rw [show (({ p with pacingQueue := rest } : Pacer).enqueueFrameForRendering
        frame).vsyncThread = p.vsyncThread from rfl, hdropped]
      rfl

theorem moves_catchUpPacing (hdropped : p.vsyncThread.dropped = []) (frameDropTarget : Nat) :
    p.custody.Moves (p.catchUpPacing frameDropTarget).custody := by
  unfold catchUpPacing
  split
  · exact moves_vsyncThread _ (by rw [hdropped]; rfl)
  · next frame rest hqueue =>
      split
      · refine (Custody.Move.drop p.custody p.renderQueue frame rest [] p.rendererThread.dropped
          (by simp [custody, hqueue]) (by simp [custody, hdropped])).moves_eq ?_
        rfl
      · exact moves_dequeueForRendering hdropped

theorem moves_handleVsync (hdropped : p.vsyncThread.dropped = []) :
    p.custody.Moves p.handleVsync.custody := by
  unfold handleVsync
  split
  · exact @moves_catchUpPacing { p with
      pacingQueueHistory := rollHistory (p.config.displayFps / 2) p.pacingQueueHistory
        p.pacingQueue.length } hdropped _
  · exact moves_catchUpPacing hdropped 1

theorem moves_stepVsync : p.custody.Moves p.stepVsync.custody := by
  unfold stepVsync
  split
  · next h => exact moves_vsyncThread _ (by rw [h]; cases p.stopping <;> rfl)
  · next h => exact moves_handleVsync (by rw [h]; rfl)
  · next frameDropTarget frame h =>
      refine (Custody.Move.free p.custody [] frame p.rendererThread.dropped
        (by simp [custody, h, VsyncState.dropped])).moves_eq ?_
      simp [custody, VsyncState.dropped, PacerEffect.act]
  · next h => exact moves_catchUpPacing (by rw [h]; rfl) _
  · next woken h =>
      split
      · exact .refl
      · split
        · exact moves_vsyncThread _ (by rw [h]; rfl)
        · exact moves_dequeueForRendering (by rw [h]; rfl)
  · next h =>
      rw [custody_wakeForRendering]
      exact moves_vsyncThread _ (by rw [h]; rfl)
  · exact .refl
  · exact .refl

theorem moves_vsyncTimeout : p.custody.Moves p.vsyncTimeout.custody := by
  unfold vsyncTimeout
  split
  · next h => exact moves_vsyncThread _ (by rw [h]; rfl)
  · exact .refl

/-! ### The thread that renders -/

/-- The thread has no frame, and goes on. -/
structure Free (p : Pacer) : Prop where
  dropped : p.rendererThread.dropped = []
  next : p.rendererThread.next = none
  current : p.rendererThread.current = none
  ne_done : p.rendererThread ≠ .done

theorem Free.of_eq {state : RenderState} (h : p.rendererThread = state)
    (hstate : state.dropped = [] ∧ state.next = none ∧ state.current = none ∧ state ≠ .done) :
    p.Free := by
  subst h
  exact ⟨hstate.1, hstate.2.1, hstate.2.2.1, hstate.2.2.2⟩

theorem Free.moves (h : p.Free) (state : RenderState)
    (hstate : state.dropped = [] ∧ state.next = none ∧ state.current = none ∧ state ≠ .done) :
    p.custody.Moves ({ p with rendererThread := state } : Pacer).custody := by
  obtain ⟨hdropped, hnext, hcurrent, hdone⟩ := hstate
  rw [show ({ p with rendererThread := state } : Pacer).custody = p.custody by
    simp [custody, hdropped, hnext, hcurrent, hdone, h.dropped, h.next, h.current, h.ne_done]]

theorem Free.moves_finishRendering (h : p.Free) :
    p.custody.Moves p.finishRendering.custody := by
  refine (Custody.Move.close p.custody h.next h.current).moves_eq ?_
  simp [custody, finishRendering, h.dropped, h.next, h.current, PacerEffect.act,
    show RenderState.done.dropped = [] from rfl, show RenderState.done.next = none from rfl,
    show RenderState.done.current = none from rfl]

/-- The first frame in the render queue is about to be rendered. -/
theorem Free.moves_pick (h : p.Free) {frame : Frame} {rest : List Frame}
    (hqueue : p.renderQueue = frame :: rest) :
    p.custody.Moves
      ({ p with renderQueue := rest, rendererThread := .rendering frame } : Pacer).custody := by
  refine (Custody.Move.pick p.custody frame (rest ++ p.pacingQueue) (by simp [custody, hqueue])
    h.next (by simp [custody, h.ne_done])).moves_eq ?_
  simp [custody, h.dropped, h.current, h.ne_done,
    show (RenderState.rendering frame).dropped = [] from rfl,
    show (RenderState.rendering frame).next = some frame from rfl,
    show (RenderState.rendering frame).current = none from rfl]

theorem Free.moves_acquireFrame (h : p.Free) : p.custody.Moves p.acquireFrame.custody := by
  unfold acquireFrame
  split
  · exact h.moves_finishRendering
  · split
    · exact h.moves _ ⟨rfl, rfl, rfl, by simp⟩
    · next hqueue => exact h.moves_pick hqueue

theorem Free.moves_renderOnMainThread (h : p.Free) :
    p.custody.Moves p.renderOnMainThread.custody := by
  unfold renderOnMainThread
  split
  · exact .refl
  · next hqueue => exact h.moves_pick hqueue

theorem Free.moves_catchUpRendering (h : p.Free) (frameDropTarget : Nat) :
    p.custody.Moves (p.catchUpRendering frameDropTarget).custody := by
  unfold catchUpRendering
  split
  · exact h.moves _ ⟨rfl, rfl, rfl, by simp⟩
  · next frame rest hqueue =>
      split
      · refine (Custody.Move.drop p.custody [] frame (rest ++ p.pacingQueue)
          p.vsyncThread.dropped [] (by simp [custody, hqueue])
          (by simp [custody, h.dropped])).moves_eq ?_
        simp [custody, h.next, h.current, h.ne_done,
          show (RenderState.dropping frameDropTarget frame).dropped = [frame] from rfl,
          show (RenderState.dropping frameDropTarget frame).next = none from rfl,
          show (RenderState.dropping frameDropTarget frame).current = none from rfl]
      · exact h.moves _ ⟨rfl, rfl, rfl, by simp⟩

theorem Free.moves_dropQueuedFrames (h : p.Free) :
    p.custody.Moves p.dropQueuedFrames.custody := by
  unfold dropQueuedFrames
  split
  · exact h.moves_catchUpRendering 1
  · exact @Free.moves_catchUpRendering { p with
      renderQueueHistory := rollHistory (p.config.maxVideoFps / 2) p.renderQueueHistory
        p.renderQueue.length } ⟨h.dropped, h.next, h.current, h.ne_done⟩ _

theorem moves_stepRender : p.custody.Moves p.stepRender.custody := by
  unfold stepRender
  split
  · next h =>
      have hfree : p.Free := .of_eq h ⟨rfl, rfl, rfl, by simp⟩
      split
      · exact hfree.moves_acquireFrame
      · split
        · exact hfree.moves_renderOnMainThread
        · exact .refl
  · next woken h =>
      have hfree : p.Free := .of_eq h ⟨rfl, rfl, rfl, by simp⟩
      split
      · exact .refl
      · exact hfree.moves_acquireFrame
  · next frame h =>
      refine (Custody.Move.use p.custody frame (by rw [custody, h]; rfl)
        (by rw [custody, h]; rfl)).moves_eq ?_
      simp [custody, h, RenderState.dropped, RenderState.next, RenderState.current,
        PacerEffect.act]
  · next frame h =>
      have hcurrent : p.custody.current = some frame := by rw [custody, h]; rfl
      cases hkept : p.deferredFreeFrame with
      | none =>
          refine (Custody.Move.keep p.custody frame hcurrent hkept).moves_eq ?_
          simp [custody, h, RenderState.dropped, RenderState.next, RenderState.current]
      | some old =>
          refine (Custody.Move.replace p.custody frame old hcurrent hkept).moves_eq ?_
          simp [custody, h, RenderState.dropped, RenderState.next, RenderState.current,
            PacerEffect.act]
  · next h => exact Free.moves_dropQueuedFrames (.of_eq h ⟨rfl, rfl, rfl, by simp⟩)
  · next frameDropTarget frame h =>
      refine (Custody.Move.free p.custody p.vsyncThread.dropped frame []
        (by rw [custody, h]; rfl)).moves_eq ?_
      simp [custody, h, RenderState.dropped, RenderState.next, RenderState.current,
        PacerEffect.act]
  · next h => exact Free.moves_catchUpRendering (.of_eq h ⟨rfl, rfl, rfl, by simp⟩) _
  · exact .refl

/-! ### The destructor -/

theorem moves_drainFrame (h : p.rendererThread = .done) :
    p.custody.Moves p.drainFrame.custody := by
  unfold drainFrame
  split
  · next _ _ _ frame rest hqueue =>
      convert @Custody.Moves.discard _ p.custody [] (rest ++ p.pacingQueue) frame
        (by simp [custody, hqueue]) using 1
      simp [custody, PacerEffect.act]
  · next _ _ _ frame rest hrender hqueue =>
      convert @Custody.Moves.discard _ p.custody [] rest frame
        (by simp [custody, hrender, hqueue]) using 1
      simp [custody, hrender, PacerEffect.act]
  · next frame _ _ hdeferred =>
      refine (Custody.Move.release p.custody frame (by simp [custody, h]) hdeferred).moves_eq ?_
      simp [custody, PacerEffect.act]
  · exact .refl

theorem moves_stepDestructor (h : p.Consistent) : p.custody.Moves p.stepDestructor.custody := by
  unfold stepDestructor
  split
  · split <;> exact .refl
  · dsimp only
    split
    · rw [custody_wakeVsync]
      exact .refl
    · exact .refl
  · split <;> exact .refl
  · next hjoined =>
      dsimp only
      split
      · rw [custody_wakeRenderer]
        exact .refl
      · next hthread =>
          have hidle := h.main_idle (by simpa using hthread) (by simp [hjoined])
          exact Free.moves_finishRendering (p := { p with destructor := .joiningRender })
            (.of_eq hidle ⟨rfl, rfl, rfl, by simp⟩)
  · split <;> exact .refl
  · next hdraining => exact moves_drainFrame (h.render_done (by simp [hdraining]))
  · exact .refl

/-- Whatever a thread does, the frames move. -/
theorem step_moves (h : p.Consistent) (action : PacerAction) :
    p.custody.Moves (p.step action).custody := by
  cases action with
  | submit => exact moves_stepSubmit h
  | vsync => exact moves_stepVsync
  | vsyncTimeout => exact moves_vsyncTimeout
  | render => exact moves_stepRender
  | destroy => exact moves_stepDestructor h

/-! ### Every interleaving -/

theorem custody_initialized (config : PacerConfig) :
    (initialized config).custody = Custody.empty := by
  have hvsync : (if config.vsyncThread then VsyncState.looping else .done).dropped = [] := by
    cases config.vsyncThread <;> rfl
  simp [custody, initialized, hvsync, Custody.empty, RenderState.dropped, RenderState.next,
    RenderState.current]

theorem custody_run (config : PacerConfig) (actions : List PacerAction) :
    ((initialized config).run actions).custody.Inv := by
  induction actions using List.reverseRecOn with
  | nil => exact custody_initialized config ▸ Custody.inv_empty
  | append_singleton actions action ih =>
      rw [run, run_concat]
      exact ih.moves (step_moves (consistent_run config actions) action)

end Pacer

namespace PacerEffect

/-- The frames that were rendered, in order. -/
def rendered (log : List PacerEffect) : List Frame := CustodyAct.used (log.map act)

theorem act_injective : Function.Injective act := by
  intro e e' h
  cases e <;> cases e' <;> simp_all [act]

theorem mem_map_act {log : List PacerEffect} {e : PacerEffect} :
    e.act ∈ log.map act ↔ e ∈ log := List.mem_map_of_injective act_injective

theorem count_free (log : List PacerEffect) (frame : Frame) :
    (CustodyAct.freed (log.map act)).count frame = log.count (.avFrameFree frame) := by
  rw [CustodyAct.count_freed]
  exact List.count_map_of_injective log act act_injective (.avFrameFree frame)

theorem count_render (log : List PacerEffect) (frame : Frame) :
    (rendered log).count frame = log.count (.renderFrame frame) := by
  rw [rendered, CustodyAct.count_used]
  exact List.count_map_of_injective log act act_injective (.renderFrame frame)

end PacerEffect

namespace Pacer

variable {p : Pacer}

/-- When the destructor has returned, no frame is held. -/
theorem Consistent.held_nil (h : p.Consistent) (hreturned : p.destructor = .returned) :
    p.custody.held = [] := by
  obtain ⟨hrender, hpacing, hdeferred⟩ := h.drained hreturned
  have hvsync := h.vsync_done (by simp [hreturned])
  have hdone := h.render_done (by simp [hreturned])
  simp [Custody.held, custody, hrender, hpacing, hdeferred, hvsync, hdone, VsyncState.dropped,
    RenderState.dropped, RenderState.next, RenderState.current]

/-- What may be done with a frame after what was done before. -/
theorem allowed_of_log (h : p.custody.Inv) {before after : List PacerEffect} {e : PacerEffect}
    (hlog : p.log = before ++ e :: after) :
    Custody.Allowed (before.map PacerEffect.act) e.act :=
  h.orderly _ _ (after.map PacerEffect.act) (by simp [custody, hlog])

/-- What has become of the frames, in every state that an interleaving of the threads reaches.
When the destructor has returned, each frame that was submitted is freed, once. A frame is
rendered once at most and not after it was freed, and it stays until the next one is rendered
or the renderer has been told that it will be destroyed. -/
theorem frames_conserved (config : PacerConfig) (actions : List PacerAction) :
    let p := (initialized config).run actions
    (p.destructor = .returned →
      ∀ frame, frame < p.submitted → p.log.count (.avFrameFree frame) = 1) ∧
    (∀ frame, p.log.count (.avFrameFree frame) ≤ 1) ∧
    (∀ frame, p.log.count (.renderFrame frame) ≤ 1) ∧
    (∀ frame before after, p.log = before ++ .renderFrame frame :: after →
      .avFrameFree frame ∉ before) ∧
    (∀ frame before between after,
      p.log = before ++ .renderFrame frame :: (between ++ .avFrameFree frame :: after) →
      (∃ next, .renderFrame next ∈ between) ∨ .cleanupRenderContext ∈ between) ∧
    (.cleanupRenderContext ∈ p.log → p.stopping = true) ∧
    (PacerEffect.rendered p.log).Sublist (List.range p.submitted) := by
  intro p
  have hinv : p.custody.Inv := custody_run config actions
  have hconsistent : p.Consistent := consistent_run config actions
  refine ⟨fun hreturned frame hframe => ?_, fun frame => ?_, fun frame => ?_,
    fun frame before after hlog hfree => ?_, fun frame before between after hlog => ?_,
    hconsistent.cleanup, hinv.used_sublist⟩
  · have hperm := hinv.freed_perm (hconsistent.held_nil hreturned)
    rw [← PacerEffect.count_free, show p.log.map PacerEffect.act = p.custody.log from rfl,
      hperm.count_eq]
    exact List.count_eq_one_of_mem List.nodup_range (List.mem_range.mpr hframe)
  · rw [← PacerEffect.count_free]
    exact List.nodup_iff_count_le_one.mp hinv.freed_nodup frame
  · rw [← PacerEffect.count_render]
    exact List.nodup_iff_count_le_one.mp (hinv.nodup.sublist hinv.used_sublist) frame
  · have hallowed := allowed_of_log hinv hlog
    exact hallowed.2 (PacerEffect.mem_map_act.mpr hfree)
  · rw [show before ++ .renderFrame frame :: (between ++ .avFrameFree frame :: after) =
      (before ++ .renderFrame frame :: between) ++ .avFrameFree frame :: after by simp] at hlog
    have hallowed := allowed_of_log hinv hlog
    rcases hallowed.2 (before.map PacerEffect.act) (between.map PacerEffect.act)
      (by simp [PacerEffect.act]) with ⟨next, hnext⟩ | hclose
    · exact .inl ⟨next, PacerEffect.mem_map_act.mp hnext⟩
    · exact .inr (PacerEffect.mem_map_act.mp hclose)

/-- One frame, from `submitFrame` to the destructor. -/
example :
    let config : PacerConfig := ⟨true, true, true, false, 60, 60, fun _ => rfl⟩
    let p := (initialized config).run [.submit, .submit, .vsync, .vsync, .vsync, .render, .render,
      .render, .render, .destroy, .destroy, .vsync, .destroy, .destroy, .render, .destroy,
      .destroy, .destroy]
    p.destructor = .returned ∧
      p.log = [.renderFrame 0, .cleanupRenderContext, .avFrameFree 0] := by
  decide

end Pacer

end GilStreaming.Streaming
