import GilStreaming.Lib.Trace

/-!
# GilStreaming.Streaming.Pacer

`Pacer` of `ffmpeg-renderers/pacer/pacer.cpp`: the frames between the decoder and the
renderer.

The decoder's thread submits frames, the V-sync thread moves them from the pacing queue to
the render queue, a thread of its own or the main thread renders them, and the destructor
stops the threads and frees what is left. One step of a thread here is what it does under
`m_FrameQueueLock`, or what it does between two such sections, so an interleaving is a list of
`PacerAction`s that says whose step is next. A thread that cannot go on (it waits for a
wake-up, or for another thread) stays where it is.

A frame is the number of frames that were submitted before it. A wait returns `true` after a
wake-up only, and may run out at any time. Where `handleVsync` dequeues from an empty queue,
nothing is known about what follows, and the thread stops there (`VsyncState.undefined`).
-/

namespace GilStreaming.Streaming

/-- `MAX_QUEUED_FRAMES` -/
def maxQueuedFrames : Nat := 3

/-- `PACER_MAX_OUTSTANDING_FRAMES` -/
def pacerMaxOutstandingFrames : Nat := 3 + 1 + 1

/-- A frame: how many were submitted before it. -/
abbrev Frame := Nat

/-- What the renderer and the frames' owner see. -/
inductive PacerEffect where
  /-- `m_VsyncRenderer->renderFrame` -/
  | renderFrame (frame : Frame)
  /-- `av_frame_free` -/
  | avFrameFree (frame : Frame)
  /-- `m_VsyncRenderer->cleanupRenderContext` -/
  | cleanupRenderContext
deriving DecidableEq, Repr

/-- What `initialize` has set up. -/
structure PacerConfig where
  /-- There is an `m_VsyncSource`. -/
  vsyncSource : Bool
  /-- There is an `m_VsyncThread`. -/
  vsyncThread : Bool
  /-- There is an `m_RenderThread`. -/
  renderThread : Bool
  /-- `RENDERER_ATTRIBUTE_NO_BUFFERING` -/
  noBuffering : Bool
  maxVideoFps : Nat
  displayFps : Nat
  source_of_thread : vsyncThread = true → vsyncSource = true

/-- Where `submitFrame` is. -/
inductive SubmitState where
  | idle
  /-- The frame is queued, the lock is released, and the wake-up is still to come. -/
  | waking
deriving DecidableEq, Repr

/-- Where the V-sync thread is. -/
inductive VsyncState where
  /-- In front of the test of `m_Stopping`. -/
  | looping
  /-- In front of the lock of `handleVsync`. -/
  | entering
  /-- With a frame that was dropped to catch up. -/
  | dropping (frameDropTarget : Nat) (frame : Frame)
  /-- In front of the lock that is taken again after the frame was freed. -/
  | relocking (frameDropTarget : Nat)
  /-- In the wait for a frame, and whether it was woken. -/
  | waiting (woken : Bool)
  /-- A frame is in the render queue, and the wake-up is still to come. -/
  | waking
  /-- It has dequeued from an empty queue. -/
  | undefined
  | done
deriving DecidableEq, Repr

/-- Where the render thread is, or the main thread in `renderOnMainThread`. -/
inductive RenderState where
  | looping
  /-- In the wait for a frame, and whether it was woken. -/
  | waiting (woken : Bool)
  /-- In `renderFrame`, in front of the renderer. -/
  | rendering (frame : Frame)
  /-- The frame is rendered, and the one before it is not freed yet. -/
  | rendered (frame : Frame)
  /-- In front of the lock of `renderFrame`. -/
  | locking
  /-- With a frame that was dropped to catch up. -/
  | dropping (frameDropTarget : Nat) (frame : Frame)
  | relocking (frameDropTarget : Nat)
  | done
deriving DecidableEq, Repr

/-- Where the destructor is. -/
inductive DestructorState where
  | notCalled
  /-- `m_Stopping` is set. -/
  | stopping
  /-- In the wait for the V-sync thread. -/
  | joiningVsync
  | joinedVsync
  /-- In the wait for the render thread. -/
  | joiningRender
  /-- In the loops that free the remaining frames. -/
  | draining
  | returned
deriving DecidableEq, Repr

structure Pacer where
  config : PacerConfig
  renderQueue : List Frame
  pacingQueue : List Frame
  pacingQueueHistory : List Nat
  renderQueueHistory : List Nat
  deferredFreeFrame : Option Frame
  stopping : Bool
  submitThread : SubmitState
  vsyncThread : VsyncState
  rendererThread : RenderState
  destructor : DestructorState
  /-- How many frames were submitted. -/
  submitted : Nat
  /-- What was done with the frames. -/
  log : List PacerEffect

/-- `dropFrameForEnqueue`: the queue after it, and the frame that is freed. -/
def dropFrameForEnqueue (queue : List Frame) : List Frame × List PacerEffect :=
  match queue with
  | [] => ([], [])
  | frame :: rest =>
    if queue.length = maxQueuedFrames then (rest, [.avFrameFree frame]) else (queue, [])

/-- A rolling history of the queue's length, of at most `size` entries. -/
def rollHistory (size : Nat) (history : List Nat) (count : Nat) : List Nat :=
  (if history.length = size then history.tail else history) ++ [count]

namespace Pacer

/-- A `Pacer` that has been initialized. -/
def initialized (config : PacerConfig) : Pacer where
  config := config
  renderQueue := []
  pacingQueue := []
  pacingQueueHistory := []
  renderQueueHistory := []
  deferredFreeFrame := none
  stopping := false
  submitThread := .idle
  vsyncThread := if config.vsyncThread then .looping else .done
  rendererThread := .looping
  destructor := .notCalled
  submitted := 0
  log := []

/-- `m_PacingQueueNotEmpty.wakeOne` and `wakeAll`: there is one thread that can wait. -/
def wakeVsync (p : Pacer) : Pacer :=
  match p.vsyncThread with
  | .waiting _ => { p with vsyncThread := .waiting true }
  | _ => p

/-- `m_RenderQueueNotEmpty.wakeOne` and `wakeAll`. -/
def wakeRenderer (p : Pacer) : Pacer :=
  match p.rendererThread with
  | .waiting _ => { p with rendererThread := .waiting true }
  | _ => p

/-- What `enqueueFrameForRenderingAndUnlock` does under the lock. -/
def enqueueFrameForRendering (p : Pacer) (frame : Frame) : Pacer :=
  let (queue, freed) := dropFrameForEnqueue p.renderQueue
  { p with renderQueue := queue ++ [frame], log := p.log ++ freed }

/-- What it does after the lock is released: without a render thread it pushes an event, so
that `renderOnMainThread` is called some time. -/
def wakeForRendering (p : Pacer) : Pacer :=
  if p.config.renderThread then p.wakeRenderer else p

/-! ### `submitFrame` -/

/-- What `submitFrame` does under the lock. -/
def submitFrame (p : Pacer) : Pacer :=
  let frame := p.submitted
  let p := { p with submitted := p.submitted + 1, submitThread := .waking }
  if p.config.vsyncSource then
    let (queue, freed) := dropFrameForEnqueue p.pacingQueue
    { p with pacingQueue := queue ++ [frame], log := p.log ++ freed }
  else p.enqueueFrameForRendering frame

/-- The next step of the thread that submits frames. It is stopped before the destructor is
called. -/
def stepSubmit (p : Pacer) : Pacer :=
  match p.submitThread with
  | .idle => if p.destructor = .notCalled then p.submitFrame else p
  | .waking =>
    let p := { p with submitThread := .idle }
    if p.config.vsyncSource then p.wakeVsync else p.wakeForRendering

/-! ### `handleVsync` -/

/-- Dequeue a frame from the pacing queue and put it into the render queue. -/
def dequeueForRendering (p : Pacer) : Pacer :=
  match p.pacingQueue with
  | [] => { p with vsyncThread := .undefined }
  | frame :: rest =>
    { { p with pacingQueue := rest }.enqueueFrameForRendering frame with vsyncThread := .waking }

/-- The test of the loop that catches up, and what follows it. -/
def catchUpPacing (p : Pacer) (frameDropTarget : Nat) : Pacer :=
  match p.pacingQueue with
  | [] => { p with vsyncThread := .waiting false }
  | frame :: rest =>
    if p.pacingQueue.length > frameDropTarget then
      { p with pacingQueue := rest, vsyncThread := .dropping frameDropTarget frame }
    else p.dequeueForRendering

/-- The beginning of `handleVsync`. -/
def handleVsync (p : Pacer) : Pacer :=
  if p.config.maxVideoFps ≥ p.config.displayFps then
    let frameDropTarget := if p.pacingQueueHistory.any (· ≤ 1) then 3 else 1
    { p with
      pacingQueueHistory := rollHistory (p.config.displayFps / 2) p.pacingQueueHistory
        p.pacingQueue.length }.catchUpPacing frameDropTarget
  else p.catchUpPacing 1

/-- The next step of the V-sync thread. -/
def stepVsync (p : Pacer) : Pacer :=
  match p.vsyncThread with
  | .looping => { p with vsyncThread := if p.stopping then .done else .entering }
  | .entering => p.handleVsync
  | .dropping frameDropTarget frame =>
    { p with vsyncThread := .relocking frameDropTarget, log := p.log ++ [.avFrameFree frame] }
  | .relocking frameDropTarget => p.catchUpPacing frameDropTarget
  | .waiting woken =>
    if !woken then p
    else if p.stopping then { p with vsyncThread := .looping }
    else p.dequeueForRendering
  | .waking => { p with vsyncThread := .looping }.wakeForRendering
  | .undefined => p
  | .done => p

/-- The wait of the V-sync thread runs out. -/
def vsyncTimeout (p : Pacer) : Pacer :=
  match p.vsyncThread with
  | .waiting _ => { p with vsyncThread := .looping }
  | _ => p

/-! ### `renderFrame` -/

/-- The end of the render thread. -/
def finishRendering (p : Pacer) : Pacer :=
  { p with rendererThread := .done, log := p.log ++ [.cleanupRenderContext] }

/-- What `renderThread` does under the lock. It tests `m_Stopping` in front of the lock too,
and does the same then. -/
def acquireFrame (p : Pacer) : Pacer :=
  if p.stopping then p.finishRendering
  else
    match p.renderQueue with
    | [] => { p with rendererThread := .waiting false }
    | frame :: rest => { p with renderQueue := rest, rendererThread := .rendering frame }

/-- What `renderOnMainThread` does under the lock. -/
def renderOnMainThread (p : Pacer) : Pacer :=
  match p.renderQueue with
  | [] => p
  | frame :: rest => { p with renderQueue := rest, rendererThread := .rendering frame }

/-- The test of the loop that catches up, and what follows it. -/
def catchUpRendering (p : Pacer) (frameDropTarget : Nat) : Pacer :=
  match p.renderQueue with
  | [] => { p with rendererThread := .looping }
  | frame :: rest =>
    if p.renderQueue.length > frameDropTarget then
      { p with renderQueue := rest, rendererThread := .dropping frameDropTarget frame }
    else { p with rendererThread := .looping }

/-- The end of `renderFrame`, from the lock on. -/
def dropQueuedFrames (p : Pacer) : Pacer :=
  if p.config.noBuffering then p.catchUpRendering 1
  else
    let frameDropTarget := if p.renderQueueHistory.any (· = 0) then 2 else 0
    { p with
      renderQueueHistory := rollHistory (p.config.maxVideoFps / 2) p.renderQueueHistory
        p.renderQueue.length }.catchUpRendering frameDropTarget

/-- The next step of the thread that renders. The main thread renders only before it calls
the destructor. -/
def stepRender (p : Pacer) : Pacer :=
  match p.rendererThread with
  | .looping =>
    if p.config.renderThread then p.acquireFrame
    else if p.destructor = .notCalled then p.renderOnMainThread
    else p
  | .waiting woken => if !woken then p else p.acquireFrame
  | .rendering frame =>
    { p with rendererThread := .rendered frame, log := p.log ++ [.renderFrame frame] }
  | .rendered frame =>
    { p with
      rendererThread := .locking
      deferredFreeFrame := some frame
      log := p.log ++ (p.deferredFreeFrame.map PacerEffect.avFrameFree).toList }
  | .locking => p.dropQueuedFrames
  | .dropping frameDropTarget frame =>
    { p with rendererThread := .relocking frameDropTarget, log := p.log ++ [.avFrameFree frame] }
  | .relocking frameDropTarget => p.catchUpRendering frameDropTarget
  | .done => p

/-! ### The destructor -/

/-- The loops at the end of the destructor, one frame a step. -/
def drainFrame (p : Pacer) : Pacer :=
  match p.renderQueue, p.pacingQueue, p.deferredFreeFrame with
  | frame :: rest, _, _ => { p with renderQueue := rest, log := p.log ++ [.avFrameFree frame] }
  | [], frame :: rest, _ => { p with pacingQueue := rest, log := p.log ++ [.avFrameFree frame] }
  | [], [], some frame =>
    { p with deferredFreeFrame := none, log := p.log ++ [.avFrameFree frame] }
  | [], [], none => { p with destructor := .returned }

/-- The next step of the destructor. It is called when no frame is being submitted, or
rendered on the main thread. -/
def stepDestructor (p : Pacer) : Pacer :=
  match p.destructor with
  | .notCalled =>
    if p.submitThread = .idle ∧ (p.config.renderThread = true ∨ p.rendererThread = .looping) then
      { p with stopping := true, destructor := .stopping }
    else p
  | .stopping =>
    let p := { p with destructor := .joiningVsync }
    if p.config.vsyncThread then p.wakeVsync else p
  | .joiningVsync =>
    if p.vsyncThread = .done then { p with destructor := .joinedVsync } else p
  | .joinedVsync =>
    let p := { p with destructor := .joiningRender }
    if p.config.renderThread then p.wakeRenderer else p.finishRendering
  | .joiningRender =>
    if p.rendererThread = .done then { p with destructor := .draining } else p
  | .draining => p.drainFrame
  | .returned => p

/-! ### The runs -/

end Pacer

/-- Whose step is next. -/
inductive PacerAction where
  | submit
  | vsync
  | vsyncTimeout
  | render
  | destroy
deriving DecidableEq, Repr

namespace Pacer

def step (p : Pacer) : PacerAction → Pacer
  | .submit => p.stepSubmit
  | .vsync => p.stepVsync
  | .vsyncTimeout => p.vsyncTimeout
  | .render => p.stepRender
  | .destroy => p.stepDestructor

/-- The `Pacer` after an interleaving. -/
abbrev run (p : Pacer) (actions : List PacerAction) : Pacer := Trace.run step p actions

end Pacer

end GilStreaming.Streaming
