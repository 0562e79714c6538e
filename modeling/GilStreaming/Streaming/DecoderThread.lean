import GilStreaming.Lib.Pipeline
import GilStreaming.Lib.Trace

/-!
# GilStreaming.Streaming.DecoderThread

`decoderThreadProc` and `submitDecodeUnit` of `ffmpeg.cpp`: the decode units that go into
the decoder, and the timing that the frames get on their way to `Pacer`.

`m_FrameInfoQueue` holds the decode units that were sent, and each frame that comes out
takes the head of the queue. One step is one call of the thread and what it does with the
result, so a run is a list of `DecoderEvent`s. The codec is a `Pipeline`: it returns the
frames of the packets it accepted in order, and an error of `avcodec_receive_frame` may
lose one of them.
-/

namespace GilStreaming.Streaming

/-- `FAILED_DECODES_RESET_THRESHOLD` -/
def failedDecodesResetThreshold : Nat := 20

inductive FrameType where
  | pframe
  | idr
deriving DecidableEq, Repr

/-- `DECODE_UNIT`, without its buffers. -/
structure DecodeUnit where
  frameNumber : Int
  frameType : FrameType
  frameHostProcessingLatency : UInt16
  receiveTimeUs : UInt64
  enqueueTimeUs : UInt64
  rtpTimestamp : UInt32
deriving DecidableEq, Repr

/-- What `submitDecodeUnit` tells `LiCompleteVideoFrame`. -/
inductive DrStatus where
  | ok
  | needIdr
deriving DecidableEq, Repr

/-- The counters, the time sums and the host latencies of `VIDEO_STATS`. -/
structure VideoCounts where
  receivedFrames : UInt32
  decodedFrames : UInt32
  renderedFrames : UInt32
  totalFrames : UInt32
  networkDroppedFrames : UInt32
  pacerDroppedFrames : UInt32
  /-- Zero if there was none. -/
  minHostProcessingLatency : UInt16
  maxHostProcessingLatency : UInt16
  totalHostProcessingLatency : UInt32
  framesWithHostProcessingLatency : UInt32
  totalReassemblyTimeUs : UInt64
  totalDecodeTimeUs : UInt64
  totalPacerTimeUs : UInt64
  totalRenderTimeUs : UInt64
deriving DecidableEq, Repr

/-- `VIDEO_STATS` -/
structure VideoStats extends VideoCounts where
  measurementStartUs : UInt64
deriving DecidableEq, Repr

def qMin (a b : UInt16) : UInt16 := if a < b then a else b

def qMax (a b : UInt16) : UInt16 := if a < b then b else a

/-- The smaller one of two latencies, where zero is none. -/
def leastLatency (dst src : UInt16) : UInt16 :=
  if dst = 0 then src else if src ≠ 0 then qMin dst src else dst

namespace VideoCounts

def zero : VideoCounts := ⟨0, 0, 0, 0, 0, 0, 0, 0, 0, 0, 0, 0, 0, 0⟩

/-- `addVideoStats`, for the fields that are added up. -/
def addVideoCounts (src dst : VideoCounts) : VideoCounts where
  receivedFrames := dst.receivedFrames + src.receivedFrames
  decodedFrames := dst.decodedFrames + src.decodedFrames
  renderedFrames := dst.renderedFrames + src.renderedFrames
  totalFrames := dst.totalFrames + src.totalFrames
  networkDroppedFrames := dst.networkDroppedFrames + src.networkDroppedFrames
  pacerDroppedFrames := dst.pacerDroppedFrames + src.pacerDroppedFrames
  totalReassemblyTimeUs := dst.totalReassemblyTimeUs + src.totalReassemblyTimeUs
  totalDecodeTimeUs := dst.totalDecodeTimeUs + src.totalDecodeTimeUs
  totalPacerTimeUs := dst.totalPacerTimeUs + src.totalPacerTimeUs
  totalRenderTimeUs := dst.totalRenderTimeUs + src.totalRenderTimeUs
  minHostProcessingLatency :=
    leastLatency dst.minHostProcessingLatency src.minHostProcessingLatency
  maxHostProcessingLatency := qMax dst.maxHostProcessingLatency src.maxHostProcessingLatency
  totalHostProcessingLatency := dst.totalHostProcessingLatency + src.totalHostProcessingLatency
  framesWithHostProcessingLatency :=
    dst.framesWithHostProcessingLatency + src.framesWithHostProcessingLatency

end VideoCounts

namespace VideoStats

/-- `SDL_zero` -/
def zero : VideoStats := ⟨.zero, 0⟩

def addVideoStats (src dst : VideoStats) : VideoStats where
  toVideoCounts := src.toVideoCounts.addVideoCounts dst.toVideoCounts
  measurementStartUs :=
    if dst.measurementStartUs = 0 then src.measurementStartUs else dst.measurementStartUs

/-- What the thread counts of a frame and its decode unit. -/
def countDecodedFrame (stats : VideoStats) (decodeTimeUs : UInt64) : VideoStats :=
  { stats with
    totalDecodeTimeUs := stats.totalDecodeTimeUs + decodeTimeUs
    decodedFrames := stats.decodedFrames + 1 }

end VideoStats

/-- A decode unit that `submitDecodeUnit` is called with, and what the call meets. -/
structure Submission where
  du : DecodeUnit
  /-- `avcodec_send_packet` returns no error. -/
  sent : Bool
  /-- What `LiGetMicroseconds` returns, call after call. -/
  startUs : UInt64
  nowUs : UInt64
  flippedUs : UInt64
deriving DecidableEq, Repr

/-- What `avcodec_receive_frame` returns. -/
inductive ReceiveResult where
  /-- A frame, and what `LiGetMicroseconds` returns afterwards, the first time and the next. -/
  | frame (pktDts receivedUs : UInt64)
  | eagain
  /-- An error that loses the frame with so many older ones in front of it, or none. -/
  | error (lost : Option Nat)
deriving DecidableEq, Repr

/-- A frame that `Pacer` is handed. -/
structure SubmittedFrame where
  /-- The place of its packet among those the codec accepted. -/
  packet : Nat
  pktDts : UInt64
  /-- Where `LiGetMicroseconds` stands when the decode time is taken. -/
  receivedUs : UInt64
  pts : Option Int
  /-- What the frame adds to `totalDecodeTimeUs`. -/
  decodeTimeUs : Option UInt64
deriving DecidableEq, Repr

/-- What the thread tells the rest of the client. -/
inductive DecoderEffect where
  /-- `LiCompleteVideoFrame` -/
  | completeVideoFrame (status : DrStatus)
  /-- `LiRequestIdrFrame` -/
  | requestIdrFrame
  /-- `SDL_PushEvent` of `SDL_RENDER_DEVICE_RESET` -/
  | renderDeviceReset
deriving DecidableEq, Repr

/-- Where the decoder thread is. -/
inductive DecoderThreadState where
  /-- In front of the test of the outer loop. -/
  | looping
  /-- In `LiWaitForNextVideoFrame`. -/
  | waiting
  /-- In front of `av_frame_alloc`. -/
  | allocating
  /-- In front of `avcodec_receive_frame`. -/
  | receiving
  /-- In front of `LiPollNextVideoFrame`. -/
  | polling
  /-- In front of the test of the inner loop, after an `EAGAIN`. -/
  | retrying
  | done
deriving DecidableEq, Repr

structure FFmpegVideoDecoder where
  decoderThread : DecoderThreadState
  decoderThreadShouldQuit : Bool
  videoDecoderCtx : Pipeline DecodeUnit
  consecutiveFailedDecodes : Nat
  framesIn : Nat
  framesOut : Nat
  lastFrameNumber : Int
  frameInfoQueue : List DecodeUnit
  activeWndVideoStats : VideoStats
  lastWndVideoStats : VideoStats
  globalVideoStats : VideoStats
  /-- The frames `m_Pacer` was handed. -/
  submitted : List SubmittedFrame
  effects : List DecoderEffect

/-- What the thread meets in a step. -/
inductive DecoderEvent where
  /-- The main thread sets `m_DecoderThreadShouldQuit`. -/
  | quit
  /-- The thread reads `m_DecoderThreadShouldQuit`. -/
  | test
  /-- `LiWaitForNextVideoFrame` or `LiPollNextVideoFrame` returns. -/
  | nextVideoFrame (u : Option Submission)
  /-- `av_frame_alloc` returns. -/
  | allocFrame (ok : Bool)
  /-- `avcodec_receive_frame` returns. -/
  | receiveFrame (result : ReceiveResult)
deriving DecidableEq, Repr

namespace FFmpegVideoDecoder

/-- The constructor, with a new codec. -/
def constructed : FFmpegVideoDecoder where
  decoderThread := .done
  decoderThreadShouldQuit := false
  videoDecoderCtx := .empty
  consecutiveFailedDecodes := 0
  framesIn := 0
  framesOut := 0
  lastFrameNumber := 0
  frameInfoQueue := []
  activeWndVideoStats := .zero
  lastWndVideoStats := .zero
  globalVideoStats := .zero
  submitted := []
  effects := []

/-- `reset`, and the codec, the `Pacer` and the thread of `completeInitialization`. -/
def reset (d : FFmpegVideoDecoder) : FFmpegVideoDecoder :=
  { d with
    decoderThread := .looping
    decoderThreadShouldQuit := false
    videoDecoderCtx := .empty
    framesIn := 0
    framesOut := 0
    frameInfoQueue := []
    submitted := [] }

/-- The statistics of `submitDecodeUnit` up to the test of the window. -/
def countDroppedFrames (d : FFmpegVideoDecoder) (u : Submission) : FFmpegVideoDecoder :=
  let stats := d.activeWndVideoStats
  if d.lastFrameNumber = 0 then
    { d with
      activeWndVideoStats := { stats with measurementStartUs := u.startUs }
      lastFrameNumber := u.du.frameNumber }
  else
    let dropped := UInt32.ofInt (u.du.frameNumber - (d.lastFrameNumber + 1))
    { d with
      activeWndVideoStats :=
        { stats with
          networkDroppedFrames := stats.networkDroppedFrames + dropped
          totalFrames := stats.totalFrames + dropped }
      lastFrameNumber := u.du.frameNumber }

/-- Flip stats windows roughly every second. -/
def flipStatsWindow (d : FFmpegVideoDecoder) (u : Submission) : FFmpegVideoDecoder :=
  if u.nowUs > d.activeWndVideoStats.measurementStartUs + 1000000 then
    { d with
      globalVideoStats := d.activeWndVideoStats.addVideoStats d.globalVideoStats
      lastWndVideoStats := d.activeWndVideoStats
      activeWndVideoStats := { VideoStats.zero with measurementStartUs := u.flippedUs } }
  else d

/-- The statistics of `submitDecodeUnit` after the test of the window. -/
def countReceivedFrame (d : FFmpegVideoDecoder) (du : DecodeUnit) : FFmpegVideoDecoder :=
  let stats := d.activeWndVideoStats
  let latency := du.frameHostProcessingLatency
  { d with
    activeWndVideoStats :=
      { stats with
        minHostProcessingLatency :=
          if latency = 0 then stats.minHostProcessingLatency
          else if stats.minHostProcessingLatency ≠ 0 then
            qMin stats.minHostProcessingLatency latency
          else latency
        framesWithHostProcessingLatency :=
          if latency = 0 then stats.framesWithHostProcessingLatency
          else stats.framesWithHostProcessingLatency + 1
        maxHostProcessingLatency := qMax stats.maxHostProcessingLatency latency
        totalHostProcessingLatency := stats.totalHostProcessingLatency + latency.toUInt32
        receivedFrames := stats.receivedFrames + 1
        totalFrames := stats.totalFrames + 1
        totalReassemblyTimeUs :=
          stats.totalReassemblyTimeUs + (du.enqueueTimeUs - du.receiveTimeUs) } }

/-- A decode failed: after many in a row the event loop is to recreate the decoder. -/
def failDecode (d : FFmpegVideoDecoder) : FFmpegVideoDecoder :=
  let failed := d.consecutiveFailedDecodes + 1
  if failed = failedDecodesResetThreshold then
    { d with
      consecutiveFailedDecodes := failed
      decoderThreadShouldQuit := true
      effects := d.effects ++ [.renderDeviceReset] }
  else { d with consecutiveFailedDecodes := failed }

/-- The statistics of `submitDecodeUnit`. -/
def countDecodeUnit (d : FFmpegVideoDecoder) (u : Submission) : FFmpegVideoDecoder :=
  ((d.countDroppedFrames u).flipStatsWindow u).countReceivedFrame u.du

/-- The end of `submitDecodeUnit`, after the packet was sent. -/
def enqueueDecodeUnit (d : FFmpegVideoDecoder) (du : DecodeUnit) : FFmpegVideoDecoder :=
  { d with
    videoDecoderCtx := d.videoDecoderCtx.accept du
    frameInfoQueue := d.frameInfoQueue ++ [du]
    framesIn := d.framesIn + 1 }

def submitDecodeUnit (d : FFmpegVideoDecoder) (u : Submission) : DrStatus × FFmpegVideoDecoder :=
  if d.framesIn = 0 ∧ u.du.frameType ≠ .idr then (.needIdr, d)
  else if !u.sent then (.needIdr, (d.countDecodeUnit u).failDecode)
  else (.ok, (d.countDecodeUnit u).enqueueDecodeUnit u.du)

/-- `LiCompleteVideoFrame(handle, submitDecodeUnit(du))` -/
def completeVideoFrame (d : FFmpegVideoDecoder) (u : Submission) : FFmpegVideoDecoder :=
  let (status, d') := d.submitDecodeUnit u
  { d' with effects := d'.effects ++ [.completeVideoFrame status] }

/-- The branch of `avcodec_receive_frame` that has a frame, of the packet at place `packet`. -/
def submitFrame (d : FFmpegVideoDecoder) (packet : Nat) (pktDts receivedUs : UInt64) :
    FFmpegVideoDecoder :=
  let stats := d.activeWndVideoStats
  let received :=
    { d with
      videoDecoderCtx := d.videoDecoderCtx.receive
      framesOut := d.framesOut + 1
      consecutiveFailedDecodes := 0 }
  match d.frameInfoQueue with
  | [] =>
    { received with
      activeWndVideoStats := { stats with decodedFrames := stats.decodedFrames + 1 }
      submitted := d.submitted ++ [⟨packet, pktDts, receivedUs, none, none⟩] }
  | du :: frameInfoQueue =>
    let decodeTimeUs := receivedUs - du.enqueueTimeUs
    { received with
      frameInfoQueue
      activeWndVideoStats := stats.countDecodedFrame decodeTimeUs
      submitted := d.submitted ++
        [⟨packet, pktDts, receivedUs, some du.rtpTimestamp.toNat, some decodeTimeUs⟩] }

/-- The branch of `avcodec_receive_frame` that has an error. The head of `m_FrameInfoQueue`
stays where it is. -/
def receiveFailed (d : FFmpegVideoDecoder) (lost : Option Nat) : FFmpegVideoDecoder :=
  let failed := d.failDecode
  { failed with
    videoDecoderCtx :=
      match lost with
      | none => failed.videoDecoderCtx
      | some i => failed.videoDecoderCtx.lose i
    effects := failed.effects ++ [.requestIdrFrame] }

/-- One call of `decoderThreadProc`, or the main thread's. -/
def step (d : FFmpegVideoDecoder) (e : DecoderEvent) : FFmpegVideoDecoder :=
  match d.decoderThread, e with
  | _, .quit => { d with decoderThreadShouldQuit := true }
  | .looping, .test =>
    if d.decoderThreadShouldQuit then { d with decoderThread := .done }
    else if d.framesIn = d.framesOut then { d with decoderThread := .waiting }
    else { d with decoderThread := .allocating }
  | .waiting, .nextVideoFrame none => { d with decoderThread := .looping }
  | .waiting, .nextVideoFrame (some u) =>
    let d' := d.completeVideoFrame u
    { d' with decoderThread := if d'.framesIn = d'.framesOut then .looping else .allocating }
  | .allocating, .allocFrame ok =>
    { d with decoderThread := if ok then .receiving else .looping }
  | .receiving, .receiveFrame (.frame pktDts receivedUs) =>
    match d.videoDecoderCtx.pending with
    -- a codec with no packet inside has no frame to return
    | [] => d
    | packet :: _ => { d.submitFrame packet pktDts receivedUs with decoderThread := .looping }
  | .receiving, .receiveFrame .eagain => { d with decoderThread := .polling }
  | .receiving, .receiveFrame (.error lost) =>
    { d.receiveFailed lost with decoderThread := .looping }
  | .polling, .nextVideoFrame none => { d with decoderThread := .retrying }
  | .polling, .nextVideoFrame (some u) =>
    { d.completeVideoFrame u with decoderThread := .retrying }
  | .retrying, .test =>
    { d with decoderThread := if d.decoderThreadShouldQuit then .looping else .receiving }
  | _, _ => d

end FFmpegVideoDecoder

end GilStreaming.Streaming
