import GilStreaming.Streaming.DecoderThread
import Mathlib.Algebra.Group.Defs

/-!
# GilStreaming.Streaming.VideoWindows

The video statistics of `ffmpeg.cpp`, which are counted in windows of about a second.

`addVideoStats` adds the counters of a window to those of others. With it `VideoCounts` is
a commutative monoid (the smallest latency has zero for no value, so zero is neutral), and
whatever is counted adds the counts of one event to the active window. A flip moves the
active window into the global one, so what the two are together is the sum over all
events, wherever the flips are.
-/

namespace GilStreaming.Streaming

/-! ### Adding counts -/

theorem qMin_comm (a b : UInt16) : qMin a b = qMin b a := by
  unfold qMin
  grind

theorem qMax_comm (a b : UInt16) : qMax a b = qMax b a := by
  unfold qMax
  grind

theorem qMax_assoc (a b c : UInt16) : qMax (qMax a b) c = qMax a (qMax b c) := by
  unfold qMax
  grind

theorem leastLatency_zero (a : UInt16) : leastLatency a 0 = a := by
  unfold leastLatency
  grind

theorem leastLatency_comm (a b : UInt16) : leastLatency a b = leastLatency b a := by
  unfold leastLatency
  have := qMin_comm a b
  grind

theorem leastLatency_assoc (a b c : UInt16) :
    leastLatency (leastLatency a b) c = leastLatency a (leastLatency b c) := by
  unfold leastLatency qMin
  grind

namespace VideoCounts

theorem addVideoCounts_zero (c : VideoCounts) : zero.addVideoCounts c = c := by
  have hmax : qMax c.maxHostProcessingLatency 0 = c.maxHostProcessingLatency := by
    unfold qMax
    grind
  simp only [addVideoCounts, zero, UInt32.add_zero, UInt64.add_zero, hmax, leastLatency_zero]

theorem addVideoCounts_comm (a b : VideoCounts) : a.addVideoCounts b = b.addVideoCounts a := by
  unfold addVideoCounts
  congr 1
  all_goals first | exact UInt32.add_comm _ _ | exact UInt64.add_comm _ _ | skip
  · exact leastLatency_comm _ _
  · exact qMax_comm _ _

theorem addVideoCounts_assoc (a b c : VideoCounts) :
    c.addVideoCounts (b.addVideoCounts a) = (c.addVideoCounts b).addVideoCounts a := by
  unfold addVideoCounts
  congr 1
  all_goals first | exact UInt32.add_assoc _ _ _ | exact UInt64.add_assoc _ _ _ | skip
  · exact leastLatency_assoc _ _ _
  · exact qMax_assoc _ _ _

/-- Adding up as `addVideoStats` does it. -/
instance : Add VideoCounts := ⟨fun dst src => src.addVideoCounts dst⟩

instance : Zero VideoCounts := ⟨zero⟩

theorem add_eq (dst src : VideoCounts) : dst + src = src.addVideoCounts dst := rfl

instance : AddCommMonoid VideoCounts where
  add_assoc := addVideoCounts_assoc
  zero_add c := (addVideoCounts_comm c zero).trans (addVideoCounts_zero c)
  add_zero := addVideoCounts_zero
  add_comm a b := addVideoCounts_comm b a
  nsmul := nsmulRec

end VideoCounts

/-! ### What an event counts -/

/-- What adds to the video statistics. -/
inductive StatsEvent where
  /-- `submitDecodeUnit` counts a decode unit, and may flip the window. -/
  | received (u : Submission)
  /-- A frame is handed to `Pacer`. -/
  | decoded (decodeTimeUs : UInt64)
  /-- `Pacer` drops a frame. -/
  | pacerDropped
  /-- `Pacer` has a frame rendered. -/
  | rendered (pacerTimeUs renderTimeUs : UInt64)
deriving DecidableEq, Repr

/-- `m_VideoStats->pacerDroppedFrames++` -/
def VideoStats.countPacerDrop (stats : VideoStats) : VideoStats :=
  { stats with pacerDroppedFrames := stats.pacerDroppedFrames + 1 }

/-- The statistics of `Pacer::renderFrame`. -/
def VideoStats.countRenderedFrame (stats : VideoStats) (pacerTimeUs renderTimeUs : UInt64) :
    VideoStats :=
  { stats with
    totalPacerTimeUs := stats.totalPacerTimeUs + pacerTimeUs
    totalRenderTimeUs := stats.totalRenderTimeUs + renderTimeUs
    renderedFrames := stats.renderedFrames + 1 }

namespace FFmpegVideoDecoder

def countEvent (d : FFmpegVideoDecoder) : StatsEvent → FFmpegVideoDecoder
  | .received u => d.countDecodeUnit u
  | .decoded decodeTimeUs =>
    { d with activeWndVideoStats := d.activeWndVideoStats.countDecodedFrame decodeTimeUs }
  | .pacerDropped => { d with activeWndVideoStats := d.activeWndVideoStats.countPacerDrop }
  | .rendered pacerTimeUs renderTimeUs =>
    { d with
      activeWndVideoStats :=
        d.activeWndVideoStats.countRenderedFrame pacerTimeUs renderTimeUs }

/-- The active window, merged into the finished ones. -/
def mergedVideoStats (d : FFmpegVideoDecoder) : VideoStats :=
  d.activeWndVideoStats.addVideoStats d.globalVideoStats

theorem mergedVideoStats_counts (d : FFmpegVideoDecoder) :
    d.mergedVideoStats.toVideoCounts =
      d.globalVideoStats.toVideoCounts + d.activeWndVideoStats.toVideoCounts := rfl

end FFmpegVideoDecoder

/-- The number of frames between two frame numbers, where zero is none. -/
def framesBetween (lastFrameNumber frameNumber : Int) : Int :=
  if lastFrameNumber = 0 then 0 else frameNumber - (lastFrameNumber + 1)

def droppedCounts (dropped : UInt32) : VideoCounts :=
  { VideoCounts.zero with networkDroppedFrames := dropped, totalFrames := dropped }

def receivedCounts (du : DecodeUnit) : VideoCounts :=
  { VideoCounts.zero with
    receivedFrames := 1
    totalFrames := 1
    minHostProcessingLatency := du.frameHostProcessingLatency
    maxHostProcessingLatency := du.frameHostProcessingLatency
    totalHostProcessingLatency := du.frameHostProcessingLatency.toUInt32
    framesWithHostProcessingLatency := if du.frameHostProcessingLatency = 0 then 0 else 1
    totalReassemblyTimeUs := du.enqueueTimeUs - du.receiveTimeUs }

/-- What an event counts, after the decode unit with `lastFrameNumber`. -/
def eventCounts (lastFrameNumber : Int) : StatsEvent → VideoCounts
  | .received u =>
    droppedCounts (UInt32.ofInt (framesBetween lastFrameNumber u.du.frameNumber)) +
      receivedCounts u.du
  | .decoded decodeTimeUs =>
    { VideoCounts.zero with totalDecodeTimeUs := decodeTimeUs, decodedFrames := 1 }
  | .pacerDropped => { VideoCounts.zero with pacerDroppedFrames := 1 }
  | .rendered pacerTimeUs renderTimeUs =>
    { VideoCounts.zero with
      totalPacerTimeUs := pacerTimeUs
      totalRenderTimeUs := renderTimeUs
      renderedFrames := 1 }

namespace VideoStats

variable (stats : VideoStats)

theorem qMax_zero (a : UInt16) : qMax a 0 = a := by
  unfold qMax
  grind

theorem countDecodedFrame_counts (decodeTimeUs : UInt64) (last : Int) :
    (stats.countDecodedFrame decodeTimeUs).toVideoCounts =
      stats.toVideoCounts + eventCounts last (.decoded decodeTimeUs) := by
  simp [VideoCounts.add_eq, VideoCounts.addVideoCounts, eventCounts, VideoCounts.zero,
    countDecodedFrame, leastLatency_zero, qMax_zero]

theorem countPacerDrop_counts (last : Int) :
    stats.countPacerDrop.toVideoCounts = stats.toVideoCounts + eventCounts last .pacerDropped := by
  simp [VideoCounts.add_eq, VideoCounts.addVideoCounts, eventCounts, VideoCounts.zero,
    countPacerDrop, leastLatency_zero, qMax_zero]

theorem countRenderedFrame_counts (pacerTimeUs renderTimeUs : UInt64) (last : Int) :
    (stats.countRenderedFrame pacerTimeUs renderTimeUs).toVideoCounts =
      stats.toVideoCounts + eventCounts last (.rendered pacerTimeUs renderTimeUs) := by
  simp [VideoCounts.add_eq, VideoCounts.addVideoCounts, eventCounts, VideoCounts.zero,
    countRenderedFrame, leastLatency_zero, qMax_zero]

end VideoStats

namespace FFmpegVideoDecoder

variable (d : FFmpegVideoDecoder)

theorem countDroppedFrames_merged (u : Submission) :
    (d.countDroppedFrames u).mergedVideoStats.toVideoCounts =
      d.mergedVideoStats.toVideoCounts +
        droppedCounts (UInt32.ofInt (framesBetween d.lastFrameNumber u.du.frameNumber)) := by
  have hcounts : (d.countDroppedFrames u).activeWndVideoStats.toVideoCounts =
      d.activeWndVideoStats.toVideoCounts +
        droppedCounts (UInt32.ofInt (framesBetween d.lastFrameNumber u.du.frameNumber)) := by
    by_cases hfirst : d.lastFrameNumber = 0
    · have hzero : UInt32.ofInt 0 = 0 := rfl
      simp [countDroppedFrames, framesBetween, droppedCounts, hfirst, hzero, VideoCounts.add_eq,
        VideoCounts.addVideoCounts, VideoCounts.zero, leastLatency_zero, VideoStats.qMax_zero]
    · simp [countDroppedFrames, framesBetween, droppedCounts, hfirst, VideoCounts.add_eq,
        VideoCounts.addVideoCounts, VideoCounts.zero, leastLatency_zero, VideoStats.qMax_zero]
  have hglobal : (d.countDroppedFrames u).globalVideoStats = d.globalVideoStats := by
    simp only [countDroppedFrames]
    split <;> rfl
  rw [mergedVideoStats_counts, mergedVideoStats_counts, hcounts, hglobal, add_assoc]

theorem flipStatsWindow_merged (u : Submission) :
    (d.flipStatsWindow u).mergedVideoStats.toVideoCounts = d.mergedVideoStats.toVideoCounts := by
  unfold flipStatsWindow
  split
  · -- the counts of the new window are zero
    exact add_zero (d.globalVideoStats.toVideoCounts + d.activeWndVideoStats.toVideoCounts)
  · rfl

theorem countReceivedFrame_merged (du : DecodeUnit) :
    (d.countReceivedFrame du).mergedVideoStats.toVideoCounts =
      d.mergedVideoStats.toVideoCounts + receivedCounts du := by
  have hcounts : (d.countReceivedFrame du).activeWndVideoStats.toVideoCounts =
      d.activeWndVideoStats.toVideoCounts + receivedCounts du := by
    by_cases hnone : du.frameHostProcessingLatency = 0
    · simp [countReceivedFrame, receivedCounts, hnone, VideoCounts.add_eq,
        VideoCounts.addVideoCounts, VideoCounts.zero, leastLatency_zero]
    · have hleast : (if d.activeWndVideoStats.minHostProcessingLatency = 0 then
            du.frameHostProcessingLatency
          else qMin d.activeWndVideoStats.minHostProcessingLatency du.frameHostProcessingLatency) =
          leastLatency d.activeWndVideoStats.minHostProcessingLatency
            du.frameHostProcessingLatency := by
        simp [leastLatency, hnone]
      simp [countReceivedFrame, receivedCounts, hnone, hleast, VideoCounts.add_eq,
        VideoCounts.addVideoCounts, VideoCounts.zero]
  have hglobal : (d.countReceivedFrame du).globalVideoStats = d.globalVideoStats := rfl
  rw [mergedVideoStats_counts, mergedVideoStats_counts, hcounts, hglobal, add_assoc]

theorem countDecodeUnit_merged (u : Submission) :
    (d.countDecodeUnit u).mergedVideoStats.toVideoCounts =
      d.mergedVideoStats.toVideoCounts + eventCounts d.lastFrameNumber (.received u) := by
  rw [countDecodeUnit, countReceivedFrame_merged, flipStatsWindow_merged,
    countDroppedFrames_merged, eventCounts, add_assoc]

/-- **One event.** What it counts is added, whether or not the window is flipped. -/
theorem countEvent_merged (e : StatsEvent) :
    (d.countEvent e).mergedVideoStats.toVideoCounts =
      d.mergedVideoStats.toVideoCounts + eventCounts d.lastFrameNumber e := by
  cases e with
  | received u => exact countDecodeUnit_merged d u
  | decoded decodeTimeUs =>
      have hcounts := d.activeWndVideoStats.countDecodedFrame_counts decodeTimeUs d.lastFrameNumber
      rw [mergedVideoStats_counts, mergedVideoStats_counts, add_assoc, ← hcounts]
      rfl
  | pacerDropped =>
      have hcounts := d.activeWndVideoStats.countPacerDrop_counts d.lastFrameNumber
      rw [mergedVideoStats_counts, mergedVideoStats_counts, add_assoc, ← hcounts]
      rfl
  | rendered pacerTimeUs renderTimeUs =>
      have hcounts := d.activeWndVideoStats.countRenderedFrame_counts pacerTimeUs renderTimeUs
        d.lastFrameNumber
      rw [mergedVideoStats_counts, mergedVideoStats_counts, add_assoc, ← hcounts]
      rfl

end FFmpegVideoDecoder

/-! ### Streams -/

/-- The frame number of the decode unit that an event counts. -/
def StatsEvent.frameNumber : StatsEvent → Option Int
  | .received u => some u.du.frameNumber
  | _ => none

/-- What the events count together, after the decode unit with `lastFrameNumber`. -/
def streamCounts : Int → List StatsEvent → VideoCounts
  | _, [] => 0
  | lastFrameNumber, e :: es =>
    eventCounts lastFrameNumber e + streamCounts (e.frameNumber.getD lastFrameNumber) es

/-- The frame numbers of the decode units. -/
def frameNumbers (es : List StatsEvent) : List Int := es.filterMap StatsEvent.frameNumber

namespace FFmpegVideoDecoder

theorem countDecodeUnit_lastFrameNumber (d : FFmpegVideoDecoder) (u : Submission) :
    (d.countDecodeUnit u).lastFrameNumber = u.du.frameNumber := by
  have hflip : ∀ d' : FFmpegVideoDecoder,
      (d'.flipStatsWindow u).lastFrameNumber = d'.lastFrameNumber := by
    intro d'
    unfold flipStatsWindow
    split <;> rfl
  have hreceived : ∀ d' : FFmpegVideoDecoder,
      (d'.countReceivedFrame u.du).lastFrameNumber = d'.lastFrameNumber := fun _ => rfl
  rw [countDecodeUnit, hreceived, hflip]
  simp only [countDroppedFrames]
  split <;> rfl

theorem countEvent_lastFrameNumber (d : FFmpegVideoDecoder) (e : StatsEvent) :
    (d.countEvent e).lastFrameNumber = e.frameNumber.getD d.lastFrameNumber := by
  cases e with
  | received u => exact countDecodeUnit_lastFrameNumber d u
  | decoded decodeTimeUs => rfl
  | pacerDropped => rfl
  | rendered pacerTimeUs renderTimeUs => rfl

/-- **A stream.** The windows together have what all the events count. -/
theorem foldl_countEvent_merged (d : FFmpegVideoDecoder) (es : List StatsEvent) :
    (es.foldl countEvent d).mergedVideoStats.toVideoCounts =
      d.mergedVideoStats.toVideoCounts + streamCounts d.lastFrameNumber es := by
  induction es generalizing d with
  | nil => exact (add_zero _).symm
  | cons e es ih =>
      rw [List.foldl_cons, ih, countEvent_merged, countEvent_lastFrameNumber, streamCounts,
        add_assoc]

/-- The events counted in one window that is never flipped. -/
def countWhole (d : FFmpegVideoDecoder) : StatsEvent → FFmpegVideoDecoder
  | .received u => (d.countDroppedFrames u).countReceivedFrame u.du
  | e => d.countEvent e

theorem countWhole_merged (d : FFmpegVideoDecoder) (e : StatsEvent) :
    (d.countWhole e).mergedVideoStats.toVideoCounts =
      d.mergedVideoStats.toVideoCounts + eventCounts d.lastFrameNumber e := by
  cases e with
  | received u =>
      show ((d.countDroppedFrames u).countReceivedFrame u.du).mergedVideoStats.toVideoCounts = _
      rw [countReceivedFrame_merged, countDroppedFrames_merged, eventCounts, add_assoc]
  | decoded decodeTimeUs => exact d.countEvent_merged _
  | pacerDropped => exact d.countEvent_merged _
  | rendered pacerTimeUs renderTimeUs => exact d.countEvent_merged _

theorem countWhole_fields (d : FFmpegVideoDecoder) (e : StatsEvent) :
    (d.countWhole e).lastFrameNumber = e.frameNumber.getD d.lastFrameNumber ∧
      (d.countWhole e).globalVideoStats = d.globalVideoStats := by
  cases e with
  | received u =>
      have hreceived : ∀ d' : FFmpegVideoDecoder,
          (d'.countReceivedFrame u.du).lastFrameNumber = d'.lastFrameNumber ∧
            (d'.countReceivedFrame u.du).globalVideoStats = d'.globalVideoStats :=
        fun _ => ⟨rfl, rfl⟩
      rw [countWhole, (hreceived _).1, (hreceived _).2]
      simp only [countDroppedFrames]
      split <;> exact ⟨rfl, rfl⟩
  | decoded decodeTimeUs => exact ⟨rfl, rfl⟩
  | pacerDropped => exact ⟨rfl, rfl⟩
  | rendered pacerTimeUs renderTimeUs => exact ⟨rfl, rfl⟩

theorem foldl_countWhole (d : FFmpegVideoDecoder) (es : List StatsEvent) :
    (es.foldl countWhole d).mergedVideoStats.toVideoCounts =
        d.mergedVideoStats.toVideoCounts + streamCounts d.lastFrameNumber es ∧
      (es.foldl countWhole d).globalVideoStats = d.globalVideoStats := by
  induction es generalizing d with
  | nil => exact ⟨(add_zero _).symm, rfl⟩
  | cons e es ih =>
      obtain ⟨hmerged, hglobal⟩ := ih (d.countWhole e)
      obtain ⟨hlast, hsame⟩ := countWhole_fields d e
      rw [List.foldl_cons, hmerged, hglobal, countWhole_merged, hlast, streamCounts, add_assoc]
      exact ⟨rfl, hsame⟩

end FFmpegVideoDecoder

/-! ### Numbers of frames -/

theorem eventCounts_totalFrames (lastFrameNumber : Int) (e : StatsEvent) :
    (eventCounts lastFrameNumber e).totalFrames =
      (eventCounts lastFrameNumber e).receivedFrames +
        (eventCounts lastFrameNumber e).networkDroppedFrames := by
  cases e with
  | received u =>
      simp only [eventCounts, droppedCounts, receivedCounts, VideoCounts.add_eq,
        VideoCounts.addVideoCounts, VideoCounts.zero]
      grind
  | decoded decodeTimeUs => rfl
  | pacerDropped => rfl
  | rendered pacerTimeUs renderTimeUs => rfl

theorem streamCounts_totalFrames (lastFrameNumber : Int) (es : List StatsEvent) :
    (streamCounts lastFrameNumber es).totalFrames =
      (streamCounts lastFrameNumber es).receivedFrames +
        (streamCounts lastFrameNumber es).networkDroppedFrames := by
  induction es generalizing lastFrameNumber with
  | nil => rfl
  | cons e es ih =>
      have he := eventCounts_totalFrames lastFrameNumber e
      have hes := ih (e.frameNumber.getD lastFrameNumber)
      simp only [streamCounts, VideoCounts.add_eq, VideoCounts.addVideoCounts, he, hes]
      grind

theorem eventCounts_received_totalFrames (lastFrameNumber : Int) (u : Submission) :
    (eventCounts lastFrameNumber (.received u)).totalFrames =
      UInt32.ofInt (framesBetween lastFrameNumber u.du.frameNumber + 1) := by
  rw [UInt32.ofInt_add, UInt32.ofInt_one]
  simp only [eventCounts, droppedCounts, receivedCounts, VideoCounts.add_eq,
    VideoCounts.addVideoCounts, VideoCounts.zero, UInt32.zero_add, UInt32.add_zero]

theorem eventCounts_totalFrames_of_none {lastFrameNumber : Int} {e : StatsEvent}
    (h : e.frameNumber = none) : (eventCounts lastFrameNumber e).totalFrames = 0 := by
  cases e with
  | received u => exact absurd h (by simp [StatsEvent.frameNumber])
  | decoded decodeTimeUs => rfl
  | pacerDropped => rfl
  | rendered pacerTimeUs renderTimeUs => rfl

/-- After a decode unit, the units that follow count every frame number up to the last. -/
theorem streamCounts_span {first : Int} (hfirst : 0 < first) {es : List StatsEvent}
    (hincreasing : (first :: frameNumbers es).Pairwise (· < ·)) :
    (streamCounts first es).totalFrames =
      UInt32.ofInt ((first :: frameNumbers es).getLast (by simp) - first) := by
  induction es generalizing first with
  | nil => simp [streamCounts, frameNumbers]; rfl
  | cons e es ih =>
      have hadd : (streamCounts first (e :: es)).totalFrames =
          (eventCounts first e).totalFrames +
            (streamCounts (e.frameNumber.getD first) es).totalFrames := rfl
      cases hnumber : e.frameNumber with
      | none =>
          have hsame : frameNumbers (e :: es) = frameNumbers es := by
            rw [frameNumbers, List.filterMap_cons_none hnumber, frameNumbers]
          simp only [hsame] at hincreasing ⊢
          rw [hadd, hnumber, eventCounts_totalFrames_of_none hnumber, Option.getD_none,
            ih hfirst hincreasing, UInt32.zero_add]
      | some number =>
          obtain ⟨u, rfl⟩ : ∃ u, e = .received u := by
            cases e <;> simp [StatsEvent.frameNumber] at hnumber ⊢
          obtain rfl : u.du.frameNumber = number := Option.some.inj hnumber
          have hnext : frameNumbers (.received u :: es) = u.du.frameNumber :: frameNumbers es := rfl
          simp only [hnext] at hincreasing ⊢
          obtain ⟨hlt, hrest⟩ := List.pairwise_cons.mp hincreasing
          have hpos : first < u.du.frameNumber := hlt _ List.mem_cons_self
          rw [hadd, hnumber, Option.getD_some, ih (by omega) hrest,
            eventCounts_received_totalFrames, framesBetween, if_neg (by omega),
            ← UInt32.ofInt_add, List.getLast_cons (List.cons_ne_nil _ _)]
          congr 1
          omega

/-- The first decode unit counts itself, whatever its number. -/
theorem streamCounts_zero_span {es : List StatsEvent} {first : Int} {rest : List Int}
    (hnumbers : frameNumbers es = first :: rest) (hfirst : 0 < first)
    (hincreasing : (frameNumbers es).Pairwise (· < ·)) :
    (streamCounts 0 es).totalFrames =
      UInt32.ofInt ((first :: rest).getLast (by simp) - first + 1) := by
  induction es with
  | nil => exact absurd hnumbers (by simp [frameNumbers])
  | cons e es ih =>
      have hadd : (streamCounts 0 (e :: es)).totalFrames =
          (eventCounts 0 e).totalFrames +
            (streamCounts (e.frameNumber.getD 0) es).totalFrames := rfl
      cases hnumber : e.frameNumber with
      | none =>
          have hsame : frameNumbers (e :: es) = frameNumbers es := by
            rw [frameNumbers, List.filterMap_cons_none hnumber, frameNumbers]
          rw [hsame] at hnumbers hincreasing
          rw [hadd, hnumber, eventCounts_totalFrames_of_none hnumber, Option.getD_none,
            ih hnumbers hincreasing, UInt32.zero_add]
      | some number =>
          obtain ⟨u, rfl⟩ : ∃ u, e = .received u := by
            cases e <;> simp [StatsEvent.frameNumber] at hnumber ⊢
          obtain rfl : u.du.frameNumber = number := Option.some.inj hnumber
          have hnext : frameNumbers (.received u :: es) = u.du.frameNumber :: frameNumbers es := rfl
          rw [hnext] at hnumbers hincreasing
          obtain ⟨rfl, rfl⟩ := List.cons.inj hnumbers
          rw [hadd, hnumber, Option.getD_some, streamCounts_span hfirst hincreasing,
            eventCounts_received_totalFrames, framesBetween, if_pos rfl, ← UInt32.ofInt_add]
          congr 1
          omega

theorem toNat_ofInt {n : Int} (hlow : 0 ≤ n) (hhigh : n < 4294967296) :
    ((UInt32.ofInt n).toNat : Int) = n := by
  rw [UInt32.ofInt, UInt32.toNat_ofNat']
  omega

theorem head_le_getLast {first last : Int} {rest : List Int}
    (hincreasing : (first :: rest).Pairwise (· < ·)) (hlast : last ∈ (first :: rest).getLast?) :
    first ≤ last := by
  have hmem : last ∈ first :: rest := List.mem_of_getLast? hlast
  rcases List.mem_cons.mp hmem with rfl | hmem
  · exact Int.le_refl _
  · exact Int.le_of_lt ((List.pairwise_cons.mp hincreasing).1 last hmem)

namespace FFmpegVideoDecoder

/-- **Windows do not count.** Wherever the windows of a stream are flipped, they have together
what a single window has. Where the frame numbers increase from one on, the frames are those
received and those dropped, and all from the first number to the last. -/
theorem mergedVideoStats_windows (es : List StatsEvent)
    (hincreasing : (frameNumbers es).Pairwise (· < ·)) (hpositive : ∀ n ∈ frameNumbers es, 1 ≤ n) :
    (es.foldl countEvent constructed).mergedVideoStats.toVideoCounts =
        (es.foldl countWhole constructed).activeWndVideoStats.toVideoCounts ∧
      (es.foldl countEvent constructed).mergedVideoStats.totalFrames =
        (es.foldl countEvent constructed).mergedVideoStats.receivedFrames +
          (es.foldl countEvent constructed).mergedVideoStats.networkDroppedFrames ∧
      ∀ first ∈ (frameNumbers es).head?, ∀ last ∈ (frameNumbers es).getLast?,
        (es.foldl countEvent constructed).mergedVideoStats.totalFrames =
            UInt32.ofInt (last - first + 1) ∧
          (last < 2147483648 →
            ((es.foldl countEvent constructed).mergedVideoStats.totalFrames.toNat : Int) =
              last - first + 1) := by
  have hmerged : (es.foldl countEvent constructed).mergedVideoStats.toVideoCounts =
      streamCounts 0 es := by
    rw [foldl_countEvent_merged]
    exact zero_add _
  have hwhole : (es.foldl countWhole constructed).activeWndVideoStats.toVideoCounts =
      streamCounts 0 es := by
    obtain ⟨hsum, hglobal⟩ := foldl_countWhole constructed es
    rw [mergedVideoStats_counts, hglobal] at hsum
    exact (zero_add _).symm.trans (hsum.trans (zero_add _))
  refine ⟨hmerged.trans hwhole.symm, ?_, ?_⟩
  · rw [hmerged]
    exact streamCounts_totalFrames 0 es
  · intro first hfirst last hlast
    obtain ⟨rest, hnumbers⟩ := List.head?_eq_some_iff.mp hfirst
    have hpos : 1 ≤ first := hpositive first (by rw [hnumbers]; exact List.mem_cons_self)
    have hspan : (es.foldl countEvent constructed).mergedVideoStats.totalFrames =
        UInt32.ofInt (last - first + 1) := by
      rw [hnumbers, List.getLast?_eq_some_getLast (List.cons_ne_nil _ _)] at hlast
      obtain rfl := Option.some.inj hlast
      rw [hmerged]
      exact streamCounts_zero_span hnumbers (by omega) hincreasing
    refine ⟨hspan, fun hint => ?_⟩
    have hle : first ≤ last := head_le_getLast (hnumbers ▸ hincreasing) (hnumbers ▸ hlast)
    rw [hspan]
    exact toNat_ofInt (by omega) (by omega)

/-- Two frames are lost between the decode units, and the second one flips the window. -/
def gapStream : List StatsEvent :=
  [.received ⟨⟨1, .idr, 40, 1000, 1100, 90000⟩, true, 1000, 1000, 0⟩, .decoded 2500,
    .received ⟨⟨4, .pframe, 0, 1900000, 1900100, 261000⟩, true, 0, 2000000, 2000000⟩]

theorem mergedVideoStats_gapStream :
    (gapStream.foldl countEvent constructed).mergedVideoStats.toVideoCounts =
        (gapStream.foldl countWhole constructed).activeWndVideoStats.toVideoCounts ∧
      ((gapStream.foldl countEvent constructed).mergedVideoStats.totalFrames.toNat : Int) = 4 := by
  have hnumbers : frameNumbers gapStream = [1, 4] := rfl
  have h := mergedVideoStats_windows gapStream (by rw [hnumbers]; decide)
    (by rw [hnumbers]; decide)
  exact ⟨h.1, (h.2.2 1 (by rw [hnumbers]; rfl) 4 (by rw [hnumbers]; rfl)).2 (by decide)⟩

end FFmpegVideoDecoder

end GilStreaming.Streaming
