import Mathlib.Algebra.Order.Field.Rat
import GilStreaming.Lib.Trace

/-!
# GilStreaming.Streaming.Bandwidth

`BandwidthTracker`: `app/streaming/bandwidth.cpp`.

Times are nanoseconds since the epoch of the clock, and what is a `double` in the code is exact.
The integers are those of the code for the conversions `machine`, and exact for `exact`. The
allocation of the ring does not fail.

The ring is safe for a construction exactly if the interval is not zero and the number of buckets
is one that an `int` can index: the constructor means 250 ms by zero, but what it sets is its
parameter, by which the member of the same name is hidden.
-/

namespace GilStreaming.Streaming

/-- The conversions to `uint32_t` and to `int`. -/
structure Conversions where
  toUInt32 : Int → Int
  toInt : Int → Int

namespace Conversions

def machine : Conversions := ⟨fun x => x % 4294967296, fun x => x.bmod 4294967296⟩

def exact : Conversions := ⟨id, id⟩

end Conversions

/-- A `double` that is not below any number. -/
inductive Double
  | fin (value : ℚ)
  | inf
  | nan
  deriving DecidableEq, Repr

namespace Double

/-- `a / b` for an `a` that is not negative. A division of doubles by zero is no fault. -/
def quotient (a b : ℚ) : Double :=
  if b ≠ 0 then .fin (a / b) else if a > 0 then .inf else .nan

/-- `a > b`, which is false of what is not a number. -/
def greater : Double → Double → Bool
  | .fin a, .fin b => a > b
  | .inf, .fin _ => true
  | _, _ => false

end Double

/-- What must not happen. -/
inductive Fault
  | divisionByZero
  | outOfRing
  deriving DecidableEq, Repr

/-- `a / b`, towards zero. -/
def divide (a b : Int) : Except Fault Int :=
  if b = 0 then .error .divisionByZero else .ok (a.tdiv b)

/-- `a % b`, with the sign of `a`. -/
def remainder (a b : Int) : Except Fault Int :=
  if b = 0 then .error .divisionByZero else .ok (a.tmod b)

structure Bucket where
  start : Int
  bytes : Nat
  deriving DecidableEq, Repr

structure BandwidthTracker where
  windowSeconds : Nat
  bucketIntervalMs : Int
  bucketCount : Int
  buckets : List Bucket
  deriving DecidableEq, Repr

/-- `duration_cast<milliseconds>(now.time_since_epoch())`. -/
def milliseconds (now : Nat) : Int := now / 1000000

/-- What is called. -/
inductive BandwidthCall
  | addBytes (bytes : Nat) (now : Nat)
  | getAverageMbps (now : Nat)
  | getPeakMbps (now : Nat)
  deriving DecidableEq, Repr

namespace BandwidthTracker

variable (c : Conversions)

def new (windowSeconds bucketIntervalMs : UInt32) : BandwidthTracker :=
  -- This is the parameter. The member has been initialized with it.
  let intervalMs := if bucketIntervalMs.toNat ≤ 0 then 250 else bucketIntervalMs.toNat
  let bucketCount := c.toUInt32 (windowSeconds.toNat * 1000) / intervalMs
  { windowSeconds := windowSeconds.toNat
    bucketIntervalMs := c.toInt bucketIntervalMs.toNat
    bucketCount := bucketCount
    buckets := List.replicate bucketCount.toNat ⟨0, 0⟩ }

variable (t : BandwidthTracker)

/-- `(ms / bucketIntervalMs) % bucketCount`, as an `int`. -/
def currentIndex (now : Nat) : Except Fault Int := do
  let interval ← divide (milliseconds now) t.bucketIntervalMs
  let index ← remainder interval t.bucketCount
  return c.toInt index

/-- `buckets[index]`, where an index below zero is beyond the end as a `size_t`. -/
def bucketAt (index : Int) : Except Fault Bucket :=
  if index < 0 then .error .outOfRing
  else
    match t.buckets[index.toNat]? with
    | some bucket => .ok bucket
    | none => .error .outOfRing

def isValid (bucket : Bucket) (now : Nat) : Bool :=
  (now : Int) - bucket.start ≤ t.windowSeconds * 1000000000

/-- `updateBucket`, where `bucket` is the one of the interval from `bucketStart` on. -/
def updatedBucket (bucket : Bucket) (bucketStart : Int) (bytes : Nat) (now : Nat) : Bucket :=
  let bucket :=
    if (now : Int) - bucket.start > t.windowSeconds * 1000000000 then ⟨bucketStart, 0⟩ else bucket
  if bucket.start ≠ bucketStart then ⟨bucketStart, bytes⟩
  else { bucket with bytes := bucket.bytes + bytes }

def updateBucket (bytes : Nat) (now : Nat) : Except Fault BandwidthTracker := do
  let index ← t.currentIndex c now
  let rest ← remainder (milliseconds now) t.bucketIntervalMs
  let bucketStart := (milliseconds now - rest) * 1000000
  let bucket ← t.bucketAt index
  return { t with
    buckets := t.buckets.set index.toNat (t.updatedBucket bucket bucketStart bytes now) }

/-- One step of the loop of `GetAverageMbps`: the bytes so far, and the oldest bucket. -/
def addCompleted (now : Nat) (currentIndex : Int) (sum : Nat × Int) (i : Nat) :
    Except Fault (Nat × Int) := do
  let index ← remainder (c.toUInt32 (currentIndex - i + t.bucketCount)) t.bucketCount
  let bucket ← t.bucketAt (c.toInt index)
  if t.isValid bucket now && (now : Int) - bucket.start ≥ t.bucketIntervalMs * 1000000 then
    return (sum.1 + bucket.bytes, if bucket.start < sum.2 then bucket.start else sum.2)
  else return sum

def getAverageMbps (now : Nat) : Except Fault ℚ := do
  let currentIndex ← t.currentIndex c now
  let maxBuckets := c.toInt (t.bucketCount / 4)
  let (totalBytes, oldestBucket) ←
    (List.range maxBuckets.toNat).foldlM (t.addCompleted c now currentIndex) (0, now)
  let elapsed : ℚ := ((now - oldestBucket : Int) : ℚ) / 1000000000
  if elapsed ≤ 0 then return 0 else return totalBytes * 8 / 1000000 / elapsed

def getBucketMbps (bucket : Bucket) : Double :=
  .quotient (bucket.bytes * 8 / 1000000) (t.bucketIntervalMs / 1000)

/-- One step of the loop of `GetPeakMbps`. -/
def addPeak (now : Nat) (peak : Double) (bucket : Bucket) : Double :=
  if t.isValid bucket now then
    let throughput := t.getBucketMbps bucket
    if throughput.greater peak then throughput else peak
  else peak

def getPeakMbps (now : Nat) : Double := t.buckets.foldl (t.addPeak now) (.fin 0)

def call : BandwidthCall → Except Fault (BandwidthTracker × Option Double)
  | .addBytes bytes now => return (← t.updateBucket c bytes now, none)
  | .getAverageMbps now => return (t, some (.fin (← t.getAverageMbps c now)))
  | .getPeakMbps now => return (t, some (t.getPeakMbps now))

/-- What a sequence of calls returns. -/
def answers (t : BandwidthTracker) : List BandwidthCall → Except Fault (List Double)
  | [] => return []
  | call :: calls => do
      let (t, answer) ← t.call c call
      return answer.toList ++ (← t.answers calls)

/-! ### Safety -/

/-- The number of buckets of an interval that is not zero. -/
def ringSize (windowSeconds bucketIntervalMs : UInt32) : Nat :=
  (windowSeconds * 1000).toNat / bucketIntervalMs.toNat

/-- Nothing is divided by zero, and each remainder of the number of buckets is that of a bucket
as an `int`. A negative interval, from a parameter beyond the range of `int`, leaves one bucket
at most. -/
structure Sound (t : BandwidthTracker) : Prop where
  interval : t.bucketIntervalMs ≠ 0
  nonempty : 1 ≤ t.bucketCount
  length : (t.buckets.length : Int) = t.bucketCount
  index : 0 < t.bucketIntervalMs ∧ t.bucketCount ≤ 2147483648 ∨ t.bucketCount = 1

variable {t : BandwidthTracker} {c}

theorem ok_bind {α β : Type} (a : α) (f : α → Except Fault β) : (Except.ok a >>= f) = f a := rfl

theorem divide_ok {a b : Int} (hb : b ≠ 0) : divide a b = .ok (a.tdiv b) := if_neg hb

theorem remainder_ok {a b : Int} (hb : b ≠ 0) : remainder a b = .ok (a.tmod b) := if_neg hb

theorem toInt_machine {x : Int} (hnonneg : 0 ≤ x) (hlt : x < 2147483648) :
    Conversions.machine.toInt x = x := by
  show x.bmod 4294967296 = x
  exact Int.bmod_eq_of_le_mul_two (by omega) (by omega)

theorem bucketAt_ok {index : Int} (hnonneg : 0 ≤ index) (hlt : index < t.buckets.length) :
    ∃ bucket, t.bucketAt index = .ok bucket := by
  rw [bucketAt, if_neg (by omega), List.getElem?_eq_getElem (by omega)]
  exact ⟨_, rfl⟩

/-- Where the number of buckets is one that an `int` can index, a remainder is an index. -/
theorem Sound.toInt_eq (h : Sound t) {x : Int} (hnonneg : 0 ≤ x) (hlt : x < t.bucketCount) :
    Conversions.machine.toInt x = x := by
  refine toInt_machine hnonneg ?_
  rcases h.index with hindex | hindex <;> omega

theorem Sound.currentIndex (h : Sound t) (now : Nat) :
    ∃ index, t.currentIndex .machine now = .ok index ∧ 0 ≤ index ∧ index < t.bucketCount := by
  have hnonempty := h.nonempty
  have hms : 0 ≤ milliseconds now := by
    rw [milliseconds]
    omega
  rw [BandwidthTracker.currentIndex, divide_ok h.interval, ok_bind, remainder_ok (by omega),
    ok_bind]
  refine ⟨_, rfl, ?_⟩
  have hlt := Int.tmod_lt_of_pos ((milliseconds now).tdiv t.bucketIntervalMs)
    (b := t.bucketCount) (by omega)
  have hnonneg : 0 ≤ ((milliseconds now).tdiv t.bucketIntervalMs).tmod t.bucketCount := by
    rcases h.index with hpositive | hone
    · exact Int.tmod_nonneg _ (Int.tdiv_nonneg hms hpositive.1.le)
    · rw [hone, Int.tmod_one]
  rw [h.toInt_eq hnonneg hlt]
  exact ⟨hnonneg, hlt⟩

theorem Sound.updateBucket (h : Sound t) (bytes : Nat) (now : Nat) :
    ∃ t', t.updateBucket .machine bytes now = .ok t' ∧ Sound t' := by
  obtain ⟨index, hindex, hnonneg, hlt⟩ := h.currentIndex now
  obtain ⟨bucket, hbucket⟩ := bucketAt_ok (t := t) hnonneg (by rwa [h.length])
  rw [BandwidthTracker.updateBucket, hindex, ok_bind, remainder_ok h.interval, ok_bind, hbucket,
    ok_bind]
  refine ⟨_, rfl, h.interval, h.nonempty, ?_, h.index⟩
  show ((t.buckets.set _ _).length : Int) = _
  rw [List.length_set, h.length]

theorem Sound.addCompleted (h : Sound t) (now : Nat) (currentIndex : Int) (sum : Nat × Int)
    (i : Nat) : ∃ sum', t.addCompleted .machine now currentIndex sum i = .ok sum' := by
  have hnonempty := h.nonempty
  have hnonneg : 0 ≤ (currentIndex - i + t.bucketCount) % 4294967296 := by omega
  have hlt := Int.tmod_lt_of_pos ((currentIndex - i + t.bucketCount) % 4294967296)
    (b := t.bucketCount) (by omega)
  have hnonneg' := Int.tmod_nonneg t.bucketCount hnonneg
  obtain ⟨bucket, hbucket⟩ := bucketAt_ok (t := t) hnonneg' (by rwa [h.length])
  have hwrap : Conversions.machine.toUInt32 (currentIndex - i + t.bucketCount) =
      (currentIndex - i + t.bucketCount) % 4294967296 := rfl
  rw [BandwidthTracker.addCompleted, hwrap, remainder_ok (by omega), ok_bind,
    h.toInt_eq hnonneg' hlt, hbucket, ok_bind]
  split
  · exact ⟨_, rfl⟩
  · exact ⟨_, rfl⟩

/-- A loop whose steps all succeed. -/
theorem foldlM_ok {α β : Type} {f : β → α → Except Fault β} (h : ∀ b a, ∃ b', f b a = .ok b')
    (as : List α) (b : β) : ∃ b', as.foldlM f b = .ok b' := by
  induction as generalizing b with
  | nil => exact ⟨b, rfl⟩
  | cons a as ih =>
      obtain ⟨b', hb'⟩ := h b a
      rw [List.foldlM_cons, hb']
      exact ih b'

theorem Sound.getAverageMbps (h : Sound t) (now : Nat) :
    ∃ average, t.getAverageMbps .machine now = .ok average := by
  obtain ⟨index, hindex, -⟩ := h.currentIndex now
  obtain ⟨sum, hsum⟩ := foldlM_ok (h.addCompleted now index)
    (List.range (Conversions.machine.toInt (t.bucketCount / 4)).toNat) (0, (now : Int))
  simp only [BandwidthTracker.getAverageMbps, hindex, hsum, ok_bind]
  split
  · exact ⟨_, rfl⟩
  · exact ⟨_, rfl⟩

theorem Sound.call (h : Sound t) (call : BandwidthCall) :
    ∃ t' answer, t.call .machine call = .ok (t', answer) ∧ Sound t' := by
  cases call with
  | addBytes bytes now =>
      obtain ⟨t', ht', hsound⟩ := h.updateBucket bytes now
      rw [BandwidthTracker.call, ht', ok_bind]
      exact ⟨t', none, rfl, hsound⟩
  | getAverageMbps now =>
      obtain ⟨average, haverage⟩ := h.getAverageMbps now
      rw [BandwidthTracker.call, haverage]
      exact ⟨t, some (.fin average), rfl, h⟩
  | getPeakMbps now => exact ⟨t, some (t.getPeakMbps now), rfl, h⟩

theorem Sound.answers (h : Sound t) (calls : List BandwidthCall) :
    ∃ results, t.answers .machine calls = .ok results := by
  induction calls generalizing t with
  | nil => exact ⟨[], rfl⟩
  | cons call calls ih =>
      obtain ⟨t', answer, hcall, hsound⟩ := h.call call
      obtain ⟨results, hresults⟩ := ih hsound
      simp only [BandwidthTracker.answers, hcall, hresults, ok_bind]
      exact ⟨_, rfl⟩

/-! ### Constructions -/

variable {windowSeconds bucketIntervalMs : UInt32}

theorem toNat_ms (windowSeconds : UInt32) :
    (windowSeconds * 1000).toNat = windowSeconds.toNat * 1000 % 4294967296 :=
  UInt32.toNat_mul windowSeconds 1000

theorem pos_of_interval (hinterval : bucketIntervalMs ≠ 0) : 0 < bucketIntervalMs.toNat :=
  Nat.pos_of_ne_zero fun hzero => hinterval (UInt32.toNat_inj.mp hzero)

theorem new_bucketCount (windowSeconds : UInt32) (hinterval : bucketIntervalMs ≠ 0) :
    (new .machine windowSeconds bucketIntervalMs).bucketCount =
      ringSize windowSeconds bucketIntervalMs := by
  have hpositive := pos_of_interval hinterval
  simp only [new, Conversions.machine, if_neg (not_le.mpr hpositive), ringSize, toNat_ms]
  push_cast
  rfl

theorem new_interval (windowSeconds bucketIntervalMs : UInt32) :
    (new .machine windowSeconds bucketIntervalMs).bucketIntervalMs =
      if bucketIntervalMs.toNat < 2147483648 then (bucketIntervalMs.toNat : Int)
      else bucketIntervalMs.toNat - 4294967296 := by
  have hlt := bucketIntervalMs.toNat_lt
  simp only [new, Conversions.machine, Int.bmod_def]
  omega

/-- An interval beyond the range of `int` is longer than half of any window. -/
theorem ringSize_le_one (windowSeconds : UInt32) (h : 2147483648 ≤ bucketIntervalMs.toNat) :
    ringSize windowSeconds bucketIntervalMs ≤ 1 := by
  rw [ringSize, toNat_ms]
  refine Nat.lt_succ_iff.mp (Nat.div_lt_of_lt_mul ?_)
  omega

theorem new_sound (hinterval : bucketIntervalMs ≠ 0)
    (hnonempty : 1 ≤ ringSize windowSeconds bucketIntervalMs)
    (hindex : ringSize windowSeconds bucketIntervalMs ≤ 2147483648) :
    Sound (new .machine windowSeconds bucketIntervalMs) := by
  have hcount := new_bucketCount windowSeconds hinterval
  have hmember := new_interval windowSeconds bucketIntervalMs
  have hpositive := pos_of_interval hinterval
  have hlt := bucketIntervalMs.toNat_lt
  constructor
  case interval => omega
  case nonempty => omega
  case length =>
    show ((List.replicate (new .machine windowSeconds bucketIntervalMs).bucketCount.toNat
      (⟨0, 0⟩ : Bucket)).length : Int) = _
    rw [List.length_replicate, hcount, Int.toNat_natCast]
  case index =>
    by_cases hrange : bucketIntervalMs.toNat < 2147483648
    · left
      omega
    · right
      have hone := ringSize_le_one windowSeconds (not_lt.mp hrange)
      omega

theorem error_bind {α β : Type} (fault : Fault) (f : α → Except Fault β) :
    (Except.error fault >>= f) = .error fault := rfl

/-- The first `AddBytes` fails where its index does. -/
theorem addBytes_fails {fault : Fault} {bytes now : Nat}
    (h : t.updateBucket .machine bytes now = .error fault) (results : List Double) :
    t.answers .machine [.addBytes bytes now] ≠ .ok results := by
  simp only [answers, call, h, error_bind]
  exact fun heq => by cases heq

theorem currentIndex_of_interval (h : t.bucketIntervalMs = 0) (now : Nat) :
    t.currentIndex .machine now = .error .divisionByZero := by
  rw [currentIndex, h]
  rfl

theorem currentIndex_of_count (h : t.bucketIntervalMs ≠ 0) (hcount : t.bucketCount = 0)
    (now : Nat) : t.currentIndex .machine now = .error .divisionByZero := by
  rw [currentIndex, divide_ok h, ok_bind, hcount]
  rfl

/-- The interval of 2^31 ms, in a ring with more buckets. -/
theorem updateBucket_of_large (hinterval : t.bucketIntervalMs = 1)
    (hcount : 2147483648 < t.bucketCount) (bytes : Nat) :
    t.updateBucket .machine bytes 2147483648000000 = .error .outOfRing := by
  have hindex : t.currentIndex .machine 2147483648000000 = .ok (-2147483648) := by
    have hms : milliseconds 2147483648000000 = 2147483648 := rfl
    rw [currentIndex, hinterval, divide_ok (by decide), ok_bind, remainder_ok (by omega), ok_bind,
      hms, Int.tdiv_one, Int.tmod_eq_of_lt (by decide) hcount]
    rfl
  rw [updateBucket, hindex, ok_bind, remainder_ok (by omega), ok_bind]
  rfl

/-- **Safety of the ring.** Every sequence of calls at any times is free of divisions by zero and
stays within the ring exactly if the interval is not zero and the number of buckets, an unsigned
product divided by the interval, is from 1 to 2^31. -/
theorem bandwidth_safe_iff (windowSeconds bucketIntervalMs : UInt32) :
    (∀ calls, ∃ results,
        (new .machine windowSeconds bucketIntervalMs).answers .machine calls = .ok results) ↔
      bucketIntervalMs ≠ 0 ∧ 1 ≤ ringSize windowSeconds bucketIntervalMs ∧
        ringSize windowSeconds bucketIntervalMs ≤ 2147483648 := by
  constructor
  · intro hsafe
    have hmember := new_interval windowSeconds bucketIntervalMs
    have hinterval : bucketIntervalMs ≠ 0 := by
      rintro rfl
      have hupdate : (new .machine windowSeconds 0).updateBucket .machine 0 0 =
          .error .divisionByZero := by
        rw [updateBucket, currentIndex_of_interval hmember]
        rfl
      obtain ⟨results, hresults⟩ := hsafe [.addBytes 0 0]
      exact addBytes_fails hupdate results hresults
    have hcount := new_bucketCount windowSeconds hinterval
    have hpositive := pos_of_interval hinterval
    have hlt := bucketIntervalMs.toNat_lt
    refine ⟨hinterval, ?_, ?_⟩
    · by_contra hempty
      have hupdate : (new .machine windowSeconds bucketIntervalMs).updateBucket .machine 0 0 =
          .error .divisionByZero := by
        rw [updateBucket, currentIndex_of_count (by omega) (by omega)]
        rfl
      obtain ⟨results, hresults⟩ := hsafe [.addBytes 0 0]
      exact addBytes_fails hupdate results hresults
    · by_contra hlarge
      -- A product below 2^32 has so many buckets for an interval of 1 ms only.
      have hone : bucketIntervalMs.toNat = 1 := by
        by_contra hne
        have hle : ringSize windowSeconds bucketIntervalMs ≤
            windowSeconds.toNat * 1000 % 4294967296 / 2 := by
          rw [ringSize, toNat_ms]
          exact Nat.div_le_div_left (by omega) (by decide)
        omega
      obtain ⟨results, hresults⟩ := hsafe [.addBytes 0 2147483648000000]
      exact addBytes_fails (updateBucket_of_large (by omega) (by omega) 0) results hresults
  · rintro ⟨hinterval, hnonempty, hindex⟩ calls
    exact (new_sound hinterval hnonempty hindex).answers calls

/-- An interval of zero, and one that is longer than the window. -/
theorem zero_interval_fails :
    (¬ ∃ results, (new .machine 10 0).answers .machine [.addBytes 1400 60000000000] =
        .ok results) ∧
      ¬ ∃ results, (new .machine 1 2000).answers .machine [.getAverageMbps 60000000000] =
        .ok results := by
  have hzero : (new .machine 10 0).answers .machine [.addBytes 1400 60000000000] =
      .error .divisionByZero := rfl
  have hlong : (new .machine 1 2000).answers .machine [.getAverageMbps 60000000000] =
      .error .divisionByZero := rfl
  rw [hzero, hlong]
  constructor
  · rintro ⟨results, h⟩
    cases h
  · rintro ⟨results, h⟩
    cases h

end BandwidthTracker

end GilStreaming.Streaming
