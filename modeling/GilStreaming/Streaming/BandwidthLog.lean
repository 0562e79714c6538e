import Mathlib.Algebra.BigOperators.Group.List.Basic
import Mathlib.Data.Finset.Lattice.Fold
import Mathlib.Data.Nat.ModEq
import Mathlib.Order.Lattice.Nat
import Mathlib.Tactic.Linarith
import GilStreaming.Streaming.Bandwidth

/-!
# GilStreaming.Streaming.BandwidthLog

The ring of `BandwidthTracker` and a plain log of what is received.

With exact arithmetic and an interval that divides the window, the slot of an interval keeps the
latest interval that it has received bytes for, with the bytes of just that (`Refines`). Queries
are those of the log, apart from one instant. A bucket is valid up to one window after its start,
the end included, which is when the interval that begins then has the same slot: the old bucket is
counted as if it were new, or lost to the new one while it is valid (`Aliased`).
-/

namespace GilStreaming.Streaming

open Trace

/-- What an `AddBytes` adds. -/
structure Received where
  now : Nat
  bytes : Nat
  deriving DecidableEq, Repr

namespace BandwidthLog

variable {p n : Nat} {log : List Received} {k now : Nat}

/-! ### The log -/

/-- The number of the aligned interval of a time, for intervals of `p` milliseconds. -/
def intervalOf (p : Nat) (now : Nat) : Nat := now / (p * 1000000)

def startOf (p : Nat) (k : Nat) : Nat := k * (p * 1000000)

/-- The bytes of an interval. -/
def total (p : Nat) (log : List Received) (k : Nat) : Nat :=
  ((log.filter fun received => intervalOf p received.now = k).map Received.bytes).sum

/-- Something has been received in the interval. -/
def HasBytes (p : Nat) (log : List Received) (k : Nat) : Prop :=
  ∃ received ∈ log, intervalOf p received.now = k

instance (p : Nat) (log : List Received) : DecidablePred (HasBytes p log) :=
  fun _ => inferInstanceAs (Decidable (∃ received ∈ log, _))

/-- Bytes in an interval, as Mbps. -/
def mbps (p : Nat) (bytes : Nat) : ℚ := bytes * 8 / 1000000 / ((p : Int) / 1000)

/-- The largest total of an interval whose start is not longer ago than the window. -/
def peakOf (windowSeconds p : Nat) (log : List Received) (now : Nat) : ℚ :=
  mbps p (((Finset.range (intervalOf p now + 1)).filter fun k =>
    now - startOf p k ≤ windowSeconds * 1000000000).sup (total p log))

/-- The newest intervals that are completed, newest first. -/
def completed (p : Nat) (maxBuckets : Nat) (now : Nat) : List Nat :=
  ((List.range maxBuckets).map fun i => intervalOf p now - i).filter fun k =>
    p * 1000000 ≤ now - startOf p k

/-- The bytes of the completed intervals among the newest quarter, since the start of the oldest
one that has received something. -/
def averageOf (windowSeconds p : Nat) (log : List Received) (now : Nat) : ℚ :=
  let intervals := completed p (windowSeconds * 1000 / p / 4) now
  match (intervals.filter fun k => HasBytes p log k).getLast? with
  | none => 0
  | some oldest =>
      ((intervals.map (total p log)).sum : ℚ) * 8 / 1000000 /
        (((now - startOf p oldest : Int) : ℚ) / 1000000000)

/-- What is in the log after a call. -/
def record (log : List Received) : BandwidthCall → List Received
  | .addBytes bytes now => log ++ [⟨now, bytes⟩]
  | _ => log

/-- What a call returns for this log. -/
def answerOf (windowSeconds p : Nat) (log : List Received) : BandwidthCall → Option Double
  | .addBytes _ _ => none
  | .getAverageMbps now => some (.fin (averageOf windowSeconds p log now))
  | .getPeakMbps now => some (.fin (peakOf windowSeconds p log now))

theorem total_append (p : Nat) (log : List Received) (received : Received) (k : Nat) :
    total p (log ++ [received]) k =
      total p log k + if intervalOf p received.now = k then received.bytes else 0 := by
  rw [total, List.filter_append, List.map_append, List.sum_append, total]
  by_cases h : intervalOf p received.now = k
  · simp [h]
  · simp [h]

theorem total_eq_zero (h : ¬ HasBytes p log k) : total p log k = 0 := by
  have hnone : log.filter (fun received => intervalOf p received.now = k) = [] := by
    rw [List.filter_eq_nil_iff]
    intro received hmem hk
    exact h ⟨received, hmem, by simpa using hk⟩
  rw [total, hnone]
  rfl

theorem hasBytes_append {received : Received} :
    HasBytes p (log ++ [received]) k ↔ HasBytes p log k ∨ intervalOf p received.now = k := by
  simp [HasBytes, or_and_right, exists_or]

/-! ### Intervals -/

theorem startOf_add (p k m : Nat) : startOf p (k + m) = startOf p k + m * (p * 1000000) :=
  Nat.add_mul ..

theorem startOf_intervalOf_le (p now : Nat) : startOf p (intervalOf p now) ≤ now :=
  Nat.div_mul_le_self ..

theorem lt_startOf_succ (hp : 0 < p) (now : Nat) :
    now < startOf p (intervalOf p now) + p * 1000000 := by
  rw [startOf, ← Nat.succ_mul]
  exact Nat.lt_mul_of_div_lt (Nat.lt_succ_self _) (by omega)

theorem intervalOf_startOf (hp : 0 < p) (k : Nat) : intervalOf p (startOf p k) = k :=
  Nat.mul_div_cancel k (by omega)

theorem startOf_le_startOf {k' : Nat} (h : k ≤ k') : startOf p k ≤ startOf p k' :=
  Nat.mul_le_mul_right _ h

theorem intervalOf_le_intervalOf {now' : Nat} (h : now ≤ now') :
    intervalOf p now ≤ intervalOf p now' := Nat.div_le_div_right h

/-- Two intervals with the same slot have as many in between as there are slots. -/
theorem add_le_of_mod_eq {k' : Nat} (h : k < k') (hmod : k % n = k' % n) : k + n ≤ k' := by
  have hdvd : n ∣ k' - k := (Nat.modEq_iff_dvd' h.le).mp hmod
  have hle := Nat.le_of_dvd (by omega) hdvd
  omega

/-- The interval divides the window, which is not empty. -/
structure Divides (windowSeconds p n : Nat) : Prop where
  interval : 0 < p
  count : 0 < n
  window : windowSeconds * 1000 = n * p

theorem Divides.nanoseconds {windowSeconds : Nat} (h : Divides windowSeconds p n) :
    windowSeconds * 1000000000 = n * (p * 1000000) := by
  rw [← Nat.mul_assoc, ← h.window]
  omega

/-- Where nothing is received after the query, intervals with something start before it. -/
theorem startOf_le_of_hasBytes (hlog : ∀ received ∈ log, received.now ≤ now)
    (h : HasBytes p log k) : k ≤ intervalOf p now ∧ startOf p k ≤ now := by
  obtain ⟨received, hmem, rfl⟩ := h
  have hle := intervalOf_le_intervalOf (p := p) (hlog received hmem)
  exact ⟨hle, (startOf_le_startOf hle).trans (startOf_intervalOf_le p now)⟩

/-! ### Slots -/

/-- What is in a slot: the latest interval of the log with this slot, or nothing. -/
inductive Slot (p n : Nat) (log : List Received) (i : Nat) : Bucket → Prop
  | empty (hnone : ∀ k, HasBytes p log k → k % n ≠ i) : Slot p n log i ⟨0, 0⟩
  | latest (k : Nat) (hk : k % n = i) (hbytes : HasBytes p log k)
      (hmax : ∀ k', HasBytes p log k' → k' % n = i → k' ≤ k) :
      Slot p n log i ⟨startOf p k, total p log k⟩

/-- The ring for the log. -/
structure Refines (windowSeconds p n : Nat) (log : List Received) (t : BandwidthTracker) :
    Prop where
  windowSeconds : t.windowSeconds = windowSeconds
  interval : t.bucketIntervalMs = p
  count : t.bucketCount = n
  length : t.buckets.length = n
  slot : ∀ i bucket, t.buckets[i]? = some bucket → Slot p n log i bucket

variable {windowSeconds : Nat} {t : BandwidthTracker}

theorem refines_new (h : Divides windowSeconds p n) {window interval : UInt32}
    (hwindow : window.toNat = windowSeconds) (hinterval : interval.toNat = p) :
    Refines windowSeconds p n [] (.new .exact window interval) := by
  have hp := h.interval
  have hcount : (BandwidthTracker.new .exact window interval).bucketCount = n := by
    have hn : windowSeconds * 1000 / p = n := by
      rw [h.window]
      exact Nat.mul_div_cancel n hp
    simp only [BandwidthTracker.new, Conversions.exact, hwindow, hinterval, if_neg (not_le.mpr hp),
      id]
    rw [← hn]
    push_cast
    rfl
  refine ⟨hwindow, congrArg Nat.cast hinterval, hcount, ?_, ?_⟩
  · show (List.replicate (BandwidthTracker.new .exact window interval).bucketCount.toNat
      (⟨0, 0⟩ : Bucket)).length = n
    rw [List.length_replicate, hcount, Int.toNat_natCast]
  · intro i bucket hbucket
    obtain rfl : bucket = ⟨0, 0⟩ :=
      List.eq_of_mem_replicate (List.mem_of_getElem? hbucket)
    exact .empty fun k hk => by simp [HasBytes] at hk

theorem Refines.bucketAt (h : Refines windowSeconds p n log t) {i : Nat} (hi : i < n) :
    ∃ bucket, t.bucketAt i = .ok bucket ∧ Slot p n log i bucket := by
  have hlength : i < t.buckets.length := by rwa [h.length]
  have hget : t.buckets[i]? = some t.buckets[i] := List.getElem?_eq_getElem hlength
  refine ⟨_, ?_, h.slot i _ hget⟩
  rw [BandwidthTracker.bucketAt, if_neg (by omega), Int.toNat_natCast, hget]

theorem Refines.currentIndex (h : Refines windowSeconds p n log t)
    (hdiv : Divides windowSeconds p n) (now : Nat) :
    t.currentIndex .exact now = .ok (intervalOf p now % n : Nat) := by
  have hp := hdiv.interval
  have hn := hdiv.count
  have hms : (milliseconds now).tdiv p = (intervalOf p now : Nat) := by
    rw [milliseconds, Int.tdiv_eq_ediv_of_nonneg (by omega), intervalOf, Nat.mul_comm p,
      ← Nat.div_div_eq_div_mul]
    push_cast
    rfl
  rw [BandwidthTracker.currentIndex, h.interval, h.count,
    BandwidthTracker.divide_ok (by omega), BandwidthTracker.ok_bind,
    BandwidthTracker.remainder_ok (by omega), hms]
  rfl

/-! ### Receiving -/

theorem isValid_iff (h : Refines windowSeconds p n log t) (hdiv : Divides windowSeconds p n)
    (bucket : Bucket) (now : Nat) :
    t.isValid bucket now = true ↔ (now : Int) ≤ bucket.start + (n * (p * 1000000) : Nat) := by
  have hwindow := hdiv.nanoseconds
  rw [BandwidthTracker.isValid, h.windowSeconds, decide_eq_true_eq]
  omega

/-- The slot of an interval that bytes are added to. -/
theorem updatedBucket_eq (h : Refines windowSeconds p n log t) (hdiv : Divides windowSeconds p n)
    (hlog : ∀ received ∈ log, received.now ≤ now) (hlater : windowSeconds * 1000000000 < now)
    {bucket : Bucket} (hslot : Slot p n log (intervalOf p now % n) bucket) (bytes : Nat) :
    t.updatedBucket bucket (startOf p (intervalOf p now)) bytes now =
      ⟨startOf p (intervalOf p now), total p log (intervalOf p now) + bytes⟩ := by
  have hstart := startOf_intervalOf_le p now
  have hend := lt_startOf_succ hdiv.interval now
  have hlength : p * 1000000 ≤ n * (p * 1000000) := Nat.le_mul_of_pos_left _ hdiv.count
  have hwindow := hdiv.nanoseconds
  cases hslot with
  | empty hnone =>
      have htotal : total p log (intervalOf p now) = 0 :=
        total_eq_zero fun hbytes => hnone _ hbytes rfl
      have hexpired : (now : Int) - (0 : Int) > t.windowSeconds * 1000000000 := by
        rw [h.windowSeconds]
        omega
      simp only [BandwidthTracker.updatedBucket, if_pos hexpired, htotal]
      simp
  | latest k hk hbytes hmax =>
      have hle := (startOf_le_of_hasBytes hlog hbytes).1
      by_cases heq : k = intervalOf p now
      · have hvalid : ¬ (now : Int) - startOf p k > t.windowSeconds * 1000000000 := by
          rw [h.windowSeconds, heq]
          omega
        simp only [BandwidthTracker.updatedBucket, if_neg hvalid]
        simp [heq]
      · -- An older interval has the slot, which is taken over.
        have htotal : total p log (intervalOf p now) = 0 :=
          total_eq_zero fun hbytes' => heq (Nat.le_antisymm hle (hmax _ hbytes' rfl))
        have hne : (startOf p k : Int) ≠ startOf p (intervalOf p now) := by
          have hmono := startOf_le_startOf (p := p) (show k + 1 ≤ intervalOf p now by omega)
          have hp := hdiv.interval
          rw [startOf_add] at hmono
          omega
        rw [BandwidthTracker.updatedBucket, htotal]
        by_cases hexpired : (now : Int) - startOf p k > t.windowSeconds * 1000000000
        · simp [hexpired]
        · simp [hexpired, hne]

theorem Slot.append {i : Nat} {bucket : Bucket} (h : Slot p n log i bucket) {received : Received}
    (hi : intervalOf p received.now % n ≠ i) : Slot p n (log ++ [received]) i bucket := by
  have hkeep {k : Nat} (hbytes : HasBytes p (log ++ [received]) k) (hk : k % n = i) :
      HasBytes p log k := by
    rcases hasBytes_append.mp hbytes with hbytes | heq
    · exact hbytes
    · rw [heq] at hi
      exact absurd hk hi
  cases h with
  | empty hnone => exact .empty fun k hbytes hk => hnone k (hkeep hbytes hk) hk
  | latest k hk hbytes hmax =>
      have htotal : total p (log ++ [received]) k = total p log k := by
        have hne : intervalOf p received.now ≠ k := fun heq => hi (by rw [heq, hk])
        rw [total_append, if_neg hne, Nat.add_zero]
      rw [← htotal]
      exact .latest k hk (hasBytes_append.mpr (.inl hbytes)) fun k' hbytes' hk' =>
        hmax k' (hkeep hbytes' hk') hk'

theorem start_eq (p now : Nat) :
    (milliseconds now - (milliseconds now).tmod p) * 1000000 =
      (startOf p (intervalOf p now) : Int) := by
  have hdiv : now / 1000000 / p = intervalOf p now := by
    rw [intervalOf, Nat.mul_comm p, Nat.div_div_eq_div_mul]
  have hsplit := Nat.div_add_mod (now / 1000000) p
  have hms : milliseconds now = (now / 1000000 : Nat) := by
    rw [milliseconds]
    omega
  rw [hms, ← Int.ofNat_tmod, startOf, ← hdiv, ← Nat.mul_assoc, Nat.mul_comm (_ / p)]
  omega

theorem refines_updateBucket (h : Refines windowSeconds p n log t)
    (hdiv : Divides windowSeconds p n) (now : Nat) (hlog : ∀ received ∈ log, received.now ≤ now)
    (hlater : windowSeconds * 1000000000 < now) (bytes : Nat) :
    ∃ t', t.updateBucket .exact bytes now = .ok t' ∧
      Refines windowSeconds p n (log ++ [⟨now, bytes⟩]) t' := by
  have hp := hdiv.interval
  have hmod := Nat.mod_lt (intervalOf p now) hdiv.count
  obtain ⟨bucket, hbucket, hslot⟩ := h.bucketAt hmod
  rw [BandwidthTracker.updateBucket, h.currentIndex hdiv now, BandwidthTracker.ok_bind, h.interval,
    BandwidthTracker.remainder_ok (by omega), BandwidthTracker.ok_bind, hbucket,
    BandwidthTracker.ok_bind, start_eq, updatedBucket_eq h hdiv hlog hlater hslot bytes]
  refine ⟨_, rfl, h.windowSeconds, rfl, h.count, (List.length_set ..).trans h.length, ?_⟩
  intro i bucket' hget
  rw [Int.toNat_natCast, List.getElem?_set, h.length, if_pos hmod] at hget
  split at hget
  · rename_i heq
    cases hget
    have htotal : total p (log ++ [⟨now, bytes⟩]) (intervalOf p now) =
        total p log (intervalOf p now) + bytes := by
      rw [total_append, if_pos rfl]
    rw [← htotal]
    refine .latest (intervalOf p now) heq (hasBytes_append.mpr (.inr rfl)) fun k hbytes _ => ?_
    rcases hasBytes_append.mp hbytes with hbytes | rfl
    · exact (startOf_le_of_hasBytes hlog hbytes).1
    · exact le_rfl
  · rename_i hne
    exact (h.slot i bucket' hget).append hne

/-! ### Queries -/

/-- The query is made at the start of an interval, to the nanosecond, and one window earlier began
an interval with something. For the average nothing has been received since, and for the peak
something has, and the bytes of the old interval exceed all later ones. -/
def Aliased (windowSeconds p : Nat) (log : List Received) : BandwidthCall → Prop
  | .addBytes _ _ => False
  | .getAverageMbps now =>
      let k := intervalOf p now
      let n := windowSeconds * 1000 / p
      startOf p k = now ∧ HasBytes p log (k - n) ∧ ¬ HasBytes p log k ∧ 4 ≤ n
  | .getPeakMbps now =>
      let k := intervalOf p now
      let n := windowSeconds * 1000 / p
      startOf p k = now ∧ HasBytes p log (k - n) ∧ HasBytes p log k ∧
        ∀ k' < k + 1, k - n < k' → total p log k' < total p log (k - n)

instance (windowSeconds p : Nat) (log : List Received) : DecidablePred (Aliased windowSeconds p log)
  | .addBytes _ _ => inferInstanceAs (Decidable False)
  | .getAverageMbps _ => inferInstanceAs (Decidable (_ ∧ _ ∧ _ ∧ _))
  | .getPeakMbps now => inferInstanceAs (Decidable (_ ∧ _ ∧ _ ∧ ∀ k' < intervalOf p now + 1, _))

theorem Divides.count_eq (h : Divides windowSeconds p n) : windowSeconds * 1000 / p = n := by
  rw [h.window, Nat.mul_div_cancel n h.interval]

/-- The number of the interval at a time after the first window. -/
theorem count_le_intervalOf (hdiv : Divides windowSeconds p n)
    (hlater : windowSeconds * 1000000000 < now) : n ≤ intervalOf p now := by
  rw [hdiv.nanoseconds] at hlater
  exact (Nat.le_div_iff_mul_le (by have := hdiv.interval; omega)).mpr hlater.le

/-! ### The peak -/

theorem interval_pos (hp : 0 < p) : (0 : ℚ) < ((p : Int) : ℚ) / 1000 := by
  have hcast : (0 : ℚ) < ((p : Int) : ℚ) := by exact_mod_cast hp
  linarith

theorem mbps_lt_mbps (hp : 0 < p) {bytes bytes' : Nat} :
    mbps p bytes < mbps p bytes' ↔ bytes < bytes' := by
  rw [mbps, mbps, div_lt_div_iff_of_pos_right (interval_pos hp),
    div_lt_div_iff_of_pos_right (by norm_num), mul_lt_mul_iff_of_pos_right (by norm_num)]
  exact_mod_cast Iff.rfl

theorem getBucketMbps_eq (h : t.bucketIntervalMs = p) (hp : 0 < p) (bucket : Bucket) :
    t.getBucketMbps bucket = .fin (mbps p bucket.bytes) := by
  rw [BandwidthTracker.getBucketMbps, h, Double.quotient, if_pos (interval_pos hp).ne']
  rfl

theorem max_mbps (hp : 0 < p) (bytes bytes' : Nat) :
    (if (Double.fin (mbps p bytes')).greater (.fin (mbps p bytes)) then
        Double.fin (mbps p bytes') else .fin (mbps p bytes)) =
      .fin (mbps p (max bytes bytes')) := by
  simp only [Double.greater, decide_eq_true_eq, gt_iff_lt]
  by_cases hlt : bytes < bytes'
  · rw [if_pos ((mbps_lt_mbps hp).mpr hlt), Nat.max_eq_right hlt.le]
  · rw [if_neg (mt (mbps_lt_mbps hp).mp hlt), Nat.max_eq_left (not_lt.mp hlt)]

/-- The bytes in the fullest valid bucket. -/
def peakBytes (t : BandwidthTracker) (now : Nat) (buckets : List Bucket) : Nat :=
  buckets.foldl (fun peak bucket => if t.isValid bucket now then max peak bucket.bytes else peak) 0

theorem foldl_addPeak (h : t.bucketIntervalMs = p) (hp : 0 < p) (now : Nat)
    (buckets : List Bucket) (bytes : Nat) :
    buckets.foldl (t.addPeak now) (.fin (mbps p bytes)) =
      .fin (mbps p (buckets.foldl (fun peak bucket =>
        if t.isValid bucket now then max peak bucket.bytes else peak) bytes)) := by
  induction buckets generalizing bytes with
  | nil => rfl
  | cons bucket buckets ih =>
      have hstep : t.addPeak now (.fin (mbps p bytes)) bucket = .fin (mbps p
          (if t.isValid bucket now then max bytes bucket.bytes else bytes)) := by
        rw [BandwidthTracker.addPeak]
        split
        · rw [getBucketMbps_eq h hp]
          exact max_mbps hp bytes bucket.bytes
        · rfl
      rw [List.foldl_cons, hstep, List.foldl_cons]
      exact ih _

theorem peakBytes_le_iff {now : Nat} {buckets : List Bucket} {bytes : Nat} :
    peakBytes t now buckets ≤ bytes ↔
      ∀ bucket ∈ buckets, t.isValid bucket now = true → bucket.bytes ≤ bytes := by
  induction buckets using List.reverseRecOn with
  | nil => simp [peakBytes]
  | append_singleton buckets bucket ih =>
      have hlast : peakBytes t now (buckets ++ [bucket]) = if t.isValid bucket now then
          max (peakBytes t now buckets) bucket.bytes else peakBytes t now buckets := by
        rw [peakBytes, List.foldl_append]
        rfl
      rw [hlast]
      split
      · rename_i hvalid
        simp [ih, hvalid, or_imp, forall_and]
      · rename_i hinvalid
        simp [ih, hinvalid, or_imp, forall_and]

theorem mbps_zero (p : Nat) : mbps p 0 = 0 := by simp [mbps]

theorem getPeakMbps_eq (h : t.bucketIntervalMs = p) (hp : 0 < p) (now : Nat) :
    t.getPeakMbps now = .fin (mbps p (peakBytes t now t.buckets)) := by
  rw [BandwidthTracker.getPeakMbps, ← mbps_zero p]
  exact foldl_addPeak h hp now t.buckets 0

/-- The bucket of an interval in the window, unless a later one has taken its slot. -/
theorem total_le_peakBytes (h : Refines windowSeconds p n log t)
    (hdiv : Divides windowSeconds p n) (hlog : ∀ received ∈ log, received.now ≤ now)
    (hk : now < startOf p (k + n) ∨ ¬ HasBytes p log (k + n))
    (hwindow : now ≤ startOf p k + n * (p * 1000000)) :
    total p log k ≤ peakBytes t now t.buckets := by
  by_cases hbytes : HasBytes p log k
  · have hmod := Nat.mod_lt k hdiv.count
    have hlength : k % n < t.buckets.length := by rwa [h.length]
    have hslot := h.slot (k % n) _ (List.getElem?_eq_getElem hlength)
    have hmem := List.getElem_mem hlength
    generalize t.buckets[k % n] = bucket at hslot hmem
    cases hslot with
    | empty hnone => exact absurd rfl (hnone k hbytes)
    | latest k' hk' hbytes' hmax =>
        have hle := hmax k hbytes rfl
        have heq : k' = k := by
          by_contra hne
          have hadd : k + n ≤ k' := add_le_of_mod_eq (by omega) hk'.symm
          have hstart := (startOf_le_of_hasBytes hlog hbytes').2
          have hmono := startOf_le_startOf (p := p) hadd
          rcases hk with hlt | hnone
          · omega
          · -- The later interval begins now, so it is the next with this slot.
            have hsum := startOf_add p k n
            have hp := hdiv.interval
            have heq : k' = k + n := by
              by_contra hne'
              have hsucc := startOf_le_startOf (p := p) (show k + n + 1 ≤ k' by omega)
              rw [startOf_add] at hsucc
              omega
            exact hnone (heq ▸ hbytes')
        subst heq
        refine peakBytes_le_iff.mp le_rfl _ hmem ((isValid_iff h hdiv _ now).mpr ?_)
        show (now : Int) ≤ (startOf p k' : Int) + (n * (p * 1000000) : Nat)
        omega
  · rw [total_eq_zero hbytes]
    exact Nat.zero_le _

theorem getPeakMbps_refines (h : Refines windowSeconds p n log t)
    (hdiv : Divides windowSeconds p n) (now : Nat) (hlog : ∀ received ∈ log, received.now ≤ now)
    (haliased : ¬ Aliased windowSeconds p log (.getPeakMbps now)) :
    t.getPeakMbps now = .fin (peakOf windowSeconds p log now) := by
  rw [getPeakMbps_eq h.interval hdiv.interval, peakOf]
  congr 2
  have hend := lt_startOf_succ hdiv.interval now
  have hwindow := hdiv.nanoseconds
  apply Nat.le_antisymm
  · rw [peakBytes_le_iff]
    intro bucket hmem hvalid
    rw [isValid_iff h hdiv] at hvalid
    obtain ⟨i, hi⟩ := List.getElem?_of_mem hmem
    have hslot := h.slot i bucket hi
    cases hslot with
    | empty => exact Nat.zero_le _
    | latest k hk hbytes hmax =>
        have hle := startOf_le_of_hasBytes hlog hbytes
        refine Finset.le_sup (f := total p log) (Finset.mem_filter.mpr ⟨?_, ?_⟩)
        · exact Finset.mem_range.mpr (Nat.lt_succ_of_le hle.1)
        · simp only at hvalid
          omega
  · refine Finset.sup_le fun k hk => ?_
    have hin := (Finset.mem_filter.mp hk).2
    have hsum := startOf_add p k n
    by_cases hfirst : now < startOf p (k + n) ∨ ¬ HasBytes p log (k + n)
    · exact total_le_peakBytes h hdiv hlog hfirst (by omega)
    · -- The next interval with this slot begins now and has it.
      push Not at hfirst
      have hnow : startOf p (k + n) = now := by omega
      have hinterval : intervalOf p now = k + n := by
        rw [← hnow, intervalOf_startOf hdiv.interval]
      by_cases hbytes : HasBytes p log k
      · by_contra hlt
        refine haliased ⟨by rw [hinterval, hnow], ?_, by rw [hinterval]; exact hfirst.2, ?_⟩
        · rwa [hinterval, hdiv.count_eq, Nat.add_sub_cancel]
        · rw [hinterval, hdiv.count_eq, Nat.add_sub_cancel]
          intro k' hk' hlater'
          refine lt_of_le_of_lt (total_le_peakBytes h hdiv hlog (.inl ?_) ?_) (not_le.mp hlt)
          · have hmono := startOf_le_startOf (p := p) (show k + n + 1 ≤ k' + n by omega)
            have hp := hdiv.interval
            rw [startOf_add] at hmono
            omega
          · have hmono := startOf_le_startOf (p := p) hlater'.le
            omega
      · rw [total_eq_zero hbytes]
        exact Nat.zero_le _

/-! ### The average -/

/-- The bucket at a position among the newest is that of the interval, or it is not valid. -/
theorem bucket_of_position (h : Refines windowSeconds p n log t)
    (hdiv : Divides windowSeconds p n) (hlog : ∀ received ∈ log, received.now ≤ now)
    (hlater : windowSeconds * 1000000000 < now)
    (haliased : ¬ Aliased windowSeconds p log (.getAverageMbps now)) {i : Nat} (hi : i < n / 4)
    {bucket : Bucket} (hslot : Slot p n log ((intervalOf p now - i) % n) bucket) :
    HasBytes p log (intervalOf p now - i) ∧
        bucket = ⟨startOf p (intervalOf p now - i), total p log (intervalOf p now - i)⟩ ∧
        t.isValid bucket now = true ∨
      ¬ HasBytes p log (intervalOf p now - i) ∧ t.isValid bucket now = false := by
  have hcount := count_le_intervalOf hdiv hlater
  have hstart := startOf_intervalOf_le p now
  have hend := lt_startOf_succ hdiv.interval now
  have hsum : startOf p (intervalOf p now) =
      startOf p (intervalOf p now - i) + i * (p * 1000000) := by
    rw [← startOf_add, Nat.sub_add_cancel (by omega)]
  have hpositions : i * (p * 1000000) + p * 1000000 ≤ n * (p * 1000000) := by
    rw [← Nat.succ_mul]
    exact Nat.mul_le_mul_right _ (by omega)
  have hwindow := hdiv.nanoseconds
  cases hslot with
  | empty hnone =>
      refine .inr ⟨fun hbytes => hnone _ hbytes rfl, ?_⟩
      rw [← Bool.not_eq_true, isValid_iff h hdiv]
      show ¬ (now : Int) ≤ 0 + (n * (p * 1000000) : Nat)
      omega
  | latest k hk hbytes hmax =>
      by_cases heq : k = intervalOf p now - i
      · subst heq
        refine .inl ⟨hbytes, rfl, (isValid_iff h hdiv _ now).mpr ?_⟩
        show (now : Int) ≤ (startOf p _ : Int) + (n * (p * 1000000) : Nat)
        omega
      · have hnone : ¬ HasBytes p log (intervalOf p now - i) := by
          intro hbytes'
          have hle := hmax _ hbytes' rfl
          have hadd := add_le_of_mod_eq (by omega) hk.symm
          have hle' := (startOf_le_of_hasBytes hlog hbytes).1
          omega
        refine .inr ⟨hnone, ?_⟩
        -- The interval of the bucket is one window older or more.
        have hadd : k + n ≤ intervalOf p now - i := by
          refine add_le_of_mod_eq ?_ hk
          by_contra hlt
          have hadd := add_le_of_mod_eq (by omega) hk.symm
          have hle' := (startOf_le_of_hasBytes hlog hbytes).1
          omega
        have hmono := startOf_le_startOf (p := p) hadd
        rw [startOf_add] at hmono
        rw [← Bool.not_eq_true, isValid_iff h hdiv]
        intro hvalid
        replace hvalid : (now : Int) ≤ (startOf p k : Int) + (n * (p * 1000000) : Nat) := hvalid
        have hp := hdiv.interval
        obtain rfl : i = 0 := by
          by_contra hne
          have hstep := Nat.mul_le_mul_right (p * 1000000) (Nat.one_le_iff_ne_zero.mpr hne)
          omega
        rw [Nat.sub_zero] at hnone hmono
        have hnow : startOf p (k + n) = now := by
          rw [startOf_add]
          omega
        have hinterval : intervalOf p now = k + n := by
          rw [← hnow, intervalOf_startOf hp]
        refine haliased ⟨by rw [hinterval, hnow], ?_, hnone, ?_⟩
        · rwa [hinterval, hdiv.count_eq, Nat.add_sub_cancel]
        · rw [hdiv.count_eq]
          omega

/-- The bytes of the completed intervals, and the start of the oldest with something. -/
def sumOf (p : Nat) (log : List Received) (now maxBuckets : Nat) : Nat × Int :=
  (((completed p maxBuckets now).map (total p log)).sum,
    match ((completed p maxBuckets now).filter fun k => HasBytes p log k).getLast? with
    | none => now
    | some oldest => startOf p oldest)

theorem completed_succ (p m now : Nat) :
    completed p (m + 1) now = completed p m now ++
      [intervalOf p now - m].filter fun k => p * 1000000 ≤ now - startOf p k := by
  rw [completed, List.range_succ, List.map_append, List.filter_append]
  rfl

theorem completed_succ_of_le {m : Nat}
    (hcompleted : p * 1000000 ≤ now - startOf p (intervalOf p now - m)) :
    completed p (m + 1) now = completed p m now ++ [intervalOf p now - m] := by
  rw [completed_succ, List.filter_cons_of_pos (by simpa using hcompleted), List.filter_nil]

theorem completed_succ_of_not_le {m : Nat}
    (hcompleted : ¬ p * 1000000 ≤ now - startOf p (intervalOf p now - m)) :
    completed p (m + 1) now = completed p m now := by
  rw [completed_succ, List.filter_cons_of_neg (by simpa using hcompleted), List.filter_nil,
    List.append_nil]

/-- The positions that are listed are newer than the next. -/
theorem lt_of_mem_completed {m : Nat} (h : k ∈ completed p m now) (hm : m ≤ intervalOf p now) :
    intervalOf p now - m < k ∧ p * 1000000 ≤ now - startOf p k := by
  obtain ⟨hmem, hcompleted⟩ := List.mem_filter.mp h
  obtain ⟨i, hi, rfl⟩ := List.mem_map.mp hmem
  rw [List.mem_range] at hi
  exact ⟨by omega, by simpa using hcompleted⟩

theorem sumOf_succ_of_hasBytes {m : Nat} (hm : m ≤ intervalOf p now) (hp : 0 < p)
    (hbytes : HasBytes p log (intervalOf p now - m))
    (hcompleted : p * 1000000 ≤ now - startOf p (intervalOf p now - m)) :
    sumOf p log now (m + 1) = ((sumOf p log now m).1 + total p log (intervalOf p now - m),
        (startOf p (intervalOf p now - m) : Int)) ∧
      (startOf p (intervalOf p now - m) : Int) < (sumOf p log now m).2 := by
  constructor
  · rw [sumOf, completed_succ_of_le hcompleted]
    simp [sumOf, hbytes]
  · simp only [sumOf]
    cases hlast : ((completed p m now).filter fun k => HasBytes p log k).getLast? with
    | none =>
        show (startOf p (intervalOf p now - m) : Int) < now
        omega
    | some oldest =>
        have hmem := List.mem_of_mem_filter (List.mem_of_getLast? hlast)
        have hmono := startOf_le_startOf (p := p)
          (Nat.succ_le_of_lt (lt_of_mem_completed hmem hm).1)
        rw [Nat.succ_eq_add_one, startOf_add] at hmono
        show (startOf p (intervalOf p now - m) : Int) < startOf p oldest
        omega

theorem sumOf_succ_of_not_hasBytes {m : Nat} (hbytes : ¬ HasBytes p log (intervalOf p now - m)) :
    sumOf p log now (m + 1) = sumOf p log now m := by
  by_cases hcompleted : p * 1000000 ≤ now - startOf p (intervalOf p now - m)
  · rw [sumOf, completed_succ_of_le hcompleted, sumOf]
    simp [hbytes, total_eq_zero hbytes]
  · rw [sumOf, completed_succ_of_not_le hcompleted, sumOf]

theorem sumOf_succ_of_not_completed {m : Nat}
    (hcompleted : ¬ p * 1000000 ≤ now - startOf p (intervalOf p now - m)) :
    sumOf p log now (m + 1) = sumOf p log now m := by
  rw [sumOf, completed_succ_of_not_le hcompleted, sumOf]

/-- The index of a position in the ring. -/
theorem position_index {i : Nat} (hi : i ≤ n) (hk : i ≤ k) :
    (((k % n : Nat) : Int) - i + n).tmod n = ((k - i) % n : Nat) := by
  have hsum : ((k % n : Nat) : Int) - i + n = (k % n + (n - i) : Nat) := by omega
  have hshift : k + (n - i) = k - i + n := by omega
  rw [hsum, ← Int.ofNat_tmod, Nat.mod_add_mod, hshift, Nat.add_mod_right]

/-- One step of the loop. -/
theorem addCompleted_eq (h : Refines windowSeconds p n log t)
    (hdiv : Divides windowSeconds p n) (hlog : ∀ received ∈ log, received.now ≤ now)
    (hlater : windowSeconds * 1000000000 < now)
    (haliased : ¬ Aliased windowSeconds p log (.getAverageMbps now)) {i : Nat} (hi : i < n / 4) :
    t.addCompleted .exact now (intervalOf p now % n : Nat) (sumOf p log now i) i =
      .ok (sumOf p log now (i + 1)) := by
  have hcount := count_le_intervalOf hdiv hlater
  have hmod := Nat.mod_lt (intervalOf p now - i) hdiv.count
  obtain ⟨bucket, hbucket, hslot⟩ := h.bucketAt hmod
  have hstep : t.addCompleted .exact now (intervalOf p now % n : Nat) (sumOf p log now i) i =
      if t.isValid bucket now && (now : Int) - bucket.start ≥ (p : Int) * 1000000 then
        .ok ((sumOf p log now i).1 + bucket.bytes,
          if bucket.start < (sumOf p log now i).2 then bucket.start else (sumOf p log now i).2)
      else .ok (sumOf p log now i) := by
    have hn := hdiv.count
    rw [BandwidthTracker.addCompleted, h.count, h.interval]
    show (remainder (((intervalOf p now % n : Nat) : Int) - i + n) n >>= _) = _
    rw [BandwidthTracker.remainder_ok (by omega), BandwidthTracker.ok_bind,
      position_index (by omega) (by omega)]
    show (t.bucketAt ((intervalOf p now - i) % n : Nat) >>= _) = _
    rw [hbucket]
    rfl
  rw [hstep]
  rcases bucket_of_position h hdiv hlog hlater haliased hi hslot with
    ⟨hbytes, rfl, hvalid⟩ | ⟨hbytes, hinvalid⟩
  · have hstart := startOf_intervalOf_le p now
    have hmono := startOf_le_startOf (p := p) (Nat.sub_le (intervalOf p now) i)
    by_cases hcompleted : p * 1000000 ≤ now - startOf p (intervalOf p now - i)
    · obtain ⟨hsum, hlt⟩ := sumOf_succ_of_hasBytes (by omega) hdiv.interval hbytes hcompleted
      rw [hvalid, if_pos, if_pos hlt, hsum]
      rw [Bool.true_and, decide_eq_true_eq]
      show (now : Int) - startOf p _ ≥ _
      omega
    · rw [hvalid, if_neg, sumOf_succ_of_not_completed hcompleted]
      rw [Bool.true_and, decide_eq_true_eq]
      show ¬ (now : Int) - startOf p _ ≥ _
      omega
  · rw [hinvalid, Bool.false_and, if_neg Bool.false_ne_true, sumOf_succ_of_not_hasBytes hbytes]

theorem foldlM_addCompleted (h : Refines windowSeconds p n log t)
    (hdiv : Divides windowSeconds p n) (hlog : ∀ received ∈ log, received.now ≤ now)
    (hlater : windowSeconds * 1000000000 < now)
    (haliased : ¬ Aliased windowSeconds p log (.getAverageMbps now)) {m : Nat} (hm : m ≤ n / 4) :
    (List.range m).foldlM (t.addCompleted .exact now (intervalOf p now % n : Nat)) (0, now) =
      .ok (sumOf p log now m) := by
  induction m with
  | zero => rfl
  | succ m ih =>
      rw [List.range_succ, List.foldlM_append, ih (by omega), BandwidthTracker.ok_bind,
        List.foldlM_cons, addCompleted_eq h hdiv hlog hlater haliased (by omega)]
      rfl

theorem getAverageMbps_refines (h : Refines windowSeconds p n log t)
    (hdiv : Divides windowSeconds p n) (now : Nat) (hlog : ∀ received ∈ log, received.now ≤ now)
    (hlater : windowSeconds * 1000000000 < now)
    (haliased : ¬ Aliased windowSeconds p log (.getAverageMbps now)) :
    t.getAverageMbps .exact now = .ok (averageOf windowSeconds p log now) := by
  have hcount := count_le_intervalOf hdiv hlater
  have hbuckets : (Conversions.exact.toInt (t.bucketCount / 4)).toNat = n / 4 := by
    rw [h.count]
    show ((n : Int) / 4).toNat = n / 4
    omega
  have hsum := foldlM_addCompleted h hdiv hlog hlater haliased (le_refl (n / 4))
  rw [BandwidthTracker.getAverageMbps, h.currentIndex hdiv now, BandwidthTracker.ok_bind]
  simp only [hbuckets, hsum, BandwidthTracker.ok_bind]
  rw [averageOf, hdiv.count_eq]
  rcases Option.eq_none_or_eq_some
    ((completed p (n / 4) now).filter fun k => HasBytes p log k).getLast? with
    hlast | ⟨oldest, hlast⟩
  · have holdest : (sumOf p log now (n / 4)).2 = now := by rw [sumOf, hlast]
    rw [holdest, hlast, sub_self, if_pos (by simp)]
    rfl
  · have holdest : (sumOf p log now (n / 4)).2 = startOf p oldest := by rw [sumOf, hlast]
    have hmem := List.mem_of_mem_filter (List.mem_of_getLast? hlast)
    have hcompleted := (lt_of_mem_completed hmem (by omega)).2
    have hp := hdiv.interval
    have helapsed : (0 : ℚ) < ((now - startOf p oldest : Int) : ℚ) / 1000000000 := by
      have hpos : (0 : Int) < now - startOf p oldest := by omega
      have hcast : (0 : ℚ) < ((now - startOf p oldest : Int) : ℚ) := Int.cast_pos.mpr hpos
      linarith
    rw [holdest, hlast, if_neg (not_le.mpr helapsed)]
    rfl

/-! ### Runs -/

/-- The time of a call. -/
def timeOf : BandwidthCall → Nat
  | .addBytes _ now | .getAverageMbps now | .getPeakMbps now => now

/-- One call. -/
theorem call_refines (h : Refines windowSeconds p n log t) (hdiv : Divides windowSeconds p n)
    {call : BandwidthCall} (hlog : ∀ received ∈ log, received.now ≤ timeOf call)
    (hlater : windowSeconds * 1000000000 < timeOf call)
    (haliased : ¬ Aliased windowSeconds p log call) :
    ∃ t', t.call .exact call = .ok (t', answerOf windowSeconds p log call) ∧
      Refines windowSeconds p n (record log call) t' := by
  cases call with
  | addBytes bytes now =>
      obtain ⟨t', ht', hrefines⟩ := refines_updateBucket h hdiv now hlog hlater bytes
      rw [BandwidthTracker.call, ht']
      exact ⟨t', rfl, hrefines⟩
  | getAverageMbps now =>
      rw [BandwidthTracker.call, getAverageMbps_refines h hdiv now hlog hlater haliased]
      exact ⟨t, rfl, h⟩
  | getPeakMbps now =>
      rw [BandwidthTracker.call, getPeakMbps_refines h hdiv now hlog haliased]
      exact ⟨t, rfl, h⟩

theorem answers_refine (hdiv : Divides windowSeconds p n) {calls : List BandwidthCall}
    (h : Refines windowSeconds p n log t)
    (hlog : ∀ received ∈ log, ∀ call ∈ calls, received.now ≤ timeOf call)
    (hmono : calls.Pairwise fun a b => timeOf a ≤ timeOf b)
    (hlater : ∀ call ∈ calls, windowSeconds * 1000000000 < timeOf call)
    (haliased : AllSteps record (fun log call => ¬ Aliased windowSeconds p log call) log calls) :
    t.answers .exact calls = .ok (outputs record (answerOf windowSeconds p) log calls) := by
  induction calls generalizing t log with
  | nil => rfl
  | cons call calls ih =>
      obtain ⟨hfirst, hmono⟩ := List.pairwise_cons.mp hmono
      obtain ⟨t', hcall, hrefines⟩ := call_refines h hdiv
        (fun received hmem => hlog received hmem call List.mem_cons_self)
        (hlater call List.mem_cons_self) haliased.1
      have hlog' : ∀ received ∈ record log call, ∀ call' ∈ calls, received.now ≤ timeOf call' := by
        intro received hmem call' hcall'
        have hbefore (hmem : received ∈ log) : received.now ≤ timeOf call' :=
          hlog received hmem call' (List.mem_cons_of_mem _ hcall')
        cases call with
        | addBytes bytes now =>
            rcases List.mem_append.mp hmem with hmem | hmem
            · exact hbefore hmem
            · obtain rfl := List.mem_singleton.mp hmem
              exact hfirst call' hcall'
        | getAverageMbps now => exact hbefore hmem
        | getPeakMbps now => exact hbefore hmem
      have hrest := ih hrefines hlog' hmono
        (fun call' hcall' => hlater call' (List.mem_cons_of_mem _ hcall')) haliased.2
      simp only [BandwidthTracker.answers, hcall, hrest, BandwidthTracker.ok_bind]
      rfl

/-- **The ring refines the log.** For an interval that divides a window that is not empty, and
calls at times that do not decrease, all later than one window, in a run without aliased queries
each query returns what it is for the log. -/
theorem bandwidth_refines_log (window interval : UInt32) (hinterval : interval.toNat ≠ 0)
    (hdvd : interval.toNat ∣ window.toNat * 1000) (hwindow : window.toNat ≠ 0)
    (calls : List BandwidthCall) (hmono : calls.Pairwise fun a b => timeOf a ≤ timeOf b)
    (hlater : ∀ call ∈ calls, window.toNat * 1000000000 < timeOf call)
    (h : AllSteps record (fun log call => ¬ Aliased window.toNat interval.toNat log call) []
      calls) :
    (BandwidthTracker.new .exact window interval).answers .exact calls =
      .ok (outputs record (answerOf window.toNat interval.toNat) [] calls) := by
  have hdiv : Divides window.toNat interval.toNat (window.toNat * 1000 / interval.toNat) := by
    have hle := Nat.le_of_dvd (by omega) hdvd
    exact ⟨Nat.pos_of_ne_zero hinterval, Nat.div_pos hle (Nat.pos_of_ne_zero hinterval),
      (Nat.div_mul_cancel hdvd).symm⟩
  exact answers_refine hdiv (refines_new hdiv rfl rfl) (by simp) hmono hlater h

section Sample

/-- Two intervals with bytes, and queries in the next and one window later, where the first one
is not valid any more. -/
def sampleCalls : List BandwidthCall :=
  [.addBytes 1000 2000000000, .addBytes 500 2100000000, .addBytes 3000 2300000000,
    .getAverageMbps 2600000000, .getPeakMbps 2600000000, .getPeakMbps 3100000000]

theorem sampleCalls_refine :
    (BandwidthTracker.new .exact 1 250).answers .exact sampleCalls =
      .ok (outputs record (answerOf 1 250) [] sampleCalls) :=
  bandwidth_refines_log 1 250 (by decide) (by decide) (by decide) sampleCalls (by decide)
    (by decide) (by decide)

/-- One window after the start of an interval that has received 1000 bytes, the average counts
it as new, and the peak has lost it to what has been added at that instant. -/
theorem aliased_queries_differ :
    (BandwidthTracker.new .exact 1 250).answers .exact
        [.addBytes 1000 2000000000, .getAverageMbps 3000000000] ≠
      .ok (outputs record (answerOf 1 250) []
        [.addBytes 1000 2000000000, .getAverageMbps 3000000000]) ∧
    (BandwidthTracker.new .exact 1 250).answers .exact
        [.addBytes 1000 2000000000, .addBytes 1 3000000000, .getPeakMbps 3000000000] ≠
      .ok (outputs record (answerOf 1 250) []
        [.addBytes 1000 2000000000, .addBytes 1 3000000000, .getPeakMbps 3000000000]) := by
  constructor
  · have hring : (BandwidthTracker.new .exact 1 250).answers .exact
        [.addBytes 1000 2000000000, .getAverageMbps 3000000000] = .ok [.fin (1 / 125)] := by
      decide +kernel
    have hlog : outputs record (answerOf 1 250) []
        [.addBytes 1000 2000000000, .getAverageMbps 3000000000] = [.fin 0] := by
      decide +kernel
    rw [hring, hlog]
    simp
  · have hring : (BandwidthTracker.new .exact 1 250).answers .exact
        [.addBytes 1000 2000000000, .addBytes 1 3000000000, .getPeakMbps 3000000000] =
          .ok [.fin (4 / 125000)] := by
      decide +kernel
    have hlog : outputs record (answerOf 1 250) []
        [.addBytes 1000 2000000000, .addBytes 1 3000000000, .getPeakMbps 3000000000] =
          [.fin (4 / 125)] := by
      decide +kernel
    rw [hring, hlog]
    norm_num

end Sample

end BandwidthLog

end GilStreaming.Streaming
