import Mathlib.Data.List.Chain
import GilStreaming.Streaming.GamepadSlots

/-!
# GilStreaming.Streaming.MotionReports

The rate of motion reports.

The host asks for a rate, and `setMotionEventState` keeps the period, `1000 / rate` milliseconds,
in a byte. From 4 to 1000 Hz it fits, and reports come as asked, as long as no event is so late
that the signed difference of `SDL_TICKS_PASSED` wraps. Below, the byte is too short for the
period, and above, the period is zero, which switches the sensor off.
-/

namespace GilStreaming.Streaming

open Trace

/-! ### When a report is due -/

theorem sdlTicksPassed_iff (a b : UInt32) :
    sdlTicksPassed a b = true ↔ (b - a).toNat = 0 ∨ 2147483648 ≤ (b - a).toNat := by
  have hlt := (b - a).toNat_lt
  rw [sdlTicksPassed, decide_eq_true_iff, BitVec.toInt_eq_toNat_cond]
  show (if 2 * (b - a).toNat < 2 ^ 32 then ((b - a).toNat : Int)
    else ((b - a).toNat : Int) - (2 ^ 32 : Nat)) ≤ 0 ↔ _
  split <;> omega

/-- A report of changed data is due from the end of the period on, until the difference
wraps. -/
theorem SensorReports.isDue_iff {reports : SensorReports} {timestamp : UInt32}
    {data : SensorData} (hperiod : reports.reportPeriodMs ≠ 0)
    (htime : reports.lastEventTime.toNat ≤ timestamp.toNat) (hdata : data ≠ reports.lastEventData) :
    reports.isDue timestamp data = true ↔
      reports.lastEventTime.toNat + reports.reportPeriodMs.toNat ≤ timestamp.toNat ∧
        timestamp.toNat ≤
          reports.lastEventTime.toNat + reports.reportPeriodMs.toNat + 2147483648 := by
  have hbyte := reports.reportPeriodMs.toNat_lt
  have htimestamp := timestamp.toNat_lt
  have hlast := reports.lastEventTime.toNat_lt
  have hsum : (reports.lastEventTime + reports.reportPeriodMs.toUInt32).toNat =
      (reports.lastEventTime.toNat + reports.reportPeriodMs.toNat) % 2 ^ 32 := by
    rw [UInt32.toNat_add, UInt8.toNat_toUInt32]
  rw [isDue, bne_iff_ne.mpr hperiod, bne_iff_ne.mpr hdata, Bool.true_and, Bool.and_true,
    sdlTicksPassed_iff, UInt32.toNat_sub, hsum]
  omega

/-- A zero period switches the sensor off. -/
theorem SensorReports.isDue_zero {reports : SensorReports} (h : reports.reportPeriodMs = 0)
    (timestamp : UInt32) (data : SensorData) : reports.isDue timestamp data = false := by
  rw [isDue, h]
  rfl

namespace Gamepads

theorem reportPeriod_toNat {rate : UInt16} (h4 : 4 ≤ rate.toNat) (h1000 : rate.toNat ≤ 1000) :
    (reportPeriod rate).toNat = 1000 / rate.toNat ∧ reportPeriod rate ≠ 0 := by
  have hrate : rate ≠ 0 := fun h => by rw [h] at h4; simp at h4
  have hle : 1000 / rate.toNat ≤ 250 := Nat.div_le_div_left h4 (by decide)
  have hpos : 0 < 1000 / rate.toNat := Nat.div_pos h1000 (by omega)
  have hvalue : (reportPeriod rate).toNat = 1000 / rate.toNat := by
    rw [reportPeriod, if_neg hrate]
    show (1000 / rate.toNat) % 2 ^ 8 = _
    omega
  exact ⟨hvalue, fun h => by rw [h] at hvalue; simp at hvalue; omega⟩

variable {s : Gamepads} {which : Int} {motionType : MotionType} {i : Fin MAX_GAMEPADS}

/-! ### Sensor events of a gamepad -/

/-- The reports of a sensor of the gamepad in a slot. -/
def reportsOf (s : Gamepads) (i : Fin MAX_GAMEPADS) : MotionType → SensorReports
  | .accel => (s.slots i).accel
  | .gyro => (s.slots i).gyro

/-- An event of the sensor, with its timestamp and data. -/
def sensorStep (which : Int) (motionType : MotionType) (s : Gamepads)
    (e : UInt32 × SensorData) : Gamepads :=
  step s (.sensor which (some motionType) e.1 e.2)

/-- The time of the event, if something is sent for it. -/
def reportTime (which : Int) (motionType : MotionType) (s : Gamepads) (e : UInt32 × SensorData) :
    Option UInt32 :=
  if (sensorStep which motionType s e).sent = s.sent then none else some e.1

theorem reportsOf_setState (s : Gamepads) (i : Fin MAX_GAMEPADS) (state : GamepadState) :
    (s.setState i state).reportsOf i .accel = state.accel ∧
      (s.setState i state).reportsOf i .gyro = state.gyro := by
  rw [reportsOf, reportsOf, setState_slots_self]
  exact ⟨rfl, rfl⟩

/-- An event that is due is reported, and its time and data are kept. -/
theorem sensorStep_due (hfound : s.findStateForGamepad which = some i) (e : UInt32 × SensorData)
    (hdue : (s.reportsOf i motionType).isDue e.1 e.2 = true) :
    reportTime which motionType s e = some e.1 ∧
      (sensorStep which motionType s e).findStateForGamepad which = some i ∧
      (sensorStep which motionType s e).reportsOf i motionType =
        ⟨(s.reportsOf i motionType).reportPeriodMs, e.2, e.1⟩ := by
  obtain ⟨state, hcontroller, hjsId, hindex, hstep, hreports⟩ : ∃ state : GamepadState,
      state.controller = (s.slots i).controller ∧ state.jsId = (s.slots i).jsId ∧
      state.index = (s.slots i).index ∧
      sensorStep which motionType s e =
        (s.setState i state).send which (.motion (s.slots i).index motionType e.2) ∧
      (s.setState i state).reportsOf i motionType =
        ⟨(s.reportsOf i motionType).reportPeriodMs, e.2, e.1⟩ := by
    cases motionType with
    | accel =>
        refine ⟨{ s.slots i with
          accel := ⟨(s.slots i).accel.reportPeriodMs, e.2, e.1⟩ }, rfl, rfl, rfl, ?_,
          (reportsOf_setState s i _).1⟩
        simp only [sensorStep, step, handleControllerSensorEvent, hfound]
        exact if_pos hdue
    | gyro =>
        refine ⟨{ s.slots i with
          gyro := ⟨(s.slots i).gyro.reportPeriodMs, e.2, e.1⟩ }, rfl, rfl, rfl, ?_,
          (reportsOf_setState s i _).2⟩
        simp only [sensorStep, step, handleControllerSensorEvent, hfound]
        exact if_pos hdue
  have hkeeps : Keeps i s (s.setState i state) := keeps_setState s hcontroller hjsId hindex
  rw [reportTime, hstep]
  refine ⟨if_neg fun hsame => ?_, ?_, hreports⟩
  · exact absurd (congrArg List.length hsame) (by simp [send, setState])
  · exact (hkeeps.findStateForGamepad which).trans hfound

/-- One that is not due does nothing. -/
theorem sensorStep_early (hfound : s.findStateForGamepad which = some i)
    (e : UInt32 × SensorData) (hdue : (s.reportsOf i motionType).isDue e.1 e.2 = false) :
    reportTime which motionType s e = none ∧ sensorStep which motionType s e = s := by
  have hsame : sensorStep which motionType s e = s := by
    have hnot : ¬ (s.reportsOf i motionType).isDue e.1 e.2 = true := by simp [hdue]
    cases motionType with
    | accel =>
        simp only [sensorStep, step, handleControllerSensorEvent, hfound]
        exact if_neg hnot
    | gyro =>
        simp only [sensorStep, step, handleControllerSensorEvent, hfound]
        exact if_neg hnot
  exact ⟨if_pos (congrArg Gamepads.sent hsame), hsame⟩

/-! ### Runs -/

/-- The gamepad `which` is open in slot `i`, found there, and the host's number for it is
`controllerNumber`. -/
structure At (s : Gamepads) (which : Int) (controllerNumber : UInt16) (i : Fin MAX_GAMEPADS) :
    Prop where
  isOpen : s.IsOpen i
  found : s.findStateForGamepad which = some i
  number : controllerNumber.toNat = i

/-- Sensor events at times that do not decrease, the time of the last report before them
included, each with other data than the last report. -/
structure Admissible (s : Gamepads) (which : Int) (motionType : MotionType)
    (i : Fin MAX_GAMEPADS) (es : List (UInt32 × SensorData)) : Prop where
  monotone : ((s.reportsOf i motionType).lastEventTime.toNat ::
    es.map fun e => e.1.toNat).Pairwise (· ≤ ·)
  changing : AllSteps (sensorStep which motionType)
    (fun s e => e.2 ≠ (s.reportsOf i motionType).lastEventData) s es

/-- Reports come at the rate: two of them are the period or more apart, and an event that comes
the period or more after the last report (after 0, if there is none) is reported. -/
structure Paced (s : Gamepads) (which : Int) (motionType : MotionType) (i : Fin MAX_GAMEPADS)
    (rate : UInt16) (es : List (UInt32 × SensorData)) : Prop where
  spaced : (outputs (sensorStep which motionType) (reportTime which motionType) s es).IsChain
    fun t t' => t.toNat + 1000 / rate.toNat ≤ t'.toNat
  complete : AllSteps (sensorStep which motionType)
    (fun s e => (s.reportsOf i motionType).lastEventTime.toNat + 1000 / rate.toNat ≤ e.1.toNat →
      reportTime which motionType s e = some e.1) s es

/-- No event comes so long after the last report that the difference wraps. -/
def InWindow (s : Gamepads) (which : Int) (motionType : MotionType) (i : Fin MAX_GAMEPADS)
    (rate : UInt16) (es : List (UInt32 × SensorData)) : Prop :=
  AllSteps (sensorStep which motionType)
    (fun s e => e.1.toNat ≤
      (s.reportsOf i motionType).lastEventTime.toNat + 1000 / rate.toNat + 2147483648) s es

section Rate

variable {rate : UInt16} {e : UInt32 × SensorData} {es : List (UInt32 × SensorData)}

/-- The sensor of the gamepad that is found reports at the rate. -/
structure Reporting (s : Gamepads) (which : Int) (motionType : MotionType)
    (i : Fin MAX_GAMEPADS) (rate : UInt16) : Prop where
  found : s.findStateForGamepad which = some i
  period : (s.reportsOf i motionType).reportPeriodMs = reportPeriod rate

theorem reporting_motionState {controllerNumber : UInt16} (h : At s which controllerNumber i)
    (motionType : MotionType) (rate : UInt16) :
    Reporting (step s (.motionState controllerNumber (some motionType) rate)) which motionType i
      rate := by
  obtain ⟨controller, hcontroller⟩ := Option.ne_none_iff_exists'.mp h.isOpen
  have hlt : controllerNumber.toNat < MAX_GAMEPADS := h.number ▸ i.isLt
  have hi : (⟨controllerNumber.toNat, hlt⟩ : Fin MAX_GAMEPADS) = i := Fin.ext h.number
  have hat : s.controllerAt controllerNumber = some (i, controller) := by
    rw [controllerAt, dif_pos hlt, hi, hcontroller]
    rfl
  refine ⟨?_, ?_⟩
  · rw [step_findStateForGamepad s (fun _ h => by cases h) (fun _ h => by cases h) id]
    exact h.found
  · cases motionType with
    | accel =>
        simp only [step, setMotionEventState, hat]
        exact congrArg SensorReports.reportPeriodMs (reportsOf_setState s i _).1
    | gyro =>
        simp only [step, setMotionEventState, hat]
        exact congrArg SensorReports.reportPeriodMs (reportsOf_setState s i _).2

/-- The first event of a sequence, and the rest of it. -/
theorem admissible_cons (h : Reporting s which motionType i rate)
    (hadm : Admissible s which motionType i (e :: es)) :
    (s.reportsOf i motionType).lastEventTime.toNat ≤ e.1.toNat ∧
      e.2 ≠ (s.reportsOf i motionType).lastEventData ∧
      Reporting (sensorStep which motionType s e) which motionType i rate ∧
      Admissible (sensorStep which motionType s e) which motionType i es := by
  have htimes := List.pairwise_cons.mp hadm.monotone
  refine ⟨htimes.1 _ (by simp), hadm.changing.1, ?_⟩
  cases hdue : (s.reportsOf i motionType).isDue e.1 e.2 with
  | true =>
      obtain ⟨-, hfound, hreports⟩ := sensorStep_due h.found e hdue
      refine ⟨⟨hfound, by rw [hreports]; exact h.period⟩, ⟨?_, hadm.changing.2⟩⟩
      rw [hreports]
      exact htimes.2
  | false =>
      have hrest := hadm.changing.2
      rw [(sensorStep_early h.found e hdue).2] at hrest ⊢
      refine ⟨h, ⟨List.pairwise_cons.mpr ⟨fun t ht => htimes.1 t (List.mem_cons_of_mem _ ht),
        (List.pairwise_cons.mp htimes.2).2⟩, hrest⟩⟩

/-- In range, an event is reported from the end of the period on, until the difference wraps. -/
theorem reported_iff (h : Reporting s which motionType i rate) (h4 : 4 ≤ rate.toNat)
    (h1000 : rate.toNat ≤ 1000)
    (htime : (s.reportsOf i motionType).lastEventTime.toNat ≤ e.1.toNat)
    (hdata : e.2 ≠ (s.reportsOf i motionType).lastEventData) :
    (s.reportsOf i motionType).isDue e.1 e.2 = true ↔
      (s.reportsOf i motionType).lastEventTime.toNat + 1000 / rate.toNat ≤ e.1.toNat ∧
        e.1.toNat ≤
          (s.reportsOf i motionType).lastEventTime.toNat + 1000 / rate.toNat + 2147483648 := by
  obtain ⟨hperiod, hne⟩ := reportPeriod_toNat h4 h1000
  have hiff := SensorReports.isDue_iff (h.period ▸ hne) htime hdata
  rw [h.period, hperiod] at hiff
  exact hiff

theorem spaced_of_reporting (h : Reporting s which motionType i rate) (h4 : 4 ≤ rate.toNat)
    (h1000 : rate.toNat ≤ 1000) (hadm : Admissible s which motionType i es) :
    ((s.reportsOf i motionType).lastEventTime ::
      outputs (sensorStep which motionType) (reportTime which motionType) s es).IsChain
      fun t t' => t.toNat + 1000 / rate.toNat ≤ t'.toNat := by
  induction es generalizing s with
  | nil => exact List.IsChain.singleton _
  | cons e es ih =>
      obtain ⟨htime, hdata, hnext, hrest⟩ := admissible_cons h hadm
      have hchain := ih hnext hrest
      rw [outputs]
      cases hdue : (s.reportsOf i motionType).isDue e.1 e.2 with
      | true =>
          obtain ⟨hreported, -, hreports⟩ := sensorStep_due h.found e hdue
          rw [hreports] at hchain
          rw [hreported, Option.toList_some, List.singleton_append]
          exact List.isChain_cons_cons.mpr
            ⟨((reported_iff h h4 h1000 htime hdata).mp hdue).1, hchain⟩
      | false =>
          obtain ⟨hreported, hsame⟩ := sensorStep_early h.found e hdue
          rw [hsame] at hchain
          rw [hreported, hsame]
          exact hchain

theorem complete_iff_inWindow (h : Reporting s which motionType i rate) (h4 : 4 ≤ rate.toNat)
    (h1000 : rate.toNat ≤ 1000) (hadm : Admissible s which motionType i es) :
    AllSteps (sensorStep which motionType)
        (fun s e => (s.reportsOf i motionType).lastEventTime.toNat + 1000 / rate.toNat ≤
          e.1.toNat → reportTime which motionType s e = some e.1) s es ↔
      InWindow s which motionType i rate es := by
  induction es generalizing s with
  | nil => exact Iff.rfl
  | cons e es ih =>
      obtain ⟨htime, hdata, hnext, hrest⟩ := admissible_cons h hadm
      refine and_congr ?_ (ih hnext hrest)
      have hiff := reported_iff h h4 h1000 htime hdata
      cases hdue : (s.reportsOf i motionType).isDue e.1 e.2 with
      | true =>
          obtain ⟨hreported, -⟩ := sensorStep_due h.found e hdue
          exact iff_of_true (fun _ => hreported) (hiff.mp hdue).2
      | false =>
          obtain ⟨hreported, -⟩ := sensorStep_early h.found e hdue
          rw [hdue] at hiff
          simp only [hreported]
          constructor
          · intro hlate
            by_contra hwindow
            exact absurd (hlate (by omega)) (by simp)
          · intro hwindow hlate
            exact absurd (hiff.mpr ⟨hlate, hwindow⟩) Bool.false_ne_true

end Rate

/-! ### The rates that fail -/

/-- One gamepad that is open. -/
def sampleGamepad : Gamepads :=
  step (new true false false false ∅) (.added (some ⟨100, 1, false, .ps, true, .unknown⟩))

/-- The host asks for reports of its gyroscope. -/
def sampleSensor (rate : UInt16) : Gamepads := step sampleGamepad (.motionState 0 (some .gyro) rate)

theorem at_sampleGamepad : At sampleGamepad 1 0 0 := ⟨by decide, by decide, by decide⟩

/-- Two events of the gyroscope. -/
def sampleSensorEvents : List (UInt32 × SensorData) := [(1000, ⟨1, 0, 0⟩), (1332, ⟨2, 0, 0⟩)]

theorem not_paced_of_low {rate : UInt16} (hrate : rate ≠ 0) (h : rate.toNat < 4) :
    Admissible (sampleSensor rate) 1 .gyro 0 sampleSensorEvents ∧
      InWindow (sampleSensor rate) 1 .gyro 0 rate sampleSensorEvents ∧
      ¬ Paced (sampleSensor rate) 1 .gyro 0 rate sampleSensorEvents := by
  obtain rfl | rfl | rfl : rate = 1 ∨ rate = 2 ∨ rate = 3 := by
    have hpos : rate.toNat ≠ 0 := fun h0 => hrate (UInt16.toNat_inj.mp h0)
    obtain h1 | h2 | h3 : rate.toNat = 1 ∨ rate.toNat = 2 ∨ rate.toNat = 3 := by omega
    · exact .inl (UInt16.toNat_inj.mp h1)
    · exact .inr (.inl (UInt16.toNat_inj.mp h2))
    · exact .inr (.inr (UInt16.toNat_inj.mp h3))
  all_goals
    exact ⟨⟨by decide, by decide⟩, by unfold InWindow; decide, fun hpaced =>
      absurd hpaced.spaced (by decide)⟩

/-- A rate of more than 1000 Hz gives a zero period. -/
theorem reportPeriod_eq_zero {rate : UInt16} (h : 1000 < rate.toNat) : reportPeriod rate = 0 := by
  have hrate : rate ≠ 0 := fun h0 => by rw [h0] at h; simp at h
  rw [reportPeriod, if_neg hrate, Nat.div_eq_of_lt h]
  rfl

theorem not_paced_of_high {rate : UInt16} (h : 1000 < rate.toNat) :
    Admissible (sampleSensor rate) 1 .gyro 0 sampleSensorEvents ∧
      InWindow (sampleSensor rate) 1 .gyro 0 rate sampleSensorEvents ∧
      ¬ Paced (sampleSensor rate) 1 .gyro 0 rate sampleSensorEvents := by
  have hreporting : Reporting (sampleSensor rate) 1 .gyro 0 rate :=
    reporting_motionState at_sampleGamepad .gyro rate
  have hearly (e : UInt32 × SensorData) :
      reportTime 1 .gyro (sampleSensor rate) e = none ∧
        sensorStep 1 .gyro (sampleSensor rate) e = sampleSensor rate :=
    sensorStep_early hreporting.found e
      (SensorReports.isDue_zero (hreporting.period.trans (reportPeriod_eq_zero h)) e.1 e.2)
  have hreports : (sampleSensor rate).reportsOf 0 .gyro = ⟨reportPeriod rate, ⟨0, 0, 0⟩, 0⟩ := rfl
  have hzero : 1000 / rate.toNat = 0 := Nat.div_eq_of_lt h
  refine ⟨⟨?_, ?_⟩, ?_, fun hpaced => ?_⟩
  · show (0 :: sampleSensorEvents.map fun e => e.1.toNat).Pairwise (· ≤ ·)
    decide
  · simp only [sampleSensorEvents, allSteps_cons, allSteps_nil, (hearly _).2, hreports]
    decide
  · simp only [InWindow, sampleSensorEvents, allSteps_cons, allSteps_nil, (hearly _).2, hreports,
      hzero]
    decide
  · have hreported := hpaced.complete.1
    simp only [hreports, hzero, (hearly _).1] at hreported
    exact absurd (hreported (by decide)) (by simp)

/-- **The rate of motion reports.** At a rate from 4 to 1000 Hz, reports come as the rate asks
exactly if no event comes so late that the difference wraps. At any other rate that is not zero
they do not for some events, none of which is late. -/
theorem motion_rate (rate : UInt16) (hrate : rate ≠ 0) :
    (4 ≤ rate.toNat ∧ rate.toNat ≤ 1000 →
      ∀ s which controllerNumber i motionType es, At s which controllerNumber i →
        Admissible (step s (.motionState controllerNumber (some motionType) rate)) which
          motionType i es →
        (Paced (step s (.motionState controllerNumber (some motionType) rate)) which motionType i
            rate es ↔
          InWindow (step s (.motionState controllerNumber (some motionType) rate)) which
            motionType i rate es)) ∧
      (rate.toNat < 4 ∨ 1000 < rate.toNat →
        ∃ s which controllerNumber i motionType es, At s which controllerNumber i ∧
          Admissible (step s (.motionState controllerNumber (some motionType) rate)) which
            motionType i es ∧
          InWindow (step s (.motionState controllerNumber (some motionType) rate)) which
            motionType i rate es ∧
          ¬ Paced (step s (.motionState controllerNumber (some motionType) rate)) which
            motionType i rate es) := by
  constructor
  · intro hrange s which controllerNumber i motionType es hat hadm
    obtain ⟨h4, h1000⟩ := hrange
    have hreporting := reporting_motionState hat motionType rate
    have hcomplete := complete_iff_inWindow hreporting h4 h1000 hadm
    constructor
    · exact fun hpaced => hcomplete.mp hpaced.complete
    · exact fun hwindow =>
        ⟨(spaced_of_reporting hreporting h4 h1000 hadm).tail, hcomplete.mpr hwindow⟩
  · intro hrange
    refine ⟨sampleGamepad, 1, 0, 0, .gyro, sampleSensorEvents, at_sampleGamepad, ?_⟩
    rcases hrange with hlow | hhigh
    · exact not_paced_of_low hrate hlow
    · exact not_paced_of_high hhigh

/-- At 100 Hz. -/
theorem sampleSensor_paced : Paced (sampleSensor 100) 1 .gyro 0 100 sampleSensorEvents :=
  ((motion_rate 100 (by decide)).1 ⟨by decide, by decide⟩ sampleGamepad 1 0 0 .gyro
    sampleSensorEvents at_sampleGamepad ⟨by decide, by decide⟩).mpr (by
      show InWindow (sampleSensor 100) 1 .gyro 0 100 sampleSensorEvents
      unfold InWindow
      decide)

/-- At 2000 Hz nothing is ever reported, and at 1 Hz two reports are 332 ms apart. -/
theorem rates_fail :
    (outputs (sensorStep 1 .gyro) (reportTime 1 .gyro) (sampleSensor 2000) sampleSensorEvents = [] ∧
      ¬ Paced (sampleSensor 2000) 1 .gyro 0 2000 sampleSensorEvents) ∧
    (outputs (sensorStep 1 .gyro) (reportTime 1 .gyro) (sampleSensor 1) sampleSensorEvents =
        [1000, 1332] ∧
      ¬ Paced (sampleSensor 1) 1 .gyro 0 1 sampleSensorEvents) :=
  ⟨⟨by decide, fun hpaced => absurd hpaced.complete.1 (by decide)⟩,
    ⟨by decide, fun hpaced => absurd hpaced.spaced (by decide)⟩⟩

end Gamepads

end GilStreaming.Streaming
