import Mathlib.Data.Fin.Basic
import GilStreaming.Streaming.MouseButtons

/-!
# GilStreaming.Streaming.RelativeTouch

A touch screen as a mouse: `app/streaming/input/reltouch.cpp`.

A tap presses a button that a timer releases, and a finger that rests starts a drag, by another
timer, which ends when a finger comes up. Each button that is down has its release to come: that
of `m_DragButton`, for which a finger that is known is still on the screen, or that of a timer.
The one step that breaks this is the drag timer. It forgets the button of a drag that is going
on, when the number of fingers has changed since, and it presses no button at all with three
fingers on the screen.

Movement of the mouse is left out. Coordinates are exact, and timers are never refused.
-/

namespace GilStreaming.Streaming

open PressLog Trace

/-! ### Fingers -/

/-- `SDL_FINGERDOWN`, `SDL_FINGERMOTION` and `SDL_FINGERUP`. -/
inductive FingerEventType
  | down
  | motion
  | up
  deriving DecidableEq, Repr

/-- `SDL_TouchFingerEvent`. -/
structure TouchFingerEvent where
  type : FingerEventType
  timestamp : UInt32
  touchId : Int
  fingerId : Int
  x : Rat
  y : Rat
  deriving DecidableEq, Repr

/-- What an entry of `m_TouchDownEvent` keeps of the event. All is zero in an empty one. -/
structure TouchDown where
  fingerId : Int
  timestamp : UInt32
  x : Rat
  y : Rat
  deriving DecidableEq, Repr

def TouchDown.empty : TouchDown := ⟨0, 0, 0, 0⟩

/-- `0.01f`. -/
def DEAD_ZONE_DELTA : Rat := 5368709 / 536870912

structure RelativeTouch where
  touchDownEvent : Fin 2 → TouchDown
  /-- The timer of `m_LeftButtonReleaseTimer` has yet to fire. -/
  leftButtonReleaseTimer : Bool
  rightButtonReleaseTimer : Bool
  dragTimer : Bool
  /-- `none` for 0. -/
  dragButton : Option MouseButton
  numFingersDown : Nat
  /-- The fingers on the screens. -/
  fingers : List (Int × Int)
  /-- What `LiSendMouseButtonEvent` has sent, with `none` for the button 0. -/
  sent : List (Action × Option MouseButton)

namespace RelativeTouch

variable {s : RelativeTouch}

/-! ### Timers -/

def releaseLeftButtonTimerCallback (s : RelativeTouch) : RelativeTouch :=
  { s with sent := s.sent ++ [(.release, some .left)] }

def releaseRightButtonTimerCallback (s : RelativeTouch) : RelativeTouch :=
  { s with sent := s.sent ++ [(.release, some .right)] }

/-- The button that the drag timer holds down: that of the drag before, unless one or two fingers
are down. -/
def nextDragButton (s : RelativeTouch) : Option MouseButton :=
  if s.numFingersDown = 2 then some .right
  else if s.numFingersDown = 1 then some .left
  else s.dragButton

def dragTimerCallback (s : RelativeTouch) : RelativeTouch :=
  { s with
    dragButton := s.nextDragButton
    sent := s.sent ++ [(.press, s.nextDragButton)] }

/-! ### Finger events -/

/-- The index of a finger: that of a new one in SDL's list for its screen, that of any other in
`m_TouchDownEvent`. -/
def fingerIndex (s : RelativeTouch) (event : TouchFingerEvent) (touchFingers : List Int) :
    Option (Fin 2) :=
  match event.type with
  | .down =>
      (touchFingers.findIdx? (· == event.fingerId)).bind fun i =>
        if h : i < 2 then some ⟨i, h⟩ else none
  | .motion | .up =>
      (List.finRange 2).find? fun i => (s.touchDownEvent i).fingerId == event.fingerId

/-- A motion that leaves the dead zone cancels drags and taps. -/
def fingerMotion (s : RelativeTouch) (event : TouchFingerEvent) (i : Fin 2) : RelativeTouch :=
  let start := s.touchDownEvent i
  let dx := event.x - start.x
  let dy := event.y - start.y
  if dx * dx + dy * dy > DEAD_ZONE_DELTA * DEAD_ZONE_DELTA then
    { s with
      dragTimer := false
      touchDownEvent := Function.update s.touchDownEvent i { start with timestamp := 0 } }
  else s

/-- A finger that comes up releases a drag, or is a tap of two fingers or of one. -/
def fingerUp (s : RelativeTouch) (event : TouchFingerEvent) : RelativeTouch :=
  let s := { s with dragTimer := false }
  if s.dragButton.isSome then
    { s with sent := s.sent ++ [(.release, s.dragButton)], dragButton := none }
  else if event.timestamp - (s.touchDownEvent 1).timestamp < 250 then
    { s with
      touchDownEvent :=
        Function.update s.touchDownEvent 0 { s.touchDownEvent 0 with timestamp := 0 }
      sent := s.sent ++ [(.press, some .right)]
      rightButtonReleaseTimer := true }
  else if event.timestamp - (s.touchDownEvent 0).timestamp < 250 then
    { s with sent := s.sent ++ [(.press, some .left)], leftButtonReleaseTimer := true }
  else s

/-- `touchFingers` is what SDL lists for the screen of the event. -/
def handleRelativeFingerEvent (s : RelativeTouch) (event : TouchFingerEvent)
    (touchFingers : List Int) : RelativeTouch :=
  match s.fingerIndex event touchFingers with
  | none => s
  | some i =>
      let s :=
        match event.type with
        | .down => { s with dragTimer := true }
        | .motion => s.fingerMotion event i
        | .up => s.fingerUp event
      let s := { s with numFingersDown := touchFingers.length }
      match event.type with
      | .down =>
          { s with
            touchDownEvent := Function.update s.touchDownEvent i
              ⟨event.fingerId, event.timestamp, event.x, event.y⟩ }
      | .motion => s
      | .up => { s with touchDownEvent := Function.update s.touchDownEvent i .empty }

/-! ### Events -/

/-- What happens: an event of a finger, or a timer fires. -/
inductive TouchEvent
  | finger (event : TouchFingerEvent) (touchFingers : List Int)
  | dragTimer
  | leftButtonReleaseTimer
  | rightButtonReleaseTimer
  deriving DecidableEq, Repr

/-- The fingers on the screens after an event. -/
def fingersAfter (fingers : List (Int × Int)) : TouchEvent → List (Int × Int)
  | .finger event _ =>
      match event.type with
      | .down => fingers.insert (event.touchId, event.fingerId)
      | .motion => fingers
      | .up => fingers.filter fun finger => finger != (event.touchId, event.fingerId)
  | _ => fingers

/-- What the handler does for an event. A timer fires once, if it has been started and not been
removed. -/
def handle (s : RelativeTouch) : TouchEvent → RelativeTouch
  | .finger event touchFingers => s.handleRelativeFingerEvent event touchFingers
  | .dragTimer => if s.dragTimer then { s with dragTimer := false }.dragTimerCallback else s
  | .leftButtonReleaseTimer =>
      if s.leftButtonReleaseTimer then
        { s with leftButtonReleaseTimer := false }.releaseLeftButtonTimerCallback
      else s
  | .rightButtonReleaseTimer =>
      if s.rightButtonReleaseTimer then
        { s with rightButtonReleaseTimer := false }.releaseRightButtonTimerCallback
      else s

def step (s : RelativeTouch) (e : TouchEvent) : RelativeTouch :=
  { s.handle e with fingers := fingersAfter s.fingers e }

def new : RelativeTouch where
  touchDownEvent _ := .empty
  leftButtonReleaseTimer := false
  rightButtonReleaseTimer := false
  dragTimer := false
  dragButton := none
  numFingersDown := 0
  fingers := []
  sent := []

/-! ### Fingers that are known -/

/-- While a drag is going on or about to start, an entry is for a finger on a screen. -/
def Tracked (s : RelativeTouch) : Prop :=
  s.dragTimer = true ∨ s.dragButton ≠ none →
    ∃ i touchId, (touchId, (s.touchDownEvent i).fingerId) ∈ s.fingers

theorem fingerUp_drag (s : RelativeTouch) (event : TouchFingerEvent) :
    (s.fingerUp event).dragTimer = false ∧ (s.fingerUp event).dragButton = none := by
  rw [fingerUp]
  by_cases hdrag : s.dragButton.isSome
  · rw [if_pos hdrag]
    exact ⟨rfl, rfl⟩
  · rw [if_neg hdrag]
    have hnone : s.dragButton = none := Option.not_isSome_iff_eq_none.mp hdrag
    split
    · exact ⟨rfl, hnone⟩
    · split <;> exact ⟨rfl, hnone⟩

/-- A motion changes no finger and sends nothing. -/
theorem fingerMotion_keeps (s : RelativeTouch) (event : TouchFingerEvent) (i : Fin 2) :
    ((s.fingerMotion event i).dragTimer = true → s.dragTimer = true) ∧
      (s.fingerMotion event i).dragButton = s.dragButton ∧
      (s.fingerMotion event i).leftButtonReleaseTimer = s.leftButtonReleaseTimer ∧
      (s.fingerMotion event i).rightButtonReleaseTimer = s.rightButtonReleaseTimer ∧
      (s.fingerMotion event i).sent = s.sent ∧
      ∀ j, ((s.fingerMotion event i).touchDownEvent j).fingerId =
        (s.touchDownEvent j).fingerId := by
  simp only [fingerMotion]
  split
  · refine ⟨fun h => (by cases h), rfl, rfl, rfl, rfl, fun j => ?_⟩
    by_cases hj : j = i
    · simp [hj]
    · simp [hj]
  · exact ⟨id, rfl, rfl, rfl, rfl, fun _ => rfl⟩

/-- A finger that comes up without an entry of its own. -/
theorem ne_of_fingerIndex_none {event : TouchFingerEvent} {touchFingers : List Int}
    (htype : event.type = .up) (h : s.fingerIndex event touchFingers = none) (i : Fin 2) :
    (s.touchDownEvent i).fingerId ≠ event.fingerId := by
  rw [fingerIndex, htype] at h
  have hi := List.find?_eq_none.mp h i (List.mem_finRange i)
  simpa using hi

theorem tracked_step (h : Tracked s) (e : TouchEvent) : Tracked (step s e) := by
  cases e with
  | finger event touchFingers =>
      intro hdrag
      cases hindex : s.fingerIndex event touchFingers with
      | none =>
          have hkept : s.handle (.finger event touchFingers) = s := by
            simp only [handle, handleRelativeFingerEvent, hindex]
          simp only [step, hkept] at hdrag ⊢
          obtain ⟨i, touchId, hmem⟩ := h hdrag
          refine ⟨i, touchId, ?_⟩
          rw [fingersAfter]
          cases htype : event.type with
          | down => exact List.mem_insert_of_mem hmem
          | motion => exact hmem
          | up =>
              have hne := ne_of_fingerIndex_none htype hindex i
              exact List.mem_filter.mpr ⟨hmem, by simp [hne]⟩
      | some i =>
          simp only [step, handle, handleRelativeFingerEvent, hindex, fingersAfter] at hdrag ⊢
          cases htype : event.type with
          | down =>
              refine ⟨i, event.touchId, ?_⟩
              simp only [Function.update_self]
              exact List.mem_insert_self
          | motion =>
              simp only [htype] at hdrag
              obtain ⟨htimer, hbutton, -, -, -, hfinger⟩ := fingerMotion_keeps s event i
              rw [hbutton] at hdrag
              obtain ⟨j, touchId, hmem⟩ := h (hdrag.imp_left htimer)
              exact ⟨j, touchId, by simpa only [hfinger] using hmem⟩
          | up =>
              simp only [htype] at hdrag
              obtain ⟨htimer, hbutton⟩ := fingerUp_drag s event
              rcases hdrag with hdrag | hdrag
              · rw [htimer] at hdrag
                cases hdrag
              · exact absurd hbutton hdrag
  | dragTimer =>
      rw [step, handle]
      by_cases htimer : s.dragTimer = true
      · rw [if_pos htimer]
        exact fun _ => h (.inl htimer)
      · rw [if_neg htimer]
        exact h
  | leftButtonReleaseTimer =>
      rw [step, handle]
      split <;> exact h
  | rightButtonReleaseTimer =>
      rw [step, handle]
      split <;> exact h

/-! ### Releases to come -/

/-- A timer will release the button. -/
def releaseTimer (s : RelativeTouch) : Option MouseButton → Bool
  | some .left => s.leftButtonReleaseTimer
  | some .right => s.rightButtonReleaseTimer
  | _ => false

theorem releaseTimer_of_ne_left (s : RelativeTouch) {s' : RelativeTouch}
    (h : s'.rightButtonReleaseTimer = s.rightButtonReleaseTimer) {button : Option MouseButton}
    (hne : button ≠ some .left) : s'.releaseTimer button = s.releaseTimer button := by
  rcases button with _ | (_ | _ | _ | _ | _)
  case some.left => exact absurd rfl hne
  case some.right => exact h
  all_goals rfl

theorem releaseTimer_of_ne_right (s : RelativeTouch) {s' : RelativeTouch}
    (h : s'.leftButtonReleaseTimer = s.leftButtonReleaseTimer) {button : Option MouseButton}
    (hne : button ≠ some .right) : s'.releaseTimer button = s.releaseTimer button := by
  rcases button with _ | (_ | _ | _ | _ | _)
  case some.left => exact h
  case some.right => exact absurd rfl hne
  all_goals rfl

/-- The button is that of the drag, or a timer will release it. -/
def ToRelease (s : RelativeTouch) (button : Option MouseButton) : Prop :=
  (button ≠ none ∧ s.dragButton = button) ∨ s.releaseTimer button = true

/-- Each button that is down has its release to come. -/
def NoneStranded (s : RelativeTouch) : Prop := Owned s.sent s.ToRelease

/-- The drag timer fires, and forgets a button that is down, or presses the button 0. -/
def Strands (s : RelativeTouch) : TouchEvent → Prop
  | .dragTimer =>
      s.dragTimer = true ∧
        (s.nextDragButton = none ∨
          s.dragButton ≠ s.nextDragButton ∧ isDown s.sent s.dragButton = true ∧
            s.releaseTimer s.dragButton = false)
  | _ => False

instance (s : RelativeTouch) : DecidablePred s.Strands
  | .dragTimer =>
      inferInstanceAs (Decidable (s.dragTimer = true ∧
        (s.nextDragButton = none ∨
          s.dragButton ≠ s.nextDragButton ∧ isDown s.sent s.dragButton = true ∧
            s.releaseTimer s.dragButton = false)))
  | .finger _ _ | .leftButtonReleaseTimer | .rightButtonReleaseTimer =>
      inferInstanceAs (Decidable False)

theorem noneStranded_fingerUp (h : NoneStranded s) (event : TouchFingerEvent) :
    NoneStranded (s.fingerUp event) := by
  rw [fingerUp]
  by_cases hdrag : s.dragButton.isSome
  · rw [if_pos hdrag]
    -- The button of the drag is released, so it owns nothing any more.
    refine Owned.release h fun button hne howned => ?_
    exact .inr (howned.resolve_left fun hbutton => hne hbutton.2.symm)
  · rw [if_neg hdrag]
    have hnone : s.dragButton = none := Option.not_isSome_iff_eq_none.mp hdrag
    have howner {button : Option MouseButton} (howned : s.ToRelease button) :
        s.releaseTimer button = true :=
      howned.resolve_left fun hbutton => hbutton.1 (hbutton.2.symm.trans hnone)
    split
    · refine Owned.press h (.inr rfl) fun button hne howned => .inr ?_
      exact (releaseTimer_of_ne_right s (by rfl) hne).trans (howner howned)
    · split
      · refine Owned.press h (.inr rfl) fun button hne howned => .inr ?_
        exact (releaseTimer_of_ne_left s (by rfl) hne).trans (howner howned)
      · exact h

theorem noneStranded_finger (h : NoneStranded s) (event : TouchFingerEvent)
    (touchFingers : List Int) : NoneStranded (s.handleRelativeFingerEvent event touchFingers) := by
  rw [handleRelativeFingerEvent]
  cases s.fingerIndex event touchFingers with
  | none => exact h
  | some i =>
      cases htype : event.type with
      | down => exact h
      | motion =>
          obtain ⟨-, hbutton, hleft, hright, hsent, -⟩ := fingerMotion_keeps s event i
          intro button hdown
          simp only [hsent] at hdown
          rcases h button hdown with howned | htimer
          · exact .inl ⟨howned.1, hbutton.trans howned.2⟩
          · refine .inr ?_
            by_cases hne : button = some .left
            · rw [hne] at htimer ⊢
              exact hleft.trans htimer
            · exact (releaseTimer_of_ne_left s hright hne).trans htimer
      | up => exact noneStranded_fingerUp h event

/-- The drag timer is the only step that strands a button. -/
theorem noneStranded_step (h : NoneStranded s) (e : TouchEvent) :
    NoneStranded (step s e) ↔ ¬ Strands s e := by
  cases e with
  | finger event touchFingers =>
      exact iff_of_true (noneStranded_finger h event touchFingers) id
  | dragTimer =>
      show Owned (s.handle .dragTimer).sent (s.handle .dragTimer).ToRelease ↔ _
      rw [handle]
      by_cases htimer : s.dragTimer = true
      · rw [if_pos htimer]
        constructor
        · intro hnone hstrands
          rcases hstrands.2 with hnext | ⟨hne, hdown, hrelease⟩
          · have hpressed := hnone none (by
              show isDown (s.sent ++ [(.press, s.nextDragButton)]) none = true
              rw [isDown_concat, if_pos hnext]
              rfl)
            rcases hpressed with hpressed | hpressed
            · exact hpressed.1 rfl
            · cases hpressed
          · have hstill := hnone s.dragButton (by
              show isDown (s.sent ++ [(.press, s.nextDragButton)]) s.dragButton = true
              rw [isDown_concat, if_neg (Ne.symm hne)]
              exact hdown)
            rcases hstill with hstill | hstill
            · exact hne hstill.2.symm
            · exact absurd (hrelease.symm.trans hstill) Bool.false_ne_true
        · intro hstrands
          have hnext : s.nextDragButton ≠ none := fun hnext => hstrands ⟨htimer, .inl hnext⟩
          have hpress : Owned (s.sent ++ [(.press, s.nextDragButton)])
              { s with dragTimer := false }.dragTimerCallback.ToRelease := by
            intro button hdown
            rw [isDown_concat] at hdown
            by_cases heq : s.nextDragButton = button
            · exact .inl ⟨heq ▸ hnext, heq⟩
            · rw [if_neg heq] at hdown
              rcases h button hdown with ⟨-, rfl⟩ | hrelease
              · refine .inr (Bool.of_not_eq_false fun hrelease => hstrands ⟨htimer, .inr ?_⟩)
                exact ⟨Ne.symm heq, hdown, hrelease⟩
              · exact .inr hrelease
          exact hpress
      · rw [if_neg htimer]
        exact iff_of_true h fun hstrands => htimer hstrands.1
  | leftButtonReleaseTimer =>
      refine iff_of_true ?_ id
      show Owned (s.handle .leftButtonReleaseTimer).sent
        (s.handle .leftButtonReleaseTimer).ToRelease
      rw [handle]
      split
      · refine Owned.release h fun button hne howned => howned.imp_right fun htimer => ?_
        exact (releaseTimer_of_ne_left s (by rfl) hne).trans htimer
      · exact h
  | rightButtonReleaseTimer =>
      refine iff_of_true ?_ id
      show Owned (s.handle .rightButtonReleaseTimer).sent
        (s.handle .rightButtonReleaseTimer).ToRelease
      rw [handle]
      split
      · refine Owned.release h fun button hne howned => howned.imp_right fun htimer => ?_
        exact (releaseTimer_of_ne_right s (by rfl) hne).trans htimer
      · exact h

/-! ### Stuck buttons -/

/-- If no finger is on a screen and no timer is pending, no button is down on the host. -/
def NoStuckButtons (s : RelativeTouch) : Prop :=
  s.fingers = [] → s.dragTimer = false → s.leftButtonReleaseTimer = false →
    s.rightButtonReleaseTimer = false → ∀ button, isDown s.sent button = false

theorem noStuckButtons_of_noneStranded (htracked : Tracked s) (h : NoneStranded s) :
    NoStuckButtons s := by
  intro hfingers _ hleft hright button
  by_contra hdown
  rcases h button (Bool.of_not_eq_false hdown) with ⟨hne, hbutton⟩ | htimer
  · obtain ⟨i, touchId, hmem⟩ := htracked (.inr (hbutton ▸ hne))
    rw [hfingers] at hmem
    exact absurd hmem List.not_mem_nil
  · have hnone : s.releaseTimer button = false := by
      rcases button with _ | (_ | _ | _ | _ | _)
      case some.left => exact hleft
      case some.right => exact hright
      all_goals rfl
    rw [hnone] at htimer
    cases htimer

/-- **No stuck buttons from relative touch.** In a run in which the drag timer never strands a
button, no state has a button down on the host when no finger is on a screen and no timer is
pending. The next step of such a run leaves a button down without a release to come exactly if
it strands one. -/
theorem released_after_touch (es : List TouchEvent)
    (h : AllSteps step (fun s e => ¬ Strands s e) new es) :
    (∀ pre, pre <+: es → NoStuckButtons (run step new pre)) ∧
      ∀ e, NoneStranded (run step new (es ++ [e])) ↔ ¬ Strands (run step new es) e := by
  have htracked (pre : List TouchEvent) : Tracked (run step new pre) := by
    have hstart : Tracked new := fun hdrag => by
      rcases hdrag with hdrag | hdrag
      · cases hdrag
      · exact absurd rfl hdrag
    exact @run_invariant _ _ step (fun _ _ => True) Tracked (fun _ e _ ht => tracked_step ht e) _
      hstart pre (.of_forall (fun _ _ => trivial) _)
  have hnone (pre : List TouchEvent) (hpre : pre <+: es) : NoneStranded (run step new pre) := by
    have hstart : NoneStranded new := owned_nil _
    obtain ⟨post, rfl⟩ := hpre
    exact @run_invariant _ _ step _ NoneStranded
      (fun _ e hstrands hnone => (noneStranded_step hnone e).mpr hstrands) _ hstart _
      (allSteps_append.mp h).1
  refine ⟨fun pre hpre => noStuckButtons_of_noneStranded (htracked pre) (hnone pre hpre),
    fun e => ?_⟩
  rw [run_concat]
  exact noneStranded_step (hnone es (List.prefix_refl es)) e

section Sample

def sampleFinger (type : FingerEventType) (timestamp : UInt32) (fingerId : Int)
    (touchFingers : List Int) : TouchEvent :=
  .finger ⟨type, timestamp, 1, fingerId, 1 / 2, 1 / 2⟩ touchFingers

/-- A drag with one finger. -/
def sampleDrag : List TouchEvent :=
  [sampleFinger .down 1000 7 [7], .dragTimer, sampleFinger .up 3000 7 []]

theorem sampleDrag_released : NoStuckButtons (run step new sampleDrag) :=
  (released_after_touch sampleDrag (by decide)).1 _ (List.prefix_refl _)

/-- A second finger comes down during a drag, and rests as well. -/
def dragWithSecondFinger : List TouchEvent :=
  [sampleFinger .down 1000 7 [7], .dragTimer, sampleFinger .down 2000 8 [7, 8], .dragTimer,
    sampleFinger .up 4000 8 [7], sampleFinger .up 5000 7 []]

theorem drag_forgotten :
    isDown (run step new dragWithSecondFinger).sent (some .left) = true ∧
      ¬ NoStuckButtons (run step new dragWithSecondFinger) := by
  have hdown : isDown (run step new dragWithSecondFinger).sent (some .left) = true := by
    decide
  refine ⟨hdown, fun h => ?_⟩
  rw [h (by decide) (by decide) (by decide) (by decide)] at hdown
  cases hdown

end Sample

end RelativeTouch

end GilStreaming.Streaming
