import GilStreaming.Streaming.GamepadSlots

/-!
# GilStreaming.Streaming.GamepadInput

What a button event does, said once.

A press or release changes the buttons of its slot and is one message in mouse emulation, or it is
the long press of Start that turns the emulation on, for which the state is sent first. After
that, `sendButtons` sends nothing, a cleared state for a combo, or the state.
-/

namespace GilStreaming.Streaming

namespace Gamepads

variable {s s' : Gamepads} {id : Int} {i : Fin MAX_GAMEPADS} {button : ControllerButton}
  {ticks : UInt32}

/-- The release of Start is that of a long press. -/
def LongPress (s : Gamepads) (i : Fin MAX_GAMEPADS) (button : ControllerButton) (ticks : UInt32) :
    Prop :=
  button = .start ∧ ticks - (s.slots i).lastStartDownTime > MOUSE_EMULATION_LONG_PRESS_TIME

instance (s : Gamepads) (i : Fin MAX_GAMEPADS) (button : ControllerButton) (ticks : UInt32) :
    Decidable (s.LongPress i button ticks) := inferInstanceAs (Decidable (_ ∧ _))

/-- The release turns mouse emulation on. -/
def Activates (s : Gamepads) (i : Fin MAX_GAMEPADS) (button : ControllerButton) (ticks : UInt32) :
    Prop :=
  s.LongPress i button ticks ∧ (s.slots i).mouseEmulationTimer = false ∧ s.gamepadMouse = true

instance (s : Gamepads) (i : Fin MAX_GAMEPADS) (button : ControllerButton) (ticks : UInt32) :
    Decidable (s.Activates i button ticks) := inferInstanceAs (Decidable (_ ∧ _ ∧ _))

/-- The slot after a press. -/
def pressedState (state : GamepadState) (button : ControllerButton) (ticks : UInt32) :
    GamepadState :=
  { state with
    values := { state.values with buttons := insert button state.values.buttons }
    lastStartDownTime := if button = .start then ticks else state.lastStartDownTime }

/-- The slot after a release that does not turn mouse emulation on. -/
def releasedState (state : GamepadState) (button : ControllerButton) (emulation : Bool) :
    GamepadState :=
  { state with
    values := { state.values with buttons := state.values.buttons.erase button }
    mouseEmulationTimer := emulation }

/-- What a press or release is in mouse emulation. -/
def emulatedMessage (s : Gamepads) (i : Fin MAX_GAMEPADS) (button : ControllerButton)
    (message : Option GamepadMessage) : Option GamepadMessage :=
  if button ≠ .start ∧ (s.slots i).mouseEmulationTimer = true then message else none

@[simp] theorem setState_sent (s : Gamepads) (i : Fin MAX_GAMEPADS) (state : GamepadState) :
    (s.setState i state).sent = s.sent := rfl

theorem setState_setState (s : Gamepads) (i : Fin MAX_GAMEPADS) (state state' : GamepadState) :
    (s.setState i state).setState i state' = s.setState i state' := by
  rw [setState, setState, setState, Function.update_idem]

theorem sendMessage_eq (s : Gamepads) (id : Int) (message : Option GamepadMessage) :
    s.sendMessage id message =
      { s with sent := s.sent ++ (message.map fun message => (id, message)).toList } := by
  cases message with
  | none => simp [sendMessage]
  | some message => rfl

/-- A press. -/
theorem pressButton_eq (s : Gamepads) (id : Int) (i : Fin MAX_GAMEPADS)
    (button : ControllerButton) (ticks : UInt32) :
    s.pressButton id i button ticks =
      (s.setState i (pressedState (s.slots i) button ticks)).sendMessage id
        (s.emulatedMessage i button (pressMessage button)) := by
  rw [pressButton, emulatedMessage, pressedState]
  by_cases hstart : button = .start
  · simp [hstart, setButtons, setState_setState, sendMessage]
  · by_cases hemulation : (s.slots i).mouseEmulationTimer = true
    · simp [hstart, hemulation, setButtons]
    · simp [hstart, hemulation, setButtons, sendMessage]

theorem setButtons_erase (s : Gamepads) (i : Fin MAX_GAMEPADS) (button : ControllerButton) :
    s.setButtons i ((s.slots i).values.buttons.erase button) =
      s.setState i (releasedState (s.slots i) button (s.slots i).mouseEmulationTimer) := rfl

/-- The long press that turns mouse emulation on. -/
theorem releaseButton_activates (h : s.Activates i button ticks) :
    s.releaseButton id i button ticks =
      let sent := (s.setState i (releasedState (s.slots i) button false)).sendGamepadState id i
      sent.setState i { sent.slots i with mouseEmulationTimer := true } := by
  obtain ⟨⟨hstart, hlong⟩, hoff, hmouse⟩ := h
  rw [releaseButton, setButtons_erase, hoff, if_pos hstart, setState_slots_self, releasedState]
  simp only [hlong, if_true, Bool.false_eq_true, if_false]
  exact if_pos hmouse

/-- Any other release. -/
theorem releaseButton_eq (h : ¬ s.Activates i button ticks) :
    s.releaseButton id i button ticks =
      (s.setState i (releasedState (s.slots i) button
        ((s.slots i).mouseEmulationTimer && !s.LongPress i button ticks))).sendMessage id
        (s.emulatedMessage i button (releaseMessage button)) := by
  rw [releaseButton, setButtons_erase]
  by_cases hstart : button = .start
  · have hmessage : s.emulatedMessage i button (releaseMessage button) = none :=
      if_neg fun hother => hother.1 hstart
    rw [hmessage, if_pos hstart, setState_slots_self]
    by_cases hlong : ticks - (s.slots i).lastStartDownTime > MOUSE_EMULATION_LONG_PRESS_TIME
    · cases hemulation : (s.slots i).mouseEmulationTimer with
      | true =>
          simp [hstart, hlong, LongPress, releasedState, setState_setState, sendMessage]
      | false =>
          have hmouse : s.gamepadMouse ≠ true :=
            fun hmouse => h ⟨⟨hstart, hlong⟩, hemulation, hmouse⟩
          have hmouse' (state : GamepadState) : (s.setState i state).gamepadMouse ≠ true := hmouse
          simp [hlong, releasedState, hmouse', sendMessage]
    · simp [hlong, LongPress, releasedState, sendMessage]
  · rw [if_neg hstart, setState_slots_self, emulatedMessage]
    cases hemulation : (s.slots i).mouseEmulationTimer with
    | true => simp [hstart, LongPress, releasedState]
    | false => simp [releasedState, sendMessage]

/-! ### What is sent in mouse emulation -/

theorem mem_of_mem_emulatedMessage {message : Option GamepadMessage} {message' : GamepadMessage}
    (h : message' ∈ s.emulatedMessage i button message) : message' ∈ message := by
  rw [emulatedMessage] at h
  split at h
  · exact h
  · exact absurd h (by simp)

theorem pressMessage_ne_controller {message : GamepadMessage} (h : message ∈ pressMessage button)
    (index : Nat) (mask : Finset Nat) (values : ControllerValues) :
    message ≠ .controller index mask values := by
  intro heq
  subst heq
  cases button <;> simp [pressMessage, mouseButtonOf] at h

theorem releaseMessage_ne_controller {message : GamepadMessage}
    (h : message ∈ releaseMessage button) (index : Nat) (mask : Finset Nat)
    (values : ControllerValues) : message ≠ .controller index mask values := by
  intro heq
  subst heq
  cases button <;> simp [releaseMessage, mouseButtonOf] at h

/-! ### The state that is sent -/

/-- What is sent for the state of a slot. -/
def stateMessage (s : Gamepads) (i : Fin MAX_GAMEPADS) : GamepadMessage :=
  .controller (s.slots i).index s.mask (s.mergedValues (s.slots i).index
    { (s.slots i).values with buttons := (clickpadButtons (s.slots i)).1 })

/-- The slot after its state has been sent. -/
def sentState (state : GamepadState) : GamepadState :=
  { state with emulatedClickpadButtonDown := (clickpadButtons state).2 }

/-- The merge loop reads the index and the values of the slots only. -/
theorem mergedValues_setState (state : GamepadState) (hindex : state.index = (s.slots i).index)
    (hvalues : state.values = (s.slots i).values) (index : Nat) (values : ControllerValues) :
    (s.setState i state).mergedValues index values = s.mergedValues index values := by
  have hslots (j : Fin MAX_GAMEPADS) : ((s.setState i state).slots j).index = (s.slots j).index ∧
      ((s.setState i state).slots j).values = (s.slots j).values := by
    by_cases hj : j = i
    · rw [hj, setState_slots_self]
      exact ⟨hindex, hvalues⟩
    · rw [setState_slots_of_ne s hj]
      exact ⟨rfl, rfl⟩
  simp only [mergedValues, fun j => (hslots j).1, fun j => (hslots j).2]
  rfl

/-- Sending a state. -/
theorem sendGamepadState_eq (s : Gamepads) (id : Int) (i : Fin MAX_GAMEPADS) :
    s.sendGamepadState id i =
      (s.setState i (sentState (s.slots i))).send id (s.stateMessage i) := by
  rw [stateMessage, ← mergedValues_setState (s := s) (i := i) (sentState (s.slots i)) rfl rfl]
  rfl

end Gamepads

end GilStreaming.Streaming
