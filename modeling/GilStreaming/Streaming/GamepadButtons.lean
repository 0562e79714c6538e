import Mathlib.Data.Finset.Filter
import GilStreaming.Streaming.GamepadInput

/-!
# GilStreaming.Streaming.GamepadButtons

The buttons of gamepads that the host has down.

A press is sent as the press of a mouse button or within the state of the gamepad, as mouse
emulation is on or off then, and so is the release. Mouse emulation may change in between, and
nothing that is down is kept: the release of a mouse button is then lost, or the state that is
without the button, and the removal of a gamepad releases no mouse button (`LostButton`). Without
such steps each mouse button that is down is that of a button of an open gamepad, and the last
state of gamepads that have no button has none.
-/

namespace GilStreaming.Streaming

open PressLog Trace

namespace Gamepads

variable {s s' s'' : Gamepads} {id : Int} {i : Fin MAX_GAMEPADS} {button : ControllerButton}
  {ticks : UInt32} {sent : List (Int × GamepadMessage)}

/-! ### What the host has -/

/-- The presses of mouse buttons for a gamepad, and their releases for any: what is down after
these has been pressed on behalf of this gamepad, and has not been released. -/
def pressesOf (sent : List (Int × GamepadMessage)) (id : Int) : List (Action × MouseButton) :=
  sent.filterMap fun message =>
    match message.2 with
    | .mouseButton .press button => if message.1 = id then some (.press, button) else none
    | .mouseButton .release button => some (.release, button)
    | _ => none

/-- The buttons of the last state that was sent for the controller with this number. -/
def lastButtons (sent : List (Int × GamepadMessage)) (n : Nat) : Finset ControllerButton :=
  sent.foldl (fun last message =>
    match message.2 with
    | .controller index _ values => if index = n then values.buttons else last
    | _ => last) ∅

@[simp] theorem pressesOf_nil (id : Int) : pressesOf [] id = [] := rfl

@[simp] theorem pressesOf_append (sent sent' : List (Int × GamepadMessage)) (id : Int) :
    pressesOf (sent ++ sent') id = pressesOf sent id ++ pressesOf sent' id :=
  List.filterMap_append

@[simp] theorem lastButtons_controller (sent : List (Int × GamepadMessage)) (id : Int)
    (index : Nat) (mask : Finset Nat) (values : ControllerValues) (n : Nat) :
    lastButtons (sent ++ [(id, .controller index mask values)]) n =
      if index = n then values.buttons else lastButtons sent n := by
  rw [lastButtons, List.foldl_append]
  rfl

/-- No message of these is a state. -/
theorem lastButtons_append {messages : List (Int × GamepadMessage)}
    (h : ∀ message ∈ messages, ∀ index mask values, message.2 ≠ .controller index mask values)
    (n : Nat) : lastButtons (sent ++ messages) n = lastButtons sent n := by
  rw [lastButtons, List.foldl_append]
  induction messages using List.reverseRecOn with
  | nil => rfl
  | append_singleton messages message ih =>
      rw [List.foldl_append, ih fun message' hmem => h message' (List.mem_append_left _ hmem)]
      have hmessage := h message (List.mem_append_right _ List.mem_cons_self)
      obtain ⟨id, message⟩ := message
      cases message with
      | controller index mask values => exact absurd rfl (hmessage index mask values)
      | _ => rfl

theorem News.presses (h : News s.sent s'.sent) (id : Int) :
    pressesOf s'.sent id = pressesOf s.sent id := by
  obtain ⟨messages, hsent, hnews⟩ := h
  have hnone : pressesOf messages id = [] := by
    rw [pressesOf, List.filterMap_eq_nil_iff]
    intro message hmem
    have hinput := hnews message hmem
    obtain ⟨id', message⟩ := message
    cases message with
    | mouseButton action button => cases hinput
    | _ => rfl
  rw [hsent, pressesOf_append, hnone, List.append_nil]

theorem News.lastButtons (h : News s.sent s'.sent) (n : Nat) :
    lastButtons s'.sent n = lastButtons s.sent n := by
  obtain ⟨messages, hsent, hnews⟩ := h
  rw [hsent]
  refine lastButtons_append (fun message hmem index mask values heq => ?_) n
  have hinput := hnews message hmem
  rw [heq] at hinput
  cases hinput

/-! ### Controllers with no button -/

/-- No gamepad with this number has a button. -/
def Quiet (s : Gamepads) (n : Nat) : Prop :=
  ∀ i, (s.slots i).index = n → (s.slots i).values.buttons = ∅

instance (s : Gamepads) (n : Nat) : Decidable (s.Quiet n) := inferInstanceAs (Decidable (∀ _, _))

theorem foldl_merge_quiet {n : Nat} (hquiet : s.Quiet n) (is : List (Fin MAX_GAMEPADS))
    (values : ControllerValues) :
    (is.foldl (fun values i =>
      if (s.slots i).index = n then mergeValues values (s.slots i).values else values)
      values).buttons = values.buttons := by
  induction is generalizing values with
  | nil => rfl
  | cons i is ih =>
      rw [List.foldl_cons, ih]
      split
      · rename_i hindex
        show values.buttons ∪ (s.slots i).values.buttons = values.buttons
        rw [hquiet i hindex, Finset.union_empty]
      · rfl

/-- What is sent for a gamepad with no button, and no other that has its number, has none. -/
theorem lastButtons_sendGamepadState (s : Gamepads) (id : Int) (i : Fin MAX_GAMEPADS)
    (hquiet : s.Quiet (s.slots i).index) :
    lastButtons (s.sendGamepadState id i).sent (s.slots i).index = ∅ := by
  have hbuttons : (clickpadButtons (s.slots i)).1 = ∅ := by
    rw [clickpadButtons, hquiet i rfl]
    split
    · rw [if_neg (by decide)]
      split <;> rfl
    · rfl
  rw [sendGamepadState_eq]
  show lastButtons (s.sent ++ [(id, s.stateMessage i)]) _ = ∅
  rw [stateMessage, lastButtons_controller, if_pos rfl, mergedValues]
  split
  · exact hbuttons
  · rw [foldl_merge_quiet hquiet]
    exact hbuttons

/-! ### One event of one gamepad -/

/-- The gamepad in the slot comes to have these buttons. Mouse buttons are sent on its behalf, and
states for its number only. -/
structure Changes (i : Fin MAX_GAMEPADS) (id : Int) (messages : List GamepadMessage)
    (buttons : Finset ControllerButton) (s s' : Gamepads) : Prop where
  keeps : Keeps i s s'
  buttons : (s'.slots i).values.buttons = buttons
  presses : ∀ id', pressesOf s'.sent id' =
    pressesOf s.sent id' ++ pressesOf (messages.map fun message => (id, message)) id'
  last : ∀ n, n ≠ (s.slots i).index → lastButtons s'.sent n = lastButtons s.sent n

theorem Changes.trans {messages messages' : List GamepadMessage}
    {buttons buttons' : Finset ControllerButton} (h : Changes i id messages buttons s s')
    (h' : Changes i id messages' buttons' s' s'') :
    Changes i id (messages ++ messages') buttons' s s'' where
  keeps := h.keeps.trans h'.keeps
  buttons := h'.buttons
  presses id' := by
    rw [h'.presses, h.presses, List.map_append, pressesOf_append, List.append_assoc]
  last n hn := by rw [h'.last n (by rwa [h.keeps.index]), h.last n hn]

theorem Changes.refl (s : Gamepads) (i : Fin MAX_GAMEPADS) (id : Int) :
    Changes i id [] (s.slots i).values.buttons s s :=
  ⟨.refl i s, rfl, fun _ => (List.append_nil _).symm, fun _ _ => rfl⟩

theorem changes_setState (s : Gamepads) (i : Fin MAX_GAMEPADS) (id : Int) (state : GamepadState)
    (hcontroller : state.controller = (s.slots i).controller)
    (hjsId : state.jsId = (s.slots i).jsId) (hindex : state.index = (s.slots i).index) :
    Changes i id [] state.values.buttons s (s.setState i state) where
  keeps := keeps_setState s hcontroller hjsId hindex
  buttons := by rw [setState_slots_self]
  presses _ := (List.append_nil _).symm
  last _ _ := rfl

theorem changes_sendMessage (s : Gamepads) (i : Fin MAX_GAMEPADS) (id : Int)
    {message : Option GamepadMessage}
    (h : ∀ message' ∈ message, ∀ index mask values, message' ≠ .controller index mask values) :
    Changes i id message.toList (s.slots i).values.buttons s (s.sendMessage id message) where
  keeps := keeps_sendMessage s i id message
  buttons := by rw [sendMessage_eq]
  presses _ := by
    rw [sendMessage_eq, pressesOf_append]
    cases message <;> rfl
  last n _ := by
    rw [sendMessage_eq]
    refine lastButtons_append (fun message' hmem => ?_) n
    obtain ⟨message'', hmem', rfl⟩ := by simpa using hmem
    exact h message'' hmem'

theorem changes_controller (s : Gamepads) (i : Fin MAX_GAMEPADS) (id : Int) (mask : Finset Nat)
    (values : ControllerValues) :
    Changes i id [] (s.slots i).values.buttons s
      (s.send id (.controller (s.slots i).index mask values)) where
  keeps := keeps_send s i id _
  buttons := rfl
  presses id' := pressesOf_append s.sent _ id'
  last n hn := by
    show lastButtons (s.sent ++ [_]) n = _
    rw [lastButtons_controller, if_neg (Ne.symm hn)]

theorem changes_sendGamepadState (s : Gamepads) (id : Int) (i : Fin MAX_GAMEPADS) :
    Changes i id [] (s.slots i).values.buttons s (s.sendGamepadState id i) := by
  have hstate : Changes i id [] (s.slots i).values.buttons s
      (s.setState i (sentState (s.slots i))) :=
    changes_setState s i id (sentState (s.slots i)) rfl rfl rfl
  have hsend := changes_controller (s.setState i (sentState (s.slots i))) i id s.mask
    (s.mergedValues (s.slots i).index
      { (s.slots i).values with buttons := (clickpadButtons (s.slots i)).1 })
  rw [setState_slots_self] at hsend
  rw [sendGamepadState_eq]
  exact hstate.trans hsend

theorem changes_sendButtons (s : Gamepads) (id : Int) (i : Fin MAX_GAMEPADS) :
    Changes i id [] (s.slots i).values.buttons s (s.sendButtons id i) := by
  rw [sendButtons]
  split
  · exact changes_controller s i id s.mask .zero
  · split
    · exact changes_sendGamepadState s id i
    · exact .refl s i id

theorem changes_pressButton (s : Gamepads) (id : Int) (i : Fin MAX_GAMEPADS)
    (button : ControllerButton) (ticks : UInt32) :
    Changes i id (s.emulatedMessage i button (pressMessage button)).toList
      (insert button (s.slots i).values.buttons) s (s.pressButton id i button ticks) := by
  have hstate : Changes i id [] (insert button (s.slots i).values.buttons) s
      (s.setState i (pressedState (s.slots i) button ticks)) :=
    changes_setState s i id (pressedState (s.slots i) button ticks) rfl rfl rfl
  have hsend := changes_sendMessage (s.setState i (pressedState (s.slots i) button ticks)) i id
    fun message (hmem : message ∈ s.emulatedMessage i button (pressMessage button)) =>
      pressMessage_ne_controller (mem_of_mem_emulatedMessage hmem)
  rw [setState_slots_self] at hsend
  rw [pressButton_eq]
  exact hstate.trans hsend

theorem changes_releaseButton (s : Gamepads) (id : Int) (i : Fin MAX_GAMEPADS)
    (button : ControllerButton) (ticks : UInt32) :
    Changes i id (s.emulatedMessage i button (releaseMessage button)).toList
      ((s.slots i).values.buttons.erase button) s (s.releaseButton id i button ticks) := by
  by_cases hactivates : s.Activates i button ticks
  · have hmessage : s.emulatedMessage i button (releaseMessage button) = none :=
      if_neg fun hother => hother.1 hactivates.1.1
    have hstate : Changes i id [] ((s.slots i).values.buttons.erase button) s
        (s.setState i (releasedState (s.slots i) button false)) :=
      changes_setState s i id (releasedState (s.slots i) button false) rfl rfl rfl
    have hsent := changes_sendGamepadState
      (s.setState i (releasedState (s.slots i) button false)) id i
    rw [setState_slots_self] at hsent
    let sent := (s.setState i (releasedState (s.slots i) button false)).sendGamepadState id i
    have hon : Changes i id [] (sent.slots i).values.buttons sent
        (sent.setState i { sent.slots i with mouseEmulationTimer := true }) :=
      changes_setState sent i id { sent.slots i with mouseEmulationTimer := true } rfl rfl rfl
    rw [hsent.buttons] at hon
    rw [hmessage, releaseButton_activates hactivates]
    exact (hstate.trans hsent).trans hon
  · have hstate : Changes i id [] ((s.slots i).values.buttons.erase button) s
        (s.setState i (releasedState (s.slots i) button
          ((s.slots i).mouseEmulationTimer && !s.LongPress i button ticks))) :=
      changes_setState s i id (releasedState (s.slots i) button _) rfl rfl rfl
    have hsend := changes_sendMessage (s.setState i (releasedState (s.slots i) button
        ((s.slots i).mouseEmulationTimer && !s.LongPress i button ticks))) i id
      fun message (hmem : message ∈ s.emulatedMessage i button (releaseMessage button)) =>
        releaseMessage_ne_controller (mem_of_mem_emulatedMessage hmem)
    rw [setState_slots_self] at hsend
    rw [releaseButton_eq hactivates]
    exact hstate.trans hsend

theorem Changes.quiet_of_ne {messages : List GamepadMessage} {buttons : Finset ControllerButton}
    (h : Changes i id messages buttons s s') {n : Nat} (hn : n ≠ (s.slots i).index)
    (hquiet : s'.Quiet n) : s.Quiet n := by
  intro j hj
  have hji : j ≠ i := fun heq => hn (by rw [← hj, heq])
  rw [← h.keeps.other j hji]
  exact hquiet j (by rwa [h.keeps.index])

/-- Who has no button depends on the buttons only. -/
theorem Changes.quiet_congr {messages messages' : List GamepadMessage}
    {buttons : Finset ControllerButton} (h : Changes i id messages buttons s s')
    (h' : Changes i id messages' buttons s s'') {n : Nat} : s'.Quiet n ↔ s''.Quiet n := by
  refine forall_congr' fun j => ?_
  rw [h.keeps.index, h'.keeps.index]
  by_cases hj : j = i
  · rw [hj, h.buttons, h'.buttons]
  · rw [h.keeps.other j hj, h'.keeps.other j hj]

theorem Changes.quiet_iff {messages : List GamepadMessage}
    (h : Changes i id messages (s.slots i).values.buttons s s') {n : Nat} :
    s'.Quiet n ↔ s.Quiet n := h.quiet_congr (.refl s i id)

/-- The end of a button event of a gamepad with no button. -/
theorem sendButtons_quiet (s : Gamepads) (id : Int) (i : Fin MAX_GAMEPADS)
    (hquiet : s.Quiet (s.slots i).index) :
    lastButtons (s.sendButtons id i).sent (s.slots i).index = ∅ ∨
      (s.slots i).mouseEmulationTimer = true ∧ (s.sendButtons id i).sent = s.sent := by
  rw [sendButtons]
  split
  · left
    show lastButtons (s.sent ++ [_]) _ = ∅
    rw [lastButtons_controller, if_pos rfl]
    rfl
  · cases hemulation : (s.slots i).mouseEmulationTimer with
    | true => exact .inr ⟨rfl, rfl⟩
    | false => exact .inl (lastButtons_sendGamepadState s id i hquiet)

/-- A release after which mouse emulation is on: it has been before, or the state has been sent
for the release. -/
theorem releaseButton_quiet (s : Gamepads) (id : Int) (i : Fin MAX_GAMEPADS)
    (button : ControllerButton) (ticks : UInt32)
    (hquiet : (s.releaseButton id i button ticks).Quiet (s.slots i).index)
    (hemulation : ((s.releaseButton id i button ticks).slots i).mouseEmulationTimer = true) :
    lastButtons (s.releaseButton id i button ticks).sent (s.slots i).index = ∅ ∨
      (s.slots i).mouseEmulationTimer = true ∧ ¬ s.LongPress i button ticks ∧
        lastButtons (s.releaseButton id i button ticks).sent (s.slots i).index =
          lastButtons s.sent (s.slots i).index := by
  by_cases hactivates : s.Activates i button ticks
  · left
    let released := s.setState i (releasedState (s.slots i) button false)
    have hsent := changes_sendGamepadState released id i
    have hon := changes_setState (released.sendGamepadState id i) i id
      { (released.sendGamepadState id i).slots i with mouseEmulationTimer := true } rfl rfl rfl
    have hindex : (released.slots i).index = (s.slots i).index := by
      rw [setState_slots_self]
      rfl
    rw [releaseButton_activates hactivates] at hquiet ⊢
    have hquiet : released.Quiet (s.slots i).index := hsent.quiet_iff.mp (hon.quiet_iff.mp hquiet)
    have hlast := lastButtons_sendGamepadState released id i (by rwa [hindex])
    rwa [hindex] at hlast
  · right
    have hlast (message : GamepadMessage)
        (hmem : message ∈ s.emulatedMessage i button (releaseMessage button)) :=
      releaseMessage_ne_controller (mem_of_mem_emulatedMessage hmem)
    rw [releaseButton_eq hactivates, sendMessage_eq] at hemulation ⊢
    simp only [setState_slots_self, releasedState, Bool.and_eq_true, Bool.not_eq_true',
      decide_eq_false_iff_not] at hemulation
    refine ⟨hemulation.1, hemulation.2, lastButtons_append (fun message hmem => ?_) _⟩
    obtain ⟨message', hmem', rfl⟩ := by simpa using hmem
    exact hlast message' hmem'

/-! ### Whose buttons are down -/

/-- The mouse button is that of a button of the gamepad. -/
def Owner (s : Gamepads) (id : Int) (mouseButton : MouseButton) : Prop :=
  ∃ i, s.IsOpen i ∧ (s.slots i).jsId = id ∧
    ∃ button ∈ (s.slots i).values.buttons, mouseButtonOf button = some mouseButton

/-- All that is down is accounted for. -/
structure Accounted (s : Gamepads) : Prop where
  mouse : ∀ id, Owned (pressesOf s.sent id) (s.Owner id)
  host : ∀ n, s.Quiet n → lastButtons s.sent n = ∅

/-- What a press is for the mouse. -/
theorem presses_press (s : Gamepads) (id id' : Int) (i : Fin MAX_GAMEPADS)
    (button : ControllerButton) :
    pressesOf ((s.emulatedMessage i button (pressMessage button)).toList.map
        fun message => (id, message)) id' = [] ∨
      id' = id ∧ ∃ mouseButton, mouseButtonOf button = some mouseButton ∧
        pressesOf ((s.emulatedMessage i button (pressMessage button)).toList.map
          fun message => (id, message)) id' = [(.press, mouseButton)] := by
  rw [emulatedMessage]
  split
  · by_cases hid : id = id'
    · subst hid
      cases button <;> simp [pressMessage, mouseButtonOf, pressesOf]
    · left
      cases button <;> simp [pressMessage, mouseButtonOf, pressesOf, hid]
  · exact .inl rfl

/-- What a release is for the mouse. -/
theorem presses_release (s : Gamepads) (id id' : Int) (i : Fin MAX_GAMEPADS)
    (button : ControllerButton) :
    pressesOf ((s.emulatedMessage i button (releaseMessage button)).toList.map
        fun message => (id, message)) id' =
      ((s.emulatedMessage i button (releaseMessage button)).bind fun _ =>
        (mouseButtonOf button).map fun mouseButton => (.release, mouseButton)).toList := by
  rw [emulatedMessage, releaseMessage]
  split
  · cases mouseButtonOf button <;> rfl
  · rfl

/-- The release of a mapped button, unless it is sent as that of a mouse button. -/
theorem not_emulated_of_presses_nil {mouseButton : MouseButton}
    (hbutton : mouseButtonOf button = some mouseButton)
    (hnone : s.emulatedMessage i button (releaseMessage button) = none) :
    (s.slots i).mouseEmulationTimer = false := by
  by_contra hemulation
  have hstart : button ≠ .start := by
    rintro rfl
    cases hbutton
  rw [emulatedMessage, if_pos ⟨hstart, by simpa using hemulation⟩, releaseMessage, hbutton] at hnone
  cases hnone

theorem Changes.owner {messages : List GamepadMessage} {buttons : Finset ControllerButton}
    {mouseButton : MouseButton} (h : Changes i id messages buttons s s') {id' : Int}
    (howner : s.Owner id' mouseButton)
    (hkept : ∀ button ∈ (s.slots i).values.buttons, mouseButtonOf button = some mouseButton →
      (s.slots i).jsId = id' → button ∈ buttons) : s'.Owner id' mouseButton := by
  obtain ⟨j, hopen, hjsId, button, hmem, hbutton⟩ := howner
  refine ⟨j, by rwa [IsOpen, h.keeps.controller], by rwa [h.keeps.jsId], button, ?_, hbutton⟩
  by_cases hj : j = i
  · subst hj
    rw [h.buttons]
    exact hkept button hmem hbutton hjsId
  · rwa [h.keeps.other j hj]

theorem Changes.host {messages : List GamepadMessage} {buttons : Finset ControllerButton}
    (h : Changes i id messages buttons s s') (hhost : ∀ n, s.Quiet n → lastButtons s.sent n = ∅)
    (hself : s'.Quiet (s.slots i).index → lastButtons s'.sent (s.slots i).index = ∅) (n : Nat)
    (hquiet : s'.Quiet n) : lastButtons s'.sent n = ∅ := by
  by_cases hn : n = (s.slots i).index
  · subst hn
    exact hself hquiet
  · rw [h.last n hn]
    exact hhost n (h.quiet_of_ne hn hquiet)

/-! ### Lost buttons -/

/-- The release of a mouse button outside of mouse emulation, or that of the last button of a
controller within. -/
def LostRelease (s : Gamepads) (i : Fin MAX_GAMEPADS) (event : ControllerButtonEvent)
    (button : ControllerButton) : Prop :=
  ((s.slots i).mouseEmulationTimer = false ∧ ∃ mouseButton ∈ mouseButtonOf button,
      isDown (pressesOf s.sent event.which) mouseButton = true) ∨
    ((s.slots i).mouseEmulationTimer = true ∧ ¬ s.LongPress i button event.ticks ∧
      lastButtons s.sent (s.slots i).index ≠ ∅ ∧
      (s.setButtons i ((s.slots i).values.buttons.erase button)).Quiet (s.slots i).index)

instance (s : Gamepads) (i : Fin MAX_GAMEPADS) (event : ControllerButtonEvent)
    (button : ControllerButton) : Decidable (s.LostRelease i event button) :=
  inferInstanceAs (Decidable ((_ ∧ ∃ mouseButton ∈ mouseButtonOf button, _) ∨ (_ ∧ _ ∧ _ ∧ _)))

/-- The button of a gamepad that the button of an event is. -/
def mappedButton (s : Gamepads) (button : ControllerButton) : ControllerButton :=
  if s.swapFaceButtons then swapFaceButton button else button

/-- The event is such a release, or the removal of a gamepad with a mouse button down. -/
def LostButton (s : Gamepads) : GamepadEvent → Prop
  | .button event => event.pressed = false ∧ ∃ button ∈ event.button,
      ∃ i ∈ s.findStateForGamepad event.which, s.LostRelease i event (s.mappedButton button)
  | .removed which => ∃ entry ∈ pressesOf s.sent which,
      isDown (pressesOf s.sent which) entry.2 = true
  | _ => False

instance (s : Gamepads) : DecidablePred s.LostButton
  | .button event => inferInstanceAs (Decidable (_ ∧ ∃ button ∈ event.button,
      ∃ i ∈ s.findStateForGamepad event.which, s.LostRelease i event _))
  | .removed which => inferInstanceAs (Decidable (∃ entry ∈ pressesOf s.sent which, _))
  | .axis .. | .sensor .. | .touchpad .. | .battery .. | .added _ | .rumble .. |
    .rumbleTriggers .. | .motionState .. | .led .. | .adaptiveTriggers .. =>
      inferInstanceAs (Decidable False)

/-- A press. -/
theorem accounted_press (h : Accounted s) (hjsId : (s.slots i).jsId = id)
    (hopen : s.IsOpen i) (button : ControllerButton) (ticks : UInt32) :
    Accounted ((s.pressButton id i button ticks).sendButtons id i) := by
  have hpress := changes_pressButton s id i button ticks
  have hchanges := hpress.trans (changes_sendButtons (s.pressButton id i button ticks) id i)
  rw [hpress.buttons, List.append_nil] at hchanges
  have hmono {id' : Int} {mouseButton : MouseButton} (howner : s.Owner id' mouseButton) :=
    hchanges.owner howner fun _ hmem _ _ => Finset.mem_insert_of_mem hmem
  refine ⟨fun id' => ?_, hchanges.host h.host fun hquiet => ?_⟩
  · rw [hchanges.presses]
    rcases presses_press s id id' i button with hnone | ⟨rfl, mouseButton, hbutton, hone⟩
    · rw [hnone, List.append_nil]
      exact (h.mouse id').mono fun _ => hmono
    · rw [hone]
      refine (h.mouse id').press ⟨i, ?_, ?_, button, ?_, hbutton⟩ fun _ _ => hmono
      · rwa [IsOpen, hchanges.keeps.controller]
      · rwa [hchanges.keeps.jsId]
      · rw [hchanges.buttons]
        exact Finset.mem_insert_self _ _
  · -- The gamepad has the button that is pressed.
    have hempty := hquiet i (hchanges.keeps.index i)
    rw [hchanges.buttons] at hempty
    exact absurd hempty (Finset.insert_ne_empty _ _)

/-- A release that is not lost. -/
theorem accounted_release (h : Accounted s) {event : ControllerButtonEvent}
    (hjsId : (s.slots i).jsId = event.which) (hlost : ¬ s.LostRelease i event button) :
    Accounted ((s.releaseButton event.which i button event.ticks).sendButtons event.which i) := by
  have hrelease := changes_releaseButton s event.which i button event.ticks
  have hsend := changes_sendButtons (s.releaseButton event.which i button event.ticks)
    event.which i
  have hchanges := hrelease.trans hsend
  rw [hrelease.buttons, List.append_nil] at hchanges
  refine ⟨fun id' => ?_, hchanges.host h.host fun hquiet => ?_⟩
  · have hkept {mouseButton : MouseButton} (hne : mouseButtonOf button ≠ some mouseButton ∨
        id' ≠ event.which) (howner : s.Owner id' mouseButton) :=
      hchanges.owner howner fun button' hmem hbutton' hid => Finset.mem_erase.mpr ⟨fun heq =>
        hne.elim (fun hne => hne (heq ▸ hbutton')) fun hne => hne (hid.symm.trans hjsId), hmem⟩
    rw [hchanges.presses, presses_release]
    cases hmessage : s.emulatedMessage i button (releaseMessage button) with
    | none =>
        rw [Option.bind_none, Option.toList_none, List.append_nil]
        intro mouseButton hdown
        refine hkept ?_ (h.mouse id' mouseButton hdown)
        by_contra hboth
        push Not at hboth
        obtain ⟨hbutton, rfl⟩ := hboth
        exact hlost (.inl ⟨not_emulated_of_presses_nil hbutton hmessage, mouseButton, hbutton,
          hdown⟩)
    | some message =>
        cases hbutton : mouseButtonOf button with
        | none =>
            rw [Option.bind_some, Option.map_none, Option.toList_none, List.append_nil]
            exact (h.mouse id').mono fun _ => hkept (.inl (by simp [hbutton]))
        | some mouseButton =>
            rw [Option.bind_some, Option.map_some, Option.toList_some]
            refine (h.mouse id').release fun mouseButton' hne => hkept (.inl ?_)
            rw [hbutton]
            exact fun heq => hne (Option.some.inj heq).symm
  · have hindex := hrelease.keeps.index i
    have hquiet' := hsend.quiet_iff.mp hquiet
    have hend := sendButtons_quiet (s.releaseButton event.which i button event.ticks) event.which
      i (by rwa [hindex])
    rw [hindex] at hend
    rcases hend with hempty | ⟨hemulation, hsent⟩
    · exact hempty
    · rw [hsent]
      rcases releaseButton_quiet s event.which i button event.ticks hquiet' hemulation with
        hempty | ⟨hbefore, hshort, hsame⟩
      · exact hempty
      · -- Nothing is sent, and the last state had no button before.
        rw [hsame]
        by_contra hlast
        refine hlost (.inr ⟨hbefore, hshort, hlast, ?_⟩)
        have herase := changes_setState s i event.which { s.slots i with values :=
          { (s.slots i).values with buttons := (s.slots i).values.buttons.erase button } }
          rfl rfl rfl
        exact (herase.quiet_congr hrelease).mpr hquiet'

/-! ### Other events -/

theorem axisMotions_buttons (values : ControllerValues) (motions : List (ControllerAxis × Int)) :
    (axisMotions values motions).1.buttons = values.buttons := by
  induction motions generalizing values with
  | nil => rfl
  | cons motion motions ih =>
      obtain ⟨axis, value⟩ := motion
      rw [axisMotions]
      cases axis with
      | other => rfl
      | _ => exact ih _

/-- The slot after the motions. -/
def movedState (state : GamepadState) (motions : List (ControllerAxis × Int)) : GamepadState :=
  { state with values := (axisMotions state.values motions).1 }

/-- After the motions, the state is sent or it is not. -/
theorem handleControllerAxisEvent_cases (hfind : s.findStateForGamepad id = some i)
    (motions : List (ControllerAxis × Int)) :
    s.handleControllerAxisEvent id motions = s.setState i (movedState (s.slots i) motions) ∨
      s.handleControllerAxisEvent id motions =
        (s.setState i (movedState (s.slots i) motions)).sendGamepadState id i := by
  rw [handleControllerAxisEvent, hfind]
  exact (ite_eq_or_eq _ _ _).symm

theorem changes_axis (hfind : s.findStateForGamepad id = some i)
    (motions : List (ControllerAxis × Int)) :
    Changes i id [] (s.slots i).values.buttons s (s.handleControllerAxisEvent id motions) ∧
      ((s.handleControllerAxisEvent id motions).Quiet (s.slots i).index →
        lastButtons (s.handleControllerAxisEvent id motions).sent (s.slots i).index = ∅ ∨
          (s.handleControllerAxisEvent id motions).sent = s.sent) := by
  have hmoved := changes_setState s i id (movedState (s.slots i) motions) rfl rfl rfl
  have hsent := changes_sendGamepadState (s.setState i (movedState (s.slots i) motions)) id i
  have hbuttons : (movedState (s.slots i) motions).values.buttons = (s.slots i).values.buttons :=
    axisMotions_buttons _ _
  rcases handleControllerAxisEvent_cases hfind motions with heq | heq
  · rw [heq]
    exact ⟨hbuttons ▸ hmoved, fun _ => .inr rfl⟩
  · rw [heq]
    constructor
    · have hboth := hmoved.trans hsent
      rwa [hmoved.buttons, hbuttons] at hboth
    · intro hquiet
      have hlast := lastButtons_sendGamepadState
        (s.setState i (movedState (s.slots i) motions)) id i
      rw [hmoved.keeps.index] at hlast
      exact .inl (hlast (hsent.quiet_iff.mp hquiet))

/-- Motions of axes. -/
theorem accounted_axis (h : Accounted s) (which : Int) (motions : List (ControllerAxis × Int)) :
    Accounted (s.handleControllerAxisEvent which motions) := by
  cases hfind : s.findStateForGamepad which with
  | none =>
      rw [handleControllerAxisEvent, hfind]
      exact h
  | some i =>
      obtain ⟨hchanges, hlast⟩ := changes_axis hfind motions
      refine ⟨fun id => ?_, hchanges.host h.host fun hquiet => ?_⟩
      · rw [hchanges.presses, List.map_nil, pressesOf_nil, List.append_nil]
        exact (h.mouse id).mono fun _ howner => hchanges.owner howner fun _ hmem _ _ => hmem
      · rcases hlast hquiet with hempty | hsame
        · exact hempty
        · rw [hsame]
          exact h.host _ (hchanges.quiet_iff.mp hquiet)

/-- Nothing happens to buttons. -/
structure Plain (s s' : Gamepads) : Prop where
  controller : ∀ j, (s'.slots j).controller = (s.slots j).controller
  jsId : ∀ j, (s'.slots j).jsId = (s.slots j).jsId
  index : ∀ j, (s'.slots j).index = (s.slots j).index
  values : ∀ j, (s'.slots j).values = (s.slots j).values
  swapFaceButtons : s'.swapFaceButtons = s.swapFaceButtons
  news : News s.sent s'.sent

theorem News.refl (sent : List (Int × GamepadMessage)) : News sent sent :=
  ⟨[], (List.append_nil _).symm, by simp⟩

theorem Plain.refl (s : Gamepads) : Plain s s :=
  ⟨fun _ => rfl, fun _ => rfl, fun _ => rfl, fun _ => rfl, rfl, .refl _⟩

theorem Plain.trans (h : Plain s s') (h' : Plain s' s'') : Plain s s'' where
  controller j := (h'.controller j).trans (h.controller j)
  jsId j := (h'.jsId j).trans (h.jsId j)
  index j := (h'.index j).trans (h.index j)
  values j := (h'.values j).trans (h.values j)
  swapFaceButtons := h'.swapFaceButtons.trans h.swapFaceButtons
  news := by
    obtain ⟨messages, hsent, hnews⟩ := h.news
    obtain ⟨messages', hsent', hnews'⟩ := h'.news
    refine ⟨messages ++ messages', by rw [hsent', hsent, List.append_assoc], ?_⟩
    intro message hmem
    exact (List.mem_append.mp hmem).elim (hnews message) (hnews' message)

theorem plain_setState {state : GamepadState}
    (hcontroller : state.controller = (s.slots i).controller)
    (hjsId : state.jsId = (s.slots i).jsId) (hindex : state.index = (s.slots i).index)
    (hvalues : state.values = (s.slots i).values) : Plain s (s.setState i state) := by
  have hkeeps := keeps_setState s hcontroller hjsId hindex
  refine ⟨hkeeps.controller, hkeeps.jsId, hkeeps.index, fun j => ?_, rfl, .refl _⟩
  by_cases hj : j = i
  · rw [hj, setState_slots_self, hvalues]
  · rw [hkeeps.other j hj]

theorem plain_send (s : Gamepads) (id : Int) {message : GamepadMessage}
    (hinput : isInput message = false) : Plain s (s.send id message) :=
  ⟨fun _ => rfl, fun _ => rfl, fun _ => rfl, fun _ => rfl, rfl, [(id, message)], rfl,
    by simp [hinput]⟩

theorem plain_tell (s : Gamepads) (controller : Nat) (feedback : Feedback) :
    Plain s (s.tell controller feedback) :=
  ⟨fun _ => rfl, fun _ => rfl, fun _ => rfl, fun _ => rfl, rfl, .refl _⟩

theorem Accounted.plain (h : Accounted s) (hplain : Plain s s') : Accounted s' := by
  constructor
  · intro id
    rw [hplain.news.presses]
    refine (h.mouse id).mono fun mouseButton howner => ?_
    obtain ⟨i, hopen, hjsId, button, hmem, hbutton⟩ := howner
    exact ⟨i, by rwa [IsOpen, hplain.controller], by rwa [hplain.jsId], button,
      by rwa [hplain.values], hbutton⟩
  · intro n hquiet
    rw [hplain.news.lastButtons]
    refine h.host n fun i hi => ?_
    rw [← hplain.values]
    exact hquiet i (by rwa [hplain.index])

/-- An event that is about buttons or devices. -/
def IsButtonEvent : GamepadEvent → Prop
  | .axis .. | .button _ | .added _ | .removed _ => True
  | _ => False

theorem plain_step (s : Gamepads) {e : GamepadEvent} (he : ¬ IsButtonEvent e)
    (hend : ¬ BeyondEnd e) : Plain s (step s e) := by
  cases e with
  | axis | button | added | removed => exact absurd trivial he
  | sensor which sensor timestamp data =>
      rw [step, handleControllerSensorEvent]
      cases hfind : s.findStateForGamepad which with
      | none => exact .refl s
      | some i =>
          rcases sensor with _ | _ | _
          · exact .refl s
          all_goals
            dsimp only
            split
            · exact (plain_setState (by rfl) (by rfl) (by rfl) (by rfl)).trans
                (plain_send _ which rfl)
            · exact .refl s
  | touchpad which type touchpad finger =>
      rw [step, handleControllerTouchpadEvent]
      cases s.findStateForGamepad which with
      | none => exact .refl s
      | some i => exact plain_send s which rfl
  | battery which level =>
      rw [step, handleJoystickBatteryEvent]
      cases s.findStateForGamepad which with
      | none => exact .refl s
      | some i =>
          dsimp only [sendGamepadBatteryState]
          cases batteryOf level with
          | none => exact .refl s
          | some battery => exact plain_send s which rfl
  | rumble controllerNumber low high =>
      rw [step, rumble]
      cases s.controllerAt controllerNumber with
      | none => exact .refl s
      | some p => exact plain_tell s p.2 _
  | rumbleTriggers controllerNumber left right =>
      rw [step, rumbleTriggers]
      cases s.controllerAt controllerNumber with
      | none => exact .refl s
      | some p => exact plain_tell s p.2 _
  | motionState controllerNumber motionType rate =>
      rw [step, setMotionEventState]
      cases s.controllerAt controllerNumber with
      | none => exact .refl s
      | some p =>
          rcases motionType with _ | _ | _
          · exact .refl s
          all_goals
            exact (plain_setState (by rfl) (by rfl) (by rfl) (by rfl)).trans (plain_tell _ p.2 _)
  | led controllerNumber r g b =>
      rw [step, setControllerLED]
      cases s.controllerAt controllerNumber with
      | none => exact .refl s
      | some p => exact plain_tell s p.2 _
  | adaptiveTriggers controllerNumber isPS5 report =>
      rw [step, setAdaptiveTriggers]
      split
      · rename_i hle
        have hlt : controllerNumber.toNat < MAX_GAMEPADS := lt_of_le_of_ne hle hend
        rw [dif_pos hlt]
        cases (s.slots ⟨controllerNumber.toNat, hlt⟩).controller with
        | none => exact .refl s
        | some controller =>
            cases isPS5 with
            | false => exact .refl s
            | true => exact plain_tell s controller _
      · exact .refl s

/-! ### Devices -/

theorem accounted_opens (h : Accounted s) (hwf : WellFormed s) {opened : OpenedController}
    (hopens : Opens s s' opened i) : Accounted s' := by
  have hother {j : Fin MAX_GAMEPADS} (hj : j ≠ i) : s'.slots j = s.slots j := by
    rw [hopens.slots, Function.update_of_ne hj]
  have hempty : (s.slots i).values.buttons = ∅ := by
    rw [hwf.empty i hopens.empty]
    rfl
  constructor
  · intro id
    rw [hopens.news.presses]
    refine (h.mouse id).mono fun mouseButton howner => ?_
    obtain ⟨j, hopen, hjsId, hbutton⟩ := howner
    have hj : j ≠ i := fun heq => hopens.empty (heq ▸ hopen)
    exact ⟨j, by rwa [IsOpen, hother hj], by rwa [hother hj], by rwa [hother hj]⟩
  · intro n hquiet
    rw [hopens.news.lastButtons]
    refine h.host n fun j hindex => ?_
    by_cases hj : j = i
    · rw [hj, hempty]
    · rw [← hother hj]
      exact hquiet j (by rwa [hother hj])

theorem accounted_closes (h : Accounted s) {which : Int} (hcloses : Closes s s' which i)
    (hlost : ¬ s.LostButton (.removed which)) : Accounted s' := by
  have hjsId := jsId_of_find hcloses.found
  have hother {j : Fin MAX_GAMEPADS} (hj : j ≠ i) : s'.slots j = s.slots j := by
    rw [hcloses.slots, Function.update_of_ne hj]
  constructor
  · intro id mouseButton hdown
    have hpresses : pressesOf s'.sent id = pressesOf s.sent id := by
      rw [hcloses.sent, pressesOf_append]
      exact List.append_nil _
    rw [hpresses] at hdown
    obtain ⟨j, hopen, hid, hbutton⟩ := h.mouse id mouseButton hdown
    have hj : j ≠ i := by
      intro heq
      subst heq
      obtain ⟨before, after, hlog, -⟩ := isDown_iff.mp hdown
      refine hlost ⟨(.press, mouseButton), ?_, ?_⟩
      · rw [← hjsId, hid, hlog]
        exact List.mem_append_right _ List.mem_cons_self
      · rwa [← hjsId, hid]
    exact ⟨j, by rwa [IsOpen, hother hj], by rwa [hother hj], by rwa [hother hj]⟩
  · intro n hquiet
    rw [hcloses.sent, lastButtons_controller]
    split
    · rfl
    · rename_i hindex
      refine h.host n fun j hj => ?_
      have hji : j ≠ i := fun heq => hindex (by rw [← hj, heq])
      rw [← hother hji]
      exact hquiet j (by rwa [hother hji])

end Gamepads

/-! ### Gamepads and what is held -/

/-- The gamepads, and the buttons that are held on them: each with the instance id. -/
structure HeldGamepads where
  pads : Gamepads
  held : Finset (Int × ControllerButton)

namespace HeldGamepads

open Gamepads

variable {s : HeldGamepads}

/-- The buttons that are held after an event. -/
def heldAfter (held : Finset (Int × ControllerButton)) :
    GamepadEvent → Finset (Int × ControllerButton)
  | .button ⟨which, some button, pressed, _⟩ =>
      if pressed then insert (which, button) held else held.erase (which, button)
  | .removed which => held.filter fun p => p.1 ≠ which
  | _ => held

def step (s : HeldGamepads) (e : GamepadEvent) : HeldGamepads :=
  ⟨s.pads.step e, heldAfter s.held e⟩

/-- Where gamepads are handled at first. -/
def new (multiController gamepadMouse swapFaceButtons noGamepadQuit : Bool)
    (attachedGamepadMask : Finset Nat) : HeldGamepads :=
  ⟨Gamepads.new multiController gamepadMouse swapFaceButtons noGamepadQuit attachedGamepadMask, ∅⟩

/-- The buttons of an open gamepad are held on it. -/
def ButtonsHeld (s : HeldGamepads) : Prop :=
  ∀ i, s.pads.IsOpen i → ∀ button ∈ (s.pads.slots i).values.buttons,
    ∃ held, ((s.pads.slots i).jsId, held) ∈ s.held ∧ s.pads.mappedButton held = button

/-- No button is held on the gamepad, or it is not open. -/
def Idle (s : HeldGamepads) (id : Int) : Prop :=
  ∀ i, s.pads.IsOpen i → (s.pads.slots i).jsId = id → ∀ button, (id, button) ∉ s.held

theorem idle_of_held (h : s.held = ∅) (id : Int) : s.Idle id := by
  intro i _ _ button
  rw [h]
  exact Finset.notMem_empty _

/-- No mouse button that was pressed on behalf of an idle gamepad is down, and the last state of a
controller whose gamepads are all idle has no button. In multi-controller mode each gamepad is a
controller, and in single-controller mode all are one. -/
def NoStuckButtons (s : HeldGamepads) : Prop :=
  (∀ id, s.Idle id → ∀ mouseButton, isDown (pressesOf s.pads.sent id) mouseButton = false) ∧
    ∀ n, (∀ i, s.pads.IsOpen i → (s.pads.slots i).index = n → s.Idle (s.pads.slots i).jsId) →
      lastButtons s.pads.sent n = ∅

/-- What holds in runs in which no button is lost. -/
structure Tracked (s : HeldGamepads) : Prop where
  wellFormed : WellFormed s.pads
  accounted : Accounted s.pads
  held : ButtonsHeld s

theorem noStuckButtons_of_tracked (h : Tracked s) : NoStuckButtons s := by
  constructor
  · intro id hidle mouseButton
    by_contra hdown
    obtain ⟨i, hopen, hjsId, button, hmem, -⟩ :=
      h.accounted.mouse id mouseButton (Bool.of_not_eq_false hdown)
    obtain ⟨held, hheld, -⟩ := h.held i hopen button hmem
    exact hidle i hopen hjsId held (hjsId ▸ hheld)
  · intro n hidle
    refine h.accounted.host n fun i hindex => Finset.eq_empty_of_forall_notMem fun button hmem => ?_
    by_cases hopen : s.pads.IsOpen i
    · obtain ⟨held, hheld, -⟩ := h.held i hopen button hmem
      exact hidle i hopen hindex i hopen rfl held hheld
    · rw [h.wellFormed.empty i hopen] at hmem
      exact absurd hmem (Finset.notMem_empty _)

/-! ### Buttons that are held -/

/-- Nothing happens to the buttons of open gamepads, and what is held on these is still held. -/
theorem ButtonsHeld.frame (h : ButtonsHeld s) {pads : Gamepads}
    {held : Finset (Int × ControllerButton)} (hswap : pads.swapFaceButtons = s.pads.swapFaceButtons)
    (hslots : ∀ i, pads.IsOpen i → (pads.slots i).values.buttons = ∅ ∨ s.pads.IsOpen i ∧
      (pads.slots i).jsId = (s.pads.slots i).jsId ∧
      (pads.slots i).values.buttons = (s.pads.slots i).values.buttons ∧
      ∀ button, ((s.pads.slots i).jsId, button) ∈ s.held →
        ((s.pads.slots i).jsId, button) ∈ held) :
    ButtonsHeld ⟨pads, held⟩ := by
  intro i hopen button hmem
  rcases hslots i hopen with hempty | ⟨hbefore, hjsId, hbuttons, hkept⟩
  · rw [hempty] at hmem
    exact absurd hmem (Finset.notMem_empty _)
  · rw [hbuttons] at hmem
    obtain ⟨held', hheld, hmapped⟩ := h i hbefore button hmem
    refine ⟨held', hjsId ▸ hkept held' hheld, ?_⟩
    rw [mappedButton, hswap]
    exact hmapped

theorem ButtonsHeld.changes (h : ButtonsHeld s) {pads : Gamepads} {i : Fin MAX_GAMEPADS} {id : Int}
    {messages : List GamepadMessage} {buttons : Finset ControllerButton}
    {held : Finset (Int × ControllerButton)} (hchanges : Changes i id messages buttons s.pads pads)
    (hself : ∀ button ∈ buttons, ∃ held', ((s.pads.slots i).jsId, held') ∈ held ∧
      s.pads.mappedButton held' = button)
    (hother : ∀ j, j ≠ i → s.pads.IsOpen j → ∀ button, ((s.pads.slots j).jsId, button) ∈ s.held →
      ((s.pads.slots j).jsId, button) ∈ held) : ButtonsHeld ⟨pads, held⟩ := by
  intro j hopen button hmem
  rw [Gamepads.IsOpen, hchanges.keeps.controller] at hopen
  have hmapped (held' : ControllerButton) :
      pads.mappedButton held' = s.pads.mappedButton held' := by
    rw [mappedButton, hchanges.keeps.swapFaceButtons]
    rfl
  simp only [hchanges.keeps.jsId, hmapped]
  by_cases hj : j = i
  · subst hj
    rw [hchanges.buttons] at hmem
    exact hself button hmem
  · rw [hchanges.keeps.other j hj] at hmem
    obtain ⟨held', hheld, heq⟩ := h j hopen button hmem
    exact ⟨held', hother j hj hopen held' hheld, heq⟩

theorem tracked_button (h : Tracked s) {event : ControllerButtonEvent}
    (hdirected : ¬ Misdirected s.pads (.button event))
    (hlost : ¬ LostButton s.pads (.button event)) :
    Accounted (s.pads.step (.button event)) ∧ ButtonsHeld (s.step (.button event)) := by
  obtain ⟨which, button, pressed, ticks⟩ := event
  rw [step, Gamepads.step, handleControllerButtonEvent]
  cases button with
  | none => exact ⟨h.accounted, h.held⟩
  | some button =>
      cases hfind : s.pads.findStateForGamepad which with
      | none =>
          refine ⟨h.accounted, h.held.frame rfl fun i hopen => .inr ⟨hopen, rfl, rfl, ?_⟩⟩
          have hid : (s.pads.slots i).jsId ≠ which := by
            intro heq
            obtain ⟨j, hj⟩ := exists_find_of_jsId heq
            rw [hfind] at hj
            cases hj
          intro button' hheld
          rw [heldAfter]
          split
          · exact Finset.mem_insert_of_mem hheld
          · exact Finset.mem_erase.mpr ⟨fun heq => hid (congrArg Prod.fst heq), hheld⟩
      | some i =>
          have hjsId := jsId_of_find hfind
          have hopen : s.pads.IsOpen i := by
            by_contra hempty
            exact hdirected ⟨i, hfind, hempty⟩
          cases pressed with
          | true =>
              have hpress := changes_pressButton s.pads which i (s.pads.mappedButton button) ticks
              have hchanges := hpress.trans (changes_sendButtons _ which i)
              rw [hpress.buttons] at hchanges
              refine ⟨accounted_press h.accounted hjsId hopen _ ticks,
                h.held.changes hchanges (fun button' hmem => ?_) fun j _ _ button' hheld =>
                  Finset.mem_insert_of_mem hheld⟩
              rcases Finset.mem_insert.mp hmem with rfl | hmem
              · exact ⟨button, by rw [hjsId]; exact Finset.mem_insert_self _ _, rfl⟩
              · obtain ⟨held, hheld, hmapped⟩ := h.held i hopen button' hmem
                exact ⟨held, Finset.mem_insert_of_mem hheld, hmapped⟩
          | false =>
              have hrelease :=
                changes_releaseButton s.pads which i (s.pads.mappedButton button) ticks
              have hchanges := hrelease.trans (changes_sendButtons _ which i)
              rw [hrelease.buttons] at hchanges
              have hnot : ¬ s.pads.LostRelease i ⟨which, some button, false, ticks⟩
                  (s.pads.mappedButton button) :=
                fun hlost' => hlost ⟨rfl, button, rfl, i, hfind, hlost'⟩
              refine ⟨accounted_release h.accounted hjsId hnot,
                h.held.changes hchanges (fun button' hmem => ?_) fun j hj hother button' hheld =>
                  Finset.mem_erase.mpr ⟨fun heq => hj ?_, hheld⟩⟩
              · obtain ⟨hne, hmem⟩ := Finset.mem_erase.mp hmem
                obtain ⟨held, hheld, hmapped⟩ := h.held i hopen button' hmem
                refine ⟨held, Finset.mem_erase.mpr ⟨fun heq => hne ?_, hheld⟩, hmapped⟩
                exact hmapped.symm.trans (congrArg (fun p => s.pads.mappedButton p.2) heq)
              · exact h.wellFormed.jsId_inj j i hother hopen
                  ((congrArg Prod.fst heq).trans hjsId.symm)

theorem tracked_axis (h : Tracked s) (which : Int) (motions : List (ControllerAxis × Int)) :
    ButtonsHeld (s.step (.axis which motions)) := by
  show ButtonsHeld ⟨s.pads.handleControllerAxisEvent which motions, s.held⟩
  cases hfind : s.pads.findStateForGamepad which with
  | none =>
      rw [handleControllerAxisEvent, hfind]
      exact h.held
  | some i =>
      have hchanges := (changes_axis hfind motions).1
      refine h.held.frame hchanges.keeps.swapFaceButtons fun j hopen => .inr ?_
      rw [Gamepads.IsOpen, hchanges.keeps.controller] at hopen
      refine ⟨hopen, hchanges.keeps.jsId j, ?_, fun _ hheld => hheld⟩
      by_cases hj : j = i
      · rw [hj, hchanges.buttons]
      · rw [hchanges.keeps.other j hj]

theorem tracked_added (h : Tracked s) (opened : Option OpenedController) :
    Accounted (s.pads.deviceAdded opened) ∧ ButtonsHeld (s.step (.added opened)) := by
  show Accounted _ ∧ ButtonsHeld ⟨s.pads.deviceAdded opened, s.held⟩
  rcases deviceAdded_cases s.pads opened with hsame | ⟨controller, i, -, hopens⟩
  · rw [hsame]
    exact ⟨h.accounted, h.held⟩
  · refine ⟨accounted_opens h.accounted h.wellFormed hopens,
      h.held.frame hopens.swapFaceButtons fun j hopen => ?_⟩
    by_cases hj : j = i
    · left
      rw [hj, hopens.slots, Function.update_self]
      show (s.pads.slots i).values.buttons = ∅
      rw [h.wellFormed.empty i hopens.empty]
      rfl
    · rw [Gamepads.IsOpen, hopens.slots, Function.update_of_ne hj] at hopen
      rw [hopens.slots, Function.update_of_ne hj]
      exact .inr ⟨hopen, rfl, rfl, fun _ hheld => hheld⟩

theorem tracked_removed (h : Tracked s) {which : Int}
    (hdirected : ¬ Misdirected s.pads (.removed which))
    (hlost : ¬ LostButton s.pads (.removed which)) :
    Accounted (s.pads.deviceRemoved which) ∧ ButtonsHeld (s.step (.removed which)) := by
  show Accounted _ ∧ ButtonsHeld ⟨s.pads.deviceRemoved which, s.held.filter fun p => p.1 ≠ which⟩
  have hkept {j : Fin MAX_GAMEPADS} (hj : (s.pads.slots j).jsId ≠ which)
      (button : ControllerButton) (hheld : ((s.pads.slots j).jsId, button) ∈ s.held) :
      ((s.pads.slots j).jsId, button) ∈ s.held.filter fun p => p.1 ≠ which :=
    Finset.mem_filter.mpr ⟨hheld, hj⟩
  rcases deviceRemoved_cases s.pads which with ⟨hnone, hsame⟩ | ⟨i, hcloses⟩
  · rw [hsame]
    refine ⟨h.accounted, h.held.frame rfl fun j hopen => .inr ⟨hopen, rfl, rfl, hkept ?_⟩⟩
    intro heq
    obtain ⟨i, hi⟩ := exists_find_of_jsId heq
    rw [hnone] at hi
    cases hi
  · refine ⟨accounted_closes h.accounted hcloses hlost,
      h.held.frame hcloses.swapFaceButtons fun j hopen => .inr ?_⟩
    have hj : j ≠ i := by
      intro heq
      rw [heq, Gamepads.IsOpen, hcloses.slots, Function.update_self] at hopen
      exact hopen rfl
    rw [Gamepads.IsOpen, hcloses.slots, Function.update_of_ne hj] at hopen
    rw [hcloses.slots, Function.update_of_ne hj]
    refine ⟨hopen, rfl, rfl, hkept fun heq => hj ?_⟩
    have hfound : s.pads.IsOpen i := (names_of_found hdirected (.inl hcloses.found)).1
    exact h.wellFormed.jsId_inj j i hopen hfound (heq.trans (jsId_of_find hcloses.found).symm)

theorem tracked_step (h : Tracked s) {e : GamepadEvent} (hsdl : SdlOpens s.pads e)
    (hend : ¬ BeyondEnd e) (hdirected : ¬ Misdirected s.pads e) (hlost : ¬ LostButton s.pads e) :
    Tracked (s.step e) := by
  have hwf : WellFormed (s.step e).pads := wellFormed_step h.wellFormed hsdl hdirected hend
  by_cases he : IsButtonEvent e
  · cases e with
    | axis which motions =>
        exact ⟨hwf, accounted_axis h.accounted which motions, tracked_axis h which motions⟩
    | button event =>
        obtain ⟨haccounted, hheld⟩ := tracked_button h hdirected hlost
        exact ⟨hwf, haccounted, hheld⟩
    | added opened =>
        obtain ⟨haccounted, hheld⟩ := tracked_added h opened
        exact ⟨hwf, haccounted, hheld⟩
    | removed which =>
        obtain ⟨haccounted, hheld⟩ := tracked_removed h hdirected hlost
        exact ⟨hwf, haccounted, hheld⟩
    | _ => exact he.elim
  · have hplain := plain_step s.pads he hend
    have hheld : heldAfter s.held e = s.held := by
      cases e with
      | axis | button | added | removed => exact absurd trivial he
      | _ => rfl
    refine ⟨hwf, h.accounted.plain hplain, ?_⟩
    show ButtonsHeld ⟨s.pads.step e, heldAfter s.held e⟩
    rw [hheld]
    refine h.held.frame hplain.swapFaceButtons fun i hopen => .inr ?_
    rw [Gamepads.IsOpen, hplain.controller] at hopen
    exact ⟨hopen, hplain.jsId i, by rw [hplain.values], fun _ hheld => hheld⟩

/-- **No stuck buttons of gamepads.** Where SDL gives each controller an instance id of its own,
nothing is stuck in any state of a run in which no event finds an empty slot and no button is
lost. -/
theorem noStuckGamepadButtons (multiController gamepadMouse swapFaceButtons noGamepadQuit : Bool)
    (attachedGamepadMask : Finset Nat) (es : List GamepadEvent)
    (hsdl : AllSteps step (fun s e => SdlOpens s.pads e ∧ ¬ BeyondEnd e)
      (new multiController gamepadMouse swapFaceButtons noGamepadQuit attachedGamepadMask) es)
    (h : AllSteps step (fun s e => ¬ Misdirected s.pads e ∧ ¬ LostButton s.pads e)
      (new multiController gamepadMouse swapFaceButtons noGamepadQuit attachedGamepadMask) es)
    (pre : List GamepadEvent) (hpre : pre <+: es) :
    NoStuckButtons (run step
      (new multiController gamepadMouse swapFaceButtons noGamepadQuit attachedGamepadMask)
      pre) := by
  obtain ⟨post, rfl⟩ := hpre
  have hnew : Tracked (new multiController gamepadMouse swapFaceButtons noGamepadQuit
      attachedGamepadMask) :=
    ⟨wellFormed_new .., ⟨fun _ => owned_nil _, fun _ _ => rfl⟩, fun _ hopen => absurd rfl hopen⟩
  have hboth := (allSteps_append.mp hsdl).1.and (allSteps_append.mp h).1
  exact noStuckButtons_of_tracked (@run_invariant _ _ step _ Tracked
    (fun s e hgood htracked => tracked_step htracked hgood.1.1 hgood.1.2 hgood.2.1 hgood.2.2) _ hnew
    _ hboth)

section Sample

def pad (button : ControllerButton) (pressed : Bool) (ticks : UInt32) : GamepadEvent :=
  .button ⟨1, some button, pressed, ticks⟩

/-- A controller whose mouse emulation is turned on. -/
def sampleEmulation : List GamepadEvent :=
  [.added (some (sampleController 100 1)), pad .start true 1000, pad .start false 2000]

/-- A click, the end of the emulation, the A button, and the end of the controller. -/
def sampleClick : List GamepadEvent :=
  sampleEmulation ++ [pad .a true 3000, pad .a false 3100, pad .start true 4000,
    pad .start false 5000, pad .a true 6000, pad .a false 6100, .removed 1]

theorem sampleClick_released :
    NoStuckButtons (run step (new true true false false ∅) sampleClick) :=
  noStuckGamepadButtons true true false false ∅ sampleClick (by decide) (by decide) _
    (List.prefix_refl _)

/-- The A button is released after mouse emulation has been turned off, or the controller is
removed while it is held. -/
theorem left_button_of_gamepad_stuck :
    ¬ NoStuckButtons (run step (new true true false false ∅) (sampleEmulation ++
        [pad .a true 3000, pad .start true 4000, pad .start false 5000, pad .a false 6000])) ∧
      ¬ NoStuckButtons (run step (new true true false false ∅)
        (sampleEmulation ++ [pad .a true 3000, .removed 1])) := by
  constructor
  · intro h
    exact absurd (h.1 1 (idle_of_held (by decide) 1) .left) (by decide)
  · intro h
    exact absurd (h.1 1 (idle_of_held (by decide) 1) .left) (by decide)

end Sample

end HeldGamepads

end GilStreaming.Streaming
