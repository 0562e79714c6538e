import GilStreaming.Streaming.GamepadInput

/-!
# GilStreaming.Streaming.SingleController

Single-controller mode with one gamepad.

Two handlers run side by side, one in either mode (`Twins`). What the single-controller mode adds
when it sends a state is the loop that merges the gamepads, and with one gamepad the loop merges
its own raw state into what is sent. That changes nothing, unless the emulation of the clickpad
button has just replaced the buttons.
-/

namespace GilStreaming.Streaming

open Trace

namespace Gamepads

variable {m m' m'' s s' s'' : Gamepads} {id : Int}

/-! ### What is sent -/

/-- The values that are sent, in order. -/
def sentValues (sent : List (Int × GamepadMessage)) : List ControllerValues :=
  sent.filterMap fun message =>
    match message.2 with
    | .controller _ _ values => some values
    | _ => none

@[simp] theorem sentValues_nil : sentValues [] = [] := rfl

@[simp] theorem sentValues_append (sent sent' : List (Int × GamepadMessage)) :
    sentValues (sent ++ sent') = sentValues sent ++ sentValues sent' := List.filterMap_append

/-- The emulation of the clickpad button changes the buttons that are sent. -/
def ClickpadEmulated (state : GamepadState) : Prop :=
  (clickpadButtons state).1 ≠ state.values.buttons

instance : DecidablePred ClickpadEmulated := fun _ => inferInstanceAs (Decidable (_ ≠ _))

/-- Merging the raw buttons changes those that are sent exactly if they are emulated. -/
theorem union_eq_iff (state : GamepadState) :
    (clickpadButtons state).1 = (clickpadButtons state).1 ∪ state.values.buttons ↔
      ¬ ClickpadEmulated state := by
  rw [ClickpadEmulated, not_not, eq_comm, Finset.union_eq_left]
  constructor
  · intro hsub
    rw [clickpadButtons] at hsub ⊢
    by_cases henabled : state.clickpadButtonEmulationEnabled = true
    · rw [if_pos henabled] at hsub ⊢
      by_cases hcombo : state.values.buttons = {.back, .guide}
      · rw [if_pos hcombo, hcombo] at hsub
        exact absurd hsub (by decide)
      · rw [if_neg hcombo] at hsub ⊢
        split at hsub
        · rename_i hdown
          rw [if_pos hdown]
          exact Finset.Subset.antisymm (Finset.erase_subset _ _) hsub
        · rename_i hdown
          rw [if_neg hdown]
    · rw [if_neg henabled]
  · intro heq
    rw [heq]

/-! ### The merge loop -/

theorem mergeStick_self (stick : Int × Int) : mergeStick stick stick = stick := by
  simp [mergeStick]

theorem mergeStick_zero (stick : Int × Int) : mergeStick stick (0, 0) = stick := by
  simp [mergeStick]

theorem mergeValues_zero (values : ControllerValues) : mergeValues values .zero = values := by
  simp [mergeValues, ControllerValues.zero, mergeStick_zero]

theorem mergeValues_own (values : ControllerValues) (buttons : Finset ControllerButton) :
    mergeValues { values with buttons := buttons } values =
      { values with buttons := buttons ∪ values.buttons } := by
  simp [mergeValues, mergeStick_self]

theorem foldl_merge_zero (is : List (Fin MAX_GAMEPADS)) (hzero : ∀ i ∈ is, s.slots i = .zero)
    (index : Nat) (values : ControllerValues) :
    is.foldl (fun values i =>
      if (s.slots i).index = index then mergeValues values (s.slots i).values else values)
      values = values := by
  induction is with
  | nil => rfl
  | cons i is ih =>
      have hvalues : (s.slots i).values = .zero := by
        rw [hzero i List.mem_cons_self]
        rfl
      rw [List.foldl_cons, hvalues, mergeValues_zero, ite_self]
      exact ih fun j hj => hzero j (List.mem_cons_of_mem _ hj)

/-! ### One gamepad -/

/-- The gamepad is the only one, in slot 0. -/
structure Alone (m : Gamepads) (id : Int) : Prop where
  multi : m.multiController = true
  found : m.findStateForGamepad id = some 0
  index : (m.slots 0).index = 0
  others : ∀ i, i ≠ 0 → m.slots i = .zero

/-- The same gamepad in single-controller mode. -/
structure Twins (id : Int) (m s : Gamepads) : Prop where
  alone : Alone m id
  eq : s = { m with multiController := false, mask := s.mask, sent := s.sent }

theorem Twins.slots (h : Twins id m s) : s.slots = m.slots := by rw [h.eq]

theorem Twins.found (h : Twins id m s) : s.findStateForGamepad id = some 0 := by
  rw [findStateForGamepad, h.slots]
  exact h.alone.found

/-- The merge loop with one gamepad. -/
theorem mergedValues_alone (h : Twins id m s) (buttons : Finset ControllerButton) :
    s.mergedValues (s.slots 0).index { (s.slots 0).values with buttons := buttons } =
      { (s.slots 0).values with buttons := buttons ∪ (s.slots 0).values.buttons } := by
  have hsingle : s.multiController ≠ true := by
    rw [h.eq]
    exact Bool.false_ne_true
  have hindex : (s.slots 0).index = 0 := by
    rw [h.slots]
    exact h.alone.index
  have hzero : ∀ i ∈ (List.finRange 15).map Fin.succ, s.slots i = .zero := by
    intro i hi
    obtain ⟨j, -, rfl⟩ := List.mem_map.mp hi
    rw [h.slots]
    exact h.alone.others _ (Fin.succ_ne_zero j)
  rw [mergedValues, if_neg hsingle, show List.finRange MAX_GAMEPADS =
    0 :: (List.finRange 15).map Fin.succ from List.finRange_succ, List.foldl_cons, if_pos rfl,
    mergeValues_own, hindex]
  exact foldl_merge_zero _ hzero 0 _

/-- From twins to twins, where the values that both send on the way are the same exactly if `E`
does not hold. -/
structure Along (id : Int) (m s m' s' : Gamepads) (E : Prop) : Prop where
  twins : Twins id m' s'
  sent : ∃ newM newS, sentValues m'.sent = sentValues m.sent ++ newM ∧
    sentValues s'.sent = sentValues s.sent ++ newS ∧ newM.length = newS.length ∧
    (newM = newS ↔ ¬ E)

theorem Along.trans {E E' : Prop} (h : Along id m s m' s' E) (h' : Along id m' s' m'' s'' E') :
    Along id m s m'' s'' (E ∨ E') := by
  obtain ⟨newM, newS, hm, hs, hlength, hiff⟩ := h.sent
  obtain ⟨newM', newS', hm', hs', hlength', hiff'⟩ := h'.sent
  refine ⟨h'.twins, newM ++ newM', newS ++ newS', ?_, ?_, ?_, ?_⟩
  · rw [hm', hm, List.append_assoc]
  · rw [hs', hs, List.append_assoc]
  · rw [List.length_append, List.length_append, hlength, hlength']
  · rw [not_or, ← hiff, ← hiff']
    constructor
    · exact fun heq => List.append_inj heq hlength
    · exact fun heq => congrArg₂ _ heq.1 heq.2

theorem Along.congr {E E' : Prop} (h : Along id m s m' s' E) (hiff : E ↔ E') :
    Along id m s m' s' E' := by
  rwa [← propext hiff]

theorem Along.refl (h : Twins id m s) : Along id m s m s False :=
  ⟨h, [], [], by simp, by simp, rfl, by simp⟩

theorem along_setState (h : Twins id m s) (state : GamepadState)
    (hjsId : state.jsId = (m.slots 0).jsId) (hindex : state.index = (m.slots 0).index) :
    Along id m s (m.setState 0 state) (s.setState 0 state) False := by
  refine ⟨⟨⟨h.alone.multi, ?_, ?_, ?_⟩, ?_⟩, [], [], by simp [setState], by simp [setState], rfl,
    by simp⟩
  · rw [← h.alone.found, findStateForGamepad, findStateForGamepad]
    congr 1
    funext i
    by_cases hi : i = 0
    · rw [hi, setState_slots_self, hjsId]
    · rw [setState_slots_of_ne m hi]
  · rw [setState_slots_self, hindex]
    exact h.alone.index
  · intro i hi
    rw [setState_slots_of_ne m hi]
    exact h.alone.others i hi
  · rw [setState, setState, h.slots]
    conv_lhs => rw [h.eq]

theorem Twins.send (h : Twins id m s) (message message' : GamepadMessage) :
    Twins id (m.send id message) (s.send id message') := by
  refine ⟨⟨h.alone.multi, h.alone.found, h.alone.index, h.alone.others⟩, ?_⟩
  rw [Gamepads.send, Gamepads.send]
  conv_lhs => rw [h.eq]

/-- Both send a message with the same values, or with none. -/
theorem along_send (h : Twins id m s) {message message' : GamepadMessage}
    (hsame : sentValues [(id, message)] = sentValues [(id, message')]) :
    Along id m s (m.send id message) (s.send id message') False :=
  ⟨h.send message message', _, _, sentValues_append _ _, sentValues_append _ _, by rw [hsame],
    by simp [hsame]⟩

theorem along_sendMessage (h : Twins id m s) (message : Option GamepadMessage) :
    Along id m s (m.sendMessage id message) (s.sendMessage id message) False := by
  cases message with
  | none => exact .refl h
  | some message => exact along_send h rfl

/-- Both send the state of the gamepad. -/
theorem along_sendGamepadState (h : Twins id m s) :
    Along id m s (m.sendGamepadState id 0) (s.sendGamepadState id 0)
      (ClickpadEmulated (m.slots 0)) := by
  have hstate := along_setState h (sentState (m.slots 0)) rfl rfl
  have hm : sentValues [(id, m.stateMessage 0)] =
      [{ (m.slots 0).values with buttons := (clickpadButtons (m.slots 0)).1 }] := by
    rw [stateMessage, mergedValues, if_pos h.alone.multi]
    rfl
  have hs : sentValues [(id, s.stateMessage 0)] = [{ (m.slots 0).values with
      buttons := (clickpadButtons (m.slots 0)).1 ∪ (m.slots 0).values.buttons }] := by
    rw [stateMessage, mergedValues_alone h, h.slots]
    rfl
  rw [sendGamepadState_eq, sendGamepadState_eq, h.slots]
  refine ⟨hstate.twins.send _ _, _, _, sentValues_append _ _, sentValues_append _ _, ?_, ?_⟩
  · rw [hm, hs]
    rfl
  · rw [hm, hs, ← union_eq_iff]
    simp

/-! ### One event -/

/-- The press or release that an event is, before anything is sent at its end. -/
def changeButton (s : Gamepads) (i : Fin MAX_GAMEPADS) (event : ControllerButtonEvent)
    (button : ControllerButton) : Gamepads :=
  if event.pressed then s.pressButton event.which i button event.ticks
  else s.releaseButton event.which i button event.ticks

/-- A state is sent for a press or release whose buttons the emulation of the clickpad changes:
that of the long press that turns mouse emulation on, or that at the end. -/
def ButtonEmulatesClickpad (s : Gamepads) (i : Fin MAX_GAMEPADS) (event : ControllerButtonEvent)
    (button : ControllerButton) : Prop :=
  let changed := s.changeButton i event button
  (event.pressed = false ∧ s.Activates i button event.ticks ∧
      ClickpadEmulated (releasedState (s.slots i) button false)) ∨
    (changed.isCombo (changed.slots i).values.buttons = false ∧
      (changed.slots i).mouseEmulationTimer = false ∧ ClickpadEmulated (changed.slots i))

instance (s : Gamepads) (i : Fin MAX_GAMEPADS) (event : ControllerButtonEvent)
    (button : ControllerButton) : Decidable (s.ButtonEmulatesClickpad i event button) :=
  inferInstanceAs (Decidable ((_ ∧ _ ∧ ClickpadEmulated _) ∨ (_ ∧ _ ∧ ClickpadEmulated _)))

/-- A state is sent for the event whose buttons the emulation of the clickpad changes. -/
def EmulatesClickpad (s : Gamepads) : GamepadEvent → Prop
  | .axis which motions =>
      ∃ i ∈ s.findStateForGamepad which, (axisMotions (s.slots i).values motions).2 = true ∧
        (s.slots i).mouseEmulationTimer = false ∧
        ClickpadEmulated { s.slots i with values := (axisMotions (s.slots i).values motions).1 }
  | .button event =>
      ∃ button ∈ event.button, ∃ i ∈ s.findStateForGamepad event.which,
        s.ButtonEmulatesClickpad i event
          (if s.swapFaceButtons then swapFaceButton button else button)
  | _ => False

instance (s : Gamepads) : DecidablePred s.EmulatesClickpad
  | .axis which _ =>
      inferInstanceAs (Decidable (∃ i ∈ s.findStateForGamepad which, _ ∧ _ ∧ ClickpadEmulated _))
  | .button event =>
      inferInstanceAs (Decidable (∃ button ∈ event.button,
        ∃ i ∈ s.findStateForGamepad event.which, s.ButtonEmulatesClickpad i event _))
  | .sensor .. | .touchpad .. | .battery .. | .added _ | .removed _ | .rumble .. |
    .rumbleTriggers .. | .motionState .. | .led .. | .adaptiveTriggers .. =>
      inferInstanceAs (Decidable False)

theorem Twins.emulatedMessage (h : Twins id m s) (message : Option GamepadMessage) :
    s.emulatedMessage i button message = m.emulatedMessage i button message := by
  rw [Gamepads.emulatedMessage, Gamepads.emulatedMessage, h.slots]

theorem Twins.activates (h : Twins id m s) :
    s.Activates i button ticks ↔ m.Activates i button ticks := by
  have hmouse : s.gamepadMouse = m.gamepadMouse := by rw [h.eq]
  rw [Activates, Activates, LongPress, LongPress, h.slots, hmouse]

theorem along_pressButton (h : Twins id m s) (button : ControllerButton) (ticks : UInt32) :
    Along id m s (m.pressButton id 0 button ticks) (s.pressButton id 0 button ticks) False := by
  have hstate := along_setState h (pressedState (m.slots 0) button ticks) rfl rfl
  have hsend := along_sendMessage hstate.twins (m.emulatedMessage 0 button (pressMessage button))
  rw [pressButton_eq, pressButton_eq, h.slots, h.emulatedMessage]
  simpa using hstate.trans hsend

theorem along_releaseButton (h : Twins id m s) (button : ControllerButton) (ticks : UInt32) :
    Along id m s (m.releaseButton id 0 button ticks) (s.releaseButton id 0 button ticks)
      (m.Activates 0 button ticks ∧
        ClickpadEmulated (releasedState (m.slots 0) button false)) := by
  by_cases hactivates : m.Activates 0 button ticks
  · -- The state is sent between the two changes.
    have hstate := along_setState h (releasedState (m.slots 0) button false) rfl rfl
    have hsent := along_sendGamepadState hstate.twins
    rw [setState_slots_self] at hsent
    let sent := (m.setState 0 (releasedState (m.slots 0) button false)).sendGamepadState id 0
    have hon := along_setState hsent.twins
      { sent.slots 0 with mouseEmulationTimer := true } rfl rfl
    rw [releaseButton_activates hactivates, releaseButton_activates (h.activates.mpr hactivates),
      h.slots]
    simp only [hsent.twins.slots]
    simpa [hactivates] using (hstate.trans hsent).trans hon
  · have hstate := along_setState h (releasedState (m.slots 0) button
      ((m.slots 0).mouseEmulationTimer && !m.LongPress 0 button ticks)) rfl rfl
    have hsend := along_sendMessage hstate.twins
      (m.emulatedMessage 0 button (releaseMessage button))
    have hlong : s.LongPress 0 button ticks ↔ m.LongPress 0 button ticks := by
      rw [LongPress, LongPress, h.slots]
    rw [releaseButton_eq hactivates, releaseButton_eq (mt h.activates.mp hactivates), h.slots,
      h.emulatedMessage]
    simpa [hactivates, hlong] using hstate.trans hsend

theorem along_changeButton (h : Twins id m s) {event : ControllerButtonEvent}
    (hwhich : event.which = id) (button : ControllerButton) :
    Along id m s (m.changeButton 0 event button) (s.changeButton 0 event button)
      (event.pressed = false ∧ m.Activates 0 button event.ticks ∧
        ClickpadEmulated (releasedState (m.slots 0) button false)) := by
  rw [changeButton, changeButton, hwhich]
  cases event.pressed with
  | true => simpa using along_pressButton h button event.ticks
  | false => simpa using along_releaseButton h button event.ticks

/-- The end of a button event. -/
theorem along_sendButtons (h : Twins id m s) :
    Along id m s (m.sendButtons id 0) (s.sendButtons id 0)
      (m.isCombo (m.slots 0).values.buttons = false ∧
        (m.slots 0).mouseEmulationTimer = false ∧ ClickpadEmulated (m.slots 0)) := by
  have hcombo (buttons) : s.isCombo buttons = m.isCombo buttons := by
    rw [isCombo, isCombo, h.eq]
  rw [sendButtons, sendButtons, h.slots, hcombo]
  cases hbuttons : m.isCombo (m.slots 0).values.buttons with
  | true => simpa using along_send h (by rfl)
  | false =>
      cases hemulation : (m.slots 0).mouseEmulationTimer with
      | true => simpa using Along.refl h
      | false => simpa using along_sendGamepadState h

theorem along_button (h : Twins id m s) {event : ControllerButtonEvent}
    (hwhich : event.which = id) :
    Along id m s (m.step (.button event)) (s.step (.button event))
      (EmulatesClickpad m (.button event)) := by
  cases hbutton : event.button with
  | none =>
      have hnone : ¬ EmulatesClickpad m (.button event) := by
        rintro ⟨button, hmem, -⟩
        rw [hbutton] at hmem
        exact absurd hmem (by simp)
      simpa [step, handleControllerButtonEvent, hbutton, hnone] using Along.refl h
  | some button =>
      have hswap : s.swapFaceButtons = m.swapFaceButtons := by rw [h.eq]
      have hchange := along_changeButton h hwhich
        (if m.swapFaceButtons then swapFaceButton button else button)
      have hsend := along_sendButtons hchange.twins
      have hm := h.alone.found
      have hs := h.found
      rw [← hwhich] at hm hs
      rw [step, step, handleControllerButtonEvent, handleControllerButtonEvent, hbutton, hm, hs]
      simp only [hswap]
      subst hwhich
      refine (hchange.trans hsend).congr ?_
      simp [EmulatesClickpad, ButtonEmulatesClickpad, hbutton, hm]

theorem along_axis (h : Twins id m s) (motions : List (ControllerAxis × Int)) :
    Along id m s (m.step (.axis id motions)) (s.step (.axis id motions))
      (EmulatesClickpad m (.axis id motions)) := by
  have hstate := along_setState h { m.slots 0 with
    values := (axisMotions (m.slots 0).values motions).1 } rfl rfl
  have hsent := along_sendGamepadState hstate.twins
  rw [step, step, handleControllerAxisEvent, handleControllerAxisEvent, h.alone.found, h.found]
  simp only [setState_slots_self, h.slots] at hsent ⊢
  split
  · rename_i hsend
    rw [Bool.and_eq_true, Bool.not_eq_true'] at hsend
    refine (hstate.trans hsent).congr ?_
    simp [EmulatesClickpad, h.alone.found, hsend.1, hsend.2]
  · rename_i hsend
    rw [Bool.and_eq_true, Bool.not_eq_true'] at hsend
    refine hstate.congr ?_
    simp only [EmulatesClickpad, h.alone.found, Option.mem_def, Option.some.injEq,
      exists_eq_left', false_iff]
    exact fun hemulates => hsend ⟨hemulates.1, hemulates.2.1⟩

/-! ### The run -/

/-- The event is one of the sticks, triggers or buttons of this gamepad. -/
def IsInputOf (id : Int) : GamepadEvent → Prop
  | .axis which _ => which = id
  | .button event => event.which = id
  | _ => False

instance (id : Int) : DecidablePred (IsInputOf id)
  | .axis _ _ | .button _ => inferInstanceAs (Decidable (_ = _))
  | .sensor .. | .touchpad .. | .battery .. | .added _ | .removed _ | .rumble .. |
    .rumbleTriggers .. | .motionState .. | .led .. | .adaptiveTriggers .. =>
      inferInstanceAs (Decidable False)

theorem along_step (h : Twins id m s) {e : GamepadEvent} (he : IsInputOf id e) :
    Along id m s (m.step e) (s.step e) (EmulatesClickpad m e) := by
  cases e with
  | axis which motions =>
      obtain rfl : which = id := he
      exact along_axis h motions
  | button event => exact along_button h he
  | _ => exact he.elim

theorem along_run (h : Twins id m s) {es : List GamepadEvent} (hes : ∀ e ∈ es, IsInputOf id e) :
    Along id m s (run step m es) (run step s es)
      (¬ AllSteps step (fun m e => ¬ EmulatesClickpad m e) m es) := by
  induction es generalizing m s with
  | nil => simpa using Along.refl h
  | cons e es ih =>
      have hone := along_step h (hes e List.mem_cons_self)
      have hrest := ih hone.twins fun e' he' => hes e' (List.mem_cons_of_mem _ he')
      refine (hone.trans hrest).congr ?_
      rw [allSteps_cons, not_and_or, not_not]

/-- The handler when this controller has been attached, in either mode. -/
def attached (multiController gamepadMouse swapFaceButtons noGamepadQuit : Bool)
    (attachedGamepadMask : Finset Nat) (opened : OpenedController) : Gamepads :=
  (new multiController gamepadMouse swapFaceButtons noGamepadQuit attachedGamepadMask).step
    (.added (some opened))

/-- The slot of the controller. -/
def attachedState (opened : OpenedController) : GamepadState :=
  { GamepadState.zero with
    controller := some opened.controller
    jsId := opened.instanceId
    clickpadButtonEmulationEnabled := !opened.touchpadMapped && opened.type == .ps }

theorem sentValues_news {messages : List (Int × GamepadMessage)}
    (hnews : ∀ message ∈ messages, isInput message.2 = false) : sentValues messages = [] := by
  rw [sentValues, List.filterMap_eq_nil_iff]
  intro message hmem
  cases hmessage : message.2 with
  | controller index mask values =>
      have hinput := hnews message hmem
      rw [hmessage] at hinput
      exact absurd hinput Bool.true_eq_false.mp
  | _ => rfl

theorem attached_eq (multiController gamepadMouse swapFaceButtons noGamepadQuit : Bool)
    (attachedGamepadMask : Finset Nat) {opened : OpenedController}
    (hopened : opened.ignored = false) :
    ∃ mask sent, sentValues sent = [] ∧
      attached multiController gamepadMouse swapFaceButtons noGamepadQuit attachedGamepadMask
          opened =
        { new multiController gamepadMouse swapFaceButtons noGamepadQuit attachedGamepadMask with
          mask := mask
          slots := Function.update (fun _ => .zero) 0 (attachedState opened)
          sent := sent } := by
  obtain ⟨messages, heq, hnews⟩ := deviceAdded_eq (i := 0)
    (s := new multiController gamepadMouse swapFaceButtons noGamepadQuit attachedGamepadMask)
    opened (fun _ => Option.some_ne_none _ ∘ Eq.symm) (by rfl) hopened
  have hstate : (new multiController gamepadMouse swapFaceButtons noGamepadQuit
      attachedGamepadMask).openedState 0 opened = attachedState opened := by
    cases multiController <;> rfl
  rw [hstate] at heq
  exact ⟨_, messages, sentValues_news hnews, heq⟩

theorem attached_twins (gamepadMouse swapFaceButtons noGamepadQuit : Bool)
    (attachedGamepadMask : Finset Nat) {opened : OpenedController}
    (hopened : opened.ignored = false) :
    let m := attached true gamepadMouse swapFaceButtons noGamepadQuit attachedGamepadMask opened
    let s := attached false gamepadMouse swapFaceButtons noGamepadQuit attachedGamepadMask opened
    Twins opened.instanceId m s ∧ sentValues m.sent = [] ∧ sentValues s.sent = [] := by
  obtain ⟨maskM, sentM, hsentM, hm⟩ := attached_eq true gamepadMouse swapFaceButtons
    noGamepadQuit attachedGamepadMask hopened
  obtain ⟨maskS, sentS, hsentS, hs⟩ := attached_eq false gamepadMouse swapFaceButtons
    noGamepadQuit attachedGamepadMask hopened
  simp only [hm, hs]
  refine ⟨⟨⟨rfl, ?_, rfl, ?_⟩, rfl⟩, hsentM, hsentS⟩
  · rw [findStateForGamepad, List.finRange_succ]
    exact List.find?_cons_of_pos (by simp [attachedState])
  · intro i hi
    show Function.update (fun _ => GamepadState.zero) 0 (attachedState opened) i = .zero
    rw [Function.update_of_ne hi]

/-- With one gamepad, both modes send the same values exactly if no state is sent whose buttons
the emulation of the clickpad changes. -/
theorem single_controller_transparent_iff (gamepadMouse swapFaceButtons noGamepadQuit : Bool)
    (attachedGamepadMask : Finset Nat) (opened : OpenedController)
    (hopened : opened.ignored = false) (es : List GamepadEvent)
    (hes : ∀ e ∈ es, IsInputOf opened.instanceId e) :
    let m := attached true gamepadMouse swapFaceButtons noGamepadQuit attachedGamepadMask opened
    let s := attached false gamepadMouse swapFaceButtons noGamepadQuit attachedGamepadMask opened
    sentValues (run step s es).sent = sentValues (run step m es).sent ↔
      AllSteps step (fun m e => ¬ EmulatesClickpad m e) m es := by
  intro m s
  obtain ⟨htwins, hm, hs⟩ : Twins opened.instanceId m s ∧ sentValues m.sent = [] ∧
    sentValues s.sent = [] := attached_twins _ _ _ _ hopened
  obtain ⟨newM, newS, hsentM, hsentS, -, hiff⟩ := (along_run htwins hes).sent
  rw [hsentM, hsentS, hm, hs, List.nil_append, List.nil_append, eq_comm, hiff, not_not]

/-- A controller of a PS4 without a mapping for its touchpad button. -/
def sampleClickpad : OpenedController := ⟨100, 1, false, .ps, false, .unknown⟩

/-- Select and PS are pressed. -/
def sampleCombo (between : List GamepadEvent) : List GamepadEvent :=
  .button ⟨1, some .back, true, 5000⟩ ::
    (between ++ [.button ⟨1, some .guide, true, 6000⟩, .axis 1 [(.leftX, 300)]])

theorem sampleCombo_transparent :
    let m := attached true false false false ∅ sampleClickpad
    let s := attached false false false false ∅ sampleClickpad
    let es := sampleCombo [.button ⟨1, some .a, true, 5500⟩]
    sentValues (run step s es).sent = sentValues (run step m es).sent :=
  (single_controller_transparent_iff false false false ∅ sampleClickpad (by decide)
    (sampleCombo [.button ⟨1, some .a, true, 5500⟩]) (by decide)).mpr (by decide)

/-- The clickpad button comes with Select and PS in single-controller mode. -/
theorem clickpad_differs :
    let m := attached true false false false ∅ sampleClickpad
    let s := attached false false false false ∅ sampleClickpad
    sentValues (run step s (sampleCombo [])).sent ≠
      sentValues (run step m (sampleCombo [])).sent := by
  decide

end Gamepads

end GilStreaming.Streaming
