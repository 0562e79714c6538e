import GilStreaming.Lib.Trace
import GilStreaming.Streaming.Gamepads

/-!
# GilStreaming.Streaming.GamepadSlots

The table of gamepad slots.

An event finds its slot by the instance id. Empty slots have the id 0, which is also that of the
first gamepad that SDL sees, so that an event of gamepad 0 may find an empty slot (`Misdirected`).
Where none does, and the one callback that checks its bound with `<=` is not called with the
number of slots, each event changes the slot of the gamepad it names and no other.
-/

namespace GilStreaming.Streaming

open Trace

namespace Gamepads

variable {s s' s'' : Gamepads} {i : Fin MAX_GAMEPADS}

/-! ### What stays -/

/-- Of all slots stays which gamepad they have, and all slots but one stay as they are. -/
structure Keeps (i : Fin MAX_GAMEPADS) (s s' : Gamepads) : Prop where
  controller : ∀ j, (s'.slots j).controller = (s.slots j).controller
  jsId : ∀ j, (s'.slots j).jsId = (s.slots j).jsId
  index : ∀ j, (s'.slots j).index = (s.slots j).index
  other : ∀ j, j ≠ i → s'.slots j = s.slots j
  mask : s'.mask = s.mask
  multiController : s'.multiController = s.multiController
  swapFaceButtons : s'.swapFaceButtons = s.swapFaceButtons
  outOfBounds : s'.outOfBounds = s.outOfBounds

theorem Keeps.refl (i : Fin MAX_GAMEPADS) (s : Gamepads) : Keeps i s s :=
  ⟨fun _ => rfl, fun _ => rfl, fun _ => rfl, fun _ _ => rfl, rfl, rfl, rfl, rfl⟩

theorem Keeps.trans (h : Keeps i s s') (h' : Keeps i s' s'') : Keeps i s s'' where
  controller j := (h'.controller j).trans (h.controller j)
  jsId j := (h'.jsId j).trans (h.jsId j)
  index j := (h'.index j).trans (h.index j)
  other j hj := (h'.other j hj).trans (h.other j hj)
  mask := h'.mask.trans h.mask
  multiController := h'.multiController.trans h.multiController
  swapFaceButtons := h'.swapFaceButtons.trans h.swapFaceButtons
  outOfBounds := h'.outOfBounds.trans h.outOfBounds

theorem keeps_send (s : Gamepads) (i : Fin MAX_GAMEPADS) (id : Int) (message : GamepadMessage) :
    Keeps i s (s.send id message) :=
  ⟨fun _ => rfl, fun _ => rfl, fun _ => rfl, fun _ _ => rfl, rfl, rfl, rfl, rfl⟩

theorem keeps_tell (s : Gamepads) (i : Fin MAX_GAMEPADS) (controller : Nat)
    (feedback : Feedback) : Keeps i s (s.tell controller feedback) :=
  ⟨fun _ => rfl, fun _ => rfl, fun _ => rfl, fun _ _ => rfl, rfl, rfl, rfl, rfl⟩

@[simp] theorem setState_slots_self (s : Gamepads) (i : Fin MAX_GAMEPADS)
    (state : GamepadState) : (s.setState i state).slots i = state := Function.update_self ..

theorem setState_slots_of_ne (s : Gamepads) {i j : Fin MAX_GAMEPADS} (h : j ≠ i)
    (state : GamepadState) : (s.setState i state).slots j = s.slots j :=
  Function.update_of_ne h ..

theorem keeps_setState (s : Gamepads) {state : GamepadState}
    (hcontroller : state.controller = (s.slots i).controller)
    (hjsId : state.jsId = (s.slots i).jsId) (hindex : state.index = (s.slots i).index) :
    Keeps i s (s.setState i state) := by
  have hslots (j : Fin MAX_GAMEPADS) : ((s.setState i state).slots j).controller =
      (s.slots j).controller ∧ ((s.setState i state).slots j).jsId = (s.slots j).jsId ∧
      ((s.setState i state).slots j).index = (s.slots j).index := by
    by_cases hj : j = i
    · rw [hj, setState_slots_self]
      exact ⟨hcontroller, hjsId, hindex⟩
    · rw [setState_slots_of_ne s hj]
      exact ⟨rfl, rfl, rfl⟩
  exact ⟨fun j => (hslots j).1, fun j => (hslots j).2.1, fun j => (hslots j).2.2,
    fun j hj => setState_slots_of_ne s hj state, rfl, rfl, rfl, rfl⟩

theorem keeps_sendMessage (s : Gamepads) (i : Fin MAX_GAMEPADS) (id : Int)
    (message : Option GamepadMessage) : Keeps i s (s.sendMessage id message) := by
  cases message with
  | none => exact .refl i s
  | some message => exact keeps_send s i id message

theorem keeps_sendGamepadState (s : Gamepads) (id : Int) (i : Fin MAX_GAMEPADS) :
    Keeps i s (s.sendGamepadState id i) := by
  have hstate : Keeps i s (s.setState i { s.slots i with
      emulatedClickpadButtonDown := (clickpadButtons (s.slots i)).2 }) :=
    keeps_setState s rfl rfl rfl
  exact hstate.trans (keeps_send _ i id _)

theorem keeps_sendGamepadBatteryState (s : Gamepads) (i : Fin MAX_GAMEPADS) (id : Int)
    (index : Nat) (level : PowerLevel) : Keeps i s (s.sendGamepadBatteryState id index level) := by
  rw [sendGamepadBatteryState]
  cases batteryOf level with
  | none => exact .refl i s
  | some battery => exact keeps_send s i id _

theorem keeps_setButtons (s : Gamepads) (i : Fin MAX_GAMEPADS)
    (buttons : Finset ControllerButton) : Keeps i s (s.setButtons i buttons) :=
  keeps_setState s rfl rfl rfl

theorem keeps_pressButton (s : Gamepads) (id : Int) (i : Fin MAX_GAMEPADS)
    (button : ControllerButton) (ticks : UInt32) : Keeps i s (s.pressButton id i button ticks) := by
  refine (keeps_setButtons s i (insert button (s.slots i).values.buttons)).trans ?_
  rw [pressButton]
  split
  · exact keeps_setState _ rfl rfl rfl
  · split
    · exact keeps_sendMessage _ i id _
    · exact .refl i _

theorem keeps_releaseButton (s : Gamepads) (id : Int) (i : Fin MAX_GAMEPADS)
    (button : ControllerButton) (ticks : UInt32) :
    Keeps i s (s.releaseButton id i button ticks) := by
  refine (keeps_setButtons s i ((s.slots i).values.buttons.erase button)).trans ?_
  rw [releaseButton]
  generalize s.setButtons i ((s.slots i).values.buttons.erase button) = s
  split
  · split
    · split
      · exact keeps_setState s rfl rfl rfl
      · split
        · exact (keeps_sendGamepadState s id i).trans (keeps_setState _ rfl rfl rfl)
        · exact .refl i s
    · exact .refl i s
  · split
    · exact keeps_sendMessage s i id _
    · exact .refl i s

theorem keeps_sendButtons (s : Gamepads) (id : Int) (i : Fin MAX_GAMEPADS) :
    Keeps i s (s.sendButtons id i) := by
  rw [sendButtons]
  split
  · exact keeps_send s i id _
  · split
    · exact keeps_sendGamepadState s id i
    · exact .refl i s

/-! ### Open slots -/

/-- A gamepad is open in the slot. -/
def IsOpen (s : Gamepads) (i : Fin MAX_GAMEPADS) : Prop := (s.slots i).controller ≠ none

instance (s : Gamepads) (i : Fin MAX_GAMEPADS) : Decidable (s.IsOpen i) :=
  inferInstanceAs (Decidable (_ ≠ _))

theorem jsId_of_find {id : Int} (h : s.findStateForGamepad id = some i) :
    (s.slots i).jsId = id := by simpa using List.find?_some h

theorem exists_find_of_jsId {id : Int} (h : (s.slots i).jsId = id) :
    ∃ j, s.findStateForGamepad id = some j := by
  refine Option.isSome_iff_exists.mp (List.find?_isSome.mpr ⟨i, List.mem_finRange i, ?_⟩)
  simpa using h

theorem Keeps.findStateForGamepad (h : Keeps i s s') (id : Int) :
    s'.findStateForGamepad id = s.findStateForGamepad id := by
  rw [Gamepads.findStateForGamepad, Gamepads.findStateForGamepad]
  simp only [h.jsId]

theorem controllerAt_eq_some {controllerNumber : UInt16} {controller : Nat}
    (h : s.controllerAt controllerNumber = some (i, controller)) :
    controllerNumber.toNat = i ∧ s.IsOpen i := by
  rw [controllerAt] at h
  split at h
  · obtain ⟨controller', hcontroller, heq⟩ := Option.map_eq_some_iff.mp h
    cases heq
    exact ⟨rfl, by rw [IsOpen, hcontroller]; exact Option.some_ne_none _⟩
  · cases h

end Gamepads

/-! ### What an event names -/

namespace Gamepads.GamepadEvent

/-- The instance id that an event of SDL is for. -/
def which? : GamepadEvent → Option Int
  | .axis which _ | .sensor which _ _ _ | .touchpad which _ _ _ | .battery which _
  | .removed which => some which
  | .button event => some event.which
  | _ => none

/-- The controller number that a callback is for. -/
def controllerNumber? : GamepadEvent → Option UInt16
  | .rumble controllerNumber _ _ | .rumbleTriggers controllerNumber _ _
  | .motionState controllerNumber _ _ | .led controllerNumber _ _ _
  | .adaptiveTriggers controllerNumber _ _ => some controllerNumber
  | _ => none

end Gamepads.GamepadEvent

namespace Gamepads

variable {s s' : Gamepads} {i : Fin MAX_GAMEPADS}

/-- The event or callback names the gamepad in the slot. -/
def Names (s : Gamepads) (e : GamepadEvent) (i : Fin MAX_GAMEPADS) : Prop :=
  s.IsOpen i ∧ (e.which? = some (s.slots i).jsId ∨
    ∃ controllerNumber, e.controllerNumber? = some controllerNumber ∧ controllerNumber.toNat = i)

/-- The event finds an empty slot. -/
def Misdirected (s : Gamepads) (e : GamepadEvent) : Prop :=
  ∃ i, e.which?.bind s.findStateForGamepad = some i ∧ ¬ s.IsOpen i

instance (s : Gamepads) (e : GamepadEvent) : Decidable (s.Misdirected e) :=
  inferInstanceAs (Decidable (∃ _, _))

/-- The callback that checks its bound with `<=` has the number of slots. -/
def BeyondEnd : GamepadEvent → Prop
  | .adaptiveTriggers controllerNumber _ _ => controllerNumber.toNat = MAX_GAMEPADS
  | _ => False

instance : DecidablePred BeyondEnd
  | .adaptiveTriggers controllerNumber _ _ =>
      inferInstanceAs (Decidable (controllerNumber.toNat = MAX_GAMEPADS))
  | .axis _ _ | .button _ | .sensor _ _ _ _ | .touchpad _ _ _ _ | .battery _ _ | .added _
  | .removed _ | .rumble _ _ _ | .rumbleTriggers _ _ _ | .motionState _ _ _ | .led _ _ _ _ =>
      inferInstanceAs (Decidable False)

/-! ### What an event does to the table -/

/-- A device that is neither added nor removed changes the slot that it finds or names. -/
theorem step_keeps (s : Gamepads) (e : GamepadEvent) (hadded : ∀ opened, e ≠ .added opened)
    (hremoved : ∀ which, e ≠ .removed which) (hend : ¬ BeyondEnd e) :
    step s e = s ∨
      ∃ i, (e.which?.bind s.findStateForGamepad = some i ∨ s.Names e i) ∧ Keeps i s (step s e) := by
  have hcallback {controllerNumber : UInt16} {i : Fin MAX_GAMEPADS} {controller : Nat}
      (he : e.controllerNumber? = some controllerNumber)
      (hat : s.controllerAt controllerNumber = some (i, controller)) : s.Names e i :=
    ⟨(controllerAt_eq_some hat).2, .inr ⟨controllerNumber, he, (controllerAt_eq_some hat).1⟩⟩
  cases e with
  | added opened => exact absurd rfl (hadded opened)
  | removed which => exact absurd rfl (hremoved which)
  | axis which motions =>
      rw [step, handleControllerAxisEvent]
      cases hfind : s.findStateForGamepad which with
      | none => exact .inl rfl
      | some i =>
          refine .inr ⟨i, .inl hfind, ?_⟩
          have hstate : Keeps i s (s.setState i { s.slots i with
              values := (axisMotions (s.slots i).values motions).1 }) :=
            keeps_setState s rfl rfl rfl
          refine hstate.trans ?_
          show Keeps i _ (if _ then _ else _)
          split
          · exact keeps_sendGamepadState _ which i
          · exact .refl i _
  | button event =>
      rw [step, handleControllerButtonEvent]
      cases event.button with
      | none => exact .inl rfl
      | some button =>
          cases hfind : s.findStateForGamepad event.which with
          | none => exact .inl rfl
          | some i =>
              refine .inr ⟨i, .inl hfind, ?_⟩
              refine Keeps.trans ?_ (keeps_sendButtons _ event.which i)
              split
              · exact keeps_pressButton s event.which i _ event.ticks
              · exact keeps_releaseButton s event.which i _ event.ticks
  | sensor which sensor timestamp data =>
      rw [step, handleControllerSensorEvent]
      cases hfind : s.findStateForGamepad which with
      | none => exact .inl rfl
      | some i =>
          refine .inr ⟨i, .inl hfind, ?_⟩
          rcases sensor with _ | _ | _
          · exact .refl i s
          all_goals
            dsimp only
            split
            · exact (keeps_setState s (by rfl) (by rfl) (by rfl)).trans (keeps_send _ i which _)
            · exact .refl i s
  | touchpad which type touchpad finger =>
      rw [step, handleControllerTouchpadEvent]
      cases hfind : s.findStateForGamepad which with
      | none => exact .inl rfl
      | some i => exact .inr ⟨i, .inl hfind, keeps_send s i which _⟩
  | battery which level =>
      rw [step, handleJoystickBatteryEvent]
      cases hfind : s.findStateForGamepad which with
      | none => exact .inl rfl
      | some i => exact .inr ⟨i, .inl hfind, keeps_sendGamepadBatteryState s i which _ level⟩
  | rumble controllerNumber low high =>
      rw [step, rumble]
      cases hat : s.controllerAt controllerNumber with
      | none => exact .inl rfl
      | some p => exact .inr ⟨p.1, .inr (hcallback rfl hat), keeps_tell s p.1 p.2 _⟩
  | rumbleTriggers controllerNumber left right =>
      rw [step, rumbleTriggers]
      cases hat : s.controllerAt controllerNumber with
      | none => exact .inl rfl
      | some p => exact .inr ⟨p.1, .inr (hcallback rfl hat), keeps_tell s p.1 p.2 _⟩
  | motionState controllerNumber motionType rate =>
      rw [step, setMotionEventState]
      cases hat : s.controllerAt controllerNumber with
      | none => exact .inl rfl
      | some p =>
          rcases motionType with _ | _ | _
          · exact .inl rfl
          all_goals
            refine .inr ⟨p.1, .inr (hcallback rfl hat), Keeps.trans ?_ (keeps_tell _ p.1 p.2 _)⟩
            exact keeps_setState s rfl rfl rfl
  | led controllerNumber r g b =>
      rw [step, setControllerLED]
      cases hat : s.controllerAt controllerNumber with
      | none => exact .inl rfl
      | some p => exact .inr ⟨p.1, .inr (hcallback rfl hat), keeps_tell s p.1 p.2 _⟩
  | adaptiveTriggers controllerNumber isPS5 report =>
      rw [step, setAdaptiveTriggers]
      split
      · rename_i hle
        have hlt : controllerNumber.toNat < MAX_GAMEPADS := lt_of_le_of_ne hle hend
        rw [dif_pos hlt]
        cases hcontroller : (s.slots ⟨controllerNumber.toNat, hlt⟩).controller with
        | none => exact .inl rfl
        | some controller =>
            cases isPS5 with
            | false => exact .inl rfl
            | true =>
                refine .inr ⟨⟨controllerNumber.toNat, hlt⟩, .inr ⟨?_, .inr ⟨_, rfl, rfl⟩⟩,
                  keeps_tell s _ controller _⟩
                rw [IsOpen, hcontroller]
                exact Option.some_ne_none controller
      · exact .inl rfl

theorem step_findStateForGamepad (s : Gamepads) {e : GamepadEvent}
    (hadded : ∀ opened, e ≠ .added opened) (hremoved : ∀ which, e ≠ .removed which)
    (hend : ¬ BeyondEnd e) (id : Int) :
    (step s e).findStateForGamepad id = s.findStateForGamepad id := by
  rcases step_keeps s e hadded hremoved hend with hsame | ⟨i, -, hkeeps⟩
  · rw [hsame]
  · exact hkeeps.findStateForGamepad id

/-- A message about buttons. -/
def isInput : GamepadMessage → Bool
  | .controller _ _ _ | .mouseButton _ _ => true
  | _ => false

/-- Something is sent that is not about buttons. -/
def News (sent sent' : List (Int × GamepadMessage)) : Prop :=
  ∃ messages, sent' = sent ++ messages ∧ ∀ message ∈ messages, isInput message.2 = false

theorem news_sendGamepadBatteryState (s : Gamepads) (id : Int) (index : Nat)
    (level : PowerLevel) :
    ∃ messages, s.sendGamepadBatteryState id index level =
      { s with sent := s.sent ++ messages } ∧ ∀ message ∈ messages, isInput message.2 = false := by
  rw [sendGamepadBatteryState]
  cases batteryOf level with
  | none => exact ⟨[], by simp, by simp⟩
  | some battery => exact ⟨[(id, .battery index battery.1 battery.2)], rfl, by simp [isInput]⟩

/-- The controller is opened in the slot. -/
structure Opens (s s' : Gamepads) (opened : OpenedController) (i : Fin MAX_GAMEPADS) :
    Prop where
  fresh : ∀ j, (s.slots j).controller ≠ some opened.controller
  empty : ¬ s.IsOpen i
  slots : s'.slots = Function.update s.slots i (s.openedState i opened)
  mask : s'.mask = if s.multiController then insert (s.openedState i opened).index s.mask
    else s.mask
  multiController : s'.multiController = s.multiController
  swapFaceButtons : s'.swapFaceButtons = s.swapFaceButtons
  outOfBounds : s'.outOfBounds = s.outOfBounds
  news : News s.sent s'.sent

/-- The controller of the event is opened in the first slot that is empty. -/
theorem deviceAdded_eq {s : Gamepads} {i : Fin MAX_GAMEPADS} (opened : OpenedController)
    (hfresh : ∀ j, (s.slots j).controller ≠ some opened.controller)
    (hslot : (List.finRange MAX_GAMEPADS).find? (fun i => (s.slots i).controller == none) = some i)
    (hignored : opened.ignored = false) :
    ∃ messages, s.deviceAdded (some opened) =
        { s with
          mask := if s.multiController then insert (s.openedState i opened).index s.mask
            else s.mask
          slots := Function.update s.slots i (s.openedState i opened)
          sent := s.sent ++ messages } ∧
      ∀ message ∈ messages, isInput message.2 = false := by
  have hany : ¬ ((List.finRange MAX_GAMEPADS).any
      fun i => (s.slots i).controller == some opened.controller) = true := by
    intro hany
    obtain ⟨j, -, hj⟩ := List.any_eq_true.mp hany
    exact hfresh j (by simpa using hj)
  let mask := if s.multiController then insert (s.openedState i opened).index s.mask else s.mask
  let arrival : GamepadMessage := .arrival (s.openedState i opened).index mask opened.type
  simp only [deviceAdded, if_neg hany, hslot, hignored, Bool.false_eq_true, if_false]
  split
  · exact ⟨_, rfl, by simp [isInput]⟩
  · obtain ⟨messages, hbattery, hnews⟩ := news_sendGamepadBatteryState _ _ _ _
    rw [hbattery]
    refine ⟨(opened.instanceId, arrival) :: messages, ?_, ?_⟩
    · simp only [send, setState, List.append_assoc, List.singleton_append]
      rfl
    · intro message hmem
      rcases List.mem_cons.mp hmem with rfl | hmem
      · rfl
      · exact hnews message hmem

theorem deviceAdded_cases (s : Gamepads) (opened : Option OpenedController) :
    s.deviceAdded opened = s ∨
      ∃ controller i, opened = some controller ∧
        Opens s (s.deviceAdded opened) controller i := by
  cases opened with
  | none => exact .inl rfl
  | some opened =>
      by_cases hduplicate : (List.finRange MAX_GAMEPADS).any
          fun i => (s.slots i).controller == some opened.controller
      · exact .inl (by rw [deviceAdded]; exact if_pos hduplicate)
      · have hfresh : ∀ j, (s.slots j).controller ≠ some opened.controller := by
          intro j hj
          exact hduplicate (List.any_eq_true.mpr ⟨j, List.mem_finRange j, by simp [hj]⟩)
        cases hslot : (List.finRange MAX_GAMEPADS).find?
            fun i => (s.slots i).controller == none with
        | none =>
            left
            simp only [deviceAdded, hslot, ite_self]
        | some i =>
            cases hignored : opened.ignored with
            | true =>
                left
                simp only [deviceAdded, hslot, hignored, if_true, ite_self]
            | false =>
                have hempty : ¬ s.IsOpen i := by
                  have hnone := List.find?_some hslot
                  exact not_not.mpr (by simpa using hnone)
                obtain ⟨messages, heq, hnews⟩ := deviceAdded_eq opened hfresh hslot hignored
                refine .inr ⟨opened, i, rfl, ?_⟩
                rw [heq]
                exact ⟨hfresh, hempty, rfl, rfl, rfl, rfl, rfl, messages, rfl, hnews⟩

/-! ### The table -/

/-- What holds of the slots: empty ones are zero, a gamepad has the index of its slot, two have
neither an id nor an address in common, and each has its bit in the mask. -/
structure WellFormed (s : Gamepads) : Prop where
  empty : ∀ i, ¬ s.IsOpen i → s.slots i = .zero
  index : ∀ i, s.IsOpen i → (s.slots i).index = if s.multiController then i.val else 0
  jsId_inj : ∀ i j, s.IsOpen i → s.IsOpen j → (s.slots i).jsId = (s.slots j).jsId → i = j
  controller_inj : ∀ i j, s.IsOpen i → (s.slots i).controller = (s.slots j).controller → i = j
  mask : s.multiController = true → ∀ i, s.IsOpen i → i.val ∈ s.mask
  inBounds : s.outOfBounds = false

/-- A controller that SDL opens has an instance id of its own. -/
def SdlOpens (s : Gamepads) : GamepadEvent → Prop
  | .added (some opened) => ∀ i, s.IsOpen i → (s.slots i).jsId = opened.instanceId →
      (s.slots i).controller = some opened.controller
  | _ => True

instance (s : Gamepads) : DecidablePred s.SdlOpens
  | .added (some opened) => inferInstanceAs (Decidable (∀ i, s.IsOpen i →
      (s.slots i).jsId = opened.instanceId → (s.slots i).controller = some opened.controller))
  | .added none | .axis _ _ | .button _ | .sensor _ _ _ _ | .touchpad _ _ _ _ | .battery _ _
  | .removed _ | .rumble _ _ _ | .rumbleTriggers _ _ _ | .motionState _ _ _ | .led _ _ _ _
  | .adaptiveTriggers _ _ _ => inferInstanceAs (Decidable True)

theorem WellFormed.keeps (h : WellFormed s) (hkeeps : Keeps i s s') (hopen : s.IsOpen i) :
    WellFormed s' := by
  have hiff (j : Fin MAX_GAMEPADS) : s'.IsOpen j ↔ s.IsOpen j := by
    rw [IsOpen, IsOpen, hkeeps.controller j]
  constructor
  case empty =>
    intro j hj
    rw [hiff] at hj
    have hne : j ≠ i := fun heq => hj (heq ▸ hopen)
    rw [hkeeps.other j hne]
    exact h.empty j hj
  case index =>
    intro j hj
    rw [hkeeps.index, hkeeps.multiController]
    exact h.index j ((hiff j).mp hj)
  case jsId_inj =>
    intro j k hj hk heq
    rw [hkeeps.jsId, hkeeps.jsId] at heq
    exact h.jsId_inj j k ((hiff j).mp hj) ((hiff k).mp hk) heq
  case controller_inj =>
    intro j k hj heq
    rw [hkeeps.controller, hkeeps.controller] at heq
    exact h.controller_inj j k ((hiff j).mp hj) heq
  case mask =>
    intro hmulti j hj
    rw [hkeeps.mask]
    exact h.mask (hkeeps.multiController ▸ hmulti) j ((hiff j).mp hj)
  case inBounds => exact hkeeps.outOfBounds.trans h.inBounds

theorem WellFormed.opens (h : WellFormed s) {opened : OpenedController}
    (hsdl : ∀ i, s.IsOpen i → (s.slots i).jsId = opened.instanceId →
      (s.slots i).controller = some opened.controller)
    (hopens : Opens s s' opened i) : WellFormed s' := by
  have hself : s'.slots i = s.openedState i opened := by
    rw [hopens.slots, Function.update_self]
  have hother {j : Fin MAX_GAMEPADS} (hj : j ≠ i) : s'.slots j = s.slots j := by
    rw [hopens.slots, Function.update_of_ne hj]
  have hbefore {j : Fin MAX_GAMEPADS} (hj : j ≠ i) (hopen : s'.IsOpen j) : s.IsOpen j := by
    rwa [IsOpen, hother hj] at hopen
  -- Another slot has not the id of the new gamepad, or it would have its address too.
  have hid {j : Fin MAX_GAMEPADS} (hj : j ≠ i) (hopen : s'.IsOpen j) :
      (s.slots j).jsId ≠ opened.instanceId :=
    fun heq => hopens.fresh j (hsdl j (hbefore hj hopen) heq)
  constructor
  case empty =>
    intro j hj
    have hne : j ≠ i := fun heq => hj (by
      rw [heq, IsOpen, hself]
      exact Option.some_ne_none _)
    rw [hother hne]
    exact h.empty j fun hopen => hj (by rwa [IsOpen, hother hne])
  case index =>
    intro j hj
    rw [hopens.multiController]
    by_cases hji : j = i
    · rw [hji, hself]
      rfl
    · rw [hother hji]
      exact h.index j (hbefore hji hj)
  case jsId_inj =>
    intro j k hj hk heq
    by_cases hji : j = i <;> by_cases hki : k = i
    · rw [hji, hki]
    · rw [hji, hself, hother hki] at heq
      exact absurd heq.symm (hid hki hk)
    · rw [hki, hself, hother hji] at heq
      exact absurd heq (hid hji hj)
    · rw [hother hji, hother hki] at heq
      exact h.jsId_inj j k (hbefore hji hj) (hbefore hki hk) heq
  case controller_inj =>
    intro j k hj heq
    by_cases hji : j = i <;> by_cases hki : k = i
    · rw [hji, hki]
    · rw [hji, hself, hother hki] at heq
      exact absurd heq.symm (hopens.fresh k)
    · rw [hki, hself, hother hji] at heq
      exact absurd heq (hopens.fresh j)
    · rw [hother hji, hother hki] at heq
      exact h.controller_inj j k (hbefore hji hj) heq
  case mask =>
    intro hmulti j hj
    rw [hopens.multiController] at hmulti
    rw [hopens.mask, if_pos hmulti]
    by_cases hji : j = i
    · have hindex : (s.openedState i opened).index = i := if_pos hmulti
      rw [hindex, hji]
      exact Finset.mem_insert_self _ _
    · exact Finset.mem_insert_of_mem (h.mask hmulti j (hbefore hji hj))
  case inBounds => exact hopens.outOfBounds.trans h.inBounds

/-- The slot that the removal finds is cleared. -/
structure Closes (s s' : Gamepads) (which : Int) (i : Fin MAX_GAMEPADS) : Prop where
  found : s.findStateForGamepad which = some i
  slots : s'.slots = Function.update s.slots i .zero
  mask : s'.mask = if s.multiController then s.mask.erase (s.slots i).index else s.mask
  multiController : s'.multiController = s.multiController
  swapFaceButtons : s'.swapFaceButtons = s.swapFaceButtons
  outOfBounds : s'.outOfBounds = s.outOfBounds
  sent : s'.sent = s.sent ++ [(which, .controller (s.slots i).index s'.mask .zero)]

theorem deviceRemoved_cases (s : Gamepads) (which : Int) :
    s.findStateForGamepad which = none ∧ s.deviceRemoved which = s ∨
      ∃ i, Closes s (s.deviceRemoved which) which i := by
  rw [deviceRemoved]
  cases hfind : s.findStateForGamepad which with
  | none => exact .inl ⟨rfl, rfl⟩
  | some i => exact .inr ⟨i, hfind, rfl, rfl, rfl, rfl, rfl, rfl⟩

theorem WellFormed.closes (h : WellFormed s) {which : Int} (hcloses : Closes s s' which i)
    (hopen : s.IsOpen i) : WellFormed s' := by
  have hself : s'.slots i = .zero := by rw [hcloses.slots, Function.update_self]
  have hother {j : Fin MAX_GAMEPADS} (hj : j ≠ i) : s'.slots j = s.slots j := by
    rw [hcloses.slots, Function.update_of_ne hj]
  have hne {j : Fin MAX_GAMEPADS} (hj : s'.IsOpen j) : j ≠ i := fun heq => hj (by
    rw [heq, hself]
    rfl)
  have hbefore {j : Fin MAX_GAMEPADS} (hj : s'.IsOpen j) : s.IsOpen j := by
    rw [IsOpen, ← hother (hne hj)]
    exact hj
  constructor
  case empty =>
    intro j hj
    by_cases hji : j = i
    · rw [hji, hself]
    · rw [hother hji]
      exact h.empty j fun hopen => hj (by rwa [IsOpen, hother hji])
  case index =>
    intro j hj
    rw [hcloses.multiController, hother (hne hj)]
    exact h.index j (hbefore hj)
  case jsId_inj =>
    intro j k hj hk heq
    rw [hother (hne hj), hother (hne hk)] at heq
    exact h.jsId_inj j k (hbefore hj) (hbefore hk) heq
  case controller_inj =>
    intro j k hj heq
    by_cases hki : k = i
    · rw [hki, hself] at heq
      exact absurd heq hj
    · rw [hother (hne hj), hother hki] at heq
      exact h.controller_inj j k (hbefore hj) heq
  case mask =>
    intro hmulti j hj
    rw [hcloses.multiController] at hmulti
    rw [hcloses.mask, if_pos hmulti, h.index i hopen, if_pos hmulti]
    refine Finset.mem_erase.mpr ⟨fun heq => hne hj (Fin.ext heq), h.mask hmulti j (hbefore hj)⟩
  case inBounds => exact hcloses.outOfBounds.trans h.inBounds

/-- What finds a slot, in a table where nothing is misdirected, names the gamepad in it. -/
theorem names_of_found {e : GamepadEvent} (hdirected : ¬ Misdirected s e)
    (hfound : e.which?.bind s.findStateForGamepad = some i ∨ s.Names e i) : s.Names e i := by
  rcases hfound with hfound | hnames
  · obtain ⟨which, hwhich, hfind⟩ := Option.bind_eq_some_iff.mp hfound
    have hopen : s.IsOpen i := by
      by_contra hempty
      exact hdirected ⟨i, hfound, hempty⟩
    exact ⟨hopen, .inl (hwhich.trans (congrArg some (jsId_of_find hfind).symm))⟩
  · exact hnames

theorem wellFormed_step (h : WellFormed s) {e : GamepadEvent} (hsdl : SdlOpens s e)
    (hdirected : ¬ Misdirected s e) (hend : ¬ BeyondEnd e) : WellFormed (step s e) := by
  by_cases hadded : ∃ opened, e = .added opened
  · obtain ⟨opened, rfl⟩ := hadded
    show WellFormed (s.deviceAdded opened)
    rcases deviceAdded_cases s opened with hsame | ⟨controller, i, rfl, hopens⟩
    · rw [hsame]
      exact h
    · exact h.opens hsdl hopens
  by_cases hremoved : ∃ which, e = .removed which
  · obtain ⟨which, rfl⟩ := hremoved
    show WellFormed (s.deviceRemoved which)
    rcases deviceRemoved_cases s which with ⟨-, hsame⟩ | ⟨i, hcloses⟩
    · rw [hsame]
      exact h
    · exact h.closes hcloses (names_of_found hdirected (.inl hcloses.found)).1
  push Not at hadded hremoved
  rcases step_keeps s e hadded hremoved hend with hsame | ⟨i, hfound, hkeeps⟩
  · rw [hsame]
    exact h
  · exact h.keeps hkeeps (names_of_found hdirected hfound).1

/-! ### Contained events -/

/-- An event that names no open gamepad does nothing, and a removal clears the slot and the bit
of the gamepad that it names. -/
def Contained (s : Gamepads) (e : GamepadEvent) : Prop :=
  ((∀ i, ¬ s.Names e i) → (∀ opened, e ≠ .added opened) → step s e = s) ∧
    ∀ which i, e = .removed which → s.IsOpen i → (s.slots i).jsId = which →
      (step s e).slots = Function.update s.slots i .zero ∧
        (step s e).mask = if s.multiController then s.mask.erase i else s.mask

theorem contained_step (h : WellFormed s) {e : GamepadEvent} (hdirected : ¬ Misdirected s e)
    (hend : ¬ BeyondEnd e) : Contained s e := by
  constructor
  · intro hnone hadded
    by_cases hremoved : ∃ which, e = .removed which
    · obtain ⟨which, rfl⟩ := hremoved
      rcases deviceRemoved_cases s which with ⟨-, hsame⟩ | ⟨i, hcloses⟩
      · exact hsame
      · exact absurd (names_of_found hdirected (.inl hcloses.found)) (hnone i)
    · push Not at hremoved
      rcases step_keeps s e hadded hremoved hend with hsame | ⟨i, hfound, -⟩
      · exact hsame
      · exact absurd (names_of_found hdirected hfound) (hnone i)
  · intro which i he hopen hjsId
    subst he
    rcases deviceRemoved_cases s which with ⟨hnone, -⟩ | ⟨j, hcloses⟩
    · obtain ⟨j, hfind⟩ := exists_find_of_jsId hjsId
      rw [hnone] at hfind
      cases hfind
    · have hnames := names_of_found hdirected (.inl hcloses.found)
      have hji : j = i := h.jsId_inj j i hnames.1 hopen
        ((jsId_of_find hcloses.found).trans hjsId.symm)
      subst hji
      have hmask := hcloses.mask
      rw [h.index j hopen] at hmask
      refine ⟨hcloses.slots, hmask.trans ?_⟩
      split <;> rfl

theorem wellFormed_new (multiController gamepadMouse swapFaceButtons noGamepadQuit : Bool)
    (attachedGamepadMask : Finset Nat) : WellFormed
      (new multiController gamepadMouse swapFaceButtons noGamepadQuit attachedGamepadMask) := by
  have hempty (i : Fin MAX_GAMEPADS) : ¬ (new multiController gamepadMouse swapFaceButtons
      noGamepadQuit attachedGamepadMask).IsOpen i := not_not.mpr rfl
  exact ⟨fun _ _ => rfl, fun i hi => absurd hi (hempty i), fun i _ hi => absurd hi (hempty i),
    fun i _ hi => absurd hi (hempty i), fun _ i hi => absurd hi (hempty i), rfl⟩

/-- **The slot table.** In multi-controller mode, with SDL giving each controller an instance id
of its own, a run in which no event finds an empty slot and the adaptive triggers are not set for
the number of slots has a well formed table in every state, and every event of it is
contained. -/
theorem slots_wellFormed (gamepadMouse swapFaceButtons noGamepadQuit : Bool)
    (attachedGamepadMask : Finset Nat) (es : List GamepadEvent)
    (hsdl : AllSteps step SdlOpens
      (new true gamepadMouse swapFaceButtons noGamepadQuit attachedGamepadMask) es)
    (h : AllSteps step (fun s e => ¬ Misdirected s e ∧ ¬ BeyondEnd e)
      (new true gamepadMouse swapFaceButtons noGamepadQuit attachedGamepadMask) es) :
    (∀ pre, pre <+: es → WellFormed (run step
        (new true gamepadMouse swapFaceButtons noGamepadQuit attachedGamepadMask) pre)) ∧
      AllSteps step Contained
        (new true gamepadMouse swapFaceButtons noGamepadQuit attachedGamepadMask) es := by
  generalize hstart :
    new true gamepadMouse swapFaceButtons noGamepadQuit attachedGamepadMask = start at *
  have hnew : WellFormed start := by
    rw [← hstart]
    exact wellFormed_new true gamepadMouse swapFaceButtons noGamepadQuit attachedGamepadMask
  have hwf (pre : List GamepadEvent) (hpre : pre <+: es) : WellFormed (run step start pre) := by
    obtain ⟨post, rfl⟩ := hpre
    have hboth := (allSteps_append.mp hsdl).1.and (allSteps_append.mp h).1
    exact @run_invariant _ _ step _ WellFormed
      (fun s e hgood hwf => wellFormed_step hwf hgood.1 hgood.2.1 hgood.2.2) _ hnew _ hboth
  refine ⟨hwf, allSteps_iff.mpr fun pre e post hes => ?_⟩
  have hgood := allSteps_iff.mp h pre e post hes
  exact contained_step (hwf pre (hes ▸ List.prefix_append _ _)) hgood.1 hgood.2

section Sample

def sampleController (controller : Nat) (instanceId : Int) : OpenedController :=
  ⟨controller, instanceId, false, .xbox, true, .unknown⟩

/-- Two gamepads, of which the first is removed. -/
def sampleDevices : List GamepadEvent :=
  [.added (some (sampleController 100 1)), .added (some (sampleController 200 2)), .removed 1,
    .button ⟨2, some .a, true, 5000⟩]

theorem sampleDevices_wellFormed :
    WellFormed (run step (new true false false false ∅) sampleDevices) :=
  (slots_wellFormed false false false ∅ sampleDevices (by decide) (by decide)).1 _
    (List.prefix_refl _)

/-- A button event of gamepad 0 where no gamepad is open is sent to the host, and the callback
for gamepad 16 reads behind the table. -/
theorem unnamed_events_act :
    ¬ Contained (new true false false false ∅) (.button ⟨0, some .a, true, 5000⟩) ∧
      ¬ WellFormed (step (new true false false false ∅) (.adaptiveTriggers 16 true [])) := by
  constructor
  · intro h
    have hnone (i : Fin MAX_GAMEPADS) : ¬ (new true false false false ∅).Names
        (.button ⟨0, some .a, true, 5000⟩) i := fun hnames => hnames.1 rfl
    have hsame := congrArg Gamepads.sent (h.1 hnone fun _ he => by cases he)
    exact absurd (congrArg List.length hsame) (by decide)
  · intro h
    exact absurd h.inBounds (by decide)

end Sample

end Gamepads

end GilStreaming.Streaming
