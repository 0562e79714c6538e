import Mathlib.Data.Finset.Insert
import Mathlib.Data.Finset.Lattice.Lemmas
import Mathlib.Data.Finset.Erase
import Mathlib.Data.List.FinRange
import GilStreaming.Streaming.MouseButtons

/-!
# GilStreaming.Streaming.Gamepads

The gamepads of `SdlInputHandler`: `app/streaming/input/gamepad.cpp`.

The flags of `k_ButtonMap` are distinct bits, so that the buttons of a gamepad are a set, and so
are the bits of `m_GamepadMask`. Addresses are numbers. What is sent is kept with the instance id
of the event that it was sent for. Left out are names, mappings and rumble capabilities, the
movement of the mouse in its emulation, overlays, and the versions of SDL before 2.24.
-/

namespace GilStreaming.Streaming

open PressLog

abbrev MAX_GAMEPADS : Nat := 16

/-- `SDL_GameControllerButton`, as far as `k_ButtonMap` goes, and the flag of it there. -/
inductive ControllerButton
  | a | b | x | y | back | guide | start | leftStick | rightStick | leftShoulder | rightShoulder
  | dpadUp | dpadDown | dpadLeft | dpadRight | misc1 | paddle1 | paddle2 | paddle3 | paddle4
  | touchpad
  deriving DecidableEq, Repr

/-- The bits of the `data` of a sensor event, three floats. -/
structure SensorData where
  x : UInt32
  y : UInt32
  z : UInt32
  deriving DecidableEq, Repr

/-- What `GamepadState` has for the accelerometer, and for the gyroscope. -/
structure SensorReports where
  reportPeriodMs : UInt8
  lastEventData : SensorData
  lastEventTime : UInt32
  deriving DecidableEq, Repr

def SensorReports.zero : SensorReports := ⟨0, ⟨0, 0, 0⟩, 0⟩

/-- `SDL_TICKS_PASSED(a, b)`: `(Sint32)(b - a) <= 0`. -/
def sdlTicksPassed (a b : UInt32) : Bool := (b - a).toBitVec.toInt ≤ 0

/-- A report is due, and the data have changed. -/
def SensorReports.isDue (reports : SensorReports) (timestamp : UInt32) (data : SensorData) :
    Bool :=
  reports.reportPeriodMs != 0 &&
    sdlTicksPassed timestamp (reports.lastEventTime + reports.reportPeriodMs.toUInt32) &&
    data != reports.lastEventData

/-- Buttons, triggers and sticks. -/
structure ControllerValues where
  buttons : Finset ControllerButton
  lt : Nat
  rt : Nat
  /-- `lsX` and `lsY`. -/
  ls : Int × Int
  /-- `rsX` and `rsY`. -/
  rs : Int × Int
  deriving DecidableEq

def ControllerValues.zero : ControllerValues := ⟨∅, 0, 0, (0, 0), (0, 0)⟩

structure GamepadState where
  /-- The address of the `SDL_GameController`, or `none` for NULL. -/
  controller : Option Nat
  jsId : Int
  index : Nat
  /-- `mouseEmulationTimer` is not 0. -/
  mouseEmulationTimer : Bool
  lastStartDownTime : UInt32
  clickpadButtonEmulationEnabled : Bool
  emulatedClickpadButtonDown : Bool
  gyro : SensorReports
  accel : SensorReports
  values : ControllerValues
  deriving DecidableEq

/-- An empty slot. -/
def GamepadState.zero : GamepadState :=
  ⟨none, 0, 0, false, 0, false, false, .zero, .zero, .zero⟩

/-- `LI_MOTION_TYPE_ACCEL` and `LI_MOTION_TYPE_GYRO`. -/
inductive MotionType
  | accel
  | gyro
  deriving DecidableEq, Repr

/-- `SDL_JoystickPowerLevel`. -/
inductive PowerLevel
  | unknown
  | empty
  | low
  | medium
  | full
  | wired
  /-- Any other one. -/
  | other
  deriving DecidableEq, Repr

/-- `LI_BATTERY_STATE_UNKNOWN` and so on. -/
inductive BatteryState
  | unknown
  | charging
  | discharging
  deriving DecidableEq, Repr

/-- `LI_CTYPE_UNKNOWN` and so on. -/
inductive ControllerType
  | unknown
  | xbox
  | ps
  | nintendo
  | steam
  deriving DecidableEq, Repr

/-- `LI_TOUCH_EVENT_DOWN` and so on. -/
inductive TouchpadEventType
  | down
  | up
  | move
  deriving DecidableEq, Repr

/-- What is sent to the host. -/
inductive GamepadMessage
  /-- `LiSendMultiControllerEvent`. -/
  | controller (index : Nat) (mask : Finset Nat) (values : ControllerValues)
  /-- `LiSendControllerArrivalEvent`. -/
  | arrival (index : Nat) (mask : Finset Nat) (type : ControllerType)
  /-- `LiSendControllerBatteryEvent`, with `none` for an unknown percentage. -/
  | battery (index : Nat) (state : BatteryState) (percentage : Option Nat)
  /-- `LiSendControllerMotionEvent`. Rotation is sent in degrees. -/
  | motion (index : Nat) (motionType : MotionType) (data : SensorData)
  /-- `LiSendControllerTouchEvent2`. -/
  | touch (index : Nat) (type : TouchpadEventType) (touchpad : Nat) (finger : Nat)
  /-- `LiSendMouseButtonEvent`. -/
  | mouseButton (action : Action) (button : MouseButton)
  /-- `LiSendScrollEvent` and `LiSendHScrollEvent`. -/
  | scroll (horizontal : Bool) (amount : Int)
  deriving DecidableEq

/-- What the host has SDL do with a controller. -/
inductive Feedback
  | rumble (lowFreqMotor : UInt16) (highFreqMotor : UInt16)
  | rumbleTriggers (leftTrigger : UInt16) (rightTrigger : UInt16)
  | sensorEnabled (motionType : MotionType) (enabled : Bool)
  | led (r : UInt8) (g : UInt8) (b : UInt8)
  /-- `SDL_GameControllerSendEffect`, of a report. -/
  | effect (report : List UInt8)
  deriving DecidableEq, Repr

structure Gamepads where
  multiController : Bool
  gamepadMouse : Bool
  swapFaceButtons : Bool
  /-- `NO_GAMEPAD_QUIT` is 1. -/
  noGamepadQuit : Bool
  /-- The bits of `m_GamepadMask`. -/
  mask : Finset Nat
  slots : Fin MAX_GAMEPADS → GamepadState
  /-- `m_GamepadState` has been used beyond its end. -/
  outOfBounds : Bool
  sent : List (Int × GamepadMessage)
  /-- What controllers were told, by address. -/
  told : List (Nat × Feedback)

namespace Gamepads

variable (s : Gamepads)

def findStateForGamepad (id : Int) : Option (Fin MAX_GAMEPADS) :=
  (List.finRange MAX_GAMEPADS).find? fun i => (s.slots i).jsId == id

def setState (i : Fin MAX_GAMEPADS) (state : GamepadState) : Gamepads :=
  { s with slots := Function.update s.slots i state }

/-- A message is sent for an event of gamepad `id`. -/
def send (id : Int) (message : GamepadMessage) : Gamepads :=
  { s with sent := s.sent ++ [(id, message)] }

/-! ### The state of a gamepad -/

/-- What is sent for the buttons of a gamepad, and `emulatedClickpadButtonDown` after that: Select
and PS are the clickpad button where that has no mapping. -/
def clickpadButtons (state : GamepadState) : Finset ControllerButton × Bool :=
  if state.clickpadButtonEmulationEnabled then
    if state.values.buttons = {.back, .guide} then ({.misc1}, true)
    else if state.emulatedClickpadButtonDown then (state.values.buttons.erase .misc1, false)
    else (state.values.buttons, state.emulatedClickpadButtonDown)
  else (state.values.buttons, state.emulatedClickpadButtonDown)

/-- One stick in the loop that merges the gamepads. -/
def mergeStick (stick other : Int × Int) : Int × Int :=
  if stick.1.natAbs < other.1.natAbs || stick.2.natAbs < other.2.natAbs then other else stick

/-- One step of the loop that merges the gamepads. -/
def mergeValues (values other : ControllerValues) : ControllerValues where
  buttons := values.buttons ∪ other.buttons
  lt := if values.lt < other.lt then other.lt else values.lt
  rt := if values.rt < other.rt then other.rt else values.rt
  ls := mergeStick values.ls other.ls
  rs := mergeStick values.rs other.rs

/-- What is sent for a gamepad with these values: in single controller mode, all gamepads with
its index merged. -/
def mergedValues (index : Nat) (values : ControllerValues) : ControllerValues :=
  if s.multiController then values
  else
    (List.finRange MAX_GAMEPADS).foldl
      (fun values i =>
        if (s.slots i).index = index then mergeValues values (s.slots i).values else values)
      values

def sendGamepadState (id : Int) (i : Fin MAX_GAMEPADS) : Gamepads :=
  let state := s.slots i
  let (buttons, emulatedDown) := clickpadButtons state
  let s := s.setState i { state with emulatedClickpadButtonDown := emulatedDown }
  s.send id (.controller state.index s.mask
    (s.mergedValues state.index { state.values with buttons := buttons }))

/-- The battery state and percentage that are sent for a power level. -/
def batteryOf : PowerLevel → Option (BatteryState × Option Nat)
  | .unknown => some (.unknown, none)
  | .wired => some (.charging, none)
  | .empty => some (.discharging, some 5)
  | .low => some (.discharging, some 20)
  | .medium => some (.discharging, some 50)
  | .full => some (.discharging, some 90)
  | .other => none

def sendGamepadBatteryState (id : Int) (index : Nat) (level : PowerLevel) : Gamepads :=
  match batteryOf level with
  | some (batteryState, percentage) => s.send id (.battery index batteryState percentage)
  | none => s

/-! ### Axes -/

/-- `SDL_GameControllerAxis`. -/
inductive ControllerAxis
  | leftX
  | leftY
  | rightX
  | rightY
  | triggerLeft
  | triggerRight
  /-- Any other one. -/
  | other
  deriving DecidableEq, Repr

/-- `(unsigned char)(value * 255UL / 32767)`. -/
def triggerValue (value : Int) : Nat := (value * 255 % 18446744073709551616 / 32767 % 256).toNat

/-- The values after the motion of an axis, if it is one of those that are handled. -/
def axisMotion (values : ControllerValues) : ControllerAxis → Int → Option ControllerValues
  | .leftX, value => some { values with ls := (value, values.ls.2) }
  | .leftY, value => some { values with ls := (values.ls.1, -max value (-32767)) }
  | .rightX, value => some { values with rs := (value, values.rs.2) }
  | .rightY, value => some { values with rs := (values.rs.1, -max value (-32767)) }
  | .triggerLeft, value => some { values with lt := triggerValue value }
  | .triggerRight, value => some { values with rt := triggerValue value }
  | .other, _ => none

/-- The motions of a batch, up to the first that is not handled. The flag says that there is
none. -/
def axisMotions (values : ControllerValues) :
    List (ControllerAxis × Int) → ControllerValues × Bool
  | [] => (values, true)
  | (axis, value) :: motions =>
      match axisMotion values axis value with
      | none => (values, false)
      | some values => axisMotions values motions

/-- The event and those in the queue that are batched with it. -/
def handleControllerAxisEvent (which : Int) (motions : List (ControllerAxis × Int)) : Gamepads :=
  match s.findStateForGamepad which with
  | none => s
  | some i =>
      let (values, handled) := axisMotions (s.slots i).values motions
      let s := s.setState i { s.slots i with values := values }
      if handled && !(s.slots i).mouseEmulationTimer then s.sendGamepadState which i else s

/-! ### Buttons -/

def MOUSE_EMULATION_LONG_PRESS_TIME : UInt32 := 750

/-- `SDL_ControllerButtonEvent`. -/
structure ControllerButtonEvent where
  which : Int
  /-- `none` for a button beyond `k_ButtonMap`. -/
  button : Option ControllerButton
  pressed : Bool
  /-- `SDL_GetTicks()`. -/
  ticks : UInt32
  deriving DecidableEq, Repr

/-- The button that a face button stands for with `m_SwapFaceButtons`. -/
def swapFaceButton : ControllerButton → ControllerButton
  | .a => .b
  | .b => .a
  | .x => .y
  | .y => .x
  | button => button

/-- The mouse button that a button is in mouse emulation. -/
def mouseButtonOf : ControllerButton → Option MouseButton
  | .a => some .left
  | .b => some .right
  | .x => some .middle
  | .leftShoulder => some .x1
  | .rightShoulder => some .x2
  | _ => none

/-- What the press of a button is in mouse emulation. -/
def pressMessage (button : ControllerButton) : Option GamepadMessage :=
  match button with
  | .dpadUp => some (.scroll false 1)
  | .dpadDown => some (.scroll false (-1))
  | .dpadRight => some (.scroll true 1)
  | .dpadLeft => some (.scroll true (-1))
  | button => (mouseButtonOf button).map (.mouseButton .press)

/-- What the release of a button is in mouse emulation. -/
def releaseMessage (button : ControllerButton) : Option GamepadMessage :=
  (mouseButtonOf button).map (.mouseButton .release)

/-- The message, if there is one. -/
def sendMessage (id : Int) (message : Option GamepadMessage) : Gamepads :=
  match message with
  | some message => s.send id message
  | none => s

/-- `state->buttons` is changed. -/
def setButtons (i : Fin MAX_GAMEPADS) (buttons : Finset ControllerButton) : Gamepads :=
  s.setState i { s.slots i with values := { (s.slots i).values with buttons := buttons } }

def pressButton (id : Int) (i : Fin MAX_GAMEPADS) (button : ControllerButton) (ticks : UInt32) :
    Gamepads :=
  let s := s.setButtons i (insert button (s.slots i).values.buttons)
  if button = .start then s.setState i { s.slots i with lastStartDownTime := ticks }
  else if (s.slots i).mouseEmulationTimer then s.sendMessage id (pressMessage button)
  else s

def releaseButton (id : Int) (i : Fin MAX_GAMEPADS) (button : ControllerButton)
    (ticks : UInt32) : Gamepads :=
  let s := s.setButtons i ((s.slots i).values.buttons.erase button)
  if button = .start then
    if ticks - (s.slots i).lastStartDownTime > MOUSE_EMULATION_LONG_PRESS_TIME then
      if (s.slots i).mouseEmulationTimer then
        s.setState i { s.slots i with mouseEmulationTimer := false }
      else if s.gamepadMouse then
        -- Send the start button up event to the host, since we won't do it below.
        let s := s.sendGamepadState id i
        s.setState i { s.slots i with mouseEmulationTimer := true }
      else s
    else s
  else if (s.slots i).mouseEmulationTimer then s.sendMessage id (releaseMessage button)
  else s

/-- The gamepad quit combo, and the one that toggles the stats overlay. -/
def isCombo (buttons : Finset ControllerButton) : Bool :=
  (buttons = {.start, .back, .leftShoulder, .rightShoulder} && !s.noGamepadQuit) ||
    buttons = {.back, .leftShoulder, .rightShoulder, .x}

/-- The end of `handleControllerButtonEvent`: a combo clears the buttons on the host. -/
def sendButtons (id : Int) (i : Fin MAX_GAMEPADS) : Gamepads :=
  if s.isCombo (s.slots i).values.buttons then
    s.send id (.controller (s.slots i).index s.mask .zero)
  else if !(s.slots i).mouseEmulationTimer then s.sendGamepadState id i
  else s

def handleControllerButtonEvent (event : ControllerButtonEvent) : Gamepads :=
  match event.button, s.findStateForGamepad event.which with
  | some button, some i =>
      let button := if s.swapFaceButtons then swapFaceButton button else button
      let s :=
        if event.pressed then s.pressButton event.which i button event.ticks
        else s.releaseButton event.which i button event.ticks
      s.sendButtons event.which i
  | _, _ => s

/-! ### Sensors, touchpads and batteries -/

/-- The sensor is none if it is neither. -/
def handleControllerSensorEvent (which : Int) (sensor : Option MotionType) (timestamp : UInt32)
    (data : SensorData) : Gamepads :=
  match s.findStateForGamepad which with
  | none => s
  | some i =>
      let state := s.slots i
      match sensor with
      | some .accel =>
          if state.accel.isDue timestamp data then
            let reports := ⟨state.accel.reportPeriodMs, data, timestamp⟩
            (s.setState i { state with accel := reports }).send which
              (.motion state.index .accel data)
          else s
      | some .gyro =>
          if state.gyro.isDue timestamp data then
            let reports := ⟨state.gyro.reportPeriodMs, data, timestamp⟩
            (s.setState i { state with gyro := reports }).send which
              (.motion state.index .gyro data)
          else s
      | none => s

def handleControllerTouchpadEvent (which : Int) (type : TouchpadEventType)
    (touchpad finger : Nat) : Gamepads :=
  match s.findStateForGamepad which with
  | none => s
  | some i => s.send which (.touch (s.slots i).index type touchpad finger)

def handleJoystickBatteryEvent (which : Int) (level : PowerLevel) : Gamepads :=
  match s.findStateForGamepad which with
  | none => s
  | some i => s.sendGamepadBatteryState which (s.slots i).index level

/-! ### Devices -/

/-- What SDL says of a controller that it has opened. -/
structure OpenedController where
  /-- Its address. -/
  controller : Nat
  instanceId : Int
  /-- Its GUID is one of `m_IgnoreDeviceGuids`. -/
  ignored : Bool
  type : ControllerType
  /-- Its touchpad button has a mapping. -/
  touchpadMapped : Bool
  powerLevel : PowerLevel
  deriving DecidableEq, Repr

/-- The state of a slot in which a controller has been opened. -/
def openedState (i : Fin MAX_GAMEPADS) (opened : OpenedController) : GamepadState :=
  { s.slots i with
    index := if s.multiController then i else 0
    controller := some opened.controller
    jsId := opened.instanceId
    clickpadButtonEmulationEnabled := !opened.touchpadMapped && opened.type == .ps }

/-- `SDL_CONTROLLERDEVICEADDED`, where SDL may fail to open the controller. -/
def deviceAdded (opened : Option OpenedController) : Gamepads :=
  match opened with
  | none => s
  | some opened =>
      if (List.finRange MAX_GAMEPADS).any
          fun i => (s.slots i).controller == some opened.controller then s
      else
        match (List.finRange MAX_GAMEPADS).find? fun i => (s.slots i).controller == none with
        | none => s
        | some i =>
            if opened.ignored then s
            else
              let state := s.openedState i opened
              let mask := if s.multiController then insert state.index s.mask else s.mask
              let s := { s with mask := mask }.setState i state
              let s := s.send opened.instanceId (.arrival state.index s.mask opened.type)
              if opened.powerLevel = .unknown then s
              else s.sendGamepadBatteryState opened.instanceId state.index opened.powerLevel

/-- `SDL_CONTROLLERDEVICEREMOVED`. -/
def deviceRemoved (which : Int) : Gamepads :=
  match s.findStateForGamepad which with
  | none => s
  | some i =>
      let state := s.slots i
      let mask := if s.multiController then s.mask.erase state.index else s.mask
      ({ s with mask := mask }.send which (.controller state.index mask .zero)).setState i .zero

/-! ### Callbacks of the host -/

/-- The controller with this number, if the number is in range and the slot open. -/
def controllerAt (controllerNumber : UInt16) : Option (Fin MAX_GAMEPADS × Nat) :=
  if h : controllerNumber.toNat < MAX_GAMEPADS then
    (s.slots ⟨controllerNumber.toNat, h⟩).controller.map fun controller => (⟨_, h⟩, controller)
  else none

def tell (controller : Nat) (feedback : Feedback) : Gamepads :=
  { s with told := s.told ++ [(controller, feedback)] }

def rumble (controllerNumber lowFreqMotor highFreqMotor : UInt16) : Gamepads :=
  match s.controllerAt controllerNumber with
  | some (_, controller) => s.tell controller (.rumble lowFreqMotor highFreqMotor)
  | none => s

def rumbleTriggers (controllerNumber leftTrigger rightTrigger : UInt16) : Gamepads :=
  match s.controllerAt controllerNumber with
  | some (_, controller) => s.tell controller (.rumbleTriggers leftTrigger rightTrigger)
  | none => s

/-- `reportRateHz ? (1000 / reportRateHz) : 0`, in a byte. -/
def reportPeriod (reportRateHz : UInt16) : UInt8 :=
  if reportRateHz = 0 then 0 else (1000 / reportRateHz.toNat).toUInt8

/-- The motion type is none if it is neither. -/
def setMotionEventState (controllerNumber : UInt16) (motionType : Option MotionType)
    (reportRateHz : UInt16) : Gamepads :=
  match s.controllerAt controllerNumber with
  | none => s
  | some (i, controller) =>
      let state := s.slots i
      match motionType with
      | some .accel =>
          let reports := { state.accel with reportPeriodMs := reportPeriod reportRateHz }
          (s.setState i { state with accel := reports }).tell controller
            (.sensorEnabled .accel (reportRateHz != 0))
      | some .gyro =>
          let reports := { state.gyro with reportPeriodMs := reportPeriod reportRateHz }
          (s.setState i { state with gyro := reports }).tell controller
            (.sensorEnabled .gyro (reportRateHz != 0))
      | none => s

def setControllerLED (controllerNumber : UInt16) (r g b : UInt8) : Gamepads :=
  match s.controllerAt controllerNumber with
  | some (_, controller) => s.tell controller (.led r g b)
  | none => s

/-- The bound is checked with `<=` here. SDL says whether the controller is one of a PS5. -/
def setAdaptiveTriggers (controllerNumber : UInt16) (isPS5 : Bool) (report : List UInt8) :
    Gamepads :=
  if controllerNumber.toNat ≤ MAX_GAMEPADS then
    if h : controllerNumber.toNat < MAX_GAMEPADS then
      match (s.slots ⟨controllerNumber.toNat, h⟩).controller with
      | some controller => if isPS5 then s.tell controller (.effect report) else s
      | none => s
    else { s with outOfBounds := true }
  else s

/-! ### Events -/

/-- What happens: the events of SDL that are about gamepads, and what the host asks for. -/
inductive GamepadEvent
  | axis (which : Int) (motions : List (ControllerAxis × Int))
  | button (event : ControllerButtonEvent)
  | sensor (which : Int) (sensor : Option MotionType) (timestamp : UInt32) (data : SensorData)
  | touchpad (which : Int) (type : TouchpadEventType) (touchpad : Nat) (finger : Nat)
  | battery (which : Int) (level : PowerLevel)
  | added (opened : Option OpenedController)
  | removed (which : Int)
  | rumble (controllerNumber lowFreqMotor highFreqMotor : UInt16)
  | rumbleTriggers (controllerNumber leftTrigger rightTrigger : UInt16)
  | motionState (controllerNumber : UInt16) (motionType : Option MotionType)
      (reportRateHz : UInt16)
  | led (controllerNumber : UInt16) (r g b : UInt8)
  | adaptiveTriggers (controllerNumber : UInt16) (isPS5 : Bool) (report : List UInt8)
  deriving DecidableEq, Repr

def step (s : Gamepads) : GamepadEvent → Gamepads
  | .axis which motions => s.handleControllerAxisEvent which motions
  | .button event => s.handleControllerButtonEvent event
  | .sensor which sensor timestamp data =>
      s.handleControllerSensorEvent which sensor timestamp data
  | .touchpad which type touchpad finger =>
      s.handleControllerTouchpadEvent which type touchpad finger
  | .battery which level => s.handleJoystickBatteryEvent which level
  | .added opened => s.deviceAdded opened
  | .removed which => s.deviceRemoved which
  | .rumble controllerNumber low high => s.rumble controllerNumber low high
  | .rumbleTriggers controllerNumber left right => s.rumbleTriggers controllerNumber left right
  | .motionState controllerNumber motionType rate =>
      s.setMotionEventState controllerNumber motionType rate
  | .led controllerNumber r g b => s.setControllerLED controllerNumber r g b
  | .adaptiveTriggers controllerNumber isPS5 report =>
      s.setAdaptiveTriggers controllerNumber isPS5 report

/-- The constructor, for the preferences and the mask of the controllers that are attached. -/
def new (multiController gamepadMouse swapFaceButtons noGamepadQuit : Bool)
    (attachedGamepadMask : Finset Nat) : Gamepads where
  multiController := multiController
  gamepadMouse := gamepadMouse
  swapFaceButtons := swapFaceButtons
  noGamepadQuit := noGamepadQuit
  mask := if multiController then attachedGamepadMask else {0}
  slots _ := .zero
  outOfBounds := false
  sent := []
  told := []

end Gamepads

end GilStreaming.Streaming
