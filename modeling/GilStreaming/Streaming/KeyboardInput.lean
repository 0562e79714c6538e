import GilStreaming.Lib.Trace

/-!
# GilStreaming.Streaming.KeyboardInput

The keyboard of `SdlInputHandler`: `app/streaming/input/keyboard.cpp`, and what `input.cpp` and
`session.cpp` do to the keys that are down and to the capture of system keys.

The state has the part of SDL that the functions ask (the flags of the window, the relative mouse
mode, the clipboard) and the keys that are held. What only the mouse, the overlays and the log
see is left out, and so is the end of the session, which raises the keys at last.
-/

namespace GilStreaming.Streaming

/-! ### Keys -/

/-- `SDL_Scancode`, in the groups that `handleKeyEvent` makes. -/
inductive Scancode
  /-- `SDL_SCANCODE_1` to `SDL_SCANCODE_9`. -/
  | digit (n : Fin 9)
  /-- `SDL_SCANCODE_A` to `SDL_SCANCODE_Z`. -/
  | letter (n : Fin 26)
  /-- `SDL_SCANCODE_F1` to `SDL_SCANCODE_F12`. -/
  | f1 (n : Fin 12)
  /-- `SDL_SCANCODE_F13` to `SDL_SCANCODE_F24`. -/
  | f13 (n : Fin 12)
  /-- `SDL_SCANCODE_KP_1` to `SDL_SCANCODE_KP_9`. -/
  | kp (n : Fin 9)
  | backspace | tab | clear | kpEnter | returnKey | pause | capslock | escape | space | pageup
  | pagedown | endKey | home | left | up | right | down | select | execute | printscreen
  | insert | delete | help | kp0 | digit0 | kpMultiply | kpPlus | kpComma | kpMinus | kpPeriod
  | kpDivide | numlockclear | scrolllock | lshift | rshift | lctrl | rctrl | lalt | ralt | lgui
  | rgui | application | acBack | acForward | acRefresh | acStop | acSearch | acBookmarks
  | acHome | semicolon | equals | comma | minus | period | slash | grave | leftbracket
  | international3 | backslash | rightbracket | apostrophe | international1 | nonusbackslash
  | lang1 | lang2
  /-- Any other one. -/
  | other (n : Nat)
  deriving DecidableEq, Repr

/-- The key code that `handleKeyEvent` makes of a scan code, with
`shouldNotConvertToScanCodeOnServer`. Keys without a code are not handled, and the GUI keys only
while system keys are captured. -/
def keyCode (systemKeyCapture : Bool) : Scancode → Option (Nat × Bool)
  | .digit n => some (n + 0x30 + 1, false)
  | .letter n => some (n + 0x41, false)
  | .f1 n => some (n + 0x70, false)
  | .f13 n => some (n + 0x7C, false)
  | .kp n => some (n + 0x60 + 1, false)
  | .backspace => some (0x08, false)
  | .tab => some (0x09, false)
  | .clear => some (0x0C, false)
  | .kpEnter => some (0x0D, false)
  | .returnKey => some (0x0D, false)
  | .pause => some (0x13, false)
  | .capslock => some (0x14, false)
  | .escape => some (0x1B, false)
  | .space => some (0x20, false)
  | .pageup => some (0x21, false)
  | .pagedown => some (0x22, false)
  | .endKey => some (0x23, false)
  | .home => some (0x24, false)
  | .left => some (0x25, false)
  | .up => some (0x26, false)
  | .right => some (0x27, false)
  | .down => some (0x28, false)
  | .select => some (0x29, false)
  | .execute => some (0x2B, false)
  | .printscreen => some (0x2C, false)
  | .insert => some (0x2D, false)
  | .delete => some (0x2E, false)
  | .help => some (0x2F, false)
  | .kp0 => some (0x60, false)
  | .digit0 => some (0x30, false)
  | .kpMultiply => some (0x6A, false)
  | .kpPlus => some (0x6B, false)
  | .kpComma => some (0x6C, false)
  | .kpMinus => some (0x6D, false)
  | .kpPeriod => some (0x6E, false)
  | .kpDivide => some (0x6F, false)
  | .numlockclear => some (0x90, false)
  | .scrolllock => some (0x91, false)
  | .lshift => some (0xA0, false)
  | .rshift => some (0xA1, false)
  | .lctrl => some (0xA2, false)
  | .rctrl => some (0xA3, false)
  | .lalt => some (0xA4, false)
  | .ralt => some (0xA5, false)
  | .lgui => if systemKeyCapture then some (0x5B, false) else none
  | .rgui => if systemKeyCapture then some (0x5C, false) else none
  | .application => some (0x5D, false)
  | .acBack => some (0xA6, false)
  | .acForward => some (0xA7, false)
  | .acRefresh => some (0xA8, false)
  | .acStop => some (0xA9, false)
  | .acSearch => some (0xAA, false)
  | .acBookmarks => some (0xAB, false)
  | .acHome => some (0xAC, false)
  | .semicolon => some (0xBA, false)
  | .equals => some (0xBB, false)
  | .comma => some (0xBC, false)
  | .minus => some (0xBD, false)
  | .period => some (0xBE, false)
  | .slash => some (0xBF, false)
  | .grave => some (0xC0, false)
  | .leftbracket => some (0xDB, false)
  | .international3 => some (0xDC, true)
  | .backslash => some (0xDC, false)
  | .rightbracket => some (0xDD, false)
  | .apostrophe => some (0xDE, false)
  | .international1 => some (0xE2, true)
  | .nonusbackslash => some (0xE2, false)
  | .lang1 => some (0x1C, false)
  | .lang2 => some (0x1D, false)
  | .other _ => none

/-- The `mod` of a key, by its `KMOD_` groups. -/
structure KeyMod where
  ctrl : Bool
  alt : Bool
  shift : Bool
  gui : Bool
  deriving DecidableEq, Repr

/-- `SDL_Keysym`, where `sym` is an `SDL_Keycode`: the character for a letter. -/
structure Keysym where
  scancode : Scancode
  sym : Nat
  mod : KeyMod
  deriving DecidableEq, Repr

/-! ### What is sent -/

inductive KeyAction
  | down
  | up
  deriving DecidableEq, Repr

/-- The `MODIFIER_` flags. -/
structure Modifiers where
  ctrl : Bool
  alt : Bool
  shift : Bool
  metaKey : Bool
  deriving DecidableEq, Repr

/-- What is sent to the host. -/
inductive Sent
  /-- `LiSendKeyboardEvent2`, with the flag `SS_KBE_FLAG_NON_NORMALIZED`. -/
  | key (code : Nat) (action : KeyAction) (modifiers : Modifiers) (nonNormalized : Bool)
  /-- `LiSendUtf8TextEvent`. -/
  | text (text : String)
  deriving DecidableEq, Repr

/-! ### State -/

/-- `StreamingPreferences::CaptureSysKeysMode`. -/
inductive CaptureSysKeysMode
  | off
  | fullscreen
  | always
  deriving DecidableEq, Repr

/-- `SDL_GetWindowFlags`. -/
structure WindowFlags where
  inputFocus : Bool
  fullscreen : Bool
  deriving DecidableEq, Repr

/-- What the user and the system decide. -/
structure Sdl where
  /-- `m_Window`. -/
  window : Option WindowFlags
  /-- `SDL_GetRelativeMouseMode`. -/
  relativeMouseMode : Bool
  /-- `SDL_SetRelativeMouseMode(SDL_TRUE)` does not fail. -/
  relativeModeWorks : Bool
  /-- `SDL_SetWindowFullscreen` does not fail. -/
  fullScreenWorks : Bool
  clipboardText : Option String
  deriving DecidableEq, Repr

structure SdlInputHandler where
  /-- A set; the order in which its keys are raised does not matter. -/
  keysDown : List Nat
  fakeMouseCaptureActive : Bool
  keyboardCaptureActive : Bool
  captureSystemKeysMode : CaptureSysKeysMode
  absoluteMouseMode : Bool
  /-- `WMUtils::isRunningDesktopEnvironment()` when the combos were populated. -/
  desktopEnvironment : Bool
  sdl : Sdl
  /-- The keys that are held. -/
  held : List Scancode
  sent : List Sent
  deriving DecidableEq, Repr

namespace SdlInputHandler

variable (s : SdlInputHandler)

/-! ### Capture -/

/-- The flags of no window are zero. -/
def windowFlags : WindowFlags := s.sdl.window.getD ⟨false, false⟩

def isCaptureActive : Bool := s.sdl.relativeMouseMode || s.fakeMouseCaptureActive

def updateKeyboardGrabState : SdlInputHandler :=
  let shouldGrab := s.captureSystemKeysMode != .off && s.isCaptureActive &&
    !(s.captureSystemKeysMode == .fullscreen && !s.windowFlags.fullscreen)
  { s with keyboardCaptureActive := shouldGrab }

def isSystemKeyCaptureActive : Bool :=
  s.captureSystemKeysMode != .off && s.sdl.window.isSome && s.windowFlags.inputFocus &&
    s.keyboardCaptureActive &&
    !(s.captureSystemKeysMode == .fullscreen && !s.windowFlags.fullscreen)

def setCaptureActive (active : Bool) : SdlInputHandler :=
  let s :=
    if active then
      if s.absoluteMouseMode || !s.sdl.relativeModeWorks then
        { s with fakeMouseCaptureActive := true }
      else { s with sdl := { s.sdl with relativeMouseMode := true } }
    else if s.fakeMouseCaptureActive then { s with fakeMouseCaptureActive := false }
    else { s with sdl := { s.sdl with relativeMouseMode := false } }
  s.updateKeyboardGrabState

/-- `Session::toggleFullscreen`. -/
def toggleFullscreen : SdlInputHandler :=
  let toggled :=
    if s.sdl.fullScreenWorks then
      s.sdl.window.map fun flags => { flags with fullscreen := !flags.fullscreen }
    else s.sdl.window
  { s with sdl := { s.sdl with window := toggled } }.updateKeyboardGrabState

/-! ### Keys that are down -/

def raiseAllKeys : SdlInputHandler :=
  { s with
    sent := s.sent ++ s.keysDown.map fun keyDown =>
      .key keyDown .up ⟨false, false, false, false⟩ false
    keysDown := [] }

def notifyFocusLost : SdlInputHandler :=
  let s :=
    if !s.windowFlags.fullscreen && !s.absoluteMouseMode then s.setCaptureActive false else s
  s.raiseAllKeys

/-! ### Special key combos -/

/-- `KeyCombo`, in its order. -/
inductive KeyCombo
  | quit
  | ungrabInput
  | toggleFullScreen
  | toggleStatsOverlay
  | toggleMouseMode
  | toggleCursorHide
  | toggleMinimize
  | pasteText
  | togglePointerRegionLock
  | quitAndExit
  | toggleKeyboardGrab
  deriving DecidableEq, Repr

/-- An entry of `m_SpecialKeyCombos`, by the letter of its key. -/
structure SpecialKeyCombo where
  keyCombo : KeyCombo
  letter : Char
  enabled : Bool
  deriving DecidableEq, Repr

def specialKeyCombos (desktopEnvironment : Bool) : List SpecialKeyCombo :=
  [⟨.quit, 'q', true⟩, ⟨.ungrabInput, 'z', desktopEnvironment⟩,
    ⟨.toggleFullScreen, 'x', desktopEnvironment⟩, ⟨.toggleStatsOverlay, 's', true⟩,
    ⟨.toggleMouseMode, 'm', true⟩, ⟨.toggleCursorHide, 'c', true⟩,
    ⟨.toggleMinimize, 'd', desktopEnvironment⟩, ⟨.pasteText, 'v', true⟩,
    ⟨.togglePointerRegionLock, 'l', true⟩, ⟨.quitAndExit, 'e', true⟩,
    ⟨.toggleKeyboardGrab, 'k', desktopEnvironment⟩]

/-- The combo has this `keyCode`. -/
def SpecialKeyCombo.hasKeyCode (combo : SpecialKeyCombo) (sym : Nat) : Bool :=
  combo.enabled && sym == combo.letter.toNat

/-- The combo has this `scanCode`. -/
def SpecialKeyCombo.hasScanCode (combo : SpecialKeyCombo) : Scancode → Bool
  | .letter n => combo.enabled && n + 'a'.toNat == combo.letter.toNat
  | _ => false

/-- The loop that makes one LF of each CRLF. -/
def fixLineEnds : List Char → List Char
  | [] => []
  | '\r' :: '\n' :: text => '\n' :: fixLineEnds text
  | c :: text => c :: fixLineEnds text

def pasteText : SdlInputHandler :=
  let s := s.raiseAllKeys
  match s.sdl.clipboardText with
  | some text => { s with sent := s.sent ++ [.text (String.ofList (fixLineEnds text.toList))] }
  | none => s

/-- What a combo does here; the others push events or change what is shown. -/
def performSpecialKeyCombo : KeyCombo → SdlInputHandler
  | .ungrabInput => (s.setCaptureActive (!s.isCaptureActive)).raiseAllKeys
  | .toggleFullScreen => s.toggleFullscreen.raiseAllKeys
  | .toggleMouseMode =>
      let s := s.setCaptureActive false
      { s with absoluteMouseMode := !s.absoluteMouseMode }.setCaptureActive true
  | .pasteText => s.pasteText
  | .toggleKeyboardGrab =>
      { s with
        captureSystemKeysMode :=
          if s.isSystemKeyCaptureActive then .off else .always }.updateKeyboardGrabState
  | _ => s

/-- The combo that a press performs: the keys of all combos are tried before the scan codes. -/
def findCombo (keysym : Keysym) : Option SpecialKeyCombo :=
  if keysym.mod.ctrl && keysym.mod.alt && keysym.mod.shift then
    let combos := specialKeyCombos s.desktopEnvironment
    (combos.find? fun combo => combo.hasKeyCode keysym.sym).or
      (combos.find? fun combo => combo.hasScanCode keysym.scancode)
  else none

/-! ### Key events -/

/-- The state of a key event. Only presses repeat. -/
inductive KeyState
  | pressed (isRepeat : Bool)
  | released
  deriving DecidableEq, Repr

/-- The rest of `handleKeyEvent`, for a key that is no combo. -/
def sendKey (action : KeyAction) (keysym : Keysym) : SdlInputHandler :=
  let modifiers : Modifiers :=
    ⟨keysym.mod.ctrl, keysym.mod.alt, keysym.mod.shift,
      keysym.mod.gui && s.isSystemKeyCaptureActive⟩
  match keyCode s.isSystemKeyCaptureActive keysym.scancode with
  | none => s
  | some (keyCode, shouldNotConvertToScanCodeOnServer) =>
      { s with
        keysDown :=
          match action with
          | .down => s.keysDown.insert keyCode
          | .up => s.keysDown.filter fun keyDown => keyDown != keyCode
        sent := s.sent ++
          [.key (0x8000 ||| keyCode) action modifiers shouldNotConvertToScanCodeOnServer] }

def handleKeyEvent (state : KeyState) (keysym : Keysym) : SdlInputHandler :=
  match state with
  | .pressed true => s
  | .pressed false =>
      match s.findCombo keysym with
      | some combo => s.performSpecialKeyCombo combo.keyCombo
      | none => s.sendKey .down keysym
  | .released => s.sendKey .up keysym

/-! ### Events -/

end SdlInputHandler

/-- What happens to the handler. -/
inductive InputEvent
  | key (state : SdlInputHandler.KeyState) (keysym : Keysym)
  /-- `SDL_WINDOWEVENT_FOCUS_LOST` is handled. -/
  | focusLost
  /-- `setCaptureActive`, by a click or by the session. -/
  | captureSet (active : Bool)
  /-- `raiseAllKeys`, by the session. -/
  | keysRaised
  /-- Something else than the handler changes the window, the mouse mode or the clipboard. -/
  | sdlChanged (sdl : Sdl)
  deriving DecidableEq, Repr

namespace SdlInputHandler

/-- The keys that are held after an event. -/
def heldAfter (held : List Scancode) : InputEvent → List Scancode
  | .key (.pressed _) keysym => held.insert keysym.scancode
  | .key .released keysym => held.filter fun scancode => scancode != keysym.scancode
  | _ => held

/-- What the handler does for an event. -/
def handle (s : SdlInputHandler) : InputEvent → SdlInputHandler
  | .key state keysym => s.handleKeyEvent state keysym
  | .focusLost => s.notifyFocusLost
  | .captureSet active => s.setCaptureActive active
  | .keysRaised => s.raiseAllKeys
  | .sdlChanged sdl => { s with sdl := sdl }

def step (s : SdlInputHandler) (e : InputEvent) : SdlInputHandler :=
  { s.handle e with held := heldAfter s.held e }

/-- The constructor, for the preferences: system keys are always captured without a desktop
environment. -/
def new (captureSysKeysMode : CaptureSysKeysMode) (absoluteMouseMode desktopEnvironment : Bool)
    (sdl : Sdl) : SdlInputHandler where
  keysDown := []
  fakeMouseCaptureActive := false
  keyboardCaptureActive := false
  captureSystemKeysMode := if desktopEnvironment then captureSysKeysMode else .always
  absoluteMouseMode := absoluteMouseMode
  desktopEnvironment := desktopEnvironment
  sdl := sdl
  held := []
  sent := []

end SdlInputHandler

end GilStreaming.Streaming
