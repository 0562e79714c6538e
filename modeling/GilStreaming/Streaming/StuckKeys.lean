import GilStreaming.Lib.PressLog
import GilStreaming.Streaming.KeyboardInput

/-!
# GilStreaming.Streaming.StuckKeys

No key stays down on the host when none is held, as long as no release is lost.

`Does` says once what an event does to `m_KeysDown` and to what is sent. From it follow two
invariants: the keys that are down on the host are those of `m_KeysDown` (`Tracks`), and each of
them is the code of a key that is held (`NoneStranded`). The second is broken by one step only:
the release of a GUI key that was sent down while system keys were captured, and are not any
more. Most of what ends the capture raises all keys; the combo that toggles the keyboard grab
does not.
-/

namespace GilStreaming.Streaming

open PressLog Trace

/-! ### Key codes -/

/-- The code of a key, while system keys are captured. -/
def codeOf (scancode : Scancode) : Option Nat := (keyCode true scancode).map Prod.fst

theorem codeOf_of_keyCode {systemKeyCapture : Bool} {scancode : Scancode} {code : Nat}
    {flag : Bool} (h : keyCode systemKeyCapture scancode = some (code, flag)) :
    codeOf scancode = some code := by
  have hcaptured : keyCode true scancode = some (code, flag) := by
    cases systemKeyCapture with
    | true => exact h
    | false =>
        cases scancode with
        | lgui => cases h
        | rgui => cases h
        | _ => exact h
  rw [codeOf, hcaptured]
  rfl

theorem codeOf_lt {scancode : Scancode} {code : Nat} (h : codeOf scancode = some code) :
    code < 0x8000 := by
  cases scancode with
  | other => cases h
  | _ =>
      cases h
      dsimp only
      omega

/-- Only the GUI keys are filtered, and no other key has their codes. -/
theorem eq_of_filtered {systemKeyCapture : Bool} {scancode scancode' : Scancode} {code : Nat}
    (hfiltered : keyCode systemKeyCapture scancode = none) (h : codeOf scancode = some code)
    (h' : codeOf scancode' = some code) : scancode' = scancode := by
  cases systemKeyCapture with
  | true => simp [codeOf, hfiltered] at h
  | false =>
      have hgui : scancode = .lgui ∨ scancode = .rgui := by
        cases scancode with
        | lgui => exact .inl rfl
        | rgui => exact .inr rfl
        | _ => cases hfiltered <;> cases h
      rcases hgui with rfl | rfl
      all_goals
        obtain rfl := Option.some.inj h
        cases scancode'
        all_goals first
          | rfl
          | cases h'
          | have hcode := Option.some.inj h'
            dsimp only at hcode
            omega

/-! ### Presses and releases -/

def KeyAction.toAction : KeyAction → Action
  | .down => .press
  | .up => .release

/-- What is done to a key code. Presses and releases have the bit `0x8000` besides, and raised
keys have not. -/
def Sent.keyAction : Sent → Option (Action × Nat)
  | .key keyCode action _ _ => some (action.toAction, keyCode % 0x8000)
  | .text _ => none

def keyLog (sent : List Sent) : List (Action × Nat) := sent.filterMap Sent.keyAction

/-- The last action that was sent for the key code is a press. -/
def downOnHost (sent : List Sent) (code : Nat) : Bool := isDown (keyLog sent) code

theorem keyLog_sent (sent : List Sent) {keyCode : Nat} (h : keyCode < 0x8000)
    (action : KeyAction) (modifiers : Modifiers) (flag : Bool) :
    keyLog (sent ++ [.key (0x8000 ||| keyCode) action modifiers flag]) =
      keyLog sent ++ [(action.toAction, keyCode)] := by
  have hmod : (0x8000 ||| keyCode) % 0x8000 = keyCode := by
    rw [show 0x8000 = 2 ^ 15 from rfl, Nat.or_mod_two_pow, Nat.mod_self, Nat.zero_or,
      Nat.mod_eq_of_lt h]
  rw [keyLog, List.filterMap_append, List.filterMap_cons, Sent.keyAction, hmod]
  rfl

theorem keyLog_raised (sent : List Sent) {keysDown : List Nat}
    (h : ∀ keyDown ∈ keysDown, keyDown < 0x8000) :
    keyLog (sent ++ keysDown.map fun keyDown =>
        .key keyDown .up ⟨false, false, false, false⟩ false) =
      keyLog sent ++ keysDown.map fun keyDown => (.release, keyDown) := by
  rw [keyLog, List.filterMap_append, keyLog]
  congr 1
  induction keysDown with
  | nil => rfl
  | cons keyDown keysDown ih =>
      have hmod : keyDown % 0x8000 = keyDown := Nat.mod_eq_of_lt (h keyDown List.mem_cons_self)
      rw [List.map_cons, List.map_cons, List.filterMap_cons, Sent.keyAction, hmod,
        ih fun k hk => h k (List.mem_cons_of_mem _ hk)]
      rfl

/-- Texts are no action. -/
theorem keyLog_text (sent : List Sent) (text : String) :
    keyLog (sent ++ [.text text]) = keyLog sent := by
  rw [keyLog, List.filterMap_append, List.filterMap_cons, Sent.keyAction, List.filterMap_nil,
    List.append_nil, keyLog]

namespace SdlInputHandler

variable {s : SdlInputHandler}

/-! ### What an event does -/

/-- The keys that are down after an event, and what has been sent. -/
inductive Does (s : SdlInputHandler) : InputEvent → List Nat → List Sent → Prop
  /-- Nothing is sent. A release is filtered, or its key has no code. -/
  | keeps (e : InputEvent)
      (hrelease : ∀ keysym, e = .key .released keysym →
        keyCode s.isSystemKeyCaptureActive keysym.scancode = none) :
      Does s e s.keysDown s.sent
  /-- All keys are raised, and a text may follow. -/
  | raises (e : InputEvent) (hrelease : ∀ keysym, e ≠ .key .released keysym)
      (text : Option String) :
      Does s e [] (s.raiseAllKeys.sent ++ (text.map Sent.text).toList)
  | presses (keysym : Keysym) {code : Nat} {flag : Bool} (modifiers : Modifiers)
      (hcode : keyCode s.isSystemKeyCaptureActive keysym.scancode = some (code, flag)) :
      Does s (.key (.pressed false) keysym) (s.keysDown.insert code)
        (s.sent ++ [.key (0x8000 ||| code) .down modifiers flag])
  | releases (keysym : Keysym) {code : Nat} {flag : Bool} (modifiers : Modifiers)
      (hcode : keyCode s.isSystemKeyCaptureActive keysym.scancode = some (code, flag)) :
      Does s (.key .released keysym) (s.keysDown.filter fun keyDown => keyDown != code)
        (s.sent ++ [.key (0x8000 ||| code) .up modifiers flag])

/-- Capturing touches no key. -/
@[simp] theorem updateKeyboardGrabState_keysDown (s : SdlInputHandler) :
    s.updateKeyboardGrabState.keysDown = s.keysDown := rfl

@[simp] theorem updateKeyboardGrabState_sent (s : SdlInputHandler) :
    s.updateKeyboardGrabState.sent = s.sent := rfl

@[simp] theorem setCaptureActive_keysDown (s : SdlInputHandler) (active : Bool) :
    (s.setCaptureActive active).keysDown = s.keysDown := by
  rw [setCaptureActive, updateKeyboardGrabState_keysDown]
  split <;> split <;> rfl

@[simp] theorem setCaptureActive_sent (s : SdlInputHandler) (active : Bool) :
    (s.setCaptureActive active).sent = s.sent := by
  rw [setCaptureActive, updateKeyboardGrabState_sent]
  split <;> split <;> rfl

/-- Raising the keys of a state with the same keys, and sending a text. -/
theorem Does.of_raised {s s' : SdlInputHandler} {e : InputEvent}
    (hrelease : ∀ keysym, e ≠ .key .released keysym) (hkeys : s'.keysDown = s.keysDown)
    (hsent : s'.sent = s.sent) : Does s e s'.raiseAllKeys.keysDown s'.raiseAllKeys.sent := by
  have hraises := Does.raises (s := s) e hrelease none
  rw [raiseAllKeys] at hraises ⊢
  rw [hkeys, hsent]
  simpa using hraises

theorem sendKey_does (s : SdlInputHandler) (keysym : Keysym) :
    Does s (.key (.pressed false) keysym) (s.sendKey .down keysym).keysDown
        (s.sendKey .down keysym).sent ∧
      Does s (.key .released keysym) (s.sendKey .up keysym).keysDown
        (s.sendKey .up keysym).sent := by
  rw [sendKey, sendKey]
  cases hcode : keyCode s.isSystemKeyCaptureActive keysym.scancode with
  | none =>
      refine ⟨.keeps _ (fun keysym' h => ?_), .keeps _ (fun keysym' h => ?_)⟩
      · cases h
      · cases h
        exact hcode
  | some p => exact ⟨.presses keysym _ hcode, .releases keysym _ hcode⟩

theorem performSpecialKeyCombo_does (s : SdlInputHandler) (combo : KeyCombo) (keysym : Keysym) :
    Does s (.key (.pressed false) keysym) (s.performSpecialKeyCombo combo).keysDown
      (s.performSpecialKeyCombo combo).sent := by
  have hpress : ∀ keysym', InputEvent.key (.pressed false) keysym ≠ .key .released keysym' :=
    fun _ h => by cases h
  have hkeeps {s' : SdlInputHandler} (hkeys : s'.keysDown = s.keysDown)
      (hsent : s'.sent = s.sent) :
      Does s (.key (.pressed false) keysym) s'.keysDown s'.sent := by
    rw [hkeys, hsent]
    exact .keeps _ fun keysym' h => absurd h (hpress keysym')
  cases combo with
  | ungrabInput =>
      exact .of_raised hpress (setCaptureActive_keysDown s _) (setCaptureActive_sent s _)
  | toggleFullScreen => exact .of_raised hpress rfl rfl
  | toggleMouseMode =>
      exact hkeeps (by simp [performSpecialKeyCombo]) (by simp [performSpecialKeyCombo])
  | pasteText =>
      rw [performSpecialKeyCombo, pasteText]
      cases s.raiseAllKeys.sdl.clipboardText with
      | none => exact .of_raised hpress rfl rfl
      | some text => exact .raises _ hpress (some (String.ofList (fixLineEnds text.toList)))
  | _ => exact hkeeps rfl rfl

theorem step_does (s : SdlInputHandler) (e : InputEvent) :
    Does s e (step s e).keysDown (step s e).sent := by
  show Does s e (s.handle e).keysDown (s.handle e).sent
  cases e with
  | key state keysym =>
      cases state with
      | pressed isRepeat =>
          cases isRepeat with
          | true => exact .keeps _ (fun keysym' h => by cases h)
          | false =>
              show Does s _ (s.handleKeyEvent (.pressed false) keysym).keysDown
                (s.handleKeyEvent (.pressed false) keysym).sent
              rw [handleKeyEvent]
              cases s.findCombo keysym with
              | some combo => exact performSpecialKeyCombo_does s combo.keyCombo keysym
              | none => exact (sendKey_does s keysym).1
      | released => exact (sendKey_does s keysym).2
  | focusLost =>
      have hrelease : ∀ keysym, InputEvent.focusLost ≠ .key .released keysym :=
        fun _ h => by cases h
      show Does s _ s.notifyFocusLost.keysDown s.notifyFocusLost.sent
      rw [notifyFocusLost]
      split
      · exact .of_raised hrelease (setCaptureActive_keysDown s _) (setCaptureActive_sent s _)
      · exact .of_raised hrelease rfl rfl
  | captureSet active =>
      show Does s _ (s.setCaptureActive active).keysDown (s.setCaptureActive active).sent
      rw [setCaptureActive_keysDown, setCaptureActive_sent]
      exact .keeps _ (fun keysym' h => by cases h)
  | keysRaised => exact .of_raised (fun keysym' h => by cases h) rfl rfl
  | sdlChanged sdl => exact .keeps _ (fun keysym' h => by cases h)

/-! ### Keys that are down on the host -/

/-- The keys that are down on the host are those of `m_KeysDown`. -/
structure Tracks (s : SdlInputHandler) : Prop where
  down_iff : ∀ code, downOnHost s.sent code = true ↔ code ∈ s.keysDown
  lt : ∀ code ∈ s.keysDown, code < 0x8000

theorem tracks_new (mode : CaptureSysKeysMode) (absolute desktop : Bool) (sdl : Sdl) :
    Tracks (new mode absolute desktop sdl) where
  down_iff _ := iff_of_false (fun h => by cases h) List.not_mem_nil
  lt _ h := absurd h List.not_mem_nil

theorem downOnHost_raiseAllKeys (h : Tracks s) (text : Option String) (code : Nat) :
    downOnHost (s.raiseAllKeys.sent ++ (text.map Sent.text).toList) code = false := by
  have hraised : downOnHost s.raiseAllKeys.sent code = false := by
    rw [raiseAllKeys, downOnHost, keyLog_raised s.sent h.lt, isDown_append_releases]
    by_cases hcode : code ∈ s.keysDown
    · simp [hcode]
    · have hup : downOnHost s.sent code = false := by simpa [hcode] using h.down_iff code
      rw [downOnHost] at hup
      rw [hup]
      rfl
  cases text with
  | none => simpa using hraised
  | some text =>
      rw [Option.map_some, Option.toList_some, downOnHost, keyLog_text]
      exact hraised

theorem tracks_step (h : Tracks s) (e : InputEvent) : Tracks (step s e) := by
  suffices hdoes : ∀ keysDown sent, Does s e keysDown sent →
      (∀ code, downOnHost sent code = true ↔ code ∈ keysDown) ∧
        ∀ code ∈ keysDown, code < 0x8000 by
    obtain ⟨hdown, hlt⟩ := hdoes _ _ (step_does s e)
    exact ⟨hdown, hlt⟩
  intro keysDown sent hdoes
  cases hdoes with
  | keeps => exact ⟨h.down_iff, h.lt⟩
  | raises _ _ text =>
      refine ⟨fun code => ?_, fun _ hcode => absurd hcode List.not_mem_nil⟩
      simp [downOnHost_raiseAllKeys h text code]
  | @presses keysym code flag modifiers hcode =>
      have hlt := codeOf_lt (codeOf_of_keyCode hcode)
      refine ⟨fun code' => ?_, fun code' hmem => ?_⟩
      · rw [downOnHost, keyLog_sent s.sent hlt, isDown_concat, List.mem_insert_iff, ← h.down_iff]
        by_cases heq : code = code'
        · simp [heq, KeyAction.toAction]
        · simp [heq, Ne.symm heq, downOnHost]
      · rcases List.mem_insert_iff.mp hmem with rfl | hmem
        · exact hlt
        · exact h.lt code' hmem
  | @releases keysym code flag modifiers hcode =>
      have hlt := codeOf_lt (codeOf_of_keyCode hcode)
      refine ⟨fun code' => ?_, fun code' hmem => h.lt code' (List.mem_filter.mp hmem).1⟩
      rw [downOnHost, keyLog_sent s.sent hlt, isDown_concat, List.mem_filter, ← h.down_iff]
      by_cases heq : code = code'
      · simp [heq, KeyAction.toAction]
      · simp [heq, Ne.symm heq, downOnHost]

/-! ### Keys that are held -/

/-- Each key that is down is the code of one that is held. -/
def NoneStranded (s : SdlInputHandler) : Prop :=
  ∀ code ∈ s.keysDown, ∃ scancode ∈ s.held, codeOf scancode = some code

/-- The event is the release of a key that is down, and is filtered. -/
def LostRelease (s : SdlInputHandler) : InputEvent → Prop
  | .key .released keysym =>
      keyCode s.isSystemKeyCaptureActive keysym.scancode = none ∧
        ∃ code ∈ s.keysDown, codeOf keysym.scancode = some code
  | _ => False

instance (s : SdlInputHandler) : DecidablePred s.LostRelease
  | .key .released keysym =>
      inferInstanceAs (Decidable (keyCode s.isSystemKeyCaptureActive keysym.scancode = none ∧
        ∃ code ∈ s.keysDown, codeOf keysym.scancode = some code))
  | .key (.pressed _) _ | .focusLost | .captureSet _ | .keysRaised | .sdlChanged _ =>
      inferInstanceAs (Decidable False)

/-- Only a release takes a key from the held ones. -/
theorem mem_heldAfter {held : List Scancode} {e : InputEvent} {scancode : Scancode}
    (h : scancode ∈ held) (hother : ∀ keysym, e = .key .released keysym →
      scancode ≠ keysym.scancode) : scancode ∈ heldAfter held e := by
  cases e with
  | key state keysym =>
      cases state with
      | pressed isRepeat => exact List.mem_insert_of_mem h
      | released => exact List.mem_filter.mpr ⟨h, by simpa using hother keysym rfl⟩
  | _ => exact h

/-- A lost release is the only step that strands a key. -/
theorem noneStranded_step (h : NoneStranded s) (e : InputEvent) :
    NoneStranded (step s e) ↔ ¬ LostRelease s e := by
  constructor
  · intro hnone hlost
    cases e with
    | key state keysym =>
        cases state with
        | pressed isRepeat => exact hlost
        | released =>
            obtain ⟨hfiltered, code, hmem, hcode⟩ := hlost
            have hkept : (step s (.key .released keysym)).keysDown = s.keysDown := by
              show (s.sendKey .up keysym).keysDown = s.keysDown
              rw [sendKey, hfiltered]
            obtain ⟨scancode, hheld, hcode'⟩ := hnone code (hkept ▸ hmem)
            have hne := (List.mem_filter.mp hheld).2
            rw [eq_of_filtered hfiltered hcode hcode'] at hne
            simp at hne
    | _ => exact hlost
  · intro hlost
    suffices hdoes : ∀ keysDown sent, Does s e keysDown sent →
        ∀ code ∈ keysDown, ∃ scancode ∈ heldAfter s.held e, codeOf scancode = some code from
      hdoes _ _ (step_does s e)
    intro keysDown sent hdoes code hmem
    cases hdoes with
    | keeps _ hrelease =>
        obtain ⟨scancode, hheld, hcode⟩ := h code hmem
        refine ⟨scancode, mem_heldAfter hheld fun keysym he heq => ?_, hcode⟩
        subst he
        exact hlost ⟨hrelease keysym rfl, code, hmem, heq ▸ hcode⟩
    | raises => exact absurd hmem List.not_mem_nil
    | @presses keysym code' flag modifiers hcode =>
        rcases List.mem_insert_iff.mp hmem with rfl | hmem
        · exact ⟨keysym.scancode, List.mem_insert_self, codeOf_of_keyCode hcode⟩
        · obtain ⟨scancode, hheld, hcode⟩ := h code hmem
          exact ⟨scancode, List.mem_insert_of_mem hheld, hcode⟩
    | @releases keysym code' flag modifiers hcode =>
        obtain ⟨hmem, hne⟩ := List.mem_filter.mp hmem
        obtain ⟨scancode, hheld, hcode'⟩ := h code hmem
        refine ⟨scancode, mem_heldAfter hheld fun keysym' he heq => ?_, hcode'⟩
        cases he
        rw [heq, codeOf_of_keyCode hcode, Option.some.injEq] at hcode'
        simp [hcode'] at hne

/-! ### Stuck keys -/

/-- If no key is held, none is down on the host. -/
def NoStuckKeys (s : SdlInputHandler) : Prop :=
  s.held = [] → ∀ code, downOnHost s.sent code = false

theorem noStuckKeys_of_noneStranded (htracks : Tracks s) (h : NoneStranded s) :
    NoStuckKeys s := by
  intro hheld code
  by_contra hdown
  obtain ⟨scancode, hmem, -⟩ :=
    h code ((htracks.down_iff code).mp (Bool.of_not_eq_false hdown))
  rw [hheld] at hmem
  exact absurd hmem List.not_mem_nil

/-- Where no key is stranded, a step leaves one stuck exactly if it is the lost release of the
last key that is held. -/
theorem noStuckKeys_step (htracks : Tracks s) (h : NoneStranded s) (e : InputEvent) :
    NoStuckKeys (step s e) ↔ ¬ (LostRelease s e ∧ (step s e).held = []) := by
  constructor
  · rintro hstuck ⟨hlost, hheld⟩
    cases e with
    | key state keysym =>
        cases state with
        | pressed isRepeat => exact hlost
        | released =>
            obtain ⟨hfiltered, code, hmem, -⟩ := hlost
            have hkept : (step s (.key .released keysym)).sent = s.sent := by
              show (s.sendKey .up keysym).sent = s.sent
              rw [sendKey, hfiltered]
            have hdown := (htracks.down_iff code).mpr hmem
            rw [← hkept, hstuck hheld code] at hdown
            cases hdown
    | _ => exact hlost
  · intro hnot
    by_cases hlost : LostRelease s e
    · exact fun hheld => absurd ⟨hlost, hheld⟩ hnot
    · exact noStuckKeys_of_noneStranded (tracks_step htracks e) ((noneStranded_step h e).mpr hlost)

/-- **No stuck keys.** In every state of a run without lost releases no key is down on the host
when none is held, and the next step of such a run leaves one down exactly if it is the lost
release of the last key that is held. -/
theorem noStuckKeys (mode : CaptureSysKeysMode) (absolute desktop : Bool) (sdl : Sdl)
    (es : List InputEvent)
    (h : AllSteps step (fun s e => ¬ LostRelease s e) (new mode absolute desktop sdl) es) :
    (∀ pre, pre <+: es → NoStuckKeys (run step (new mode absolute desktop sdl) pre)) ∧
      ∀ e, NoStuckKeys (run step (new mode absolute desktop sdl) (es ++ [e])) ↔
        ¬ (LostRelease (run step (new mode absolute desktop sdl) es) e ∧
          (run step (new mode absolute desktop sdl) (es ++ [e])).held = []) := by
  have hstart : NoneStranded (new mode absolute desktop sdl) :=
    fun _ hmem => absurd hmem List.not_mem_nil
  have htracks (pre : List InputEvent) : Tracks (run step (new mode absolute desktop sdl) pre) :=
    @run_invariant _ _ step (fun _ _ => True) Tracks (fun _ e _ htracks => tracks_step htracks e)
      _ (tracks_new mode absolute desktop sdl) pre (.of_forall (fun _ _ => trivial) _)
  have hnone (pre : List InputEvent) (hpre : pre <+: es) :
      NoneStranded (run step (new mode absolute desktop sdl) pre) := by
    obtain ⟨post, rfl⟩ := hpre
    exact @run_invariant _ _ step _ NoneStranded
      (fun _ e hlost hnone => (noneStranded_step hnone e).mpr hlost) _ hstart _
      (allSteps_append.mp h).1
  refine ⟨fun pre hpre => noStuckKeys_of_noneStranded (htracks pre) (hnone pre hpre),
    fun e => ?_⟩
  rw [run_concat]
  exact noStuckKeys_step (htracks es) (hnone es (List.prefix_refl es)) e

section Sample

def sampleSdl : Sdl := ⟨some ⟨true, true⟩, false, true, true, none⟩

def plain (scancode : Scancode) : Keysym := ⟨scancode, 0, ⟨false, false, false, false⟩⟩

/-- A GUI key that is pressed and released while system keys are captured. -/
theorem gui_key_raised : NoStuckKeys (run step (new .always false true sampleSdl)
    [.captureSet true, .key (.pressed false) (plain .lgui), .key .released (plain .lgui)]) :=
  (noStuckKeys .always false true sampleSdl
    [.captureSet true, .key (.pressed false) (plain .lgui), .key .released (plain .lgui)]
    (by decide)).1 _ (List.prefix_refl _)

/-- The GUI key goes down, the combo that toggles the keyboard grab ends the capture, and then
all keys are released. -/
def grabToggled : List InputEvent :=
  [.captureSet true, .key (.pressed false) (plain .lgui), .key (.pressed false) (plain .lctrl),
    .key (.pressed false) (plain .lalt), .key (.pressed false) (plain .lshift),
    .key (.pressed false) ⟨.letter 10, 'k'.toNat, ⟨true, true, true, true⟩⟩,
    .key .released (plain (.letter 10)), .key .released (plain .lshift),
    .key .released (plain .lalt), .key .released (plain .lctrl), .key .released (plain .lgui)]

theorem gui_key_stuck :
    (run step (new .always false true sampleSdl) grabToggled).held = [] ∧
      downOnHost (run step (new .always false true sampleSdl) grabToggled).sent 0x5B = true ∧
      ¬ NoStuckKeys (run step (new .always false true sampleSdl) grabToggled) := by
  have hheld : (run step (new .always false true sampleSdl) grabToggled).held = [] := by
    decide
  have hdown :
      downOnHost (run step (new .always false true sampleSdl) grabToggled).sent 0x5B = true := by
    decide
  refine ⟨hheld, hdown, fun h => ?_⟩
  rw [h hheld] at hdown
  cases hdown

end Sample

end SdlInputHandler

end GilStreaming.Streaming
