import GilStreaming.Lib.PressLog
import GilStreaming.Streaming.KeyboardInput

/-!
# GilStreaming.Streaming.MouseButtons

The buttons of the mouse: `handleMouseButtonEvent` in `app/streaming/input/mouse.cpp`, with the
capture of `KeyboardInput` that it asks and starts.

No button stays down on the host when none is held, as long as no release is lost. A release is
lost when the capture has ended since the press: unlike keys, buttons that are down are not kept
anywhere, and nothing raises them. The first such release of the left button even starts the
capture again.
-/

namespace GilStreaming.Streaming

open PressLog Trace

/-- The buttons of SDL. -/
inductive SdlButton
  | left
  | middle
  | right
  | x1
  | x2
  /-- Any other one. -/
  | other (n : Nat)
  deriving DecidableEq, Repr

/-- The buttons of the host, `BUTTON_LEFT` to `BUTTON_X2`. -/
inductive MouseButton
  | left
  | middle
  | right
  | x1
  | x2
  deriving DecidableEq, Repr

/-- `SDL_Rect`. -/
structure Rect where
  x : Int
  y : Int
  w : Int
  h : Int
  deriving DecidableEq, Repr

/-- `SDL_MouseButtonEvent`. -/
structure MouseButtonEvent where
  /-- `which`: a mouse, or `none` for `SDL_TOUCH_MOUSEID`. -/
  mouse : Option Nat
  button : SdlButton
  pressed : Bool
  x : Int
  y : Int
  deriving DecidableEq, Repr

structure MouseInput where
  /-- The rest of the handler. -/
  handler : SdlInputHandler
  swapMouseButtons : Bool
  /-- What `scaleSourceToDestinationSurface` makes of the sizes of stream and window. -/
  videoRegion : Rect
  /-- The buttons that are held, each with its mouse. -/
  held : List (Nat × SdlButton)
  /-- What `LiSendMouseButtonEvent` has sent. -/
  sent : List (Action × MouseButton)
  deriving DecidableEq, Repr

namespace MouseInput

variable {s : MouseInput}

/-! ### Button events -/

def isMouseInVideoRegion (s : MouseInput) (mouseX mouseY : Int) : Bool :=
  let dst := s.videoRegion
  (dst.x ≤ mouseX && mouseX ≤ dst.x + dst.w) && (dst.y ≤ mouseY && mouseY ≤ dst.y + dst.h)

/-- The button that is sent for one of SDL. -/
def hostButton (swapMouseButtons : Bool) : SdlButton → Option MouseButton
  | .left => some (if swapMouseButtons then .right else .left)
  | .middle => some .middle
  | .right => some (if swapMouseButtons then .left else .right)
  | .x1 => some .x1
  | .x2 => some .x2
  | .other _ => none

def handleMouseButtonEvent (s : MouseInput) (event : MouseButtonEvent) : MouseInput :=
  -- Ignore synthetic mouse events.
  if event.mouse.isNone then s
  else if !s.handler.isCaptureActive then
    -- Capture the mouse again if clicked when unbound.
    if event.button == .left && !event.pressed && s.isMouseInVideoRegion event.x event.y then
      { s with handler := s.handler.setCaptureActive true }
    else s
  else if s.handler.absoluteMouseMode && !s.isMouseInVideoRegion event.x event.y &&
      event.pressed then s
  else
    match hostButton s.swapMouseButtons event.button with
    | none => s
    | some button =>
        { s with sent := s.sent ++ [(if event.pressed then .press else .release, button)] }

/-! ### Events -/

/-- What happens to the handler. -/
inductive MouseEvent
  | button (event : MouseButtonEvent)
  /-- Keys with their combos, focus losses, and what sets the capture. -/
  | input (e : InputEvent)
  | windowResized (videoRegion : Rect)
  deriving DecidableEq, Repr

/-- The buttons that are held after an event. Synthetic events hold none. -/
def heldAfter (held : List (Nat × SdlButton)) : MouseEvent → List (Nat × SdlButton)
  | .button ⟨some mouse, button, pressed, _, _⟩ =>
      if pressed then held.insert (mouse, button)
      else held.filter fun p => p != (mouse, button)
  | _ => held

def handle (s : MouseInput) : MouseEvent → MouseInput
  | .button event => s.handleMouseButtonEvent event
  | .input e => { s with handler := s.handler.step e }
  | .windowResized videoRegion => { s with videoRegion := videoRegion }

def step (s : MouseInput) (e : MouseEvent) : MouseInput :=
  { s.handle e with held := heldAfter s.held e }

def new (handler : SdlInputHandler) (swapMouseButtons : Bool) (videoRegion : Rect) :
    MouseInput where
  handler := handler
  swapMouseButtons := swapMouseButtons
  videoRegion := videoRegion
  held := []
  sent := []

/-! ### What an event sends -/

/-- What an event sends: nothing, or the press or release that it is. Not to send a release,
the mouse must be free or the button unknown. -/
inductive Sends (s : MouseInput) : MouseEvent → List (Action × MouseButton) → Prop
  | nothing (e : MouseEvent)
      (hrelease : ∀ mouse button x y, e = .button ⟨some mouse, button, false, x, y⟩ →
        s.handler.isCaptureActive = false ∨ hostButton s.swapMouseButtons button = none) :
      Sends s e s.sent
  | press (mouse : Nat) {sdlButton : SdlButton} {button : MouseButton} (x y : Int)
      (hbutton : hostButton s.swapMouseButtons sdlButton = some button) :
      Sends s (.button ⟨some mouse, sdlButton, true, x, y⟩) (s.sent ++ [(.press, button)])
  | release (mouse : Nat) {sdlButton : SdlButton} {button : MouseButton} (x y : Int)
      (hbutton : hostButton s.swapMouseButtons sdlButton = some button)
      (hcapture : s.handler.isCaptureActive = true) :
      Sends s (.button ⟨some mouse, sdlButton, false, x, y⟩) (s.sent ++ [(.release, button)])

@[simp] theorem step_swapMouseButtons (s : MouseInput) (e : MouseEvent) :
    (step s e).swapMouseButtons = s.swapMouseButtons := by
  cases e with
  | button event =>
      show (s.handleMouseButtonEvent event).swapMouseButtons = s.swapMouseButtons
      rw [handleMouseButtonEvent]
      repeat' split
      all_goals rfl
  | _ => rfl

/-- The press or release of a mouse that is captured. -/
theorem handle_captured (s : MouseInput) (mouse : Nat) (button : SdlButton) (pressed : Bool)
    (x y : Int) (hcapture : s.handler.isCaptureActive = true) :
    Sends s (.button ⟨some mouse, button, pressed, x, y⟩)
      (s.handleMouseButtonEvent ⟨some mouse, button, pressed, x, y⟩).sent := by
  simp only [handleMouseButtonEvent, hcapture, Option.isNone_some, Bool.false_eq_true,
    Bool.not_true, if_false]
  cases hbutton : hostButton s.swapMouseButtons button with
  | none =>
      split
      all_goals exact .nothing _ fun _ _ _ _ h => by cases h; exact .inr hbutton
  | some hostButton =>
      cases pressed with
      | true =>
          split
          · exact .nothing _ fun _ _ _ _ h => by cases h
          · exact .press mouse x y hbutton
      | false =>
          rw [Bool.and_false, if_neg Bool.false_ne_true]
          exact .release mouse x y hbutton hcapture

theorem step_sends (s : MouseInput) (e : MouseEvent) : Sends s e (step s e).sent := by
  show Sends s e (s.handle e).sent
  cases e with
  | input e => exact .nothing _ fun _ _ _ _ h => by cases h
  | windowResized videoRegion => exact .nothing _ fun _ _ _ _ h => by cases h
  | button event =>
      obtain ⟨mouse, button, pressed, x, y⟩ := event
      cases mouse with
      | none => exact .nothing _ fun _ _ _ _ h => by cases h
      | some mouse =>
          cases hcapture : s.handler.isCaptureActive with
          | true => exact handle_captured s mouse button pressed x y hcapture
          | false =>
              have hsent : (s.handle (.button ⟨some mouse, button, pressed, x, y⟩)).sent =
                  s.sent := by
                show (s.handleMouseButtonEvent ⟨some mouse, button, pressed, x, y⟩).sent = s.sent
                simp only [handleMouseButtonEvent, hcapture, Option.isNone_some,
                  Bool.false_eq_true, Bool.not_false, if_false, if_true]
                split <;> rfl
              rw [hsent]
              exact .nothing _ fun _ _ _ _ _ => .inl hcapture

/-! ### Buttons that are held -/

/-- The button is that of one that is held. -/
def Held (s : MouseInput) (button : MouseButton) : Prop :=
  ∃ p ∈ s.held, hostButton s.swapMouseButtons p.2 = some button

/-- Each button that is down on the host is held. -/
def NoneStranded (s : MouseInput) : Prop := Owned s.sent s.Held

/-- The event is the release of a button that is down on the host, and held on no other mouse,
while the mouse is not captured. -/
def LostRelease (s : MouseInput) : MouseEvent → Prop
  | .button ⟨some mouse, sdlButton, false, _, _⟩ =>
      s.handler.isCaptureActive = false ∧
        (∃ button ∈ hostButton s.swapMouseButtons sdlButton, isDown s.sent button = true) ∧
        ∀ p ∈ s.held, p.2 = sdlButton → p.1 = mouse
  | _ => False

instance (s : MouseInput) : DecidablePred s.LostRelease
  | .button ⟨some mouse, sdlButton, false, _, _⟩ =>
      inferInstanceAs (Decidable (s.handler.isCaptureActive = false ∧
        (∃ button ∈ hostButton s.swapMouseButtons sdlButton, isDown s.sent button = true) ∧
        ∀ p ∈ s.held, p.2 = sdlButton → p.1 = mouse))
  | .button ⟨some _, _, true, _, _⟩ | .button ⟨none, _, _, _, _⟩ | .input _ | .windowResized _ =>
      inferInstanceAs (Decidable False)

theorem hostButton_inj {swap : Bool} {sdlButton sdlButton' : SdlButton} {button : MouseButton}
    (h : hostButton swap sdlButton = some button) (h' : hostButton swap sdlButton' = some button) :
    sdlButton' = sdlButton := by
  cases swap <;> cases sdlButton <;> simp only [hostButton, reduceCtorEq] at h <;>
    cases h <;> cases sdlButton' <;> simp [hostButton] at h' ⊢

/-- Only a release takes a button from the held ones. -/
theorem mem_heldAfter {held : List (Nat × SdlButton)} {e : MouseEvent} {p : Nat × SdlButton}
    (h : p ∈ held) (hother : ∀ x y, e ≠ .button ⟨some p.1, p.2, false, x, y⟩) :
    p ∈ heldAfter held e := by
  cases e with
  | button event =>
      obtain ⟨mouse, button, pressed, x, y⟩ := event
      cases mouse with
      | none => exact h
      | some mouse =>
          cases pressed with
          | true => exact List.mem_insert_of_mem h
          | false =>
              refine List.mem_filter.mpr ⟨h, bne_iff_ne.mpr fun heq => ?_⟩
              subst heq
              exact hother x y rfl
  | _ => exact h

theorem held_step {e : MouseEvent} {p : Nat × SdlButton} {button : MouseButton}
    (hp : p ∈ heldAfter s.held e) (hbutton : hostButton s.swapMouseButtons p.2 = some button) :
    (step s e).Held button :=
  ⟨p, hp, by rw [step_swapMouseButtons]; exact hbutton⟩

/-- A lost release is not sent. -/
theorem eq_of_lostRelease {e : MouseEvent} (h : LostRelease s e) :
    (∃ mouse sdlButton x y, e = .button ⟨some mouse, sdlButton, false, x, y⟩) ∧
      (step s e).sent = s.sent := by
  cases e with
  | button event =>
      obtain ⟨mouse, sdlButton, pressed, x, y⟩ := event
      cases mouse with
      | none => exact h.elim
      | some mouse =>
          cases pressed with
          | true => exact h.elim
          | false =>
              have hsends := step_sends s (.button ⟨some mouse, sdlButton, false, x, y⟩)
              generalize (step s (.button ⟨some mouse, sdlButton, false, x, y⟩)).sent = sent
                at hsends
              refine ⟨⟨mouse, sdlButton, x, y, rfl⟩, ?_⟩
              cases hsends with
              | nothing => rfl
              | release _ _ _ _ hcapture => rw [h.1] at hcapture; cases hcapture
  | _ => exact h.elim

/-- A lost release is the only step that strands a button. -/
theorem noneStranded_step (h : NoneStranded s) (e : MouseEvent) :
    NoneStranded (step s e) ↔ ¬ LostRelease s e := by
  constructor
  · intro hnone hlost
    obtain ⟨⟨mouse, sdlButton, x, y, rfl⟩, hsent⟩ := eq_of_lostRelease hlost
    obtain ⟨-, ⟨button, hbutton, hdown⟩, hothers⟩ := hlost
    -- What is still held and owns the button could only be what is released.
    obtain ⟨p, hp, hpbutton⟩ := hnone button (hsent ▸ hdown)
    rw [step_swapMouseButtons] at hpbutton
    obtain ⟨hheld, hne⟩ := List.mem_filter.mp hp
    have hsdl : p.2 = sdlButton := hostButton_inj hbutton hpbutton
    have hp : p = (mouse, sdlButton) := Prod.ext (hothers p hheld hsdl) hsdl
    simp [hp] at hne
  · intro hlost
    suffices hsends : ∀ sent, Sends s e sent → Owned sent (step s e).Held from
      hsends _ (step_sends s e)
    intro sent hsends
    cases hsends with
    | nothing _ hrelease =>
        intro button hdown
        obtain ⟨p, hp, hbutton⟩ := h button hdown
        by_cases hreleased : ∃ x y, e = .button ⟨some p.1, p.2, false, x, y⟩
        · obtain ⟨x, y, rfl⟩ := hreleased
          -- The release is filtered, so another mouse holds the button.
          have hcapture : s.handler.isCaptureActive = false :=
            (hrelease p.1 p.2 x y rfl).resolve_right (by simp [hbutton])
          have hother : ¬ ∀ p' ∈ s.held, p'.2 = p.2 → p'.1 = p.1 :=
            fun hothers => hlost ⟨hcapture, ⟨button, hbutton, hdown⟩, hothers⟩
          push Not at hother
          obtain ⟨p', hp', hsdl, hmouse⟩ := hother
          refine held_step (mem_heldAfter hp' fun x' y' he => hmouse ?_) (hsdl ▸ hbutton)
          injection he with hevent
          injection hevent with hsome
          exact (Option.some.inj hsome).symm
        · push Not at hreleased
          exact held_step (mem_heldAfter hp hreleased) hbutton
    | press mouse x y hbutton =>
        refine Owned.press h (held_step List.mem_insert_self hbutton) fun button' _ hheld => ?_
        obtain ⟨p, hp, hpbutton⟩ := hheld
        exact held_step (List.mem_insert_of_mem hp) hpbutton
    | release mouse x y hbutton hcapture =>
        refine Owned.release h fun button' hne hheld => ?_
        obtain ⟨p, hp, hpbutton⟩ := hheld
        refine held_step (mem_heldAfter hp fun x' y' he => hne ?_) hpbutton
        cases he
        exact Option.some.inj (hpbutton.symm.trans hbutton)

/-! ### Stuck buttons -/

/-- If no button is held, none is down on the host. -/
def NoStuckButtons (s : MouseInput) : Prop :=
  s.held = [] → ∀ button, isDown s.sent button = false

theorem noStuckButtons_of_noneStranded (h : NoneStranded s) : NoStuckButtons s := by
  intro hheld button
  by_contra hdown
  obtain ⟨p, hp, -⟩ := h button (Bool.of_not_eq_false hdown)
  rw [hheld] at hp
  exact absurd hp List.not_mem_nil

/-- Where no button is stranded, a step leaves one stuck exactly if it is the lost release of the
last one that is held. -/
theorem noStuckButtons_step (h : NoneStranded s) (e : MouseEvent) :
    NoStuckButtons (step s e) ↔ ¬ (LostRelease s e ∧ (step s e).held = []) := by
  constructor
  · intro hstuck hlast
    obtain ⟨hlost, hheld⟩ := hlast
    obtain ⟨⟨mouse, sdlButton, x, y, rfl⟩, hsent⟩ := eq_of_lostRelease hlost
    obtain ⟨-, ⟨button, -, hdown⟩, -⟩ := hlost
    rw [← hsent, hstuck hheld button] at hdown
    cases hdown
  · intro hnot
    by_cases hlost : LostRelease s e
    · exact fun hheld => absurd ⟨hlost, hheld⟩ hnot
    · exact noStuckButtons_of_noneStranded ((noneStranded_step h e).mpr hlost)

/-- **No stuck mouse buttons.** In every state of a run without lost releases no button is down
on the host when none is held, and the next step of such a run leaves one down exactly if it is
the lost release of the last button that is held. -/
theorem noStuckButtons (handler : SdlInputHandler) (swapMouseButtons : Bool) (videoRegion : Rect)
    (es : List MouseEvent)
    (h : AllSteps step (fun s e => ¬ LostRelease s e) (new handler swapMouseButtons videoRegion)
      es) :
    (∀ pre, pre <+: es →
        NoStuckButtons (run step (new handler swapMouseButtons videoRegion) pre)) ∧
      ∀ e, NoStuckButtons (run step (new handler swapMouseButtons videoRegion) (es ++ [e])) ↔
        ¬ (LostRelease (run step (new handler swapMouseButtons videoRegion) es) e ∧
          (run step (new handler swapMouseButtons videoRegion) (es ++ [e])).held = []) := by
  have hstart : NoneStranded (new handler swapMouseButtons videoRegion) := owned_nil _
  have hnone (pre : List MouseEvent) (hpre : pre <+: es) :
      NoneStranded (run step (new handler swapMouseButtons videoRegion) pre) := by
    obtain ⟨post, rfl⟩ := hpre
    exact @run_invariant _ _ step _ NoneStranded
      (fun _ e hlost hnone => (noneStranded_step hnone e).mpr hlost) _ hstart _
      (allSteps_append.mp h).1
  refine ⟨fun pre hpre => noStuckButtons_of_noneStranded (hnone pre hpre), fun e => ?_⟩
  rw [run_concat]
  exact noStuckButtons_step (hnone es (List.prefix_refl es)) e

section Sample

/-- A window, not in full screen, with the mouse captured in relative mode. -/
def sampleHandler : SdlInputHandler :=
  let sdl : Sdl := ⟨some ⟨true, false⟩, false, true, true, none⟩
  (SdlInputHandler.new .off false true sdl).setCaptureActive true

def sampleRegion : Rect := ⟨0, 0, 1280, 720⟩

def leftButton (pressed : Bool) : MouseEvent := .button ⟨some 0, .left, pressed, 640, 360⟩

/-- A click. -/
theorem click_released :
    NoStuckButtons (run step (new sampleHandler false sampleRegion)
      [leftButton true, leftButton false]) :=
  (noStuckButtons sampleHandler false sampleRegion [leftButton true, leftButton false]
    (by decide)).1 _ (List.prefix_refl _)

/-- The window loses the focus between press and release. -/
def focusLostInClick : List MouseEvent := [leftButton true, .input .focusLost, leftButton false]

theorem left_button_stuck :
    (run step (new sampleHandler false sampleRegion) focusLostInClick).held = [] ∧
      isDown (run step (new sampleHandler false sampleRegion) focusLostInClick).sent .left =
        true ∧
      ¬ NoStuckButtons (run step (new sampleHandler false sampleRegion) focusLostInClick) := by
  have hheld : (run step (new sampleHandler false sampleRegion) focusLostInClick).held = [] := by
    decide
  have hdown : isDown (run step (new sampleHandler false sampleRegion) focusLostInClick).sent
      .left = true := by
    decide
  refine ⟨hheld, hdown, fun h => ?_⟩
  rw [h hheld] at hdown
  cases hdown

end Sample

end MouseInput

end GilStreaming.Streaming
