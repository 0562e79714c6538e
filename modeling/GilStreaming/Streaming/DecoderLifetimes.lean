import GilStreaming.Streaming.DecoderFrames
import Mathlib.Data.Option.Basic

/-!
# GilStreaming.Streaming.DecoderLifetimes

What the setup of a decoder creates and deletes.

Whatever fails on the way, every part is deleted once, while nothing lives that may refer to it:
the thread first, then the pacer, which may hold frames of the context, then the context, whose
surfaces may belong to the renderers, then the frontend, which the overlay manager must not know
any more, and the backend last.
-/

namespace GilStreaming.Streaming.DecoderSetup

open Fallible LifeAct

/-! ### Parts -/

/-- Nothing of a higher rank may live when a part is deleted. -/
def Part.rank : Part → Nat
  | .renderer r => if r.isFrontend then 1 else 0
  | .overlay _ => 2
  | .context _ => 2
  | .pacer _ => 3
  | .thread _ => 4

/-- The parts that a call works on. -/
def Question.parts : Question → List Part
  | .initializeRenderer renderer _ => [.renderer renderer]
  | .hasAttribute renderer _ => [.renderer renderer]
  | .pacerInitialize pacer frontend _ _ => [.pacer pacer, .renderer frontend]
  | .allocContext _ => []
  | .prepareDecoderContext backend context => [.renderer backend, .context context]
  | .openCodec context _ _ => [.context context]
  | .allocFrame => []
  | .sendPacket context _ => [.context context]
  | .testRenderFrame frontend => [.renderer frontend]
  | .createThread => []

def Act.lifeActs : Act → List (LifeAct Part)
  | .new part => [.creates part]
  | .delete part => [.deletes part]
  | .ask question _ => question.parts.map .uses
  | .getInitFailureReason renderer _ => [.renderer renderer].map .uses
  | .receiveFrame context _ => [.context context].map .uses
  | .prepareToRender frontend => [.renderer frontend].map .uses
  | .setOverlayRenderer old now =>
      (old.toList.map fun r => .deletes (.overlay r)) ++
        now.toList.flatMap fun r => [.uses (.renderer r), .creates (.overlay r)]
  | .gaveUp _ _ => []

/-- What a log does to the parts. -/
def lifeActs (log : List Act) : List (LifeAct Part) := log.flatMap Act.lifeActs

/-- The parts that a decoder has. -/
structure Parts where
  backend : Option Renderer
  frontend : Option Renderer
  overlay : Option Renderer
  context : Option Context
  pacer : Option Nat
  thread : Option Nat

def Decoder.parts (d : Decoder) : Parts where
  backend := d.backendRenderer
  frontend := d.frontendRenderer
  overlay := d.overlayRenderer
  context := d.videoDecoderCtx
  pacer := d.pacer
  thread := d.decoderThread

def Parts.Holds (ps : Parts) : Part → Prop
  | .renderer r => ps.backend = some r ∨ ps.frontend = some r
  | .overlay r => ps.overlay = some r
  | .context context => ps.context = some context
  | .pacer pacer => ps.pacer = some pacer
  | .thread thread => ps.thread = some thread

def Parts.empty : Parts := ⟨none, none, none, none, none, none⟩

namespace Parts

variable {p : Parts} {part : Part} {r : Renderer}

theorem holds_newBackend (hbackend : p.backend = none) (hfrontend : p.frontend = none)
    (r : Renderer) (x : Part) :
    { p with backend := some r : Parts }.Holds x ↔ x = .renderer r ∨ p.Holds x := by
  cases x <;> simp [Holds, hbackend, hfrontend, eq_comm]

theorem holds_newFrontend (hfrontend : p.frontend = none) (r : Renderer) (x : Part) :
    { p with frontend := some r : Parts }.Holds x ↔ x = .renderer r ∨ p.Holds x := by
  cases x <;> simp [Holds, hfrontend, eq_comm, or_comm]

theorem holds_newPacer (hpacer : p.pacer = none) (n : Nat) (x : Part) :
    { p with pacer := some n : Parts }.Holds x ↔ x = .pacer n ∨ p.Holds x := by
  cases x <;> simp [Holds, hpacer, eq_comm]

theorem holds_newContext (hcontext : p.context = none) (context : Context) (x : Part) :
    { p with context := some context : Parts }.Holds x ↔ x = .context context ∨ p.Holds x := by
  cases x <;> simp [Holds, hcontext, eq_comm]

theorem holds_newThread (hthread : p.thread = none) (n : Nat) (x : Part) :
    { p with thread := some n : Parts }.Holds x ↔ x = .thread n ∨ p.Holds x := by
  cases x <;> simp [Holds, hthread, eq_comm]

theorem holds_register (hoverlay : p.overlay = none) (r : Renderer) (x : Part) :
    { p with overlay := some r : Parts }.Holds x ↔ x = .overlay r ∨ p.Holds x := by
  cases x <;> simp [Holds, hoverlay, eq_comm]

theorem holds_deleteThread {n : Nat} (hthread : p.thread = some n) (x : Part) :
    { p with thread := none : Parts }.Holds x ↔ x ≠ .thread n ∧ p.Holds x := by
  cases x <;> simp [Holds, hthread, eq_comm]

theorem holds_deletePacer {n : Nat} (hpacer : p.pacer = some n) (x : Part) :
    { p with pacer := none : Parts }.Holds x ↔ x ≠ .pacer n ∧ p.Holds x := by
  cases x <;> simp [Holds, hpacer, eq_comm]

theorem holds_freeContext {context : Context} (hcontext : p.context = some context) (x : Part) :
    { p with context := none : Parts }.Holds x ↔ x ≠ .context context ∧ p.Holds x := by
  cases x <;> simp [Holds, hcontext, eq_comm]

theorem holds_unregister (hoverlay : p.overlay = some r) (x : Part) :
    { p with overlay := none : Parts }.Holds x ↔ x ≠ .overlay r ∧ p.Holds x := by
  cases x <;> simp [Holds, hoverlay, eq_comm]

theorem holds_deleteFrontend (hfrontend : p.frontend = some r) (hbackend : p.backend ≠ some r)
    (x : Part) : { p with frontend := none : Parts }.Holds x ↔ x ≠ .renderer r ∧ p.Holds x := by
  cases x with
  | renderer r' =>
      simp only [Holds, hfrontend]
      constructor
      · rintro (hr | hr)
        · exact ⟨fun heq => hbackend (Part.renderer.inj heq ▸ hr), .inl hr⟩
        · cases hr
      · rintro ⟨hne, hr | hr⟩
        · exact .inl hr
        · exact absurd (congrArg Part.renderer (Option.some.inj hr).symm) hne
  | _ => simp [Holds]

theorem holds_deleteBackend (hbackend : p.backend = some r) (hfrontend : p.frontend = none)
    (x : Part) : { p with backend := none : Parts }.Holds x ↔ x ≠ .renderer r ∧ p.Holds x := by
  cases x <;> simp [Holds, hbackend, hfrontend, eq_comm]

/-! #### Ranks -/

theorem rank_le_four (part : Part) : part.rank ≤ 4 := by
  cases part with
  | renderer r => rw [Part.rank]; split <;> omega
  | _ => simp [Part.rank]

theorem Holds.rank_le_three (hthread : p.thread = none) (hpart : p.Holds part) :
    part.rank ≤ 3 := by
  cases part with
  | thread n => cases hthread.symm.trans hpart
  | renderer r => rw [Part.rank]; split <;> omega
  | _ => simp [Part.rank]

theorem Holds.rank_le_two (hthread : p.thread = none) (hpacer : p.pacer = none)
    (hpart : p.Holds part) : part.rank ≤ 2 := by
  cases part with
  | thread n => cases hthread.symm.trans hpart
  | pacer n => cases hpacer.symm.trans hpart
  | renderer r => rw [Part.rank]; split <;> omega
  | _ => simp [Part.rank]

/-- There are no parts but renderers. -/
def OnlyRenderers (p : Parts) : Prop :=
  p.overlay = none ∧ p.context = none ∧ p.pacer = none ∧ p.thread = none

theorem OnlyRenderers.exists_renderer (h : p.OnlyRenderers) (hpart : p.Holds part) :
    ∃ r, part = .renderer r := by
  obtain ⟨hoverlay, hcontext, hpacer, hthread⟩ := h
  cases part with
  | renderer r => exact ⟨r, rfl⟩
  | overlay r => cases hoverlay.symm.trans hpart
  | context context => cases hcontext.symm.trans hpart
  | pacer n => cases hpacer.symm.trans hpart
  | thread n => cases hthread.symm.trans hpart

end Parts

/-- How many parts had been created before it. A place in the overlay manager has the number of
its renderer. -/
def Part.number : Part → Nat
  | .renderer r => r.id
  | .overlay r => r.id
  | .context c => c.id
  | .pacer n => n
  | .thread n => n

/-- The log is orderly, and what lives after it is what the decoder has. -/
structure Decoder.Tracked (d : Decoder) : Prop where
  ordered : Orderly Part.rank ∅ (lifeActs d.log)
  alive : ∀ x, x ∈ living ∅ (lifeActs d.log) ↔ d.parts.Holds x

structure Decoder.Inv (d : Decoder) : Prop where
  tracked : d.Tracked
  fresh : ∀ x, d.parts.Holds x → x.number < d.created
  backend : ∀ r, d.backendRenderer = some r → r.isFrontend = false
  frontend : ∀ r, d.frontendRenderer = some r → r.isFrontend = true ∨ d.backendRenderer = some r
  overlay : d.currentTestMode = .testFrameOnly → d.overlayRenderer = none

/-- The decoder has these parts and no others. -/
structure Decoder.At (testOnly : Bool) (ps : Parts) (d : Decoder) : Prop where
  inv : d.Inv
  testOnly : d.testOnly = testOnly
  parts : d.parts = ps

namespace Decoder

variable {d d' : Decoder} {act : Act} {part : Part} {t : Bool} {ps : Parts}

theorem lifeActs_concat (log : List Act) :
    lifeActs (log ++ [act]) = lifeActs log ++ act.lifeActs := by
  simp [lifeActs]

/-- **One act.** -/
theorem Tracked.next (h : d.Tracked) (hlog : d'.log = d.log ++ [act])
    (hact : ∀ alive : Finset Part, (∀ x, x ∈ alive ↔ d.parts.Holds x) →
      Orderly Part.rank alive act.lifeActs ∧
        ∀ x, x ∈ living alive act.lifeActs ↔ d'.parts.Holds x) : d'.Tracked := by
  obtain ⟨horderly, hliving⟩ := hact _ h.alive
  constructor
  · rw [hlog, lifeActs_concat, orderly_append]
    exact ⟨h.ordered, horderly⟩
  · rw [hlog, lifeActs_concat, living_append]
    exact hliving

/-- Nothing happens to a part. -/
theorem Tracked.uses (h : d.Tracked) (hlog : d'.log = d.log ++ [act]) {parts : List Part}
    (hact : act.lifeActs = parts.map .uses) (hparts : ∀ x ∈ parts, d.parts.Holds x)
    (hholds : ∀ x, d'.parts.Holds x ↔ d.parts.Holds x) : d'.Tracked := by
  refine h.next hlog fun alive halive => ?_
  rw [hact, orderly_uses, living_uses]
  exact ⟨fun x hx => (halive x).mpr (hparts x hx), fun x => (halive x).trans (hholds x).symm⟩

theorem Tracked.creates (h : d.Tracked) (hlog : d'.log = d.log ++ [.new part])
    (hpart : ¬ d.parts.Holds part)
    (hholds : ∀ x, d'.parts.Holds x ↔ x = part ∨ d.parts.Holds x) : d'.Tracked := by
  refine h.next hlog fun alive halive => ⟨⟨mt (halive part).mp hpart, trivial⟩, fun x => ?_⟩
  rw [hholds, ← halive]
  exact Finset.mem_insert

theorem Tracked.deletes (h : d.Tracked) (hlog : d'.log = d.log ++ [act])
    (hact : act.lifeActs = [.deletes part]) (hpart : d.parts.Holds part)
    (hrank : ∀ y, d.parts.Holds y → y.rank ≤ part.rank)
    (hholds : ∀ x, d'.parts.Holds x ↔ x ≠ part ∧ d.parts.Holds x) : d'.Tracked := by
  refine h.next hlog fun alive halive => ?_
  rw [hact]
  refine ⟨⟨⟨(halive part).mpr hpart, fun y hy => hrank y ((halive y).mp hy)⟩, trivial⟩, fun x => ?_⟩
  rw [hholds, ← halive]
  exact Finset.mem_erase

/-- A call works on parts that live. -/
theorem Inv.uses (h : d.Inv) {parts : List Part} (hact : act.lifeActs = parts.map .uses)
    (hparts : ∀ x ∈ parts, d.parts.Holds x) : (d.did act).Inv where
  tracked := h.tracked.uses rfl hact hparts fun x => by cases x <;> rfl
  fresh x hx := h.fresh x (by cases x <;> exact hx)
  backend := h.backend
  frontend := h.frontend
  overlay := h.overlay

theorem At.uses (h : d.At t ps) {parts : List Part} (hact : act.lifeActs = parts.map .uses)
    (hparts : ∀ x ∈ parts, d.parts.Holds x) : (d.did act).At t ps :=
  ⟨h.inv.uses hact hparts, h.testOnly, h.parts⟩

/-! ### Parts that are created -/

/-- **A new part.** -/
theorem Inv.creates (h : d.Inv) (hlog : d'.log = d.log ++ [.new part])
    (hnumber : part.number = d.created) (hcreated : d'.created = d.created + 1)
    (hholds : ∀ x, d'.parts.Holds x ↔ x = part ∨ d.parts.Holds x)
    (hbackend : ∀ r, d'.backendRenderer = some r → r.isFrontend = false)
    (hfrontend : ∀ r, d'.frontendRenderer = some r →
      r.isFrontend = true ∨ d'.backendRenderer = some r)
    (hoverlay : d'.currentTestMode = .testFrameOnly → d'.overlayRenderer = none) : d'.Inv where
  tracked := h.tracked.creates hlog
    (fun hpart => by have := h.fresh part hpart; omega) hholds
  fresh x hx := by
    rcases (hholds x).mp hx with rfl | hold
    · omega
    · have := h.fresh x hold
      omega
  backend := hbackend
  frontend := hfrontend
  overlay := hoverlay

/-- **A deleted part.** -/
theorem Inv.deletes (h : d.Inv) (hlog : d'.log = d.log ++ [act])
    (hact : act.lifeActs = [.deletes part]) (hpart : d.parts.Holds part)
    (hrank : ∀ y, d.parts.Holds y → y.rank ≤ part.rank)
    (hcreated : d'.created = d.created)
    (hholds : ∀ x, d'.parts.Holds x ↔ x ≠ part ∧ d.parts.Holds x)
    (hbackend : ∀ r, d'.backendRenderer = some r → r.isFrontend = false)
    (hfrontend : ∀ r, d'.frontendRenderer = some r →
      r.isFrontend = true ∨ d'.backendRenderer = some r)
    (hoverlay : d'.currentTestMode = .testFrameOnly → d'.overlayRenderer = none) : d'.Inv where
  tracked := h.tracked.deletes hlog hact hpart hrank hholds
  fresh x hx := hcreated ▸ h.fresh x ((hholds x).mp hx).2
  backend := hbackend
  frontend := hfrontend
  overlay := hoverlay

theorem At.newBackend (h : d.At t ps) (hbackend : ps.backend = none)
    (hfrontend : ps.frontend = none) (kind : RendererKind) :
    (d.newBackend kind).At t { ps with backend := some ⟨d.created, kind, false⟩ } := by
  obtain ⟨hinv, htest, rfl⟩ := h
  refine ⟨hinv.creates rfl rfl rfl (Parts.holds_newBackend hbackend hfrontend _) ?_ ?_ hinv.overlay,
    htest, rfl⟩
  · rintro r ⟨⟩
    rfl
  · intro r hr
    cases hfrontend.symm.trans hr

theorem At.newFrontend (h : d.At t ps) (hfrontend : ps.frontend = none)
    (kind : RendererKind) :
    (d.newFrontend kind).At t { ps with frontend := some ⟨d.created, kind, true⟩ } := by
  obtain ⟨hinv, htest, rfl⟩ := h
  refine ⟨hinv.creates rfl rfl rfl (Parts.holds_newFrontend hfrontend _) hinv.backend ?_
    hinv.overlay, htest, rfl⟩
  rintro r ⟨⟩
  exact .inl rfl

theorem At.newPacer (h : d.At t ps) (hpacer : ps.pacer = none) :
    d.newPacer.At t { ps with pacer := some d.created } := by
  obtain ⟨hinv, htest, rfl⟩ := h
  exact ⟨hinv.creates rfl rfl rfl (Parts.holds_newPacer hpacer _) hinv.backend hinv.frontend
    hinv.overlay, htest, rfl⟩

theorem At.newContext (h : d.At t ps) (hcontext : ps.context = none) {context : Context}
    (hid : context.id = d.created) :
    (d.newContext context).At t { ps with context := some context } := by
  obtain ⟨hinv, htest, rfl⟩ := h
  exact ⟨hinv.creates rfl hid rfl (Parts.holds_newContext hcontext _) hinv.backend hinv.frontend
    hinv.overlay, htest, rfl⟩

theorem At.newThread (h : d.At t ps) (hthread : ps.thread = none) :
    d.newThread.At t { ps with thread := some d.created } := by
  obtain ⟨hinv, htest, rfl⟩ := h
  exact ⟨hinv.creates rfl rfl rfl (Parts.holds_newThread hthread _) hinv.backend hinv.frontend
    hinv.overlay, htest, rfl⟩

/-- A frontend is handed to the overlay manager. -/
theorem At.register (h : d.At t ps) {f : Renderer} (hfrontend : ps.frontend = some f)
    (hoverlay : ps.overlay = none) (hmode : d.currentTestMode ≠ .testFrameOnly) :
    (d.setOverlayRenderer (some f)).At t { ps with overlay := some f } := by
  obtain ⟨hinv, htest, rfl⟩ := h
  have hf : d.parts.Holds (.renderer f) := .inr hfrontend
  have hholds := Parts.holds_register hoverlay f
  have hact : (Act.setOverlayRenderer d.overlayRenderer (some f)).lifeActs =
      [.uses (.renderer f), .creates (.overlay f)] := by
    rw [show d.overlayRenderer = none from hoverlay]
    rfl
  refine ⟨⟨hinv.tracked.next rfl fun alive halive => ?_, fun x hx => ?_, hinv.backend,
    hinv.frontend, fun heq => absurd heq hmode⟩, htest, rfl⟩
  · rw [hact]
    refine ⟨⟨(halive _).mpr hf, fun hmem => ?_, trivial⟩, fun x => ?_⟩
    · cases hoverlay.symm.trans ((halive _).mp hmem)
    · exact Finset.mem_insert.trans ((or_congr_right (halive x)).trans (hholds x).symm)
  · rcases (hholds x).mp hx with rfl | hx
    · exact show f.id < d.created from hinv.fresh (.renderer f) hf
    · exact hinv.fresh x hx

/-! ### Parts that are deleted -/

theorem At.deleteThread (h : d.At t ps) : d.deleteThread.At t { ps with thread := none } := by
  obtain ⟨hinv, htest, rfl⟩ := h
  unfold Decoder.deleteThread
  cases hthread : d.decoderThread with
  | none => exact ⟨hinv, htest, by simp [Decoder.parts, hthread]⟩
  | some thread =>
      exact ⟨hinv.deletes rfl rfl hthread (fun y _ => Parts.rank_le_four y) rfl
        (Parts.holds_deleteThread (p := d.parts) hthread) hinv.backend hinv.frontend hinv.overlay,
        htest, rfl⟩

theorem At.deletePacer (h : d.At t ps) (hthread : ps.thread = none) :
    d.deletePacer.At t { ps with pacer := none } := by
  obtain ⟨hinv, htest, rfl⟩ := h
  unfold Decoder.deletePacer
  cases hpacer : d.pacer with
  | none => exact ⟨hinv, htest, by simp [Decoder.parts, hpacer]⟩
  | some pacer =>
      exact ⟨hinv.deletes rfl rfl hpacer (fun y hy => hy.rank_le_three hthread) rfl
        (Parts.holds_deletePacer (p := d.parts) hpacer) hinv.backend hinv.frontend hinv.overlay,
        htest, rfl⟩

theorem At.freeContext (h : d.At t ps) (hthread : ps.thread = none) (hpacer : ps.pacer = none) :
    d.freeContext.At t { ps with context := none } := by
  obtain ⟨hinv, htest, rfl⟩ := h
  unfold Decoder.freeContext
  cases hcontext : d.videoDecoderCtx with
  | none => exact ⟨hinv, htest, by simp [Decoder.parts, hcontext]⟩
  | some context =>
      exact ⟨hinv.deletes rfl rfl hcontext (fun y hy => hy.rank_le_two hthread hpacer) rfl
        (Parts.holds_freeContext (p := d.parts) hcontext) hinv.backend hinv.frontend hinv.overlay,
        htest, rfl⟩

theorem At.unregister (h : d.At t ps) (hthread : ps.thread = none) (hpacer : ps.pacer = none) :
    d.unregister.At t { ps with overlay := none } := by
  obtain ⟨hinv, htest, rfl⟩ := h
  unfold Decoder.unregister
  split
  · next hmode => exact ⟨hinv, htest, by simp [Decoder.parts, hinv.overlay hmode]⟩
  · cases hoverlay : d.overlayRenderer with
    | none =>
        have hparts : (d.setOverlayRenderer none).parts = d.parts := by
          simp [Decoder.parts, setOverlayRenderer, did, hoverlay]
        have hact : (Act.setOverlayRenderer d.overlayRenderer none).lifeActs =
            ([] : List Part).map .uses := by rw [hoverlay]; rfl
        refine ⟨⟨hinv.tracked.uses rfl hact (List.forall_mem_nil _)
          fun x => by rw [hparts], fun x hx => ?_, hinv.backend, hinv.frontend, fun _ => rfl⟩,
          htest, rfl⟩
        rw [hparts] at hx
        exact hinv.fresh x hx
    | some r =>
        have hact : (Act.setOverlayRenderer d.overlayRenderer none).lifeActs =
            [.deletes (.overlay r)] := by rw [hoverlay]; rfl
        exact ⟨hinv.deletes rfl hact hoverlay (fun y hy => hy.rank_le_two hthread hpacer) rfl
          (Parts.holds_unregister (p := d.parts) hoverlay) hinv.backend hinv.frontend
          fun _ => rfl, htest, rfl⟩

theorem At.deleteFrontend (h : d.At t ps) (hrenderers : ps.OnlyRenderers) :
    d.deleteFrontend.At t { ps with frontend := none } := by
  obtain ⟨hinv, htest, rfl⟩ := h
  unfold Decoder.deleteFrontend
  cases hfrontend : d.frontendRenderer with
  | none => exact ⟨hinv, htest, by simp [Decoder.parts, hfrontend]⟩
  | some frontend =>
      dsimp only
      split
      · next hbackend =>
          -- The frontend is the backend too: one name for it is lost, and no part.
          have hholds (x : Part) :
              { d with frontendRenderer := none : Decoder }.parts.Holds x ↔ d.parts.Holds x := by
            cases x <;> simp [Parts.Holds, Decoder.parts, hfrontend, hbackend]
          exact ⟨⟨⟨hinv.tracked.ordered, fun x => (hinv.tracked.alive x).trans (hholds x).symm⟩,
            fun x hx => hinv.fresh x ((hholds x).mp hx), hinv.backend, (fun _ h => by cases h),
            hinv.overlay⟩, htest, rfl⟩
      · next hbackend =>
          have hisFrontend := (hinv.frontend frontend hfrontend).resolve_right hbackend
          refine ⟨hinv.deletes rfl rfl (.inr hfrontend) (fun y hy => ?_) rfl
            (Parts.holds_deleteFrontend (p := d.parts) hfrontend hbackend) hinv.backend
            (fun _ h => by cases h) hinv.overlay, htest, rfl⟩
          obtain ⟨r, rfl⟩ := hrenderers.exists_renderer hy
          rw [Part.rank, Part.rank, if_pos hisFrontend]
          split <;> omega

theorem At.deleteBackend (h : d.At t ps) (hrenderers : ps.OnlyRenderers)
    (hfrontend : ps.frontend = none) : d.deleteBackend.At t { ps with backend := none } := by
  obtain ⟨hinv, htest, rfl⟩ := h
  unfold Decoder.deleteBackend
  cases hbackend : d.backendRenderer with
  | none => exact ⟨hinv, htest, by simp [Decoder.parts, hbackend]⟩
  | some backend =>
      refine ⟨hinv.deletes rfl rfl (.inl hbackend) (fun y hy => ?_) rfl
        (Parts.holds_deleteBackend (p := d.parts) hbackend hfrontend) (fun _ h => by cases h)
        (fun r hr => ?_) hinv.overlay, htest, rfl⟩
      · obtain ⟨r, rfl⟩ := hrenderers.exists_renderer hy
        rcases hy with hr | hr
        · obtain rfl := Option.some.inj (hbackend.symm.trans hr)
          exact Nat.le_refl _
        · cases hfrontend.symm.trans hr
      · cases hfrontend.symm.trans hr

/-- **`reset`** deletes whatever there is. -/
theorem At.reset (h : d.At t ps) : d.reset.At t .empty := by
  have hrenderers := ((h.deleteThread.deletePacer rfl).freeContext rfl rfl).unregister rfl rfl
  exact (hrenderers.deleteFrontend ⟨rfl, rfl, rfl, rfl⟩).deleteBackend ⟨rfl, rfl, rfl, rfl⟩ rfl

theorem at_new (t : Bool) : (new t).At t .empty where
  inv :=
    { tracked := ⟨trivial, fun x => by cases x <;> simp [Parts.Holds, parts, new, lifeActs]⟩
      fresh := fun x hx => by cases x <;> simp [Parts.Holds, parts, new] at hx
      backend := fun _ h => by cases h
      frontend := fun _ h => by cases h
      overlay := fun _ => rfl }
  testOnly := rfl
  parts := rfl

/-- Other fields may change. -/
theorem At.other (h : d.At t ps) (hlog : d'.log = d.log) (hparts : d'.parts = d.parts)
    (hcreated : d'.created = d.created) (htest : d'.testOnly = d.testOnly)
    (hoverlay : d'.currentTestMode = .testFrameOnly → d'.overlayRenderer = none) :
    d'.At t ps where
  inv :=
    { tracked := ⟨hlog ▸ h.inv.tracked.ordered, by rw [hlog, hparts]; exact h.inv.tracked.alive⟩
      fresh := by rw [hparts, hcreated]; exact h.inv.fresh
      backend := by
        have hbackend : d'.backendRenderer = _ := congrArg Parts.backend hparts
        rw [hbackend]
        exact h.inv.backend
      frontend := by
        have hbackend : d'.backendRenderer = _ := congrArg Parts.backend hparts
        have hfrontend : d'.frontendRenderer = _ := congrArg Parts.frontend hparts
        rw [hbackend, hfrontend]
        exact h.inv.frontend
      overlay := hoverlay }
  testOnly := htest.trans h.testOnly
  parts := hparts.trans h.parts

end Decoder

/-! ### Calls -/

section Programs

open Decoder

variable {out : Outside} {m : Machine} {t : Bool} {ps : Parts} {P : Decoder → Prop}
  {E : InitFailureReason → Decoder → Prop} {params : DecoderParameters} {b : Renderer}

/-- A question about parts that are there. -/
theorem at_require {question : Question} (hparts : ∀ x ∈ question.parts, ps.Holds x) :
    Attempt (Decoder.At t ps) (require out question) fun _ => Decoder.At t ps := by
  have hkept (d : Decoder) (hd : d.At t ps) (answer : Bool) :
      (d.did (.ask question answer)).At t ps :=
    hd.uses rfl fun x hx => hd.parts ▸ hparts x hx
  exact triple_require (fun d hd => hkept d hd true) fun d hd => hkept d hd false

theorem at_ask {question : Question} (hparts : ∀ x ∈ question.parts, ps.Holds x) :
    Triple (Decoder.At t ps) (ask out question) (fun _ => Decoder.At t ps) E :=
  triple_ask fun _ hd _ => hd.uses rfl fun x hx => hd.parts ▸ hparts x hx

theorem at_getInitFailureReason {r : Renderer} (hr : ps.Holds (.renderer r)) :
    Triple (Decoder.At t ps) (getInitFailureReason out r) (fun _ => Decoder.At t ps) E :=
  fun _ hd => hd.uses rfl (List.forall_mem_singleton.mpr (hd.parts ▸ hr))

theorem at_receiveFrame {context : Context} (hcontext : ps.Holds (.context context)) :
    Triple (Decoder.At t ps) (receiveFrame out context) (fun _ => Decoder.At t ps) E :=
  fun _ hd => hd.uses rfl (List.forall_mem_singleton.mpr (hd.parts ▸ hcontext))

/-! ### Renderers -/

theorem at_initializeRendererInternal {r : Renderer} (hr : ps.Holds (.renderer r)) :
    Attempt (Decoder.At t ps) (initializeRendererInternal out r params)
      fun _ => Decoder.At t ps := by
  refine Triple.bind (R := fun _ => Decoder.At t ps) (triple_get fun d hd => hd) fun d => ?_
  split
  · exact attempt_throw
  · refine Triple.bind (R := fun _ => Decoder.At t ps)
      (at_ask (List.forall_mem_singleton.mpr hr)) fun ok => ?_
    split
    · exact triple_pure fun d hd => hd
    · refine Triple.bind (at_getInitFailureReason hr) fun reason => ?_
      refine Triple.bind (R := fun _ => Decoder.At t ps) (triple_modify fun d hd => ?_) fun _ =>
        attempt_throw
      split
      · exact hd.other rfl rfl rfl rfl hd.inv.overlay
      · exact hd

/-- A backend, and no other part. -/
def Parts.bare (b : Renderer) : Parts := ⟨some b, none, none, none, none, none⟩

/-- A backend and a frontend. -/
def Parts.pair (b f : Renderer) : Parts := ⟨some b, some f, none, none, none, none⟩

/-- A backend that draws is the frontend too. -/
theorem Decoder.At.share {d : Decoder} (h : d.At t (.bare b)) :
    { d with frontendRenderer := some b : Decoder }.At t (.pair b b) := by
  obtain ⟨hinv, htest, hparts⟩ := h
  have hbackend : d.backendRenderer = some b := congrArg Parts.backend hparts
  have hholds (x : Part) : (Parts.pair b b).Holds x ↔ d.parts.Holds x := by
    rw [hparts]
    cases x <;> simp [Parts.Holds, Parts.pair, Parts.bare]
  have hpair : { d with frontendRenderer := some b : Decoder }.parts = .pair b b := by
    rw [Parts.bare, Decoder.parts] at hparts
    simp_all [Decoder.parts, Parts.pair]
  refine ⟨⟨⟨hinv.tracked.ordered, fun x => ?_⟩, fun x hx => ?_, hinv.backend, ?_, hinv.overlay⟩,
    htest, hpair⟩
  · rw [hpair, hholds]
    exact hinv.tracked.alive x
  · rw [hpair, hholds] at hx
    exact hinv.fresh x hx
  · rintro r ⟨⟩
    exact .inr hbackend

/-- There is a backend for `reset`. -/
def Decoder.Broken (t : Bool) (d : Decoder) : Prop := ∃ ps b, ps.backend = some b ∧ d.At t ps

theorem Decoder.At.broken {d : Decoder} (h : d.At t ps) (hb : ps.backend = some b) : d.Broken t :=
  ⟨ps, b, hb, h⟩

theorem at_tryFrontend {kind : RendererKind} {hdr : Bool} :
    Attempt (Decoder.At t (.bare b)) (tryFrontend out kind params hdr)
      fun _ d => ∃ f, d.At t (.pair b f) := by
  refine Triple.bind (R := fun _ d => ∃ f, d.At t (.pair b f))
    (triple_modify fun d hd => ⟨_, hd.newFrontend rfl kind⟩) fun _ => triple_exists fun f => ?_
  refine Triple.tryCatch (R := fun _ => Decoder.At t (.pair b f)) ?_ fun e => ?_
  · refine triple_withPart (fun d hd => congrArg Parts.frontend hd.parts) ?_
    refine Triple.bind (at_initializeRendererInternal (.inr rfl)) fun _ => ?_
    refine triple_onlyIf (fun _ => ?_) fun d _ hd => ⟨f, hd⟩
    exact (at_require (List.forall_mem_singleton.mpr (.inr rfl))).mono (fun _ hd => hd)
      (fun _ d hd => ⟨f, hd⟩) fun _ _ hd => hd
  · refine Triple.bind (R := fun _ => Decoder.At t (.bare b)) (triple_modify fun d hd => ?_)
      fun _ => attempt_throw
    exact hd.deleteFrontend ⟨rfl, rfl, rfl, rfl⟩

/-- A frontend that is asked for first. -/
theorem at_requireThenTry {which : RendererAttribute} {kind : RendererKind} {hdr : Bool} :
    Attempt (Decoder.At t (.bare b))
      (do require out (.hasAttribute b which)
          tryFrontend out kind params hdr)
      fun _ d => ∃ f, d.At t (.pair b f) :=
  Triple.bind (at_require (List.forall_mem_singleton.mpr (.inl rfl))) fun _ => at_tryFrontend

theorem at_alternateFrontends :
    Attempt (Decoder.At t (.bare b)) (firstOf .unknown (alternateFrontends out m b params))
      fun _ d => ∃ f, d.At t (.pair b f) := by
  refine attempt_firstOf fun x hx => ?_
  rcases List.mem_append.mp hx with hx | hx
  · split at hx
    · rcases List.mem_append.mp hx with hx | hx
      · rcases List.mem_append.mp hx with hx | hx
        · exact of_mem_ite hx ▸ at_tryFrontend
        · exact of_mem_ite hx ▸ at_requireThenTry
      · exact of_mem_ite hx ▸ at_tryFrontend
    · exact of_mem_ite hx ▸ at_tryFrontend
  · exact of_mem_ite hx ▸ at_requireThenTry

theorem at_indirectFrontends :
    Triple (Decoder.At t (.bare b)) (firstOf .unknown (indirectFrontends out m b params))
      (fun _ d => ∃ f, d.At t (.pair b f)) fun _ => Decoder.Broken t := by
  refine triple_firstOf_append (R := Decoder.At t (.bare b)) (attempt_firstOf fun x hx => ?_) ?_
  · rcases List.mem_append.mp hx with hx | hx
    · exact of_mem_ite hx ▸ at_tryFrontend
    · exact of_mem_ite hx ▸ at_requireThenTry
  · refine Triple.tryCatch (R := fun _ d => d.Broken t) ?_ fun e =>
      Triple.bind (R := fun _ => Decoder.Broken t) (triple_pure fun _ hd => hd) fun _ =>
        attempt_throw
    refine Triple.bind (R := fun _ d => ∃ f, d.At t (.pair b f))
      (triple_modify fun d hd => ⟨_, hd.newFrontend rfl .sdl⟩) fun _ => triple_exists fun f => ?_
    refine triple_withPart (fun d hd => congrArg Parts.frontend hd.parts) ?_
    exact (at_initializeRendererInternal (.inr rfl)).mono (fun _ hd => hd) (fun _ d hd => ⟨f, hd⟩)
      fun _ d hd => hd.broken rfl

theorem at_createFrontendRenderer {useAlternateFrontend : Bool} :
    Triple (Decoder.At t (.bare b)) (createFrontendRenderer out m params useAlternateFrontend)
      (fun _ d => ∃ f, d.At t (.pair b f)) fun _ => Decoder.Broken t := by
  refine triple_withPart (fun d hd => congrArg Parts.backend hd.parts) ?_
  split
  · exact at_alternateFrontends.mono (fun _ hd => hd) (fun _ _ hd => hd) fun _ d hd => hd.broken rfl
  · refine Triple.bind (R := fun _ => Decoder.At t (.bare b))
      (at_ask (List.forall_mem_singleton.mpr (.inl rfl))) fun direct => ?_
    split
    · exact triple_modify fun d hd => ⟨b, hd.share⟩
    · exact at_indirectFrontends

/-! ### `completeInitialization` -/

theorem at_enablePacing {f : Renderer} (hf : ps.Holds (.renderer f)) :
    Triple (Decoder.At t ps) (enablePacing out f params) (fun _ => Decoder.At t ps) E := by
  unfold enablePacing
  split
  · exact triple_pure fun d hd => hd
  · split
    · exact at_ask (List.forall_mem_singleton.mpr hf)
    · exact triple_pure fun d hd => hd

theorem at_needsSpsFixup (hb : ps.Holds (.renderer b)) :
    Triple (Decoder.At t ps) (needsSpsFixup out b params) (fun _ => Decoder.At t ps) E := by
  unfold needsSpsFixup
  split
  · exact Triple.bind (at_ask (List.forall_mem_singleton.mpr hb)) fun invalidates =>
      triple_pure fun d hd => hd
  · exact triple_pure fun d hd => hd

theorem at_createPacer {f : Renderer} :
    Triple (Decoder.At t (.pair b f)) (createPacer out params)
      (fun _ d => ∃ n, d.At t ⟨some b, some f, none, none, some n, none⟩)
      fun _ => Decoder.Broken t := by
  refine triple_withPart (fun d hd => congrArg Parts.frontend hd.parts) ?_
  refine Triple.bind (R := fun _ d => ∃ n, d.At t ⟨some b, some f, none, none, some n, none⟩)
    (triple_modify fun d hd => ⟨_, hd.newPacer rfl⟩) fun _ => triple_exists fun n => ?_
  refine triple_withPart (fun d hd => congrArg Parts.pacer hd.parts) ?_
  refine Triple.bind (at_enablePacing (.inr rfl)) fun pacing => ?_
  have hparts : Parts.Holds ⟨some b, some f, none, none, some n, none⟩ (.renderer f) := .inr rfl
  refine (at_require ?_).mono (fun _ hd => hd) (fun _ d hd => ⟨n, hd⟩) fun _ d hd => hd.broken rfl
  exact List.forall_mem_cons.mpr ⟨rfl, List.forall_mem_singleton.mpr hparts⟩

/-- A failed question leaves the backend to `reset`. -/
theorem at_requirePart {question : Question} (hb : ps.backend = some b)
    (hparts : ∀ x ∈ question.parts, ps.Holds x) :
    Triple (Decoder.At t ps) (require out question) (fun _ => Decoder.At t ps)
      fun _ => Decoder.Broken t :=
  (at_require hparts).mono (fun _ hd => hd) (fun _ _ hd => hd) fun _ _ hd => hd.broken hb

theorem at_openContext {f : Renderer} {n : Option Nat} {codec : AVCodec}
    {requiredFormat : Option AVPixelFormat} :
    Triple (Decoder.At t ⟨some b, some f, none, none, n, none⟩)
      (openContext out m codec requiredFormat params)
      (fun _ d => ∃ c, d.At t ⟨some b, some f, none, some c, n, none⟩)
      fun _ => Decoder.Broken t := by
  refine triple_withPart (fun d hd => congrArg Parts.backend hd.parts) ?_
  refine triple_withPart (fun d hd => congrArg Parts.frontend hd.parts) ?_
  refine Triple.bind (at_requirePart rfl (List.forall_mem_nil _)) fun _ => ?_
  refine Triple.bind (R := fun _ d => ∃ c, d.At t ⟨some b, some f, none, some c, n, none⟩)
    (triple_modify fun d hd => ⟨_, hd.newContext rfl rfl⟩) fun _ => triple_exists fun c => ?_
  refine triple_withPart (fun d hd => congrArg Parts.context hd.parts) ?_
  have hcontext : Parts.Holds ⟨some b, some f, none, some c, n, none⟩ (.context c) := rfl
  refine Triple.bind (at_requirePart rfl ?_) fun _ => ?_
  · exact List.forall_mem_cons.mpr ⟨.inl rfl, List.forall_mem_singleton.mpr hcontext⟩
  · refine Triple.bind (triple_get fun d hd => hd) fun d => ?_
    exact (at_requirePart rfl fun x hx => List.mem_singleton.mp hx ▸ hcontext).mono
      (fun _ hd => hd) (fun _ d hd => ⟨c, hd⟩) fun _ _ hd => hd

theorem at_receiveTestFrame {c : Context} {testFrame : VideoFormat} (hb : ps.backend = some b)
    (hc : ps.context = some c) (retries : Nat) :
    Triple (Decoder.At t ps) (receiveTestFrame out c testFrame retries)
      (fun _ => Decoder.At t ps) fun _ => Decoder.Broken t := by
  induction retries with
  | zero => exact triple_throw fun d hd => hd.broken hb
  | succ retries ih =>
      refine Triple.bind (at_requirePart hb (List.forall_mem_singleton.mpr hc)) fun _ => ?_
      refine Triple.bind (at_receiveFrame hc) fun result => ?_
      cases result with
      | frame => exact triple_pure fun d hd => hd
      | again => exact ih
      | error => exact triple_throw fun d hd => hd.broken hb

theorem at_decodeTestFrame {f : Renderer} {c : Context} (hb : ps.backend = some b)
    (hf : ps.frontend = some f) (hc : ps.context = some c) :
    Triple (Decoder.At t ps) (decodeTestFrame out params) (fun _ => Decoder.At t ps)
      fun _ => Decoder.Broken t := by
  refine triple_withPart (fun d hd => (congrArg Parts.context hd.parts).trans hc) ?_
  refine triple_withPart (fun d hd => (congrArg Parts.frontend hd.parts).trans hf) ?_
  refine Triple.bind (at_requirePart hb (List.forall_mem_nil _)) fun _ => ?_
  refine Triple.bind (at_receiveTestFrame hb hc 5) fun _ => ?_
  exact at_requirePart hb (List.forall_mem_singleton.mpr (.inr hf))

/-! #### Rendering -/

/-- The test mode is kept. -/
theorem keeps_mode {α : Type} {x : Setup α} (h : Frame Decoder.inMode x) :
    Keeps Decoder.currentTestMode x :=
  (h.of_view Prod.fst).keeps

theorem at_startRendering {f : Renderer} {c : Context} {n : Nat} {mode : TestMode}
    (hmode : mode ≠ .testFrameOnly) :
    Triple
      (fun d => d.At t ⟨some b, some f, none, some c, some n, none⟩ ∧ d.currentTestMode = mode)
      (startRendering out params)
      (fun _ d => ∃ k, d.At t ⟨some b, some f, some f, some c, some n, some k⟩)
      fun _ => Decoder.Broken t := by
  refine triple_withPart (fun d hd => congrArg Parts.backend hd.1.parts) ?_
  refine triple_withPart (fun d hd => congrArg Parts.frontend hd.1.parts) ?_
  have hkept : Keeps Decoder.currentTestMode (needsSpsFixup out b params) :=
    keeps_mode ((frame_needsSpsFixup b).of_view Prod.snd)
  refine Triple.bind (((at_needsSpsFixup (.inl rfl)).keeps hkept mode).mono
    (fun _ hd => hd) (fun _ _ hd => hd) fun _ _ hd => hd.1) fun fixup => ?_
  refine Triple.bind (R := fun _ => Decoder.At t ⟨some b, some f, some f, some c, some n, none⟩)
    (triple_modify fun d hd => ?_) fun _ => ?_
  · have hfixup : { d with needsSpsFixup := fixup : Decoder }.At t _ :=
      hd.1.other rfl rfl rfl rfl hd.1.inv.overlay
    refine (hfixup.register rfl rfl (hd.2 ▸ hmode)).uses rfl (List.forall_mem_singleton.mpr ?_)
    exact .inr (congrArg Parts.frontend hd.1.parts)
  · refine Triple.bind (at_requirePart rfl (List.forall_mem_nil _)) fun _ => ?_
    exact triple_modify fun d hd => ⟨_, hd.newThread rfl⟩

/-- What a decoder has after `completeInitialization`. -/
def Parts.Complete (rendering : Bool) (ps : Parts) : Prop :=
  ∃ b f c, if rendering then ∃ n k, ps = ⟨some b, some f, some f, some c, some n, some k⟩
    else ps = ⟨some b, some f, none, some c, none, none⟩

/-- The decoder is complete. -/
def Decoder.Completed (t rendering : Bool) (d : Decoder) : Prop :=
  ∃ ps : Parts, ps.Complete rendering ∧ d.At t ps

theorem at_completeInitialization {codec : AVCodec} {requiredFormat : Option AVPixelFormat}
    {testMode : TestMode} {useAlternateFrontend : Bool} :
    Triple (Decoder.At t (.bare b))
      (completeInitialization out m codec requiredFormat params testMode useAlternateFrontend)
      (fun _ => Decoder.Completed t (testMode ≠ .testFrameOnly)) fun _ => Decoder.Broken t := by
  refine Triple.bind at_createFrontendRenderer fun _ => triple_exists fun f => ?_
  refine Triple.bind (R := fun _ d => d.At t (.pair b f) ∧ d.currentTestMode = testMode)
    (triple_modify fun d hd => ⟨?_, rfl⟩) fun _ => ?_
  · have hoverlay : d.overlayRenderer = none := congrArg Parts.overlay hd.parts
    exact hd.other rfl rfl rfl rfl fun _ => hoverlay
  by_cases hmode : testMode = .testFrameOnly
  · -- Without a pacer and without rendering.
    subst hmode
    refine Triple.bind (R := fun _ => Decoder.At t (.pair b f))
      (triple_onlyIf (fun h => absurd h (by decide)) fun d _ hd => hd.1) fun _ => ?_
    refine Triple.bind at_openContext fun _ => triple_exists fun c => ?_
    refine Triple.bind (R := fun _ => Decoder.At t ⟨some b, some f, none, some c, none, none⟩)
      (triple_onlyIf (fun _ => at_decodeTestFrame rfl rfl rfl) fun d h => absurd h (by decide))
      fun _ => ?_
    exact triple_onlyIf (fun h => absurd h (by decide)) fun d _ hd => ⟨_, ⟨b, f, c, rfl⟩, hd⟩
  · have hrendering : decide (testMode ≠ .testFrameOnly) = true := decide_eq_true hmode
    have hskip (d : Decoder) (Q : Prop) (h : decide (testMode ≠ .testFrameOnly) = false) : Q :=
      absurd (hrendering.symm.trans h) (by decide)
    refine Triple.bind
      (R := fun _ d => ∃ n, d.At t ⟨some b, some f, none, none, some n, none⟩ ∧
        d.currentTestMode = testMode)
      (triple_onlyIf (fun _ => ?_) fun d h _ => hskip d _ h) fun _ => triple_exists fun n => ?_
    · have hkept : Keeps Decoder.currentTestMode (createPacer out params) :=
        keeps_mode (frame_createPacer.of_view Prod.snd)
      exact (at_createPacer.keeps hkept testMode).mono (fun _ hd => hd)
        (fun _ _ ⟨⟨n, hd⟩, hdmode⟩ => ⟨n, hd, hdmode⟩) fun _ _ hd => hd.1
    · refine Triple.bind
        (R := fun _ d => ∃ c, d.At t ⟨some b, some f, none, some c, some n, none⟩ ∧
          d.currentTestMode = testMode)
        ((at_openContext.keeps (keeps_mode (frame_openContext codec requiredFormat)) testMode).mono
          (fun _ hd => hd)
          (fun _ _ ⟨⟨c, hd⟩, hdmode⟩ => ⟨c, hd, hdmode⟩) fun _ _ hd => hd.1)
        fun _ => triple_exists fun c => ?_
      refine Triple.bind
        (R := fun _ d => d.At t ⟨some b, some f, none, some c, some n, none⟩ ∧
          d.currentTestMode = testMode)
        (triple_onlyIf (fun _ => ?_) fun _ _ hd => hd) fun _ => ?_
      · have hkept : Keeps Decoder.currentTestMode (decodeTestFrame out params) :=
          keeps_mode (frame_decodeTestFrame.of_view Prod.snd)
        exact ((at_decodeTestFrame rfl rfl rfl).keeps hkept testMode).mono
          (fun _ hd => hd) (fun _ _ hd => hd) fun _ _ hd => hd.1
      · refine triple_onlyIf (fun _ => ?_) fun d h _ => hskip d _ h
        exact (at_startRendering hmode).mono (fun _ hd => hd)
          (fun _ _ ⟨k, hd⟩ => ⟨_, ⟨b, f, c, by rw [hrendering]; exact ⟨n, k, rfl⟩⟩, hd⟩)
          fun _ _ hd => hd

/-! ### Candidates -/

theorem at_initializeBackend :
    Attempt (Decoder.At t (.bare b)) (initializeBackend out params)
      fun _ => Decoder.At t (.bare b) :=
  triple_withPart (fun _ hd => congrArg Parts.backend hd.parts)
    (at_initializeRendererInternal (.inl rfl))

theorem triple_newBackend {kind : RendererKind} :
    Triple (Decoder.At t .empty) (modify (Decoder.newBackend kind) : Setup PUnit)
      (fun _ d => ∃ b, d.At t (.bare b)) E :=
  triple_modify fun _ hd => ⟨_, hd.newBackend rfl rfl kind⟩

theorem triple_reset {P : Decoder → Prop} (hP : ∀ d, P d → ∃ ps, d.At t ps) :
    Triple P (modify Decoder.reset : Setup PUnit) (fun _ => Decoder.At t .empty) E :=
  triple_modify fun _ hd => (hP _ hd).elim fun _ h => h.reset

theorem at_testThenSetUp {c : Candidate} {kind : RendererKind} {useAlternateFrontend : Bool} :
    Triple (Decoder.At t (.bare b)) (testThenSetUp out m c kind params useAlternateFrontend)
      (fun _ => Decoder.Completed t (!t)) fun _ => Decoder.Broken t := by
  refine Triple.bind (R := fun d' d => d.At t (.bare b) ∧ d'.testOnly = t)
    (triple_get fun d hd => ⟨hd, hd.testOnly⟩) fun d' => triple_and ?_
  rintro rfl
  generalize isSeparateTestDecoderRequired m c.codec = separate
  have hrendering : decide ((if d'.testOnly || separate then TestMode.testFrameOnly
      else .testFrame) ≠ .testFrameOnly) = (!d'.testOnly && !separate) := by
    cases d'.testOnly <;> cases separate <;> rfl
  refine Triple.bind at_completeInitialization
    fun _ => triple_onlyIf (fun hagain => ?_) fun d hagain hd => ?_
  · -- What the test has created is deleted before the backend is created again.
    obtain ⟨htest, -⟩ := Bool.and_eq_true_iff.mp hagain
    refine Triple.bind (triple_reset fun d ⟨ps, _, hd⟩ => ⟨ps, hd⟩) fun _ => ?_
    refine Triple.bind triple_newBackend fun _ => triple_exists fun b => ?_
    refine Triple.bind (at_initializeBackend.mono (fun _ hd => hd) (fun _ _ hd => hd)
      fun _ _ hd => hd.broken rfl) fun _ => ?_
    rw [htest]
    exact at_completeInitialization
  · rw [hrendering] at hd
    have hsame : (!d'.testOnly && !separate) = !d'.testOnly := by
      revert hagain
      cases d'.testOnly <;> cases separate <;> decide
    exact hsame ▸ hd

theorem at_backendFailureReason :
    Triple (Decoder.Broken t) (withPart Decoder.backendRenderer (getInitFailureReason out))
      (fun _ => Decoder.Broken t) E :=
  triple_exists fun ps => triple_exists fun b d ⟨hb, hd⟩ => by
    have hreason : Triple (Decoder.At t ps)
        (withPart Decoder.backendRenderer (getInitFailureReason out))
        (fun _ => Decoder.Broken t) E :=
      triple_withPart (fun d hd => (congrArg Parts.backend hd.parts).trans hb)
        ((at_getInitFailureReason (.inl hb)).mono (fun _ hd => hd) (fun _ _ hd => hd.broken hb)
          fun _ _ hd => hd)
    exact hreason d hd

theorem at_tryFrontends {c : Candidate} (modes : List Bool) (reason : InitFailureReason) :
    Attempt (Decoder.At t .empty) (tryFrontends out m c params modes reason)
      fun _ => Decoder.Completed t (!t) := by
  induction modes generalizing reason with
  | nil => exact attempt_throw
  | cons useAlternateFrontend modes ih =>
      unfold tryFrontends
      split
      · exact attempt_throw
      · next kind _ =>
          refine Triple.bind triple_newBackend fun _ => triple_exists fun b => ?_
          refine Triple.bind (R := fun _ => Decoder.At t (.bare b)) ?_ fun initialized => ?_
          · refine at_initializeBackend.succeeds.mono (fun _ hd => hd) (fun ok d hd => ?_)
              fun _ _ hd => hd
            cases ok with
            | true => exact hd
            | false => exact hd.elim fun _ hd => hd
          · have hsetUp : Triple (Decoder.At t (.bare b))
                (do ensure initialized .unknown
                    testThenSetUp out m c kind params useAlternateFrontend)
                (fun _ => Decoder.Completed t (!t)) fun _ => Decoder.Broken t :=
              Triple.bind (triple_ensure (fun d _ hd => hd) fun d _ hd => hd.broken rfl) fun _ =>
                at_testThenSetUp
            refine Triple.bind hsetUp.succeeds fun works => ?_
            cases works with
            | true => exact triple_pure fun d hd => hd
            | false =>
                -- However far it got, there is a backend to ask, and `reset` deletes the rest.
                refine Triple.bind (R := fun _ => Decoder.Broken t)
                  (at_backendFailureReason.mono (fun d hd => hd.elim fun _ hd => hd)
                    (fun _ _ hd => hd) fun _ _ hd => hd) fun reason => ?_
                refine Triple.bind (triple_reset fun d ⟨ps, _, _, hd⟩ => ⟨ps, hd⟩) fun _ => ?_
                split
                · exact ih reason
                · exact attempt_throw

theorem at_tryInitializeRenderer {c : Candidate} :
    Attempt (Decoder.At t .empty) (tryInitializeRenderer out m c params)
      fun _ => Decoder.Completed t (!t) := by
  refine Triple.bind (R := fun _ => Decoder.At t .empty)
    (triple_modify fun d hd => hd.other rfl rfl rfl rfl hd.inv.overlay) fun _ => ?_
  refine (at_tryFrontends (frontendModes m) .unknown).tryCatch fun reason => ?_
  refine Triple.bind (R := fun _ => Decoder.At t .empty) (triple_modify fun d hd => ?_) fun _ =>
    attempt_throw
  have hact : (Act.gaveUp c reason).lifeActs = ([] : List Part).map .uses := rfl
  exact hd.uses hact (List.forall_mem_nil _)

/-! ### Codecs -/

theorem at_stopWithoutHardware {reason : InitFailureReason} :
    Attempt (Decoder.At t .empty) (stopWithoutHardware reason) fun _ => Decoder.At t .empty :=
  triple_ensure (fun _ _ hd => hd) fun _ _ hd => hd

theorem at_tryHwConfigs {codec : AVCodec} (pass : Nat) :
    Attempt (Decoder.At t .empty) (tryHwConfigs out m codec params pass)
      fun _ => Decoder.Completed t (!t) :=
  attempt_search (fun _ _ => at_tryInitializeRenderer) fun _ _ => at_stopWithoutHardware

theorem at_tryHwAccelPasses {codec : AVCodec} :
    Attempt (Decoder.At t .empty) (tryHwAccelPasses out m codec params)
      fun _ => Decoder.Completed t (!t) :=
  attempt_search (fun pass _ => at_tryHwConfigs pass) fun _ _ => at_stopWithoutHardware

theorem at_tryPixelFormats {codec : AVCodec} :
    Attempt (Decoder.At t .empty) (tryPixelFormats out m codec params)
      fun _ => Decoder.Completed t (!t) :=
  attempt_search (fun _ _ => at_tryInitializeRenderer) fun _ _ => triple_pure fun _ hd => hd

theorem at_tryInitializeRendererForUnknownDecoder {decoder : Option AVCodec} {tryHwAccel : Bool} :
    Attempt (Decoder.At t .empty)
      (tryInitializeRendererForUnknownDecoder out m decoder params tryHwAccel)
      fun _ => Decoder.Completed t (!t) := by
  cases decoder with
  | none => exact attempt_throw
  | some codec =>
      cases tryHwAccel with
      | false => exact at_tryPixelFormats
      | true =>
          refine at_tryHwAccelPasses.tryCatch fun reason => ?_
          split
          · exact attempt_throw
          · exact at_tryPixelFormats

theorem at_noteTerminalFailure {codec : AVCodec} {reason : InitFailureReason} :
    Attempt (Decoder.At t .empty) (noteTerminalFailure codec reason)
      fun _ => Decoder.At t .empty := by
  refine triple_modify fun d hd => ?_
  split
  · exact hd.other rfl rfl rfl rfl hd.inv.overlay
  · exact hd

theorem at_tryInitializeHwAccelDecoder {pass : Nat} :
    Attempt (Decoder.At t .empty) (tryInitializeHwAccelDecoder out m params pass)
      fun _ => Decoder.Completed t (!t) := by
  refine attempt_search (fun codec _ => ?_) fun _ _ => at_noteTerminalFailure
  refine Triple.bind (R := fun _ => Decoder.At t .empty) (triple_get fun _ hd => hd) fun d => ?_
  split
  · exact at_tryHwConfigs pass
  · exact attempt_throw

theorem at_tryInitializeNonHwAccelDecoder {requireZeroCopyFormat : Bool} :
    Attempt (Decoder.At t .empty)
      (tryInitializeNonHwAccelDecoder out m params requireZeroCopyFormat)
      fun _ => Decoder.Completed t (!t) := by
  refine attempt_search (fun codec _ => ?_) fun _ _ => triple_pure fun _ hd => hd
  refine Triple.bind (R := fun _ => Decoder.At t .empty) (triple_get fun _ hd => hd) fun d => ?_
  split
  · exact at_tryInitializeRendererForUnknownDecoder
  · exact attempt_throw

/-! ### `initialize` -/

theorem at_tryHint {isFormat : Mask} {hint : String} :
    Attempt (Decoder.At t .empty) (tryHint out m params isFormat hint)
      fun _ => Decoder.Completed t (!t) := by
  unfold tryHint
  split
  · exact at_tryInitializeRendererForUnknownDecoder
  · exact attempt_throw

theorem at_tryHardware :
    Attempt (Decoder.At t .empty) (tryHardware out m params) fun _ => Decoder.Completed t (!t) := by
  refine Triple.bind (R := fun _ => Decoder.At t .empty)
    (triple_modify fun d hd => hd.other rfl rfl rfl rfl hd.inv.overlay) fun _ => ?_
  refine attempt_firstOf fun x hx => ?_
  fin_cases hx
  · exact at_tryInitializeHwAccelDecoder
  · exact at_tryInitializeNonHwAccelDecoder
  · exact at_tryInitializeNonHwAccelDecoder
  · exact at_tryInitializeHwAccelDecoder
  · exact at_tryInitializeHwAccelDecoder

theorem at_trySoftware :
    Attempt (Decoder.At t .empty) (trySoftware out m params) fun _ => Decoder.Completed t (!t) := by
  refine attempt_search (fun codec _ => ?_) fun _ _ => triple_pure fun _ hd => hd
  split
  · exact at_tryInitializeRendererForUnknownDecoder
  · exact attempt_throw

theorem at_initializeDecoder :
    Attempt (Decoder.At t .empty) (initializeDecoder out m params)
      fun _ => Decoder.Completed t (!t) := by
  refine attempt_firstOf fun x hx => ?_
  fin_cases hx
  · exact at_tryHint
  · exact at_tryHint
  · exact at_tryHint
  · split
    · exact at_tryHardware
    · exact attempt_throw
  · split
    · exact at_trySoftware
    · exact attempt_throw

theorem Decoder.At.living_eq {d : Decoder} (h : d.At t ps) {parts : Finset Part}
    (hparts : ∀ x, x ∈ parts ↔ ps.Holds x) : living ∅ (lifeActs d.log) = parts := by
  ext x
  rw [h.inv.tracked.alive, h.parts, hparts]

theorem Decoder.At.nothing_lives {d : Decoder} (h : d.At t .empty) :
    living ∅ (lifeActs d.log) = ∅ :=
  h.living_eq fun x => by cases x <;> simp [Parts.Holds, Parts.empty]

/-- **Whatever fails, the parts are deleted once and in order.** No part is used before it is
created or after it is deleted; the log of the destructor, which calls `reset`, goes on from the
log of `initialize`. A decoder that is only tested has no pacer, no thread and no place in the
overlay manager. -/
theorem parts_deleted_in_order (out : Outside) (m : Machine) (params : DecoderParameters)
    (testOnly : Bool) :
    let (result, d) := exec (initializeDecoder out m params) (Decoder.new testOnly)
    Orderly Part.rank ∅ (lifeActs d.log) ∧
      Orderly Part.rank ∅ (lifeActs d.reset.log) ∧
      living ∅ (lifeActs d.reset.log) = ∅ ∧
      match result with
      | .error _ => living ∅ (lifeActs d.log) = ∅
      | .ok _ => ∃ b f c,
          if testOnly then
            living ∅ (lifeActs d.log) = {.renderer b, .renderer f, .context c}
          else ∃ n k, living ∅ (lifeActs d.log) =
            {.renderer b, .renderer f, .overlay f, .context c, .pacer n, .thread k} := by
  have hattempt : Attempt (Decoder.At testOnly .empty) (initializeDecoder out m params)
      fun _ => Decoder.Completed testOnly (!testOnly) := at_initializeDecoder
  have hends := hattempt (Decoder.new testOnly) (at_new testOnly)
  rcases hrun : exec (initializeDecoder out m params) (Decoder.new testOnly) with ⟨result, d⟩
  rw [hrun] at hends
  cases result with
  | error reason =>
      have hat : d.At testOnly .empty := hends
      exact ⟨hat.inv.tracked.ordered, hat.reset.inv.tracked.ordered, hat.reset.nothing_lives,
        hat.nothing_lives⟩
  | ok a =>
      obtain ⟨ps, ⟨b, f, c, hps⟩, hat⟩ := hends
      refine ⟨hat.inv.tracked.ordered, hat.reset.inv.tracked.ordered, hat.reset.nothing_lives,
        b, f, c, ?_⟩
      cases testOnly with
      | true =>
          obtain rfl : ps = _ := hps
          exact hat.living_eq fun x => by cases x <;> simp [Parts.Holds, eq_comm]
      | false =>
          obtain ⟨n, k, rfl⟩ : ∃ n k, ps = _ := hps
          exact ⟨n, k, hat.living_eq fun x => by cases x <;> simp [Parts.Holds, eq_comm]⟩

end Programs

end GilStreaming.Streaming.DecoderSetup
