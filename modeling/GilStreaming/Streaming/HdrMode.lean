import GilStreaming.Lib.Trace

/-!
# GilStreaming.Streaming.HdrMode

The decoder lock of a stream and the HDR switches of the host.

`clSetHdrMode` runs on a thread of moonlight-common-c and gives up where
`m_DecoderLock` is taken; `Session::exec` replaces the decoder on the main thread with the
lock held, and at the end of that reads the host's mode and applies it. Each step of either
is an event, so that every interleaving is a list of events. The host changes its mode and
the callback for the change is invoked in one event: the value that
`LiGetCurrentHostDisplayHdrMode` returns is the new one before the callback runs.

A switch is lost where its callback gives up on a holder that no longer looks at the
host's mode. `Covered` says that somebody will still leave the decoder in the mode of the
host; a step loses that exactly where it is not `Kept`.
-/

namespace GilStreaming.Streaming

open Trace

/-! ### The state -/

/-- How far the main thread has come with the lock held. -/
inductive MainPhase where
  /-- Recreating the decoder: the old one has not been deleted yet. -/
  | locked
  | destroyed
  | created
  /-- `chooseDecoder` has failed: the session is over once the lock is free. -/
  | failed
  /-- `LiGetCurrentHostDisplayHdrMode` has returned `mode`. -/
  | read (mode : Bool)
  | applied
  /-- `toggleFullscreen` and the end of `exec`, which only delete the decoder. -/
  | removing
  | removed
deriving DecidableEq, Repr

/-- Who holds `m_DecoderLock`, and how far it has come. -/
inductive Holder where
  | main (phase : MainPhase)
  /-- `clSetHdrMode(enabled)`, before or after `setHdrMode`. -/
  | callback (enabled applied : Bool)
  /-- `drSubmitDecodeUnit`. -/
  | submit
deriving DecidableEq, Repr

/-- What the threads of a stream share about the decoder. -/
structure DecoderState where
  /-- What `LiGetCurrentHostDisplayHdrMode` returns. -/
  hostMode : Bool
  /-- The arguments of the callbacks that were invoked and have not tried the lock yet. -/
  callbacks : List Bool
  /-- `m_DecoderLock`. -/
  decoderLock : Option Holder
  /-- `m_VideoDecoder`, with the mode that was applied to it last. -/
  videoDecoder : Option (Option Bool)
deriving DecidableEq, Repr

namespace DecoderState

/-- A stream that starts: the decoder is made by the first window event. -/
def initial (hostMode : Bool) : DecoderState := ⟨hostMode, [], none, none⟩

/-! ### The steps -/

inductive Event where
  /-- The host switches; moonlight-common-c stores the mode and invokes the callback. -/
  | hostSwitches (enabled : Bool)
  /-- The `i`-th of the invoked callbacks calls `SDL_TryLockMutex`. -/
  | callbackTries (i : Nat)
  | callbackApplies
  | callbackUnlocks
  /-- `SDL_LockMutex` on the main thread, to recreate the decoder or to delete it. -/
  | mainLocks (recreate : Bool)
  | mainDeletes
  /-- `chooseDecoder` returns. -/
  | mainChooses (success : Bool)
  | mainReads
  | mainApplies
  | mainUnlocks
  | submitTries
  | submitUnlocks
deriving DecidableEq, Repr

/-- `SDL_TryLockMutex` and `SDL_LockMutex`: the lock is granted where it is free. A call
of the latter returns only then. -/
def acquire (s : DecoderState) (holder : Holder) : DecoderState :=
  match s.decoderLock with
  | none => { s with decoderLock := some holder }
  | some _ => s

/-- `clSetHdrMode`, up to the lock. Where the lock is taken the callback is dropped. -/
def tryCallback (s : DecoderState) (i : Nat) : DecoderState :=
  match s.callbacks[i]? with
  | none => s
  | some enabled =>
      acquire { s with callbacks := s.callbacks.eraseIdx i } (.callback enabled false)

/-- `decoder->setHdrMode(mode)`, where there is a decoder. -/
def setHdrMode (decoder : Option (Option Bool)) (mode : Bool) : Option (Option Bool) :=
  decoder.map fun _ => some mode

/-- One step of the holder of the lock; an event that is not its next step changes nothing. -/
def stepHolder (s : DecoderState) : Holder → Event → DecoderState
  | .callback enabled false, .callbackApplies =>
      { s with
        videoDecoder := setHdrMode s.videoDecoder enabled
        decoderLock := some (.callback enabled true) }
  | .callback _ true, .callbackUnlocks => { s with decoderLock := none }
  | .main .locked, .mainDeletes =>
      { s with videoDecoder := none, decoderLock := some (.main .destroyed) }
  | .main .removing, .mainDeletes =>
      { s with videoDecoder := none, decoderLock := some (.main .removed) }
  | .main .destroyed, .mainChooses true =>
      { s with videoDecoder := some none, decoderLock := some (.main .created) }
  | .main .destroyed, .mainChooses false =>
      { s with videoDecoder := none, decoderLock := some (.main .failed) }
  | .main .created, .mainReads => { s with decoderLock := some (.main (.read s.hostMode)) }
  | .main (.read mode), .mainApplies =>
      { s with
        videoDecoder := setHdrMode s.videoDecoder mode
        decoderLock := some (.main .applied) }
  | .main .applied, .mainUnlocks => { s with decoderLock := none }
  | .main .failed, .mainUnlocks => { s with decoderLock := none }
  | .main .removed, .mainUnlocks => { s with decoderLock := none }
  | .submit, .submitUnlocks => { s with decoderLock := none }
  | _, _ => s

/-- One step of one of the threads. -/
def step (s : DecoderState) : Event → DecoderState
  | .hostSwitches enabled =>
      { s with hostMode := enabled, callbacks := s.callbacks ++ [enabled] }
  | .callbackTries i => s.tryCallback i
  | .mainLocks recreate => s.acquire (.main (if recreate then .locked else .removing))
  | .submitTries => s.acquire .submit
  | e =>
      match s.decoderLock with
      | none => s
      | some holder => s.stepHolder holder e

/-- No callback and no recreation is in progress. -/
def Quiet (s : DecoderState) : Prop :=
  s.callbacks = [] ∧ (s.decoderLock = none ∨ s.decoderLock = some .submit)

instance (s : DecoderState) : Decidable s.Quiet := inferInstanceAs (Decidable (_ ∧ _))

/-- The decoder, if there is one, is in the host's mode. -/
def Shows (s : DecoderState) : Prop := ∀ mode ∈ s.videoDecoder, mode = some s.hostMode

instance (s : DecoderState) : Decidable s.Shows :=
  inferInstanceAs (Decidable (∀ mode ∈ s.videoDecoder, mode = some s.hostMode))

/-! ### When a switch is not lost -/

/-- When `holder` gives the lock back, the decoder will be in the host's present mode. -/
def LeavesHostMode (s : DecoderState) : Holder → Prop
  | .main .locked | .main .destroyed | .main .created | .main .removing => True
  | .main (.read mode) | .callback mode false => mode = s.hostMode ∨ s.videoDecoder = none
  | .main .failed | .main .removed | .main .applied | .callback _ true | .submit => s.Shows

instance (s : DecoderState) : (holder : Holder) → Decidable (s.LeavesHostMode holder)
  | .main .locked | .main .destroyed | .main .created | .main .removing => isTrue trivial
  | .main (.read mode) | .callback mode false =>
      inferInstanceAs (Decidable (mode = s.hostMode ∨ s.videoDecoder = none))
  | .main .failed | .main .removed | .main .applied | .callback _ true | .submit =>
      inferInstanceAs (Decidable s.Shows)

/-- The condition on a step. A callback that takes the lock carries the host's present mode
(or there is no decoder), and a callback that finds the lock taken finds a holder that will
leave the decoder in that mode. Otherwise another callback with that mode is still to come. -/
def Kept (s : DecoderState) : Event → Prop
  | .callbackTries i =>
      ∀ enabled ∈ s.callbacks[i]?,
        s.LeavesHostMode (s.decoderLock.getD (.callback enabled false)) ∨
          s.hostMode ∈ s.callbacks.eraseIdx i
  | _ => True

instance (s : DecoderState) : (e : Event) → Decidable (s.Kept e)
  | .callbackTries i => inferInstanceAs (Decidable (∀ enabled ∈ s.callbacks[i]?, _ ∨ _))
  | .hostSwitches _ | .callbackApplies | .callbackUnlocks | .mainLocks _ | .mainDeletes
  | .mainChooses _ | .mainReads | .mainApplies | .mainUnlocks | .submitTries
  | .submitUnlocks => isTrue trivial

/-- Somebody will leave the decoder in the host's present mode: an invoked callback, or
whoever has the lock. Where nobody has it, the decoder is in that mode. -/
def Covered (s : DecoderState) : Prop :=
  s.hostMode ∈ s.callbacks ∨
    match s.decoderLock with
    | none => s.Shows
    | some holder => s.LeavesHostMode holder

theorem Covered.of_shows {s : DecoderState} (h : s.Shows)
    (hlock : s.decoderLock = none ∨ s.decoderLock = some .submit) : s.Covered := by
  refine Or.inr ?_
  rcases hlock with hlock | hlock <;> rw [hlock] <;> exact h

/-- Where nothing is in progress, nothing but the decoder can cover the host's mode. -/
theorem Quiet.covered_iff {s : DecoderState} (h : s.Quiet) : s.Covered ↔ s.Shows := by
  refine ⟨fun hcov => ?_, fun hshows => .of_shows hshows h.2⟩
  rcases hcov with hmem | hcov
  · rw [h.1] at hmem
    cases hmem
  · rcases h.2 with hlock | hlock <;> rw [hlock] at hcov <;> exact hcov

/-! ### What one step does to it -/

/-- The holder of the lock goes on: what the decoder will be left in does not change. -/
theorem covered_stepHolder {s : DecoderState} {holder : Holder}
    (hlock : s.decoderLock = some holder) (e : Event) :
    (s.stepHolder holder e).Covered ↔ s.Covered := by
  obtain ⟨hostMode, callbacks, lock, decoder⟩ := s
  subst hlock
  fun_cases stepHolder _ holder e
  -- `setHdrMode` by a callback and by the main thread, with a decoder or without one
  case case1 => cases decoder <;> simp [Covered, LeavesHostMode, Shows, setHdrMode]
  case case8 => cases decoder <;> simp [Covered, LeavesHostMode, Shows, setHdrMode]
  all_goals simp [Covered, LeavesHostMode, Shows]

/-- What a holder leaves the decoder in depends on nothing but the modes. -/
theorem leavesHostMode_congr {s s' : DecoderState} (hmode : s'.hostMode = s.hostMode)
    (hdecoder : s'.videoDecoder = s.videoDecoder) (holder : Holder) :
    s'.LeavesHostMode holder ↔ s.LeavesHostMode holder := by
  fun_cases LeavesHostMode s holder <;> simp only [LeavesHostMode, Shows, hmode, hdecoder]

/-- The lock is asked for: it is the holder, old or new, that counts from now on. -/
theorem covered_acquire (s : DecoderState) (holder : Holder) :
    (s.acquire holder).Covered ↔
      s.hostMode ∈ s.callbacks ∨ s.LeavesHostMode (s.decoderLock.getD holder) := by
  fun_cases acquire s holder with
  | case1 hlock =>
      rw [hlock]
      exact or_congr_right (leavesHostMode_congr rfl rfl holder)
  | case2 held hlock => rw [Covered, hlock]; rfl

/-- Whoever takes a free lock and will not spoil what the decoder shows covers it. -/
theorem Covered.acquire {s : DecoderState} {holder : Holder} (h : s.Covered)
    (hfree : s.Shows → s.LeavesHostMode holder) : (s.acquire holder).Covered := by
  rw [covered_acquire]
  refine h.imp_right fun hcov => ?_
  cases hlock : s.decoderLock with
  | none => rw [hlock] at hcov; exact hfree hcov
  | some held => rw [hlock] at hcov; exact hcov

/-- A callback that tries the lock leaves somebody behind exactly where its step is `Kept`. -/
theorem covered_tryCallback {s : DecoderState} {i : Nat} {enabled : Bool}
    (hi : s.callbacks[i]? = some enabled) :
    (s.tryCallback i).Covered ↔ s.Kept (.callbackTries i) := by
  rw [tryCallback, Kept, hi]
  simp only [Option.mem_def, Option.some.injEq, forall_eq', covered_acquire]
  rw [or_comm]
  exact or_congr_left (leavesHostMode_congr rfl rfl _)

/-- **Step.** A step that is `Kept` leaves somebody who covers the host's mode. -/
theorem covered_step {s : DecoderState} {e : Event} (hkept : s.Kept e) (h : s.Covered) :
    (s.step e).Covered := by
  fun_cases step s e with
  | case1 enabled => exact Or.inl (List.mem_append_right _ (List.mem_singleton_self enabled))
  | case2 i =>
      cases hi : s.callbacks[i]? with
      | none => simpa [tryCallback, hi] using h
      | some enabled => exact (covered_tryCallback hi).mpr hkept
  | case3 recreate => exact h.acquire fun _ => by cases recreate <;> trivial
  | case4 => exact h.acquire id
  | case5 => exact h
  | case6 e _ _ _ _ holder hlock => exact (covered_stepHolder hlock e).mpr h

/-- **Run.** The same for a run all of whose steps are `Kept`. -/
theorem covered_run {hostMode : Bool} {es : List Event}
    (hkept : AllSteps step Kept (initial hostMode) es) :
    (run step (initial hostMode) es).Covered :=
  run_invariant (fun _ _ => covered_step) (.of_shows (fun _ h => by cases h) (.inl rfl)) hkept

/-! ### A lost switch stays lost -/

/-- What is in progress goes on: no new switch, and nobody new asks for the lock to
replace the decoder. -/
def Finishing : Event → Prop
  | .hostSwitches _ | .mainLocks _ => False
  | _ => True

/-- Who covers the host's mode after the lock was asked for did so before, except one who
has just taken it. -/
theorem covered_of_acquire {s : DecoderState} {holder : Holder} {callbacks : List Bool}
    (h : (acquire { s with callbacks } holder).Covered)
    (hsub : s.hostMode ∈ callbacks → s.hostMode ∈ s.callbacks)
    (hfree : s.LeavesHostMode holder → s.hostMode ∈ s.callbacks ∨ s.Shows) : s.Covered := by
  rw [covered_acquire] at h
  rcases h with hmem | hleaves
  · exact Or.inl (hsub hmem)
  · rw [leavesHostMode_congr rfl rfl] at hleaves
    cases hlock : s.decoderLock with
    | none =>
        rw [Covered, hlock]
        rw [hlock] at hleaves
        exact hfree hleaves
    | some held =>
        rw [Covered, hlock]
        rw [hlock] at hleaves
        exact Or.inr hleaves

/-- **Step.** Nothing that is in progress anyway makes up for a switch that is lost. -/
theorem covered_of_step {s : DecoderState} {e : Event} (he : Finishing e)
    (h : (s.step e).Covered) : s.Covered := by
  revert h
  fun_cases step s e with
  | case1 enabled => exact he.elim
  | case2 i =>
      fun_cases tryCallback s i with
      | case1 => exact id
      | case2 enabled hi =>
          refine fun h => covered_of_acquire h List.mem_of_mem_eraseIdx fun hleaves => ?_
          rcases hleaves with rfl | hnone
          · exact Or.inl (List.mem_of_getElem? hi)
          · exact Or.inr fun mode hmode => by rw [hnone] at hmode; cases hmode
  | case3 recreate => exact he.elim
  | case4 => exact fun h => covered_of_acquire h id Or.inr
  | case5 => exact id
  | case6 e _ _ _ _ holder hlock => exact (covered_stepHolder hlock e).mp

/-- **Run.** The same for everything that is in progress. -/
theorem covered_of_run {s : DecoderState} {es : List Event} (hes : ∀ e ∈ es, Finishing e)
    (h : (run step s es).Covered) : s.Covered := by
  induction es generalizing s with
  | nil => exact h
  | cons e es ih =>
      exact covered_of_step (hes e List.mem_cons_self)
        (ih (fun e' he' => hes e' (List.mem_cons_of_mem _ he')) h)

/-! ### Everything in progress comes to its end -/

/-- What the holder of the lock has still to do. -/
def rest : Holder → List Event
  | .main .locked => [.mainDeletes, .mainChooses true, .mainReads, .mainApplies, .mainUnlocks]
  | .main .destroyed => [.mainChooses true, .mainReads, .mainApplies, .mainUnlocks]
  | .main .created => [.mainReads, .mainApplies, .mainUnlocks]
  | .main (.read _) => [.mainApplies, .mainUnlocks]
  | .main .removing => [.mainDeletes, .mainUnlocks]
  | .main .failed | .main .removed | .main .applied => [.mainUnlocks]
  | .callback _ false => [.callbackApplies, .callbackUnlocks]
  | .callback _ true => [.callbackUnlocks]
  | .submit => [.submitUnlocks]

theorem finishing_rest (holder : Holder) : ∀ e ∈ rest holder, Finishing e := by
  fun_cases rest holder <;> simp [Finishing]

theorem run_rest {s : DecoderState} {holder : Holder} (hlock : s.decoderLock = some holder) :
    (run step s (rest holder)).decoderLock = none ∧
      (run step s (rest holder)).callbacks = s.callbacks := by
  fun_cases rest holder <;> simp [run, step, stepHolder, hlock]

/-- The lock is given back, whoever has it. -/
theorem exists_release (s : DecoderState) :
    ∃ es, (∀ e ∈ es, Finishing e) ∧ (run step s es).decoderLock = none ∧
      (run step s es).callbacks = s.callbacks := by
  cases hlock : s.decoderLock with
  | none => exact ⟨[], by simp, hlock, rfl⟩
  | some holder => exact ⟨rest holder, finishing_rest holder, run_rest hlock⟩

/-- One after the other, the invoked callbacks take the lock and give it back. -/
theorem exists_finish_free (callbacks : List Bool) {s : DecoderState}
    (hfree : s.decoderLock = none) (hcallbacks : s.callbacks = callbacks) :
    ∃ es, (∀ e ∈ es, Finishing e) ∧ (run step s es).Quiet := by
  induction callbacks generalizing s with
  | nil => exact ⟨[], by simp, hcallbacks, .inl hfree⟩
  | cons enabled callbacks ih =>
      have hrun : run step s [.callbackTries 0, .callbackApplies, .callbackUnlocks] =
          { s with callbacks, videoDecoder := setHdrMode s.videoDecoder enabled } := by
        simp [run, step, tryCallback, acquire, stepHolder, hfree, hcallbacks]
      obtain ⟨es, hes, hquiet⟩ := ih (s := { s with
        callbacks, videoDecoder := setHdrMode s.videoDecoder enabled }) hfree rfl
      refine ⟨[.callbackTries 0, .callbackApplies, .callbackUnlocks] ++ es, ?_, ?_⟩
      · exact List.forall_mem_append.mpr ⟨by simp [Finishing], hes⟩
      · rw [run_append, hrun]
        exact hquiet

theorem exists_finish (s : DecoderState) :
    ∃ es, (∀ e ∈ es, Finishing e) ∧ (run step s es).Quiet := by
  obtain ⟨es, hes, hfree, -⟩ := exists_release s
  obtain ⟨es', hes', hquiet⟩ := exists_finish_free _ hfree rfl
  exact ⟨es ++ es', List.forall_mem_append.mpr ⟨hes, hes'⟩, run_append step s es es' ▸ hquiet⟩

/-! ### The switches of the host reach the decoder -/

/-- A step that is not `Kept` leaves nobody who covers the host's mode. -/
theorem not_covered_of_not_kept {s : DecoderState} {e : Event} (h : ¬ s.Kept e) :
    ¬ (s.step e).Covered := by
  cases e with
  | callbackTries i =>
      cases hi : s.callbacks[i]? with
      | none => exact absurd (fun enabled henabled => by rw [hi] at henabled; cases henabled) h
      | some enabled => exact (covered_tryCallback hi).not.mpr h
  | _ => exact absurd trivial h

/-- **No lost switch, exactly where.** Where no callback of the run is lost, the decoder is
in the host's mode whenever nothing is in progress. Where one is, what is in progress can
come to its end, and then the decoder is in the other mode. -/
theorem hdr_switch_kept (hostMode : Bool) (es : List Event) :
    (AllSteps step Kept (initial hostMode) es →
      ∀ pre, pre <+: es → (run step (initial hostMode) pre).Quiet →
        (run step (initial hostMode) pre).Shows) ∧
    (¬ AllSteps step Kept (initial hostMode) es →
      ∃ pre fin, pre <+: es ∧ (∀ e ∈ fin, Finishing e) ∧
        (run step (initial hostMode) (pre ++ fin)).Quiet ∧
        ¬ (run step (initial hostMode) (pre ++ fin)).Shows) := by
  constructor
  · rintro hkept pre ⟨post, rfl⟩ hquiet
    exact hquiet.covered_iff.mp (covered_run (allSteps_append.mp hkept).1)
  · intro hlost
    simp only [allSteps_iff, not_forall] at hlost
    obtain ⟨pre, e, post, rfl, hlost⟩ := hlost
    obtain ⟨fin, hfin, hquiet⟩ := exists_finish (step (run step (initial hostMode) pre) e)
    refine ⟨pre ++ [e], fin, ⟨post, by simp⟩, hfin, ?_, ?_⟩
    · rw [run_append, run_concat]
      exact hquiet
    · rw [run_append, run_concat, ← hquiet.covered_iff]
      exact fun hcov => not_covered_of_not_kept hlost (covered_of_run hfin hcov)

/-- The host switches to HDR after the main thread has read its mode for a new decoder and
before the lock is free: the callback is dropped, and the decoder stays without HDR. -/
theorem hdr_switch_lost :
    ¬ ∀ (hostMode : Bool) (es : List Event), (run step (initial hostMode) es).Quiet →
      (run step (initial hostMode) es).Shows := by
  intro h
  exact absurd (h false [.mainLocks true, .mainDeletes, .mainChooses true, .mainReads,
    .hostSwitches true, .callbackTries 0, .mainApplies, .mainUnlocks] (by decide)) (by decide)

end DecoderState

end GilStreaming.Streaming
