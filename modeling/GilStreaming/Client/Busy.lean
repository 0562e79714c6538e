import GilStreaming.Client.Requests

/-!
# GilStreaming.Client.Busy

The client is busy while something is under way.

`startLogin` is refused while the client is busy, so that it must not stay busy when
nothing is going to end that. Every handler clears the flag, starts something else or leaves
both alone (`progress_or_silentExit`), but for three silent returns: they end what was under
way, and the client stays busy for good if it was the last.
-/

namespace GilStreaming.Client

open GilStreaming.Trace

/-- The client is busy until the request is through. -/
def ClientCall.keepsBusy : ClientCall → Bool
  | .startLogin _ _ => true
  | .devLogin _ => true
  | .requestVm _ _ => true
  | _ => false

namespace GilCoordinator

variable {c c' : GilCoordinator}

/-- A login, a lease request or a probe is under way. -/
def UnderWay (c : GilCoordinator) : Prop :=
  (∃ p ∈ c.replies, p.state = .waiting ∧ p.call.keepsBusy = true) ∨ c.loginPollTimer = true ∨
    ∃ p ∈ c.probes, p.finished = false

/-- A client that is busy will not stay so. -/
def BusyEnds (c : GilCoordinator) : Prop := ¬ c.UnderWay → c.busy = false

/-- The event ends something without a word, and the rest is still under way. -/
inductive SilentExit (c : GilCoordinator) : ClientEvent → GilCoordinator → Prop
  /-- The lease has changed during the probe, or the session has ended. -/
  | probe {i : Nat} {p : RouteProbe} {useRelay : Bool} {env : BridgeEnv}
      (hi : c.probes[i]? = some p) (hrunning : p.finished = false)
      (hstale : c.leaseId ≠ p.leaseId ∨ c.accessToken = "") :
      SilentExit c (.probed i useRelay env)
        { c with probes := c.probes.set i { p with finished := true } }
  /-- The session has ended during a lease request whose host needs no probe. -/
  | lease {i : Nat} {p : PendingReply} {reply : NetworkReply} {env : ReplyEnv}
      {deviceId deviceName : String} (hi : c.replies[i]? = some p) (hwaiting : p.state = .waiting)
      (hcall : p.call = .requestVm deviceId deviceName) (herror : reply.error = .noError)
      (hvalid : ¬ InvalidAssignment reply) (hdirect : c.Direct reply)
      (htoken : c.accessToken = "") :
      SilentExit c (.finished i reply env) (c.finish i p)
  /-- Polling stops for want of a login id. -/
  | poll (htimer : c.loginPollTimer = true) (hid : c.loginRequestId = "") :
      SilentExit c .loginPollTimeout { c with loginPollTimer := false }

/-- The event ends the last thing under way, and leaves the client busy. -/
def Sticks (c : GilCoordinator) (e : ClientEvent) : Prop :=
  c.busy = true ∧ ∃ rest, c.SilentExit e rest ∧ ¬ rest.UnderWay

/-! ### Frames -/

@[simp] theorem emit_busy (c : GilCoordinator) (s : Shown) : (c.emit s).busy = c.busy := rfl

@[simp] theorem setBusy_busy (c : GilCoordinator) (busy : Bool) : (c.setBusy busy).busy = busy := by
  rw [setBusy_eq]

@[simp] theorem setStatus_busy (c : GilCoordinator) (status : String) :
    (c.setStatus status).busy = c.busy := by
  rw [setStatus_eq]

@[simp] theorem fail_busy (c : GilCoordinator) (message : String) :
    (c.fail message).busy = false := by
  simp [fail]

@[simp] theorem send_busy (c : GilCoordinator) (call : ClientCall) (authenticated : Bool) :
    (c.send call authenticated).busy = c.busy := rfl

@[simp] theorem clearSession_busy (c : GilCoordinator) : c.clearSession.busy = c.busy := by
  unfold clearSession
  dsimp only
  split <;> rfl

@[simp] theorem releaseLease_busy (c : GilCoordinator) : c.releaseLease.busy = c.busy := by
  unfold releaseLease
  dsimp only
  split
  · rfl
  · split <;> rfl

@[simp] theorem emit_loginPollTimer (c : GilCoordinator) (s : Shown) :
    (c.emit s).loginPollTimer = c.loginPollTimer := rfl

@[simp] theorem setStatus_loginPollTimer (c : GilCoordinator) (status : String) :
    (c.setStatus status).loginPollTimer = c.loginPollTimer := by
  rw [setStatus_eq]

@[simp] theorem send_loginPollTimer (c : GilCoordinator) (call : ClientCall)
    (authenticated : Bool) : (c.send call authenticated).loginPollTimer = c.loginPollTimer := rfl

@[simp] theorem clearSession_loginPollTimer (c : GilCoordinator) :
    c.clearSession.loginPollTimer = c.loginPollTimer := by
  unfold clearSession
  dsimp only
  split <;> rfl

@[simp] theorem releaseLease_loginPollTimer (c : GilCoordinator) :
    c.releaseLease.loginPollTimer = c.loginPollTimer := by
  unfold releaseLease
  dsimp only
  split
  · rfl
  · split <;> rfl

/-! ### What a handler does -/

/-- The client is as busy as before, and what was under way still is. -/
structure Keeps (c c' : GilCoordinator) : Prop where
  busy : c'.busy = c.busy
  replies : ∀ p ∈ c.replies, p.state = .waiting → p.call.keepsBusy = true → p ∈ c'.replies
  loginPollTimer : c'.loginPollTimer = c.loginPollTimer
  probes : ∀ p ∈ c.probes, p.finished = false → p ∈ c'.probes

theorem Keeps.underWay (h : c.Keeps c') (hc : c.UnderWay) : c'.UnderWay := by
  rcases hc with ⟨p, hp, hwaiting, hcall⟩ | htimer | ⟨p, hp, hrunning⟩
  · exact .inl ⟨p, h.replies p hp hwaiting hcall, hwaiting, hcall⟩
  · exact .inr (.inl (h.loginPollTimer.trans htimer))
  · exact .inr (.inr ⟨p, h.probes p hp hrunning, hrunning⟩)

/-- The client is no longer busy, or something is under way, or nothing has changed. -/
def Progresses (c c' : GilCoordinator) : Prop :=
  c'.busy = false ∨ c'.UnderWay ∨ c.Keeps c'

theorem Progresses.busyEnds (h : c.Progresses c') (hc : c.BusyEnds) : c'.BusyEnds := by
  intro hnone
  rcases h with hidle | hunder | hkeeps
  · exact hidle
  · exact absurd hunder hnone
  · exact hkeeps.busy.trans (hc fun hunder => hnone (hkeeps.underWay hunder))

theorem keeps_of_sends (h : c.Sends c') (hbusy : c'.busy = c.busy)
    (htimer : c'.loginPollTimer = c.loginPollTimer) (hprobes : c'.probes = c.probes) :
    c.Keeps c' where
  busy := hbusy
  replies := by
    obtain ⟨new, heq, -⟩ := h
    intro p hp _ _
    rw [heq]
    exact List.mem_append_left _ hp
  loginPollTimer := htimer
  probes := fun p hp _ => hprobes ▸ hp

/-- A request that keeps the client busy is under way once it has been sent. -/
theorem underWay_send (c : GilCoordinator) {call : ClientCall} (h : call.keepsBusy = true)
    (authenticated : Bool) : (c.send call authenticated).UnderWay :=
  .inl ⟨_, List.mem_append_right _ (List.mem_singleton_self _), rfl, h⟩

theorem requestVm_progresses (c c' : GilCoordinator) : c.Progresses c'.requestVm := by
  unfold requestVm
  split
  · exact .inl (fail_busy ..)
  · exact .inr (.inl (underWay_send _ rfl true))

/-- A reply that keeps nobody busy has finished. -/
theorem keeps_finish {i : Nat} {p : PendingReply} (hi : c.replies[i]? = some p)
    (hcall : p.call.keepsBusy = false) : c.Keeps (c.finish i p) where
  busy := rfl
  replies := by
    intro q hq _ hkeeps
    obtain ⟨j, hj⟩ := List.getElem?_of_mem hq
    refine List.mem_of_getElem? ((Threads.getElem?_set_eq_some hi).mpr (.inr ⟨?_, hj⟩))
    rintro rfl
    obtain rfl := Option.some.inj (hi.symm.trans hj)
    exact absurd hkeeps (by simp [hcall])
  loginPollTimer := rfl
  probes := fun _ hp _ => hp

theorem Keeps.of_eq {c'' : GilCoordinator} (h : c.Keeps c') (hbusy : c''.busy = c'.busy)
    (hreplies : c''.replies = c'.replies) (htimer : c''.loginPollTimer = c'.loginPollTimer)
    (hprobes : c''.probes = c'.probes) : c.Keeps c'' where
  busy := hbusy.trans h.busy
  replies := fun p hp hwaiting hcall => hreplies ▸ h.replies p hp hwaiting hcall
  loginPollTimer := htimer.trans h.loginPollTimer
  probes := fun p hp hrunning => hprobes ▸ h.probes p hp hrunning

theorem handleAuthenticationResponse_progresses (c c' : GilCoordinator) (reply : NetworkReply) :
    c.Progresses (c'.handleAuthenticationResponse reply) := by
  unfold handleAuthenticationResponse
  dsimp only
  split
  · exact .inl (fail_busy ..)
  · split
    · exact .inl (fail_busy ..)
    · exact requestVm_progresses ..

/-- A probe that is not stale ends with the client no longer busy. -/
theorem completeAssignment_busy {p : RouteProbe} (hlease : c.leaseId = p.leaseId)
    (htoken : c.accessToken ≠ "") (useRelay : Bool) (env : BridgeEnv) :
    (c.completeAssignment p useRelay env).busy = false := by
  unfold completeAssignment completeAssignment.assigned
  rw [if_neg fun h => h.elim (absurd hlease) htoken]
  split
  · dsimp only
    split <;> simp
  · simp

/-- One that is stale ends with nothing changed. -/
theorem completeAssignment_stale {p : RouteProbe} (h : c.leaseId ≠ p.leaseId ∨ c.accessToken = "")
    (useRelay : Bool) (env : BridgeEnv) : c.completeAssignment p useRelay env = c := by
  rw [completeAssignment, if_pos h]

/-- The answer to a lease request whose host needs no probe. -/
theorem vmRequested_direct (c : GilCoordinator) {reply : NetworkReply} (env : BridgeEnv)
    (herror : reply.error = .noError) (hvalid : ¬ InvalidAssignment reply)
    (hdirect : c.Direct reply) :
    c.vmRequested reply env =
      { c with leaseId := reply.body.string "leaseId" }.completeAssignment (probeOf reply) false
        env := by
  unfold vmRequested
  rw [if_neg (not_not.mpr herror)]
  dsimp only
  split
  · next hinvalid => exact absurd hinvalid hvalid
  · split
    · rfl
    · next hprobe => exact absurd hdirect hprobe

/-- It leaves the client as busy as before when the session has ended. -/
theorem vmRequested_silent (c : GilCoordinator) {reply : NetworkReply} (env : BridgeEnv)
    (herror : reply.error = .noError) (hvalid : ¬ InvalidAssignment reply)
    (hdirect : c.Direct reply) (htoken : c.accessToken = "") :
    c.vmRequested reply env = { c with leaseId := reply.body.string "leaseId" } := by
  rw [vmRequested_direct c env herror hvalid hdirect]
  refine completeAssignment_stale (.inr ?_) false env
  exact htoken

/-- The answer to a lease request whose host is probed. -/
theorem vmRequested_probe (c : GilCoordinator) {reply : NetworkReply} (env : BridgeEnv)
    (h : c.StartsProbe reply) : (c.vmRequested reply env).UnderWay := by
  refine .inr (.inr ⟨probeOf reply, ?_, rfl⟩)
  rw [vmRequested_probes, if_pos h]
  exact List.mem_append_right _ (List.mem_singleton_self _)

/-- The answer to a lease request that fails. -/
theorem vmRequested_fails (c : GilCoordinator) {reply : NetworkReply} (env : BridgeEnv)
    (h : reply.error ≠ .noError ∨ InvalidAssignment reply) :
    (c.vmRequested reply env).busy = false := by
  unfold vmRequested
  by_cases herror : reply.error = .noError
  · rw [if_neg (not_not.mpr herror)]
    dsimp only
    split
    · exact fail_busy ..
    · next hvalid => exact absurd (h.resolve_left (not_not.mpr herror)) hvalid
  · rw [if_pos herror]
    split
    · simp
    · split
      · simp
      · split <;> simp

theorem vmRequested_progresses {i : Nat} {p : PendingReply} {deviceId deviceName : String}
    (hi : c.replies[i]? = some p) (hwaiting : p.state = .waiting)
    (hcall : p.call = .requestVm deviceId deviceName) (reply : NetworkReply) (env : ReplyEnv) :
    c.Progresses ((finish { c with shown := [] } i p).vmRequested reply env.bridge) ∨
      ∃ rest, c.SilentExit (.finished i reply env) rest := by
  by_cases hfails : reply.error ≠ .noError ∨ InvalidAssignment reply
  · exact .inl (.inl (vmRequested_fails _ _ hfails))
  · obtain ⟨herror, hvalid⟩ := not_or.mp hfails
    have herror := not_not.mp herror
    by_cases hdirect : c.Direct reply
    · -- connected without a probe, which stops where the session has ended
      by_cases htoken : c.accessToken = ""
      · exact .inr ⟨_, .lease hi hwaiting hcall herror hvalid hdirect htoken⟩
      · have heq := vmRequested_direct (finish { c with shown := [] } i p) env.bridge herror
          hvalid hdirect
        refine .inl (.inl ?_)
        rw [heq]
        refine completeAssignment_busy ?_ ?_ _ _
        · rfl
        · exact htoken
    · exact .inl (.inr (.inl (vmRequested_probe _ _ ⟨herror, hvalid, hdirect⟩)))

theorem handleReply_progresses {i : Nat} {p : PendingReply} (hi : c.replies[i]? = some p)
    (hwaiting : p.state = .waiting) (reply : NetworkReply) (env : ReplyEnv) :
    c.Progresses ((finish { c with shown := [] } i p).handleReply reply env p.call) ∨
      ∃ rest, c.SilentExit (.finished i reply env) rest := by
  have hkeeps : p.call.keepsBusy = false → c.Keeps (finish { c with shown := [] } i p) :=
    fun hcall => (keeps_finish hi hcall).of_eq rfl rfl rfl rfl
  cases hcall : p.call with
  | startLogin deviceId deviceName =>
      refine .inl ?_
      simp only [handleReply, loginStarted]
      split
      · exact .inl (fail_busy ..)
      · split
        · exact .inl (fail_busy ..)
        · exact .inr (.inl (.inr (.inl rfl)))
  | devLogin deviceId => exact .inl (handleAuthenticationResponse_progresses ..)
  | pollLogin requestId =>
      refine .inl ?_
      simp only [handleReply, loginPolled]
      split
      · exact .inl (fail_busy ..)
      · split
        · exact handleAuthenticationResponse_progresses ..
        · exact .inr (.inr (hkeeps (by rw [hcall]; rfl)))
  | requestVm deviceId deviceName => exact vmRequested_progresses hi hwaiting hcall reply env
  | heartbeat leaseId =>
      refine .inl (.inr (.inr ((hkeeps (by rw [hcall]; rfl)).of_eq ?_ ?_ ?_ ?_)))
      all_goals
        simp only [handleReply, heartbeatSent]
        split
        · split <;> simp
        · rfl
  | approvePairing leaseId pin =>
      refine .inl (.inr (.inr ((hkeeps (by rw [hcall]; rfl)).of_eq ?_ ?_ ?_ ?_)))
      all_goals
        simp only [handleReply, pairingApproved]
        split <;> simp
  | releaseLease leaseId => exact .inl (.inr (.inr (hkeeps (by rw [hcall]; rfl))))

/-! ### The step -/

/-- A step that leaves all this alone. -/
theorem progresses_of_eq (hbusy : c'.busy = c.busy) (hreplies : c'.replies = c.replies)
    (htimer : c'.loginPollTimer = c.loginPollTimer) (hprobes : c'.probes = c.probes) :
    c.Progresses c' :=
  .inr (.inr (keeps_of_sends (sends_of_eq hreplies) hbusy htimer hprobes))

/-- **Step lemma.** A step clears the flag, starts something, leaves both alone, or ends
something without a word. -/
theorem progress_or_silentExit (c : GilCoordinator) (e : ClientEvent) :
    c.Progresses (c.step e) ∨ ∃ rest, c.SilentExit e rest := by
  unfold step
  cases e with
  | startLogin =>
      refine .inl ?_
      simp only [handle, startLogin]
      split
      · exact progresses_of_eq rfl rfl rfl rfl
      · exact .inr (.inl (underWay_send _ rfl false))
  | skipLoginForDevelopment =>
      refine .inl ?_
      simp only [handle, skipLoginForDevelopment]
      split
      · exact progresses_of_eq rfl rfl rfl rfl
      · exact .inr (.inl (underWay_send _ rfl false))
  | requestVm => exact .inl (requestVm_progresses ..)
  | resumeSavedSession =>
      refine .inl ?_
      simp only [handle, resumeSavedSession]
      split
      · exact progresses_of_eq rfl rfl rfl rfl
      · exact requestVm_progresses ..
  | approvePairing pin =>
      refine .inl (.inr (.inr (keeps_of_sends (sends_approvePairing rfl pin) ?_ ?_ ?_)))
      all_goals
        simp only [handle, approvePairing]
        split <;> simp
  | releaseLease =>
      exact .inl (.inr (.inr (keeps_of_sends (sends_releaseLease rfl) (releaseLease_busy _)
        (releaseLease_loginPollTimer _) (releaseLease_probes _))))
  | logout =>
      -- unlike `releaseLease`, it clears the flag
      refine .inl (.inl ?_)
      simp [handle, logout]
  | setUseLanCoordinator enabled =>
      refine .inl ?_
      simp only [handle, setUseLanCoordinator]
      split
      · exact progresses_of_eq rfl rfl rfl rfl
      · exact .inl (by simp)
  | aboutToQuit =>
      exact .inl (.inr (.inr (keeps_of_sends (sends_releaseLease rfl) (releaseLease_busy _)
        (releaseLease_loginPollTimer _) (releaseLease_probes _))))
  | loginPollTimeout =>
      simp only [handle, pollLogin]
      split
      · next htimer =>
          split
          · next hid => exact .inr ⟨_, .poll htimer hid⟩
          · -- the timer goes on, so polling is still under way
            refine .inl (.inr (.inl (.inr (.inl ?_))))
            exact htimer
      · exact .inl (progresses_of_eq rfl rfl rfl rfl)
  | heartbeatTimeout =>
      refine .inl ?_
      simp only [handle]
      split
      · refine .inr (.inr (keeps_of_sends (sends_sendHeartbeat rfl) ?_ ?_ ?_))
        all_goals
          unfold sendHeartbeat
          split <;> rfl
      · exact progresses_of_eq rfl rfl rfl rfl
  | finished i reply env =>
      simp only [handle]
      cases hi : c.replies[i]? with
      | none => exact .inl (progresses_of_eq rfl rfl rfl rfl)
      | some p =>
          dsimp only
          split
          · next hwaiting => exact handleReply_progresses hi hwaiting reply env
          · exact .inl (progresses_of_eq rfl rfl rfl rfl)
  | probed i useRelay env =>
      simp only [handle]
      cases hi : c.probes[i]? with
      | none => exact .inl (progresses_of_eq rfl rfl rfl rfl)
      | some p =>
          dsimp only
          split
          · exact .inl (progresses_of_eq rfl rfl rfl rfl)
          · next hrunning =>
              -- `completeAssignment` returns at once when the lease is not current
              by_cases hstale : c.leaseId ≠ p.leaseId ∨ c.accessToken = ""
              · exact .inr ⟨_, .probe hi (by simpa using hrunning) hstale⟩
              · obtain ⟨hlease, htoken⟩ := not_or.mp hstale
                refine .inl (.inl (completeAssignment_busy ?_ ?_ _ _))
                · exact not_not.mp hlease
                · exact htoken

/-- A silent exit leaves the flag, and what else is under way. -/
theorem SilentExit.step {e : ClientEvent} {rest : GilCoordinator} (h : c.SilentExit e rest) :
    (c.step e).busy = c.busy ∧ ((c.step e).UnderWay ↔ rest.UnderWay) := by
  cases h with
  | @probe i p useRelay env hi hrunning hstale =>
      have hstep : c.step (.probed i useRelay env) =
          { c with shown := [], probes := c.probes.set i { p with finished := true } } := by
        simp only [GilCoordinator.step, handle, hi, hrunning, Bool.false_eq_true, if_false]
        refine completeAssignment_stale ?_ useRelay env
        exact hstale
      rw [hstep]
      exact ⟨rfl, Iff.rfl⟩
  | @lease i p reply env deviceId deviceName hi hwaiting hcall herror hvalid hdirect htoken =>
      have heq := vmRequested_silent (finish { c with shown := [] } i p) env.bridge herror hvalid
        hdirect htoken
      rw [step_finished hi hwaiting, hcall]
      simp only [handleReply, heq]
      exact ⟨rfl, Iff.rfl⟩
  | poll htimer hid =>
      have hstep : c.step .loginPollTimeout = { c with shown := [], loginPollTimer := false } := by
        simp only [GilCoordinator.step, handle, htimer, if_true, pollLogin, if_pos hid]
      rw [hstep]
      exact ⟨rfl, Iff.rfl⟩

/-- **Step lemma.** -/
theorem busyEnds_step_iff (h : c.BusyEnds) (e : ClientEvent) :
    (c.step e).BusyEnds ↔ ¬ c.Sticks e := by
  constructor
  · rintro hends ⟨hbusy, rest, hexit, hnone⟩
    have hidle := hends fun hunder => hnone (hexit.step.2.mp hunder)
    exact absurd (hexit.step.1.symm.trans hidle) (by simp [hbusy])
  · intro hgood
    rcases c.progress_or_silentExit e with hprogresses | ⟨rest, hexit⟩
    · exact hprogresses.busyEnds h
    · intro hnone
      by_contra hbusy
      rw [hexit.step.1, Bool.not_eq_false] at hbusy
      exact hgood ⟨hbusy, rest, hexit, fun hunder => hnone (hexit.step.2.mpr hunder)⟩

end GilCoordinator

open GilCoordinator in
/-- **Busy.** Along every history, the client is never busy with nothing under way if and
only if no silent exit ends the last thing under way while it is busy. -/
theorem busy_ends_iff (config : ClientConfig) (settings : CoordinatorSettings)
    (es : List ClientEvent) :
    (∀ pre, pre <+: es → (run step (.create config settings) pre).BusyEnds) ↔
      AllSteps step (fun c e => ¬ c.Sticks e) (.create config settings) es :=
  @run_invariant_iff _ _ step (fun _ => True) BusyEnds Sticks (fun _ _ _ => trivial)
    (fun _ e _ h => busyEnds_step_iff h e) _ trivial (fun _ => rfl) es

/-- The lease is given up while its host is probed. -/
def releasedDuringProbe : List ClientEvent :=
  [.requestVm, .finished 0 (grantReply "lease-1" relayReply) goodEnv, .releaseLease,
    .probed 0 true ⟨true, none, true, none⟩]

/-- Nothing is under way any more, and the client is busy for good. -/
theorem releasedDuringProbe_sticks :
    ¬ ∀ pre, pre <+: releasedDuringProbe →
      (run GilCoordinator.step savedClient pre).BusyEnds := by
  intro h
  have hidle := h _ (List.prefix_refl _) (by
    rintro (⟨p, hp, hwaiting, hcall⟩ | htimer | ⟨p, hp, hrunning⟩)
    · have hnone : (run GilCoordinator.step savedClient releasedDuringProbe).replies.all
          (fun p => !(p.state = .waiting && p.call.keepsBusy)) = true := by decide +kernel
      simpa [hwaiting, hcall] using List.all_eq_true.mp hnone p hp
    · exact absurd htimer (by decide +kernel)
    · have hnone : (run GilCoordinator.step savedClient releasedDuringProbe).probes.all
          RouteProbe.finished = true := by decide +kernel
      exact absurd (List.all_eq_true.mp hnone p hp) (by simp [hrunning]))
  exact absurd hidle (by decide +kernel)

end GilStreaming.Client
