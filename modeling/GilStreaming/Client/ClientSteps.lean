import GilStreaming.Client.GilCoordinator
import GilStreaming.Lib.Threads

/-!
# GilStreaming.Client.ClientSteps

What one step of the client can do to its requests, its login and its session.

The helpers that only show something change none of these, which the simp set below
knows. `accessToken_step` says which events end a session, `loginRequestId_step` where a
login id comes from, and `replies_step` and `reply_step` what becomes of the requests.
-/

namespace GilStreaming.Client

/-- The reply to the call ends the session: its token is not accepted, or there is a new
one. -/
def ClientCall.endsSession (reply : NetworkReply) : ClientCall → Bool
  | .requestVm _ _ => reply.error ≠ .noError && reply.statusCode = 401
  | .heartbeat _ => reply.error ≠ .noError && reply.statusCode = 401
  | .devLogin _ => reply.error = .noError
  | .pollLogin _ => reply.error = .noError && reply.body.string "state" = "authenticated"
  | _ => false

namespace GilCoordinator

variable (c : GilCoordinator)

/-! ### Frames -/

@[simp] theorem emit_accessToken (s : Shown) : (c.emit s).accessToken = c.accessToken := rfl

@[simp] theorem emit_loginRequestId (s : Shown) :
    (c.emit s).loginRequestId = c.loginRequestId := rfl

@[simp] theorem emit_replies (s : Shown) : (c.emit s).replies = c.replies := rfl

@[simp] theorem setBusy_accessToken (busy : Bool) :
    (c.setBusy busy).accessToken = c.accessToken := by
  unfold setBusy
  split <;> rfl

@[simp] theorem setBusy_loginRequestId (busy : Bool) :
    (c.setBusy busy).loginRequestId = c.loginRequestId := by
  unfold setBusy
  split <;> rfl

@[simp] theorem setBusy_replies (busy : Bool) : (c.setBusy busy).replies = c.replies := by
  unfold setBusy
  split <;> rfl

@[simp] theorem setStatus_accessToken (status : String) :
    (c.setStatus status).accessToken = c.accessToken := by
  unfold setStatus
  split <;> rfl

@[simp] theorem setStatus_loginRequestId (status : String) :
    (c.setStatus status).loginRequestId = c.loginRequestId := by
  unfold setStatus
  split <;> rfl

@[simp] theorem setStatus_replies (status : String) :
    (c.setStatus status).replies = c.replies := by
  unfold setStatus
  split <;> rfl

@[simp] theorem fail_accessToken (message : String) :
    (c.fail message).accessToken = c.accessToken := by
  simp [fail]

@[simp] theorem fail_loginRequestId (message : String) :
    (c.fail message).loginRequestId = c.loginRequestId := by
  simp [fail]

@[simp] theorem fail_replies (message : String) : (c.fail message).replies = c.replies := by
  simp [fail]

@[simp] theorem send_accessToken (call : ClientCall) (authenticated : Bool) :
    (c.send call authenticated).accessToken = c.accessToken := rfl

@[simp] theorem send_loginRequestId (call : ClientCall) (authenticated : Bool) :
    (c.send call authenticated).loginRequestId = c.loginRequestId := rfl

@[simp] theorem saveSession_accessToken : c.saveSession.accessToken = c.accessToken := rfl

@[simp] theorem saveSession_loginRequestId :
    c.saveSession.loginRequestId = c.loginRequestId := rfl

@[simp] theorem saveSession_replies : c.saveSession.replies = c.replies := rfl

@[simp] theorem clearSession_loginRequestId :
    c.clearSession.loginRequestId = c.loginRequestId := by
  unfold clearSession
  dsimp only
  split <;> rfl

@[simp] theorem clearSession_replies : c.clearSession.replies = c.replies := by
  unfold clearSession
  dsimp only
  split <;> rfl

@[simp] theorem finish_accessToken (i : Nat) (p : PendingReply) :
    (c.finish i p).accessToken = c.accessToken := rfl

@[simp] theorem finish_loginRequestId (i : Nat) (p : PendingReply) :
    (c.finish i p).loginRequestId = c.loginRequestId := rfl

@[simp] theorem requestVm_accessToken : c.requestVm.accessToken = c.accessToken := by
  unfold requestVm
  split <;> simp

@[simp] theorem releaseLease_accessToken : c.releaseLease.accessToken = c.accessToken := by
  unfold releaseLease
  dsimp only
  split
  · rfl
  · split <;> rfl

@[simp] theorem completeAssignment_accessToken (p : RouteProbe) (useRelay : Bool)
    (env : BridgeEnv) : (c.completeAssignment p useRelay env).accessToken = c.accessToken := by
  unfold completeAssignment completeAssignment.assigned
  split
  · rfl
  · split
    · dsimp only
      split <;> simp
    · simp

@[simp] theorem requestVm_loginRequestId : c.requestVm.loginRequestId = c.loginRequestId := by
  unfold requestVm
  split <;> simp

@[simp] theorem releaseLease_loginRequestId :
    c.releaseLease.loginRequestId = c.loginRequestId := by
  unfold releaseLease
  dsimp only
  split
  · rfl
  · split <;> rfl

@[simp] theorem completeAssignment_loginRequestId (p : RouteProbe) (useRelay : Bool)
    (env : BridgeEnv) :
    (c.completeAssignment p useRelay env).loginRequestId = c.loginRequestId := by
  unfold completeAssignment completeAssignment.assigned
  split
  · rfl
  · split
    · dsimp only
      split <;> simp
    · simp

/-- Events that can change neither the session nor the login. -/
def Quiet : ClientEvent → Prop
  | .logout => False
  | .setUseLanCoordinator _ => False
  | .finished _ _ _ => False
  | _ => True

theorem step_quiet {e : ClientEvent} (h : Quiet e) :
    (c.step e).accessToken = c.accessToken ∧ (c.step e).loginRequestId = c.loginRequestId := by
  unfold step
  cases e with
  | startLogin =>
      simp only [handle, startLogin]
      split <;> simp
  | skipLoginForDevelopment =>
      simp only [handle, skipLoginForDevelopment]
      split <;> simp
  | requestVm => simp [handle]
  | resumeSavedSession =>
      simp only [handle, resumeSavedSession]
      split <;> simp
  | approvePairing pin =>
      simp only [handle, approvePairing]
      split <;> simp
  | releaseLease => simp [handle]
  | aboutToQuit => simp [handle, aboutToQuit]
  | loginPollTimeout =>
      simp only [handle, pollLogin]
      split
      · split <;> simp
      · exact ⟨rfl, rfl⟩
  | heartbeatTimeout =>
      simp only [handle, sendHeartbeat]
      split
      · split <;> simp
      · exact ⟨rfl, rfl⟩
  | probed i useRelay env =>
      simp only [handle]
      split
      · split <;> simp
      · exact ⟨rfl, rfl⟩
  | _ => exact h.elim

/-! ### Failures -/

variable {c} in
@[simp] theorem failed_mem_emit {s : Shown} {m : String} :
    .failed m ∈ (c.emit s).shown ↔ .failed m ∈ c.shown ∨ s = .failed m := by
  simp [emit, eq_comm]

@[simp] theorem failed_mem_setBusy (busy : Bool) (m : String) :
    .failed m ∈ (c.setBusy busy).shown ↔ .failed m ∈ c.shown := by
  unfold setBusy
  split <;> simp

@[simp] theorem failed_mem_setStatus (status m : String) :
    .failed m ∈ (c.setStatus status).shown ↔ .failed m ∈ c.shown := by
  unfold setStatus
  split <;> simp

@[simp] theorem failed_mem_fail (message m : String) :
    .failed m ∈ (c.fail message).shown ↔ .failed m ∈ c.shown ∨ message = m := by
  simp [fail]

@[simp] theorem send_shown (call : ClientCall) (authenticated : Bool) :
    (c.send call authenticated).shown = c.shown := rfl

@[simp] theorem saveSession_shown : c.saveSession.shown = c.shown := rfl

/-! ### The session -/

/-- The event ends the session. -/
def endsSession : ClientEvent → Bool
  | .logout => true
  | .finished i reply _ => ((c.replies[i]?).map (·.call.endsSession reply)).getD false
  | _ => false

theorem vmRequested_accessToken {reply : NetworkReply} (env : BridgeEnv)
    (h : ¬ (reply.error ≠ .noError ∧ reply.statusCode = 401)) :
    (c.vmRequested reply env).accessToken = c.accessToken := by
  unfold vmRequested
  by_cases herror : reply.error = .noError
  · rw [if_neg (not_not.mpr herror)]
    dsimp only
    split
    · simp
    · split <;> simp
  · rw [if_pos herror, if_neg fun hstatus => h ⟨herror, hstatus⟩]
    split
    · simp
    · split <;> simp

theorem heartbeatSent_accessToken {reply : NetworkReply}
    (h : ¬ (reply.error ≠ .noError ∧ reply.statusCode = 401)) :
    (c.heartbeatSent reply).accessToken = c.accessToken := by
  unfold heartbeatSent
  by_cases herror : reply.error = .noError
  · rw [if_neg (not_not.mpr herror)]
  · rw [if_pos herror]
    dsimp only
    rw [if_neg fun hstatus => h ⟨herror, hstatus⟩]
    simp

theorem loginStarted_accessToken (reply : NetworkReply) (opened : Bool) :
    (c.loginStarted reply opened).accessToken = c.accessToken := by
  unfold loginStarted
  split
  · simp
  · dsimp only
    split <;> simp

theorem pairingApproved_accessToken (reply : NetworkReply) :
    (c.pairingApproved reply).accessToken = c.accessToken := by
  unfold pairingApproved
  split <;> simp

theorem handleReply_accessToken {reply : NetworkReply} (env : ReplyEnv) {call : ClientCall}
    (h : call.endsSession reply = false) :
    (c.handleReply reply env call).accessToken = c.accessToken := by
  cases call with
  | startLogin deviceId deviceName => exact c.loginStarted_accessToken reply env.opened
  | devLogin deviceId =>
      have herror : reply.error ≠ .noError := by simpa [ClientCall.endsSession] using h
      simp [handleReply, handleAuthenticationResponse, herror]
  | pollLogin requestId =>
      simp only [handleReply, loginPolled]
      by_cases herror : reply.error = .noError
      · have hstate : reply.body.string "state" ≠ "authenticated" := by
          simpa [ClientCall.endsSession, herror] using h
        rw [if_neg (not_not.mpr herror), if_neg hstate]
      · rw [if_pos herror]
        simp
  | requestVm deviceId deviceName =>
      exact c.vmRequested_accessToken env.bridge (by simpa [ClientCall.endsSession] using h)
  | heartbeat leaseId =>
      exact c.heartbeatSent_accessToken (by simpa [ClientCall.endsSession] using h)
  | approvePairing leaseId pin => exact c.pairingApproved_accessToken reply
  | releaseLease leaseId => rfl

/-- **Step lemma.** A session stays until an event ends it. -/
theorem accessToken_step {e : ClientEvent} (h : c.endsSession e = false) :
    (c.step e).accessToken = c.accessToken := by
  cases e with
  | logout => exact absurd h (by simp [endsSession])
  | setUseLanCoordinator enabled =>
      simp only [step, handle, setUseLanCoordinator]
      split
      · rfl
      · simp [abortReplies]
  | finished i reply env =>
      simp only [step, handle]
      cases hi : c.replies[i]? with
      | none => rfl
      | some p =>
          dsimp only
          split
          · exact handleReply_accessToken _ env (by simpa [endsSession, hi] using h)
          · rfl
  | _ => exact (c.step_quiet (by trivial)).1

/-! ### The login -/

@[simp] theorem vmRequested_loginRequestId (reply : NetworkReply) (env : BridgeEnv) :
    (c.vmRequested reply env).loginRequestId = c.loginRequestId := by
  unfold vmRequested
  dsimp only
  split
  · split
    · simp
    · split
      · simp
      · split <;> simp
  · split
    · simp
    · split <;> simp

@[simp] theorem heartbeatSent_loginRequestId (reply : NetworkReply) :
    (c.heartbeatSent reply).loginRequestId = c.loginRequestId := by
  unfold heartbeatSent
  dsimp only
  split
  · split <;> simp
  · rfl

@[simp] theorem handleAuthenticationResponse_loginRequestId (reply : NetworkReply) :
    (c.handleAuthenticationResponse reply).loginRequestId = c.loginRequestId := by
  unfold handleAuthenticationResponse
  dsimp only
  split
  · simp
  · split <;> simp

@[simp] theorem loginPolled_loginRequestId (reply : NetworkReply) :
    (c.loginPolled reply).loginRequestId = c.loginRequestId := by
  unfold loginPolled
  split
  · simp
  · split <;> simp

@[simp] theorem pairingApproved_loginRequestId (reply : NetworkReply) :
    (c.pairingApproved reply).loginRequestId = c.loginRequestId := by
  unfold pairingApproved
  split <;> simp

theorem loginStarted_loginRequestId (reply : NetworkReply) (opened : Bool) :
    (c.loginStarted reply opened).loginRequestId = c.loginRequestId ∨
      (c.loginStarted reply opened).loginRequestId = reply.body.string "requestId" := by
  unfold loginStarted
  split
  · exact .inl (by simp)
  · dsimp only
    split <;> exact .inr (by simp)

/-- **Step lemma.** A login id is dropped, or comes with the reply to a login start. -/
theorem loginRequestId_step (e : ClientEvent) :
    (c.step e).loginRequestId = c.loginRequestId ∨ (c.step e).loginRequestId = "" ∨
      ∃ i reply env p deviceId deviceName, e = .finished i reply env ∧ c.replies[i]? = some p ∧
        p.call = .startLogin deviceId deviceName ∧
        (c.step e).loginRequestId = reply.body.string "requestId" := by
  cases e with
  | logout =>
      simp only [step, handle, logout]
      split <;> simp
  | setUseLanCoordinator enabled =>
      simp only [step, handle, setUseLanCoordinator]
      split
      · exact .inl rfl
      · simp [abortReplies]
  | finished i reply env =>
      simp only [step, handle]
      split
      · next p hi =>
          split
          · cases hcall : p.call with
            | startLogin deviceId deviceName =>
                rcases loginStarted_loginRequestId (finish { c with shown := [] } i p) reply
                  env.opened with h | h
                · exact .inl h
                · exact .inr (.inr ⟨i, reply, env, p, _, _, rfl, hi, hcall, h⟩)
            | _ => simp [handleReply]
          · exact .inl rfl
      · exact .inl rfl
  | _ => exact .inl (c.step_quiet (by trivial)).2

/-! ### The requests -/

/-- Requests have been sent, none of them a poll. -/
def Sends (c c' : GilCoordinator) : Prop :=
  ∃ new, c'.replies = c.replies ++ new ∧
    ∀ p ∈ new, p.state = .waiting ∧ ∀ r, p.call ≠ .pollLogin r

variable {c} {c' : GilCoordinator}

theorem sends_of_eq (h : c'.replies = c.replies) : c.Sends c' :=
  ⟨[], by rw [h, List.append_nil], fun _ hp => absurd hp List.not_mem_nil⟩

theorem Sends.of_eq {c'' : GilCoordinator} (h : c.Sends c') (heq : c''.replies = c'.replies) :
    c.Sends c'' := by
  obtain ⟨new, hreplies, hnew⟩ := h
  exact ⟨new, heq.trans hreplies, hnew⟩

theorem sends_send (h : c'.replies = c.replies) {call : ClientCall} (authenticated : Bool)
    (hcall : ∀ r, call ≠ .pollLogin r) : c.Sends (c'.send call authenticated) := by
  refine ⟨_, by rw [send, h], fun p hp => ?_⟩
  rw [List.mem_singleton.mp hp]
  exact ⟨rfl, hcall⟩

theorem sends_requestVm (h : c'.replies = c.replies) : c.Sends c'.requestVm := by
  unfold requestVm
  split
  · exact sends_of_eq (by simp [h])
  · exact sends_send (by simp [h]) true (by simp)

theorem sends_startLogin (h : c'.replies = c.replies) : c.Sends c'.startLogin := by
  unfold startLogin
  split
  · exact sends_of_eq h
  · exact sends_send (by simp [h]) false (by simp)

theorem sends_skipLoginForDevelopment (h : c'.replies = c.replies) :
    c.Sends c'.skipLoginForDevelopment := by
  unfold skipLoginForDevelopment
  split
  · exact sends_of_eq h
  · exact sends_send (by simp [h]) false (by simp)

theorem sends_resumeSavedSession (h : c'.replies = c.replies) :
    c.Sends c'.resumeSavedSession := by
  unfold resumeSavedSession
  split
  · exact sends_of_eq h
  · exact sends_requestVm h

theorem sends_approvePairing (h : c'.replies = c.replies) (pin : String) :
    c.Sends (c'.approvePairing pin) := by
  unfold approvePairing
  split
  · exact sends_of_eq (by simp [h])
  · exact sends_send (by simp [h]) true (by simp)

theorem sends_sendHeartbeat (h : c'.replies = c.replies) : c.Sends c'.sendHeartbeat := by
  unfold sendHeartbeat
  split
  · exact sends_of_eq h
  · exact sends_send h true (by simp)

theorem sends_logout (h : c'.replies = c.replies) : c.Sends c'.logout := by
  unfold logout
  dsimp only
  split
  · have hsent : c.Sends (c'.send (.releaseLease c'.leaseId) true) :=
      sends_send h true (by simp)
    exact hsent.of_eq (by simp [send])
  · exact sends_of_eq (by simp [h])

theorem sends_releaseLease (h : c'.replies = c.replies) : c.Sends c'.releaseLease := by
  unfold releaseLease
  dsimp only
  split
  · exact sends_of_eq h
  · have hsent : c.Sends (c'.send (.releaseLease c'.leaseId) true) := sends_send h true (by simp)
    split <;> exact hsent

theorem completeAssignment_replies (p : RouteProbe) (useRelay : Bool) (env : BridgeEnv) :
    (c.completeAssignment p useRelay env).replies = c.replies := by
  unfold completeAssignment completeAssignment.assigned
  split
  · rfl
  · split
    · dsimp only
      split <;> simp
    · simp

theorem vmRequested_replies (reply : NetworkReply) (env : BridgeEnv) :
    (c.vmRequested reply env).replies = c.replies := by
  unfold vmRequested
  dsimp only
  split
  · split
    · simp
    · split
      · simp
      · split <;> simp
  · split
    · simp
    · split <;> simp [completeAssignment_replies]

theorem sends_handleAuthenticationResponse (h : c'.replies = c.replies) (reply : NetworkReply) :
    c.Sends (c'.handleAuthenticationResponse reply) := by
  unfold handleAuthenticationResponse
  dsimp only
  split
  · exact sends_of_eq (by simp [h])
  · split
    · exact sends_of_eq (by simp [h])
    · exact sends_requestVm (by simp [h])

theorem sends_handleReply (reply : NetworkReply) (env : ReplyEnv) (call : ClientCall) :
    c.Sends (c.handleReply reply env call) := by
  cases call with
  | startLogin deviceId deviceName =>
      simp only [handleReply, loginStarted]
      split
      · exact sends_of_eq (by simp)
      · split <;> exact sends_of_eq (by simp)
  | devLogin deviceId => exact sends_handleAuthenticationResponse rfl reply
  | pollLogin requestId =>
      simp only [handleReply, loginPolled]
      split
      · exact sends_of_eq (by simp)
      · split
        · exact sends_handleAuthenticationResponse rfl reply
        · exact sends_of_eq rfl
  | requestVm deviceId deviceName => exact sends_of_eq (vmRequested_replies reply env.bridge)
  | heartbeat leaseId =>
      simp only [handleReply, heartbeatSent]
      split
      · split <;> exact sends_of_eq (by simp)
      · exact sends_of_eq rfl
  | approvePairing leaseId pin =>
      simp only [handleReply, pairingApproved]
      split <;> exact sends_of_eq (by simp)
  | releaseLease leaseId => exact sends_of_eq rfl

/-- What becomes of a request that was sent before the event. -/
def progress (c : GilCoordinator) : ClientEvent → Nat → PendingReply → PendingReply
  | .finished i _ _, j, p =>
    if j = i ∧ p.state = .waiting then { p with state := .finished } else p
  | .setUseLanCoordinator enabled, _, p =>
    if c.useLanCoordinator ≠ enabled ∧ p.state = .waiting then { p with state := .aborted } else p
  | _, _, p => p

theorem progress_call (c : GilCoordinator) (e : ClientEvent) (j : Nat) (p : PendingReply) :
    (c.progress e j p).call = p.call := by
  unfold progress
  split
  · split <;> rfl
  · split <;> rfl
  · rfl

/-- A reply that is through has been so before, or comes now. -/
theorem progress_finished {e : ClientEvent} {j : Nat} {p : PendingReply}
    (h : (c.progress e j p).state = .finished) :
    p.state = .finished ∨ (p.state = .waiting ∧ ∃ reply env, e = .finished j reply env) := by
  unfold progress at h
  split at h
  · split at h
    · next hji => exact .inr ⟨hji.2, by rw [hji.1]; exact ⟨_, _, rfl⟩⟩
    · exact .inl h
  · split at h
    · exact absurd h (by simp)
    · exact .inl h
  · exact .inl h

/-- A reply that is not waited for changes no request. -/
theorem progress_not_waiting {i : Nat} (h : ∀ p, c.replies[i]? = some p → p.state ≠ .waiting)
    (reply : NetworkReply) (env : ReplyEnv) :
    c.replies.mapIdx (c.progress (.finished i reply env)) = c.replies := by
  refine Threads.mapIdx_eq_self fun j p hj => if_neg fun hji => ?_
  exact h p (hji.1 ▸ hj) hji.2

/-- A reply that is waited for changes the request it is for. -/
theorem progress_waiting {i : Nat} {p : PendingReply} (hi : c.replies[i]? = some p)
    (hwaiting : p.state = .waiting) (reply : NetworkReply) (env : ReplyEnv) :
    c.replies.mapIdx (c.progress (.finished i reply env)) = (c.finish i p).replies :=
  Threads.mapIdx_eq_set hi (if_pos ⟨rfl, hwaiting⟩) fun _ _ hj => if_neg fun hji => hj hji.1

/-- Going over to the other endpoint aborts what is under way. -/
theorem progress_setUseLanCoordinator (c : GilCoordinator) (enabled : Bool) :
    (c.setUseLanCoordinator enabled).replies =
      c.replies.mapIdx (c.progress (.setUseLanCoordinator enabled)) := by
  unfold setUseLanCoordinator
  by_cases henabled : c.useLanCoordinator = enabled
  · rw [if_pos henabled, Threads.mapIdx_eq_self fun j p _ => by simp [progress, henabled]]
  · rw [if_neg henabled]
    refine List.ext_getElem? fun j => ?_
    cases hj : c.replies[j]? <;>
      simp [abortReplies, progress, henabled, List.getElem?_mapIdx, hj]

/-- The handler runs when its reply finishes. -/
theorem step_finished {i : Nat} {p : PendingReply} (hi : c.replies[i]? = some p)
    (hwaiting : p.state = .waiting) (reply : NetworkReply) (env : ReplyEnv) :
    c.step (.finished i reply env) =
      (finish { c with shown := [] } i p).handleReply reply env p.call := by
  simp [step, handle, hi, hwaiting]

/-- A reply that has finished, or has been aborted, is not handled again. -/
theorem step_not_waiting {i : Nat} (h : ∀ p, c.replies[i]? = some p → p.state ≠ .waiting)
    (reply : NetworkReply) (env : ReplyEnv) :
    c.step (.finished i reply env) = { c with shown := [] } := by
  cases hi : c.replies[i]? with
  | none => simp [step, handle, hi]
  | some p => simp [step, handle, hi, h p hi]

/-- What an event sends: polls are for the login id of before. -/
def NewReply (c : GilCoordinator) (p : PendingReply) : Prop :=
  p.state = .waiting ∧ ∀ r, p.call = .pollLogin r → c.loginRequestId = r ∧ r ≠ ""

theorem Sends.replies (h : c.Sends c') (c₀ : GilCoordinator) :
    ∃ new, c'.replies = c.replies ++ new ∧ ∀ p ∈ new, c₀.NewReply p := by
  obtain ⟨new, heq, hnew⟩ := h
  exact ⟨new, heq, fun p hp => ⟨(hnew p hp).1, fun r hr => absurd hr ((hnew p hp).2 r)⟩⟩

/-- A poll is for the login id. -/
theorem pollLogin_replies (c : GilCoordinator) :
    ∃ new, c.pollLogin.replies = c.replies ++ new ∧ ∀ p ∈ new, c.NewReply p := by
  unfold pollLogin
  split
  · exact ⟨[], by simp, by simp⟩
  · next hid =>
      refine ⟨_, rfl, fun p hp => ?_⟩
      rw [List.mem_singleton.mp hp]
      refine ⟨rfl, fun r hr => ?_⟩
      obtain rfl := ClientCall.pollLogin.inj hr
      exact ⟨rfl, hid⟩

/-- **Step lemma.** -/
theorem replies_step (c : GilCoordinator) (e : ClientEvent) :
    ∃ new, (c.step e).replies = c.replies.mapIdx (c.progress e) ++ new ∧
      ∀ p ∈ new, c.NewReply p := by
  have hsame : ∀ {c'}, (∀ j p, c.progress e j p = p) → c.Sends c' →
      ∃ new, c'.replies = c.replies.mapIdx (c.progress e) ++ new ∧ ∀ p ∈ new, c.NewReply p := by
    intro c' hprogress hsends
    rw [Threads.mapIdx_eq_self fun j p _ => hprogress j p]
    exact hsends.replies c
  cases e with
  | startLogin => exact hsame (fun _ _ => rfl) (sends_startLogin rfl)
  | skipLoginForDevelopment =>
      exact hsame (fun _ _ => rfl) (sends_skipLoginForDevelopment rfl)
  | requestVm => exact hsame (fun _ _ => rfl) (sends_requestVm rfl)
  | resumeSavedSession => exact hsame (fun _ _ => rfl) (sends_resumeSavedSession rfl)
  | approvePairing pin => exact hsame (fun _ _ => rfl) (sends_approvePairing rfl pin)
  | releaseLease => exact hsame (fun _ _ => rfl) (sends_releaseLease rfl)
  | logout => exact hsame (fun _ _ => rfl) (sends_logout rfl)
  | setUseLanCoordinator enabled =>
      refine ⟨[], ?_, by simp⟩
      rw [List.append_nil]
      exact progress_setUseLanCoordinator { c with shown := [] } enabled
  | aboutToQuit => exact hsame (fun _ _ => rfl) (sends_releaseLease rfl)
  | loginPollTimeout =>
      rw [show c.replies.mapIdx (c.progress .loginPollTimeout) = c.replies from
        Threads.mapIdx_eq_self fun _ _ _ => rfl]
      simp only [step, handle]
      split
      · exact pollLogin_replies { c with shown := [] }
      · exact ⟨[], by simp, by simp⟩
  | heartbeatTimeout =>
      refine hsame (fun _ _ => rfl) ?_
      simp only [step, handle]
      split
      · exact sends_sendHeartbeat rfl
      · exact sends_of_eq rfl
  | finished i reply env =>
      by_cases hi : ∃ p, c.replies[i]? = some p ∧ p.state = .waiting
      · obtain ⟨p, hi, hwaiting⟩ := hi
        rw [step_finished hi hwaiting, progress_waiting hi hwaiting]
        exact (sends_handleReply reply env p.call).replies c
      · have hnone : ∀ p, c.replies[i]? = some p → p.state ≠ .waiting :=
          fun p hp hwaiting => hi ⟨p, hp, hwaiting⟩
        rw [step_not_waiting hnone, progress_not_waiting hnone]
        exact ⟨[], by simp, by simp⟩
  | probed i useRelay env =>
      refine hsame (fun _ _ => rfl) ?_
      simp only [step, handle]
      split
      · split
        · exact sends_of_eq rfl
        · exact sends_of_eq (completeAssignment_replies ..)
      · exact sends_of_eq rfl

/-- A request stays where it is. -/
theorem reply_kept (e : ClientEvent) {j : Nat} {p : PendingReply} (h : c.replies[j]? = some p) :
    (c.step e).replies[j]? = some (c.progress e j p) := by
  obtain ⟨new, heq, -⟩ := c.replies_step e
  have hmap : (c.replies.mapIdx (c.progress e))[j]? = some (c.progress e j p) := by
    rw [List.getElem?_mapIdx, h]
    rfl
  rw [heq, List.getElem?_append_left (List.getElem?_eq_some_iff.mp hmap).1]
  exact hmap

/-- A request after a step was there before, or has just been sent. -/
theorem reply_step {e : ClientEvent} {j : Nat} {p' : PendingReply}
    (h : (c.step e).replies[j]? = some p') :
    (∃ p, c.replies[j]? = some p ∧ p' = c.progress e j p) ∨
      (c.replies[j]? = none ∧ c.NewReply p') := by
  cases hj : c.replies[j]? with
  | some p => exact .inl ⟨p, rfl, Option.some.inj (h.symm.trans (reply_kept e hj))⟩
  | none =>
      obtain ⟨new, heq, hnew⟩ := c.replies_step e
      have hlength : c.replies.length ≤ j := List.getElem?_eq_none_iff.mp hj
      rw [heq, List.getElem?_append_right (by simpa using hlength)] at h
      exact .inr ⟨rfl, hnew p' (List.mem_of_getElem? h)⟩

end GilCoordinator

end GilStreaming.Client
