import GilStreaming.Client.Assignment

/-!
# GilStreaming.Client.Requests

What a step asks of the coordinator.

`GilCoordinator.requests` reads off the event and the state it comes to which requests are
sent, as `change` does for the assignment. `calls_step` says that these are appended, and
`sent_of_run` finds the step at which a request has been sent.
-/

namespace GilStreaming.Client

open GilStreaming.Trace

namespace GilCoordinator

variable (c : GilCoordinator)

/-- The requests of the client, in the order in which they were sent. -/
def calls : List ClientCall := c.replies.map PendingReply.call

/-- A lease request; there is none without a session. -/
def leaseRequests : List ClientCall :=
  if c.accessToken = "" then [] else [.requestVm c.config.deviceId c.config.machineHostName]

/-- A request about the lease; there is none without a lease and a session. -/
def aboutLease (call : String → ClientCall) : List ClientCall :=
  if c.leaseId = "" ∨ c.accessToken = "" then [] else [call c.leaseId]

/-- A sign-in is followed by a lease request, if it has brought a session. -/
def afterSignIn : Change → List ClientCall
  | .signIn token =>
    if token = "" then [] else [.requestVm c.config.deviceId c.config.machineHostName]
  | _ => []

/-- What an event sends. -/
def requests : ClientEvent → List ClientCall
  | .startLogin =>
    if c.busy then [] else [.startLogin c.config.deviceId c.config.machineHostName]
  | .skipLoginForDevelopment =>
    if !c.config.developmentBuild || c.busy then [] else [.devLogin c.config.deviceId]
  | .requestVm => c.leaseRequests
  | .resumeSavedSession => if c.restoreAttempted then [] else c.leaseRequests
  | .approvePairing pin => c.aboutLease (.approvePairing · pin)
  | .releaseLease => c.aboutLease .releaseLease
  | .logout => c.aboutLease .releaseLease
  | .aboutToQuit => c.aboutLease .releaseLease
  | .loginPollTimeout =>
    if c.loginPollTimer = false ∨ c.loginRequestId = "" then [] else [.pollLogin c.loginRequestId]
  | .heartbeatTimeout => if c.heartbeatTimer then c.aboutLease .heartbeat else []
  | .finished i reply env => c.afterSignIn (c.change (.finished i reply env))
  | _ => []

variable {c} {c' : GilCoordinator}

theorem calls_of_eq (h : c'.replies = c.replies) : c'.calls = c.calls ++ [] := by
  rw [calls, h, List.append_nil, calls]

theorem calls_send (h : c'.replies = c.replies) (call : ClientCall) (authenticated : Bool) :
    (c'.send call authenticated).calls = c.calls ++ [call] := by
  simp [calls, send, h]

theorem calls_requestVm (h : c'.replies = c.replies) (htoken : c'.accessToken = c.accessToken)
    (hconfig : c'.config = c.config) : c'.requestVm.calls = c.calls ++ c.leaseRequests := by
  unfold requestVm leaseRequests
  rw [htoken]
  split
  · exact calls_of_eq (by simp [h])
  · rw [calls_send (c := c) (by simp [h]), hconfig]

theorem calls_releaseLease (h : c'.replies = c.replies) (hlease : c'.leaseId = c.leaseId)
    (htoken : c'.accessToken = c.accessToken) :
    c'.releaseLease.calls = c.calls ++ c.aboutLease .releaseLease := by
  unfold releaseLease aboutLease
  dsimp only
  rw [hlease, htoken]
  split
  · exact calls_of_eq h
  · split <;> exact calls_send h _ true

theorem calls_logout (h : c'.replies = c.replies) (hlease : c'.leaseId = c.leaseId)
    (htoken : c'.accessToken = c.accessToken) :
    c'.logout.calls = c.calls ++ c.aboutLease .releaseLease := by
  unfold logout aboutLease
  dsimp only
  rw [hlease, htoken]
  by_cases hnone : c.leaseId = "" ∨ c.accessToken = ""
  · rw [if_pos hnone, if_neg fun hboth => hnone.elim hboth.1 hboth.2]
    exact calls_of_eq (by simp [h])
  · rw [if_neg hnone, if_pos ⟨fun h => hnone (.inl h), fun h => hnone (.inr h)⟩]
    simp [calls, send, h]

theorem calls_handleAuthenticationResponse (h : c'.replies = c.replies)
    (hconfig : c'.config = c.config) {reply : NetworkReply} (herror : reply.error = .noError) :
    (c'.handleAuthenticationResponse reply).calls =
      c.calls ++ c.afterSignIn (.signIn (reply.body.string "accessToken")) := by
  unfold handleAuthenticationResponse afterSignIn
  rw [if_neg (not_not.mpr herror)]
  dsimp only
  split
  · exact calls_of_eq (by simp [h])
  · next htoken =>
      unfold requestVm
      rw [if_neg (by simpa using htoken), calls_send (c := c) (by simp [h]), ← hconfig]
      rfl

theorem calls_handleReply (h : c'.replies = c.replies) (hconfig : c'.config = c.config)
    (reply : NetworkReply) (env : ReplyEnv) (call : ClientCall) :
    (c'.handleReply reply env call).calls =
      c.calls ++ c.afterSignIn (c'.replyChange reply call) := by
  cases call with
  | startLogin deviceId deviceName =>
      simp only [handleReply, loginStarted, replyChange]
      split
      · exact calls_of_eq (by simp [h])
      · split <;> exact calls_of_eq (by simp [h])
  | devLogin deviceId =>
      simp only [handleReply, replyChange]
      by_cases herror : reply.error = .noError
      · rw [calls_handleAuthenticationResponse h hconfig herror, if_neg (not_not.mpr herror)]
      · rw [if_pos herror, handleAuthenticationResponse, if_pos herror]
        exact calls_of_eq (by simp [h])
  | pollLogin requestId =>
      simp only [handleReply, loginPolled, replyChange]
      by_cases herror : reply.error = .noError
      · rw [if_neg (not_not.mpr herror), if_neg (not_not.mpr herror)]
        split
        · exact @calls_handleAuthenticationResponse c { c' with loginPollTimer := false } h
            hconfig reply herror
        · exact calls_of_eq h
      · rw [if_pos herror, if_pos herror]
        exact calls_of_eq (by simp [h])
  | requestVm deviceId deviceName =>
      have hframe : (c'.vmRequested reply env.bridge).replies = c.replies :=
        (vmRequested_replies reply env.bridge).trans h
      refine (calls_of_eq hframe).trans (congrArg (c.calls ++ ·) ?_)
      simp only [replyChange]
      split
      · split <;> rfl
      · split <;> rfl
  | heartbeat leaseId =>
      simp only [handleReply, heartbeatSent, replyChange]
      split
      · split <;> exact calls_of_eq (by simp [h])
      · exact calls_of_eq h
  | approvePairing leaseId pin =>
      simp only [handleReply, pairingApproved, replyChange]
      split <;> exact calls_of_eq (by simp [h])
  | releaseLease leaseId => exact calls_of_eq h

/-- A reply that has finished was a request all the same. -/
theorem calls_finish {i : Nat} {p : PendingReply} (hi : c.replies[i]? = some p) :
    (c.finish i p).calls = c.calls := by
  simp only [calls, finish]
  refine List.ext_getElem? fun j => ?_
  rw [List.getElem?_map, List.getElem?_map]
  by_cases hj : j = i
  · subst hj
    rw [hi, List.getElem?_set_self (List.getElem?_eq_some_iff.mp hi).1]
    rfl
  · rw [List.getElem?_set_ne (Ne.symm hj)]

/-- **Step lemma.** What a step sends. -/
theorem calls_step (c : GilCoordinator) (e : ClientEvent) :
    (c.step e).calls = c.calls ++ c.requests e := by
  unfold step
  cases e with
  | startLogin =>
      simp only [handle, startLogin, requests]
      split
      · exact calls_of_eq rfl
      · exact calls_send (by simp) _ false
  | skipLoginForDevelopment =>
      simp only [handle, skipLoginForDevelopment, requests]
      split
      · exact calls_of_eq rfl
      · exact calls_send (by simp) _ false
  | requestVm => exact calls_requestVm rfl rfl rfl
  | resumeSavedSession =>
      simp only [handle, resumeSavedSession, requests]
      -- the source asks for a token twice, here and in `requestVm`
      by_cases hattempted : c.restoreAttempted = true
      · rw [if_pos (by simp [hattempted]), if_pos hattempted]
        exact calls_of_eq rfl
      · rw [if_neg hattempted]
        split
        · next hskip =>
            have htoken : c.accessToken = "" := by simpa [hattempted] using hskip
            rw [leaseRequests, if_pos htoken]
            exact calls_of_eq rfl
        · exact calls_requestVm rfl rfl rfl
  | approvePairing pin =>
      simp only [handle, approvePairing, requests, aboutLease]
      split
      · exact calls_of_eq rfl
      · exact calls_send (by simp) _ true
  | releaseLease => exact calls_releaseLease rfl rfl rfl
  | logout => exact calls_logout rfl rfl rfl
  | setUseLanCoordinator enabled =>
      -- an aborted reply belongs to a request all the same
      simp only [handle, progress_setUseLanCoordinator, requests, calls, List.append_nil]
      refine List.ext_getElem? fun j => ?_
      rw [List.getElem?_map, List.getElem?_mapIdx, List.getElem?_map]
      cases c.replies[j]? with
      | none => rfl
      | some p => exact congrArg some (progress_call ..)
  | aboutToQuit => exact calls_releaseLease rfl rfl rfl
  | loginPollTimeout =>
      simp only [handle, pollLogin, requests]
      by_cases htimer : c.loginPollTimer = true
      · rw [if_pos htimer]
        by_cases hid : c.loginRequestId = ""
        · rw [if_pos hid, if_pos (.inr hid)]
          exact calls_of_eq rfl
        · rw [if_neg hid, if_neg (by simp [htimer, hid])]
          exact calls_send rfl _ false
      · rw [if_neg htimer, if_pos (.inl (by simpa using htimer))]
        exact calls_of_eq rfl
  | heartbeatTimeout =>
      simp only [handle, sendHeartbeat, requests, aboutLease]
      split
      · split
        · exact calls_of_eq rfl
        · exact calls_send rfl _ true
      · exact calls_of_eq rfl
  | finished i reply env =>
      simp only [handle, requests, change]
      cases hi : c.replies[i]? with
      | none => exact calls_of_eq rfl
      | some p =>
          dsimp only
          split
          · have hframe : (finish { c with shown := [] } i p).calls = c.calls := calls_finish hi
            rw [← hframe]
            exact calls_handleReply rfl rfl reply env p.call
          · exact calls_of_eq rfl
  | probed i useRelay env =>
      simp only [handle, requests]
      split
      · split
        · exact calls_of_eq rfl
        · exact calls_of_eq (completeAssignment_replies ..)
      · exact calls_of_eq rfl

/-- **Run lemma.** A request of the client has been sent before, or by a step of the run. -/
theorem sent_of_run {es : List ClientEvent} {i : Nat} {call : ClientCall}
    (h : (run step c es).calls[i]? = some call) :
    c.calls[i]? = some call ∨
      ∃ pre e post, es = pre ++ e :: post ∧ call ∈ (run step c pre).requests e ∧
        (run step c pre).calls.length ≤ i ∧ i < (run step c (pre ++ [e])).calls.length := by
  induction es using List.reverseRecOn with
  | nil => exact .inl h
  | append_singleton es e ih =>
      by_cases hi : i < (run step c es).calls.length
      · rw [run_concat, calls_step, List.getElem?_append_left hi] at h
        rcases ih h with hbefore | ⟨pre, e', post, rfl, hsent⟩
        · exact .inl hbefore
        · exact .inr ⟨pre, e', post ++ [e], by simp, hsent⟩
      · have hlt := (List.getElem?_eq_some_iff.mp h).1
        rw [run_concat, calls_step, List.getElem?_append_right (Nat.not_lt.mp hi)] at h
        exact .inr ⟨es, e, [], rfl, List.mem_of_getElem? h, Nat.not_lt.mp hi, hlt⟩

/-! ### Route probes -/

/-- The probe that an answer to a lease request asks for. -/
def probeOf (reply : NetworkReply) : RouteProbe :=
  let host := reply.body.object "host"
  let relay := reply.body.object "relay"
  ⟨host.stringOr "name" (host.string "address"), relay.string "url", relay.int "basePort",
    host.string "address", host.int "port", reply.body.string "leaseId", false⟩

/-- The answer to a lease request starts a probe. -/
def StartsProbe (c : GilCoordinator) (reply : NetworkReply) : Prop :=
  reply.error = .noError ∧ ¬ InvalidAssignment reply ∧ ¬ c.Direct reply

instance (c : GilCoordinator) (reply : NetworkReply) : Decidable (c.StartsProbe reply) :=
  inferInstanceAs (Decidable (_ ∧ _))

/-- The probes that an event starts. -/
def newProbes (c : GilCoordinator) : ClientEvent → List RouteProbe
  | .finished i reply _ =>
    match c.replies[i]? with
    | some ⟨.requestVm _ _, _, _, .waiting⟩ => if c.StartsProbe reply then [probeOf reply] else []
    | _ => []
  | _ => []

/-- What becomes of a probe that is there before the event. -/
def probeAfter : ClientEvent → Nat → RouteProbe → RouteProbe
  | .probed i _ _, k, p => if k = i then { p with finished := true } else p
  | _, _, p => p

@[simp] theorem emit_probes (c : GilCoordinator) (s : Shown) : (c.emit s).probes = c.probes := rfl

@[simp] theorem setBusy_probes (c : GilCoordinator) (busy : Bool) :
    (c.setBusy busy).probes = c.probes := by
  rw [setBusy_eq]

@[simp] theorem setStatus_probes (c : GilCoordinator) (status : String) :
    (c.setStatus status).probes = c.probes := by
  rw [setStatus_eq]

@[simp] theorem fail_probes (c : GilCoordinator) (message : String) :
    (c.fail message).probes = c.probes := by
  simp [fail]

@[simp] theorem send_probes (c : GilCoordinator) (call : ClientCall) (authenticated : Bool) :
    (c.send call authenticated).probes = c.probes := rfl

@[simp] theorem saveSession_probes (c : GilCoordinator) : c.saveSession.probes = c.probes := rfl

@[simp] theorem clearSession_probes (c : GilCoordinator) :
    c.clearSession.probes = c.probes := by
  unfold clearSession
  dsimp only
  split <;> rfl

@[simp] theorem requestVm_probes (c : GilCoordinator) : c.requestVm.probes = c.probes := by
  unfold requestVm
  split <;> simp

@[simp] theorem releaseLease_probes (c : GilCoordinator) :
    c.releaseLease.probes = c.probes := by
  unfold releaseLease
  dsimp only
  split
  · rfl
  · split <;> rfl

@[simp] theorem completeAssignment_probes (c : GilCoordinator) (p : RouteProbe) (useRelay : Bool)
    (env : BridgeEnv) : (c.completeAssignment p useRelay env).probes = c.probes := by
  unfold completeAssignment completeAssignment.assigned
  split
  · rfl
  · split
    · dsimp only
      split <;> simp
    · simp

@[simp] theorem handleAuthenticationResponse_probes (c : GilCoordinator) (reply : NetworkReply) :
    (c.handleAuthenticationResponse reply).probes = c.probes := by
  unfold handleAuthenticationResponse
  dsimp only
  split
  · simp
  · split <;> simp

theorem vmRequested_probes (c : GilCoordinator) (reply : NetworkReply) (env : BridgeEnv) :
    (c.vmRequested reply env).probes =
      c.probes ++ if c.StartsProbe reply then [probeOf reply] else [] := by
  unfold vmRequested
  by_cases herror : reply.error = .noError
  · rw [if_neg (not_not.mpr herror)]
    dsimp only
    split
    · next hinvalid =>
        rw [if_neg fun h : c.StartsProbe reply => h.2.1 hinvalid]
        simp
    · next hvalid =>
        split
        · next hdirect =>
            rw [if_neg fun h : c.StartsProbe reply => h.2.2 hdirect]
            simp
        · next hprobe =>
            have hstarts : c.StartsProbe reply := ⟨herror, hvalid, hprobe⟩
            rw [if_pos hstarts, setStatus_probes]
            rfl
  · rw [if_pos herror, if_neg fun h : c.StartsProbe reply => herror h.1, List.append_nil]
    split
    · simp
    · split
      · simp
      · split <;> simp

theorem handleReply_probes (c : GilCoordinator) (reply : NetworkReply) (env : ReplyEnv)
    (call : ClientCall) :
    (c.handleReply reply env call).probes = c.probes ++
      match call with
      | .requestVm _ _ => if c.StartsProbe reply then [probeOf reply] else []
      | _ => [] := by
  cases call with
  | startLogin deviceId deviceName =>
      simp only [handleReply, loginStarted]
      split
      · simp
      · split <;> simp
  | devLogin deviceId => simp [handleReply]
  | pollLogin requestId =>
      simp only [handleReply, loginPolled]
      split
      · simp
      · split <;> simp
  | requestVm deviceId deviceName => exact c.vmRequested_probes reply env.bridge
  | heartbeat leaseId =>
      simp only [handleReply, heartbeatSent]
      split
      · split <;> simp
      · simp
  | approvePairing leaseId pin =>
      simp only [handleReply, pairingApproved]
      split <;> simp
  | releaseLease leaseId => simp [handleReply]

/-- A step that is no reply and no probe leaves the probes alone. -/
theorem handle_probes (c : GilCoordinator) {e : ClientEvent}
    (hreply : ∀ i reply env, e ≠ .finished i reply env)
    (hprobe : ∀ i useRelay env, e ≠ .probed i useRelay env) :
    (c.handle e).probes = c.probes := by
  cases e with
  | startLogin =>
      simp only [handle, startLogin]
      split <;> simp
  | skipLoginForDevelopment =>
      simp only [handle, skipLoginForDevelopment]
      split <;> simp
  | requestVm => exact requestVm_probes c
  | resumeSavedSession =>
      simp only [handle, resumeSavedSession]
      split <;> simp
  | approvePairing pin =>
      simp only [handle, approvePairing]
      split <;> simp
  | releaseLease => exact releaseLease_probes c
  | logout =>
      simp only [handle, logout]
      split <;> simp
  | setUseLanCoordinator enabled =>
      simp only [handle, setUseLanCoordinator]
      split
      · rfl
      · simp [abortReplies]
  | aboutToQuit => exact releaseLease_probes _
  | loginPollTimeout =>
      simp only [handle, pollLogin]
      split
      · split <;> simp
      · rfl
  | heartbeatTimeout =>
      simp only [handle, sendHeartbeat]
      split
      · split <;> simp
      · rfl
  | finished i reply env => exact absurd rfl (hreply i reply env)
  | probed i useRelay env => exact absurd rfl (hprobe i useRelay env)

/-- **Step lemma.** What becomes of the probes. -/
theorem probes_step (c : GilCoordinator) (e : ClientEvent) :
    (c.step e).probes = c.probes.mapIdx (probeAfter e) ++ c.newProbes e := by
  unfold step
  cases e with
  | finished i reply env =>
      have hkept : c.probes.mapIdx (probeAfter (.finished i reply env)) = c.probes :=
        Threads.mapIdx_eq_self fun _ _ _ => rfl
      rw [hkept]
      simp only [handle, newProbes]
      cases hi : c.replies[i]? with
      | none => simp
      | some p =>
          obtain ⟨call, authorization, lan, state⟩ := p
          cases state with
          | waiting =>
              simp only [if_true]
              rw [handleReply_probes]
              cases call <;> rfl
          | finished | aborted => cases call <;> simp
  | probed i useRelay env =>
      simp only [handle, newProbes, List.append_nil]
      cases hi : c.probes[i]? with
      | none =>
          refine (Threads.mapIdx_eq_self fun k p hk => if_neg fun hki => ?_).symm
          rw [hki, hi] at hk
          exact absurd hk (by simp)
      | some p =>
          have hset : c.probes.mapIdx (probeAfter (.probed i useRelay env)) =
              c.probes.set i { p with finished := true } :=
            Threads.mapIdx_eq_set hi (if_pos rfl) fun _ _ hk => if_neg hk
          dsimp only
          split
          · -- the result of a probe is handled once
            next hfinished =>
              rw [hset]
              have heq : { p with finished := true } = p := by rw [← hfinished]
              obtain ⟨hlt, rfl⟩ := List.getElem?_eq_some_iff.mp hi
              rw [heq, List.set_getElem_self]
          · rw [completeAssignment_probes, hset]
  | _ =>
      have hkept : ∀ {e : ClientEvent}, (∀ k p, probeAfter e k p = p) →
          c.probes.mapIdx (probeAfter e) = c.probes := fun h =>
        Threads.mapIdx_eq_self fun k p _ => h k p
      rw [hkept fun _ _ => rfl, handle_probes _ (by simp) (by simp)]
      exact (List.append_nil _).symm

end GilCoordinator

end GilStreaming.Client
