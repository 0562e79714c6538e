import GilStreaming.Client.Requests

/-!
# GilStreaming.Client.Revocation

What ends an assignment, and whether it stays ended.

A heartbeat that fails revokes whatever lease the client holds when the reply comes, so
that a reply which is late revokes another lease than its own. After a logout the replies
that are still under way are handled as ever, and one that brings a token or a lease
undoes it. Both go right exactly as long as no such reply is late.
-/

namespace GilStreaming.Client

open GilStreaming.Trace

namespace GilCoordinator

variable {c : GilCoordinator} {e : ClientEvent}

/-! ### Heartbeats -/

/-- The reply to a heartbeat for the lease fails, with something other than 401. -/
def HeartbeatFails (c : GilCoordinator) (e : ClientEvent) (leaseId : String) : Prop :=
  ∃ i reply env p, e = .finished i reply env ∧ c.replies[i]? = some p ∧ p.state = .waiting ∧
    p.call = .heartbeat leaseId ∧ reply.error ≠ .noError ∧ reply.statusCode ≠ 401

/-- The step takes something of an assignment away, or says so. -/
def Revokes (c : GilCoordinator) (e : ClientEvent) : Prop :=
  (c.leaseId ≠ "" ∧ (c.step e).leaseId = "") ∨
    (c.heartbeatTimer = true ∧ (c.step e).heartbeatTimer = false) ∨
    (c.relayBridge.running = true ∧ (c.step e).relayBridge.running = false) ∨
    .assignmentRevoked ∈ (c.step e).shown

/-- A heartbeat that fails revokes nothing but the lease it was sent for. -/
def RevokesOwnLease (c : GilCoordinator) (e : ClientEvent) : Prop :=
  ∀ leaseId, c.HeartbeatFails e leaseId → c.Revokes e → c.leaseId = leaseId

/-- A heartbeat is overtaken: it fails after the events since it was sent have taken its
lease away, or brought another one. -/
def Overtaken (c : GilCoordinator) (es : List ClientEvent) : Prop :=
  ∃ pre mid post i reply env leaseId,
    es = pre ++ .heartbeatTimeout :: (mid ++ .finished i reply env :: post) ∧
    .heartbeat leaseId ∈ (run step c pre).requests .heartbeatTimeout ∧
    i = (run step c pre).replies.length ∧
    (run step c (pre ++ .heartbeatTimeout :: mid)).HeartbeatFails (.finished i reply env) leaseId ∧
    leaseAfter leaseId (run step c (pre ++ [.heartbeatTimeout])) mid ≠ leaseId

/-- The handler does not look at the lease that the heartbeat was sent for. -/
theorem HeartbeatFails.revokes {leaseId : String} (h : c.HeartbeatFails e leaseId) :
    c.Revokes e := by
  obtain ⟨i, reply, env, p, rfl, hi, hwaiting, hcall, herror, -⟩ := h
  refine .inr (.inr (.inr ?_))
  rw [step_finished hi hwaiting, hcall]
  simp only [handleReply, heartbeatSent, if_pos herror]
  exact List.mem_append_right _ (List.mem_singleton_self _)

/-- A heartbeat is sent by the timer, for the lease of the moment. -/
theorem heartbeat_mem_requests {leaseId : String} (h : .heartbeat leaseId ∈ c.requests e) :
    e = .heartbeatTimeout ∧ c.leaseId = leaseId ∧ (c.requests e).length = 1 := by
  cases e with
  | heartbeatTimeout =>
      simp only [requests, aboutLease] at h ⊢
      split at h
      · next htimer =>
          rw [if_pos htimer]
          split at h
          · exact absurd h List.not_mem_nil
          · next hactive =>
              rw [if_neg hactive]
              exact ⟨trivial, (ClientCall.heartbeat.inj (List.mem_singleton.mp h)).symm, rfl⟩
      · exact absurd h List.not_mem_nil
  | finished i reply env =>
      simp only [requests, afterSignIn] at h
      split at h
      · split at h <;> simp at h
      · simp at h
  | _ =>
      simp only [requests, leaseRequests, aboutLease] at h
      repeat' split at h
      all_goals simp at h

/-- The lease that the client holds after a heartbeat and what has come since. -/
theorem leaseId_since_heartbeat {leaseId : String} {pre : List ClientEvent}
    (h : .heartbeat leaseId ∈ (run step c pre).requests .heartbeatTimeout)
    (mid : List ClientEvent) :
    (run step c (pre ++ .heartbeatTimeout :: mid)).leaseId =
      leaseAfter leaseId (run step c (pre ++ [.heartbeatTimeout])) mid := by
  have hlease : (run step c (pre ++ [.heartbeatTimeout])).leaseId = leaseId := by
    rw [run_concat]
    exact (congrArg Assignment.leaseId ((run step c pre).assignment_step _)).trans
      (heartbeat_mem_requests h).2.1
  rw [List.append_cons, run_append, leaseId_run, hlease]

end GilCoordinator

open GilCoordinator in
/-- **Revocation.** Along every history, no failed heartbeat revokes another lease than
its own if and only if none is overtaken. -/
theorem heartbeat_revokes_own_iff (config : ClientConfig) (settings : CoordinatorSettings)
    (es : List ClientEvent) :
    AllSteps step RevokesOwnLease (.create config settings) es ↔
      ¬ Overtaken (.create config settings) es := by
  constructor
  · rintro h ⟨pre, mid, post, i, reply, env, leaseId, rfl, hsent, rfl, hfails, hother⟩
    have hown := allSteps_iff.mp h (pre ++ .heartbeatTimeout :: mid) _ post (by simp) leaseId
      hfails hfails.revokes
    exact hother ((leaseId_since_heartbeat hsent mid).symm.trans hown)
  · refine fun h => allSteps_iff.mpr fun before e post hes leaseId hfails _ => ?_
    obtain ⟨i, reply, env, p, rfl, hi, hwaiting, hcall, hfailed⟩ := id hfails
    have hcalls : (run step (.create config settings) before).calls[i]? =
        some (.heartbeat leaseId) := by
      rw [calls, List.getElem?_map, hi, Option.map_some, hcall]
    -- back to the timer event that has sent the heartbeat
    rcases sent_of_run hcalls with hbefore | ⟨pre, e, mid, rfl, hsent, hle, hlt⟩
    · exact absurd hbefore (by simp [calls, create])
    · obtain ⟨rfl, -, hone⟩ := heartbeat_mem_requests hsent
      rw [run_concat, calls_step, List.length_append, hone] at hlt
      have hindex : i = (run step (.create config settings) pre).replies.length := by
        simp only [calls, List.length_map] at hle hlt
        omega
      rw [leaseId_since_heartbeat hsent]
      exact not_not.mp fun hother => h ⟨pre, mid, post, i, reply, env, leaseId, by simp [hes],
        hsent, hindex, hfails, hother⟩

/-- A heartbeat is under way when its lease is given up and another one granted. -/
def lateHeartbeat : List ClientEvent :=
  [.requestVm, .finished 0 (grantReply "lease-1" []) goodEnv, .heartbeatTimeout, .releaseLease,
    .requestVm, .finished 3 (grantReply "lease-2" []) goodEnv,
    .finished 1 ⟨.otherError, 410, []⟩ goodEnv]

/-- It fails, and revokes the other lease. -/
theorem lateHeartbeat_revokes_other :
    ¬ AllSteps GilCoordinator.step GilCoordinator.RevokesOwnLease savedClient lateHeartbeat := by
  intro h
  have hown := allSteps_iff.mp h (lateHeartbeat.take 6) _ [] rfl
  have hfails : (run GilCoordinator.step savedClient (lateHeartbeat.take 6)).HeartbeatFails
      (.finished 1 ⟨.otherError, 410, []⟩ goodEnv) "lease-1" :=
    ⟨1, _, _, ⟨.heartbeat "lease-1", some "token", false, .waiting⟩, rfl, by decide +kernel, rfl,
      rfl, by decide, by decide⟩
  have hcleared : (run GilCoordinator.step savedClient lateHeartbeat).leaseId = "" := by
    decide +kernel
  exact absurd (hown "lease-1" hfails (.inl ⟨by decide +kernel, hcleared⟩)) (by decide +kernel)

/-! ### Logout -/

/-- Nothing is left of a session or a lease. -/
structure Assignment.SignedOut (a : Assignment) : Prop where
  accessToken : a.accessToken = ""
  savedToken : a.savedToken = ""
  leaseId : a.leaseId = ""
  relayBridge : a.relayBridge.running = false
  heartbeatTimer : a.heartbeatTimer = false

/-- The user starts a login. -/
def ClientEvent.startsLogin : ClientEvent → Bool
  | .startLogin => true
  | .skipLoginForDevelopment => true
  | _ => false

/-- The change brings a token, or a lease. -/
def Change.brings : Change → Bool
  | .signIn token => token ≠ ""
  | .grant leaseId => leaseId ≠ ""
  | .connect _ _ => true
  | _ => false

/-- **Step lemma.** What is signed out stays so, unless the change brings something. -/
theorem Assignment.SignedOut.apply_iff {a : Assignment} (h : a.SignedOut) (x : Change) :
    ((x.apply a).SignedOut ∧ x.hosts = 0) ↔ x.brings = false := by
  cases x with
  | stay => exact iff_of_true ⟨h, rfl⟩ rfl
  | drop => exact iff_of_true ⟨⟨h.accessToken, h.savedToken, rfl, rfl, rfl⟩, rfl⟩ rfl
  | signOut => exact iff_of_true ⟨⟨rfl, rfl, rfl, rfl, rfl⟩, rfl⟩ rfl
  | expire => exact iff_of_true ⟨⟨rfl, rfl, h.leaseId, rfl, h.heartbeatTimer⟩, rfl⟩ rfl
  | unreachable =>
      exact iff_of_true ⟨⟨h.accessToken, h.savedToken, h.leaseId, rfl, h.heartbeatTimer⟩, rfl⟩ rfl
  | signIn token =>
      by_cases htoken : token = ""
      · subst htoken
        exact iff_of_true
          ⟨⟨rfl, h.savedToken, h.leaseId, h.relayBridge, h.heartbeatTimer⟩, rfl⟩ rfl
      · exact iff_of_false (fun hout => htoken hout.1.accessToken) (by simp [Change.brings, htoken])
  | grant leaseId =>
      by_cases hlease : leaseId = ""
      · subst hlease
        exact iff_of_true
          ⟨⟨h.accessToken, h.savedToken, rfl, h.relayBridge, h.heartbeatTimer⟩, rfl⟩ rfl
      · exact iff_of_false (fun hout => hlease hout.1.leaseId) (by simp [Change.brings, hlease])
  | connect leaseId bridge =>
      exact iff_of_false (fun hout => absurd hout.2 Nat.one_ne_zero) (by simp [Change.brings])

namespace GilCoordinator

/-- Nothing is left of a session or a lease, after every event of the run, and no event
hands over a host. -/
def StaysSignedOut (c : GilCoordinator) (es : List ClientEvent) : Prop :=
  c.assignment.SignedOut ∧ c.assignedHosts = 0 ∧
    AllSteps step (fun c e => (c.step e).assignment.SignedOut ∧ (c.step e).assignedHosts = 0) c es

/-- The reply of a login poll or a development login brings a token, or the reply of a lease
request a lease. -/
def LateReply (c : GilCoordinator) : ClientEvent → Prop
  | .finished i reply _ =>
    ∃ p, c.replies[i]? = some p ∧ p.state = .waiting ∧ reply.error = .noError ∧
      match p.call with
      | .pollLogin _ =>
        reply.body.string "state" = "authenticated" ∧ reply.body.string "accessToken" ≠ ""
      | .devLogin _ => reply.body.string "accessToken" ≠ ""
      | .requestVm _ _ => reply.body.string "leaseId" ≠ ""
      | _ => False
  | _ => False

variable {c : GilCoordinator}

theorem replyChange_brings (htoken : c.accessToken = "") (reply : NetworkReply)
    (call : ClientCall) :
    (c.replyChange reply call).brings = true ↔ reply.error = .noError ∧
      match call with
      | .pollLogin _ =>
        reply.body.string "state" = "authenticated" ∧ reply.body.string "accessToken" ≠ ""
      | .devLogin _ => reply.body.string "accessToken" ≠ ""
      | .requestVm _ _ => reply.body.string "leaseId" ≠ ""
      | _ => False := by
  by_cases herror : reply.error = .noError
  · cases call with
    | pollLogin requestId =>
        by_cases hstate : reply.body.string "state" = "authenticated" <;>
          simp [replyChange, herror, hstate, Change.brings]
    | devLogin deviceId => simp [replyChange, herror, Change.brings]
    | requestVm deviceId deviceName => simp [replyChange, herror, htoken, Change.brings]
    | _ => simp [replyChange, herror, Change.brings]
  · have hstay : (c.replyChange reply call).brings = false := by
      cases call with
      | requestVm deviceId deviceName | heartbeat leaseId =>
          by_cases hstatus : reply.statusCode = 401 <;>
            simp [replyChange, herror, hstatus, Change.brings]
      | _ => simp [replyChange, herror, Change.brings]
    simp [hstay, herror]

/-- Without a session only late replies bring anything. -/
theorem change_brings (htoken : c.accessToken = "") (e : ClientEvent) :
    (c.change e).brings = true ↔ c.LateReply e := by
  cases e with
  | finished i reply env =>
      simp only [change, LateReply]
      cases c.replies[i]? with
      | none => simp [Change.brings]
      | some p =>
          by_cases hwaiting : p.state = .waiting
          · simp [hwaiting, replyChange_brings htoken]
          · simp [hwaiting, Change.brings]
  | probed i useRelay env =>
      simp only [change, LateReply, probeChange, htoken]
      cases c.probes[i]? with
      | none => simp [Change.brings]
      | some p => by_cases hfinished : p.finished <;> simp [hfinished, Change.brings]
  | setUseLanCoordinator enabled =>
      by_cases henabled : c.useLanCoordinator = enabled <;>
        simp [change, LateReply, henabled, Change.brings]
  | _ => simp [change, LateReply, htoken, Change.brings]

/-- **Step lemma.** -/
theorem signedOut_step_iff (h : c.assignment.SignedOut) (e : ClientEvent) :
    ((c.step e).assignment.SignedOut ∧ (c.step e).assignedHosts = 0) ↔ ¬ c.LateReply e := by
  rw [assignment_step, assignedHosts_step, h.apply_iff, ← change_brings h.accessToken,
    Bool.not_eq_true]

/-- **Run lemma.** -/
theorem signedOut_run_iff (h : c.assignment.SignedOut) (es : List ClientEvent) :
    AllSteps step (fun c e => (c.step e).assignment.SignedOut ∧ (c.step e).assignedHosts = 0) c es ↔
      AllSteps step (fun c e => ¬ c.LateReply e) c es := by
  induction es generalizing c with
  | nil => exact Iff.rfl
  | cons e es ih =>
      rw [allSteps_cons, allSteps_cons, signedOut_step_iff h]
      refine and_congr_right fun hlate => ih ?_
      exact ((signedOut_step_iff h e).mpr hlate).1

end GilCoordinator

open GilCoordinator in
/-- **Logout.** A logout is final, whatever comes after it, if and only if no reply brings a
token or a lease afterwards: while the user starts no login, these are the replies that were
under way. -/
theorem logout_final_iff (c : GilCoordinator) (es : List ClientEvent) :
    (c.step .logout).StaysSignedOut es ↔
      AllSteps step (fun c e => ¬ c.LateReply e) (c.step .logout) es := by
  have hout : (c.step .logout).assignment.SignedOut := by
    rw [assignment_step]
    exact ⟨rfl, rfl, rfl, rfl, rfl⟩
  rw [← signedOut_run_iff hout]
  exact ⟨fun h => h.2.2, fun h => ⟨hout, c.assignedHosts_step .logout, h⟩⟩

/-- A lease request and a login poll are under way at the logout. -/
def beforeLogout : List ClientEvent :=
  [.startLogin, .finished 0 ⟨.noError, 200, [("requestId", .string "login-1")]⟩ goodEnv,
    .loginPollTimeout, .requestVm]

/-- The answers come. -/
def afterLogout : List ClientEvent :=
  [.finished 2 (grantReply "lease-1" []) goodEnv,
    .finished 1 ⟨.noError, 200,
      [("state", .string "authenticated"), ("accessToken", .string "token-2")]⟩ goodEnv,
    .finished 3 (grantReply "lease-1" []) goodEnv]

/-- The poll signs the client in again, which connects it to a host. -/
theorem afterLogout_signed_in :
    (∀ e ∈ afterLogout, e.startsLogin = false) ∧
      ¬ ((run GilCoordinator.step savedClient beforeLogout).step .logout).StaysSignedOut
        afterLogout := by
  refine ⟨by simp [afterLogout, ClientEvent.startsLogin], fun h => ?_⟩
  have hout := allSteps_iff.mp h.2.2 (afterLogout.take 1) _ _ rfl
  exact absurd hout.1.accessToken (by decide +kernel)

end GilStreaming.Client
