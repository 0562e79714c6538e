import GilStreaming.Client.ClientSteps
import GilStreaming.Coordinator.LoginSecrets

/-!
# GilStreaming.Client.LoginHandoff

A login, from the client that asks for it to the client that holds its token.

The client and the coordinator run side by side. The client's requests to start a login
and to poll it are handled by the broker, each once and in any order, and the answers
reach the client after any delay and in any order. Other parties call the broker as they
like, and everything else happens to the client as it likes.

`Status` forgets a login when it returns its token, so that a poll that is still on its
way fails, and the client takes this for the failure of the sign-in, wherever it comes
from: `login_handoff_iff` says that a handoff goes well if and only if no poll of the login
is handled after the one that is answered with the token.
-/

namespace GilStreaming.Client

open GilStreaming.Coordinator
open GilStreaming.Trace

/-! ### What the client gets -/

/-- The members of a `gilIDProfile`. -/
def profileObject (profile : GilIDProfile) : JsonObject :=
  [("id", .string profile.id), ("email", .string profile.email),
    ("username", .string profile.username), ("first_name", .string profile.firstName),
    ("last_name", .string profile.lastName), ("avatar_url", .string profile.avatarURL),
    ("is_admin", .bool profile.isAdmin)]

/-- `QNetworkReply::error()` for a response that has come. -/
def statusError (status : Nat) : NetworkError := if status < 400 then .noError else .otherError

/-- The answer of the coordinator as the client gets it, with what the client reads of the
body. (Of the `authorizeUrl` it only makes whether the page opens.) -/
def networkReply : AuthReply → NetworkReply
  | .error status code message =>
    ⟨statusError status, status, [("code", .string code), ("message", .string message)]⟩
  | .started requestID _ _ => ⟨.noError, 201, [("requestId", .string requestID)]⟩
  | .pending _ => ⟨.noError, 200, [("state", .string "pending")]⟩
  | .authenticated status accessToken profile =>
    ⟨statusError status, status, [("state", .string "authenticated"),
      ("accessToken", .string accessToken), ("profile", .object (profileObject profile))]⟩
  | .httpError status _ => ⟨statusError status, status, []⟩
  | .page _ _ => ⟨.noError, 200, []⟩

/-- What the client gets of a request when no answer comes. -/
def noReply (timeout : Bool) : NetworkReply :=
  ⟨if timeout then .timeoutError else .otherError, 0, []⟩

/-! ### The system -/

structure HandoffSystem where
  client : GilCoordinator
  coordinator : AuthSystem
  /-- What the coordinator has answered to the client's `i`-th request. -/
  answers : Nat → Option AuthReply

/-- A request is handled at an instant, with a reading of the clock and, in `Start`, the
results of `randomID`. -/
structure HandlerEnv where
  instant : Int
  now : Int
  requestID : Option RandomBytes
  state : Option RandomBytes

inductive HandoffEvent
  /-- A step of the broker for another party. -/
  | coordinator (e : AuthEvent)
  /-- Something happens to the client, other than a reply to a start or a poll. -/
  | client (e : ClientEvent)
  /-- The broker handles the client's `i`-th request, a start or a poll. -/
  | handle (i : Nat) (env : HandlerEnv)
  /-- Its answer reaches the client. -/
  | deliver (i : Nat) (env : ReplyEnv)
  /-- The client gets no answer: the connection fails, or the 20 seconds of
  `COORDINATOR_REQUEST_TIMEOUT_MS` are over. -/
  | lose (i : Nat) (timeout : Bool) (env : ReplyEnv)

/-- What the broker does for a request of the client. -/
def ClientCall.authAction? (env : HandlerEnv) : ClientCall → Option AuthAction
  | .startLogin deviceId deviceName =>
    some (.start env.now (some (deviceId, deviceName)) env.requestID env.state)
  | .pollLogin requestId => some (.status env.now requestId)
  | _ => none

/-- The request is for the broker. -/
def ClientCall.isLogin : ClientCall → Bool
  | .startLogin _ _ => true
  | .pollLogin _ => true
  | _ => false

/-- The answer of `Start` or `Status`. -/
def answerTo (b : AuthBroker) : AuthAction → Option AuthReply
  | .start now body requestID state => some (b.start body requestID state now).2
  | .status now requestID => some (b.status requestID now).2
  | _ => none

namespace HandoffSystem

/-- The client and the broker have just started. -/
def initial (b : AuthBroker) (config : ClientConfig) (settings : CoordinatorSettings) :
    HandoffSystem :=
  ⟨.create config settings, .initial b, fun _ => none⟩

/-- The step of the broker that handles the client's `i`-th request, unless it has been
handled. -/
def handling? (sys : HandoffSystem) (i : Nat) (env : HandlerEnv) : Option AuthEvent :=
  match sys.answers i, sys.client.replies[i]? with
  | none, some p => (p.call.authAction? env).map fun action => ⟨env.instant, action⟩
  | _, _ => none

/-- What an event is for the broker. -/
def authEvent? (sys : HandoffSystem) : HandoffEvent → Option AuthEvent
  | .coordinator e => some e
  | .handle i env => sys.handling? i env
  | _ => none

/-- What an event is for the client. -/
def clientEvent? (sys : HandoffSystem) : HandoffEvent → Option ClientEvent
  | .client (.finished i reply env) =>
    match sys.client.replies[i]? with
    | some p => if p.call.isLogin then none else some (.finished i reply env)
    | none => none
  | .client e => some e
  | .deliver i env => (sys.answers i).map fun answer => .finished i (networkReply answer) env
  | .lose i timeout env => some (.finished i (noReply timeout) env)
  | _ => none

def step (sys : HandoffSystem) (e : HandoffEvent) : HandoffSystem where
  client :=
    match sys.clientEvent? e with
    | some event => sys.client.step event
    | none => sys.client
  coordinator :=
    match sys.authEvent? e with
    | some event => sys.coordinator.step event
    | none => sys.coordinator
  answers :=
    match e with
    | .handle i env =>
      match sys.handling? i env with
      | some event =>
        Function.update sys.answers i (answerTo sys.coordinator.broker event.action)
      | none => sys.answers
    | _ => sys.answers

/-- The system after a history. -/
abbrev run (sys : HandoffSystem) (es : List HandoffEvent) : HandoffSystem := Trace.run step sys es

/-- The history of the broker. -/
abbrev authEvents (sys : HandoffSystem) (es : List HandoffEvent) : List AuthEvent :=
  Trace.outputs step authEvent? sys es

/-! ### A login -/

/-- The client's `i`-th request is a poll of the login. -/
def Polls (sys : HandoffSystem) (r : String) (i : Nat) : Prop :=
  ∃ p, sys.client.replies[i]? = some p ∧ p.call = .pollLogin r

/-- The client's `i`-th request is a poll of the login, and has been answered so. -/
def Answered (sys : HandoffSystem) (r : String) (i : Nat) (answer : AuthReply) : Prop :=
  sys.Polls r i ∧ sys.answers i = some answer

/-- `Status` has returned the token of the login to the client. -/
def Returned (sys : HandoffSystem) (r token : String) : Prop :=
  ∃ i status profile, sys.Answered r i (.authenticated status token profile)

/-- The client has been through with every poll of the login. -/
def PollsFinished (sys : HandoffSystem) (r : String) : Prop :=
  ∀ (i : Nat) (p : PendingReply), sys.client.replies[i]? = some p → p.call = .pollLogin r →
    p.state = .finished

/-- A poll of the login is handled, and its token has been returned. -/
def PollsAgain (sys : HandoffSystem) (r : String) (e : HandoffEvent) : Prop :=
  ∃ i env token, e = .handle i env ∧ sys.Polls r i ∧ sys.answers i = none ∧ sys.Returned r token

/-- The client gets no answer to a poll of the login. -/
def LosesPoll (sys : HandoffSystem) (r : String) (e : HandoffEvent) : Prop :=
  ∃ i timeout env, e = .lose i timeout env ∧ sys.Polls r i

/-- A history in which `Status` has returned the token of the login to the client. None of
the answers to the client's polls of it is lost, and all have come. -/
structure Completes (sys : HandoffSystem) (es : List HandoffEvent) (r token : String) : Prop where
  ids : AuthIDsFresh (sys.authEvents es)
  kept : AllSteps step (fun sys e => ¬ sys.LosesPoll r e) sys es
  through : (sys.run es).PollsFinished r
  returned : (sys.run es).Returned r token

/-- The client takes what a poll of the login has come back with for its failure. -/
def ReportsFailure (sys : HandoffSystem) (r : String) (e : HandoffEvent) : Prop :=
  ∃ i reply env m, sys.clientEvent? e = some (.finished i reply env) ∧ sys.Polls r i ∧
    .failed m ∈ (sys.step e).client.shown

/-- The session of the client ends: the user logs out, the coordinator does not accept the
token, or another sign-in replaces it. -/
def EndsSession (sys : HandoffSystem) (e : HandoffEvent) : Prop :=
  ∃ event, sys.clientEvent? e = some event ∧ sys.client.endsSession event = true

/-- The answer to a poll of the login reaches the client, and from then on, until its
session ends, the client holds the token. -/
def ComesToHold (sys : HandoffSystem) (es : List HandoffEvent) (r token : String) : Prop :=
  ∃ pre i env post, es = pre ++ .deliver i env :: post ∧ (sys.run pre).Polls r i ∧
    ∀ mid, mid <+: post →
      AllSteps step (fun sys e => ¬ sys.EndsSession e) (sys.run (pre ++ [.deliver i env])) mid →
      (sys.run (pre ++ .deliver i env :: mid)).client.accessToken = token

/-- The handoff goes well: the client comes to hold the token, and never reports that the
sign-in has failed. -/
def HandsOver (sys : HandoffSystem) (es : List HandoffEvent) (r token : String) : Prop :=
  sys.ComesToHold es r token ∧ AllSteps step (fun sys e => ¬ sys.ReportsFailure r e) sys es

/-! ### The broker -/

end HandoffSystem

/-- The client reports that the sign-in has failed when it gets the answer. -/
def fails : AuthReply → Bool
  | .error status _ _ => 400 ≤ status
  | .httpError status _ => 400 ≤ status
  | .authenticated status accessToken _ => 400 ≤ status || accessToken = ""
  | _ => false

section Status

variable {b : AuthBroker} {r : String}

/-- `Status` has no token for a login that is not there. -/
theorem fails_of_gone (now : Int) (h : b.pending.lookup r = none) :
    fails (b.status r now).2 = true := by
  have hgone : (b.cleanupLocked now).pending.lookup r = none :=
    Option.eq_none_iff_forall_ne_some.mpr fun p hp =>
      absurd (AuthBroker.cleanupLocked_pending.mp hp).1 (by simp [h])
  simp [AuthBroker.status, hgone, fails]

/-- A login is forgotten with the answer that settles it. -/
theorem pending_or_gone (hb : b.Consistent) (now : Int) :
    (∃ expiresAt, (b.status r now).2 = .pending expiresAt) ∨
      (b.status r now).1.pending.lookup r = none := by
  simp only [AuthBroker.status]
  cases hp : (b.cleanupLocked now).pending.lookup r with
  | none => exact .inr hp
  | some p =>
      have hid : p.requestID = r := (hb.cleanupLocked now).keyed hp
      dsimp only
      by_cases herror : p.error = ""
      · rw [if_neg (not_not.mpr herror)]
        by_cases htoken : p.accessToken = ""
        · rw [if_pos htoken]
          exact .inl ⟨_, rfl⟩
        · rw [if_neg htoken]
          exact .inr (by simp [hid])
      · rw [if_pos herror]
        exact .inr (by simp [hid])

/-- A token that is returned is one. -/
theorem status_authenticated {now : Int} {status : Nat} {token : String} {profile : GilIDProfile}
    (h : (b.status r now).2 = .authenticated status token profile) :
    status = 200 ∧ token ≠ "" := by
  simp only [AuthBroker.status] at h
  cases hp : (b.cleanupLocked now).pending.lookup r with
  | none => exact absurd h (by simp [hp])
  | some p =>
      rw [hp] at h
      dsimp only at h
      by_cases herror : p.error = ""
      · rw [if_neg (not_not.mpr herror)] at h
        by_cases htoken : p.accessToken = ""
        · rw [if_pos htoken] at h
          exact absurd h (by simp)
        · rw [if_neg htoken] at h
          obtain ⟨rfl, rfl, -⟩ := AuthReply.authenticated.inj h
          exact ⟨rfl, htoken⟩
      · rw [if_pos herror] at h
        exact absurd h (by simp)

theorem start_started {body : Option (String × String)} {requestID state : Option RandomBytes}
    {now : Int} {url : AuthorizeURL} {expiresAt : Int}
    (h : (b.start body requestID state now).2 = .started r url expiresAt) :
    r ∈ (AuthAction.start now body requestID state).drawn :=
  (AuthSystem.exec_steps ⟨b, []⟩ ⟨now, .start now body requestID state⟩).started_drawn
    (by simp [AuthSystem.output, AuthSystem.exec, h]; rfl)

theorem status_ne_started (now : Int) (requestID : String) (url : AuthorizeURL)
    (expiresAt : Int) : (b.status r now).2 ≠ .started requestID url expiresAt := by
  simp only [AuthBroker.status]
  split
  · simp
  · split
    · simp
    · split <;> simp

theorem start_ne_authenticated (body : Option (String × String))
    (requestID state : Option RandomBytes) (now : Int) (status : Nat) (token : String)
    (profile : GilIDProfile) :
    (b.start body requestID state now).2 ≠ .authenticated status token profile := by
  simp only [AuthBroker.start]
  split
  · simp
  · split
    · simp
    · split <;> simp

end Status

/-! ### The client -/

theorem statusError_eq (status : Nat) :
    statusError status = .noError ↔ ¬ 400 ≤ status := by
  unfold statusError
  split
  · simp only [true_iff]
    omega
  · simp only [reduceCtorEq, false_iff]
    omega

theorem state_networkReply (answer : AuthReply) : (networkReply answer).body.string "state" =
    match answer with
    | .pending _ => "pending"
    | .authenticated _ _ _ => "authenticated"
    | _ => "" := by
  cases answer <;> rfl

/-- What the client makes of an answer to a poll. -/
theorem failed_mem_loginPolled {c : GilCoordinator} (hc : ∀ m, .failed m ∉ c.shown)
    (answer : AuthReply) :
    (∃ m, .failed m ∈ (c.loginPolled (networkReply answer)).shown) ↔ fails answer = true := by
  have hunread : ∀ reply : NetworkReply, reply.body.string "state" ≠ "authenticated" →
      ((∃ m, .failed m ∈ (c.loginPolled reply).shown) ↔ reply.error ≠ .noError) := by
    intro reply hstate
    unfold GilCoordinator.loginPolled
    by_cases herror : reply.error = .noError
    · rw [if_neg (not_not.mpr herror), if_neg hstate]
      simp [hc, herror]
    · rw [if_pos herror]
      simp [herror]
  cases answer with
  | error status code message =>
      rw [hunread _ (by rw [state_networkReply]; simp), networkReply, Ne, statusError_eq]
      simp [fails]
  | httpError status message =>
      rw [hunread _ (by rw [state_networkReply]; simp), networkReply, Ne, statusError_eq]
      simp [fails]
  | authenticated status token profile =>
      have htoken : (networkReply (.authenticated status token profile)).body.string
          "accessToken" = token := rfl
      unfold GilCoordinator.loginPolled
      by_cases herror : 400 ≤ status
      · have hreply : (networkReply (.authenticated status token profile)).error ≠ .noError :=
          fun h => (statusError_eq status).mp h herror
        rw [if_pos hreply]
        simp [fails, herror]
      · have hreply : (networkReply (.authenticated status token profile)).error = .noError :=
          (statusError_eq status).mpr herror
        rw [if_neg (not_not.mpr hreply), if_pos (state_networkReply _)]
        simp only [GilCoordinator.handleAuthenticationResponse, hreply, htoken]
        by_cases hempty : token = ""
        · simp [hempty, fails]
        · simp [hempty, fails, herror, GilCoordinator.requestVm, hc]
  | _ =>
      rw [hunread _ (by rw [state_networkReply]; simp)]
      simp [networkReply, fails]

/-- A poll that is answered with a token gives it to the client. -/
theorem loginPolled_authenticated (c : GilCoordinator) (token : String) (profile : GilIDProfile) :
    (c.loginPolled (networkReply (.authenticated 200 token profile))).accessToken = token := by
  have hreply : (networkReply (.authenticated 200 token profile)).error = .noError := rfl
  have htoken : (networkReply (.authenticated 200 token profile)).body.string
      "accessToken" = token := rfl
  unfold GilCoordinator.loginPolled
  rw [if_neg (not_not.mpr hreply), if_pos (state_networkReply _)]
  simp only [GilCoordinator.handleAuthenticationResponse, hreply, htoken]
  by_cases hempty : token = ""
  · simp [hempty]
  · simp [hempty]

/-! ### Steps -/

namespace HandoffSystem

variable {sys : HandoffSystem} {e : HandoffEvent} {r : String} {i : Nat}

theorem step_client_some {event : ClientEvent} (h : sys.clientEvent? e = some event) :
    (sys.step e).client = sys.client.step event := by
  simp [step, h]

theorem unanswered_of_handling {env : HandlerEnv} {event : AuthEvent}
    (h : sys.handling? i env = some event) : sys.answers i = none := by
  unfold handling? at h
  split at h
  · assumption
  · exact absurd h (by simp)

theorem step_client_none (h : sys.clientEvent? e = none) : (sys.step e).client = sys.client := by
  simp [step, h]

/-- A start and a poll finish only by the delivery of their answer, or with none. -/
theorem finished_login {j : Nat} {p : PendingReply} {reply : NetworkReply} {env : ReplyEnv}
    (hp : sys.client.replies[j]? = some p) (hlogin : p.call.isLogin = true)
    (h : sys.clientEvent? e = some (.finished j reply env)) :
    (∃ answer, e = .deliver j env ∧ sys.answers j = some answer ∧ reply = networkReply answer) ∨
      ∃ timeout, e = .lose j timeout env ∧ reply = noReply timeout := by
  cases e with
  | coordinator event => exact absurd h (by simp [clientEvent?])
  | client event =>
      cases event with
      | finished j' reply' env' =>
          simp only [clientEvent?] at h
          split at h
          · next p' hp' =>
              split at h
              · exact absurd h (by simp)
              · next hother =>
                  obtain ⟨rfl, -, -⟩ := ClientEvent.finished.inj (Option.some.inj h)
                  obtain rfl := Option.some.inj (hp'.symm.trans hp)
                  exact absurd hlogin hother
          · exact absurd h (by simp)
      | _ => exact absurd h (by simp [clientEvent?])
  | handle j' env' => exact absurd h (by simp [clientEvent?])
  | deliver j' env' =>
      obtain ⟨answer, hanswer, heq⟩ := Option.map_eq_some_iff.mp h
      obtain ⟨rfl, rfl, rfl⟩ := ClientEvent.finished.inj heq
      exact .inl ⟨answer, rfl, hanswer, rfl⟩
  | lose j' timeout env' =>
      obtain ⟨rfl, rfl, rfl⟩ := ClientEvent.finished.inj (Option.some.inj h)
      exact .inr ⟨timeout, rfl, rfl⟩

/-- A request stays what it is. -/
theorem replies_kept {p : PendingReply} (h : sys.client.replies[i]? = some p) (e : HandoffEvent) :
    ∃ p', (sys.step e).client.replies[i]? = some p' ∧ p'.call = p.call := by
  cases hevent : sys.clientEvent? e with
  | none =>
      rw [step_client_none hevent]
      exact ⟨p, h, rfl⟩
  | some event =>
      rw [step_client_some hevent]
      exact ⟨_, GilCoordinator.reply_kept event h, GilCoordinator.progress_call ..⟩

theorem Polls.step (h : sys.Polls r i) (e : HandoffEvent) : (sys.step e).Polls r i := by
  obtain ⟨p, hp, hcall⟩ := h
  obtain ⟨p', hp', hcall'⟩ := replies_kept hp e
  exact ⟨p', hp', hcall'.trans hcall⟩

/-- A poll after a step was there before, or has just been sent for the login id of the
client. -/
theorem polls_step (h : (sys.step e).Polls r i) :
    sys.Polls r i ∨ (sys.client.replies[i]? = none ∧ sys.client.loginRequestId = r ∧ r ≠ "") := by
  obtain ⟨p', hp', hcall⟩ := h
  cases hevent : sys.clientEvent? e with
  | none =>
      rw [step_client_none hevent] at hp'
      exact .inl ⟨p', hp', hcall⟩
  | some event =>
      rw [step_client_some hevent] at hp'
      rcases GilCoordinator.reply_step hp' with ⟨p, hp, rfl⟩ | ⟨hnone, -, hnew⟩
      · exact .inl ⟨p, hp, (GilCoordinator.progress_call ..).symm.trans hcall⟩
      · exact .inr ⟨hnone, hnew r hcall⟩

/-- An answer after a step was there before, or is what the broker answers to the request
that is handled. -/
theorem answers_step {answer : AuthReply} (h : (sys.step e).answers i = some answer) :
    sys.answers i = some answer ∨ ∃ env event, e = .handle i env ∧ sys.answers i = none ∧
      sys.handling? i env = some event ∧
      answerTo sys.coordinator.broker event.action = some answer := by
  cases e with
  | handle j env =>
      cases hevent : sys.handling? j env with
      | none =>
          simp only [step, hevent] at h
          exact .inl h
      | some event =>
          simp only [step, hevent] at h
          by_cases hj : i = j
          · subst hj
            rw [Function.update_self] at h
            exact .inr ⟨env, event, rfl, unanswered_of_handling hevent, hevent, h⟩
          · rw [Function.update_of_ne hj] at h
            exact .inl h
  | _ => exact .inl h

theorem answers_kept {answer : AuthReply} (h : sys.answers i = some answer) (e : HandoffEvent) :
    (sys.step e).answers i = some answer := by
  cases e with
  | handle j env =>
      cases hevent : sys.handling? j env with
      | none =>
          simp only [step, hevent]
          exact h
      | some event =>
          have hj : i ≠ j := by
            rintro rfl
            exact absurd (unanswered_of_handling hevent) (by simp [h])
          simp only [step, hevent]
          rw [Function.update_of_ne hj]
          exact h
  | _ => exact h

theorem Answered.step {answer : AuthReply} (h : sys.Answered r i answer) (e : HandoffEvent) :
    (sys.step e).Answered r i answer :=
  ⟨h.1.step e, answers_kept h.2 e⟩

/-- The step of the broker for a poll. -/
theorem handling_poll {env : HandlerEnv} (hpoll : sys.Polls r i) (hanswer : sys.answers i = none) :
    sys.handling? i env = some ⟨env.instant, .status env.now r⟩ := by
  obtain ⟨p, hp, hcall⟩ := hpoll
  simp [handling?, hanswer, hp, hcall, ClientCall.authAction?]

/-! ### Runs -/

/-- What is known of the login ids of the client, and of the answers it gets; `ids` are the
ids drawn so far. -/
structure Sound (sys : HandoffSystem) (ids : List String) : Prop where
  login : sys.client.loginRequestId = "" ∨ sys.client.loginRequestId ∈ ids
  polls : ∀ r i, sys.Polls r i → r ∈ ids
  sent : ∀ i answer, sys.answers i = some answer → sys.client.replies[i]? ≠ none
  started : ∀ i r url expiresAt, sys.answers i = some (.started r url expiresAt) → r ∈ ids
  genuine : ∀ i status token profile,
    sys.answers i = some (.authenticated status token profile) → status = 200 ∧ token ≠ ""

theorem sound_initial (b : AuthBroker) (config : ClientConfig) (settings : CoordinatorSettings) :
    (initial b config settings).Sound [] where
  login := .inl rfl
  polls := fun r i hpoll => by
    obtain ⟨p, hp, -⟩ := hpoll
    exact absurd hp (by simp [initial, GilCoordinator.create])
  sent := fun i answer h => absurd h (by simp [initial])
  started := fun i r url expiresAt h => absurd h (by simp [initial])
  genuine := fun i status token profile h => absurd h (by simp [initial])

/-- **Step lemma.** -/
theorem Sound.step {ids : List String} (h : sys.Sound ids) (e : HandoffEvent) :
    (sys.step e).Sound (ids ++ authIDs (sys.authEvent? e).toList) where
  login := by
    cases hevent : sys.clientEvent? e with
    | none =>
        rw [step_client_none hevent]
        exact h.login.imp_right (List.mem_append_left _)
    | some event =>
        rw [step_client_some hevent]
        rcases sys.client.loginRequestId_step event with hsame | hempty |
          ⟨j, reply, env, p, _, _, rfl, hp, hcall, hid⟩
        · rw [hsame]
          exact h.login.imp_right (List.mem_append_left _)
        · exact .inl hempty
        · -- the id is read from an answer of `Start`, if it is one
          rw [hid]
          rcases finished_login hp (by rw [hcall]; rfl) hevent with
            ⟨answer, -, hanswer, rfl⟩ | ⟨timeout, -, rfl⟩
          · cases answer with
            | started r url expiresAt =>
                exact .inr (List.mem_append_left _ (h.started j r url expiresAt hanswer))
            | _ => exact .inl rfl
          · exact .inl rfl
  polls := fun r i hpoll => by
    rcases polls_step hpoll with hpoll | ⟨-, rfl, hid⟩
    · exact List.mem_append_left _ (h.polls r i hpoll)
    · exact List.mem_append_left _ (h.login.resolve_left hid)
  sent := fun i answer hanswer => by
    have hsent : sys.client.replies[i]? ≠ none := by
      rcases answers_step hanswer with hanswer | ⟨env, event, -, -, hevent, -⟩
      · exact h.sent i answer hanswer
      · intro hnone
        simp [handling?, hnone] at hevent
    obtain ⟨p, hp⟩ := Option.ne_none_iff_exists'.mp hsent
    obtain ⟨p', hp', -⟩ := replies_kept hp e
    simp [hp']
  started := fun i r url expiresAt hanswer => by
    rcases answers_step hanswer with hanswer | ⟨env, event, rfl, -, hevent, hanswer⟩
    · exact List.mem_append_left _ (h.started i r url expiresAt hanswer)
    · refine List.mem_append_right _ ?_
      rw [show sys.authEvent? (.handle i env) = some event from hevent, Option.toList_some]
      simp only [authIDs, List.flatMap_cons, List.flatMap_nil, List.append_nil]
      cases haction : event.action with
      | start now body requestID state =>
          rw [haction] at hanswer
          exact start_started (Option.some.inj hanswer)
      | status now requestID =>
          rw [haction] at hanswer
          exact absurd (Option.some.inj hanswer) (status_ne_started now r url expiresAt)
      | _ => simp [haction, answerTo] at hanswer
  genuine := fun i status token profile hanswer => by
    rcases answers_step hanswer with hanswer | ⟨env, event, rfl, -, hevent, hanswer⟩
    · exact h.genuine i status token profile hanswer
    · cases haction : event.action with
      | start now body requestID state =>
          rw [haction] at hanswer
          exact absurd (Option.some.inj hanswer)
            (start_ne_authenticated body requestID state now status token profile)
      | status now requestID =>
          rw [haction] at hanswer
          exact status_authenticated (Option.some.inj hanswer)
      | _ => simp [haction, answerTo] at hanswer

/-- An answer to a poll after a step was there before, or is what `Status` answers now. -/
theorem answered_step {ids : List String} (h : sys.Sound ids) {answer : AuthReply}
    (hanswer : (sys.step e).Answered r i answer) :
    sys.Answered r i answer ∨ ∃ env, e = .handle i env ∧ sys.Polls r i ∧ sys.answers i = none ∧
      answer = (sys.coordinator.broker.status r env.now).2 := by
  obtain ⟨hpoll, hanswer⟩ := hanswer
  rcases answers_step hanswer with hold | ⟨env, event, rfl, hnone, hevent, hanswer⟩
  · rcases polls_step hpoll with hpoll | ⟨hnew, -⟩
    · exact .inl ⟨hpoll, hold⟩
    · exact absurd hnew (h.sent i answer hold)
  · rcases polls_step hpoll with hpoll | ⟨hnew, -⟩
    · rw [handling_poll hpoll hnone] at hevent
      obtain rfl := Option.some.inj hevent
      exact .inr ⟨env, rfl, hpoll, hnone, (Option.some.inj hanswer).symm⟩
    · simp [handling?, hnew] at hevent

/-- The polls of the login have been told that it is pending. -/
def AllPending (sys : HandoffSystem) (r : String) : Prop :=
  ∀ i answer, sys.Answered r i answer → ∃ expiresAt, answer = .pending expiresAt

/-- The login has been started, and is gone. -/
def Gone (sys : HandoffSystem) (r : String) (ids : List String) : Prop :=
  r ∈ ids ∧ sys.coordinator.broker.pending.lookup r = none

/-- **Step lemma.** Once a poll has been told anything else, the login is gone. -/
theorem phase_step {ids : List String} (hsound : sys.Sound ids)
    (hbroker : sys.coordinator.broker.Consistent)
    (hfresh : ∀ id ∈ authIDs (sys.authEvent? e).toList, id ∉ ids)
    (h : sys.AllPending r ∨ sys.Gone r ids) :
    (sys.step e).AllPending r ∨
      (sys.step e).Gone r (ids ++ authIDs (sys.authEvent? e).toList) := by
  rcases h with hpending | ⟨hid, hgone⟩
  · by_cases hpolls : ∃ i env, e = .handle i env ∧ sys.Polls r i ∧ sys.answers i = none
    · -- `Status` answers this poll
      obtain ⟨i, env, rfl, hpoll, hnone⟩ := hpolls
      have hevent : sys.authEvent? (.handle i env) = some ⟨env.instant, .status env.now r⟩ :=
        handling_poll hpoll hnone
      rcases pending_or_gone hbroker env.now with ⟨expiresAt, hstatus⟩ | hgone
      · refine .inl fun j answer hanswer => ?_
        rcases answered_step hsound hanswer with hold | ⟨env', heq, -, -, rfl⟩
        · exact hpending j answer hold
        · obtain ⟨-, rfl⟩ := HandoffEvent.handle.inj heq
          exact ⟨expiresAt, hstatus⟩
      · refine .inr ⟨List.mem_append_left _ (hsound.polls r i hpoll), ?_⟩
        simp only [step, hevent]
        exact hgone
    · refine .inl fun j answer hanswer => ?_
      rcases answered_step hsound hanswer with hold | ⟨env, rfl, hpoll, hnone, -⟩
      · exact hpending j answer hold
      · exact absurd ⟨j, env, rfl, hpoll, hnone⟩ hpolls
  · -- the login could only be started anew, with an id that is drawn again
    refine .inr ⟨List.mem_append_left _ hid, ?_⟩
    cases hevent : sys.authEvent? e with
    | none =>
        simp only [step, hevent]
        exact hgone
    | some event =>
        simp only [step, hevent]
        refine (AuthSystem.exec_steps sys.coordinator event).gone hgone fun hdrawn => ?_
        rw [hevent] at hfresh
        exact hfresh r (by simpa [authIDs] using hdrawn) hid

/-- **Step lemma.** If a poll has been answered with the token, none has been told that the
login has failed, unless the login is polled again after that. -/
theorem answers_fine_step {ids : List String} (hsound : sys.Sound ids)
    (hphase : sys.AllPending r ∨ sys.Gone r ids) (hagain : ¬ sys.PollsAgain r e)
    (h : ∀ token, sys.Returned r token → ∀ i answer, sys.Answered r i answer →
      fails answer = false) {token : String} (hreturned : (sys.step e).Returned r token) {i : Nat}
    {answer : AuthReply} (hanswer : (sys.step e).Answered r i answer) : fails answer = false := by
  obtain ⟨j, status, profile, hauthenticated⟩ := hreturned
  obtain ⟨rfl, htoken⟩ := (hsound.step e).genuine j status token profile hauthenticated.2
  have hfine : fails (.authenticated 200 token profile) = false := by simp [fails, htoken]
  rcases answered_step hsound hauthenticated with hold | ⟨env, rfl, -, -, hstatus⟩
  · have hreturned : sys.Returned r token := ⟨j, 200, profile, hold⟩
    rcases answered_step hsound hanswer with hold' | ⟨env, rfl, hpoll, hnone, -⟩
    · exact h token hreturned i answer hold'
    · exact absurd ⟨i, env, token, rfl, hpoll, hnone, hreturned⟩ hagain
  · -- the token is returned now: earlier polls found the login, and found it pending
    rcases answered_step hsound hanswer with hold | ⟨env', heq, -, -, rfl⟩
    · rcases hphase with hpending | ⟨-, hgone⟩
      · obtain ⟨expiresAt, rfl⟩ := hpending i answer hold
        rfl
      · rw [hstatus, fails_of_gone env.now hgone] at hfine
        exact absurd hfine (by simp)
    · obtain ⟨-, rfl⟩ := HandoffEvent.handle.inj heq
      rw [← hstatus]
      exact hfine

/-! ### Along a run -/

theorem run_concat (sys : HandoffSystem) (es : List HandoffEvent) (e : HandoffEvent) :
    sys.run (es ++ [e]) = (sys.run es).step e := Trace.run_concat ..

theorem run_append (sys : HandoffSystem) (es es' : List HandoffEvent) :
    sys.run (es ++ es') = (sys.run es).run es' := Trace.run_append ..

theorem authEvents_concat (sys : HandoffSystem) (es : List HandoffEvent) (e : HandoffEvent) :
    sys.authEvents (es ++ [e]) = sys.authEvents es ++ ((sys.run es).authEvent? e).toList :=
  Trace.outputs_concat ..

/-- **Projection.** The broker's side of a run is the run of the broker. -/
theorem run_coordinator (sys : HandoffSystem) (es : List HandoffEvent) :
    (sys.run es).coordinator = sys.coordinator.run (sys.authEvents es) := by
  induction es using List.reverseRecOn with
  | nil => rfl
  | append_singleton es e ih =>
      rw [run_concat, authEvents_concat]
      cases hevent : (sys.run es).authEvent? e with
      | none =>
          simp only [step, hevent]
          rw [Option.toList_none, List.append_nil, ih]
      | some event =>
          simp only [step, hevent]
          rw [Option.toList_some, AuthSystem.run_concat, ← ih]

theorem Polls.run (h : sys.Polls r i) (es : List HandoffEvent) : (sys.run es).Polls r i := by
  induction es generalizing sys with
  | nil => exact h
  | cons e es ih => exact ih (h.step e)

theorem Answered.run {answer : AuthReply} (h : sys.Answered r i answer)
    (es : List HandoffEvent) : (sys.run es).Answered r i answer := by
  induction es generalizing sys with
  | nil => exact h
  | cons e es ih => exact ih (h.step e)

section Runs

variable {b : AuthBroker} {config : ClientConfig} {settings : CoordinatorSettings}
  {es : List HandoffEvent}

theorem run_sound : ((initial b config settings).run es).Sound
    (authIDs ((initial b config settings).authEvents es)) := by
  induction es using List.reverseRecOn with
  | nil => exact sound_initial b config settings
  | append_singleton es e ih =>
      rw [run_concat, authEvents_concat, authIDs_append]
      exact ih.step e

/-- **Run lemma.** -/
theorem run_phase (hids : AuthIDsFresh ((initial b config settings).authEvents es)) (r : String) :
    ((initial b config settings).run es).AllPending r ∨
      ((initial b config settings).run es).Gone r
        (authIDs ((initial b config settings).authEvents es)) := by
  induction es using List.reverseRecOn with
  | nil => exact .inl fun i answer h => absurd h.2 (by simp [initial])
  | append_singleton es e ih =>
      rw [authEvents_concat] at hids
      have hbroker : ((initial b config settings).run es).coordinator.broker.Consistent := by
        rw [run_coordinator]
        exact (AuthSystem.run_sound b hids.append_left).broker
      rw [run_concat, authEvents_concat, authIDs_append]
      refine phase_step run_sound hbroker (fun id hid hmem => ?_) (ih hids.append_left)
      rw [AuthIDsFresh, authIDs_append] at hids
      exact (List.nodup_append.mp hids).2.2 id hmem id hid rfl

/-- **Run lemma.** -/
theorem run_answers_fine (hids : AuthIDsFresh ((initial b config settings).authEvents es))
    (hagain : AllSteps step (fun sys e => ¬ sys.PollsAgain r e) (initial b config settings) es)
    {token : String} (hreturned : ((initial b config settings).run es).Returned r token) {i : Nat}
    {answer : AuthReply} (hanswer : ((initial b config settings).run es).Answered r i answer) :
    fails answer = false := by
  induction es using List.reverseRecOn generalizing token i answer with
  | nil => exact absurd hanswer.2 (by simp [initial])
  | append_singleton es e ih =>
      rw [authEvents_concat] at hids
      rw [run_concat] at hreturned hanswer
      obtain ⟨hagain, hlast⟩ := allSteps_concat.mp hagain
      exact answers_fine_step run_sound (run_phase hids.append_left r) hlast
        (fun _ hreturned _ _ hanswer => ih hids.append_left hagain hreturned hanswer) hreturned
        hanswer

/-- A poll that is through has been answered, and the answer was delivered. -/
theorem delivered_of_finished
    (hlost : AllSteps step (fun sys e => ¬ sys.LosesPoll r e) (initial b config settings) es)
    {i : Nat} {p : PendingReply}
    (hp : ((initial b config settings).run es).client.replies[i]? = some p)
    (hcall : p.call = .pollLogin r) (hfinished : p.state = .finished) :
    ∃ pre env post answer q, es = pre ++ .deliver i env :: post ∧
      ((initial b config settings).run pre).Answered r i answer ∧
      ((initial b config settings).run pre).client.replies[i]? = some q ∧ q.state = .waiting := by
  induction es using List.reverseRecOn generalizing p with
  | nil => exact absurd hp (by simp [initial, GilCoordinator.create])
  | append_singleton es e ih =>
      obtain ⟨hlost, hlast⟩ := allSteps_concat.mp hlost
      have hextend : ∀ {q : PendingReply},
          ((initial b config settings).run es).client.replies[i]? = some q →
          q.call = .pollLogin r → q.state = .finished →
          ∃ pre env post answer q, es ++ [e] = pre ++ .deliver i env :: post ∧
            ((initial b config settings).run pre).Answered r i answer ∧
            ((initial b config settings).run pre).client.replies[i]? = some q ∧
            q.state = .waiting := by
        intro q hq hcall hfinished
        obtain ⟨pre, env, post, answer, q, rfl, hrest⟩ := ih hlost hq hcall hfinished
        exact ⟨pre, env, post ++ [e], answer, q, by simp, hrest⟩
      rw [run_concat] at hp
      cases hevent : ((initial b config settings).run es).clientEvent? e with
      | none =>
          rw [step_client_none hevent] at hp
          exact hextend hp hcall hfinished
      | some event =>
          rw [step_client_some hevent] at hp
          rcases GilCoordinator.reply_step hp with ⟨q, hq, rfl⟩ | ⟨-, hnew, -⟩
          · rw [GilCoordinator.progress_call] at hcall
            rcases GilCoordinator.progress_finished hfinished with
              hbefore | ⟨hwaiting, reply, env, rfl⟩
            · exact hextend hq hcall hbefore
            · rcases finished_login hq (by rw [hcall]; rfl) hevent with
                ⟨answer, rfl, hanswer, -⟩ | ⟨timeout, rfl, -⟩
              · exact ⟨es, env, [], answer, q, rfl, ⟨⟨q, hq, hcall⟩, hanswer⟩, hq, hwaiting⟩
              · exact absurd ⟨i, timeout, env, rfl, q, hq, hcall⟩ hlast
          · exact absurd (hnew.symm.trans hfinished) (by simp)

end Runs

/-- The answer to a poll reaches the client. -/
theorem step_deliver {q : PendingReply} {answer : AuthReply} (env : ReplyEnv)
    (hanswer : sys.Answered r i answer) (hq : sys.client.replies[i]? = some q)
    (hwaiting : q.state = .waiting) :
    (sys.step (.deliver i env)).client =
      (GilCoordinator.finish { sys.client with shown := [] } i q).loginPolled
        (networkReply answer) := by
  obtain ⟨⟨p, hp, hcall⟩, hanswer⟩ := hanswer
  obtain rfl := Option.some.inj (hp.symm.trans hq)
  have hevent : sys.clientEvent? (.deliver i env) =
      some (.finished i (networkReply answer) env) := by
    simp [clientEvent?, hanswer]
  rw [step_client_some hevent, GilCoordinator.step_finished hp hwaiting, hcall]
  rfl

/-- The failure of the sign-in is reported for the answers that fail. -/
theorem reportsFailure_deliver {q : PendingReply} {answer : AuthReply} (env : ReplyEnv)
    (hanswer : sys.Answered r i answer) (hq : sys.client.replies[i]? = some q)
    (hwaiting : q.state = .waiting) :
    sys.ReportsFailure r (.deliver i env) ↔ fails answer = true := by
  have hevent : sys.clientEvent? (.deliver i env) =
      some (.finished i (networkReply answer) env) := by
    simp [clientEvent?, hanswer.2]
  rw [← @failed_mem_loginPolled (GilCoordinator.finish { sys.client with shown := [] } i q)
    (fun _ h => absurd h List.not_mem_nil) answer, ← step_deliver env hanswer hq hwaiting]
  constructor
  · intro h
    obtain ⟨_, _, _, m, -, -, hm⟩ := h
    exact ⟨m, hm⟩
  · intro h
    obtain ⟨m, hm⟩ := h
    exact ⟨i, _, env, m, hevent, hanswer.1, hm⟩

/-- A report of a failure is a delivery of an answer that fails, or of none. -/
theorem ReportsFailure.delivered (h : sys.ReportsFailure r e) (hlost : ¬ sys.LosesPoll r e) :
    ∃ i answer, sys.Answered r i answer ∧ fails answer = true := by
  obtain ⟨i, reply, env, m, hevent, ⟨p, hp, hcall⟩, hm⟩ := id h
  rcases finished_login hp (by rw [hcall]; rfl) hevent with
    ⟨answer, rfl, hanswer, rfl⟩ | ⟨timeout, rfl, -⟩
  · have hanswered : sys.Answered r i answer := ⟨⟨p, hp, hcall⟩, hanswer⟩
    by_cases hwaiting : p.state = .waiting
    · exact ⟨i, answer, hanswered, (reportsFailure_deliver env hanswered hp hwaiting).mp h⟩
    · rw [step_client_some hevent, GilCoordinator.step_not_waiting fun q hq => by
        rwa [← Option.some.inj (hp.symm.trans hq)]] at hm
      exact absurd hm List.not_mem_nil
  · exact absurd ⟨i, timeout, env, rfl, p, hp, hcall⟩ hlost

theorem accessToken_step (h : ¬ sys.EndsSession e) :
    (sys.step e).client.accessToken = sys.client.accessToken := by
  cases hevent : sys.clientEvent? e with
  | none => rw [step_client_none hevent]
  | some event =>
      rw [step_client_some hevent]
      refine GilCoordinator.accessToken_step _ ?_
      by_contra hends
      exact h ⟨event, hevent, by simpa using hends⟩

theorem accessToken_run {es : List HandoffEvent}
    (hkeeps : AllSteps step (fun sys e => ¬ sys.EndsSession e) sys es) :
    (sys.run es).client.accessToken = sys.client.accessToken := by
  induction es generalizing sys with
  | nil => rfl
  | cons e es ih => exact (ih hkeeps.2).trans (accessToken_step hkeeps.1)

/-- A login that is polled once is not polled again. -/
theorem not_pollsAgain_of_single {es : List HandoffEvent}
    (h : ∀ i j, (sys.run es).Polls r i → (sys.run es).Polls r j → i = j) :
    AllSteps step (fun sys e => ¬ sys.PollsAgain r e) sys es := by
  refine allSteps_iff.mpr fun pre e post hes hagain => ?_
  obtain ⟨i, env, token, rfl, hpoll, hnone, ⟨j, status, profile, hpoll', hanswer⟩⟩ := hagain
  have hpoll := hpoll.run (.handle i env :: post)
  have hpoll' := hpoll'.run (.handle i env :: post)
  rw [← run_append, ← hes] at hpoll hpoll'
  obtain rfl := h i j hpoll hpoll'
  exact absurd (hnone.symm.trans hanswer) (by simp)

section Handoff

variable {b : AuthBroker} {config : ClientConfig} {settings : CoordinatorSettings}
  {es : List HandoffEvent} {token : String}

/-- The client comes to hold a token that has been returned to it. -/
theorem Completes.comesToHold (h : (initial b config settings).Completes es r token) :
    (initial b config settings).ComesToHold es r token := by
  obtain ⟨i, status, profile, hanswer⟩ := h.returned
  obtain ⟨⟨p, hp, hcall⟩, -⟩ := id hanswer
  obtain ⟨pre, env, post, answer, q, rfl, hanswer', hq, hwaiting⟩ :=
    delivered_of_finished h.kept hp hcall (h.through i p hp hcall)
  have hlast := (hanswer'.run (.deliver i env :: post)).2
  rw [← run_append, hanswer.2] at hlast
  obtain rfl := Option.some.inj hlast
  obtain ⟨rfl, -⟩ := run_sound.genuine i status token profile hanswer.2
  refine ⟨pre, i, env, post, rfl, hanswer'.1, fun mid _ hkeeps => ?_⟩
  rw [List.append_cons, run_append, accessToken_run hkeeps, run_concat,
    step_deliver env hanswer' hq hwaiting]
  exact loginPolled_authenticated ..

/-- A poll that is handled after the token has been returned ends in the report of a
failure. -/
theorem Completes.reportsFailure (h : (initial b config settings).Completes es r token)
    {pre post : List HandoffEvent} {e : HandoffEvent} (hes : es = pre ++ e :: post)
    (hagain : ((initial b config settings).run pre).PollsAgain r e) :
    ∃ pre' e' post', es = pre' ++ e' :: post' ∧
      ((initial b config settings).run pre').ReportsFailure r e' := by
  obtain ⟨i, env, token, rfl, hpoll, hnone, ⟨j, status, profile, hreturned⟩⟩ := hagain
  have hgone : ((initial b config settings).run pre).coordinator.broker.pending.lookup r =
      none := by
    have hids := h.ids
    rw [hes, authEvents, outputs_append] at hids
    rcases run_phase hids.append_left r with hpending | hgone
    · obtain ⟨expiresAt, heq⟩ := hpending j _ hreturned
      exact absurd heq (by simp)
    · exact hgone.2
  -- the answer, from now to the end
  have hanswer : (((initial b config settings).run pre).step (.handle i env)).Answered r i
      (((initial b config settings).run pre).coordinator.broker.status r env.now).2 := by
    refine ⟨hpoll.step _, ?_⟩
    simp only [step, handling_poll hpoll hnone]
    exact Function.update_self ..
  have hanswer := hanswer.run post
  rw [← run_concat, ← run_append, ← List.append_cons, ← hes] at hanswer
  obtain ⟨⟨p, hp, hcall⟩, -⟩ := id hanswer
  obtain ⟨pre', env', post', answer, q, hes', hanswer', hq, hwaiting⟩ :=
    delivered_of_finished h.kept hp hcall (h.through i p hp hcall)
  have hlast := (hanswer'.run (.deliver i env' :: post')).2
  rw [← run_append, ← hes', hanswer.2] at hlast
  obtain rfl := Option.some.inj hlast
  exact ⟨pre', _, post', hes',
    (reportsFailure_deliver env' hanswer' hq hwaiting).mpr (fails_of_gone env.now hgone)⟩

end Handoff

end HandoffSystem

/-- **Handoff.** Along every history in which `Status` has returned the token of a login to
the client, and no answer to the client's polls is lost: the client comes to hold the token
and never reports that the sign-in has failed, if and only if no poll of the login is
handled after the one that got the token. -/
theorem login_handoff_iff (b : AuthBroker) (config : ClientConfig) (settings : CoordinatorSettings)
    {es : List HandoffEvent} {r token : String}
    (h : (HandoffSystem.initial b config settings).Completes es r token) :
    (HandoffSystem.initial b config settings).HandsOver es r token ↔
      AllSteps HandoffSystem.step (fun sys e => ¬ sys.PollsAgain r e)
        (.initial b config settings) es := by
  constructor
  · intro hhands
    refine allSteps_iff.mpr fun pre e post hes hagain => ?_
    obtain ⟨pre', e', post', hes', hreports⟩ := h.reportsFailure hes hagain
    exact allSteps_iff.mp hhands.2 pre' e' post' hes' hreports
  · intro hagain
    refine ⟨h.comesToHold, allSteps_iff.mpr fun pre e post hes hreports => ?_⟩
    obtain ⟨i, answer, hanswer, hfails⟩ :=
      hreports.delivered (allSteps_iff.mp h.kept pre e post hes)
    have hanswer := hanswer.run (e :: post)
    rw [← HandoffSystem.run_append, ← hes] at hanswer
    rw [HandoffSystem.run_answers_fine h.ids hagain h.returned hanswer] at hfails
    exact absurd hfails (by simp)

/-- The client of the tests signs in, with the login of the broker's tests. -/
def testSignIn : List HandoffEvent :=
  [.client .startLogin, .handle 0 ⟨0, 0, some (testBytes 1), some (testBytes 2)⟩,
    .deliver 0 ⟨true, ⟨true, none, true, none⟩⟩] ++ testLogin.tail.map .coordinator

def testClient : HandoffSystem :=
  .initial testBroker ⟨"device-1", "Test PC", "stream.example", "10.0.0.2", false⟩
    ⟨"", "", "", "", false⟩

/-- One poll after the other. -/
def polledOnce : List HandoffEvent :=
  testSignIn ++ [.client .loginPollTimeout, .handle 1 ⟨5, 5, none, none⟩,
    .deliver 1 ⟨true, ⟨true, none, true, none⟩⟩]

/-- Two polls are on their way, and their answers come in either order. -/
def polledTwice (first second : Nat) : List HandoffEvent :=
  testSignIn ++ [.client .loginPollTimeout, .client .loginPollTimeout,
    .handle 1 ⟨5, 5, none, none⟩, .handle 2 ⟨6, 6, none, none⟩,
    .deliver first ⟨true, ⟨true, none, true, none⟩⟩,
    .deliver second ⟨true, ⟨true, none, true, none⟩⟩]

/-- Where a history in which nothing is lost leads can be checked at its end. -/
theorem completes_of_run {es : List HandoffEvent} {r token : String} {i : Nat} {p : PendingReply}
    {profile : GilIDProfile} (hids : AuthIDsFresh (testClient.authEvents es))
    (hkept : ∀ e ∈ es, ∀ j timeout env, e ≠ .lose j timeout env)
    (hthrough : ∀ q ∈ (testClient.run es).client.replies, q.call = .pollLogin r →
      q.state = .finished)
    (hp : (testClient.run es).client.replies[i]? = some p) (hcall : p.call = .pollLogin r)
    (hanswer : (testClient.run es).answers i = some (.authenticated 200 token profile)) :
    testClient.Completes es r token where
  ids := hids
  kept := AllSteps.mono (fun _ e he hloses => by
    obtain ⟨j, timeout, env, rfl, -⟩ := hloses
    exact he j timeout env rfl) (AllSteps.of_forall hkept testClient)
  through := fun j q hq => hthrough q (List.mem_of_getElem? hq)
  returned := ⟨i, 200, profile, ⟨p, hp, hcall⟩, hanswer⟩

theorem polledOnce_handed_over :
    testClient.HandsOver polledOnce (randomID (testBytes 1)) (randomID (testBytes 3)) := by
  refine (login_handoff_iff testBroker _ _ (@completes_of_run polledOnce _ _ 1
    ⟨.pollLogin (randomID (testBytes 1)), none, false, .finished⟩ testProfile (by decide +kernel)
    ?_ (by decide +kernel) (by decide +kernel) rfl (by decide +kernel))).mpr ?_
  · simp [polledOnce, testSignIn, testLogin]
  · refine HandoffSystem.not_pollsAgain_of_single fun i j hi hj => ?_
    have hpolls : ∀ k, (testClient.run polledOnce).Polls (randomID (testBytes 1)) k → k = 1 := by
      intro k hk
      obtain ⟨p, hp, hcall⟩ := hk
      have hreplies : (testClient.run polledOnce).client.replies.map PendingReply.call =
          [.startLogin "device-1" "Test PC", .pollLogin (randomID (testBytes 1)),
            .requestVm "device-1" "Test PC"] := by decide +kernel
      have hget := congrArg (fun calls => calls[k]?) hreplies
      rw [List.getElem?_map, hp, Option.map_some, hcall] at hget
      rcases k with _ | _ | _ | k
      · exact absurd hget (by simp)
      · rfl
      · exact absurd hget (by simp)
      · exact absurd hget (by simp)
    rw [hpolls i hi, hpolls j hj]

/-- The handoff does not go well when the second poll is told that the login is missing. -/
theorem not_handsOver_of_missing {es pre post : List HandoffEvent} {env : ReplyEnv}
    {r token : String} (hes : es = pre ++ .deliver 2 env :: post)
    (hpoll : (testClient.run pre).client.replies[2]? = some
      ⟨.pollLogin r, none, false, .waiting⟩)
    (hanswer : (testClient.run pre).answers 2 =
      some (.error 404 "LOGIN_NOT_FOUND" "login request is missing or expired")) :
    ¬ testClient.HandsOver es r token := by
  intro h
  exact allSteps_iff.mp h.2 pre _ post hes
    ((HandoffSystem.reportsFailure_deliver env ⟨⟨_, hpoll, rfl⟩, hanswer⟩ hpoll rfl).mpr rfl)

/-- The poll that is handled second is told that the login is missing: the client reports
that the sign-in has failed, after it gets the token or before. -/
theorem polledTwice_fails :
    testClient.Completes (polledTwice 1 2) (randomID (testBytes 1)) (randomID (testBytes 3)) ∧
    ¬ testClient.HandsOver (polledTwice 1 2) (randomID (testBytes 1)) (randomID (testBytes 3)) ∧
    testClient.Completes (polledTwice 2 1) (randomID (testBytes 1)) (randomID (testBytes 3)) ∧
    ¬ testClient.HandsOver (polledTwice 2 1) (randomID (testBytes 1)) (randomID (testBytes 3)) := by
  refine ⟨?_, ?_, ?_, ?_⟩
  · exact @completes_of_run (polledTwice 1 2) _ _ 1
      ⟨.pollLogin (randomID (testBytes 1)), none, false, .finished⟩ testProfile (by decide +kernel)
      (by simp [polledTwice, testSignIn, testLogin]) (by decide +kernel) (by decide +kernel) rfl
      (by decide +kernel)
  · exact @not_handsOver_of_missing _ ((polledTwice 1 2).take 12) [] _ _ _ rfl (by decide +kernel)
      (by decide +kernel)
  · exact @completes_of_run (polledTwice 2 1) _ _ 1
      ⟨.pollLogin (randomID (testBytes 1)), none, false, .finished⟩ testProfile (by decide +kernel)
      (by simp [polledTwice, testSignIn, testLogin]) (by decide +kernel) (by decide +kernel) rfl
      (by decide +kernel)
  · exact @not_handsOver_of_missing _ ((polledTwice 2 1).take 11) [_] _ _ _ rfl (by decide +kernel)
      (by decide +kernel)

end GilStreaming.Client
