import GilStreaming.Coordinator.AuthSystem

/-!
# GilStreaming.Coordinator.AuthSteps

What one step of the login broker can do.

`AuthSystem.Steps` lists the outcomes of a step, one constructor for each way in which
the broker, the threads or the outputs change, with what the step found. Every step is
one of them (`AuthSystem.exec_steps`), and every invariant of the broker is proved by
cases on them.
-/

namespace GilStreaming.Coordinator

/-! ### Stages -/

/-- The thread has consumed its state, and has a login to complete or to fail. -/
def CallbackStage.active : CallbackStage → Bool
  | .checking expiresAt => expiresAt.isSome
  | .answered _ => false
  | _ => true

/-- The thread has consumed its state and has not exchanged its code yet. -/
def CallbackStage.waiting : CallbackStage → Bool
  | .checking expiresAt => expiresAt.isSome
  | _ => false

/-- The token that the thread is about to store. -/
def CallbackStage.token? : CallbackStage → Option String
  | .storing token _ => some token
  | _ => none

/-- A stage of a thread that has nothing more to exchange or to store. -/
def CallbackStage.past : CallbackStage → Bool
  | .failing _ _ => true
  | .answered _ => true
  | _ => false

theorem CallbackStage.past_waiting {stage : CallbackStage} (h : stage.past = true) :
    stage.waiting = false := by
  cases stage <;> first | rfl | exact absurd h (by simp [past])

theorem CallbackStage.past_token {stage : CallbackStage} (h : stage.past = true) :
    stage.token? = none := by
  cases stage <;> first | rfl | exact absurd h (by simp [past])

theorem CallbackStage.active_of_waiting {stage : CallbackStage} (h : stage.waiting = true) :
    stage.active = true := by
  cases stage <;> first | exact h | exact absurd h (by simp [waiting])

theorem CallbackStage.active_of_token {stage : CallbackStage} {token : String}
    (h : stage.token? = some token) : stage.active = true := by
  cases stage <;> first | rfl | exact absurd h (by simp [token?])

/-! ### Cleaning up -/

namespace AuthBroker

variable {b : AuthBroker} {now : Int}

theorem cleanupLocked_pending {r : String} {p : PendingAuth} :
    (b.cleanupLocked now).pending.lookup r = some p ↔
      b.pending.lookup r = some p ∧ now < p.expiresAt := by
  rw [cleanupLocked, GoMap.lookup_filter_eq_some, decide_eq_true_eq]

/-- An entry stays when no login that expired has its state. -/
theorem cleanupLocked_stateToRequest {s r : String} :
    (b.cleanupLocked now).stateToRequest.lookup s = some r ↔
      b.stateToRequest.lookup s = some r ∧
        ∀ r' p, b.pending.lookup r' = some p → p.state = s → now < p.expiresAt := by
  rw [cleanupLocked, GoMap.lookup_filter_eq_some, List.all_eq_true]
  refine and_congr_right fun _ => ⟨fun h r' p hp hs => ?_, fun h e he => ?_⟩
  · have := h ⟨r', p⟩ (AList.mem_lookup_iff.mp hp)
    simpa [hs] using this
  · by_cases hs : e.2.state = s
    · have := h e.1 e.2 (AList.mem_lookup_iff.mpr he) hs
      simp [this]
    · simp [hs]

theorem cleanupLocked_sessions {k : String} {session : CoordinatorSession} :
    (b.cleanupLocked now).sessions.lookup k = some session ↔
      b.sessions.lookup k = some session ∧ now < session.expiresAt := by
  rw [cleanupLocked, GoMap.lookup_filter_eq_some, decide_eq_true_eq]

@[simp] theorem failPending_stateToRequest (r message : String) :
    (b.failPending r message).stateToRequest = b.stateToRequest := by
  unfold failPending
  split <;> rfl

theorem cleanupLocked_count_pending (p : String → PendingAuth → Bool) :
    (b.cleanupLocked now).pending.count p ≤ b.pending.count p := by
  unfold cleanupLocked
  exact GoMap.count_filter_le _ _

theorem cleanupLocked_count_stateToRequest (p : String → String → Bool) :
    (b.cleanupLocked now).stateToRequest.count p ≤ b.stateToRequest.count p := by
  unfold cleanupLocked
  exact GoMap.count_filter_le _ _

end AuthBroker

/-! ### The outcomes of a step -/

namespace AuthSystem

/-- The broker is `broker` and the threads are as they were. -/
abbrev withBroker (sys : AuthSystem) (broker : AuthBroker) : AuthSystem :=
  { sys with broker := broker }

@[simp] theorem advance_broker (sys : AuthSystem) (i : Nat) (t : CallbackThread)
    (stage : CallbackStage) : (sys.advance i t stage).broker = sys.broker := rfl

/-- The outcomes of the step `e` from `sys`: the system after it and its output. -/
inductive Steps (sys : AuthSystem) (e : AuthEvent) : AuthSystem → Option AuthOutput → Prop
  /-- Nothing happens, or nothing but an answer. -/
  | idle : Steps sys e sys none
  /-- What has expired is removed. -/
  | cleaned (now : Int) (hnow : e.action.reading = some now) :
      Steps sys e (sys.withBroker (sys.broker.cleanupLocked now)) none
  /-- A login starts. -/
  | started (now : Int) (deviceID deviceName requestID state : String)
      (hnow : e.action.reading = some now) (hdrawn : e.action.drawn = [requestID, state]) :
      Steps sys e
        (sys.withBroker { sys.broker.cleanupLocked now with
          pending := (sys.broker.cleanupLocked now).pending.insert requestID
            ⟨requestID, state, deviceID, deviceName, now + authRequestLifetime, "", .zero, ""⟩
          stateToRequest :=
            (sys.broker.cleanupLocked now).stateToRequest.insert state requestID })
        (some (.started requestID state))
  /-- `Status` reports a login that failed, and forgets it. -/
  | reported (now : Int) (requestID : String) (pending : PendingAuth)
      (hnow : e.action.reading = some now)
      (hpending : (sys.broker.cleanupLocked now).pending.lookup requestID = some pending)
      (herror : pending.error ≠ "") :
      Steps sys e
        (sys.withBroker { sys.broker.cleanupLocked now with
          pending := (sys.broker.cleanupLocked now).pending.erase pending.requestID }) none
  /-- `Status` returns the token of a login, and forgets the login. -/
  | returned (now : Int) (requestID : String) (pending : PendingAuth)
      (hnow : e.action.reading = some now)
      (hpending : (sys.broker.cleanupLocked now).pending.lookup requestID = some pending)
      (hclean : pending.error = "") (htoken : pending.accessToken ≠ "") :
      Steps sys e
        (sys.withBroker { sys.broker.cleanupLocked now with
          pending := (sys.broker.cleanupLocked now).pending.erase pending.requestID
          stateToRequest :=
            (sys.broker.cleanupLocked now).stateToRequest.erase pending.state })
        (some (.returned requestID pending.accessToken))
  /-- A `Callback` arrives whose state leads to no login. -/
  | unknown (request : CallbackRequest) (requestID : String) :
      Steps sys e { sys with callbacks := sys.callbacks ++ [⟨request, requestID, .checking none⟩] }
        none
  /-- A `Callback` arrives and consumes its state. -/
  | consumed (request : CallbackRequest) (pending : PendingAuth)
      (hpending : sys.broker.pending.lookup (sys.broker.requestOf request.state) = some pending) :
      Steps sys e
        ⟨{ sys.broker with
            stateToRequest := sys.broker.stateToRequest.erase request.state },
          sys.callbacks ++ [⟨request, sys.broker.requestOf request.state,
            .checking (some pending.expiresAt)⟩]⟩ none
  /-- A thread gives up, or is about to. -/
  | givesUp (i : Nat) (t : CallbackThread) (stage : CallbackStage)
      (hi : sys.callbacks[i]? = some t) (hpast : stage.past = true)
      (hactive : stage.active = true → t.stage.active = true) :
      Steps sys e (sys.advance i t stage) none
  /-- A thread starts the exchange of its code. -/
  | exchange (i : Nat) (t : CallbackThread) (hi : sys.callbacks[i]? = some t)
      (hwaiting : t.stage.waiting = true) :
      Steps sys e (sys.advance i t .exchanging)
        (some (.exchange t.request.state (sys.broker.tokenRequest t.request.code)))
  /-- The exchange has come back with a profile, and a token is drawn. -/
  | minted (i : Nat) (t : CallbackThread) (token : String) (profile : GilIDProfile)
      (hi : sys.callbacks[i]? = some t) (hstage : t.stage = .exchanging)
      (hdrawn : e.action.drawn = [token]) (htoken : token ≠ "") (hprofile : profile.id ≠ "") :
      Steps sys e (sys.advance i t (.storing token profile))
        (some (.minted t.request.state token))
  /-- A login is failed. -/
  | failed (i : Nat) (t : CallbackThread) (message : String) (reply : AuthReply)
      (hi : sys.callbacks[i]? = some t) (hstage : t.stage = .failing message reply) :
      Steps sys e ((sys.advance i t (.answered reply)).withBroker
        (sys.broker.failPending t.requestID message)) none
  /-- A login is completed and its session stored. -/
  | stored (i : Nat) (t : CallbackThread) (token : String) (profile : GilIDProfile)
      (current : PendingAuth) (hi : sys.callbacks[i]? = some t)
      (hstage : t.stage = .storing token profile)
      (hpending : sys.broker.pending.lookup t.requestID = some current) :
      Steps sys e
        ((sys.advance i t (.answered CallbackThread.signedIn)).withBroker { sys.broker with
          pending := sys.broker.pending.insert t.requestID
            { current with accessToken := token, profile := profile }
          sessions := sys.broker.sessions.insert (tokenHash token)
            ⟨profile.id, profile, e.instant + coordinatorSessionLifetime⟩ })
        (some (.stored t.request.state token profile e.instant))
  /-- `DevLogin` stores a session. -/
  | devSession (token deviceID : String) (hdev : sys.broker.devAuthEnabled = true)
      (hdrawn : e.action.drawn = [token]) :
      Steps sys e
        (sys.withBroker { sys.broker with
          sessions := sys.broker.sessions.insert (tokenHash token)
            ⟨"dev:" ++ deviceID, AuthBroker.devProfile ("dev:" ++ deviceID),
              e.instant + coordinatorSessionLifetime⟩ })
        (some (.devSession token ("dev:" ++ deviceID) e.instant))

variable {sys : AuthSystem} {e : AuthEvent}

theorem steps_start {now : Int} {body : Option (String × String)}
    {requestID state : Option RandomBytes} (he : e.action = .start now body requestID state) :
    Steps sys e (sys.step e) (sys.output e) := by
  simp only [step, output, exec, he, AuthBroker.start]
  cases body with
  | none => exact .idle
  | some body =>
      obtain ⟨deviceID, deviceName⟩ := body
      dsimp only
      split
      · exact .idle
      · cases requestID with
        | none => exact .idle
        | some requestID =>
            cases state with
            | none => exact .idle
            | some state =>
                exact .started now deviceID deviceName (randomID requestID) (randomID state)
                  (by rw [he]; rfl) (by rw [he]; rfl)

theorem steps_status {now : Int} {requestID : String} (he : e.action = .status now requestID) :
    Steps sys e (sys.step e) (sys.output e) := by
  have hnow : e.action.reading = some now := by rw [he]; rfl
  simp only [step, output, exec, he, AuthBroker.status]
  cases hpending : (sys.broker.cleanupLocked now).pending.lookup requestID with
  | none => exact .cleaned now hnow
  | some pending =>
      dsimp only
      by_cases herror : pending.error = ""
      · rw [if_neg (not_not.mpr herror)]
        by_cases htoken : pending.accessToken = ""
        · rw [if_pos htoken]
          exact .cleaned now hnow
        · rw [if_neg htoken]
          exact .returned now requestID pending hnow hpending herror htoken
      · rw [if_pos herror]
        exact .reported now requestID pending hnow hpending herror

theorem steps_callback {request : CallbackRequest} (he : e.action = .callback request) :
    Steps sys e (sys.step e) (sys.output e) := by
  simp only [step, output, exec, he, AuthBroker.consumeState]
  cases hpending : sys.broker.pending.lookup (sys.broker.requestOf request.state) with
  | none => exact .unknown request _
  | some pending => exact .consumed request pending hpending

theorem steps_check {i : Nat} (he : e.action = .check i) :
    Steps sys e (sys.step e) (sys.output e) := by
  simp only [step, output, exec, he]
  cases hi : sys.callbacks[i]? with
  | none => exact .idle
  | some t =>
      dsimp only
      cases hstage : t.stage with
      | checking expiresAt =>
          dsimp only
          cases expiresAt with
          | none =>
              rw [CallbackThread.check, if_neg (by simp)]
              exact .givesUp i t _ hi rfl (fun h => absurd h (by simp [CallbackStage.active]))
          | some expiresAt =>
              have hactive : t.stage.active = true := by rw [hstage]; rfl
              simp only [CallbackThread.check]
              split
              · rw [if_neg (by simp)]
                exact .givesUp i t _ hi rfl (fun _ => hactive)
              · split
                · rw [if_neg (by simp)]
                  exact .givesUp i t _ hi rfl (fun _ => hactive)
                · split
                  · rw [if_neg (by simp)]
                    exact .givesUp i t _ hi rfl (fun _ => hactive)
                  · rw [if_pos rfl]
                    exact .exchange i t hi (by rw [hstage]; rfl)
      | _ => exact .idle

theorem steps_exchanged {i : Nat} {token : Fetched String} {profile : Fetched GilIDProfile}
    {coordinatorToken : Option RandomBytes}
    (he : e.action = .exchanged i token profile coordinatorToken) :
    Steps sys e (sys.step e) (sys.output e) := by
  simp only [step, output, exec, he]
  cases hi : sys.callbacks[i]? with
  | none => exact .idle
  | some t =>
      dsimp only
      cases hstage : t.stage with
      | exchanging =>
          have hactive : t.stage.active = true := by rw [hstage]; rfl
          cases hprofile : exchangeAndLoadProfile token profile with
          | none => exact .givesUp i t _ hi rfl (fun _ => hactive)
          | some profile =>
              cases coordinatorToken with
              | none => exact .givesUp i t _ hi rfl (fun _ => hactive)
              | some value =>
                  exact .minted i t (randomID value) profile hi hstage (by rw [he]; rfl)
                    (randomID_ne_empty value) (exchangeAndLoadProfile_id hprofile)
      | _ => exact .idle

theorem steps_fail {i : Nat} (he : e.action = .fail i) :
    Steps sys e (sys.step e) (sys.output e) := by
  simp only [step, output, exec, he]
  cases hi : sys.callbacks[i]? with
  | none => exact .idle
  | some t =>
      dsimp only
      cases hstage : t.stage with
      | failing message reply => exact .failed i t message reply hi hstage
      | _ => exact .idle

theorem steps_store {i : Nat} (he : e.action = .store i) :
    Steps sys e (sys.step e) (sys.output e) := by
  simp only [step, output, exec, he]
  cases hi : sys.callbacks[i]? with
  | none => exact .idle
  | some t =>
      dsimp only
      cases hstage : t.stage with
      | storing token profile =>
          simp only [AuthBroker.storeSession]
          cases hpending : sys.broker.pending.lookup t.requestID with
          | none =>
              exact .givesUp i t _ hi rfl (fun h => absurd h (by simp [CallbackStage.active]))
          | some current => exact .stored i t token profile current hi hstage hpending
      | _ => exact .idle

theorem steps_devLogin {body : Option String} {token : Option RandomBytes}
    (he : e.action = .devLogin body token) : Steps sys e (sys.step e) (sys.output e) := by
  simp only [step, output, exec, he, AuthBroker.devLogin]
  by_cases hdev : (!sys.broker.devAuthEnabled) = true
  · rw [if_pos hdev]
    exact .idle
  · rw [if_neg hdev]
    have hdev : sys.broker.devAuthEnabled = true := by simpa using hdev
    cases body with
    | none => exact .idle
    | some deviceID =>
        dsimp only
        by_cases hempty : deviceID = ""
        · rw [if_pos hempty]
          exact .idle
        · rw [if_neg hempty]
          cases token with
          | none => exact .idle
          | some value => exact .devSession (randomID value) deviceID hdev (by rw [he]; rfl)

/-- **Inversion.** Every step has one of the outcomes. -/
theorem exec_steps (sys : AuthSystem) (e : AuthEvent) :
    Steps sys e (sys.step e) (sys.output e) := by
  cases he : e.action with
  | start now body requestID state => exact steps_start he
  | status now requestID => exact steps_status he
  | callback request => exact steps_callback he
  | check i => exact steps_check he
  | exchanged i token profile coordinatorToken => exact steps_exchanged he
  | fail i => exact steps_fail he
  | store i => exact steps_store he
  | devLogin body token => exact steps_devLogin he
  | profileForOwner now owner order =>
      simp only [step, output, exec, he]
      exact .cleaned now (by rw [he]; rfl)
  | authenticate now token =>
      simp only [step, output, exec, he]
      exact .cleaned now (by rw [he]; rfl)

end AuthSystem

end GilStreaming.Coordinator
