import GilStreaming.Coordinator.Auth
import GilStreaming.Lib.Trace

/-!
# GilStreaming.Coordinator.AuthSystem

The broker with the requests that are under way, as a system.

A request of every kind but one is a single critical section. A `Callback` takes
several steps: it consumes its state under the mutex, looks at what it found and at its
query, exchanges the code, and then stores a session or fails the login, under the mutex
again. Between two of its steps anything else may run, so each `Callback` that has
arrived is a `CallbackThread`, and the threads are never removed: a thread that is
through keeps its answer.

An event is the step of one party, with the instant at which it runs. Where the source
reads the clock before it waits for the mutex, that reading is part of the event, and
may be older than the instant.

`exec` also tells what a step shows: the ids it hands out, the exchange it starts, the
session it stores.
-/

namespace GilStreaming.Coordinator

open GilStreaming.Trace

/-! ### Callback threads -/

/-- The query of a request to `/auth/callback`; a missing parameter is empty. -/
structure CallbackRequest where
  state : String
  code : String
  error : String
  deriving DecidableEq, Repr

inductive CallbackStage
  /-- Past the first critical section, with the expiry of the login found. -/
  | checking (expiresAt : Option Int)
  /-- In `exchangeAndLoadProfile`. -/
  | exchanging
  /-- About to call `failPending`, and then to answer. -/
  | failing (message : String) (reply : AuthReply)
  /-- About to enter the second critical section. -/
  | storing (token : String) (profile : GilIDProfile)
  | answered (reply : AuthReply)
  deriving DecidableEq, Repr

structure CallbackThread where
  request : CallbackRequest
  requestID : String
  stage : CallbackStage
  deriving DecidableEq, Repr

namespace CallbackThread

/-- `Callback` after its first critical section, at the clock reading `now`. -/
def check (t : CallbackThread) (expiresAt : Option Int) (now : Int) : CallbackStage :=
  match expiresAt with
  | none => .answered (.httpError 400 "Invalid or expired login request")
  | some expiresAt =>
    if t.request.state = "" ∨ ¬ now < expiresAt then
      .answered (.httpError 400 "Invalid or expired login request")
    else if t.request.error ≠ "" then
      .failing "GILid denied the login request"
        (.page "Login cancelled" "You can return to GilStreaming and try again.")
    else if t.request.code = "" then
      .failing "GILid returned no authorization code"
        (.httpError 400 "Missing authorization code")
    else .exchanging

/-- `Callback` after `exchangeAndLoadProfile`; `token` is what `randomID` returns. -/
def exchanged (profile : Option GilIDProfile) (token : Option RandomBytes) : CallbackStage :=
  match profile with
  | none =>
    .failing "GILid authentication could not be completed" (.httpError 502 "Authentication failed")
  | some profile =>
    match token with
    | none =>
      .failing "Could not create a GilStreaming session" (.httpError 500 "Authentication failed")
    | some token => .storing (randomID token) profile

/-- The page at the end of `Callback`. -/
def signedIn : AuthReply :=
  .page "Signed in" "Authentication succeeded. You can return to GilStreaming."

end CallbackThread

/-! ### The system -/

structure AuthSystem where
  broker : AuthBroker
  callbacks : List CallbackThread

inductive AuthAction
  /-- `Start`. -/
  | start (now : Int) (body : Option (String × String)) (requestID state : Option RandomBytes)
  /-- `Status`. -/
  | status (now : Int) (requestID : String)
  /-- `Callback` arrives, and runs its first critical section. -/
  | callback (request : CallbackRequest)
  /-- The `i`-th `Callback` looks at what it found and at its query. -/
  | check (i : Nat)
  /-- `exchangeAndLoadProfile` returns to the `i`-th `Callback`. -/
  | exchanged (i : Nat) (token : Fetched String) (profile : Fetched GilIDProfile)
    (coordinatorToken : Option RandomBytes)
  /-- The `i`-th `Callback` runs `failPending`. -/
  | fail (i : Nat)
  /-- The `i`-th `Callback` runs its second critical section. -/
  | store (i : Nat)
  /-- `DevLogin`. -/
  | devLogin (body : Option String) (token : Option RandomBytes)
  /-- `ProfileForOwner`. -/
  | profileForOwner (now : Int) (owner : String) (order : SessionOrder)
  /-- `AuthenticateToken`. -/
  | authenticate (now : Int) (token : String)

/-- A step and the instant at which it runs. -/
structure AuthEvent where
  instant : Int
  action : AuthAction

/-- What a step shows. -/
inductive AuthOutput
  /-- `Start` answers with this `requestId` and sends the user to GILid with this state. -/
  | started (requestID state : String)
  /-- A `Callback` for the state starts a code exchange. -/
  | exchange (state : String) (request : TokenRequest)
  /-- A `Callback` for the state draws a coordinator token. -/
  | minted (state token : String)
  /-- A `Callback` for the state stores the session of the token. -/
  | stored (state token : String) (profile : GilIDProfile) (instant : Int)
  /-- `DevLogin` stores the session of the token. -/
  | devSession (token owner : String) (instant : Int)
  /-- `Status` returns the token for the `requestId`. -/
  | returned (requestID token : String)
  deriving DecidableEq, Repr

namespace AuthSystem

/-- A broker that has just started. -/
def initial (b : AuthBroker) : AuthSystem :=
  ⟨{ b with pending := ∅, stateToRequest := ∅, sessions := ∅ }, []⟩

/-- The `i`-th thread goes on to the stage. -/
def advance (sys : AuthSystem) (i : Nat) (t : CallbackThread) (stage : CallbackStage) :
    AuthSystem :=
  { sys with callbacks := sys.callbacks.set i { t with stage := stage } }

/-- The step of an event, and what it shows. A thread that is not at the stage the event
is for does nothing. -/
def exec (sys : AuthSystem) (e : AuthEvent) : AuthSystem × Option AuthOutput :=
  match e.action with
  | .start now body requestID state =>
    let (broker, reply) := sys.broker.start body requestID state now
    ({ sys with broker := broker },
      match reply with
      | .started requestID url _ => some (.started requestID url.state)
      | _ => none)
  | .status now requestID =>
    let (broker, reply) := sys.broker.status requestID now
    ({ sys with broker := broker },
      match reply with
      | .authenticated _ token _ => some (.returned requestID token)
      | _ => none)
  | .callback request =>
    let (broker, found) := sys.broker.consumeState request.state
    (⟨broker, sys.callbacks ++
        [⟨request, sys.broker.requestOf request.state,
          .checking (found.map PendingAuth.expiresAt)⟩]⟩, none)
  | .check i =>
    match sys.callbacks[i]? with
    | some t =>
      match t.stage with
      | .checking expiresAt =>
        let stage := t.check expiresAt e.instant
        (sys.advance i t stage,
          if stage = .exchanging then
            some (.exchange t.request.state (sys.broker.tokenRequest t.request.code))
          else none)
      | _ => (sys, none)
    | none => (sys, none)
  | .exchanged i token profile coordinatorToken =>
    match sys.callbacks[i]? with
    | some t =>
      match t.stage with
      | .exchanging =>
        let stage :=
          CallbackThread.exchanged (exchangeAndLoadProfile token profile) coordinatorToken
        (sys.advance i t stage,
          match stage with
          | .storing token _ => some (.minted t.request.state token)
          | _ => none)
      | _ => (sys, none)
    | none => (sys, none)
  | .fail i =>
    match sys.callbacks[i]? with
    | some t =>
      match t.stage with
      | .failing message reply =>
        ({ sys.advance i t (.answered reply) with
            broker := sys.broker.failPending t.requestID message }, none)
      | _ => (sys, none)
    | none => (sys, none)
  | .store i =>
    match sys.callbacks[i]? with
    | some t =>
      match t.stage with
      | .storing token profile =>
        ({ sys.advance i t (.answered CallbackThread.signedIn) with
            broker := sys.broker.storeSession t.requestID token profile e.instant },
          if (sys.broker.pending.lookup t.requestID).isSome then
            some (.stored t.request.state token profile e.instant)
          else none)
      | _ => (sys, none)
    | none => (sys, none)
  | .devLogin body token =>
    let (broker, reply) := sys.broker.devLogin body token e.instant
    ({ sys with broker := broker },
      match reply with
      | .authenticated _ token profile => some (.devSession token profile.id e.instant)
      | _ => none)
  | .profileForOwner now owner order =>
    ({ sys with broker := (sys.broker.profileForOwner owner order now).1 }, none)
  | .authenticate now token =>
    ({ sys with broker := (sys.broker.authenticateToken token now).1 }, none)

def step (sys : AuthSystem) (e : AuthEvent) : AuthSystem := (sys.exec e).1

def output (sys : AuthSystem) (e : AuthEvent) : Option AuthOutput := (sys.exec e).2

/-- The system after a history. -/
abbrev run (sys : AuthSystem) (es : List AuthEvent) : AuthSystem := Trace.run step sys es

/-- What a history shows. -/
abbrev outputs (sys : AuthSystem) (es : List AuthEvent) : List AuthOutput :=
  Trace.outputs step output sys es

theorem run_concat (sys : AuthSystem) (es : List AuthEvent) (e : AuthEvent) :
    sys.run (es ++ [e]) = (sys.run es).step e := Trace.run_concat ..

theorem outputs_concat (sys : AuthSystem) (es : List AuthEvent) (e : AuthEvent) :
    sys.outputs (es ++ [e]) = sys.outputs es ++ ((sys.run es).output e).toList :=
  Trace.outputs_concat ..

end AuthSystem

/-! ### What a history leaves open -/

/-- The ids that `randomID` returns to the step. -/
def AuthAction.drawn : AuthAction → List String
  | .start _ _ requestID state => (requestID.toList ++ state.toList).map randomID
  | .exchanged _ _ _ token => token.toList.map randomID
  | .devLogin _ token => token.toList.map randomID
  | _ => []

/-- The ids drawn along a history. -/
def authIDs (es : List AuthEvent) : List String := es.flatMap fun e => e.action.drawn

/-- `randomID` never returns the same id twice. (An id offered to a step that does not
reach `randomID` may as well be `none`.) -/
def AuthIDsFresh (es : List AuthEvent) : Prop := (authIDs es).Nodup

instance (es : List AuthEvent) : Decidable (AuthIDsFresh es) :=
  inferInstanceAs (Decidable (authIDs es).Nodup)

theorem authIDs_append (es es' : List AuthEvent) :
    authIDs (es ++ es') = authIDs es ++ authIDs es' := List.flatMap_append

theorem authIDs_concat (es : List AuthEvent) (e : AuthEvent) :
    authIDs (es ++ [e]) = authIDs es ++ e.action.drawn := by
  simp [authIDs]

/-- No id is empty. -/
theorem empty_not_mem_authIDs (es : List AuthEvent) : "" ∉ authIDs es := by
  intro h
  obtain ⟨e, -, hdrawn⟩ := List.mem_flatMap.mp h
  have hmap : ∀ l : List RandomBytes, "" ∉ l.map randomID := by
    intro l hl
    obtain ⟨value, -, hvalue⟩ := List.mem_map.mp hl
    exact randomID_ne_empty value hvalue
  cases haction : e.action <;> rw [haction, AuthAction.drawn] at hdrawn <;>
    first | exact hmap _ hdrawn | exact absurd hdrawn List.not_mem_nil

theorem AuthIDsFresh.append_left {es es' : List AuthEvent} (h : AuthIDsFresh (es ++ es')) :
    AuthIDsFresh es := by
  rw [AuthIDsFresh, authIDs, List.flatMap_append] at h
  exact (List.nodup_append.mp h).1

/-- The ids drawn by the last step were not drawn before. -/
theorem AuthIDsFresh.not_mem {es : List AuthEvent} {e : AuthEvent} {id : String}
    (h : AuthIDsFresh (es ++ [e])) (hid : id ∈ e.action.drawn) : id ∉ authIDs es := by
  rw [AuthIDsFresh, authIDs_concat] at h
  exact fun hmem => (List.nodup_append.mp h).2.2 id hmem id hid rfl

/-- The reading of the clock that the step took before it waited for the mutex. -/
def AuthAction.reading : AuthAction → Option Int
  | .start now _ _ _ => some now
  | .status now _ => some now
  | .profileForOwner now _ _ => some now
  | .authenticate now _ => some now
  | _ => none

/-- The clock of a history. -/
abbrev AuthClock (es : List AuthEvent) : Prop :=
  Trace.Timed AuthEvent.instant (fun e => e.action.reading) es

/-! ### The login of the tests

The broker, the profile and the login of `auth_test.go`, for the concrete histories in
the modules that follow. -/

def testBroker : AuthBroker :=
  ⟨"client-id", "server-only-secret", "https://stream.example/auth/callback",
    "https://auth.example/oauth/authorize", "https://auth.example/oauth/token",
    "https://auth.example/auth/me", false, ∅, ∅, ∅⟩

def testProfile : GilIDProfile :=
  ⟨"user-123", "", "gil", "", "", "https://auth.example/avatar.png", false⟩

/-- 24 bytes that are all `n`. -/
def testBytes (n : UInt8) : RandomBytes := Vector.replicate 24 n

/-- A login that is started at time zero, and completed by its `Callback`. -/
def testLogin : List AuthEvent :=
  [⟨0, .start 0 (some ("device-1", "Test PC")) (some (testBytes 1)) (some (testBytes 2))⟩,
    ⟨1, .callback ⟨randomID (testBytes 2), "valid-code", ""⟩⟩,
    ⟨2, .check 0⟩,
    ⟨3, .exchanged 0 (.response 200 (some "gilid-access-token"))
      (.response 200 (some testProfile)) (some (testBytes 3))⟩,
    ⟨4, .store 0⟩]

end GilStreaming.Coordinator
