import GilStreaming.Coordinator.AuthSystem

/-!
# GilStreaming.Coordinator.AdminAuth

The admin logins of `coordinator/admin_auth.go` beside the client logins.

GILid sends both kinds of login back to the same URL. `Server.oauthCallback` asks
`AdminAuth.Callback` first, and hands the request to `AuthBroker.Callback` when the state
is not one of an admin login. `LoginSystem` is the broker's `AuthSystem` with an
`AdminAuth`, which has a mutex of its own, and the admin requests under way: an
`AdminThread` is past its first critical section, and has an exchange, another critical
section or the broker's `Callback` still before it.
-/

namespace GilStreaming.Coordinator

open GilStreaming.Trace

/-! ### Data -/

/-- `adminSession`. -/
structure AdminSession where
  profile : GilIDProfile
  expiresAt : Int
  deriving DecidableEq, Repr

/-- `AdminAuth`, but for its pointer to the broker. -/
structure AdminAuth where
  pending : GoMap String Int
  sessions : GoMap String AdminSession

/-- What is written to the response of an admin login request. -/
inductive AdminReply
  /-- 303 to `/admin/`. -/
  | redirect
  /-- 303 to GILid. -/
  | authorize (url : AuthorizeURL)
  /-- 303 to `/admin/`, with the cookie `gilstreaming_admin_session`. -/
  | signedIn (cookie : String) (expires : Int)
  /-- `http.Error`. -/
  | httpError (status : Nat) (message : String)
  /-- `writeCallbackPage`. -/
  | page (title message : String)
  /-- `writeCallbackError`. -/
  | errorPage (status : Nat) (title message : String)
  deriving DecidableEq, Repr

/-! ### The critical sections -/

namespace AdminAuth

/-- `AdminAuth.cleanupLocked`. -/
def cleanupLocked (a : AdminAuth) (now : Int) : AdminAuth where
  pending := a.pending.filter fun _ expiresAt => decide (now < expiresAt)
  sessions := a.sessions.filter fun _ session => decide (now < session.expiresAt)

/-- `AdminAuth.Authenticate`: `cookie` is the value of the session cookie, if the request
has one. -/
def authenticate (a : AdminAuth) (cookie : Option String) (now : Int) :
    AdminAuth × Option GilIDProfile :=
  match cookie with
  | none => (a, none)
  | some value =>
    if value = "" then (a, none)
    else
      let a := a.cleanupLocked now
      (a, match a.sessions.lookup (tokenHash value) with
        | some session => if now < session.expiresAt then some session.profile else none
        | none => none)

/-- The critical section of `AdminAuth.Start`. -/
def start (a : AdminAuth) (state : String) (now : Int) : AdminAuth :=
  let a := a.cleanupLocked now
  { a with pending := a.pending.insert state (now + authRequestLifetime) }

/-- The first critical section of `AdminAuth.Callback`. -/
def consumeState (a : AdminAuth) (state : String) (now : Int) : AdminAuth × Option Int :=
  let a := a.cleanupLocked now
  match a.pending.lookup state with
  | none => (a, none)
  | some expiresAt => ({ a with pending := a.pending.erase state }, some expiresAt)

/-- The second critical section of `AdminAuth.Callback`. -/
def storeSession (a : AdminAuth) (token : String) (profile : GilIDProfile) (expiresAt : Int) :
    AdminAuth :=
  { a with sessions := a.sessions.insert (tokenHash token) ⟨profile, expiresAt⟩ }

/-- `AdminAuth.Logout`. -/
def logout (a : AdminAuth) (cookie : Option String) : AdminAuth :=
  match cookie with
  | none => a
  | some value => { a with sessions := a.sessions.erase (tokenHash value) }

end AdminAuth

/-! ### Admin requests under way -/

/-- `AdminAuth.Start` past its `Authenticate`, `AdminAuth.Callback` past its first
critical section. `now` is the reading that `Callback` took when it arrived. -/
inductive AdminThread
  | starting
  /-- `Callback` has returned `false`: the broker's is next. -/
  | forwarding (request : CallbackRequest)
  /-- In `exchangeAndLoadProfile`. -/
  | exchanging (request : CallbackRequest) (now : Int)
  /-- About to store the session. -/
  | storing (request : CallbackRequest) (now : Int) (token : String) (profile : GilIDProfile)
  /-- The broker's `Callback` has taken the request over. -/
  | forwarded
  | answered (reply : AdminReply)
  deriving DecidableEq, Repr

/-- `AdminAuth.Callback` after its first critical section. -/
def AdminThread.check (request : CallbackRequest) (expiresAt : Option Int) (now : Int) :
    AdminThread :=
  match expiresAt with
  | none => .forwarding request
  | some expiresAt =>
    if request.state = "" ∨ ¬ now < expiresAt then
      .answered (.httpError 400 "Invalid or expired admin login")
    else if request.error ≠ "" then
      .answered (.page "Login cancelled" "GILid denied the admin login request.")
    else if request.code = "" then .answered (.httpError 400 "Missing authorization code")
    else .exchanging request now

/-- `AdminAuth.Callback` after `exchangeAndLoadProfile`; `token` is what `randomID`
returns. -/
def AdminThread.exchanged (request : CallbackRequest) (now : Int) (profile : Option GilIDProfile)
    (token : Option RandomBytes) : AdminThread :=
  match profile with
  | none => .answered (.httpError 502 "GILid authentication failed")
  | some profile =>
    if !profile.isAdmin then
      .answered (.errorPage 403 "Admin access required"
        "This GILid account does not have administrator access.")
    else
      match token with
      | none => .answered (.httpError 500 "Could not create admin session")
      | some token => .storing request now (randomID token) profile

/-! ### The system -/

structure LoginSystem where
  auth : AuthSystem
  admin : AdminAuth
  requests : List AdminThread

inductive LoginAction
  /-- A step of the broker, except that its `Callback` is not called by clients. -/
  | client (action : AuthAction)
  /-- `AdminAuth.Start` arrives, and runs `Authenticate`. -/
  | adminStart (now : Int) (cookie : Option String)
  /-- The `i`-th request, an `AdminAuth.Start`, runs its critical section. -/
  | adminIssue (i : Nat) (now : Int) (state : Option RandomBytes)
  /-- `Server.oauthCallback` arrives, and runs the first critical section of
  `AdminAuth.Callback`. -/
  | oauthCallback (now : Int) (request : CallbackRequest)
  /-- The `i`-th request goes on to the broker's `Callback`. -/
  | forward (i : Nat)
  /-- `exchangeAndLoadProfile` returns to the `i`-th request. -/
  | adminExchanged (i : Nat) (token : Fetched String) (profile : Fetched GilIDProfile)
    (sessionToken : Option RandomBytes)
  /-- The `i`-th request runs the second critical section of `AdminAuth.Callback`. -/
  | adminStore (i : Nat)
  /-- `AdminAuth.Authenticate`, before an admin handler. -/
  | authenticate (now : Int) (cookie : Option String)
  /-- `AdminAuth.Logout`. -/
  | logout (cookie : Option String)

/-- A step and the instant at which it runs. -/
structure LoginEvent where
  instant : Int
  action : LoginAction

/-- What a step shows: an output of the broker, or one of the admin logins. -/
inductive LoginOutput
  | client (output : AuthOutput)
  /-- `AdminAuth.Start` sends the user to GILid with this state. -/
  | adminStarted (state : String)
  /-- An admin login with the state starts a code exchange. -/
  | adminExchange (state : String) (request : TokenRequest)
  /-- An admin login with the state draws the token of its session. -/
  | adminMinted (state cookie : String)
  /-- An admin login with the state stores a session for the cookie. -/
  | adminSession (state cookie : String) (profile : GilIDProfile) (instant : Int)
  deriving DecidableEq, Repr

namespace LoginSystem

/-- A coordinator that has just started. -/
def initial (b : AuthBroker) : LoginSystem := ⟨.initial b, ⟨∅, ∅⟩, []⟩

/-- The step of the broker that an event is, if it is one. -/
def authEvent? (sys : LoginSystem) (e : LoginEvent) : Option AuthEvent :=
  match e.action with
  | .client (.callback _) => none
  | .client action => some ⟨e.instant, action⟩
  | .forward i =>
    match sys.requests[i]? with
    | some (.forwarding request) => some ⟨e.instant, .callback request⟩
    | _ => none
  | _ => none

/-- The step of an admin login, and what it shows. -/
def execAdmin (sys : LoginSystem) (e : LoginEvent) : LoginSystem × Option LoginOutput :=
  match e.action with
  | .client _ => (sys, none)
  | .adminStart now cookie =>
    let (admin, profile) := sys.admin.authenticate cookie now
    ({ sys with
        admin := admin
        requests := sys.requests ++
          [if profile.isSome then .answered .redirect else .starting] }, none)
  | .adminIssue i now state =>
    match sys.requests[i]? with
    | some .starting =>
      match state with
      | none =>
        ({ sys with
            requests := sys.requests.set i
              (.answered (.httpError 500 "Could not start GILid sign-in")) }, none)
      | some state =>
        let state := randomID state
        ({ sys with
            admin := sys.admin.start state now
            requests := sys.requests.set i
              (.answered (.authorize (sys.auth.broker.authorize state))) },
          some (.adminStarted state))
    | _ => (sys, none)
  | .oauthCallback now request =>
    let (admin, expiresAt) := sys.admin.consumeState request.state now
    let thread := AdminThread.check request expiresAt now
    ({ sys with admin := admin, requests := sys.requests ++ [thread] },
      match thread with
      | .exchanging _ _ =>
        some (.adminExchange request.state (sys.auth.broker.tokenRequest request.code))
      | _ => none)
  | .forward i =>
    match sys.requests[i]? with
    | some (.forwarding _) => ({ sys with requests := sys.requests.set i .forwarded }, none)
    | _ => (sys, none)
  | .adminExchanged i token profile sessionToken =>
    match sys.requests[i]? with
    | some (.exchanging request now) =>
      let thread :=
        AdminThread.exchanged request now (exchangeAndLoadProfile token profile) sessionToken
      ({ sys with requests := sys.requests.set i thread },
        match thread with
        | .storing _ _ token _ => some (.adminMinted request.state token)
        | _ => none)
    | _ => (sys, none)
  | .adminStore i =>
    match sys.requests[i]? with
    | some (.storing request now token profile) =>
      let expiresAt := now + coordinatorSessionLifetime
      ({ sys with
          admin := sys.admin.storeSession token profile expiresAt
          requests := sys.requests.set i (.answered (.signedIn token expiresAt)) },
        some (.adminSession request.state token profile e.instant))
    | _ => (sys, none)
  | .authenticate now cookie =>
    ({ sys with admin := (sys.admin.authenticate cookie now).1 }, none)
  | .logout cookie => ({ sys with admin := sys.admin.logout cookie }, none)

/-- An event is a step of an admin login, or of the broker, or of both, when a request is
handed over. -/
def exec (sys : LoginSystem) (e : LoginEvent) : LoginSystem × Option LoginOutput :=
  match sys.authEvent? e with
  | none => sys.execAdmin e
  | some event =>
    ({ (sys.execAdmin e).1 with auth := sys.auth.step event },
      (sys.auth.output event).map .client)

def step (sys : LoginSystem) (e : LoginEvent) : LoginSystem := (sys.exec e).1

def output (sys : LoginSystem) (e : LoginEvent) : Option LoginOutput := (sys.exec e).2

/-- The system after a history. -/
abbrev run (sys : LoginSystem) (es : List LoginEvent) : LoginSystem := Trace.run step sys es

/-- What a history shows. -/
abbrev outputs (sys : LoginSystem) (es : List LoginEvent) : List LoginOutput :=
  Trace.outputs step output sys es

theorem run_concat (sys : LoginSystem) (es : List LoginEvent) (e : LoginEvent) :
    sys.run (es ++ [e]) = (sys.run es).step e := Trace.run_concat ..

theorem outputs_concat (sys : LoginSystem) (es : List LoginEvent) (e : LoginEvent) :
    sys.outputs (es ++ [e]) = sys.outputs es ++ ((sys.run es).output e).toList :=
  Trace.outputs_concat ..

end LoginSystem

/-! ### What a history leaves open -/

/-- The ids that `randomID` returns to the step. -/
def LoginAction.drawn : LoginAction → List String
  | .client action => action.drawn
  | .adminIssue _ _ state => state.toList.map randomID
  | .adminExchanged _ _ _ token => token.toList.map randomID
  | _ => []

/-- The ids drawn along a history. -/
def loginIDs (es : List LoginEvent) : List String := es.flatMap fun e => e.action.drawn

/-- `randomID` never returns the same id twice, to whatever login. -/
def LoginIDsFresh (es : List LoginEvent) : Prop := (loginIDs es).Nodup

instance (es : List LoginEvent) : Decidable (LoginIDsFresh es) :=
  inferInstanceAs (Decidable (loginIDs es).Nodup)

theorem loginIDs_concat (es : List LoginEvent) (e : LoginEvent) :
    loginIDs (es ++ [e]) = loginIDs es ++ e.action.drawn := by
  simp [loginIDs]

theorem LoginIDsFresh.append_left {es es' : List LoginEvent} (h : LoginIDsFresh (es ++ es')) :
    LoginIDsFresh es := by
  rw [LoginIDsFresh, loginIDs, List.flatMap_append] at h
  exact (List.nodup_append.mp h).1

/-- The reading of the clock that the step took before it waited for a mutex. -/
def LoginAction.reading : LoginAction → Option Int
  | .client action => action.reading
  | .adminStart now _ => some now
  | .adminIssue _ now _ => some now
  | .oauthCallback now _ => some now
  | .authenticate now _ => some now
  | _ => none

/-- The clock of a history. -/
abbrev LoginClock (es : List LoginEvent) : Prop :=
  Trace.Timed LoginEvent.instant (fun e => e.action.reading) es

end GilStreaming.Coordinator
