import GilStreaming.Coordinator.World
import GilStreaming.Lib.GoText
import GilStreaming.Lib.Sha256

/-!
# GilStreaming.Coordinator.Auth

The login broker of `coordinator/auth.go`, one function for every critical section.

`Start`, `Status`, `DevLogin`, `ProfileForOwner` and `AuthenticateToken` lock the
broker's mutex once. `Callback` locks it twice, around the code exchange with GILid, and
a third time in `failPending` when it gives up; its sections are `consumeState`,
`storeSession` and `failPending`, and what it does between them is in
`GilStreaming.Coordinator.AuthSystem`.

A section is given the reading of the clock it uses, wherever the source takes it, the
result of `randomID` as the 24 bytes that `rand.Read` fills, and what `decodeJSON` makes
of the body. `AuthReply` is what is written to the response. A token is a Go string read
as UTF-8, as every string here.
-/

namespace GilStreaming.Coordinator

/-! ### Data -/

/-- `gilIDProfile`. -/
structure GilIDProfile where
  id : String
  email : String
  username : String
  firstName : String
  lastName : String
  avatarURL : String
  isAdmin : Bool
  deriving DecidableEq, Repr

/-- `gilIDProfile{}`. -/
def GilIDProfile.zero : GilIDProfile := ⟨"", "", "", "", "", "", false⟩

/-- `pendingAuth`. -/
structure PendingAuth where
  requestID : String
  state : String
  deviceID : String
  deviceName : String
  expiresAt : Int
  accessToken : String
  profile : GilIDProfile
  error : String
  deriving DecidableEq, Repr

/-- `coordinatorSession`. -/
structure CoordinatorSession where
  owner : String
  profile : GilIDProfile
  expiresAt : Int
  deriving DecidableEq, Repr

/-- The order of one `range b.sessions`. -/
abbrev SessionOrder := RangeOrder (Σ _ : String, CoordinatorSession)

/-- The `url.URL` a login is sent to: `authorizeURL` with these parameters set. -/
structure AuthorizeURL where
  authorizeURL : String
  clientID : String
  redirectURI : String
  responseType : String
  scope : String
  state : String
  deriving DecidableEq, Repr

/-- What is written to the response of a login request. -/
inductive AuthReply
  /-- `writeError`. -/
  | error (status : Nat) (code message : String)
  /-- 201 with the three fields of `Start`. -/
  | started (requestID : String) (authorizeURL : AuthorizeURL) (expiresAt : Int)
  /-- 200 with `"state": "pending"`. -/
  | pending (expiresAt : Int)
  /-- 200 or 201 with `"state": "authenticated"`. -/
  | authenticated (status : Nat) (accessToken : String) (profile : GilIDProfile)
  /-- `http.Error`. -/
  | httpError (status : Nat) (message : String)
  /-- `writeCallbackPage`. -/
  | page (title message : String)
  deriving DecidableEq, Repr

/-- `AuthBroker`. -/
structure AuthBroker where
  clientID : String
  clientSecret : String
  redirectURI : String
  authorizeURL : String
  tokenURL : String
  profileURL : String
  devAuthEnabled : Bool
  pending : GoMap String PendingAuth
  stateToRequest : GoMap String String
  sessions : GoMap String CoordinatorSession

/-- `time.Hour`. -/
def hour : Int := 60 * minute

def authRequestLifetime : Int := 10 * minute

def coordinatorSessionLifetime : Int := 12 * hour

/-- What `rand.Read` fills. -/
abbrev RandomBytes := Vector UInt8 24

/-- `randomID`. -/
def randomID (value : RandomBytes) : String := hexEncode value.toList

theorem randomID_ne_empty (value : RandomBytes) : randomID value ≠ "" :=
  hexEncode_ne_empty fun h => by
    have := congrArg List.length h
    simp at this

/-- `hash := sha256.Sum256([]byte(token)); hex.EncodeToString(hash[:])`. -/
def tokenHash (token : String) : String := hexEncode (sha256 token.toUTF8.toList)

/-! ### GILid -/

/-- What a request to GILid comes back with: an error of the HTTP client, or a status
and what the body decodes to, if it does. -/
inductive Fetched (α : Type)
  | failed
  | response (status : Nat) (body : Option α)

/-- The request that exchanges a code: its endpoint and the payload. -/
structure TokenRequest where
  tokenURL : String
  grantType : String
  code : String
  clientID : String
  clientSecret : String
  redirectURI : String
  deriving DecidableEq, Repr

/-- The first request of `exchangeAndLoadProfile`. -/
def AuthBroker.tokenRequest (b : AuthBroker) (code : String) : TokenRequest where
  tokenURL := b.tokenURL
  grantType := "authorization_code"
  code := code
  clientID := b.clientID
  clientSecret := b.clientSecret
  redirectURI := b.redirectURI

/-- `exchangeAndLoadProfile`: `token` and `profile` are what its two requests come back
with. Its callers do not look at which error it returns. -/
def exchangeAndLoadProfile (token : Fetched String) (profile : Fetched GilIDProfile) :
    Option GilIDProfile :=
  match token with
  | .response 200 (some accessToken) =>
    if accessToken = "" then none
    else
      match profile with
      | .response 200 (some profile) => if profile.id = "" then none else some profile
      | _ => none
  | _ => none

/-- A profile that was loaded has an id. -/
theorem exchangeAndLoadProfile_id {token : Fetched String} {answer : Fetched GilIDProfile}
    {profile : GilIDProfile} (h : exchangeAndLoadProfile token answer = some profile) :
    profile.id ≠ "" := by
  unfold exchangeAndLoadProfile at h
  split at h
  · split at h
    · exact absurd h (by simp)
    · split at h
      · split at h
        · exact absurd h (by simp)
        · next hid => exact Option.some.inj h ▸ hid
      · exact absurd h (by simp)
  · exact absurd h (by simp)

/-! ### The critical sections -/

namespace AuthBroker

/-- `AuthBroker.cleanupLocked`: the expired logins go, with the entries of their states,
and the expired sessions. -/
def cleanupLocked (b : AuthBroker) (now : Int) : AuthBroker :=
  { b with
    pending := b.pending.filter fun _ pending => decide (now < pending.expiresAt)
    stateToRequest := b.stateToRequest.filter fun state _ =>
      b.pending.entries.all fun e => decide (now < e.2.expiresAt) || e.2.state != state
    sessions := b.sessions.filter fun _ session => decide (now < session.expiresAt) }

/-- The page that `Start` and `AdminAuth.Start` send a login to. -/
def authorize (b : AuthBroker) (state : String) : AuthorizeURL where
  authorizeURL := b.authorizeURL
  clientID := b.clientID
  redirectURI := b.redirectURI
  responseType := "code"
  scope := "profile email"
  state := state

/-- `AuthBroker.Start`: `body` has the fields `deviceId` and `deviceName`. -/
def start (b : AuthBroker) (body : Option (String × String))
    (requestID state : Option RandomBytes) (now : Int) : AuthBroker × AuthReply :=
  match body with
  | none => (b, .error 400 "INVALID_REQUEST" "deviceId is required")
  | some (deviceID, deviceName) =>
    if trimSpace deviceID.toList = [] then
      (b, .error 400 "INVALID_REQUEST" "deviceId is required")
    else
      match requestID, state with
      | some requestID, some state =>
        let requestID := randomID requestID
        let state := randomID state
        let pending : PendingAuth :=
          ⟨requestID, state, deviceID, deviceName, now + authRequestLifetime, "", .zero, ""⟩
        let b := b.cleanupLocked now
        ({ b with
            pending := b.pending.insert requestID pending
            stateToRequest := b.stateToRequest.insert state requestID },
          .started requestID (b.authorize state) pending.expiresAt)
      | _, _ => (b, .error 500 "INTERNAL_ERROR" "could not start login")

/-- `AuthBroker.Status`. -/
def status (b : AuthBroker) (requestID : String) (now : Int) : AuthBroker × AuthReply :=
  let b := b.cleanupLocked now
  match b.pending.lookup requestID with
  | none => (b, .error 404 "LOGIN_NOT_FOUND" "login request is missing or expired")
  | some pending =>
    if pending.error ≠ "" then
      ({ b with pending := b.pending.erase pending.requestID },
        .error 502 "LOGIN_FAILED" pending.error)
    else if pending.accessToken = "" then (b, .pending pending.expiresAt)
    else
      ({ b with
          pending := b.pending.erase pending.requestID
          stateToRequest := b.stateToRequest.erase pending.state },
        .authenticated 200 pending.accessToken pending.profile)

/-- `requestID := b.stateToRequest[state]`. -/
def requestOf (b : AuthBroker) (state : String) : String :=
  (b.stateToRequest.lookup state).getD ""

/-- The first critical section of `AuthBroker.Callback`: the login found, and the state
consumed if there is one. -/
def consumeState (b : AuthBroker) (state : String) : AuthBroker × Option PendingAuth :=
  match b.pending.lookup (b.requestOf state) with
  | none => (b, none)
  | some pending => ({ b with stateToRequest := b.stateToRequest.erase state }, some pending)

/-- `AuthBroker.failPending`. -/
def failPending (b : AuthBroker) (requestID message : String) : AuthBroker :=
  match b.pending.lookup requestID with
  | none => b
  | some pending =>
    { b with pending := b.pending.insert requestID { pending with error := message } }

/-- The second critical section of `AuthBroker.Callback`, which stores the session of a
login that is still there. -/
def storeSession (b : AuthBroker) (requestID token : String) (profile : GilIDProfile)
    (now : Int) : AuthBroker :=
  match b.pending.lookup requestID with
  | none => b
  | some current =>
    { b with
      pending := b.pending.insert requestID
        { current with accessToken := token, profile := profile }
      sessions := b.sessions.insert (tokenHash token)
        ⟨profile.id, profile, now + coordinatorSessionLifetime⟩ }

/-- The profile that `DevLogin` makes up. -/
def devProfile (owner : String) : GilIDProfile := { GilIDProfile.zero with
  id := owner
  username := "Developer" }

/-- `AuthBroker.DevLogin`: `body` has the field `deviceId`. -/
def devLogin (b : AuthBroker) (body : Option String) (token : Option RandomBytes) (now : Int) :
    AuthBroker × AuthReply :=
  if !b.devAuthEnabled then (b, .error 404 "NOT_FOUND" "development login is disabled")
  else
    match body with
    | none => (b, .error 400 "INVALID_REQUEST" "deviceId is required")
    | some deviceID =>
      if deviceID = "" then (b, .error 400 "INVALID_REQUEST" "deviceId is required")
      else
        match token with
        | none => (b, .error 500 "INTERNAL_ERROR" "could not create development session")
        | some token =>
          let token := randomID token
          let owner := "dev:" ++ deviceID
          ({ b with
              sessions := b.sessions.insert (tokenHash token)
                ⟨owner, devProfile owner, now + coordinatorSessionLifetime⟩ },
            .authenticated 201 token (devProfile owner))

/-- `AuthBroker.ProfileForOwner`: the profile of the first session of the owner that the
loop meets. -/
def profileForOwner (b : AuthBroker) (owner : String) (order : SessionOrder) (now : Int) :
    AuthBroker × Option GilIDProfile :=
  let b := b.cleanupLocked now
  (b, ((b.sessions.values order).find? fun session =>
    session.owner == owner && decide (now < session.expiresAt)).map CoordinatorSession.profile)

/-- `AuthBroker.AuthenticateToken`: the owner, or `""`. -/
def authenticateToken (b : AuthBroker) (token : String) (now : Int) : AuthBroker × String :=
  let b := b.cleanupLocked now
  (b, match b.sessions.lookup (tokenHash token) with
    | some session => if now < session.expiresAt then session.owner else ""
    | none => "")

end AuthBroker

end GilStreaming.Coordinator
