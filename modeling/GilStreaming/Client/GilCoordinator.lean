import GilStreaming.Client.RelayBridge

/-!
# GilStreaming.Client.GilCoordinator

The client's side of the coordinator protocol, `app/backend/gilcoordinator.cpp`.

The object lives on one thread, so every slot, every handler of a reply and every
invocation from the UI runs to its end before the next one: each is a function on the
state, and `GilCoordinator.step` takes whichever comes. A request that has been sent is an
entry of `replies`, which stays there, so that its index is its name; a route probe is an
entry of `probes` in the same way.

What the event shows to the outside is in `shown`: the signals, and the calls of `fail`.
Texts are those of the source, untranslated. Left out are the base URLs but for their
hosts, and `openAccountSettings`, which only opens a page.
-/

namespace GilStreaming.Client

/-! ### Data -/

/-- A request to the coordinator, by the function that sends it: its path and payload. -/
inductive ClientCall
  /-- `POST /v1/auth/start`. -/
  | startLogin (deviceId deviceName : String)
  /-- `POST /v1/auth/dev`. -/
  | devLogin (deviceId : String)
  /-- `GET /v1/auth/status/…`. -/
  | pollLogin (requestId : String)
  /-- `POST /v1/leases`. -/
  | requestVm (deviceId deviceName : String)
  /-- `POST /v1/leases/…/heartbeat`. -/
  | heartbeat (leaseId : String)
  /-- `POST /v1/leases/…/pair`, with the PIN and a device name. -/
  | approvePairing (leaseId pin : String)
  /-- `DELETE /v1/leases/…`. -/
  | releaseLease (leaseId : String)
  deriving DecidableEq, Repr

/-- Where a `QNetworkReply` stands. -/
inductive ReplyState
  | waiting
  /-- Its handler has run. -/
  | finished
  /-- Disconnected and aborted by `setUseLanCoordinator`. -/
  | aborted
  deriving DecidableEq, Repr

/-- A `QNetworkReply`, with the request it is for. -/
structure PendingReply where
  call : ClientCall
  /-- The bearer token. -/
  authorization : Option String
  /-- The header `X-GilStreaming-LAN`. -/
  lan : Bool
  state : ReplyState
  deriving DecidableEq, Repr

/-- `QNetworkReply::error()`, as far as the source tells errors apart. -/
inductive NetworkError
  | noError
  | timeoutError
  | otherError
  deriving DecidableEq, Repr

/-- What a `QNetworkReply` finishes with. -/
structure NetworkReply where
  error : NetworkError
  /-- `HttpStatusCodeAttribute`, 0 when there is none. -/
  statusCode : Int
  /-- `responseObject`. -/
  body : JsonObject

/-- A route probe, with what its `completeAssignment` captures. -/
structure RouteProbe where
  hostName : String
  relayUrl : String
  relayBasePort : Int
  address : String
  port : Int
  leaseId : String
  finished : Bool
  deriving DecidableEq, Repr

/-- What an event shows to the outside. -/
inductive Shown
  | statusTextChanged
  | profileNameChanged
  | profileEmailChanged
  | profileAvatarUrlChanged
  | busyChanged
  | authenticatedChanged
  | useLanCoordinatorChanged
  | coordinatorUrlChanged
  | assignedHost (address : String) (port : Int)
  | pairingApprovalFailed (message : String)
  | assignmentRevoked
  /-- Not a signal: `fail` has put this message up. -/
  | failed (message : String)
  deriving DecidableEq, Repr

/-- The `coordinator` group of the `QSettings`; a missing value is empty. -/
structure CoordinatorSettings where
  accessToken : String
  profileName : String
  profileEmail : String
  profileAvatarUrl : String
  useLanCoordinator : Bool
  deriving DecidableEq, Repr

/-- What does not change while the client runs. -/
structure ClientConfig where
  deviceId : String
  /-- `QSysInfo::machineHostName()`. -/
  machineHostName : String
  /-- `m_PublicBaseUrl.host()`. -/
  publicHost : String
  /-- `m_LanBaseUrl.host()`. -/
  lanHost : String
  developmentBuild : Bool
  deriving DecidableEq, Repr

/-- `GilCoordinator`. -/
structure GilCoordinator where
  config : ClientConfig
  settings : CoordinatorSettings
  relayBridge : RelayBridge
  /-- `m_LoginPollTimer.isActive()`. -/
  loginPollTimer : Bool
  /-- `m_HeartbeatTimer.isActive()`. -/
  heartbeatTimer : Bool
  loginRequestId : String
  accessToken : String
  leaseId : String
  statusText : String
  profileName : String
  profileEmail : String
  profileAvatarUrl : String
  busy : Bool
  quitting : Bool
  restoreAttempted : Bool
  useLanCoordinator : Bool
  replies : List PendingReply
  probes : List RouteProbe
  shown : List Shown
  deriving DecidableEq, Repr

namespace GilCoordinator

/-! ### Helpers -/

def emit (c : GilCoordinator) (s : Shown) : GilCoordinator := { c with shown := c.shown ++ [s] }

def setBusy (c : GilCoordinator) (busy : Bool) : GilCoordinator :=
  if c.busy ≠ busy then { c with busy := busy }.emit .busyChanged else c

def setStatus (c : GilCoordinator) (status : String) : GilCoordinator :=
  if c.statusText ≠ status then { c with statusText := status }.emit .statusTextChanged else c

def fail (c : GilCoordinator) (message : String) : GilCoordinator :=
  ((c.setBusy false).setStatus message).emit (.failed message)

/-- `m_Network` sends a request made by `requestFor`. -/
def send (c : GilCoordinator) (call : ClientCall) (authenticatedRequest : Bool) : GilCoordinator :=
  { c with replies := c.replies ++
    [⟨call, if authenticatedRequest then some c.accessToken else none, c.useLanCoordinator,
      .waiting⟩] }

def saveSession (c : GilCoordinator) : GilCoordinator :=
  { c with settings := { c.settings with
    accessToken := c.accessToken
    profileName := c.profileName
    profileEmail := c.profileEmail
    profileAvatarUrl := c.profileAvatarUrl } }

def clearSession (c : GilCoordinator) : GilCoordinator :=
  let wasAuthenticated : Bool := c.accessToken ≠ ""
  let c := { c with
    accessToken := ""
    profileName := ""
    profileEmail := ""
    profileAvatarUrl := ""
    settings := { c.settings with
      accessToken := ""
      profileName := ""
      profileEmail := ""
      profileAvatarUrl := "" } }
  let c := if wasAuthenticated then c.emit .authenticatedChanged else c
  ((c.emit .profileNameChanged).emit .profileEmailChanged).emit .profileAvatarUrlChanged

/-! ### Invocations -/

/-- The constructor. -/
def create (config : ClientConfig) (settings : CoordinatorSettings) : GilCoordinator where
  config := config
  settings := settings
  relayBridge := .stopped
  loginPollTimer := false
  heartbeatTimer := false
  loginRequestId := ""
  accessToken := settings.accessToken
  leaseId := ""
  statusText :=
    if settings.accessToken = "" then "Sign in to request a gaming VM."
    else "Restoring your GILid session…"
  profileName := settings.profileName
  profileEmail := settings.profileEmail
  profileAvatarUrl := settings.profileAvatarUrl
  busy := false
  quitting := false
  restoreAttempted := false
  useLanCoordinator := settings.useLanCoordinator
  replies := []
  probes := []
  shown := []

def startLogin (c : GilCoordinator) : GilCoordinator :=
  if c.busy then c
  else
    ((c.setBusy true).setStatus "Starting GILid sign-in…").send
      (.startLogin c.config.deviceId c.config.machineHostName) false

def skipLoginForDevelopment (c : GilCoordinator) : GilCoordinator :=
  if !c.config.developmentBuild || c.busy then c
  else
    ((c.setBusy true).setStatus "Creating a development session…").send
      (.devLogin c.config.deviceId) false

def requestVm (c : GilCoordinator) : GilCoordinator :=
  if c.accessToken = "" then c.fail "Sign in before requesting a VM."
  else
    ((c.setBusy true).setStatus "Requesting an available gaming VM…").send
      (.requestVm c.config.deviceId c.config.machineHostName) true

def resumeSavedSession (c : GilCoordinator) : GilCoordinator :=
  if c.restoreAttempted || c.accessToken = "" then c
  else { c with restoreAttempted := true }.requestVm

def approvePairing (c : GilCoordinator) (pin : String) : GilCoordinator :=
  if c.leaseId = "" ∨ c.accessToken = "" then
    c.emit (.pairingApprovalFailed "The VM reservation is not active.")
  else
    (c.setStatus "Pairing this device with the assigned VM…").send
      (.approvePairing c.leaseId pin) true

def releaseLease (c : GilCoordinator) : GilCoordinator :=
  if c.leaseId = "" ∨ c.accessToken = "" then c
  else
    let c := { c.send (.releaseLease c.leaseId) true with
      leaseId := ""
      heartbeatTimer := false
      relayBridge := .stopped }
    if !c.quitting then c.emit .assignmentRevoked else c

def logout (c : GilCoordinator) : GilCoordinator :=
  let c := { c with
    loginPollTimer := false
    loginRequestId := "" }
  -- the release is sent with the token that is about to be cleared
  let c := if c.leaseId ≠ "" ∧ c.accessToken ≠ "" then c.send (.releaseLease c.leaseId) true else c
  let c := { c with
    leaseId := ""
    heartbeatTimer := false
    relayBridge := .stopped }
  ((c.clearSession.setBusy false).setStatus "Sign in to request a gaming VM.").emit
    .assignmentRevoked

/-- Every reply that has not finished is disconnected and aborted. -/
def abortReplies (c : GilCoordinator) : GilCoordinator :=
  { c with replies := c.replies.map fun reply =>
    if reply.state = .waiting then { reply with state := .aborted } else reply }

def setUseLanCoordinator (c : GilCoordinator) (enabled : Bool) : GilCoordinator :=
  if c.useLanCoordinator = enabled then c
  else
    let c := { c with
      loginPollTimer := false
      loginRequestId := ""
      heartbeatTimer := false
      relayBridge := .stopped }
    let c := { c.abortReplies with
      leaseId := ""
      useLanCoordinator := enabled
      restoreAttempted := false
      settings := { c.settings with useLanCoordinator := enabled } }
    let host := if enabled then c.config.lanHost else c.config.publicHost
    let c := (c.setBusy false).setStatus
      (if c.accessToken = "" then "Sign in to request a gaming VM."
      else s!"Reconnecting through {host}…")
    ((c.emit .useLanCoordinatorChanged).emit .coordinatorUrlChanged).emit .assignmentRevoked

/-- The handler of `aboutToQuit`. -/
def aboutToQuit (c : GilCoordinator) : GilCoordinator := { c with quitting := true }.releaseLease

/-! ### Timers -/

def pollLogin (c : GilCoordinator) : GilCoordinator :=
  if c.loginRequestId = "" then { c with loginPollTimer := false }
  else c.send (.pollLogin c.loginRequestId) false

def sendHeartbeat (c : GilCoordinator) : GilCoordinator :=
  if c.leaseId = "" ∨ c.accessToken = "" then c
  else c.send (.heartbeat c.leaseId) true

/-! ### Replies -/

/-- The reply in `startLogin`. `opened` says that `authorizeUrl` is valid, and that
`openUrl` has opened it. -/
def loginStarted (c : GilCoordinator) (reply : NetworkReply) (opened : Bool) : GilCoordinator :=
  if reply.error ≠ .noError then
    c.fail (reply.body.stringOr "message" "Could not start GILid sign-in.")
  else
    let c := { c with loginRequestId := reply.body.string "requestId" }
    if c.loginRequestId = "" ∨ !opened then c.fail "Could not open the GILid sign-in page."
    else
      { c.setStatus "Finish signing in with GILid in your browser…" with loginPollTimer := true }

/-- The name that `handleAuthenticationResponse` takes from the profile. -/
def displayName (profile : JsonObject) : String :=
  let name := trimmed (profile.string "first_name" ++ " " ++ profile.string "last_name")
  let name := if name = "" then profile.string "username" else name
  if name = "" then profile.string "email" else name

def handleAuthenticationResponse (c : GilCoordinator) (reply : NetworkReply) : GilCoordinator :=
  if reply.error ≠ .noError then c.fail (reply.body.stringOr "message" "Authentication failed.")
  else
    let profile := reply.body.object "profile"
    let avatarUrl := profile.string "avatar_url"
    let c := { c with
      accessToken := reply.body.string "accessToken"
      profileEmail := profile.string "email"
      profileAvatarUrl := if avatarUrl = "" then profile.string "picture" else avatarUrl
      profileName := displayName profile }
    if c.accessToken = "" then c.fail "The coordinator returned an invalid login session."
    else
      ((((c.saveSession.emit .authenticatedChanged).emit .profileNameChanged).emit
        .profileEmailChanged).emit .profileAvatarUrlChanged).requestVm

/-- The reply in `pollLogin`. -/
def loginPolled (c : GilCoordinator) (reply : NetworkReply) : GilCoordinator :=
  if reply.error ≠ .noError then
    { c with loginPollTimer := false }.fail (reply.body.stringOr "message" "GILid sign-in failed.")
  else if reply.body.string "state" = "authenticated" then
    { c with loginPollTimer := false }.handleAuthenticationResponse reply
  else c

/-- `completeAssignment` of `requestVm`. -/
def completeAssignment (c : GilCoordinator) (p : RouteProbe) (useRelay : Bool) (env : BridgeEnv) :
    GilCoordinator :=
  if c.leaseId ≠ p.leaseId ∨ c.accessToken = "" then c
  else if useRelay then
    let c := c.setStatus "Preparing a fast route through the relay…"
    match RelayBridge.start env p.relayUrl c.accessToken p.leaseId p.relayBasePort with
    | (bridge, some relayError) => { c with relayBridge := bridge }.fail relayError
    | (bridge, none) => assigned { c with relayBridge := bridge } "127.0.0.1" p.relayBasePort
  else assigned { c with relayBridge := .stopped } p.address p.port
where
  /-- The rest of it, with the address to connect to. -/
  assigned (c : GilCoordinator) (connectionAddress : String) (connectionPort : Int) :
      GilCoordinator :=
    let c := (c.setBusy false).setStatus s!"Connecting securely to {p.hostName}…"
    { c with heartbeatTimer := true }.emit (.assignedHost connectionAddress connectionPort)

/-- The reply in `requestVm`. -/
def vmRequested (c : GilCoordinator) (reply : NetworkReply) (env : BridgeEnv) : GilCoordinator :=
  if reply.error ≠ .noError then
    if reply.statusCode = 401 then
      ({ c with relayBridge := .stopped }.clearSession.fail
        "Your saved GILid session expired. Please sign in again.").emit .assignmentRevoked
    else if reply.error = .timeoutError then
      c.fail "The coordinator took too long to respond. Try again."
    else if reply.body.string "code" = "POOL_EXHAUSTED" then
      c.fail "All gaming VMs are currently in use. Try again shortly."
    else c.fail (reply.body.stringOr "message" "Could not reserve a gaming VM.")
  else
    let host := reply.body.object "host"
    let relay := reply.body.object "relay"
    let address := host.string "address"
    let port := host.int "port"
    let c := { c with leaseId := reply.body.string "leaseId" }
    if c.leaseId = "" ∨ address = "" ∨ port < 1 ∨ port > 65535 then
      c.fail "The coordinator returned an invalid VM assignment."
    else
      let p : RouteProbe := ⟨host.stringOr "name" address, relay.string "url",
        relay.int "basePort", address, port, c.leaseId, false⟩
      if c.useLanCoordinator ∨ relay.isEmpty then c.completeAssignment p false env
      else
        let c := c.setStatus "Checking the fastest route to your VM…"
        { c with probes := c.probes ++ [p] }

/-- The reply in `sendHeartbeat`. -/
def heartbeatSent (c : GilCoordinator) (reply : NetworkReply) : GilCoordinator :=
  if reply.error ≠ .noError then
    let c := { c with heartbeatTimer := false }
    let c :=
      if reply.statusCode = 401 then
        c.clearSession.setStatus "Your saved GILid session expired. Please sign in again."
      else c.setStatus "The VM reservation was lost. Return to login and try again."
    { c with
      leaseId := ""
      relayBridge := .stopped }.emit .assignmentRevoked
  else c

/-- The reply in `approvePairing`. -/
def pairingApproved (c : GilCoordinator) (reply : NetworkReply) : GilCoordinator :=
  if reply.error ≠ .noError then
    let message := reply.body.stringOr "message"
      "The coordinator could not approve Sunshine pairing."
    (c.setStatus message).emit (.pairingApprovalFailed message)
  else c.setStatus "Pairing approved. Loading your games…"

/-! ### Events -/

end GilCoordinator

/-- What the operating system and the browser decide when a reply comes. -/
structure ReplyEnv where
  opened : Bool
  bridge : BridgeEnv
  deriving DecidableEq, Repr

inductive ClientEvent
  | startLogin
  | skipLoginForDevelopment
  | requestVm
  | resumeSavedSession
  | approvePairing (pin : String)
  | releaseLease
  | logout
  | setUseLanCoordinator (enabled : Bool)
  | aboutToQuit
  /-- `m_LoginPollTimer` fires. -/
  | loginPollTimeout
  /-- `m_HeartbeatTimer` fires. -/
  | heartbeatTimeout
  /-- The `i`-th reply finishes. -/
  | finished (i : Nat) (reply : NetworkReply) (env : ReplyEnv)
  /-- The `i`-th probe connects, or fails or times out. -/
  | probed (i : Nat) (useRelay : Bool) (env : BridgeEnv)

namespace GilCoordinator

/-- The handler of the reply to a call. -/
def handleReply (c : GilCoordinator) (reply : NetworkReply) (env : ReplyEnv) :
    ClientCall → GilCoordinator
  | .startLogin _ _ => c.loginStarted reply env.opened
  | .devLogin _ => c.handleAuthenticationResponse reply
  | .pollLogin _ => c.loginPolled reply
  | .requestVm _ _ => c.vmRequested reply env.bridge
  | .heartbeat _ => c.heartbeatSent reply
  | .approvePairing _ _ => c.pairingApproved reply
  | .releaseLease _ => c

/-- The `i`-th reply has finished. -/
def finish (c : GilCoordinator) (i : Nat) (p : PendingReply) : GilCoordinator :=
  { c with replies := c.replies.set i { p with state := .finished } }

/-- The event is handled. -/
def handle (c : GilCoordinator) : ClientEvent → GilCoordinator
  | .startLogin => c.startLogin
  | .skipLoginForDevelopment => c.skipLoginForDevelopment
  | .requestVm => c.requestVm
  | .resumeSavedSession => c.resumeSavedSession
  | .approvePairing pin => c.approvePairing pin
  | .releaseLease => c.releaseLease
  | .logout => c.logout
  | .setUseLanCoordinator enabled => c.setUseLanCoordinator enabled
  | .aboutToQuit => c.aboutToQuit
  | .loginPollTimeout => if c.loginPollTimer then c.pollLogin else c
  | .heartbeatTimeout => if c.heartbeatTimer then c.sendHeartbeat else c
  | .finished i reply env =>
    match c.replies[i]? with
    | some p => if p.state = .waiting then (c.finish i p).handleReply reply env p.call else c
    | none => c
  | .probed i useRelay env =>
    match c.probes[i]? with
    | some p =>
      if p.finished then c
      else
        { c with probes := c.probes.set i { p with finished := true } }.completeAssignment p
          useRelay env
    | none => c

/-- A step of the client. -/
def step (c : GilCoordinator) (e : ClientEvent) : GilCoordinator :=
  { c with shown := [] }.handle e

end GilCoordinator

end GilStreaming.Client
