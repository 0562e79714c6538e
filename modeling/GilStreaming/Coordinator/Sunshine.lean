import GilStreaming.Coordinator.Auth

/-!
# GilStreaming.Coordinator.Sunshine

The conversation of `coordinator/sunshine.go` with the Sunshine host of a VM.

A `Pairing` is a call of `SunshinePairer.Pair` under way: `stage` says which request it
waits for, and `Pairing.step` takes the reply to that request, as far as it can be read,
and goes on to the next request. The clock is read where the source reads it, and the
reading is the same as the instant at which the next request is sent.

Of a reply, the status and the decoded part of the body are kept. That `url.Parse` accepts
the URL and that the credentials are configured is an input.
-/

namespace GilStreaming.Coordinator

/-! ### Data -/

/-- `sunshineClient`. -/
structure SunshineClient where
  name : String
  uuid : String
  deriving DecidableEq, Repr

/-- A request to the Sunshine API. -/
inductive SunshineRequest
  /-- `GET /api/clients/list`. -/
  | listClients
  /-- `GET /api/csrf-token`. -/
  | csrfToken
  /-- `POST /api/clients/unpair`, with the header `X-CSRF-Token` unless it is empty. -/
  | unpair (uuid csrfToken : String)
  /-- `GET /api/pin`. -/
  | pendingPairings
  /-- `POST /api/pin`, with a `pairing_id` unless it is empty. -/
  | submitPIN (pin name pairingID : String)
  /-- `POST /api/apps/close`. -/
  | closeApp
  deriving DecidableEq, Repr

/-- Why a call of the `SunshinePairer` fails. -/
inductive SunshineError
  /-- `errSunshineCredentials`. -/
  | credentials
  /-- `"invalid Sunshine API URL %q"` -/
  | invalidURL
  /-- The HTTP client's error, after one of `"list Sunshine clients: "`,
  `"get Sunshine CSRF token: "`, `"unpair stale Sunshine client %s: "` and
  `"contact Sunshine: "`. -/
  | transport
  /-- `"Sunshine rejected its Web UI credentials"` -/
  | rejected
  /-- `"… returned HTTP %d"`. -/
  | status (code : Nat)
  /-- `"decode Sunshine clients: %w"`, `"decode Sunshine CSRF token: %w"` or
  `"decode Sunshine pairing response: %w"`. -/
  | decode
  /-- `"Sunshine returned an empty CSRF token"` -/
  | emptyToken
  /-- `"Sunshine did not remove stale client %s"` -/
  | notRemoved (uuid : String)
  /-- `"Sunshine reported multiple pending pairing requests"` -/
  | multiplePairings
  /-- `errNoPendingPairing`. -/
  | noPendingPairing
  /-- `ctx.Err()`. -/
  | cancelled
  /-- `"Sunshine did not close the running application"` -/
  | notClosed
  deriving DecidableEq, Repr

/-- The status is one of the 2xx. -/
def isSuccess (status : Nat) : Bool := 200 ≤ status && status < 300

/-- 404 and 405: the endpoint is not there. -/
def isMissing (status : Nat) : Bool := status == 404 || status == 405

/-! ### `SunshinePairer.Pair` -/

/-- What a call of `Pair` waits for. -/
inductive PairStage
  | listing
  /-- The CSRF token, before the stale clients are unpaired. -/
  | fetchingToken (stale : List SunshineClient)
  /-- The reply of the unpairing of `client`; the rest comes after it. -/
  | unpairing (csrfToken : String) (client : SunshineClient) (rest : List SunshineClient)
  /-- The pending pairings, in a `tryPair` of the loop that ends at the deadline. -/
  | asking (deadline : Int)
  | submitting (deadline : Int)
  /-- The 250 milliseconds before the next `tryPair`. -/
  | waiting (deadline : Int)
  | done (err : Option SunshineError)
  deriving DecidableEq, Repr

structure Pairing where
  pin : String
  deviceName : String
  legacyDeviceNames : List String
  stage : PairStage
  deriving DecidableEq, Repr

/-- What a call of `Pair` waits for comes. -/
inductive PairEvent
  | listed (reply : Fetched (List SunshineClient))
  | token (reply : Fetched String)
  /-- The body says whether its status is `true` or `"true"`. -/
  | unpaired (reply : Fetched Bool)
  /-- The body lists the ids of the pending pairings. -/
  | asked (reply : Fetched (List String))
  | submitted (reply : Fetched Bool)
  | waited (cancelled : Bool)

/-- `8 * time.Second`. -/
def pairTimeout : Int := 8 * second

namespace Pairing

/-- `wanted[name]`. -/
def wanted (p : Pairing) (name : String) : Bool :=
  name ≠ "" && (p.deviceName :: p.legacyDeviceNames).contains name

/-- The clients that `removeStaleClients` unpairs, of those that are listed. -/
def stale (p : Pairing) (clients : List SunshineClient) : List SunshineClient :=
  clients.filter fun client => p.wanted client.name && client.uuid ≠ ""

def fail (p : Pairing) (err : SunshineError) : Pairing × Option SunshineRequest :=
  ({ p with stage := .done (some err) }, none)

/-- The head of the loop of `Pair`: the first request of `tryPair`. -/
def ask (p : Pairing) (deadline : Int) : Pairing × Option SunshineRequest :=
  ({ p with stage := .asking deadline }, some .pendingPairings)

/-- `Pair` after `removeStaleClients`. -/
def removed (p : Pairing) (now : Int) : Pairing × Option SunshineRequest :=
  p.ask (now + pairTimeout)

/-- The loop of `removeStaleClients`. -/
def unpair (p : Pairing) (now : Int) (csrfToken : String) :
    List SunshineClient → Pairing × Option SunshineRequest
  | [] => p.removed now
  | client :: rest =>
    ({ p with stage := .unpairing csrfToken client rest }, some (.unpair client.uuid csrfToken))

/-- The loop of `Pair` when `tryPair` has returned `errNoPendingPairing`. -/
def retry (p : Pairing) (now deadline : Int) : Pairing × Option SunshineRequest :=
  if now < deadline then ({ p with stage := .waiting deadline }, none)
  else p.fail .noPendingPairing

/-- `tryPair` after `pendingPairingID`. -/
def submit (p : Pairing) (deadline : Int) (pairingID : String) :
    Pairing × Option SunshineRequest :=
  ({ p with stage := .submitting deadline }, some (.submitPIN p.pin p.deviceName pairingID))

/-- The start of `Pair`. -/
def start (pin deviceName : String) (legacyDeviceNames : List String)
    (configured validURL : Bool) (now : Int) : Pairing × Option SunshineRequest :=
  let p : Pairing := ⟨pin, deviceName, legacyDeviceNames, .listing⟩
  if !configured then p.fail .credentials
  else if !validURL then p.fail .invalidURL
  else if (deviceName :: legacyDeviceNames).all (· = "") then p.removed now
  else (p, some .listClients)

/-- `removeStaleClients` when the list comes. -/
def listed (p : Pairing) (now : Int) :
    Fetched (List SunshineClient) → Pairing × Option SunshineRequest
  | .failed => p.fail .transport
  | .response status clients =>
    if isMissing status then p.removed now
    else if status = 401 then p.fail .rejected
    else if !isSuccess status then p.fail (.status status)
    else
      match clients with
      | none => p.fail .decode
      | some clients =>
        let stale := p.stale clients
        if stale = [] then p.removed now
        else ({ p with stage := .fetchingToken stale }, some .csrfToken)

/-- `removeStaleClients` when the token comes. -/
def tokenFetched (p : Pairing) (now : Int) (stale : List SunshineClient) :
    Fetched String → Pairing × Option SunshineRequest
  | .failed => p.fail .transport
  | .response status token =>
    if isMissing status then p.unpair now "" stale
    else if !isSuccess status then p.fail (.status status)
    else
      match token with
      | none => p.fail .decode
      | some token => if token = "" then p.fail .emptyToken else p.unpair now token stale

/-- `removeStaleClients` when a client has been unpaired. -/
def clientUnpaired (p : Pairing) (now : Int) (csrfToken : String) (client : SunshineClient)
    (rest : List SunshineClient) : Fetched Bool → Pairing × Option SunshineRequest
  | .failed => p.fail .transport
  | .response status removed =>
    if !isSuccess status then p.fail (.status status)
    else if removed ≠ some true then p.fail (.notRemoved client.uuid)
    else p.unpair now csrfToken rest

/-- `tryPair` when the pending pairings come. -/
def asked (p : Pairing) (now deadline : Int) :
    Fetched (List String) → Pairing × Option SunshineRequest
  | .failed => p.fail .transport
  | .response status pairings =>
    if status = 401 then p.fail .rejected
    else if isMissing status then p.submit deadline ""
    else if !isSuccess status then p.fail (.status status)
    else
      match pairings with
      | none => p.submit deadline ""
      | some [] => p.retry now deadline
      | some [id] => if id = "" then p.retry now deadline else p.submit deadline id
      | some (_ :: _ :: _) => p.fail .multiplePairings

/-- `tryPair` when the PIN has been submitted. -/
def submitted (p : Pairing) (now deadline : Int) :
    Fetched Bool → Pairing × Option SunshineRequest
  | .failed => p.fail .transport
  | .response status accepted =>
    if status = 401 then p.fail .rejected
    else if !isSuccess status then
      if status = 404 ∨ status = 409 then p.retry now deadline else p.fail (.status status)
    else
      match accepted with
      | none => p.fail .decode
      | some true => ({ p with stage := .done none }, none)
      | some false => p.retry now deadline

/-- The call goes on with what it waited for, and sends its next request. -/
def step (p : Pairing) (now : Int) (e : PairEvent) : Pairing × Option SunshineRequest :=
  match p.stage, e with
  | .listing, .listed reply => p.listed now reply
  | .fetchingToken stale, .token reply => p.tokenFetched now stale reply
  | .unpairing csrfToken client rest, .unpaired reply =>
    p.clientUnpaired now csrfToken client rest reply
  | .asking deadline, .asked reply => p.asked now deadline reply
  | .submitting deadline, .submitted reply => p.submitted now deadline reply
  | .waiting deadline, .waited cancelled =>
    if cancelled then p.fail .cancelled else p.ask deadline
  | _, _ => (p, none)

end Pairing

/-! ### `SunshinePairer.CloseApp` -/

/-- The start of `CloseApp`: its request, or why there is none. -/
def closeAppRequest (configured validURL : Bool) : Except SunshineError SunshineRequest :=
  if !configured then .error .credentials
  else if !validURL then .error .invalidURL
  else .ok .closeApp

/-- `CloseApp` when the reply comes. The body says whether its status is `true` or
`"true"`, if it has one. -/
def appClosed : Fetched Bool → Option SunshineError
  | .failed => some .transport
  | .response status closed =>
    if status = 401 then some .rejected
    else if !isSuccess status then some (.status status)
    else if closed = some false then some .notClosed
    else none

end GilStreaming.Coordinator
