import GilStreaming.Coordinator.World

/-!
# GilStreaming.Coordinator.Relay

One relay connection of `coordinator/relay.go` next to the store it is authorised by.

After the WebSocket upgrade four goroutines share a connection: the two copy loops of
`relayTCP` or `relayUDP`, the handler that waits for the first of them to end, and
`watchRelayLease`. A `RelaySession` holds where each of them stands; a `SessionEvent`
lets one of them take its next step, with whatever the network answers in it, so that
an interleaving is a list of events. Steps that a goroutine cannot take do nothing.

`RelaySystem` puts the connection, from the request on, beside a `World`, in which the
calls of other clients run between any two steps.
-/

namespace GilStreaming.Coordinator

/-! ### Requests -/

/-- `relayAllowedOffsets`. -/
def relayAllowedOffsets (transport : String) (offset : Int) : Bool :=
  if transport = "tcp" then decide (offset ∈ [-5, 0, 6, 7, 21])
  else if transport = "udp" then decide (offset ∈ [9, 10, 11, 13, 21])
  else false

/-- A request to `Server.relay` by an authenticated user. `offset` is what
`strconv.Atoi` returns for the text of the query. -/
structure RelayRequest where
  owner : String
  leaseID : String
  transport : String
  offset : Int
  deriving DecidableEq, Repr

/-- The ways in which a request ends without a relay. -/
inductive RelayRefusal
  /-- 400 `INVALID_RELAY`, `"invalid relay channel"` -/
  | invalidChannel
  /-- 410 `LEASE_EXPIRED`, `"lease is missing or expired"` -/
  | leaseExpired
  /-- 403 `FORBIDDEN`, `"lease belongs to another user"` -/
  | forbidden
  /-- 500 `INTERNAL_ERROR`, `"could not validate relay lease"` -/
  | internalError
  /-- 400 `INVALID_RELAY`, `"relay target port is invalid"` -/
  | invalidPort
  /-- 502 `VM_UNREACHABLE`, `"assigned VM relay channel is unavailable"` -/
  | vmUnreachable
  /-- `relayUpgrader.Upgrade` failed and has answered itself. -/
  | upgradeFailed
  deriving DecidableEq, Repr

/-- How `Server.relay` answers an error of `LeaseVM`. -/
def relayRefusal : StoreError → RelayRefusal
  | .leaseNotFound => .leaseExpired
  | .leaseForbidden => .forbidden
  | _ => .internalError

/-! ### A session -/

abbrev Payload := List UInt8

/-- `relayMaxMessageSize`. -/
def relayMaxMessageSize : Nat := 1024 * 1024

/-- The largest UDP payload. -/
def maxDatagramSize : Nat := 65507

inductive RelayTransport
  | tcp
  | udp
  deriving DecidableEq, Repr

/-- The size of the buffer that is read into from the VM. -/
def RelayTransport.bufferSize : RelayTransport → Nat
  | .tcp => 64 * 1024
  | .udp => maxDatagramSize

inductive RelayError
  /-- `io.EOF` -/
  | eof
  /-- A socket that this side has closed. -/
  | closed
  /-- `"UDP datagram too large: %d"` -/
  | datagramTooLarge (size : Nat)
  | network
  deriving DecidableEq, Repr

/-- `tcpRelayResult`; `relayUDP` sends the error only. -/
structure RelayResult where
  err : RelayError
  upstream : Bool
  deriving DecidableEq, Repr

/-- The goroutine that copies from the client to the VM: in `ReadMessage`, about to
write what is left of a payload, or returned. -/
inductive Uplink
  | reading
  | writing (payload : Payload)
  | ended
  deriving DecidableEq, Repr

/-- The goroutine that copies from the VM to the client. The error that came with a
chunk is looked at after the chunk is written. -/
inductive Downlink
  | reading
  | writing (chunk : Payload) (err : Option RelayError)
  | ended
  deriving DecidableEq, Repr

/-- The goroutine that called `relayTCP` or `relayUDP`: waiting for a result, waiting
for the peer to answer a Close frame, back in `Server.relay`, and there past
`close(done)`, past `client.Close()`, past `upstream.Close()`. -/
inductive Handler
  | waiting
  | awaitingPeer
  | returned
  | doneClosed
  | clientClosed
  | finished
  deriving DecidableEq, Repr

/-- `watchRelayLease`: in its `select`; after a failed check about to send the Close
frame, to close the client, to close the VM's socket; returned from there; or
returned because `done` was closed. -/
inductive Watcher
  | waiting
  | sendingClose
  | closingClient
  | closingUpstream
  | revoked
  | stopped
  deriving DecidableEq, Repr

/-- What was handed to a socket. -/
inductive Sent
  | toUpstream (payload : Payload)
  | toClient (payload : Payload)
  | closeFrame (code : Nat) (text : String)
  deriving DecidableEq, Repr

structure RelaySession where
  transport : RelayTransport
  uplink : Uplink
  downlink : Downlink
  handler : Handler
  watcher : Watcher
  /-- The buffered channel both copy loops report on. -/
  results : List RelayResult
  clientOpen : Bool
  upstreamOpen : Bool
  /-- Everything sent so far, oldest first. -/
  sent : List Sent
  deriving DecidableEq, Repr

inductive SessionEvent
  /-- `client.ReadMessage` returns: an error, or a message, binary or not. -/
  | clientRead (message : Except RelayError (Bool × Payload))
  /-- `upstream.Write` returns. -/
  | upstreamWrite (count : Nat) (err : Option RelayError)
  /-- `upstream.Read` returns. -/
  | upstreamRead (chunk : Payload) (err : Option RelayError)
  /-- `client.WriteMessage` returns. -/
  | clientWrite (err : Option RelayError)
  /-- The handler goes on. `controlSent` is the success of `WriteControl`, `timedOut`
  that the two seconds for the peer's answer are over. -/
  | handler (controlSent timedOut : Bool)
  /-- The watcher receives from `done`. -/
  | watcherDone
  /-- The watcher goes on with closing. -/
  | watcher (controlSent : Bool)

namespace RelaySession

/-- The session that `Server.relay` starts after the upgrade. -/
def start (transport : RelayTransport) : RelaySession where
  transport := transport
  uplink := .reading
  downlink := .reading
  handler := .waiting
  watcher := .waiting
  results := []
  clientOpen := true
  upstreamOpen := true
  sent := []

def endUplink (s : RelaySession) (err : RelayError) : RelaySession :=
  { s with uplink := .ended, results := s.results ++ [⟨err, false⟩] }

def endDownlink (s : RelaySession) (err : RelayError) : RelaySession :=
  { s with downlink := .ended, results := s.results ++ [⟨err, true⟩] }

def send (s : RelaySession) (sent : Sent) : RelaySession := { s with sent := s.sent ++ [sent] }

/-- `client.WriteControl` with a Close frame. -/
def writeClose (s : RelaySession) (controlSent : Bool) (code : Nat) (text : String) :
    RelaySession :=
  if s.clientOpen && controlSent then s.send (.closeFrame code text) else s

/-- The first loop of `relayTCP` and `relayUDP`, at `client.ReadMessage`. -/
def clientRead (s : RelaySession) (message : Except RelayError (Bool × Payload)) :
    RelaySession :=
  match s.uplink with
  | .reading =>
    match message with
    | .error err => s.endUplink err
    | .ok (binary, payload) =>
      if payload.length > relayMaxMessageSize then s.endUplink .network
      else if !binary then s
      else
        match s.transport with
        | .tcp => if payload = [] then s else { s with uplink := .writing payload }
        | .udp =>
          if payload.length > maxDatagramSize then s.endUplink (.datagramTooLarge payload.length)
          else { s with uplink := .writing payload }
  | _ => s

/-- The same loop at `upstream.Write`: one turn of `writeAll` for TCP, one datagram for
UDP. -/
def upstreamWrite (s : RelaySession) (count : Nat) (err : Option RelayError) : RelaySession :=
  match s.uplink with
  | .writing payload =>
    if !s.upstreamOpen then s.endUplink .closed
    else
      match s.transport with
      | .tcp =>
        let accepted := payload.take count
        let s := if accepted = [] then s else s.send (.toUpstream accepted)
        match err with
        | some err => s.endUplink err
        | none =>
          let rest := payload.drop count
          { s with uplink := if rest = [] then .reading else .writing rest }
      | .udp =>
        match err with
        | some err => s.endUplink err
        | none => { s.send (.toUpstream payload) with uplink := .reading }
  | _ => s

/-- The second loop at `upstream.Read`. An empty read is not forwarded. -/
def upstreamRead (s : RelaySession) (chunk : Payload) (err : Option RelayError) : RelaySession :=
  match s.downlink with
  | .reading =>
    if !s.upstreamOpen then s.endDownlink .closed
    else
      let chunk := chunk.take s.transport.bufferSize
      if chunk ≠ [] then { s with downlink := .writing chunk err }
      else
        match err with
        | some err => s.endDownlink err
        | none => s
  | _ => s

/-- The second loop at `client.WriteMessage`. -/
def clientWrite (s : RelaySession) (err : Option RelayError) : RelaySession :=
  match s.downlink with
  | .writing chunk readErr =>
    if !s.clientOpen then s.endDownlink .closed
    else
      match err with
      | some err => s.endDownlink err
      | none =>
        let s := s.send (.toClient chunk)
        match readErr with
        | some err => s.endDownlink err
        | none => { s with downlink := .reading }
  | _ => s

/-- The rest of `relayTCP` and `relayUDP` after the first result, and the end of
`Server.relay`. Only `relayTCP` waits for the peer, after the VM ended the stream. -/
def handlerStep (s : RelaySession) (controlSent timedOut : Bool) : RelaySession :=
  match s.handler with
  | .waiting =>
    match s.results with
    | [] => s
    | result :: results =>
      let s := { s with results := results }
      if s.transport = .tcp ∧ result.upstream ∧ result.err = .eof then
        let ok := s.clientOpen && controlSent
        { s.writeClose controlSent 1000 "upstream closed" with
          handler := if ok then .awaitingPeer else .returned }
      else { s with handler := .returned }
  | .awaitingPeer =>
    match s.results with
    | [] => if timedOut then { s with handler := .returned } else s
    | _ :: results => { s with results := results, handler := .returned }
  | .returned => { s with handler := .doneClosed }
  | .doneClosed => { s with clientOpen := false, handler := .clientClosed }
  | .clientClosed => { s with upstreamOpen := false, handler := .finished }
  | .finished => s

/-- `done` has been closed. -/
def doneClosed (s : RelaySession) : Bool :=
  match s.handler with
  | .waiting | .awaitingPeer | .returned => false
  | _ => true

/-- `watchRelayLease` when its check of the lease comes back. -/
def checked (s : RelaySession) (failed : Bool) : RelaySession :=
  if failed then { s with watcher := .sendingClose } else s

/-- `watchRelayLease` after a failed check. -/
def watcherStep (s : RelaySession) (controlSent : Bool) : RelaySession :=
  match s.watcher with
  | .sendingClose =>
    { s.writeClose controlSent 1008 "lease expired" with watcher := .closingClient }
  | .closingClient => { s with clientOpen := false, watcher := .closingUpstream }
  | .closingUpstream => { s with upstreamOpen := false, watcher := .revoked }
  | _ => s

def step (s : RelaySession) : SessionEvent → RelaySession
  | .clientRead message => s.clientRead message
  | .upstreamWrite count err => s.upstreamWrite count err
  | .upstreamRead chunk err => s.upstreamRead chunk err
  | .clientWrite err => s.clientWrite err
  | .handler controlSent timedOut => s.handlerStep controlSent timedOut
  | .watcherDone =>
    if s.watcher = .waiting ∧ s.doneClosed then { s with watcher := .stopped } else s
  | .watcher controlSent => s.watcherStep controlSent

end RelaySession

/-! ### A connection beside the store -/

/-- How far the handler of the request has come. -/
inductive Relay
  | requested
  | refused (why : RelayRefusal)
  | dialing (lease : Lease) (vm : VM)
  | upgrading (lease : Lease) (vm : VM)
  | running (lease : Lease) (vm : VM) (session : RelaySession)
  deriving DecidableEq, Repr

structure RelaySystem where
  world : World
  request : RelayRequest
  relay : Relay

inductive RelayEvent
  /-- A call of any client on the store. -/
  | store (env : CallEnv) (c : Call)
  /-- `Server.relay` checks the request and the lease. -/
  | connect (now : Int)
  /-- `dialRelayUpstream` returns. -/
  | dialed (ok : Bool)
  /-- `relayUpgrader.Upgrade` returns. -/
  | upgraded (ok : Bool)
  /-- The watcher's ticker fires, and it checks the lease. -/
  | tick (now : Int)
  /-- One of the session's goroutines takes a step at the instant `now`. -/
  | session (now : Int) (e : SessionEvent)

/-- `LeaseVM` uses the clock only. -/
def checkEnv (now : Int) : CallEnv := ⟨now, .stored, none, none⟩

namespace RelaySystem

/-- The relay's own `LeaseVM` call. -/
def check (sys : RelaySystem) (now : Int) : Event :=
  .call (checkEnv now) (.leaseVM sys.request.leaseID sys.request.owner)

/-- What the request leads to once `LeaseVM` has answered. -/
def admitted (sys : RelaySystem) (reply : Option (Except StoreError Reply)) : Relay :=
  match reply with
  | some (.ok (.leaseAndVM lease vm)) =>
    let targetPort := vm.streamPort + sys.request.offset
    if targetPort < 1 ∨ targetPort > 65535 then .refused .invalidPort else .dialing lease vm
  | some (.error err) => .refused (relayRefusal err)
  | _ => .refused .internalError

/-- The session's transport: everything but `"tcp"` is relayed as UDP. -/
def transport (sys : RelaySystem) : RelayTransport :=
  if sys.request.transport = "tcp" then .tcp else .udp

def step (sys : RelaySystem) (e : RelayEvent) : RelaySystem :=
  match e, sys.relay with
  | .store env c, _ => { sys with world := sys.world.step (.call env c) }
  | .connect now, .requested =>
    if sys.request.leaseID = "" ∨
        !relayAllowedOffsets sys.request.transport sys.request.offset then
      { sys with relay := .refused .invalidChannel }
    else
      { sys with
        world := sys.world.step (sys.check now)
        relay := sys.admitted (sys.world.reply (sys.check now)) }
  | .dialed ok, .dialing lease vm =>
    { sys with relay := if ok then .upgrading lease vm else .refused .vmUnreachable }
  | .upgraded ok, .upgrading lease vm =>
    { sys with
      relay := if ok then .running lease vm (.start sys.transport) else .refused .upgradeFailed }
  | .tick now, .running lease vm session =>
    if session.watcher = .waiting then
      let failed := match sys.world.reply (sys.check now) with
        | some (.ok _) => false
        | _ => true
      { sys with
        world := sys.world.step (sys.check now)
        relay := .running lease vm (session.checked failed) }
    else sys
  | .session _ e, .running lease vm session =>
    { sys with relay := .running lease vm (session.step e) }
  | _, _ => sys

end RelaySystem

end GilStreaming.Coordinator
