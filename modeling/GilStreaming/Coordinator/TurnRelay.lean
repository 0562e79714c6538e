import GilStreaming.Lib.OpenClose
import Mathlib.Data.Finset.Prod

/-!
# GilStreaming.Coordinator.TurnRelay

The helper process of a client that streams over TURN:
`coordinator/cmd/gilstreaming-turn-relay/main.go`.

An endpoint has a socket for the client, and a connection that the TURN service relays to one
port of the host. Two goroutines for each endpoint carry the datagrams, and the process ends at
a signal or at the first error that one of them reports.

What a call comes back with is part of the events, so that an interleaving is a list of
`HelperEvent`s. A step of a goroutine is one call of a socket or one access to `peer`; an
event that is not its next step does nothing. The two log lines of an endpoint are left out.
-/

namespace GilStreaming.Coordinator.TurnRelay

open GilStreaming.OpenClose

def udpOffsets : List Int := [9, 10, 11, 13, 21]

structure Configuration where
  serverAddress : String
  username : String
  credential : String
  peerAddress : String
  peerBasePort : Int
  localBasePort : Int
  deriving DecidableEq, Repr

/-- An `int` after an addition. -/
def wrap (n : Int) : Int := n.bmod 18446744073709551616

def validateConfiguration (config : Configuration) : Except String Unit :=
  if config.serverAddress = "" ∨ config.username = "" ∨ config.credential = "" ∨
      config.peerAddress = "" then
    .error "configuration is missing a required value"
  else if config.peerBasePort < 6 ∨ wrap (config.peerBasePort + 21) > 65535 ∨
      config.localBasePort < 6 ∨ wrap (config.localBasePort + 21) > 65535 then
    .error "configuration contains an invalid port range"
  else .ok ()

structure UDPAddr where
  ip : String
  port : Int
  deriving DecidableEq, Repr

/-! ### The sockets -/

/-- What is opened for an endpoint. -/
inductive Resource
  | localSocket
  | turnSocket
  | turnClient
  | relayConnection
  deriving DecidableEq, Repr

abbrev ResourceAct := OpenClose (Int × Resource)

/-- The calls of `openEndpoint` that may fail. -/
inductive OpenCall
  | listenUDP
  | listenPacket
  | newClient
  | listen
  | allocate
  | createPermission
  deriving DecidableEq, Repr

/-- What the helper finds: the error of each call, by the offset of the endpoint. -/
structure HelperEnv where
  /-- The outcome of `json.Decoder.Decode`. -/
  decoded : Except String Configuration
  /-- The outcome of `net.ResolveUDPAddr`. -/
  resolve : String → Int → Except String UDPAddr
  fails : Int → OpenCall → Option String
  /-- The order in which the map of endpoints is ranged over. -/
  order : List Int → List Int

section Sockets

variable (env : HelperEnv)

/-- What it opens and closes, and its error. -/
def openEndpoint (config : Configuration) (offset : Int) : List ResourceAct × Option String :=
  let port := wrap (config.localBasePort + offset)
  let opens (resource : Resource) : ResourceAct := .opens (offset, resource)
  let closes (resource : Resource) : ResourceAct := .closes (offset, resource)
  match env.fails offset .listenUDP with
  | some err => ([], s!"open local UDP port {port}: {err}")
  | none =>
  match env.fails offset .listenPacket with
  | some err => ([opens .localSocket, closes .localSocket],
      s!"open TURN socket for UDP offset {offset}: {err}")
  | none =>
  match env.fails offset .newClient with
  | some err => ([opens .localSocket, opens .turnSocket, closes .turnSocket, closes .localSocket],
      s!"create TURN client for UDP offset {offset}: {err}")
  | none =>
  match env.fails offset .listen with
  | some err => ([opens .localSocket, opens .turnSocket, opens .turnClient, closes .turnClient,
      closes .turnSocket, closes .localSocket],
      s!"start TURN client for UDP offset {offset}: {err}")
  | none =>
  match env.fails offset .allocate with
  | some err => ([opens .localSocket, opens .turnSocket, opens .turnClient, closes .turnClient,
      closes .turnSocket, closes .localSocket],
      s!"allocate TURN relay for UDP offset {offset}: {err}")
  | none =>
  match env.fails offset .createPermission with
  | some err => ([opens .localSocket, opens .turnSocket, opens .turnClient, opens .relayConnection,
      closes .relayConnection, closes .turnClient, closes .turnSocket, closes .localSocket],
      s!"create TURN permission for UDP offset {offset}: {err}")
  | none =>
  ([opens .localSocket, opens .turnSocket, opens .turnClient, opens .relayConnection], none)

def closeEndpoints (offsets : List Int) : List ResourceAct :=
  (env.order offsets).flatMap fun offset =>
    [.closes (offset, .localSocket), .closes (offset, .relayConnection),
      .closes (offset, .turnClient), .closes (offset, .turnSocket)]

/-- The loop of `run`: what is opened and closed, the endpoints, and the error. -/
def openEndpoints (config : Configuration) :
    List Int → List Int → List ResourceAct × List Int × Option String
  | endpoints, [] => ([], endpoints, none)
  | endpoints, offset :: offsets =>
    match openEndpoint env config offset with
    | (acts, some openErr) => (acts ++ closeEndpoints env endpoints, [], openErr)
    | (acts, none) =>
      let (later, opened) := openEndpoints config (endpoints ++ [offset]) offsets
      (acts ++ later, opened)

end Sockets

/-! ### The goroutines -/

abbrev Packet := List UInt8

/-- `relayLocalPackets`. -/
inductive LocalLoop
  /-- It is in `ReadFromUDP`. -/
  | reading
  /-- It has read a packet. -/
  | received (payload : Packet) (sender : UDPAddr)
  /-- It has stored the sender. -/
  | sending (payload : Packet)
  /-- It has returned, with or without an error that it reported. -/
  | returned (reported : Bool)
  deriving DecidableEq, Repr

/-- `relayRemotePackets`. It reports an error before it returns. -/
inductive RemoteLoop
  /-- It is in `ReadFrom`. -/
  | reading
  /-- It has read a packet of the host. -/
  | received (payload : Packet)
  /-- It has read the peer. -/
  | delivering (payload : Packet) (localPeer : UDPAddr)
  | returned
  deriving DecidableEq, Repr

/-- `localEndpoint`, with its goroutines, and what they have written. -/
structure Endpoint where
  offset : Int
  remote : UDPAddr
  peer : Option UDPAddr
  localLoop : LocalLoop
  remoteLoop : RemoteLoop
  /-- Written to the connection, each to `remote`. -/
  sent : List Packet
  /-- Written to the socket. -/
  delivered : List (UDPAddr × Packet)
  deriving DecidableEq, Repr

inductive LoopEvent
  | readFromUDP (result : Except String (Packet × UDPAddr))
  | setPeer
  | writeTo (err : Option String)
  /-- The sender is a `*net.UDPAddr`, or none. -/
  | readFrom (result : Except String (Packet × Option UDPAddr))
  | getPeer
  | writeToUDP (err : Option String)

namespace Endpoint

def opened (peerBase : UDPAddr) (offset : Int) : Endpoint where
  offset := offset
  remote := ⟨peerBase.ip, wrap (peerBase.port + offset)⟩
  peer := none
  localLoop := .reading
  remoteLoop := .reading
  sent := []
  delivered := []

variable (peerBase : UDPAddr) (ep : Endpoint)

/-- `relayRemotePackets` goes on with a packet of this sender. -/
def accepts (sender : Option UDPAddr) : Bool :=
  match sender with
  | none => false
  | some udpSender => udpSender.ip = peerBase.ip && udpSender.port = ep.remote.port

/-- The next step of a goroutine, and the error that it reports. -/
def step : LoopEvent → Endpoint × Option String
  | .readFromUDP result =>
    match ep.localLoop, result with
    | .reading, .ok (payload, sender) => ({ ep with localLoop := .received payload sender }, none)
    | .reading, .error _ => ({ ep with localLoop := .returned false }, none)
    | _, _ => (ep, none)
  | .setPeer =>
    match ep.localLoop with
    | .received payload sender =>
      ({ ep with peer := some sender, localLoop := .sending payload }, none)
    | _ => (ep, none)
  | .writeTo err =>
    match ep.localLoop, err with
    | .sending payload, none =>
      ({ ep with sent := ep.sent ++ [payload], localLoop := .reading }, none)
    | .sending _, some err =>
      ({ ep with localLoop := .returned true },
        s!"send UDP offset {ep.offset} through TURN: {err}")
    | _, _ => (ep, none)
  | .readFrom result =>
    match ep.remoteLoop, result with
    | .reading, .ok (payload, sender) =>
      if accepts peerBase ep sender then ({ ep with remoteLoop := .received payload }, none)
      else (ep, none)
    | .reading, .error err =>
      ({ ep with remoteLoop := .returned }, s!"receive TURN packet: {err}")
    | _, _ => (ep, none)
  | .getPeer =>
    match ep.remoteLoop, ep.peer with
    | .received payload, some localPeer =>
      ({ ep with remoteLoop := .delivering payload localPeer }, none)
    | .received _, none => ({ ep with remoteLoop := .reading }, none)
    | _, _ => (ep, none)
  | .writeToUDP err =>
    match ep.remoteLoop, err with
    | .delivering payload localPeer, none =>
      ({ ep with delivered := ep.delivered ++ [(localPeer, payload)], remoteLoop := .reading },
        none)
    | .delivering _ _, some err =>
      ({ ep with remoteLoop := .returned },
        s!"deliver TURN packet for UDP offset {ep.offset}: {err}")
    | _, _ => (ep, none)

/-- The endpoint after a step. -/
def next (e : LoopEvent) : Endpoint := (step peerBase ep e).1

/-- The error that a step reports. -/
def reports (e : LoopEvent) : Option String := (step peerBase ep e).2

end Endpoint

/-! ### The process -/

/-- `run`. -/
inductive MainState
  /-- It is in its `select`. -/
  | waiting
  /-- It returns what it was woken by. -/
  | returning (relayErr : Option String)
  deriving DecidableEq, Repr

structure Helper where
  peerBase : UDPAddr
  endpoints : List Endpoint
  errorsChannel : List String
  main : MainState
  deriving DecidableEq, Repr

inductive HelperEvent
  /-- A goroutine of the `i`-th endpoint goes on. -/
  | loop (i : Nat) (e : LoopEvent)
  | signal
  | relayErr

namespace Helper

/-- The goroutines have been started, and `READY` is printed. -/
def ready (peerBase : UDPAddr) (offsets : List Int) : Helper where
  peerBase := peerBase
  endpoints := offsets.map (Endpoint.opened peerBase)
  errorsChannel := []
  main := .waiting

variable (s : Helper)

/-- `reportError`: a full channel drops the error. -/
def reportError (err : String) : Helper :=
  if s.errorsChannel.length < 2 * s.endpoints.length then
    { s with errorsChannel := s.errorsChannel ++ [err] }
  else s

def step (s : Helper) : HelperEvent → Helper
  | .loop i e =>
    match s.endpoints[i]? with
    | none => s
    | some ep =>
      let s' := { s with endpoints := s.endpoints.set i (ep.next s.peerBase e) }
      match ep.reports s.peerBase e with
      | none => s'
      | some err => s'.reportError err
  | .signal => if s.main = .waiting then { s with main := .returning none } else s
  | .relayErr =>
    match s.main, s.errorsChannel with
    | .waiting, err :: errs => { s with main := .returning (some err), errorsChannel := errs }
    | _, _ => s

end Helper

section Run

variable (env : HelperEnv)

/-- `run` until the goroutines are started: what it opens and closes, and its error or the
process that gets ready. -/
def start : List ResourceAct × Except String Helper :=
  match env.decoded with
  | .error err => ([], .error s!"read configuration: {err}")
  | .ok config =>
  match validateConfiguration config with
  | .error err => ([], .error err)
  | .ok () =>
  match env.resolve config.peerAddress config.peerBasePort with
  | .error err => ([], .error s!"resolve Sunshine peer: {err}")
  | .ok peerBase =>
  match openEndpoints env config [] udpOffsets with
  | (acts, _, some openErr) => (acts, .error openErr)
  | (acts, endpoints, none) => (acts, .ok (Helper.ready peerBase endpoints))

/-- What is deferred to the end of `run`. -/
def deferred : List ResourceAct :=
  match (start env).2 with
  | .error _ => []
  | .ok s => closeEndpoints env (s.endpoints.map Endpoint.offset)

end Run

/-! ### What is left open -/

/-- What the endpoints have open. -/
def owned (offsets : List Int) : Finset (Int × Resource) :=
  offsets.toFinset ×ˢ {.localSocket, .turnSocket, .turnClient, .relayConnection}

@[simp] theorem mem_owned {offsets : List Int} {offset : Int} {resource : Resource} :
    (offset, resource) ∈ owned offsets ↔ offset ∈ offsets := by
  cases resource <;> simp [owned]

section Sockets

variable {env : HelperEnv} {config : Configuration} {offset : Int} {offsets endpoints : List Int}

theorem track_openEndpoint (env : HelperEnv) (config : Configuration)
    (hoffset : offset ∉ endpoints) :
    track (owned endpoints) (openEndpoint env config offset).1 =
      some (owned ((openEndpoint env config offset).2.elim (endpoints ++ [offset])
        fun _ => endpoints)) := by
  have hfresh (resource : Resource) : (offset, resource) ∉ owned endpoints := by simpa
  have howned : insert (offset, Resource.relayConnection) (insert (offset, .turnClient)
      (insert (offset, .turnSocket) (insert (offset, .localSocket) (owned endpoints)))) =
        owned (endpoints ++ [offset]) := by
    ext ⟨o, resource⟩
    cases resource <;> simp [or_comm]
  simp only [openEndpoint]
  cases env.fails offset .listenUDP with
  | some err => simp
  | none =>
  cases env.fails offset .listenPacket with
  | some err => simp [hfresh]
  | none =>
  cases env.fails offset .newClient with
  | some err => simp [hfresh]
  | none =>
  cases env.fails offset .listen with
  | some err => simp [hfresh]
  | none =>
  cases env.fails offset .allocate with
  | some err => simp [hfresh]
  | none =>
  cases env.fails offset .createPermission with
  | some err => simp [hfresh]
  | none => simp [hfresh, howned]

theorem track_close (hoffset : offset ∉ offsets) :
    track (owned (offset :: offsets)) [.closes (offset, .localSocket),
      .closes (offset, .relayConnection), .closes (offset, .turnClient),
      .closes (offset, .turnSocket)] = some (owned offsets) := by
  have howned : ((((owned (offset :: offsets)).erase (offset, .localSocket)).erase
      (offset, .relayConnection)).erase (offset, .turnClient)).erase (offset, .turnSocket) =
        owned offsets := by
    ext ⟨o, resource⟩
    by_cases ho : o = offset
    · subst ho
      cases resource <;> simp [hoffset]
    · simp [ho]
  simp [howned]

theorem track_closeEndpoints (horder : (env.order offsets).Perm offsets) (hnodup : offsets.Nodup) :
    track (owned offsets) (closeEndpoints env offsets) = some ∅ := by
  have howned : owned offsets = owned (env.order offsets) := by
    rw [owned, owned, List.toFinset_eq_of_perm _ _ horder]
  rw [closeEndpoints, howned]
  have hnodup' := horder.nodup_iff.mpr hnodup
  generalize env.order offsets = order at hnodup'
  induction order with
  | nil => rfl
  | cons offset order ih =>
      obtain ⟨hoffset, hrest⟩ := List.nodup_cons.mp hnodup'
      rw [List.flatMap_cons, track_append_of (track_close hoffset)]
      exact ih hrest

/-- The loop leaves open what it returns, and nothing after an error. -/
theorem track_openEndpoints (horder : ∀ l, (env.order l).Perm l)
    (hnodup : (endpoints ++ offsets).Nodup) {acts : List ResourceAct} {opened : List Int}
    {openErr : Option String}
    (h : openEndpoints env config endpoints offsets = (acts, opened, openErr)) :
    track (owned endpoints) acts = some (owned opened) ∧
      opened = openErr.elim (endpoints ++ offsets) fun _ => [] := by
  induction offsets generalizing endpoints acts with
  | nil =>
      obtain ⟨rfl, rfl, rfl⟩ : [] = acts ∧ endpoints = opened ∧ none = openErr := by
        simpa [openEndpoints] using h
      exact ⟨rfl, (List.append_nil endpoints).symm⟩
  | cons offset offsets ih =>
      have hoffset : offset ∉ endpoints := fun h =>
        (List.nodup_append.mp hnodup).2.2 offset h offset List.mem_cons_self rfl
      have htrack := track_openEndpoint env config hoffset
      rw [openEndpoints] at h
      split at h
      · next first err hopen =>
          obtain ⟨rfl, rfl, rfl⟩ : first ++ closeEndpoints env endpoints = acts ∧ [] = opened ∧
              some err = openErr := by simpa using h
          rw [hopen] at htrack
          exact ⟨(track_append_of htrack).trans
            (track_closeEndpoints (horder endpoints) (List.nodup_append.mp hnodup).1), rfl⟩
      · next first hopen =>
          obtain ⟨rfl, hlater⟩ :
              first ++ (openEndpoints env config (endpoints ++ [offset]) offsets).1 = acts ∧
                (openEndpoints env config (endpoints ++ [offset]) offsets).2 =
                  (opened, openErr) := by simpa [Prod.ext_iff] using h
          rw [hopen] at htrack
          obtain ⟨hrest, hopened⟩ := ih (by simpa using hnodup) (Prod.ext rfl hlater)
          exact ⟨(track_append_of htrack).trans hrest, by simpa using hopened⟩

theorem map_offset_ready {peerBase : UDPAddr} :
    (Helper.ready peerBase offsets).endpoints.map Endpoint.offset = offsets := by
  simp [Helper.ready, Endpoint.opened, Function.comp_def]

end Sockets

/-- Whatever fails, `run` closes each socket, client and allocation that it has opened, once and
never before, and the process that gets ready has all of them open. -/
theorem sockets_closed (env : HelperEnv) (horder : ∀ l, (env.order l).Perm l) :
    track ∅ ((start env).1 ++ deferred env) = some ∅ ∧
      ∀ s, (start env).2 = .ok s → track ∅ (start env).1 = some (owned udpOffsets) := by
  rw [deferred, start]
  split
  · exact ⟨rfl, nofun⟩
  · next config hconfig =>
    split
    · exact ⟨rfl, nofun⟩
    · split
      · exact ⟨rfl, nofun⟩
      · next peerBase hresolve =>
        split
        · next acts endpoints openErr hopen =>
            obtain ⟨htrack, rfl⟩ := track_openEndpoints horder (by decide) hopen
            refine ⟨?_, nofun⟩
            exact (congrArg _ (List.append_nil acts)).trans htrack
        · next acts endpoints hopen =>
            obtain ⟨htrack, rfl⟩ := track_openEndpoints horder (by decide) hopen
            refine ⟨(track_append_of htrack).trans ?_, fun _ _ => htrack⟩
            simp only [map_offset_ready]
            exact track_closeEndpoints (horder udpOffsets) (by decide)

/-- The TURN service refuses the third allocation. -/
def refusedAllocation : HelperEnv where
  decoded := .ok ⟨"turn.example.com:3478", "user", "secret", "192.168.1.20", 47989, 47989⟩
  resolve := fun ip port => .ok ⟨ip, port⟩
  fails := fun offset call =>
    if offset = 11 ∧ call = .allocate then some "allocation quota reached" else none
  order := List.reverse

theorem sockets_closed_sample :
    (∃ err, (start refusedAllocation).2 = .error err) ∧
      track ∅ ((start refusedAllocation).1 ++ deferred refusedAllocation) = some ∅ :=
  ⟨⟨_, rfl⟩, (sockets_closed refusedAllocation List.reverse_perm).1⟩

end GilStreaming.Coordinator.TurnRelay
