import GilStreaming.Client.TcpTunnel

/-!
# GilStreaming.Client.UdpEndpoint

One UDP port of the WebSocket fallback: the `readyRead` handler of
`startWebSocketUdpFallback` and `openUdpTunnel` of `app/backend/relaybridge.cpp`.

Datagrams go out as WebSocket messages, and wait in `pending` while no WebSocket is
connected. An event is one turn of the `readyRead` loop, a signal of a WebSocket or of the
timer, or the bridge that stops. A WebSocket is named by the number of those opened before
it, so that a late signal of an old one can be told from one of the current one.
-/

namespace GilStreaming.Client

open GilStreaming.Trace

/-- `MAX_PENDING_UDP_DATAGRAMS`. -/
def maxPendingUdpDatagrams : Nat := 256

/-- The largest payload of a datagram over IPv4, where the sockets of the bridge are bound. -/
def maxUdpPayload : Nat := 65507

/-- `QNetworkDatagram`, as a socket bound to the loopback address receives it. -/
structure Datagram where
  data : Bytes
  senderAddress : String
  senderPort : UInt16
  size : data.length ≤ maxUdpPayload
  deriving DecidableEq, Repr

/-- `RelayBridge::UdpEndpoint`. -/
structure UdpEndpoint where
  /-- `m_Running`. -/
  running : Bool
  websocket : Option Nat
  /-- `websocket->state()`. -/
  websocketState : SocketState
  /-- The number of WebSockets opened so far. -/
  opened : Nat
  localPeerAddress : String
  localPeerPort : UInt16
  pending : List Bytes
  /-- The singleshot timers that run. -/
  reopens : Nat
  /-- The datagrams received from the local socket. -/
  received : List Bytes
  /-- The binary messages sent. -/
  sent : List Bytes
  /-- The datagrams written to the local socket, with the address and the port. -/
  written : List (Bytes × String × UInt16)
  deriving DecidableEq, Repr

inductive UdpEndpointEvent
  /-- `lost` says that the connection turns out to be gone while the datagram is sent. -/
  | datagram (datagram : Datagram) (lost : Bool)
  /-- `lost` says the same of each message that is sent. -/
  | connected (websocket : Nat) (lost : List Bool)
  /-- The peer closes the WebSocket, which is answered. -/
  | closing (websocket : Nat)
  | disconnected (websocket : Nat)
  | binaryMessageReceived (websocket : Nat) (payload : Bytes)
  | reopenTimeout
  /-- `RelayBridge::stop`. -/
  | stop
  deriving DecidableEq, Repr

namespace UdpEndpoint

/-- The endpoint once its socket is bound. -/
def bound : UdpEndpoint where
  running := true
  websocket := none
  websocketState := .unconnected
  opened := 0
  localPeerAddress := ""
  localPeerPort := 0
  pending := []
  reopens := 0
  received := []
  sent := []
  written := []

def openUdpTunnel (e : UdpEndpoint) : UdpEndpoint :=
  if !e.running || e.websocket.isSome then e
  else
    { e with
      websocket := some e.opened
      websocketState := .connecting
      opened := e.opened + 1 }

/-- The handler of the WebSocket's `disconnected`. -/
def websocketDisconnected (e : UdpEndpoint) (websocket : Nat) : UdpEndpoint :=
  if e.websocket ≠ some websocket then e
  else
    let e := { e with websocket := none, websocketState := .unconnected }
    if e.running ∧ e.pending ≠ [] then { e with reopens := e.reopens + 1 } else e

/-- `websocket->sendBinaryMessage`, which emits `disconnected` when the connection is gone. -/
def sendBinaryMessage (e : UdpEndpoint) (websocket : Nat) (payload : Bytes) (lost : Bool) :
    UdpEndpoint :=
  let e := { e with sent := e.sent ++ [payload] }
  if lost then e.websocketDisconnected websocket else e

/-- The loop of the handler of the WebSocket's `connected`, over what is pending. -/
def websocketConnected (websocket : Nat) : List Bool → List Bytes → UdpEndpoint → UdpEndpoint
  | _, [], e => e
  | lost, payload :: pending, e =>
    if e.websocket = some websocket then
      websocketConnected websocket lost.tail pending
        ({ e with pending := pending }.sendBinaryMessage websocket payload (lost.headD false))
    else e

/-- `pending.enqueue`, after `pending.dequeue` when it is full. -/
def enqueue (e : UdpEndpoint) (payload : Bytes) : UdpEndpoint :=
  { e with
    pending :=
      (if e.pending.length = maxPendingUdpDatagrams then e.pending.tail else e.pending) ++
        [payload] }

/-- One turn of the loop in the handler of `readyRead`. -/
def readyRead (e : UdpEndpoint) (datagram : Datagram) (lost : Bool) : UdpEndpoint :=
  let e :=
    { e with
      received := e.received ++ [datagram.data]
      localPeerAddress := datagram.senderAddress
      localPeerPort := datagram.senderPort }
  match e.websocket, e.websocketState with
  | some websocket, .connected => e.sendBinaryMessage websocket datagram.data lost
  | some _, _ => e.enqueue datagram.data
  | none, _ => (e.enqueue datagram.data).openUdpTunnel

/-- The handler of the WebSocket's `binaryMessageReceived`. -/
def binaryMessageReceived (e : UdpEndpoint) (websocket : Nat) (payload : Bytes) : UdpEndpoint :=
  if e.websocket = some websocket ∧ e.localPeerPort ≠ 0 then
    { e with written := e.written ++ [(payload, e.localPeerAddress, e.localPeerPort)] }
  else e

/-- The part of `stop` that is about this endpoint, which is deleted at the end. -/
def stop (e : UdpEndpoint) : UdpEndpoint :=
  let e := { e with running := false }
  match e.websocket with
  | some websocket => e.websocketDisconnected websocket
  | none => e

/-- A signal is handled. The current WebSocket emits none in a state in which it cannot; the
late ones of an old WebSocket are not restricted. -/
def step (e : UdpEndpoint) (event : UdpEndpointEvent) : UdpEndpoint :=
  if !e.running then e
  else
    match event with
    | .datagram datagram lost => e.readyRead datagram lost
    | .connected websocket lost =>
      if e.websocket = some websocket then
        if e.websocketState = .connecting then
          websocketConnected websocket lost e.pending { e with websocketState := .connected }
        else e
      else websocketConnected websocket lost e.pending e
    | .closing websocket =>
      if e.websocket = some websocket ∧ e.websocketState = .connected then
        { e with websocketState := .closing }
      else e
    | .disconnected websocket => e.websocketDisconnected websocket
    | .binaryMessageReceived websocket payload => e.binaryMessageReceived websocket payload
    | .reopenTimeout =>
      if e.reopens = 0 then e else { e with reopens := e.reopens - 1 }.openUdpTunnel
    | .stop => e.stop

/-! ### The datagrams -/

/-- The datagram that arrives with an event. -/
def arrived : UdpEndpointEvent → List Bytes
  | .datagram datagram _ => [datagram.data]
  | _ => []

/-- What has arrived goes out or waits, in order; only the oldest of a full queue is dropped,
for one that has just arrived. -/
structure Accounts (e : UdpEndpoint) (arrived : List Bytes) (e' : UdpEndpoint) : Prop where
  received : e'.received = e.received ++ arrived
  queued : e'.sent ++ e'.pending = e.sent ++ e.pending ++ arrived ∨
    ∃ oldest pending payload, arrived = [payload] ∧ e.pending = oldest :: pending ∧
      e.pending.length = maxPendingUdpDatagrams ∧ e'.sent = e.sent ∧
      e'.pending = pending ++ [payload]

/-- A queue that is bounded, and served as long as the bridge runs. -/
structure Inv (e : UdpEndpoint) : Prop where
  bounded : e.pending.length ≤ maxPendingUdpDatagrams
  /-- A WebSocket is dropped as soon as it is disconnected. -/
  state : e.websocket = none ↔ e.websocketState = .unconnected
  connected : e.websocketState = .connected → e.pending = []
  served : e.running = true → e.pending ≠ [] → e.websocket ≠ none ∨ 0 < e.reopens

variable {e : UdpEndpoint}

theorem inv_bound : bound.Inv where
  bounded := Nat.zero_le _
  state := by simp [bound]
  connected := fun _ => rfl
  served := fun _ h => absurd rfl h

theorem Accounts.of_eq {e' : UdpEndpoint} (hreceived : e'.received = e.received)
    (hqueued : e'.sent ++ e'.pending = e.sent ++ e.pending) : e.Accounts [] e' where
  received := by rw [hreceived, List.append_nil]
  queued := .inl (by rw [hqueued, List.append_nil])

/-! #### A WebSocket goes -/

@[simp] theorem websocketDisconnected_received (websocket : Nat) :
    (e.websocketDisconnected websocket).received = e.received := by
  unfold websocketDisconnected
  dsimp only
  split
  · rfl
  · split <;> rfl

@[simp] theorem websocketDisconnected_sent (websocket : Nat) :
    (e.websocketDisconnected websocket).sent = e.sent := by
  unfold websocketDisconnected
  dsimp only
  split
  · rfl
  · split <;> rfl

@[simp] theorem websocketDisconnected_pending (websocket : Nat) :
    (e.websocketDisconnected websocket).pending = e.pending := by
  unfold websocketDisconnected
  dsimp only
  split
  · rfl
  · split <;> rfl

/-- What is pending when the current WebSocket goes waits for the timer. -/
theorem inv_websocketDisconnected {websocket : Nat} (hcurrent : e.websocket = some websocket)
    (hbounded : e.pending.length ≤ maxPendingUdpDatagrams) :
    (e.websocketDisconnected websocket).Inv := by
  unfold websocketDisconnected
  dsimp only
  rw [if_neg (not_not.mpr hcurrent)]
  split
  · exact {
      bounded := hbounded
      state := iff_of_true rfl rfl
      connected := fun h => absurd h (by simp)
      served := fun _ _ => .inr (Nat.succ_pos _) }
  · next hidle =>
      exact {
        bounded := hbounded
        state := iff_of_true rfl rfl
        connected := fun h => absurd h (by simp)
        served := fun hrunning hpending => absurd ⟨hrunning, hpending⟩ hidle }

theorem Inv.websocketDisconnected (h : e.Inv) (websocket : Nat) :
    (e.websocketDisconnected websocket).Inv := by
  by_cases hcurrent : e.websocket = some websocket
  · exact inv_websocketDisconnected hcurrent h.bounded
  · rw [UdpEndpoint.websocketDisconnected, if_pos hcurrent]
    exact h

@[simp] theorem sendBinaryMessage_received (websocket : Nat) (payload : Bytes) (lost : Bool) :
    (e.sendBinaryMessage websocket payload lost).received = e.received := by
  unfold sendBinaryMessage
  cases lost <;> simp

@[simp] theorem sendBinaryMessage_sent (websocket : Nat) (payload : Bytes) (lost : Bool) :
    (e.sendBinaryMessage websocket payload lost).sent = e.sent ++ [payload] := by
  unfold sendBinaryMessage
  cases lost <;> simp

@[simp] theorem sendBinaryMessage_pending (websocket : Nat) (payload : Bytes) (lost : Bool) :
    (e.sendBinaryMessage websocket payload lost).pending = e.pending := by
  unfold sendBinaryMessage
  cases lost <;> simp

/-! #### A WebSocket comes up -/

/-- The loop moves what is pending to what is sent, in order, as far as it gets. -/
theorem websocketConnected_queue (websocket : Nat) (lost : List Bool) (pending : List Bytes)
    (hpending : e.pending = pending) :
    (websocketConnected websocket lost pending e).received = e.received ∧
      (websocketConnected websocket lost pending e).sent ++
          (websocketConnected websocket lost pending e).pending = e.sent ++ e.pending := by
  induction pending generalizing e lost with
  | nil => exact ⟨rfl, rfl⟩
  | cons payload pending ih =>
      unfold UdpEndpoint.websocketConnected
      split
      · have hrest := @ih
          ({ e with pending := pending }.sendBinaryMessage websocket payload (lost.headD false))
          lost.tail (by simp)
        rw [sendBinaryMessage_received, sendBinaryMessage_sent, sendBinaryMessage_pending] at hrest
        refine ⟨hrest.1, hrest.2.trans ?_⟩
        rw [hpending, List.append_assoc]
        rfl
      · exact ⟨rfl, rfl⟩

/-- The loop ends with nothing pending, or because the connection has been lost. -/
theorem inv_websocketConnected {websocket : Nat} (lost : List Bool) (pending : List Bytes)
    (hpending : e.pending = pending) (hcurrent : e.websocket = some websocket)
    (hstate : e.websocketState = .connected)
    (hbounded : e.pending.length ≤ maxPendingUdpDatagrams) :
    (websocketConnected websocket lost pending e).Inv := by
  induction pending generalizing e lost with
  | nil =>
      exact {
        bounded := hbounded
        state := by simp [websocketConnected, hcurrent, hstate]
        connected := fun _ => hpending
        served := fun _ hne => absurd hpending hne }
  | cons payload pending ih =>
      have hrest : pending.length ≤ maxPendingUdpDatagrams := by
        rw [hpending, List.length_cons] at hbounded
        omega
      rw [websocketConnected, if_pos hcurrent, sendBinaryMessage]
      cases hlost : lost.headD false with
      | false => exact ih _ rfl hcurrent hstate hrest
      | true =>
          -- the WebSocket is not the current one any more, and the loop ends
          have hinv := @inv_websocketDisconnected
            { e with pending := pending, sent := e.sent ++ [payload] } websocket hcurrent hrest
          rw [if_pos rfl]
          cases pending with
          | nil => exact hinv
          | cons payload' pending =>
              rw [websocketConnected, if_neg]
              · exact hinv
              · unfold UdpEndpoint.websocketDisconnected
                dsimp only
                rw [if_neg (not_not.mpr hcurrent)]
                split <;> simp

/-- A late signal of an old WebSocket sends nothing. -/
theorem websocketConnected_of_ne {websocket : Nat} (hold : e.websocket ≠ some websocket)
    (lost : List Bool) (pending : List Bytes) :
    websocketConnected websocket lost pending e = e := by
  cases pending with
  | nil => rfl
  | cons payload pending => rw [websocketConnected, if_neg hold]

/-! #### A datagram arrives -/

theorem enqueue_bounded (h : e.Inv) (payload : Bytes) :
    (e.enqueue payload).pending.length ≤ maxPendingUdpDatagrams := by
  have hbounded := h.bounded
  unfold enqueue
  dsimp only
  rw [List.length_append, List.length_singleton]
  split
  · rw [List.length_tail]
    unfold maxPendingUdpDatagrams at *
    omega
  · omega

theorem accounts_enqueue (payload : Bytes) :
    e.Accounts [payload] { e.enqueue payload with received := e.received ++ [payload] } := by
  refine ⟨rfl, ?_⟩
  unfold enqueue
  dsimp only
  split
  · next hfull =>
      cases hpending : e.pending with
      | nil => exact absurd hfull (by simp [hpending, maxPendingUdpDatagrams])
      | cons oldest pending =>
          exact .inr ⟨oldest, pending, payload, rfl, rfl, hpending ▸ hfull, rfl, rfl⟩
  · exact .inl (List.append_assoc _ _ _).symm

/-- Unless the bridge stops, an endpoint has a WebSocket after `openUdpTunnel`. -/
theorem inv_openUdpTunnel (hbounded : e.pending.length ≤ maxPendingUdpDatagrams)
    (hstate : e.websocket = none ↔ e.websocketState = .unconnected)
    (hconnected : e.websocketState = .connected → e.pending = []) (hrunning : e.running = true) :
    e.openUdpTunnel.Inv := by
  unfold openUdpTunnel
  split
  · next hopen =>
      rw [hrunning, Bool.not_true, Bool.false_or] at hopen
      exact {
        bounded := hbounded
        state := hstate
        connected := hconnected
        served := fun _ _ => .inl (Option.isSome_iff_ne_none.mp hopen) }
  · exact {
      bounded := hbounded
      state := by simp
      connected := fun h => absurd h (by simp)
      served := fun _ _ => .inl (by simp) }

@[simp] theorem openUdpTunnel_received : e.openUdpTunnel.received = e.received := by
  unfold openUdpTunnel
  split <;> rfl

@[simp] theorem openUdpTunnel_sent : e.openUdpTunnel.sent = e.sent := by
  unfold openUdpTunnel
  split <;> rfl

@[simp] theorem openUdpTunnel_pending : e.openUdpTunnel.pending = e.pending := by
  unfold openUdpTunnel
  split <;> rfl

/-- **Step lemma**, a datagram: it is sent at once only when nothing waits. -/
theorem Inv.readyRead (h : e.Inv) (hrunning : e.running = true) (datagram : Datagram)
    (lost : Bool) :
    (e.readyRead datagram lost).Inv ∧
      e.Accounts [datagram.data] (e.readyRead datagram lost) := by
  have hqueue := accounts_enqueue (e := e) datagram.data
  have hroom := enqueue_bounded h datagram.data
  unfold UdpEndpoint.readyRead
  dsimp only
  split
  · -- connected
    next websocket hcurrent hstate =>
      have hempty := h.connected hstate
      refine ⟨?_, ?_, .inl ?_⟩
      · rw [sendBinaryMessage]
        cases lost with
        | false =>
            exact {
              bounded := h.bounded
              state := h.state
              connected := h.connected
              served := h.served }
        | true => exact inv_websocketDisconnected hcurrent h.bounded
      · rw [sendBinaryMessage_received]
      · rw [sendBinaryMessage_sent, sendBinaryMessage_pending]
        simp only [hempty, List.append_nil]
  · -- a WebSocket that is opening or closing
    next websocket hcurrent hstate =>
      refine ⟨?_, hqueue.received, hqueue.queued⟩
      exact {
        bounded := hroom
        state := h.state
        connected := fun hup => absurd hup hstate
        served := fun _ _ => .inl (by simp [enqueue, hcurrent]) }
  · -- no WebSocket
    next hnone =>
      refine ⟨?_, ?_, ?_⟩
      · refine inv_openUdpTunnel hroom h.state (fun hup => ?_) hrunning
        have hdown : e.websocketState = .unconnected := h.state.mp hnone
        exact absurd (hdown.symm.trans hup) (by simp)
      · rw [openUdpTunnel_received]
        exact hqueue.received
      · rw [openUdpTunnel_sent, openUdpTunnel_pending]
        exact hqueue.queued

/-- **Step lemma.** -/
theorem Inv.step (h : e.Inv) (event : UdpEndpointEvent) :
    (e.step event).Inv ∧
      (e.running = true → e.Accounts (arrived event) (e.step event)) := by
  unfold UdpEndpoint.step
  split
  · next hstopped => exact ⟨h, fun hrunning => absurd hrunning (by simpa using hstopped)⟩
  · next hrunning =>
      have hrunning : e.running = true := by simpa using hrunning
      cases event with
      | datagram datagram lost =>
          obtain ⟨hinv, haccounts⟩ := h.readyRead hrunning datagram lost
          exact ⟨hinv, fun _ => haccounts⟩
      | connected websocket lost =>
          dsimp only
          split
          · next hcurrent =>
              split
              · obtain ⟨hreceived, hqueued⟩ :=
                  @websocketConnected_queue { e with websocketState := .connected } websocket lost
                    e.pending rfl
                exact ⟨inv_websocketConnected lost e.pending rfl hcurrent rfl h.bounded,
                  fun _ => .of_eq hreceived hqueued⟩
              · exact ⟨h, fun _ => .of_eq rfl rfl⟩
          · next hold =>
              rw [websocketConnected_of_ne hold]
              exact ⟨h, fun _ => .of_eq rfl rfl⟩
      | closing websocket =>
          dsimp only
          split
          · next hcurrent =>
              refine ⟨?_, fun _ => .of_eq rfl rfl⟩
              exact {
                bounded := h.bounded
                state := by simp [hcurrent.1]
                connected := fun hup => absurd hup (by simp)
                served := h.served }
          · exact ⟨h, fun _ => .of_eq rfl rfl⟩
      | disconnected websocket =>
          exact ⟨h.websocketDisconnected websocket, fun _ => .of_eq (by simp) (by simp)⟩
      | binaryMessageReceived websocket payload =>
          dsimp only [UdpEndpoint.binaryMessageReceived]
          split
          · exact ⟨⟨h.bounded, h.state, h.connected, h.served⟩, fun _ => .of_eq rfl rfl⟩
          · exact ⟨h, fun _ => .of_eq rfl rfl⟩
      | reopenTimeout =>
          dsimp only
          split
          · exact ⟨h, fun _ => .of_eq rfl rfl⟩
          · -- the timer is spent, but a WebSocket is open after it
            exact ⟨inv_openUdpTunnel h.bounded h.state h.connected hrunning,
              fun _ => .of_eq (by simp) (by simp)⟩
      | stop =>
          have hstopped : ({ e with running := false } : UdpEndpoint).Inv :=
            ⟨h.bounded, h.state, h.connected, fun hup => absurd hup (by simp)⟩
          dsimp only [UdpEndpoint.stop]
          split
          · exact ⟨hstopped.websocketDisconnected _, fun _ => .of_eq (by simp) (by simp)⟩
          · exact ⟨hstopped, fun _ => .of_eq rfl rfl⟩

/-- What has been sent and what waits stays a subsequence of what has been received. -/
theorem Accounts.sublist {e' : UdpEndpoint} {arrived : List Bytes} (h : e.Accounts arrived e')
    (hsublist : (e.sent ++ e.pending).Sublist e.received) :
    (e'.sent ++ e'.pending).Sublist e'.received := by
  rw [h.received]
  rcases h.queued with hkept | ⟨oldest, pending, payload, rfl, hpending, -, hsent, hqueue⟩
  · rw [hkept]
    exact hsublist.append (List.Sublist.refl _)
  · rw [hsent, hqueue, ← List.append_assoc]
    refine List.Sublist.append (List.Sublist.trans ?_ hsublist) (List.Sublist.refl _)
    rw [hpending]
    exact (List.Sublist.refl _).append (List.sublist_cons_self _ _)

/-- An endpoint that has been stopped does nothing. -/
theorem step_stopped (hstopped : e.running = false) (event : UdpEndpointEvent) :
    e.step event = e := by
  unfold step
  rw [if_pos (by rw [hstopped]; rfl)]

/-- **Run lemma.** -/
theorem inv_run (es : List UdpEndpointEvent) :
    (run step bound es).Inv ∧
      ((run step bound es).sent ++ (run step bound es).pending).Sublist
        (run step bound es).received := by
  refine @run_invariant _ _ step (fun _ _ => True)
    (fun e => e.Inv ∧ (e.sent ++ e.pending).Sublist e.received) ?_ _
    ⟨inv_bound, List.Sublist.refl _⟩ es (AllSteps.of_forall (fun _ _ => trivial) _)
  rintro e event - ⟨h, hsublist⟩
  refine ⟨(h.step event).1, ?_⟩
  cases hrunning : e.running with
  | true => exact ((h.step event).2 hrunning).sublist hsublist
  | false => rwa [step_stopped hrunning]

end UdpEndpoint

open UdpEndpoint in
/-- **Queue.** Whatever happens to an endpoint, the messages sent are a subsequence of the
datagrams received, with what waits behind them, and no more than the bound waits. A
datagram is dropped only as the oldest of a full queue, for one that has just arrived. While
the bridge runs, what waits has a WebSocket whose `connected` or `disconnected` is still to
come, or a timer that opens one. -/
theorem udp_endpoint_keeps_order (es : List UdpEndpointEvent) :
    ((run step bound es).sent ++ (run step bound es).pending).Sublist
        (run step bound es).received ∧
      (run step bound es).pending.length ≤ maxPendingUdpDatagrams ∧
      ((run step bound es).running = true → (run step bound es).pending ≠ [] →
        (run step bound es).websocket ≠ none ∧
            ((run step bound es).websocketState = .connecting ∨
              (run step bound es).websocketState = .closing) ∨
          0 < (run step bound es).reopens) ∧
      AllSteps step (fun e event => e.running = true → e.Accounts (arrived event) (e.step event))
        bound es := by
  obtain ⟨hinv, hsublist⟩ := inv_run es
  refine ⟨hsublist, hinv.bounded, fun hrunning hpending => ?_, ?_⟩
  · rcases hinv.served hrunning hpending with hopen | htimer
    · cases hstate : (run step bound es).websocketState with
      | unconnected => exact absurd (hinv.state.mpr hstate) hopen
      | connecting => exact .inl ⟨hopen, .inl rfl⟩
      | connected => exact absurd (hinv.connected hstate) hpending
      | closing => exact .inl ⟨hopen, .inr rfl⟩
    · exact .inr htimer
  · exact allSteps_iff.mpr fun pre event _ _ hrunning => ((inv_run pre).1.step event).2 hrunning

end GilStreaming.Client
