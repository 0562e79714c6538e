import GilStreaming.Lib.Trace

/-!
# GilStreaming.Client.TcpTunnel

One TCP connection through the relay, `openTcpTunnel` and `closeTcpTunnel` of
`app/backend/relaybridge.cpp`.

Bytes of the local socket go out as WebSocket messages, and wait in `pending` until the
WebSocket is connected. Everything runs on one thread; an event is a signal of one of the
two sockets or of the timer, or the bridge that stops. What has gone through is kept beside
the source's own fields: the bytes read and written, and the messages sent.
-/

namespace GilStreaming.Client

open GilStreaming.Trace

/-- `QByteArray`. -/
abbrev Bytes := List UInt8

/-- `MAX_PENDING_TCP_BYTES`. -/
def maxPendingTcpBytes : Nat := 1024 * 1024

/-- `QAbstractSocket::SocketState`, with one state before the connection is up. -/
inductive SocketState
  | unconnected
  | connecting
  | connected
  | closing
  deriving DecidableEq, Repr

/-- `RelayBridge::TcpTunnel`. -/
structure TcpTunnel where
  /-- `local->state()`. -/
  localState : SocketState
  /-- `websocket->state()`. -/
  websocketState : SocketState
  pending : Bytes
  closing : Bool
  /-- `m_TcpTunnels` contains it. -/
  listed : Bool
  /-- The singleshot timer of an upstream EOF is running. -/
  lingering : Bool
  /-- `deleteLater` has been called. -/
  deleted : Bool
  /-- What has been read from the local socket. -/
  read : Bytes
  /-- What has been written to it. -/
  written : Bytes
  /-- The binary messages sent. -/
  sent : List Bytes
  deriving DecidableEq, Repr

inductive TcpTunnelEvent
  | readyRead (payload : Bytes)
  | localDisconnected
  | websocketConnected
  /-- The peer closes the WebSocket, which is answered. -/
  | websocketClosing
  /-- `flushed` says that nothing is left to write to the local socket, which is then
  disconnected at once. -/
  | websocketDisconnected (flushed : Bool)
  | binaryMessageReceived (payload : Bytes)
  | lingerTimeout
  /-- `RelayBridge::stop` closes its tunnels. -/
  | stop
  deriving DecidableEq, Repr

namespace TcpTunnel

/-- `openTcpTunnel`. -/
def opened : TcpTunnel where
  localState := .connected
  websocketState := .connecting
  pending := []
  closing := false
  listed := true
  lingering := false
  deleted := false
  read := []
  written := []
  sent := []

def closeTcpTunnel (t : TcpTunnel) : TcpTunnel :=
  if t.closing then t
  else
    { t with
      closing := true
      listed := false
      localState := .unconnected
      websocketState := .unconnected
      deleted := true }

/-- `websocket->sendBinaryMessage`. -/
def sendBinaryMessage (t : TcpTunnel) (payload : Bytes) : TcpTunnel :=
  { t with sent := t.sent ++ [payload] }

/-- The handler of `readyRead`. -/
def readyRead (t : TcpTunnel) (payload : Bytes) : TcpTunnel :=
  let t := { t with read := t.read ++ payload }
  if t.websocketState = .connected then t.sendBinaryMessage payload
  else if t.pending.length + payload.length ≤ maxPendingTcpBytes then
    { t with pending := t.pending ++ payload }
  else t.closeTcpTunnel

/-- The handler of the WebSocket's `connected`. -/
def websocketConnected (t : TcpTunnel) : TcpTunnel :=
  if t.pending = [] then t else { t.sendBinaryMessage t.pending with pending := [] }

/-- The handler of the WebSocket's `disconnected`. -/
def websocketDisconnected (t : TcpTunnel) (flushed : Bool) : TcpTunnel :=
  if t.closing then t
  else
    -- `disconnectFromHost` waits for what is still to be written
    let localState : SocketState :=
      if t.localState = .connected ∧ flushed = false then .closing else .unconnected
    let t := { t with closing := true, listed := false, localState := localState }
    if t.localState = .unconnected then { t with deleted := true } else { t with lingering := true }

/-- The local socket has been disconnected. -/
def localDisconnected (t : TcpTunnel) : TcpTunnel :=
  { t.closeTcpTunnel with deleted := t.closeTcpTunnel.deleted || t.lingering }

/-- A signal is handled. None is emitted by a socket in whose state it cannot be. -/
def step (t : TcpTunnel) : TcpTunnelEvent → TcpTunnel
  | .readyRead payload => if t.localState = .unconnected then t else t.readyRead payload
  | .localDisconnected =>
    if t.localState = .unconnected then t
    else { t with localState := .unconnected }.localDisconnected
  | .websocketConnected =>
    if t.websocketState = .connecting then
      { t with websocketState := .connected }.websocketConnected
    else t
  | .websocketClosing =>
    if t.websocketState = .connected then { t with websocketState := .closing } else t
  | .websocketDisconnected flushed =>
    if t.websocketState = .unconnected then t
    else { t with websocketState := .unconnected }.websocketDisconnected flushed
  | .binaryMessageReceived payload =>
    if t.websocketState = .connected ∧ t.localState = .connected then
      { t with written := t.written ++ payload }
    else t
  | .lingerTimeout =>
    if t.lingering then { t with localState := .unconnected, deleted := true } else t
  | .stop => if t.listed then t.closeTcpTunnel else t

/-! ### The stream -/

variable {t : TcpTunnel}

/-- What is sent, and what waits, is what has been read. -/
structure Inv (t : TcpTunnel) : Prop where
  /-- Nothing is lost before the tunnel closes. -/
  kept : t.closing = false → t.sent.flatten ++ t.pending = t.read
  sent : t.sent.flatten <+: t.read
  /-- A WebSocket that is connected, or will be, is that of a tunnel that is not closing. -/
  live : t.websocketState = .connected ∨ t.websocketState = .connecting → t.closing = false
  connected : t.websocketState = .connected → t.pending = []
  bounded : t.pending.length ≤ maxPendingTcpBytes

/-- The read is one that `pending` has no room for. -/
def Overflows (t : TcpTunnel) : TcpTunnelEvent → Prop
  | .readyRead payload => t.localState ≠ .unconnected ∧ t.websocketState ≠ .connected ∧
    maxPendingTcpBytes < t.pending.length + payload.length
  | _ => False

theorem inv_opened : opened.Inv where
  kept := fun _ => rfl
  sent := List.nil_prefix
  live := fun _ => rfl
  connected := fun _ => rfl
  bounded := Nat.zero_le _

theorem Inv.closeTcpTunnel (h : t.Inv) : t.closeTcpTunnel.Inv := by
  unfold TcpTunnel.closeTcpTunnel
  split
  · exact h
  · exact {
      kept := fun hopen => absurd hopen (by simp)
      sent := h.sent
      live := fun hlive => absurd hlive (by simp)
      connected := fun hconnected => absurd hconnected (by simp)
      bounded := h.bounded }

/-- A tunnel that is closed and has read more. -/
theorem closeTcpTunnel_inv_of_read {read : Bytes} (hsent : t.sent.flatten <+: read)
    (hlive : t.websocketState = .connected ∨ t.websocketState = .connecting → t.closing = false)
    (hconnected : t.websocketState ≠ .connected)
    (hbounded : t.pending.length ≤ maxPendingTcpBytes) :
    ({ t with read := read }.closeTcpTunnel).Inv := by
  unfold TcpTunnel.closeTcpTunnel
  split
  · next hclosing =>
      exact {
        kept := fun hopen => absurd (hopen.symm.trans hclosing) (by simp)
        sent := hsent
        live := hlive
        connected := fun h => absurd h hconnected
        bounded := hbounded }
  · exact {
      kept := fun hopen => absurd hopen (by simp)
      sent := hsent
      live := fun h => absurd h (by simp)
      connected := fun h => absurd h (by simp)
      bounded := hbounded }

/-- **Step lemma**, a read: it is sent, waits, or closes the tunnel. -/
theorem Inv.readyRead (h : t.Inv) (payload : Bytes) : (t.readyRead payload).Inv := by
  unfold TcpTunnel.readyRead
  dsimp only
  split
  · -- connected: nothing waits, and the payload follows what has been sent
    next hconnected =>
      have hopen := h.live (.inl hconnected)
      have hkept : t.sent.flatten = t.read := by
        rw [← h.kept hopen, h.connected hconnected, List.append_nil]
      have hflatten : (t.sent ++ [payload]).flatten = t.read ++ payload := by
        rw [List.flatten_append, hkept, List.flatten_singleton]
      exact {
        kept := fun _ => by
          simp only [sendBinaryMessage]
          rw [hflatten, h.connected hconnected, List.append_nil]
        sent := hflatten ▸ List.prefix_refl _
        live := h.live
        connected := h.connected
        bounded := h.bounded }
  · next hconnected =>
      have hsent : t.sent.flatten <+: t.read ++ payload :=
        h.sent.trans (List.prefix_append _ _)
      split
      · next hroom =>
          exact {
            kept := fun hopen => by
              dsimp only
              rw [← List.append_assoc, h.kept hopen]
            sent := hsent
            live := h.live
            connected := fun hup => absurd hup hconnected
            bounded := by rwa [List.length_append] }
      · exact closeTcpTunnel_inv_of_read hsent h.live hconnected h.bounded

/-- **Step lemma**, the connection comes up: what has waited is sent. -/
theorem Inv.websocketConnected (h : t.Inv) (hconnecting : t.websocketState = .connecting) :
    ({ t with websocketState := .connected }.websocketConnected).Inv := by
  have hopen := h.live (.inr hconnecting)
  unfold TcpTunnel.websocketConnected
  split
  · next hempty =>
      exact {
        kept := h.kept
        sent := h.sent
        live := fun _ => hopen
        connected := fun _ => hempty
        bounded := h.bounded }
  · have hflatten : (t.sent ++ [t.pending]).flatten = t.read := by
      rw [List.flatten_append, List.flatten_singleton, h.kept hopen]
    exact {
      kept := fun _ => (List.append_nil _).trans hflatten
      sent := hflatten ▸ List.prefix_refl _
      live := fun _ => hopen
      connected := fun _ => rfl
      bounded := Nat.zero_le _ }

/-- A tunnel whose WebSocket is gone. -/
theorem Inv.of_unconnected {t' : TcpTunnel} (h : t.Inv) (hsent : t'.sent = t.sent)
    (hread : t'.read = t.read) (hpending : t'.pending = t.pending)
    (hclosing : t'.closing = false → t.closing = false)
    (hlive : t'.websocketState = .connected ∨ t'.websocketState = .connecting → False) :
    t'.Inv where
  kept := fun hopen => by rw [hsent, hpending, hread, h.kept (hclosing hopen)]
  sent := by rw [hsent, hread]; exact h.sent
  live := fun hup => (hlive hup).elim
  connected := fun hup => (hlive (.inl hup)).elim
  bounded := by rw [hpending]; exact h.bounded

/-- A tunnel of which only the local socket, or nothing, has changed. -/
theorem Inv.of_eq {t' : TcpTunnel} (h : t.Inv) (hsent : t'.sent = t.sent)
    (hread : t'.read = t.read) (hpending : t'.pending = t.pending)
    (hclosing : t'.closing = t.closing) (hwebsocket : t'.websocketState = t.websocketState) :
    t'.Inv where
  kept := by rw [hsent, hpending, hread, hclosing]; exact h.kept
  sent := by rw [hsent, hread]; exact h.sent
  live := by rw [hwebsocket, hclosing]; exact h.live
  connected := by rw [hwebsocket, hpending]; exact h.connected
  bounded := by rw [hpending]; exact h.bounded

/-- **Step lemma.** -/
theorem Inv.step (h : t.Inv) (e : TcpTunnelEvent) : (t.step e).Inv := by
  unfold TcpTunnel.step
  cases e with
  | readyRead payload =>
      dsimp only
      split
      · exact h
      · exact h.readyRead payload
  | localDisconnected =>
      dsimp only
      split
      · exact h
      · have hlocal : ({ t with localState := .unconnected } : TcpTunnel).Inv :=
          h.of_eq rfl rfl rfl rfl rfl
        exact hlocal.closeTcpTunnel.of_eq rfl rfl rfl rfl rfl
  | websocketConnected =>
      dsimp only
      split
      · next hconnecting => exact h.websocketConnected hconnecting
      · exact h
  | websocketClosing =>
      dsimp only
      split
      · -- from here on reads are put into `pending` again, and never sent
        exact h.of_unconnected rfl rfl rfl id (by simp)
      · exact h
  | websocketDisconnected flushed =>
      dsimp only
      split
      · exact h
      · unfold TcpTunnel.websocketDisconnected
        dsimp only
        split
        · exact h.of_unconnected rfl rfl rfl id (by simp)
        · -- an upstream EOF: the local socket may still have to be flushed
          split <;> exact h.of_unconnected rfl rfl rfl (by simp) (by simp)
  | binaryMessageReceived payload =>
      dsimp only
      split
      · exact h.of_eq rfl rfl rfl rfl rfl
      · exact h
  | lingerTimeout =>
      dsimp only
      split
      · exact h.of_eq rfl rfl rfl rfl rfl
      · exact h
  | stop =>
      dsimp only
      split
      · exact h.closeTcpTunnel
      · exact h

/-- A read for which there is no room leaves the tunnel closing, and nothing more is sent. -/
theorem closing_of_overflows {e : TcpTunnelEvent} (h : t.Overflows e) :
    (t.step e).closing = true ∧ (t.step e).sent = t.sent := by
  cases e with
  | readyRead payload =>
      obtain ⟨hlocal, hconnected, hroom⟩ := h
      simp only [TcpTunnel.step, if_neg hlocal, TcpTunnel.readyRead, if_neg hconnected,
        if_neg (Nat.not_le.mpr hroom), TcpTunnel.closeTcpTunnel]
      split
      · next hclosing => exact ⟨hclosing, rfl⟩
      · exact ⟨rfl, rfl⟩
  | _ => exact h.elim

/-- **Run lemma.** -/
theorem inv_run (es : List TcpTunnelEvent) : (run step opened es).Inv :=
  @run_invariant _ _ step (fun _ _ => True) Inv (fun _ e _ h => h.step e) _ inv_opened es
    (AllSteps.of_forall (fun _ _ => trivial) _)

end TcpTunnel

open TcpTunnel in
/-- **Stream.** Whatever happens to a tunnel, the messages sent are a prefix of the bytes
read, and all of them while the WebSocket is connected; what waits is bounded, and a read
that would pass the bound closes the tunnel. Until a tunnel closes, nothing is dropped. -/
theorem tcp_tunnel_keeps_stream (es : List TcpTunnelEvent) :
    (run step opened es).sent.flatten <+: (run step opened es).read ∧
      ((run step opened es).websocketState = .connected →
        (run step opened es).sent.flatten = (run step opened es).read) ∧
      ((run step opened es).closing = false →
        (run step opened es).sent.flatten ++ (run step opened es).pending =
          (run step opened es).read) ∧
      (run step opened es).pending.length ≤ maxPendingTcpBytes ∧
      AllSteps step (fun t e => t.Overflows e → (t.step e).closing = true) opened es := by
  have hinv := inv_run es
  refine ⟨hinv.sent, fun hup => ?_, hinv.kept, hinv.bounded, ?_⟩
  · rw [← hinv.kept (hinv.live (.inl hup)), hinv.connected hup, List.append_nil]
  · exact allSteps_iff.mpr fun _ _ _ _ h => (closing_of_overflows h).1

end GilStreaming.Client
