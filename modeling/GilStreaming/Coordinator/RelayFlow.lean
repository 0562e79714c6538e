import GilStreaming.Coordinator.Relay

/-!
# GilStreaming.Coordinator.RelayFlow

What the two copy loops of a relay take from one socket and hand to the other.

Each loop holds at most one payload between its read and its write. What it has handed
over, with what it holds, is what it has taken, whatever the other loop, the handler and
the watcher do in between. The loop that reads from the VM passes over an empty read, which
for UDP is an empty datagram.
-/

namespace GilStreaming.Coordinator

open GilStreaming.Trace

/-- The payload that is read and still to be written. -/
def Uplink.inFlight : Uplink → List Payload
  | .writing payload => [payload]
  | _ => []

/-- The chunk that is read and still to be written. -/
def Downlink.inFlight : Downlink → List Payload
  | .writing chunk _ => [chunk]
  | _ => []

@[simp] theorem Uplink.inFlight_reading : Uplink.reading.inFlight = [] := rfl

@[simp] theorem Uplink.inFlight_writing (payload : Payload) :
    (Uplink.writing payload).inFlight = [payload] := rfl

@[simp] theorem Uplink.inFlight_ended : Uplink.ended.inFlight = [] := rfl

@[simp] theorem Downlink.inFlight_reading : Downlink.reading.inFlight = [] := rfl

@[simp] theorem Downlink.inFlight_writing (chunk : Payload) (err : Option RelayError) :
    (Downlink.writing chunk err).inFlight = [chunk] := rfl

@[simp] theorem Downlink.inFlight_ended : Downlink.ended.inFlight = [] := rfl

/-- The longest binary message that the first loop does not end for. -/
def RelayTransport.maxMessage : RelayTransport → Nat
  | .tcp => relayMaxMessageSize
  | .udp => maxDatagramSize

/-- What is read from the VM fits the buffer. -/
def SessionEvent.Fits (transport : RelayTransport) : SessionEvent → Prop
  | .upstreamRead chunk _ => chunk.length ≤ transport.bufferSize
  | _ => True

instance (transport : RelayTransport) : (e : SessionEvent) → Decidable (e.Fits transport)
  | .upstreamRead chunk _ => inferInstanceAs (Decidable (chunk.length ≤ transport.bufferSize))
  | .clientRead _ | .upstreamWrite _ _ | .clientWrite _ | .handler _ _ | .watcherDone
  | .watcher _ => isTrue trivial

def Sent.toUpstream? : Sent → Option Payload
  | .toUpstream payload => some payload
  | _ => none

def Sent.toClient? : Sent → Option Payload
  | .toClient payload => some payload
  | _ => none

namespace RelaySession

/-- What has been written to the VM. -/
def toUpstream (s : RelaySession) : List Payload := s.sent.filterMap Sent.toUpstream?

/-- The binary messages that have been sent to the client. -/
def toClient (s : RelaySession) : List Payload := s.sent.filterMap Sent.toClient?

/-- The binary message that `client.ReadMessage` returns, and that goes on to the VM. -/
def receives (s : RelaySession) : SessionEvent → Option Payload
  | .clientRead (.ok (true, payload)) =>
    if s.uplink = .reading ∧ payload.length ≤ s.transport.maxMessage then some payload else none
  | _ => none

/-- The chunk that `upstream.Read` returns. -/
def takes (s : RelaySession) : SessionEvent → Option Payload
  | .upstreamRead chunk err =>
    if s.downlink = .reading ∧ s.upstreamOpen = true ∧ (chunk ≠ [] ∨ err = none) then some chunk
    else none
  | _ => none

/-- `upstream.Write` returns an error. -/
def WriteFails (s : RelaySession) : SessionEvent → Prop
  | .upstreamWrite _ err => s.uplink.inFlight ≠ [] ∧ (s.upstreamOpen = false ∨ err ≠ none)
  | _ => False

instance (s : RelaySession) : (e : SessionEvent) → Decidable (s.WriteFails e)
  | .upstreamWrite _ err => inferInstanceAs (Decidable
      (s.uplink.inFlight ≠ [] ∧ (s.upstreamOpen = false ∨ err ≠ none)))
  | .clientRead _ | .upstreamRead _ _ | .clientWrite _ | .handler _ _ | .watcherDone | .watcher _ =>
    isFalse id

/-- `client.WriteMessage` returns an error. -/
def SendFails (s : RelaySession) : SessionEvent → Prop
  | .clientWrite err => s.downlink.inFlight ≠ [] ∧ (s.clientOpen = false ∨ err ≠ none)
  | _ => False

instance (s : RelaySession) : (e : SessionEvent) → Decidable (s.SendFails e)
  | .clientWrite err => inferInstanceAs (Decidable
      (s.downlink.inFlight ≠ [] ∧ (s.clientOpen = false ∨ err ≠ none)))
  | .clientRead _ | .upstreamWrite _ _ | .upstreamRead _ _ | .handler _ _ | .watcherDone |
    .watcher _ => isFalse id

variable {s : RelaySession}

/-! ### What an operation leaves alone -/

@[simp] theorem toUpstream_send_toClient (payload : Payload) :
    (s.send (.toClient payload)).toUpstream = s.toUpstream := by
  simp [toUpstream, send, Sent.toUpstream?]

@[simp] theorem toUpstream_send_toUpstream (payload : Payload) :
    (s.send (.toUpstream payload)).toUpstream = s.toUpstream ++ [payload] := by
  simp [toUpstream, send, Sent.toUpstream?]

@[simp] theorem toClient_send_toClient (payload : Payload) :
    (s.send (.toClient payload)).toClient = s.toClient ++ [payload] := by
  simp [toClient, send, Sent.toClient?]

@[simp] theorem toClient_send_toUpstream (payload : Payload) :
    (s.send (.toUpstream payload)).toClient = s.toClient := by
  simp [toClient, send, Sent.toClient?]

/-- The step belongs to the other loop, to the handler or to the watcher. -/
structure UplinkKept (s s' : RelaySession) : Prop where
  transport : s'.transport = s.transport
  uplink : s'.uplink = s.uplink
  toUpstream : s'.toUpstream = s.toUpstream

structure DownlinkKept (s s' : RelaySession) : Prop where
  transport : s'.transport = s.transport
  downlink : s'.downlink = s.downlink
  toClient : s'.toClient = s.toClient

theorem UplinkKept.refl (s : RelaySession) : s.UplinkKept s := ⟨rfl, rfl, rfl⟩

theorem DownlinkKept.refl (s : RelaySession) : s.DownlinkKept s := ⟨rfl, rfl, rfl⟩

/-- What the first loop does shows in its own fields and in what goes to the VM. -/
theorem downlinkKept_clientRead (message : Except RelayError (Bool × Payload)) :
    s.DownlinkKept (s.clientRead message) := by
  unfold clientRead
  split
  · split
    · exact ⟨rfl, rfl, rfl⟩
    · split
      · exact ⟨rfl, rfl, rfl⟩
      · split
        · exact .refl s
        · split <;> split <;> exact ⟨rfl, rfl, rfl⟩
  · exact .refl s

theorem downlinkKept_upstreamWrite (count : Nat) (err : Option RelayError) :
    s.DownlinkKept (s.upstreamWrite count err) := by
  unfold upstreamWrite
  split
  · next payload _ =>
      split
      · exact ⟨rfl, rfl, rfl⟩
      · split
        · dsimp only
          have hsent : s.DownlinkKept (if payload.take count = [] then s
              else s.send (.toUpstream (payload.take count))) := by
            split
            · exact .refl s
            · exact ⟨rfl, rfl, toClient_send_toUpstream _⟩
          generalize (if payload.take count = [] then s
            else s.send (.toUpstream (payload.take count))) = s' at hsent
          cases err <;> exact ⟨hsent.transport, hsent.downlink, hsent.toClient⟩
        · cases err
          · exact ⟨rfl, rfl, toClient_send_toUpstream _⟩
          · exact ⟨rfl, rfl, rfl⟩
  · exact .refl s

theorem uplinkKept_upstreamRead (chunk : Payload) (err : Option RelayError) :
    s.UplinkKept (s.upstreamRead chunk err) := by
  unfold upstreamRead
  split
  · split
    · exact ⟨rfl, rfl, rfl⟩
    · dsimp only
      split
      · exact ⟨rfl, rfl, rfl⟩
      · cases err <;> exact ⟨rfl, rfl, rfl⟩
  · exact .refl s

theorem uplinkKept_clientWrite (err : Option RelayError) :
    s.UplinkKept (s.clientWrite err) := by
  unfold clientWrite
  split
  · next chunk readErr _ =>
      split
      · exact ⟨rfl, rfl, rfl⟩
      · cases err with
        | some err => exact ⟨rfl, rfl, rfl⟩
        | none => cases readErr <;> exact ⟨rfl, rfl, toUpstream_send_toClient _⟩
  · exact .refl s

/-- A Close frame is no payload. -/
theorem kept_writeClose (controlSent : Bool) (code : Nat) (text : String) :
    s.UplinkKept (s.writeClose controlSent code text) ∧
      s.DownlinkKept (s.writeClose controlSent code text) := by
  unfold writeClose
  split
  · exact ⟨⟨rfl, rfl, by simp [toUpstream, send, Sent.toUpstream?]⟩,
      ⟨rfl, rfl, by simp [toClient, send, Sent.toClient?]⟩⟩
  · exact ⟨.refl s, .refl s⟩

theorem kept_handlerStep (controlSent timedOut : Bool) :
    s.UplinkKept (s.handlerStep controlSent timedOut) ∧
      s.DownlinkKept (s.handlerStep controlSent timedOut) := by
  unfold handlerStep
  split
  · split
    · exact ⟨.refl s, .refl s⟩
    · next result results _ =>
        dsimp only
        split
        · obtain ⟨hup, hdown⟩ :=
            @kept_writeClose { s with results := results } controlSent 1000 "upstream closed"
          exact ⟨⟨hup.transport, hup.uplink, hup.toUpstream⟩,
            ⟨hdown.transport, hdown.downlink, hdown.toClient⟩⟩
        · exact ⟨⟨rfl, rfl, rfl⟩, ⟨rfl, rfl, rfl⟩⟩
  · split
    · split <;> exact ⟨⟨rfl, rfl, rfl⟩, ⟨rfl, rfl, rfl⟩⟩
    · exact ⟨⟨rfl, rfl, rfl⟩, ⟨rfl, rfl, rfl⟩⟩
  · exact ⟨⟨rfl, rfl, rfl⟩, ⟨rfl, rfl, rfl⟩⟩
  · exact ⟨⟨rfl, rfl, rfl⟩, ⟨rfl, rfl, rfl⟩⟩
  · exact ⟨⟨rfl, rfl, rfl⟩, ⟨rfl, rfl, rfl⟩⟩
  · exact ⟨.refl s, .refl s⟩

theorem kept_watcherStep (controlSent : Bool) :
    s.UplinkKept (s.watcherStep controlSent) ∧ s.DownlinkKept (s.watcherStep controlSent) := by
  unfold watcherStep
  split
  · obtain ⟨hup, hdown⟩ := @kept_writeClose s controlSent 1008 "lease expired"
    exact ⟨⟨hup.transport, hup.uplink, hup.toUpstream⟩,
      ⟨hdown.transport, hdown.downlink, hdown.toClient⟩⟩
  · exact ⟨⟨rfl, rfl, rfl⟩, ⟨rfl, rfl, rfl⟩⟩
  · exact ⟨⟨rfl, rfl, rfl⟩, ⟨rfl, rfl, rfl⟩⟩
  · exact ⟨.refl s, .refl s⟩

/-- The steps in which the first loop moves. -/
theorem uplinkKept_step (e : SessionEvent) (hread : ∀ message, e ≠ .clientRead message)
    (hwrite : ∀ count err, e ≠ .upstreamWrite count err) : s.UplinkKept (s.step e) := by
  cases e with
  | clientRead message => exact absurd rfl (hread message)
  | upstreamWrite count err => exact absurd rfl (hwrite count err)
  | upstreamRead chunk err => exact uplinkKept_upstreamRead chunk err
  | clientWrite err => exact uplinkKept_clientWrite err
  | handler controlSent timedOut => exact (kept_handlerStep controlSent timedOut).1
  | watcherDone => rw [step]; split <;> exact ⟨rfl, rfl, rfl⟩
  | watcher controlSent => exact (kept_watcherStep controlSent).1

/-- The steps in which the second loop moves. -/
theorem downlinkKept_step (e : SessionEvent) (hread : ∀ chunk err, e ≠ .upstreamRead chunk err)
    (hwrite : ∀ err, e ≠ .clientWrite err) : s.DownlinkKept (s.step e) := by
  cases e with
  | clientRead message => exact downlinkKept_clientRead message
  | upstreamWrite count err => exact downlinkKept_upstreamWrite count err
  | upstreamRead chunk err => exact absurd rfl (hread chunk err)
  | clientWrite err => exact absurd rfl (hwrite err)
  | handler controlSent timedOut => exact (kept_handlerStep controlSent timedOut).2
  | watcherDone => rw [step]; split <;> exact ⟨rfl, rfl, rfl⟩
  | watcher controlSent => exact (kept_watcherStep controlSent).2

theorem step_transport (e : SessionEvent) : (s.step e).transport = s.transport := by
  cases e with
  | clientRead message => exact (downlinkKept_clientRead message).transport
  | upstreamWrite count err => exact (downlinkKept_upstreamWrite count err).transport
  | _ => exact (uplinkKept_step _ (by simp) (by simp)).transport

/-! ### From the client to the VM -/

/-- The step keeps the flow from the client: what is handed over, with what is held, grows
by what is received. -/
def UplinkFlows (s : RelaySession) (e : SessionEvent) : Prop :=
  (s.step e).toUpstream ++ (s.step e).uplink.inFlight =
    s.toUpstream ++ s.uplink.inFlight ++ (s.receives e).toList

/-- The same of the bytes, where a payload may be written in parts. -/
def UplinkFlowsBytes (s : RelaySession) (e : SessionEvent) : Prop :=
  ((s.step e).toUpstream ++ (s.step e).uplink.inFlight).flatten =
    (s.toUpstream ++ s.uplink.inFlight).flatten ++ ((s.receives e).toList).flatten

theorem UplinkKept.flows {e : SessionEvent} (h : s.UplinkKept (s.step e))
    (hnone : s.receives e = none) : s.UplinkFlows e := by
  rw [UplinkFlows, h.uplink, h.toUpstream, hnone, Option.toList_none, List.append_nil]

theorem UplinkFlows.bytes {e : SessionEvent} (h : s.UplinkFlows e) : s.UplinkFlowsBytes e := by
  rw [UplinkFlowsBytes, h, List.flatten_append]

theorem receives_eq_none (hbusy : s.uplink ≠ .reading) (e : SessionEvent) :
    s.receives e = none := by
  unfold receives
  split
  · exact if_neg fun h => hbusy h.1
  · rfl

theorem maxMessage_le (transport : RelayTransport) :
    transport.maxMessage ≤ relayMaxMessageSize := by
  cases transport <;> decide

/-- A message that is received is held; only an empty chunk of a stream is not. -/
theorem uplinkFlows_clientRead (message : Except RelayError (Bool × Payload)) :
    s.UplinkFlows (.clientRead message) ∨
      s.transport = .tcp ∧ s.UplinkFlowsBytes (.clientRead message) := by
  by_cases hreading : s.uplink = .reading
  · simp only [UplinkFlows, UplinkFlowsBytes, step, clientRead, receives, hreading]
    rcases message with err | ⟨binary, payload⟩
    · exact .inl (by simp [endUplink, toUpstream])
    · dsimp only
      split
      · -- `ReadMessage` refuses the message
        next hlarge =>
          have hmax := maxMessage_le s.transport
          have hnot : ¬ payload.length ≤ s.transport.maxMessage := by omega
          refine .inl ?_
          cases binary <;> simp [endUplink, toUpstream, hnot]
      · next hsmall =>
          have hle : payload.length ≤ relayMaxMessageSize := Nat.not_lt.mp hsmall
          cases binary with
          | false => exact .inl (by simp [hreading])
          | true =>
              cases htransport : s.transport with
              | tcp =>
                  by_cases hempty : payload = []
                  · refine .inr ⟨rfl, ?_⟩
                    simp [hempty, hreading, RelayTransport.maxMessage]
                  · refine .inl ?_
                    simp [hempty, hle, RelayTransport.maxMessage, toUpstream]
              | udp =>
                  refine .inl ?_
                  by_cases hsize : payload.length ≤ maxDatagramSize
                  · simp [hsize, Nat.not_lt.mpr hsize, RelayTransport.maxMessage,
                      toUpstream]
                  · simp [hsize, Nat.not_le.mp hsize, RelayTransport.maxMessage, endUplink,
                      toUpstream]
  · refine .inl (UplinkKept.flows ?_ (receives_eq_none hreading _))
    simp only [step, clientRead]
    exact .refl s

/-- **Step lemma**, for messages: a payload that is written is one datagram. -/
theorem uplinkFlows_step (htransport : s.transport = .udp) {e : SessionEvent}
    (hwrites : ¬ s.WriteFails e) : s.UplinkFlows e := by
  cases e with
  | clientRead message =>
      rcases uplinkFlows_clientRead (s := s) message with h | ⟨htcp, -⟩
      · exact h
      · exact absurd (htransport.symm.trans htcp) (by simp)
  | upstreamWrite count err =>
      cases hwriting : s.uplink with
      | writing payload =>
          rw [WriteFails, hwriting] at hwrites
          obtain ⟨hopen, rfl⟩ : s.upstreamOpen = true ∧ err = none := by
            simpa using hwrites
          simp [UplinkFlows, step, upstreamWrite, hwriting, hopen, htransport, receives,
            toUpstream, send, Sent.toUpstream?]
      | _ => simp [UplinkFlows, step, upstreamWrite, hwriting, receives]
  | _ => exact (uplinkKept_step _ (by simp) (by simp)).flows rfl

/-- One turn of `writeAll`. -/
theorem upstreamWrite_tcp (htransport : s.transport = .tcp) {payload : Payload}
    (hwriting : s.uplink = .writing payload) (hopen : s.upstreamOpen = true) (count : Nat) :
    s.upstreamWrite count none =
      { (if payload.take count = [] then s else s.send (.toUpstream (payload.take count))) with
        uplink :=
          if payload.drop count = [] then .reading else .writing (payload.drop count) } := by
  simp only [upstreamWrite, hwriting, hopen, htransport, Bool.not_true, Bool.false_eq_true,
    if_false]

theorem toUpstream_flatten_accepted (accepted : Payload) (uplink : Uplink) :
    ({ (if accepted = [] then s else s.send (.toUpstream accepted)) with
        uplink := uplink }).toUpstream.flatten = s.toUpstream.flatten ++ accepted := by
  split
  · next hempty => rw [hempty, List.append_nil]; rfl
  · have hsent : ({ s.send (.toUpstream accepted) with uplink := uplink }).toUpstream =
        s.toUpstream ++ [accepted] := toUpstream_send_toUpstream accepted
    rw [hsent, List.flatten_append, List.flatten_singleton]

/-- **Step lemma**, for bytes: what `writeAll` has not written yet is held. -/
theorem uplinkFlowsBytes_step (htransport : s.transport = .tcp) {e : SessionEvent}
    (hwrites : ¬ s.WriteFails e) : s.UplinkFlowsBytes e := by
  cases e with
  | clientRead message =>
      rcases uplinkFlows_clientRead (s := s) message with h | ⟨-, h⟩
      · exact h.bytes
      · exact h
  | upstreamWrite count err =>
      cases hwriting : s.uplink with
      | writing payload =>
          rw [WriteFails, hwriting] at hwrites
          obtain ⟨hopen, rfl⟩ : s.upstreamOpen = true ∧ err = none := by
            simpa using hwrites
          have hrest : (if payload.drop count = [] then Uplink.reading
              else .writing (payload.drop count)).inFlight.flatten = payload.drop count := by
            split
            · next hempty => rw [hempty]; rfl
            · exact List.flatten_singleton
          rw [UplinkFlowsBytes, step, upstreamWrite_tcp htransport hwriting hopen,
            List.flatten_append, List.flatten_append, hwriting]
          dsimp only
          rw [hrest, toUpstream_flatten_accepted, List.append_assoc, List.take_append_drop]
          simp [receives]
      | _ => simp [UplinkFlowsBytes, step, upstreamWrite, hwriting, receives]
  | _ => exact ((uplinkKept_step _ (by simp) (by simp)).flows rfl).bytes

/-! ### From the VM to the client -/

/-- The step keeps the flow from the VM, all but the empty chunks. -/
def DownlinkFlows (s : RelaySession) (e : SessionEvent) : Prop :=
  (s.step e).toClient ++ (s.step e).downlink.inFlight =
    s.toClient ++ s.downlink.inFlight ++ (s.takes e).toList.filter (· ≠ [])

theorem DownlinkKept.flows {e : SessionEvent} (h : s.DownlinkKept (s.step e))
    (hnone : s.takes e = none) : s.DownlinkFlows e := by
  rw [DownlinkFlows, h.downlink, h.toClient, hnone]
  exact (List.append_nil _).symm

/-- **Step lemma**: a chunk that is read is held, and one that is held is sent. -/
theorem downlinkFlows_step {e : SessionEvent} (hfits : e.Fits s.transport)
    (hsends : ¬ s.SendFails e) : s.DownlinkFlows e := by
  cases e with
  | upstreamRead chunk err =>
      have hchunk : chunk.take s.transport.bufferSize = chunk := List.take_of_length_le hfits
      simp only [DownlinkFlows, step, upstreamRead, takes, hchunk]
      cases hreading : s.downlink with
      | reading =>
          cases hopen : s.upstreamOpen with
          | false => simp [endDownlink, toClient]
          | true =>
              by_cases hempty : chunk = []
              · cases err <;> simp [hempty, hreading, endDownlink, toClient]
              · simp [hempty, toClient]
      | _ => simp [hreading]
  | clientWrite err =>
      cases hwriting : s.downlink with
      | writing chunk readErr =>
          rw [SendFails, hwriting] at hsends
          obtain ⟨hopen, rfl⟩ : s.clientOpen = true ∧ err = none := by
            simpa using hsends
          cases readErr <;>
            simp [DownlinkFlows, step, clientWrite, hwriting, hopen, takes, endDownlink,
              toClient, send, Sent.toClient?]
      | _ => simp [DownlinkFlows, step, clientWrite, hwriting, takes]
  | _ => exact (downlinkKept_step _ (by simp) (by simp)).flows rfl

end RelaySession

end GilStreaming.Coordinator
