import GilStreaming.Coordinator.RelayDatagrams
import GilStreaming.Coordinator.RelayRevocation

/-!
# GilStreaming.Coordinator.RelayTail

Whether a TCP relay passes on all that the VM sends before it closes the stream.

It does when the loop that reads from the VM is the first to end: a Close frame goes after
the last chunk. A write to the VM that fails before that, as it can when the VM has closed
already, or a message that is too long for `ReadMessage`, ends the relay without the rest of
the response and without a Close frame.

In the other direction a VM that has ended its stream may still take what the client sends. The
relay waits two seconds for the client to answer the Close frame, and then closes the VM's
socket, also in the middle of a payload.
-/

namespace GilStreaming.Coordinator

open GilStreaming.Trace

namespace RelaySession

/-- What the client has been sent, messages and Close frames. -/
def toPeer (s : RelaySession) : List Sent := s.sent.filter fun sent => sent.toUpstream?.isNone

/-- The Close frame that `relayTCP` sends. -/
def upstreamClosed : Sent := .closeFrame 1000 "upstream closed"

/-- `ReadMessage` fails for a message above the limit. -/
def TooLong (s : RelaySession) : SessionEvent → Prop
  | .clientRead (.ok (_, payload)) => s.uplink = .reading ∧ relayMaxMessageSize < payload.length
  | _ => False

instance (s : RelaySession) : (e : SessionEvent) → Decidable (s.TooLong e)
  | .clientRead (.ok (_, payload)) =>
    inferInstanceAs (Decidable (s.uplink = .reading ∧ relayMaxMessageSize < payload.length))
  | .clientRead (.error _) | .upstreamWrite _ _ | .upstreamRead _ _ | .clientWrite _ |
    .handler _ _ | .watcherDone | .watcher _ => isFalse id

/-- The VM does not accept what is written. -/
def Refuses (s : RelaySession) : SessionEvent → Prop
  | .upstreamWrite _ err => s.uplink.inFlight ≠ [] ∧ s.upstreamOpen = true ∧ err ≠ none
  | _ => False

instance (s : RelaySession) : (e : SessionEvent) → Decidable (s.Refuses e)
  | .upstreamWrite _ err => inferInstanceAs (Decidable
      (s.uplink.inFlight ≠ [] ∧ s.upstreamOpen = true ∧ err ≠ none))
  | .clientRead _ | .upstreamRead _ _ | .clientWrite _ | .handler _ _ | .watcherDone | .watcher _ =>
    isFalse id

/-- The relay itself has closed the VM's socket, and there is a payload to write. -/
def CutsPayload (s : RelaySession) : SessionEvent → Prop
  | .upstreamWrite _ _ => s.uplink.inFlight ≠ [] ∧ s.upstreamOpen = false
  | _ => False

instance (s : RelaySession) : (e : SessionEvent) → Decidable (s.CutsPayload e)
  | .upstreamWrite _ _ =>
    inferInstanceAs (Decidable (s.uplink.inFlight ≠ [] ∧ s.upstreamOpen = false))
  | .clientRead _ | .upstreamRead _ _ | .clientWrite _ | .handler _ _ | .watcherDone | .watcher _ =>
    isFalse id

/-- A write fails in one of two ways. -/
theorem writeFails_iff {s : RelaySession} {e : SessionEvent} :
    s.WriteFails e ↔ s.Refuses e ∨ s.CutsPayload e := by
  cases e with
  | upstreamWrite count err =>
      simp only [WriteFails, Refuses, CutsPayload]
      cases s.upstreamOpen <;> simp
  | _ => exact ⟨False.elim, fun h => h.elim id id⟩

end RelaySession

/-- A TCP relay beside its VM. -/
structure TcpRelay where
  session : RelaySession
  /-- What the VM sends before its EOF, as far as it has not been read. -/
  unread : Payload
  deriving DecidableEq, Repr

namespace TcpRelay

/-- The relay of a VM that answers with `response` and then closes the stream. -/
def start (response : Payload) : TcpRelay := ⟨.start .tcp, response⟩

def step (r : TcpRelay) (e : SessionEvent) : TcpRelay where
  session := r.session.step e
  unread := r.unread.drop ((r.session.takes e).getD []).length

/-- The WebSocket neither fails nor is closed by the peer, other than in answer to a Close
frame, and the VM's socket is read to its end. -/
def Regular (r : TcpRelay) : SessionEvent → Prop
  | .clientRead (.error _) =>
    r.session.clientOpen = false ∨ RelaySession.upstreamClosed ∈ r.session.sent
  | .clientWrite err => err = none
  | .handler controlSent _ => controlSent = true
  | .upstreamRead chunk err =>
    chunk <+: r.unread ∧ chunk.length ≤ RelayTransport.tcp.bufferSize ∧
      (err = none ∨ err = some .eof ∧ chunk = r.unread)
  | _ => True

/-- A write to the VM fails before the VM's EOF has been reported, or a message is too long before
the Close frame has been sent. -/
def CutsOff (r : TcpRelay) (e : SessionEvent) : Prop :=
  r.session.WriteFails e ∧ r.session.downlink ≠ .ended ∨
    r.session.TooLong e ∧ r.session.handler = .waiting

instance (r : TcpRelay) : (e : SessionEvent) → Decidable (r.Regular e)
  | .clientRead (.error _) => inferInstanceAs (Decidable
      (r.session.clientOpen = false ∨ RelaySession.upstreamClosed ∈ r.session.sent))
  | .clientWrite err => inferInstanceAs (Decidable (err = none))
  | .handler controlSent _ => inferInstanceAs (Decidable (controlSent = true))
  | .upstreamRead chunk err => inferInstanceAs (Decidable
      (chunk <+: r.unread ∧ chunk.length ≤ RelayTransport.tcp.bufferSize ∧
        (err = none ∨ err = some .eof ∧ chunk = r.unread)))
  | .clientRead (.ok _) | .upstreamWrite _ _ | .watcherDone | .watcher _ => isTrue trivial

instance (r : TcpRelay) (e : SessionEvent) : Decidable (r.CutsOff e) :=
  inferInstanceAs (Decidable (r.session.WriteFails e ∧ r.session.downlink ≠ .ended ∨
    r.session.TooLong e ∧ r.session.handler = .waiting))

/-- The VM's stream is being passed on. -/
structure Streaming (response : Payload) (r : TcpRelay) : Prop where
  handler : r.session.handler = .waiting
  downlink : r.session.downlink ≠ .ended
  uplink : r.session.uplink ≠ .ended
  results : r.session.results = []
  clientOpen : r.session.clientOpen = true
  upstreamOpen : r.session.upstreamOpen = true
  peer : r.session.toPeer = r.session.toClient.map .toClient
  passed : (r.session.toClient ++ r.session.downlink.inFlight).flatten ++ r.unread = response
  /-- The error that came with a chunk. -/
  eof : ∀ chunk err, r.session.downlink = .writing chunk (some err) →
    err = .eof ∧ r.unread = []

/-- All has been passed on, and the loop's EOF is the first result. -/
structure Reported (response : Payload) (r : TcpRelay) : Prop where
  handler : r.session.handler = .waiting
  downlink : r.session.downlink = .ended
  results : r.session.results.head? = some ⟨.eof, true⟩
  clientOpen : r.session.clientOpen = true
  upstreamOpen : r.session.upstreamOpen = true
  peer : r.session.toPeer = r.session.toClient.map .toClient
  passed : r.session.toClient.flatten = response

/-- The Close frame has been sent after all of it. -/
structure Closing (response : Payload) (r : TcpRelay) : Prop where
  handler : r.session.handler ≠ .waiting
  downlink : r.session.downlink = .ended
  peer : r.session.toPeer = r.session.toClient.map .toClient ++ [RelaySession.upstreamClosed]
  passed : r.session.toClient.flatten = response

/-- Where the relay stands, as long as the lease is live. -/
structure Inv (response : Payload) (r : TcpRelay) : Prop where
  transport : r.session.transport = .tcp
  watcher : r.session.watcher = .waiting ∨ r.session.watcher = .stopped
  phase : r.Streaming response ∨ r.Reported response ∨ r.Closing response

end TcpRelay

/-! ### The first loop -/

namespace RelaySession

variable {s : RelaySession}

/-- What a step of the first loop leaves alone. -/
structure UplinkMoves (s s' : RelaySession) : Prop where
  kept : s.DownlinkKept s'
  handler : s'.handler = s.handler
  watcher : s'.watcher = s.watcher
  clientOpen : s'.clientOpen = s.clientOpen
  upstreamOpen : s'.upstreamOpen = s.upstreamOpen
  peer : s'.toPeer = s.toPeer
  results : s.results <+: s'.results

theorem UplinkMoves.refl (s : RelaySession) : s.UplinkMoves s :=
  ⟨.refl s, rfl, rfl, rfl, rfl, rfl, List.prefix_refl _⟩

theorem uplinkMoves_endUplink (err : RelayError) : s.UplinkMoves (s.endUplink err) :=
  ⟨⟨rfl, rfl, rfl⟩, rfl, rfl, rfl, rfl, rfl, List.prefix_append _ _⟩

theorem toPeer_send_toUpstream (payload : Payload) :
    (s.send (.toUpstream payload)).toPeer = s.toPeer := by
  simp [toPeer, send, Sent.toUpstream?]

theorem uplinkMoves_clientRead (message : Except RelayError (Bool × Payload)) :
    s.UplinkMoves (s.clientRead message) := by
  unfold clientRead
  split
  · split
    · exact uplinkMoves_endUplink _
    · split
      · exact uplinkMoves_endUplink _
      · split
        · exact .refl s
        · split
          · split
            · exact .refl s
            · exact ⟨⟨rfl, rfl, rfl⟩, rfl, rfl, rfl, rfl, rfl, List.prefix_refl _⟩
          · split
            · exact uplinkMoves_endUplink _
            · exact ⟨⟨rfl, rfl, rfl⟩, rfl, rfl, rfl, rfl, rfl, List.prefix_refl _⟩
  · exact .refl s

theorem uplinkMoves_upstreamWrite (count : Nat) (err : Option RelayError) :
    s.UplinkMoves (s.upstreamWrite count err) := by
  unfold upstreamWrite
  split
  · next payload _ =>
      split
      · exact uplinkMoves_endUplink _
      · split
        · dsimp only
          have hsent : s.UplinkMoves (if payload.take count = [] then s
              else s.send (.toUpstream (payload.take count))) := by
            split
            · exact .refl s
            · exact ⟨⟨rfl, rfl, toClient_send_toUpstream _⟩, rfl, rfl, rfl, rfl,
                toPeer_send_toUpstream _, List.prefix_refl _⟩
          generalize (if payload.take count = [] then s
            else s.send (.toUpstream (payload.take count))) = s' at hsent
          cases err with
          | none => exact { hsent with kept := ⟨hsent.kept.1, hsent.kept.2, hsent.kept.3⟩ }
          | some err =>
              exact {
                kept := ⟨hsent.kept.1, hsent.kept.2, hsent.kept.3⟩
                handler := hsent.handler
                watcher := hsent.watcher
                clientOpen := hsent.clientOpen
                upstreamOpen := hsent.upstreamOpen
                peer := hsent.peer
                results := hsent.results.trans (List.prefix_append _ _) }
        · cases err with
          | none => exact ⟨⟨rfl, rfl, toClient_send_toUpstream _⟩, rfl, rfl, rfl, rfl,
              toPeer_send_toUpstream _, List.prefix_refl _⟩
          | some err => exact uplinkMoves_endUplink _
  · exact .refl s

/-- The loop goes on after a message that `ReadMessage` returns. -/
theorem clientRead_goes (htcp : s.transport = .tcp) (hgoing : s.uplink ≠ .ended)
    (binary : Bool) {payload : Payload}
    (hsize : ¬ s.TooLong (.clientRead (.ok (binary, payload)))) :
    (s.clientRead (.ok (binary, payload))).uplink ≠ .ended ∧
      (s.clientRead (.ok (binary, payload))).results = s.results := by
  unfold clientRead
  split
  · next hreading =>
    dsimp only
    rw [if_neg fun hlong => hsize ⟨hreading, hlong⟩, htcp]
    split
    · exact ⟨hgoing, rfl⟩
    · dsimp only
      split
      · exact ⟨hgoing, rfl⟩
      · exact ⟨by simp, rfl⟩
  · exact ⟨hgoing, rfl⟩

/-- The loop goes on after a write that does not fail. -/
theorem upstreamWrite_goes (htcp : s.transport = .tcp) (hgoing : s.uplink ≠ .ended)
    {count : Nat} {err : Option RelayError} (hwrites : ¬ s.WriteFails (.upstreamWrite count err)) :
    (s.upstreamWrite count err).uplink ≠ .ended ∧
      (s.upstreamWrite count err).results = s.results := by
  cases hwriting : s.uplink with
  | writing payload =>
      rw [WriteFails, hwriting] at hwrites
      obtain ⟨hopen, rfl⟩ : s.upstreamOpen = true ∧ err = none := by
        simpa using hwrites
      rw [upstreamWrite_tcp htcp hwriting hopen]
      constructor
      · dsimp only
        split <;> simp
      · dsimp only
        split <;> rfl
  | reading => simp [upstreamWrite, hwriting]
  | ended => exact absurd hwriting hgoing

end RelaySession

namespace TcpRelay

open RelaySession

variable {response : Payload} {r : TcpRelay}

/-! ### A step of the first loop, in each phase -/

theorem Streaming.of_moves {s : RelaySession} (h : r.Streaming response)
    (hmoves : r.session.UplinkMoves s) (huplink : s.uplink ≠ .ended)
    (hresults : s.results = r.session.results) : Streaming response ⟨s, r.unread⟩ where
  handler := hmoves.handler.trans h.handler
  downlink := hmoves.kept.downlink ▸ h.downlink
  uplink := huplink
  results := hresults.trans h.results
  clientOpen := hmoves.clientOpen.trans h.clientOpen
  upstreamOpen := hmoves.upstreamOpen.trans h.upstreamOpen
  peer := by rw [hmoves.peer, hmoves.kept.toClient, h.peer]
  passed := by rw [hmoves.kept.toClient, hmoves.kept.downlink, h.passed]
  eof := by rw [hmoves.kept.downlink]; exact h.eof

theorem Reported.of_moves {s : RelaySession} (h : r.Reported response)
    (hmoves : r.session.UplinkMoves s) : Reported response ⟨s, r.unread⟩ where
  handler := hmoves.handler.trans h.handler
  downlink := hmoves.kept.downlink.trans h.downlink
  results := by
    obtain ⟨added, hadded⟩ := hmoves.results
    rw [← hadded, List.head?_append, h.results]
    rfl
  clientOpen := hmoves.clientOpen.trans h.clientOpen
  upstreamOpen := hmoves.upstreamOpen.trans h.upstreamOpen
  peer := by rw [hmoves.peer, hmoves.kept.toClient, h.peer]
  passed := by rw [hmoves.kept.toClient, h.passed]

theorem Closing.of_moves {s : RelaySession} (h : r.Closing response)
    (hmoves : r.session.UplinkMoves s) : Closing response ⟨s, r.unread⟩ where
  handler := hmoves.handler ▸ h.handler
  downlink := hmoves.kept.downlink.trans h.downlink
  peer := by rw [hmoves.peer, hmoves.kept.toClient, h.peer]
  passed := by rw [hmoves.kept.toClient, h.passed]

/-- **Step lemma**, the first loop: it only ends before the EOF is reported when a write
cuts the relay off. -/
theorem Inv.of_moves {s : RelaySession} (h : r.Inv response) (hmoves : r.session.UplinkMoves s)
    (hgoes : r.Streaming response → s.uplink ≠ .ended ∧ s.results = r.session.results) :
    Inv response ⟨s, r.unread⟩ where
  transport := hmoves.kept.transport.trans h.transport
  watcher := by
    dsimp only
    rw [hmoves.watcher]
    exact h.watcher
  phase := by
    rcases h.phase with hstreaming | hreported | hclosing
    · obtain ⟨huplink, hresults⟩ := hgoes hstreaming
      exact .inl (hstreaming.of_moves hmoves huplink hresults)
    · exact .inr (.inl (hreported.of_moves hmoves))
    · exact .inr (.inr (hclosing.of_moves hmoves))

theorem step_unread {e : SessionEvent} (he : ∀ chunk err, e ≠ .upstreamRead chunk err) :
    r.step e = ⟨r.session.step e, r.unread⟩ := by
  cases e with
  | upstreamRead chunk err => exact absurd rfl (he chunk err)
  | _ => rfl

/-- While the stream is passed on, no Close frame has been sent. -/
theorem Streaming.upstreamClosed_not_mem (h : r.Streaming response) :
    upstreamClosed ∉ r.session.sent := by
  intro hmem
  have hpeer : upstreamClosed ∈ r.session.toPeer := List.mem_filter.mpr ⟨hmem, rfl⟩
  rw [h.peer] at hpeer
  obtain ⟨chunk, -, hchunk⟩ := List.mem_map.mp hpeer
  exact absurd hchunk (by simp [upstreamClosed])

theorem Inv.clientRead (h : r.Inv response) {message : Except RelayError (Bool × Payload)}
    (hregular : r.Regular (.clientRead message)) (hwhole : ¬ r.CutsOff (.clientRead message)) :
    (r.step (.clientRead message)).Inv response := by
  rw [step_unread (by simp)]
  refine h.of_moves (uplinkMoves_clientRead message) fun hstreaming => ?_
  rcases message with err | ⟨binary, payload⟩
  · -- an error would be the peer's
    rcases hregular with hclosed | hsent
    · exact absurd (hclosed.symm.trans hstreaming.clientOpen) (by simp)
    · exact absurd hsent hstreaming.upstreamClosed_not_mem
  · exact clientRead_goes h.transport hstreaming.uplink binary
      fun hlong => hwhole (.inr ⟨hlong, hstreaming.handler⟩)

theorem Inv.upstreamWrite (h : r.Inv response) {count : Nat} {err : Option RelayError}
    (hwhole : ¬ r.CutsOff (.upstreamWrite count err)) :
    (r.step (.upstreamWrite count err)).Inv response := by
  rw [step_unread (by simp)]
  refine h.of_moves (uplinkMoves_upstreamWrite count err) fun hstreaming => ?_
  exact upstreamWrite_goes h.transport hstreaming.uplink
    fun hfails => hwhole (.inl ⟨hfails, hstreaming.downlink⟩)

/-! ### The second loop -/

theorem upstreamRead_idle {s : RelaySession} (hidle : s.downlink ≠ .reading) (chunk : Payload)
    (err : Option RelayError) :
    s.upstreamRead chunk err = s ∧ s.takes (.upstreamRead chunk err) = none := by
  constructor
  · unfold upstreamRead
    split
    · next hreading => exact absurd hreading hidle
    · rfl
  · exact if_neg fun h => hidle h.1

theorem Streaming.upstreamRead (h : r.Streaming response) (htcp : r.session.transport = .tcp)
    {chunk : Payload} {err : Option RelayError} (hregular : r.Regular (.upstreamRead chunk err)) :
    (r.step (.upstreamRead chunk err)).Streaming response ∨
      (r.step (.upstreamRead chunk err)).Reported response := by
  obtain ⟨hpre, hsize, herr⟩ := hregular
  by_cases hreading : r.session.downlink = .reading
  · have hpassed := h.passed
    rw [hreading, Downlink.inFlight_reading, List.append_nil] at hpassed
    obtain ⟨rest, hrest⟩ := hpre
    have hchunk : chunk.take r.session.transport.bufferSize = chunk := by
      rw [htcp]
      exact List.take_of_length_le hsize
    by_cases hempty : chunk = []
    · subst hempty
      rcases herr with rfl | ⟨rfl, hend⟩
      · -- nothing is read, and the loop goes on
        left
        simpa [TcpRelay.step, RelaySession.step, RelaySession.upstreamRead, takes, hreading,
          h.upstreamOpen] using h
      · -- the EOF on its own
        right
        simp only [TcpRelay.step, RelaySession.step, RelaySession.upstreamRead, takes, hreading,
          h.upstreamOpen, Bool.not_true, Bool.false_eq_true, if_false, List.take_nil]
        exact {
          handler := h.handler
          downlink := rfl
          results := by simp [endDownlink, h.results]
          clientOpen := h.clientOpen
          upstreamOpen := h.upstreamOpen
          peer := h.peer
          passed := by rw [← hpassed, ← hend, List.append_nil]; rfl }
    · left
      simp only [TcpRelay.step, RelaySession.step, RelaySession.upstreamRead, takes, hreading,
        h.upstreamOpen, hchunk, hempty, Bool.not_true, Bool.false_eq_true, if_false, ne_eq,
        not_false_eq_true, true_and, true_or, if_true, Option.getD_some]
      exact {
        handler := h.handler
        downlink := by simp
        uplink := h.uplink
        results := h.results
        clientOpen := h.clientOpen
        upstreamOpen := rfl
        peer := h.peer
        passed := by
          dsimp only
          rw [← hpassed, ← hrest, List.drop_left]
          simp [toClient]
        eof := by
          intro chunk' err' hwriting
          obtain ⟨rfl, rfl⟩ : chunk = chunk' ∧ err = some err' := by simpa using hwriting
          rcases herr with hnone | ⟨hsome, hend⟩
          · exact absurd hnone (by simp)
          · refine ⟨Option.some.inj hsome, ?_⟩
            dsimp only
            rw [← hend, List.drop_length] }
  · left
    obtain ⟨hsame, hnone⟩ := upstreamRead_idle hreading chunk err
    rw [TcpRelay.step, RelaySession.step, hsame, hnone]
    exact h

theorem Streaming.clientWrite (h : r.Streaming response) :
    (r.step (.clientWrite none)).Streaming response ∨
      (r.step (.clientWrite none)).Reported response := by
  rw [step_unread (by simp)]
  cases hwriting : r.session.downlink with
  | writing chunk readErr =>
      have hpassed := h.passed
      rw [hwriting, Downlink.inFlight_writing] at hpassed
      have hpeer : (r.session.send (.toClient chunk)).toPeer =
          (r.session.toClient ++ [chunk]).map .toClient := by
        rw [List.map_append, ← h.peer]
        simp [toPeer, send, Sent.toUpstream?]
      simp only [RelaySession.step, RelaySession.clientWrite, hwriting, h.clientOpen,
        Bool.not_true, Bool.false_eq_true, if_false]
      cases readErr with
      | none =>
          left
          exact {
            handler := h.handler
            downlink := by simp
            uplink := h.uplink
            results := h.results
            clientOpen := h.clientOpen
            upstreamOpen := h.upstreamOpen
            peer := hpeer.trans (congrArg _ (toClient_send_toClient chunk).symm)
            passed := by
              dsimp only
              rw [Downlink.inFlight_reading, List.append_nil, ← hpassed, ← toClient_send_toClient]
              rfl
            eof := fun _ _ h => absurd h (by simp) }
      | some err =>
          -- the EOF came with the last chunk
          right
          obtain ⟨rfl, hend⟩ := h.eof chunk err hwriting
          exact {
            handler := h.handler
            downlink := rfl
            results := by simp [endDownlink, send, h.results]
            clientOpen := h.clientOpen
            upstreamOpen := h.upstreamOpen
            peer := hpeer.trans (congrArg _ (toClient_send_toClient chunk).symm)
            passed := by
              rw [← hpassed, hend, List.append_nil, ← toClient_send_toClient]
              rfl }
  | reading =>
      left
      simpa [RelaySession.step, RelaySession.clientWrite, hwriting] using h
  | ended => exact absurd hwriting h.downlink

/-- **Step lemma**, the second loop: it ends with the EOF, once all has been sent. -/
theorem Inv.secondLoop (h : r.Inv response) {e : SessionEvent} (hregular : r.Regular e)
    (he : (∃ chunk err, e = .upstreamRead chunk err) ∨ ∃ err, e = .clientWrite err) :
    (r.step e).Inv response := by
  have hended : r.session.downlink = .ended → r.step e = r := by
    intro hended
    rcases he with ⟨chunk, err, rfl⟩ | ⟨err, rfl⟩
    · obtain ⟨hsame, hnone⟩ := upstreamRead_idle (by rw [hended]; simp) chunk err
      rw [TcpRelay.step, RelaySession.step, hsame, hnone]
      rfl
    · rw [step_unread (by simp), RelaySession.step, RelaySession.clientWrite, hended]
  have hkept : r.session.UplinkKept (r.session.step e) ∧
      (r.session.step e).watcher = r.session.watcher := by
    rcases he with ⟨chunk, err, rfl⟩ | ⟨err, rfl⟩
    · exact ⟨uplinkKept_upstreamRead chunk err, (copies_upstreamRead chunk err).watcher⟩
    · exact ⟨uplinkKept_clientWrite err, (copies_clientWrite err).watcher⟩
  refine ⟨hkept.1.transport.trans h.transport, hkept.2 ▸ h.watcher, ?_⟩
  rcases h.phase with hstreaming | hreported | hclosing
  · have hnext : (r.step e).Streaming response ∨ (r.step e).Reported response := by
      rcases he with ⟨chunk, err, rfl⟩ | ⟨err, rfl⟩
      · exact hstreaming.upstreamRead h.transport hregular
      · obtain rfl : err = none := hregular
        exact hstreaming.clientWrite
    exact hnext.imp_right .inl
  · exact .inr (.inl ((hended hreported.downlink).symm ▸ hreported))
  · exact .inr (.inr ((hended hclosing.downlink).symm ▸ hclosing))

/-! ### The handler and the watcher -/

/-- The handler sends the Close frame when it takes the first result. -/
theorem Reported.handlerStep (h : r.Reported response) (htcp : r.session.transport = .tcp)
    (timedOut : Bool) : Closing response ⟨r.session.handlerStep true timedOut, r.unread⟩ := by
  have hkept := (kept_handlerStep (s := r.session) true timedOut).2
  have hsent : (r.session.handlerStep true timedOut).handler = .awaitingPeer ∧
      (r.session.handlerStep true timedOut).sent = r.session.sent ++ [upstreamClosed] := by
    cases hresults : r.session.results with
    | nil => exact absurd h.results (by simp [hresults])
    | cons result results =>
        obtain rfl : result = ⟨.eof, true⟩ := by simpa [hresults] using h.results
        simp only [RelaySession.handlerStep, h.handler, hresults, htcp, writeClose, h.clientOpen,
          Bool.and_self, if_true, and_self]
        exact ⟨trivial, rfl⟩
  exact {
    handler := by simp [hsent.1]
    downlink := hkept.downlink.trans h.downlink
    peer := by
      rw [hkept.toClient, ← h.peer, toPeer, hsent.2, List.filter_append]
      rfl
    passed := by rw [hkept.toClient, h.passed] }

/-- Past the Close frame the handler sends nothing. -/
theorem Closing.handlerStep (h : r.Closing response) (controlSent timedOut : Bool) :
    Closing response ⟨r.session.handlerStep controlSent timedOut, r.unread⟩ := by
  have hhandler := h.handler
  unfold RelaySession.handlerStep
  split
  · next hwaiting => exact absurd hwaiting hhandler
  · split
    · split
      · exact ⟨by simp, h.downlink, h.peer, h.passed⟩
      · exact h
    · exact ⟨by simp, h.downlink, h.peer, h.passed⟩
  · exact ⟨by simp, h.downlink, h.peer, h.passed⟩
  · exact ⟨by simp, h.downlink, h.peer, h.passed⟩
  · exact ⟨by simp, h.downlink, h.peer, h.passed⟩
  · exact h

theorem Inv.handlerStep (h : r.Inv response) (timedOut : Bool) :
    (r.step (.handler true timedOut)).Inv response := by
  have hkept := (kept_handlerStep (s := r.session) true timedOut).1
  have hwatcher := (winds_handlerStep (s := r.session) true timedOut).2
  rw [step_unread (by simp)]
  refine ⟨hkept.transport.trans h.transport, ?_, ?_⟩
  · rw [RelaySession.step, hwatcher]
    exact h.watcher
  · rcases h.phase with hstreaming | hreported | hclosing
    · -- no result yet
      left
      simpa [RelaySession.step, RelaySession.handlerStep, hstreaming.handler, hstreaming.results]
        using hstreaming
    · exact .inr (.inr (hreported.handlerStep h.transport timedOut))
    · exact .inr (.inr (hclosing.handlerStep true timedOut))

theorem Inv.watcherDone (h : r.Inv response) : (r.step .watcherDone).Inv response := by
  rw [step_unread (by simp), RelaySession.step]
  split
  · next hdone =>
      refine ⟨h.transport, .inr rfl, ?_⟩
      -- `done` is closed after the handler has returned
      have hhandler : r.session.handler ≠ .waiting := by
        intro hwaiting
        exact absurd hdone.2 (by simp [doneClosed, hwaiting])
      rcases h.phase with hstreaming | hreported | hclosing
      · exact absurd hstreaming.handler hhandler
      · exact absurd hreported.handler hhandler
      · exact .inr (.inr ⟨hclosing.handler, hclosing.downlink, hclosing.peer, hclosing.passed⟩)
  · exact h

theorem Inv.watcherStep (h : r.Inv response) (controlSent : Bool) :
    (r.step (.watcher controlSent)).Inv response := by
  have hidle : r.session.watcherStep controlSent = r.session := by
    rcases h.watcher with hw | hw <;> rw [RelaySession.watcherStep, hw]
  rw [step_unread (by simp), RelaySession.step, hidle]
  exact h

/-! ### Runs -/

/-- **Step lemma.** -/
theorem Inv.step (h : r.Inv response) {e : SessionEvent} (hregular : r.Regular e)
    (hwhole : ¬ r.CutsOff e) : (r.step e).Inv response := by
  cases e with
  | clientRead message => exact h.clientRead hregular hwhole
  | upstreamWrite count err => exact h.upstreamWrite hwhole
  | upstreamRead chunk err => exact h.secondLoop hregular (.inl ⟨chunk, err, rfl⟩)
  | clientWrite err => exact h.secondLoop hregular (.inr ⟨err, rfl⟩)
  | handler controlSent timedOut =>
      obtain rfl : controlSent = true := hregular
      exact h.handlerStep timedOut
  | watcherDone => exact h.watcherDone
  | watcher controlSent => exact h.watcherStep controlSent

theorem inv_start (response : Payload) : (start response).Inv response where
  transport := rfl
  watcher := .inl rfl
  phase := .inl {
    handler := rfl
    downlink := by simp [start, RelaySession.start]
    uplink := by simp [start, RelaySession.start]
    results := rfl
    clientOpen := rfl
    upstreamOpen := rfl
    peer := rfl
    passed := rfl
    eof := fun _ _ h => absurd h (by simp [start, RelaySession.start]) }

/-- What has been sent is the beginning of the response. -/
theorem Inv.toClient_prefix (h : r.Inv response) : r.session.toClient.flatten <+: response := by
  rcases h.phase with hstreaming | hreported | hclosing
  · have hpassed := hstreaming.passed
    rw [List.flatten_append, List.append_assoc] at hpassed
    exact ⟨_, hpassed⟩
  · exact ⟨[], by rw [List.append_nil, hreported.passed]⟩
  · exact ⟨[], by rw [List.append_nil, hclosing.passed]⟩

/-- No socket is closed before the Close frame has been sent. -/
theorem Inv.closing (h : r.Inv response)
    (hclosed : r.session.clientOpen = false ∨ r.session.upstreamOpen = false) :
    r.Closing response := by
  rcases h.phase with hstreaming | hreported | hclosing
  · rw [hstreaming.clientOpen, hstreaming.upstreamOpen] at hclosed
    exact absurd hclosed (by simp)
  · rw [hreported.clientOpen, hreported.upstreamOpen] at hclosed
    exact absurd hclosed (by simp)
  · exact hclosing

/-- The relay's session is that of the same events. -/
theorem session_run (response : Payload) (es : List SessionEvent) :
    (run step (start response) es).session = run RelaySession.step (.start .tcp) es := by
  induction es using List.reverseRecOn with
  | nil => rfl
  | append_singleton es e ih => rw [run_concat, run_concat, ← ih]; rfl

end TcpRelay

namespace RelaySession

/-! ### What goes to the VM -/

/-- **Run lemma**: of what has been received, all but the rest of one payload has been
written, until a write fails. -/
theorem toUpstream_bytes {es : List SessionEvent}
    (hwrites : AllSteps step (fun s e => ¬ s.WriteFails e) (start .tcp) es) :
    ((run step (start .tcp) es).toUpstream ++ (run step (start .tcp) es).uplink.inFlight).flatten =
      (outputs step receives (start .tcp) es).flatten := by
  induction es using List.reverseRecOn with
  | nil => rfl
  | append_singleton es e ih =>
      obtain ⟨hbefore, hlast⟩ := allSteps_concat.mp hwrites
      have hflows := uplinkFlowsBytes_step (transport_run .tcp es) hlast
      rw [run_concat, outputs_concat]
      exact hflows.trans (by rw [ih hbefore, ← List.flatten_append])

theorem uplink_step_of_ended {s : RelaySession} (hended : s.uplink = .ended) (e : SessionEvent) :
    (s.step e).uplink = .ended := by
  cases e with
  | clientRead message => simp [step, clientRead, hended]
  | upstreamWrite count err => simp [step, upstreamWrite, hended]
  | _ => exact (uplinkKept_step _ (by simp) (by simp)).uplink.trans hended

theorem not_writeFails_of_ended {s : RelaySession} (hended : s.uplink = .ended)
    (e : SessionEvent) : ¬ s.WriteFails e := by
  cases e with
  | upstreamWrite count err => exact fun hfails => hfails.1 (by rw [hended]; rfl)
  | _ => exact id

/-- A write that fails may have written a part of the payload. -/
theorem writeFails_part {s : RelaySession} (htcp : s.transport = .tcp) {e : SessionEvent}
    (hfails : s.WriteFails e) :
    (s.step e).uplink = .ended ∧
      (s.step e).toUpstream.flatten <+: (s.toUpstream ++ s.uplink.inFlight).flatten := by
  cases e with
  | upstreamWrite count err =>
      obtain ⟨hbusy, herr⟩ := hfails
      cases hwriting : s.uplink with
      | writing payload =>
          simp only [step, upstreamWrite, hwriting, htcp]
          cases hopen : s.upstreamOpen with
          | false =>
              refine ⟨rfl, ?_⟩
              rw [List.flatten_append]
              exact List.prefix_append _ _
          | true =>
              cases err with
              | none => exact absurd herr (by simp [hopen])
              | some err =>
                  refine ⟨rfl, ?_⟩
                  have haccepted := toUpstream_flatten_accepted (s := s) (payload.take count) .ended
                  rw [Uplink.inFlight_writing, List.flatten_append, List.flatten_singleton]
                  exact haccepted ▸ (List.prefix_append_right_inj _).mpr (List.take_prefix _ _)
      | reading => exact absurd rfl (hwriting ▸ hbusy)
      | ended => exact absurd rfl (hwriting ▸ hbusy)
  | _ => exact hfails.elim

/-- **Run lemma**: what has been written is the beginning of what has been received. -/
theorem toUpstream_prefix (es : List SessionEvent) :
    (run step (start .tcp) es).toUpstream.flatten <+:
      (outputs step receives (start .tcp) es).flatten := by
  have hrun : ((run step (start .tcp) es).toUpstream ++
        (run step (start .tcp) es).uplink.inFlight).flatten =
          (outputs step receives (start .tcp) es).flatten ∨
      (run step (start .tcp) es).uplink = .ended ∧
        (run step (start .tcp) es).toUpstream.flatten <+:
          (outputs step receives (start .tcp) es).flatten := by
    induction es using List.reverseRecOn with
    | nil => exact .inl rfl
    | append_singleton es e ih =>
        have hreceived : (outputs step receives (start .tcp) (es ++ [e])).flatten =
            (outputs step receives (start .tcp) es).flatten ++
              ((run step (start .tcp) es).receives e).toList.flatten := by
          rw [outputs_concat, List.flatten_append]
        rw [run_concat, hreceived]
        by_cases hfails : (run step (start .tcp) es).WriteFails e
        · obtain ⟨hended, hpart⟩ := writeFails_part (transport_run .tcp es) hfails
          refine .inr ⟨hended, ?_⟩
          rcases ih with hall | ⟨hstill, -⟩
          · exact hall ▸ hpart.trans (List.prefix_append _ _)
          · exact absurd hfails (not_writeFails_of_ended hstill e)
        · have hflows := uplinkFlowsBytes_step (transport_run .tcp es) hfails
          rcases ih with hall | ⟨hended, hpart⟩
          · exact .inl (hflows.trans (by rw [hall]))
          · -- nothing is read or written any more
            have hnext := uplink_step_of_ended hended e
            refine .inr ⟨hnext, ?_⟩
            rw [UplinkFlowsBytes, hnext, hended, receives_eq_none (by rw [hended]; simp)] at hflows
            simp only [Uplink.inFlight_ended, List.append_nil, Option.toList_none,
              List.flatten_nil] at hflows
            exact hflows ▸ hpart.trans (List.prefix_append _ _)
  rcases hrun with hall | ⟨-, hpart⟩
  · rw [← hall, List.flatten_append]
    exact List.prefix_append _ _
  · exact hpart

end RelaySession

/-- A request goes to the VM, and its response and the EOF to the client. -/
def responseEvents : List SessionEvent :=
  [.clientRead (.ok (true, [7])), .upstreamWrite 1 none, .upstreamRead [82] none,
    .clientWrite none, .upstreamRead [] (some .eof), .handler true false,
    .clientRead (.error .network), .handler true false, .handler true false, .handler true false]

/-- The VM has answered and closed, and the client's next payload cannot be written. -/
def cutOffEvents : List SessionEvent :=
  [.clientRead (.ok (true, [7])), .upstreamWrite 0 (some .network), .handler true false,
    .handler true false, .handler true false]

/-- The VM has ended its stream and takes its time over a payload. The client, too, takes its time
over the Close frame. -/
def cutPayloadEvents : List SessionEvent :=
  [.upstreamRead [82] (some .eof), .clientWrite none, .handler true false,
    .clientRead (.ok (true, [7, 8])), .upstreamWrite 1 none, .handler true true,
    .handler true false, .handler true false, .handler true false, .upstreamWrite 0 (some .closed)]

end GilStreaming.Coordinator
