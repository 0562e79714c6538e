import GilStreaming.Client.UdpEndpoint
import GilStreaming.Coordinator.Relay

/-!
# GilStreaming.Client.MessageSizes

The sizes of the messages between the relay bridge and the coordinator.

A TCP tunnel sends what was pending in one message, which its bound keeps within what the
coordinator reads. Once the WebSocket is up it sends each local read in one message,
however large it is.
-/

namespace GilStreaming.Client

open GilStreaming.Trace
open GilStreaming.Coordinator (RelaySession RelayTransport relayMaxMessageSize maxDatagramSize)

/-! ### What the coordinator reads -/

/-- A binary message that a relay of the coordinator does not end for. -/
def Accepted (transport : RelayTransport) (message : Bytes) : Prop :=
  ∀ s : RelaySession, s.transport = transport → s.uplink = .reading →
    (s.clientRead (.ok (true, message))).uplink ≠ .ended

theorem accepted_tcp_iff {message : Bytes} :
    Accepted .tcp message ↔ message.length ≤ relayMaxMessageSize := by
  constructor
  · intro h
    by_contra hlarge
    refine h (.start .tcp) rfl rfl ?_
    simp only [RelaySession.clientRead, RelaySession.start, if_pos (Nat.not_le.mp hlarge)]
    rfl
  · intro hsize s htransport hreading hended
    simp only [RelaySession.clientRead, hreading, if_neg (Nat.not_lt.mpr hsize), htransport,
      Bool.not_true, Bool.false_eq_true, if_false] at hended
    split at hended
    · exact absurd (hreading.symm.trans hended) (by simp)
    · exact absurd hended (by simp)

theorem accepted_udp_of_le {message : Bytes} (hsize : message.length ≤ maxDatagramSize) :
    Accepted .udp message := by
  intro s htransport hreading hended
  have hmax : message.length ≤ relayMaxMessageSize :=
    hsize.trans (by unfold maxDatagramSize relayMaxMessageSize; omega)
  simp only [RelaySession.clientRead, hreading, if_neg (Nat.not_lt.mpr hmax), htransport,
    Bool.not_true, Bool.false_eq_true, if_false, if_neg (Nat.not_lt.mpr hsize)] at hended
  exact absurd hended (by simp)

/-! ### What a TCP tunnel sends -/

namespace TcpTunnel

/-- The message that goes out with an event. -/
def sends (t : TcpTunnel) : TcpTunnelEvent → Option Bytes
  | .readyRead payload =>
    if t.localState ≠ .unconnected ∧ t.websocketState = .connected then some payload else none
  | .websocketConnected =>
    if t.websocketState = .connecting ∧ t.pending ≠ [] then some t.pending else none
  | _ => none

/-- The read is larger than any message the coordinator reads, and goes out at once. -/
def Oversizes (t : TcpTunnel) : TcpTunnelEvent → Prop
  | .readyRead payload => t.localState ≠ .unconnected ∧ t.websocketState = .connected ∧
    relayMaxMessageSize < payload.length
  | _ => False

theorem closeTcpTunnel_sent (t : TcpTunnel) : t.closeTcpTunnel.sent = t.sent := by
  unfold closeTcpTunnel
  split <;> rfl

theorem step_sent (t : TcpTunnel) (e : TcpTunnelEvent) :
    (t.step e).sent = t.sent ++ (t.sends e).toList := by
  cases e with
  | readyRead payload =>
      simp only [step, sends]
      split
      · next hlocal => simp [hlocal]
      · next hlocal =>
          unfold readyRead
          dsimp only
          split
          · next hconnected => simp [hlocal, hconnected, sendBinaryMessage]
          · next hconnected => split <;> simp [hconnected, closeTcpTunnel_sent]
  | websocketConnected =>
      simp only [step, sends]
      split
      · next hconnecting =>
          unfold websocketConnected
          dsimp only
          split <;> simp_all [sendBinaryMessage]
      · next hconnecting => simp [hconnecting]
  | localDisconnected =>
      simp only [step, sends, localDisconnected, Option.toList_none, List.append_nil]
      split
      · rfl
      · exact closeTcpTunnel_sent _
  | websocketClosing =>
      simp only [step, sends, Option.toList_none, List.append_nil]
      split <;> rfl
  | websocketDisconnected flushed =>
      simp only [step, sends, websocketDisconnected, Option.toList_none, List.append_nil]
      split
      · rfl
      · split
        · rfl
        · split <;> rfl
  | binaryMessageReceived payload =>
      simp only [step, sends, Option.toList_none, List.append_nil]
      split <;> rfl
  | lingerTimeout =>
      simp only [step, sends, Option.toList_none, List.append_nil]
      split <;> rfl
  | stop =>
      simp only [step, sends, Option.toList_none, List.append_nil]
      split
      · exact closeTcpTunnel_sent t
      · rfl

/-- What was pending is never too large. -/
theorem sends_small_iff {t : TcpTunnel} (h : t.Inv) (e : TcpTunnelEvent) :
    (∀ m ∈ t.sends e, m.length ≤ relayMaxMessageSize) ↔ ¬ t.Oversizes e := by
  cases e with
  | readyRead payload =>
      simp only [sends, Oversizes]
      split
      · next hsent => simp [hsent]
      · next hkept => simp_all
  | websocketConnected =>
      refine iff_of_true (fun m hm => ?_) id
      simp only [sends] at hm
      split at hm
      · rw [← Option.mem_some.mp hm]
        exact h.bounded
      · exact absurd hm (by simp)
  | _ => exact iff_of_true (fun m hm => absurd hm (by simp [sends])) id

end TcpTunnel

/-! ### What a UDP endpoint receives -/

theorem UdpEndpoint.received_small (es : List UdpEndpointEvent) :
    ∀ m ∈ (run UdpEndpoint.step .bound es).received, m.length ≤ maxUdpPayload := by
  induction es using List.reverseRecOn with
  | nil => exact fun m hm => absurd hm (by simp [bound])
  | append_singleton es event ih =>
      rw [run_concat]
      cases hrunning : (run UdpEndpoint.step .bound es).running with
      | false => rwa [step_stopped hrunning]
      | true =>
          rw [(((inv_run es).1.step event).2 hrunning).received]
          refine List.forall_mem_append.mpr ⟨ih, ?_⟩
          cases event with
          | datagram datagram lost =>
              exact List.forall_mem_singleton.mpr datagram.size
          | _ => exact fun m hm => absurd hm (by simp [arrived])

/-! ### Both ends -/

/-- A tunnel keeps to the coordinator's limit exactly if no read of more than that comes
while its WebSocket is connected, and then no message of it is refused for its size; a UDP
endpoint always does. -/
theorem message_sizes_agree_iff (es : List TcpTunnelEvent) (us : List UdpEndpointEvent) :
    ((∀ m ∈ (run TcpTunnel.step .opened es).sent,
        m.length ≤ relayMaxMessageSize ∧ Accepted .tcp m) ↔
      AllSteps TcpTunnel.step (fun t e => ¬ t.Oversizes e) .opened es) ∧
    ∀ m ∈ (run UdpEndpoint.step .bound us).sent, m.length ≤ maxUdpPayload ∧ Accepted .udp m := by
  refine ⟨?_, fun m hm => ?_⟩
  · simp only [accepted_tcp_iff, and_self]
    rw [record_run (fun t e _ => TcpTunnel.step_sent t e)
      (AllSteps.of_forall (P := fun _ => True) (fun _ _ => trivial) _)]
    refine Iff.trans (b := ∀ m ∈ outputs TcpTunnel.step TcpTunnel.sends .opened es,
      m.length ≤ relayMaxMessageSize) (by simp [TcpTunnel.opened]) ?_
    rw [forall_outputs_iff, allSteps_iff, allSteps_iff]
    exact forall₄_congr fun pre e post _ => TcpTunnel.sends_small_iff (TcpTunnel.inv_run pre) e
  · have hsize := UdpEndpoint.received_small us m
      ((UdpEndpoint.inv_run us).2.subset (List.mem_append_left _ hm))
    exact ⟨hsize, accepted_udp_of_le hsize⟩

/-- A read after the WebSocket is up goes out as it is. -/
theorem TcpTunnel.sent_connected_read (payload : Bytes) :
    (run step opened [.websocketConnected, .readyRead payload]).sent = [payload] := rfl

open TcpTunnel in
/-- A read of one byte more than the coordinator's limit, after the WebSocket is up. -/
theorem oversized_message :
    ¬ ∀ m ∈ (run step opened
        [.websocketConnected, .readyRead (List.replicate (relayMaxMessageSize + 1) 0)]).sent,
      m.length ≤ relayMaxMessageSize := by
  rw [sent_connected_read, List.forall_mem_singleton, List.length_replicate]
  omega

end GilStreaming.Client
