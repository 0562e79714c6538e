import GilStreaming.Coordinator.RelayFlow

/-!
# GilStreaming.Coordinator.RelayDatagrams

Whether a UDP relay forwards one datagram for each message, and one message for each
datagram.

From the client to the VM it does, for datagrams without bytes too. The other loop looks at
the count only to see whether it has read something, and passes over such a datagram.
-/

namespace GilStreaming.Coordinator

open GilStreaming.Trace

namespace RelaySession

theorem transport_run (transport : RelayTransport) (es : List SessionEvent) :
    (run step (start transport) es).transport = transport :=
  @run_invariant _ _ step (fun _ _ => True) (fun s => s.transport = transport)
    (fun _ e _ h => (step_transport e).trans h) _ rfl es (AllSteps.of_forall (fun _ _ => trivial) _)

theorem allSteps_transport (transport : RelayTransport) (es : List SessionEvent) :
    AllSteps step (fun s _ => s.transport = transport) (start transport) es :=
  allSteps_iff.mpr fun pre _ _ _ => transport_run transport pre

/-- **Run lemma**, to the VM: a message that is received is written as one datagram. -/
theorem toUpstream_run {es : List SessionEvent}
    (hwrites : AllSteps step (fun s e => ¬ s.WriteFails e) (start .udp) es) :
    (run step (start .udp) es).toUpstream ++ (run step (start .udp) es).uplink.inFlight =
      outputs step receives (start .udp) es :=
  @record_run _ _ step _ receives _ (fun s => s.toUpstream ++ s.uplink.inFlight)
    (fun _ _ h => uplinkFlows_step h.1 h.2) _ _ ((allSteps_transport .udp es).and hwrites)

/-- **Run lemma**, to the client: of what is read, all but the empty chunks. -/
theorem toClient_run {transport : RelayTransport} {es : List SessionEvent}
    (hfits : ∀ e ∈ es, e.Fits transport)
    (hsends : AllSteps step (fun s e => ¬ s.SendFails e) (start transport) es) :
    (run step (start transport) es).toClient ++
        (run step (start transport) es).downlink.inFlight =
      (outputs step takes (start transport) es).filter (· ≠ []) := by
  rw [← outputs_filter]
  refine @record_run _ _ step _ _ _ (fun s => s.toClient ++ s.downlink.inFlight)
    (fun s e h => ?_) _ _
    (((allSteps_transport transport es).and (AllSteps.of_forall hfits _)).and hsends)
  rw [Option.toList_filter]
  exact downlinkFlows_step (h.1.1 ▸ h.1.2) h.2

end RelaySession

open RelaySession in
/-- As long as no write fails, what a UDP relay has handed over to the VM, with the one payload that
the loop may hold, is exactly what it has read from the client. It is so in both directions if and
only if none of the datagrams read from the VM is empty. -/
theorem datagrams_preserved_iff (es : List SessionEvent) (hfits : ∀ e ∈ es, e.Fits .udp)
    (hwrites : AllSteps step (fun s e => ¬ s.WriteFails e) (start .udp) es)
    (hsends : AllSteps step (fun s e => ¬ s.SendFails e) (start .udp) es) :
    (run step (start .udp) es).toUpstream ++ (run step (start .udp) es).uplink.inFlight =
        outputs step receives (start .udp) es ∧
      ((run step (start .udp) es).toUpstream ++ (run step (start .udp) es).uplink.inFlight =
            outputs step receives (start .udp) es ∧
          (run step (start .udp) es).toClient ++ (run step (start .udp) es).downlink.inFlight =
            outputs step takes (start .udp) es ↔
        AllSteps step (fun s e => s.takes e ≠ some []) (start .udp) es) := by
  have hclient := toUpstream_run hwrites
  refine ⟨hclient, ?_⟩
  rw [toClient_run hfits hsends, List.filter_eq_self]
  have hempty : (∀ chunk ∈ outputs step takes (start .udp) es, decide (chunk ≠ []) = true) ↔
      AllSteps step (fun s e => s.takes e ≠ some []) (start .udp) es := by
    simp only [decide_eq_true_eq]
    rw [forall_outputs_iff, allSteps_iff, allSteps_iff]
    refine forall₄_congr fun pre e post _ => ?_
    constructor
    · exact fun h hnone => h [] hnone rfl
    · rintro h chunk hchunk rfl
      exact h hchunk
  exact ⟨fun h => hempty.mp h.2, fun h => ⟨hclient, hempty.mpr h⟩⟩

/-- A datagram from the client, one without bytes, and one from the VM. -/
def datagramEvents : List SessionEvent :=
  [.clientRead (.ok (true, [1])), .upstreamRead [2, 3] none, .upstreamWrite 1 none,
    .clientRead (.ok (false, [9])), .clientRead (.ok (true, [])), .clientWrite none,
    .upstreamWrite 0 none]

open RelaySession in
theorem datagrams_preserved :
    (run step (start .udp) datagramEvents).toUpstream ++
          (run step (start .udp) datagramEvents).uplink.inFlight =
        outputs step receives (start .udp) datagramEvents ∧
      ((run step (start .udp) datagramEvents).toUpstream ++
              (run step (start .udp) datagramEvents).uplink.inFlight =
            outputs step receives (start .udp) datagramEvents ∧
          (run step (start .udp) datagramEvents).toClient ++
              (run step (start .udp) datagramEvents).downlink.inFlight =
            outputs step takes (start .udp) datagramEvents ↔
        AllSteps step (fun s e => s.takes e ≠ some []) (start .udp) datagramEvents) :=
  datagrams_preserved_iff datagramEvents (by decide) (by decide) (by decide)

open RelaySession in
/-- An empty datagram of the VM is lost. -/
theorem empty_datagram_lost :
    AllSteps step (fun s e => ¬ s.WriteFails e) (start .udp) [.upstreamRead [] none] ∧
      AllSteps step (fun s e => ¬ s.SendFails e) (start .udp) [.upstreamRead [] none] ∧
      outputs step takes (start .udp) [.upstreamRead [] none] = [[]] ∧
      (run step (start .udp) [.upstreamRead [] none]).toClient ++
        (run step (start .udp) [.upstreamRead [] none]).downlink.inFlight = [] := by decide

end GilStreaming.Coordinator
