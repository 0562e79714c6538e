import GilStreaming.Client.Requests

/-!
# GilStreaming.Client.Agreement

Lease, token, relay bridge and heartbeats agree, and the events after which they do not.

The bridge is started for one token and one lease, and the heartbeats for a session and a
lease. Three answers set the token or the lease without looking at what runs: a lease
request that finds the session expired leaves the heartbeats running, and a sign-in or a
lease that comes while the bridge is up replaces what the bridge is for.
-/

namespace GilStreaming.Client

open GilStreaming.Trace

/-- The bridge is for the token and the lease, and heartbeats are for some. -/
structure Assignment.Agrees (a : Assignment) : Prop where
  bridge : a.relayBridge.running = true → a.leaseId ≠ "" ∧ a.leaseId = a.relayBridge.leaseId ∧
    a.accessToken ≠ "" ∧ a.accessToken = a.relayBridge.accessToken
  heartbeats : a.heartbeatTimer = true → a.leaseId ≠ "" ∧ a.accessToken ≠ ""

/-- The change leaves something running for a token, or a lease, that is no longer there. -/
def Change.Discords (a : Assignment) : Change → Prop
  | .expire => a.heartbeatTimer = true
  | .signIn token =>
    (a.relayBridge.running = true ∧ token ≠ a.relayBridge.accessToken) ∨
      (a.heartbeatTimer = true ∧ token = "")
  | .grant leaseId =>
    (a.relayBridge.running = true ∧ leaseId ≠ a.relayBridge.leaseId) ∨
      (a.heartbeatTimer = true ∧ leaseId = "")
  | _ => False

/-- What a change connects to is a lease of the session. -/
def Change.Connects (a : Assignment) : Change → Prop
  | .connect leaseId bridge => leaseId ≠ "" ∧ a.accessToken ≠ "" ∧
    (bridge.running = true → bridge.leaseId = leaseId ∧ bridge.accessToken = a.accessToken)
  | _ => True

/-- **Step lemma.** -/
theorem Assignment.Agrees.apply_iff {a : Assignment} (h : a.Agrees) {x : Change}
    (hx : x.Connects a) : (x.apply a).Agrees ↔ ¬ x.Discords a := by
  have hoff : ∀ {b : Bool}, b = false → b ≠ true := fun hb => by simp [hb]
  cases x with
  | stay => exact iff_of_true h id
  | drop => exact iff_of_true ⟨fun hrun => absurd hrun (hoff rfl),
      fun htimer => absurd htimer (hoff rfl)⟩ id
  | signOut => exact iff_of_true ⟨fun hrun => absurd hrun (hoff rfl),
      fun htimer => absurd htimer (hoff rfl)⟩ id
  | unreachable => exact iff_of_true ⟨fun hrun => absurd hrun (hoff rfl), h.heartbeats⟩ id
  | expire =>
      constructor
      · exact fun hagrees htimer => (hagrees.heartbeats htimer).2 rfl
      · exact fun hgood => ⟨fun hrun => absurd hrun (hoff rfl),
          fun htimer => absurd htimer hgood⟩
  | signIn token =>
      constructor
      · rintro hagrees (⟨hrun, hother⟩ | ⟨htimer, hnone⟩)
        · exact hother (hagrees.bridge hrun).2.2.2
        · exact (hagrees.heartbeats htimer).2 hnone
      · intro hgood
        refine ⟨fun hrun => ?_, fun htimer => ?_⟩
        · have hsame : token = a.relayBridge.accessToken :=
            not_not.mp fun hother => hgood (.inl ⟨hrun, hother⟩)
          obtain ⟨hlease, hleaseEq, htoken, htokenEq⟩ := h.bridge hrun
          exact ⟨hlease, hleaseEq, (hsame.trans htokenEq.symm).trans_ne htoken, hsame⟩
        · exact ⟨(h.heartbeats htimer).1, fun hnone => hgood (.inr ⟨htimer, hnone⟩)⟩
  | grant leaseId =>
      constructor
      · rintro hagrees (⟨hrun, hother⟩ | ⟨htimer, hnone⟩)
        · exact hother (hagrees.bridge hrun).2.1
        · exact (hagrees.heartbeats htimer).1 hnone
      · intro hgood
        refine ⟨fun hrun => ?_, fun htimer => ?_⟩
        · have hsame : leaseId = a.relayBridge.leaseId :=
            not_not.mp fun hother => hgood (.inl ⟨hrun, hother⟩)
          obtain ⟨hlease, hleaseEq, htoken⟩ := h.bridge hrun
          exact ⟨(hsame.trans hleaseEq.symm).trans_ne hlease, hsame, htoken⟩
        · exact ⟨fun hnone => hgood (.inr ⟨htimer, hnone⟩), (h.heartbeats htimer).2⟩
  | connect leaseId bridge =>
      obtain ⟨hlease, htoken, hbridge⟩ := hx
      refine iff_of_true ⟨fun hrun => ?_, fun _ => ⟨hlease, htoken⟩⟩ id
      exact ⟨hlease, (hbridge hrun).1.symm, htoken, (hbridge hrun).2.symm⟩

namespace GilCoordinator

variable {c : GilCoordinator}

/-- The probes are for leases. -/
def ProbesGranted (c : GilCoordinator) : Prop := ∀ p ∈ c.probes, p.leaseId ≠ ""

theorem newProbes_granted {e : ClientEvent} {p : RouteProbe} (h : p ∈ c.newProbes e) :
    p.leaseId ≠ "" := by
  cases e with
  | finished i reply env =>
      simp only [newProbes] at h
      split at h
      · split at h
        · next hstarts =>
            rw [List.mem_singleton.mp h]
            exact fun hnone => hstarts.2.1 (.inl hnone)
        · exact absurd h List.not_mem_nil
      · exact absurd h List.not_mem_nil
  | _ => exact absurd h List.not_mem_nil

theorem probeAfter_leaseId (e : ClientEvent) (k : Nat) (p : RouteProbe) :
    (probeAfter e k p).leaseId = p.leaseId := by
  unfold probeAfter
  split
  · split <;> rfl
  · rfl

theorem ProbesGranted.step (h : c.ProbesGranted) (e : ClientEvent) :
    (c.step e).ProbesGranted := by
  intro p hp
  rw [probes_step] at hp
  rcases List.mem_append.mp hp with hold | hnew
  · obtain ⟨k, hk, rfl⟩ := List.mem_mapIdx.mp hold
    rw [probeAfter_leaseId]
    exact h _ (List.getElem_mem hk)
  · exact newProbes_granted hnew

/-- What the client connects to is a lease of its session. -/
theorem change_connects (h : c.ProbesGranted) (e : ClientEvent) :
    (c.change e).Connects c.assignment := by
  cases e with
  | finished i reply env =>
      simp only [change]
      split
      · next p hi =>
          split
          · cases p.call with
            | requestVm deviceId deviceName =>
                -- a host without a relay, for which the session must still be there
                simp only [replyChange]
                split
                · split <;> trivial
                · split
                  · trivial
                  · next hconnects =>
                      exact ⟨fun hnone => hconnects (.inl (.inl hnone)),
                        fun hnone => hconnects (.inr (.inr hnone)),
                        fun hrun => absurd hrun (by simp [RelayBridge.stopped])⟩
            | _ =>
                simp only [replyChange]
                repeat' split
                all_goals trivial
          · trivial
      · trivial
  | probed i useRelay env =>
      simp only [change]
      split
      · next p hi =>
          split
          · trivial
          · -- the bridge is started for the lease of the probe, which is the current one
            have hlease := h p (List.mem_of_getElem? hi)
            simp only [probeChange]
            split
            · trivial
            · next hcurrent =>
                have htoken : c.accessToken ≠ "" := fun hnone => hcurrent (.inr hnone)
                split
                · rcases RelayBridge.start_cases env p.relayUrl c.accessToken p.leaseId
                    p.relayBasePort with ⟨message, hstart⟩ | ⟨hstart, -⟩
                  · rw [hstart]
                    trivial
                  · rw [hstart]
                    exact ⟨hlease, htoken, fun _ => ⟨rfl, rfl⟩⟩
                · exact ⟨hlease, htoken, fun hrun => absurd hrun (by simp [RelayBridge.stopped])⟩
      · trivial
  | _ =>
      simp only [change]
      repeat' split
      all_goals trivial

/-- The event leaves something running for a token, or a lease, that is no longer there. -/
def Discords (c : GilCoordinator) (e : ClientEvent) : Prop := (c.change e).Discords c.assignment

end GilCoordinator

open GilCoordinator in
/-- **Agreement.** Along every history, lease, token, bridge and heartbeats agree in every
state if and only if no event sets one of them past the others. -/
theorem lease_token_relay_agree_iff (config : ClientConfig) (settings : CoordinatorSettings)
    (es : List ClientEvent) :
    (∀ pre, pre <+: es → (run step (.create config settings) pre).assignment.Agrees) ↔
      AllSteps step (fun c e => ¬ c.Discords e) (.create config settings) es := by
  refine @run_invariant_iff _ _ step ProbesGranted (fun c => c.assignment.Agrees) Discords
    (fun c e h => h.step e) (fun c e hprobes hagrees => ?_) _ ?_ ?_ es
  · rw [assignment_step]
    exact hagrees.apply_iff (change_connects hprobes e)
  · exact fun p hp => absurd hp List.not_mem_nil
  · exact ⟨fun hrun => absurd hrun (by simp [assignment, create, RelayBridge.stopped]),
      fun htimer => absurd htimer (by simp [assignment, create])⟩

/-- A lease request finds the session expired while heartbeats are sent. -/
def expiredSession : List ClientEvent :=
  [.requestVm, .finished 0 (grantReply "lease-1" []) goodEnv, .requestVm,
    .finished 1 ⟨.otherError, 401, []⟩ goodEnv]

/-- The heartbeats go on without a token. -/
theorem expiredSession_disagrees :
    ¬ ∀ pre, pre <+: expiredSession →
      (run GilCoordinator.step savedClient pre).assignment.Agrees := by
  intro h
  have htimer : (run GilCoordinator.step savedClient expiredSession).heartbeatTimer = true := by
    decide +kernel
  exact absurd ((h _ (List.prefix_refl _)).heartbeats htimer).2 (by decide +kernel)

end GilStreaming.Client
