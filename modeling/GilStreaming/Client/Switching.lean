import GilStreaming.Client.Requests

/-!
# GilStreaming.Client.Switching

Going over to the other coordinator endpoint, and the callbacks from before.

Which lease request a probe belongs to is nowhere in the client, so it is kept beside it,
in a `TracedClient`: the origin of each probe, and how many requests had been sent when the
endpoint was last changed. A request of before is aborted by the change, but a probe of
before is not, and passes for a current one when the coordinator has handed back the same
lease. Whatever happens, a lease request leads to one host at most.
-/

namespace GilStreaming.Client

open GilStreaming.Trace

/-- The event changes the endpoint. -/
def GilCoordinator.switches (c : GilCoordinator) : ClientEvent → Bool
  | .setUseLanCoordinator enabled => c.useLanCoordinator ≠ enabled
  | _ => false

/-- The client, with where its probes come from. -/
structure TracedClient where
  client : GilCoordinator
  /-- The lease request that each probe belongs to, by its index. -/
  origins : List Nat
  /-- How many requests had been sent when the endpoint was last changed. -/
  switchedAt : Nat

namespace TracedClient

def initial (config : ClientConfig) (settings : CoordinatorSettings) : TracedClient :=
  ⟨.create config settings, [], 0⟩

/-- The origins of the probes that an event starts. -/
def newOrigins (t : TracedClient) : ClientEvent → List Nat
  | .finished i reply env => (t.client.newProbes (.finished i reply env)).map fun _ => i
  | _ => []

def step (t : TracedClient) (e : ClientEvent) : TracedClient where
  client := t.client.step e
  origins := t.origins ++ t.newOrigins e
  switchedAt := if t.client.switches e then t.client.replies.length else t.switchedAt

/-- The request whose reply, or whose probe, the event is. -/
def source (t : TracedClient) : ClientEvent → Option Nat
  | .finished i _ _ => some i
  | .probed k _ _ => t.origins[k]?
  | _ => none

/-- The request is a lease request, sent before the endpoint was changed. -/
def Past (t : TracedClient) (i : Nat) : Prop :=
  i < t.switchedAt ∧ ∃ deviceId deviceName,
    t.client.calls[i]? = some (.requestVm deviceId deviceName)

/-- What belongs to a lease request of before does nothing to the bridge and the
heartbeats, and hands over no host. -/
def DiscardsPast (t : TracedClient) (e : ClientEvent) : Prop :=
  ∀ i, t.source e = some i → t.Past i →
    (t.step e).client.relayBridge = t.client.relayBridge ∧
    ¬ (t.client.heartbeatTimer = false ∧ (t.step e).client.heartbeatTimer = true) ∧
    (t.step e).client.assignedHosts = 0

/-- A probe of before ends, the client has a session and the very lease that it was for, and
the bridge has to be stopped, or can be started. -/
def TakesPast (t : TracedClient) (e : ClientEvent) : Prop :=
  ∃ k useRelay env i p, e = .probed k useRelay env ∧ t.origins[k]? = some i ∧ t.Past i ∧
    t.client.probes[k]? = some p ∧ p.finished = false ∧ t.client.leaseId = p.leaseId ∧
    t.client.accessToken ≠ "" ∧
    (useRelay = true → t.client.relayBridge = .stopped →
      (RelayBridge.start env p.relayUrl t.client.accessToken p.leaseId p.relayBasePort).2 = none)

/-- How many hosts the events hand over on behalf of the request. -/
def assignedFor (i : Nat) : TracedClient → List ClientEvent → Nat
  | _, [] => 0
  | t, e :: es =>
    (if t.source e = some i then (t.step e).client.assignedHosts else 0) +
      assignedFor i (t.step e) es

/-! ### What is kept -/

variable {t : TracedClient}

/-- The request is no longer waited for. -/
def Settled (t : TracedClient) (i : Nat) : Prop :=
  ∃ p, t.client.replies[i]? = some p ∧ p.state ≠ .waiting

theorem Settled.step {i : Nat} (h : t.Settled i) (e : ClientEvent) : (t.step e).Settled i := by
  obtain ⟨p, hi, hsettled⟩ := h
  refine ⟨_, GilCoordinator.reply_kept e hi, ?_⟩
  unfold GilCoordinator.progress
  split
  · rw [if_neg fun h => hsettled h.2]
    exact hsettled
  · rw [if_neg fun h => hsettled h.2]
    exact hsettled
  · exact hsettled

/-- The reply that starts a probe was waited for until then. -/
theorem newOrigins_waiting {e : ClientEvent} {i : Nat} (h : i ∈ t.newOrigins e) :
    ∃ reply env p, e = .finished i reply env ∧ t.client.replies[i]? = some p ∧
      p.state = .waiting := by
  cases e with
  | finished j reply env =>
      obtain ⟨p, hp, rfl⟩ := List.mem_map.mp h
      simp only [GilCoordinator.newProbes] at hp
      split at hp
      · next hj => exact ⟨reply, env, _, rfl, hj, rfl⟩
      · exact absurd hp List.not_mem_nil
  | _ => exact absurd h List.not_mem_nil

theorem settled_finished {i : Nat} {reply : NetworkReply} {env : ReplyEnv} {p : PendingReply}
    (hi : t.client.replies[i]? = some p) (hwaiting : p.state = .waiting) :
    (t.step (.finished i reply env)).Settled i := by
  refine ⟨_, GilCoordinator.reply_kept _ hi, ?_⟩
  simp [GilCoordinator.progress, hwaiting]

/-- Every probe has an origin of its own, whose reply has come, and every request of before
is through. -/
structure Inv (t : TracedClient) : Prop where
  length : t.origins.length = t.client.probes.length
  origins : ∀ i ∈ t.origins, t.Settled i
  nodup : t.origins.Nodup
  past : ∀ i, i < t.switchedAt → t.Settled i

theorem newOrigins_length (t : TracedClient) (e : ClientEvent) :
    (t.newOrigins e).length = (t.client.newProbes e).length := by
  cases e with
  | finished i reply env => exact List.length_map _
  | _ => rfl

theorem newOrigins_nodup (t : TracedClient) (e : ClientEvent) : (t.newOrigins e).Nodup := by
  cases e with
  | finished i reply env =>
      simp only [newOrigins, GilCoordinator.newProbes]
      split
      · split <;> simp
      · simp
  | _ => exact List.nodup_nil

theorem Inv.step (h : t.Inv) (e : ClientEvent) : (t.step e).Inv where
  length := by
    have hprobes := t.client.probes_step e
    simp only [TracedClient.step, List.length_append, hprobes, List.length_mapIdx, h.length,
      newOrigins_length]
  origins := by
    intro i hi
    rcases List.mem_append.mp hi with hold | hnew
    · exact (h.origins i hold).step e
    · obtain ⟨reply, env, p, rfl, hi, hwaiting⟩ := newOrigins_waiting hnew
      exact settled_finished hi hwaiting
  nodup := by
    refine List.nodup_append.mpr ⟨h.nodup, t.newOrigins_nodup e, ?_⟩
    rintro i hold _ hnew rfl
    obtain ⟨reply, env, p, rfl, hi, hwaiting⟩ := newOrigins_waiting hnew
    obtain ⟨q, hq, hsettled⟩ := h.origins i hold
    obtain rfl := Option.some.inj (hi.symm.trans hq)
    exact hsettled hwaiting
  past := by
    intro i hi
    simp only [TracedClient.step] at hi
    split at hi
    · -- every reply that is waited for is aborted by the change
      next hswitches =>
        obtain ⟨p, hp⟩ : ∃ p, t.client.replies[i]? = some p :=
          ⟨_, List.getElem?_eq_getElem hi⟩
        refine ⟨_, GilCoordinator.reply_kept e hp, ?_⟩
        cases e with
        | setUseLanCoordinator enabled =>
            have hother : t.client.useLanCoordinator ≠ enabled := of_decide_eq_true hswitches
            by_cases hwaiting : p.state = .waiting <;>
              simp [GilCoordinator.progress, hother, hwaiting]
        | _ => exact absurd hswitches Bool.false_ne_true
    · exact (h.past i hi).step e

theorem inv_initial (config : ClientConfig) (settings : CoordinatorSettings) :
    (initial config settings).Inv where
  length := rfl
  origins := fun _ hi => absurd hi List.not_mem_nil
  nodup := List.nodup_nil
  past := fun _ hi => absurd hi (Nat.not_lt_zero _)

/-! ### The past -/

/-- A reply that is not waited for changes nothing. -/
theorem change_of_settled {i : Nat} (h : t.Settled i) (reply : NetworkReply) (env : ReplyEnv) :
    t.client.change (.finished i reply env) = .stay := by
  obtain ⟨p, hi, hsettled⟩ := h
  simp only [GilCoordinator.change, hi]
  exact if_neg hsettled

theorem discardsPast_of_stay {e : ClientEvent} (h : t.client.change e = .stay) :
    t.DiscardsPast e := by
  intro i _ _
  have hstep := t.client.assignment_step e
  have hhosts := t.client.assignedHosts_step e
  rw [h] at hstep hhosts
  refine ⟨congrArg Assignment.relayBridge hstep, fun htimer => ?_, hhosts⟩
  have hsame : (t.step e).client.heartbeatTimer = t.client.heartbeatTimer :=
    congrArg Assignment.heartbeatTimer hstep
  rw [htimer.1, htimer.2] at hsame
  exact absurd hsame (by simp)

/-- What the end of a probe changes. -/
theorem change_probed {k : Nat} {p : RouteProbe} (hk : t.client.probes[k]? = some p)
    (hrunning : p.finished = false) (useRelay : Bool) (env : BridgeEnv) :
    t.client.change (.probed k useRelay env) = t.client.probeChange p useRelay env := by
  simp only [GilCoordinator.change, hk, hrunning, Bool.false_eq_true, if_false]

theorem takesPast_probed {k i : Nat} {p : RouteProbe} (hk : t.client.probes[k]? = some p)
    (hrunning : p.finished = false) (useRelay : Bool) (env : BridgeEnv)
    (horigin : t.origins[k]? = some i) (hpast : t.Past i) :
    t.TakesPast (.probed k useRelay env) ↔
      t.client.leaseId = p.leaseId ∧ t.client.accessToken ≠ "" ∧
        (useRelay = true → t.client.relayBridge = .stopped →
          (RelayBridge.start env p.relayUrl t.client.accessToken p.leaseId p.relayBasePort).2 =
            none) := by
  constructor
  · rintro ⟨k', _, _, _, p', he, -, -, hk', -, htakes⟩
    obtain ⟨rfl, rfl, rfl⟩ := ClientEvent.probed.inj he
    obtain rfl := Option.some.inj (hk.symm.trans hk')
    exact htakes
  · exact fun htakes => ⟨k, useRelay, env, i, p, rfl, horigin, hpast, hk, hrunning, htakes⟩

/-- A probe of before that ends does something if it is not stale, and then connects, or stops
the bridge. -/
theorem discardsPast_probed {k i : Nat} {p : RouteProbe} (hk : t.client.probes[k]? = some p)
    (hrunning : p.finished = false) (useRelay : Bool) (env : BridgeEnv)
    (horigin : t.origins[k]? = some i) (hpast : t.Past i) :
    t.DiscardsPast (.probed k useRelay env) ↔ ¬ t.TakesPast (.probed k useRelay env) := by
  rw [takesPast_probed hk hrunning useRelay env horigin hpast]
  have hchange := change_probed hk hrunning useRelay env
  have hstep := t.client.assignment_step (.probed k useRelay env)
  have hhosts := t.client.assignedHosts_step (.probed k useRelay env)
  by_cases hstale : t.client.leaseId ≠ p.leaseId ∨ t.client.accessToken = ""
  · have hstay : t.client.probeChange p useRelay env = .stay := if_pos hstale
    exact iff_of_true (discardsPast_of_stay (hchange.trans hstay))
      fun htakes => hstale.elim (absurd htakes.1) htakes.2.1
  · obtain ⟨hlease, htoken⟩ := not_or.mp hstale
    have hlease := not_not.mp hlease
    rw [hchange] at hstep hhosts
    rcases t.client.probeChange_cases hlease htoken useRelay env with
      ⟨⟨bridge, hconnect⟩, hstart⟩ | ⟨hunreachable, hrelay, hfails⟩
    · -- it connects, and hands over a host
      refine iff_of_false (fun hdiscards => ?_) (not_not.mpr ⟨hlease, htoken, fun h _ => hstart h⟩)
      rw [hconnect] at hhosts
      exact absurd (hhosts.symm.trans (hdiscards i horigin hpast).2.2) Nat.one_ne_zero
    · -- it stops the bridge, which is something only if the bridge was up
      rw [hunreachable] at hstep hhosts
      have hbridge : (t.step (.probed k useRelay env)).client.relayBridge = .stopped :=
        congrArg Assignment.relayBridge hstep
      have htimer : (t.step (.probed k useRelay env)).client.heartbeatTimer =
          t.client.heartbeatTimer := congrArg Assignment.heartbeatTimer hstep
      by_cases hstopped : t.client.relayBridge = .stopped
      · refine iff_of_true (fun _ _ _ => ⟨hbridge.trans hstopped.symm, ?_, hhosts⟩)
          fun htakes => hfails (htakes.2.2 hrelay hstopped)
        rw [htimer]
        exact fun h => absurd (h.1.symm.trans h.2) (by simp)
      · refine iff_of_false (fun hdiscards => ?_)
          (not_not.mpr ⟨hlease, htoken, fun _ h => absurd h hstopped⟩)
        exact hstopped ((hdiscards i horigin hpast).1.symm.trans hbridge)

/-- **Step lemma.** -/
theorem discardsPast_iff (h : t.Inv) (e : ClientEvent) :
    t.DiscardsPast e ↔ ¬ t.TakesPast e := by
  cases e with
  | finished i reply env =>
      refine iff_of_true (fun j hsource hpast => ?_) ?_
      · obtain rfl := Option.some.inj hsource
        have hstay := change_of_settled (h.past i hpast.1) reply env
        exact discardsPast_of_stay hstay i rfl hpast
      · rintro ⟨_, _, _, _, _, he, -⟩
        exact absurd he (by simp)
  | probed k useRelay env =>
      by_cases hpast : ∃ i, t.origins[k]? = some i ∧ t.Past i
      · obtain ⟨i, horigin, hpast⟩ := hpast
        by_cases hrunning : ∃ p, t.client.probes[k]? = some p ∧ p.finished = false
        · obtain ⟨p, hk, hrunning⟩ := hrunning
          exact discardsPast_probed hk hrunning useRelay env horigin hpast
        · refine iff_of_true (discardsPast_of_stay ?_) ?_
          · simp only [GilCoordinator.change]
            cases hk : t.client.probes[k]? with
            | none => rfl
            | some p =>
                refine if_pos ?_
                by_contra hfinished
                exact hrunning ⟨p, hk, by simpa using hfinished⟩
          · rintro ⟨k', _, _, _, p, he, -, -, hk, hrun, -⟩
            obtain ⟨rfl, rfl, rfl⟩ := ClientEvent.probed.inj he
            exact hrunning ⟨p, hk, hrun⟩
      · refine iff_of_true (fun i hsource hi => absurd ⟨i, hsource, hi⟩ hpast) ?_
        rintro ⟨k', _, _, i, _, he, horigin, hi, -⟩
        obtain ⟨rfl, rfl, rfl⟩ := ClientEvent.probed.inj he
        exact hpast ⟨i, horigin, hi⟩
  | _ =>
      refine iff_of_true (fun i hsource _ => absurd hsource (by simp [source])) ?_
      rintro ⟨_, _, _, _, _, he, -⟩
      exact absurd he (by simp)

/-! ### One host a request -/

/-- Nothing that belongs to the request can hand over a host any more. -/
structure Exhausted (t : TracedClient) (i : Nat) : Prop where
  settled : t.Settled i
  probes : ∀ (k : Nat) (p : RouteProbe), t.origins[k]? = some i → t.client.probes[k]? = some p →
    p.finished = true

/-- A probe after a step, if it was there before. -/
theorem probe_step (h : t.Inv) {e : ClientEvent} {k i : Nat} {p : RouteProbe}
    (hk : t.origins[k]? = some i) (hp : (t.step e).client.probes[k]? = some p) :
    ∃ p', t.client.probes[k]? = some p' ∧ p = GilCoordinator.probeAfter e k p' := by
  have hlt : k < t.client.probes.length := h.length ▸ (List.getElem?_eq_some_iff.mp hk).1
  rw [step, GilCoordinator.probes_step,
    List.getElem?_append_left (by rwa [List.length_mapIdx]), List.getElem?_mapIdx] at hp
  obtain ⟨p', hp', rfl⟩ := Option.map_eq_some_iff.mp hp
  exact ⟨p', hp', rfl⟩

theorem probeAfter_finished (e : ClientEvent) (k : Nat) {p : RouteProbe}
    (h : p.finished = true) : (GilCoordinator.probeAfter e k p).finished = true := by
  unfold GilCoordinator.probeAfter
  split
  · split
    · rfl
    · exact h
  · exact h

/-- The origin of a probe after a step: one of before, unless the reply has just come. -/
theorem origin_step {e : ClientEvent} {k i : Nat} (h : (t.step e).origins[k]? = some i) :
    t.origins[k]? = some i ∨ i ∈ t.newOrigins e := by
  by_cases hk : k < t.origins.length
  · exact .inl ((List.getElem?_append_left hk).symm.trans h)
  · have hget := (List.getElem?_append_right (Nat.not_lt.mp hk)).symm.trans h
    exact .inr (List.mem_of_getElem? hget)

theorem Exhausted.step {i : Nat} (hi : t.Exhausted i) (h : t.Inv) (e : ClientEvent) :
    (t.step e).Exhausted i where
  settled := hi.settled.step e
  probes := by
    intro k p hk hp
    rcases origin_step hk with hold | hnew
    · obtain ⟨p', hp', rfl⟩ := probe_step h hold hp
      exact probeAfter_finished e k (hi.probes k p' hold hp')
    · obtain ⟨reply, env, q, rfl, hq, hwaiting⟩ := newOrigins_waiting hnew
      obtain ⟨q', hq', hsettled⟩ := hi.settled
      obtain rfl := Option.some.inj (hq.symm.trans hq')
      exact absurd hwaiting hsettled

/-- What belongs to an exhausted request hands over nothing. -/
theorem Exhausted.assignedHosts {i : Nat} (hi : t.Exhausted i) {e : ClientEvent}
    (hsource : t.source e = some i) : (t.step e).client.assignedHosts = 0 := by
  refine (t.client.assignedHosts_step e).trans ?_
  cases e with
  | finished j reply env =>
      obtain rfl := Option.some.inj hsource
      rw [change_of_settled hi.settled]
      rfl
  | probed k useRelay env =>
      simp only [GilCoordinator.change]
      cases hk : t.client.probes[k]? with
      | none => rfl
      | some p =>
          dsimp only
          rw [if_pos (hi.probes k p hsource hk)]
          rfl
  | _ => exact absurd hsource (by simp [source])

/-- A reply that connects to a host starts no probe. -/
theorem newOrigins_of_connect {i : Nat} {reply : NetworkReply} {env : ReplyEnv}
    (h : (t.client.change (.finished i reply env)).hosts ≠ 0) :
    t.newOrigins (.finished i reply env) = [] := by
  simp only [newOrigins, GilCoordinator.newProbes]
  split
  · next hi =>
      split
      · next hstarts =>
          refine absurd ?_ h
          simp only [GilCoordinator.change, hi, if_true, GilCoordinator.replyChange]
          rw [if_neg (not_not.mpr hstarts.1), if_pos (.inr (.inl hstarts.2.2))]
          rfl
      · rfl
  · rfl

/-- What hands over a host exhausts its request. -/
theorem exhausted_of_assigns (h : t.Inv) {e : ClientEvent} {i : Nat}
    (hsource : t.source e = some i) (hhosts : (t.step e).client.assignedHosts ≠ 0) :
    (t.step e).Exhausted i := by
  have hchange : (t.client.change e).hosts ≠ 0 := fun hzero =>
    hhosts ((t.client.assignedHosts_step e).trans hzero)
  cases e with
  | finished j reply env =>
      obtain rfl := Option.some.inj hsource
      have hnot : ¬ t.Settled j := fun hsettled =>
        hchange (by rw [change_of_settled hsettled]; rfl)
      obtain ⟨p, hp, hwaiting⟩ : ∃ p, t.client.replies[j]? = some p ∧ p.state = .waiting := by
        cases hp : t.client.replies[j]? with
        | none => exact absurd (by simp [GilCoordinator.change, hp, Change.hosts]) hchange
        | some p => exact ⟨p, rfl, not_not.mp fun hs => hnot ⟨p, hp, hs⟩⟩
      refine ⟨settled_finished hp hwaiting, fun k q hk _ => ?_⟩
      rcases origin_step hk with hold | hnew
      · exact absurd (h.origins j (List.mem_of_getElem? hold)) hnot
      · rw [newOrigins_of_connect hchange] at hnew
        exact absurd hnew List.not_mem_nil
  | probed k useRelay env =>
      -- no other probe comes from the same request
      refine ⟨(h.origins i (List.mem_of_getElem? hsource)).step _, fun k' p hk' hp => ?_⟩
      rcases origin_step hk' with hold | hnew
      · obtain ⟨p', -, rfl⟩ := probe_step h hold hp
        have hsame : k' = k :=
          (List.getElem?_inj (List.getElem?_eq_some_iff.mp hold).1 h.nodup).mp
            (hold.trans hsource.symm)
        simp [GilCoordinator.probeAfter, hsame]
      · exact absurd hnew List.not_mem_nil
  | _ => exact absurd hsource (by simp [source])

theorem hosts_le_one (x : Change) : x.hosts ≤ 1 := by
  cases x <;> simp [Change.hosts]

theorem assignedFor_exhausted {i : Nat} {es : List ClientEvent} (h : t.Inv)
    (hi : t.Exhausted i) : assignedFor i t es = 0 := by
  induction es generalizing t with
  | nil => rfl
  | cons e es ih =>
      rw [assignedFor, ih (h.step e) (hi.step h e)]
      split
      · next hsource => rw [hi.assignedHosts hsource]
      · rfl

/-- **Run lemma.** A request leads to one host at most. -/
theorem assignedFor_le_one {es : List ClientEvent} (h : t.Inv) (i : Nat) :
    assignedFor i t es ≤ 1 := by
  induction es generalizing t with
  | nil => exact Nat.zero_le 1
  | cons e es ih =>
      rw [assignedFor]
      split
      · next hsource =>
          by_cases hhosts : (t.step e).client.assignedHosts = 0
          · rw [hhosts, Nat.zero_add]
            exact ih (h.step e)
          · rw [assignedFor_exhausted (h.step e) (exhausted_of_assigns h hsource hhosts)]
            exact (t.client.assignedHosts_step e).trans_le (hosts_le_one _)
      · rw [Nat.zero_add]
        exact ih (h.step e)

end TracedClient

open TracedClient in
/-- **Switching.** Along every history, nothing that belongs to a lease request of before the
last change of the endpoint does anything, and every request leads to one host at most, if
and only if no probe of before ends while the client holds the lease it was for. -/
theorem switch_discards_past_iff (config : ClientConfig) (settings : CoordinatorSettings)
    (es : List ClientEvent) :
    (AllSteps step DiscardsPast (initial config settings) es ∧
        ∀ i, assignedFor i (initial config settings) es ≤ 1) ↔
      AllSteps step (fun t e => ¬ t.TakesPast e) (initial config settings) es := by
  have hinv : ∀ pre e post, es = pre ++ e :: post →
      (run step (initial config settings) pre).Inv := by
    intro pre _ _ _
    exact @run_invariant _ _ step (fun _ _ => True) Inv (fun _ e _ h => h.step e) _
      (inv_initial config settings) pre (AllSteps.of_forall (fun _ _ => trivial) _)
  constructor
  · rintro ⟨hdiscards, -⟩
    refine allSteps_iff.mpr fun pre e post hes => ?_
    exact (discardsPast_iff (hinv pre e post hes) e).mp (allSteps_iff.mp hdiscards pre e post hes)
  · intro hgood
    refine ⟨allSteps_iff.mpr fun pre e post hes => ?_,
      assignedFor_le_one (inv_initial config settings)⟩
    exact (discardsPast_iff (hinv pre e post hes) e).mpr (allSteps_iff.mp hgood pre e post hes)

/-- The endpoint is changed during a probe, and the coordinator hands back the lease. -/
def switchedDuringProbe : List ClientEvent :=
  [.requestVm, .finished 0 (grantReply "lease-1" relayReply) goodEnv, .setUseLanCoordinator true,
    .resumeSavedSession, .finished 1 (grantReply "lease-1" []) goodEnv,
    .probed 0 true ⟨true, none, true, none⟩]

/-- The probe of before starts the relay bridge. -/
theorem switchedDuringProbe_taken :
    ¬ AllSteps TracedClient.step TracedClient.DiscardsPast
      (.initial ⟨"device-1", "Test PC", "stream.example", "10.0.0.2", false⟩
        ⟨"token", "Ann", "ann@example.com", "", false⟩) switchedDuringProbe := by
  intro h
  have hdiscards := allSteps_iff.mp h (switchedDuringProbe.take 5) _ [] rfl 0 (by decide +kernel)
    ⟨by decide +kernel, "device-1", "Test PC", by decide +kernel⟩
  exact absurd hdiscards.2.2 (by decide +kernel)

end GilStreaming.Client
