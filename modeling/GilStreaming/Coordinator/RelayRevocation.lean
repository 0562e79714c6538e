import GilStreaming.Coordinator.History
import GilStreaming.Coordinator.Relay

/-!
# GilStreaming.Coordinator.RelayRevocation

When a relay stops after its lease has gone to somebody else.

The copy loops never look at the store; the watcher does, every ten seconds. So
payloads go through for a while after the VM was granted to another client
(`payload_after_reassignment`), but not beyond the first tick at which the lease is
gone: the check fails, as it does whenever another client holds the VM, because the
store holds one lease per VM, and the watcher closes both sockets (`relay_revoked`).
-/

namespace GilStreaming.Coordinator

open GilStreaming.Trace

/-! ### A session whose sockets close -/

/-- The entry carries bytes of the stream. -/
def Sent.isPayload : Sent → Bool
  | .closeFrame _ _ => false
  | _ => true

/-- The steps that a watcher in the middle of closing still has to take. -/
def Watcher.remaining : Watcher → Option Nat
  | .sendingClose => some 3
  | .closingClient => some 2
  | .closingUpstream => some 1
  | .revoked => some 0
  | _ => none

def SessionEvent.isWatcher : SessionEvent → Bool
  | .watcher _ => true
  | _ => false

namespace RelaySession

/-- The payloads sent so far. -/
def payloads (s : RelaySession) : List Sent := s.sent.filter Sent.isPayload

/-- What a watcher that is closing has already closed. -/
structure ClosedBehind (s : RelaySession) : Prop where
  client : s.watcher = .closingUpstream ∨ s.watcher = .revoked → s.clientOpen = false
  upstream : s.watcher = .revoked → s.upstreamOpen = false

/-- What a step of a copy loop leaves alone; it sends through open sockets only. -/
structure Copies (s s' : RelaySession) : Prop where
  client : s'.clientOpen = s.clientOpen
  upstream : s'.upstreamOpen = s.upstreamOpen
  watcher : s'.watcher = s.watcher
  silent : s.clientOpen = false → s.upstreamOpen = false → s'.sent = s.sent

variable {s : RelaySession}

theorem Copies.refl (s : RelaySession) : s.Copies s := ⟨rfl, rfl, rfl, fun _ _ => rfl⟩

theorem copies_endUplink (err : RelayError) : s.Copies (s.endUplink err) :=
  ⟨rfl, rfl, rfl, fun _ _ => rfl⟩

theorem copies_endDownlink (err : RelayError) : s.Copies (s.endDownlink err) :=
  ⟨rfl, rfl, rfl, fun _ _ => rfl⟩

theorem copies_clientRead (message : Except RelayError (Bool × Payload)) :
    s.Copies (s.clientRead message) := by
  unfold clientRead
  split
  · split
    · exact copies_endUplink _
    · split
      · exact copies_endUplink _
      · split
        · exact .refl s
        · split
          · split
            · exact .refl s
            · exact ⟨rfl, rfl, rfl, fun _ _ => rfl⟩
          · split
            · exact copies_endUplink _
            · exact ⟨rfl, rfl, rfl, fun _ _ => rfl⟩
  · exact .refl s

theorem copies_upstreamWrite (count : Nat) (err : Option RelayError) :
    s.Copies (s.upstreamWrite count err) := by
  unfold upstreamWrite
  split
  · next payload _ =>
      split
      · exact copies_endUplink _
      · next hopen =>
          -- the socket is open, so what is sent here is no breach of `silent`
          have hsilent : ∀ s' : RelaySession, s.clientOpen = false → s.upstreamOpen = false →
              s'.sent = s.sent := fun _ _ hclosed => absurd hclosed (by simpa using hopen)
          split
          · dsimp only
            have hsent : s.Copies (if payload.take count = [] then s
                else s.send (.toUpstream (payload.take count))) := by
              split
              · exact .refl s
              · exact ⟨rfl, rfl, rfl, hsilent _⟩
            generalize (if payload.take count = [] then s
              else s.send (.toUpstream (payload.take count))) = s' at hsent
            cases err with
            | some err =>
                exact ⟨hsent.client, hsent.upstream, hsent.watcher, hsilent _⟩
            | none =>
                exact ⟨hsent.client, hsent.upstream, hsent.watcher, hsilent _⟩
          · cases err with
            | some err => exact copies_endUplink _
            | none => exact ⟨rfl, rfl, rfl, hsilent _⟩
  · exact .refl s

theorem copies_upstreamRead (chunk : Payload) (err : Option RelayError) :
    s.Copies (s.upstreamRead chunk err) := by
  unfold upstreamRead
  split
  · split
    · exact copies_endDownlink _
    · dsimp only
      split
      · exact ⟨rfl, rfl, rfl, fun _ _ => rfl⟩
      · cases err
        · exact .refl s
        · exact copies_endDownlink _
  · exact .refl s

theorem copies_clientWrite (err : Option RelayError) : s.Copies (s.clientWrite err) := by
  unfold clientWrite
  split
  · next chunk readErr _ =>
      split
      · exact copies_endDownlink _
      · next hopen =>
          have hsilent : ∀ s' : RelaySession, s.clientOpen = false → s.upstreamOpen = false →
              s'.sent = s.sent := fun _ hclosed => absurd hclosed (by simpa using hopen)
          cases err
          · cases readErr <;> exact ⟨rfl, rfl, rfl, hsilent _⟩
          · exact copies_endDownlink _
  · exact .refl s

/-- Sockets are closed and never opened again, and only close frames are sent without a
copy loop. -/
structure Winds (s s' : RelaySession) : Prop where
  client : s'.clientOpen = true → s.clientOpen = true
  upstream : s'.upstreamOpen = true → s.upstreamOpen = true
  silent : s'.payloads = s.payloads

theorem winds_writeClose (s : RelaySession) (controlSent : Bool) (code : Nat) (text : String) :
    s.Winds (s.writeClose controlSent code text) ∧
      (s.writeClose controlSent code text).watcher = s.watcher := by
  unfold writeClose
  split
  · exact ⟨⟨id, id, by simp [payloads, send, Sent.isPayload]⟩, rfl⟩
  · exact ⟨⟨id, id, rfl⟩, rfl⟩

theorem winds_handlerStep (controlSent timedOut : Bool) :
    s.Winds (s.handlerStep controlSent timedOut) ∧
      (s.handlerStep controlSent timedOut).watcher = s.watcher := by
  unfold handlerStep
  split
  · split
    · exact ⟨⟨id, id, rfl⟩, rfl⟩
    · next result results _ =>
        dsimp only
        split
        · obtain ⟨h, hwatcher⟩ :=
            winds_writeClose { s with results := results } controlSent 1000 "upstream closed"
          exact ⟨⟨h.client, h.upstream, h.silent⟩, hwatcher⟩
        · exact ⟨⟨id, id, rfl⟩, rfl⟩
  · split
    · split <;> exact ⟨⟨id, id, rfl⟩, rfl⟩
    · exact ⟨⟨id, id, rfl⟩, rfl⟩
  · exact ⟨⟨id, id, rfl⟩, rfl⟩
  · exact ⟨⟨fun h => absurd h (by simp), id, rfl⟩, rfl⟩
  · exact ⟨⟨id, fun h => absurd h (by simp), rfl⟩, rfl⟩
  · exact ⟨⟨id, id, rfl⟩, rfl⟩

theorem winds_watcherStep (controlSent : Bool) : s.Winds (s.watcherStep controlSent) := by
  unfold watcherStep
  split
  · obtain ⟨h, -⟩ := winds_writeClose s controlSent 1008 "lease expired"
    exact ⟨h.client, h.upstream, h.silent⟩
  · exact ⟨fun h => absurd h (by simp), id, rfl⟩
  · exact ⟨id, fun h => absurd h (by simp), rfl⟩
  · exact ⟨id, id, rfl⟩

/-- Only the watcher moves a watcher that is closing. -/
theorem step_watcher (hclosing : s.watcher.remaining ≠ none) {e : SessionEvent}
    (he : e.isWatcher = false) : (s.step e).watcher = s.watcher := by
  cases e with
  | clientRead message => exact (copies_clientRead message).watcher
  | upstreamWrite count err => exact (copies_upstreamWrite count err).watcher
  | upstreamRead chunk err => exact (copies_upstreamRead chunk err).watcher
  | clientWrite err => exact (copies_clientWrite err).watcher
  | handler controlSent timedOut => exact (winds_handlerStep controlSent timedOut).2
  | watcherDone =>
      have hne : s.watcher ≠ .waiting := fun hw => hclosing (by rw [hw]; rfl)
      rw [step, if_neg fun hand => hne hand.1]
  | watcher controlSent => exact absurd he (by simp [SessionEvent.isWatcher])

/-- No step opens a socket. -/
theorem step_open (e : SessionEvent) :
    ((s.step e).clientOpen = true → s.clientOpen = true) ∧
      ((s.step e).upstreamOpen = true → s.upstreamOpen = true) := by
  have hcopies : ∀ {s'}, s.Copies s' → (s'.clientOpen = true → s.clientOpen = true) ∧
      (s'.upstreamOpen = true → s.upstreamOpen = true) :=
    fun h => ⟨fun hopen => h.client ▸ hopen, fun hopen => h.upstream ▸ hopen⟩
  cases e with
  | clientRead message => exact hcopies (copies_clientRead message)
  | upstreamWrite count err => exact hcopies (copies_upstreamWrite count err)
  | upstreamRead chunk err => exact hcopies (copies_upstreamRead chunk err)
  | clientWrite err => exact hcopies (copies_clientWrite err)
  | handler controlSent timedOut =>
      have h := (winds_handlerStep (s := s) controlSent timedOut).1
      exact ⟨h.client, h.upstream⟩
  | watcherDone => rw [step]; split <;> exact ⟨id, id⟩
  | watcher controlSent =>
      have h := winds_watcherStep (s := s) controlSent
      exact ⟨h.client, h.upstream⟩

/-- With both sockets closed no payload is sent. -/
theorem step_payloads (hclient : s.clientOpen = false) (hupstream : s.upstreamOpen = false)
    (e : SessionEvent) : (s.step e).payloads = s.payloads := by
  have hcopies : ∀ {s'}, s.Copies s' → s'.payloads = s.payloads :=
    fun h => congrArg (List.filter Sent.isPayload) (h.silent hclient hupstream)
  cases e with
  | clientRead message => exact hcopies (copies_clientRead message)
  | upstreamWrite count err => exact hcopies (copies_upstreamWrite count err)
  | upstreamRead chunk err => exact hcopies (copies_upstreamRead chunk err)
  | clientWrite err => exact hcopies (copies_clientWrite err)
  | handler controlSent timedOut => exact (winds_handlerStep controlSent timedOut).1.silent
  | watcherDone => rw [step]; split <;> rfl
  | watcher controlSent => exact (winds_watcherStep controlSent).silent

/-- The watcher closes the client, then the VM's socket, then nothing more. -/
theorem ClosedBehind.watcherStep {n : Nat} (h : s.ClosedBehind)
    (hn : s.watcher.remaining = some n) (controlSent : Bool) :
    (s.watcherStep controlSent).watcher.remaining = some (n - 1) ∧
      (s.watcherStep controlSent).ClosedBehind := by
  unfold RelaySession.watcherStep
  split
  · next hw =>
      rw [hw] at hn
      obtain rfl := Option.some.inj hn
      exact ⟨rfl, ⟨fun h => absurd h (by simp), fun h => absurd h (by simp)⟩⟩
  · next hw =>
      rw [hw] at hn
      obtain rfl := Option.some.inj hn
      exact ⟨rfl, ⟨fun _ => rfl, fun h => absurd h (by simp)⟩⟩
  · next hw =>
      rw [hw] at hn
      obtain rfl := Option.some.inj hn
      exact ⟨rfl, ⟨fun _ => h.client (.inl hw), fun _ => rfl⟩⟩
  · next hsending hclient hupstream =>
      have hw : s.watcher = .revoked := by
        cases hw : s.watcher with
        | revoked => rfl
        | sendingClose => exact absurd hw hsending
        | closingClient => exact absurd hw hclient
        | closingUpstream => exact absurd hw hupstream
        | waiting => rw [hw] at hn; exact absurd hn (by simp [Watcher.remaining])
        | stopped => rw [hw] at hn; exact absurd hn (by simp [Watcher.remaining])
      rw [hw] at hn
      obtain rfl := Option.some.inj hn
      exact ⟨by rw [hw]; rfl, h⟩

/-- **Step lemma.** -/
theorem ClosedBehind.step {n : Nat} (h : s.ClosedBehind) (hn : s.watcher.remaining = some n)
    (e : SessionEvent) :
    (s.step e).watcher.remaining = some (if e.isWatcher then n - 1 else n) ∧
      (s.step e).ClosedBehind := by
  by_cases he : e.isWatcher = true
  · rw [if_pos he]
    cases e with
    | watcher controlSent => exact h.watcherStep hn controlSent
    | _ => exact absurd he (by simp [SessionEvent.isWatcher])
  · rw [if_neg he]
    have hw := step_watcher (s := s) (by rw [hn]; simp) (Bool.eq_false_iff.mpr he)
    obtain ⟨hclient, hupstream⟩ := s.step_open e
    rw [hw]
    refine ⟨hn, ⟨fun hclosed => ?_, fun hclosed => ?_⟩⟩
    · rw [hw] at hclosed
      exact Bool.eq_false_iff.mpr fun hopen => absurd (hclient hopen) (by simp [h.client hclosed])
    · rw [hw] at hclosed
      exact Bool.eq_false_iff.mpr fun hopen =>
        absurd (hupstream hopen) (by simp [h.upstream hclosed])

end RelaySession

/-! ### The system while the watcher closes -/

/-- The event is a step of a watcher that is closing. -/
def RelayEvent.isWatcher : RelayEvent → Bool
  | .session _ e => e.isWatcher
  | _ => false

namespace RelaySystem

/-- The payloads the relay has sent so far. -/
def payloads (sys : RelaySystem) : List Sent :=
  match sys.relay with
  | .running _ _ session => session.payloads
  | _ => []

/-- The step sends a payload to the VM or back to the client. -/
def Forwards (sys : RelaySystem) (e : RelayEvent) : Prop := (sys.step e).payloads ≠ sys.payloads

/-- The watcher has `n` steps left until both sockets are closed. -/
def Closing (sys : RelaySystem) (n : Nat) : Prop :=
  ∃ lease vm session, sys.relay = .running lease vm session ∧
    session.watcher.remaining = some n ∧ session.ClosedBehind

/-- What an event does to a relay that is running. -/
theorem step_running {sys : RelaySystem} {lease : Lease} {vm : VM} {session : RelaySession}
    (h : sys.relay = .running lease vm session) (hclosing : session.watcher ≠ .waiting)
    (e : RelayEvent) :
    (sys.step e).relay = .running lease vm
      (match e with
        | .session _ e => session.step e
        | _ => session) := by
  cases e with
  | store env c => simp only [step, h]
  | connect now => simp only [step, h]
  | dialed ok => simp only [step, h]
  | upgraded ok => simp only [step, h]
  | tick now => simp only [step, h, if_neg hclosing]
  | session now e => simp only [step, h]

theorem Closing.step {sys : RelaySystem} {n : Nat} (h : sys.Closing n) (e : RelayEvent) :
    (sys.step e).Closing (if e.isWatcher then n - 1 else n) := by
  obtain ⟨lease, vm, session, hrunning, hn, hbehind⟩ := h
  have hclosing : session.watcher ≠ .waiting := fun hw => by
    rw [hw] at hn
    exact absurd hn (by simp [Watcher.remaining])
  have hstep := step_running hrunning hclosing e
  cases e with
  | session now e =>
      obtain ⟨hn', hbehind'⟩ := hbehind.step hn e
      exact ⟨lease, vm, _, hstep, hn', hbehind'⟩
  | _ => exact ⟨lease, vm, session, hstep, hn, hbehind⟩

theorem Closing.run {sys : RelaySystem} {n : Nat} (h : sys.Closing n) (es : List RelayEvent) :
    (run RelaySystem.step sys es).Closing (n - es.countP RelayEvent.isWatcher) := by
  induction es generalizing sys n with
  | nil => exact h
  | cons e es ih =>
      have hrun := ih (h.step e)
      rw [List.countP_cons, run_cons]
      split at hrun
      · next he => rw [if_pos he, Nat.add_comm, Nat.sub_add_eq]; exact hrun
      · next he => rw [if_neg he]; exact hrun

/-- Once the watcher is through, nothing is forwarded. -/
theorem Closing.not_forwards {sys : RelaySystem} (h : sys.Closing 0) (e : RelayEvent) :
    ¬ sys.Forwards e := by
  obtain ⟨lease, vm, session, hrunning, hn, hbehind⟩ := h
  have hrevoked : session.watcher = .revoked := by
    cases hw : session.watcher <;> rw [hw] at hn <;> simp_all [Watcher.remaining]
  have hstep := step_running hrunning (by rw [hrevoked]; simp) e
  rw [Forwards, not_not, payloads, payloads, hstep, hrunning]
  cases e with
  | session now e =>
      exact session.step_payloads (hbehind.client (.inr hrevoked)) (hbehind.upstream hrevoked) e
  | _ => rfl

/-! ### The system and its store -/

/-- The call that an event makes on the store, by another client or by the relay. -/
def worldEvent? (sys : RelaySystem) (e : RelayEvent) : Option Event :=
  match e, sys.relay with
  | .store env c, _ => some (.call env c)
  | .connect now, .requested =>
    if sys.request.leaseID = "" ∨
        !relayAllowedOffsets sys.request.transport sys.request.offset then none
    else some (sys.check now)
  | .tick now, .running _ _ session =>
    if session.watcher = .waiting then some (sys.check now) else none
  | _, _ => none

/-- The calls that the store has seen along a run. -/
def calls (sys : RelaySystem) : List RelayEvent → List Event
  | [] => []
  | e :: es => (sys.worldEvent? e).toList ++ (sys.step e).calls es

theorem step_world (sys : RelaySystem) (e : RelayEvent) :
    (sys.step e).world = sys.world.run (sys.worldEvent? e).toList := by
  unfold worldEvent? step
  cases e with
  | store env c => rfl
  | connect now =>
      cases sys.relay with
      | requested => dsimp only; split <;> rfl
      | _ => rfl
  | dialed ok => cases sys.relay <;> rfl
  | upgraded ok => cases sys.relay <;> rfl
  | tick now =>
      cases sys.relay with
      | running lease vm session => dsimp only; split <;> rfl
      | _ => rfl
  | session now e => cases sys.relay <;> rfl

@[simp] theorem step_request (sys : RelaySystem) (e : RelayEvent) :
    (sys.step e).request = sys.request := by
  unfold step
  split <;> first | rfl | (split <;> rfl)

/-- **Projection.** The store's side of a run is the run of the calls it has seen. -/
theorem run_world (sys : RelaySystem) (es : List RelayEvent) :
    (run RelaySystem.step sys es).world = sys.world.run (sys.calls es) := by
  induction es generalizing sys with
  | nil => rfl
  | cons e es ih => rw [run_cons, ih, step_world, calls, World.run_append]

end RelaySystem

/-- The lease and the VM that a request was admitted for. -/
def Relay.admittedFor : Relay → Option (Lease × VM)
  | .dialing lease vm => some (lease, vm)
  | .upgrading lease vm => some (lease, vm)
  | .running lease vm _ => some (lease, vm)
  | _ => none

/-- A lease with `L`'s id, if memory has one, is on `L`'s VM and of `L`'s client. -/
def World.KeepsIdentity (w : World) (L : Lease) : Prop :=
  ∀ s l, w.process = some s → s.leases.lookup L.id = some l →
    l.vmID = L.vmID ∧ l.client = L.client

/-- A call that does not draw the id of `L` gives it to no other lease. -/
theorem World.KeepsIdentity.step {w : World} {L : Lease} {env : CallEnv} {c : Call}
    (hw : w.Sound) (h : w.KeepsIdentity L) (hfresh : w.DrawsFresh (.call env c))
    (hid : env.randomID ≠ some L.id) : (w.step (.call env c)).KeepsIdentity L := by
  intro s' l' hs' hl'
  cases hs : w.process with
  | none => rw [World.step_call_down hs] at hs'; exact h s' l' hs' hl'
  | some s =>
      rw [World.step_call hs] at hs'
      obtain rfl := Option.some.inj hs'
      have hex := hw.memory s hs
      have hchange := (exec_edited hex w.disk env c).change (hfresh env c s rfl hs) L.id
      rw [hl'] at hchange
      rcases hchange.of_some with ⟨l, hl, -, hvm, hclient, -⟩ | ⟨-, hdrawn, -⟩
      · obtain ⟨hvm', hclient'⟩ := h s l hs hl
        exact ⟨hvm.trans hvm', hclient.trans hclient'⟩
      · rw [((exec_edited hex w.disk env c).exclusive hex).own_id hl'] at hdrawn
        exact absurd hdrawn hid

/-- What a relay knows about the lease it was admitted for, after the calls `es`. -/
structure RelaySystem.Admitted (sys : RelaySystem) (es : List Event) (L : Lease) (vm : VM) :
    Prop where
  request : L.id = sys.request.leaseID
  vm : vm.id = L.vmID
  drawn : L.id ∈ drawnIDs es
  identity : sys.world.KeepsIdentity L

namespace RelaySystem

variable {vms : List VM} {ttl : Int}

/-- A relay is admitted for what it was admitted for before, or just now, by a
`LeaseVM` that answered with it. -/
theorem step_admittedFor {sys : RelaySystem} {e : RelayEvent} {L : Lease} {vm : VM}
    (h : (sys.step e).relay.admittedFor = some (L, vm)) :
    sys.relay.admittedFor = some (L, vm) ∨
      ∃ now, sys.worldEvent? e = some (sys.check now) ∧
        sys.world.reply (sys.check now) = some (.ok (.leaseAndVM L vm)) := by
  cases e with
  | store env c => exact .inl h
  | connect now =>
      cases hrelay : sys.relay with
      | requested =>
          simp only [step, hrelay] at h
          split at h
          · exact absurd h (by simp [Relay.admittedFor])
          · next hvalid =>
              refine .inr ⟨now, by simp only [worldEvent?, hrelay, if_neg hvalid], ?_⟩
              dsimp only at h
              unfold admitted at h
              split at h
              · next lease vm' hreply =>
                  dsimp only at h
                  split at h
                  · exact absurd h (by simp [Relay.admittedFor])
                  · obtain ⟨rfl, rfl⟩ := Prod.mk.injEq .. ▸ Option.some.inj h
                    exact hreply
              · exact absurd h (by simp [Relay.admittedFor])
              · exact absurd h (by simp [Relay.admittedFor])
      | _ => simp only [step, hrelay] at h; exact .inl (hrelay ▸ h)
  | dialed ok =>
      cases hrelay : sys.relay with
      | dialing lease vm' =>
          simp only [step, hrelay] at h
          split at h
          · exact .inl h
          · exact absurd h (by simp [Relay.admittedFor])
      | _ => simp only [step, hrelay] at h; exact .inl (hrelay ▸ h)
  | upgraded ok =>
      cases hrelay : sys.relay with
      | upgrading lease vm' =>
          simp only [step, hrelay] at h
          split at h
          · exact .inl h
          · exact absurd h (by simp [Relay.admittedFor])
      | _ => simp only [step, hrelay] at h; exact .inl (hrelay ▸ h)
  | tick now =>
      cases hrelay : sys.relay with
      | running lease vm' session =>
          simp only [step, hrelay] at h
          split at h
          · exact .inl h
          · exact .inl (hrelay ▸ h)
      | _ => simp only [step, hrelay] at h; exact .inl (hrelay ▸ h)
  | session now e =>
      cases hrelay : sys.relay with
      | running lease vm' session => simp only [step, hrelay] at h; exact .inl h
      | _ => simp only [step, hrelay] at h; exact .inl (hrelay ▸ h)

theorem worldEvent?_call {sys : RelaySystem} {e : RelayEvent} {ev : Event}
    (h : sys.worldEvent? e = some ev) : ∃ env c, ev = .call env c := by
  unfold worldEvent? at h
  split at h
  · exact ⟨_, _, (Option.some.inj h).symm⟩
  · split at h
    · exact absurd h (by simp)
    · exact ⟨_, _, (Option.some.inj h).symm⟩
  · split at h
    · exact ⟨_, _, (Option.some.inj h).symm⟩
    · exact absurd h (by simp)
  · exact absurd h (by simp)

/-- A successful check finds the lease in memory, on an available VM. -/
theorem check_ok {sys : RelaySystem} {now : Int} {r : Reply}
    (h : sys.world.reply (sys.check now) = some (.ok r)) :
    ∃ s L vm, sys.world.process = some s ∧ r = .leaseAndVM L vm ∧
      (s.reapLocked now).leases.lookup sys.request.leaseID = some L ∧
      s.availableVM L.vmID = some vm := by
  obtain ⟨_, _, s, hcall, hs, hr⟩ := World.reply_eq_some h
  cases hcall
  obtain ⟨a, ha, rfl⟩ := Except.map_eq_ok hr
  obtain ⟨hl, -, hvm⟩ := leaseVM_ok ha
  exact ⟨s, a.1, a.2, hs, rfl, hl, hvm⟩

/-- **Step lemma.** -/
theorem admitted_step {sys : RelaySystem} {es : List Event} {e : RelayEvent}
    (hworld : sys.world = (World.initial vms ttl).run es)
    (hids : IDsFresh (es ++ (sys.worldEvent? e).toList))
    (h : ∀ L vm, sys.relay.admittedFor = some (L, vm) → sys.Admitted es L vm)
    (L : Lease) (vm : VM) (hL : (sys.step e).relay.admittedFor = some (L, vm)) :
    (sys.step e).Admitted (es ++ (sys.worldEvent? e).toList) L vm := by
  have hw : sys.world.Sound := hworld ▸ World.run_sound vms ttl es
  have hknows : sys.world.KnowsOnly (drawnIDs es) :=
    hworld ▸ World.run_knowsOnly vms ttl hids.append_left
  have hdrawn : ∀ id ∈ drawnIDs es, id ∈ drawnIDs (es ++ (sys.worldEvent? e).toList) := by
    intro id hid
    rw [drawnIDs, List.filterMap_append]
    exact List.mem_append_left _ hid
  rcases step_admittedFor hL with hbefore | ⟨now, hevent, hreply⟩
  · have hadmitted := h L vm hbefore
    refine ⟨by rw [step_request]; exact hadmitted.request, hadmitted.vm,
      hdrawn _ hadmitted.drawn, ?_⟩
    rw [step_world]
    cases hevent : sys.worldEvent? e with
    | none => exact hadmitted.identity
    | some ev =>
        obtain ⟨env, c, rfl⟩ := worldEvent?_call hevent
        rw [hevent] at hids
        refine hadmitted.identity.step hw (hknows.drawsFresh hids) fun hid => ?_
        exact hids.not_mem_of_concat (by simp [Event.randomID?, Event.call?, hid]) hadmitted.drawn
  · obtain ⟨s, L', vm', hs, heq, hl, hvm⟩ := check_ok hreply
    obtain ⟨rfl, rfl⟩ := Reply.leaseAndVM.inj heq
    have hid := (hw.memory s hs).own_id (lookup_reapLocked.mp hl).1
    refine ⟨by rw [step_request]; exact hid, (availableVM_eq_some hvm).2.1, hdrawn _ ?_, ?_⟩
    · rw [hid]
      exact hknows.memory s _ L hs (lookup_reapLocked.mp hl).1
    · rw [step_world, hevent]
      intro s' l hs' hl'
      have hafter : s' = s.reapLocked now := by
        rw [Option.toList_some, World.run, run_cons, run_nil, check, World.step_call hs,
          Call.exec, Outcome.map_store, leaseVM_leases] at hs'
        exact (Option.some.inj hs').symm
      rw [hafter, hid] at hl'
      obtain rfl := Option.some.inj (hl'.symm.trans hl)
      exact ⟨rfl, rfl⟩

/-- **Run lemma.** -/
theorem admitted_run {sys : RelaySystem} {before : List Event}
    (hworld : sys.world = (World.initial vms ttl).run before)
    (h : ∀ L vm, sys.relay.admittedFor = some (L, vm) → sys.Admitted before L vm)
    (es : List RelayEvent) (hids : IDsFresh (before ++ sys.calls es)) (L : Lease) (vm : VM)
    (hL : (run RelaySystem.step sys es).relay.admittedFor = some (L, vm)) :
    (run RelaySystem.step sys es).Admitted (before ++ sys.calls es) L vm := by
  induction es generalizing sys before with
  | nil => simpa [calls] using h L vm hL
  | cons e es ih =>
      rw [calls, ← List.append_assoc] at hids
      have hstep := admitted_step hworld hids.append_left h
      rw [calls, ← List.append_assoc]
      refine ih ?_ hstep hids hL
      rw [step_world, hworld, World.run_append]

end RelaySystem

/-- The store holds a lease on the VM, unexpired at `now`, of another client. -/
def World.HeldByOther (w : World) (vmID : String) (client : String × String) (now : Int) :
    Prop :=
  ∃ s k M, w.process = some s ∧ s.leases.lookup k = some M ∧ now < M.expiresAt ∧
    M.vmID = vmID ∧ M.client ≠ client

/-- The store holds a lease with the id, unexpired at `now`. -/
def World.StillHeld (w : World) (id : String) (now : Int) : Prop :=
  ∃ s l, w.process = some s ∧ s.leases.lookup id = some l ∧ now < l.expiresAt

namespace RelaySystem.Admitted

variable {sys : RelaySystem} {es : List Event} {L : Lease} {vm : VM} {now : Int}

/-- The store holds one lease per VM: when it is another client's, the relay's is gone. -/
theorem not_stillHeld (h : sys.Admitted es L vm) (hw : sys.world.Sound)
    (hother : sys.world.HeldByOther vm.id L.client now) : ¬ sys.world.StillHeld L.id now := by
  rintro ⟨s, l, hs, hl, -⟩
  obtain ⟨s', k, M, hs', hM, -, hvm, hclient⟩ := hother
  obtain rfl := Option.some.inj (hs.symm.trans hs')
  obtain ⟨hvm', hclient'⟩ := h.identity s l hs hl
  obtain rfl := (hw.memory s hs).vm hl hM (by rw [hvm', hvm, h.vm])
  exact hclient (Option.some.inj (hM.symm.trans hl) ▸ hclient')

/-- A tick at which the lease is gone makes the watcher close. -/
theorem tick {session : RelaySession} (h : sys.Admitted es L vm)
    (hrunning : sys.relay = .running L vm session) (hwaiting : session.watcher = .waiting)
    (hgone : ¬ sys.world.StillHeld L.id now) : (sys.step (.tick now)).Closing 3 := by
  have hfails : ∀ r, sys.world.reply (sys.check now) ≠ some (.ok r) := by
    intro r hr
    obtain ⟨s, l, vm', hs, -, hl, -⟩ := check_ok hr
    rw [← h.request] at hl
    exact hgone ⟨s, l, hs, lookup_reapLocked.mp hl⟩
  refine ⟨L, vm, session.checked true, ?_, rfl, ?_⟩
  · simp only [RelaySystem.step, hrunning, if_pos hwaiting]
  · exact ⟨fun h => absurd h (by simp [RelaySession.checked]),
      fun h => absurd h (by simp [RelaySession.checked])⟩

end RelaySystem.Admitted

/-- A relay that its watcher checks at a moment when its lease is gone, as it is whenever
the store holds a live lease on the VM for another client, forwards no payload any more,
in either direction, once the watcher has taken its three steps: the Close frame and the
closing of both sockets. -/
theorem relay_revoked (vms : List VM) (ttl : Int) {before : List Event}
    {request : RelayRequest} {es : List RelayEvent} {L : Lease} {vm : VM}
    {session : RelaySession} {now : Int} :
    let opened : RelaySystem := ⟨(World.initial vms ttl).run before, request, .requested⟩
    let sys := run RelaySystem.step opened es
    IDsFresh (before ++ opened.calls es) →
    sys.relay = .running L vm session → session.watcher = .waiting →
    sys.world.HeldByOther vm.id L.client now ∨ ¬ sys.world.StillHeld L.id now →
    ∀ later, 3 ≤ later.countP RelayEvent.isWatcher →
      ∀ e, ¬ (run RelaySystem.step (sys.step (.tick now)) later).Forwards e := by
  intro opened sys hids hrunning hwaiting hgone later hsteps
  have hrequested : ∀ L vm, opened.relay.admittedFor = some (L, vm) →
      opened.Admitted before L vm :=
    fun L vm h => absurd h (by simp [opened, Relay.admittedFor])
  have hadmitted := RelaySystem.admitted_run rfl hrequested es hids L vm (by rw [hrunning]; rfl)
  have hw : sys.world.Sound := by
    rw [RelaySystem.run_world, ← World.run_append]
    exact World.run_sound ..
  have hgone := hgone.elim (hadmitted.not_stillHeld hw) id
  have hclosing := (hadmitted.tick hrunning hwaiting hgone).run later
  rw [Nat.sub_eq_zero_of_le hsteps] at hclosing
  exact hclosing.not_forwards

/-- The first client opens an HTTP relay to its VM. -/
def firstRelay : RelaySystem :=
  ⟨(World.initial testPool minute).run [firstServed], ⟨"user-1", "a", "tcp", 0⟩, .requested⟩

/-- The relay is up when its lease is released and the VM granted to another client,
and the first client sends one more byte. -/
def reassignment : List RelayEvent :=
  [.connect 1, .dialed true, .upgraded true,
    .store (testEnv 2 none none) (.release "a" "user-1"),
    .store (testEnv 3 none (some "b")) (.createOrRecover "user-2" "device-2" "two"),
    .session 4 (.clientRead (.ok (true, [1])))]

theorem relay_revoked_reassigned :
    ¬ (run RelaySystem.step ((run RelaySystem.step firstRelay reassignment).step (.tick 5))
      (List.replicate 3 (.session 6 (.watcher true)))).Forwards
        (.session 7 (.upstreamWrite 1 none)) :=
  @relay_revoked testPool minute [firstServed] ⟨"user-1", "a", "tcp", 0⟩ reassignment firstLease
    ⟨"vm-1", "", "", "vm1", 47989, "", 0, "", true⟩ _ 5 (by decide) rfl rfl
    (.inl ⟨_, "b", ⟨"b", "vm-1", "user-2", "device-2", "two", 3, 3 + minute⟩, rfl, rfl,
      by decide, rfl, by decide⟩) _ (by decide) _

/-- Before the next tick that byte is written to the VM, which is another client's. -/
theorem payload_after_reassignment :
    (run RelaySystem.step firstRelay reassignment).world.HeldByOther
        "vm-1" ("user-1", "device-1") 4 ∧
      (run RelaySystem.step firstRelay reassignment).Forwards
        (.session 4 (.upstreamWrite 1 none)) :=
  ⟨⟨_, "b", ⟨"b", "vm-1", "user-2", "device-2", "two", 3, 3 + minute⟩, rfl, rfl, by decide, rfl,
    by decide⟩, by rw [RelaySystem.Forwards]; decide⟩

end GilStreaming.Coordinator
