import GilStreaming.Coordinator.Grants

/-!
# GilStreaming.Coordinator.Handlers

A request handler beside the store, and the lease it has looked up.

A handler makes store calls one at a time. Before, between and after them it talks to
others, and the calls of other requests run. A `RequestHandler` says which call its next step
makes and what it goes on to with the reply; in a `HandlerSystem` either the handler takes
a step or another request makes a call.

Once a handler has looked a lease up it holds a copy of the lease and its VM (`held`),
whatever becomes of them in the store. `RequestHandler.sends_while_live` is the condition under
which the copy is still true when the handler sends something to the VM: no call since
then has ended the lease, and its expiry has not come.
-/

namespace GilStreaming.Coordinator

open GilStreaming.Trace

/-! ### Handlers -/

/-- A handler with states `σ`, whose steps take what comes as `ε`, and send `ω` to a VM. -/
structure RequestHandler (σ ε ω : Type) where
  /-- The call that the next step makes. -/
  call? : σ → ε → Option Call
  /-- The next step, with the reading of the clock and the reply to the call. -/
  next : σ → Int → ε → Option (Except StoreError Reply) → σ × Option (VM × ω)

structure HandlerSystem (σ : Type) where
  world : World
  handler : σ

inductive HandlerEvent (ε : Type)
  /-- A call of another request. -/
  | store (env : CallEnv) (c : Call)
  /-- The handler takes a step. -/
  | handler (env : CallEnv) (e : ε)

/-- The instant of the event. -/
def HandlerEvent.now {ε : Type} : HandlerEvent ε → Int
  | .store env _ => env.now
  | .handler env _ => env.now

namespace RequestHandler

variable {σ ε ω : Type} (H : RequestHandler σ ε ω)

/-- The call that an event makes on the store. -/
def worldEvent? (sys : HandlerSystem σ) : HandlerEvent ε → Option Event
  | .store env c => some (.call env c)
  | .handler env e => (H.call? sys.handler e).map (.call env)

/-- What the store replies to the handler's step. -/
def reply (sys : HandlerSystem σ) (env : CallEnv) (e : ε) : Option (Except StoreError Reply) :=
  (H.call? sys.handler e).bind fun c => sys.world.reply (.call env c)

def step (sys : HandlerSystem σ) (e : HandlerEvent ε) : HandlerSystem σ where
  world := sys.world.run (H.worldEvent? sys e).toList
  handler :=
    match e with
    | .store _ _ => sys.handler
    | .handler env e => (H.next sys.handler env.now e (H.reply sys env e)).1

/-- What the event sends, and to which VM. -/
def sent (sys : HandlerSystem σ) : HandlerEvent ε → Option (VM × ω)
  | .store _ _ => none
  | .handler env e => (H.next sys.handler env.now e (H.reply sys env e)).2

/-- The system after a history. -/
abbrev run (sys : HandlerSystem σ) (es : List (HandlerEvent ε)) : HandlerSystem σ :=
  Trace.run H.step sys es

/-- The calls that the store has seen along a history. -/
abbrev calls (sys : HandlerSystem σ) (es : List (HandlerEvent ε)) : List Event :=
  Trace.outputs H.step H.worldEvent? sys es

theorem run_concat (sys : HandlerSystem σ) (es : List (HandlerEvent ε)) (e : HandlerEvent ε) :
    H.run sys (es ++ [e]) = H.step (H.run sys es) e := Trace.run_concat ..

theorem calls_concat (sys : HandlerSystem σ) (es : List (HandlerEvent ε)) (e : HandlerEvent ε) :
    H.calls sys (es ++ [e]) = H.calls sys es ++ (H.worldEvent? (H.run sys es) e).toList :=
  Trace.outputs_concat ..

/-- **Projection.** The store's side of a run is the run of the calls it has seen. -/
theorem run_world (sys : HandlerSystem σ) (es : List (HandlerEvent ε)) :
    (H.run sys es).world = sys.world.run (H.calls sys es) := by
  induction es using List.reverseRecOn with
  | nil => rfl
  | append_singleton es e ih =>
      rw [run_concat, calls_concat, World.run_append, ← ih]
      rfl

end RequestHandler

/-! ### Following a lease -/

/-- The calls that reap. -/
def Call.reaps : Call → Bool
  | .release _ _ => false
  | .adminRelease _ => false
  | .updateVMs _ => false
  | _ => true

/-- The calls that look a lease up. -/
def Call.LooksUp (c : Call) : Prop :=
  (∃ id owner, c = .leaseVM id owner) ∨ ∃ id, c = .adminLease id

/-- `L` is in memory, whatever its expiry. -/
def World.Has (w : World) (L : Lease) : Prop :=
  ∃ s l, w.process = some s ∧ s.leases.lookup L.id = some l ∧ l.id = L.id ∧ l.vmID = L.vmID ∧
    l.client = L.client

/-- The instant comes before the expiry that memory has for the lease. -/
def World.Before (w : World) (id : String) (now : Int) : Prop :=
  ∀ s l, w.process = some s → s.leases.lookup id = some l → now < l.expiresAt

/-- The lease with the id is in memory, unexpired at `now`, and on this VM. -/
def World.LiveOn (w : World) (id vmID : String) (now : Int) : Prop :=
  ∃ s l, w.process = some s ∧ s.leases.lookup id = some l ∧ l.vmID = vmID ∧ now < l.expiresAt

/-- The call leaves `L` alone: it is not one that may end it before its time, and it does
not come to reap it. -/
structure World.Spares (w : World) (L : Lease) (env : CallEnv) (c : Call) : Prop where
  stays : ¬ w.MayEnd L (.call env c)
  before : c.reaps = true → w.Before L.id env.now

theorem World.before_of_lookup {w : World} {s : Store} {id : String} {l : Lease} {now : Int}
    (hs : w.process = some s) (hl : s.leases.lookup id = some l) (h : now < l.expiresAt) :
    w.Before id now := by
  intro s' l' hs' hl'
  obtain rfl := Option.some.inj (hs.symm.trans hs')
  obtain rfl := Option.some.inj (hl.symm.trans hl')
  exact h

/-- A request of another client for a lease leaves `L` alone before its expiry. -/
theorem World.spares_otherClient {w : World} {L : Lease} {env : CallEnv}
    {owner deviceID deviceName : String} (hclient : (owner, deviceID) ≠ L.client)
    (hbefore : w.Before L.id env.now) :
    w.Spares L env (.createOrRecover owner deviceID deviceName) where
  stays := by
    intro h
    obtain ⟨_, _, _, hcall, -, hends⟩ := h
    cases hcall
    rcases hends with hreleases | ⟨⟨name, hrecovers⟩, -⟩
    · simp [Call.Releases] at hreleases
    · obtain ⟨rfl, rfl, -⟩ := Call.createOrRecover.inj hrecovers
      exact hclient rfl
  before := fun _ => hbefore

section Follow

variable {w : World} {s : Store} {disk : Disk} {env : CallEnv} {c : Call} {L l : Lease}

/-- A call that does not reap removes a lease only by releasing it. -/
theorem exec_not_reaps (hl : s.leases.lookup l.id = some l) (hreaps : c.reaps = false)
    (hrelease : ¬ c.Releases l) : (c.exec s disk env).store.leases.lookup l.id = some l := by
  cases c with
  | release id owner =>
      simp only [Call.exec, Outcome.map_store, Store.release]
      split
      · exact hl
      · next l' hl' =>
          split
          · exact hl
          · next howner =>
              rw [persistThen_self, GoMap.lookup_erase_eq]
              split
              · next hid =>
                  subst hid
                  obtain rfl := Option.some.inj (hl.symm.trans hl')
                  exact absurd (.inl (by rw [not_not.mp howner])) hrelease
              · exact hl
  | adminRelease id =>
      simp only [Call.exec, Outcome.map_store, Store.adminRelease]
      split
      · exact hl
      · rw [persistThen_self, GoMap.lookup_erase_eq]
        split
        · next hid => exact absurd (.inr (by rw [hid])) hrelease
        · exact hl
  | updateVMs updates => exact hl
  | _ => exact absurd hreaps (by simp [Call.reaps])

/-- **Step lemma.** A call that spares the lease leaves it in memory. -/
theorem World.Has.step (hw : w.Sound) (h : w.Has L) (hfresh : w.DrawsFresh (.call env c))
    (hspares : w.Spares L env c) : (w.step (.call env c)).Has L := by
  obtain ⟨s, l, hs, hl, hid, hvm, hclient⟩ := h
  have howner : l.owner = L.owner ∧ l.deviceID = L.deviceID := Prod.mk.injEq .. ▸ hclient
  have hrelease : ¬ c.Releases l := by
    intro hc
    rw [Call.Releases, hid, howner.1] at hc
    exact hspares.stays ⟨env, c, s, rfl, hs, .inl hc⟩
  rw [World.step_call hs]
  by_cases hreaps : c.reaps = true
  · have hchange := (exec_edited (hw.memory s hs) w.disk env c).change (hfresh env c s rfl hs) L.id
    rw [hl] at hchange
    generalize hafter : (c.exec s w.disk env).store.leases.lookup L.id = after at hchange
    cases hchange with
    | kept => exact ⟨_, l, rfl, hafter, hid, hvm, hclient⟩
    | renewed => exact ⟨_, _, rfl, hafter, hid, hvm, hclient⟩
    | expired hdead =>
        have := hspares.before hreaps s l hs hl
        omega
    | released hc => exact absurd hc hrelease
    | dropped hc _ hnone =>
        rw [Call.RecoversFor, howner.1, howner.2] at hc
        exact absurd ⟨env, c, s, rfl, hs, .inr ⟨hc, hvm ▸ hnone⟩⟩ hspares.stays
  · refine ⟨_, l, rfl, ?_, hid, hvm, hclient⟩
    rw [← hid] at hl ⊢
    exact exec_not_reaps hl (Bool.eq_false_iff.mpr hreaps) hrelease

/-- What is looked up is in memory, with its VM. -/
theorem World.has_of_lookup {vm : VM} (hw : w.Sound) (hc : c.LooksUp)
    (hreply : w.reply (.call env c) = some (.ok (.leaseAndVM L vm))) :
    (w.step (.call env c)).Has L ∧ vm.id = L.vmID := by
  obtain ⟨_, _, s, hcall, hs, hr⟩ := World.reply_eq_some hreply
  cases hcall
  have hlookup : ∃ id, (c.exec s w.disk env).store.leases.lookup id = some L ∧ vm.id = L.vmID := by
    rcases hc with ⟨id, owner, rfl⟩ | ⟨id, rfl⟩
    · obtain ⟨r, hok, heq⟩ := Except.map_eq_ok hr
      obtain ⟨rfl, rfl⟩ := Reply.leaseAndVM.inj heq
      obtain ⟨hl, -, hvm⟩ := leaseVM_ok hok
      refine ⟨id, ?_, (availableVM_eq_some hvm).2.1⟩
      rw [Call.exec, Outcome.map_store, leaseVM_leases]
      exact hl
    · obtain ⟨r, hok, heq⟩ := Except.map_eq_ok hr
      obtain ⟨rfl, rfl⟩ := Reply.leaseAndVM.inj heq
      obtain ⟨hl, hvm⟩ := adminLease_ok hok
      refine ⟨id, ?_, by simpa using List.find?_some hvm⟩
      rw [Call.exec, Outcome.map_store, adminLease_leases]
      exact hl
  obtain ⟨id, hl, hvm⟩ := hlookup
  obtain rfl : L.id = id := ((exec_edited (hw.memory s hs) w.disk env c).exclusive
    (hw.memory s hs)).own_id hl
  rw [World.step_call hs]
  exact ⟨⟨_, L, rfl, hl, rfl, rfl, rfl⟩, hvm⟩

end Follow

/-! ### What a handler holds -/

namespace RequestHandler

variable {σ ε ω : Type} {H : RequestHandler σ ε ω} {held : σ → Option (Lease × VM)}
  {acts : ω → Bool} {sys : HandlerSystem σ}

/-- `held` is the lease and the VM that the handler has looked up. It makes no call while
it holds them, and sends only to the VM it holds. -/
structure Holds (H : RequestHandler σ ε ω) (held : σ → Option (Lease × VM)) : Prop where
  lookup : ∀ s now e reply L vm, held (H.next s now e reply).1 = some (L, vm) →
    held s = some (L, vm) ∧ H.call? s e = none ∨
      ∃ c, H.call? s e = some c ∧ c.LooksUp ∧ reply = some (.ok (.leaseAndVM L vm))
  send : ∀ s now e reply vm r, (H.next s now e reply).2 = some (vm, r) → ∃ L, held s = some (L, vm)

/-- The event, if it is a call of another request, spares the lease that the handler
holds, and if it sends something that acts on the VM, comes before the lease's expiry. -/
structure Undisturbed (H : RequestHandler σ ε ω) (held : σ → Option (Lease × VM))
    (acts : ω → Bool) (sys : HandlerSystem σ) (e : HandlerEvent ε) : Prop where
  calls : ∀ env c L vm, e = .store env c → held sys.handler = some (L, vm) →
    sys.world.Spares L env c
  sends : ∀ L vm r, held sys.handler = some (L, vm) → H.sent sys e = some (vm, r) →
    acts r = true → sys.world.Before L.id e.now

theorem undisturbed_store {env : CallEnv} {c : Call}
    (h : ∀ L vm, held sys.handler = some (L, vm) → sys.world.Spares L env c) :
    H.Undisturbed held acts sys (.store env c) where
  calls := by
    intro env' c' L vm he hheld
    cases he
    exact h L vm hheld
  sends := fun L vm r _ hsent => absurd hsent (by simp [sent])

theorem undisturbed_handler {env : CallEnv} {e : ε}
    (h : ∀ L vm r, held sys.handler = some (L, vm) → H.sent sys (.handler env e) = some (vm, r) →
      acts r = true → sys.world.Before L.id env.now) :
    H.Undisturbed held acts sys (.handler env e) where
  calls := by
    intro env' c' L vm he
    cases he
  sends := h

/-- A step of the handler that does not act on the VM. -/
theorem undisturbed_idle {env : CallEnv} {e : ε}
    (h : (H.sent sys (.handler env e)).all (fun p => !acts p.2) = true) :
    H.Undisturbed held acts sys (.handler env e) :=
  undisturbed_handler fun L vm r _ hsent hacts => by
    rw [hsent] at h
    simp [hacts] at h

/-- What the event sends, if it acts on the VM, is sent while the lease that the handler
holds is live on that VM. -/
def SendsLive (H : RequestHandler σ ε ω) (held : σ → Option (Lease × VM)) (acts : ω → Bool)
    (sys : HandlerSystem σ) (e : HandlerEvent ε) : Prop :=
  ∀ vm r, H.sent sys e = some (vm, r) → acts r = true →
    ∃ L, held sys.handler = some (L, vm) ∧ sys.world.LiveOn L.id vm.id e.now

/-- What the handler holds is in the store. -/
def HeldIsStored (held : σ → Option (Lease × VM)) (sys : HandlerSystem σ) : Prop :=
  ∀ L vm, held sys.handler = some (L, vm) → sys.world.Has L ∧ vm.id = L.vmID

/-- **Step lemma.** -/
theorem Holds.step (hH : H.Holds held) (hw : sys.world.Sound) (h : HeldIsStored held sys)
    {e : HandlerEvent ε} (hfresh : ∀ ev, H.worldEvent? sys e = some ev → sys.world.DrawsFresh ev)
    (hquiet : H.Undisturbed held acts sys e) : HeldIsStored held (H.step sys e) := by
  intro L vm hheld
  cases e with
  | store env c =>
      obtain ⟨hhas, hvm⟩ := h L vm hheld
      exact ⟨hhas.step hw (hfresh _ rfl) (hquiet.calls env c L vm rfl hheld), hvm⟩
  | handler env e =>
      rcases hH.lookup _ _ _ _ L vm hheld with ⟨hheld, hcall⟩ | ⟨c, hcall, hlooks, hreply⟩
      · have hworld : (H.step sys (.handler env e)).world = sys.world := by
          simp [RequestHandler.step, worldEvent?, hcall]
        rw [hworld]
        exact h L vm hheld
      · have hworld : (H.step sys (.handler env e)).world = sys.world.step (.call env c) := by
          simp [RequestHandler.step, worldEvent?, hcall]
        rw [hworld]
        exact World.has_of_lookup hw hlooks (by simpa [RequestHandler.reply, hcall] using hreply)

/-- **Run lemma.** -/
theorem Holds.run (hH : H.Holds held) (vms : List VM) (ttl : Int) (before : List Event) {s : σ}
    (hs : held s = none) {es : List (HandlerEvent ε)} :
    let start : HandlerSystem σ := ⟨(World.initial vms ttl).run before, s⟩
    IDsFresh (before ++ H.calls start es) → AllSteps H.step (H.Undisturbed held acts) start es →
      HeldIsStored held (H.run start es) := by
  intro start
  induction es using List.reverseRecOn with
  | nil =>
      intro _ _ L vm hheld
      exact absurd (hs.symm.trans hheld) (by simp)
  | append_singleton es e ih =>
      intro hids hquiet
      obtain ⟨hquiet, hlast⟩ := allSteps_concat.mp hquiet
      rw [calls_concat, ← List.append_assoc] at hids
      have hworld : (H.run start es).world =
          (World.initial vms ttl).run (before ++ H.calls start es) := by
        rw [run_world, World.run_append]
      rw [run_concat]
      refine hH.step ?_ (ih hids.append_left hquiet) (fun ev hev => ?_) hlast
      · rw [hworld]
        exact World.run_sound ..
      · rw [hworld]
        rw [hev] at hids
        exact (World.run_knowsOnly vms ttl hids.append_left).drawsFresh hids

/-- **Sending.** In every run that leaves the lease alone while the handler holds it, and
in which the handler is done with it in time, what acts on the VM is sent while the lease
is live and holds the VM. -/
theorem Holds.sends_while_live (hH : H.Holds held) (vms : List VM) (ttl : Int)
    (before : List Event) {s : σ} (hs : held s = none) {es : List (HandlerEvent ε)} :
    let start : HandlerSystem σ := ⟨(World.initial vms ttl).run before, s⟩
    IDsFresh (before ++ H.calls start es) → AllSteps H.step (H.Undisturbed held acts) start es →
      AllSteps H.step (H.SendsLive held acts) start es := by
  intro start
  induction es using List.reverseRecOn with
  | nil => intro _ _; trivial
  | append_singleton es e ih =>
      intro hids hquiet
      obtain ⟨hquiet, hlast⟩ := allSteps_concat.mp hquiet
      rw [calls_concat, ← List.append_assoc] at hids
      refine allSteps_concat.mpr ⟨ih hids.append_left hquiet, fun vm r hsent hacts => ?_⟩
      obtain ⟨L, hheld⟩ : ∃ L, held (H.run start es).handler = some (L, vm) := by
        cases e with
        | store env c => exact absurd hsent (by simp [sent])
        | handler env e => exact hH.send _ _ _ _ _ _ hsent
      obtain ⟨⟨s, l, hs, hl, -, hvm, -⟩, hid⟩ :=
        hH.run vms ttl before hs hids.append_left hquiet L vm hheld
      refine ⟨L, hheld, s, l, hs, hl, hvm.trans hid.symm, ?_⟩
      exact hlast.sends L vm r hheld hsent hacts s l hs hl

end RequestHandler

end GilStreaming.Coordinator
