import GilStreaming.Coordinator.Grants
import Mathlib.Data.List.Chain

/-!
# GilStreaming.Coordinator.Stability

A client that keeps renewing keeps its lease and its VM.

Both renewals, `Heartbeat` and `CreateOrRecover` by the lease's client, set the
expiry to `ttl` after the call. While consecutive renewals are less than `ttl`
apart, every call in between comes before the expiry, so nothing reaps the lease
(`World.Leased.run`). The VM has to be available throughout in the sense of
`vmByIDLocked`, which looks at the first VM of the list with that id only:
`recover_not_stable` shows what a list with two VMs of one id does.
-/

namespace GilStreaming.Coordinator

open GilStreaming.Trace

/-! ### Renewals -/

instance (c : Call) (l : Lease) : Decidable (c.Renews l) :=
  match c with
  | .createOrRecover owner deviceID deviceName =>
    decidable_of_iff (owner = l.owner ∧ deviceID = l.deviceID)
      (by simp [Call.Renews, Call.RecoversFor])
  | .heartbeat id owner =>
    decidable_of_iff (id = l.id ∧ owner = l.owner) (by simp [Call.Renews, Call.RecoversFor])
  | .release _ _ => isFalse (by simp [Call.Renews, Call.RecoversFor])
  | .leaseVM _ _ => isFalse (by simp [Call.Renews, Call.RecoversFor])
  | .adminSnapshot => isFalse (by simp [Call.Renews, Call.RecoversFor])
  | .adminLease _ => isFalse (by simp [Call.Renews, Call.RecoversFor])
  | .adminRelease _ => isFalse (by simp [Call.Renews, Call.RecoversFor])
  | .adminAssign _ _ _ _ => isFalse (by simp [Call.Renews, Call.RecoversFor])
  | .updateVMs _ => isFalse (by simp [Call.Renews, Call.RecoversFor])

/-- The clock readings of the calls that renew `L`, in order. -/
def renewalTimes (L : Lease) (es : List Event) : List Int :=
  es.filterMap fun e =>
    match e with
    | .call env c => if c.Renews L then some env.now else none
    | _ => none

/-- Consecutive instants of the list are less than `ttl` apart. -/
abbrev LessApart (ttl : Int) (times : List Int) : Prop :=
  times.IsChain fun t t' => t' < t + ttl

theorem Lease.Extends.renews_iff {l L : Lease} (h : l.Extends L) (c : Call) :
    c.Renews l ↔ c.Renews L := by
  rw [Call.Renews, Call.Renews, h.id, h.owner.1, h.recoversFor_iff]

theorem reads_of_mem_renewalTimes {L : Lease} {es : List Event} {t : Int}
    (h : t ∈ renewalTimes L es) : ∃ e ∈ es, e.Reads t := by
  obtain ⟨e, he, ht⟩ := List.mem_filterMap.mp h
  cases e with
  | call env c =>
      obtain ⟨-, ht⟩ := Option.ite_none_right_eq_some.mp ht
      exact ⟨.call env c, he, (Option.some.inj ht).symm⟩
  | _ => exact absurd ht (by simp)

/-- Up to the next renewal the clock stays within `ttl` of the last one. -/
theorem lt_of_next_renewal {L : Lease} {es : List Event} {ttl last t : Int}
    (hchain : LessApart ttl (last :: renewalTimes L es)) (hnext : renewalTimes L es ≠ [])
    (ht : ∀ e ∈ es, ∀ t', e.Reads t' → t ≤ t') : t < last + ttl := by
  obtain ⟨t', rest, hcons⟩ := List.exists_cons_of_ne_nil hnext
  obtain ⟨e, he, hread⟩ := reads_of_mem_renewalTimes (hcons ▸ List.mem_cons_self)
  rw [LessApart, hcons, List.isChain_cons_cons] at hchain
  exact lt_of_le_of_lt (ht e he t' hread) hchain.1

/-! ### One call -/

section Held

variable {s : Store} {disk : Disk} {env : CallEnv} {c : Call} {l : Lease}

/-- `Heartbeat` on a lease that is held. -/
theorem heartbeat_held (hl : (s.reapLocked env.now).leases.lookup l.id = some l) :
    s.heartbeat disk env l.id l.owner =
      ((s.reapLocked env.now).renewLocked env.now l.id l).persistThen disk env
        ((s.reapLocked env.now).renewLocked env.now l.id l)
        { l with expiresAt := env.now + s.ttl } := by
  unfold Store.heartbeat
  simp only [hl, ne_eq, not_true_eq_false, if_false, renewLocked_ttl, reapLocked_ttl]

/-- `CreateOrRecover` for a client whose lease is held on an available VM. -/
theorem createOrRecover_held (hs : s.leases.Exclusive)
    (hl : (s.reapLocked env.now).leases.lookup l.id = some l) {vm : VM}
    (hvm : s.availableVM l.vmID = some vm) (deviceName : String) :
    s.createOrRecover disk env l.owner l.deviceID deviceName =
      ((s.reapLocked env.now).renewLocked env.now l.id l).persistThen disk env
        ((s.reapLocked env.now).renewLocked env.now l.id l)
        ({ l with expiresAt := env.now + s.ttl }, vm) := by
  have hreaped := hs.reaped env.now
  unfold Store.createOrRecover
  simp only [hreaped.clientLease_eq env.order hl, renewLocked_availableVM,
    reapLocked_availableVM, hvm, renewLocked_ttl, reapLocked_ttl]

/-- A renewal extends the lease, whether or not it can be saved. -/
theorem exec_renews (hs : s.leases.Exclusive) (hl : s.leases.lookup l.id = some l)
    (hlive : env.now < l.expiresAt) (hvm : s.availableVM l.vmID ≠ none) (hc : c.Renews l) :
    (c.exec s disk env).store.leases.lookup l.id =
      some { l with expiresAt := env.now + s.ttl } := by
  have hl := lookup_reapLocked.mpr ⟨hl, hlive⟩
  rcases hc with rfl | ⟨deviceName, rfl⟩
  · rw [Call.exec, Outcome.map_store, heartbeat_held hl, persistThen_self, lookup_renewLocked,
      if_pos rfl, reapLocked_ttl]
  · obtain ⟨vm, hvm⟩ := Option.ne_none_iff_exists'.mp hvm
    rw [Call.exec, Outcome.map_store, createOrRecover_held hs hl hvm, persistThen_self,
      lookup_renewLocked, if_pos rfl, reapLocked_ttl]

end Held

/-! ### Many calls -/

/-- `L` is in memory and was last renewed at `last`. -/
def World.Leased (w : World) (ttl last : Int) (L : Lease) : Prop :=
  ∃ s l, w.process = some s ∧ s.ttl = ttl ∧ s.leases.lookup L.id = some l ∧ l.Extends L ∧
    l.expiresAt = last + ttl

/-- The VM that the store looks up for `L` is available. -/
def World.VMAvailable (w : World) (L : Lease) : Prop :=
  ∀ s, w.process = some s → s.availableVM L.vmID ≠ none

/-- A promised lease counts as renewed by the call that promised it. -/
theorem World.leased_of_promise {w : World} {env : CallEnv} {c : Call} {r : Reply} {L : Lease}
    {s : Store} (hw : w.Sound) (hs : w.process = some s) (hc : c.Promises)
    (hr : (c.exec s w.disk env).result = .ok r) (hL : r.lease? = some L) :
    (w.step (.call env c)).Leased s.ttl env.now L := by
  obtain ⟨l, hl, hpromised⟩ := exec_promised (hw.memory s hs) hc hr
  obtain rfl : l = L := Option.some.inj (hl.symm.trans hL)
  rw [World.step_call hs]
  exact ⟨_, l, rfl, exec_ttl c, hpromised.held, .refl l, hpromised.expiry⟩

/-- **Step lemma.** A call within `ttl` of the last renewal keeps the lease. -/
theorem World.Leased.step {w : World} {ttl last : Int} {L : Lease} {env : CallEnv} {c : Call}
    (hw : w.Sound) (h : w.Leased ttl last L) (hfresh : w.DrawsFresh (.call env c))
    (hkept : ¬ c.Releases L) (hvm : w.VMAvailable L) (hlo : last ≤ env.now)
    (hhi : env.now < last + ttl) :
    (w.step (.call env c)).Leased ttl (if c.Renews L then env.now else last) L := by
  obtain ⟨s, l, hs, rfl, hl, hext, hexp⟩ := h
  have hex := hw.memory s hs
  have hvm := hvm s hs
  rw [← hext.vm] at hvm
  rw [World.step_call hs]
  split
  · next hc =>
      rw [← hext.id] at hl
      have hrenewed : (c.exec s w.disk env).store.leases.lookup l.id = _ :=
        exec_renews hex hl (by omega) hvm ((hext.renews_iff c).mpr hc)
      have hexpiry := hext.expiry
      have hlater : L.expiresAt ≤ env.now + s.ttl := by omega
      rw [World.Leased, ← hext.id]
      exact ⟨_, { l with expiresAt := env.now + s.ttl }, rfl, exec_ttl c, hrenewed,
        ⟨hext.id, hext.vm, hext.client, hlater⟩, rfl⟩
  · next hc =>
      have hchange := (exec_edited hex w.disk env c).change (hfresh env c s rfl hs) L.id
      rw [hl] at hchange
      generalize hafter : (c.exec s w.disk env).store.leases.lookup L.id = after at hchange
      cases hchange with
      | kept => exact ⟨_, l, rfl, exec_ttl c, hafter, hext, hexp⟩
      | renewed hc' _ => exact absurd ((hext.renews_iff c).mp hc') hc
      | expired hdead => omega
      | released hc' => exact absurd ((hext.releases_iff c).mp hc') hkept
      | dropped _ _ hnone => exact absurd hnone hvm

/-- **Run lemma.** While consecutive renewals are less than `ttl` apart, the lease is
still held when the next one comes. -/
theorem World.Leased.run {L : Lease} {ttl : Int} {env' : CallEnv} {c' : Call}
    (hrenews : c'.Renews L) :
    ∀ {es : List Event} {w : World} {last : Int}, w.Sound → w.Leased ttl last L →
      AllSteps World.step World.DrawsFresh w es →
      (∀ e ∈ es, ∃ env c, e = .call env c ∧ ¬ c.Releases L) →
      AllSteps World.step (fun w _ => w.VMAvailable L) w es →
      ClockMonotone (es ++ [.call env' c']) →
      (∀ e ∈ es ++ [.call env' c'], ∀ t, e.Reads t → last ≤ t) →
      LessApart ttl (last :: renewalTimes L (es ++ [.call env' c'])) →
      ∃ last', (w.run es).Leased ttl last' L ∧ env'.now < last' + ttl := by
  intro es
  induction es with
  | nil =>
      intro w last _ h _ _ _ _ _ hchain
      refine ⟨last, h, lt_of_next_renewal hchain (by simp [renewalTimes, hrenews]) ?_⟩
      intro e he t ht
      obtain rfl : e = .call env' c' := by simpa using he
      exact le_of_eq ht.symm
  | cons e es ih =>
      intro w last hw h hfresh hcalls havail hclock hlast hchain
      obtain ⟨env, c, rfl, hkept⟩ := hcalls e List.mem_cons_self
      have hlo := hlast _ List.mem_cons_self env.now rfl
      have hlater : ∀ e' ∈ es ++ [.call env' c'], ∀ t, e'.Reads t → env.now ≤ t :=
        fun e' he' t ht => hclock.le_of_cons he' rfl ht
      have hhi : env.now < last + ttl := by
        refine lt_of_next_renewal hchain (by simp [renewalTimes, hrenews]) ?_
        intro e' he' t ht
        rcases List.mem_cons.mp he' with rfl | he'
        · exact le_of_eq ht.symm
        · exact hlater e' he' t ht
      have hstep := h.step hw hfresh.1 hkept havail.1 hlo hhi
      refine ih (hw.step _) hstep hfresh.2
        (fun e' he' => hcalls e' (List.mem_cons_of_mem _ he')) havail.2 hclock.tail ?_ ?_
      · split
        · exact hlater
        · exact fun e' he' => hlast e' (List.mem_cons_of_mem _ he')
      · rw [LessApart, List.cons_append, renewalTimes, List.filterMap_cons] at hchain
        by_cases hc : c.Renews L
        · simp only [hc, if_true] at hchain ⊢
          exact (List.isChain_cons_cons.mp hchain).2
        · simp only [hc, if_false] at hchain ⊢
          exact hchain

/-- After a lease was granted, while its client renews it in less than `ttl` each time,
nobody releases it and its VM stays available: a successful `CreateOrRecover` by its
client answers with the same lease and the same VM, and `Heartbeat` never reports it
missing. -/
theorem lease_stable (vms : List VM) (ttl : Int) {before during : List Event}
    {env env' : CallEnv} {c c' : Call} {r : Reply} {L : Lease} {s : Store}
    (hids : IDsFresh (before ++ .call env c :: during ++ [.call env' c']))
    (hclock : ClockMonotone (before ++ .call env c :: during ++ [.call env' c']))
    (hs : ((World.initial vms ttl).run before).process = some s) (hc : c.Promises)
    (hgrant : ((World.initial vms ttl).run before).reply (.call env c) = some (.ok r))
    (hL : r.lease? = some L)
    (hcalls : ∀ e ∈ during, ∃ env c, e = .call env c ∧ ¬ c.Releases L)
    (havail : AllSteps World.step (fun w _ => w.VMAvailable L)
      ((World.initial vms ttl).run (before ++ [.call env c])) (during ++ [.call env' c']))
    (hrenewed : LessApart s.ttl (env.now :: renewalTimes L (during ++ [.call env' c']))) :
    (c' = .heartbeat L.id L.owner →
      ((World.initial vms ttl).run (before ++ .call env c :: during)).reply (.call env' c') ≠
        some (.error .leaseNotFound)) ∧
    (∀ deviceName M vm, c' = .createOrRecover L.owner L.deviceID deviceName →
      ((World.initial vms ttl).run (before ++ .call env c :: during)).reply (.call env' c') =
        some (.ok (.leaseAndVM M vm)) →
      M.id = L.id ∧ M.vmID = L.vmID ∧ vm.id = L.vmID) := by
  have hw := World.run_sound vms ttl before
  have hw' := hw.step (.call env c)
  rw [World.run_concat] at havail
  have hfresh := World.run_drawsFresh vms ttl during (before ++ [.call env c])
    (by simpa using hids.append_left)
  rw [World.run_concat] at hfresh
  rw [World.reply, hs] at hgrant
  have hleased := World.leased_of_promise hw hs hc (Option.some.inj hgrant) hL
  -- the lease is held, unexpired, when the last call runs
  have hlast : c'.Renews L → ∃ s' l vm,
      ((World.initial vms ttl).run (before ++ .call env c :: during)).process = some s' ∧
      s'.leases.Exclusive ∧ (s'.reapLocked env'.now).leases.lookup l.id = some l ∧
      l.Extends L ∧ s'.availableVM l.vmID = some vm := by
    intro hrenews
    have hclock' : ClockMonotone (.call env c :: (during ++ [.call env' c'])) := by
      rw [List.append_assoc] at hclock
      exact hclock.append_right
    obtain ⟨last', ⟨s', l, hs', httl, hl, hext, hexp⟩, hlate⟩ :=
      World.Leased.run hrenews hw' hleased hfresh hcalls (allSteps_append.mp havail).1
        hclock'.tail (fun e he t ht => hclock'.le_of_cons he rfl ht) hrenewed
    obtain ⟨vm, hvm⟩ := Option.ne_none_iff_exists'.mp
      ((allSteps_concat.mp havail).2 s' hs')
    rw [World.run_append, World.run, run_cons]
    refine ⟨s', l, vm, hs', ?_, ?_, hext, hext.vm ▸ hvm⟩
    · exact (World.run_sound vms ttl (before ++ .call env c :: during)).memory s' (by
        rw [World.run_append, World.run, run_cons]; exact hs')
    · rw [lookup_reapLocked, hext.id]
      exact ⟨hl, by omega⟩
  constructor
  · rintro rfl
    obtain ⟨s', l, vm, hs', hex, hl, hext, hvm⟩ := hlast (.inl rfl)
    rw [World.reply, hs', Option.map_some, Call.exec, Outcome.map_result, ← hext.id,
      ← hext.owner.1, heartbeat_held hl]
    cases hp : env'.persist with
    | none => rw [persistThen_ok hp]; simp [Except.map]
    | some step => rw [(persistThen_error hp).2.2]; simp [Except.map]
  · rintro deviceName M vm' rfl hreply
    obtain ⟨s', l, vm, hs', hex, hl, hext, hvm⟩ := hlast (.inr ⟨_, rfl⟩)
    rw [World.reply, hs', Option.map_some, Call.exec, Outcome.map_result, ← hext.owner.1,
      ← hext.owner.2, createOrRecover_held hex hl hvm, Option.some.injEq] at hreply
    obtain ⟨a, ha, heq⟩ := Except.map_eq_ok hreply
    obtain ⟨-, rfl⟩ := persistThen_eq_ok ha
    obtain ⟨rfl, rfl⟩ := Reply.leaseAndVM.inj heq
    exact ⟨hext.id, hext.vm, (availableVM_eq_some hvm).2.1.trans hext.vm⟩

/-- A heartbeat, and another client's request. -/
def ordinaryTraffic : List Event :=
  [.call (testEnv second none none) (.heartbeat "a" "user-1"),
    .call (testEnv (2 * second) none (some "b")) (.createOrRecover "user-2" "device-2" "two")]

theorem lease_stable_recovered :
    ({ firstLease with expiresAt := 3 * second + minute } : Lease).id = firstLease.id := by
  refine ((@lease_stable testPool minute [] ordinaryTraffic
    (testEnv 0 none (some "a")) (testEnv (3 * second) none none)
    (.createOrRecover "user-1" "device-1" "one") (.createOrRecover "user-1" "device-1" "renamed")
    _ firstLease _ (by decide) ?_ rfl trivial rfl rfl ?_ ⟨?_, ?_, ?_, trivial⟩ ?_).2
      "renamed" _ _ rfl rfl).1
  · simp [ClockMonotone, Trace.ClockMonotone, ordinaryTraffic, Event.Reads, testEnv, second]
  · simp [ordinaryTraffic, Call.Releases]
  · intro s hs
    obtain rfl := Option.some.inj hs
    decide
  · intro s hs
    obtain rfl := Option.some.inj hs
    decide
  · intro s hs
    obtain rfl := Option.some.inj hs
    decide
  · decide

/-- Two VMs of one id, the first of them switched off. -/
def twinPool : List VM :=
  [⟨"vm-1", "", "", "vm1", 47989, "", 0, "", false⟩,
    ⟨"vm-1", "", "", "vm2", 47989, "", 0, "", true⟩]

/-- From this pool a client is given the second VM, which stays available, and asking
again a moment later it is given another lease. -/
theorem recover_not_stable :
    let w := World.initial twinPool minute
    let retry := Event.call (testEnv 1 none (some "b"))
      (.createOrRecover "user-1" "device-1" "one")
    ∃ vm ∈ twinPool, vm.available = true ∧
      w.reply firstServed = some (.ok (.leaseAndVM firstLease vm)) ∧
      ∃ M vm', (w.step firstServed).reply retry = some (.ok (.leaseAndVM M vm')) ∧
        M.id ≠ firstLease.id :=
  ⟨_, List.mem_cons_of_mem _ (List.mem_singleton_self _), rfl, rfl, _, _, rfl, by decide⟩

end GilStreaming.Coordinator
