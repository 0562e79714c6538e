import GilStreaming.Coordinator.History

/-!
# GilStreaming.Coordinator.Grants

An acknowledged grant is kept until it expires or is given up.

Once `CreateOrRecover`, `AdminAssign` or `Heartbeat` has answered with a lease,
that lease is in memory and on disk. `World.Holds` is the invariant that it stays
in both, extended at most, and `World.Holds.step` shows that every event keeps it
except the ones the caller can see coming: the clock reaching the expiry, a
release of the lease, and the client asking again while its VM is unavailable.
Crashes are harmless because the file holds the lease and a restart before the
expiry loads it; failed saves are harmless because they leave the file alone and
roll back only the lease they were creating.
-/

namespace GilStreaming.Coordinator

open GilStreaming.Trace

/-! ### Following one lease -/

/-- `l` is the lease `L`, extended zero or more times. -/
structure Lease.Extends (l L : Lease) : Prop where
  id : l.id = L.id
  vm : l.vmID = L.vmID
  client : l.client = L.client
  expiry : L.expiresAt ≤ l.expiresAt

theorem Lease.Extends.refl (L : Lease) : L.Extends L := ⟨rfl, rfl, rfl, le_refl _⟩

theorem Lease.Extends.owner {l L : Lease} (h : l.Extends L) :
    l.owner = L.owner ∧ l.deviceID = L.deviceID := Prod.mk.injEq .. ▸ h.client

theorem Lease.Extends.releases_iff {l L : Lease} (h : l.Extends L) (c : Call) :
    c.Releases l ↔ c.Releases L := by
  rw [Call.Releases, Call.Releases, h.id, h.owner.1]

theorem Lease.Extends.recoversFor_iff {l L : Lease} (h : l.Extends L) (c : Call) :
    c.RecoversFor l ↔ c.RecoversFor L := by
  rw [Call.RecoversFor, Call.RecoversFor, h.owner.1, h.owner.2]

/-- The event is a call that may end `L` before its time: a release by its owner or
an administrator, or its own client asking again while its VM is not available. -/
def World.MayEnd (w : World) (L : Lease) (e : Event) : Prop :=
  ∃ env c s, e.call? = some (env, c) ∧ w.process = some s ∧
    (c.Releases L ∨ c.RecoversFor L ∧ s.availableVM L.vmID = none)

/-- `L` is in memory, if there is a process, and on disk. -/
structure World.Holds (w : World) (ttl : Int) (L : Lease) : Prop where
  memory : ∀ s, w.process = some s →
    s.ttl = ttl ∧ ∃ l, s.leases.lookup L.id = some l ∧ l.Extends L
  disk : ∃ leases l, w.disk.stateFile = some (.state leases) ∧ l ∈ leases ∧ l.Extends L

/-! ### One call -/

section Call

variable {s : Store} {disk : Disk} {env : CallEnv} {c : Call} {l L : Lease}

/-- A call before the expiry that does not end `L` leaves it in memory. -/
theorem exec_holds (hs : s.leases.Exclusive) (hfresh : env.Fresh s.leases)
    (hl : s.leases.lookup L.id = some l) (hlL : l.Extends L)
    (hbefore : env.now < L.expiresAt) (hafter : L.expiresAt ≤ env.now + s.ttl)
    (hrelease : ¬ c.Releases L)
    (hdrop : ¬ (c.RecoversFor L ∧ s.availableVM L.vmID = none)) :
    ∃ l', (c.exec s disk env).store.leases.lookup L.id = some l' ∧ l'.Extends L := by
  have hexpiry := hlL.expiry
  have hchange := (exec_edited hs disk env c).change hfresh L.id
  rw [hl] at hchange
  generalize (c.exec s disk env).store.leases.lookup L.id = after at hchange ⊢
  cases hchange with
  | kept => exact ⟨l, rfl, hlL⟩
  | renewed => exact ⟨_, rfl, hlL.id, hlL.vm, hlL.client, hafter⟩
  | expired hdead => omega
  | released hc => exact absurd ((hlL.releases_iff c).mp hc) hrelease
  | dropped hc _ hvm =>
      exact absurd ⟨(hlL.recoversFor_iff c).mp hc, hlL.vm ▸ hvm⟩ hdrop

/-- Whatever file such a call leaves holds `L` too. -/
theorem exec_holds_disk (hs : s.leases.Exclusive)
    (hmem : ∃ l', (c.exec s disk env).store.leases.lookup L.id = some l' ∧ l'.Extends L)
    (hdisk : ∃ leases l, disk.stateFile = some (.state leases) ∧ l ∈ leases ∧ l.Extends L) :
    ∃ leases l, (c.exec s disk env).disk.stateFile = some (.state leases) ∧ l ∈ leases ∧
      l.Extends L := by
  rcases exec_stateFile hs disk env c with h | h
  · rw [h]; exact hdisk
  · obtain ⟨l', hl', hext⟩ := hmem
    exact ⟨_, l', h, GoMap.mem_values.mpr ⟨L.id, hl'⟩, hext⟩

end Call

/-! ### One event -/

/-- What a step must satisfy for `L`, granted at `t₀`, to survive it. -/
structure World.Quiet (w : World) (ttl t₀ : Int) (L : Lease) (e : Event) : Prop where
  fresh : w.DrawsFresh e
  stays : ¬ w.MayEnd L e
  config : e.KeepsTTL ttl
  clock : ∀ t, e.Reads t → t₀ ≤ t ∧ t < L.expiresAt

/-- **Step lemma.** -/
theorem World.Holds.step {w : World} {ttl t₀ : Int} {L : Lease} {e : Event}
    (hw : w.Sound) (hL : L.expiresAt = t₀ + ttl) (h : w.Holds ttl L)
    (hq : w.Quiet ttl t₀ L e) : (w.step e).Holds ttl L := by
  have hrule := World.step_rule (w := w) (e := e)
    (M := fun s => s.ttl = ttl ∧ ∃ l, s.leases.lookup L.id = some l ∧ l.Extends L)
    (D := fun d => ∃ leases l, d.stateFile = some (.state leases) ∧ l ∈ leases ∧ l.Extends L)
    ?_ ?_ h.disk
  · exact ⟨hrule.1, hrule.2⟩
  · intro env c s he hs
    obtain ⟨httl, l, hl, hext⟩ := h.memory s hs
    obtain ⟨hlo, hhi⟩ := hq.clock env.now (e.reads_of_call he)
    have hmem : ∃ l', (c.exec s w.disk env).store.leases.lookup L.id = some l' ∧ l'.Extends L :=
      exec_holds (hw.memory s hs) (hq.fresh env c s he hs) hl hext hhi (by omega)
        (fun hc => hq.stays ⟨env, c, s, he, hs, .inl hc⟩)
        fun hc => hq.stays ⟨env, c, s, he, hs, .inr hc⟩
    exact ⟨⟨(exec_ttl c).trans httl, hmem⟩, exec_holds_disk (hw.memory s hs) hmem h.disk⟩
  · rintro vms ttl' readFails now s rfl hload
    obtain rfl : ttl' = ttl := hq.config
    obtain ⟨leases, l, hfile, hl, hext⟩ := h.disk
    refine ⟨load_ttl hload, l, ?_, hext⟩
    have hlive : ∀ k, now k < l.expiresAt := fun k =>
      lt_of_lt_of_le (hq.clock (now k) ⟨k, rfl⟩).2 hext.expiry
    rw [← hext.id]
    exact lookup_load_of_mem hw.disk hload hfile hl hlive

/-- A promise puts the lease in memory and on disk. -/
theorem World.holds_of_promise {w : World} {env : CallEnv} {c : Call} {r : Reply} {L : Lease}
    {s : Store} (hw : w.Sound) (hs : w.process = some s) (hc : c.Promises)
    (hr : (c.exec s w.disk env).result = .ok r) (hL : r.lease? = some L) :
    (w.step (.call env c)).Holds s.ttl L ∧ L.expiresAt = env.now + s.ttl := by
  obtain ⟨l, hl, hpromised⟩ := exec_promised (hw.memory s hs) hc hr
  obtain rfl : l = L := Option.some.inj (hl.symm.trans hL)
  rw [World.step_call hs]
  refine ⟨⟨?_, _, l, hpromised.saved, GoMap.mem_values.mpr ⟨l.id, hpromised.held⟩, .refl l⟩,
    hpromised.expiry⟩
  intro s' hs'
  obtain rfl := Option.some.inj hs'
  exact ⟨exec_ttl c, l, hpromised.held, .refl l⟩

/-- While `L` is held, a reply that names a lease on `L`'s VM names one of `L`'s
client. -/
theorem World.Holds.reply_client {w : World} {ttl : Int} {L M : Lease} {env : CallEnv}
    {c : Call} {s : Store} {r : Reply} (hw : w.Sound) (h : w.Holds ttl L)
    (hs : w.process = some s) (hfresh : env.Fresh s.leases)
    (hbefore : env.now < L.expiresAt) (hr : (c.exec s w.disk env).result = .ok r)
    (hM : r.lease? = some M) (hvm : M.vmID = L.vmID) : M.client = L.client := by
  have hex := hw.memory s hs
  obtain ⟨-, l, hl, hext⟩ := h.memory s hs
  have hheld := exec_reply_held hex hr hM
  -- if the call leaves `L` in memory, `M` shares its VM and hence is `L`
  have hsame : ∀ l', (c.exec s w.disk env).store.leases.lookup L.id = some l' →
      l'.Extends L → M.client = L.client := by
    intro l' hl' hext'
    have hid := ((exec_edited hex w.disk env c).exclusive hex).vm hheld hl'
      (hvm.trans hext'.vm.symm)
    rw [hid] at hheld
    rw [Option.some.inj (hheld.symm.trans hl'), hext'.client]
  have hexpiry := hext.expiry
  have hchange := (exec_edited hex w.disk env c).change hfresh L.id
  rw [hl] at hchange
  generalize hafter : (c.exec s w.disk env).store.leases.lookup L.id = after at hchange
  cases hchange with
  | kept => exact hsame l hafter hext
  | renewed hc hlive =>
      -- extended by this very call, to an expiry that may be any
      have hid := ((exec_edited hex w.disk env c).exclusive hex).vm hheld hafter
        (hvm.trans hext.vm.symm)
      rw [hid] at hheld
      rw [Option.some.inj (hheld.symm.trans hafter), ← hext.client]
      rfl
  | expired hdead => omega
  | released hc =>
      -- a release names no lease in its reply
      rcases hc with rfl | rfl <;>
        · obtain ⟨a, -, rfl⟩ := Except.map_eq_ok hr
          exact absurd hM (by simp [Reply.lease?])
  | dropped hc _ _ =>
      obtain ⟨name, rfl⟩ := (hext.recoversFor_iff c).mp hc
      obtain ⟨a, ha, rfl⟩ := Except.map_eq_ok hr
      obtain rfl : a.1 = M := by simpa [Reply.lease?] using hM
      exact (createOrRecover_ok hex ha).2.2.2.1

/-! ### A run -/

/-- While nobody ends `L`, the steps of a run after its grant are quiet ones. -/
theorem World.quiet_of_history {vms : List VM} {ttl t₀ : Int} {L : Lease}
    {granting : Event} {before during : List Event} {env : CallEnv} {c : Call}
    (hids : IDsFresh (before ++ granting :: during ++ [.call env c]))
    (hclock : ClockMonotone (before ++ granting :: during ++ [.call env c]))
    (hgranting : granting.Reads t₀) (hbefore : env.now < L.expiresAt)
    (hconfig : ∀ e ∈ during, e.KeepsTTL ttl)
    (hkept : AllSteps World.step (fun w e => ¬ w.MayEnd L e)
      ((World.initial vms ttl).run (before ++ [granting])) during) :
    AllSteps World.step (fun w e => w.Quiet ttl t₀ L e)
      ((World.initial vms ttl).run (before ++ [granting])) during := by
  have hfresh : AllSteps World.step World.DrawsFresh
      ((World.initial vms ttl).run (before ++ [granting])) during :=
    World.run_drawsFresh vms ttl during _ (by simpa using hids.append_left)
  have hreads : ∀ e ∈ during, ∀ t, e.Reads t → t₀ ≤ t ∧ t < L.expiresAt := by
    intro e he t ht
    have hlo := hclock.append_left.append_right.le_of_cons he hgranting ht
    have hhi := hclock.le_of_append (List.mem_append_right _ (List.mem_cons_of_mem _ he))
      (List.mem_singleton_self _) ht rfl
    exact ⟨hlo, lt_of_le_of_lt hhi hbefore⟩
  exact (((hfresh.and hkept).and (.of_forall hconfig _)).and (.of_forall hreads _)).mono
    fun w e ⟨⟨⟨hf, hk⟩, hc⟩, hr⟩ => ⟨hf, hk, hc, hr⟩

/-- **Run lemma.** Through quiet steps a lease stays held. -/
theorem World.Holds.run {w : World} {ttl t₀ : Int} {L : Lease} {es : List Event}
    (hw : w.Sound) (hL : L.expiresAt = t₀ + ttl) (h : w.Holds ttl L)
    (hq : AllSteps World.step (fun w e => w.Quiet ttl t₀ L e) w es) :
    (w.run es).Sound ∧ (w.run es).Holds ttl L := by
  have hstep : ∀ (w : World) (e : Event), w.Quiet ttl t₀ L e → w.Sound ∧ w.Holds ttl L →
      (w.step e).Sound ∧ (w.step e).Holds ttl L :=
    fun _ e hq h => ⟨h.1.step e, h.2.step h.1 hL hq⟩
  exact run_invariant hstep ⟨hw, h⟩ hq

/-- Once a call has answered with a lease, no later call before its expiry answers
with a lease on the same VM for another client, whatever fails, crashes and
restarts in between, unless the lease is released or its own client asks again
while the VM is not available. -/
theorem granted_vm_not_regranted (vms : List VM) (ttl : Int) {before during : List Event}
    {env env' : CallEnv} {c c' : Call} {r r' : Reply} {L M : Lease}
    (hids : IDsFresh (before ++ .call env c :: during ++ [.call env' c']))
    (hclock : ClockMonotone (before ++ .call env c :: during ++ [.call env' c']))
    (hconfig : ∀ e ∈ before ++ during, e.KeepsTTL ttl)
    (hc : c.Promises)
    (hgrant : ((World.initial vms ttl).run before).reply (.call env c) = some (.ok r))
    (hL : r.lease? = some L)
    (hkept : AllSteps World.step (fun w e => ¬ w.MayEnd L e)
      ((World.initial vms ttl).run (before ++ [.call env c])) during)
    (hbefore : env'.now < L.expiresAt)
    (hreply : ((World.initial vms ttl).run (before ++ .call env c :: during)).reply
      (.call env' c') = some (.ok r'))
    (hM : r'.lease? = some M) (hvm : M.vmID = L.vmID) : M.client = L.client := by
  have hw := World.run_sound vms ttl before
  have httl := World.run_hasTTL vms fun e he => hconfig e (List.mem_append_left _ he)
  obtain ⟨_, _, s, hcall, hs, hr⟩ := World.reply_eq_some hgrant
  cases hcall
  obtain ⟨hheld, hexpiry⟩ := World.holds_of_promise hw hs hc hr hL
  rw [httl s hs] at hheld hexpiry
  have hquiet := World.quiet_of_history hids hclock rfl hbefore
    (fun e he => hconfig e (List.mem_append_right _ he)) hkept
  rw [World.run_concat] at hquiet
  obtain ⟨hw', hheld'⟩ := hheld.run (hw.step _) hexpiry hquiet
  obtain ⟨_, _, s', hcall', hs', hr'⟩ := World.reply_eq_some hreply
  cases hcall'
  have hfresh := World.run_fresh vms ttl hids hs'
  rw [World.run_append, World.run, run_cons] at hs' hr'
  exact hheld'.reply_client hw' hs' hfresh hbefore hr' hM hvm

/-- A heartbeat that could not be saved, a second client's request cut short by the
death of the process, and a restart. -/
def interruption : List Event :=
  [.call (testEnv 1 (some .rename) none) (.heartbeat "a" "user-1"),
    .crashDuring (testEnv 2 none (some "b")) (.createOrRecover "user-2" "device-2" "two"),
    .restart testPool minute false fun _ => 3]

theorem granted_vm_not_regranted_interrupted :
    ({ firstLease with expiresAt := 4 + minute } : Lease).client = firstLease.client :=
  @granted_vm_not_regranted testPool minute [] interruption
    (testEnv 0 none (some "a")) (testEnv 4 none none)
    (.createOrRecover "user-1" "device-1" "one") (.createOrRecover "user-1" "device-1" "one")
    _ _ firstLease _
    (by decide)
    (by simp [ClockMonotone, Trace.ClockMonotone, interruption, Event.Reads, testEnv])
    (by simp [interruption, Event.KeepsTTL]) trivial rfl rfl
    (by
      simp [interruption, World.MayEnd, Event.call?, Call.Releases, Call.RecoversFor,
        firstLease])
    (by decide) rfl rfl rfl

end GilStreaming.Coordinator
