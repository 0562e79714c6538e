import GilStreaming.Coordinator.Config
import GilStreaming.Coordinator.Stability

/-!
# GilStreaming.Coordinator.Heartbeats

Which lease lifetimes the client's heartbeats keep up with.

`loadConfig` accepts a lifetime of 30 seconds or more, the client of
`app/backend/gilcoordinator.cpp` sends a heartbeat every 30 seconds, and a lease is live
before its expiry only. `heartbeat_keeps_lease_iff` says when the three agree: the
lifetime has to be longer than the interval, as `main` computes it, in 64 bits.
-/

namespace GilStreaming.Coordinator

open GilStreaming.Trace

/-- `m_HeartbeatTimer.setInterval(30000)`. -/
def heartbeatInterval : Int := 30 * second

/-- The event is a heartbeat for `L` by its owner, and this is when it runs. -/
def heartbeatTime? (L : Lease) : Event → Option Int
  | .call env (.heartbeat id owner) => if id = L.id ∧ owner = L.owner then some env.now else none
  | _ => none

/-- When the heartbeats for `L` run. -/
def heartbeatTimes (L : Lease) (es : List Event) : List Int := es.filterMap (heartbeatTime? L)

/-- Consecutive instants of the list are at most an interval apart. -/
abbrev Timely (times : List Int) : Prop := times.IsChain fun t t' => t' ≤ t + heartbeatInterval

theorem reads_of_heartbeatTime {L : Lease} {e : Event} {t : Int} (h : heartbeatTime? L e = some t) :
    e.Reads t := by
  unfold heartbeatTime? at h
  split at h
  · obtain ⟨-, ht⟩ := Option.ite_none_right_eq_some.mp h
    exact (Option.some.inj ht).symm
  · exact absurd h (by simp)

theorem heartbeatTime_eq_none {L : Lease} {env : CallEnv} {c : Call}
    (hc : c ≠ .heartbeat L.id L.owner) : heartbeatTime? L (.call env c) = none := by
  cases c with
  | heartbeat id owner =>
      refine if_neg fun h => hc ?_
      rw [h.1, h.2]
  | _ => rfl

/-- Up to the next heartbeat the clock stays within an interval of the last one. -/
theorem le_of_next_heartbeat {L : Lease} {es : List Event} {last t : Int}
    (hchain : Timely (last :: heartbeatTimes L es)) (hnext : heartbeatTimes L es ≠ [])
    (ht : ∀ e ∈ es, ∀ t', e.Reads t' → t ≤ t') : t ≤ last + heartbeatInterval := by
  obtain ⟨t', rest, hcons⟩ := List.exists_cons_of_ne_nil hnext
  have hmem : t' ∈ heartbeatTimes L es := hcons ▸ List.mem_cons_self
  obtain ⟨e, he, hread⟩ := List.mem_filterMap.mp hmem
  rw [Timely, hcons, List.isChain_cons_cons] at hchain
  exact (ht e he t' (reads_of_heartbeatTime hread)).trans hchain.1

/-! ### One call -/

/-- A lease with the id is in memory. -/
def World.Remembers (w : World) (id : String) : Prop :=
  ∃ s l, w.process = some s ∧ s.leases.lookup id = some l

/-- `L` is in memory, and lasts for `ttl` after `last`, or longer. -/
def World.Lasts (w : World) (ttl last : Int) (L : Lease) : Prop :=
  ∃ s l, w.process = some s ∧ s.ttl = ttl ∧ s.leases.lookup L.id = some l ∧ l.Extends L ∧
    L.expiresAt ≤ last + ttl ∧ last + ttl ≤ l.expiresAt

theorem World.Lasts.remembers {w : World} {ttl last : Int} {L : Lease} (h : w.Lasts ttl last L) :
    w.Remembers L.id := by
  obtain ⟨s, l, hs, -, hl, -⟩ := h
  exact ⟨s, l, hs, hl⟩

theorem World.Leased.lasts {w : World} {ttl last : Int} {L : Lease} (h : w.Leased ttl last L) :
    w.Lasts ttl last L := by
  obtain ⟨s, l, hs, httl, hl, hext, hexp⟩ := h
  exact ⟨s, l, hs, httl, hl, hext, hexp ▸ hext.expiry, hexp.ge⟩

/-- `Heartbeat` on a live lease renews it, and does not report it missing. -/
theorem heartbeat_live {s : Store} {disk : Disk} {env : CallEnv} {l : Lease}
    (hl : s.leases.lookup l.id = some l) (hlive : env.now < l.expiresAt) :
    (s.heartbeat disk env l.id l.owner).store.leases.lookup l.id =
        some { l with expiresAt := env.now + s.ttl } ∧
      (s.heartbeat disk env l.id l.owner).result ≠ .error .leaseNotFound := by
  rw [heartbeat_held (lookup_reapLocked.mpr ⟨hl, hlive⟩)]
  constructor
  · rw [persistThen_self, lookup_renewLocked, if_pos rfl, reapLocked_ttl]
  · cases hp : env.persist with
    | none => simp [persistThen_ok hp]
    | some step => simp [(persistThen_error hp).2.2]

/-- `Heartbeat` on a lease that has expired. -/
theorem heartbeat_expired {s : Store} {disk : Disk} {env : CallEnv} {l : Lease} {id : String}
    (hl : s.leases.lookup id = some l) (hdead : l.expiresAt ≤ env.now) (owner : String) :
    (s.heartbeat disk env id owner).result = .error .leaseNotFound := by
  have hnone : (s.reapLocked env.now).leases.lookup id = none := by
    refine Option.eq_none_iff_forall_ne_some.mpr fun l' hl' => ?_
    obtain ⟨hl', hlive⟩ := lookup_reapLocked.mp hl'
    obtain rfl := Option.some.inj (hl.symm.trans hl')
    omega
  simp [Store.heartbeat, hnone]

/-- **Step lemma.** A call within `ttl` of the last heartbeat keeps the lease. -/
theorem World.Lasts.step {w : World} {ttl last : Int} {L : Lease} {env : CallEnv} {c : Call}
    (hw : w.Sound) (h : w.Lasts ttl last L) (hfresh : w.DrawsFresh (.call env c))
    (hkept : ¬ w.MayEnd L (.call env c)) (hlo : last ≤ env.now) (hhi : env.now < last + ttl) :
    (w.step (.call env c)).Lasts ttl ((heartbeatTime? L (.call env c)).getD last) L := by
  obtain ⟨s, l, hs, rfl, hl, hext, hgrant, hexp⟩ := h
  rw [World.step_call hs]
  by_cases hc : c = .heartbeat L.id L.owner
  · subst hc
    have htime : heartbeatTime? L (.call env (.heartbeat L.id L.owner)) = some env.now :=
      if_pos ⟨rfl, rfl⟩
    rw [← hext.id] at hl
    have hlive : env.now < l.expiresAt := by omega
    have hrenewed := (@heartbeat_live s w.disk env l hl hlive).1
    have hlater : L.expiresAt ≤ env.now + s.ttl := by omega
    rw [htime, Option.getD_some]
    refine ⟨_, { l with expiresAt := env.now + s.ttl }, rfl, exec_ttl _, ?_,
      ⟨hext.id, hext.vm, hext.client, hlater⟩, hlater, le_refl _⟩
    rw [Call.exec, Outcome.map_store, ← hext.id, ← hext.owner.1]
    exact hrenewed
  · -- another call: it does not end the lease, and comes too early to reap it
    rw [heartbeatTime_eq_none hc, Option.getD_none]
    have hchange := (exec_edited (hw.memory s hs) w.disk env c).change (hfresh env c s rfl hs) L.id
    rw [hl] at hchange
    generalize hafter : (c.exec s w.disk env).store.leases.lookup L.id = after at hchange
    cases hchange with
    | kept => exact ⟨_, l, rfl, exec_ttl c, hafter, hext, hgrant, hexp⟩
    | renewed =>
        exact ⟨_, { l with expiresAt := env.now + s.ttl }, rfl, exec_ttl c, hafter,
          ⟨hext.id, hext.vm, hext.client, by dsimp only; omega⟩, hgrant, by dsimp only; omega⟩
    | expired hdead => omega
    | released hc' =>
        exact absurd ⟨env, c, s, rfl, hs, .inl ((hext.releases_iff c).mp hc')⟩ hkept
    | dropped hc' _ hnone =>
        exact absurd ⟨env, c, s, rfl, hs, .inr ⟨(hext.recoversFor_iff c).mp hc', hext.vm ▸ hnone⟩⟩
          hkept

/-! ### Many calls -/

/-- **Run lemma.** While the heartbeats are timely, no call up to the next one removes the
lease. -/
theorem World.Lasts.run {L : Lease} {ttl : Int} {env' : CallEnv} (hlong : heartbeatInterval < ttl) :
    ∀ {es : List Event} {w : World} {last : Int}, w.Sound → w.Lasts ttl last L →
      AllSteps World.step World.DrawsFresh w (es ++ [.call env' (.heartbeat L.id L.owner)]) →
      (∀ e ∈ es, ∃ env c, e = .call env c) →
      AllSteps World.step (fun w e => ¬ w.MayEnd L e) w es →
      ClockMonotone (es ++ [.call env' (.heartbeat L.id L.owner)]) →
      (∀ e ∈ es ++ [.call env' (.heartbeat L.id L.owner)], ∀ t, e.Reads t → last ≤ t) →
      Timely (last :: heartbeatTimes L (es ++ [.call env' (.heartbeat L.id L.owner)])) →
      AllSteps World.step (fun w e => (w.step e).Remembers L.id) w es ∧
        ∃ last', (w.run es).Lasts ttl last' L ∧ last' ≤ env'.now ∧ env'.now < last' + ttl := by
  intro es
  induction es with
  | nil =>
      intro w last _ h _ _ _ _ hlast hchain
      have hnext : env'.now ≤ last + heartbeatInterval := by
        refine le_of_next_heartbeat hchain (by simp [heartbeatTimes, heartbeatTime?]) ?_
        intro e he t ht
        obtain rfl : e = .call env' (.heartbeat L.id L.owner) := by simpa using he
        exact le_of_eq ht.symm
      exact ⟨trivial, last, h, hlast _ List.mem_cons_self env'.now rfl, by omega⟩
  | cons e es ih =>
      intro w last hw h hfresh hcalls hkept hclock hlast hchain
      obtain ⟨env, c, rfl⟩ := hcalls e List.mem_cons_self
      have hlo := hlast _ List.mem_cons_self env.now rfl
      have hlater : ∀ e' ∈ es ++ [.call env' (.heartbeat L.id L.owner)], ∀ t, e'.Reads t →
          env.now ≤ t := fun e' he' t ht => hclock.le_of_cons he' rfl ht
      have hnext : env.now ≤ last + heartbeatInterval := by
        refine le_of_next_heartbeat hchain (by simp [heartbeatTimes, heartbeatTime?]) ?_
        intro e' he' t ht
        rcases List.mem_cons.mp he' with rfl | he'
        · exact le_of_eq ht.symm
        · exact hlater e' he' t ht
      -- from here on the call counts as the last heartbeat, if it is one
      have hstep := h.step hw hfresh.1 hkept.1 hlo (by omega)
      rw [List.cons_append, heartbeatTimes, List.filterMap_cons] at hchain
      have hafter : Timely ((heartbeatTime? L (.call env c)).getD last ::
          heartbeatTimes L (es ++ [.call env' (.heartbeat L.id L.owner)])) ∧
          ∀ e' ∈ es ++ [.call env' (.heartbeat L.id L.owner)], ∀ t, e'.Reads t →
            (heartbeatTime? L (.call env c)).getD last ≤ t := by
        cases htime : heartbeatTime? L (.call env c) with
        | none =>
            rw [htime] at hchain
            exact ⟨hchain, fun e' he' => hlast e' (List.mem_cons_of_mem _ he')⟩
        | some t =>
            rw [htime] at hchain
            obtain rfl : t = env.now := reads_of_heartbeatTime htime
            exact ⟨(List.isChain_cons_cons.mp hchain).2, hlater⟩
      obtain ⟨hrest, hend⟩ := ih (hw.step _) hstep hfresh.2
        (fun e' he' => hcalls e' (List.mem_cons_of_mem _ he')) hkept.2 hclock.tail
        hafter.2 hafter.1
      exact ⟨⟨hstep.remembers, hrest⟩, hend⟩

/-! ### The lifetimes that are long enough -/

/-- A run of the coordinator on `config` up to a heartbeat for `L`, after which
`CreateOrRecover` granted `L` and the client's timer sent a heartbeat in time, again and
again. Nobody gives `L` up: neither a release, nor its client asking for a lease again
when the VM of `L` is gone. -/
structure HeartbeatRun (config : Config) (before : List Event) (env : CallEnv)
    (deviceName : String) (L : Lease) (vm : VM) (during : List Event) (env' : CallEnv) :
    Prop where
  accepted : loadConfig (.ok config) = .ok config
  ids : IDsFresh (before ++ .call env (.createOrRecover L.owner L.deviceID deviceName) :: during ++
    [.call env' (.heartbeat L.id L.owner)])
  clock : ClockMonotone (before ++ .call env (.createOrRecover L.owner L.deviceID deviceName) ::
    during ++ [.call env' (.heartbeat L.id L.owner)])
  lifetime : ∀ e ∈ before, e.KeepsTTL config.leaseTTL
  granted : ((World.initial config.vms config.leaseTTL).run before).reply
    (.call env (.createOrRecover L.owner L.deviceID deviceName)) = some (.ok (.leaseAndVM L vm))
  calls : ∀ e ∈ during, ∃ env c, e = .call env c
  kept : AllSteps World.step (fun w e => ¬ w.MayEnd L e)
    (((World.initial config.vms config.leaseTTL).run before).step
      (.call env (.createOrRecover L.owner L.deviceID deviceName))) during
  timely : Timely (env.now :: heartbeatTimes L (during ++ [.call env' (.heartbeat L.id L.owner)]))

/-- On no configuration with this `leaseTTLSeconds` is a lease removed before the next
heartbeat has come, or reported missing by it. -/
def HeartbeatsSuffice (seconds : Int) : Prop :=
  ∀ (config : Config) (before : List Event) (env : CallEnv) (deviceName : String) (L : Lease)
    (vm : VM) (during : List Event) (env' : CallEnv),
    config.leaseTTLSeconds = seconds →
    HeartbeatRun config before env deviceName L vm during env' →
    let w := ((World.initial config.vms config.leaseTTL).run before).step
      (.call env (.createOrRecover L.owner L.deviceID deviceName))
    AllSteps World.step (fun w e => (w.step e).Remembers L.id) w
        (during ++ [.call env' (.heartbeat L.id L.owner)]) ∧
      (w.run during).reply (.call env' (.heartbeat L.id L.owner)) ≠ some (.error .leaseNotFound)

/-- The configuration of the tests, with a lifetime. -/
def testConfig (seconds : Int) : Config :=
  ⟨"127.0.0.1:8080", seconds, "state.json", false, testPool⟩

theorem testConfig_accepted {seconds : Int} (hmin : 30 ≤ seconds) :
    loadConfig (.ok (testConfig seconds)) = .ok (testConfig seconds) := by
  have hlong : ¬ seconds < 30 := by omega
  simp [loadConfig, testConfig, hlong, testPool, VM.configError]

theorem heartbeatsSuffice_of_lt {seconds : Int}
    (hlong : heartbeatInterval < (Int64.ofInt (seconds * second)).toInt) :
    HeartbeatsSuffice seconds := by
  intro config before env deviceName L vm during env' hseconds h w
  have hsound := World.run_sound config.vms config.leaseTTL before
  obtain ⟨_, _, s, hcall, hs, hgrant⟩ := World.reply_eq_some h.granted
  cases hcall
  have httl : s.ttl = config.leaseTTL := World.run_hasTTL config.vms h.lifetime s hs
  have hleased : w.Leased s.ttl env.now L := World.leased_of_promise hsound hs trivial hgrant rfl
  rw [← hseconds] at hlong
  replace hlong : heartbeatInterval < s.ttl := httl ▸ hlong
  have hfresh := World.run_drawsFresh config.vms config.leaseTTL
    (during ++ [.call env' (.heartbeat L.id L.owner)])
    (before ++ [.call env (.createOrRecover L.owner L.deviceID deviceName)])
    (by simpa using h.ids)
  rw [World.run_concat] at hfresh
  have hclock : ClockMonotone (.call env (.createOrRecover L.owner L.deviceID deviceName) ::
      (during ++ [.call env' (.heartbeat L.id L.owner)])) := by
    have hclock := h.clock
    rw [List.append_assoc] at hclock
    exact hclock.append_right
  obtain ⟨hkept, last, hlasts, hlo, hhi⟩ := World.Lasts.run hlong (hsound.step _) hleased.lasts
    hfresh h.calls h.kept hclock.tail (fun e he t ht => hclock.le_of_cons he rfl ht) h.timely
  have hlast : (w.run during).DrawsFresh (.call env' (.heartbeat L.id L.owner)) :=
    (allSteps_concat.mp hfresh).2
  have hsound' : (w.run during).Sound := by
    have hall := World.run_sound config.vms config.leaseTTL
      (before ++ .call env (.createOrRecover L.owner L.deviceID deviceName) :: during)
    rwa [World.run_append, World.run, run_cons] at hall
  have hstays : ¬ (w.run during).MayEnd L (.call env' (.heartbeat L.id L.owner)) := by
    intro hends
    obtain ⟨_, _, _, hcall, -, hends⟩ := hends
    cases hcall
    simp [Call.Releases, Call.RecoversFor] at hends
  constructor
  · exact allSteps_concat.mpr ⟨hkept, (hlasts.step hsound' hlast hstays hlo hhi).remembers⟩
  · obtain ⟨s', l, hs', -, hl, hext, -, hexp⟩ := hlasts
    have hlive : env'.now < l.expiresAt := by omega
    rw [← hext.id] at hl
    have hreply := (@heartbeat_live s' (w.run during).disk env' l hl hlive).2
    intro hmissing
    rw [World.reply, hs', Option.map_some, Call.exec, Outcome.map_result, ← hext.id,
      ← hext.owner.1, Option.some.injEq] at hmissing
    cases hresult : (s'.heartbeat (w.run during).disk env' l.id l.owner).result with
    | ok r => simp [hresult, Except.map] at hmissing
    | error err =>
        rw [hresult] at hmissing hreply
        exact hreply (by simpa [Except.map] using hmissing)

/-- A lifetime that is not longer than the interval is over when the heartbeat comes. -/
theorem not_heartbeatsSuffice {seconds : Int} (hmin : 30 ≤ seconds)
    (hshort : (Int64.ofInt (seconds * second)).toInt ≤ heartbeatInterval) :
    ¬ HeartbeatsSuffice seconds := by
  intro h
  set L : Lease := { firstLease with expiresAt := 0 + (testConfig seconds).leaseTTL }
  have hgrant : (World.initial (testConfig seconds).vms (testConfig seconds).leaseTTL).reply
      firstServed =
        some (.ok (.leaseAndVM L ⟨"vm-1", "", "", "vm1", 47989, "", 0, "", true⟩)) := rfl
  have hrun : HeartbeatRun (testConfig seconds) [] (testEnv 0 none (some "a")) "one" L
      ⟨"vm-1", "", "", "vm1", 47989, "", 0, "", true⟩ [] (testEnv heartbeatInterval none none) :=
    { accepted := testConfig_accepted hmin
      ids := List.nodup_singleton "a"
      clock := by
        simp [ClockMonotone, Trace.ClockMonotone, Event.Reads, testEnv, heartbeatInterval, second]
      lifetime := by simp
      granted := hgrant
      calls := by simp
      kept := trivial
      timely := by simp [heartbeatTimes, heartbeatTime?, testEnv] }
  obtain ⟨-, hreply⟩ := h _ _ _ _ _ _ _ _ rfl hrun
  have hleased : ((World.initial (testConfig seconds).vms (testConfig seconds).leaseTTL).step
      firstServed).Leased (testConfig seconds).leaseTTL 0 L :=
    World.leased_of_promise (World.initial_sound _ _) rfl trivial (Option.some.inj hgrant) rfl
  obtain ⟨s, l, hs, -, hl, -, hexp⟩ := hleased
  have hdead : l.expiresAt ≤ heartbeatInterval := by
    rw [hexp, Int.zero_add]
    exact hshort
  refine hreply ?_
  have hreply : ((World.initial (testConfig seconds).vms (testConfig seconds).leaseTTL).step
      firstServed).reply (.call (testEnv heartbeatInterval none none) (.heartbeat L.id L.owner)) =
        some (.error .leaseNotFound) := by
    rw [World.reply, hs, Option.map_some, Call.exec, Outcome.map_result,
      @heartbeat_expired s _ (testEnv heartbeatInterval none none) l L.id hl hdead L.owner]
    rfl
  exact hreply

/-- **Heartbeats.** The client's heartbeats keep every lease of the configurations with an
accepted `leaseTTLSeconds` if and only if the lifetime, as an `int64`, is longer than the
interval between them. -/
theorem heartbeat_keeps_lease_iff {seconds : Int} (hmin : 30 ≤ seconds) :
    HeartbeatsSuffice seconds ↔ heartbeatInterval < (Int64.ofInt (seconds * second)).toInt := by
  refine ⟨fun h => ?_, heartbeatsSuffice_of_lt⟩
  by_contra hshort
  exact not_heartbeatsSuffice hmin (not_lt.mp hshort) h

/-- A lifetime of 90 seconds, as in `config.example.json`, is long enough. -/
theorem heartbeat_keeps_lease_example : HeartbeatsSuffice 90 :=
  (heartbeat_keeps_lease_iff (by decide)).mpr (by decide)

/-- The shortest lifetime that `loadConfig` accepts is not: the first heartbeat, half a
minute after the grant, finds the lease expired. -/
theorem heartbeat_at_expiry :
    ((World.initial testPool (testConfig 30).leaseTTL).run [firstServed]).reply
        (.call (testEnv (30 * second) none none) (.heartbeat "a" "user-1")) =
      some (.error .leaseNotFound) ∧ ¬ HeartbeatsSuffice 30 :=
  ⟨by decide, not_heartbeatsSuffice (by decide) (by decide)⟩

end GilStreaming.Coordinator
