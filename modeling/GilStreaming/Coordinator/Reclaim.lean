import GilStreaming.Coordinator.Durability

/-!
# GilStreaming.Coordinator.Reclaim

No lease outlives the last call made for it by more than `ttl`.

`World.Bounded` says this of memory and of the file: every lease there got its
expiry from a call made for it, `ttl` before. Calls that failed or were cut short
count, since they may have extended the lease in memory or reached the file. A VM
for whose leases no call has been made for `ttl` is therefore free again, whatever
else happened (`no_leaked_slot`).
-/

namespace GilStreaming.Coordinator

open GilStreaming.Trace

/-! ### Calls made for a lease -/

/-- The call was made for `l`: it is a heartbeat for `l` by its owner, a request by
its client, or the assignment that drew its id. -/
def MadeFor (env : CallEnv) (c : Call) (l : Lease) : Prop :=
  c.Renews l ∨ c.Grants l ∧ env.randomID = some l.id

/-- A call for `l` ran at the reading `t` along `es`. -/
def CalledFor (es : List Event) (l : Lease) (t : Int) : Prop :=
  ∃ e ∈ es, ∃ env c, e.call? = some (env, c) ∧ MadeFor env c l ∧ env.now = t

/-- The last call for `l` along `es` ran at the reading `t`. -/
def LastCalledFor (es : List Event) (l : Lease) (t : Int) : Prop :=
  ∃ earlier e later env c, es = earlier ++ e :: later ∧ e.call? = some (env, c) ∧
    MadeFor env c l ∧ env.now = t ∧ ∀ t', ¬ CalledFor later l t'

theorem CalledFor.append_left {es : List Event} {l : Lease} {t : Int} (h : CalledFor es l t)
    (es' : List Event) : CalledFor (es ++ es') l t := by
  obtain ⟨e, he, hrest⟩ := h
  exact ⟨e, List.mem_append_left _ he, hrest⟩

/-- Where there is a call, there is a last one, and it is not earlier. -/
theorem CalledFor.exists_last {es : List Event} {l : Lease} {t : Int} (h : CalledFor es l t)
    (hclock : ClockMonotone es) : ∃ t', LastCalledFor es l t' ∧ t ≤ t' := by
  induction es generalizing t with
  | nil => obtain ⟨e, he, -⟩ := h; exact absurd he (by simp)
  | cons e es ih =>
      by_cases hlater : ∃ t', CalledFor es l t'
      · -- some call comes after `e`, hence the last one does
        obtain ⟨t', ht'⟩ := hlater
        have hle : t ≤ t' ∨ CalledFor es l t := by
          obtain ⟨e₀, he₀, env, c, hcall, hmade, rfl⟩ := h
          rcases List.mem_cons.mp he₀ with rfl | he₀
          · obtain ⟨e', he', env', c', hcall', -, rfl⟩ := ht'
            exact .inl (hclock.le_of_cons he' (e₀.reads_of_call hcall) (e'.reads_of_call hcall'))
          · exact .inr ⟨e₀, he₀, env, c, hcall, hmade, rfl⟩
        have hlast : ∃ t'', LastCalledFor es l t'' ∧ t ≤ t'' := by
          rcases hle with hle | hcalled
          · obtain ⟨t'', hlast, hle'⟩ := ih ht' hclock.tail
            exact ⟨t'', hlast, hle.trans hle'⟩
          · exact ih hcalled hclock.tail
        obtain ⟨t'', ⟨earlier, e', later, env, c, rfl, hrest⟩, hle'⟩ := hlast
        exact ⟨t'', ⟨e :: earlier, e', later, env, c, rfl, hrest⟩, hle'⟩
      · obtain ⟨e₀, he₀, env, c, hcall, hmade, rfl⟩ := h
        rcases List.mem_cons.mp he₀ with rfl | he₀
        · exact ⟨env.now, ⟨[], e₀, es, env, c, rfl, hcall, hmade, rfl, not_exists.mp hlater⟩,
            le_refl _⟩
        · exact absurd ⟨env.now, e₀, he₀, env, c, hcall, hmade, rfl⟩ hlater

/-! ### The bound -/

/-- `l` expires at most `ttl` after some call made for it. -/
def BoundedBy (es : List Event) (ttl : Int) (l : Lease) : Prop :=
  ∃ t, CalledFor es l t ∧ l.expiresAt ≤ t + ttl

/-- Every lease in memory and on disk is so bounded. -/
structure World.Bounded (w : World) (es : List Event) (ttl : Int) : Prop where
  memory : ∀ s, w.process = some s → ∀ id l, s.leases.lookup id = some l → BoundedBy es ttl l
  disk : ∀ id l, w.Listed id l → BoundedBy es ttl l

theorem BoundedBy.append_left {es : List Event} {ttl : Int} {l : Lease}
    (h : BoundedBy es ttl l) (es' : List Event) : BoundedBy (es ++ es') ttl l := by
  obtain ⟨t, hcalled, hle⟩ := h
  exact ⟨t, hcalled.append_left es', hle⟩

/-- A lease in memory after a call was bounded before it, or is bounded by it. -/
theorem exec_bounded {s : Store} {disk : Disk} {env : CallEnv} {c : Call} {e : Event}
    {es : List Event} (hs : s.leases.Exclusive) (hfresh : env.Fresh s.leases)
    (he : e.call? = some (env, c))
    (h : ∀ id l, s.leases.lookup id = some l → BoundedBy es s.ttl l) (id : String) (l : Lease)
    (hl : (c.exec s disk env).store.leases.lookup id = some l) :
    BoundedBy (es ++ [e]) s.ttl l := by
  have hchange := (exec_edited hs disk env c).change hfresh id
  rw [hl] at hchange
  have hmade : MadeFor env c l → l.expiresAt = env.now + s.ttl → BoundedBy (es ++ [e]) s.ttl l :=
    fun hmade hexp => ⟨env.now, ⟨e, List.mem_append_right _ (List.mem_singleton_self _), env, c,
      he, hmade, rfl⟩, le_of_eq hexp⟩
  generalize hbefore : s.leases.lookup id = before at hchange
  cases hchange with
  | kept => exact (h id l hbefore).append_left [e]
  | renewed hc _ => exact hmade (.inl hc) rfl
  | granted _ hid hc hexp _ => exact hmade (.inr ⟨hc, hid⟩) hexp

/-- **Step lemma.** -/
theorem World.Bounded.step {w : World} {es : List Event} {ttl : Int} {e : Event}
    (hw : w.Sound) (httl : w.HasTTL ttl) (h : w.Bounded es ttl) (hfresh : w.DrawsFresh e) :
    (w.step e).Bounded (es ++ [e]) ttl := by
  have hrule := World.step_rule (w := w) (e := e)
    (M := fun s => ∀ id l, s.leases.lookup id = some l → BoundedBy (es ++ [e]) ttl l)
    (D := fun d => ∀ leases l, d.stateFile = some (.state leases) → l ∈ leases →
      BoundedBy (es ++ [e]) ttl l) ?_ ?_ ?_
  · exact ⟨hrule.1, fun id l ⟨leases, hfile, hl, _⟩ => hrule.2 leases l hfile hl⟩
  · intro env c s he hs
    have hex := hw.memory s hs
    obtain rfl := httl s hs
    have hmem : ∀ id l, (c.exec s w.disk env).store.leases.lookup id = some l →
        BoundedBy (es ++ [e]) s.ttl l :=
      exec_bounded hex (hfresh env c s he hs) he (h.memory s hs)
    refine ⟨hmem, fun leases l hfile hl => ?_⟩
    rcases exec_listed hex hfile hl with hbefore | hheld
    · exact (h.disk l.id l ⟨leases, hbefore, hl, rfl⟩).append_left [e]
    · exact hmem l.id l hheld
  · intro vms ttl' readFails now s _ hload id l hl
    obtain ⟨leases, hfile, hmem, hid, -⟩ := lookup_load hload hl
    exact (h.disk id l ⟨leases, hfile, hmem, hid⟩).append_left [e]
  · exact fun leases l hfile hl => (h.disk l.id l ⟨leases, hfile, hl, rfl⟩).append_left [e]

/-- **Run lemma.** -/
theorem World.run_bounded (vms : List VM) (ttl : Int) {es : List Event} (hids : IDsFresh es)
    (hconfig : ∀ e ∈ es, e.KeepsTTL ttl) :
    ((World.initial vms ttl).run es).Bounded es ttl := by
  refine run_history (fun es => IDsFresh es ∧ ∀ e ∈ es, e.KeepsTTL ttl)
    (fun es (w : World) => w.Bounded es ttl) ?_ ⟨?_, ?_⟩ ?_ ⟨hids, hconfig⟩
  · exact fun es e h => ⟨h.1.append_left, fun e' he' => h.2 e' (List.mem_append_left _ he')⟩
  · intro s hs id l hl
    obtain rfl := Option.some.inj hs
    exact absurd hl (by simp)
  · rintro id l ⟨leases, hfile, -, -⟩
    exact absurd hfile (by simp [World.initial])
  · intro es e hadm h
    exact h.step (World.run_sound vms ttl es)
      (World.run_hasTTL vms fun e' he' => hadm.2 e' (List.mem_append_left _ he'))
      ((World.run_knowsOnly vms ttl hadm.1.append_left).drawsFresh hadm.1)

/-! ### A VM without unexpired leases -/

section Free

variable {s : Store} {disk : Disk} {env : CallEnv} {vm : VM}

theorem grantLocked_error {vm : VM} {owner deviceID deviceName : String} {err : StoreError}
    (h : (s.grantLocked disk env vm owner deviceID deviceName).result = .error err) :
    err = .randomID ∨ ∃ step, err = .persist step := by
  revert h
  unfold Store.grantLocked
  cases env.randomID with
  | none => exact fun h => .inl (by simpa using h.symm)
  | some id =>
      dsimp only
      cases hp : env.persist with
      | none => rw [persistThen_ok hp]; exact fun h => absurd h (by simp)
      | some step =>
          rw [(persistThen_error hp).2.2]
          exact fun h => .inr ⟨step, by simpa using h.symm⟩

/-- A client without a lease is not turned away while an available VM is free. -/
theorem createOrRecover_not_exhausted (hvm : vm ∈ s.vms) (havail : vm.available = true)
    (hfree : ∀ k l, (s.reapLocked env.now).leases.lookup k = some l → l.vmID ≠ vm.id)
    {owner deviceID : String}
    (hclient : ∀ k l, s.leases.lookup k = some l → env.now < l.expiresAt →
      l.client ≠ (owner, deviceID))
    (deviceName : String) :
    (s.createOrRecover disk env owner deviceID deviceName).result ≠ .error .poolExhausted := by
  have hnone : (s.reapLocked env.now).clientLease env.order owner deviceID = none :=
    clientLease_eq_none.mpr fun k l hl =>
      hclient k l (lookup_reapLocked.mp hl).1 (lookup_reapLocked.mp hl).2
  unfold Store.createOrRecover
  simp only [hnone]
  unfold Store.allocateLocked
  dsimp only
  split
  · next hfind =>
      obtain ⟨k, l, hl, hid⟩ := freeVM_eq_none hfind vm hvm havail
      exact absurd hid (hfree k l hl)
  · intro h
    rcases grantLocked_error h with h | ⟨_, h⟩ <;> exact absurd h (by simp)

/-- A VM without an unexpired lease is not reported occupied. -/
theorem adminAssign_not_occupied {vmID : String}
    (hfree : ∀ k l, (s.reapLocked env.now).leases.lookup k = some l → l.vmID ≠ vmID)
    (owner deviceID deviceName : String) :
    (s.adminAssign disk env vmID owner deviceID deviceName).result ≠ .error .vmOccupied := by
  unfold Store.adminAssign
  dsimp only
  split
  · simp
  · split
    · simp
    · split
      · next err hconflict =>
          intro h
          obtain rfl : err = .vmOccupied := by simpa using h
          obtain ⟨l, hl, herr⟩ := List.exists_of_findSome?_eq_some hconflict
          obtain ⟨k, hk⟩ := GoMap.mem_values.mp hl
          rw [if_neg (hfree k l hk)] at herr
          split at herr <;> exact absurd herr (by simp)
      · intro h
        rcases grantLocked_error h with h | ⟨_, h⟩ <;> exact absurd h (by simp)

end Free

/-- Under a clock that does not go back, every lease of a reachable state expires at
most `ttl` after the last call made for it. So when no call was made for the leases on
an available VM during the last `ttl`, a client without a lease is not told that the
pool is exhausted, and an administrator not that the VM is occupied. -/
theorem no_leaked_slot (vms : List VM) (ttl : Int) {es : List Event} {s : Store}
    (hids : IDsFresh es) (hclock : ClockMonotone es) (hconfig : ∀ e ∈ es, e.KeepsTTL ttl)
    (hs : ((World.initial vms ttl).run es).process = some s) :
    (∀ id l, s.leases.lookup id = some l →
      ∃ t, LastCalledFor es l t ∧ l.expiresAt ≤ t + ttl) ∧
    ∀ vm ∈ s.vms, vm.available = true → ∀ env : CallEnv,
      (∀ id l t, s.leases.lookup id = some l → l.vmID = vm.id → CalledFor es l t →
        t + ttl ≤ env.now) →
      (∀ owner deviceID deviceName,
        (∀ id l, s.leases.lookup id = some l → env.now < l.expiresAt →
          l.client ≠ (owner, deviceID)) →
        ((World.initial vms ttl).run es).reply
          (.call env (.createOrRecover owner deviceID deviceName)) ≠
            some (.error .poolExhausted)) ∧
      ∀ owner deviceID deviceName,
        ((World.initial vms ttl).run es).reply
          (.call env (.adminAssign vm.id owner deviceID deviceName)) ≠
            some (.error .vmOccupied) := by
  have hbounded := (World.run_bounded vms ttl hids hconfig).memory s hs
  refine ⟨fun id l hl => ?_, fun vm hvm havail env hquiet => ?_⟩
  · obtain ⟨t, hcalled, hle⟩ := hbounded id l hl
    obtain ⟨t', hlast, hle'⟩ := hcalled.exists_last hclock
    exact ⟨t', hlast, by omega⟩
  · have hfree : ∀ k l, (s.reapLocked env.now).leases.lookup k = some l → l.vmID ≠ vm.id := by
      intro k l hl hid
      obtain ⟨hl, hlive⟩ := lookup_reapLocked.mp hl
      obtain ⟨t, hcalled, hle⟩ := hbounded k l hl
      have hlate := hquiet k l t hl hid hcalled
      omega
    constructor
    · intro owner deviceID deviceName hclient hr
      rw [World.reply, hs] at hr
      exact createOrRecover_not_exhausted hvm havail hfree hclient deviceName
        (Except.map_eq_error (Option.some.inj hr))
    · intro owner deviceID deviceName hr
      rw [World.reply, hs] at hr
      exact adminAssign_not_occupied hfree owner deviceID deviceName
        (Except.map_eq_error (Option.some.inj hr))

/-- One `ttl` after the first client's last call its VM can be assigned to another. -/
theorem no_leaked_slot_abandoned :
    ((World.initial testPool minute).run
        [firstServed, .crash, .restart testPool minute false fun _ => 1]).reply
      (.call (testEnv minute none (some "b")) (.adminAssign "vm-1" "user-2" "device-2" "two")) ≠
        some (.error .vmOccupied) := by
  refine ((@no_leaked_slot testPool minute
    [firstServed, .crash, .restart testPool minute false fun _ => 1] _ (by decide) ?_ ?_ rfl).2
      _ List.mem_cons_self rfl (testEnv minute none (some "b")) ?_).2
        "user-2" "device-2" "two"
  · simp [ClockMonotone, Trace.ClockMonotone, firstServed, Event.Reads, testEnv]
  · simp [firstServed, Event.KeepsTTL]
  · rintro id l t - - ⟨e, he, env, c, hcall, -, rfl⟩
    simp only [firstServed, List.mem_cons, List.not_mem_nil, or_false] at he
    rcases he with rfl | rfl | rfl
    · obtain ⟨rfl, rfl⟩ := Prod.mk.injEq .. ▸ Option.some.inj hcall
      decide
    · exact absurd hcall (by simp [Event.call?])
    · exact absurd hcall (by simp [Event.call?])

end GilStreaming.Coordinator
