import GilStreaming.Coordinator.Effects

/-!
# GilStreaming.Coordinator.Replies

What a caller may conclude from a successful reply.

The three calls that set an expiry (`CreateOrRecover`, `Heartbeat`,
`AdminAssign`) answer only after `persistLocked` succeeded, so the lease they
return is both in memory and in the state file (`exec_promised`). The lookups
return a lease that is in memory and, for `LeaseVM`, an available VM.
-/

namespace GilStreaming.Coordinator

/-! ### Successful replies -/

/-- The calls whose success promises a lease: its expiry has just been set. -/
def Call.Promises : Call → Prop
  | .createOrRecover .. | .heartbeat .. | .adminAssign .. => True
  | _ => False

/-- What a successful `CreateOrRecover`, `Heartbeat` or `AdminAssign` leaves: the
lease is in memory with a fresh expiry, and the memory is on disk. -/
structure Promised {α : Type} (o : Outcome α) (env : CallEnv) (ttl : Int) (l : Lease) :
    Prop where
  held : o.store.leases.lookup l.id = some l
  expiry : l.expiresAt = env.now + ttl
  saved : o.disk.stateFile = some (.state (o.store.leases.values env.order))

section Replies

variable {s : Store} {disk : Disk} {env : CallEnv}

theorem persistThen_promised {α : Type} {undone : Store} {reply r : α} {l : Lease}
    (h : (s.persistThen disk env undone reply).result = .ok r)
    (hl : s.leases.lookup l.id = some l) {ttl : Int} (hexp : l.expiresAt = env.now + ttl) :
    Promised (s.persistThen disk env undone reply) env ttl l := by
  obtain ⟨hp, -⟩ := persistThen_eq_ok h
  rw [persistThen_ok hp]
  exact ⟨hl, hexp, rfl⟩

theorem grantLocked_ok {vm : VM} {owner deviceID deviceName : String} {r : Lease × VM}
    (h : (s.grantLocked disk env vm owner deviceID deviceName).result = .ok r) :
    r.2 = vm ∧ r.1.vmID = vm.id ∧ r.1.client = (owner, deviceID) ∧
      Promised (s.grantLocked disk env vm owner deviceID deviceName) env s.ttl r.1 := by
  unfold Store.grantLocked at h ⊢
  cases hid : env.randomID with
  | none => rw [hid] at h; exact absurd h (by simp)
  | some id =>
      rw [hid] at h
      obtain ⟨-, rfl⟩ := persistThen_eq_ok h
      exact ⟨rfl, rfl, rfl, persistThen_promised h (AList.lookup_insert _) rfl⟩

theorem allocateLocked_ok {owner deviceID deviceName : String} {r : Lease × VM}
    (h : (s.allocateLocked disk env owner deviceID deviceName).result = .ok r) :
    r.2 ∈ s.vms ∧ r.2.available = true ∧ r.1.vmID = r.2.id ∧
      r.1.client = (owner, deviceID) ∧
      Promised (s.allocateLocked disk env owner deviceID deviceName) env s.ttl r.1 := by
  revert h
  unfold Store.allocateLocked
  dsimp only
  split
  · intro h; exact absurd h (by simp)
  · next vm hfind =>
      intro h
      obtain ⟨rfl, hvmID, hclient, hpromised⟩ := grantLocked_ok h
      obtain ⟨hmem, havail, -⟩ := freeVM_eq_some hfind
      exact ⟨hmem, havail, hvmID, hclient, hpromised⟩

/-- A successful `CreateOrRecover` returns an available VM of the list and a lease
on it for the caller. -/
theorem createOrRecover_ok (hs : s.leases.Exclusive) {owner deviceID deviceName : String}
    {r : Lease × VM}
    (h : (s.createOrRecover disk env owner deviceID deviceName).result = .ok r) :
    r.2 ∈ s.vms ∧ r.2.available = true ∧ r.1.vmID = r.2.id ∧
      r.1.client = (owner, deviceID) ∧
      Promised (s.createOrRecover disk env owner deviceID deviceName) env s.ttl r.1 := by
  revert h
  unfold Store.createOrRecover
  dsimp only
  split
  · next k l hfind =>
      obtain ⟨hl, howner, hdevice⟩ := clientLease_eq_some hfind
      dsimp only at hl howner hdevice
      obtain rfl : l.id = k := hs.own_id (lookup_reapLocked.mp hl).1
      split
      · next vm hvm =>
          intro h
          obtain ⟨hmem, hid, havail⟩ := availableVM_eq_some hvm
          obtain ⟨-, rfl⟩ := persistThen_eq_ok h
          exact ⟨hmem, havail, hid.symm, by rw [← howner, ← hdevice]; rfl,
            persistThen_promised h (AList.lookup_insert _) rfl⟩
      · intro h; exact allocateLocked_ok h
  · intro h; exact allocateLocked_ok h

theorem heartbeat_ok (hs : s.leases.Exclusive) {id owner : String} {l : Lease}
    (h : (s.heartbeat disk env id owner).result = .ok l) :
    l.id = id ∧ l.owner = owner ∧
      Promised (s.heartbeat disk env id owner) env s.ttl l := by
  revert h
  unfold Store.heartbeat
  dsimp only
  split
  · intro h; exact absurd h (by simp)
  · next l' hl' =>
      obtain rfl : l'.id = id := hs.own_id (lookup_reapLocked.mp hl').1
      split
      · intro h; exact absurd h (by simp)
      · next howner =>
          intro h
          obtain ⟨-, rfl⟩ := persistThen_eq_ok h
          exact ⟨rfl, not_not.mp howner, persistThen_promised h (AList.lookup_insert _) rfl⟩

theorem adminAssign_ok {vmID owner deviceID deviceName : String} {r : Lease × VM}
    (h : (s.adminAssign disk env vmID owner deviceID deviceName).result = .ok r) :
    s.availableVM vmID = some r.2 ∧ r.1.vmID = r.2.id ∧ r.1.client = (owner, deviceID) ∧
      Promised (s.adminAssign disk env vmID owner deviceID deviceName) env s.ttl r.1 := by
  revert h
  unfold Store.adminAssign
  dsimp only
  split
  · intro h; exact absurd h (by simp)
  · next vm hfind =>
      split
      · intro h; exact absurd h (by simp)
      · next havail =>
          split
          · intro h; exact absurd h (by simp)
          · intro h
            obtain ⟨rfl, hvmID, hclient, hpromised⟩ := grantLocked_ok h
            exact ⟨Option.filter_eq_some_iff.mpr ⟨hfind, by simpa using havail⟩, hvmID,
              hclient, hpromised⟩

theorem leaseVM_ok {id owner : String} {r : Lease × VM}
    (h : (s.leaseVM disk env id owner).result = .ok r) :
    (s.reapLocked env.now).leases.lookup id = some r.1 ∧ r.1.owner = owner ∧
      s.availableVM r.1.vmID = some r.2 := by
  unfold Store.leaseVM at h
  dsimp only at h
  split at h
  · exact absurd h (by simp)
  · next l hl =>
      split at h
      · exact absurd h (by simp)
      · next howner =>
          split at h
          · exact absurd h (by simp)
          · next vm hvm =>
              obtain rfl : (l, vm) = r := by simpa using h
              exact ⟨hl, not_not.mp howner, hvm⟩

theorem adminLease_ok {id : String} {r : Lease × VM}
    (h : (s.adminLease disk env id).result = .ok r) :
    (s.reapLocked env.now).leases.lookup id = some r.1 ∧
      s.vmByIDLocked r.1.vmID = some r.2 := by
  unfold Store.adminLease at h
  dsimp only at h
  split at h
  · exact absurd h (by simp)
  · next l hl =>
      split at h
      · exact absurd h (by simp)
      · next vm hvm =>
          obtain rfl : (l, vm) = r := by simpa using h
          exact ⟨hl, hvm⟩

theorem Except.map_eq_ok {ε α β : Type} {f : α → β} {x : Except ε α} {b : β}
    (h : x.map f = .ok b) : ∃ a, x = .ok a ∧ f a = b := by
  cases x with
  | error e => exact absurd h (by simp [Except.map])
  | ok a => exact ⟨a, rfl, by simpa [Except.map] using h⟩

theorem Except.map_eq_error {ε α β : Type} {f : α → β} {x : Except ε α} {err : ε}
    (h : x.map f = .error err) : x = .error err := by
  cases x with
  | error e => simpa [Except.map] using h
  | ok a => exact absurd h (by simp [Except.map])

/-- A promising call keeps its promise in memory and on disk. -/
theorem exec_promised (hs : s.leases.Exclusive) {c : Call} (hc : c.Promises) {r : Reply}
    (h : (c.exec s disk env).result = .ok r) :
    ∃ l, r.lease? = some l ∧ Promised (c.exec s disk env) env s.ttl l := by
  cases c with
  | createOrRecover owner deviceID deviceName =>
      obtain ⟨a, ha, rfl⟩ := Except.map_eq_ok h
      obtain ⟨-, -, -, -, hl⟩ := createOrRecover_ok hs ha
      exact ⟨a.1, rfl, hl.held, hl.expiry, hl.saved⟩
  | heartbeat id owner =>
      obtain ⟨a, ha, rfl⟩ := Except.map_eq_ok h
      obtain ⟨-, -, hl⟩ := heartbeat_ok hs ha
      exact ⟨a, rfl, hl.held, hl.expiry, hl.saved⟩
  | adminAssign vmID owner deviceID deviceName =>
      obtain ⟨a, ha, rfl⟩ := Except.map_eq_ok h
      obtain ⟨-, -, -, hl⟩ := adminAssign_ok ha
      exact ⟨a.1, rfl, hl.held, hl.expiry, hl.saved⟩
  | _ => exact hc.elim

/-- Whatever lease a reply names is in the memory the call leaves. -/
theorem exec_reply_held (hs : s.leases.Exclusive) {c : Call} {r : Reply} {l : Lease}
    (h : (c.exec s disk env).result = .ok r) (hl : r.lease? = some l) :
    (c.exec s disk env).store.leases.lookup l.id = some l := by
  have hpromises : c.Promises → (c.exec s disk env).store.leases.lookup l.id = some l := by
    intro hc
    obtain ⟨l', hl', hpromised⟩ := exec_promised hs hc h
    obtain rfl : l' = l := Option.some.inj (hl'.symm.trans hl)
    exact hpromised.held
  cases c with
  | createOrRecover owner deviceID deviceName => exact hpromises trivial
  | heartbeat id owner => exact hpromises trivial
  | adminAssign vmID owner deviceID deviceName => exact hpromises trivial
  | leaseVM id owner =>
      obtain ⟨a, ha, rfl⟩ := Except.map_eq_ok h
      obtain rfl : a.1 = l := by simpa [Reply.lease?] using hl
      obtain ⟨hheld, -, -⟩ := leaseVM_ok ha
      rw [Call.exec, Outcome.map_store, leaseVM_leases,
        hs.own_id (lookup_reapLocked.mp hheld).1]
      exact hheld
  | adminLease id =>
      obtain ⟨a, ha, rfl⟩ := Except.map_eq_ok h
      obtain rfl : a.1 = l := by simpa [Reply.lease?] using hl
      obtain ⟨hheld, -⟩ := adminLease_ok ha
      rw [Call.exec, Outcome.map_store, adminLease_leases,
        hs.own_id (lookup_reapLocked.mp hheld).1]
      exact hheld
  | release id owner =>
      obtain ⟨a, -, rfl⟩ := Except.map_eq_ok h
      exact absurd hl (by simp [Reply.lease?])
  | adminRelease id =>
      obtain ⟨a, -, rfl⟩ := Except.map_eq_ok h
      exact absurd hl (by simp [Reply.lease?])
  | adminSnapshot =>
      obtain ⟨a, -, rfl⟩ := Except.map_eq_ok h
      exact absurd hl (by simp [Reply.lease?])
  | updateVMs updates =>
      obtain rfl : Reply.done = r := by simpa [Call.exec] using h
      exact absurd hl (by simp [Reply.lease?])

end Replies

end GilStreaming.Coordinator
