import GilStreaming.Coordinator.World

/-!
# GilStreaming.Coordinator.Effects

What one call can do, said once.

`Edited s env c m` lists the lease maps `m` that a call `c` can leave behind in
memory: the map it found, that map reaped, one lease renewed, released or
dropped, and on top of these one lease granted, or granted and rolled back.
`exec_edited` is the only place where the bodies of the operations are taken
apart for their effect on memory; `exec_persisted` does the same for the disk.
Every invariant of the later modules is proved over the constructors of
`Edited`, mostly through its reading one lease at a time, `LeaseChange`.
-/

namespace GilStreaming.Coordinator

/-! ### Exclusive lease maps -/

/-- The index invariants of the lease map: every lease is stored under its own
id, and no two leases share a VM or an (owner, device) pair. -/
structure Leases.Exclusive (leases : Leases) : Prop where
  own_id : leases.KeyedBy Lease.id
  vm : leases.DistinctOn Lease.vmID
  client : leases.DistinctOn Lease.client

theorem Leases.exclusive_empty : Leases.Exclusive (∅ : Leases) :=
  ⟨fun k v h => by simp at h, GoMap.distinctOn_empty, GoMap.distinctOn_empty⟩

/-- Removing leases, or replacing one by a lease with the same id, VM and client,
keeps a map exclusive. -/
theorem Leases.Exclusive.of_le {m m' : Leases} (h : Leases.Exclusive m)
    (hle : ∀ k l', m'.lookup k = some l' → ∃ l, m.lookup k = some l ∧
      l'.id = l.id ∧ l'.vmID = l.vmID ∧ l'.client = l.client) :
    Leases.Exclusive m' where
  own_id := by
    intro k l' hl'
    obtain ⟨l, hl, hid, -, -⟩ := hle k l' hl'
    rw [hid]; exact h.own_id hl
  vm := h.vm.of_le fun k l' hl' => by
    obtain ⟨l, hl, -, hvm, -⟩ := hle k l' hl'
    exact ⟨l, hl, hvm⟩
  client := h.client.of_le fun k l' hl' => by
    obtain ⟨l, hl, -, -, hclient⟩ := hle k l' hl'
    exact ⟨l, hl, hclient⟩

/-- Filing a lease under its id keeps a map exclusive when its VM and its client
have no other lease. -/
theorem Leases.Exclusive.insert {m : Leases} {l : Lease} (h : Leases.Exclusive m)
    (hfree : ∀ k l', m.lookup k = some l' → l'.vmID ≠ l.vmID ∧ l'.client ≠ l.client) :
    Leases.Exclusive (AList.insert l.id l m) where
  own_id := by
    intro k l' hl'
    rw [GoMap.lookup_insert_eq] at hl'
    split at hl'
    · next hk => rw [← Option.some.inj hl', hk]
    · exact h.own_id hl'
  vm := h.vm.insert fun k l' _ hl' => (hfree k l' hl').1
  client := h.client.insert fun k l' _ hl' => (hfree k l' hl').2

theorem Leases.Exclusive.erase {m : Leases} (h : Leases.Exclusive m) (k : String) :
    Leases.Exclusive (AList.erase k m) :=
  h.of_le fun k' l' hl' => by
    rw [GoMap.lookup_erase_eq] at hl'
    split at hl'
    · exact absurd hl' (by simp)
    · exact ⟨l', hl', rfl, rfl, rfl⟩

/-- In an exclusive map the search loop of `CreateOrRecover` finds the client's
lease whatever the `range` order. -/
theorem Leases.Exclusive.clientLease_eq {s : Store} (h : Leases.Exclusive s.leases)
    (order : LeaseOrder) {k : String} {l : Lease} (hl : s.leases.lookup k = some l) :
    s.clientLease order l.owner l.deviceID = some ⟨k, l⟩ := by
  refine GoMap.find?_range_unique hl (by simp) fun k' l' hl' hq => ?_
  simp only [Bool.and_eq_true, beq_iff_eq] at hq
  exact h.client hl' hl (by simp [Lease.client, hq.1, hq.2])

/-! ### The helpers -/

section Helpers

variable {s : Store} {disk : Disk} {env : CallEnv}

@[simp] theorem newStore_leases (vms : List VM) (ttl : Int) :
    (newStore vms ttl).leases = ∅ := rfl

@[simp] theorem reapLocked_vms (now : Int) : (s.reapLocked now).vms = s.vms := rfl

@[simp] theorem reapLocked_ttl (now : Int) : (s.reapLocked now).ttl = s.ttl := rfl

@[simp] theorem reapLocked_availableVM (now : Int) (id : String) :
    (s.reapLocked now).availableVM id = s.availableVM id := rfl

@[simp] theorem renewLocked_vms (now : Int) (k : String) (l : Lease) :
    (s.renewLocked now k l).vms = s.vms := rfl

@[simp] theorem renewLocked_ttl (now : Int) (k : String) (l : Lease) :
    (s.renewLocked now k l).ttl = s.ttl := rfl

@[simp] theorem renewLocked_availableVM (now : Int) (k id : String) (l : Lease) :
    (s.renewLocked now k l).availableVM id = s.availableVM id := rfl

/-- Reaping keeps exactly the unexpired leases. -/
theorem lookup_reapLocked {now : Int} {k : String} {l : Lease} :
    (s.reapLocked now).leases.lookup k = some l ↔
      s.leases.lookup k = some l ∧ now < l.expiresAt := by
  rw [Store.reapLocked, GoMap.lookup_filter_eq_some, Lease.liveAt, decide_eq_true_eq]

theorem Leases.Exclusive.reaped (h : Leases.Exclusive s.leases) (now : Int) :
    Leases.Exclusive (s.reapLocked now).leases :=
  h.of_le fun _ l hl => ⟨l, (lookup_reapLocked.mp hl).1, rfl, rfl, rfl⟩

theorem lookup_renewLocked (now : Int) (k k' : String) (l : Lease) :
    (s.renewLocked now k l).leases.lookup k' =
      if k' = k then some { l with expiresAt := now + s.ttl } else s.leases.lookup k' :=
  GoMap.lookup_insert_eq ..

theorem availableVM_eq_some {id : String} {vm : VM} (h : s.availableVM id = some vm) :
    vm ∈ s.vms ∧ vm.id = id ∧ vm.available = true := by
  obtain ⟨hfind, havail⟩ := Option.filter_eq_some_iff.mp h
  exact ⟨List.mem_of_find?_eq_some hfind, by simpa using List.find?_some hfind, havail⟩

theorem clientLease_eq_some {order : LeaseOrder} {owner deviceID : String}
    {e : Σ _ : String, Lease} (h : s.clientLease order owner deviceID = some e) :
    s.leases.lookup e.1 = some e.2 ∧ e.2.owner = owner ∧ e.2.deviceID = deviceID := by
  obtain ⟨hl, hq⟩ := GoMap.find?_range_eq_some h
  simp only [Bool.and_eq_true, beq_iff_eq] at hq
  exact ⟨hl, hq⟩

theorem clientLease_eq_none {order : LeaseOrder} {owner deviceID : String} :
    s.clientLease order owner deviceID = none ↔
      ∀ k l, s.leases.lookup k = some l → l.client ≠ (owner, deviceID) := by
  rw [Store.clientLease, GoMap.find?_range_eq_none]
  simp [Lease.client]

/-- The VM that `allocateLocked` finds is available and has no lease. -/
theorem freeVM_eq_some {order : LeaseOrder} {vm : VM}
    (h : (s.vms.find? fun vm => vm.available &&
      !((s.leases.values order).map Lease.vmID).contains vm.id) = some vm) :
    vm ∈ s.vms ∧ vm.available = true ∧
      ∀ k l, s.leases.lookup k = some l → l.vmID ≠ vm.id := by
  have hsat := List.find?_some h
  simp only [Bool.and_eq_true, Bool.not_eq_true', List.contains_eq_mem,
    decide_eq_false_iff_not, List.mem_map, not_exists, not_and] at hsat
  exact ⟨List.mem_of_find?_eq_some h, hsat.1,
    fun k l hl => hsat.2 l (GoMap.mem_values.mpr ⟨k, hl⟩)⟩

/-- It finds none when every available VM has a lease. -/
theorem freeVM_eq_none {order : LeaseOrder}
    (h : (s.vms.find? fun vm => vm.available &&
      !((s.leases.values order).map Lease.vmID).contains vm.id) = none) :
    ∀ vm ∈ s.vms, vm.available = true →
      ∃ k l, s.leases.lookup k = some l ∧ l.vmID = vm.id := by
  intro vm hvm havail
  have hoccupied := List.find?_eq_none.mp h vm hvm
  simp only [havail, Bool.true_and, Bool.not_eq_true', List.contains_eq_mem,
    decide_eq_false_iff_not, not_not, List.mem_map] at hoccupied
  obtain ⟨l, hl, hid⟩ := hoccupied
  obtain ⟨k, hk⟩ := GoMap.mem_values.mp hl
  exact ⟨k, l, hk, hid⟩

variable {α : Type} {undone : Store} {reply : α}

/-- `persistThen` when `persistLocked` succeeds. -/
theorem persistThen_ok (h : env.persist = none) :
    s.persistThen disk env undone reply =
      ⟨s, ⟨some (.state (s.leases.values env.order)), none⟩, .ok reply⟩ := by
  simp only [Store.persistThen, Store.persistLocked, h]

/-- `persistThen` when `persistLocked` fails: the state file is as it was. -/
theorem persistThen_error {step : PersistStep} (h : env.persist = some step) :
    (s.persistThen disk env undone reply).store = undone ∧
      (s.persistThen disk env undone reply).disk.stateFile = disk.stateFile ∧
      (s.persistThen disk env undone reply).result = .error (.persist step) := by
  cases step <;> refine ⟨?_, ?_, ?_⟩ <;> simp only [Store.persistThen, Store.persistLocked, h]

/-- Memory after `persistThen` is the store handed to it, or what was undone. -/
theorem persistThen_store :
    (s.persistThen disk env undone reply).store = s ∨
      (s.persistThen disk env undone reply).store = undone := by
  cases h : env.persist with
  | none => exact Or.inl (by rw [persistThen_ok h])
  | some step => exact Or.inr (persistThen_error h).1

theorem persistThen_self :
    (s.persistThen disk env s reply).store = s := persistThen_store.elim id id

theorem persistThen_eq_ok {r : α}
    (h : (s.persistThen disk env undone reply).result = .ok r) :
    env.persist = none ∧ r = reply := by
  cases hp : env.persist with
  | none =>
      rw [persistThen_ok hp] at h
      exact ⟨rfl, by simpa using h.symm⟩
  | some step =>
      rw [(persistThen_error hp).2.2] at h
      exact absurd h (by simp)

end Helpers

/-! ### The maps a call can leave behind -/

/-- `CreateOrRecover` for the client of `l`. -/
def Call.RecoversFor (c : Call) (l : Lease) : Prop :=
  ∃ deviceName, c = .createOrRecover l.owner l.deviceID deviceName

/-- The calls that extend `l`. -/
def Call.Renews (c : Call) (l : Lease) : Prop :=
  c = .heartbeat l.id l.owner ∨ c.RecoversFor l

/-- The calls that end `l` on request: by its owner, or by an administrator. -/
def Call.Releases (c : Call) (l : Lease) : Prop :=
  c = .release l.id l.owner ∨ c = .adminRelease l.id

/-- The calls that can create `l`. -/
def Call.Grants (c : Call) (l : Lease) : Prop :=
  c.RecoversFor l ∨ ∃ deviceName, c = .adminAssign l.vmID l.owner l.deviceID deviceName

/-- The lease maps a call `c` on `s` can leave in memory. -/
inductive Edited (s : Store) (env : CallEnv) (c : Call) : Leases → Prop
  /-- The map as the call found it. -/
  | same : Edited s env c s.leases
  /-- The expired leases are reaped. -/
  | reaped : Edited s env c (s.reapLocked env.now).leases
  /-- After reaping, a lease is extended. -/
  | renewed {l : Lease} (hl : (s.reapLocked env.now).leases.lookup l.id = some l)
      (hc : c.Renews l) :
      Edited s env c ((s.reapLocked env.now).renewLocked env.now l.id l).leases
  /-- A lease is released; nothing is reaped. -/
  | released {l : Lease} (hl : s.leases.lookup l.id = some l) (hc : c.Releases l) :
      Edited s env c (s.leases.erase l.id)
  /-- After reaping, a lease whose VM is not available is extended and dropped. -/
  | dropped {l : Lease} (hl : (s.reapLocked env.now).leases.lookup l.id = some l)
      (hc : c.RecoversFor l) (hvm : s.availableVM l.vmID = none) :
      Edited s env c (((s.reapLocked env.now).renewLocked env.now l.id l).leases.erase l.id)
  /-- A new lease is filed on a free VM for a client that has none. -/
  | granted {m : Leases} {l : Lease} (hm : Edited s env c m) (hp : env.persist = none)
      (hid : env.randomID = some l.id) (hc : c.Grants l)
      (hexp : l.expiresAt = env.now + s.ttl)
      (hvm : ∃ vm ∈ s.vms, vm.id = l.vmID ∧ vm.available = true)
      (hfree : ∀ k l', m.lookup k = some l' → l'.vmID ≠ l.vmID ∧ l'.client ≠ l.client) :
      Edited s env c (AList.insert l.id l m)
  /-- A new lease is filed and taken out again because it could not be saved. -/
  | rolledBack {m : Leases} {l : Lease} (hm : Edited s env c m)
      (hid : env.randomID = some l.id) :
      Edited s env c (AList.erase l.id (AList.insert l.id l m))

section ExecEdited

variable {s t : Store} {disk : Disk} {env : CallEnv} {c : Call}

theorem grantLocked_edited {vm : VM} {owner deviceID deviceName : String}
    (ht : Edited s env c t.leases) (httl : t.ttl = s.ttl)
    (hvm : vm ∈ s.vms ∧ vm.available = true)
    (hc : ∀ l : Lease, l.vmID = vm.id → l.client = (owner, deviceID) → c.Grants l)
    (hfree : ∀ k l, t.leases.lookup k = some l →
      l.vmID ≠ vm.id ∧ l.client ≠ (owner, deviceID)) :
    Edited s env c (t.grantLocked disk env vm owner deviceID deviceName).store.leases := by
  unfold Store.grantLocked
  cases hid : env.randomID with
  | none => exact ht
  | some id =>
      have hid' : env.randomID =
          some (t.newLease env.now id vm owner deviceID deviceName).id := hid
      dsimp only
      cases hp : env.persist with
      | none =>
          rw [persistThen_ok hp]
          refine .granted ht hp hid' (hc _ rfl rfl) ?_ ⟨vm, hvm.1, rfl, hvm.2⟩ hfree
          rw [← httl]; rfl
      | some step =>
          rw [(persistThen_error hp).1]
          exact .rolledBack ht hid'

theorem allocateLocked_edited {owner deviceID deviceName : String}
    (ht : Edited s env c t.leases) (httl : t.ttl = s.ttl) (hvms : t.vms = s.vms)
    (hc : ∀ l : Lease, l.client = (owner, deviceID) → c.Grants l)
    (hfree : ∀ k l, t.leases.lookup k = some l → l.client ≠ (owner, deviceID)) :
    Edited s env c (t.allocateLocked disk env owner deviceID deviceName).store.leases := by
  unfold Store.allocateLocked
  dsimp only
  split
  · exact ht
  · next vm hfind =>
      obtain ⟨hmem, havail, hunused⟩ := freeVM_eq_some hfind
      exact grantLocked_edited ht httl ⟨hvms ▸ hmem, havail⟩ (fun l _ h => hc l h)
        fun k l hl => ⟨hunused k l hl, hfree k l hl⟩

theorem createOrRecover_edited (hs : s.leases.Exclusive) {owner deviceID deviceName : String} :
    Edited s env (.createOrRecover owner deviceID deviceName)
      (s.createOrRecover disk env owner deviceID deviceName).store.leases := by
  have hgrants : ∀ l : Lease, l.client = (owner, deviceID) →
      (Call.createOrRecover owner deviceID deviceName).Grants l := by
    intro l hl
    obtain ⟨rfl, rfl⟩ := Prod.mk.injEq .. ▸ hl
    exact .inl ⟨_, rfl⟩
  unfold Store.createOrRecover
  dsimp only
  split
  · next k l hfind =>
      obtain ⟨hl, howner, hdevice⟩ := clientLease_eq_some hfind
      dsimp only at hl howner hdevice
      obtain rfl : l.id = k := hs.own_id (lookup_reapLocked.mp hl).1
      subst howner hdevice
      split
      · rw [persistThen_self]
        exact .renewed hl (.inr ⟨_, rfl⟩)
      · next hvm =>
          -- the dropped lease was the only one of its client
          refine allocateLocked_edited (.dropped hl ⟨_, rfl⟩ hvm) rfl rfl hgrants ?_
          intro k' l' hl' hclient
          rw [GoMap.lookup_erase_eq] at hl'
          split at hl'
          · exact absurd hl' (by simp)
          · next hne =>
              rw [lookup_renewLocked, if_neg hne] at hl'
              exact hne (hs.client (lookup_reapLocked.mp hl').1 (lookup_reapLocked.mp hl).1 hclient)
  · next hfind =>
      exact allocateLocked_edited .reaped rfl rfl hgrants (clientLease_eq_none.mp hfind)

theorem heartbeat_edited (hs : s.leases.Exclusive) {id owner : String} :
    Edited s env (.heartbeat id owner) (s.heartbeat disk env id owner).store.leases := by
  unfold Store.heartbeat
  dsimp only
  split
  · exact .reaped
  · next l hl =>
      split
      · exact .reaped
      · next howner =>
          rw [persistThen_self]
          obtain rfl : l.id = id := hs.own_id (lookup_reapLocked.mp hl).1
          exact .renewed hl (.inl (by rw [not_not.mp howner]))

theorem release_edited (hs : s.leases.Exclusive) {id owner : String} :
    Edited s env (.release id owner) (s.release disk env id owner).store.leases := by
  unfold Store.release
  split
  · exact .same
  · next l hl =>
      split
      · exact .same
      · next howner =>
          dsimp only
          rw [persistThen_self]
          obtain rfl : l.id = id := hs.own_id hl
          exact .released hl (.inl (by rw [not_not.mp howner]))

theorem adminRelease_edited (hs : s.leases.Exclusive) {id : String} :
    Edited s env (.adminRelease id) (s.adminRelease disk env id).store.leases := by
  unfold Store.adminRelease
  split
  · exact .same
  · next l hl =>
      dsimp only
      rw [persistThen_self]
      obtain rfl : l.id = id := hs.own_id hl
      exact .released hl (.inr rfl)

theorem leaseVM_leases (s : Store) (disk : Disk) (env : CallEnv) (id owner : String) :
    (s.leaseVM disk env id owner).store = s.reapLocked env.now := by
  unfold Store.leaseVM
  dsimp only
  split
  · rfl
  · split
    · rfl
    · split <;> rfl

theorem adminLease_leases (s : Store) (disk : Disk) (env : CallEnv) (id : String) :
    (s.adminLease disk env id).store = s.reapLocked env.now := by
  unfold Store.adminLease
  dsimp only
  split
  · rfl
  · split <;> rfl

theorem adminSnapshot_leases (s : Store) (disk : Disk) (env : CallEnv) :
    (s.adminSnapshot disk env).store = s.reapLocked env.now := by
  unfold Store.adminSnapshot
  dsimp only
  split
  · exact persistThen_self
  · rfl

/-- The conflict loop of `AdminAssign` finds nothing exactly when neither the VM
nor the client has a lease. -/
theorem assignConflict_eq_none {order : LeaseOrder} {vmID owner deviceID : String} :
    s.assignConflict order vmID owner deviceID = none ↔
      ∀ k l, s.leases.lookup k = some l → l.vmID ≠ vmID ∧ l.client ≠ (owner, deviceID) := by
  rw [Store.assignConflict, List.findSome?_eq_none_iff]
  constructor
  · intro h k l hl
    have hl := h l (GoMap.mem_values.mpr ⟨k, hl⟩)
    split at hl
    · exact absurd hl (by simp)
    · next hvm =>
        split at hl
        · exact absurd hl (by simp)
        · next hclient => exact ⟨hvm, by simpa [Lease.client] using hclient⟩
  · intro h l hl
    obtain ⟨k, hk⟩ := GoMap.mem_values.mp hl
    obtain ⟨hvm, hclient⟩ := h k l hk
    rw [if_neg hvm, if_neg (by simpa [Lease.client] using hclient)]

theorem adminAssign_edited {vmID owner deviceID deviceName : String} :
    Edited s env (.adminAssign vmID owner deviceID deviceName)
      (s.adminAssign disk env vmID owner deviceID deviceName).store.leases := by
  unfold Store.adminAssign
  dsimp only
  split
  · exact .reaped
  · next vm hfind =>
      obtain rfl : vm.id = vmID := by simpa using List.find?_some hfind
      split
      · exact .reaped
      · next havail =>
          split
          · exact .reaped
          · next hfree =>
              refine grantLocked_edited .reaped rfl
                ⟨List.mem_of_find?_eq_some hfind, by simpa using havail⟩ ?_
                (assignConflict_eq_none.mp hfree)
              intro l hvm hclient
              obtain ⟨rfl, rfl⟩ := Prod.mk.injEq .. ▸ hclient
              exact .inr ⟨_, by rw [hvm]⟩

/-- **What a call does to memory.** -/
theorem exec_edited (hs : s.leases.Exclusive) (disk : Disk) (env : CallEnv) (c : Call) :
    Edited s env c (c.exec s disk env).store.leases := by
  cases c with
  | createOrRecover owner deviceID deviceName => exact createOrRecover_edited hs
  | heartbeat id owner => exact heartbeat_edited hs
  | release id owner => exact release_edited hs
  | leaseVM id owner =>
      rw [Call.exec, Outcome.map_store, leaseVM_leases]
      exact .reaped
  | adminSnapshot =>
      rw [Call.exec, Outcome.map_store, adminSnapshot_leases]
      exact .reaped
  | adminLease id =>
      rw [Call.exec, Outcome.map_store, adminLease_leases]
      exact .reaped
  | adminRelease id => exact adminRelease_edited hs
  | adminAssign vmID owner deviceID deviceName => exact adminAssign_edited
  | updateVMs updates => exact .same

end ExecEdited

/-! ### Reading an edit one lease at a time -/

/-- What can happen to the entry under one id: it stays, is extended, or ends in
one of three ways; or a lease appears under the id just drawn. -/
inductive LeaseChange (s : Store) (env : CallEnv) (c : Call) :
    Option Lease → Option Lease → Prop
  | absent : LeaseChange s env c none none
  | kept (l : Lease) : LeaseChange s env c (some l) (some l)
  | renewed {l : Lease} (hc : c.Renews l) (hlive : env.now < l.expiresAt) :
      LeaseChange s env c (some l) (some { l with expiresAt := env.now + s.ttl })
  | expired {l : Lease} (hdead : l.expiresAt ≤ env.now) : LeaseChange s env c (some l) none
  | released {l : Lease} (hc : c.Releases l) : LeaseChange s env c (some l) none
  | dropped {l : Lease} (hc : c.RecoversFor l) (hlive : env.now < l.expiresAt)
      (hvm : s.availableVM l.vmID = none) : LeaseChange s env c (some l) none
  | granted {l : Lease} (hp : env.persist = none) (hid : env.randomID = some l.id)
      (hc : c.Grants l) (hexp : l.expiresAt = env.now + s.ttl)
      (hvm : ∃ vm ∈ s.vms, vm.id = l.vmID ∧ vm.available = true) :
      LeaseChange s env c none (some l)

/-- The id `randomID` returns, if it returns one, names no lease of the map. -/
def CallEnv.Fresh (env : CallEnv) (leases : Leases) : Prop :=
  ∀ id, env.randomID = some id → leases.lookup id = none

section Edits

variable {s : Store} {env : CallEnv} {c : Call} {m : Leases}

theorem LeaseChange.same (o : Option Lease) : LeaseChange s env c o o := by
  cases o with
  | none => exact .absent
  | some l => exact .kept l

theorem LeaseChange.reaped (k : String) :
    LeaseChange s env c (s.leases.lookup k) ((s.reapLocked env.now).leases.lookup k) := by
  cases hl : s.leases.lookup k with
  | none =>
      rw [Store.reapLocked, GoMap.lookup_filter, hl]
      exact .absent
  | some l =>
      by_cases hlive : env.now < l.expiresAt
      · rw [lookup_reapLocked.mpr ⟨hl, hlive⟩]
        exact .kept l
      · rw [Store.reapLocked, GoMap.lookup_filter, hl, Option.filter_some,
          if_neg (by simpa [Lease.liveAt] using hlive)]
        exact .expired (by omega)

/-- Every edit keeps an exclusive map exclusive. -/
theorem Edited.exclusive (hs : s.leases.Exclusive) (h : Edited s env c m) : m.Exclusive := by
  have hreaped := hs.reaped env.now
  have hrenewed : ∀ l, (s.reapLocked env.now).leases.lookup l.id = some l →
      ((s.reapLocked env.now).renewLocked env.now l.id l).leases.Exclusive := by
    intro l hl
    refine hreaped.of_le fun k l' hl' => ?_
    rw [lookup_renewLocked] at hl'
    split at hl'
    · next hk => exact ⟨l, hk ▸ hl, by rw [← Option.some.inj hl']; exact ⟨rfl, rfl, rfl⟩⟩
    · exact ⟨l', hl', rfl, rfl, rfl⟩
  induction h with
  | same => exact hs
  | reaped => exact hreaped
  | renewed hl _ => exact hrenewed _ hl
  | released _ _ => exact hs.erase _
  | dropped hl _ _ => exact (hrenewed _ hl).erase _
  | granted _ _ _ _ _ _ hfree ih => exact ih.insert hfree
  | rolledBack _ _ ih =>
      refine ih.of_le fun k l' hl' => ?_
      rw [GoMap.lookup_erase_eq, GoMap.lookup_insert_eq] at hl'
      split at hl'
      · exact absurd hl' (by simp)
      · exact ⟨l', hl', rfl, rfl, rfl⟩

/-- The lease-by-lease reading of an edit. -/
theorem Edited.change (hfresh : env.Fresh s.leases) (h : Edited s env c m) (k : String) :
    LeaseChange s env c (s.leases.lookup k) (m.lookup k) := by
  induction h with
  | same => exact .same _
  | reaped => exact .reaped k
  | renewed hl hc =>
      rw [lookup_renewLocked]
      split
      · next hk =>
          obtain ⟨hl, hlive⟩ := lookup_reapLocked.mp hl
          rw [hk, hl]
          exact .renewed hc hlive
      · exact .reaped k
  | released hl hc =>
      rw [GoMap.lookup_erase_eq]
      split
      · next hk =>
          rw [hk, hl]
          exact .released hc
      · exact .same _
  | dropped hl hc hvm =>
      rw [GoMap.lookup_erase_eq]
      split
      · next hk =>
          obtain ⟨hl, hlive⟩ := lookup_reapLocked.mp hl
          rw [hk, hl]
          exact .dropped hc hlive hvm
      · next hk =>
          rw [lookup_renewLocked, if_neg hk]
          exact .reaped k
  | granted _ hp hid hc hexp hvm _ ih =>
      rw [GoMap.lookup_insert_eq]
      split
      · next hk =>
          rw [hk, hfresh _ hid]
          exact .granted hp hid hc hexp hvm
      · exact ih
  | rolledBack _ hid ih =>
      rw [GoMap.lookup_erase_eq]
      split
      · next hk =>
          rw [hk, hfresh _ hid]
          exact .absent
      · next hk =>
          rw [GoMap.lookup_insert_eq, if_neg hk]
          exact ih

/-- A lease present after a call is one that was there, extended or not, or the
one the call granted. -/
theorem LeaseChange.of_some {o : Option Lease} {l' : Lease}
    (h : LeaseChange s env c o (some l')) :
    (∃ l, o = some l ∧ l'.id = l.id ∧ l'.vmID = l.vmID ∧ l'.client = l.client ∧
      (l' = l ∨ c.Renews l ∧ l'.expiresAt = env.now + s.ttl)) ∨
    (o = none ∧ env.randomID = some l'.id ∧ c.Grants l' ∧
      l'.expiresAt = env.now + s.ttl) := by
  cases h with
  | kept l => exact .inl ⟨l', rfl, rfl, rfl, rfl, .inl rfl⟩
  | renewed hc _ => exact .inl ⟨_, rfl, rfl, rfl, rfl, .inr ⟨hc, rfl⟩⟩
  | granted _ hid hc hexp _ => exact .inr ⟨rfl, hid, hc, hexp⟩

end Edits

/-! ### The rest of the store, and the disk -/

section Frame

variable {s t : Store} {disk : Disk} {env : CallEnv}

/-- A property of `s` that survives a change of the lease map survives
`persistThen`, `grantLocked` and `allocateLocked`. -/
theorem grantLocked_frame {P : Store → Prop} (hP : ∀ t m, P t → P { t with leases := m })
    (ht : P t) (vm : VM) (owner deviceID deviceName : String) :
    P (t.grantLocked disk env vm owner deviceID deviceName).store := by
  unfold Store.grantLocked
  cases env.randomID with
  | none => exact ht
  | some id =>
      dsimp only
      rcases persistThen_store (s := { t with leases := _ }) with h | h <;> rw [h]
      · exact hP _ _ ht
      · exact hP _ _ ht

theorem allocateLocked_frame {P : Store → Prop} (hP : ∀ t m, P t → P { t with leases := m })
    (ht : P t) (owner deviceID deviceName : String) :
    P (t.allocateLocked disk env owner deviceID deviceName).store := by
  unfold Store.allocateLocked
  dsimp only
  split
  · exact ht
  · exact grantLocked_frame hP ht ..

theorem exec_frame {P : Store → Prop} (hP : ∀ t m, P t → P { t with leases := m })
    (hs : P s) {c : Call} (hc : ∀ updates, c = .updateVMs updates → P (s.updateVMs updates)) :
    P (c.exec s disk env).store := by
  have hreap : P (s.reapLocked env.now) := hP _ _ hs
  cases c with
  | createOrRecover owner deviceID deviceName =>
      rw [Call.exec, Outcome.map_store]
      unfold Store.createOrRecover
      dsimp only
      split
      · next k l _ =>
          have hrenew : P ((s.reapLocked env.now).renewLocked env.now k l) := hP _ _ hreap
          split
          · rw [persistThen_self]; exact hrenew
          · exact allocateLocked_frame hP (hP _ _ hrenew) ..
      · exact allocateLocked_frame hP hreap ..
  | heartbeat id owner =>
      rw [Call.exec, Outcome.map_store]
      unfold Store.heartbeat
      dsimp only
      split
      · exact hreap
      · split
        · exact hreap
        · rw [persistThen_self]; exact hP _ _ hreap
  | release id owner =>
      rw [Call.exec, Outcome.map_store]
      unfold Store.release
      split
      · exact hs
      · split
        · exact hs
        · dsimp only
          rw [persistThen_self]; exact hP _ _ hs
  | leaseVM id owner => rw [Call.exec, Outcome.map_store, leaseVM_leases]; exact hreap
  | adminSnapshot => rw [Call.exec, Outcome.map_store, adminSnapshot_leases]; exact hreap
  | adminLease id => rw [Call.exec, Outcome.map_store, adminLease_leases]; exact hreap
  | adminRelease id =>
      rw [Call.exec, Outcome.map_store]
      unfold Store.adminRelease
      split
      · exact hs
      · dsimp only
        rw [persistThen_self]; exact hP _ _ hs
  | adminAssign vmID owner deviceID deviceName =>
      rw [Call.exec, Outcome.map_store]
      unfold Store.adminAssign
      dsimp only
      split
      · exact hreap
      · split
        · exact hreap
        · split
          · exact hreap
          · exact grantLocked_frame hP hreap ..
  | updateVMs updates => exact hc updates rfl

@[simp] theorem exec_ttl (c : Call) : (c.exec s disk env).store.ttl = s.ttl :=
  exec_frame (P := fun t => t.ttl = s.ttl) (fun _ _ h => h) rfl fun _ _ => rfl

end Frame

/-! ### The disk -/

/-- How far a call came with saving: `persistLocked` succeeded and the state file
holds the memory the call leaves; or it failed, the file is as it was and the
caller is told; or it was not reached, and `unsaved` is known of that memory. -/
inductive Persisted {α : Type} (o : Outcome α) (disk : Disk) (env : CallEnv)
    (unsaved : Leases → Prop) : Prop
  | saved (hp : env.persist = none)
      (hd : o.disk.stateFile = some (.state (o.store.leases.values env.order)))
  | failed (step : PersistStep) (hp : env.persist = some step)
      (hd : o.disk.stateFile = disk.stateFile) (hr : o.result = .error (.persist step))
  | skipped (hd : o.disk = disk) (h : unsaved o.store.leases)

/-- No VM of the list is both available and free of leases. -/
def Store.Exhausted (s : Store) : Prop :=
  ∀ vm ∈ s.vms, vm.available = true → ∃ k l, s.leases.lookup k = some l ∧ l.vmID = vm.id

/-- The store in which `CreateOrRecover` has dropped the lease `l`. -/
def Store.dropLocked (s : Store) (now : Int) (l : Lease) : Store :=
  { s with leases := ((s.reapLocked now).renewLocked now l.id l).leases.erase l.id }

/-- The call drops its client's lease and then returns without saving, because
there is no other VM to grant or no id for a new lease. -/
def Store.Forgets (s : Store) (env : CallEnv) (c : Call) : Prop :=
  ∃ l, (s.reapLocked env.now).leases.lookup l.id = some l ∧ c.RecoversFor l ∧
    s.availableVM l.vmID = none ∧
    ((s.dropLocked env.now l).Exhausted ∨ env.randomID = none)

/-- What is known of the memory left by a call that did not reach `persistLocked`. -/
def Unsaved (s : Store) (env : CallEnv) (c : Call) (after : Leases) : Prop :=
  after = s.leases ∨ after = (s.reapLocked env.now).leases ∨
    ∃ l, after = (s.dropLocked env.now l).leases ∧
      (s.reapLocked env.now).leases.lookup l.id = some l ∧ s.Forgets env c

section Disk

variable {s : Store} {disk : Disk} {env : CallEnv}

theorem persistThen_persisted {α : Type} {undone : Store} {reply : α}
    {unsaved : Leases → Prop} :
    Persisted (s.persistThen disk env undone reply) disk env unsaved := by
  cases hp : env.persist with
  | none => exact .saved hp (by rw [persistThen_ok hp])
  | some step =>
      exact .failed step hp (persistThen_error hp).2.1 (persistThen_error hp).2.2

theorem Persisted.imp {α : Type} {o : Outcome α} {unsaved unsaved' : Leases → Prop}
    (h : Persisted o disk env unsaved) (himp : ∀ m, unsaved m → unsaved' m) :
    Persisted o disk env unsaved' := by
  cases h with
  | saved hp hd => exact .saved hp hd
  | failed step hp hd hr => exact .failed step hp hd hr
  | skipped hd h => exact .skipped hd (himp _ h)

/-- `Persisted` does not depend on what is returned. -/
theorem Persisted.map {α β : Type} {o : Outcome α} {unsaved : Leases → Prop}
    (h : Persisted o disk env unsaved) (f : α → β) :
    Persisted (o.map f) disk env unsaved := by
  cases h with
  | saved hp hd => exact .saved hp hd
  | failed step hp hd hr => exact .failed step hp hd (by rw [Outcome.map_result, hr]; rfl)
  | skipped hd h => exact .skipped hd h

theorem grantLocked_persisted (s : Store) (disk : Disk) (env : CallEnv) (vm : VM)
    (owner deviceID deviceName : String) :
    Persisted (s.grantLocked disk env vm owner deviceID deviceName) disk env
      fun after => after = s.leases ∧ env.randomID = none := by
  unfold Store.grantLocked
  cases hid : env.randomID with
  | none => exact .skipped rfl ⟨rfl, rfl⟩
  | some id => exact persistThen_persisted

theorem allocateLocked_persisted (s : Store) (disk : Disk) (env : CallEnv)
    (owner deviceID deviceName : String) :
    Persisted (s.allocateLocked disk env owner deviceID deviceName) disk env
      fun after => after = s.leases ∧ (s.Exhausted ∨ env.randomID = none) := by
  unfold Store.allocateLocked
  dsimp only
  split
  · next hfind => exact .skipped rfl ⟨rfl, .inl (freeVM_eq_none hfind)⟩
  · next vm _ =>
      refine (grantLocked_persisted s disk env vm owner deviceID deviceName).imp fun m h => ?_
      exact ⟨h.1, .inr h.2⟩

theorem createOrRecover_persisted (hs : s.leases.Exclusive)
    (owner deviceID deviceName : String) :
    Persisted (s.createOrRecover disk env owner deviceID deviceName) disk env
      (Unsaved s env (.createOrRecover owner deviceID deviceName)) := by
  unfold Store.createOrRecover
  dsimp only
  split
  · next k l hfind =>
      obtain ⟨hl, howner, hdevice⟩ := clientLease_eq_some hfind
      dsimp only at hl howner hdevice
      obtain rfl : l.id = k := hs.own_id (lookup_reapLocked.mp hl).1
      split
      · exact persistThen_persisted
      · next hvm =>
          refine (allocateLocked_persisted (s.dropLocked env.now l) disk env owner deviceID
            deviceName).imp fun m h => ?_
          refine .inr (.inr ⟨l, h.1, hl, l, hl, ⟨deviceName, ?_⟩, hvm, h.2⟩)
          rw [howner, hdevice]
  · refine (allocateLocked_persisted (s.reapLocked env.now) disk env owner deviceID
      deviceName).imp fun m h => ?_
    exact .inr (.inl h.1)

/-- **What a call does to the disk.** -/
theorem exec_persisted (hs : s.leases.Exclusive) (disk : Disk) (env : CallEnv) (c : Call) :
    Persisted (c.exec s disk env) disk env (Unsaved s env c) := by
  have hreaped : Unsaved s env c (s.reapLocked env.now).leases := .inr (.inl rfl)
  cases c with
  | createOrRecover owner deviceID deviceName =>
      exact (createOrRecover_persisted hs owner deviceID deviceName).map _
  | heartbeat id owner =>
      refine Persisted.map ?_ _
      unfold Store.heartbeat
      dsimp only
      split
      · exact .skipped rfl hreaped
      · split
        · exact .skipped rfl hreaped
        · exact persistThen_persisted
  | release id owner =>
      refine Persisted.map ?_ _
      unfold Store.release
      split
      · exact .skipped rfl (.inl rfl)
      · split
        · exact .skipped rfl (.inl rfl)
        · exact persistThen_persisted
  | leaseVM id owner =>
      refine .skipped ?_ (.inr (.inl (by rw [Call.exec, Outcome.map_store, leaseVM_leases])))
      rw [Call.exec, Outcome.map_disk]
      unfold Store.leaseVM
      dsimp only
      split
      · rfl
      · split
        · rfl
        · split <;> rfl
  | adminSnapshot =>
      refine Persisted.map ?_ _
      unfold Store.adminSnapshot
      dsimp only
      split
      · exact persistThen_persisted
      · exact .skipped rfl hreaped
  | adminLease id =>
      refine .skipped ?_ (.inr (.inl (by rw [Call.exec, Outcome.map_store, adminLease_leases])))
      rw [Call.exec, Outcome.map_disk]
      unfold Store.adminLease
      dsimp only
      split
      · rfl
      · split <;> rfl
  | adminRelease id =>
      refine Persisted.map ?_ _
      unfold Store.adminRelease
      split
      · exact .skipped rfl (.inl rfl)
      · exact persistThen_persisted
  | adminAssign vmID owner deviceID deviceName =>
      refine Persisted.map ?_ _
      unfold Store.adminAssign
      dsimp only
      split
      · exact .skipped rfl hreaped
      · next vm _ =>
          split
          · exact .skipped rfl hreaped
          · split
            · exact .skipped rfl hreaped
            · refine (grantLocked_persisted (s.reapLocked env.now) disk env vm owner deviceID
                deviceName).imp fun m h => ?_
              exact .inr (.inl h.1)
  | updateVMs updates => exact .skipped rfl (.inl rfl)

/-- The state file is as it was, or holds the memory the call leaves. -/
theorem exec_stateFile (hs : s.leases.Exclusive) (disk : Disk) (env : CallEnv) (c : Call) :
    (c.exec s disk env).disk.stateFile = disk.stateFile ∨
      (c.exec s disk env).disk.stateFile =
        some (.state ((c.exec s disk env).store.leases.values env.order)) := by
  cases exec_persisted hs disk env c with
  | saved _ hd => exact .inr hd
  | failed _ _ hd _ => exact .inl hd
  | skipped hd _ => exact .inl (by rw [hd])

/-- A lease in the state file was in the file before, or is in memory. -/
theorem exec_listed (hs : s.leases.Exclusive) {c : Call} {leases : List Lease} {l : Lease}
    (hfile : (c.exec s disk env).disk.stateFile = some (.state leases)) (hl : l ∈ leases) :
    disk.stateFile = some (.state leases) ∨
      (c.exec s disk env).store.leases.lookup l.id = some l := by
  rcases exec_stateFile hs disk env c with hsame | hsaved
  · exact .inl (hsame.symm.trans hfile)
  · -- a file just written holds what memory holds
    obtain rfl : (c.exec s disk env).store.leases.values env.order = leases := by
      simpa using hsaved.symm.trans hfile
    obtain ⟨k, hk⟩ := GoMap.mem_values.mp hl
    obtain rfl := ((exec_edited hs disk env c).exclusive hs).own_id hk
    exact .inr hk

end Disk

end GilStreaming.Coordinator
