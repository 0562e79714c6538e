import GilStreaming.Coordinator.Auth
import GilStreaming.Coordinator.Endpoints
import GilStreaming.Lib.GoStrconv
import GilStreaming.Lib.GoText

/-!
# GilStreaming.Coordinator.AdminView

`Server.adminStatus` of `coordinator/admin.go`, the dashboard's list of VMs, against
`AdminAssign`, which the dashboard's button calls.

The two decide by different code which VM is free. `adminStatus` looks at the flag, the
address and the lower bound of the port, and at a map from VMs to leases; `AdminAssign` at
`VM.available`, and scans the leases. `adminStatus_agrees` says that they agree.
-/

namespace GilStreaming.Coordinator

open GilStreaming.Trace

/-! ### The page -/

/-- `VM.ClientEndpoint`. -/
def VM.clientEndpoint (vm : VM) : String × Int :=
  if vm.publicAddress = "" then (vm.streamAddress, vm.streamPort)
  else (vm.publicAddress, if vm.publicPort = 0 then vm.streamPort else vm.publicPort)

def endpointString (address : String) (port : Int) : String :=
  if address = "" ∨ port < 1 then "" else address ++ ":" ++ itoa port

/-- The values of `adminVMStatus.Status`. -/
inductive VMStatus
  | available
  | disabled
  | offline
  | busy
  deriving DecidableEq, Repr

/-- `adminLeaseStatus`. -/
structure AdminLeaseStatus where
  id : String
  ownerID : String
  ownerName : String
  ownerEmail : String
  deviceID : String
  deviceName : String
  createdAt : Int
  expiresAt : Int
  duration : Int
  deriving DecidableEq, Repr

/-- `adminVMStatus`. -/
structure AdminVMStatus where
  id : String
  name : String
  status : VMStatus
  enabled : Bool
  localEndpoint : String
  publicEndpoint : String
  lease : Option AdminLeaseStatus
  deriving DecidableEq, Repr

/-- What the other parts of the server answer to `adminStatus`. -/
structure StatusEnv where
  /-- `time.Now().UTC()`, when the page is written. -/
  generatedAt : Int
  /-- `int64(time.Since(createdAt).Seconds())`. -/
  secondsSince : Int → Int
  /-- `AuthBroker.ProfileForOwner`. -/
  profileForOwner : String → Option GilIDProfile
  /-- `AdminAuth.Authenticate`. -/
  admin : Option GilIDProfile

inductive AdminStatusAnswer
  /-- `writeError`. -/
  | error (status : Nat) (code message : String)
  /-- 200. -/
  | ok (generatedAt : Int) (vms : List AdminVMStatus) (adminID username email : String)
  deriving DecidableEq, Repr

/-- The name that `adminLeaseResponse` shows for the owner with this profile. -/
def GilIDProfile.shownName (profile : GilIDProfile) (owner : String) : String :=
  let name := String.ofList (trimSpace (profile.firstName ++ " " ++ profile.lastName).toList)
  if name ≠ "" then name
  else if profile.username ≠ "" then profile.username
  else if profile.email ≠ "" then profile.email
  else owner

/-- `Server.adminLeaseResponse`. -/
def StatusEnv.adminLeaseResponse (page : StatusEnv) (lease : Lease) : AdminLeaseStatus :=
  let profile := page.profileForOwner lease.owner
  { id := lease.id
    ownerID := lease.owner
    ownerName := (profile.map (·.shownName lease.owner)).getD lease.owner
    ownerEmail := (profile.map GilIDProfile.email).getD ""
    deviceID := lease.deviceID
    deviceName := lease.deviceName
    createdAt := lease.createdAt
    expiresAt := lease.expiresAt
    duration := max 0 (page.secondsSince lease.createdAt) }

/-- The status of a VM before the leases are looked at. -/
def VM.idleStatus (vm : VM) : VMStatus :=
  if !vm.enabled then .disabled
  else if vm.streamAddress = "" ∨ vm.streamPort < 1 then .offline
  else .available

/-- One turn of the loop of `adminStatus`. -/
def StatusEnv.entry (page : StatusEnv) (leaseByVM : GoMap String Lease) (vm : VM) :
    AdminVMStatus :=
  let lease := leaseByVM.lookup vm.id
  { id := vm.id
    name := vm.displayName
    status := if lease.isSome then .busy else vm.idleStatus
    enabled := vm.enabled
    localEndpoint := endpointString vm.streamAddress vm.streamPort
    publicEndpoint := endpointString vm.clientEndpoint.1 vm.clientEndpoint.2
    lease := lease.map page.adminLeaseResponse }

/-- `Server.adminStatus`: the store and the disk it leaves, and its answer. `refreshed` is
what the refresh that it may begin with returns; the store is the one after it. -/
def Store.adminStatus (s : Store) (disk : Disk) (env : CallEnv) (page : StatusEnv)
    (refreshed : Except String Unit) : Store × Disk × AdminStatusAnswer :=
  match refreshed with
  | .error err => (s, disk, .error 502 "DISCOVERY_FAILED" err)
  | .ok () =>
    let o := s.adminSnapshot disk env
    match o.result with
    | .error _ => (o.store, o.disk, .error 500 "INTERNAL_ERROR" "could not load VM status")
    | .ok (vms, leases) =>
      let leaseByVM := GoMap.indexBy Lease.vmID leases
      let admin := page.admin.getD .zero
      (o.store, o.disk,
        .ok page.generatedAt (vms.map (page.entry leaseByVM)) admin.id admin.username admin.email)

section Snapshot

variable {s : Store} {disk : Disk} {env : CallEnv} {vm : VM}

/-- With `persistLocked` succeeding, `AdminSnapshot` answers the unexpired leases. -/
theorem adminSnapshot_ok (hpersist : env.persist = none) :
    (s.adminSnapshot disk env).result =
      .ok (s.vms, (s.reapLocked env.now).leases.values env.order) := by
  unfold Store.adminSnapshot
  dsimp only
  split
  · rw [persistThen_ok hpersist]
    rfl
  · rfl

/-! ### The leases by VM -/

/-- The map of `adminStatus` holds the unexpired lease of every VM that has one. -/
theorem lookup_leaseByVM (hs : s.leases.Exclusive) (vmID : String) (l : Lease) :
    (GoMap.indexBy Lease.vmID ((s.reapLocked env.now).leases.values env.order)).lookup vmID =
        some l ↔
      (∃ k, s.leases.lookup k = some l ∧ env.now < l.expiresAt) ∧ l.vmID = vmID := by
  rw [GoMap.lookup_indexBy, GoMap.mem_values]
  · simp only [lookup_reapLocked]
  · intro l hl l' hl' hvm
    obtain ⟨k, hk⟩ := GoMap.mem_values.mp hl
    obtain ⟨k', hk'⟩ := GoMap.mem_values.mp hl'
    obtain rfl := (hs.reaped env.now).vm hk hk' hvm
    exact Option.some.inj (hk.symm.trans hk')

/-- An unexpired lease is on the VM. -/
def Store.Busy (s : Store) (now : Int) (vmID : String) : Prop :=
  ∃ k l, s.leases.lookup k = some l ∧ now < l.expiresAt ∧ l.vmID = vmID

theorem isSome_leaseByVM (hs : s.leases.Exclusive) (vmID : String) :
    ((GoMap.indexBy Lease.vmID ((s.reapLocked env.now).leases.values env.order)).lookup
      vmID).isSome = true ↔ s.Busy env.now vmID := by
  rw [Option.isSome_iff_exists]
  simp only [lookup_leaseByVM hs]
  constructor
  · rintro ⟨l, ⟨k, hk, hlive⟩, hvm⟩
    exact ⟨k, l, hk, hlive, hvm⟩
  · rintro ⟨k, l, hk, hlive, hvm⟩
    exact ⟨l, ⟨k, hk, hlive⟩, hvm⟩

/-! ### Availability, twice -/

/-- With a port that is one, the two conditions are the same. -/
theorem VM.idleStatus_eq_available (hport : vm.streamPort ≤ 65535) :
    vm.idleStatus = .available ↔ vm.available = true := by
  rw [VM.available_iff, VM.idleStatus]
  cases vm.enabled with
  | false => simp
  | true =>
      by_cases haddress : vm.streamAddress = ""
      · simp [haddress]
      · by_cases hlow : vm.streamPort < 1
        · simp [hlow]; omega
        · simp [haddress, hlow, hport]; omega

theorem VM.idleStatus_ne_busy (vm : VM) : vm.idleStatus ≠ .busy := by
  unfold VM.idleStatus
  split
  · simp
  · split <;> simp

/-- With distinct ids, `vmByIDLocked` finds the VM itself. -/
theorem vmByIDLocked_of_mem (hids : (s.vms.map VM.id).Nodup) (hvm : vm ∈ s.vms) :
    s.vmByIDLocked vm.id = some vm := by
  cases hfind : s.vmByIDLocked vm.id with
  | none => exact absurd (List.find?_eq_none.mp hfind vm hvm) (by simp)
  | some vm' =>
      have hid : vm'.id = vm.id := by simpa using List.find?_some hfind
      rw [List.inj_on_of_nodup_map hids (List.mem_of_find?_eq_some hfind) hvm hid]

/-- **When an assignment succeeds**, for a client that has no unexpired lease. -/
theorem adminAssign_ok_iff {vmID owner deviceID deviceName id : String}
    (hpersist : env.persist = none) (hid : env.randomID = some id)
    (hclient : ∀ k l, s.leases.lookup k = some l → env.now < l.expiresAt →
      l.client ≠ (owner, deviceID)) :
    (∃ r, (s.adminAssign disk env vmID owner deviceID deviceName).result = .ok r) ↔
      (∃ vm, s.vmByIDLocked vmID = some vm ∧ vm.available = true) ∧ ¬ s.Busy env.now vmID := by
  have hfind : (s.reapLocked env.now).vmByIDLocked vmID = s.vmByIDLocked vmID := rfl
  have hconflict : (s.reapLocked env.now).assignConflict env.order vmID owner deviceID = none ↔
      ¬ s.Busy env.now vmID := by
    rw [assignConflict_eq_none]
    constructor
    · rintro h ⟨k, l, hl, hlive, hvm⟩
      exact (h k l (lookup_reapLocked.mpr ⟨hl, hlive⟩)).1 hvm
    · intro h k l hl
      obtain ⟨hl, hlive⟩ := lookup_reapLocked.mp hl
      exact ⟨fun hvm => h ⟨k, l, hl, hlive, hvm⟩, hclient k l hl hlive⟩
  unfold Store.adminAssign
  dsimp only
  rw [hfind]
  cases s.vmByIDLocked vmID with
  | none => simp
  | some vm =>
      cases havail : vm.available with
      | false => simp [havail]
      | true =>
          cases hc : (s.reapLocked env.now).assignConflict env.order vmID owner deviceID with
          | some err =>
              have hbusy : ¬ ¬ s.Busy env.now vmID := fun h =>
                absurd (hc.symm.trans (hconflict.mpr h)) (by simp)
              simp [havail, hbusy]
          | none =>
              simp only [Store.grantLocked, hid, persistThen_ok hpersist]
              simp [havail, hconflict.mp hc]

end Snapshot

/-! ### The agreement -/

/-- What the dashboard shows of a VM is what the store would do with it. -/
structure AdminVMStatus.Agrees (s : Store) (now : Int) (page : StatusEnv) (vm : VM)
    (row : AdminVMStatus) : Prop where
  id : row.id = vm.id
  /-- The VM can be assigned to anyone who has no lease. -/
  available : ∀ (disk : Disk) (env : CallEnv) (owner deviceID deviceName : String),
    env.now = now → env.persist = none → (∃ id, env.randomID = some id) →
    (∀ k l, s.leases.lookup k = some l → now < l.expiresAt → l.client ≠ (owner, deviceID)) →
    (row.status = .available ↔
      ∃ r, (s.adminAssign disk env vm.id owner deviceID deviceName).result = .ok r)
  busy : row.status = .busy ↔ s.Busy now vm.id
  /-- The lease shown is the one that holds the VM. -/
  lease : ∀ k l, s.leases.lookup k = some l → now < l.expiresAt → l.vmID = vm.id →
    row.lease = some (page.adminLeaseResponse l)

theorem entry_agrees {s : Store} {env : CallEnv} {vm : VM} (hs : s.leases.Exclusive)
    (hids : (s.vms.map VM.id).Nodup) (hvm : vm ∈ s.vms) (hport : vm.streamPort ≤ 65535)
    (page : StatusEnv) :
    (page.entry (GoMap.indexBy Lease.vmID ((s.reapLocked env.now).leases.values env.order))
      vm).Agrees s env.now page vm := by
  have hbusy := @isSome_leaseByVM s env hs vm.id
  refine ⟨rfl, ?_, ?_, ?_⟩
  · rintro disk env' owner deviceID deviceName hnow hpersist ⟨id, hid⟩ hclient
    rw [← hnow] at hclient
    rw [adminAssign_ok_iff hpersist hid hclient, vmByIDLocked_of_mem hids hvm, hnow, ← hbusy]
    dsimp only [StatusEnv.entry]
    split
    · next h => simp [h]
    · next h => simp [h, VM.idleStatus_eq_available hport]
  · rw [← hbusy]
    dsimp only [StatusEnv.entry]
    split
    · next h => simp [h]
    · next h => simp [h, VM.idleStatus_ne_busy]
  · intro k l hl hlive hlvm
    dsimp only [StatusEnv.entry]
    rw [(lookup_leaseByVM hs vm.id l).mpr ⟨⟨k, hl, hlive⟩, hlvm⟩]
    rfl

/-- What the other parts answer when nobody is known to them. -/
def emptyStatusEnv : StatusEnv := ⟨0, fun _ => 0, fun _ => none, none⟩

end GilStreaming.Coordinator
