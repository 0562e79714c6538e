import GilStreaming.Lib.GoMap

/-!
# GilStreaming.Coordinator.Store

The lease store of `coordinator/store.go`: the VM pool, the lease map, the JSON
state file behind it, and the nine operations the coordinator serves from them.

Every operation of the source holds the store's mutex from its first line to its
return, so each is one function from the store and the disk to the store, the
disk and the reply. What an operation does not decide is handed to it in a
`CallEnv`: the clock reading, the order in which Go ranges over the lease map,
the outcome of each step of `persistLocked`, and the result of `randomID`.

Instants (`time.Time`) and durations (`time.Duration`) are integers, nanoseconds
on one unbounded axis; `UTC()` and the monotonic part of a reading, which `UTC()`
strips, have no counterpart. Strings
are valid Unicode, which is what `encoding/json` decodes every stored field to,
so that writing a lease and reading it back is the identity.
-/

namespace GilStreaming.Coordinator

/-! ### Data -/

structure VM where
  id : String
  displayName : String
  discoveryName : String
  streamAddress : String
  streamPort : Int
  publicAddress : String
  publicPort : Int
  sunshineAPIURL : String
  enabled : Bool
  deriving DecidableEq, Repr

/-- `VM.available`. -/
def VM.available (vm : VM) : Bool :=
  vm.enabled && vm.streamAddress != "" && decide (vm.streamPort > 0) &&
    decide (vm.streamPort ≤ 65535)

structure Lease where
  id : String
  vmID : String
  owner : String
  deviceID : String
  deviceName : String
  createdAt : Int
  expiresAt : Int
  deriving DecidableEq, Repr

/-- `lease.ExpiresAt.After(now)`. -/
def Lease.liveAt (lease : Lease) (now : Int) : Bool := decide (now < lease.expiresAt)

/-- The pair a lease is granted to. -/
def Lease.client (lease : Lease) : String × String := (lease.owner, lease.deviceID)

abbrev Leases := GoMap String Lease

/-- The order of one `range s.leases`. -/
abbrev LeaseOrder := RangeOrder (Σ _ : String, Lease)

/-- Where `persistLocked` stops. `mkdirAll` stands for an error that the source
does not ignore (it ignores one when the directory is `"."`). -/
inductive PersistStep
  | marshal
  | mkdirAll
  | writeFile
  | rename
  deriving DecidableEq, Repr

/-- The errors of the store: its seven sentinels, a failed `randomID`, and a
failed `persistLocked`. -/
inductive StoreError
  /-- `"VM pool exhausted"` -/
  | poolExhausted
  /-- `"lease not found"` -/
  | leaseNotFound
  /-- `"lease belongs to another user"` -/
  | leaseForbidden
  /-- `"VM not found"` -/
  | vmNotFound
  /-- `"VM is unavailable"` -/
  | vmUnavailable
  /-- `"VM is occupied"` -/
  | vmOccupied
  /-- `"client already has a lease"` -/
  | clientHasLease
  | randomID
  | persist (step : PersistStep)
  deriving DecidableEq, Repr

/-- The content of a state file: a complete `persistedState`, or whatever a
`WriteFile` that did not finish left behind. -/
inductive FileData
  | state (leases : List Lease)
  | torn
  deriving DecidableEq, Repr

/-- The two files of the store, absent or with their content. -/
structure Disk where
  stateFile : Option FileData
  tmpFile : Option FileData
  deriving DecidableEq, Repr

structure Store where
  vms : List VM
  leases : Leases
  ttl : Int

/-- What the environment decides during one call. `persist` is the step at which
`persistLocked` fails, `none` when it succeeds; `randomID` is the id that
`randomID` returns, `none` when it fails. -/
structure CallEnv where
  now : Int
  order : LeaseOrder
  persist : Option PersistStep
  randomID : Option String

/-- What a call leaves behind and returns. -/
structure Outcome (α : Type) where
  store : Store
  disk : Disk
  result : Except StoreError α

/-! ### Helpers of the operations -/

/-- `NewStore`. -/
def newStore (vms : List VM) (ttl : Int) : Store := ⟨vms, ∅, ttl⟩

/-- `Store.reapLocked`. -/
def Store.reapLocked (s : Store) (now : Int) : Store :=
  { s with leases := s.leases.filter fun _ lease => lease.liveAt now }

/-- `Store.vmByIDLocked`: the first VM of the list with that id. -/
def Store.vmByIDLocked (s : Store) (id : String) : Option VM :=
  s.vms.find? fun vm => vm.id == id

/-- `vm, ok := s.vmByIDLocked(id); ok && vm.available()`. -/
def Store.availableVM (s : Store) (id : String) : Option VM :=
  (s.vmByIDLocked id).filter VM.available

/-- `Store.persistLocked`: the leases in `range` order, written to the temporary
file and renamed over the state file. -/
def Store.persistLocked (s : Store) (disk : Disk) (env : CallEnv) :
    Disk × Except StoreError Unit :=
  let state := FileData.state (s.leases.values env.order)
  match env.persist with
  | some .marshal => (disk, .error (.persist .marshal))
  | some .mkdirAll => (disk, .error (.persist .mkdirAll))
  | some .writeFile => ({ disk with tmpFile := some .torn }, .error (.persist .writeFile))
  | some .rename => ({ disk with tmpFile := some state }, .error (.persist .rename))
  | none => ({ stateFile := some state, tmpFile := none }, .ok ())

/-- `if err := s.persistLocked(); err != nil { …; return err }; return reply`:
`undone` is the store after what the operation rolls back on failure. -/
def Store.persistThen {α : Type} (s : Store) (disk : Disk) (env : CallEnv)
    (undone : Store) (reply : α) : Outcome α :=
  match s.persistLocked disk env with
  | (disk, .ok ()) => ⟨s, disk, .ok reply⟩
  | (disk, .error err) => ⟨undone, disk, .error err⟩

/-- The `&Lease{…}` literal of `CreateOrRecover` and `AdminAssign`. -/
def Store.newLease (s : Store) (now : Int) (id : String) (vm : VM)
    (owner deviceID deviceName : String) : Lease where
  id := id
  vmID := vm.id
  owner := owner
  deviceID := deviceID
  deviceName := deviceName
  createdAt := now
  expiresAt := now + s.ttl

/-- The tail that `CreateOrRecover` and `AdminAssign` share: draw an id, file the
lease, persist, and take the lease out again when that fails. -/
def Store.grantLocked (s : Store) (disk : Disk) (env : CallEnv) (vm : VM)
    (owner deviceID deviceName : String) : Outcome (Lease × VM) :=
  match env.randomID with
  | none => ⟨s, disk, .error .randomID⟩
  | some id =>
    let lease := s.newLease env.now id vm owner deviceID deviceName
    let granted := { s with leases := s.leases.insert id lease }
    granted.persistThen disk env { s with leases := granted.leases.erase id } (lease, vm)

/-- The second half of `CreateOrRecover`: the first VM of the list that is
available and not occupied. -/
def Store.allocateLocked (s : Store) (disk : Disk) (env : CallEnv)
    (owner deviceID deviceName : String) : Outcome (Lease × VM) :=
  let occupied := (s.leases.values env.order).map Lease.vmID
  match s.vms.find? fun vm => vm.available && !occupied.contains vm.id with
  | none => ⟨s, disk, .error .poolExhausted⟩
  | some vm => s.grantLocked disk env vm owner deviceID deviceName

/-- The search loop of `CreateOrRecover`: the map entry of this client. -/
def Store.clientLease (s : Store) (order : LeaseOrder) (owner deviceID : String) :
    Option (Σ _ : String, Lease) :=
  (s.leases.range order).find? fun e => e.2.owner == owner && e.2.deviceID == deviceID

/-- `lease.ExpiresAt = now.Add(s.ttl)` on the lease the map holds under `key`. -/
def Store.renewLocked (s : Store) (now : Int) (key : String) (lease : Lease) : Store :=
  { s with leases := s.leases.insert key { lease with expiresAt := now + s.ttl } }

/-! ### The operations -/

/-- `Store.CreateOrRecover`. The expiry of a lease found is extended before its VM
is looked up; a lease whose VM is gone is dropped and the client is served like a
new one. -/
def Store.createOrRecover (s : Store) (disk : Disk) (env : CallEnv)
    (owner deviceID deviceName : String) : Outcome (Lease × VM) :=
  let s := s.reapLocked env.now
  match s.clientLease env.order owner deviceID with
  | some ⟨key, lease⟩ =>
    let s := s.renewLocked env.now key lease
    match s.availableVM lease.vmID with
    | some vm =>
      s.persistThen disk env s ({ lease with expiresAt := env.now + s.ttl }, vm)
    | none =>
      let s := { s with leases := s.leases.erase lease.id }
      s.allocateLocked disk env owner deviceID deviceName
  | none => s.allocateLocked disk env owner deviceID deviceName

/-- `Store.Heartbeat`. -/
def Store.heartbeat (s : Store) (disk : Disk) (env : CallEnv) (id owner : String) :
    Outcome Lease :=
  let s := s.reapLocked env.now
  match s.leases.lookup id with
  | none => ⟨s, disk, .error .leaseNotFound⟩
  | some lease =>
    if lease.owner ≠ owner then ⟨s, disk, .error .leaseForbidden⟩
    else
      let s := s.renewLocked env.now id lease
      s.persistThen disk env s { lease with expiresAt := env.now + s.ttl }

/-- `Store.Release`. It reads no clock and reaps nothing. -/
def Store.release (s : Store) (disk : Disk) (env : CallEnv) (id owner : String) :
    Outcome Unit :=
  match s.leases.lookup id with
  | none => ⟨s, disk, .ok ()⟩
  | some lease =>
    if lease.owner ≠ owner then ⟨s, disk, .error .leaseForbidden⟩
    else
      let s := { s with leases := s.leases.erase id }
      s.persistThen disk env s ()

/-- `Store.LeaseVM`. -/
def Store.leaseVM (s : Store) (disk : Disk) (env : CallEnv) (id owner : String) :
    Outcome (Lease × VM) :=
  let s := s.reapLocked env.now
  match s.leases.lookup id with
  | none => ⟨s, disk, .error .leaseNotFound⟩
  | some lease =>
    if lease.owner ≠ owner then ⟨s, disk, .error .leaseForbidden⟩
    else
      match s.availableVM lease.vmID with
      | none => ⟨s, disk, .error .leaseNotFound⟩
      | some vm => ⟨s, disk, .ok (lease, vm)⟩

/-- `Store.AdminSnapshot`. It persists only when reaping removed something. -/
def Store.adminSnapshot (s : Store) (disk : Disk) (env : CallEnv) :
    Outcome (List VM × List Lease) :=
  let before := s.leases.len
  let s := s.reapLocked env.now
  let reply := (s.vms, s.leases.values env.order)
  if s.leases.len ≠ before then s.persistThen disk env s reply
  else ⟨s, disk, .ok reply⟩

/-- `Store.AdminLease`. -/
def Store.adminLease (s : Store) (disk : Disk) (env : CallEnv) (id : String) :
    Outcome (Lease × VM) :=
  let s := s.reapLocked env.now
  match s.leases.lookup id with
  | none => ⟨s, disk, .error .leaseNotFound⟩
  | some lease =>
    match s.vmByIDLocked lease.vmID with
    | none => ⟨s, disk, .error .vmNotFound⟩
    | some vm => ⟨s, disk, .ok (lease, vm)⟩

/-- `Store.AdminRelease`. Unlike `Release` it reports a missing lease. -/
def Store.adminRelease (s : Store) (disk : Disk) (env : CallEnv) (id : String) :
    Outcome Unit :=
  match s.leases.lookup id with
  | none => ⟨s, disk, .error .leaseNotFound⟩
  | some _ =>
    let s := { s with leases := s.leases.erase id }
    s.persistThen disk env s ()

/-- The loop of `AdminAssign`: the first lease that is in the way decides the
error, so the error reported can depend on the `range` order. -/
def Store.assignConflict (s : Store) (order : LeaseOrder) (vmID owner deviceID : String) :
    Option StoreError :=
  (s.leases.values order).findSome? fun lease =>
    if lease.vmID = vmID then some .vmOccupied
    else if lease.owner = owner ∧ lease.deviceID = deviceID then some .clientHasLease
    else none

/-- `Store.AdminAssign`. -/
def Store.adminAssign (s : Store) (disk : Disk) (env : CallEnv)
    (vmID owner deviceID deviceName : String) : Outcome (Lease × VM) :=
  let s := s.reapLocked env.now
  match s.vmByIDLocked vmID with
  | none => ⟨s, disk, .error .vmNotFound⟩
  | some vm =>
    if !vm.available then ⟨s, disk, .error .vmUnavailable⟩
    else
      match s.assignConflict env.order vmID owner deviceID with
      | some err => ⟨s, disk, .error err⟩
      | none => s.grantLocked disk env vm owner deviceID deviceName

/-- `Store.UpdateVMs`: replace the VMs that have an update under their id. -/
def Store.updateVMs (s : Store) (updates : GoMap String VM) : Store :=
  { s with vms := s.vms.map fun vm => (updates.lookup vm.id).getD vm }

/-- The loop of `Load`: the `k`-th lease of the file is kept when it is unexpired
at the `k`-th clock reading. -/
def loadLeases (now : Nat → Int) : Nat → List Lease → Leases → Leases
  | _, [], leases => leases
  | k, lease :: rest, leases =>
    loadLeases now (k + 1) rest
      (if lease.liveAt (now k) then leases.insert lease.id lease else leases)

/-- Why `Load` fails: the file cannot be read, or does not parse. -/
inductive LoadError
  | readFile
  | unmarshal
  deriving DecidableEq, Repr

/-- `Store.Load`. `readFails` is an error of `os.ReadFile` other than
`os.ErrNotExist`; a file that does not exist is an empty one. -/
def Store.load (s : Store) (disk : Disk) (readFails : Bool) (now : Nat → Int) :
    Except LoadError Store :=
  if readFails then .error .readFile
  else
    match disk.stateFile with
    | none => .ok s
    | some .torn => .error .unmarshal
    | some (.state leases) => .ok { s with leases := loadLeases now 0 leases s.leases }

end GilStreaming.Coordinator
