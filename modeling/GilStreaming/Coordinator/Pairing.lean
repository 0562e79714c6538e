import GilStreaming.Coordinator.Handlers
import GilStreaming.Coordinator.Sunshine

/-!
# GilStreaming.Coordinator.Pairing

`Server.pairLease` of `coordinator/main.go`: whose VM a pairing acts on.

The lease is checked once, and the conversation with the VM's Sunshine host that follows
can take more than eight seconds. `pair_acts_for_holder` says when everything that the
handler does to the VM still happens under the lease, and `pin_reaches_next_holder` shows
the PIN of one client submitted to a VM that meanwhile is another client's.
-/

namespace GilStreaming.Coordinator

open GilStreaming.Trace

/-- The request: the path, the owner of the token, and what `decodeJSON` makes of the body,
a PIN and a device name. -/
structure PairRequest where
  owner : String
  leaseID : String
  body : Option (String × String)
  deriving DecidableEq, Repr

inductive PairAnswer
  /-- `writeError`. -/
  | error (status : Nat) (code message : String)
  /-- 502 `PAIRING_FAILED`, with the text of the error. -/
  | failed (err : SunshineError)
  /-- 200 `{"paired": true}`. -/
  | paired
  deriving DecidableEq, Repr

/-- How far `pairLease` has come. -/
inductive PairProgress
  | requested
  /-- `LeaseVM` has returned, and `Pair` is next. -/
  | admitted (lease : Lease) (vm : VM) (pin deviceName : String)
  | pairing (lease : Lease) (vm : VM) (p : Pairing)
  | answered (answer : PairAnswer)
  deriving DecidableEq, Repr

inductive PairLeaseEvent
  /-- `pairLease` checks the request, and the lease with `LeaseVM`. -/
  | check
  /-- `Pair` starts. -/
  | pair (configured validURL : Bool)
  /-- `Pair` goes on. -/
  | sunshine (e : PairEvent)

/-- The checks of the body: the PIN and the device name, or the answer. -/
def PairRequest.validate (r : PairRequest) : Except PairAnswer (String × String) :=
  match r.body with
  | none => .error (.error 400 "INVALID_REQUEST" "a four-digit pin and deviceName are required")
  | some (pin, deviceName) =>
    if pin.utf8ByteSize ≠ 4 ∨ deviceName = "" then
      .error (.error 400 "INVALID_REQUEST" "a four-digit pin and deviceName are required")
    else if !pin.toList.all Char.isDigit then
      .error (.error 400 "INVALID_REQUEST" "pin must contain four digits")
    else .ok (pin, deviceName)

/-- `pairingName`. -/
def pairingName (deviceID : String) : String := "GilStreaming-" ++ deviceID

/-- `pairLease` when `LeaseVM` has returned. -/
def PairProgress.checked (pin deviceName : String) :
    Option (Except StoreError Reply) → PairProgress
  | some (.ok (.leaseAndVM lease vm)) => .admitted lease vm pin deviceName
  | some (.error .leaseNotFound) =>
    .answered (.error 410 "LEASE_EXPIRED" "lease is missing or expired")
  | some (.error .leaseForbidden) =>
    .answered (.error 403 "FORBIDDEN" "lease belongs to another user")
  | _ => .answered (.error 500 "INTERNAL_ERROR" "could not load lease")

/-- `pairLease` when `Pair` has taken a step. -/
def PairProgress.paired (lease : Lease) (vm : VM) (step : Pairing × Option SunshineRequest) :
    PairProgress × Option (VM × SunshineRequest) :=
  (match step.1.stage with
    | .done none => .answered .paired
    | .done (some err) => .answered (.failed err)
    | _ => .pairing lease vm step.1,
    step.2.map fun r => (vm, r))

/-- `Server.pairLease`. -/
def pairLease (request : PairRequest) :
    RequestHandler PairProgress PairLeaseEvent SunshineRequest where
  call? s e :=
    match s, e with
    | .requested, .check =>
      match request.validate with
      | .ok _ => some (.leaseVM request.leaseID request.owner)
      | .error _ => none
    | _, _ => none
  next s now e reply :=
    match s, e with
    | .requested, .check =>
      match request.validate with
      | .ok (pin, deviceName) => (.checked pin deviceName reply, none)
      | .error answer => (.answered answer, none)
    | .admitted lease vm pin deviceName, .pair configured validURL =>
      PairProgress.paired lease vm
        (Pairing.start pin (pairingName lease.deviceID) [deviceName] configured validURL now)
    | .pairing lease vm p, .sunshine e => PairProgress.paired lease vm (p.step now e)
    | s, _ => (s, none)

/-- The lease and the VM that `pairLease` goes on with. -/
def PairProgress.held : PairProgress → Option (Lease × VM)
  | .admitted lease vm _ _ => some (lease, vm)
  | .pairing lease vm _ => some (lease, vm)
  | _ => none

/-- The request changes something on the VM for the client: it unpairs a client or submits
the PIN. -/
def SunshineRequest.acts : SunshineRequest → Bool
  | .unpair _ _ => true
  | .submitPIN _ _ _ => true
  | _ => false

theorem PairProgress.held_checked {pin deviceName : String}
    {reply : Option (Except StoreError Reply)} {L : Lease} {vm : VM}
    (h : (PairProgress.checked pin deviceName reply).held = some (L, vm)) :
    reply = some (.ok (.leaseAndVM L vm)) := by
  unfold checked at h
  split at h
  · obtain ⟨rfl, rfl⟩ := Prod.mk.inj (Option.some.inj h)
    rfl
  · exact absurd h (by simp [held])
  · exact absurd h (by simp [held])
  · exact absurd h (by simp [held])

theorem PairProgress.held_paired {lease : Lease} {vm : VM}
    {step : Pairing × Option SunshineRequest} {p : Lease × VM}
    (h : (PairProgress.paired lease vm step).1.held = some p) : p = (lease, vm) := by
  unfold paired at h
  dsimp only at h
  split at h
  · exact absurd h (by simp [held])
  · exact absurd h (by simp [held])
  · exact (Option.some.inj h).symm

theorem PairProgress.sent_paired {lease : Lease} {vm vm' : VM}
    {step : Pairing × Option SunshineRequest} {r : SunshineRequest}
    (h : (PairProgress.paired lease vm step).2 = some (vm', r)) : vm' = vm := by
  obtain ⟨_, -, heq⟩ := Option.map_eq_some_iff.mp h
  exact (Prod.mk.inj heq).1.symm

/-- `pairLease` holds what its `LeaseVM` has returned, and sends to that VM. -/
theorem pairLease_holds (request : PairRequest) : (pairLease request).Holds PairProgress.held where
  lookup s now e reply L vm h := by
    cases s with
    | requested =>
        cases e with
        | check =>
            cases hvalid : request.validate with
            | error answer =>
                simp [pairLease, hvalid, PairProgress.held] at h
            | ok body =>
                refine .inr ⟨.leaseVM request.leaseID request.owner, by simp [pairLease, hvalid],
                  .inl ⟨_, _, rfl⟩, ?_⟩
                simp only [pairLease, hvalid] at h
                exact PairProgress.held_checked h
        | pair configured validURL => exact .inl ⟨h, rfl⟩
        | sunshine e => exact .inl ⟨h, rfl⟩
    | admitted lease vm' pin deviceName =>
        cases e with
        | pair configured validURL =>
            simp only [pairLease] at h
            exact .inl ⟨congrArg some (PairProgress.held_paired h).symm, rfl⟩
        | check => exact .inl ⟨h, rfl⟩
        | sunshine e => exact .inl ⟨h, rfl⟩
    | pairing lease vm' p =>
        cases e with
        | sunshine e =>
            simp only [pairLease] at h
            exact .inl ⟨congrArg some (PairProgress.held_paired h).symm, rfl⟩
        | check => exact .inl ⟨h, rfl⟩
        | pair configured validURL => exact .inl ⟨h, rfl⟩
    | answered answer => exact absurd h (by simp [pairLease, PairProgress.held])
  send s now e reply vm r h := by
    cases s with
    | requested =>
        cases e with
        | check =>
            cases hvalid : request.validate <;> simp [pairLease, hvalid] at h
        | pair configured validURL => exact absurd h (by simp [pairLease])
        | sunshine e => exact absurd h (by simp [pairLease])
    | admitted lease vm' pin deviceName =>
        cases e with
        | pair configured validURL =>
            simp only [pairLease] at h
            obtain rfl := PairProgress.sent_paired h
            exact ⟨lease, rfl⟩
        | check => exact absurd h (by simp [pairLease])
        | sunshine e => exact absurd h (by simp [pairLease])
    | pairing lease vm' p =>
        cases e with
        | sunshine e =>
            simp only [pairLease] at h
            obtain rfl := PairProgress.sent_paired h
            exact ⟨lease, rfl⟩
        | check => exact absurd h (by simp [pairLease])
        | pair configured validURL => exact absurd h (by simp [pairLease])
    | answered answer => exact absurd h (by simp [pairLease])

/-- **Pairing.** In every interleaving of `pairLease` with the calls of other requests in
which none of these ends the lease while the pairing is under way, and every unpairing and
PIN is sent before the lease's expiry, each of them is sent while the lease is live and
holds the VM. -/
theorem pair_acts_for_holder (vms : List VM) (ttl : Int) (before : List Event)
    (request : PairRequest) {es : List (HandlerEvent PairLeaseEvent)} :
    let start : HandlerSystem PairProgress := ⟨(World.initial vms ttl).run before, .requested⟩
    IDsFresh (before ++ (pairLease request).calls start es) →
    AllSteps (pairLease request).step
      ((pairLease request).Undisturbed PairProgress.held SunshineRequest.acts) start es →
    AllSteps (pairLease request).step
      ((pairLease request).SendsLive PairProgress.held SunshineRequest.acts) start es :=
  (pairLease_holds request).sends_while_live vms ttl before rfl

/-- The first client of the tests pairs. -/
def testPairRequest : PairRequest := ⟨"user-1", "a", some ("1234", "one")⟩

/-- The steps of a pairing from the start of `Pair` to the PIN, on a host that knows no
client. -/
def testConversation (now : Int) : List (HandlerEvent PairLeaseEvent) :=
  [.handler (testEnv now none none) (.pair true true),
    .handler (testEnv (now + 1) none none) (.sunshine (.listed (.response 200 (some [])))),
    .handler (testEnv (now + 2) none none) (.sunshine (.asked (.response 200 (some ["p"]))))]

/-- Another client is served while the first one pairs. -/
def servedMeanwhile : List (HandlerEvent PairLeaseEvent) :=
  .handler (testEnv 1 none none) .check ::
    .store (testEnv 2 none (some "b")) (.createOrRecover "user-2" "device-2" "two") ::
      testConversation 3

theorem pair_acts_for_holder_served :
    AllSteps (pairLease testPairRequest).step
      ((pairLease testPairRequest).SendsLive PairProgress.held SunshineRequest.acts)
      ⟨(World.initial testPool minute).run [firstServed], .requested⟩ servedMeanwhile := by
  refine pair_acts_for_holder testPool minute [firstServed] testPairRequest (by decide)
    ⟨RequestHandler.undisturbed_idle (by decide), RequestHandler.undisturbed_store ?_,
      RequestHandler.undisturbed_idle (by decide), RequestHandler.undisturbed_idle (by decide),
      RequestHandler.undisturbed_handler ?_, trivial⟩
  · intro L vm hheld
    obtain rfl : firstLease = L := congrArg Prod.fst (Option.some.inj hheld)
    exact World.spares_otherClient (by decide) (World.before_of_lookup rfl rfl (by decide))
  · intro L vm r hheld _ _
    obtain rfl : firstLease = L := congrArg Prod.fst (Option.some.inj hheld)
    exact World.before_of_lookup rfl rfl (by decide)

/-- The first client releases its lease while it pairs, and its VM goes to another one. -/
def grantedMeanwhile : List (HandlerEvent PairLeaseEvent) :=
  .handler (testEnv 1 none none) .check ::
    .store (testEnv 2 none none) (.release "a" "user-1") ::
      .store (testEnv 3 none (some "b")) (.createOrRecover "user-2" "device-2" "two") ::
        testConversation 4

/-- The PIN of the first client is submitted to the VM of the second one. -/
theorem pin_reaches_next_holder :
    let start : HandlerSystem PairProgress :=
      ⟨(World.initial testPool minute).run [firstServed], .requested⟩
    let sys := (pairLease testPairRequest).run start grantedMeanwhile.dropLast
    ((pairLease testPairRequest).sent sys (.handler (testEnv 6 none none)
        (.sunshine (.asked (.response 200 (some ["p"])))))).map
          (fun sent => (sent.1.id, sent.2)) =
      some ("vm-1", .submitPIN "1234" "GilStreaming-device-1" "p") ∧
    sys.world.LiveOn "b" "vm-1" 6 ∧
    ¬ AllSteps (pairLease testPairRequest).step
      ((pairLease testPairRequest).SendsLive PairProgress.held SunshineRequest.acts) start
      grantedMeanwhile := by
  refine ⟨by decide, ⟨_, _, rfl, rfl, rfl, by decide⟩, fun h => ?_⟩
  obtain ⟨-, -, -, -, -, hlast, -⟩ := h
  obtain ⟨L, hheld, s, l, hs, hl, -⟩ := hlast _ _ rfl rfl
  obtain rfl : firstLease = L := congrArg Prod.fst (Option.some.inj hheld)
  obtain rfl := Option.some.inj hs
  exact nomatch hl

end GilStreaming.Coordinator
