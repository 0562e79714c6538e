import GilStreaming.Coordinator.Pairing
import GilStreaming.Coordinator.Relay
import Mathlib.Logic.Function.Basic

/-!
# GilStreaming.Coordinator.PairingRecords

The client records that pairings leave on the Sunshine hosts, and remove from them.

A pairing that goes through is the conversation of `SunshinePairer.Pair` with a host that
does what it is asked (`Pairing.converse`). It removes the records under two names, one
derived from the `deviceId` of the lease and one sent with the request, and leaves a
record under the first (`converse_start`). Both names are the client's to choose, and no
owner enters into them, so that a pairing can remove another owner's record:
`pairings_isolated_iff` says exactly when.
-/

namespace GilStreaming.Coordinator

open GilStreaming.Trace

/-! ### A host that does what it is asked -/

/-- A record on a Sunshine host, with the owner and the `deviceId` whose pairing created
it, if it was one. -/
structure SunshineRecord where
  client : SunshineClient
  creator : Option (String × String)
  deriving DecidableEq, Repr

/-- A host that does what it is asked: its records after a request, and its reply. `record`
is the one that a PIN creates. -/
def hostReply (records : List SunshineRecord) (record : SunshineRecord) :
    SunshineRequest → List SunshineRecord × PairEvent
  | .listClients => (records, .listed (.response 200 (some (records.map (·.client)))))
  | .csrfToken => (records, .token (.response 200 (some "token")))
  | .unpair uuid _ =>
    (records.filter fun r => r.client.uuid ≠ uuid, .unpaired (.response 200 (some true)))
  | .pendingPairings => (records, .asked (.response 200 (some ["pairing"])))
  | .submitPIN _ _ _ => (records ++ [record], .submitted (.response 200 (some true)))
  | .closeApp => (records, .waited false)

/-- What is left of a conversation: the requests sent, the records of the host, and the
pairing. -/
structure Conversation where
  sent : List SunshineRequest
  records : List SunshineRecord
  pairing : Pairing

/-- The pairing goes on with the host until it sends nothing more, for `fuel` requests at
most. -/
def Pairing.converse (record : SunshineRecord) (now : Int) :
    Nat → Pairing × Option SunshineRequest → List SunshineRecord → Conversation
  | 0, (p, _), records => ⟨[], records, p⟩
  | _ + 1, (p, none), records => ⟨[], records, p⟩
  | fuel + 1, (p, some request), records =>
    let (records, reply) := hostReply records record request
    let rest := converse record now fuel (p.step now reply) records
    ⟨request :: rest.sent, rest.records, rest.pairing⟩

/-- The client that the request unpairs. -/
def SunshineRequest.unpairs? : SunshineRequest → Option String
  | .unpair uuid _ => some uuid
  | _ => none

/-- The clients that the conversation unpairs. -/
def Conversation.unpairs (c : Conversation) : List String :=
  c.sent.filterMap SunshineRequest.unpairs?

theorem unpairs_map (csrfToken : String) (clients : List SunshineClient) :
    (clients.map fun client => SunshineRequest.unpair client.uuid csrfToken).filterMap
      SunshineRequest.unpairs? = clients.map (·.uuid) := by
  induction clients with
  | nil => rfl
  | cons client rest ih => rw [List.map_cons, List.map_cons, ← ih]; rfl

section Converse

variable {record : SunshineRecord} {now : Int}

/-- The end of the conversation: the PIN is submitted and accepted. -/
theorem converse_removed (p : Pairing) (records : List SunshineRecord) (fuel : Nat) :
    Pairing.converse record now (fuel + 3) (p.removed now) records =
      ⟨[.pendingPairings, .submitPIN p.pin p.deviceName "pairing"], records ++ [record],
        { p with stage := .done none }⟩ := rfl

/-- The loop over the stale clients. -/
theorem converse_unpair (csrfToken : String) (clients : List SunshineClient) :
    ∀ (p : Pairing) (records : List SunshineRecord) (fuel : Nat),
    Pairing.converse record now (clients.length + fuel + 3) (p.unpair now csrfToken clients)
        records =
      ⟨clients.map (fun client => .unpair client.uuid csrfToken) ++
          [.pendingPairings, .submitPIN p.pin p.deviceName "pairing"],
        (records.filter fun r => !(clients.map (·.uuid)).contains r.client.uuid) ++ [record],
        { p with stage := .done none }⟩ := by
  induction clients with
  | nil =>
      intro p records fuel
      rw [List.length_nil, Nat.zero_add, Pairing.unpair, converse_removed]
      simp
  | cons client rest ih =>
      intro p records fuel
      have hfuel : (client :: rest).length + fuel + 3 = rest.length + fuel + 3 + 1 := by
        simp only [List.length_cons]
        omega
      rw [hfuel, Pairing.unpair, Pairing.converse]
      simp only [hostReply]
      have hstep : ({ p with stage := .unpairing csrfToken client rest } : Pairing).step now
          (.unpaired (.response 200 (some true))) =
            Pairing.unpair { p with stage := .unpairing csrfToken client rest } now csrfToken
              rest := rfl
      rw [hstep, ih]
      simp only [List.map_cons, List.cons_append, List.filter_filter, Conversation.mk.injEq,
        true_and, and_true, List.append_cancel_right_eq]
      refine List.filter_congr fun r _ => ?_
      rw [List.contains_cons, Bool.not_or, Bool.and_comm]
      congr 1
      by_cases huuid : r.client.uuid = client.uuid <;> simp [huuid]

/-- **Conversation.** A pairing with a host that does what it is asked goes through. It
unpairs the clients under its names and adds its record. -/
theorem converse_start (pin deviceName : String) (legacyDeviceNames : List String)
    (hname : deviceName ≠ "") (records : List SunshineRecord) (fuel : Nat) :
    let p : Pairing := ⟨pin, deviceName, legacyDeviceNames, .listing⟩
    let stale := p.stale (records.map (·.client))
    let c := Pairing.converse record now (stale.length + fuel + 5)
      (Pairing.start pin deviceName legacyDeviceNames true true now) records
    c.unpairs = stale.map (·.uuid) ∧
      c.records =
        (records.filter fun r => !(stale.map (·.uuid)).contains r.client.uuid) ++ [record] ∧
      c.pairing.stage = .done none := by
  intro p stale c
  have hstart : Pairing.start pin deviceName legacyDeviceNames true true now =
      (p, some .listClients) := by
    simp [Pairing.start, hname, p]
  have hlisted : p.step now (.listed (.response 200 (some (records.map (·.client))))) =
      if stale = [] then p.removed now
      else ({ p with stage := .fetchingToken stale }, some .csrfToken) := rfl
  have hc : c = Pairing.converse record now (stale.length + fuel + 5) (p, some .listClients)
      records := by
    rw [← hstart]
  rw [Pairing.converse] at hc
  simp only [hostReply] at hc
  rw [hlisted] at hc
  by_cases hstale : stale = []
  · rw [if_pos hstale, hstale] at hc
    rw [List.length_nil, Nat.zero_add, converse_removed] at hc
    rw [hc, hstale]
    simp [Conversation.unpairs, SunshineRequest.unpairs?]
  · have htoken : ({ p with stage := .fetchingToken stale } : Pairing).step now
        (.token (.response 200 (some "token"))) =
          Pairing.unpair { p with stage := .fetchingToken stale } now "token" stale := rfl
    rw [if_neg hstale, Pairing.converse] at hc
    simp only [hostReply] at hc
    rw [htoken, converse_unpair] at hc
    rw [hc]
    refine ⟨?_, rfl, rfl⟩
    simp only [Conversation.unpairs, List.filterMap_cons, List.filterMap_append, unpairs_map]
    simp [SunshineRequest.unpairs?]

end Converse

/-! ### The system -/

/-- The store, and the records of each Sunshine host. -/
structure PairingSystem where
  world : World
  records : String → List SunshineRecord

inductive PairingSystemEvent
  /-- Something happens to the store. -/
  | store (e : Event)
  /-- A `pairLease` that goes through if `LeaseVM` lets it. `host` is the one that answers
  at the VM's Sunshine URL, and it gives the new client the uuid. -/
  | pair (now : Int) (request : PairRequest) (host uuid : String)

namespace PairingSystem

/-- Before the first pairing. The hosts may have clients from elsewhere. -/
def initial (vms : List VM) (ttl : Int) (clients : String → List SunshineClient) :
    PairingSystem :=
  ⟨.initial vms ttl, fun host => (clients host).map (⟨·, none⟩)⟩

/-- The call of `LeaseVM` in `pairLease`. -/
def check (now : Int) (request : PairRequest) : Event :=
  .call (checkEnv now) (.leaseVM request.leaseID request.owner)

/-- The lease, the VM, the PIN and the device name that `pairLease` goes on with. -/
def admitted (sys : PairingSystem) (now : Int) (request : PairRequest) :
    Option (Lease × VM × String × String) :=
  match request.validate with
  | .error _ => none
  | .ok (pin, deviceName) =>
    match sys.world.reply (check now request) with
    | some (.ok (.leaseAndVM lease vm)) => some (lease, vm, pin, deviceName)
    | _ => none

/-- The conversation of a `pairLease` that is admitted. -/
def conversation (sys : PairingSystem) (now : Int) (owner host uuid : String) (lease : Lease)
    (pin deviceName : String) : Conversation :=
  let name := pairingName lease.deviceID
  let records := sys.records host
  Pairing.converse ⟨⟨name, uuid⟩, some (owner, lease.deviceID)⟩ now (records.length + 5)
    (Pairing.start pin name [deviceName] true true now) records

def step (sys : PairingSystem) : PairingSystemEvent → PairingSystem
  | .store e => { sys with world := sys.world.step e }
  | .pair now request host uuid =>
    { world := sys.world.step (check now request)
      records :=
        match sys.admitted now request with
        | none => sys.records
        | some (lease, _, pin, deviceName) =>
          Function.update sys.records host
            (sys.conversation now request.owner host uuid lease pin deviceName).records }

/-- The host gives a new client a uuid that none of its records has. -/
def GivesFreshUUID (sys : PairingSystem) (e : PairingSystemEvent) : Prop :=
  ∀ now request host uuid, e = .pair now request host uuid →
    uuid ≠ "" ∧ ∀ r ∈ sys.records host, r.client.uuid ≠ uuid

/-- The pairing unpairs a client of another owner's pairing. -/
def UnpairsOther (sys : PairingSystem) (e : PairingSystemEvent) : Prop :=
  ∃ now request host uuid lease vm pin deviceName, e = .pair now request host uuid ∧
    sys.admitted now request = some (lease, vm, pin, deviceName) ∧
    ∃ r ∈ sys.records host, ∃ owner deviceID, r.creator = some (owner, deviceID) ∧
      owner ≠ request.owner ∧ r.client.uuid ∈
        (sys.conversation now request.owner host uuid lease pin deviceName).unpairs

/-- On its host, the pairing finds the record of another owner's pairing that was made for
the `deviceId` of its own lease, or that its device name names. -/
def MeetsOther (sys : PairingSystem) (e : PairingSystemEvent) : Prop :=
  ∃ now request host uuid lease vm pin deviceName, e = .pair now request host uuid ∧
    sys.admitted now request = some (lease, vm, pin, deviceName) ∧
    ∃ r ∈ sys.records host, ∃ owner deviceID, r.creator = some (owner, deviceID) ∧
      owner ≠ request.owner ∧ (deviceID = lease.deviceID ∨ deviceName = pairingName deviceID)

theorem givesFreshUUID_store (sys : PairingSystem) (e : Event) :
    sys.GivesFreshUUID (.store e) := by
  intro _ _ _ _ he
  cases he

theorem givesFreshUUID_pair {sys : PairingSystem} {now : Int} {request : PairRequest}
    {host uuid : String} (hne : uuid ≠ "") (h : ∀ r ∈ sys.records host, r.client.uuid ≠ uuid) :
    sys.GivesFreshUUID (.pair now request host uuid) := by
  intro _ _ _ _ he
  cases he
  exact ⟨hne, h⟩

theorem not_meetsOther_store (sys : PairingSystem) (e : Event) : ¬ sys.MeetsOther (.store e) := by
  intro h
  obtain ⟨_, _, _, _, _, _, _, _, he, -⟩ := h
  cases he

/-! ### The records -/

/-- What is known about the records of a host: a pairing's has the name of its `deviceId`,
and a uuid of its own. -/
structure Recorded (records : List SunshineRecord) : Prop where
  name : ∀ r ∈ records, ∀ owner deviceID, r.creator = some (owner, deviceID) →
    r.client.name = pairingName deviceID ∧ r.client.uuid ≠ ""
  uuid : ∀ r ∈ records, r.creator ≠ none → ∀ r' ∈ records, r'.client.uuid = r.client.uuid →
    r' = r

theorem pairingName_ne_empty (deviceID : String) : pairingName deviceID ≠ "" := by
  intro h
  have hlength := congrArg String.length h
  simp [pairingName] at hlength

theorem pairingName_inj {deviceID deviceID' : String}
    (h : pairingName deviceID = pairingName deviceID') : deviceID = deviceID' :=
  (String.append_right_inj _).mp h

/-- The clients that a `pairLease` unpairs, and the records that it leaves. -/
theorem conversation_eq (sys : PairingSystem) (now : Int) (owner host uuid : String)
    (lease : Lease) (pin deviceName : String) :
    let p : Pairing := ⟨pin, pairingName lease.deviceID, [deviceName], .listing⟩
    let stale := p.stale ((sys.records host).map (·.client))
    let c := sys.conversation now owner host uuid lease pin deviceName
    c.unpairs = stale.map (·.uuid) ∧
      c.records = ((sys.records host).filter fun r =>
        !(stale.map (·.uuid)).contains r.client.uuid) ++
          [⟨⟨pairingName lease.deviceID, uuid⟩, some (owner, lease.deviceID)⟩] := by
  intro p stale c
  have hlength : stale.length ≤ (sys.records host).length := calc
    stale.length ≤ ((sys.records host).map (·.client)).length := List.length_filter_le _ _
    _ = (sys.records host).length := List.length_map _
  obtain ⟨fuel, hfuel⟩ := Nat.exists_eq_add_of_le hlength
  have hc := @converse_start ⟨⟨pairingName lease.deviceID, uuid⟩, some (owner, lease.deviceID)⟩
    now pin (pairingName lease.deviceID) [deviceName] (pairingName_ne_empty _)
    (sys.records host) fuel
  have hconversation : c = Pairing.converse
      ⟨⟨pairingName lease.deviceID, uuid⟩, some (owner, lease.deviceID)⟩ now
      (stale.length + fuel + 5)
      (Pairing.start pin (pairingName lease.deviceID) [deviceName] true true now)
      (sys.records host) := by
    rw [← hfuel]
    rfl
  rw [hconversation]
  exact ⟨hc.1, hc.2.1⟩

theorem mem_stale {p : Pairing} {clients : List SunshineClient} {client : SunshineClient} :
    client ∈ p.stale clients ↔ client ∈ clients ∧ client.uuid ≠ "" ∧ client.name ≠ "" ∧
      client.name ∈ p.deviceName :: p.legacyDeviceNames := by
  simp [Pairing.stale, Pairing.wanted]
  tauto

/-- A pairing unpairs another owner's client if and only if it meets its record. -/
theorem unpairsOther_iff {sys : PairingSystem} (h : ∀ host, Recorded (sys.records host))
    (e : PairingSystemEvent) : sys.UnpairsOther e ↔ sys.MeetsOther e := by
  constructor
  · intro hunpairs
    obtain ⟨now, request, host, uuid, lease, vm, pin, deviceName, he, hadmitted, r, hr, owner,
      deviceID, hcreator, howner, huuid⟩ := hunpairs
    refine ⟨now, request, host, uuid, lease, vm, pin, deviceName, he, hadmitted, r, hr, owner,
      deviceID, hcreator, howner, ?_⟩
    rw [(sys.conversation_eq now request.owner host uuid lease pin deviceName).1] at huuid
    obtain ⟨client, hstale, heq⟩ := List.mem_map.mp huuid
    obtain ⟨hmem, -, -, hname⟩ := mem_stale.mp hstale
    obtain ⟨r', hr', rfl⟩ := List.mem_map.mp hmem
    -- the unpaired client is the record's own, for no other has its uuid
    obtain rfl := (h host).uuid r hr (by simp [hcreator]) r' hr' heq
    rw [((h host).name r' hr owner deviceID hcreator).1] at hname
    simp only [List.mem_cons, List.not_mem_nil, or_false] at hname
    exact hname.imp pairingName_inj Eq.symm
  · intro hmeets
    obtain ⟨now, request, host, uuid, lease, vm, pin, deviceName, he, hadmitted, r, hr, owner,
      deviceID, hcreator, howner, hnames⟩ := hmeets
    refine ⟨now, request, host, uuid, lease, vm, pin, deviceName, he, hadmitted, r, hr, owner,
      deviceID, hcreator, howner, ?_⟩
    obtain ⟨hname, huuid⟩ := (h host).name r hr owner deviceID hcreator
    rw [(sys.conversation_eq now request.owner host uuid lease pin deviceName).1]
    refine List.mem_map_of_mem (mem_stale.mpr ⟨List.mem_map_of_mem hr, huuid, ?_, ?_⟩)
    · rw [hname]
      exact pairingName_ne_empty deviceID
    · rw [hname]
      rcases hnames with rfl | rfl
      · exact List.mem_cons_self
      · exact List.mem_cons_of_mem _ List.mem_cons_self

/-- Some records go, and one with a new uuid is added. -/
theorem Recorded.paired {records : List SunshineRecord} (h : Recorded records)
    (keep : SunshineRecord → Bool) {uuid : String} (hne : uuid ≠ "")
    (hnew : ∀ r ∈ records, r.client.uuid ≠ uuid) (owner deviceID : String) :
    Recorded (records.filter keep ++
      [⟨⟨pairingName deviceID, uuid⟩, some (owner, deviceID)⟩]) where
  name := fun r hr owner' deviceID' hcreator => by
    rcases List.mem_append.mp hr with hr | hr
    · exact h.name r (List.mem_of_mem_filter hr) owner' deviceID' hcreator
    · rw [List.mem_singleton.mp hr] at hcreator ⊢
      obtain ⟨-, rfl⟩ := Prod.mk.inj (Option.some.inj hcreator)
      exact ⟨rfl, hne⟩
  uuid := fun r hr hcreator r' hr' heq => by
    rcases List.mem_append.mp hr with hr | hr <;> rcases List.mem_append.mp hr' with hr' | hr'
    · exact h.uuid r (List.mem_of_mem_filter hr) hcreator r' (List.mem_of_mem_filter hr') heq
    -- an old record and the new one have different uuids
    · rw [List.mem_singleton.mp hr'] at heq
      exact absurd heq.symm (hnew r (List.mem_of_mem_filter hr))
    · rw [List.mem_singleton.mp hr] at heq
      exact absurd heq (hnew r' (List.mem_of_mem_filter hr'))
    · rw [List.mem_singleton.mp hr, List.mem_singleton.mp hr']

/-- **Step lemma.** -/
theorem recorded_step {sys : PairingSystem} (h : ∀ host, Recorded (sys.records host))
    {e : PairingSystemEvent} (hfresh : sys.GivesFreshUUID e) (host : String) :
    Recorded ((sys.step e).records host) := by
  cases e with
  | store ev => exact h host
  | pair now request host' uuid =>
      simp only [step]
      cases hadmitted : sys.admitted now request with
      | none => exact h host
      | some p =>
          obtain ⟨lease, vm, pin, deviceName⟩ := p
          obtain ⟨hne, hnew⟩ := hfresh now request host' uuid rfl
          dsimp only
          by_cases hhost : host = host'
          · subst hhost
            rw [Function.update_self,
              (sys.conversation_eq now request.owner host uuid lease pin deviceName).2]
            exact (h host).paired _ hne hnew request.owner lease.deviceID
          · rw [Function.update_of_ne hhost]
            exact h host

end PairingSystem

/-- **Isolation of pairings.** Along every history, provided that the hosts give new
clients fresh uuids, no pairing unpairs a client of another owner's pairing if and only if
none meets such a client's record: on its host, made for the same `deviceId`, or named by
its own device name. -/
theorem pairings_isolated_iff (vms : List VM) (ttl : Int)
    (clients : String → List SunshineClient) {es : List PairingSystemEvent}
    (hfresh : AllSteps PairingSystem.step PairingSystem.GivesFreshUUID
      (.initial vms ttl clients) es) :
    AllSteps PairingSystem.step (fun sys e => ¬ sys.UnpairsOther e) (.initial vms ttl clients) es ↔
      AllSteps PairingSystem.step (fun sys e => ¬ sys.MeetsOther e) (.initial vms ttl clients)
        es := by
  have hrecorded : ∀ host, PairingSystem.Recorded
      ((PairingSystem.initial vms ttl clients).records host) := by
    intro host
    constructor
    · intro r hr owner deviceID hcreator
      obtain ⟨client, -, rfl⟩ := List.mem_map.mp hr
      exact absurd hcreator (by simp)
    · intro r hr hcreator
      obtain ⟨client, -, rfl⟩ := List.mem_map.mp hr
      exact absurd rfl hcreator
  -- both sides are about every step, so it is enough to compare them step by step
  generalize PairingSystem.initial vms ttl clients = sys at hfresh hrecorded
  induction es generalizing sys with
  | nil => exact Iff.rfl
  | cons e es ih =>
      exact and_congr (not_congr (PairingSystem.unpairsOther_iff hrecorded e))
        (ih _ hfresh.2 (PairingSystem.recorded_step hrecorded hfresh.1))

/-- The first client pairs and goes. Then a client of another owner pairs on the same VM. -/
def pairedInTurn (deviceID deviceName : String) : List PairingSystemEvent :=
  [.store firstServed,
    .pair 1 testPairRequest "host" "uuid-1",
    .store (.call (testEnv 2 none none) (.release "a" "user-1")),
    .store (.call (testEnv 3 none (some "b")) (.createOrRecover "user-2" deviceID deviceName)),
    .pair 4 ⟨"user-2", "b", some ("5678", deviceName)⟩ "host" "uuid-2"]

theorem pairings_isolated_in_turn :
    AllSteps PairingSystem.step (fun sys e => ¬ sys.UnpairsOther e)
      (.initial testPool minute fun _ => []) (pairedInTurn "device-2" "two") := by
  have hfresh : AllSteps PairingSystem.step PairingSystem.GivesFreshUUID
      (.initial testPool minute fun _ => []) (pairedInTurn "device-2" "two") :=
    ⟨PairingSystem.givesFreshUUID_store _ _,
      PairingSystem.givesFreshUUID_pair (by decide) (by decide +kernel),
      PairingSystem.givesFreshUUID_store _ _, PairingSystem.givesFreshUUID_store _ _,
      PairingSystem.givesFreshUUID_pair (by decide) (by decide +kernel), trivial⟩
  refine (pairings_isolated_iff testPool minute (fun _ => []) hfresh).mpr
    ⟨PairingSystem.not_meetsOther_store _ _, ?_, PairingSystem.not_meetsOther_store _ _,
      PairingSystem.not_meetsOther_store _ _, ?_, trivial⟩
  · intro h
    obtain ⟨_, _, _, _, _, _, _, _, he, -, r, hr, -⟩ := h
    cases he
    exact nomatch hr
  · intro h
    obtain ⟨_, _, _, _, lease, _, _, deviceName, he, hadmitted, r, hr, owner, deviceID, hcreator,
      -, hnames⟩ := h
    cases he
    obtain rfl : r = ⟨⟨"GilStreaming-device-1", "uuid-1"⟩, some ("user-1", "device-1")⟩ :=
      List.mem_singleton.mp hr
    cases hcreator
    cases hadmitted
    revert hnames
    decide

/-- The second client has the `deviceId` of the first one, or calls itself as the first
one's record is called: it unpairs the first one. -/
theorem unpaired_in_turn :
    ¬ AllSteps PairingSystem.step (fun sys e => ¬ sys.UnpairsOther e)
      (.initial testPool minute fun _ => []) (pairedInTurn "device-1" "two") ∧
    ¬ AllSteps PairingSystem.step (fun sys e => ¬ sys.UnpairsOther e)
      (.initial testPool minute fun _ => [])
      (pairedInTurn "device-2" "GilStreaming-device-1") := by
  constructor
  · intro h
    obtain ⟨-, -, -, -, hlast, -⟩ := h
    exact hlast ⟨_, _, _, _, _, _, _, _, rfl, rfl,
      ⟨⟨"GilStreaming-device-1", "uuid-1"⟩, some ("user-1", "device-1")⟩, by decide +kernel, _, _,
      rfl, by decide, by decide +kernel⟩
  · intro h
    obtain ⟨-, -, -, -, hlast, -⟩ := h
    exact hlast ⟨_, _, _, _, _, _, _, _, rfl, rfl,
      ⟨⟨"GilStreaming-device-1", "uuid-1"⟩, some ("user-1", "device-1")⟩, by decide +kernel, _, _,
      rfl, by decide, by decide +kernel⟩

end GilStreaming.Coordinator
