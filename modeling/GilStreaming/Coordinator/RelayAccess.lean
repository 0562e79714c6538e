import GilStreaming.Coordinator.AuthSystem
import GilStreaming.Coordinator.RelayRevocation
import GilStreaming.Lib.GoStrconv

/-!
# GilStreaming.Coordinator.RelayAccess

Which requests `Server.relay` dials a VM for.

A request comes through `Server.auth`, which turns its bearer token into an owner. `relay`
itself reads three query parameters and, for the offset, drops the error of
`strconv.Atoi`: a text that is not a number is the offset zero, which is allowed for TCP.
Everything else is guarded, so that the requests for which this text gets through are
exactly those that are served where they should be refused (`relay_guarded_iff`).
-/

namespace GilStreaming.Coordinator

/-! ### The handler -/

/-- What `Server.auth` and `Server.relay` read of a request. A header or a parameter that
is missing is `""`. -/
structure RelayHTTPRequest where
  authorization : String
  leaseID : String
  transport : String
  offset : String
  deriving DecidableEq, Repr

/-- What a request to relay leads to first: `writeError`, or `net.DialTimeout`. -/
inductive RelayAnswer
  | error (status : Nat) (code message : String)
  | dial (network address : String)
  deriving DecidableEq, Repr

/-- `Server.auth`: the owner that `next` is called with. -/
def serverAuth (b : AuthBroker) (authorization : String) (now : Int) :
    AuthBroker × Except RelayAnswer String :=
  if !"Bearer ".toList.isPrefixOf authorization.toList then
    (b, .error (.error 401 "UNAUTHORIZED" "missing bearer token"))
  else
    let (b, owner) := b.authenticateToken
      (String.ofList (authorization.toList.drop "Bearer ".length)) now
    if owner = "" then (b, .error (.error 401 "UNAUTHORIZED" "invalid bearer token"))
    else (b, .ok owner)

/-- The request as `Server.relay` goes on with it. -/
def RelayHTTPRequest.relayRequest (r : RelayHTTPRequest) (owner : String) : RelayRequest :=
  ⟨owner, r.leaseID, r.transport, (atoi r.offset.toList).1⟩

/-- `writeError`, except after a failed upgrade. -/
def RelayRefusal.answer : RelayRefusal → Option RelayAnswer
  | .invalidChannel => some (.error 400 "INVALID_RELAY" "invalid relay channel")
  | .leaseExpired => some (.error 410 "LEASE_EXPIRED" "lease is missing or expired")
  | .forbidden => some (.error 403 "FORBIDDEN" "lease belongs to another user")
  | .internalError => some (.error 500 "INTERNAL_ERROR" "could not validate relay lease")
  | .invalidPort => some (.error 400 "INVALID_RELAY" "relay target port is invalid")
  | .vmUnreachable =>
    some (.error 502 "VM_UNREACHABLE" "assigned VM relay channel is unavailable")
  | .upgradeFailed => none

/-- The address that is dialled for the request. -/
def RelayRequest.target (request : RelayRequest) (vm : VM) : String :=
  joinHostPort vm.streamAddress (itoa (vm.streamPort + request.offset))

/-- What a request shows at once. -/
def Relay.answer (request : RelayRequest) : Relay → Option RelayAnswer
  | .refused why => why.answer
  | .dialing _ vm => some (.dial request.transport (request.target vm))
  | _ => none

/-- `Server.auth` at the instant `now`, and then `Server.relay`, up to what it answers or
dials. `LeaseVM` reads the clock as `now'`. -/
def serveRelay (b : AuthBroker) (w : World) (r : RelayHTTPRequest) (now now' : Int) :
    Option RelayAnswer :=
  match (serverAuth b r.authorization now).2 with
  | .error answer => some answer
  | .ok owner =>
    let sys : RelaySystem := ⟨w, r.relayRequest owner, .requested⟩
    (sys.step (.connect now')).relay.answer sys.request

/-! ### The lease behind a request -/

/-- The owner has a live lease with the id, on this VM, which is available. -/
def World.Serves (w : World) (owner id : String) (now : Int) (lease : Lease) (vm : VM) : Prop :=
  ∃ s, w.process = some s ∧ s.leases.lookup id = some lease ∧ lease.owner = owner ∧
    now < lease.expiresAt ∧ s.availableVM lease.vmID = some vm

theorem leaseVM_eq_ok {s : Store} {disk : Disk} {env : CallEnv} {id owner : String}
    {r : Lease × VM} :
    (s.leaseVM disk env id owner).result = .ok r ↔
      s.leases.lookup id = some r.1 ∧ r.1.owner = owner ∧ env.now < r.1.expiresAt ∧
        s.availableVM r.1.vmID = some r.2 := by
  constructor
  · intro h
    obtain ⟨hl, howner, hvm⟩ := leaseVM_ok h
    obtain ⟨hl, hlive⟩ := lookup_reapLocked.mp hl
    exact ⟨hl, howner, hlive, hvm⟩
  · intro h
    obtain ⟨hl, howner, hlive, hvm⟩ := h
    have hreaped := lookup_reapLocked.mpr ⟨hl, hlive⟩
    have havail : (s.reapLocked env.now).availableVM r.1.vmID = some r.2 := hvm
    simp [Store.leaseVM, hreaped, howner, havail]

theorem check_reply {sys : RelaySystem} {now : Int} {lease : Lease} {vm : VM} :
    sys.world.reply (sys.check now) = some (.ok (.leaseAndVM lease vm)) ↔
      sys.world.Serves sys.request.owner sys.request.leaseID now lease vm := by
  constructor
  · intro h
    obtain ⟨_, _, s, hcall, hs, hr⟩ := World.reply_eq_some h
    cases hcall
    obtain ⟨r, hok, heq⟩ := Except.map_eq_ok hr
    obtain ⟨rfl, rfl⟩ := Reply.leaseAndVM.inj heq
    exact ⟨s, hs, leaseVM_eq_ok.mp hok⟩
  · intro h
    obtain ⟨s, hs, hserves⟩ := h
    have hr : (s.leaseVM sys.world.disk (checkEnv now) sys.request.leaseID
        sys.request.owner).result = .ok (lease, vm) := leaseVM_eq_ok.mpr hserves
    simp [World.reply, RelaySystem.check, hs, Call.exec, hr, Except.map]

namespace RelaySystem

variable {sys : RelaySystem} {now : Int}

theorem connect_relay (hrelay : sys.relay = .requested) :
    (sys.step (.connect now)).relay =
      if sys.request.leaseID = "" ∨
          !relayAllowedOffsets sys.request.transport sys.request.offset then
        .refused .invalidChannel
      else sys.admitted (sys.world.reply (sys.check now)) := by
  simp only [step, hrelay]
  split <;> rfl

/-- A request that is admitted is dialled for, or refused with an answer. -/
theorem admitted_answer (sys : RelaySystem) (reply : Option (Except StoreError Reply)) :
    (∃ lease vm, reply = some (.ok (.leaseAndVM lease vm)) ∧
      1 ≤ vm.streamPort + sys.request.offset ∧ vm.streamPort + sys.request.offset ≤ 65535 ∧
      (sys.admitted reply).answer sys.request =
        some (.dial sys.request.transport (sys.request.target vm))) ∨
    ∃ status code message,
      (sys.admitted reply).answer sys.request = some (.error status code message) := by
  unfold admitted
  split
  · next lease vm =>
      dsimp only
      split
      · exact .inr ⟨_, _, _, rfl⟩
      · next hport => exact .inl ⟨lease, vm, rfl, by omega, by omega, rfl⟩
  · next err => cases err <;> exact .inr ⟨_, _, _, rfl⟩
  · exact .inr ⟨_, _, _, rfl⟩

theorem admitted_dial {lease : Lease} {vm : VM} (hmin : 1 ≤ vm.streamPort + sys.request.offset)
    (hmax : vm.streamPort + sys.request.offset ≤ 65535) :
    (sys.admitted (some (.ok (.leaseAndVM lease vm)))).answer sys.request =
      some (.dial sys.request.transport (sys.request.target vm)) := by
  have hport : ¬ (vm.streamPort + sys.request.offset < 1 ∨
      vm.streamPort + sys.request.offset > 65535) := by omega
  simp only [admitted, if_neg hport, Relay.answer]

end RelaySystem

/-! ### Offsets -/

theorem relayAllowedOffsets_bound {transport : String} {offset : Int}
    (h : relayAllowedOffsets transport offset = true) : -5 ≤ offset ∧ offset ≤ 21 := by
  unfold relayAllowedOffsets at h
  split at h
  · have hmem := of_decide_eq_true h
    simp only [List.mem_cons, List.not_mem_nil, or_false] at hmem
    omega
  · split at h
    · have hmem := of_decide_eq_true h
      simp only [List.mem_cons, List.not_mem_nil, or_false] at hmem
      omega
    · exact absurd h (by simp)

/-- An offset that is allowed was written as a decimal integer, or not as one at all. -/
theorem relayAllowedOffsets_atoi {transport : String} {text : List Char}
    (h : relayAllowedOffsets transport (atoi text).1 = true) :
    IsDecimal text (atoi text).1 ∨ (atoi text).2 = some .errSyntax ∧ transport = "tcp" := by
  have hbound := relayAllowedOffsets_bound h
  cases herr : (atoi text).2 with
  | none => exact .inl (atoi_none herr)
  | some err =>
      cases err with
      | errSyntax =>
          refine .inr ⟨rfl, ?_⟩
          rw [(atoi_errSyntax herr).1] at h
          by_contra hudp
          simp [relayAllowedOffsets, hudp] at h
      | errRange =>
          rcases atoi_errRange herr with hend | hend <;> rw [hend] at hbound
          · exact absurd hbound.2 (by decide)
          · exact absurd hbound.1 (by decide)

/-! ### The guard -/

/-- The connection is to the VM of a live lease of the owner, at an offset that the text of
the request names and its transport allows. -/
def RelayAuthorised (w : World) (owner : String) (r : RelayHTTPRequest) (now : Int)
    (network address : String) : Prop :=
  ∃ lease vm offset, w.Serves owner r.leaseID now lease vm ∧ lease.id = r.leaseID ∧
    IsDecimal r.offset.toList offset ∧ relayAllowedOffsets r.transport offset = true ∧
    1 ≤ vm.streamPort + offset ∧ vm.streamPort + offset ≤ 65535 ∧
    network = r.transport ∧
    address = joinHostPort vm.streamAddress (itoa (vm.streamPort + offset))

/-- The request is answered with an error, or what is dialled is authorised for the owner
of its token. -/
def RelayGuarded (b : AuthBroker) (w : World) (r : RelayHTTPRequest) (now now' : Int) : Prop :=
  (∃ status code message, serveRelay b w r now now' = some (.error status code message)) ∨
  ∃ network address owner, serveRelay b w r now now' = some (.dial network address) ∧
    (serverAuth b r.authorization now).2 = .ok owner ∧
    RelayAuthorised w owner r now' network address

/-- The offset is no number, and nothing else stands against the request. -/
def OffsetUnchecked (b : AuthBroker) (w : World) (r : RelayHTTPRequest) (now now' : Int) :
    Prop :=
  (atoi r.offset.toList).2 = some .errSyntax ∧ r.transport = "tcp" ∧ r.leaseID ≠ "" ∧
  ∃ owner lease vm, (serverAuth b r.authorization now).2 = .ok owner ∧
    w.Serves owner r.leaseID now' lease vm ∧ 1 ≤ vm.streamPort ∧ vm.streamPort ≤ 65535

theorem serveRelay_error {b : AuthBroker} {w : World} {r : RelayHTTPRequest} {now now' : Int}
    {answer : RelayAnswer} (h : (serverAuth b r.authorization now).2 = .error answer) :
    ∃ status code message, serveRelay b w r now now' = some (.error status code message) := by
  have hanswer : serveRelay b w r now now' = some answer := by simp only [serveRelay, h]
  unfold serverAuth at h
  split at h
  · cases h
    exact ⟨_, _, _, hanswer⟩
  · dsimp only at h
    split at h
    · cases h
      exact ⟨_, _, _, hanswer⟩
    · exact absurd h (by simp)

theorem serveRelay_ok {b : AuthBroker} {w : World} {r : RelayHTTPRequest} {now now' : Int}
    {owner : String} (h : (serverAuth b r.authorization now).2 = .ok owner) :
    let sys : RelaySystem := ⟨w, r.relayRequest owner, .requested⟩
    serveRelay b w r now now' =
      if r.leaseID = "" ∨ !relayAllowedOffsets r.transport (atoi r.offset.toList).1 then
        some (.error 400 "INVALID_RELAY" "invalid relay channel")
      else (sys.admitted (w.reply (sys.check now'))).answer sys.request := by
  intro sys
  have hserve : serveRelay b w r now now' =
      (sys.step (.connect now')).relay.answer sys.request := by
    simp only [serveRelay, h]
    rfl
  rw [hserve, RelaySystem.connect_relay rfl, apply_ite (Relay.answer sys.request)]
  rfl

/-- **Relay authorisation.** For every reachable store and session state, a request to
relay is guarded if and only if it is not one whose offset goes unchecked. -/
theorem relay_guarded_iff (vms : List VM) (ttl : Int) (es : List Event) (b : AuthBroker)
    (logins : List AuthEvent) (r : RelayHTTPRequest) (now now' : Int) :
    let w := (World.initial vms ttl).run es
    let broker := ((AuthSystem.initial b).run logins).broker
    RelayGuarded broker w r now now' ↔ ¬ OffsetUnchecked broker w r now now' := by
  intro w broker
  have hsound : w.Sound := World.run_sound vms ttl es
  cases hauth : (serverAuth broker r.authorization now).2 with
  | error answer =>
      refine iff_of_true (.inl (serveRelay_error hauth)) fun h => ?_
      obtain ⟨-, -, -, owner, lease, vm, howner, -⟩ := h
      exact absurd (hauth.symm.trans howner) (by simp)
  | ok owner =>
      have hserve := @serveRelay_ok broker w r now now' owner hauth
      dsimp only at hserve
      by_cases hchannel : r.leaseID = "" ∨
          !relayAllowedOffsets r.transport (atoi r.offset.toList).1
      · rw [if_pos hchannel] at hserve
        refine iff_of_true (.inl ⟨_, _, _, hserve⟩) fun h => ?_
        obtain ⟨herr, htcp, hid, -⟩ := h
        rw [(atoi_errSyntax herr).1, htcp] at hchannel
        exact absurd hchannel (by simp [hid, relayAllowedOffsets])
      · rw [if_neg hchannel] at hserve
        obtain ⟨hid, hallowed⟩ := not_or.mp hchannel
        rw [Bool.not_eq_true, Bool.not_eq_false'] at hallowed
        set sys : RelaySystem := ⟨w, r.relayRequest owner, .requested⟩ with hsys
        rcases sys.admitted_answer (w.reply (sys.check now')) with
          ⟨lease, vm, hreply, hmin, hmax, hdial⟩ | ⟨status, code, message, herror⟩
        · have hserves : w.Serves owner r.leaseID now' lease vm := check_reply.mp hreply
          rw [hdial] at hserve
          rcases relayAllowedOffsets_atoi hallowed with hdecimal | ⟨herr, htcp⟩
          · refine iff_of_true (.inr ⟨_, _, owner, hserve, hauth, lease, vm, _, hserves, ?_,
              hdecimal, hallowed, hmin, hmax, rfl, rfl⟩) fun h => ?_
            · obtain ⟨s, hs, hl, -⟩ := hserves
              exact (hsound.memory s hs).own_id hl
            · exact (atoi_errSyntax h.1).2 _ hdecimal
          · have hzero : sys.request.offset = 0 := (atoi_errSyntax herr).1
            rw [hzero, Int.add_zero] at hmin hmax
            refine iff_of_false (fun h => ?_) (not_not.mpr
              ⟨herr, htcp, hid, owner, lease, vm, hauth, hserves, hmin, hmax⟩)
            rcases h with ⟨_, _, _, h⟩ | ⟨_, _, _, -, -, _, _, offset, -, -, hdecimal, -⟩
            · exact absurd (hserve.symm.trans h) (by simp)
            · exact (atoi_errSyntax herr).2 offset hdecimal
        · rw [herror] at hserve
          refine iff_of_true (.inl ⟨_, _, _, hserve⟩) fun h => ?_
          obtain ⟨herr, -, -, owner', lease, vm, howner, hserves, hmin, hmax⟩ := h
          obtain rfl : owner = owner' := Except.ok.inj (hauth.symm.trans howner)
          have hzero : sys.request.offset = 0 := (atoi_errSyntax herr).1
          have hreply : w.reply (sys.check now') = some (.ok (.leaseAndVM lease vm)) :=
            check_reply.mpr hserves
          rw [hreply, RelaySystem.admitted_dial (by omega) (by omega)] at herror
          exact absurd herror (by simp)

/-- The user of the test's login asks for a relay over TCP, with a parameter missing. -/
def testRelayRequest : RelayHTTPRequest :=
  ⟨"Bearer " ++ randomID (testBytes 3), "a", "tcp", ""⟩

/-- The VM's base port is dialled for the user who has a lease and names no offset. -/
theorem relay_dials_without_offset :
    ¬ RelayGuarded ((AuthSystem.initial testBroker).run testLogin).broker
      ((World.initial testPool minute).run
        [.call (testEnv 0 none (some "a")) (.createOrRecover "user-123" "device-1" "one")])
      testRelayRequest 5 5 := by
  have hdial : serveRelay ((AuthSystem.initial testBroker).run testLogin).broker
      ((World.initial testPool minute).run
        [.call (testEnv 0 none (some "a")) (.createOrRecover "user-123" "device-1" "one")])
      testRelayRequest 5 5 = some (.dial "tcp" "vm1:47989") := by
    decide +kernel
  intro h
  rcases h with ⟨_, _, _, h⟩ | ⟨_, _, _, -, -, _, _, offset, -, -, hdecimal, -⟩
  · exact absurd (hdial.symm.trans h) (by simp)
  · exact (atoi_errSyntax (by decide)).2 offset hdecimal

end GilStreaming.Coordinator
