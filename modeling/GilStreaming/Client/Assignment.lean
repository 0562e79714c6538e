import GilStreaming.Client.ClientSteps
import GilStreaming.Lib.Trace

/-!
# GilStreaming.Client.Assignment

What the client is connected to, and what a step can do to it.

An `Assignment` is the part of the client that decides whether it may use a VM: its token,
in memory and saved, its lease, the relay bridge and the heartbeats. Every event is one of
a few changes to it, which `GilCoordinator.change` reads off the event and the state it
comes to. `assignment_step` says that the step makes that change, and `assignedHosts_step`
that only a `connect` hands a host to the rest of the program. What is proved about
sessions and leases is proved about the changes.
-/

namespace GilStreaming.Client

open GilStreaming.Trace

/-- What decides whether the client may use a VM. -/
structure Assignment where
  accessToken : String
  /-- The token in the settings. -/
  savedToken : String
  leaseId : String
  relayBridge : RelayBridge
  heartbeatTimer : Bool
  deriving DecidableEq, Repr

/-- What can happen to it. -/
inductive Change
  | stay
  /-- The lease is given up, or lost. -/
  | drop
  /-- The lease is given up, and the session. -/
  | signOut
  /-- A lease request finds the session expired. -/
  | expire
  | signIn (token : String)
  /-- The coordinator has answered with a lease; nothing is connected yet. -/
  | grant (leaseId : String)
  /-- The relay bridge to the host does not come up. -/
  | unreachable
  /-- A host of the lease is connected to, over the bridge or past it. -/
  | connect (leaseId : String) (bridge : RelayBridge)
  deriving DecidableEq, Repr

namespace Change

def apply (a : Assignment) : Change → Assignment
  | stay => a
  | drop => { a with leaseId := "", relayBridge := .stopped, heartbeatTimer := false }
  | signOut => ⟨"", "", "", .stopped, false⟩
  | expire => { a with accessToken := "", savedToken := "", relayBridge := .stopped }
  | signIn token =>
    { a with
      accessToken := token
      savedToken := if token = "" then a.savedToken else token }
  | grant leaseId => { a with leaseId := leaseId }
  | unreachable => { a with relayBridge := .stopped }
  | connect leaseId bridge =>
    { a with leaseId := leaseId, relayBridge := bridge, heartbeatTimer := true }

/-- The hosts that the change hands over. -/
def hosts : Change → Nat
  | connect _ _ => 1
  | _ => 0

/-- The lease after the change, from the one before it. -/
def lease (leaseId : String) : Change → String
  | drop => ""
  | signOut => ""
  | grant leaseId' => leaseId'
  | connect leaseId' _ => leaseId'
  | _ => leaseId

theorem apply_leaseId (a : Assignment) (x : Change) :
    (x.apply a).leaseId = x.lease a.leaseId := by
  cases x <;> rfl

end Change

def Shown.isAssignedHost : Shown → Bool
  | .assignedHost _ _ => true
  | _ => false

namespace GilCoordinator

variable (c : GilCoordinator)

def assignment : Assignment :=
  ⟨c.accessToken, c.settings.accessToken, c.leaseId, c.relayBridge, c.heartbeatTimer⟩

/-- How often `assignedHost` is emitted. -/
def assignedHosts : Nat := c.shown.countP Shown.isAssignedHost

/-! ### The change that an event makes -/

/-- The coordinator's answer to a lease request cannot be used. -/
def InvalidAssignment (reply : NetworkReply) : Prop :=
  reply.body.string "leaseId" = "" ∨ (reply.body.object "host").string "address" = "" ∨
    (reply.body.object "host").int "port" < 1 ∨ (reply.body.object "host").int "port" > 65535

instance (reply : NetworkReply) : Decidable (InvalidAssignment reply) :=
  inferInstanceAs (Decidable (_ ∨ _))

/-- The host of the answer is connected to without a probe. -/
def Direct (reply : NetworkReply) : Prop :=
  c.useLanCoordinator = true ∨ (reply.body.object "relay").isEmpty = true

instance (reply : NetworkReply) : Decidable (c.Direct reply) :=
  inferInstanceAs (Decidable (_ ∨ _))

/-- The change made by a reply. -/
def replyChange (reply : NetworkReply) : ClientCall → Change
  | .devLogin _ =>
    if reply.error ≠ .noError then .stay else .signIn (reply.body.string "accessToken")
  | .pollLogin _ =>
    if reply.error ≠ .noError then .stay
    else if reply.body.string "state" = "authenticated" then
      .signIn (reply.body.string "accessToken")
    else .stay
  | .requestVm _ _ =>
    if reply.error ≠ .noError then if reply.statusCode = 401 then .expire else .stay
    else if InvalidAssignment reply ∨ ¬ c.Direct reply ∨ c.accessToken = "" then
      .grant (reply.body.string "leaseId")
    else .connect (reply.body.string "leaseId") .stopped
  | .heartbeat _ =>
    if reply.error ≠ .noError then if reply.statusCode = 401 then .signOut else .drop else .stay
  | _ => .stay

/-- The change made by a probe. -/
def probeChange (p : RouteProbe) (useRelay : Bool) (env : BridgeEnv) : Change :=
  if c.leaseId ≠ p.leaseId ∨ c.accessToken = "" then .stay
  else if useRelay then
    match RelayBridge.start env p.relayUrl c.accessToken p.leaseId p.relayBasePort with
    | (_, some _) => .unreachable
    | (bridge, none) => .connect p.leaseId bridge
  else .connect p.leaseId .stopped

/-- The change made by an event. -/
def change : ClientEvent → Change
  | .releaseLease => if c.leaseId = "" ∨ c.accessToken = "" then .stay else .drop
  | .aboutToQuit => if c.leaseId = "" ∨ c.accessToken = "" then .stay else .drop
  | .logout => .signOut
  | .setUseLanCoordinator enabled => if c.useLanCoordinator = enabled then .stay else .drop
  | .finished i reply _ =>
    match c.replies[i]? with
    | some p => if p.state = .waiting then c.replyChange reply p.call else .stay
    | none => .stay
  | .probed i useRelay env =>
    match c.probes[i]? with
    | some p => if p.finished then .stay else c.probeChange p useRelay env
    | none => .stay
  | _ => .stay

/-! ### Frames -/

@[simp] theorem emit_assignment (s : Shown) : (c.emit s).assignment = c.assignment := rfl

@[simp] theorem setBusy_assignment (busy : Bool) :
    (c.setBusy busy).assignment = c.assignment := by
  unfold setBusy
  split <;> rfl

@[simp] theorem setStatus_assignment (status : String) :
    (c.setStatus status).assignment = c.assignment := by
  unfold setStatus
  split <;> rfl

@[simp] theorem fail_assignment (message : String) :
    (c.fail message).assignment = c.assignment := by
  simp [fail]

/-- The helpers, as one update each. -/
theorem setBusy_eq (busy : Bool) :
    c.setBusy busy = { c with
      busy := busy
      shown := c.shown ++ if c.busy ≠ busy then [.busyChanged] else [] } := by
  unfold setBusy
  split
  · rfl
  · next h =>
      obtain rfl := not_not.mp h
      simp

theorem setStatus_eq (status : String) :
    c.setStatus status = { c with
      statusText := status
      shown := c.shown ++ if c.statusText ≠ status then [.statusTextChanged] else [] } := by
  unfold setStatus
  split
  · rfl
  · next h =>
      obtain rfl := not_not.mp h
      simp

@[simp] theorem send_assignment (call : ClientCall) (authenticated : Bool) :
    (c.send call authenticated).assignment = c.assignment := rfl

@[simp] theorem requestVm_assignment : c.requestVm.assignment = c.assignment := by
  unfold requestVm
  split <;> simp

@[simp] theorem clearSession_assignment :
    c.clearSession.assignment = { c.assignment with accessToken := "", savedToken := "" } := by
  unfold clearSession
  dsimp only
  split <;> rfl

/-- What is shown to the outside, apart from the hosts. -/
theorem assignedHosts_emit {s : Shown} (h : s.isAssignedHost = false) :
    (c.emit s).assignedHosts = c.assignedHosts := by
  simp [assignedHosts, emit, List.countP_append, h]

theorem assignedHosts_emit_assignedHost (address : String) (port : Int) :
    (c.emit (.assignedHost address port)).assignedHosts = c.assignedHosts + 1 := by
  simp [assignedHosts, emit, List.countP_append, Shown.isAssignedHost]

@[simp] theorem setBusy_assignedHosts (busy : Bool) :
    (c.setBusy busy).assignedHosts = c.assignedHosts := by
  unfold setBusy
  split
  · exact assignedHosts_emit _ rfl
  · rfl

@[simp] theorem setStatus_assignedHosts (status : String) :
    (c.setStatus status).assignedHosts = c.assignedHosts := by
  unfold setStatus
  split
  · exact assignedHosts_emit _ rfl
  · rfl

@[simp] theorem fail_assignedHosts (message : String) :
    (c.fail message).assignedHosts = c.assignedHosts := by
  rw [fail, assignedHosts_emit _ rfl]
  simp

@[simp] theorem send_assignedHosts (call : ClientCall) (authenticated : Bool) :
    (c.send call authenticated).assignedHosts = c.assignedHosts := rfl

@[simp] theorem clearSession_assignedHosts :
    c.clearSession.assignedHosts = c.assignedHosts := by
  unfold clearSession
  dsimp only
  rw [assignedHosts_emit _ rfl, assignedHosts_emit _ rfl, assignedHosts_emit _ rfl]
  split
  · exact assignedHosts_emit _ rfl
  · rfl

@[simp] theorem requestVm_assignedHosts : c.requestVm.assignedHosts = c.assignedHosts := by
  unfold requestVm
  split <;> simp

/-! ### The handlers -/

/-- From `c` to `c'` the assignment makes a change. -/
structure Makes (c c' : GilCoordinator) (x : Change) : Prop where
  assignment : c'.assignment = x.apply c.assignment
  assignedHosts : c'.assignedHosts = c.assignedHosts + x.hosts

variable {c} {c' : GilCoordinator}

theorem makes_stay (h : c'.assignment = c.assignment)
    (hhosts : c'.assignedHosts = c.assignedHosts) : c.Makes c' .stay := ⟨h, hhosts⟩

theorem Makes.of_eq {x : Change} {c'' : GilCoordinator} (h : c.Makes c' x)
    (heq : c''.assignment = c'.assignment) (hhosts : c''.assignedHosts = c'.assignedHosts) :
    c.Makes c'' x := ⟨heq.trans h.assignment, hhosts.trans h.assignedHosts⟩

variable (c)

theorem releaseLease_makes : c.Makes c.releaseLease (c.change .releaseLease) := by
  unfold releaseLease change
  dsimp only
  split
  · exact makes_stay rfl rfl
  · split
    · exact ⟨rfl, assignedHosts_emit _ rfl⟩
    · exact ⟨rfl, rfl⟩

theorem logout_makes : c.Makes c.logout .signOut := by
  unfold logout
  dsimp only
  constructor
  · simp only [emit_assignment, setStatus_assignment, setBusy_assignment, clearSession_assignment]
    split <;> rfl
  · rw [assignedHosts_emit _ rfl, setStatus_assignedHosts, setBusy_assignedHosts,
      clearSession_assignedHosts]
    split <;> rfl

theorem setUseLanCoordinator_makes (enabled : Bool) :
    c.Makes (c.setUseLanCoordinator enabled) (c.change (.setUseLanCoordinator enabled)) := by
  unfold setUseLanCoordinator change
  dsimp only
  split
  · exact makes_stay rfl rfl
  · constructor
    · simp only [emit_assignment, setStatus_assignment, setBusy_assignment]
      rfl
    · rw [assignedHosts_emit _ rfl, assignedHosts_emit _ rfl, assignedHosts_emit _ rfl,
        setStatus_assignedHosts, setBusy_assignedHosts]
      rfl

theorem handleAuthenticationResponse_makes (reply : NetworkReply) (deviceId : String) :
    c.Makes (c.handleAuthenticationResponse reply) (c.replyChange reply (.devLogin deviceId)) := by
  unfold handleAuthenticationResponse replyChange
  dsimp only
  split
  · exact makes_stay (by simp) (by simp)
  · split
    · next htoken =>
        refine ⟨?_, by rw [fail_assignedHosts]; rfl⟩
        rw [fail_assignment, Change.apply, if_pos htoken]
        rfl
    · next htoken =>
        constructor
        · rw [requestVm_assignment, Change.apply, if_neg htoken]
          rfl
        · rw [requestVm_assignedHosts, assignedHosts_emit _ rfl, assignedHosts_emit _ rfl,
            assignedHosts_emit _ rfl, assignedHosts_emit _ rfl]
          rfl

variable {c} in
/-- The rest of `completeAssignment` hands over one host. -/
theorem assigned_makes {p : RouteProbe} {bridge : RelayBridge} (address : String) (port : Int)
    (h : c'.assignment = { c.assignment with relayBridge := bridge })
    (hhosts : c'.assignedHosts = c.assignedHosts) (hlease : c.leaseId = p.leaseId) :
    c.Makes (completeAssignment.assigned p c' address port) (.connect p.leaseId bridge) := by
  unfold completeAssignment.assigned
  constructor
  · rw [setStatus_eq, setBusy_eq, ← hlease]
    exact congrArg (fun a : Assignment => { a with heartbeatTimer := true }) h
  · have hframe := setStatus_assignedHosts (c'.setBusy false)
      s!"Connecting securely to {p.hostName}…"
    rw [setBusy_assignedHosts, hhosts] at hframe
    exact (assignedHosts_emit_assignedHost ..).trans (congrArg (· + 1) hframe)

theorem completeAssignment_makes (p : RouteProbe) (useRelay : Bool) (env : BridgeEnv) :
    c.Makes (c.completeAssignment p useRelay env) (c.probeChange p useRelay env) := by
  unfold completeAssignment probeChange
  split
  · exact makes_stay rfl rfl
  · next hcurrent =>
      have hlease : c.leaseId = p.leaseId := not_not.mp fun h => hcurrent (.inl h)
      have hshown := c.setStatus_assignedHosts "Preparing a fast route through the relay…"
      rw [setStatus_eq] at hshown
      split
      · rw [setStatus_eq]
        dsimp only
        rcases RelayBridge.start_cases env p.relayUrl c.accessToken p.leaseId p.relayBasePort with
          ⟨message, hstart⟩ | ⟨hstart, -⟩
        · simp only [hstart]
          exact ⟨by rw [fail_assignment]; rfl, (fail_assignedHosts ..).trans hshown⟩
        · simp only [hstart]
          exact assigned_makes _ _ rfl hshown hlease
      · exact assigned_makes _ _ rfl rfl hlease

theorem vmRequested_makes (reply : NetworkReply) (env : BridgeEnv) (deviceId name : String) :
    c.Makes (c.vmRequested reply env) (c.replyChange reply (.requestVm deviceId name)) := by
  unfold vmRequested replyChange
  dsimp only
  split
  · split
    · -- 401: the session is cleared, but neither the lease nor the heartbeats
      refine ⟨?_, ?_⟩
      · rw [emit_assignment, fail_assignment, clearSession_assignment]
        rfl
      · rw [assignedHosts_emit _ rfl, fail_assignedHosts, clearSession_assignedHosts]
        rfl
    · split
      · exact makes_stay (by simp) (by simp)
      · split <;> exact makes_stay (by simp) (by simp)
  · split
    · -- the lease is taken over even from an answer that cannot be used
      next hinvalid =>
        rw [if_pos (.inl hinvalid)]
        exact ⟨by rw [fail_assignment]; rfl, by rw [fail_assignedHosts]; rfl⟩
    · next hvalid =>
        split
        · next hdirect =>
            have hmakes := completeAssignment_makes
              { c with leaseId := reply.body.string "leaseId" }
              ⟨(reply.body.object "host").stringOr "name"
                  ((reply.body.object "host").string "address"),
                (reply.body.object "relay").string "url",
                (reply.body.object "relay").int "basePort",
                (reply.body.object "host").string "address",
                (reply.body.object "host").int "port",
                reply.body.string "leaseId", false⟩ false env
            by_cases htoken : c.accessToken = ""
            · rw [if_pos (.inr (.inr htoken))]
              rw [probeChange, if_pos (.inr htoken)] at hmakes
              exact ⟨hmakes.assignment, hmakes.assignedHosts⟩
            · rw [if_neg fun h => h.elim hvalid fun h => h.elim (absurd hdirect) htoken]
              rw [probeChange, if_neg fun h => h.elim (absurd rfl) htoken, if_neg (by simp)]
                at hmakes
              exact ⟨hmakes.assignment, hmakes.assignedHosts⟩
        · next hprobe =>
            rw [if_pos (.inr (.inl hprobe))]
            exact ⟨by rw [setStatus_eq]; rfl, setStatus_assignedHosts _ _⟩

theorem heartbeatSent_makes (reply : NetworkReply) (leaseId : String) :
    c.Makes (c.heartbeatSent reply) (c.replyChange reply (.heartbeat leaseId)) := by
  unfold heartbeatSent replyChange
  dsimp only
  split
  · split
    · constructor
      · have hframe := clearSession_assignment { c with heartbeatTimer := false }
        rw [setStatus_eq]
        exact congrArg (fun a : Assignment => { a with leaseId := "", relayBridge := .stopped })
          hframe
      · exact (assignedHosts_emit _ rfl).trans ((setStatus_assignedHosts _ _).trans
          (clearSession_assignedHosts _))
    · constructor
      · rw [setStatus_eq]
        rfl
      · exact (assignedHosts_emit _ rfl).trans (setStatus_assignedHosts _ _)
  · exact makes_stay rfl rfl

/-- The other replies leave the assignment alone. -/
theorem handleReply_makes (reply : NetworkReply) (env : ReplyEnv) (call : ClientCall) :
    c.Makes (c.handleReply reply env call) (c.replyChange reply call) := by
  cases call with
  | startLogin deviceId deviceName =>
      simp only [handleReply, loginStarted]
      split
      · exact makes_stay (by simp) (by simp)
      · split
        · exact makes_stay (fail_assignment ..) (fail_assignedHosts ..)
        · exact makes_stay (by rw [setStatus_eq]; rfl) (setStatus_assignedHosts ..)
  | devLogin deviceId => exact c.handleAuthenticationResponse_makes reply deviceId
  | pollLogin requestId =>
      simp only [handleReply, loginPolled, replyChange]
      split
      · exact makes_stay (fail_assignment ..) (fail_assignedHosts ..)
      · next herror =>
          split
          · have hmakes := handleAuthenticationResponse_makes { c with loginPollTimer := false }
              reply ""
            rw [replyChange, if_neg herror] at hmakes
            exact ⟨hmakes.assignment, hmakes.assignedHosts⟩
          · exact makes_stay rfl rfl
  | requestVm deviceId deviceName => exact c.vmRequested_makes reply env.bridge _ _
  | heartbeat leaseId => exact c.heartbeatSent_makes reply leaseId
  | approvePairing leaseId pin =>
      simp only [handleReply, pairingApproved, replyChange]
      split
      · refine makes_stay (by simp) ?_
        rw [assignedHosts_emit _ rfl, setStatus_assignedHosts]
      · exact makes_stay (by simp) (by simp)
  | releaseLease leaseId => exact makes_stay rfl rfl

/-! ### The step -/

theorem step_makes (e : ClientEvent) :
    Makes { c with shown := [] } (c.step e) (c.change e) := by
  unfold step
  cases e with
  | startLogin =>
      simp only [handle, startLogin, change]
      split
      · exact makes_stay rfl rfl
      · exact makes_stay (by simp) (by simp)
  | skipLoginForDevelopment =>
      simp only [handle, skipLoginForDevelopment, change]
      split
      · exact makes_stay rfl rfl
      · exact makes_stay (by simp) (by simp)
  | requestVm => exact makes_stay (requestVm_assignment _) (requestVm_assignedHosts _)
  | resumeSavedSession =>
      simp only [handle, resumeSavedSession, change]
      split
      · exact makes_stay rfl rfl
      · exact makes_stay (requestVm_assignment _) (requestVm_assignedHosts _)
  | approvePairing pin =>
      simp only [handle, approvePairing, change]
      split
      · exact makes_stay rfl (assignedHosts_emit _ rfl)
      · exact makes_stay (by simp) (by simp)
  | releaseLease => exact releaseLease_makes { c with shown := [] }
  | logout => exact logout_makes { c with shown := [] }
  | setUseLanCoordinator enabled =>
      exact setUseLanCoordinator_makes { c with shown := [] } enabled
  | aboutToQuit =>
      -- quitting releases the lease, and the token stays
      have hmakes := releaseLease_makes { c with shown := [], quitting := true }
      exact ⟨hmakes.assignment, hmakes.assignedHosts⟩
  | loginPollTimeout =>
      simp only [handle, pollLogin, change]
      split
      · split <;> exact makes_stay rfl rfl
      · exact makes_stay rfl rfl
  | heartbeatTimeout =>
      simp only [handle, sendHeartbeat, change]
      split
      · split <;> exact makes_stay rfl rfl
      · exact makes_stay rfl rfl
  | finished i reply env =>
      simp only [handle, change]
      cases c.replies[i]? with
      | none => exact makes_stay rfl rfl
      | some p =>
          dsimp only
          split
          · have hmakes := handleReply_makes (finish { c with shown := [] } i p) reply env p.call
            exact ⟨hmakes.assignment, hmakes.assignedHosts⟩
          · exact makes_stay rfl rfl
  | probed i useRelay env =>
      simp only [handle, change]
      cases c.probes[i]? with
      | none => exact makes_stay rfl rfl
      | some p =>
          dsimp only
          split
          · exact makes_stay rfl rfl
          · have hmakes := completeAssignment_makes
              { c with shown := [], probes := c.probes.set i { p with finished := true } } p
              useRelay env
            exact ⟨hmakes.assignment, hmakes.assignedHosts⟩

/-- **Step lemma.** What a step does to the assignment. -/
theorem assignment_step (e : ClientEvent) :
    (c.step e).assignment = (c.change e).apply c.assignment := (c.step_makes e).assignment

/-- **Step lemma.** A step hands over a host if it connects to one. -/
theorem assignedHosts_step (e : ClientEvent) :
    (c.step e).assignedHosts = (c.change e).hosts :=
  (c.step_makes e).assignedHosts.trans (Nat.zero_add _)

/-- What a run makes of a lease: the last one that an event has brought, or none. -/
def leaseAfter (leaseId : String) : GilCoordinator → List ClientEvent → String
  | _, [] => leaseId
  | c, e :: es => leaseAfter ((c.change e).lease leaseId) (c.step e) es

/-- A probe that is not stale ends with a connection, unless the bridge is needed and does not
come up. -/
theorem probeChange_cases {p : RouteProbe} (hlease : c.leaseId = p.leaseId)
    (htoken : c.accessToken ≠ "") (useRelay : Bool) (env : BridgeEnv) :
    ((∃ bridge, c.probeChange p useRelay env = .connect p.leaseId bridge) ∧ (useRelay = true →
        (RelayBridge.start env p.relayUrl c.accessToken p.leaseId p.relayBasePort).2 = none)) ∨
      (c.probeChange p useRelay env = .unreachable ∧ useRelay = true ∧
        (RelayBridge.start env p.relayUrl c.accessToken p.leaseId p.relayBasePort).2 ≠ none) := by
  unfold probeChange
  rw [if_neg fun h => h.elim (absurd hlease) htoken]
  cases useRelay with
  | false => exact .inl ⟨⟨_, rfl⟩, fun h => absurd h (by simp)⟩
  | true =>
      rw [if_pos rfl]
      rcases RelayBridge.start_cases env p.relayUrl c.accessToken p.leaseId p.relayBasePort with
        ⟨message, hstart⟩ | ⟨hstart, -⟩
      · rw [hstart]
        exact .inr ⟨rfl, rfl, by simp⟩
      · rw [hstart]
        exact .inl ⟨⟨_, rfl⟩, fun _ => rfl⟩

/-- **Run lemma.** -/
theorem leaseId_run (c : GilCoordinator) (es : List ClientEvent) :
    (run step c es).leaseId = leaseAfter c.leaseId c es := by
  induction es generalizing c with
  | nil => rfl
  | cons e es ih =>
      have hstep := congrArg Assignment.leaseId (c.assignment_step e)
      rw [Change.apply_leaseId] at hstep
      rw [run_cons, ih, leaseAfter]
      exact congrArg (leaseAfter · (c.step e) es) hstep

end GilCoordinator

/-- A client with a saved session. -/
def savedClient : GilCoordinator :=
  .create ⟨"device-1", "Test PC", "stream.example", "10.0.0.2", false⟩
    ⟨"token", "Ann", "ann@example.com", "", false⟩

/-- The coordinator answers with a lease, and with a relay or without one. -/
def grantReply (leaseId : String) (relay : JsonObject) : NetworkReply :=
  ⟨.noError, 200, [("leaseId", .string leaseId), ("relay", .object relay),
    ("host", .object [("name", .string "vm"), ("address", .string "10.0.0.5"),
      ("port", .number 47989)])]⟩

/-- The relay of `grantReply`. -/
def relayReply : JsonObject :=
  [("url", .string "wss://stream.example"), ("basePort", .number 47989)]

/-- Whatever is asked of the operating system works. -/
def goodEnv : ReplyEnv := ⟨true, ⟨true, none, true, none⟩⟩

end GilStreaming.Client
