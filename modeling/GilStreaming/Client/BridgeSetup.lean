import GilStreaming.Client.RelayBridge
import GilStreaming.Lib.Trace

/-!
# GilStreaming.Client.BridgeSetup

The endpoints and the TURN helper behind a `RelayBridge`: `start`, `stop`,
`startTurnHelper`, `stopTurnHelper` and `startWebSocketUdpFallback` of
`app/backend/relaybridge.cpp`, with the handler of the helper's `finished`.

What the operating system answers is in a `SetupEnv`: for each port whether it can be
listened on or bound, and for each TURN port how a helper that is started for it behaves.
The tunnels that an endpoint opens are in `TcpTunnel` and `UdpEndpoint`.
-/

namespace GilStreaming.Client

open GilStreaming.Trace

/-- `TCP_OFFSETS`. -/
def tcpOffsets : List Int := [-5, 0, 6, 7, 21]

/-- `UDP_OFFSETS`. -/
def udpOffsets : List Int := [9, 10, 11, 13, 21]

/-! ### A helper process -/

/-- One turn of the loop that waits for the helper's first line. -/
structure HelperTurn where
  /-- What `readAllStandardOutput` returns after `waitForReadyRead`. -/
  output : String
  /-- `process->state() != QProcess::NotRunning` after it. A helper whose exit is seen here
  has emitted `finished`. -/
  running : Bool
  deriving DecidableEq, Repr

/-- How a helper that is started for a port behaves. -/
structure HelperRun where
  /-- `errorString()`, if `waitForStarted` fails. -/
  startError : Option String
  /-- The turns that fit into ten seconds. -/
  turns : List HelperTurn
  /-- What the last `readAllStandardOutput` returns. -/
  lastOutput : String
  /-- `readAllStandardError()`. -/
  errorOutput : String
  deriving DecidableEq, Repr

namespace HelperRun

/-- The loop: the output, and whether the process is still running. -/
def waitForLine (output : String) (running : Bool) : List HelperTurn → String × Bool
  | [] => (output, running)
  | turn :: turns =>
    if !running || output.toList.contains '\n' then (output, running)
    else waitForLine (output ++ turn.output) turn.running turns

def output (run : HelperRun) : String := (waitForLine "" true run.turns).1 ++ run.lastOutput

/-- `output.startsWith("READY ")`. -/
def ready (run : HelperRun) : Bool := "READY ".toList.isPrefixOf run.output.toList

/-- The process has finished when the loop ends. -/
def finished (run : HelperRun) : Bool := !(waitForLine "" true run.turns).2

/-- What is appended to `failures`, for a helper that is not taken. -/
def failure (run : HelperRun) (candidatePort : Int) : Option String :=
  match run.startError with
  | some error => some s!"UDP {candidatePort}: helper did not start ({error})"
  | none =>
    if run.ready then none
    else
      let details := trimmed run.errorOutput
      some (if details = "" then s!"UDP {candidatePort}: allocation timed out"
        else s!"UDP {candidatePort}: {details}")

end HelperRun

/-- What the operating system does in a `start`. -/
structure SetupEnv where
  /-- `relayUrl.isValid()`, with the scheme `wss` or `ws`. -/
  validUrl : Bool
  /-- `errorString()` of the TCP port, if `listen` fails. -/
  listen : Int → Option String
  /-- The bundled helper exists. -/
  helperExists : Bool
  /-- The helper that is started for a TURN port. -/
  helper : Int → HelperRun
  /-- `errorString()` of the UDP port, if `bind` fails. -/
  bind : Int → Option String

/-- `candidatePorts` of `startTurnHelper`. -/
def candidatePorts (turn : JsonObject) : List Int :=
  let ports := (turn.array "ports").foldl (fun ports value =>
    let candidatePort := value.toInt
    if 1 ≤ candidatePort ∧ candidatePort ≤ 65535 ∧ candidatePort ∉ ports then
      ports ++ [candidatePort]
    else ports) []
  if turn.int "port" ∈ ports then ports else turn.int "port" :: ports

/-- The loop over the candidates: the first helper that gets ready. -/
def tryCandidates (helper : Int → HelperRun) : List String → List Int → Except String HelperRun
  | failures, [] => .error ("The TURN allocation failed: " ++ String.intercalate "; " failures)
  | failures, candidatePort :: candidatePorts =>
    match (helper candidatePort).failure candidatePort with
    | some failure => tryCandidates helper (failures ++ [failure]) candidatePorts
    | none => .ok (helper candidatePort)

/-- `RelayBridge::startTurnHelper`, up to the helper that is taken. -/
def startTurnHelper (env : SetupEnv) (turn : JsonObject) : Except String HelperRun :=
  if turn.string "server" = "" ∨ turn.int "port" < 1 ∨ turn.int "port" > 65535 ∨
      turn.string "username" = "" ∨ turn.string "credential" = "" ∨
      turn.string "peerAddress" = "" ∨ turn.int "peerBasePort" < 1 ∨
      turn.int "peerBasePort" + 21 > 65535 then
    .error "The coordinator did not provide usable TURN credentials."
  else if !env.helperExists then .error "The bundled TURN helper is missing."
  else tryCandidates env.helper [] (candidatePorts turn)

/-- The loop that opens a port for each offset; it ends at the first that fails. -/
def openEndpoints (openPort : Int → Option String) (basePort : Int) :
    List Int → List Int → Except (Int × String) (List Int)
  | opened, [] => .ok opened
  | opened, offset :: offsets =>
    match openPort (basePort + offset) with
    | some details => .error (basePort + offset, details)
    | none => openEndpoints openPort basePort (opened ++ [offset]) offsets

/-- The message about a port that does not open. -/
def portError (port : Int) (details : String) : String :=
  s!"Could not open the local relay port {port}: {details}"

/-! ### The bridge -/

inductive HelperState
  | running
  /-- Its exit has not been delivered. -/
  | exited
  /-- It emitted `finished` before the bridge listened to it. -/
  | finished
  deriving DecidableEq, Repr

/-- The process in `m_TurnProcess`, with its number. -/
structure TurnProcess where
  id : Nat
  state : HelperState
  deriving DecidableEq, Repr

/-- `RelayBridge`, with its endpoints, named by their offsets. -/
structure BridgeSetup where
  running : Bool
  relayUrl : String
  accessToken : String
  leaseId : String
  basePort : Int
  tcpEndpoints : List Int
  udpEndpoints : List Int
  turnProcess : Option TurnProcess
  /-- `m_KeepaliveTimer` is active. -/
  keepaliveTimer : Bool
  /-- The number of helpers taken so far. -/
  helpers : Nat
  deriving DecidableEq, Repr

inductive SetupEvent
  | start (env : SetupEnv) (relayUrl accessToken leaseId : String) (basePort : Int)
    (turn : JsonObject)
  | stop
  /-- The helper's process ends. -/
  | helperExits
  /-- The handler of `finished`; `bind` is for the ports of the fallback. -/
  | helperFinished (id : Nat) (bind : Int → Option String)

namespace BridgeSetup

/-- A bridge that has not been started. -/
def initial : BridgeSetup where
  running := false
  relayUrl := ""
  accessToken := ""
  leaseId := ""
  basePort := 0
  tcpEndpoints := []
  udpEndpoints := []
  turnProcess := none
  keepaliveTimer := false
  helpers := 0

def stopTurnHelper (b : BridgeSetup) : BridgeSetup := { b with turnProcess := none }

def stop (b : BridgeSetup) : BridgeSetup :=
  { ({ b with running := false, keepaliveTimer := false }).stopTurnHelper with
    tcpEndpoints := []
    udpEndpoints := []
    relayUrl := ""
    accessToken := ""
    leaseId := ""
    basePort := 0 }

/-- `startWebSocketUdpFallback`: the bridge, and the error message if it returns `false`. -/
def startWebSocketUdpFallback (b : BridgeSetup) (bind : Int → Option String) (basePort : Int) :
    BridgeSetup × Option String :=
  if b.udpEndpoints ≠ [] then (b, none)
  else
    match openEndpoints bind basePort [] udpOffsets with
    | .error (port, details) => (b, some (portError port details))
    | .ok endpoints => ({ b with udpEndpoints := endpoints }, none)

/-- The helper becomes `m_TurnProcess`. -/
def takeHelper (b : BridgeSetup) (run : HelperRun) : BridgeSetup :=
  { b with
    turnProcess := some ⟨b.helpers, if run.finished then .finished else .running⟩
    helpers := b.helpers + 1 }

/-- The UDP side of a start: a TURN helper, or else the fallback. -/
def startUdp (b : BridgeSetup) (env : SetupEnv) (basePort : Int) (turn : JsonObject) :
    BridgeSetup × Option String :=
  match startTurnHelper env turn with
  | .ok run => (b.takeHelper run, none)
  | .error _ => b.startWebSocketUdpFallback env.bind basePort

/-- `RelayBridge::start`: the bridge, and the error message if it returns `false`. -/
def start (b : BridgeSetup) (env : SetupEnv) (relayUrl accessToken leaseId : String)
    (basePort : Int) (turn : JsonObject) : BridgeSetup × Option String :=
  let b := b.stop
  if !env.validUrl ∨ accessToken = "" ∨ leaseId = "" then
    (b, some "The coordinator returned an invalid relay configuration.")
  else if basePort - 5 < 1 ∨ basePort + 21 > 65535 then
    (b, some "The assigned relay port range is invalid.")
  else
    let b :=
      { b with
        relayUrl := relayUrl
        accessToken := accessToken
        leaseId := leaseId
        basePort := basePort
        running := true }
    match openEndpoints env.listen basePort [] tcpOffsets with
    | .error (port, details) => (b.stop, some (portError port details))
    | .ok endpoints =>
      match { b with tcpEndpoints := endpoints }.startUdp env basePort turn with
      | (b, some message) => (b.stop, some message)
      | (b, none) => ({ b with keepaliveTimer := true }, none)

/-- The handler of the helper's `finished`. -/
def helperFinished (b : BridgeSetup) (id : Nat) (bind : Int → Option String) : BridgeSetup :=
  if b.turnProcess.map TurnProcess.id ≠ some id then b
  else
    let b := { b with turnProcess := none }
    if b.running then
      match b.startWebSocketUdpFallback bind b.basePort with
      | (b, some _) => b.stop
      | (b, none) => b
    else b

/-- A call, or a signal of a helper. A helper emits `finished` once, when it has exited. -/
def step (b : BridgeSetup) : SetupEvent → BridgeSetup
  | .start env relayUrl accessToken leaseId basePort turn =>
    (b.start env relayUrl accessToken leaseId basePort turn).1
  | .stop => b.stop
  | .helperExits =>
    match b.turnProcess with
    | some ⟨id, .running⟩ => { b with turnProcess := some ⟨id, .exited⟩ }
    | _ => b
  | .helperFinished id bind =>
    match b.turnProcess with
    | some ⟨_, .exited⟩ => b.helperFinished id bind
    | _ => b

/-! ### All or nothing -/

/-- Nothing is open, and nothing is left of the configuration. -/
structure Stopped (b : BridgeSetup) : Prop where
  running : b.running = false
  tcp : b.tcpEndpoints = []
  udp : b.udpEndpoints = []
  turn : b.turnProcess = none
  keepalive : b.keepaliveTimer = false
  relayUrl : b.relayUrl = ""
  token : b.accessToken = ""
  lease : b.leaseId = ""
  basePort : b.basePort = 0

/-- A helper that runs, or whose exit is still to be delivered, or else the endpoints of the
fallback. -/
def Carried (b : BridgeSetup) : Prop :=
  (∃ process, b.turnProcess = some process ∧ process.state ≠ .finished ∧ b.udpEndpoints = []) ∨
    (b.turnProcess = none ∧ b.udpEndpoints = udpOffsets)

/-- All TCP ports are open, and there is one carrier for UDP. -/
structure Up (b : BridgeSetup) : Prop where
  running : b.running = true
  tcp : b.tcpEndpoints = tcpOffsets
  udp : b.Carried
  keepalive : b.keepaliveTimer = true
  token : b.accessToken ≠ ""
  lease : b.leaseId ≠ ""

/-- The first helper that gets ready has finished already. -/
def TakesFinished : SetupEvent → Prop
  | .start env _ accessToken leaseId basePort turn =>
    (env.validUrl = true ∧ accessToken ≠ "" ∧ leaseId ≠ "") ∧
      (1 ≤ basePort - 5 ∧ basePort + 21 ≤ 65535) ∧
      (∀ offset ∈ tcpOffsets, env.listen (basePort + offset) = none) ∧
      ∃ run, startTurnHelper env turn = .ok run ∧ run.finished = true
  | _ => False

variable {b : BridgeSetup}

theorem stopped_initial : initial.Stopped := ⟨rfl, rfl, rfl, rfl, rfl, rfl, rfl, rfl, rfl⟩

theorem stopped_stop (b : BridgeSetup) : b.stop.Stopped :=
  ⟨rfl, rfl, rfl, rfl, rfl, rfl, rfl, rfl, rfl⟩

/-- Either every port opens, or the loop ends at the first that does not. -/
theorem openEndpoints_cases (openPort : Int → Option String) (basePort : Int)
    (opened offsets : List Int) :
    (openEndpoints openPort basePort opened offsets = .ok (opened ++ offsets) ∧
        ∀ offset ∈ offsets, openPort (basePort + offset) = none) ∨
      ∃ offset ∈ offsets, ∃ details, openPort (basePort + offset) = some details ∧
        openEndpoints openPort basePort opened offsets = .error (basePort + offset, details) := by
  induction offsets generalizing opened with
  | nil => exact .inl ⟨by rw [openEndpoints, List.append_nil], by simp⟩
  | cons offset offsets ih =>
      cases hport : openPort (basePort + offset) with
      | some details =>
          exact .inr ⟨offset, List.mem_cons_self, details, hport, by rw [openEndpoints, hport]⟩
      | none =>
          rw [openEndpoints, hport]
          rcases ih (opened ++ [offset]) with ⟨hok, hall⟩ | ⟨offset', hmem, details, hfail, herr⟩
          · refine .inl ⟨by rw [hok, List.append_assoc]; rfl, ?_⟩
            exact List.forall_mem_cons.mpr ⟨hport, hall⟩
          · exact .inr ⟨offset', List.mem_cons_of_mem _ hmem, details, hfail, herr⟩

/-- The fallback opens all of its ports, or leaves the bridge as it was. -/
theorem startWebSocketUdpFallback_cases (hudp : b.udpEndpoints = []) (bind : Int → Option String)
    (basePort : Int) :
    b.startWebSocketUdpFallback bind basePort = ({ b with udpEndpoints := udpOffsets }, none) ∨
      ∃ message, b.startWebSocketUdpFallback bind basePort = (b, some message) := by
  rw [startWebSocketUdpFallback, if_neg (not_not.mpr hudp)]
  rcases openEndpoints_cases bind basePort [] udpOffsets with
    ⟨hok, -⟩ | ⟨offset, -, details, -, herr⟩
  · rw [hok]
    exact .inl rfl
  · rw [herr]
    exact .inr ⟨_, rfl⟩

/-- The UDP side of a start leaves the rest alone, and fails without a carrier. -/
theorem startUdp_cases (hudp : b.udpEndpoints = []) (env : SetupEnv) (basePort : Int)
    (turn : JsonObject) :
    (∃ run, startTurnHelper env turn = .ok run ∧
        b.startUdp env basePort turn = (b.takeHelper run, none)) ∨
      (∃ failure, startTurnHelper env turn = .error failure) ∧
        (b.startUdp env basePort turn = ({ b with udpEndpoints := udpOffsets }, none) ∨
          ∃ message, b.startUdp env basePort turn = (b, some message)) := by
  rw [startUdp]
  cases startTurnHelper env turn with
  | ok run => exact .inl ⟨run, rfl, rfl⟩
  | error failure =>
      exact .inr ⟨⟨failure, rfl⟩, startWebSocketUdpFallback_cases hudp env.bind basePort⟩

/-- All TCP ports are open, and nothing carries UDP yet. -/
def listening (b : BridgeSetup) (relayUrl accessToken leaseId : String) (basePort : Int) :
    BridgeSetup :=
  { b.stop with
    relayUrl, accessToken, leaseId, basePort
    running := true
    tcpEndpoints := tcpOffsets }

section Start

variable (b : BridgeSetup) (env : SetupEnv) (relayUrl accessToken leaseId : String)
  (basePort : Int) (turn : JsonObject)

/-- A start fails for its parameters or for a TCP port, or the UDP side decides. -/
theorem start_refused_or_listening :
    (∃ message stopped, b.start env relayUrl accessToken leaseId basePort turn =
        (stopped, some message) ∧ stopped.Stopped ∧
        ¬ TakesFinished (.start env relayUrl accessToken leaseId basePort turn)) ∨
      (accessToken ≠ "" ∧ leaseId ≠ "") ∧
        (TakesFinished (.start env relayUrl accessToken leaseId basePort turn) ↔
          ∃ run, startTurnHelper env turn = .ok run ∧ run.finished = true) ∧
        b.start env relayUrl accessToken leaseId basePort turn =
          match (b.listening relayUrl accessToken leaseId basePort).startUdp env basePort turn with
          | (b, some message) => (b.stop, some message)
          | (b, none) => ({ b with keepaliveTimer := true }, none) := by
  unfold start
  dsimp only
  split
  · next hconfig =>
      refine .inl ⟨_, _, rfl, stopped_stop b, fun htakes => ?_⟩
      obtain ⟨⟨hurl, htoken, hlease⟩, -⟩ := htakes
      rcases hconfig with hinvalid | hnone | hnone
      · exact absurd hurl (by simpa using hinvalid)
      · exact htoken hnone
      · exact hlease hnone
  · next hconfig =>
      have hvalid : env.validUrl = true ∧ accessToken ≠ "" ∧ leaseId ≠ "" := by
        simpa using hconfig
      split
      · next hrange =>
          refine .inl ⟨_, _, rfl, stopped_stop b, fun htakes => ?_⟩
          obtain ⟨-, hports, -⟩ := htakes
          omega
      · next hrange =>
          rcases openEndpoints_cases env.listen basePort [] tcpOffsets with
            ⟨hok, hall⟩ | ⟨offset, hmem, details, hfail, herr⟩
          · refine .inr ⟨hvalid.2, ⟨fun htakes => htakes.2.2.2, fun htakes => ?_⟩, ?_⟩
            · exact ⟨hvalid, ⟨by omega, by omega⟩, hall, htakes⟩
            · rw [hok]
              rfl
          · rw [herr]
            refine .inl ⟨_, _, rfl, stopped_stop _, fun htakes => ?_⟩
            exact absurd ((htakes.2.2.1 offset hmem).symm.trans hfail) (by simp)

variable {accessToken leaseId}

/-- A helper carries UDP unless it has finished. -/
theorem up_takeHelper_iff (htoken : accessToken ≠ "") (hlease : leaseId ≠ "") (run : HelperRun) :
    ({ (b.listening relayUrl accessToken leaseId basePort).takeHelper run with
        keepaliveTimer := true } : BridgeSetup).Up ↔ run.finished = false := by
  constructor
  · intro hup
    rcases hup.udp with ⟨process, hprocess, hlive, -⟩ | ⟨hnoProcess, -⟩
    · cases hfinished : run.finished with
      | true =>
          refine absurd ?_ hlive
          rw [← Option.some.inj hprocess, hfinished]
          rfl
      | false => rfl
    · exact absurd hnoProcess (by simp [takeHelper])
  · intro hfinished
    exact ⟨rfl, rfl, .inl ⟨_, rfl, by simp [hfinished], rfl⟩, rfl, htoken, hlease⟩

variable (accessToken leaseId)

/-- **Step lemma**, a start: it fails and leaves the bridge stopped, or brings it up, unless
the helper that it takes has finished. -/
theorem start_cases :
    ((∃ message, (b.start env relayUrl accessToken leaseId basePort turn).2 = some message) ∧
        (b.start env relayUrl accessToken leaseId basePort turn).1.Stopped ∧
        ¬ TakesFinished (.start env relayUrl accessToken leaseId basePort turn)) ∨
      ((b.start env relayUrl accessToken leaseId basePort turn).2 = none ∧
        (b.start env relayUrl accessToken leaseId basePort turn).1.running = true ∧
        ((b.start env relayUrl accessToken leaseId basePort turn).1.Up ↔
          ¬ TakesFinished (.start env relayUrl accessToken leaseId basePort turn))) := by
  rcases start_refused_or_listening b env relayUrl accessToken leaseId basePort turn with
    ⟨message, stopped, heq, hstopped, hgood⟩ | ⟨⟨htoken, hlease⟩, htakes, heq⟩
  · rw [heq]
    exact .inl ⟨⟨message, rfl⟩, hstopped, hgood⟩
  · rw [htakes, heq]
    rcases startUdp_cases (b := b.listening relayUrl accessToken leaseId basePort) rfl env basePort
        turn with ⟨run, hrun, htaken⟩ | ⟨⟨failure, hnone⟩, hudp⟩
    · -- a helper is the carrier
      rw [htaken]
      refine .inr ⟨rfl, rfl, (up_takeHelper_iff b relayUrl basePort htoken hlease run).trans ?_⟩
      rw [hrun, ← Bool.not_eq_true, not_iff_not]
      constructor
      · exact fun hfinished => ⟨run, rfl, hfinished⟩
      · rintro ⟨run', hrun', hfinished⟩
        rwa [Except.ok.inj hrun']
    · have hgood : ¬ ∃ run, startTurnHelper env turn = .ok run ∧ run.finished = true := by
        rintro ⟨run, hrun, -⟩
        exact absurd (hrun.symm.trans hnone) (by simp)
      rcases hudp with hfallback | ⟨message, hfails⟩
      · -- the WebSocket endpoints are
        rw [hfallback]
        refine .inr ⟨rfl, rfl, iff_of_true ?_ hgood⟩
        exact ⟨rfl, rfl, .inr ⟨rfl, rfl⟩, rfl, htoken, hlease⟩
      · rw [hfails]
        exact .inl ⟨⟨_, rfl⟩, stopped_stop _, hgood⟩

end Start

/-- All or nothing. -/
def AllOrNothing (b : BridgeSetup) : Prop := b.Stopped ∨ b.Up

/-- **Step lemma**, an exit that is delivered: the fallback takes over, or the bridge stops. -/
theorem AllOrNothing.helperFinished (h : b.AllOrNothing) (id : Nat)
    (bind : Int → Option String) : (b.step (.helperFinished id bind)).AllOrNothing := by
  unfold step
  dsimp only
  split
  · next process hprocess =>
      unfold BridgeSetup.helperFinished
      split
      · exact h
      · rcases h with hstopped | hup
        · exact absurd (hstopped.turn.symm.trans hprocess) (by simp)
        · have hudp : b.udpEndpoints = [] := by
            rcases hup.udp with ⟨_, -, -, hudp⟩ | ⟨hnone, -⟩
            · exact hudp
            · exact absurd (hnone.symm.trans hprocess) (by simp)
          dsimp only
          rw [if_pos hup.running]
          rcases startWebSocketUdpFallback_cases (b := { b with turnProcess := none }) hudp bind
              b.basePort with hok | ⟨message, hfails⟩
          · rw [hok]
            exact .inr ⟨hup.running, hup.tcp, .inr ⟨rfl, rfl⟩, hup.keepalive, hup.token,
              hup.lease⟩
          · rw [hfails]
            exact .inl (stopped_stop _)
  · exact h

/-- **Step lemma.** -/
theorem AllOrNothing.step_iff (h : b.AllOrNothing) (e : SetupEvent) :
    (b.step e).AllOrNothing ↔ ¬ TakesFinished e := by
  cases e with
  | start env relayUrl accessToken leaseId basePort turn =>
      rcases start_cases b env relayUrl accessToken leaseId basePort turn with
        ⟨-, hstopped, hgood⟩ | ⟨-, hrunning, hup⟩
      · exact iff_of_true (.inl hstopped) hgood
      · refine Iff.trans ⟨fun hall => ?_, .inr⟩ hup
        rcases hall with hstopped | hup
        · exact absurd (hstopped.running.symm.trans hrunning) (by simp)
        · exact hup
  | stop => exact iff_of_true (.inl (stopped_stop b)) id
  | helperExits =>
      refine iff_of_true ?_ id
      unfold BridgeSetup.step
      dsimp only
      split
      · next id hprocess =>
          rcases h with hstopped | hup
          · exact absurd (hstopped.turn.symm.trans hprocess) (by simp)
          · refine .inr ⟨hup.running, hup.tcp, ?_, hup.keepalive, hup.token, hup.lease⟩
            rcases hup.udp with ⟨_, -, -, hudp⟩ | ⟨hnone, -⟩
            · exact .inl ⟨_, rfl, by simp, hudp⟩
            · exact absurd (hnone.symm.trans hprocess) (by simp)
      · exact h
  | helperFinished process bind =>
      exact iff_of_true (h.helperFinished process bind) fun htakes => htakes

/-! ### What callers see -/

/-- What is left of the endpoints in a `RelayBridge`. -/
def relayBridge (b : BridgeSetup) : RelayBridge :=
  ⟨b.running, b.relayUrl, b.accessToken, b.leaseId, b.basePort⟩

end BridgeSetup

/-- The outcomes of a start, without the way they come about. -/
def SetupEnv.bridgeEnv (env : SetupEnv) (basePort : Int) (turn : JsonObject) : BridgeEnv where
  validUrl := env.validUrl
  tcpError :=
    match openEndpoints env.listen basePort [] tcpOffsets with
    | .error error => some error
    | .ok _ => none
  turnHelper :=
    match startTurnHelper env turn with
    | .ok _ => true
    | .error _ => false
  udpError :=
    match openEndpoints env.bind basePort [] udpOffsets with
    | .error (port, details) => some (portError port details)
    | .ok _ => none

namespace BridgeSetup

/-- **Refinement.** A start of the endpoints and the helper is a start of the bridge, with
the same answer. -/
theorem start_refines (b : BridgeSetup) (env : SetupEnv) (relayUrl accessToken leaseId : String)
    (basePort : Int) (turn : JsonObject) :
    ((b.start env relayUrl accessToken leaseId basePort turn).1.relayBridge,
        (b.start env relayUrl accessToken leaseId basePort turn).2) =
      RelayBridge.start (env.bridgeEnv basePort turn) relayUrl accessToken leaseId basePort := by
  unfold start RelayBridge.start SetupEnv.bridgeEnv
  dsimp only
  split
  · rfl
  · split
    · rfl
    · rcases openEndpoints_cases env.listen basePort [] tcpOffsets with
        ⟨hok, -⟩ | ⟨offset, -, details, -, herr⟩
      · rw [hok]
        dsimp only
        unfold startUdp
        cases startTurnHelper env turn with
        | ok helperRun => rfl
        | error failure =>
            have hnil : ¬ b.stop.udpEndpoints ≠ [] := not_not.mpr rfl
            rw [startWebSocketUdpFallback]
            dsimp only
            rw [if_neg hnil]
            rcases openEndpoints_cases env.bind basePort [] udpOffsets with
              ⟨hbound, -⟩ | ⟨port, -, details, -, herr⟩
            · rw [hbound]
              rfl
            · rw [herr]
              rfl
      · rw [herr]
        rfl

end BridgeSetup

open BridgeSetup in
/-- **All or nothing.** After every event of a run the bridge is stopped, or up with one
carrier for UDP, exactly if no start takes a helper that has finished already. A start that
fails leaves it stopped. -/
theorem bridge_all_or_nothing_iff (es : List SetupEvent) :
    ((∀ pre, pre <+: es → (run step initial pre).AllOrNothing) ↔
        AllSteps step (fun _ e => ¬ TakesFinished e) initial es) ∧
      ∀ (b : BridgeSetup) (env : SetupEnv) (relayUrl accessToken leaseId : String)
        (basePort : Int) (turn : JsonObject),
        (b.start env relayUrl accessToken leaseId basePort turn).2 ≠ none →
          (b.start env relayUrl accessToken leaseId basePort turn).1.Stopped := by
  refine ⟨?_, fun b env relayUrl accessToken leaseId basePort turn hfails => ?_⟩
  · exact @run_invariant_iff _ _ step (fun _ => True) AllOrNothing (fun _ e => TakesFinished e)
      (fun _ _ _ => trivial) (fun _ e _ h => h.step_iff e) initial trivial (.inl stopped_initial) es
  · rcases start_cases b env relayUrl accessToken leaseId basePort turn with
      ⟨-, hstopped, -⟩ | ⟨hnone, -⟩
    · exact hstopped
    · exact absurd hnone hfails

/-- A helper that prints its line and exits, both before the bridge looks. -/
def exitedHelper : HelperRun := ⟨none, [⟨"READY 5 allocations\n", false⟩], "", ""⟩

/-- Every port opens, and the helper exits at once. -/
def exitedHelperEnv : SetupEnv := ⟨true, fun _ => none, true, fun _ => exitedHelper, fun _ => none⟩

def turnCredentials : JsonObject :=
  [("server", .string "turn.example"), ("port", .number 3478), ("username", .string "u"),
    ("credential", .string "c"), ("peerAddress", .string "10.0.0.1"),
    ("peerBasePort", .number 47989)]

open BridgeSetup in
/-- The start succeeds, and nothing carries UDP. -/
theorem exited_helper_taken :
    (initial.start exitedHelperEnv "wss://relay" "token" "lease" 47989 turnCredentials).2 = none ∧
      ¬ (run step initial [.start exitedHelperEnv "wss://relay" "token" "lease" 47989
        turnCredentials]).AllOrNothing := by
  have htakes : TakesFinished
      (.start exitedHelperEnv "wss://relay" "token" "lease" 47989 turnCredentials) :=
    ⟨by decide, by decide, fun _ _ => rfl, exitedHelper, rfl, rfl⟩
  refine ⟨rfl, fun h => ?_⟩
  rw [run_cons, run_nil, AllOrNothing.step_iff (.inl stopped_initial)] at h
  exact h htakes

end GilStreaming.Client
