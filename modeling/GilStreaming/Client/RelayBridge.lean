import GilStreaming.Lib.QtJson

/-!
# GilStreaming.Client.RelayBridge

The state of the local relay bridge of `app/backend/relaybridge.cpp`, as far as its
`start` and `stop` set it.

What the operating system decides in a `start` is in a `BridgeEnv`: whether the URL is
one that a WebSocket can connect to, the local ports that cannot be listened on, and
whether the TURN helper comes up.
-/

namespace GilStreaming.Client

/-- `RelayBridge`. -/
structure RelayBridge where
  running : Bool
  relayUrl : String
  accessToken : String
  leaseId : String
  basePort : Int
  deriving DecidableEq, Repr

structure BridgeEnv where
  /-- `relayUrl.isValid()`, with the scheme `wss` or `ws`. -/
  validUrl : Bool
  /-- The first TCP port that cannot be listened on, and `errorString()`. -/
  tcpError : Option (Int × String)
  /-- `startTurnHelper` succeeds. -/
  turnHelper : Bool
  /-- The error of `startWebSocketUdpFallback`, if it fails. -/
  udpError : Option String
  deriving DecidableEq, Repr

namespace RelayBridge

/-- `RelayBridge::stop`, and a bridge that has not been started. -/
def stopped : RelayBridge := ⟨false, "", "", "", 0⟩

/-- `RelayBridge::start`: the bridge, and the error message if it returns `false`. -/
def start (env : BridgeEnv) (relayUrl accessToken leaseId : String) (basePort : Int) :
    RelayBridge × Option String :=
  if !env.validUrl ∨ accessToken = "" ∨ leaseId = "" then
    (stopped, some "The coordinator returned an invalid relay configuration.")
  else if basePort - 5 < 1 ∨ basePort + 21 > 65535 then
    (stopped, some "The assigned relay port range is invalid.")
  else
    match env.tcpError with
    | some (port, details) =>
      (stopped, some s!"Could not open the local relay port {port}: {details}")
    | none =>
      match env.turnHelper, env.udpError with
      | false, some message => (stopped, some message)
      | _, _ => (⟨true, relayUrl, accessToken, leaseId, basePort⟩, none)

/-- A start fails and leaves the bridge stopped, or brings it up for the token and the
lease. -/
theorem start_cases (env : BridgeEnv) (relayUrl accessToken leaseId : String) (basePort : Int) :
    (∃ message, start env relayUrl accessToken leaseId basePort = (stopped, some message)) ∨
      (start env relayUrl accessToken leaseId basePort =
          (⟨true, relayUrl, accessToken, leaseId, basePort⟩, none) ∧
        accessToken ≠ "" ∧ leaseId ≠ "") := by
  unfold start
  split
  · exact .inl ⟨_, rfl⟩
  · next hconfig =>
      split
      · exact .inl ⟨_, rfl⟩
      · split
        · exact .inl ⟨_, rfl⟩
        · split
          · exact .inl ⟨_, rfl⟩
          · exact .inr ⟨rfl, fun h => hconfig (.inr (.inl h)), fun h => hconfig (.inr (.inr h))⟩

end RelayBridge

end GilStreaming.Client
