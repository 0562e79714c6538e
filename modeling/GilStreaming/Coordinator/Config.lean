import GilStreaming.Coordinator.World

/-!
# GilStreaming.Coordinator.Config

`loadConfig` of `coordinator/main.go`: which configurations the coordinator starts
on, and the store it starts with.
-/

namespace GilStreaming.Coordinator

structure Config where
  listen : String
  leaseTTLSeconds : Int
  stateFile : String
  devAuthEnabled : Bool
  vms : List VM
  deriving DecidableEq, Repr

/-- Why `loadConfig` fails. -/
inductive ConfigError
  | readFile
  | unmarshal
  /-- `"listen, stateFile, and leaseTTLSeconds >= 30 are required"` -/
  | required
  /-- `"at least one VM is required"` -/
  | noVMs
  /-- `"invalid VM configuration for %q"` -/
  | invalidVM (id : String)
  /-- `"invalid public endpoint for VM %q"` -/
  | invalidPublicEndpoint (id : String)
  deriving DecidableEq, Repr

/-- What the loop of `loadConfig` reports for one VM. -/
def VM.configError (vm : VM) : Option ConfigError :=
  if vm.id = "" ∨ (vm.discoveryName = "" ∧ (vm.streamAddress = "" ∨ vm.streamPort < 1)) ∨
      vm.streamPort > 65535 then
    some (.invalidVM vm.id)
  else if vm.publicPort < 0 ∨ vm.publicPort > 65535 then some (.invalidPublicEndpoint vm.id)
  else none

/-- `loadConfig` on the outcome of `os.ReadFile` and `json.Unmarshal`. -/
def loadConfig (decoded : Except ConfigError Config) : Except ConfigError Config :=
  match decoded with
  | .error err => .error err
  | .ok config =>
    if config.listen = "" ∨ config.stateFile = "" ∨ config.leaseTTLSeconds < 30 then
      .error .required
    else if config.vms.isEmpty then .error .noVMs
    else
      match config.vms.findSome? VM.configError with
      | some err => .error err
      | none => .ok config

/-- `time.Duration(config.LeaseTTLSeconds) * time.Second`, a product of `int64`s. -/
def Config.leaseTTL (config : Config) : Int :=
  (Int64.ofInt (config.leaseTTLSeconds * second)).toInt

/-- The store that `main` creates, before `Load`. -/
def Config.store (config : Config) : Store := newStore config.vms config.leaseTTL

end GilStreaming.Coordinator
