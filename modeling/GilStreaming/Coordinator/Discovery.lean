import GilStreaming.Coordinator.Config
import GilStreaming.Lib.GoText

/-!
# GilStreaming.Coordinator.Discovery

`coordinator/discovery.go`: matching the hosts that answer an mDNS browse against the
VM list, and `Refresh`, which writes their addresses into it.

The browse itself is a function field of `SunshineDiscovery`, so its result, entries
or an error, is an argument here. `GoLibrary` holds the two functions of Go's library
that the model takes as they are.
-/

namespace GilStreaming.Coordinator

/-- The parts of a parsed URL that are read. -/
structure ParsedURL where
  scheme : String
  port : String

/-- `unicode.ToLower`, and `url.Parse` with the result's `Scheme` and `Port()`. -/
structure GoLibrary where
  toLower : Char → Char
  parseURL : String → Option ParsedURL

/-- `discoveredSunshine`. -/
structure DiscoveredSunshine where
  instanceName : String
  hostname : String
  address : String
  port : Int
  deriving DecidableEq, Repr

/-- What `d.browse` returns. -/
abbrev BrowseResult := Except String (List DiscoveredSunshine)

section Discovery

variable (lib : GoLibrary)

def normalizeDiscoveryName (value : String) : List Char :=
  let value := trimSuffix (trimSpace (value.toList.map lib.toLower)) ['.']
  let value := trimSuffix value ".local".toList
  value.takeWhile (· != '.')

def discoveryNameMatches (expected : String) (entry : DiscoveredSunshine) : Bool :=
  let expected := normalizeDiscoveryName lib expected
  expected != [] && (expected == normalizeDiscoveryName lib entry.instanceName ||
    expected == normalizeDiscoveryName lib entry.hostname)

def sunshineURLAtAddress (existing address : String) : String :=
  let parsed := (lib.parseURL existing).getD ⟨"", ""⟩
  let scheme := if parsed.scheme ≠ "" then parsed.scheme else "https"
  let port := if parsed.port ≠ "" then parsed.port else "47990"
  scheme ++ "://" ++ joinHostPort address port

/-- The inner loop of `Refresh`: the first entry that answers for the VM. -/
def VM.answer (vm : VM) (entries : List DiscoveredSunshine) : Option DiscoveredSunshine :=
  if vm.discoveryName = "" then none
  else entries.find? fun entry =>
    discoveryNameMatches lib vm.discoveryName entry && parseIP entry.address

/-- The port a VM has after `entry` answered for it: an entry without one keeps it. -/
def DiscoveredSunshine.portFor (entry : DiscoveredSunshine) (vm : VM) : Int :=
  if entry.port > 0 then entry.port else vm.streamPort

/-- `updated` in `Refresh`. -/
def VM.updated (vm : VM) (entry : DiscoveredSunshine) : VM :=
  { vm with
    streamAddress := entry.address
    streamPort := entry.portFor vm
    sunshineAPIURL := sunshineURLAtAddress lib vm.sunshineAPIURL entry.address }

/-- One turn of the outer loop of `Refresh`. A VM that no entry answers for gets no
update. -/
def recordAnswer (entries : List DiscoveredSunshine) (updates : GoMap String VM) (vm : VM) :
    GoMap String VM :=
  match vm.answer lib entries with
  | none => updates
  | some entry => updates.insert vm.id (vm.updated lib entry)

/-- The `updates` map of `Refresh`. -/
def refreshUpdates (vms : List VM) (entries : List DiscoveredSunshine) : GoMap String VM :=
  vms.foldl (recordAnswer lib entries) ∅

/-- `SunshineDiscovery.Refresh`: the store it leaves and its error. -/
def Store.refresh (s : Store) (browse : BrowseResult) : Store × Except String Unit :=
  match browse with
  | .error err => (s, .error err)
  | .ok entries => (s.updateVMs (refreshUpdates lib s.vms entries), .ok ())

end Discovery

end GilStreaming.Coordinator
