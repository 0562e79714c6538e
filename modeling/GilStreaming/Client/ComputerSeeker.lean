import GilStreaming.Client.NvComputer

/-!
# GilStreaming.Client.ComputerSeeker

The search for the host that the command line names: `ComputerSeeker` of
`app/backend/computerseeker.cpp`, with `NvComputer::uniqueAddresses` and `NvAddress::toString`.

A host is named by its UUID, and what it looks like at some moment is a `Hosts`. How Qt makes a
text lower-case, and which texts it takes for IPv6 addresses, are parameters.
-/

namespace GilStreaming.Client

/-! ### Addresses -/

def NvAddress.toString (isIPv6 : String → Bool) (a : NvAddress) : String :=
  if a.address = "" then "<NULL>"
  else if isIPv6 a.address then s!"[{a.address}]:{a.port}"
  else s!"{a.address}:{a.port}"

namespace NvComputer

/-- The inner loop of `uniqueAddresses`. -/
def removeLater (address : NvAddress) (rest : List NvAddress) : List NvAddress :=
  rest.filter (· ≠ address)

/-- The outer loop. -/
def pruneDuplicates : List NvAddress → List NvAddress
  | [] => []
  | address :: rest =>
    if address.isNull then pruneDuplicates rest
    else address :: pruneDuplicates (removeLater address rest)
termination_by addresses => addresses.length
decreasing_by
  · simp
  · exact Nat.lt_succ_of_le (List.length_filter_le _ _)

def uniqueAddresses (c : NvComputer) : List NvAddress :=
  pruneDuplicates
    [c.activeAddress, c.localAddress, c.remoteAddress, c.ipv6Address, c.manualAddress]

end NvComputer

/-! ### The seeker -/

/-- What the hosts look like at some moment, by their UUIDs. -/
abbrev Hosts := String → NvComputer

/-- `ComputerSeeker`, when it has been started. -/
structure ComputerSeeker where
  computerName : String
  /-- `m_TimeoutTimer` is active. -/
  timerActive : Bool
  deriving DecidableEq, Repr

/-- What the seeker calls. -/
inductive SeekerCall
  | wake (computer : String)
  | addNewHostManually (address : String)
  | startPolling
  | stopPollingAsync
  deriving DecidableEq, Repr

namespace ComputerSeeker

section Texts

variable (toLower : String → String) (isIPv6 : String → Bool)

def matchComputer (computerName : String) (computer : NvComputer) : Bool :=
  let value := toLower computerName
  toLower computer.name = value || toLower computer.uuid = value ||
    computer.uniqueAddresses.any fun addr =>
      toLower addr.address = value || toLower (addr.toString isIPv6) = value

/-- The computers in the order of `getComputers`. -/
def findMatchingComputer (computerName : String) (computers : List String) (hosts : Hosts) :
    Option String :=
  computers.find? fun computer => matchComputer toLower isIPv6 computerName (hosts computer)

/-- The constructor and `start`. -/
def start (computerName : String) (computers : List String) (hosts : Hosts) :
    ComputerSeeker × List SeekerCall :=
  (⟨computerName, true⟩,
    match findMatchingComputer toLower isIPv6 computerName computers hosts with
    | some matchingComputer => [.wake matchingComputer, .startPolling]
    | none => [.addNewHostManually computerName, .startPolling])

/-- `onComputerUpdated` emits `computerFound`. -/
def finds (s : ComputerSeeker) (computer : NvComputer) : Bool :=
  s.timerActive && matchComputer toLower isIPv6 s.computerName computer &&
    computer.state = .online

end Texts

/-- The timer is stopped, or it has fired. -/
def stopped (s : ComputerSeeker) : ComputerSeeker := { s with timerActive := false }

end ComputerSeeker

end GilStreaming.Client
