import GilStreaming.Client.NvComputer
import GilStreaming.Lib.QMap
import GilStreaming.Lib.QtJson
import GilStreaming.Lib.Threads
import GilStreaming.Lib.Trace
import Mathlib.Data.String.Basic

/-!
# GilStreaming.Client.ComputerManager

The client's hosts, `app/backend/computermanager.cpp`: which of them may be polled and shown,
the tasks that add one, and the thread that saves them.

`ComputerManager.step` takes whatever comes next: an invocation from the UI, what an add
task or a polling thread has found out, a queued notification, or the next step of the
flush thread. An event that has to wait for a lock, because the flush thread holds it, does
nothing; it comes again later. A task's index is its name.

A polling thread that has found a change emits `computerStateChanged`, which the main
thread handles later; the hosts it has to handle are in `notifications`, and so is a host
whose change the main thread has made itself and is about to save. Any of them may be
next. The settings are two lists of host records here, the backup and the primary one;
`HostSettings` has their keys.

Left out are the deletion of a host, mDNS, and the signals, but for the one that saves.
-/

namespace GilStreaming.Client

/-! ### Polling threads -/

/-- A `PcMonitorThread`, by the address it polls. -/
structure PcMonitorThread where
  authorizedAddress : NvAddress
  interruptionRequested : Bool
  deriving DecidableEq, Repr

/-- The threads of a host. A finished thread leaves the inactive list at some later call,
which makes no difference here. -/
structure ComputerPollingEntry where
  activeThread : Option PcMonitorThread
  inactiveList : List PcMonitorThread
  active_running : ∀ t ∈ activeThread, t.interruptionRequested = false
  inactive_interrupted : ∀ t ∈ inactiveList, t.interruptionRequested = true

namespace ComputerPollingEntry

/-- `ComputerPollingEntry()`. -/
def new : ComputerPollingEntry := ⟨none, [], by simp, by simp⟩

def isActive (e : ComputerPollingEntry) : Bool := e.activeThread.isSome

/-- `setActiveThread` with a new thread, which starts. -/
def setActiveThread (e : ComputerPollingEntry) (address : NvAddress) : ComputerPollingEntry where
  activeThread := some ⟨address, false⟩
  inactiveList := e.inactiveList
  active_running := by simp
  inactive_interrupted := e.inactive_interrupted

def interrupt (e : ComputerPollingEntry) : ComputerPollingEntry where
  activeThread := none
  inactiveList := e.inactiveList ++
    (e.activeThread.map fun t => { t with interruptionRequested := true }).toList
  active_running := by simp
  inactive_interrupted := by
    intro t ht
    rcases List.mem_append.mp ht with ht | ht
    · exact e.inactive_interrupted t ht
    · obtain ⟨t', -, rfl⟩ := Option.map_eq_some_iff.mp (Option.mem_toList.mp ht)
      rfl

/-- All threads of the entry. -/
def threads (e : ComputerPollingEntry) : List PcMonitorThread :=
  e.activeThread.toList ++ e.inactiveList

/-- A thread runs on exactly if it is the active one. -/
theorem mem_threads_running {e : ComputerPollingEntry} {t : PcMonitorThread} :
    t ∈ e.threads ∧ t.interruptionRequested = false ↔ e.activeThread = some t := by
  constructor
  · rintro ⟨ht, hrun⟩
    rcases List.mem_append.mp ht with ht | ht
    · exact Option.mem_toList.mp ht
    · exact absurd (e.inactive_interrupted t ht) (by simp [hrun])
  · intro ht
    exact ⟨List.mem_append_left _ (Option.mem_toList.mpr ht), e.active_running t ht⟩

end ComputerPollingEntry

/-! ### Tasks and changes -/

/-- How far `PendingAddTask::run` has come. -/
inductive AddTaskStage
  | fetching
  /-- The host is known; its server info is fetched again, with the pinned certificate. -/
  | pinned (newComputer : ServerInfo)
  | resolved (newComputer : ServerInfo)
  /-- A new host is stored, and has still to be announced. -/
  | inserted (uuid : String)
  | finished

structure PendingAddTask where
  address : NvAddress
  stage : AddTaskStage

/-- What changes a host. -/
inductive HostChange
  /-- A polling thread got a reply. It may have been interrupted since. -/
  | polled (newState : ServerInfo)
  /-- All tries of a polling thread failed. -/
  | pollFailed
  /-- A polling thread fetched the app list. -/
  | appListFetched (appList : List NvApp)
  /-- `renameHost`. -/
  | renamed (name : String)
  /-- `AppModel::setAppHidden`. -/
  | appHidden (appId : Int) (hidden : Bool)
  /-- `AppModel::setAppDirectLaunch`. -/
  | appDirectLaunch (appId : Int) (directLaunch : Bool)
  /-- `PendingPairingTask`, with the certificate that pairing pins. -/
  | paired (serverCert : String)
  /-- `quitRunningApp`. -/
  | quitRequested
  /-- `PendingQuitTask` failed. -/
  | quitFailed

/-- The loop that changes the first app with the id. -/
def changeApp (appId : Int) (change : NvApp → NvApp) : List NvApp → List NvApp
  | [] => []
  | app :: apps =>
    if app.id = appId then change app :: apps else app :: changeApp appId change apps

/-- The changed host, and whether the change is announced. -/
def HostChange.apply (toLower : String → String) (c : NvComputer) : HostChange → NvComputer × Bool
  | polled newState =>
    if c.uuid ≠ newState.host.uuid then (c, false) else c.update toLower newState.host
  | pollFailed =>
    if c.state ≠ .offline then ({ c with state := .offline }, true) else (c, false)
  | appListFetched appList =>
    if appList.isEmpty then (c, false) else c.updateAppList toLower appList
  | renamed name => ({ c with name := name, hasCustomName := true }, true)
  | appHidden appId hidden =>
    ({ c with appList := changeApp appId (fun app => { app with hidden := hidden }) c.appList },
      true)
  | appDirectLaunch appId directLaunch =>
    if directLaunch then
      ({ c with appList := c.appList.map fun app => { app with directLaunch := app.id = appId } },
        true)
    else
      ({ c with
        appList := changeApp appId (fun app => { app with directLaunch := false }) c.appList },
        true)
  | paired serverCert => ({ c with serverCert := serverCert, pairState := .paired }, true)
  | quitRequested => ({ c with pendingQuit := true }, false)
  | quitFailed => ({ c with pendingQuit := false }, false)

/-! ### The manager -/

/-- What `DelayedFlushThread::run` is doing, with the hosts its loop has still to come to. -/
inductive FlushStage
  /-- Waits for a request. -/
  | idle
  | snapshot (rest : List String)
  | backup (rest : List String)
  | primary (rest : List String)
  deriving DecidableEq, Repr

/-- The thread is in a loop under `m_DelayedFlushMutex`. -/
def FlushStage.holdsMutex : FlushStage → Bool
  | snapshot (_ :: _) => true
  | _ => false

/-- The thread is in a loop under `m_Lock`. -/
def FlushStage.holdsLock : FlushStage → Bool
  | backup (_ :: _) | primary (_ :: _) => true
  | _ => false

structure ComputerManager where
  pollingRef : Int
  knownHosts : QMap String NvComputer
  pollEntries : QMap String ComputerPollingEntry
  lastSerializedHosts : QMap String NvComputer
  needsDelayedFlush : Bool
  authorizedAddresses : List String
  tasks : List PendingAddTask
  /-- The hosts with a `computerStateChanged` that `handleComputerStateChanged` has yet to
  handle. -/
  notifications : List String
  flush : FlushStage
  /-- The list `hostsbackup` of the settings. -/
  storedBackup : List PersistedTraits
  /-- The list `hosts` of the settings. -/
  storedHosts : List PersistedTraits

/-- What comes next. -/
inductive ManagerEvent
  | startPolling
  | stopPollingAsync
  | addAssignedHost (address : String) (port : Int)
  | clearAssignedHosts
  /-- The first server info of an add task, if it came. -/
  | addTaskAnswered (i : Nat) (serverInfo : Option ServerInfo)
  /-- The second one. -/
  | addTaskPinned (i : Nat) (serverInfo : Option ServerInfo)
  /-- An add task folds in what it has found out. -/
  | addTaskCompleted (i : Nat)
  /-- An add task announces its new host, with the WAN address that STUN found. -/
  | addTaskReported (i : Nat) (wanAddress : Option String)
  | hostChanged (uuid : String) (change : HostChange)
  /-- `handleComputerStateChanged` handles one of the notifications. -/
  | notificationDelivered (i : Nat)
  | saveHost (uuid : String)
  | saveHosts
  /-- The flush thread goes on. -/
  | flushStep

/-- `authorizedAddressKey`. -/
def authorizedAddressKey (toLower : String → String) (a : NvAddress) : String :=
  toLower (trimmed a.address) ++ ":" ++ toString a.port.toNat

namespace ComputerManager

/-- `ComputerManager(prefs)`, when `hosts` are what the settings held. -/
def start (hosts : List NvComputer) : ComputerManager :=
  let knownHosts := hosts.foldl (fun known c => known.insert c.uuid c) .empty
  { pollingRef := 0
    knownHosts := knownHosts
    pollEntries := .empty
    lastSerializedHosts := knownHosts
    needsDelayedFlush := false
    authorizedAddresses := []
    tasks := []
    notifications := []
    flush := .idle
    storedBackup := []
    storedHosts := knownHosts.values.map NvComputer.persisted }

variable (toLower : String → String) (m : ComputerManager)

def isAuthorizedAddress (a : NvAddress) : Bool :=
  !a.isNull && m.authorizedAddresses.contains (authorizedAddressKey toLower a)

/-! ### Polling -/

def startPollingComputer (c : NvComputer) : ComputerManager :=
  if m.pollingRef = 0 then m
  else if !m.isAuthorizedAddress toLower c.manualAddress then m
  else
    let pollingEntry := (m.pollEntries.lookup c.uuid).getD .new
    { m with
      pollEntries := m.pollEntries.insert c.uuid <|
        if !pollingEntry.isActive then pollingEntry.setActiveThread c.manualAddress
        else pollingEntry }

def startPolling : ComputerManager :=
  let m := { m with pollingRef := m.pollingRef + 1 }
  if m.pollingRef > 1 then m
  else m.knownHosts.values.foldl (fun m c => m.startPollingComputer toLower c) m

/-- The loop that interrupts every polling entry. -/
def interruptAll : ComputerManager :=
  { m with pollEntries := m.pollEntries.map ComputerPollingEntry.interrupt }

def stopPollingAsync : ComputerManager :=
  let m := { m with pollingRef := m.pollingRef - 1 }
  if m.pollingRef > 0 then m else m.interruptAll

/-! ### Assigned hosts -/

/-- `addNewHost` for an address that was not found through mDNS. -/
def addNewHost (address : NvAddress) : ComputerManager :=
  if !m.isAuthorizedAddress toLower address then m
  else { m with tasks := m.tasks ++ [⟨address, .fetching⟩] }

/-- The loop body of `addAssignedHost`. -/
def repoll (c : NvComputer) : ComputerManager :=
  if !m.isAuthorizedAddress toLower c.manualAddress then
    match m.pollEntries.lookup c.uuid with
    | none => m
    | some entry => { m with pollEntries := m.pollEntries.insert c.uuid entry.interrupt }
  else m.startPollingComputer toLower c

/-- The arguments that `addAssignedHost` does not refuse. -/
def validAddress (address : String) (port : Int) : Bool :=
  !(address.isEmpty || port < 1 || port > 65535)

def assignedAddress (address : String) (port : Int) : NvAddress :=
  ⟨address, UInt16.ofNat port.toNat⟩

def addAssignedHost (address : String) (port : Int) : ComputerManager :=
  if !validAddress address port then m
  else
    let assigned := assignedAddress address port
    let m := { m with authorizedAddresses := [authorizedAddressKey toLower assigned] }
    (m.knownHosts.values.foldl (fun m c => m.repoll toLower c) m).addNewHost toLower assigned

def clearAssignedHosts : ComputerManager :=
  { m with authorizedAddresses := [] }.interruptAll

/-- The hosts of `getComputers`, before they are sorted for display. -/
def getComputers : List NvComputer :=
  m.knownHosts.values.filter fun host => m.isAuthorizedAddress toLower host.manualAddress

/-! ### Add tasks -/

/-- A `computerStateChanged` of the host is queued. -/
def notify (uuid : String) : ComputerManager :=
  { m with notifications := m.notifications ++ [uuid] }

def setStage (i : Nat) (task : PendingAddTask) (stage : AddTaskStage) : ComputerManager :=
  { m with tasks := m.tasks.set i { task with stage := stage } }

def addTaskAnswered (i : Nat) (serverInfo : Option ServerInfo) : ComputerManager :=
  match m.tasks[i]? with
  | some ⟨address, .fetching⟩ =>
    m.setStage i ⟨address, .fetching⟩ <| match serverInfo with
      | none => .finished
      | some newComputer =>
        if (m.knownHosts.lookup newComputer.host.uuid).isSome then .pinned newComputer
        else .resolved newComputer
  | _ => m

def addTaskPinned (i : Nat) (serverInfo : Option ServerInfo) : ComputerManager :=
  match m.tasks[i]? with
  | some ⟨address, .pinned newComputer⟩ =>
    m.setStage i ⟨address, .pinned newComputer⟩ <| match serverInfo with
      | none => .finished
      | some httpsComputer => .resolved (newComputer.update toLower httpsComputer)
  | _ => m

/-- The end of `PendingAddTask::run`, for a host found at `address`. -/
def foldIn (i : Nat) (task : PendingAddTask) (newComputer : NvComputer) : ComputerManager :=
  match m.knownHosts.lookup newComputer.uuid with
  | some existingComputer =>
    let (merged, changed) := existingComputer.update toLower newComputer
    let m := { m.setStage i task .finished with
      knownHosts := m.knownHosts.insert newComputer.uuid merged }
    let m := m.startPollingComputer toLower merged
    if changed then m.notify newComputer.uuid else m
  | none =>
    { m.setStage i task (.inserted newComputer.uuid) with
      knownHosts := m.knownHosts.insert newComputer.uuid newComputer }.startPollingComputer toLower
        newComputer

def addTaskCompleted (i : Nat) : ComputerManager :=
  match m.tasks[i]? with
  | some ⟨address, .resolved newComputer⟩ =>
    m.foldIn toLower i ⟨address, .resolved newComputer⟩
      { newComputer.host with manualAddress := address }
  | _ => m

/-- The host is replaced by `f` of it, and a notification queued if that says so. -/
def changeHost (uuid : String) (f : NvComputer → NvComputer × Bool) : ComputerManager :=
  match m.knownHosts.lookup uuid with
  | none => m
  | some c =>
    let (c, changed) := f c
    let m := { m with knownHosts := m.knownHosts.insert uuid c }
    if changed then m.notify uuid else m

/-- `setRemoteAddress`, and the signal that follows it. -/
def announce (wanAddress : Option String) (c : NvComputer) : NvComputer × Bool :=
  match wanAddress with
  | none => (c, true)
  | some address => ({ c with remoteAddress := ⟨address, c.externalPort⟩ }, true)

def addTaskReported (i : Nat) (wanAddress : Option String) : ComputerManager :=
  match m.tasks[i]? with
  | some ⟨address, .inserted uuid⟩ =>
    (m.changeHost uuid (announce wanAddress)).setStage i ⟨address, .inserted uuid⟩ .finished
  | _ => m

/-! ### Saving -/

def saveHosts : ComputerManager := { m with needsDelayedFlush := true }

def saveHost (uuid : String) : ComputerManager :=
  match m.knownHosts.lookup uuid with
  | none => m
  | some c =>
    if !((m.lastSerializedHosts.lookup c.uuid).getD .blank).isEqualSerialized c then m.saveHosts
    else m

/-- The part of `handleComputerStateChanged` that is about a quit app. -/
def clearPendingQuit (c : NvComputer) : NvComputer × Bool :=
  if c.pendingQuit && c.currentGameId = 0 then ({ c with pendingQuit := false }, false)
  else (c, false)

def handleComputerStateChanged (uuid : String) : ComputerManager :=
  (m.changeHost uuid clearPendingQuit).saveHost uuid

def deliverNotification (i : Nat) : ComputerManager :=
  match m.notifications[i]? with
  | none => m
  | some uuid =>
    { m with notifications := m.notifications.eraseIdx i }.handleComputerStateChanged uuid

/-- The next step of `DelayedFlushThread::run`. -/
def flushStep : ComputerManager :=
  match m.flush with
  | .idle =>
    if !m.needsDelayedFlush then m
    else { m with
      needsDelayedFlush := false
      lastSerializedHosts := .empty
      flush := .snapshot m.knownHosts.keys }
  | .snapshot [] => { m with storedBackup := [], flush := .backup m.knownHosts.keys }
  | .snapshot (uuid :: rest) =>
    match m.knownHosts.lookup uuid with
    | none => { m with flush := .snapshot rest }
    | some c => { m with
        lastSerializedHosts := m.lastSerializedHosts.insert c.uuid c
        flush := .snapshot rest }
  | .backup [] => { m with storedHosts := [], flush := .primary m.knownHosts.keys }
  | .backup (uuid :: rest) =>
    match m.knownHosts.lookup uuid with
    | none => { m with flush := .backup rest }
    | some c => { m with
        storedBackup := m.storedBackup ++ [{ c.persisted with appList := [] }]
        flush := .backup rest }
  | .primary [] => { m with storedBackup := [], flush := .idle }
  | .primary (uuid :: rest) =>
    match m.knownHosts.lookup uuid with
    | none => { m with flush := .primary rest }
    | some c => { m with
        storedHosts := m.storedHosts ++ [c.persisted]
        flush := .primary rest }

/-! ### Steps -/

/-- The event has to wait for a lock that the flush thread holds. -/
def blocked : ManagerEvent → Bool
  | .startPolling | .stopPollingAsync | .addAssignedHost _ _ | .clearAssignedHosts
  | .addTaskCompleted _ => m.flush.holdsLock
  | .notificationDelivered _ | .saveHost _ | .saveHosts => m.flush.holdsMutex
  | _ => false

def perform : ManagerEvent → ComputerManager
  | .startPolling => m.startPolling toLower
  | .stopPollingAsync => m.stopPollingAsync
  | .addAssignedHost address port => m.addAssignedHost toLower address port
  | .clearAssignedHosts => m.clearAssignedHosts
  | .addTaskAnswered i serverInfo => m.addTaskAnswered i serverInfo
  | .addTaskPinned i serverInfo => m.addTaskPinned toLower i serverInfo
  | .addTaskCompleted i => m.addTaskCompleted toLower i
  | .addTaskReported i wanAddress => m.addTaskReported i wanAddress
  | .hostChanged uuid change => m.changeHost uuid (change.apply toLower)
  | .notificationDelivered i => m.deliverNotification i
  | .saveHost uuid => m.saveHost uuid
  | .saveHosts => m.saveHosts
  | .flushStep => m.flushStep

/-- **The step function.** -/
def step (e : ManagerEvent) : ComputerManager := if m.blocked e then m else m.perform toLower e

end ComputerManager

end GilStreaming.Client
