import GilStreaming.Client.ComputerManager

/-!
# GilStreaming.Client.ManagerSteps

What one step of the manager can do to its hosts, its polling threads and its tasks.

Polling changes nothing but `pollEntries`, which the `…_eq` lemmas say once for each loop;
hosts are changed by `changeHost` and by an add task that is folded in, and all of these
keep a host under its own uuid (`hosts_step`, `foldIn_lookup`).
-/

namespace GilStreaming.Client

open Trace

namespace ComputerManager

variable {toLower : String → String} {m : ComputerManager}

/-! ### Polling -/

theorem startPollingComputer_eq (toLower : String → String) (m : ComputerManager)
    (c : NvComputer) :
    ∃ entries, m.startPollingComputer toLower c = { m with pollEntries := entries } := by
  unfold startPollingComputer
  split
  · exact ⟨_, rfl⟩
  · split
    · exact ⟨_, rfl⟩
    · exact ⟨_, rfl⟩

theorem repoll_eq (toLower : String → String) (m : ComputerManager) (c : NvComputer) :
    ∃ entries, m.repoll toLower c = { m with pollEntries := entries } := by
  unfold repoll
  split
  · split
    · exact ⟨_, rfl⟩
    · exact ⟨_, rfl⟩
  · exact startPollingComputer_eq toLower m c

/-- A loop over hosts that only changes the polling entries. -/
theorem foldl_eq {f : ComputerManager → NvComputer → ComputerManager}
    (hf : ∀ m c, ∃ entries, f m c = { m with pollEntries := entries }) (m : ComputerManager)
    (cs : List NvComputer) : ∃ entries, cs.foldl f m = { m with pollEntries := entries } := by
  induction cs generalizing m with
  | nil => exact ⟨_, rfl⟩
  | cons c cs ih =>
      rw [List.foldl_cons]
      obtain ⟨entries, h⟩ := ih (f m c)
      obtain ⟨entries', h'⟩ := hf m c
      exact ⟨entries, by rw [h, h']⟩

theorem startPolling_eq (toLower : String → String) (m : ComputerManager) :
    ∃ entries, m.startPolling toLower =
      { m with pollingRef := m.pollingRef + 1, pollEntries := entries } := by
  unfold startPolling
  dsimp only
  split
  · exact ⟨_, rfl⟩
  · exact foldl_eq (startPollingComputer_eq toLower) { m with pollingRef := m.pollingRef + 1 } _

theorem stopPollingAsync_eq (m : ComputerManager) :
    ∃ entries, m.stopPollingAsync =
      { m with pollingRef := m.pollingRef - 1, pollEntries := entries } := by
  unfold stopPollingAsync
  dsimp only
  split
  · exact ⟨_, rfl⟩
  · exact ⟨_, rfl⟩

theorem assignedAddress_isNull {address : String} {port : Int}
    (h : validAddress address port = true) : (assignedAddress address port).isNull = false := by
  simp only [validAddress, Bool.not_or, Bool.and_eq_true, Bool.not_eq_true'] at h
  exact h.1.1

/-- The manager when the loop of `addAssignedHost` starts. -/
def granted (toLower : String → String) (m : ComputerManager) (address : String) (port : Int) :
    ComputerManager :=
  { m with authorizedAddresses := [authorizedAddressKey toLower (assignedAddress address port)] }

/-- An address is authorised after a grant if it has the same key. -/
theorem granted_isAuthorizedAddress {address : String} {port : Int} {a : NvAddress} :
    (m.granted toLower address port).isAuthorizedAddress toLower a = true ↔
      a.isNull = false ∧
        authorizedAddressKey toLower a =
          authorizedAddressKey toLower (assignedAddress address port) := by
  simp [isAuthorizedAddress, granted]

/-- An assigned host: its address alone is authorised, the loop has polled its hosts anew,
and a task has been started. -/
theorem addAssignedHost_eq (m : ComputerManager) {address : String} {port : Int}
    (h : validAddress address port = true) :
    m.addAssignedHost toLower address port =
      { m.knownHosts.values.foldl (fun m c => m.repoll toLower c)
          (m.granted toLower address port) with
        tasks := m.tasks ++ [⟨assignedAddress address port, .fetching⟩] } := by
  obtain ⟨entries, hloop⟩ := foldl_eq (repoll_eq toLower) (m.granted toLower address port)
    m.knownHosts.values
  have hauth : (m.granted toLower address port).isAuthorizedAddress toLower
      (assignedAddress address port) = true :=
    granted_isAuthorizedAddress.mpr ⟨assignedAddress_isNull h, rfl⟩
  simp only [addAssignedHost, h, Bool.not_true, Bool.false_eq_true, if_false]
  change (m.knownHosts.values.foldl _ (m.granted toLower address port)).addNewHost toLower _ = _
  rw [hloop]
  unfold addNewHost
  have hauth' : ({ m.granted toLower address port with
      pollEntries := entries } : ComputerManager).isAuthorizedAddress toLower
        (assignedAddress address port) = true := hauth
  rw [hauth']
  rfl

/-- All that a grant changes. -/
theorem addAssignedHost_cases (toLower : String → String) (m : ComputerManager)
    (address : String) (port : Int) :
    m.addAssignedHost toLower address port = m ∨ ∃ entries, validAddress address port = true ∧
      m.addAssignedHost toLower address port =
        { m.granted toLower address port with
          pollEntries := entries
          tasks := m.tasks ++ [⟨assignedAddress address port, .fetching⟩] } := by
  by_cases hvalid : validAddress address port = true
  · obtain ⟨entries, hloop⟩ := foldl_eq (repoll_eq toLower) (m.granted toLower address port)
      m.knownHosts.values
    exact .inr ⟨entries, hvalid, by rw [addAssignedHost_eq m hvalid, hloop]⟩
  · exact .inl (by simp [addAssignedHost, hvalid])

/-! ### Hosts -/

/-- The change of a host keeps its uuid and the address it was added at. -/
def KeepsAddress (f : NvComputer → NvComputer × Bool) : Prop :=
  ∀ c, (f c).1.uuid = c.uuid ∧ (f c).1.manualAddress = c.manualAddress

theorem updateAppList_keepsAddress (appList : List NvApp) :
    KeepsAddress fun c => c.updateAppList toLower appList := by
  intro c
  obtain ⟨apps, h⟩ := NvComputer.updateAppList_eq toLower c appList
  dsimp only
  rw [h]
  exact ⟨rfl, rfl⟩

theorem update_keepsAddress (info : ServerInfo) :
    KeepsAddress fun c => c.update toLower info.host := by
  intro c
  refine ⟨NvComputer.update_uuid, ?_⟩
  dsimp only
  rw [NvComputer.update_manualAddress info.appList_nil, if_pos info.manualAddress_null]

theorem apply_keepsAddress (change : HostChange) : KeepsAddress (change.apply toLower) := by
  intro c
  cases change with
  | polled newState =>
      unfold HostChange.apply
      dsimp only
      split
      · exact ⟨rfl, rfl⟩
      · exact update_keepsAddress newState c
  | pollFailed =>
      unfold HostChange.apply
      dsimp only
      split <;> exact ⟨rfl, rfl⟩
  | appListFetched appList =>
      unfold HostChange.apply
      dsimp only
      split
      · exact ⟨rfl, rfl⟩
      · exact updateAppList_keepsAddress appList c
  | appDirectLaunch appId directLaunch =>
      unfold HostChange.apply
      dsimp only
      split <;> exact ⟨rfl, rfl⟩
  | renamed _ | appHidden _ _ | paired _ | quitRequested | quitFailed => exact ⟨rfl, rfl⟩

theorem announce_keepsAddress (wanAddress : Option String) :
    KeepsAddress (announce wanAddress) := by
  intro c
  cases wanAddress <;> exact ⟨rfl, rfl⟩

theorem clearPendingQuit_keepsAddress : KeepsAddress clearPendingQuit := by
  intro c
  unfold clearPendingQuit
  split <;> exact ⟨rfl, rfl⟩

/-- What `changeHost` does, if it knows the host. -/
theorem changeHost_eq {uuid : String} {c : NvComputer} (h : m.knownHosts.lookup uuid = some c)
    (f : NvComputer → NvComputer × Bool) :
    m.changeHost uuid f = { m with
      knownHosts := m.knownHosts.insert uuid (f c).1
      notifications := m.notifications ++ if (f c).2 then [uuid] else [] } := by
  rw [changeHost, h]
  dsimp only
  cases (f c).2 with
  | false =>
      simp only [Bool.false_eq_true, if_false, List.append_nil]
  | true => rfl

theorem changeHost_none {uuid : String} (h : m.knownHosts.lookup uuid = none)
    (f : NvComputer → NvComputer × Bool) : m.changeHost uuid f = m := by
  rw [changeHost, h]

/-- All that `changeHost` changes. -/
theorem changeHost_frame (m : ComputerManager) (uuid : String)
    (f : NvComputer → NvComputer × Bool) :
    ∃ known notified, m.changeHost uuid f =
      { m with knownHosts := known, notifications := notified } := by
  cases h : m.knownHosts.lookup uuid with
  | none => exact ⟨_, _, changeHost_none h f⟩
  | some c => exact ⟨_, _, changeHost_eq h f⟩

/-- The hosts after one of them has been changed. -/
theorem changeHost_lookup (m : ComputerManager) (uuid : String)
    (f : NvComputer → NvComputer × Bool) (v : String) :
    (m.changeHost uuid f).knownHosts.lookup v =
      (m.knownHosts.lookup v).map fun c => if v = uuid then (f c).1 else c := by
  cases h : m.knownHosts.lookup uuid with
  | none =>
      rw [changeHost_none h]
      by_cases hv : v = uuid
      · rw [hv, h]
        rfl
      · simp [hv]
  | some c =>
      rw [changeHost_eq h]
      dsimp only
      rw [QMap.lookup_insert]
      by_cases hv : v = uuid
      · simp [hv, h]
      · simp [hv]

/-- Whether saving the host would ask for a flush. -/
def unsaved (m : ComputerManager) (uuid : String) : Bool :=
  match m.knownHosts.lookup uuid with
  | none => false
  | some c => !((m.lastSerializedHosts.lookup c.uuid).getD .blank).isEqualSerialized c

theorem saveHost_eq (m : ComputerManager) (uuid : String) :
    m.saveHost uuid =
      { m with needsDelayedFlush := m.needsDelayedFlush || m.unsaved uuid } := by
  unfold saveHost unsaved
  cases m.knownHosts.lookup uuid with
  | none => simp
  | some c =>
      dsimp only
      split
      · next h => rw [h, Bool.or_true, saveHosts]
      · next h => rw [Bool.not_eq_true] at h; rw [h, Bool.or_false]

/-- A task that is folded in: the host as it is then, and what else changes. -/
theorem foldIn_eq (toLower : String → String) (m : ComputerManager) (i : Nat)
    (task : PendingAddTask) (c : NvComputer) :
    ∃ entries stage notified, (m.knownHosts.lookup c.uuid = none → stage = .inserted c.uuid) ∧
      (∀ c', m.knownHosts.lookup c.uuid = some c' → (c'.update toLower c).2 = true →
        c.uuid ∈ notified) ∧
      m.foldIn toLower i task c = { m with
        knownHosts := m.knownHosts.insert c.uuid
          (((m.knownHosts.lookup c.uuid).map fun c' => (c'.update toLower c).1).getD c)
        tasks := m.tasks.set i { task with stage := stage }
        pollEntries := entries
        notifications := m.notifications ++ notified } := by
  unfold foldIn
  cases m.knownHosts.lookup c.uuid with
  | none =>
      dsimp only
      obtain ⟨entries, h⟩ := startPollingComputer_eq toLower
        { m.setStage i task (.inserted c.uuid) with
          knownHosts := m.knownHosts.insert c.uuid c } c
      rw [h]
      exact ⟨entries, .inserted c.uuid, [], fun _ => rfl, by simp, by rw [List.append_nil]; rfl⟩
  | some existing =>
      dsimp only
      obtain ⟨entries, h⟩ := startPollingComputer_eq toLower
        { m.setStage i task .finished with
          knownHosts := m.knownHosts.insert c.uuid (existing.update toLower c).1 }
        (existing.update toLower c).1
      rw [h]
      split
      · exact ⟨entries, .finished, [c.uuid], by simp, by simp, rfl⟩
      · -- a known host that stays as it is is not announced
        next hsame =>
          refine ⟨entries, .finished, [], by simp, ?_, by rw [List.append_nil]; rfl⟩
          rintro c' ⟨⟩ hchanged
          exact absurd hchanged hsame

/-- Saving, and the flush thread, leave hosts, threads and tasks alone. -/
theorem flushStep_eq (m : ComputerManager) :
    ∃ needs last flush backup hosts, m.flushStep =
      { m with
        needsDelayedFlush := needs
        lastSerializedHosts := last
        flush := flush
        storedBackup := backup
        storedHosts := hosts } := by
  unfold flushStep
  split
  · split <;> exact ⟨_, _, _, _, _, rfl⟩
  · exact ⟨_, _, _, _, _, rfl⟩
  · split <;> exact ⟨_, _, _, _, _, rfl⟩
  · exact ⟨_, _, _, _, _, rfl⟩
  · split <;> exact ⟨_, _, _, _, _, rfl⟩
  · exact ⟨_, _, _, _, _, rfl⟩
  · split <;> exact ⟨_, _, _, _, _, rfl⟩

/-! ### Tasks -/

/-- A host that is folded in for the `i`-th task, if the task has got so far. -/
theorem addTaskCompleted_eq {i : Nat} {address : NvAddress} {info : ServerInfo}
    (h : m.tasks[i]? = some ⟨address, .resolved info⟩) :
    m.addTaskCompleted toLower i = m.foldIn toLower i ⟨address, .resolved info⟩
      { info.host with manualAddress := address } := by
  rw [addTaskCompleted, h]

theorem addTaskCompleted_cases (toLower : String → String) (m : ComputerManager) (i : Nat) :
    m.addTaskCompleted toLower i = m ∨
      ∃ address info, m.tasks[i]? = some ⟨address, .resolved info⟩ := by
  unfold addTaskCompleted
  split
  · next address info h => exact .inr ⟨address, info, h⟩
  · exact .inl rfl

theorem addTaskAnswered_eq (m : ComputerManager) (i : Nat) (serverInfo : Option ServerInfo) :
    m.addTaskAnswered i serverInfo = m ∨ ∃ address stage stage',
      m.tasks[i]? = some ⟨address, stage⟩ ∧ (∀ uuid, stage ≠ .inserted uuid) ∧
        m.addTaskAnswered i serverInfo = { m with tasks := m.tasks.set i ⟨address, stage'⟩ } := by
  unfold addTaskAnswered
  split
  · next address h => exact .inr ⟨address, _, _, h, by simp, rfl⟩
  · exact .inl rfl

theorem addTaskPinned_eq (toLower : String → String) (m : ComputerManager) (i : Nat)
    (serverInfo : Option ServerInfo) :
    m.addTaskPinned toLower i serverInfo = m ∨ ∃ address stage stage',
      m.tasks[i]? = some ⟨address, stage⟩ ∧ (∀ uuid, stage ≠ .inserted uuid) ∧
        m.addTaskPinned toLower i serverInfo =
          { m with tasks := m.tasks.set i ⟨address, stage'⟩ } := by
  unfold addTaskPinned
  split
  · next address info h => exact .inr ⟨address, _, _, h, by simp, rfl⟩
  · exact .inl rfl

theorem addTaskReported_eq (m : ComputerManager) (i : Nat) (wanAddress : Option String) :
    m.addTaskReported i wanAddress = m ∨ ∃ address uuid,
      m.tasks[i]? = some ⟨address, .inserted uuid⟩ ∧
        m.addTaskReported i wanAddress =
          { m.changeHost uuid (announce wanAddress) with
            tasks := m.tasks.set i ⟨address, .finished⟩ } := by
  unfold addTaskReported
  split
  · next address uuid h =>
      refine .inr ⟨address, uuid, h, ?_⟩
      cases hu : m.knownHosts.lookup uuid with
      | none => rw [changeHost_none hu]; rfl
      | some c => rw [changeHost_eq hu]; rfl
  · exact .inl rfl

theorem deliverNotification_eq (m : ComputerManager) (i : Nat) :
    m.deliverNotification i = m ∨ ∃ uuid, m.notifications[i]? = some uuid ∧
      m.deliverNotification i =
        ({ m with notifications := m.notifications.eraseIdx i }.changeHost uuid
          clearPendingQuit).saveHost uuid := by
  unfold deliverNotification
  split
  · exact .inl rfl
  · next uuid h => exact .inr ⟨uuid, h, rfl⟩

/-! ### Steps -/

/-- Nothing but a task that is folded in changes the address a host was added at. -/
theorem hosts_step {e : ManagerEvent} (he : ∀ i, e ≠ .addTaskCompleted i) (v : String) :
    ∃ g : NvComputer → NvComputer,
      (∀ c, (g c).uuid = c.uuid ∧ (g c).manualAddress = c.manualAddress) ∧
        (m.perform toLower e).knownHosts.lookup v = (m.knownHosts.lookup v).map g := by
  have hsame : ∀ m' : ComputerManager, m'.knownHosts = m.knownHosts →
      ∃ g : NvComputer → NvComputer,
        (∀ c, (g c).uuid = c.uuid ∧ (g c).manualAddress = c.manualAddress) ∧
          m'.knownHosts.lookup v = (m.knownHosts.lookup v).map g :=
    fun m' h => ⟨id, fun _ => ⟨rfl, rfl⟩, by rw [h, Option.map_id]; rfl⟩
  have hchange : ∀ (m' : ComputerManager) uuid f, m'.knownHosts = m.knownHosts →
      KeepsAddress f → ∃ g : NvComputer → NvComputer,
        (∀ c, (g c).uuid = c.uuid ∧ (g c).manualAddress = c.manualAddress) ∧
          (m'.changeHost uuid f).knownHosts.lookup v = (m.knownHosts.lookup v).map g := by
    intro m' uuid f hm' hf
    refine ⟨fun c => if v = uuid then (f c).1 else c, fun c => ?_, ?_⟩
    · dsimp only
      split
      · exact hf c
      · exact ⟨rfl, rfl⟩
    · rw [changeHost_lookup, hm']
  cases e with
  | startPolling =>
      obtain ⟨entries, h⟩ := startPolling_eq toLower m
      exact hsame _ (by rw [perform, h])
  | stopPollingAsync =>
      obtain ⟨entries, h⟩ := stopPollingAsync_eq m
      exact hsame _ (by rw [perform, h])
  | addAssignedHost address port =>
      refine hsame _ ?_
      rw [perform]
      rcases addAssignedHost_cases toLower m address port with h | ⟨entries, -, h⟩
      · rw [h]
      · rw [h]
        rfl
  | clearAssignedHosts => exact hsame _ rfl
  | addTaskAnswered i serverInfo =>
      rcases addTaskAnswered_eq m i serverInfo with h | ⟨_, _, _, -, -, h⟩
      · exact hsame _ (by rw [perform, h])
      · exact hsame _ (by rw [perform, h])
  | addTaskPinned i serverInfo =>
      rcases addTaskPinned_eq toLower m i serverInfo with h | ⟨_, _, _, -, -, h⟩
      · exact hsame _ (by rw [perform, h])
      · exact hsame _ (by rw [perform, h])
  | addTaskCompleted i => exact absurd rfl (he i)
  | addTaskReported i wanAddress =>
      rcases addTaskReported_eq m i wanAddress with h | ⟨_, uuid, -, h⟩
      · exact hsame _ (by rw [perform, h])
      · rw [perform, h]
        exact hchange m uuid _ rfl (announce_keepsAddress wanAddress)
  | hostChanged uuid change => exact hchange m uuid _ rfl (apply_keepsAddress change)
  | notificationDelivered i =>
      rcases deliverNotification_eq m i with h | ⟨uuid, -, h⟩
      · exact hsame _ (by rw [perform, h])
      · rw [perform, h, saveHost_eq]
        exact hchange { m with notifications := m.notifications.eraseIdx i } uuid _ rfl
          clearPendingQuit_keepsAddress
  | saveHost uuid => exact hsame _ (by rw [perform, saveHost_eq])
  | saveHosts => exact hsame _ rfl
  | flushStep =>
      obtain ⟨_, _, _, _, _, h⟩ := flushStep_eq m
      exact hsame _ (by rw [perform, h])

/-- The event is about polling or grants, or lets a host be polled. -/
def polls : ManagerEvent → Bool
  | .startPolling | .stopPollingAsync | .addAssignedHost _ _ | .clearAssignedHosts
  | .addTaskCompleted _ => true
  | _ => false

/-- Other events leave the polling threads and the grant alone. -/
theorem polling_step {e : ManagerEvent} (he : polls e = false) :
    (m.perform toLower e).pollEntries = m.pollEntries ∧
      (m.perform toLower e).authorizedAddresses = m.authorizedAddresses := by
  cases e with
  | startPolling | stopPollingAsync | addAssignedHost _ _ | clearAssignedHosts
  | addTaskCompleted _ => exact absurd he (by simp [polls])
  | addTaskAnswered i serverInfo =>
      rcases addTaskAnswered_eq m i serverInfo with h | ⟨_, _, _, -, -, h⟩ <;>
        rw [perform, h] <;> exact ⟨rfl, rfl⟩
  | addTaskPinned i serverInfo =>
      rcases addTaskPinned_eq toLower m i serverInfo with h | ⟨_, _, _, -, -, h⟩ <;>
        rw [perform, h] <;> exact ⟨rfl, rfl⟩
  | addTaskReported i wanAddress =>
      rcases addTaskReported_eq m i wanAddress with h | ⟨_, uuid, -, h⟩
      · rw [perform, h]
        exact ⟨rfl, rfl⟩
      · obtain ⟨_, _, hchange⟩ := m.changeHost_frame uuid (announce wanAddress)
        rw [perform, h, hchange]
        exact ⟨rfl, rfl⟩
  | hostChanged uuid change =>
      obtain ⟨_, _, hchange⟩ := m.changeHost_frame uuid (change.apply toLower)
      rw [perform, hchange]
      exact ⟨rfl, rfl⟩
  | notificationDelivered i =>
      rcases deliverNotification_eq m i with h | ⟨uuid, -, h⟩
      · rw [perform, h]
        exact ⟨rfl, rfl⟩
      · obtain ⟨_, _, hchange⟩ := { m with
          notifications := m.notifications.eraseIdx i }.changeHost_frame uuid clearPendingQuit
        rw [perform, h, saveHost_eq, hchange]
        exact ⟨rfl, rfl⟩
  | saveHost uuid => rw [perform, saveHost_eq]; exact ⟨rfl, rfl⟩
  | saveHosts => exact ⟨rfl, rfl⟩
  | flushStep =>
      obtain ⟨_, _, _, _, _, h⟩ := flushStep_eq m
      rw [perform, h]
      exact ⟨rfl, rfl⟩

/-- A step adds a task for an address that is not null, or keeps its address. -/
theorem task_step {e : ManagerEvent} {j : Nat} {task : PendingAddTask}
    (h : (m.perform toLower e).tasks[j]? = some task) :
    task.address.isNull = false ∨
      ∃ task', m.tasks[j]? = some task' ∧ task'.address = task.address := by
  have hsame : ∀ {m' : ComputerManager}, m'.tasks = m.tasks → m'.tasks[j]? = some task →
      task.address.isNull = false ∨
        ∃ task', m.tasks[j]? = some task' ∧ task'.address = task.address :=
    fun hm' h => .inr ⟨task, by rw [← hm', h], rfl⟩
  have hset : ∀ {i : Nat} {address stage stage'}, m.tasks[i]? = some ⟨address, stage⟩ →
      (m.tasks.set i ⟨address, stage'⟩)[j]? = some task → task.address.isNull = false ∨
        ∃ task', m.tasks[j]? = some task' ∧ task'.address = task.address := by
    intro i address stage stage' hi h
    rcases (Threads.getElem?_set_eq_some hi).mp h with ⟨rfl, rfl⟩ | ⟨-, h⟩
    · exact .inr ⟨_, hi, rfl⟩
    · exact .inr ⟨task, h, rfl⟩
  cases e with
  | startPolling =>
      obtain ⟨entries, heq⟩ := startPolling_eq toLower m
      rw [perform, heq] at h
      exact hsame rfl h
  | stopPollingAsync =>
      obtain ⟨entries, heq⟩ := stopPollingAsync_eq m
      rw [perform, heq] at h
      exact hsame rfl h
  | addAssignedHost address port =>
      rw [perform] at h
      rcases addAssignedHost_cases toLower m address port with heq | ⟨_, hvalid, heq⟩
      · exact hsame rfl (heq ▸ h)
      · rw [heq] at h
        rcases Threads.getElem?_concat_eq_some.mp h with h | ⟨-, rfl⟩
        · exact hsame rfl h
        · exact .inl (assignedAddress_isNull hvalid)
  | addTaskAnswered i serverInfo =>
      rw [perform] at h
      rcases addTaskAnswered_eq m i serverInfo with heq | ⟨_, _, _, hi, -, heq⟩
      · exact hsame rfl (heq ▸ h)
      · rw [heq] at h
        exact hset hi h
  | addTaskPinned i serverInfo =>
      rw [perform] at h
      rcases addTaskPinned_eq toLower m i serverInfo with heq | ⟨_, _, _, hi, -, heq⟩
      · exact hsame rfl (heq ▸ h)
      · rw [heq] at h
        exact hset hi h
  | addTaskCompleted i =>
      rw [perform] at h
      rcases addTaskCompleted_cases toLower m i with heq | ⟨address, info, hi⟩
      · exact hsame rfl (heq ▸ h)
      · obtain ⟨_, _, _, -, -, heq⟩ := foldIn_eq toLower m i ⟨address, .resolved info⟩
          { info.host with manualAddress := address }
        rw [addTaskCompleted_eq hi, heq] at h
        exact hset hi h
  | addTaskReported i wanAddress =>
      rw [perform] at h
      rcases addTaskReported_eq m i wanAddress with heq | ⟨_, uuid, hi, heq⟩
      · exact hsame rfl (heq ▸ h)
      · rw [heq] at h
        exact hset hi h
  | hostChanged uuid change =>
      obtain ⟨_, _, hchange⟩ := m.changeHost_frame uuid (change.apply toLower)
      rw [perform, hchange] at h
      exact hsame rfl h
  | notificationDelivered i =>
      rw [perform] at h
      rcases deliverNotification_eq m i with heq | ⟨uuid, -, heq⟩
      · exact hsame rfl (heq ▸ h)
      · obtain ⟨_, _, hchange⟩ := { m with
          notifications := m.notifications.eraseIdx i }.changeHost_frame uuid clearPendingQuit
        rw [heq, saveHost_eq, hchange] at h
        exact hsame rfl h
  | clearAssignedHosts | saveHosts => exact hsame rfl h
  | saveHost uuid =>
      rw [perform, saveHost_eq] at h
      exact hsame rfl h
  | flushStep =>
      obtain ⟨_, _, _, _, _, heq⟩ := flushStep_eq m
      rw [perform, heq] at h
      exact hsame rfl h

/-- The hosts after a task has been folded in. -/
theorem foldIn_lookup (m : ComputerManager) (i : Nat) (task : PendingAddTask) (c : NvComputer)
    (v : String) :
    (m.foldIn toLower i task c).knownHosts.lookup v =
      if v = c.uuid then
        some (((m.knownHosts.lookup c.uuid).map fun c' => (c'.update toLower c).1).getD c)
      else m.knownHosts.lookup v := by
  obtain ⟨entries, stage, notified, -, -, h⟩ := foldIn_eq toLower m i task c
  rw [h]
  exact QMap.lookup_insert ..

end ComputerManager

end GilStreaming.Client
