import GilStreaming.Client.Visibility

/-!
# GilStreaming.Client.HostSaving

Whether a change of a host is ever lost on its way to the settings.

`saveHost` asks for a flush if the host differs from what `lastSerializedHosts` has, the
snapshot that the flush thread takes before it writes. The thread writes the hosts as they
are later on, though, so after a flush the settings may hold something else than the
snapshot. As long as a host differs from the snapshot that is made up for by the notification
of its change (`Covered`), but a change that gives the host back what the snapshot has is
taken for no change at all: `GivesBack` is that step.
-/

namespace GilStreaming.Client

open Trace

/-- The flush thread will still come to write the host. -/
def FlushStage.willWrite (u : String) : FlushStage → Bool
  | idle => false
  | snapshot _ | backup _ => true
  | primary rest => rest.contains u

namespace ComputerManager

variable {toLower : String → String} {m m' : ComputerManager} {u : String}

/-- What of the host should be in the settings. -/
def memory (m : ComputerManager) (u : String) : Option PersistedTraits :=
  (m.knownHosts.lookup u).map NvComputer.persisted

/-- What `saveHost` compares the host with. -/
def lastSaved (m : ComputerManager) (u : String) : PersistedTraits :=
  ((m.lastSerializedHosts.lookup u).getD .blank).persisted

/-- A notification of the host is queued, or an add task is about to queue one. -/
def Announced (m : ComputerManager) (u : String) : Prop :=
  u ∈ m.notifications ∨ ∃ (i : Nat) (address : NvAddress),
    m.tasks[i]? = some ⟨address, .inserted u⟩

/-- Nothing is queued, and no flush is requested or running. -/
def Quiescent (m : ComputerManager) : Prop :=
  (∀ u, ¬ Announced m u) ∧ m.needsDelayedFlush = false ∧ m.flush = .idle

/-- The host that an event changes, as it is afterwards. -/
def changes (toLower : String → String) (m : ComputerManager) :
    ManagerEvent → Option (String × NvComputer)
  | .hostChanged uuid change =>
    (m.knownHosts.lookup uuid).map fun c => (uuid, (change.apply toLower c).1)
  | .addTaskCompleted i =>
    match m.tasks[i]? with
    | some ⟨address, .resolved info⟩ =>
      let newComputer := { info.host with manualAddress := address }
      some (newComputer.uuid, ((m.knownHosts.lookup newComputer.uuid).map fun c =>
        (c.update toLower newComputer).1).getD newComputer)
    | _ => none
  | .addTaskReported i wanAddress =>
    match m.tasks[i]? with
    | some ⟨_, .inserted uuid⟩ =>
      (m.knownHosts.lookup uuid).map fun c => (uuid, (announce wanAddress c).1)
    | _ => none
  | _ => none

/-- The event gives a host back what the last snapshot has, while the settings hold something
else, and no flush is requested or will still write the host. -/
def GivesBack (toLower : String → String) (m : ComputerManager) (e : ManagerEvent) : Prop :=
  match changes toLower m e with
  | none => False
  | some (u, c) =>
    c.persisted = m.lastSaved u ∧ c.persisted ∉ m.storedHosts ∧ m.needsDelayedFlush = false ∧
      m.flush.willWrite u = false

instance (toLower : String → String) (m : ComputerManager) (e : ManagerEvent) :
    Decidable (GivesBack toLower m e) :=
  match h : changes toLower m e with
  | none => isFalse (by simp [GivesBack, h])
  | some (u, c) =>
    decidable_of_iff (c.persisted = m.lastSaved u ∧ c.persisted ∉ m.storedHosts ∧
      m.needsDelayedFlush = false ∧ m.flush.willWrite u = false) (by simp [GivesBack, h])

/-! ### The invariant -/

/-- The settings have the host as it is, or have it not if there is none. -/
def StoredAsIs (m : ComputerManager) (u : String) : Prop :=
  ∀ p : PersistedTraits, p.uuid = u → (p ∈ m.storedHosts ↔ m.memory u = some p)

/-- The host is stored as it is, or there is something to come that stores it. -/
def Covered (m : ComputerManager) (u : String) : Prop :=
  m.needsDelayedFlush = true ∨ m.flush.willWrite u = true ∨ StoredAsIs m u ∨
    Announced m u ∧ ∃ p, m.memory u = some p ∧ p ≠ m.lastSaved u

/-- The invariant of the saving. -/
structure Saving (m : ComputerManager) : Prop where
  wellFormed : WellFormed m
  distinct : (m.storedHosts.map PersistedTraits.uuid).Nodup
  unwritten : ∀ rest, m.flush = .primary rest →
    rest.Nodup ∧ ∀ p ∈ m.storedHosts, p.uuid ∉ rest
  covered : ∀ u, Covered m u

theorem memory_uuid (h : WellFormed m) {p : PersistedTraits} (hp : m.memory u = some p) :
    p.uuid = u := by
  obtain ⟨c, hc, rfl⟩ := Option.map_eq_some_iff.mp hp
  exact h.keyed u c hc

/-- Saving a host asks for a flush exactly if it differs from the snapshot. -/
theorem unsaved_iff (h : WellFormed m) :
    m.unsaved u = true ↔ ∃ p, m.memory u = some p ∧ p ≠ m.lastSaved u := by
  unfold unsaved memory
  cases hc : m.knownHosts.lookup u with
  | none => simp
  | some c =>
      simp only [Option.map_some, Option.some.injEq, exists_eq_left', Bool.not_eq_true']
      rw [h.keyed u c hc, ← Bool.not_eq_true, NvComputer.isEqualSerialized_iff, lastSaved,
        ne_eq, eq_comm]

/-- Two stored records of one host are the same. -/
theorem stored_unique (h : (m.storedHosts.map PersistedTraits.uuid).Nodup)
    {p q : PersistedTraits} (hp : p ∈ m.storedHosts) (hq : q ∈ m.storedHosts)
    (huuid : p.uuid = q.uuid) : p = q :=
  List.inj_on_of_nodup_map h hp hq huuid

/-- A host that stays as it is stays covered, unless its notification gets lost. -/
theorem Covered.of_same (h : Covered m u)
    (hneeds : m.needsDelayedFlush = true → m'.needsDelayedFlush = true)
    (hflush : m'.flush = m.flush) (hstored : m'.storedHosts = m.storedHosts)
    (hlast : m'.lastSerializedHosts = m.lastSerializedHosts) (hmem : m'.memory u = m.memory u)
    (hann : ∀ p, m.memory u = some p → p ≠ m.lastSaved u → Announced m u → Announced m' u) :
    Covered m' u := by
  unfold Covered StoredAsIs lastSaved at *
  rw [hflush, hstored, hlast, hmem]
  rcases h with h | h | h | ⟨h, p, hp, hdiffers⟩
  · exact .inl (hneeds h)
  · exact .inr (.inl h)
  · exact .inr (.inr (.inl h))
  · exact .inr (.inr (.inr ⟨hann p hp hdiffers h, p, hp, hdiffers⟩))

/-- **A changed host stays covered**: the change is announced, and either the host differs
from the snapshot or the settings have it already. -/
theorem Covered.of_change (hwf : WellFormed m')
    (hdistinct : (m.storedHosts.map PersistedTraits.uuid).Nodup)
    (hneeds : m'.needsDelayedFlush = m.needsDelayedFlush) (hflush : m'.flush = m.flush)
    (hstored : m'.storedHosts = m.storedHosts)
    (hlast : m'.lastSerializedHosts = m.lastSerializedHosts) (hann : Announced m' u)
    {p : PersistedTraits} (hmem : m'.memory u = some p)
    (hsafe : m.needsDelayedFlush = false → m.flush.willWrite u = false → p = m.lastSaved u →
      p ∈ m.storedHosts) : Covered m' u := by
  by_cases hneeds' : m.needsDelayedFlush = true
  · exact .inl (hneeds.trans hneeds')
  by_cases hwill : m.flush.willWrite u = true
  · exact .inr (.inl (by rw [hflush, hwill]))
  -- no flush is going to write the host
  refine .inr (.inr ?_)
  by_cases hlast' : p = m.lastSaved u
  · have hp := hsafe (Bool.not_eq_true _ ▸ hneeds') (Bool.not_eq_true _ ▸ hwill) hlast'
    refine .inl fun q hq => ?_
    rw [hstored, hmem, Option.some.injEq]
    constructor
    · exact fun hmem' => stored_unique hdistinct hp hmem' ((memory_uuid hwf hmem).trans hq.symm)
    · rintro rfl
      exact hp
  · refine .inr ⟨hann, p, hmem, ?_⟩
    rw [lastSaved, hlast]
    exact hlast'

/-! ### Changes of hosts -/

/-- The step leaves the saving alone and announces what it changes. -/
structure ChangesHosts (toLower : String → String) (m : ComputerManager) (e : ManagerEvent)
    (m' : ComputerManager) : Prop where
  needs : m'.needsDelayedFlush = m.needsDelayedFlush
  flush : m'.flush = m.flush
  stored : m'.storedHosts = m.storedHosts
  last : m'.lastSerializedHosts = m.lastSerializedHosts
  announced : ∀ u p, m.memory u = some p → Announced m u → Announced m' u
  memory : ∀ u, m'.memory u = m.memory u ∨ Announced m' u ∧
    ∃ c, changes toLower m e = some (u, c) ∧ m'.memory u = some c.persisted

theorem Saving.of_changesHosts (h : Saving m) {e : ManagerEvent} (hwf : WellFormed m')
    (hgood : ¬ GivesBack toLower m e) (hm' : ChangesHosts toLower m e m') : Saving m' where
  wellFormed := hwf
  distinct := by rw [hm'.stored]; exact h.distinct
  unwritten := by rw [hm'.flush, hm'.stored]; exact h.unwritten
  covered := by
    intro u
    rcases hm'.memory u with hmem | ⟨hann, c, hc, hmem⟩
    · exact (h.covered u).of_same (fun hneeds => hm'.needs.trans hneeds) hm'.flush hm'.stored
        hm'.last hmem fun p hp _ => hm'.announced u p hp
    · refine .of_change hwf h.distinct hm'.needs hm'.flush hm'.stored hm'.last hann hmem
        fun hneeds hwill hlast => ?_
      by_contra hnot
      rw [GivesBack, hc] at hgood
      exact hgood ⟨hlast, hnot, hneeds, hwill⟩

/-- What does nothing to hosts and notifications, and leaves the tasks alone that have a host
to announce, changes no hosts. -/
theorem ChangesHosts.of_eq {e : ManagerEvent} (hknown : m'.knownHosts = m.knownHosts)
    (hneeds : m'.needsDelayedFlush = m.needsDelayedFlush) (hflush : m'.flush = m.flush)
    (hstored : m'.storedHosts = m.storedHosts)
    (hlast : m'.lastSerializedHosts = m.lastSerializedHosts)
    (hann : ∀ u, Announced m u → Announced m' u) : ChangesHosts toLower m e m' where
  needs := hneeds
  flush := hflush
  stored := hstored
  last := hlast
  announced := fun u _ _ => hann u
  memory := fun u => .inl (by unfold ComputerManager.memory; rw [hknown])

/-- A task that has no host to announce goes on, and the others still do. -/
theorem announced_set {i : Nat} {address : NvAddress} {stage stage' : AddTaskStage}
    (hi : m.tasks[i]? = some ⟨address, stage⟩) (hstage : ∀ uuid, stage ≠ .inserted uuid)
    (htasks : m'.tasks = m.tasks.set i ⟨address, stage'⟩)
    (hnotes : ∀ u, u ∈ m.notifications → u ∈ m'.notifications) (h : Announced m u) :
    Announced m' u := by
  rcases h with h | ⟨j, address', hj⟩
  · exact .inl (hnotes u h)
  · refine .inr ⟨j, address', ?_⟩
    rw [htasks]
    refine (Threads.getElem?_set_eq_some hi).mpr (.inr ⟨?_, hj⟩)
    rintro rfl
    exact hstage u (PendingAddTask.mk.inj (Option.some.inj (hi.symm.trans hj))).2

theorem ChangesHosts.same {e : ManagerEvent} : ChangesHosts toLower m e m :=
  .of_eq rfl rfl rfl rfl rfl fun _ => id

/-- A task without a host to announce goes on. -/
theorem ChangesHosts.of_stage {e : ManagerEvent} {i : Nat} {address : NvAddress}
    {stage stage' : AddTaskStage} (hi : m.tasks[i]? = some ⟨address, stage⟩)
    (hstage : ∀ uuid, stage ≠ .inserted uuid) :
    ChangesHosts toLower m e { m with tasks := m.tasks.set i ⟨address, stage'⟩ } :=
  .of_eq rfl rfl rfl rfl rfl fun _ => announced_set hi hstage rfl fun _ => id

/-- A grant starts a task. -/
theorem ChangesHosts.of_grant (toLower : String → String) (m : ComputerManager)
    (address : String) (port : Int) :
    ChangesHosts toLower m (.addAssignedHost address port)
      (m.addAssignedHost toLower address port) := by
  rcases addAssignedHost_cases toLower m address port with heq | ⟨_, -, heq⟩
  · rw [heq]
    exact .same
  · rw [heq]
    refine .of_eq rfl rfl rfl rfl rfl fun u hann => hann.imp_right ?_
    rintro ⟨i, address', hi⟩
    exact ⟨i, address', Threads.getElem?_concat_eq_some.mpr (.inl hi)⟩

/-- An unannounced change is none of what is saved. -/
theorem apply_persisted {c : NvComputer} {change : HostChange}
    (h : (change.apply toLower c).2 = false) :
    (change.apply toLower c).1.persisted = c.persisted := by
  cases change with
  | polled newState =>
      unfold HostChange.apply at h ⊢
      dsimp only at h ⊢
      split
      · rfl
      · next huuid =>
          rw [if_neg huuid] at h
          rw [NvComputer.update_unchanged newState.appList_nil h]
  | pollFailed =>
      unfold HostChange.apply
      dsimp only
      split <;> rfl
  | appListFetched appList =>
      unfold HostChange.apply NvComputer.updateAppList at h ⊢
      dsimp only at h ⊢
      split
      · rfl
      · next hempty =>
          split
          · rfl
          · next hne => simp [hempty, hne] at h
  | appDirectLaunch appId directLaunch =>
      unfold HostChange.apply at h
      dsimp only at h
      split at h <;> exact absurd h (by simp)
  | renamed _ | appHidden _ _ | paired _ => exact absurd h (by simp [HostChange.apply])
  | quitRequested | quitFailed => rfl

/-- A changed host, with what else happens to the tasks. -/
theorem ChangesHosts.of_changeHost {e : ManagerEvent} {uuid : String} {c : NvComputer}
    {f : NvComputer → NvComputer × Bool} (hc : m.knownHosts.lookup uuid = some c)
    (he : changes toLower m e = some (uuid, (f c).1))
    (hf : (f c).2 = false → (f c).1.persisted = c.persisted) (tasks : List PendingAddTask)
    (hann : ∀ v, Announced m v →
      Announced { m.changeHost uuid f with tasks := tasks } v) :
    ChangesHosts toLower m e { m.changeHost uuid f with tasks := tasks } := by
  rw [changeHost_eq hc] at hann ⊢
  refine ⟨rfl, rfl, rfl, rfl, fun v _ _ => hann v, fun v => ?_⟩
  unfold ComputerManager.memory
  dsimp only
  rw [QMap.lookup_insert]
  by_cases hv : v = uuid
  · subst hv
    rw [if_pos rfl, hc, Option.map_some, Option.map_some]
    cases hchanged : (f c).2 with
    | false => exact .inl (congrArg some (hf hchanged))
    | true => exact .inr ⟨.inl (by simp), _, he, rfl⟩
  · rw [if_neg hv]
    exact .inl rfl

/-- A host that is polled, or changed on the client. -/
theorem ChangesHosts.of_hostChange (toLower : String → String) (m : ComputerManager)
    (uuid : String) (change : HostChange) :
    ChangesHosts toLower m (.hostChanged uuid change)
      (m.changeHost uuid (change.apply toLower)) := by
  cases hc : m.knownHosts.lookup uuid with
  | none =>
      rw [changeHost_none hc]
      exact .same
  | some c =>
      have heq : m.changeHost uuid (change.apply toLower) =
          { m.changeHost uuid (change.apply toLower) with tasks := m.tasks } := by
        rw [changeHost_eq hc]
      rw [heq]
      refine .of_changeHost hc (by rw [changes, hc]; rfl) apply_persisted _ fun v hann => ?_
      rw [changeHost_eq hc]
      exact hann.imp_left fun hmem => List.mem_append_left _ hmem

/-- A host that is folded in. -/
theorem ChangesHosts.of_foldIn {i : Nat} {address : NvAddress} {info : ServerInfo}
    (hi : m.tasks[i]? = some ⟨address, .resolved info⟩) :
    ChangesHosts toLower m (.addTaskCompleted i) (m.addTaskCompleted toLower i) := by
  obtain ⟨entries, stage, notified, hnew, hchanged, heq⟩ := foldIn_eq toLower m i
    ⟨address, .resolved info⟩ { info.host with manualAddress := address }
  rw [addTaskCompleted_eq hi, heq]
  have hann : ∀ u, Announced m u → Announced { m with
      tasks := m.tasks.set i ⟨address, stage⟩
      notifications := m.notifications ++ notified } u := fun u h =>
    announced_set hi (by simp) rfl (fun _ h => List.mem_append_left _ h) h
  refine ⟨rfl, rfl, rfl, rfl, fun u _ _ => hann u, fun u => ?_⟩
  have he : changes toLower m (.addTaskCompleted i) = some (info.host.uuid,
      ((m.knownHosts.lookup info.host.uuid).map fun c =>
        (c.update toLower { info.host with manualAddress := address }).1).getD
          { info.host with manualAddress := address }) := by
    rw [changes, hi]
  unfold ComputerManager.memory
  dsimp only at hnew hchanged ⊢
  rw [QMap.lookup_insert]
  by_cases hu : u = info.host.uuid
  · -- a new host is announced by its task, a known one by a notification
    subst hu
    rw [if_pos rfl]
    cases hknown : m.knownHosts.lookup info.host.uuid with
    | none =>
        rw [hknown] at he
        refine .inr ⟨.inr ⟨i, address, ?_⟩, _, he, rfl⟩
        rw [hnew hknown]
        exact List.getElem?_set_self (List.getElem?_eq_some_iff.mp hi).1
    | some c =>
        rw [hknown] at he
        cases hupdate : (c.update toLower { info.host with manualAddress := address }).2 with
        | false =>
            exact .inl (congrArg (fun c : NvComputer => some c.persisted)
              (NvComputer.update_unchanged (by exact info.appList_nil) hupdate))
        | true =>
            exact .inr ⟨.inl (List.mem_append_right _ (hchanged c hknown hupdate)), _, he, rfl⟩
  · rw [if_neg hu]
    exact .inl rfl

/-- A new host that is announced. -/
theorem ChangesHosts.of_report {i : Nat} {wanAddress : Option String} {address : NvAddress}
    {uuid : String} (hi : m.tasks[i]? = some ⟨address, .inserted uuid⟩) :
    ChangesHosts toLower m (.addTaskReported i wanAddress)
      { m.changeHost uuid (announce wanAddress) with
        tasks := m.tasks.set i ⟨address, .finished⟩ } := by
  have hothers : ∀ {v : String} {j : Nat} {address' : NvAddress}, v ≠ uuid →
      m.tasks[j]? = some ⟨address', .inserted v⟩ →
      (m.tasks.set i ⟨address, .finished⟩)[j]? = some ⟨address', .inserted v⟩ := by
    intro v j address' hv hj
    refine (Threads.getElem?_set_eq_some hi).mpr (.inr ⟨?_, hj⟩)
    rintro rfl
    have hstage := (PendingAddTask.mk.inj (Option.some.inj (hi.symm.trans hj))).2
    exact hv (AddTaskStage.inserted.inj hstage).symm
  cases hc : m.knownHosts.lookup uuid with
  | none =>
      rw [changeHost_none hc]
      refine ⟨rfl, rfl, rfl, rfl, fun v p hp hann => ?_, fun v => .inl rfl⟩
      have hv : v ≠ uuid := by
        rintro rfl
        rw [ComputerManager.memory, hc] at hp
        exact absurd hp (by simp)
      exact hann.imp_right fun ⟨j, address', hj⟩ => ⟨j, address', hothers hv hj⟩
  | some c =>
      have hannounced : (announce wanAddress c).2 = true := by cases wanAddress <;> rfl
      refine .of_changeHost hc (by rw [changes, hi]; simp only [hc, Option.map_some]) (fun h =>
        absurd (h.symm.trans hannounced) Bool.false_ne_true) _ fun v hann => ?_
      rw [changeHost_eq hc, hannounced]
      by_cases hv : v = uuid
      · exact .inl (List.mem_append_right _ (by simp [hv]))
      · rcases hann with hmem | ⟨j, address', hj⟩
        · exact .inl (List.mem_append_left _ hmem)
        · exact .inr ⟨j, address', hothers hv hj⟩

/-- The event is about the saving. -/
def saves : ManagerEvent → Bool
  | .notificationDelivered _ | .saveHost _ | .saveHosts | .flushStep => true
  | _ => false

/-- Every other event leaves the saving alone and announces what it changes. -/
theorem perform_changesHosts {e : ManagerEvent} (he : saves e = false) :
    ChangesHosts toLower m e (m.perform toLower e) := by
  cases e with
  | startPolling =>
      obtain ⟨_, heq⟩ := startPolling_eq toLower m
      rw [perform, heq]
      exact .of_eq rfl rfl rfl rfl rfl fun _ => id
  | stopPollingAsync =>
      obtain ⟨_, heq⟩ := stopPollingAsync_eq m
      rw [perform, heq]
      exact .of_eq rfl rfl rfl rfl rfl fun _ => id
  | addAssignedHost address port => exact .of_grant toLower m address port
  | clearAssignedHosts => exact .of_eq rfl rfl rfl rfl rfl fun _ => id
  | addTaskAnswered i serverInfo =>
      rcases addTaskAnswered_eq m i serverInfo with heq | ⟨_, _, _, hi, hstage, heq⟩
      · rw [perform, heq]
        exact .same
      · rw [perform, heq]
        exact .of_stage hi hstage
  | addTaskPinned i serverInfo =>
      rcases addTaskPinned_eq toLower m i serverInfo with heq | ⟨_, _, _, hi, hstage, heq⟩
      · rw [perform, heq]
        exact .same
      · rw [perform, heq]
        exact .of_stage hi hstage
  | addTaskCompleted i =>
      rcases addTaskCompleted_cases toLower m i with heq | ⟨address, info, hi⟩
      · rw [perform, heq]
        exact .same
      · rw [perform]
        exact .of_foldIn hi
  | addTaskReported i wanAddress =>
      rcases addTaskReported_eq m i wanAddress with heq | ⟨address, uuid, hi, heq⟩
      · rw [perform, heq]
        exact .same
      · rw [perform, heq]
        exact .of_report hi
  | hostChanged uuid change => exact .of_hostChange toLower m uuid change
  | notificationDelivered _ | saveHost _ | saveHosts | flushStep =>
      exact absurd he (by simp [saves])

/-! ### Saving and flushing -/

theorem Saving.of_needs (h : Saving m) (needs : Bool) (hneeds : m.needsDelayedFlush = true →
    needs = true) : Saving { m with needsDelayedFlush := needs } where
  wellFormed := ⟨h.wellFormed.keyed, h.wellFormed.polled_known, h.wellFormed.task_address⟩
  distinct := h.distinct
  unwritten := h.unwritten
  covered := fun u => (h.covered u).of_same hneeds rfl rfl rfl rfl fun _ _ _ => id

theorem clearPendingQuit_persisted (c : NvComputer) :
    (clearPendingQuit c).2 = false ∧ (clearPendingQuit c).1.persisted = c.persisted := by
  unfold clearPendingQuit
  split <;> exact ⟨rfl, rfl⟩

/-- The part of handling a notification that is about a quit app changes nothing that is
saved. -/
theorem changeHost_clearPendingQuit (m : ComputerManager) (uuid : String) :
    ∃ known, m.changeHost uuid clearPendingQuit = { m with knownHosts := known } ∧
      ∀ v, ({ m with knownHosts := known } : ComputerManager).memory v = m.memory v := by
  cases hc : m.knownHosts.lookup uuid with
  | none => exact ⟨m.knownHosts, changeHost_none hc _, fun _ => rfl⟩
  | some c =>
      obtain ⟨hsilent, hsame⟩ := clearPendingQuit_persisted c
      refine ⟨m.knownHosts.insert uuid (clearPendingQuit c).1, ?_, fun v => ?_⟩
      · rw [changeHost_eq hc, hsilent]
        simp only [Bool.false_eq_true, if_false, List.append_nil]
      · unfold memory
        dsimp only
        rw [QMap.lookup_insert]
        by_cases hv : v = uuid
        · rw [if_pos hv, hv, hc, Option.map_some, Option.map_some, hsame]
        · rw [if_neg hv]

/-- **A notification is handled**: the host is saved if it differs from the snapshot, and
needs its notification no more otherwise. -/
theorem Saving.of_delivery (h : Saving m) {i : Nat} {uuid : String}
    (hi : m.notifications[i]? = some uuid)
    (hwf : WellFormed (({ m with notifications := m.notifications.eraseIdx i }.changeHost uuid
      clearPendingQuit).saveHost uuid)) :
    Saving (({ m with notifications := m.notifications.eraseIdx i }.changeHost uuid
      clearPendingQuit).saveHost uuid) := by
  obtain ⟨known, heq, hmem⟩ := changeHost_clearPendingQuit
    { m with notifications := m.notifications.eraseIdx i } uuid
  rw [heq, saveHost_eq] at hwf ⊢
  refine ⟨hwf, h.distinct, h.unwritten, fun u => ?_⟩
  cases hunsaved : ({ m with
      notifications := m.notifications.eraseIdx i
      knownHosts := known } : ComputerManager).unsaved uuid with
  | true => exact .inl (Bool.or_true _)
  | false =>
      refine (h.covered u).of_same (fun hneeds => by simp [hneeds]) rfl rfl rfl (hmem u) ?_
      intro p hp hdiffers hann
      -- the host of the notification is the one that does not differ
      have hu : u ≠ uuid := by
        rintro rfl
        have hwf' : WellFormed ({ m with
            notifications := m.notifications.eraseIdx i
            knownHosts := known } : ComputerManager) :=
          ⟨hwf.keyed, hwf.polled_known, hwf.task_address⟩
        have hneeds := (unsaved_iff hwf').mpr ⟨p, (hmem u).trans hp, hdiffers⟩
        exact absurd (hunsaved.symm.trans hneeds) Bool.false_ne_true
      refine hann.imp_left fun hmem => ?_
      obtain ⟨j, hj⟩ := List.mem_iff_getElem?.mp hmem
      refine List.mem_eraseIdx_iff_getElem?.mpr ⟨j, ?_, hj⟩
      rintro rfl
      exact hu (Option.some.inj (hj.symm.trans hi))

/-- The flush thread turns to the primary list. -/
theorem Saving.of_primaryStart (h : Saving m) :
    Saving { m with storedHosts := [], flush := .primary m.knownHosts.keys } where
  wellFormed := ⟨h.wellFormed.keyed, h.wellFormed.polled_known, h.wellFormed.task_address⟩
  distinct := List.nodup_nil
  unwritten := by
    rintro rest ⟨⟩
    exact ⟨m.knownHosts.keys_nodup, by simp⟩
  covered := by
    intro u
    by_cases hu : u ∈ m.knownHosts.keys
    · exact .inr (.inl (List.contains_iff_mem.mpr hu))
    · refine .inr (.inr (.inl fun p _ => iff_of_false (by simp) fun hp => hu ?_))
      obtain ⟨c, hc, -⟩ := Option.map_eq_some_iff.mp hp
      exact QMap.mem_keys.mpr ⟨c, hc⟩

/-- The flush thread writes a host, or finds none to write. -/
theorem Saving.of_primaryWrite (h : Saving m) {uuid : String} {rest : List String}
    (hflush : m.flush = .primary (uuid :: rest)) :
    Saving { m with
      storedHosts := m.storedHosts ++ (m.memory uuid).toList
      flush := .primary rest } := by
  obtain ⟨hnodup, hunwritten⟩ := h.unwritten _ hflush
  obtain ⟨huuid, hrest⟩ := List.nodup_cons.mp hnodup
  have hnew : ∀ p ∈ (m.memory uuid).toList, p.uuid = uuid := fun p hp =>
    memory_uuid h.wellFormed (Option.mem_toList.mp hp)
  refine ⟨⟨h.wellFormed.keyed, h.wellFormed.polled_known, h.wellFormed.task_address⟩, ?_, ?_,
    fun u => ?_⟩
  · -- the hosts still to be written are not among those stored
    dsimp only
    rw [List.map_append]
    refine List.nodup_append.mpr ⟨h.distinct, ?_, ?_⟩
    · cases m.memory uuid with
      | none => exact List.nodup_nil
      | some p => exact List.nodup_singleton _
    · intro v hv w hw
      obtain ⟨p, hp, rfl⟩ := List.mem_map.mp hv
      obtain ⟨q, hq, rfl⟩ := List.mem_map.mp hw
      rw [hnew q hq]
      rintro heq
      exact hunwritten p hp (heq ▸ List.mem_cons_self)
  · rintro rest' ⟨⟩
    refine ⟨hrest, fun p hp => ?_⟩
    rcases List.mem_append.mp hp with hp | hp
    · exact fun hmem => hunwritten p hp (List.mem_cons_of_mem _ hmem)
    · rwa [hnew p hp]
  · by_cases hu : u = uuid
    · -- the host that is written
      subst hu
      refine .inr (.inr (.inl fun p hp => ?_))
      dsimp only
      rw [List.mem_append, Option.mem_toList]
      refine ⟨fun hmem => hmem.resolve_left fun hstored => ?_, .inr⟩
      exact hunwritten p hstored (hp ▸ List.mem_cons_self)
    · -- another host: what covers it is left alone
      rcases h.covered u with hneeds | hwill | hstored | ⟨hann, hdiffers⟩
      · exact .inl hneeds
      · rw [hflush, FlushStage.willWrite, List.contains_iff_mem] at hwill
        exact .inr (.inl (List.contains_iff_mem.mpr ((List.mem_cons.mp hwill).resolve_left hu)))
      · refine .inr (.inr (.inl fun p hp => Iff.trans ?_ (hstored p hp)))
        refine ⟨fun hmem => (List.mem_append.mp hmem).resolve_right fun hq => ?_, fun hmem =>
          List.mem_append_left _ hmem⟩
        exact hu (hp.symm.trans (hnew p hq))
      · exact .inr (.inr (.inr ⟨hann, hdiffers⟩))

/-- **The flush thread goes on.** -/
theorem Saving.of_flushStep (h : Saving m) : Saving m.flushStep := by
  have hwf : ∀ {m' : ComputerManager}, m'.knownHosts = m.knownHosts →
      m'.pollEntries = m.pollEntries → m'.tasks = m.tasks → WellFormed m' :=
    fun hknown hentries htasks =>
      ⟨by rw [hknown]; exact h.wellFormed.keyed,
        by rw [hknown, hentries]; exact h.wellFormed.polled_known,
        by rw [htasks]; exact h.wellFormed.task_address⟩
  have hbefore : ∀ {m' : ComputerManager}, m'.knownHosts = m.knownHosts →
      m'.pollEntries = m.pollEntries → m'.tasks = m.tasks → m'.storedHosts = m.storedHosts →
      (∀ rest, m'.flush ≠ .primary rest) → (∀ u, m'.flush.willWrite u = true) → Saving m' :=
    fun hknown hentries htasks hstored hprimary hwill =>
      ⟨hwf hknown hentries htasks, by rw [hstored]; exact h.distinct,
        fun rest hrest => absurd hrest (hprimary rest), fun u => .inr (.inl (hwill u))⟩
  unfold flushStep
  split
  -- idle: a request is taken, and every host will be written
  · split
    · exact h
    · exact hbefore rfl rfl rfl rfl (by simp) fun _ => rfl
  -- the snapshot: the primary list is still to come
  · exact hbefore rfl rfl rfl rfl (by simp) fun _ => rfl
  · split
    · exact hbefore rfl rfl rfl rfl (by simp) fun _ => rfl
    · exact hbefore rfl rfl rfl rfl (by simp) fun _ => rfl
  -- the backup: the same, until the primary list is begun
  · exact h.of_primaryStart
  · split
    · exact hbefore rfl rfl rfl rfl (by simp) fun _ => rfl
    · exact hbefore rfl rfl rfl rfl (by simp) fun _ => rfl
  -- the primary list: done, or its next host
  · next hflush =>
      refine ⟨hwf rfl rfl rfl, h.distinct, by simp, fun u => ?_⟩
      rcases h.covered u with hneeds | hwill | hstored | ⟨hann, hdiffers⟩
      · exact .inl hneeds
      · rw [hflush] at hwill
        exact absurd hwill Bool.false_ne_true
      · exact .inr (.inr (.inl hstored))
      · exact .inr (.inr (.inr ⟨hann, hdiffers⟩))
  · next uuid rest hflush =>
      have hwrite := h.of_primaryWrite hflush
      split
      · next hc =>
          rw [memory, hc, Option.map_none, Option.toList_none, List.append_nil] at hwrite
          exact hwrite
      · next c hc =>
          rw [memory, hc, Option.map_some, Option.toList_some] at hwrite
          exact hwrite

/-- **Step lemma.** -/
theorem saving_step (h : Saving m) {e : ManagerEvent} (hgood : ¬ GivesBack toLower m e) :
    Saving (m.step toLower e) := by
  have hwf := @wellFormed_step toLower m h.wellFormed e
  unfold step at hwf ⊢
  split
  · exact h
  next hblocked =>
    rw [if_neg hblocked] at hwf
    cases hsaves : saves e with
    | false => exact h.of_changesHosts hwf hgood (perform_changesHosts hsaves)
    | true =>
        cases e with
        | notificationDelivered i =>
            rw [perform] at hwf ⊢
            rcases deliverNotification_eq m i with heq | ⟨uuid, hi, heq⟩
            · rwa [heq]
            · rw [heq] at hwf ⊢
              exact h.of_delivery hi hwf
        | saveHost uuid =>
            rw [perform, saveHost_eq]
            exact h.of_needs _ fun hneeds => by rw [hneeds, Bool.true_or]
        | saveHosts => exact h.of_needs true fun _ => rfl
        | flushStep => exact h.of_flushStep
        | startPolling | stopPollingAsync | addAssignedHost _ _ | clearAssignedHosts
        | addTaskAnswered _ _ | addTaskPinned _ _ | addTaskCompleted _ | addTaskReported _ _
        | hostChanged _ _ => exact absurd hsaves (by simp [saves])

/-! ### No lost update -/

/-- The records of the hosts in memory. -/
theorem mem_values_persisted (h : WellFormed m) {p : PersistedTraits} :
    p ∈ m.knownHosts.values.map NvComputer.persisted ↔ m.memory p.uuid = some p := by
  simp only [List.mem_map, QMap.mem_values, memory, Option.map_eq_some_iff]
  constructor
  · rintro ⟨c, ⟨k, hk⟩, rfl⟩
    obtain rfl := h.keyed k c hk
    exact ⟨c, hk, rfl⟩
  · rintro ⟨c, hc, hp⟩
    exact ⟨c, ⟨_, hc⟩, hp⟩

theorem start_saving (hosts : List NvComputer) : Saving (start hosts) := by
  have hwf := start_wellFormed hosts
  refine ⟨hwf, ?_, by simp [start], fun u => .inr (.inr (.inl fun p hp => ?_))⟩
  · have hkeys : (start hosts).storedHosts.map PersistedTraits.uuid =
        (start hosts).knownHosts.keys := by
      simp only [start, QMap.values, QMap.keys, List.map_map]
      refine List.map_congr_left fun e he => ?_
      exact hwf.keyed e.1 e.2 (QMap.lookup_eq_some.mpr he)
    rw [hkeys]
    exact (start hosts).knownHosts.keys_nodup
  · rw [← hp]
    exact mem_values_persisted hwf

/-- **No lost update.** In a run in which no change gives a host back what the last snapshot
has, the settings hold just the hosts in memory whenever nothing is queued and no flush is
requested or running. -/
theorem quiescent_saved {hosts : List NvComputer} {es : List ManagerEvent}
    (hgood : AllSteps (step toLower) (fun m e => ¬ GivesBack toLower m e) (start hosts) es)
    {pre : List ManagerEvent} (hpre : pre <+: es)
    (hquiet : Quiescent (run (step toLower) (start hosts) pre)) (p : PersistedTraits) :
    p ∈ (run (step toLower) (start hosts) pre).storedHosts ↔
      p ∈ (run (step toLower) (start hosts) pre).knownHosts.values.map NvComputer.persisted := by
  obtain ⟨post, rfl⟩ := hpre
  have hstep : ∀ m e, ¬ GivesBack toLower m e → Saving m → Saving (step toLower m e) :=
    fun m e hgood h => saving_step h hgood
  have hsaving : Saving (run (step toLower) (start hosts) pre) :=
    run_invariant hstep (start_saving hosts) (allSteps_append.mp hgood).1
  obtain ⟨hann, hneeds, hflush⟩ := hquiet
  rw [mem_values_persisted hsaving.wellFormed]
  rcases hsaving.covered p.uuid with h | h | h | ⟨h, -⟩
  · exact absurd (h.symm.trans hneeds) (by simp)
  · rw [hflush] at h
    exact absurd h Bool.false_ne_true
  · exact h p rfl
  · exact absurd h (hann _)

/-- A host that was saved. -/
def savedHost : NvComputer :=
  { NvComputer.blank with
    name := "A"
    uuid := "vm-1" }

/-- The host is renamed and saved. -/
def renamed : List ManagerEvent :=
  [.hostChanged "vm-1" (.renamed "B"), .notificationDelivered 0, .flushStep, .flushStep,
    .flushStep, .flushStep, .flushStep, .flushStep, .flushStep]

/-- It is stored under its new name. -/
theorem renamed_saved :
    { savedHost with name := "B", hasCustomName := true }.persisted ∈
      (run (step id) (start [savedHost]) renamed).storedHosts := by
  have hgood : AllSteps (step id) (fun m e => ¬ GivesBack id m e) (start [savedHost])
      renamed := by
    refine ⟨?_, ?_, ?_, ?_, ?_, ?_, ?_, ?_, ?_, trivial⟩ <;> decide +kernel
  have hquiet : Quiescent (run (step id) (start [savedHost]) renamed) := by
    have hnotes : (run (step id) (start [savedHost]) renamed).notifications = [] := rfl
    have htasks : (run (step id) (start [savedHost]) renamed).tasks = [] := rfl
    refine ⟨fun u => ?_, rfl, rfl⟩
    simp [Announced, hnotes, htasks]
  exact (quiescent_saved hgood (List.prefix_refl _) hquiet _).mpr (by decide +kernel)

/-- What the host says about itself. -/
def hostInfo (name : String) : ServerInfo where
  host := { savedHost with
    name := name
    state := .online }
  ipv6Address_null := rfl
  manualAddress_null := rfl
  hasCustomName_false := rfl
  appList_nil := rfl
  pendingQuit_false := rfl

/-- The host is polled under another name after the snapshot, written, and polled under its
old name again. The main thread handles both changes afterwards. -/
def polledBack : List ManagerEvent :=
  [.saveHosts, .flushStep, .flushStep, .hostChanged "vm-1" (.polled (hostInfo "B")), .flushStep,
    .flushStep, .flushStep, .flushStep, .hostChanged "vm-1" (.polled (hostInfo "A")), .flushStep,
    .notificationDelivered 0, .notificationDelivered 0]

/-- Everything has been handled, and the settings have the other name. -/
theorem polledBack_lost :
    Quiescent (run (step id) (start [savedHost]) polledBack) ∧
      (run (step id) (start [savedHost]) polledBack).storedHosts =
        [{ savedHost with name := "B" }.persisted] ∧
      (run (step id) (start [savedHost]) polledBack).knownHosts.values.map
        NvComputer.persisted = [savedHost.persisted] := by
  have hnotes : (run (step id) (start [savedHost]) polledBack).notifications = [] := by
    decide +kernel
  have htasks : (run (step id) (start [savedHost]) polledBack).tasks = [] :=
    List.isEmpty_iff.mp (by decide +kernel)
  refine ⟨⟨fun u => ?_, by decide +kernel, by decide +kernel⟩, by decide +kernel,
    by decide +kernel⟩
  simp [Announced, hnotes, htasks]

end ComputerManager

end GilStreaming.Client
