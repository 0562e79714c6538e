import GilStreaming.Client.ManagerSteps

/-!
# GilStreaming.Client.Polling

Only granted hosts are polled, and when this fails.

A thread keeps the address it was started with. A grant interrupts the threads of the hosts
whose `manualAddress` is not the granted one, but it leaves a thread alone when the host has
that address already, even if the thread polls another one: an add task of an earlier grant
may have moved the host since the thread was started. `LeavesPolling` is that step, and it is
the only one after which a thread polls what is not granted.
-/

namespace GilStreaming.Client

open Trace

namespace ComputerManager

variable {toLower : String → String} {m : ComputerManager}

/-- The thread of the host that has not been interrupted. -/
def activeThread (m : ComputerManager) (u : String) : Option PcMonitorThread :=
  (m.pollEntries.lookup u).bind ComputerPollingEntry.activeThread

/-- Every polling thread that has not been interrupted polls an authorised address. -/
def PollsGranted (toLower : String → String) (m : ComputerManager) : Prop :=
  ∀ u entry, m.pollEntries.lookup u = some entry → ∀ t ∈ entry.threads,
    t.interruptionRequested = false →
      m.isAuthorizedAddress toLower t.authorizedAddress = true

theorem pollsGranted_iff : PollsGranted toLower m ↔
    ∀ u t, m.activeThread u = some t →
      m.isAuthorizedAddress toLower t.authorizedAddress = true := by
  constructor
  · intro h u t ht
    obtain ⟨entry, hentry, hactive⟩ := Option.bind_eq_some_iff.mp ht
    obtain ⟨hmem, hrun⟩ := ComputerPollingEntry.mem_threads_running.mpr hactive
    exact h u entry hentry t hmem hrun
  · intro h u entry hentry t hmem hrun
    refine h u t (Option.bind_eq_some_iff.mpr ⟨entry, hentry, ?_⟩)
    exact ComputerPollingEntry.mem_threads_running.mp ⟨hmem, hrun⟩

/-! ### What the loops do to a thread -/

theorem startPollingComputer_entry {c : NvComputer} {u : String} {entry : ComputerPollingEntry}
    (h : (m.startPollingComputer toLower c).pollEntries.lookup u = some entry) :
    u = c.uuid ∨ ∃ entry', m.pollEntries.lookup u = some entry' := by
  unfold startPollingComputer at h
  split at h
  · exact .inr ⟨entry, h⟩
  · split at h
    · exact .inr ⟨entry, h⟩
    · by_cases hu : u = c.uuid
      · exact .inl hu
      · rw [QMap.lookup_insert, if_neg hu] at h
        exact .inr ⟨entry, h⟩

/-- A started thread polls an authorised address. -/
theorem startPollingComputer_activeThread {c : NvComputer} {u : String} {t : PcMonitorThread}
    (h : (m.startPollingComputer toLower c).activeThread u = some t) :
    m.activeThread u = some t ∨ m.isAuthorizedAddress toLower t.authorizedAddress = true := by
  unfold startPollingComputer at h
  split at h
  · exact .inl h
  · split at h
    · exact .inl h
    · next hauth =>
        rw [Bool.not_eq_true', Bool.not_eq_false] at hauth
        unfold activeThread at h ⊢
        dsimp only at h
        rw [QMap.lookup_insert] at h
        split at h
        · next hu =>
            subst hu
            cases hentry : m.pollEntries.lookup c.uuid with
            | none =>
                rw [hentry] at h
                obtain rfl : _ = t := Option.some.inj h
                exact .inr hauth
            | some entry =>
                rw [hentry] at h
                simp only [Option.getD_some, Option.bind_some] at h ⊢
                split at h
                · obtain rfl : _ = t := Option.some.inj h
                  exact .inr hauth
                · exact .inl h
        · exact .inl h

/-- A thread goes on when polling starts. -/
theorem startPollingComputer_keeps (c : NvComputer) {u : String} {t : PcMonitorThread}
    (h : m.activeThread u = some t) :
    (m.startPollingComputer toLower c).activeThread u = some t := by
  unfold startPollingComputer
  split
  · exact h
  · split
    · exact h
    · unfold activeThread at h ⊢
      dsimp only
      rw [QMap.lookup_insert]
      split
      · next hu =>
          subst hu
          obtain ⟨entry, hentry, hactive⟩ := Option.bind_eq_some_iff.mp h
          have hrun : entry.isActive = true := by
            rw [ComputerPollingEntry.isActive, hactive]
            rfl
          rw [hentry, Option.getD_some, hrun]
          exact hactive
      · exact h

/-- An entry after the loop of `addAssignedHost` is one of before, or that of a host. -/
theorem repoll_entry {c : NvComputer} {u : String} {entry : ComputerPollingEntry}
    (h : (m.repoll toLower c).pollEntries.lookup u = some entry) :
    u = c.uuid ∨ ∃ entry', m.pollEntries.lookup u = some entry' := by
  unfold repoll at h
  split at h
  · split at h
    · exact .inr ⟨entry, h⟩
    · by_cases hu : u = c.uuid
      · exact .inl hu
      · dsimp only at h
        rw [QMap.lookup_insert, if_neg hu] at h
        exact .inr ⟨entry, h⟩
  · exact startPollingComputer_entry h

/-- A thread that runs after the loop body polls an authorised address, or it ran before
and its host has an authorised one. -/
theorem repoll_activeThread {c : NvComputer} {u : String} {t : PcMonitorThread}
    (h : (m.repoll toLower c).activeThread u = some t) :
    m.isAuthorizedAddress toLower t.authorizedAddress = true ∨ m.activeThread u = some t ∧
      (c.uuid = u → m.isAuthorizedAddress toLower c.manualAddress = true) := by
  unfold repoll at h
  split at h
  · split at h
    · next hentry =>
        refine .inr ⟨h, fun hu => ?_⟩
        subst hu
        rw [activeThread, hentry] at h
        exact absurd h (by simp)
    · next entry hentry =>
        unfold activeThread at h
        dsimp only at h
        rw [QMap.lookup_insert] at h
        split at h
        · exact absurd h (by simp [ComputerPollingEntry.interrupt])
        · next hu => exact .inr ⟨h, fun hc => absurd hc.symm hu⟩
  · next hauth =>
      rw [Bool.not_eq_true', Bool.not_eq_false] at hauth
      rcases startPollingComputer_activeThread h with h | h
      · exact .inr ⟨h, fun _ => hauth⟩
      · exact .inl h

/-- The loop body leaves a thread alone if its host has an authorised address. -/
theorem repoll_keeps {c : NvComputer} {u : String} {t : PcMonitorThread}
    (h : m.activeThread u = some t)
    (hc : c.uuid = u → m.isAuthorizedAddress toLower c.manualAddress = true) :
    (m.repoll toLower c).activeThread u = some t := by
  unfold repoll
  split
  · next hauth =>
      have hu : u ≠ c.uuid := by
        intro hu
        rw [hc hu.symm] at hauth
        exact absurd hauth (by simp)
      split
      · exact h
      · unfold activeThread at h ⊢
        dsimp only
        rw [QMap.lookup_insert, if_neg hu]
        exact h
  · exact startPollingComputer_keeps c h

theorem foldl_entry {f : ComputerManager → NvComputer → ComputerManager}
    (hf : ∀ {m : ComputerManager} {c u entry}, (f m c).pollEntries.lookup u = some entry →
      u = c.uuid ∨ ∃ entry', m.pollEntries.lookup u = some entry')
    {cs : List NvComputer} {u : String} {entry : ComputerPollingEntry}
    (h : (cs.foldl f m).pollEntries.lookup u = some entry) :
    (∃ c ∈ cs, u = c.uuid) ∨ ∃ entry', m.pollEntries.lookup u = some entry' := by
  induction cs generalizing m with
  | nil => exact .inr ⟨entry, h⟩
  | cons c cs ih =>
      rcases ih h with ⟨c', hc', hu⟩ | ⟨entry', hentry'⟩
      · exact .inl ⟨c', List.mem_cons_of_mem _ hc', hu⟩
      · exact (hf hentry').imp_left fun hu => ⟨c, List.mem_cons_self, hu⟩

theorem startPollingComputer_isAuthorizedAddress (c : NvComputer) (a : NvAddress) :
    (m.startPollingComputer toLower c).isAuthorizedAddress toLower a =
      m.isAuthorizedAddress toLower a := by
  obtain ⟨entries, h⟩ := startPollingComputer_eq toLower m c
  rw [h]
  rfl

theorem repoll_isAuthorizedAddress (c : NvComputer) (a : NvAddress) :
    (m.repoll toLower c).isAuthorizedAddress toLower a = m.isAuthorizedAddress toLower a := by
  obtain ⟨entries, h⟩ := repoll_eq toLower m c
  rw [h]
  rfl

theorem startPollingComputer_pollsGranted (h : PollsGranted toLower m) (c : NvComputer) :
    PollsGranted toLower (m.startPollingComputer toLower c) := by
  rw [pollsGranted_iff] at h ⊢
  intro u t ht
  rw [startPollingComputer_isAuthorizedAddress]
  exact (startPollingComputer_activeThread ht).elim (h u t) id

theorem foldl_startPollingComputer_pollsGranted (h : PollsGranted toLower m)
    (cs : List NvComputer) :
    PollsGranted toLower (cs.foldl (fun m c => m.startPollingComputer toLower c) m) := by
  induction cs generalizing m with
  | nil => exact h
  | cons c cs ih => exact ih (startPollingComputer_pollsGranted h c)

/-- What runs after the loop of `addAssignedHost`. -/
theorem foldl_repoll_activeThread {cs : List NvComputer} {u : String} {t : PcMonitorThread}
    (h : (cs.foldl (fun m c => m.repoll toLower c) m).activeThread u = some t) :
    m.isAuthorizedAddress toLower t.authorizedAddress = true ∨ m.activeThread u = some t ∧
      ∀ c ∈ cs, c.uuid = u → m.isAuthorizedAddress toLower c.manualAddress = true := by
  induction cs generalizing m with
  | nil => exact .inr ⟨h, by simp⟩
  | cons c cs ih =>
      rcases ih h with hauth | ⟨hactive, hcs⟩
      · exact .inl (by rwa [repoll_isAuthorizedAddress] at hauth)
      · refine (repoll_activeThread hactive).imp_right fun ⟨hactive, hc⟩ => ⟨hactive, ?_⟩
        intro c' hc' hu
        rcases List.mem_cons.mp hc' with rfl | hc'
        · exact hc hu
        · have := hcs c' hc' hu
          rwa [repoll_isAuthorizedAddress] at this

theorem foldl_repoll_keeps {cs : List NvComputer} {u : String} {t : PcMonitorThread}
    (h : m.activeThread u = some t)
    (hcs : ∀ c ∈ cs, c.uuid = u → m.isAuthorizedAddress toLower c.manualAddress = true) :
    (cs.foldl (fun m c => m.repoll toLower c) m).activeThread u = some t := by
  induction cs generalizing m with
  | nil => exact h
  | cons c cs ih =>
      refine ih (repoll_keeps h (hcs c List.mem_cons_self)) fun c' hc' hu => ?_
      rw [repoll_isAuthorizedAddress]
      exact hcs c' (List.mem_cons_of_mem _ hc') hu

theorem interruptAll_activeThread (m : ComputerManager) (u : String) :
    m.interruptAll.activeThread u = none := by
  unfold activeThread interruptAll
  dsimp only
  rw [QMap.lookup_map]
  cases m.pollEntries.lookup u <;> rfl

theorem interruptAll_pollsGranted (m : ComputerManager) :
    PollsGranted toLower m.interruptAll := by
  rw [pollsGranted_iff]
  intro u t ht
  rw [interruptAll_activeThread] at ht
  exact absurd ht (by simp)

/-- A task that is folded in starts polling for its host, and does nothing else to the
threads. -/
theorem foldIn_polls (hkeyed : ∀ u c, m.knownHosts.lookup u = some c → c.uuid = u) (i : Nat)
    (task : PendingAddTask) (c : NvComputer) :
    ∃ (m' : ComputerManager) (c' : NvComputer), m'.pollEntries = m.pollEntries ∧
      m'.authorizedAddresses = m.authorizedAddresses ∧ c'.uuid = c.uuid ∧
      (m.foldIn toLower i task c).pollEntries =
        (m'.startPollingComputer toLower c').pollEntries ∧
      (m.foldIn toLower i task c).authorizedAddresses = m.authorizedAddresses := by
  obtain ⟨_, _, _, -, -, hfold⟩ := foldIn_eq toLower m i task c
  have hauth : (m.foldIn toLower i task c).authorizedAddresses = m.authorizedAddresses := by
    rw [hfold]
  unfold foldIn at hauth ⊢
  cases hc : m.knownHosts.lookup c.uuid with
  | none =>
      rw [hc] at hauth
      exact ⟨{ m.setStage i task (.inserted c.uuid) with
        knownHosts := m.knownHosts.insert c.uuid c }, c, rfl, rfl, rfl, rfl, hauth⟩
  | some existing =>
      rw [hc] at hauth
      refine ⟨{ m.setStage i task .finished with
        knownHosts := m.knownHosts.insert c.uuid (existing.update toLower c).1 },
        (existing.update toLower c).1, rfl, rfl,
        NvComputer.update_uuid.trans (hkeyed _ _ hc), ?_, hauth⟩
      dsimp only
      split
      · rfl
      · rfl

/-! ### Well-formed managers -/

/-- What every reachable state satisfies. -/
structure WellFormed (m : ComputerManager) : Prop where
  keyed : ∀ u c, m.knownHosts.lookup u = some c → c.uuid = u
  polled_known : ∀ u entry, m.pollEntries.lookup u = some entry →
    ∃ c, m.knownHosts.lookup u = some c
  task_address : ∀ (i : Nat) (task : PendingAddTask), m.tasks[i]? = some task →
    task.address.isNull = false

theorem start_keyed (hosts : List NvComputer) {known : QMap String NvComputer}
    (hknown : ∀ u c, known.lookup u = some c → c.uuid = u) :
    ∀ u c, (hosts.foldl (fun known c => known.insert c.uuid c) known).lookup u = some c →
      c.uuid = u := by
  induction hosts generalizing known with
  | nil => exact hknown
  | cons c' hosts ih =>
      refine ih fun u c h => ?_
      rw [QMap.lookup_insert] at h
      split at h
      · next hu => rw [hu, ← Option.some.inj h]
      · exact hknown u c h

theorem start_wellFormed (hosts : List NvComputer) : WellFormed (start hosts) where
  keyed := start_keyed hosts fun u c h => by simp at h
  polled_known := fun u entry h => by simp [start] at h
  task_address := fun i task h => by simp [start] at h

/-- A known host stays known. -/
theorem hosts_grow {u : String} {c : NvComputer} (e : ManagerEvent)
    (h : m.knownHosts.lookup u = some c) :
    ∃ c', (m.perform toLower e).knownHosts.lookup u = some c' := by
  by_cases he : ∃ i, e = .addTaskCompleted i
  · obtain ⟨i, rfl⟩ := he
    rw [perform]
    rcases addTaskCompleted_cases toLower m i with heq | ⟨address, info, hi⟩
    · exact ⟨c, by rw [heq, h]⟩
    · rw [addTaskCompleted_eq hi, foldIn_lookup]
      split
      · exact ⟨_, rfl⟩
      · exact ⟨c, h⟩
  · obtain ⟨g, -, hg⟩ := @hosts_step toLower m e (fun i hi => he ⟨i, hi⟩) u
    exact ⟨g c, by rw [hg, h]; rfl⟩

/-- Every host stays under its uuid. -/
theorem keyed_step (h : WellFormed m) (e : ManagerEvent) {u : String} {c : NvComputer}
    (hc : (m.perform toLower e).knownHosts.lookup u = some c) : c.uuid = u := by
  by_cases he : ∃ i, e = .addTaskCompleted i
  · obtain ⟨i, rfl⟩ := he
    rw [perform] at hc
    rcases addTaskCompleted_cases toLower m i with heq | ⟨address, info, hi⟩
    · exact h.keyed u c (heq ▸ hc)
    · rw [addTaskCompleted_eq hi, foldIn_lookup] at hc
      split at hc
      · next hu =>
          rw [hu, ← Option.some.inj hc]
          cases hknown : m.knownHosts.lookup info.host.uuid with
          | none => rfl
          | some existing => exact NvComputer.update_uuid.trans (h.keyed _ _ hknown)
      · exact h.keyed u c hc
  · obtain ⟨g, hkeeps, hg⟩ := @hosts_step toLower m e (fun i hi => he ⟨i, hi⟩) u
    rw [hg] at hc
    obtain ⟨c', hc', rfl⟩ := Option.map_eq_some_iff.mp hc
    exact (hkeeps c').1.trans (h.keyed u c' hc')

/-- A task that is folded in leaves every entry with its host. -/
theorem addTaskCompleted_polled_known (h : WellFormed m) (i : Nat) {u : String}
    {entry : ComputerPollingEntry}
    (hentry : (m.addTaskCompleted toLower i).pollEntries.lookup u = some entry) :
    ∃ c, (m.addTaskCompleted toLower i).knownHosts.lookup u = some c := by
  rcases addTaskCompleted_cases toLower m i with heq | ⟨address, info, hi⟩
  · rw [heq] at hentry ⊢
    exact h.polled_known u entry hentry
  · obtain ⟨m', c', hentries, -, huuid, hpoll, -⟩ := @foldIn_polls toLower m
      h.keyed i ⟨address, .resolved info⟩ { info.host with manualAddress := address }
    rw [addTaskCompleted_eq hi] at hentry ⊢
    rw [foldIn_lookup]
    rw [hpoll] at hentry
    rcases startPollingComputer_entry hentry with hu | ⟨entry', hentry'⟩
    · rw [if_pos (hu.trans huuid)]
      exact ⟨_, rfl⟩
    · rw [hentries] at hentry'
      obtain ⟨c, hc⟩ := h.polled_known u entry' hentry'
      split
      · exact ⟨_, rfl⟩
      · exact ⟨c, hc⟩

/-- Every entry belongs to a host. -/
theorem polled_known_step (h : WellFormed m) (e : ManagerEvent) {u : String}
    {entry : ComputerPollingEntry}
    (hentry : (m.perform toLower e).pollEntries.lookup u = some entry) :
    ∃ c, (m.perform toLower e).knownHosts.lookup u = some c := by
  have hold : ∀ {entry'}, m.pollEntries.lookup u = some entry' →
      ∃ c, (m.perform toLower e).knownHosts.lookup u = some c := fun hentry' =>
    (h.polled_known u _ hentry').elim fun c hc => hosts_grow e hc
  have hvalues : ∀ c ∈ m.knownHosts.values, u = c.uuid →
      ∃ c, (m.perform toLower e).knownHosts.lookup u = some c := by
    rintro c hc rfl
    obtain ⟨k, hk⟩ := QMap.mem_values.mp hc
    obtain rfl := h.keyed k c hk
    exact hosts_grow e hk
  have hmap : (m.pollEntries.map ComputerPollingEntry.interrupt).lookup u = some entry →
      ∃ c, (m.perform toLower e).knownHosts.lookup u = some c := by
    intro hentry
    rw [QMap.lookup_map] at hentry
    obtain ⟨entry', hentry', -⟩ := Option.map_eq_some_iff.mp hentry
    exact hold hentry'
  cases hpolls : polls e with
  | false =>
      rw [(polling_step hpolls).1] at hentry
      exact hold hentry
  | true =>
      cases e with
      | startPolling =>
          rw [perform, startPolling] at hentry
          dsimp only at hentry
          split at hentry
          · exact hold hentry
          · rcases foldl_entry startPollingComputer_entry hentry with ⟨c, hc, hu⟩ | ⟨_, hentry'⟩
            · exact hvalues c hc hu
            · exact hold hentry'
      | stopPollingAsync =>
          rw [perform, stopPollingAsync] at hentry
          dsimp only at hentry
          split at hentry
          · exact hold hentry
          · exact hmap hentry
      | addAssignedHost address port =>
          rw [perform] at hentry
          by_cases hvalid : validAddress address port = true
          · rw [addAssignedHost_eq m hvalid] at hentry
            rcases foldl_entry repoll_entry hentry with ⟨c, hc, hu⟩ | ⟨_, hentry'⟩
            · exact hvalues c hc hu
            · exact hold hentry'
          · simp only [addAssignedHost, hvalid, Bool.not_false, if_true] at hentry
            exact hold hentry
      | clearAssignedHosts => exact hmap hentry
      | addTaskCompleted i => exact addTaskCompleted_polled_known h i hentry
      | addTaskAnswered _ _ | addTaskPinned _ _ | addTaskReported _ _ | hostChanged _ _
      | notificationDelivered _ | saveHost _ | saveHosts | flushStep =>
          exact absurd hpolls (by simp [polls])

theorem wellFormed_step (h : WellFormed m) (e : ManagerEvent) :
    WellFormed (m.step toLower e) := by
  unfold step
  split
  · exact h
  · exact {
      keyed := fun u c hc => keyed_step h e hc
      polled_known := fun u entry hentry => polled_known_step h e hentry
      task_address := fun i task htask => by
        rcases task_step htask with hnull | ⟨task', htask', haddress⟩
        · exact hnull
        · rw [← haddress]
          exact h.task_address i task' htask' }

/-! ### The step that leaves a thread polling -/

theorem pollsGranted_congr {m' : ComputerManager} (hentries : m'.pollEntries = m.pollEntries)
    (hauth : m'.authorizedAddresses = m.authorizedAddresses) :
    PollsGranted toLower m' ↔ PollsGranted toLower m := by
  simp only [PollsGranted, isAuthorizedAddress, hentries, hauth]

/-- The event grants an address to which a known host has been moved already, while the
thread of the host still polls another one. -/
def LeavesPolling (toLower : String → String) (m : ComputerManager) : ManagerEvent → Prop
  | .addAssignedHost address port =>
    m.flush.holdsLock = false ∧ validAddress address port = true ∧ ∃ u c t,
      m.knownHosts.lookup u = some c ∧ m.activeThread u = some t ∧
        c.manualAddress.isNull = false ∧
        authorizedAddressKey toLower c.manualAddress =
          authorizedAddressKey toLower (assignedAddress address port) ∧
        authorizedAddressKey toLower t.authorizedAddress ≠
          authorizedAddressKey toLower (assignedAddress address port)
  | _ => False

/-- After a grant, its address is the only one that is authorised. -/
theorem addAssignedHost_isAuthorizedAddress {address : String} {port : Int}
    (hvalid : validAddress address port = true) {a : NvAddress} :
    (m.addAssignedHost toLower address port).isAuthorizedAddress toLower a = true ↔
      a.isNull = false ∧
        authorizedAddressKey toLower a =
          authorizedAddressKey toLower (assignedAddress address port) := by
  obtain ⟨entries, hloop⟩ := foldl_eq (repoll_eq toLower) (m.granted toLower address port)
    m.knownHosts.values
  rw [addAssignedHost_eq m hvalid, hloop]
  exact granted_isAuthorizedAddress (m := m)

/-- **Step lemma for a grant.** -/
theorem addAssignedHost_pollsGranted {address : String} {port : Int}
    (hvalid : validAddress address port = true) (hwf : WellFormed m)
    (h : PollsGranted toLower m) :
    PollsGranted toLower (m.addAssignedHost toLower address port) ↔
      ¬ ∃ u c t, m.knownHosts.lookup u = some c ∧ m.activeThread u = some t ∧
        c.manualAddress.isNull = false ∧
        authorizedAddressKey toLower c.manualAddress =
          authorizedAddressKey toLower (assignedAddress address port) ∧
        authorizedAddressKey toLower t.authorizedAddress ≠
          authorizedAddressKey toLower (assignedAddress address port) := by
  have hactive : ∀ u, (m.addAssignedHost toLower address port).activeThread u =
      (m.knownHosts.values.foldl (fun m c => m.repoll toLower c)
        (m.granted toLower address port)).activeThread u := by
    intro u
    rw [addAssignedHost_eq m hvalid]
    rfl
  rw [pollsGranted_iff] at h ⊢
  constructor
  · -- the loop starts polling for the host, which leaves its active thread alone
    rintro hafter ⟨u, c, t, hc, ht, hnull, hkey, hne⟩
    have hkeeps : (m.addAssignedHost toLower address port).activeThread u = some t := by
      rw [hactive]
      refine foldl_repoll_keeps (m := m.granted toLower address port) ht fun c' hc' hu => ?_
      obtain ⟨k, hk⟩ := QMap.mem_values.mp hc'
      obtain rfl := (hwf.keyed k c' hk).symm.trans hu
      obtain rfl := Option.some.inj (hc.symm.trans hk)
      exact granted_isAuthorizedAddress.mpr ⟨hnull, hkey⟩
    exact hne ((addAssignedHost_isAuthorizedAddress hvalid).mp (hafter u t hkeeps)).2
  · intro hgood u t ht
    rw [addAssignedHost_isAuthorizedAddress hvalid]
    rw [hactive] at ht
    rcases foldl_repoll_activeThread ht with hpolled | ⟨hbefore, hcs⟩
    · exact granted_isAuthorizedAddress.mp hpolled
    · -- the thread ran before, and the loop has not interrupted it
      obtain ⟨entry, hentry, -⟩ := Option.bind_eq_some_iff.mp hbefore
      obtain ⟨c, hc⟩ := hwf.polled_known u entry hentry
      have hgranted := hcs c (QMap.mem_values.mpr ⟨u, hc⟩) (hwf.keyed u c hc)
      obtain ⟨hnull, hkey⟩ := granted_isAuthorizedAddress.mp hgranted
      have hnonnull : t.authorizedAddress.isNull = false := by
        have := h u t hbefore
        simp only [isAuthorizedAddress, Bool.and_eq_true, Bool.not_eq_true'] at this
        exact this.1
      refine ⟨hnonnull, ?_⟩
      by_contra hne
      exact hgood ⟨u, c, t, hc, hbefore, hnull, hkey, hne⟩

theorem addTaskCompleted_pollsGranted (hwf : WellFormed m) (h : PollsGranted toLower m)
    (i : Nat) : PollsGranted toLower (m.addTaskCompleted toLower i) := by
  rcases addTaskCompleted_cases toLower m i with heq | ⟨address, info, hi⟩
  · rwa [heq]
  · obtain ⟨m', c', hentries, hauth, -, hpoll, hauth'⟩ := @foldIn_polls toLower m hwf.keyed i
      ⟨address, .resolved info⟩ { info.host with manualAddress := address }
    obtain ⟨entries, hstart⟩ := startPollingComputer_eq toLower m' c'
    have hm' : PollsGranted toLower m' := (pollsGranted_congr hentries hauth).mpr h
    rw [addTaskCompleted_eq hi]
    refine (pollsGranted_congr hpoll ?_).mpr (startPollingComputer_pollsGranted hm' c')
    rw [hauth', hstart, ← hauth]

/-- Nothing but a grant leaves a thread polling what is not granted. -/
theorem perform_pollsGranted (hwf : WellFormed m) (h : PollsGranted toLower m) {e : ManagerEvent}
    (he : ∀ address port, e ≠ .addAssignedHost address port) :
    PollsGranted toLower (m.perform toLower e) := by
  cases hpolls : polls e with
  | false =>
      obtain ⟨hentries, hauth⟩ := @polling_step toLower m e hpolls
      exact (pollsGranted_congr hentries hauth).mpr h
  | true =>
      cases e with
      | startPolling =>
          rw [perform, startPolling]
          dsimp only
          split
          · exact (pollsGranted_congr rfl rfl).mpr h
          · exact foldl_startPollingComputer_pollsGranted
              (m := { m with pollingRef := m.pollingRef + 1 }) h _
      | stopPollingAsync =>
          rw [perform, stopPollingAsync]
          dsimp only
          split
          · exact (pollsGranted_congr rfl rfl).mpr h
          · exact interruptAll_pollsGranted _
      | addAssignedHost address port => exact absurd rfl (he address port)
      | clearAssignedHosts => exact interruptAll_pollsGranted _
      | addTaskCompleted i => exact addTaskCompleted_pollsGranted hwf h i
      | addTaskAnswered _ _ | addTaskPinned _ _ | addTaskReported _ _ | hostChanged _ _
      | notificationDelivered _ | saveHost _ | saveHosts | flushStep =>
          exact absurd hpolls (by simp [polls])

/-- **Step lemma.** A step leaves a thread polling what is not granted exactly if it is a
grant of an address to which the thread's host was moved before. -/
theorem pollsGranted_step (hwf : WellFormed m) (h : PollsGranted toLower m) (e : ManagerEvent) :
    PollsGranted toLower (m.step toLower e) ↔ ¬ LeavesPolling toLower m e := by
  unfold step
  by_cases hgrant : ∃ address port, e = .addAssignedHost address port
  · obtain ⟨address, port, rfl⟩ := hgrant
    split
    · -- a grant that waits for the lock does nothing
      next hblocked =>
        refine iff_of_true h fun hbad => ?_
        rw [blocked, hbad.1] at hblocked
        exact absurd hblocked (by simp)
    · next hblocked =>
        rw [perform]
        by_cases hvalid : validAddress address port = true
        · rw [addAssignedHost_pollsGranted hvalid hwf h]
          rw [Bool.not_eq_true] at hblocked
          exact not_congr ⟨fun hbad => ⟨hblocked, hvalid, hbad⟩, fun hbad => hbad.2.2⟩
        · refine iff_of_true ?_ fun hbad => hvalid hbad.2.1
          simpa [addAssignedHost, hvalid] using h
  · have hgood : ¬ LeavesPolling toLower m e := by
      intro hbad
      cases e with
      | addAssignedHost address port => exact hgrant ⟨address, port, rfl⟩
      | _ => exact hbad
    refine iff_of_true ?_ hgood
    split
    · exact h
    · exact perform_pollsGranted hwf h fun address port he => hgrant ⟨address, port, he⟩

/-- **Only granted hosts are polled** throughout a run exactly if no grant leaves a thread
polling. -/
theorem polls_granted_iff (toLower : String → String) (hosts : List NvComputer)
    (es : List ManagerEvent) :
    (∀ pre, pre <+: es → PollsGranted toLower (run (step toLower) (start hosts) pre)) ↔
      AllSteps (step toLower) (fun m e => ¬ LeavesPolling toLower m e) (start hosts) es := by
  have hkeeps : ∀ m e, WellFormed m → WellFormed (step toLower m e) :=
    fun m e h => wellFormed_step h e
  have hstep : ∀ m e, WellFormed m → PollsGranted toLower m →
      (PollsGranted toLower (step toLower m e) ↔ ¬ LeavesPolling toLower m e) :=
    fun m e hwf h => pollsGranted_step hwf h e
  refine run_invariant_iff hkeeps hstep (start_wellFormed hosts) ?_ es
  rw [pollsGranted_iff]
  intro u t ht
  exact absurd ht (by simp [activeThread, start])

/-! ### A late add task -/

/-- What a gaming VM says about itself. -/
def vmInfo (uuid : String) : ServerInfo where
  host := { NvComputer.blank with
    name := "Gaming VM"
    uuid := uuid
    state := .online }
  ipv6Address_null := rfl
  manualAddress_null := rfl
  hasCustomName_false := rfl
  appList_nil := rfl
  pendingQuit_false := rfl

/-- A VM is granted at one address and then at another one. It is found, and polled, at the
second; then the task of the first grant finds it too, and the first address is granted
again. -/
def grantedAgain : List ManagerEvent :=
  [.startPolling, .addAssignedHost "10.0.0.2" 47989, .addAssignedHost "10.0.0.1" 47989,
    .addTaskAnswered 1 (some (vmInfo "vm-1")), .addTaskCompleted 1,
    .addTaskAnswered 0 (some (vmInfo "vm-1")), .addTaskPinned 0 (some (vmInfo "vm-1")),
    .addTaskCompleted 0, .addAssignedHost "10.0.0.2" 47989]

/-- The VM is still polled at the address of the second grant. -/
theorem grantedAgain_polls_other :
    ¬ PollsGranted id (run (step id) (start []) grantedAgain) := by
  intro h
  have hactive : (run (step id) (start []) grantedAgain).activeThread "vm-1" =
      some ⟨⟨"10.0.0.1", 47989⟩, false⟩ := by rfl
  exact absurd (pollsGranted_iff.mp h "vm-1" _ hactive) (by decide +kernel)

end ComputerManager

end GilStreaming.Client
