import GilStreaming.Client.Polling

/-!
# GilStreaming.Client.Visibility

The assigned host is shown and nothing else is, and when it disappears again.

A host is shown if its `manualAddress` is granted, and that address is the one of whichever
add task for it finished last. So once the task of the latest grant has found the host, it
stays visible until another task finds the same host at an address that is not granted:
`MovesAway` is that step.
-/

namespace GilStreaming.Client

open Trace

namespace ComputerManager

variable {toLower : String → String} {m : ComputerManager} {u : String}

/-- `getComputers` contains the host. -/
def Visible (toLower : String → String) (u : String) (m : ComputerManager) : Prop :=
  ∃ c ∈ m.getComputers toLower, c.uuid = u

instance (toLower : String → String) (u : String) (m : ComputerManager) :
    Decidable (Visible toLower u m) :=
  inferInstanceAs (Decidable (∃ c ∈ m.getComputers toLower, c.uuid = u))

theorem visible_iff (h : WellFormed m) : Visible toLower u m ↔
    ∃ c, m.knownHosts.lookup u = some c ∧
      m.isAuthorizedAddress toLower c.manualAddress = true := by
  constructor
  · rintro ⟨c, hc, rfl⟩
    obtain ⟨hmem, hauth⟩ := List.mem_filter.mp hc
    obtain ⟨k, hk⟩ := QMap.mem_values.mp hmem
    obtain rfl := h.keyed k c hk
    exact ⟨c, hk, hauth⟩
  · rintro ⟨c, hc, hauth⟩
    exact ⟨c, List.mem_filter.mpr ⟨QMap.mem_values.mpr ⟨u, hc⟩, hauth⟩, h.keyed u c hc⟩

/-- Nothing is shown that is not granted. -/
theorem getComputers_isAuthorizedAddress {c : NvComputer} (h : c ∈ m.getComputers toLower) :
    m.isAuthorizedAddress toLower c.manualAddress = true :=
  (List.mem_filter.mp h).2

/-! ### The step that moves a host away -/

/-- The event changes what is granted. -/
def grants : ManagerEvent → Bool
  | .addAssignedHost _ _ | .clearAssignedHosts => true
  | _ => false

theorem authorizedAddresses_step {e : ManagerEvent} (he : grants e = false) :
    (m.step toLower e).authorizedAddresses = m.authorizedAddresses := by
  unfold step
  split
  · rfl
  cases hpolls : polls e with
  | false => exact (polling_step hpolls).2
  | true =>
      cases e with
      | startPolling =>
          obtain ⟨entries, h⟩ := startPolling_eq toLower m
          rw [perform, h]
      | stopPollingAsync =>
          obtain ⟨entries, h⟩ := stopPollingAsync_eq m
          rw [perform, h]
      | addTaskCompleted i =>
          rw [perform]
          rcases addTaskCompleted_cases toLower m i with h | ⟨address, info, hi⟩
          · rw [h]
          · obtain ⟨_, _, _, -, -, h⟩ := foldIn_eq toLower m i ⟨address, .resolved info⟩
              { info.host with manualAddress := address }
            rw [addTaskCompleted_eq hi, h]
      | addAssignedHost _ _ | clearAssignedHosts => exact absurd he (by simp [grants])
      | addTaskAnswered _ _ | addTaskPinned _ _ | addTaskReported _ _ | hostChanged _ _
      | notificationDelivered _ | saveHost _ | saveHosts | flushStep =>
          exact absurd hpolls (by simp [polls])

theorem isAuthorizedAddress_step {e : ManagerEvent} (he : grants e = false) (a : NvAddress) :
    (m.step toLower e).isAuthorizedAddress toLower a = m.isAuthorizedAddress toLower a := by
  simp only [isAuthorizedAddress, authorizedAddresses_step he]

/-- A task finds the host at an address that is not granted. -/
def MovesAway (toLower : String → String) (u : String) (m : ComputerManager) :
    ManagerEvent → Prop
  | .addTaskCompleted i =>
    m.flush.holdsLock = false ∧ ∃ address info, m.tasks[i]? = some ⟨address, .resolved info⟩ ∧
      info.host.uuid = u ∧ m.isAuthorizedAddress toLower address = false
  | _ => False

/-- A host that a task has found has the address of the task. -/
theorem foldIn_manualAddress (hwf : WellFormed m) {i : Nat} {address : NvAddress}
    {info : ServerInfo} (hi : m.tasks[i]? = some ⟨address, .resolved info⟩) :
    ∃ c, (m.addTaskCompleted toLower i).knownHosts.lookup info.host.uuid = some c ∧
      c.manualAddress = address := by
  rw [addTaskCompleted_eq hi, foldIn_lookup, if_pos rfl]
  refine ⟨_, rfl, ?_⟩
  cases m.knownHosts.lookup info.host.uuid with
  | none => rfl
  | some c =>
      rw [Option.map_some, Option.getD_some,
        NvComputer.update_manualAddress (by exact info.appList_nil)]
      exact if_neg (by simp [hwf.task_address i _ hi])

/-- **Step lemma.** Short of a grant, a step hides a visible host exactly if it moves it
away. -/
theorem visible_step (hwf : WellFormed m) {e : ManagerEvent} (he : grants e = false)
    (h : Visible toLower u m) :
    Visible toLower u (m.step toLower e) ↔ ¬ MovesAway toLower u m e := by
  rw [visible_iff (wellFormed_step hwf e)]
  simp only [isAuthorizedAddress_step he]
  obtain ⟨c, hc, hauth⟩ := (visible_iff hwf).mp h
  by_cases hblocked : m.blocked e = true
  · rw [step, if_pos hblocked]
    refine iff_of_true ⟨c, hc, hauth⟩ fun hbad => ?_
    cases e with
    | addTaskCompleted i =>
        rw [blocked, hbad.1] at hblocked
        exact absurd hblocked (by simp)
    | _ => exact hbad
  rw [step, if_neg hblocked]
  -- nothing but a task that is folded in gives a host another address
  by_cases hcompleted : ∃ i, e = .addTaskCompleted i
  · obtain ⟨i, rfl⟩ := hcompleted
    rw [perform]
    rw [Bool.not_eq_true] at hblocked
    by_cases htask : ∃ address info, m.tasks[i]? = some ⟨address, .resolved info⟩
    · obtain ⟨address, info, hi⟩ := htask
      by_cases hu : info.host.uuid = u
      · -- the host is where the task has found it
        subst hu
        obtain ⟨c', hc', haddress⟩ := @foldIn_manualAddress toLower m hwf i address info hi
        constructor
        · rintro ⟨c'', hc'', hauth''⟩ ⟨-, address', info', hi', -, hauth'⟩
          obtain rfl := Option.some.inj (hc'.symm.trans hc'')
          obtain ⟨rfl, -⟩ : address = address' ∧ _ :=
            PendingAddTask.mk.inj (Option.some.inj (hi.symm.trans hi'))
          rw [haddress, hauth'] at hauth''
          exact Bool.false_ne_true hauth''
        · intro hgood
          refine ⟨c', hc', ?_⟩
          rw [haddress, ← Bool.not_eq_false]
          exact fun hauth' => hgood ⟨hblocked, address, info, hi, rfl, hauth'⟩
      · refine iff_of_true ⟨c, ?_, hauth⟩ ?_
        · rw [addTaskCompleted_eq hi, foldIn_lookup, if_neg (Ne.symm hu)]
          exact hc
        · rintro ⟨-, address', info', hi', hu', -⟩
          have hstage := (PendingAddTask.mk.inj (Option.some.inj (hi.symm.trans hi'))).2
          rw [AddTaskStage.resolved.inj hstage] at hu
          exact hu hu'
    · refine iff_of_true ⟨c, ?_, hauth⟩ ?_
      · rw [(addTaskCompleted_cases toLower m i).resolve_right htask]
        exact hc
      · rintro ⟨-, address, info, hi, -⟩
        exact htask ⟨address, info, hi⟩
  · obtain ⟨g, hkeeps, hg⟩ := @hosts_step toLower m e
      (fun i hi => hcompleted ⟨i, hi⟩) u
    refine iff_of_true ⟨g c, by rw [hg, hc]; rfl, by rw [(hkeeps c).2, hauth]⟩ fun hbad => ?_
    cases e with
    | addTaskCompleted i => exact hcompleted ⟨i, rfl⟩
    | _ => exact hbad

/-! ### From the latest grant on -/

/-- The states that a run reaches. -/
def Reachable (toLower : String → String) (m : ComputerManager) : Prop :=
  ∃ hosts es, m = run (step toLower) (start hosts) es

theorem run_wellFormed (h : WellFormed m) (es : List ManagerEvent) :
    WellFormed (run (step toLower) m es) := by
  induction es generalizing m with
  | nil => exact h
  | cons e es ih => exact ih (wellFormed_step h e)

theorem Reachable.wellFormed (h : Reachable toLower m) : WellFormed m := by
  obtain ⟨hosts, es, rfl⟩ := h
  exact run_wellFormed (start_wellFormed hosts) es

theorem run_isAuthorizedAddress {es : List ManagerEvent} (hes : ∀ e ∈ es, grants e = false)
    (a : NvAddress) :
    (run (step toLower) m es).isAuthorizedAddress toLower a =
      m.isAuthorizedAddress toLower a := by
  induction es generalizing m with
  | nil => rfl
  | cons e es ih =>
      rw [run_cons, ih fun e' he' => hes e' (List.mem_cons_of_mem _ he')]
      exact isAuthorizedAddress_step (hes e List.mem_cons_self) a

/-- The task of a grant finds its host, which is shown from then on. -/
theorem granted_host_visible (hwf : WellFormed m) {address : String} {port : Int}
    (hvalid : validAddress address port = true) (hfree : m.flush.holdsLock = false)
    {mid : List ManagerEvent} (hmid : ∀ e ∈ mid, grants e = false) {i : Nat} {info : ServerInfo}
    (htask : (run (step toLower) m (.addAssignedHost address port :: mid)).tasks[i]? =
      some ⟨assignedAddress address port, .resolved info⟩)
    (hfree' : (run (step toLower) m (.addAssignedHost address port :: mid)).flush.holdsLock =
      false) :
    Visible toLower info.host.uuid (step toLower
      (run (step toLower) m (.addAssignedHost address port :: mid)) (.addTaskCompleted i)) := by
  have hwf' := @run_wellFormed toLower m hwf (.addAssignedHost address port :: mid)
  have hauth : (run (step toLower) m (.addAssignedHost address port :: mid)).isAuthorizedAddress
      toLower (assignedAddress address port) = true := by
    rw [run_cons, run_isAuthorizedAddress hmid, step, if_neg (by simp [blocked, hfree]), perform]
    exact (addAssignedHost_isAuthorizedAddress hvalid).mpr ⟨assignedAddress_isNull hvalid, rfl⟩
  generalize run (step toLower) m (.addAssignedHost address port :: mid) = m' at *
  rw [visible_iff (wellFormed_step hwf' _)]
  simp only [isAuthorizedAddress_step (e := .addTaskCompleted i) rfl]
  rw [step, if_neg (by simp [blocked, hfree'])]
  obtain ⟨c, hc, haddress⟩ := @foldIn_manualAddress toLower m' hwf' i _ info htask
  exact ⟨c, hc, by rw [haddress, hauth]⟩

/-- **The assigned host is visible.** Once the task of the latest grant has found a host, the
host is shown, and it stays so exactly until another task finds it at an address that is not
granted. Nothing is ever shown that is not granted. Neither the grant nor the task has to
wait for the flush thread here. -/
theorem assigned_host_visible_iff (hreach : Reachable toLower m) {address : String} {port : Int}
    (hvalid : validAddress address port = true) (hfree : m.flush.holdsLock = false)
    {mid post : List ManagerEvent} (hmid : ∀ e ∈ mid, grants e = false)
    (hpost : ∀ e ∈ post, grants e = false) {info : ServerInfo} {m' : ComputerManager}
    (hm' : m' = run (step toLower) m (.addAssignedHost address port :: mid))
    (htask : m'.tasks[m.tasks.length]? =
      some ⟨assignedAddress address port, .resolved info⟩)
    (hfree' : m'.flush.holdsLock = false) :
    ((∀ pre, pre <+: post → Visible toLower info.host.uuid
        (run (step toLower) (step toLower m' (.addTaskCompleted m.tasks.length)) pre)) ↔
      AllSteps (step toLower) (fun m e => ¬ MovesAway toLower info.host.uuid m e)
        (step toLower m' (.addTaskCompleted m.tasks.length)) post) ∧
      ∀ pre, pre <+: post → ∀ c ∈ (run (step toLower)
          (step toLower m' (.addTaskCompleted m.tasks.length)) pre).getComputers toLower,
        (run (step toLower) (step toLower m' (.addTaskCompleted m.tasks.length))
          pre).isAuthorizedAddress toLower c.manualAddress = true := by
  refine ⟨?_, fun pre _ c hc => getComputers_isAuthorizedAddress hc⟩
  subst hm'
  have hwf : WellFormed (step toLower (run (step toLower) m (.addAssignedHost address port :: mid))
      (.addTaskCompleted m.tasks.length)) :=
    wellFormed_step (run_wellFormed hreach.wellFormed _) _
  have hkeeps : ∀ m e, grants e = false → WellFormed m → WellFormed (step toLower m e) :=
    fun m e _ h => wellFormed_step h e
  have hstep : ∀ m e, grants e = false → WellFormed m → Visible toLower info.host.uuid m →
      (Visible toLower info.host.uuid (step toLower m e) ↔
        ¬ MovesAway toLower info.host.uuid m e) :=
    fun m e he hwf h => visible_step hwf he h
  exact run_invariant_iff_of hkeeps hstep hwf
    (granted_host_visible hreach.wellFormed hvalid hfree hmid htask hfree') hpost

/-- A grant whose task finds the VM, with nothing after it. -/
theorem granted_vm_visible :
    Visible id "vm-1" (run (step id) (step id (run (step id) (start [])
      [.addAssignedHost "10.0.0.1" 47989, .addTaskAnswered 0 (some (vmInfo "vm-1"))])
        (.addTaskCompleted 0)) []) := by
  have hreach : Reachable id (start []) := ⟨[], [], rfl⟩
  have hvisible := @assigned_host_visible_iff id (start []) hreach "10.0.0.1" 47989 (by decide) rfl
    [.addTaskAnswered 0 (some (vmInfo "vm-1"))] [] (by simp [grants]) (by simp) (vmInfo "vm-1") _
    rfl rfl rfl
  exact hvisible.1.mpr trivial [] (List.prefix_refl _)

/-- A VM is granted at one address and then at another one, where it is found first. -/
def movedBack : List ManagerEvent :=
  [.addAssignedHost "10.0.0.2" 47989, .addAssignedHost "10.0.0.1" 47989,
    .addTaskAnswered 1 (some (vmInfo "vm-1")), .addTaskCompleted 1,
    .addTaskAnswered 0 (some (vmInfo "vm-1")), .addTaskPinned 0 (some (vmInfo "vm-1")),
    .addTaskCompleted 0]

/-- It is shown, and no longer when the task of the first grant has found it too. -/
theorem movedBack_hides :
    Visible id "vm-1" (run (step id) (start []) (movedBack.take 4)) ∧
      ¬ Visible id "vm-1" (run (step id) (start []) movedBack) := by
  decide +kernel

end ComputerManager

end GilStreaming.Client
