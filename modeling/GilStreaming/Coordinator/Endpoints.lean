import GilStreaming.Coordinator.Discovery
import GilStreaming.Coordinator.Exclusive

/-!
# GilStreaming.Coordinator.Endpoints

When two available VMs never share an address and a port.

`Refresh` writes the address of the host that answered for a VM, and leaves a VM that
nobody answered for as it was, address included. So it keeps endpoints apart exactly
when no browse answers for two enabled VMs at one endpoint, and none answers for one
VM at the endpoint remembered for another that is missing from it
(`Store.ClashFree`). The second case is what happens when an address is reassigned.
-/

namespace GilStreaming.Coordinator

open GilStreaming.Trace

/-! ### The property and the condition -/

/-- No two VMs that are available have the same stream address and port. -/
def EndpointsExclusive (vms : List VM) : Prop :=
  ∀ v ∈ vms, ∀ w ∈ vms, v.id ≠ w.id → v.available = true → w.available = true →
    ¬ (v.streamAddress = w.streamAddress ∧ v.streamPort = w.streamPort)

section Refresh

variable (lib : GoLibrary)

/-- The browse brings no two VMs to one endpoint: neither by answering for both there,
nor by answering for one at the endpoint of another that it does not answer for. -/
structure Store.ClashFree (s : Store) (entries : List DiscoveredSunshine) : Prop where
  answered : ∀ v ∈ s.vms, ∀ w ∈ s.vms, v.id ≠ w.id → v.enabled = true → w.enabled = true →
    ∀ e f, v.answer lib entries = some e → w.answer lib entries = some f →
      0 < e.portFor v → e.portFor v ≤ 65535 →
      ¬ (e.address = f.address ∧ e.portFor v = f.portFor w)
  missing : ∀ v ∈ s.vms, ∀ w ∈ s.vms, v.id ≠ w.id → v.enabled = true → w.available = true →
    ∀ e, v.answer lib entries = some e → w.answer lib entries = none →
      ¬ (e.address = w.streamAddress ∧ e.portFor v = w.streamPort)

/-- The same of a browse that may have failed: then nothing is written. -/
def Store.BrowseClashFree (s : Store) (browse : BrowseResult) : Prop :=
  ∀ entries, browse = .ok entries → s.ClashFree lib entries

/-- One `Refresh`, as a step of the store. -/
def refreshStep (s : Store) (browse : BrowseResult) : Store := (s.refresh lib browse).1

/-! ### What `Refresh` writes -/

/-- A VM after `Refresh`. -/
def VM.refreshed (vm : VM) (entries : List DiscoveredSunshine) : VM :=
  match vm.answer lib entries with
  | none => vm
  | some entry => vm.updated lib entry

theorem VM.refreshed_id (vm : VM) (entries : List DiscoveredSunshine) :
    (vm.refreshed lib entries).id = vm.id := by
  unfold VM.refreshed
  split <;> rfl

theorem VM.available_iff (vm : VM) :
    vm.available = true ↔
      vm.enabled = true ∧ vm.streamAddress ≠ "" ∧ 0 < vm.streamPort ∧ vm.streamPort ≤ 65535 := by
  simp [VM.available, and_assoc]

theorem VM.updated_available {vm : VM} {entries : List DiscoveredSunshine}
    {entry : DiscoveredSunshine} (h : vm.answer lib entries = some entry) :
    (vm.updated lib entry).available = true ↔
      vm.enabled = true ∧ 0 < entry.portFor vm ∧ entry.portFor vm ≤ 65535 := by
  have haddress : entry.address ≠ "" := by
    unfold VM.answer at h
    split at h
    · exact absurd h (by simp)
    · have hsat := List.find?_some h
      simp only [Bool.and_eq_true] at hsat
      exact parseIP_ne_empty hsat.2
  rw [VM.available_iff]
  simp [VM.updated, haddress]

variable {lib}

theorem lookup_recordAnswer (entries : List DiscoveredSunshine) (updates : GoMap String VM)
    (vm : VM) (id : String) :
    (recordAnswer lib entries updates vm).lookup id =
      if id = vm.id then ((vm.answer lib entries).map (vm.updated lib)).or (updates.lookup id)
      else updates.lookup id := by
  unfold recordAnswer
  cases vm.answer lib entries with
  | none => simp
  | some entry => rw [GoMap.lookup_insert_eq]; rfl

/-- The loop leaves the entries of ids it does not meet alone. -/
theorem lookup_foldl_recordAnswer {vms : List VM} {entries : List DiscoveredSunshine}
    {id : String} (hid : id ∉ vms.map VM.id) (updates : GoMap String VM) :
    (vms.foldl (recordAnswer lib entries) updates).lookup id = updates.lookup id := by
  induction vms generalizing updates with
  | nil => rfl
  | cons vm vms ih =>
      obtain ⟨hne, hid⟩ := not_or.mp (List.mem_cons.not.mp hid)
      rw [List.foldl_cons, ih hid, lookup_recordAnswer, if_neg hne]

/-- With distinct ids, what the loop records under a VM's id is that VM's answer. -/
theorem lookup_refreshUpdates {vms : List VM} {entries : List DiscoveredSunshine} {vm : VM}
    (hids : (vms.map VM.id).Nodup) (hvm : vm ∈ vms) :
    (refreshUpdates lib vms entries).lookup vm.id =
      (vm.answer lib entries).map (vm.updated lib) := by
  obtain ⟨earlier, later, rfl⟩ := List.append_of_mem hvm
  rw [List.map_append, List.map_cons] at hids
  have hlater := (List.nodup_cons.mp (List.nodup_append.mp hids).2.1).1
  have hearlier : vm.id ∉ earlier.map VM.id := fun hmem =>
    (List.nodup_append.mp hids).2.2 _ hmem _ List.mem_cons_self rfl
  rw [refreshUpdates, List.foldl_append, List.foldl_cons, lookup_foldl_recordAnswer hlater,
    lookup_recordAnswer, if_pos rfl, lookup_foldl_recordAnswer hearlier]
  simp

/-- With distinct ids, `Refresh` rewrites every VM by its own answer. -/
theorem refresh_vms {s : Store} (hids : (s.vms.map VM.id).Nodup)
    (entries : List DiscoveredSunshine) :
    (refreshStep lib s (.ok entries)).vms = s.vms.map fun vm => vm.refreshed lib entries := by
  refine List.map_congr_left fun vm hvm => ?_
  rw [lookup_refreshUpdates hids hvm, VM.refreshed]
  cases vm.answer lib entries <;> rfl

theorem refresh_ids (s : Store) (hids : (s.vms.map VM.id).Nodup) (browse : BrowseResult) :
    (refreshStep lib s browse).vms.map VM.id = s.vms.map VM.id := by
  cases browse with
  | error err => rfl
  | ok entries =>
      rw [refresh_vms hids, List.map_map]
      exact List.map_congr_left fun vm _ => vm.refreshed_id lib entries

/-! ### One browse -/

/-- **Step lemma.** Distinct endpoints stay distinct exactly when the browse brings no
two VMs together. -/
theorem refresh_exclusive_iff {s : Store} (hids : (s.vms.map VM.id).Nodup)
    (h : EndpointsExclusive s.vms) (browse : BrowseResult) :
    EndpointsExclusive (refreshStep lib s browse).vms ↔ s.BrowseClashFree lib browse := by
  cases browse with
  | error err => exact iff_of_true h fun entries hentries => absurd hentries (by simp)
  | ok entries =>
      rw [refresh_vms hids]
      constructor
      · intro hafter entries' hentries
        obtain rfl := Except.ok.inj hentries
        constructor
        · intro v hv w hw hne hvenabled hwenabled e f he hf hlo hhi hsame
          -- both VMs were answered for, at one endpoint: both are available there
          have hclash := hafter _ (List.mem_map_of_mem hv) _ (List.mem_map_of_mem hw)
          rw [VM.refreshed_id, VM.refreshed_id, VM.refreshed, VM.refreshed, he, hf] at hclash
          exact hclash hne ((VM.updated_available lib he).mpr ⟨hvenabled, hlo, hhi⟩)
            ((VM.updated_available lib hf).mpr ⟨hwenabled, hsame.2 ▸ hlo, hsame.2 ▸ hhi⟩) hsame
        · intro v hv w hw hne hvenabled hwavailable e he hnone hsame
          have hclash := hafter _ (List.mem_map_of_mem hv) _ (List.mem_map_of_mem hw)
          rw [VM.refreshed_id, VM.refreshed_id, VM.refreshed, VM.refreshed, he, hnone] at hclash
          obtain ⟨-, -, hlo, hhi⟩ := w.available_iff.mp hwavailable
          rw [← hsame.2] at hlo hhi
          exact hclash hne ((VM.updated_available lib he).mpr ⟨hvenabled, hlo, hhi⟩) hwavailable
            hsame
      · intro hfree v' hv' w' hw'
        obtain ⟨v, hv, rfl⟩ := List.mem_map.mp hv'
        obtain ⟨w, hw, rfl⟩ := List.mem_map.mp hw'
        have hfree := hfree entries rfl
        rw [VM.refreshed_id, VM.refreshed_id, VM.refreshed, VM.refreshed]
        intro hne
        cases he : v.answer lib entries with
        | none =>
            cases hf : w.answer lib entries with
            | none => exact h v hv w hw hne
            | some f =>
                intro hvavailable hwavailable hsame
                obtain ⟨hwenabled, -, -⟩ := (VM.updated_available lib hf).mp hwavailable
                exact hfree.missing w hw v hv (Ne.symm hne) hwenabled hvavailable f hf he
                  ⟨hsame.1.symm, hsame.2.symm⟩
        | some e =>
            intro hvavailable
            obtain ⟨hvenabled, hlo, hhi⟩ := (VM.updated_available lib he).mp hvavailable
            cases hf : w.answer lib entries with
            | none =>
                exact fun hwavailable =>
                  hfree.missing v hv w hw hne hvenabled hwavailable e he hf
            | some f =>
                intro hwavailable
                obtain ⟨hwenabled, -, -⟩ := (VM.updated_available lib hf).mp hwavailable
                exact hfree.answered v hv w hw hne hvenabled hwenabled e f he hf hlo hhi

end Refresh

/-! ### A run of browses -/

/-- Starting without any static address, after every `Refresh` of a run no two
available VMs share an endpoint, exactly when no browse of the run brings two VMs to
one endpoint. -/
theorem endpoints_exclusive_iff (lib : GoLibrary) (config : Config)
    (hids : (config.vms.map VM.id).Nodup)
    (hstatic : ∀ vm ∈ config.vms, vm.streamAddress = "") (browses : List BrowseResult) :
    (∀ earlier, earlier <+: browses →
      EndpointsExclusive (run (refreshStep lib) config.store earlier).vms) ↔
    AllSteps (refreshStep lib) (fun s browse => s.BrowseClashFree lib browse)
      config.store browses := by
  have hinitial : EndpointsExclusive config.store.vms := by
    intro v hv w _ _ havailable
    exact absurd (hstatic v hv) (v.available_iff.mp havailable).2.1
  have hnodup : ∀ bs : List BrowseResult,
      ((run (refreshStep lib) config.store bs).vms.map VM.id).Nodup := by
    intro bs
    have hstep : ∀ (s : Store) (browse : BrowseResult), True → (s.vms.map VM.id).Nodup →
        ((refreshStep lib s browse).vms.map VM.id).Nodup := by
      intro s browse _ h
      rw [refresh_ids s h]
      exact h
    exact run_invariant hstep hids (AllSteps.of_forall (fun _ _ => trivial) _)
  constructor
  · intro h
    induction browses using List.reverseRecOn with
    | nil => trivial
    | append_singleton browses browse ih =>
        refine allSteps_concat.mpr
          ⟨ih fun earlier hpre => h earlier (hpre.trans (List.prefix_append ..)), ?_⟩
        have hbefore := h browses (List.prefix_append ..)
        have hafter := h (browses ++ [browse]) (List.prefix_refl _)
        rw [run_concat] at hafter
        exact (refresh_exclusive_iff (hnodup browses) hbefore browse).mp hafter
  · rintro hfree earlier ⟨later, rfl⟩
    have hsteps := (allSteps_append.mp hfree).1
    have hstep : ∀ (s : Store) (browse : BrowseResult), s.BrowseClashFree lib browse →
        EndpointsExclusive s.vms ∧ (s.vms.map VM.id).Nodup →
        EndpointsExclusive (refreshStep lib s browse).vms ∧
          ((refreshStep lib s browse).vms.map VM.id).Nodup := by
      intro s browse hclash ⟨hexclusive, hids⟩
      rw [refresh_ids s hids]
      exact ⟨(refresh_exclusive_iff hids hexclusive browse).mpr hclash, hids⟩
    exact (run_invariant hstep ⟨hinitial, hids⟩ hsteps).1

/-! ### Two discovered VMs -/

/-- Go's library on ASCII names and VMs without a Sunshine URL. -/
def asciiLibrary : GoLibrary := ⟨Char.toLower, fun _ => some ⟨"", ""⟩⟩

/-- A configuration of two VMs that are found by discovery only. -/
def discoveryConfig : Config where
  listen := "127.0.0.1:6766"
  leaseTTLSeconds := 90
  stateFile := "coordinator-state.json"
  devAuthEnabled := true
  vms :=
    [⟨"vm-1", "", "v1", "", 0, "", 0, "", true⟩, ⟨"vm-2", "", "v2", "", 0, "", 0, "", true⟩]

/-- The host of the first VM, and later that of the second, at one address. -/
def firstHost : DiscoveredSunshine := ⟨"v1", "v1.local.", "10.0.0.5", 47989⟩

def secondHost : DiscoveredSunshine := ⟨"v2", "v2.local.", "10.0.0.5", 47989⟩

theorem endpoints_exclusive_iff_first_host :
    EndpointsExclusive
      (run (refreshStep asciiLibrary) discoveryConfig.store [.ok [firstHost]]).vms := by
  refine (endpoints_exclusive_iff asciiLibrary discoveryConfig (by decide) (by decide)
    [.ok [firstHost]]).mpr ⟨?_, trivial⟩ [.ok [firstHost]] (List.prefix_refl _)
  intro entries hentries
  obtain rfl := Except.ok.inj hentries
  constructor
  · intro v hv w hw hne _ _ e f he hf
    -- nobody answers for the second VM
    have hfirst : ∀ u ∈ discoveryConfig.vms, u.answer asciiLibrary [firstHost] ≠ none →
        u.id = "vm-1" := by decide
    exact absurd ((hfirst v hv (by simp [he])).trans (hfirst w hw (by simp [hf])).symm) hne
  · intro v _ w hw _ _ havailable
    have hnone : ∀ u ∈ discoveryConfig.vms, u.available = false := by decide
    exact absurd ((hnone w hw).symm.trans havailable) (by simp)

/-- Distinct hosts answer at distinct addresses, and each at one. -/
def OneAddressPerHost (entries : List DiscoveredSunshine) : Prop :=
  ∀ e ∈ entries, ∀ f ∈ entries, e.hostname = f.hostname ↔ e.address = f.address

/-- The first VM's host leaves the network and the second one's is given its address:
both VMs are then available at that address. -/
theorem reassigned_address_shared :
    loadConfig (.ok discoveryConfig) = .ok discoveryConfig ∧
      (discoveryConfig.vms.map VM.id).Nodup ∧
      (discoveryConfig.vms.map fun vm =>
        normalizeDiscoveryName asciiLibrary vm.discoveryName).Nodup ∧
      (∀ vm ∈ discoveryConfig.vms, vm.streamAddress = "") ∧
      OneAddressPerHost [firstHost] ∧ OneAddressPerHost [secondHost] ∧
      ¬ EndpointsExclusive (run (refreshStep asciiLibrary) discoveryConfig.store
        [.ok [firstHost], .ok [secondHost]]).vms := by
  refine ⟨by decide, by decide, by decide, by decide, by simp [OneAddressPerHost],
    by simp [OneAddressPerHost], fun h => ?_⟩
  exact h _ List.mem_cons_self _ (List.mem_cons_of_mem _ (List.mem_singleton_self _))
    (by decide) (by decide) (by decide) (by decide)

/-! ### Leases -/

/-- While endpoints are distinct, two leases of an exclusive map send their clients to
two different machines. -/
theorem leases_to_distinct_endpoints {s : Store} (hs : s.leases.Exclusive)
    (h : EndpointsExclusive s.vms) {k k' : String} {l l' : Lease} {v w : VM}
    (hl : s.leases.lookup k = some l) (hl' : s.leases.lookup k' = some l') (hne : k ≠ k')
    (hv : s.availableVM l.vmID = some v) (hw : s.availableVM l'.vmID = some w) :
    ¬ (v.streamAddress = w.streamAddress ∧ v.streamPort = w.streamPort) := by
  obtain ⟨hvmem, hvid, hvavail⟩ := availableVM_eq_some hv
  obtain ⟨hwmem, hwid, hwavail⟩ := availableVM_eq_some hw
  refine h v hvmem w hwmem (fun heq => hne (hs.vm hl hl' ?_)) hvavail hwavail
  rw [← hvid, ← hwid, heq]

end GilStreaming.Coordinator
