import GilStreaming.Coordinator.Endpoints
import GilStreaming.Lib.Threads
import Mathlib.Data.List.Permutation

/-!
# GilStreaming.Coordinator.ConcurrentRefresh

Several calls of `SunshineDiscovery.Refresh` at a time.

A `Refresh` that has browsed takes the store's mutex twice: it copies the VM list, and
later writes back whole records made from the copy. The address that it writes it has found
itself, and the URL it writes depends only on the scheme and the port of the old one, which
no `Refresh` changes. But the port of an entry without one is the port of the copy, so a
port that another `Refresh` has found meanwhile is overwritten by the one before
(`refresh_loses_port`). As long as that does not happen (`RefreshSystem.Stale`), every
`Refresh` does at its second step what it would have done in one.
-/

namespace GilStreaming.Coordinator

open GilStreaming.Trace

/-! ### The system -/

/-- How far a call of `Refresh` has come. -/
inductive RefreshCall
  /-- `d.browse` has returned. -/
  | browsed (browse : BrowseResult)
  /-- `store.VMs` has returned. -/
  | copied (entries : List DiscoveredSunshine) (vms : List VM)
  | returned
  deriving DecidableEq

structure RefreshSystem where
  store : Store
  calls : List RefreshCall

/-- All the calls, before their first step. -/
def RefreshSystem.initial (s : Store) (browses : List BrowseResult) : RefreshSystem :=
  ⟨s, browses.map .browsed⟩

section System

variable (lib : GoLibrary)

/-- The `i`-th call takes its next step. -/
def RefreshSystem.step (sys : RefreshSystem) (i : Nat) : RefreshSystem :=
  match sys.calls[i]? with
  | some (.browsed (.error _)) => { sys with calls := sys.calls.set i .returned }
  | some (.browsed (.ok entries)) =>
    { sys with calls := sys.calls.set i (.copied entries sys.store.vms) }
  | some (.copied entries vms) =>
    { store := sys.store.updateVMs (refreshUpdates lib vms entries)
      calls := sys.calls.set i .returned }
  | _ => sys

/-- The call that returns with the step, as the result of its browse. -/
def RefreshSystem.returning (sys : RefreshSystem) (i : Nat) : Option BrowseResult :=
  match sys.calls[i]? with
  | some (.browsed (.error err)) => some (.error err)
  | some (.copied entries _) => some (.ok entries)
  | _ => none

abbrev RefreshSystem.run (sys : RefreshSystem) (schedule : List Nat) : RefreshSystem :=
  Trace.run (RefreshSystem.step lib) sys schedule

/-- The calls that have returned, in the order in which they did. -/
abbrev RefreshSystem.returned (sys : RefreshSystem) (schedule : List Nat) : List BrowseResult :=
  Trace.outputs (RefreshSystem.step lib) RefreshSystem.returning sys schedule

theorem RefreshSystem.run_concat (sys : RefreshSystem) (schedule : List Nat) (i : Nat) :
    sys.run lib (schedule ++ [i]) = (sys.run lib schedule).step lib i := Trace.run_concat ..

theorem RefreshSystem.returned_concat (sys : RefreshSystem) (schedule : List Nat) (i : Nat) :
    sys.returned lib (schedule ++ [i]) =
      sys.returned lib schedule ++ ((sys.run lib schedule).returning i).toList :=
  Trace.outputs_concat ..

/-- The step writes a port back that is not the VM's any more: nobody has found one for it,
and that of the copy is an old one. -/
def RefreshSystem.Stale (sys : RefreshSystem) (i : Nat) : Prop :=
  match sys.calls[i]? with
  | some (.copied entries vms) =>
    ∃ old ∈ vms, ∃ vm ∈ sys.store.vms, old.id = vm.id ∧
      ∃ entry ∈ old.answer lib entries, ¬ entry.port > 0 ∧ old.streamPort ≠ vm.streamPort
  | _ => False

instance (sys : RefreshSystem) (i : Nat) : Decidable (sys.Stale lib i) :=
  match h : sys.calls[i]? with
  | some (.copied entries vms) =>
    decidable_of_iff (∃ old ∈ vms, ∃ vm ∈ sys.store.vms, old.id = vm.id ∧
      ∃ entry ∈ old.answer lib entries, ¬ entry.port > 0 ∧ old.streamPort ≠ vm.streamPort)
      (by rw [RefreshSystem.Stale, h])
  | none => isFalse (by rw [RefreshSystem.Stale, h]; exact id)
  | some (.browsed _) => isFalse (by rw [RefreshSystem.Stale, h]; exact id)
  | some .returned => isFalse (by rw [RefreshSystem.Stale, h]; exact id)

/-! ### What a `Refresh` leaves alone -/

/-- The fields of a VM that are configured only. -/
def VM.configured (vm : VM) : String × String × String × Bool × String × Int :=
  (vm.id, vm.displayName, vm.discoveryName, vm.enabled, vm.publicAddress, vm.publicPort)

/-- `url.Parse` finds the scheme and the port again in a URL that is made of them and of an
IP address. -/
def GoLibrary.ReadsBack : Prop :=
  ∀ scheme port address,
    (scheme = "https" ∨ ∃ url parsed, lib.parseURL url = some parsed ∧ parsed.scheme = scheme) →
    (port = "47990" ∨ ∃ url parsed, lib.parseURL url = some parsed ∧ parsed.port = port) →
    scheme ≠ "" → port ≠ "" → parseIP address = true →
    lib.parseURL (scheme ++ "://" ++ joinHostPort address port) = some ⟨scheme, port⟩

variable {lib}

/-- A part of a parsed URL, or what `sunshineURLAtAddress` puts in its place. -/
theorem part_or_default {part : ParsedURL → String} {default : String} (hdefault : default ≠ "")
    (hzero : part ⟨"", ""⟩ = "") (existing : String) :
    ∃ text, (if part ((lib.parseURL existing).getD ⟨"", ""⟩) ≠ "" then
        part ((lib.parseURL existing).getD ⟨"", ""⟩) else default) = text ∧
      (text = default ∨ ∃ url parsed, lib.parseURL url = some parsed ∧ part parsed = text) ∧
      text ≠ "" := by
  refine ⟨_, rfl, ?_⟩
  split
  · next hne =>
      cases hparse : lib.parseURL existing with
      | none => exact absurd hzero (by simpa [hparse] using hne)
      | some parsed => exact ⟨.inr ⟨existing, parsed, hparse, rfl⟩, by simpa [hparse] using hne⟩
  · exact ⟨.inl rfl, hdefault⟩

/-- A second address replaces the first. -/
theorem sunshineURLAtAddress_idem (hlib : lib.ReadsBack) (existing address : String)
    {found : String} (hfound : parseIP found = true) :
    sunshineURLAtAddress lib (sunshineURLAtAddress lib existing found) address =
      sunshineURLAtAddress lib existing address := by
  obtain ⟨scheme, hscheme, hreads, hscheme'⟩ :=
    @part_or_default lib ParsedURL.scheme "https" (by decide) rfl existing
  obtain ⟨port, hport, hreads', hport'⟩ :=
    @part_or_default lib ParsedURL.port "47990" (by decide) rfl existing
  have hurl : ∀ a, sunshineURLAtAddress lib existing a =
      scheme ++ "://" ++ joinHostPort a port := by
    intro a
    unfold sunshineURLAtAddress
    dsimp only
    rw [hscheme, hport]
  have hback := hlib scheme port found hreads hreads' hscheme' hport' hfound
  rw [hurl found, hurl address, sunshineURLAtAddress, hback]
  simp [hscheme', hport']

/-- The host behind two records of a VM: what is configured, and the scheme and the port of
the URL. -/
structure VM.SameHost (lib : GoLibrary) (old vm : VM) : Prop where
  configured : old.configured = vm.configured
  url : ∀ address, sunshineURLAtAddress lib old.sunshineAPIURL address =
    sunshineURLAtAddress lib vm.sunshineAPIURL address

namespace VM.SameHost

variable {old vm vm' : VM}

theorem refl (vm : VM) : vm.SameHost lib vm := ⟨rfl, fun _ => rfl⟩

theorem symm (h : old.SameHost lib vm) : vm.SameHost lib old :=
  ⟨h.configured.symm, fun a => (h.url a).symm⟩

theorem trans (h : old.SameHost lib vm) (h' : vm.SameHost lib vm') : old.SameHost lib vm' :=
  ⟨h.configured.trans h'.configured, fun a => (h.url a).trans (h'.url a)⟩

theorem id (h : old.SameHost lib vm) : old.id = vm.id := congrArg Prod.fst h.configured

theorem answer (h : old.SameHost lib vm) (entries : List DiscoveredSunshine) :
    old.answer lib entries = vm.answer lib entries := by
  have hname : old.discoveryName = vm.discoveryName :=
    congrArg (fun c => c.2.2.1) h.configured
  rw [VM.answer, VM.answer, hname]

/-- The two become the same when the entry brings a port, or they had the same one. -/
theorem updated_eq_iff (h : old.SameHost lib vm) (entry : DiscoveredSunshine) :
    old.updated lib entry = vm.updated lib entry ↔
      (¬ entry.port > 0 → old.streamPort = vm.streamPort) := by
  have hconfigured := h.configured
  simp only [VM.configured, Prod.mk.injEq] at hconfigured
  rw [VM.mk.injEq]
  simp only [VM.updated, h.url, hconfigured, DiscoveredSunshine.portFor, true_and, and_true]
  split
  · next hport => simp [hport]
  · next hport => simp [hport]

end VM.SameHost

theorem VM.answer_parseIP {vm : VM} {entries : List DiscoveredSunshine}
    {entry : DiscoveredSunshine} (h : vm.answer lib entries = some entry) :
    parseIP entry.address = true := by
  unfold VM.answer at h
  split at h
  · exact absurd h (by simp)
  · have hsat := List.find?_some h
    simp only [Bool.and_eq_true] at hsat
    exact hsat.2

/-- What a `Refresh` writes is a record of the same host. -/
theorem VM.updated_sameHost (hlib : lib.ReadsBack) (vm : VM) {entry : DiscoveredSunshine}
    (haddress : parseIP entry.address = true) : (vm.updated lib entry).SameHost lib vm :=
  ⟨rfl, fun a => sunshineURLAtAddress_idem hlib vm.sunshineAPIURL a haddress⟩

/-! ### One step -/

/-- Every copy is one of this VM list, perhaps of an earlier state. -/
structure RefreshSystem.Consistent (lib : GoLibrary) (sys : RefreshSystem) : Prop where
  ids : (sys.store.vms.map VM.id).Nodup
  copies : ∀ (i : Nat) entries vms, sys.calls[i]? = some (.copied entries vms) →
    vms.map VM.id = sys.store.vms.map VM.id ∧
      ∀ old ∈ vms, ∀ vm ∈ sys.store.vms, old.id = vm.id → old.SameHost lib vm

section Step

variable {sys : RefreshSystem} {i : Nat} {entries : List DiscoveredSunshine} {vms : List VM}

/-- What a call that has copied the list writes for a VM: the answer for its copy. -/
theorem RefreshSystem.Consistent.lookup (h : sys.Consistent lib)
    (hi : sys.calls[i]? = some (.copied entries vms)) {vm : VM} (hvm : vm ∈ sys.store.vms) :
    ∃ old ∈ vms, old.SameHost lib vm ∧
      (refreshUpdates lib vms entries).lookup vm.id =
        (vm.answer lib entries).map (old.updated lib) := by
  obtain ⟨hids, hsame⟩ := h.copies i entries vms hi
  obtain ⟨old, hold, hid⟩ : ∃ old ∈ vms, old.id = vm.id := by
    have hmem : vm.id ∈ vms.map VM.id := by rw [hids]; exact List.mem_map_of_mem hvm
    exact List.mem_map.mp hmem
  have hhost := hsame old hold vm hvm hid
  refine ⟨old, hold, hhost, ?_⟩
  rw [← hhost.answer, ← hid]
  exact lookup_refreshUpdates (hids ▸ h.ids) hold

theorem RefreshSystem.Consistent.written (hlib : lib.ReadsBack) (h : sys.Consistent lib)
    (hi : sys.calls[i]? = some (.copied entries vms)) {vm : VM} (hvm : vm ∈ sys.store.vms) :
    (((refreshUpdates lib vms entries).lookup vm.id).getD vm).SameHost lib vm := by
  obtain ⟨old, -, hhost, hlookup⟩ := h.lookup hi hvm
  rw [hlookup]
  cases hanswer : vm.answer lib entries with
  | none => exact .refl vm
  | some entry => exact (VM.updated_sameHost hlib old (VM.answer_parseIP hanswer)).trans hhost

/-- No step changes what is configured of the VMs. -/
theorem RefreshSystem.Consistent.step_configured (hlib : lib.ReadsBack)
    (h : sys.Consistent lib) (i : Nat) :
    (sys.step lib i).store.vms.map VM.configured = sys.store.vms.map VM.configured := by
  unfold RefreshSystem.step
  split
  · rfl
  · rfl
  · next entries vms hi =>
      dsimp only [Store.updateVMs]
      rw [List.map_map]
      exact List.map_congr_left fun vm hvm => (h.written hlib hi hvm).configured
  · rfl

theorem RefreshSystem.Consistent.step (hlib : lib.ReadsBack) (h : sys.Consistent lib) (i : Nat) :
    (sys.step lib i).Consistent lib := by
  have hids : (sys.step lib i).store.vms.map VM.id = sys.store.vms.map VM.id := by
    have hmap := congrArg (List.map Prod.fst) (h.step_configured hlib i)
    simpa only [List.map_map, Function.comp_def, VM.configured] using hmap
  refine ⟨hids ▸ h.ids, ?_⟩
  intro j entries' vms' hj
  rw [hids]
  unfold RefreshSystem.step at hj ⊢
  split at hj
  · next err hi =>
      rcases (Threads.getElem?_set_eq_some hi).mp hj with ⟨-, hcall⟩ | ⟨-, hj⟩
      · exact absurd hcall (by simp)
      · exact h.copies j entries' vms' hj
  · next entries hi =>
      rcases (Threads.getElem?_set_eq_some hi).mp hj with ⟨-, hcall⟩ | ⟨-, hj⟩
      · -- the copy that is made
        obtain ⟨rfl, rfl⟩ := RefreshCall.copied.inj hcall
        refine ⟨rfl, fun old hold vm hvm hid => ?_⟩
        rw [List.inj_on_of_nodup_map h.ids hold hvm hid]
        exact .refl vm
      · exact h.copies j entries' vms' hj
  · next entries vms hi =>
      rcases (Threads.getElem?_set_eq_some hi).mp hj with ⟨-, hcall⟩ | ⟨-, hj⟩
      · exact absurd hcall (by simp)
      · obtain ⟨hids', hsame⟩ := h.copies j entries' vms' hj
        refine ⟨hids', fun old hold vm' hvm' hid => ?_⟩
        obtain ⟨vm, hvm, rfl⟩ := List.mem_map.mp hvm'
        have hwritten := h.written hlib hi hvm
        exact (hsame old hold vm hvm (hid.trans hwritten.id)).trans hwritten.symm
  · exact h.copies j entries' vms' hj

/-- What a call that has copied the list writes is what it would write now, exactly when
no VM that it has found without a port has another port than its copy. -/
theorem RefreshSystem.Consistent.writes_iff (h : sys.Consistent lib)
    (hi : sys.calls[i]? = some (.copied entries vms)) :
    sys.store.updateVMs (refreshUpdates lib vms entries) =
        sys.store.updateVMs (refreshUpdates lib sys.store.vms entries) ↔
      ∀ old ∈ vms, ∀ vm ∈ sys.store.vms, old.id = vm.id → ∀ entry ∈ old.answer lib entries,
        ¬ entry.port > 0 → old.streamPort = vm.streamPort := by
  have hids : (vms.map VM.id).Nodup := (h.copies i entries vms hi).1 ▸ h.ids
  simp only [Store.updateVMs, Store.mk.injEq, and_true, List.map_inj_left]
  constructor
  · intro hwrites old hold vm hvm hid entry hentry
    have hhost := (h.copies i entries vms hi).2 old hold vm hvm hid
    have hwrite := hwrites vm hvm
    rw [lookup_refreshUpdates h.ids hvm, ← hhost.id, lookup_refreshUpdates hids hold,
      ← hhost.answer, Option.mem_def.mp hentry] at hwrite
    exact (hhost.updated_eq_iff entry).mp hwrite
  · intro hports vm hvm
    obtain ⟨old, hold, hhost, hlookup⟩ := h.lookup hi hvm
    rw [hlookup, lookup_refreshUpdates h.ids hvm]
    cases hanswer : vm.answer lib entries with
    | none => rfl
    | some entry =>
        have hentry : entry ∈ old.answer lib entries := hhost.answer entries ▸ hanswer
        exact (hhost.updated_eq_iff entry).mpr (hports old hold vm hvm hhost.id entry hentry)

/-- **Step lemma.** A step does what the call that returns with it would do alone, exactly
when it writes no old port back. -/
theorem RefreshSystem.Consistent.step_serial_iff (h : sys.Consistent lib) (i : Nat) :
    (sys.step lib i).store = Trace.run (refreshStep lib) sys.store (sys.returning i).toList ↔
      ¬ sys.Stale lib i := by
  unfold RefreshSystem.step RefreshSystem.returning RefreshSystem.Stale
  cases hi : sys.calls[i]? with
  | none => simp
  | some call =>
      cases call with
      | returned => simp
      | browsed browse => cases browse <;> simp [refreshStep, Store.refresh]
      | copied entries vms =>
          refine (h.writes_iff hi).trans ?_
          push Not
          rfl

end Step

/-! ### A run -/

/-- The browse of a call that has not returned. -/
def RefreshCall.pending : RefreshCall → Option BrowseResult
  | .browsed browse => some browse
  | .copied entries _ => some (.ok entries)
  | .returned => none

theorem RefreshSystem.step_pending (sys : RefreshSystem) (i : Nat) :
    (sys.calls.filterMap RefreshCall.pending).Perm
      ((sys.returning i).toList ++ (sys.step lib i).calls.filterMap RefreshCall.pending) := by
  unfold RefreshSystem.step RefreshSystem.returning
  cases hi : sys.calls[i]? with
  | none => exact .refl _
  | some call =>
      cases call with
      | returned => exact .refl _
      | copied entries vms => exact Threads.filterMap_set_none hi rfl rfl
      | browsed browse =>
          cases browse with
          | error err => exact Threads.filterMap_set_none hi rfl rfl
          | ok entries =>
              have hsame : (sys.calls.set i (.copied entries sys.store.vms)).filterMap
                  RefreshCall.pending = sys.calls.filterMap RefreshCall.pending :=
                Threads.filterMap_set_same hi rfl
              exact .of_eq hsame.symm

/-- Every call returns once. -/
theorem RefreshSystem.run_pending (sys : RefreshSystem) (schedule : List Nat) :
    (sys.calls.filterMap RefreshCall.pending).Perm
      (sys.returned lib schedule ++
        (sys.run lib schedule).calls.filterMap RefreshCall.pending) := by
  induction schedule using List.reverseRecOn with
  | nil => exact .refl _
  | append_singleton schedule i ih =>
      rw [returned_concat, run_concat, List.append_assoc]
      exact ih.trans ((step_pending (sys.run lib schedule) i).append_left _)

theorem RefreshSystem.initial_consistent {s : Store} (hids : (s.vms.map VM.id).Nodup)
    (browses : List BrowseResult) : (RefreshSystem.initial s browses).Consistent lib where
  ids := hids
  copies := by
    intro i entries vms hi
    rw [RefreshSystem.initial, List.getElem?_map] at hi
    obtain ⟨browse, -, hcall⟩ := Option.map_eq_some_iff.mp hi
    exact absurd hcall (by simp)

theorem RefreshSystem.Consistent.run {sys : RefreshSystem} (hlib : lib.ReadsBack)
    (h : sys.Consistent lib) (schedule : List Nat) : (sys.run lib schedule).Consistent lib :=
  run_invariant (P := fun _ _ => True) (fun _ i _ h => h.step hlib i) h
    (.of_forall (fun _ _ => trivial) _)

/-- No run changes what is configured of the VMs. -/
theorem RefreshSystem.Consistent.run_configured {sys : RefreshSystem} (hlib : lib.ReadsBack)
    (h : sys.Consistent lib) (schedule : List Nat) :
    (sys.run lib schedule).store.vms.map VM.configured = sys.store.vms.map VM.configured := by
  induction schedule using List.reverseRecOn with
  | nil => rfl
  | append_singleton schedule i ih =>
      rw [RefreshSystem.run_concat]
      exact ((h.run hlib schedule).step_configured hlib i).trans ih

end System

/-- Along every interleaving of calls of `Refresh`, the store is at all times the one that
the calls that have returned make one after another, in the order in which they did,
exactly when no call writes an old port back. All of them return then, each once. Whatever
happens, nothing of the VMs changes that is configured. -/
theorem concurrent_refreshes_serial (lib : GoLibrary) (hlib : lib.ReadsBack) (s : Store)
    (hids : (s.vms.map VM.id).Nodup) (browses : List BrowseResult) (schedule : List Nat) :
    ((∀ pre, pre <+: schedule → ((RefreshSystem.initial s browses).run lib pre).store =
        Trace.run (refreshStep lib) s ((RefreshSystem.initial s browses).returned lib pre)) ↔
      AllSteps (RefreshSystem.step lib) (fun sys i => ¬ sys.Stale lib i)
        (RefreshSystem.initial s browses) schedule) ∧
    ((∀ call ∈ ((RefreshSystem.initial s browses).run lib schedule).calls, call = .returned) →
      ((RefreshSystem.initial s browses).returned lib schedule).Perm browses) ∧
    ((RefreshSystem.initial s browses).run lib schedule).store.vms.map VM.configured =
      s.vms.map VM.configured := by
  have hinitial : (RefreshSystem.initial s browses).Consistent lib :=
    RefreshSystem.initial_consistent hids browses
  refine ⟨⟨fun h => ?_, fun h => ?_⟩, fun hdone => ?_, hinitial.run_configured hlib schedule⟩
  · refine allSteps_iff.mpr fun pre i post hsplit => ?_
    have hbefore := h pre (hsplit ▸ List.prefix_append ..)
    have hafter := h (pre ++ [i]) (by rw [hsplit]; simp)
    rw [RefreshSystem.returned_concat, RefreshSystem.run_concat, run_append, ← hbefore] at hafter
    exact ((hinitial.run hlib pre).step_serial_iff i).mp hafter
  · rintro pre ⟨post, rfl⟩
    have hpre := (allSteps_append.mp h).1
    clear h
    induction pre using List.reverseRecOn with
    | nil => rfl
    | append_singleton pre i ih =>
        obtain ⟨hpre, hlast⟩ := allSteps_concat.mp hpre
        rw [RefreshSystem.returned_concat, RefreshSystem.run_concat, run_append, ← ih hpre]
        exact ((hinitial.run hlib pre).step_serial_iff i).mpr hlast
  · have hperm := @RefreshSystem.run_pending lib (RefreshSystem.initial s browses) schedule
    have hnone : ((RefreshSystem.initial s browses).run lib schedule).calls.filterMap
        RefreshCall.pending = [] :=
      List.filterMap_eq_nil_iff.mpr fun call hcall => by rw [hdone call hcall]; rfl
    have hall : (RefreshSystem.initial s browses).calls.filterMap RefreshCall.pending =
        browses := by
      rw [RefreshSystem.initial, List.filterMap_map]
      exact List.filterMap_some
    rw [hnone, hall, List.append_nil] at hperm
    exact hperm.symm

/-! ### A port that is lost -/

/-- Go's library on ASCII names and on the URLs of Sunshine's defaults. -/
def sunshineLibrary : GoLibrary := ⟨Char.toLower, fun _ => some ⟨"https", "47990"⟩⟩

/-- A VM with a static endpoint. -/
def staticPool : List VM :=
  [⟨"vm-1", "", "v1", "10.0.0.4", 47989, "", 0, "https://10.0.0.4:47990", true⟩]

/-- The host at its next address, on another port; and seen without a port. -/
def movedHost : DiscoveredSunshine := ⟨"v1", "v1.local.", "10.0.0.5", 48989⟩

def portlessHost : DiscoveredSunshine := ⟨"v1", "v1.local.", "10.0.0.6", 0⟩

theorem sunshineLibrary_readsBack : sunshineLibrary.ReadsBack := by
  rintro scheme port address (rfl | ⟨_, parsed, hparse, rfl⟩) (rfl | ⟨_, parsed', hparse', rfl⟩) <;>
    intros
  · rfl
  · obtain rfl := Option.some.inj hparse'
    rfl
  · obtain rfl := Option.some.inj hparse
    rfl
  · obtain rfl := Option.some.inj hparse
    obtain rfl := Option.some.inj hparse'
    rfl

/-- The second call copies the list when the first one has returned. -/
theorem concurrent_refreshes_serial_in_turn :
    ((RefreshSystem.initial (newStore staticPool minute) [.ok [movedHost],
        .ok [portlessHost]]).run sunshineLibrary [0, 0, 1, 1]).store =
      Trace.run (refreshStep sunshineLibrary) (newStore staticPool minute)
        [.ok [movedHost], .ok [portlessHost]] :=
  (concurrent_refreshes_serial sunshineLibrary sunshineLibrary_readsBack
    (newStore staticPool minute) (by decide) [.ok [movedHost], .ok [portlessHost]]
    [0, 0, 1, 1]).1.mpr (by decide) [0, 0, 1, 1] (List.prefix_refl _)

/-- The second call copies the list before the first one has written: the address is then
the second one's and the port an old one, which no order of the two calls comes to. -/
theorem refresh_loses_port :
    (∀ call ∈ ((RefreshSystem.initial (newStore staticPool minute)
      [.ok [movedHost], .ok [portlessHost]]).run sunshineLibrary [0, 1, 0, 1]).calls,
        call = .returned) ∧
    ∀ order : List BrowseResult, order.Perm [.ok [movedHost], .ok [portlessHost]] →
      ((RefreshSystem.initial (newStore staticPool minute) [.ok [movedHost],
          .ok [portlessHost]]).run sunshineLibrary [0, 1, 0, 1]).store.vms ≠
        (Trace.run (refreshStep sunshineLibrary) (newStore staticPool minute) order).vms := by
  refine ⟨by decide, fun order horder => ?_⟩
  rcases List.perm_pair.mp horder with rfl | rfl
  · decide
  · decide

end GilStreaming.Coordinator
