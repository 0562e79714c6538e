import GilStreaming.Lib.GoText
import Mathlib.Data.List.Sort

/-!
# GilStreaming.Client.NvComputer

A host as the client knows it: `app/backend/nvcomputer.cpp`, `nvaddress.cpp` and `nvapp.h`.

`NvComputer.update` merges what a poll has found. Its macros are one definition,
`Assignment`, with the field and the test as parameters, and the function runs a list of
them, so that a fact about every assignment is a fact about the merge. `PersistedTraits`
is the part of a host that is saved, and `isEqualSerialized` compares just that part.

`toLower` is `QString::toLower`, which stays a parameter. A certificate is its PEM text,
and an empty `QString` and a null one are the same here, as they are for `isEmpty`. Locks
are left out: every function runs under the lock of its host.
-/

namespace GilStreaming.Client

/-! ### Addresses -/

/-- The port of the HTTP interface, `DEFAULT_HTTP_PORT`. -/
def defaultHttpPort : UInt16 := 47989

structure NvAddress where
  address : String
  port : UInt16
  deriving DecidableEq, Repr

namespace NvAddress

/-- `NvAddress()`. -/
def null : NvAddress := ⟨"", 0⟩

def isNull (a : NvAddress) : Bool := a.address.isEmpty

end NvAddress

/-! ### Apps -/

structure NvApp where
  id : Int
  name : String
  hdrSupported : Bool
  isAppCollectorGame : Bool
  /-- Set on the client, as is `directLaunch`. -/
  hidden : Bool
  directLaunch : Bool
  deriving DecidableEq, Repr

/-- The code units of a `QString`, by which it is ordered. -/
def utf16 (s : String) : List Nat :=
  s.toList.flatMap fun c =>
    if c.toNat < 0x10000 then [c.toNat]
    else [0xD800 + (c.toNat - 0x10000) / 0x400, 0xDC00 + (c.toNat - 0x10000) % 0x400]

/-- `a` may stand before `b` in a sorted app list. -/
def NvApp.NotAfter (toLower : String → String) (a b : NvApp) : Prop :=
  ¬ utf16 (toLower b.name) < utf16 (toLower a.name)

instance (toLower : String → String) : DecidableRel (NvApp.NotAfter toLower) :=
  fun a b => inferInstanceAs (Decidable (¬ utf16 (toLower b.name) < utf16 (toLower a.name)))

/-! ### Hosts -/

structure NvDisplayMode where
  width : Int
  height : Int
  refreshRate : Int
  deriving DecidableEq, Repr

inductive PairState
  | unknown
  | paired
  | notPaired
  deriving DecidableEq, Repr

inductive ComputerState
  | unknown
  | online
  | offline
  deriving DecidableEq, Repr

structure NvComputer where
  state : ComputerState
  pairState : PairState
  activeAddress : NvAddress
  activeHttpsPort : UInt16
  currentGameId : Int
  gfeVersion : String
  appVersion : String
  displayModes : List NvDisplayMode
  maxLumaPixelsHEVC : Int
  serverCodecModeSupport : Int
  gpuModel : String
  isSupportedServerVersion : Bool
  localAddress : NvAddress
  remoteAddress : NvAddress
  ipv6Address : NvAddress
  manualAddress : NvAddress
  macAddress : List UInt8
  name : String
  hasCustomName : Bool
  uuid : String
  serverCert : String
  appList : List NvApp
  isNvidiaServerSoftware : Bool
  externalPort : UInt16
  pendingQuit : Bool
  deriving DecidableEq, Repr

/-- The fields under `// Persisted traits`. -/
structure PersistedTraits where
  localAddress : NvAddress
  remoteAddress : NvAddress
  ipv6Address : NvAddress
  manualAddress : NvAddress
  macAddress : List UInt8
  name : String
  hasCustomName : Bool
  uuid : String
  serverCert : String
  appList : List NvApp
  isNvidiaServerSoftware : Bool
  deriving DecidableEq, Repr

namespace NvComputer

/-- `NvComputer()`, which a look-up in a `QHash` returns for a key it has not. -/
def blank : NvComputer where
  state := .unknown
  pairState := .unknown
  activeAddress := .null
  activeHttpsPort := 0
  currentGameId := 0
  gfeVersion := ""
  appVersion := ""
  displayModes := []
  maxLumaPixelsHEVC := 0
  serverCodecModeSupport := 0
  gpuModel := ""
  isSupportedServerVersion := false
  localAddress := .null
  remoteAddress := .null
  ipv6Address := .null
  manualAddress := .null
  macAddress := []
  name := ""
  hasCustomName := false
  uuid := ""
  serverCert := ""
  appList := []
  isNvidiaServerSoftware := false
  externalPort := 0
  pendingQuit := false

def persisted (c : NvComputer) : PersistedTraits where
  localAddress := c.localAddress
  remoteAddress := c.remoteAddress
  ipv6Address := c.ipv6Address
  manualAddress := c.manualAddress
  macAddress := c.macAddress
  name := c.name
  hasCustomName := c.hasCustomName
  uuid := c.uuid
  serverCert := c.serverCert
  appList := c.appList
  isNvidiaServerSoftware := c.isNvidiaServerSoftware

def isEqualSerialized (c that : NvComputer) : Bool :=
  c.name == that.name && c.hasCustomName == that.hasCustomName && c.uuid == that.uuid &&
    c.macAddress == that.macAddress && c.localAddress == that.localAddress &&
    c.remoteAddress == that.remoteAddress && c.ipv6Address == that.ipv6Address &&
    c.manualAddress == that.manualAddress && c.serverCert == that.serverCert &&
    c.isNvidiaServerSoftware == that.isNvidiaServerSoftware && c.appList == that.appList

/-- The comparison is that of the persisted traits. -/
theorem isEqualSerialized_iff {c that : NvComputer} :
    c.isEqualSerialized that = true ↔ c.persisted = that.persisted := by
  simp only [isEqualSerialized, persisted, Bool.and_eq_true, beq_iff_eq,
    PersistedTraits.mk.injEq]
  tauto

/-! ### App lists -/

variable (toLower : String → String)

def sortAppList (c : NvComputer) : NvComputer :=
  { c with appList := c.appList.insertionSort (NvApp.NotAfter toLower) }

/-- The loops of `updateAppList`: what was set on the client is kept. -/
def keepClientAttributes (appList newAppList : List NvApp) : List NvApp :=
  appList.foldl (fun apps existingApp => apps.map fun newApp =>
    if existingApp.id = newApp.id then
      { newApp with hidden := existingApp.hidden, directLaunch := existingApp.directLaunch }
    else newApp) newAppList

def updateAppList (c : NvComputer) (newAppList : List NvApp) : NvComputer × Bool :=
  if c.appList = newAppList then (c, false)
  else (sortAppList toLower { c with appList := keepClientAttributes c.appList newAppList }, true)

/-! ### Merging -/

/-- One use of the macros of `update`: `ASSIGN_IF_CHANGED` when `allowed` is always true,
and `ASSIGN_IF_CHANGED_AND_NONEMPTY` or `ASSIGN_IF_CHANGED_AND_NONNULL` when it looks at
the other host's field. -/
structure Assignment where
  changes : NvComputer → NvComputer → Bool
  assign : NvComputer → NvComputer → NvComputer

/-- `ASSIGN_IF_CHANGED` for a field, with its test of the two hosts. -/
def assignIfChanged {α : Type} [DecidableEq α] (field : NvComputer → α)
    (set : NvComputer → α → NvComputer) (allowed : NvComputer → NvComputer → Bool) :
    Assignment where
  changes := fun c that => allowed c that && decide (field c ≠ field that)
  assign := fun c that => set c (field that)

def Assignment.run (that : NvComputer) (s : NvComputer × Bool) (a : Assignment) :
    NvComputer × Bool :=
  if a.changes s.1 that then (a.assign s.1 that, true) else s

/-- The test of `ASSIGN_IF_CHANGED`. -/
def always (_ _ : NvComputer) : Bool := true

/-- The assignments of `update`, in its order. -/
def assignments : List Assignment :=
  [assignIfChanged name (fun c v => { c with name := v }) fun c _ => !c.hasCustomName,
    assignIfChanged macAddress (fun c v => { c with macAddress := v })
      fun _ that => !that.macAddress.isEmpty,
    assignIfChanged localAddress (fun c v => { c with localAddress := v })
      fun _ that => !that.localAddress.isNull,
    assignIfChanged remoteAddress (fun c v => { c with remoteAddress := v })
      fun _ that => !that.remoteAddress.isNull,
    assignIfChanged ipv6Address (fun c v => { c with ipv6Address := v })
      fun _ that => !that.ipv6Address.isNull,
    assignIfChanged manualAddress (fun c v => { c with manualAddress := v })
      fun _ that => !that.manualAddress.isNull,
    assignIfChanged activeHttpsPort (fun c v => { c with activeHttpsPort := v }) always,
    assignIfChanged externalPort (fun c v => { c with externalPort := v }) always,
    assignIfChanged pairState (fun c v => { c with pairState := v }) always,
    assignIfChanged serverCodecModeSupport
      (fun c v => { c with serverCodecModeSupport := v }) always,
    assignIfChanged currentGameId (fun c v => { c with currentGameId := v }) always,
    assignIfChanged activeAddress (fun c v => { c with activeAddress := v }) always,
    assignIfChanged state (fun c v => { c with state := v }) always,
    assignIfChanged gfeVersion (fun c v => { c with gfeVersion := v }) always,
    assignIfChanged appVersion (fun c v => { c with appVersion := v }) always,
    assignIfChanged isSupportedServerVersion
      (fun c v => { c with isSupportedServerVersion := v }) always,
    assignIfChanged isNvidiaServerSoftware
      (fun c v => { c with isNvidiaServerSoftware := v }) always,
    assignIfChanged maxLumaPixelsHEVC (fun c v => { c with maxLumaPixelsHEVC := v }) always,
    assignIfChanged gpuModel (fun c v => { c with gpuModel := v }) always,
    assignIfChanged serverCert (fun c v => { c with serverCert := v })
      fun _ that => !that.serverCert.isEmpty,
    assignIfChanged displayModes (fun c v => { c with displayModes := v })
      fun _ that => !that.displayModes.isEmpty]

/-- The assignments, run from `s`. -/
def runAssignments (that : NvComputer) (s : NvComputer × Bool) (as : List Assignment) :
    NvComputer × Bool :=
  as.foldl (Assignment.run that) s

/-- `update`, with the merged host and whether a field has changed. What `updateAppList`
reports is dropped. -/
def update (c that : NvComputer) : NvComputer × Bool :=
  let s := runAssignments that (c, false) assignments
  if that.appList.isEmpty then s else ((s.1.updateAppList toLower that.appList).1, s.2)

variable {toLower} {c that : NvComputer} {s : NvComputer × Bool} {as : List Assignment}

/-- What no assignment touches is kept. -/
theorem runAssignments_keeps {α : Type} {field : NvComputer → α}
    (h : ∀ a ∈ as, ∀ c that, field (a.assign c that) = field c) (s : NvComputer × Bool) :
    field (runAssignments that s as).1 = field s.1 := by
  induction as generalizing s with
  | nil => rfl
  | cons a as ih =>
      rw [runAssignments, List.foldl_cons]
      refine (ih (fun a' ha' => h a' (List.mem_cons_of_mem _ ha')) _).trans ?_
      unfold Assignment.run
      split
      · exact h a List.mem_cons_self _ _
      · rfl

/-- A change is never taken back. -/
theorem runAssignments_changed (h : s.2 = true) : (runAssignments that s as).2 = true := by
  induction as generalizing s with
  | nil => exact h
  | cons a as ih =>
      rw [runAssignments, List.foldl_cons]
      refine ih ?_
      unfold Assignment.run
      split
      · rfl
      · exact h

/-- Without a change, the assignments have done nothing. -/
theorem runAssignments_unchanged (h : (runAssignments that s as).2 = false) :
    (runAssignments that s as).1 = s.1 := by
  induction as generalizing s with
  | nil => rfl
  | cons a as ih =>
      rw [runAssignments, List.foldl_cons] at h ⊢
      by_cases ha : a.changes s.1 that = true
      · rw [Assignment.run, if_pos ha] at h
        exact absurd (h.symm.trans (runAssignments_changed rfl)) Bool.false_ne_true
      · rw [Assignment.run, if_neg ha] at h ⊢
        exact ih h

theorem run_assignIfChanged {α : Type} [DecidableEq α] (field : NvComputer → α)
    (set : NvComputer → α → NvComputer) (allowed : NvComputer → NvComputer → Bool)
    (that : NvComputer) (s : NvComputer × Bool) :
    (assignIfChanged field set allowed).run that s =
      if allowed s.1 that = true ∧ field s.1 ≠ field that then (set s.1 (field that), true)
      else s := by
  simp only [Assignment.run, assignIfChanged, Bool.and_eq_true, decide_eq_true_eq]

/-- What one assignment sets, and no other one touches. -/
theorem runAssignments_assigns {α : Type} [DecidableEq α] {field : NvComputer → α}
    {set : NvComputer → α → NvComputer} {allowed : NvComputer → NvComputer → Bool}
    {pre post : List Assignment} (hpre : ∀ a ∈ pre, ∀ c that, field (a.assign c that) = field c)
    (hpost : ∀ a ∈ post, ∀ c that, field (a.assign c that) = field c)
    (hset : ∀ c v, field (set c v) = v) {allow : Bool} (hallow : ∀ c, allowed c that = allow)
    (s : NvComputer × Bool) :
    field (runAssignments that s (pre ++ assignIfChanged field set allowed :: post)).1 =
      if allow then field that else field s.1 := by
  have hsplit : runAssignments that s (pre ++ assignIfChanged field set allowed :: post) =
      runAssignments that ((assignIfChanged field set allowed).run that
        (runAssignments that s pre)) post := List.foldl_append
  rw [hsplit, runAssignments_keeps hpost, ← runAssignments_keeps hpre s]
  generalize runAssignments that s pre = s'
  rw [run_assignIfChanged, hallow]
  cases allow with
  | false => rfl
  | true =>
      by_cases hne : field s'.1 = field that
      · rw [if_neg fun h => h.2 hne, if_pos rfl, hne]
      · rw [if_pos ⟨rfl, hne⟩, if_pos rfl, hset]

theorem updateAppList_eq (toLower : String → String) (c : NvComputer) (newAppList : List NvApp) :
    ∃ apps, (c.updateAppList toLower newAppList).1 = { c with appList := apps } := by
  unfold updateAppList
  split
  · exact ⟨c.appList, rfl⟩
  · exact ⟨_, rfl⟩

/-- What neither an assignment nor the app list touches is kept. -/
theorem update_keeps {α : Type} {field : NvComputer → α}
    (h : ∀ a ∈ assignments, ∀ c that, field (a.assign c that) = field c)
    (happs : ∀ c apps, field { c with appList := apps } = field c) :
    field (c.update toLower that).1 = field c := by
  unfold update
  dsimp only
  split
  · exact runAssignments_keeps h _
  · obtain ⟨apps, hupdate⟩ :=
      updateAppList_eq toLower (runAssignments that (c, false) assignments).1 that.appList
    rw [hupdate, happs]
    exact runAssignments_keeps h _

@[simp] theorem update_uuid : (c.update toLower that).1.uuid = c.uuid :=
  update_keeps (by simp [assignments, assignIfChanged]) fun _ _ => rfl

@[simp] theorem update_hasCustomName :
    (c.update toLower that).1.hasCustomName = c.hasCustomName :=
  update_keeps (by simp [assignments, assignIfChanged]) fun _ _ => rfl

@[simp] theorem update_pendingQuit : (c.update toLower that).1.pendingQuit = c.pendingQuit :=
  update_keeps (by simp [assignments, assignIfChanged]) fun _ _ => rfl

/-- Without an app list, the assignments are all there is to a merge. -/
theorem update_of_appList_nil (h : that.appList = []) :
    c.update toLower that = runAssignments that (c, false) assignments := by
  rw [update, h]
  rfl

/-- An address is replaced by one that is not null. -/
theorem update_manualAddress (h : that.appList = []) :
    (c.update toLower that).1.manualAddress =
      if that.manualAddress.isNull then c.manualAddress else that.manualAddress := by
  have hsplit : (runAssignments that (c, false) (assignments.take 5 ++
      assignIfChanged manualAddress (fun c v => { c with manualAddress := v })
        (fun _ that => !that.manualAddress.isNull) :: assignments.drop 6)).1.manualAddress =
      if !that.manualAddress.isNull then that.manualAddress else c.manualAddress :=
    runAssignments_assigns (by simp [assignments, assignIfChanged])
      (by simp [assignments, assignIfChanged]) (fun _ _ => rfl) (fun _ => rfl) _
  rw [update_of_appList_nil h]
  exact hsplit.trans (by cases that.manualAddress.isNull <;> rfl)

theorem update_ipv6Address (h : that.appList = []) :
    (c.update toLower that).1.ipv6Address =
      if that.ipv6Address.isNull then c.ipv6Address else that.ipv6Address := by
  have hsplit : (runAssignments that (c, false) (assignments.take 4 ++
      assignIfChanged ipv6Address (fun c v => { c with ipv6Address := v })
        (fun _ that => !that.ipv6Address.isNull) :: assignments.drop 5)).1.ipv6Address =
      if !that.ipv6Address.isNull then that.ipv6Address else c.ipv6Address :=
    runAssignments_assigns (by simp [assignments, assignIfChanged])
      (by simp [assignments, assignIfChanged]) (fun _ _ => rfl) (fun _ => rfl) _
  rw [update_of_appList_nil h]
  exact hsplit.trans (by cases that.ipv6Address.isNull <;> rfl)

theorem update_appList (h : that.appList = []) :
    (c.update toLower that).1.appList = c.appList := by
  rw [update_of_appList_nil h]
  exact runAssignments_keeps (by simp [assignments, assignIfChanged]) _

/-- Without a change and without an app list, a merge has done nothing. -/
theorem update_unchanged (h : that.appList = []) (hsame : (c.update toLower that).2 = false) :
    (c.update toLower that).1 = c := by
  rw [update_of_appList_nil h] at hsame ⊢
  exact runAssignments_unchanged hsame

end NvComputer

/-- A host as `NvComputer(NvHTTP&, QString)` makes it from a reply: what no reply holds has
its default value. -/
structure ServerInfo where
  host : NvComputer
  ipv6Address_null : host.ipv6Address.isNull = true
  manualAddress_null : host.manualAddress.isNull = true
  hasCustomName_false : host.hasCustomName = false
  appList_nil : host.appList = []
  pendingQuit_false : host.pendingQuit = false

/-- `newComputer->update(httpsComputer)`. -/
def ServerInfo.update (toLower : String → String) (info that : ServerInfo) : ServerInfo where
  host := (info.host.update toLower that.host).1
  ipv6Address_null := by
    rw [NvComputer.update_ipv6Address that.appList_nil, if_pos that.ipv6Address_null]
    exact info.ipv6Address_null
  manualAddress_null := by
    rw [NvComputer.update_manualAddress that.appList_nil, if_pos that.manualAddress_null]
    exact info.manualAddress_null
  hasCustomName_false := NvComputer.update_hasCustomName.trans info.hasCustomName_false
  appList_nil := (NvComputer.update_appList that.appList_nil).trans info.appList_nil
  pendingQuit_false := NvComputer.update_pendingQuit.trans info.pendingQuit_false

end GilStreaming.Client
