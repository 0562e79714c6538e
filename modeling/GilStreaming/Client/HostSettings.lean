import GilStreaming.Client.NvComputer
import GilStreaming.Lib.QSettings
import GilStreaming.Lib.Trace

/-!
# GilStreaming.Client.HostSettings

The host list in the settings, key by key: how the flush thread of `computermanager.cpp`
writes it, how the constructor of `ComputerManager` restores it, and what is left when a
crash cuts the writing short.

A flush writes the hosts to `hostsbackup` and then to `hosts`, each time without a size
until the list is complete, and removes the backup at last. A start-up takes the backup if
it has a size, and the primary list otherwise. So a crash leaves the hosts that were being
written, or those stored before, with one exception, `Exposed`: a backup that an earlier
crash has left is the only good copy, and the next flush starts by removing its size.

`Disk` holds the settings together with the host sets that were stored completely last.
Host sets are compared without their app lists, which the backup does not have.
-/

namespace GilStreaming.Client

open QSettings Trace

/-! ### Keys -/

/-- `SER_HOSTS`. -/
def hostsKey : SettingsKey := [.name "hosts"]

/-- `SER_HOSTS_BACKUP`. -/
def hostsBackupKey : SettingsKey := [.name "hostsbackup"]

/-- `SER_APPLIST`, below a host. -/
def appsKey (p : SettingsKey) : SettingsKey := p ++ [.name "apps"]

/-! ### Hosts and apps -/

/-- `NvApp::serialize`. -/
def NvApp.serialize (p : SettingsKey) (app : NvApp) : List SettingsOp :=
  setValues p [("name", .string app.name), ("id", .number app.id),
    ("hdr", .bool app.hdrSupported), ("appcollector", .bool app.isAppCollectorGame),
    ("hidden", .bool app.hidden), ("directlaunch", .bool app.directLaunch)]

/-- `NvApp(QSettings&)`. -/
def NvApp.ofSettings (settings : QSettings) (p : SettingsKey) : NvApp :=
  let value := fun name => settings (p ++ [.name name])
  { name := QVariant.toString (value "name")
    id := QVariant.toInt (value "id")
    hdrSupported := QVariant.toBool (value "hdr")
    isAppCollectorGame := QVariant.toBool (value "appcollector")
    hidden := QVariant.toBool (value "hidden")
    directLaunch := QVariant.toBool (value "directlaunch") }

namespace NvComputer

/-- The values that `serialize` sets. -/
def values (c : NvComputer) : List (String × QVariant) :=
  [("hostname", .string c.name), ("customname", .bool c.hasCustomName), ("uuid", .string c.uuid),
    ("mac", .bytes c.macAddress),
    ("localaddress", .string c.localAddress.address),
    ("localport", .number c.localAddress.port.toNat),
    ("remoteaddress", .string c.remoteAddress.address),
    ("remoteport", .number c.remoteAddress.port.toNat),
    ("ipv6address", .string c.ipv6Address.address),
    ("ipv6port", .number c.ipv6Address.port.toNat),
    ("manualaddress", .string c.manualAddress.address),
    ("manualport", .number c.manualAddress.port.toNat),
    ("srvcert", .string c.serverCert), ("nvidiasw", .bool c.isNvidiaServerSoftware)]

def serialize (serializeApps : Bool) (p : SettingsKey) (c : NvComputer) : List SettingsOp :=
  setValues p c.values ++
    if !c.appList.isEmpty && serializeApps then
      .remove (appsKey p) :: writeArray NvApp.serialize (appsKey p) c.appList
    else []

/-- An address in the settings, with the port that is meant when there is none. -/
def addressOfSettings (settings : QSettings) (p : SettingsKey) (addr port : String) : NvAddress :=
  ⟨QVariant.toString (settings (p ++ [.name addr])),
    match settings (p ++ [.name port]) with
    | none => defaultHttpPort
    | value => UInt16.ofNat (QVariant.toInt value).toNat⟩

/-- `NvComputer(QSettings&)`. -/
def ofSettings (toLower : String → String) (settings : QSettings) (p : SettingsKey) :
    NvComputer :=
  let value := fun name => settings (p ++ [.name name])
  let remoteAddress := addressOfSettings settings p "remoteaddress" "remoteport"
  sortAppList toLower { blank with
    name := QVariant.toString (value "hostname")
    uuid := QVariant.toString (value "uuid")
    hasCustomName := QVariant.toBool (value "customname")
    macAddress := QVariant.toByteArray (value "mac")
    localAddress := addressOfSettings settings p "localaddress" "localport"
    remoteAddress := remoteAddress
    ipv6Address := addressOfSettings settings p "ipv6address" "ipv6port"
    manualAddress := addressOfSettings settings p "manualaddress" "manualport"
    serverCert := QVariant.toString (value "srvcert")
    isNvidiaServerSoftware := QVariant.toBool (value "nvidiasw")
    appList := readArray NvApp.ofSettings settings (appsKey p)
    isSupportedServerVersion := true
    externalPort := remoteAddress.port }

/-- A host without its app list. -/
def traits (c : NvComputer) : PersistedTraits := { c.persisted with appList := [] }

theorem serialize_within (serializeApps : Bool) (p : SettingsKey) (c : NvComputer) :
    Within p (serialize serializeApps p c) := by
  refine (setValues_within p c.values).append ?_
  split
  · intro op hop
    rcases List.mem_cons.mp hop with rfl | hop
    · exact List.prefix_append ..
    · exact (writeArray_within (fun _ _ => setValues_within _ _) (appsKey p) c.appList).weaken
        (List.prefix_append ..) op hop
  · exact fun op hop => absurd hop (by simp)

/-- What a host is restored from, but for its app list, is below its own key. -/
theorem traits_ofSettings_congr (toLower : String → String) (p : SettingsKey)
    {settings settings' : QSettings} (h : AgreeBelow p settings settings') :
    (ofSettings toLower settings p).traits = (ofSettings toLower settings' p).traits := by
  have hvalue : ∀ name, settings (p ++ [.name name]) = settings' (p ++ [.name name]) :=
    fun name => h _ (List.prefix_append ..)
  simp only [ofSettings, traits, persisted, sortAppList, addressOfSettings, hvalue]

/-- Each value of a written host is in the settings. -/
theorem serialize_value (serializeApps : Bool) (p : SettingsKey) {c : NvComputer} {name : String}
    {value : QVariant} (h : (name, value) ∈ c.values) (settings : QSettings) :
    applyAll settings (serialize serializeApps p c) (p ++ [.name name]) = some value := by
  have hnodup : (c.values.map Prod.fst).Nodup := by
    simp only [values, List.map_cons, List.map_nil]
    decide
  have hname : name ≠ "apps" := by
    rintro rfl
    exact absurd h (by simp [values])
  rw [serialize, applyAll_append, applyAll_of_forall]
  · exact applyAll_setValues hnodup h settings
  · -- what comes afterwards is below `apps`, which is none of the names
    intro op hop hkey
    have happs : appsKey p <+: op.key := by
      split at hop
      · rcases List.mem_cons.mp hop with rfl | hop
        · exact List.prefix_refl _
        · exact writeArray_within (fun _ _ => setValues_within _ _) (appsKey p) c.appList op hop
      · exact absurd hop (by simp)
    have heq := (happs.trans hkey).eq_of_length (by simp [appsKey])
    simp only [appsKey, List.append_cancel_left_eq, List.cons.injEq, KeyPart.name.injEq,
      and_true] at heq
    exact hname heq.symm

/-- **A written host is restored**, but for its app list. -/
theorem traits_ofSettings_serialize (toLower : String → String) (serializeApps : Bool)
    (p : SettingsKey) (c : NvComputer) (settings : QSettings) :
    (ofSettings toLower (applyAll settings (serialize serializeApps p c)) p).traits = c.traits := by
  have hvalue : ∀ name value, (name, value) ∈ c.values →
      applyAll settings (serialize serializeApps p c) (p ++ [.name name]) = some value :=
    fun name value h => serialize_value serializeApps p h settings
  simp only [values, List.mem_cons, List.not_mem_nil, or_false, Prod.mk.injEq] at hvalue
  simp [ofSettings, traits, persisted, sortAppList, addressOfSettings, hvalue,
    QVariant.toString, QVariant.toBool, QVariant.toInt, QVariant.toByteArray]

end NvComputer

/-! ### Flushing and restoring -/

/-- A flush, with the hosts that its two loops find. -/
structure Flush where
  backup : List NvComputer
  primary : List NvComputer

namespace Flush

/-- Writing the backup. -/
def backupOps (f : Flush) : List SettingsOp :=
  writeArray (NvComputer.serialize false) hostsBackupKey f.backup

/-- Writing the primary list. -/
def primaryOps (f : Flush) : List SettingsOp :=
  .remove hostsKey :: writeArray (NvComputer.serialize true) hostsKey f.primary

/-- All that `DelayedFlushThread::run` does to the settings. -/
def ops (f : Flush) : List SettingsOp :=
  f.backupOps ++ (f.primaryOps ++ [.remove hostsBackupKey])

end Flush

/-- The hosts that `ComputerManager(prefs)` restores. -/
def restoredHosts (toLower : String → String) (settings : QSettings) : List NvComputer :=
  if arraySize settings hostsBackupKey = 0 then
    readArray (NvComputer.ofSettings toLower) settings hostsKey
  else readArray (NvComputer.ofSettings toLower) settings hostsBackupKey

/-- A host set, without app lists. -/
def hostSet (hosts : List NvComputer) : List PersistedTraits := hosts.map NvComputer.traits

/-- The host set in one of the two lists. -/
def storedSet (toLower : String → String) (settings : QSettings) (key : SettingsKey) :
    List PersistedTraits :=
  hostSet (readArray (NvComputer.ofSettings toLower) settings key)

/-- The host set that a start-up restores. -/
def restoredSet (toLower : String → String) (settings : QSettings) : List PersistedTraits :=
  hostSet (restoredHosts toLower settings)

section Sets

variable {toLower : String → String} {settings settings' : QSettings}

theorem storedSet_eq (toLower : String → String) (settings : QSettings) (key : SettingsKey) :
    storedSet toLower settings key =
      readArray (fun settings p => (NvComputer.ofSettings toLower settings p).traits) settings
        key := by
  simp only [storedSet, hostSet, readArray, List.map_map, Function.comp_def]

theorem storedSet_congr {key : SettingsKey} (h : AgreeBelow key settings settings') :
    storedSet toLower settings key = storedSet toLower settings' key := by
  rw [storedSet_eq, storedSet_eq]
  exact readArray_congr
    (fun p _ _ h => NvComputer.traits_ofSettings_congr toLower p h) h

/-- **A written list is restored.** -/
theorem storedSet_writeArray (serializeApps : Bool) (key : SettingsKey)
    (hosts : List NvComputer) (settings : QSettings) :
    storedSet toLower (applyAll settings (writeArray (NvComputer.serialize serializeApps) key
      hosts)) key = hostSet hosts := by
  rw [storedSet_eq]
  exact readArray_writeArray (NvComputer.serialize_within serializeApps)
    (fun p _ _ h => NvComputer.traits_ofSettings_congr toLower p h) fun i settings' c _ =>
      NvComputer.traits_ofSettings_serialize toLower serializeApps _ c settings'

/-- A list without a size holds no hosts. -/
theorem storedSet_of_size_none {key : SettingsKey} (h : settings (sizeKey key) = none) :
    storedSet toLower settings key = [] := by
  simp only [storedSet, readArray, arraySize, h]
  rfl

theorem restoredSet_of_no_backup (h : arraySize settings hostsBackupKey = 0) :
    restoredSet toLower settings = storedSet toLower settings hostsKey := by
  rw [restoredSet, restoredHosts, if_pos h, storedSet]

theorem restoredSet_of_backup (h : arraySize settings hostsBackupKey ≠ 0) :
    restoredSet toLower settings = storedSet toLower settings hostsBackupKey := by
  rw [restoredSet, restoredHosts, if_neg h, storedSet]

theorem arraySize_of_none {key : SettingsKey} (h : settings (sizeKey key) = none) :
    arraySize settings key = 0 := by
  rw [arraySize, h]
  rfl

theorem arraySize_congr {key : SettingsKey} (h : AgreeBelow key settings settings') :
    arraySize settings key = arraySize settings' key := by
  rw [arraySize, arraySize, h _ (prefix_sizeKey key)]

end Sets

/-! ### Crashes -/

namespace Flush

variable {f : Flush}

/-- The number of operations after which a start-up restores the hosts of the backup. A
backup without hosts is taken for none, so that its hosts are restored when the primary list
is removed. -/
def backupDone (f : Flush) : Nat :=
  if f.backup.isEmpty then f.backupOps.length + 1 else f.backupOps.length

/-- The number of operations after which the primary list is complete. -/
def primaryDone (f : Flush) : Nat := f.backupOps.length + f.primaryOps.length

/-- The host sets that the flush is writing when `n` operations are done. -/
def written (f : Flush) (n : Nat) : List (List PersistedTraits) :=
  if n ≤ f.backupOps.length then [hostSet f.backup]
  else [hostSet f.backup, hostSet f.primary]

/-- The host sets of which `n` operations leave a complete copy. -/
def completed (f : Flush) (n : Nat) : List (List PersistedTraits) :=
  if n < f.backupDone then []
  else if n < f.primaryDone then [hostSet f.backup]
  else if n < f.ops.length then [hostSet f.backup, hostSet f.primary]
  else [hostSet f.primary]

end Flush

section Phases

variable {toLower : String → String} (f : Flush) (settings : QSettings)

theorem hostsBackupKey_not_prefix : ¬ hostsBackupKey <+: hostsKey := by decide

theorem hostsKey_not_prefix : ¬ hostsKey <+: hostsBackupKey := by decide

theorem Flush.backupOps_within : Within hostsBackupKey f.backupOps :=
  writeArray_within (NvComputer.serialize_within false) _ _

theorem Flush.primaryOps_within : Within hostsKey f.primaryOps := by
  intro op hop
  rcases List.mem_cons.mp hop with rfl | hop
  · exact List.prefix_refl _
  · exact writeArray_within (NvComputer.serialize_within true) _ _ op hop

theorem Flush.primaryOps_length : 1 < f.primaryOps.length := by
  simp [primaryOps, writeArray]

theorem Flush.ops_length : f.ops.length = f.primaryDone + 1 := by
  simp only [ops, primaryDone, List.length_append, List.length_singleton]
  omega

/-- What is done after the backup has been written, up to its removal. -/
theorem Flush.take_ops {n : Nat} (hn : f.backupOps.length ≤ n) (hn' : n < f.ops.length) :
    f.ops.take n = f.backupOps ++ f.primaryOps.take (n - f.backupOps.length) := by
  rw [ops_length, primaryDone] at hn'
  rw [ops, List.take_append, List.take_of_length_le hn, List.take_append_of_le_length (by omega)]

/-- **While the backup is written**, a start-up reads the primary list, which is what it was
before. -/
theorem Flush.restoredSet_backup {n : Nat} (hn : 0 < n) (hn' : n < f.backupDone) :
    restoredSet toLower (applyAll settings (f.ops.take n)) =
      storedSet toLower settings hostsKey := by
  have hle : n ≤ f.backupOps.length := by
    unfold backupDone at hn'
    split at hn' <;> omega
  have htake : f.ops.take n = f.backupOps.take n := by
    rw [ops, List.take_append_of_le_length hle]
  have hsize : arraySize (applyAll settings (f.ops.take n)) hostsBackupKey = 0 := by
    rw [htake]
    rcases Nat.lt_or_eq_of_le hle with hlt | rfl
    · -- the size is removed first and written last
      exact arraySize_of_none (writeArray_unfinished (NvComputer.serialize_within false) hn hlt
        settings)
    · -- a complete backup is not past `backupDone` only when it has no hosts
      have hempty : f.backup = [] := by
        unfold backupDone at hn'
        split at hn'
        · next h => exact List.isEmpty_iff.mp h
        · omega
      rw [List.take_length, backupOps, arraySize_writeArray, hempty]
      rfl
  rw [restoredSet_of_no_backup hsize, htake]
  exact storedSet_congr (applyAll_agreeBelow (f.backupOps_within.take n)
    hostsBackupKey_not_prefix hostsKey_not_prefix settings)

/-- **While the primary list is written**, a start-up restores the backup, if it has hosts. -/
theorem Flush.restoredSet_primary (hne : f.backup ≠ []) {n : Nat}
    (hn : f.backupOps.length ≤ n) (hn' : n < f.ops.length) :
    restoredSet toLower (applyAll settings (f.ops.take n)) = hostSet f.backup := by
  rw [f.take_ops hn hn', applyAll_append]
  have hagree := applyAll_agreeBelow (f.primaryOps_within.take (n - f.backupOps.length))
    hostsKey_not_prefix hostsBackupKey_not_prefix (applyAll settings f.backupOps)
  have hsize : arraySize (applyAll settings f.backupOps) hostsBackupKey ≠ 0 := by
    rw [backupOps, arraySize_writeArray]
    simpa using hne
  rw [restoredSet_of_backup (by rwa [arraySize_congr hagree]), storedSet_congr hagree]
  exact storedSet_writeArray ..

/-- Without hosts in the backup, a start-up restores none until the primary list is
complete. -/
theorem Flush.restoredSet_empty (hempty : f.backup = []) {n : Nat}
    (hn : f.backupOps.length < n) (hn' : n < f.ops.length) :
    restoredSet toLower (applyAll settings (f.ops.take n)) =
      if n < f.primaryDone then [] else hostSet f.primary := by
  rw [f.take_ops (Nat.le_of_lt hn) hn', applyAll_append]
  obtain ⟨j, hj⟩ := Nat.exists_eq_add_of_lt hn
  have hlen : f.primaryOps.length =
      (writeArray (NvComputer.serialize true) hostsKey f.primary).length + 1 := rfl
  have hsub : n - f.backupOps.length = j + 1 := by omega
  have hsize : arraySize (applyAll (applyAll settings f.backupOps)
      (f.primaryOps.take (n - f.backupOps.length))) hostsBackupKey = 0 := by
    rw [arraySize_congr (applyAll_agreeBelow (f.primaryOps_within.take _) hostsKey_not_prefix
      hostsBackupKey_not_prefix _), backupOps, arraySize_writeArray, hempty]
    rfl
  rw [restoredSet_of_no_backup hsize, hsub, primaryOps, List.take_succ_cons, applyAll_cons]
  rw [ops_length, primaryDone, hlen] at hn'
  rw [primaryDone, hlen]
  split
  · -- the primary list has no size
    refine storedSet_of_size_none ?_
    rcases Nat.eq_zero_or_pos j with rfl | hpos
    · -- it has just been removed as a whole
      simp [SettingsOp.apply, prefix_sizeKey]
    · exact writeArray_unfinished (NvComputer.serialize_within true) hpos (by omega) _
  · -- only the removal of the backup is left to do
    rw [List.take_of_length_le (by omega)]
    exact storedSet_writeArray ..

/-- **A complete flush** leaves the primary list alone. -/
theorem Flush.restoredSet_ops :
    restoredSet toLower (applyAll settings f.ops) = hostSet f.primary := by
  have hsize : applyAll settings f.ops (sizeKey hostsBackupKey) = none := by
    rw [ops, ← List.append_assoc, applyAll_append, applyAll_cons]
    simp [SettingsOp.apply, prefix_sizeKey]
  rw [restoredSet_of_no_backup (arraySize_of_none hsize), ops, ← List.append_assoc,
    applyAll_append]
  -- removing `hostsbackup` leaves `hosts` alone
  have hagree : AgreeBelow hostsKey
      (applyAll (applyAll settings (f.backupOps ++ f.primaryOps)) [.remove hostsBackupKey])
      (applyAll settings (f.backupOps ++ f.primaryOps)) :=
    applyAll_agreeBelow (p := hostsBackupKey) (by simp [Within, SettingsOp.key])
      hostsBackupKey_not_prefix hostsKey_not_prefix _
  rw [storedSet_congr hagree, applyAll_append, primaryOps, applyAll_cons]
  exact storedSet_writeArray ..

/-- From the point where the backup counts, a start-up restores a complete copy. -/
theorem Flush.restoredSet_mem_completed {n : Nat} (hn : f.backupDone ≤ n) :
    restoredSet toLower (applyAll settings (f.ops.take n)) ∈ f.completed n := by
  rw [completed, if_neg (by omega)]
  by_cases hall : n < f.ops.length
  · by_cases hempty : f.backup = []
    · -- the primary list counts all along
      have hlt : f.backupOps.length < n := by
        rw [backupDone, hempty] at hn
        exact hn
      rw [f.restoredSet_empty settings hempty hlt hall]
      split
      · simp [hempty, hostSet]
      · simp
    · -- the backup counts, whatever is left of the primary list
      have hle : f.backupOps.length ≤ n := by
        rw [backupDone, if_neg (by simpa using hempty)] at hn
        exact hn
      rw [f.restoredSet_primary settings hempty hle hall]
      split <;> simp
  · rw [ops_length] at hall
    rw [if_neg (by omega), ops_length, if_neg (by omega),
      List.take_of_length_le (by rw [ops_length]; omega), f.restoredSet_ops]
    exact List.mem_singleton_self _

theorem Flush.completed_subset {n : Nat} (hn : f.backupDone ≤ n) {set : List PersistedTraits}
    (h : set ∈ f.completed n) : set ∈ f.written n := by
  have hprimary := f.primaryOps_length
  rw [completed, if_neg (by omega), ops_length, primaryDone] at h
  unfold written
  split at h
  · rw [List.mem_singleton.mp h]
    split <;> simp
  · split at h
    · rwa [if_neg (by omega)]
    · rw [List.mem_singleton.mp h, if_neg (by omega)]
      simp

end Phases

/-- What happens to the settings: a flush, or a crash when a flush has done `n` operations. -/
inductive SettingsEvent
  | flushed (f : Flush)
  | crashed (f : Flush) (n : Nat)

/-- The settings, with the host sets that were stored completely last. -/
structure Disk where
  settings : QSettings
  stored : List (List PersistedTraits)

namespace Disk

/-- The settings that the first start-up finds. -/
def first (toLower : String → String) (settings : QSettings) : Disk :=
  ⟨settings, [restoredSet toLower settings]⟩

def step (d : Disk) : SettingsEvent → Disk
  | .flushed f => ⟨applyAll d.settings f.ops, [hostSet f.primary]⟩
  | .crashed f n =>
    ⟨applyAll d.settings (f.ops.take n),
      if (f.completed n).isEmpty then d.stored else f.completed n⟩

/-- The next start-up restores what was being written, or what was stored completely last. -/
def Restores (toLower : String → String) (d : Disk) : SettingsEvent → Prop
  | .flushed f => restoredSet toLower (d.step (.flushed f)).settings = hostSet f.primary
  | .crashed f n =>
    restoredSet toLower (d.step (.crashed f n)).settings ∈ f.written n ++ d.stored

instance (toLower : String → String) (d : Disk) : DecidablePred (Restores toLower d)
  | .flushed _ => inferInstanceAs (Decidable (_ = _))
  | .crashed .. => inferInstanceAs (Decidable (_ ∈ _))

/-- The crash comes after the size of the backup has been removed and before it is written
again, there was a backup before, and the primary list does not hold the hosts. -/
def Exposed (toLower : String → String) (d : Disk) : SettingsEvent → Prop
  | .flushed _ => False
  | .crashed f n =>
    0 < n ∧ n < f.backupDone ∧ arraySize d.settings hostsBackupKey ≠ 0 ∧
      storedSet toLower d.settings hostsKey ∉ d.stored

variable {toLower : String → String} {d : Disk}

/-- **Step lemma.** -/
theorem restores_step (h : restoredSet toLower d.settings ∈ d.stored) {e : SettingsEvent}
    (hgood : ¬ Exposed toLower d e) :
    Restores toLower d e ∧ restoredSet toLower (d.step e).settings ∈ (d.step e).stored := by
  cases e with
  | flushed f =>
      have hall := @Flush.restoredSet_ops toLower f d.settings
      exact ⟨hall, List.mem_singleton.mpr hall⟩
  | crashed f n =>
      by_cases hdone : f.backupDone ≤ n
      · have hmem := @Flush.restoredSet_mem_completed toLower f d.settings n hdone
        refine ⟨List.mem_append_left _ (f.completed_subset hdone hmem), ?_⟩
        have hne : (f.completed n).isEmpty = false := by
          rw [List.isEmpty_eq_false_iff]
          exact List.ne_nil_of_mem hmem
        rw [step, hne]
        exact hmem
      · -- nothing is complete yet, so what was stored before has to be there
        have hnone : f.completed n = [] := by rw [Flush.completed, if_pos (by omega)]
        have hset : restoredSet toLower (applyAll d.settings (f.ops.take n)) ∈ d.stored := by
          rcases Nat.eq_zero_or_pos n with rfl | hpos
          · exact h
          · rw [f.restoredSet_backup d.settings hpos (by omega)]
            by_cases hbackup : arraySize d.settings hostsBackupKey = 0
            · -- there was no backup, so the primary list was what counted before
              rwa [restoredSet_of_no_backup hbackup] at h
            · by_contra hprimary
              exact hgood ⟨hpos, by omega, hbackup, hprimary⟩
        refine ⟨List.mem_append_right _ hset, ?_⟩
        rw [step, hnone]
        exact hset

/-- **Crash consistency.** When no crash comes while the only good copy is a backup without
its size, every start-up restores the hosts that were being written, or those stored before
them. -/
theorem crash_restores {settings : QSettings} {es : List SettingsEvent}
    (hgood : AllSteps step (fun d e => ¬ Exposed toLower d e) (first toLower settings) es) :
    AllSteps step (Restores toLower) (first toLower settings) es := by
  have hfirst : restoredSet toLower (first toLower settings).settings ∈
      (first toLower settings).stored := List.mem_singleton_self _
  generalize first toLower settings = d at hfirst hgood
  induction es generalizing d with
  | nil => trivial
  | cons e es ih =>
      obtain ⟨hrestores, hnext⟩ := restores_step hfirst hgood.1
      exact ⟨hrestores, ih _ hnext hgood.2⟩

/-- A flush that finds one host. -/
def oneHost : Flush := ⟨[{ NvComputer.blank with uuid := "vm-1" }],
  [{ NvComputer.blank with uuid := "vm-1" }]⟩

/-- A crash right at the start of a flush, after one that was complete. -/
theorem crashed_restores : AllSteps step (Restores id) (first id fun _ => none)
    [.flushed oneHost, .crashed oneHost 1] := by
  refine crash_restores ⟨id, ?_, trivial⟩
  rintro ⟨-, -, hbackup, -⟩
  exact hbackup (by decide +kernel)

/-- A crash when the backup is complete and the primary list is removed, and one right at the
start of the next flush, which finds the same host. -/
def crashedTwice : List SettingsEvent :=
  [.crashed oneHost (oneHost.backupOps.length + 1), .crashed oneHost 1]

/-- The second start-up restores no hosts, and the first one has restored the host. -/
theorem crashedTwice_restores_nothing :
    ¬ AllSteps step (Restores id) (first id fun _ => none) crashedTwice ∧
      restoredSet id (run step (first id fun _ => none) (crashedTwice.take 1)).settings =
        hostSet oneHost.backup ∧
      restoredSet id (run step (first id fun _ => none) crashedTwice).settings = [] := by
  refine ⟨fun ⟨_, hrestores, _⟩ => ?_, ?_, ?_⟩
  · exact absurd hrestores (by decide +kernel)
  · decide +kernel
  · decide +kernel

end Disk

end GilStreaming.Client
