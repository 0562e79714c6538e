import GilStreaming.Client.HostSettings
import GilStreaming.Client.Polling

/-!
# GilStreaming.Client.HostRoundTrip

What a start-up restores after a complete flush.

`serialize` writes fifteen keys and `NvComputer(QSettings&)` reads them, the app list as an
array inside the array of hosts. `persisted_ofSettings_serialize` is the round trip of one
host, and `restoredHosts_flush` that of all of them. The known hosts are in a `QMap`, so
that a flush writes them in the order of their uuids, and restoring them in this order puts
the entries back as they were.

What a flush writes depends on the persisted traits alone, and it depends on what the
settings held before in no key that a start-up reads; so a second flush of the restored
hosts changes nothing.
-/

namespace GilStreaming.Client

open QSettings

/-! ### Apps -/

namespace NvApp

theorem ofSettings_congr {p : SettingsKey} {settings settings' : QSettings}
    (h : AgreeBelow p settings settings') : ofSettings settings p = ofSettings settings' p := by
  have hvalue : ∀ name, settings (p ++ [.name name]) = settings' (p ++ [.name name]) :=
    fun name => h _ (List.prefix_append ..)
  simp only [ofSettings, hvalue]

/-- **A written app is restored.** -/
theorem ofSettings_serialize (p : SettingsKey) (app : NvApp) (settings : QSettings) :
    ofSettings (applyAll settings (app.serialize p)) p = app := by
  have hnodup : ([("name", QVariant.string app.name), ("id", .number app.id),
      ("hdr", .bool app.hdrSupported), ("appcollector", .bool app.isAppCollectorGame),
      ("hidden", .bool app.hidden), ("directlaunch", .bool app.directLaunch)].map
      Prod.fst).Nodup := by
    simp only [List.map_cons, List.map_nil]
    decide
  have hvalue := fun (name : String) value h => @applyAll_setValues p _ name value hnodup h settings
  simp only [List.mem_cons, List.not_mem_nil, or_false, Prod.mk.injEq] at hvalue
  simp [ofSettings, serialize, hvalue, QVariant.toString, QVariant.toBool, QVariant.toInt]

end NvApp

/-! ### One host -/

namespace NvComputer

variable {toLower : String → String} {c that : NvComputer} {settings settings' : QSettings}
  {p : SettingsKey}

theorem persisted_eq_iff :
    c.persisted = that.persisted ↔ c.traits = that.traits ∧ c.appList = that.appList := by
  constructor
  · intro h
    exact ⟨congrArg (fun t : PersistedTraits => { t with appList := [] }) h,
      congrArg PersistedTraits.appList h⟩
  · rintro ⟨htraits, happs⟩
    have hwith : ∀ c : NvComputer, c.persisted = { c.traits with appList := c.appList } :=
      fun _ => rfl
    rw [hwith, hwith, htraits, happs]

/-- A list that is sorted already stays as it is. -/
theorem sortAppList_of_sorted (h : c.appList.Pairwise (NvApp.NotAfter toLower)) :
    c.sortAppList toLower = c := by
  rw [sortAppList, List.Pairwise.insertionSort_eq h]

theorem ofSettings_congr (h : AgreeBelow p settings settings') :
    ofSettings toLower settings p = ofSettings toLower settings' p := by
  have hvalue : ∀ name, settings (p ++ [.name name]) = settings' (p ++ [.name name]) :=
    fun name => h _ (List.prefix_append ..)
  have happs : readArray NvApp.ofSettings settings (appsKey p) =
      readArray NvApp.ofSettings settings' (appsKey p) :=
    readArray_congr (fun _ _ _ => NvApp.ofSettings_congr)
      fun k hk => h k ((List.prefix_append ..).trans hk)
  simp only [ofSettings, addressOfSettings, hvalue, happs]

/-- A list without apps is not written, so that there must be none before. -/
theorem readApps_serialize (hnone : settings (sizeKey (appsKey p)) = none) :
    readArray NvApp.ofSettings (applyAll settings (c.serialize true p)) (appsKey p) =
      c.appList := by
  rw [serialize]
  cases happs : c.appList with
  | nil =>
      have hkey : sizeKey (appsKey p) = p ++ .name "apps" :: [.name "size"] := by
        rw [sizeKey, appsKey, List.append_assoc]
        rfl
      have hkept : applyAll settings (setValues p c.values) (sizeKey (appsKey p)) = none := by
        rw [← hnone, hkey]
        exact applyAll_setValues_other (by simp [values]) settings _
      rw [show (if (!([] : List NvApp).isEmpty && true) = true then _ else []) =
        ([] : List SettingsOp) from rfl, List.append_nil, readArray, arraySize, hkept]
      rfl
  | cons app apps =>
      rw [show (if (!(app :: apps).isEmpty && true) = true then .remove (appsKey p) ::
        writeArray NvApp.serialize (appsKey p) (app :: apps) else []) =
        .remove (appsKey p) :: writeArray NvApp.serialize (appsKey p) (app :: apps) from rfl,
        applyAll_append, applyAll_cons]
      have hall := @readArray_writeArray NvApp NvApp NvApp.serialize NvApp.ofSettings id
        (fun _ _ => setValues_within _ _) (fun _ _ _ => NvApp.ofSettings_congr) (appsKey p)
        (app :: apps) (SettingsOp.apply (applyAll settings (setValues p c.values))
          (.remove (appsKey p))) fun i settings' x _ => NvApp.ofSettings_serialize _ x settings'
      rw [hall, List.map_id]

/-- **A written host is restored**, with its apps as `sortAppList` leaves them. -/
theorem persisted_ofSettings_serialize (hnone : settings (sizeKey (appsKey p)) = none) :
    (ofSettings toLower (applyAll settings (c.serialize true p)) p).persisted =
      (c.sortAppList toLower).persisted := by
  refine persisted_eq_iff.mpr ⟨traits_ofSettings_serialize toLower true p c settings, ?_⟩
  exact congrArg (List.insertionSort (NvApp.NotAfter toLower)) (readApps_serialize hnone)

end NvComputer

/-! ### All hosts -/

section Hosts

variable {toLower : String → String} {settings settings' : QSettings}

/-- A flush that finds these hosts in both of its loops. -/
def Flush.ofKnown (hosts : QMap String NvComputer) : Flush := ⟨hosts.values, hosts.values⟩

/-- `m_KnownHosts` after `ComputerManager(prefs)`. -/
def startUp (toLower : String → String) (settings : QSettings) : QMap String NvComputer :=
  (ComputerManager.start (restoredHosts toLower settings)).knownHosts

/-- The backup is gone, and the primary list is what its writing left. -/
theorem restoredHosts_flush (f : Flush) (settings : QSettings) :
    restoredHosts toLower (applyAll settings f.ops) =
      readArray (NvComputer.ofSettings toLower) (applyAll (applyAll settings f.backupOps)
        f.primaryOps) hostsKey := by
  have hsize : applyAll settings f.ops (sizeKey hostsBackupKey) = none := by
    rw [Flush.ops, ← List.append_assoc, applyAll_append, applyAll_cons]
    simp [SettingsOp.apply, prefix_sizeKey]
  rw [restoredHosts, if_pos (arraySize_of_none hsize), Flush.ops, ← List.append_assoc,
    applyAll_append, applyAll_append]
  have hremove : Within hostsBackupKey [.remove hostsBackupKey] := by
    simp [Within, SettingsOp.key]
  exact readArray_congr (fun _ _ _ => NvComputer.ofSettings_congr)
    (applyAll_agreeBelow hremove hostsBackupKey_not_prefix hostsKey_not_prefix _)

/-- **The written hosts are restored.** -/
theorem persisted_restoredHosts (f : Flush) (settings : QSettings) :
    (restoredHosts toLower (applyAll settings f.ops)).map NvComputer.persisted =
      f.primary.map fun c => (c.sortAppList toLower).persisted := by
  rw [restoredHosts_flush, Flush.primaryOps, applyAll_cons]
  have hall := @readArray_writeArray NvComputer PersistedTraits (NvComputer.serialize true)
    (fun settings p => (NvComputer.ofSettings toLower settings p).persisted)
    (fun c => (c.sortAppList toLower).persisted) (NvComputer.serialize_within true)
    (fun _ _ _ h => congrArg NvComputer.persisted (NvComputer.ofSettings_congr h)) hostsKey
    f.primary (SettingsOp.apply (applyAll settings f.backupOps) (.remove hostsKey))
    fun i settings' c hagree => by
      refine NvComputer.persisted_ofSettings_serialize ?_
      have hentry : entryKey hostsKey i <+: sizeKey (appsKey (entryKey hostsKey i)) :=
        (List.prefix_append ..).trans (prefix_sizeKey _)
      rw [hagree _ hentry]
      exact SettingsOp.apply_remove ((prefix_entryKey hostsKey i).trans hentry) _
  rw [← hall]
  simp only [readArray, List.map_map, Function.comp_def]

/-! ### A second flush -/

theorem serialize_congr (serializeApps : Bool) (p : SettingsKey) {c that : NvComputer}
    (h : c.persisted = that.persisted) :
    c.serialize serializeApps p = that.serialize serializeApps p := by
  simp only [NvComputer.persisted, PersistedTraits.mk.injEq] at h
  simp only [NvComputer.serialize, NvComputer.values, h]

theorem Flush.ops_congr {f g : Flush}
    (hbackup : f.backup.map NvComputer.persisted = g.backup.map NvComputer.persisted)
    (hprimary : f.primary.map NvComputer.persisted = g.primary.map NvComputer.persisted) :
    f.ops = g.ops := by
  rw [ops, ops, backupOps, backupOps, primaryOps, primaryOps,
    writeArray_congr (fun p _ _ => serialize_congr false p) hbackup,
    writeArray_congr (fun p _ _ => serialize_congr true p) hprimary]

/-- A flush done again changes nothing: what it writes it has removed before. -/
theorem Flush.applyAll_ops_idem (f : Flush) (settings : QSettings) :
    applyAll (applyAll settings f.ops) f.ops = applyAll settings f.ops := by
  funext k
  have hlast (settings : QSettings) : applyAll settings f.ops k =
      SettingsOp.apply (applyAll (applyAll settings f.backupOps) f.primaryOps)
        (.remove hostsBackupKey) k := by
    rw [ops, applyAll_append, applyAll_append]
    rfl
  rw [hlast, hlast settings]
  by_cases hbackup : hostsBackupKey <+: k
  · rw [SettingsOp.apply_remove hbackup, SettingsOp.apply_remove hbackup]
  · have hkept (settings : QSettings) :
        SettingsOp.apply settings (.remove hostsBackupKey) k = settings k :=
      @SettingsOp.apply_outside (.remove hostsBackupKey) k hbackup settings
    rw [hkept, hkept]
    by_cases hhosts : hostsKey <+: k
    · rw [primaryOps, applyAll_cons, applyAll_cons]
      refine applyAll_congr_at _ ?_
      rw [SettingsOp.apply_remove hhosts, SettingsOp.apply_remove hhosts]
    · rw [applyAll_outside f.primaryOps_within hhosts, applyAll_outside f.backupOps_within hbackup,
        hlast, hkept]

/-! ### The known hosts -/

/-- The settings after a flush of these hosts. -/
def flushed (settings : QSettings) (hosts : QMap String NvComputer) : QSettings :=
  applyAll settings (Flush.ofKnown hosts).ops

variable {hosts : QMap String NvComputer}

/-- Hosts that are restored in the order of their uuids are known in this order. -/
theorem start_entries {hosts : List NvComputer}
    (h : hosts.Pairwise fun c c' => c.uuid < c'.uuid) :
    (ComputerManager.start hosts).knownHosts.entries = hosts.map fun c => (c.uuid, c) :=
  QMap.foldl_insert_entries h

/-- What a start-up restores from a flush, traits only. -/
theorem restoredHosts_flushed (settings : QSettings)
    (hsorted : ∀ c ∈ hosts.values, c.appList.Pairwise (NvApp.NotAfter toLower)) :
    (restoredHosts toLower (flushed settings hosts)).map NvComputer.persisted =
      hosts.values.map NvComputer.persisted := by
  rw [flushed, persisted_restoredHosts]
  refine List.map_congr_left fun c hc => ?_
  rw [NvComputer.sortAppList_of_sorted (hsorted c hc)]

theorem startUp_entries (settings : QSettings)
    (hkeyed : ∀ e ∈ hosts.entries, e.2.uuid = e.1)
    (hsorted : ∀ c ∈ hosts.values, c.appList.Pairwise (NvApp.NotAfter toLower)) :
    (startUp toLower (flushed settings hosts)).entries =
      (restoredHosts toLower (flushed settings hosts)).map fun c => (c.uuid, c) := by
  refine start_entries (List.pairwise_map.mp ?_)
  have huuids : (restoredHosts toLower (flushed settings hosts)).map NvComputer.uuid =
      hosts.entries.map Prod.fst := by
    have h := congrArg (List.map PersistedTraits.uuid) (restoredHosts_flushed settings hsorted)
    rw [List.map_map, List.map_map, QMap.values, List.map_map] at h
    exact h.trans (List.map_congr_left hkeyed)
  rw [huuids]
  exact List.pairwise_map.mpr hosts.sorted

/-- The same uuids, in the same order, with the same persisted traits. -/
theorem startUp_flushed (settings : QSettings) (hkeyed : ∀ e ∈ hosts.entries, e.2.uuid = e.1)
    (hsorted : ∀ c ∈ hosts.values, c.appList.Pairwise (NvApp.NotAfter toLower)) :
    (startUp toLower (flushed settings hosts)).entries.map (fun e => (e.1, e.2.persisted)) =
      hosts.entries.map fun e => (e.1, e.2.persisted) := by
  have h := congrArg (List.map fun t : PersistedTraits => (t.uuid, t))
    (restoredHosts_flushed settings hsorted)
  rw [List.map_map, List.map_map, QMap.values, List.map_map] at h
  rw [startUp_entries settings hkeyed hsorted, List.map_map]
  refine h.trans (List.map_congr_left fun e he => ?_)
  exact congrArg (fun u => (u, e.2.persisted)) (hkeyed e he)

/-- **The round trip.** After a complete flush a start-up knows exactly the hosts that were
known, each with its persisted traits, and another flush of them changes nothing, neither in
the settings nor in what the next start-up knows. -/
theorem hosts_round_trip (settings : QSettings) (hosts : QMap String NvComputer)
    (hkeyed : ∀ e ∈ hosts.entries, e.2.uuid = e.1)
    (hsorted : ∀ c ∈ hosts.values, c.appList.Pairwise (NvApp.NotAfter toLower)) :
    (startUp toLower (flushed settings hosts)).keys = hosts.keys ∧
      (∀ u c, hosts.lookup u = some c →
        ∃ c', (startUp toLower (flushed settings hosts)).lookup u = some c' ∧
          c'.isEqualSerialized c = true) ∧
      flushed (flushed settings hosts) (startUp toLower (flushed settings hosts)) =
        flushed settings hosts ∧
      startUp toLower (flushed (flushed settings hosts)
          (startUp toLower (flushed settings hosts))) =
        startUp toLower (flushed settings hosts) := by
  have hentries := startUp_flushed settings hkeyed hsorted
  have hagain : flushed (flushed settings hosts) (startUp toLower (flushed settings hosts)) =
      flushed settings hosts := by
    have hvalues := congrArg (List.map Prod.snd) hentries
    rw [List.map_map, List.map_map] at hvalues
    have hpersisted : (startUp toLower (flushed settings hosts)).values.map NvComputer.persisted =
        hosts.values.map NvComputer.persisted := by
      rw [QMap.values, QMap.values, List.map_map, List.map_map]
      exact hvalues
    have hops : (Flush.ofKnown (startUp toLower (flushed settings hosts))).ops =
        (Flush.ofKnown hosts).ops := Flush.ops_congr hpersisted hpersisted
    rw [flushed, hops]
    exact (Flush.ofKnown hosts).applyAll_ops_idem settings
  refine ⟨?_, ?_, hagain, congrArg (startUp toLower) hagain⟩
  · have hkeys := congrArg (List.map Prod.fst) hentries
    rw [List.map_map, List.map_map] at hkeys
    exact hkeys
  · intro u c hc
    have hmem : (u, c.persisted) ∈ hosts.entries.map fun e => (e.1, e.2.persisted) :=
      List.mem_map.mpr ⟨(u, c), QMap.lookup_eq_some.mp hc, rfl⟩
    rw [← hentries] at hmem
    obtain ⟨⟨u', c'⟩, he, heq⟩ := List.mem_map.mp hmem
    obtain ⟨rfl, hpersisted⟩ := Prod.mk.inj heq
    exact ⟨c', QMap.lookup_eq_some.mpr he, NvComputer.isEqualSerialized_iff.mpr hpersisted⟩

/-- A host with two apps, one of them hidden, and a host without any. -/
def twoHosts : QMap String NvComputer :=
  (QMap.empty.insert "vm-2" { NvComputer.blank with uuid := "vm-2", hasCustomName := true }).insert
    "vm-1" { NvComputer.blank with
      uuid := "vm-1"
      macAddress := [1, 2, 3, 4, 5, 6]
      remoteAddress := ⟨"10.0.0.1", 47989⟩
      appList := [⟨2, "a", true, false, true, false⟩, ⟨1, "b", false, false, false, true⟩] }

theorem twoHosts_round_trip :
    (startUp (fun name => name) (flushed (fun _ => none) twoHosts)).keys = ["vm-1", "vm-2"] ∧
      startUp (fun name => name) (flushed (flushed (fun _ => none) twoHosts)
          (startUp (fun name => name) (flushed (fun _ => none) twoHosts))) =
        startUp (fun name => name) (flushed (fun _ => none) twoHosts) := by
  have h := @hosts_round_trip (fun name => name) (fun _ => none) twoHosts (by decide) (by decide)
  exact ⟨h.1, h.2.2.2⟩

end Hosts

end GilStreaming.Client
