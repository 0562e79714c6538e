import GilStreaming.Client.AppListUpdate

/-!
# GilStreaming.Client.HostMerge

What `NvComputer::update` merges and what it reports.

Each macro looks at a field that no other one sets (`assignments_independent`), so after a
merge none of them would do anything any more, and the reported flag says exactly whether
one of them did. The app list is the exception: the function calls `updateAppList` and drops
its result, so a merge that only changes the app list reports no change.
-/

namespace GilStreaming.Client

namespace NvComputer

variable {toLower : String → String} {c that : NvComputer} {s : NvComputer × Bool}
  {a : Assignment} {as : List Assignment}

/-! ### The assignments -/

/-- An assignment does not decide about the field of another one. -/
def Assignment.Independent (a b : Assignment) : Prop :=
  (∀ c that, a.changes (b.assign c that) that = a.changes c that) ∧
    ∀ c that, b.changes (a.assign c that) that = b.changes c that

/-- Once done, an assignment has nothing left to do. -/
def Assignment.Settles (a : Assignment) : Prop :=
  ∀ c that, a.changes (a.assign c that) that = false

theorem assignments_independent : assignments.Pairwise Assignment.Independent := by
  unfold assignments
  repeat' first
    | exact List.Pairwise.nil
    | exact List.forall_mem_nil _
    | exact ⟨fun _ _ => rfl, fun _ _ => rfl⟩
    | refine List.Pairwise.cons ?_ ?_
    | refine List.forall_mem_cons.mpr ⟨?_, ?_⟩

theorem settles_assignIfChanged {α : Type} [DecidableEq α] {field : NvComputer → α}
    {set : NvComputer → α → NvComputer} {allowed : NvComputer → NvComputer → Bool}
    (hset : ∀ c v, field (set c v) = v) : (assignIfChanged field set allowed).Settles := by
  intro c that
  simp [assignIfChanged, hset]

theorem assignments_settle : ∀ a ∈ assignments, a.Settles := by
  unfold assignments
  repeat' first
    | exact List.forall_mem_nil _
    | refine List.forall_mem_cons.mpr ⟨settles_assignIfChanged fun _ _ => rfl, ?_⟩

/-- What no assignment may break holds after all of them. -/
theorem runAssignments_preserves {P : NvComputer → Prop}
    (h : ∀ a ∈ as, ∀ c, P c → a.changes c that = true → P (a.assign c that)) (hs : P s.1) :
    P (runAssignments that s as).1 := by
  induction as generalizing s with
  | nil => exact hs
  | cons a as ih =>
      rw [runAssignments, List.foldl_cons]
      refine ih (fun a' ha' => h a' (List.mem_cons_of_mem _ ha')) ?_
      unfold Assignment.run
      split
      · next hchanges => exact h a List.mem_cons_self _ hs hchanges
      · exact hs

theorem changes_runAssignments (h : ∀ b ∈ as, a.Independent b) (s : NvComputer × Bool) :
    a.changes (runAssignments that s as).1 that = a.changes s.1 that := by
  refine @runAssignments_preserves that s as (fun c => a.changes c that = a.changes s.1 that)
    (fun b hb c hc _ => ?_) rfl
  rw [(h b hb).1, hc]

theorem runAssignments_settled (hindependent : as.Pairwise Assignment.Independent)
    (hsettles : ∀ a ∈ as, a.Settles) (s : NvComputer × Bool) :
    ∀ a ∈ as, a.changes (runAssignments that s as).1 that = false := by
  induction as generalizing s with
  | nil => exact fun _ h => absurd h List.not_mem_nil
  | cons b as ih =>
      obtain ⟨hb, has⟩ := List.pairwise_cons.mp hindependent
      intro a ha
      rw [runAssignments, List.foldl_cons]
      rcases List.mem_cons.mp ha with rfl | ha
      · refine (changes_runAssignments hb _).trans ?_
        unfold Assignment.run
        split
        · exact hsettles a List.mem_cons_self _ _
        · next hnot => exact Bool.eq_false_iff.mpr hnot
      · exact ih has (fun a ha => hsettles a (List.mem_cons_of_mem _ ha)) _ a ha

theorem runAssignments_of_settled (h : ∀ a ∈ as, a.changes s.1 that = false) :
    runAssignments that s as = s := by
  induction as with
  | nil => rfl
  | cons a as ih =>
      have hrun : Assignment.run that s a = s :=
        if_neg (Bool.eq_false_iff.mp (h a List.mem_cons_self))
      rw [runAssignments, List.foldl_cons, hrun]
      exact ih fun a' ha' => h a' (List.mem_cons_of_mem _ ha')

/-- The assignments of `update`. -/
def assigned (c that : NvComputer) : NvComputer × Bool :=
  runAssignments that (c, false) assignments

theorem assigned_settled (c that : NvComputer) :
    ∀ a ∈ assignments, a.changes (assigned c that).1 that = false :=
  runAssignments_settled assignments_independent assignments_settle _

/-- The flag says whether an assignment has anything to do. -/
theorem assigned_snd_iff :
    (assigned c that).2 = true ↔ ∃ a ∈ assignments, a.changes c that = true := by
  constructor
  · intro h
    by_contra hnone
    push Not at hnone
    have hsettled : assigned c that = (c, false) :=
      runAssignments_of_settled fun a ha => Bool.eq_false_iff.mpr (hnone a ha)
    rw [hsettled] at h
    exact Bool.false_ne_true h
  · rintro ⟨a, ha, hchanges⟩
    by_contra hflag
    have hsame : (assigned c that).1 = c :=
      runAssignments_unchanged (Bool.eq_false_iff.mpr hflag)
    have hnone := assigned_settled c that a ha
    rw [hsame, hchanges] at hnone
    exact Bool.false_ne_true hnone.symm

/-! ### The whole merge -/

/-- The app list after a merge. -/
def mergedApps (toLower : String → String) (appList newAppList : List NvApp) : List NvApp :=
  if newAppList = [] then appList else updatedApps toLower appList newAppList

theorem assigned_appList (c that : NvComputer) : (assigned c that).1.appList = c.appList :=
  runAssignments_keeps (by simp [assignments, assignIfChanged]) _

theorem update_eq (toLower : String → String) (c that : NvComputer) :
    c.update toLower that =
      ({ (assigned c that).1 with appList := mergedApps toLower c.appList that.appList },
        (assigned c that).2) := by
  have hassigned := assigned_appList c that
  by_cases hempty : that.appList = []
  · rw [update_of_appList_nil hempty, mergedApps, if_pos hempty, ← hassigned]
    rfl
  · have hupdate : c.update toLower that =
        (((assigned c that).1.updateAppList toLower that.appList).1, (assigned c that).2) :=
      if_neg (by simpa using hempty)
    rw [hupdate, updateAppList_fst, hassigned, mergedApps, if_neg hempty]

/-! ### Merged app lists -/

/-- Apps with the same id have the same settings. -/
def Uniform (apps : List NvApp) : Prop :=
  ∀ app ∈ apps, ∀ app' ∈ apps, app.id = app'.id → app.SameAttributes app'

variable {appList newAppList : List NvApp}

/-- Sorting looks at names only. -/
theorem updatedApps_eq_map (h : appList ≠ newAppList) :
    updatedApps toLower appList newAppList =
      (newAppList.insertionSort (NvApp.NotAfter toLower)).map (NvApp.withAttributes appList) := by
  rw [updatedApps, if_neg h]
  refine (List.map_insertionSort _ _ _ _ fun a _ b _ => ?_).symm
  rw [NvApp.NotAfter, NvApp.NotAfter, NvApp.withAttributes_name, NvApp.withAttributes_name]

theorem mergedApps_eq_map (hne : newAppList ≠ []) (h : appList ≠ newAppList) :
    mergedApps toLower appList newAppList =
      (newAppList.insertionSort (NvApp.NotAfter toLower)).map (NvApp.withAttributes appList) := by
  rw [mergedApps, if_neg hne, updatedApps_eq_map h]

theorem mergedApps_eq_self (h : newAppList = [] ∨ appList = newAppList) :
    mergedApps toLower appList newAppList = appList := by
  rcases h with h | h
  · rw [mergedApps, if_pos h]
  · rw [mergedApps, updatedApps, if_pos h]
    exact ite_self _

/-- Two apps that stand for an app there was before get the same settings. -/
theorem withAttributes_same {existingApp app app' : NvApp} (hmem : existingApp ∈ appList)
    (hid : existingApp.id = app.id) (hid' : app.id = app'.id) :
    (NvApp.withAttributes appList app).SameAttributes (NvApp.withAttributes appList app') := by
  rcases NvApp.withAttributes_cases appList app with ⟨hnone, -⟩ | ⟨last, -, -, hsame⟩
  · exact absurd hid (hnone existingApp hmem)
  · have h := hsame app rfl
    have h' := hsame app' hid'.symm
    exact ⟨h.1.trans h'.1.symm, h.2.trans h'.2.symm⟩

/-- The settings of an app there was before, when they are not in doubt. -/
theorem withAttributes_of_uniform {existingApp app : NvApp} (huniform : Uniform appList)
    (hmem : existingApp ∈ appList) (hid : existingApp.id = app.id) :
    (NvApp.withAttributes appList app).SameAttributes existingApp := by
  rcases NvApp.withAttributes_cases appList app with ⟨hnone, -⟩ | ⟨last, hlast, hlastId, hsame⟩
  · exact absurd hid (hnone existingApp hmem)
  · have h := hsame app rfl
    have h' := huniform last hlast existingApp hmem (hlastId.trans hid.symm)
    exact ⟨h.1.trans h'.1, h.2.trans h'.2⟩

theorem withAttributes_of_new {app : NvApp}
    (h : ∀ existingApp ∈ appList, existingApp.id ≠ app.id) :
    NvApp.withAttributes appList app = app := by
  rcases NvApp.withAttributes_cases appList app with ⟨-, hsame⟩ | ⟨last, hlast, hid, -⟩
  · exact hsame
  · exact absurd hid (h last hlast)

theorem map_eq_of_map_eq {α β γ : Type} {f : α → γ} {g : β → γ} {h : α → β} {xs : List α}
    {ys : List β} (hmap : xs.map f = ys.map g)
    (heq : ∀ x ∈ xs, ∀ y ∈ ys, f x = g y → h x = y) : xs.map h = ys := by
  induction xs generalizing ys with
  | nil => exact (List.map_eq_nil_iff.mp hmap.symm).symm
  | cons x xs ih =>
      cases ys with
      | nil => exact absurd hmap (by simp)
      | cons y ys =>
          obtain ⟨hx, hrest⟩ := List.cons.inj hmap
          rw [List.map_cons, heq x List.mem_cons_self y List.mem_cons_self hx, ih hrest
            fun x hx y hy => heq x (List.mem_cons_of_mem _ hx) y (List.mem_cons_of_mem _ hy)]

/-- When a merge leaves the app list as it is. -/
theorem mergedApps_eq_self_iff : mergedApps toLower appList newAppList = appList ↔
    newAppList = [] ∨ appList = newAppList ∨ Uniform appList ∧
      appList.map NvApp.reported =
        (newAppList.insertionSort (NvApp.NotAfter toLower)).map NvApp.reported := by
  by_cases hempty : newAppList = []
  · exact iff_of_true (mergedApps_eq_self (.inl hempty)) (.inl hempty)
  by_cases hsame : appList = newAppList
  · exact iff_of_true (mergedApps_eq_self (.inr hsame)) (.inr (.inl hsame))
  rw [mergedApps_eq_map hempty hsame]
  simp only [hempty, hsame, false_or]
  constructor
  · intro h
    constructor
    · intro app happ app' happ' hid
      have hmem := happ
      rw [← h] at happ happ'
      obtain ⟨x, hx, rfl⟩ := List.mem_map.mp happ
      obtain ⟨x', hx', rfl⟩ := List.mem_map.mp happ'
      rw [NvApp.withAttributes_id, NvApp.withAttributes_id] at hid
      exact withAttributes_same hmem (NvApp.withAttributes_id appList x) hid
    · have hreported := congrArg (List.map NvApp.reported) h
      rw [List.map_map] at hreported
      exact hreported.symm.trans
        (List.map_congr_left fun x _ => NvApp.withAttributes_reported appList x)
  · rintro ⟨huniform, hreported⟩
    refine map_eq_of_map_eq hreported.symm fun x _ existingApp hmem heq => ?_
    have hid := NvApp.id_eq_of_reported heq
    exact NvApp.eq_of_reported ((NvApp.withAttributes_reported appList x).trans heq)
      (withAttributes_of_uniform huniform hmem hid.symm)

/-- The apps that were not there before. -/
def newApps (appList newAppList : List NvApp) : List NvApp :=
  newAppList.filter fun app => app.id ∉ appList.map NvApp.id

theorem mem_newApps {app : NvApp} : app ∈ newApps appList newAppList ↔
    app ∈ newAppList ∧ ∀ existingApp ∈ appList, existingApp.id ≠ app.id := by
  simp [newApps]

/-- The app list that was fetched is the one that is stored. -/
theorem updatedApps_eq_new (hne : newAppList ≠ []) (hsame : appList ≠ newAppList) :
    mergedApps toLower appList newAppList = newAppList ↔
      newAppList.Pairwise (NvApp.NotAfter toLower) ∧
        ∀ app ∈ newAppList, NvApp.withAttributes appList app = app := by
  constructor
  · intro h
    have hsorted : newAppList.Pairwise (NvApp.NotAfter toLower) := by
      rw [← h, mergedApps, if_neg hne, updatedApps, if_neg hsame]
      exact List.pairwise_insertionSort _ _
    refine ⟨hsorted, fun app happ => ?_⟩
    rw [mergedApps_eq_map hne hsame, List.Pairwise.insertionSort_eq hsorted] at h
    exact List.map_eq_map_iff.mp (h.trans (List.map_id _).symm) app happ
  · rintro ⟨hsorted, hattributes⟩
    rw [mergedApps_eq_map hne hsame, List.Pairwise.insertionSort_eq hsorted]
    exact (List.map_congr_left hattributes).trans (List.map_id _)

/-- When a second merge leaves the app list as the first one left it. -/
theorem mergedApps_again_iff :
    mergedApps toLower (mergedApps toLower appList newAppList) newAppList =
        mergedApps toLower appList newAppList ↔
      newAppList = [] ∨ appList = newAppList ∨ Uniform (newApps appList newAppList) ∨
        newAppList.Pairwise (NvApp.NotAfter toLower) ∧
          ∀ app ∈ newAppList, NvApp.withAttributes appList app = app := by
  by_cases hempty : newAppList = []
  · exact iff_of_true (mergedApps_eq_self (.inl hempty)) (.inl hempty)
  by_cases hsame : appList = newAppList
  · refine iff_of_true ?_ (.inr (.inl hsame))
    rw [mergedApps_eq_self (.inr hsame), mergedApps_eq_self (.inr hsame)]
  simp only [hempty, hsame, false_or]
  by_cases hstored : mergedApps toLower appList newAppList = newAppList
  · refine iff_of_true (mergedApps_eq_self (.inr hstored)) (.inr ?_)
    exact (updatedApps_eq_new hempty hsame).mp hstored
  rw [← updatedApps_eq_new hempty hsame, or_iff_left hstored, mergedApps_eq_map hempty hstored]
  generalize hmerged : mergedApps toLower appList newAppList = merged at hstored ⊢
  rw [mergedApps_eq_map hempty hsame] at hmerged
  rw [← hmerged, List.map_eq_map_iff, hmerged]
  have hmem {app : NvApp} (happ : app ∈ newAppList) :
      NvApp.withAttributes appList app ∈ merged :=
    hmerged ▸ List.mem_map_of_mem ((List.mem_insertionSort _).mpr happ)
  constructor
  · intro h app happ app' happ' hid
    obtain ⟨hnew, hnone⟩ := mem_newApps.mp happ
    obtain ⟨hnew', hnone'⟩ := mem_newApps.mp happ'
    have hsameAttributes := withAttributes_same (hmem hnew) (NvApp.withAttributes_id _ app) hid
    rwa [h app ((List.mem_insertionSort _).mpr hnew), h app' ((List.mem_insertionSort _).mpr hnew'),
      withAttributes_of_new hnone, withAttributes_of_new hnone'] at hsameAttributes
  · intro huniform app happ
    have hnew : app ∈ newAppList := (List.mem_insertionSort _).mp happ
    refine NvApp.eq_of_reported (by simp) ?_
    rcases NvApp.withAttributes_cases merged app with ⟨hnone, -⟩ | ⟨last, hlast, hid, hlastSame⟩
    · exact absurd (NvApp.withAttributes_id _ app) (hnone _ (hmem hnew))
    · -- the app that decides the second time has been given its settings the first time
      rw [← hmerged] at hlast
      obtain ⟨x, hx, rfl⟩ := List.mem_map.mp hlast
      rw [NvApp.withAttributes_id] at hid
      have hdecided := hlastSame app rfl
      have hfirst : (NvApp.withAttributes appList x).SameAttributes
          (NvApp.withAttributes appList app) := by
        by_cases hold : ∃ existingApp ∈ appList, existingApp.id = x.id
        · obtain ⟨existingApp, hexisting, hexistingId⟩ := hold
          exact withAttributes_same hexisting hexistingId hid
        · push Not at hold
          have hold' : ∀ existingApp ∈ appList, existingApp.id ≠ app.id := hid ▸ hold
          rw [withAttributes_of_new hold, withAttributes_of_new hold']
          exact huniform x (mem_newApps.mpr ⟨(List.mem_insertionSort _).mp hx, hold⟩) app
            (mem_newApps.mpr ⟨hnew, hold'⟩) hid
      exact ⟨hdecided.1.trans hfirst.1, hdecided.2.trans hfirst.2⟩

/-! ### When the merge is reported right -/

/-- What a merge should keep, do and say. -/
structure MergesExactly (toLower : String → String) (c that : NvComputer) : Prop where
  reports : (c.update toLower that).2 = true ↔ (c.update toLower that).1 ≠ c
  macAddress : c.macAddress ≠ [] → (c.update toLower that).1.macAddress ≠ []
  addresses : ∀ address ∈ [localAddress, remoteAddress, ipv6Address, manualAddress, activeAddress],
    (address c).isNull = false → (address (c.update toLower that).1).isNull = false
  serverCert : c.serverCert ≠ "" → (c.update toLower that).1.serverCert ≠ ""
  displayModes : c.displayModes ≠ [] → (c.update toLower that).1.displayModes ≠ []
  appList : c.appList ≠ [] → (c.update toLower that).1.appList ≠ []
  name : c.hasCustomName = true → (c.update toLower that).1.name = c.name
  attributes : ∀ app ∈ (c.update toLower that).1.appList, app.id ∈ c.appList.map NvApp.id →
    ∃ existingApp ∈ c.appList, existingApp.id = app.id ∧ app.SameAttributes existingApp
  again : (c.update toLower that).1.update toLower that = ((c.update toLower that).1, false)

/-- The app lists are such that the dropped result does not matter, and no app that is new comes
twice with different settings. -/
def AppListFits (toLower : String → String) (c that : NvComputer) : Prop :=
  that.appList = [] ∨ c.appList = that.appList ∨
    ((∃ a ∈ assignments, a.changes c that = true) ∨ Uniform c.appList ∧
      c.appList.map NvApp.reported =
        (that.appList.insertionSort (NvApp.NotAfter toLower)).map NvApp.reported) ∧
    (Uniform (newApps c.appList that.appList) ∨
      that.appList.Pairwise (NvApp.NotAfter toLower) ∧
        ∀ app ∈ that.appList, NvApp.withAttributes c.appList app = app)

/-- The assignments look at no app list. -/
theorem changes_appList (c that : NvComputer) (apps : List NvApp) :
    ∀ a ∈ assignments, a.changes { c with appList := apps } that = a.changes c that := by
  simp [assignments, assignIfChanged, always]

theorem update_changes (toLower : String → String) (c that : NvComputer) :
    ∀ a ∈ assignments, a.changes (c.update toLower that).1 that = false := by
  intro a ha
  rw [update_eq]
  exact (changes_appList _ that _ a ha).trans (assigned_settled c that a ha)

theorem with_appList_eq_iff {apps : List NvApp} :
    { c with appList := apps } = c ↔ apps = c.appList :=
  ⟨fun h => congrArg NvComputer.appList h, fun h => by rw [h]⟩

theorem update_reports_iff : ((c.update toLower that).2 = true ↔ (c.update toLower that).1 ≠ c) ↔
    (∃ a ∈ assignments, a.changes c that = true) ∨
      mergedApps toLower c.appList that.appList = c.appList := by
  by_cases hchanges : ∃ a ∈ assignments, a.changes c that = true
  · refine iff_of_true (iff_of_true ?_ fun hsame => ?_) (.inl hchanges)
    · rw [update_eq]
      exact assigned_snd_iff.mpr hchanges
    · obtain ⟨a, ha, hchange⟩ := hchanges
      have hdone := update_changes toLower c that a ha
      rw [hsame, hchange] at hdone
      exact Bool.false_ne_true hdone.symm
  · rw [or_iff_right hchanges]
    have hflag : (assigned c that).2 = false :=
      Bool.eq_false_iff.mpr fun h => hchanges (assigned_snd_iff.mp h)
    have hhost : (assigned c that).1 = c := runAssignments_unchanged hflag
    have hupdate : c.update toLower that =
        ({ c with appList := mergedApps toLower c.appList that.appList }, false) := by
      rw [update_eq, hflag, hhost]
    rw [hupdate]
    simp only [Bool.false_eq_true, false_iff, ne_eq, not_not, with_appList_eq_iff]

theorem update_again_iff :
    (c.update toLower that).1.update toLower that = ((c.update toLower that).1, false) ↔
      mergedApps toLower (mergedApps toLower c.appList that.appList) that.appList =
        mergedApps toLower c.appList that.appList := by
  have hsettled : assigned (c.update toLower that).1 that = ((c.update toLower that).1, false) :=
    runAssignments_of_settled (update_changes toLower c that)
  have happs : (c.update toLower that).1.appList =
      mergedApps toLower c.appList that.appList := by rw [update_eq]
  rw [update_eq toLower (c.update toLower that).1, hsettled, Prod.mk.injEq, and_iff_left rfl,
    ← happs]
  exact with_appList_eq_iff

/-- What no assignment breaks, and the app list has no part in, holds after a merge. -/
theorem update_preserves {P : NvComputer → Prop}
    (h : ∀ a ∈ assignments, ∀ c, P c → a.changes c that = true → P (a.assign c that))
    (happs : ∀ c apps, P c → P { c with appList := apps }) (hc : P c) :
    P (c.update toLower that).1 := by
  rw [update_eq]
  exact happs _ _ (runAssignments_preserves h hc)

theorem update_activeAddress : (c.update toLower that).1.activeAddress = that.activeAddress := by
  have hsplit : (runAssignments that (c, false) (assignments.take 11 ++
      assignIfChanged activeAddress (fun c v => { c with activeAddress := v }) always ::
        assignments.drop 12)).1.activeAddress =
      if true then that.activeAddress else c.activeAddress :=
    runAssignments_assigns (by simp [assignments, assignIfChanged])
      (by simp [assignments, assignIfChanged]) (fun _ _ => rfl) (fun _ => rfl) _
  rw [update_eq]
  exact hsplit

/-- What an assignment does not take away from the host. -/
structure Keeps (c c' : NvComputer) : Prop where
  macAddress : c.macAddress ≠ [] → c'.macAddress ≠ []
  localAddress : c.localAddress.isNull = false → c'.localAddress.isNull = false
  remoteAddress : c.remoteAddress.isNull = false → c'.remoteAddress.isNull = false
  ipv6Address : c.ipv6Address.isNull = false → c'.ipv6Address.isNull = false
  manualAddress : c.manualAddress.isNull = false → c'.manualAddress.isNull = false
  serverCert : c.serverCert ≠ "" → c'.serverCert ≠ ""
  displayModes : c.displayModes ≠ [] → c'.displayModes ≠ []
  name : c.hasCustomName = true → c'.hasCustomName = true ∧ c'.name = c.name

theorem Keeps.refl (c : NvComputer) : c.Keeps c :=
  ⟨id, id, id, id, id, id, id, fun hcustom => ⟨hcustom, rfl⟩⟩

theorem Keeps.trans {c c' c'' : NvComputer} (h : c.Keeps c') (h' : c'.Keeps c'') :
    c.Keeps c'' where
  macAddress := h'.macAddress ∘ h.macAddress
  localAddress := h'.localAddress ∘ h.localAddress
  remoteAddress := h'.remoteAddress ∘ h.remoteAddress
  ipv6Address := h'.ipv6Address ∘ h.ipv6Address
  manualAddress := h'.manualAddress ∘ h.manualAddress
  serverCert := h'.serverCert ∘ h.serverCert
  displayModes := h'.displayModes ∘ h.displayModes
  name hcustom := by
    obtain ⟨hcustom', hname⟩ := h.name hcustom
    exact ⟨(h'.name hcustom').1, (h'.name hcustom').2.trans hname⟩

theorem allowed_of_changes {α : Type} [DecidableEq α] {field : NvComputer → α}
    {set : NvComputer → α → NvComputer} {allowed : NvComputer → NvComputer → Bool}
    (h : (assignIfChanged field set allowed).changes c that = true) : allowed c that = true :=
  (Bool.and_eq_true_iff.mp h).1

/-- A field is replaced only where the test of its assignment says so. -/
theorem assign_keeps (that : NvComputer) :
    ∀ a ∈ assignments, ∀ c, a.changes c that = true → c.Keeps (a.assign c that) := by
  unfold assignments
  repeat' first
    | exact List.forall_mem_nil _
    | refine List.forall_mem_cons.mpr ⟨?_, ?_⟩
  all_goals
    intro c hchanges
    have hallowed := allowed_of_changes hchanges
    constructor
    case name => first
      | exact fun hcustom => ⟨hcustom, rfl⟩
      | exact fun hcustom => absurd hallowed (by simp [hcustom])
    all_goals first
      | exact id
      | exact fun _ => by simpa [assignIfChanged] using hallowed

theorem update_kept : c.Keeps (c.update toLower that).1 :=
  update_preserves (fun a ha _ hkept hchanges => hkept.trans (assign_keeps that a ha _ hchanges))
    (fun _ _ hkept => { hkept with }) (.refl c)

theorem update_address {address : NvComputer → NvAddress}
    (haddress : address ∈ [localAddress, remoteAddress, ipv6Address, manualAddress])
    (h : (address c).isNull = false) : (address (c.update toLower that).1).isNull = false := by
  simp only [List.mem_cons, List.not_mem_nil, or_false] at haddress
  rcases haddress with rfl | rfl | rfl | rfl
  · exact update_kept.localAddress h
  · exact update_kept.remoteAddress h
  · exact update_kept.ipv6Address h
  · exact update_kept.manualAddress h

/-- Each app that is merged has the settings of an app that was there before, if there was
one. -/
theorem update_attributes : ∀ app ∈ (c.update toLower that).1.appList,
    app.id ∈ c.appList.map NvApp.id →
      ∃ existingApp ∈ c.appList, existingApp.id = app.id ∧ app.SameAttributes existingApp := by
  intro app happ hid
  rw [update_eq] at happ
  by_cases hkept : that.appList = [] ∨ c.appList = that.appList
  · rw [show (mergedApps toLower c.appList that.appList) = c.appList from mergedApps_eq_self hkept]
      at happ
    exact ⟨app, happ, rfl, rfl, rfl⟩
  · obtain ⟨hne, hsame⟩ := not_or.mp hkept
    rw [show (mergedApps toLower c.appList that.appList) = _ from mergedApps_eq_map hne hsame]
      at happ
    obtain ⟨x, hx, rfl⟩ := List.mem_map.mp happ
    rw [NvApp.withAttributes_id] at hid ⊢
    rcases NvApp.withAttributes_cases c.appList x with ⟨hnone, -⟩ | ⟨last, hlast, hlastId, hsame⟩
    · obtain ⟨existingApp, hmem, heq⟩ := List.mem_map.mp hid
      exact absurd heq (hnone existingApp hmem)
    · exact ⟨last, hlast, hlastId, hsame x rfl⟩

theorem mergedApps_ne_nil (h : appList ≠ []) : mergedApps toLower appList newAppList ≠ [] := by
  by_cases hkept : newAppList = [] ∨ appList = newAppList
  · rwa [mergedApps_eq_self hkept]
  · obtain ⟨hne, hsame⟩ := not_or.mp hkept
    rw [mergedApps_eq_map hne hsame]
    intro hnil
    have hlength := congrArg List.length hnil
    rw [List.length_map, List.length_insertionSort] at hlength
    exact hne (List.length_eq_zero_iff.mp hlength)

/-- A merge is monotone and reported right, and a second one does nothing, exactly when it does
not make the active address null and the app lists fit. -/
theorem update_exact_iff (toLower : String → String) (c that : NvComputer) :
    MergesExactly toLower c that ↔
      (c.activeAddress.isNull = false → that.activeAddress.isNull = false) ∧
        AppListFits toLower c that := by
  have hlists : AppListFits toLower c that ↔
      ((c.update toLower that).2 = true ↔ (c.update toLower that).1 ≠ c) ∧
        (c.update toLower that).1.update toLower that = ((c.update toLower that).1, false) := by
    rw [update_reports_iff, update_again_iff, mergedApps_eq_self_iff, mergedApps_again_iff,
      AppListFits]
    by_cases hempty : that.appList = []
    · simp [hempty]
    · by_cases hsame : c.appList = that.appList
      · simp [hsame]
      · simp only [hempty, hsame, false_or]
  rw [hlists]
  constructor
  · intro h
    refine ⟨fun hactive => ?_, h.reports, h.again⟩
    have hkept := h.addresses activeAddress (by simp) hactive
    rwa [update_activeAddress] at hkept
  · rintro ⟨hactive, hreports, hagain⟩
    refine ⟨hreports, fun h => ?_, fun address haddress h => ?_, fun h => ?_, fun h => ?_,
      fun h => ?_, fun h => ?_, update_attributes, hagain⟩
    · exact update_kept.macAddress h
    · rw [show [localAddress, remoteAddress, ipv6Address, manualAddress, activeAddress] =
        [localAddress, remoteAddress, ipv6Address, manualAddress] ++ [activeAddress] from rfl]
        at haddress
      rcases List.mem_append.mp haddress with haddress | haddress
      · exact update_address haddress h
      · rw [List.mem_singleton.mp haddress] at h ⊢
        rw [update_activeAddress]
        exact hactive h
    · exact update_kept.serverCert h
    · exact update_kept.displayModes h
    · rw [update_eq]
      exact mergedApps_ne_nil h
    · exact (update_kept.name h).2

/-- The merge stores an app that the host did not have, and reports no change. -/
theorem new_app_not_reported :
    NvComputer.blank.update (fun name => name)
        { NvComputer.blank with appList := [⟨1, "a", false, false, false, false⟩] } =
        ({ NvComputer.blank with appList := [⟨1, "a", false, false, false, false⟩] }, false) ∧
      ¬ MergesExactly (fun name => name) NvComputer.blank
        { NvComputer.blank with appList := [⟨1, "a", false, false, false, false⟩] } := by
  have hupdate : NvComputer.blank.update (fun name => name)
      { NvComputer.blank with appList := [⟨1, "a", false, false, false, false⟩] } =
      ({ NvComputer.blank with appList := [⟨1, "a", false, false, false, false⟩] }, false) := by
    decide
  refine ⟨hupdate, fun h => ?_⟩
  have hreports := h.reports
  rw [hupdate] at hreports
  exact Bool.false_ne_true (hreports.mpr (by decide))

end NvComputer

end GilStreaming.Client
