import GilStreaming.Client.NvComputer
import Mathlib.Data.List.Sort
import Mathlib.Data.List.Lex

/-!
# GilStreaming.Client.AppListUpdate

What `NvComputer::updateAppList` stores and what it reports.

The fetched list is compared with the stored one before the settings that the client made
are carried over, and before it is sorted. What is compared is therefore not what is stored:
by `updateAppList_exact_iff` the report is right exactly for lists that come sorted, of hosts
with no app hidden or set to launch directly.

`withAttributes` is what the loops do to one app. `reported` is an app as the host tells it,
which is what `getAppList` returns.
-/

namespace GilStreaming.Client

namespace NvApp

/-- The app without what was set on the client. -/
def reported (app : NvApp) : NvApp := { app with hidden := false, directLaunch := false }

/-- The settings of the client are the same. -/
def SameAttributes (app app' : NvApp) : Prop :=
  app.hidden = app'.hidden ∧ app.directLaunch = app'.directLaunch

instance : DecidableRel SameAttributes := fun _ _ => inferInstanceAs (Decidable (_ ∧ _))

/-- One round of the inner loop of `updateAppList`. -/
def takeAttributes (newApp existingApp : NvApp) : NvApp :=
  if existingApp.id = newApp.id then
    { newApp with hidden := existingApp.hidden, directLaunch := existingApp.directLaunch }
  else newApp

/-- All rounds that come to one app. -/
def withAttributes (appList : List NvApp) (newApp : NvApp) : NvApp :=
  appList.foldl takeAttributes newApp

variable {toLower : String → String} {appList : List NvApp} {app app' : NvApp}

theorem eq_of_reported (h : app.reported = app'.reported) (hsame : SameAttributes app app') :
    app = app' := by
  cases app
  cases app'
  simp only [reported, mk.injEq, and_true] at h
  obtain ⟨rfl, rfl⟩ := hsame
  obtain ⟨rfl, rfl, rfl, rfl⟩ := h
  rfl

@[simp] theorem reported_id (app : NvApp) : app.reported.id = app.id := rfl

@[simp] theorem reported_name (app : NvApp) : app.reported.name = app.name := rfl

theorem id_eq_of_reported (h : app.reported = app'.reported) : app.id = app'.id := by
  rw [← reported_id app, h, reported_id]

@[simp] theorem takeAttributes_reported (newApp existingApp : NvApp) :
    (newApp.takeAttributes existingApp).reported = newApp.reported := by
  unfold takeAttributes
  split <;> rfl

@[simp] theorem withAttributes_reported (appList : List NvApp) (app : NvApp) :
    (withAttributes appList app).reported = app.reported := by
  induction appList generalizing app with
  | nil => rfl
  | cons existingApp appList ih => exact (ih _).trans (takeAttributes_reported app existingApp)

@[simp] theorem withAttributes_id (appList : List NvApp) (app : NvApp) :
    (withAttributes appList app).id = app.id :=
  id_eq_of_reported (withAttributes_reported appList app)

@[simp] theorem withAttributes_name (appList : List NvApp) (app : NvApp) :
    (withAttributes appList app).name = app.name := by
  rw [← reported_name, withAttributes_reported, reported_name]

/-- The last app with the id decides. -/
theorem withAttributes_cases (appList : List NvApp) (app : NvApp) :
    (∀ existingApp ∈ appList, existingApp.id ≠ app.id) ∧ withAttributes appList app = app ∨
      ∃ existingApp ∈ appList, existingApp.id = app.id ∧
        (∀ app', app'.id = app.id → SameAttributes (withAttributes appList app') existingApp) := by
  induction appList using List.reverseRecOn with
  | nil => exact .inl ⟨fun _ h => absurd h List.not_mem_nil, rfl⟩
  | append_singleton appList last ih =>
      have hstep (app : NvApp) : withAttributes (appList ++ [last]) app =
          (withAttributes appList app).takeAttributes last := List.foldl_concat ..
      by_cases hid : last.id = app.id
      · refine .inr ⟨last, by simp, hid, fun app' hid' => ?_⟩
        rw [hstep, takeAttributes, if_pos (by rw [withAttributes_id, hid, hid'])]
        exact ⟨rfl, rfl⟩
      · have hkeep (app' : NvApp) (hid' : app'.id = app.id) :
            withAttributes (appList ++ [last]) app' = withAttributes appList app' := by
          rw [hstep, takeAttributes, if_neg (by rwa [withAttributes_id, hid'])]
        rcases ih with ⟨hnone, hsame⟩ | ⟨existingApp, hmem, heq, hsame⟩
        · refine .inl ⟨fun existingApp h => ?_, (hkeep app rfl).trans hsame⟩
          rcases List.mem_append.mp h with h | h
          · exact hnone existingApp h
          · rwa [List.mem_singleton.mp h]
        · refine .inr ⟨existingApp, List.mem_append_left _ hmem, heq, fun app' hid' => ?_⟩
          rw [hkeep app' hid']
          exact hsame app' hid'

end NvApp

namespace NvComputer

variable {toLower : String → String} {c : NvComputer} {appList newAppList : List NvApp}

theorem keepClientAttributes_eq_map (appList newAppList : List NvApp) :
    keepClientAttributes appList newAppList = newAppList.map (NvApp.withAttributes appList) := by
  induction appList generalizing newAppList with
  | nil => exact (List.map_id _).symm
  | cons existingApp appList ih =>
      rw [keepClientAttributes, List.foldl_cons]
      refine (ih _).trans ?_
      rw [List.map_map]
      rfl

instance : Std.Total (NvApp.NotAfter toLower) :=
  ⟨fun a b => (le_total (utf16 (toLower a.name)) (utf16 (toLower b.name))).imp not_lt.mpr
    not_lt.mpr⟩

instance : IsTrans NvApp (NvApp.NotAfter toLower) :=
  ⟨fun _ _ _ hab hbc => not_lt.mpr ((not_lt.mp hab).trans (not_lt.mp hbc))⟩

/-- The app list that `updateAppList` leaves, one app at a time. -/
def updatedApps (toLower : String → String) (appList newAppList : List NvApp) : List NvApp :=
  if appList = newAppList then appList
  else (newAppList.map (NvApp.withAttributes appList)).insertionSort (NvApp.NotAfter toLower)

theorem updateAppList_fst (toLower : String → String) (c : NvComputer)
    (newAppList : List NvApp) :
    (c.updateAppList toLower newAppList).1 =
      { c with appList := updatedApps toLower c.appList newAppList } := by
  rw [updateAppList, updatedApps]
  split
  · rfl
  · rw [← keepClientAttributes_eq_map]
    rfl

theorem updateAppList_appList (toLower : String → String) (c : NvComputer)
    (newAppList : List NvApp) :
    (c.updateAppList toLower newAppList).1.appList =
      updatedApps toLower c.appList newAppList := by
  rw [updateAppList_fst]

theorem updateAppList_snd (toLower : String → String) (c : NvComputer)
    (newAppList : List NvApp) :
    (c.updateAppList toLower newAppList).2 = true ↔ c.appList ≠ newAppList := by
  rw [updateAppList]
  split
  · next h => simp [h]
  · next h => simp [h]

/-! ### When the report is right -/

/-- What an update of the app list should do and say. -/
structure UpdatesExactly (toLower : String → String) (c : NvComputer) (newAppList : List NvApp) :
    Prop where
  reports : (c.updateAppList toLower newAppList).2 = true ↔
    (c.updateAppList toLower newAppList).1.appList ≠ c.appList
  sorted : (c.updateAppList toLower newAppList).1.appList.Pairwise (NvApp.NotAfter toLower)
  hostSide : ((c.updateAppList toLower newAppList).1.appList.map NvApp.reported).Perm
    (newAppList.map NvApp.reported)
  kept : ∀ existingApp ∈ c.appList, ∀ app ∈ (c.updateAppList toLower newAppList).1.appList,
    existingApp.id = app.id → app.SameAttributes existingApp
  settles : ((c.updateAppList toLower newAppList).1.updateAppList toLower newAppList).2 = false

/-- Where nothing is set on the client, carrying the settings over changes nothing. -/
theorem map_withAttributes (hfetched : ∀ app ∈ newAppList, app.reported = app)
    (hplain : ∀ existingApp ∈ appList, ∀ app ∈ newAppList, existingApp.id = app.id →
      existingApp.reported = existingApp) :
    newAppList.map (NvApp.withAttributes appList) = newAppList := by
  refine (List.map_congr_left fun app happ => ?_).trans (List.map_id newAppList)
  rcases NvApp.withAttributes_cases appList app with ⟨-, hsame⟩ | ⟨existingApp, hmem, hid, hsame⟩
  · exact hsame
  · refine NvApp.eq_of_reported (NvApp.withAttributes_reported appList app) ?_
    have hattributes := hsame app rfl
    rw [← hplain existingApp hmem app happ hid] at hattributes
    have hnone : NvApp.SameAttributes existingApp.reported app := by
      rw [← hfetched app happ]
      exact ⟨rfl, rfl⟩
    exact ⟨hattributes.1.trans hnone.1, hattributes.2.trans hnone.2⟩

/-- The report of an update with a fetched list is right, and the list settles, exactly when the
list comes sorted and no app of it is hidden or set to launch directly on the client. -/
theorem updateAppList_exact_iff (hfetched : ∀ app ∈ newAppList, app.reported = app) :
    c.UpdatesExactly toLower newAppList ↔
      newAppList.Pairwise (NvApp.NotAfter toLower) ∧
        ∀ existingApp ∈ c.appList, ∀ app ∈ newAppList, existingApp.id = app.id →
          existingApp.reported = existingApp := by
  constructor
  · intro h
    have hstored : (c.updateAppList toLower newAppList).1.appList = newAppList := by
      by_contra hne
      exact Bool.false_ne_true (h.settles.symm.trans ((updateAppList_snd ..).mpr hne))
    refine ⟨hstored ▸ h.sorted, fun existingApp hmem app happ hid => ?_⟩
    have hsame := h.kept existingApp hmem app (by rwa [hstored]) hid
    refine NvApp.eq_of_reported rfl ?_
    rw [← hfetched app happ] at hsame
    exact hsame
  · rintro ⟨hsorted, hplain⟩
    have hstored : (c.updateAppList toLower newAppList).1.appList = newAppList := by
      rw [updateAppList_appList, updatedApps, map_withAttributes hfetched hplain,
        List.Pairwise.insertionSort_eq hsorted]
      exact ite_eq_right_iff.mpr id
    refine ⟨?_, ?_, ?_, ?_, ?_⟩
    · rw [updateAppList_snd, hstored, ne_comm]
    · rwa [hstored]
    · rw [hstored]
    · intro existingApp hmem app happ hid
      rw [hstored] at happ
      rw [← hfetched app happ, ← hplain existingApp hmem app happ hid]
      exact ⟨rfl, rfl⟩
    · exact Bool.eq_false_iff.mpr fun h => (updateAppList_snd ..).mp h hstored

/-- A host with two apps, of which the user has hidden the second. -/
def playedHost : NvComputer :=
  { NvComputer.blank with
    appList := [⟨2, "a", false, false, false, false⟩, ⟨3, "c", false, false, true, false⟩] }

/-- The first app comes back with HDR, a new one comes and the hidden one is gone. -/
theorem updateAppList_exact_new :
    playedHost.UpdatesExactly (fun name => name)
      [⟨2, "a", true, false, false, false⟩, ⟨1, "b", false, false, false, false⟩] :=
  (updateAppList_exact_iff (by decide)).mpr ⟨by decide, by decide⟩

/-- A host with one app, which the user has hidden. -/
def hiddenApp : NvComputer :=
  { NvComputer.blank with appList := [⟨1, "a", false, false, true, false⟩] }

/-- The host still reports the app. The list is stored as it was, and a change is reported,
every time. -/
theorem hiddenApp_reported_again :
    (hiddenApp.updateAppList (fun name => name) [⟨1, "a", false, false, false, false⟩]) =
        (hiddenApp, true) ∧
      ¬ hiddenApp.UpdatesExactly (fun name => name) [⟨1, "a", false, false, false, false⟩] := by
  have hsame : hiddenApp.updateAppList (fun name => name) [⟨1, "a", false, false, false, false⟩] =
      (hiddenApp, true) := by decide
  refine ⟨hsame, fun h => ?_⟩
  have hchanged := h.reports.mp (by rw [hsame])
  rw [hsame] at hchanged
  exact hchanged rfl

end NvComputer

end GilStreaming.Client
