import GilStreaming.Client.NvComputer
import GilStreaming.Lib.RowMerge
import Mathlib.Data.List.Sort
import Mathlib.Data.List.Lex

/-!
# GilStreaming.Client.AppModel

The list of apps that the GUI shows: `updateAppList` of `app/gui/appmodel.cpp`.

The model's rows are brought up to date in place, and the view is told of every row that
is removed, inserted or changed; `dataChanged` carries the row only, and the view then reads
what is there. The two loops are `removeAndUpdate` and `addNewApps`; by
`updateAppList_visibleApps` they are `mergeRows` at the ids and the lower-cased names.

The function ends with `Q_ASSERT(newVisibleList == m_VisibleApps)`. An app that is renamed
can break this: its row takes the new name where it stands, and the search for the row of a
new app stops at the first greater name, so that it does not find an app behind it that is
there already.
-/

namespace GilStreaming.Client

/-- What an app list is sorted by. -/
def NvApp.sortKey (toLower : String → String) (app : NvApp) : List Nat :=
  utf16 (toLower app.name)

structure AppModel where
  allApps : List NvApp
  visibleApps : List NvApp
  showHiddenGames : Bool
  deriving DecidableEq, Repr

namespace AppModel

variable (toLower : String → String)

/-- The model before its first `updateAppList`. -/
def opened (showHiddenGames : Bool) : AppModel where
  allApps := []
  visibleApps := []
  showHiddenGames := showHiddenGames

def isAppCurrentlyVisible (m : AppModel) (app : NvApp) : Bool :=
  m.visibleApps.any fun visibleApp => app.id == visibleApp.id

def getVisibleApps (m : AppModel) (appList : List NvApp) : List NvApp :=
  appList.filter fun app => m.showHiddenGames || !app.hidden || m.isAppCurrentlyVisible app

/-- The removals and updates. The rows of `done` have been seen, so that the next one is
the row `done.length`. -/
def removeAndUpdate (newVisibleList : List NvApp) :
    List NvApp → List NvApp → List NvApp × List (RowChange NvApp)
  | done, [] => (done, [])
  | done, existingApp :: rest =>
    match newVisibleList.find? fun newApp => existingApp.id = newApp.id with
    | some newApp =>
      if existingApp = newApp then removeAndUpdate newVisibleList (done ++ [existingApp]) rest
      else
        let r := removeAndUpdate newVisibleList (done ++ [newApp]) rest
        (r.1, .changed done.length newApp :: r.2)
    | none =>
      let r := removeAndUpdate newVisibleList done rest
      (r.1, .removed done.length :: r.2)

/-- The additions. `newRow` is the search for the insertion index. -/
def addNewApps (visibleApps : List NvApp) : List NvApp → List NvApp × List (RowChange NvApp)
  | [] => (visibleApps, [])
  | newApp :: rest =>
    match newRow NvApp.id (NvApp.sortKey toLower) newApp visibleApps with
    | none => addNewApps visibleApps rest
    | some insertionIndex =>
      let r := addNewApps (visibleApps.insertIdx insertionIndex newApp) rest
      (r.1, .inserted insertionIndex newApp :: r.2)

/-- `updateAppList`, with what the view is told. -/
def updateAppList (m : AppModel) (newList : List NvApp) : AppModel × List (RowChange NvApp) :=
  let newVisibleList := m.getVisibleApps newList
  let updated := removeAndUpdate newVisibleList [] m.visibleApps
  let added := addNewApps toLower updated.1 newVisibleList
  ({ m with allApps := newList, visibleApps := added.1 }, updated.2 ++ added.2)

/-- The model after an update to each of these lists in turn. -/
def run (m : AppModel) (updates : List (List NvApp)) : AppModel :=
  updates.foldl (fun m newList => (m.updateAppList toLower newList).1) m

/-- What `updateAppList` is for. -/
structure Mirrors (m : AppModel) (newList : List NvApp) : Prop where
  visible : (m.updateAppList toLower newList).1.visibleApps = m.getVisibleApps newList
  distinct : ((m.updateAppList toLower newList).1.visibleApps.map NvApp.id).Nodup
  replayed : RowChange.replay m.visibleApps (m.updateAppList toLower newList).2 =
    m.getVisibleApps newList

/-! ### The two loops -/

variable {toLower} {m : AppModel} {newList newVisibleList visibleApps rest done : List NvApp}

theorem removeAndUpdate_fst (newVisibleList done rest : List NvApp) :
    (removeAndUpdate newVisibleList done rest).1 =
      done ++ retained NvApp.id newVisibleList rest := by
  induction rest generalizing done with
  | nil => exact (List.append_nil done).symm
  | cons existingApp rest ih =>
      rw [removeAndUpdate, retained, List.filterMap_cons]
      split
      · next newApp hfind =>
          rw [hfind]
          split
          · next heq =>
              rw [ih, List.append_assoc, heq]
              rfl
          · show (removeAndUpdate newVisibleList (done ++ [newApp]) rest).1 = _
            rw [ih, List.append_assoc]
            rfl
      · next hfind =>
          rw [hfind]
          exact ih done

/-- The view follows the first loop. -/
theorem replay_removeAndUpdate (newVisibleList done rest : List NvApp) :
    RowChange.replay (done ++ rest) (removeAndUpdate newVisibleList done rest).2 =
      (removeAndUpdate newVisibleList done rest).1 := by
  induction rest generalizing done with
  | nil => exact List.append_nil done
  | cons existingApp rest ih =>
      rw [removeAndUpdate]
      split
      · next newApp hfind =>
          split
          · rw [List.append_cons]
            exact ih (done ++ [existingApp])
          · have hset : (done ++ existingApp :: rest).set done.length newApp =
                done ++ [newApp] ++ rest := by
              rw [List.set_append_right _ _ le_rfl, Nat.sub_self, List.append_assoc]
              rfl
            rw [RowChange.replay_cons, RowChange.apply, hset]
            exact ih (done ++ [newApp])
      · have herase : (done ++ existingApp :: rest).eraseIdx done.length = done ++ rest := by
          rw [List.eraseIdx_append_of_length_le le_rfl, Nat.sub_self]
          rfl
        rw [RowChange.replay_cons, RowChange.apply, herase]
        exact ih done

theorem addNewApps_fst (visibleApps newVisibleList : List NvApp) :
    (addNewApps toLower visibleApps newVisibleList).1 =
      newVisibleList.foldl (addRow NvApp.id (NvApp.sortKey toLower)) visibleApps := by
  induction newVisibleList generalizing visibleApps with
  | nil => rfl
  | cons newApp rest ih =>
      rw [addNewApps, List.foldl_cons, addRow]
      cases newRow NvApp.id (NvApp.sortKey toLower) newApp visibleApps with
      | none => exact ih visibleApps
      | some insertionIndex => exact ih (visibleApps.insertIdx insertionIndex newApp)

theorem replay_addNewApps (visibleApps newVisibleList : List NvApp) :
    RowChange.replay visibleApps (addNewApps toLower visibleApps newVisibleList).2 =
      (addNewApps toLower visibleApps newVisibleList).1 := by
  induction newVisibleList generalizing visibleApps with
  | nil => rfl
  | cons newApp rest ih =>
      rw [addNewApps]
      cases newRow NvApp.id (NvApp.sortKey toLower) newApp visibleApps with
      | none => exact ih visibleApps
      | some insertionIndex => exact ih (visibleApps.insertIdx insertionIndex newApp)

theorem updateAppList_visibleApps (m : AppModel) (newList : List NvApp) :
    (m.updateAppList toLower newList).1.visibleApps =
      mergeRows NvApp.id (NvApp.sortKey toLower) (m.getVisibleApps newList) m.visibleApps := by
  show (addNewApps toLower _ _).1 = _
  rw [addNewApps_fst, removeAndUpdate_fst]
  rfl

/-- The view never differs from the model. -/
theorem replay_updateAppList (m : AppModel) (newList : List NvApp) :
    RowChange.replay m.visibleApps (m.updateAppList toLower newList).2 =
      (m.updateAppList toLower newList).1.visibleApps := by
  show RowChange.replay m.visibleApps
    ((removeAndUpdate (m.getVisibleApps newList) [] m.visibleApps).2 ++ _) = _
  rw [RowChange.replay_append]
  have hupdated := replay_removeAndUpdate (m.getVisibleApps newList) [] m.visibleApps
  rw [List.nil_append] at hupdated
  rw [hupdated]
  exact replay_addNewApps _ _

/-! ### When the model mirrors the list -/

theorem getVisibleApps_sublist (m : AppModel) (appList : List NvApp) :
    (m.getVisibleApps appList).Sublist appList :=
  List.filter_sublist

theorem mirrors_iff (hsorted : newList.Pairwise (NvApp.NotAfter toLower))
    (hids : (newList.map NvApp.id).Nodup) :
    m.Mirrors toLower newList ↔
      InPlace NvApp.id (NvApp.sortKey toLower) (m.getVisibleApps newList) m.visibleApps := by
  have hsub := m.getVisibleApps_sublist newList
  have hsortedKeys : (m.getVisibleApps newList).Pairwise fun a b =>
      a.sortKey toLower ≤ b.sortKey toLower :=
    (hsorted.sublist hsub).imp not_lt.1
  have hnodup : ((m.getVisibleApps newList).map NvApp.id).Nodup := hids.sublist (hsub.map _)
  rw [← mergeRows_eq_iff hsortedKeys hnodup, ← updateAppList_visibleApps]
  constructor
  · intro h
    exact h.visible
  · intro h
    exact ⟨h, h ▸ hnodup, (replay_updateAppList m newList).trans h⟩

/-- Apps may come and go as they like while no app is renamed and no two have the same name. -/
theorem mirrors_of_names
    (hsorted : newList.Pairwise fun a b => a.sortKey toLower < b.sortKey toLower)
    (hids : (newList.map NvApp.id).Nodup)
    (hvisible : m.visibleApps.Pairwise (NvApp.NotAfter toLower))
    (hdistinct : (m.visibleApps.map NvApp.id).Nodup)
    (hnames : ∀ a ∈ m.visibleApps, ∀ b ∈ newList, a.id = b.id → a.name = b.name) :
    m.Mirrors toLower newList := by
  have hsub := m.getVisibleApps_sublist newList
  refine (mirrors_iff (hsorted.imp fun h => h.not_gt) hids).2
    (InPlace.of_keys (hsorted.sublist hsub) (hvisible.imp not_lt.1) hdistinct ?_)
  intro a ha b hb hid
  exact congrArg (fun name => utf16 (toLower name)) (hnames a ha b (hsub.subset hb) hid)

/-- In every state that updates have led to, the model mirrors a new list exactly when the rows
that stay are in the order of the new list already, and the lower-cased name of an app that
is added is below that of every row that stays and follows it. -/
theorem updateAppList_mirrors_iff (showHiddenGames : Bool) (updates : List (List NvApp))
    (newList : List NvApp) (hsorted : newList.Pairwise (NvApp.NotAfter toLower))
    (hids : (newList.map NvApp.id).Nodup) :
    ((opened showHiddenGames).run toLower updates).Mirrors toLower newList ↔
      InPlace NvApp.id (NvApp.sortKey toLower)
        (((opened showHiddenGames).run toLower updates).getVisibleApps newList)
        ((opened showHiddenGames).run toLower updates).visibleApps :=
  mirrors_iff hsorted hids

/-- An app with this id and name, and nothing else set. -/
def namedApp (id : Int) (name : String) : NvApp where
  id := id
  name := name
  hdrSupported := false
  isAppCollectorGame := false
  hidden := false
  directLaunch := false

theorem updateAppList_mirrors_replaced :
    ((opened false).run (fun name => name) [[namedApp 1 "a", namedApp 2 "c"]]).Mirrors
      (fun name => name) [namedApp 3 "b", namedApp 2 "c"] :=
  (updateAppList_mirrors_iff false [[namedApp 1 "a", namedApp 2 "c"]]
    [namedApp 3 "b", namedApp 2 "c"] (by decide) (by decide)).2
    (InPlace.of_keys (by decide) (by decide) (by decide) (by decide))

/-- An app is renamed from the first name to the last: its old row stays in front, and the
app behind it is shown twice. -/
theorem renamed_app_mirror :
    [namedApp 2 "b", namedApp 1 "z"].Pairwise (NvApp.NotAfter fun name => name) ∧
      ([namedApp 2 "b", namedApp 1 "z"].map NvApp.id).Nodup ∧
      (((opened false).run (fun name => name) [[namedApp 1 "a", namedApp 2 "b"]]).updateAppList
        (fun name => name) [namedApp 2 "b", namedApp 1 "z"]).1.visibleApps =
        [namedApp 2 "b", namedApp 1 "z", namedApp 2 "b"] ∧
      ¬ ((opened false).run (fun name => name) [[namedApp 1 "a", namedApp 2 "b"]]).Mirrors
        (fun name => name) [namedApp 2 "b", namedApp 1 "z"] := by
  have hvisible : (((opened false).run (fun name => name)
      [[namedApp 1 "a", namedApp 2 "b"]]).updateAppList (fun name => name)
      [namedApp 2 "b", namedApp 1 "z"]).1.visibleApps =
      [namedApp 2 "b", namedApp 1 "z", namedApp 2 "b"] := by decide
  refine ⟨by decide, by decide, hvisible, fun h => ?_⟩
  have hdistinct := h.distinct
  rw [hvisible] at hdistinct
  exact absurd hdistinct (by decide)

end AppModel

end GilStreaming.Client
