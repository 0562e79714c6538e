import GilStreaming.Client.XmlItems
import GilStreaming.Client.AppListUpdate

/-!
# GilStreaming.Client.AppList

`NvHTTP::getAppList` of `app/backend/nvhttp.cpp`: the list of apps from a stream of XML tokens.

The parser builds each app over many rounds of its loops. `scan_eq` says what the pass over the
start elements returns in one step, with the elements between two `App`s taken together
(`describe`).

An app is checked when the next one starts, so that nothing checks the last. And an element
in the text of another is an error of the reader, which ends the list there.
-/

namespace GilStreaming.Client

/-! ### The parser -/

/-- An `NvApp` as the parser builds it. Its name may be null. -/
structure FetchedApp where
  id : Int
  name : Option String
  hdrSupported : Bool
  isAppCollectorGame : Bool
  deriving DecidableEq, Repr

namespace FetchedApp

/-- `NvApp()`. -/
def new : FetchedApp := ⟨0, none, false, false⟩

/-- `isNull` instead of `isEmpty`: an app may have an empty name. -/
def isInitialized (app : FetchedApp) : Bool := app.id ≠ 0 && app.name.isSome

/-- The elements whose text is read. -/
def fields : List String := ["AppTitle", "ID", "IsHdrSupported", "IsAppCollectorGame"]

/-- What the text of such an element sets. An app without a name may come as `<AppTitle/>`,
the text of which is null. -/
def setField (app : FetchedApp) (name : String) (text : Option String) : FetchedApp :=
  if name = "AppTitle" then { app with name := some (text.getD "") }
  else if name = "ID" then { app with id := QString.toInt (text.getD "") }
  else if name = "IsHdrSupported" then { app with hdrSupported := text == some "1" }
  else if name = "IsAppCollectorGame" then { app with isAppCollectorGame := text == some "1" }
  else app

end FetchedApp

inductive AppListError
  | http (e : HttpException)
  /-- `std::runtime_error`. -/
  | runtimeError (what : String)
  deriving DecidableEq, Repr

open FetchedApp

/-- `!apps.isEmpty() && !apps.last().isInitialized()`. -/
def lastIncomplete (apps : List FetchedApp) : Bool :=
  apps.getLast?.any fun app => !app.isInitialized

/-- The app before is complete where the next one starts, or the list is not used. -/
def appReader : ItemReader FetchedApp AppListError where
  item := "App"
  fields := fields
  start apps :=
    if lastIncomplete apps then .error (.runtimeError "Invalid applist XML")
    else .ok (apps ++ [.new])
  setField := setField

/-- `NvHTTP::getAppList`, for the reply to its request. -/
def getAppList (reader : XmlReader) (tokens : String → List XmlToken) (reply : Reply) :
    Except AppListError (List FetchedApp) :=
  match reply.toExcept with
  | .error e => .error (.http e)
  | .ok appxml =>
      match reader.verifyResponseStatus appxml with
      | .error e => .error (.http e)
      | .ok () => appReader.read [] (tokens appxml)

/-! ### The apps of a document -/

/-- The last text that the elements of a name have. -/
def given (es : List StartElement) (name : String) : Option (Option String) :=
  ((es.filter fun e => e.name = name).getLast?).map StartElement.text

/-- The app of the elements between an `App` and the next one: the last of each kind counts. -/
def describe (es : List StartElement) : FetchedApp where
  id := ((given es "ID").map fun text => QString.toInt (text.getD "")).getD 0
  name := (given es "AppTitle").map fun text => text.getD ""
  hdrSupported := given es "IsHdrSupported" == some (some "1")
  isAppCollectorGame := given es "IsAppCollectorGame" == some (some "1")

/-- The elements behind each `App`, up to the next one. -/
def appSegments : List StartElement → List (List StartElement)
  | [] => []
  | e :: es =>
      if e.name = "App" then (es.takeWhile fun e => e.name ≠ "App") :: appSegments es
      else appSegments es

/-- One app for each `App`. -/
def documentApps (es : List StartElement) : List FetchedApp := (appSegments es).map describe

/-- Whether the reader meets an error in the text of an element, behind an `App` or not. -/
def stops (seen : Bool) (e : StartElement) : Bool := seen && fields.contains e.name && !e.closed

/-- The elements up to the error of the reader, if there is one. -/
def readElements (seen : Bool) : List StartElement → List StartElement
  | [] => []
  | e :: es =>
      if stops seen e then [e] else e :: readElements (seen || e.name = "App") es

/-- The elements behind it. -/
def unreadElements (seen : Bool) : List StartElement → List StartElement
  | [] => []
  | e :: es => if stops seen e then es else unreadElements (seen || e.name = "App") es

theorem given_concat (es : List StartElement) (e : StartElement) (name : String) :
    given (es ++ [e]) name = if e.name = name then some e.text else given es name := by
  rw [given, List.filter_append]
  by_cases hname : e.name = name
  · simp [hname]
  · simp [hname, given]

theorem describe_concat (es : List StartElement) (e : StartElement) :
    describe (es ++ [e]) = (describe es).setField e.name e.text := by
  simp only [describe, given_concat, setField]
  by_cases htitle : e.name = "AppTitle"
  · simp [htitle]
  by_cases hid : e.name = "ID"
  · simp [hid]
  by_cases hhdr : e.name = "IsHdrSupported"
  · simp [hhdr]
  by_cases hcollector : e.name = "IsAppCollectorGame"
  · simp [hcollector]
  · simp [htitle, hid, hhdr, hcollector]

theorem setField_of_not_mem {app : FetchedApp} {name : String} (h : name ∉ fields)
    (text : Option String) : app.setField name text = app := by
  simp only [fields, List.mem_cons, List.not_mem_nil, or_false, not_or] at h
  simp [setField, h]

@[simp] theorem describe_nil : describe [] = .new := rfl

@[simp] theorem lastIncomplete_nil : lastIncomplete [] = false := rfl

@[simp] theorem lastIncomplete_concat (apps : List FetchedApp) (app : FetchedApp) :
    lastIncomplete (apps ++ [app]) = !app.isInitialized := by
  simp [lastIncomplete]

/-- The segments behind an `App`, when `seg` is what has been read of the first. -/
def segmentsFrom (seg es : List StartElement) : List (List StartElement) :=
  (seg ++ es.takeWhile fun e => e.name ≠ "App") :: appSegments es

section

variable {seg es : List StartElement} {e : StartElement}

@[simp] theorem segmentsFrom_nil : segmentsFrom seg [] = [seg] := by
  simp [segmentsFrom, appSegments]

theorem segmentsFrom_app (h : e.name = "App") :
    segmentsFrom seg (e :: es) = seg :: segmentsFrom [] es := by
  simp [segmentsFrom, appSegments, h]

theorem segmentsFrom_other (h : e.name ≠ "App") :
    segmentsFrom seg (e :: es) = segmentsFrom (seg ++ [e]) es := by
  simp [segmentsFrom, appSegments, h]

theorem appSegments_app (h : e.name = "App") : appSegments (e :: es) = segmentsFrom [] es := by
  simp [segmentsFrom, appSegments, h]

theorem appSegments_other (h : e.name ≠ "App") : appSegments (e :: es) = appSegments es := by
  simp [appSegments, h]

end

section

variable {apps : List FetchedApp} {e : StartElement} {es : List StartElement}

theorem scan_app (h : e.name = "App") :
    appReader.scan apps (e :: es) =
      if lastIncomplete apps then .error (.runtimeError "Invalid applist XML")
      else appReader.scan (apps ++ [.new]) es := by
  have hstart : appReader.start apps =
      if lastIncomplete apps then .error (.runtimeError "Invalid applist XML")
      else .ok (apps ++ [.new]) := rfl
  rw [ItemReader.scan, if_pos (show e.name = appReader.item from h), hstart]
  cases lastIncomplete apps with
  | true => rfl
  | false => rfl

theorem scan_field (happ : e.name ≠ "App") (happs : apps ≠ []) (h : e.name ∈ fields) :
    appReader.scan apps (e :: es) =
      if e.closed then
        appReader.scan (apps.modifyLast fun app => app.setField e.name e.text) es
      else .ok (apps.modifyLast fun app => app.setField e.name e.text) := by
  rw [ItemReader.scan, if_neg (show e.name ≠ appReader.item from happ),
    if_pos (by simp [happs, appReader, h])]
  rfl

theorem scan_other (happ : e.name ≠ "App") (h : apps = [] ∨ e.name ∉ fields) :
    appReader.scan apps (e :: es) = appReader.scan apps es := by
  rw [ItemReader.scan, if_neg (show e.name ≠ appReader.item from happ), if_neg]
  rcases h with h | h <;> simp [h, appReader]

end

/-- What the pass returns for the apps of the elements that are read: all of them, if each but
the last is complete. -/
def checked (apps : List FetchedApp) : Except AppListError (List FetchedApp) :=
  if apps.dropLast.all FetchedApp.isInitialized then .ok apps
  else .error (.runtimeError "Invalid applist XML")

/-- An app before the last one has to be complete. -/
theorem checked_of_incomplete {done rest : List FetchedApp} {app : FetchedApp}
    (happ : app.isInitialized = false) (hrest : rest ≠ []) :
    checked (done ++ app :: rest) = .error (.runtimeError "Invalid applist XML") := by
  rw [checked, List.dropLast_append_of_ne_nil (List.cons_ne_nil _ _),
    List.dropLast_cons_of_ne_nil hrest]
  simp [happ]

theorem readElements_of_stops {seen : Bool} {e : StartElement} {es : List StartElement}
    (h : stops seen e = true) : readElements seen (e :: es) = [e] := if_pos h

theorem readElements_of_not_stops {seen : Bool} {e : StartElement} {es : List StartElement}
    (h : ¬ stops seen e = true) :
    readElements seen (e :: es) = e :: readElements (seen || e.name = "App") es := if_neg h

theorem not_stops_app {seen : Bool} {e : StartElement} (h : e.name = "App") :
    ¬ stops seen e = true := by
  simp [stops, h, fields]

/-- The pass behind an `App`: the last app is the one of the elements since. -/
theorem scan_concat (done : List FetchedApp) (hdone : done.all FetchedApp.isInitialized = true)
    (seg es : List StartElement) :
    appReader.scan (done ++ [describe seg]) es =
      checked (done ++ (segmentsFrom seg (readElements true es)).map describe) := by
  induction es generalizing done seg with
  | nil => simp [ItemReader.scan_nil, readElements, checked, hdone]
  | cons e es ih =>
      by_cases happ : e.name = "App"
      · rw [readElements_of_not_stops (not_stops_app happ), segmentsFrom_app happ,
          scan_app happ, lastIncomplete_concat, List.map_cons]
        cases hseg : (describe seg).isInitialized with
        | false =>
            rw [checked_of_incomplete hseg (by simp [segmentsFrom])]
            rfl
        | true =>
            have hnext := ih (done ++ [describe seg]) (by simp [hdone, hseg]) []
            rw [describe_nil] at hnext
            simpa using hnext
      · by_cases hfield : e.name ∈ fields
        · rw [scan_field happ (by simp) hfield, List.modifyLast_concat, ← describe_concat]
          cases hclosed : e.closed with
          | true =>
              rw [readElements_of_not_stops (by simp [stops, hclosed]), segmentsFrom_other happ]
              exact ih done hdone (seg ++ [e])
          | false =>
              rw [readElements_of_stops (by simp [stops, hclosed, hfield]),
                segmentsFrom_other happ, segmentsFrom_nil]
              simp [checked, hdone]
        · have hsame : describe (seg ++ [e]) = describe seg := by
            rw [describe_concat, setField_of_not_mem hfield]
          rw [scan_other happ (.inr hfield), readElements_of_not_stops (by simp [stops, hfield]),
            segmentsFrom_other happ, ← hsame]
          exact ih done hdone (seg ++ [e])

/-- The whole pass. -/
theorem scan_eq (es : List StartElement) :
    appReader.scan [] es = checked (documentApps (readElements false es)) := by
  induction es with
  | nil => rfl
  | cons e es ih =>
      rw [readElements_of_not_stops (by simp [stops]), documentApps]
      by_cases happ : e.name = "App"
      · have hpass := scan_concat [] rfl [] es
        rw [scan_app happ, appSegments_app happ]
        simpa [happ] using hpass
      · rw [scan_other happ (.inl rfl), appSegments_other happ]
        simpa [happ, documentApps] using ih

/-! ### What is not read -/

theorem readElements_append_unreadElements (seen : Bool) (es : List StartElement) :
    readElements seen es ++ unreadElements seen es = es := by
  induction es generalizing seen with
  | nil => rfl
  | cons e es ih =>
      rw [readElements, unreadElements]
      split
      · rfl
      · exact congrArg (e :: ·) (ih _)

/-- The reader stops behind an `App` only. -/
theorem unreadElements_eq_nil {es : List StartElement}
    (h : appSegments (readElements false es) = []) : unreadElements false es = [] := by
  induction es with
  | nil => rfl
  | cons e es ih =>
      have hgoes : ¬ stops false e = true := by simp [stops]
      rw [readElements_of_not_stops hgoes] at h
      rw [unreadElements, if_neg hgoes]
      by_cases happ : e.name = "App"
      · simp [appSegments, happ] at h
      · rw [appSegments_other happ] at h
        simpa [happ] using ih (by simpa [happ] using h)

theorem length_appSegments (es : List StartElement) :
    (appSegments es).length = es.countP fun e => e.name = "App" := by
  induction es with
  | nil => rfl
  | cons e es ih =>
      by_cases happ : e.name = "App"
      · simp [appSegments, happ, ih]
      · simp [appSegments, happ, ih]

theorem segmentsFrom_of_no_app {es : List StartElement} (happ : ∀ e ∈ es, e.name ≠ "App")
    (seg : List StartElement) : segmentsFrom seg es = [seg ++ es] := by
  induction es generalizing seg with
  | nil => rw [segmentsFrom_nil, List.append_nil]
  | cons e es ih =>
      obtain ⟨he, hes⟩ := List.forall_mem_cons.mp happ
      rw [segmentsFrom_other he, ih hes, List.append_assoc]
      rfl

/-- Elements without an `App` belong to the last one before them. -/
theorem segmentsFrom_append {es' : List StartElement} (happ : ∀ e ∈ es', e.name ≠ "App")
    (seg es : List StartElement) :
    segmentsFrom seg (es ++ es') = (segmentsFrom seg es).modifyLast fun seg => seg ++ es' := by
  induction es generalizing seg with
  | nil =>
      rw [List.nil_append, segmentsFrom_nil, segmentsFrom_of_no_app happ]
      exact (List.modifyLast_concat (· ++ es') seg []).symm
  | cons e es ih =>
      rw [List.cons_append]
      by_cases he : e.name = "App"
      · have hne : segmentsFrom [] es ≠ [] := List.cons_ne_nil _ _
        rw [segmentsFrom_app he, segmentsFrom_app he, ih]
        exact (List.modifyLast_append_of_right_ne_nil _ [seg] _ hne).symm
      · rw [segmentsFrom_other he, segmentsFrom_other he, ih]

theorem appSegments_append {es' : List StartElement} (happ : ∀ e ∈ es', e.name ≠ "App")
    (es : List StartElement) (hseg : appSegments es ≠ []) :
    appSegments (es ++ es') = (appSegments es).modifyLast fun seg => seg ++ es' := by
  induction es with
  | nil => exact absurd rfl hseg
  | cons e es ih =>
      rw [List.cons_append]
      by_cases he : e.name = "App"
      · rw [appSegments_app he, appSegments_app he, segmentsFrom_append happ]
      · rw [appSegments_other he] at hseg
        rw [appSegments_other he, appSegments_other he, ih hseg]

/-- The elements behind the last `App`. -/
def lastSegment (es : List StartElement) : List StartElement := (appSegments es).getLast?.getD []

/-- Behind the error of the reader there is no `App`, and nothing that the last app does not
have already. -/
structure NothingLost (es : List StartElement) : Prop where
  noApp : ∀ e ∈ unreadElements false es, e.name ≠ "App"
  sameApp : describe (lastSegment (readElements false es) ++ unreadElements false es) =
    describe (lastSegment (readElements false es))

theorem documentApps_read_iff (es : List StartElement) :
    documentApps (readElements false es) = documentApps es ↔ NothingLost es := by
  have hes := readElements_append_unreadElements false es
  by_cases hseg : appSegments (readElements false es) = []
  · have hunread := unreadElements_eq_nil hseg
    rw [hunread, List.append_nil] at hes
    exact iff_of_true (by rw [hes]) ⟨by simp [hunread], by simp [hunread]⟩
  · obtain ⟨segs, seg, hsegs⟩ := (List.eq_nil_or_concat' _).resolve_left hseg
    have hlast : lastSegment (readElements false es) = seg := by simp [lastSegment, hsegs]
    have happs : (∀ e ∈ unreadElements false es, e.name ≠ "App") →
        documentApps es = segs.map describe ++ [describe (seg ++ unreadElements false es)] := by
      intro happ
      have happend := appSegments_append happ _ hseg
      rw [hes, hsegs, List.modifyLast_concat] at happend
      rw [documentApps, happend]
      simp
    have hread : documentApps (readElements false es) = segs.map describe ++ [describe seg] := by
      simp [documentApps, hsegs]
    constructor
    · intro h
      have hcount : (unreadElements false es).countP (fun e => e.name = "App") = 0 := by
        have hlength := congrArg List.length h
        rw [documentApps, documentApps, List.length_map, List.length_map, length_appSegments,
          length_appSegments] at hlength
        conv at hlength => rhs; rw [← hes]
        rw [List.countP_append] at hlength
        omega
      have happ : ∀ e ∈ unreadElements false es, e.name ≠ "App" := by
        simpa [List.countP_eq_zero] using hcount
      rw [hread, happs happ] at h
      refine ⟨happ, ?_⟩
      rw [hlast]
      simpa using h.symm
    · intro h
      have hsame := h.sameApp
      rw [hlast] at hsame
      rw [hread, happs h.noApp, hsame]

/-! ### The list -/

/-- An app before the last one that is read is incomplete. -/
def Refused (es : List StartElement) : Prop :=
  ∃ app ∈ (documentApps (readElements false es)).dropLast, app.isInitialized = false

/-- The last app that is read is complete, if there is one. -/
def LastComplete (es : List StartElement) : Prop :=
  ∀ app ∈ (documentApps (readElements false es)).getLast?, app.isInitialized = true

/-- A list that is returned has the apps of the document, each of them complete. -/
def OnlyComplete (es : List StartElement) (r : Except AppListError (List FetchedApp)) : Prop :=
  ∀ apps, r = .ok apps → (∀ app ∈ apps, app.isInitialized = true) ∧ apps = documentApps es

theorem forall_mem_iff_getLast? {apps : List FetchedApp} {P : FetchedApp → Prop}
    (h : ∀ app ∈ apps.dropLast, P app) : (∀ app ∈ apps, P app) ↔ ∀ app ∈ apps.getLast?, P app := by
  rcases List.eq_nil_or_concat' apps with rfl | ⟨done, app, rfl⟩
  · simp
  · rw [List.dropLast_concat] at h
    simp only [List.getLast?_concat, Option.mem_some_iff, forall_eq', List.mem_append,
      List.mem_singleton]
    exact ⟨fun hall => hall app (.inr rfl),
      fun hlast app' hmem => hmem.elim (h app') fun heq => heq ▸ hlast⟩

theorem scan_onlyComplete_iff (es : List StartElement) :
    OnlyComplete es (appReader.scan [] es) ↔ Refused es ∨ LastComplete es ∧ NothingLost es := by
  rw [scan_eq, checked]
  by_cases hrefused : Refused es
  · obtain ⟨app, happ, hincomplete⟩ := id hrefused
    rw [if_neg fun hall => by simp [List.all_eq_true.mp hall app happ] at hincomplete]
    exact iff_of_true (fun _ h => by cases h) (.inl hrefused)
  · have hdone : ∀ app ∈ (documentApps (readElements false es)).dropLast,
        app.isInitialized = true := by
      simpa [Refused] using hrefused
    rw [if_pos (List.all_eq_true.mpr hdone), or_iff_right hrefused, ← documentApps_read_iff,
      LastComplete, ← forall_mem_iff_getLast? hdone]
    exact ⟨fun h => h _ rfl, fun h apps heq => Except.ok.inj heq ▸ h⟩

theorem getAppList_ok {reader : XmlReader} {tokens : String → List XmlToken} {reply : Reply}
    {apps : List FetchedApp} :
    getAppList reader tokens reply = .ok apps ↔
      ∃ appxml, reply = .finished appxml ∧ reader.verifyResponseStatus appxml = .ok () ∧
        appReader.scan [] (elements (tokens appxml)) = .ok apps := by
  rw [getAppList]
  cases hreply : reply.toExcept with
  | error e =>
      refine iff_of_false (fun h => by cases h) ?_
      rintro ⟨appxml, rfl, -⟩
      cases hreply
  | ok appxml =>
      obtain rfl := Reply.toExcept_ok hreply
      simp only [Reply.finished.injEq, exists_eq_left', ← ItemReader.read_eq_scan]
      cases hstatus : reader.verifyResponseStatus appxml with
      | error e => exact iff_of_false (fun h => by cases h) fun h => by cases h.1
      | ok u => exact (and_iff_right rfl).symm

/-- **Only complete apps.** Whatever the reader makes of the reply, a list that is returned has
one complete app for each `App` exactly where the request fails, an app before the last is
incomplete, or the last is complete and the reader has come to the end. -/
theorem getAppList_onlyComplete_iff (reader : XmlReader) (tokens : String → List XmlToken)
    (reply : Reply) :
    (∀ apps, getAppList reader tokens reply = .ok apps → ∃ appxml, reply = .finished appxml ∧
        (∀ app ∈ apps, app.isInitialized = true) ∧
        apps = documentApps (elements (tokens appxml))) ↔
      ∀ appxml, reply = .finished appxml → reader.verifyResponseStatus appxml = .ok () →
        Refused (elements (tokens appxml)) ∨
          LastComplete (elements (tokens appxml)) ∧ NothingLost (elements (tokens appxml)) := by
  simp only [getAppList_ok, ← scan_onlyComplete_iff]
  constructor
  · intro h appxml hreply hstatus apps hscan
    obtain ⟨appxml', hreply', happs⟩ := h apps ⟨appxml, hreply, hstatus, hscan⟩
    obtain rfl := Reply.finished.inj (hreply.symm.trans hreply')
    exact happs
  · intro h apps hlist
    obtain ⟨appxml, hreply, hstatus, hscan⟩ := hlist
    exact ⟨appxml, hreply, h appxml hreply hstatus apps hscan⟩

/-! A reply with two apps, the second of which has no ID, and one with an element in a title,
behind which the second app is not read. -/

section Sample

def rootReader : XmlReader :=
  ⟨fun _ => [], fun _ => [⟨"root", [("status_code", "200")], ""⟩]⟩

def element (name text : String) : List XmlToken :=
  [.startElement name, .characters text, .endElement]

def incompleteTokens : List XmlToken :=
  [.startElement "root", .startElement "App"] ++ element "AppTitle" "Desktop" ++
    element "ID" "1" ++ [.endElement, .startElement "App"] ++ element "AppTitle" "Steam" ++
    [.endElement, .endElement]

def nestedTokens : List XmlToken :=
  [.startElement "root", .startElement "App"] ++ element "ID" "1" ++
    [.startElement "AppTitle", .characters "Desktop"] ++ element "b" "2" ++
    [.endElement, .endElement, .startElement "App"] ++ element "AppTitle" "Steam" ++
    element "ID" "2" ++ [.endElement, .endElement]

end Sample

/-- The second app is returned without an ID, and the app behind the error is missing. -/
theorem incomplete_app_returned :
    getAppList rootReader (fun _ => incompleteTokens) (.finished "") =
        .ok [⟨1, some "Desktop", false, false⟩, ⟨0, some "Steam", false, false⟩] ∧
      ¬ OnlyComplete (elements incompleteTokens)
        (getAppList rootReader (fun _ => incompleteTokens) (.finished "")) ∧
      getAppList rootReader (fun _ => nestedTokens) (.finished "") =
        .ok [⟨1, some "Desktop", false, false⟩] ∧
      ¬ OnlyComplete (elements nestedTokens)
        (getAppList rootReader (fun _ => nestedTokens) (.finished "")) := by
  have hstatus : rootReader.verifyResponseStatus "" = .ok () := by decide +kernel
  have hincomplete : getAppList rootReader (fun _ => incompleteTokens) (.finished "") =
      .ok [⟨1, some "Desktop", false, false⟩, ⟨0, some "Steam", false, false⟩] := by
    refine getAppList_ok.mpr ⟨"", rfl, hstatus, ?_⟩
    decide +kernel
  have hnested : getAppList rootReader (fun _ => nestedTokens) (.finished "") =
      .ok [⟨1, some "Desktop", false, false⟩] := by
    refine getAppList_ok.mpr ⟨"", rfl, hstatus, ?_⟩
    decide +kernel
  refine ⟨hincomplete, fun h => ?_, hnested, fun h => ?_⟩
  · exact absurd (h _ hincomplete).1 (by decide)
  · exact absurd (h _ hnested).2 (by decide +kernel)

end GilStreaming.Client
