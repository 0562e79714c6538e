import GilStreaming.Client.ComputerSeeker
import GilStreaming.Lib.Trace

/-!
# GilStreaming.Client.StartStream

`stream` of the command line: the launcher of `app/cli/startstream.cpp`.

The launcher seeks its host, waits for the host to list the app, and creates a session. Its
events are what Qt delivers: the two slots of `computerStateChanged` one by one, since the seeker
and the launcher are connected on their own, the two timers, and what the user and
`ComputerManager` answer about a running app. A timer that is not active does not fire.
-/

namespace GilStreaming.Client

open GilStreaming.Trace

namespace CliStartStream

/-! ### The launcher -/

/-- `State`. -/
inductive LauncherState
  | init
  | seekComputer
  | seekApp
  | startSession
  | failure
  deriving DecidableEq, Repr

/-- Why the launcher fails. -/
inductive Failure
  | notPaired (computerName : String)
  | quitFailed (errorMessage : String)
  | notConnected (computerName : String)
  | appNotFound (appName : String)
  deriving DecidableEq, Repr

/-- The text of the signal `failed`. -/
def Failure.text : Failure → String
  | .notPaired computerName =>
    s!"Computer {computerName} has not been paired. " ++
      "Please open Moonlight to pair before streaming."
  | .quitFailed errorMessage => s!"Quitting app failed, reason: {errorMessage}"
  | .notConnected computerName => s!"Failed to connect to {computerName}"
  | .appNotFound appName => s!"Failed to find application {appName}"

/-- What the launcher calls and emits. -/
inductive Act
  | seeker (call : SeekerCall)
  | quitRunningApp (computer : String)
  | searchingComputer
  | searchingApp
  | sessionCreated (computer : String) (app : NvApp)
  | appQuitRequired (appName : String)
  | failed (failure : Failure)
  deriving DecidableEq, Repr

structure Launcher where
  computerName : String
  appName : String
  state : LauncherState
  seeker : Option ComputerSeeker
  /-- `m_Computer`. -/
  computer : Option String
  /-- `m_TimeoutTimer` is active. -/
  timerActive : Bool
  log : List Act
  deriving DecidableEq, Repr

inductive LauncherEvent
  | execute (computers : List String) (hosts : Hosts)
  /-- `ComputerSeeker::onComputerUpdated`. -/
  | seekerUpdated (computer : String) (hosts : Hosts)
  | seekerTimeout
  /-- `Launcher::onComputerUpdated`. -/
  | updated (hosts : Hosts)
  | timeout
  /-- The user accepts that the running app is quit. -/
  | quitRunningApp
  | quitAppCompleted (errorMessage : String)

namespace Launcher

def new (computerName appName : String) : Launcher where
  computerName := computerName
  appName := appName
  state := .init
  seeker := none
  computer := none
  timerActive := false
  log := []

def emit (s : Launcher) (act : Act) : Launcher := { s with log := s.log ++ [act] }

def fail (s : Launcher) (failure : Failure) : Launcher :=
  { s with state := .failure }.emit (.failed failure)

section Texts

variable (toLower : String → String) (isIPv6 : String → Bool)

/-- The app at `getAppIndex`. -/
def getApp (appName : String) (computer : NvComputer) : Option NvApp :=
  computer.appList.find? fun app => toLower app.name = toLower appName

def getCurrentAppName (computer : NvComputer) : String :=
  match computer.appList.find? fun app => computer.currentGameId = app.id with
  | some app => app.name
  | none => "<UNKNOWN>"

/-- `Event::ComputerFound`. -/
def computerFound (s : Launcher) (computer : String) (hosts : Hosts) : Launcher :=
  if s.state = .seekComputer then
    if (hosts computer).pairState = .paired then
      { s with
        state := .seekApp
        computer := some computer
        timerActive := true }.emit .searchingApp
    else s.fail (.notPaired (hosts computer).name)
  else s

/-- `Event::Timedout`. -/
def timedout (s : Launcher) : Launcher :=
  if s.state = .seekComputer then s.fail (.notConnected s.computerName)
  else if s.state = .seekApp then s.fail (.appNotFound s.appName)
  else s

/-- `Event::ComputerUpdated`. -/
def computerUpdated (s : Launcher) (hosts : Hosts) : Launcher :=
  match s.state, s.computer with
  | .seekApp, some computer =>
    match getApp toLower s.appName (hosts computer) with
    | none => s
    | some app =>
      let s := { s with timerActive := false }
      if (hosts computer).currentGameId = 0 ∨ (hosts computer).currentGameId = app.id then
        { s with state := .startSession }.emit (.sessionCreated computer app)
      else s.emit (.appQuitRequired (getCurrentAppName (hosts computer)))
  | _, _ => s

def step (s : Launcher) : LauncherEvent → Launcher
  | .execute computers hosts =>
    if s.state = .init then
      let (seeker, calls) := ComputerSeeker.start toLower isIPv6 s.computerName computers hosts
      { s with
        state := .seekComputer
        seeker := some seeker
        log := s.log ++ calls.map Act.seeker }.emit .searchingComputer
    else s
  | .seekerUpdated computer hosts =>
    match s.seeker with
    | none => s
    | some seeker =>
      if seeker.finds toLower isIPv6 (hosts computer) then
        ({ s with seeker := some seeker.stopped }.emit (.seeker .stopPollingAsync)).computerFound
          computer hosts
      else s
  | .seekerTimeout =>
    match s.seeker with
    | none => s
    | some seeker =>
      if seeker.timerActive then
        ({ s with seeker := some seeker.stopped }.emit (.seeker .stopPollingAsync)).timedout
      else s
  | .updated hosts => s.computerUpdated toLower hosts
  | .timeout => if s.timerActive then { s with timerActive := false }.timedout else s
  | .quitRunningApp =>
    match s.state, s.computer with
    | .seekApp, some computer => s.emit (.quitRunningApp computer)
    | _, _ => s
  | .quitAppCompleted errorMessage =>
    if s.state = .seekApp ∧ errorMessage ≠ "" then s.fail (.quitFailed errorMessage) else s

end Texts

end Launcher

/-- A signal that ends the launcher's work. -/
def Act.IsOutcome : Act → Prop
  | .sessionCreated _ _ => True
  | .failed _ => True
  | _ => False

namespace Launcher

/-! ### What a step does -/

variable {toLower : String → String} {isIPv6 : String → Bool} {s s' : Launcher} {e : LauncherEvent}

/-- What the timers and the log are like in each state. -/
def Inv (s : Launcher) : Prop :=
  match s.state with
  | .init => s.seeker = none ∧ s.timerActive = false ∧ s.log = []
  | .seekComputer => s.seeker = some ⟨s.computerName, true⟩ ∧ s.timerActive = false ∧
      ∀ act ∈ s.log, ¬ act.IsOutcome
  | .seekApp => s.seeker = some ⟨s.computerName, false⟩ ∧ s.computer ≠ none ∧
      (s.timerActive = true ∨ ∃ name, .appQuitRequired name ∈ s.log) ∧
      ∀ act ∈ s.log, ¬ act.IsOutcome
  | .startSession => s.seeker = some ⟨s.computerName, false⟩ ∧ ∃ before computer app,
      s.log = before ++ [.sessionCreated computer app] ∧ ∀ act ∈ before, ¬ act.IsOutcome
  | .failure => s.seeker = some ⟨s.computerName, false⟩ ∧ ∃ before failure,
      s.log = before ++ [.failed failure] ∧ ∀ act ∈ before, ¬ act.IsOutcome

section Texts

variable (toLower : String → String) (isIPv6 : String → Bool)

/-- The host is the one that is sought, and it is online. -/
def Answers (computerName : String) (computer : NvComputer) : Prop :=
  ComputerSeeker.matchComputer toLower isIPv6 computerName computer = true ∧
    computer.state = .online

/-- A session may start with the app. -/
def Startable (appName : String) (computer : NvComputer) (app : NvApp) : Prop :=
  getApp toLower appName computer = some app ∧
    (computer.currentGameId = 0 ∨ computer.currentGameId = app.id)

/-- What a step does, by the guards that it passes. -/
inductive Does (s : Launcher) : LauncherEvent → Launcher → Prop
  | idle (e : LauncherEvent)
      (hseek : s.state = .seekComputer → ∀ computer hosts, e = .seekerUpdated computer hosts →
        ¬ Answers toLower isIPv6 s.computerName (hosts computer))
      (happ : s.state = .seekApp → ∀ hosts, e = .updated hosts → ∀ computer ∈ s.computer,
        getApp toLower s.appName (hosts computer) = none) : Does s e s
  | execute (computers : List String) (hosts : Hosts) (calls : List SeekerCall)
      (hstate : s.state = .init) :
      Does s (.execute computers hosts) { s with
        state := .seekComputer
        seeker := some ⟨s.computerName, true⟩
        log := calls.map Act.seeker ++ [.searchingComputer] }
  | find (computer : String) (hosts : Hosts) (hstate : s.state = .seekComputer)
      (hanswers : Answers toLower isIPv6 s.computerName (hosts computer))
      (hpaired : (hosts computer).pairState = .paired) :
      Does s (.seekerUpdated computer hosts) { s with
        state := .seekApp
        seeker := some ⟨s.computerName, false⟩
        computer := some computer
        timerActive := true
        log := s.log ++ [.seeker .stopPollingAsync, .searchingApp] }
  | findUnpaired (computer : String) (hosts : Hosts) (hstate : s.state = .seekComputer)
      (hanswers : Answers toLower isIPv6 s.computerName (hosts computer))
      (hpaired : (hosts computer).pairState ≠ .paired) :
      Does s (.seekerUpdated computer hosts) { s with
        state := .failure
        seeker := some ⟨s.computerName, false⟩
        log := s.log ++ [.seeker .stopPollingAsync, .failed (.notPaired (hosts computer).name)] }
  | seekTimeout (hstate : s.state = .seekComputer) :
      Does s .seekerTimeout { s with
        state := .failure
        seeker := some ⟨s.computerName, false⟩
        log := s.log ++ [.seeker .stopPollingAsync, .failed (.notConnected s.computerName)] }
  | startSession (hosts : Hosts) (computer : String) (app : NvApp) (hstate : s.state = .seekApp)
      (hcomputer : s.computer = some computer)
      (happ : Startable toLower s.appName (hosts computer) app) :
      Does s (.updated hosts) { s with
        state := .startSession
        timerActive := false
        log := s.log ++ [.sessionCreated computer app] }
  | askToQuit (hosts : Hosts) (appName : String) (hstate : s.state = .seekApp) :
      Does s (.updated hosts) { s with
        timerActive := false
        log := s.log ++ [.appQuitRequired appName] }
  | appTimeout (hstate : s.state = .seekApp) (htimer : s.timerActive = true) :
      Does s .timeout { s with
        state := .failure
        timerActive := false
        log := s.log ++ [.failed (.appNotFound s.appName)] }
  | lateTimeout (hstate : s.state = .startSession ∨ s.state = .failure) :
      Does s .timeout { s with timerActive := false }
  | quit (computer : String) (hstate : s.state = .seekApp) :
      Does s .quitRunningApp { s with log := s.log ++ [.quitRunningApp computer] }
  | failQuit (errorMessage : String) (hstate : s.state = .seekApp) (herror : errorMessage ≠ "") :
      Does s (.quitAppCompleted errorMessage) { s with
        state := .failure
        log := s.log ++ [.failed (.quitFailed errorMessage)] }

end Texts

/-- The seeker is at work in one state only. -/
theorem Inv.timer_eq_false (h : s.Inv) (hstate : s.state ≠ .seekComputer) {seeker : ComputerSeeker}
    (hseeker : s.seeker = some seeker) : seeker.timerActive = false := by
  unfold Inv at h
  cases hcase : s.state with
  | init =>
      rw [hcase] at h
      cases h.1.symm.trans hseeker
  | seekComputer => exact absurd hcase hstate
  | _ =>
      rw [hcase] at h
      cases h.1.symm.trans hseeker
      rfl

theorem Inv.step_seekerUpdated (h : s.Inv) (hstate : s.state ≠ .seekComputer) (computer : String)
    (hosts : Hosts) : s.step toLower isIPv6 (.seekerUpdated computer hosts) = s := by
  rw [step]
  split
  · rfl
  · next seeker hseeker =>
      rw [ComputerSeeker.finds, h.timer_eq_false hstate hseeker]
      rfl

theorem Inv.step_seekerTimeout (h : s.Inv) (hstate : s.state ≠ .seekComputer) :
    s.step toLower isIPv6 .seekerTimeout = s := by
  rw [step]
  split
  · rfl
  · next seeker hseeker =>
      rw [h.timer_eq_false hstate hseeker]
      rfl

/-- **Inversion.** -/
theorem does_step (h : s.Inv) (e : LauncherEvent) :
    Does toLower isIPv6 s e (s.step toLower isIPv6 e) := by
  have hidle (he : ∀ computer hosts, e ≠ .seekerUpdated computer hosts)
      (he' : ∀ hosts, e ≠ .updated hosts) : Does toLower isIPv6 s e s :=
    .idle e (fun _ computer hosts heq => absurd heq (he computer hosts))
      fun _ hosts heq => absurd heq (he' hosts)
  cases e with
  | execute computers hosts =>
      by_cases hstate : s.state = .init
      · have hinit := h
        rw [Inv, hstate] at hinit
        have hdoes : Does toLower isIPv6 s (.execute computers hosts) _ :=
          .execute computers hosts
            (ComputerSeeker.start toLower isIPv6 s.computerName computers hosts).2 hstate
        simpa [step, hstate, ComputerSeeker.start, emit, hinit.2.2] using hdoes
      · rw [step, if_neg hstate]
        exact hidle nofun nofun
  | seekerUpdated computer hosts =>
      by_cases hstate : s.state = .seekComputer
      · have hseek := h
        rw [Inv, hstate] at hseek
        by_cases hanswers : Answers toLower isIPv6 s.computerName (hosts computer)
        · have hfinds : (⟨s.computerName, true⟩ : ComputerSeeker).finds toLower isIPv6
              (hosts computer) = true := by
            simp [ComputerSeeker.finds, hanswers.1, hanswers.2]
          simp only [step, hseek.1, hfinds, if_true, computerFound, emit, hstate, fail,
            ComputerSeeker.stopped, List.append_assoc, List.singleton_append]
          split
          · next hpaired => exact .find computer hosts hstate hanswers hpaired
          · next hpaired => exact .findUnpaired computer hosts hstate hanswers hpaired
        · have hfinds : (⟨s.computerName, true⟩ : ComputerSeeker).finds toLower isIPv6
              (hosts computer) = false := by
            simpa [ComputerSeeker.finds, Answers] using hanswers
          simp only [step, hseek.1, hfinds]
          refine .idle _ (fun _ computer' hosts' heq => ?_) fun _ _ heq => nomatch heq
          cases heq
          exact hanswers
      · rw [h.step_seekerUpdated hstate]
        exact .idle _ (fun h => absurd h hstate) fun _ _ heq => nomatch heq
  | seekerTimeout =>
      by_cases hstate : s.state = .seekComputer
      · have hseek := h
        rw [Inv, hstate] at hseek
        have hdoes : Does toLower isIPv6 s .seekerTimeout _ := .seekTimeout hstate
        simpa [step, hseek.1, ComputerSeeker.stopped, emit, timedout, hstate, fail] using hdoes
      · rw [h.step_seekerTimeout hstate]
        exact hidle nofun nofun
  | updated hosts =>
      rw [step, computerUpdated]
      split
      · next computer hstate hcomputer =>
          split
          · next hnone =>
              refine .idle _ (fun h => absurd (hstate.symm.trans h) (by simp))
                fun _ hosts' heq => ?_
              cases heq
              rw [hcomputer]
              rintro _ ⟨⟩
              exact hnone
          · next app happ =>
              dsimp only
              split
              · next hfree => exact .startSession hosts computer app hstate hcomputer ⟨happ, hfree⟩
              · exact .askToQuit hosts _ hstate
      · next hother =>
          refine .idle _ (fun _ _ _ heq => nomatch heq) fun hstate hosts' _ computer hcomputer => ?_
          exact absurd hcomputer (hother computer hstate)
  | timeout =>
      rw [step]
      split
      · next htimer =>
          rw [Inv] at h
          cases hstate : s.state with
          | init =>
              rw [hstate] at h
              exact absurd (h.2.1.symm.trans htimer) (by simp)
          | seekComputer =>
              rw [hstate] at h
              exact absurd (h.2.1.symm.trans htimer) (by simp)
          | seekApp =>
              have hdoes : Does toLower isIPv6 s .timeout _ := .appTimeout hstate htimer
              simpa [timedout, hstate, fail, emit] using hdoes
          | startSession =>
              have hdoes : Does toLower isIPv6 s .timeout _ := .lateTimeout (.inl hstate)
              simpa [timedout, hstate] using hdoes
          | failure =>
              have hdoes : Does toLower isIPv6 s .timeout _ := .lateTimeout (.inr hstate)
              simpa [timedout, hstate] using hdoes
      · exact hidle nofun nofun
  | quitRunningApp =>
      rw [step]
      split
      · next computer hstate hcomputer => exact .quit computer hstate
      · exact hidle nofun nofun
  | quitAppCompleted errorMessage =>
      rw [step]
      split
      · next hguard => exact .failQuit errorMessage hguard.1 hguard.2
      · exact hidle nofun nofun

theorem Does.names (h : Does toLower isIPv6 s e s') :
    s'.computerName = s.computerName ∧ s'.appName = s.appName := by
  cases h <;> exact ⟨rfl, rfl⟩

/-- **Step lemma.** -/
theorem Does.inv (hdoes : Does toLower isIPv6 s e s') (h : s.Inv) : s'.Inv := by
  cases hdoes with
  | idle e hseek happ => exact h
  | execute computers hosts calls hstate =>
      rw [Inv, hstate] at h
      refine ⟨rfl, h.2.1, fun act hact => ?_⟩
      rcases List.mem_append.mp hact with hcall | hlast
      · obtain ⟨call, -, rfl⟩ := List.mem_map.mp hcall
        exact id
      · rw [List.mem_singleton.mp hlast]
        exact id
  | find computer hosts hstate hanswers hpaired =>
      rw [Inv, hstate] at h
      refine ⟨rfl, by simp, .inl rfl, ?_⟩
      simpa [Act.IsOutcome, or_imp, forall_and] using h.2.2
  | findUnpaired computer hosts hstate hanswers hpaired =>
      rw [Inv, hstate] at h
      refine ⟨rfl, s.log ++ [.seeker .stopPollingAsync], .notPaired (hosts computer).name,
        by simp, ?_⟩
      simpa [Act.IsOutcome, or_imp, forall_and] using h.2.2
  | seekTimeout hstate =>
      rw [Inv, hstate] at h
      refine ⟨rfl, s.log ++ [.seeker .stopPollingAsync], .notConnected s.computerName,
        by simp, ?_⟩
      simpa [Act.IsOutcome, or_imp, forall_and] using h.2.2
  | startSession hosts computer app hstate hcomputer happ =>
      rw [Inv, hstate] at h
      exact ⟨h.1, s.log, computer, app, rfl, h.2.2.2⟩
  | askToQuit hosts appName hstate =>
      rw [Inv, hstate] at h
      rw [Inv]
      simp only [hstate]
      refine ⟨h.1, h.2.1, .inr ⟨appName, by simp⟩, ?_⟩
      simpa [Act.IsOutcome, or_imp, forall_and] using h.2.2.2
  | appTimeout hstate htimer =>
      rw [Inv, hstate] at h
      exact ⟨h.1, s.log, _, rfl, h.2.2.2⟩
  | lateTimeout hstate =>
      rcases hstate with hstate | hstate
      · rw [Inv, hstate] at h
        rw [Inv]
        simp only [hstate]
        exact h
      · rw [Inv, hstate] at h
        rw [Inv]
        simp only [hstate]
        exact h
  | quit computer hstate =>
      rw [Inv, hstate] at h
      rw [Inv]
      simp only [hstate]
      refine ⟨h.1, h.2.1, h.2.2.1.imp_right fun ⟨name, hname⟩ =>
        ⟨name, List.mem_append_left _ hname⟩, ?_⟩
      simpa [Act.IsOutcome, or_imp, forall_and] using h.2.2.2
  | failQuit errorMessage hstate herror =>
      rw [Inv, hstate] at h
      exact ⟨h.1, s.log, _, rfl, h.2.2.2⟩

/-- An outcome is at the end of the log, or there is none. -/
theorem Inv.outcome_last (h : s.Inv) :
    (∃ before act, s.log = before ++ [act] ∧ ∀ act ∈ before, ¬ act.IsOutcome) ∨
      ∀ act ∈ s.log, ¬ act.IsOutcome := by
  unfold Inv at h
  cases hstate : s.state with
  | init =>
      rw [hstate] at h
      right
      simp [h.2.2]
  | seekComputer =>
      rw [hstate] at h
      exact .inr h.2.2
  | seekApp =>
      rw [hstate] at h
      exact .inr h.2.2.2
  | startSession =>
      rw [hstate] at h
      obtain ⟨-, before, computer, app, hlog, hbefore⟩ := h
      exact .inl ⟨before, _, hlog, hbefore⟩
  | failure =>
      rw [hstate] at h
      obtain ⟨-, before, failure, hlog, hbefore⟩ := h
      exact .inl ⟨before, _, hlog, hbefore⟩

theorem after_eq_nil {front before after : List Act} {last act : Act}
    (hfront : ∀ act ∈ front, ¬ act.IsOutcome) (heq : front ++ [last] = before ++ act :: after)
    (hact : act.IsOutcome) : after = [] := by
  rcases List.append_eq_append_iff.mp heq with ⟨rest, hrest, hlast⟩ | ⟨rest, hrest, hlast⟩
  · cases rest with
    | nil => exact (List.cons.inj hlast).2.symm
    | cons first rest => simp at hlast
  · cases rest with
    | nil => exact (List.cons.inj hlast).2
    | cons first rest =>
        obtain ⟨rfl, -⟩ := List.cons.inj hlast
        exact absurd hact (hfront _ (by simp [hrest]))

theorem inv_new (computerName appName : String) : (new computerName appName).Inv :=
  ⟨rfl, rfl, rfl⟩

/-! ### Histories -/

section Histories

variable (toLower : String → String) (isIPv6 : String → Bool) (computerName appName : String)
  {es : List LauncherEvent} {uuid : String}

/-- The launcher has been executed, and the host has not answered since then. -/
def NotFound (es : List LauncherEvent) : Prop :=
  ∃ pre computers hosts mid, es = pre ++ .execute computers hosts :: mid ∧
    ∀ computer hosts, .seekerUpdated computer hosts ∈ mid →
      ¬ Answers toLower isIPv6 computerName (hosts computer)

/-- The host has answered, and was paired then. `mid` are the events since. -/
def FoundBefore (es : List LauncherEvent) (uuid : String) (mid : List LauncherEvent) : Prop :=
  ∃ pre hosts, es = pre ++ .seekerUpdated uuid hosts :: mid ∧
    NotFound toLower isIPv6 computerName pre ∧ Answers toLower isIPv6 computerName (hosts uuid) ∧
    (hosts uuid).pairState = .paired

def Found (es : List LauncherEvent) (uuid : String) : Prop :=
  ∃ mid, FoundBefore toLower isIPv6 computerName es uuid mid

/-- The host has not listed the app since it was found. -/
def NotListed (es : List LauncherEvent) (uuid : String) : Prop :=
  ∃ mid, FoundBefore toLower isIPv6 computerName es uuid mid ∧
    ∀ hosts, .updated hosts ∈ mid → getApp toLower appName (hosts uuid) = none

/-- Why a session is created. -/
def Starts (es : List LauncherEvent) (uuid : String) (app : NvApp) : Prop :=
  ∃ pre hosts post, es = pre ++ .updated hosts :: post ∧
    Found toLower isIPv6 computerName pre uuid ∧ Startable toLower appName (hosts uuid) app

/-- Why the launcher fails. -/
def Fails (es : List LauncherEvent) : Failure → Prop
  | .notPaired name => ∃ pre uuid hosts post, es = pre ++ .seekerUpdated uuid hosts :: post ∧
      NotFound toLower isIPv6 computerName pre ∧
      Answers toLower isIPv6 computerName (hosts uuid) ∧
      (hosts uuid).pairState ≠ .paired ∧ name = (hosts uuid).name
  | .quitFailed errorMessage => ∃ pre uuid post,
      es = pre ++ .quitAppCompleted errorMessage :: post ∧
      Found toLower isIPv6 computerName pre uuid ∧ errorMessage ≠ ""
  | .notConnected name => name = computerName ∧ ∃ pre post, es = pre ++ .seekerTimeout :: post ∧
      NotFound toLower isIPv6 computerName pre
  | .appNotFound name => name = appName ∧ ∃ pre uuid post, es = pre ++ .timeout :: post ∧
      NotListed toLower isIPv6 computerName appName pre uuid

/-- What the events have been in each state. -/
def Explained (es : List LauncherEvent) (s : Launcher) : Prop :=
  match s.state with
  | .init => True
  | .seekComputer => NotFound toLower isIPv6 computerName es
  | .seekApp => ∃ uuid, s.computer = some uuid ∧ Found toLower isIPv6 computerName es uuid ∧
      (s.timerActive = true → NotListed toLower isIPv6 computerName appName es uuid)
  | .startSession => ∀ uuid app, .sessionCreated uuid app ∈ s.log →
      Starts toLower isIPv6 computerName appName es uuid app
  | .failure => ∀ failure, .failed failure ∈ s.log →
      Fails toLower isIPv6 computerName appName es failure

section

variable {toLower isIPv6 computerName appName}

theorem NotFound.concat (h : NotFound toLower isIPv6 computerName es)
    (he : ∀ computer hosts, e = .seekerUpdated computer hosts →
      ¬ Answers toLower isIPv6 computerName (hosts computer)) :
    NotFound toLower isIPv6 computerName (es ++ [e]) := by
  obtain ⟨pre, computers, hosts, mid, rfl, hmid⟩ := h
  refine ⟨pre, computers, hosts, mid ++ [e], by simp, fun computer hosts' hmem => ?_⟩
  rcases List.mem_append.mp hmem with hbefore | hlast
  · exact hmid computer hosts' hbefore
  · exact he computer hosts' (List.mem_singleton.mp hlast).symm

theorem FoundBefore.concat {mid : List LauncherEvent}
    (h : FoundBefore toLower isIPv6 computerName es uuid mid) (e : LauncherEvent) :
    FoundBefore toLower isIPv6 computerName (es ++ [e]) uuid (mid ++ [e]) := by
  obtain ⟨pre, hosts, rfl, hfound⟩ := h
  exact ⟨pre, hosts, by simp, hfound⟩

theorem Found.concat (h : Found toLower isIPv6 computerName es uuid) (e : LauncherEvent) :
    Found toLower isIPv6 computerName (es ++ [e]) uuid := by
  obtain ⟨mid, hfound⟩ := h
  exact ⟨mid ++ [e], hfound.concat e⟩

theorem NotListed.concat (h : NotListed toLower isIPv6 computerName appName es uuid)
    (he : ∀ hosts, e = .updated hosts → getApp toLower appName (hosts uuid) = none) :
    NotListed toLower isIPv6 computerName appName (es ++ [e]) uuid := by
  obtain ⟨mid, hfound, hmid⟩ := h
  refine ⟨mid ++ [e], hfound.concat e, fun hosts hmem => ?_⟩
  rcases List.mem_append.mp hmem with hbefore | hlast
  · exact hmid hosts hbefore
  · exact he hosts (List.mem_singleton.mp hlast).symm

theorem Starts.concat {app : NvApp} (h : Starts toLower isIPv6 computerName appName es uuid app)
    (e : LauncherEvent) : Starts toLower isIPv6 computerName appName (es ++ [e]) uuid app := by
  obtain ⟨pre, hosts, post, rfl, hstarts⟩ := h
  exact ⟨pre, hosts, post ++ [e], by simp, hstarts⟩

theorem Fails.concat {failure : Failure}
    (h : Fails toLower isIPv6 computerName appName es failure) (e : LauncherEvent) :
    Fails toLower isIPv6 computerName appName (es ++ [e]) failure := by
  cases failure with
  | notPaired name =>
      obtain ⟨pre, uuid, hosts, post, rfl, hfails⟩ := h
      exact ⟨pre, uuid, hosts, post ++ [e], by simp, hfails⟩
  | quitFailed errorMessage =>
      obtain ⟨pre, uuid, post, rfl, hfails⟩ := h
      exact ⟨pre, uuid, post ++ [e], by simp, hfails⟩
  | notConnected name =>
      obtain ⟨hname, pre, post, rfl, hfails⟩ := h
      exact ⟨hname, pre, post ++ [e], by simp, hfails⟩
  | appNotFound name =>
      obtain ⟨hname, pre, uuid, post, rfl, hfails⟩ := h
      exact ⟨hname, pre, uuid, post ++ [e], by simp, hfails⟩

/-- **Step lemma.** -/
theorem Does.explained (hdoes : Does toLower isIPv6 s e s') (hinv : s.Inv)
    (hname : s.computerName = computerName) (happName : s.appName = appName)
    (h : Explained toLower isIPv6 computerName appName es s) :
    Explained toLower isIPv6 computerName appName (es ++ [e]) s' := by
  subst hname happName
  cases hdoes with
  | idle e hseek happ =>
      unfold Explained at h ⊢
      cases hstate : s.state with
      | init => trivial
      | seekComputer =>
          rw [hstate] at h
          exact h.concat (hseek hstate)
      | seekApp =>
          rw [hstate] at h
          obtain ⟨uuid, hcomputer, hfound, hlisted⟩ := h
          exact ⟨uuid, hcomputer, hfound.concat e, fun htimer =>
            (hlisted htimer).concat fun hosts heq => happ hstate hosts heq uuid hcomputer⟩
      | startSession =>
          rw [hstate] at h
          exact fun uuid app hmem => (h uuid app hmem).concat e
      | failure =>
          rw [hstate] at h
          exact fun failure hmem => (h failure hmem).concat e
  | execute computers hosts calls hstate =>
      exact ⟨es, computers, hosts, [], rfl, fun _ _ h => absurd h List.not_mem_nil⟩
  | find computer hosts hstate hanswers hpaired =>
      rw [Explained, hstate] at h
      have hfound : FoundBefore toLower isIPv6 s.computerName
          (es ++ [.seekerUpdated computer hosts]) computer [] :=
        ⟨es, hosts, rfl, h, hanswers, hpaired⟩
      exact ⟨computer, rfl, ⟨[], hfound⟩, fun _ =>
        ⟨[], hfound, fun _ h => absurd h List.not_mem_nil⟩⟩
  | findUnpaired computer hosts hstate hanswers hpaired =>
      rw [Explained, hstate] at h
      rw [Inv, hstate] at hinv
      intro failure hmem
      obtain rfl : failure = .notPaired (hosts computer).name := by
        have hnot : .failed failure ∉ s.log := fun hmem => hinv.2.2 _ hmem trivial
        simpa [hnot] using hmem
      exact ⟨es, computer, hosts, [], rfl, h, hanswers, hpaired, rfl⟩
  | seekTimeout hstate =>
      rw [Explained, hstate] at h
      rw [Inv, hstate] at hinv
      intro failure hmem
      obtain rfl : failure = .notConnected s.computerName := by
        have hnot : .failed failure ∉ s.log := fun hmem => hinv.2.2 _ hmem trivial
        simpa [hnot] using hmem
      exact ⟨rfl, es, [], rfl, h⟩
  | startSession hosts computer app hstate hcomputer happ =>
      rw [Explained, hstate] at h
      rw [Inv, hstate] at hinv
      obtain ⟨uuid, huuid, hfound, -⟩ := h
      intro uuid' app' hmem
      obtain ⟨rfl, rfl⟩ : uuid' = computer ∧ app' = app := by
        have hnot : .sessionCreated uuid' app' ∉ s.log := fun hmem =>
          hinv.2.2.2 _ hmem trivial
        simpa [hnot] using hmem
      obtain rfl := Option.some.inj (hcomputer.symm.trans huuid)
      exact ⟨es, hosts, [], rfl, hfound, happ⟩
  | askToQuit hosts appName hstate =>
      unfold Explained at h ⊢
      simp only [hstate] at h ⊢
      obtain ⟨uuid, hcomputer, hfound, -⟩ := h
      exact ⟨uuid, hcomputer, hfound.concat _, nofun⟩
  | appTimeout hstate htimer =>
      rw [Explained, hstate] at h
      rw [Inv, hstate] at hinv
      obtain ⟨uuid, hcomputer, -, hlisted⟩ := h
      intro failure hmem
      obtain rfl : failure = .appNotFound s.appName := by
        have hnot : .failed failure ∉ s.log := fun hmem => hinv.2.2.2 _ hmem trivial
        simpa [hnot] using hmem
      exact ⟨rfl, es, uuid, [], rfl, hlisted htimer⟩
  | lateTimeout hstate =>
      unfold Explained at h ⊢
      rcases hstate with hstate | hstate
      · simp only [hstate] at h ⊢
        exact fun uuid app hmem => (h uuid app hmem).concat _
      · simp only [hstate] at h ⊢
        exact fun failure hmem => (h failure hmem).concat _
  | quit computer hstate =>
      unfold Explained at h ⊢
      simp only [hstate] at h ⊢
      obtain ⟨uuid, hcomputer, hfound, hlisted⟩ := h
      exact ⟨uuid, hcomputer, hfound.concat _, fun htimer => (hlisted htimer).concat nofun⟩
  | failQuit errorMessage hstate herror =>
      rw [Explained, hstate] at h
      rw [Inv, hstate] at hinv
      obtain ⟨uuid, hcomputer, hfound, -⟩ := h
      intro failure hmem
      obtain rfl : failure = .quitFailed errorMessage := by
        have hnot : .failed failure ∉ s.log := fun hmem => hinv.2.2.2 _ hmem trivial
        simpa [hnot] using hmem
      exact ⟨es, uuid, [], rfl, hfound, herror⟩

end

variable (es) in
/-- **Run lemma.** -/
theorem explained_run :
    (run (step toLower isIPv6) (new computerName appName) es).Inv ∧
      Explained toLower isIPv6 computerName appName es
        (run (step toLower isIPv6) (new computerName appName) es) ∧
      (run (step toLower isIPv6) (new computerName appName) es).computerName = computerName ∧
      (run (step toLower isIPv6) (new computerName appName) es).appName = appName := by
  induction es using List.reverseRecOn with
  | nil => exact ⟨inv_new computerName appName, trivial, rfl, rfl⟩
  | append_singleton es e ih =>
      obtain ⟨hinv, hexplained, hname, happName⟩ := ih
      have hdoes : Does toLower isIPv6 _ e _ := does_step hinv e
      rw [run_concat]
      exact ⟨hdoes.inv hinv, hdoes.explained hinv hname happName hexplained,
        hdoes.names.1.trans hname, hdoes.names.2.trans happName⟩

end Histories

end Launcher

open Launcher

/-! ### Results -/

/-- In every run a session or a failure is the last thing that the launcher emits, so there is at
most one of them. Until then a launcher that has been executed has a timer that will end its
search, or it has asked the user to quit the running app. -/
theorem launcher_concludes (toLower : String → String) (isIPv6 : String → Bool)
    (computerName appName : String) (es : List LauncherEvent) :
    (∀ before act after,
        (run (step toLower isIPv6) (new computerName appName) es).log = before ++ act :: after →
          act.IsOutcome → after = []) ∧
      ((run (step toLower isIPv6) (new computerName appName) es).state ≠ .init →
        (∃ act ∈ (run (step toLower isIPv6) (new computerName appName) es).log,
            act.IsOutcome) ∨
          (run (step toLower isIPv6) (new computerName appName) es).seeker =
            some ⟨computerName, true⟩ ∨
          (run (step toLower isIPv6) (new computerName appName) es).timerActive = true ∨
          ∃ name, .appQuitRequired name ∈
            (run (step toLower isIPv6) (new computerName appName) es).log) := by
  obtain ⟨hinv, -, hname, -⟩ := explained_run toLower isIPv6 computerName appName es
  generalize run (step toLower isIPv6) (new computerName appName) es = s at hinv hname
  refine ⟨fun before act after hlog houtcome => ?_, fun hstate => ?_⟩
  · obtain ⟨front, last, heq, hfront⟩ | hnone := hinv.outcome_last
    · exact after_eq_nil hfront (heq.symm.trans hlog) houtcome
    · exact absurd houtcome (hnone act (by simp [hlog]))
  · unfold Launcher.Inv at hinv
    cases hcase : s.state with
    | init => exact absurd hcase hstate
    | seekComputer =>
        rw [hcase] at hinv
        exact .inr (.inl (hname ▸ hinv.1))
    | seekApp =>
        rw [hcase] at hinv
        exact .inr (.inr hinv.2.2.1)
    | startSession =>
        rw [hcase] at hinv
        obtain ⟨-, before, computer, app, hlog, -⟩ := hinv
        exact .inl ⟨.sessionCreated computer app, by simp [hlog], trivial⟩
    | failure =>
        rw [hcase] at hinv
        obtain ⟨-, before, failure, hlog, -⟩ := hinv
        exact .inl ⟨.failed failure, by simp [hlog], trivial⟩

/-- In every run a session is created only for the host that has answered and was paired, with the
app that it listed under the name, when the host was idle or running that app. And a failure has
its reason: the app is not found only if the host has not listed it since it was found. -/
theorem outcome_explained (toLower : String → String) (isIPv6 : String → Bool)
    (computerName appName : String) (es : List LauncherEvent) :
    (∀ uuid app, .sessionCreated uuid app ∈
        (run (step toLower isIPv6) (new computerName appName) es).log →
          Starts toLower isIPv6 computerName appName es uuid app) ∧
      ∀ failure, .failed failure ∈
        (run (step toLower isIPv6) (new computerName appName) es).log →
          Fails toLower isIPv6 computerName appName es failure := by
  obtain ⟨hinv, hexplained, -, -⟩ := explained_run toLower isIPv6 computerName appName es
  generalize run (step toLower isIPv6) (new computerName appName) es = s at hinv hexplained
  unfold Launcher.Inv at hinv
  unfold Explained at hexplained
  cases hcase : s.state with
  | init =>
      rw [hcase] at hinv
      simp [hinv.2.2]
  | seekComputer =>
      rw [hcase] at hinv
      exact ⟨fun uuid app hmem => absurd trivial (hinv.2.2 _ hmem),
        fun failure hmem => absurd trivial (hinv.2.2 _ hmem)⟩
  | seekApp =>
      rw [hcase] at hinv
      exact ⟨fun uuid app hmem => absurd trivial (hinv.2.2.2 _ hmem),
        fun failure hmem => absurd trivial (hinv.2.2.2 _ hmem)⟩
  | startSession =>
      rw [hcase] at hinv hexplained
      obtain ⟨-, before, computer, app, hlog, hbefore⟩ := hinv
      refine ⟨hexplained, fun failure hmem => ?_⟩
      have hnot : .failed failure ∉ before := fun hmem => hbefore _ hmem trivial
      simp [hlog, hnot] at hmem
  | failure =>
      rw [hcase] at hinv hexplained
      obtain ⟨-, before, failure, hlog, hbefore⟩ := hinv
      refine ⟨fun uuid app hmem => ?_, hexplained⟩
      have hnot : .sessionCreated uuid app ∉ before := fun hmem => hbefore _ hmem trivial
      simp [hlog, hnot] at hmem

end CliStartStream

end GilStreaming.Client
