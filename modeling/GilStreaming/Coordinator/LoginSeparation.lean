import GilStreaming.Coordinator.AdminAuth
import GilStreaming.Coordinator.LoginSecrets
import Mathlib.Data.Set.Function

/-!
# GilStreaming.Coordinator.LoginSeparation

Admin logins and client logins do not mix, although they come back to one URL.

The broker's side of a history is a history of the broker (`LoginSystem.run_auth`), so
what is known about its states and tokens holds here. The admin side has its own
invariants: a state that is pending, and the request of a thread, were issued to an admin
login (`LoginSystem.Issued`), and a session is there under the hash of a cookie that was
stored, for no longer than twelve hours (`LoginSystem.AdminSessions`). Since `randomID`
serves both sides, an id that one of them has drawn is never one of the other's.
-/

namespace GilStreaming.Coordinator

open GilStreaming.Trace

namespace AdminAuth

variable {a : AdminAuth} {now : Int}

theorem cleanupLocked_pending {s : String} {expiresAt : Int} :
    (a.cleanupLocked now).pending.lookup s = some expiresAt ↔
      a.pending.lookup s = some expiresAt ∧ now < expiresAt := by
  rw [cleanupLocked, GoMap.lookup_filter_eq_some, decide_eq_true_eq]

theorem cleanupLocked_sessions {k : String} {session : AdminSession} :
    (a.cleanupLocked now).sessions.lookup k = some session ↔
      a.sessions.lookup k = some session ∧ now < session.expiresAt := by
  rw [cleanupLocked, GoMap.lookup_filter_eq_some, decide_eq_true_eq]

theorem cleanupLocked_count_pending (p : String → Int → Bool) :
    (a.cleanupLocked now).pending.count p ≤ a.pending.count p := by
  unfold cleanupLocked
  exact GoMap.count_filter_le _ _

/-- `Authenticate` sweeps, or does nothing. -/
theorem authenticate_fst (cookie : Option String) :
    (a.authenticate cookie now).1 = a ∨ (a.authenticate cookie now).1 = a.cleanupLocked now := by
  unfold authenticate
  cases cookie with
  | none => exact .inl rfl
  | some value =>
      dsimp only
      split
      · exact .inl rfl
      · exact .inr rfl

/-- A cookie authenticates with a session that has not expired. -/
theorem authenticate_eq_some {value : String} {profile : GilIDProfile}
    (h : (a.authenticate (some value) now).2 = some profile) :
    ∃ session, a.sessions.lookup (tokenHash value) = some session ∧ now < session.expiresAt := by
  unfold authenticate at h
  dsimp only at h
  split at h
  · exact absurd h (by simp)
  · dsimp only at h
    split at h
    · next session hk => exact ⟨session, cleanupLocked_sessions.mp hk⟩
    · exact absurd h (by simp)

end AdminAuth

/-! ### The outcomes of a step -/

/-- The thread has no exchange and no session before it. -/
def AdminThread.passive : AdminThread → Bool
  | .exchanging _ _ => false
  | .storing _ _ _ _ => false
  | _ => true

/-- The thread is about to store the cookie's session. -/
def AdminThread.carries (cookie : String) : AdminThread → Bool
  | .storing _ _ token _ => token == cookie
  | _ => false

theorem AdminThread.carries_of_passive {t : AdminThread} (h : t.passive = true) (cookie : String) :
    t.carries cookie = false := by
  cases t <;> first | rfl | exact absurd h (by simp [passive])

/-- What `AdminAuth.Callback` does with an admin login it has found. -/
theorem AdminThread.check_some (request : CallbackRequest) (expiresAt now : Int) :
    AdminThread.check request (some expiresAt) now = .exchanging request now ∨
      ∃ reply, AdminThread.check request (some expiresAt) now = .answered reply := by
  simp only [check]
  split
  · exact .inr ⟨_, rfl⟩
  · split
    · exact .inr ⟨_, rfl⟩
    · split
      · exact .inr ⟨_, rfl⟩
      · exact .inl rfl

namespace LoginSystem

/-- The outcomes of an admin step `e` from `sys`. The broker's part is left alone. -/
inductive AdminSteps (sys : LoginSystem) (e : LoginEvent) :
    LoginSystem → Option LoginOutput → Prop
  /-- Nothing but a sweep, maybe, and a request that arrives. -/
  | swept (admin : AdminAuth) (arriving : List AdminThread)
      (hadmin : admin = sys.admin ∨ ∃ now, admin = sys.admin.cleanupLocked now)
      (hpassive : ∀ t ∈ arriving, t.passive = true) :
      AdminSteps sys e { sys with admin := admin, requests := sys.requests ++ arriving } none
  /-- A thread goes on without anything to show. -/
  | moved (i : Nat) (t : AdminThread) (hpassive : t.passive = true) :
      AdminSteps sys e { sys with requests := sys.requests.set i t } none
  /-- An admin login starts. -/
  | issued (i : Nat) (now : Int) (state : String) (reply : AdminReply)
      (hdrawn : e.action.drawn = [state]) :
      AdminSteps sys e
        { sys with
          admin := { sys.admin.cleanupLocked now with
            pending := (sys.admin.cleanupLocked now).pending.insert state
              (now + authRequestLifetime) }
          requests := sys.requests.set i (.answered reply) }
        (some (.adminStarted state))
  /-- An admin login comes back, and its code is exchanged. -/
  | exchange (now : Int) (request : CallbackRequest) (expiresAt : Int)
      (hnow : e.action.reading = some now)
      (hpending : (sys.admin.cleanupLocked now).pending.lookup request.state = some expiresAt) :
      AdminSteps sys e
        { sys with
          admin := { sys.admin.cleanupLocked now with
            pending := (sys.admin.cleanupLocked now).pending.erase request.state }
          requests := sys.requests ++ [.exchanging request now] }
        (some (.adminExchange request.state (sys.auth.broker.tokenRequest request.code)))
  /-- An admin login comes back, and is refused. -/
  | refused (now : Int) (state : String) (reply : AdminReply) :
      AdminSteps sys e
        { sys with
          admin := { sys.admin.cleanupLocked now with
            pending := (sys.admin.cleanupLocked now).pending.erase state }
          requests := sys.requests ++ [.answered reply] } none
  /-- The exchange has come back with an admin's profile, and a token is drawn. -/
  | minted (i : Nat) (request : CallbackRequest) (now : Int) (token : String)
      (profile : GilIDProfile) (hi : sys.requests[i]? = some (.exchanging request now))
      (hadmin : profile.isAdmin = true) (hdrawn : e.action.drawn = [token]) :
      AdminSteps sys e
        { sys with requests := sys.requests.set i (.storing request now token profile) }
        (some (.adminMinted request.state token))
  /-- A session is stored. -/
  | stored (i : Nat) (request : CallbackRequest) (now : Int) (token : String)
      (profile : GilIDProfile) (reply : AdminReply)
      (hi : sys.requests[i]? = some (.storing request now token profile)) :
      AdminSteps sys e
        { sys with
          admin := sys.admin.storeSession token profile (now + coordinatorSessionLifetime)
          requests := sys.requests.set i (.answered reply) }
        (some (.adminSession request.state token profile e.instant))
  /-- A session is removed. -/
  | loggedOut (value : String) :
      AdminSteps sys e { sys with admin := sys.admin.logout (some value) } none

variable {sys sys' : LoginSystem} {e : LoginEvent} {out : Option LoginOutput}

theorem adminSteps_idle : AdminSteps sys e sys none := by
  simpa using AdminSteps.swept (e := e) sys.admin [] (.inl rfl) (by simp)

/-- **Inversion.** -/
theorem execAdmin_steps (sys : LoginSystem) (e : LoginEvent) :
    AdminSteps sys e (sys.execAdmin e).1 (sys.execAdmin e).2 := by
  cases he : e.action with
  | client action =>
      simp only [execAdmin, he]
      exact adminSteps_idle
  | adminStart now cookie =>
      simp only [execAdmin, he]
      refine .swept _ _ ((AdminAuth.authenticate_fst cookie).imp_right fun h => ⟨now, h⟩) ?_
      intro t ht
      rw [List.mem_singleton.mp ht]
      split <;> rfl
  | adminIssue i now state =>
      simp only [execAdmin, he]
      split
      · cases state with
        | none => exact .moved i _ rfl
        | some state => exact .issued i now (randomID state) _ (by rw [he]; rfl)
      · exact adminSteps_idle
  | oauthCallback now request =>
      simp only [execAdmin, he, AdminAuth.consumeState]
      cases hpending : (sys.admin.cleanupLocked now).pending.lookup request.state with
      | none =>
          exact .swept _ _ (.inr ⟨now, rfl⟩) (by simp [AdminThread.check, AdminThread.passive])
      | some expiresAt =>
          dsimp only
          rcases AdminThread.check_some request expiresAt now with h | ⟨reply, h⟩
          · rw [h]
            exact .exchange now request expiresAt (by rw [he]; rfl) hpending
          · rw [h]
            exact .refused now request.state reply
  | forward i =>
      simp only [execAdmin, he]
      split
      · exact .moved i _ rfl
      · exact adminSteps_idle
  | adminExchanged i token profile sessionToken =>
      simp only [execAdmin, he]
      split
      · next request now hi =>
          cases hprofile : exchangeAndLoadProfile token profile with
          | none => exact .moved i _ rfl
          | some profile =>
              simp only [AdminThread.exchanged]
              by_cases hadmin : profile.isAdmin = true
              · simp only [hadmin, Bool.not_true, Bool.false_eq_true, if_false]
                cases sessionToken with
                | none => exact .moved i _ rfl
                | some value =>
                    exact .minted i request now (randomID value) profile hi hadmin
                      (by rw [he]; rfl)
              · simp only [hadmin, Bool.not_false, if_true]
                exact .moved i _ rfl
      · exact adminSteps_idle
  | adminStore i =>
      simp only [execAdmin, he]
      split
      · next request now token profile hi => exact .stored i request now token profile _ hi
      · exact adminSteps_idle
  | authenticate now cookie =>
      simp only [execAdmin, he]
      simpa using @AdminSteps.swept sys e _ []
        ((AdminAuth.authenticate_fst cookie).imp_right fun h => ⟨now, h⟩) (by simp)
  | logout cookie =>
      simp only [execAdmin, he]
      cases cookie with
      | none => exact adminSteps_idle
      | some value => exact .loggedOut value

/-! ### The broker's side -/

/-- An event that is not the broker's leaves it alone; one that is shows what the broker
shows. -/
theorem exec_eq (sys : LoginSystem) (e : LoginEvent) :
    (sys.authEvent? e = none ∧ sys.step e = (sys.execAdmin e).1 ∧
      sys.output e = (sys.execAdmin e).2) ∨
    ∃ event, sys.authEvent? e = some event ∧
      sys.step e = { (sys.execAdmin e).1 with auth := sys.auth.step event } ∧
      sys.output e = (sys.auth.output event).map .client := by
  unfold step output exec
  cases h : sys.authEvent? e with
  | none => exact .inl ⟨rfl, rfl, rfl⟩
  | some event => exact .inr ⟨event, rfl, rfl, rfl⟩

/-- An event of the broker shows nothing of the admin side. -/
theorem execAdmin_of_authEvent {event : AuthEvent} (h : sys.authEvent? e = some event) :
    (sys.execAdmin e).2 = none := by
  unfold authEvent? at h
  cases he : e.action with
  | client action => simp only [execAdmin, he]
  | forward i =>
      simp only [execAdmin, he]
      split <;> rfl
  | _ => simp [he] at h

theorem AdminSteps.auth (h : AdminSteps sys e sys' out) : sys'.auth = sys.auth := by
  cases h <;> rfl

theorem AdminSteps.not_client (h : AdminSteps sys e sys' out) (o : AuthOutput) :
    out ≠ some (.client o) := by
  cases h <;> simp

/-- The history of the broker along a history of logins. -/
abbrev authEvents (sys : LoginSystem) (es : List LoginEvent) : List AuthEvent :=
  Trace.outputs step authEvent? sys es

theorem authEvents_concat (sys : LoginSystem) (es : List LoginEvent) (e : LoginEvent) :
    sys.authEvents (es ++ [e]) = sys.authEvents es ++ ((sys.run es).authEvent? e).toList :=
  Trace.outputs_concat ..

/-- **Projection.** The broker's side of a run is the run of the broker. -/
theorem run_auth (sys : LoginSystem) (es : List LoginEvent) :
    (sys.run es).auth = sys.auth.run (sys.authEvents es) := by
  induction es using List.reverseRecOn with
  | nil => rfl
  | append_singleton es e ih =>
      rw [run_concat, authEvents_concat]
      rcases exec_eq (sys.run es) e with ⟨hnone, hstep, -⟩ | ⟨event, hevent, hstep, -⟩
      · rw [hnone, hstep, Option.toList_none, List.append_nil, ← ih]
        exact (execAdmin_steps (sys.run es) e).auth
      · rw [hevent, hstep, Option.toList_some, AuthSystem.run_concat, ← ih]

/-- What a history shows of the broker is what the broker shows. -/
theorem mem_outputs_client {sys : LoginSystem} {es : List LoginEvent} {o : AuthOutput} :
    .client o ∈ sys.outputs es ↔ o ∈ sys.auth.outputs (sys.authEvents es) := by
  induction es using List.reverseRecOn with
  | nil => simp
  | append_singleton es e ih =>
      rw [outputs_concat, authEvents_concat, List.mem_append, ih]
      rcases exec_eq (sys.run es) e with ⟨hnone, -, hout⟩ | ⟨event, hevent, -, hout⟩
      · have hclient := (execAdmin_steps (sys.run es) e).not_client o
        rw [hnone, hout, Option.toList_none, List.append_nil]
        exact or_iff_left (by simpa using hclient)
      · rw [hevent, hout, Option.toList_some, AuthSystem.outputs_concat, ← run_auth,
          List.mem_append]
        cases (sys.run es).auth.output event <;> simp

theorem drawn_of_authEvent {event : AuthEvent} (h : sys.authEvent? e = some event) :
    event.action.drawn.Sublist e.action.drawn := by
  unfold authEvent? at h
  split at h
  · exact absurd h (by simp)
  · next action _ he =>
      obtain rfl := Option.some.inj h
      rw [he]
      exact .refl _
  · split at h
    · obtain rfl := Option.some.inj h
      exact List.nil_sublist _
    · exact absurd h (by simp)
  · exact absurd h (by simp)

theorem authIDs_sublist (sys : LoginSystem) (es : List LoginEvent) :
    (authIDs (sys.authEvents es)).Sublist (loginIDs es) := by
  induction es using List.reverseRecOn with
  | nil => exact .refl _
  | append_singleton es e ih =>
      rw [authEvents_concat, loginIDs_concat]
      cases h : (sys.run es).authEvent? e with
      | none =>
          rw [Option.toList_none, List.append_nil]
          exact ih.trans (List.sublist_append_left _ _)
      | some event =>
          rw [Option.toList_some, authIDs_concat]
          exact ih.append (drawn_of_authEvent h)

theorem authIDsFresh {sys : LoginSystem} {es : List LoginEvent} (h : LoginIDsFresh es) :
    AuthIDsFresh (sys.authEvents es) := h.sublist (authIDs_sublist sys es)

end LoginSystem

/-! ### Ids are drawn once -/

/-- The output shows an id that has just been drawn. -/
def LoginOutput.draws (id : String) : LoginOutput → Bool
  | .client o => o.issues id || o.mints id
  | .adminStarted state => state == id
  | .adminMinted _ cookie => cookie == id
  | _ => false

/-- The output issues the state, to a login of either kind. -/
def LoginOutput.issues (state : String) : LoginOutput → Bool
  | .client o => o.issues state
  | .adminStarted s => s == state
  | _ => false

/-- The output starts an exchange for the state, for a login of either kind. -/
def LoginOutput.exchanges (state : String) : LoginOutput → Bool
  | .client o => o.exchanges state
  | .adminExchange s _ => s == state
  | _ => false

/-- The output draws the cookie. -/
def LoginOutput.mints (cookie : String) : LoginOutput → Bool
  | .adminMinted _ c => c == cookie
  | _ => false

/-- The output stores a session for the cookie. -/
def LoginOutput.creates (cookie : String) : LoginOutput → Bool
  | .adminSession _ c _ _ => c == cookie
  | _ => false

namespace LoginSystem

variable {sys sys' : LoginSystem} {e : LoginEvent} {out : Option LoginOutput}
  {b : AuthBroker} {es : List LoginEvent}

theorem AdminSteps.draws_le (h : AdminSteps sys e sys' out) (id : String) :
    out.toList.countP (LoginOutput.draws id) ≤ e.action.drawn.count id := by
  cases h with
  | issued i now state reply hdrawn =>
      rw [hdrawn]
      simp [List.countP_singleton, List.count_cons, LoginOutput.draws]
  | minted i request now token profile hi hadmin hdrawn =>
      rw [hdrawn]
      simp [List.countP_singleton, List.count_cons, LoginOutput.draws]
  | _ => simp [LoginOutput.draws]

theorem countP_draws_le (id : String) :
    ((LoginSystem.initial b).outputs es).countP (LoginOutput.draws id) ≤
      (loginIDs es).count id := by
  induction es using List.reverseRecOn with
  | nil => simp
  | append_singleton es e ih =>
      have hlast :
          (((LoginSystem.initial b).run es).output e).toList.countP (LoginOutput.draws id) ≤
            e.action.drawn.count id := by
        rcases exec_eq ((LoginSystem.initial b).run es) e with
          ⟨-, -, hout⟩ | ⟨event, hevent, -, hout⟩
        · rw [hout]
          exact (execAdmin_steps _ e).draws_le id
        · have hdrawn := (AuthSystem.exec_steps ((LoginSystem.initial b).run es).auth
            event).countP_drawn_le id
          have hsub := (drawn_of_authEvent hevent).count_le id
          rw [hout]
          cases hclient : ((LoginSystem.initial b).run es).auth.output event with
          | none => simp
          | some o =>
              simp only [hclient, Option.toList_some, List.countP_singleton] at hdrawn
              simp only [Option.map_some, Option.toList_some, List.countP_singleton,
                LoginOutput.draws]
              by_cases hissues : o.issues id = true
              · simp only [hissues, Bool.true_or, if_true] at hdrawn ⊢
                omega
              · rw [Bool.not_eq_true] at hissues
                simp only [hissues, Bool.false_or, Bool.false_eq_true, if_false] at hdrawn ⊢
                omega
      rw [outputs_concat, loginIDs_concat, List.countP_append, List.count_append]
      omega

/-- Two outputs that show the same drawn id are one. -/
theorem eq_of_draws (hids : LoginIDsFresh es) (id : String) {o o' : LoginOutput}
    (ho : o ∈ (LoginSystem.initial b).outputs es) (ho' : o' ∈ (LoginSystem.initial b).outputs es)
    (hid : o.draws id = true) (hid' : o'.draws id = true) : o = o' := by
  have hdraws := @countP_draws_le b es id
  have honce := List.nodup_iff_count_le_one.mp hids id
  exact eq_of_countP_le_one (le_trans hdraws honce) ho ho' hid hid'

/-! ### Where an admin session comes from -/

/-- The states of the admin side were issued to admin logins, and what is about to be
stored, or has been, is an admin's. -/
structure Issued (sys : LoginSystem) (outs : List LoginOutput) : Prop where
  pending : ∀ s x, sys.admin.pending.lookup s = some x → .adminStarted s ∈ outs
  exchanging : ∀ request now, .exchanging request now ∈ sys.requests →
    .adminStarted request.state ∈ outs
  storing : ∀ request now token profile, .storing request now token profile ∈ sys.requests →
    .adminStarted request.state ∈ outs ∧ profile.isAdmin = true
  session : ∀ s cookie profile c, .adminSession s cookie profile c ∈ outs →
    .adminStarted s ∈ outs ∧ profile.isAdmin = true

/-- A pending admin login is one from before, or has just started. -/
theorem AdminSteps.pending (h : AdminSteps sys e sys' out) {s : String} {x : Int}
    (hs : sys'.admin.pending.lookup s = some x) :
    (∃ x, sys.admin.pending.lookup s = some x) ∨ out = some (.adminStarted s) := by
  cases h with
  | swept admin arriving hadmin hpassive =>
      rcases hadmin with rfl | ⟨now, rfl⟩
      · exact .inl ⟨x, hs⟩
      · exact .inl ⟨x, (AdminAuth.cleanupLocked_pending.mp hs).1⟩
  | moved i t hpassive => exact .inl ⟨x, hs⟩
  | issued i now state reply hdrawn =>
      rw [GoMap.lookup_insert_eq] at hs
      split at hs
      · next heq => exact .inr (by rw [heq])
      · exact .inl ⟨x, (AdminAuth.cleanupLocked_pending.mp hs).1⟩
  | exchange now request expiresAt hnow hpending =>
      rw [GoMap.lookup_erase_eq] at hs
      split at hs
      · exact absurd hs (by simp)
      · exact .inl ⟨x, (AdminAuth.cleanupLocked_pending.mp hs).1⟩
  | refused now state reply =>
      rw [GoMap.lookup_erase_eq] at hs
      split at hs
      · exact absurd hs (by simp)
      · exact .inl ⟨x, (AdminAuth.cleanupLocked_pending.mp hs).1⟩
  | minted i request now token profile hi hadmin hdrawn => exact .inl ⟨x, hs⟩
  | stored i request now token profile reply hi => exact .inl ⟨x, hs⟩
  | loggedOut value => exact .inl ⟨x, hs⟩

/-- A thread that is not passive is one from before, or has just found its login, or has
just been given a token. -/
theorem AdminSteps.thread (h : AdminSteps sys e sys' out) {t : AdminThread}
    (ht : t ∈ sys'.requests) (hpassive : t.passive = false) :
    t ∈ sys.requests ∨
    (∃ request now x, t = .exchanging request now ∧ e.action.reading = some now ∧
      sys.admin.pending.lookup request.state = some x) ∨
    ∃ request now token profile, t = .storing request now token profile ∧
      .exchanging request now ∈ sys.requests ∧ profile.isAdmin = true := by
  have hset : ∀ {i : Nat} {u : AdminThread}, t ∈ sys.requests.set i u → u.passive = true →
      t ∈ sys.requests := by
    intro i u ht hu
    rcases List.mem_or_eq_of_mem_set ht with ht | rfl
    · exact ht
    · exact absurd hu (by simp [hpassive])
  cases h with
  | swept admin arriving hadmin harriving =>
      rcases List.mem_append.mp ht with ht | ht
      · exact .inl ht
      · exact absurd (harriving t ht) (by simp [hpassive])
  | moved i u hu => exact .inl (hset ht hu)
  | issued i now state reply hdrawn => exact .inl (hset ht rfl)
  | exchange now request expiresAt hnow hpending =>
      rcases List.mem_append.mp ht with ht | ht
      · exact .inl ht
      · exact .inr (.inl ⟨request, now, expiresAt, List.mem_singleton.mp ht, hnow,
          (AdminAuth.cleanupLocked_pending.mp hpending).1⟩)
  | refused now state reply =>
      rcases List.mem_append.mp ht with ht | ht
      · exact .inl ht
      · rw [List.mem_singleton.mp ht] at hpassive
        exact absurd hpassive (by simp [AdminThread.passive])
  | minted i request now token profile hi hadmin hdrawn =>
      rcases List.mem_or_eq_of_mem_set ht with ht | rfl
      · exact .inl ht
      · exact .inr (.inr ⟨request, now, token, profile, rfl, List.mem_of_getElem? hi, hadmin⟩)
  | stored i request now token profile reply hi => exact .inl (hset ht rfl)
  | loggedOut value => exact .inl ht

/-- A session is stored by a thread that was about to. -/
theorem AdminSteps.session (h : AdminSteps sys e sys' out) {s cookie : String}
    {profile : GilIDProfile} {c : Int} (hout : out = some (.adminSession s cookie profile c)) :
    ∃ request now, s = request.state ∧ c = e.instant ∧
      .storing request now cookie profile ∈ sys.requests := by
  cases h with
  | stored i request now token profile reply hi =>
      cases hout
      exact ⟨request, now, rfl, rfl, List.mem_of_getElem? hi⟩
  | _ => exact absurd hout (by simp)

/-- **Step lemma, origins.** -/
theorem Issued.adminStep {outs : List LoginOutput} (h : sys.Issued outs)
    (hsteps : AdminSteps sys e sys' out) : sys'.Issued (outs ++ out.toList) := by
  have hold : ∀ o ∈ outs, o ∈ outs ++ out.toList := fun o ho => List.mem_append_left _ ho
  constructor
  · intro s x hs
    rcases hsteps.pending hs with ⟨x, hx⟩ | hnew
    · exact hold _ (h.pending s x hx)
    · exact List.mem_append_right _ (by simp [hnew])
  · intro request now ht
    rcases hsteps.thread ht rfl with ht | ⟨request', now', x, heq, -, hx⟩ | ⟨_, _, _, _, heq, -⟩
    · exact hold _ (h.exchanging request now ht)
    · obtain ⟨rfl, rfl⟩ := AdminThread.exchanging.inj heq
      exact hold _ (h.pending _ x hx)
    · exact absurd heq (by simp)
  · intro request now token profile ht
    rcases hsteps.thread ht rfl with ht | ⟨_, _, _, heq, -⟩ | ⟨r, n, t, p, heq, ht, hadmin⟩
    · exact (h.storing request now token profile ht).imp_left (hold _)
    · exact absurd heq (by simp)
    · obtain ⟨rfl, rfl, rfl, rfl⟩ := AdminThread.storing.inj heq
      exact ⟨hold _ (h.exchanging request now ht), hadmin⟩
  · intro s cookie profile c hmem
    rcases List.mem_append.mp hmem with hmem | hmem
    · exact (h.session s cookie profile c hmem).imp_left (hold _)
    · obtain ⟨request, now, rfl, -, ht⟩ := hsteps.session (by simpa using hmem)
      exact (h.storing request now cookie profile ht).imp_left (hold _)

theorem Issued.mono {outs outs' : List LoginOutput} (h : sys.Issued outs) (hsub : outs ⊆ outs')
    (hsession : ∀ s cookie profile c, .adminSession s cookie profile c ∈ outs' →
      .adminSession s cookie profile c ∈ outs)
    (hadmin : sys'.admin = sys.admin) (hrequests : sys'.requests = sys.requests) :
    sys'.Issued outs' where
  pending := fun s x hs => hsub (h.pending s x (hadmin ▸ hs))
  exchanging := fun request now ht => hsub (h.exchanging request now (hrequests ▸ ht))
  storing := fun request now token profile ht =>
    (h.storing request now token profile (hrequests ▸ ht)).imp_left fun h => hsub h
  session := fun s cookie profile c hmem =>
    (h.session s cookie profile c (hsession s cookie profile c hmem)).imp_left fun h => hsub h

/-- **Run lemma, origins.** -/
theorem run_issued :
    ((LoginSystem.initial b).run es).Issued ((LoginSystem.initial b).outputs es) := by
  induction es using List.reverseRecOn with
  | nil => exact ⟨by simp [initial], by simp [initial], by simp [initial], by simp⟩
  | append_singleton es e ih =>
      rw [run_concat, outputs_concat]
      have hadmin := ih.adminStep (execAdmin_steps ((LoginSystem.initial b).run es) e)
      rcases exec_eq ((LoginSystem.initial b).run es) e with
        ⟨-, hstep, hout⟩ | ⟨event, hevent, hstep, hout⟩
      · rw [hstep, hout]
        exact hadmin
      · rw [execAdmin_of_authEvent hevent, Option.toList_none, List.append_nil] at hadmin
        rw [hstep, hout]
        refine hadmin.mono (List.subset_append_left _ _) (fun s cookie profile c hmem => ?_) rfl rfl
        rcases List.mem_append.mp hmem with hmem | hmem
        · exact hmem
        · cases hclient : ((LoginSystem.initial b).run es).auth.output event <;>
            simp [hclient] at hmem

/-! ### A state is exchanged once -/

/-- The places of a state that has not been exchanged, on either side. -/
def statePlaces (sys : LoginSystem) (state : String) : Nat :=
  sys.auth.statePlaces state + sys.admin.pending.count fun s _ => s == state

theorem AdminSteps.pending_count_le (h : AdminSteps sys e sys' out) (state : String) :
    out.toList.countP (LoginOutput.exchanges state) +
        sys'.admin.pending.count (fun s _ => s == state) ≤
      sys.admin.pending.count (fun s _ => s == state) +
        out.toList.countP (LoginOutput.issues state) := by
  have hclean : ∀ now, (sys.admin.cleanupLocked now).pending.count (fun s _ => s == state) ≤
      sys.admin.pending.count fun s _ => s == state :=
    fun _ => AdminAuth.cleanupLocked_count_pending _
  cases h with
  | swept admin arriving hadmin hpassive =>
      rcases hadmin with rfl | ⟨now, rfl⟩
      · simp
      · simpa using hclean now
  | moved i t hpassive => simp
  | issued i now s reply hdrawn =>
      have herase := GoMap.count_erase_le (p := fun s _ => s == state)
        (sys.admin.cleanupLocked now).pending s
      have := hclean now
      simp only [Option.toList_some, List.countP_singleton, GoMap.count_insert,
        LoginOutput.exchanges, LoginOutput.issues, Bool.false_eq_true, if_false]
      by_cases hs : (s == state) = true <;> simp only [hs, if_true] <;> omega
  | exchange now request expiresAt hnow hpending =>
      have herase := GoMap.count_erase (p := fun s _ => s == state) hpending
      have := hclean now
      simp only [Option.toList_some, List.countP_singleton, LoginOutput.exchanges,
        LoginOutput.issues, Bool.false_eq_true, if_false]
      by_cases hs : (request.state == state) = true <;>
        simp only [hs, if_true] at herase ⊢ <;> omega
  | refused now s reply =>
      have herase := GoMap.count_erase_le (p := fun s _ => s == state)
        (sys.admin.cleanupLocked now).pending s
      have := hclean now
      simp only [Option.toList_none, List.countP_nil]
      omega
  | minted i request now token profile hi hadmin hdrawn => simp [LoginOutput.exchanges]
  | stored i request now token profile reply hi =>
      simp [LoginOutput.exchanges, AdminAuth.storeSession]
  | loggedOut value => simp [AdminAuth.logout]

/-- **Step lemma, states.** -/
theorem step_statePlaces_le {ids : List String} (hsound : sys.auth.Sound ids)
    (hnonempty : "" ∉ ids) (e : LoginEvent) (state : String) :
    (sys.output e).toList.countP (LoginOutput.exchanges state) + (sys.step e).statePlaces state ≤
      sys.statePlaces state + (sys.output e).toList.countP (LoginOutput.issues state) := by
  have hadmin := (execAdmin_steps sys e).pending_count_le state
  have hauth := (execAdmin_steps sys e).auth
  unfold statePlaces
  rcases exec_eq sys e with ⟨-, hstep, hout⟩ | ⟨event, hevent, hstep, hout⟩
  · rw [hstep, hout, hauth]
    omega
  · have hclient := (AuthSystem.exec_steps sys.auth event).statePlaces_le hsound hnonempty state
    rw [execAdmin_of_authEvent hevent, Option.toList_none, List.countP_nil, List.countP_nil]
      at hadmin
    rw [hstep, hout]
    have hexchanges : ((sys.auth.output event).map LoginOutput.client).toList.countP
        (LoginOutput.exchanges state) =
          (sys.auth.output event).toList.countP (AuthOutput.exchanges state) := by
      cases sys.auth.output event <;> rfl
    have hissues : ((sys.auth.output event).map LoginOutput.client).toList.countP
        (LoginOutput.issues state) =
          (sys.auth.output event).toList.countP (AuthOutput.issues state) := by
      cases sys.auth.output event <;> rfl
    rw [hexchanges, hissues]
    dsimp only
    omega

/-- **Run lemma, states.** -/
theorem countP_exchanges_le (hids : LoginIDsFresh es) (state : String) :
    ((LoginSystem.initial b).outputs es).countP (LoginOutput.exchanges state) ≤ 1 := by
  have hplaces : ((LoginSystem.initial b).outputs es).countP (LoginOutput.exchanges state) +
      ((LoginSystem.initial b).run es).statePlaces state ≤
        (LoginSystem.initial b).statePlaces state +
          ((LoginSystem.initial b).outputs es).countP (LoginOutput.issues state) := by
    refine countP_outputs_le (statePlaces · state) _ _ fun pre e post hes => ?_
    have hids : LoginIDsFresh pre := by rw [hes] at hids; exact hids.append_left
    refine step_statePlaces_le ?_ (empty_not_mem_authIDs (authEvents (.initial b) pre)) e state
    rw [show Trace.run step (initial b) pre = run (.initial b) pre from rfl, run_auth]
    exact AuthSystem.run_sound b (authIDsFresh hids)
  have hissues : ((LoginSystem.initial b).outputs es).countP (LoginOutput.issues state) ≤
      ((LoginSystem.initial b).outputs es).countP (LoginOutput.draws state) := by
    refine List.countP_mono_left fun o _ ho => ?_
    cases o <;> simp_all [LoginOutput.issues, LoginOutput.draws]
  have hdraws := @countP_draws_le b es state
  have honce := List.nodup_iff_count_le_one.mp hids state
  rw [show (LoginSystem.initial b).statePlaces state = 0 from rfl] at hplaces
  omega

/-! ### How long a cookie lasts -/

/-- **Step lemma.** A cookie is stored by the thread that carries it. -/
theorem AdminSteps.creates_le (h : AdminSteps sys e sys' out) (cookie : String) :
    out.toList.countP (LoginOutput.creates cookie) +
        sys'.requests.countP (AdminThread.carries cookie) ≤
      sys.requests.countP (AdminThread.carries cookie) +
        out.toList.countP (LoginOutput.mints cookie) := by
  cases h with
  | swept admin arriving hadmin hpassive =>
      have hnone : arriving.countP (AdminThread.carries cookie) = 0 :=
        List.countP_eq_zero.mpr fun t ht => by
          simp [AdminThread.carries_of_passive (hpassive t ht)]
      simp only [Option.toList_none, List.countP_nil, List.countP_append]
      omega
  | moved i t hpassive =>
      simpa using Threads.countP_set_le (t.carries_of_passive hpassive cookie) sys.requests i
  | issued i now state reply hdrawn =>
      simpa [LoginOutput.creates, LoginOutput.mints] using Threads.countP_set_le
        (AdminThread.carries_of_passive (t := .answered reply) rfl cookie) sys.requests i
  | exchange now request expiresAt hnow hpending =>
      simp [LoginOutput.creates, AdminThread.carries]
  | refused now state reply => simp [AdminThread.carries]
  | minted i request now token profile hi hadmin hdrawn =>
      have hmove := Threads.countP_set_add hi (.storing request now token profile)
        (AdminThread.carries cookie)
      simp only [Option.toList_some, List.countP_singleton, LoginOutput.creates,
        LoginOutput.mints, AdminThread.carries, Bool.false_eq_true, if_false] at hmove ⊢
      by_cases ht : (token == cookie) = true <;> simp only [ht, if_true] at hmove ⊢ <;> omega
  | stored i request now token profile reply hi =>
      have hmove := Threads.countP_set_add hi (.answered reply) (AdminThread.carries cookie)
      simp only [Option.toList_some, List.countP_singleton, LoginOutput.creates,
        LoginOutput.mints, AdminThread.carries, Bool.false_eq_true, if_false] at hmove ⊢
      by_cases ht : (token == cookie) = true <;> simp only [ht, if_true] at hmove ⊢ <;> omega
  | loggedOut value => simp

/-- **Run lemma.** -/
theorem countP_creates_le (hids : LoginIDsFresh es) (cookie : String) :
    ((LoginSystem.initial b).outputs es).countP (LoginOutput.creates cookie) ≤ 1 := by
  have hplaces : ((LoginSystem.initial b).outputs es).countP (LoginOutput.creates cookie) +
      ((LoginSystem.initial b).run es).requests.countP (AdminThread.carries cookie) ≤
        (LoginSystem.initial b).requests.countP (AdminThread.carries cookie) +
          ((LoginSystem.initial b).outputs es).countP (LoginOutput.mints cookie) := by
    refine countP_outputs_le (fun sys : LoginSystem => sys.requests.countP
      (AdminThread.carries cookie)) _ _ fun pre e post _ => ?_
    have hadmin := (execAdmin_steps (Trace.run step (.initial b) pre) e).creates_le cookie
    rcases exec_eq (Trace.run step (.initial b) pre) e with
      ⟨-, hstep, hout⟩ | ⟨event, hevent, hstep, hout⟩
    · rw [hstep, hout]
      exact hadmin
    · rw [execAdmin_of_authEvent hevent, Option.toList_none, List.countP_nil,
        List.countP_nil] at hadmin
      rw [hstep, hout]
      cases (Trace.run step (.initial b) pre).auth.output event <;>
        simpa [LoginOutput.creates, LoginOutput.mints] using hadmin
  have hmints : ((LoginSystem.initial b).outputs es).countP (LoginOutput.mints cookie) ≤
      ((LoginSystem.initial b).outputs es).countP (LoginOutput.draws cookie) := by
    refine List.countP_mono_left fun o _ ho => ?_
    cases o <;> simp_all [LoginOutput.mints, LoginOutput.draws]
  have hdraws := @countP_draws_le b es cookie
  have honce := List.nodup_iff_count_le_one.mp hids cookie
  rw [show (LoginSystem.initial b).requests.countP (AdminThread.carries cookie) = 0 from rfl]
    at hplaces
  omega

/-- A session is one from before, or has just been stored, to last for twelve hours from
the reading that the thread took when it arrived. -/
theorem AdminSteps.sessions (h : AdminSteps sys e sys' out) {k : String} {session : AdminSession}
    (hk : sys'.admin.sessions.lookup k = some session) :
    sys.admin.sessions.lookup k = some session ∨
    ∃ request now cookie profile,
      out = some (.adminSession request.state cookie profile e.instant) ∧ k = tokenHash cookie ∧
      .storing request now cookie profile ∈ sys.requests ∧
      session.expiresAt = now + coordinatorSessionLifetime := by
  cases h with
  | swept admin arriving hadmin hpassive =>
      rcases hadmin with rfl | ⟨now, rfl⟩
      · exact .inl hk
      · exact .inl (AdminAuth.cleanupLocked_sessions.mp hk).1
  | moved i t hpassive => exact .inl hk
  | issued i now state reply hdrawn => exact .inl (AdminAuth.cleanupLocked_sessions.mp hk).1
  | exchange now request expiresAt hnow hpending =>
      exact .inl (AdminAuth.cleanupLocked_sessions.mp hk).1
  | refused now state reply => exact .inl (AdminAuth.cleanupLocked_sessions.mp hk).1
  | minted i request now token profile hi hadmin hdrawn => exact .inl hk
  | stored i request now token profile reply hi =>
      simp only [AdminAuth.storeSession, GoMap.lookup_insert_eq] at hk
      split at hk
      · next heq =>
          obtain rfl := Option.some.inj hk
          exact .inr ⟨request, now, token, profile, rfl, heq, List.mem_of_getElem? hi, rfl⟩
      · exact .inl hk
  | loggedOut value =>
      simp only [AdminAuth.logout, GoMap.lookup_erase_eq] at hk
      split at hk
      · exact absurd hk (by simp)
      · exact .inl hk

/-- Every session was stored for its cookie, and ends at most twelve hours after that. -/
structure AdminSessions (sys : LoginSystem) (es : List LoginEvent) (outs : List LoginOutput) :
    Prop where
  exchanging : ∀ request now, .exchanging request now ∈ sys.requests → ∃ e ∈ es, now ≤ e.instant
  storing : ∀ request now token profile, .storing request now token profile ∈ sys.requests →
    ∃ e ∈ es, now ≤ e.instant
  session : ∀ k session, sys.admin.sessions.lookup k = some session →
    ∃ s cookie profile c, k = tokenHash cookie ∧ .adminSession s cookie profile c ∈ outs ∧
      session.expiresAt ≤ c + coordinatorSessionLifetime

/-- **Step lemma, sessions.** -/
theorem AdminSessions.adminStep {outs : List LoginOutput} (h : sys.AdminSessions es outs)
    (hclock : LoginClock (es ++ [e])) (hsteps : AdminSteps sys e sys' out) :
    sys'.AdminSessions (es ++ [e]) (outs ++ out.toList) := by
  have hold : ∀ {now : Int}, (∃ e' ∈ es, now ≤ e'.instant) →
      ∃ e' ∈ es ++ [e], now ≤ e'.instant := by
    intro now hnow
    obtain ⟨e', he', hle⟩ := hnow
    exact ⟨e', List.mem_append_left _ he', hle⟩
  constructor
  · intro request now ht
    rcases hsteps.thread ht rfl with ht | ⟨request', now', x, heq, hnow, -⟩ | ⟨_, _, _, _, heq, -⟩
    · exact hold (h.exchanging request now ht)
    · obtain ⟨rfl, rfl⟩ := AdminThread.exchanging.inj heq
      exact ⟨e, by simp, hclock.reads e (by simp) now hnow⟩
    · exact absurd heq (by simp)
  · intro request now token profile ht
    rcases hsteps.thread ht rfl with ht | ⟨_, _, _, heq, -⟩ | ⟨r, n, t, p, heq, ht, -⟩
    · exact hold (h.storing request now token profile ht)
    · exact absurd heq (by simp)
    · obtain ⟨rfl, rfl, rfl, rfl⟩ := AdminThread.storing.inj heq
      exact hold (h.exchanging request now ht)
  · intro k session hk
    rcases hsteps.sessions hk with hk | ⟨request, now, cookie, profile, hout, hkey, ht, hexpires⟩
    · obtain ⟨s, cookie, profile, c, hkey, hmem, hle⟩ := h.session k session hk
      exact ⟨s, cookie, profile, c, hkey, List.mem_append_left _ hmem, hle⟩
    · refine ⟨request.state, cookie, profile, e.instant, hkey, ?_, ?_⟩
      · exact List.mem_append_right _ (by simp [hout])
      · obtain ⟨e', he', hle⟩ := h.storing request now cookie profile ht
        have := hclock.le_last he'
        rw [hexpires]
        omega

/-- **Run lemma, sessions.** -/
theorem run_adminSessions (hclock : LoginClock es) :
    ((LoginSystem.initial b).run es).AdminSessions es ((LoginSystem.initial b).outputs es) := by
  induction es using List.reverseRecOn with
  | nil => exact ⟨by simp [initial], by simp [initial], by simp [initial]⟩
  | append_singleton es e ih =>
      have hadmin := (ih hclock.append_left).adminStep hclock
        (execAdmin_steps ((LoginSystem.initial b).run es) e)
      rw [run_concat, outputs_concat]
      rcases exec_eq ((LoginSystem.initial b).run es) e with
        ⟨-, hstep, hout⟩ | ⟨event, hevent, hstep, hout⟩
      · rw [hstep, hout]
        exact hadmin
      · rw [execAdmin_of_authEvent hevent, Option.toList_none, List.append_nil] at hadmin
        rw [hstep]
        refine ⟨hadmin.exchanging, hadmin.storing, fun k session hk => ?_⟩
        obtain ⟨s, cookie, profile, c, hkey, hmem, hle⟩ := hadmin.session k session hk
        exact ⟨s, cookie, profile, c, hkey, List.mem_append_left _ hmem, hle⟩

/-- A cookie whose session is gone does not get another one: it was stored already. -/
theorem step_gone (hids : LoginIDsFresh (es ++ [e])) {s cookie : String} {profile : GilIDProfile}
    {c : Int} (hcreated : .adminSession s cookie profile c ∈ (LoginSystem.initial b).outputs es)
    (hinj : Set.InjOn tokenHash {v | ∃ s p c, .adminSession s v p c ∈
      (LoginSystem.initial b).outputs (es ++ [e])})
    (hgone : ((LoginSystem.initial b).run es).admin.sessions.lookup (tokenHash cookie) = none) :
    ((LoginSystem.initial b).run (es ++ [e])).admin.sessions.lookup (tokenHash cookie) = none := by
  have honce := countP_creates_le (b := b) hids cookie
  rw [outputs_concat] at hinj honce
  rw [run_concat]
  refine Option.eq_none_iff_forall_ne_some.mpr fun session hk => ?_
  have hsteps := execAdmin_steps ((LoginSystem.initial b).run es) e
  rcases exec_eq ((LoginSystem.initial b).run es) e with
    ⟨-, hstep, hout⟩ | ⟨event, hevent, hstep, -⟩
  · rw [hstep] at hk
    rcases hsteps.sessions hk with hk | ⟨request, now, cookie', profile', hnew, hkey, -, -⟩
    · exact absurd (hgone.symm.trans hk) (by simp)
    · rw [hout, hnew] at hinj honce
      obtain rfl : cookie = cookie' := hinj ⟨s, profile, c, List.mem_append_left _ hcreated⟩
        ⟨request.state, profile', e.instant, List.mem_append_right _ (by simp)⟩ hkey
      have hpos : 0 < ((LoginSystem.initial b).outputs es).countP (LoginOutput.creates cookie) :=
        List.countP_pos_iff.mpr ⟨_, hcreated, by simp [LoginOutput.creates]⟩
      rw [List.countP_append, Option.toList_some, List.countP_singleton,
        if_pos (by simp [LoginOutput.creates])] at honce
      omega
  · rw [hstep] at hk
    rcases hsteps.sessions hk with hk | ⟨request, now, cookie', profile', hnew, -⟩
    · exact absurd (hgone.symm.trans hk) (by simp)
    · exact absurd hnew (by simp [execAdmin_of_authEvent hevent])

theorem mem_outputs_append {sys : LoginSystem} {es es' : List LoginEvent} {o : LoginOutput}
    (ho : o ∈ sys.outputs es) : o ∈ sys.outputs (es ++ es') := by
  rw [outputs, Trace.outputs_append]
  exact List.mem_append_left _ ho

/-- **Run lemma, logging out.** -/
theorem run_gone {before after : List LoginEvent} (hids : LoginIDsFresh (before ++ e :: after))
    {s cookie : String} {profile : GilIDProfile} {c : Int} (he : e.action = .logout (some cookie))
    (hcreated : .adminSession s cookie profile c ∈ (LoginSystem.initial b).outputs before)
    (hinj : Set.InjOn tokenHash {v | ∃ s p c, .adminSession s v p c ∈
      (LoginSystem.initial b).outputs (before ++ e :: after)}) :
    ((LoginSystem.initial b).run (before ++ e :: after)).admin.sessions.lookup
      (tokenHash cookie) = none := by
  induction after using List.reverseRecOn with
  | nil =>
      rw [run_concat, step, exec, show authEvent? _ e = none by simp [authEvent?, he]]
      simp only [execAdmin, he, AdminAuth.logout]
      exact AList.lookup_erase _ _
  | append_singleton after e' ih =>
      rw [← List.cons_append, ← List.append_assoc] at hids hinj ⊢
      refine step_gone hids (mem_outputs_append hcreated) hinj (ih hids.append_left (hinj.mono ?_))
      intro v hv
      obtain ⟨s, p, c, hv⟩ := hv
      exact ⟨s, p, c, mem_outputs_append hv⟩

/-- A cookie that authenticates was stored less than twelve hours ago. -/
theorem authenticate_recent (hclock : LoginClock es) (hids : LoginIDsFresh es)
    {s cookie : String} {profile : GilIDProfile} {c now : Int}
    (hcreated : .adminSession s cookie profile c ∈ (LoginSystem.initial b).outputs es)
    (hinj : Set.InjOn tokenHash {v | ∃ s p c, .adminSession s v p c ∈
      (LoginSystem.initial b).outputs es}) {session : AdminSession}
    (hk : ((LoginSystem.initial b).run es).admin.sessions.lookup (tokenHash cookie) = some session)
    (hlive : now < session.expiresAt) : now < c + coordinatorSessionLifetime := by
  obtain ⟨s', cookie', profile', c', hkey, hmem, hle⟩ :=
    (run_adminSessions hclock).session _ session hk
  obtain rfl : cookie = cookie' := hinj ⟨s, profile, c, hcreated⟩ ⟨s', profile', c', hmem⟩ hkey
  have heq := eq_of_countP_le_one (countP_creates_le hids cookie) hcreated hmem
    (by simp [LoginOutput.creates]) (by simp [LoginOutput.creates])
  obtain ⟨-, -, -, rfl⟩ := LoginOutput.adminSession.inj heq
  exact lt_of_lt_of_le hlive hle

end LoginSystem

open LoginSystem in
/-- **Separate logins.** Along every history of critical sections of both kinds of login,
a state of a client login stores no admin session, a state of an admin login gets no
client token or session, only admins get an admin session, and a state is exchanged at
most once. A cookie authenticates neither twelve hours after its session was stored, nor
once it has been logged out. -/
theorem logins_stay_separate (b : AuthBroker) {es : List LoginEvent} (hids : LoginIDsFresh es) :
    let outs := (LoginSystem.initial b).outputs es
    (∀ requestID s, .client (.started requestID s) ∈ outs →
      ∀ cookie profile c, .adminSession s cookie profile c ∉ outs) ∧
    (∀ s, .adminStarted s ∈ outs →
      (∀ token, .client (.minted s token) ∉ outs) ∧
      ∀ token profile c, .client (.stored s token profile c) ∉ outs) ∧
    (∀ s cookie profile c, .adminSession s cookie profile c ∈ outs → profile.isAdmin = true) ∧
    (∀ s, outs.countP (LoginOutput.exchanges s) ≤ 1) ∧
    (LoginClock es →
      Set.InjOn tokenHash {v | ∃ s p c, .adminSession s v p c ∈ outs} →
      ∀ s cookie profile c, .adminSession s cookie profile c ∈ outs → ∀ now,
        (c + coordinatorSessionLifetime ≤ now ∨
          ∃ before e after, es = before ++ e :: after ∧ e.action = .logout (some cookie) ∧
            .adminSession s cookie profile c ∈ (LoginSystem.initial b).outputs before) →
        (((LoginSystem.initial b).run es).admin.authenticate (some cookie) now).2 = none) := by
  intro outs
  have hserved : ∀ s, .adminStarted s ∈ outs → ∀ o, .client o ∈ outs → o.served? ≠ some s := by
    intro s hs o ho hserved
    obtain ⟨r, hr⟩ := AuthSystem.started_of_served (authIDsFresh hids)
      (mem_outputs_client.mp ho) hserved
    have heq := eq_of_draws hids s hs (mem_outputs_client.mpr hr)
      (by simp [LoginOutput.draws]) (by simp [LoginOutput.draws, AuthOutput.issues])
    exact absurd heq (by simp)
  refine ⟨?_, ?_, ?_, countP_exchanges_le hids, ?_⟩
  · intro requestID s hs cookie profile c hsession
    have hstarted := (run_issued.session s cookie profile c hsession).1
    have heq := eq_of_draws hids s hs hstarted
      (by simp [LoginOutput.draws, AuthOutput.issues]) (by simp [LoginOutput.draws])
    exact absurd heq (by simp)
  · intro s hs
    exact ⟨fun token h => hserved s hs _ h rfl, fun token profile c h => hserved s hs _ h rfl⟩
  · intro s cookie profile c hsession
    exact (run_issued.session s cookie profile c hsession).2
  · intro hclock hinj s cookie profile c hcreated now hover
    refine Option.eq_none_iff_forall_ne_some.mpr fun admin hadmin => ?_
    obtain ⟨session, hk, hlive⟩ := AdminAuth.authenticate_eq_some hadmin
    rcases hover with hold | ⟨before, e, after, rfl, he, hbefore⟩
    · exact absurd (authenticate_recent hclock hids hcreated hinj hk hlive) (not_lt.mpr hold)
    · exact absurd ((run_gone hids he hbefore hinj).symm.trans hk) (by simp)

/-- An admin login that starts at time zero, is completed, and is logged out again. -/
def testAdminLogin : List LoginEvent :=
  [⟨0, .adminStart 0 none⟩,
    ⟨0, .adminIssue 0 0 (some (testBytes 1))⟩,
    ⟨1, .oauthCallback 1 ⟨randomID (testBytes 1), "valid-code", ""⟩⟩,
    ⟨2, .adminExchanged 1 (.response 200 (some "gilid-access-token"))
      (.response 200 (some { testProfile with isAdmin := true })) (some (testBytes 2))⟩,
    ⟨3, .adminStore 1⟩,
    ⟨4, .logout (some (randomID (testBytes 2)))⟩]

/-- The cookie of the tests is sent again after its session has been logged out. -/
theorem logins_stay_separate_logged_out :
    (((LoginSystem.initial testBroker).run testAdminLogin).admin.authenticate
      (some (randomID (testBytes 2))) 5).2 = none := by
  have houts : (LoginSystem.initial testBroker).outputs testAdminLogin =
      [.adminStarted (randomID (testBytes 1)),
        .adminExchange (randomID (testBytes 1)) (testBroker.tokenRequest "valid-code"),
        .adminMinted (randomID (testBytes 1)) (randomID (testBytes 2)),
        .adminSession (randomID (testBytes 1)) (randomID (testBytes 2))
          { testProfile with isAdmin := true } 3] := by
    decide +kernel
  refine (logins_stay_separate testBroker (by decide)).2.2.2.2 ⟨by decide, by decide⟩ ?_
    (randomID (testBytes 1)) (randomID (testBytes 2)) { testProfile with isAdmin := true } 3
    (by rw [houts]; simp) 5 (.inr ⟨testAdminLogin.take 5, _, [], rfl, rfl, by decide +kernel⟩)
  have honly : ∀ v, (∃ s p c, .adminSession s v p c ∈
      (LoginSystem.initial testBroker).outputs testAdminLogin) → v = randomID (testBytes 2) := by
    rw [houts]
    intro v hv
    obtain ⟨s, p, c, hv⟩ := hv
    simp only [List.mem_cons, LoginOutput.adminSession.injEq, List.not_mem_nil, reduceCtorEq,
      false_or, or_false] at hv
    exact hv.2.1
  exact fun v hv v' hv' _ => (honly v hv).trans (honly v' hv').symm

end GilStreaming.Coordinator
