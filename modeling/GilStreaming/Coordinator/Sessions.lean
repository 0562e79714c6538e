import GilStreaming.Coordinator.LoginSecrets
import Mathlib.Data.Set.Function

/-!
# GilStreaming.Coordinator.Sessions

A token authenticates for twelve hours, and nothing else ever does.

The sessions are kept by the hash of their token and swept by whoever calls
`cleanupLocked`, with a reading of the clock that may be older than the sweep. So what
is left of them is described by the readings of the sweeps so far
(`AuthSystem.SessionsSound`): a session is there exactly when it was stored and none of
these readings had reached its expiry. That a token is stored once, which keeps one
session from replacing another, is counted as in
`GilStreaming.Coordinator.LoginSecrets`.
-/

namespace GilStreaming.Coordinator

open GilStreaming.Trace

/-! ### Sessions that are created -/

/-- The token, the owner and the instant of the session that a step stores. -/
def AuthOutput.session? : AuthOutput → Option (String × String × Int)
  | .stored _ token profile instant => some (token, profile.id, instant)
  | .devSession token owner instant => some (token, owner, instant)
  | _ => none

/-- The output stores a session for the token. -/
def AuthOutput.creates (token : String) : AuthOutput → Bool
  | .stored _ t _ _ => t == token
  | .devSession t _ _ => t == token
  | _ => false

/-- The output draws the token, for a `Callback` or for `DevLogin`. -/
def AuthOutput.draws (token : String) : AuthOutput → Bool
  | .minted _ t => t == token
  | .devSession t _ _ => t == token
  | _ => false

/-- `token` was created for `owner` at `instant`, by a `Callback` that stored a session
for a profile with that id, or by `DevLogin`. -/
def Created (outs : List AuthOutput) (token owner : String) (instant : Int) : Prop :=
  (∃ state profile, .stored state token profile instant ∈ outs ∧ profile.id = owner) ∨
    .devSession token owner instant ∈ outs

theorem created_iff {outs : List AuthOutput} {token owner : String} {instant : Int} :
    Created outs token owner instant ↔ ∃ o ∈ outs, o.session? = some (token, owner, instant) := by
  constructor
  · intro h
    rcases h with ⟨state, profile, hmem, rfl⟩ | hmem
    · exact ⟨_, hmem, rfl⟩
    · exact ⟨_, hmem, rfl⟩
  · intro h
    obtain ⟨o, hmem, ho⟩ := h
    cases o with
    | stored state t profile c =>
        obtain ⟨rfl, hrest⟩ := Prod.mk.injEq .. ▸ Option.some.inj ho
        obtain ⟨rfl, rfl⟩ := Prod.mk.injEq .. ▸ hrest
        exact .inl ⟨state, profile, hmem, rfl⟩
    | devSession t o c =>
        obtain ⟨rfl, hrest⟩ := Prod.mk.injEq .. ▸ Option.some.inj ho
        obtain ⟨rfl, rfl⟩ := Prod.mk.injEq .. ▸ hrest
        exact .inr hmem
    | _ => exact absurd ho (by simp [AuthOutput.session?])

theorem AuthOutput.creates_of_session {o : AuthOutput} {token owner : String} {instant : Int}
    (h : o.session? = some (token, owner, instant)) : o.creates token = true := by
  cases o <;> simp_all [session?, creates]

theorem Created.append_left {outs outs' : List AuthOutput} {token owner : String} {instant : Int}
    (h : Created outs token owner instant) : Created (outs ++ outs') token owner instant := by
  obtain ⟨o, ho, hsession⟩ := created_iff.mp h
  exact created_iff.mpr ⟨o, List.mem_append_left _ ho, hsession⟩

/-- The sessions created after a step are those from before and the one of the step. -/
theorem created_concat {outs : List AuthOutput} {out : Option AuthOutput} {token owner : String}
    {instant : Int} : Created (outs ++ out.toList) token owner instant ↔
      Created outs token owner instant ∨
        out.bind AuthOutput.session? = some (token, owner, instant) := by
  rw [created_iff, created_iff]
  cases out with
  | none => simp
  | some o => simp [or_and_right, exists_or]

/-- An owner is that of a session which has not expired. -/
theorem AuthBroker.authenticateToken_eq {b : AuthBroker} {token owner : String} {now : Int}
    (howner : owner ≠ "") (h : (b.authenticateToken token now).2 = owner) :
    ∃ session, b.sessions.lookup (tokenHash token) = some session ∧ session.owner = owner ∧
      now < session.expiresAt := by
  unfold AuthBroker.authenticateToken at h
  dsimp only at h
  cases hk : (b.cleanupLocked now).sessions.lookup (tokenHash token) with
  | none =>
      rw [hk] at h
      exact absurd h.symm howner
  | some session =>
      rw [hk] at h
      obtain ⟨hk, hlive⟩ := AuthBroker.cleanupLocked_sessions.mp hk
      exact ⟨session, hk, by rw [← h]; exact (if_pos hlive).symm, hlive⟩

theorem AuthBroker.authenticateToken_of_session {b : AuthBroker} {token : String} {now : Int}
    {session : CoordinatorSession} (hk : b.sessions.lookup (tokenHash token) = some session)
    (hlive : now < session.expiresAt) : (b.authenticateToken token now).2 = session.owner := by
  unfold AuthBroker.authenticateToken
  dsimp only
  rw [AuthBroker.cleanupLocked_sessions.mpr ⟨hk, hlive⟩]
  exact if_pos hlive

namespace AuthSystem

variable {sys sys' : AuthSystem} {e : AuthEvent} {out : Option AuthOutput} {b : AuthBroker}
  {es : List AuthEvent}

/-! ### A token is stored once -/

/-- **Step lemma.** -/
theorem Steps.creates_le (h : sys.Steps e sys' out) (token : String) :
    out.toList.countP (AuthOutput.creates token) +
        sys'.callbacks.countP (CallbackThread.carries token) ≤
      sys.callbacks.countP (CallbackThread.carries token) +
        out.toList.countP (AuthOutput.draws token) := by
  cases h with
  | unknown request requestID => simp [CallbackThread.carries, CallbackStage.token?]
  | consumed request pending hpending => simp [CallbackThread.carries, CallbackStage.token?]
  | givesUp i t stage hi hpast hactive =>
      have hmove := countP_advance_le hi stage (CallbackThread.carries token)
        (by simp [CallbackThread.carries, CallbackStage.past_token hpast])
      simpa using hmove
  | exchange i t hi hwaiting =>
      have hmove := countP_advance_le hi .exchanging (CallbackThread.carries token)
        (by simp [CallbackThread.carries, CallbackStage.token?])
      simpa [AuthOutput.creates, AuthOutput.draws] using hmove
  | minted i t token' profile hi hstage hdrawn htoken' hprofile =>
      have hmove := countP_advance hi (.storing token' profile) (CallbackThread.carries token)
      rw [show CallbackThread.carries token { t with stage := .storing token' profile } =
        (token' == token) from rfl] at hmove
      simp only [Option.toList_some, List.countP_singleton, AuthOutput.creates,
        AuthOutput.draws, Bool.false_eq_true, if_false]
      by_cases ht : (token' == token) = true <;> simp only [ht, if_true] at hmove ⊢ <;> omega
  | failed i t message reply hi hstage =>
      have hmove := countP_advance_le hi (.answered reply) (CallbackThread.carries token)
        (by simp [CallbackThread.carries, CallbackStage.token?])
      simpa using hmove
  | stored i t token' profile current hi hstage hpending =>
      have hmove := countP_advance hi (.answered CallbackThread.signedIn)
        (CallbackThread.carries token)
      rw [show t.carries token = (token' == token) by rw [CallbackThread.carries, hstage]; rfl,
        show CallbackThread.carries token { t with stage := .answered CallbackThread.signedIn } =
          false from rfl] at hmove
      simp only [Bool.false_eq_true, if_false] at hmove
      simp only [Option.toList_some, List.countP_singleton, AuthOutput.creates,
        AuthOutput.draws, Bool.false_eq_true, if_false]
      by_cases ht : (token' == token) = true <;> simp only [ht, if_true] at hmove ⊢ <;> omega
  | devSession token' deviceID hdev hdrawn =>
      simp only [Option.toList_some, List.countP_singleton, AuthOutput.creates, AuthOutput.draws]
      by_cases ht : (token' == token) = true <;> simp only [ht, if_true] <;> omega
  | _ => simp [AuthOutput.creates]

theorem Steps.draws_le (h : sys.Steps e sys' out) (token : String) :
    out.toList.countP (AuthOutput.draws token) ≤ e.action.drawn.count token := by
  cases h with
  | minted i t token' profile hi hstage hdrawn htoken' hprofile =>
      rw [hdrawn]
      simp [List.countP_singleton, List.count_cons, AuthOutput.draws]
  | devSession token' deviceID hdev hdrawn =>
      rw [hdrawn]
      simp [List.countP_singleton, List.count_cons, AuthOutput.draws]
  | _ => simp [AuthOutput.draws]

/-- **Run lemma.** -/
theorem countP_creates_le (hids : AuthIDsFresh es) (token : String) :
    ((AuthSystem.initial b).outputs es).countP (AuthOutput.creates token) ≤ 1 := by
  have hplaces : ((AuthSystem.initial b).outputs es).countP (AuthOutput.creates token) +
      ((AuthSystem.initial b).run es).callbacks.countP (CallbackThread.carries token) ≤
        (AuthSystem.initial b).callbacks.countP (CallbackThread.carries token) +
          ((AuthSystem.initial b).outputs es).countP (AuthOutput.draws token) :=
    countP_outputs_le (fun sys : AuthSystem => sys.callbacks.countP (CallbackThread.carries token))
      _ _ fun _ e _ _ => (exec_steps _ e).creates_le token
  have hdraws : ∀ es, ((AuthSystem.initial b).outputs es).countP (AuthOutput.draws token) ≤
      (authIDs es).count token := by
    intro es
    induction es using List.reverseRecOn with
    | nil => simp
    | append_singleton es e ih =>
        have := (exec_steps ((AuthSystem.initial b).run es) e).draws_le token
        rw [outputs_concat, authIDs_concat, List.countP_append, List.count_append]
        omega
  have honce := List.nodup_iff_count_le_one.mp hids token
  have := hdraws es
  rw [show (AuthSystem.initial b).callbacks.countP (CallbackThread.carries token) = 0 from rfl]
    at hplaces
  omega

/-! ### What is left of the sessions -/

/-- What a step does to the sessions: nothing, a sweep with the reading it took, or one
more session. -/
theorem Steps.sessions (h : sys.Steps e sys' out) :
    (out.bind AuthOutput.session? = none ∧ sys'.broker.sessions = sys.broker.sessions) ∨
    (out.bind AuthOutput.session? = none ∧ ∃ now, e.action.reading = some now ∧
      sys'.broker.sessions = (sys.broker.cleanupLocked now).sessions) ∨
    ∃ token session, out.bind AuthOutput.session? = some (token, session.owner, e.instant) ∧
      session.expiresAt = e.instant + coordinatorSessionLifetime ∧
      sys'.broker.sessions = sys.broker.sessions.insert (tokenHash token) session := by
  cases h with
  | idle => exact .inl ⟨rfl, rfl⟩
  | cleaned now hnow => exact .inr (.inl ⟨rfl, now, hnow, rfl⟩)
  | started now deviceID deviceName requestID state hnow hdrawn =>
      exact .inr (.inl ⟨rfl, now, hnow, rfl⟩)
  | reported now requestID pending hnow hpending herror =>
      exact .inr (.inl ⟨rfl, now, hnow, rfl⟩)
  | returned now requestID pending hnow hpending hclean htoken =>
      exact .inr (.inl ⟨rfl, now, hnow, rfl⟩)
  | unknown request requestID => exact .inl ⟨rfl, rfl⟩
  | consumed request pending hpending => exact .inl ⟨rfl, rfl⟩
  | givesUp i t stage hi hpast hactive => exact .inl ⟨rfl, rfl⟩
  | exchange i t hi hwaiting => exact .inl ⟨rfl, rfl⟩
  | minted i t token profile hi hstage hdrawn htoken hprofile => exact .inl ⟨rfl, rfl⟩
  | failed i t message reply hi hstage =>
      refine .inl ⟨rfl, ?_⟩
      simp only [AuthBroker.failPending]
      split <;> rfl
  | stored i t token profile current hi hstage hpending =>
      exact .inr (.inr ⟨token, ⟨profile.id, profile, _⟩, rfl, rfl, rfl⟩)
  | devSession token deviceID hdev hdrawn =>
      exact .inr (.inr ⟨token, ⟨"dev:" ++ deviceID, _, _⟩, rfl, rfl, rfl⟩)

/-- `swept` are the readings of the sweeps so far: the sessions that are left are those
that were created and had expired at none of them. -/
structure SessionsSound (sys : AuthSystem) (es : List AuthEvent) (outs : List AuthOutput)
    (swept : List Int) : Prop where
  swept_le : ∀ now ∈ swept, ∃ e ∈ es, now ≤ e.instant
  stored : ∀ k session, sys.broker.sessions.lookup k = some session →
    ∃ token instant, k = tokenHash token ∧ Created outs token session.owner instant ∧
      session.expiresAt = instant + coordinatorSessionLifetime ∧
      ∀ now ∈ swept, now < session.expiresAt
  kept : ∀ token owner instant, Created outs token owner instant →
    (∀ now ∈ swept, now < instant + coordinatorSessionLifetime) →
    ∃ session, sys.broker.sessions.lookup (tokenHash token) = some session ∧
      session.owner = owner ∧ session.expiresAt = instant + coordinatorSessionLifetime

/-- **Step lemma.** -/
theorem SessionsSound.step {outs : List AuthOutput} {swept : List Int}
    (h : sys.SessionsSound es outs swept) (hclock : AuthClock (es ++ [e]))
    (honce : ∀ token, (outs ++ (sys.output e).toList).countP (AuthOutput.creates token) ≤ 1)
    (hinj : Set.InjOn tokenHash
      {t | ∃ owner c, Created (outs ++ (sys.output e).toList) t owner c}) :
    ∃ swept', (sys.step e).SessionsSound (es ++ [e]) (outs ++ (sys.output e).toList) swept' := by
  have hswept : ∀ now ∈ swept, ∃ e' ∈ es ++ [e], now ≤ e'.instant := fun now hnow => by
    obtain ⟨e', he', hle⟩ := h.swept_le now hnow
    exact ⟨e', List.mem_append_left _ he', hle⟩
  have hsteps := sys.exec_steps e
  generalize sys.step e = sys' at hsteps
  generalize sys.output e = out at hsteps honce hinj
  rcases hsteps.sessions with ⟨hnone, hsame⟩ | ⟨hnone, now, hnow, hclean⟩ |
    ⟨token, session, hcreated, hexpires, hinsert⟩
  · -- nothing happens to the sessions
    refine ⟨swept, hswept, fun k session hk => ?_, fun token owner c hc hlive => ?_⟩
    · rw [hsame] at hk
      obtain ⟨token, c, hkey, hc, hrest⟩ := h.stored k session hk
      exact ⟨token, c, hkey, hc.append_left, hrest⟩
    · rw [hsame]
      exact h.kept token owner c ((created_concat.mp hc).resolve_right (by simp [hnone])) hlive
  · -- a sweep
    refine ⟨now :: swept, ?_, fun k session hk => ?_, fun token owner c hc hlive => ?_⟩
    · intro now' hnow'
      rcases List.mem_cons.mp hnow' with rfl | hnow'
      · exact ⟨e, by simp, hclock.reads e (by simp) now' hnow⟩
      · exact hswept now' hnow'
    · rw [hclean] at hk
      obtain ⟨hk, hlive⟩ := AuthBroker.cleanupLocked_sessions.mp hk
      obtain ⟨token, c, hkey, hc, hexpires, hbefore⟩ := h.stored k session hk
      refine ⟨token, c, hkey, hc.append_left, hexpires, fun now' hnow' => ?_⟩
      rcases List.mem_cons.mp hnow' with rfl | hnow'
      · exact hlive
      · exact hbefore now' hnow'
    · obtain ⟨session, hk, howner, hexpires⟩ := h.kept token owner c
        ((created_concat.mp hc).resolve_right (by simp [hnone]))
        fun now' hnow' => hlive now' (List.mem_cons_of_mem _ hnow')
      refine ⟨session, ?_, howner, hexpires⟩
      rw [hclean]
      exact AuthBroker.cleanupLocked_sessions.mpr
        ⟨hk, hexpires ▸ hlive now List.mem_cons_self⟩
  · -- a session is stored
    have hnew : Created (outs ++ out.toList) token session.owner e.instant :=
      created_concat.mpr (.inr hcreated)
    refine ⟨swept, hswept, fun k session' hk => ?_, fun token' owner c hc hlive => ?_⟩
    · rw [hinsert, GoMap.lookup_insert_eq] at hk
      split at hk
      · next heq =>
          obtain rfl := Option.some.inj hk
          refine ⟨token, e.instant, heq, hnew, hexpires, fun now hnow => ?_⟩
          -- what was read by earlier steps is from before the session
          obtain ⟨e', he', hle⟩ := h.swept_le now hnow
          have := hclock.le_last he'
          rw [hexpires, coordinatorSessionLifetime, hour, minute, second]
          omega
      · obtain ⟨token', c, hkey, hc, hrest⟩ := h.stored k session' hk
        exact ⟨token', c, hkey, hc.append_left, hrest⟩
    · rw [hinsert]
      rcases created_concat.mp hc with hold | hsession
      · -- an older session has another token, so it is under another hash
        have hne : tokenHash token' ≠ tokenHash token := by
          intro heq
          obtain rfl := hinj ⟨owner, c, hc⟩ ⟨_, _, hnew⟩ heq
          obtain ⟨o, ho, ho'⟩ := created_iff.mp hold
          have hold : 0 < outs.countP (AuthOutput.creates token') :=
            List.countP_pos_iff.mpr ⟨o, ho, AuthOutput.creates_of_session ho'⟩
          obtain ⟨o', rfl, ho'⟩ := Option.bind_eq_some_iff.mp hcreated
          have := honce token'
          rw [List.countP_append, Option.toList_some, List.countP_singleton,
            if_pos (AuthOutput.creates_of_session ho')] at this
          omega
        rw [AList.lookup_insert_ne hne]
        exact h.kept token' owner c hold hlive
      · obtain ⟨rfl, hrest⟩ := Prod.mk.injEq .. ▸ Option.some.inj (hcreated.symm.trans hsession)
        obtain ⟨rfl, rfl⟩ := Prod.mk.injEq .. ▸ hrest
        exact ⟨session, AList.lookup_insert _, rfl, hexpires⟩

/-- **Run lemma.** -/
theorem run_sessionsSound (hids : AuthIDsFresh es) (hclock : AuthClock es)
    (hinj : Set.InjOn tokenHash
      {t | ∃ owner c, Created ((AuthSystem.initial b).outputs es) t owner c}) :
    ∃ swept, ((AuthSystem.initial b).run es).SessionsSound es
      ((AuthSystem.initial b).outputs es) swept := by
  induction es using List.reverseRecOn with
  | nil =>
      refine ⟨[], by simp, fun k session hk => ?_, fun token owner c hc => ?_⟩
      · exact absurd hk (by simp [initial])
      · exact absurd hc (by simp [Created])
  | append_singleton es e ih =>
      have hprefix : ∀ t, (∃ owner c, Created ((AuthSystem.initial b).outputs es) t owner c) →
          ∃ owner c, Created ((AuthSystem.initial b).outputs (es ++ [e])) t owner c := by
        intro t ht
        obtain ⟨owner, c, hc⟩ := ht
        exact ⟨owner, c, by rw [outputs_concat]; exact hc.append_left⟩
      obtain ⟨swept, h⟩ := ih hids.append_left hclock.append_left (hinj.mono hprefix)
      rw [outputs_concat] at hinj
      rw [run_concat, outputs_concat]
      refine h.step hclock (fun token => ?_) hinj
      rw [← outputs_concat]
      exact countP_creates_le hids token

/-- No step switches development logins on or off, and `DevLogin` stores a session only
where they are on. -/
theorem run_devAuthEnabled (es : List AuthEvent) :
    ((AuthSystem.initial b).run es).broker.devAuthEnabled = b.devAuthEnabled ∧
      ∀ token owner c, .devSession token owner c ∈ (AuthSystem.initial b).outputs es →
        b.devAuthEnabled = true := by
  induction es using List.reverseRecOn with
  | nil => exact ⟨rfl, by simp⟩
  | append_singleton es e ih =>
      obtain ⟨hdev, hold⟩ := ih
      rw [run_concat, outputs_concat]
      have hsteps := exec_steps ((AuthSystem.initial b).run es) e
      generalize ((AuthSystem.initial b).run es).step e = sys' at hsteps
      generalize ((AuthSystem.initial b).run es).output e = out at hsteps
      constructor
      · cases hsteps with
        | failed i t message reply hi hstage =>
            simp only [AuthBroker.failPending]
            split <;> exact hdev
        | _ => exact hdev
      · intro token owner c hmem
        rcases List.mem_append.mp hmem with hmem | hmem
        · exact hold token owner c hmem
        · cases hsteps with
          | devSession token deviceID hdev' hdrawn => exact hdev ▸ hdev'
          | _ => simp at hmem

end AuthSystem

/-- The latest of a reading and the readings of the sweeps so far. -/
theorem exists_latest (now : Int) (swept : List Int) :
    ∃ i, (i = now ∨ i ∈ swept) ∧ ∀ x, i < x ↔ now < x ∧ ∀ now' ∈ swept, now' < x := by
  induction swept with
  | nil => exact ⟨now, .inl rfl, by simp⟩
  | cons s swept ih =>
      obtain ⟨i, hi, hlt⟩ := ih
      by_cases hle : i ≤ s
      · refine ⟨s, .inr List.mem_cons_self, fun x => ⟨fun h => ?_, fun h => ?_⟩⟩
        · obtain ⟨hnow, hswept⟩ := (hlt x).mp (lt_of_le_of_lt hle h)
          exact ⟨hnow, List.forall_mem_cons.mpr ⟨h, hswept⟩⟩
        · exact h.2 s List.mem_cons_self
      · refine ⟨i, hi.imp_right (List.mem_cons_of_mem _), fun x => ⟨fun h => ?_, fun h => ?_⟩⟩
        · obtain ⟨hnow, hswept⟩ := (hlt x).mp h
          exact ⟨hnow, List.forall_mem_cons.mpr ⟨lt_trans (not_le.mp hle) h, hswept⟩⟩
        · exact (hlt x).mpr ⟨h.1, (List.forall_mem_cons.mp h.2).2⟩

/-- **Soundness and completeness of sessions.** After every history, `AuthenticateToken`
answers as of an instant of its call, between the reading of its clock and its critical
section: with an owner exactly when the token was created for that owner, by a `Callback`
that stored a session for a profile with that id or by a `DevLogin` with development
logins enabled, less than twelve hours before that instant. (A call that does not wait
for the mutex has one instant, `now`.) -/
theorem authenticateToken_sound_complete (b : AuthBroker) {es : List AuthEvent}
    {now instant : Int} {token : String} (hids : AuthIDsFresh es)
    (hclock : AuthClock (es ++ [⟨instant, .authenticate now token⟩])) :
    let outs := (AuthSystem.initial b).outputs es
    let answer := (((AuthSystem.initial b).run es).broker.authenticateToken token now).2
    Set.InjOn tokenHash {t | t = token ∨ ∃ owner c, Created outs t owner c} →
    ∃ i, now ≤ i ∧ i ≤ instant ∧ ∀ owner, owner ≠ "" →
      (answer = owner ↔ ∃ c, i < c + 12 * hour ∧
        ((∃ state profile, .stored state token profile c ∈ outs ∧ profile.id = owner) ∨
          (b.devAuthEnabled = true ∧ .devSession token owner c ∈ outs))) := by
  intro outs answer hinj
  obtain ⟨swept, hsound⟩ := AuthSystem.run_sessionsSound hids hclock.append_left
    (hinj.mono fun _ => Or.inr)
  obtain ⟨i, hi, hlt⟩ := exists_latest now swept
  have hnow : now ≤ i := by
    by_contra hlt'
    exact lt_irrefl now ((hlt now).mp (not_le.mp hlt')).1
  have hinstant : i ≤ instant := by
    rcases hi with rfl | hi
    · exact hclock.reads ⟨instant, .authenticate i token⟩ (by simp) i rfl
    · obtain ⟨e, he, hle⟩ := hsound.swept_le i hi
      exact hle.trans (hclock.le_last he)
  refine ⟨i, hnow, hinstant, fun owner howner => ⟨fun hanswer => ?_, fun hcreated => ?_⟩⟩
  · -- an owner comes from a session that has survived every sweep
    obtain ⟨session, hk, rfl, hlive⟩ := AuthBroker.authenticateToken_eq howner hanswer
    obtain ⟨t, c, hkey, hc, hexpires, hswept⟩ := hsound.stored _ session hk
    obtain rfl : token = t := hinj (.inl rfl) (.inr ⟨_, c, hc⟩) hkey
    refine ⟨c, ?_, hc.imp_right fun hdev => ⟨?_, hdev⟩⟩
    · exact hexpires ▸ (hlt _).mpr ⟨hlive, hswept⟩
    · exact (AuthSystem.run_devAuthEnabled es).2 token _ c hdev
  · obtain ⟨c, hlive, hc⟩ := hcreated
    obtain ⟨hlive, hswept⟩ := (hlt _).mp hlive
    obtain ⟨session, hk, rfl, hexpires⟩ :=
      hsound.kept token owner c (hc.imp_right And.right) hswept
    exact AuthBroker.authenticateToken_of_session hk (hexpires ▸ hlive)

/-- The token of the login of the tests, while its session lasts. -/
theorem authenticateToken_sound_complete_login :
    (((AuthSystem.initial testBroker).run testLogin).broker.authenticateToken
      (randomID (testBytes 3)) hour).2 = "user-123" := by
  have houts : (AuthSystem.initial testBroker).outputs testLogin =
      [.started (randomID (testBytes 1)) (randomID (testBytes 2)),
        .exchange (randomID (testBytes 2)) (testBroker.tokenRequest "valid-code"),
        .minted (randomID (testBytes 2)) (randomID (testBytes 3)),
        .stored (randomID (testBytes 2)) (randomID (testBytes 3)) testProfile 4] := by
    decide +kernel
  have honly : ∀ t, (t = randomID (testBytes 3) ∨
      ∃ owner c, Created ((AuthSystem.initial testBroker).outputs testLogin) t owner c) →
        t = randomID (testBytes 3) := by
    rw [houts]
    intro t ht
    simpa [Created] using ht
  obtain ⟨i, -, hi, hiff⟩ := @authenticateToken_sound_complete testBroker testLogin hour hour
    (randomID (testBytes 3)) (by decide) ⟨by decide, by decide⟩
    fun t ht t' ht' _ => (honly t ht).trans (honly t' ht').symm
  refine (hiff "user-123" (by decide)).mpr
    ⟨4, ?_, .inl ⟨randomID (testBytes 2), testProfile, ?_, rfl⟩⟩
  · exact lt_of_le_of_lt hi (by decide)
  · rw [houts]
    simp

end GilStreaming.Coordinator
