import GilStreaming.Coordinator.LoginSecrets

/-!
# GilStreaming.Coordinator.SignedIn

What the page "Signed in" of `Callback` is worth.

`Callback` writes it at the end of its second critical section, whether or not it has found
the login there. A login that has expired while its code was exchanged, and that another
request has cleaned up, is not there: nothing is stored, and the user is told that the
authentication succeeded (`signed_in_to_nothing`). Where the login is still there
(`AuthSystem.Lost` says when it is not), its session is stored and it keeps its token until
it expires or a `Status` has returned the token.
-/

namespace GilStreaming.Coordinator

open GilStreaming.Trace

namespace AuthSystem

/-! ### The property and the condition -/

/-- The step writes the page "Signed in", for the `i`-th `Callback`, which was at `t`. -/
def SignsIn (sys : AuthSystem) (e : AuthEvent) (i : Nat) (t : CallbackThread) : Prop :=
  sys.callbacks[i]? = some t ∧ t.stage ≠ .answered CallbackThread.signedIn ∧
    ∃ u, (sys.step e).callbacks[i]? = some u ∧ u.stage = .answered CallbackThread.signedIn

/-- A `Callback` enters its second critical section, and its login is gone. -/
def Lost (sys : AuthSystem) (e : AuthEvent) : Prop :=
  ∃ i t token profile, e.action = .store i ∧ sys.callbacks[i]? = some t ∧
    t.stage = .storing token profile ∧ sys.broker.pending.lookup t.requestID = none

/-- What the step `e` after `pre` leaves for the login of `t`, whose profile it has loaded:
a session for the profile, and the login with its token, which a `Status` then returns
until the login expires or the token has been returned. -/
def RealSignIn (b : AuthBroker) (pre : List AuthEvent) (e : AuthEvent) (t : CallbackThread) :
    Prop :=
  let after := (initial b).run (pre ++ [e])
  ∃ token profile p, t.stage = .storing token profile ∧
    after.broker.sessions.lookup (tokenHash token) =
      some ⟨profile.id, profile, e.instant + coordinatorSessionLifetime⟩ ∧
    after.broker.pending.lookup t.requestID = some p ∧
    p.accessToken = token ∧ p.profile = profile ∧
    ∀ later now, AuthIDsFresh (pre ++ [e] ++ later) →
      (∀ e' ∈ later, ∀ reading, e'.action.reading = some reading → reading < p.expiresAt) →
      (∀ token', .returned t.requestID token' ∉ after.outputs later) → now < p.expiresAt →
      ((after.run later).broker.status t.requestID now).2 = .authenticated 200 token profile

/-! ### Where the page comes from -/

/-- No `Callback` is about to answer a failed login with the page "Signed in". -/
def FailsHonestly (sys : AuthSystem) : Prop :=
  ∀ (i : Nat) (t : CallbackThread) (message : String) (reply : AuthReply),
    sys.callbacks[i]? = some t → t.stage = .failing message reply →
    reply ≠ CallbackThread.signedIn

theorem check_ne_signedIn (t : CallbackThread) (expiresAt : Option Int) (now : Int) :
    t.check expiresAt now ≠ .answered CallbackThread.signedIn ∧
      ∀ message, t.check expiresAt now ≠ .failing message CallbackThread.signedIn := by
  unfold CallbackThread.check
  split
  · simp [CallbackThread.signedIn]
  · split
    · simp [CallbackThread.signedIn]
    · split
      · simp [CallbackThread.signedIn]
      · split <;> simp [CallbackThread.signedIn]

theorem exchanged_ne_signedIn (profile : Option GilIDProfile) (token : Option RandomBytes) :
    CallbackThread.exchanged profile token ≠ .answered CallbackThread.signedIn ∧
      ∀ message, CallbackThread.exchanged profile token ≠
        .failing message CallbackThread.signedIn := by
  unfold CallbackThread.exchanged
  split
  · simp [CallbackThread.signedIn]
  · split <;> simp [CallbackThread.signedIn]

/-- A thread after a step is there already, has just arrived, or has gone on from its stage. -/
theorem callbacks_step (sys : AuthSystem) (e : AuthEvent) {j : Nat} {u : CallbackThread}
    (hj : (sys.step e).callbacks[j]? = some u) :
    sys.callbacks[j]? = some u ∨ (∃ expiresAt, u.stage = .checking expiresAt) ∨
      ∃ t : CallbackThread, sys.callbacks[j]? = some t ∧
        ((∃ expiresAt now, u.stage = t.check expiresAt now) ∨
          (∃ profile token, u.stage = CallbackThread.exchanged profile token) ∨
          (∃ message reply, t.stage = .failing message reply ∧ u.stage = .answered reply) ∨
          (∃ token profile, e.action = .store j ∧ t.stage = .storing token profile) ∧
            u.stage = .answered CallbackThread.signedIn) := by
  cases he : e.action with
  | start now body requestID state => exact .inl (by simpa only [step, exec, he] using hj)
  | status now requestID => exact .inl (by simpa only [step, exec, he] using hj)
  | devLogin body token => exact .inl (by simpa only [step, exec, he] using hj)
  | profileForOwner now owner order => exact .inl (by simpa only [step, exec, he] using hj)
  | authenticate now token => exact .inl (by simpa only [step, exec, he] using hj)
  | callback request =>
      simp only [step, exec, he] at hj
      rcases Threads.getElem?_concat_eq_some.mp hj with hj | ⟨-, rfl⟩
      · exact .inl hj
      · exact .inr (.inl ⟨_, rfl⟩)
  | check i =>
      simp only [step, exec, he] at hj
      cases hi : sys.callbacks[i]? with
      | none => exact .inl (by simpa only [hi] using hj)
      | some t =>
          simp only [hi] at hj
          split at hj
          · rcases (advance_eq_some hi).mp hj with ⟨rfl, rfl⟩ | ⟨-, hj⟩
            · exact .inr (.inr ⟨t, hi, .inl ⟨_, _, rfl⟩⟩)
            · exact .inl hj
          · exact .inl hj
  | exchanged i token profile coordinatorToken =>
      simp only [step, exec, he] at hj
      cases hi : sys.callbacks[i]? with
      | none => exact .inl (by simpa only [hi] using hj)
      | some t =>
          simp only [hi] at hj
          split at hj
          · rcases (advance_eq_some hi).mp hj with ⟨rfl, rfl⟩ | ⟨-, hj⟩
            · exact .inr (.inr ⟨t, hi, .inr (.inl ⟨_, _, rfl⟩)⟩)
            · exact .inl hj
          · exact .inl hj
  | fail i =>
      simp only [step, exec, he] at hj
      cases hi : sys.callbacks[i]? with
      | none => exact .inl (by simpa only [hi] using hj)
      | some t =>
          simp only [hi] at hj
          split at hj
          · next message reply hstage =>
              rcases (advance_eq_some hi).mp hj with ⟨rfl, rfl⟩ | ⟨-, hj⟩
              · exact .inr (.inr ⟨t, hi, .inr (.inr (.inl ⟨message, reply, hstage, rfl⟩))⟩)
              · exact .inl hj
          · exact .inl hj
  | store i =>
      simp only [step, exec, he] at hj
      cases hi : sys.callbacks[i]? with
      | none => exact .inl (by simpa only [hi] using hj)
      | some t =>
          simp only [hi] at hj
          split at hj
          · next token profile hstage =>
              rcases (advance_eq_some hi).mp hj with ⟨rfl, rfl⟩ | ⟨-, hj⟩
              · exact .inr (.inr ⟨t, hi, .inr (.inr (.inr ⟨⟨token, profile, rfl, hstage⟩, rfl⟩))⟩)
              · exact .inl hj
          · exact .inl hj

theorem FailsHonestly.step {sys : AuthSystem} (h : sys.FailsHonestly) (e : AuthEvent) :
    (sys.step e).FailsHonestly := by
  rintro j u message reply hj hu rfl
  rcases callbacks_step sys e hj with
    hj | ⟨expiresAt, hstage⟩ | ⟨t, -, ⟨expiresAt, now, hstage⟩ | ⟨profile, token, hstage⟩ |
      ⟨message', reply', -, hstage⟩ | ⟨-, hstage⟩⟩
  · exact h j u message _ hj hu rfl
  · exact absurd (hu.symm.trans hstage) (by simp)
  · exact (check_ne_signedIn t expiresAt now).2 message (hstage.symm.trans hu)
  · exact (exchanged_ne_signedIn profile token).2 message (hstage.symm.trans hu)
  · exact absurd (hu.symm.trans hstage) (by simp)
  · exact absurd (hu.symm.trans hstage) (by simp)

theorem run_failsHonestly (b : AuthBroker) (es : List AuthEvent) :
    ((initial b).run es).FailsHonestly :=
  run_invariant (P := fun _ _ => True) (fun _ e _ h => h.step e)
    (fun i t message reply hi => absurd hi (by simp [initial])) (.of_forall (fun _ _ => trivial) _)

/-- The page comes at the end of a second critical section only. -/
theorem SignsIn.storing {sys : AuthSystem} {e : AuthEvent} {i : Nat} {t : CallbackThread}
    (h : sys.SignsIn e i t) (hfails : sys.FailsHonestly) :
    ∃ token profile, e.action = .store i ∧ t.stage = .storing token profile := by
  obtain ⟨hi, hnot, u, hu, hstage⟩ := h
  rcases callbacks_step sys e hu with
    hj | ⟨expiresAt, hstage'⟩ | ⟨t', hi', hnext⟩
  · obtain rfl := Option.some.inj (hj.symm.trans hi)
    exact absurd hstage hnot
  · exact absurd (hstage.symm.trans hstage') (by simp)
  · obtain rfl := Option.some.inj (hi'.symm.trans hi)
    rcases hnext with ⟨expiresAt, now, hstage'⟩ | ⟨profile, token, hstage'⟩ |
      ⟨message, reply, hfailing, hstage'⟩ | ⟨⟨token, profile, hstore, hstoring⟩, -⟩
    · exact absurd (hstage'.symm.trans hstage) (check_ne_signedIn t' expiresAt now).1
    · exact absurd (hstage'.symm.trans hstage) (exchanged_ne_signedIn profile token).1
    · obtain rfl := CallbackStage.answered.inj (hstage'.symm.trans hstage)
      exact absurd rfl (hfails i t' message _ hi hfailing)
    · exact ⟨token, profile, hstore, hstoring⟩

/-! ### A login with its token -/

section Kept

variable {sys sys' : AuthSystem} {ids : List String} {e : AuthEvent} {out : Option AuthOutput}
  {r : String} {p : PendingAuth}

/-- **Step lemma.** A login that has its token stays as it is, until it expires or the token
is returned: the entry of its state is gone, and so is every thread that was under way for
it. -/
theorem Steps.keeps_token (h : sys.Steps e sys' out) (hsound : sys.Sound ids)
    (hfresh : ∀ id ∈ e.action.drawn, id ∉ ids) (hp : sys.broker.pending.lookup r = some p)
    (htoken : p.accessToken ≠ "")
    (hlive : ∀ reading, e.action.reading = some reading → reading < p.expiresAt)
    (hkept : ∀ token, out ≠ some (.returned r token)) :
    sys'.broker.pending.lookup r = some p := by
  have hclean : ∀ now, e.action.reading = some now →
      (sys.broker.cleanupLocked now).pending.lookup r = some p := fun now hnow =>
    AuthBroker.cleanupLocked_pending.mpr ⟨hp, hlive now hnow⟩
  have hkeyed : ∀ {now q r'}, (sys.broker.cleanupLocked now).pending.lookup r' = some q →
      q.requestID = r' := fun hq => hsound.broker.keyed (AuthBroker.cleanupLocked_pending.mp hq).1
  -- a thread under way awaits a login without a token
  have hother : ∀ (i : Nat) (t : CallbackThread), sys.callbacks[i]? = some t →
      t.stage.active = true → r ≠ t.requestID := by
    rintro i t hi hactive rfl
    exact htoken ((hsound.threads i t hi hactive).2.2 p hp).2.2.1
  cases h with
  | idle => exact hp
  | cleaned now hnow => exact hclean now hnow
  | started now deviceID deviceName requestID state hnow hdrawn =>
      have hne : r ≠ requestID := by
        rintro rfl
        exact hfresh r (by simp [hdrawn]) (hsound.drawn r p hp).1
      rw [AList.lookup_insert_ne hne]
      exact hclean now hnow
  | reported now requestID pending hnow hpending herror =>
      have hne : r ≠ pending.requestID := by
        rintro rfl
        obtain rfl := Option.some.inj ((hclean now hnow).symm.trans (hkeyed hpending ▸ hpending))
        exact (hsound.broker.clean _ _ hp).elim herror htoken
      rw [AList.lookup_erase_ne hne]
      exact hclean now hnow
  | returned now requestID pending hnow hpending hnone hpendingToken =>
      have hne : r ≠ pending.requestID := by
        rw [hkeyed hpending]
        rintro rfl
        exact hkept _ rfl
      rw [AList.lookup_erase_ne hne]
      exact hclean now hnow
  | unknown request requestID => exact hp
  | consumed request pending hpending => exact hp
  | givesUp i t stage hi hpast hactive => exact hp
  | exchange i t hi hwaiting => exact hp
  | minted i t token profile hi hstage hdrawn htoken hprofile => exact hp
  | failed i t message reply hi hstage =>
      have hne := hother i t hi (by rw [hstage]; rfl)
      dsimp only [withBroker, AuthBroker.failPending]
      split
      · exact hp
      · rw [AList.lookup_insert_ne hne]
        exact hp
  | stored i t token profile current hi hstage hpending =>
      have hne := hother i t hi (by rw [hstage]; rfl)
      rw [AList.lookup_insert_ne hne]
      exact hp
  | devSession token deviceID hdev hdrawn => exact hp

/-- **Run lemma.** -/
theorem run_keeps_token {b : AuthBroker} {es later : List AuthEvent}
    (hids : AuthIDsFresh (es ++ later))
    (hp : ((initial b).run es).broker.pending.lookup r = some p) (htoken : p.accessToken ≠ "")
    (hlive : ∀ e ∈ later, ∀ reading, e.action.reading = some reading → reading < p.expiresAt)
    (hkept : ∀ token, .returned r token ∉ ((initial b).run es).outputs later) :
    (((initial b).run es).run later).broker.pending.lookup r = some p := by
  induction later using List.reverseRecOn with
  | nil => exact hp
  | append_singleton later e ih =>
      rw [← List.append_assoc] at hids
      rw [outputs_concat] at hkept
      have hbefore := ih hids.append_left (fun e' he' => hlive e' (by simp [he']))
        fun token hmem => hkept token (List.mem_append_left _ hmem)
      have hsound := run_sound b hids.append_left
      rw [show (initial b).run (es ++ later) = ((initial b).run es).run later from
        Trace.run_append ..] at hsound
      rw [run_concat]
      refine (exec_steps _ e).keeps_token hsound (fun id hid => hids.not_mem hid) hbefore htoken
        (hlive e (by simp)) fun token hout => hkept token (List.mem_append_right _ ?_)
      simp [hout]

end Kept

/-- `Status` returns the token of a login that has one. -/
theorem status_of_token {b : AuthBroker} {r : String} {p : PendingAuth} {now : Int}
    (hp : b.pending.lookup r = some p) (hlive : now < p.expiresAt) (herror : p.error = "")
    (htoken : p.accessToken ≠ "") :
    (b.status r now).2 = .authenticated 200 p.accessToken p.profile := by
  unfold AuthBroker.status
  dsimp only
  rw [AuthBroker.cleanupLocked_pending.mpr ⟨hp, hlive⟩]
  simp [herror, htoken]

/-! ### Signing in -/

/-- **Step lemma.** The page tells the truth exactly when the login is still there. -/
theorem SignsIn.real_iff {b : AuthBroker} {pre : List AuthEvent} {e : AuthEvent} {i : Nat}
    {t : CallbackThread} (hids : AuthIDsFresh (pre ++ [e]))
    (h : ((initial b).run pre).SignsIn e i t) :
    RealSignIn b pre e t ↔ ¬ ((initial b).run pre).Lost e := by
  obtain ⟨token, profile, hstore, hstage⟩ := h.storing (run_failsHonestly b pre)
  have hi := h.1
  have hactive : t.stage.active = true := by rw [hstage]; rfl
  have hstep : ((initial b).run (pre ++ [e])).broker =
      ((initial b).run pre).broker.storeSession t.requestID token profile e.instant := by
    rw [run_concat]
    simp only [step, exec, hstore, hi, hstage]
  constructor
  · rintro ⟨token', profile', p, hstage', -, hp, -⟩
      ⟨j, u, token'', profile'', hstore', hj, -, hlost⟩
    obtain rfl : i = j := AuthAction.store.inj (hstore.symm.trans hstore')
    obtain rfl := Option.some.inj (hi.symm.trans hj)
    rw [hstep, AuthBroker.storeSession, hlost] at hp
    exact absurd (hlost.symm.trans hp) (by simp)
  · intro hlost
    cases hp : ((initial b).run pre).broker.pending.lookup t.requestID with
    | none => exact absurd ⟨i, t, token, profile, hstore, hi, hstage, hp⟩ hlost
    | some p =>
        have hsound := run_sound b hids.append_left
        obtain ⟨-, herror, -, -⟩ := (hsound.threads i t hi hactive).2.2 p hp
        have htoken : token ≠ "" :=
          minted_ne_empty (((run_issued hids.append_left).thread i t hi hactive).2 token
            (by rw [hstage]; rfl))
        let p' : PendingAuth := { p with accessToken := token, profile := profile }
        have hp' : ((initial b).run (pre ++ [e])).broker.pending.lookup t.requestID = some p' := by
          rw [hstep, AuthBroker.storeSession, hp]
          exact AList.lookup_insert _
        refine ⟨token, profile, p', hstage, ?_, hp', rfl, rfl, ?_⟩
        · rw [hstep, AuthBroker.storeSession, hp]
          exact AList.lookup_insert _
        · intro later now hids' hlive hkept hnow
          have hlater := run_keeps_token hids' hp' htoken hlive hkept
          exact status_of_token hlater hnow herror htoken

/-- A `Callback` whose login is gone writes the page all the same. -/
theorem Lost.signsIn {sys : AuthSystem} {e : AuthEvent} (h : sys.Lost e) :
    ∃ i t, sys.SignsIn e i t := by
  obtain ⟨i, t, token, profile, hstore, hi, hstage, -⟩ := h
  refine ⟨i, t, hi, by simp [hstage], { t with stage := .answered CallbackThread.signedIn },
    ?_, rfl⟩
  simp only [step, exec, hstore, hi, hstage, advance]
  exact List.getElem?_set_self (List.getElem?_eq_some_iff.mp hi).1

end AuthSystem

/-- Along every history of critical sections, whenever `Callback` writes the page "Signed in",
it has stored a session for the profile it has loaded, and the login has its token, which a
`Status` before the expiry returns: exactly when no `Callback` has found its login gone at
its second critical section. -/
theorem signed_in_real (b : AuthBroker) {es : List AuthEvent} (hids : AuthIDsFresh es) :
    (∀ pre e post i t, es = pre ++ e :: post →
      ((AuthSystem.initial b).run pre).SignsIn e i t → AuthSystem.RealSignIn b pre e t) ↔
    AllSteps AuthSystem.step (fun sys e => ¬ sys.Lost e) (AuthSystem.initial b) es := by
  have hfresh : ∀ pre e post, es = pre ++ e :: post → AuthIDsFresh (pre ++ [e]) := by
    rintro pre e post rfl
    rw [show pre ++ e :: post = (pre ++ [e]) ++ post by simp] at hids
    exact hids.append_left
  rw [allSteps_iff]
  constructor
  · intro h pre e post hes hlost
    obtain ⟨i, t, hsigns⟩ := hlost.signsIn
    exact (hsigns.real_iff (hfresh pre e post hes)).mp (h pre e post i t hes hsigns) hlost
  · intro h pre e post i t hes hsigns
    exact (hsigns.real_iff (hfresh pre e post hes)).mpr (h pre e post hes)

/-- The `Callback` of the tests, when it has drawn its token. -/
def testCallback : CallbackThread where
  request := ⟨randomID (testBytes 2), "valid-code", ""⟩
  requestID := randomID (testBytes 1)
  stage := .storing (randomID (testBytes 3)) testProfile

/-- The login of the tests is completed in time. -/
theorem signed_in_real_login :
    AuthSystem.RealSignIn testBroker (testLogin.take 4) ⟨4, .store 0⟩ testCallback := by
  refine (signed_in_real testBroker (by decide : AuthIDsFresh testLogin)).mpr
    ⟨?_, ?_, ?_, ?_, ?_, trivial⟩ _ _ [] 0 _ rfl
    ⟨by decide +kernel, by simp [testCallback],
      { testCallback with stage := .answered CallbackThread.signedIn }, by decide +kernel, rfl⟩
  · exact fun ⟨_, _, _, _, hstore, _⟩ => absurd hstore (by simp)
  · exact fun ⟨_, _, _, _, hstore, _⟩ => absurd hstore (by simp)
  · exact fun ⟨_, _, _, _, hstore, _⟩ => absurd hstore (by simp)
  · exact fun ⟨_, _, _, _, hstore, _⟩ => absurd hstore (by simp)
  · rintro ⟨i, t, token, profile, hstore, hi, -, hlost⟩
    obtain rfl := AuthAction.store.inj hstore
    have hpending : ∀ t' ∈ ((AuthSystem.initial testBroker).run (testLogin.take 4)).callbacks,
        (((AuthSystem.initial testBroker).run (testLogin.take 4)).broker.pending.lookup
          t'.requestID).isSome = true := by decide +kernel
    have hsome := hpending t (List.mem_of_getElem? hi)
    exact absurd (hlost ▸ hsome) (by simp)

/-- A login whose code is exchanged while it expires. The `Status` of another client cleans up
before the exchange comes back. -/
def slowLogin : List AuthEvent :=
  [⟨0, .start 0 (some ("device-1", "Test PC")) (some (testBytes 1)) (some (testBytes 2))⟩,
    ⟨590 * second, .callback ⟨randomID (testBytes 2), "valid-code", ""⟩⟩,
    ⟨591 * second, .check 0⟩,
    ⟨600 * second, .status (600 * second) "another"⟩,
    ⟨605 * second, .exchanged 0 (.response 200 (some "gilid-access-token"))
      (.response 200 (some testProfile)) (some (testBytes 3))⟩]

/-- The user is told that the authentication succeeded, and the login is unknown. -/
theorem signed_in_to_nothing :
    AuthIDsFresh (slowLogin ++ [⟨606 * second, .store 0⟩]) ∧
    AuthClock (slowLogin ++ [⟨606 * second, .store 0⟩]) ∧
    ((AuthSystem.initial testBroker).run slowLogin).SignsIn ⟨606 * second, .store 0⟩ 0
      testCallback ∧
    ¬ AuthSystem.RealSignIn testBroker slowLogin ⟨606 * second, .store 0⟩ testCallback := by
  refine ⟨by decide, ⟨by decide, by decide⟩, ⟨by decide +kernel, by simp [testCallback],
    { testCallback with stage := .answered CallbackThread.signedIn }, by decide +kernel, rfl⟩, ?_⟩
  rintro ⟨token, profile, p, -, -, hp, -⟩
  have hgone : ((AuthSystem.initial testBroker).run
      (slowLogin ++ [⟨606 * second, .store 0⟩])).broker.pending.lookup testCallback.requestID =
        none := by decide +kernel
  exact absurd (hgone.symm.trans hp) (by simp)

end GilStreaming.Coordinator
