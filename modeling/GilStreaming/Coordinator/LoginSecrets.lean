import GilStreaming.Coordinator.BrokerMaps

/-!
# GilStreaming.Coordinator.LoginSecrets

A state is exchanged once, and a token handed out once, to the one who started the login.

Both are counted. A state that has been issued is in `stateToRequest`, or with a
`Callback` that is about to exchange its code, or has been exchanged: no step raises the
number of these places, and a state that has just been drawn is in one. A token that a
`Callback` has drawn is with that `Callback`, or in a login, or has been returned, and
the same holds. Where a token comes from is carried along: the login that holds it was
started with the state it was drawn for (`AuthSystem.Issued`).
-/

namespace GilStreaming.Coordinator

open GilStreaming.Trace

/-! ### The places of a state and of a token -/

/-- The output starts an exchange for the state. -/
def AuthOutput.exchanges (state : String) : AuthOutput → Bool
  | .exchange s _ => s == state
  | _ => false

/-- The output issues the state. -/
def AuthOutput.issues (state : String) : AuthOutput → Bool
  | .started _ s => s == state
  | _ => false

/-- The output returns the token. -/
def AuthOutput.returns (token : String) : AuthOutput → Bool
  | .returned _ t => t == token
  | _ => false

/-- The output draws the token, for a `Callback`. -/
def AuthOutput.mints (token : String) : AuthOutput → Bool
  | .minted _ t => t == token
  | _ => false

/-- The state that the output draws a token or stores a session for, if it does. -/
def AuthOutput.served? : AuthOutput → Option String
  | .minted s _ => some s
  | .stored s _ _ _ => some s
  | _ => none

/-- The thread has consumed the state and may still exchange its code. -/
def CallbackThread.waitsFor (state : String) (t : CallbackThread) : Bool :=
  t.stage.waiting && t.request.state == state

/-- The thread is about to store the token. -/
def CallbackThread.carries (token : String) (t : CallbackThread) : Bool :=
  t.stage.token? == some token

namespace AuthSystem

/-- The places of a state that has not been exchanged. -/
def statePlaces (sys : AuthSystem) (state : String) : Nat :=
  sys.callbacks.countP (CallbackThread.waitsFor state) +
    sys.broker.stateToRequest.count fun s _ => s == state

/-- The places of a token that has not been returned. -/
def tokenPlaces (sys : AuthSystem) (token : String) : Nat :=
  sys.callbacks.countP (CallbackThread.carries token) +
    sys.broker.pending.count fun _ p => p.accessToken == token

variable {sys sys' : AuthSystem} {e : AuthEvent} {out : Option AuthOutput} {ids : List String}
  {i : Nat} {t : CallbackThread} {stage : CallbackStage}

/-- A count over the threads after the `i`-th has moved. -/
theorem countP_advance (hi : sys.callbacks[i]? = some t) (stage : CallbackStage)
    (q : CallbackThread → Bool) :
    (sys.advance i t stage).callbacks.countP q + (if q t then 1 else 0) =
      sys.callbacks.countP q + if q { t with stage := stage } then 1 else 0 :=
  Threads.countP_set_add hi _ q

/-- The count does not rise when the thread does not count at its new stage. -/
theorem countP_advance_le (hi : sys.callbacks[i]? = some t) (stage : CallbackStage)
    (q : CallbackThread → Bool) (h : q { t with stage := stage } = false) :
    (sys.advance i t stage).callbacks.countP q ≤ sys.callbacks.countP q := by
  have := countP_advance hi stage q
  rw [h] at this
  simp only [Bool.false_eq_true, if_false] at this
  omega

/-! ### Where things come from -/

/-- A login after a step is one from before, maybe with another error or with the token
that a thread carried for it, or it has just started. -/
theorem Steps.login (h : sys.Steps e sys' out) {r : String} {p' : PendingAuth}
    (hp' : sys'.broker.pending.lookup r = some p') :
    (∃ p, sys.broker.pending.lookup r = some p ∧ p'.state = p.state ∧
      (p'.accessToken = p.accessToken ∨ ∃ (i : Nat) (t : CallbackThread),
        sys.callbacks[i]? = some t ∧ t.requestID = r ∧ t.stage.token? = some p'.accessToken)) ∨
    (out = some (.started r p'.state) ∧ p'.accessToken = "") := by
  have hsame : sys.broker.pending.lookup r = some p' → (∃ p,
      sys.broker.pending.lookup r = some p ∧ p'.state = p.state ∧
      (p'.accessToken = p.accessToken ∨ ∃ (i : Nat) (t : CallbackThread),
        sys.callbacks[i]? = some t ∧ t.requestID = r ∧ t.stage.token? = some p'.accessToken)) ∨
      (out = some (.started r p'.state) ∧ p'.accessToken = "") :=
    fun hp => .inl ⟨p', hp, rfl, .inl rfl⟩
  cases h with
  | idle => exact hsame hp'
  | cleaned now hnow => exact hsame (AuthBroker.cleanupLocked_pending.mp hp').1
  | started now deviceID deviceName requestID state hnow hdrawn =>
      rw [GoMap.lookup_insert_eq] at hp'
      split at hp'
      · next heq =>
          obtain rfl := Option.some.inj hp'
          exact .inr ⟨by rw [heq], rfl⟩
      · exact hsame (AuthBroker.cleanupLocked_pending.mp hp').1
  | reported now requestID pending hnow hpending herror =>
      rw [GoMap.lookup_erase_eq] at hp'
      split at hp'
      · exact absurd hp' (by simp)
      · exact hsame (AuthBroker.cleanupLocked_pending.mp hp').1
  | returned now requestID pending hnow hpending hclean htoken =>
      rw [GoMap.lookup_erase_eq] at hp'
      split at hp'
      · exact absurd hp' (by simp)
      · exact hsame (AuthBroker.cleanupLocked_pending.mp hp').1
  | unknown request requestID => exact hsame hp'
  | consumed request pending hpending => exact hsame hp'
  | givesUp i t stage hi hpast hactive => exact hsame hp'
  | exchange i t hi hwaiting => exact hsame hp'
  | minted i t token profile hi hstage hdrawn htoken hprofile => exact hsame hp'
  | failed i t message reply hi hstage =>
      simp only [AuthBroker.failPending] at hp'
      split at hp'
      · exact hsame hp'
      · next p hp =>
          rw [GoMap.lookup_insert_eq] at hp'
          split at hp'
          · next heq =>
              obtain rfl := Option.some.inj hp'
              exact .inl ⟨p, heq ▸ hp, rfl, .inl rfl⟩
          · exact hsame hp'
  | stored i t token profile current hi hstage hpending =>
      rw [GoMap.lookup_insert_eq] at hp'
      split at hp'
      · next heq =>
          obtain rfl := Option.some.inj hp'
          exact .inl ⟨current, heq ▸ hpending, rfl,
            .inr ⟨i, t, hi, heq.symm, by rw [hstage]; rfl⟩⟩
      · exact hsame hp'
  | devSession token deviceID hdev hdrawn => exact hsame hp'

/-- A thread under way after a step was under way before, for the same login, with the
token it had unless it has just been drawn; or it has just consumed its state. -/
theorem Steps.thread (h : sys.Steps e sys' out) {j : Nat} {u : CallbackThread}
    (hj : sys'.callbacks[j]? = some u) (hu : u.stage.active = true) :
    (∃ t : CallbackThread, sys.callbacks[j]? = some t ∧ t.stage.active = true ∧
      t.request = u.request ∧ t.requestID = u.requestID ∧ ∀ token, u.stage.token? = some token →
        t.stage.token? = some token ∨ out = some (.minted u.request.state token)) ∨
    (u.stage.token? = none ∧ u.requestID = sys.broker.requestOf u.request.state ∧
      ∃ p, sys.broker.pending.lookup u.requestID = some p) := by
  have hsame : sys.callbacks[j]? = some u → (∃ t : CallbackThread, sys.callbacks[j]? = some t ∧
      t.stage.active = true ∧ t.request = u.request ∧ t.requestID = u.requestID ∧
      ∀ token, u.stage.token? = some token → t.stage.token? = some token ∨
        out = some (.minted u.request.state token)) ∨
      (u.stage.token? = none ∧ u.requestID = sys.broker.requestOf u.request.state ∧
        ∃ p, sys.broker.pending.lookup u.requestID = some p) :=
    fun hj => .inl ⟨u, hj, hu, rfl, rfl, fun _ htoken => .inl htoken⟩
  cases h with
  | idle => exact hsame hj
  | cleaned now hnow => exact hsame hj
  | started now deviceID deviceName requestID state hnow hdrawn => exact hsame hj
  | reported now requestID pending hnow hpending herror => exact hsame hj
  | returned now requestID pending hnow hpending hclean htoken => exact hsame hj
  | unknown request requestID =>
      rcases Threads.getElem?_concat_eq_some.mp hj with hj | ⟨-, rfl⟩
      · exact hsame hj
      · exact absurd hu (by simp [CallbackStage.active])
  | consumed request pending hpending =>
      rcases Threads.getElem?_concat_eq_some.mp hj with hj | ⟨-, rfl⟩
      · exact hsame hj
      · exact .inr ⟨rfl, rfl, pending, hpending⟩
  | givesUp i t stage hi hpast hactive =>
      rcases (advance_eq_some hi).mp hj with ⟨rfl, rfl⟩ | ⟨-, hj⟩
      · refine .inl ⟨t, hi, hactive hu, rfl, rfl, fun token htoken => ?_⟩
        exact absurd htoken (by simp [CallbackStage.past_token hpast])
      · exact hsame hj
  | exchange i t hi hwaiting =>
      rcases (advance_eq_some hi).mp hj with ⟨rfl, rfl⟩ | ⟨-, hj⟩
      · refine .inl ⟨t, hi, CallbackStage.active_of_waiting hwaiting, rfl, rfl, fun _ htoken => ?_⟩
        exact absurd htoken (by simp [CallbackStage.token?])
      · exact hsame hj
  | minted i t token profile hi hstage hdrawn htoken hprofile =>
      rcases (advance_eq_some hi).mp hj with ⟨rfl, rfl⟩ | ⟨-, hj⟩
      · refine .inl ⟨t, hi, by rw [hstage]; rfl, rfl, rfl, fun token' htoken' => .inr ?_⟩
        rw [show token' = token from (Option.some.inj htoken').symm]
      · exact hsame hj
  | failed i t message reply hi hstage =>
      rcases (advance_eq_some hi).mp hj with ⟨rfl, rfl⟩ | ⟨-, hj⟩
      · exact absurd hu (by simp [CallbackStage.active])
      · exact hsame hj
  | stored i t token profile current hi hstage hpending =>
      rcases (advance_eq_some hi).mp hj with ⟨rfl, rfl⟩ | ⟨-, hj⟩
      · exact absurd hu (by simp [CallbackStage.active])
      · exact hsame hj
  | devSession token deviceID hdev hdrawn => exact hsame hj

/-- A token is returned to the one who asks with the id of the login that holds it. -/
theorem Steps.returned_login (h : sys.Steps e sys' out) {r token : String}
    (hout : out = some (.returned r token)) :
    ∃ p, sys.broker.pending.lookup r = some p ∧ p.accessToken = token ∧ token ≠ "" := by
  cases h with
  | returned now requestID pending hnow hpending hclean htoken =>
      obtain ⟨rfl, rfl⟩ := AuthOutput.returned.inj (Option.some.inj hout)
      exact ⟨pending, (AuthBroker.cleanupLocked_pending.mp hpending).1, rfl, htoken⟩
  | _ => exact absurd hout (by simp)

/-- A login that starts has an id that has just been drawn. -/
theorem Steps.started_drawn (h : sys.Steps e sys' out) {r s : String}
    (hout : out = some (.started r s)) : r ∈ e.action.drawn := by
  cases h with
  | started now deviceID deviceName requestID state hnow hdrawn =>
      obtain ⟨rfl, -⟩ := AuthOutput.started.inj (Option.some.inj hout)
      rw [hdrawn]
      exact List.mem_cons_self
  | _ => exact absurd hout (by simp)

/-- A login that is gone does not come back, as long as its id is not drawn. -/
theorem Steps.gone (h : sys.Steps e sys' out) {r : String}
    (hgone : sys.broker.pending.lookup r = none) (hr : r ∉ e.action.drawn) :
    sys'.broker.pending.lookup r = none := by
  refine Option.eq_none_iff_forall_ne_some.mpr fun p' hp' => ?_
  rcases h.login hp' with ⟨p, hp, -⟩ | ⟨hout, -⟩
  · exact absurd hp (by simp [hgone])
  · exact hr (h.started_drawn hout)

/-- Tokens are drawn and sessions stored by a thread that is under way. -/
theorem Steps.served (h : sys.Steps e sys' out) {o : AuthOutput} {s : String} (hout : out = some o)
    (hs : o.served? = some s) :
    ∃ (i : Nat) (t : CallbackThread), sys.callbacks[i]? = some t ∧ t.stage.active = true ∧
      t.request.state = s := by
  cases h with
  | minted i t token profile hi hstage hdrawn htoken hprofile =>
      obtain rfl := Option.some.inj hout
      exact ⟨i, t, hi, by rw [hstage]; rfl, Option.some.inj hs⟩
  | stored i t token profile current hi hstage hpending =>
      obtain rfl := Option.some.inj hout
      exact ⟨i, t, hi, by rw [hstage]; rfl, Option.some.inj hs⟩
  | _ => cases hout <;> exact absurd hs (by simp [AuthOutput.served?])

/-! ### Counting the places -/

/-- **Step lemma, states.** -/
theorem Steps.statePlaces_le (h : sys.Steps e sys' out) (hsound : sys.Sound ids)
    (hnonempty : "" ∉ ids) (state : String) :
    out.toList.countP (AuthOutput.exchanges state) + sys'.statePlaces state ≤
      sys.statePlaces state + out.toList.countP (AuthOutput.issues state) := by
  have hclean : ∀ now, (sys.broker.cleanupLocked now).stateToRequest.count
      (fun s _ => s == state) ≤ sys.broker.stateToRequest.count fun s _ => s == state :=
    fun _ => AuthBroker.cleanupLocked_count_stateToRequest _
  unfold statePlaces
  cases h with
  | idle => simp
  | cleaned now hnow => simpa using hclean now
  | started now deviceID deviceName requestID s hnow hdrawn =>
      have herase := GoMap.count_erase_le (p := fun s _ => s == state)
        (sys.broker.cleanupLocked now).stateToRequest s
      have := hclean now
      simp only [Option.toList_some, List.countP_singleton, GoMap.count_insert,
        AuthOutput.exchanges, AuthOutput.issues, Bool.false_eq_true, if_false]
      by_cases hs : (s == state) = true <;> simp only [hs, if_true] <;> omega
  | reported now requestID pending hnow hpending herror => simpa using hclean now
  | returned now requestID pending hnow hpending hclean' htoken =>
      have herase := GoMap.count_erase_le (p := fun s _ => s == state)
        (sys.broker.cleanupLocked now).stateToRequest pending.state
      have := hclean now
      simp only [Option.toList_some, List.countP_singleton, AuthOutput.exchanges,
        AuthOutput.issues, Bool.false_eq_true, if_false]
      omega
  | unknown request requestID => simp [CallbackThread.waitsFor, CallbackStage.waiting]
  | consumed request pending hpending =>
      -- the state goes from the map to the thread, which waits with it
      have hentry := GoMap.count_erase (p := fun s _ => s == state)
        (hsound.entry_of_found hnonempty hpending)
      simp only [Option.toList_none, List.countP_nil, List.countP_append, List.countP_singleton,
        CallbackThread.waitsFor, CallbackStage.waiting, Option.isSome_some, Bool.true_and]
      omega
  | givesUp i t stage hi hpast hactive =>
      have hmove := countP_advance_le hi stage
        (CallbackThread.waitsFor state)
        (by simp [CallbackThread.waitsFor, CallbackStage.past_waiting hpast])
      simpa [AuthOutput.issues] using hmove
  | exchange i t hi hwaiting =>
      -- the thread stops waiting when it starts the exchange
      have hmove := countP_advance hi .exchanging (CallbackThread.waitsFor state)
      rw [show t.waitsFor state = (t.request.state == state) by
          rw [CallbackThread.waitsFor, hwaiting, Bool.true_and],
        show CallbackThread.waitsFor state { t with stage := .exchanging } = false from rfl]
        at hmove
      simp only [Bool.false_eq_true, if_false] at hmove
      simp only [Option.toList_some, List.countP_singleton, AuthOutput.exchanges,
        AuthOutput.issues, Bool.false_eq_true, if_false]
      rw [advance_broker]
      by_cases hs : (t.request.state == state) = true <;> simp only [hs, if_true] at hmove ⊢ <;>
        omega
  | minted i t token profile hi hstage hdrawn htoken hprofile =>
      have hmove := countP_advance_le hi (.storing token profile)
        (CallbackThread.waitsFor state) (by simp [CallbackThread.waitsFor, CallbackStage.waiting])
      simpa [AuthOutput.exchanges, AuthOutput.issues] using hmove
  | failed i t message reply hi hstage =>
      have hmove := countP_advance_le hi (.answered reply)
        (CallbackThread.waitsFor state) (by simp [CallbackThread.waitsFor, CallbackStage.waiting])
      simpa [AuthOutput.issues] using hmove
  | stored i t token profile current hi hstage hpending =>
      have hmove := countP_advance_le hi (.answered CallbackThread.signedIn)
        (CallbackThread.waitsFor state) (by simp [CallbackThread.waitsFor, CallbackStage.waiting])
      simpa [AuthOutput.exchanges, AuthOutput.issues] using hmove
  | devSession token deviceID hdev hdrawn => simp [AuthOutput.exchanges]

/-- **Step lemma, tokens.** -/
theorem Steps.tokenPlaces_le (h : sys.Steps e sys' out) (hsound : sys.Sound ids) {token : String}
    (htoken : token ≠ "") :
    out.toList.countP (AuthOutput.returns token) + sys'.tokenPlaces token ≤
      sys.tokenPlaces token + out.toList.countP (AuthOutput.mints token) := by
  have hclean : ∀ now, (sys.broker.cleanupLocked now).pending.count
      (fun _ p => p.accessToken == token) ≤
        sys.broker.pending.count fun _ p => p.accessToken == token :=
    fun _ => AuthBroker.cleanupLocked_count_pending _
  have hempty : ("" == token) = false := by simpa using htoken.symm
  unfold tokenPlaces
  cases h with
  | idle => simp
  | cleaned now hnow => simpa using hclean now
  | started now deviceID deviceName requestID s hnow hdrawn =>
      have herase := GoMap.count_erase_le (p := fun _ p => p.accessToken == token)
        (sys.broker.cleanupLocked now).pending requestID
      have := hclean now
      simp only [Option.toList_some, List.countP_singleton, GoMap.count_insert,
        AuthOutput.returns, AuthOutput.mints, hempty, Bool.false_eq_true, if_false]
      omega
  | reported now requestID pending hnow hpending herror =>
      have herase := GoMap.count_erase_le (p := fun _ p => p.accessToken == token)
        (sys.broker.cleanupLocked now).pending pending.requestID
      have := hclean now
      simp only [Option.toList_none, List.countP_nil]
      omega
  | returned now requestID pending hnow hpending hclean' htoken =>
      -- the login that held the token is removed
      have hid := (hsound.broker.cleanupLocked now).keyed hpending
      have herase := GoMap.count_erase (p := fun _ p => p.accessToken == token) hpending
      have := hclean now
      simp only [Option.toList_some, List.countP_singleton, AuthOutput.returns,
        AuthOutput.mints, Bool.false_eq_true, if_false, hid]
      by_cases ht : (pending.accessToken == token) = true <;>
        simp only [ht, if_true] at herase ⊢ <;> omega
  | unknown request requestID => simp [CallbackThread.carries, CallbackStage.token?]
  | consumed request pending hpending => simp [CallbackThread.carries, CallbackStage.token?]
  | givesUp i t stage hi hpast hactive =>
      have hmove := countP_advance_le hi stage (CallbackThread.carries token)
        (by simp [CallbackThread.carries, CallbackStage.past_token hpast])
      simpa [AuthOutput.mints] using hmove
  | exchange i t hi hwaiting =>
      have hmove := countP_advance_le hi .exchanging (CallbackThread.carries token)
        (by simp [CallbackThread.carries, CallbackStage.token?])
      simpa [AuthOutput.returns, AuthOutput.mints] using hmove
  | minted i t token' profile hi hstage hdrawn htoken' hprofile =>
      -- the thread carries the token from now on
      have hmove := countP_advance hi (.storing token' profile) (CallbackThread.carries token)
      rw [show CallbackThread.carries token { t with stage := .storing token' profile } =
        (token' == token) from rfl] at hmove
      simp only [Option.toList_some, List.countP_singleton, AuthOutput.returns,
        AuthOutput.mints, Bool.false_eq_true, if_false]
      rw [advance_broker]
      by_cases ht : (token' == token) = true <;> simp only [ht, if_true] at hmove ⊢ <;> omega
  | failed i t message reply hi hstage =>
      have hmove := countP_advance_le hi (.answered reply) (CallbackThread.carries token)
        (by simp [CallbackThread.carries, CallbackStage.token?])
      have hsame : (sys.broker.failPending t.requestID message).pending.count
          (fun _ p => p.accessToken == token) =
            sys.broker.pending.count fun _ p => p.accessToken == token := by
        unfold AuthBroker.failPending
        split
        · rfl
        · next p hp => rw [GoMap.count_insert, GoMap.count_erase hp]
      simp only [Option.toList_none, List.countP_nil, hsame]
      simpa [AuthOutput.mints] using hmove
  | stored i t token' profile current hi hstage hpending =>
      -- the token goes from the thread to the login
      have hmove := countP_advance hi (.answered CallbackThread.signedIn)
        (CallbackThread.carries token)
      have herase := GoMap.count_erase_le (p := fun _ p => p.accessToken == token)
        sys.broker.pending t.requestID
      rw [show t.carries token = (token' == token) by rw [CallbackThread.carries, hstage]; rfl,
        show CallbackThread.carries token { t with stage := .answered CallbackThread.signedIn } =
          false from rfl] at hmove
      simp only [Bool.false_eq_true, if_false] at hmove
      simp only [Option.toList_some, List.countP_singleton, GoMap.count_insert,
        AuthOutput.returns, AuthOutput.mints, Bool.false_eq_true, if_false]
      by_cases ht : (token' == token) = true <;> simp only [ht, if_true] at hmove ⊢ <;> omega
  | devSession token deviceID hdev hdrawn => simp [AuthOutput.returns]

/-- The states that are issued and the tokens that are drawn are ids drawn by the step. -/
theorem Steps.countP_drawn_le (h : sys.Steps e sys' out) (id : String) :
    out.toList.countP (AuthOutput.issues id) + out.toList.countP (AuthOutput.mints id) ≤
      e.action.drawn.count id := by
  cases h with
  | started now deviceID deviceName requestID state hnow hdrawn =>
      rw [hdrawn]
      simp [List.countP_singleton, List.count_cons, AuthOutput.issues, AuthOutput.mints]
  | minted i t token profile hi hstage hdrawn htoken hprofile =>
      rw [hdrawn]
      simp [List.countP_singleton, List.count_cons, AuthOutput.issues, AuthOutput.mints]
  | _ => simp [AuthOutput.issues, AuthOutput.mints]

/-! ### Where a token comes from -/

/-- Every login under way was started with its state, and its token was drawn for that
state; so was every token that has been returned. -/
structure Issued (sys : AuthSystem) (outs : List AuthOutput) : Prop where
  login : ∀ r p, sys.broker.pending.lookup r = some p → .started r p.state ∈ outs ∧
    (p.accessToken ≠ "" → .minted p.state p.accessToken ∈ outs)
  thread : ∀ (i : Nat) (t : CallbackThread), sys.callbacks[i]? = some t →
    t.stage.active = true → .started t.requestID t.request.state ∈ outs ∧
      ∀ token, t.stage.token? = some token → .minted t.request.state token ∈ outs
  returned : ∀ r token, .returned r token ∈ outs →
    ∃ s, .started r s ∈ outs ∧ .minted s token ∈ outs

/-- **Step lemma, origins.** -/
theorem Issued.step {outs : List AuthOutput} (h : sys.Issued outs) (hsound : sys.Sound ids)
    (hnonempty : "" ∉ ids) (e : AuthEvent) :
    (sys.step e).Issued (outs ++ (sys.output e).toList) := by
  have hsteps := sys.exec_steps e
  have hold : ∀ o ∈ outs, o ∈ outs ++ (sys.output e).toList :=
    fun o ho => List.mem_append_left _ ho
  have hnew : ∀ o, sys.output e = some o → o ∈ outs ++ (sys.output e).toList :=
    fun o ho => List.mem_append_right _ (by simp [ho])
  constructor
  · intro r p' hp'
    rcases hsteps.login hp' with ⟨p, hp, hstate, htoken⟩ | ⟨hstarted, htoken⟩
    · obtain ⟨hstarted, hminted⟩ := h.login r p hp
      refine ⟨hold _ (hstate ▸ hstarted), fun hne => ?_⟩
      rcases htoken with htoken | ⟨i, t, hi, hid, htoken⟩
      · rw [hstate, htoken]
        exact hold _ (hminted (htoken ▸ hne))
      · -- the thread that carried the token awaits this login, so they have one state
        have hactive := CallbackStage.active_of_token htoken
        obtain ⟨-, -, hawait⟩ := hsound.threads i t hi hactive
        obtain ⟨hstate', -⟩ := hawait p (hid ▸ hp)
        rw [hstate, hstate']
        exact hold _ ((h.thread i t hi hactive).2 _ htoken)
    · exact ⟨hnew _ hstarted, fun hne => absurd htoken hne⟩
  · intro j u hj hu
    rcases hsteps.thread hj hu with ⟨t, hi, hactive, hrequest, hid, htoken⟩ | ⟨hnone, hid, p, hp⟩
    · obtain ⟨hstarted, hminted⟩ := h.thread j t hi hactive
      rw [hrequest] at hstarted hminted
      refine ⟨hold _ (hid ▸ hstarted), fun token hu' => ?_⟩
      rcases htoken token hu' with hcarried | hdrawn
      · exact hold _ (hminted token hcarried)
      · exact hnew _ hdrawn
    · refine ⟨?_, fun token hu' => absurd hu' (by simp [hnone])⟩
      obtain ⟨p', hp', hstate, -⟩ :=
        hsound.broker.entry _ _ (hsound.entry_of_found hnonempty (hid ▸ hp))
      rw [← hid] at hp'
      exact hold _ (hstate ▸ (h.login _ p' hp').1)
  · intro r token hreturned
    rcases List.mem_append.mp hreturned with hreturned | hreturned
    · obtain ⟨s, hstarted, hminted⟩ := h.returned r token hreturned
      exact ⟨s, hold _ hstarted, hold _ hminted⟩
    · obtain ⟨p, hp, rfl, hne⟩ := hsteps.returned_login (by simpa using hreturned)
      obtain ⟨hstarted, hminted⟩ := h.login r p hp
      exact ⟨p.state, hold _ hstarted, hold _ (hminted hne)⟩

/-! ### Whole histories -/

variable {b : AuthBroker} {es : List AuthEvent}

/-- **Run lemma, origins.** -/
theorem run_issued (hids : AuthIDsFresh es) :
    ((AuthSystem.initial b).run es).Issued ((AuthSystem.initial b).outputs es) := by
  refine Trace.run_history AuthIDsFresh
    (fun es sys => AuthSystem.Issued sys ((AuthSystem.initial b).outputs es))
    (fun _ _ h => h.append_left) ?_ (fun es e hids h => ?_) hids
  · exact ⟨by simp [initial], by simp [initial], by simp⟩
  · rw [outputs_concat]
    exact h.step (run_sound b hids.append_left) (empty_not_mem_authIDs es) e

/-- Tokens are drawn and sessions stored for a state that a login was started with. -/
theorem started_of_served (hids : AuthIDsFresh es) {o : AuthOutput} {s : String}
    (ho : o ∈ (AuthSystem.initial b).outputs es) (hs : o.served? = some s) :
    ∃ r, .started r s ∈ (AuthSystem.initial b).outputs es := by
  induction es using List.reverseRecOn with
  | nil => exact absurd ho (by simp)
  | append_singleton es e ih =>
      rw [outputs_concat] at ho ⊢
      rcases List.mem_append.mp ho with ho | ho
      · obtain ⟨r, hr⟩ := ih hids.append_left ho
        exact ⟨r, List.mem_append_left _ hr⟩
      · obtain ⟨i, t, hi, hactive, rfl⟩ := (exec_steps _ e).served (by simpa using ho) hs
        have hstarted := ((run_issued hids.append_left).thread i t hi hactive).1
        exact ⟨t.requestID, List.mem_append_left _ hstarted⟩

/-- Every id is issued as a state, or drawn as a token, at most once. -/
theorem countP_outputs_drawn_le (id : String) :
    ((AuthSystem.initial b).outputs es).countP (AuthOutput.issues id) +
      ((AuthSystem.initial b).outputs es).countP (AuthOutput.mints id) ≤ (authIDs es).count id := by
  induction es using List.reverseRecOn with
  | nil => simp
  | append_singleton es e ih =>
      have := (exec_steps ((AuthSystem.initial b).run es) e).countP_drawn_le id
      rw [outputs_concat, authIDs_concat, List.countP_append, List.countP_append,
        List.count_append]
      omega

/-- **Run lemma, states.** -/
theorem countP_exchanges_le (hids : AuthIDsFresh es) (state : String) :
    ((AuthSystem.initial b).outputs es).countP (AuthOutput.exchanges state) ≤ 1 := by
  have hplaces : ((AuthSystem.initial b).outputs es).countP (AuthOutput.exchanges state) +
      ((AuthSystem.initial b).run es).statePlaces state ≤ (AuthSystem.initial b).statePlaces state +
        ((AuthSystem.initial b).outputs es).countP (AuthOutput.issues state) := by
    refine countP_outputs_le (statePlaces · state) _ _ fun pre e post hes => ?_
    have hids : AuthIDsFresh pre := by rw [hes] at hids; exact hids.append_left
    exact (exec_steps _ e).statePlaces_le (run_sound b hids) (empty_not_mem_authIDs pre) state
  have hdrawn := @countP_outputs_drawn_le b es state
  have honce := List.nodup_iff_count_le_one.mp hids state
  rw [show (AuthSystem.initial b).statePlaces state = 0 from rfl] at hplaces
  omega

/-- **Run lemma, tokens.** -/
theorem countP_returns_le (hids : AuthIDsFresh es) {token : String} (htoken : token ≠ "") :
    ((AuthSystem.initial b).outputs es).countP (AuthOutput.returns token) ≤ 1 := by
  have hplaces : ((AuthSystem.initial b).outputs es).countP (AuthOutput.returns token) +
      ((AuthSystem.initial b).run es).tokenPlaces token ≤ (AuthSystem.initial b).tokenPlaces token +
        ((AuthSystem.initial b).outputs es).countP (AuthOutput.mints token) := by
    refine countP_outputs_le (tokenPlaces · token) _ _ fun pre e post hes => ?_
    have hids : AuthIDsFresh pre := by rw [hes] at hids; exact hids.append_left
    exact (exec_steps _ e).tokenPlaces_le (run_sound b hids) htoken
  have hdrawn := @countP_outputs_drawn_le b es token
  have honce := List.nodup_iff_count_le_one.mp hids token
  rw [show (AuthSystem.initial b).tokenPlaces token = 0 from rfl] at hplaces
  omega

/-- A token is drawn for one state. -/
theorem minted_unique (hids : AuthIDsFresh es) {s s' token : String}
    (hs : .minted s token ∈ (AuthSystem.initial b).outputs es)
    (hs' : .minted s' token ∈ (AuthSystem.initial b).outputs es) : s = s' := by
  have hdrawn := @countP_outputs_drawn_le b es token
  have honce := List.nodup_iff_count_le_one.mp hids token
  have heq := eq_of_countP_le_one (p := AuthOutput.mints token) (by omega) hs hs'
    (by simp [AuthOutput.mints]) (by simp [AuthOutput.mints])
  exact (AuthOutput.minted.inj heq).1

/-- A token that has been drawn is not empty. -/
theorem minted_ne_empty {state token : String}
    (h : .minted state token ∈ (AuthSystem.initial b).outputs es) : token ≠ "" := by
  intro hempty
  have hdrawn := @countP_outputs_drawn_le b es token
  have hpos : 0 < ((AuthSystem.initial b).outputs es).countP (AuthOutput.mints token) :=
    List.countP_pos_iff.mpr ⟨_, h, by simp [AuthOutput.mints]⟩
  have hmem : token ∈ authIDs es := List.count_pos_iff.mp (by omega)
  exact empty_not_mem_authIDs es (hempty ▸ hmem)

end AuthSystem

/-- **Single use of login secrets.** Along every history of critical sections, a state
leads to at most one code exchange, and a token that a `Callback` draws is returned by at
most one `Status`, for the `requestId` that was issued together with the state of that
`Callback`. -/
theorem login_secrets_single_use (b : AuthBroker) {es : List AuthEvent}
    (hids : AuthIDsFresh es) :
    let outs := (AuthSystem.initial b).outputs es
    (∀ state, outs.countP (AuthOutput.exchanges state) ≤ 1) ∧
    ∀ state token, .minted state token ∈ outs →
      outs.countP (AuthOutput.returns token) ≤ 1 ∧
      ∀ requestID, .returned requestID token ∈ outs → .started requestID state ∈ outs := by
  intro outs
  refine ⟨AuthSystem.countP_exchanges_le hids, fun state token hminted => ⟨?_, ?_⟩⟩
  · exact AuthSystem.countP_returns_le hids (AuthSystem.minted_ne_empty hminted)
  · intro requestID hreturned
    obtain ⟨s, hstarted, hminted'⟩ :=
      (AuthSystem.run_issued hids).returned requestID token hreturned
    exact AuthSystem.minted_unique hids hminted hminted' ▸ hstarted

/-- The login of the tests is polled twice. -/
theorem login_secrets_single_use_polled :
    ((AuthSystem.initial testBroker).outputs
      (testLogin ++ [⟨5, .status 5 (randomID (testBytes 1))⟩,
        ⟨6, .status 6 (randomID (testBytes 1))⟩])).countP
          (AuthOutput.returns (randomID (testBytes 3))) ≤ 1 :=
  ((login_secrets_single_use testBroker (by decide)).2 (randomID (testBytes 2))
    (randomID (testBytes 3)) (by decide +kernel)).1

end GilStreaming.Coordinator
