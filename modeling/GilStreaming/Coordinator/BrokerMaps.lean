import GilStreaming.Coordinator.AuthSteps
import GilStreaming.Lib.Threads

/-!
# GilStreaming.Coordinator.BrokerMaps

The three maps of the login broker stay consistent.

`stateToRequest` is an index over the logins that still wait for their `Callback`: an
entry leads to such a login, which has that state. A `Callback` takes the entry away
when it arrives, and from then on its thread alone decides how the login ends, although
it does not hold the mutex meanwhile. So the invariant of the maps is proved together
with what the threads under way know about theirs (`AuthSystem.Sound`).
-/

namespace GilStreaming.Coordinator

open GilStreaming.Trace

/-! ### The broker -/

/-- What holds of the broker's maps between two critical sections. -/
structure AuthBroker.Consistent (b : AuthBroker) : Prop where
  entry : ∀ s r, b.stateToRequest.lookup s = some r → ∃ p, b.pending.lookup r = some p ∧
    p.state = s ∧ p.error = "" ∧ p.accessToken = ""
  clean : ∀ r p, b.pending.lookup r = some p → p.error = "" ∨ p.accessToken = ""
  keyed : b.pending.KeyedBy PendingAuth.requestID

namespace AuthBroker.Consistent

variable {b : AuthBroker} {r : String} {p : PendingAuth}

/-- No two entries lead to the same login. -/
theorem unshared (h : b.Consistent) {s s' : String} (hs : b.stateToRequest.lookup s = some r)
    (hs' : b.stateToRequest.lookup s' = some r) : s = s' := by
  obtain ⟨p, hp, rfl, -⟩ := h.entry s r hs
  obtain ⟨p', hp', rfl, -⟩ := h.entry s' r hs'
  rw [Option.some.inj (hp.symm.trans hp')]

theorem cleanupLocked (h : b.Consistent) (now : Int) : (b.cleanupLocked now).Consistent where
  entry := by
    intro s r hs
    obtain ⟨hs, hlive⟩ := cleanupLocked_stateToRequest.mp hs
    obtain ⟨p, hp, hstate, hclean⟩ := h.entry s r hs
    exact ⟨p, cleanupLocked_pending.mpr ⟨hp, hlive r p hp hstate⟩, hstate, hclean⟩
  clean := fun r p hp => h.clean r p (cleanupLocked_pending.mp hp).1
  keyed := fun _ _ hp => h.keyed (cleanupLocked_pending.mp hp).1

/-- A new login with a new id and a new state. -/
theorem start (h : b.Consistent) (hr : b.pending.lookup r = none)
    (hid : p.requestID = r) (herror : p.error = "") (htoken : p.accessToken = "") :
    Consistent { b with
      pending := b.pending.insert r p
      stateToRequest := b.stateToRequest.insert p.state r } where
  entry := by
    intro s r' hs
    rw [GoMap.lookup_insert_eq] at hs
    split at hs
    · next hstate =>
        obtain rfl := Option.some.inj hs
        exact ⟨p, AList.lookup_insert _, hstate.symm, herror, htoken⟩
    · obtain ⟨p', hp', hrest⟩ := h.entry s r' hs
      have hne : r' ≠ r := fun heq => by
        rw [heq, hr] at hp'
        exact absurd hp' (by simp)
      exact ⟨p', by rw [AList.lookup_insert_ne hne]; exact hp', hrest⟩
  clean := by
    intro r' p' hp'
    rw [GoMap.lookup_insert_eq] at hp'
    split at hp'
    · exact Option.some.inj hp' ▸ .inl herror
    · exact h.clean r' p' hp'
  keyed := by
    intro r' p' hp'
    rw [GoMap.lookup_insert_eq] at hp'
    split at hp'
    · next heq => exact Option.some.inj hp' ▸ (hid.trans heq.symm)
    · exact h.keyed hp'

/-- A login that no entry leads to is removed, with or without the entry of its state. -/
theorem forget (h : b.Consistent) (hp : b.pending.lookup r = some p)
    (hended : p.error ≠ "" ∨ p.accessToken ≠ "") {stateToRequest : GoMap String String}
    (hsub : ∀ s r', stateToRequest.lookup s = some r' → b.stateToRequest.lookup s = some r') :
    Consistent { b with
      pending := b.pending.erase p.requestID
      stateToRequest := stateToRequest } where
  entry := by
    intro s r' hs
    obtain ⟨p', hp', hstate, herror, htoken⟩ := h.entry s r' (hsub s r' hs)
    refine ⟨p', ?_, hstate, herror, htoken⟩
    rw [h.keyed hp, AList.lookup_erase_ne]
    · exact hp'
    · intro heq
      obtain rfl := Option.some.inj ((heq ▸ hp').symm.trans hp)
      exact hended.elim (fun hne => hne herror) (fun hne => hne htoken)
  clean := by
    intro r' p' hp'
    rw [GoMap.lookup_erase_eq] at hp'
    split at hp'
    · exact absurd hp' (by simp)
    · exact h.clean r' p' hp'
  keyed := by
    intro r' p' hp'
    rw [GoMap.lookup_erase_eq] at hp'
    split at hp'
    · exact absurd hp' (by simp)
    · exact h.keyed hp'

/-- An entry is consumed. -/
theorem consume (h : b.Consistent) (s : String) :
    Consistent { b with stateToRequest := b.stateToRequest.erase s } where
  entry := by
    intro s' r hs'
    rw [GoMap.lookup_erase_eq] at hs'
    split at hs'
    · exact absurd hs' (by simp)
    · exact h.entry s' r hs'
  clean := h.clean
  keyed := h.keyed

/-- The login of a consumed state ends, with an error or with a token. -/
theorem finish (h : b.Consistent) (hp : b.pending.lookup r = some p)
    (hconsumed : b.stateToRequest.lookup p.state = none) {p' : PendingAuth}
    (hid : p'.requestID = p.requestID) (hclean : p'.error = "" ∨ p'.accessToken = "")
    (sessions : GoMap String CoordinatorSession) :
    Consistent { b with pending := b.pending.insert r p', sessions := sessions } where
  entry := by
    intro s r' hs
    obtain ⟨q, hq, hstate, hrest⟩ := h.entry s r' hs
    refine ⟨q, ?_, hstate, hrest⟩
    rw [AList.lookup_insert_ne]
    · exact hq
    · intro heq
      obtain rfl := Option.some.inj ((heq ▸ hq).symm.trans hp)
      exact absurd hs (by rw [← hstate, hconsumed]; simp)
  clean := by
    intro r' q hq
    rw [GoMap.lookup_insert_eq] at hq
    split at hq
    · exact Option.some.inj hq ▸ hclean
    · exact h.clean r' q hq
  keyed := by
    intro r' q hq
    rw [GoMap.lookup_insert_eq] at hq
    split at hq
    · next heq => exact Option.some.inj hq ▸ (hid.trans ((h.keyed hp).trans heq.symm))
    · exact h.keyed hq

end AuthBroker.Consistent

/-! ### The threads -/

/-- The thread decides how its login ends, as long as the login is there. -/
def AuthBroker.Awaits (b : AuthBroker) (t : CallbackThread) : Prop :=
  ∀ p, b.pending.lookup t.requestID = some p → p.state = t.request.state ∧ p.error = "" ∧
    p.accessToken = "" ∧ b.stateToRequest.lookup p.state = none

/-- The maps are consistent, and every thread under way has a login of its own; `ids`
are the ids drawn so far. -/
structure AuthSystem.Sound (sys : AuthSystem) (ids : List String) : Prop where
  broker : sys.broker.Consistent
  drawn : ∀ r p, sys.broker.pending.lookup r = some p → r ∈ ids ∧ p.state ∈ ids
  threads : ∀ (i : Nat) (t : CallbackThread), sys.callbacks[i]? = some t →
    t.stage.active = true → t.requestID ∈ ids ∧ t.request.state ∈ ids ∧ sys.broker.Awaits t
  apart : ∀ (i j : Nat) (t u : CallbackThread), sys.callbacks[i]? = some t →
    sys.callbacks[j]? = some u → t.stage.active = true → u.stage.active = true →
    t.requestID = u.requestID → i = j

namespace AuthSystem

variable {sys sys' : AuthSystem} {ids ids' : List String} {i : Nat} {t : CallbackThread}
  {stage : CallbackStage}

/-- The threads after the `i`-th has moved. -/
theorem advance_eq_some (hi : sys.callbacks[i]? = some t) {j : Nat} {u : CallbackThread} :
    (sys.advance i t stage).callbacks[j]? = some u ↔
      (j = i ∧ u = { t with stage := stage }) ∨ (j ≠ i ∧ sys.callbacks[j]? = some u) :=
  Threads.getElem?_set_eq_some hi

/-- The threads under way after the step were under way before, for the same login. -/
def KeepsThreads (sys sys' : AuthSystem) : Prop :=
  ∀ (j : Nat) (u : CallbackThread), sys'.callbacks[j]? = some u → u.stage.active = true →
    ∃ t : CallbackThread, sys.callbacks[j]? = some t ∧ t.stage.active = true ∧
      t.request = u.request ∧ t.requestID = u.requestID

theorem keepsThreads_of_eq (h : sys'.callbacks = sys.callbacks) : sys.KeepsThreads sys' :=
  fun _ u hj hactive => ⟨u, h ▸ hj, hactive, rfl, rfl⟩

theorem keepsThreads_advance (hi : sys.callbacks[i]? = some t)
    (hactive : stage.active = true → t.stage.active = true) :
    sys.KeepsThreads (sys.advance i t stage) := by
  intro j u hj hu
  rcases (advance_eq_some hi).mp hj with ⟨rfl, rfl⟩ | ⟨-, hj⟩
  · exact ⟨t, hi, hactive hu, rfl, rfl⟩
  · exact ⟨u, hj, hu, rfl, rfl⟩

namespace Sound

/-- A step that starts no thread needs to keep the broker and what threads await. -/
theorem of_keeps (h : sys.Sound ids) (hkeeps : sys.KeepsThreads sys') (hids : ids ⊆ ids')
    (hbroker : sys'.broker.Consistent)
    (hdrawn : ∀ r p, sys'.broker.pending.lookup r = some p → r ∈ ids' ∧ p.state ∈ ids')
    (hawaits : ∀ (j : Nat) (t : CallbackThread), sys'.callbacks[j]? = some t →
      t.stage.active = true → t.requestID ∈ ids → t.request.state ∈ ids →
      sys.broker.Awaits t → sys'.broker.Awaits t) :
    sys'.Sound ids' where
  broker := hbroker
  drawn := hdrawn
  threads := by
    intro j u hj hu
    obtain ⟨t, ht, hactive, hrequest, hid⟩ := hkeeps j u hj hu
    obtain ⟨hr, hs, hawait⟩ := h.threads j t ht hactive
    rw [hid] at hr
    rw [hrequest] at hs
    rw [AuthBroker.Awaits, hid, hrequest] at hawait
    exact ⟨hids hr, hids hs, hawaits j u hj hu hr hs hawait⟩
  apart := by
    intro j k u v hj hk hu hv heq
    obtain ⟨t, ht, hactive, -, hid⟩ := hkeeps j u hj hu
    obtain ⟨t', ht', hactive', -, hid'⟩ := hkeeps k v hk hv
    exact h.apart j k t t' ht ht' hactive hactive' (by rw [hid, hid', heq])

/-- A thread still awaits its login when logins and entries only disappear. -/
theorem awaits_of_le {b b' : AuthBroker} (hawait : b.Awaits t)
    (hpending : ∀ p, b'.pending.lookup t.requestID = some p →
      b.pending.lookup t.requestID = some p)
    (hentry : ∀ s r, b'.stateToRequest.lookup s = some r → b.stateToRequest.lookup s = some r) :
    b'.Awaits t := by
  intro p hp
  obtain ⟨hstate, herror, htoken, hconsumed⟩ := hawait p (hpending p hp)
  refine ⟨hstate, herror, htoken, Option.eq_none_iff_forall_ne_some.mpr fun r hr => ?_⟩
  exact absurd (hentry _ r hr) (by simp [hconsumed])

/-- The login of a thread ends: no other thread awaits it. -/
theorem finish (h : sys.Sound ids) (hids : ids ⊆ ids') (hi : sys.callbacks[i]? = some t)
    (hactive : t.stage.active = true) (stage : CallbackStage) (hstage : stage.active = false)
    {p : PendingAuth} (hp : sys.broker.pending.lookup t.requestID = some p) (p' : PendingAuth)
    (hid : p'.requestID = p.requestID)
    (hstate : p'.state = p.state) (hclean : p'.error = "" ∨ p'.accessToken = "")
    (sessions : GoMap String CoordinatorSession) :
    ((sys.advance i t stage).withBroker { sys.broker with
      pending := sys.broker.pending.insert t.requestID p'
      sessions := sessions }).Sound ids' := by
  obtain ⟨hr, hs, hawait⟩ := h.threads i t hi hactive
  obtain ⟨-, -, -, hconsumed⟩ := hawait p hp
  have hkeeps : sys.KeepsThreads (sys.advance i t stage) :=
    keepsThreads_advance hi (by simp [hstage])
  refine h.of_keeps hkeeps hids (h.broker.finish hp hconsumed hid hclean sessions) ?_ ?_
  · intro r q hq
    rw [GoMap.lookup_insert_eq] at hq
    split at hq
    · next heq =>
        obtain rfl := Option.some.inj hq
        rw [heq, hstate]
        exact ⟨hids hr, hids (h.drawn _ p hp).2⟩
    · exact ⟨hids (h.drawn r q hq).1, hids (h.drawn r q hq).2⟩
  · intro j u hj hu _ _ hawait
    -- the thread is another one, so its login is another one
    have hne : u.requestID ≠ t.requestID := by
      intro heq
      rcases (advance_eq_some hi).mp hj with ⟨-, rfl⟩ | ⟨hne, hj⟩
      · exact absurd hu (by simp [hstage])
      · exact hne (h.apart j i u t hj hi hu hactive heq)
    intro q hq
    rw [AList.lookup_insert_ne hne] at hq
    exact hawait q hq

/-- A login is removed. -/
theorem forget (h : sys.Sound ids) (hids : ids ⊆ ids') {now : Int} {r : String} {p : PendingAuth}
    (hp : (sys.broker.cleanupLocked now).pending.lookup r = some p)
    (hended : p.error ≠ "" ∨ p.accessToken ≠ "") {stateToRequest : GoMap String String}
    (hsub : ∀ s r', stateToRequest.lookup s = some r' →
      (sys.broker.cleanupLocked now).stateToRequest.lookup s = some r') :
    (sys.withBroker { sys.broker.cleanupLocked now with
      pending := (sys.broker.cleanupLocked now).pending.erase p.requestID
      stateToRequest := stateToRequest }).Sound ids' := by
  have hle : ∀ r' q, ((sys.broker.cleanupLocked now).pending.erase p.requestID).lookup r' = some q →
      sys.broker.pending.lookup r' = some q := by
    intro r' q hq
    rw [GoMap.lookup_erase_eq] at hq
    split at hq
    · exact absurd hq (by simp)
    · exact (AuthBroker.cleanupLocked_pending.mp hq).1
  refine h.of_keeps (keepsThreads_of_eq rfl) hids
    ((h.broker.cleanupLocked now).forget hp hended hsub) ?_ ?_
  · intro r' q hq
    obtain ⟨hr, hs⟩ := h.drawn r' q (hle r' q hq)
    exact ⟨hids hr, hids hs⟩
  · intro _ u _ _ _ _ hawait
    exact awaits_of_le hawait (fun q hq => hle _ q hq) fun s r' hs =>
      (AuthBroker.cleanupLocked_stateToRequest.mp (hsub s r' hs)).1

/-- What has expired is removed. -/
theorem clean (h : sys.Sound ids) (hids : ids ⊆ ids') (now : Int) :
    (sys.withBroker (sys.broker.cleanupLocked now)).Sound ids' := by
  refine h.of_keeps (keepsThreads_of_eq rfl) hids (h.broker.cleanupLocked now) ?_ ?_
  · intro r p hp
    obtain ⟨hr, hs⟩ := h.drawn r p (AuthBroker.cleanupLocked_pending.mp hp).1
    exact ⟨hids hr, hids hs⟩
  · intro _ _ _ _ _ _ hawait
    exact awaits_of_le hawait (fun p hp => (AuthBroker.cleanupLocked_pending.mp hp).1)
      fun s r hs => (AuthBroker.cleanupLocked_stateToRequest.mp hs).1

/-- A login starts, with an id and a state that are new. -/
theorem start (h : sys.Sound ids) {p : PendingAuth} (hr : p.requestID ∉ ids)
    (hs : p.state ∉ ids) (herror : p.error = "") (htoken : p.accessToken = "")
    (hids : ids ⊆ ids') (hr' : p.requestID ∈ ids') (hs' : p.state ∈ ids') :
    (sys.withBroker { sys.broker with
      pending := sys.broker.pending.insert p.requestID p
      stateToRequest := sys.broker.stateToRequest.insert p.state p.requestID }).Sound ids' := by
  have hnew : sys.broker.pending.lookup p.requestID = none :=
    Option.eq_none_iff_forall_ne_some.mpr fun q hq => hr (h.drawn _ q hq).1
  refine h.of_keeps (keepsThreads_of_eq rfl) hids (h.broker.start hnew rfl herror htoken) ?_ ?_
  · intro r q hq
    rw [GoMap.lookup_insert_eq] at hq
    split at hq
    · next heq => exact Option.some.inj hq ▸ ⟨heq ▸ hr', hs'⟩
    · exact ⟨hids (h.drawn r q hq).1, hids (h.drawn r q hq).2⟩
  · intro _ u _ _ hu hstate hawait q hq
    have hne : u.requestID ≠ p.requestID := fun heq => hr (heq ▸ hu)
    rw [AList.lookup_insert_ne hne] at hq
    obtain ⟨hqstate, hrest⟩ := hawait q hq
    have hne' : q.state ≠ p.state := fun heq => hs (heq ▸ (hqstate ▸ hstate))
    exact ⟨hqstate, by rw [AList.lookup_insert_ne hne']; exact hrest⟩

/-- A `Callback` that finds no login has nothing to await. -/
theorem arrive (h : sys.Sound ids) (hids : ids ⊆ ids') (hstage : t.stage.active = false) :
    ({ sys with callbacks := sys.callbacks ++ [t] } : AuthSystem).Sound ids' := by
  have hkeeps : sys.KeepsThreads { sys with callbacks := sys.callbacks ++ [t] } := by
    intro j u hj hu
    rcases Threads.getElem?_concat_eq_some.mp hj with hj | ⟨-, rfl⟩
    · exact ⟨u, hj, hu, rfl, rfl⟩
    · exact absurd hu (by simp [hstage])
  exact h.of_keeps hkeeps hids h.broker
    (fun r p hp => ⟨hids (h.drawn r p hp).1, hids (h.drawn r p hp).2⟩)
    fun _ _ _ _ _ _ hawait => hawait

/-- The state that found a login is the one its entry had. -/
theorem entry_of_found (h : sys.Sound ids) (hnonempty : "" ∉ ids) {state : String}
    {p : PendingAuth} (hp : sys.broker.pending.lookup (sys.broker.requestOf state) = some p) :
    sys.broker.stateToRequest.lookup state = some (sys.broker.requestOf state) := by
  cases hentry : sys.broker.stateToRequest.lookup state with
  | some r => rw [AuthBroker.requestOf, hentry]; rfl
  | none =>
      -- no login has the empty id, which an unknown state would lead to
      rw [AuthBroker.requestOf, hentry] at hp
      exact absurd (h.drawn _ _ hp).1 hnonempty

/-- A `Callback` consumes the state of a login, which no thread had awaited. -/
theorem consume (h : sys.Sound ids) (hids : ids ⊆ ids') {request : CallbackRequest}
    {p : PendingAuth} (expiresAt : Option Int)
    (hentry : sys.broker.stateToRequest.lookup request.state = some t.requestID)
    (hp : sys.broker.pending.lookup t.requestID = some p)
    (ht : t = ⟨request, t.requestID, .checking expiresAt⟩) :
    (⟨{ sys.broker with stateToRequest := sys.broker.stateToRequest.erase request.state },
      sys.callbacks ++ [t]⟩ : AuthSystem).Sound ids' := by
  obtain ⟨p', hp', hstate, herror, htoken⟩ := h.broker.entry _ _ hentry
  obtain rfl := Option.some.inj (hp'.symm.trans hp)
  have hrequest : t.request = request := by rw [ht]
  obtain ⟨hr, hs⟩ := h.drawn _ p' hp
  have hle : ∀ s r, (sys.broker.stateToRequest.erase request.state).lookup s = some r →
      sys.broker.stateToRequest.lookup s = some r := by
    intro s r hs
    rw [GoMap.lookup_erase_eq] at hs
    split at hs
    · exact absurd hs (by simp)
    · exact hs
  -- a thread under way for this login would have left no entry
  have hother : ∀ (j : Nat) (u : CallbackThread), sys.callbacks[j]? = some u →
      u.stage.active = true → u.requestID ≠ t.requestID := by
    intro j u hj hu heq
    obtain ⟨-, -, hawait⟩ := h.threads j u hj hu
    obtain ⟨-, -, -, hconsumed⟩ := hawait p' (heq ▸ hp)
    exact absurd hentry (by rw [← hstate, hconsumed]; simp)
  constructor
  · exact h.broker.consume request.state
  · exact fun r q hq => ⟨hids (h.drawn r q hq).1, hids (h.drawn r q hq).2⟩
  · intro j u hj hu
    rcases Threads.getElem?_concat_eq_some.mp hj with hj | ⟨-, rfl⟩
    · obtain ⟨hr, hs, hawait⟩ := h.threads j u hj hu
      exact ⟨hids hr, hids hs, awaits_of_le hawait (fun _ hq => hq) hle⟩
    · refine ⟨hids hr, hids (hrequest ▸ hstate ▸ hs), fun q hq => ?_⟩
      obtain rfl := Option.some.inj (hq.symm.trans hp)
      exact ⟨hrequest ▸ hstate, herror, htoken, by rw [hstate]; exact AList.lookup_erase _ _⟩
  · intro j k u v hj hk hu hv heq
    rcases Threads.getElem?_concat_eq_some.mp hj with hj' | ⟨rfl, rfl⟩
    · rcases Threads.getElem?_concat_eq_some.mp hk with hk' | ⟨-, rfl⟩
      · exact h.apart j k u v hj' hk' hu hv heq
      · exact absurd heq (hother j u hj' hu)
    · rcases Threads.getElem?_concat_eq_some.mp hk with hk' | ⟨rfl, -⟩
      · exact absurd heq.symm (hother k v hk' hv)
      · rfl

/-- **Step lemma.** -/
theorem step (h : sys.Sound ids) (hnonempty : "" ∉ ids) {e : AuthEvent}
    (hfresh : ∀ id ∈ e.action.drawn, id ∉ ids) :
    (sys.step e).Sound (ids ++ e.action.drawn) := by
  have hids : ids ⊆ ids ++ e.action.drawn := List.subset_append_left _ _
  have hgrow : sys.Sound (ids ++ e.action.drawn) :=
    h.of_keeps (keepsThreads_of_eq rfl) hids h.broker
      (fun r p hp => ⟨hids (h.drawn r p hp).1, hids (h.drawn r p hp).2⟩) fun _ _ _ _ _ _ ha => ha
  have hsteps := sys.exec_steps e
  generalize sys.step e = sys' at hsteps ⊢
  generalize sys.output e = out at hsteps
  cases hsteps with
  | idle => exact hgrow
  | cleaned now hnow => exact h.clean hids now
  | started now deviceID deviceName requestID state hnow hdrawn =>
      -- both ids are new, so nothing in the maps is overwritten
      refine (h.clean (List.Subset.refl ids) now).start (p := ⟨requestID, state, deviceID,
        deviceName, now + authRequestLifetime, "", .zero, ""⟩) ?_ ?_ rfl rfl hids ?_ ?_
      · exact hfresh requestID (by simp [hdrawn])
      · exact hfresh state (by simp [hdrawn])
      · simp [hdrawn]
      · simp [hdrawn]
  | reported now requestID pending hnow hpending herror =>
      exact h.forget hids hpending (.inl herror) fun _ _ hs => hs
  | returned now requestID pending hnow hpending hclean htoken =>
      refine h.forget hids hpending (.inr htoken) fun s r hs => ?_
      rw [GoMap.lookup_erase_eq] at hs
      split at hs
      · exact absurd hs (by simp)
      · exact hs
  | unknown request requestID => exact h.arrive hids rfl
  | consumed request pending hpending =>
      exact h.consume hids (some pending.expiresAt) (h.entry_of_found hnonempty hpending)
        hpending rfl
  | givesUp i t stage hi hpast hactive =>
      exact hgrow.of_keeps (keepsThreads_advance hi hactive) (List.Subset.refl _) hgrow.broker
        hgrow.drawn fun _ _ _ _ _ _ ha => ha
  | exchange i t hi hwaiting =>
      exact hgrow.of_keeps
        (keepsThreads_advance hi fun _ => CallbackStage.active_of_waiting hwaiting)
        (List.Subset.refl _) hgrow.broker hgrow.drawn fun _ _ _ _ _ _ ha => ha
  | minted i t token profile hi hstage hdrawn htoken hprofile =>
      exact hgrow.of_keeps (keepsThreads_advance hi fun _ => by rw [hstage]; rfl)
        (List.Subset.refl _) hgrow.broker hgrow.drawn fun _ _ _ _ _ _ ha => ha
  | failed i t message reply hi hstage =>
      have hactive : t.stage.active = true := by rw [hstage]; rfl
      cases hp : sys.broker.pending.lookup t.requestID with
      | none =>
          rw [AuthBroker.failPending, hp]
          exact hgrow.of_keeps (keepsThreads_advance hi fun _ => hactive) (List.Subset.refl _)
            hgrow.broker hgrow.drawn fun _ _ _ _ _ _ ha => ha
      | some p =>
          rw [AuthBroker.failPending, hp]
          obtain ⟨-, -, hawait⟩ := h.threads i t hi hactive
          exact h.finish hids hi hactive (.answered reply) rfl hp { p with error := message } rfl
            rfl (.inr (hawait p hp).2.2.1) _
  | stored i t token profile current hi hstage hpending =>
      have hactive : t.stage.active = true := by rw [hstage]; rfl
      obtain ⟨-, -, hawait⟩ := h.threads i t hi hactive
      exact h.finish hids hi hactive (.answered _) rfl hpending
        { current with accessToken := token, profile := profile } rfl rfl
        (.inl (hawait current hpending).2.1) _
  | devSession token deviceID hdev hdrawn =>
      exact hgrow.of_keeps (keepsThreads_of_eq rfl) (List.Subset.refl _)
        ⟨hgrow.broker.entry, hgrow.broker.clean, hgrow.broker.keyed⟩ hgrow.drawn
        fun _ _ _ _ _ _ ha => ha

end Sound

theorem initial_sound (b : AuthBroker) : (AuthSystem.initial b).Sound [] where
  broker := ⟨by simp [initial], by simp [initial], fun _ _ h => absurd h (by simp [initial])⟩
  drawn := by simp [initial]
  threads := by simp [initial]
  apart := by simp [initial]

/-- **Run lemma.** -/
theorem run_sound (b : AuthBroker) {es : List AuthEvent} (hids : AuthIDsFresh es) :
    ((AuthSystem.initial b).run es).Sound (authIDs es) :=
  Trace.run_history AuthIDsFresh (fun es sys => AuthSystem.Sound sys (authIDs es))
    (fun _ _ h => h.append_left) (initial_sound b)
    (fun es e hids h => by
      rw [authIDs_concat]
      exact h.step (empty_not_mem_authIDs es) fun _ hid => hids.not_mem hid) hids

end AuthSystem

/-- **The maps of the broker.** After every history of critical sections, an entry of
`stateToRequest` leads to a login that is there, that has the entry's state, and that has
neither failed nor been given a token; no login has both an error and a token; no two
entries lead to the same login. And `cleanupLocked` leaves no expired login, no entry of
one, and no expired session. -/
theorem broker_maps_consistent (b : AuthBroker) {es : List AuthEvent} (hids : AuthIDsFresh es) :
    let broker := ((AuthSystem.initial b).run es).broker
    (∀ s r, broker.stateToRequest.lookup s = some r → ∃ p, broker.pending.lookup r = some p ∧
      p.state = s ∧ p.error = "" ∧ p.accessToken = "") ∧
    (∀ r p, broker.pending.lookup r = some p → ¬ (p.error ≠ "" ∧ p.accessToken ≠ "")) ∧
    (∀ s s' r, broker.stateToRequest.lookup s = some r →
      broker.stateToRequest.lookup s' = some r → s = s') ∧
    ∀ now,
      let cleaned := broker.cleanupLocked now
      (∀ r p, cleaned.pending.lookup r = some p → now < p.expiresAt) ∧
      (∀ r p, broker.pending.lookup r = some p → ¬ now < p.expiresAt →
        cleaned.stateToRequest.lookup p.state = none ∧
          ∀ s, cleaned.stateToRequest.lookup s ≠ some r) ∧
      ∀ k session, cleaned.sessions.lookup k = some session → now < session.expiresAt := by
  intro broker
  have hbroker : broker.Consistent := (AuthSystem.run_sound b hids).broker
  refine ⟨hbroker.entry, ?_, fun s s' r => hbroker.unshared, fun now => ⟨?_, ?_, ?_⟩⟩
  · intro r p hp hboth
    exact (hbroker.clean r p hp).elim hboth.1 hboth.2
  · exact fun r p hp => (AuthBroker.cleanupLocked_pending.mp hp).2
  · intro r p hp hexpired
    refine ⟨Option.eq_none_iff_forall_ne_some.mpr fun r' hs => ?_, fun s hs => ?_⟩
    · exact hexpired ((AuthBroker.cleanupLocked_stateToRequest.mp hs).2 r p hp rfl)
    · -- an entry that is left leads to a login that is left
      obtain ⟨p', hp', -⟩ := (hbroker.cleanupLocked now).entry s r hs
      obtain ⟨hp', hlive⟩ := AuthBroker.cleanupLocked_pending.mp hp'
      obtain rfl := Option.some.inj (hp'.symm.trans hp)
      exact hexpired hlive
  · exact fun k session hk => (AuthBroker.cleanupLocked_sessions.mp hk).2

theorem broker_maps_consistent_login :
    (∀ r p, ((AuthSystem.initial testBroker).run testLogin).broker.pending.lookup r = some p →
      ¬ (p.error ≠ "" ∧ p.accessToken ≠ "")) ∧
    ((AuthSystem.initial testBroker).run testLogin).broker.pending.len = 1 :=
  ⟨(broker_maps_consistent testBroker (by decide)).2.1, by decide +kernel⟩

end GilStreaming.Coordinator
