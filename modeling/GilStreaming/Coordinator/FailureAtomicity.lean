import GilStreaming.Coordinator.History

/-!
# GilStreaming.Coordinator.FailureAtomicity

What a call leaves in memory when its save fails.

An operation that is told by `persistLocked` that nothing was saved should leave
the leases as they were, reaping aside. The two operations that create a lease
undo the creation. The others edit the lease map first and have no undo, so they
leave it as it was only when the edit was no edit: `Store.KeepsOnFailure` says
when that is, operation by operation, and `failed_call_atomic_iff` that it is
exact.
-/

namespace GilStreaming.Coordinator

/-- The edit that the call makes before it saves, and does not undo, changes nothing
but the expired leases. -/
def Store.KeepsOnFailure (s : Store) (env : CallEnv) : Call → Prop
  | .createOrRecover owner deviceID _ =>
    ∀ id l, (s.reapLocked env.now).leases.lookup id = some l → l.client = (owner, deviceID) →
      s.availableVM l.vmID ≠ none ∧ l.expiresAt = env.now + s.ttl
  | .heartbeat id _ =>
    ∀ l, (s.reapLocked env.now).leases.lookup id = some l → l.expiresAt = env.now + s.ttl
  | .release id _ =>
    ∀ k l, s.leases.lookup k = some l → (l.expiresAt ≤ env.now ↔ k = id)
  | .adminRelease id =>
    ∀ k l, s.leases.lookup k = some l → (l.expiresAt ≤ env.now ↔ k = id)
  | _ => True

/-- The leases after a call are those before it, less the expired ones. -/
def OnlyReaps (s : Store) (now : Int) (after : Leases) : Prop :=
  ∀ id, after.lookup id = (s.reapLocked now).leases.lookup id

section Failure

variable {s : Store} {disk : Disk} {env : CallEnv}

theorem persistThen_eq_error {α : Type} {undone : Store} {reply : α} {err : StoreError}
    (h : (s.persistThen disk env undone reply).result = .error err) :
    (s.persistThen disk env undone reply).store = undone := by
  cases hp : env.persist with
  | none => rw [persistThen_ok hp] at h; exact absurd h (by simp)
  | some step => exact (persistThen_error hp).1

/-- A grant that cannot be saved is undone. -/
theorem grantLocked_failed (hfresh : env.Fresh s.leases) {vm : VM}
    {owner deviceID deviceName : String} {err : StoreError}
    (h : (s.grantLocked disk env vm owner deviceID deviceName).result = .error err) (id : String) :
    (s.grantLocked disk env vm owner deviceID deviceName).store.leases.lookup id =
      s.leases.lookup id := by
  unfold Store.grantLocked at h ⊢
  cases hid : env.randomID with
  | none => rfl
  | some id' =>
      rw [hid] at h
      dsimp only at h ⊢
      rw [persistThen_eq_error h, GoMap.lookup_erase_eq]
      split
      · next heq => rw [heq, hfresh id' hid]
      · next hne => rw [GoMap.lookup_insert_eq, if_neg hne]

theorem allocateLocked_failed (hfresh : env.Fresh s.leases) {owner deviceID deviceName : String}
    {err : StoreError}
    (h : (s.allocateLocked disk env owner deviceID deviceName).result = .error err) (id : String) :
    (s.allocateLocked disk env owner deviceID deviceName).store.leases.lookup id =
      s.leases.lookup id := by
  revert h
  unfold Store.allocateLocked
  dsimp only
  split
  · exact fun _ => rfl
  · exact fun h => grantLocked_failed hfresh h id

/-- Extending a lease changes nothing exactly when it already had the new expiry. -/
theorem onlyReaps_renewed {id : String} {l : Lease}
    (hl : (s.reapLocked env.now).leases.lookup id = some l) :
    OnlyReaps s env.now ((s.reapLocked env.now).renewLocked env.now id l).leases ↔
      l.expiresAt = env.now + s.ttl := by
  constructor
  · intro h
    have heq := h id
    rw [lookup_renewLocked, if_pos rfl, hl] at heq
    exact (congrArg Lease.expiresAt (Option.some.inj heq)).symm
  · intro h id'
    rw [lookup_renewLocked]
    split
    · next heq => rw [heq, hl, reapLocked_ttl, ← h]
    · rfl

/-- Taking a lease out changes nothing exactly when it was the one expired lease. -/
theorem onlyReaps_erased {id : String} :
    OnlyReaps s env.now (s.leases.erase id) ↔
      ∀ k l, s.leases.lookup k = some l → (l.expiresAt ≤ env.now ↔ k = id) := by
  constructor
  · intro h k l' hl'
    have heq := h k
    rw [GoMap.lookup_erase_eq, hl'] at heq
    by_cases hlive : env.now < l'.expiresAt
    · rw [lookup_reapLocked.mpr ⟨hl', hlive⟩] at heq
      split at heq
      · exact absurd heq (by simp)
      · next hne => exact ⟨fun hdead => by omega, fun hk => absurd hk hne⟩
    · have hnone : (s.reapLocked env.now).leases.lookup k = none := by
        rw [Option.eq_none_iff_forall_ne_some]
        intro l'' hl''
        obtain ⟨hl'', hlive'⟩ := lookup_reapLocked.mp hl''
        exact hlive (Option.some.inj (hl'.symm.trans hl'') ▸ hlive')
      rw [hnone] at heq
      split at heq
      · next hk => exact ⟨fun _ => hk, fun _ => by omega⟩
      · exact absurd heq (by simp)
  · intro h k
    rw [GoMap.lookup_erase_eq]
    refine Option.ext fun l' => ?_
    rw [lookup_reapLocked]
    constructor
    · intro hl'
      split at hl'
      · exact absurd hl' (by simp)
      · next hne => exact ⟨hl', by have := (h k l' hl').mp.mt hne; omega⟩
    · rintro ⟨hl', hlive⟩
      rw [if_neg fun hk => by have := (h k l' hl').mpr hk; omega]
      exact hl'

end Failure

section Calls

variable {s : Store} {disk : Disk} {env : CallEnv} {step : PersistStep}

theorem CallEnv.Fresh.reaped (h : env.Fresh s.leases) :
    env.Fresh (s.reapLocked env.now).leases := by
  intro id hid
  rw [Store.reapLocked, GoMap.lookup_filter, h id hid]
  rfl

theorem createOrRecover_atomic_iff (hs : s.leases.Exclusive) (hfresh : env.Fresh s.leases)
    {owner deviceID deviceName : String}
    (h : (s.createOrRecover disk env owner deviceID deviceName).result =
      .error (.persist step)) :
    OnlyReaps s env.now
        (s.createOrRecover disk env owner deviceID deviceName).store.leases ↔
      s.KeepsOnFailure env (.createOrRecover owner deviceID deviceName) := by
  have hreaped := hs.reaped env.now
  revert h
  unfold Store.createOrRecover
  dsimp only
  split
  · next k l hfind =>
      obtain ⟨hl, howner, hdevice⟩ := clientLease_eq_some hfind
      dsimp only at hl howner hdevice
      have hclient : l.client = (owner, deviceID) := by rw [← howner, ← hdevice]; rfl
      split
      · next vm hvm =>
          rw [persistThen_self, onlyReaps_renewed hl]
          refine fun _ => ⟨fun hexp id l' hl' hclient' => ?_, fun h => (h k l hl hclient).2⟩
          -- the client has no other lease
          obtain rfl := hreaped.client hl' hl (hclient'.trans hclient.symm)
          obtain rfl := Option.some.inj (hl'.symm.trans hl)
          rw [renewLocked_availableVM, reapLocked_availableVM] at hvm
          exact ⟨by rw [hvm]; simp, hexp⟩
      · next hvm =>
          intro h
          rw [renewLocked_availableVM, reapLocked_availableVM] at hvm
          have hown := hs.own_id (lookup_reapLocked.mp hl).1
          refine ⟨fun hreaps => ?_, fun hkeeps => absurd hvm (hkeeps k l hl hclient).1⟩
          -- the lease that was dropped is missed
          have hgone := hreaps k
          rw [allocateLocked_failed ?_ h, hl, hown] at hgone
          · exact absurd hgone (by simp)
          · intro id hid
            rw [GoMap.lookup_erase_eq]
            split
            · rfl
            · next hne =>
                rw [lookup_renewLocked, if_neg (hown ▸ hne)]
                exact hfresh.reaped id hid
  · next hfind =>
      refine fun h => ⟨fun _ id l hl hclient => ?_, fun _ id => ?_⟩
      · exact absurd hclient (clientLease_eq_none.mp hfind id l hl)
      · rw [allocateLocked_failed hfresh.reaped h]

theorem heartbeat_atomic_iff {id owner : String}
    (h : (s.heartbeat disk env id owner).result = .error (.persist step)) :
    OnlyReaps s env.now (s.heartbeat disk env id owner).store.leases ↔
      s.KeepsOnFailure env (.heartbeat id owner) := by
  revert h
  unfold Store.heartbeat
  dsimp only
  split
  · exact fun h => absurd h (by simp)
  · next l hl =>
      split
      · exact fun h => absurd h (by simp)
      · intro _
        rw [persistThen_self, onlyReaps_renewed hl]
        exact ⟨fun hexp l' hl' => Option.some.inj (hl.symm.trans hl') ▸ hexp, fun h => h l hl⟩

theorem release_atomic_iff {id owner : String}
    (h : (s.release disk env id owner).result = .error (.persist step)) :
    OnlyReaps s env.now (s.release disk env id owner).store.leases ↔
      s.KeepsOnFailure env (.release id owner) := by
  revert h
  unfold Store.release
  split
  · exact fun h => absurd h (by simp)
  · split
    · exact fun h => absurd h (by simp)
    · intro _
      dsimp only
      rw [persistThen_self]
      exact onlyReaps_erased

theorem adminRelease_atomic_iff {id : String}
    (h : (s.adminRelease disk env id).result = .error (.persist step)) :
    OnlyReaps s env.now (s.adminRelease disk env id).store.leases ↔
      s.KeepsOnFailure env (.adminRelease id) := by
  revert h
  unfold Store.adminRelease
  split
  · exact fun h => absurd h (by simp)
  · intro _
    dsimp only
    rw [persistThen_self]
    exact onlyReaps_erased

theorem adminAssign_onlyReaps (hfresh : env.Fresh s.leases)
    {vmID owner deviceID deviceName : String} {err : StoreError}
    (h : (s.adminAssign disk env vmID owner deviceID deviceName).result = .error err) :
    OnlyReaps s env.now (s.adminAssign disk env vmID owner deviceID deviceName).store.leases := by
  revert h
  unfold Store.adminAssign
  dsimp only
  split
  · exact fun _ _ => rfl
  · split
    · exact fun _ _ => rfl
    · split
      · exact fun _ _ => rfl
      · exact fun h id => grantLocked_failed hfresh.reaped h id

end Calls

/-- In every reachable state, a call whose save fails leaves the leases as they were,
reaping aside, exactly when `KeepsOnFailure` holds of it. -/
theorem failed_call_atomic_iff (vms : List VM) (ttl : Int) {es : List Event} {env : CallEnv}
    {c : Call} {s : Store} {step : PersistStep} (hids : IDsFresh (es ++ [.call env c]))
    (hs : ((World.initial vms ttl).run es).process = some s)
    (hr : ((World.initial vms ttl).run es).reply (.call env c) =
      some (.error (.persist step))) :
    OnlyReaps s env.now
        (c.exec s ((World.initial vms ttl).run es).disk env).store.leases ↔
      s.KeepsOnFailure env c := by
  have hex := (World.run_sound vms ttl es).memory s hs
  have hfresh := World.run_fresh vms ttl hids hs
  have hr : (c.exec s ((World.initial vms ttl).run es).disk env).result =
      .error (.persist step) := by
    rw [World.reply, hs] at hr
    exact Option.some.inj hr
  cases c with
  | createOrRecover owner deviceID deviceName =>
      exact createOrRecover_atomic_iff hex hfresh (Except.map_eq_error hr)
  | heartbeat id owner => exact heartbeat_atomic_iff (Except.map_eq_error hr)
  | release id owner => exact release_atomic_iff (Except.map_eq_error hr)
  | leaseVM id owner =>
      rw [Call.exec, Outcome.map_store, leaseVM_leases]
      exact iff_of_true (fun _ => rfl) trivial
  | adminSnapshot =>
      rw [Call.exec, Outcome.map_store, adminSnapshot_leases]
      exact iff_of_true (fun _ => rfl) trivial
  | adminLease id =>
      rw [Call.exec, Outcome.map_store, adminLease_leases]
      exact iff_of_true (fun _ => rfl) trivial
  | adminRelease id => exact adminRelease_atomic_iff (Except.map_eq_error hr)
  | adminAssign vmID owner deviceID deviceName =>
      exact iff_of_true (adminAssign_onlyReaps hfresh (Except.map_eq_error hr)) trivial
  | updateVMs updates => exact absurd hr (by simp [Call.exec])

/-- An assignment of the second VM that cannot be saved. -/
theorem failed_call_atomic_iff_assign :
    ∃ s, ((World.initial testPool minute).run [firstServed]).process = some s ∧
      OnlyReaps s 1 (Call.exec s ((World.initial testPool minute).run [firstServed]).disk
        (testEnv 1 (some .writeFile) (some "b"))
        (.adminAssign "vm-2" "user-2" "device-2" "two")).store.leases :=
  ⟨_, rfl, (@failed_call_atomic_iff testPool minute [firstServed]
    (testEnv 1 (some .writeFile) (some "b")) (.adminAssign "vm-2" "user-2" "device-2" "two")
    _ .writeFile (by decide) rfl rfl).mpr trivial⟩

/-- A heartbeat that cannot be saved reports the failure and extends the lease all the
same. -/
theorem failed_heartbeat_not_atomic :
    ∃ s, ((World.initial testPool minute).run [firstServed]).process = some s ∧
      ((World.initial testPool minute).run [firstServed]).reply
        (.call (testEnv 1 (some .rename) none) (.heartbeat "a" "user-1")) =
          some (.error (.persist .rename)) ∧
      ¬ OnlyReaps s 1 (Call.exec s ((World.initial testPool minute).run [firstServed]).disk
        (testEnv 1 (some .rename) none) (.heartbeat "a" "user-1")).store.leases :=
  ⟨_, rfl, rfl, fun h => absurd (h "a") (by decide)⟩

end GilStreaming.Coordinator
