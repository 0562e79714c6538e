import GilStreaming.Coordinator.Handlers
import GilStreaming.Coordinator.Sunshine

/-!
# GilStreaming.Coordinator.Kick

`Server.adminKick` of `coordinator/admin.go`: whom a kick can hit.

A kick looks the lease up, has the VM's Sunshine host close the running application,
which may take seconds, and releases the lease. It removes no live lease but the one it
was asked for, whatever happens in between. The application it closes is another user's
when the lease has ended meanwhile, and the VM has been granted again
(`close_reaches_next_holder`); `kick_disturbs_nobody` says when it is not.
-/

namespace GilStreaming.Coordinator

open GilStreaming.Trace

/-- The request: the path and the query. -/
structure KickRequest where
  leaseID : String
  force : String
  deriving DecidableEq, Repr

inductive KickAnswer
  /-- `writeError`. -/
  | error (status : Nat) (code message : String)
  /-- 502 `SUNSHINE_CLOSE_FAILED`, with the text of the error. -/
  | closeFailed (err : SunshineError)
  /-- 204. -/
  | noContent
  deriving DecidableEq, Repr

/-- How far `adminKick` has come. -/
inductive KickProgress
  | requested
  /-- `AdminLease` has returned, and `CloseApp` is next. -/
  | found (lease : Lease) (vm : VM)
  /-- `CloseApp` waits for its reply. -/
  | closing (lease : Lease) (vm : VM)
  /-- `AdminRelease` is next. -/
  | releasing (lease : Lease)
  | answered (answer : KickAnswer)
  deriving DecidableEq, Repr

inductive KickEvent
  /-- `adminKick` calls `AdminLease`. -/
  | look
  /-- `CloseApp` starts. -/
  | close (configured validURL : Bool)
  /-- The reply to `CloseApp`'s request comes. -/
  | closed (reply : Fetched Bool)
  /-- `adminKick` calls `AdminRelease`. -/
  | release

/-- `adminKick` when `AdminLease` has returned. -/
def KickRequest.looked (request : KickRequest) :
    Option (Except StoreError Reply) → KickProgress
  | some (.ok (.leaseAndVM lease vm)) =>
    if request.force ≠ "1" then .found lease vm else .releasing lease
  | some (.error .leaseNotFound) => .answered (.error 404 "LEASE_NOT_FOUND" "lease was not found")
  | _ => .answered (.error 500 "INTERNAL_ERROR" "could not load lease")

/-- `adminKick` when `AdminRelease` has returned. -/
def KickProgress.released : Option (Except StoreError Reply) → KickProgress
  | some (.ok _) => .answered .noContent
  | _ => .answered (.error 500 "INTERNAL_ERROR" "could not release lease")

/-- `Server.adminKick`. -/
def adminKick (request : KickRequest) : RequestHandler KickProgress KickEvent SunshineRequest where
  call? s e :=
    match s, e with
    | .requested, .look => some (.adminLease request.leaseID)
    | .releasing lease, .release => some (.adminRelease lease.id)
    | _, _ => none
  next s _ e reply :=
    match s, e with
    | .requested, .look => (request.looked reply, none)
    | .found lease vm, .close configured validURL =>
      match closeAppRequest configured validURL with
      | .error err => (.answered (.closeFailed err), none)
      | .ok r => (.closing lease vm, some (vm, r))
    | .closing lease _, .closed reply =>
      match appClosed reply with
      | some err => (.answered (.closeFailed err), none)
      | none => (.releasing lease, none)
    | .releasing _, .release => (.released reply, none)
    | s, _ => (s, none)

/-- The lease and the VM that `adminKick` is about to close the application of. -/
def KickProgress.held : KickProgress → Option (Lease × VM)
  | .found lease vm => some (lease, vm)
  | .closing lease vm => some (lease, vm)
  | _ => none

/-- The lease that is being kicked. -/
def KickProgress.lease? : KickProgress → Option Lease
  | .found lease _ => some lease
  | .closing lease _ => some lease
  | .releasing lease => some lease
  | _ => none

theorem KickRequest.lease_looked {request : KickRequest}
    {reply : Option (Except StoreError Reply)} {L : Lease}
    (h : (request.looked reply).lease? = some L) :
    ∃ vm, reply = some (.ok (.leaseAndVM L vm)) := by
  unfold looked at h
  split at h
  · next lease vm =>
      refine ⟨vm, ?_⟩
      split at h <;> rw [← Option.some.inj h]
  · exact absurd h (by simp [KickProgress.lease?])
  · exact absurd h (by simp [KickProgress.lease?])

theorem KickRequest.held_looked {request : KickRequest}
    {reply : Option (Except StoreError Reply)} {L : Lease} {vm : VM}
    (h : (request.looked reply).held = some (L, vm)) :
    reply = some (.ok (.leaseAndVM L vm)) := by
  unfold looked at h
  split at h
  · split at h
    · obtain ⟨rfl, rfl⟩ := Prod.mk.inj (Option.some.inj h)
      rfl
    · exact absurd h (by simp [KickProgress.held])
  · exact absurd h (by simp [KickProgress.held])
  · exact absurd h (by simp [KickProgress.held])

theorem KickProgress.held_released (reply : Option (Except StoreError Reply)) :
    (KickProgress.released reply).held = none ∧ (KickProgress.released reply).lease? = none := by
  unfold released
  split <;> exact ⟨rfl, rfl⟩

/-- `adminKick` holds what its `AdminLease` has returned until it releases it, and sends to
that VM. -/
theorem adminKick_holds (request : KickRequest) : (adminKick request).Holds KickProgress.held where
  lookup s now e reply L vm h := by
    cases s with
    | requested =>
        cases e with
        | look => exact .inr ⟨_, rfl, .inr ⟨_, rfl⟩, KickRequest.held_looked h⟩
        | _ => exact absurd h (by simp [adminKick, KickProgress.held])
    | found lease vm' =>
        cases e with
        | close configured validURL =>
            refine .inl ⟨?_, rfl⟩
            simp only [adminKick] at h
            split at h
            · exact absurd h (by simp [KickProgress.held])
            · exact h
        | _ => exact .inl ⟨h, rfl⟩
    | closing lease vm' =>
        cases e with
        | closed reply =>
            simp only [adminKick] at h
            split at h <;> exact absurd h (by simp [KickProgress.held])
        | _ => exact .inl ⟨h, rfl⟩
    | releasing lease =>
        cases e with
        | release =>
            simp only [adminKick, KickProgress.held_released] at h
            exact absurd h (by simp)
        | _ => exact absurd h (by simp [adminKick, KickProgress.held])
    | answered answer => exact absurd h (by simp [adminKick, KickProgress.held])
  send s now e reply vm r h := by
    cases s with
    | found lease vm' =>
        cases e with
        | close configured validURL =>
            simp only [adminKick] at h
            split at h
            · exact absurd h (by simp)
            · obtain ⟨rfl, -⟩ := Prod.mk.inj (Option.some.inj h)
              exact ⟨lease, rfl⟩
        | _ => exact absurd h (by simp [adminKick])
    | closing lease vm' =>
        cases e with
        | closed reply =>
            simp only [adminKick] at h
            split at h <;> exact absurd h (by simp)
        | _ => exact absurd h (by simp [adminKick])
    | _ => cases e <;> exact absurd h (by simp [adminKick])

/-! ### Other leases -/

/-- A step of the kick leaves every live lease but the kicked one in memory, as it is. -/
def SparesOthers (request : KickRequest) (sys : HandlerSystem KickProgress)
    (e : HandlerEvent KickEvent) : Prop :=
  ∀ env ev s k l, e = .handler env ev → sys.world.process = some s →
    s.leases.lookup k = some l → k ≠ request.leaseID → env.now < l.expiresAt →
    ∃ s', ((adminKick request).step sys e).world.process = some s' ∧
      s'.leases.lookup k = some l

/-- The lease that is being kicked is the one of the request. -/
def KicksRequested (request : KickRequest) (sys : HandlerSystem KickProgress) : Prop :=
  ∀ L, sys.handler.lease? = some L → L.id = request.leaseID

section Kicks

variable {request : KickRequest} {sys : HandlerSystem KickProgress} {e : HandlerEvent KickEvent}

/-- **Step lemma.** -/
theorem KicksRequested.step (hw : sys.world.Sound) (h : KicksRequested request sys) :
    KicksRequested request ((adminKick request).step sys e) := by
  intro L hL
  cases e with
  | store env c => exact h L hL
  | handler env ev =>
      simp only [RequestHandler.step, adminKick] at hL
      split at hL
      · next hs =>
          obtain ⟨vm, hreply⟩ := KickRequest.lease_looked hL
          simp only [RequestHandler.reply, hs, Option.bind_some] at hreply
          obtain ⟨_, _, s, hcall, hstore, hr⟩ := World.reply_eq_some hreply
          cases hcall
          obtain ⟨r, hok, heq⟩ := Except.map_eq_ok hr
          obtain ⟨rfl, rfl⟩ := Reply.leaseAndVM.inj heq
          exact (hw.memory s hstore).own_id (lookup_reapLocked.mp (adminLease_ok hok).1).1
      · next lease vm configured validURL hs =>
          split at hL
          · exact absurd hL (by simp [KickProgress.lease?])
          · exact h L (by rw [hs]; exact hL)
      · next lease vm reply hs =>
          split at hL
          · exact absurd hL (by simp [KickProgress.lease?])
          · exact h L (by rw [hs]; exact hL)
      · rw [(KickProgress.held_released _).2] at hL
        exact absurd hL (by simp)
      · exact h L hL

/-- **Step lemma.** -/
theorem KicksRequested.sparesOthers (hw : sys.world.Sound) (h : KicksRequested request sys) :
    SparesOthers request sys e := by
  intro env ev s k l he hs hl hk hlive
  subst he
  cases hcall : (adminKick request).call? sys.handler ev with
  | none =>
      refine ⟨s, ?_, hl⟩
      simpa [RequestHandler.step, RequestHandler.worldEvent?, hcall] using hs
  | some c =>
      obtain rfl : l.id = k := (hw.memory s hs).own_id hl
      refine ⟨(c.exec s sys.world.disk env).store, ?_, ?_⟩
      · simp [RequestHandler.step, RequestHandler.worldEvent?, hcall, World.step_call hs]
      · simp only [adminKick] at hcall
        split at hcall
        · obtain rfl := Option.some.inj hcall
          rw [Call.exec, Outcome.map_store, adminLease_leases]
          exact lookup_reapLocked.mpr ⟨hl, hlive⟩
        · next lease hstage =>
            obtain rfl := Option.some.inj hcall
            refine exec_not_reaps hl rfl fun hreleases => ?_
            rcases hreleases with hreleases | hreleases
            · exact absurd hreleases (by simp)
            · exact hk ((Call.adminRelease.inj hreleases).symm.trans
                (h lease (by rw [hstage]; rfl)))
        · exact absurd hcall (by simp)

end Kicks

/-- **Kicking.** Along every interleaving of `adminKick` with the calls of other requests,
its steps remove no live lease but the kicked one. If none of the other calls ends that
lease while the kick is under way, and the close-app command is sent before its expiry,
then the command is sent while the lease is live and holds the VM. -/
theorem kick_disturbs_nobody (vms : List VM) (ttl : Int) (before : List Event)
    (request : KickRequest) (es : List (HandlerEvent KickEvent)) :
    let start : HandlerSystem KickProgress := ⟨(World.initial vms ttl).run before, .requested⟩
    (IDsFresh (before ++ (adminKick request).calls start es) →
      AllSteps (adminKick request).step
        ((adminKick request).Undisturbed KickProgress.held fun _ => true) start es →
      AllSteps (adminKick request).step
        ((adminKick request).SendsLive KickProgress.held fun _ => true) start es) ∧
    AllSteps (adminKick request).step (SparesOthers request) start es := by
  intro start
  refine ⟨(adminKick_holds request).sends_while_live vms ttl before rfl, ?_⟩
  have hsound : ∀ es, ((adminKick request).run start es).world.Sound := by
    intro es
    rw [RequestHandler.run_world, ← World.run_append]
    exact World.run_sound ..
  have hkicks : ∀ es, KicksRequested request ((adminKick request).run start es) := by
    intro es
    induction es using List.reverseRecOn with
    | nil =>
        intro L hL
        exact absurd hL (by simp [start, KickProgress.lease?])
    | append_singleton es e ih =>
        rw [RequestHandler.run_concat]
        exact ih.step (hsound es)
  induction es using List.reverseRecOn with
  | nil => trivial
  | append_singleton es e ih =>
      exact allSteps_concat.mpr ⟨ih, (hkicks es).sparesOthers (hsound es)⟩

/-- The first client of the tests is kicked, while another one is served. -/
def kickMeanwhile : List (HandlerEvent KickEvent) :=
  [.handler (testEnv 1 none none) .look,
    .store (testEnv 2 none (some "b")) (.createOrRecover "user-2" "device-2" "two"),
    .handler (testEnv 3 none none) (.close true true),
    .handler (testEnv 4 none none) (.closed (.response 200 (some true))),
    .handler (testEnv 5 none none) .release]

theorem kick_disturbs_nobody_served :
    AllSteps (adminKick ⟨"a", ""⟩).step
      ((adminKick ⟨"a", ""⟩).SendsLive KickProgress.held fun _ => true)
      ⟨(World.initial testPool minute).run [firstServed], .requested⟩ kickMeanwhile := by
  refine (kick_disturbs_nobody testPool minute [firstServed] ⟨"a", ""⟩ kickMeanwhile).1 (by decide)
    ⟨RequestHandler.undisturbed_idle (by decide), RequestHandler.undisturbed_store ?_,
      RequestHandler.undisturbed_handler ?_, RequestHandler.undisturbed_idle (by decide),
      RequestHandler.undisturbed_idle (by decide), trivial⟩
  · intro L vm hheld
    obtain rfl : firstLease = L := congrArg Prod.fst (Option.some.inj hheld)
    exact World.spares_otherClient (by decide) (World.before_of_lookup rfl rfl (by decide))
  · intro L vm r hheld _ _
    obtain rfl : firstLease = L := congrArg Prod.fst (Option.some.inj hheld)
    exact World.before_of_lookup rfl rfl (by decide)

/-- The first client releases its lease while it is kicked, and its VM goes to another
one. -/
def kickTooLate : List (HandlerEvent KickEvent) :=
  [.handler (testEnv 1 none none) .look,
    .store (testEnv 2 none none) (.release "a" "user-1"),
    .store (testEnv 3 none (some "b")) (.createOrRecover "user-2" "device-2" "two"),
    .handler (testEnv 4 none none) (.close true true)]

/-- The application of the second client is closed. -/
theorem close_reaches_next_holder :
    let start : HandlerSystem KickProgress :=
      ⟨(World.initial testPool minute).run [firstServed], .requested⟩
    let sys := (adminKick ⟨"a", ""⟩).run start kickTooLate.dropLast
    ((adminKick ⟨"a", ""⟩).sent sys (.handler (testEnv 4 none none) (.close true true))).map
        (fun sent => (sent.1.id, sent.2)) = some ("vm-1", .closeApp) ∧
    sys.world.LiveOn "b" "vm-1" 4 ∧
    ¬ AllSteps (adminKick ⟨"a", ""⟩).step
      ((adminKick ⟨"a", ""⟩).SendsLive KickProgress.held fun _ => true) start kickTooLate := by
  refine ⟨by decide, ⟨_, _, rfl, rfl, rfl, by decide⟩, fun h => ?_⟩
  obtain ⟨-, -, -, hlast, -⟩ := h
  obtain ⟨L, hheld, s, l, hs, hl, -⟩ := hlast _ _ rfl rfl
  obtain rfl : firstLease = L := congrArg Prod.fst (Option.some.inj hheld)
  obtain rfl := Option.some.inj hs
  exact nomatch hl

end GilStreaming.Coordinator
