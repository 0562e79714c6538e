import GilStreaming.Coordinator.Durability

/-!
# GilStreaming.Coordinator.CrashSafety

When the state file agrees with the memory.

`World.CrashSafe` compares a process that is up with the one a restart would
bring up at the same moment. In a run in which every save succeeds two things
keep them equal (`World.InStep`): what is in memory is in the file, and what is
only in the file has expired, because it was reaped. One path breaks the second
half: `CreateOrRecover` drops a lease on an unavailable VM, finds no VM to grant
instead, and returns without saving (`Store.Forgets`). `crashSafe_run_iff` says
that this path is the only one.
-/

namespace GilStreaming.Coordinator

open GilStreaming.Trace

/-! ### The comparison -/

/-- Loading the state file into a fresh store, at the clock reading `now`, gives
exactly the unexpired leases in memory. -/
def World.CrashSafe (w : World) (now : Int) : Prop :=
  ∀ s, w.process = some s → ∀ vms ttl, ∃ fresh,
    (newStore vms ttl).load w.disk false (fun _ => now) = .ok fresh ∧
      ∀ id, fresh.leases.lookup id = (s.reapLocked now).leases.lookup id

/-- The event's call drops its client's lease and returns without saving. -/
def World.Forgets (w : World) (e : Event) : Prop :=
  ∃ env c s, e = .call env c ∧ w.process = some s ∧ s.Forgets env c

/-- `persistLocked` does not fail in a call that returns. -/
def Event.Saves : Event → Prop
  | .call env _ => env.persist = none
  | _ => True

/-- What a fresh store holds after `Load` at the reading `now`. -/
theorem World.load_listed {w : World} (hw : w.Sound) {vms : List VM} {ttl now : Int}
    {s : Store} (h : (newStore vms ttl).load w.disk false (fun _ => now) = .ok s)
    {id : String} {l : Lease} :
    s.leases.lookup id = some l ↔ w.Listed id l ∧ now < l.expiresAt := by
  constructor
  · intro hl
    obtain ⟨leases, hfile, hmem, hid, _, hlive⟩ := lookup_load h hl
    exact ⟨⟨leases, hfile, hmem, hid⟩, hlive⟩
  · rintro ⟨⟨leases, hfile, hmem, rfl⟩, hlive⟩
    exact lookup_load_of_mem hw.disk h hfile hmem fun _ => hlive

/-- The comparison, one lease at a time. -/
theorem World.crashSafe_iff {w : World} {s : Store} {now : Int} (hw : w.Sound)
    (hs : w.process = some s) :
    w.CrashSafe now ↔
      ∀ l : Lease, now < l.expiresAt → (w.Listed l.id l ↔ s.leases.lookup l.id = some l) := by
  constructor
  · intro h l hlive
    obtain ⟨fresh, hload, heq⟩ := h s hs [] 0
    have hiff : fresh.leases.lookup l.id = some l ↔ w.Listed l.id l ∧ now < l.expiresAt :=
      World.load_listed hw hload
    rw [heq, lookup_reapLocked] at hiff
    simpa [hlive] using hiff.symm
  · intro h s' hs' vms ttl
    obtain rfl := Option.some.inj (hs.symm.trans hs')
    obtain ⟨fresh, hload⟩ := exists_load hw.disk vms ttl fun _ => now
    refine ⟨fresh, hload, fun id => Option.ext fun l => ?_⟩
    rw [World.load_listed hw hload, lookup_reapLocked]
    refine and_congr_left fun hlive => ?_
    constructor
    · rintro ⟨leases, hfile, hmem, rfl⟩
      exact (h l hlive).mp ⟨leases, hfile, hmem, rfl⟩
    · intro hl
      obtain rfl := (hw.memory s hs).own_id hl
      exact (h l hlive).mpr hl

/-! ### The invariant -/

/-- What is in memory is in the file, and what is only in the file has expired by any
instant not before the clock readings of `es`. -/
structure World.InStep (w : World) (es : List Event) : Prop where
  saved : ∀ s id l, w.process = some s → s.leases.lookup id = some l → w.Listed id l
  stale : ∀ s id l, w.process = some s → w.Listed id l → s.leases.lookup id ≠ some l →
    ∀ t, (∀ e ∈ es, ∀ r, e.Reads r → r ≤ t) → l.expiresAt ≤ t

/-- **Step lemma.** -/
theorem World.InStep.step {w : World} {es : List Event} {e : Event} (hw : w.Sound)
    (h : w.InStep es) (hsaves : e.Saves) (hkept : ¬ w.Forgets e) :
    (w.step e).InStep (es ++ [e]) := by
  have hboth : ∀ s', (w.step e).process = some s' → ∀ id l,
      (s'.leases.lookup id = some l → (w.step e).Listed id l) ∧
      ((w.step e).Listed id l → s'.leases.lookup id ≠ some l →
        ∀ t, (∀ e' ∈ es ++ [e], ∀ r, e'.Reads r → r ≤ t) → l.expiresAt ≤ t) := by
    intro s' hs' id l
    rcases World.step_process hs' with ⟨env, c, s, rfl, hs, rfl, hdisk⟩ |
      ⟨vms, ttl, readFails, now, rfl, hload, hdisk⟩
    · have hex := hw.memory s hs
      rw [World.Listed, hdisk]
      cases exec_persisted hex w.disk env c with
      | saved _ hd =>
          -- the file is what memory is
          rw [hd]
          have hown := ((exec_edited hex w.disk env c).exclusive hex).own_id
          refine ⟨fun hl => ⟨_, rfl, GoMap.mem_values.mpr ⟨id, hl⟩, hown hl⟩, ?_⟩
          rintro ⟨leases, hfile, hmem, rfl⟩ hne
          obtain rfl : (c.exec s w.disk env).store.leases.values env.order = leases := by
            simpa using hfile
          obtain ⟨k, hk⟩ := GoMap.mem_values.mp hmem
          exact absurd (hown hk ▸ hk) hne
      | failed step hp _ _ => exact absurd (hp.symm.trans hsaves) (by simp)
      | skipped hd hunsaved =>
          rw [hd]
          rcases hunsaved with hsame | hreaped | ⟨l', -, -, hforgets⟩
          · rw [hsame]
            exact ⟨h.saved s id l hs, fun hl hne t ht => h.stale s id l hs hl hne t
              fun e' he' => ht e' (List.mem_append_left _ he')⟩
          · rw [hreaped]
            refine ⟨fun hl => h.saved s id l hs (lookup_reapLocked.mp hl).1, ?_⟩
            intro hl hne t ht
            by_cases hmem : s.leases.lookup id = some l
            · have hnow := ht _ (List.mem_append_right _ (List.mem_singleton_self _)) env.now rfl
              have hdead : ¬ env.now < l.expiresAt :=
                fun hlive => hne (lookup_reapLocked.mpr ⟨hmem, hlive⟩)
              omega
            · exact h.stale s id l hs hl hmem t fun e' he' => ht e' (List.mem_append_left _ he')
          · exact absurd ⟨env, c, s, rfl, hs, hforgets⟩ hkept
    · rw [World.Listed, hdisk]
      constructor
      · intro hl
        obtain ⟨leases, hfile, hmem, hid, -⟩ := lookup_load hload hl
        exact ⟨leases, hfile, hmem, hid⟩
      · rintro ⟨leases, hfile, hmem, rfl⟩ hne t ht
        by_contra hlate
        -- a lease unexpired at every reading of this `Load` would have been loaded
        refine hne (lookup_load_of_mem hw.disk hload hfile hmem fun k => ?_)
        have := ht _ (List.mem_append_right _ (List.mem_singleton_self _)) (now k) ⟨k, rfl⟩
        omega
  exact ⟨fun s id l hs => (hboth s hs id l).1, fun s id l hs => (hboth s hs id l).2⟩

/-- **Run lemma.** -/
theorem World.run_inStep (vms : List VM) (ttl : Int) {es : List Event}
    (hsaves : ∀ e ∈ es, e.Saves)
    (hkept : AllSteps World.step (fun w e => ¬ w.Forgets e) (World.initial vms ttl) es) :
    ((World.initial vms ttl).run es).InStep es := by
  refine run_history (fun es => AllSteps World.step (fun w e => e.Saves ∧ ¬ w.Forgets e)
      (World.initial vms ttl) es) (fun es (w : World) => w.InStep es)
    (fun es e h => (allSteps_concat.mp h).1) ⟨?_, ?_⟩ ?_ ((AllSteps.of_forall hsaves _).and hkept)
  · intro s id l hs hl
    obtain rfl := Option.some.inj hs
    exact absurd hl (by simp)
  · rintro s id l - ⟨leases, hfile, -, -⟩
    exact absurd hfile (by simp [World.initial])
  · intro es e hadm h
    obtain ⟨hsave, hkeep⟩ := (allSteps_concat.mp hadm).2
    exact h.step (World.run_sound vms ttl es) hsave hkeep

/-- In step, at a reading that no earlier one exceeds, is crash-safe. -/
theorem World.InStep.crashSafe {w : World} {es : List Event} {now : Int} (hw : w.Sound)
    (h : w.InStep es) (hlast : ∀ e ∈ es, ∀ r, e.Reads r → r ≤ now) : w.CrashSafe now := by
  intro s hs
  refine (World.crashSafe_iff hw hs).mpr (fun l hlive => ⟨fun hl => ?_, h.saved s _ l hs⟩) s hs
  by_contra hne
  have := h.stale s _ l hs hl hne now hlast
  omega

/-! ### The path that forgets -/

/-- On that path the lease is out of memory and the disk is as it was. -/
theorem Store.Forgets.exec {s : Store} {env : CallEnv} {c : Call}
    (hs : s.leases.Exclusive) (disk : Disk) (h : s.Forgets env c) :
    ∃ l, (s.reapLocked env.now).leases.lookup l.id = some l ∧
      (c.exec s disk env).store.leases.lookup l.id = none ∧ (c.exec s disk env).disk = disk := by
  obtain ⟨l, hl, ⟨deviceName, rfl⟩, hvm, hnone⟩ := h
  refine ⟨l, hl, ?_⟩
  have hreaped := hs.reaped env.now
  rw [Call.exec, Outcome.map_store, Outcome.map_disk]
  unfold Store.createOrRecover
  dsimp only
  rw [hreaped.clientLease_eq env.order hl]
  dsimp only
  rw [renewLocked_availableVM, reapLocked_availableVM, hvm]
  dsimp only
  have hdropped : (s.dropLocked env.now l).leases.lookup l.id = none := AList.lookup_erase ..
  change ((s.dropLocked env.now l).allocateLocked disk env _ _ _).store.leases.lookup _ = _ ∧
    ((s.dropLocked env.now l).allocateLocked disk env _ _ _).disk = _
  unfold Store.allocateLocked
  dsimp only
  split
  · exact ⟨hdropped, rfl⟩
  · next vm hfind =>
      rcases hnone with hexhausted | hid
      · obtain ⟨hmem, havail, hunused⟩ := freeVM_eq_some hfind
        obtain ⟨k, l', hl', hvmID⟩ := hexhausted vm hmem havail
        exact absurd hvmID (hunused k l' hl')
      · unfold Store.grantLocked
        rw [hid]
        exact ⟨hdropped, rfl⟩

/-- After it the two disagree, if they agreed before. -/
theorem World.InStep.not_crashSafe {w : World} {es : List Event} {env : CallEnv} {c : Call}
    (hw : w.Sound) (h : w.InStep es) (hforgets : w.Forgets (.call env c)) :
    ¬ (w.step (.call env c)).CrashSafe env.now := by
  obtain ⟨_, _, s, hcall, hs, hforgets⟩ := hforgets
  cases hcall
  obtain ⟨l, hl, hgone, hdisk⟩ := hforgets.exec (hw.memory s hs) w.disk
  obtain ⟨hl, hlive⟩ := lookup_reapLocked.mp hl
  obtain ⟨leases, hfile, hmem, hid⟩ := h.saved s _ l hs hl
  intro hsafe
  have hw' := hw.step (.call env c)
  rw [World.step_call hs] at hsafe hw'
  have hlisted := ((World.crashSafe_iff hw' rfl).mp hsafe l hlive).mp
    ⟨leases, hdisk.symm ▸ hfile, hmem, hid⟩
  exact absurd (hgone.symm.trans hlisted) (by simp)

/-- In a run in which every save succeeds and the clock does not go back, the state
file agrees with the memory after every operation exactly when no `CreateOrRecover`
drops a lease without finding another VM for its client. -/
theorem crashSafe_run_iff (vms : List VM) (ttl : Int) {es : List Event}
    (hclock : ClockMonotone es) (hsaves : ∀ e ∈ es, e.Saves) :
    (∀ before env c, before ++ [.call env c] <+: es →
      ((World.initial vms ttl).run (before ++ [.call env c])).CrashSafe env.now) ↔
    AllSteps World.step (fun w e => ¬ w.Forgets e) (World.initial vms ttl) es := by
  constructor
  · induction es using List.reverseRecOn with
    | nil => intro _; trivial
    | append_singleton es e ih =>
        intro h
        have hsteps := ih hclock.append_left (fun e' he' => hsaves e' (List.mem_append_left _ he'))
          fun before env c hpre => h before env c (hpre.trans (List.prefix_append ..))
        refine allSteps_concat.mpr ⟨hsteps, fun hforgets => ?_⟩
        have hinStep := World.run_inStep vms ttl
          (fun e' he' => hsaves e' (List.mem_append_left _ he')) hsteps
        obtain ⟨env, c, s, rfl, hrest⟩ := hforgets
        have hsafe := h es env c (List.prefix_refl _)
        rw [World.run_concat] at hsafe
        exact hinStep.not_crashSafe (World.run_sound vms ttl es) ⟨env, c, s, rfl, hrest⟩ hsafe
  · rintro hsteps before env c ⟨after, rfl⟩
    have hinStep := World.run_inStep vms ttl
      (fun e he => hsaves e (List.mem_append_left _ he)) (allSteps_append.mp hsteps).1
    refine hinStep.crashSafe (World.run_sound ..) fun e he r hr => ?_
    rcases List.mem_append.mp he with he | he
    · exact hclock.append_left.le_of_append he (List.mem_singleton_self _) hr rfl
    · obtain rfl : e = .call env c := by simpa using he
      exact le_of_eq hr

theorem crashSafe_run_iff_released :
    ((World.initial testPool minute).run
      [firstServed, .call (testEnv 1 none none) (.release "a" "user-1")]).CrashSafe 1 := by
  refine (@crashSafe_run_iff testPool minute
    [firstServed, .call (testEnv 1 none none) (.release "a" "user-1")]
    (by simp [ClockMonotone, Trace.ClockMonotone, firstServed, Event.Reads, testEnv])
    (by simp [firstServed, Event.Saves, testEnv])).mpr ⟨?_, ?_, trivial⟩
    [firstServed] (testEnv 1 none none) (.release "a" "user-1") (List.prefix_refl _)
  · rintro ⟨_, _, s, -, hs, l, hl, -⟩
    obtain rfl := Option.some.inj hs
    exact absurd (lookup_reapLocked.mp hl).1 (by simp)
  · rintro ⟨_, _, s, hcall, -, l, -, ⟨_, hc⟩, -⟩
    cases hcall
    cases hc

/-- The pool of the tests with every VM switched off. -/
def disabledPool : List VM := testPool.map fun vm => { vm with enabled := false }

/-- A client whose VM was switched off asks again and is told that the pool is
exhausted. Memory has dropped its lease, the file has not. -/
theorem exhausted_not_crashSafe :
    let before := [firstServed, .crash, .restart disabledPool minute false fun _ => 1]
    let retry := Event.call (testEnv 2 none none) (.createOrRecover "user-1" "device-1" "one")
    ClockMonotone (before ++ [retry]) ∧ (∀ e ∈ before ++ [retry], e.Saves) ∧
      ((World.initial testPool minute).run before).reply retry =
        some (.error .poolExhausted) ∧
      ¬ ((World.initial testPool minute).run (before ++ [retry])).CrashSafe 2 := by
  refine ⟨?_, ?_, rfl, fun h => ?_⟩
  · simp [ClockMonotone, Trace.ClockMonotone, firstServed, Event.Reads, testEnv]
  · simp [firstServed, Event.Saves, testEnv]
  · have hiff := (World.crashSafe_iff (World.run_sound ..) rfl).mp h firstLease (by decide)
    exact absurd (hiff.mp ⟨[firstLease], rfl, List.mem_singleton_self _, rfl⟩) (by decide)

end GilStreaming.Coordinator
