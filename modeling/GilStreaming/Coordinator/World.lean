import GilStreaming.Coordinator.Store
import GilStreaming.Lib.Trace

/-!
# GilStreaming.Coordinator.World

The coordinator as a system: one process holding a `Store`, the disk that
outlives it, and the events that happen to them.

Because every operation runs under the store's mutex, any interleaving of
concurrent requests is an order of whole calls, and a history is a list of
events. A process may also die, between calls or in the middle of one. A call
has at most one `persistLocked`, and where it dies decides only how far that
one came, so a death in the middle of a call leaves the disk that the call
leaves for some outcome of `persistLocked`, and nothing else: no memory and no
reply. (Dying before `persistLocked` starts is dying at its first step; dying
between the rename and the return is the outcome in which it succeeds.)

A restart is what `main` does: `NewStore` on the configured VM list, then
`Load`; the process does not come up when `Load` fails.
-/

namespace GilStreaming.Coordinator

open GilStreaming.Trace

/-! ### Calls and replies -/

/-- A call of one of the store's operations with its arguments. -/
inductive Call
  | createOrRecover (owner deviceID deviceName : String)
  | heartbeat (id owner : String)
  | release (id owner : String)
  | leaseVM (id owner : String)
  | adminSnapshot
  | adminLease (id : String)
  | adminRelease (id : String)
  | adminAssign (vmID owner deviceID deviceName : String)
  | updateVMs (updates : GoMap String VM)

/-- What a successful call returns. -/
inductive Reply
  | leaseAndVM (lease : Lease) (vm : VM)
  | lease (lease : Lease)
  | done
  | snapshot (vms : List VM) (leases : List Lease)
  deriving DecidableEq, Repr

/-- The lease a reply names. -/
def Reply.lease? : Reply → Option Lease
  | .leaseAndVM l _ => some l
  | .lease l => some l
  | _ => none

def Outcome.map {α β : Type} (f : α → β) (o : Outcome α) : Outcome β :=
  ⟨o.store, o.disk, o.result.map f⟩

@[simp] theorem Outcome.map_store {α β : Type} (f : α → β) (o : Outcome α) :
    (o.map f).store = o.store := rfl

@[simp] theorem Outcome.map_disk {α β : Type} (f : α → β) (o : Outcome α) :
    (o.map f).disk = o.disk := rfl

@[simp] theorem Outcome.map_result {α β : Type} (f : α → β) (o : Outcome α) :
    (o.map f).result = o.result.map f := rfl

/-- Run one call. -/
def Call.exec (s : Store) (disk : Disk) (env : CallEnv) : Call → Outcome Reply
  | .createOrRecover owner deviceID deviceName =>
    (s.createOrRecover disk env owner deviceID deviceName).map fun r => .leaseAndVM r.1 r.2
  | .heartbeat id owner => (s.heartbeat disk env id owner).map .lease
  | .release id owner => (s.release disk env id owner).map fun _ => .done
  | .leaseVM id owner => (s.leaseVM disk env id owner).map fun r => .leaseAndVM r.1 r.2
  | .adminSnapshot => (s.adminSnapshot disk env).map fun r => .snapshot r.1 r.2
  | .adminLease id => (s.adminLease disk env id).map fun r => .leaseAndVM r.1 r.2
  | .adminRelease id => (s.adminRelease disk env id).map fun _ => .done
  | .adminAssign vmID owner deviceID deviceName =>
    (s.adminAssign disk env vmID owner deviceID deviceName).map fun r => .leaseAndVM r.1 r.2
  | .updateVMs updates => ⟨s.updateVMs updates, disk, .ok .done⟩

/-! ### Events and runs -/

inductive Event
  /-- A call runs to its return. -/
  | call (env : CallEnv) (c : Call)
  /-- The process dies between two calls. -/
  | crash
  /-- The process dies inside a call. -/
  | crashDuring (env : CallEnv) (c : Call)
  /-- `main` starts the process on this configuration; `now k` is the reading of
  the clock for the `k`-th lease of the state file. -/
  | restart (vms : List VM) (ttl : Int) (readFails : Bool) (now : Nat → Int)

/-- The process, if it is up, and the disk. -/
structure World where
  process : Option Store
  disk : Disk

/-- A first start: no lease in memory, no file on disk. -/
def World.initial (vms : List VM) (ttl : Int) : World :=
  ⟨some (newStore vms ttl), ⟨none, none⟩⟩

def World.step (w : World) : Event → World
  | .call env c =>
    match w.process with
    | none => w
    | some s => ⟨some (c.exec s w.disk env).store, (c.exec s w.disk env).disk⟩
  | .crash => { w with process := none }
  | .crashDuring env c =>
    match w.process with
    | none => w
    | some s => ⟨none, (c.exec s w.disk env).disk⟩
  | .restart vms ttl readFails now =>
    { w with process := ((newStore vms ttl).load w.disk readFails now).toOption }

/-- What the caller of an event's call is told, if it is told anything. -/
def World.reply (w : World) : Event → Option (Except StoreError Reply)
  | .call env c => w.process.map fun s => (c.exec s w.disk env).result
  | _ => none

/-- The world after a history. -/
abbrev World.run (w : World) (es : List Event) : World := Trace.run World.step w es

theorem World.run_concat (w : World) (es : List Event) (e : Event) :
    w.run (es ++ [e]) = (w.run es).step e := Trace.run_concat ..

theorem World.run_append (w : World) (es es' : List Event) :
    w.run (es ++ es') = (w.run es).run es' := Trace.run_append ..

/-! ### What a history leaves open -/

/-- The call an event makes, whether or not it returns. -/
def Event.call? : Event → Option (CallEnv × Call)
  | .call env c => some (env, c)
  | .crashDuring env c => some (env, c)
  | _ => none

/-- The id that `randomID` returns to the event's call. -/
def Event.randomID? (e : Event) : Option String := e.call?.bind fun p => p.1.randomID

/-- `randomID` never returns the same id twice. (An id offered to a call that
does not reach `randomID` may as well be `none`.) -/
def IDsFresh (es : List Event) : Prop := (es.filterMap Event.randomID?).Nodup

instance (es : List Event) : Decidable (IDsFresh es) :=
  inferInstanceAs (Decidable (es.filterMap Event.randomID?).Nodup)

/-- `t` is a reading of the clock taken by the event. -/
def Event.Reads : Event → Int → Prop
  | .call env _, t => t = env.now
  | .crash, _ => False
  | .crashDuring env _, t => t = env.now
  | .restart _ _ _ now, t => ∃ k, t = now k

theorem Event.reads_of_call {e : Event} {env : CallEnv} {c : Call}
    (h : e.call? = some (env, c)) : e.Reads env.now := by
  cases e with
  | call env' c' =>
      obtain ⟨rfl, rfl⟩ := Prod.mk.injEq .. ▸ Option.some.inj h
      rfl
  | crashDuring env' c' =>
      obtain ⟨rfl, rfl⟩ := Prod.mk.injEq .. ▸ Option.some.inj h
      rfl
  | _ => exact absurd h (by simp [Event.call?])

/-- The clock never goes back along the history. -/
abbrev ClockMonotone (es : List Event) : Prop := Trace.ClockMonotone Event.Reads es

theorem IDsFresh.append_left {es es' : List Event} (h : IDsFresh (es ++ es')) : IDsFresh es := by
  rw [IDsFresh, List.filterMap_append] at h
  exact (List.nodup_append.mp h).1

theorem IDsFresh.concat_restart {es : List Event} (h : IDsFresh es) (vms : List VM) (ttl : Int)
    (readFails : Bool) (now : Nat → Int) : IDsFresh (es ++ [.restart vms ttl readFails now]) := by
  rw [IDsFresh, List.filterMap_append,
    show [Event.restart vms ttl readFails now].filterMap Event.randomID? = [] from rfl,
    List.append_nil]
  exact h

/-- The id drawn by the last event was not drawn before. -/
theorem IDsFresh.not_mem_of_concat {es : List Event} {e : Event} {id : String}
    (h : IDsFresh (es ++ [e])) (he : e.randomID? = some id) :
    id ∉ es.filterMap Event.randomID? := by
  rw [IDsFresh, List.filterMap_append] at h
  intro hid
  exact (List.nodup_append.mp h).2.2 id hid id (by simp [he]) rfl

section Step

variable {w : World} {s : Store} {env : CallEnv} {c : Call}

theorem World.step_call (h : w.process = some s) :
    w.step (.call env c) = ⟨some (c.exec s w.disk env).store, (c.exec s w.disk env).disk⟩ := by
  simp only [World.step, h]

theorem World.step_call_down (h : w.process = none) : w.step (.call env c) = w := by
  simp only [World.step, h]

theorem World.step_crashDuring (h : w.process = some s) :
    w.step (.crashDuring env c) = ⟨none, (c.exec s w.disk env).disk⟩ := by
  simp only [World.step, h]

theorem World.step_crashDuring_down (h : w.process = none) :
    w.step (.crashDuring env c) = w := by
  simp only [World.step, h]

/-- A reply comes from a process that was up, running that call. -/
theorem World.reply_eq_some {e : Event} {r : Except StoreError Reply}
    (h : w.reply e = some r) :
    ∃ env c s, e = .call env c ∧ w.process = some s ∧ (c.exec s w.disk env).result = r := by
  cases e with
  | call env c =>
      obtain ⟨s, hs, hr⟩ := Option.map_eq_some_iff.mp h
      exact ⟨env, c, s, rfl, hs, hr⟩
  | crash => simp [World.reply] at h
  | crashDuring env c => simp [World.reply] at h
  | restart vms ttl readFails now => simp [World.reply] at h

/-- What `main`'s `Load` builds: an empty store when there is no state file, and
otherwise the unexpired leases of the file. -/
theorem load_newStore {vms : List VM} {ttl : Int} {disk : Disk} {readFails : Bool}
    {now : Nat → Int} (h : (newStore vms ttl).load disk readFails now = .ok s) :
    (disk.stateFile = none ∧ s = newStore vms ttl) ∨
      ∃ leases, disk.stateFile = some (.state leases) ∧
        s = { newStore vms ttl with leases := loadLeases now 0 leases ∅ } := by
  unfold Store.load at h
  split at h
  · exact absurd h (by simp)
  · split at h
    · next hfile => exact .inl ⟨hfile, (Except.ok.inj h).symm⟩
    · exact absurd h (by simp)
    · next leases hfile => exact .inr ⟨leases, hfile, (Except.ok.inj h).symm⟩

theorem load_ttl {vms : List VM} {ttl : Int} {disk : Disk} {readFails : Bool}
    {now : Nat → Int} (h : (newStore vms ttl).load disk readFails now = .ok s) : s.ttl = ttl := by
  rcases load_newStore h with ⟨-, rfl⟩ | ⟨_, -, rfl⟩ <;> rfl

/-- A process that is up after an event has just run a call, or has just started. -/
theorem World.step_process {e : Event} {s' : Store} (h : (w.step e).process = some s') :
    (∃ env c s, e = .call env c ∧ w.process = some s ∧ s' = (c.exec s w.disk env).store ∧
      (w.step e).disk = (c.exec s w.disk env).disk) ∨
    ∃ vms ttl readFails now, e = .restart vms ttl readFails now ∧
      (newStore vms ttl).load w.disk readFails now = .ok s' ∧ (w.step e).disk = w.disk := by
  cases e with
  | call env c =>
      cases hs : w.process with
      | none => rw [World.step_call_down hs] at h; exact absurd (hs.symm.trans h) (by simp)
      | some s =>
          rw [World.step_call hs] at h ⊢
          exact .inl ⟨env, c, s, rfl, rfl, (Option.some.inj h).symm, rfl⟩
  | crash => exact absurd h (by simp [World.step])
  | crashDuring env c =>
      cases hs : w.process with
      | none => rw [World.step_crashDuring_down hs] at h; exact absurd (hs.symm.trans h) (by simp)
      | some s => rw [World.step_crashDuring hs] at h; exact absurd h (by simp)
  | restart vms ttl readFails now =>
      refine .inr ⟨vms, ttl, readFails, now, rfl, ?_, rfl⟩
      cases hload : (newStore vms ttl).load w.disk readFails now with
      | error err => exact absurd h (by simp [World.step, hload, Except.toOption])
      | ok s =>
          obtain rfl : s = s' := by simpa [World.step, hload, Except.toOption] using h
          rfl

/-- **Step rule.** `M` holds of the memory after an event, if there is one, and `D`
of the disk, when they hold after the event's call, `M` after its `Load`, and `D` of
the disk as it was. -/
theorem World.step_rule {M : Store → Prop} {D : Disk → Prop} {e : Event}
    (hcall : ∀ env c s, e.call? = some (env, c) → w.process = some s →
      M (c.exec s w.disk env).store ∧ D (c.exec s w.disk env).disk)
    (hload : ∀ vms ttl readFails now s, e = .restart vms ttl readFails now →
      (newStore vms ttl).load w.disk readFails now = .ok s → M s)
    (hdisk : D w.disk) :
    (∀ s, (w.step e).process = some s → M s) ∧ D (w.step e).disk := by
  cases e with
  | call env c =>
      cases hs : w.process with
      | none =>
          rw [World.step_call_down hs]
          exact ⟨fun s' hs' => absurd (hs.symm.trans hs') (by simp), hdisk⟩
      | some s =>
          rw [World.step_call hs]
          obtain ⟨hM, hD⟩ := hcall env c s rfl hs
          exact ⟨fun s' hs' => Option.some.inj hs' ▸ hM, hD⟩
  | crash => exact ⟨by simp [World.step], hdisk⟩
  | crashDuring env c =>
      cases hs : w.process with
      | none =>
          rw [World.step_crashDuring_down hs]
          exact ⟨fun s' hs' => absurd (hs.symm.trans hs') (by simp), hdisk⟩
      | some s =>
          rw [World.step_crashDuring hs]
          exact ⟨by simp, (hcall env c s rfl hs).2⟩
  | restart vms ttl readFails now =>
      refine ⟨fun s hs => ?_, hdisk⟩
      cases h : (newStore vms ttl).load w.disk readFails now with
      | error err => exact absurd hs (by simp [World.step, h, Except.toOption])
      | ok s' =>
          obtain rfl : s' = s := by simpa [World.step, h, Except.toOption] using hs
          exact hload vms ttl readFails now s' rfl h

end Step

/-! ### The pool of the tests

The pool, the lifetime and the calls of `store_test.go`, for the concrete
histories in the modules that follow. -/

def testPool : List VM :=
  [⟨"vm-1", "", "", "vm1", 47989, "", 0, "", true⟩,
    ⟨"vm-2", "", "", "vm2", 47989, "", 0, "", true⟩]

/-- `time.Second`. -/
def second : Int := 1000000000

/-- `time.Minute`, the lifetime of the tests' leases. -/
def minute : Int := 60 * second

/-- A call's environment: clock, outcome of `persistLocked`, id to draw. -/
def testEnv (now : Int) (persist : Option PersistStep) (randomID : Option String) : CallEnv :=
  ⟨now, .stored, persist, randomID⟩

/-- The lease that the first client of the tests is given at time zero. -/
def firstLease : Lease := ⟨"a", "vm-1", "user-1", "device-1", "one", 0, minute⟩

/-- The first client is served. -/
def firstServed : Event :=
  .call (testEnv 0 none (some "a")) (.createOrRecover "user-1" "device-1" "one")

end GilStreaming.Coordinator
