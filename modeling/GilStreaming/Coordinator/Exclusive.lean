import GilStreaming.Coordinator.Replies
import Mathlib.Data.Set.Function

/-!
# GilStreaming.Coordinator.Exclusive

The lease map is exclusive in every reachable state: one lease per VM, one lease
per (owner, device) pair, every lease under its own id.

The invariant has to speak about the disk as well, since a restart rebuilds the
map from the state file: the file is absent or holds a complete list of leases
that are pairwise distinct on the same three projections. The two halves are
linked by `exec_stateFile` (the file holds some map that was in memory) and by
`lookup_loadLeases` (the map holds some leases that were in the file).
-/

namespace GilStreaming.Coordinator

open GilStreaming.Trace

/-! ### Lists of leases on disk -/

/-- The leases of a state file are pairwise distinct by id, by VM and by client. -/
structure ExclusiveList (leases : List Lease) : Prop where
  id : Set.InjOn Lease.id {l | l ∈ leases}
  vm : Set.InjOn Lease.vmID {l | l ∈ leases}
  client : Set.InjOn Lease.client {l | l ∈ leases}

/-- Saving an exclusive map writes an exclusive list. -/
theorem Leases.Exclusive.values {m : Leases} (h : m.Exclusive) (order : LeaseOrder) :
    ExclusiveList (m.values order) := by
  have hinj : ∀ {β : Type} (f : Lease → β), m.DistinctOn f →
      Set.InjOn f {l | l ∈ m.values order} := by
    intro β f hf l hl l' hl' heq
    obtain ⟨k, hk⟩ := GoMap.mem_values.mp hl
    obtain ⟨k', hk'⟩ := GoMap.mem_values.mp hl'
    obtain rfl := hf hk hk' heq
    exact Option.some.inj (hk.symm.trans hk')
  refine ⟨hinj _ ?_, hinj _ h.vm, hinj _ h.client⟩
  intro k k' l l' hk hk' heq
  rw [← h.own_id hk, heq, h.own_id hk']

/-- What `Load` puts under an id was there before, or is a lease of the file with
that id, unexpired when it was looked at. -/
theorem lookup_loadLeases {now : Nat → Int} {id : String} {l : Lease} :
    ∀ {leases : List Lease} {k : Nat} {m : Leases},
      (loadLeases now k leases m).lookup id = some l →
      m.lookup id = some l ∨ l ∈ leases ∧ l.id = id ∧ ∃ i, now i < l.expiresAt := by
  intro leases
  induction leases with
  | nil => intro k m h; exact .inl h
  | cons l₀ rest ih =>
      intro k m h
      rcases ih h with h | ⟨hmem, hid, hlive⟩
      · split at h
        · next hl₀ =>
            rw [GoMap.lookup_insert_eq] at h
            split at h
            · next hid =>
                obtain rfl := Option.some.inj h
                exact .inr ⟨List.mem_cons_self, hid.symm, k, by simpa [Lease.liveAt] using hl₀⟩
            · exact .inl h
        · exact .inl h
      · exact .inr ⟨List.mem_cons_of_mem _ hmem, hid, hlive⟩

/-- `Load` keeps a lease that is unexpired at every reading. -/
theorem lookup_loadLeases_of_mem {now : Nat → Int} {l : Lease} {leases : List Lease}
    (hinj : Set.InjOn Lease.id {l | l ∈ leases}) (hl : l ∈ leases)
    (hlive : ∀ k, now k < l.expiresAt) :
    ∀ (rest : List Lease) (k : Nat) (m : Leases), (∀ l' ∈ rest, l' ∈ leases) →
      (l ∈ rest ∨ m.lookup l.id = some l) →
      (loadLeases now k rest m).lookup l.id = some l := by
  intro rest
  induction rest with
  | nil =>
      intro k m _ h
      exact h.resolve_left (by simp)
  | cons l₀ rest ih =>
      intro k m hsub h
      refine ih (k + 1) _ (fun l' hl' => hsub l' (List.mem_cons_of_mem _ hl')) ?_
      by_cases hid : l.id = l₀.id
      · obtain rfl : l = l₀ := hinj hl (hsub l₀ List.mem_cons_self) hid
        rw [if_pos (by simpa [Lease.liveAt] using hlive k)]
        exact .inr (AList.lookup_insert _)
      · rcases h with h | h
        · rcases List.mem_cons.mp h with rfl | h
          · exact absurd rfl hid
          · exact .inl h
        · refine .inr ?_
          split
          · rw [GoMap.lookup_insert_eq, if_neg hid, h]
          · exact h

/-- `Load` into a fresh store of a file of distinct leases builds an exclusive map. -/
theorem ExclusiveList.load {leases : List Lease} (h : ExclusiveList leases)
    (now : Nat → Int) : Leases.Exclusive (loadLeases now 0 leases ∅) := by
  have hmem : ∀ {k l}, (loadLeases now 0 leases ∅).lookup k = some l →
      l ∈ leases ∧ l.id = k := by
    intro k l hl
    rcases lookup_loadLeases hl with hl | ⟨hl, hid, -⟩
    · exact absurd hl (by simp)
    · exact ⟨hl, hid⟩
  refine ⟨fun k l hl => (hmem hl).2, ?_, ?_⟩
  · intro k k' l l' hl hl' heq
    rw [← (hmem hl).2, ← (hmem hl').2, h.vm (hmem hl).1 (hmem hl').1 heq]
  · intro k k' l l' hl hl' heq
    rw [← (hmem hl).2, ← (hmem hl').2, h.client (hmem hl).1 (hmem hl').1 heq]

/-! ### The invariant of a world -/

/-- The state file is absent, or a complete list of distinct leases: a failed or
interrupted `WriteFile` only ever damages the temporary file. -/
def Disk.Sound (d : Disk) : Prop :=
  d.stateFile = none ∨ ∃ leases, d.stateFile = some (.state leases) ∧ ExclusiveList leases

theorem Disk.Sound.of_file {d : Disk} (h : d.Sound) {leases : List Lease}
    (hfile : d.stateFile = some (.state leases)) : ExclusiveList leases := by
  rcases h with hnone | ⟨leases', hfile', hex⟩
  · exact absurd (hnone.symm.trans hfile) (by simp)
  · obtain rfl : leases' = leases := by simpa using hfile'.symm.trans hfile
    exact hex

/-- Memory and disk both hold exclusive leases. -/
structure World.Sound (w : World) : Prop where
  memory : ∀ s, w.process = some s → s.leases.Exclusive
  disk : w.disk.Sound

theorem World.initial_sound (vms : List VM) (ttl : Int) : (World.initial vms ttl).Sound where
  memory := by
    intro s hs
    obtain rfl := Option.some.inj hs
    exact Leases.exclusive_empty
  disk := .inl rfl

theorem exec_disk_sound {s : Store} {disk : Disk} {env : CallEnv} (c : Call)
    (hs : s.leases.Exclusive) (hd : disk.Sound) : (c.exec s disk env).disk.Sound := by
  rcases exec_stateFile hs disk env c with h | h
  · rcases hd with hd | ⟨leases, hd, hex⟩
    · exact .inl (h.trans hd)
    · exact .inr ⟨leases, h.trans hd, hex⟩
  · exact .inr ⟨_, h, ((exec_edited hs disk env c).exclusive hs).values env.order⟩

/-- A successful `Load` on a sound disk yields an exclusive map. -/
theorem load_exclusive {vms : List VM} {ttl : Int} {disk : Disk} {readFails : Bool}
    {now : Nat → Int} {s : Store} (hd : disk.Sound)
    (h : (newStore vms ttl).load disk readFails now = .ok s) : s.leases.Exclusive := by
  rcases load_newStore h with ⟨-, rfl⟩ | ⟨leases, hfile, rfl⟩
  · exact Leases.exclusive_empty
  · exact (hd.of_file hfile).load now

/-- `Load` succeeds on a sound disk that can be read. -/
theorem exists_load {disk : Disk} (hd : disk.Sound) (vms : List VM) (ttl : Int)
    (now : Nat → Int) : ∃ s, (newStore vms ttl).load disk false now = .ok s := by
  rcases hd with h | ⟨leases, h, -⟩
  · exact ⟨_, by simp only [Store.load, h]; rfl⟩
  · exact ⟨_, by simp only [Store.load, h]; rfl⟩

/-- A lease that a started process holds is one of the file, unexpired when it was
looked at. -/
theorem lookup_load {vms : List VM} {ttl : Int} {disk : Disk} {readFails : Bool}
    {now : Nat → Int} {s : Store} (h : (newStore vms ttl).load disk readFails now = .ok s)
    {id : String} {l : Lease} (hl : s.leases.lookup id = some l) :
    ∃ leases, disk.stateFile = some (.state leases) ∧ l ∈ leases ∧ l.id = id ∧
      ∃ k, now k < l.expiresAt := by
  rcases load_newStore h with ⟨-, rfl⟩ | ⟨leases, hfile, rfl⟩
  · exact absurd hl (by simp)
  · rcases lookup_loadLeases hl with hl | ⟨hmem, hid, hlive⟩
    · exact absurd hl (by simp)
    · exact ⟨leases, hfile, hmem, hid, hlive⟩

/-- A lease of the file that is unexpired at every reading is one that it holds. -/
theorem lookup_load_of_mem {vms : List VM} {ttl : Int} {disk : Disk} {readFails : Bool}
    {now : Nat → Int} {s : Store} (hd : disk.Sound)
    (h : (newStore vms ttl).load disk readFails now = .ok s) {leases : List Lease}
    (hfile : disk.stateFile = some (.state leases)) {l : Lease} (hl : l ∈ leases)
    (hlive : ∀ k, now k < l.expiresAt) : s.leases.lookup l.id = some l := by
  rcases load_newStore h with ⟨hnone, -⟩ | ⟨leases', hfile', rfl⟩
  · exact absurd (hnone.symm.trans hfile) (by simp)
  · obtain rfl : leases' = leases := by simpa using hfile'.symm.trans hfile
    exact lookup_loadLeases_of_mem (hd.of_file hfile).id hl hlive leases' 0 ∅ (fun _ h => h)
      (.inl hl)

/-- **Step lemma.** Every event keeps a sound world sound. -/
theorem World.Sound.step {w : World} (h : w.Sound) (e : Event) : (w.step e).Sound := by
  have hrule := World.step_rule (w := w) (M := fun s => s.leases.Exclusive) (D := Disk.Sound)
    (e := e) ?_ ?_ h.disk
  · exact ⟨hrule.1, hrule.2⟩
  · intro env c s _ hs
    have hex := h.memory s hs
    exact ⟨(exec_edited hex w.disk env c).exclusive hex, exec_disk_sound c hex h.disk⟩
  · intro vms ttl readFails now s _ hload
    exact load_exclusive h.disk hload

/-- **Run lemma.** Every reachable world is sound. -/
theorem World.run_sound (vms : List VM) (ttl : Int) (es : List Event) :
    ((World.initial vms ttl).run es).Sound :=
  run_invariant (P := fun _ _ => True) (fun _ e _ h => h.step e) (initial_sound vms ttl)
    (.of_forall (fun _ _ => trivial) _)

/-- In every state that any history of calls, failed saves, crashes and restarts
reaches, no two leases share a VM, no two share an (owner, device) pair, and every
lease is stored under its own id. -/
theorem lease_map_exclusive (vms : List VM) (ttl : Int) (es : List Event) {s : Store}
    (hs : ((World.initial vms ttl).run es).process = some s) : s.leases.Exclusive :=
  (World.run_sound vms ttl es).memory s hs

/-- The store after two clients of the test pool were served, the first one twice
and the second one only after a restart. -/
def servedStore : Store where
  vms := testPool
  ttl := minute
  leases :=
    AList.insert "b" ⟨"b", "vm-2", "user-2", "device-2", "two", 5, 5 + minute⟩
      (AList.insert "a" ⟨"a", "vm-1", "user-1", "device-1", "one", 0, 3 + minute⟩ ∅)

theorem lease_map_exclusive_served : servedStore.leases.Exclusive :=
  lease_map_exclusive testPool minute
    [.call (testEnv 0 none (some "a")) (.createOrRecover "user-1" "device-1" "one"),
      .call (testEnv 3 none none) (.createOrRecover "user-1" "device-1" "renamed"),
      .crash, .restart testPool minute false fun _ => 4,
      .call (testEnv 5 none (some "b")) (.createOrRecover "user-2" "device-2" "two")]
    (s := servedStore) rfl

end GilStreaming.Coordinator
