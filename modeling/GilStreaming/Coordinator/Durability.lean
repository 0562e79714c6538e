import GilStreaming.Coordinator.Grants

/-!
# GilStreaming.Coordinator.Durability

When a release that reported success is durable.

`Release` and `AdminRelease` take the lease out of memory before they save, and a
save that fails does not put it back. From then on memory and file disagree, and
`Release` answers a second request for the same lease with success, without
saving. So a successful release is durable exactly when the lease was in memory
at the time of the call, or was no longer in the file (`release_durable_iff`).

`World.Gone` is the invariant behind the positive half: a lease that memory does
not hold, and that the file does not list unexpired, never comes back.
-/

namespace GilStreaming.Coordinator

open GilStreaming.Trace

/-! ### Leases in memory, on disk, and gone -/

/-- The process is up and holds a lease `id`. -/
def World.InMemory (w : World) (id : String) : Prop :=
  ∃ s l, w.process = some s ∧ s.leases.lookup id = some l

/-- The state file lists `l`, a lease with that id. -/
def World.Listed (w : World) (id : String) (l : Lease) : Prop :=
  ∃ leases, w.disk.stateFile = some (.state leases) ∧ l ∈ leases ∧ l.id = id

/-- Memory has no lease `id`, and one that the file lists is expired at every
instant of `R`. -/
structure World.Gone (w : World) (R : Int → Prop) (id : String) : Prop where
  memory : ¬ w.InMemory id
  disk : ∀ l, w.Listed id l → ∀ t, R t → l.expiresAt ≤ t

/-- A call that names the lease `id` to be released. -/
def Call.ReleasesID (c : Call) (id : String) : Prop :=
  (∃ owner, c = .release id owner) ∨ c = .adminRelease id

/-- A lease `id` was in memory at some point of the history. -/
def Existed (vms : List VM) (ttl : Int) (es : List Event) (id : String) : Prop :=
  ∃ earlier, earlier <+: es ∧ ((World.initial vms ttl).run earlier).InMemory id

/-- Whatever happens after the history `es`, while the clock reads instants of `R`,
no restart brings a lease `id` back. -/
def NeverReturns (vms : List VM) (ttl : Int) (R : Int → Prop) (es : List Event)
    (id : String) : Prop :=
  ∀ (later : List Event) (vms' : List VM) (ttl' : Int) (readFails : Bool) (now : Nat → Int),
    IDsFresh (es ++ later) →
    (∀ e ∈ later ++ [.restart vms' ttl' readFails now], ∀ t, e.Reads t → R t) →
    ¬ ((World.initial vms ttl).run
      (es ++ later ++ [.restart vms' ttl' readFails now])).InMemory id

/-! ### A lease that is gone stays gone -/

/-- **Step lemma.** -/
theorem World.Gone.step {w : World} {R : Int → Prop} {id : String} {e : Event}
    (hw : w.Sound) (h : w.Gone R id) (hfresh : w.DrawsFresh e)
    (hid : e.randomID? ≠ some id) (hreads : ∀ t, e.Reads t → R t) : (w.step e).Gone R id := by
  have hrule := World.step_rule (w := w) (e := e)
    (M := fun s => ∀ l, s.leases.lookup id ≠ some l)
    (D := fun d => ∀ leases l, d.stateFile = some (.state leases) → l ∈ leases → l.id = id →
      ∀ t, R t → l.expiresAt ≤ t) ?_ ?_ ?_
  · exact ⟨fun ⟨s, l, hs, hl⟩ => hrule.1 s hs l hl,
      fun l ⟨leases, hfile, hl, hlid⟩ => hrule.2 leases l hfile hl hlid⟩
  · intro env c s he hs
    have hex := hw.memory s hs
    have hmem : ∀ l, (c.exec s w.disk env).store.leases.lookup id ≠ some l := by
      intro l hl
      rcases exec_memory_ids hex (hfresh env c s he hs) hl with ⟨l', hl'⟩ | hdrawn
      · exact h.memory ⟨s, l', hs, hl'⟩
      · exact hid (by simpa [Event.randomID?, he] using hdrawn)
    refine ⟨hmem, fun leases l hfile hl hlid => ?_⟩
    rcases exec_listed hex hfile hl with hbefore | hheld
    · exact h.disk l ⟨leases, hbefore, hl, hlid⟩
    · exact absurd (hlid ▸ hheld) (hmem l)
  · rintro vms ttl readFails now s rfl hload l hl
    obtain ⟨leases, hfile, hmem, hlid, k, hlive⟩ := lookup_load hload hl
    exact absurd (h.disk l ⟨leases, hfile, hmem, hlid⟩ (now k) (hreads _ ⟨k, rfl⟩))
      (not_le.mpr hlive)
  · exact fun leases l hfile hl hlid => h.disk l ⟨leases, hfile, hl, hlid⟩

/-- **Run lemma.** -/
theorem World.Gone.run {w : World} {R : Int → Prop} {id : String} {es : List Event}
    (hw : w.Sound) (h : w.Gone R id) (hfresh : AllSteps World.step World.DrawsFresh w es)
    (hid : ∀ e ∈ es, e.randomID? ≠ some id) (hreads : ∀ e ∈ es, ∀ t, e.Reads t → R t) :
    (w.run es).Gone R id := by
  have hstep : ∀ (w : World) (e : Event),
      ((w.DrawsFresh e ∧ e.randomID? ≠ some id) ∧ ∀ t, e.Reads t → R t) →
      w.Sound ∧ w.Gone R id → (w.step e).Sound ∧ (w.step e).Gone R id :=
    fun _ e hP h => ⟨h.1.step e, h.2.step h.1 hP.1.1 hP.1.2 hP.2⟩
  exact (run_invariant hstep ⟨hw, h⟩
    ((hfresh.and (.of_forall hid _)).and (.of_forall hreads _))).2

/-- An id that named a lease is not drawn again. -/
theorem Existed.not_redrawn {vms : List VM} {ttl : Int} {es later : List Event} {id : String}
    (h : Existed vms ttl es id) (hids : IDsFresh (es ++ later)) :
    ∀ e ∈ later, e.randomID? ≠ some id := by
  obtain ⟨earlier, ⟨rest, rfl⟩, s, l, hs, hl⟩ := h
  have hdrawn : id ∈ drawnIDs earlier :=
    (World.run_knowsOnly vms ttl hids.append_left.append_left).memory s id l hs hl
  intro e he hid
  rw [IDsFresh, List.filterMap_append, List.filterMap_append] at hids
  exact (List.nodup_append.mp hids).2.2 id (List.mem_append_left _ hdrawn) id
    (List.mem_filterMap.mpr ⟨e, he, hid⟩) rfl

/-! ### A successful release -/

/-- A successful release finds nothing and does nothing, or removes the lease and
saves. -/
theorem exec_release_ok {s : Store} {disk : Disk} {env : CallEnv} {c : Call} {id : String}
    {r : Reply} (hc : c.ReleasesID id) (hr : (c.exec s disk env).result = .ok r) :
    (s.leases.lookup id = none ∧ (c.exec s disk env).store = s ∧
        (c.exec s disk env).disk = disk) ∨
      (∃ l, s.leases.lookup id = some l) ∧
        (c.exec s disk env).store.leases = s.leases.erase id ∧
        (c.exec s disk env).disk.stateFile =
          some (.state (GoMap.values (s.leases.erase id) env.order)) := by
  rcases hc with ⟨owner, rfl⟩ | rfl
  · obtain ⟨a, ha, -⟩ := Except.map_eq_ok hr
    rw [Call.exec, Outcome.map_store, Outcome.map_disk]
    revert ha
    unfold Store.release
    split
    · next hl => exact fun _ => .inl ⟨hl, rfl, rfl⟩
    · next l hl =>
        split
        · intro ha; exact absurd ha (by simp)
        · intro ha
          obtain ⟨hp, -⟩ := persistThen_eq_ok ha
          rw [persistThen_ok hp]
          exact .inr ⟨⟨l, hl⟩, rfl, rfl⟩
  · obtain ⟨a, ha, -⟩ := Except.map_eq_ok hr
    rw [Call.exec, Outcome.map_store, Outcome.map_disk]
    revert ha
    unfold Store.adminRelease
    split
    · intro ha; exact absurd ha (by simp)
    · next l hl =>
        intro ha
        obtain ⟨hp, -⟩ := persistThen_eq_ok ha
        rw [persistThen_ok hp]
        exact .inr ⟨⟨l, hl⟩, rfl, rfl⟩

/-- A successful release leaves the lease gone when memory had it, or when the file
lists it only with an expiry that `R` has passed. -/
theorem World.gone_of_release {w : World} {R : Int → Prop} {env : CallEnv} {c : Call}
    {id : String} {r : Reply} (hw : w.Sound) (hc : c.ReleasesID id)
    (hr : w.reply (.call env c) = some (.ok r))
    (h : w.InMemory id ∨ ∀ l, w.Listed id l → ∀ t, R t → l.expiresAt ≤ t) :
    (w.step (.call env c)).Gone R id := by
  obtain ⟨_, _, s, hcall, hs, hr⟩ := World.reply_eq_some hr
  cases hcall
  have hex := hw.memory s hs
  rw [World.step_call hs]
  rcases exec_release_ok hc hr with ⟨hnone, hstore, hdisk⟩ | ⟨-, hstore, hdisk⟩
  · have habsent : ¬ w.InMemory id := by
      rintro ⟨s', l, hs', hl⟩
      obtain rfl := Option.some.inj (hs.symm.trans hs')
      exact absurd (hnone.symm.trans hl) (by simp)
    rw [hstore, hdisk]
    refine ⟨?_, h.resolve_left habsent⟩
    rintro ⟨s', l, hs', hl⟩
    obtain rfl := Option.some.inj hs'
    exact absurd (hnone.symm.trans hl) (by simp)
  · constructor
    · rintro ⟨s', l, hs', hl⟩
      obtain rfl := Option.some.inj hs'
      exact absurd (hstore ▸ hl) (by simp)
    · rintro l ⟨leases, hfile, hl, rfl⟩
      obtain rfl : GoMap.values (s.leases.erase l.id) env.order = leases := by
        simpa using hdisk.symm.trans hfile
      obtain ⟨k, hk⟩ := GoMap.mem_values.mp hl
      obtain rfl := (hex.erase l.id).own_id hk
      exact absurd hk (by simp)

/-- A lease that only the file knows comes back at a restart before its expiry. -/
theorem World.inMemory_of_listed {w : World} {id : String} {l : Lease} (hw : w.Sound)
    (hl : w.Listed id l) (vms : List VM) (ttl : Int) {t : Int} (ht : t < l.expiresAt) :
    (w.step (.restart vms ttl false fun _ => t)).InMemory id := by
  obtain ⟨leases, hfile, hl, rfl⟩ := hl
  obtain ⟨s, hload⟩ := exists_load hw.disk vms ttl fun _ => t
  refine ⟨s, l, ?_, lookup_load_of_mem hw.disk hload hfile hl fun _ => ht⟩
  rw [World.step, hload]
  rfl

/-- When a successful release is durable, for a clock that reads instants of `R`. -/
theorem neverReturns_iff {vms : List VM} {ttl : Int} {before : List Event} {env : CallEnv}
    {c : Call} {id : String} {r : Reply} (hids : IDsFresh (before ++ [.call env c]))
    (hc : c.ReleasesID id)
    (hr : ((World.initial vms ttl).run before).reply (.call env c) = some (.ok r))
    (hexisted : Existed vms ttl before id) (R : Int → Prop) :
    NeverReturns vms ttl R (before ++ [.call env c]) id ↔
      ((World.initial vms ttl).run before).InMemory id ∨
        ∀ l, ((World.initial vms ttl).run before).Listed id l → ∀ t, R t → l.expiresAt ≤ t := by
  have hw := World.run_sound vms ttl before
  have hnext := World.run_concat (World.initial vms ttl) before (.call env c)
  constructor
  · intro h
    by_contra hcond
    rw [not_or] at hcond
    obtain ⟨habsent, hlisted⟩ := hcond
    push Not at hlisted
    obtain ⟨l, hl, t, hR, hlive⟩ := hlisted
    have hnone := h [] vms ttl false (fun _ => t) (by simpa using hids)
      (by
        intro e he t' ht'
        obtain rfl : e = .restart vms ttl false fun _ => t := by simpa using he
        obtain ⟨_, rfl⟩ := ht'
        exact hR)
    rw [List.append_nil, World.run_concat, hnext] at hnone
    refine hnone (World.inMemory_of_listed (hw.step _) ?_ vms ttl hlive)
    obtain ⟨_, _, s, hcall, hs, hr⟩ := World.reply_eq_some hr
    cases hcall
    rcases exec_release_ok hc hr with ⟨-, -, hdisk⟩ | ⟨⟨l', hl'⟩, -, -⟩
    · rw [World.step_call hs, World.Listed, hdisk]
      exact hl
    · exact absurd ⟨s, l', hs, hl'⟩ habsent
  · intro hcond later vms' ttl' readFails now hids' hreads
    have hgone := World.gone_of_release hw hc hr hcond
    rw [← hnext] at hgone
    have hids'' := hids'.concat_restart vms' ttl' readFails now
    rw [List.append_assoc _ later] at hids'' ⊢
    rw [World.run_append]
    obtain ⟨earlier, hprefix, hmem⟩ := hexisted
    exact (hgone.run (World.run_sound ..) (World.run_drawsFresh vms ttl _ _ hids'')
      (Existed.not_redrawn ⟨earlier, hprefix.trans (List.prefix_append ..), hmem⟩ hids'')
      hreads).memory

/-- A release that reported success, for a lease that existed before, is durable
exactly when memory held the lease at that moment or the state file did not list
it. With a clock that does not go back behind the release, a listed lease that has
expired by then does no harm either. -/
theorem release_durable_iff (vms : List VM) (ttl : Int) {before : List Event} {env : CallEnv}
    {c : Call} {id : String} {r : Reply} (hids : IDsFresh (before ++ [.call env c]))
    (hc : c.ReleasesID id)
    (hr : ((World.initial vms ttl).run before).reply (.call env c) = some (.ok r))
    (hexisted : Existed vms ttl before id) :
    (NeverReturns vms ttl (fun _ => True) (before ++ [.call env c]) id ↔
      ((World.initial vms ttl).run before).InMemory id ∨
        ∀ l, ¬ ((World.initial vms ttl).run before).Listed id l) ∧
    (NeverReturns vms ttl (env.now ≤ ·) (before ++ [.call env c]) id ↔
      ((World.initial vms ttl).run before).InMemory id ∨
        ∀ l, ((World.initial vms ttl).run before).Listed id l → l.expiresAt ≤ env.now) := by
  constructor
  · rw [neverReturns_iff hids hc hr hexisted]
    refine or_congr_right (forall_congr' fun l => imp_congr_right fun _ => ?_)
    exact ⟨fun h => by have := h (l.expiresAt - 1) trivial; omega, fun h => h.elim⟩
  · rw [neverReturns_iff hids hc hr hexisted]
    refine or_congr_right (forall_congr' fun l => imp_congr_right fun _ => ?_)
    exact ⟨fun h => h env.now (le_refl _), fun h t ht => h.trans ht⟩

theorem release_durable_iff_saved :
    NeverReturns testPool minute (fun _ => True)
      [firstServed, .call (testEnv 1 none none) (.release "a" "user-1")] "a" :=
  (@release_durable_iff testPool minute [firstServed] (testEnv 1 none none)
    (.release "a" "user-1") "a" .done (by decide) (.inl ⟨"user-1", rfl⟩) rfl
    ⟨[firstServed], List.prefix_refl _, _, firstLease, rfl, rfl⟩).1.mpr
    (.inl ⟨_, firstLease, rfl, rfl⟩)

/-- A release is asked for twice, because the save of the first one failed: the second
one succeeds, and a restart a moment later brings the lease back. -/
theorem release_retried_not_durable :
    let before := [firstServed,
      .call (testEnv 1 (some .writeFile) none) (.release "a" "user-1")]
    let retry := Event.call (testEnv 2 none none) (.release "a" "user-1")
    IDsFresh (before ++ [retry]) ∧ Existed testPool minute before "a" ∧
      ((World.initial testPool minute).run before).reply retry = some (.ok .done) ∧
      ¬ NeverReturns testPool minute (2 ≤ ·) (before ++ [retry]) "a" := by
  refine ⟨by decide, ⟨[firstServed], ⟨_, rfl⟩, _, firstLease, rfl, rfl⟩, rfl, fun h => ?_⟩
  refine h [] testPool minute false (fun _ => 3) (by decide) ?_ ⟨_, firstLease, rfl, rfl⟩
  simp [Event.Reads]

end GilStreaming.Coordinator
