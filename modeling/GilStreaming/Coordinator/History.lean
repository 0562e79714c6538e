import GilStreaming.Coordinator.Exclusive

/-!
# GilStreaming.Coordinator.History

The lease ids of a history.

`randomID` never returning an id twice is a statement about the whole history,
while the effect of a call on memory (`Edited.change`) needs it as a statement
about one state: the id drawn names no lease there. The bridge is the invariant
that every id in memory or on disk was drawn by an earlier event, from which
`run_drawsFresh` turns `IDsFresh` into a condition on every step of the run.
-/

namespace GilStreaming.Coordinator

open GilStreaming.Trace

/-- The ids that `randomID` returned along a history. -/
def drawnIDs (es : List Event) : List String := es.filterMap Event.randomID?

/-- Every lease id that memory or the disk knows was drawn along `es`. -/
structure World.KnowsOnly (w : World) (ids : List String) : Prop where
  memory : ∀ s k l, w.process = some s → s.leases.lookup k = some l → k ∈ ids
  disk : ∀ leases l, w.disk.stateFile = some (.state leases) → l ∈ leases → l.id ∈ ids

/-- The id the event's call draws, if any, names no lease in memory. -/
def World.DrawsFresh (w : World) (e : Event) : Prop :=
  ∀ env c s, e.call? = some (env, c) → w.process = some s → env.Fresh s.leases

theorem World.KnowsOnly.mono {w : World} {ids ids' : List String} (h : w.KnowsOnly ids)
    (hsub : ∀ id ∈ ids, id ∈ ids') : w.KnowsOnly ids' :=
  ⟨fun s k l hs hl => hsub _ (h.memory s k l hs hl),
    fun leases l hd hl => hsub _ (h.disk leases l hd hl)⟩

/-- After a call, an id in memory was there before or has just been drawn. -/
theorem exec_memory_ids {s : Store} (hs : s.leases.Exclusive) {disk : Disk} {env : CallEnv}
    {c : Call} (hfresh : env.Fresh s.leases) {k : String} {l : Lease}
    (hl : (c.exec s disk env).store.leases.lookup k = some l) :
    (∃ l', s.leases.lookup k = some l') ∨ env.randomID = some k := by
  have hchange := (exec_edited hs disk env c).change hfresh k
  rw [hl] at hchange
  rcases hchange.of_some with ⟨l', hl', -⟩ | ⟨-, hid, -⟩
  · exact .inl ⟨l', hl'⟩
  · rw [((exec_edited hs disk env c).exclusive hs).own_id hl] at hid
    exact .inr hid

/-- **Step lemma.** An event adds at most the id it draws. -/
theorem World.KnowsOnly.step {w : World} {ids : List String} (hw : w.Sound)
    (h : w.KnowsOnly ids) {e : Event} (hfresh : w.DrawsFresh e) :
    (w.step e).KnowsOnly (ids ++ e.randomID?.toList) := by
  have hdrawn : ∀ {env c k}, e.call? = some (env, c) → env.randomID = some k →
      k ∈ ids ++ e.randomID?.toList := by
    intro env c k he hk
    simp [Event.randomID?, he, hk]
  have hold : w.KnowsOnly (ids ++ e.randomID?.toList) := h.mono fun _ => List.mem_append_left _
  have hrule := World.step_rule (w := w) (e := e)
    (M := fun s => ∀ k l, s.leases.lookup k = some l → k ∈ ids ++ e.randomID?.toList)
    (D := fun d => ∀ leases l, d.stateFile = some (.state leases) → l ∈ leases →
      l.id ∈ ids ++ e.randomID?.toList) ?_ ?_ hold.disk
  · exact ⟨fun s k l hs => hrule.1 s hs k l, hrule.2⟩
  · intro env c s he hs
    have hex := hw.memory s hs
    have hfresh := hfresh env c s he hs
    have hmem : ∀ k l, (c.exec s w.disk env).store.leases.lookup k = some l →
        k ∈ ids ++ e.randomID?.toList := by
      intro k l hl
      rcases exec_memory_ids hex hfresh hl with ⟨l', hl'⟩ | hid
      · exact hold.memory s k l' hs hl'
      · exact hdrawn he hid
    refine ⟨hmem, fun leases l hfile hl => ?_⟩
    rcases exec_listed hex hfile hl with hbefore | hheld
    · exact hold.disk leases l hbefore hl
    · exact hmem l.id l hheld
  · intro vms ttl readFails now s _ hload k l hl
    obtain ⟨leases, hfile, hmem, rfl, -⟩ := lookup_load hload hl
    exact hold.disk leases l hfile hmem

/-- In a history with fresh ids, an event draws an id that memory does not know. -/
theorem World.KnowsOnly.drawsFresh {w : World} {es : List Event} {e : Event}
    (h : w.KnowsOnly (drawnIDs es)) (hfresh : IDsFresh (es ++ [e])) : w.DrawsFresh e := by
  intro env c s he hs id hid
  cases hl : s.leases.lookup id with
  | none => rfl
  | some l =>
      exact absurd (h.memory s id l hs hl)
        (hfresh.not_mem_of_concat (by simp [Event.randomID?, he, hid]))

theorem drawnIDs_concat (es : List Event) (e : Event) :
    drawnIDs (es ++ [e]) = drawnIDs es ++ e.randomID?.toList := by
  rw [drawnIDs, List.filterMap_append, drawnIDs]
  cases h : e.randomID? <;> simp [h]

/-- **Run lemma.** A history with fresh ids knows only the ids it has drawn. -/
theorem World.run_knowsOnly (vms : List VM) (ttl : Int) {es : List Event}
    (hfresh : IDsFresh es) : ((World.initial vms ttl).run es).KnowsOnly (drawnIDs es) := by
  refine run_history IDsFresh (fun es (w : World) => w.KnowsOnly (drawnIDs es))
    (fun _ _ h => h.append_left) ⟨?_, ?_⟩ ?_ hfresh
  · intro s k l hs hl
    obtain rfl := Option.some.inj hs
    exact absurd hl (by simp)
  · intro leases l hd
    exact absurd hd (by simp [World.initial])
  · intro es e hadm h
    rw [drawnIDs_concat]
    exact h.step (World.run_sound vms ttl es) (h.drawsFresh hadm)

/-- In the state that a history with fresh ids reaches, the id of its next call names no
lease. -/
theorem World.run_fresh (vms : List VM) (ttl : Int) {es : List Event} {env : CallEnv}
    {c : Call} {s : Store} (hids : IDsFresh (es ++ [.call env c]))
    (hs : ((World.initial vms ttl).run es).process = some s) : env.Fresh s.leases :=
  (World.run_knowsOnly vms ttl hids.append_left).drawsFresh hids env c s rfl hs

/-- Along a history with fresh ids every step draws a fresh one. -/
theorem World.run_drawsFresh (vms : List VM) (ttl : Int) :
    ∀ (es' es : List Event), IDsFresh (es ++ es') →
      AllSteps World.step World.DrawsFresh ((World.initial vms ttl).run es) es' := by
  intro es'
  induction es' with
  | nil => intro es _; trivial
  | cons e rest ih =>
      intro es hfresh
      rw [List.append_cons] at hfresh
      refine ⟨(run_knowsOnly vms ttl hfresh.append_left.append_left).drawsFresh
        hfresh.append_left, ?_⟩
      have := ih (es ++ [e]) hfresh
      rwa [World.run_concat] at this

/-! ### The configured lifetime -/

/-- A restart uses the lease lifetime `ttl`. -/
def Event.KeepsTTL (ttl : Int) : Event → Prop
  | .restart _ ttl' _ _ => ttl' = ttl
  | _ => True

/-- The process, if it is up, grants leases for `ttl`. -/
def World.HasTTL (w : World) (ttl : Int) : Prop := ∀ s, w.process = some s → s.ttl = ttl

theorem World.HasTTL.step {w : World} {ttl : Int} {e : Event} (h : w.HasTTL ttl)
    (he : e.KeepsTTL ttl) : (w.step e).HasTTL ttl := by
  refine (World.step_rule (M := fun s => s.ttl = ttl) (D := fun _ => True) ?_ ?_ trivial).1
  · intro env c s _ hs
    exact ⟨(exec_ttl c).trans (h s hs), trivial⟩
  · rintro vms ttl' readFails now s rfl hload
    exact (load_ttl hload).trans he

/-- **Run lemma.** While restarts keep it, the lifetime is that of the first start. -/
theorem World.run_hasTTL (vms : List VM) {ttl : Int} {es : List Event}
    (h : ∀ e ∈ es, e.KeepsTTL ttl) : ((World.initial vms ttl).run es).HasTTL ttl := by
  have hstep : ∀ (w : World) (e : Event), e.KeepsTTL ttl → w.HasTTL ttl → (w.step e).HasTTL ttl :=
    fun _ _ he h => h.step he
  refine run_invariant hstep ?_ (.of_forall h _)
  intro s hs
  obtain rfl := Option.some.inj hs
  rfl

end GilStreaming.Coordinator
