import GilStreaming.Coordinator.Stability

/-!
# GilStreaming.Coordinator.Allocation

What `CreateOrRecover` answers, and what it leaves in memory, when neither `randomID` nor
`persistLocked` fails.

`Store.Allocates` says it for the leases that are unexpired and the order of the VMs alone,
so that neither expired leases nor Go's map order matter. The VM of a lease is the first one
with its id, as `vmByIDLocked` finds it.
-/

namespace GilStreaming.Coordinator

open GilStreaming.Trace

/-- `l` is the client's unexpired lease, and its VM is available. -/
structure Store.Recovers (s : Store) (now : Int) (client : String × String) (l : Lease) (vm : VM) :
    Prop where
  held : s.leases.lookup l.id = some l
  live : now < l.expiresAt
  client : l.client = client
  available : s.availableVM l.vmID = some vm

/-- The VM is available, and has no unexpired lease but perhaps the client's own, if that is
on an unavailable VM. -/
def Store.FreeFor (s : Store) (now : Int) (client : String × String) (vm : VM) : Prop :=
  vm.available = true ∧ ∀ k l, s.leases.lookup k = some l → now < l.expiresAt →
    l.vmID = vm.id → l.client = client ∧ s.availableVM l.vmID = none

/-- What a call of `CreateOrRecover` comes to, that draws `id`. -/
structure Store.Allocates (s : Store) (now : Int) (id owner deviceID deviceName : String)
    (o : Outcome (Lease × VM)) : Prop where
  /-- A lease on an available VM is kept. -/
  recovered : ∀ l vm, s.Recovers now (owner, deviceID) l vm →
    o.result = .ok ({ l with expiresAt := now + s.ttl }, vm)
  /-- Without one, the first free VM is given. -/
  granted : (∀ l vm, ¬ s.Recovers now (owner, deviceID) l vm) →
    ∀ before vm after, s.vms = before ++ vm :: after → s.FreeFor now (owner, deviceID) vm →
      (∀ vm' ∈ before, ¬ s.FreeFor now (owner, deviceID) vm') →
      o.result = .ok (s.newLease now id vm owner deviceID deviceName, vm)
  exhausted : (∀ l vm, ¬ s.Recovers now (owner, deviceID) l vm) →
    (∀ vm ∈ s.vms, ¬ s.FreeFor now (owner, deviceID) vm) → o.result = .error .poolExhausted
  /-- Of the other leases, the unexpired ones stay as they are. -/
  others : ∀ k l, l.client ≠ (owner, deviceID) →
    (o.store.leases.lookup k = some l ↔ s.leases.lookup k = some l ∧ now < l.expiresAt)
  /-- The client has the lease that is answered. -/
  own : ∀ k l, l.client = (owner, deviceID) →
    (o.store.leases.lookup k = some l ↔ k = l.id ∧ ∃ vm, o.result = .ok (l, vm))

section Call

variable {s : Store} {disk : Disk} {env : CallEnv} {owner deviceID deviceName id : String}

/-! ### The lease of the client -/

/-- Either the client's lease is recovered, or what is left to `allocateLocked` is the
unexpired leases of the others. -/
theorem createOrRecover_cases (hs : s.leases.Exclusive) :
    (∃ l vm, s.Recovers env.now (owner, deviceID) l vm ∧
        s.createOrRecover disk env owner deviceID deviceName =
          ((s.reapLocked env.now).renewLocked env.now l.id l).persistThen disk env
            ((s.reapLocked env.now).renewLocked env.now l.id l)
            ({ l with expiresAt := env.now + s.ttl }, vm)) ∨
      (∀ l vm, ¬ s.Recovers env.now (owner, deviceID) l vm) ∧
        ∃ t : Store, t.vms = s.vms ∧ t.ttl = s.ttl ∧
          (∀ k l, t.leases.lookup k = some l ↔
            (s.leases.lookup k = some l ∧ env.now < l.expiresAt) ∧
              l.client ≠ (owner, deviceID)) ∧
          s.createOrRecover disk env owner deviceID deviceName =
            t.allocateLocked disk env owner deviceID deviceName := by
  cases hfind : (s.reapLocked env.now).clientLease env.order owner deviceID with
  | none =>
      have hnone := clientLease_eq_none.mp hfind
      refine .inr ⟨fun l vm hrec => ?_, s.reapLocked env.now, rfl, rfl, fun k l => ?_, ?_⟩
      · exact hnone _ _ (lookup_reapLocked.mpr ⟨hrec.held, hrec.live⟩) hrec.client
      · rw [← lookup_reapLocked]
        exact ⟨fun hl => ⟨hl, hnone k l hl⟩, And.left⟩
      · unfold Store.createOrRecover
        simp only [hfind]
  | some entry =>
      obtain ⟨k, l⟩ := entry
      obtain ⟨hl, rfl, rfl⟩ := clientLease_eq_some hfind
      obtain ⟨hheld, hlive⟩ := lookup_reapLocked.mp hl
      obtain rfl : l.id = k := hs.own_id hheld
      cases hvm : s.availableVM l.vmID with
      | some vm =>
          exact .inl ⟨l, vm, ⟨hheld, hlive, rfl, hvm⟩, createOrRecover_held hs hl hvm deviceName⟩
      | none =>
          have hown : ∀ k' l', s.leases.lookup k' = some l' → l'.client = l.client → k' = l.id :=
            fun k' l' hl' hclient => hs.client hl' hheld hclient
          -- the lease is extended, and dropped
          let renewed := (s.reapLocked env.now).renewLocked env.now l.id l
          refine .inr ⟨fun l' vm hrec => ?_, { renewed with leases := renewed.leases.erase l.id },
            rfl, rfl, fun k' l' => ?_, ?_⟩
          · obtain rfl : l' = l := by
              have hid := hown _ _ hrec.held hrec.client
              exact Option.some.inj ((hid ▸ hrec.held).symm.trans hheld)
            exact absurd (hvm.symm.trans hrec.available) (by simp)
          · rw [GoMap.lookup_erase_eq]
            by_cases hk : k' = l.id
            · rw [if_pos hk]
              refine iff_of_false (by simp) ?_
              rintro ⟨⟨hl', -⟩, hother⟩
              have hsame : l' = l := Option.some.inj ((hk ▸ hl').symm.trans hheld)
              exact hother (hsame ▸ rfl)
            · rw [if_neg hk, lookup_renewLocked, if_neg hk, lookup_reapLocked]
              exact ⟨fun hl' => ⟨hl', fun hclient => hk (hown k' l' hl'.1 hclient)⟩, And.left⟩
          · unfold Store.createOrRecover
            simp only [hfind, renewLocked_availableVM, reapLocked_availableVM, hvm]
            rfl

/-! ### A free VM -/

/-- For `allocateLocked` a VM is free in the leases of the others. -/
theorem freeFor_iff {t : Store}
    (hnone : ∀ l vm, ¬ s.Recovers env.now (owner, deviceID) l vm) (hs : s.leases.Exclusive)
    (ht : ∀ k l, t.leases.lookup k = some l ↔
      (s.leases.lookup k = some l ∧ env.now < l.expiresAt) ∧ l.client ≠ (owner, deviceID))
    (vm : VM) :
    (vm.available && !((t.leases.values env.order).map Lease.vmID).contains vm.id) = true ↔
      s.FreeFor env.now (owner, deviceID) vm := by
  simp only [Bool.and_eq_true, Bool.not_eq_true', List.contains_eq_mem, decide_eq_false_iff_not,
    List.mem_map, not_exists, not_and, Store.FreeFor, GoMap.mem_values]
  refine and_congr_right fun _ => ⟨fun h k l hl hlive hvm => ?_, fun h l ⟨k, hl⟩ hvm => ?_⟩
  · by_cases hclient : l.client = (owner, deviceID)
    · refine ⟨hclient, ?_⟩
      -- an available VM would make the lease recoverable
      cases havailable : s.availableVM l.vmID with
      | none => rfl
      | some vm' =>
          exact absurd ⟨hs.own_id hl ▸ hl, hlive, hclient, havailable⟩ (hnone l vm')
    · exact absurd hvm (h l ⟨k, (ht k l).mpr ⟨⟨hl, hlive⟩, hclient⟩⟩)
  · obtain ⟨⟨hheld, hlive⟩, hother⟩ := (ht k l).mp hl
    exact hother (h k l hheld hlive hvm).1

/-- A lease that is recovered is the client's only one. -/
theorem Store.Recovers.unique (hs : s.leases.Exclusive) {client : String × String} {l l' : Lease}
    {vm vm' : VM} (h : s.Recovers env.now client l vm) (h' : s.Recovers env.now client l' vm') :
    l' = l ∧ vm' = vm := by
  have hid : l'.id = l.id := hs.client h'.held h.held (h'.client.trans h.client.symm)
  obtain rfl : l' = l := Option.some.inj ((hid ▸ h'.held).symm.trans h.held)
  exact ⟨rfl, Option.some.inj (h'.available.symm.trans h.available)⟩

/-- The leases after a call that answers `lease` and `vm`: those of the others, and `lease`. -/
theorem others_and_own {client : String × String} {leases : GoMap String Lease}
    {others : String → Option Lease} (lease : Lease) (vm : VM) (hclient : lease.client = client)
    (hlookup : ∀ k, leases.lookup k = if k = lease.id then some lease else others k)
    (hothers : ∀ k l, k ≠ lease.id → (others k = some l ↔
      (s.leases.lookup k = some l ∧ env.now < l.expiresAt) ∧ l.client ≠ client))
    (hid : ∀ l, s.leases.lookup lease.id = some l → l.client = client) :
    (∀ k l, l.client ≠ client →
      (leases.lookup k = some l ↔ s.leases.lookup k = some l ∧ env.now < l.expiresAt)) ∧
    ∀ k l, l.client = client →
      (leases.lookup k = some l ↔
        k = l.id ∧ ∃ vm', (.ok (lease, vm) : Except StoreError (Lease × VM)) = .ok (l, vm')) := by
  constructor
  · intro k l hother
    rw [hlookup]
    split
    · next hk =>
        refine iff_of_false (fun hl => hother ?_) (fun hl => hother (hid l (hk ▸ hl.1)))
        rw [← Option.some.inj hl]
        exact hclient
    · next hk =>
        rw [hothers k l hk]
        exact and_iff_left hother
  · intro k l hown
    rw [hlookup]
    split
    · next hk =>
        constructor
        · intro hl
          rw [← Option.some.inj hl]
          exact ⟨hk, vm, rfl⟩
        · rintro ⟨-, vm', hresult⟩
          exact congrArg some (Prod.mk.inj (Except.ok.inj hresult)).1
    · next hk =>
        refine iff_of_false (fun hl => ((hothers k l hk).mp hl).2 hown) ?_
        rintro ⟨hk', vm', hresult⟩
        rw [← (Prod.mk.inj (Except.ok.inj hresult)).1] at hk'
        exact hk hk'

theorem allocates_recovered (hs : s.leases.Exclusive) (hpersist : env.persist = none)
    {l : Lease} {vm : VM} (hrec : s.Recovers env.now (owner, deviceID) l vm) :
    s.Allocates env.now id owner deviceID deviceName
      (((s.reapLocked env.now).renewLocked env.now l.id l).persistThen disk env
        ((s.reapLocked env.now).renewLocked env.now l.id l)
        ({ l with expiresAt := env.now + s.ttl }, vm)) := by
  rw [persistThen_ok hpersist]
  have hown : ∀ k' l', s.leases.lookup k' = some l' → l'.client = (owner, deviceID) → k' = l.id :=
    fun k' l' hl' hclient => hs.client hl' hrec.held (hclient.trans hrec.client.symm)
  -- what `allocateLocked` does not see is the lease itself
  have hothers : ∀ k l', k ≠ l.id → ((s.reapLocked env.now).leases.lookup k = some l' ↔
      (s.leases.lookup k = some l' ∧ env.now < l'.expiresAt) ∧ l'.client ≠ (owner, deviceID)) := by
    intro k l' hk
    rw [lookup_reapLocked]
    exact ⟨fun hl => ⟨hl, fun hclient => hk (hown k l' hl.1 hclient)⟩, And.left⟩
  have hself : ∀ l', s.leases.lookup l.id = some l' → l'.client = (owner, deviceID) := by
    intro l' hl'
    rw [← Option.some.inj (hrec.held.symm.trans hl')]
    exact hrec.client
  have hlookup := fun k => lookup_renewLocked (s := s.reapLocked env.now) env.now l.id k l
  have hleases := others_and_own { l with expiresAt := env.now + s.ttl } vm hrec.client hlookup
    hothers hself
  exact {
    recovered := fun l' vm' hrec' => by
      obtain ⟨rfl, rfl⟩ := hrec.unique hs hrec'
      rfl
    granted := fun hnone => absurd hrec (hnone l vm)
    exhausted := fun hnone => absurd hrec (hnone l vm)
    others := hleases.1
    own := hleases.2 }

/-- `find?`, for a test that decides `P`. -/
theorem find?_eq_some_iff_first {α : Type} {p : α → Bool} {P : α → Prop} {xs : List α}
    (h : ∀ x, p x = true ↔ P x) {x : α} :
    xs.find? p = some x ↔
      P x ∧ ∃ before after, xs = before ++ x :: after ∧ ∀ y ∈ before, ¬ P y := by
  rw [List.find?_eq_some_iff_append, h]
  refine and_congr_right fun _ => exists_congr fun before => exists_congr fun after =>
    and_congr_right fun _ => forall₂_congr fun y _ => ?_
  rw [← h y, Bool.not_eq_true', Bool.not_eq_true]

theorem allocates_granted (hs : s.leases.Exclusive) (hfresh : env.Fresh s.leases)
    (hpersist : env.persist = none) (hid : env.randomID = some id) {t : Store}
    (hnone : ∀ l vm, ¬ s.Recovers env.now (owner, deviceID) l vm) (hvms : t.vms = s.vms)
    (httl : t.ttl = s.ttl)
    (ht : ∀ k l, t.leases.lookup k = some l ↔
      (s.leases.lookup k = some l ∧ env.now < l.expiresAt) ∧ l.client ≠ (owner, deviceID)) :
    s.Allocates env.now id owner deviceID deviceName
      (t.allocateLocked disk env owner deviceID deviceName) := by
  have hfree := freeFor_iff hnone hs ht
  unfold Store.allocateLocked
  dsimp only
  rw [hvms]
  cases hfind : s.vms.find? fun vm =>
      vm.available && !((t.leases.values env.order).map Lease.vmID).contains vm.id with
  | none =>
      have hall : ∀ vm ∈ s.vms, ¬ s.FreeFor env.now (owner, deviceID) vm := fun vm hvm =>
        (hfree vm).not.mp (List.find?_eq_none.mp hfind vm hvm)
      exact {
        recovered := fun l vm hrec => absurd hrec (hnone l vm)
        granted := fun _ before vm after hsplit hvm _ =>
          absurd hvm (hall vm (by rw [hsplit]; simp))
        exhausted := fun _ _ => rfl
        others := fun k l hother => by
          rw [ht]
          exact and_iff_left hother
        own := fun k l hclient => by
          refine iff_of_false (fun hl => ((ht k l).mp hl).2 hclient) ?_
          rintro ⟨-, vm, hresult⟩
          exact absurd hresult (by simp) }
  | some vm =>
      have hvm := ((find?_eq_some_iff_first hfree).mp hfind).1
      dsimp only
      unfold Store.grantLocked
      rw [hid]
      dsimp only
      rw [persistThen_ok hpersist]
      have hlease : t.newLease env.now id vm owner deviceID deviceName =
          s.newLease env.now id vm owner deviceID deviceName := by
        rw [Store.newLease, Store.newLease, httl]
      have hunused : ∀ l, s.leases.lookup id = some l → l.client = (owner, deviceID) :=
        fun l hl => absurd hl (by rw [hfresh id hid]; simp)
      let lease := t.newLease env.now id vm owner deviceID deviceName
      have hlookup := fun k => GoMap.lookup_insert_eq t.leases id k lease
      have hleases := others_and_own lease vm rfl hlookup (fun k l _ => ht k l) hunused
      exact {
        recovered := fun l vm hrec => absurd hrec (hnone l vm)
        granted := fun _ before' vm' after' hsplit' hvm' hbefore' => by
          have hfind' := (find?_eq_some_iff_first hfree).mpr
            ⟨hvm', before', after', hsplit', hbefore'⟩
          obtain rfl : vm = vm' := Option.some.inj (hfind.symm.trans hfind')
          exact congrArg (fun lease => Except.ok (lease, vm)) hlease
        exhausted := fun _ hall => absurd hvm (hall vm (List.mem_of_find?_eq_some hfind))
        others := hleases.1
        own := hleases.2 }

/-- **Call lemma.** -/
theorem createOrRecover_allocates (hs : s.leases.Exclusive) (hfresh : env.Fresh s.leases)
    (hpersist : env.persist = none) (hid : env.randomID = some id) :
    s.Allocates env.now id owner deviceID deviceName
      (s.createOrRecover disk env owner deviceID deviceName) := by
  rcases @createOrRecover_cases s disk env owner deviceID deviceName hs with
    ⟨l, vm, hrec, heq⟩ | ⟨hnone, t, hvms, httl, ht, heq⟩
  · rw [heq]
    exact allocates_recovered hs hpersist hrec
  · rw [heq]
    exact allocates_granted hs hfresh hpersist hid hnone hvms httl ht

end Call

/-! ### What the specification determines -/

/-- Of the elements that satisfy `P`, there is a first one in the list. -/
theorem exists_first {α : Type} {P : α → Prop} {xs : List α} (h : ∃ x ∈ xs, P x) :
    ∃ before x after, xs = before ++ x :: after ∧ P x ∧ ∀ y ∈ before, ¬ P y := by
  classical
  obtain ⟨x, hx, hPx⟩ := h
  cases hfind : xs.find? fun x => decide (P x) with
  | none => exact absurd hPx (by simpa using List.find?_eq_none.mp hfind x hx)
  | some y =>
      obtain ⟨hPy, before, after, hsplit, hbefore⟩ := List.find?_eq_some_iff_append.mp hfind
      exact ⟨before, y, after, hsplit, by simpa using hPy, fun z hz => by simpa using hbefore z hz⟩

namespace Store.Allocates

variable {s : Store} {now : Int} {id owner deviceID deviceName : String}
  {o o' : Outcome (Lease × VM)}

/-- The three ways it can go. -/
theorem cases (h : s.Allocates now id owner deviceID deviceName o) :
    (∃ l vm, s.Recovers now (owner, deviceID) l vm ∧
        o.result = .ok ({ l with expiresAt := now + s.ttl }, vm)) ∨
      (∃ vm ∈ s.vms, s.FreeFor now (owner, deviceID) vm ∧
        o.result = .ok (s.newLease now id vm owner deviceID deviceName, vm)) ∨
      (∀ l vm, ¬ s.Recovers now (owner, deviceID) l vm) ∧
        (∀ vm ∈ s.vms, ¬ s.FreeFor now (owner, deviceID) vm) ∧
        o.result = .error .poolExhausted := by
  by_cases hrec : ∃ l vm, s.Recovers now (owner, deviceID) l vm
  · obtain ⟨l, vm, hrec⟩ := hrec
    exact .inl ⟨l, vm, hrec, h.recovered l vm hrec⟩
  · have hnone : ∀ l vm, ¬ s.Recovers now (owner, deviceID) l vm :=
      fun l vm hrec' => hrec ⟨l, vm, hrec'⟩
    by_cases hfree : ∃ vm ∈ s.vms, s.FreeFor now (owner, deviceID) vm
    · obtain ⟨before, vm, after, hsplit, hvm, hbefore⟩ := exists_first hfree
      exact .inr (.inl ⟨vm, by rw [hsplit]; simp, hvm,
        h.granted hnone before vm after hsplit hvm hbefore⟩)
    · have hall : ∀ vm ∈ s.vms, ¬ s.FreeFor now (owner, deviceID) vm :=
        fun vm hmem hvm => hfree ⟨vm, hmem, hvm⟩
      exact .inr (.inr ⟨hnone, hall, h.exhausted hnone hall⟩)

theorem success_iff (h : s.Allocates now id owner deviceID deviceName o) :
    (∃ r, o.result = .ok r) ↔ (∃ l vm, s.Recovers now (owner, deviceID) l vm) ∨
      ∃ vm ∈ s.vms, s.FreeFor now (owner, deviceID) vm := by
  rcases h.cases with ⟨l, vm, hrec, hok⟩ | ⟨vm, hmem, hvm, hok⟩ | ⟨hnone, hall, herr⟩
  · exact iff_of_true ⟨_, hok⟩ (.inl ⟨l, vm, hrec⟩)
  · exact iff_of_true ⟨_, hok⟩ (.inr ⟨vm, hmem, hvm⟩)
  · refine iff_of_false ?_ ?_
    · rintro ⟨r, hok⟩
      exact absurd (hok.symm.trans herr) (by simp)
    · rintro (⟨l, vm, hrec⟩ | ⟨vm, hmem, hvm⟩)
      · exact hnone l vm hrec
      · exact hall vm hmem hvm

/-- Two calls of which it holds have the same answer and leave the same leases. -/
theorem determined (h : s.Allocates now id owner deviceID deviceName o)
    (h' : s.Allocates now id owner deviceID deviceName o') :
    o.result = o'.result ∧ ∀ k, o.store.leases.lookup k = o'.store.leases.lookup k := by
  have hresult : o.result = o'.result := by
    by_cases hrec : ∃ l vm, s.Recovers now (owner, deviceID) l vm
    · obtain ⟨l, vm, hrec⟩ := hrec
      rw [h.recovered l vm hrec, h'.recovered l vm hrec]
    · have hnone : ∀ l vm, ¬ s.Recovers now (owner, deviceID) l vm :=
        fun l vm hrec' => hrec ⟨l, vm, hrec'⟩
      by_cases hfree : ∃ vm ∈ s.vms, s.FreeFor now (owner, deviceID) vm
      · obtain ⟨before, vm, after, hsplit, hvm, hbefore⟩ := exists_first hfree
        rw [h.granted hnone before vm after hsplit hvm hbefore,
          h'.granted hnone before vm after hsplit hvm hbefore]
      · have hall : ∀ vm ∈ s.vms, ¬ s.FreeFor now (owner, deviceID) vm :=
          fun vm hmem hvm => hfree ⟨vm, hmem, hvm⟩
        rw [h.exhausted hnone hall, h'.exhausted hnone hall]
  refine ⟨hresult, fun k => Option.ext fun l => ?_⟩
  by_cases hclient : l.client = (owner, deviceID)
  · exact (h.own k l hclient).trans (hresult ▸ (h'.own k l hclient).symm)
  · exact (h.others k l hclient).trans (h'.others k l hclient).symm

end Store.Allocates

/-- In every reachable state `CreateOrRecover`, when it can draw an id and save, extends the
client's lease if that is on an available VM, and else gives it the first free VM; it succeeds
exactly if there is one or the other, and reports an exhausted pool if not. The other leases
that are unexpired stay as they are, and the order of the lease map does not matter. -/
theorem createOrRecover_exact (vms : List VM) (ttl : Int) {es : List Event} {s : Store}
    {env : CallEnv} {owner deviceID deviceName id : String} (disk : Disk)
    (hids : IDsFresh (es ++ [.call env (.createOrRecover owner deviceID deviceName)]))
    (hs : ((World.initial vms ttl).run es).process = some s) (hpersist : env.persist = none)
    (hid : env.randomID = some id) :
    s.Allocates env.now id owner deviceID deviceName
        (s.createOrRecover disk env owner deviceID deviceName) ∧
      ((∃ r, (s.createOrRecover disk env owner deviceID deviceName).result = .ok r) ↔
        (∃ l vm, s.Recovers env.now (owner, deviceID) l vm) ∨
          ∃ vm ∈ s.vms, s.FreeFor env.now (owner, deviceID) vm) ∧
      ((∃ r, (s.createOrRecover disk env owner deviceID deviceName).result = .ok r) ∨
        (s.createOrRecover disk env owner deviceID deviceName).result = .error .poolExhausted) ∧
      ∀ order : LeaseOrder,
        (s.createOrRecover disk { env with order } owner deviceID deviceName).result =
            (s.createOrRecover disk env owner deviceID deviceName).result ∧
          ∀ k, (s.createOrRecover disk { env with order } owner deviceID
              deviceName).store.leases.lookup k =
            (s.createOrRecover disk env owner deviceID deviceName).store.leases.lookup k := by
  have hex := lease_map_exclusive vms ttl es hs
  have hfresh : env.Fresh s.leases := World.run_fresh vms ttl hids hs
  have h : s.Allocates env.now id owner deviceID deviceName
      (s.createOrRecover disk env owner deviceID deviceName) :=
    createOrRecover_allocates hex hfresh hpersist hid
  refine ⟨h, h.success_iff, ?_, fun order => ?_⟩
  · rcases h.cases with ⟨l, vm, -, hok⟩ | ⟨vm, -, -, hok⟩ | ⟨-, -, herr⟩
    · exact .inl ⟨_, hok⟩
    · exact .inl ⟨_, hok⟩
    · exact .inr herr
  · have hother := @createOrRecover_allocates s disk { env with order } owner deviceID deviceName id
      hex hfresh hpersist hid
    exact hother.determined h

/-- A second client of the test pool, after the first one was served. -/
theorem createOrRecover_exact_second :
    ∃ s, ((World.initial testPool minute).run [firstServed]).process = some s ∧
      s.Allocates second "b" "user-2" "device-2" "two"
        (s.createOrRecover ⟨none, none⟩ (testEnv second none (some "b"))
          "user-2" "device-2" "two") :=
  ⟨_, rfl, (@createOrRecover_exact testPool minute [firstServed] _
    (testEnv second none (some "b")) "user-2" "device-2" "two" "b" ⟨none, none⟩
    (by decide) rfl rfl rfl).1⟩

end GilStreaming.Coordinator
