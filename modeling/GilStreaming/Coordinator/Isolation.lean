import GilStreaming.Coordinator.History

/-!
# GilStreaming.Coordinator.Isolation

A user's calls do not touch the leases of other users.

The owner of a call comes from the token, the lease id and the device id from the
request. Whatever they are, the calls a user can make leave every unexpired lease
of another owner exactly as it is, and return only leases of the caller.
-/

namespace GilStreaming.Coordinator

/-- The calls that `Server` makes for the authenticated user `A`. -/
def Call.MadeBy (c : Call) (A : String) : Prop :=
  match c with
  | .createOrRecover owner _ _ => owner = A
  | .heartbeat _ owner => owner = A
  | .release _ owner => owner = A
  | .leaseVM _ owner => owner = A
  | _ => False

section Isolation

variable {s : Store} {disk : Disk} {env : CallEnv} {c : Call} {A : String} {l : Lease}

theorem Call.MadeBy.recoversFor (hA : c.MadeBy A) (h : c.RecoversFor l) : l.owner = A := by
  obtain ⟨deviceName, rfl⟩ := h
  exact hA

theorem Call.MadeBy.renews (hA : c.MadeBy A) (h : c.Renews l) : l.owner = A := by
  rcases h with rfl | h
  · exact hA
  · exact hA.recoversFor h

theorem Call.MadeBy.releases (hA : c.MadeBy A) (h : c.Releases l) : l.owner = A := by
  rcases h with rfl | rfl
  · exact hA
  · exact hA.elim

theorem Call.MadeBy.grants (hA : c.MadeBy A) (h : c.Grants l) : l.owner = A := by
  rcases h with h | ⟨deviceName, rfl⟩
  · exact hA.recoversFor h
  · exact hA.elim

/-- The call changes no entry of another owner, other than by reaping it. -/
theorem LeaseChange.of_other_owner {before after : Option Lease} (hA : c.MadeBy A)
    (h : LeaseChange s env c before after) (hl : l.owner ≠ A) :
    (after = some l → before = some l) ∧
      (before = some l → env.now < l.expiresAt → after = some l) := by
  cases h with
  | absent => exact ⟨id, fun h _ => h⟩
  | kept l' => exact ⟨id, fun h _ => h⟩
  | renewed hc _ =>
      have howner := hA.renews hc
      constructor
      · intro h; exact absurd (Option.some.inj h ▸ howner) hl
      · intro h; exact absurd (Option.some.inj h ▸ howner) hl
  | expired hdead =>
      refine ⟨fun h => absurd h (by simp), fun h hlive => ?_⟩
      obtain rfl := Option.some.inj h
      omega
  | released hc =>
      refine ⟨fun h => absurd h (by simp), fun h => ?_⟩
      exact absurd (Option.some.inj h ▸ hA.releases hc) hl
  | dropped hc _ _ =>
      refine ⟨fun h => absurd h (by simp), fun h => ?_⟩
      exact absurd (Option.some.inj h ▸ hA.recoversFor hc) hl
  | granted _ _ hc _ _ =>
      refine ⟨fun h => ?_, fun h => absurd h (by simp)⟩
      exact absurd (Option.some.inj h ▸ hA.grants hc) hl

/-- The lease in a reply to a user's call is the user's. -/
theorem exec_reply_owner (hs : s.leases.Exclusive) (hA : c.MadeBy A) {r : Reply}
    (hr : (c.exec s disk env).result = .ok r) (hl : r.lease? = some l) : l.owner = A := by
  cases c with
  | createOrRecover owner deviceID deviceName =>
      obtain ⟨a, ha, rfl⟩ := Except.map_eq_ok hr
      obtain rfl : a.1 = l := by simpa [Reply.lease?] using hl
      obtain ⟨-, -, -, hclient, -⟩ := createOrRecover_ok hs ha
      exact (congrArg Prod.fst hclient).trans hA
  | heartbeat id owner =>
      obtain ⟨a, ha, rfl⟩ := Except.map_eq_ok hr
      obtain rfl : a = l := by simpa [Reply.lease?] using hl
      obtain ⟨-, howner, -⟩ := heartbeat_ok hs ha
      exact howner.trans hA
  | leaseVM id owner =>
      obtain ⟨a, ha, rfl⟩ := Except.map_eq_ok hr
      obtain rfl : a.1 = l := by simpa [Reply.lease?] using hl
      obtain ⟨-, howner, -⟩ := leaseVM_ok ha
      exact howner.trans hA
  | release id owner =>
      obtain ⟨a, -, rfl⟩ := Except.map_eq_ok hr
      exact absurd hl (by simp [Reply.lease?])
  | _ => exact hA.elim

end Isolation

/-- In every reachable state, a call made for the user `A` adds and changes no lease of
another owner and removes none that is unexpired, whatever it returns and whether or
not it could be saved, and a lease that it returns is owned by `A`. -/
theorem owner_isolation (vms : List VM) (ttl : Int) {es : List Event} {env : CallEnv}
    {c : Call} {s : Store} {A : String} (hids : IDsFresh (es ++ [.call env c]))
    (hs : ((World.initial vms ttl).run es).process = some s) (hA : c.MadeBy A) :
    let outcome := c.exec s ((World.initial vms ttl).run es).disk env
    (∀ id l, l.owner ≠ A →
      (outcome.store.leases.lookup id = some l → s.leases.lookup id = some l) ∧
      (s.leases.lookup id = some l → env.now < l.expiresAt →
        outcome.store.leases.lookup id = some l)) ∧
    ∀ r l, outcome.result = .ok r → r.lease? = some l → l.owner = A := by
  have hex := (World.run_sound vms ttl es).memory s hs
  have hfresh := World.run_fresh vms ttl hids hs
  refine ⟨fun id l hl => ?_, fun r l hr hl => exec_reply_owner hex hA hr hl⟩
  exact ((exec_edited hex _ env c).change hfresh id).of_other_owner hA hl

/-- Another user sends a heartbeat for the first client's lease. -/
theorem owner_isolation_heartbeat :
    ∃ s, ((World.initial testPool minute).run [firstServed]).process = some s ∧
      ∀ id l, l.owner ≠ "user-2" → s.leases.lookup id = some l → 1 < l.expiresAt →
        (Call.exec s ((World.initial testPool minute).run [firstServed]).disk
          (testEnv 1 none none) (.heartbeat "a" "user-2")).store.leases.lookup id = some l :=
  ⟨_, rfl, fun id l hl => ((@owner_isolation testPool minute [firstServed]
    (testEnv 1 none none) (.heartbeat "a" "user-2") _ "user-2" (by decide) rfl rfl).1 id l hl).2⟩

end GilStreaming.Coordinator
