import GilStreaming.Coordinator.TurnRelay
import GilStreaming.Lib.Threads
import GilStreaming.Lib.Trace

/-!
# GilStreaming.Coordinator.TurnRelayPackets

What the goroutines of the TURN helper do with datagrams and errors, in every interleaving.

A goroutine touches its endpoint only, so the run of the process is a run of each endpoint
(`endpoints_run`), and what an endpoint has read and written is compared there. The channel for
the errors has a place for every goroutine, and each reports one error at most.
-/

namespace GilStreaming.Coordinator.TurnRelay

open GilStreaming.Trace

/-! ### One endpoint -/

/-- A write comes back without an error. -/
def LoopEvent.Succeeds : LoopEvent → Prop
  | .writeTo err => err = none
  | .writeToUDP err => err = none
  | _ => True

namespace Endpoint

variable {peerBase : UDPAddr} {ep : Endpoint} {e : LoopEvent}

/-- The packet that a step reads from the socket, with its sender. -/
def reads (ep : Endpoint) : LoopEvent → Option (UDPAddr × Packet)
  | .readFromUDP (.ok (payload, sender)) =>
    if ep.localLoop = .reading then some (sender, payload) else none
  | _ => none

/-- The packet that a step reads from the connection and does not pass over. -/
def takes (peerBase : UDPAddr) (ep : Endpoint) : LoopEvent → Option Packet
  | .readFrom (.ok (payload, sender)) =>
    if ep.remoteLoop = .reading ∧ accepts peerBase ep sender then some payload else none
  | _ => none

/-- The packet that a step delivers, and to whom. -/
def delivers (ep : Endpoint) : LoopEvent → Option (UDPAddr × Packet)
  | .writeToUDP none =>
    match ep.remoteLoop with
    | .delivering payload localPeer => some (localPeer, payload)
    | _ => none
  | _ => none

/-- What the loop has read and not written. -/
def unsent (ep : Endpoint) : List Packet :=
  match ep.localLoop with
  | .received payload _ => [payload]
  | .sending payload => [payload]
  | _ => []

def undelivered (ep : Endpoint) : List Packet :=
  match ep.remoteLoop with
  | .received payload => [payload]
  | .delivering payload _ => [payload]
  | _ => []

/-- A packet is lost because a write to the connection fails. -/
def SendFails (ep : Endpoint) (e : LoopEvent) : Prop :=
  ∃ payload err, ep.localLoop = .sending payload ∧ e = .writeTo (some err)

def DeliveryFails (ep : Endpoint) (e : LoopEvent) : Prop :=
  ∃ payload localPeer err, ep.remoteLoop = .delivering payload localPeer ∧
    e = .writeToUDP (some err)

theorem not_sendFails (h : LoopEvent.Succeeds e) : ¬ ep.SendFails e := by
  rintro ⟨payload, err, -, rfl⟩
  cases h

theorem not_deliveryFails (h : LoopEvent.Succeeds e) : ¬ ep.DeliveryFails e := by
  rintro ⟨payload, localPeer, err, -, rfl⟩
  cases h

/-- The packet that a step passes over, because no sender has been stored yet. -/
def unclaimed (ep : Endpoint) : LoopEvent → Option Packet
  | .getPeer =>
    match ep.remoteLoop, ep.peer with
    | .received payload, none => some payload
    | _, _ => none
  | _ => none

/-- What a step does, and the error that it reports. -/
inductive Does (peerBase : UDPAddr) (ep : Endpoint) :
    LoopEvent → Endpoint → Option String → Prop
  | idle (e : LoopEvent) (hreads : ep.reads e = none) (htakes : ep.takes peerBase e = none)
      (hunclaimed : ep.unclaimed e = none) (hdelivers : ep.delivers e = none) :
      Does peerBase ep e ep none
  | receive (payload : Packet) (sender : UDPAddr) (hloop : ep.localLoop = .reading) :
      Does peerBase ep (.readFromUDP (.ok (payload, sender)))
        { ep with localLoop := .received payload sender } none
  | stop (err : String) (hloop : ep.localLoop = .reading) :
      Does peerBase ep (.readFromUDP (.error err)) { ep with localLoop := .returned false } none
  | setPeer (payload : Packet) (sender : UDPAddr)
      (hloop : ep.localLoop = .received payload sender) :
      Does peerBase ep .setPeer { ep with peer := some sender, localLoop := .sending payload } none
  | send (payload : Packet) (hloop : ep.localLoop = .sending payload) :
      Does peerBase ep (.writeTo none)
        { ep with sent := ep.sent ++ [payload], localLoop := .reading } none
  | failSend (payload : Packet) (err report : String) (hloop : ep.localLoop = .sending payload) :
      Does peerBase ep (.writeTo (some err)) { ep with localLoop := .returned true } (some report)
  | take (payload : Packet) (sender : Option UDPAddr) (hloop : ep.remoteLoop = .reading)
      (haccepts : accepts peerBase ep sender = true) :
      Does peerBase ep (.readFrom (.ok (payload, sender)))
        { ep with remoteLoop := .received payload } none
  | failTake (err report : String) (hloop : ep.remoteLoop = .reading) :
      Does peerBase ep (.readFrom (.error err)) { ep with remoteLoop := .returned } (some report)
  | getPeer (payload : Packet) (localPeer : UDPAddr) (hloop : ep.remoteLoop = .received payload)
      (hpeer : ep.peer = some localPeer) :
      Does peerBase ep .getPeer { ep with remoteLoop := .delivering payload localPeer } none
  | passOver (payload : Packet) (hloop : ep.remoteLoop = .received payload)
      (hpeer : ep.peer = none) : Does peerBase ep .getPeer { ep with remoteLoop := .reading } none
  | deliver (payload : Packet) (localPeer : UDPAddr)
      (hloop : ep.remoteLoop = .delivering payload localPeer) :
      Does peerBase ep (.writeToUDP none)
        { ep with
          delivered := ep.delivered ++ [(localPeer, payload)]
          remoteLoop := .reading } none
  | failDelivery (payload : Packet) (localPeer : UDPAddr) (err report : String)
      (hloop : ep.remoteLoop = .delivering payload localPeer) :
      Does peerBase ep (.writeToUDP (some err)) { ep with remoteLoop := .returned } (some report)

/-- **Inversion.** -/
theorem does_step (peerBase : UDPAddr) (ep : Endpoint) (e : LoopEvent) :
    Does peerBase ep e (ep.next peerBase e) (ep.reports peerBase e) := by
  cases e with
  | readFromUDP result =>
      unfold next reports step
      rcases hloop : ep.localLoop with _ | ⟨payload, sender⟩ | payload | reported
      · rcases result with err | ⟨payload, sender⟩
        · exact .stop err hloop
        · exact .receive payload sender hloop
      all_goals exact .idle _ (by cases result <;> simp [reads, hloop]) rfl rfl rfl
  | setPeer =>
      unfold next reports step
      rcases hloop : ep.localLoop with _ | ⟨payload, sender⟩ | payload | reported
      · exact .idle _ rfl rfl rfl rfl
      · exact .setPeer payload sender hloop
      all_goals exact .idle _ rfl rfl rfl rfl
  | writeTo err =>
      unfold next reports step
      rcases hloop : ep.localLoop with _ | ⟨payload, sender⟩ | payload | reported
      · exact .idle _ rfl rfl rfl rfl
      · exact .idle _ rfl rfl rfl rfl
      · cases err with
        | none => exact .send payload hloop
        | some err => exact .failSend payload err _ hloop
      · exact .idle _ rfl rfl rfl rfl
  | readFrom result =>
      unfold next reports step
      rcases hloop : ep.remoteLoop with _ | payload | ⟨payload, localPeer⟩ | _
      · rcases result with err | ⟨payload, sender⟩
        · exact .failTake err _ hloop
        · cases haccepts : accepts peerBase ep sender with
          | true => simpa [haccepts] using Does.take payload sender hloop haccepts
          | false =>
              have hdoes : Does peerBase ep (.readFrom (.ok (payload, sender))) ep none :=
                .idle _ rfl (by simp [takes, haccepts]) rfl rfl
              simpa [haccepts] using hdoes
      all_goals exact .idle _ rfl (by cases result <;> simp [takes, hloop]) rfl rfl
  | getPeer =>
      unfold next reports step
      rcases hloop : ep.remoteLoop with _ | payload | ⟨payload, localPeer⟩ | _
      · exact .idle _ rfl rfl (by simp [unclaimed, hloop]) rfl
      · cases hpeer : ep.peer with
        | none =>
            have hdoes : Does peerBase ep .getPeer _ none := .passOver payload hloop hpeer
            rwa [hpeer] at hdoes
        | some localPeer =>
            have hdoes : Does peerBase ep .getPeer _ none := .getPeer payload localPeer hloop hpeer
            rwa [hpeer] at hdoes
      all_goals exact .idle _ rfl rfl (by simp [unclaimed, hloop]) rfl
  | writeToUDP err =>
      unfold next reports step
      rcases hloop : ep.remoteLoop with _ | payload | ⟨payload, localPeer⟩ | _
      · exact .idle _ rfl rfl rfl (by cases err <;> simp [delivers, hloop])
      · exact .idle _ rfl rfl rfl (by cases err <;> simp [delivers, hloop])
      · cases err with
        | none => exact .deliver payload localPeer hloop
        | some err => exact .failDelivery payload localPeer err _ hloop
      · exact .idle _ rfl rfl rfl (by cases err <;> simp [delivers, hloop])

/-! #### Step lemmas -/

theorem step_fixed (peerBase : UDPAddr) (ep : Endpoint) (e : LoopEvent) :
    (ep.next peerBase e).offset = ep.offset ∧ (ep.next peerBase e).remote = ep.remote := by
  have hdoes := does_step peerBase ep e
  generalize ep.next peerBase e = ep', ep.reports peerBase e = report at hdoes
  cases hdoes <;> exact ⟨rfl, rfl⟩

theorem sent_step (h : ¬ ep.SendFails e) :
    (ep.next peerBase e).sent ++ (ep.next peerBase e).unsent =
      ep.sent ++ ep.unsent ++ ((ep.reads e).map Prod.snd).toList := by
  have hdoes := does_step peerBase ep e
  generalize ep.next peerBase e = ep', ep.reports peerBase e = report at hdoes
  cases hdoes with
  | idle e hreads htakes hunclaimed hdelivers => simp [hreads]
  | failSend payload err report hloop => exact absurd ⟨payload, err, hloop, rfl⟩ h
  | receive payload sender hloop => simp [unsent, reads, hloop]
  | stop err hloop => simp [unsent, reads, hloop]
  | setPeer payload sender hloop => simp [unsent, reads, hloop]
  | send payload hloop => simp [unsent, reads, hloop]
  | _ => simp [unsent, reads]

/-- Of the packets that were read, what has not been sent when the loop returns is lost. -/
def SentOrLost (packets : List Packet) (ep : Endpoint) : Prop :=
  ep.sent ++ ep.unsent = packets ∨ ep.localLoop = .returned true ∧ ep.sent <+: packets

theorem SentOrLost.step {packets : List Packet} (h : SentOrLost packets ep) :
    SentOrLost (packets ++ ((ep.reads e).map Prod.snd).toList) (ep.next peerBase e) := by
  unfold SentOrLost
  by_cases hfails : ep.SendFails e
  · obtain ⟨payload, err, hloop, rfl⟩ := hfails
    rcases h with rfl | ⟨hreturned, -⟩
    · right
      simp [next, step, hloop, unsent]
    · exact absurd (hloop.symm.trans hreturned) (by simp)
  · rcases h with rfl | ⟨hreturned, hprefix⟩
    · exact .inl (sent_step hfails)
    · right
      have hdoes := does_step peerBase ep e
      generalize ep.next peerBase e = ep', ep.reports peerBase e = report at hdoes
      have hmore := hprefix.trans (List.prefix_append packets
        ((ep.reads e).map Prod.snd).toList)
      cases hdoes <;> simp_all

theorem delivered_step (h : ¬ ep.DeliveryFails e) (hclaimed : ep.unclaimed e = none) :
    (ep.next peerBase e).delivered.map Prod.snd ++ (ep.next peerBase e).undelivered =
      ep.delivered.map Prod.snd ++ ep.undelivered ++ (ep.takes peerBase e).toList := by
  have hdoes := does_step peerBase ep e
  generalize ep.next peerBase e = ep', ep.reports peerBase e = report at hdoes
  cases hdoes with
  | idle e hreads htakes hunclaimed hdelivers => simp [htakes]
  | take payload sender hloop haccepts => simp [undelivered, takes, hloop, haccepts]
  | passOver payload hloop hpeer => simp [unclaimed, hloop, hpeer] at hclaimed
  | failDelivery payload localPeer err report hloop =>
      exact absurd ⟨payload, localPeer, err, hloop, rfl⟩ h
  | failTake err report hloop => simp [undelivered, takes, hloop]
  | getPeer payload localPeer hloop hpeer => simp [undelivered, takes, hloop]
  | deliver payload localPeer hloop => simp [undelivered, takes, hloop]
  | _ => simp [undelivered, takes]

/-- Nothing is delivered that was not taken, and nothing out of order. -/
theorem delivered_sublist_step {packets : List Packet}
    (h : (ep.delivered.map Prod.snd ++ ep.undelivered).Sublist packets) :
    ((ep.next peerBase e).delivered.map Prod.snd ++ (ep.next peerBase e).undelivered).Sublist
      (packets ++ (ep.takes peerBase e).toList) := by
  by_cases hfails : ep.DeliveryFails e
  · obtain ⟨payload, localPeer, err, hloop, rfl⟩ := hfails
    have hfewer : (ep.delivered.map Prod.snd).Sublist packets :=
      (List.sublist_append_left _ _).trans h
    simpa [next, step, hloop, undelivered, takes] using hfewer
  · cases hclaimed : ep.unclaimed e with
    | none =>
        rw [delivered_step hfails hclaimed]
        exact h.append (List.Sublist.refl _)
    | some payload =>
        have hfewer : (ep.delivered.map Prod.snd).Sublist packets :=
          (List.sublist_append_left _ _).trans h
        have hdoes := does_step peerBase ep e
        generalize ep.next peerBase e = ep', ep.reports peerBase e = report at hdoes
        cases hdoes with
        | idle e hreads htakes hunclaimed hdelivers =>
            exact absurd (hclaimed.symm.trans hunclaimed) (by simp)
        | passOver payload hloop hpeer => simpa [undelivered, takes] using hfewer
        | getPeer payload localPeer hloop hpeer => simp [unclaimed, hloop, hpeer] at hclaimed
        | _ => simp [unclaimed] at hclaimed

/-- The count of what a step passes over. -/
theorem delivered_length_step (h : ¬ ep.DeliveryFails e) :
    ((ep.next peerBase e).delivered.map Prod.snd ++ (ep.next peerBase e).undelivered).length +
        (ep.unclaimed e).toList.length =
      (ep.delivered.map Prod.snd ++ ep.undelivered).length +
        (ep.takes peerBase e).toList.length := by
  cases hclaimed : ep.unclaimed e with
  | none =>
      rw [delivered_step h hclaimed]
      simp
      omega
  | some payload =>
      have hdoes := does_step peerBase ep e
      generalize ep.next peerBase e = ep', ep.reports peerBase e = report at hdoes
      cases hdoes with
      | idle e hreads htakes hunclaimed hdelivers =>
          exact absurd (hclaimed.symm.trans hunclaimed) (by simp)
      | passOver payload hloop hpeer => simp [undelivered, takes, hloop]
      | getPeer payload localPeer hloop hpeer => simp [unclaimed, hloop, hpeer] at hclaimed
      | _ => simp [unclaimed] at hclaimed

theorem delivers_step (peerBase : UDPAddr) (ep : Endpoint) (e : LoopEvent) :
    (ep.next peerBase e).delivered = ep.delivered ++ (ep.delivers e).toList := by
  have hdoes := does_step peerBase ep e
  generalize ep.next peerBase e = ep', ep.reports peerBase e = report at hdoes
  cases hdoes with
  | idle e hreads htakes hunclaimed hdelivers => simp [hdelivers]
  | deliver payload localPeer hloop => simp [delivers, hloop]
  | _ => simp [delivers]

/-- The addresses that an endpoint knows. -/
def addresses (ep : Endpoint) : List UDPAddr :=
  ep.delivered.map Prod.fst ++ ep.peer.toList ++
    (match ep.localLoop with | .received _ sender => [sender] | _ => []) ++
    (match ep.remoteLoop with | .delivering _ localPeer => [localPeer] | _ => [])

theorem addresses_step {address : UDPAddr} (h : address ∈ (ep.next peerBase e).addresses) :
    address ∈ ep.addresses ∨ ∃ payload, ep.reads e = some (address, payload) := by
  have hdoes := does_step peerBase ep e
  generalize ep.next peerBase e = ep', ep.reports peerBase e = report at hdoes h
  cases hdoes with
  | idle e hreads htakes hunclaimed hdelivers => exact .inl h
  | receive payload sender hloop =>
      by_cases haddress : address = sender
      · exact .inr ⟨payload, by simp [reads, hloop, haddress]⟩
      · left
        simp only [addresses, hloop] at h ⊢
        grind
  | setPeer payload sender hloop =>
      simp only [addresses, hloop] at h ⊢
      grind
  | getPeer payload localPeer hloop hpeer =>
      simp only [addresses, hloop, hpeer] at h ⊢
      grind
  | deliver payload localPeer hloop =>
      simp only [addresses, hloop] at h ⊢
      grind
  | _ =>
      simp only [addresses] at h ⊢
      grind

theorem eq_of_reads {sender : UDPAddr} {payload : Packet}
    (h : ep.reads e = some (sender, payload)) : e = .readFromUDP (.ok (payload, sender)) := by
  unfold reads at h
  split at h
  · split at h
    · cases h
      rfl
    · cases h
  · cases h

/-- Only packets of the host are taken. -/
theorem eq_of_takes {payload : Packet} (h : ep.takes peerBase e = some payload) :
    e = .readFrom (.ok (payload, some ⟨peerBase.ip, ep.remote.port⟩)) := by
  unfold takes at h
  split at h
  · next payload sender =>
    split at h
    · next htaken =>
        obtain rfl := Option.some.inj h
        have haccepts := htaken.2
        unfold accepts at haccepts
        cases sender with
        | none => cases haccepts
        | some udpSender =>
            obtain ⟨hip, hport⟩ : udpSender.ip = peerBase.ip ∧ udpSender.port = ep.remote.port := by
              simpa using haccepts
            rw [← hip, ← hport]
    · cases h
  · cases h

/-- The goroutines that have reported an error. -/
def reported (ep : Endpoint) : Nat :=
  (if ep.localLoop = .returned true then 1 else 0) + if ep.remoteLoop = .returned then 1 else 0

theorem reported_le : ep.reported ≤ 2 := by
  unfold reported
  split <;> split <;> omega

theorem reported_step (peerBase : UDPAddr) (ep : Endpoint) (e : LoopEvent) :
    (ep.next peerBase e).reported = ep.reported + (ep.reports peerBase e).toList.length := by
  have hdoes := does_step peerBase ep e
  generalize ep.next peerBase e = ep', ep.reports peerBase e = report at hdoes
  cases hdoes with
  | failSend payload err report hloop => simp [reported, hloop, Nat.add_comm]
  | _ => simp_all [reported]

/-! #### Run lemmas -/

section Run

variable (peerBase : UDPAddr) (offset : Int) (es : List LoopEvent)

theorem run_fixed (ep : Endpoint) : (run (next peerBase) ep es).offset = ep.offset ∧
    (run (next peerBase) ep es).remote = ep.remote := by
  induction es generalizing ep with
  | nil => exact ⟨rfl, rfl⟩
  | cons e es ih =>
      obtain ⟨hoffset, hremote⟩ := step_fixed peerBase ep e
      exact ⟨(ih (ep.next peerBase e)).1.trans hoffset, (ih (ep.next peerBase e)).2.trans hremote⟩

/-- What is sent is what was read, without what is still to be sent or was lost at the end. -/
theorem sent_prefix_run :
    (run (next peerBase) (opened peerBase offset) es).sent <+:
      (outputs (next peerBase) reads (opened peerBase offset) es).map Prod.snd := by
  have hrun : SentOrLost
      ((outputs (next peerBase) reads (opened peerBase offset) es).map Prod.snd)
      (run (next peerBase) (opened peerBase offset) es) :=
    run_history (fun _ => True) (fun es => SentOrLost
        ((outputs (next peerBase) reads (opened peerBase offset) es).map Prod.snd))
      (fun _ _ _ => trivial) (.inl rfl)
      (fun es e _ h => by
        rw [outputs_concat, List.map_append, ← Option.toList_map]
        exact h.step)
      trivial
  rcases hrun with hall | ⟨-, hprefix⟩
  · exact ⟨_, hall⟩
  · exact hprefix

theorem sent_run
    (hsends : AllSteps (next peerBase) (fun ep e => ¬ ep.SendFails e) (opened peerBase offset) es) :
    (run (next peerBase) (opened peerBase offset) es).sent ++
        (run (next peerBase) (opened peerBase offset) es).unsent =
      (outputs (next peerBase) reads (opened peerBase offset) es).map Prod.snd := by
  induction es using List.reverseRecOn with
  | nil => rfl
  | append_singleton es e ih =>
      obtain ⟨hbefore, hlast⟩ := allSteps_concat.mp hsends
      rw [run_concat, outputs_concat, sent_step hlast, ih hbefore, List.map_append,
        Option.toList_map]

theorem delivered_sublist_run :
    ((run (next peerBase) (opened peerBase offset) es).delivered.map Prod.snd ++
        (run (next peerBase) (opened peerBase offset) es).undelivered).Sublist
      (outputs (next peerBase) (takes peerBase) (opened peerBase offset) es) := by
  induction es using List.reverseRecOn with
  | nil => exact List.Sublist.refl _
  | append_singleton es e ih =>
      rw [run_concat, outputs_concat]
      exact delivered_sublist_step ih

theorem delivered_length_run
    (hdelivers : AllSteps (next peerBase) (fun ep e => ¬ ep.DeliveryFails e)
      (opened peerBase offset) es) :
    ((run (next peerBase) (opened peerBase offset) es).delivered.map Prod.snd ++
          (run (next peerBase) (opened peerBase offset) es).undelivered).length +
        (outputs (next peerBase) unclaimed (opened peerBase offset) es).length =
      (outputs (next peerBase) (takes peerBase) (opened peerBase offset) es).length := by
  induction es using List.reverseRecOn with
  | nil => rfl
  | append_singleton es e ih =>
      obtain ⟨hbefore, hlast⟩ := allSteps_concat.mp hdelivers
      have hstep := @delivered_length_step peerBase _ _ hlast
      have hrest := ih hbefore
      rw [run_concat, outputs_concat, outputs_concat]
      simp only [List.length_append] at hstep hrest ⊢
      omega

/-- Every packet of the host that was read is delivered, or about to be, exactly if none was
passed over. -/
theorem delivered_run_iff
    (hdelivers : AllSteps (next peerBase) (fun ep e => ¬ ep.DeliveryFails e)
      (opened peerBase offset) es) :
    (run (next peerBase) (opened peerBase offset) es).delivered.map Prod.snd ++
        (run (next peerBase) (opened peerBase offset) es).undelivered =
      outputs (next peerBase) (takes peerBase) (opened peerBase offset) es ↔
    outputs (next peerBase) unclaimed (opened peerBase offset) es = [] := by
  have hlength := delivered_length_run peerBase offset es hdelivers
  constructor
  · intro hall
    rw [hall] at hlength
    exact List.eq_nil_of_length_eq_zero (by omega)
  · intro hnone
    rw [hnone] at hlength
    exact (delivered_sublist_run peerBase offset es).eq_of_length hlength

/-- What was delivered, step by step. -/
theorem delivered_eq_run :
    (run (next peerBase) (opened peerBase offset) es).delivered =
      outputs (next peerBase) delivers (opened peerBase offset) es :=
  @record_run _ _ (next peerBase) _ delivers (fun _ _ => True) delivered
    (fun ep e _ => delivers_step peerBase ep e) _ es (AllSteps.of_forall (fun _ _ => trivial) _)

/-- A packet has been read from every address that the endpoint knows. -/
theorem addresses_run {address : UDPAddr}
    (h : address ∈ (run (next peerBase) (opened peerBase offset) es).addresses) :
    ∃ payload, (address, payload) ∈ outputs (next peerBase) reads (opened peerBase offset) es := by
  induction es using List.reverseRecOn with
  | nil => exact absurd h List.not_mem_nil
  | append_singleton es e ih =>
      rw [run_concat] at h
      rw [outputs_concat]
      rcases addresses_step h with hbefore | ⟨payload, hreads⟩
      · obtain ⟨payload, hread⟩ := ih hbefore
        exact ⟨payload, List.mem_append_left _ hread⟩
      · exact ⟨payload, List.mem_append_right _ (by simp [hreads])⟩

theorem mem_reads_run {sender : UDPAddr} {payload : Packet}
    (h : (sender, payload) ∈ outputs (next peerBase) reads (opened peerBase offset) es) :
    .readFromUDP (.ok (payload, sender)) ∈ es := by
  obtain ⟨pre, post, heq⟩ := List.append_of_mem h
  obtain ⟨before, e, after, rfl, -, hreads, -⟩ := exists_of_outputs_eq heq
  obtain rfl := eq_of_reads hreads
  exact List.mem_append_right _ List.mem_cons_self

/-- A packet is delivered to an address from which one was read before. -/
theorem delivers_run {pre : List LoopEvent} {e : LoopEvent} {d : UDPAddr × Packet}
    (h : (run (next peerBase) (opened peerBase offset) pre).delivers e = some d) :
    ∃ payload, (d.1, payload) ∈ outputs (next peerBase) reads (opened peerBase offset) pre := by
  refine addresses_run peerBase offset pre ?_
  generalize run (next peerBase) (opened peerBase offset) pre = ep at h
  unfold delivers at h
  split at h
  · split at h
    · next hloop =>
        obtain rfl := Option.some.inj h
        simp [addresses, hloop]
    · cases h
  · cases h

/-- What is taken is a packet that was read from the host. -/
theorem mem_takes_run {payload : Packet}
    (h : payload ∈ outputs (next peerBase) (takes peerBase) (opened peerBase offset) es) :
    .readFrom (.ok (payload, some (opened peerBase offset).remote)) ∈ es := by
  induction es using List.reverseRecOn with
  | nil => exact absurd h List.not_mem_nil
  | append_singleton es e ih =>
      rw [outputs_concat, List.mem_append, Option.mem_toList] at h
      rcases h with hbefore | htakes
      · exact List.mem_append_left _ (ih hbefore)
      · obtain rfl := eq_of_takes htakes
        rw [(run_fixed peerBase es (opened peerBase offset)).2]
        exact List.mem_append_right _ (List.mem_singleton_self _)

end Run

end Endpoint

/-! ### The process -/

namespace Helper

variable {s : Helper} {i : Nat}

def loopEvent? (i : Nat) : HelperEvent → Option LoopEvent
  | .loop j e => if j = i then some e else none
  | _ => none

/-- The events of one endpoint. -/
def loopEvents (i : Nat) (es : List HelperEvent) : List LoopEvent := es.filterMap (loopEvent? i)

theorem mem_loopEvents {e : LoopEvent} {es : List HelperEvent} :
    e ∈ loopEvents i es ↔ .loop i e ∈ es := by
  rw [loopEvents, List.mem_filterMap]
  constructor
  · rintro ⟨event, hevent, he⟩
    cases event with
    | loop j e' =>
        by_cases hj : j = i
        · rw [loopEvent?, if_pos hj] at he
          rwa [← hj, ← Option.some.inj he]
        · rw [loopEvent?, if_neg hj] at he
          cases he
    | signal => cases he
    | relayErr => cases he
  · intro he
    exact ⟨_, he, if_pos rfl⟩

@[simp] theorem reportError_endpoints (err : String) :
    (s.reportError err).endpoints = s.endpoints := by
  unfold reportError
  split <;> rfl

@[simp] theorem reportError_peerBase (err : String) :
    (s.reportError err).peerBase = s.peerBase := by
  unfold reportError
  split <;> rfl

theorem step_endpoints (e : HelperEvent) :
    (s.step e).peerBase = s.peerBase ∧
      (s.step e).endpoints[i]? = s.endpoints[i]?.map fun ep =>
        ((loopEvent? i e).elim ep fun e => ep.next s.peerBase e) := by
  cases e with
  | loop j e =>
      by_cases hj : j = i
      · subst hj
        simp only [loopEvent?, if_true, Option.elim_some, step]
        cases hep : s.endpoints[j]? with
        | none => exact ⟨rfl, by simp [hep]⟩
        | some ep =>
            have hlt : j < s.endpoints.length := (List.getElem?_eq_some_iff.mp hep).1
            dsimp only
            split <;> simp [hlt]
      · simp only [loopEvent?, if_neg hj, Option.elim_none, Option.map_id', step]
        cases s.endpoints[j]? with
        | none => exact ⟨rfl, rfl⟩
        | some ep =>
            dsimp only
            split <;> simp [hj]
  | signal =>
      simp only [loopEvent?, Option.elim_none, Option.map_id', step]
      split <;> exact ⟨rfl, rfl⟩
  | relayErr =>
      simp only [loopEvent?, Option.elim_none, Option.map_id', step]
      split <;> exact ⟨rfl, rfl⟩

/-- A goroutine touches its endpoint only. -/
theorem endpoints_run (es : List HelperEvent) :
    (run step s es).endpoints[i]? =
      s.endpoints[i]?.map fun ep => run (Endpoint.next s.peerBase) ep (loopEvents i es) := by
  induction es generalizing s with
  | nil => simp [loopEvents]
  | cons e es ih =>
      obtain ⟨hbase, hendpoints⟩ := step_endpoints (s := s) (i := i) e
      rw [run_cons, ih, hbase, hendpoints, Option.map_map, loopEvents, loopEvents]
      refine congrArg (Option.map · _) (funext fun ep => ?_)
      cases he : loopEvent? i e with
      | none => rw [List.filterMap_cons_none he]; rfl
      | some e' => rw [List.filterMap_cons_some he]; rfl

/-- An endpoint of a process that has got ready, by the events of its goroutines. -/
theorem eq_run_of_ready {peerBase : UDPAddr} {offsets : List Int} {es : List HelperEvent}
    {ep : Endpoint} (hep : (run step (ready peerBase offsets) es).endpoints[i]? = some ep) :
    run (Endpoint.next peerBase) (Endpoint.opened peerBase ep.offset) (loopEvents i es) = ep := by
  rw [endpoints_run, ready, List.getElem?_map, Option.map_map] at hep
  obtain ⟨offset, -, rfl⟩ := Option.map_eq_some_iff.mp hep
  exact congrArg (fun offset => run _ (Endpoint.opened peerBase offset) _)
    (Endpoint.run_fixed peerBase (loopEvents i es) (.opened peerBase offset)).1

/-! #### Errors -/

/-- The error that a step reports. -/
def reports (s : Helper) : HelperEvent → Option String
  | .loop i e => (s.endpoints[i]?).bind fun ep => ep.reports s.peerBase e
  | _ => none

/-- The error that ended the `select`. -/
def received (s : Helper) : List String :=
  match s.main with
  | .returning (some err) => [err]
  | _ => []

/-- The goroutines of the endpoints that have reported an error. -/
def reportedIn : List Endpoint → Nat
  | [] => 0
  | ep :: endpoints => ep.reported + reportedIn endpoints

def reported (s : Helper) : Nat := reportedIn s.endpoints

theorem reported_le (endpoints : List Endpoint) :
    reportedIn endpoints ≤ 2 * endpoints.length := by
  induction endpoints with
  | nil => exact Nat.le_refl 0
  | cons ep endpoints ih =>
      have := ep.reported_le
      rw [reportedIn, List.length_cons]
      omega

theorem reported_le_reportedIn {endpoints : List Endpoint} {ep : Endpoint} (hep : ep ∈ endpoints) :
    ep.reported ≤ reportedIn endpoints := by
  induction endpoints with
  | nil => cases hep
  | cons first endpoints ih =>
      rw [reportedIn]
      rcases List.mem_cons.mp hep with rfl | hep
      · exact Nat.le_add_right _ _
      · exact (ih hep).trans (Nat.le_add_left _ _)

theorem reported_set {endpoints : List Endpoint} {ep : Endpoint} (ep' : Endpoint)
    (hep : endpoints[i]? = some ep) :
    reportedIn (endpoints.set i ep') + ep.reported = reportedIn endpoints + ep'.reported := by
  induction endpoints generalizing i with
  | nil => cases hep
  | cons first endpoints ih =>
      cases i with
      | zero =>
          obtain rfl := Option.some.inj hep
          rw [List.set_cons_zero, reportedIn, reportedIn]
          omega
      | succ i =>
          have := ih hep
          rw [List.set_cons_succ, reportedIn, reportedIn]
          omega

/-- The errors that were reported are received, or in the channel. -/
def Kept (s : Helper) : Prop := (s.received ++ s.errorsChannel).length = s.reported

/-- **Step lemma.** The channel has room for an error that is reported. -/
theorem kept_step (h : s.Kept) (e : HelperEvent) :
    (s.step e).Kept ∧ (s.step e).received ++ (s.step e).errorsChannel =
      s.received ++ s.errorsChannel ++ (s.reports e).toList := by
  cases e with
  | signal =>
      simp only [step, reports, Option.toList_none, List.append_nil]
      split
      · next hwaiting => simpa [Kept, received, reported, hwaiting] using h
      · exact ⟨h, rfl⟩
  | relayErr =>
      simp only [step, reports, Option.toList_none, List.append_nil]
      split
      · next err errs hwaiting herrs =>
          simpa [Kept, received, reported, hwaiting, herrs] using h
      · exact ⟨h, rfl⟩
  | loop i e =>
      simp only [step, reports]
      cases hep : s.endpoints[i]? with
      | none => exact ⟨h, by simp⟩
      | some ep =>
          have hset := reported_set (ep.next s.peerBase e) hep
          have hnext := ep.reported_step s.peerBase e
          dsimp only [Option.bind_some]
          unfold Kept reported received at h ⊢
          cases hreports : ep.reports s.peerBase e with
          | none =>
              rw [hreports] at hnext
              simp only [Option.toList_none, List.length_nil, List.append_nil] at hnext ⊢
              exact ⟨by omega, trivial⟩
          | some err =>
              rw [hreports] at hnext
              have hle := reported_le (s.endpoints.set i (ep.next s.peerBase e))
              simp only [Option.toList_some, List.length_singleton, List.length_append] at hnext h
              have hroom : s.errorsChannel.length <
                  2 * (s.endpoints.set i (ep.next s.peerBase e)).length := by omega
              simp only [reportError, if_pos hroom, List.length_append, List.length_singleton,
                Option.toList_some, List.append_assoc, and_true]
              omega

end Helper

open Helper

/-! ### Results -/

/-- In every interleaving an endpoint sends what it reads from the socket, in order and to the
port of the host that has its offset, and what it delivers are packets of that port, in order and
each to an address from which the socket had got one before. -/
theorem relayed_in_order (peerBase : UDPAddr) (offsets : List Int) (es : List HelperEvent) (i : Nat)
    (ep : Endpoint) (hep : (run Helper.step (ready peerBase offsets) es).endpoints[i]? = some ep) :
    ep.remote = ⟨peerBase.ip, wrap (peerBase.port + ep.offset)⟩ ∧
      ep.sent <+: (outputs (Endpoint.next peerBase) Endpoint.reads
        (.opened peerBase ep.offset) (loopEvents i es)).map Prod.snd ∧
      (ep.delivered.map Prod.snd).Sublist (outputs (Endpoint.next peerBase)
        (Endpoint.takes peerBase) (.opened peerBase ep.offset) (loopEvents i es)) ∧
      (∀ d ∈ ep.delivered, .loop i (.readFrom (.ok (d.2, some ep.remote))) ∈ es ∧
        ∃ payload, .loop i (.readFromUDP (.ok (payload, d.1))) ∈ es) ∧
      ep.delivered = outputs (Endpoint.next peerBase) Endpoint.delivers
        (.opened peerBase ep.offset) (loopEvents i es) ∧
      ∀ pre e post d, loopEvents i es = pre ++ e :: post →
        (run (Endpoint.next peerBase) (.opened peerBase ep.offset) pre).delivers e = some d →
          ∃ payload, (d.1, payload) ∈ outputs (Endpoint.next peerBase) Endpoint.reads
            (.opened peerBase ep.offset) pre := by
  have hrun := eq_run_of_ready hep
  have hfixed := (Endpoint.run_fixed peerBase (loopEvents i es) (.opened peerBase ep.offset)).2
  have hsent := Endpoint.sent_prefix_run peerBase ep.offset (loopEvents i es)
  have hdelivered := Endpoint.delivered_sublist_run peerBase ep.offset (loopEvents i es)
  have hsteps := Endpoint.delivered_eq_run peerBase ep.offset (loopEvents i es)
  rw [hrun] at hfixed hsent hdelivered hsteps
  have hsublist := (List.sublist_append_left _ _).trans hdelivered
  refine ⟨hfixed, hsent, hsublist, fun d hd => ⟨?_, ?_⟩, hsteps,
    fun _ _ _ _ _ => Endpoint.delivers_run peerBase ep.offset⟩
  · rw [hfixed]
    exact mem_loopEvents.mp (Endpoint.mem_takes_run _ _ _
      (hsublist.subset (List.mem_map_of_mem hd)))
  · have haddress : d.1 ∈ ep.addresses := by
      simp only [Endpoint.addresses, List.mem_append, List.mem_map]
      exact .inl (.inl (.inl ⟨d, hd, rfl⟩))
    rw [← hrun] at haddress
    obtain ⟨payload, hread⟩ := Endpoint.addresses_run _ _ _ haddress
    exact ⟨payload, mem_loopEvents.mp (Endpoint.mem_reads_run _ _ _ hread)⟩

/-- As long as no write of an endpoint fails, it has sent everything that it has read from the
socket and delivered every packet of the host, but for the one packet that each goroutine may
hold, exactly if no packet of the host has met an endpoint without a stored sender. -/
theorem relayed_all_iff (peerBase : UDPAddr) (offsets : List Int) (es : List HelperEvent) (i : Nat)
    (ep : Endpoint) (hep : (run Helper.step (ready peerBase offsets) es).endpoints[i]? = some ep)
    (hsends : AllSteps (Endpoint.next peerBase) (fun ep e => ¬ ep.SendFails e)
      (.opened peerBase ep.offset) (loopEvents i es))
    (hdelivers : AllSteps (Endpoint.next peerBase) (fun ep e => ¬ ep.DeliveryFails e)
      (.opened peerBase ep.offset) (loopEvents i es)) :
    (ep.sent ++ ep.unsent = (outputs (Endpoint.next peerBase) Endpoint.reads
          (.opened peerBase ep.offset) (loopEvents i es)).map Prod.snd ∧
        ep.delivered.map Prod.snd ++ ep.undelivered = outputs (Endpoint.next peerBase)
          (Endpoint.takes peerBase) (.opened peerBase ep.offset) (loopEvents i es)) ↔
      outputs (Endpoint.next peerBase) Endpoint.unclaimed (.opened peerBase ep.offset)
        (loopEvents i es) = [] := by
  have hsent := Endpoint.sent_run _ _ _ hsends
  have hdelivered := Endpoint.delivered_run_iff _ _ _ hdelivers
  rw [eq_run_of_ready hep] at hsent hdelivered
  rw [← hdelivered]
  exact and_iff_right hsent

/-- The host answers before the client has sent anything, and then once more. -/
def earlyAnswer : List HelperEvent :=
  [.loop 0 (.readFrom (.ok ([1], some ⟨"192.168.1.20", 47998⟩))), .loop 0 .getPeer,
    .loop 0 (.readFromUDP (.ok ([2], ⟨"127.0.0.1", 50000⟩))), .loop 0 .setPeer,
    .loop 0 (.writeTo none), .loop 0 (.readFrom (.ok ([3], some ⟨"192.168.1.20", 47998⟩))),
    .loop 0 .getPeer, .loop 0 (.writeToUDP none)]

theorem earlyAnswer_succeeds : ∀ e ∈ loopEvents 0 earlyAnswer, e.Succeeds := by
  simp [loopEvents, loopEvent?, earlyAnswer, LoopEvent.Succeeds]

def relayingEndpoint : Endpoint where
  offset := 9
  remote := ⟨"192.168.1.20", 47998⟩
  peer := some ⟨"127.0.0.1", 50000⟩
  localLoop := .reading
  remoteLoop := .reading
  sent := [[2]]
  delivered := [(⟨"127.0.0.1", 50000⟩, [3])]

theorem relayed_in_order_sample :
    (run Helper.step (ready ⟨"192.168.1.20", 47989⟩ udpOffsets) earlyAnswer).endpoints[0]? =
        some relayingEndpoint ∧
      (relayingEndpoint.delivered.map Prod.snd).Sublist [[1], [3]] :=
  ⟨by decide, (relayed_in_order ⟨"192.168.1.20", 47989⟩ udpOffsets earlyAnswer 0 relayingEndpoint
    (by decide)).2.2.1⟩

theorem relayed_all_iff_sample :
    (relayingEndpoint.sent = [[2]] ∧ relayingEndpoint.delivered.map Prod.snd ++
        relayingEndpoint.undelivered = [[1], [3]]) ↔ [([1] : Packet)] = [] :=
  relayed_all_iff ⟨"192.168.1.20", 47989⟩ udpOffsets earlyAnswer 0 relayingEndpoint (by decide)
    (AllSteps.mono (fun _ _ h => Endpoint.not_sendFails h)
      (AllSteps.of_forall earlyAnswer_succeeds _))
    (AllSteps.mono (fun _ _ h => Endpoint.not_deliveryFails h)
      (AllSteps.of_forall earlyAnswer_succeeds _))

/-- In every interleaving the errors that the goroutines report are all received or still in the
channel, in order. So the process does not go on waiting without an error in the channel when a
goroutine has ended with one. -/
theorem errors_kept (peerBase : UDPAddr) (offsets : List Int) (es : List HelperEvent) :
    (run Helper.step (ready peerBase offsets) es).received ++
          (run Helper.step (ready peerBase offsets) es).errorsChannel =
        outputs Helper.step Helper.reports (ready peerBase offsets) es ∧
      ((run Helper.step (ready peerBase offsets) es).main = .waiting →
        (run Helper.step (ready peerBase offsets) es).errorsChannel = [] →
          ∀ ep ∈ (run Helper.step (ready peerBase offsets) es).endpoints,
            ep.localLoop ≠ .returned true ∧ ep.remoteLoop ≠ .returned) := by
  have hready : (ready peerBase offsets).Kept := by
    have hzero : Helper.reportedIn (offsets.map (Endpoint.opened peerBase)) = 0 := by
      induction offsets with
      | nil => rfl
      | cons offset offsets ih => exact (Nat.zero_add _).trans ih
    simp [Kept, received, Helper.reported, ready, hzero]
  have hkept (es : List HelperEvent) : (run Helper.step (ready peerBase offsets) es).Kept :=
    @run_invariant _ _ Helper.step (fun _ _ => True) Kept (fun _ e _ h => (kept_step h e).1) _
      hready es (AllSteps.of_forall (fun _ _ => trivial) _)
  refine ⟨?_, fun hwaiting hempty ep hep => ?_⟩
  · exact @record_run _ _ Helper.step _ Helper.reports (fun s _ => s.Kept)
      (fun s => s.received ++ s.errorsChannel) (fun _ e h => (kept_step h e).2) _ es
      (allSteps_iff.mpr fun pre _ _ _ => hkept pre)
  · have hzero : ep.reported = 0 := by
      have hsum : (run Helper.step (ready peerBase offsets) es).reported = 0 := by
        rw [← hkept es, received, hwaiting, hempty]
        rfl
      exact Nat.le_zero.mp (hsum ▸ reported_le_reportedIn hep)
    unfold Endpoint.reported at hzero
    constructor
    · intro hreturned
      simp [hreturned] at hzero
    · intro hreturned
      simp [hreturned] at hzero

end GilStreaming.Coordinator.TurnRelay
