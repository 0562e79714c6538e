import GilStreaming.Coordinator.PairingRecords

/-!
# GilStreaming.Coordinator.PairingConversation

What `Pair` says to Sunshine, whatever Sunshine answers.

A turn of the conversation is a reply that `Pair` has waited for, with the request that it
sends on it. The replies are arbitrary: any status, any body, decoded or not, and transport
errors. `Pairing.Held` says how far the removal of stale clients has come at each stage;
what is said of the PIN, and of the result, follows from it turn by turn.
-/

namespace GilStreaming.Coordinator

open GilStreaming.Trace

/-! ### Turns -/

/-- The call waits for this. -/
def PairStage.awaits : PairStage → PairEvent → Bool
  | .listing, .listed _ => true
  | .fetchingToken _, .token _ => true
  | .unpairing _ _ _, .unpaired _ => true
  | .asking _, .asked _ => true
  | .submitting _, .submitted _ => true
  | .waiting _, .waited _ => true
  | _, _ => false

/-- The pairs of a stage and what it waits for. -/
inductive PairStage.Awaited : PairStage → PairEvent → Prop
  | listing (reply : Fetched (List SunshineClient)) : Awaited .listing (.listed reply)
  | fetchingToken (stale : List SunshineClient) (reply : Fetched String) :
      Awaited (.fetchingToken stale) (.token reply)
  | unpairing (csrfToken : String) (client : SunshineClient) (rest : List SunshineClient)
      (reply : Fetched Bool) : Awaited (.unpairing csrfToken client rest) (.unpaired reply)
  | asking (deadline : Int) (reply : Fetched (List String)) :
      Awaited (.asking deadline) (.asked reply)
  | submitting (deadline : Int) (reply : Fetched Bool) :
      Awaited (.submitting deadline) (.submitted reply)
  | waiting (deadline : Int) (cancelled : Bool) : Awaited (.waiting deadline) (.waited cancelled)

theorem PairStage.awaited_of_awaits {stage : PairStage} {e : PairEvent}
    (h : stage.awaits e = true) : stage.Awaited e := by
  cases stage <;> cases e <;> first | constructor | exact absurd h (by simp [awaits])

structure PairTurn where
  reply : PairEvent
  request : Option SunshineRequest

namespace Pairing

/-- The call after an event and the instant it comes at. -/
def next (p : Pairing) (e : Int × PairEvent) : Pairing := (p.step e.1 e.2).1

/-- The turn that an event makes, if it is what the call waits for. -/
def turn (p : Pairing) (e : Int × PairEvent) : Option PairTurn :=
  if p.stage.awaits e.2 then some ⟨e.2, (p.step e.1 e.2).2⟩ else none

abbrev run (p : Pairing) (es : List (Int × PairEvent)) : Pairing := Trace.run next p es

/-- The conversation. -/
abbrev turns (p : Pairing) (es : List (Int × PairEvent)) : List PairTurn :=
  Trace.outputs next turn p es

end Pairing

/-! ### What the replies say -/

namespace PairEvent

/-- The clients that are listed. -/
def clients : PairEvent → List SunshineClient
  | .listed (.response status (some clients)) => if isSuccess status then clients else []
  | _ => []

/-- Sunshine does not list its clients. -/
def unsupported : PairEvent → Bool
  | .listed (.response status _) => isMissing status
  | _ => false

/-- Sunshine has listed its clients. -/
def lists : PairEvent → Bool
  | .listed (.response status clients) => isSuccess status && clients.isSome
  | _ => false

/-- A client has been removed. -/
def removes : PairEvent → Bool
  | .unpaired (.response status removed) => isSuccess status && removed == some true
  | _ => false

/-- The token has come, or Sunshine has none and it may be left out. -/
def admits : PairEvent → Bool
  | .token (.response status text) => isMissing status || (isSuccess status && text.any (· ≠ ""))
  | _ => false

/-- A client has not been removed, or none can be: there is no list, or no token for it. -/
def removalFails : PairEvent → Bool
  | .listed .failed => true
  | .listed (.response status clients) =>
    !isMissing status && !(isSuccess status && clients.isSome)
  | .token .failed => true
  | .token (.response status text) =>
    !isMissing status && !(isSuccess status && text.any (· ≠ ""))
  | .unpaired .failed => true
  | .unpaired (.response status removed) => !(isSuccess status && removed == some true)
  | _ => false

/-- The reply is of no account for the removal. -/
structure Idle (e : PairEvent) : Prop where
  clients : e.clients = []
  admits : e.admits = false
  removes : e.removes = false

/-- The reply to a PIN has status `true`. -/
def accepts : PairEvent → Bool
  | .submitted (.response status accepted) => isSuccess status && accepted == some true
  | _ => false

/-- A PIN may be submitted with this `pairing_id`: the reply is of the API that has none, and
it is empty, or it is that of the only pending pairing. -/
def Allows (pairingID : String) : PairEvent → Prop
  | .asked (.response status pairings) =>
    (pairingID = "" ∧ (isMissing status = true ∨ isSuccess status = true ∧ pairings = none)) ∨
      pairingID ≠ "" ∧ isSuccess status = true ∧ pairings = some [pairingID]
  | _ => False

end PairEvent

section Turns

/-- The clients listed in the turns. -/
def listedClients (turns : List PairTurn) : List SunshineClient :=
  turns.flatMap fun t => t.reply.clients

/-- The clients unpaired in the turns, in order. -/
def unpairs (turns : List PairTurn) : List String :=
  turns.filterMap fun t => t.request.bind SunshineRequest.unpairs?

/-- How many clients have been removed in the turns. -/
def removals (turns : List PairTurn) : Nat := turns.countP fun t => t.reply.removes

/-- How many clients there should have been an attempt to remove: with the token the first,
and with each that has been removed the next one. -/
def attempts (turns : List PairTurn) : Nat :=
  if turns.any fun t => t.reply.admits then removals turns + 1 else 0

@[simp] theorem listedClients_concat (turns : List PairTurn) (t : PairTurn) :
    listedClients (turns ++ [t]) = listedClients turns ++ t.reply.clients := by
  simp [listedClients]

@[simp] theorem unpairs_concat (turns : List PairTurn) (t : PairTurn) :
    unpairs (turns ++ [t]) =
      unpairs turns ++ (t.request.bind SunshineRequest.unpairs?).toList := by
  rw [unpairs, unpairs, List.filterMap_append]
  cases h : t.request.bind SunshineRequest.unpairs? <;> simp [h]

@[simp] theorem removals_concat (turns : List PairTurn) (t : PairTurn) :
    removals (turns ++ [t]) = removals turns + if t.reply.removes then 1 else 0 := by
  simp [removals, List.countP_append, List.countP_singleton]

theorem attempts_idle {turns : List PairTurn} {t : PairTurn} (h : t.reply.Idle) :
    attempts (turns ++ [t]) = attempts turns := by
  simp [attempts, h.admits, h.removes]

theorem attempts_admitted {turns : List PairTurn} (h : ∃ t ∈ turns, t.reply.admits = true) :
    attempts turns = removals turns + 1 :=
  if_pos (List.any_eq_true.mpr h)

end Turns

/-! ### How far the removal has come -/

/-- All that is stale has been removed: nothing is wanted, Sunshine lists no clients, or each
of those listed that are stale has been unpaired, and removed. -/
def Pairing.CleanedUp (p : Pairing) (turns : List PairTurn) : Prop :=
  (p.deviceName :: p.legacyDeviceNames).all (· = "") = true ∨
    (∃ t ∈ turns, t.reply.unsupported = true) ∨
    (∃ t ∈ turns, t.reply.lists = true) ∧
      unpairs turns = (p.stale (listedClients turns)).map SunshineClient.uuid ∧
      removals turns = (p.stale (listedClients turns)).length

/-- What the turns so far come to, at the stage. -/
def PairStage.Progress (p : Pairing) (turns : List PairTurn) : PairStage → Prop
  | .listing => turns = []
  | .fetchingToken stale =>
    (∃ t ∈ turns, t.reply.lists = true) ∧ p.stale (listedClients turns) = stale ∧
      unpairs turns = [] ∧ removals turns = 0
  | .unpairing _ client rest =>
    (∃ t ∈ turns, t.reply.lists = true) ∧ (∃ t ∈ turns, t.reply.admits = true) ∧ ∃ removed,
      p.stale (listedClients turns) = removed ++ client :: rest ∧
        unpairs turns = (removed ++ [client]).map SunshineClient.uuid ∧
        removals turns = removed.length
  | .done _ => True
  | _ => p.CleanedUp turns

/-- **Invariant** of a call that began as `p₀`. -/
structure Pairing.Held (p₀ p : Pairing) (turns : List PairTurn) : Prop where
  same : p = { p₀ with stage := p.stage }
  unpairs : unpairs turns =
    ((p₀.stale (listedClients turns)).take (attempts turns)).map SunshineClient.uuid
  progress : p.stage.Progress p₀ turns

namespace Pairing

variable {p₀ p : Pairing} {turns : List PairTurn} {reply : PairEvent}

/-- A turn that is of no account for the removal leaves what has been said of it. -/
theorem CleanedUp.concat (h : p₀.CleanedUp turns) {t : PairTurn} (hidle : t.reply.Idle)
    (hrequest : t.request.bind SunshineRequest.unpairs? = none) :
    p₀.CleanedUp (turns ++ [t]) := by
  rcases h with hnone | ⟨u, hu, hunsupported⟩ | ⟨⟨u, hu, hlists⟩, hunpairs, hremovals⟩
  · exact .inl hnone
  · exact .inr (.inl ⟨u, by simp [hu], hunsupported⟩)
  · refine .inr (.inr ⟨⟨u, by simp [hu], hlists⟩, ?_, ?_⟩)
    · simp [hrequest, hidle.clients, hunpairs]
    · simp [hidle.removes, hidle.clients, hremovals]

/-- The call fails. -/
theorem Held.fail (h : p₀.Held p turns) (hidle : reply.Idle) (err : SunshineError) :
    p₀.Held (p.fail err).1 (turns ++ [⟨reply, (p.fail err).2⟩]) where
  same := by rw [h.same]; rfl
  unpairs := by
    rw [listedClients_concat, unpairs_concat, attempts_idle hidle, hidle.clients]
    simpa [Pairing.fail] using h.unpairs
  progress := trivial

/-- The call goes on after the removal, with `next` and its request. -/
theorem Held.goOn (h : p₀.Held p turns) (hcleaned : p₀.CleanedUp turns) {stage : PairStage}
    {request : Option SunshineRequest} (hidle : reply.Idle)
    (hrequest : request.bind SunshineRequest.unpairs? = none)
    (hstage : ∀ turns, p₀.CleanedUp turns → stage.Progress p₀ turns) :
    p₀.Held { p with stage := stage } (turns ++ [⟨reply, request⟩]) where
  same := by rw [h.same]
  unpairs := by
    rw [listedClients_concat, unpairs_concat, attempts_idle hidle, hidle.clients, hrequest]
    simpa using h.unpairs
  progress := hstage _ (hcleaned.concat hidle hrequest)

theorem Held.stale (h : p₀.Held p turns) (clients : List SunshineClient) :
    p.stale clients = p₀.stale clients := by
  rw [h.same]
  rfl

/-- The call goes on to the PIN. -/
theorem Held.removed (h : p₀.Held p turns) (now : Int)
    (hunpairs : Coordinator.unpairs turns =
      ((p₀.stale (listedClients turns ++ reply.clients)).take
        (attempts (turns ++ [⟨reply, some .pendingPairings⟩]))).map SunshineClient.uuid)
    (hcleaned : p₀.CleanedUp (turns ++ [⟨reply, some .pendingPairings⟩])) :
    p₀.Held (p.removed now).1 (turns ++ [⟨reply, (p.removed now).2⟩]) where
  same := by rw [h.same]; rfl
  unpairs := by simpa [Pairing.removed, ask, SunshineRequest.unpairs?] using hunpairs
  progress := hcleaned

/-- What the list of clients leads to. -/
theorem Held.listed (h : p₀.Held p turns) (hturns : turns = []) (now : Int)
    (reply : Fetched (List SunshineClient)) :
    p₀.Held (p.listed now reply).1 (turns ++ [⟨.listed reply, (p.listed now reply).2⟩]) := by
  have hnone : listedClients turns = [] := by rw [hturns]; rfl
  have hunpairs : Coordinator.unpairs turns = [] := by rw [hturns]; rfl
  have hremovals : removals turns = 0 := by rw [hturns]; rfl
  have hattempts : ∀ request, attempts (turns ++ [⟨.listed reply, request⟩]) = 0 := by
    rw [hturns]
    exact fun _ => rfl
  cases reply with
  | failed => exact h.fail ⟨rfl, rfl, rfl⟩ .transport
  | response status clients =>
      unfold Pairing.listed
      dsimp only
      cases hsuccess : isSuccess status with
      | false =>
          have hclients : PairEvent.clients (.listed (.response status clients)) = [] := by
            cases clients <;> simp [PairEvent.clients, hsuccess]
          split
          · next hmissing =>
              refine h.removed now (by simp [hunpairs, hattempts]) (.inr (.inl ?_))
              exact ⟨_, List.mem_append_right _ (List.mem_singleton_self _), hmissing⟩
          · split
            · exact h.fail ⟨hclients, rfl, rfl⟩ .rejected
            · exact h.fail ⟨hclients, rfl, rfl⟩ (.status status)
      | true =>
          have hmissing : ¬ isMissing status = true := by
            simp only [isSuccess, isMissing, Bool.and_eq_true, Bool.or_eq_true, beq_iff_eq,
              decide_eq_true_eq] at hsuccess ⊢
            omega
          have hstatus : status ≠ 401 := by
            rintro rfl
            exact absurd hsuccess (by decide)
          rw [if_neg hmissing, if_neg hstatus, if_neg (by simp)]
          cases clients with
          | none => exact h.fail ⟨rfl, rfl, rfl⟩ .decode
          | some clients =>
              have hclients : PairEvent.clients (.listed (.response status (some clients))) =
                  clients := by simp [PairEvent.clients, hsuccess]
              have hlists : PairEvent.lists (.listed (.response status (some clients))) = true := by
                simp [PairEvent.lists, hsuccess]
              have hremoves : PairEvent.removes (.listed (.response status (some clients))) =
                  false := rfl
              dsimp only
              rw [h.stale]
              split
              · next hstale =>
                  refine h.removed now (by simp [hunpairs, hattempts]) (.inr (.inr ⟨?_, ?_, ?_⟩))
                  · exact ⟨_, List.mem_append_right _ (List.mem_singleton_self _), hlists⟩
                  · simp [hunpairs, hnone, hclients, hstale, SunshineRequest.unpairs?]
                  · simp [hremovals, hnone, hclients, hstale, hremoves]
              · refine ⟨by rw [h.same], ?_, ?_, ?_, ?_, ?_⟩
                · simp [hunpairs, hattempts, SunshineRequest.unpairs?]
                · exact ⟨_, List.mem_append_right _ (List.mem_singleton_self _), hlists⟩
                · simp [hnone, hclients]
                · simp [hunpairs, SunshineRequest.unpairs?]
                · simp [hremovals, hremoves]

/-- The loop of `removeStaleClients`, when `done` have been removed and `rest` are left. -/
theorem Held.unpair (h : p₀.Held p turns) (now : Int) (csrfToken : String)
    {done rest : List SunshineClient} (hlists : ∃ t ∈ turns, t.reply.lists = true)
    (hadmits : (∃ t ∈ turns, t.reply.admits = true) ∨ reply.admits = true)
    (hclients : reply.clients = []) (hstale : p₀.stale (listedClients turns) = done ++ rest)
    (hunpairs : Coordinator.unpairs turns = done.map SunshineClient.uuid)
    (hremovals : removals turns + (if reply.removes then 1 else 0) = done.length) :
    p₀.Held (p.unpair now csrfToken rest).1
      (turns ++ [⟨reply, (p.unpair now csrfToken rest).2⟩]) := by
  obtain ⟨u, hu, hlists⟩ := hlists
  have hadmits' : ∀ request, ∃ t ∈ turns ++ [⟨reply, request⟩], t.reply.admits = true := by
    intro request
    rcases hadmits with ⟨t, ht, hadmits⟩ | hadmits
    · exact ⟨t, List.mem_append_left _ ht, hadmits⟩
    · exact ⟨_, List.mem_append_right _ (List.mem_singleton_self _), hadmits⟩
  have hattempts : ∀ request, attempts (turns ++ [⟨reply, request⟩]) = done.length + 1 := by
    intro request
    rw [attempts_admitted (hadmits' request), removals_concat, hremovals]
  cases rest with
  | nil =>
      rw [List.append_nil] at hstale
      have hall : done.take (done.length + 1) = done := List.take_of_length_le (Nat.le_succ _)
      refine h.removed now (by rw [hclients, hattempts, List.append_nil, hstale, hall, hunpairs])
        (.inr (.inr ⟨?_, ?_, ?_⟩))
      · exact ⟨u, List.mem_append_left _ hu, hlists⟩
      · simp [hclients, hstale, hunpairs, SunshineRequest.unpairs?]
      · simp [hclients, hstale, hremovals]
  | cons client rest =>
      have hnext : (done ++ client :: rest).take (done.length + 1) = done ++ [client] := by
        rw [List.take_length_add_append]
        rfl
      refine ⟨by rw [h.same]; rfl, ?_, ⟨u, List.mem_append_left _ hu, hlists⟩, hadmits' _, done,
        ?_, ?_, ?_⟩
      · simp [Pairing.unpair, hclients, hattempts, hstale, hnext, hunpairs,
          SunshineRequest.unpairs?]
      · simp [hclients, hstale]
      · simp [Pairing.unpair, hunpairs, SunshineRequest.unpairs?]
      · simp [hremovals]

/-- What the token leads to. -/
theorem Held.tokenFetched (h : p₀.Held p turns) (now : Int) {stale : List SunshineClient}
    (hprogress : (PairStage.fetchingToken stale).Progress p₀ turns) (reply : Fetched String) :
    p₀.Held (p.tokenFetched now stale reply).1
      (turns ++ [⟨.token reply, (p.tokenFetched now stale reply).2⟩]) := by
  obtain ⟨hlists, hstale, hunpairs, hremovals⟩ := hprogress
  have hloop : PairEvent.admits (.token reply) = true → ∀ csrfToken,
      p₀.Held (p.unpair now csrfToken stale).1
        (turns ++ [⟨.token reply, (p.unpair now csrfToken stale).2⟩]) := fun hadmits csrfToken =>
    h.unpair now csrfToken hlists (.inr hadmits) rfl
      (show p₀.stale (listedClients turns) = [] ++ stale from hstale) hunpairs
      (by simp [hremovals, PairEvent.removes])
  cases reply with
  | failed => exact h.fail ⟨rfl, rfl, rfl⟩ .transport
  | response status token =>
      unfold Pairing.tokenFetched
      dsimp only
      split
      · next hmissing => exact hloop (by simp [PairEvent.admits, hmissing]) ""
      · next hmissing =>
          split
          · next hsuccess =>
              refine h.fail ⟨rfl, ?_, rfl⟩ (.status status)
              simp only [Bool.not_eq_true, Bool.not_eq_true'] at hmissing hsuccess
              simp [PairEvent.admits, hmissing, hsuccess]
          · next hsuccess =>
              cases token with
              | none => exact h.fail ⟨rfl, by simp [PairEvent.admits, hmissing], rfl⟩ .decode
              | some token =>
                  dsimp only
                  split
                  · next hempty =>
                      exact h.fail ⟨rfl, by simp [PairEvent.admits, hmissing, hempty], rfl⟩
                        .emptyToken
                  · next hempty =>
                      refine hloop ?_ token
                      simp [PairEvent.admits, hempty, show isSuccess status = true by
                        simpa using hsuccess]

/-- What the reply to an unpairing leads to. -/
theorem Held.clientUnpaired (h : p₀.Held p turns) (now : Int) {csrfToken : String}
    {client : SunshineClient} {rest : List SunshineClient}
    (hprogress : (PairStage.unpairing csrfToken client rest).Progress p₀ turns)
    (reply : Fetched Bool) :
    p₀.Held (p.clientUnpaired now csrfToken client rest reply).1
      (turns ++ [⟨.unpaired reply, (p.clientUnpaired now csrfToken client rest reply).2⟩]) := by
  obtain ⟨hlists, hadmits, done, hstale, hunpairs, hremovals⟩ := hprogress
  cases reply with
  | failed => exact h.fail ⟨rfl, rfl, rfl⟩ .transport
  | response status removed =>
      unfold Pairing.clientUnpaired
      dsimp only
      split
      · next hsuccess =>
          refine h.fail ⟨rfl, rfl, ?_⟩ (.status status)
          simp only [Bool.not_eq_true'] at hsuccess
          simp [PairEvent.removes, hsuccess]
      · next hsuccess =>
          split
          · next hremoved =>
              exact h.fail ⟨rfl, rfl, by simp [PairEvent.removes, hremoved]⟩
                (.notRemoved client.uuid)
          · next hremoved =>
              have hremoves : PairEvent.removes (.unpaired (.response status removed)) = true := by
                simp only [PairEvent.removes, Bool.and_eq_true, beq_iff_eq]
                exact ⟨by simpa using hsuccess, not_not.mp hremoved⟩
              have hstale' : p₀.stale (listedClients turns) = (done ++ [client]) ++ rest := by
                simp [hstale]
              exact h.unpair now csrfToken hlists (.inl hadmits) rfl hstale' hunpairs
                (by simp [hremoves, hremovals])

/-- What the pending pairings lead to. -/
theorem Held.asked (h : p₀.Held p turns) (hcleaned : p₀.CleanedUp turns) (now deadline : Int)
    (reply : Fetched (List String)) :
    p₀.Held (p.asked now deadline reply).1
      (turns ++ [⟨.asked reply, (p.asked now deadline reply).2⟩]) := by
  have hsubmit : ∀ pairingID, p₀.Held (p.submit deadline pairingID).1
      (turns ++ [⟨.asked reply, (p.submit deadline pairingID).2⟩]) := fun pairingID =>
    h.goOn hcleaned ⟨rfl, rfl, rfl⟩ rfl fun _ hcleaned => hcleaned
  have hretry : p₀.Held (p.retry now deadline).1
      (turns ++ [⟨.asked reply, (p.retry now deadline).2⟩]) := by
    unfold Pairing.retry
    split
    · exact h.goOn hcleaned ⟨rfl, rfl, rfl⟩ rfl fun _ hcleaned => hcleaned
    · exact h.fail ⟨rfl, rfl, rfl⟩ .noPendingPairing
  unfold Pairing.asked
  split
  · exact h.fail ⟨rfl, rfl, rfl⟩ .transport
  · split
    · exact h.fail ⟨rfl, rfl, rfl⟩ .rejected
    · split
      · exact hsubmit ""
      · split
        · exact h.fail ⟨rfl, rfl, rfl⟩ _
        · split
          · exact hsubmit ""
          · exact hretry
          · split
            · exact hretry
            · exact hsubmit _
          · exact h.fail ⟨rfl, rfl, rfl⟩ .multiplePairings

/-- What the reply to the PIN leads to. -/
theorem Held.submitted (h : p₀.Held p turns) (hcleaned : p₀.CleanedUp turns) (now deadline : Int)
    (reply : Fetched Bool) :
    p₀.Held (p.submitted now deadline reply).1
      (turns ++ [⟨.submitted reply, (p.submitted now deadline reply).2⟩]) := by
  have hretry : p₀.Held (p.retry now deadline).1
      (turns ++ [⟨.submitted reply, (p.retry now deadline).2⟩]) := by
    unfold Pairing.retry
    split
    · exact h.goOn hcleaned ⟨rfl, rfl, rfl⟩ rfl fun _ hcleaned => hcleaned
    · exact h.fail ⟨rfl, rfl, rfl⟩ .noPendingPairing
  unfold Pairing.submitted
  split
  · exact h.fail ⟨rfl, rfl, rfl⟩ .transport
  · split
    · exact h.fail ⟨rfl, rfl, rfl⟩ .rejected
    · split
      · split
        · exact hretry
        · exact h.fail ⟨rfl, rfl, rfl⟩ _
      · split
        · exact h.fail ⟨rfl, rfl, rfl⟩ .decode
        · exact h.goOn hcleaned ⟨rfl, rfl, rfl⟩ rfl fun _ _ => trivial
        · exact hretry

/-- **Step lemma.** -/
theorem Held.step (h : p₀.Held p turns) (e : Int × PairEvent)
    (hawaits : p.stage.awaits e.2 = true) :
    p₀.Held (p.next e) (turns ++ [⟨e.2, (p.step e.1 e.2).2⟩]) := by
  obtain ⟨now, e⟩ := e
  have hprogress := h.progress
  have hcases := PairStage.awaited_of_awaits hawaits
  unfold Pairing.next Pairing.step
  generalize hstage : p.stage = stage at hcases hprogress
  cases hcases with
  | listing reply => exact h.listed hprogress now reply
  | fetchingToken stale reply => exact h.tokenFetched now hprogress reply
  | unpairing csrfToken client rest reply => exact h.clientUnpaired now hprogress reply
  | asking deadline reply => exact h.asked hprogress now deadline reply
  | submitting deadline reply => exact h.submitted hprogress now deadline reply
  | waiting deadline cancelled =>
      dsimp only
      split
      · exact h.fail ⟨rfl, rfl, rfl⟩ .cancelled
      · exact h.goOn hprogress ⟨rfl, rfl, rfl⟩ rfl fun _ hcleaned => hcleaned

/-! ### One turn -/

theorem next_of_not_awaits {e : Int × PairEvent} (h : p.stage.awaits e.2 = false) :
    p.next e = p := by
  obtain ⟨now, e⟩ := e
  unfold Pairing.next Pairing.step
  cases hstage : p.stage <;> cases e <;>
    first | rfl | exact absurd h (by simp [hstage, PairStage.awaits])

/-- The call neither submits a PIN nor succeeds. -/
def Quiet (r : Pairing × Option SunshineRequest) : Prop :=
  (∀ pin name pairingID, r.2 ≠ some (.submitPIN pin name pairingID)) ∧ r.1.stage ≠ .done none

theorem quiet_fail (p : Pairing) (err : SunshineError) : Quiet (p.fail err) := by
  simp [Quiet, Pairing.fail]

theorem quiet_removed (p : Pairing) (now : Int) : Quiet (p.removed now) := by
  simp [Quiet, Pairing.removed, ask]

theorem quiet_unpair (p : Pairing) (now : Int) (csrfToken : String)
    (rest : List SunshineClient) : Quiet (p.unpair now csrfToken rest) := by
  cases rest with
  | nil => exact quiet_removed p now
  | cons client rest => simp [Quiet, Pairing.unpair]

theorem quiet_retry (p : Pairing) (now deadline : Int) : Quiet (p.retry now deadline) := by
  unfold Pairing.retry
  split
  · simp [Quiet]
  · exact quiet_fail p _

theorem quiet_listed (p : Pairing) (now : Int) (reply : Fetched (List SunshineClient)) :
    Quiet (p.listed now reply) := by
  unfold Pairing.listed
  split
  · exact quiet_fail p _
  · split_ifs
    · exact quiet_removed p now
    · exact quiet_fail p _
    · exact quiet_fail p _
    · split
      · exact quiet_fail p _
      · dsimp only
        split
        · exact quiet_removed p now
        · simp [Quiet]

theorem quiet_tokenFetched (p : Pairing) (now : Int) (stale : List SunshineClient)
    (reply : Fetched String) : Quiet (p.tokenFetched now stale reply) := by
  unfold Pairing.tokenFetched
  split
  · exact quiet_fail p _
  · split_ifs
    · exact quiet_unpair p now _ stale
    · exact quiet_fail p _
    · split
      · exact quiet_fail p _
      · split
        · exact quiet_fail p _
        · exact quiet_unpair p now _ stale

theorem quiet_clientUnpaired (p : Pairing) (now : Int) (csrfToken : String)
    (client : SunshineClient) (rest : List SunshineClient) (reply : Fetched Bool) :
    Quiet (p.clientUnpaired now csrfToken client rest reply) := by
  unfold Pairing.clientUnpaired
  split
  · exact quiet_fail p _
  · split_ifs
    · exact quiet_fail p _
    · exact quiet_fail p _
    · exact quiet_unpair p now csrfToken rest

/-- On a reply about the pending pairings, the PIN is submitted if the reply allows it. -/
theorem asked_cases (p : Pairing) (now deadline : Int) (reply : Fetched (List String)) :
    Quiet (p.asked now deadline reply) ∨ ∃ pairingID,
      p.asked now deadline reply = p.submit deadline pairingID ∧
        PairEvent.Allows pairingID (.asked reply) := by
  unfold Pairing.asked
  split
  · exact .inl (quiet_fail p _)
  · next status pairings =>
      split_ifs with hrejected hmissing hsuccess
      · exact .inl (quiet_fail p _)
      · exact .inr ⟨"", rfl, .inl ⟨rfl, .inl hmissing⟩⟩
      · exact .inl (quiet_fail p _)
      · have hsuccess : isSuccess status = true := by simpa using hsuccess
        split
        · exact .inr ⟨"", rfl, .inl ⟨rfl, .inr ⟨hsuccess, rfl⟩⟩⟩
        · exact .inl (quiet_retry p now deadline)
        · next id =>
            split
            · exact .inl (quiet_retry p now deadline)
            · next hid => exact .inr ⟨id, rfl, .inr ⟨hid, hsuccess, rfl⟩⟩
        · exact .inl (quiet_fail p _)

/-- On the reply to the PIN, the call succeeds if the reply accepts it. -/
theorem submitted_cases (p : Pairing) (now deadline : Int) (reply : Fetched Bool) :
    Quiet (p.submitted now deadline reply) ∨
      p.submitted now deadline reply = ({ p with stage := .done none }, none) ∧
        PairEvent.accepts (.submitted reply) = true := by
  unfold Pairing.submitted
  split
  · exact .inl (quiet_fail p _)
  · next status accepted =>
      split_ifs with hrejected hsuccess hretry
      · exact .inl (quiet_fail p _)
      · exact .inl (quiet_retry p now deadline)
      · exact .inl (quiet_fail p _)
      · split
        · exact .inl (quiet_fail p _)
        · exact .inr ⟨rfl, by simpa [PairEvent.accepts] using hsuccess⟩
        · exact .inl (quiet_retry p now deadline)

/-- **Inversion.** A step submits no PIN and does not succeed, but on a reply that allows the
one or brings the other. -/
theorem step_cases (now : Int) {e : PairEvent} (hawaits : p.stage.awaits e = true) :
    Quiet (p.step now e) ∨
      (∃ deadline pairingID, p.stage = .asking deadline ∧ e.Allows pairingID ∧
        p.step now e = p.submit deadline pairingID) ∨
      e.accepts = true ∧ p.step now e = ({ p with stage := .done none }, none) := by
  have hcases := PairStage.awaited_of_awaits hawaits
  unfold Pairing.step
  generalize hstage : p.stage = stage at hcases
  cases hcases with
  | listing reply => exact .inl (quiet_listed p now reply)
  | fetchingToken stale reply => exact .inl (quiet_tokenFetched p now stale reply)
  | unpairing csrfToken client rest reply =>
      exact .inl (quiet_clientUnpaired p now csrfToken client rest reply)
  | asking deadline reply =>
      rcases p.asked_cases now deadline reply with hquiet | ⟨pairingID, hsubmit, hallows⟩
      · exact .inl hquiet
      · exact .inr (.inl ⟨deadline, pairingID, rfl, hallows, hsubmit⟩)
  | submitting deadline reply =>
      rcases p.submitted_cases now deadline reply with hquiet | ⟨hdone, haccepts⟩
      · exact .inl hquiet
      · exact .inr (.inr ⟨haccepts, hdone⟩)
  | waiting deadline cancelled =>
      dsimp only
      split
      · exact .inl (quiet_fail p _)
      · exact .inl (by simp [Quiet, ask])

/-- The stale clients are still being removed. -/
def removing (p : Pairing) : Bool :=
  match p.stage with
  | .listing | .fetchingToken _ | .unpairing _ _ _ => true
  | _ => false

/-- All that is stale has been removed when the call waits for something else. -/
theorem Held.cleanedUp (h : p₀.Held p turns) (hremoving : p.removing = false)
    (hdone : ∀ err, p.stage ≠ .done err) : p₀.CleanedUp turns := by
  have hprogress := h.progress
  unfold removing at hremoving
  cases hstage : p.stage with
  | listing => simp [hstage] at hremoving
  | fetchingToken stale => simp [hstage] at hremoving
  | unpairing csrfToken client rest => simp [hstage] at hremoving
  | asking deadline => rwa [hstage] at hprogress
  | submitting deadline => rwa [hstage] at hprogress
  | waiting deadline => rwa [hstage] at hprogress
  | done err => exact absurd hstage (hdone err)

/-- The removal goes on, with the token if the clients have just been listed, or comes to the
pending pairings. -/
def Leads (e : PairEvent) (r : Pairing × Option SunshineRequest) : Prop :=
  (e.lists = true ∧ r.2 = some .csrfToken ∧ ∃ stale, r.1.stage = .fetchingToken stale) ∨
    (∃ client csrfToken, r.2 = some (.unpair client.uuid csrfToken) ∧
      ∃ rest, r.1.stage = .unpairing csrfToken client rest) ∨
    r.2 = some .pendingPairings ∧ ∃ deadline, r.1.stage = .asking deadline

theorem Leads.not_done {e : PairEvent} {r : Pairing × Option SunshineRequest} (h : Leads e r)
    (err : Option SunshineError) : r.1.stage ≠ .done err := by
  rcases h with ⟨-, -, stale, hstage⟩ | ⟨client, csrfToken, -, rest, hstage⟩ |
    ⟨-, deadline, hstage⟩
  all_goals
    rw [hstage]
    exact nofun

theorem leads_removed (p : Pairing) (now : Int) (e : PairEvent) : Leads e (p.removed now) :=
  .inr (.inr ⟨rfl, _, rfl⟩)

theorem leads_unpair (p : Pairing) (now : Int) (csrfToken : String)
    (rest : List SunshineClient) (e : PairEvent) : Leads e (p.unpair now csrfToken rest) := by
  cases rest with
  | nil => exact leads_removed p now e
  | cons client rest => exact .inr (.inl ⟨client, csrfToken, rfl, rest, rfl⟩)

/-- What the removal waits for, unless it is a failure, leads on. -/
theorem step_leads (now : Int) {e : PairEvent} (hawaits : p.stage.awaits e = true)
    (hremoving : p.removing = true) (hfails : e.removalFails = false) : Leads e (p.step now e) := by
  have hcases := PairStage.awaited_of_awaits hawaits
  unfold removing at hremoving
  unfold Pairing.step
  generalize hstage : p.stage = stage at hcases hremoving
  cases hcases with
  | listing reply =>
      dsimp only
      cases reply with
      | failed => exact absurd hfails (by simp [PairEvent.removalFails])
      | response status clients =>
          unfold Pairing.listed
          dsimp only
          split
          · exact leads_removed p now _
          · next hmissing =>
              obtain ⟨hsuccess, hclients⟩ : isSuccess status = true ∧ clients.isSome = true := by
                simpa [PairEvent.removalFails, hmissing] using hfails
              have hstatus : status ≠ 401 := by
                rintro rfl
                exact absurd hsuccess (by decide)
              obtain ⟨clients, rfl⟩ := Option.isSome_iff_exists.mp hclients
              rw [if_neg hstatus, if_neg (by simp [hsuccess])]
              dsimp only
              split
              · exact leads_removed p now _
              · exact .inl ⟨by simp [PairEvent.lists, hsuccess], rfl, _, rfl⟩
  | fetchingToken stale reply =>
      dsimp only
      cases reply with
      | failed => exact absurd hfails (by simp [PairEvent.removalFails])
      | response status text =>
          unfold Pairing.tokenFetched
          dsimp only
          split
          · exact leads_unpair p now _ stale _
          · next hmissing =>
              obtain ⟨hsuccess, htext⟩ :
                  isSuccess status = true ∧ text.any (· ≠ "") = true := by
                simpa [PairEvent.removalFails, hmissing] using hfails
              rw [if_neg (by simp [hsuccess])]
              cases text with
              | none => exact absurd htext (by simp)
              | some text =>
                  dsimp only
                  rw [if_neg (by simpa using htext)]
                  exact leads_unpair p now _ stale _
  | unpairing csrfToken client rest reply =>
      dsimp only
      cases reply with
      | failed => exact absurd hfails (by simp [PairEvent.removalFails])
      | response status removed =>
          obtain ⟨hsuccess, hremoved⟩ : isSuccess status = true ∧ removed = some true := by
            simpa [PairEvent.removalFails] using hfails
          unfold Pairing.clientUnpaired
          dsimp only
          rw [if_neg (by simp [hsuccess]), if_neg (not_not.mpr hremoved)]
          exact leads_unpair p now csrfToken rest _
  | _ => exact absurd hremoving (by simp)

theorem unpairs_retry (p : Pairing) (now deadline : Int) :
    (p.retry now deadline).2.bind SunshineRequest.unpairs? = none := by
  unfold Pairing.retry
  split <;> rfl

theorem unpairs_asked (p : Pairing) (now deadline : Int) (reply : Fetched (List String)) :
    (p.asked now deadline reply).2.bind SunshineRequest.unpairs? = none := by
  unfold Pairing.asked
  split
  · rfl
  · split_ifs
    · rfl
    · rfl
    · rfl
    · split
      · rfl
      · exact unpairs_retry p now deadline
      · split
        · exact unpairs_retry p now deadline
        · rfl
      · rfl

theorem unpairs_submitted (p : Pairing) (now deadline : Int) (reply : Fetched Bool) :
    (p.submitted now deadline reply).2.bind SunshineRequest.unpairs? = none := by
  unfold Pairing.submitted
  split
  · rfl
  · split_ifs
    · rfl
    · exact unpairs_retry p now deadline
    · rfl
    · split
      · rfl
      · rfl
      · exact unpairs_retry p now deadline

/-- After the removal, a turn is of no account for it. -/
theorem step_settled (now : Int) {e : PairEvent} (hawaits : p.stage.awaits e = true)
    (hremoving : p.removing = false) :
    e.Idle ∧ (p.step now e).2.bind SunshineRequest.unpairs? = none := by
  have hcases := PairStage.awaited_of_awaits hawaits
  unfold removing at hremoving
  unfold Pairing.step
  generalize hstage : p.stage = stage at hcases hremoving
  cases hcases with
  | asking deadline reply => exact ⟨⟨rfl, rfl, rfl⟩, unpairs_asked p now deadline reply⟩
  | submitting deadline reply => exact ⟨⟨rfl, rfl, rfl⟩, unpairs_submitted p now deadline reply⟩
  | waiting deadline cancelled =>
      refine ⟨⟨rfl, rfl, rfl⟩, ?_⟩
      dsimp only
      split <;> rfl
  | _ => exact absurd hremoving (by simp)

/-- Where a removal fails, the call ends. -/
theorem step_removalFails (now : Int) {e : PairEvent} (hawaits : p.stage.awaits e = true)
    (hfails : e.removalFails = true) :
    (p.step now e).2 = none ∧ ∃ err, (p.step now e).1.stage = .done (some err) := by
  have hcases := PairStage.awaited_of_awaits hawaits
  unfold Pairing.step
  generalize hstage : p.stage = stage at hcases
  cases hcases with
  | listing reply =>
      dsimp only
      cases reply with
      | failed => exact ⟨rfl, _, rfl⟩
      | response status clients =>
          simp only [PairEvent.removalFails, Bool.and_eq_true, Bool.not_eq_true'] at hfails
          obtain ⟨hmissing, hclients⟩ := hfails
          unfold Pairing.listed
          dsimp only
          rw [if_neg (by simp [hmissing])]
          split
          · exact ⟨rfl, _, rfl⟩
          · split
            · exact ⟨rfl, _, rfl⟩
            · next hsuccess =>
                obtain rfl : clients = none := by
                  simpa [show isSuccess status = true by simpa using hsuccess] using hclients
                exact ⟨rfl, _, rfl⟩
  | fetchingToken stale reply =>
      dsimp only
      cases reply with
      | failed => exact ⟨rfl, _, rfl⟩
      | response status text =>
          simp only [PairEvent.removalFails, Bool.and_eq_true, Bool.not_eq_true'] at hfails
          obtain ⟨hmissing, htext⟩ := hfails
          unfold Pairing.tokenFetched
          dsimp only
          rw [if_neg (by simp [hmissing])]
          split
          · exact ⟨rfl, _, rfl⟩
          · next hsuccess =>
              cases text with
              | none => exact ⟨rfl, _, rfl⟩
              | some text =>
                  have hempty : text = "" := by
                    simpa [show isSuccess status = true by simpa using hsuccess] using htext
                  dsimp only
                  rw [if_pos hempty]
                  exact ⟨rfl, _, rfl⟩
  | unpairing csrfToken client rest reply =>
      dsimp only
      cases reply with
      | failed => exact ⟨rfl, _, rfl⟩
      | response status removed =>
          unfold Pairing.clientUnpaired
          dsimp only
          split
          · exact ⟨rfl, _, rfl⟩
          · next hsuccess =>
              have hremoved : removed ≠ some true := by
                simpa [PairEvent.removalFails, show isSuccess status = true by simpa using hsuccess]
                  using hfails
              rw [if_pos hremoved]
              exact ⟨rfl, _, rfl⟩
  | _ => exact absurd hfails (by simp [PairEvent.removalFails])

/-! ### The conversation -/

/-- A turn is made by what the call waits for. -/
theorem turn_eq_some {e : Int × PairEvent} {t : PairTurn} (h : p.turn e = some t) :
    p.stage.awaits e.2 = true ∧ t = ⟨e.2, (p.step e.1 e.2).2⟩ := by
  unfold Pairing.turn at h
  split at h
  · next hawaits => exact ⟨hawaits, (Option.some.inj h).symm⟩
  · exact absurd h (by simp)

/-- A call that has returned says nothing more. -/
theorem turns_of_done {err : Option SunshineError} (h : p.stage = .done err)
    (es : List (Int × PairEvent)) : p.turns es = [] := by
  induction es with
  | nil => rfl
  | cons e es ih =>
      have hawaits : p.stage.awaits e.2 = false := by
        rw [h]
        rfl
      have hnone : p.turn e = none := by
        rw [turn, hawaits]
        rfl
      show (p.turn e).toList ++ (p.next e).turns es = []
      rw [hnone, next_of_not_awaits hawaits, ih]
      rfl

/-- **Run lemma.** -/
theorem held_run (h : p₀.Held p₀ []) (es : List (Int × PairEvent)) :
    p₀.Held (p₀.run es) (p₀.turns es) := by
  induction es using List.reverseRecOn with
  | nil => exact h
  | append_singleton es e ih =>
      rw [run, run_concat, turns, outputs_concat]
      cases hturn : (p₀.run es).turn e with
      | none =>
          have hawaits : (p₀.run es).stage.awaits e.2 = false := by
            by_contra hawaits
            simp [turn, hawaits] at hturn
          rw [next_of_not_awaits hawaits, Option.toList_none, List.append_nil]
          exact ih
      | some t =>
          obtain ⟨hawaits, rfl⟩ := turn_eq_some hturn
          exact ih.step e hawaits

theorem run_accepts (h : p₀.stage ≠ .done none) {es : List (Int × PairEvent)}
    (hdone : (p₀.run es).stage = .done none) :
    ∃ pre t, p₀.turns es = pre ++ [t] ∧ t.reply.accepts = true := by
  induction es using List.reverseRecOn with
  | nil => exact absurd hdone h
  | append_singleton es e ih =>
      rw [run, run_concat] at hdone
      rw [turns, outputs_concat]
      cases hawaits : (p₀.run es).stage.awaits e.2 with
      | false =>
          rw [next_of_not_awaits hawaits] at hdone
          rw [turn, hawaits]
          simpa using ih hdone
      | true =>
          rw [turn, hawaits]
          refine ⟨_, _, rfl, ?_⟩
          rcases step_cases e.1 hawaits with hquiet | ⟨deadline, id, -, -, hsubmit⟩ |
            ⟨haccepts, -⟩
          · exact absurd hdone hquiet.2
          · rw [next, hsubmit] at hdone
            exact absurd hdone (by simp [submit])
          · exact haccepts

/-- A call ends with all that is stale removed, or on a failure to remove it. -/
theorem run_done (h : p₀.Held p₀ []) (hstart : ∀ err, p₀.stage ≠ .done err)
    {es : List (Int × PairEvent)} {err : Option SunshineError}
    (hdone : (p₀.run es).stage = .done err) :
    p₀.CleanedUp (p₀.turns es) ∨
      ∃ pre t, p₀.turns es = pre ++ [t] ∧ t.reply.removalFails = true := by
  induction es using List.reverseRecOn with
  | nil => exact absurd hdone (hstart err)
  | append_singleton es e ih =>
      rw [run, run_concat] at hdone
      rw [turns, outputs_concat]
      cases hawaits : (p₀.run es).stage.awaits e.2 with
      | false =>
          rw [next_of_not_awaits hawaits] at hdone
          rw [turn, hawaits]
          simpa using ih hdone
      | true =>
          rw [turn, hawaits]
          cases hremoving : (p₀.run es).removing with
          | false =>
              obtain ⟨hidle, hunpairs⟩ := step_settled e.1 hawaits hremoving
              refine .inl (((held_run h es).cleanedUp hremoving fun err hstage => ?_).concat hidle
                hunpairs)
              rw [hstage] at hawaits
              exact absurd hawaits (by simp [PairStage.awaits])
          | true =>
              cases hfails : e.2.removalFails with
              | true => exact .inr ⟨_, _, rfl, hfails⟩
              | false => exact absurd hdone ((step_leads e.1 hawaits hremoving hfails).not_done err)

/-- What a call has done before its first turn. -/
theorem start_held (pin deviceName : String) (legacyDeviceNames : List String)
    (configured validURL : Bool) (now : Int) :
    let started := start pin deviceName legacyDeviceNames configured validURL now
    started.1.Held started.1 [] ∧ started.1.stage ≠ .done none ∧ started.1.pin = pin ∧
      started.1.deviceName = deviceName ∧
      ((configured && validURL) = true → ∀ err, started.1.stage ≠ .done err) ∧
      started.2 = if configured && validURL then
          some (if (deviceName :: legacyDeviceNames).all (· = "") then .pendingPairings
            else .listClients)
        else none := by
  cases configured with
  | false =>
      exact ⟨⟨rfl, rfl, trivial⟩, by simp [start, Pairing.fail], rfl, rfl,
        fun h => absurd h Bool.false_ne_true, rfl⟩
  | true =>
      cases validURL with
      | false =>
          exact ⟨⟨rfl, rfl, trivial⟩, by simp [start, Pairing.fail], rfl, rfl,
            fun h => absurd h Bool.false_ne_true, rfl⟩
      | true =>
          unfold start
          simp only [Bool.not_true, Bool.false_eq_true, if_false, Bool.and_self, if_true]
          split_ifs with hnone
          · exact ⟨⟨rfl, rfl, .inl hnone⟩, PairStage.noConfusion, rfl, rfl,
              fun _ _ => PairStage.noConfusion, rfl⟩
          · exact ⟨⟨rfl, rfl, rfl⟩, PairStage.noConfusion, rfl, rfl,
              fun _ _ => PairStage.noConfusion, rfl⟩

end Pairing

/-- Whatever Sunshine replies: the clients that `Pair` unpairs are those listed under a wanted
name and with a uuid, in order, one more than have been removed once the token has come. Until
all have been removed, every reply but a failure leads to the next request, and a failure ends
the call. A PIN is submitted only when all of them have been removed, or there is nothing to
remove or Sunshine lists no clients; and only on a reply of the old API, without a
`pairing_id`, or on one with a single pending pairing, with its id. The call succeeds only on
a reply to the PIN with status `true`. -/
theorem pairing_conversation (pin deviceName : String) (legacyDeviceNames : List String)
    (configured validURL : Bool) (now : Int) (es : List (Int × PairEvent)) :
    let started := Pairing.start pin deviceName legacyDeviceNames configured validURL now
    let turns := started.1.turns es
    started.2 = (if configured && validURL then
        some (if (deviceName :: legacyDeviceNames).all (· = "") then .pendingPairings
          else .listClients)
      else none) ∧
    unpairs turns =
      ((started.1.stale (listedClients turns)).take (attempts turns)).map SunshineClient.uuid ∧
    (∀ pre t post, turns = pre ++ t :: post → t.reply.removalFails = true →
      t.request = none ∧ post = []) ∧
    (∀ pre t post, turns = pre ++ t :: post → ¬ started.1.CleanedUp pre →
      t.reply.removalFails = false →
        (t.reply.lists = true ∧ t.request = some .csrfToken) ∨
        (∃ client csrfToken, t.request = some (.unpair (SunshineClient.uuid client) csrfToken)) ∨
        t.request = some .pendingPairings ∧ started.1.CleanedUp (pre ++ [t])) ∧
    ((configured && validURL) = true → ∀ err, (started.1.run es).stage = .done err →
      started.1.CleanedUp turns ∨ ∃ pre t, turns = pre ++ [t] ∧ t.reply.removalFails = true) ∧
    (∀ pre t post pin' name pairingID, turns = pre ++ t :: post →
      t.request = some (.submitPIN pin' name pairingID) →
      pin' = pin ∧ name = deviceName ∧ started.1.CleanedUp pre ∧ t.reply.Allows pairingID) ∧
    ((started.1.run es).stage = .done none →
      ∃ pre t, turns = pre ++ [t] ∧ t.reply.accepts = true) := by
  obtain ⟨hheld, hstage, hpin, hname, hstart, hrequest⟩ :=
    Pairing.start_held pin deviceName legacyDeviceNames configured validURL now
  intro started turns
  refine ⟨hrequest, (Pairing.held_run hheld es).unpairs, ?_, ?_,
    fun hready err hdone => Pairing.run_done hheld (hstart hready) hdone, ?_,
    Pairing.run_accepts hstage⟩
  · intro pre t post hturns hfails
    obtain ⟨before, e, after, -, -, hturn, rfl⟩ := exists_of_outputs_eq hturns
    obtain ⟨hawaits, rfl⟩ := Pairing.turn_eq_some hturn
    obtain ⟨hnone, err, hdone⟩ := Pairing.step_removalFails e.1 hawaits hfails
    have hstage' : (started.1.run (before ++ [e])).stage = .done (some err) := by
      rw [Pairing.run, run_concat]
      exact hdone
    exact ⟨hnone, Pairing.turns_of_done hstage' after⟩
  · intro pre t post hturns hpre hfails
    obtain ⟨before, e, after, -, rfl, hturn, -⟩ := exists_of_outputs_eq hturns
    obtain ⟨hawaits, rfl⟩ := Pairing.turn_eq_some hturn
    have hbefore := Pairing.held_run hheld before
    have hremoving : (started.1.run before).removing = true := by
      by_contra hremoving
      refine hpre (hbefore.cleanedUp (by simpa using hremoving) fun err hdone => ?_)
      rw [show (Trace.run Pairing.next started.1 before).stage = .done err from hdone] at hawaits
      exact absurd hawaits (by simp [PairStage.awaits])
    rcases Pairing.step_leads e.1 hawaits hremoving hfails with
      ⟨hlists, htoken, -⟩ | ⟨client, csrfToken, hunpair, -⟩ | ⟨hasks, deadline, hasking⟩
    · exact .inl ⟨hlists, htoken⟩
    · exact .inr (.inl ⟨client, csrfToken, hunpair⟩)
    · have hprogress := (hbefore.step e hawaits).progress
      rw [show ((started.1.run before).next e).stage = .asking deadline from hasking] at hprogress
      exact .inr (.inr ⟨hasks, hprogress⟩)
  · intro pre t post pin' name pairingID hturns hsubmits
    obtain ⟨before, e, after, -, rfl, hturn, -⟩ := exists_of_outputs_eq hturns
    obtain ⟨hawaits, rfl⟩ := Pairing.turn_eq_some hturn
    have hbefore := Pairing.held_run hheld before
    rcases Pairing.step_cases e.1 hawaits with
      hquiet | ⟨deadline, id, hasking, hallows, hstep⟩ | ⟨-, hstep⟩
    · exact absurd hsubmits (hquiet.1 pin' name pairingID)
    · have hprogress := hbefore.progress
      rw [hasking] at hprogress
      have hpin' : (started.1.run before).pin = pin :=
        (congrArg Pairing.pin hbefore.same).trans hpin
      have hname' : (started.1.run before).deviceName = deviceName :=
        (congrArg Pairing.deviceName hbefore.same).trans hname
      rw [hstep] at hsubmits
      obtain ⟨rfl, rfl, rfl⟩ := SunshineRequest.submitPIN.inj (Option.some.inj hsubmits)
      exact ⟨hpin', hname', hprogress, hallows⟩
    · rw [hstep] at hsubmits
      exact absurd hsubmits (by simp)

example :
    let p := (Pairing.start "1234" "GilStreaming-1" ["roth"] true true 0).1
    unpairs (p.turns [
      (0, .listed (.response 200 (some [⟨"roth", "a"⟩, ⟨"other", "b"⟩, ⟨"roth", "c"⟩]))),
      (0, .token (.response 404 none)), (0, .unpaired (.response 200 (some true))),
      (0, .unpaired (.response 200 (some false))), (0, .asked (.response 200 none))]) =
        ["a", "c"] := by
  decide

end GilStreaming.Coordinator
