import GilStreaming.Coordinator.TurnURL
import GilStreaming.Lib.Trace

/-!
# GilStreaming.Coordinator.TurnProvider

The credentials for the TURN service: `TurnProvider` in `turn.go`.

A goroutine asks for credentials, sleeps until an hour before they expire and asks again, or a
quarter of a minute later where that has failed. Requests read what is in the cache, and
`Credentials` asks by itself where the cache is of no use. The model has all of them beside a
clock: an exchange with the service takes until its timeout at most, and a timer may be late.

`cachedCredentials_ready` is what the schedule is for. From the first credentials on a request
finds some, unless the goroutine has failed for most of an hour. `cachedCredentials_valid` is about
what a request finds: the service accepts it for at least five minutes, less the timeout by which
the cache may overestimate it.
-/

namespace GilStreaming.Coordinator

open Trace

/-! ### The answer of the service -/

/-- An entry of `iceServers`. -/
structure ICEServer where
  urls : List String
  username : String
  credential : String
  deriving DecidableEq, Repr

structure TurnCredentials where
  server : String := ""
  port : Int := 0
  username : String := ""
  credential : String := ""
  /-- In nanoseconds. -/
  expiresAt : Nat := 0
  deriving DecidableEq, Repr

def nanosPerSecond : Nat := 1000000000

def turnCredentialTTL : Nat := 86400 * nanosPerSecond

def turnCredentialRefreshAdvance : Nat := 3600 * nanosPerSecond

def turnCredentialMinimumValidity : Nat := 300 * nanosPerSecond

def turnCredentialRetryDelay : Nat := 15 * nanosPerSecond

/-- The timeout of `httpClient`. -/
def httpTimeout : Nat := 8 * nanosPerSecond

/-- The first URL of a server that is one of TURN over UDP. -/
def turnAddress (urls : List String) : Option (String × Int) :=
  urls.findSome? fun rawURL =>
    let (server, port, ok) := parseTurnUDPURL rawURL
    if ok then some (server, port) else none

/-- The loop of `refresh` over the answer. -/
def generated (now : Nat) (servers : List ICEServer) : Option TurnCredentials :=
  servers.findSome? fun iceServer =>
    if iceServer.username = "" ∨ iceServer.credential = "" then none
    else (turnAddress iceServer.urls).map fun (server, port) =>
      ⟨server, port, iceServer.username, iceServer.credential, now + turnCredentialTTL⟩

/-- The ports in the reply to a client. Cloudflare takes UDP on port 53 as well, and no letter of
its name has other letters that `strings.EqualFold` takes for it. -/
def turnPorts (c : TurnCredentials) : List Int :=
  if c.server.toList.map Char.toLower = "turn.cloudflare.com".toList && c.port ≠ 53 then
    [c.port, 53]
  else [c.port]

/-! ### The provider -/

/-- The goroutine of `Start`. -/
inductive TurnLoop
  /-- It waits for its timer. -/
  | sleeping (wakeAt : Nat)
  /-- It has asked the service. -/
  | asking (since : Nat)
  deriving DecidableEq, Repr

structure TurnProvider where
  now : Nat
  cached : TurnCredentials := {}
  loop : TurnLoop
  /-- The calls of `Credentials` that have asked, by when they did. -/
  demands : List Nat := []
  /-- When the service has made what is in the cache. -/
  mintedAt : Nat := 0
  /-- How often the goroutine has failed since it last got credentials. -/
  failures : Nat := 0
  deriving DecidableEq, Repr

inductive TurnEvent
  | tick (d : Nat)
  /-- The timer has fired. -/
  | wake
  /-- The service, or an error, for the goroutine. The answer was made at this time. -/
  | answer (mintedAt : Nat) (servers : Option (List ICEServer))
  /-- `Credentials` is called. -/
  | demand
  /-- The service for the call that has asked at `since`. -/
  | demandAnswer (since mintedAt : Nat) (servers : Option (List ICEServer))
  deriving DecidableEq, Repr

namespace TurnProvider

/-- `Start`: the first request has no delay. -/
def started (now : Nat) : TurnProvider := { now := now, loop := .asking now }

variable (p : TurnProvider)

/-- `CachedCredentials`. -/
def cachedCredentials : Option TurnCredentials :=
  if p.cached.credential = "" ∨
      ¬ p.now + turnCredentialMinimumValidity < p.cached.expiresAt then none
  else some p.cached

/-- What `refresh` makes of an answer, where the error is `none`. -/
def refresh (mintedAt : Nat) (servers : Option (List ICEServer)) : Option TurnProvider :=
  (servers.bind (generated p.now)).map fun credentials =>
    { p with cached := credentials, mintedAt := mintedAt }

/-- When the goroutine asks again after it got credentials. -/
def wakeTime : Nat :=
  p.now + max (p.cached.expiresAt - turnCredentialRefreshAdvance - p.now) (60 * nanosPerSecond)

def step (p : TurnProvider) : TurnEvent → TurnProvider
  | .tick d => { p with now := p.now + d }
  | .wake =>
      match p.loop with
      | .sleeping wakeAt => if wakeAt ≤ p.now then { p with loop := .asking p.now } else p
      | .asking _ => p
  | .answer mintedAt servers =>
      match p.loop with
      | .sleeping _ => p
      | .asking _ =>
          match p.refresh mintedAt servers with
          | some p' => { p' with loop := .sleeping p'.wakeTime, failures := 0 }
          | none =>
              { p with
                loop := .sleeping (p.now + turnCredentialRetryDelay)
                failures := p.failures + 1 }
  | .demand =>
      if p.cachedCredentials.isSome then p else { p with demands := p.demands ++ [p.now] }
  | .demandAnswer since mintedAt servers =>
      if since ∈ p.demands then
        { (p.refresh mintedAt servers).getD p with demands := p.demands.erase since }
      else p

/-- What the clock and the service do: no exchange takes longer than its timeout, a timer is late
by no more than `lag`, and what the service makes it makes within the exchange. -/
def Timely (lag : Nat) (p : TurnProvider) : TurnEvent → Prop
  | .tick d =>
      (match p.loop with
        | .sleeping wakeAt => p.now + d ≤ wakeAt + lag
        | .asking since => p.now + d ≤ since + httpTimeout) ∧
      ∀ since ∈ p.demands, p.now + d ≤ since + httpTimeout
  | .wake => True
  | .answer mintedAt _ =>
      match p.loop with
      | .sleeping _ => True
      | .asking since => since ≤ mintedAt ∧ mintedAt ≤ p.now
  | .demand => True
  | .demandAnswer since mintedAt _ => since ≤ mintedAt ∧ mintedAt ≤ p.now

instance (lag : Nat) (p : TurnProvider) (e : TurnEvent) : Decidable (p.Timely lag e) :=
  match e with
  | .tick _ =>
      match h : p.loop with
      | .sleeping _ => decidable_of_iff (_ ∧ _) (by rw [Timely, h])
      | .asking _ => decidable_of_iff (_ ∧ _) (by rw [Timely, h])
  | .wake => isTrue trivial
  | .answer _ _ =>
      match h : p.loop with
      | .sleeping _ => isTrue (by rw [Timely, h]; trivial)
      | .asking _ => decidable_of_iff (_ ∧ _) (by rw [Timely, h])
  | .demand => isTrue trivial
  | .demandAnswer _ _ _ => inferInstanceAs (Decidable (_ ∧ _))

end TurnProvider

/-! ### Credentials that are generated -/

/-- What is in credentials that the service has made. -/
structure TurnCredentials.WellFormed (c : TurnCredentials) : Prop where
  server : c.server ≠ ""
  port : 1 ≤ c.port ∧ c.port ≤ 65535
  username : c.username ≠ ""
  credential : c.credential ≠ ""

theorem parseTurnUDPURL_wellFormed {rawURL server : String} {port : Int}
    (h : parseTurnUDPURL rawURL = (server, port, true)) :
    server ≠ "" ∧ 1 ≤ port ∧ port ≤ 65535 := by
  obtain ⟨t, -, -, rfl, rfl⟩ := parseTurnUDPURL_ok_iff.mp h
  refine ⟨fun hempty => t.host_ne ?_, ?_, ?_⟩
  · have hlist := congrArg String.toList hempty
    rwa [String.toList_ofList] at hlist
  · exact Int.ofNat_le.mpr t.port_range.1
  · exact Int.ofNat_le.mpr t.port_range.2

theorem turnAddress_wellFormed {urls : List String} {server : String} {port : Int}
    (h : turnAddress urls = some (server, port)) : server ≠ "" ∧ 1 ≤ port ∧ port ≤ 65535 := by
  obtain ⟨rawURL, -, hurl⟩ := List.exists_of_findSome?_eq_some h
  cases hparse : parseTurnUDPURL rawURL with
  | mk server' found =>
      obtain ⟨port', ok⟩ := found
      simp only [hparse] at hurl
      cases ok with
      | false => cases hurl
      | true =>
          cases hurl
          exact parseTurnUDPURL_wellFormed hparse

theorem generated_spec {now : Nat} {servers : List ICEServer} {c : TurnCredentials}
    (h : generated now servers = some c) :
    c.WellFormed ∧ c.expiresAt = now + turnCredentialTTL := by
  obtain ⟨iceServer, -, hserver⟩ := List.exists_of_findSome?_eq_some h
  split at hserver
  · cases hserver
  · next hne =>
      obtain ⟨⟨server, port⟩, haddress, rfl⟩ := Option.map_eq_some_iff.mp hserver
      obtain ⟨hserver, hport⟩ := turnAddress_wellFormed haddress
      exact ⟨⟨hserver, hport, fun h => hne (.inl h), fun h => hne (.inr h)⟩, rfl⟩

/-! ### Along a run -/

namespace TurnProvider

variable {p : TurnProvider} {lag : Nat}

/-- The time from one failed attempt of the goroutine to the next. -/
def attempt (lag : Nat) : Nat := httpTimeout + turnCredentialRetryDelay + lag

/-- Where the goroutine is, against the time by which the cache is needed again. -/
def OnTime (lag : Nat) (p : TurnProvider) : Prop :=
  match p.loop with
  | .sleeping wakeAt =>
      wakeAt + turnCredentialRefreshAdvance ≤ p.cached.expiresAt + p.failures * attempt lag
  | .asking since =>
      since + turnCredentialRefreshAdvance ≤ p.cached.expiresAt + p.failures * attempt lag + lag

/-- No deadline of an exchange or of the timer has passed. -/
structure InTime (lag : Nat) (p : TurnProvider) : Prop where
  sleeping : ∀ wakeAt, p.loop = .sleeping wakeAt →
    p.now ≤ wakeAt + lag
  asking : ∀ since, p.loop = .asking since → since ≤ p.now ∧ p.now ≤ since + httpTimeout
  demands : ∀ since ∈ p.demands, since ≤ p.now ∧ p.now ≤ since + httpTimeout

/-- What is in the cache, once the service has made something. -/
structure Filled (p : TurnProvider) : Prop where
  wellFormed : p.cached.WellFormed
  minted : p.mintedAt ≤ p.now ∧ p.cached.expiresAt ≤ p.mintedAt + turnCredentialTTL + httpTimeout
  ahead : p.cached.expiresAt ≤ p.now + turnCredentialTTL

structure Inv (lag : Nat) (p : TurnProvider) : Prop where
  inTime : p.InTime lag
  /-- Before there are credentials the goroutine retries. -/
  empty : p.cached.credential = "" → ∀ wakeAt, p.loop = .sleeping wakeAt →
    wakeAt ≤ p.now + turnCredentialRetryDelay
  filled : p.cached.credential ≠ "" → p.Filled ∧ p.OnTime lag

theorem inv_started (now : Nat) : (started now).Inv lag where
  inTime :=
    { sleeping := fun _ h => by cases h
      asking := fun since h => by
        cases h
        exact ⟨Nat.le_refl _, Nat.le_add_right _ _⟩
      demands := fun since h => by cases h }
  empty := fun _ _ h => by cases h
  filled := fun h => absurd rfl h

theorem refresh_cases {mintedAt : Nat} {servers : Option (List ICEServer)} {p' : TurnProvider}
    (h : p.refresh mintedAt servers = some p') :
    ∃ c : TurnCredentials, c.WellFormed ∧ c.expiresAt = p.now + turnCredentialTTL ∧
      p' = { p with cached := c, mintedAt := mintedAt } := by
  obtain ⟨c, hc, rfl⟩ := Option.map_eq_some_iff.mp h
  obtain ⟨servers, -, hgenerated⟩ := Option.bind_eq_some_iff.mp hc
  obtain ⟨hwf, hexpires⟩ := generated_spec hgenerated
  exact ⟨c, hwf, hexpires, rfl⟩

/-- The cache after an answer that was made within an exchange. -/
theorem filled_refresh {c : TurnCredentials} {since mintedAt : Nat} (hwf : c.WellFormed)
    (hexpires : c.expiresAt = p.now + turnCredentialTTL) (hsince : p.now ≤ since + httpTimeout)
    (hminted : since ≤ mintedAt ∧ mintedAt ≤ p.now) {p' : TurnProvider} (hnow : p'.now = p.now)
    (hcached : p'.cached = c) (hmintedAt : p'.mintedAt = mintedAt) : p'.Filled := by
  subst hcached hmintedAt
  rw [← hnow] at hexpires hsince hminted
  exact ⟨hwf, ⟨hminted.2, by omega⟩, hexpires.le⟩

/-- New credentials put the need for them off. -/
theorem OnTime.refresh {c : TurnCredentials} (mintedAt : Nat) (h : p.Inv lag)
    (hexpires : c.expiresAt = p.now + turnCredentialTTL) :
    { p with cached := c, mintedAt := mintedAt : TurnProvider }.OnTime lag := by
  have hlater : p.cached.credential ≠ "" → p.cached.expiresAt ≤ c.expiresAt ∧ p.OnTime lag :=
    fun hne => ⟨hexpires ▸ (h.filled hne).1.ahead, (h.filled hne).2⟩
  simp only [OnTime, turnCredentialTTL, turnCredentialRefreshAdvance, nanosPerSecond] at *
  cases hloop : p.loop with
  | sleeping wakeAt =>
      simp only [hloop] at hlater ⊢
      by_cases hempty : p.cached.credential = ""
      · have hwake := h.empty hempty wakeAt hloop
        simp only [turnCredentialRetryDelay, nanosPerSecond] at hwake
        omega
      · have hbound := hlater hempty
        omega
  | asking since =>
      simp only [hloop] at hlater ⊢
      have hsince := (h.inTime.asking since hloop).1
      omega

theorem tick_inv {d : Nat} (htimely : p.Timely lag (.tick d)) (h : p.Inv lag) :
    (p.step (.tick d)).Inv lag := by
  obtain ⟨hloop, hdemands⟩ := htimely
  refine ⟨⟨fun wakeAt hw => ?_, fun since ha => ?_, fun since hs => ?_⟩, fun hempty wakeAt hw => ?_,
    fun hne => ?_⟩
  · rw [show p.loop = .sleeping wakeAt from hw] at hloop
    exact hloop
  · rw [show p.loop = .asking since from ha] at hloop
    exact ⟨(h.inTime.asking since ha).1.trans (Nat.le_add_right _ _), hloop⟩
  · exact ⟨(h.inTime.demands since hs).1.trans (Nat.le_add_right _ _), hdemands since hs⟩
  · have hwake := h.empty hempty wakeAt hw
    show wakeAt ≤ p.now + d + _
    omega
  · obtain ⟨hfilled, honTime⟩ := h.filled hne
    refine ⟨⟨hfilled.wellFormed, ⟨?_, hfilled.minted.2⟩, ?_⟩, honTime⟩
    · exact hfilled.minted.1.trans (Nat.le_add_right _ _)
    · have hahead := hfilled.ahead
      show p.cached.expiresAt ≤ p.now + d + _
      omega

theorem wake_inv (h : p.Inv lag) : (p.step .wake).Inv lag := by
  unfold step
  cases hloop : p.loop with
  | asking since => exact h
  | sleeping wakeAt =>
      simp only
      split
      · refine ⟨⟨(fun _ hw => nomatch hw), fun since ha => ?_, h.inTime.demands⟩,
          (fun _ _ hw => nomatch hw), fun hne => ?_⟩
        · cases ha
          exact ⟨Nat.le_refl _, Nat.le_add_right _ _⟩
        · obtain ⟨hfilled, honTime⟩ := h.filled hne
          refine ⟨⟨hfilled.wellFormed, hfilled.minted, hfilled.ahead⟩, ?_⟩
          have hlate := h.inTime.sleeping wakeAt hloop
          simp only [OnTime, hloop] at honTime ⊢
          omega
      · exact h

theorem answer_inv {mintedAt : Nat} {servers : Option (List ICEServer)}
    (htimely : p.Timely lag (.answer mintedAt servers)) (h : p.Inv lag) :
    (p.step (.answer mintedAt servers)).Inv lag := by
  unfold step
  cases hloop : p.loop with
  | sleeping wakeAt => exact h
  | asking since =>
      have hminted : since ≤ mintedAt ∧ mintedAt ≤ p.now := by
        simpa only [Timely, hloop] using htimely
      have hsince := h.inTime.asking since hloop
      simp only
      cases hrefresh : p.refresh mintedAt servers with
      | some p' =>
          obtain ⟨c, hwf, hexpires, rfl⟩ := refresh_cases hrefresh
          -- The next attempt starts when the refresh is due.
          have hwake : { p with cached := c, mintedAt := mintedAt : TurnProvider }.wakeTime +
              turnCredentialRefreshAdvance = c.expiresAt := by
            simp only [wakeTime, hexpires, turnCredentialTTL, turnCredentialRefreshAdvance,
              nanosPerSecond]
            omega
          refine ⟨⟨fun wakeAt hw => ?_, (fun _ ha => nomatch ha), h.inTime.demands⟩,
            fun hempty => absurd hempty hwf.credential, fun _ => ⟨?_, ?_⟩⟩
          · cases hw
            exact (Nat.le_add_right _ _).trans (Nat.le_add_right _ _)
          · exact filled_refresh hwf hexpires hsince.2 hminted rfl rfl rfl
          · exact hwake.le.trans (Nat.le_add_right _ _)
      | none =>
          refine ⟨⟨fun wakeAt hw => ?_, (fun _ ha => nomatch ha), h.inTime.demands⟩,
            fun _ wakeAt hw => ?_, fun hne => ?_⟩
          · cases hw
            exact (Nat.le_add_right _ _).trans (Nat.le_add_right _ _)
          · cases hw
            exact Nat.le_refl _
          · obtain ⟨hfilled, honTime⟩ := h.filled hne
            refine ⟨⟨hfilled.wellFormed, hfilled.minted, hfilled.ahead⟩, ?_⟩
            have hsince' := hsince.2
            simp only [OnTime, hloop] at honTime ⊢
            rw [Nat.succ_mul]
            simp only [attempt] at *
            omega

theorem demandAnswer_inv {since mintedAt : Nat} {servers : Option (List ICEServer)}
    (htimely : p.Timely lag (.demandAnswer since mintedAt servers)) (h : p.Inv lag) :
    (p.step (.demandAnswer since mintedAt servers)).Inv lag := by
  unfold step
  simp only
  split
  · next hmem =>
      have hdemands : ∀ s ∈ p.demands.erase since, s ≤ p.now ∧ p.now ≤ s + httpTimeout :=
        fun s hs => h.inTime.demands s (List.mem_of_mem_erase hs)
      cases hrefresh : p.refresh mintedAt servers with
      | some p' =>
          obtain ⟨c, hwf, hexpires, rfl⟩ := refresh_cases hrefresh
          refine ⟨⟨h.inTime.sleeping, h.inTime.asking, hdemands⟩,
            fun hempty => absurd hempty hwf.credential, fun _ => ⟨?_, ?_⟩⟩
          · exact filled_refresh hwf hexpires (h.inTime.demands since hmem).2 htimely rfl rfl rfl
          · exact OnTime.refresh (p := p) mintedAt h hexpires
      | none =>
          refine ⟨⟨h.inTime.sleeping, h.inTime.asking, hdemands⟩, h.empty, fun hne => ?_⟩
          obtain ⟨hfilled, honTime⟩ := h.filled hne
          exact ⟨⟨hfilled.wellFormed, hfilled.minted, hfilled.ahead⟩, honTime⟩
  · exact h

theorem step_inv {e : TurnEvent} (htimely : p.Timely lag e) (h : p.Inv lag) :
    (p.step e).Inv lag := by
  cases e with
  | tick d => exact tick_inv htimely h
  | wake => exact wake_inv h
  | answer mintedAt servers => exact answer_inv htimely h
  | demandAnswer since mintedAt servers => exact demandAnswer_inv htimely h
  | demand =>
      unfold step
      simp only
      split
      · exact h
      · refine ⟨⟨h.inTime.sleeping, h.inTime.asking, fun since hs => ?_⟩, h.empty, fun hne => ?_⟩
        · obtain hs | hs := List.mem_append.mp hs
          · exact h.inTime.demands since hs
          · cases List.mem_singleton.mp hs
            exact ⟨Nat.le_refl _, Nat.le_add_right _ _⟩
        · obtain ⟨hfilled, honTime⟩ := h.filled hne
          exact ⟨⟨hfilled.wellFormed, hfilled.minted, hfilled.ahead⟩, honTime⟩

/-- Along every run that is in time. -/
theorem inv_run {now : Nat} {events : List TurnEvent}
    (h : AllSteps step (fun p => p.Timely lag) (started now) events) :
    (run step (started now) events).Inv lag :=
  run_invariant (fun _ _ htimely hinv => step_inv htimely hinv) (inv_started now) h

/-! ### What a request finds -/

/-- Once there were credentials a request finds some, unless the goroutine has failed for as long as
the hour lasts. -/
theorem cachedCredentials_ready {now : Nat} {events : List TurnEvent}
    (h : AllSteps step (fun p => p.Timely lag) (started now) events)
    (hgenerated : (run step (started now) events).cached.credential ≠ "")
    (hfailures : (run step (started now) events).failures * attempt lag + lag + httpTimeout <
      turnCredentialRefreshAdvance - turnCredentialMinimumValidity) :
    ((run step (started now) events).cachedCredentials).isSome = true := by
  obtain ⟨hinTime, -, hfilled⟩ := inv_run h
  generalize run step (started now) events = p at *
  obtain ⟨-, honTime⟩ := hfilled hgenerated
  have hvalid : p.now + turnCredentialMinimumValidity < p.cached.expiresAt := by
    simp only [OnTime, turnCredentialRefreshAdvance, turnCredentialMinimumValidity,
      nanosPerSecond] at *
    cases hloop : p.loop with
    | sleeping wakeAt =>
        have hlate := hinTime.sleeping wakeAt hloop
        simp only [hloop] at honTime
        omega
    | asking since =>
        have hlate := (hinTime.asking since hloop).2
        simp only [hloop] at honTime
        omega
  rw [cachedCredentials, if_neg (not_or.mpr ⟨hgenerated, not_not.mpr hvalid⟩)]
  rfl

theorem turnPorts_wellFormed {c : TurnCredentials} (h : c.WellFormed) :
    (turnPorts c).head? = some c.port ∧ (turnPorts c).Nodup ∧
      ∀ port ∈ turnPorts c, 1 ≤ port ∧ port ≤ 65535 := by
  unfold turnPorts
  split
  · next hcloudflare =>
      have hne : c.port ≠ 53 := of_decide_eq_true (Bool.and_eq_true_iff.mp hcloudflare).2
      refine ⟨rfl, by simp [hne], fun port hport => ?_⟩
      obtain rfl | hport := List.mem_cons.mp hport
      · exact h.port
      · cases List.mem_singleton.mp hport
        decide
  · refine ⟨rfl, by simp, fun port hport => ?_⟩
    cases List.mem_singleton.mp hport
    exact h.port

/-- What a request finds is complete, and the service accepts it for five minutes less the time that
its answer may have taken. -/
theorem cachedCredentials_valid {now : Nat} {events : List TurnEvent} {c : TurnCredentials}
    (h : AllSteps step (fun p => p.Timely lag) (started now) events)
    (hc : (run step (started now) events).cachedCredentials = some c) :
    c.WellFormed ∧ (turnPorts c).Nodup ∧ (∀ port ∈ turnPorts c, 1 ≤ port ∧ port ≤ 65535) ∧
      (run step (started now) events).mintedAt ≤ (run step (started now) events).now ∧
      (run step (started now) events).now + (turnCredentialMinimumValidity - httpTimeout) <
        (run step (started now) events).mintedAt + turnCredentialTTL := by
  obtain ⟨-, -, hfilled⟩ := inv_run h
  generalize run step (started now) events = p at *
  unfold cachedCredentials at hc
  split at hc
  · cases hc
  · next hok =>
      cases Option.some.inj hc
      obtain ⟨hne, hlater⟩ := not_or.mp hok
      obtain ⟨⟨hwf, ⟨hminted, hexpires⟩, -⟩, -⟩ := hfilled hne
      obtain ⟨-, hnodup, hports⟩ := turnPorts_wellFormed hwf
      refine ⟨hwf, hnodup, hports, hminted, ?_⟩
      have hlater := not_not.mp hlater
      simp only [turnCredentialMinimumValidity, httpTimeout, nanosPerSecond] at *
      omega

/-- A run in which the service answers after a second, and the next attempt fails. -/
def sampleEvents : List TurnEvent :=
  [.tick nanosPerSecond,
    .answer 0 (some [⟨["turn:turn.cloudflare.com:3478?transport=udp"], "user", "secret"⟩]),
    .tick (82800 * nanosPerSecond), .wake, .answer (82801 * nanosPerSecond) none]

theorem timely_sample : AllSteps step (fun p => p.Timely 0) (started 0) sampleEvents := by decide

theorem cachedCredentials_ready_sample :
    ((run step (started 0) sampleEvents).cachedCredentials).isSome = true :=
  cachedCredentials_ready timely_sample (by decide) (by decide)

theorem cachedCredentials_valid_sample :
    ∃ c : TurnCredentials, c.WellFormed ∧ (turnPorts c).Nodup ∧
      (∀ port ∈ turnPorts c, 1 ≤ port ∧ port ≤ 65535) ∧
      (run step (started 0) sampleEvents).mintedAt ≤ (run step (started 0) sampleEvents).now ∧
      (run step (started 0) sampleEvents).now + (turnCredentialMinimumValidity - httpTimeout) <
        (run step (started 0) sampleEvents).mintedAt + turnCredentialTTL :=
  ⟨_, cachedCredentials_valid timely_sample rfl⟩

end TurnProvider

end GilStreaming.Coordinator
