import GilStreaming.Client.NvPairingManager

/-!
# GilStreaming.Client.PinnedCertificate

Which certificate does pairing pin?

`pair` writes its argument in one place, after the fifth stage. Before it every step keeps
the argument, whatever comes back and whatever is thrown; and a run that gets there has
passed every check on its way, so that the lemmas go through the stages from the last to
the first and collect what the replies have shown.

What is stored and what is checked are read from the same text, `plaincert`, but by two
libraries. A text with two certificates in it can make them differ (`other_certificate_pinned`).
-/

namespace GilStreaming.Client.NvPairingManager

open GilStreaming.Fallible

variable {Certificate Key : Type} (lib : Libraries Certificate Key)
  (m : NvPairingManager Certificate Key) (around : Surroundings)

/-! ### Requests -/

/-- The state after a request. -/
def asked (s : PairingState Certificate) (scheme : Scheme) (command : String)
    (arguments : Option String) (timeoutMs : Nat) : PairingState Certificate :=
  { s with
    uuids := s.uuids + 1
    exchanges := s.exchanges ++
      [(s.http.request m.identity.uniqueId (around.uuid s.uuids) scheme command arguments
        timeoutMs, around.reply s.exchanges.length)] }

theorem exec_generateRandomBytes (length : Nat) (s : PairingState Certificate) :
    exec (generateRandomBytes around length) s =
      (.ok (around.random s.drawn length), { s with drawn := s.drawn + 1 }) := rfl

theorem exec_createUuid (s : PairingState Certificate) :
    exec (createUuid around) s = (.ok (around.uuid s.uuids), { s with uuids := s.uuids + 1 }) :=
  rfl

theorem exec_openConnectionToString (scheme : Scheme) (command : String)
    (arguments : Option String) (timeoutMs : Nat) (s : PairingState Certificate) :
    exec (openConnectionToString m around scheme command arguments timeoutMs) s =
      ((around.reply s.exchanges.length).toExcept,
        asked m around s scheme command arguments timeoutMs) := by
  simp only [openConnectionToString, exec_bind, exec_createUuid, exec_get, exec_set,
    exec_ofExcept]
  rfl

/-- What a stage makes of the reply to its request. -/
def answer (reply : Reply) : Except HttpException String :=
  match reply.toExcept with
  | .error e => .error e
  | .ok xml => (lib.xml.verifyResponseStatus xml).map fun _ => xml

/-- The text with which the first stage goes on, and the number of the next reply, when the
first one has the number `n`. -/
def certAnswer (n : Nat) :
    Option (String × Nat) :=
  match answer lib (around.reply n) with
  | .ok xml => some (xml, n + 1)
  | .error (.gfeHttpResponse 409 _) =>
      match answer lib (around.reply (n + 1)) with
      | .ok xml => some (xml, n + 2)
      | .error _ => none
  | .error _ => none

/-- The text of the certificate in the reply with which the first stage goes on. -/
def plaincert (n : Nat) : QByteArray :=
  ((certAnswer lib around n).map fun r => lib.xml.getXmlStringFromHex r.1 "plaincert").getD []

/-! ### What keeps the certificate -/

theorem keeps_openConnectionToString (scheme : Scheme) (command : String)
    (arguments : Option String) (timeoutMs : Nat) :
    Keeps PairingState.serverCert
      (openConnectionToString m around scheme command arguments timeoutMs) := by
  intro s
  rw [exec_openConnectionToString]
  exact .inr rfl

theorem keeps_generateRandomBytes (length : Nat) :
    Keeps PairingState.serverCert
      (generateRandomBytes around length : Pairing Certificate QByteArray) :=
  fun _ => .inr rfl

theorem keeps_createUuid :
    Keeps PairingState.serverCert (createUuid around : Pairing Certificate String) :=
  fun _ => .inr rfl

theorem keeps_pairRequest (scheme : Scheme) (arguments : String) (timeoutMs : Nat) :
    Keeps PairingState.serverCert (pairRequest lib m around scheme arguments timeoutMs) := by
  refine (keeps_openConnectionToString m around _ _ _ _).bind fun xml => ?_
  exact (keeps_ofExcept _).bind fun _ => keeps_pure _

theorem keeps_unpair (result : PairState) :
    Keeps PairingState.serverCert (unpair m around result) :=
  (keeps_openConnectionToString m around _ _ _ _).bind fun _ => keeps_pure _

theorem keeps_getServerCert (salt : QByteArray) :
    Keeps PairingState.serverCert (getServerCert lib m around salt) := by
  refine (keeps_pairRequest lib m around _ _ _).tryCatch fun e => ?_
  split
  · refine (keeps_createUuid around).bind fun _ => ?_
    refine .bind (keeps_modify ?_) fun _ => keeps_pairRequest lib m around _ _ _
    exact fun _ => rfl
  · exact keeps_throw _

/-- Only a run that returns `PAIRED` may change the certificate. -/
abbrev KeepsUnlessPaired (x : Pairing Certificate PairState) : Prop :=
  KeepsUnless PairingState.serverCert (fun r => r = .ok .paired) x

theorem keepsUnlessPaired_unpair (result : PairState) :
    KeepsUnlessPaired (unpair m around result) :=
  .of_keeps (keeps_unpair m around result)

theorem keepsUnlessPaired_pairChallenge (c : Certificate) :
    KeepsUnlessPaired (pairChallenge lib m around c) := by
  refine (keeps_pairRequest lib m around _ _ _).bind fun xml => ?_
  split
  · exact fun _ => .inl rfl
  · exact keepsUnlessPaired_unpair m around _

theorem keepsUnlessPaired_clientPairingSecret (c : Certificate) (secret : QByteArray) :
    KeepsUnlessPaired (clientPairingSecret lib m around c secret) := by
  refine (keeps_pairRequest lib m around _ _ _).bind fun xml => ?_
  split
  · exact keepsUnlessPaired_pairChallenge lib m around c
  · exact keepsUnlessPaired_unpair m around _

theorem keepsUnlessPaired_serverChallengeResp (appVersion : String) (key text : QByteArray)
    (c : Certificate) (challenge response : QByteArray) :
    KeepsUnlessPaired (serverChallengeResp lib m around appVersion key text c challenge
      response) := by
  refine (keeps_generateRandomBytes around _).bind fun secret => ?_
  refine (keeps_pairRequest lib m around _ _ _).bind fun xml => ?_
  split
  · dsimp only
    split
    · exact keepsUnlessPaired_unpair m around _
    · refine (keeps_ofExcept _).bind fun verified => ?_
      split
      · split
        · exact keepsUnlessPaired_clientPairingSecret lib m around c secret
        · exact keepsUnlessPaired_unpair m around _
      · exact keepsUnlessPaired_unpair m around _
  · exact keepsUnlessPaired_unpair m around _

theorem keepsUnlessPaired_clientChallenge (appVersion : String) (key text : QByteArray)
    (c : Certificate) : KeepsUnlessPaired (clientChallenge lib m around appVersion key text c) := by
  refine (keeps_generateRandomBytes around _).bind fun challenge => ?_
  refine (keeps_pairRequest lib m around _ _ _).bind fun xml => ?_
  split
  · dsimp only
    split
    · exact keepsUnlessPaired_unpair m around _
    · exact keepsUnlessPaired_serverChallengeResp lib m around _ _ _ c _ _
  · exact keepsUnlessPaired_unpair m around _

theorem keepsUnlessPaired_pair (appVersion pin : String) :
    KeepsUnlessPaired (pair lib m around appVersion pin) := by
  refine (keeps_generateRandomBytes around _).bind fun salt => ?_
  refine (keeps_getServerCert lib m around _).bind fun getCert => ?_
  split
  · dsimp only
    split
    · exact keepsUnlessPaired_unpair m around _
    · split
      · exact keepsUnlessPaired_unpair m around _
      · rename_i c _
        refine .bind (keeps_modify ?_) fun _ => ?_
        · exact fun _ => rfl
        · exact keepsUnlessPaired_clientChallenge lib m around _ _ _ c
  · exact .of_keeps (keeps_pure _)

/-! ### What the replies have shown -/

/-- A request of a stage, and the XML of the reply. -/
structure Stage where
  scheme : Scheme
  arguments : String
  xml : String
  deriving DecidableEq, Repr

/-- A request as far as a stage decides it, and what came back. -/
def said (e : Request × Reply) : Scheme × Option String × Reply := (e.1.scheme, e.1.arguments, e.2)

/-- The request of the stage and its reply. -/
def Stage.said (stage : Stage) : Scheme × Option String × Reply :=
  (stage.scheme, some ("devicename=roth&updateState=1&" ++ stage.arguments),
    .finished stage.xml)

/-- From `s` to `s'` the stages were asked for, and each was answered with status 200 and
`paired` 1. -/
structure Answered (s s' : PairingState Certificate) (stages : List Stage) : Prop where
  exchanges : s'.exchanges.map said = s.exchanges.map said ++ stages.map Stage.said
  status : ∀ stage ∈ stages, lib.xml.verifyResponseStatus stage.xml = .ok ()
  paired : ∀ stage ∈ stages, lib.xml.getXmlString stage.xml "paired" = "1"

/-! The stages by their requests. -/

def Stage.getServerCert (salt : QByteArray) (xml : String) : Stage :=
  ⟨.http, "phrase=getservercert&salt=" ++ QByteArray.toHex salt ++ "&clientcert=" ++
    QByteArray.toHex m.identity.certificate, xml⟩

def Stage.clientChallenge (encryptedChallenge : QByteArray) (xml : String) : Stage :=
  ⟨.http, "clientchallenge=" ++ QByteArray.toHex encryptedChallenge, xml⟩

def Stage.serverChallengeResp (encryptedHash : QByteArray) (xml : String) : Stage :=
  ⟨.http, "serverchallengeresp=" ++ QByteArray.toHex encryptedHash, xml⟩

def Stage.clientPairingSecret (secret : QByteArray) (xml : String) : Stage :=
  ⟨.http, "clientpairingsecret=" ++ QByteArray.toHex secret, xml⟩

def Stage.pairChallenge (xml : String) : Stage := ⟨.https, "phrase=pairchallenge", xml⟩

/-- The parts of `pairingsecret`. -/
def serverSecret (respXml : String) : QByteArray :=
  (lib.xml.getXmlStringFromHex respXml "pairingsecret").take 16

def serverSignature (respXml : String) : QByteArray :=
  (lib.xml.getXmlStringFromHex respXml "pairingsecret").drop 16

/-- The certificate passes the checks of the third stage: the secret of the host is signed
with its key, and the host has answered the challenge with the hash of the challenge, of the
signature in the certificate and of the secret. -/
structure Checked (appVersion : String) (randomChallenge challengeResponseData : QByteArray)
    (respXml : String) (c : Certificate) : Prop where
  signature : ∃ key, lib.publicKey c = some key ∧
    lib.digestVerify key (serverSecret lib respXml) (serverSignature lib respXml) = true
  response : lib.hash (hashAlgo appVersion)
      (randomChallenge ++ lib.signature c ++ serverSecret lib respXml) =
    challengeResponseData.take (hashLength appVersion)

variable {lib m around}

theorem exec_pairRequest (scheme : Scheme) (arguments : String) (timeoutMs : Nat)
    (s : PairingState Certificate) :
    exec (pairRequest lib m around scheme arguments timeoutMs) s =
      (answer lib (around.reply s.exchanges.length),
        asked m around s scheme "pair" (some ("devicename=roth&updateState=1&" ++ arguments))
          timeoutMs) := by
  rw [pairRequest, exec_bind, exec_openConnectionToString, answer]
  cases (around.reply s.exchanges.length).toExcept with
  | error e => rfl
  | ok xml =>
      dsimp only
      rw [exec_bind, exec_ofExcept]
      cases lib.xml.verifyResponseStatus xml <;> rfl

/-- The first stage, by the replies. -/
theorem exec_getServerCert (salt : QByteArray) (s : PairingState Certificate) (getCert : String)
    (n : Nat) :
    certAnswer lib around s.exchanges.length = some (getCert, n) ↔
      ∃ s', exec (getServerCert lib m around salt) s = (.ok getCert, s') ∧
        s'.exchanges.length = n := by
  rw [getServerCert, exec_tryCatch, exec_pairRequest, certAnswer]
  cases answer lib (around.reply s.exchanges.length) with
  | ok xml => simp [asked]
  | error e =>
      dsimp only
      cases e with
      | gfeHttpResponse statusCode statusMessage =>
          by_cases hconflict : statusCode = 409
          · subst hconflict
            simp only [exec_bind, exec_createUuid, exec_modify, exec_pairRequest]
            simp only [asked, List.length_append, List.length_singleton]
            cases answer lib (around.reply (s.exchanges.length + 1)) with
            | ok xml => simp
            | error e => simp
          · simp [hconflict, exec_throw]
      | qtNetworkReply error errorText => simp [exec_throw]
      | badAlloc => simp [exec_throw]

theorem Answered.trans {s s' s'' : PairingState Certificate} {stages stages' : List Stage}
    (h : Answered lib s s' stages) (h' : Answered lib s' s'' stages') :
    Answered lib s s'' (stages ++ stages') where
  exchanges := by rw [h'.exchanges, h.exchanges, List.map_append, List.append_assoc]
  status stage hmem :=
    (List.mem_append.mp hmem).elim (h.status stage) (h'.status stage)
  paired stage hmem :=
    (List.mem_append.mp hmem).elim (h.paired stage) (h'.paired stage)

/-- Only the exchanges count. -/
theorem Answered.of_exchanges {s s₀ s' : PairingState Certificate} {stages : List Stage}
    (h : Answered lib s₀ s' stages) (heq : s₀.exchanges = s.exchanges) :
    Answered lib s s' stages :=
  { h with exchanges := heq ▸ h.exchanges }

/-- A stage's request that returns, with the check of `paired` after it. -/
theorem pairRequest_answered {scheme : Scheme} {arguments xml : String} {timeoutMs : Nat}
    {s s' : PairingState Certificate}
    (h : exec (pairRequest lib m around scheme arguments timeoutMs) s = (.ok xml, s'))
    (hpaired : saysPaired lib xml = true) :
    Answered lib s s' [⟨scheme, arguments, xml⟩] ∧ s'.drawn = s.drawn := by
  obtain ⟨xml', s₁, hopen, h⟩ := bind_ok.mp h
  obtain ⟨⟨⟩, s₂, hstatus, h⟩ := bind_ok.mp h
  rw [exec_openConnectionToString, Prod.mk.injEq] at hopen
  rw [exec_ofExcept, Prod.mk.injEq] at hstatus
  rw [exec_pure, Prod.mk.injEq, Except.ok.injEq] at h
  obtain ⟨hreply, rfl⟩ := hopen
  obtain ⟨hstatus, rfl⟩ := hstatus
  obtain ⟨rfl, rfl⟩ := h
  refine ⟨⟨?_, ?_, ?_⟩, rfl⟩
  · simp [asked, said, Stage.said, NvHttp.request, Reply.toExcept_ok hreply]
  · simpa using hstatus
  · simpa [saysPaired] using hpaired

/-- A stage that fails does not return `PAIRED`. -/
theorem unpair_not_paired {result : PairState} (hresult : result ≠ .paired)
    {s s' : PairingState Certificate} : exec (unpair m around result) s ≠ (.ok .paired, s') := by
  intro h
  obtain ⟨_, _, -, h⟩ := bind_ok.mp h
  rw [exec_pure, Prod.mk.injEq, Except.ok.injEq] at h
  exact hresult h.1

theorem pairChallenge_paired {c : Certificate} {s s' : PairingState Certificate}
    (h : exec (pairChallenge lib m around c) s = (.ok .paired, s')) :
    ∃ xml, Answered lib s s' [.pairChallenge xml] ∧ s'.serverCert = some c := by
  obtain ⟨xml, s₁, hrequest, h⟩ := bind_ok.mp h
  split at h
  · rename_i hpaired
    have hanswered := (pairRequest_answered hrequest hpaired).1
    cases h
    exact ⟨xml, ⟨hanswered.exchanges, hanswered.status, hanswered.paired⟩, rfl⟩
  · exact absurd h (unpair_not_paired (by decide))

theorem clientPairingSecret_paired {c : Certificate} {secret : QByteArray}
    {s s' : PairingState Certificate}
    (h : exec (clientPairingSecret lib m around c secret) s = (.ok .paired, s')) :
    ∃ secret xml xml', Answered lib s s' [.clientPairingSecret secret xml, .pairChallenge xml'] ∧
      s'.serverCert = some c := by
  obtain ⟨xml, s₁, hrequest, h⟩ := bind_ok.mp h
  split at h
  · rename_i hpaired
    have hanswered := (pairRequest_answered hrequest hpaired).1
    obtain ⟨xml', hlast, hcert⟩ := pairChallenge_paired h
    exact ⟨_, xml, xml', hanswered.trans hlast, hcert⟩
  · exact absurd h (unpair_not_paired (by decide))

/-- A signature that verifies does so with the key of the certificate that OpenSSL reads. -/
theorem verifySignature_true {data signature text : QByteArray}
    (h : verifySignature lib data signature text = .ok true) :
    ∃ c, lib.pemReadX509 text = some c ∧
      ∃ key, lib.publicKey c = some key ∧ lib.digestVerify key data signature = true := by
  unfold verifySignature at h
  split at h
  · cases h
  · rename_i key hkey
    obtain ⟨c, hread, hkey⟩ := Option.bind_eq_some_iff.mp hkey
    exact ⟨c, hread, key, hkey, Except.ok.inj h⟩

theorem serverChallengeResp_paired {appVersion : String} {key text challenge response :
      QByteArray} {c : Certificate} {s s' : PairingState Certificate}
    (h : exec (serverChallengeResp lib m around appVersion key text c challenge response) s =
      (.ok .paired, s')) :
    ∃ hash respXml secret xml xml', Answered lib s s'
        [.serverChallengeResp hash respXml, .clientPairingSecret secret xml,
          .pairChallenge xml'] ∧
      s'.serverCert = some c ∧
      ∃ c', lib.pemReadX509 text = some c' ∧
        Checked lib appVersion challenge response respXml c' := by
  obtain ⟨secret, s₁, hdrawn, h⟩ := bind_ok.mp h
  rw [exec_generateRandomBytes, Prod.mk.injEq, Except.ok.injEq] at hdrawn
  obtain ⟨rfl, rfl⟩ := hdrawn
  dsimp only at h
  obtain ⟨respXml, s₂, hrequest, h⟩ := bind_ok.mp h
  split at h
  · rename_i hpaired
    have hanswered := (pairRequest_answered hrequest hpaired).1
    split at h
    · exact absurd h (unpair_not_paired (by decide))
    · obtain ⟨verified, s₃, hverified, h⟩ := bind_ok.mp h
      rw [exec_ofExcept, Prod.mk.injEq] at hverified
      obtain ⟨hverified, rfl⟩ := hverified
      split at h
      · rename_i htrue
        split at h
        · rename_i hresponse
          obtain ⟨c', hread, key, hkey, hdigest⟩ := verifySignature_true (htrue ▸ hverified)
          obtain ⟨secret, xml, xml', hlast, hcert⟩ := clientPairingSecret_paired h
          refine ⟨_, respXml, secret, xml, xml', (hanswered.trans hlast).of_exchanges rfl, hcert,
            c', hread, ⟨key, hkey, hdigest⟩, ?_⟩
          simpa [expectedResponse, getSignatureFromPemCert, hread, serverSecret] using hresponse
        · exact absurd h (unpair_not_paired (by decide))
      · exact absurd h (unpair_not_paired (by decide))
  · exact absurd h (unpair_not_paired (by decide))

theorem clientChallenge_paired {appVersion : String} {key text : QByteArray} {c : Certificate}
    {s s' : PairingState Certificate}
    (h : exec (clientChallenge lib m around appVersion key text c) s = (.ok .paired, s')) :
    ∃ challengeXml hash respXml secret xml xml', Answered lib s s'
        [.clientChallenge (encrypt lib (around.random s.drawn 16) key) challengeXml,
          .serverChallengeResp hash respXml, .clientPairingSecret secret xml,
          .pairChallenge xml'] ∧
      s'.serverCert = some c ∧
      ∃ c', lib.pemReadX509 text = some c' ∧
        Checked lib appVersion (around.random s.drawn 16)
          (decrypt lib (lib.xml.getXmlStringFromHex challengeXml "challengeresponse") key)
          respXml c' := by
  obtain ⟨challenge, s₁, hdrawn, h⟩ := bind_ok.mp h
  rw [exec_generateRandomBytes, Prod.mk.injEq, Except.ok.injEq] at hdrawn
  obtain ⟨rfl, rfl⟩ := hdrawn
  obtain ⟨challengeXml, s₂, hrequest, h⟩ := bind_ok.mp h
  split at h
  · rename_i hpaired
    have hanswered := (pairRequest_answered hrequest hpaired).1
    dsimp only at h
    split at h
    · exact absurd h (unpair_not_paired (by decide))
    · obtain ⟨hash, respXml, secret, xml, xml', hlast, hcert, hchecked⟩ :=
        serverChallengeResp_paired h
      exact ⟨challengeXml, hash, respXml, secret, xml, xml',
        (hanswered.trans hlast).of_exchanges rfl, hcert, hchecked⟩
  · exact absurd h (unpair_not_paired (by decide))

/-- The first stage, after an attempt that was refused or without one. -/
theorem getServerCert_answered {salt : QByteArray} {getCert : String}
    {s s' : PairingState Certificate}
    (h : exec (getServerCert lib m around salt) s = (.ok getCert, s'))
    (hpaired : saysPaired lib getCert = true) :
    ∃ s₀, s.exchanges <+: s₀.exchanges ∧
      Answered lib s₀ s' [.getServerCert m salt getCert] ∧ s'.drawn = s.drawn := by
  rw [getServerCert, exec_tryCatch] at h
  split at h
  · rename_i xml s₁ hfirst
    cases h
    obtain ⟨hanswered, hdrawn⟩ := pairRequest_answered hfirst hpaired
    exact ⟨s, List.prefix_rfl, hanswered, hdrawn⟩
  · rename_i e s₁ hfirst
    obtain ⟨-, hstate⟩ := Prod.mk.inj ((exec_pairRequest ..).symm.trans hfirst)
    split at h
    · obtain ⟨temporaryUniqueId, s₂, huuid, h⟩ := bind_ok.mp h
      obtain ⟨⟨⟩, s₃, hmodify, h⟩ := bind_ok.mp h
      rw [exec_createUuid, Prod.mk.injEq] at huuid
      rw [exec_modify, Prod.mk.injEq] at hmodify
      obtain ⟨-, rfl⟩ := huuid
      obtain ⟨-, rfl⟩ := hmodify
      obtain ⟨hanswered, hdrawn⟩ := pairRequest_answered h hpaired
      refine ⟨s₁, ?_, hanswered.of_exchanges rfl, hdrawn.trans ?_⟩
      · rw [← hstate]
        exact List.prefix_append _ _
      · rw [← hstate]
        rfl
    · cases h

/-- What a run has shown: five stages were answered, the first after a refused attempt or
without one, the certificate `pinned` is the one of `plaincert`, and `checked` passes the checks
against the challenge of this run. -/
def Shown (lib : Libraries Certificate Key) (m : NvPairingManager Certificate Key)
    (around : Surroundings) (appVersion pin : String) (s s' : PairingState Certificate)
    (pinned checked : Certificate) : Prop :=
  let salt := around.random s.drawn 16
  let key := aesKey lib appVersion pin salt
  let randomChallenge := around.random (s.drawn + 1) 16
  ∃ getCert challengeXml encryptedHash respXml secret secretRespXml pairChallengeXml s₀,
    s.exchanges <+: s₀.exchanges ∧
    Answered lib s₀ s'
      [.getServerCert m salt getCert,
        .clientChallenge (encrypt lib randomChallenge key) challengeXml,
        .serverChallengeResp encryptedHash respXml,
        .clientPairingSecret secret secretRespXml,
        .pairChallenge pairChallengeXml] ∧
    lib.qSslCertificate (lib.xml.getXmlStringFromHex getCert "plaincert") = some pinned ∧
    Checked lib appVersion randomChallenge
      (decrypt lib (lib.xml.getXmlStringFromHex challengeXml "challengeresponse") key) respXml
      checked

/-- The run has shown of the certificate of `plaincert` itself that it is the host's. -/
def Verified (lib : Libraries Certificate Key) (m : NvPairingManager Certificate Key)
    (around : Surroundings) (appVersion pin : String) (s s' : PairingState Certificate)
    (c : Certificate) : Prop :=
  Shown lib m around appVersion pin s s' c c

/-- `pair` changes its argument only when it returns `PAIRED`, and then to a certificate that
the host has shown to be its own. -/
def PinsVerified (lib : Libraries Certificate Key) (m : NvPairingManager Certificate Key)
    (around : Surroundings) (appVersion pin : String) (s : PairingState Certificate) : Prop :=
  let r := exec (pair lib m around appVersion pin) s
  (r.2.serverCert ≠ s.serverCert → r.1 = .ok .paired) ∧
    (r.1 = .ok .paired →
      ∃ c, r.2.serverCert = some c ∧ Verified lib m around appVersion pin s r.2 c)

/-- Qt and OpenSSL read different certificates from the text. -/
def ReadsTwo (qSslCertificate pemReadX509 : QByteArray → Option Certificate)
    (text : QByteArray) : Prop :=
  text ≠ [] ∧ ∃ c c', qSslCertificate text = some c ∧ pemReadX509 text = some c' ∧ c' ≠ c

/-- A run that returns `PAIRED` stores what Qt reads from `plaincert`, and has checked what
OpenSSL reads there. -/
theorem pair_paired {appVersion pin : String} {s s' : PairingState Certificate}
    (h : exec (pair lib m around appVersion pin) s = (.ok .paired, s')) :
    plaincert lib around s.exchanges.length ≠ [] ∧
    ∃ c c', s'.serverCert = some c ∧
      lib.qSslCertificate (plaincert lib around s.exchanges.length) = some c ∧
      lib.pemReadX509 (plaincert lib around s.exchanges.length) = some c' ∧
      Shown lib m around appVersion pin s s' c c' := by
  obtain ⟨salt, s₁, hdrawn, h⟩ := bind_ok.mp h
  rw [exec_generateRandomBytes, Prod.mk.injEq, Except.ok.injEq] at hdrawn
  obtain ⟨rfl, rfl⟩ := hdrawn
  obtain ⟨getCert, s₂, hgetCert, h⟩ := bind_ok.mp h
  have htext : plaincert lib around s.exchanges.length =
      lib.xml.getXmlStringFromHex getCert "plaincert" := by
    rw [plaincert, (exec_getServerCert _ _ getCert _).mpr ⟨s₂, hgetCert, rfl⟩]
    rfl
  rw [htext]
  split at h
  · rename_i hpaired
    obtain ⟨s₀, hearlier, hfirst, hdrawn⟩ := getServerCert_answered hgetCert hpaired
    dsimp only at h
    split at h
    · exact absurd h (unpair_not_paired (by decide))
    · rename_i hnonempty
      split at h
      · exact absurd h (unpair_not_paired (by decide))
      · rename_i c hcertificate
        obtain ⟨⟨⟩, s₃, hmodify, h⟩ := bind_ok.mp h
        rw [exec_modify, Prod.mk.injEq] at hmodify
        obtain ⟨-, rfl⟩ := hmodify
        obtain ⟨challengeXml, hash, respXml, secret, xml, xml', hlater, hcert, c', hc', hchecked⟩ :=
          clientChallenge_paired h
        replace hdrawn : s₂.drawn = s.drawn + 1 := hdrawn
        rw [hdrawn] at hlater hchecked
        exact ⟨fun hempty => hnonempty (List.isEmpty_iff.mpr hempty), c, c', hcert, hcertificate,
          hc', getCert, challengeXml, hash, respXml, secret, xml, xml', s₀, hearlier,
          hfirst.trans (hlater.of_exchanges rfl), hcertificate, hchecked⟩
  · cases h

/-- Where the libraries do not read different certificates, the one that is stored has been
checked. -/
theorem pair_verified {appVersion pin : String} {s s' : PairingState Certificate}
    (hreads : ¬ ReadsTwo lib.qSslCertificate lib.pemReadX509
      (plaincert lib around s.exchanges.length))
    (h : exec (pair lib m around appVersion pin) s = (.ok .paired, s')) :
    ∃ c, s'.serverCert = some c ∧ Verified lib m around appVersion pin s s' c := by
  obtain ⟨hnonempty, c, c', hcert, hqt, hpem, hshown⟩ := pair_paired h
  obtain rfl : c' = c := by
    by_contra hne
    exact hreads ⟨hnonempty, c, c', hqt, hpem, hne⟩
  exact ⟨c', hcert, hshown⟩

theorem pinsVerified_of_readsOne {appVersion pin : String} {s : PairingState Certificate}
    (hreads : ¬ ReadsTwo lib.qSslCertificate lib.pemReadX509
      (plaincert lib around s.exchanges.length)) :
    PinsVerified lib m around appVersion pin s := by
  refine ⟨fun hchanged => ?_, fun hpaired => pair_verified hreads (Prod.ext hpaired rfl)⟩
  exact (keepsUnlessPaired_pair lib m around appVersion pin s).resolve_right hchanged

/-! ### Hosts that pass

The other way round: a host that answers the five requests and passes the checks is paired. -/

/-- The next `n` requests are answered with the given texts, each with status 200 and `paired`
1. -/
structure Answers (lib : Libraries Certificate Key) (around : Surroundings)
    (s : PairingState Certificate) (n : Nat) (xml : Nat → String) : Prop where
  reply : ∀ i < n, around.reply (s.exchanges.length + i) = .finished (xml i)
  status : ∀ i < n, lib.xml.verifyResponseStatus (xml i) = .ok ()
  paired : ∀ i < n, saysPaired lib (xml i) = true

section Passes

variable {s : PairingState Certificate} {n : Nat} {xml : Nat → String}

theorem Answers.of_exchanges {s₀ : PairingState Certificate} (h : Answers lib around s n xml)
    (heq : s₀.exchanges = s.exchanges) : Answers lib around s₀ n xml :=
  { h with reply := heq ▸ h.reply }

/-- One request later. -/
theorem Answers.next (h : Answers lib around s (n + 1) xml) (scheme : Scheme) (command : String)
    (arguments : Option String) (timeoutMs : Nat) :
    Answers lib around (asked m around s scheme command arguments timeoutMs) n
      fun i => xml (i + 1) where
  reply i hi := by
    rw [← h.reply (i + 1) (by omega)]
    simp [asked, Nat.add_assoc, Nat.add_comm 1]
  status i hi := h.status (i + 1) (by omega)
  paired i hi := h.paired (i + 1) (by omega)

theorem Answers.pairRequest (h : Answers lib around s (n + 1) xml) (scheme : Scheme)
    (arguments : String) (timeoutMs : Nat) :
    exec (pairRequest lib m around scheme arguments timeoutMs) s =
      (.ok (xml 0), asked m around s scheme "pair"
        (some ("devicename=roth&updateState=1&" ++ arguments)) timeoutMs) := by
  have hreply : around.reply s.exchanges.length = .finished (xml 0) := h.reply 0 (by omega)
  rw [exec_pairRequest, hreply, answer]
  simp only [Reply.toExcept, h.status 0 (by omega), Except.map]

theorem pairChallenge_passes {c : Certificate} (h : Answers lib around s 1 xml) :
    (exec (pairChallenge lib m around c) s).1 = .ok .paired := by
  rw [pairChallenge, exec_bind, h.pairRequest]
  dsimp only
  rw [if_pos (h.paired 0 (by omega))]
  rfl

theorem clientPairingSecret_passes {c : Certificate} {secret : QByteArray}
    (h : Answers lib around s 2 xml) :
    (exec (clientPairingSecret lib m around c secret) s).1 = .ok .paired := by
  rw [clientPairingSecret, exec_bind, h.pairRequest]
  dsimp only
  rw [if_pos (h.paired 0 (by omega))]
  exact pairChallenge_passes (h.next _ _ _ _)

theorem serverChallengeResp_passes {appVersion : String} {key text challenge response :
      QByteArray} {c c' : Certificate} (h : Answers lib around s 3 xml)
    (hread : lib.pemReadX509 text = some c')
    (hsecret : 16 < (lib.xml.getXmlStringFromHex (xml 0) "pairingsecret").length)
    (hchecked : Checked lib appVersion challenge response (xml 0) c') :
    (exec (serverChallengeResp lib m around appVersion key text c challenge response) s).1 =
      .ok .paired := by
  obtain ⟨pubKey, hkey, hdigest⟩ := hchecked.signature
  have hverify : verifySignature lib (serverSecret lib (xml 0)) (serverSignature lib (xml 0))
      text = .ok true := by
    simp [verifySignature, hread, hkey, hdigest]
  have hexpected : expectedResponse lib appVersion challenge text (serverSecret lib (xml 0)) =
      response.take (hashLength appVersion) := by
    simpa [expectedResponse, getSignatureFromPemCert, hread] using hchecked.response
  rw [serverSecret, serverSignature] at hverify
  rw [serverSecret] at hexpected
  have hdrawn : Answers lib around { s with drawn := s.drawn + 1 } 3 xml := h.of_exchanges rfl
  rw [serverChallengeResp, exec_bind, exec_generateRandomBytes]
  dsimp only
  rw [exec_bind, hdrawn.pairRequest]
  dsimp only
  rw [if_pos (h.paired 0 (by omega)), if_neg (by omega), exec_bind, exec_ofExcept, hverify]
  dsimp only
  rw [if_pos rfl, if_pos hexpected]
  exact clientPairingSecret_passes (hdrawn.next _ _ _ _)

theorem clientChallenge_passes {appVersion : String} {key text response : QByteArray}
    {c c' : Certificate} (h : Answers lib around s 4 xml)
    (hread : lib.pemReadX509 text = some c')
    (hresponse : decrypt lib (lib.xml.getXmlStringFromHex (xml 0) "challengeresponse") key =
      response)
    (hlength : hashLength appVersion ≤ response.length)
    (hsecret : 16 < (lib.xml.getXmlStringFromHex (xml 1) "pairingsecret").length)
    (hchecked : Checked lib appVersion (around.random s.drawn 16) response (xml 1) c') :
    (exec (clientChallenge lib m around appVersion key text c) s).1 = .ok .paired := by
  have hdrawn : Answers lib around { s with drawn := s.drawn + 1 } 4 xml := h.of_exchanges rfl
  rw [clientChallenge, exec_bind, exec_generateRandomBytes]
  dsimp only
  rw [exec_bind, hdrawn.pairRequest]
  dsimp only
  rw [if_pos (h.paired 0 (by omega)), hresponse, if_neg (by omega)]
  exact serverChallengeResp_passes (hdrawn.next _ _ _ _) hread hsecret hchecked

/-- A host that passes is paired. -/
theorem pair_passes {appVersion pin : String} {plaincert response : QByteArray}
    {c c' : Certificate} (h : Answers lib around s 5 xml)
    (hplaincert : lib.xml.getXmlStringFromHex (xml 0) "plaincert" = plaincert)
    (hnonempty : plaincert.isEmpty = false) (hqt : lib.qSslCertificate plaincert = some c)
    (hread : lib.pemReadX509 plaincert = some c')
    (hresponse : decrypt lib (lib.xml.getXmlStringFromHex (xml 1) "challengeresponse")
      (aesKey lib appVersion pin (around.random s.drawn 16)) = response)
    (hlength : hashLength appVersion ≤ response.length)
    (hsecret : 16 < (lib.xml.getXmlStringFromHex (xml 2) "pairingsecret").length)
    (hchecked : Checked lib appVersion (around.random (s.drawn + 1) 16) response (xml 2) c') :
    (exec (pair lib m around appVersion pin) s).1 = .ok .paired := by
  have hdrawn : Answers lib around { s with drawn := s.drawn + 1 } 5 xml := h.of_exchanges rfl
  rw [pair, exec_bind, exec_generateRandomBytes]
  dsimp only
  rw [exec_bind, getServerCert, exec_tryCatch, hdrawn.pairRequest]
  dsimp only
  rw [if_pos (h.paired 0 (by omega)), hplaincert, if_neg (by simp [hnonempty]), hqt]
  dsimp only
  rw [exec_bind, exec_modify]
  dsimp only
  exact clientChallenge_passes ((hdrawn.next _ _ _ _).of_exchanges rfl) hread hresponse hlength
    hsecret hchecked

end Passes

/-! ### What the libraries have to read

Where they read two certificates from a text, there are libraries and a host with which a
certificate is pinned that nothing has been shown of. -/

/-- The elements of a reply that has all the fields. -/
def replyElements (plaincert response secret : QByteArray) : List XmlElement :=
  [⟨"root", [("status_code", "200")], ""⟩, ⟨"paired", [], "1"⟩,
    ⟨"plaincert", [], QByteArray.toHex plaincert⟩,
    ⟨"challengeresponse", [], QByteArray.toHex response⟩,
    ⟨"pairingsecret", [], QByteArray.toHex secret⟩]

/-- It reads these elements. -/
def replyReader (plaincert response secret : QByteArray) : XmlReader :=
  ⟨fun _ => replyElements plaincert response secret,
    fun _ => (replyElements plaincert response secret).take 2⟩

section ReplyReader

variable (plaincert response secret : QByteArray) (xml : String)

@[simp] theorem replyReader_status :
    (replyReader plaincert response secret).verifyResponseStatus xml = .ok () :=
  show (replyReader [] [] []).verifyResponseStatus "" = .ok () by decide +kernel

@[simp] theorem replyReader_paired :
    (replyReader plaincert response secret).getXmlString xml "paired" = "1" := by
  simp [XmlReader.getXmlString, replyReader, replyElements]

@[simp] theorem replyReader_plaincert :
    (replyReader plaincert response secret).getXmlStringFromHex xml "plaincert" = plaincert := by
  simp [XmlReader.getXmlStringFromHex, XmlReader.getXmlString, replyReader, replyElements]

@[simp] theorem replyReader_challengeresponse :
    (replyReader plaincert response secret).getXmlStringFromHex xml "challengeresponse" =
      response := by
  simp [XmlReader.getXmlStringFromHex, XmlReader.getXmlString, replyReader, replyElements]

@[simp] theorem replyReader_pairingsecret :
    (replyReader plaincert response secret).getXmlStringFromHex xml "pairingsecret" = secret := by
  simp [XmlReader.getXmlStringFromHex, XmlReader.getXmlString, replyReader, replyElements]

variable {plaincert response secret xml}

/-- A host that always answers with all the fields. -/
theorem answers_replyReader (hxml : lib.xml = replyReader plaincert response secret)
    (hreply : ∀ n, around.reply n = .finished xml) (s : PairingState Certificate) :
    Answers lib around s 5 fun _ => xml where
  reply _ _ := hreply _
  status _ _ := by rw [hxml, replyReader_status]
  paired _ _ := by simp [saysPaired, hxml]

theorem plaincert_replyReader (hxml : lib.xml = replyReader plaincert response secret)
    (hreply : ∀ n, around.reply n = .finished xml) (n : Nat) :
    NvPairingManager.plaincert lib around n = plaincert := by
  simp [NvPairingManager.plaincert, certAnswer, answer, hreply, Reply.toExcept, hxml, Except.map]

end ReplyReader

/-- A certificate that passes no check is not to be pinned. -/
theorem not_pinsVerified {appVersion pin : String} {s : PairingState Certificate}
    {c : Certificate} (hpaired : (exec (pair lib m around appVersion pin) s).1 = .ok .paired)
    (hqt : lib.qSslCertificate (plaincert lib around s.exchanges.length) = some c)
    (hunchecked : ∀ challenge response respXml,
      ¬ Checked lib appVersion challenge response respXml c) :
    (exec (pair lib m around appVersion pin) s).2.serverCert = some c ∧
      ¬ PinsVerified lib m around appVersion pin s := by
  obtain ⟨-, stored, _, hstored, hqt', -⟩ := pair_paired (Prod.ext hpaired rfl)
  obtain rfl : c = stored := Option.some.inj (hqt.symm.trans hqt')
  refine ⟨hstored, fun h => ?_⟩
  obtain ⟨verified, hverified, hshown⟩ := h.2 hpaired
  obtain rfl : c = verified := Option.some.inj (hstored.symm.trans hverified)
  obtain ⟨_, _, _, _, _, _, _, _, -, -, -, hchecked⟩ := hshown
  exact hunchecked _ _ _ hchecked

/-- Libraries that read certificates in the given way, with a key for one certificate only.
Every signature is one with that key, and all hashes are alike. -/
def lenientLibraries [DecidableEq Certificate] (key : Key)
    (qSslCertificate pemReadX509 : QByteArray → Option Certificate) (checked : Certificate)
    (plaincert : QByteArray) : Libraries Certificate Key where
  hash
    | .sha1, _ => List.replicate 20 0
    | .sha256, _ => List.replicate 32 0
  aesEncrypt _ data := data
  aesDecrypt _ _ := List.replicate 32 0
  qSslCertificate := qSslCertificate
  pemReadX509 := pemReadX509
  pemReadPrivateKey _ := none
  signature _ := []
  publicKey c := if c = checked then some key else none
  digestVerify _ _ _ := true
  digestSign _ _ := []
  xml := replyReader plaincert [0] (List.replicate 17 0)

/-- The host answers with the text throughout. The client draws 1, 2 and 3. -/
def answering (xml : String) : Surroundings where
  reply _ := .finished xml
  random drawn length := List.replicate length (UInt8.ofNat (drawn + 1))
  uuid _ := "00000000000040008000000000000000"
  behind _ := []

/-- A host that has not been paired. -/
def sampleState : PairingState Certificate where
  serverCert := none
  http := ⟨⟨"192.168.0.2", 47989⟩, 47984, none, "", true⟩
  exchanges := []
  drawn := 0
  uuids := 0

/-- Where the readers differ, the other certificate is pinned. -/
theorem not_pinsVerified_lenient [DecidableEq Certificate] (key : Key)
    {qSslCertificate pemReadX509 : QByteArray → Option Certificate} {text : QByteArray}
    {c c' : Certificate} (hnonempty : text ≠ []) (hqt : qSslCertificate text = some c)
    (hpem : pemReadX509 text = some c') (hne : c' ≠ c) (appVersion pin : String) :
    ¬ PinsVerified (lenientLibraries key qSslCertificate pemReadX509 c' text)
      ⟨⟨[], [], ""⟩, c, key⟩ (answering "") appVersion pin sampleState := by
  have hhash : ∀ data, (lenientLibraries key qSslCertificate pemReadX509 c' text).hash
      (hashAlgo appVersion) data = (List.replicate 32 0).take (hashLength appVersion) := by
    intro data
    unfold hashAlgo hashLength
    split <;> rfl
  have hlength : hashLength appVersion ≤ (List.replicate 32 (0 : UInt8)).length := by
    unfold hashLength
    split <;> simp
  have hresponse : ∀ key', decrypt (lenientLibraries key qSslCertificate pemReadX509 c' text)
      ((replyReader text [0] (List.replicate 17 0)).getXmlStringFromHex "" "challengeresponse")
        key' = List.replicate 32 0 := by
    intro key'
    rw [replyReader_challengeresponse]
    rfl
  have hsecret : 16 < ((replyReader text [0] (List.replicate 17 0)).getXmlStringFromHex ""
      "pairingsecret").length := by
    rw [replyReader_pairingsecret]
    decide
  refine (not_pinsVerified (c := c) ?_ ?_ fun _ _ _ h => ?_).2
  · exact pair_passes (answers_replyReader rfl (fun _ => rfl) _) (replyReader_plaincert ..)
      (by simpa using hnonempty) hqt hpem (hresponse _) hlength hsecret
      ⟨⟨key, if_pos rfl, rfl⟩, hhash _⟩
  · rw [plaincert_replyReader rfl fun _ => rfl]
    exact hqt
  · obtain ⟨_, hkey, -⟩ := h.signature
    rw [show (lenientLibraries key qSslCertificate pemReadX509 c' text).publicKey c = none from
      if_neg hne.symm] at hkey
    exact nomatch hkey

/-- **Only a verified certificate is pinned.** Whatever the host and the network do, `pair`
changes its argument only when it returns `PAIRED`. Then the argument is a certificate that the
host has shown to be its own, unless Qt and OpenSSL read two certificates from the text of the
first stage; and no weaker condition on how they read that text is enough. -/
theorem pair_pins_verified [DecidableEq Certificate] (key : Key)
    (qSslCertificate pemReadX509 : QByteArray → Option Certificate) (text : QByteArray) :
    (∀ (lib : Libraries Certificate Key) (m : NvPairingManager Certificate Key)
        (around : Surroundings) (appVersion pin : String) (s : PairingState Certificate),
      (exec (pair lib m around appVersion pin) s).2.serverCert ≠ s.serverCert →
        (exec (pair lib m around appVersion pin) s).1 = .ok .paired) ∧
    ((∀ (lib : Libraries Certificate Key) (m : NvPairingManager Certificate Key)
        (around : Surroundings) (appVersion pin : String) (s : PairingState Certificate),
      lib.qSslCertificate = qSslCertificate → lib.pemReadX509 = pemReadX509 →
      plaincert lib around s.exchanges.length = text →
        PinsVerified lib m around appVersion pin s) ↔
      ¬ ReadsTwo qSslCertificate pemReadX509 text) := by
  refine ⟨fun lib m around appVersion pin s hchanged => ?_, fun h hreads => ?_, ?_⟩
  · exact (keepsUnlessPaired_pair lib m around appVersion pin s).resolve_right hchanged
  · obtain ⟨hnonempty, c, c', hqt, hpem, hne⟩ := hreads
    exact not_pinsVerified_lenient key hnonempty hqt hpem hne "" ""
      (h _ _ _ _ _ _ rfl rfl (plaincert_replyReader rfl (fun _ => rfl) _))
  · rintro hreads lib m around appVersion pin s rfl rfl rfl
    exact pinsVerified_of_readsOne hreads

/-! A pairing with PIN 1234: certificates for keys on the curve P-256, and what the libraries
make of the bytes in it. The client draws 1, 2 and 3 throughout, the host 4 and 5, and every
reply has all the fields. -/

section Sample

inductive Party
  | client
  | host
  | other
  deriving DecidableEq, Repr

/-- The lines between those with the label. -/
def hostBody : String :=
  "MIIBHDCBwwIUW2npRFniRQkPyPjVehDVkjdQ++MwCgYIKoZIzj0EAwIwETEPMA0G\n" ++
  "A1UEAwwGc2VydmVyMB4XDTI2MTExOTA3MDI0M1oXDTQ2MTExNDA3MDI0M1owETEP\n" ++
  "MA0GA1UEAwwGc2VydmVyMFkwEwYHKoZIzj0CAQYIKoZIzj0DAQcDQgAEjOaSU//1\n" ++
  "S80g0W5vEpS7JhsyggQvkm20zpXt9LCSk5o1khhm4LxT2sV0zU+6T1i9nKx11saE\n" ++
  "MbhEKSPddTIm5TAKBggqhkjOPQQDAgNIADBFAiEAgZVxwldKOm33b/BX3wEhpp0o\n" ++
  "9f9SqUTmboUsTGDv5xgCIEp7AnaGAuDEFixWVl3V99xzgwK3ROJhuhEHOdqioj8z\n"

def otherBody : String :=
  "MIIBGjCBwQIUaA4ODZMtQk9ufuLYYrgddLkEgCkwCgYIKoZIzj0EAwIwEDEOMAwG\n" ++
  "A1UEAwwFb3RoZXIwHhcNMjYxMTIwMDA0NzU1WhcNNDYxMTE0MDA0NzU1WjAQMQ4w\n" ++
  "DAYDVQQDDAVvdGhlcjBZMBMGByqGSM49AgEGCCqGSM49AwEHA0IABC7Zv3SoxFte\n" ++
  "XDVbwa1AFHybbYz+TwlWWaXJttw6MsuA4JzeSeYuerMpz4H4NFqANifOOmqey9D8\n" ++
  "EKfxOenQcJ0wCgYIKoZIzj0EAwIDSAAwRQIgRbbCJ+PD4640WB+9UjHSXSpB1CLk\n" ++
  "HS6G+m2r9XiAnJsCIQD6Uv/a5u1NsCk8OR7UM+8hFXAar0iroS05eAia7UAGZA==\n"

def pemText (label body : String) : QByteArray := QString.toUtf8 <|
  "-----BEGIN " ++ label ++ "-----\n" ++ body ++ "-----END " ++ label ++ "-----\n"

def hostPem : QByteArray := pemText "CERTIFICATE" hostBody

/-- The certificate of the host under the old label, and then another one. -/
def twoPems : QByteArray := pemText "X509 CERTIFICATE" hostBody ++ pemText "CERTIFICATE" otherBody

def hostSecret : QByteArray := List.replicate 16 4

/-- The secret, signed with the key of the host. -/
def hostSecretSigned : QByteArray :=
  [0x30, 0x44, 0x02, 0x20, 0x69, 0x8b, 0xca, 0x75, 0x53, 0xcf, 0xe2, 0xda, 0x2a, 0x93, 0x47, 0xbf,
   0x38, 0xbb, 0xf3, 0xbf, 0x6c, 0x62, 0xb7, 0xaf, 0x79, 0x54, 0x02, 0xe5, 0x0e, 0xf9, 0x5f, 0x44,
   0xb0, 0x55, 0xa2, 0x35, 0x02, 0x20, 0x03, 0x86, 0x94, 0x29, 0xe4, 0x74, 0x77, 0x8b, 0xd8, 0xf1,
   0xc5, 0x08, 0x71, 0x2f, 0x34, 0x6b, 0x22, 0x87, 0x75, 0x7c, 0x94, 0xec, 0x4a, 0x84, 0xac, 0x4a,
   0xb4, 0x50, 0x32, 0x80, 0xc5, 0x73]

/-- The hash of the host and its own challenge, under the key of the PIN. -/
def hostResponse : QByteArray :=
  [0x57, 0x7a, 0x89, 0x40, 0x0f, 0x2c, 0xc2, 0xb3, 0xe7, 0x4b, 0x40, 0x5f, 0xc7, 0xcf, 0x6f, 0x3b,
   0xd7, 0xfe, 0x98, 0x6c, 0xd9, 0x3e, 0x4c, 0xcb, 0x4c, 0x80, 0x2f, 0xa2, 0x2a, 0x5b, 0xa2, 0x5a,
   0xf2, 0xb9, 0x11, 0xdc, 0x1d, 0x9c, 0x0b, 0xca, 0xf9, 0x8c, 0xfa, 0x0b, 0x9f, 0x65, 0x75, 0xbb]

/-- What the libraries make of a pairing in which the host has the text. OpenSSL reads the first
certificate under either label, Qt the first one under the new label. -/
def librariesFor (plaincert : QByteArray) : Libraries Party Party where
  hash _ data := sha256 data
  aesEncrypt _ data :=
    if data = List.replicate 16 2 then
      [0x53, 0xf2, 0x7c, 0xc8, 0x2c, 0x58, 0xd4, 0xdb, 0x36, 0x7d, 0x3a, 0x2d, 0x54, 0x94, 0xe0,
       0xfc]
    else
      [0x12, 0x1b, 0x18, 0xc5, 0xce, 0x1a, 0x69, 0xdb, 0x4a, 0xc5, 0x33, 0xf1, 0x98, 0x44, 0x8e,
       0xda, 0x07, 0xf3, 0x82, 0x48, 0x46, 0x2a, 0x8a, 0xdf, 0xb5, 0xc2, 0xde, 0xa2, 0x2c, 0xcd,
       0xc9, 0x91]
  aesDecrypt _ _ :=
    [0x15, 0x0b, 0x88, 0xe0, 0x56, 0x13, 0x6c, 0x6a, 0xaf, 0x5c, 0xbe, 0xca, 0x1e, 0xe4, 0x51, 0x61,
     0x1f, 0xa1, 0xe1, 0x63, 0xef, 0x83, 0x8d, 0xd6, 0x7b, 0x42, 0xa0, 0xdf, 0x03, 0x48, 0x02, 0x36,
     0x05, 0x05, 0x05, 0x05, 0x05, 0x05, 0x05, 0x05, 0x05, 0x05, 0x05, 0x05, 0x05, 0x05, 0x05, 0x05]
  qSslCertificate text :=
    if text = hostPem then some .host else if text = twoPems then some .other else none
  pemReadX509 text := if text = hostPem ∨ text = twoPems then some .host else none
  pemReadPrivateKey _ := none
  signature
    | .host =>
        [0x30, 0x45, 0x02, 0x21, 0x00, 0x81, 0x95, 0x71, 0xc2, 0x57, 0x4a, 0x3a, 0x6d, 0xf7, 0x6f,
         0xf0, 0x57, 0xdf, 0x01, 0x21, 0xa6, 0x9d, 0x28, 0xf5, 0xff, 0x52, 0xa9, 0x44, 0xe6, 0x6e,
         0x85, 0x2c, 0x4c, 0x60, 0xef, 0xe7, 0x18, 0x02, 0x20, 0x4a, 0x7b, 0x02, 0x76, 0x86, 0x02,
         0xe0, 0xc4, 0x16, 0x2c, 0x56, 0x56, 0x5d, 0xd5, 0xf7, 0xdc, 0x73, 0x83, 0x02, 0xb7, 0x44,
         0xe2, 0x61, 0xba, 0x11, 0x07, 0x39, 0xda, 0xa2, 0xa2, 0x3f, 0x33]
    | .client =>
        [0x30, 0x46, 0x02, 0x21, 0x00, 0xba, 0x3d, 0x06, 0xd2, 0x55, 0x60, 0x19, 0xf7, 0x2f, 0x65,
         0x95, 0xd3, 0x69, 0x39, 0xa6, 0xf7, 0x0f, 0x65, 0x52, 0xb1, 0xcd, 0xe5, 0xa0, 0x6f, 0x14,
         0x57, 0x71, 0xf3, 0x79, 0x86, 0xdc, 0x84, 0x02, 0x21, 0x00, 0xb1, 0x7f, 0x9b, 0x46, 0xea,
         0x58, 0x64, 0x7a, 0xd8, 0x17, 0xff, 0x7d, 0x41, 0xa4, 0x0b, 0x44, 0xed, 0xfa, 0x11, 0xcd,
         0xa5, 0xf4, 0xf7, 0xdd, 0xf6, 0x0a, 0xac, 0x4d, 0xa3, 0xd4, 0x62, 0x57]
    | .other =>
        [0x30, 0x45, 0x02, 0x20, 0x45, 0xb6, 0xc2, 0x27, 0xe3, 0xc3, 0xe3, 0xae, 0x34, 0x58, 0x1f,
         0xbd, 0x52, 0x31, 0xd2, 0x5d, 0x2a, 0x41, 0xd4, 0x22, 0xe4, 0x1d, 0x2e, 0x86, 0xfa, 0x6d,
         0xab, 0xf5, 0x78, 0x80, 0x9c, 0x9b, 0x02, 0x21, 0x00, 0xfa, 0x52, 0xff, 0xda, 0xe6, 0xed,
         0x4d, 0xb0, 0x29, 0x3c, 0x39, 0x1e, 0xd4, 0x33, 0xef, 0x21, 0x15, 0x70, 0x1a, 0xaf, 0x48,
         0xab, 0xa1, 0x2d, 0x39, 0x78, 0x08, 0x9a, 0xed, 0x40, 0x06, 0x64]
  publicKey := some
  digestVerify key data signature :=
    key = .host && data = hostSecret && signature = hostSecretSigned
  digestSign _ _ :=
    [0x30, 0x45, 0x02, 0x21, 0x00, 0xd1, 0xb0, 0x5c, 0xb6, 0xc4, 0x48, 0x4b, 0x09, 0xcf, 0x21, 0xbe,
     0x94, 0xf4, 0x3c, 0xd7, 0xdb, 0xc4, 0x94, 0xe3, 0x93, 0x1e, 0xf9, 0x82, 0x6c, 0x1e, 0x00, 0xb0,
     0xae, 0xd6, 0xe1, 0x22, 0xc5, 0x02, 0x20, 0x18, 0xf0, 0xf4, 0x12, 0xe5, 0x8d, 0x2f, 0xa0, 0x19,
     0x3f, 0x4b, 0x7b, 0xc1, 0x82, 0xca, 0x1b, 0x50, 0x9e, 0xd0, 0xe3, 0x30, 0x28, 0x07, 0xe5, 0xa4,
     0xf8, 0x34, 0x7c, 0x42, 0x63, 0x16, 0x5c]
  xml := replyReader plaincert hostResponse (hostSecret ++ hostSecretSigned)

def sampleManager : NvPairingManager Party Party := ⟨⟨[], [], "0123456789ABCDEF"⟩, .client, .client⟩

def xmlFor (plaincert : QByteArray) : String :=
  "<?xml version=\"1.0\" encoding=\"utf-8\"?><root status_code=\"200\"><paired>1</paired>" ++
    "<plaincert>" ++ QByteArray.toHex plaincert ++ "</plaincert>" ++
    "<challengeresponse>" ++ QByteArray.toHex hostResponse ++ "</challengeresponse>" ++
    "<pairingsecret>" ++ QByteArray.toHex (hostSecret ++ hostSecretSigned) ++
    "</pairingsecret></root>"

/-- The host has shown the certificate that OpenSSL reads to be its own. -/
theorem checked_host (plaincert : QByteArray) :
    Checked (librariesFor plaincert) "7.1.431.-1" (List.replicate 16 2)
      ((librariesFor plaincert).aesDecrypt [] hostResponse) (xmlFor plaincert) .host where
  signature := by
    have hverify : (librariesFor []).digestVerify .host
        ((hostSecret ++ hostSecretSigned).take 16) ((hostSecret ++ hostSecretSigned).drop 16) =
          true := by decide +kernel
    have hsecret : (librariesFor plaincert).xml.getXmlStringFromHex (xmlFor plaincert)
        "pairingsecret" = hostSecret ++ hostSecretSigned := replyReader_pairingsecret ..
    rw [serverSecret, serverSignature, hsecret]
    exact ⟨.host, rfl, hverify⟩
  response := by
    have hhash : (librariesFor []).hash (hashAlgo "7.1.431.-1") (List.replicate 16 2 ++
        (librariesFor []).signature .host ++ (hostSecret ++ hostSecretSigned).take 16) =
          ((librariesFor []).aesDecrypt [] hostResponse).take (hashLength "7.1.431.-1") := by
      decide +kernel
    have hsecret : (librariesFor plaincert).xml.getXmlStringFromHex (xmlFor plaincert)
        "pairingsecret" = hostSecret ++ hostSecretSigned := replyReader_pairingsecret ..
    rw [serverSecret, hsecret]
    exact hhash

theorem paired_of_reads {plaincert : QByteArray} {c : Party} (hnonempty : plaincert.isEmpty = false)
    (hqt : (librariesFor plaincert).qSslCertificate plaincert = some c)
    (hpem : (librariesFor plaincert).pemReadX509 plaincert = some .host) :
    (exec (pair (librariesFor plaincert) sampleManager (answering (xmlFor plaincert))
      "7.1.431.-1" "1234") sampleState).1 = .ok .paired := by
  have hresponse : ∀ key, decrypt (librariesFor plaincert)
      ((librariesFor plaincert).xml.getXmlStringFromHex (xmlFor plaincert) "challengeresponse")
        key = (librariesFor plaincert).aesDecrypt [] hostResponse := by
    intro key
    rw [show (librariesFor plaincert).xml.getXmlStringFromHex (xmlFor plaincert)
      "challengeresponse" = hostResponse from replyReader_challengeresponse ..]
    rfl
  have hsecret : 16 < ((librariesFor plaincert).xml.getXmlStringFromHex (xmlFor plaincert)
      "pairingsecret").length := by
    rw [show (librariesFor plaincert).xml.getXmlStringFromHex (xmlFor plaincert)
      "pairingsecret" = hostSecret ++ hostSecretSigned from replyReader_pairingsecret ..]
    decide +kernel
  exact pair_passes (answers_replyReader rfl (fun _ => rfl) _) (replyReader_plaincert ..)
    hnonempty hqt hpem (hresponse _) (by decide +kernel : hashLength "7.1.431.-1" ≤ 48) hsecret
    (checked_host plaincert)

/-- The host in the usual case. -/
def sampleLibraries : Libraries Party Party := librariesFor hostPem

def sampleXml : String := xmlFor hostPem

def sampleSurroundings : Surroundings := answering sampleXml

theorem not_readsTwo_hostPem :
    ¬ ReadsTwo sampleLibraries.qSslCertificate sampleLibraries.pemReadX509 hostPem := by
  rintro ⟨-, c, c', hqt, hpem, hne⟩
  simp only [sampleLibraries, librariesFor, if_true, true_or, Option.some.injEq] at hqt hpem
  exact hne (hpem.symm.trans hqt)

theorem pair_pins_verified_sample :
    ∃ c, (exec (pair sampleLibraries sampleManager sampleSurroundings "7.1.431.-1" "1234")
        sampleState).2.serverCert = some c ∧
      Verified sampleLibraries sampleManager sampleSurroundings "7.1.431.-1" "1234" sampleState
        (exec (pair sampleLibraries sampleManager sampleSurroundings "7.1.431.-1" "1234")
          sampleState).2 c :=
  ((pair_pins_verified .host sampleLibraries.qSslCertificate sampleLibraries.pemReadX509
    hostPem).2.mpr not_readsTwo_hostPem sampleLibraries sampleManager sampleSurroundings
      "7.1.431.-1" "1234" sampleState rfl rfl (plaincert_replyReader rfl (fun _ => rfl) _)).2
    (paired_of_reads (c := .host) (by decide +kernel) (by simp [librariesFor])
      (by simp [librariesFor]))

theorem twoPems_ne : twoPems ≠ hostPem := by
  decide +kernel

/-- The host shows that the first certificate is its own, and the second one is pinned. -/
theorem other_certificate_pinned :
    let r := exec (pair (librariesFor twoPems) sampleManager (answering (xmlFor twoPems))
      "7.1.431.-1" "1234") sampleState
    r.1 = .ok .paired ∧ r.2.serverCert = some .other ∧
      ¬ PinsVerified (librariesFor twoPems) sampleManager (answering (xmlFor twoPems))
        "7.1.431.-1" "1234" sampleState := by
  have hqt : (librariesFor twoPems).qSslCertificate twoPems = some .other := by
    simp [librariesFor, twoPems_ne]
  have htext : plaincert (librariesFor twoPems) (answering (xmlFor twoPems)) 0 = twoPems :=
    plaincert_replyReader rfl (fun _ => rfl) 0
  have hpaired := paired_of_reads (by decide +kernel) hqt (by simp [librariesFor])
  refine ⟨hpaired, not_pinsVerified hpaired (htext.symm ▸ hqt)
    fun challenge response respXml h => ?_⟩
  obtain ⟨key, hkey, hverify⟩ := h.signature
  obtain rfl : Party.other = key := Option.some.inj hkey
  simp [librariesFor] at hverify

end Sample

end GilStreaming.Client.NvPairingManager

namespace GilStreaming.Client.PendingPairingTask

open GilStreaming.Fallible NvPairingManager

variable {Certificate Key : Type} {lib : Libraries Certificate Key} {around : Surroundings}

/-- Only `PAIRED` is reported as a success. -/
theorem finish_of_not_paired (c : PairingHost Certificate)
    {result : Except HttpException NvPairingManager.PairState} (hpaired : result ≠ .ok .paired)
    {s : PairingState Certificate} (hsame : s.serverCert = c.serverCert) :
    (finish c (result, s)).1 = c ∧ .pairingCompleted none ∉ (finish c (result, s)).2 := by
  have hhost : { c with serverCert := s.serverCert } = c := by rw [hsame]
  cases result with
  | ok state =>
      cases state with
      | paired => exact absurd rfl hpaired
      | _ => exact ⟨hhost, fun h => by cases List.mem_singleton.mp h⟩
  | error e =>
      cases e with
      | badAlloc => exact ⟨hhost, List.not_mem_nil⟩
      | _ => exact ⟨hhost, fun h => by cases List.mem_singleton.mp h⟩

/-- A pairing task leaves its host as it was and reports no success, or it pins a verified
certificate, marks the host as paired and says so. -/
theorem run_cases (hreads : ¬ ReadsTwo lib.qSslCertificate lib.pemReadX509 (plaincert lib around 0))
    (identity : Identity) (pin : String) (c : PairingHost Certificate) :
    ((run lib identity around pin c).1 = c ∧
      .pairingCompleted none ∉ (run lib identity around pin c).2) ∨
    ∃ m s cert, NvPairingManager.new lib identity = .ok m ∧
      Verified lib m around c.appVersion pin (start c) s cert ∧
      run lib identity around pin c =
        ({ c with serverCert := some cert, pairState := .paired },
          [.computerStateChanged, .pairingCompleted none]) := by
  rw [run]
  cases hnew : NvPairingManager.new lib identity with
  | error e => exact .inl ⟨rfl, List.not_mem_nil⟩
  | ok m =>
      dsimp only
      have hkept := keepsUnlessPaired_pair lib m around c.appVersion pin (start c)
      cases hpair : exec (pair lib m around c.appVersion pin) (start c) with
      | mk result s =>
          rw [hpair] at hkept
          by_cases hpaired : result = .ok .paired
          · subst hpaired
            obtain ⟨cert, hcert, hverified⟩ := pair_verified hreads hpair
            refine .inr ⟨m, s, cert, rfl, hverified, ?_⟩
            rw [← hcert]
            rfl
          · exact .inl (finish_of_not_paired c hpaired (hkept.resolve_left hpaired))

end GilStreaming.Client.PendingPairingTask
