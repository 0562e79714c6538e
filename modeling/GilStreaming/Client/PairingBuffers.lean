import GilStreaming.Client.PinnedCertificate
import GilStreaming.Lib.Logged

/-!
# GilStreaming.Client.PairingBuffers

The lists and buffers that `pair` reads, and the key that it hands to the cipher.

The programs here are `pair` and two of its stages written out with a log (`pair_erases`):
where a list is indexed, where a number of bytes is read behind `data()`, and where
`encrypt` or `decrypt` is called. What Qt bounds itself, such as `left` and `mid`, is logged
with the bytes it returns.

The log shows three reads that nothing guards: the first number of a version that is empty,
the sixteen bytes of a key that the conversion from `char *` has cut short, and the sixteen
bytes behind the hash in a challenge response that is checked for the hash only.
-/

namespace GilStreaming.Client

open GilStreaming.Fallible Logged

/-- A use of a list or a buffer. -/
inductive BufferUse
  /-- `list.at(index)`. -/
  | entry (index length : Nat)
  /-- `count` bytes from `data() + first` on. -/
  | bytes (first count : Nat) (buffer : QByteArray)
  /-- `encrypt` or `decrypt` is called with this key. -/
  | key (key : QByteArray)
  deriving DecidableEq, Repr

/-- Behind the bytes of an array there is a zero byte, which may be read as well. -/
def BufferUse.InBounds : BufferUse → Prop
  | entry index length => index < length
  | bytes first count buffer => first + count ≤ buffer.length + 1
  | key _ => True

instance : DecidablePred BufferUse.InBounds
  | .entry .. => inferInstanceAs (Decidable (_ < _))
  | .bytes .. => inferInstanceAs (Decidable (_ ≤ _))
  | .key _ => inferInstanceAs (Decidable True)

/-- Where the cipher is called, it is called with this key. -/
def BufferUse.KeyIs (expected : QByteArray) : BufferUse → Prop
  | .key k => k = expected
  | _ => True

/-- `QCryptographicHash::hashLength`. -/
def HashAlgorithm.length : HashAlgorithm → Nat
  | .sha1 => 20
  | .sha256 => 32

abbrev PairingLog (Certificate : Type) :=
  Logged HttpException (PairingState Certificate) BufferUse

namespace NvPairingManager

variable {Certificate Key : Type} (lib : Libraries Certificate Key)
  (m : NvPairingManager Certificate Key) (around : Surroundings)

/-! ### The programs -/

/-- A `char *` is read up to its first zero byte. -/
def cStringUse (buffer : QByteArray) : BufferUse :=
  .bytes 0 ((buffer.takeWhile fun b => b ≠ 0).length + 1) buffer

/-- `encrypt` and `decrypt`: `EVP_EncryptInit` and `EVP_DecryptInit` read sixteen bytes of the
key. -/
def cipherUses (text key : QByteArray) : List BufferUse :=
  .key key :: if text.isEmpty then [] else [.bytes 0 16 key, .bytes 0 text.length text]

/-- `serverChallengeResp`, with a log. -/
def serverChallengeRespLog (appVersion : String) (key serverCertStr : QByteArray)
    (unverifiedServerCert : Certificate) (randomChallenge challengeResponseData : QByteArray) :
    PairingLog Certificate PairState := do
  let clientSecretData ← silent (generateRandomBytes around 16)
  log [.bytes 0 (hashLength appVersion) challengeResponseData,
    .bytes (hashLength appVersion) 16 challengeResponseData]
  let serverResponse := challengeResponseData.take (hashLength appVersion)
  let serverChallenge := ((challengeResponseData ++ around.behind challengeResponseData).drop
    (hashLength appVersion)).take 16
  let challengeResponse := serverChallenge ++ lib.signature m.cert ++ clientSecretData
  let hash := lib.hash (hashAlgo appVersion) challengeResponse
  let paddedHash := (hash ++ around.behind hash).take 32
  log (cipherUses paddedHash key)
  let respXml ← silent (pairRequest lib m around .http
    ("serverchallengeresp=" ++ QByteArray.toHex (encrypt lib paddedHash key)) requestTimeoutMs)
  if saysPaired lib respXml then
    let pairingSecret := lib.xml.getXmlStringFromHex respXml "pairingsecret"
    if pairingSecret.length ≤ 16 then silent (unpair m around .failed)
    else
      log [.bytes 0 16 pairingSecret, .bytes 16 (pairingSecret.length - 16) pairingSecret,
        cStringUse serverCertStr]
      let serverSecret := pairingSecret.take 16
      let serverSignature := pairingSecret.drop 16
      let verified ← silent (MonadExcept.ofExcept
        (verifySignature lib serverSecret serverSignature serverCertStr))
      if verified then
        if expectedResponse lib appVersion randomChallenge serverCertStr serverSecret =
            serverResponse then
          silent (clientPairingSecret lib m around unverifiedServerCert clientSecretData)
        else silent (unpair m around .pinWrong)
      else silent (unpair m around .failed)
  else silent (unpair m around .failed)

/-- `clientChallenge`, with a log. -/
def clientChallengeLog (appVersion : String) (key serverCertStr : QByteArray)
    (unverifiedServerCert : Certificate) : PairingLog Certificate PairState := do
  let randomChallenge ← silent (generateRandomBytes around 16)
  log (cipherUses randomChallenge key)
  let challengeXml ← silent (pairRequest lib m around .http
    ("clientchallenge=" ++ QByteArray.toHex (encrypt lib randomChallenge key)) requestTimeoutMs)
  if saysPaired lib challengeXml then
    log (cipherUses (lib.xml.getXmlStringFromHex challengeXml "challengeresponse") key)
    let challengeResponseData :=
      decrypt lib (lib.xml.getXmlStringFromHex challengeXml "challengeresponse") key
    if challengeResponseData.length < hashLength appVersion then silent (unpair m around .failed)
    else
      serverChallengeRespLog lib m around appVersion key serverCertStr unverifiedServerCert
        randomChallenge challengeResponseData
  else silent (unpair m around .failed)

/-- `pair`, with a log. -/
def pairLog (appVersion pin : String) : PairingLog Certificate PairState := do
  log [.entry 0 (NvHttp.parseQuad appVersion).length]
  let salt ← silent (generateRandomBytes around 16)
  log [cStringUse (lib.hash (hashAlgo appVersion) (saltPin salt pin))]
  let key := aesKey lib appVersion pin salt
  let getCert ← silent (getServerCert lib m around salt)
  if saysPaired lib getCert then
    let serverCertStr := lib.xml.getXmlStringFromHex getCert "plaincert"
    if serverCertStr.isEmpty then silent (unpair m around .alreadyInProgress)
    else
      match lib.qSslCertificate serverCertStr with
      | none => silent (unpair m around .failed)
      | some unverifiedServerCert => do
          silent (modify fun s => { s with http := s.http.setServerCert unverifiedServerCert })
          clientChallengeLog lib m around appVersion key serverCertStr unverifiedServerCert
  else silent (pure .failed)

variable {lib m around}

theorem serverChallengeResp_erases (appVersion : String) (key text : QByteArray)
    (c : Certificate) (challenge response : QByteArray) :
    Erases (serverChallengeRespLog lib m around appVersion key text c challenge response)
      (serverChallengeResp lib m around appVersion key text c challenge response) := by
  refine (erases_silent _).bind fun secret =>
    .log (.log (.bind (erases_silent _) fun xml => ?_) _) _
  split
  · dsimp only
    split
    · exact erases_silent _
    · refine .log (.bind (erases_silent _) fun verified => ?_) _
      split
      · split <;> exact erases_silent _
      · exact erases_silent _
  · exact erases_silent _

theorem clientChallenge_erases (appVersion : String) (key text : QByteArray) (c : Certificate) :
    Erases (clientChallengeLog lib m around appVersion key text c)
      (clientChallenge lib m around appVersion key text c) := by
  refine (erases_silent _).bind fun challenge => .log (.bind (erases_silent _) fun xml => ?_) _
  split
  · refine .log ?_ _
    dsimp only
    split
    · exact erases_silent _
    · exact serverChallengeResp_erases appVersion key text c challenge _
  · exact erases_silent _

/-- But for the log, the program is `pair`. -/
theorem pair_erases (appVersion pin : String) :
    Erases (pairLog lib m around appVersion pin) (pair lib m around appVersion pin) := by
  refine .log (.bind (erases_silent _) fun salt => .log (.bind (erases_silent _) fun getCert => ?_)
    _) _
  split
  · dsimp only
    split
    · exact erases_silent _
    · cases lib.qSslCertificate (lib.xml.getXmlStringFromHex getCert "plaincert") with
      | none => exact erases_silent _
      | some c => exact .bind (erases_silent _) fun _ => clientChallenge_erases appVersion _ _ c
  · exact erases_silent _

/-! ### How far a run comes -/

/-- The first stage succeeds with a text that has a certificate, and the next reply is that of
number `n'`. -/
structure Begins (lib : Libraries Certificate Key) (around : Surroundings) (n : Nat)
    (getCert : String) (n' : Nat) : Prop where
  answered : certAnswer lib around n = some (getCert, n')
  paired : saysPaired lib getCert = true
  nonempty : lib.xml.getXmlStringFromHex getCert "plaincert" ≠ []
  certificate : ∃ c, lib.qSslCertificate (lib.xml.getXmlStringFromHex getCert "plaincert") = some c

/-! ### What is logged -/

section Logs

variable {P : BufferUse → Prop} {s : PairingState Certificate}

/-- The later stages log where the first one has brought a certificate. -/
theorem all_pairLog {appVersion pin : String} {Q : String → Nat → Prop}
    (hlater : ∀ getCert c (s' : PairingState Certificate),
      All P (clientChallengeLog lib m around appVersion
        (aesKey lib appVersion pin (around.random s.drawn 16))
        (lib.xml.getXmlStringFromHex getCert "plaincert") c) s' ↔ Q getCert s'.exchanges.length) :
    All P (pairLog lib m around appVersion pin) s ↔
      P (.entry 0 (NvHttp.parseQuad appVersion).length) ∧
      P (cStringUse (lib.hash (hashAlgo appVersion)
        (saltPin (around.random s.drawn 16) pin))) ∧
      ∀ getCert n, Begins lib around s.exchanges.length getCert n → Q getCert n := by
  rw [pairLog, all_log_bind, all_silent_bind_ok (exec_generateRandomBytes around 16 s),
    all_log_bind, all_silent_bind, List.forall_mem_singleton, List.forall_mem_singleton]
  refine and_congr_right fun _ => and_congr_right fun _ => ?_
  constructor
  · intro h getCert n hbegins
    obtain ⟨c, hc⟩ := hbegins.certificate
    obtain ⟨s', hexec, rfl⟩ := (exec_getServerCert _ { s with drawn := s.drawn + 1 } _ _).mp
      hbegins.answered
    have hrun := h getCert s' hexec
    rw [if_pos hbegins.paired] at hrun
    dsimp only at hrun
    rw [if_neg (by simpa using hbegins.nonempty), hc] at hrun
    dsimp only at hrun
    rw [all_silent_bind_ok (exec_modify _ s'), hlater] at hrun
    exact hrun
  · intro h getCert s' hexec
    by_cases hpaired : saysPaired lib getCert = true
    · rw [if_pos hpaired]
      dsimp only
      by_cases hempty : lib.xml.getXmlStringFromHex getCert "plaincert" = []
      · rw [if_pos (by simp [hempty])]
        exact all_silent _
      · rw [if_neg (by simpa using hempty)]
        cases hc : lib.qSslCertificate (lib.xml.getXmlStringFromHex getCert "plaincert") with
        | none => exact all_silent _
        | some c =>
            have hbegins : Begins lib around s.exchanges.length getCert s'.exchanges.length :=
              ⟨(exec_getServerCert _ { s with drawn := s.drawn + 1 } _ _).mpr ⟨s', hexec, rfl⟩,
                hpaired, hempty, c, hc⟩
            dsimp only
            rw [all_silent_bind_ok (exec_modify _ s'), hlater]
            exact h getCert _ hbegins
    · rw [if_neg hpaired]
      exact all_silent _

/-- `P` holds of what the later stages read apart from the answer to the challenge. -/
structure Otherwise (P : BufferUse → Prop) (key text : QByteArray) : Prop where
  cipher : ∀ data, ∀ use ∈ cipherUses data key, P use
  text : P (cStringUse text)
  secret : ∀ secret : QByteArray, 16 < secret.length →
    P (.bytes 0 16 secret) ∧ P (.bytes 16 (secret.length - 16) secret)

theorem all_serverChallengeRespLog {appVersion : String} {key text challenge data : QByteArray}
    {c : Certificate} (h : Otherwise P key text) :
    All P (serverChallengeRespLog lib m around appVersion key text c challenge data) s ↔
      P (.bytes 0 (hashLength appVersion) data) ∧ P (.bytes (hashLength appVersion) 16 data) := by
  rw [serverChallengeRespLog, all_silent_bind_ok (exec_generateRandomBytes around 16 s),
    all_log_bind, all_log_bind, all_silent_bind]
  simp only [List.forall_mem_cons, List.not_mem_nil, false_imp_iff, forall_true_iff, and_true,
    and_iff_left_iff_imp]
  intro _
  refine ⟨h.cipher _, fun respXml s' _ => ?_⟩
  split
  · split
    · exact all_silent _
    · rename_i hlength
      obtain ⟨hleft, hmid⟩ := h.secret _ (Nat.lt_of_not_le hlength)
      rw [all_log_bind, all_silent_bind]
      refine ⟨by simp [hleft, hmid, h.text], fun verified s'' _ => ?_⟩
      split
      · split <;> exact all_silent _
      · exact all_silent _
  · exact all_silent _

theorem all_clientChallengeLog {appVersion : String} {key text : QByteArray} {c : Certificate}
    (h : Otherwise P key text) :
    All P (clientChallengeLog lib m around appVersion key text c) s ↔
      ∀ challengeXml, answer lib (around.reply s.exchanges.length) = .ok challengeXml →
        saysPaired lib challengeXml = true →
        let data := decrypt lib (lib.xml.getXmlStringFromHex challengeXml "challengeresponse") key
        hashLength appVersion ≤ data.length →
          P (.bytes 0 (hashLength appVersion) data) ∧
            P (.bytes (hashLength appVersion) 16 data) := by
  rw [clientChallengeLog, all_silent_bind_ok (exec_generateRandomBytes around 16 s),
    all_log_bind, and_iff_right (h.cipher _), all_silent_bind_run (exec_pairRequest _ _ _ _)]
  refine forall_congr' fun challengeXml => imp_congr_right fun hanswer => ?_
  by_cases hpaired : saysPaired lib challengeXml = true
  · rw [if_pos hpaired, all_log_bind, and_iff_right (h.cipher _)]
    dsimp only
    by_cases hshort : (decrypt lib (lib.xml.getXmlStringFromHex challengeXml "challengeresponse")
        key).length < hashLength appVersion
    · rw [if_pos hshort]
      exact iff_of_true (all_silent _) fun _ hlength => absurd hshort (Nat.not_lt.mpr hlength)
    · rw [if_neg hshort, all_serverChallengeRespLog h]
      exact ⟨fun hread _ _ => hread, fun hall => hall hpaired (Nat.le_of_not_lt hshort)⟩
  · rw [if_neg hpaired]
    exact iff_of_true (all_silent _) fun hcontra => absurd hcontra hpaired

/-! ### The key -/

theorem all_cipherUses_keyIs {data key expected : QByteArray} :
    (∀ use ∈ cipherUses data key, use.KeyIs expected) ↔ key = expected := by
  rw [cipherUses]
  split <;> simp [BufferUse.KeyIs]

/-- Every stage has the key of the first. -/
theorem all_clientChallengeLog_keyIs {appVersion : String} {key text expected : QByteArray}
    {c : Certificate} :
    All (BufferUse.KeyIs expected) (clientChallengeLog lib m around appVersion key text c) s ↔
      key = expected := by
  constructor
  · intro h
    rw [clientChallengeLog, all_silent_bind_ok (exec_generateRandomBytes around 16 s),
      all_log_bind] at h
    exact all_cipherUses_keyIs.mp h.1
  · intro hkey
    have hother : Otherwise (BufferUse.KeyIs expected) key text :=
      ⟨fun _ => all_cipherUses_keyIs.mpr hkey, trivial, fun _ _ => ⟨trivial, trivial⟩⟩
    exact (all_clientChallengeLog hother).mpr fun _ _ _ _ => ⟨trivial, trivial⟩

theorem all_pairLog_keyIs {appVersion pin : String} {expected : QByteArray} :
    All (BufferUse.KeyIs expected) (pairLog lib m around appVersion pin) s ↔
      ∀ getCert n, Begins lib around s.exchanges.length getCert n →
        aesKey lib appVersion pin (around.random s.drawn 16) = expected := by
  rw [all_pairLog (Q := fun _ _ => aesKey lib appVersion pin (around.random s.drawn 16) = expected)
    fun _ _ _ => all_clientChallengeLog_keyIs]
  exact ⟨fun h => h.2.2, fun h => ⟨trivial, trivial, h⟩⟩

/-- The conversion to a `char *` and back does nothing to bytes without a zero. -/
theorem aesKey_eq_iff {appVersion pin : String} {salt : QByteArray} :
    aesKey lib appVersion pin salt =
        (lib.hash (hashAlgo appVersion) (saltPin salt pin)).take 16 ↔
      ∀ b ∈ (lib.hash (hashAlgo appVersion) (saltPin salt pin)).take 16, b ≠ 0 := by
  rw [aesKey, List.take_takeWhile, List.takeWhile_eq_self_iff]
  simp only [decide_eq_true_eq]

end Logs

/-! ### The bounds -/

/-- What the libraries return has the length that it should have. -/
structure Sized (lib : Libraries Certificate Key) (around : Surroundings) : Prop where
  hash : ∀ algo data, (lib.hash algo data).length = algo.length
  aesDecrypt : ∀ key data, (lib.aesDecrypt key data).length = data.length
  random : ∀ drawn length, (around.random drawn length).length = length

/-- The answer to the challenge in the reply of number `n` is shorter than the hash, and
refused, or it has the sixteen bytes behind the hash, where the last may be the terminator. -/
def ResponseFits (lib : Libraries Certificate Key) (around : Surroundings) (appVersion : String)
    (n : Nat) : Prop :=
  ∀ challengeXml, answer lib (around.reply n) = .ok challengeXml →
    saysPaired lib challengeXml = true →
    let length := (lib.xml.getXmlStringFromHex challengeXml "challengeresponse").length
    length < hashLength appVersion ∨ hashLength appVersion + 15 ≤ length

/-- What a host sends in the first three replies, where `pair` checks that it is there. -/
def Complete (lib : Libraries Certificate Key) (around : Surroundings) (appVersion : String)
    (n : Nat) : Prop :=
  ∃ getCert n' challengeXml respXml, Begins lib around n getCert n' ∧
    answer lib (around.reply n') = .ok challengeXml ∧
    saysPaired lib challengeXml = true ∧
    hashLength appVersion ≤
      (lib.xml.getXmlStringFromHex challengeXml "challengeresponse").length ∧
    answer lib (around.reply (n' + 1)) = .ok respXml ∧
    saysPaired lib respXml = true ∧
    16 < (lib.xml.getXmlStringFromHex respXml "pairingsecret").length

section Bounds

variable {s : PairingState Certificate}

theorem Sized.decrypt (h : Sized lib around) (data key : QByteArray) :
    (decrypt lib data key).length = data.length := by
  rw [NvPairingManager.decrypt]
  split
  · rename_i hempty
    rw [List.isEmpty_iff.mp hempty]
  · exact h.aesDecrypt key data

theorem Sized.fifteen_le_hash (h : Sized lib around) (algo : HashAlgorithm) (data : QByteArray) :
    15 ≤ (lib.hash algo data).length := by
  rw [h.hash]
  cases algo <;> decide

theorem cStringUse_inBounds (buffer : QByteArray) : (cStringUse buffer).InBounds := by
  have hle := (List.takeWhile_sublist (fun b : UInt8 => decide (b ≠ 0)) (l := buffer)).length_le
  show 0 + (_ + 1) ≤ buffer.length + 1
  omega

/-- The cipher reads the byte behind a key of fifteen bytes as the sixteenth. -/
theorem all_cipherUses_inBounds {data key : QByteArray} :
    (∀ use ∈ cipherUses data key, use.InBounds) ↔ data = [] ∨ 15 ≤ key.length := by
  rw [cipherUses]
  cases data with
  | nil => simp [BufferUse.InBounds]
  | cons b data => simp [BufferUse.InBounds]

theorem all_clientChallengeLog_inBounds (h : Sized lib around) {appVersion : String}
    {key text : QByteArray} {c : Certificate} :
    All BufferUse.InBounds (clientChallengeLog lib m around appVersion key text c) s ↔
      15 ≤ key.length ∧ ResponseFits lib around appVersion s.exchanges.length := by
  have hkey : All BufferUse.InBounds (clientChallengeLog lib m around appVersion key text c) s →
      15 ≤ key.length := by
    intro hall
    rw [clientChallengeLog, all_silent_bind_ok (exec_generateRandomBytes around 16 s),
      all_log_bind, all_cipherUses_inBounds] at hall
    refine hall.1.resolve_left fun hempty => ?_
    have hlength := h.random s.drawn 16
    rw [hempty] at hlength
    cases hlength
  rw [← and_iff_right_of_imp hkey, and_congr_right_iff]
  intro hfifteen
  have hother : Otherwise BufferUse.InBounds key text := by
    refine ⟨fun _ => all_cipherUses_inBounds.mpr (.inr hfifteen), cStringUse_inBounds text, ?_⟩
    intro secret hsecret
    constructor
    · show 0 + 16 ≤ secret.length + 1
      omega
    · show 16 + (secret.length - 16) ≤ secret.length + 1
      omega
  rw [all_clientChallengeLog hother]
  refine forall_congr' fun challengeXml => imp_congr_right fun _ => imp_congr_right fun _ => ?_
  simp only [BufferUse.InBounds, h.decrypt]
  omega

theorem le_length_takeWhile {α : Type} {p : α → Bool} {l : List α} {n : Nat} :
    n ≤ (l.takeWhile p).length ↔ n ≤ l.length ∧ ∀ x ∈ l.take n, p x = true := by
  induction l generalizing n with
  | nil => simp
  | cons x xs ih =>
      cases n with
      | zero => simp
      | succ n => by_cases hx : p x = true <;> simp [hx, ih]

/-- The key that is left of a hash. -/
theorem fifteen_le_aesKey (h : Sized lib around) {appVersion pin : String} {salt : QByteArray} :
    15 ≤ (aesKey lib appVersion pin salt).length ↔
      ∀ b ∈ (lib.hash (hashAlgo appVersion) (saltPin salt pin)).take 15, b ≠ 0 := by
  have hhash := h.fifteen_le_hash (hashAlgo appVersion) (saltPin salt pin)
  rw [aesKey, List.length_take, Nat.le_min, and_iff_right (by omega), le_length_takeWhile,
    and_iff_right hhash]
  simp only [decide_eq_true_eq]

theorem parseQuad_length_pos {quad : String} : 0 < (NvHttp.parseQuad quad).length ↔ quad ≠ "" := by
  rw [NvHttp.parseQuad]
  by_cases hempty : quad = ""
  · simp [hempty]
  · rw [if_neg (by simpa using hempty), List.length_map, List.length_pos_iff]
    exact iff_of_true (List.splitOn_ne_nil _ _) hempty

theorem all_pairLog_inBounds (h : Sized lib around) {appVersion pin : String} :
    All BufferUse.InBounds (pairLog lib m around appVersion pin) s ↔
      appVersion ≠ "" ∧
      ∀ getCert n, Begins lib around s.exchanges.length getCert n →
        (∀ b ∈ (lib.hash (hashAlgo appVersion)
          (saltPin (around.random s.drawn 16) pin)).take 15, b ≠ 0) ∧
        ResponseFits lib around appVersion n := by
  rw [all_pairLog (Q := fun _ n => 15 ≤ (aesKey lib appVersion pin
      (around.random s.drawn 16)).length ∧ ResponseFits lib around appVersion n)
    fun _ _ _ => all_clientChallengeLog_inBounds h, fifteen_le_aesKey h]
  have hentry : (BufferUse.entry 0 (NvHttp.parseQuad appVersion).length).InBounds ↔
      appVersion ≠ "" := parseQuad_length_pos
  rw [hentry, and_iff_right (cStringUse_inBounds _)]

/-! ### Input that is refused -/

theorem serverChallengeResp_secret {appVersion : String} {key text challenge response :
      QByteArray} {c : Certificate} {s' : PairingState Certificate}
    (h : exec (serverChallengeResp lib m around appVersion key text c challenge response) s =
      (.ok .paired, s')) :
    ∃ respXml, answer lib (around.reply s.exchanges.length) = .ok respXml ∧
      saysPaired lib respXml = true ∧
      16 < (lib.xml.getXmlStringFromHex respXml "pairingsecret").length := by
  obtain ⟨secret, s₁, hdrawn, h⟩ := bind_ok.mp h
  cases hdrawn
  obtain ⟨respXml, s₂, hrequest, h⟩ := bind_ok.mp h
  rw [exec_pairRequest, Prod.mk.injEq] at hrequest
  by_cases hpaired : saysPaired lib respXml = true
  · rw [if_pos hpaired] at h
    refine ⟨respXml, hrequest.1, hpaired, Nat.lt_of_not_le fun hshort => ?_⟩
    rw [if_pos hshort] at h
    exact unpair_not_paired (by decide) h
  · rw [if_neg hpaired] at h
    exact absurd h (unpair_not_paired (by decide))

theorem clientChallenge_response (hsized : Sized lib around) {appVersion : String}
    {key text : QByteArray} {c : Certificate} {s' : PairingState Certificate}
    (h : exec (clientChallenge lib m around appVersion key text c) s = (.ok .paired, s')) :
    ∃ challengeXml respXml, answer lib (around.reply s.exchanges.length) = .ok challengeXml ∧
      saysPaired lib challengeXml = true ∧
      hashLength appVersion ≤
        (lib.xml.getXmlStringFromHex challengeXml "challengeresponse").length ∧
      answer lib (around.reply (s.exchanges.length + 1)) = .ok respXml ∧
      saysPaired lib respXml = true ∧
      16 < (lib.xml.getXmlStringFromHex respXml "pairingsecret").length := by
  obtain ⟨challenge, s₁, hdrawn, h⟩ := bind_ok.mp h
  cases hdrawn
  obtain ⟨challengeXml, s₂, hrequest, h⟩ := bind_ok.mp h
  rw [exec_pairRequest, Prod.mk.injEq] at hrequest
  obtain ⟨hanswer, rfl⟩ := hrequest
  by_cases hpaired : saysPaired lib challengeXml = true
  · rw [if_pos hpaired] at h
    dsimp only at h
    split at h
    · exact absurd h (unpair_not_paired (by decide))
    · rename_i hlength
      rw [hsized.decrypt, Nat.not_lt] at hlength
      obtain ⟨respXml, hresp⟩ := serverChallengeResp_secret h
      rw [asked, List.length_append] at hresp
      exact ⟨challengeXml, respXml, hanswer, hpaired, hlength, hresp⟩
  · rw [if_neg hpaired] at h
    exact absurd h (unpair_not_paired (by decide))

/-- A host that is paired has sent all that `pair` asks for. -/
theorem pair_complete (hsized : Sized lib around) {appVersion pin : String}
    (h : (exec (pair lib m around appVersion pin) s).1 = .ok .paired) :
    Complete lib around appVersion s.exchanges.length := by
  replace h : exec (pair lib m around appVersion pin) s = (.ok .paired, _) := Prod.ext h rfl
  obtain ⟨salt, s₁, hdrawn, h⟩ := bind_ok.mp h
  cases hdrawn
  obtain ⟨getCert, s₂, hgetCert, h⟩ := bind_ok.mp h
  by_cases hpaired : saysPaired lib getCert = true
  · rw [if_pos hpaired] at h
    dsimp only at h
    by_cases hempty : lib.xml.getXmlStringFromHex getCert "plaincert" = []
    · rw [if_pos (by simp [hempty])] at h
      exact absurd h (unpair_not_paired (by decide))
    · rw [if_neg (by simpa using hempty)] at h
      cases hc : lib.qSslCertificate (lib.xml.getXmlStringFromHex getCert "plaincert") with
      | none =>
          rw [hc] at h
          exact absurd h (unpair_not_paired (by decide))
      | some c =>
          rw [hc] at h
          obtain ⟨⟨⟩, s₃, hmodify, h⟩ := bind_ok.mp h
          cases hmodify
          obtain ⟨challengeXml, respXml, hlater⟩ := clientChallenge_response hsized h
          have hanswered := (exec_getServerCert _ { s with drawn := s.drawn + 1 } _ _).mpr
            ⟨s₂, hgetCert, rfl⟩
          exact ⟨getCert, s₂.exchanges.length, challengeXml, respXml,
            ⟨hanswered, hpaired, hempty, c, hc⟩, hlater⟩
  · rw [if_neg hpaired] at h
    cases h

end Bounds

section Sample

/-- The libraries of the sample pairing, where the host answers the challenge with `response`. -/
def answeringLibraries (response : QByteArray) : Libraries Party Party where
  __ := sampleLibraries
  hash
    | .sha1, data => (sha256 data).take 20
    | .sha256, data => sha256 data
  aesDecrypt key data := if data = hostResponse then sampleLibraries.aesDecrypt key data else data
  xml := replyReader hostPem response (hostSecret ++ hostSecretSigned)

theorem answering_sized (response : QByteArray) :
    Sized (answeringLibraries response) sampleSurroundings where
  hash algo data := by
    cases algo <;> simp [answeringLibraries, length_sha256, HashAlgorithm.length]
  aesDecrypt key data := by
    by_cases hdata : data = hostResponse
    · simp [answeringLibraries, hdata, sampleLibraries, librariesFor, hostResponse]
    · simp [answeringLibraries, hdata]
  random drawn length := List.length_replicate

variable (response : QByteArray)

theorem answering_plaincert :
    (answeringLibraries response).xml.getXmlStringFromHex sampleXml "plaincert" = hostPem :=
  replyReader_plaincert ..

theorem answering_challengeresponse :
    (answeringLibraries response).xml.getXmlStringFromHex sampleXml "challengeresponse" =
      response :=
  replyReader_challengeresponse ..

theorem answering_answers (s : PairingState Party) :
    Answers (answeringLibraries response) sampleSurroundings s 5 fun _ => sampleXml :=
  answers_replyReader rfl (fun _ => rfl) s

theorem answering_answer (n : Nat) :
    answer (answeringLibraries response) (sampleSurroundings.reply n) = .ok sampleXml := by
  have hstatus := (answering_answers response sampleState).status 0 (by omega)
  simp [answer, show sampleSurroundings.reply n = .finished sampleXml from rfl, Reply.toExcept,
    hstatus, Except.map]

theorem answering_paired : saysPaired (answeringLibraries response) sampleXml = true :=
  (answering_answers response sampleState).paired 0 (by omega)

/-- The host has a certificate in its first reply. -/
theorem answering_begins :
    Begins (answeringLibraries response) sampleSurroundings 0 sampleXml 1 where
  answered := by simp [certAnswer, answering_answer]
  paired := answering_paired response
  nonempty := by
    rw [answering_plaincert]
    decide +kernel
  certificate := ⟨.host, by
    rw [answering_plaincert]
    simp [answeringLibraries, sampleLibraries, librariesFor]⟩

end Sample

/-! ### What a pairing reads -/

/-- **The key of a pairing.** `pair` calls the cipher with the first sixteen bytes of the hash
exactly where none of them is zero, or where it does not come to the cipher. -/
theorem pair_key_iff (lib : Libraries Certificate Key) (m : NvPairingManager Certificate Key)
    (around : Surroundings) (appVersion pin : String) (s : PairingState Certificate) :
    let hash := lib.hash (hashAlgo appVersion) (saltPin (around.random s.drawn 16) pin)
    All (BufferUse.KeyIs (hash.take 16)) (pairLog lib m around appVersion pin) s ↔
      ∀ getCert n, Begins lib around s.exchanges.length getCert n → ∀ b ∈ hash.take 16, b ≠ 0 := by
  intro hash
  rw [all_pairLog_keyIs, aesKey_eq_iff]

/-- With the salt of the sample pairing, the PIN 0113 hashes to a zero byte and more: the key
is empty. -/
theorem pin_loses_key :
    let lib := answeringLibraries hostResponse
    let salt := sampleSurroundings.random 0 16
    aesKey lib "7.1.431.-1" "0113" salt = [] ∧
      ¬ All (BufferUse.KeyIs ((lib.hash .sha256 (saltPin salt "0113")).take 16))
        (pairLog lib sampleManager sampleSurroundings "7.1.431.-1" "0113") sampleState := by
  intro lib salt
  have hkey : aesKey lib "7.1.431.-1" "0113" salt = [] := by decide +kernel
  refine ⟨hkey, fun h => ?_⟩
  have hhash : aesKey lib "7.1.431.-1" "0113" salt =
      (lib.hash .sha256 (saltPin salt "0113")).take 16 :=
    all_pairLog_keyIs.mp h sampleXml 1 (answering_begins hostResponse)
  rw [hkey] at hhash
  exact absurd hhash (by decide +kernel)

/-- **The bounds of a pairing.** `pair` reads within bounds exactly where the version is not
empty, the hash of the salted PIN has no zero byte before its last place in the key, and the
answer to the challenge is refused or long enough; and input that lacks a part is not paired. -/
theorem pair_inBounds_iff (lib : Libraries Certificate Key) (m : NvPairingManager Certificate Key)
    (around : Surroundings) (hsized : Sized lib around) (appVersion pin : String)
    (s : PairingState Certificate) :
    All BufferUse.InBounds (pairLog lib m around appVersion pin) s ∧
        (¬ Complete lib around appVersion s.exchanges.length →
          (exec (pair lib m around appVersion pin) s).1 ≠ .ok .paired) ↔
      appVersion ≠ "" ∧
      ∀ getCert n, Begins lib around s.exchanges.length getCert n →
        (∀ b ∈ (lib.hash (hashAlgo appVersion)
          (saltPin (around.random s.drawn 16) pin)).take 15, b ≠ 0) ∧
        ResponseFits lib around appVersion n := by
  rw [and_iff_left (mt (pair_complete hsized)), all_pairLog_inBounds hsized]

/-- The sample pairing: 48 bytes answer the challenge. -/
theorem sample_inBounds :
    All BufferUse.InBounds (pairLog (answeringLibraries hostResponse) sampleManager
      sampleSurroundings "7.1.431.-1" "1234") sampleState := by
  refine ((pair_inBounds_iff (answeringLibraries hostResponse) sampleManager sampleSurroundings
    (answering_sized hostResponse) "7.1.431.-1" "1234" sampleState).mpr ⟨by decide, ?_⟩).1
  intro getCert n hbegins
  refine ⟨by decide +kernel, fun challengeXml hanswer _ => .inr ?_⟩
  rw [answering_answer, Except.ok.injEq] at hanswer
  rw [← hanswer, answering_challengeresponse]
  decide +kernel

/-- Nothing answers a version without a number, the key of PIN 0113 is empty, and an answer
with the hash only has no sixteen bytes behind it. -/
theorem unguarded_reads :
    ¬ All BufferUse.InBounds (pairLog (answeringLibraries hostResponse) sampleManager
        sampleSurroundings "" "1234") sampleState ∧
      ¬ All BufferUse.InBounds (pairLog (answeringLibraries hostResponse) sampleManager
        sampleSurroundings "7.1.431.-1" "0113") sampleState ∧
      ¬ All BufferUse.InBounds (pairLog (answeringLibraries (hostResponse.take 32)) sampleManager
        sampleSurroundings "7.1.431.-1" "1234") sampleState := by
  rw [all_pairLog_inBounds (answering_sized _), all_pairLog_inBounds (answering_sized _),
    all_pairLog_inBounds (answering_sized _)]
  refine ⟨fun h => h.1 rfl, fun h => ?_, fun h => ?_⟩
  · exact absurd (h.2 sampleXml 1 (answering_begins _)).1 (by decide +kernel)
  · have hfits := (h.2 sampleXml 1 (answering_begins _)).2 sampleXml (answering_answer _ 1)
      (answering_paired _)
    rw [answering_challengeresponse] at hfits
    exact absurd hfits (by decide +kernel)

end NvPairingManager

end GilStreaming.Client
