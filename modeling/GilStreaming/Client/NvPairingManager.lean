import GilStreaming.Client.NvHttp
import GilStreaming.Lib.Fallible

/-!
# GilStreaming.Client.NvPairingManager

Pairing with a host, `app/backend/nvpairingmanager.cpp`, and `PendingPairingTask::run` of
`app/backend/computermanager.cpp`.

`pair` talks to the host in five stages. Here each stage is a definition, the rest of
`pair` from its request on, so that they stand in the reverse order. OpenSSL and the classes
of Qt are parameters: Qt and OpenSSL each read a certificate from its PEM text, and the two
readers are two functions. A certificate that is null is `none`. What the log says is left
out.
-/

namespace GilStreaming.Client

/-! ### Libraries -/

/-- `QCryptographicHash::Algorithm`, as far as pairing uses it. -/
inductive HashAlgorithm
  | sha1
  | sha256
  deriving DecidableEq, Repr

/-- What pairing uses of Qt and of OpenSSL. `Key` is an `EVP_PKEY`. -/
structure Libraries (Certificate Key : Type) where
  /-- `QCryptographicHash::hash`. -/
  hash : HashAlgorithm → QByteArray → QByteArray
  /-- `EVP_aes_128_ecb()` with a key and without padding. -/
  aesEncrypt : QByteArray → QByteArray → QByteArray
  aesDecrypt : QByteArray → QByteArray → QByteArray
  /-- `QSslCertificate(text)`. -/
  qSslCertificate : QByteArray → Option Certificate
  /-- `PEM_read_bio_X509`. -/
  pemReadX509 : QByteArray → Option Certificate
  /-- `PEM_read_bio_PrivateKey`. -/
  pemReadPrivateKey : QByteArray → Option Key
  /-- `X509_get0_signature`. -/
  signature : Certificate → QByteArray
  /-- `X509_get_pubkey`. -/
  publicKey : Certificate → Option Key
  /-- `EVP_DigestVerifyFinal(..) > 0` with SHA-256, for data and a signature. -/
  digestVerify : Key → QByteArray → QByteArray → Bool
  /-- `EVP_DigestSignFinal` with SHA-256. -/
  digestSign : Key → QByteArray → QByteArray
  xml : XmlReader

/-- `IdentityManager`. -/
structure Identity where
  certificate : QByteArray
  privateKey : QByteArray
  uniqueId : String
  deriving DecidableEq, Repr

/-- `NvPairingManager`, without `m_Http`. -/
structure NvPairingManager (Certificate Key : Type) where
  identity : Identity
  /-- `m_Cert`. -/
  cert : Certificate
  privateKey : Key

/-- What a run meets, by the number of requests, random draws and UUIDs so far. -/
structure Surroundings where
  reply : Nat → Reply
  /-- `RAND_bytes`, for a number of bytes. -/
  random : Nat → Nat → QByteArray
  /-- `QUuid::createUuid().toRfc4122().toHex()`. -/
  uuid : Nat → String
  /-- What lies in memory behind the bytes of an array. -/
  behind : QByteArray → QByteArray

/-- What `pair` changes. -/
structure PairingState (Certificate : Type) where
  /-- The argument of `pair`. -/
  serverCert : Option Certificate
  /-- `m_Http`. -/
  http : NvHttp Certificate
  /-- The requests so far, and what came back. -/
  exchanges : List (Request × Reply)
  drawn : Nat
  uuids : Nat
  deriving DecidableEq, Repr

abbrev Pairing (Certificate : Type) := Fallible HttpException (PairingState Certificate)

namespace NvPairingManager

/-- `NvPairingManager::PairState`. -/
inductive PairState
  | paired
  | pinWrong
  | failed
  | alreadyInProgress
  deriving DecidableEq, Repr

/-- `REQUEST_TIMEOUT_MS`. -/
def requestTimeoutMs : Nat := 5000

variable {Certificate Key : Type} (lib : Libraries Certificate Key)
  (m : NvPairingManager Certificate Key) (around : Surroundings)

/-- The constructor, or the text of its `std::runtime_error`. -/
def new (identity : Identity) : Except String (NvPairingManager Certificate Key) :=
  match lib.pemReadX509 identity.certificate with
  | none => .error "Unable to load certificate"
  | some cert =>
      match lib.pemReadPrivateKey identity.privateKey with
      | none => .error "Unable to load private key"
      | some privateKey => .ok ⟨identity, cert, privateKey⟩

/-! ### Bytes -/

def encrypt (plaintext key : QByteArray) : QByteArray :=
  if plaintext.isEmpty then [] else lib.aesEncrypt key plaintext

def decrypt (ciphertext key : QByteArray) : QByteArray :=
  if ciphertext.isEmpty then [] else lib.aesDecrypt key ciphertext

/-- The certificate is not null where it is called: `verifySignature` has read the text. -/
def getSignatureFromPemCert (certificate : QByteArray) : QByteArray :=
  ((lib.pemReadX509 certificate).map lib.signature).getD []

/-- `X509_get_pubkey` is null for a null certificate. -/
def verifySignature (data signature serverCertificate : QByteArray) :
    Except HttpException Bool :=
  match (lib.pemReadX509 serverCertificate).bind lib.publicKey with
  | none => .error .badAlloc
  | some pubKey => .ok (lib.digestVerify pubKey data signature)

def signMessage (message : QByteArray) : QByteArray := lib.digestSign m.privateKey message

def saltPin (salt : QByteArray) (pin : String) : QByteArray := salt ++ QString.toUtf8 pin

/-- Generation 7 and later hosts use SHA-256. -/
def hashAlgo (appVersion : String) : HashAlgorithm :=
  if (NvHttp.parseQuad appVersion).headD 0 ≥ 7 then .sha256 else .sha1

def hashLength (appVersion : String) : Nat :=
  if (NvHttp.parseQuad appVersion).headD 0 ≥ 7 then 32 else 20

/-- The hash goes through a `char *`, so that it ends before its first zero byte. -/
def aesKey (appVersion pin : String) (salt : QByteArray) : QByteArray :=
  ((lib.hash (hashAlgo appVersion) (saltPin salt pin)).takeWhile fun b => b ≠ 0).take 16

/-! ### Requests -/

def generateRandomBytes (length : Nat) : Pairing Certificate QByteArray := do
  let s ← get
  set { s with drawn := s.drawn + 1 }
  return around.random s.drawn length

def createUuid : Pairing Certificate String := do
  let s ← get
  set { s with uuids := s.uuids + 1 }
  return around.uuid s.uuids

def openConnectionToString (scheme : Scheme) (command : String) (arguments : Option String)
    (timeoutMs : Nat) : Pairing Certificate String := do
  let uuid ← createUuid around
  let s ← get
  let request := s.http.request m.identity.uniqueId uuid scheme command arguments timeoutMs
  let reply := around.reply s.exchanges.length
  set { s with exchanges := s.exchanges ++ [(request, reply)] }
  MonadExcept.ofExcept reply.toExcept

/-- The request of a stage, with its reply if that has status 200. -/
def pairRequest (scheme : Scheme) (arguments : String) (timeoutMs : Nat) :
    Pairing Certificate String := do
  let xml ← openConnectionToString m around scheme "pair"
    (some ("devicename=roth&updateState=1&" ++ arguments)) timeoutMs
  MonadExcept.ofExcept (lib.xml.verifyResponseStatus xml)
  return xml

/-- `getXmlString(xml, "paired") == "1"`. -/
def saysPaired (xml : String) : Bool := lib.xml.getXmlString xml "paired" == "1"

/-- The way out of a stage that fails after the first. -/
def unpair (result : PairState) : Pairing Certificate PairState := do
  let _ ← openConnectionToString m around .http "unpair" none requestTimeoutMs
  return result

/-! ### Stages -/

/-- `pair` from its fifth request on. -/
def pairChallenge (unverifiedServerCert : Certificate) : Pairing Certificate PairState := do
  let pairChallengeXml ← pairRequest lib m around .https "phrase=pairchallenge" requestTimeoutMs
  if saysPaired lib pairChallengeXml then
    modify fun s => { s with serverCert := some unverifiedServerCert }
    return .paired
  else unpair m around .failed

/-- `pair` from its fourth request on. -/
def clientPairingSecret (unverifiedServerCert : Certificate) (clientSecretData : QByteArray) :
    Pairing Certificate PairState := do
  let clientPairingSecret := clientSecretData ++ signMessage lib m clientSecretData
  let secretRespXml ← pairRequest lib m around .http
    ("clientpairingsecret=" ++ QByteArray.toHex clientPairingSecret) requestTimeoutMs
  if saysPaired lib secretRespXml then pairChallenge lib m around unverifiedServerCert
  else unpair m around .failed

/-- What the secret of the host has to hash to, with the signature of its certificate. -/
def expectedResponse (appVersion : String) (randomChallenge serverCertStr serverSecret :
    QByteArray) : QByteArray :=
  lib.hash (hashAlgo appVersion)
    (randomChallenge ++ getSignatureFromPemCert lib serverCertStr ++ serverSecret)

/-- `pair` from its third request on. -/
def serverChallengeResp (appVersion : String) (key serverCertStr : QByteArray)
    (unverifiedServerCert : Certificate) (randomChallenge challengeResponseData : QByteArray) :
    Pairing Certificate PairState := do
  let clientSecretData ← generateRandomBytes around 16
  let serverResponse := challengeResponseData.take (hashLength appVersion)
  -- sixteen bytes are read here, also where fewer are there
  let serverChallenge := ((challengeResponseData ++ around.behind challengeResponseData).drop
    (hashLength appVersion)).take 16
  let challengeResponse := serverChallenge ++ lib.signature m.cert ++ clientSecretData
  let hash := lib.hash (hashAlgo appVersion) challengeResponse
  let paddedHash := (hash ++ around.behind hash).take 32
  let respXml ← pairRequest lib m around .http
    ("serverchallengeresp=" ++ QByteArray.toHex (encrypt lib paddedHash key)) requestTimeoutMs
  if saysPaired lib respXml then
    let pairingSecret := lib.xml.getXmlStringFromHex respXml "pairingsecret"
    if pairingSecret.length ≤ 16 then unpair m around .failed
    else
      let serverSecret := pairingSecret.take 16
      let serverSignature := pairingSecret.drop 16
      let verified ← MonadExcept.ofExcept
        (verifySignature lib serverSecret serverSignature serverCertStr)
      if verified then
        if expectedResponse lib appVersion randomChallenge serverCertStr serverSecret =
            serverResponse then
          clientPairingSecret lib m around unverifiedServerCert clientSecretData
        else unpair m around .pinWrong
      else unpair m around .failed
  else unpair m around .failed

/-- `pair` from its second request on. -/
def clientChallenge (appVersion : String) (key serverCertStr : QByteArray)
    (unverifiedServerCert : Certificate) : Pairing Certificate PairState := do
  let randomChallenge ← generateRandomBytes around 16
  let challengeXml ← pairRequest lib m around .http
    ("clientchallenge=" ++ QByteArray.toHex (encrypt lib randomChallenge key)) requestTimeoutMs
  if saysPaired lib challengeXml then
    let challengeResponseData :=
      decrypt lib (lib.xml.getXmlStringFromHex challengeXml "challengeresponse") key
    if challengeResponseData.length < hashLength appVersion then unpair m around .failed
    else
      serverChallengeResp lib m around appVersion key serverCertStr unverifiedServerCert
        randomChallenge challengeResponseData
  else unpair m around .failed

/-- The two attempts at the first request. A host that keeps a pairing of this unique ID in
progress gets the second with a temporary one. -/
def getServerCert (salt : QByteArray) : Pairing Certificate String :=
  let attempt := pairRequest lib m around .http
    ("phrase=getservercert&salt=" ++ QByteArray.toHex salt ++ "&clientcert=" ++
      QByteArray.toHex m.identity.certificate) 0
  tryCatch attempt fun e =>
    match e with
    | .gfeHttpResponse 409 _ => do
        let temporaryUniqueId ← createUuid around
        modify fun s => { s with http := s.http.setUniqueIdOverride temporaryUniqueId }
        attempt
    | e => throw e

def pair (appVersion pin : String) : Pairing Certificate PairState := do
  let salt ← generateRandomBytes around 16
  let key := aesKey lib appVersion pin salt
  let getCert ← getServerCert lib m around salt
  if saysPaired lib getCert then
    let serverCertStr := lib.xml.getXmlStringFromHex getCert "plaincert"
    if serverCertStr.isEmpty then unpair m around .alreadyInProgress
    else
      match lib.qSslCertificate serverCertStr with
      | none => unpair m around .failed
      | some unverifiedServerCert => do
          -- pinned for TLS until pairing is complete
          modify fun s => { s with http := s.http.setServerCert unverifiedServerCert }
          clientChallenge lib m around appVersion key serverCertStr unverifiedServerCert
  else return .failed

end NvPairingManager

/-! ### The task -/

/-- What `PendingPairingTask` uses of its host. -/
structure PairingHost (Certificate : Type) where
  activeAddress : NvAddress
  activeHttpsPort : UInt16
  isNvidiaServerSoftware : Bool
  appVersion : String
  currentGameId : Int
  serverCert : Option Certificate
  pairState : PairState
  deriving DecidableEq, Repr

/-- Its signals. -/
inductive PairingSignal
  | computerStateChanged
  /-- Without an error if pairing has succeeded. -/
  | pairingCompleted (error : Option String)
  deriving DecidableEq, Repr

namespace PendingPairingTask

variable {Certificate Key : Type} (lib : Libraries Certificate Key) (identity : Identity)
  (around : Surroundings)

/-- The state in which `run` calls `pair`. -/
def start (c : PairingHost Certificate) : PairingState Certificate where
  serverCert := c.serverCert
  http := {
    address := c.activeAddress
    httpsPort := c.activeHttpsPort
    serverCert := c.serverCert
    uniqueIdOverride := ""
    useTrueUid := !c.isNvidiaServerSoftware }
  exchanges := []
  drawn := 0
  uuids := 0

/-- The error that `pairingCompleted` carries for a result. Nothing catches the exceptions of
the constructor and of OpenSSL. -/
def completion (c : PairingHost Certificate) :
    Except HttpException NvPairingManager.PairState → List PairingSignal
  | .ok .paired => [.computerStateChanged, .pairingCompleted none]
  | .ok .pinWrong =>
      [.pairingCompleted (some "The PIN from the PC didn't match. Please try again.")]
  | .ok .failed =>
      [.pairingCompleted <| some <|
        if c.currentGameId ≠ 0 then
          "You cannot pair while a previous session is still running on the host PC. " ++
            "Quit any running games or reboot the host PC, then try pairing again."
        else "Pairing failed. Please try again."]
  | .ok .alreadyInProgress =>
      [.pairingCompleted (some "Another pairing attempt is already in progress.")]
  | .error (.gfeHttpResponse statusCode statusMessage) =>
      [.pairingCompleted <| some <|
        "GeForce Experience returned error: " ++ statusMessage ++
          " (Error " ++ toString statusCode ++ ")"]
  | .error (.qtNetworkReply error errorText) =>
      [.pairingCompleted (some (errorText ++ " (Error " ++ toString error.code ++ ")"))]
  | .error .badAlloc => []

/-- The `switch` over the result of `pair`, which has changed the certificate of the host. -/
def finish (c : PairingHost Certificate)
    (r : Except HttpException NvPairingManager.PairState × PairingState Certificate) :
    PairingHost Certificate × List PairingSignal :=
  let c := { c with serverCert := r.2.serverCert }
  match r.1 with
  | .ok .paired => ({ c with pairState := .paired }, completion c r.1)
  | _ => (c, completion c r.1)

/-- `PendingPairingTask::run`: the host afterwards, and the signals. -/
def run (pin : String) (c : PairingHost Certificate) :
    PairingHost Certificate × List PairingSignal :=
  match NvPairingManager.new lib identity with
  | .error _ => (c, [])
  | .ok pairingManager =>
      finish c ((pairingManager.pair lib around c.appVersion pin).exec (start c))

end PendingPairingTask

end GilStreaming.Client
