import GilStreaming.Client.NvComputer
import GilStreaming.Lib.QtText

/-!
# GilStreaming.Client.NvHttp

The requests of `app/backend/nvhttp.cpp` to a host, as far as pairing and a launch use them:
the request that `openConnection` makes, what it makes of the reply, and how the XML of a
reply is read.

Qt's reader of XML is a parameter, and so is whatever comes back from the network.
-/

namespace GilStreaming.Client

/-! ### Requests -/

/-- `m_BaseUrlHttp` or `m_BaseUrlHttps`. -/
inductive Scheme
  | http
  | https
  deriving DecidableEq, Repr

/-- A request, with the parts of its query. -/
structure Request where
  scheme : Scheme
  host : String
  port : UInt16
  command : String
  uniqueId : String
  /-- `QUuid::createUuid()` in hexadecimal digits. -/
  uuid : String
  arguments : Option String
  /-- No timeout if zero. -/
  timeoutMs : Nat
  deriving DecidableEq, Repr

/-- `NvHTTP`, with no certificate if it is null. -/
structure NvHttp (Certificate : Type) where
  address : NvAddress
  httpsPort : UInt16
  serverCert : Option Certificate
  uniqueIdOverride : String
  useTrueUid : Bool
  deriving DecidableEq, Repr

namespace NvHttp

variable {Certificate : Type}

def setServerCert (http : NvHttp Certificate) (serverCert : Certificate) : NvHttp Certificate :=
  { http with serverCert := some serverCert }

def setUniqueIdOverride (http : NvHttp Certificate) (uniqueId : String) : NvHttp Certificate :=
  { http with uniqueIdOverride := uniqueId }

/-- The request that `openConnection` makes, with the unique ID of the client. -/
def request (http : NvHttp Certificate) (uniqueId uuid : String) (scheme : Scheme)
    (command : String) (arguments : Option String) (timeoutMs : Nat) : Request where
  scheme := scheme
  host := http.address.address
  port :=
    match scheme with
    | .http => http.address.port
    | .https => http.httpsPort
  command := command
  uniqueId :=
    if !http.uniqueIdOverride.isEmpty then http.uniqueIdOverride
    else if http.useTrueUid then uniqueId
    else "0123456789ABCDEF"
  uuid := uuid
  arguments := arguments
  timeoutMs := timeoutMs

/-- `NvHTTP::parseQuad`. Old versions of GFE have no version text. -/
def parseQuad (quad : String) : List Int :=
  if quad.isEmpty then []
  else (quad.toList.splitOn '.').map fun part => QString.toInt (String.ofList part)

example : parseQuad "7.1.431.-1" = [7, 1, 431, -1] := by decide +kernel

end NvHttp

/-! ### Replies -/

/-- `QNetworkReply::NetworkError`, without `NoError`. -/
inductive ReplyError
  | timeout
  | operationCanceled
  | sslHandshakeFailed
  | other (code : Int)
  deriving DecidableEq, Repr

/-- The number of the error. -/
def ReplyError.code : ReplyError → Int
  | timeout => 4
  | operationCanceled => 5
  | sslHandshakeFailed => 6
  | other code => code

/-- The exceptions of a request, and the one of an OpenSSL object that is null. -/
inductive HttpException
  | gfeHttpResponse (statusCode : Int) (statusMessage : String)
  | qtNetworkReply (error : ReplyError) (errorText : String)
  | badAlloc
  deriving DecidableEq, Repr

/-- A reply at its end. One that does not come in time is aborted, which cancels it. -/
inductive Reply
  | finished (body : String)
  | failed (error : ReplyError) (errorString : String)
  deriving DecidableEq, Repr

/-- What `openConnectionToString` returns for a reply, or throws. -/
def Reply.toExcept : Reply → Except HttpException String
  | finished body => .ok body
  | failed .sslHandshakeFailed _ =>
      .error (.gfeHttpResponse 401 "Server certificate mismatch")
  | failed .operationCanceled _ => .error (.qtNetworkReply .timeout "Request timed out")
  | failed error errorString => .error (.qtNetworkReply error errorString)

theorem Reply.toExcept_ok {reply : Reply} {body : String} (h : reply.toExcept = .ok body) :
    reply = .finished body := by
  cases reply with
  | finished text => exact congrArg finished (Except.ok.inj h)
  | failed error text => cases error <;> cases h

/-! ### XML -/

/-- A start element, with the text that `readElementText` reads there. -/
structure XmlElement where
  name : String
  attributes : List (String × String)
  text : String
  deriving DecidableEq, Repr

/-- `attributes().value(name)`, which is empty if there is none. -/
def XmlElement.attribute (e : XmlElement) (name : String) : String :=
  ((e.attributes.find? fun a => a.1 == name).map Prod.snd).getD ""

/-- `QXmlStreamReader` on a text. -/
structure XmlReader where
  /-- All start elements that `readNext` comes to. -/
  startElements : String → List XmlElement
  /-- Those that `readNextStartElement` comes to before it returns false. -/
  leadingElements : String → List XmlElement

namespace XmlReader

variable (reader : XmlReader)

def getXmlString (xml tagName : String) : String :=
  (((reader.startElements xml).find? fun e => e.name == tagName).map XmlElement.text).getD ""

def getXmlStringFromHex (xml tagName : String) : QByteArray :=
  QByteArray.fromHex (reader.getXmlString xml tagName)

def verifyResponseStatus (xml : String) : Except HttpException Unit :=
  match (reader.leadingElements xml).find? fun e => e.name == "root" with
  | none => .error (.gfeHttpResponse (-1) "Malformed XML (missing root element)")
  | some root =>
      let statusCode := uintToInt (QString.toUInt (root.attribute "status_code"))
      let statusMessage := root.attribute "status_message"
      if statusCode = 200 then .ok ()
      else if statusCode = -1 ∧ statusMessage = "Invalid" then
        .error <| .gfeHttpResponse 418 <|
          "Missing audio capture device. " ++
            "Reinstalling GeForce Experience should resolve this error."
      else .error (.gfeHttpResponse statusCode statusMessage)

end XmlReader

end GilStreaming.Client
