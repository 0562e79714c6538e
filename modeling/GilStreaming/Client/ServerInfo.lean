import GilStreaming.Client.XmlItems
import GilStreaming.Lib.GoSplit

/-!
# GilStreaming.Client.ServerInfo

The host in a `serverinfo` reply: `NvComputer(NvHTTP&, QString)` of
`app/backend/nvcomputer.cpp`, with `getDisplayModeList` and `getCurrentGame` of `nvhttp.cpp`.

Qt's reader of XML and the list of supported versions are parameters, and so is `SCM_H264`,
which the streaming library defines.
-/

namespace GilStreaming

namespace QString

/-- `s.toUShort()`. -/
def toUShort (s : String) : UInt16 := if toUInt s < 65536 then UInt16.ofNat (toUInt s) else 0

/-- The digits of a hexadecimal number, which may have `0x` before them. -/
def hexDigits : List Char → List Char
  | '0' :: 'x' :: digits => digits
  | '0' :: 'X' :: digits => digits
  | digits => digits

/-- `s.toInt(&ok, 16)`, if it is `ok`. -/
def toIntHex? (s : String) : Option Int :=
  let (negative, text) := splitSign (trimSpace s.toList)
  match (hexDigits text).mapM QByteArray.hexValue with
  | none => none
  | some [] => none
  | some digits =>
      let n : Nat := digits.foldl (fun n digit => 16 * n + digit) 0
      let value : Int := if negative then -n else n
      if value < minInt32 ∨ maxInt32 < value then none else some value

example : (toIntHex? "1f", toIntHex? " 0xFF", toIntHex? "-1", toIntHex? "", toIntHex? "g0") =
    (some 31, some 255, some (-1), none, none) := by
  decide

/-- `s.toInt(nullptr, 16)`. -/
def toIntHex (s : String) : Int := (toIntHex? s).getD 0

/-- `s.split(c)`, which keeps empty parts. -/
def split (s : String) (c : Char) : List String := (s.toList.splitOn c).map String.ofList

end QString

namespace Client

/-- `DEFAULT_HTTPS_PORT`. -/
def defaultHttpsPort : UInt16 := 47984

namespace NvHttp

/-- The element `DisplayMode` and what is read in it. -/
def displayModeReader : ItemReader NvDisplayMode Empty where
  item := "DisplayMode"
  fields := ["Width", "Height", "RefreshRate"]
  start modes := .ok (modes ++ [⟨0, 0, 0⟩])
  setField mode name text :=
    let value := QString.toInt (text.getD "")
    if name = "Width" then { mode with width := value }
    else if name = "Height" then { mode with height := value }
    else { mode with refreshRate := value }

def getDisplayModeList (tokens : List XmlToken) : List NvDisplayMode :=
  match displayModeReader.read [] tokens with
  | .ok modes => modes

/-- The game is reported while the host streams. -/
def getCurrentGame (reader : XmlReader) (serverInfo : String) : Int :=
  if "_SERVER_BUSY".toList.isSuffixOf (reader.getXmlString serverInfo "state").toList then
    QString.toInt (reader.getXmlString serverInfo "currentgame")
  else 0

end NvHttp

/-- What a reply is read with. -/
structure ServerInfoReader where
  xml : XmlReader
  tokens : String → List XmlToken
  /-- `CompatFetcher::isGfeVersionSupported`. -/
  isGfeVersionSupported : String → Bool
  /-- `SCM_H264`. -/
  scmH264 : Int

namespace NvComputer

/-- The product by which the modes are sorted, a `uint64_t`. -/
def modeWeight (mode : NvDisplayMode) : Int :=
  mode.width * mode.height * mode.refreshRate % 18446744073709551616

/-- `mode` may stand before `mode'`. -/
def ModeNotAfter (mode mode' : NvDisplayMode) : Prop := ¬ modeWeight mode' < modeWeight mode

instance : DecidableRel ModeNotAfter :=
  fun mode mode' => inferInstanceAs (Decidable (¬ modeWeight mode' < modeWeight mode))

/-- An octet of `macAddress`. -/
def macByte (macOctet : String) : UInt8 := UInt8.ofNat (QString.toIntHex macOctet % 256).toNat

/-- The text of a host that has no address. -/
def noMacText : String := "00:00:00:00:00:00"

/-- The loop over the octets. -/
def parseMac (newMacString : String) : List UInt8 :=
  if newMacString ≠ noMacText then (QString.split newMacString ':').map macByte else []

/-- `NvComputer(NvHTTP&, QString)`. -/
def ofServerInfo (r : ServerInfoReader) (http : NvHttp String) (serverInfo : String) : NvComputer :=
  let value := r.xml.getXmlString serverInfo
  let httpPort := http.address.port
  let externalPort := QString.toUShort (value "ExternalPort")
  let externalPort := if externalPort = 0 then httpPort else externalPort
  { state := .online
    pairState := if value "PairStatus" = "1" then .paired else .notPaired
    activeAddress := http.address
    activeHttpsPort :=
      if QString.toUShort (value "HttpsPort") = 0 then defaultHttpsPort
      else QString.toUShort (value "HttpsPort")
    currentGameId := NvHttp.getCurrentGame r.xml serverInfo
    gfeVersion := value "GfeVersion"
    appVersion := value "appversion"
    displayModes :=
      (NvHttp.getDisplayModeList (r.tokens serverInfo)).insertionSort ModeNotAfter
    maxLumaPixelsHEVC :=
      if (value "MaxLumaPixelsHEVC").isEmpty then 0 else QString.toInt (value "MaxLumaPixelsHEVC")
    serverCodecModeSupport :=
      if (value "ServerCodecModeSupport").isEmpty then r.scmH264
      else QString.toInt (value "ServerCodecModeSupport")
    gpuModel := value "gputype"
    isSupportedServerVersion := r.isGfeVersionSupported (value "GfeVersion")
    -- an IPv4 loopback address is that of a forwarder
    localAddress :=
      if "127.".toList.isPrefixOf (value "LocalIP").toList then .null
      else ⟨value "LocalIP", httpPort⟩
    remoteAddress :=
      if (value "ExternalIP").isEmpty then .null else ⟨value "ExternalIP", externalPort⟩
    ipv6Address := .null
    manualAddress := .null
    macAddress := parseMac (value "mac")
    name := if (value "hostname").isEmpty then "UNKNOWN" else value "hostname"
    hasCustomName := false
    uuid := value "uniqueid"
    serverCert := http.serverCert.getD ""
    appList := []
    isNvidiaServerSoftware := contains (value "state").toList "MJOLNIR".toList
    externalPort := externalPort
    pendingQuit := false }

end NvComputer

end Client

end GilStreaming
