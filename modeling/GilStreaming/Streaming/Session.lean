import GilStreaming.Client.NvHttp
import GilStreaming.Streaming.VideoFormats

/-!
# GilStreaming.Streaming.Session

How `session.cpp` chooses the video format of a stream: the list of formats that
`Session::initialize` builds, `validateLaunch`, and what `initialize` does after it.

`Launch` is what a launch reads and never changes, `Session` what it changes. What
`chooseDecoder` and the audio renderers answer on this machine is part of the launch. The
checks of `validateLaunch` are functions of their own here, in the order of the source.
-/

namespace GilStreaming.Streaming

open SupportedVideoFormatList

/-! ### What a launch reads -/

inductive AudioConfig where
  | stereo | surround51 | surround71
deriving DecidableEq, Repr

/-- `CHANNEL_COUNT_FROM_AUDIO_CONFIGURATION`. -/
def AudioConfig.channelCount : AudioConfig → Nat
  | stereo => 2
  | surround51 => 6
  | surround71 => 8

inductive VideoCodecConfig where
  | auto | forceH264 | forceHevc | forceHevcHdrDeprecated | forceAv1
deriving DecidableEq, Repr

inductive VideoDecoderSelection where
  | auto | forceHardware | forceSoftware
deriving DecidableEq, Repr

inductive RendererSelection where
  | probeOnly | auto | vulkan | metal | avsbdl
deriving DecidableEq, Repr

structure StreamingPreferences where
  width : Int
  height : Int
  fps : Int
  audioConfig : AudioConfig
  videoCodecConfig : VideoCodecConfig
  videoDecoderSelection : VideoDecoderSelection
  rendererSelection : RendererSelection
  enableHdr : Bool
  enableYUV444 : Bool
  absoluteMouseMode : Bool
  configurationWarnings : Bool
deriving DecidableEq, Repr

/-- The host, as far as a launch looks at it. -/
structure Host where
  name : String
  isSupportedServerVersion : Bool
  isNvidiaServerSoftware : Bool
  gfeVersion : String
  maxLumaPixelsHEVC : Int
  serverCodecModeSupport : CodecModes

/-- The macros of the platform that the program is built for. -/
structure Platform where
  win32 : Bool
  unix : Bool
  darwin : Bool
  x86 : Bool
deriving DecidableEq, Repr

/-- Without HDR, AV1 is probed only on Windows and on a Linux or BSD that is not x86. -/
def Platform.avoidsAv1 (p : Platform) : Bool := !p.win32 && (!(p.unix && !p.darwin) || p.x86)

/-- `Session::DecoderAvailability`. -/
inductive DecoderAvailability where
  | none | software | hardware
deriving DecidableEq, Repr

structure Launch where
  preferences : StreamingPreferences
  computer : Host
  /-- `m_App.isAppCollectorGame`. -/
  isAppCollectorGame : Bool
  platform : Platform
  /-- `chooseDecoder` in its test mode, for a format, a width, a height and a frame rate: the
  decoder's `isHardwareAccelerated`, if there is a decoder. -/
  chooseDecoder : VideoDecoderSelection → RendererSelection → VideoFormat → Int → Int → Int →
    Option Bool
  testAudio : AudioConfig → Bool
  /-- `SdlInputHandler::getUnmappedGamepads` finds some. -/
  unmappedGamepads : Bool

/-! ### What a launch changes -/

structure Session where
  /-- `m_SupportedVideoFormats`. -/
  formats : List VideoFormat
  /-- `m_StreamConfig`, with the fields below. -/
  width : Int
  height : Int
  fps : Int
  audioConfiguration : AudioConfig
  /-- `m_StreamConfig.supportedVideoFormats`, once it is set. -/
  supportedVideoFormats : Option VideoFormat
  launchWarnings : List String
  /-- The texts of `displayLaunchError`. -/
  launchErrors : List String
deriving DecidableEq, Repr

namespace Session

variable (l : Launch) (s : Session)

def displayLaunchError (text : String) : Session :=
  { s with launchErrors := s.launchErrors ++ [text] }

def emitLaunchWarning (text : String) : Session :=
  if l.preferences.configurationWarnings then
    { s with launchWarnings := s.launchWarnings ++ [text] }
  else s

/-- A check that warns where `p` holds. -/
def warnIf (p : Bool) (text : String) : Session := if p then s.emitLaunchWarning l text else s

def getDecoderAvailability (f : VideoFormat) : DecoderAvailability :=
  match l.chooseDecoder l.preferences.videoDecoderSelection .probeOnly f s.width s.height s.fps with
  | none => .none
  | some false => .software
  | some true => .hardware

/-- `populateDecoderProperties`, of which only the success counts here. -/
def populateDecoderProperties : Bool :=
  match s.formats with
  | [] => false
  | f :: _ =>
      (l.chooseDecoder l.preferences.videoDecoderSelection l.preferences.rendererSelection f
        s.width s.height s.fps).isSome

/-! ### The list of formats -/

/-- All codecs and profiles in priority order. -/
def allFormats : List VideoFormat :=
  [.av1High10_444, .av1Main10, .h265Rext10_444, .h265Main10, .av1High8_444, .av1Main8,
    .h265Rext8_444, .h265, .h264High8_444, .h264]

/-- The HEVC and the AV1 format that `initialize` probes for 10 bits, and for 8. -/
def hevc10 : VideoFormat := if l.preferences.enableYUV444 then .h265Rext10_444 else .h265Main10

def hevc8 : VideoFormat := if l.preferences.enableYUV444 then .h265Rext8_444 else .h265

def av110 : VideoFormat := if l.preferences.enableYUV444 then .av1High10_444 else .av1Main10

def av18 : VideoFormat := if l.preferences.enableYUV444 then .av1High8_444 else .av1Main8

/-- The first probes of `VCC_AUTO`: the list, and `hevcDA`. -/
def probeHevc : List VideoFormat × DecoderAvailability :=
  let hevcDA := s.getDecoderAvailability l (if l.preferences.enableHdr then hevc10 l else hevc8 l)
  if hevcDA = .none ∧ l.preferences.enableHdr then
    -- remove all 10-bit HEVC profiles, and all 10-bit AV1 profiles if there is no support
    let formats := removeByMask allFormats fun f => f.isH265 && f.is10Bit
    if s.getDecoderAvailability l (av110 l) = .none then
      (removeByMask formats fun f => f.isAv1 && f.is10Bit, s.getDecoderAvailability l (hevc8 l))
    else (formats, hevcDA)
  else (allFormats, hevcDA)

/-- The order of HEVC and AV1 in `VCC_AUTO`. -/
def deprioritizeCodecs (formats : List VideoFormat) (hevcDA : DecoderAvailability) :
    List VideoFormat :=
  let formats :=
    if hevcDA ≠ .hardware ∧
        (l.preferences.videoDecoderSelection ≠ .forceSoftware ∨ !l.preferences.enableHdr) then
      deprioritizeByMask formats VideoFormat.isH265
    else formats
  if hevcDA = .hardware ∨ (l.platform.avoidsAv1 && !l.preferences.enableHdr) then
    deprioritizeByMask formats VideoFormat.isAv1
  else if !l.preferences.enableHdr ∧ s.getDecoderAvailability l (av18 l) ≠ .hardware then
    deprioritizeByMask formats VideoFormat.isAv1
  else formats

/-- GFE before 3.11. A version of a single number reads past the end of the list in the
source; here the missing number is zero. -/
def gfeTooOld : List Int → Bool
  | [] => true
  | major :: rest => major < 3 || (major == 3 && rest.headD 0 < 11)

/-- The list for `VCC_AUTO`. -/
def autoFormats : List VideoFormat :=
  let (formats, hevcDA) := s.probeHevc l
  let formats := s.deprioritizeCodecs l formats hevcDA
  if l.platform.darwin && gfeTooOld (Client.NvHttp.parseQuad l.computer.gfeVersion) then
    removeByMask formats VideoFormat.isH265
  else formats

/-- The list by the setting of the codec. -/
def codecFormats : List VideoFormat :=
  match l.preferences.videoCodecConfig with
  | .auto => s.autoFormats l
  | .forceH264 => removeByMask allFormats fun f => !f.isH264
  | .forceHevc | .forceHevcHdrDeprecated => removeByMask allFormats fun f => !f.isH265
  | .forceAv1 => removeByMask allFormats fun f => !(f.isAv1 || f.isH265)

/-- The list that `initialize` hands to `validateLaunch`. -/
def initialFormats : List VideoFormat :=
  let formats := s.codecFormats l
  let formats :=
    if !l.preferences.enableYUV444 then removeByMask formats VideoFormat.isYuv444
    else deprioritizeByMask formats fun f => !f.isYuv444
  if !l.preferences.enableHdr then removeByMask formats VideoFormat.is10Bit
  else deprioritizeByMask formats fun f => !f.is10Bit

/-! ### `validateLaunch` -/

/-- The warnings that no format depends on. -/
def checkSettings : Session :=
  (s.warnIf l (l.preferences.absoluteMouseMode && !l.isAppCollectorGame)
    "Your selection to enable remote desktop mouse mode may cause problems in games.").warnIf l
    (l.preferences.videoDecoderSelection = .forceSoftware)
    "Your settings selection to force software decoding may cause poor streaming performance."

/-- A forced codec that only a software decoder is there for. -/
def warnsSoftware (f : VideoFormat) : Bool :=
  !l.preferences.enableHdr && l.preferences.videoDecoderSelection = .auto &&
    l.preferences.videoCodecConfig ≠ .auto && s.getDecoderAvailability l f ≠ .hardware

def checkAv1 : Session :=
  if s.formats.any VideoFormat.isAv1 then
    if !common s.formats (fun m => l.computer.serverCodecModeSupport m && m.isAv1)
        (fun _ => true) then
      let s := s.warnIf l (l.preferences.videoCodecConfig = .forceAv1)
        "Your host software or GPU doesn't support encoding AV1."
      { s with formats := removeByMask s.formats VideoFormat.isAv1 }
    else
      let s := s.warnIf l (s.warnsSoftware l .av1Main8) <|
        "Using software decoding due to your selection to force AV1 without GPU support. " ++
          "This may cause poor streaming performance."
      if l.preferences.videoCodecConfig = .forceAv1 then
        { s with formats := removeByMask s.formats fun f => !f.isAv1 }
      else s
  else s

def checkHevc : Session :=
  if s.formats.any VideoFormat.isH265 then
    if l.computer.maxLumaPixelsHEVC = 0 then
      let s := s.warnIf l (l.preferences.videoCodecConfig = .forceHevc)
        "Your host PC doesn't support encoding HEVC."
      { s with formats := removeByMask s.formats VideoFormat.isH265 }
    else
      let s := s.warnIf l (s.warnsSoftware l .h265) <|
        "Using software decoding due to your selection to force HEVC without GPU support. " ++
          "This may cause poor streaming performance."
      if l.preferences.videoCodecConfig = .forceHevc then
        { s with formats := removeByMask s.formats fun f => !f.isH265 }
      else s
  else s

def checkH264 : Session :=
  if !(s.formats.any fun f => !f.isH264) && l.preferences.videoDecoderSelection = .auto &&
      s.getDecoderAvailability l .h264 ≠ .hardware then
    if l.preferences.videoCodecConfig = .forceH264 then
      s.emitLaunchWarning l <|
        "Using software decoding due to your selection to force H.264 without GPU support. " ++
          "This may cause poor streaming performance."
    else if l.computer.maxLumaPixelsHEVC = 0 ∧
        s.getDecoderAvailability l .h265 = .hardware then
      s.emitLaunchWarning l <|
        "Your host PC and client PC don't support the same video codecs. " ++
          "This may cause poor streaming performance."
    else
      s.emitLaunchWarning l <|
        "Your client GPU doesn't support H.264 decoding. " ++
          "This may cause poor streaming performance."
  else s

/-- One 10-bit profile of a forced codec that the host offers: `displayed` says that the
warning about software decoding has been shown. -/
def checkMain10 (f : VideoFormat) (codec : String) (s : Session × Bool) : Session × Bool :=
  if common s.1.formats (fun m => l.computer.serverCodecModeSupport m && m == f.codecMode)
      (fun _ => true) then
    if s.1.getDecoderAvailability l f = .none then
      let s' := s.1.emitLaunchWarning l <|
        "This PC's GPU doesn't support " ++ codec ++ " Main10 decoding for HDR streaming."
      ({ s' with formats := removeByMask s'.formats fun g => g == f }, s.2)
    else if s.1.getDecoderAvailability l f = .software ∧
        l.preferences.videoDecoderSelection ≠ .forceSoftware ∧ !s.2 then
      (s.1.emitLaunchWarning l <|
        "Using software decoding due to your selection to force HDR without GPU support. " ++
          "This may cause poor streaming performance.", true)
    else s
  else s

/-- The 10-bit formats of the list, against the setting, the host and the decoders. -/
def checkHdrProfiles : Session :=
  if l.preferences.videoCodecConfig = .forceH264 then
    let s := s.emitLaunchWarning l "HDR is not supported using the H.264 codec."
    { s with formats := removeByMask s.formats VideoFormat.is10Bit }
  else if !s.formats.any VideoFormat.is10Bit then
    s.emitLaunchWarning l
      "This PC's GPU doesn't support 10-bit HEVC or AV1 decoding for HDR streaming."
  else if !common s.formats (fun m => l.computer.serverCodecModeSupport m && m.is10Bit)
      (fun _ => true) then
    let s := s.emitLaunchWarning l "Your host PC doesn't support HDR streaming."
    { s with formats := removeByMask s.formats VideoFormat.is10Bit }
  else if l.preferences.videoCodecConfig ≠ .auto then
    (checkMain10 l .h265Main10 "HEVC" (checkMain10 l .av1Main10 "AV1" (s, false))).1
  else s

def checkHdr : Session :=
  if l.preferences.enableHdr then
    let s := s.checkHdrProfiles l
    if s.formats.any VideoFormat.is10Bit &&
        !common s.formats l.computer.serverCodecModeSupport VideoFormat.is10Bit then
      let s := s.emitLaunchWarning l
        "Your host PC and client PC don't support the same HDR video codecs."
      { s with formats := removeByMask s.formats VideoFormat.is10Bit }
    else s
  else s

/-- The loop over 4:4:4 formats at the front that cannot be decoded in hardware. -/
def skipYuv444 (formats : List VideoFormat) : Session :=
  match formats with
  | [] => { s with formats := [] }
  | f :: rest =>
      if f.isYuv444 && s.getDecoderAvailability l f ≠ .hardware then
        if l.preferences.videoDecoderSelection = .forceHardware then skipYuv444 rest
        else
          { s with formats := f :: rest }.emitLaunchWarning l <|
            "Using software decoding due to your selection to force YUV 4:4:4 " ++
              "without GPU support. This may cause poor streaming performance."
      else { s with formats := f :: rest }

/-- The list is not empty and its front is not a 4:4:4 format. -/
def frontIsYuv420 : Bool :=
  match s.formats with
  | [] => false
  | f :: _ => !f.isYuv444

def checkYuv444 : Session :=
  if l.preferences.enableYUV444 then
    if !ServerCodecMode.all.any fun m => l.computer.serverCodecModeSupport m && m.isYuv444 then
      let s := s.emitLaunchWarning l "Your host PC doesn't support YUV 4:4:4 streaming."
      { s with formats := removeByMask s.formats VideoFormat.isYuv444 }
    else
      let s := { s with
        formats := removeByMask s.formats fun f =>
          !maskByServerCodecModes s.formats l.computer.serverCodecModeSupport f }
      if s.frontIsYuv420 then
        s.emitLaunchWarning l
          "Your host PC doesn't support YUV 4:4:4 streaming for selected video codec."
      else if l.preferences.videoDecoderSelection ≠ .forceSoftware then
        let s := skipYuv444 l s s.formats
        s.warnIf l s.frontIsYuv420
          "This PC's GPU doesn't support YUV 4:4:4 decoding for selected video codec."
      else s
  else s

/-- Only GFE 3 and later streams in 4K. -/
def check4K : Session :=
  if s.width ≥ 3840 ∧
      (l.computer.gfeVersion.isEmpty || l.computer.gfeVersion.startsWith "2.") then
    { s.emitLaunchWarning l "GeForce Experience 3.0 or higher is required for 4K streaming." with
      width := 1920, height := 1080 }
  else s

def checkAudio : Session :=
  if l.testAudio s.audioConfiguration then s
  else if s.audioConfiguration.channelCount > 2 ∧ l.testAudio .stereo then
    { s with audioConfiguration := .stereo }.emitLaunchWarning l
      "Your selected surround sound setting is not supported by the current audio device."
  else
    s.emitLaunchWarning l
      "Failed to open audio device. Audio will be unavailable during this session."

def checkGamepads : Session :=
  s.warnIf l l.unmappedGamepads <|
    "An attached gamepad has no mapping and won't be usable. " ++
      "Visit the Moonlight help to resolve this."

/-- H.264 is the codec of last resort. -/
def lastResort : Session := if s.formats.isEmpty then { s with formats := [.h264] } else s

/-- The checks of `validateLaunch` that never fail the launch. -/
def checked : Session :=
  ((((((((s.checkSettings l).checkAv1 l).checkHevc l).checkH264 l).checkHdr l).checkYuv444 l
    |>.check4K l).checkAudio l).checkGamepads l).lastResort

/-- The last checks of `validateLaunch`. -/
def finalChecks : Bool × Session :=
  if (s.width > 4096 || s.height > 4096) && l.computer.isNvidiaServerSoftware &&
      (l.computer.maxLumaPixelsHEVC = 0 || !l.computer.serverCodecModeSupport .hevcMain10) then
    (false, s.displayLaunchError
      "Your host PC's GPU doesn't support streaming video resolutions over 4K.")
  else if (s.width > 4096 || s.height > 4096) && l.computer.isNvidiaServerSoftware &&
      !(s.formats.any fun f => !f.isH264) then
    (false, s.displayLaunchError
      "Video resolutions over 4K are not supported by the H.264 codec.")
  else if l.preferences.videoDecoderSelection = .forceHardware ∧
      !s.formats.any VideoFormat.is10Bit ∧
      s.formats.head?.all (fun f => s.getDecoderAvailability l f ≠ .hardware) then
    (false, s.displayLaunchError <|
      if l.preferences.videoCodecConfig = .auto then
        "Your selection to force hardware decoding cannot be satisfied due to missing " ++
          "hardware decoding support on this PC's GPU."
      else
        "Your codec selection and force hardware decoding setting are not compatible. " ++
          "This PC's GPU lacks support for decoding your chosen codec.")
  else (true, s)

def validateLaunch : Bool × Session :=
  if !l.computer.isSupportedServerVersion then
    (false, s.displayLaunchError <|
      "The version of GeForce Experience on " ++ l.computer.name ++
        " is not supported by this build of Moonlight. You must update Moonlight to stream from " ++
        l.computer.name ++ ".")
  else (s.checked l).finalChecks l

/-! ### `initialize` -/

/-- The stream that the settings ask for. -/
def requested : Session where
  formats := []
  width := l.preferences.width
  height := l.preferences.height
  fps := l.preferences.fps
  audioConfiguration := l.preferences.audioConfig
  supportedVideoFormats := none
  launchWarnings := []
  launchErrors := []

/-- The state in which `initialize` calls `validateLaunch`. -/
def prepared : Session := { requested l with formats := (requested l).initialFormats l }

/-- `initialize`, from the list of formats on. -/
def initializeSession : Bool × Session :=
  let (ret, s) := (prepared l).validateLaunch l
  if ret then
    let s := { s with supportedVideoFormats := s.formats.head? }
    (s.populateDecoderProperties l, s)
  else (false, s)

end Session

end GilStreaming.Streaming
