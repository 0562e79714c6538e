import GilStreaming.Lib.Lifetimes
import GilStreaming.Lib.Triples
import GilStreaming.Streaming.Session

/-!
# GilStreaming.Streaming.DecoderSetup

How `FFmpegVideoDecoder` of `ffmpeg.cpp` sets itself up: `initialize`, which searches FFmpeg's
codecs for one that works, `reset`, and what they call.

FFmpeg, SDL and the renderers are outside. Their answers may depend on everything that has been
done before, so an answer is a function of the log (`Outside`). Where a function of the source
returns `false`, the program fails here with the state as it is then, and what it fails with is
the `InitFailureReason` that the source hands back through a pointer.
-/

namespace GilStreaming.Streaming.DecoderSetup

open Fallible

/-! ### FFmpeg -/

/-- `AV_PIX_FMT_NONE` is `none` of an option. -/
inductive AVPixelFormat where
  | drmPrime
  | other (id : Nat)
deriving DecidableEq, Repr

inductive AVHWDeviceType where
  | vdpau | cuda | vaapi | dxva2 | qsv | videotoolbox | d3d11va | drm | vulkan | d3d12va
  | other (id : Nat)
deriving DecidableEq, Repr

structure AVCodecHWConfig where
  pixFmt : AVPixelFormat
  /-- `methods & AV_CODEC_HW_CONFIG_METHOD_HW_DEVICE_CTX`. -/
  hwDeviceCtx : Bool
  deviceType : AVHWDeviceType
deriving DecidableEq, Repr

inductive AVCodecID where
  | h264 | hevc | av1
  | other (id : Nat)
deriving DecidableEq, Repr

structure AVCodec where
  name : String
  id : AVCodecID
  /-- `av_codec_is_decoder`. -/
  isDecoder : Bool
  /-- `capabilities & AV_CODEC_CAP_HARDWARE`. -/
  capHardware : Bool
  /-- `avcodec_get_hw_config`. -/
  hwConfigs : List AVCodecHWConfig
  /-- The output formats, where FFmpeg knows them. -/
  pixFmts : Option (List AVPixelFormat)
deriving DecidableEq, Repr

/-- `getAVCodecCapabilities(codec) & AV_CODEC_CAP_HARDWARE`. -/
def AVCodec.isHardware (codec : AVCodec) : Bool :=
  codec.capHardware || "_omx".toList.isSuffixOf codec.name.toLower.toList

/-! ### Renderers -/

inductive RendererType where
  | unknown | vulkan | cuda | d3d11va | drm | dxva2 | egl | mmal | sdl | vaapi | vdpau
  | vtSampleLayer | vtMetal
deriving DecidableEq, Repr

inductive InitFailureReason where
  | unknown | noHardwareSupport | noSoftwareSupport
deriving DecidableEq, Repr

/-- A constructor of a renderer, with its arguments but for the backend renderer. -/
inductive RendererKind where
  | d3d11va (pass : Nat)
  | dxva2 (pass : Nat)
  | vaapi (pass : Nat)
  | vdpau (pass : Nat)
  | cuda
  | drm (deviceType : Option AVHWDeviceType)
  | plVk (deviceType : Option AVHWDeviceType)
  | vtMetal (hwAccel : Bool)
  | vtSampleLayer
  | genericHwAccel (deviceType : AVHWDeviceType)
  | egl
  | mmal
  | sdl
deriving DecidableEq, Repr

/-- `getRendererType`. -/
def RendererKind.type : RendererKind → RendererType
  | d3d11va _ => .d3d11va
  | dxva2 _ => .dxva2
  | vaapi _ => .vaapi
  | vdpau _ => .vdpau
  | cuda => .cuda
  | drm _ => .drm
  | plVk _ => .vulkan
  | vtMetal _ => .vtMetal
  | vtSampleLayer => .vtSampleLayer
  | genericHwAccel _ => .unknown
  | egl => .egl
  | mmal => .mmal
  | sdl => .sdl

structure Renderer where
  id : Nat
  kind : RendererKind
  /-- Created to show the frames of another renderer. -/
  isFrontend : Bool
deriving DecidableEq, Repr

/-- What is asked of a renderer: its attributes, and what else it says of itself. -/
inductive RendererAttribute where
  | hdrSupport | forcePacing | canExportEGL | canExportDrmPrime | isDirectRenderingSupported
  | referenceFrameInvalidationAvc
deriving DecidableEq, Repr

/-! ### The machine and the settings -/

structure DecoderParameters where
  vds : VideoDecoderSelection
  renderer : RendererSelection
  videoFormat : VideoFormat
  width : Int
  height : Int
  frameRate : Int
  enableVsync : Bool
  enableFramePacing : Bool
deriving DecidableEq, Repr

/-- The macros of the build, and what is read from the environment. -/
structure Machine extends Platform where
  haveEgl : Bool
  haveDrm : Bool
  haveLibplaceboVulkan : Bool
  haveLibva : Bool
  haveLibvdpau : Bool
  haveCuda : Bool
  haveMmal : Bool
  allowEglWithMmal : Bool
  glIsSlow : Bool
  vulkanIsSlow : Bool
  /-- `PREFER_VULKAN` is `1`. -/
  preferVulkan : Bool
  /-- `SEPARATE_TEST_DECODER`, where it is set. -/
  separateTestDecoder : Option Bool
  h264DecoderHint : String
  hevcDecoderHint : String
  av1DecoderHint : String
  cpuCount : Nat
deriving DecidableEq, Repr

/-! ### The decoder -/

/-- An `AVCodecContext`. -/
structure Context where
  id : Nat
  codec : AVCodec
  threadCount : Nat
  width : Int
  height : Int
  pixFmt : Option AVPixelFormat
deriving DecidableEq, Repr

/-- What the decoder creates and deletes. `overlay` is the place of a renderer in the overlay
manager. -/
inductive Part where
  | renderer (renderer : Renderer)
  | overlay (renderer : Renderer)
  | context (context : Context)
  | pacer (id : Nat)
  | thread (id : Nat)
deriving DecidableEq, Repr

/-- What is asked outside. -/
inductive Question where
  | initializeRenderer (renderer : Renderer) (params : DecoderParameters)
  | hasAttribute (renderer : Renderer) (which : RendererAttribute)
  | pacerInitialize (pacer : Nat) (frontend : Renderer) (frameRate : Int) (enablePacing : Bool)
  | allocContext (codec : AVCodec)
  | prepareDecoderContext (backend : Renderer) (context : Context)
  | openCodec (context : Context) (hwDecodeCfg : Option AVCodecHWConfig)
      (requiredPixelFormat : Option AVPixelFormat)
  | allocFrame
  | sendPacket (context : Context) (testFrame : VideoFormat)
  | testRenderFrame (frontend : Renderer)
  | createThread
deriving DecidableEq, Repr

/-- `avcodec_receive_frame`. -/
inductive ReceivedFrame where
  | frame | again | error
deriving DecidableEq, Repr

/-- The arguments of `tryInitializeRenderer`. No `kind` is a function that creates none. -/
structure Candidate where
  codec : AVCodec
  requiredFormat : Option AVPixelFormat
  hwConfig : Option AVCodecHWConfig
  kind : Option RendererKind
deriving DecidableEq, Repr

inductive Act where
  | new (part : Part)
  | delete (part : Part)
  | ask (question : Question) (answer : Bool)
  | getInitFailureReason (renderer : Renderer) (reason : InitFailureReason)
  | receiveFrame (context : Context) (result : ReceivedFrame)
  | prepareToRender (frontend : Renderer)
  | setOverlayRenderer (old new : Option Renderer)
  /-- `tryInitializeRenderer` returns `false`. -/
  | gaveUp (candidate : Candidate) (reason : InitFailureReason)
deriving DecidableEq, Repr

inductive TestMode where
  | noTesting | testFrameOnly | testFrame
deriving DecidableEq, Repr

/-- `FFmpegVideoDecoder`, its renderer in the overlay manager, and the local variable
`terminallyFailedHardwareDecoders` of `initialize`. -/
structure Decoder where
  testOnly : Bool
  videoDecoderCtx : Option Context
  requiredPixelFormat : Option AVPixelFormat
  hwDecodeCfg : Option AVCodecHWConfig
  backendRenderer : Option Renderer
  frontendRenderer : Option Renderer
  pacer : Option Nat
  failedRenderers : List RendererType
  originalVideoWidth : Int
  originalVideoHeight : Int
  streamFps : Int
  videoFormat : Option VideoFormat
  needsSpsFixup : Bool
  currentTestMode : TestMode
  decoderThread : Option Nat
  overlayRenderer : Option Renderer
  terminallyFailed : List AVCodec
  /-- How many parts there have been. -/
  created : Nat
  log : List Act
deriving DecidableEq, Repr

structure Outside where
  /-- What `av_codec_iterate` runs through. -/
  codecs : List AVCodec
  preferredPixelFormat : RendererKind → VideoFormat → AVPixelFormat
  isPixelFormatSupported : RendererKind → VideoFormat → AVPixelFormat → Bool
  isZeroCopyFormat : AVPixelFormat → Bool
  answer : List Act → Question → Bool
  initFailureReason : List Act → Renderer → InitFailureReason
  receiveFrame : List Act → Context → ReceivedFrame

abbrev Setup := Fallible InitFailureReason Decoder

namespace Decoder

def new (testOnly : Bool) : Decoder where
  testOnly := testOnly
  videoDecoderCtx := none
  requiredPixelFormat := none
  hwDecodeCfg := none
  backendRenderer := none
  frontendRenderer := none
  pacer := none
  failedRenderers := []
  originalVideoWidth := 0
  originalVideoHeight := 0
  streamFps := 0
  videoFormat := none
  needsSpsFixup := false
  currentTestMode := .testFrameOnly
  decoderThread := none
  overlayRenderer := none
  terminallyFailed := []
  created := 0
  log := []

def did (d : Decoder) (act : Act) : Decoder := { d with log := d.log ++ [act] }

def newBackend (kind : RendererKind) (d : Decoder) : Decoder :=
  { d with
    backendRenderer := some ⟨d.created, kind, false⟩
    created := d.created + 1 }.did (.new (.renderer ⟨d.created, kind, false⟩))

def newFrontend (kind : RendererKind) (d : Decoder) : Decoder :=
  { d with
    frontendRenderer := some ⟨d.created, kind, true⟩
    created := d.created + 1 }.did (.new (.renderer ⟨d.created, kind, true⟩))

def newPacer (d : Decoder) : Decoder :=
  { d with
    pacer := some d.created
    created := d.created + 1 }.did (.new (.pacer d.created))

def newContext (context : Context) (d : Decoder) : Decoder :=
  { d with
    videoDecoderCtx := some context
    created := d.created + 1 }.did (.new (.context context))

def newThread (d : Decoder) : Decoder :=
  { d with
    decoderThread := some d.created
    created := d.created + 1 }.did (.new (.thread d.created))

def setOverlayRenderer (renderer : Option Renderer) (d : Decoder) : Decoder :=
  { d with overlayRenderer := renderer }.did (.setOverlayRenderer d.overlayRenderer renderer)

def deleteThread (d : Decoder) : Decoder :=
  match d.decoderThread with
  | some thread => { d with decoderThread := none }.did (.delete (.thread thread))
  | none => d

def deletePacer (d : Decoder) : Decoder :=
  match d.pacer with
  | some pacer => { d with pacer := none }.did (.delete (.pacer pacer))
  | none => d

def freeContext (d : Decoder) : Decoder :=
  match d.videoDecoderCtx with
  | some context => { d with videoDecoderCtx := none }.did (.delete (.context context))
  | none => d

/-- A frontend that is the backend too is left to `deleteBackend`. -/
def deleteFrontend (d : Decoder) : Decoder :=
  match d.frontendRenderer with
  | some frontend =>
    if d.backendRenderer = some frontend then { d with frontendRenderer := none }
    else { d with frontendRenderer := none }.did (.delete (.renderer frontend))
  | none => d

def deleteBackend (d : Decoder) : Decoder :=
  match d.backendRenderer with
  | some backend => { d with backendRenderer := none }.did (.delete (.renderer backend))
  | none => d

def unregister (d : Decoder) : Decoder :=
  if d.currentTestMode = .testFrameOnly then d else d.setOverlayRenderer none

def reset (d : Decoder) : Decoder :=
  d.deleteThread.deletePacer.freeContext.unregister.deleteFrontend.deleteBackend

/-- With a codec, since the context has it. -/
def isHardwareAccelerated (d : Decoder) (codec : AVCodec) : Bool :=
  d.hwDecodeCfg.isSome || codec.isHardware

end Decoder

section Programs

variable (out : Outside) (m : Machine)

/-! ### Calls -/

def ask (question : Question) : Setup Bool := do
  let d ← get
  set (d.did (.ask question (out.answer d.log question)))
  return out.answer d.log question

/-- Fail unless the answer is yes. -/
def require (question : Question) : Setup Unit := do
  let ok ← ask out question
  ensure ok .unknown

def getInitFailureReason (renderer : Renderer) : Setup InitFailureReason := do
  let d ← get
  set (d.did (.getInitFailureReason renderer (out.initFailureReason d.log renderer)))
  return out.initFailureReason d.log renderer

def receiveFrame (context : Context) : Setup ReceivedFrame := do
  let d ← get
  set (d.did (.receiveFrame context (out.receiveFrame d.log context)))
  return out.receiveFrame d.log context

/-- The parts that a function uses. It is not called where they are null. -/
def withPart {α β : Type} (part : Decoder → Option α) (f : α → Setup β) : Setup β := do
  let d ← get
  match part d with
  | some x => f x
  | none => throw .unknown

/-! ### Renderers -/

def initializeRendererInternal (renderer : Renderer) (params : DecoderParameters) :
    Setup Unit := do
  let d ← get
  if renderer.kind.type ≠ .unknown ∧ renderer.kind.type ∈ d.failedRenderers then throw .unknown
  else
    let ok ← ask out (.initializeRenderer renderer params)
    if ok then pure ()
    else
      let reason ← getInitFailureReason out renderer
      -- Without software support it fails for every codec, so the type is skipped from now on.
      modify fun d =>
        if reason = .noSoftwareSupport then
          { d with failedRenderers := renderer.kind.type :: d.failedRenderers }
        else d
      throw .unknown

/-- Create a frontend renderer. It is deleted again where it cannot be used. -/
def tryFrontend (kind : RendererKind) (params : DecoderParameters) (hdr : Bool) :
    Setup Unit := do
  modify (Decoder.newFrontend kind)
  tryCatch
    (withPart Decoder.frontendRenderer fun frontend => do
      initializeRendererInternal out frontend params
      onlyIf hdr (require out (.hasAttribute frontend .hdrSupport)))
    fun _ => do
      modify Decoder.deleteFrontend
      throw .unknown

/-- The frontends that show the surfaces of the backend without a copy. -/
def alternateFrontends (backend : Renderer) (params : DecoderParameters) : List (Setup Unit) :=
  (if params.videoFormat.is10Bit then
    -- Only a frontend that supports HDR will do.
    (if m.haveLibplaceboVulkan && !m.vulkanIsSlow then
      [tryFrontend out (.plVk none) params true] else []) ++
    (if m.haveDrm then
      [do require out (.hasAttribute backend .canExportDrmPrime)
          tryFrontend out (.drm none) params true] else []) ++
    (if m.haveLibplaceboVulkan && m.vulkanIsSlow then
      [tryFrontend out (.plVk none) params true] else [])
  else if m.haveLibplaceboVulkan && m.preferVulkan then
    [tryFrontend out (.plVk none) params false]
  else []) ++
  if m.haveEgl && !m.glIsSlow then
    [do require out (.hasAttribute backend .canExportEGL)
        tryFrontend out .egl params false]
  else []

/-- The frontends for a backend that cannot draw. The last one is left to `reset` where it
fails. -/
def indirectFrontends (backend : Renderer) (params : DecoderParameters) : List (Setup Unit) :=
  (if m.haveDrm && (m.glIsSlow || m.vulkanIsSlow) then
    [tryFrontend out (.drm none) params false] else []) ++
  (if m.haveEgl && m.glIsSlow then
    [do require out (.hasAttribute backend .canExportEGL)
        tryFrontend out .egl params false] else []) ++
  [do modify (Decoder.newFrontend .sdl)
      withPart Decoder.frontendRenderer fun frontend =>
        initializeRendererInternal out frontend params]

def createFrontendRenderer (params : DecoderParameters) (useAlternateFrontend : Bool) :
    Setup Unit :=
  withPart Decoder.backendRenderer fun backend =>
    if useAlternateFrontend ∧ backend.kind.type ≠ .vulkan then
      firstOf .unknown (alternateFrontends out m backend params)
    else do
      let direct ← ask out (.hasAttribute backend .isDirectRenderingSupported)
      if direct then modify fun d => { d with frontendRenderer := some backend }
      else firstOf .unknown (indirectFrontends out m backend params)

/-! ### `completeInitialization` -/

/-- The last argument of `Pacer::initialize`. -/
def enablePacing (frontend : Renderer) (params : DecoderParameters) : Setup Bool :=
  if params.enableFramePacing then pure true
  else if params.enableVsync then ask out (.hasAttribute frontend .forcePacing)
  else pure false

def createPacer (params : DecoderParameters) : Setup Unit :=
  withPart Decoder.frontendRenderer fun frontend => do
    modify Decoder.newPacer
    withPart Decoder.pacer fun pacer => do
      let pacing ← enablePacing out frontend params
      require out (.pacerInitialize pacer frontend params.frameRate pacing)

/-- `MAX_SLICES`. -/
def maxSlices : Nat := 4

/-- `getPreferredPixelFormat` of the frontend. The DRM, EGL and Vulkan renderers that show the
frames of another one ask that one. -/
def frontendPixelFormat (backend frontend : Renderer) (videoFormat : VideoFormat) :
    AVPixelFormat :=
  match frontend.isFrontend, frontend.kind with
  | true, .drm _ => out.preferredPixelFormat backend.kind videoFormat
  | true, .egl => out.preferredPixelFormat backend.kind videoFormat
  | true, .plVk _ => out.preferredPixelFormat backend.kind videoFormat
  | _, kind => out.preferredPixelFormat kind videoFormat

/-- The context that `completeInitialization` fills. -/
def contextFor (d : Decoder) (codec : AVCodec) (backend frontend : Renderer)
    (requiredFormat : Option AVPixelFormat) (params : DecoderParameters) : Context where
  id := d.created
  codec := codec
  threadCount := if d.isHardwareAccelerated codec then 1 else min maxSlices m.cpuCount
  width := params.width
  height := params.height
  pixFmt :=
    if d.hwDecodeCfg.isSome then none
    else requiredFormat <|> some (frontendPixelFormat out backend frontend params.videoFormat)

def openContext (codec : AVCodec) (requiredFormat : Option AVPixelFormat)
    (params : DecoderParameters) : Setup Unit :=
  withPart Decoder.backendRenderer fun backend =>
    withPart Decoder.frontendRenderer fun frontend => do
      require out (.allocContext codec)
      modify fun d => d.newContext
        (contextFor out m d codec backend frontend requiredFormat params)
      withPart Decoder.videoDecoderCtx fun context => do
        require out (.prepareDecoderContext backend context)
        let d ← get
        require out (.openCodec context d.hwDecodeCfg d.requiredPixelFormat)

/-- Some decoders do not output the first frame, so it is sent up to five times. -/
def receiveTestFrame (context : Context) (testFrame : VideoFormat) : Nat → Setup Unit
  | 0 => throw .unknown
  | retries + 1 => do
    require out (.sendPacket context testFrame)
    let result ← receiveFrame out context
    match result with
    | .frame => pure ()
    | .again => receiveTestFrame context testFrame retries
    | .error => throw .unknown

def decodeTestFrame (params : DecoderParameters) : Setup Unit :=
  withPart Decoder.videoDecoderCtx fun context =>
    withPart Decoder.frontendRenderer fun frontend => do
      require out .allocFrame
      receiveTestFrame out context params.videoFormat 5
      require out (.testRenderFrame frontend)

/-- The value of `m_NeedsSpsFixup`. -/
def needsSpsFixup (backend : Renderer) (params : DecoderParameters) : Setup Bool :=
  if params.videoFormat.isH264 then do
    let invalidates ← ask out (.hasAttribute backend .referenceFrameInvalidationAvc)
    return !invalidates
  else pure false

def startRendering (params : DecoderParameters) : Setup Unit :=
  withPart Decoder.backendRenderer fun backend =>
    withPart Decoder.frontendRenderer fun frontend => do
      let fixup ← needsSpsFixup out backend params
      modify fun d =>
        (({ d with needsSpsFixup := fixup }.setOverlayRenderer (some frontend)).did
          (.prepareToRender frontend))
      require out .createThread
      modify Decoder.newThread

def completeInitialization (codec : AVCodec) (requiredFormat : Option AVPixelFormat)
    (params : DecoderParameters) (testMode : TestMode) (useAlternateFrontend : Bool) :
    Setup Unit := do
  createFrontendRenderer out m params useAlternateFrontend
  modify fun d => { d with
    requiredPixelFormat := requiredFormat
    originalVideoWidth := params.width
    originalVideoHeight := params.height
    streamFps := params.frameRate
    videoFormat := some params.videoFormat
    currentTestMode := testMode }
  onlyIf (testMode ≠ .testFrameOnly) (createPacer out params)
  openContext out m codec requiredFormat params
  onlyIf (testMode ≠ .noTesting) (decodeTestFrame out params)
  onlyIf (testMode ≠ .testFrameOnly) (startRendering out params)

/-! ### Candidates -/

def isSeparateTestDecoderRequired (codec : AVCodec) : Bool :=
  match m.separateTestDecoder with
  | some value => value
  | none => codec.isHardware || codec.name = "av1"

/-- The parameters of the test, with the size of the test frame where the test has its own
decoder. -/
def testFrameDecoderParams (codec : AVCodec) (params : DecoderParameters) : DecoderParameters :=
  if isSeparateTestDecoderRequired m codec then { params with width := 1280, height := 720 }
  else params

def initializeBackend (params : DecoderParameters) : Setup Unit :=
  withPart Decoder.backendRenderer fun backend => initializeRendererInternal out backend params

/-- The test, and the decoder for the stream where the test has had its own. -/
def testThenSetUp (c : Candidate) (kind : RendererKind) (params : DecoderParameters)
    (useAlternateFrontend : Bool) : Setup Unit := do
  let d ← get
  completeInitialization out m c.codec c.requiredFormat (testFrameDecoderParams m c.codec params)
    (if d.testOnly || isSeparateTestDecoderRequired m c.codec then .testFrameOnly else .testFrame)
    useAlternateFrontend
  onlyIf (!d.testOnly && isSeparateTestDecoderRequired m c.codec) do
    -- The test worked, so everything is made again, for the size of the stream.
    modify Decoder.reset
    modify (Decoder.newBackend kind)
    initializeBackend out params
    completeInitialization out m c.codec c.requiredFormat params .noTesting useAlternateFrontend

/-- The loop of `tryInitializeRenderer`, over the values of `useAlternateFrontend`. -/
def tryFrontends (c : Candidate) (params : DecoderParameters) :
    List Bool → InitFailureReason → Setup Unit
  | [], reason => throw reason
  | useAlternateFrontend :: rest, reason =>
    match c.kind with
    | none => throw reason
    | some kind => do
      modify (Decoder.newBackend kind)
      let initialized ← succeeds (initializeBackend out (testFrameDecoderParams m c.codec params))
      let works ← succeeds do
        ensure initialized .unknown
        testThenSetUp out m c kind params useAlternateFrontend
      if works then pure ()
      else
        let reason ← withPart Decoder.backendRenderer (getInitFailureReason out)
        modify Decoder.reset
        -- Another frontend is of no use to a backend that does not start.
        if initialized then tryFrontends c params rest reason else throw reason

def frontendModes : List Bool :=
  if m.unix && !m.darwin && (m.haveEgl || m.haveDrm || m.haveLibplaceboVulkan) then [true, false]
  else [false]

def tryInitializeRenderer (c : Candidate) (params : DecoderParameters) : Setup Unit := do
  modify fun d => { d with hwDecodeCfg := c.hwConfig }
  tryCatch (tryFrontends out m c params (frontendModes m) .unknown) fun reason => do
    modify fun d => d.did (.gaveUp c reason)
    throw reason

/-! ### Codecs -/

def createHwAccelRenderer (config : AVCodecHWConfig) (params : DecoderParameters) (pass : Nat) :
    Option RendererKind :=
  if !config.hwDeviceCtx then none
  else match pass with
  | 0 =>
    if m.win32 ∧ config.deviceType = .d3d11va then some (.d3d11va 0)
    else if m.darwin ∧ config.deviceType = .videotoolbox then
      if m.haveLibplaceboVulkan ∧ (params.renderer = .auto ∨ params.renderer = .vulkan) then
        some (.plVk (some .videotoolbox))
      else if params.renderer = .avsbdl then some .vtSampleLayer
      else some (.vtMetal true)
    else if m.haveLibva ∧ config.deviceType = .vaapi then some (.vaapi 0)
    else if m.haveLibvdpau ∧ config.deviceType = .vdpau then some (.vdpau 0)
    else if m.haveDrm ∧ config.deviceType = .drm then some (.drm (some .drm))
    else if m.haveLibplaceboVulkan ∧ config.deviceType = .vulkan then some (.plVk (some .vulkan))
    else if m.haveDrm ∧ config.pixFmt = .drmPrime then some (.drm (some config.deviceType))
    else none
  | 1 =>
    if m.haveCuda ∧ config.deviceType = .cuda then some .cuda
    else if m.win32 ∧ config.deviceType = .dxva2 then some (.dxva2 1)
    else if m.win32 ∧ config.deviceType = .d3d11va then some (.d3d11va 1)
    else if m.darwin ∧ config.deviceType = .videotoolbox then some .vtSampleLayer
    else if m.haveLibva ∧ config.deviceType = .vaapi then some (.vaapi 1)
    else if m.haveLibvdpau ∧ config.deviceType = .vdpau then some (.vdpau 1)
    else none
  | 2 =>
    match config.deviceType with
    | .other _ =>
      if config.pixFmt ≠ .drmPrime then some (.genericHwAccel config.deviceType) else none
    | _ => none
  | _ => none

/-- A codec without support in hardware is not tried with further configurations. -/
def stopWithoutHardware (reason : InitFailureReason) : Setup Unit :=
  ensure (reason ≠ .noHardwareSupport) .noHardwareSupport

def hwAccelCandidate (codec : AVCodec) (params : DecoderParameters) (pass : Nat)
    (config : AVCodecHWConfig) : Candidate where
  codec := codec
  requiredFormat := none
  hwConfig := some config
  kind := createHwAccelRenderer m config params pass

def tryHwConfigs (codec : AVCodec) (params : DecoderParameters) (pass : Nat) : Setup Unit :=
  search (fun config => tryInitializeRenderer out m (hwAccelCandidate m codec params pass config)
    params) (fun _ => stopWithoutHardware) .unknown codec.hwConfigs

/-- The numbers up to `MAX_DECODER_PASS`. -/
def passes : List Nat := [0, 1, 2]

def tryHwAccelPasses (codec : AVCodec) (params : DecoderParameters) : Setup Unit :=
  search (tryHwConfigs out m codec params) (fun _ => stopWithoutHardware) .unknown passes

/-- `TRY_PREFERRED_PIXEL_FORMAT`. -/
def preferred (params : DecoderParameters) (kind : RendererKind) (format : AVPixelFormat) :
    List (RendererKind × Option AVPixelFormat) :=
  if out.preferredPixelFormat kind params.videoFormat = format then [(kind, some format)] else []

/-- `TRY_SUPPORTED_NON_PREFERRED_PIXEL_FORMAT`. -/
def supported (params : DecoderParameters) (kind : RendererKind) (format : AVPixelFormat) :
    List (RendererKind × Option AVPixelFormat) :=
  if format ≠ out.preferredPixelFormat kind params.videoFormat ∧
      out.isPixelFormatSupported kind params.videoFormat format then [(kind, some format)]
  else []

/-- The renderers that are tried for each format of a codec. -/
def usualRenderers : List RendererKind :=
  (if m.haveDrm then [.drm none] else []) ++
  (if m.haveLibplaceboVulkan && !m.vulkanIsSlow then [.plVk none] else []) ++
  if !m.glIsSlow then [.sdl] else []

/-- Renderers and formats without a hardware configuration, in the order in which they are
tried. -/
def pixelFormatCandidates (codec : AVCodec) (params : DecoderParameters) :
    List (RendererKind × Option AVPixelFormat) :=
  match codec.pixFmts with
  | none =>
    (if m.haveDrm && (m.glIsSlow || m.vulkanIsSlow) then [(.drm none, none)] else []) ++
    (if m.haveLibplaceboVulkan && !m.vulkanIsSlow then [(.plVk none, none)] else []) ++
    (if m.darwin then [(.vtMetal false, none)] else []) ++
    [(.sdl, none)]
  | some formats =>
    if codec.name = "h264_mmal" then
      if m.haveMmal then
        formats.flatMap (preferred out params .mmal) ++ formats.flatMap (supported out params .mmal)
      else []
    else
      (formats.flatMap fun format =>
        (usualRenderers m).flatMap fun kind => preferred out params kind format) ++
      (formats.flatMap fun format =>
        (usualRenderers m).flatMap fun kind => supported out params kind format) ++
      (if m.haveLibplaceboVulkan && m.vulkanIsSlow then
        formats.flatMap (preferred out params (.plVk none)) ++
          formats.flatMap (supported out params (.plVk none))
      else []) ++
      if m.glIsSlow then
        formats.flatMap (preferred out params .sdl) ++ formats.flatMap (supported out params .sdl)
      else []

def tryPixelFormats (codec : AVCodec) (params : DecoderParameters) : Setup Unit :=
  search (fun (kind, format) => tryInitializeRenderer out m ⟨codec, format, none, some kind⟩ params)
    (fun _ _ => pure ()) .unknown (pixelFormatCandidates out m codec params)

def tryInitializeRendererForUnknownDecoder (decoder : Option AVCodec)
    (params : DecoderParameters) (tryHwAccel : Bool) : Setup Unit :=
  match decoder with
  | none => throw .unknown
  | some codec =>
    if tryHwAccel then
      tryCatch (tryHwAccelPasses out m codec params) fun reason =>
        if reason = .noHardwareSupport then throw reason else tryPixelFormats out m codec params
    else tryPixelFormats out m codec params

def isDecoderMatchForParams (codec : AVCodec) (params : DecoderParameters) : Bool :=
  if m.haveMmal && !m.allowEglWithMmal && codec.name = "h264_v4l2m2m" then false
  else
    params.videoFormat.isH264 && codec.id = .h264 ||
      params.videoFormat.isH265 && codec.id = .hevc ||
      params.videoFormat.isAv1 && codec.id = .av1

/-- The codecs that are not skipped by the loops of `initialize`. -/
def isCandidate (params : DecoderParameters) (codec : AVCodec) : Bool :=
  codec.isDecoder && isDecoderMatchForParams m codec params

/-- `terminallyFailedHardwareDecoders.insert(decoder)`. -/
def noteTerminalFailure (codec : AVCodec) (reason : InitFailureReason) : Setup Unit :=
  modify fun d =>
    if reason = .noHardwareSupport then { d with terminallyFailed := codec :: d.terminallyFailed }
    else d

def tryInitializeHwAccelDecoder (params : DecoderParameters) (pass : Nat) : Setup Unit :=
  search
    (fun codec => do
      let d ← get
      if isCandidate m params codec ∧ codec.isHardware = false ∧ codec ∉ d.terminallyFailed then
        tryHwConfigs out m codec params pass
      else throw .unknown)
    noteTerminalFailure .unknown out.codecs

def hasZeroCopyFormat (codec : AVCodec) : Bool :=
  match codec.pixFmts with
  | some formats => formats.any out.isZeroCopyFormat
  | none => false

def tryInitializeNonHwAccelDecoder (params : DecoderParameters) (requireZeroCopyFormat : Bool) :
    Setup Unit :=
  search
    (fun codec => do
      let d ← get
      if isCandidate m params codec ∧ codec.isHardware = true ∧
          (requireZeroCopyFormat = true → hasZeroCopyFormat out codec = true) ∧
          codec ∉ d.terminallyFailed then
        tryInitializeRendererForUnknownDecoder out m (some codec) params true
      else throw .unknown)
    (fun _ _ => pure ()) .unknown out.codecs

/-! ### `initialize` -/

/-- A decoder that the user has named. -/
def tryHint (params : DecoderParameters) (isFormat : Mask) (hint : String) : Setup Unit :=
  if hint ≠ "" ∧ isFormat params.videoFormat then
    tryInitializeRendererForUnknownDecoder out m
      (out.codecs.find? fun codec => codec.isDecoder && codec.name = hint) params true
  else throw .unknown

def tryHardware (params : DecoderParameters) : Setup Unit := do
  modify fun d => { d with terminallyFailed := [] }
  firstOf .unknown [
    tryInitializeHwAccelDecoder out m params 0,
    tryInitializeNonHwAccelDecoder out m params true,
    tryInitializeNonHwAccelDecoder out m params false,
    tryInitializeHwAccelDecoder out m params 1,
    tryInitializeHwAccelDecoder out m params 2]

def trySoftware (params : DecoderParameters) : Setup Unit :=
  search
    (fun codec =>
      if isCandidate m params codec ∧ codec.isHardware = false then
        tryInitializeRendererForUnknownDecoder out m (some codec) params false
      else throw .unknown)
    (fun _ _ => pure ()) .unknown out.codecs

/-- `FFmpegVideoDecoder::initialize`. -/
def initializeDecoder (params : DecoderParameters) : Setup Unit :=
  firstOf .unknown [
    tryHint out m params VideoFormat.isH264 m.h264DecoderHint,
    tryHint out m params VideoFormat.isH265 m.hevcDecoderHint,
    tryHint out m params VideoFormat.isAv1 m.av1DecoderHint,
    if params.vds ≠ .forceSoftware then tryHardware out m params else throw .unknown,
    if params.vds ≠ .forceHardware then trySoftware out m params else throw .unknown]

end Programs

end GilStreaming.Streaming.DecoderSetup
