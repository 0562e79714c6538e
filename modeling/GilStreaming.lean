import GilStreaming.Coordinator.CrashSafety
import GilStreaming.Coordinator.FailureAtomicity
import GilStreaming.Coordinator.Isolation
import GilStreaming.Coordinator.Stability
import GilStreaming.Coordinator.Reclaim
import GilStreaming.Coordinator.Endpoints
import GilStreaming.Coordinator.RelayRevocation
import GilStreaming.Coordinator.Sessions
import GilStreaming.Coordinator.LoginSeparation
import GilStreaming.Coordinator.RelayAccess
import GilStreaming.Coordinator.Heartbeats
import GilStreaming.Coordinator.PairingRecords
import GilStreaming.Coordinator.Kick
import GilStreaming.Client.LoginHandoff
import GilStreaming.Client.Revocation
import GilStreaming.Client.Agreement
import GilStreaming.Client.Busy
import GilStreaming.Client.Switching
import GilStreaming.Client.TcpTunnel
import GilStreaming.Client.HostSaving
import GilStreaming.Client.HostSettings
import GilStreaming.Coordinator.RelayTail
import GilStreaming.Client.MessageSizes
import GilStreaming.Client.BridgeSetup
import GilStreaming.Client.PinnedCertificate
import GilStreaming.Coordinator.Allocation
import GilStreaming.Streaming.HdrMode
import GilStreaming.Streaming.CodecChoice
import GilStreaming.Streaming.HardwareChoice
import GilStreaming.Coordinator.AdminView
import GilStreaming.Coordinator.ConcurrentRefresh
import GilStreaming.Coordinator.SignedIn
import GilStreaming.Coordinator.PairingConversation
import GilStreaming.Coordinator.TurnURL
import GilStreaming.Coordinator.DotEnv
import GilStreaming.Streaming.PacerFrames
import GilStreaming.Streaming.PacerBound
import GilStreaming.Streaming.PacerWait
import GilStreaming.Streaming.FrameTiming
import GilStreaming.Streaming.VideoWindows
import GilStreaming.Client.AppModel
import GilStreaming.Client.HostRoundTrip
import GilStreaming.Client.HostMerge
import GilStreaming.Client.PairingBuffers
import GilStreaming.Client.AppList
import GilStreaming.Client.WakeOnLan
import GilStreaming.Streaming.StuckKeys
import GilStreaming.Streaming.RelativeTouch
import GilStreaming.Streaming.GamepadSlots
import GilStreaming.Streaming.MotionReports
import GilStreaming.Streaming.SingleController
import GilStreaming.Streaming.GamepadButtons
import GilStreaming.Streaming.BandwidthLog
import GilStreaming.Streaming.PasteText
import GilStreaming.Client.VersionCompare
import GilStreaming.Streaming.SpsFixup
import GilStreaming.Coordinator.TurnProvider
import GilStreaming.Coordinator.TurnRelayPackets
import GilStreaming.Client.StartStream
import GilStreaming.Streaming.DecoderLifetimes
import GilStreaming.Streaming.DecoderSelection
