import TriFusion.Library.Runs
import TriFusion.Library.BigEndian
import TriFusion.Library.Words
import TriFusion.Library.Records
import TriFusion.Foundation.Result
import TriFusion.DeviceControl.Correlation
import TriFusion.Hardware.CaptureKernel
import TriFusion.Device.CameraSteps
import TriFusion.Device.BufferOwnership
import TriFusion.Library.Ledger
import TriFusion.Media.MainStream
import TriFusion.Media.StreamAccounting
import TriFusion.Library.Traces
import TriFusion.Media.Codec
import TriFusion.Media.MediaPipeline
import TriFusion.Media.StreamLabels
import TriFusion.Mode.WorkMode
import TriFusion.Media.PipelineBuilder
import TriFusion.Mode.ModeSwitchPlanner
import TriFusion.Algorithm.FusionEngine
import TriFusion.Mode.ModeSwitchExecutor
import TriFusion.Mode.ModeManager
import TriFusion.Media.PipelineSteps
import TriFusion.Mode.SwitchSteps
import TriFusion.Mode.SwitchOrdering
import TriFusion.Mode.SwitchFailure
import TriFusion.Library.Fragments
import TriFusion.Protocol.RtspServer
import TriFusion.Protocol.RtpPackets
import TriFusion.Protocol.RtpReassembly
import TriFusion.Foundation.Files
import TriFusion.Foundation.Scalars
import TriFusion.Foundation.SimpleYaml
import TriFusion.Library.Outline
import TriFusion.Foundation.YamlOutline
import TriFusion.Foundation.YamlLayout
import TriFusion.Protocol.EndpointScalars
import TriFusion.Protocol.EndpointLayout
import TriFusion.Protocol.ConfigRoundTrip
import TriFusion.Commands.Command
import TriFusion.Library.Pool
import TriFusion.Service.ProtocolService
import TriFusion.Protocol.ProtocolCommandAdapter
import TriFusion.Protocol.OwnerExclusion
import TriFusion.Protocol.ProtocolManager
import TriFusion.Protocol.ManagerOwnership
import TriFusion.Protocol.ProtocolConfigStore
import TriFusion.Protocol.StoreUpdates
import TriFusion.Protocol.StorePersistence
import TriFusion.Protocol.RtpJpegHeader
import TriFusion.Media.StreamSteps
import TriFusion.Media.WorkerHandle
import TriFusion.Mode.StaleFrames
import TriFusion.Media.EncoderReady
import TriFusion.Media.GStreamerPipeline
import TriFusion.Media.GStreamerPipelineConfigManager
import TriFusion.Protocol.PrivateControlServer
import TriFusion.Protocol.PrivateControlProbe
import TriFusion.Protocol.StatusAgreement
import TriFusion.DeviceControl.PromptLink
import TriFusion.DeviceControl.Resynchronisation
import TriFusion.Foundation.ConfigManager
import TriFusion.Foundation.ConfigReload
import TriFusion.Device.CameraManager
import TriFusion.Mode.SwitchCameras
import TriFusion.Mode.SwitchHistory
import TriFusion.Mode.ProfileCodec
import TriFusion.Protocol.PlayingClients
import TriFusion.Library.Delimited
import TriFusion.Protocol.RtspSession
import TriFusion.Protocol.SessionOrder
import TriFusion.Foundation.PoolTasks
import TriFusion.Commands.StreamHandlers
import TriFusion.Commands.StreamProducer
import TriFusion.Protocol.Gb28181Service
import TriFusion.Protocol.Gb28181Startable
import TriFusion.DeviceControl.AckAcceptance
import TriFusion.Library.Simulation
import TriFusion.Media.FrameQueue
import TriFusion.Media.LatestFrame
import TriFusion.Library.FirstMin
import TriFusion.Media.FrameSync
import TriFusion.Library.Backlog
import TriFusion.Media.SyncRuns
import TriFusion.Device.LifecycleStatus
import TriFusion.Protocol.ControlShutdown
import TriFusion.Protocol.JpegSafety
import TriFusion.Library.PrefixFree
import TriFusion.Protocol.JpegGrammar
import TriFusion.Protocol.JpegAcceptance
import TriFusion.Protocol.JpegSegments
import TriFusion.Protocol.JpegWellFormed
import TriFusion.Protocol.JpegFrames
import TriFusion.Hardware.MppEncoder
import TriFusion.Media.EncoderGeometry
import TriFusion.Media.FrameIdentity
import TriFusion.Device.CameraStreams
import TriFusion.Media.StartRollback
import TriFusion.Protocol.ScalarReaders
import TriFusion.Media.PipelineEvents
import TriFusion.Media.PipelineNodes
import TriFusion.Media.PipelineReinit
import TriFusion.Media.PipelineLeftovers
import TriFusion.Library.Shell
import TriFusion.Media.ShellCommand
import TriFusion.Foundation.YamlFlatten
import TriFusion.Service.ProtocolAdmission
import TriFusion.Mode.PlanCoherence
import TriFusion.Media.FormatNames
import TriFusion.Media.ModeSources
import TriFusion.Protocol.StoreAtomicity
import TriFusion.Protocol.InitAtomicity
import TriFusion.DeviceControl.LinkStatus
import TriFusion.Hardware.FormatRecord
import TriFusion.Device.FrameLabels
import TriFusion.Library.EndedLines
import TriFusion.Protocol.ResponseHeaders
import TriFusion.Protocol.RequestFraming
import TriFusion.Protocol.PrivateControlHandlers
import TriFusion.Protocol.RequestSegments
import TriFusion.Foundation.QueueHistory
import TriFusion.Foundation.ByteUtils
import TriFusion.DeviceControl.FrameChecksum
import TriFusion.DeviceControl.HexCommand
import TriFusion.DeviceControl.ExactReads
import TriFusion.DeviceControl.RetryCount
import TriFusion.Library.ChildTable
import TriFusion.Media.ProcessChildren
import TriFusion.Library.ThreadHandle
import TriFusion.Foundation.Worker
import TriFusion.Protocol.UdpMpegTsPublisher
import TriFusion.Protocol.PublisherChildren
import TriFusion.Protocol.ChildTracking
import TriFusion.Protocol.ThreadObjects
import TriFusion.Library.Json
import TriFusion.Protocol.ReplyBodies
import TriFusion.Protocol.ReplyDocuments
import TriFusion.Protocol.ControlRoutes
import TriFusion.Protocol.ControlOutcomes
import TriFusion.Protocol.ControlTracking
import TriFusion.Library.Repeats
import TriFusion.DeviceControl.RegisterFile
import TriFusion.DeviceControl.CommandLog
import TriFusion.DeviceControl.SensorLine
import TriFusion.DeviceControl.SensorSettings
import TriFusion.Media.ProcessWorld
import TriFusion.Protocol.SensorPanel
import TriFusion.Protocol.PanelAgreement
import TriFusion.Library.Marks
import TriFusion.Library.Sending
import TriFusion.Library.ProgramStream
import TriFusion.Protocol.PlayProbeMedia
import TriFusion.Protocol.PsPacks
import TriFusion.Protocol.PsOverRtp
import TriFusion.Protocol.AnnexBFrames
import TriFusion.Protocol.PsPackets
import TriFusion.Foundation.EventBus
import TriFusion.Foundation.EventDelivery
import TriFusion.Protocol.RtspLifecycle
import TriFusion.Library.Search
import TriFusion.Library.Fields
import TriFusion.Protocol.PlayProbeSip
import TriFusion.Protocol.SipMessages
import TriFusion.Protocol.SipDialogue
import TriFusion.Protocol.SipAnswers
import TriFusion.Protocol.SipRegistration
import TriFusion.Protocol.SipInvitation
