import PetlibroRelay.Foundations.Machine
import PetlibroRelay.Foundations.Threads
import PetlibroRelay.Foundations.Holders
import PetlibroRelay.Foundations.AutoTable
import PetlibroRelay.Foundations.Durable
import PetlibroRelay.Foundations.Snapshots
import PetlibroRelay.Foundations.BoundedLog
import PetlibroRelay.Foundations.NumberedLog
import PetlibroRelay.Foundations.Dict
import PetlibroRelay.Foundations.Accounts
import PetlibroRelay.Foundations.RelatedRows
import PetlibroRelay.Foundations.Json
import PetlibroRelay.Foundations.Redaction
import PetlibroRelay.Foundations.CheckedReads
import PetlibroRelay.Foundations.Utf8
import PetlibroRelay.Foundations.ChunkedInput
import PetlibroRelay.Foundations.Spacing
import PetlibroRelay.Foundations.StepFunctions
import PetlibroRelay.Foundations.Conversation
import PetlibroRelay.Foundations.TopicFilters
import PetlibroRelay.Protocol.Topics
import PetlibroRelay.Protocol.ReplayPolicy
import PetlibroRelay.Queue.MessageQueue
import PetlibroRelay.Queue.Refinement
import PetlibroRelay.Queue.Migration
import PetlibroRelay.Queue.SchemaUpgrade
import PetlibroRelay.Pump.DeliveryPump
import PetlibroRelay.Pump.SharedQueue
import PetlibroRelay.Pump.Conservation
import PetlibroRelay.Pump.ReplayOrder
import PetlibroRelay.Pump.Timing
import PetlibroRelay.Pump.ReplayRates
import PetlibroRelay.Pump.DeviceRate
import PetlibroRelay.Pump.FairReplay
import PetlibroRelay.Upstream.Telemetry
import PetlibroRelay.Upstream.OutageAccounts
import PetlibroRelay.Upstream.OfflineSummaries
import PetlibroRelay.Upstream.OnlineBookkeeping
import PetlibroRelay.Upstream.Availability
import PetlibroRelay.Upstream.DeviceContext
import PetlibroRelay.Upstream.CoalesceKeys
import PetlibroRelay.Upstream.DeviceManager
import PetlibroRelay.Upstream.SessionThreads
import PetlibroRelay.Upstream.SessionTelemetry
import PetlibroRelay.Upstream.SessionLoops
import PetlibroRelay.Upstream.LiveRows
import PetlibroRelay.Upstream.SettleDelay
import PetlibroRelay.Upstream.StaleCommands
import PetlibroRelay.Upstream.SettingsOrder
import PetlibroRelay.Upstream.CommandCoalescing
import PetlibroRelay.Shadow.StateShadow
import PetlibroRelay.Shadow.ScheduleOwnership
import PetlibroRelay.Shadow.StateCache
import PetlibroRelay.Responder.LocalResponder
import PetlibroRelay.Responder.LocalReplies
import PetlibroRelay.Responder.LateAnswers
import PetlibroRelay.Responder.DstSchedule
import PetlibroRelay.Responder.ClockReplies
import PetlibroRelay.Upstream.StaleCallbacks
import PetlibroRelay.Control.Schedules
import PetlibroRelay.Control.Settings
import PetlibroRelay.Control.Controller
import PetlibroRelay.Control.Steps
import PetlibroRelay.Control.Transactions
import PetlibroRelay.Control.ScheduleEdits
import PetlibroRelay.Control.DeletedPlans
import PetlibroRelay.Control.LocalPlanIds
import PetlibroRelay.Control.AcceptedCalls
import PetlibroRelay.Control.LastAccepted
import PetlibroRelay.Control.DerivedSettings
import PetlibroRelay.Control.GroupWrites
import PetlibroRelay.Bridge.LocalMessages
import PetlibroRelay.Bridge.MessageOutcomes
import PetlibroRelay.Bridge.Isolation
import PetlibroRelay.Bridge.LoopFreedom
import PetlibroRelay.Presence.CaptureProxy
import PetlibroRelay.Presence.ConnectPacket
import PetlibroRelay.Presence.CaptureForwarding
import PetlibroRelay.Presence.ConnectParsing
import PetlibroRelay.Presence.SessionCounting
import PetlibroRelay.Presence.ScheduleResync
import PetlibroRelay.Registry.DeviceRegistry
import PetlibroRelay.Registry.Enrolment
import PetlibroRelay.Registry.LatestCredentials
import PetlibroRelay.Registry.RegistryUpgrade
import PetlibroRelay.Registry.CloudSessions
import PetlibroRelay.Camera.CameraRegistry
import PetlibroRelay.Camera.ConsumerProgress
import PetlibroRelay.Camera.UnwatchedCamera
import PetlibroRelay.Camera.AttemptCorrelation
import PetlibroRelay.Camera.Reregistration
import PetlibroRelay.Camera.AudioFollows
import PetlibroRelay.Camera.SessionPackets
import PetlibroRelay.Camera.ReceiveCursor
import PetlibroRelay.Camera.MediaReceiver
import PetlibroRelay.Camera.FrameAssembly
import PetlibroRelay.Camera.AnnouncedFragments
import PetlibroRelay.Camera.SentFrames
import PetlibroRelay.Camera.Reassembly
import PetlibroRelay.Camera.Retransmissions
import PetlibroRelay.Camera.CheckedPackets
import PetlibroRelay.Camera.NalDetection
import PetlibroRelay.Camera.ReceiverBounds
import PetlibroRelay.Camera.BridgeRegistrar
import PetlibroRelay.Camera.RegisteredMappings
import PetlibroRelay.Camera.Reconciliation
import PetlibroRelay.Camera.ConsumerCount
import PetlibroRelay.Camera.MediaServer
import PetlibroRelay.Camera.ReceiveLoop
import PetlibroRelay.Camera.DeadLoops
import PetlibroRelay.Camera.Handshake
import PetlibroRelay.Camera.Connect
import PetlibroRelay.Camera.ConnectRules
import PetlibroRelay.Camera.ConnectTurns
import PetlibroRelay.Camera.ConnectGate
import PetlibroRelay.Camera.SessionNumbering
import PetlibroRelay.Camera.FrameFanOut
import PetlibroRelay.Camera.FrameSessions
import PetlibroRelay.Camera.FrameOrder
import PetlibroRelay.Camera.MediaClock
import PetlibroRelay.Camera.StreamClient
import PetlibroRelay.Camera.StreamTimers
import PetlibroRelay.Camera.ViewerExpiry
import PetlibroRelay.Camera.IdleStops
import PetlibroRelay.Camera.ViewedStreams
import PetlibroRelay.Camera.WhepSessions
import PetlibroRelay.Dashboard.Sanitizer
import PetlibroRelay.Dashboard.SanitizedTexts
import PetlibroRelay.Dashboard.LogBuffer
import PetlibroRelay.Dashboard.ShadowView
import PetlibroRelay.Dashboard.StateSecrets
