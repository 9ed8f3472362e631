import CodexKeyboard.Lib.Run
import CodexKeyboard.Lib.Table
import CodexKeyboard.Lib.Transaction
import CodexKeyboard.Store.Basic
import CodexKeyboard.Store.Jobs
import CodexKeyboard.Store.JobsProofs
import CodexKeyboard.Store.JobsFifo
import CodexKeyboard.Store.JobsFencing
import CodexKeyboard.Cache.CacheId
import CodexKeyboard.Store.Tables
import CodexKeyboard.Store.Completions
import CodexKeyboard.Store.Summary
import CodexKeyboard.Store.Playback
import CodexKeyboard.Store.Effects
import CodexKeyboard.Store.Ledger
import CodexKeyboard.Store.Coverage
import CodexKeyboard.Store.Leases
import CodexKeyboard.Store.Resume
import CodexKeyboard.Lib.Lines
import CodexKeyboard.Observer.Rollout
import CodexKeyboard.Observer.Batch
import CodexKeyboard.Observer.Reading
import CodexKeyboard.Observer.Polling
import CodexKeyboard.Observer.Incremental
import CodexKeyboard.Lib.Blocks
import CodexKeyboard.Lib.Channel
import CodexKeyboard.Voice.Capture
import CodexKeyboard.Voice.CaptureProofs
import CodexKeyboard.Keyboard.SlotState
import CodexKeyboard.Keyboard.Speaker
import CodexKeyboard.Keyboard.SpeakerProofs
import CodexKeyboard.Playback.Wire
import CodexKeyboard.Playback.Host
import CodexKeyboard.Playback.Keyboard
import CodexKeyboard.Playback.System
import CodexKeyboard.Playback.HostProofs
import CodexKeyboard.Playback.KeyboardProofs
import CodexKeyboard.Playback.Transfer
import CodexKeyboard.Playback.BenignAcks
import CodexKeyboard.Playback.Daemon
import CodexKeyboard.Playback.DaemonProofs
import CodexKeyboard.Lib.Procedure
import CodexKeyboard.Summary.Orchestrator
import CodexKeyboard.Summary.Claims
import CodexKeyboard.Summary.Synthesis
import CodexKeyboard.Summary.Worker
import CodexKeyboard.Summary.Throttling
import CodexKeyboard.Lib.FileTree
import CodexKeyboard.Lib.FileSystem
import CodexKeyboard.Cache.Objects
import CodexKeyboard.Cache.CacheStore
import CodexKeyboard.Cache.Layout
import CodexKeyboard.Cache.Scanning
import CodexKeyboard.Cache.Steps
import CodexKeyboard.Cache.Removal
import CodexKeyboard.Cache.Reconciliation
import CodexKeyboard.Lib.Buffer
import CodexKeyboard.Playback.Packets
import CodexKeyboard.Playback.PacketProofs
import CodexKeyboard.Lib.Reassembly
import CodexKeyboard.Assets.Types
import CodexKeyboard.Assets.Protocol
import CodexKeyboard.Assets.Session
import CodexKeyboard.Assets.SessionInvariant
import CodexKeyboard.Assets.PendingActions
import CodexKeyboard.Assets.ReplayRing
import CodexKeyboard.Assets.Assemblies
import CodexKeyboard.Assets.Retransmission
import CodexKeyboard.Assets.LostReplies
import CodexKeyboard.Assets.Mailbox
import CodexKeyboard.Assets.MailboxProofs
import CodexKeyboard.Lib.BitSet
import CodexKeyboard.Lib.Ring
import CodexKeyboard.Lib.Distinct
import CodexKeyboard.Assets.Runtime
import CodexKeyboard.Assets.RuntimeProofs
import CodexKeyboard.Assets.ClosedRoutes
import CodexKeyboard.Lib.Bitmap
import CodexKeyboard.Assets.Fragments
import CodexKeyboard.Keyboard.CaptureSession
import CodexKeyboard.Keyboard.TransportRouting
import CodexKeyboard.Assets.Codecs
import CodexKeyboard.Keyboard.SlotRuns
import CodexKeyboard.Keyboard.HidReportQueue
import CodexKeyboard.Keyboard.ReleaseSlots
import CodexKeyboard.Keyboard.HeldKeyboard
import CodexKeyboard.Keyboard.KeyDelivery
import CodexKeyboard.Lib.Recent
import CodexKeyboard.Voice.Retirement
import CodexKeyboard.Keyboard.KeyRelease
import CodexKeyboard.Store.Publishing
import CodexKeyboard.Observer.TextCapture
import CodexKeyboard.Observer.TurnBuilder
import CodexKeyboard.Observer.StaleTurns
import CodexKeyboard.Observer.PackSize
import CodexKeyboard.Keyboard.MouseWheelQueue
import CodexKeyboard.Keyboard.InputScheduler
import CodexKeyboard.Keyboard.InputDelivery
import CodexKeyboard.Keyboard.InputPacing
import CodexKeyboard.Audio.Eiad
import CodexKeyboard.Audio.EiadProofs
import CodexKeyboard.Lib.Replacement
import CodexKeyboard.Observer.Redaction
import CodexKeyboard.Observer.RedactionPasses
import CodexKeyboard.Observer.RedactionUrls
import CodexKeyboard.Observer.RedactionProofs
import CodexKeyboard.Keyboard.ConfigReceiver
import CodexKeyboard.Assets.WifiWire
import CodexKeyboard.Lib.Sha256
import CodexKeyboard.Assets.SoundSha256
import CodexKeyboard.Lib.Json
import CodexKeyboard.Keyboard.ConfigFields
import CodexKeyboard.Keyboard.FieldLookup
import CodexKeyboard.Keyboard.ConfigPayload
import CodexKeyboard.Keyboard.ConfigHistory
import CodexKeyboard.Lib.Mask
import CodexKeyboard.Keyboard.ReplayWindow
import CodexKeyboard.Keyboard.Encoder
import CodexKeyboard.Lib.CharBoundary
import CodexKeyboard.Observer.Compaction
import CodexKeyboard.Observer.ToolIndex
import CodexKeyboard.Observer.PackFits
import CodexKeyboard.Audio.ImaError
import CodexKeyboard.Keyboard.PlatformSelection
import CodexKeyboard.Keyboard.PlatformChoice
import CodexKeyboard.Keyboard.BridgedHotkey
import CodexKeyboard.Keyboard.GattStatusSnapshot
import CodexKeyboard.Keyboard.SnapshotEviction
import CodexKeyboard.Lib.Interleaving
import CodexKeyboard.Keyboard.AudioIoArbiter
import CodexKeyboard.Keyboard.AudioExclusion
import CodexKeyboard.Keyboard.AudioQuiesce
import CodexKeyboard.Keyboard.HidKeycode
import CodexKeyboard.Keyboard.ConfigNumbers
import CodexKeyboard.Keyboard.ConfigStatus
import CodexKeyboard.Keyboard.StatusSize
import CodexKeyboard.Lib.Utf8Text
import CodexKeyboard.Keyboard.StatusText
import CodexKeyboard.Keyboard.StatusViews
import CodexKeyboard.Lib.Device
import CodexKeyboard.Assets.SoundStorage
import CodexKeyboard.Assets.SoundAssetStore
import CodexKeyboard.Assets.StoreBegin
import CodexKeyboard.Assets.StoreCommit
import CodexKeyboard.Assets.StoreProgress
import CodexKeyboard.Lib.FaultFree
import CodexKeyboard.Assets.StoreServing
import CodexKeyboard.Assets.StorePowerLoss
import CodexKeyboard.Assets.StoreResume
