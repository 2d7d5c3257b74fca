import Giskard.Foundation.Json
import Giskard.Foundation.JsonReader
import Giskard.Foundation.Serde
import Giskard.Foundation.Text
import Giskard.Foundation.TextFile
import Giskard.Foundation.FixedPoint
import Giskard.Foundation.IndexMap
import Giskard.Foundation.Outstanding
import Giskard.Foundation.Schedule
import Giskard.Foundation.Withdrawals
import Giskard.Foundation.Ancestry
import Giskard.Model.Core
import Giskard.Model.CommandOutput
import Giskard.Model.Wire
import Giskard.Model.Persisted
import Giskard.Model.CapturedDiffs
import Giskard.Model.HistoryIndex
import Giskard.Model.TurnPayload
import Giskard.Model.ThreadDirectory
import Giskard.Model.LiveTurn
import Giskard.Model.TurnItems
import Giskard.Model.Requests
import Giskard.Model.ThreadRuntime
import Giskard.Model.Projects
import Giskard.Model.ThreadMetadata
import Giskard.Model.TurnCommit
import Giskard.Model.OutputRoute
import Giskard.Model.HistoryCache
import Giskard.Model.EventLog
import Giskard.Model.Subscribe
import Giskard.Model.Admission
import Giskard.Model.ProjectDriver
import Giskard.Model.ThreadDeletion
import Giskard.Model.NativeRoutes
import Giskard.Model.Markdown
import Giskard.Model.ClaudeAsks
import Giskard.Model.ClaudeSession
import Giskard.Model.ClaudeCli
import Giskard.Analysis.HeadTail
import Giskard.Analysis.LiveTurnInvariant
import Giskard.Analysis.LivePaging
import Giskard.Analysis.LiveRequests
import Giskard.Analysis.LiveReplay
import Giskard.Analysis.CommitPaging
import Giskard.Analysis.RequestLedger
import Giskard.Analysis.Overview
import Giskard.Analysis.CapturedDiffSlots
import Giskard.Analysis.ProjectIndex
import Giskard.Analysis.ThreadMetadata
import Giskard.Analysis.PayloadFile
import Giskard.Analysis.PayloadRoundTrip
import Giskard.Analysis.IndexAppends
import Giskard.Analysis.HistoryPaging
import Giskard.Analysis.TokenAggregates
import Giskard.Analysis.PayloadAmendments
import Giskard.Analysis.OutputVersions
import Giskard.Analysis.CacheRaces
import Giskard.Analysis.EventLogReaders
import Giskard.Analysis.SubscribeRaces
import Giskard.Analysis.ThreadForest
import Giskard.Analysis.DriverOwners
import Giskard.Analysis.DriverLinks
import Giskard.Analysis.DriverRuns
import Giskard.Model.ForwardedTurn
import Giskard.Model.EventForwarder
import Giskard.Foundation.Journal
import Giskard.Foundation.KeyedList
import Giskard.Foundation.PostOrder
import Giskard.Foundation.Markup
import Giskard.Analysis.ForwarderFrames
import Giskard.Analysis.ForwardedTurns
import Giskard.Analysis.ForwardedDiffs
import Giskard.Analysis.ForwarderOwnership
import Giskard.Analysis.ForwarderGate
import Giskard.Analysis.ForwarderIntents
import Giskard.Analysis.DeletionOrder
import Giskard.Analysis.NativeRoutes
import Giskard.Model.NativeParents
import Giskard.Analysis.NativeParents
import Giskard.Analysis.RenderedMarkdown
import Giskard.Analysis.WithdrawnAsks
import Giskard.Analysis.TurnHandOffs
import Giskard.Analysis.TurnModes
import Giskard.Foundation.TicketOffice
import Giskard.Analysis.HandOffReplies
import Giskard.Analysis.HandOffRuns
import Giskard.Analysis.TurnModels
import Giskard.Model.ModelPicker
import Giskard.Analysis.ModelPicker
import Giskard.Model.CodexTransport
import Giskard.Analysis.CodexAnswers
import Giskard.Analysis.CodexDeadStream
import Giskard.Foundation.Fallible
import Giskard.Model.CodexMapper
import Giskard.Model.CodexRequests
import Giskard.Model.CodexWorker
import Giskard.Analysis.CodexCommands
import Giskard.Analysis.CodexMapping
import Giskard.Analysis.CodexFrames
import Giskard.Analysis.CodexRequests
import Giskard.Analysis.CodexDiscovery
import Giskard.Analysis.LostRequests
import Giskard.Foundation.WaitingRoom
import Giskard.Analysis.CodexPending
import Giskard.Foundation.LossyText
import Giskard.Foundation.Records
import Giskard.Model.GitParser
import Giskard.Analysis.GitStatus
import Giskard.Analysis.GitLog
import Giskard.Foundation.Coalescing
import Giskard.Model.DeletionService
import Giskard.Analysis.DeletionFence
import Giskard.Model.Delivery
import Giskard.Analysis.ReplacementLane
import Giskard.Foundation.Accounts
import Giskard.Model.LoginThrottle
import Giskard.Analysis.LoginThrottle
import Giskard.Foundation.Directories
import Giskard.Model.EntityLocks
import Giskard.Analysis.EntityLocks
import Giskard.Model.DeletionRequest
import Giskard.Analysis.DeletionRequest
import Giskard.Model.HarnessTransitions
import Giskard.Analysis.HarnessTransitions
import Giskard.Model.ThreadRemoval
import Giskard.Analysis.ThreadRemoval
import Giskard.Analysis.ReasoningPreview
import Giskard.Analysis.OutputPreviews
import Giskard.Foundation.TextWindow
import Giskard.Analysis.LiveItems
import Giskard.Analysis.LiveOutput
import Giskard.Foundation.AgeCache
import Giskard.Model.Highlighter
import Giskard.Analysis.HighlightCache
import Giskard.Model.ItemOutputs
import Giskard.Analysis.ItemOutputs
import Giskard.Model.RunningTasks
import Giskard.Analysis.LiveReload
import Giskard.Analysis.SettledItems
import Giskard.Foundation.Buckets
import Giskard.Model.TokenLedgers
import Giskard.Analysis.TokenLedgers
import Giskard.Foundation.WriteBack
import Giskard.Model.LedgerActor
import Giskard.Analysis.LedgerHistory
import Giskard.Model.DiffHunks
import Giskard.Analysis.DiffHunks
import Giskard.Model.CommitFiles
import Giskard.Analysis.CommitFiles
import Giskard.Foundation.Paths
import Giskard.Model.WorktreeSeeding
import Giskard.Analysis.LinkTargets
import Giskard.Model.Hub
import Giskard.Analysis.HubSubscriptions
import Giskard.Model.ModelsBody
import Giskard.Analysis.ModelsBody
import Giskard.Foundation.FileTree
import Giskard.Analysis.WorktreeSeeding
import Giskard.Model.PlanFile
import Giskard.Analysis.PlanFile
import Giskard.Model.Auth
import Giskard.Analysis.Sessions
import Giskard.Model.CodexUploads
import Giskard.Analysis.CodexUploads
