import KairosPersistence.DecimalDigits
import KairosPersistence.Binary64
import KairosPersistence.RoundingOrder
import KairosPersistence.ShortestDecimal
import KairosPersistence.Json
import KairosPersistence.JsonText
import KairosPersistence.PythonJson
import KairosPersistence.Jsonb
import KairosPersistence.HashChain
import KairosPersistence.JsonReading
import KairosPersistence.Sha256
import KairosPersistence.PythonText
import KairosPersistence.DatetimeReading
import KairosPersistence.Transactions
import KairosPersistence.Runs
import KairosPersistence.Locking
import KairosPersistence.SlidingWindow
import KairosPersistence.CanonicalPayload
import KairosPersistence.OutboxTable
import KairosPersistence.OutboxRepository
import KairosPersistence.OfflineOutbox
import KairosPersistence.OutboxWrites
import KairosPersistence.OutboxDelivery
import KairosPersistence.OutboxOrder
import KairosPersistence.PayloadFingerprint
import KairosPersistence.Inbox
import KairosPersistence.InboxConsumers
import KairosPersistence.SourceUsage
import KairosPersistence.SourceBudget
import KairosPersistence.UsageAdmission
import KairosPersistence.MutationBudget
import KairosPersistence.MutationWindows
import KairosPersistence.CanarySession
import KairosPersistence.CanaryDispatch
import KairosPersistence.OperatorControl
import KairosPersistence.OperatorEvidence
import KairosPersistence.OperatorModels
import KairosPersistence.ReadonlyEvidence
import KairosPersistence.EvidenceChecks
import KairosPersistence.OperatorCommands
import KairosPersistence.OperatorSystem
import KairosPersistence.OperatorProgress
import KairosPersistence.OperatorLog
import KairosPersistence.OperatorDispatch
import KairosPersistence.KeyedRows
import KairosPersistence.SimulatorArtifacts
import KairosPersistence.SimulatorJournal
import KairosPersistence.SimulatorCommands
import KairosPersistence.SimulatorWrites
import KairosPersistence.SimulatorRuns
import KairosPersistence.SimulatorTape
import KairosPersistence.TapeInvariants
import KairosPersistence.TapeRecords
import KairosPersistence.TapeSelection
import KairosPersistence.TapeVerification
import KairosPersistence.SimulatorProgress
import KairosPersistence.TradeJournals
import KairosPersistence.TradeResults
import KairosPersistence.RecordedTapes
import KairosPersistence.SessionReceipts
import KairosPersistence.CommandCompletions
import KairosPersistence.ReadModifyWrite
import KairosPersistence.LiquidityUpdates
import KairosPersistence.ResearchContracts
import KairosPersistence.ResearchTables
import KairosPersistence.ObservationSchedules
import KairosPersistence.DecisionSamples
import KairosPersistence.ResearchEvidence
import KairosPersistence.ResearchWrites
import KairosPersistence.ResearchRuns
import KairosPersistence.ResearchInvariants
import KairosPersistence.SealedCoverage
import KairosPersistence.VerifiedSeals
import KairosPersistence.AcceptedLogs
import KairosPersistence.CampaignReceipts
import KairosPersistence.CampaignWindows
import KairosPersistence.CampaignEvaluations
import KairosPersistence.CampaignAttempts
import KairosPersistence.CampaignSamples
import KairosPersistence.CampaignOutcomes
import KairosPersistence.CampaignRuns
import KairosPersistence.CampaignJournal
import KairosPersistence.DispatchFences
import KairosPersistence.CampaignArms
import KairosPersistence.AttemptIdentities
import KairosPersistence.CampaignCosts
import KairosPersistence.TradeMaterialisation
import KairosPersistence.CampaignStability
import KairosPersistence.CausalPairs
import KairosPersistence.AttemptCompletions
import KairosPersistence.OutcomeSoundness
import KairosPersistence.OutcomeAcceptance
import KairosPersistence.AsciiJson
import KairosPersistence.ReceiptRows
import KairosPersistence.BoundedJson
import KairosPersistence.SourceContents
import KairosPersistence.EvidenceJournal
import KairosPersistence.SealReplays
import KairosPersistence.Extremes
import KairosPersistence.DailyEquity
import KairosPersistence.NewsProcessing
import KairosPersistence.OfflineRecovery
import KairosPersistence.OfflineReplays
import KairosPersistence.BarWindows
import KairosPersistence.KeysetPages
import KairosPersistence.ClosedBarPages
import KairosPersistence.ResearchPages
import KairosPersistence.FrameDepth
import KairosPersistence.JsonBytes
import KairosPersistence.IsoDatetime
import KairosPersistence.ServeStatus
import KairosPersistence.FloatHex
import KairosPersistence.PublicExecutionEvents
import KairosPersistence.TradeInvariants
import KairosPersistence.TradeExclusion
import KairosPersistence.PublicFacts
import KairosPersistence.TradeChains
import KairosPersistence.EffectJournal
import KairosPersistence.EffectInvariants
import KairosPersistence.RecoveryBarrier
