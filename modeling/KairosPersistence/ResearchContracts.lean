import KairosPersistence.PythonJson
import KairosPersistence.Transactions

/-!
The frozen contracts of simulated research: schedules, protocols, decision
samples and the receipts of their evidence. Times are milliseconds.
-/

namespace KairosPersistence

open PythonJson
open Transactions (require)

inductive ResearchError where
  | typeError (message : String)
  | valueError (message : String)
  | messageIdentityConflict (message : String)
  | raiseException (message : String)
  | checkViolation (table : String)
  | foreignKeyViolation (table : String)
  | uniqueViolation (index : String)
  | stopIteration
  deriving DecidableEq, Repr

inductive ResearchArm where
  | strategyOnly | strategyReview | llmProposalResearch
  deriving DecidableEq, Repr

namespace ResearchArm

def value : ResearchArm → String
  | strategyOnly => "strategy-only"
  | strategyReview => "strategy-review"
  | llmProposalResearch => "llm-proposal-research"

end ResearchArm

/-- `RESEARCH_ARMS`. -/
def researchArms : List ResearchArm := [.strategyOnly, .strategyReview, .llmProposalResearch]

def researchArm? (armId : String) : Option ResearchArm := researchArms.find? (·.value = armId)

theorem researchArms_nodup : (researchArms.map ResearchArm.value).Nodup := by decide

theorem researchArm?_eq_some {armId : String} {arm : ResearchArm} : researchArm? armId = some arm ↔ arm.value = armId := by
  constructor
  · intro h
    unfold researchArm? at h
    simpa using List.find?_some h
  · rintro rfl
    cases arm <;> decide

section Frozen

structure ObservationWindow where
  sampleId : String
  symbol : String
  timeframe : String
  marketAsOfTsMs : ℕ
  marketSnapshotSha256 : Option String
  pairedAtTsMs : ℕ
  sampleDeadlineTsMs : ℕ
  deriving DecidableEq, Repr

/-- `ResearchObservationScheduleV1`. -/
structure ObservationSchedule where
  campaignId : String
  scheduleDigest : String
  strategyId : String
  strategyRevision : String
  evaluatorSha256 : String
  windows : List ObservationWindow
  deriving DecidableEq, Repr

def ObservationSchedule.window? (schedule : ObservationSchedule) (sampleId : String) : Option ObservationWindow :=
  schedule.windows.find? (·.sampleId = sampleId)

inductive Provider where
  | openai | deepseek
  deriving DecidableEq, Repr

/-- An arm of a protocol; the baseline has no model. -/
structure ProtocolArm where
  armId : ResearchArm
  provider : Option Provider
  model : Option String
  promptSha256 : Option String
  schemaSha256 : Option String
  candidate : String
  deriving DecidableEq, Repr

/-- `AdaptiveCandidateProtocolV1`. -/
structure CandidateProtocol where
  campaignId : String
  scheduleDigest : String
  protocolDigest : String
  arms : List ProtocolArm
  deriving DecidableEq, Repr

def CandidateProtocol.arm? (protocol : CandidateProtocol) (armId : ResearchArm) : Option ProtocolArm :=
  protocol.arms.find? (·.armId = armId)

end Frozen

section Samples

inductive StrategyOutcome where
  | long | short | noIntent | notEvaluated
  deriving DecidableEq, Repr

inductive LLMOutcome where
  | longBias | shortBias | volatilityAlert | noProposal | defer | notCalled | callFailed
  deriving DecidableEq, Repr

/-- What the arms of one window have in common. -/
structure BaselineLineage where
  marketSnapshotSha256 : String
  strategyOutcome : StrategyOutcome
  strategyEvaluationSha256 : Option String
  strategyEvidenceAsOfTsMs : Option ℕ
  strategyMarketSnapshotSha256 : Option String
  strategyIntentId : Option String
  strategyIntentExpiresAtTsMs : Option ℕ
  deriving DecidableEq, Repr

/-- `ScheduledResearchSampleV1`. -/
structure ScheduledSample where
  campaignId : String
  armId : String
  sampleId : String
  symbol : String
  timeframe : String
  marketAsOfTsMs : ℕ
  marketSnapshotSha256 : String
  strategyId : String
  strategyRevision : String
  pairedAtTsMs : ℕ
  sampleDeadlineTsMs : ℕ
  deriving DecidableEq, Repr

/-- `ResearchDecisionSampleV1`. -/
structure DecisionSample extends BaselineLineage, ScheduledSample where
  sampleRecordId : String
  armProtocolDigest : Option String
  llmOutcome : LLMOutcome
  llmEvidenceAsOfTsMs : Option ℕ
  llmMarketSnapshotSha256 : Option String
  llmProposalId : Option String
  llmProposalExpiresAtTsMs : Option ℕ
  llmCompletionReceiptId : Option String
  llmCompletionStartedAtTsMs : Option ℕ
  llmCompletionObservedAtTsMs : Option ℕ
  llmFailureReceiptId : Option String
  llmFailureClass : Option String
  llmFailureStartedAtTsMs : Option ℕ
  llmFailureObservedAtTsMs : Option ℕ
  deriving DecidableEq, Repr

end Samples

section Receipts

inductive SourceKind where
  | marketSnapshot | news | macroeconomic
  deriving DecidableEq, Repr

structure SourceHeader where
  campaignId : String
  sampleId : String
  scheduleDigest : String
  candidateProtocolDigest : String
  sourceKind : SourceKind
  sourceName : String
  reference : String
  sourceAsOfTsMs : ℕ
  observedAtTsMs : ℕ
  deriving DecidableEq, Repr

/-- `ResearchSourceReceiptV1`. -/
structure SourceReceipt extends SourceHeader where
  content : PyJson

inductive IntentSide where
  | long | short
  deriving DecidableEq, Repr

def IntentSide.outcome : IntentSide → StrategyOutcome
  | long => .long
  | short => .short

/-- `StrategyIntentV1`; `body` is what is only compared. -/
structure StrategyIntent where
  intentId : String
  strategyId : String
  strategyRevision : String
  symbol : String
  timeframe : String
  decisionTsMs : ℕ
  side : IntentSide
  entryExpiresTsMs : ℕ
  inputBarSha256s : List String
  inputWindowSha256 : String
  body : String
  deriving DecidableEq, Repr

/-- `ResearchStrategyEvaluationReceiptV1`. -/
structure StrategyEvaluation where
  campaignId : String
  sampleId : String
  scheduleDigest : String
  candidateProtocolDigest : String
  strategyId : String
  strategyRevision : String
  symbol : String
  timeframe : String
  evidenceAsOfTsMs : ℕ
  evaluatedAtTsMs : ℕ
  marketSnapshotSha256 : String
  evaluatorSha256 : String
  sourceReceiptSha256s : List String
  intent : Option StrategyIntent
  deriving DecidableEq, Repr

/-- Where a model is called: the scope that an attempt and what comes of it share. -/
structure CallScope where
  campaignId : String
  armId : ResearchArm
  sampleId : String
  symbol : String
  timeframe : String
  marketAsOfTsMs : ℕ
  marketSnapshotSha256 : String
  sampleDeadlineTsMs : ℕ
  attemptStartedAtTsMs : ℕ
  deriving DecidableEq, Repr

/-- Which model is called. -/
structure ModelRoute where
  provider : Provider
  requestedModel : String
  promptSha256 : String
  budgetReservationId : String
  deriving DecidableEq, Repr

/-- `ResearchLLMAttemptStartV1`. -/
structure AttemptStart extends CallScope, ModelRoute where
  attemptId : String
  scheduleDigest : String
  candidateProtocolDigest : String
  armProtocolDigest : String
  deriving DecidableEq, Repr

structure ModelProvenance extends ModelRoute where
  resolvedModel : String
  deriving DecidableEq, Repr

/-- `EvidenceReferenceV1`. -/
structure EvidenceReference where
  kind : SourceKind
  reference : String
  contentSha256 : String
  observedAtMs : ℕ
  deriving DecidableEq, Repr

/-- What a completed call observes, `LLMOutcome` without the outcomes of no completion. -/
inductive ProposalAction where
  | longBias | shortBias | volatilityAlert | noProposal | defer
  deriving DecidableEq, Repr

def ProposalAction.outcome : ProposalAction → LLMOutcome
  | longBias => .longBias
  | shortBias => .shortBias
  | volatilityAlert => .volatilityAlert
  | noProposal => .noProposal
  | defer => .defer

/-- `LLMTradeProposalV1`; `body` is what is only compared. -/
structure TradeProposal where
  proposalId : String
  campaignId : String
  armId : ResearchArm
  sampleId : String
  symbol : String
  timeframe : String
  marketAsOfTsMs : ℕ
  marketSnapshotSha256 : String
  modelProvenance : ModelProvenance
  evidence : List EvidenceReference
  action : ProposalAction
  expiresAtTsMs : Option ℕ
  body : String
  deriving DecidableEq, Repr

/-- `LLMProposalCompletionReceiptV1`. -/
structure ProposalCompletion extends CallScope where
  completionReceiptId : String
  attemptId : String
  proposalId : String
  modelProvenance : ModelProvenance
  responseObservedAtTsMs : ℕ
  deriving DecidableEq, Repr

/-- `LLMCallFailureV1`. -/
structure CallFailure extends CallScope, ModelRoute where
  failureReceiptId : String
  attemptId : String
  failureClass : String
  failureObservedAtTsMs : ℕ
  deriving DecidableEq, Repr

inductive TerminalStatus where
  | completed | failed | unresolved
  deriving DecidableEq, Repr

/-- `ResearchLLMAttemptTerminalV1`. -/
structure AttemptTerminal where
  attemptId : String
  startReceiptSha256 : String
  terminalStatus : TerminalStatus
  observedAtTsMs : ℕ
  proposal : Option TradeProposal
  completion : Option ProposalCompletion
  failure : Option CallFailure
  deriving DecidableEq, Repr

/-- `ResearchCoverageSealV1`. -/
structure CoverageSeal where
  campaignId : String
  scheduleDigest : String
  candidateProtocolDigest : String
  expectedResultCount : ℕ
  resultIdsSha256 : String
  deriving DecidableEq, Repr

/-- `ResearchSourceQualifiedCoverageV1`. -/
structure QualifiedCoverage where
  campaignId : String
  coverage : CoverageSeal
  sourceIdsSha256 : String
  evaluationIdsSha256 : String
  attemptStartIdsSha256 : String
  attemptTerminalIdsSha256 : String
  deriving DecidableEq, Repr

end Receipts

/-- What `evaluate_research_coverage` gives. -/
structure EvaluatedCoverage where
  campaignId : String
  scheduleDigest : String
  expectedResultCount : ℕ
  resultIdsSha256 : String

/-- The facts that `build_research_decision_sample` is given. -/
structure SampleFacts where
  planned : ScheduledSample
  evaluation : Option StrategyEvaluation
  proposal : Option TradeProposal
  completion : Option ProposalCompletion
  failure : Option CallFailure
  llmWasCalled : Bool

/-- The contract library: the canonical hashes of its contracts, the coverage of a schedule by samples,
and the sample of a scheduled observation. -/
structure ResearchContracts where
  scheduleSha256 : ObservationSchedule → String
  protocolSha256 : CandidateProtocol → String
  armDigest : CandidateProtocol → ResearchArm → String
  sampleSha256 : DecisionSample → String
  contentSha256 : PyJson → String
  intentSha256 : StrategyIntent → String
  sourceSha256 : SourceReceipt → String
  evaluationSha256 : StrategyEvaluation → String
  startSha256 : AttemptStart → String
  terminalSha256 : AttemptTerminal → String
  coverageSha256 : CoverageSeal → String
  qualifiedSha256 : QualifiedCoverage → String
  receiptIdsSha256 : List String → String
  evaluateCoverage : ObservationSchedule → List DecisionSample → Except ResearchError EvaluatedCoverage
  buildSample : SampleFacts → Except ResearchError DecisionSample

end KairosPersistence
