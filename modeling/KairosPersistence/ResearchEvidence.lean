import KairosPersistence.DecisionSamples

/-!
The independent evidence of a campaign: its sources, evaluations and attempts,
and the verification of a sample against them.
-/

namespace KairosPersistence

open PythonJson
open Transactions (bind_ok require require_ok found found_ok)

variable (contracts : ResearchContracts)

section Validators

/-- `sorted(set(digests))` of distinct and sorted ones. -/
def SortedDistinct (digests : List String) : Prop := digests.Pairwise (· < ·)

instance (digests : List String) : Decidable (SortedDistinct digests) := inferInstanceAs (Decidable (digests.Pairwise _))

def SourceReceipt.verify (receipt : SourceReceipt) : Except ResearchError Unit :=
  require (receipt.sourceAsOfTsMs ≤ receipt.observedAtTsMs)
    (.valueError "source cannot be observed before its asserted source time")

def StrategyEvaluation.verify (receipt : StrategyEvaluation) : Except ResearchError Unit := do
  require (1 ≤ receipt.sourceReceiptSha256s.length ∧ receipt.sourceReceiptSha256s.length ≤ 128)
    (.valueError "source_receipt_sha256s")
  require (receipt.evidenceAsOfTsMs ≤ receipt.evaluatedAtTsMs)
    (.valueError "evaluation cannot precede its market evidence")
  require (SortedDistinct receipt.sourceReceiptSha256s)
    (.valueError "evaluation source hashes must be distinct and sorted")
  match receipt.intent with
  | none => pure ()
  | some intent => do
    require (intent.intentId = contracts.intentSha256 intent)
      (.valueError "evaluation contains a noncanonical strategy intent")
    require ((intent.strategyId, intent.strategyRevision, intent.symbol, intent.timeframe) =
        (receipt.strategyId, receipt.strategyRevision, receipt.symbol, receipt.timeframe))
      (.valueError "evaluation strategy intent differs from its evaluation scope")
    require (intent.decisionTsMs = receipt.evidenceAsOfTsMs)
      (.valueError "evaluation intent uses stale or future evidence")
    require (intent.inputBarSha256s.getLast? = some receipt.marketSnapshotSha256)
      (.valueError "evaluation intent does not use its independently saved snapshot")

def AttemptStart.verify (attempt : AttemptStart) : Except ResearchError Unit := do
  require (attempt.armId ≠ .strategyOnly) (.valueError "arm_id")
  require (attempt.attemptId = attempt.budgetReservationId)
    (.valueError "research attempt must use its exact deterministic budget reservation ID")
  require (attempt.marketAsOfTsMs ≤ attempt.attemptStartedAtTsMs ∧
      attempt.attemptStartedAtTsMs < attempt.sampleDeadlineTsMs)
    (.valueError "research attempt must be admitted within the frozen decision window")

/-- The fields in which a completion is compared with its proposal. -/
def TradeProposal.scope (proposal : TradeProposal) : String × ResearchArm × String × String × String × ℕ × String :=
  (proposal.campaignId, proposal.armId, proposal.sampleId, proposal.symbol, proposal.timeframe,
    proposal.marketAsOfTsMs, proposal.marketSnapshotSha256)

def ProposalCompletion.scope (completion : ProposalCompletion) :
    String × ResearchArm × String × String × String × ℕ × String :=
  (completion.campaignId, completion.armId, completion.sampleId, completion.symbol, completion.timeframe,
    completion.marketAsOfTsMs, completion.marketSnapshotSha256)

/-- `terminal_identity`, by the status. -/
def AttemptTerminal.identity (terminal : AttemptTerminal) : Except ResearchError Unit :=
  match terminal.terminalStatus, terminal.proposal, terminal.completion, terminal.failure with
  | .completed, some proposal, some completion, none => do
    require (completion.proposalId = proposal.proposalId)
      (.valueError "attempt completion differs from its independently stored proposal")
    require (completion.modelProvenance = proposal.modelProvenance)
      (.valueError "attempt completion provenance differs from its proposal")
    require (completion.scope = proposal.scope) (.valueError "attempt completion scope differs from its proposal")
    require (terminal.observedAtTsMs = completion.responseObservedAtTsMs)
      (.valueError "terminal observation differs from gateway completion time")
  | .completed, _, _, _ => .error (.valueError "completed research attempt requires its exact proposal and completion")
  | .failed, none, none, some failure =>
    require (terminal.observedAtTsMs = failure.failureObservedAtTsMs)
      (.valueError "terminal observation differs from gateway failure time")
  | .failed, _, _, _ =>
    .error (.valueError "failed research attempt requires only a caller-observed failure receipt")
  | .unresolved, none, none, none => pure ()
  | .unresolved, _, _, _ => .error (.valueError "unresolved attempt cannot fabricate a failure or model decision")

def AttemptTerminal.verify (terminal : AttemptTerminal) : Except ResearchError Unit := do
  terminal.identity
  require ((∀ completion ∈ terminal.completion, completion.attemptId = terminal.attemptId) ∧
      ∀ failure ∈ terminal.failure, failure.attemptId = terminal.attemptId)
    (.valueError "terminal receipt refers to a different admitted attempt")

end Validators

section Context

variable (s : ResearchDatabase) (campaignId : String)

def checkEnrollment (schedule : ObservationSchedule) (protocol : CandidateProtocol) : Except ResearchError Unit := do
  let enrollment ← found (s.enrollment? campaignId)
    (.messageIdentityConflict "campaign is not independently evidence-enrolled or enrollment changed")
  require (enrollment.scheduleDigest = schedule.scheduleDigest ∧
      enrollment.candidateProtocolDigest = protocol.protocolDigest)
    (.messageIdentityConflict "campaign is not independently evidence-enrolled or enrollment changed")

/-- `_context`, without the enrollment and the window. -/
def frozenContext : Except ResearchError (ObservationSchedule × CandidateProtocol) := do
  let row ← found (s.schedule? campaignId)
    (.messageIdentityConflict "independent evidence requires a new eligible preregistered SIM schedule")
  require (row.independentEvidenceRegistrationAllowed)
    (.messageIdentityConflict "independent evidence requires a new eligible preregistered SIM schedule")
  let schedule := row.payload
  verifySchedule s row schedule
  let protocolRow ← found (s.protocol? campaignId)
    (.messageIdentityConflict "independent evidence requires a previously committed frozen protocol")
  require (protocolRow.freezeTxid ≠ s.txid)
    (.messageIdentityConflict "independent evidence requires a previously committed frozen protocol")
  let protocol ← verifyProtocol contracts protocolRow
  require (protocol.scheduleDigest = schedule.scheduleDigest)
    (.messageIdentityConflict "independent evidence protocol differs from its schedule")
  pure (schedule, protocol)

/-- `_context` of an enrolled campaign. -/
def evidenceContext : Except ResearchError (ObservationSchedule × CandidateProtocol) := do
  let (schedule, protocol) ← frozenContext contracts s campaignId
  checkEnrollment s campaignId schedule protocol
  pure (schedule, protocol)

def evidenceWindow (schedule : ObservationSchedule) (sampleId : String) : Except ResearchError ObservationWindow :=
  found (schedule.window? sampleId) (.messageIdentityConflict "evidence sample is absent from the frozen schedule")

/-- `_bind`. -/
def bindIdentity (scheduleDigest candidateProtocolDigest : String) (schedule : ObservationSchedule)
    (protocol : CandidateProtocol) : Except ResearchError Unit :=
  require (scheduleDigest = schedule.scheduleDigest ∧ candidateProtocolDigest = protocol.protocolDigest)
    (.messageIdentityConflict "research evidence differs from its preregistered source identity")

end Context

section Guards

variable (s : ResearchDatabase)

/-- What `simulator_guard_independent_evidence_insert` asks of the campaign of every row. -/
def guardEnrolled (campaignId : String) : Except ResearchError EnrollmentRow := do
  let enrollment ← found (s.enrollment? campaignId)
    (.raiseException "independent evidence requires a previously committed enrolled SIM campaign")
  require (enrollment.enrollmentTxid ≠ s.txid)
    (.raiseException "independent evidence requires a previously committed enrolled SIM campaign")
  pure enrollment

/-- The window of a row, and its digests against the enrollment. -/
def guardWindow (campaignId sampleId scheduleDigest candidateProtocolDigest : String) :
    Except ResearchError WindowRow := do
  let enrollment ← guardEnrolled s campaignId
  let window ← found (s.window? campaignId sampleId)
    (.raiseException "independent evidence differs from frozen enrolled sample identity")
  require (scheduleDigest = enrollment.scheduleDigest ∧ candidateProtocolDigest = enrollment.candidateProtocolDigest)
    (.raiseException "independent evidence differs from frozen enrolled sample identity")
  pure window

/-- The results of a sample. -/
def ResearchDatabase.resultsOf (campaignId sampleId : String) : List SampleRow :=
  s.samples.filter fun row => row.sample.campaignId = campaignId ∧ row.sample.sampleId = sampleId

/-- A market source differs from its window. -/
def MarketMismatch (receipt : SourceReceipt) (window : ObservationWindow) : Prop :=
  receipt.sourceKind = .marketSnapshot ∧ (receipt.sourceAsOfTsMs ≠ window.marketAsOfTsMs ∨
    ∃ digest ∈ window.marketSnapshotSha256, contracts.contentSha256 receipt.content ≠ digest)

instance (receipt : SourceReceipt) (window : ObservationWindow) : Decidable (MarketMismatch contracts receipt window) :=
  inferInstanceAs (Decidable (_ ∧ _))

def guardSource (receipt : SourceReceipt) : Except ResearchError Unit := do
  let window ← guardWindow s receipt.campaignId receipt.sampleId receipt.scheduleDigest receipt.candidateProtocolDigest
  require (s.source? (contracts.sourceSha256 receipt) = none → s.resultsOf receipt.campaignId receipt.sampleId = [])
    (.raiseException "source evidence cannot be added after sample results")
  require (receipt.sourceAsOfTsMs ≤ receipt.observedAtTsMs)
    (.raiseException "source evidence lacks bounded content or honest observation clocks")
  require (¬MarketMismatch contracts receipt window.toObservationWindow)
    (.raiseException "market source differs from frozen snapshot")

/-- The sources of an evaluation are there in time. -/
def guardEvaluationSources (receipt : StrategyEvaluation) (window : ObservationWindow) : Except ResearchError Unit :=
  receipt.sourceReceiptSha256s.forM fun digest => do
    let source ← found (s.sources.find? fun row => row.receiptSha256 = digest ∧
        row.receipt.campaignId = receipt.campaignId ∧ row.receipt.sampleId = receipt.sampleId)
      (.raiseException "evaluation source is absent or unavailable at frozen clock")
    require (source.receipt.observedAtTsMs ≤ window.marketAsOfTsMs)
      (.raiseException "evaluation source is absent or unavailable at frozen clock")

def guardEvaluation (receipt : StrategyEvaluation) : Except ResearchError Unit := do
  let window ← guardWindow s receipt.campaignId receipt.sampleId receipt.scheduleDigest receipt.candidateProtocolDigest
  require (s.resultsOf receipt.campaignId receipt.sampleId = [] ∨ s.evaluation? (contracts.evaluationSha256 receipt) ≠ none)
    (.raiseException "evaluation evidence cannot be fabricated after sample results")
  let roster ← found (s.schedule? receipt.campaignId)
    (.raiseException "evaluation scope differs from frozen evaluator or causal window")
  require (receipt.strategyId = roster.strategyId ∧ receipt.strategyRevision = roster.strategyRevision ∧
      receipt.evaluatorSha256 = roster.payload.evaluatorSha256 ∧ receipt.symbol = window.symbol ∧
      receipt.timeframe = window.timeframe ∧ receipt.evidenceAsOfTsMs = window.marketAsOfTsMs ∧
      window.marketAsOfTsMs ≤ receipt.evaluatedAtTsMs ∧ receipt.evaluatedAtTsMs ≤ window.pairedAtTsMs ∧
      1 ≤ receipt.sourceReceiptSha256s.length ∧ receipt.sourceReceiptSha256s.length ≤ 128)
    (.raiseException "evaluation scope differs from frozen evaluator or causal window")
  guardEvaluationSources s receipt window.toObservationWindow
  require (∃ row ∈ s.sources, row.receipt.campaignId = receipt.campaignId ∧ row.receipt.sampleId = receipt.sampleId ∧
      row.receipt.sourceKind = .marketSnapshot ∧ row.contentSha256 = receipt.marketSnapshotSha256 ∧
      row.receiptSha256 ∈ receipt.sourceReceiptSha256s)
    (.raiseException "evaluation lacks independently saved exact market snapshot")

def guardStart (attempt : AttemptStart) : Except ResearchError Unit := do
  let window ← guardWindow s attempt.campaignId attempt.sampleId attempt.scheduleDigest attempt.candidateProtocolDigest
  require (attempt.budgetReservationId = attempt.attemptId ∧ attempt.symbol = window.symbol ∧
      attempt.timeframe = window.timeframe ∧ attempt.marketAsOfTsMs = window.marketAsOfTsMs ∧
      attempt.sampleDeadlineTsMs = window.sampleDeadlineTsMs ∧ window.marketAsOfTsMs ≤ attempt.attemptStartedAtTsMs ∧
      attempt.attemptStartedAtTsMs < window.sampleDeadlineTsMs)
    (.raiseException "attempt admission identity or frozen clock differs")
  require (∃ row ∈ s.sources, row.receipt.campaignId = attempt.campaignId ∧ row.receipt.sampleId = attempt.sampleId ∧
      row.receipt.sourceKind = .marketSnapshot ∧ row.contentSha256 = attempt.marketSnapshotSha256 ∧
      row.receipt.observedAtTsMs ≤ window.marketAsOfTsMs)
    (.raiseException "attempt requires an independently saved causal market snapshot")
  require (∃ protocol ∈ s.protocol? attempt.campaignId, ∃ arm ∈ protocol.payload.arm? attempt.armId,
      some attempt.provider = arm.provider ∧ some attempt.requestedModel = arm.model ∧
      some attempt.promptSha256 = arm.promptSha256 ∧
      some attempt.armProtocolDigest = protocol.armDigest? attempt.armId.value)
    (.raiseException "attempt route differs from the preregistered model arm")
  require ((s.resultsOf attempt.campaignId attempt.sampleId).filter (·.sample.armId = attempt.armId.value) = [] ∨
      s.start? attempt.attemptId ≠ none)
    (.raiseException "attempt cannot be fabricated after model arm results")

/-- What a terminal observes: the attempt, where it was called and by which route. -/
def AttemptTerminal.observed (terminal : AttemptTerminal) : Option (String × CallScope × ModelRoute) :=
  match terminal.terminalStatus with
  | .unresolved => none
  | .failed => terminal.failure.map fun failure => (failure.attemptId, failure.toCallScope, failure.toModelRoute)
  | .completed =>
    terminal.completion.bind fun completion => terminal.proposal.map fun proposal =>
      (completion.attemptId, completion.toCallScope, proposal.modelProvenance.toModelRoute)

/-- What the guard of the terminals says of one that does not have the shape of its status. -/
def TerminalStatus.mismatch : TerminalStatus → String
  | .unresolved => "unresolved attempt cannot fabricate a model decision or failure"
  | .failed => "failed attempt requires only its actual observed failure"
  | .completed => "completed attempt requires its exact proposal and gateway completion"

def guardTerminal (terminal : AttemptTerminal) : Except ResearchError Unit := do
  let start ← found (s.start? terminal.attemptId)
    (.raiseException "independent evidence requires a previously committed enrolled SIM campaign")
  let _ ← guardEnrolled s start.receipt.campaignId
  require (start.receipt.attemptStartedAtTsMs ≤ terminal.observedAtTsMs)
    (.raiseException "terminal evidence differs from admitted attempt identity")
  require (terminal.identity = .ok ()) (.raiseException terminal.terminalStatus.mismatch)
  require (∀ observed ∈ terminal.observed,
      observed = (start.receipt.attemptId, start.receipt.toCallScope, start.receipt.toModelRoute))
    (.raiseException "terminal scope differs from durable admitted attempt")

end Guards

section Reads

variable (s : ResearchDatabase)

/-- `_load` of a source. -/
def loadSource (receiptSha256 : String) : Except ResearchError SourceRow :=
  found (s.source? receiptSha256) (.messageIdentityConflict "independently stored research receipt is missing")

/-- `_market_source`. -/
def checkMarketSource (campaignId sampleId digest : String) (clock : ℕ) : Except ResearchError Unit := do
  let source ← found (s.marketSource? campaignId sampleId)
    (.messageIdentityConflict "research observation lacks an independently saved market snapshot")
  require (source.contentSha256 = digest ∧ source.receipt.sourceAsOfTsMs = clock ∧ source.receipt.observedAtTsMs ≤ clock)
    (.messageIdentityConflict "research market source is changed or unavailable at the causal clock")

/-- The loop of `_resolve_evaluation` over the sources; whether the last market source is the exact one. -/
def resolveSources (receipt : StrategyEvaluation) : Except ResearchError Bool :=
  receipt.sourceReceiptSha256s.foldlM (fun marketFound digest => do
    let source ← loadSource s digest
    require (source.receipt.campaignId = receipt.campaignId ∧ source.receipt.sampleId = receipt.sampleId ∧
        source.receipt.observedAtTsMs ≤ receipt.evidenceAsOfTsMs)
      (.messageIdentityConflict "evaluation source was absent or unavailable at the frozen market clock")
    pure (if source.receipt.sourceKind = .marketSnapshot then
      decide (source.contentSha256 = receipt.marketSnapshotSha256) else marketFound)) false

/-- `_resolve_evaluation`. -/
def resolveEvaluation (receipt : StrategyEvaluation) : Except ResearchError Unit := do
  let (schedule, protocol) ← evidenceContext contracts s receipt.campaignId
  let window ← evidenceWindow schedule receipt.sampleId
  bindIdentity receipt.scheduleDigest receipt.candidateProtocolDigest schedule protocol
  require (receipt.strategyId = schedule.strategyId ∧ receipt.strategyRevision = schedule.strategyRevision ∧
      receipt.evaluatorSha256 = schedule.evaluatorSha256 ∧ receipt.symbol = window.symbol ∧
      receipt.timeframe = window.timeframe ∧ receipt.evidenceAsOfTsMs = window.marketAsOfTsMs ∧
      receipt.evaluatedAtTsMs ≤ window.pairedAtTsMs)
    (.messageIdentityConflict "independent evaluation differs from its frozen causal window or evaluator")
  let marketFound ← resolveSources s receipt
  require (marketFound)
    (.messageIdentityConflict "evaluation lacks its independently saved exact market snapshot")

/-- `_resolve_proposal_evidence`. -/
def resolveProposalEvidence (proposal : TradeProposal) : Except ResearchError Unit :=
  proposal.evidence.forM fun reference => do
    let source ← found (s.sources.find? fun row => row.receipt.campaignId = proposal.campaignId ∧
        row.receipt.sampleId = proposal.sampleId ∧ row.receipt.sourceKind = reference.kind ∧
        row.receipt.reference = reference.reference ∧ row.contentSha256 = reference.contentSha256)
      (.messageIdentityConflict "model proposal cites absent independent source evidence")
    require (source.receipt.observedAtTsMs = reference.observedAtMs ∧
        source.receipt.observedAtTsMs ≤ proposal.marketAsOfTsMs)
      (.messageIdentityConflict "model proposal cites unavailable independent source evidence")

/-- `_load_attempt`. -/
def loadAttempt (attemptId : String) : Except ResearchError (StartRow × Option AttemptTerminal) := do
  let start ← found (s.start? attemptId)
    (.messageIdentityConflict "independently stored research receipt is missing")
  let terminal := (s.terminal? attemptId).map (·.receipt)
  require (∀ t ∈ terminal, t.startReceiptSha256 = start.receiptSha256)
    (.messageIdentityConflict "stored attempt terminal refers to changed admitted facts")
  pure (start, terminal)

end Reads

end KairosPersistence
