import KairosPersistence.ResearchEvidence

/-!
What writes the evidence of a campaign, and the transactions of its verified
seal.
-/

namespace KairosPersistence

open PythonJson
open Transactions (bind_ok require require_ok found found_ok)

variable (contracts : ResearchContracts)

section Evidence

/-- The insert of `enroll_campaign`, with `simulator_guard_evidence_enrollment`. -/
def insertEnrollment (row : EnrollmentRow) (s : ResearchDatabase) : Except ResearchError (ResearchDatabase × Bool) := do
  require (∃ roster ∈ s.schedule? row.campaignId, ∃ protocol ∈ s.protocol? row.campaignId,
      roster.independentEvidenceRegistrationAllowed ∧ roster.freezeTxid ≠ s.txid ∧ protocol.freezeTxid ≠ s.txid ∧
      row.scheduleDigest = roster.scheduleDigest ∧ row.candidateProtocolDigest = protocol.protocolDigest)
    (.raiseException "independent evidence requires an exact new previously committed SIM roster")
  require (s.enrollment? row.campaignId = none → s.samplesOf row.campaignId = [] ∧ s.seal? row.campaignId = none)
    (.raiseException "independent evidence enrollment cannot adopt results or seals retrospectively")
  match s.enrollment? row.campaignId with
  | none => pure ({ s with enrollments := row :: s.enrollments }, true)
  | some stored => do
    require (stored.scheduleDigest = row.scheduleDigest ∧ stored.candidateProtocolDigest = row.candidateProtocolDigest)
      (.messageIdentityConflict "research evidence identity already contains different immutable facts")
    pure (s, false)

/-- `enroll_campaign`. -/
def enrollCampaign (campaignId : String) (s : ResearchDatabase) : Except ResearchError (ResearchDatabase × Bool) := do
  let (schedule, protocol) ← frozenContext contracts s campaignId
  insertEnrollment ⟨campaignId, schedule.scheduleDigest, protocol.protocolDigest, s.txid⟩ s

/-- The unique keys of the sources. -/
def SourceRow.Collides (row other : SourceRow) : Prop :=
  other.receiptSha256 = row.receiptSha256 ∨
    (other.receipt.campaignId, other.receipt.sampleId, other.receipt.sourceKind, other.receipt.sourceName,
        other.receipt.reference) =
      (row.receipt.campaignId, row.receipt.sampleId, row.receipt.sourceKind, row.receipt.sourceName,
        row.receipt.reference) ∨
    row.receipt.sourceKind = .marketSnapshot ∧ other.receipt.sourceKind = .marketSnapshot ∧
      (other.receipt.campaignId, other.receipt.sampleId) = (row.receipt.campaignId, row.receipt.sampleId)

instance (row other : SourceRow) : Decidable (row.Collides other) := inferInstanceAs (Decidable (_ ∨ _))

/-- The columns of the source are those of the other. -/
def SourceRow.Same (row other : SourceRow) : Prop :=
  row.receiptSha256 = other.receiptSha256 ∧ row.contentSha256 = other.contentSha256 ∧
    row.receipt.toSourceHeader = other.receipt.toSourceHeader ∧ dumps row.receipt.content = dumps other.receipt.content

instance (row other : SourceRow) : Decidable (row.Same other) := inferInstanceAs (Decidable (_ ∧ _))

/-- `record_source`. -/
def recordSource (receipt : SourceReceipt) (s : ResearchDatabase) : Except ResearchError (ResearchDatabase × Bool) := do
  receipt.verify
  let (schedule, protocol) ← evidenceContext contracts s receipt.campaignId
  let window ← evidenceWindow schedule receipt.sampleId
  bindIdentity receipt.scheduleDigest receipt.candidateProtocolDigest schedule protocol
  require (¬MarketMismatch contracts receipt window)
    (.messageIdentityConflict "saved market source differs from the frozen observation window")
  guardSource contracts s receipt
  let row : SourceRow := ⟨contracts.sourceSha256 receipt, contracts.contentSha256 receipt.content, receipt⟩
  if ∀ other ∈ s.sources, ¬row.Collides other then
    pure ({ s with sources := row :: s.sources }, true)
  else do
    require (∃ stored ∈ s.source? row.receiptSha256, stored.Same row)
      (.messageIdentityConflict "research evidence identity already contains different immutable facts")
    pure (s, false)

/-- `record_evaluation` of the evidence. -/
def recordEvidenceEvaluation (receipt : StrategyEvaluation) (s : ResearchDatabase) :
    Except ResearchError (ResearchDatabase × Bool) := do
  receipt.verify contracts
  resolveEvaluation contracts s receipt
  guardEvaluation contracts s receipt
  let row : EvaluationRow := ⟨contracts.evaluationSha256 receipt, receipt⟩
  if ∀ other ∈ s.evaluations, ¬(other.receiptSha256 = row.receiptSha256 ∨
      (other.receipt.campaignId, other.receipt.sampleId) = (receipt.campaignId, receipt.sampleId)) then
    pure ({ s with evaluations := row :: s.evaluations }, true)
  else do
    require (s.evaluation? row.receiptSha256 = some row)
      (.messageIdentityConflict "research evidence identity already contains different immutable facts")
    pure (s, false)

/-- `start_attempt` of the evidence. -/
def startEvidenceAttempt (attempt : AttemptStart) (s : ResearchDatabase) :
    Except ResearchError (ResearchDatabase × Bool) := do
  attempt.verify
  let (schedule, protocol) ← evidenceContext contracts s attempt.campaignId
  let window ← evidenceWindow schedule attempt.sampleId
  bindIdentity attempt.scheduleDigest attempt.candidateProtocolDigest schedule protocol
  require ((attempt.symbol, attempt.timeframe, attempt.marketAsOfTsMs, attempt.sampleDeadlineTsMs) =
      (window.symbol, window.timeframe, window.marketAsOfTsMs, window.sampleDeadlineTsMs))
    (.messageIdentityConflict "research attempt differs from its frozen decision window")
  require (∀ digest ∈ window.marketSnapshotSha256, attempt.marketSnapshotSha256 = digest)
    (.messageIdentityConflict "research attempt uses a different frozen snapshot")
  let arm ← found (protocol.arm? attempt.armId) .stopIteration
  require (attempt.armProtocolDigest = contracts.armDigest protocol attempt.armId ∧
      some attempt.provider = arm.provider ∧ some attempt.requestedModel = arm.model ∧
      some attempt.promptSha256 = arm.promptSha256)
    (.messageIdentityConflict "research attempt route or prompt differs from its frozen arm")
  checkMarketSource s attempt.campaignId attempt.sampleId attempt.marketSnapshotSha256 attempt.marketAsOfTsMs
  guardStart s attempt
  let row : StartRow := ⟨contracts.startSha256 attempt, attempt⟩
  if ∀ other ∈ s.starts, ¬(other.receipt.attemptId = attempt.attemptId ∨ other.receiptSha256 = row.receiptSha256 ∨
      (other.receipt.campaignId, other.receipt.armId, other.receipt.sampleId) =
        (attempt.campaignId, attempt.armId, attempt.sampleId)) then
    pure ({ s with starts := row :: s.starts }, true)
  else do
    require (s.start? attempt.attemptId = some row)
      (.messageIdentityConflict "research evidence identity already contains different immutable facts")
    pure (s, false)

/-- The route of the proposal, or of the failure. -/
def AttemptTerminal.provenance (terminal : AttemptTerminal) : Option ModelRoute :=
  (terminal.proposal.map (·.modelProvenance.toModelRoute)).or (terminal.failure.map (·.toModelRoute))

/-- What a terminal says of its attempt is what was admitted. -/
def checkTerminal (start : StartRow) (terminal : AttemptTerminal) : Except ResearchError Unit := do
  require (terminal.startReceiptSha256 = start.receiptSha256 ∧
      start.receipt.attemptStartedAtTsMs ≤ terminal.observedAtTsMs)
    (.messageIdentityConflict "attempt terminal differs from its admitted start")
  require ((∀ completion ∈ terminal.completion, completion.toCallScope = start.receipt.toCallScope) ∧
      ∀ failure ∈ terminal.failure, failure.toCallScope = start.receipt.toCallScope)
    (.messageIdentityConflict "terminal facts differ from the admitted attempt")
  require (∀ route ∈ terminal.provenance, route = start.receipt.toModelRoute)
    (.messageIdentityConflict "terminal route or reservation differs from the admitted attempt")

/-- `finish_attempt` of the evidence. -/
def finishEvidenceAttempt (terminal : AttemptTerminal) (s : ResearchDatabase) :
    Except ResearchError (ResearchDatabase × Bool) := do
  terminal.verify
  let (start, _) ← loadAttempt s terminal.attemptId
  checkTerminal start terminal
  terminal.proposal.elim (pure ()) (resolveProposalEvidence s)
  guardTerminal s terminal
  let row : TerminalRow := ⟨contracts.terminalSha256 terminal, terminal⟩
  if ∀ other ∈ s.terminals, ¬(other.receipt.attemptId = terminal.attemptId ∨ other.receiptSha256 = row.receiptSha256) then
    pure ({ s with terminals := row :: s.terminals }, true)
  else do
    require (s.terminal? terminal.attemptId = some row)
      (.messageIdentityConflict "research evidence identity already contains different immutable facts")
    pure (s, false)

end Evidence

section Verification

variable (s : ResearchDatabase) (sample : DecisionSample)

/-- The stored evaluation that a sample is of, if it is of one. -/
def verifyStrategy : Except ResearchError (Option EvaluationRow) :=
  match sample.strategyEvaluationSha256 with
  | some receiptSha256 => do
    let evaluation ← found (s.evaluation? receiptSha256)
      (.messageIdentityConflict "independently stored research receipt is missing")
    resolveEvaluation contracts s evaluation.receipt
    require (evaluation.receipt.campaignId = sample.campaignId ∧ evaluation.receipt.sampleId = sample.sampleId ∧
        evaluation.receipt.marketSnapshotSha256 = sample.marketSnapshotSha256)
      (.messageIdentityConflict "sample evaluation differs from its independently stored source")
    require (sample.strategyOutcome = evaluation.receipt.intent.elim .noIntent (·.side.outcome) ∧
        sample.strategyIntentId = evaluation.receipt.intent.map (·.intentId))
      (.messageIdentityConflict "sample suppresses or fabricates its independently stored strategy evaluation")
    pure (some evaluation)
  | none => do
    require (sample.strategyOutcome = .notEvaluated)
      (.messageIdentityConflict "evaluated research sample lacks an independently stored evaluation")
    require (∀ row ∈ s.evaluations,
        ¬(row.receipt.campaignId = sample.campaignId ∧ row.receipt.sampleId = sample.sampleId))
      (.messageIdentityConflict "sample suppresses an independently stored strategy evaluation")
    pure none

/-- A finished attempt against what the sample of its arm says. -/
def checkFinished (terminal : AttemptTerminal) : Except ResearchError Unit := do
  require (terminal.terminalStatus ≠ .unresolved)
    (.messageIdentityConflict "unfinished or ambiguous attempt cannot become NOT_CALLED or a model decision")
  require (terminal.observedAtTsMs ≤ sample.pairedAtTsMs)
    (.messageIdentityConflict "late attempt terminal cannot be backdated into a causal observation")
  if terminal.terminalStatus = .failed then
    require (sample.llmOutcome = .callFailed ∧
        sample.llmFailureReceiptId = terminal.failure.map (·.failureReceiptId))
      (.messageIdentityConflict "sample suppresses or changes its independently stored failure")
  else
    require (sample.llmProposalId = terminal.proposal.map (·.proposalId) ∧
        sample.llmCompletionReceiptId = terminal.completion.map (·.completionReceiptId) ∧
        some sample.llmOutcome = terminal.proposal.map (·.action.outcome))
      (.messageIdentityConflict "sample differs from its independently stored completed model decision")

/-- The stored terminal of the attempt of the arm, if it has one. -/
def verifyAttempt : Except ResearchError (Option AttemptTerminal) :=
  match s.starts.find? fun row => row.receipt.campaignId = sample.campaignId ∧
      row.receipt.armId.value = sample.armId ∧ row.receipt.sampleId = sample.sampleId with
  | none => do
    require (sample.llmOutcome = .notCalled)
      (.messageIdentityConflict "LLM observation lacks an independently stored attempt")
    pure none
  | some start => do
    let (_, stored) ← loadAttempt s start.receipt.attemptId
    let terminal ← found stored
      (.messageIdentityConflict "unfinished or ambiguous attempt cannot become NOT_CALLED or a model decision")
    checkFinished sample terminal
    terminal.proposal.elim (pure ()) (resolveProposalEvidence s)
    pure (some terminal)

/-- `_verify_sample`. -/
def verifySample : Except ResearchError Unit := do
  let (schedule, protocol) ← evidenceContext contracts s sample.campaignId
  let _ ← evidenceWindow schedule sample.sampleId
  let armId ← found (researchArm? sample.armId)
    (.messageIdentityConflict "research sample differs from the enrolled frozen arm")
  require (sample.armProtocolDigest = some (contracts.armDigest protocol armId))
    (.messageIdentityConflict "research sample differs from the enrolled frozen arm")
  let evaluation ← verifyStrategy contracts s sample
  checkMarketSource s sample.campaignId sample.sampleId sample.marketSnapshotSha256 sample.marketAsOfTsMs
  let terminal ← verifyAttempt s sample
  let rebuilt ← contracts.buildSample
    { planned := sample.toScheduledSample
      evaluation := evaluation.map (·.receipt)
      proposal := terminal.bind (·.proposal)
      completion := terminal.bind (·.completion)
      failure := terminal.bind (·.failure)
      llmWasCalled := terminal.isSome }
  require (sample = { rebuilt with
      sampleRecordId := sample.sampleRecordId
      armProtocolDigest := some (contracts.armDigest protocol armId) })
    (.messageIdentityConflict "sample facts do not exactly replay from independently stored source receipts")

end Verification

section Seals

/-- The first transaction of `seal_verified_coverage`: every stored sample is verified; what has been
sealed already is read. -/
def verifyCampaign (campaignId : String) (s : ResearchDatabase) :
    Except ResearchError (List DecisionSample × Option SealRow) := do
  let _ ← evidenceContext contracts s campaignId
  let samples := (s.samplesOf campaignId).map (·.sample)
  samples.forM (verifySample contracts s)
  pure (samples, s.seal? campaignId)

/-- What an existing seal is before it is qualified. -/
def existingCoverage (row : SealRow) : Except ResearchError CoverageSeal := do
  require (row.coverageDigest = contracts.coverageSha256 row.coverage)
    (.messageIdentityConflict "existing coverage seal changed after construction")
  pure row.coverage

/-- `ORDER BY receipt_sha256`. -/
def receiptIds (receiptSha256s : List String) : String :=
  contracts.receiptIdsSha256 (receiptSha256s.insertionSort fun a b => ¬b < a)

/-- The receipt of a coverage, with the evidence that is there. -/
def qualifiedCoverage (campaignId : String) (coverage : CoverageSeal) (s : ResearchDatabase) : QualifiedCoverage where
  campaignId := campaignId
  coverage := coverage
  sourceIdsSha256 := receiptIds contracts
    ((s.sources.filter (·.receipt.campaignId = campaignId)).map (·.receiptSha256))
  evaluationIdsSha256 := receiptIds contracts
    ((s.evaluations.filter (·.receipt.campaignId = campaignId)).map (·.receiptSha256))
  attemptStartIdsSha256 := receiptIds contracts
    ((s.starts.filter (·.receipt.campaignId = campaignId)).map (·.receiptSha256))
  attemptTerminalIdsSha256 := receiptIds contracts
    ((s.terminals.filter fun row =>
      (s.start? row.receipt.attemptId).any (·.receipt.campaignId = campaignId)).map (·.receiptSha256))

/-- The insert of a row of `sim_research_source_qualified_seals`, with its guard. -/
def insertQualified (row : QualifiedRow) (s : ResearchDatabase) : Except ResearchError ResearchDatabase := do
  require (∃ stored ∈ s.seals, stored.coverage.campaignId = row.receipt.campaignId ∧
      stored.coverageDigest = row.coverageDigest ∧ stored.coverage = row.receipt.coverage)
    (.raiseException "independent source seal is engineering-only and must match its immutable coverage")
  if ∀ other ∈ s.qualifiedSeals, ¬(other.receipt.campaignId = row.receipt.campaignId ∨
      other.receiptSha256 = row.receiptSha256 ∨ other.coverageDigest = row.coverageDigest) then
    pure { s with qualifiedSeals := row :: s.qualifiedSeals }
  else do
    require (s.qualifiedSeal? row.receipt.campaignId = some row)
      (.messageIdentityConflict "research evidence identity already contains different immutable facts")
    pure s

/-- The last transaction of `seal_verified_coverage`. -/
def qualifyCoverage (campaignId : String) (coverage : CoverageSeal) (s : ResearchDatabase) :
    Except ResearchError (ResearchDatabase × QualifiedCoverage) := do
  let (schedule, protocol) ← evidenceContext contracts s campaignId
  require (coverage.campaignId = campaignId ∧ coverage.scheduleDigest = schedule.scheduleDigest ∧
      coverage.candidateProtocolDigest = protocol.protocolDigest)
    (.messageIdentityConflict "existing seal differs from independently enrolled campaign")
  let qualified := qualifiedCoverage contracts campaignId coverage s
  let t ← insertQualified ⟨contracts.qualifiedSha256 qualified, contracts.coverageSha256 coverage, qualified⟩ s
  pure (t, qualified)

end Seals

end KairosPersistence
