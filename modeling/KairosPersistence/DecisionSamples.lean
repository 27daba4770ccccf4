import KairosPersistence.ObservationSchedules

/-!
The decision samples of the arms, with the guards of their table, and the seal
of a campaign that has them all.
-/

namespace KairosPersistence

open PythonText
open Transactions (bind_ok require require_ok found found_ok)

variable (contracts : ResearchContracts)

section Checks

variable (sample : DecisionSample)

def DecisionSample.digests : List String :=
  [sample.sampleRecordId, sample.marketSnapshotSha256] ++
    [sample.armProtocolDigest, sample.strategyEvaluationSha256, sample.strategyMarketSnapshotSha256,
      sample.strategyIntentId, sample.llmMarketSnapshotSha256, sample.llmProposalId, sample.llmCompletionReceiptId,
      sample.llmFailureReceiptId].flatMap Option.toList

/-- `sim_research_decision_samples_strategy_evidence_check`. -/
def DecisionSample.StrategyEvidence : Prop :=
  if sample.strategyOutcome = .notEvaluated then
    sample.strategyEvaluationSha256 = none ∧ sample.strategyEvidenceAsOfTsMs = none ∧
      sample.strategyMarketSnapshotSha256 = none ∧ sample.strategyIntentId = none ∧
      sample.strategyIntentExpiresAtTsMs = none
  else
    sample.strategyEvaluationSha256 ≠ none ∧ sample.strategyEvidenceAsOfTsMs ≠ none ∧
      sample.strategyMarketSnapshotSha256 = some sample.marketSnapshotSha256 ∧
      (sample.strategyIntentId ≠ none ↔ sample.strategyOutcome = .long ∨ sample.strategyOutcome = .short) ∧
      (sample.strategyIntentExpiresAtTsMs ≠ none ↔ sample.strategyOutcome = .long ∨ sample.strategyOutcome = .short)

/-- `sim_research_decision_samples_llm_evidence_check`. -/
def DecisionSample.LLMEvidence : Prop :=
  match sample.llmOutcome with
  | .notCalled =>
    sample.llmEvidenceAsOfTsMs = none ∧ sample.llmMarketSnapshotSha256 = none ∧ sample.llmProposalId = none ∧
      sample.llmProposalExpiresAtTsMs = none ∧ sample.llmCompletionReceiptId = none ∧
      sample.llmCompletionStartedAtTsMs = none ∧ sample.llmCompletionObservedAtTsMs = none ∧
      sample.llmFailureReceiptId = none ∧ sample.llmFailureClass = none ∧ sample.llmFailureStartedAtTsMs = none ∧
      sample.llmFailureObservedAtTsMs = none
  | .callFailed =>
    sample.llmEvidenceAsOfTsMs = some sample.marketAsOfTsMs ∧
      sample.llmMarketSnapshotSha256 = some sample.marketSnapshotSha256 ∧ sample.llmProposalId = none ∧
      sample.llmProposalExpiresAtTsMs = none ∧ sample.llmCompletionReceiptId = none ∧
      sample.llmCompletionStartedAtTsMs = none ∧ sample.llmCompletionObservedAtTsMs = none ∧
      sample.llmFailureReceiptId ≠ none ∧ sample.llmFailureClass ≠ none ∧
      ∃ started ∈ sample.llmFailureStartedAtTsMs, ∃ observed ∈ sample.llmFailureObservedAtTsMs, started ≤ observed
  | outcome =>
    sample.llmEvidenceAsOfTsMs ≠ none ∧ sample.llmMarketSnapshotSha256 = some sample.marketSnapshotSha256 ∧
      sample.llmProposalId ≠ none ∧ sample.llmCompletionReceiptId ≠ none ∧
      (∃ started ∈ sample.llmCompletionStartedAtTsMs, ∃ observed ∈ sample.llmCompletionObservedAtTsMs,
        started ≤ observed) ∧
      (sample.llmProposalExpiresAtTsMs ≠ none ↔ outcome ∈ [.longBias, .shortBias, .volatilityAlert]) ∧
      sample.llmFailureReceiptId = none ∧ sample.llmFailureClass = none ∧ sample.llmFailureStartedAtTsMs = none ∧
      sample.llmFailureObservedAtTsMs = none

instance : Decidable sample.StrategyEvidence := by
  unfold DecisionSample.StrategyEvidence
  exact inferInstance

instance : Decidable sample.LLMEvidence := by
  unfold DecisionSample.LLMEvidence
  split <;> exact inferInstance

/-- The checks of the columns of `sim_research_decision_samples`. -/
def DecisionSample.ColumnsChecked : Prop :=
  (∀ digest ∈ sample.digests, isSha256 digest) ∧ sample.marketAsOfTsMs ≤ sample.pairedAtTsMs ∧
    sample.pairedAtTsMs < sample.sampleDeadlineTsMs ∧
    (∀ asOf ∈ sample.strategyEvidenceAsOfTsMs, asOf ≤ sample.marketAsOfTsMs) ∧
    (∀ expires ∈ sample.strategyIntentExpiresAtTsMs, sample.pairedAtTsMs < expires) ∧
    (∀ asOf ∈ sample.llmEvidenceAsOfTsMs, asOf ≤ sample.marketAsOfTsMs) ∧
    (∀ expires ∈ sample.llmProposalExpiresAtTsMs, sample.pairedAtTsMs < expires) ∧
    (∀ time ∈ [sample.llmCompletionStartedAtTsMs, sample.llmCompletionObservedAtTsMs, sample.llmFailureStartedAtTsMs,
      sample.llmFailureObservedAtTsMs].flatMap Option.toList, sample.marketAsOfTsMs ≤ time ∧ time ≤ sample.pairedAtTsMs) ∧
    sample.StrategyEvidence ∧ sample.LLMEvidence

instance : Decidable sample.ColumnsChecked := inferInstanceAs (Decidable (_ ∧ _))

end Checks

section Guards

variable (s : ResearchDatabase) (sample : DecisionSample)

/-- `simulator_guard_scheduled_research_sample`. -/
def guardScheduledSample (now : Timestamp) : Except ResearchError Unit :=
  match s.schedule? sample.campaignId with
  | none => .ok ()
  | some roster => do
    require (s.seal? sample.campaignId = none) (.raiseException "sealed SIM research campaign rejects further results")
    require (sample.armId ∈ researchArms.map (·.value))
      (.raiseException "SIM research result is outside the frozen arm set")
    let protocol ← found (s.protocol? sample.campaignId)
      (.raiseException "scheduled SIM research result requires a previously committed exact adaptive protocol")
    require (protocol.freezeTxid ≠ s.txid ∧ protocol.scheduleDigest = roster.scheduleDigest)
      (.raiseException "scheduled SIM research result requires a previously committed exact adaptive protocol")
    require (sample.armProtocolDigest ≠ none ∧ sample.armProtocolDigest = protocol.armDigest? sample.armId)
      (.raiseException "SIM research result arm digest differs from the frozen adaptive protocol")
    let window ← found (s.window? sample.campaignId sample.sampleId)
      (.raiseException "SIM research result differs from the frozen window")
    require (sample.symbol = window.symbol ∧ sample.timeframe = window.timeframe ∧
        sample.marketAsOfTsMs = window.marketAsOfTsMs ∧
        (∀ digest ∈ window.marketSnapshotSha256, sample.marketSnapshotSha256 = digest) ∧
        sample.pairedAtTsMs = window.pairedAtTsMs ∧ sample.sampleDeadlineTsMs = window.sampleDeadlineTsMs)
      (.raiseException "SIM research result differs from the frozen window")
    require (sample.strategyId = roster.strategyId ∧ sample.strategyRevision = roster.strategyRevision)
      (.raiseException "SIM research result differs from the frozen strategy")
    require (sample.armId = ResearchArm.strategyOnly.value → sample.llmOutcome = .notCalled)
      (.raiseException "strategy-only SIM research arm cannot contain an LLM result")
    require (∀ prior ∈ s.samples, prior.sample.campaignId = sample.campaignId ∧ prior.sample.sampleId = sample.sampleId →
        prior.sample.toBaselineLineage = sample.toBaselineLineage)
      (.raiseException "matched SIM research arms disagree on snapshot or baseline strategy lineage")
    require (roster.frozenAt < now) (.raiseException "SIM research result predates its frozen schedule")

/-- What the attempt of an arm has come to, against what its sample says. -/
def guardAttemptOutcome (terminal : AttemptTerminal) : Except ResearchError Unit := do
  require (terminal.terminalStatus ≠ .unresolved ∧ terminal.observedAtTsMs ≤ sample.pairedAtTsMs)
    (.raiseException "unfinished ambiguous or late attempt cannot become a causal model result")
  if terminal.terminalStatus = .failed then
    require (sample.llmOutcome = .callFailed ∧ terminal.failure.map (·.failureReceiptId) = sample.llmFailureReceiptId)
      (.raiseException "source-qualified sample suppresses durable model failure")
  else
    require (terminal.proposal.map (·.proposalId) = sample.llmProposalId ∧
        terminal.proposal.map (·.action.outcome) = some sample.llmOutcome ∧
        terminal.completion.map (·.completionReceiptId) = sample.llmCompletionReceiptId)
      (.raiseException "source-qualified sample changes durable model completion")

/-- `simulator_guard_source_qualified_sample`. -/
def guardQualifiedSample : Except ResearchError Unit :=
  if s.enrollment? sample.campaignId = none then .ok ()
  else do
    let source ← found (s.marketSource? sample.campaignId sample.sampleId)
      (.raiseException "source-qualified observation requires independent causal market evidence")
    require (source.contentSha256 = sample.marketSnapshotSha256 ∧ source.receipt.observedAtTsMs ≤ sample.marketAsOfTsMs)
      (.raiseException "source-qualified observation requires independent causal market evidence")
    if sample.strategyOutcome ≠ .notEvaluated then
      let evaluation ← found (s.evaluations.find? fun row => some row.receiptSha256 = sample.strategyEvaluationSha256 ∧
          row.receipt.campaignId = sample.campaignId ∧ row.receipt.sampleId = sample.sampleId)
        (.raiseException "source-qualified sample differs from independent strategy evaluation")
      require (evaluation.receipt.marketSnapshotSha256 = sample.marketSnapshotSha256 ∧
          evaluation.receipt.evaluatedAtTsMs ≤ sample.pairedAtTsMs ∧
          (evaluation.receipt.intent.elim .noIntent (·.side.outcome)) = sample.strategyOutcome ∧
          evaluation.receipt.intent.map (·.intentId) = sample.strategyIntentId)
        (.raiseException "source-qualified sample differs from independent strategy evaluation")
    else
      require (∀ row ∈ s.evaluations,
          ¬(row.receipt.campaignId = sample.campaignId ∧ row.receipt.sampleId = sample.sampleId))
        (.raiseException "source-qualified sample suppresses independent strategy evaluation")
    match s.starts.find? fun row => row.receipt.campaignId = sample.campaignId ∧
        row.receipt.armId.value = sample.armId ∧ row.receipt.sampleId = sample.sampleId with
    | none =>
      require (sample.llmOutcome = .notCalled)
        (.raiseException "source-qualified model observation lacks a durable admitted attempt")
    | some start => do
      let terminal ← found (s.terminal? start.receipt.attemptId)
        (.raiseException "unfinished ambiguous or late attempt cannot become a causal model result")
      guardAttemptOutcome sample terminal.receipt

end Guards

section Writes

/-- The sample has the record id or the logical key of a stored one. -/
def DecisionSample.Collides (sample : DecisionSample) (row : SampleRow) : Prop :=
  row.sample.sampleRecordId = sample.sampleRecordId ∨
    (row.sample.campaignId, row.sample.armId, row.sample.sampleId) = (sample.campaignId, sample.armId, sample.sampleId)

instance (sample : DecisionSample) (row : SampleRow) : Decidable (sample.Collides row) :=
  inferInstanceAs (Decidable (_ ∨ _))

/-- `ResearchDecisionSampleRepository.record`. -/
def recordSample (sample : DecisionSample) (now : Timestamp) (s : ResearchDatabase) :
    Except ResearchError (ResearchDatabase × Bool) := do
  require (sample.sampleRecordId = contracts.sampleSha256 sample)
    (.valueError "research decision sample ID does not match its canonical payload")
  guardScheduledSample s sample now
  guardQualifiedSample s sample
  require sample.ColumnsChecked (.checkViolation "sim_research_decision_samples")
  match s.samples.filter sample.Collides with
  | [] => pure ({ s with samples := ⟨sample, now, s.txid⟩ :: s.samples }, true)
  | [row] => do
    require (row.sample = sample)
      (.messageIdentityConflict "campaign/arm/sample already contains a different immutable research decision")
    pure (s, false)
  | _ => .error (.messageIdentityConflict "research decision sample identity is ambiguous or missing")

/-- `ORDER BY sample_id, arm_id`. -/
def sampleRows (s : ResearchDatabase) (campaignId : String) : List SampleRow :=
  (s.samplesOf campaignId).insertionSort fun a b =>
    ¬(b.sample.sampleId < a.sample.sampleId ∨ b.sample.sampleId = a.sample.sampleId ∧ b.sample.armId < a.sample.armId)

/-- What `seal_coverage` reads again of a stored sample. -/
def checkSampleRow (roster : ScheduleRow) (protocol : CandidateProtocol) (row : SampleRow) : Except ResearchError Unit := do
  let armId ← found (researchArm? row.sample.armId)
    (.messageIdentityConflict "stored research result uses an unknown protocol arm")
  require (row.sample.armProtocolDigest = some (contracts.armDigest protocol armId))
    (.messageIdentityConflict "stored research arm result differs from its frozen protocol arm")
  require (roster.frozenAt < row.recordedAt)
    (.messageIdentityConflict "research arm result predates its frozen schedule")

/-- The insert of a row of `sim_research_coverage_seals`, with its guard. -/
def insertSeal (row : SealRow) (s : ResearchDatabase) : Except ResearchError ResearchDatabase := do
  let roster ← found (s.schedule? row.coverage.campaignId)
    (.raiseException "SIM coverage seal requires a preregistered schedule")
  let protocol ← found (s.protocol? row.coverage.campaignId)
    (.raiseException "new scheduled SIM coverage seal requires a previously committed exact adaptive protocol")
  require (protocol.freezeTxid ≠ s.txid ∧ protocol.scheduleDigest = roster.scheduleDigest ∧
      row.coverage.candidateProtocolDigest = protocol.protocolDigest ∧
      row.coverage.scheduleDigest = roster.scheduleDigest)
    (.raiseException "new scheduled SIM coverage seal requires a previously committed exact adaptive protocol")
  require (row.coverage.expectedResultCount = roster.windowCount * 3 ∧
      (s.samplesOf row.coverage.campaignId).length = row.coverage.expectedResultCount)
    (.raiseException "SIM coverage seal does not represent the exact scheduled result count")
  require (3 ≤ row.coverage.expectedResultCount) (.checkViolation "sim_research_coverage_seals")
  require (s.seal? row.coverage.campaignId = none) (.uniqueViolation "sim_research_coverage_seals_pkey")
  require (∀ r ∈ s.seals, r.coverageDigest ≠ row.coverageDigest)
    (.uniqueViolation "sim_research_coverage_seals_coverage_digest_key")
  pure { s with seals := row :: s.seals }

/-- `seal_coverage`. -/
def sealCoverage (campaignId : String) (s : ResearchDatabase) : Except ResearchError (ResearchDatabase × CoverageSeal) := do
  require (campaignId ≠ "" ∧ strip campaignId = campaignId)
    (.valueError "campaign_id must be a normalized non-empty identifier")
  let row ← found (s.schedule? campaignId) (.valueError "campaign has no preregistered SIM research schedule")
  require (s.seal? campaignId = none) (.messageIdentityConflict "research coverage was already sealed")
  let schedule := row.payload
  verifySchedule s row schedule
  let protocolRow ← found (s.protocol? campaignId)
    (.valueError "campaign has no registered adaptive candidate protocol")
  let protocol ← verifyProtocol contracts protocolRow
  require (protocolRow.freezeTxid ≠ s.txid ∧ protocol.campaignId = schedule.campaignId ∧
      protocol.scheduleDigest = schedule.scheduleDigest)
    (.messageIdentityConflict "coverage requires a previously committed exact adaptive protocol")
  (sampleRows s campaignId).forM (checkSampleRow contracts row protocol)
  let evaluated ← contracts.evaluateCoverage schedule ((sampleRows s campaignId).map (·.sample))
  let coverage : CoverageSeal :=
    { campaignId := evaluated.campaignId
      scheduleDigest := evaluated.scheduleDigest
      candidateProtocolDigest := protocol.protocolDigest
      expectedResultCount := evaluated.expectedResultCount
      resultIdsSha256 := evaluated.resultIdsSha256 }
  let t ← insertSeal ⟨coverage, contracts.coverageSha256 coverage⟩ s
  pure (t, coverage)

end Writes

end KairosPersistence
