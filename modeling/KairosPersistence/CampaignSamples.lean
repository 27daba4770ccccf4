import KairosPersistence.CampaignAttempts

/-!
The samples of a campaign, rebuilt from its journal: the pair of the causal
family, and the sample of the evidence that it had first.
-/

namespace KairosPersistence

open PythonJson
open Transactions (bind_ok require require_ok found found_ok)

variable (contracts : CampaignContracts)

section Pairs

/-- `_recorded_at` or `_causal_recorded_at` of a row. -/
def ReceiptRow.recordedAtTsMs (causal : Bool) (row : ReceiptRow) : ℕ :=
  if causal then ceilMs row.recordedAt else floorMs row.recordedAt

/-- `_decode_row` of a pair. -/
def decodePair (row : ReceiptRow) : Except ResearchError CausalPair :=
  match row.receipt with
  | .causalPair pair => .ok pair
  | _ => .error (.messageIdentityConflict "stored independent research receipt failed typed integrity verification")

/-- `comparison_identity`. -/
def CausalPair.verify (pair : CausalPair) : Except ResearchError Unit := do
  require (SortedDistinct pair.sourceReceiptSha256s) (.valueError "causal pair source hashes must be distinct and sorted")
  require (pair.marketAsOfTsMs ≤ pair.pairedAtTsMs) (.valueError "causal pair cannot precede its context")
  require (pair.strategyOutcome = .noIntent ↔ pair.strategyIntentId = none)
    (.valueError "causal pair baseline action differs from its original intent identity")

/-- What a pair is made of. -/
structure PairHistory where
  context : CampaignContext
  window : ObservationWindow
  bundle : CausalBundle
  evaluation : CausalEvaluation
  evaluationRow : ReceiptRow
  start : AttemptStart
  terminal : AttemptTerminal
  terminalRow : ReceiptRow
  proposal : TradeProposal
  completion : ProposalCompletion

/-- The history of a completed proposal, with the evaluation of its sample. -/
def pairHistory (scheduler : Option String) (s : CampaignDatabase) (campaignId sampleId evaluationReceiptSha256
    attemptId : String) : Except ResearchError PairHistory := do
  let context ← campaignContext contracts scheduler s campaignId
  requireCausalPlan scheduler context.planRow.plan
  let claim ← loadClaim s campaignId sampleId
  let bundle ← loadBundle s campaignId sampleId
  let (descriptor, sources, market) ← causalContext contracts s claim bundle context
  match ← loadEvaluation true s evaluationReceiptSha256 with
  | .core _ => .error (.messageIdentityConflict "causal pair cannot adopt a legacy exact-clock evaluation")
  | .causal evaluation => do
    sameCausalEvaluation contracts evaluation descriptor market bundle context.schedule context.protocol
    let (evaluationRow, stored) ← found (← storedEvaluation s campaignId sampleId)
      (.messageIdentityConflict "causal pair evaluation is not the independently saved sample slot")
    require (stored = .causal evaluation)
      (.messageIdentityConflict "causal pair evaluation is not the independently saved sample slot")
    require ((s.rowsOf campaignId sampleId .llmProposalResearch .start).length = 1)
      (.messageIdentityConflict "causal pair requires exactly one independently admitted START")
    let startRow ← found (s.startOf? campaignId sampleId .llmProposalResearch)
      (.messageIdentityConflict "causal pair requires exactly one independently admitted START")
    let start ← decodeStart startRow
    let terminalRow ← found (s.row? ⟨campaignId, sampleId, some .llmProposalResearch, .terminal, attemptId⟩)
      (.messageIdentityConflict "unresolved START cannot become a causal pair")
    let terminal ← decodeTerminal terminalRow
    let window ← campaignWindow context.schedule sampleId
    let arm ← found (context.protocol.arm? .llmProposalResearch) .stopIteration
    require ((start.attemptId, start.campaignId, start.sampleId, start.armId) =
        (attemptId, campaignId, sampleId, .llmProposalResearch) ∧ terminal.attemptId = attemptId ∧
        terminal.startReceiptSha256 = contracts.startSha256 start ∧ terminal.terminalStatus = .completed)
      (.messageIdentityConflict "causal pair lacks an exact completed proposal START history")
    let proposal ← found terminal.proposal
      (.messageIdentityConflict "causal pair lacks an exact completed proposal START history")
    let completion ← found terminal.completion
      (.messageIdentityConflict "causal pair lacks an exact completed proposal START history")
    require ((start.symbol, start.timeframe, start.marketAsOfTsMs, start.sampleDeadlineTsMs) =
        (window.symbol, window.timeframe, window.marketAsOfTsMs, window.sampleDeadlineTsMs))
      (.messageIdentityConflict "causal pair START differs from preregistered sample")
    require (start.scheduleDigest = context.schedule.scheduleDigest ∧
        start.candidateProtocolDigest = context.protocol.protocolDigest ∧
        start.armProtocolDigest = contracts.armDigest context.protocol .llmProposalResearch ∧
        some start.provider = arm.provider ∧ some start.requestedModel = arm.model ∧
        some start.promptSha256 = arm.promptSha256 ∧ start.marketSnapshotSha256 = bundle.marketSnapshotSha256)
      (.messageIdentityConflict "causal pair START differs from frozen model or causal bundle")
    require (completion.toCallScope = start.toCallScope)
      (.messageIdentityConflict "causal pair completion differs from admitted START")
    require (proposal.modelProvenance = { start.toModelRoute with resolvedModel := start.requestedModel })
      (.messageIdentityConflict "causal pair backend differs from the frozen model")
    let evidence := sources.map fun source => contracts.referenceSha256
      ⟨source.sourceKind, source.reference, contracts.contentSha256 source.content, source.observedAtTsMs⟩
    require (∀ reference ∈ proposal.evidence, contracts.referenceSha256 reference ∈ evidence)
      (.messageIdentityConflict "causal pair proposal cites unsaved or post-cutoff evidence")
    pure ⟨context, window, bundle, evaluation, evaluationRow, start, terminal, terminalRow, proposal, completion⟩

/-- The actions that expire. -/
def ProposalAction.Expires (action : ProposalAction) : Prop := action ∈ [.longBias, .shortBias, .volatilityAlert]

instance (action : ProposalAction) : Decidable action.Expires := inferInstanceAs (Decidable (_ ∈ _))

/-- The history is of evidence that was there in time. -/
def PairHistory.Timely (history : PairHistory) (pairedAt : ℕ) : Prop :=
  history.window.marketAsOfTsMs ≤ history.start.attemptStartedAtTsMs ∧
    history.start.attemptStartedAtTsMs ≤ history.completion.responseObservedAtTsMs ∧
    history.completion.responseObservedAtTsMs ≤ pairedAt ∧ pairedAt ≤ history.window.pairedAtTsMs ∧
    history.window.pairedAtTsMs < history.window.sampleDeadlineTsMs ∧ ceilMs history.terminalRow.recordedAt ≤ pairedAt ∧
    history.evaluation.evaluatedAtTsMs ≤ pairedAt ∧ ceilMs history.evaluationRow.recordedAt ≤ pairedAt ∧
    (history.proposal.action.Expires → ∃ expiresAt ∈ history.proposal.expiresAtTsMs, pairedAt < expiresAt) ∧
    ∀ intent ∈ history.evaluation.intent, pairedAt < intent.entryExpiresTsMs

instance (history : PairHistory) (pairedAt : ℕ) : Decidable (history.Timely pairedAt) := inferInstanceAs (Decidable (_ ∧ _))

/-- The receipt of a pair. -/
def PairHistory.pair (history : PairHistory) (campaignId sampleId attemptId : String) (pairedAt : ℕ) : CausalPair where
  campaignId := campaignId
  sampleId := sampleId
  armId := .llmProposalResearch
  scheduleDigest := history.context.schedule.scheduleDigest
  candidateProtocolDigest := history.context.protocol.protocolDigest
  armProtocolDigest := contracts.armDigest history.context.protocol .llmProposalResearch
  bundleReceiptSha256 := contracts.bundleSha256 history.bundle
  evaluationReceiptSha256 := contracts.causalEvaluationSha256 history.evaluation
  sourceReceiptSha256s := history.bundle.sourceReceiptSha256s
  marketSnapshotSha256 := history.bundle.marketSnapshotSha256
  anchorBarSha256 := history.evaluation.anchorBarSha256
  barWindowSha256 := history.evaluation.barWindowSha256
  barCount := history.evaluation.barCount
  marketAsOfTsMs := history.window.marketAsOfTsMs
  pairedAtTsMs := pairedAt
  attemptId := attemptId
  startReceiptSha256 := contracts.startSha256 history.start
  terminalReceiptSha256 := contracts.terminalSha256 history.terminal
  completionReceiptId := history.completion.completionReceiptId
  proposalId := history.proposal.proposalId
  strategyOutcome := history.evaluation.intent.elim .noIntent (·.side.outcome)
  strategyIntentId := history.evaluation.intent.map (·.intentId)
  llmOutcome := history.proposal.action

/-- `record_causal_pair`. -/
def recordCausalPair (scheduler : Option String) (campaignId sampleId : String) (arm : ResearchArm)
    (evaluationReceiptSha256 attemptId : String) (clock recorded : ℕ) (s : CampaignDatabase) :
    Except ResearchError (CampaignDatabase × CausalPair) := do
  require (arm = .llmProposalResearch)
    (.messageIdentityConflict "causal pair is restricted to the proposal research arm")
  let history ← pairHistory contracts scheduler s campaignId sampleId evaluationReceiptSha256 attemptId
  match s.row? ⟨campaignId, sampleId, some .llmProposalResearch, .sample, "one"⟩ with
  | some old => do
    let saved ← decodePair old
    require (saved.pairedAtTsMs ≤ ceilMs old.recordedAt ∧ ceilMs old.recordedAt ≤ history.window.pairedAtTsMs)
      (.messageIdentityConflict "saved causal pair lacks timely actual database recording")
    require (history.Timely saved.pairedAtTsMs)
      (.messageIdentityConflict "late, stale or future evidence cannot become a causal pair")
    let receipt := history.pair contracts campaignId sampleId attemptId saved.pairedAtTsMs
    receipt.verify
    require (saved = receipt)
      (.messageIdentityConflict "causal pair cannot rewrite independently stored comparison facts")
    pure (s, saved)
  | none => do
    let pairedAt := ceilMs clock
    require (history.Timely pairedAt)
      (.messageIdentityConflict "late, stale or future evidence cannot become a causal pair")
    let receipt := history.pair contracts campaignId sampleId attemptId pairedAt
    receipt.verify
    let (t, _) ← storeReceipt contracts
      (receiptRow contracts campaignId sampleId (some .llmProposalResearch) "one" (.causalPair receipt) recorded) s
    require (pairedAt ≤ ceilMs recorded ∧ ceilMs recorded ≤ history.window.pairedAtTsMs)
      (.messageIdentityConflict "actual database pairing crossed its preregistered cutoff")
    pure (t, receipt)

end Pairs

section Samples

/-- The terminal of the START of the arm, if it has one. -/
def sampleTerminal (s : CampaignDatabase) (sample : DecisionSample) (arm : ResearchArm) (window : ObservationWindow) :
    Except ResearchError (Option AttemptTerminal) :=
  match s.startOf? sample.campaignId sample.sampleId arm with
  | none => .ok none
  | some startRow => do
    let start ← decodeStart startRow
    let row ← found (s.row? ⟨sample.campaignId, sample.sampleId, some arm, .terminal, start.attemptId⟩)
      (.messageIdentityConflict "unfinished START cannot become a causal sample")
    require (floorMs row.recordedAt ≤ window.pairedAtTsMs)
      (.messageIdentityConflict "late-recorded completion cannot become a causal sample")
    let terminal ← decodeTerminal row
    require (terminal.terminalStatus ≠ .unresolved)
      (.messageIdentityConflict "ambiguous START cannot become a causal sample")
    pure (some terminal)

/-- `record_verified_sample`. -/
def recordVerifiedSample (scheduler : Option String) (sample : DecisionSample) (recorded : ℕ) (s : CampaignDatabase) :
    Except ResearchError (CampaignDatabase × Bool) := do
  require (scheduler = none)
    (.messageIdentityConflict "Core V1 samples cannot write through the causal family opt-in")
  let context ← campaignContext contracts scheduler s sample.campaignId
  let window ← campaignWindow context.schedule sample.sampleId
  let receiptSha256 ← found sample.strategyEvaluationSha256
    (.messageIdentityConflict "independently stored campaign receipt is missing")
  match ← loadEvaluation false s receiptSha256 with
  | .causal _ =>
    .error (.messageIdentityConflict "stored independent research receipt failed typed integrity verification")
  | .core evaluation => do
    let arm ← found (researchArm? sample.armId) (.checkViolation "sim_adaptive_campaign_receipts")
    let terminal ← sampleTerminal s sample arm window
    let rebuilt ← contracts.buildSample
      { planned :=
          { campaignId := sample.campaignId
            armId := sample.armId
            sampleId := sample.sampleId
            symbol := window.symbol
            timeframe := window.timeframe
            marketAsOfTsMs := window.marketAsOfTsMs
            marketSnapshotSha256 := evaluation.marketSnapshotSha256
            strategyId := context.schedule.strategyId
            strategyRevision := context.schedule.strategyRevision
            pairedAtTsMs := window.pairedAtTsMs
            sampleDeadlineTsMs := window.sampleDeadlineTsMs }
        evaluation := some evaluation
        proposal := terminal.bind (·.proposal)
        completion := terminal.bind (·.completion)
        failure := terminal.bind (·.failure)
        llmWasCalled := (s.startOf? sample.campaignId sample.sampleId arm).isSome }
    require (sample = { rebuilt with
        sampleRecordId := sample.sampleRecordId
        armProtocolDigest := some (contracts.armDigest context.protocol arm) })
      (.messageIdentityConflict "causal sample differs from independently stored replay facts")
    storeReceipt contracts
      (receiptRow contracts sample.campaignId sample.sampleId (some arm) "one" (.sample sample) recorded) s

end Samples

end KairosPersistence
