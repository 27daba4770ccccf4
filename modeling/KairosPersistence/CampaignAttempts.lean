import KairosPersistence.CampaignEvaluations
import KairosPersistence.PythonText
import KairosPersistence.ResearchWrites

/-!
The attempts of a campaign: the START that fences the call of a model, and the
terminal or the review that completes it.
-/

namespace KairosPersistence

open PythonJson PythonText
open Transactions (bind_ok require require_ok found found_ok)

variable (contracts : CampaignContracts)

section Lookups

variable (s : CampaignDatabase)

/-- The rows that `find_attempt` selects; its query has no order. -/
def CampaignDatabase.startsNamed (attemptId : String) : List ReceiptRow :=
  s.receipts.filter fun row => row.receipt.kind = .start ∧ row.slotKey = attemptId

/-- `_decode_row` of a START. -/
def decodeStart (row : ReceiptRow) : Except ResearchError AttemptStart :=
  match row.receipt with
  | .start start => .ok start
  | _ => .error (.messageIdentityConflict "stored independent research receipt failed typed integrity verification")

/-- `_decode_row` of a terminal. -/
def decodeTerminal (row : ReceiptRow) : Except ResearchError AttemptTerminal :=
  match row.receipt with
  | .terminal terminal => .ok terminal
  | _ => .error (.messageIdentityConflict "stored independent research receipt failed typed integrity verification")

/-- `_decode_row` of a review. -/
def decodeReview (row : ReceiptRow) : Except ResearchError ReviewReceipt :=
  match row.receipt with
  | .review review => .ok review
  | _ => .error (.messageIdentityConflict "stored independent research receipt failed typed integrity verification")

/-- What is decoded of a row that may be absent. -/
def decodeRow? {α : Type} (decode : ReceiptRow → Except ResearchError α) : Option ReceiptRow → Except ResearchError (Option α)
  | none => .ok none
  | some row => do
    let a ← decode row
    pure (some a)

/-- `find_attempt`, of the row that its query has fetched. -/
def findAttempt (attemptId : String) (row : ReceiptRow) : Except ResearchError (AttemptStart × Option AttemptTerminal) := do
  let start ← decodeStart row
  let terminal ← decodeRow? decodeTerminal (s.row? ⟨start.campaignId, start.sampleId, some start.armId, .terminal, attemptId⟩)
  pure (start, terminal)

/-- The START of an arm of a sample. -/
def CampaignDatabase.startOf? (campaignId sampleId : String) (arm : ResearchArm) : Option ReceiptRow :=
  (s.rowsOf campaignId sampleId arm .start).head?

end Lookups

section Starts

/-- `start_attempt`. -/
def startAttempt (scheduler : Option String) (attempt : AttemptStart) (clock : ℕ) (s : CampaignDatabase) :
    Except ResearchError (CampaignDatabase × Bool) := do
  attempt.verify
  let context ← campaignContext contracts scheduler s attempt.campaignId
  let _ ← guardCausalEvaluation scheduler s context.planRow.plan attempt.campaignId attempt.sampleId
  let _ ← loadClaim s attempt.campaignId attempt.sampleId
  let bundle ← loadBundle s attempt.campaignId attempt.sampleId
  let window ← campaignWindow context.schedule attempt.sampleId
  let arm ← found (context.protocol.arm? attempt.armId) .stopIteration
  let now := clockMs scheduler clock
  require (window.marketAsOfTsMs ≤ now ∧ now < window.pairedAtTsMs)
    (.messageIdentityConflict "new attempt is outside its actual DB admission window")
  require (now ≤ attempt.attemptStartedAtTsMs + context.planRow.plan.maximumClockSkewMs ∧
      attempt.attemptStartedAtTsMs ≤ now + context.planRow.plan.maximumClockSkewMs)
    (.messageIdentityConflict "attempt local clock differs from actual DB observation time")
  require ((attempt.symbol, attempt.timeframe, attempt.marketAsOfTsMs, attempt.sampleDeadlineTsMs) =
      (window.symbol, window.timeframe, window.marketAsOfTsMs, window.sampleDeadlineTsMs))
    (.messageIdentityConflict "attempt differs from preregistered sample")
  require (attempt.scheduleDigest = context.schedule.scheduleDigest ∧
      attempt.candidateProtocolDigest = context.protocol.protocolDigest ∧
      attempt.armProtocolDigest = contracts.armDigest context.protocol attempt.armId ∧
      some attempt.provider = arm.provider ∧ some attempt.requestedModel = arm.model ∧
      some attempt.promptSha256 = arm.promptSha256 ∧ attempt.marketSnapshotSha256 = bundle.marketSnapshotSha256)
    (.messageIdentityConflict "attempt differs from frozen route/source/protocol")
  match s.startOf? attempt.campaignId attempt.sampleId attempt.armId with
  | some other => do
    let start ← decodeStart other
    require (start = attempt) (.messageIdentityConflict "arm already has an immutable dispatch fence")
    pure (s, false)
  | none =>
    storeReceipt contracts
      (receiptRow contracts attempt.campaignId attempt.sampleId (some attempt.armId) attempt.attemptId (.start attempt) clock) s

end Starts

section Completions

/-- `_response_clock`. -/
def responseClock (scheduler : Option String) (s : CampaignDatabase) (start : AttemptStart) (observedAt clock : ℕ) :
    Except ResearchError Unit := do
  let context ← campaignContext contracts scheduler s start.campaignId
  let window ← campaignWindow context.schedule start.sampleId
  let now := clockMs scheduler clock
  require (window.marketAsOfTsMs ≤ now ∧ start.attemptStartedAtTsMs ≤ observedAt ∧
      now ≤ observedAt + context.planRow.plan.maximumClockSkewMs ∧
      observedAt ≤ now + context.planRow.plan.maximumClockSkewMs)
    (.messageIdentityConflict "completion clock differs from actual campaign recorder time")

/-- The evidence that a completion may cite: the sources of the bundle. -/
def allowedEvidence (s : CampaignDatabase) (bundle : CausalBundle) : Except ResearchError (List String) := do
  let sources ← bundle.sourceReceiptSha256s.mapM (loadCampaignSource s)
  pure (sources.map fun source => contracts.referenceSha256
    { kind := source.sourceKind
      reference := source.reference
      contentSha256 := contracts.contentSha256 source.content
      observedAtMs := source.observedAtTsMs })

/-- What `finish_attempt` compares with the START that it has found, before its transaction. -/
def checkFinish (terminal : AttemptTerminal) (start : AttemptStart) : Except ResearchError Unit := do
  terminal.verify
  require (terminal.startReceiptSha256 = contracts.startSha256 start ∧ start.attemptStartedAtTsMs ≤ terminal.observedAtTsMs)
    (.messageIdentityConflict "terminal differs from actual admitted attempt")
  require ((∀ completion ∈ terminal.completion, completion.toCallScope = start.toCallScope) ∧
      ∀ failure ∈ terminal.failure, failure.toCallScope = start.toCallScope)
    (.messageIdentityConflict "terminal provenance differs from durable START")

/-- `finish_attempt` of the START that `find_attempt` has given. -/
def finishAttempt (scheduler : Option String) (terminal : AttemptTerminal) (start : AttemptStart) (clock recorded : ℕ)
    (s : CampaignDatabase) : Except ResearchError (CampaignDatabase × Bool) := do
  checkFinish contracts terminal start
  let context ← campaignContext contracts scheduler s start.campaignId
  let _ ← guardCausalEvaluation scheduler s context.planRow.plan start.campaignId start.sampleId
  require (s.row? ⟨start.campaignId, start.sampleId, some start.armId, .review, start.attemptId⟩ = none)
    (.messageIdentityConflict "terminal cannot overwrite an independently completed review")
  match s.row? ⟨start.campaignId, start.sampleId, some start.armId, .terminal, start.attemptId⟩ with
  | some existing => do
    let saved ← decodeTerminal existing
    require (saved = terminal) (.messageIdentityConflict "terminal cannot rewrite an immutable completion")
    pure (s, false)
  | none => do
    responseClock contracts scheduler s start terminal.observedAtTsMs clock
    require (∀ route ∈ terminal.provenance, route = start.toModelRoute)
      (.messageIdentityConflict "terminal route differs from independently admitted START")
    require (∀ proposal ∈ terminal.proposal, proposal.modelProvenance.resolvedModel = start.requestedModel)
      (.messageIdentityConflict "terminal backend differs from the frozen requested model")
    terminal.proposal.elim (pure ()) fun proposal => do
      let _ ← loadClaim s start.campaignId start.sampleId
      let bundle ← loadBundle s start.campaignId start.sampleId
      let evidence ← allowedEvidence contracts s bundle
      require (∀ reference ∈ proposal.evidence, contracts.referenceSha256 reference ∈ evidence)
        (.messageIdentityConflict "proposal cited evidence absent from independently saved bundle")
    require (¬(start.armId ≠ .llmProposalResearch ∧ terminal.terminalStatus = .completed))
      (.messageIdentityConflict "review completion cannot be recorded as a proposal")
    storeReceipt contracts
      (receiptRow contracts start.campaignId start.sampleId (some start.armId) terminal.attemptId (.terminal terminal) recorded) s

/-- `distinct_evidence`. -/
def ReviewOutput.verify (output : ReviewOutput) : Except ResearchError Unit :=
  require (output.evidenceIds.Nodup ∧ strip output.rationale ≠ "")
    (.valueError "review requires distinct cited evidence and a nonempty rationale")

/-- What `record_review` compares with what it has found, before its transaction. -/
def checkReview (receipt : ReviewReceipt) (answer : AttemptStart × Option AttemptTerminal) : Except ResearchError Unit := do
  receipt.output.verify
  require (answer.1.armId = .strategyReview)
    (.messageIdentityConflict "review completion lacks its exact durable review START")
  require (answer.2 = none ∧ receipt.startReceiptSha256 = contracts.startSha256 answer.1)
    (.messageIdentityConflict "review cannot replace an unresolved/failed terminal")

/-- `_load_evaluation`, of a legacy one only where the sample has no causal evaluation. -/
def loadEvaluation (causal : Bool) (s : CampaignDatabase) (receiptSha256 : String) :
    Except ResearchError CampaignEvaluation := do
  let row ← found (s.receipt? receiptSha256)
    (.messageIdentityConflict (if causal then "independently stored campaign evaluation is missing"
      else "independently stored campaign receipt is missing"))
  let evaluation ← decodeEvaluation row
  require (evaluation.isCausal → causal)
    (.messageIdentityConflict "stored independent research receipt failed typed integrity verification")
  pure evaluation

/-- `record_review` of what `find_attempt` has given. -/
def recordReview (scheduler : Option String) (receipt : ReviewReceipt) (answer : AttemptStart × Option AttemptTerminal)
    (clock recorded : ℕ) (s : CampaignDatabase) : Except ResearchError (CampaignDatabase × Bool) := do
  checkReview contracts receipt answer
  let start := answer.1
  let context ← campaignContext contracts scheduler s receipt.campaignId
  let causal ← guardCausalEvaluation scheduler s context.planRow.plan receipt.campaignId receipt.sampleId
  require (s.row? ⟨receipt.campaignId, receipt.sampleId, some .strategyReview, .terminal, receipt.attemptId⟩ = none)
    (.messageIdentityConflict "review cannot race a previously committed terminal")
  match s.row? ⟨receipt.campaignId, receipt.sampleId, some .strategyReview, .review, receipt.attemptId⟩ with
  | some existing => do
    let saved ← decodeReview existing
    require (saved = receipt) (.messageIdentityConflict "review cannot rewrite an immutable completion")
    pure (s, false)
  | none => do
    responseClock contracts scheduler s start receipt.observedAtTsMs clock
    let claim ← loadClaim s receipt.campaignId receipt.sampleId
    let bundle ← loadBundle s receipt.campaignId receipt.sampleId
    let evaluation ← loadEvaluation causal s receipt.evaluationReceiptSha256
    verifyStoredCausal contracts scheduler s claim bundle context evaluation
    require (evaluation.intent ≠ none ∧ evaluation.sourceReceiptSha256s = bundle.sourceReceiptSha256s ∧
        evaluation.campaignId = receipt.campaignId ∧ evaluation.sampleId = receipt.sampleId ∧
        start.campaignId = receipt.campaignId ∧ start.sampleId = receipt.sampleId)
      (.messageIdentityConflict "review requires the matched independently saved strategy intent")
    require ((receipt.bundleReceiptSha256, receipt.requestedModel, receipt.resolvedModel, receipt.promptSha256) =
        (contracts.bundleSha256 bundle, start.requestedModel, start.requestedModel, start.promptSha256))
      (.messageIdentityConflict "review differs from frozen matched provenance")
    require (start.attemptStartedAtTsMs ≤ receipt.observedAtTsMs)
      (.messageIdentityConflict "review observation precedes actual attempt START")
    let evidence ← allowedEvidence contracts s bundle
    require (∀ evidenceId ∈ receipt.output.evidenceIds, evidenceId ∈ evidence)
      (.messageIdentityConflict "review cited evidence absent from the independently saved bundle")
    storeReceipt contracts
      (receiptRow contracts receipt.campaignId receipt.sampleId (some .strategyReview) receipt.attemptId (.review receipt)
        recorded) s

end Completions

end KairosPersistence
