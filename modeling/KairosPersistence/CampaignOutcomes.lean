import KairosPersistence.CampaignSamples

/-!
The costs and the outcomes of the arms of a campaign, and the denominator that
sums them up.
-/

namespace KairosPersistence

open PythonJson
open Transactions (bind_ok require require_ok found found_ok)

variable (contracts : CampaignContracts)

section Costs

/-- `_decode_row` of a cost. -/
def decodeCost (row : ReceiptRow) : Except ResearchError CostReceipt :=
  match row.receipt with
  | .cost cost => .ok cost
  | _ => .error (.messageIdentityConflict "stored independent research receipt failed typed integrity verification")

/-- The slot of a stage of the costs of an attempt. -/
def CostReceipt.slotAt (receipt : CostReceipt) (stage : CostStage) : Slot :=
  ⟨receipt.campaignId, receipt.sampleId, some receipt.armId, .cost, stage.value ++ ":" ++ receipt.attemptId⟩

def CostReceipt.verify (receipt : CostReceipt) : Except ResearchError Unit := do
  require (receipt.armId ≠ .strategyOnly) (.valueError "arm_id")
  require (receipt.amountMicrousd ≤ 12000000) (.valueError "amount_microusd")

/-- A reservation is of the amount that was requested, or denied. -/
def checkReservation (s : CampaignDatabase) (receipt : CostReceipt) (expected : CostReceipt → ℕ) (other : CostStage) :
    Except ResearchError Unit := do
  let requested ← found (s.row? (receipt.slotAt .reservationRequested))
    (.messageIdentityConflict "reservation lacks its independently saved operation fence")
  let request ← decodeCost requested
  require (receipt.amountMicrousd = expected request)
    (.messageIdentityConflict "reservation observation differs from recorded request")
  require (s.row? (receipt.slotAt other) = none)
    (.messageIdentityConflict "reservation cannot be both admitted and denied")

/-- A cost is within the amount that is reserved. -/
def checkReserved (s : CampaignDatabase) (receipt : CostReceipt) : Except ResearchError Unit := do
  let reserved ← found (s.row? (receipt.slotAt .reserved))
    (.messageIdentityConflict "actual cost lacks an independently observed reservation")
  let held ← decodeCost reserved
  require (receipt.amountMicrousd ≤ held.amountMicrousd)
    (.messageIdentityConflict "actual cost exceeds the frozen reserved bound")

/-- A committed cost is the one that was asked for. -/
def checkCommit (s : CampaignDatabase) (receipt : CostReceipt) : Except ResearchError Unit := do
  let requested ← found (s.row? (receipt.slotAt .commitRequested))
    (.messageIdentityConflict "commit lacks its exact independent operation fence")
  let request ← decodeCost requested
  require (request.amountMicrousd = receipt.amountMicrousd)
    (.messageIdentityConflict "commit lacks its exact independent operation fence")

/-- What a cost is checked against, by its stage. -/
def checkStage (s : CampaignDatabase) (receipt : CostReceipt) : Except ResearchError Unit :=
  match receipt.stage with
  | .reservationRequested => .ok ()
  | .reserved => checkReservation s receipt (·.amountMicrousd) .reservationDenied
  | .reservationDenied => checkReservation s receipt (fun _ => 0) .reserved
  | .commitRequested => checkReserved s receipt
  | .committed => do
    checkReserved s receipt
    checkCommit s receipt

/-- `record_cost`. -/
def recordCost (scheduler : Option String) (receipt : CostReceipt) (clock : ℕ) (s : CampaignDatabase) :
    Except ResearchError (CampaignDatabase × Bool) := do
  receipt.verify
  let _ ← loadClaim s receipt.campaignId receipt.sampleId
  let now := clockMs scheduler clock
  require (receipt.observedAtTsMs ≤ now ∧ now ≤ receipt.observedAtTsMs + 2000)
    (.messageIdentityConflict "cost observation differs from actual recorder clock")
  checkStage s receipt
  storeReceipt contracts
    (receiptRow contracts receipt.campaignId receipt.sampleId (some receipt.armId)
      (receipt.stage.value ++ ":" ++ receipt.attemptId) (.cost receipt) clock) s

end Costs

section Outcomes

/-- `_decode_row` of an outcome. -/
def decodeOutcome (row : ReceiptRow) : Except ResearchError ArmOutcome :=
  match row.receipt with
  | .outcome outcome => .ok outcome
  | _ => .error (.messageIdentityConflict "stored independent research receipt failed typed integrity verification")

/-- `_decode_row` of a bundle. -/
def decodeBundle (row : ReceiptRow) : Except ResearchError CausalBundle :=
  match row.receipt with
  | .bundle bundle => .ok bundle
  | _ => .error (.messageIdentityConflict "stored independent research receipt failed typed integrity verification")

/-- The completion of an admitted attempt. -/
inductive AttemptCompletion where
  | review (receipt : ReviewReceipt)
  | terminal (receipt : AttemptTerminal)

namespace AttemptCompletion

def receipt : AttemptCompletion → CampaignReceipt
  | review receipt => .review receipt
  | terminal receipt => .terminal receipt

def observedAtTsMs : AttemptCompletion → ℕ
  | review receipt => receipt.observedAtTsMs
  | terminal receipt => receipt.observedAtTsMs

end AttemptCompletion

/-- The terminal or the review of a START, if it is completed. -/
def loadCompletion (s : CampaignDatabase) (start : AttemptStart) (outcome : ArmOutcome) :
    Except ResearchError (Option (ReceiptRow × AttemptCompletion)) := do
  let terminalRow := s.row? ⟨outcome.campaignId, outcome.sampleId, some outcome.armId, .terminal, start.attemptId⟩
  let reviewRow := s.row? ⟨outcome.campaignId, outcome.sampleId, some outcome.armId, .review, start.attemptId⟩
  match terminalRow, reviewRow with
  | none, none => pure none
  | some row, none => do
    let terminal ← decodeTerminal row
    pure (some (row, .terminal terminal))
  | none, some row => do
    let review ← decodeReview row
    pure (some (row, .review review))
  | some _, some _ => .error (.messageIdentityConflict "arm has conflicting independent completion histories")

def ReviewAction.status : ReviewAction → OutcomeStatus
  | .allow => .allow
  | .veto => .veto
  | .defer => .defer

/-- The status that a completed attempt has in time. -/
def AttemptCompletion.status : AttemptCompletion → OutcomeStatus
  | .review receipt => receipt.output.action.status
  | .terminal receipt =>
    match receipt.terminalStatus with
    | .completed => .proposal
    | .failed => .callFailed
    | .unresolved => .unknown

/-- The completion came or was recorded after the pairing of its window. -/
def LateCompletion (causal : Bool) (window : ObservationWindow) (row : ReceiptRow) (completion : AttemptCompletion) : Prop :=
  window.pairedAtTsMs < completion.observedAtTsMs ∨ window.pairedAtTsMs < row.recordedAtTsMs causal

instance (causal : Bool) (window : ObservationWindow) (row : ReceiptRow) (completion : AttemptCompletion) :
    Decidable (LateCompletion causal window row completion) := inferInstanceAs (Decidable (_ ∨ _))

/-- `expected_status` of an admitted attempt. -/
def admittedStatus (causal : Bool) (window : ObservationWindow) : Option (ReceiptRow × AttemptCompletion) → OutcomeStatus
  | none => .unknown
  | some (row, completion) =>
    if completion.status = .unknown then .unknown
    else if LateCompletion causal window row completion then .late
    else completion.status

/-- The outcome of an arm with a START, and the completion that it retains. -/
def admittedOutcome (s : CampaignDatabase) (outcome : ArmOutcome) (causal : Bool) (window : ObservationWindow)
    (start : AttemptStart) : Except ResearchError (Option AttemptCompletion) := do
  require (outcome.attemptId = some start.attemptId ∧
      outcome.status ∉ [.missed, .sourceMissing, .noIntent, .budgetBlocked])
    (.messageIdentityConflict "outcome cannot suppress an independently stored admitted attempt")
  let completion ← loadCompletion s start outcome
  require (outcome.status = admittedStatus causal window completion)
    (.messageIdentityConflict "arm outcome is not derived from its independent attempt history")
  pure (completion.map (·.2))

/-- The evaluation came or, in the causal family, was recorded after the pairing of its window. -/
def LateEvaluation (window : ObservationWindow) (row : ReceiptRow) (evaluation : CampaignEvaluation) : Prop :=
  window.pairedAtTsMs < evaluation.evaluatedAtTsMs ∨
    evaluation.isCausal ∧ window.pairedAtTsMs < ceilMs row.recordedAt

instance (window : ObservationWindow) (row : ReceiptRow) (evaluation : CampaignEvaluation) :
    Decidable (LateEvaluation window row evaluation) := inferInstanceAs (Decidable (_ ∨ _))

/-- The stages of the costs of an arm. -/
def costStages (s : CampaignDatabase) (outcome : ArmOutcome) : Except ResearchError (List CostStage) := do
  let costs ← (s.rowsOf outcome.campaignId outcome.sampleId outcome.armId .cost).mapM decodeCost
  pure (costs.map (·.stage))

/-- The statuses of a window that no evaluation decides. -/
def undecidedStatus (s : CampaignDatabase) (outcome : ArmOutcome) : Except ResearchError Unit :=
  if outcome.status = .unknown then do
    let stages ← costStages s outcome
    require (.reservationRequested ∈ stages ∧ .reservationDenied ∉ stages)
      (.messageIdentityConflict "no-call uncertainty lacks a durable budget-operation fence")
  else
    require (outcome.status ∈ [.sourceMissing, .evaluatorFailed, .missed, .budgetBlocked])
      (.messageIdentityConflict "outcome invents a decision without an independent completion")

/-- The outcome of an arm of a window that no evaluation decides. -/
def undecidedOutcome (s : CampaignDatabase) (outcome : ArmOutcome) (window : ObservationWindow) (now : ℕ)
    (bundle : Option CausalBundle) (evaluated : Bool) : Except ResearchError Unit := do
  undecidedStatus s outcome
  require (outcome.status = .sourceMissing → bundle = none)
    (.messageIdentityConflict "source-missing outcome suppresses a valid frozen bundle")
  require (outcome.status = .missed → window.pairedAtTsMs ≤ now)
    (.messageIdentityConflict "window cannot be missed before its frozen pairing cutoff")
  require (outcome.status = .budgetBlocked → evaluated ∧ now < window.pairedAtTsMs)
    (.messageIdentityConflict "no-call budget denial is not a missed or unevaluated window")

/-- The outcome of an arm without a START. -/
def noCallOutcome (s : CampaignDatabase) (outcome : ArmOutcome) (window : ObservationWindow) (now : ℕ)
    (bundle : Option CausalBundle) : Option (ReceiptRow × CampaignEvaluation) → Except ResearchError Unit
  | none => undecidedOutcome s outcome window now bundle false
  | some (row, evaluation) =>
    if LateEvaluation window row evaluation then
      require (outcome.status = .late) (.messageIdentityConflict "late evaluator cannot become a timely outcome")
    else if outcome.armId = .strategyOnly then
      require (outcome.status = if evaluation.intent = none then .noIntent else .baseline)
        (.messageIdentityConflict "baseline outcome differs from saved evaluator result")
    else if outcome.armId = .strategyReview ∧ evaluation.intent = none then
      require (outcome.status = .noIntent)
        (.messageIdentityConflict "absent strategy intent requires a no-call review outcome")
    else undecidedOutcome s outcome window now bundle true

/-- The completion that an outcome retains, as it has one. -/
def outcomeDecision (s : CampaignDatabase) (outcome : ArmOutcome) (causal : Bool) (window : ObservationWindow) (now : ℕ)
    (bundle : Option CausalBundle) (evaluation : Option (ReceiptRow × CampaignEvaluation)) :
    Except ResearchError (Option AttemptCompletion) :=
  match s.startOf? outcome.campaignId outcome.sampleId outcome.armId with
  | some row => do
    let start ← decodeStart row
    admittedOutcome s outcome causal window start
  | none => do
    require (outcome.attemptId = none)
      (.messageIdentityConflict "outcome invents an attempt not independently recorded")
    noCallOutcome s outcome window now bundle evaluation
    pure none

/-- The bundle of a causal evaluation is there, and the evaluation is read again against it. -/
def verifyOutcomeInput (scheduler : Option String) (s : CampaignDatabase) (claim : WindowClaim)
    (context : CampaignContext) (bundle : Option CausalBundle) : Option CampaignEvaluation → Except ResearchError Unit
  | some (.causal evaluation) => do
    let stored ← found bundle (.messageIdentityConflict "causal evaluation lacks its independently frozen bundle")
    verifyStoredCausal contracts scheduler s claim stored context (.causal evaluation)
  | _ => .ok ()

/-- The pair that an outcome of the causal family links to. -/
def checkOutcomePair (s : CampaignDatabase) (outcome : ArmOutcome) (evaluation : Option CampaignEvaluation) :
    Except ResearchError Unit :=
  match evaluation, outcome.causalSampleReceiptSha256 with
  | some (.causal evaluation), some receiptSha256 => do
    let row ← found (s.receipt? receiptSha256)
      (.messageIdentityConflict "independently stored campaign receipt is missing")
    let pair ← decodePair row
    require ((pair.campaignId, pair.sampleId, pair.armId) = (outcome.campaignId, outcome.sampleId, outcome.armId) ∧
        pair.evaluationReceiptSha256 = contracts.causalEvaluationSha256 evaluation ∧
        some pair.bundleReceiptSha256 = outcome.bundleReceiptSha256 ∧ some pair.attemptId = outcome.attemptId ∧
        some pair.terminalReceiptSha256 = outcome.decisionReceiptSha256 ∧ outcome.status = .proposal)
      (.messageIdentityConflict "causal outcome pair differs from independently stored arm history")
  | _, _ => .ok ()

/-- The links of an outcome are to rows of its sample. -/
def checkOutcomeLinks (s : CampaignDatabase) (outcome : ArmOutcome) : Except ResearchError Unit :=
  [outcome.bundleReceiptSha256, outcome.evaluationReceiptSha256, outcome.decisionReceiptSha256,
    outcome.causalSampleReceiptSha256].forM fun digest =>
      require (∀ receiptSha256 ∈ digest, ∃ row ∈ s.receipt? receiptSha256,
          row.campaignId = outcome.campaignId ∧ row.sampleId = outcome.sampleId)
        (.messageIdentityConflict "outcome link is not independently stored for the same sample")

/-- `record_outcome`. -/
def recordOutcome (scheduler : Option String) (outcome : ArmOutcome) (clock : ℕ) (s : CampaignDatabase) :
    Except ResearchError (CampaignDatabase × Bool) := do
  let claim ← loadClaim s outcome.campaignId outcome.sampleId
  require (claim.claimId = outcome.claimId)
    (.messageIdentityConflict "outcome has no exact independently committed window claim")
  let context ← campaignContext contracts scheduler s outcome.campaignId
  let causal ← guardCausalEvaluation scheduler s context.planRow.plan outcome.campaignId outcome.sampleId
  let window ← campaignWindow context.schedule outcome.sampleId
  match s.row? ⟨outcome.campaignId, outcome.sampleId, some outcome.armId, .outcome, "one"⟩ with
  | some old => do
    let saved ← decodeOutcome old
    require (saved = outcome) (.messageIdentityConflict "scheduled outcome cannot be rewritten after observation")
    pure (s, false)
  | none => do
    let now := clockMs scheduler clock
    require (claim.claimedAtTsMs ≤ outcome.observedAtTsMs ∧ outcome.observedAtTsMs ≤ now)
      (.messageIdentityConflict "scheduled outcome has no honest actual recorder time")
    let bundle ← decodeRow? decodeBundle (s.row? ⟨outcome.campaignId, outcome.sampleId, none, .bundle, "one"⟩)
    let evaluation ← storedEvaluation s outcome.campaignId outcome.sampleId
    verifyOutcomeInput contracts scheduler s claim context bundle (evaluation.map (·.2))
    require ((outcome.bundleReceiptSha256, outcome.evaluationReceiptSha256) =
        (bundle.map contracts.bundleSha256, evaluation.map fun stored => contracts.receiptSha256 stored.2.receipt))
      (.messageIdentityConflict "all arms must retain the same independently saved causal input")
    let decision ← outcomeDecision s outcome causal window now bundle evaluation
    require (outcome.decisionReceiptSha256 = decision.map fun completion => contracts.receiptSha256 completion.receipt)
      (.messageIdentityConflict "outcome must retain its actual independent completion link")
    checkOutcomePair contracts s outcome (evaluation.map (·.2))
    checkOutcomeLinks s outcome
    storeReceipt contracts
      (receiptRow contracts outcome.campaignId outcome.sampleId (some outcome.armId) "one" (.outcome outcome) clock) s

end Outcomes

section Denominators

/-- The outcomes and the costs of a campaign. -/
def outcomesOf (rows : List ReceiptRow) (campaignId : String) : List ArmOutcome :=
  (rows.filter (·.campaignId = campaignId)).filterMap fun row =>
    match row.receipt with
    | .outcome outcome => some outcome
    | _ => none

def costsOf (rows : List ReceiptRow) (campaignId : String) : List CostReceipt :=
  (rows.filter (·.campaignId = campaignId)).filterMap fun row =>
    match row.receipt with
    | .cost cost => some cost
    | _ => none

/-- `ORDER BY sample_id, arm_id, slot_key` of the costs. -/
def CostReceipt.Before (a b : CostReceipt) : Prop :=
  a.sampleId < b.sampleId ∨ a.sampleId = b.sampleId ∧ (a.armId.value < b.armId.value ∨ a.armId = b.armId ∧
    a.stage.value ++ ":" ++ a.attemptId < b.stage.value ++ ":" ++ b.attemptId)

instance (a b : CostReceipt) : Decidable (a.Before b) := inferInstanceAs (Decidable (_ ∨ _))

def orderedCosts (costs : List CostReceipt) : List CostReceipt := costs.insertionSort fun a b => ¬b.Before a

/-- The amounts of a stage, in a dictionary by attempt. -/
def stageAmounts (costs : List CostReceipt) (stage : CostStage) : List (String × ℕ) :=
  KeyedRows.dictionary Prod.fst (fun cost => (cost.attemptId, cost.amountMicrousd)) (costs.filter (·.stage = stage))

/-- The entries of a dictionary whose keys another one lacks. -/
def withoutKeys (amounts other : List (String × ℕ)) : List (String × ℕ) :=
  amounts.filter fun entry => ¬∃ entry' ∈ other, entry'.1 = entry.1

def OutcomeStatus.all : List OutcomeStatus :=
  [.baseline, .noIntent, .allow, .veto, .defer, .proposal, .callFailed, .sourceMissing, .evaluatorFailed, .missed,
    .late, .unknown, .budgetBlocked]

/-- `Counter` of the statuses. -/
def statusCounts (outcomes : List ArmOutcome) : List (OutcomeStatus × ℕ) :=
  (OutcomeStatus.all.map fun status => (status, (outcomes.filter (·.status = status)).length)).filter (·.2 ≠ 0)

/-- What a denominator says of the outcomes and of the costs. -/
def denominatorReceipt (plan : PlanRow) (expected : ℕ) (outcomes : List ArmOutcome) (costs : List CostReceipt) :
    DenominatorReceipt :=
  let reserved := stageAmounts costs .reserved
  let committed := stageAmounts costs .committed
  let requested := stageAmounts costs .reservationRequested
  let denied := stageAmounts costs .reservationDenied
  let commitRequested := stageAmounts costs .commitRequested
  let uncertainReserves := withoutKeys (withoutKeys requested reserved) denied
  { campaignId := plan.plan.campaignId
    planReceiptSha256 := plan.receiptSha256
    recordingMode := plan.plan.recordingMode
    expectedOutcomes := expected
    outcomeIdsSha256 := contracts.outcomeIdsSha256 (sortedTexts (outcomes.map contracts.outcomeSha256))
    statusCounts := statusCounts outcomes
    committedCostMicrousd := (committed.map (·.2)).sum
    outstandingReservationMicrousd :=
      ((withoutKeys reserved committed).map (·.2)).sum + (uncertainReserves.map (·.2)).sum
    unknownAttemptCount := (outcomes.filter (·.status = .unknown)).length
    unknownBudgetOperationCount := uncertainReserves.length + (withoutKeys commitRequested committed).length }

/-- `seal_denominator`. -/
def sealDenominator (scheduler : Option String) (campaignId : String) (s : CampaignDatabase) :
    Except ResearchError (CampaignDatabase × DenominatorReceipt) := do
  let context ← campaignContext contracts scheduler s campaignId
  let outcomes := outcomesOf s.receipts campaignId
  let expected := context.schedule.windows.flatMap fun window => researchArms.map fun arm => (window.sampleId, arm)
  let recorded := outcomes.map fun outcome => (outcome.sampleId, outcome.armId)
  require ((∀ key ∈ recorded, key ∈ expected) ∧ (∀ key ∈ expected, key ∈ recorded) ∧
      outcomes.length = expected.dedup.length)
    (.messageIdentityConflict "denominator requires every preregistered window and all three arms")
  let costs := orderedCosts (costsOf s.receipts campaignId)
  let receipt := denominatorReceipt contracts context.planRow expected.dedup.length outcomes costs
  match s.denominator? campaignId with
  | some row => do
    let saved := row.receipt
    require (saved.planReceiptSha256 = receipt.planReceiptSha256 ∧ saved.recordingMode = receipt.recordingMode ∧
        saved.expectedOutcomes = receipt.expectedOutcomes ∧ saved.outcomeIdsSha256 = receipt.outcomeIdsSha256 ∧
        saved.statusCounts = receipt.statusCounts ∧ saved.unknownAttemptCount = receipt.unknownAttemptCount)
      (.messageIdentityConflict "stored denominator differs from immutable scheduled outcomes")
    pure (s, saved)
  | none => do
    let t ← insertDenominator s ⟨contracts.denominatorSha256 receipt, receipt⟩
    pure (t, receipt)

end Denominators

end KairosPersistence
