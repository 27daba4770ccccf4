import KairosPersistence.ResearchEvidence

/-!
The receipts of an adaptive campaign and the journal that stores them, with the
guard of its inserts. The clock of the database is in microseconds.
-/

namespace KairosPersistence

open PythonJson
open Transactions (bind_ok require require_ok found found_ok)

section Receipts

structure CaptureRequirement where
  sourceKind : SourceKind
  sourceName : String
  maximumAgeMs : ℕ
  deriving DecidableEq, Repr

inductive RecordingMode where
  | causalObservation | offlineEngineeringFixture
  deriving DecidableEq, Repr

/-- `ResearchCampaignPlanV1`. -/
structure CampaignPlan where
  campaignId : String
  scheduleDigest : String
  candidateProtocolDigest : String
  recordingMode : RecordingMode
  schedulerSha256 : String
  requiredSources : List CaptureRequirement
  maximumWindowsPerTick : ℕ
  maximumClockSkewMs : ℕ
  maximumCallSeconds : ℕ
  deriving DecidableEq, Repr

/-- `ResearchWindowClaimV1`. -/
structure WindowClaim where
  campaignId : String
  sampleId : String
  planReceiptSha256 : String
  claimId : String
  claimedAtTsMs : ℕ
  deriving DecidableEq, Repr

/-- `ResearchCausalBundleV1`. -/
structure CausalBundle where
  campaignId : String
  sampleId : String
  claimId : String
  marketSnapshotSha256 : String
  sourceReceiptSha256s : List String
  frozenAtTsMs : ℕ
  deriving DecidableEq, Repr

/-- `ResearchCausalStrategyEvaluationReceiptV1`. -/
structure CausalEvaluation where
  campaignId : String
  sampleId : String
  scheduleDigest : String
  candidateProtocolDigest : String
  strategyId : String
  strategyRevision : String
  symbol : String
  evidenceAsOfTsMs : ℕ
  evaluatedAtTsMs : ℕ
  marketSnapshotSha256 : String
  evaluatorSha256 : String
  sourceReceiptSha256s : List String
  contextSourceReceiptSha256 : String
  anchorBarSha256 : String
  anchorBarCloseTsMs : ℕ
  barWindowSha256 : String
  barCount : ℕ
  intent : Option StrategyIntent
  deriving DecidableEq, Repr

inductive ReviewAction where
  | allow | veto | defer
  deriving DecidableEq, Repr

/-- `ResearchReviewOutputV1`. -/
structure ReviewOutput where
  action : ReviewAction
  rationale : String
  evidenceIds : List String
  deriving DecidableEq, Repr

/-- `ResearchReviewReceiptV1`. -/
structure ReviewReceipt where
  campaignId : String
  sampleId : String
  attemptId : String
  startReceiptSha256 : String
  bundleReceiptSha256 : String
  evaluationReceiptSha256 : String
  output : ReviewOutput
  responseSha256 : String
  requestedModel : String
  resolvedModel : String
  requestId : String
  promptSha256 : String
  observedAtTsMs : ℕ
  deriving DecidableEq, Repr

inductive CostStage where
  | reservationRequested | reservationDenied | reserved | commitRequested | committed
  deriving DecidableEq, Repr

def CostStage.value : CostStage → String
  | reservationRequested => "RESERVATION_REQUESTED"
  | reservationDenied => "RESERVATION_DENIED"
  | reserved => "RESERVED"
  | commitRequested => "COMMIT_REQUESTED"
  | committed => "COMMITTED"

/-- `ResearchCostReceiptV1`. -/
structure CostReceipt where
  campaignId : String
  sampleId : String
  armId : ResearchArm
  attemptId : String
  stage : CostStage
  amountMicrousd : ℕ
  observedAtTsMs : ℕ
  deriving DecidableEq, Repr

inductive OutcomeStatus where
  | baseline | noIntent | allow | veto | defer | proposal | callFailed | sourceMissing | evaluatorFailed | missed | late
  | unknown | budgetBlocked
  deriving DecidableEq, Repr

/-- `ResearchArmOutcomeV1`. -/
structure ArmOutcome where
  campaignId : String
  sampleId : String
  armId : ResearchArm
  claimId : String
  status : OutcomeStatus
  bundleReceiptSha256 : Option String
  evaluationReceiptSha256 : Option String
  attemptId : Option String
  decisionReceiptSha256 : Option String
  causalSampleReceiptSha256 : Option String
  observedAtTsMs : ℕ
  deriving DecidableEq, Repr

/-- `ResearchCausalPairReceiptV1`. -/
structure CausalPair where
  campaignId : String
  sampleId : String
  armId : ResearchArm
  scheduleDigest : String
  candidateProtocolDigest : String
  armProtocolDigest : String
  bundleReceiptSha256 : String
  evaluationReceiptSha256 : String
  sourceReceiptSha256s : List String
  marketSnapshotSha256 : String
  anchorBarSha256 : String
  barWindowSha256 : String
  barCount : ℕ
  marketAsOfTsMs : ℕ
  pairedAtTsMs : ℕ
  attemptId : String
  startReceiptSha256 : String
  terminalReceiptSha256 : String
  completionReceiptId : String
  proposalId : String
  strategyOutcome : StrategyOutcome
  strategyIntentId : Option String
  llmOutcome : ProposalAction
  deriving DecidableEq, Repr

/-- `ResearchDenominatorReceiptV1`. -/
structure DenominatorReceipt where
  campaignId : String
  planReceiptSha256 : String
  recordingMode : RecordingMode
  expectedOutcomes : ℕ
  outcomeIdsSha256 : String
  statusCounts : List (OutcomeStatus × ℕ)
  committedCostMicrousd : ℕ
  outstandingReservationMicrousd : ℕ
  unknownAttemptCount : ℕ
  unknownBudgetOperationCount : ℕ
  deriving DecidableEq, Repr

/-- What a row of the journal holds; the sample is a link to a core sample or a causal pair. -/
inductive CampaignReceipt where
  | source (receipt : SourceReceipt)
  | bundle (receipt : CausalBundle)
  | evaluation (receipt : StrategyEvaluation)
  | causalEvaluation (receipt : CausalEvaluation)
  | start (receipt : AttemptStart)
  | terminal (receipt : AttemptTerminal)
  | review (receipt : ReviewReceipt)
  | cost (receipt : CostReceipt)
  | sample (receipt : DecisionSample)
  | causalPair (receipt : CausalPair)
  | outcome (receipt : ArmOutcome)

inductive ReceiptKind where
  | source | bundle | evaluation | start | terminal | review | cost | sample | outcome
  deriving DecidableEq, Repr

def CampaignReceipt.kind : CampaignReceipt → ReceiptKind
  | source _ => .source
  | bundle _ => .bundle
  | evaluation _ | causalEvaluation _ => .evaluation
  | start _ => .start
  | terminal _ => .terminal
  | review _ => .review
  | cost _ => .cost
  | sample _ | causalPair _ => .sample
  | outcome _ => .outcome

end Receipts

/-- An event of a producer, as far as its source receipt is compared with it. -/
structure ProducedMessage where
  messageId : String
  producedAtTsMs : ℕ

/-- `CampaignMarketContextV1`. -/
structure MarketContext where
  symbol : String
  timeframe : String
  anchorBarSha256 : String
  anchorBarCloseTsMs : ℕ
  snapshotMessageId : String
  producedAtTsMs : ℕ
  barWindowSha256 : String
  barCount : ℕ

/-- The contract library of the campaigns, and the decoders of what its producers send. -/
structure CampaignContracts extends ResearchContracts where
  planSha256 : CampaignPlan → String
  claimSha256 : WindowClaim → String
  claimId : String → String → String
  bundleSha256 : CausalBundle → String
  causalEvaluationSha256 : CausalEvaluation → String
  reviewSha256 : ReviewReceipt → String
  costSha256 : CostReceipt → String
  sampleLinkSha256 : DecisionSample → String
  causalPairSha256 : CausalPair → String
  outcomeSha256 : ArmOutcome → String
  denominatorSha256 : DenominatorReceipt → String
  referenceSha256 : EvidenceReference → String
  outcomeIdsSha256 : List String → String
  decodeNews : PyJson → Option ProducedMessage
  decodeMacroeconomic : PyJson → Option ProducedMessage
  marketContext : PyJson → Option MarketContext

def CampaignContracts.receiptSha256 (contracts : CampaignContracts) : CampaignReceipt → String
  | .source receipt => contracts.sourceSha256 receipt
  | .bundle receipt => contracts.bundleSha256 receipt
  | .evaluation receipt => contracts.evaluationSha256 receipt
  | .causalEvaluation receipt => contracts.causalEvaluationSha256 receipt
  | .start receipt => contracts.startSha256 receipt
  | .terminal receipt => contracts.terminalSha256 receipt
  | .review receipt => contracts.reviewSha256 receipt
  | .cost receipt => contracts.costSha256 receipt
  | .sample receipt => contracts.sampleLinkSha256 receipt
  | .causalPair receipt => contracts.causalPairSha256 receipt
  | .outcome receipt => contracts.outcomeSha256 receipt

section Tables

/-- `sim_adaptive_campaign_plans`. -/
structure PlanRow where
  receiptSha256 : String
  plan : CampaignPlan
  registrationTxid : ℕ
  deriving DecidableEq, Repr

/-- `sim_adaptive_window_claims`. -/
structure ClaimRow where
  receiptSha256 : String
  claim : WindowClaim
  deriving DecidableEq, Repr

/-- The arm of a slot, `none` for all of them. -/
abbrev SlotArm := Option ResearchArm

/-- The key of a receipt in the journal. -/
structure Slot where
  campaignId : String
  sampleId : String
  arm : SlotArm
  kind : ReceiptKind
  slotKey : String
  deriving DecidableEq, Repr

/-- `sim_adaptive_campaign_receipts`; the kind is that of the receipt. -/
structure ReceiptRow where
  receiptSha256 : String
  campaignId : String
  sampleId : String
  arm : SlotArm
  slotKey : String
  receipt : CampaignReceipt
  recordedAt : ℕ

def ReceiptRow.slot (row : ReceiptRow) : Slot :=
  ⟨row.campaignId, row.sampleId, row.arm, row.receipt.kind, row.slotKey⟩

/-- `sim_adaptive_campaign_denominators`. -/
structure DenominatorRow where
  receiptSha256 : String
  receipt : DenominatorReceipt
  deriving DecidableEq, Repr

end Tables

/-- The research tables with the journal of the campaigns, the newest row first. -/
structure CampaignDatabase where
  research : ResearchDatabase
  plans : List PlanRow
  claims : List ClaimRow
  receipts : List ReceiptRow
  denominators : List DenominatorRow

namespace CampaignDatabase

def empty : CampaignDatabase := ⟨.empty, [], [], [], []⟩

variable (s : CampaignDatabase) (campaignId sampleId : String)

def plan? : Option PlanRow := s.plans.find? (·.plan.campaignId = campaignId)

def claim? : Option ClaimRow := s.claims.find? fun row => (row.claim.campaignId, row.claim.sampleId) = (campaignId, sampleId)

/-- `_row`. -/
def row? (slot : Slot) : Option ReceiptRow := s.receipts.find? (·.slot = slot)

def receipt? (receiptSha256 : String) : Option ReceiptRow := s.receipts.find? (·.receiptSha256 = receiptSha256)

def denominator? : Option DenominatorRow := s.denominators.find? (·.receipt.campaignId = campaignId)

/-- The rows of a kind of an arm of a sample. -/
def rowsOf (arm : ResearchArm) (kind : ReceiptKind) : List ReceiptRow :=
  s.receipts.filter fun row => row.campaignId = campaignId ∧ row.sampleId = sampleId ∧ row.arm = some arm ∧
    row.receipt.kind = kind

end CampaignDatabase

section Clock

/-- `_recorded_at`: whole milliseconds, rounded down. -/
def floorMs (clock : ℕ) : ℕ := clock / 1000

/-- `_causal_recorded_at`: whole milliseconds, rounded up. -/
def ceilMs (clock : ℕ) : ℕ := (clock + 999) / 1000

/-- `_clock_sql`: a process that has opted into a causal scheduler rounds up. -/
def clockMs (scheduler : Option String) (clock : ℕ) : ℕ := if scheduler = none then floorMs clock else ceilMs clock

end Clock

section Inserts

variable (contracts : CampaignContracts) (s : CampaignDatabase)

/-- The START that the guard reads for a terminal. -/
def CampaignDatabase.admitted? (row : ReceiptRow) : Option AttemptStart :=
  (s.row? { row.slot with kind := .start }).bind fun admitted =>
    match admitted.receipt with
    | .start attempt => some attempt
    | _ => none

/-- The campaign and the sample in the payload of a receipt; a terminal has them from its START. -/
def CampaignReceipt.scope (admitted : Option AttemptStart) : CampaignReceipt → Option (String × String)
  | .source receipt => some (receipt.campaignId, receipt.sampleId)
  | .bundle receipt => some (receipt.campaignId, receipt.sampleId)
  | .evaluation receipt => some (receipt.campaignId, receipt.sampleId)
  | .causalEvaluation receipt => some (receipt.campaignId, receipt.sampleId)
  | .start receipt => some (receipt.campaignId, receipt.sampleId)
  | .terminal _ => admitted.map fun attempt => (attempt.campaignId, attempt.sampleId)
  | .review receipt => some (receipt.campaignId, receipt.sampleId)
  | .cost receipt => some (receipt.campaignId, receipt.sampleId)
  | .sample receipt => some (receipt.campaignId, receipt.sampleId)
  | .causalPair receipt => some (receipt.campaignId, receipt.sampleId)
  | .outcome receipt => some (receipt.campaignId, receipt.sampleId)

/-- A completion or an actual cost may come after the denominator. -/
def CampaignReceipt.AllowLate : CampaignReceipt → Prop
  | .terminal _ | .review _ => True
  | .cost receipt => receipt.stage ≠ .reservationRequested
  | _ => False

instance : (receipt : CampaignReceipt) → Decidable receipt.AllowLate
  | .terminal _ | .review _ => .isTrue trivial
  | .cost _ => inferInstanceAs (Decidable (_ ≠ _))
  | .source _ | .bundle _ | .evaluation _ | .causalEvaluation _ | .start _ | .sample _ | .causalPair _ | .outcome _ =>
    .isFalse id

/-- What the guard asks of a terminal: the START that it ends. -/
def guardTerminalStart (row : ReceiptRow) : Except ResearchError Unit :=
  match row.receipt with
  | .terminal terminal =>
    require (∃ attempt ∈ s.admitted? row, terminal.attemptId = attempt.attemptId ∧
        terminal.startReceiptSha256 = contracts.startSha256 attempt)
      (.raiseException "campaign terminal requires its exact prior admitted START")
  | _ => .ok ()

/-- `simulator_guard_adaptive_campaign_insert` of the tables that a plan opens. -/
def guardOpenPlan (campaignId : String) (allowLate : Prop) [Decidable allowLate] : Except ResearchError Unit := do
  let plan ← found (s.plan? campaignId) (.raiseException "adaptive campaign requires committed open preregistration")
  require (plan.registrationTxid ≠ s.research.txid)
    (.raiseException "adaptive campaign requires committed open preregistration")
  require (s.denominator? campaignId = none ∨ allowLate)
    (.raiseException "denominator snapshot rejects new input/outcomes but retains late actual cost/completion")

def guardReceipt (row : ReceiptRow) : Except ResearchError Unit := do
  guardTerminalStart contracts s row
  require ((row.receipt.scope (s.admitted? row)).map (·.1) = some row.campaignId)
    (.raiseException "adaptive campaign receipt identity mismatch")
  guardOpenPlan s row.campaignId row.receipt.AllowLate
  require ((row.receipt.scope (s.admitted? row)).map (·.2) = some row.sampleId)
    (.raiseException "adaptive campaign sample identity mismatch")

/-- The insert of a row of `sim_adaptive_campaign_receipts`. -/
def insertReceipt (row : ReceiptRow) : Except ResearchError CampaignDatabase := do
  guardReceipt contracts s row
  require (1 ≤ row.slotKey.length ∧ row.slotKey.length ≤ 128) (.checkViolation "sim_adaptive_campaign_receipts")
  require (s.receipt? row.receiptSha256 = none) (.uniqueViolation "sim_adaptive_campaign_receipts_pkey")
  require (s.row? row.slot = none)
    (.uniqueViolation "sim_adaptive_campaign_receipts(campaign_id,sample_id,arm_id,kind,slot_key)")
  require (row.receipt.kind = .start → ∀ r ∈ s.receipts, ¬(r.receipt.kind = .start ∧
      (r.campaignId, r.sampleId, r.arm) = (row.campaignId, row.sampleId, row.arm)))
    (.uniqueViolation "sim_adaptive_one_start_per_arm")
  require (s.research.window? row.campaignId row.sampleId ≠ none) (.foreignKeyViolation "sim_adaptive_campaign_receipts")
  pure { s with receipts := row :: s.receipts }

/-- The insert of a row of `sim_adaptive_window_claims`. -/
def insertClaim (row : ClaimRow) : Except ResearchError CampaignDatabase := do
  guardOpenPlan s row.claim.campaignId False
  require (s.claim? row.claim.campaignId row.claim.sampleId = none) (.uniqueViolation "sim_adaptive_window_claims_pkey")
  require (∀ r ∈ s.claims, r.claim.claimId ≠ row.claim.claimId ∧ r.receiptSha256 ≠ row.receiptSha256)
    (.uniqueViolation "sim_adaptive_window_claims_claim_id_key")
  require (s.research.window? row.claim.campaignId row.claim.sampleId ≠ none)
    (.foreignKeyViolation "sim_adaptive_window_claims")
  pure { s with claims := row :: s.claims }

/-- The insert of a row of `sim_adaptive_campaign_denominators`. -/
def insertDenominator (row : DenominatorRow) : Except ResearchError CampaignDatabase := do
  guardOpenPlan s row.receipt.campaignId False
  require (s.denominator? row.receipt.campaignId = none) (.uniqueViolation "sim_adaptive_campaign_denominators_pkey")
  require (∀ r ∈ s.denominators, r.receiptSha256 ≠ row.receiptSha256)
    (.uniqueViolation "sim_adaptive_campaign_denominators_receipt_sha256_key")
  pure { s with denominators := row :: s.denominators }

/-- The insert of a row of `sim_adaptive_campaign_plans`, at a reading of the clock. -/
def insertPlan (row : PlanRow) (clock : ℕ) : Except ResearchError CampaignDatabase := do
  require (∃ roster ∈ s.research.schedule? row.plan.campaignId, ∃ protocol ∈ s.research.protocol? row.plan.campaignId,
      roster.freezeTxid ≠ s.research.txid ∧ protocol.freezeTxid ≠ s.research.txid ∧
      roster.independentEvidenceRegistrationAllowed ∧ row.plan.scheduleDigest = roster.scheduleDigest ∧
      row.plan.candidateProtocolDigest = protocol.protocolDigest)
    (.raiseException "adaptive campaign requires previously committed exact frozen identity")
  require (s.plan? row.plan.campaignId = none →
      (∀ window ∈ s.research.windows, window.campaignId = row.plan.campaignId → floorMs clock < window.marketAsOfTsMs) ∧
      s.research.samplesOf row.plan.campaignId = [] ∧ s.research.enrollment? row.plan.campaignId = none)
    (.raiseException "adaptive campaign cannot adopt past windows or existing evidence")
  require (s.plan? row.plan.campaignId = none) (.uniqueViolation "sim_adaptive_campaign_plans_pkey")
  require (∀ r ∈ s.plans, r.receiptSha256 ≠ row.receiptSha256)
    (.uniqueViolation "sim_adaptive_campaign_plans_receipt_sha256_key")
  pure { s with plans := row :: s.plans }

end Inserts

end KairosPersistence
