import KairosPersistence.CampaignOutcomes
import KairosPersistence.SealedCoverage

/-!
Runs of a campaign: any number of processes, each with or without the causal
scheduler, whose transactions come in any order. A process may stop anywhere,
also between its commit and the reply.
-/

namespace KairosPersistence

open PythonText Relation

/-- A call of a process. What `find_attempt` has given is used by a later transaction. -/
inductive CampaignCall where
  | research (call : ResearchCall) (now : Timestamp)
  | register (plan : CampaignPlan)
  | captureSource (capture : SourceCapture)
  | claimNext (campaignId : String)
  | freezeBundle (claim : WindowClaim)
  | recordEvaluation (claim : WindowClaim) (bundle : CausalBundle) (intent : Option StrategyIntent)
  | recordCausalEvaluation (claim : WindowClaim) (bundle : CausalBundle) (result : CausalBaselineResult)
  | recordCausalPair (campaignId sampleId : String) (arm : ResearchArm) (evaluationReceiptSha256 attemptId : String)
  | findAttempt (attemptId : String) (choice : ℕ)
  | startAttempt (attempt : AttemptStart) (delivered : Bool)
  | finishAttempt (terminal : AttemptTerminal) (answer : AttemptStart × Option AttemptTerminal)
  | recordReview (receipt : ReviewReceipt) (answer : AttemptStart × Option AttemptTerminal)
  | recordCost (receipt : CostReceipt)
  | recordVerifiedSample (sample : DecisionSample)
  | recordOutcome (outcome : ArmOutcome)
  | sealDenominator (campaignId : String)

/-- The scheduler that a process has opted into, and what it reads of the clock: for its checks, and for the row
that it writes. -/
structure Dispatch where
  scheduler : Option String
  clock : ℕ
  recorded : ℕ
  deriving DecidableEq, Repr

/-- A window that a transaction has claimed. -/
structure DispatchedClaim extends Dispatch where
  claim : WindowClaim
  deriving DecidableEq, Repr

/-- A START for which `start_attempt` has replied `True`. -/
structure AdmittedStart extends Dispatch where
  attempt : AttemptStart
  deriving DecidableEq, Repr

/-- The database, what `find_attempt` has given, the claims that were committed and the replies that admit. -/
structure CampaignSystem where
  db : CampaignDatabase
  finds : List (String × AttemptStart × Option AttemptTerminal)
  claimed : List DispatchedClaim
  admitted : List AdmittedStart

def CampaignSystem.empty : CampaignSystem := ⟨.empty, [], [], []⟩

/-- The next transaction has the next id. -/
def CampaignDatabase.committed (s : CampaignDatabase) : CampaignDatabase :=
  { s with research := { s.research with txid := s.research.txid + 1 } }

variable (contracts : CampaignContracts)

/-- The rows that a call leaves. -/
def CampaignCall.rows (dispatch : Dispatch) (s : CampaignSystem) : CampaignCall → CampaignDatabase
  | .research call now =>
    { s.db with
      research := { call.rows contracts.toResearchContracts now s.db.research with txid := s.db.research.txid } }
  | .register plan => (Transactions.run (registerPlan contracts dispatch.scheduler plan dispatch.clock) s.db).1
  | .captureSource capture =>
    (Transactions.run (KairosPersistence.captureSource contracts dispatch.scheduler capture dispatch.clock) s.db).1
  | .claimNext campaignId =>
    (Transactions.run (KairosPersistence.claimNext contracts dispatch.scheduler campaignId dispatch.clock) s.db).1
  | .freezeBundle claim =>
    (Transactions.run (KairosPersistence.freezeBundle contracts dispatch.scheduler claim dispatch.clock) s.db).1
  | .recordEvaluation claim bundle intent =>
    (Transactions.run
      (recordCampaignEvaluation contracts dispatch.scheduler claim bundle intent dispatch.clock dispatch.recorded) s.db).1
  | .recordCausalEvaluation claim bundle result =>
    (Transactions.run (KairosPersistence.recordCausalEvaluation contracts dispatch.scheduler claim bundle result
      dispatch.clock dispatch.recorded) s.db).1
  | .recordCausalPair campaignId sampleId arm evaluationReceiptSha256 attemptId =>
    (Transactions.run (KairosPersistence.recordCausalPair contracts dispatch.scheduler campaignId sampleId arm
      evaluationReceiptSha256 attemptId dispatch.clock dispatch.recorded) s.db).1
  | .findAttempt _ _ => s.db
  | .startAttempt attempt _ =>
    (Transactions.run (KairosPersistence.startAttempt contracts dispatch.scheduler attempt dispatch.clock) s.db).1
  | .finishAttempt terminal answer =>
    if (terminal.attemptId, answer) ∈ s.finds then
      (Transactions.run (KairosPersistence.finishAttempt contracts dispatch.scheduler terminal answer.1 dispatch.clock
        dispatch.recorded) s.db).1
    else s.db
  | .recordReview receipt answer =>
    if (receipt.attemptId, answer) ∈ s.finds then
      (Transactions.run (KairosPersistence.recordReview contracts dispatch.scheduler receipt answer dispatch.clock
        dispatch.recorded) s.db).1
    else s.db
  | .recordCost receipt =>
    (Transactions.run (KairosPersistence.recordCost contracts dispatch.scheduler receipt dispatch.clock) s.db).1
  | .recordVerifiedSample sample =>
    (Transactions.run (KairosPersistence.recordVerifiedSample contracts dispatch.scheduler sample dispatch.recorded) s.db).1
  | .recordOutcome outcome =>
    (Transactions.run (KairosPersistence.recordOutcome contracts dispatch.scheduler outcome dispatch.clock) s.db).1
  | .sealDenominator campaignId =>
    (Transactions.run (KairosPersistence.sealDenominator contracts dispatch.scheduler campaignId) s.db).1

/-- What `find_attempt` gives of the row that it has fetched. -/
def CampaignCall.found (s : CampaignSystem) : CampaignCall → List (String × AttemptStart × Option AttemptTerminal)
  | .findAttempt attemptId choice =>
    match (s.db.startsNamed attemptId)[choice]? with
    | some row =>
      match KairosPersistence.findAttempt s.db attemptId row with
      | .ok answer => [(attemptId, answer)]
      | .error _ => []
    | none => []
  | _ => []

/-- The claim that a call commits. -/
def CampaignCall.claims (dispatch : Dispatch) (s : CampaignSystem) : CampaignCall → List DispatchedClaim
  | .claimNext campaignId =>
    match (Transactions.run (KairosPersistence.claimNext contracts dispatch.scheduler campaignId dispatch.clock) s.db).2 with
    | .ok (some claim) => [⟨dispatch, claim⟩]
    | _ => []
  | _ => []

/-- The reply that admits an attempt, if it arrives. -/
def CampaignCall.admits (dispatch : Dispatch) (s : CampaignSystem) : CampaignCall → List AdmittedStart
  | .startAttempt attempt true =>
    match (Transactions.run (KairosPersistence.startAttempt contracts dispatch.scheduler attempt dispatch.clock) s.db).2 with
    | .ok true => [⟨dispatch, attempt⟩]
    | _ => []
  | _ => []

/-- A call of a process. -/
def CampaignCall.run (call : CampaignCall) (dispatch : Dispatch) (s : CampaignSystem) : CampaignSystem where
  db := (call.rows contracts dispatch s).committed
  finds := call.found s ++ s.finds
  claimed := call.claims contracts dispatch s ++ s.claimed
  admitted := call.admits contracts dispatch s ++ s.admitted

/-- Any call of any process. -/
def CampaignStep (s t : CampaignSystem) : Prop := ∃ call dispatch, t = CampaignCall.run contracts call dispatch s

/-- The states of the campaigns of an empty database. -/
def CampaignReachable (s : CampaignSystem) : Prop := Runs.Reachable (· = .empty) (CampaignStep contracts) s

/-- Calls one after the other. -/
def runCampaignCalls (calls : List (CampaignCall × Dispatch)) (s : CampaignSystem) : CampaignSystem :=
  calls.foldl (fun s call => call.1.run contracts call.2 s) s

theorem runCampaignCalls_reachable (calls : List (CampaignCall × Dispatch)) :
    CampaignReachable contracts (runCampaignCalls contracts calls .empty) := by
  have hrun : ∀ s, ReflTransGen (CampaignStep contracts) s (runCampaignCalls contracts calls s) := by
    induction calls with
    | nil => exact fun s => .refl
    | cons call calls ih => exact fun s => .head ⟨call.1, call.2, rfl⟩ (ih _)
  exact ⟨.empty, rfl, hrun _⟩

section Conditions

variable (meets : CampaignSystem → CampaignCall → Prop)

/-- The states that calls reach which meet a condition of the state that they are made in. -/
def MeetsReachable (s : CampaignSystem) : Prop :=
  Runs.Reachable (· = .empty) (fun s t => ∃ call dispatch, meets s call ∧ t = CampaignCall.run contracts call dispatch s) s

/-- Calls one after the other, which meet the condition. -/
def RunMeets : List (CampaignCall × Dispatch) → CampaignSystem → Prop
  | [], _ => True
  | call :: calls, s => meets s call.1 ∧ RunMeets calls (call.1.run contracts call.2 s)

instance [∀ s call, Decidable (meets s call)] :
    (calls : List (CampaignCall × Dispatch)) → (s : CampaignSystem) → Decidable (RunMeets contracts meets calls s)
  | [], _ => .isTrue trivial
  | call :: calls, s =>
    have := instDecidableRunMeets calls (call.1.run contracts call.2 s)
    inferInstanceAs (Decidable (_ ∧ _))

theorem RunMeets.reachable {calls : List (CampaignCall × Dispatch)} (h : RunMeets contracts meets calls .empty) :
    MeetsReachable contracts meets (runCampaignCalls contracts calls .empty) := by
  refine ⟨.empty, rfl, ?_⟩
  generalize CampaignSystem.empty = s at h
  induction calls generalizing s with
  | nil => exact .refl
  | cons call calls ih => exact .head ⟨call.1, call.2, h.1, rfl⟩ (ih _ h.2)

end Conditions

section Example

/-- Digests of the receipts of the example: what tells them apart. -/
def exampleCampaignContracts : CampaignContracts where
  toResearchContracts :=
    { exampleResearchContracts with
      sourceSha256 receipt := receipt.sourceName
      startSha256 attempt := "start:" ++ attempt.armId.value
      terminalSha256 terminal := "terminal:" ++ terminal.attemptId }
  planSha256 plan := plan.campaignId
  claimSha256 claim := claim.sampleId
  claimId planReceiptSha256 sampleId := planReceiptSha256 ++ ":" ++ sampleId
  bundleSha256 _ := "bundle"
  causalEvaluationSha256 _ := "evaluation"
  reviewSha256 receipt := "review:" ++ receipt.attemptId
  costSha256 receipt := receipt.armId.value ++ ":" ++ receipt.stage.value ++ ":" ++ receipt.attemptId
  sampleLinkSha256 sample := "sample:" ++ sample.armId
  causalPairSha256 _ := "pair"
  outcomeSha256 outcome := "outcome:" ++ outcome.armId.value
  denominatorSha256 _ := "denominator"
  referenceSha256 reference := reference.reference
  outcomeIdsSha256 _ := "outcomes"
  decodeNews _ := none
  decodeMacroeconomic _ := none
  marketContext _ := none

def examplePlan : CampaignPlan where
  campaignId := "campaign-1"
  scheduleDigest := exampleSha '1'
  candidateProtocolDigest := exampleSha '5'
  recordingMode := .causalObservation
  schedulerSha256 := "scheduler-1"
  requiredSources := [⟨.macroeconomic, "macro-1", 1000⟩, ⟨.marketSnapshot, "market-1", 1000⟩, ⟨.news, "news-1", 1000⟩]
  maximumWindowsPerTick := 1
  maximumClockSkewMs := 1000
  maximumCallSeconds := 60

def exampleCapture (sourceKind : SourceKind) (sourceName : String) : SourceCapture where
  campaignId := "campaign-1"
  sampleId := "window-1"
  sourceKind := sourceKind
  sourceName := sourceName
  reference := sourceName
  sourceAsOfTsMs := 900
  content := .null

def exampleClaim : WindowClaim where
  campaignId := "campaign-1"
  sampleId := "window-1"
  planReceiptSha256 := "campaign-1"
  claimId := "campaign-1:window-1"
  claimedAtTsMs := 1000

def exampleBundle : CausalBundle where
  campaignId := "campaign-1"
  sampleId := "window-1"
  claimId := "campaign-1:window-1"
  marketSnapshotSha256 := exampleSha '6'
  sourceReceiptSha256s := ["macro-1", "market-1", "news-1"]
  frozenAtTsMs := 1000

def exampleAttempt (arm : ResearchArm) (attemptId : String) : AttemptStart where
  campaignId := "campaign-1"
  armId := arm
  sampleId := "window-1"
  symbol := "BTCUSDT"
  timeframe := "1m"
  marketAsOfTsMs := 1000
  marketSnapshotSha256 := exampleSha '6'
  sampleDeadlineTsMs := 3000
  attemptStartedAtTsMs := 1200
  provider := .openai
  requestedModel := "model-1"
  promptSha256 := exampleSha '3'
  budgetReservationId := attemptId
  attemptId := attemptId
  scheduleDigest := exampleSha '1'
  candidateProtocolDigest := exampleSha '5'
  armProtocolDigest := exampleArmSha arm

/-- A process without a scheduler, at a millisecond. -/
def atMs (ms : ℕ) : Dispatch := ⟨none, ms * 1000, ms * 1000⟩

/-- A campaign up to the bundle of its window. -/
def exampleFrozenCalls : List (CampaignCall × Dispatch) :=
  [(.research (.registerSchedule exampleSchedule) 0, atMs 0), (.research (.registerProtocol exampleProtocol) 0, atMs 0),
    (.register examplePlan, atMs 0), (.captureSource (exampleCapture .macroeconomic "macro-1"), atMs 950),
    (.captureSource (exampleCapture .marketSnapshot "market-1"), atMs 950),
    (.captureSource (exampleCapture .news "news-1"), atMs 950), (.claimNext "campaign-1", atMs 1000),
    (.freezeBundle exampleClaim, atMs 1000)]

def exampleOutcome (arm : ResearchArm) (status : OutcomeStatus) : ArmOutcome where
  campaignId := "campaign-1"
  sampleId := "window-1"
  armId := arm
  claimId := "campaign-1:window-1"
  status := status
  bundleReceiptSha256 := some "bundle"
  evaluationReceiptSha256 := none
  attemptId := none
  decisionReceiptSha256 := none
  causalSampleReceiptSha256 := none
  observedAtTsMs := 1100

end Example

end KairosPersistence
