import KairosPersistence.CampaignReceipts

/-!
A campaign from its plan to the evaluation of a window: the capture of its
sources, the claim of a window, its bundle and its evaluation.
-/

namespace KairosPersistence

open PythonJson
open Transactions (bind_ok require require_ok found found_ok)

variable (contracts : CampaignContracts)

section Stores

/-- Equality of receipts of one contract. -/
def CampaignReceipt.same : CampaignReceipt → CampaignReceipt → Bool
  | .source a, .source b => a.toSourceHeader = b.toSourceHeader && equal a.content b.content
  | .bundle a, .bundle b => a = b
  | .evaluation a, .evaluation b => a = b
  | .causalEvaluation a, .causalEvaluation b => a = b
  | .start a, .start b => a = b
  | .terminal a, .terminal b => a = b
  | .review a, .review b => a = b
  | .cost a, .cost b => a = b
  | .sample a, .sample b => a = b
  | .causalPair a, .causalPair b => a = b
  | .outcome a, .outcome b => a = b
  | _, _ => false

/-- The row of a receipt. -/
def receiptRow (campaignId sampleId : String) (arm : SlotArm) (slotKey : String) (receipt : CampaignReceipt) (clock : ℕ) :
    ReceiptRow :=
  ⟨contracts.receiptSha256 receipt, campaignId, sampleId, arm, slotKey, receipt, clock⟩

/-- `_store`. -/
def storeReceipt (row : ReceiptRow) (s : CampaignDatabase) : Except ResearchError (CampaignDatabase × Bool) :=
  match s.row? row.slot with
  | some existing => do
    require (existing.receipt.same row.receipt)
      (.messageIdentityConflict "campaign receipt slot already contains different immutable facts")
    pure (s, false)
  | none => do
    let t ← insertReceipt contracts s row
    pure (t, true)

end Stores

section Context

/-- `_identity`. -/
def campaignIdentity (s : CampaignDatabase) (campaignId : String) :
    Except ResearchError (ObservationSchedule × CandidateProtocol) := do
  let row ← found (s.research.schedule? campaignId)
    (.messageIdentityConflict "campaign requires independent frozen schedule and protocol")
  let protocolRow ← found (s.research.protocol? campaignId)
    (.messageIdentityConflict "campaign requires independent frozen schedule and protocol")
  let schedule := row.payload
  verifySchedule s.research row schedule
  let protocol ← verifyProtocol contracts.toResearchContracts protocolRow
  require (protocol.scheduleDigest = schedule.scheduleDigest)
    (.messageIdentityConflict "campaign schedule/protocol identities disagree")
  pure (schedule, protocol)

/-- `_require_causal_plan`. -/
def requireCausalPlan (scheduler : Option String) (plan : CampaignPlan) : Except ResearchError Unit :=
  require (scheduler = some plan.schedulerSha256)
    (.messageIdentityConflict "causal receipt family requires its explicitly frozen scheduler identity")

/-- What is frozen of a campaign. -/
structure CampaignContext where
  planRow : PlanRow
  schedule : ObservationSchedule
  protocol : CandidateProtocol

/-- `_context`. -/
def campaignContext (scheduler : Option String) (s : CampaignDatabase) (campaignId : String) :
    Except ResearchError CampaignContext := do
  let planRow ← found (s.plan? campaignId) (.messageIdentityConflict "campaign has no independently committed plan")
  let (schedule, protocol) ← campaignIdentity contracts s campaignId
  require (planRow.plan.scheduleDigest = schedule.scheduleDigest ∧
      planRow.plan.candidateProtocolDigest = protocol.protocolDigest)
    (.messageIdentityConflict "stored campaign plan differs from frozen source identity")
  if scheduler = none then pure ⟨planRow, schedule, protocol⟩
  else do
    requireCausalPlan scheduler planRow.plan
    pure ⟨planRow, schedule, protocol⟩

/-- `_window`. -/
def campaignWindow (schedule : ObservationSchedule) (sampleId : String) : Except ResearchError ObservationWindow :=
  found (schedule.window? sampleId) (.messageIdentityConflict "sample is absent from preregistered schedule")

/-- `_load_claim`. -/
def loadClaim (s : CampaignDatabase) (campaignId sampleId : String) : Except ResearchError WindowClaim := do
  let row ← found (s.claim? campaignId sampleId) (.messageIdentityConflict "window has no durable dispatch claim")
  pure row.claim

/-- `_claimed`. -/
def claimedContext (scheduler : Option String) (claim : WindowClaim) (s : CampaignDatabase) :
    Except ResearchError CampaignContext := do
  require (claim.claimId = contracts.claimId claim.planReceiptSha256 claim.sampleId)
    (.valueError "window claim differs from its frozen campaign/sample identity")
  let context ← campaignContext contracts scheduler s claim.campaignId
  let stored ← loadClaim s claim.campaignId claim.sampleId
  require (stored = claim) (.messageIdentityConflict "window claim does not match its independently stored facts")
  pure context

/-- `_bundle`. -/
def loadBundle (s : CampaignDatabase) (campaignId sampleId : String) : Except ResearchError CausalBundle := do
  let row ← found (s.row? ⟨campaignId, sampleId, none, .bundle, "one"⟩)
    (.messageIdentityConflict "window has no independently frozen causal bundle")
  match row.receipt with
  | .bundle bundle => pure bundle
  | _ => .error (.messageIdentityConflict "stored independent research receipt failed typed integrity verification")

/-- `_load_receipt` of a source. -/
def loadCampaignSource (s : CampaignDatabase) (receiptSha256 : String) : Except ResearchError SourceReceipt := do
  let row ← found (s.receipt? receiptSha256)
    (.messageIdentityConflict "independently stored campaign receipt is missing")
  match row.receipt with
  | .source source => pure source
  | _ => .error (.messageIdentityConflict "stored independent research receipt failed typed integrity verification")

/-- An evaluation of either family. -/
inductive CampaignEvaluation where
  | core (receipt : StrategyEvaluation)
  | causal (receipt : CausalEvaluation)
  deriving DecidableEq, Repr

namespace CampaignEvaluation

def receipt : CampaignEvaluation → CampaignReceipt
  | core receipt => .evaluation receipt
  | causal receipt => .causalEvaluation receipt

def campaignId : CampaignEvaluation → String
  | core receipt => receipt.campaignId
  | causal receipt => receipt.campaignId

def sampleId : CampaignEvaluation → String
  | core receipt => receipt.sampleId
  | causal receipt => receipt.sampleId

def evaluatedAtTsMs : CampaignEvaluation → ℕ
  | core receipt => receipt.evaluatedAtTsMs
  | causal receipt => receipt.evaluatedAtTsMs

def sourceReceiptSha256s : CampaignEvaluation → List String
  | core receipt => receipt.sourceReceiptSha256s
  | causal receipt => receipt.sourceReceiptSha256s

def intent : CampaignEvaluation → Option StrategyIntent
  | core receipt => receipt.intent
  | causal receipt => receipt.intent

def isCausal : CampaignEvaluation → Bool
  | core _ => false
  | causal _ => true

end CampaignEvaluation

/-- `decode_campaign_evaluation_row`. -/
def decodeEvaluation (row : ReceiptRow) : Except ResearchError CampaignEvaluation :=
  match row.receipt with
  | .evaluation receipt => .ok (.core receipt)
  | .causalEvaluation receipt => .ok (.causal receipt)
  | _ => .error (.messageIdentityConflict "campaign evaluation contract is stored in a different receipt kind")

/-- The evaluation of a sample, if it has been evaluated. -/
def storedEvaluation (s : CampaignDatabase) (campaignId sampleId : String) :
    Except ResearchError (Option (ReceiptRow × CampaignEvaluation)) :=
  match s.row? ⟨campaignId, sampleId, none, .evaluation, "one"⟩ with
  | none => .ok none
  | some row => do
    let evaluation ← decodeEvaluation row
    pure (some (row, evaluation))

/-- `_guard_causal_evaluation`: whether the evaluation of the sample is causal. -/
def guardCausalEvaluation (scheduler : Option String) (s : CampaignDatabase) (plan : CampaignPlan)
    (campaignId sampleId : String) : Except ResearchError Bool := do
  match ← storedEvaluation s campaignId sampleId with
  | some (_, .causal _) => do
    requireCausalPlan scheduler plan
    pure true
  | _ => pure false

end Context

section Plans

def SourceKind.value : SourceKind → String
  | .marketSnapshot => "MARKET_SNAPSHOT"
  | .news => "NEWS"
  | .macroeconomic => "MACRO"

/-- `capture_identity`. -/
def CampaignPlan.verify (plan : CampaignPlan) : Except ResearchError Unit := do
  require (plan.requiredSources.Pairwise fun a b => a.sourceKind.value < b.sourceKind.value ∨
      a.sourceKind = b.sourceKind ∧ a.sourceName < b.sourceName)
    (.valueError "capture requirements must be distinct and sorted")
  require ((plan.requiredSources.filter (·.sourceKind = .marketSnapshot)).length = 1 ∧
      (∃ item ∈ plan.requiredSources, item.sourceKind = .news) ∧
      ∃ item ∈ plan.requiredSources, item.sourceKind = .macroeconomic)
    (.valueError "causal campaign requires exactly one market plus news and macro")

/-- `register` of the campaigns. -/
def registerPlan (scheduler : Option String) (plan : CampaignPlan) (clock : ℕ) (s : CampaignDatabase) :
    Except ResearchError (CampaignDatabase × Bool) := do
  plan.verify
  let (schedule, protocol) ← campaignIdentity contracts s plan.campaignId
  require (plan.scheduleDigest = schedule.scheduleDigest ∧ plan.candidateProtocolDigest = protocol.protocolDigest)
    (.messageIdentityConflict "campaign plan differs from frozen schedule/protocol")
  match s.plan? plan.campaignId with
  | some old => do
    require (old.plan = plan) (.messageIdentityConflict "campaign already has a different immutable plan")
    pure (s, false)
  | none => do
    require (∃ window ∈ schedule.windows.head?, clockMs scheduler clock < window.marketAsOfTsMs)
      (.messageIdentityConflict "campaign cannot preregister past decision windows")
    let t ← insertPlan s ⟨contracts.planSha256 plan, plan, s.research.txid⟩ clock
    pure (t, true)

end Plans

section Sources

def contractVersion : PyJson → Option String
  | .obj fields =>
    match getField fields "contract_version" with
    | .str version => some version
    | _ => none
  | _ => none

/-- The arguments of `capture_source`. -/
structure SourceCapture where
  campaignId : String
  sampleId : String
  sourceKind : SourceKind
  sourceName : String
  reference : String
  sourceAsOfTsMs : ℕ
  content : PyJson

def SourceCapture.slotKey (capture : SourceCapture) : String := capture.sourceKind.value ++ ":" ++ capture.sourceName

/-- Content of the causal family needs its plan. -/
def requireCaptureFamily (scheduler : Option String) (plan : CampaignPlan) (content : PyJson) : Except ResearchError Unit :=
  if contractVersion content ∈ ["campaign-market-context.v1", "campaign-news-input.v1",
      "campaign-macro-input.v1"].map some then
    requireCausalPlan scheduler plan
  else .ok ()

/-- `capture_source`. -/
def captureSource (scheduler : Option String) (capture : SourceCapture) (clock : ℕ) (s : CampaignDatabase) :
    Except ResearchError (CampaignDatabase × SourceReceipt) := do
  let context ← campaignContext contracts scheduler s capture.campaignId
  let _ ← campaignWindow context.schedule capture.sampleId
  requireCaptureFamily scheduler context.planRow.plan capture.content
  require (∃ item ∈ context.planRow.plan.requiredSources,
      (item.sourceKind, item.sourceName) = (capture.sourceKind, capture.sourceName))
    (.messageIdentityConflict "source is not in the preregistered capture policy")
  require (s.row? ⟨capture.campaignId, capture.sampleId, none, .bundle, "one"⟩ = none)
    (.messageIdentityConflict "frozen causal bundle cannot receive new source content")
  match s.row? ⟨capture.campaignId, capture.sampleId, none, .source, capture.slotKey⟩ with
  | some old =>
    match old.receipt with
    | .source receipt => do
      require (receipt.reference = capture.reference ∧ receipt.sourceAsOfTsMs = capture.sourceAsOfTsMs ∧
          equal receipt.content capture.content)
        (.messageIdentityConflict "source capture cannot replace its independently saved bytes")
      pure (s, receipt)
    | _ => .error (.messageIdentityConflict "stored independent research receipt failed typed integrity verification")
  | none => do
    let receipt : SourceReceipt :=
      { campaignId := capture.campaignId
        sampleId := capture.sampleId
        scheduleDigest := context.schedule.scheduleDigest
        candidateProtocolDigest := context.protocol.protocolDigest
        sourceKind := capture.sourceKind
        sourceName := capture.sourceName
        reference := capture.reference
        sourceAsOfTsMs := capture.sourceAsOfTsMs
        observedAtTsMs := clockMs scheduler clock
        content := capture.content }
    receipt.verify
    let (t, _) ← storeReceipt contracts
      (receiptRow contracts capture.campaignId capture.sampleId none capture.slotKey (.source receipt) clock) s
    pure (t, receipt)

end Sources

section Claims

/-- `claim_next`. -/
def claimNext (scheduler : Option String) (campaignId : String) (clock : ℕ) (s : CampaignDatabase) :
    Except ResearchError (CampaignDatabase × Option WindowClaim) := do
  let context ← campaignContext contracts scheduler s campaignId
  let now := clockMs scheduler clock
  match (s.research.roster campaignId).find? fun window =>
      window.marketAsOfTsMs ≤ now ∧ s.claim? campaignId window.sampleId = none with
  | none => pure (s, none)
  | some window => do
    let claim : WindowClaim :=
      { campaignId := campaignId
        sampleId := window.sampleId
        planReceiptSha256 := context.planRow.receiptSha256
        claimId := contracts.claimId context.planRow.receiptSha256 window.sampleId
        claimedAtTsMs := now }
    let t ← insertClaim s ⟨contracts.claimSha256 claim, claim⟩
    pure (t, some claim)

end Claims

section Bundles

/-- The source of a requirement, in time for the cutoff of the window. -/
def requiredSource (s : CampaignDatabase) (campaignId : String) (window : ObservationWindow) (item : CaptureRequirement) :
    Except ResearchError SourceReceipt := do
  let row ← found (s.row? ⟨campaignId, window.sampleId, none, .source, item.sourceKind.value ++ ":" ++ item.sourceName⟩)
    (.messageIdentityConflict "preregistered causal source is missing")
  match row.receipt with
  | .source source => do
    require (window.marketAsOfTsMs ≤ source.sourceAsOfTsMs + item.maximumAgeMs ∧
        source.sourceAsOfTsMs ≤ source.observedAtTsMs ∧ source.observedAtTsMs ≤ window.marketAsOfTsMs)
      (.messageIdentityConflict "source is late, future or stale at the preregistered decision cutoff")
    pure source
  | _ => .error (.messageIdentityConflict "stored independent research receipt failed typed integrity verification")

/-- `sorted(digests)`. -/
def sortedTexts (texts : List String) : List String := texts.insertionSort fun a b => ¬b < a

/-- `freeze_bundle`. -/
def freezeBundle (scheduler : Option String) (claim : WindowClaim) (clock : ℕ) (s : CampaignDatabase) :
    Except ResearchError (CampaignDatabase × CausalBundle) := do
  let context ← claimedContext contracts scheduler claim s
  match s.row? ⟨claim.campaignId, claim.sampleId, none, .bundle, "one"⟩ with
  | some old =>
    match old.receipt with
    | .bundle bundle => pure (s, bundle)
    | _ => .error (.messageIdentityConflict "stored independent research receipt failed typed integrity verification")
  | none => do
    let window ← campaignWindow context.schedule claim.sampleId
    let sources ← context.planRow.plan.requiredSources.mapM (requiredSource s claim.campaignId window)
    let market ← found (sources.find? (·.sourceKind = .marketSnapshot)) .stopIteration
    require (market.sourceAsOfTsMs < window.marketAsOfTsMs)
      (.messageIdentityConflict "campaign decision cutoff must be after the captured market close")
    require (∀ digest ∈ window.marketSnapshotSha256, contracts.contentSha256 market.content = digest)
      (.messageIdentityConflict "market differs from the frozen snapshot identity")
    let bundle : CausalBundle :=
      { campaignId := claim.campaignId
        sampleId := claim.sampleId
        claimId := claim.claimId
        marketSnapshotSha256 := contracts.contentSha256 market.content
        sourceReceiptSha256s := sortedTexts (sources.map contracts.sourceSha256)
        frozenAtTsMs := clockMs scheduler clock }
    require (SortedDistinct bundle.sourceReceiptSha256s)
      (.valueError "causal bundle sources must be distinct and sorted")
    let (t, _) ← storeReceipt contracts
      (receiptRow contracts claim.campaignId claim.sampleId none "one" (.bundle bundle) clock) s
    pure (t, bundle)

/-- `_same_bundle` of the stored one. -/
def sameBundle (s : CampaignDatabase) (claim : WindowClaim) (bundle : CausalBundle) : Except ResearchError Unit := do
  let saved ← loadBundle s claim.campaignId claim.sampleId
  require (SortedDistinct bundle.sourceReceiptSha256s) (.valueError "causal bundle sources must be distinct and sorted")
  require (saved = bundle) (.messageIdentityConflict "matched input differs from independently frozen bundle")

end Bundles

end KairosPersistence
