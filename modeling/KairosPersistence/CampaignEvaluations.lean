import KairosPersistence.CampaignWindows

/-!
The evaluation of a claimed window: of the strategy that a campaign had first,
and of the causal family, whose context is resolved from stored sources.
-/

namespace KairosPersistence

open PythonJson
open Transactions (bind_ok require require_ok found found_ok)

variable (contracts : CampaignContracts)

section Core

/-- `record_evaluation`; the row is stamped at a later reading of the clock. -/
def recordCampaignEvaluation (scheduler : Option String) (claim : WindowClaim) (bundle : CausalBundle)
    (intent : Option StrategyIntent) (clock recorded : ℕ) (s : CampaignDatabase) :
    Except ResearchError (CampaignDatabase × StrategyEvaluation) := do
  require (scheduler = none)
    (.messageIdentityConflict "legacy evaluator cannot write through the causal family opt-in")
  let context ← claimedContext contracts scheduler claim s
  sameBundle s claim bundle
  bundle.sourceReceiptSha256s.forM fun digest => do
    let source ← loadCampaignSource s digest
    require (¬(source.sourceKind = .marketSnapshot ∧
        contractVersion source.content = some "campaign-market-context.v1"))
      (.messageIdentityConflict "legacy evaluator cannot adopt the new causal context family")
  match s.row? ⟨claim.campaignId, claim.sampleId, none, .evaluation, "one"⟩ with
  | some old =>
    match old.receipt with
    | .evaluation saved => do
      require (saved.intent = intent)
        (.messageIdentityConflict "baseline evaluator cannot overwrite a prior outcome")
      pure (s, saved)
    | _ => .error (.messageIdentityConflict "stored independent research receipt failed typed integrity verification")
  | none => do
    let window ← campaignWindow context.schedule claim.sampleId
    let receipt : StrategyEvaluation :=
      { campaignId := claim.campaignId
        sampleId := claim.sampleId
        scheduleDigest := context.schedule.scheduleDigest
        candidateProtocolDigest := context.protocol.protocolDigest
        strategyId := context.schedule.strategyId
        strategyRevision := context.schedule.strategyRevision
        symbol := window.symbol
        timeframe := window.timeframe
        evidenceAsOfTsMs := window.marketAsOfTsMs
        evaluatedAtTsMs := floorMs clock
        marketSnapshotSha256 := bundle.marketSnapshotSha256
        evaluatorSha256 := context.schedule.evaluatorSha256
        sourceReceiptSha256s := bundle.sourceReceiptSha256s
        intent := intent }
    receipt.verify contracts.toResearchContracts
    let (t, _) ← storeReceipt contracts
      (receiptRow contracts claim.campaignId claim.sampleId none "one" (.evaluation receipt) recorded) s
    pure (t, receipt)

end Core

section Causal

/-- `actual_anchor`. -/
def CausalEvaluation.verify (contracts : ResearchContracts) (receipt : CausalEvaluation) : Except ResearchError Unit := do
  require (receipt.anchorBarCloseTsMs < receipt.evidenceAsOfTsMs ∧ receipt.evidenceAsOfTsMs ≤ receipt.evaluatedAtTsMs)
    (.valueError "causal evaluation requires a closed bar before context and actual evaluation")
  require (SortedDistinct receipt.sourceReceiptSha256s)
    (.valueError "causal evaluation source hashes must be distinct and sorted")
  require (receipt.contextSourceReceiptSha256 ∈ receipt.sourceReceiptSha256s)
    (.valueError "causal evaluation context is absent from its source roster")
  match receipt.intent with
  | none => pure ()
  | some intent => do
    require ((intent.strategyId, intent.strategyRevision, intent.symbol, intent.timeframe) =
        (receipt.strategyId, receipt.strategyRevision, receipt.symbol, "1m"))
      (.valueError "causal evaluation intent differs from its frozen scope")
    require (intent.intentId = contracts.intentSha256 intent ∧ intent.decisionTsMs = receipt.anchorBarCloseTsMs ∧
        intent.inputBarSha256s.getLast? = some receipt.anchorBarSha256 ∧
        intent.inputWindowSha256 = receipt.barWindowSha256 ∧ intent.inputBarSha256s.length = receipt.barCount)
      (.valueError "causal evaluation cannot rewrite the original strategy clock or window")

/-- What a stored source of the causal family is checked against. -/
def verifyCausalSource (plan : CampaignPlan) (schedule : ObservationSchedule) (protocol : CandidateProtocol)
    (window : ObservationWindow) (claim : WindowClaim) (source : SourceReceipt) : Except ResearchError Unit := do
  require (source.campaignId = claim.campaignId ∧ source.sampleId = claim.sampleId ∧
      source.scheduleDigest = schedule.scheduleDigest ∧ source.candidateProtocolDigest = protocol.protocolDigest ∧
      source.sourceAsOfTsMs ≤ source.observedAtTsMs ∧ source.observedAtTsMs ≤ window.marketAsOfTsMs ∧
      ∃ item ∈ plan.requiredSources, (item.sourceKind, item.sourceName) = (source.sourceKind, source.sourceName) ∧
        window.marketAsOfTsMs ≤ source.sourceAsOfTsMs + item.maximumAgeMs)
    (.messageIdentityConflict "causal source identity, availability or freshness failed replay")
  if source.sourceKind = .marketSnapshot then pure ()
  else do
    let message ← found
      (if source.sourceKind = .news then contracts.decodeNews source.content else contracts.decodeMacroeconomic source.content)
      (.messageIdentityConflict "causal source failed its exact producer contract")
    require (message.messageId = source.reference ∧ message.producedAtTsMs = source.sourceAsOfTsMs)
      (.messageIdentityConflict "causal source rewrote its original producer identity or clock")

/-- `_causal_context`: the market context and its source, with the sources of the bundle. -/
def causalContext (s : CampaignDatabase) (claim : WindowClaim) (bundle : CausalBundle) (context : CampaignContext) :
    Except ResearchError (MarketContext × List SourceReceipt × SourceReceipt) := do
  let window ← campaignWindow context.schedule claim.sampleId
  require ((bundle.campaignId, bundle.sampleId, bundle.claimId) = (claim.campaignId, claim.sampleId, claim.claimId))
    (.messageIdentityConflict "causal bundle differs from the independently committed claim")
  let sources ← bundle.sourceReceiptSha256s.mapM (loadCampaignSource s)
  let plan := context.planRow.plan
  let required := plan.requiredSources.map fun item => (item.sourceKind, item.sourceName)
  require ((∀ source ∈ sources, (source.sourceKind, source.sourceName) ∈ required) ∧
      (∀ item ∈ required, item ∈ sources.map fun source => (source.sourceKind, source.sourceName)) ∧
      sources.length = required.length)
    (.messageIdentityConflict "causal source roster differs from preregistered capture policy")
  sources.forM (verifyCausalSource contracts plan context.schedule context.protocol window claim)
  let market ← found (sources.find? (·.sourceKind = .marketSnapshot)) .stopIteration
  let descriptor ← found (contracts.marketContext market.content) (.valueError "CampaignMarketContextV1")
  require (descriptor.symbol = window.symbol ∧ descriptor.timeframe = window.timeframe ∧
      contracts.contentSha256 market.content = bundle.marketSnapshotSha256 ∧
      descriptor.anchorBarCloseTsMs < window.marketAsOfTsMs ∧
      descriptor.anchorBarCloseTsMs ≤ descriptor.producedAtTsMs ∧ descriptor.producedAtTsMs = market.sourceAsOfTsMs ∧
      market.sourceAsOfTsMs < window.marketAsOfTsMs ∧ market.reference = descriptor.snapshotMessageId ∧
      (∀ digest ∈ window.marketSnapshotSha256, digest = contracts.contentSha256 market.content) ∧
      window.marketAsOfTsMs ≤ bundle.frozenAtTsMs)
    (.messageIdentityConflict "causal context differs from actual bar, original envelope or cutoff")
  pure (descriptor, sources, market)

/-- `_same_causal_evaluation`. -/
def sameCausalEvaluation (evaluation : CausalEvaluation) (descriptor : MarketContext) (market : SourceReceipt)
    (bundle : CausalBundle) (schedule : ObservationSchedule) (protocol : CandidateProtocol) : Except ResearchError Unit := do
  let window ← campaignWindow schedule bundle.sampleId
  require (evaluation.campaignId = bundle.campaignId ∧ evaluation.sampleId = bundle.sampleId ∧
      evaluation.scheduleDigest = schedule.scheduleDigest ∧
      evaluation.candidateProtocolDigest = protocol.protocolDigest ∧ evaluation.strategyId = schedule.strategyId ∧
      evaluation.strategyRevision = schedule.strategyRevision ∧ evaluation.symbol = descriptor.symbol ∧
      evaluation.marketSnapshotSha256 = bundle.marketSnapshotSha256 ∧
      evaluation.evaluatorSha256 = schedule.evaluatorSha256 ∧
      evaluation.sourceReceiptSha256s = bundle.sourceReceiptSha256s ∧
      evaluation.contextSourceReceiptSha256 = contracts.sourceSha256 market ∧
      evaluation.anchorBarSha256 = descriptor.anchorBarSha256 ∧
      evaluation.anchorBarCloseTsMs = descriptor.anchorBarCloseTsMs ∧
      evaluation.barWindowSha256 = descriptor.barWindowSha256 ∧ evaluation.barCount = descriptor.barCount ∧
      evaluation.evidenceAsOfTsMs = window.marketAsOfTsMs)
    (.messageIdentityConflict "causal evaluation differs from independently saved source fingerprints")

/-- `CausalBaselineResultV1`. -/
structure CausalBaselineResult where
  contextSourceReceiptSha256 : String
  barWindowSha256 : String
  barCount : ℕ
  intent : Option StrategyIntent
  deriving DecidableEq, Repr

/-- `record_causal_evaluation`. -/
def recordCausalEvaluation (scheduler : Option String) (claim : WindowClaim) (bundle : CausalBundle)
    (result : CausalBaselineResult) (clock recorded : ℕ) (s : CampaignDatabase) :
    Except ResearchError (CampaignDatabase × CausalEvaluation) := do
  let context ← claimedContext contracts scheduler claim s
  requireCausalPlan scheduler context.planRow.plan
  sameBundle s claim bundle
  let (descriptor, _, market) ← causalContext contracts s claim bundle context
  require ((result.contextSourceReceiptSha256, result.barWindowSha256, result.barCount) =
      (contracts.sourceSha256 market, descriptor.barWindowSha256, descriptor.barCount))
    (.messageIdentityConflict "baseline result differs from independently captured market context")
  match s.row? ⟨claim.campaignId, claim.sampleId, none, .evaluation, "one"⟩ with
  | some old => do
    match ← decodeEvaluation old with
    | .causal saved => do
      require (saved.intent = result.intent)
        (.messageIdentityConflict "causal baseline cannot replace a different evaluation family")
      sameCausalEvaluation contracts saved descriptor market bundle context.schedule context.protocol
      pure (s, saved)
    | .core _ => .error (.messageIdentityConflict "causal baseline cannot replace a different evaluation family")
  | none => do
    let window ← campaignWindow context.schedule claim.sampleId
    let receipt : CausalEvaluation :=
      { campaignId := claim.campaignId
        sampleId := claim.sampleId
        scheduleDigest := context.schedule.scheduleDigest
        candidateProtocolDigest := context.protocol.protocolDigest
        strategyId := context.schedule.strategyId
        strategyRevision := context.schedule.strategyRevision
        symbol := window.symbol
        evidenceAsOfTsMs := window.marketAsOfTsMs
        evaluatedAtTsMs := ceilMs clock
        marketSnapshotSha256 := bundle.marketSnapshotSha256
        evaluatorSha256 := context.schedule.evaluatorSha256
        sourceReceiptSha256s := bundle.sourceReceiptSha256s
        contextSourceReceiptSha256 := contracts.sourceSha256 market
        anchorBarSha256 := descriptor.anchorBarSha256
        anchorBarCloseTsMs := descriptor.anchorBarCloseTsMs
        barWindowSha256 := descriptor.barWindowSha256
        barCount := descriptor.barCount
        intent := result.intent }
    receipt.verify contracts.toResearchContracts
    let (t, _) ← storeReceipt contracts
      (receiptRow contracts claim.campaignId claim.sampleId none "one" (.causalEvaluation receipt) recorded) s
    pure (t, receipt)

/-- A causal evaluation is read again against its sources. -/
def verifyStoredCausal (scheduler : Option String) (s : CampaignDatabase) (claim : WindowClaim) (bundle : CausalBundle)
    (context : CampaignContext) : CampaignEvaluation → Except ResearchError Unit
  | .core _ => .ok ()
  | .causal evaluation => do
    requireCausalPlan scheduler context.planRow.plan
    let (descriptor, _, market) ← causalContext contracts s claim bundle context
    sameCausalEvaluation contracts evaluation descriptor market bundle context.schedule context.protocol

end Causal

end KairosPersistence
