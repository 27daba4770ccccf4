import KairosPersistence.SealedCoverage

/-!
A verified seal takes three transactions: one verifies the samples, one seals
them, one qualifies the seal. Others may write in between.
-/

namespace KairosPersistence

open Relation
open Transactions (bind_ok require_ok)

/-- The seal that a call qualifies: its own, or the one that was there when the samples were verified. -/
inductive CoverageStep (contracts : ResearchContracts) (campaignId : String) :
    Option SealRow → ResearchDatabase → ResearchDatabase → CoverageSeal → Prop
  | new {s t : ResearchDatabase} {coverage : CoverageSeal} (h : sealCoverage contracts campaignId s = .ok (t, coverage)) :
    CoverageStep contracts campaignId none s { t with txid := s.txid + 1 } coverage
  | old {s : ResearchDatabase} {row : SealRow} {coverage : CoverageSeal} (h : existingCoverage contracts row = .ok coverage) :
    CoverageStep contracts campaignId (some row) s s coverage

/-- A call of `seal_verified_coverage` that has returned, among any other writers. -/
structure VerifiedSealCall (contracts : ResearchContracts) where
  campaignId : String
  atVerification : ResearchDatabase
  verified : List DecisionSample
  existing : Option SealRow
  verification : verifyCampaign contracts campaignId atVerification = .ok (verified, existing)
  atSeal : ResearchDatabase
  beforeSeal : ReflTransGen (ResearchStep contracts) atVerification atSeal
  afterSeal : ResearchDatabase
  coverage : CoverageSeal
  sealing : CoverageStep contracts campaignId existing atSeal afterSeal coverage
  atQualification : ResearchDatabase
  beforeQualification : ReflTransGen (ResearchStep contracts) afterSeal atQualification
  final : ResearchDatabase
  receipt : QualifiedCoverage
  qualification : qualifyCoverage contracts campaignId coverage atQualification = .ok (final, receipt)

namespace VerifiedSealCall

variable {contracts : ResearchContracts} (call : VerifiedSealCall contracts)

/-- Every sample that the receipt covers has passed the verification of the call. -/
def CoversVerified : Prop :=
  ∀ row ∈ call.final.samplesOf call.campaignId, row ∈ call.atVerification.samplesOf call.campaignId ∧
    verifySample contracts call.atVerification row.sample = .ok ()

/-- No sample of the campaign was recorded between the verification and the seal. -/
def NoneBetween : Prop :=
  ∀ row ∈ call.atSeal.samplesOf call.campaignId, row ∈ call.atVerification.samplesOf call.campaignId

theorem verified_eq : call.verified = (call.atVerification.samplesOf call.campaignId).map (·.sample) ∧
    call.existing = call.atVerification.seal? call.campaignId := by
  obtain ⟨_, -, h⟩ := bind_ok call.verification
  obtain ⟨_, -, h⟩ := bind_ok h
  obtain ⟨hverified, hexisting⟩ := Prod.mk.inj (Except.ok.inj h)
  exact ⟨hverified.symm, hexisting.symm⟩

theorem verifies : ∀ row ∈ call.atVerification.samplesOf call.campaignId,
    verifySample contracts call.atVerification row.sample = .ok () := by
  intro row hrow
  obtain ⟨_, -, h⟩ := bind_ok call.verification
  obtain ⟨_, hverify, -⟩ := bind_ok h
  exact Transactions.forM_ok hverify row.sample (List.mem_map_of_mem hrow)

/-- After the sealing step there is a seal of the campaign, the one that was verified with the samples or a new one. -/
theorem sealed_of_sealing : ReflTransGen (ResearchStep contracts) call.atSeal call.afterSeal ∧
    call.afterSeal.samplesOf call.campaignId = call.atSeal.samplesOf call.campaignId ∧
    ∃ sealed ∈ call.afterSeal.seals, sealed.coverage.campaignId = call.campaignId ∧
      (call.existing ≠ none → sealed ∈ call.atVerification.seals) := by
  have hcampaign := (qualifyCoverage_ok call.qualification).2.1
  have hseal : ∀ row, call.existing = some row → row ∈ call.atVerification.seals ∧ row.coverage.campaignId = call.campaignId :=
    fun row hrow => KeyedRows.find?_mem (call.verified_eq.2.symm.trans hrow)
  have hbefore := ResearchDatabase.extends_of_run call.beforeSeal
  have hsealing := call.sealing
  generalize call.existing = existing, call.afterSeal = afterSeal, call.coverage = coverage, call.atSeal = atSeal
    at hcampaign hseal hsealing hbefore ⊢
  cases hsealing with
  | new h =>
    rename_i t
    refine ⟨.single ⟨.sealCoverage call.campaignId, 0, ?_⟩, ?_⟩
    · rw [ResearchCall.run, ResearchCall.rows, Transactions.run_ok h]
    · obtain ⟨-, _, _, -, -, -, -, -, -, rfl⟩ := sealCoverage_ok h
      exact ⟨rfl, _, List.mem_cons_self, hcampaign, fun hnone => absurd rfl hnone⟩
  | old h =>
    rename_i row
    obtain ⟨hmem, hid⟩ := hseal row rfl
    exact ⟨.refl, rfl, row, hbefore.seals.subset hmem, hid, fun _ => hmem⟩

variable {call} (h : Runs.Reachable (· = .empty) (ResearchStep contracts) call.atVerification)
include h

/-- What the receipt covers is what was there when the campaign was sealed. -/
theorem final_samplesOf : call.final.samplesOf call.campaignId = call.atSeal.samplesOf call.campaignId := by
  obtain ⟨hrun, hsame, sealed, hsealed, hid, -⟩ := call.sealed_of_sealing
  have hafter := (h.run call.beforeSeal).run hrun
  have hkept := samplesOf_sealed (consistent_of_reachable hafter)
    (consistent_of_reachable (hafter.run call.beforeQualification))
    (ResearchDatabase.extends_of_run call.beforeQualification) hsealed
  rw [hid] at hkept
  have hfinal : call.final.samplesOf call.campaignId = call.atQualification.samplesOf call.campaignId := by
    obtain ⟨-, -, -, hsamples, -⟩ := (qualifyCoverage_ok call.qualification).1
    rw [ResearchDatabase.samplesOf, hsamples, ResearchDatabase.samplesOf]
  exact hfinal.trans (hkept.trans hsame)

/-- A call that finds the campaign sealed has verified what was sealed. -/
theorem noneBetween_of_existing (hexisting : call.existing ≠ none) : call.NoneBetween := by
  intro row hrow
  obtain ⟨-, -, sealed, -, hid, hold⟩ := call.sealed_of_sealing
  have hkept := samplesOf_sealed (consistent_of_reachable h) (consistent_of_reachable (h.run call.beforeSeal))
    (ResearchDatabase.extends_of_run call.beforeSeal) (hold hexisting)
  rw [hid] at hkept
  rwa [hkept] at hrow

end VerifiedSealCall

/-- A source-qualified receipt covers only verified samples exactly when no sample was recorded between the
verification and the seal. None is when the campaign was sealed before. -/
theorem verified_seal {contracts : ResearchContracts} (call : VerifiedSealCall contracts)
    (h : Runs.Reachable (· = .empty) (ResearchStep contracts) call.atVerification) :
    (call.CoversVerified ↔ call.NoneBetween) ∧ (call.existing ≠ none → call.CoversVerified) := by
  have hiff : call.CoversVerified ↔ call.NoneBetween := by
    constructor
    · intro hcovers row hrow
      exact (hcovers row (VerifiedSealCall.final_samplesOf h ▸ hrow)).1
    · intro hnone row hrow
      have hverified := hnone row (VerifiedSealCall.final_samplesOf h ▸ hrow)
      exact ⟨hverified, call.verifies row hverified⟩
  exact ⟨hiff, fun hexisting => hiff.mpr (VerifiedSealCall.noneBetween_of_existing h hexisting)⟩

section Example

def exampleSource : SourceReceipt where
  campaignId := "campaign-1"
  sampleId := "window-1"
  scheduleDigest := exampleSha '1'
  candidateProtocolDigest := exampleSha '5'
  sourceKind := .marketSnapshot
  sourceName := "market"
  reference := "bar-1"
  sourceAsOfTsMs := 1000
  observedAtTsMs := 1000
  content := .obj []

def exampleEvaluation : StrategyEvaluation where
  campaignId := "campaign-1"
  sampleId := "window-1"
  scheduleDigest := exampleSha '1'
  candidateProtocolDigest := exampleSha '5'
  strategyId := "strategy-1"
  strategyRevision := "1"
  symbol := "BTCUSDT"
  timeframe := "1m"
  evidenceAsOfTsMs := 1000
  evaluatedAtTsMs := 1000
  marketSnapshotSha256 := exampleSha '6'
  evaluatorSha256 := exampleSha '2'
  sourceReceiptSha256s := [exampleSha '8']
  intent := none

/-- The sample of an arm that says when the evidence of its evaluation was. -/
def exampleEvaluated (asOf : ℕ) (arm : ResearchArm) : DecisionSample :=
  { exampleSample arm with
    strategyOutcome := .noIntent
    strategyEvaluationSha256 := some (exampleSha '9')
    strategyEvidenceAsOfTsMs := some asOf
    strategyMarketSnapshotSha256 := some (exampleSha '6') }

def exampleEvidenceCalls : List ResearchCall :=
  [.registerSchedule exampleSchedule, .registerProtocol exampleProtocol, .enrollCampaign "campaign-1",
    .recordSource exampleSource, .recordEvaluation exampleEvaluation]

def exampleRecords (asOf : ℕ) : List ResearchCall := researchArms.map fun arm => .recordSample (exampleEvaluated asOf arm)

def exampleCoverage : CoverageSeal := ⟨"campaign-1", exampleSha '1', exampleSha '5', 3, exampleSha '0'⟩

def exampleReceipt : QualifiedCoverage :=
  ⟨"campaign-1", exampleCoverage, exampleSha '0', exampleSha '0', exampleSha '0', exampleSha '0'⟩

/-- The campaign that the call verifies, and what it is when the call seals it. -/
def exampleVerified (before : List ResearchCall) : ResearchDatabase :=
  runResearchCalls exampleResearchContracts before .empty

def exampleUnsealed (before between : List ResearchCall) : ResearchDatabase :=
  runResearchCalls exampleResearchContracts between (exampleVerified before)

def exampleAfterSeal (before between : List ResearchCall) : ResearchDatabase :=
  { (Transactions.run (sealCoverage exampleResearchContracts "campaign-1") (exampleUnsealed before between)).1 with
    txid := (exampleUnsealed before between).txid + 1 }

/-- The three transactions of the call go through. -/
def ExampleReturns (before between : List ResearchCall) (verified : List DecisionSample) : Prop :=
  verifyCampaign exampleResearchContracts "campaign-1" (exampleVerified before) = .ok (verified, none) ∧
    (Transactions.run (sealCoverage exampleResearchContracts "campaign-1") (exampleUnsealed before between)).2 =
      .ok exampleCoverage ∧
    (Transactions.run (qualifyCoverage exampleResearchContracts "campaign-1" exampleCoverage)
      (exampleAfterSeal before between)).2 = .ok exampleReceipt

instance (before between : List ResearchCall) (verified : List DecisionSample) :
    Decidable (ExampleReturns before between verified) := inferInstanceAs (Decidable (_ ∧ _))

/-- A call that verifies the samples of `before`, while others write `between` before it seals. -/
def exampleCall (before between : List ResearchCall) (verified : List DecisionSample)
    (h : ExampleReturns before between verified) : VerifiedSealCall exampleResearchContracts where
  campaignId := "campaign-1"
  atVerification := exampleVerified before
  verified := verified
  existing := none
  verification := h.1
  atSeal := exampleUnsealed before between
  beforeSeal := run_calls _ between _
  afterSeal := exampleAfterSeal before between
  coverage := exampleCoverage
  sealing := .new (Transactions.eq_ok_of_run h.2.1)
  atQualification := exampleAfterSeal before between
  beforeQualification := .refl
  final := (Transactions.run (qualifyCoverage exampleResearchContracts "campaign-1" exampleCoverage)
    (exampleAfterSeal before between)).1
  receipt := exampleReceipt
  qualification := Transactions.eq_ok_of_run h.2.2

def exampleHonestCalls : List ResearchCall := exampleEvidenceCalls ++ exampleRecords 1000

theorem exampleHonest_returns : ExampleReturns exampleHonestCalls [.verifyCampaign "campaign-1"]
    (researchArms.map (exampleEvaluated 1000)).reverse := by decide +kernel

def exampleHonestCall : VerifiedSealCall exampleResearchContracts := exampleCall _ _ _ exampleHonest_returns

theorem verified_seal_example : (exampleHonestCall.CoversVerified ↔ exampleHonestCall.NoneBetween) ∧
    (exampleHonestCall.existing ≠ none → exampleHonestCall.CoversVerified) :=
  verified_seal exampleHonestCall ⟨_, rfl, run_calls exampleResearchContracts exampleHonestCalls .empty⟩

/-- The samples come after the verification; what they say of their evidence is not what was evaluated. -/
def exampleRacingCalls : List ResearchCall := .verifyCampaign "campaign-1" :: exampleRecords 999

theorem exampleRaced_returns : ExampleReturns exampleEvidenceCalls exampleRacingCalls [] ∧
    ∃ row ∈ (exampleAfterSeal exampleEvidenceCalls exampleRacingCalls).samplesOf "campaign-1",
      verifySample exampleResearchContracts (exampleAfterSeal exampleEvidenceCalls exampleRacingCalls) row.sample ≠ .ok () := by
  decide +kernel

theorem verified_seal_raced : ∃ call : VerifiedSealCall exampleResearchContracts,
    Runs.Reachable (· = .empty) (ResearchStep exampleResearchContracts) call.atVerification ∧
      ∃ row ∈ call.final.samplesOf call.campaignId, row.sample ∉ call.verified ∧
        verifySample exampleResearchContracts call.afterSeal row.sample ≠ .ok () := by
  obtain ⟨hreturns, row, hrow, hverify⟩ := exampleRaced_returns
  let call := exampleCall _ _ _ hreturns
  have hreachable : Runs.Reachable (· = .empty) (ResearchStep exampleResearchContracts) call.atVerification :=
    ⟨_, rfl, run_calls exampleResearchContracts exampleEvidenceCalls .empty⟩
  refine ⟨call, hreachable, row, ?_, List.not_mem_nil, hverify⟩
  have hfinal := (qualifyCoverage_ok call.qualification).1.2.2.2.1
  rw [ResearchDatabase.samplesOf, hfinal]
  exact hrow

end Example

end KairosPersistence
