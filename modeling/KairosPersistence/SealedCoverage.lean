import Mathlib.Data.List.ProdSigma
import KairosPersistence.ResearchInvariants

/-!
A sealed campaign has one sample for each window and arm of its frozen roster,
and none other.
-/

namespace KairosPersistence

open PythonText Relation

/-- The rows of the other are older rows of this one. -/
structure ResearchDatabase.Extends (t s : ResearchDatabase) : Prop where
  schedules : s.schedules <:+ t.schedules
  protocols : s.protocols <:+ t.protocols
  samples : s.samples <:+ t.samples
  seals : s.seals <:+ t.seals

/-- The samples of a campaign are those of its frozen roster and arms. -/
structure ResearchDatabase.MatchedCoverage (contracts : ResearchContracts) (s : ResearchDatabase) (roster : ScheduleRow)
    (protocol : ProtocolRow) : Prop where
  campaign : protocol.campaignId = roster.campaignId
  matrix : ((s.samplesOf roster.campaignId).map fun row => (row.sample.sampleId, row.sample.armId)).Perm
    (roster.payload.windows.map (·.sampleId) ×ˢ researchArms.map (·.value))
  windows : ∀ row ∈ s.samplesOf roster.campaignId, ∃ window ∈ roster.payload.windows,
    row.sample.Fits roster protocol window
  arms : ∀ row ∈ s.samplesOf roster.campaignId, ∃ arm, row.sample.armId = arm.value ∧
    row.sample.armProtocolDigest = some (contracts.armDigest protocol.payload arm)
  lineage : ∀ a ∈ s.samplesOf roster.campaignId, ∀ b ∈ s.samplesOf roster.campaignId,
    a.sample.sampleId = b.sample.sampleId → a.sample.toBaselineLineage = b.sample.toBaselineLineage
  committed : ∀ row ∈ s.samplesOf roster.campaignId, roster.freezeTxid < row.xmin ∧ protocol.freezeTxid < row.xmin

section Growth

variable {contracts : ResearchContracts} {s t u : ResearchDatabase}

theorem ResearchDatabase.Extends.refl (s : ResearchDatabase) : s.Extends s :=
  ⟨List.suffix_refl _, List.suffix_refl _, List.suffix_refl _, List.suffix_refl _⟩

theorem ResearchDatabase.Extends.trans (hut : u.Extends t) (hts : t.Extends s) : u.Extends s :=
  ⟨hts.schedules.trans hut.schedules, hts.protocols.trans hut.protocols, hts.samples.trans hut.samples,
    hts.seals.trans hut.seals⟩

theorem ResearchDatabase.SameResults.extends (h : s.SameResults t) : t.Extends s := by
  obtain ⟨hschedules, -, hprotocols, hsamples, hseals⟩ := h
  exact ⟨hschedules ▸ List.suffix_refl _, hprotocols ▸ List.suffix_refl _, hsamples ▸ List.suffix_refl _,
    hseals ▸ List.suffix_refl _⟩

theorem ResearchCall.extends_rows (call : ResearchCall) (now : Timestamp) (s : ResearchDatabase) :
    (call.rows contracts now s).Extends s := by
  let kept (t : ResearchDatabase) : Prop := t.Extends s
  have hrefl : kept s := .refl s
  cases call with
  | registerSchedule schedule =>
    refine Transactions.run_spec (p := kept) hrefl fun t _ ht => ?_
    rcases registerSchedule_ok ht with rfl | ⟨-, -, -, row, -, -, -, -, -, -, -, rfl⟩
    · exact hrefl
    · exact { hrefl with schedules := List.suffix_cons _ _ }
  | registerProtocol protocol =>
    refine Transactions.run_spec (p := kept) hrefl fun t _ ht => ?_
    rcases registerProtocol_ok ht with rfl | ⟨-, -, -, row, -, -, -, -, -, -, rfl⟩
    · exact hrefl
    · exact { hrefl with protocols := List.suffix_cons _ _ }
  | recordSample sample =>
    refine Transactions.run_spec (p := kept) hrefl fun t _ ht => ?_
    rcases recordSample_ok ht with rfl | ⟨-, -, rfl⟩
    · exact hrefl
    · exact { hrefl with samples := List.suffix_cons _ _ }
  | sealCoverage campaignId =>
    refine Transactions.run_spec (p := kept) hrefl fun t _ ht => ?_
    obtain ⟨-, roster, protocol, -, -, -, -, -, -, rfl⟩ := sealCoverage_ok ht
    exact { hrefl with seals := List.suffix_cons _ _ }
  | enrollCampaign campaignId =>
    exact Transactions.run_spec (p := kept) hrefl fun _ _ ht => (sameResults_enrollCampaign ht).extends
  | recordSource receipt =>
    exact Transactions.run_spec (p := kept) hrefl fun _ _ ht => (sameResults_recordSource ht).extends
  | recordEvaluation receipt =>
    exact Transactions.run_spec (p := kept) hrefl fun _ _ ht => (sameResults_recordEvaluation ht).extends
  | startAttempt attempt =>
    exact Transactions.run_spec (p := kept) hrefl fun _ _ ht => (sameResults_startAttempt ht).extends
  | finishAttempt terminal =>
    exact Transactions.run_spec (p := kept) hrefl fun _ _ ht => (sameResults_finishAttempt ht).extends
  | verifyCampaign campaignId => exact hrefl
  | qualifyCoverage campaignId coverage =>
    exact Transactions.run_spec (p := kept) hrefl fun _ _ ht => (qualifyCoverage_ok ht).1.extends

theorem ResearchStep.extends (hstep : ResearchStep contracts s t) : t.Extends s := by
  obtain ⟨call, now, rfl⟩ := hstep
  exact { call.extends_rows now s with }

theorem ResearchDatabase.extends_of_run (hrun : ReflTransGen (ResearchStep contracts) s t) : t.Extends s := by
  induction hrun with
  | refl => exact .refl s
  | tail _ hstep ih => exact hstep.extends.trans ih

end Growth

section Matrix

variable {contracts : ResearchContracts} {n m : ℕ} {s t : ResearchDatabase}

/-- The digest of an arm is that of the protocol, which has the three arms. -/
theorem ProtocolRow.Frozen.armDigest? {protocol : ProtocolRow} (h : protocol.Frozen contracts n s) (arm : ResearchArm) :
    protocol.armDigest? arm.value = some (contracts.armDigest protocol.payload arm) := by
  have harms : protocol.armDigests = researchArms.map fun arm => (arm.value, contracts.armDigest protocol.payload arm) := by
    rw [h.arms, KairosPersistence.armDigests, ← h.threeArms.1, List.map_map]
    rfl
  unfold ProtocolRow.armDigest?
  rw [harms]
  cases arm <;> rfl

/-- As many samples as a roster has fill it. -/
theorem ResearchDatabase.Consistent.matrix (h : s.Consistent contracts n) {roster : ScheduleRow}
    (hroster : roster ∈ s.schedules) (hcount : (s.samplesOf roster.campaignId).length = roster.windowCount * 3) :
    ((s.samplesOf roster.campaignId).map fun row => (row.sample.sampleId, row.sample.armId)).Perm
      (roster.payload.windows.map (·.sampleId) ×ˢ researchArms.map (·.value)) := by
  have hnodup : ((s.samplesOf roster.campaignId).map fun row => (row.sample.sampleId, row.sample.armId)).Nodup := by
    have hkeys : ((s.samplesOf roster.campaignId).map SampleRow.key).Nodup :=
      h.sampleKeys.sublist (List.filter_sublist.map _)
    refine List.Nodup.map_on ?_ hkeys.of_map
    intro a ha b hb heq
    obtain ⟨-, hcampaign⟩ := List.mem_filter.mp ha
    obtain ⟨-, hcampaign'⟩ := List.mem_filter.mp hb
    refine List.inj_on_of_nodup_map hkeys ha hb ?_
    obtain ⟨hid, harm⟩ := Prod.mk.inj heq
    rw [SampleRow.key, SampleRow.key, hid, harm, of_decide_eq_true hcampaign, of_decide_eq_true hcampaign']
  apply List.Subperm.perm_of_length_le
  · apply List.subperm_of_subset hnodup
    intro key hkey
    obtain ⟨row, hrow, rfl⟩ := List.mem_map.mp hkey
    obtain ⟨hrow, hcampaign⟩ := List.mem_filter.mp hrow
    obtain ⟨-, protocol, -, -, -, window, hwindow, hfits⟩ :=
      (h.samples row hrow).2 roster hroster (of_decide_eq_true hcampaign).symm
    exact List.mem_product.mpr ⟨List.mem_map.mpr ⟨window, hwindow, hfits.sampleId.symm⟩, hfits.arm⟩
  · rw [List.length_product, List.length_map, List.length_map, List.length_map, hcount,
      (h.schedules roster hroster).count]
    exact le_refl _

/-- A seal covers exactly its roster. -/
theorem ResearchDatabase.Consistent.matchedCoverage (h : s.Consistent contracts n) {sealed : SealRow} (hsealed : sealed ∈ s.seals) :
    ∃ roster ∈ s.schedules, ∃ protocol ∈ s.protocols, roster.campaignId = sealed.coverage.campaignId ∧
      sealed.coverage.scheduleDigest = roster.scheduleDigest ∧
      sealed.coverage.candidateProtocolDigest = protocol.protocolDigest ∧ s.MatchedCoverage contracts roster protocol := by
  obtain ⟨roster, hroster, hid, hdigest, hcount, protocol, hprotocol, hprotocolId, hprotocolDigest⟩ := h.seals sealed hsealed
  refine ⟨roster, hroster, protocol, hprotocol, hid, hdigest, hprotocolDigest, ?_⟩
  have hfrozen := h.protocols protocol hprotocol
  have hsamples : ∀ row ∈ s.samplesOf roster.campaignId, protocol.freezeTxid < row.xmin ∧
      ∃ window ∈ roster.payload.windows, row.sample.Fits roster protocol window := by
    intro row hrow
    obtain ⟨hrow, hcampaign⟩ := List.mem_filter.mp hrow
    have hcampaign := of_decide_eq_true hcampaign
    obtain ⟨-, protocol', hprotocol', hid', hxmin, hfits⟩ := (h.samples row hrow).2 roster hroster hcampaign.symm
    -- a campaign has one protocol
    obtain rfl : protocol' = protocol := List.inj_on_of_nodup_map h.protocolIds hprotocol' hprotocol
      (hid'.trans (hcampaign.trans (hid.trans hprotocolId.symm)))
    exact ⟨hxmin, hfits⟩
  obtain ⟨roster', hroster', hid', -, hearlier⟩ := hfrozen.roster
  obtain rfl : roster' = roster := List.inj_on_of_nodup_map h.scheduleIds hroster' hroster
    (hid'.trans (hprotocolId.trans hid.symm))
  constructor
  · exact hprotocolId.trans hid.symm
  · exact h.matrix hroster (hid ▸ hcount)
  · exact fun row hrow => (hsamples row hrow).2
  · intro row hrow
    obtain ⟨-, window, -, hfits⟩ := hsamples row hrow
    obtain ⟨arm, -, harm⟩ := List.mem_map.mp hfits.arm
    refine ⟨arm, harm.symm, ?_⟩
    rw [hfits.armDigest, ← harm, hfrozen.armDigest?]
  · intro a ha b hb heq
    obtain ⟨ha, hcampaign⟩ := List.mem_filter.mp ha
    obtain ⟨hb, hcampaign'⟩ := List.mem_filter.mp hb
    have hcampaign := of_decide_eq_true hcampaign
    exact h.lineage a ha b hb ⟨_, hroster, hcampaign.symm⟩ ⟨(of_decide_eq_true hcampaign').trans hcampaign.symm, heq.symm⟩
  · exact fun row hrow => ⟨hearlier.trans (hsamples row hrow).1, (hsamples row hrow).1⟩

/-- The samples of a sealed campaign stay what they are. -/
theorem samplesOf_sealed (h : s.Consistent contracts n) (h' : t.Consistent contracts m) (hextends : t.Extends s)
    {sealed : SealRow} (hsealed : sealed ∈ s.seals) :
    t.samplesOf sealed.coverage.campaignId = s.samplesOf sealed.coverage.campaignId := by
  obtain ⟨roster, hroster, hid, -, hcount, -⟩ := h.seals sealed hsealed
  obtain ⟨roster', hroster', hid', -, hcount', -⟩ := h'.seals sealed (hextends.seals.subset hsealed)
  obtain rfl : roster' = roster := List.inj_on_of_nodup_map h'.scheduleIds hroster' (hextends.schedules.subset hroster)
    (hid'.trans hid.symm)
  have hsuffix : s.samplesOf sealed.coverage.campaignId <:+ t.samplesOf sealed.coverage.campaignId :=
    hextends.samples.filter _
  exact (hsuffix.eq_of_length (hcount.trans hcount'.symm)).symm

end Matrix

section Rosters

variable {contracts : ResearchContracts} {n m : ℕ} {s t : ResearchDatabase} {campaignId : String}

theorem ResearchDatabase.roster_sorted (s : ResearchDatabase) (campaignId : String) :
    (s.roster campaignId).Pairwise fun a b => a.rank ≤ b.rank := by
  have : Std.Total fun a b : ObservationWindow => ¬b.Before a :=
    ⟨fun a b => by simp only [ObservationWindow.not_before_iff]; exact le_total _ _⟩
  have : IsTrans ObservationWindow fun a b => ¬b.Before a :=
    ⟨fun a b c => by simp only [ObservationWindow.not_before_iff]; exact le_trans⟩
  exact (List.pairwise_insertionSort _ _).imp ObservationWindow.not_before_iff.mp

theorem ResearchDatabase.mem_roster {window : ObservationWindow} : window ∈ s.roster campaignId ↔
    ∃ row ∈ s.windows, row.campaignId = campaignId ∧ row.toObservationWindow = window := by
  rw [ResearchDatabase.roster, (List.perm_insertionSort _ _).mem_iff, List.mem_map]
  simp only [List.mem_filter, decide_eq_true_eq, and_assoc]

/-- The roster of a frozen campaign is what was frozen. -/
theorem ResearchDatabase.Consistent.roster_perm (h : s.Consistent contracts n) {roster : ScheduleRow}
    (hroster : roster ∈ s.schedules) : (s.roster roster.campaignId).Perm roster.payload.windows := by
  apply (List.perm_insertionSort _ _).trans
  rw [(h.schedules roster hroster).windows, windowRows, List.map_reverse, List.map_map]
  apply (List.reverse_perm _).trans
  rw [show (fun row : WindowRow => row.toObservationWindow) ∘
    (fun window : ObservationWindow => ({ window with campaignId := roster.campaignId } : WindowRow)) = id from rfl,
    List.map_id]

theorem ResearchDatabase.Consistent.roster_sampleIds (h : s.Consistent contracts n) (campaignId : String) :
    ((s.roster campaignId).map (·.sampleId)).Nodup := by
  by_cases hroster : ∃ roster ∈ s.schedules, roster.campaignId = campaignId
  · obtain ⟨roster, hroster, rfl⟩ := hroster
    exact ((h.roster_perm hroster).map _).nodup_iff.mpr (h.schedules roster hroster).sampleIds
  · have hnil : s.roster campaignId = [] := by
      apply List.eq_nil_iff_forall_not_mem.mpr
      intro window hwindow
      obtain ⟨row, hrow, hid, -⟩ := ResearchDatabase.mem_roster.mp hwindow
      obtain ⟨roster, hmem, heq⟩ := h.windows row hrow
      exact hroster ⟨roster, hmem, heq.trans hid⟩
    rw [hnil]
    exact List.nodup_nil

theorem ResearchDatabase.Consistent.roster_before (h : s.Consistent contracts n) (campaignId : String) :
    (s.roster campaignId).Pairwise ObservationWindow.Before := by
  have hids := List.pairwise_map.mp (h.roster_sampleIds campaignId)
  apply (s.roster_sorted campaignId).imp₂ _ hids
  intro a b hle hne
  exact ObservationWindow.before_iff.mpr (lt_of_le_of_ne hle fun heq => hne (ObservationWindow.sampleId_eq_of_rank heq))

/-- A frozen roster stays. -/
theorem ResearchDatabase.Consistent.roster_eq (h : s.Consistent contracts n) (h' : t.Consistent contracts m)
    (hextends : t.Extends s) {roster : ScheduleRow} (hroster : roster ∈ s.schedules) :
    t.roster roster.campaignId = s.roster roster.campaignId := by
  rw [ResearchDatabase.roster, ResearchDatabase.roster, (h.schedules roster hroster).windows,
    (h'.schedules roster (hextends.schedules.subset hroster)).windows]

end Rosters

/-- Whatever is written, and whatever the evaluation of a coverage accepts, a sealed campaign has exactly the samples of
its roster, and keeps them. -/
theorem sealed_coverage {contracts : ResearchContracts} {s t : ResearchDatabase} {sealed : SealRow}
    (hs : Runs.Reachable (· = .empty) (ResearchStep contracts) s) (hsealed : sealed ∈ s.seals)
    (hrun : ReflTransGen (ResearchStep contracts) s t) :
    ∃ roster ∈ s.schedules, ∃ protocol ∈ s.protocols, roster.campaignId = sealed.coverage.campaignId ∧
      sealed.coverage.scheduleDigest = roster.scheduleDigest ∧
      sealed.coverage.candidateProtocolDigest = protocol.protocolDigest ∧ s.MatchedCoverage contracts roster protocol ∧
      sealed ∈ t.seals ∧ roster ∈ t.schedules ∧ protocol ∈ t.protocols ∧
      t.samplesOf roster.campaignId = s.samplesOf roster.campaignId ∧ t.MatchedCoverage contracts roster protocol := by
  have hconsistent := consistent_of_reachable hs
  have hconsistent' := consistent_of_reachable (hs.run hrun)
  have hextends := ResearchDatabase.extends_of_run hrun
  obtain ⟨roster, hroster, protocol, hprotocol, hid, hdigest, hprotocolDigest, hmatched⟩ :=
    hconsistent.matchedCoverage hsealed
  obtain ⟨roster', hroster', protocol', hprotocol', hid', -, -, hmatched'⟩ :=
    hconsistent'.matchedCoverage (hextends.seals.subset hsealed)
  obtain rfl : roster' = roster := List.inj_on_of_nodup_map hconsistent'.scheduleIds hroster'
    (hextends.schedules.subset hroster) (hid'.trans hid.symm)
  obtain rfl : protocol' = protocol := List.inj_on_of_nodup_map hconsistent'.protocolIds hprotocol'
    (hextends.protocols.subset hprotocol) (hmatched'.campaign.trans hmatched.campaign.symm)
  have hsamples := samplesOf_sealed hconsistent hconsistent' hextends hsealed
  rw [← hid] at hsamples
  exact ⟨_, hroster, _, hprotocol, hid, hdigest, hprotocolDigest, hmatched, hextends.seals.subset hsealed, hroster',
    hprotocol', hsamples, hmatched'⟩

section Example

def exampleWindow : ObservationWindow where
  sampleId := "window-1"
  symbol := "BTCUSDT"
  timeframe := "1m"
  marketAsOfTsMs := 1000
  marketSnapshotSha256 := none
  pairedAtTsMs := 2000
  sampleDeadlineTsMs := 3000

def exampleSchedule : ObservationSchedule where
  campaignId := "campaign-1"
  scheduleDigest := exampleSha '1'
  strategyId := "strategy-1"
  strategyRevision := "1"
  evaluatorSha256 := exampleSha '2'
  windows := [exampleWindow]

def exampleModelArm (armId : ResearchArm) : ProtocolArm where
  armId := armId
  provider := some .openai
  model := some "model-1"
  promptSha256 := some (exampleSha '3')
  schemaSha256 := some (exampleSha '4')
  candidate := "candidate-1"

def exampleProtocol : CandidateProtocol where
  campaignId := "campaign-1"
  scheduleDigest := exampleSha '1'
  protocolDigest := exampleSha '5'
  arms := [⟨.strategyOnly, none, none, none, none, "candidate-1"⟩, exampleModelArm .strategyReview,
    exampleModelArm .llmProposalResearch]

/-- A hash of an arm: its own letter. -/
def exampleArmSha : ResearchArm → String
  | .strategyOnly => exampleSha 'a'
  | .strategyReview => exampleSha 'b'
  | .llmProposalResearch => exampleSha 'c'

/-- A sample without a call: what it says of the strategy is what the evaluation says. -/
def exampleBuilt (facts : SampleFacts) : DecisionSample where
  toScheduledSample := facts.planned
  sampleRecordId := exampleSha '0'
  armProtocolDigest := none
  strategyOutcome := facts.evaluation.elim .notEvaluated fun evaluation => evaluation.intent.elim .noIntent (·.side.outcome)
  strategyEvaluationSha256 := facts.evaluation.map fun _ => exampleSha '9'
  strategyEvidenceAsOfTsMs := facts.evaluation.map (·.evidenceAsOfTsMs)
  strategyMarketSnapshotSha256 := facts.evaluation.map (·.marketSnapshotSha256)
  strategyIntentId := facts.evaluation.bind fun evaluation => evaluation.intent.map (·.intentId)
  strategyIntentExpiresAtTsMs := facts.evaluation.bind fun evaluation => evaluation.intent.map (·.entryExpiresTsMs)
  llmOutcome := .notCalled
  llmEvidenceAsOfTsMs := none
  llmMarketSnapshotSha256 := none
  llmProposalId := none
  llmProposalExpiresAtTsMs := none
  llmCompletionReceiptId := none
  llmCompletionStartedAtTsMs := none
  llmCompletionObservedAtTsMs := none
  llmFailureReceiptId := none
  llmFailureClass := none
  llmFailureStartedAtTsMs := none
  llmFailureObservedAtTsMs := none

/-- Hashes of the contracts of the example, and a coverage that wants every window and arm. -/
def exampleResearchContracts : ResearchContracts where
  scheduleSha256 _ := exampleSha '1'
  protocolSha256 _ := exampleSha '5'
  armDigest _ arm := exampleArmSha arm
  sampleSha256 sample := ((researchArm? sample.armId).map exampleArmSha).getD (exampleSha '0')
  contentSha256 _ := exampleSha '6'
  intentSha256 _ := exampleSha '7'
  sourceSha256 _ := exampleSha '8'
  evaluationSha256 _ := exampleSha '9'
  startSha256 _ := exampleSha 'd'
  terminalSha256 _ := exampleSha 'e'
  coverageSha256 _ := exampleSha 'f'
  qualifiedSha256 _ := exampleSha '0'
  receiptIdsSha256 _ := exampleSha '0'
  evaluateCoverage schedule samples :=
    if (samples.map fun sample => (sample.sampleId, sample.armId)).isPerm
        (schedule.windows.map (·.sampleId) ×ˢ researchArms.map (·.value)) then
      .ok ⟨schedule.campaignId, schedule.scheduleDigest, schedule.windows.length * 3, exampleSha '0'⟩
    else .error (.valueError "coverage")
  buildSample facts := .ok (exampleBuilt facts)

/-- Nothing was evaluated and no model was called. -/
def exampleSample (arm : ResearchArm) : DecisionSample :=
  { exampleBuilt
      { planned :=
          { campaignId := "campaign-1"
            armId := arm.value
            sampleId := "window-1"
            symbol := "BTCUSDT"
            timeframe := "1m"
            marketAsOfTsMs := 1000
            marketSnapshotSha256 := exampleSha '6'
            strategyId := "strategy-1"
            strategyRevision := "1"
            pairedAtTsMs := 2000
            sampleDeadlineTsMs := 3000 }
        evaluation := none
        proposal := none
        completion := none
        failure := none
        llmWasCalled := false } with
    sampleRecordId := exampleArmSha arm
    armProtocolDigest := some (exampleArmSha arm) }

def exampleSealCalls : List ResearchCall :=
  [.registerSchedule exampleSchedule, .registerProtocol exampleProtocol, .recordSample (exampleSample .strategyOnly),
    .recordSample (exampleSample .strategyReview), .recordSample (exampleSample .llmProposalResearch),
    .sealCoverage "campaign-1"]

/-- The clock at a call is the number of the transaction. -/
def runResearchCalls (contracts : ResearchContracts) (calls : List ResearchCall) (s : ResearchDatabase) : ResearchDatabase :=
  calls.foldl (fun s call => call.run contracts s.txid s) s

theorem run_calls (contracts : ResearchContracts) (calls : List ResearchCall) (s : ResearchDatabase) :
    ReflTransGen (ResearchStep contracts) s (runResearchCalls contracts calls s) := by
  induction calls generalizing s with
  | nil => exact .refl
  | cons call calls ih => exact .head ⟨call, _, rfl⟩ (ih _)

def exampleSeal : SealRow where
  coverage := ⟨"campaign-1", exampleSha '1', exampleSha '5', 3, exampleSha '0'⟩
  coverageDigest := exampleSha 'f'

def exampleSealed : ResearchDatabase := runResearchCalls exampleResearchContracts exampleSealCalls .empty

/-- A sample after the seal is rejected. -/
def exampleSealedLater : ResearchDatabase :=
  runResearchCalls exampleResearchContracts [.recordSample (exampleSample .strategyOnly)] exampleSealed

theorem exampleSeal_mem : exampleSeal ∈ exampleSealed.seals := by decide +kernel

theorem sealed_coverage_example :
    ∃ roster ∈ exampleSealed.schedules, ∃ protocol ∈ exampleSealed.protocols,
      roster.campaignId = exampleSeal.coverage.campaignId ∧ exampleSeal.coverage.scheduleDigest = roster.scheduleDigest ∧
      exampleSeal.coverage.candidateProtocolDigest = protocol.protocolDigest ∧
      exampleSealed.MatchedCoverage exampleResearchContracts roster protocol ∧ exampleSeal ∈ exampleSealedLater.seals ∧
      roster ∈ exampleSealedLater.schedules ∧ protocol ∈ exampleSealedLater.protocols ∧
      exampleSealedLater.samplesOf roster.campaignId = exampleSealed.samplesOf roster.campaignId ∧
      exampleSealedLater.MatchedCoverage exampleResearchContracts roster protocol :=
  sealed_coverage ⟨_, rfl, run_calls exampleResearchContracts exampleSealCalls .empty⟩ exampleSeal_mem
    (run_calls exampleResearchContracts _ exampleSealed)

end Example

end KairosPersistence
