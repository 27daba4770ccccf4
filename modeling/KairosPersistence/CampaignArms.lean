import KairosPersistence.CampaignJournal

/-!
The outcomes of the arms of a campaign against its STARTs, and against the
bundle and the evaluation of their sample.
-/

namespace KairosPersistence

variable {contracts : CampaignContracts} {s : CampaignSystem} {rows : List ReceiptRow} {row : ReceiptRow}
  {campaignId : String} {outcome : ArmOutcome}

theorem mem_outcomesOf :
    outcome ∈ outcomesOf rows campaignId ↔ ∃ row ∈ rows, row.campaignId = campaignId ∧ row.receipt = .outcome outcome := by
  simp only [outcomesOf, List.mem_filterMap, List.mem_filter, decide_eq_true_eq]
  constructor
  · rintro ⟨row, ⟨hrow, hcampaign⟩, hreceipt⟩
    split at hreceipt
    · rename_i heq
      exact ⟨row, hrow, hcampaign, by rw [heq, Option.some.inj hreceipt]⟩
    · cases hreceipt
  · rintro ⟨row, hrow, hcampaign, hreceipt⟩
    exact ⟨row, ⟨hrow, hcampaign⟩, by rw [hreceipt]⟩

/-- A new row adds at most its own outcome. -/
theorem mem_outcomesOf_cons : outcome ∈ outcomesOf (row :: rows) campaignId ↔
    row.campaignId = campaignId ∧ row.receipt = .outcome outcome ∨ outcome ∈ outcomesOf rows campaignId := by
  rw [mem_outcomesOf, mem_outcomesOf, List.exists_mem_cons_iff]

/-- The row of an outcome is of its campaign, sample and arm. -/
theorem outcome_slot (hrow : row.Accepted contracts rows) (hreceipt : row.receipt = .outcome outcome) :
    row.slot = ⟨outcome.campaignId, outcome.sampleId, some outcome.armId, .outcome, "one"⟩ :=
  hrow.ownSlot _ (by rw [hreceipt]; rfl)

section Starts

/-- No outcome without a call is of an arm with a START. -/
def StartsAnswered (rows : List ReceiptRow) : Prop :=
  ∀ campaignId, ∀ outcome ∈ outcomesOf rows campaignId, outcome.status.NoCall →
    ∀ row ∈ rows, ¬row.IsStartOf campaignId outcome.sampleId outcome.armId

/-- The call admits no attempt of an arm whose outcome says that no call was made. -/
def AvoidsOutcomes (s : CampaignSystem) : CampaignCall → Prop
  | .startAttempt attempt _ => ∀ outcome ∈ outcomesOf s.db.receipts attempt.campaignId,
      (outcome.sampleId, outcome.armId) = (attempt.sampleId, attempt.armId) → ¬outcome.status.NoCall
  | _ => True

instance (s : CampaignSystem) : (call : CampaignCall) → Decidable (AvoidsOutcomes s call)
  | .startAttempt _ _ => inferInstanceAs (Decidable (∀ _ ∈ _, _))
  | .research _ _ | .register _ | .captureSource _ | .claimNext _ | .freezeBundle _ | .recordEvaluation _ _ _
  | .recordCausalEvaluation _ _ _ | .recordCausalPair _ _ _ _ _ | .findAttempt _ _ | .finishAttempt _ _
  | .recordReview _ _ | .recordCost _ | .recordVerifiedSample _ | .recordOutcome _ | .sealDenominator _ => .isTrue trivial

theorem StartsAnswered.cons {call : CampaignCall} (h : StartsAnswered s.db.receipts) (hmeets : AvoidsOutcomes s call)
    (hwrites : call.Writes row) (hrow : row.Accepted contracts s.db.receipts) :
    StartsAnswered (row :: s.db.receipts) := by
  intro campaignId outcome houtcome hnoCall other hother
  rcases mem_outcomesOf_cons.mp houtcome with ⟨hcampaign, hreceipt⟩ | hold
  · rcases List.mem_cons.mp hother with rfl | hother
    · rintro ⟨hkind, -⟩
      rw [hreceipt] at hkind
      cases hkind
    · have hslot := outcome_slot hrow hreceipt
      simp only [ReceiptRow.slot, Slot.mk.injEq] at hslot
      rw [← hcampaign, hslot.1]
      exact (hrow.outcome _ hreceipt).noCall hnoCall other hother
  · rcases List.mem_cons.mp hother with rfl | hother
    · -- only `start_attempt` writes a START, and it has avoided the arm
      rintro ⟨hkind, hkey⟩
      obtain ⟨attempt, delivered, rfl, hreceipt⟩ := hwrites.start hkind
      have hslot := hrow.ownSlot _ (by rw [hreceipt]; rfl)
      simp only [ReceiptRow.slot, Slot.mk.injEq] at hslot
      simp only [Prod.mk.injEq] at hkey
      obtain rfl : campaignId = attempt.campaignId := hkey.1.symm.trans hslot.1
      refine hmeets outcome hold ?_ hnoCall
      rw [← hkey.2.1, hslot.2.1, Option.some.inj (hkey.2.2.symm.trans hslot.2.2.1)]
    · exact h campaignId outcome hold hnoCall other hother

theorem starts_answered (h : MeetsReachable contracts AvoidsOutcomes s) : StartsAnswered s.db.receipts := by
  apply (journal_invariant (p := StartsAnswered) ?_ ?_ h).2
  · exact fun _ _ h => absurd h List.not_mem_nil
  · intro s call row hmeets hwrites hlog hanswered
    exact hanswered.cons hmeets hwrites (AcceptedLogs.accepted_cons.mp hlog).1

/-- An attempt of one arm, and an outcome without a call of another. -/
def exampleAnsweredCalls : List (CampaignCall × Dispatch) :=
  exampleFrozenCalls ++ [(.startAttempt (exampleAttempt .strategyReview "attempt-1") true, atMs 1200),
    (.recordOutcome (exampleOutcome .llmProposalResearch .evaluatorFailed), atMs 1300)]

theorem starts_answered_example :
    StartsAnswered (runCampaignCalls exampleCampaignContracts exampleAnsweredCalls .empty).db.receipts :=
  starts_answered (RunMeets.reachable exampleCampaignContracts AvoidsOutcomes (by decide +kernel))

/-- An arm is admitted after its outcome has said that no call was made. -/
def exampleSuppressedCalls : List (CampaignCall × Dispatch) :=
  exampleFrozenCalls ++ [(.recordOutcome (exampleOutcome .strategyReview .evaluatorFailed), atMs 1100),
    (.startAttempt (exampleAttempt .strategyReview "attempt-1") true, atMs 1200)]

theorem start_after_outcome : ∃ s, CampaignReachable exampleCampaignContracts s ∧ ¬StartsAnswered s.db.receipts := by
  refine ⟨_, runCampaignCalls_reachable exampleCampaignContracts exampleSuppressedCalls, fun h => ?_⟩
  have hrows : exampleOutcome .strategyReview .evaluatorFailed ∈
      outcomesOf (runCampaignCalls exampleCampaignContracts exampleSuppressedCalls .empty).db.receipts "campaign-1" ∧
      ∃ row ∈ (runCampaignCalls exampleCampaignContracts exampleSuppressedCalls .empty).db.receipts,
        row.IsStartOf "campaign-1" "window-1" .strategyReview := by
    decide +kernel
  obtain ⟨houtcome, row, hrow, hstart⟩ := hrows
  exact h "campaign-1" _ houtcome (by decide) row hrow hstart

end Starts

section Inputs

/-- The digest of a row that all arms of a sample share. -/
def sharedDigest (rows : List ReceiptRow) (campaignId sampleId : String) (kind : ReceiptKind) : Option String :=
  (rowAt rows ⟨campaignId, sampleId, none, kind, "one"⟩).map (·.receiptSha256)

/-- The call stores no bundle and no evaluation of a sample that has an outcome. -/
def AvoidsLateInput (s : CampaignSystem) : CampaignCall → Prop
  | .freezeBundle claim => sharedDigest s.db.receipts claim.campaignId claim.sampleId .bundle = none →
      ∀ outcome ∈ outcomesOf s.db.receipts claim.campaignId, outcome.sampleId ≠ claim.sampleId
  | .recordEvaluation claim _ _ | .recordCausalEvaluation claim _ _ =>
    sharedDigest s.db.receipts claim.campaignId claim.sampleId .evaluation = none →
      ∀ outcome ∈ outcomesOf s.db.receipts claim.campaignId, outcome.sampleId ≠ claim.sampleId
  | _ => True

instance (s : CampaignSystem) : (call : CampaignCall) → Decidable (AvoidsLateInput s call)
  | .freezeBundle _ | .recordEvaluation _ _ _ | .recordCausalEvaluation _ _ _ =>
    inferInstanceAs (Decidable (_ → ∀ _ ∈ _, _))
  | .research _ _ | .register _ | .captureSource _ | .claimNext _ | .recordCausalPair _ _ _ _ _ | .findAttempt _ _
  | .startAttempt _ _ | .finishAttempt _ _ | .recordReview _ _ | .recordCost _ | .recordVerifiedSample _
  | .recordOutcome _ | .sealDenominator _ => .isTrue trivial

/-- Every outcome carries the digests that the journal has now. -/
def InputsKept (rows : List ReceiptRow) : Prop :=
  ∀ campaignId, ∀ outcome ∈ outcomesOf rows campaignId,
    outcome.bundleReceiptSha256 = sharedDigest rows campaignId outcome.sampleId .bundle ∧
      outcome.evaluationReceiptSha256 = sharedDigest rows campaignId outcome.sampleId .evaluation

theorem sharedDigest_cons {sampleId : String} {kind : ReceiptKind}
    (h : row.slot ≠ ⟨campaignId, sampleId, none, kind, "one"⟩) :
    sharedDigest (row :: rows) campaignId sampleId kind = sharedDigest rows campaignId sampleId kind := by
  rw [sharedDigest, rowAt, List.find?_cons_of_neg (by simpa using h)]
  rfl

/-- A row of an older outcome's sample is not its bundle or its evaluation. -/
theorem AvoidsLateInput.slot_ne {call : CampaignCall} {kind : ReceiptKind} (hmeets : AvoidsLateInput s call)
    (hwrites : call.Writes row) (hrow : row.Accepted contracts s.db.receipts) (hkind : kind = .bundle ∨ kind = .evaluation)
    (houtcome : outcome ∈ outcomesOf s.db.receipts campaignId) :
    row.slot ≠ ⟨campaignId, outcome.sampleId, none, kind, "one"⟩ := by
  intro hslot
  have hnone : sharedDigest s.db.receipts campaignId outcome.sampleId kind = none := by
    rw [sharedDigest, Option.map_eq_none_iff, rowAt, ← hslot]
    exact KeyedRows.find?_eq_none_iff.mpr hrow.fresh
  simp only [ReceiptRow.slot, Slot.mk.injEq] at hslot
  obtain ⟨hcampaign, hsample, -, hslotKind, -⟩ := hslot
  rcases hkind with rfl | rfl
  · obtain ⟨claim, rfl, hkey⟩ := hwrites.bundle hslotKind
    obtain ⟨hclaim, hclaimSample⟩ := Prod.mk.inj hkey
    rw [← hcampaign, hclaim] at hnone houtcome
    rw [← hsample, hclaimSample] at hnone
    exact hmeets hnone outcome houtcome (hsample.symm.trans hclaimSample)
  · obtain ⟨claim, bundle, hcall, hkey⟩ := hwrites.evaluation hslotKind
    obtain ⟨hclaim, hclaimSample⟩ := Prod.mk.inj hkey
    rw [← hcampaign, hclaim] at hnone houtcome
    rw [← hsample, hclaimSample] at hnone
    rcases hcall with ⟨intent, rfl⟩ | ⟨result, rfl⟩
    · exact hmeets hnone outcome houtcome (hsample.symm.trans hclaimSample)
    · exact hmeets hnone outcome houtcome (hsample.symm.trans hclaimSample)

theorem InputsKept.cons {call : CampaignCall} (h : InputsKept s.db.receipts) (hmeets : AvoidsLateInput s call)
    (hwrites : call.Writes row) (hrow : row.Accepted contracts s.db.receipts) : InputsKept (row :: s.db.receipts) := by
  intro campaignId outcome houtcome
  rcases mem_outcomesOf_cons.mp houtcome with ⟨hcampaign, hreceipt⟩ | hold
  · -- the outcome was recorded with the digests of the older rows
    have hslot := outcome_slot hrow hreceipt
    have hrecorded := hrow.outcome _ hreceipt
    have hid : campaignId = outcome.campaignId := by
      simp only [ReceiptRow.slot, Slot.mk.injEq] at hslot
      exact hcampaign.symm.trans hslot.1
    subst hid
    rw [sharedDigest_cons (by simp [hslot]), sharedDigest_cons (by simp [hslot])]
    exact ⟨hrecorded.bundle, hrecorded.evaluation⟩
  · rw [sharedDigest_cons (hmeets.slot_ne hwrites hrow (Or.inl rfl) hold),
      sharedDigest_cons (hmeets.slot_ne hwrites hrow (Or.inr rfl) hold)]
    exact h campaignId outcome hold

end Inputs

end KairosPersistence
