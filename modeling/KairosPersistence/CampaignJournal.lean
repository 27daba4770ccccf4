import KairosPersistence.AcceptedLogs
import KairosPersistence.CampaignRuns

/-!
What a transaction of a campaign can write: at most one row of the journal,
which the older ones accept.
-/

namespace KairosPersistence

open Transactions (bind_ok require_ok found_ok run_spec)

/-- A row of a slot. -/
def rowAt (rows : List ReceiptRow) (slot : Slot) : Option ReceiptRow := rows.find? (·.slot = slot)

section Accepting

/-- The slot that a receipt names; a terminal has that of its START. -/
def CampaignReceipt.ownSlot : CampaignReceipt → Option Slot
  | .source receipt =>
    some ⟨receipt.campaignId, receipt.sampleId, none, .source, receipt.sourceKind.value ++ ":" ++ receipt.sourceName⟩
  | .bundle receipt => some ⟨receipt.campaignId, receipt.sampleId, none, .bundle, "one"⟩
  | .evaluation receipt => some ⟨receipt.campaignId, receipt.sampleId, none, .evaluation, "one"⟩
  | .causalEvaluation receipt => some ⟨receipt.campaignId, receipt.sampleId, none, .evaluation, "one"⟩
  | .start receipt => some ⟨receipt.campaignId, receipt.sampleId, some receipt.armId, .start, receipt.attemptId⟩
  | .terminal _ => none
  | .review receipt => some ⟨receipt.campaignId, receipt.sampleId, some .strategyReview, .review, receipt.attemptId⟩
  | .cost receipt => some (receipt.slotAt receipt.stage)
  | .sample receipt =>
    (researchArm? receipt.armId).map fun arm => ⟨receipt.campaignId, receipt.sampleId, some arm, .sample, "one"⟩
  | .causalPair receipt => some ⟨receipt.campaignId, receipt.sampleId, some .llmProposalResearch, .sample, "one"⟩
  | .outcome receipt => some ⟨receipt.campaignId, receipt.sampleId, some receipt.armId, .outcome, "one"⟩

/-- The cost of the stage of the attempt of another one, in the older rows. -/
def CostReceipt.HasStage (cost : CostReceipt) (older : List ReceiptRow) (stage : CostStage) (p : ℕ → Prop) : Prop :=
  ∃ row ∈ older, ∃ other : CostReceipt, row.receipt = .cost other ∧ other.slotAt other.stage = cost.slotAt stage ∧
    p other.amountMicrousd

/-- What the older rows have of the operation that a cost is of. -/
def CostReceipt.Fenced (cost : CostReceipt) (older : List ReceiptRow) : Prop :=
  match cost.stage with
  | .reservationRequested => True
  | .reserved => cost.HasStage older .reservationRequested (cost.amountMicrousd = ·) ∧
      ∀ row ∈ older, row.slot ≠ cost.slotAt .reservationDenied
  | .reservationDenied => cost.HasStage older .reservationRequested (fun _ => cost.amountMicrousd = 0) ∧
      ∀ row ∈ older, row.slot ≠ cost.slotAt .reserved
  | .commitRequested => cost.HasStage older .reserved (cost.amountMicrousd ≤ ·)
  | .committed => cost.HasStage older .reserved (cost.amountMicrousd ≤ ·) ∧
      cost.HasStage older .commitRequested (· = cost.amountMicrousd)

/-- The outcome says that no call was made. -/
def OutcomeStatus.NoCall (status : OutcomeStatus) : Prop :=
  status ∈ [.missed, .sourceMissing, .noIntent, .budgetBlocked, .evaluatorFailed, .baseline]

instance (status : OutcomeStatus) : Decidable status.NoCall := inferInstanceAs (Decidable (_ ∈ _))

/-- A row is the START of an arm of a sample. -/
def ReceiptRow.IsStartOf (row : ReceiptRow) (campaignId sampleId : String) (arm : ResearchArm) : Prop :=
  row.receipt.kind = .start ∧ (row.campaignId, row.sampleId, row.arm) = (campaignId, sampleId, some arm)

instance (row : ReceiptRow) (campaignId sampleId : String) (arm : ResearchArm) :
    Decidable (row.IsStartOf campaignId sampleId arm) := inferInstanceAs (Decidable (_ ∧ _))

/-- The STARTs of a journal. -/
def startRows (rows : List ReceiptRow) : List ReceiptRow := rows.filter (·.receipt.kind = .start)

/-- What an outcome was recorded with. -/
structure ArmOutcome.Recorded (outcome : ArmOutcome) (older : List ReceiptRow) : Prop where
  bundle : outcome.bundleReceiptSha256 =
    (rowAt older ⟨outcome.campaignId, outcome.sampleId, none, .bundle, "one"⟩).map (·.receiptSha256)
  evaluation : outcome.evaluationReceiptSha256 =
    (rowAt older ⟨outcome.campaignId, outcome.sampleId, none, .evaluation, "one"⟩).map (·.receiptSha256)
  noCall : outcome.status.NoCall → ∀ row ∈ older, ¬row.IsStartOf outcome.campaignId outcome.sampleId outcome.armId

/-- What a row was stored with. -/
structure ReceiptRow.Accepted (contracts : CampaignContracts) (older : List ReceiptRow) (row : ReceiptRow) : Prop where
  sha : row.receiptSha256 = contracts.receiptSha256 row.receipt
  ownSlot : ∀ slot ∈ row.receipt.ownSlot, row.slot = slot
  fresh : ∀ other ∈ older, other.slot ≠ row.slot
  newSha : ∀ other ∈ older, other.receiptSha256 ≠ row.receiptSha256
  oneStart : row.receipt.kind = .start → ∀ other ∈ older, other.receipt.kind = .start →
    (other.campaignId, other.sampleId, other.arm) ≠ (row.campaignId, row.sampleId, row.arm)
  cost : ∀ cost, row.receipt = .cost cost → cost.Fenced older
  outcome : ∀ outcome, row.receipt = .outcome outcome → outcome.Recorded older

end Accepting

variable {contracts : CampaignContracts} {s t : CampaignDatabase} {scheduler : Option String} {clock recorded : ℕ}

section Stores

/-- The row is stored. -/
structure Stores (s : CampaignDatabase) (row : ReceiptRow) (t : CampaignDatabase) : Prop where
  fresh : s.row? row.slot = none
  newSha : s.receipt? row.receiptSha256 = none
  oneStart : row.receipt.kind = .start → ∀ other ∈ s.receipts, other.receipt.kind = .start →
    (other.campaignId, other.sampleId, other.arm) ≠ (row.campaignId, row.sampleId, row.arm)
  rows : t = { s with receipts := row :: s.receipts }

theorem insertReceipt_ok {row : ReceiptRow} (h : insertReceipt contracts s row = .ok t) : Stores s row t := by
  obtain ⟨_, -, h⟩ := bind_ok h
  obtain ⟨_, -, h⟩ := bind_ok h
  obtain ⟨_, hsha, h⟩ := bind_ok h
  obtain ⟨_, hfresh, h⟩ := bind_ok h
  obtain ⟨_, hstart, h⟩ := bind_ok h
  obtain ⟨_, -, h⟩ := bind_ok h
  refine ⟨require_ok hfresh, require_ok hsha, ?_, (Except.ok.inj h).symm⟩
  intro hkind other hother hother' heq
  exact require_ok hstart hkind other hother ⟨hother', heq⟩

theorem storeReceipt_ok {row : ReceiptRow} {stored : Bool} (h : storeReceipt contracts row s = .ok (t, stored)) :
    stored = false ∧ t = s ∨ stored = true ∧ Stores s row t := by
  unfold storeReceipt at h
  split at h
  · obtain ⟨_, -, h⟩ := bind_ok h
    obtain ⟨rfl, rfl⟩ := Prod.mk.inj (Except.ok.inj h)
    exact Or.inl ⟨rfl, rfl⟩
  · obtain ⟨u, hinsert, h⟩ := bind_ok h
    obtain ⟨rfl, rfl⟩ := Prod.mk.inj (Except.ok.inj h)
    exact Or.inr ⟨rfl, insertReceipt_ok hinsert⟩

/-- A receipt of an empty slot is new. -/
theorem storeReceipt_new {row : ReceiptRow} {stored : Bool} (hnone : s.row? row.slot = none)
    (h : storeReceipt contracts row s = .ok (t, stored)) : stored = true ∧ Stores s row t := by
  unfold storeReceipt at h
  rw [hnone] at h
  obtain ⟨u, hinsert, h⟩ := bind_ok h
  obtain ⟨rfl, rfl⟩ := Prod.mk.inj (Except.ok.inj h)
  exact ⟨rfl, insertReceipt_ok hinsert⟩

theorem row?_eq_none {slot : Slot} : s.row? slot = none ↔ ∀ row ∈ s.receipts, row.slot ≠ slot := KeyedRows.find?_eq_none_iff

theorem receipt?_eq_none {sha : String} : s.receipt? sha = none ↔ ∀ row ∈ s.receipts, row.receiptSha256 ≠ sha :=
  KeyedRows.find?_eq_none_iff

theorem row?_mem {slot : Slot} {row : ReceiptRow} (h : s.row? slot = some row) : row ∈ s.receipts ∧ row.slot = slot :=
  KeyedRows.find?_mem h

/-- The older rows accept a row of their own slot that is neither a cost nor an outcome. -/
theorem Stores.accepted {campaignId sampleId slotKey : String} {arm : SlotArm} {receipt : CampaignReceipt}
    (h : Stores s (receiptRow contracts campaignId sampleId arm slotKey receipt clock) t)
    (hslot : ∀ slot ∈ receipt.ownSlot, (⟨campaignId, sampleId, arm, receipt.kind, slotKey⟩ : Slot) = slot)
    (hcost : receipt.kind ≠ .cost) (houtcome : receipt.kind ≠ .outcome) :
    (receiptRow contracts campaignId sampleId arm slotKey receipt clock).Accepted contracts s.receipts where
  sha := rfl
  ownSlot := hslot
  fresh := row?_eq_none.mp h.fresh
  newSha := receipt?_eq_none.mp h.newSha
  oneStart := h.oneStart
  cost cost heq := by
    simp only [receiptRow] at heq
    exact absurd (heq ▸ rfl) hcost
  outcome outcome heq := by
    simp only [receiptRow] at heq
    exact absurd (heq ▸ rfl) houtcome

end Stores

/-- The row that a call writes in the journal. -/
def CampaignCall.Writes (row : ReceiptRow) : CampaignCall → Prop
  | .captureSource _ => row.receipt.kind = .source
  | .freezeBundle claim =>
    row.receipt.kind = .bundle ∧ (row.campaignId, row.sampleId) = (claim.campaignId, claim.sampleId)
  | .recordEvaluation claim _ _ | .recordCausalEvaluation claim _ _ =>
    row.receipt.kind = .evaluation ∧ (row.campaignId, row.sampleId) = (claim.campaignId, claim.sampleId)
  | .recordCausalPair _ _ _ _ _ | .recordVerifiedSample _ => row.receipt.kind = .sample
  | .startAttempt attempt _ => row.receipt = .start attempt
  | .finishAttempt _ _ => row.receipt.kind = .terminal
  | .recordReview _ _ => row.receipt.kind = .review
  | .recordCost cost => row.receipt = .cost cost
  | .recordOutcome outcome => row.receipt = .outcome outcome
  | .research _ _ | .register _ | .claimNext _ | .findAttempt _ _ | .sealDenominator _ => False

section Writes

variable {row : ReceiptRow} {call : CampaignCall}

theorem CampaignCall.Writes.start (h : call.Writes row) (hkind : row.receipt.kind = .start) :
    ∃ attempt delivered, call = .startAttempt attempt delivered ∧ row.receipt = .start attempt := by
  cases call with
  | startAttempt attempt delivered => exact ⟨attempt, delivered, rfl, h⟩
  | _ => simp_all [CampaignCall.Writes, CampaignReceipt.kind]

theorem CampaignCall.Writes.bundle (h : call.Writes row) (hkind : row.receipt.kind = .bundle) :
    ∃ claim, call = .freezeBundle claim ∧ (row.campaignId, row.sampleId) = (claim.campaignId, claim.sampleId) := by
  cases call with
  | freezeBundle claim => exact ⟨claim, rfl, h.2⟩
  | _ => simp_all [CampaignCall.Writes, CampaignReceipt.kind]

theorem CampaignCall.Writes.evaluation (h : call.Writes row) (hkind : row.receipt.kind = .evaluation) :
    ∃ claim bundle, ((∃ intent, call = .recordEvaluation claim bundle intent) ∨
      ∃ result, call = .recordCausalEvaluation claim bundle result) ∧
        (row.campaignId, row.sampleId) = (claim.campaignId, claim.sampleId) := by
  cases call with
  | recordEvaluation claim bundle intent => exact ⟨claim, bundle, Or.inl ⟨intent, rfl⟩, h.2⟩
  | recordCausalEvaluation claim bundle result => exact ⟨claim, bundle, Or.inr ⟨result, rfl⟩, h.2⟩
  | _ => simp_all [CampaignCall.Writes, CampaignReceipt.kind]

end Writes

/-- The transaction stores at most a row, one that the call writes and that the older ones accept. -/
def Journals (contracts : CampaignContracts) (call : CampaignCall) (s t : CampaignDatabase) : Prop :=
  t = s ∨ ∃ row, call.Writes row ∧ row.Accepted contracts s.receipts ∧ t = { s with receipts := row :: s.receipts }

theorem Stores.journals {row : ReceiptRow} {call : CampaignCall} (h : Stores s row t) (hwrites : call.Writes row)
    (hrow : row.Accepted contracts s.receipts) : Journals contracts call s t := Or.inr ⟨row, hwrites, hrow, h.rows⟩

section Windows

theorem captureSource_ok {capture : SourceCapture} {receipt : SourceReceipt}
    (h : captureSource contracts scheduler capture clock s = .ok (t, receipt)) :
    t = s ∨ ∃ source, Stores s
      (receiptRow contracts capture.campaignId capture.sampleId none capture.slotKey (.source source) clock) t ∧
      (source.campaignId, source.sampleId, source.sourceKind, source.sourceName) =
        (capture.campaignId, capture.sampleId, capture.sourceKind, capture.sourceName) := by
  obtain ⟨_, -, h⟩ := bind_ok h
  obtain ⟨_, -, h⟩ := bind_ok h
  obtain ⟨_, -, h⟩ := bind_ok h
  obtain ⟨_, -, h⟩ := bind_ok h
  obtain ⟨_, -, h⟩ := bind_ok h
  split at h
  · split at h
    · obtain ⟨_, -, h⟩ := bind_ok h
      exact Or.inl (Prod.mk.inj (Except.ok.inj h)).1.symm
    · cases h
  · obtain ⟨_, -, h⟩ := bind_ok h
    obtain ⟨⟨u, stored⟩, hstore, h⟩ := bind_ok h
    obtain ⟨rfl, -⟩ := Prod.mk.inj (Except.ok.inj h)
    rcases storeReceipt_ok hstore with ⟨-, rfl⟩ | ⟨-, hstores⟩
    · exact Or.inl rfl
    · exact Or.inr ⟨_, hstores, rfl⟩

theorem journals_captureSource {capture : SourceCapture} {receipt : SourceReceipt}
    (h : captureSource contracts scheduler capture clock s = .ok (t, receipt)) : Journals contracts (.captureSource capture) s t := by
  rcases captureSource_ok h with rfl | ⟨source, hstores, hsource⟩
  · exact Or.inl rfl
  · refine hstores.journals rfl (hstores.accepted ?_ (by simp [CampaignReceipt.kind]) (by simp [CampaignReceipt.kind]))
    rintro _ ⟨⟩
    simp only [Prod.mk.injEq] at hsource
    obtain ⟨hcampaign, hsample, hkind, hname⟩ := hsource
    simp only [CampaignReceipt.kind, SourceCapture.slotKey, hcampaign, hsample, hkind, hname]

theorem freezeBundle_ok {claim : WindowClaim} {bundle : CausalBundle}
    (h : freezeBundle contracts scheduler claim clock s = .ok (t, bundle)) :
    t = s ∨ (bundle.campaignId, bundle.sampleId) = (claim.campaignId, claim.sampleId) ∧
      Stores s (receiptRow contracts claim.campaignId claim.sampleId none "one" (.bundle bundle) clock) t := by
  obtain ⟨_, -, h⟩ := bind_ok h
  split at h
  · split at h
    · exact Or.inl (Prod.mk.inj (Except.ok.inj h)).1.symm
    · cases h
  · obtain ⟨_, -, h⟩ := bind_ok h
    obtain ⟨_, -, h⟩ := bind_ok h
    obtain ⟨_, -, h⟩ := bind_ok h
    obtain ⟨_, -, h⟩ := bind_ok h
    obtain ⟨_, -, h⟩ := bind_ok h
    obtain ⟨_, -, h⟩ := bind_ok h
    obtain ⟨⟨u, stored⟩, hstore, h⟩ := bind_ok h
    obtain ⟨rfl, rfl⟩ := Prod.mk.inj (Except.ok.inj h)
    rcases storeReceipt_ok hstore with ⟨-, rfl⟩ | ⟨-, hstores⟩
    · exact Or.inl rfl
    · exact Or.inr ⟨rfl, hstores⟩

theorem journals_freezeBundle {claim : WindowClaim} {bundle : CausalBundle}
    (h : freezeBundle contracts scheduler claim clock s = .ok (t, bundle)) : Journals contracts (.freezeBundle claim) s t := by
  rcases freezeBundle_ok h with rfl | ⟨hbundle, hstores⟩
  · exact Or.inl rfl
  · refine hstores.journals ⟨rfl, rfl⟩ (hstores.accepted ?_ (by simp [CampaignReceipt.kind]) (by simp [CampaignReceipt.kind]))
    rintro _ ⟨⟩
    obtain ⟨hcampaign, hsample⟩ := Prod.mk.inj hbundle
    simp only [CampaignReceipt.kind, hcampaign, hsample]

theorem recordCampaignEvaluation_ok {claim : WindowClaim} {bundle : CausalBundle} {intent : Option StrategyIntent}
    {receipt : StrategyEvaluation}
    (h : recordCampaignEvaluation contracts scheduler claim bundle intent clock recorded s = .ok (t, receipt)) :
    t = s ∨ (receipt.campaignId, receipt.sampleId) = (claim.campaignId, claim.sampleId) ∧
      Stores s (receiptRow contracts claim.campaignId claim.sampleId none "one" (.evaluation receipt) recorded) t := by
  obtain ⟨_, -, h⟩ := bind_ok h
  obtain ⟨_, -, h⟩ := bind_ok h
  obtain ⟨_, -, h⟩ := bind_ok h
  obtain ⟨_, -, h⟩ := bind_ok h
  split at h
  · split at h
    · obtain ⟨_, -, h⟩ := bind_ok h
      exact Or.inl (Prod.mk.inj (Except.ok.inj h)).1.symm
    · cases h
  · obtain ⟨_, -, h⟩ := bind_ok h
    obtain ⟨_, -, h⟩ := bind_ok h
    obtain ⟨⟨u, stored⟩, hstore, h⟩ := bind_ok h
    obtain ⟨rfl, rfl⟩ := Prod.mk.inj (Except.ok.inj h)
    rcases storeReceipt_ok hstore with ⟨-, rfl⟩ | ⟨-, hstores⟩
    · exact Or.inl rfl
    · exact Or.inr ⟨rfl, hstores⟩

theorem journals_recordCampaignEvaluation {claim : WindowClaim} {bundle : CausalBundle} {intent : Option StrategyIntent}
    {receipt : StrategyEvaluation}
    (h : recordCampaignEvaluation contracts scheduler claim bundle intent clock recorded s = .ok (t, receipt)) :
    Journals contracts (.recordEvaluation claim bundle intent) s t := by
  rcases recordCampaignEvaluation_ok h with rfl | ⟨hreceipt, hstores⟩
  · exact Or.inl rfl
  · refine hstores.journals ⟨rfl, rfl⟩ (hstores.accepted ?_ (by simp [CampaignReceipt.kind]) (by simp [CampaignReceipt.kind]))
    rintro _ ⟨⟩
    obtain ⟨hcampaign, hsample⟩ := Prod.mk.inj hreceipt
    simp only [CampaignReceipt.kind, hcampaign, hsample]

theorem recordCausalEvaluation_ok {claim : WindowClaim} {bundle : CausalBundle} {result : CausalBaselineResult}
    {receipt : CausalEvaluation}
    (h : recordCausalEvaluation contracts scheduler claim bundle result clock recorded s = .ok (t, receipt)) :
    t = s ∨ (receipt.campaignId, receipt.sampleId) = (claim.campaignId, claim.sampleId) ∧
      Stores s (receiptRow contracts claim.campaignId claim.sampleId none "one" (.causalEvaluation receipt) recorded) t := by
  obtain ⟨_, -, h⟩ := bind_ok h
  obtain ⟨_, -, h⟩ := bind_ok h
  obtain ⟨_, -, h⟩ := bind_ok h
  obtain ⟨⟨descriptor, sources, market⟩, -, h⟩ := bind_ok h
  obtain ⟨_, -, h⟩ := bind_ok h
  split at h
  · obtain ⟨evaluation, -, h⟩ := bind_ok h
    cases evaluation with
    | core _ => cases h
    | causal saved =>
      obtain ⟨_, -, h⟩ := bind_ok h
      obtain ⟨_, -, h⟩ := bind_ok h
      exact Or.inl (Prod.mk.inj (Except.ok.inj h)).1.symm
  · obtain ⟨_, -, h⟩ := bind_ok h
    obtain ⟨_, -, h⟩ := bind_ok h
    obtain ⟨⟨u, stored⟩, hstore, h⟩ := bind_ok h
    obtain ⟨rfl, rfl⟩ := Prod.mk.inj (Except.ok.inj h)
    rcases storeReceipt_ok hstore with ⟨-, rfl⟩ | ⟨-, hstores⟩
    · exact Or.inl rfl
    · exact Or.inr ⟨rfl, hstores⟩

theorem journals_recordCausalEvaluation {claim : WindowClaim} {bundle : CausalBundle} {result : CausalBaselineResult}
    {receipt : CausalEvaluation}
    (h : recordCausalEvaluation contracts scheduler claim bundle result clock recorded s = .ok (t, receipt)) :
    Journals contracts (.recordCausalEvaluation claim bundle result) s t := by
  rcases recordCausalEvaluation_ok h with rfl | ⟨hreceipt, hstores⟩
  · exact Or.inl rfl
  · refine hstores.journals ⟨rfl, rfl⟩ (hstores.accepted ?_ (by simp [CampaignReceipt.kind]) (by simp [CampaignReceipt.kind]))
    rintro _ ⟨⟩
    obtain ⟨hcampaign, hsample⟩ := Prod.mk.inj hreceipt
    simp only [CampaignReceipt.kind, hcampaign, hsample]

end Windows

section Attempts

theorem startAttempt_ok {attempt : AttemptStart} {admitted : Bool}
    (h : startAttempt contracts scheduler attempt clock s = .ok (t, admitted)) :
    admitted = false ∧ t = s ∨ admitted = true ∧
      Stores s (receiptRow contracts attempt.campaignId attempt.sampleId (some attempt.armId) attempt.attemptId
        (.start attempt) clock) t ∧
      ∃ context, campaignContext contracts scheduler s attempt.campaignId = .ok context ∧
        ∃ window, context.schedule.window? attempt.sampleId = some window ∧
          window.marketAsOfTsMs ≤ clockMs scheduler clock ∧ clockMs scheduler clock < window.pairedAtTsMs := by
  obtain ⟨_, -, h⟩ := bind_ok h
  obtain ⟨context, hcontext, h⟩ := bind_ok h
  obtain ⟨_, -, h⟩ := bind_ok h
  obtain ⟨_, -, h⟩ := bind_ok h
  obtain ⟨_, -, h⟩ := bind_ok h
  obtain ⟨window, hwindow, h⟩ := bind_ok h
  obtain ⟨_, -, h⟩ := bind_ok h
  obtain ⟨_, hclock, h⟩ := bind_ok h
  obtain ⟨_, -, h⟩ := bind_ok h
  obtain ⟨_, -, h⟩ := bind_ok h
  obtain ⟨_, -, h⟩ := bind_ok h
  split at h
  · obtain ⟨_, -, h⟩ := bind_ok h
    obtain ⟨_, -, h⟩ := bind_ok h
    obtain ⟨rfl, rfl⟩ := Prod.mk.inj (Except.ok.inj h)
    exact Or.inl ⟨rfl, rfl⟩
  · rcases storeReceipt_ok h with ⟨rfl, rfl⟩ | ⟨rfl, hstores⟩
    · exact Or.inl ⟨rfl, rfl⟩
    · exact Or.inr ⟨rfl, hstores, context, hcontext, window, found_ok hwindow, require_ok hclock⟩

theorem journals_startAttempt {attempt : AttemptStart} {delivered admitted : Bool}
    (h : startAttempt contracts scheduler attempt clock s = .ok (t, admitted)) : Journals contracts (.startAttempt attempt delivered) s t := by
  rcases startAttempt_ok h with ⟨-, rfl⟩ | ⟨-, hstores, -⟩
  · exact Or.inl rfl
  · refine hstores.journals rfl (hstores.accepted ?_ (by simp [CampaignReceipt.kind]) (by simp [CampaignReceipt.kind]))
    rintro _ ⟨⟩
    rfl

theorem finishAttempt_ok {terminal : AttemptTerminal} {start : AttemptStart} {finished : Bool}
    (h : finishAttempt contracts scheduler terminal start clock recorded s = .ok (t, finished)) :
    finished = false ∧ t = s ∨ finished = true ∧
      Stores s (receiptRow contracts start.campaignId start.sampleId (some start.armId) terminal.attemptId
        (.terminal terminal) recorded) t := by
  obtain ⟨_, -, h⟩ := bind_ok h
  obtain ⟨_, -, h⟩ := bind_ok h
  obtain ⟨_, -, h⟩ := bind_ok h
  obtain ⟨_, -, h⟩ := bind_ok h
  split at h
  · obtain ⟨_, -, h⟩ := bind_ok h
    obtain ⟨_, -, h⟩ := bind_ok h
    obtain ⟨rfl, rfl⟩ := Prod.mk.inj (Except.ok.inj h)
    exact Or.inl ⟨rfl, rfl⟩
  · obtain ⟨_, -, h⟩ := bind_ok h
    obtain ⟨_, -, h⟩ := bind_ok h
    obtain ⟨_, -, h⟩ := bind_ok h
    obtain ⟨_, -, h⟩ := bind_ok h
    obtain ⟨_, -, h⟩ := bind_ok h
    rcases storeReceipt_ok h with ⟨rfl, rfl⟩ | ⟨rfl, hstores⟩
    · exact Or.inl ⟨rfl, rfl⟩
    · exact Or.inr ⟨rfl, hstores⟩

theorem journals_finishAttempt {terminal : AttemptTerminal} {answer : AttemptStart × Option AttemptTerminal}
    {finished : Bool} (h : finishAttempt contracts scheduler terminal answer.1 clock recorded s = .ok (t, finished)) :
    Journals contracts (.finishAttempt terminal answer) s t := by
  rcases finishAttempt_ok h with ⟨-, rfl⟩ | ⟨-, hstores⟩
  · exact Or.inl rfl
  · refine hstores.journals rfl (hstores.accepted ?_ (by simp [CampaignReceipt.kind]) (by simp [CampaignReceipt.kind]))
    rintro _ ⟨⟩

theorem recordReview_ok {receipt : ReviewReceipt} {answer : AttemptStart × Option AttemptTerminal} {finished : Bool}
    (h : recordReview contracts scheduler receipt answer clock recorded s = .ok (t, finished)) :
    finished = false ∧ t = s ∨ finished = true ∧
      Stores s (receiptRow contracts receipt.campaignId receipt.sampleId (some .strategyReview) receipt.attemptId
        (.review receipt) recorded) t := by
  obtain ⟨_, -, h⟩ := bind_ok h
  obtain ⟨_, -, h⟩ := bind_ok h
  obtain ⟨_, -, h⟩ := bind_ok h
  obtain ⟨_, -, h⟩ := bind_ok h
  split at h
  · obtain ⟨_, -, h⟩ := bind_ok h
    obtain ⟨_, -, h⟩ := bind_ok h
    obtain ⟨rfl, rfl⟩ := Prod.mk.inj (Except.ok.inj h)
    exact Or.inl ⟨rfl, rfl⟩
  · obtain ⟨_, -, h⟩ := bind_ok h
    obtain ⟨_, -, h⟩ := bind_ok h
    obtain ⟨_, -, h⟩ := bind_ok h
    obtain ⟨_, -, h⟩ := bind_ok h
    obtain ⟨_, -, h⟩ := bind_ok h
    obtain ⟨_, -, h⟩ := bind_ok h
    obtain ⟨_, -, h⟩ := bind_ok h
    obtain ⟨_, -, h⟩ := bind_ok h
    obtain ⟨_, -, h⟩ := bind_ok h
    obtain ⟨_, -, h⟩ := bind_ok h
    rcases storeReceipt_ok h with ⟨rfl, rfl⟩ | ⟨rfl, hstores⟩
    · exact Or.inl ⟨rfl, rfl⟩
    · exact Or.inr ⟨rfl, hstores⟩

theorem journals_recordReview {receipt : ReviewReceipt} {answer : AttemptStart × Option AttemptTerminal} {finished : Bool}
    (h : recordReview contracts scheduler receipt answer clock recorded s = .ok (t, finished)) :
    Journals contracts (.recordReview receipt answer) s t := by
  rcases recordReview_ok h with ⟨-, rfl⟩ | ⟨-, hstores⟩
  · exact Or.inl rfl
  · refine hstores.journals rfl (hstores.accepted ?_ (by simp [CampaignReceipt.kind]) (by simp [CampaignReceipt.kind]))
    rintro _ ⟨⟩
    rfl

end Attempts

section Samples

theorem recordCausalPair_ok {campaignId sampleId evaluationReceiptSha256 attemptId : String} {arm : ResearchArm}
    {pair : CausalPair}
    (h : recordCausalPair contracts scheduler campaignId sampleId arm evaluationReceiptSha256 attemptId clock recorded s =
      .ok (t, pair)) :
    t = s ∨ (pair.campaignId, pair.sampleId) = (campaignId, sampleId) ∧
      Stores s (receiptRow contracts campaignId sampleId (some .llmProposalResearch) "one" (.causalPair pair) recorded) t := by
  obtain ⟨_, -, h⟩ := bind_ok h
  obtain ⟨history, -, h⟩ := bind_ok h
  split at h
  · obtain ⟨saved, -, h⟩ := bind_ok h
    obtain ⟨_, -, h⟩ := bind_ok h
    obtain ⟨_, -, h⟩ := bind_ok h
    obtain ⟨_, -, h⟩ := bind_ok h
    obtain ⟨_, -, h⟩ := bind_ok h
    exact Or.inl (Prod.mk.inj (Except.ok.inj h)).1.symm
  · obtain ⟨_, -, h⟩ := bind_ok h
    obtain ⟨_, -, h⟩ := bind_ok h
    obtain ⟨⟨u, stored⟩, hstore, h⟩ := bind_ok h
    obtain ⟨_, -, h⟩ := bind_ok h
    obtain ⟨rfl, rfl⟩ := Prod.mk.inj (Except.ok.inj h)
    rcases storeReceipt_ok hstore with ⟨-, rfl⟩ | ⟨-, hstores⟩
    · exact Or.inl rfl
    · exact Or.inr ⟨rfl, hstores⟩

theorem journals_recordCausalPair {campaignId sampleId evaluationReceiptSha256 attemptId : String} {arm : ResearchArm}
    {pair : CausalPair}
    (h : recordCausalPair contracts scheduler campaignId sampleId arm evaluationReceiptSha256 attemptId clock recorded s =
      .ok (t, pair)) : Journals contracts (.recordCausalPair campaignId sampleId arm evaluationReceiptSha256 attemptId) s t := by
  rcases recordCausalPair_ok h with rfl | ⟨hpair, hstores⟩
  · exact Or.inl rfl
  · refine hstores.journals rfl (hstores.accepted ?_ (by simp [CampaignReceipt.kind]) (by simp [CampaignReceipt.kind]))
    rintro _ ⟨⟩
    obtain ⟨hcampaign, hsample⟩ := Prod.mk.inj hpair
    simp only [CampaignReceipt.kind, hcampaign, hsample]

theorem recordVerifiedSample_ok {sample : DecisionSample} {stored : Bool}
    (h : recordVerifiedSample contracts scheduler sample recorded s = .ok (t, stored)) :
    stored = false ∧ t = s ∨ stored = true ∧ ∃ arm, researchArm? sample.armId = some arm ∧
      Stores s (receiptRow contracts sample.campaignId sample.sampleId (some arm) "one" (.sample sample) recorded) t := by
  obtain ⟨_, -, h⟩ := bind_ok h
  obtain ⟨_, -, h⟩ := bind_ok h
  obtain ⟨_, -, h⟩ := bind_ok h
  obtain ⟨_, -, h⟩ := bind_ok h
  obtain ⟨evaluation, -, h⟩ := bind_ok h
  cases evaluation with
  | causal _ => cases h
  | core evaluation =>
    obtain ⟨arm, harm, h⟩ := bind_ok h
    obtain ⟨_, -, h⟩ := bind_ok h
    obtain ⟨_, -, h⟩ := bind_ok h
    obtain ⟨_, -, h⟩ := bind_ok h
    rcases storeReceipt_ok h with ⟨rfl, rfl⟩ | ⟨rfl, hstores⟩
    · exact Or.inl ⟨rfl, rfl⟩
    · exact Or.inr ⟨rfl, arm, found_ok harm, hstores⟩

theorem journals_recordVerifiedSample {sample : DecisionSample} {stored : Bool}
    (h : recordVerifiedSample contracts scheduler sample recorded s = .ok (t, stored)) : Journals contracts (.recordVerifiedSample sample) s t := by
  rcases recordVerifiedSample_ok h with ⟨-, rfl⟩ | ⟨-, arm, harm, hstores⟩
  · exact Or.inl rfl
  · refine hstores.journals rfl (hstores.accepted ?_ (by simp [CampaignReceipt.kind]) (by simp [CampaignReceipt.kind]))
    intro slot hslot
    rw [CampaignReceipt.ownSlot, harm] at hslot
    exact Option.some.inj hslot

end Samples

/-- The journal that the older rows of each row accept. -/
abbrev JournalAccepted (contracts : CampaignContracts) (rows : List ReceiptRow) : Prop :=
  AcceptedLogs.Accepted (ReceiptRow.Accepted contracts) rows

section Costs

variable (hlog : JournalAccepted contracts s.receipts)
include hlog

theorem ownSlot_of_mem {row : ReceiptRow} (hrow : row ∈ s.receipts) : ∀ slot ∈ row.receipt.ownSlot, row.slot = slot := by
  obtain ⟨older, -, haccepted⟩ := hlog.exists_older hrow
  exact haccepted.ownSlot

theorem sha_of_mem {row : ReceiptRow} (hrow : row ∈ s.receipts) :
    row.receiptSha256 = contracts.receiptSha256 row.receipt := by
  obtain ⟨older, -, haccepted⟩ := hlog.exists_older hrow
  exact haccepted.sha

/-- A cost that is read from its slot is of that stage of the attempt. -/
theorem hasStage_of_row {cost other : CostReceipt} {stage : CostStage} {row : ReceiptRow} {p : ℕ → Prop}
    (hrow : s.row? (cost.slotAt stage) = some row) (hdecode : decodeCost row = .ok other) (hp : p other.amountMicrousd) :
    cost.HasStage s.receipts stage p := by
  obtain ⟨hmem, hslot⟩ := row?_mem hrow
  have hreceipt : row.receipt = .cost other := by
    unfold decodeCost at hdecode
    split at hdecode
    · rename_i heq
      rw [heq, Except.ok.inj hdecode]
    · cases hdecode
  refine ⟨row, hmem, other, hreceipt, ?_, hp⟩
  rw [← hslot]
  exact (ownSlot_of_mem hlog hmem _ (by rw [hreceipt]; rfl)).symm

theorem checkReservation_ok {cost : CostReceipt} {expected : CostReceipt → ℕ} {other : CostStage}
    {p : ℕ → Prop} (hexpected : ∀ request, cost.amountMicrousd = expected request → p request.amountMicrousd)
    (h : checkReservation s cost expected other = .ok ()) :
    cost.HasStage s.receipts .reservationRequested p ∧ ∀ row ∈ s.receipts, row.slot ≠ cost.slotAt other := by
  obtain ⟨row, hrow, h⟩ := bind_ok h
  obtain ⟨request, hrequest, h⟩ := bind_ok h
  obtain ⟨_, hamount, h⟩ := bind_ok h
  exact ⟨hasStage_of_row hlog (found_ok hrow) hrequest (hexpected _ (require_ok hamount)), row?_eq_none.mp (require_ok h)⟩

theorem checkReserved_ok {cost : CostReceipt} (h : checkReserved s cost = .ok ()) :
    cost.HasStage s.receipts .reserved (cost.amountMicrousd ≤ ·) := by
  obtain ⟨row, hrow, h⟩ := bind_ok h
  obtain ⟨held, hheld, h⟩ := bind_ok h
  exact hasStage_of_row hlog (found_ok hrow) hheld (require_ok h)

theorem checkCommit_ok {cost : CostReceipt} (h : checkCommit s cost = .ok ()) :
    cost.HasStage s.receipts .commitRequested (· = cost.amountMicrousd) := by
  obtain ⟨row, hrow, h⟩ := bind_ok h
  obtain ⟨request, hrequest, h⟩ := bind_ok h
  exact hasStage_of_row (p := fun amount => amount = cost.amountMicrousd) hlog (found_ok hrow) hrequest (require_ok h)

theorem checkStage_ok {cost : CostReceipt} (h : checkStage s cost = .ok ()) : cost.Fenced s.receipts := by
  unfold checkStage at h
  unfold CostReceipt.Fenced
  cases hstage : cost.stage <;> simp only [hstage] at h ⊢
  · exact checkReservation_ok (p := fun _ => cost.amountMicrousd = 0) hlog (fun _ heq => heq) h
  · exact checkReservation_ok (p := fun amount => cost.amountMicrousd = amount) hlog (fun _ heq => heq) h
  · exact checkReserved_ok hlog h
  · obtain ⟨_, hreserved, h⟩ := bind_ok h
    exact ⟨checkReserved_ok hlog hreserved, checkCommit_ok hlog h⟩

theorem journals_recordCost {cost : CostReceipt} {stored : Bool}
    (h : recordCost contracts scheduler cost clock s = .ok (t, stored)) : Journals contracts (.recordCost cost) s t := by
  obtain ⟨_, -, h⟩ := bind_ok h
  obtain ⟨_, -, h⟩ := bind_ok h
  obtain ⟨_, -, h⟩ := bind_ok h
  obtain ⟨_, hstage, h⟩ := bind_ok h
  rcases storeReceipt_ok h with ⟨-, rfl⟩ | ⟨-, hstores⟩
  · exact Or.inl rfl
  · refine hstores.journals rfl ?_
    exact
      { sha := rfl
        ownSlot := by
          rintro _ ⟨⟩
          rfl
        fresh := row?_eq_none.mp hstores.fresh
        newSha := receipt?_eq_none.mp hstores.newSha
        oneStart := hstores.oneStart
        cost := by
          rintro _ ⟨⟩
          exact checkStage_ok hlog hstage
        outcome := by
          rintro _ ⟨⟩ }

end Costs

section Outcomes

/-- What is decoded of a slot, with its digest. -/
theorem decodeRow?_sha {α : Type} {decode : ReceiptRow → Except ResearchError α} {sha : α → String} {slot : Slot}
    {a : Option α} (hsha : ∀ row ∈ s.receipts, ∀ a, decode row = .ok a → row.receiptSha256 = sha a)
    (h : decodeRow? decode (s.row? slot) = .ok a) : a.map sha = (rowAt s.receipts slot).map (·.receiptSha256) := by
  change a.map sha = (s.row? slot).map (·.receiptSha256)
  cases hrow : s.row? slot with
  | none =>
    rw [hrow] at h
    rw [← Except.ok.inj h]
    rfl
  | some row =>
    rw [hrow] at h
    obtain ⟨b, hdecode, h⟩ := bind_ok h
    rw [← Except.ok.inj h]
    exact congrArg some (hsha row (row?_mem hrow).1 b hdecode).symm

variable (hlog : JournalAccepted contracts s.receipts)
include hlog

theorem decodeBundle_sha {row : ReceiptRow} (hrow : row ∈ s.receipts) {bundle : CausalBundle}
    (h : decodeBundle row = .ok bundle) : row.receiptSha256 = contracts.bundleSha256 bundle := by
  rw [sha_of_mem hlog hrow]
  unfold decodeBundle at h
  split at h
  · rename_i heq
    rw [heq, Except.ok.inj h]
    rfl
  · cases h

theorem decodeEvaluation_sha {row : ReceiptRow} (hrow : row ∈ s.receipts) {evaluation : CampaignEvaluation}
    (h : decodeEvaluation row = .ok evaluation) :
    row.receiptSha256 = contracts.receiptSha256 evaluation.receipt := by
  rw [sha_of_mem hlog hrow]
  unfold decodeEvaluation at h
  split at h
  · rename_i heq
    rw [heq, ← Except.ok.inj h]
    rfl
  · rename_i heq
    rw [heq, ← Except.ok.inj h]
    rfl
  · cases h

theorem storedEvaluation_sha {campaignId sampleId : String} {evaluation : Option (ReceiptRow × CampaignEvaluation)}
    (h : storedEvaluation s campaignId sampleId = .ok evaluation) :
    (evaluation.map fun stored => contracts.receiptSha256 stored.2.receipt) =
      (rowAt s.receipts ⟨campaignId, sampleId, none, .evaluation, "one"⟩).map (·.receiptSha256) := by
  change _ = (s.row? ⟨campaignId, sampleId, none, .evaluation, "one"⟩).map (·.receiptSha256)
  unfold storedEvaluation at h
  split at h
  · rename_i hrow
    rw [hrow, ← Except.ok.inj h]
    rfl
  · rename_i row hrow
    obtain ⟨stored, hdecode, h⟩ := bind_ok h
    rw [hrow, ← Except.ok.inj h]
    exact congrArg some (decodeEvaluation_sha hlog (row?_mem hrow).1 hdecode).symm

omit hlog in
theorem admittedStatus_calls (causal : Bool) (window : ObservationWindow) (completion : Option (ReceiptRow × AttemptCompletion)) :
    ¬(admittedStatus causal window completion).NoCall := by
  unfold admittedStatus
  split
  · decide
  · rename_i row completion
    split_ifs
    · decide
    · decide
    · cases completion with
      | review receipt =>
        simp only [AttemptCompletion.status]
        cases receipt.output.action <;> decide
      | terminal receipt =>
        simp only [AttemptCompletion.status]
        cases receipt.terminalStatus <;> decide

omit hlog in
theorem startOf?_eq_none {campaignId sampleId : String} {arm : ResearchArm} :
    s.startOf? campaignId sampleId arm = none ↔ ∀ row ∈ s.receipts, ¬row.IsStartOf campaignId sampleId arm := by
  rw [CampaignDatabase.startOf?, List.head?_eq_none_iff, CampaignDatabase.rowsOf, List.filter_eq_nil_iff]
  simp only [decide_eq_true_eq, ReceiptRow.IsStartOf, Prod.mk.injEq]
  constructor
  · rintro h row hrow ⟨hkind, hcampaign, hsample, harm⟩
    exact h row hrow ⟨hcampaign, hsample, harm, hkind⟩
  · rintro h row hrow ⟨hcampaign, hsample, harm, hkind⟩
    exact h row hrow ⟨hkind, hcampaign, hsample, harm⟩

omit hlog in
/-- An outcome without a call is of an arm without a START. -/
theorem outcomeDecision_noCall {outcome : ArmOutcome} {causal : Bool} {window : ObservationWindow} {now : ℕ}
    {bundle : Option CausalBundle} {evaluation : Option (ReceiptRow × CampaignEvaluation)}
    {decision : Option AttemptCompletion}
    (h : outcomeDecision s outcome causal window now bundle evaluation = .ok decision) (hstatus : outcome.status.NoCall) :
    ∀ row ∈ s.receipts, ¬row.IsStartOf outcome.campaignId outcome.sampleId outcome.armId := by
  unfold outcomeDecision at h
  split at h
  · obtain ⟨_, -, h⟩ := bind_ok h
    obtain ⟨_, -, h⟩ := bind_ok h
    obtain ⟨completion, -, h⟩ := bind_ok h
    obtain ⟨_, hderived, h⟩ := bind_ok h
    exact absurd (require_ok hderived ▸ hstatus) (admittedStatus_calls causal window completion)
  · rename_i hnone
    exact startOf?_eq_none.mp hnone

theorem journals_recordOutcome {outcome : ArmOutcome} {stored : Bool}
    (h : recordOutcome contracts scheduler outcome clock s = .ok (t, stored)) : Journals contracts (.recordOutcome outcome) s t := by
  obtain ⟨_, -, h⟩ := bind_ok h
  obtain ⟨_, -, h⟩ := bind_ok h
  obtain ⟨_, -, h⟩ := bind_ok h
  obtain ⟨causal, -, h⟩ := bind_ok h
  obtain ⟨window, -, h⟩ := bind_ok h
  split at h
  · obtain ⟨_, -, h⟩ := bind_ok h
    obtain ⟨_, -, h⟩ := bind_ok h
    exact Or.inl (Prod.mk.inj (Except.ok.inj h)).1.symm
  · obtain ⟨_, -, h⟩ := bind_ok h
    obtain ⟨bundle, hbundle, h⟩ := bind_ok h
    obtain ⟨evaluation, hevaluation, h⟩ := bind_ok h
    obtain ⟨_, -, h⟩ := bind_ok h
    obtain ⟨_, hdigests, h⟩ := bind_ok h
    obtain ⟨decision, hdecision, h⟩ := bind_ok h
    obtain ⟨_, -, h⟩ := bind_ok h
    obtain ⟨_, -, h⟩ := bind_ok h
    obtain ⟨_, -, h⟩ := bind_ok h
    obtain ⟨hbundleDigest, hevaluationDigest⟩ := Prod.mk.inj (require_ok hdigests)
    rcases storeReceipt_ok h with ⟨-, rfl⟩ | ⟨-, hstores⟩
    · exact Or.inl rfl
    · have hrecorded : outcome.Recorded s.receipts :=
        { bundle := hbundleDigest.trans
            (decodeRow?_sha (fun row hrow bundle hdecode => decodeBundle_sha hlog hrow hdecode) hbundle)
          evaluation := hevaluationDigest.trans (storedEvaluation_sha hlog hevaluation)
          noCall := outcomeDecision_noCall hdecision }
      refine hstores.journals rfl ?_
      exact
        { sha := rfl
          ownSlot := by
            rintro _ ⟨⟩
            rfl
          fresh := row?_eq_none.mp hstores.fresh
          newSha := receipt?_eq_none.mp hstores.newSha
          oneStart := hstores.oneStart
          cost := by
            rintro _ ⟨⟩
          outcome := by
            rintro _ ⟨⟩
            exact hrecorded }

end Outcomes

section Calls

/-- The plan is registered for a frozen roster. -/
structure Registers (s : CampaignDatabase) (plan : PlanRow) (t : CampaignDatabase) : Prop where
  fresh : s.plan? plan.plan.campaignId = none
  frozen : ∃ roster ∈ s.research.schedules, roster.campaignId = plan.plan.campaignId
  rows : t = { s with plans := plan :: s.plans }

theorem registerPlan_ok {plan : CampaignPlan} {registered : Bool}
    (h : registerPlan contracts scheduler plan clock s = .ok (t, registered)) : t = s ∨ ∃ row, Registers s row t := by
  obtain ⟨_, -, h⟩ := bind_ok h
  obtain ⟨⟨schedule, protocol⟩, -, h⟩ := bind_ok h
  obtain ⟨_, -, h⟩ := bind_ok h
  split at h
  · obtain ⟨_, -, h⟩ := bind_ok h
    exact Or.inl (Prod.mk.inj (Except.ok.inj h)).1.symm
  · rename_i hnone
    obtain ⟨_, -, h⟩ := bind_ok h
    obtain ⟨u, hinsert, h⟩ := bind_ok h
    obtain ⟨rfl, -⟩ := Prod.mk.inj (Except.ok.inj h)
    obtain ⟨_, hfrozen, hinsert⟩ := bind_ok hinsert
    obtain ⟨_, -, hinsert⟩ := bind_ok hinsert
    obtain ⟨_, -, hinsert⟩ := bind_ok hinsert
    obtain ⟨_, -, hinsert⟩ := bind_ok hinsert
    obtain ⟨roster, hroster, -⟩ := require_ok hfrozen
    exact Or.inr ⟨_, hnone, ⟨roster, ResearchDatabase.schedule?_mem hroster⟩, (Except.ok.inj hinsert).symm⟩

/-- The window is claimed: the first one that is due and not claimed. -/
structure Claims (contracts : CampaignContracts) (scheduler : Option String) (clock : ℕ) (s : CampaignDatabase)
    (campaignId : String) (claim : WindowClaim) (t : CampaignDatabase) : Prop where
  planned : ∃ plan ∈ s.plans, plan.plan.campaignId = campaignId
  campaign : claim.campaignId = campaignId
  window : ∃ window, (s.research.roster campaignId).find? (fun window =>
      window.marketAsOfTsMs ≤ clockMs scheduler clock ∧ s.claim? campaignId window.sampleId = none) = some window ∧
    claim.sampleId = window.sampleId
  claimedAt : claim.claimedAtTsMs = clockMs scheduler clock
  rows : t = { s with claims := ⟨contracts.claimSha256 claim, claim⟩ :: s.claims }

theorem plan?_mem {campaignId : String} {plan : PlanRow} (h : s.plan? campaignId = some plan) :
    plan ∈ s.plans ∧ plan.plan.campaignId = campaignId := @KeyedRows.find?_mem _ _ (fun row : PlanRow => row.plan.campaignId) _ _ _ _ h

theorem campaignContext_ok {campaignId : String} {context : CampaignContext}
    (h : campaignContext contracts scheduler s campaignId = .ok context) :
    context.planRow ∈ s.plans ∧ context.planRow.plan.campaignId = campaignId ∧
      ∃ roster, s.research.schedule? campaignId = some roster ∧ context.schedule = roster.payload := by
  obtain ⟨planRow, hplan, h⟩ := bind_ok h
  obtain ⟨⟨schedule, protocol⟩, hidentity, h⟩ := bind_ok h
  obtain ⟨_, -, h⟩ := bind_ok h
  have hcontext : context = ⟨planRow, schedule, protocol⟩ := by
    split at h
    · exact (Except.ok.inj h).symm
    · obtain ⟨_, -, h⟩ := bind_ok h
      exact (Except.ok.inj h).symm
  obtain ⟨roster, hroster, hidentity⟩ := bind_ok hidentity
  obtain ⟨_, -, hidentity⟩ := bind_ok hidentity
  obtain ⟨_, -, hidentity⟩ := bind_ok hidentity
  obtain ⟨_, -, hidentity⟩ := bind_ok hidentity
  obtain ⟨_, -, hidentity⟩ := bind_ok hidentity
  obtain ⟨rfl, -⟩ := Prod.mk.inj (Except.ok.inj hidentity)
  subst hcontext
  obtain ⟨hmem, hid⟩ := plan?_mem (found_ok hplan)
  exact ⟨hmem, hid, roster, found_ok hroster, rfl⟩

theorem claimNext_ok {campaignId : String} {claim : Option WindowClaim}
    (h : claimNext contracts scheduler campaignId clock s = .ok (t, claim)) :
    claim = none ∧ t = s ∨ ∃ claimed, claim = some claimed ∧ Claims contracts scheduler clock s campaignId claimed t := by
  obtain ⟨context, hcontext, h⟩ := bind_ok h
  obtain ⟨hplan, hid, -⟩ := campaignContext_ok hcontext
  dsimp only at h
  split at h
  · obtain ⟨rfl, rfl⟩ := Prod.mk.inj (Except.ok.inj h)
    exact Or.inl ⟨rfl, rfl⟩
  · rename_i window hwindow
    obtain ⟨u, hinsert, h⟩ := bind_ok h
    obtain ⟨rfl, rfl⟩ := Prod.mk.inj (Except.ok.inj h)
    obtain ⟨_, -, hinsert⟩ := bind_ok hinsert
    obtain ⟨_, -, hinsert⟩ := bind_ok hinsert
    obtain ⟨_, -, hinsert⟩ := bind_ok hinsert
    obtain ⟨_, -, hinsert⟩ := bind_ok hinsert
    refine Or.inr ⟨_, rfl, ?_⟩
    exact
      { planned := ⟨_, hplan, hid⟩
        campaign := rfl
        window := ⟨window, hwindow, rfl⟩
        claimedAt := rfl
        rows := (Except.ok.inj hinsert).symm }

theorem sealDenominator_ok {campaignId : String} {receipt : DenominatorReceipt}
    (h : sealDenominator contracts scheduler campaignId s = .ok (t, receipt)) :
    t = s ∧ (s.denominator? campaignId).map (·.receipt) = some receipt ∨
      s.denominator? campaignId = none ∧ ∃ plan expected, plan ∈ s.plans ∧ plan.plan.campaignId = campaignId ∧
        receipt = denominatorReceipt contracts plan expected (outcomesOf s.receipts campaignId)
          (orderedCosts (costsOf s.receipts campaignId)) ∧
        t = { s with denominators := ⟨contracts.denominatorSha256 receipt, receipt⟩ :: s.denominators } := by
  obtain ⟨context, hcontext, h⟩ := bind_ok h
  obtain ⟨_, -, h⟩ := bind_ok h
  obtain ⟨hplan, hid, -⟩ := campaignContext_ok hcontext
  split at h
  · rename_i row hrow
    obtain ⟨_, -, h⟩ := bind_ok h
    obtain ⟨rfl, rfl⟩ := Prod.mk.inj (Except.ok.inj h)
    exact Or.inl ⟨rfl, by rw [hrow]; rfl⟩
  · rename_i hnone
    obtain ⟨u, hinsert, h⟩ := bind_ok h
    obtain ⟨rfl, rfl⟩ := Prod.mk.inj (Except.ok.inj h)
    obtain ⟨_, -, hinsert⟩ := bind_ok hinsert
    obtain ⟨_, -, hinsert⟩ := bind_ok hinsert
    obtain ⟨_, -, hinsert⟩ := bind_ok hinsert
    exact Or.inr ⟨hnone, _, _, hplan, hid, rfl, (Except.ok.inj hinsert).symm⟩

/-- What a call can leave of the database. -/
inductive CampaignCall.Leaves (contracts : CampaignContracts) (dispatch : Dispatch) (s : CampaignDatabase) :
    CampaignCall → CampaignDatabase → Prop
  | nothing {call} : Leaves contracts dispatch s call s
  | row {call row} (writes : CampaignCall.Writes row call) (accepted : row.Accepted contracts s.receipts) :
    Leaves contracts dispatch s call { s with receipts := row :: s.receipts }
  | research {call now} : Leaves contracts dispatch s (.research call now)
      { s with research := { call.rows contracts.toResearchContracts now s.research with txid := s.research.txid } }
  | plan {plan row t} (registers : Registers s row t) : Leaves contracts dispatch s (.register plan) t
  | claim {campaignId claim t} (claims : Claims contracts dispatch.scheduler dispatch.clock s campaignId claim t) :
    Leaves contracts dispatch s (.claimNext campaignId) t
  | denominator {campaignId rows} : Leaves contracts dispatch s (.sealDenominator campaignId) { s with denominators := rows }

variable {dispatch : Dispatch}

theorem Journals.leaves {call : CampaignCall} (h : Journals contracts call s t) :
    CampaignCall.Leaves contracts dispatch s call t := by
  rcases h with rfl | ⟨row, hwrites, haccepted, rfl⟩
  · exact .nothing
  · exact .row hwrites haccepted

theorem CampaignCall.leaves {system : CampaignSystem} (hlog : JournalAccepted contracts system.db.receipts)
    (call : CampaignCall) (dispatch : Dispatch) : call.Leaves contracts dispatch system.db (call.rows contracts dispatch system) := by
  let kept (call : CampaignCall) (t : CampaignDatabase) : Prop := call.Leaves contracts dispatch system.db t
  have hrefl (call : CampaignCall) : kept call system.db := .nothing
  cases call with
  | research call now => exact .research
  | register plan =>
    refine run_spec (p := kept (.register plan)) (hrefl _) fun t _ ht => ?_
    rcases registerPlan_ok ht with rfl | ⟨row, hregisters⟩
    · exact hrefl _
    · exact .plan hregisters
  | captureSource capture =>
    exact run_spec (p := kept (.captureSource capture)) (hrefl _) fun _ _ ht => (journals_captureSource ht).leaves
  | claimNext campaignId =>
    refine run_spec (p := kept (.claimNext campaignId)) (hrefl _) fun t _ ht => ?_
    rcases claimNext_ok ht with ⟨-, rfl⟩ | ⟨claim, -, hclaims⟩
    · exact hrefl _
    · exact .claim hclaims
  | freezeBundle claim =>
    exact run_spec (p := kept (.freezeBundle claim)) (hrefl _) fun _ _ ht => (journals_freezeBundle ht).leaves
  | recordEvaluation claim bundle intent =>
    exact run_spec (p := kept (.recordEvaluation claim bundle intent)) (hrefl _)
      fun _ _ ht => (journals_recordCampaignEvaluation ht).leaves
  | recordCausalEvaluation claim bundle result =>
    exact run_spec (p := kept (.recordCausalEvaluation claim bundle result)) (hrefl _)
      fun _ _ ht => (journals_recordCausalEvaluation ht).leaves
  | recordCausalPair campaignId sampleId arm evaluationReceiptSha256 attemptId =>
    exact run_spec (p := kept (.recordCausalPair campaignId sampleId arm evaluationReceiptSha256 attemptId)) (hrefl _)
      fun _ _ ht => (journals_recordCausalPair ht).leaves
  | findAttempt attemptId choice => exact hrefl _
  | startAttempt attempt delivered =>
    exact run_spec (p := kept (.startAttempt attempt delivered)) (hrefl _)
      fun _ _ ht => (journals_startAttempt ht).leaves
  | finishAttempt terminal answer =>
    rw [CampaignCall.rows]
    split
    · exact run_spec (p := kept (.finishAttempt terminal answer)) (hrefl _)
        fun _ _ ht => (journals_finishAttempt ht).leaves
    · exact hrefl _
  | recordReview receipt answer =>
    rw [CampaignCall.rows]
    split
    · exact run_spec (p := kept (.recordReview receipt answer)) (hrefl _) fun _ _ ht => (journals_recordReview ht).leaves
    · exact hrefl _
  | recordCost cost =>
    exact run_spec (p := kept (.recordCost cost)) (hrefl _) fun _ _ ht => (journals_recordCost hlog ht).leaves
  | recordVerifiedSample sample =>
    exact run_spec (p := kept (.recordVerifiedSample sample)) (hrefl _)
      fun _ _ ht => (journals_recordVerifiedSample ht).leaves
  | recordOutcome outcome =>
    exact run_spec (p := kept (.recordOutcome outcome)) (hrefl _) fun _ _ ht => (journals_recordOutcome hlog ht).leaves
  | sealDenominator campaignId =>
    refine run_spec (p := kept (.sealDenominator campaignId)) (hrefl _) fun t _ ht => ?_
    rcases sealDenominator_ok ht with ⟨rfl, -⟩ | ⟨-, _, _, -, -, -, rfl⟩
    · exact hrefl _
    · exact .denominator

theorem CampaignCall.Leaves.journal {call : CampaignCall} (h : call.Leaves contracts dispatch s t)
    (hlog : JournalAccepted contracts s.receipts) : JournalAccepted contracts t.receipts ∧ s.receipts <:+ t.receipts := by
  cases h with
  | nothing => exact ⟨hlog, List.suffix_refl _⟩
  | row hwrites haccepted => exact ⟨AcceptedLogs.accepted_cons.mpr ⟨haccepted, hlog⟩, List.suffix_cons _ _⟩
  | research => exact ⟨hlog, List.suffix_refl _⟩
  | plan hregisters =>
    rw [hregisters.rows]
    exact ⟨hlog, List.suffix_refl _⟩
  | claim hclaims =>
    rw [hclaims.rows]
    exact ⟨hlog, List.suffix_refl _⟩
  | denominator => exact ⟨hlog, List.suffix_refl _⟩

theorem CampaignStep.journal {s t : CampaignSystem} (hlog : JournalAccepted contracts s.db.receipts)
    (hstep : CampaignStep contracts s t) : JournalAccepted contracts t.db.receipts ∧ s.db.receipts <:+ t.db.receipts := by
  obtain ⟨call, dispatch, rfl⟩ := hstep
  exact (call.leaves hlog dispatch).journal hlog

theorem CampaignCall.Leaves.receipts {call : CampaignCall} (h : call.Leaves contracts dispatch s t) :
    t.receipts = s.receipts ∨
      ∃ row, call.Writes row ∧ row.Accepted contracts s.receipts ∧ t.receipts = row :: s.receipts := by
  cases h with
  | nothing => exact Or.inl rfl
  | row hwrites haccepted => exact Or.inr ⟨_, hwrites, haccepted, rfl⟩
  | research => exact Or.inl rfl
  | plan hregisters => exact Or.inl (by rw [hregisters.rows])
  | claim hclaims => exact Or.inl (by rw [hclaims.rows])
  | denominator => exact Or.inl rfl

/-- What holds of the empty journal and of every row that a call writes holds of every journal. -/
theorem journal_invariant {meets : CampaignSystem → CampaignCall → Prop} {p : List ReceiptRow → Prop} (hnil : p [])
    (hrow : ∀ (s : CampaignSystem) (call : CampaignCall) (row : ReceiptRow), meets s call → call.Writes row →
      JournalAccepted contracts (row :: s.db.receipts) → p s.db.receipts → p (row :: s.db.receipts))
    {s : CampaignSystem} (h : MeetsReachable contracts meets s) : JournalAccepted contracts s.db.receipts ∧ p s.db.receipts := by
  apply @Runs.Reachable.invariant _ _ (fun s => JournalAccepted contracts s.db.receipts ∧ p s.db.receipts) _ _ h
  · rintro _ rfl
    exact ⟨.nil, hnil⟩
  · rintro s _ ⟨hlog, hp⟩ ⟨call, dispatch, hmeets, rfl⟩
    have hleaves := call.leaves hlog dispatch
    refine ⟨(hleaves.journal hlog).1, ?_⟩
    change p (call.rows contracts dispatch s).receipts
    rcases hleaves.receipts with heq | ⟨row, hwrites, haccepted, heq⟩
    · rw [heq]
      exact hp
    · rw [heq]
      exact hrow s call row hmeets hwrites (AcceptedLogs.accepted_cons.mpr ⟨haccepted, hlog⟩) hp

theorem journalAccepted_of_reachable {s : CampaignSystem} (h : CampaignReachable contracts s) :
    JournalAccepted contracts s.db.receipts := by
  apply @Runs.Reachable.invariant _ _ (fun s => JournalAccepted contracts s.db.receipts) _ _ h
  · rintro _ rfl
    exact .nil
  · exact fun _ _ hs hstep => (hstep.journal hs).1

end Calls

end KairosPersistence
