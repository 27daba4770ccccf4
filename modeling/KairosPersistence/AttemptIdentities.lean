import KairosPersistence.CampaignJournal

/-!
The STARTs of the campaigns by their attempt id, as `find_attempt` looks them up.
-/

namespace KairosPersistence

variable {contracts : CampaignContracts} {s : CampaignSystem} {rows : List ReceiptRow} {row : ReceiptRow}

/-- Each attempt id names one START, and `find_attempt` gives it. -/
def AttemptsResolved (db : CampaignDatabase) : Prop :=
  (∀ attemptId, (db.startsNamed attemptId).length ≤ 1) ∧
    ∀ row ∈ db.receipts, ∀ start, row.receipt = .start start →
      db.startsNamed start.attemptId = [row] ∧ ∃ terminal, findAttempt db start.attemptId row = .ok (start, terminal)

/-- The call admits no attempt whose id is that of a START of another arm. -/
def AvoidsNamed (s : CampaignSystem) : CampaignCall → Prop
  | .startAttempt attempt _ => ∀ row ∈ s.db.startsNamed attempt.attemptId,
      row.IsStartOf attempt.campaignId attempt.sampleId attempt.armId
  | _ => True

instance (s : CampaignSystem) : (call : CampaignCall) → Decidable (AvoidsNamed s call)
  | .startAttempt _ _ => inferInstanceAs (Decidable (∀ _ ∈ _, _))
  | .research _ _ | .register _ | .captureSource _ | .claimNext _ | .freezeBundle _ | .recordEvaluation _ _ _
  | .recordCausalEvaluation _ _ _ | .recordCausalPair _ _ _ _ _ | .findAttempt _ _ | .finishAttempt _ _
  | .recordReview _ _ | .recordCost _ | .recordVerifiedSample _ | .recordOutcome _ | .sealDenominator _ => .isTrue trivial

theorem startsNamed_eq (db : CampaignDatabase) (attemptId : String) :
    db.startsNamed attemptId = (startRows db.receipts).filter (·.slotKey = attemptId) := by
  rw [CampaignDatabase.startsNamed, startRows, List.filter_filter]
  apply List.filter_congr
  intro row _
  simp only [Bool.decide_and, Bool.and_comm]

section Steps

/-- The attempt ids of the STARTs are distinct. -/
def StartsNamedOnce (rows : List ReceiptRow) : Prop := ((startRows rows).map (·.slotKey)).Nodup

theorem StartsNamedOnce.cons {call : CampaignCall} (h : StartsNamedOnce s.db.receipts) (hmeets : AvoidsNamed s call)
    (hwrites : call.Writes row) (hrow : row.Accepted contracts s.db.receipts) :
    StartsNamedOnce (row :: s.db.receipts) := by
  unfold StartsNamedOnce startRows
  by_cases hkind : row.receipt.kind = .start
  · rw [List.filter_cons_of_pos (by simpa using hkind)]
    apply KeyedRows.nodup_cons h
    intro other hother hkey
    obtain ⟨hmem, hotherKind⟩ := List.mem_filter.mp hother
    obtain ⟨attempt, delivered, rfl, hreceipt⟩ := hwrites.start hkind
    have hslot := hrow.ownSlot _ (by rw [hreceipt]; rfl)
    simp only [ReceiptRow.slot, Slot.mk.injEq] at hslot
    obtain ⟨hcampaign, hsample, harm, -, hslotKey⟩ := hslot
    -- a START of that name is one of the same arm, which has none yet
    have hsame := hmeets other (List.mem_filter.mpr ⟨hmem, by simp_all⟩)
    refine hrow.oneStart hkind other hmem (by simpa using hotherKind) ?_
    rw [hsame.2, hcampaign, hsample, harm]
  · rw [List.filter_cons_of_neg (by simpa using hkind)]
    exact h

theorem decodeTerminal_of_row {db : CampaignDatabase} {campaignId sampleId attemptId : String} {arm : SlotArm}
    (h : db.row? ⟨campaignId, sampleId, arm, .terminal, attemptId⟩ = some row) :
    ∃ terminal, decodeTerminal row = .ok terminal := by
  obtain ⟨-, hslot⟩ := row?_mem h
  have hkind : row.receipt.kind = .terminal := congrArg Slot.kind hslot
  unfold decodeTerminal
  cases hreceipt : row.receipt with
  | terminal terminal => exact ⟨terminal, rfl⟩
  | _ => simp [hreceipt, CampaignReceipt.kind] at hkind

/-- A START is decoded with the terminal of its attempt. -/
theorem findAttempt_of_start (db : CampaignDatabase) {start : AttemptStart} (hreceipt : row.receipt = .start start)
    (attemptId : String) : ∃ terminal, findAttempt db attemptId row = .ok (start, terminal) := by
  have hdecode : decodeStart row = .ok start := by rw [decodeStart, hreceipt]
  rw [findAttempt, hdecode, Transactions.ok_bind]
  cases hrow : db.row? ⟨start.campaignId, start.sampleId, some start.armId, .terminal, attemptId⟩ with
  | none => exact ⟨none, rfl⟩
  | some terminalRow =>
    obtain ⟨terminal, hterminal⟩ := decodeTerminal_of_row hrow
    rw [decodeRow?, hterminal]
    exact ⟨some terminal, rfl⟩

end Steps

theorem attempts_resolved (h : MeetsReachable contracts AvoidsNamed s) : AttemptsResolved s.db := by
  obtain ⟨hlog, hnames⟩ : JournalAccepted contracts s.db.receipts ∧ StartsNamedOnce s.db.receipts := by
    apply journal_invariant _ _ h
    · exact List.nodup_nil
    · intro s call row hmeets hwrites hlog hnames
      exact hnames.cons hmeets hwrites (AcceptedLogs.accepted_cons.mp hlog).1
  have hone : ∀ row ∈ startRows s.db.receipts, s.db.startsNamed row.slotKey = [row] := by
    intro row hrow
    rw [startsNamed_eq]
    exact KeyedRows.filter_eq_singleton hnames hrow
  constructor
  · intro attemptId
    cases hrows : s.db.startsNamed attemptId with
    | nil => exact Nat.zero_le _
    | cons row rest =>
      have hmem : row ∈ (startRows s.db.receipts).filter (·.slotKey = attemptId) := by
        rw [← startsNamed_eq, hrows]
        exact List.mem_cons_self
      obtain ⟨hrow, hkey⟩ := List.mem_filter.mp hmem
      have hkey : row.slotKey = attemptId := by simpa using hkey
      rw [← hrows, ← hkey, hone row hrow]
      exact Nat.le_refl 1
  · intro row hrow start hreceipt
    refine ⟨?_, findAttempt_of_start s.db hreceipt start.attemptId⟩
    obtain ⟨older, -, haccepted⟩ := hlog.exists_older hrow
    have hslot := haccepted.ownSlot _ (by rw [hreceipt]; rfl)
    simp only [ReceiptRow.slot, Slot.mk.injEq] at hslot
    rw [← hslot.2.2.2.2]
    exact hone row (List.mem_filter.mpr ⟨hrow, by rw [hreceipt]; rfl⟩)

section Example

/-- Two arms with attempts of their own. -/
def exampleNamedCalls : List (CampaignCall × Dispatch) :=
  exampleFrozenCalls ++ [(.startAttempt (exampleAttempt .strategyReview "attempt-1") true, atMs 1200),
    (.startAttempt (exampleAttempt .llmProposalResearch "attempt-2") true, atMs 1200)]

theorem attempts_resolved_example :
    AttemptsResolved (runCampaignCalls exampleCampaignContracts exampleNamedCalls .empty).db :=
  attempts_resolved (RunMeets.reachable exampleCampaignContracts AvoidsNamed (by decide +kernel))

/-- Two arms with one attempt id. -/
def exampleSharedCalls : List (CampaignCall × Dispatch) :=
  exampleFrozenCalls ++ [(.startAttempt (exampleAttempt .strategyReview "attempt-1") true, atMs 1200),
    (.startAttempt (exampleAttempt .llmProposalResearch "attempt-1") true, atMs 1200)]

theorem attempt_named_twice : ∃ s, CampaignReachable exampleCampaignContracts s ∧ ¬AttemptsResolved s.db := by
  refine ⟨_, runCampaignCalls_reachable exampleCampaignContracts exampleSharedCalls, fun h => ?_⟩
  have htwo : ((runCampaignCalls exampleCampaignContracts exampleSharedCalls .empty).db.startsNamed "attempt-1").length =
      2 := by
    decide +kernel
  have hle := h.1 "attempt-1"
  omega

end Example

end KairosPersistence
