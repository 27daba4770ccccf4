import KairosPersistence.AttemptCompletions
import KairosPersistence.CampaignArms

/-!
The outcome of an arm against its attempt: which status is accepted, and what
is stored when it is.
-/

namespace KairosPersistence

open Relation
open Transactions (bind_ok require require_ok require_pos found_ok ok_bind)

variable {contracts : CampaignContracts} {s t : CampaignDatabase} {scheduler : Option String} {clock now : ℕ}
  {start : AttemptStart} {row done : ReceiptRow} {outcome : ArmOutcome} {causal stored : Bool}
  {window : ObservationWindow} {completion : AttemptCompletion} {campaignId sampleId : String}

section Definitions

/-- The arm of a sample that an outcome is of. -/
def ArmOutcome.key (outcome : ArmOutcome) : String × String × ResearchArm :=
  (outcome.campaignId, outcome.sampleId, outcome.armId)

def ArmOutcome.slot (outcome : ArmOutcome) : Slot :=
  ⟨outcome.campaignId, outcome.sampleId, some outcome.armId, .outcome, "one"⟩

/-- A window of a frozen campaign. -/
def CampaignDatabase.HasWindow (contracts : CampaignContracts) (s : CampaignDatabase) (campaignId sampleId : String)
    (window : ObservationWindow) : Prop :=
  ∃ scheduler context, campaignContext contracts scheduler s campaignId = .ok context ∧
    context.schedule.window? sampleId = some window

/-- A completion of the arm of an outcome is stored. -/
structure ArmOutcome.Completed (outcome : ArmOutcome) (s : CampaignDatabase) (row : ReceiptRow)
    (completion : AttemptCompletion) : Prop where
  stored : row ∈ s.receipts
  receipt : row.receipt = completion.receipt
  arm : (row.campaignId, row.sampleId, row.arm) = (outcome.campaignId, outcome.sampleId, some outcome.armId)

/-- What is stored when an outcome is recorded. The family of the sample says how a recording time is rounded. -/
structure ArmOutcome.Sound (outcome : ArmOutcome) (s : CampaignDatabase) (causal : Bool) (window : ObservationWindow) :
    Prop where
  timely : outcome.status ∈ [.allow, .veto, .defer, .proposal, .callFailed] → ∃ row completion,
    outcome.Completed s row completion ∧ completion.status = outcome.status ∧
      completion.observedAtTsMs ≤ window.pairedAtTsMs ∧ row.recordedAtTsMs causal ≤ window.pairedAtTsMs
  late : outcome.status = .late →
    (∃ row completion, outcome.Completed s row completion ∧ completion.status ≠ .unknown ∧
      LateCompletion causal window row completion) ∨
    (∀ row ∈ s.receipts, ¬row.IsStartOf outcome.campaignId outcome.sampleId outcome.armId) ∧
      ∃ row evaluation, storedEvaluation s outcome.campaignId outcome.sampleId = .ok (some (row, evaluation)) ∧
        LateEvaluation window row evaluation
  unknown : outcome.status = .unknown → ∀ row completion, outcome.Completed s row completion →
    completion.status = .unknown

end Definitions

section Operation

theorem decodeOutcome_ok (h : decodeOutcome row = .ok outcome) : row.receipt = .outcome outcome := by
  unfold decodeOutcome at h
  split at h
  · rename_i heq
    rw [heq, Except.ok.inj h]
  · cases h

/-- An outcome is the stored one, or it is decided and stored. -/
theorem recordOutcome_cases (h : recordOutcome contracts scheduler outcome clock s = .ok (t, stored)) :
    ∃ context, campaignContext contracts scheduler s outcome.campaignId = .ok context ∧
      ∃ causal, guardCausalEvaluation scheduler s context.planRow.plan outcome.campaignId outcome.sampleId = .ok causal ∧
      ∃ window, context.schedule.window? outcome.sampleId = some window ∧
        (stored = false ∧ t = s ∧ (∃ row, s.row? outcome.slot = some row ∧ row.receipt = .outcome outcome) ∨
          stored = true ∧ s.row? outcome.slot = none ∧
            (∃ bundle evaluation decision, storedEvaluation s outcome.campaignId outcome.sampleId = .ok evaluation ∧
              outcomeDecision s outcome causal window (clockMs scheduler clock) bundle evaluation = .ok decision) ∧
            Stores s (receiptRow contracts outcome.campaignId outcome.sampleId (some outcome.armId) "one"
              (.outcome outcome) clock) t) := by
  obtain ⟨_, -, h⟩ := bind_ok h
  obtain ⟨_, -, h⟩ := bind_ok h
  obtain ⟨context, hcontext, h⟩ := bind_ok h
  obtain ⟨causal, hcausal, h⟩ := bind_ok h
  obtain ⟨window, hwindow, h⟩ := bind_ok h
  refine ⟨context, hcontext, causal, hcausal, window, found_ok hwindow, ?_⟩
  split at h
  · rename_i old hold
    obtain ⟨saved, hdecode, h⟩ := bind_ok h
    obtain ⟨_, hsame, h⟩ := bind_ok h
    obtain ⟨rfl, rfl⟩ := Prod.mk.inj (Except.ok.inj h)
    refine Or.inl ⟨rfl, rfl, old, hold, ?_⟩
    rw [← require_ok hsame]
    exact decodeOutcome_ok hdecode
  · rename_i hnone
    obtain ⟨_, -, h⟩ := bind_ok h
    obtain ⟨bundle, -, h⟩ := bind_ok h
    obtain ⟨evaluation, hevaluation, h⟩ := bind_ok h
    obtain ⟨_, -, h⟩ := bind_ok h
    obtain ⟨_, -, h⟩ := bind_ok h
    obtain ⟨decision, hdecision, h⟩ := bind_ok h
    obtain ⟨_, -, h⟩ := bind_ok h
    obtain ⟨_, -, h⟩ := bind_ok h
    obtain ⟨_, -, h⟩ := bind_ok h
    obtain ⟨rfl, hstores⟩ := storeReceipt_new hnone h
    exact Or.inr ⟨rfl, hnone, ⟨bundle, evaluation, decision, hevaluation, hdecision⟩, hstores⟩

/-- The guard says whether the evaluation of the sample is causal. -/
theorem guardCausalEvaluation_causal {plan : CampaignPlan}
    (h : guardCausalEvaluation scheduler s plan campaignId sampleId = .ok causal) :
    causal = true ↔ s.Causal campaignId sampleId := by
  obtain ⟨evaluation, hevaluation, h⟩ := bind_ok h
  split at h
  · rename_i row receipt
    obtain ⟨hrow, hdecode⟩ := storedEvaluation_ok hevaluation
    obtain ⟨_, -, h⟩ := bind_ok h
    cases h
    simp only [true_iff]
    exact ⟨row, hrow, receipt, decodeEvaluation_causal hdecode⟩
  · rename_i hother
    cases h
    simp only [Bool.false_eq_true, false_iff]
    rintro ⟨row, hrow, receipt, hreceipt⟩
    have hdecode : decodeEvaluation row = .ok (.causal receipt) := by rw [decodeEvaluation, hreceipt]
    rw [storedEvaluation, hrow] at hevaluation
    dsimp only at hevaluation
    rw [hdecode] at hevaluation
    exact hother row receipt (Except.ok.inj hevaluation).symm

theorem loadCompletion_some (h : loadCompletion s start outcome = .ok (some (row, completion))) :
    outcome.Completed s row completion := by
  unfold loadCompletion at h
  dsimp only at h
  split at h
  · cases h
  · rename_i row' hrow _
    obtain ⟨terminal, hdecode, h⟩ := bind_ok h
    obtain ⟨rfl, rfl⟩ := Prod.mk.inj (Option.some.inj (Except.ok.inj h))
    obtain ⟨hmem, hslot⟩ := row?_mem hrow
    simp only [ReceiptRow.slot, Slot.mk.injEq] at hslot
    exact ⟨hmem, decodeTerminal_ok hdecode, by rw [hslot.1, hslot.2.1, hslot.2.2.1]⟩
  · rename_i row' _ hrow
    obtain ⟨review, hdecode, h⟩ := bind_ok h
    obtain ⟨rfl, rfl⟩ := Prod.mk.inj (Option.some.inj (Except.ok.inj h))
    obtain ⟨hmem, hslot⟩ := row?_mem hrow
    simp only [ReceiptRow.slot, Slot.mk.injEq] at hslot
    exact ⟨hmem, decodeReview_ok hdecode, by rw [hslot.1, hslot.2.1, hslot.2.2.1]⟩
  · cases h

theorem decodeReview_of_row {arm : SlotArm} {attemptId : String}
    (h : s.row? ⟨campaignId, sampleId, arm, .review, attemptId⟩ = some row) : ∃ receipt, decodeReview row = .ok receipt := by
  have hkind : row.receipt.kind = .review := congrArg Slot.kind (row?_mem h).2
  unfold decodeReview
  cases hreceipt : row.receipt with
  | review receipt => exact ⟨receipt, rfl⟩
  | _ => simp [hreceipt, CampaignReceipt.kind] at hkind

theorem loadCompletion_none (h : loadCompletion s start outcome = .ok none) :
    s.row? ⟨outcome.campaignId, outcome.sampleId, some outcome.armId, .terminal, start.attemptId⟩ = none ∧
      s.row? ⟨outcome.campaignId, outcome.sampleId, some outcome.armId, .review, start.attemptId⟩ = none := by
  unfold loadCompletion at h
  dsimp only at h
  split at h
  · rename_i hterminal hreview
    exact ⟨hterminal, hreview⟩
  · obtain ⟨_, -, h⟩ := bind_ok h
    cases h
  · obtain ⟨_, -, h⟩ := bind_ok h
    cases h
  · cases h

end Operation

section Decision

/-- A status of a completed attempt is that of its completion, in time or late. -/
theorem admittedStatus_cases {answer : Option (ReceiptRow × AttemptCompletion)} :
    (admittedStatus causal window answer = .unknown ∧
      (answer = none ∨ ∃ row completion, answer = some (row, completion) ∧ completion.status = .unknown)) ∨
    ∃ row completion, answer = some (row, completion) ∧ completion.status ≠ .unknown ∧
      (LateCompletion causal window row completion ∧ admittedStatus causal window answer = .late ∨
        ¬LateCompletion causal window row completion ∧ admittedStatus causal window answer = completion.status) := by
  cases answer with
  | none => exact Or.inl ⟨rfl, Or.inl rfl⟩
  | some answer =>
    obtain ⟨row, completion⟩ := answer
    by_cases hunknown : completion.status = .unknown
    · left
      refine ⟨?_, Or.inr ⟨row, completion, rfl, hunknown⟩⟩
      rw [admittedStatus, if_pos hunknown]
    · right
      refine ⟨row, completion, rfl, hunknown, ?_⟩
      by_cases hlate : LateCompletion causal window row completion
      · exact Or.inl ⟨hlate, by rw [admittedStatus, if_neg hunknown, if_pos hlate]⟩
      · exact Or.inr ⟨hlate, by rw [admittedStatus, if_neg hunknown, if_neg hlate]⟩

theorem AttemptCompletion.isCompletion (completion : AttemptCompletion) : completion.receipt.IsCompletion := by
  cases completion with
  | review => exact Or.inr rfl
  | terminal => exact Or.inl rfl

theorem AttemptCompletion.receipt_inj {a b : AttemptCompletion} (h : a.receipt = b.receipt) : a = b := by
  cases a <;> cases b <;> cases h <;> rfl

theorem AttemptCompletion.status_ne_late (completion : AttemptCompletion) : completion.status ≠ .late := by
  cases completion with
  | review receipt =>
    rw [AttemptCompletion.status]
    cases receipt.output.action <;> simp [ReviewAction.status]
  | terminal receipt =>
    rw [AttemptCompletion.status]
    cases receipt.terminalStatus <;> simp

/-- Without a START no outcome is timely; it is late with its evaluation. -/
theorem noCallOutcome_ok {bundle : Option CausalBundle} {evaluation : Option (ReceiptRow × CampaignEvaluation)}
    (h : noCallOutcome s outcome window now bundle evaluation = .ok ()) :
    outcome.status ∉ [OutcomeStatus.allow, .veto, .defer, .proposal, .callFailed] ∧ (outcome.status = .late →
      ∃ row stored, evaluation = some (row, stored) ∧ LateEvaluation window row stored) := by
  have hundecided : ∀ evaluated, undecidedOutcome s outcome window now bundle evaluated = .ok () →
      outcome.status ∈ [OutcomeStatus.unknown, .sourceMissing, .evaluatorFailed, .missed, .budgetBlocked] := by
    intro evaluated h
    obtain ⟨_, hstatus, -⟩ := bind_ok h
    unfold undecidedStatus at hstatus
    split_ifs at hstatus with hunknown
    · rw [hunknown]
      simp
    · exact List.mem_cons_of_mem _ (require_ok hstatus)
  have hneither : ∀ {statuses : List OutcomeStatus}, outcome.status ∈ statuses →
      (∀ status ∈ statuses, status ∉ [OutcomeStatus.allow, .veto, .defer, .proposal, .callFailed] ∧ status ≠ .late) →
      outcome.status ∉ [OutcomeStatus.allow, .veto, .defer, .proposal, .callFailed] ∧ (outcome.status = .late →
        ∃ row stored, evaluation = some (row, stored) ∧ LateEvaluation window row stored) := by
    intro statuses hstatus hall
    exact ⟨(hall _ hstatus).1, fun hlate => absurd hlate (hall _ hstatus).2⟩
  unfold noCallOutcome at h
  split at h
  · exact hneither (hundecided _ h) (by decide)
  · rename_i row stored
    split_ifs at h with hlate
    · have hstatus := require_ok h
      rw [hstatus]
      exact ⟨by decide, fun _ => ⟨row, stored, rfl, hlate⟩⟩
    · exact hneither (List.mem_singleton.mpr (require_ok h)) (by decide)
    · exact hneither (List.mem_singleton.mpr (require_ok h)) (by decide)
    · exact hneither (List.mem_singleton.mpr (require_ok h)) (by decide)
    · exact hneither (hundecided _ h) (by decide)

end Decision

section Soundness

variable {system : CampaignSystem} (hattempted : Attempted contracts system)
  (hlog : JournalAccepted contracts system.db.receipts)
include hattempted hlog

/-- A completion of an arm is of its START, which has it in its slot. -/
theorem ArmOutcome.Completed.admitted (h : outcome.Completed system.db row completion) :
    ∃ other ∈ system.db.receipts, ∃ start, other.receipt = .start start ∧
      other.IsStartOf outcome.campaignId outcome.sampleId outcome.armId ∧
      row.slot = start.slotAt row.receipt.kind ∧ row.Completes other := by
  obtain ⟨older, hsuffix⟩ := AcceptedLogs.exists_older h.stored
  have hcompletion : row.receipt.IsCompletion := h.receipt ▸ completion.isCompletion
  obtain ⟨start, hends⟩ := hattempted.founded row older hsuffix hcompletion
  obtain ⟨other, hother, hstart⟩ := hends.admitted
  have hmem : other ∈ system.db.receipts := hsuffix.subset (List.mem_cons_of_mem _ hother)
  have hcompletes := completes_of_slot hlog hmem hstart hcompletion hends.slot
  have hslot := hends.slot
  have hslot' := start_slot hlog hmem hstart
  have harm := h.arm
  simp only [ReceiptRow.slot, AttemptStart.slotAt, Slot.mk.injEq, Prod.mk.injEq] at hslot hslot' harm
  refine ⟨other, hmem, start, hstart, ⟨by rw [hstart]; rfl, ?_⟩, hends.slot, hcompletes⟩
  rw [hslot'.1, hslot'.2.1, hslot'.2.2.1, ← hslot.1, ← hslot.2.1, ← hslot.2.2.1, harm.1, harm.2.1, harm.2.2]

/-- A completion of the arm is the one that is loaded of its START. -/
theorem ArmOutcome.Completed.loaded (h : outcome.Completed system.db row completion)
    (hrow : system.db.startOf? outcome.campaignId outcome.sampleId outcome.armId = some done)
    (hstart : done.receipt = .start start) {answer : Option (ReceiptRow × AttemptCompletion)}
    (hload : loadCompletion system.db start outcome = .ok answer) : answer = some (row, completion) := by
  obtain ⟨other, hother, start', hstart', his, hslot, hcompletes⟩ := h.admitted hattempted hlog
  obtain rfl : other = done := Option.some.inj ((startOf?_eq_some hlog hother his).symm.trans hrow)
  obtain rfl : start' = start := CampaignReceipt.start.inj (hstart'.symm.trans hstart)
  cases answer with
  | none =>
    obtain ⟨hterminal, hreview⟩ := loadCompletion_none hload
    have hstored : system.db.row? row.slot = some row := KeyedRows.find?_eq (slots_nodup hlog) h.stored
    have harm := h.arm
    have hkey : row.slotKey = start'.attemptId := congrArg Slot.slotKey hslot
    simp only [Prod.mk.injEq] at harm
    rw [ReceiptRow.slot, harm.1, harm.2.1, harm.2.2, hkey] at hstored
    rcases hcompletes.1 with hkind | hkind
    · rw [hkind, hterminal] at hstored
      cases hstored
    · rw [hkind, hreview] at hstored
      cases hstored
  | some answer =>
    obtain ⟨row', completion'⟩ := answer
    have hloaded := loadCompletion_some hload
    obtain ⟨other', hother', -, -, his', -, hcompletes'⟩ := hloaded.admitted hattempted hlog
    obtain rfl : other' = other := Option.some.inj ((startOf?_eq_some hlog hother' his').symm.trans hrow)
    obtain rfl := completion_unique hattempted hlog hother' hstart' hloaded.stored hcompletes' h.stored hcompletes
    rw [AttemptCompletion.receipt_inj (hloaded.receipt.symm.trans h.receipt)]

/-- What is stored when a new outcome is recorded. -/
theorem recordOutcome_sound (h : recordOutcome contracts scheduler outcome clock system.db = .ok (t, true)) :
    ∃ causal window, (causal = true ↔ system.db.Causal outcome.campaignId outcome.sampleId) ∧
      system.db.HasWindow contracts outcome.campaignId outcome.sampleId window ∧
      outcome.Sound system.db causal window := by
  obtain ⟨context, hcontext, causal, hcausal, window, hwindow, hcases⟩ := recordOutcome_cases h
  obtain ⟨hfalse, -⟩ | ⟨-, -, ⟨bundle, evaluation, decision, hevaluation, hdecision⟩, -⟩ := hcases
  · cases hfalse
  refine ⟨causal, window, guardCausalEvaluation_causal hcausal, ⟨scheduler, context, hcontext, hwindow⟩, ?_⟩
  unfold outcomeDecision at hdecision
  split at hdecision
  · rename_i row hrow
    obtain ⟨start, hstart, hdecision⟩ := bind_ok hdecision
    obtain ⟨_, -, hdecision⟩ := bind_ok hdecision
    obtain ⟨answer, hload, hdecision⟩ := bind_ok hdecision
    obtain ⟨_, hstatus, -⟩ := bind_ok hdecision
    have hstatus := require_ok hstatus
    rcases @admittedStatus_cases causal window answer with
      ⟨hunknown, hanswer⟩ | ⟨done, completion, rfl, hresolved, hcases⟩
    · rw [hunknown] at hstatus
      constructor
      · simp [hstatus]
      · simp [hstatus]
      · intro _ done completion hcompleted
        have hloaded := hcompleted.loaded hattempted hlog hrow (decodeStart_ok hstart) hload
        rcases hanswer with hnone | ⟨done', completion', hsome, hunresolved⟩
        · rw [hnone] at hloaded
          cases hloaded
        · rw [hsome] at hloaded
          obtain ⟨rfl, rfl⟩ := Prod.mk.inj (Option.some.inj hloaded)
          exact hunresolved
    · have hcompleted := loadCompletion_some hload
      rcases hcases with ⟨hlate, hexpected⟩ | ⟨htimely, hexpected⟩
      · rw [hexpected] at hstatus
        constructor
        · simp [hstatus]
        · exact fun _ => Or.inl ⟨done, completion, hcompleted, hresolved, hlate⟩
        · simp [hstatus]
      · rw [hexpected] at hstatus
        simp only [LateCompletion, not_or, not_lt] at htimely
        constructor
        · exact fun _ => ⟨done, completion, hcompleted, hstatus.symm, htimely.1, htimely.2⟩
        · exact fun hlate => absurd (hstatus.symm.trans hlate) completion.status_ne_late
        · exact fun hunknown => absurd (hstatus.symm.trans hunknown) hresolved
  · rename_i hnone
    have hnone := startOf?_eq_none.mp hnone
    obtain ⟨_, -, hdecision⟩ := bind_ok hdecision
    obtain ⟨_, hnoCall, -⟩ := bind_ok hdecision
    obtain ⟨htimely, hlate⟩ := noCallOutcome_ok hnoCall
    constructor
    · exact fun hstatus => absurd hstatus htimely
    · intro hstatus
      obtain ⟨row, stored, rfl, hevaluated⟩ := hlate hstatus
      exact Or.inr ⟨hnone, row, stored, hevaluation, hevaluated⟩
    · intro _ row completion hcompleted
      obtain ⟨other, hother, -, -, his, -⟩ := hcompleted.admitted hattempted hlog
      exact absurd his (hnone other hother)

end Soundness

end KairosPersistence
