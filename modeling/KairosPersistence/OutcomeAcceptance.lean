import KairosPersistence.OutcomeSoundness

/-!
The one outcome of an admitted attempt that is accepted, as long as its arm has
none, and the calls that keep it so.
-/

namespace KairosPersistence

open Relation
open Transactions (bind_ok require require_ok require_pos found_ok found_some ok_bind)

variable {contracts : CampaignContracts} {s t : CampaignDatabase} {scheduler : Option String} {clock recorded : ℕ}
  {start : AttemptStart} {row : ReceiptRow} {outcome : ArmOutcome} {campaignId sampleId : String}

section Invariants

/-- A stored causal evaluation is verified when it is read again. -/
def CausalEvaluation.Verified (contracts : CampaignContracts) (s : CampaignDatabase) (evaluation : CausalEvaluation) :
    Prop :=
  ∃ scheduler claim bundle context, loadClaim s evaluation.campaignId evaluation.sampleId = .ok claim ∧
    loadBundle s evaluation.campaignId evaluation.sampleId = .ok bundle ∧
    campaignContext contracts scheduler s evaluation.campaignId = .ok context ∧
    verifyStoredCausal contracts scheduler s claim bundle context (.causal evaluation) = .ok ()

/-- A denominator is of a campaign with every outcome. -/
def DenominatorRow.Complete (contracts : CampaignContracts) (s : CampaignDatabase) (row : DenominatorRow) : Prop :=
  ∃ scheduler context, campaignContext contracts scheduler s row.receipt.campaignId = .ok context ∧
    ∀ window ∈ context.schedule.windows, ∀ arm, ∃ outcome ∈ outcomesOf s.receipts row.receipt.campaignId,
      (outcome.sampleId, outcome.armId) = (window.sampleId, arm)

/-- What an outcome needs of the database, besides its attempt. -/
structure Recordable (contracts : CampaignContracts) (s : CampaignDatabase) : Prop where
  verified : ∀ row ∈ s.receipts, ∀ evaluation, row.receipt = .causalEvaluation evaluation → evaluation.Verified contracts s
  complete : ∀ row ∈ s.denominators, row.Complete contracts s
  planned : ∀ plan ∈ s.plans, plan.registrationTxid < s.research.txid
  claimed : ∀ row ∈ s.receipts, ∀ outcome, row.receipt = .outcome outcome →
    ∃ claim, loadClaim s outcome.campaignId outcome.sampleId = .ok claim ∧ claim.claimId = outcome.claimId

theorem CausalEvaluation.Verified.mono {evaluation : CausalEvaluation} (h : evaluation.Verified contracts s)
    (hreads : s.ReadsIn contracts t) : evaluation.Verified contracts t := by
  obtain ⟨scheduler, claim, bundle, context, hclaim, hbundle, hcontext, hverify⟩ := h
  refine ⟨scheduler, claim, bundle, context, hreads.loadClaim hclaim, hreads.loadBundle hbundle, ?_, ?_⟩
  · exact hreads.context _ _ _ hcontext
  · exact hreads.verifyStoredCausal hverify

theorem DenominatorRow.Complete.mono {row : DenominatorRow} (h : row.Complete contracts s)
    (hreads : s.ReadsIn contracts t) : row.Complete contracts t := by
  obtain ⟨scheduler, context, hcontext, hall⟩ := h
  refine ⟨scheduler, context, hreads.context _ _ _ hcontext, ?_⟩
  intro window hwindow arm
  obtain ⟨outcome, houtcome, hkey⟩ := hall window hwindow arm
  obtain ⟨other, hother, hcampaign, hreceipt⟩ := mem_outcomesOf.mp houtcome
  exact ⟨outcome, mem_outcomesOf.mpr ⟨other, hreads.journal.subset hother, hcampaign, hreceipt⟩, hkey⟩

/-- A causal evaluation that is recorded is verified by its own context. -/
theorem recordCausalEvaluation_verified {claim : WindowClaim} {bundle : CausalBundle} {result : CausalBaselineResult}
    {receipt : CausalEvaluation}
    (h : recordCausalEvaluation contracts scheduler claim bundle result clock recorded s = .ok (t, receipt)) :
    t = s ∨ receipt.Verified contracts s := by
  obtain ⟨context, hclaimed, h⟩ := bind_ok h
  obtain ⟨_, hplan, h⟩ := bind_ok h
  obtain ⟨_, hbundle, h⟩ := bind_ok h
  obtain ⟨⟨descriptor, sources, market⟩, hread, h⟩ := bind_ok h
  obtain ⟨_, -, h⟩ := bind_ok h
  split at h
  · left
    obtain ⟨evaluation, -, h⟩ := bind_ok h
    cases evaluation with
    | core _ => cases h
    | causal saved =>
      obtain ⟨_, -, h⟩ := bind_ok h
      obtain ⟨_, -, h⟩ := bind_ok h
      exact (Prod.mk.inj (Except.ok.inj h)).1.symm
  · right
    obtain ⟨window, hwindow, h⟩ := bind_ok h
    obtain ⟨_, -, h⟩ := bind_ok h
    obtain ⟨⟨u, stored⟩, -, h⟩ := bind_ok h
    obtain ⟨rfl, rfl⟩ := Prod.mk.inj (Except.ok.inj h)
    obtain ⟨_, -, hclaimed⟩ := bind_ok hclaimed
    obtain ⟨context', hcontext, hclaimed⟩ := bind_ok hclaimed
    obtain ⟨stored', hclaim, hclaimed⟩ := bind_ok hclaimed
    obtain ⟨_, hsame, hclaimed⟩ := bind_ok hclaimed
    obtain rfl : context' = context := Except.ok.inj hclaimed
    obtain ⟨saved, hsaved, hbundle⟩ := bind_ok hbundle
    obtain ⟨_, -, hbundle⟩ := bind_ok hbundle
    refine ⟨scheduler, claim, bundle, context', ?_, ?_, hcontext, ?_⟩
    · exact (require_ok hsame) ▸ hclaim
    · exact (require_ok hbundle) ▸ hsaved
    · rw [verifyStoredCausal, hplan, ok_bind, hread, ok_bind]
      obtain ⟨window', hwindow', hread⟩ := bind_ok hread
      obtain ⟨_, hidentity, hread⟩ := bind_ok hread
      obtain ⟨_, -, hread⟩ := bind_ok hread
      obtain ⟨_, -, hread⟩ := bind_ok hread
      obtain ⟨_, -, hread⟩ := bind_ok hread
      obtain ⟨market', -, hread⟩ := bind_ok hread
      obtain ⟨descriptor', -, hread⟩ := bind_ok hread
      obtain ⟨_, hdescriptor, hread⟩ := bind_ok hread
      obtain ⟨rfl, -, rfl⟩ : descriptor' = descriptor ∧ _ ∧ market' = market := by simpa using Except.ok.inj hread
      have hidentity := require_ok hidentity
      simp only [Prod.mk.injEq] at hidentity
      obtain ⟨hcampaign, hsample, -⟩ := hidentity
      dsimp only
      rw [sameCausalEvaluation, hsample, hwindow, ok_bind]
      apply require_pos
      have hsymbol := (require_ok hdescriptor).1
      obtain rfl : window' = window := Except.ok.inj (hwindow'.symm.trans hwindow)
      exact ⟨hcampaign.symm, rfl, rfl, rfl, rfl, rfl, hsymbol.symm, rfl, rfl, rfl, rfl, rfl, rfl, rfl, rfl, rfl⟩

/-- A denominator is sealed of a campaign whose outcomes are all there. -/
theorem sealDenominator_complete {receipt : DenominatorReceipt}
    (h : sealDenominator contracts scheduler campaignId s = .ok (t, receipt)) :
    t = s ∨ ∃ row, t = { s with denominators := row :: s.denominators } ∧ row.Complete contracts s := by
  obtain ⟨context, hcontext, h⟩ := bind_ok h
  obtain ⟨_, hall, h⟩ := bind_ok h
  obtain ⟨-, hid, -⟩ := campaignContext_ok hcontext
  split at h
  · obtain ⟨_, -, h⟩ := bind_ok h
    exact Or.inl (Prod.mk.inj (Except.ok.inj h)).1.symm
  · right
    obtain ⟨u, hinsert, h⟩ := bind_ok h
    obtain ⟨rfl, -⟩ := Prod.mk.inj (Except.ok.inj h)
    obtain ⟨_, -, hinsert⟩ := bind_ok hinsert
    obtain ⟨_, -, hinsert⟩ := bind_ok hinsert
    obtain ⟨_, -, hinsert⟩ := bind_ok hinsert
    refine ⟨_, (Except.ok.inj hinsert).symm, scheduler, context, ?_, ?_⟩
    · change campaignContext contracts scheduler s context.planRow.plan.campaignId = _
      rw [hid]
      exact hcontext
    · intro window hwindow arm
      change ∃ outcome ∈ outcomesOf s.receipts context.planRow.plan.campaignId, _
      rw [hid]
      have hexpected : (window.sampleId, arm) ∈ context.schedule.windows.flatMap fun window =>
          researchArms.map fun arm => (window.sampleId, arm) := by
        apply List.mem_flatMap.mpr ⟨window, hwindow, _⟩
        apply List.mem_map.mpr ⟨arm, _, rfl⟩
        cases arm <;> decide
      exact List.mem_map.mp ((require_ok hall).2.1 _ hexpected)

/-- A plan is registered by a transaction of its own. -/
theorem registerPlan_txid {plan : CampaignPlan} {registered : Bool}
    (h : registerPlan contracts scheduler plan clock s = .ok (t, registered)) :
    t = s ∨ ∃ row, t = { s with plans := row :: s.plans } ∧ row.registrationTxid = s.research.txid := by
  obtain ⟨_, -, h⟩ := bind_ok h
  obtain ⟨⟨schedule, protocol⟩, -, h⟩ := bind_ok h
  obtain ⟨_, -, h⟩ := bind_ok h
  split at h
  · obtain ⟨_, -, h⟩ := bind_ok h
    exact Or.inl (Prod.mk.inj (Except.ok.inj h)).1.symm
  · right
    obtain ⟨_, -, h⟩ := bind_ok h
    obtain ⟨u, hinsert, h⟩ := bind_ok h
    obtain ⟨rfl, -⟩ := Prod.mk.inj (Except.ok.inj h)
    obtain ⟨_, -, hinsert⟩ := bind_ok hinsert
    obtain ⟨_, -, hinsert⟩ := bind_ok hinsert
    obtain ⟨_, -, hinsert⟩ := bind_ok hinsert
    obtain ⟨_, -, hinsert⟩ := bind_ok hinsert
    exact ⟨_, (Except.ok.inj hinsert).symm, rfl⟩

variable {system next : CampaignSystem} {call : CampaignCall} {dispatch : Dispatch}

theorem CampaignCall.Leaves.denominators (h : call.Leaves contracts dispatch s t) :
    t.denominators = s.denominators ∨ ∃ campaignId, call = .sealDenominator campaignId := by
  cases h with
  | nothing => exact Or.inl rfl
  | row => exact Or.inl rfl
  | research => exact Or.inl rfl
  | plan hregisters => exact Or.inl (by rw [hregisters.rows])
  | claim hclaims => exact Or.inl (by rw [hclaims.rows])
  | denominator => exact Or.inr ⟨_, rfl⟩

theorem CampaignCall.Leaves.plans (h : call.Leaves contracts dispatch s t) :
    t.plans = s.plans ∨ ∃ plan, call = .register plan := by
  cases h with
  | nothing => exact Or.inl rfl
  | row => exact Or.inl rfl
  | research => exact Or.inl rfl
  | plan hregisters => exact Or.inr ⟨_, rfl⟩
  | claim hclaims => exact Or.inl (by rw [hclaims.rows])
  | denominator => exact Or.inl rfl

theorem CampaignCall.Leaves.txid (h : call.Leaves contracts dispatch s t) : t.research.txid = s.research.txid := by
  cases h with
  | nothing => rfl
  | row => rfl
  | research => rfl
  | plan hregisters => rw [hregisters.rows]
  | claim hclaims => rw [hclaims.rows]
  | denominator => rfl

theorem Recordable.verified_step (h : Recordable contracts system.db) (hlog : JournalAccepted contracts system.db.receipts)
    (hreads : system.db.ReadsIn contracts t) (hrow : row ∈ (call.rows contracts dispatch system).receipts)
    {evaluation : CausalEvaluation} (hreceipt : row.receipt = .causalEvaluation evaluation) :
    evaluation.Verified contracts t := by
  rcases (call.leaves hlog dispatch).receipts with hsame | ⟨new, hwrites, -, hrows⟩
  · rw [hsame] at hrow
    exact (h.verified row hrow evaluation hreceipt).mono hreads
  · rw [hrows] at hrow
    rcases List.mem_cons.mp hrow with rfl | hold
    · obtain ⟨claim, bundle, hcall, -⟩ := hwrites.evaluation (by rw [hreceipt]; rfl)
      rcases hcall with ⟨intent, rfl⟩ | ⟨result, rfl⟩
      · rcases Transactions.run_cases (recordCampaignEvaluation contracts dispatch.scheduler claim bundle intent
          dispatch.clock dispatch.recorded) system.db with hsame | ⟨receipt, hbody⟩
        · rw [CampaignCall.rows, hsame] at hrows
          exact absurd hrows.symm (List.cons_ne_self _ _)
        · rcases recordCampaignEvaluation_ok hbody with hsame | ⟨-, hstores⟩
          · rw [CampaignCall.rows, hsame] at hrows
            exact absurd hrows.symm (List.cons_ne_self _ _)
          · rw [CampaignCall.rows, hstores.rows] at hrows
            obtain ⟨rfl, -⟩ := List.cons.inj hrows
            cases hreceipt
      · rcases Transactions.run_cases (recordCausalEvaluation contracts dispatch.scheduler claim bundle result
          dispatch.clock dispatch.recorded) system.db with hsame | ⟨receipt, hbody⟩
        · rw [CampaignCall.rows, hsame] at hrows
          exact absurd hrows.symm (List.cons_ne_self _ _)
        · rcases recordCausalEvaluation_ok hbody with hsame | ⟨-, hstores⟩
          · rw [CampaignCall.rows, hsame] at hrows
            exact absurd hrows.symm (List.cons_ne_self _ _)
          · rcases recordCausalEvaluation_verified hbody with hsame | hverified
            · rw [CampaignCall.rows, hsame] at hrows
              exact absurd hrows.symm (List.cons_ne_self _ _)
            · rw [CampaignCall.rows, hstores.rows] at hrows
              obtain ⟨rfl, -⟩ := List.cons.inj hrows
              obtain rfl : receipt = evaluation := CampaignReceipt.causalEvaluation.inj hreceipt
              exact hverified.mono hreads
    · exact (h.verified row hold evaluation hreceipt).mono hreads

theorem CampaignCall.Writes.outcome_eq (h : call.Writes row) (hreceipt : row.receipt = .outcome outcome) :
    call = .recordOutcome outcome := by
  cases call with
  | recordOutcome other =>
    have hother : row.receipt = .outcome other := h
    rw [CampaignReceipt.outcome.inj (hreceipt.symm.trans hother)]
  | _ => simp_all [CampaignCall.Writes, CampaignReceipt.kind]

/-- A new outcome is one that the call has recorded. -/
theorem outcome_cases (hlog : JournalAccepted contracts system.db.receipts)
    (hrow : row ∈ (call.rows contracts dispatch system).receipts) (hreceipt : row.receipt = .outcome outcome) :
    row ∈ system.db.receipts ∨ call = .recordOutcome outcome ∧ ∃ t,
      recordOutcome contracts dispatch.scheduler outcome dispatch.clock system.db = .ok (t, true) := by
  rcases (call.leaves hlog dispatch).receipts with hsame | ⟨new, hwrites, -, hrows⟩
  · rw [hsame] at hrow
    exact Or.inl hrow
  · rw [hrows] at hrow
    rcases List.mem_cons.mp hrow with rfl | hold
    · right
      obtain rfl := hwrites.outcome_eq hreceipt
      refine ⟨rfl, ?_⟩
      rcases Transactions.run_cases (recordOutcome contracts dispatch.scheduler outcome dispatch.clock) system.db with
        hsame | ⟨stored, hbody⟩
      · rw [CampaignCall.rows, hsame] at hrows
        exact absurd hrows.symm (List.cons_ne_self _ _)
      · obtain ⟨-, -, -, -, -, -, ⟨-, hsame, -⟩ | ⟨rfl, -⟩⟩ := recordOutcome_cases hbody
        · rw [CampaignCall.rows, hsame] at hrows
          exact absurd hrows.symm (List.cons_ne_self _ _)
        · exact ⟨_, hbody⟩
    · exact Or.inl hold

theorem Recordable.step (h : Recordable contracts system.db) (hfenced : Fenced contracts system)
    (hstep : CampaignStep contracts system next) : Recordable contracts next.db := by
  obtain ⟨call, dispatch, rfl⟩ := hstep
  have hreads : system.db.ReadsIn contracts (call.run contracts dispatch system).db :=
    (hfenced.readsIn_rows call dispatch).trans (CampaignDatabase.readsIn_committed _)
  have hleaves := call.leaves hfenced.journal dispatch
  constructor
  · intro row hrow evaluation hreceipt
    exact h.verified_step hfenced.journal hreads hrow hreceipt
  · intro row hrow
    have hrow : row ∈ (call.rows contracts dispatch system).denominators := hrow
    rcases hleaves.denominators with hsame | ⟨campaignId, rfl⟩
    · rw [hsame] at hrow
      exact (h.complete row hrow).mono hreads
    · rcases Transactions.run_cases (sealDenominator contracts dispatch.scheduler campaignId) system.db with
        hsame | ⟨receipt, hbody⟩
      · rw [CampaignCall.rows, hsame] at hrow
        exact (h.complete row hrow).mono hreads
      · rcases sealDenominator_complete hbody with hsame | ⟨new, hnew, hcomplete⟩
        · rw [CampaignCall.rows, hsame] at hrow
          exact (h.complete row hrow).mono hreads
        · rw [CampaignCall.rows, hnew] at hrow
          rcases List.mem_cons.mp hrow with rfl | hold
          · exact hcomplete.mono hreads
          · exact (h.complete row hold).mono hreads
  · intro plan hplan
    have hplan : plan ∈ (call.rows contracts dispatch system).plans := hplan
    change plan.registrationTxid < (call.rows contracts dispatch system).research.txid + 1
    rw [hleaves.txid]
    rcases hleaves.plans with hsame | ⟨registered, rfl⟩
    · rw [hsame] at hplan
      exact Nat.lt_succ_of_lt (h.planned plan hplan)
    · rcases Transactions.run_cases (registerPlan contracts dispatch.scheduler registered dispatch.clock) system.db with
        hsame | ⟨reply, hbody⟩
      · rw [CampaignCall.rows, hsame] at hplan
        exact Nat.lt_succ_of_lt (h.planned plan hplan)
      · rcases registerPlan_txid hbody with hsame | ⟨new, hnew, htxid⟩
        · rw [CampaignCall.rows, hsame] at hplan
          exact Nat.lt_succ_of_lt (h.planned plan hplan)
        · rw [CampaignCall.rows, hnew] at hplan
          rcases List.mem_cons.mp hplan with rfl | hold
          · omega
          · exact Nat.lt_succ_of_lt (h.planned plan hold)
  · intro row hrow outcome hreceipt
    rcases outcome_cases hfenced.journal hrow hreceipt with hold | ⟨-, t, hbody⟩
    · obtain ⟨claim, hclaim, hid⟩ := h.claimed row hold outcome hreceipt
      exact ⟨claim, hreads.loadClaim hclaim, hid⟩
    · obtain ⟨claim, hclaim, hbody⟩ := bind_ok hbody
      obtain ⟨_, hid, -⟩ := bind_ok hbody
      exact ⟨claim, hreads.loadClaim hclaim, require_ok hid⟩

theorem Recordable.empty : Recordable contracts .empty := by
  constructor <;> simp [CampaignDatabase.empty]

theorem recordable_of_reachable (h : CampaignReachable contracts system) : Recordable contracts system.db := by
  apply (@Runs.Reachable.invariant _ _ (fun s => Fenced contracts s ∧ Recordable contracts s.db) _ _ h _ _).2
  · rintro _ rfl
    exact ⟨.start, .empty⟩
  · rintro s t ⟨hfenced, hrecordable⟩ hstep
    exact ⟨hfenced.step hstep, hrecordable.step hfenced hstep⟩

end Invariants

section Decisions

theorem campaignContext_unique {other : Option String} {a b : CampaignContext}
    (ha : campaignContext contracts scheduler s campaignId = .ok a) (hb : campaignContext contracts other s campaignId = .ok b) :
    a = b := by
  have ha' := (campaignContext_scheduler ha).2.2 none (Or.inl rfl)
  have hb' := (campaignContext_scheduler hb).2.2 none (Or.inl rfl)
  exact Except.ok.inj (ha'.symm.trans hb')

theorem CampaignDatabase.HasWindow.unique {a b : ObservationWindow} (ha : s.HasWindow contracts campaignId sampleId a)
    (hb : s.HasWindow contracts campaignId sampleId b) : a = b := by
  obtain ⟨scheduler, context, hcontext, hwindow⟩ := ha
  obtain ⟨scheduler', context', hcontext', hwindow'⟩ := hb
  obtain rfl := campaignContext_unique hcontext hcontext'
  exact Option.some.inj (hwindow.symm.trans hwindow')

/-- What the outcome of an arm with a START is decided by. -/
structure AttemptStart.Decided (contracts : CampaignContracts) (s : CampaignDatabase) (start : AttemptStart) (causal : Bool)
    (window : ObservationWindow) (answer : Option (ReceiptRow × AttemptCompletion)) : Prop where
  family : causal = true ↔ s.Causal start.campaignId start.sampleId
  window : s.HasWindow contracts start.campaignId start.sampleId window
  answer : ∀ outcome : ArmOutcome, outcome.key = start.key → loadCompletion s start outcome = .ok answer

/-- What `loadCompletion` answers for the two rows that it reads. -/
def completionOf : Option ReceiptRow → Option ReceiptRow →
    Except ResearchError (Option (ReceiptRow × AttemptCompletion))
  | none, none => pure none
  | some row, none => do
    let terminal ← decodeTerminal row
    pure (some (row, .terminal terminal))
  | none, some row => do
    let review ← decodeReview row
    pure (some (row, .review review))
  | some _, some _ => .error (.messageIdentityConflict "arm has conflicting independent completion histories")

variable {system : CampaignSystem} {causal : Bool} {window : ObservationWindow}
  {answer : Option (ReceiptRow × AttemptCompletion)} (hfenced : Fenced contracts system)
  (hattempted : Attempted contracts system) (hrow : row ∈ system.db.receipts) (hstart : row.receipt = .start start)
include hfenced hattempted hrow hstart

/-- A START has one completion at most to decide by. -/
theorem exists_answer : ∃ answer, ∀ outcome : ArmOutcome, outcome.key = start.key →
    loadCompletion system.db start outcome = .ok answer := by
  have hlog := hfenced.journal
  have hload : ∀ outcome : ArmOutcome, outcome.key = start.key → loadCompletion system.db start outcome =
      completionOf (system.db.row? (start.slotAt .terminal)) (system.db.row? (start.slotAt .review)) := by
    intro outcome hkey
    simp only [ArmOutcome.key, AttemptStart.key, Prod.mk.injEq] at hkey
    rw [loadCompletion, hkey.1, hkey.2.1, hkey.2.2]
    rfl
  simp only [AttemptStart.slotAt] at hload
  cases hterminal : system.db.row? (start.slotAt .terminal) with
  | none =>
    cases hreview : system.db.row? (start.slotAt .review) with
    | none =>
      refine ⟨none, fun outcome hkey => ?_⟩
      rw [AttemptStart.slotAt] at hterminal hreview
      rw [hload outcome hkey, hterminal, hreview]
      rfl
    | some done =>
      obtain ⟨review, hdecode⟩ := decodeReview_of_row hreview
      refine ⟨some (done, .review review), fun outcome hkey => ?_⟩
      rw [AttemptStart.slotAt] at hterminal hreview
      rw [hload outcome hkey, hterminal, hreview]
      dsimp only [completionOf]
      rw [hdecode]
      rfl
  | some done =>
    obtain ⟨terminal, hdecode⟩ := decodeTerminal_of_row hterminal
    obtain ⟨hmem, hslot⟩ := row?_mem hterminal
    have hcompletes := completes_of_slot hlog hrow hstart (Or.inl rfl) hslot
    have hkind : done.receipt.kind = .terminal := congrArg Slot.kind hslot
    have hreview := row?_other hattempted hlog hrow hstart hmem hcompletes (Or.inr rfl) (by rw [hkind]; simp)
    refine ⟨some (done, .terminal terminal), fun outcome hkey => ?_⟩
    rw [AttemptStart.slotAt] at hterminal hreview
    rw [hload outcome hkey, hterminal, hreview]
    dsimp only [completionOf]
    rw [hdecode]
    rfl

theorem exists_decided : ∃ causal window answer, start.Decided contracts system.db causal window answer := by
  obtain ⟨answer, hanswer⟩ := exists_answer hfenced hattempted hrow hstart
  obtain ⟨scheduler, context, hcontext, window, hwindow⟩ := (hattempted.based row hrow start hstart).context
  have hwindow : system.db.HasWindow contracts start.campaignId start.sampleId window :=
    ⟨scheduler, context, hcontext, found_ok hwindow⟩
  by_cases hcausal : system.db.Causal start.campaignId start.sampleId
  · exact ⟨true, window, answer, by simpa using hcausal, hwindow, hanswer⟩
  · exact ⟨false, window, answer, by simpa using hcausal, hwindow, hanswer⟩

omit hattempted in
theorem startOf?_key (hkey : outcome.key = start.key) :
    system.db.startOf? outcome.campaignId outcome.sampleId outcome.armId = some row := by
  apply startOf?_eq_some hfenced.journal hrow
  have hslot := start_slot hfenced.journal hrow hstart
  simp only [ReceiptRow.slot, AttemptStart.slotAt, Slot.mk.injEq] at hslot
  simp only [ArmOutcome.key, AttemptStart.key, Prod.mk.injEq] at hkey
  constructor
  · rw [hstart]
    rfl
  · rw [hslot.1, hslot.2.1, hslot.2.2.1, hkey.1, hkey.2.1, hkey.2.2]

omit hattempted in
/-- A new outcome of an arm with a START has its attempt, and the status that is decided. -/
theorem recordOutcome_decided (hdecided : start.Decided contracts system.db causal window answer)
    (hkey : outcome.key = start.key)
    (h : recordOutcome contracts scheduler outcome clock system.db = .ok (t, true)) :
    outcome.status = admittedStatus causal window answer ∧ outcome.attemptId = some start.attemptId := by
  obtain ⟨context, hcontext, causal', hcausal, window', hwindow, hcases⟩ := recordOutcome_cases h
  obtain ⟨hfalse, -⟩ | ⟨-, -, ⟨bundle, evaluation, decision, -, hdecision⟩, -⟩ := hcases
  · cases hfalse
  have hids := hkey
  simp only [ArmOutcome.key, AttemptStart.key, Prod.mk.injEq] at hids
  have hfamily := guardCausalEvaluation_causal hcausal
  rw [hids.1, hids.2.1] at hfamily
  rw [hids.1] at hcontext
  rw [hids.2.1] at hwindow
  obtain rfl : causal' = causal := Bool.eq_iff_iff.mpr (hfamily.trans hdecided.family.symm)
  obtain rfl := hdecided.window.unique ⟨scheduler, context, hcontext, hwindow⟩
  have hdecode : decodeStart row = .ok start := by rw [decodeStart, hstart]
  rw [outcomeDecision, startOf?_key hfenced hrow hstart hkey] at hdecision
  dsimp only at hdecision
  rw [hdecode, ok_bind] at hdecision
  obtain ⟨_, hattempt, hdecision⟩ := bind_ok hdecision
  obtain ⟨answer', hload, hdecision⟩ := bind_ok hdecision
  obtain ⟨_, hstatus, -⟩ := bind_ok hdecision
  obtain rfl : answer' = answer := Except.ok.inj (hload.symm.trans (hdecided.answer outcome hkey))
  exact ⟨require_ok hstatus, (require_ok hattempt).1⟩

end Decisions

section Acceptance

/-- The outcome that is decided of an attempt. -/
def AttemptStart.decidedOutcome (contracts : CampaignContracts) (start : AttemptStart) (claim : WindowClaim)
    (bundle : CausalBundle) (evaluation : Option (ReceiptRow × CampaignEvaluation)) (status : OutcomeStatus)
    (completion : Option AttemptCompletion) (now : ℕ) : ArmOutcome where
  campaignId := start.campaignId
  sampleId := start.sampleId
  armId := start.armId
  claimId := claim.claimId
  status := status
  bundleReceiptSha256 := some (contracts.bundleSha256 bundle)
  evaluationReceiptSha256 := evaluation.map fun stored => contracts.receiptSha256 stored.2.receipt
  attemptId := some start.attemptId
  decisionReceiptSha256 := completion.map fun completion => contracts.receiptSha256 completion.receipt
  causalSampleReceiptSha256 := none
  observedAtTsMs := now

variable {system : CampaignSystem} {causal : Bool} {window : ObservationWindow} {claim : WindowClaim}
  {bundle : CausalBundle} {context : CampaignContext}
  {answer : Option (ReceiptRow × AttemptCompletion)} {evaluation : Option (ReceiptRow × CampaignEvaluation)}
  (hfenced : Fenced contracts system)

section Reads

theorem ObservationSchedule.window?_mem {schedule : ObservationSchedule} (h : schedule.window? sampleId = some window) :
    window ∈ schedule.windows ∧ window.sampleId = sampleId :=
  @KeyedRows.find?_mem _ _ (fun window : ObservationWindow => window.sampleId) _ _ _ _ h

include hfenced

theorem loadBundle_row (h : loadBundle system.db campaignId sampleId = .ok bundle) :
    ∃ row, system.db.row? ⟨campaignId, sampleId, none, .bundle, "one"⟩ = some row ∧ row.receipt = .bundle bundle ∧
      row.receiptSha256 = contracts.bundleSha256 bundle := by
  obtain ⟨row, hrow, h⟩ := bind_ok h
  refine ⟨row, found_ok hrow, ?_⟩
  split at h
  · rename_i heq
    cases h
    refine ⟨heq, ?_⟩
    rw [sha_of_mem hfenced.journal (row?_mem (found_ok hrow)).1, heq]
    rfl
  · cases h

/-- A window of a frozen campaign is in the roster of the database. -/
theorem window?_ne_none (hcontext : campaignContext contracts scheduler system.db campaignId = .ok context)
    (hwindow : context.schedule.window? sampleId = some window) :
    system.db.research.window? campaignId sampleId ≠ none := by
  obtain ⟨-, -, roster, hroster, hschedule⟩ := campaignContext_ok hcontext
  obtain ⟨hmem, rfl⟩ := ResearchDatabase.schedule?_mem hroster
  obtain ⟨hlisted, hsample⟩ := ObservationSchedule.window?_mem hwindow
  rw [hschedule] at hlisted
  obtain ⟨row, hrow, hcampaign, hsame⟩ :=
    ResearchDatabase.mem_roster.mp ((hfenced.research.roster_perm hmem).mem_iff.mpr hlisted)
  intro hnone
  have hother := List.find?_eq_none.mp hnone row hrow
  apply hother
  have hid : row.sampleId = sampleId := by
    rw [← hsample, ← hsame]
  simp [hcampaign, hid]

/-- A campaign is not sealed as long as an arm of a window has no outcome. -/
theorem denominator?_eq_none (hrecordable : Recordable contracts system.db)
    (hcontext : campaignContext contracts scheduler system.db campaignId = .ok context)
    (hwindow : context.schedule.window? sampleId = some window) {arm : ResearchArm}
    (hnone : system.db.row? ⟨campaignId, sampleId, some arm, .outcome, "one"⟩ = none) :
    system.db.denominator? campaignId = none := by
  cases hsealed : system.db.denominator? campaignId with
  | none => rfl
  | some row =>
    obtain ⟨hmem, rfl⟩ : row ∈ system.db.denominators ∧ row.receipt.campaignId = campaignId := KeyedRows.find?_mem hsealed
    obtain ⟨scheduler', context', hcontext', hall⟩ := hrecordable.complete row hmem
    obtain rfl := campaignContext_unique hcontext hcontext'
    obtain ⟨hlisted, hsample⟩ := ObservationSchedule.window?_mem hwindow
    obtain ⟨outcome, houtcome, hkey⟩ := hall window hlisted arm
    obtain ⟨other, hother, hcampaign, hreceipt⟩ := mem_outcomesOf.mp houtcome
    have hslot := ownSlot_of_mem hfenced.journal hother _ (by rw [hreceipt]; rfl)
    simp only [Prod.mk.injEq] at hkey
    apply absurd hslot
    have hid : outcome.campaignId = row.receipt.campaignId := by
      rw [← hcampaign]
      exact (congrArg Slot.campaignId hslot).symm
    rw [hid, hkey.1, hkey.2, hsample]
    exact row?_eq_none.mp hnone other hother

theorem receipt?_of_mem (hrow : row ∈ system.db.receipts) : system.db.receipt? row.receiptSha256 = some row :=
  KeyedRows.find?_eq (shas_nodup hfenced.journal) hrow

/-- The stored evaluation of a sample is read again with the context of its campaign. -/
theorem verifyOutcomeInput_of_stored (hrecordable : Recordable contracts system.db)
    (hclaim : loadClaim system.db campaignId sampleId = .ok claim)
    (hbundle : loadBundle system.db campaignId sampleId = .ok bundle)
    (hcontext : campaignContext contracts scheduler system.db campaignId = .ok context)
    (hguard : guardCausalEvaluation scheduler system.db context.planRow.plan campaignId sampleId = .ok causal)
    (hevaluation : storedEvaluation system.db campaignId sampleId = .ok evaluation) :
    verifyOutcomeInput contracts scheduler system.db claim context (some bundle) (evaluation.map (·.2)) = .ok () := by
  cases evaluation with
  | none => rfl
  | some stored =>
    obtain ⟨row, evaluation⟩ := stored
    cases evaluation with
    | core receipt => rfl
    | causal receipt =>
      obtain ⟨hrow, hdecode⟩ := storedEvaluation_ok hevaluation
      obtain ⟨hmem, hslot⟩ := row?_mem hrow
      have hreceipt := decodeEvaluation_causal hdecode
      have hown := ownSlot_of_mem hfenced.journal hmem _ (by rw [hreceipt]; rfl)
      rw [hslot] at hown
      simp only [Slot.mk.injEq] at hown
      obtain ⟨scheduler', claim', bundle', context', hclaim', hbundle', hcontext', hverify⟩ :=
        hrecordable.verified row hmem receipt hreceipt
      rw [← hown.1, ← hown.2.1] at hclaim' hbundle'
      rw [← hown.1] at hcontext'
      obtain rfl := Except.ok.inj (hclaim.symm.trans hclaim')
      obtain rfl := Except.ok.inj (hbundle.symm.trans hbundle')
      obtain rfl := campaignContext_unique hcontext hcontext'
      rw [guardCausalEvaluation, hevaluation, ok_bind] at hguard
      obtain ⟨_, hplan, -⟩ := bind_ok hguard
      obtain ⟨_, -, hverify⟩ := bind_ok hverify
      change verifyStoredCausal contracts scheduler system.db claim bundle context (.causal receipt) = .ok ()
      rw [verifyStoredCausal, hplan, ok_bind]
      exact hverify

variable (hrow : row ∈ system.db.receipts) (hstart : row.receipt = .start start)
include hrow hstart

theorem outcomeDecision_of_decided (hdecided : start.Decided contracts system.db causal window answer)
    (hkey : outcome.key = start.key) (hattempt : outcome.attemptId = some start.attemptId)
    (hstatus : outcome.status = admittedStatus causal window answer) {now : ℕ} {frozen : Option CausalBundle} :
    outcomeDecision system.db outcome causal window now frozen evaluation = .ok (answer.map (·.2)) := by
  have hdecode : decodeStart row = .ok start := by rw [decodeStart, hstart]
  have hcalls := admittedStatus_calls causal window answer
  rw [← hstatus] at hcalls
  have hcall : outcome.status ∉ [OutcomeStatus.missed, .sourceMissing, .noIntent, .budgetBlocked] := by
    intro hmem
    apply hcalls
    simp only [OutcomeStatus.NoCall, List.mem_cons, List.not_mem_nil, or_false] at hmem ⊢
    tauto
  rw [outcomeDecision, startOf?_key hfenced hrow hstart hkey]
  dsimp only
  rw [hdecode, ok_bind, admittedOutcome, require_pos ⟨hattempt, hcall⟩, ok_bind, hdecided.answer outcome hkey, ok_bind,
    require_pos hstatus]
  rfl

end Reads

/-- The digests of an outcome are those of stored rows of its sample. -/
theorem checkOutcomeLinks_of_rows (hlinks : ∀ digest ∈ [outcome.bundleReceiptSha256, outcome.evaluationReceiptSha256,
      outcome.decisionReceiptSha256, outcome.causalSampleReceiptSha256], ∀ receiptSha256 ∈ digest,
    ∃ row ∈ s.receipt? receiptSha256, row.campaignId = outcome.campaignId ∧ row.sampleId = outcome.sampleId) :
    checkOutcomeLinks s outcome = .ok () := by
  apply Transactions.forM_of_ok
  intro digest hdigest
  exact require_pos (hlinks digest hdigest)

theorem insertReceipt_of_guard (hguard : guardReceipt contracts s row = .ok ())
    (hlength : 1 ≤ row.slotKey.length ∧ row.slotKey.length ≤ 128) (hsha : s.receipt? row.receiptSha256 = none)
    (hslot : s.row? row.slot = none) (hkind : row.receipt.kind ≠ .start)
    (hwindow : s.research.window? row.campaignId row.sampleId ≠ none) :
    insertReceipt contracts s row = .ok { s with receipts := row :: s.receipts } := by
  rw [insertReceipt, hguard, ok_bind, require_pos hlength, ok_bind, require_pos hsha, ok_bind, require_pos hslot, ok_bind,
    require_pos (fun h => absurd h hkind), ok_bind, require_pos hwindow, ok_bind]
  rfl

/-- The guards of the database let a new outcome pass. -/
theorem insertReceipt_outcome (hplan : s.plan? outcome.campaignId = some context.planRow)
    (hcommitted : context.planRow.registrationTxid ≠ s.research.txid)
    (hopen : s.denominator? outcome.campaignId = none) (hnone : s.row? outcome.slot = none)
    (hfresh : s.receipt? (contracts.outcomeSha256 outcome) = none)
    (hwindow : s.research.window? outcome.campaignId outcome.sampleId ≠ none) :
    ∃ t, insertReceipt contracts s (receiptRow contracts outcome.campaignId outcome.sampleId (some outcome.armId) "one"
      (.outcome outcome) clock) = .ok t := by
  have hguard : guardReceipt contracts s (receiptRow contracts outcome.campaignId outcome.sampleId (some outcome.armId) "one"
      (.outcome outcome) clock) = .ok () := by
    have hscope : ∀ admitted, (CampaignReceipt.outcome outcome).scope admitted = some (outcome.campaignId, outcome.sampleId) :=
      fun _ => rfl
    rw [guardReceipt, receiptRow, guardTerminalStart]
    dsimp only
    rw [ok_bind, hscope, require_pos (Option.map_some ..), ok_bind, guardOpenPlan, hplan, found_some, ok_bind, require_pos hcommitted, ok_bind,
      require_pos (Or.inl hopen), ok_bind]
    exact require_pos rfl
  refine ⟨_, insertReceipt_of_guard hguard ?_ hfresh hnone ?_ hwindow⟩
  · exact (by decide : 1 ≤ "one".length ∧ "one".length ≤ 128)
  · simp [receiptRow, CampaignReceipt.kind]

section Forward

variable (hclaim : loadClaim s outcome.campaignId outcome.sampleId = .ok claim) (hid : claim.claimId = outcome.claimId)
  (hcontext : campaignContext contracts scheduler s outcome.campaignId = .ok context)
  (hguard : guardCausalEvaluation scheduler s context.planRow.plan outcome.campaignId outcome.sampleId = .ok causal)
  (hwindow : campaignWindow context.schedule outcome.sampleId = .ok window)
include hclaim hid hcontext hguard hwindow

/-- The stored outcome is given again. -/
theorem recordOutcome_of_stored (hslot : s.row? outcome.slot = some row) (hreceipt : row.receipt = .outcome outcome) :
    recordOutcome contracts scheduler outcome clock s = .ok (s, false) := by
  have hdecode : decodeOutcome row = .ok outcome := by rw [decodeOutcome, hreceipt]
  rw [ArmOutcome.slot] at hslot
  rw [recordOutcome, hclaim, ok_bind, require_pos hid, ok_bind, hcontext, ok_bind, hguard, ok_bind, hwindow, ok_bind, hslot]
  dsimp only
  rw [hdecode, ok_bind, require_pos rfl]
  rfl

/-- An outcome that passes the checks is stored. -/
theorem recordOutcome_of_checks {frozen : Option CausalBundle} {decision : Option AttemptCompletion}
    (hslot : s.row? outcome.slot = none)
    (hclock : claim.claimedAtTsMs ≤ outcome.observedAtTsMs ∧ outcome.observedAtTsMs ≤ clockMs scheduler clock)
    (hbundle : decodeRow? decodeBundle (s.row? ⟨outcome.campaignId, outcome.sampleId, none, .bundle, "one"⟩) = .ok frozen)
    (hevaluation : storedEvaluation s outcome.campaignId outcome.sampleId = .ok evaluation)
    (hverify : verifyOutcomeInput contracts scheduler s claim context frozen (evaluation.map (·.2)) = .ok ())
    (hinput : (outcome.bundleReceiptSha256, outcome.evaluationReceiptSha256) =
      (frozen.map contracts.bundleSha256, evaluation.map fun stored => contracts.receiptSha256 stored.2.receipt))
    (hdecision : outcomeDecision s outcome causal window (clockMs scheduler clock) frozen evaluation = .ok decision)
    (hdecided : outcome.decisionReceiptSha256 = decision.map fun completion => contracts.receiptSha256 completion.receipt)
    (hpair : checkOutcomePair contracts s outcome (evaluation.map (·.2)) = .ok ())
    (hlinks : checkOutcomeLinks s outcome = .ok ())
    (hinsert : insertReceipt contracts s (receiptRow contracts outcome.campaignId outcome.sampleId (some outcome.armId)
      "one" (.outcome outcome) clock) = .ok t) : recordOutcome contracts scheduler outcome clock s = .ok (t, true) := by
  have hstore : storeReceipt contracts (receiptRow contracts outcome.campaignId outcome.sampleId (some outcome.armId)
      "one" (.outcome outcome) clock) s = .ok (t, true) := by
    rw [storeReceipt, show s.row? (receiptRow contracts outcome.campaignId outcome.sampleId (some outcome.armId) "one"
      (.outcome outcome) clock).slot = none from hslot]
    dsimp only
    rw [hinsert]
    rfl
  rw [ArmOutcome.slot] at hslot
  rw [recordOutcome, hclaim, ok_bind, require_pos hid, ok_bind, hcontext, ok_bind, hguard, ok_bind, hwindow, ok_bind, hslot]
  dsimp only
  rw [require_pos hclock, ok_bind, hbundle, ok_bind, hevaluation, ok_bind, hverify, ok_bind, require_pos hinput, ok_bind,
    hdecision, ok_bind, require_pos hdecided, ok_bind, hpair, ok_bind, hlinks, ok_bind]
  exact hstore

end Forward

/-- A process that may write of the sample records the outcome that is decided of an attempt, as long as its arm has
none. -/
theorem recordOutcome_accepts (hfenced : Fenced contracts system) (hattempted : Attempted contracts system)
    (hrecordable : Recordable contracts system.db) (hrow : row ∈ system.db.receipts) (hstart : row.receipt = .start start)
    (hdecided : start.Decided contracts system.db causal window answer)
    (hnone : system.db.row? (⟨start.campaignId, start.sampleId, some start.armId, .outcome, "one"⟩ : Slot) = none)
    (hadmits : system.db.Admits scheduler start.campaignId start.sampleId)
    (hclock : ∀ claim, loadClaim system.db start.campaignId start.sampleId = .ok claim →
      claim.claimedAtTsMs ≤ clockMs scheduler clock) :
    ∃ outcome : ArmOutcome, outcome.key = start.key ∧ outcome.status = admittedStatus causal window answer ∧
      (system.db.receipt? (contracts.outcomeSha256 outcome) = none →
        ∃ t, recordOutcome contracts scheduler outcome clock system.db = .ok (t, true)) := by
  have hbased := hattempted.based row hrow start hstart
  obtain ⟨claim, hclaim⟩ := hbased.claim
  obtain ⟨bundle, hbundle⟩ := hbased.bundle
  obtain ⟨other, based, hbasedContext, frozen, hfrozen⟩ := hbased.context
  obtain ⟨context, hcontext, family, hguard⟩ := (admits_iff ⟨other, based, hbasedContext⟩).mpr hadmits
  obtain rfl := campaignContext_unique hbasedContext hcontext
  obtain ⟨evaluation, hevaluation, -⟩ := bind_ok hguard
  -- what the code finds is what the attempt is decided by
  have hfamily := guardCausalEvaluation_causal hguard
  obtain rfl : family = causal := Bool.eq_iff_iff.mpr (hfamily.trans hdecided.family.symm)
  obtain rfl := hdecided.window.unique ⟨scheduler, based, hcontext, found_ok hfrozen⟩
  obtain ⟨bundleRow, hbundleRow, hbundleReceipt, hbundleSha⟩ := loadBundle_row hfenced hbundle
  let outcome := start.decidedOutcome contracts claim bundle evaluation (admittedStatus family window answer)
    (answer.map (·.2)) (clockMs scheduler clock)
  refine ⟨outcome, rfl, rfl, fun hfresh => ?_⟩
  have hwindow : campaignWindow based.schedule outcome.sampleId = .ok window := hfrozen
  have hdecodedBundle : decodeRow? decodeBundle (system.db.row? ⟨outcome.campaignId, outcome.sampleId, none, .bundle, "one"⟩) =
      .ok (some bundle) := by
    have hdecode : decodeBundle bundleRow = .ok bundle := by rw [decodeBundle, hbundleReceipt]
    rw [show system.db.row? ⟨outcome.campaignId, outcome.sampleId, none, .bundle, "one"⟩ = some bundleRow from hbundleRow,
      decodeRow?, hdecode]
    rfl
  have hverify := verifyOutcomeInput_of_stored hfenced hrecordable hclaim hbundle hcontext hguard hevaluation
  have hdecision : outcomeDecision system.db outcome family window (clockMs scheduler clock) (some bundle) evaluation =
      .ok (answer.map (·.2)) := outcomeDecision_of_decided hfenced hrow hstart hdecided rfl rfl rfl
  have hpair : checkOutcomePair contracts system.db outcome (evaluation.map (·.2)) = .ok () := by
    unfold checkOutcomePair
    split
    · rename_i hsome
      cases hsome
    · rfl
  have hlinked : ∀ row ∈ system.db.receipts, row.campaignId = start.campaignId → row.sampleId = start.sampleId →
      ∃ other ∈ system.db.receipt? row.receiptSha256, other.campaignId = start.campaignId ∧
        other.sampleId = start.sampleId :=
    fun row hmem hcampaign hsample => ⟨row, receipt?_of_mem hfenced hmem, hcampaign, hsample⟩
  have hlinks : checkOutcomeLinks system.db outcome = .ok () := by
    apply checkOutcomeLinks_of_rows
    intro digest hdigest receiptSha256 hsome
    simp only [List.mem_cons, List.not_mem_nil, or_false] at hdigest
    rcases hdigest with rfl | rfl | rfl | rfl
    · obtain ⟨hmem, hslot⟩ := row?_mem hbundleRow
      obtain rfl : contracts.bundleSha256 bundle = receiptSha256 := Option.some.inj hsome
      rw [← hbundleSha]
      exact hlinked bundleRow hmem (congrArg Slot.campaignId hslot) (congrArg Slot.sampleId hslot)
    · obtain ⟨stored, hstored, rfl⟩ := Option.map_eq_some_iff.mp hsome
      rw [hstored] at hevaluation
      obtain ⟨hrow, hdecode⟩ := storedEvaluation_ok hevaluation
      obtain ⟨hmem, hslot⟩ := row?_mem hrow
      rw [← decodeEvaluation_sha hfenced.journal hmem hdecode]
      exact hlinked stored.1 hmem (congrArg Slot.campaignId hslot) (congrArg Slot.sampleId hslot)
    · obtain ⟨completion, hcompletion, rfl⟩ := Option.map_eq_some_iff.mp hsome
      obtain ⟨⟨done, completion'⟩, hanswer, rfl⟩ := Option.map_eq_some_iff.mp hcompletion
      have hload := hdecided.answer outcome rfl
      rw [hanswer] at hload
      have hcompleted := loadCompletion_some hload
      have harm := hcompleted.arm
      simp only [Prod.mk.injEq] at harm
      rw [← hcompleted.receipt, ← sha_of_mem hfenced.journal hcompleted.stored]
      exact hlinked done hcompleted.stored harm.1 harm.2.1
    · cases hsome
  have hplan := (campaignContext_scheduler hcontext).1
  have hcommitted : based.planRow.registrationTxid ≠ system.db.research.txid :=
    ne_of_lt (hrecordable.planned _ (plan?_mem hplan).1)
  have hopen := denominator?_eq_none hfenced hrecordable hcontext (found_ok hfrozen) hnone
  have hlisted := window?_ne_none hfenced hcontext (found_ok hfrozen)
  obtain ⟨t, hinsert⟩ : ∃ t, insertReceipt contracts system.db (receiptRow contracts outcome.campaignId outcome.sampleId
      (some outcome.armId) "one" (.outcome outcome) clock) = .ok t :=
    insertReceipt_outcome hplan hcommitted hopen hnone hfresh hlisted
  exact ⟨t, recordOutcome_of_checks hclaim rfl hcontext hguard hwindow hnone ⟨hclock claim hclaim, le_refl _⟩
    hdecodedBundle hevaluation hverify rfl hdecision rfl hpair hlinks hinsert⟩

end Acceptance

section Runs

/-- The call admits no attempt of an arm that has an outcome and no START. -/
def AvoidsRecorded (s : CampaignSystem) : CampaignCall → Prop
  | .startAttempt attempt _ => s.db.startOf? attempt.campaignId attempt.sampleId attempt.armId = none →
      s.db.row? ⟨attempt.campaignId, attempt.sampleId, some attempt.armId, .outcome, "one"⟩ = none
  | _ => True

instance (s : CampaignSystem) : (call : CampaignCall) → Decidable (AvoidsRecorded s call)
  | .startAttempt _ _ => inferInstanceAs (Decidable (_ → _))
  | .research _ _ | .register _ | .captureSource _ | .claimNext _ | .freezeBundle _ | .recordEvaluation _ _ _
  | .recordCausalEvaluation _ _ _ | .recordCausalPair _ _ _ _ _ | .findAttempt _ _ | .finishAttempt _ _
  | .recordReview _ _ | .recordCost _ | .recordVerifiedSample _ | .recordOutcome _ | .sealDenominator _ => .isTrue trivial

/-- Of an arm with a START one status is accepted at any time of the database, and with its attempt only. -/
def AttemptStart.OneStatus (contracts : CampaignContracts) (s : CampaignDatabase) (start : AttemptStart) : Prop :=
  ∃ status,
    (∀ (dispatch : Dispatch) (outcome : ArmOutcome) (t : CampaignDatabase) (stored : Bool), outcome.key = start.key →
      recordOutcome contracts dispatch.scheduler outcome dispatch.clock s = .ok (t, stored) →
        outcome.status = status ∧ outcome.attemptId = some start.attemptId) ∧
    ∀ dispatch : Dispatch, s.Admits dispatch.scheduler start.campaignId start.sampleId →
      (∀ claim, loadClaim s start.campaignId start.sampleId = .ok claim →
        claim.claimedAtTsMs ≤ clockMs dispatch.scheduler dispatch.clock) →
      ∃ outcome : ArmOutcome, outcome.key = start.key ∧ outcome.status = status ∧
        ((∀ row ∈ s.receipts, row.receiptSha256 = contracts.outcomeSha256 outcome → row.receipt = .outcome outcome) →
          ∃ t stored, recordOutcome contracts dispatch.scheduler outcome dispatch.clock s = .ok (t, stored))

/-- What `record_outcome` says of the journal. -/
structure OutcomesSound (contracts : CampaignContracts) (s : CampaignSystem) : Prop where
  oneStatus : ∀ row ∈ s.db.receipts, ∀ start, row.receipt = .start start → start.OneStatus contracts s.db
  sound : ∀ (dispatch : Dispatch) (outcome : ArmOutcome) (t : CampaignDatabase),
    recordOutcome contracts dispatch.scheduler outcome dispatch.clock s.db = .ok (t, true) →
      ∃ causal window, (causal = true ↔ s.db.Causal outcome.campaignId outcome.sampleId) ∧
        s.db.HasWindow contracts outcome.campaignId outcome.sampleId window ∧ outcome.Sound s.db causal window
  kept : ∀ row ∈ s.db.receipts, ∀ outcome, row.receipt = .outcome outcome →
    ∀ later, ReflTransGen (CampaignStep contracts) s later → later.db.row? outcome.slot = some row ∧
      ∀ (dispatch : Dispatch) (other : ArmOutcome) (t : CampaignDatabase) (stored : Bool), other.key = outcome.key →
        recordOutcome contracts dispatch.scheduler other dispatch.clock later.db = .ok (t, stored) →
          other = outcome ∧ t = later.db ∧ stored = false

/-- The outcome of an arm with a START has its attempt. -/
def AnswersNamed (rows : List ReceiptRow) : Prop :=
  ∀ row ∈ rows, ∀ start, row.receipt = .start start → ∀ other ∈ rows, ∀ outcome, other.receipt = .outcome outcome →
    outcome.key = start.key → outcome.attemptId = some start.attemptId

variable {system : CampaignSystem} {call : CampaignCall} {dispatch : Dispatch}

theorem ArmOutcome.slot_of_key (hkey : outcome.key = start.key) :
    outcome.slot = ⟨start.campaignId, start.sampleId, some start.armId, .outcome, "one"⟩ := by
  simp only [ArmOutcome.key, AttemptStart.key, Prod.mk.injEq] at hkey
  rw [ArmOutcome.slot, hkey.1, hkey.2.1, hkey.2.2]

theorem outcome_row (hlog : JournalAccepted contracts s.receipts) (hrow : row ∈ s.receipts)
    (hreceipt : row.receipt = .outcome outcome) : s.row? outcome.slot = some row := by
  have hslot : row.slot = outcome.slot := ownSlot_of_mem hlog hrow _ (by rw [hreceipt]; rfl)
  rw [← hslot]
  exact KeyedRows.find?_eq (slots_nodup hlog) hrow

theorem AnswersNamed.rows (h : AnswersNamed system.db.receipts) (hfenced : Fenced contracts system)
    (hattempted : Attempted contracts system) (hmeets : AvoidsRecorded system call) :
    AnswersNamed (call.rows contracts dispatch system).receipts := by
  intro row hrow start hstart other hother outcome hreceipt hkey
  have hold : ∀ {row : ReceiptRow} {start : AttemptStart}, row ∈ (call.rows contracts dispatch system).receipts →
      row.receipt = .start start → row ∈ system.db.receipts ∨
        ∃ delivered, call = .startAttempt start delivered ∧ row.Accepted contracts system.db.receipts := by
    intro row start hrow hstart
    rcases (call.leaves hfenced.journal dispatch).receipts with hsame | ⟨new, hwrites, haccepted, hrows⟩
    · rw [hsame] at hrow
      exact Or.inl hrow
    · rw [hrows] at hrow
      rcases List.mem_cons.mp hrow with rfl | hmem
      · right
        obtain ⟨attempt, delivered, rfl, hattempt⟩ := hwrites.start (by rw [hstart]; rfl)
        obtain rfl : attempt = start := CampaignReceipt.start.inj (hattempt.symm.trans hstart)
        exact ⟨delivered, rfl, haccepted⟩
      · exact Or.inl hmem
  rcases outcome_cases hfenced.journal hother hreceipt with hrecorded | ⟨rfl, t, hbody⟩
  · rcases hold hrow hstart with hadmitted | ⟨delivered, rfl, haccepted⟩
    · exact h row hadmitted start hstart other hrecorded outcome hreceipt hkey
    · -- the call has avoided an arm with an outcome
      have hslot := outcome_row hfenced.journal hrecorded hreceipt
      rw [ArmOutcome.slot_of_key hkey, hmeets ?_] at hslot
      · cases hslot
      · apply startOf?_eq_none.mpr
        intro first hfirst hisStart
        apply haccepted.oneStart (by rw [hstart]; rfl) first hfirst hisStart.1
        have hown := haccepted.ownSlot _ (by rw [hstart]; rfl)
        simp only [ReceiptRow.slot, Slot.mk.injEq] at hown
        rw [hisStart.2, hown.1, hown.2.1, hown.2.2.1]
  · rcases hold hrow hstart with hadmitted | ⟨delivered, hcall, -⟩
    · obtain ⟨causal, window, answer, hdecided⟩ := exists_decided hfenced hattempted hadmitted hstart
      exact (recordOutcome_decided hfenced hadmitted hstart hdecided hkey hbody).2
    · cases hcall

theorem answersNamed_of_meets (h : MeetsReachable contracts AvoidsRecorded system) :
    CampaignReachable contracts system ∧ AnswersNamed system.db.receipts := by
  apply @Runs.Reachable.invariant _ _ (fun s => CampaignReachable contracts s ∧ AnswersNamed s.db.receipts) _ _ h
  · rintro _ rfl
    refine ⟨.start rfl, ?_⟩
    intro row hrow
    cases hrow
  · rintro s _ ⟨hreachable, hnamed⟩ ⟨call, dispatch, hmeets, rfl⟩
    refine ⟨hreachable.next ⟨call, dispatch, rfl⟩, ?_⟩
    exact hnamed.rows (fenced_of_reachable hreachable) (attempted_of_reachable hreachable) hmeets

theorem oneStatus_of_named (hreachable : CampaignReachable contracts system) (hnamed : AnswersNamed system.db.receipts)
    (hrow : row ∈ system.db.receipts) (hstart : row.receipt = .start start) : start.OneStatus contracts system.db := by
  have hfenced := fenced_of_reachable hreachable
  have hattempted := attempted_of_reachable hreachable
  have hrecordable := recordable_of_reachable hreachable
  cases hslot : system.db.row? ⟨start.campaignId, start.sampleId, some start.armId, .outcome, "one"⟩ with
  | none =>
    obtain ⟨causal, window, answer, hdecided⟩ := exists_decided hfenced hattempted hrow hstart
    refine ⟨admittedStatus causal window answer, ?_, ?_⟩
    · intro dispatch outcome t stored hkey h
      obtain ⟨-, -, -, -, -, -, ⟨-, -, other, hother, -⟩ | ⟨rfl, -⟩⟩ := recordOutcome_cases h
      · rw [ArmOutcome.slot_of_key hkey, hslot] at hother
        cases hother
      · exact recordOutcome_decided hfenced hrow hstart hdecided hkey h
    · intro dispatch hadmits hclock
      obtain ⟨outcome, hkey, hstatus, haccepts⟩ :=
        recordOutcome_accepts hfenced hattempted hrecordable hrow hstart hdecided hslot hadmits hclock
      refine ⟨outcome, hkey, hstatus, fun hfresh => ?_⟩
      obtain ⟨t, h⟩ := haccepts (receipt?_eq_none.mpr fun other hother hsha => by
        have hstored := outcome_row hfenced.journal hother (hfresh other hother hsha)
        rw [ArmOutcome.slot_of_key hkey, hslot] at hstored
        cases hstored)
      exact ⟨t, true, h⟩
  | some old =>
    obtain ⟨hold, hplace⟩ := row?_mem hslot
    obtain ⟨saved, hsaved⟩ : ∃ saved, old.receipt = .outcome saved := by
      have hkind : old.receipt.kind = .outcome := congrArg Slot.kind hplace
      cases hreceipt : old.receipt with
      | outcome saved => exact ⟨saved, rfl⟩
      | _ => simp [hreceipt, CampaignReceipt.kind] at hkind
    have hown : old.slot = saved.slot := ownSlot_of_mem hfenced.journal hold _ (by rw [hsaved]; rfl)
    rw [hplace] at hown
    simp only [ArmOutcome.slot, Slot.mk.injEq, Option.some.injEq] at hown
    obtain ⟨hcampaign, hsample, harm, -⟩ := hown
    have hkey : saved.key = start.key := by rw [ArmOutcome.key, AttemptStart.key, hcampaign, hsample, harm]
    refine ⟨saved.status, ?_, ?_⟩
    · intro dispatch outcome t stored hkey' h
      obtain ⟨-, -, -, -, -, -, ⟨-, -, other, hother, hreceipt⟩ | ⟨-, hnone, -⟩⟩ := recordOutcome_cases h
      · rw [ArmOutcome.slot_of_key hkey', hslot] at hother
        obtain rfl := Option.some.inj hother
        obtain rfl : outcome = saved := CampaignReceipt.outcome.inj (hreceipt.symm.trans hsaved)
        exact ⟨rfl, hnamed row hrow start hstart old hold outcome hsaved hkey⟩
      · rw [ArmOutcome.slot_of_key hkey', hslot] at hnone
        cases hnone
    · intro dispatch hadmits _
      refine ⟨saved, hkey, rfl, fun _ => ?_⟩
      obtain ⟨claim, hclaim, hid⟩ := hrecordable.claimed old hold saved hsaved
      obtain ⟨other, based, hbased, frozen, hfrozen⟩ := (hattempted.based row hrow start hstart).context
      obtain ⟨context, hcontext, causal, hguard⟩ := (admits_iff ⟨other, based, hbased⟩).mpr hadmits
      obtain rfl := campaignContext_unique hbased hcontext
      rw [hcampaign] at hcontext
      rw [hcampaign, hsample] at hguard
      rw [hsample] at hfrozen
      exact ⟨system.db, false, recordOutcome_of_stored hclaim hid hcontext hguard hfrozen
        (outcome_row hfenced.journal hold hsaved) hsaved⟩

theorem outcomes_sound (h : MeetsReachable contracts AvoidsRecorded system) : OutcomesSound contracts system := by
  obtain ⟨hreachable, hnamed⟩ := answersNamed_of_meets h
  have hfenced := fenced_of_reachable hreachable
  constructor
  · intro row hrow start hstart
    exact oneStatus_of_named hreachable hnamed hrow hstart
  · intro dispatch outcome t h
    exact recordOutcome_sound (attempted_of_reachable hreachable) hfenced.journal h
  · intro row hrow outcome hreceipt later hrun
    have hslot := (hfenced.readsIn hrun).row _ _ (outcome_row hfenced.journal hrow hreceipt)
    refine ⟨hslot, ?_⟩
    intro dispatch other t stored hkey h
    have hplace : other.slot = outcome.slot := by
      simp only [ArmOutcome.key, Prod.mk.injEq] at hkey
      rw [ArmOutcome.slot, ArmOutcome.slot, hkey.1, hkey.2.1, hkey.2.2]
    obtain ⟨-, -, -, -, -, -, ⟨hstored, hsame, other', hother, hreceipt'⟩ | ⟨-, hnone, -⟩⟩ := recordOutcome_cases h
    · rw [hplace, hslot] at hother
      obtain rfl := Option.some.inj hother
      exact ⟨CampaignReceipt.outcome.inj (hreceipt'.symm.trans hreceipt), hsame, hstored⟩
    · rw [hplace, hslot] at hnone
      cases hnone

end Runs

section Example

def exampleProposalOutcome : ArmOutcome :=
  { exampleOutcome .llmProposalResearch .proposal with
    evaluationReceiptSha256 := some "evaluation"
    attemptId := some "attempt-1"
    decisionReceiptSha256 := some "terminal:attempt-1" }

/-- The proposal of the example is its outcome. -/
theorem outcomes_sound_example : OutcomesSound exampleCausalContracts exampleProposed ∧
    (Transactions.run (recordOutcome exampleCausalContracts (some "scheduler-1") exampleProposalOutcome 1600000)
      exampleProposed.db).2 = .ok true := by
  constructor
  · exact outcomes_sound (RunMeets.reachable exampleCausalContracts AvoidsRecorded (by decide +kernel))
  · decide +kernel

/-- An attempt that is admitted after the outcome of its arm is not in the outcome that is accepted. -/
theorem outcome_without_attempt : ∃ s, CampaignReachable exampleCampaignContracts s ∧
    ¬OutcomesSound exampleCampaignContracts s := by
  refine ⟨_, runCampaignCalls_reachable exampleCampaignContracts exampleSuppressedCalls, fun h => ?_⟩
  set s := runCampaignCalls exampleCampaignContracts exampleSuppressedCalls .empty with hs
  have hfind : (s.db.startOf? "campaign-1" "window-1" .strategyReview).map decodeStart =
      some (.ok (exampleAttempt .strategyReview "attempt-1")) := by
    decide +kernel
  have haccepted : (Transactions.run (recordOutcome exampleCampaignContracts none
      (exampleOutcome .strategyReview .evaluatorFailed) 1300000) s.db).2 = .ok false := by
    decide +kernel
  obtain ⟨row, hrow, hdecode⟩ := Option.map_eq_some_iff.mp hfind
  obtain ⟨status, hone, -⟩ := h.oneStatus row (startOf?_mem hrow).1 _ (decodeStart_ok hdecode)
  have hattempt := (hone (atMs 1300) _ _ _ rfl (Transactions.eq_ok_of_run haccepted)).2
  cases hattempt

end Example

end KairosPersistence
