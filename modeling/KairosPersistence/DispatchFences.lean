import KairosPersistence.CampaignJournal

/-!
The fences of a campaign's dispatch: its windows are claimed once and in order,
and each arm of a sample is admitted once.
-/

namespace KairosPersistence

open Relation

variable {contracts : CampaignContracts} {s t : CampaignSystem} {db : CampaignDatabase} {dispatch : Dispatch}
  {call : CampaignCall} {campaignId : String} {claim : WindowClaim}

section Claims

/-- The windows of a campaign that are claimed, the first one first. -/
def claimedIds (db : CampaignDatabase) (campaignId : String) : List String :=
  ((db.claims.filter (·.claim.campaignId = campaignId)).map (·.claim.sampleId)).reverse

theorem claim?_eq_none {sampleId : String} : db.claim? campaignId sampleId = none ↔ sampleId ∉ claimedIds db campaignId := by
  rw [CampaignDatabase.claim?, List.find?_eq_none, claimedIds, List.mem_reverse]
  simp only [decide_eq_true_eq, Prod.mk.injEq, List.mem_map, List.mem_filter, not_exists, not_and]
  constructor
  · rintro h row ⟨hrow, hcampaign⟩ hsample
    exact h row hrow hcampaign hsample
  · rintro h row hrow hcampaign hsample
    exact h row ⟨hrow, hcampaign⟩ hsample

/-- A claim is of the next window of the roster, which is due. -/
theorem Claims.next (h : Claims contracts dispatch.scheduler dispatch.clock s.db campaignId claim db)
    (hids : ((s.db.research.roster campaignId).map (·.sampleId)).Nodup)
    (hclaimed : claimedIds s.db campaignId <+: (s.db.research.roster campaignId).map (·.sampleId)) :
    claimedIds db campaignId <+: (db.research.roster campaignId).map (·.sampleId) ∧
      ∃ window ∈ db.research.roster campaignId, window.sampleId = claim.sampleId ∧
        window.marketAsOfTsMs ≤ claim.claimedAtTsMs := by
  obtain ⟨window, hwindow, hsample⟩ := h.window
  have hfind : (s.db.research.roster campaignId).find? (fun window =>
      window.marketAsOfTsMs ≤ clockMs dispatch.scheduler dispatch.clock ∧
        window.sampleId ∉ claimedIds s.db campaignId) = some window := by
    simp only [← claim?_eq_none]
    exact hwindow
  have hdue : (s.db.research.roster campaignId).Pairwise fun a b =>
      b.marketAsOfTsMs ≤ clockMs dispatch.scheduler dispatch.clock →
        a.marketAsOfTsMs ≤ clockMs dispatch.scheduler dispatch.clock :=
    (s.db.research.roster_sorted campaignId).imp fun hle hb => (ObservationWindow.marketAsOf_le_of_rank hle).trans hb
  have hnext := KeyedRows.prefix_of_find? hids hdue hclaimed hfind
  have hids' : claimedIds db campaignId = claimedIds s.db campaignId ++ [window.sampleId] := by
    rw [h.rows, claimedIds, List.filter_cons_of_pos (by simpa using h.campaign), List.map_cons, List.reverse_cons, hsample]
    rfl
  have hmatch := List.find?_some hfind
  simp only [decide_eq_true_eq] at hmatch
  rw [hids', h.rows]
  exact ⟨hnext, window, List.mem_of_find?_eq_some hfind, hsample.symm, h.claimedAt ▸ hmatch.1⟩

theorem CampaignCall.Leaves.claims (h : call.Leaves contracts dispatch s.db db) :
    db.claims = s.db.claims ∨ ∃ campaignId, call = .claimNext campaignId := by
  cases h with
  | nothing => exact Or.inl rfl
  | row => exact Or.inl rfl
  | research => exact Or.inl rfl
  | plan hregisters => exact Or.inl (by rw [hregisters.rows])
  | claim => exact Or.inr ⟨_, rfl⟩
  | denominator => exact Or.inl rfl

/-- A call claims a window, or it leaves the claims as they are. -/
theorem CampaignCall.claims_cases (hlog : JournalAccepted contracts s.db.receipts) (call : CampaignCall)
    (dispatch : Dispatch) :
    (call.rows contracts dispatch s).claims = s.db.claims ∧ call.claims contracts dispatch s = [] ∨
      ∃ campaignId claim, call.claims contracts dispatch s = [⟨dispatch, claim⟩] ∧
        Claims contracts dispatch.scheduler dispatch.clock s.db campaignId claim (call.rows contracts dispatch s) := by
  have hleaves := call.leaves hlog dispatch
  cases call with
  | claimNext campaignId =>
    cases hrun : KairosPersistence.claimNext contracts dispatch.scheduler campaignId dispatch.clock s.db with
    | error e =>
      simp only [CampaignCall.rows, CampaignCall.claims, Transactions.run, hrun]
      exact Or.inl ⟨trivial, trivial⟩
    | ok result =>
      obtain ⟨db, claim⟩ := result
      simp only [CampaignCall.rows, CampaignCall.claims, Transactions.run, hrun]
      rcases claimNext_ok hrun with ⟨rfl, rfl⟩ | ⟨claim, rfl, hclaims⟩
      · exact Or.inl ⟨rfl, rfl⟩
      · exact Or.inr ⟨campaignId, claim, rfl, hclaims⟩
  | _ =>
    refine Or.inl ⟨hleaves.claims.resolve_right ?_, rfl⟩
    rintro ⟨_, heq⟩
    cases heq

end Claims

section Admissions

/-- The arm of a sample that an attempt is of. -/
def AttemptStart.key (attempt : AttemptStart) : String × String × ResearchArm :=
  (attempt.campaignId, attempt.sampleId, attempt.armId)

/-- A call admits an attempt that it has stored in the admission interval of its window, or it admits none. -/
theorem CampaignCall.admits_cases (contracts : CampaignContracts) (s : CampaignSystem) (call : CampaignCall)
    (dispatch : Dispatch) : call.admits contracts dispatch s = [] ∨
    ∃ attempt, call.admits contracts dispatch s = [⟨dispatch, attempt⟩] ∧
      Stores s.db (receiptRow contracts attempt.campaignId attempt.sampleId (some attempt.armId) attempt.attemptId
        (.start attempt) dispatch.clock) (call.rows contracts dispatch s) ∧
      ∃ roster, s.db.research.schedule? attempt.campaignId = some roster ∧
        ∃ window, roster.payload.window? attempt.sampleId = some window ∧
          window.marketAsOfTsMs ≤ clockMs dispatch.scheduler dispatch.clock ∧
          clockMs dispatch.scheduler dispatch.clock < window.pairedAtTsMs := by
  cases call with
  | startAttempt attempt delivered =>
    cases delivered with
    | false => exact Or.inl rfl
    | true =>
      cases hrun : KairosPersistence.startAttempt contracts dispatch.scheduler attempt dispatch.clock s.db with
      | error e =>
        left
        simp only [CampaignCall.admits, Transactions.run, hrun]
      | ok result =>
        obtain ⟨db, admitted⟩ := result
        simp only [CampaignCall.rows, CampaignCall.admits, Transactions.run, hrun]
        rcases startAttempt_ok hrun with ⟨rfl, rfl⟩ | ⟨rfl, hstores, context, hcontext, window, hwindow, hclock⟩
        · exact Or.inl rfl
        · obtain ⟨-, -, roster, hroster, hschedule⟩ := campaignContext_ok hcontext
          exact Or.inr ⟨attempt, rfl, hstores, roster, hroster, window, hschedule ▸ hwindow, hclock⟩
  | _ => exact Or.inl rfl

end Admissions

section Fences

/-- What every run keeps of the claims and of the admissions. -/
structure Fenced (contracts : CampaignContracts) (s : CampaignSystem) : Prop where
  research : s.db.research.Consistent contracts.toResearchContracts s.db.research.txid
  journal : JournalAccepted contracts s.db.receipts
  planned : ∀ plan ∈ s.db.plans, ∃ roster ∈ s.db.research.schedules, roster.campaignId = plan.plan.campaignId
  claimPlanned : ∀ row ∈ s.db.claims, ∃ plan ∈ s.db.plans, plan.plan.campaignId = row.claim.campaignId
  claimed : ∀ campaignId, claimedIds s.db campaignId <+: (s.db.research.roster campaignId).map (·.sampleId)
  claimLog : s.claimed.map (·.claim) = s.db.claims.map (·.claim)
  due : ∀ d ∈ s.claimed, d.claim.claimedAtTsMs = clockMs d.scheduler d.clock ∧
    ∃ window ∈ s.db.research.roster d.claim.campaignId, window.sampleId = d.claim.sampleId ∧
      window.marketAsOfTsMs ≤ d.claim.claimedAtTsMs
  admittedStart : ∀ a ∈ s.admitted, ∃ row ∈ s.db.receipts, row.receipt = .start a.attempt
  admittedOnce : (s.admitted.map (·.attempt.key)).Nodup
  inWindow : ∀ a ∈ s.admitted, ∃ roster ∈ s.db.research.schedules, roster.campaignId = a.attempt.campaignId ∧
    ∃ window ∈ s.db.research.roster a.attempt.campaignId, window.sampleId = a.attempt.sampleId ∧
      window.marketAsOfTsMs ≤ clockMs a.scheduler a.clock ∧ clockMs a.scheduler a.clock < window.pairedAtTsMs

theorem Fenced.start : Fenced contracts .empty := by
  constructor
  case research => exact .start
  case journal => exact .nil
  all_goals simp [CampaignSystem.empty, CampaignDatabase.empty, claimedIds]

/-- The frozen rosters stay, and the plans are of frozen rosters. -/
structure KeepsFrozen (contracts : CampaignContracts) (s db : CampaignDatabase) : Prop where
  research : db.research.Consistent contracts.toResearchContracts (db.research.txid + 1)
  grows : db.research.Extends s.research
  roster : ∀ roster ∈ s.research.schedules, db.research.roster roster.campaignId = s.research.roster roster.campaignId
  plans : s.plans <:+ db.plans
  planned : ∀ plan ∈ db.plans, ∃ roster ∈ db.research.schedules, roster.campaignId = plan.plan.campaignId

theorem Fenced.keepsFrozen (h : Fenced contracts s) (call : CampaignCall) (dispatch : Dispatch) :
    KeepsFrozen contracts s.db (call.rows contracts dispatch s) := by
  have hleaves := call.leaves h.journal dispatch
  have hmono := h.research.mono (Nat.le_succ s.db.research.txid)
  generalize call.rows contracts dispatch s = db at hleaves
  have hsame : KeepsFrozen contracts s.db s.db := ⟨hmono, .refl _, fun _ _ => rfl, List.suffix_refl _, h.planned⟩
  cases hleaves with
  | nothing => exact hsame
  | row => exact ⟨hmono, .refl _, fun _ _ => rfl, List.suffix_refl _, h.planned⟩
  | @research call now =>
    have hrows := (h.research.rows call now).congr (t := { call.rows contracts.toResearchContracts now s.db.research with
      txid := s.db.research.txid }) ⟨rfl, rfl, rfl, rfl, rfl⟩
    have hextends : ResearchDatabase.Extends { call.rows contracts.toResearchContracts now s.db.research with
        txid := s.db.research.txid } s.db.research :=
      { @ResearchCall.extends_rows contracts.toResearchContracts call now s.db.research with }
    refine ⟨hrows, hextends, fun roster hroster => h.research.roster_eq hrows hextends hroster, List.suffix_refl _, ?_⟩
    intro plan hplan
    obtain ⟨roster, hroster, heq⟩ := h.planned plan hplan
    exact ⟨roster, hextends.schedules.subset hroster, heq⟩
  | plan hregisters =>
    rw [hregisters.rows]
    refine ⟨hmono, .refl _, fun _ _ => rfl, List.suffix_cons _ _, List.forall_mem_cons.mpr ⟨hregisters.frozen, h.planned⟩⟩
  | claim hclaims =>
    rw [hclaims.rows]
    exact ⟨hmono, .refl _, fun _ _ => rfl, List.suffix_refl _, h.planned⟩
  | denominator => exact ⟨hmono, .refl _, fun _ _ => rfl, List.suffix_refl _, h.planned⟩

theorem Fenced.roster_claimed (h : Fenced contracts s) (hkeeps : KeepsFrozen contracts s.db db) {row : ClaimRow}
    (hrow : row ∈ s.db.claims) : db.research.roster row.claim.campaignId = s.db.research.roster row.claim.campaignId := by
  obtain ⟨plan, hplan, hid⟩ := h.claimPlanned row hrow
  obtain ⟨roster, hroster, heq⟩ := h.planned plan hplan
  rw [← hid, ← heq]
  exact hkeeps.roster roster hroster

/-- What is claimed stays a prefix of the roster. -/
theorem Fenced.claimed_kept (h : Fenced contracts s) (hkeeps : KeepsFrozen contracts s.db db)
    (hclaims : db.claims = s.db.claims) (campaignId : String) :
    claimedIds db campaignId <+: (db.research.roster campaignId).map (·.sampleId) := by
  have hids : claimedIds db campaignId = claimedIds s.db campaignId := by rw [claimedIds, claimedIds, hclaims]
  rw [hids]
  by_cases hsome : ∃ row ∈ s.db.claims, row.claim.campaignId = campaignId
  · obtain ⟨row, hrow, rfl⟩ := hsome
    rw [h.roster_claimed hkeeps hrow]
    exact h.claimed _
  · have hnil : claimedIds s.db campaignId = [] := by
      rw [claimedIds, List.filter_eq_nil_iff.mpr]
      · rfl
      · intro row hrow
        simpa using fun heq => hsome ⟨row, hrow, heq⟩
    rw [hnil]
    exact List.nil_prefix

theorem Fenced.due_kept (h : Fenced contracts s) (hkeeps : KeepsFrozen contracts s.db db) {d : DispatchedClaim}
    (hd : d ∈ s.claimed) : d.claim.claimedAtTsMs = clockMs d.scheduler d.clock ∧
      ∃ window ∈ db.research.roster d.claim.campaignId, window.sampleId = d.claim.sampleId ∧
        window.marketAsOfTsMs ≤ d.claim.claimedAtTsMs := by
  have hmem : d.claim ∈ s.db.claims.map (·.claim) := h.claimLog ▸ List.mem_map_of_mem hd
  obtain ⟨row, hrow, heq⟩ := List.mem_map.mp hmem
  have hroster := h.roster_claimed hkeeps hrow
  rw [heq] at hroster
  rw [hroster]
  exact h.due d hd

theorem Fenced.inWindow_kept (h : Fenced contracts s) (hkeeps : KeepsFrozen contracts s.db db) {a : AdmittedStart}
    (ha : a ∈ s.admitted) : ∃ roster ∈ db.research.schedules, roster.campaignId = a.attempt.campaignId ∧
      ∃ window ∈ db.research.roster a.attempt.campaignId, window.sampleId = a.attempt.sampleId ∧
        window.marketAsOfTsMs ≤ clockMs a.scheduler a.clock ∧ clockMs a.scheduler a.clock < window.pairedAtTsMs := by
  obtain ⟨roster, hroster, hid, hwindow⟩ := h.inWindow a ha
  refine ⟨roster, hkeeps.grows.schedules.subset hroster, hid, ?_⟩
  rw [← hid, hkeeps.roster roster hroster, hid]
  exact hwindow

/-- The claims of a call, on top of the older ones. -/
theorem Fenced.claims_step (h : Fenced contracts s) (call : CampaignCall) (dispatch : Dispatch) :
    (∀ row ∈ (call.rows contracts dispatch s).claims, ∃ plan ∈ (call.rows contracts dispatch s).plans,
      plan.plan.campaignId = row.claim.campaignId) ∧
    (∀ campaignId, claimedIds (call.rows contracts dispatch s) campaignId <+:
      ((call.rows contracts dispatch s).research.roster campaignId).map (·.sampleId)) ∧
    (call.claims contracts dispatch s ++ s.claimed).map (·.claim) = (call.rows contracts dispatch s).claims.map (·.claim) ∧
    ∀ d ∈ call.claims contracts dispatch s ++ s.claimed, d.claim.claimedAtTsMs = clockMs d.scheduler d.clock ∧
      ∃ window ∈ (call.rows contracts dispatch s).research.roster d.claim.campaignId,
        window.sampleId = d.claim.sampleId ∧ window.marketAsOfTsMs ≤ d.claim.claimedAtTsMs := by
  have hkeeps := h.keepsFrozen call dispatch
  have hcases := call.claims_cases h.journal dispatch
  generalize call.rows contracts dispatch s = db at hkeeps hcases ⊢
  rcases hcases with ⟨hclaims, hnone⟩ | ⟨campaignId, claim, hclaim, hclaims⟩
  · rw [hnone, List.nil_append]
    refine ⟨?_, h.claimed_kept hkeeps hclaims, hclaims ▸ h.claimLog, fun d hd => h.due_kept hkeeps hd⟩
    rw [hclaims]
    intro row hrow
    obtain ⟨plan, hplan, heq⟩ := h.claimPlanned row hrow
    exact ⟨plan, hkeeps.plans.subset hplan, heq⟩
  · have hnext := hclaims.next (h.research.roster_sampleIds campaignId) (h.claimed campaignId)
    have hcampaign := hclaims.campaign
    rw [hclaim, List.singleton_append]
    refine ⟨?_, ?_, ?_, List.forall_mem_cons.mpr ⟨⟨hclaims.claimedAt, hcampaign ▸ hnext.2⟩, fun d hd => h.due_kept hkeeps hd⟩⟩
    · rw [hclaims.rows]
      exact List.forall_mem_cons.mpr ⟨hcampaign ▸ hclaims.planned, h.claimPlanned⟩
    · intro other
      by_cases heq : other = campaignId
      · rw [heq]
        exact hnext.1
      · have hids : claimedIds db other = claimedIds s.db other := by
          rw [hclaims.rows, claimedIds, List.filter_cons_of_neg (by simpa [hcampaign] using Ne.symm heq)]
          rfl
        rw [hids, hclaims.rows]
        exact h.claimed other
    · rw [hclaims.rows, List.map_cons, List.map_cons, h.claimLog]

/-- The admissions of a call, on top of the older ones. -/
theorem Fenced.admissions_step (h : Fenced contracts s) (call : CampaignCall) (dispatch : Dispatch) :
    (∀ a ∈ call.admits contracts dispatch s ++ s.admitted, ∃ row ∈ (call.rows contracts dispatch s).receipts,
      row.receipt = .start a.attempt) ∧
    ((call.admits contracts dispatch s ++ s.admitted).map (·.attempt.key)).Nodup ∧
    ∀ a ∈ call.admits contracts dispatch s ++ s.admitted,
      ∃ roster ∈ (call.rows contracts dispatch s).research.schedules, roster.campaignId = a.attempt.campaignId ∧
        ∃ window ∈ (call.rows contracts dispatch s).research.roster a.attempt.campaignId,
          window.sampleId = a.attempt.sampleId ∧ window.marketAsOfTsMs ≤ clockMs a.scheduler a.clock ∧
          clockMs a.scheduler a.clock < window.pairedAtTsMs := by
  have hkeeps := h.keepsFrozen call dispatch
  have hjournal := ((call.leaves h.journal dispatch).journal h.journal).2
  have hold : ∀ a ∈ s.admitted, ∃ row ∈ (call.rows contracts dispatch s).receipts, row.receipt = .start a.attempt := by
    intro a ha
    obtain ⟨row, hrow, hreceipt⟩ := h.admittedStart a ha
    exact ⟨row, hjournal.subset hrow, hreceipt⟩
  rcases call.admits_cases contracts s dispatch with
    hnone | ⟨attempt, hadmits, hstores, roster, hroster, window, hwindow, hclock⟩
  · rw [hnone, List.nil_append]
    exact ⟨hold, h.admittedOnce, fun a ha => h.inWindow_kept hkeeps ha⟩
  · rw [hadmits, List.singleton_append]
    refine ⟨List.forall_mem_cons.mpr ⟨⟨_, by rw [hstores.rows]; exact List.mem_cons_self, rfl⟩, hold⟩, ?_,
      List.forall_mem_cons.mpr ⟨?_, fun a ha => h.inWindow_kept hkeeps ha⟩⟩
    · -- an admitted START of the arm is in the journal, which has none
      apply KeyedRows.nodup_cons h.admittedOnce
      intro a ha hkey
      obtain ⟨row, hrow, hreceipt⟩ := h.admittedStart a ha
      have hslot := ownSlot_of_mem h.journal hrow _ (by rw [hreceipt]; rfl)
      simp only [ReceiptRow.slot, Slot.mk.injEq] at hslot
      simp only [AttemptStart.key, Prod.mk.injEq] at hkey
      refine hstores.oneStart rfl row hrow (by rw [hreceipt]; rfl) ?_
      simp only [receiptRow, hslot.1, hslot.2.1, hslot.2.2.1, hkey]
    · obtain ⟨hmem, hid⟩ := ResearchDatabase.schedule?_mem hroster
      refine ⟨roster, hkeeps.grows.schedules.subset hmem, hid, window, ?_, ?_, hclock⟩
      · rw [← hid, hkeeps.roster roster hmem]
        exact (h.research.roster_perm hmem).symm.subset (List.mem_of_find?_eq_some hwindow)
      · simpa using List.find?_some hwindow

theorem Fenced.step (h : Fenced contracts s) (hstep : CampaignStep contracts s t) : Fenced contracts t := by
  obtain ⟨call, dispatch, rfl⟩ := hstep
  have hkeeps := h.keepsFrozen call dispatch
  obtain ⟨hplanned, hclaimed, hlog, hdue⟩ := h.claims_step call dispatch
  obtain ⟨hstart, honce, hwindow⟩ := h.admissions_step call dispatch
  exact
    { research := hkeeps.research.congr ⟨rfl, rfl, rfl, rfl, rfl⟩
      journal := ((call.leaves h.journal dispatch).journal h.journal).1
      planned := hkeeps.planned
      claimPlanned := hplanned
      claimed := hclaimed
      claimLog := hlog
      due := hdue
      admittedStart := hstart
      admittedOnce := honce
      inWindow := hwindow }

theorem fenced_of_reachable (h : CampaignReachable contracts s) : Fenced contracts s := by
  apply @Runs.Reachable.invariant _ _ (Fenced contracts) _ _ h
  · rintro _ rfl
    exact .start
  · exact fun _ _ hs hstep => hs.step hstep

/-- A reading of the clock that has reached a millisecond: a process without a scheduler is never early, one that has
opted into a scheduler by less than a millisecond. -/
def Dispatch.Reached (dispatch : Dispatch) (ms : ℕ) : Prop :=
  (dispatch.scheduler = none → 1000 * ms ≤ dispatch.clock) ∧ 1000 * ms < dispatch.clock + 1000

theorem Dispatch.reached_of_le {ms : ℕ} (h : ms ≤ clockMs dispatch.scheduler dispatch.clock) : dispatch.Reached ms := by
  unfold clockMs floorMs ceilMs at h
  constructor
  · intro hnone
    rw [if_pos hnone] at h
    omega
  · split at h <;> omega

theorem Dispatch.before_of_lt {ms : ℕ} (h : clockMs dispatch.scheduler dispatch.clock < ms) : dispatch.clock < 1000 * ms := by
  unfold clockMs floorMs ceilMs at h
  split at h <;> omega

theorem Fenced.claimed_nodup (h : Fenced contracts s) : (s.db.claims.map fun row => (row.claim.campaignId, row.claim.sampleId)).Nodup := by
  rw [List.Nodup, List.pairwise_map]
  rw [List.pairwise_iff_getElem]
  intro i j hi hj hlt heq
  have hids := (h.claimed s.db.claims[i].claim.campaignId).sublist.nodup (h.research.roster_sampleIds _)
  rw [claimedIds, List.nodup_reverse, List.Nodup, List.pairwise_map, List.pairwise_filter, List.pairwise_iff_getElem] at hids
  simp only [Prod.mk.injEq] at heq
  exact hids i j hi hj hlt (by simp) (by simpa using heq.1.symm) heq.2

theorem startRows_nodup {rows : List ReceiptRow} (h : JournalAccepted contracts rows) :
    ((startRows rows).map fun row => (row.campaignId, row.sampleId, row.arm)).Nodup := by
  induction rows with
  | nil => exact List.nodup_nil
  | cons row rows ih =>
    obtain ⟨hrow, hrows⟩ := AcceptedLogs.accepted_cons.mp h
    unfold startRows
    by_cases hkind : row.receipt.kind = .start
    · rw [List.filter_cons_of_pos (by simpa using hkind)]
      apply KeyedRows.nodup_cons (ih hrows)
      intro other hother
      rw [startRows, List.mem_filter, decide_eq_true_eq] at hother
      exact hrow.oneStart hkind other hother.1 hother.2
    · rw [List.filter_cons_of_neg (by simpa using hkind)]
      exact ih hrows

/-- The fences of the dispatch of a campaign. -/
structure DispatchFenced (contracts : CampaignContracts) (s : CampaignSystem) : Prop where
  claimedOnce : (s.db.claims.map fun row => (row.claim.campaignId, row.claim.sampleId)).Nodup
  ordered : ∀ campaignId, (s.db.research.roster campaignId).Pairwise ObservationWindow.Before ∧
    claimedIds s.db campaignId <+: (s.db.research.roster campaignId).map (·.sampleId)
  claimLog : s.claimed.map (·.claim) = s.db.claims.map (·.claim)
  due : ∀ d ∈ s.claimed, ∃ window ∈ s.db.research.roster d.claim.campaignId, window.sampleId = d.claim.sampleId ∧
    d.Reached window.marketAsOfTsMs
  oneStart : ((startRows s.db.receipts).map fun row => (row.campaignId, row.sampleId, row.arm)).Nodup
  admittedOnce : (s.admitted.map (·.attempt.key)).Nodup
  admittedStart : ∀ a ∈ s.admitted, ∃ row ∈ s.db.receipts, row.receipt = .start a.attempt
  inWindow : ∀ a ∈ s.admitted, ∃ window ∈ s.db.research.roster a.attempt.campaignId,
    window.sampleId = a.attempt.sampleId ∧ a.Reached window.marketAsOfTsMs ∧ a.clock < 1000 * window.pairedAtTsMs
  kept : ∀ t, ReflTransGen (CampaignStep contracts) s t → s.db.claims <:+ t.db.claims ∧ s.db.receipts <:+ t.db.receipts

theorem Fenced.extends (h : Fenced contracts s) (hrun : ReflTransGen (CampaignStep contracts) s t) :
    Fenced contracts t ∧ s.db.claims <:+ t.db.claims ∧ s.db.receipts <:+ t.db.receipts := by
  induction hrun with
  | refl => exact ⟨h, List.suffix_refl _, List.suffix_refl _⟩
  | tail _ hstep ih =>
    obtain ⟨hfenced, hclaims, hreceipts⟩ := ih
    refine ⟨hfenced.step hstep, hclaims.trans ?_, hreceipts.trans (hstep.journal hfenced.journal).2⟩
    obtain ⟨call, dispatch, rfl⟩ := hstep
    change _ <:+ (call.rows contracts dispatch _).claims
    rcases call.claims_cases hfenced.journal dispatch with ⟨heq, -⟩ | ⟨_, _, -, hnext⟩
    · rw [heq]
    · rw [hnext.rows]
      exact List.suffix_cons _ _

theorem dispatch_fenced (h : CampaignReachable contracts s) : DispatchFenced contracts s := by
  have hfenced := fenced_of_reachable h
  exact
    { claimedOnce := hfenced.claimed_nodup
      ordered := fun campaignId => ⟨hfenced.research.roster_before campaignId, hfenced.claimed campaignId⟩
      claimLog := hfenced.claimLog
      due := by
        intro d hd
        obtain ⟨hclock, window, hwindow, hsample, hdue⟩ := hfenced.due d hd
        exact ⟨window, hwindow, hsample, Dispatch.reached_of_le (hclock ▸ hdue)⟩
      oneStart := startRows_nodup hfenced.journal
      admittedOnce := hfenced.admittedOnce
      admittedStart := hfenced.admittedStart
      inWindow := by
        intro a ha
        obtain ⟨-, -, -, window, hwindow, hsample, hfrom, huntil⟩ := hfenced.inWindow a ha
        exact ⟨window, hwindow, hsample, Dispatch.reached_of_le hfrom, Dispatch.before_of_lt huntil⟩
      kept := fun t hrun => (hfenced.extends hrun).2 }

theorem dispatch_fenced_example : DispatchFenced exampleCampaignContracts (runCampaignCalls exampleCampaignContracts
    (exampleFrozenCalls ++ [(.startAttempt (exampleAttempt .strategyReview "attempt-1") true, atMs 1200)]) .empty) :=
  dispatch_fenced (runCampaignCalls_reachable _ _)

/-- A process with a scheduler claims a window half a millisecond before it. -/
def exampleEarlyCalls : List (CampaignCall × Dispatch) :=
  exampleFrozenCalls.take 6 ++ [(.claimNext "campaign-1", ⟨some "scheduler-1", 999500, 999500⟩)]

theorem claim_before_market_as_of : ∃ s, CampaignReachable exampleCampaignContracts s ∧
    ∃ d ∈ s.claimed, ∃ window ∈ s.db.research.roster d.claim.campaignId, window.sampleId = d.claim.sampleId ∧
      d.clock < 1000 * window.marketAsOfTsMs := by
  refine ⟨_, runCampaignCalls_reachable exampleCampaignContracts exampleEarlyCalls, ?_⟩
  decide +kernel

end Fences

end KairosPersistence
