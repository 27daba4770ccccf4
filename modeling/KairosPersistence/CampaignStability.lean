import KairosPersistence.DispatchFences

/-!
What a campaign has read of its database reads the same in every later state:
rows are only added, and none takes the place of another.
-/

namespace KairosPersistence

open Relation
open Transactions (bind_ok require_ok require_pos found_ok ok_bind)

variable {contracts : CampaignContracts} {s t u : CampaignDatabase} {scheduler : Option String}
  {campaignId sampleId : String}

/-- What is read in the one database is read in the other. -/
structure CampaignDatabase.ReadsIn (contracts : CampaignContracts) (s t : CampaignDatabase) : Prop where
  context : ∀ scheduler campaignId context, campaignContext contracts scheduler s campaignId = .ok context →
    campaignContext contracts scheduler t campaignId = .ok context
  claim : ∀ campaignId sampleId row, s.claim? campaignId sampleId = some row → t.claim? campaignId sampleId = some row
  row : ∀ slot row, s.row? slot = some row → t.row? slot = some row
  receipt : ∀ sha row, s.receipt? sha = some row → t.receipt? sha = some row
  journal : s.receipts <:+ t.receipts

theorem CampaignDatabase.ReadsIn.refl (s : CampaignDatabase) : s.ReadsIn contracts s :=
  ⟨fun _ _ _ h => h, fun _ _ _ h => h, fun _ _ h => h, fun _ _ h => h, List.suffix_refl _⟩

theorem CampaignDatabase.ReadsIn.trans (hst : s.ReadsIn contracts t) (htu : t.ReadsIn contracts u) :
    s.ReadsIn contracts u where
  context _ _ _ h := htu.context _ _ _ (hst.context _ _ _ h)
  claim _ _ _ h := htu.claim _ _ _ (hst.claim _ _ _ h)
  row _ _ h := htu.row _ _ (hst.row _ _ h)
  receipt _ _ h := htu.receipt _ _ (hst.receipt _ _ h)
  journal := hst.journal.trans htu.journal

section Steps

/-- The context of a campaign is what was frozen of it. -/
theorem campaignContext_kept (hplan : ∀ row, s.plan? campaignId = some row → t.plan? campaignId = some row)
    (hschedule : ∀ row, s.research.schedule? campaignId = some row → t.research.schedule? campaignId = some row ∧
      t.research.roster row.campaignId = s.research.roster row.campaignId)
    (hprotocol : ∀ row, s.research.protocol? campaignId = some row → t.research.protocol? campaignId = some row)
    {context : CampaignContext} (h : campaignContext contracts scheduler s campaignId = .ok context) :
    campaignContext contracts scheduler t campaignId = .ok context := by
  obtain ⟨planRow, hfound, h⟩ := bind_ok h
  obtain ⟨⟨schedule, protocol⟩, hidentity, h⟩ := bind_ok h
  have hidentity' : campaignIdentity contracts t campaignId = .ok (schedule, protocol) := by
    obtain ⟨row, hrow, hidentity⟩ := bind_ok hidentity
    obtain ⟨protocolRow, hprotocolRow, hidentity⟩ := bind_ok hidentity
    obtain ⟨_, hverify, hidentity⟩ := bind_ok hidentity
    obtain ⟨hrow', hroster⟩ := hschedule _ (found_ok hrow)
    have hverify' : verifySchedule t.research row row.payload = .ok () := by
      obtain ⟨_, hcolumns, hverify⟩ := bind_ok hverify
      have hcampaign := (require_ok hcolumns).1
      rw [verifySchedule, hcolumns, ok_bind, ← hcampaign, hroster, hcampaign]
      exact hverify
    rw [campaignIdentity, hrow', Transactions.found_some, ok_bind, hprotocol _ (found_ok hprotocolRow),
      Transactions.found_some, ok_bind]
    dsimp only
    rw [hverify', ok_bind]
    exact hidentity
  rw [campaignContext, hplan _ (found_ok hfound), Transactions.found_some, ok_bind, hidentity', ok_bind]
  exact h

/-- A row on top of the journal hides none of the older ones. -/
theorem readsIn_cons {row : ReceiptRow} (h : row.Accepted contracts s.receipts) :
    s.ReadsIn contracts { s with receipts := row :: s.receipts } := by
  constructor
  · intro scheduler campaignId context hcontext
    exact hcontext
  · intro campaignId sampleId claim hclaim
    exact hclaim
  · intro slot other hother
    obtain ⟨hmem, rfl⟩ := row?_mem hother
    rw [CampaignDatabase.row?, List.find?_cons_of_neg (by simpa using (h.fresh other hmem).symm)]
    exact hother
  · intro sha other hother
    obtain ⟨hmem, rfl⟩ := @KeyedRows.find?_mem _ _ (fun row : ReceiptRow => row.receiptSha256) _ _ _ _ hother
    rw [CampaignDatabase.receipt?, List.find?_cons_of_neg (by simpa using (h.newSha other hmem).symm)]
    exact hother
  · exact List.suffix_cons _ _

/-- A plan is of a campaign that had none. -/
theorem readsIn_plan {row : PlanRow} (h : Registers s row t) : s.ReadsIn contracts t := by
  obtain ⟨hfresh, -, rfl⟩ := h
  constructor
  · intro scheduler campaignId context hcontext
    apply campaignContext_kept _ _ _ hcontext
    · intro plan hplan
      have hother : row.plan.campaignId ≠ campaignId := by
        rintro rfl
        rw [hfresh] at hplan
        cases hplan
      rw [CampaignDatabase.plan?, List.find?_cons_of_neg (by simpa using hother)]
      exact hplan
    · intro roster hroster
      exact ⟨hroster, rfl⟩
    · intro protocol hprotocol
      exact hprotocol
  · exact fun _ _ _ h => h
  · exact fun _ _ h => h
  · exact fun _ _ h => h
  · exact List.suffix_refl _

/-- A claim is of a window that had none. -/
theorem readsIn_claim {clock : ℕ} {claim : WindowClaim} (h : Claims contracts scheduler clock s campaignId claim t) :
    s.ReadsIn contracts t := by
  obtain ⟨-, hcampaign, ⟨window, hwindow, hsample⟩, -, rfl⟩ := h
  have hnone := List.find?_some hwindow
  simp only [decide_eq_true_eq] at hnone
  constructor
  · exact fun _ _ _ h => h
  · intro campaignId' sampleId' row hrow
    have hother : (claim.campaignId, claim.sampleId) ≠ (campaignId', sampleId') := by
      rw [hcampaign, hsample]
      intro heq
      obtain ⟨rfl, rfl⟩ := Prod.mk.inj heq
      rw [hnone.2] at hrow
      cases hrow
    rw [CampaignDatabase.claim?, List.find?_cons_of_neg (by simpa using hother)]
    exact hrow
  · exact fun _ _ h => h
  · exact fun _ _ h => h
  · exact List.suffix_refl _

/-- What is frozen of research stays. -/
theorem KeepsFrozen.context (h : KeepsFrozen contracts s t) (hplans : t.plans = s.plans) {context : CampaignContext}
    (hcontext : campaignContext contracts scheduler s campaignId = .ok context) :
    campaignContext contracts scheduler t campaignId = .ok context := by
  apply campaignContext_kept _ _ _ hcontext
  · intro row hrow
    rw [CampaignDatabase.plan?, hplans]
    exact hrow
  · intro row hrow
    obtain ⟨hmem, rfl⟩ := ResearchDatabase.schedule?_mem hrow
    exact ⟨h.research.schedule?_eq (h.grows.schedules.subset hmem), h.roster row hmem⟩
  · intro row hrow
    obtain ⟨hmem, rfl⟩ := ResearchDatabase.protocol?_mem hrow
    exact h.research.protocol?_eq (h.grows.protocols.subset hmem)

variable {system next : CampaignSystem}

theorem Fenced.readsIn_rows (h : Fenced contracts system) (call : CampaignCall) (dispatch : Dispatch) :
    system.db.ReadsIn contracts (call.rows contracts dispatch system) := by
  have hleaves := call.leaves h.journal dispatch
  have hkeeps := h.keepsFrozen call dispatch
  generalize call.rows contracts dispatch system = db at hleaves hkeeps
  cases hleaves with
  | nothing => exact .refl _
  | row _ haccepted => exact readsIn_cons haccepted
  | research =>
    constructor
    · exact fun _ _ _ hcontext => hkeeps.context rfl hcontext
    · exact fun _ _ _ h => h
    · exact fun _ _ h => h
    · exact fun _ _ h => h
    · exact List.suffix_refl _
  | plan hregisters => exact readsIn_plan hregisters
  | claim hclaims => exact readsIn_claim hclaims
  | denominator => exact ⟨fun _ _ _ h => h, fun _ _ _ h => h, fun _ _ h => h, fun _ _ h => h, List.suffix_refl _⟩

/-- The next transaction reads what the last one has left. -/
theorem CampaignDatabase.readsIn_committed (s : CampaignDatabase) : s.ReadsIn contracts s.committed :=
  ⟨fun _ _ _ h => h, fun _ _ _ h => h, fun _ _ h => h, fun _ _ h => h, List.suffix_refl _⟩

theorem Fenced.readsIn (h : Fenced contracts system) (hrun : ReflTransGen (CampaignStep contracts) system next) :
    system.db.ReadsIn contracts next.db := by
  induction hrun with
  | refl => exact .refl _
  | tail hrun hstep ih =>
    obtain ⟨call, dispatch, rfl⟩ := hstep
    apply ih.trans
    apply ((h.extends hrun).1.readsIn_rows call dispatch).trans
    exact CampaignDatabase.readsIn_committed _

end Steps

section Starts

variable (hlog : JournalAccepted contracts s.receipts) {row : ReceiptRow} (hrow : row ∈ s.receipts) {arm : ResearchArm}
  (hstart : row.IsStartOf campaignId sampleId arm)
include hlog hrow hstart

/-- The START of an arm of a sample is the only one. -/
theorem rowsOf_start : s.rowsOf campaignId sampleId arm .start = [row] := by
  have hmem : row ∈ startRows s.receipts := List.mem_filter.mpr ⟨hrow, by simpa using hstart.1⟩
  rw [← KeyedRows.filter_eq_singleton (startRows_nodup hlog) hmem, startRows, List.filter_filter, CampaignDatabase.rowsOf]
  apply List.filter_congr
  intro other _
  rw [hstart.2]
  simp only [Prod.mk.injEq, Bool.decide_and, Bool.and_assoc]

theorem startOf?_eq_some : s.startOf? campaignId sampleId arm = some row := by
  rw [CampaignDatabase.startOf?, rowsOf_start hlog hrow hstart]
  rfl

end Starts

theorem startOf?_mem {arm : ResearchArm} {row : ReceiptRow} (h : s.startOf? campaignId sampleId arm = some row) :
    row ∈ s.receipts ∧ row.IsStartOf campaignId sampleId arm := by
  have hmem := List.mem_of_mem_head? h
  rw [CampaignDatabase.rowsOf, List.mem_filter, decide_eq_true_eq] at hmem
  obtain ⟨hrow, hcampaign, hsample, harm, hkind⟩ := hmem
  exact ⟨hrow, hkind, by rw [hcampaign, hsample, harm]⟩

section Readings

variable (h : s.ReadsIn contracts t)
include h

theorem CampaignDatabase.ReadsIn.loadClaim {claim : WindowClaim} (hclaim : loadClaim s campaignId sampleId = .ok claim) :
    KairosPersistence.loadClaim t campaignId sampleId = .ok claim := by
  obtain ⟨row, hrow, hclaim⟩ := bind_ok hclaim
  rw [KairosPersistence.loadClaim, h.claim _ _ _ (found_ok hrow)]
  exact hclaim

theorem CampaignDatabase.ReadsIn.loadBundle {bundle : CausalBundle} (hbundle : loadBundle s campaignId sampleId = .ok bundle) :
    KairosPersistence.loadBundle t campaignId sampleId = .ok bundle := by
  obtain ⟨row, hrow, hbundle⟩ := bind_ok hbundle
  rw [KairosPersistence.loadBundle, h.row _ _ (found_ok hrow)]
  exact hbundle

theorem CampaignDatabase.ReadsIn.loadSource {sha : String} {source : SourceReceipt}
    (hsource : loadCampaignSource s sha = .ok source) : loadCampaignSource t sha = .ok source := by
  obtain ⟨row, hrow, hsource⟩ := bind_ok hsource
  rw [loadCampaignSource, h.receipt _ _ (found_ok hrow)]
  exact hsource

theorem CampaignDatabase.ReadsIn.loadEvaluation {causal : Bool} {sha : String} {evaluation : CampaignEvaluation}
    (hevaluation : loadEvaluation causal s sha = .ok evaluation) :
    KairosPersistence.loadEvaluation causal t sha = .ok evaluation := by
  obtain ⟨row, hrow, hevaluation⟩ := bind_ok hevaluation
  rw [KairosPersistence.loadEvaluation, h.receipt _ _ (found_ok hrow)]
  exact hevaluation

theorem CampaignDatabase.ReadsIn.storedEvaluation {stored : ReceiptRow × CampaignEvaluation}
    (hstored : storedEvaluation s campaignId sampleId = .ok (some stored)) :
    KairosPersistence.storedEvaluation t campaignId sampleId = .ok (some stored) := by
  unfold KairosPersistence.storedEvaluation at hstored
  split at hstored
  · cases hstored
  · rename_i row hrow
    rw [KairosPersistence.storedEvaluation, h.row _ _ hrow]
    exact hstored

theorem CampaignDatabase.ReadsIn.causalContext {claim : WindowClaim} {bundle : CausalBundle} {context : CampaignContext}
    {read : MarketContext × List SourceReceipt × SourceReceipt}
    (hread : causalContext contracts s claim bundle context = .ok read) :
    KairosPersistence.causalContext contracts t claim bundle context = .ok read := by
  obtain ⟨window, hwindow, hread⟩ := bind_ok hread
  obtain ⟨_, hbundle, hread⟩ := bind_ok hread
  obtain ⟨sources, hsources, hread⟩ := bind_ok hread
  have hsources' := Transactions.mapM_mono (fun sha _ source => h.loadSource) hsources
  rw [KairosPersistence.causalContext, hwindow, ok_bind, hbundle, ok_bind, hsources', ok_bind]
  exact hread

theorem CampaignDatabase.ReadsIn.verifyStoredCausal {claim : WindowClaim} {bundle : CausalBundle}
    {context : CampaignContext} {evaluation : CampaignEvaluation}
    (hverify : verifyStoredCausal contracts scheduler s claim bundle context evaluation = .ok ()) :
    KairosPersistence.verifyStoredCausal contracts scheduler t claim bundle context evaluation = .ok () := by
  cases evaluation with
  | core receipt => rfl
  | causal receipt =>
    obtain ⟨_, hplan, hverify⟩ := bind_ok hverify
    obtain ⟨read, hread, hverify⟩ := bind_ok hverify
    rw [KairosPersistence.verifyStoredCausal, hplan, ok_bind, h.causalContext hread, ok_bind]
    exact hverify

end Readings

end KairosPersistence
