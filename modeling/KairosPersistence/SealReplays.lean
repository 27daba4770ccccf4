import KairosPersistence.EvidenceJournal
import KairosPersistence.VerifiedSeals

/-!
A campaign that a call has sealed and qualified, when it is sealed again: the
samples are verified once more, against evidence that has not changed since
each was recorded.
-/

namespace KairosPersistence

open Relation
open Transactions (bind_ok require_ok require_pos found_ok found_some ok_bind)

variable {contracts : ResearchContracts} {n m : ℕ} {s t : ResearchDatabase} {campaignId sampleId armId : String}

section Context

theorem EvidenceWrite.enrollments (hwrite : EvidenceWrite s t) : s.enrollments <:+ t.enrollments := by
  cases hwrite with
  | frozen windows samples enrollments => exact enrollments ▸ List.suffix_refl _
  | enrollment => exact List.suffix_cons _ _
  | sample | source | evaluation | start | terminal | qualified => exact List.suffix_refl _

theorem EvidenceWrite.qualifiedSeals (hwrite : EvidenceWrite s t) : s.qualifiedSeals <:+ t.qualifiedSeals := by
  cases hwrite with
  | frozen _ _ _ _ _ _ _ qualified => exact qualified ▸ List.suffix_refl _
  | qualified => exact List.suffix_cons _ _
  | sample | enrollment | source | evaluation | start | terminal => exact List.suffix_refl _

theorem evidence_extends (hrun : ReflTransGen (ResearchStep contracts) s t) :
    s.enrollments <:+ t.enrollments ∧ s.qualifiedSeals <:+ t.qualifiedSeals := by
  induction hrun with
  | refl => exact ⟨List.suffix_refl _, List.suffix_refl _⟩
  | tail _ hstep ih =>
    obtain ⟨u, hwrite, rfl⟩ := hstep.evidence
    exact ⟨ih.1.trans hwrite.enrollments, ih.2.trans hwrite.qualifiedSeals⟩

/-- An enrolled campaign stays what it is in its context. -/
theorem evidenceContext_of_run (hs : Runs.Reachable (· = .empty) (ResearchStep contracts) s)
    (hrun : ReflTransGen (ResearchStep contracts) s t) {context : ObservationSchedule × CandidateProtocol}
    (h : evidenceContext contracts s campaignId = .ok context) : evidenceContext contracts t campaignId = .ok context := by
  have hconsistent := consistent_of_reachable hs
  have hconsistent' := consistent_of_reachable (hs.run hrun)
  have hextends := ResearchDatabase.extends_of_run hrun
  obtain ⟨⟨schedule, protocol⟩, hfrozen, hrest⟩ := bind_ok h
  obtain ⟨_, henrolled, hpure⟩ := bind_ok hrest
  obtain ⟨roster, hfound, hgiven⟩ := bind_ok hfrozen
  obtain ⟨_, hallowed, hroom⟩ := bind_ok hgiven
  obtain ⟨_, hverify, hlookup⟩ := bind_ok hroom
  obtain ⟨protocolRow, hfoundProtocol, hcommit⟩ := bind_ok hlookup
  obtain ⟨_, -, hread⟩ := bind_ok hcommit
  obtain ⟨_, hfields, hwindows⟩ := bind_ok hverify
  obtain ⟨hroster, rfl⟩ := ResearchDatabase.schedule?_mem (found_ok hfound)
  obtain ⟨hprotocol, hprotocolId⟩ := ResearchDatabase.protocol?_mem (found_ok hfoundProtocol)
  have hroster' := hextends.schedules.subset hroster
  have hprotocol' := hextends.protocols.subset hprotocol
  have hid := (hconsistent.schedules roster hroster).campaign
  have hsame : verifySchedule t roster roster.payload = .ok () := by
    rw [verifySchedule, require_pos (require_ok hfields), ok_bind, hid, hconsistent.roster_eq hconsistent' hextends hroster,
      ← hid]
    exact hwindows
  have hcommitted : protocolRow.freezeTxid ≠ t.txid := (hconsistent'.protocols protocolRow hprotocol').committed.ne
  have hfrozen' : frozenContext contracts t roster.campaignId = .ok (schedule, protocol) := by
    rw [frozenContext, hconsistent'.schedule?_eq hroster', found_some, ok_bind, require_pos (require_ok hallowed), ok_bind]
    dsimp only
    rw [hsame, ok_bind, ← hprotocolId, hconsistent'.protocol?_eq hprotocol', found_some, ok_bind, require_pos hcommitted,
      ok_bind]
    exact hread
  have henrolled' : checkEnrollment t roster.campaignId schedule protocol = .ok () := by
    obtain ⟨enrollment, henrollment, hdigests⟩ := bind_ok henrolled
    obtain ⟨hmem, henrollmentId⟩ := KeyedRows.find?_mem (found_ok henrollment)
    have hkept := (evidenceKept_of_reachable (hs.run hrun)).enrollmentIds
    have hfound := KeyedRows.find?_eq hkept ((evidence_extends hrun).1.subset hmem)
    rw [checkEnrollment, ResearchDatabase.enrollment?, ← henrollmentId, hfound, found_some, ok_bind]
    exact hdigests
  rw [evidenceContext, hfrozen', ok_bind]
  dsimp only
  rw [henrolled', ok_bind]
  exact hpure

end Context

section Samples

theorem marketSource?_eq : s.marketSource? campaignId sampleId =
    (s.sourcesOf campaignId sampleId).find? (·.receipt.sourceKind = .marketSnapshot) := by
  rw [ResearchDatabase.sourcesOf, List.find?_filter]
  simp [ResearchDatabase.marketSource?, and_assoc]

theorem find?_starts_eq : (s.starts.find? fun row => row.receipt.campaignId = campaignId ∧
    row.receipt.armId.value = armId ∧ row.receipt.sampleId = sampleId) = (s.startsOf campaignId sampleId armId).head? :=
  List.head?_filter.symm

theorem ResearchDatabase.mem_sourcesOf {row : SourceRow} : row ∈ s.sourcesOf campaignId sampleId ↔
    row ∈ s.sources ∧ row.receipt.campaignId = campaignId ∧ row.receipt.sampleId = sampleId := by
  simp [ResearchDatabase.sourcesOf]

theorem ResearchDatabase.mem_evaluationsOf {row : EvaluationRow} : row ∈ s.evaluationsOf campaignId sampleId ↔
    row ∈ s.evaluations ∧ row.receipt.campaignId = campaignId ∧ row.receipt.sampleId = sampleId := by
  simp [ResearchDatabase.evaluationsOf]

theorem evaluationsOf_eq_nil : s.evaluationsOf campaignId sampleId = [] ↔
    ∀ row ∈ s.evaluations, ¬(row.receipt.campaignId = campaignId ∧ row.receipt.sampleId = sampleId) := by
  simp [ResearchDatabase.evaluationsOf]

/-- The proposal of an attempt is of the sample of the attempt. -/
theorem ResearchDatabase.EvidenceKept.proposal (h : s.EvidenceKept) {start stored : StartRow} (hstart : start ∈ s.starts)
    {terminal : Option AttemptTerminal} (hload : loadAttempt s start.receipt.attemptId = .ok (stored, terminal))
    {finished : AttemptTerminal} (hfinished : terminal = some finished) {proposal : TradeProposal}
    (hproposal : finished.proposal = some proposal) :
    proposal.campaignId = start.receipt.campaignId ∧ proposal.sampleId = start.receipt.sampleId := by
  obtain ⟨_, -, hload⟩ := bind_ok hload
  obtain ⟨_, -, hload⟩ := bind_ok hload
  obtain ⟨-, rfl⟩ := Prod.mk.inj (Except.ok.inj hload)
  obtain ⟨row, hrow, rfl⟩ := Option.map_eq_some_iff.mp hfinished
  obtain ⟨hrow, hid⟩ := KeyedRows.find?_mem hrow
  obtain ⟨start', hstart', hid', hscope⟩ := h.started row hrow
  obtain rfl : start' = start := List.inj_on_of_nodup_map h.startIds hstart' hstart (hid'.trans hid)
  exact hscope proposal hproposal

section Same

variable (hsame : SameEvidence campaignId sampleId armId s t)
include hsame

theorem SameEvidence.resolveProposalEvidence {proposal : TradeProposal} (hcampaign : proposal.campaignId = campaignId)
    (hsample : proposal.sampleId = sampleId) (h : resolveProposalEvidence s proposal = .ok ()) :
    KairosPersistence.resolveProposalEvidence t proposal = .ok () := by
  apply Transactions.forM_of_ok
  intro reference hreference
  obtain ⟨source, hsource, hclock⟩ := bind_ok (Transactions.forM_ok h reference hreference)
  have hsource := found_ok hsource
  have hfound : ∀ u : ResearchDatabase, (u.sources.find? fun row => row.receipt.campaignId = proposal.campaignId ∧
      row.receipt.sampleId = proposal.sampleId ∧ row.receipt.sourceKind = reference.kind ∧
      row.receipt.reference = reference.reference ∧ row.contentSha256 = reference.contentSha256) =
      (u.sourcesOf campaignId sampleId).find? fun row => row.receipt.sourceKind = reference.kind ∧
        row.receipt.reference = reference.reference ∧ row.contentSha256 = reference.contentSha256 := by
    intro u
    rw [ResearchDatabase.sourcesOf, List.find?_filter, hcampaign, hsample]
    simp [and_assoc]
  rw [hfound, ← hsame.sources, ← hfound] at hsource
  rw [hsource, found_some, ok_bind]
  exact hclock

variable (ht : t.EvidenceKept)
include ht

theorem SameEvidence.source? {row : SourceRow} {receiptSha256 : String} (h : s.source? receiptSha256 = some row)
    (hcampaign : row.receipt.campaignId = campaignId) (hsample : row.receipt.sampleId = sampleId) :
    t.source? receiptSha256 = some row := by
  obtain ⟨hmem, rfl⟩ := KeyedRows.find?_mem h
  have hof := ResearchDatabase.mem_sourcesOf.mpr ⟨hmem, hcampaign, hsample⟩
  rw [← hsame.sources] at hof
  exact KeyedRows.find?_eq ht.sourceIds (ResearchDatabase.mem_sourcesOf.mp hof).1

theorem SameEvidence.evaluation? {row : EvaluationRow} {receiptSha256 : String}
    (h : s.evaluation? receiptSha256 = some row) (hcampaign : row.receipt.campaignId = campaignId)
    (hsample : row.receipt.sampleId = sampleId) : t.evaluation? receiptSha256 = some row := by
  obtain ⟨hmem, rfl⟩ := KeyedRows.find?_mem h
  have hof := ResearchDatabase.mem_evaluationsOf.mpr ⟨hmem, hcampaign, hsample⟩
  rw [← hsame.evaluations] at hof
  exact KeyedRows.find?_eq ht.evaluationIds (ResearchDatabase.mem_evaluationsOf.mp hof).1

theorem SameEvidence.resolveSources {receipt : StrategyEvaluation} {marketFound : Bool}
    (hcampaign : receipt.campaignId = campaignId) (hsample : receipt.sampleId = sampleId)
    (h : resolveSources s receipt = .ok marketFound) : resolveSources t receipt = .ok marketFound := by
  apply Transactions.foldlM_mono _ h
  intro digest _ found found' hfound
  obtain ⟨source, hsource, hfound⟩ := bind_ok hfound
  obtain ⟨_, hscope, hfound⟩ := bind_ok hfound
  have hscope := require_ok hscope
  rw [loadSource, hsame.source? ht (found_ok hsource) (hscope.1.trans hcampaign) (hscope.2.1.trans hsample), found_some,
    ok_bind, require_pos hscope, ok_bind]
  exact hfound

theorem SameEvidence.resolveEvaluation {receipt : StrategyEvaluation} {context : ObservationSchedule × CandidateProtocol}
    (hs : evidenceContext contracts s campaignId = .ok context) (hctx : evidenceContext contracts t campaignId = .ok context)
    (hcampaign : receipt.campaignId = campaignId) (hsample : receipt.sampleId = sampleId)
    (h : resolveEvaluation contracts s receipt = .ok ()) : KairosPersistence.resolveEvaluation contracts t receipt = .ok () := by
  obtain ⟨schedule, protocol⟩ := context
  unfold KairosPersistence.resolveEvaluation at h ⊢
  rw [hcampaign] at h ⊢
  rw [hs, ok_bind] at h
  rw [hctx, ok_bind]
  dsimp only
  obtain ⟨window, hwindow, h⟩ := bind_ok h
  obtain ⟨_, hbind, h⟩ := bind_ok h
  obtain ⟨_, hscope, h⟩ := bind_ok h
  obtain ⟨marketFound, hsources, h⟩ := bind_ok h
  rw [hwindow, ok_bind, hbind, ok_bind, hscope, ok_bind, hsame.resolveSources ht hcampaign hsample hsources]
  exact h

variable {sample : DecisionSample} (hcampaign : sample.campaignId = campaignId) (hsample : sample.sampleId = sampleId)
include hcampaign hsample

theorem SameEvidence.verifyStrategy {context : ObservationSchedule × CandidateProtocol}
    (hs : evidenceContext contracts s campaignId = .ok context) (hctx : evidenceContext contracts t campaignId = .ok context)
    {evaluation : Option EvaluationRow} (h : verifyStrategy contracts s sample = .ok evaluation) :
    KairosPersistence.verifyStrategy contracts t sample = .ok evaluation := by
  unfold KairosPersistence.verifyStrategy at h ⊢
  cases hsha : sample.strategyEvaluationSha256 with
  | some receiptSha256 =>
    simp only [hsha] at h ⊢
    obtain ⟨row, hrow, h⟩ := bind_ok h
    obtain ⟨⟨⟩, hresolve, h⟩ := bind_ok h
    obtain ⟨_, hscope, h⟩ := bind_ok h
    obtain ⟨hrowCampaign, hrowSample, -⟩ := require_ok hscope
    have hrowCampaign := hrowCampaign.trans hcampaign
    have hrowSample := hrowSample.trans hsample
    rw [hsame.evaluation? ht (found_ok hrow) hrowCampaign hrowSample, found_some, ok_bind,
      hsame.resolveEvaluation ht hs hctx hrowCampaign hrowSample hresolve, ok_bind, hscope, ok_bind]
    exact h
  | none =>
    simp only [hsha] at h ⊢
    obtain ⟨_, houtcome, h⟩ := bind_ok h
    obtain ⟨_, hnone, h⟩ := bind_ok h
    rw [houtcome, ok_bind, require_pos, ok_bind]
    · exact h
    · have hnone := require_ok hnone
      rw [hcampaign, hsample] at hnone ⊢
      rw [← evaluationsOf_eq_nil] at hnone ⊢
      exact hsame.evaluations.trans hnone

theorem SameEvidence.verifyAttempt (hkept : s.EvidenceKept) (harm : sample.armId = armId)
    {terminal : Option AttemptTerminal} (h : verifyAttempt s sample = .ok terminal) :
    KairosPersistence.verifyAttempt t sample = .ok terminal := by
  unfold KairosPersistence.verifyAttempt at h ⊢
  rw [hcampaign, hsample, harm, find?_starts_eq] at h ⊢
  rw [hsame.starts]
  cases hstart : (s.startsOf campaignId sampleId armId).head? with
  | none =>
    simp only [hstart] at h ⊢
    exact h
  | some start =>
    simp only [hstart] at h ⊢
    have hmem : start ∈ s.startsOf campaignId sampleId armId := List.mem_of_head? hstart
    obtain ⟨hmemS, hid, -, hid'⟩ := ResearchDatabase.mem_startsOf.mp hmem
    have hmemT : start ∈ t.starts := (ResearchDatabase.mem_startsOf.mp (hsame.starts ▸ hmem)).1
    have hload : loadAttempt t start.receipt.attemptId = loadAttempt s start.receipt.attemptId := by
      have hfoundS : s.start? start.receipt.attemptId = some start := KeyedRows.find?_eq hkept.startIds hmemS
      have hfoundT : t.start? start.receipt.attemptId = some start := KeyedRows.find?_eq ht.startIds hmemT
      rw [loadAttempt, loadAttempt, hfoundS, hfoundT, hsame.terminals start hmem]
    rw [hload]
    obtain ⟨⟨_, stored⟩, hstored, h⟩ := bind_ok h
    obtain ⟨finished, hfinished, h⟩ := bind_ok h
    obtain ⟨_, hchecked, h⟩ := bind_ok h
    obtain ⟨⟨⟩, hproposal, h⟩ := bind_ok h
    rw [hstored, ok_bind]
    dsimp only
    rw [hfinished, ok_bind, hchecked, ok_bind]
    have hresolve : finished.proposal.elim (pure ()) (KairosPersistence.resolveProposalEvidence t) = .ok () := by
      cases hproposed : finished.proposal with
      | none => rfl
      | some proposal =>
        rw [hproposed] at hproposal
        obtain ⟨hproposalCampaign, hproposalSample⟩ := hkept.proposal hmemS hstored (found_ok hfinished) hproposed
        exact hsame.resolveProposalEvidence (hproposalCampaign.trans hid) (hproposalSample.trans hid') hproposal
    rw [hresolve, ok_bind]
    exact h

/-- What an arm of a sample is verified against decides its verification. -/
theorem SameEvidence.verifySample (hkept : s.EvidenceKept) (harm : sample.armId = armId)
    {context : ObservationSchedule × CandidateProtocol} (hs : evidenceContext contracts s campaignId = .ok context)
    (hctx : evidenceContext contracts t campaignId = .ok context) (h : verifySample contracts s sample = .ok ()) :
    KairosPersistence.verifySample contracts t sample = .ok () := by
  obtain ⟨schedule, protocol⟩ := context
  unfold KairosPersistence.verifySample at h ⊢
  rw [hcampaign] at h ⊢
  rw [hs, ok_bind] at h
  rw [hctx, ok_bind]
  dsimp only
  obtain ⟨window, hwindow, h⟩ := bind_ok h
  obtain ⟨arm, hknown, h⟩ := bind_ok h
  obtain ⟨_, hdigest, h⟩ := bind_ok h
  obtain ⟨evaluation, hstrategy, h⟩ := bind_ok h
  obtain ⟨_, hmarket, h⟩ := bind_ok h
  obtain ⟨terminal, hattempt, h⟩ := bind_ok h
  have hmarket' : checkMarketSource t campaignId sample.sampleId sample.marketSnapshotSha256 sample.marketAsOfTsMs =
      checkMarketSource s campaignId sample.sampleId sample.marketSnapshotSha256 sample.marketAsOfTsMs := by
    rw [checkMarketSource, checkMarketSource, marketSource?_eq, marketSource?_eq, hsample, hsame.sources]
  rw [hwindow, ok_bind, hknown, ok_bind, hdigest, ok_bind,
    hsame.verifyStrategy ht hcampaign hsample hs hctx hstrategy, ok_bind, hmarket', hmarket, ok_bind,
    hsame.verifyAttempt ht hcampaign hsample hkept harm hattempt, ok_bind]
  exact h

end Same

/-- A stored sample is verified later exactly when it is verified now. -/
theorem verifySample_of_run (hs : Runs.Reachable (· = .empty) (ResearchStep contracts) s)
    (hrun : ReflTransGen (ResearchStep contracts) s t) {row : SampleRow} (hrow : row ∈ s.samples)
    {context : ObservationSchedule × CandidateProtocol}
    (hcontext : evidenceContext contracts s row.sample.campaignId = .ok context) :
    verifySample contracts t row.sample = .ok () ↔ verifySample contracts s row.sample = .ok () := by
  have hkept := evidenceKept_of_reachable hs
  have hkept' := evidenceKept_of_reachable (hs.run hrun)
  have hcontext' := evidenceContext_of_run hs hrun hcontext
  have hsame : SameEvidence row.sample.campaignId row.sample.sampleId row.sample.armId s t :=
    sameEvidence_of_run hrun hkept ⟨row, hrow, rfl⟩
  constructor
  · exact hsame.symm.verifySample hkept rfl rfl hkept' rfl hcontext' hcontext
  · exact hsame.verifySample hkept' rfl rfl hkept rfl hcontext hcontext'

end Samples

section Sealed

/-- A sealed campaign has a result for each arm of each of its windows. -/
theorem hasResult_of_sealed (h : s.Consistent contracts n) {sealed : SealRow} (hsealed : sealed ∈ s.seals)
    {window : WindowRow} (hwindow : window ∈ s.windows) (hid : window.campaignId = sealed.coverage.campaignId)
    (arm : ResearchArm) : s.HasResult sealed.coverage.campaignId window.sampleId arm.value := by
  obtain ⟨roster, hroster, protocol, -, hcampaign, -, -, hmatched⟩ := h.matchedCoverage hsealed
  have hmem : (window.sampleId, arm.value) ∈ roster.payload.windows.map (·.sampleId) ×ˢ researchArms.map (·.value) := by
    apply List.mem_product.mpr
    constructor
    · exact List.mem_map_of_mem (f := ObservationWindow.sampleId) (h.window_mem hroster hwindow (hid.trans hcampaign.symm))
    · exact List.mem_map_of_mem (by cases arm <;> decide)
  obtain ⟨row, hrow, hkey⟩ := List.mem_map.mp (hmatched.matrix.mem_iff.mpr hmem)
  obtain ⟨hrow, hrowCampaign⟩ := List.mem_filter.mp hrow
  obtain ⟨hsample, harm⟩ := Prod.mk.inj hkey
  refine ⟨row, hrow, ?_⟩
  rw [SampleRow.key, of_decide_eq_true hrowCampaign, hcampaign, hsample, harm]

/-- The receipt of a sealed campaign stays what it is. -/
theorem EvidenceWrite.qualifiedCoverage (hwrite : EvidenceWrite s t) (h : s.EvidenceKept) (hs : s.Consistent contracts n)
    {sealed : SealRow} (hsealed : sealed ∈ s.seals) (coverage : CoverageSeal) :
    qualifiedCoverage contracts sealed.coverage.campaignId coverage t =
      KairosPersistence.qualifiedCoverage contracts sealed.coverage.campaignId coverage s := by
  have hresults : ∀ {sampleId : String}, s.window? sealed.coverage.campaignId sampleId ≠ none → ∀ arm : ResearchArm,
      s.HasResult sealed.coverage.campaignId sampleId arm.value := by
    intro sampleId hwindow arm
    obtain ⟨window, hfound⟩ := Option.ne_none_iff_exists'.mp hwindow
    obtain ⟨hmem, hid, rfl⟩ := ResearchDatabase.window?_mem hfound
    exact hasResult_of_sealed hs hsealed hmem hid arm
  have hunanswered : ∀ {campaignId sampleId : String}, s.window? campaignId sampleId ≠ none →
      s.resultsOf campaignId sampleId = [] → campaignId ≠ sealed.coverage.campaignId := by
    rintro campaignId sampleId hwindow hnone rfl
    exact (hresults hwindow .strategyOnly).resultsOf_ne_nil hnone
  cases hwrite with
  | frozen windows samples enrollments sources evaluations starts terminals qualified =>
    simp only [KairosPersistence.qualifiedCoverage, ResearchDatabase.start?, sources, evaluations, starts, terminals]
  | sample | enrollment | qualified => rfl
  | source fresh window unanswered =>
    have hother := hunanswered window unanswered
    simp only [KairosPersistence.qualifiedCoverage, ResearchDatabase.start?]
    rw [List.filter_cons_of_neg (by simpa using hother)]
  | evaluation fresh window unanswered =>
    have hother := hunanswered window unanswered
    simp only [KairosPersistence.qualifiedCoverage, ResearchDatabase.start?]
    rw [List.filter_cons_of_neg (by simpa using hother)]
  | start fresh window enrolled unanswered =>
    rename_i row
    have hother : row.receipt.campaignId ≠ sealed.coverage.campaignId := by
      intro heq
      rw [heq] at window unanswered
      exact unanswered (hresults window row.receipt.armId)
    -- no terminal is of the new attempt
    have hterminals : s.terminals.filter (fun terminal => ((row :: s.starts).find?
          (·.receipt.attemptId = terminal.receipt.attemptId)).any (·.receipt.campaignId = sealed.coverage.campaignId)) =
        s.terminals.filter fun terminal => (s.starts.find?
          (·.receipt.attemptId = terminal.receipt.attemptId)).any (·.receipt.campaignId = sealed.coverage.campaignId) := by
      apply List.filter_congr
      intro terminal hterminal
      obtain ⟨start, hstart, hid, -⟩ := h.started terminal hterminal
      rw [List.find?_cons_of_neg]
      simpa [hid] using (fresh start hstart).1.symm
    simp only [KairosPersistence.qualifiedCoverage, ResearchDatabase.start?]
    rw [List.filter_cons_of_neg (by simpa using hother), hterminals]
  | terminal fresh started =>
    rename_i row
    have hother : ¬((s.start? row.receipt.attemptId).any (·.receipt.campaignId = sealed.coverage.campaignId)) := by
      obtain ⟨start, hfound, -⟩ := started
      obtain ⟨hstart, hid⟩ := KeyedRows.find?_mem hfound
      have hfound : s.start? row.receipt.attemptId = some start := hfound
      rw [hfound]
      simp only [Option.any_some, decide_eq_true_eq]
      intro hcampaign
      obtain ⟨window, hwindow, hwindowId, hwindowSample⟩ := h.windows start hstart
      have hresult := hasResult_of_sealed hs hsealed hwindow (hwindowId.trans hcampaign) start.receipt.armId
      rw [hwindowSample, ← hcampaign] at hresult
      obtain ⟨terminal, hterminal, hterminalId⟩ := h.answered start hstart hresult
      exact fresh terminal hterminal (hterminalId.trans hid)
    have hterminals : (row :: s.terminals).filter (fun terminal =>
          (s.start? terminal.receipt.attemptId).any (·.receipt.campaignId = sealed.coverage.campaignId)) =
        s.terminals.filter fun terminal =>
          (s.start? terminal.receipt.attemptId).any (·.receipt.campaignId = sealed.coverage.campaignId) :=
      List.filter_cons_of_neg hother
    simp only [KairosPersistence.qualifiedCoverage, ResearchDatabase.start?] at hterminals ⊢
    rw [hterminals]

theorem qualifiedCoverage_of_run (hs : Runs.Reachable (· = .empty) (ResearchStep contracts) s)
    (hrun : ReflTransGen (ResearchStep contracts) s t) {sealed : SealRow} (hsealed : sealed ∈ s.seals)
    (coverage : CoverageSeal) : qualifiedCoverage contracts sealed.coverage.campaignId coverage t =
      qualifiedCoverage contracts sealed.coverage.campaignId coverage s := by
  induction hrun with
  | refl => rfl
  | tail hbefore hstep ih =>
    have hreached := hs.run hbefore
    obtain ⟨u, hwrite, rfl⟩ := hstep.evidence
    have hkept := hwrite.qualifiedCoverage (evidenceKept_of_reachable hreached) (consistent_of_reachable hreached)
      ((ResearchDatabase.extends_of_run hbefore).seals.subset hsealed) coverage
    exact hkept.trans ih

/-- A receipt that is stored is returned again, and nothing is written. -/
theorem qualifyCoverage_again (hs : Runs.Reachable (· = .empty) (ResearchStep contracts) s) {coverage : CoverageSeal}
    {qualified : QualifiedCoverage} (h : qualifyCoverage contracts campaignId coverage s = .ok (t, qualified))
    {u : ResearchDatabase} (hrun : ReflTransGen (ResearchStep contracts) { t with txid := s.txid + 1 } u) :
    qualifyCoverage contracts campaignId coverage u = .ok (u, qualified) := by
  have hstep : ResearchStep contracts s { t with txid := s.txid + 1 } := by
    refine ⟨.qualifyCoverage campaignId coverage, 0, ?_⟩
    rw [ResearchCall.run, ResearchCall.rows, Transactions.run_ok h]
  have hreached := hs.next hstep
  have hbefore : ReflTransGen (ResearchStep contracts) s u := hrun.head hstep
  obtain ⟨⟨schedule, protocol⟩, hcontext, hrest⟩ := bind_ok h
  obtain ⟨_, hdigests, hinserted⟩ := bind_ok hrest
  obtain ⟨t', hinsert, hpure⟩ := bind_ok hinserted
  obtain ⟨rfl, hqualified⟩ := Prod.mk.inj (Except.ok.inj hpure)
  obtain ⟨rfl, -⟩ := require_ok hdigests
  rw [hqualified] at hinsert
  obtain ⟨_, hstored, hwritten⟩ := bind_ok hinsert
  obtain ⟨stored, hmem, hstoredId, hdigest, hcoverage⟩ := require_ok hstored
  -- the row of the receipt is there
  have hrow : (⟨contracts.qualifiedSha256 qualified, contracts.coverageSha256 coverage, qualified⟩ : QualifiedRow) ∈
      t'.qualifiedSeals := by
    split at hwritten
    · obtain rfl := Except.ok.inj hwritten
      exact List.mem_cons_self
    · obtain ⟨_, hsame, hwritten⟩ := bind_ok hwritten
      obtain rfl := Except.ok.inj hwritten
      exact (KeyedRows.find?_mem (require_ok hsame)).1
  have hrow' := (evidence_extends hrun).2.subset hrow
  have hkept := evidenceKept_of_reachable (hreached.run hrun)
  have hagain : qualifiedCoverage contracts coverage.campaignId coverage u = qualified := by
    have hsame : stored.coverage = coverage := by
      rw [hcoverage, ← hqualified]
      rfl
    have hkept := @qualifiedCoverage_of_run contracts _ _ hs hbefore stored hmem coverage
    rw [hsame] at hkept
    exact hkept.trans hqualified
  have hinsert' : insertQualified ⟨contracts.qualifiedSha256 qualified, contracts.coverageSha256 coverage, qualified⟩ u =
      .ok u := by
    rw [insertQualified, require_pos ⟨stored, (ResearchDatabase.extends_of_run hbefore).seals.subset hmem, hstoredId,
      hdigest, hcoverage⟩, ok_bind, if_neg fun hnew => hnew _ hrow' (Or.inl rfl), ResearchDatabase.qualifiedSeal?,
      require_pos (KeyedRows.find?_eq hkept.qualifiedIds hrow'), ok_bind]
    rfl
  rw [qualifyCoverage, evidenceContext_of_run hs hbefore hcontext, ok_bind]
  dsimp only
  rw [hdigests, ok_bind, hagain, hinsert', ok_bind]
  rfl

end Sealed

namespace VerifiedSealCall

variable (call : VerifiedSealCall contracts)

/-- What the call has left. -/
def left : ResearchDatabase := { call.final with txid := call.final.txid + 1 }

/-- Sealing the campaign again, whenever and among whatever writers: the samples verify, the seal is read, and the
receipt is the same one, of which nothing is written. -/
def Repeats : Prop :=
  ∀ u, ReflTransGen (ResearchStep contracts) call.left u →
    ∃ verified row, verifyCampaign contracts call.campaignId u = .ok (verified, some row) ∧
      existingCoverage contracts row = .ok call.coverage ∧
      ∀ w, ReflTransGen (ResearchStep contracts) u w →
        qualifyCoverage contracts call.campaignId call.coverage w = .ok (w, call.receipt)

/-- The samples that the call has not verified itself are verified when it seals them. -/
def LateVerified : Prop :=
  ∀ row ∈ call.atSeal.samplesOf call.campaignId, row ∉ call.atVerification.samplesOf call.campaignId →
    verifySample contracts call.atSeal row.sample = .ok ()

variable {call}

/-- The coverage of the call is that of the seal, and is read from it. -/
theorem exists_sealed : ∃ sealed ∈ call.afterSeal.seals, sealed.coverage.campaignId = call.campaignId ∧
    existingCoverage contracts sealed = .ok call.coverage := by
  have hcampaign := (qualifyCoverage_ok call.qualification).2.1
  have hseal : ∀ row, call.existing = some row → row ∈ call.atVerification.seals :=
    fun row hrow => (KeyedRows.find?_mem (call.verified_eq.2.symm.trans hrow)).1
  have hbefore := ResearchDatabase.extends_of_run call.beforeSeal
  have hsealing := call.sealing
  generalize call.existing = existing, call.afterSeal = afterSeal, call.coverage = coverage, call.atSeal = atSeal
    at hcampaign hseal hsealing hbefore ⊢
  cases hsealing with
  | new h =>
    obtain ⟨-, _, _, -, -, -, -, -, -, rfl⟩ := sealCoverage_ok h
    refine ⟨_, List.mem_cons_self, hcampaign, ?_⟩
    rw [existingCoverage, require_pos rfl]
    rfl
  | old h =>
    rename_i row
    obtain ⟨_, -, hread⟩ := bind_ok h
    obtain rfl := Except.ok.inj hread
    exact ⟨row, hbefore.seals.subset (hseal row rfl), hcampaign, h⟩

theorem left_of_qualification : call.left = { call.final with txid := call.atQualification.txid + 1 } := by
  obtain ⟨_, -, h⟩ := bind_ok call.qualification
  obtain ⟨_, -, h⟩ := bind_ok h
  obtain ⟨t, hinsert, h⟩ := bind_ok h
  have hfinal := (Prod.mk.inj (Except.ok.inj h)).1
  have htxid : t.txid = call.atQualification.txid := by
    obtain ⟨_, -, hinsert⟩ := bind_ok hinsert
    split at hinsert
    · obtain rfl := Except.ok.inj hinsert
      rfl
    · obtain ⟨_, -, hinsert⟩ := bind_ok hinsert
      obtain rfl := Except.ok.inj hinsert
      rfl
  rw [left, ← hfinal, htxid]

theorem run_left : ReflTransGen (ResearchStep contracts) call.afterSeal call.left := by
  refine call.beforeQualification.tail ⟨.qualifyCoverage call.campaignId call.coverage, 0, ?_⟩
  rw [call.left_of_qualification, ResearchCall.run, ResearchCall.rows, Transactions.run_ok call.qualification]

variable (h : Runs.Reachable (· = .empty) (ResearchStep contracts) call.atVerification)
include h

/-- Every sample that is sealed has to pass; those that the call has verified do. -/
theorem lateVerified_iff : call.LateVerified ↔
    ∀ row ∈ call.atSeal.samplesOf call.campaignId, verifySample contracts call.atSeal row.sample = .ok () := by
  obtain ⟨context, hcontext, -⟩ := bind_ok call.verification
  constructor
  · intro hlate row hrow
    by_cases hold : row ∈ call.atVerification.samplesOf call.campaignId
    · obtain ⟨hmem, hid⟩ := List.mem_filter.mp hold
      rw [verifySample_of_run h call.beforeSeal hmem (of_decide_eq_true hid ▸ hcontext)]
      exact call.verifies row hold
    · exact hlate row hrow hold
  · exact fun hall row hrow _ => hall row hrow

end VerifiedSealCall

/-- A sealed campaign is sealed again, with the same receipt and without a write, for ever, exactly when the samples
that were recorded between the verification and the seal pass the verification too. -/
theorem seal_repeats (call : VerifiedSealCall contracts)
    (h : Runs.Reachable (· = .empty) (ResearchStep contracts) call.atVerification) : call.Repeats ↔ call.LateVerified := by
  obtain ⟨context, hcontext, -⟩ := bind_ok call.verification
  obtain ⟨hsealing, hsamples, -⟩ := call.sealed_of_sealing
  obtain ⟨sealed, hsealed, hid, hcoverage⟩ := call.exists_sealed
  have hatSeal := h.run call.beforeSeal
  have hafter := hatSeal.run hsealing
  have hcontextSeal := evidenceContext_of_run h call.beforeSeal hcontext
  have hleft := call.run_left
  -- what is verified when the campaign was sealed is verified whenever it is sealed again
  have hverify : ∀ u, ReflTransGen (ResearchStep contracts) call.left u →
      u.samplesOf call.campaignId = call.atSeal.samplesOf call.campaignId ∧
        ∀ row ∈ call.atSeal.samplesOf call.campaignId,
          (verifySample contracts u row.sample = .ok () ↔ verifySample contracts call.atSeal row.sample = .ok ()) := by
    intro u hu
    have hrun := hleft.trans hu
    have hkept := samplesOf_sealed (consistent_of_reachable hafter) (consistent_of_reachable (hafter.run hrun))
      (ResearchDatabase.extends_of_run hrun) hsealed
    rw [hid] at hkept
    refine ⟨hkept.trans hsamples, fun row hrow => ?_⟩
    obtain ⟨hmem, hrowId⟩ := List.mem_filter.mp hrow
    exact verifySample_of_run hatSeal (hsealing.trans hrun) hmem (of_decide_eq_true hrowId ▸ hcontextSeal)
  rw [VerifiedSealCall.lateVerified_iff h]
  constructor
  · intro hrepeats row hrow
    obtain ⟨hsame, hiff⟩ := hverify call.left .refl
    obtain ⟨_, _, hverified, -⟩ := hrepeats call.left .refl
    obtain ⟨_, -, hverified⟩ := bind_ok hverified
    obtain ⟨_, hall, -⟩ := bind_ok hverified
    apply (hiff row hrow).mp
    exact Transactions.forM_ok hall row.sample (List.mem_map_of_mem (hsame ▸ hrow))
  · intro hall u hu
    obtain ⟨hsame, hiff⟩ := hverify u hu
    have hreached := hafter.run (hleft.trans hu)
    have hseal : u.seal? call.campaignId = some sealed := by
      rw [← hid]
      exact KeyedRows.find?_eq (consistent_of_reachable hreached).sealIds
        ((ResearchDatabase.extends_of_run (hleft.trans hu)).seals.subset hsealed)
    refine ⟨(u.samplesOf call.campaignId).map (·.sample), sealed, ?_, hcoverage, fun w hw => ?_⟩
    · rw [verifyCampaign, evidenceContext_of_run hatSeal (hsealing.trans (hleft.trans hu)) hcontextSeal, ok_bind]
      dsimp only
      rw [Transactions.forM_of_ok, ok_bind, hseal]
      · rfl
      · intro sample hsample
        obtain ⟨row, hrow, rfl⟩ := List.mem_map.mp hsample
        rw [hsame] at hrow
        exact (hiff row hrow).mpr (hall row hrow)
    · apply qualifyCoverage_again (hafter.run call.beforeQualification) call.qualification
      rw [← call.left_of_qualification]
      exact hu.trans hw

theorem seal_repeats_example : exampleHonestCall.Repeats ∧ (exampleHonestCall.Repeats ↔ exampleHonestCall.LateVerified) := by
  have hreachable : Runs.Reachable (· = .empty) (ResearchStep exampleResearchContracts) exampleHonestCall.atVerification :=
    ⟨_, rfl, run_calls exampleResearchContracts exampleHonestCalls .empty⟩
  have hiff := seal_repeats exampleHonestCall hreachable
  have hsame : ∀ s : ResearchDatabase, (runResearchCalls exampleResearchContracts
      [.verifyCampaign "campaign-1"] s).samplesOf "campaign-1" = s.samplesOf "campaign-1" := fun _ => rfl
  refine ⟨hiff.mpr fun row hrow hnew => absurd ?_ hnew, hiff⟩
  exact (hsame (exampleVerified exampleHonestCalls)).subst (motive := fun rows => row ∈ rows) hrow

/-- The samples of the race do not verify, and the campaign that was sealed cannot be sealed again. -/
theorem seal_repeats_raced : ∃ call : VerifiedSealCall exampleResearchContracts,
    Runs.Reachable (· = .empty) (ResearchStep exampleResearchContracts) call.atVerification ∧
      ∀ verified existing, verifyCampaign exampleResearchContracts call.campaignId call.left ≠ .ok (verified, existing) := by
  obtain ⟨hreturns, row, hrow, hverify⟩ := exampleRaced_returns
  let call := exampleCall _ _ _ hreturns
  have hreachable : Runs.Reachable (· = .empty) (ResearchStep exampleResearchContracts) call.atVerification :=
    ⟨_, rfl, run_calls exampleResearchContracts exampleEvidenceCalls .empty⟩
  refine ⟨call, hreachable, fun verified existing hrepeated => ?_⟩
  obtain ⟨hmem, hid⟩ := List.mem_filter.mp hrow
  have hcampaign : row.sample.campaignId = call.campaignId := of_decide_eq_true hid
  have hafter := (hreachable.run call.beforeSeal).run call.sealed_of_sealing.1
  obtain ⟨context, hcontext, -⟩ := bind_ok call.verification
  have hcontext' := evidenceContext_of_run hreachable (call.beforeSeal.trans call.sealed_of_sealing.1) hcontext
  have hkept : row ∈ call.left.samplesOf call.campaignId :=
    List.mem_filter.mpr ⟨(ResearchDatabase.extends_of_run call.run_left).samples.subset hmem, hid⟩
  obtain ⟨_, -, hverified⟩ := bind_ok hrepeated
  obtain ⟨_, hall, -⟩ := bind_ok hverified
  apply hverify
  apply (verifySample_of_run hafter call.run_left hmem (hcampaign ▸ hcontext')).mp
  exact Transactions.forM_ok hall row.sample (List.mem_map_of_mem hkept)

end KairosPersistence
