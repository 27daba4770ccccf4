import KairosPersistence.SealedCoverage

/-!
What a run adds to the independent evidence of the campaigns. Evidence of a
sample is closed by its results: no source, evaluation or attempt comes after
them, and every attempt before them has a terminal.
-/

namespace KairosPersistence

open PythonText Relation
open Transactions (bind_ok require require_ok found_ok)

namespace ResearchDatabase

variable (s : ResearchDatabase) (campaignId sampleId : String)

def sourcesOf : List SourceRow :=
  s.sources.filter fun row => row.receipt.campaignId = campaignId ∧ row.receipt.sampleId = sampleId

def evaluationsOf : List EvaluationRow :=
  s.evaluations.filter fun row => row.receipt.campaignId = campaignId ∧ row.receipt.sampleId = sampleId

def startsOf (armId : String) : List StartRow :=
  s.starts.filter fun row =>
    row.receipt.campaignId = campaignId ∧ row.receipt.armId.value = armId ∧ row.receipt.sampleId = sampleId

/-- The arm of the sample has a result. -/
def HasResult (armId : String) : Prop := ∃ row ∈ s.samples, row.key = (campaignId, armId, sampleId)

end ResearchDatabase

theorem ResearchArm.value_injective : Function.Injective ResearchArm.value := by
  intro a b h
  cases a <;> cases b <;> first | rfl | exact absurd h (by decide)

def StartRow.key (row : StartRow) : String × String × String :=
  (row.receipt.campaignId, row.receipt.armId.value, row.receipt.sampleId)

section Writes

/-- What a transaction adds: nothing to the evidence, or one row on the guard of its table. -/
inductive EvidenceWrite (s : ResearchDatabase) : ResearchDatabase → Prop
  | frozen {t : ResearchDatabase} (windows : s.windows <:+ t.windows) (samples : t.samples = s.samples)
    (enrollments : t.enrollments = s.enrollments) (sources : t.sources = s.sources) (evaluations : t.evaluations = s.evaluations) (starts : t.starts = s.starts)
    (terminals : t.terminals = s.terminals) (qualified : t.qualifiedSeals = s.qualifiedSeals) : EvidenceWrite s t
  | sample {row : SampleRow} (guarded : guardQualifiedSample s row.sample = .ok ()) :
    EvidenceWrite s { s with samples := row :: s.samples }
  | enrollment {row : EnrollmentRow} (fresh : s.enrollment? row.campaignId = none) (empty : s.samplesOf row.campaignId = []) :
    EvidenceWrite s { s with enrollments := row :: s.enrollments }
  | source {row : SourceRow} (fresh : ∀ other ∈ s.sources, ¬row.Collides other)
    (window : s.window? row.receipt.campaignId row.receipt.sampleId ≠ none)
    (unanswered : s.resultsOf row.receipt.campaignId row.receipt.sampleId = []) :
    EvidenceWrite s { s with sources := row :: s.sources }
  | evaluation {row : EvaluationRow} (fresh : ∀ other ∈ s.evaluations, other.receiptSha256 ≠ row.receiptSha256)
    (window : s.window? row.receipt.campaignId row.receipt.sampleId ≠ none)
    (unanswered : s.resultsOf row.receipt.campaignId row.receipt.sampleId = []) :
    EvidenceWrite s { s with evaluations := row :: s.evaluations }
  | start {row : StartRow} (fresh : ∀ other ∈ s.starts, other.receipt.attemptId ≠ row.receipt.attemptId ∧ other.key ≠ row.key)
    (window : s.window? row.receipt.campaignId row.receipt.sampleId ≠ none)
    (enrolled : s.enrollment? row.receipt.campaignId ≠ none)
    (unanswered : ¬s.HasResult row.receipt.campaignId row.receipt.sampleId row.receipt.armId.value) :
    EvidenceWrite s { s with starts := row :: s.starts }
  | terminal {row : TerminalRow} (fresh : ∀ other ∈ s.terminals, other.receipt.attemptId ≠ row.receipt.attemptId)
    (started : ∃ start ∈ s.start? row.receipt.attemptId, ∀ proposal ∈ row.receipt.proposal,
      proposal.campaignId = start.receipt.campaignId ∧ proposal.sampleId = start.receipt.sampleId) :
    EvidenceWrite s { s with terminals := row :: s.terminals }
  | qualified {row : QualifiedRow} (fresh : ∀ other ∈ s.qualifiedSeals, other.receipt.campaignId ≠ row.receipt.campaignId) :
    EvidenceWrite s { s with qualifiedSeals := row :: s.qualifiedSeals }

theorem EvidenceWrite.nothing (s : ResearchDatabase) : EvidenceWrite s s :=
  .frozen (List.suffix_refl _) rfl rfl rfl rfl rfl rfl rfl

variable {contracts : ResearchContracts} {s t : ResearchDatabase}

/-- The last step of a write on conflict: the row is new, or nothing is written. -/
theorem evidenceWrite_ite {p q : Prop} [Decidable p] [Decidable q] {error : ResearchError} {u : ResearchDatabase}
    {recorded : Bool} (h : (if p then pure (u, true) else (do require q error; pure (s, false)) :
      Except ResearchError (ResearchDatabase × Bool)) = .ok (t, recorded)) (hu : p → EvidenceWrite s u) :
    EvidenceWrite s t := by
  split at h
  · rename_i hp
    obtain ⟨rfl, -⟩ := Prod.mk.inj (Except.ok.inj h)
    exact hu hp
  · obtain ⟨_, -, h⟩ := bind_ok h
    obtain ⟨rfl, -⟩ := Prod.mk.inj (Except.ok.inj h)
    exact .nothing s

theorem guardEnrolled_ok {campaignId : String} {row : EnrollmentRow} (h : guardEnrolled s campaignId = .ok row) :
    s.enrollment? campaignId = some row := by
  obtain ⟨_, hrow, h⟩ := bind_ok h
  obtain ⟨_, -, h⟩ := bind_ok h
  obtain rfl := Except.ok.inj h
  exact found_ok hrow

theorem guardWindow_ok {campaignId sampleId scheduleDigest candidateProtocolDigest : String} {window : WindowRow}
    (h : guardWindow s campaignId sampleId scheduleDigest candidateProtocolDigest = .ok window) :
    s.enrollment? campaignId ≠ none ∧ s.window? campaignId sampleId = some window := by
  obtain ⟨row, henrolled, h⟩ := bind_ok h
  obtain ⟨_, hwindow, h⟩ := bind_ok h
  obtain ⟨_, -, h⟩ := bind_ok h
  obtain rfl := Except.ok.inj h
  constructor
  · rw [guardEnrolled_ok henrolled]
    exact Option.some_ne_none row
  · exact found_ok hwindow

/-- The proposal of a terminal is of the sample whose attempt was admitted. -/
theorem proposal_of_identity {terminal : AttemptTerminal} {start : StartRow} (hidentity : terminal.identity = .ok ())
    (hobserved : ∀ observed ∈ terminal.observed,
      observed = (start.receipt.attemptId, start.receipt.toCallScope, start.receipt.toModelRoute))
    {proposal : TradeProposal} (hproposal : proposal ∈ terminal.proposal) :
    proposal.campaignId = start.receipt.campaignId ∧ proposal.sampleId = start.receipt.sampleId := by
  have hsome : terminal.proposal = some proposal := hproposal
  simp only [AttemptTerminal.identity, AttemptTerminal.observed, hsome] at hidentity hobserved
  cases hstatus : terminal.terminalStatus with
  | completed =>
    cases hcompletion : terminal.completion with
    | none => simp [hstatus, hcompletion] at hidentity
    | some completion =>
      cases hfailure : terminal.failure with
      | some failure => simp [hstatus, hcompletion, hfailure] at hidentity
      | none =>
        simp only [hstatus, hcompletion, hfailure] at hidentity
        obtain ⟨_, -, hidentity⟩ := bind_ok hidentity
        obtain ⟨_, -, hidentity⟩ := bind_ok hidentity
        obtain ⟨_, hscope, -⟩ := bind_ok hidentity
        have hscope := require_ok hscope
        have hcall := hobserved _ (by simp [hstatus, hcompletion]; rfl)
        simp only [Prod.mk.injEq] at hcall
        simp only [ProposalCompletion.scope, TradeProposal.scope, Prod.mk.injEq] at hscope
        rw [← hscope.1, ← hscope.2.2.1, hcall.2.1]
        exact ⟨rfl, rfl⟩
  | failed => simp [hstatus] at hidentity
  | unresolved => simp [hstatus] at hidentity

theorem evidence_recordSample {sample : DecisionSample} {now : Timestamp} {recorded : Bool}
    (h : recordSample contracts sample now s = .ok (t, recorded)) : EvidenceWrite s t := by
  obtain ⟨_, -, h⟩ := bind_ok h
  obtain ⟨_, -, h⟩ := bind_ok h
  obtain ⟨⟨⟩, hguard, h⟩ := bind_ok h
  obtain ⟨_, -, h⟩ := bind_ok h
  split at h
  · obtain ⟨rfl, -⟩ := Prod.mk.inj (Except.ok.inj h)
    exact .sample hguard
  · obtain ⟨_, -, h⟩ := bind_ok h
    obtain ⟨rfl, -⟩ := Prod.mk.inj (Except.ok.inj h)
    exact .nothing s
  · cases h

theorem evidence_enrollCampaign {campaignId : String} {enrolled : Bool}
    (h : enrollCampaign contracts campaignId s = .ok (t, enrolled)) : EvidenceWrite s t := by
  obtain ⟨_, -, h⟩ := bind_ok h
  obtain ⟨_, -, h⟩ := bind_ok h
  obtain ⟨_, hempty, h⟩ := bind_ok h
  split at h
  · rename_i hnone
    obtain ⟨rfl, -⟩ := Prod.mk.inj (Except.ok.inj h)
    exact .enrollment hnone (require_ok hempty hnone).1
  · obtain ⟨_, -, h⟩ := bind_ok h
    obtain ⟨rfl, -⟩ := Prod.mk.inj (Except.ok.inj h)
    exact .nothing s

theorem evidence_recordSource {receipt : SourceReceipt} {recorded : Bool}
    (h : recordSource contracts receipt s = .ok (t, recorded)) : EvidenceWrite s t := by
  obtain ⟨_, -, h⟩ := bind_ok h
  obtain ⟨_, -, h⟩ := bind_ok h
  obtain ⟨_, -, h⟩ := bind_ok h
  obtain ⟨_, -, h⟩ := bind_ok h
  obtain ⟨_, -, h⟩ := bind_ok h
  obtain ⟨_, hguard, h⟩ := bind_ok h
  obtain ⟨window, hwindow, hguard⟩ := bind_ok hguard
  obtain ⟨_, hopen, -⟩ := bind_ok hguard
  refine evidenceWrite_ite h fun hfresh => .source hfresh ?_ (require_ok hopen ?_)
  · rw [(guardWindow_ok hwindow).2]
    exact Option.some_ne_none window
  · exact KeyedRows.find?_eq_none_iff.mpr fun other hother hsha => hfresh other hother (Or.inl hsha)

theorem evidence_recordEvaluation {receipt : StrategyEvaluation} {recorded : Bool}
    (h : recordEvidenceEvaluation contracts receipt s = .ok (t, recorded)) : EvidenceWrite s t := by
  obtain ⟨_, -, h⟩ := bind_ok h
  obtain ⟨_, -, h⟩ := bind_ok h
  obtain ⟨_, hguard, h⟩ := bind_ok h
  obtain ⟨window, hwindow, hguard⟩ := bind_ok hguard
  obtain ⟨_, hopen, -⟩ := bind_ok hguard
  refine evidenceWrite_ite h fun hfresh => .evaluation ?_ ?_ ((require_ok hopen).resolve_right fun hstored => hstored ?_)
  · exact fun other hother hsha => hfresh other hother (Or.inl hsha)
  · rw [(guardWindow_ok hwindow).2]
    exact Option.some_ne_none window
  · exact KeyedRows.find?_eq_none_iff.mpr fun other hother hsha => hfresh other hother (Or.inl hsha)

theorem evidence_startAttempt {attempt : AttemptStart} {recorded : Bool}
    (h : startEvidenceAttempt contracts attempt s = .ok (t, recorded)) : EvidenceWrite s t := by
  obtain ⟨_, -, h⟩ := bind_ok h
  obtain ⟨_, -, h⟩ := bind_ok h
  obtain ⟨_, -, h⟩ := bind_ok h
  obtain ⟨_, -, h⟩ := bind_ok h
  obtain ⟨_, -, h⟩ := bind_ok h
  obtain ⟨_, -, h⟩ := bind_ok h
  obtain ⟨_, -, h⟩ := bind_ok h
  obtain ⟨_, -, h⟩ := bind_ok h
  obtain ⟨_, -, h⟩ := bind_ok h
  obtain ⟨_, hguard, h⟩ := bind_ok h
  obtain ⟨window, hwindow, hguard⟩ := bind_ok hguard
  obtain ⟨_, -, hguard⟩ := bind_ok hguard
  obtain ⟨_, -, hguard⟩ := bind_ok hguard
  obtain ⟨_, -, hguard⟩ := bind_ok hguard
  refine evidenceWrite_ite h fun hfresh => .start ?_ ?_ (guardWindow_ok hwindow).1 ?_
  · intro other hother
    constructor
    · exact fun hid => hfresh other hother (Or.inl hid)
    · intro hkey
      simp only [StartRow.key, Prod.mk.injEq] at hkey
      apply hfresh other hother
      right
      right
      rw [hkey.1, ResearchArm.value_injective hkey.2.1, hkey.2.2]
  · rw [(guardWindow_ok hwindow).2]
    exact Option.some_ne_none window
  · rintro ⟨row, hrow, hkey⟩
    have hnone : s.start? attempt.attemptId = none :=
      KeyedRows.find?_eq_none_iff.mpr fun other hother hid => hfresh other hother (Or.inl hid)
    have hopen := (require_ok hguard).resolve_right fun hstored => hstored hnone
    simp only [SampleRow.key, Prod.mk.injEq] at hkey
    have hmem : row ∈ (s.resultsOf attempt.campaignId attempt.sampleId).filter (·.sample.armId = attempt.armId.value) := by
      simp [ResearchDatabase.resultsOf, hrow, hkey]
    rw [hopen] at hmem
    cases hmem

theorem evidence_finishAttempt {terminal : AttemptTerminal} {recorded : Bool}
    (h : finishEvidenceAttempt contracts terminal s = .ok (t, recorded)) : EvidenceWrite s t := by
  obtain ⟨_, hverify, h⟩ := bind_ok h
  obtain ⟨_, -, h⟩ := bind_ok h
  obtain ⟨_, -, h⟩ := bind_ok h
  obtain ⟨_, -, h⟩ := bind_ok h
  obtain ⟨_, hguard, h⟩ := bind_ok h
  obtain ⟨start, hstart, hguard⟩ := bind_ok hguard
  obtain ⟨_, -, hguard⟩ := bind_ok hguard
  obtain ⟨_, -, hguard⟩ := bind_ok hguard
  obtain ⟨_, hidentity, hguard⟩ := bind_ok hguard
  refine evidenceWrite_ite h fun hfresh => .terminal ?_ ⟨start, found_ok hstart, fun proposal hproposal => ?_⟩
  · exact fun other hother hid => hfresh other hother (Or.inl hid)
  · exact proposal_of_identity (require_ok hidentity) (require_ok hguard) hproposal

theorem evidence_qualifyCoverage {campaignId : String} {coverage : CoverageSeal} {qualified : QualifiedCoverage}
    (h : qualifyCoverage contracts campaignId coverage s = .ok (t, qualified)) : EvidenceWrite s t := by
  obtain ⟨_, -, h⟩ := bind_ok h
  obtain ⟨_, -, h⟩ := bind_ok h
  obtain ⟨u, hinsert, h⟩ := bind_ok h
  obtain ⟨rfl, -⟩ := Prod.mk.inj (Except.ok.inj h)
  obtain ⟨_, -, hinsert⟩ := bind_ok hinsert
  split at hinsert
  · rename_i hfresh
    obtain rfl := Except.ok.inj hinsert
    exact .qualified fun other hother hid => hfresh other hother (Or.inl hid)
  · obtain ⟨_, -, hinsert⟩ := bind_ok hinsert
    obtain rfl := Except.ok.inj hinsert
    exact .nothing s

theorem ResearchCall.evidence (call : ResearchCall) (now : Timestamp) (s : ResearchDatabase) :
    EvidenceWrite s (call.rows contracts now s) := by
  cases call with
  | registerSchedule schedule =>
    refine Transactions.run_spec (.nothing s) fun t _ ht => ?_
    rcases registerSchedule_ok ht with rfl | ⟨-, -, -, row, -, -, -, -, -, -, -, rfl⟩
    · exact .nothing t
    · exact .frozen (List.suffix_append _ _) rfl rfl rfl rfl rfl rfl rfl
  | registerProtocol protocol =>
    refine Transactions.run_spec (.nothing s) fun t _ ht => ?_
    rcases registerProtocol_ok ht with rfl | ⟨-, -, -, row, -, -, -, -, -, -, rfl⟩
    · exact .nothing t
    · exact .frozen (List.suffix_refl _) rfl rfl rfl rfl rfl rfl rfl
  | recordSample sample => exact Transactions.run_spec (.nothing s) fun _ _ ht => evidence_recordSample ht
  | sealCoverage campaignId =>
    refine Transactions.run_spec (.nothing s) fun t _ ht => ?_
    obtain ⟨-, roster, protocol, -, -, -, -, -, -, rfl⟩ := sealCoverage_ok ht
    exact .frozen (List.suffix_refl _) rfl rfl rfl rfl rfl rfl rfl
  | enrollCampaign campaignId => exact Transactions.run_spec (.nothing s) fun _ _ ht => evidence_enrollCampaign ht
  | recordSource receipt => exact Transactions.run_spec (.nothing s) fun _ _ ht => evidence_recordSource ht
  | recordEvaluation receipt => exact Transactions.run_spec (.nothing s) fun _ _ ht => evidence_recordEvaluation ht
  | startAttempt attempt => exact Transactions.run_spec (.nothing s) fun _ _ ht => evidence_startAttempt ht
  | finishAttempt terminal => exact Transactions.run_spec (.nothing s) fun _ _ ht => evidence_finishAttempt ht
  | verifyCampaign campaignId => exact .nothing s
  | qualifyCoverage campaignId coverage =>
    exact Transactions.run_spec (.nothing s) fun _ _ ht => evidence_qualifyCoverage ht

theorem ResearchStep.evidence (hstep : ResearchStep contracts s t) :
    ∃ u, EvidenceWrite s u ∧ t = { u with txid := s.txid + 1 } := by
  obtain ⟨call, now, rfl⟩ := hstep
  exact ⟨call.rows contracts now s, call.evidence now s, rfl⟩

end Writes

section Kept

/-- What every run keeps of the evidence. An attempt whose arm has a result has a terminal. -/
structure ResearchDatabase.EvidenceKept (s : ResearchDatabase) : Prop where
  enrollmentIds : (s.enrollments.map (·.campaignId)).Nodup
  sourceIds : (s.sources.map (·.receiptSha256)).Nodup
  evaluationIds : (s.evaluations.map (·.receiptSha256)).Nodup
  startIds : (s.starts.map (·.receipt.attemptId)).Nodup
  startKeys : (s.starts.map StartRow.key).Nodup
  terminalIds : (s.terminals.map (·.receipt.attemptId)).Nodup
  qualifiedIds : (s.qualifiedSeals.map (·.receipt.campaignId)).Nodup
  windows : ∀ row ∈ s.starts, ∃ window ∈ s.windows, window.campaignId = row.receipt.campaignId ∧
    window.sampleId = row.receipt.sampleId
  enrolled : ∀ row ∈ s.starts, ∃ enrollment ∈ s.enrollments, enrollment.campaignId = row.receipt.campaignId
  started : ∀ row ∈ s.terminals, ∃ start ∈ s.starts, start.receipt.attemptId = row.receipt.attemptId ∧
    ∀ proposal ∈ row.receipt.proposal,
      proposal.campaignId = start.receipt.campaignId ∧ proposal.sampleId = start.receipt.sampleId
  answered : ∀ row ∈ s.starts, s.HasResult row.receipt.campaignId row.receipt.sampleId row.receipt.armId.value →
    ∃ terminal ∈ s.terminals, terminal.receipt.attemptId = row.receipt.attemptId

variable {s t : ResearchDatabase}

theorem ResearchDatabase.EvidenceKept.start : ResearchDatabase.empty.EvidenceKept := by
  constructor <;> simp [ResearchDatabase.empty]

/-- A sample of an enrolled campaign is recorded when the attempt of its arm has a terminal. -/
theorem guardQualifiedSample_answered {sample : DecisionSample} (h : guardQualifiedSample s sample = .ok ())
    (hkeys : (s.starts.map StartRow.key).Nodup) (henrolled : s.enrollment? sample.campaignId ≠ none) {start : StartRow}
    (hstart : start ∈ s.starts) (hkey : start.key = (sample.campaignId, sample.armId, sample.sampleId)) :
    ∃ terminal ∈ s.terminals, terminal.receipt.attemptId = start.receipt.attemptId := by
  have hfind : (s.starts.find? fun row => row.receipt.campaignId = sample.campaignId ∧
      row.receipt.armId.value = sample.armId ∧ row.receipt.sampleId = sample.sampleId) = some start := by
    rw [← KeyedRows.find?_eq hkeys hstart, hkey]
    simp only [StartRow.key, Prod.mk.injEq]
  unfold guardQualifiedSample at h
  rw [if_neg henrolled, hfind] at h
  obtain ⟨_, -, h⟩ := bind_ok h
  obtain ⟨_, -, h⟩ := bind_ok h
  obtain ⟨terminal, hterminal⟩ : ∃ terminal, s.terminal? start.receipt.attemptId = some terminal := by
    by_cases hevaluated : sample.strategyOutcome ≠ .notEvaluated
    · rw [if_pos hevaluated] at h
      obtain ⟨_, -, h⟩ := bind_ok h
      obtain ⟨_, -, h⟩ := bind_ok h
      obtain ⟨terminal, hterminal, -⟩ := bind_ok h
      exact ⟨terminal, found_ok hterminal⟩
    · rw [if_neg hevaluated] at h
      obtain ⟨_, -, h⟩ := bind_ok h
      obtain ⟨terminal, hterminal, -⟩ := bind_ok h
      exact ⟨terminal, found_ok hterminal⟩
  exact ⟨terminal, KeyedRows.find?_mem hterminal⟩

theorem EvidenceWrite.kept (hwrite : EvidenceWrite s t) (h : s.EvidenceKept) : t.EvidenceKept := by
  cases hwrite with
  | frozen windows samples enrollments sources evaluations starts terminals qualified =>
    constructor
    · rw [enrollments]
      exact h.enrollmentIds
    · rw [sources]
      exact h.sourceIds
    · rw [evaluations]
      exact h.evaluationIds
    · rw [starts]
      exact h.startIds
    · rw [starts]
      exact h.startKeys
    · rw [terminals]
      exact h.terminalIds
    · rw [qualified]
      exact h.qualifiedIds
    · rw [starts]
      intro row hrow
      obtain ⟨window, hwindow, hkey⟩ := h.windows row hrow
      exact ⟨window, windows.subset hwindow, hkey⟩
    · rw [starts, enrollments]
      exact h.enrolled
    · rw [terminals, starts]
      exact h.started
    · unfold ResearchDatabase.HasResult
      rw [starts, terminals, samples]
      exact h.answered
  | sample guarded =>
    rename_i row
    refine { h with answered := ?_ }
    rintro start hstart ⟨other, hother, hkey⟩
    rcases List.mem_cons.mp hother with rfl | hother
    · apply guardQualifiedSample_answered guarded h.startKeys _ hstart hkey.symm
      obtain ⟨enrollment, henrollment, hid⟩ := h.enrolled start hstart
      simp only [SampleRow.key, Prod.mk.injEq] at hkey
      intro hnone
      exact KeyedRows.find?_eq_none_iff.mp hnone enrollment henrollment (hid.trans hkey.1.symm)
    · exact h.answered start hstart ⟨other, hother, hkey⟩
  | enrollment fresh empty =>
    refine { h with enrollmentIds := ?_, enrolled := ?_ }
    · exact KeyedRows.nodup_cons h.enrollmentIds (KeyedRows.find?_eq_none_iff.mp fresh)
    · intro start hstart
      obtain ⟨enrollment, henrollment, hid⟩ := h.enrolled start hstart
      exact ⟨enrollment, List.mem_cons_of_mem _ henrollment, hid⟩
  | source fresh window unanswered =>
    refine { h with sourceIds := KeyedRows.nodup_cons h.sourceIds fun other hother hsha => ?_ }
    exact fresh other hother (Or.inl hsha)
  | evaluation fresh window unanswered =>
    exact { h with evaluationIds := KeyedRows.nodup_cons h.evaluationIds fresh }
  | start fresh window enrolled unanswered =>
    rename_i row
    refine { h with startIds := ?_, startKeys := ?_, windows := ?_, enrolled := ?_, started := ?_, answered := ?_ }
    · exact KeyedRows.nodup_cons h.startIds fun other hother => (fresh other hother).1
    · exact KeyedRows.nodup_cons h.startKeys fun other hother => (fresh other hother).2
    · intro start hstart
      rcases List.mem_cons.mp hstart with rfl | hstart
      · obtain ⟨stored, hstored⟩ := Option.ne_none_iff_exists'.mp window
        exact ⟨stored, ResearchDatabase.window?_mem hstored⟩
      · exact h.windows start hstart
    · intro start hstart
      rcases List.mem_cons.mp hstart with rfl | hstart
      · obtain ⟨stored, hstored⟩ := Option.ne_none_iff_exists'.mp enrolled
        exact ⟨stored, KeyedRows.find?_mem hstored⟩
      · exact h.enrolled start hstart
    · intro terminal hterminal
      obtain ⟨start, hstart, hid⟩ := h.started terminal hterminal
      exact ⟨start, List.mem_cons_of_mem _ hstart, hid⟩
    · intro start hstart hresult
      rcases List.mem_cons.mp hstart with rfl | hstart
      · exact absurd hresult unanswered
      · exact h.answered start hstart hresult
  | terminal fresh started =>
    obtain ⟨start, hfound, hproposal⟩ := started
    obtain ⟨hstart, hid⟩ := KeyedRows.find?_mem hfound
    refine { h with terminalIds := KeyedRows.nodup_cons h.terminalIds fresh, started := ?_, answered := ?_ }
    · intro terminal hterminal
      rcases List.mem_cons.mp hterminal with rfl | hterminal
      · exact ⟨start, hstart, hid, hproposal⟩
      · exact h.started terminal hterminal
    · intro other hother hresult
      obtain ⟨terminal, hterminal, hid⟩ := h.answered other hother hresult
      exact ⟨terminal, List.mem_cons_of_mem _ hterminal, hid⟩
  | qualified fresh => exact { h with qualifiedIds := KeyedRows.nodup_cons h.qualifiedIds fresh }

theorem ResearchStep.evidenceKept {contracts : ResearchContracts} (hstep : ResearchStep contracts s t) (h : s.EvidenceKept) :
    t.EvidenceKept := by
  obtain ⟨u, hwrite, rfl⟩ := hstep.evidence
  exact { hwrite.kept h with }

theorem evidenceKept_of_reachable {contracts : ResearchContracts}
    (h : Runs.Reachable (· = .empty) (ResearchStep contracts) s) : s.EvidenceKept := by
  apply h.invariant
  · rintro _ rfl
    exact .start
  · exact fun _ _ hs hstep => hstep.evidenceKept hs

end Kept

section Frames

variable {contracts : ResearchContracts} {s t u : ResearchDatabase} {campaignId sampleId armId : String}

/-- The evidence that an arm of a sample is verified against is the same. -/
structure SameEvidence (campaignId sampleId armId : String) (s t : ResearchDatabase) : Prop where
  sources : t.sourcesOf campaignId sampleId = s.sourcesOf campaignId sampleId
  evaluations : t.evaluationsOf campaignId sampleId = s.evaluationsOf campaignId sampleId
  starts : t.startsOf campaignId sampleId armId = s.startsOf campaignId sampleId armId
  terminals : ∀ row ∈ s.startsOf campaignId sampleId armId,
    t.terminal? row.receipt.attemptId = s.terminal? row.receipt.attemptId

theorem SameEvidence.refl (s : ResearchDatabase) : SameEvidence campaignId sampleId armId s s :=
  ⟨rfl, rfl, rfl, fun _ _ => rfl⟩

theorem SameEvidence.symm (h : SameEvidence campaignId sampleId armId s t) : SameEvidence campaignId sampleId armId t s :=
  ⟨h.sources.symm, h.evaluations.symm, h.starts.symm, fun row hrow => (h.terminals row (h.starts ▸ hrow)).symm⟩

theorem SameEvidence.trans (h : SameEvidence campaignId sampleId armId s t)
    (h' : SameEvidence campaignId sampleId armId t u) : SameEvidence campaignId sampleId armId s u := by
  constructor
  · exact h'.sources.trans h.sources
  · exact h'.evaluations.trans h.evaluations
  · exact h'.starts.trans h.starts
  · exact fun row hrow => (h'.terminals row (h.starts ▸ hrow)).trans (h.terminals row hrow)

theorem ResearchDatabase.mem_startsOf {row : StartRow} : row ∈ s.startsOf campaignId sampleId armId ↔
    row ∈ s.starts ∧ row.receipt.campaignId = campaignId ∧ row.receipt.armId.value = armId ∧
      row.receipt.sampleId = sampleId := by
  simp [ResearchDatabase.startsOf]

theorem ResearchDatabase.HasResult.resultsOf_ne_nil (h : s.HasResult campaignId sampleId armId) :
    s.resultsOf campaignId sampleId ≠ [] := by
  obtain ⟨row, hrow, hkey⟩ := h
  simp only [SampleRow.key, Prod.mk.injEq] at hkey
  apply List.ne_nil_of_mem
  exact List.mem_filter.mpr ⟨hrow, by simp [hkey]⟩

/-- After its result, nothing is added to the evidence of an arm. -/
theorem EvidenceWrite.sameEvidence (hwrite : EvidenceWrite s t) (h : s.EvidenceKept)
    (hresult : s.HasResult campaignId sampleId armId) : SameEvidence campaignId sampleId armId s t := by
  cases hwrite with
  | frozen windows samples enrollments sources evaluations starts terminals qualified =>
    constructor
    · rw [ResearchDatabase.sourcesOf, sources, ResearchDatabase.sourcesOf]
    · rw [ResearchDatabase.evaluationsOf, evaluations, ResearchDatabase.evaluationsOf]
    · rw [ResearchDatabase.startsOf, starts, ResearchDatabase.startsOf]
    · intro row _
      rw [ResearchDatabase.terminal?, terminals, ResearchDatabase.terminal?]
  | sample guarded => exact ⟨rfl, rfl, rfl, fun _ _ => rfl⟩
  | enrollment fresh empty => exact ⟨rfl, rfl, rfl, fun _ _ => rfl⟩
  | source fresh window unanswered =>
    refine ⟨List.filter_cons_of_neg ?_, rfl, rfl, fun _ _ => rfl⟩
    simp only [decide_eq_true_eq]
    rintro ⟨rfl, rfl⟩
    exact hresult.resultsOf_ne_nil unanswered
  | evaluation fresh window unanswered =>
    refine ⟨rfl, List.filter_cons_of_neg ?_, rfl, fun _ _ => rfl⟩
    simp only [decide_eq_true_eq]
    rintro ⟨rfl, rfl⟩
    exact hresult.resultsOf_ne_nil unanswered
  | start fresh window enrolled unanswered =>
    refine ⟨rfl, rfl, List.filter_cons_of_neg ?_, fun _ _ => rfl⟩
    simp only [decide_eq_true_eq]
    rintro ⟨rfl, rfl, rfl⟩
    exact unanswered hresult
  | terminal fresh started =>
    refine ⟨rfl, rfl, rfl, fun row hrow => List.find?_cons_of_neg ?_⟩
    simp only [decide_eq_true_eq]
    -- the attempt of the arm has a terminal already
    obtain ⟨hstart, rfl, rfl, rfl⟩ := ResearchDatabase.mem_startsOf.mp hrow
    obtain ⟨terminal, hterminal, hid⟩ := h.answered row hstart hresult
    rw [← hid]
    exact (fresh terminal hterminal).symm
  | qualified fresh => exact ⟨rfl, rfl, rfl, fun _ _ => rfl⟩

theorem sameEvidence_of_run (hrun : ReflTransGen (ResearchStep contracts) s t) (h : s.EvidenceKept)
    (hresult : s.HasResult campaignId sampleId armId) : SameEvidence campaignId sampleId armId s t := by
  induction hrun with
  | refl => exact .refl s
  | tail hbefore hstep ih =>
    apply ih.trans
    have hkept := Runs.run_invariant (fun _ _ hs hst => ResearchStep.evidenceKept hst hs) hbefore h
    obtain ⟨row, hrow, hkey⟩ := hresult
    obtain ⟨u, hwrite, rfl⟩ := hstep.evidence
    have hsame := hwrite.sameEvidence hkept
      ⟨row, (ResearchDatabase.extends_of_run hbefore).samples.subset hrow, hkey⟩
    exact ⟨hsame.sources, hsame.evaluations, hsame.starts, hsame.terminals⟩

end Frames

end KairosPersistence
