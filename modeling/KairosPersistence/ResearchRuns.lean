import KairosPersistence.ResearchWrites
import KairosPersistence.Runs

/-!
Runs of the research database, and what every one of them keeps of the
rosters, protocols, samples and seals.
-/

namespace KairosPersistence

open PythonText Relation
open Transactions (bind_ok require_ok found_ok run_spec)

variable (contracts : ResearchContracts)

/-- A transaction on the research database. The first one of a verified seal only reads. -/
inductive ResearchCall where
  | registerSchedule (schedule : ObservationSchedule)
  | registerProtocol (protocol : CandidateProtocol)
  | recordSample (sample : DecisionSample)
  | sealCoverage (campaignId : String)
  | enrollCampaign (campaignId : String)
  | recordSource (receipt : SourceReceipt)
  | recordEvaluation (receipt : StrategyEvaluation)
  | startAttempt (attempt : AttemptStart)
  | finishAttempt (terminal : AttemptTerminal)
  | verifyCampaign (campaignId : String)
  | qualifyCoverage (campaignId : String) (coverage : CoverageSeal)

/-- The rows that a transaction leaves. -/
def ResearchCall.rows (now : Timestamp) (s : ResearchDatabase) : ResearchCall → ResearchDatabase
  | .registerSchedule schedule => (Transactions.run (KairosPersistence.registerSchedule contracts schedule now) s).1
  | .registerProtocol protocol => (Transactions.run (KairosPersistence.registerProtocol contracts protocol) s).1
  | .recordSample sample => (Transactions.run (KairosPersistence.recordSample contracts sample now) s).1
  | .sealCoverage campaignId => (Transactions.run (KairosPersistence.sealCoverage contracts campaignId) s).1
  | .enrollCampaign campaignId => (Transactions.run (KairosPersistence.enrollCampaign contracts campaignId) s).1
  | .recordSource receipt => (Transactions.run (KairosPersistence.recordSource contracts receipt) s).1
  | .recordEvaluation receipt => (Transactions.run (recordEvidenceEvaluation contracts receipt) s).1
  | .startAttempt attempt => (Transactions.run (startEvidenceAttempt contracts attempt) s).1
  | .finishAttempt terminal => (Transactions.run (finishEvidenceAttempt contracts terminal) s).1
  | .verifyCampaign _ => s
  | .qualifyCoverage campaignId coverage =>
    (Transactions.run (KairosPersistence.qualifyCoverage contracts campaignId coverage) s).1

/-- The next transaction has the next id. -/
def ResearchCall.run (call : ResearchCall) (now : Timestamp) (s : ResearchDatabase) : ResearchDatabase :=
  { call.rows contracts now s with txid := s.txid + 1 }

/-- Any transaction, at any reading of the clock. -/
def ResearchStep (s t : ResearchDatabase) : Prop := ∃ call now, t = ResearchCall.run contracts call now s

section Writes

variable {contracts} {s t : ResearchDatabase}

theorem insertWindow_ok {campaignId : String} {window : ObservationWindow}
    (h : insertWindow campaignId s window = .ok t) :
    s.window? campaignId window.sampleId = none ∧
      t = { s with windows := { window with campaignId := campaignId } :: s.windows } := by
  obtain ⟨_, -, h⟩ := bind_ok h
  obtain ⟨_, -, h⟩ := bind_ok h
  obtain ⟨_, hnew, h⟩ := bind_ok h
  obtain ⟨_, -, h⟩ := bind_ok h
  exact ⟨require_ok hnew, (Except.ok.inj h).symm⟩

/-- The rows of a roster, the last window first. -/
def windowRows (campaignId : String) (windows : List ObservationWindow) : List WindowRow :=
  (windows.map fun window => { window with campaignId := campaignId }).reverse

theorem insertWindows_ok {campaignId : String} {windows : List ObservationWindow}
    (h : windows.foldlM (insertWindow campaignId) s = .ok t) :
    t = { s with windows := windowRows campaignId windows ++ s.windows } ∧ (windows.map (·.sampleId)).Nodup ∧
      ∀ window ∈ windows, s.window? campaignId window.sampleId = none := by
  induction windows generalizing s with
  | nil =>
    obtain rfl := Except.ok.inj h
    exact ⟨rfl, List.nodup_nil, by simp⟩
  | cons window windows ih =>
    obtain ⟨u, hinsert, h⟩ := bind_ok h
    obtain ⟨hnew, rfl⟩ := insertWindow_ok hinsert
    obtain ⟨rfl, hnodup, hold⟩ := ih h
    have hrest : ∀ other ∈ windows, window.sampleId ≠ other.sampleId ∧ s.window? campaignId other.sampleId = none := by
      intro other hother
      have hnone := hold other hother
      simp only [ResearchDatabase.window?, List.find?_cons] at hnone
      split at hnone
      · cases hnone
      · rename_i hne
        exact ⟨fun heq => by simp [heq] at hne, hnone⟩
    refine ⟨?_, ?_, ?_⟩
    · simp only [windowRows, List.map_cons, List.reverse_cons, List.append_assoc, List.singleton_append]
    · rw [List.map_cons, List.nodup_cons]
      refine ⟨fun hmem => ?_, hnodup⟩
      obtain ⟨other, hother, heq⟩ := List.mem_map.mp hmem
      exact (hrest other hother).1 heq.symm
    · intro other hother
      rcases List.mem_cons.mp hother with rfl | hother
      · exact hnew
      · exact (hrest other hother).2

theorem registerSchedule_ok {schedule : ObservationSchedule} {now : Timestamp} {registered : Bool}
    (h : registerSchedule contracts schedule now s = .ok (t, registered)) :
    t = s ∨ s.schedule? schedule.campaignId = none ∧ s.samplesOf schedule.campaignId = [] ∧
      (schedule.windows.map (·.sampleId)).Nodup ∧ ∃ row : ScheduleRow, row.campaignId = schedule.campaignId ∧
        row.scheduleDigest = schedule.scheduleDigest ∧ row.strategyId = schedule.strategyId ∧
        row.strategyRevision = schedule.strategyRevision ∧ row.windowCount = schedule.windows.length ∧
        row.payload = schedule ∧ row.freezeTxid = s.txid ∧
        t = { s with
          schedules := row :: s.schedules
          windows := windowRows schedule.campaignId schedule.windows ++ s.windows } := by
  obtain ⟨_, -, h⟩ := bind_ok h
  split at h
  · obtain ⟨_, -, h⟩ := bind_ok h
    exact Or.inl (Prod.mk.inj (Except.ok.inj h)).1.symm
  · rename_i hnone
    obtain ⟨_, hsamples, h⟩ := bind_ok h
    obtain ⟨u, hinsert, h⟩ := bind_ok h
    obtain ⟨v, hwindows, h⟩ := bind_ok h
    obtain ⟨rfl, -⟩ := Prod.mk.inj (Except.ok.inj h)
    obtain ⟨_, -, hinsert⟩ := bind_ok hinsert
    obtain ⟨_, -, hinsert⟩ := bind_ok hinsert
    obtain ⟨_, -, hinsert⟩ := bind_ok hinsert
    obtain rfl := Except.ok.inj hinsert
    obtain ⟨rfl, hnodup, -⟩ := insertWindows_ok hwindows
    exact Or.inr ⟨hnone, require_ok hsamples, hnodup, _, rfl, rfl, rfl, rfl, rfl, rfl, rfl, rfl⟩

theorem registerProtocol_ok {protocol : CandidateProtocol} {registered : Bool}
    (h : registerProtocol contracts protocol s = .ok (t, registered)) :
    t = s ∨ s.protocol? protocol.campaignId = none ∧ protocol.ThreeArms ∧
      (∃ roster ∈ s.schedule? protocol.campaignId, roster.scheduleDigest = protocol.scheduleDigest ∧
        roster.freezeTxid ≠ s.txid) ∧ ∃ row : ProtocolRow, row.campaignId = protocol.campaignId ∧
        row.scheduleDigest = protocol.scheduleDigest ∧ row.protocolDigest = protocol.protocolDigest ∧
        row.armDigests = armDigests contracts protocol ∧ row.payload = protocol ∧ row.freezeTxid = s.txid ∧
        t = { s with protocols := row :: s.protocols } := by
  obtain ⟨_, -, h⟩ := bind_ok h
  obtain ⟨_, -, h⟩ := bind_ok h
  obtain ⟨roster, -, h⟩ := bind_ok h
  obtain ⟨_, -, h⟩ := bind_ok h
  obtain ⟨_, -, h⟩ := bind_ok h
  split at h
  · obtain ⟨_, -, h⟩ := bind_ok h
    obtain ⟨_, -, h⟩ := bind_ok h
    exact Or.inl (Prod.mk.inj (Except.ok.inj h)).1.symm
  · rename_i hnone
    obtain ⟨_, -, h⟩ := bind_ok h
    obtain ⟨_, -, h⟩ := bind_ok h
    obtain ⟨_, -, h⟩ := bind_ok h
    obtain ⟨u, hinsert, h⟩ := bind_ok h
    obtain ⟨rfl, -⟩ := Prod.mk.inj (Except.ok.inj h)
    obtain ⟨_, hroster, hinsert⟩ := bind_ok hinsert
    obtain ⟨_, -, hinsert⟩ := bind_ok hinsert
    obtain ⟨_, hpayload, hinsert⟩ := bind_ok hinsert
    obtain ⟨_, -, hinsert⟩ := bind_ok hinsert
    obtain ⟨_, -, hinsert⟩ := bind_ok hinsert
    obtain ⟨_, -, hinsert⟩ := bind_ok hinsert
    obtain rfl := Except.ok.inj hinsert
    obtain ⟨roster, hmem, hdigest, -, htxid⟩ := require_ok hroster
    exact Or.inr ⟨hnone, (require_ok hpayload).2.2.2, ⟨roster, hmem, hdigest, htxid⟩, _, rfl, rfl, rfl, rfl, rfl, rfl, rfl⟩

/-- The sample is of the window and the arm that are frozen. -/
structure DecisionSample.Fits (sample : DecisionSample) (roster : ScheduleRow) (protocol : ProtocolRow)
    (window : ObservationWindow) : Prop where
  arm : sample.armId ∈ researchArms.map (·.value)
  armDigest : sample.armProtocolDigest = protocol.armDigest? sample.armId
  digestKnown : sample.armProtocolDigest ≠ none
  protocolDigest : protocol.scheduleDigest = roster.scheduleDigest
  sampleId : sample.sampleId = window.sampleId
  symbol : sample.symbol = window.symbol
  timeframe : sample.timeframe = window.timeframe
  marketAsOf : sample.marketAsOfTsMs = window.marketAsOfTsMs
  snapshot : ∀ digest ∈ window.marketSnapshotSha256, sample.marketSnapshotSha256 = digest
  pairedAt : sample.pairedAtTsMs = window.pairedAtTsMs
  sampleDeadline : sample.sampleDeadlineTsMs = window.sampleDeadlineTsMs
  strategy : sample.strategyId = roster.strategyId ∧ sample.strategyRevision = roster.strategyRevision

theorem guardScheduledSample_ok {sample : DecisionSample} {now : Timestamp} {roster : ScheduleRow}
    (h : guardScheduledSample s sample now = .ok ()) (hroster : s.schedule? sample.campaignId = some roster) :
    s.seal? sample.campaignId = none ∧ roster.frozenAt < now ∧
      (∀ prior ∈ s.samples, prior.sample.campaignId = sample.campaignId ∧ prior.sample.sampleId = sample.sampleId →
        prior.sample.toBaselineLineage = sample.toBaselineLineage) ∧
      ∃ protocol, s.protocol? sample.campaignId = some protocol ∧ protocol.freezeTxid ≠ s.txid ∧
        ∃ window, s.window? sample.campaignId sample.sampleId = some window ∧
          sample.Fits roster protocol window.toObservationWindow := by
  unfold guardScheduledSample at h
  rw [hroster] at h
  obtain ⟨_, hseal, h⟩ := bind_ok h
  obtain ⟨_, harm, h⟩ := bind_ok h
  obtain ⟨protocol, hprotocol, h⟩ := bind_ok h
  obtain ⟨_, hcommitted, h⟩ := bind_ok h
  obtain ⟨_, hdigest, h⟩ := bind_ok h
  obtain ⟨window, hwindow, h⟩ := bind_ok h
  obtain ⟨_, hfields, h⟩ := bind_ok h
  obtain ⟨_, hstrategy, h⟩ := bind_ok h
  obtain ⟨_, -, h⟩ := bind_ok h
  obtain ⟨_, hlineage, h⟩ := bind_ok h
  have hwindow := found_ok hwindow
  obtain ⟨hcommitted, hschedule⟩ := require_ok hcommitted
  obtain ⟨hknown, hdigest⟩ := require_ok hdigest
  obtain ⟨hsymbol, htimeframe, hasOf, hsnapshot, hpaired, hdeadline⟩ := require_ok hfields
  obtain ⟨-, -, hkey⟩ := ResearchDatabase.window?_mem hwindow
  refine ⟨require_ok hseal, require_ok h, require_ok hlineage, protocol, found_ok hprotocol, hcommitted, window, hwindow, ?_⟩
  exact
    { arm := require_ok harm
      armDigest := hdigest
      digestKnown := hknown
      protocolDigest := hschedule
      sampleId := hkey.symm
      symbol := hsymbol
      timeframe := htimeframe
      marketAsOf := hasOf
      snapshot := hsnapshot
      pairedAt := hpaired
      sampleDeadline := hdeadline
      strategy := require_ok hstrategy }

theorem recordSample_ok {sample : DecisionSample} {now : Timestamp} {recorded : Bool}
    (h : recordSample contracts sample now s = .ok (t, recorded)) :
    t = s ∨ guardScheduledSample s sample now = .ok () ∧ (∀ row ∈ s.samples, ¬sample.Collides row) ∧
      t = { s with samples := ⟨sample, now, s.txid⟩ :: s.samples } := by
  obtain ⟨_, -, h⟩ := bind_ok h
  obtain ⟨_, hguard, h⟩ := bind_ok h
  obtain ⟨_, -, h⟩ := bind_ok h
  obtain ⟨_, -, h⟩ := bind_ok h
  split at h
  · rename_i hnone
    obtain ⟨rfl, -⟩ := Prod.mk.inj (Except.ok.inj h)
    refine Or.inr ⟨hguard, fun row hrow hcollides => ?_, rfl⟩
    have hmem : row ∈ s.samples.filter sample.Collides := List.mem_filter.mpr ⟨hrow, decide_eq_true hcollides⟩
    rw [hnone] at hmem
    exact List.not_mem_nil hmem
  · obtain ⟨_, -, h⟩ := bind_ok h
    exact Or.inl (Prod.mk.inj (Except.ok.inj h)).1.symm
  · cases h

theorem sealCoverage_ok {campaignId : String} {coverage : CoverageSeal}
    (h : sealCoverage contracts campaignId s = .ok (t, coverage)) :
    s.seal? coverage.campaignId = none ∧ ∃ roster protocol, s.schedule? coverage.campaignId = some roster ∧
      s.protocol? coverage.campaignId = some protocol ∧ protocol.scheduleDigest = roster.scheduleDigest ∧
      coverage.scheduleDigest = roster.scheduleDigest ∧ coverage.candidateProtocolDigest = protocol.protocolDigest ∧
      (s.samplesOf coverage.campaignId).length = roster.windowCount * 3 ∧
      t = { s with seals := ⟨coverage, contracts.coverageSha256 coverage⟩ :: s.seals } := by
  obtain ⟨_, -, h⟩ := bind_ok h
  obtain ⟨row, -, h⟩ := bind_ok h
  obtain ⟨_, -, h⟩ := bind_ok h
  obtain ⟨_, -, h⟩ := bind_ok h
  obtain ⟨protocolRow, -, h⟩ := bind_ok h
  obtain ⟨stored, -, h⟩ := bind_ok h
  obtain ⟨_, -, h⟩ := bind_ok h
  obtain ⟨_, -, h⟩ := bind_ok h
  obtain ⟨evaluated, -, h⟩ := bind_ok h
  obtain ⟨u, hinsert, h⟩ := bind_ok h
  obtain ⟨rfl, rfl⟩ := Prod.mk.inj (Except.ok.inj h)
  obtain ⟨roster, hroster, hinsert⟩ := bind_ok hinsert
  obtain ⟨protocol, hprotocol, hinsert⟩ := bind_ok hinsert
  obtain ⟨_, hdigests, hinsert⟩ := bind_ok hinsert
  obtain ⟨_, hcount, hinsert⟩ := bind_ok hinsert
  obtain ⟨_, -, hinsert⟩ := bind_ok hinsert
  obtain ⟨_, hseal, hinsert⟩ := bind_ok hinsert
  obtain ⟨_, -, hinsert⟩ := bind_ok hinsert
  obtain rfl := Except.ok.inj hinsert
  obtain ⟨-, hschedule, hprotocolDigest, hscheduleDigest⟩ := require_ok hdigests
  obtain ⟨hexpected, hobserved⟩ := require_ok hcount
  exact ⟨require_ok hseal, roster, protocol, found_ok hroster, found_ok hprotocol, hschedule, hscheduleDigest,
    hprotocolDigest, hobserved.trans hexpected, rfl⟩

/-- The rosters, protocols, samples and seals are the same. -/
def ResearchDatabase.SameResults (s t : ResearchDatabase) : Prop :=
  t.schedules = s.schedules ∧ t.windows = s.windows ∧ t.protocols = s.protocols ∧ t.samples = s.samples ∧ t.seals = s.seals

theorem ResearchDatabase.SameResults.refl (s : ResearchDatabase) : s.SameResults s := ⟨rfl, rfl, rfl, rfl, rfl⟩

theorem sameResults_enrollCampaign {campaignId : String} {enrolled : Bool}
    (h : enrollCampaign contracts campaignId s = .ok (t, enrolled)) : s.SameResults t := by
  obtain ⟨_, -, h⟩ := bind_ok h
  obtain ⟨_, -, h⟩ := bind_ok h
  obtain ⟨_, -, h⟩ := bind_ok h
  split at h
  · obtain ⟨rfl, -⟩ := Prod.mk.inj (Except.ok.inj h)
    exact ⟨rfl, rfl, rfl, rfl, rfl⟩
  · obtain ⟨_, -, h⟩ := bind_ok h
    obtain ⟨rfl, -⟩ := Prod.mk.inj (Except.ok.inj h)
    exact .refl s

/-- The last step of a write on conflict: the row is new, or it is the one that is stored. -/
theorem sameResults_ite {p q : Prop} [Decidable p] [Decidable q] {error : ResearchError} {u : ResearchDatabase}
    {recorded : Bool} (h : (if p then pure (u, true) else (do Transactions.require q error; pure (s, false)) :
      Except ResearchError (ResearchDatabase × Bool)) = .ok (t, recorded)) (hu : s.SameResults u) : s.SameResults t := by
  split at h
  · obtain ⟨rfl, -⟩ := Prod.mk.inj (Except.ok.inj h)
    exact hu
  · obtain ⟨_, -, h⟩ := bind_ok h
    obtain ⟨rfl, -⟩ := Prod.mk.inj (Except.ok.inj h)
    exact .refl s

theorem sameResults_recordSource {receipt : SourceReceipt} {recorded : Bool}
    (h : recordSource contracts receipt s = .ok (t, recorded)) : s.SameResults t := by
  obtain ⟨_, -, h⟩ := bind_ok h
  obtain ⟨_, -, h⟩ := bind_ok h
  obtain ⟨_, -, h⟩ := bind_ok h
  obtain ⟨_, -, h⟩ := bind_ok h
  obtain ⟨_, -, h⟩ := bind_ok h
  obtain ⟨_, -, h⟩ := bind_ok h
  exact sameResults_ite h ⟨rfl, rfl, rfl, rfl, rfl⟩

theorem sameResults_recordEvaluation {receipt : StrategyEvaluation} {recorded : Bool}
    (h : recordEvidenceEvaluation contracts receipt s = .ok (t, recorded)) : s.SameResults t := by
  obtain ⟨_, -, h⟩ := bind_ok h
  obtain ⟨_, -, h⟩ := bind_ok h
  obtain ⟨_, -, h⟩ := bind_ok h
  exact sameResults_ite h ⟨rfl, rfl, rfl, rfl, rfl⟩

theorem sameResults_startAttempt {attempt : AttemptStart} {recorded : Bool}
    (h : startEvidenceAttempt contracts attempt s = .ok (t, recorded)) : s.SameResults t := by
  obtain ⟨_, -, h⟩ := bind_ok h
  obtain ⟨_, -, h⟩ := bind_ok h
  obtain ⟨_, -, h⟩ := bind_ok h
  obtain ⟨_, -, h⟩ := bind_ok h
  obtain ⟨_, -, h⟩ := bind_ok h
  obtain ⟨_, -, h⟩ := bind_ok h
  obtain ⟨_, -, h⟩ := bind_ok h
  obtain ⟨_, -, h⟩ := bind_ok h
  obtain ⟨_, -, h⟩ := bind_ok h
  obtain ⟨_, -, h⟩ := bind_ok h
  exact sameResults_ite h ⟨rfl, rfl, rfl, rfl, rfl⟩

theorem sameResults_finishAttempt {terminal : AttemptTerminal} {recorded : Bool}
    (h : finishEvidenceAttempt contracts terminal s = .ok (t, recorded)) : s.SameResults t := by
  obtain ⟨_, -, h⟩ := bind_ok h
  obtain ⟨_, -, h⟩ := bind_ok h
  obtain ⟨_, -, h⟩ := bind_ok h
  obtain ⟨_, -, h⟩ := bind_ok h
  obtain ⟨_, -, h⟩ := bind_ok h
  exact sameResults_ite h ⟨rfl, rfl, rfl, rfl, rfl⟩

theorem qualifyCoverage_ok {campaignId : String} {coverage : CoverageSeal} {qualified : QualifiedCoverage}
    (h : qualifyCoverage contracts campaignId coverage s = .ok (t, qualified)) :
    s.SameResults t ∧ coverage.campaignId = campaignId ∧ qualified = qualifiedCoverage contracts campaignId coverage s ∧
      ∃ stored ∈ s.seals, stored.coverage = coverage := by
  obtain ⟨_, -, h⟩ := bind_ok h
  obtain ⟨_, hcampaign, h⟩ := bind_ok h
  obtain ⟨u, hinsert, h⟩ := bind_ok h
  obtain ⟨rfl, rfl⟩ := Prod.mk.inj (Except.ok.inj h)
  obtain ⟨_, hseal, hinsert⟩ := bind_ok hinsert
  obtain ⟨stored, hstored, -, -, hcoverage⟩ := require_ok hseal
  refine ⟨?_, (require_ok hcampaign).1, rfl, stored, hstored, hcoverage⟩
  split at hinsert
  · obtain rfl := Except.ok.inj hinsert
    exact ⟨rfl, rfl, rfl, rfl, rfl⟩
  · obtain ⟨_, -, hinsert⟩ := bind_ok hinsert
    obtain rfl := Except.ok.inj hinsert
    exact .refl s

end Writes

end KairosPersistence
