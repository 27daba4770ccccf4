import Mathlib.Data.Prod.Lex
import Mathlib.Data.String.Basic
import KairosPersistence.KeyedRows
import KairosPersistence.PythonText
import KairosPersistence.ResearchContracts

/-!
The tables of simulated research. Each is append-only, the newest row first.
-/

namespace KairosPersistence

open PythonText

section Order

/-- `ORDER BY market_as_of_ts_ms, symbol, timeframe, sample_id`. -/
def ObservationWindow.Before (a b : ObservationWindow) : Prop :=
  a.marketAsOfTsMs < b.marketAsOfTsMs ∨ a.marketAsOfTsMs = b.marketAsOfTsMs ∧
    (a.symbol < b.symbol ∨ a.symbol = b.symbol ∧
      (a.timeframe < b.timeframe ∨ a.timeframe = b.timeframe ∧ a.sampleId < b.sampleId))

instance (a b : ObservationWindow) : Decidable (a.Before b) :=
  inferInstanceAs (Decidable (_ ∨ _))

/-- The key of that order. -/
def ObservationWindow.rank (w : ObservationWindow) : ℕ ×ₗ String ×ₗ String ×ₗ String :=
  toLex (w.marketAsOfTsMs, toLex (w.symbol, toLex (w.timeframe, w.sampleId)))

variable {a b : ObservationWindow}

theorem ObservationWindow.before_iff : a.Before b ↔ a.rank < b.rank := by
  simp only [ObservationWindow.Before, ObservationWindow.rank, Prod.Lex.toLex_lt_toLex]

theorem ObservationWindow.not_before_iff : ¬b.Before a ↔ a.rank ≤ b.rank := by
  rw [ObservationWindow.before_iff, not_lt]

theorem ObservationWindow.sampleId_eq_of_rank (h : a.rank = b.rank) : a.sampleId = b.sampleId := by
  simp only [ObservationWindow.rank, toLex_inj, Prod.mk.injEq] at h
  exact h.2.2.2

/-- Windows in order are in the order of their times. -/
theorem ObservationWindow.marketAsOf_le_of_rank (h : a.rank ≤ b.rank) : a.marketAsOfTsMs ≤ b.marketAsOfTsMs := by
  simp only [ObservationWindow.rank, Prod.Lex.toLex_le_toLex] at h
  omega

end Order

section Rows

/-- `sim_research_observation_schedules`. -/
structure ScheduleRow where
  campaignId : String
  scheduleDigest : String
  strategyId : String
  strategyRevision : String
  windowCount : ℕ
  payload : ObservationSchedule
  freezeTxid : ℕ
  frozenAt : Timestamp
  adaptiveProtocolRegistrationAllowed : Bool
  independentEvidenceRegistrationAllowed : Bool
  deriving DecidableEq, Repr

/-- `sim_research_observation_windows`. -/
structure WindowRow extends ObservationWindow where
  campaignId : String
  deriving DecidableEq, Repr

/-- `sim_research_adaptive_candidate_protocols`. -/
structure ProtocolRow where
  campaignId : String
  scheduleDigest : String
  protocolDigest : String
  armDigests : List (String × String)
  payload : CandidateProtocol
  freezeTxid : ℕ
  deriving DecidableEq, Repr

/-- `arm_digests->>arm_id`. -/
def ProtocolRow.armDigest? (row : ProtocolRow) (armId : String) : Option String := row.armDigests.lookup armId

/-- `sim_research_decision_samples`; `xmin` is the transaction that wrote the row. -/
structure SampleRow where
  sample : DecisionSample
  recordedAt : Timestamp
  xmin : ℕ
  deriving DecidableEq, Repr

/-- `sim_research_coverage_seals`. -/
structure SealRow where
  coverage : CoverageSeal
  coverageDigest : String
  deriving DecidableEq, Repr

/-- `sim_research_evidence_campaigns`. -/
structure EnrollmentRow where
  campaignId : String
  scheduleDigest : String
  candidateProtocolDigest : String
  enrollmentTxid : ℕ
  deriving DecidableEq, Repr

/-- `sim_research_source_receipts`. -/
structure SourceRow where
  receiptSha256 : String
  contentSha256 : String
  receipt : SourceReceipt

/-- `sim_research_evaluation_receipts`. -/
structure EvaluationRow where
  receiptSha256 : String
  receipt : StrategyEvaluation
  deriving DecidableEq, Repr

/-- `sim_research_llm_attempt_starts`. -/
structure StartRow where
  receiptSha256 : String
  receipt : AttemptStart
  deriving DecidableEq, Repr

/-- `sim_research_llm_attempt_terminals`. -/
structure TerminalRow where
  receiptSha256 : String
  receipt : AttemptTerminal
  deriving DecidableEq, Repr

/-- `sim_research_source_qualified_seals`. -/
structure QualifiedRow where
  receiptSha256 : String
  coverageDigest : String
  receipt : QualifiedCoverage
  deriving DecidableEq, Repr

end Rows

/-- `txid` is the transaction that runs. -/
structure ResearchDatabase where
  schedules : List ScheduleRow
  windows : List WindowRow
  protocols : List ProtocolRow
  samples : List SampleRow
  seals : List SealRow
  enrollments : List EnrollmentRow
  sources : List SourceRow
  evaluations : List EvaluationRow
  starts : List StartRow
  terminals : List TerminalRow
  qualifiedSeals : List QualifiedRow
  txid : ℕ

namespace ResearchDatabase

def empty : ResearchDatabase := ⟨[], [], [], [], [], [], [], [], [], [], [], 0⟩

variable (s : ResearchDatabase) (campaignId sampleId : String)

def schedule? : Option ScheduleRow := s.schedules.find? (·.campaignId = campaignId)

def window? : Option WindowRow := s.windows.find? fun row => (row.campaignId, row.sampleId) = (campaignId, sampleId)

def protocol? : Option ProtocolRow := s.protocols.find? (·.campaignId = campaignId)

def samplesOf : List SampleRow := s.samples.filter (·.sample.campaignId = campaignId)

def seal? : Option SealRow := s.seals.find? (·.coverage.campaignId = campaignId)

def enrollment? : Option EnrollmentRow := s.enrollments.find? (·.campaignId = campaignId)

def marketSource? : Option SourceRow :=
  s.sources.find? fun row =>
    (row.receipt.campaignId, row.receipt.sampleId, row.receipt.sourceKind) = (campaignId, sampleId, .marketSnapshot)

def source? (receiptSha256 : String) : Option SourceRow := s.sources.find? (·.receiptSha256 = receiptSha256)

def evaluation? (receiptSha256 : String) : Option EvaluationRow := s.evaluations.find? (·.receiptSha256 = receiptSha256)

def start? (attemptId : String) : Option StartRow := s.starts.find? (·.receipt.attemptId = attemptId)

def terminal? (attemptId : String) : Option TerminalRow := s.terminals.find? (·.receipt.attemptId = attemptId)

def qualifiedSeal? : Option QualifiedRow := s.qualifiedSeals.find? (·.receipt.campaignId = campaignId)

section Lookups

variable {s campaignId sampleId}

theorem schedule?_mem {row : ScheduleRow} (h : s.schedule? campaignId = some row) :
    row ∈ s.schedules ∧ row.campaignId = campaignId := KeyedRows.find?_mem h

theorem window?_mem {row : WindowRow} (h : s.window? campaignId sampleId = some row) :
    row ∈ s.windows ∧ row.campaignId = campaignId ∧ row.sampleId = sampleId := by
  obtain ⟨hmem, hkey⟩ := @KeyedRows.find?_mem _ _ (fun row : WindowRow => (row.campaignId, row.sampleId)) _ _ _ _ h
  exact ⟨hmem, Prod.mk.inj hkey⟩

theorem protocol?_mem {row : ProtocolRow} (h : s.protocol? campaignId = some row) :
    row ∈ s.protocols ∧ row.campaignId = campaignId := KeyedRows.find?_mem h

theorem seal?_eq_none : s.seal? campaignId = none ↔ ∀ row ∈ s.seals, row.coverage.campaignId ≠ campaignId :=
  KeyedRows.find?_eq_none_iff

theorem schedule?_eq_none : s.schedule? campaignId = none ↔ ∀ row ∈ s.schedules, row.campaignId ≠ campaignId :=
  KeyedRows.find?_eq_none_iff

theorem protocol?_eq_none : s.protocol? campaignId = none ↔ ∀ row ∈ s.protocols, row.campaignId ≠ campaignId :=
  KeyedRows.find?_eq_none_iff

end Lookups

/-- The windows of a campaign in the order of a roster. -/
def roster : List ObservationWindow :=
  ((s.windows.filter (·.campaignId = campaignId)).map (·.toObservationWindow)).insertionSort fun a b => ¬b.Before a

end ResearchDatabase

end KairosPersistence
