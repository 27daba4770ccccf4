import KairosPersistence.ResearchTables
import KairosPersistence.SourceUsage

/-!
Preregistration: the roster of a campaign with its windows, and the candidate
protocol of its arms.
-/

namespace KairosPersistence

open PythonText
open Transactions (bind_ok require require_ok found found_ok)

variable (contracts : ResearchContracts)

section Schedules

/-- `_verify_schedule`. -/
def verifySchedule (s : ResearchDatabase) (row : ScheduleRow) (schedule : ObservationSchedule) :
    Except ResearchError Unit := do
  require (row.campaignId = schedule.campaignId ∧ row.scheduleDigest = schedule.scheduleDigest ∧
      row.strategyId = schedule.strategyId ∧ row.strategyRevision = schedule.strategyRevision ∧
      row.windowCount = schedule.windows.length ∧ row.payload = schedule)
    (.messageIdentityConflict "campaign already has a different immutable research schedule")
  require (s.roster schedule.campaignId = schedule.windows)
    (.messageIdentityConflict "stored research windows differ from the frozen roster")

/-- The insert of a row of `sim_research_observation_schedules`. -/
def insertSchedule (row : ScheduleRow) (s : ResearchDatabase) : Except ResearchError ResearchDatabase := do
  require (1 ≤ row.windowCount ∧ row.windowCount ≤ 50000) (.checkViolation "sim_research_observation_schedules")
  require (s.schedule? row.campaignId = none) (.uniqueViolation "sim_research_observation_schedules_pkey")
  require (∀ r ∈ s.schedules, r.scheduleDigest ≠ row.scheduleDigest)
    (.uniqueViolation "sim_research_observation_schedules_schedule_digest_key")
  pure { s with schedules := row :: s.schedules }

/-- The insert of a row of `sim_research_observation_windows`, with its guard. -/
def insertWindow (campaignId : String) (s : ResearchDatabase) (window : ObservationWindow) :
    Except ResearchError ResearchDatabase := do
  require ((s.schedule? campaignId).map (·.freezeTxid) = some s.txid)
    (.raiseException "SIM research window cannot be added after schedule freeze")
  require (window.marketAsOfTsMs ≤ window.pairedAtTsMs ∧ window.pairedAtTsMs < window.sampleDeadlineTsMs)
    (.checkViolation "sim_research_observation_windows")
  require (s.window? campaignId window.sampleId = none) (.uniqueViolation "sim_research_observation_windows_pkey")
  require (∀ r ∈ s.windows, (r.campaignId, r.symbol, r.timeframe, r.marketAsOfTsMs) ≠
      (campaignId, window.symbol, window.timeframe, window.marketAsOfTsMs))
    (.uniqueViolation "sim_research_observation_windows(campaign_id,symbol,timeframe,market_as_of_ts_ms)")
  pure { s with windows := { window with campaignId := campaignId } :: s.windows }

/-- `register` of the schedules. -/
def registerSchedule (schedule : ObservationSchedule) (now : Timestamp) (s : ResearchDatabase) :
    Except ResearchError (ResearchDatabase × Bool) := do
  require (schedule.scheduleDigest = contracts.scheduleSha256 schedule)
    (.valueError "research schedule digest does not match its canonical roster")
  match s.schedule? schedule.campaignId with
  | some row => do
    verifySchedule s row schedule
    pure (s, false)
  | none => do
    require (s.samplesOf schedule.campaignId = [])
      (.messageIdentityConflict "cannot preregister after the campaign already has arm results")
    let t ← insertSchedule
      { campaignId := schedule.campaignId
        scheduleDigest := schedule.scheduleDigest
        strategyId := schedule.strategyId
        strategyRevision := schedule.strategyRevision
        windowCount := schedule.windows.length
        payload := schedule
        freezeTxid := s.txid
        frozenAt := now
        adaptiveProtocolRegistrationAllowed := true
        independentEvidenceRegistrationAllowed := true } s
    let u ← schedule.windows.foldlM (insertWindow schedule.campaignId) t
    pure (u, true)

end Schedules

section Protocols

/-- `_arm_digests`. -/
def armDigests (protocol : CandidateProtocol) : List (String × String) :=
  protocol.arms.map fun arm => (arm.armId.value, contracts.armDigest protocol arm.armId)

/-- `_verify_row` of the protocols. -/
def verifyProtocol (row : ProtocolRow) : Except ResearchError CandidateProtocol := do
  let protocol := row.payload
  require (row.campaignId = protocol.campaignId ∧ row.scheduleDigest = protocol.scheduleDigest ∧
      row.protocolDigest = protocol.protocolDigest ∧ row.armDigests = armDigests contracts protocol)
    (.messageIdentityConflict "stored adaptive candidate protocol failed integrity verification")
  pure protocol

/-- The part of the fixed three-arm contract that the guard of the protocols reads again. -/
def CandidateProtocol.ThreeArms (protocol : CandidateProtocol) : Prop :=
  protocol.arms.map (·.armId) = researchArms ∧
    ∀ arm ∈ protocol.arms, if arm.armId = .strategyOnly then
      arm.provider = none ∧ arm.model = none ∧ arm.promptSha256 = none ∧ arm.schemaSha256 = none
    else arm.provider ≠ none ∧ arm.model ≠ none ∧ arm.promptSha256 ≠ none ∧ arm.schemaSha256 ≠ none

instance (protocol : CandidateProtocol) : Decidable protocol.ThreeArms := inferInstanceAs (Decidable (_ ∧ _))

/-- The insert of a row of `sim_research_adaptive_candidate_protocols`, with its guard. -/
def insertProtocol (row : ProtocolRow) (s : ResearchDatabase) : Except ResearchError ResearchDatabase := do
  require (∃ roster ∈ s.schedule? row.campaignId, roster.scheduleDigest = row.scheduleDigest ∧
      roster.adaptiveProtocolRegistrationAllowed ∧ roster.freezeTxid ≠ s.txid)
    (.raiseException "adaptive candidate protocol requires an existing eligible committed SIM schedule")
  require (s.samplesOf row.campaignId = [] ∧ s.seal? row.campaignId = none)
    (.raiseException "adaptive candidate protocol cannot be registered after results or a coverage seal")
  require (row.payload.campaignId = row.campaignId ∧ row.payload.scheduleDigest = row.scheduleDigest ∧
      row.payload.protocolDigest = row.protocolDigest ∧ row.payload.ThreeArms)
    (.raiseException "adaptive candidate protocol payload does not match the fixed three-arm contract")
  require (∀ digest ∈ row.armDigests, isSha256 digest.2)
    (.checkViolation "sim_research_adaptive_candidate_protocols")
  require (s.protocol? row.campaignId = none) (.uniqueViolation "sim_research_adaptive_candidate_protocols_pkey")
  require (∀ r ∈ s.protocols, r.protocolDigest ≠ row.protocolDigest)
    (.uniqueViolation "sim_research_adaptive_candidate_protocols_protocol_digest_key")
  pure { s with protocols := row :: s.protocols }

/-- `register` of the protocols. -/
def registerProtocol (protocol : CandidateProtocol) (s : ResearchDatabase) :
    Except ResearchError (ResearchDatabase × Bool) := do
  require (protocol.protocolDigest = contracts.protocolSha256 protocol)
    (.valueError "adaptive candidate protocol digest does not match its canonical roster")
  require (strip protocol.campaignId = protocol.campaignId)
    (.valueError "adaptive candidate protocol campaign_id must be normalized")
  let scheduleRow ← found (s.schedule? protocol.campaignId)
    (.valueError "adaptive candidate protocol requires an existing SIM research schedule")
  let schedule := scheduleRow.payload
  verifySchedule s scheduleRow schedule
  require (protocol.campaignId = schedule.campaignId ∧ protocol.scheduleDigest = schedule.scheduleDigest)
    (.messageIdentityConflict "adaptive candidate protocol differs from the frozen schedule")
  match s.protocol? protocol.campaignId with
  | some existing => do
    let stored ← verifyProtocol contracts existing
    require (stored = protocol)
      (.messageIdentityConflict "campaign already has a different immutable adaptive protocol")
    pure (s, false)
  | none => do
    require (scheduleRow.adaptiveProtocolRegistrationAllowed)
      (.messageIdentityConflict "legacy SIM schedules cannot receive a retroactive adaptive protocol")
    require (s.samplesOf protocol.campaignId = [])
      (.messageIdentityConflict "cannot register an adaptive protocol after campaign results")
    require (s.seal? protocol.campaignId = none)
      (.messageIdentityConflict "cannot register an adaptive protocol after a coverage seal")
    let t ← insertProtocol
      { campaignId := protocol.campaignId
        scheduleDigest := protocol.scheduleDigest
        protocolDigest := protocol.protocolDigest
        armDigests := armDigests contracts protocol
        payload := protocol
        freezeTxid := s.txid } s
    pure (t, true)

end Protocols

end KairosPersistence
