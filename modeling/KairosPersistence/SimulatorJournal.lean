import KairosPersistence.SimulatorArtifacts
import Mathlib.Data.List.Sort

/-!
`SimulationRepository` after the admission of an intent: trades and their event
journals, commands and their receipts, results and session receipts. Each
operation is one transaction under the lock of its session.
-/

namespace KairosPersistence

open PythonJson PythonText
open Transactions (require found)

section Contracts

inductive SimulationTradeState where
  | pending
  | active
  | flat
  | unresolved
  | noFill
  | blocked
  deriving DecidableEq, Repr

/-- The identity of a trade and of what belongs to it. -/
structure TradeLineage where
  tradeId : String
  sessionId : String
  admissionId : String
  intentId : String
  symbol : String
  side : String

/-- `SimulationTradeV1`; its admission is a `SimulationAdmissionV2` when `decisionBound`. -/
structure SimulationTrade where
  decisionBound : Bool
  admission : ModelDump
  tradeId : Option String
  sessionId : Option String
  admissionId : Option String
  intentId : Option String
  symbol : Option String
  side : Option String
  createdAtMs : ℤ
  payload : ModelDump

def SimulationTrade.lineage (trade : SimulationTrade) : Option TradeLineage := do
  return ⟨← trade.tradeId, ← trade.sessionId, ← trade.admissionId, ← trade.intentId, ← trade.symbol, ← trade.side⟩

/-- `SimulationTradeEventV2`. -/
structure SimulationTradeEvent where
  eventId : Option String
  sessionId : String
  admissionId : String
  intentId : String
  tradeId : String
  symbol : String
  side : String
  eventSeq : ℤ
  previousEventSha256 : Option String
  eventType : String
  fromState : Option SimulationTradeState
  toState : SimulationTradeState
  occurredAtMs : ℤ
  commandId : Option String
  receiptId : Option String
  payload : ModelDump

/-- `SimulationCommandV1`. -/
structure SimulationCommand where
  commandId : Option String
  sessionId : Option String
  admissionId : Option String
  intentId : Option String
  tradeId : Option String
  symbol : Option String
  side : Option String
  orderSide : String
  commandKind : String
  trade : ModelDump
  payload : ModelDump

/-- `SimulationCommandReceiptV1`. -/
structure SimulationCommandReceipt where
  receiptId : Option String
  commandId : Option String
  command : SimulationCommand
  sessionId : Option String
  admissionId : Option String
  intentId : Option String
  tradeId : Option String
  status : String
  payload : ModelDump

/-- `SimulationResultV1`. -/
structure SimulationResult where
  resultId : Option String
  sessionId : String
  admissionId : String
  intentId : String
  tradeId : String
  terminalEventId : String
  finalState : SimulationTradeState
  completedAtMs : ℤ
  payload : ModelDump

/-- `SimulationTradeJournalHeadV1`. -/
structure SimulationTradeJournalHead where
  tradeId : String
  state : SimulationTradeState
  eventCount : ℤ
  journalHeadSha256 : Option String
  deriving DecidableEq, Repr

inductive SessionReceiptState where
  | completed
  | blocked
  deriving DecidableEq, Repr

/-- `SimulationSessionReceiptV1`. -/
structure SimulationSessionReceipt where
  receiptId : Option String
  sessionId : Option String
  tapeId : Option String
  tapeSha256 : Option String
  session : ModelDump
  tradeJournals : List SimulationTradeJournalHead
  receiptState : SessionReceiptState
  completedAtMs : ℤ
  payload : ModelDump

/-- `model_validate` of the contracts that are read back. -/
structure SimulatorContracts where
  event : PyJson → Option SimulationTradeEvent
  command : PyJson → Option SimulationCommand
  receipt : PyJson → Option SimulationCommandReceipt

end Contracts

section Tables

def simulationSymbols : List String := ["BTCUSDT", "ETHUSDT", "SOLUSDT", "BNBUSDT", "XRPUSDT"]

inductive SimulationSessionState where
  | open
  | completed
  | blocked
  deriving DecidableEq, Repr

/-- A row of `sim_sessions`. -/
structure SimSessionRow where
  sessionId : String
  tapeId : String
  tapeSha256 : String
  state : SimulationSessionState
  payloadSha256 : String
  payload : JsonColumn

/-- A row of `sim_admissions`. -/
structure SimAdmissionRow where
  admissionId : String
  sessionId : String
  payloadSha256 : String
  payload : JsonColumn

/-- A row of `sim_trades`. -/
structure SimTradeRow extends TradeLineage where
  state : SimulationTradeState
  stateVersion : ℕ
  nextEventSeq : ℤ
  journalHeadSha256 : Option String
  eventCount : ℤ
  payloadSha256 : String
  payload : JsonColumn
  createdAtMs : ℤ

/-- A row of `sim_trade_events`. -/
structure SimTradeEventRow where
  eventId : String
  tradeId : String
  eventSeq : ℤ
  previousEventSha256 : Option String
  eventSha256 : String
  fromState : Option SimulationTradeState
  toState : SimulationTradeState
  eventType : String
  occurredAtMs : ℤ
  commandId : Option String
  receiptId : Option String
  payloadSha256 : String
  payload : JsonColumn

inductive SimulationCommandStatus where
  | prepared
  | completed
  | failed
  deriving DecidableEq, Repr

/-- A row of `sim_commands`. -/
structure SimCommandRow extends TradeLineage where
  commandId : String
  orderSide : String
  commandKind : String
  payloadSha256 : String
  status : SimulationCommandStatus
  payload : JsonColumn
  completedAt : Option Timestamp
  completed_at : status = .completed ↔ completedAt.isSome

/-- A row of `sim_command_receipts`. -/
structure SimCommandReceiptRow where
  receiptId : String
  commandId : String
  sessionId : String
  admissionId : String
  intentId : String
  tradeId : String
  status : String
  payloadSha256 : String
  payload : JsonColumn

/-- A row of `sim_liquidity_states`. -/
structure SimLiquidityRow where
  sessionId : String
  symbol : String
  stateSchemaVersion : String
  stateSha256 : String
  payload : JsonColumn

/-- A row of `sim_results`. -/
structure SimResultRow where
  resultId : String
  sessionId : String
  admissionId : String
  intentId : String
  tradeId : String
  terminalEventId : String
  finalState : SimulationTradeState
  payloadSha256 : String
  payload : JsonColumn
  completedAtMs : ℤ

/-- A row of `sim_session_receipts`. -/
structure SimSessionReceiptRow where
  receiptId : String
  sessionId : String
  tapeId : String
  tapeSha256 : String
  receiptState : SessionReceiptState
  payloadSha256 : String
  payload : JsonColumn
  completedAtMs : ℤ

/-- The tables, the row inserted last first. -/
structure SimJournal where
  sessions : List SimSessionRow
  admissions : List SimAdmissionRow
  trades : List SimTradeRow
  events : List SimTradeEventRow
  commands : List SimCommandRow
  receipts : List SimCommandReceiptRow
  liquidity : List SimLiquidityRow
  results : List SimResultRow
  sessionReceipts : List SimSessionReceiptRow
  artifacts : Artifacts

namespace SimJournal

def session (s : SimJournal) (sessionId : String) : Option SimSessionRow :=
  s.sessions.find? (·.sessionId = sessionId)

def admission (s : SimJournal) (sessionId admissionId : String) : Option SimAdmissionRow :=
  s.admissions.find? fun r => r.sessionId = sessionId ∧ r.admissionId = admissionId

def trade (s : SimJournal) (tradeId : String) : Option SimTradeRow := s.trades.find? (·.tradeId = tradeId)

def event (s : SimJournal) (eventId : String) : Option SimTradeEventRow := s.events.find? (·.eventId = eventId)

def command (s : SimJournal) (commandId : String) : Option SimCommandRow :=
  s.commands.find? (·.commandId = commandId)

def receiptOf (s : SimJournal) (commandId : String) : Option SimCommandReceiptRow :=
  s.receipts.find? (·.commandId = commandId)

def receipt (s : SimJournal) (receiptId : String) : Option SimCommandReceiptRow :=
  s.receipts.find? (·.receiptId = receiptId)

def result (s : SimJournal) (resultId : String) : Option SimResultRow := s.results.find? (·.resultId = resultId)

def resultOf (s : SimJournal) (tradeId : String) : Option SimResultRow := s.results.find? (·.tradeId = tradeId)

def sessionReceipt (s : SimJournal) (receiptId : String) : Option SimSessionReceiptRow :=
  s.sessionReceipts.find? (·.receiptId = receiptId)

def sessionReceiptOf (s : SimJournal) (sessionId : String) : Option SimSessionReceiptRow :=
  s.sessionReceipts.find? (·.sessionId = sessionId)

end SimJournal

end Tables

section Trades

def tradeRow (lineage : TradeLineage) (trade : SimulationTrade) (column : JsonColumn) : SimTradeRow where
  toTradeLineage := lineage
  state := .pending
  stateVersion := 0
  nextEventSeq := 1
  journalHeadSha256 := none
  eventCount := 0
  payloadSha256 := digest trade.payload.value
  payload := column
  createdAtMs := trade.createdAtMs

/-- The constraints of `sim_trades`. -/
def SimTradeRow.Accepted (row : SimTradeRow) (s : SimJournal) : Prop :=
  isSha256 row.tradeId = true ∧ isSha256 row.intentId = true ∧ row.symbol ∈ simulationSymbols ∧
    row.side ∈ ["LONG", "SHORT"] ∧ 0 ≤ row.createdAtMs ∧ (s.session row.sessionId).isSome ∧
    ∀ r ∈ s.trades, r.tradeId ≠ row.tradeId ∧ ¬(r.sessionId = row.sessionId ∧ r.admissionId = row.admissionId)

instance (row : SimTradeRow) (s : SimJournal) : Decidable (row.Accepted s) := inferInstanceAs (Decidable (_ ∧ _))

/-- `create_trade`. -/
def createTrade (env : SimulatorEnvironment) (trade : SimulationTrade) (s : SimJournal) :
    Except SimulatorError (SimJournal × Bool) := do
  require (trade.decisionBound = true)
    (.valueError "durable simulator trades require a decision-bound simulation admission.v2")
  let lineage ← found trade.lineage (.valueError "simulation trade requires complete canonical lineage")
  let admission ← found (s.admission lineage.sessionId lineage.admissionId)
    (.keyError "simulation trade references an unknown admission")
  assertPayloadIdentity admission.payload admission.payloadSha256 (digest trade.admission.value)
    "simulation trade admission"
  match s.trade lineage.tradeId with
  | some existing => do
    assertPayloadIdentity existing.payload existing.payloadSha256 (digest trade.payload.value) "simulation trade"
    return (s, false)
  | none => do
    let column ← found (Jsonb.jsonbIn (canonicalPayload trade.payload.value).1) .databaseError
    require ((tradeRow lineage trade column).Accepted s) .databaseError
    let artifacts ← appendArtifact env "kairos.simulation.trade.v1" trade.payload s.artifacts
    return ({ s with trades := tradeRow lineage trade column :: s.trades, artifacts := artifacts }, true)

/-- `_assert_trade_lineage`. -/
def assertTradeLineage (trade : SimTradeRow) (sessionId admissionId intentId : String) : Except SimulatorError Unit :=
  require (trade.sessionId = sessionId ∧ trade.admissionId = admissionId ∧ trade.intentId = intentId)
    (.messageIdentityConflict "simulation artifact differs from durable trade lineage")

def eventRow (eventId : String) (event : SimulationTradeEvent) (column : JsonColumn) : SimTradeEventRow where
  eventId := eventId
  tradeId := event.tradeId
  eventSeq := event.eventSeq
  previousEventSha256 := event.previousEventSha256
  eventSha256 := eventId
  fromState := event.fromState
  toState := event.toState
  eventType := event.eventType
  occurredAtMs := event.occurredAtMs
  commandId := event.commandId
  receiptId := event.receiptId
  payloadSha256 := digest event.payload.value
  payload := column

/-- The constraints of `sim_trade_events`. -/
def SimTradeEventRow.Accepted (row : SimTradeEventRow) (s : SimJournal) : Prop :=
  isSha256 row.eventId = true ∧ 0 < row.eventSeq ∧ 0 ≤ row.occurredAtMs ∧ (s.trade row.tradeId).isSome ∧
    (∀ sha ∈ row.previousEventSha256, isSha256 sha = true) ∧ (∀ sha ∈ row.commandId, isSha256 sha = true) ∧
    (∀ sha ∈ row.receiptId, isSha256 sha = true) ∧
    ∀ r ∈ s.events, r.eventId ≠ row.eventId ∧ ¬(r.tradeId = row.tradeId ∧ r.eventSeq = row.eventSeq)

instance (row : SimTradeEventRow) (s : SimJournal) : Decidable (row.Accepted s) := inferInstanceAs (Decidable (_ ∧ _))

/-- The `UPDATE` of a trade by its next event. -/
def SimTradeRow.advance (row : SimTradeRow) (eventId : String) (toState : SimulationTradeState) : SimTradeRow :=
  { row with
    state := toState
    stateVersion := row.stateVersion + 1
    nextEventSeq := row.nextEventSeq + 1
    journalHeadSha256 := some eventId
    eventCount := row.eventCount + 1 }

@[simp] theorem SimTradeRow.advance_toTradeLineage (row : SimTradeRow) (eventId : String)
    (toState : SimulationTradeState) : (row.advance eventId toState).toTradeLineage = row.toTradeLineage := rfl

/-- The receipt that a model event names is durable. -/
def checkEventReceipt (event : SimulationTradeEvent) (s : SimJournal) : Except SimulatorError Unit :=
  match event.commandId, event.receiptId with
  | none, none => .ok ()
  | some commandId, some receiptId =>
    require (∃ receipt ∈ s.receipt receiptId, receipt.commandId = commandId ∧ receipt.tradeId = event.tradeId)
      (.messageIdentityConflict "simulation event command receipt lineage is not durable")
  | _, _ => .error (.messageIdentityConflict "simulation model events require both command and receipt lineage")

/-- An event is the next one of the trade. -/
def checkNextEvent (trade : SimTradeRow) (event : SimulationTradeEvent) : Except SimulatorError Unit := do
  assertTradeLineage trade event.sessionId event.admissionId event.intentId
  require (event.symbol = trade.symbol ∧ event.side = trade.side)
    (.messageIdentityConflict "simulation event symbol or side differs from its durable trade")
  require (event.eventSeq = trade.nextEventSeq)
    (.messageIdentityConflict "simulation event sequence is not the next durable lifecycle sequence")
  require (event.previousEventSha256 = trade.journalHeadSha256)
    (.messageIdentityConflict "simulation event predecessor does not match the durable journal head")
  if event.eventSeq = 1 then
    require (event.fromState = none ∧ event.toState = trade.state)
      (.messageIdentityConflict "simulation admission event does not match the initial trade state")
  else
    require (event.fromState = some trade.state)
      (.messageIdentityConflict "simulation event prior state does not match durable lifecycle state")

/-- `_append_trade_event_locked`. -/
def appendTradeEventLocked (env : SimulatorEnvironment) (event : SimulationTradeEvent) (s : SimJournal) :
    Except SimulatorError (SimJournal × Bool) := do
  let eventId ← found event.eventId (.valueError "simulation trade event requires its canonical identity")
  match s.event eventId with
  | some existing => do
    require (existing.tradeId = event.tradeId)
      (.messageIdentityConflict "simulation event ID was reused by a different trade")
    assertPayloadIdentity existing.payload existing.payloadSha256 (digest event.payload.value) "simulation trade event"
    return (s, false)
  | none => do
    let trade ← found (s.trade event.tradeId) (.keyError "simulation event references an unknown trade")
    checkNextEvent trade event
    checkEventReceipt event s
    let current := fun (r : SimTradeRow) => r.tradeId = event.tradeId ∧ r.stateVersion = trade.stateVersion
    require (s.trades.countP (fun r => current r) = 1)
      (.runtimeError "simulation lifecycle transition lost its serialized state version")
    let column ← found (Jsonb.jsonbIn (canonicalPayload event.payload.value).1) .databaseError
    require ((eventRow eventId event column).Accepted s) .databaseError
    let artifacts ← appendArtifact env "kairos.simulation.trade_event.v2" event.payload s.artifacts
    return ({ s with
      trades := s.trades.map fun r => if current r then r.advance eventId event.toState else r
      events := eventRow eventId event column :: s.events
      artifacts := artifacts }, true)

/-- `append_trade_event`. -/
def appendTradeEvent (env : SimulatorEnvironment) (event : SimulationTradeEvent) (s : SimJournal) :
    Except SimulatorError (SimJournal × Bool) :=
  appendTradeEventLocked env event s

end Trades

end KairosPersistence
