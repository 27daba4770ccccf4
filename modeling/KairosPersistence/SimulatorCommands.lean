import KairosPersistence.Runs
import KairosPersistence.SimulatorJournal

/-!
`SimulationRepository`: commands and their completion, results and session
receipts, and the runs of all of its workers.
-/

namespace KairosPersistence

open PythonJson PythonText
open Transactions (require found)

section Commands

/-- The lineage of a command, its side apart. -/
def SimulationCommand.lineage (command : SimulationCommand) (side : String) : Option (String × TradeLineage) := do
  let commandId ← command.commandId
  return (commandId, ⟨← command.tradeId, ← command.sessionId, ← command.admissionId, ← command.intentId,
    ← command.symbol, side⟩)

/-- `_assert_exact_trade`. -/
def assertExactTrade (s : SimJournal) (trade : ModelDump) (sessionId tradeId : String) : Except SimulatorError Unit := do
  let row ← found (s.trade tradeId) (.keyError "simulation command references an unknown trade")
  require (row.sessionId = sessionId)
    (.messageIdentityConflict "simulation trade session differs from command lineage")
  assertPayloadIdentity row.payload row.payloadSha256 (digest trade.value) "simulation command trade"

def simCommandRow (commandId : String) (lineage : TradeLineage) (command : SimulationCommand) (column : JsonColumn) :
    SimCommandRow where
  toTradeLineage := lineage
  commandId := commandId
  orderSide := command.orderSide
  commandKind := command.commandKind
  payloadSha256 := digest command.payload.value
  status := .prepared
  payload := column
  completedAt := none
  completed_at := by simp

/-- The constraints of `sim_commands`. -/
def SimCommandRow.Accepted (row : SimCommandRow) (s : SimJournal) : Prop :=
  isSha256 row.commandId = true ∧ isSha256 row.intentId = true ∧ row.symbol ∈ simulationSymbols ∧
    row.side ∈ ["LONG", "SHORT"] ∧ row.orderSide ∈ ["BUY", "SELL"] ∧
    row.commandKind ∈ ["ENTRY_IOC", "STOP_EXIT_IOC", "TARGET_EXIT_IOC", "TIMEOUT_EXIT_IOC"] ∧
    (∃ r ∈ s.trades, r.sessionId = row.sessionId ∧ r.admissionId = row.admissionId ∧ r.tradeId = row.tradeId) ∧
    ∀ r ∈ s.commands, r.commandId ≠ row.commandId

instance (row : SimCommandRow) (s : SimJournal) : Decidable (row.Accepted s) := inferInstanceAs (Decidable (_ ∧ _))

/-- `SimulationCommandPreparation`. -/
structure CommandPreparation where
  command : SimulationCommand
  created : Bool
  status : SimulationCommandStatus

/-- `prepare_command`. -/
def prepareCommand (env : SimulatorEnvironment) (contracts : SimulatorContracts) (command : SimulationCommand)
    (s : SimJournal) : Except SimulatorError (SimJournal × CommandPreparation) := do
  let (commandId, lineage) ← found (command.side.bind command.lineage)
    (.valueError "simulation command requires complete canonical trade lineage")
  assertExactTrade s command.trade lineage.sessionId lineage.tradeId
  match s.command commandId with
  | some existing => do
    assertPayloadIdentity existing.payload existing.payloadSha256 (digest command.payload.value) "simulation command"
    let stored ← storedModel contracts.command existing.payload existing.payloadSha256 "simulation command"
    return (s, ⟨stored, false, existing.status⟩)
  | none => do
    let column ← found (Jsonb.jsonbIn (canonicalPayload command.payload.value).1) .databaseError
    require ((simCommandRow commandId lineage command column).Accepted s) .databaseError
    let artifacts ← appendArtifact env "kairos.simulation.command.v1" command.payload s.artifacts
    return ({ s with commands := simCommandRow commandId lineage command column :: s.commands, artifacts := artifacts },
      ⟨command, true, .prepared⟩)

/-- The arguments of `complete_command`. -/
structure Completion where
  command : SimulationCommand
  receipt : SimulationCommandReceipt
  modelStateSchemaVersion : String
  modelStatePayload : ModelDump
  events : List SimulationTradeEvent

/-- `_validate_text`. -/
def validateText (name value : String) : Except SimulatorError Unit :=
  require (value ≠ "" ∧ value = strip value ∧ value.length ≤ 128)
    (.valueError (name ++ " must be a normalized non-empty string no longer than 128 characters"))

/-- What `complete_command` checks of its arguments alone: the ids of the command and the receipt. -/
def Completion.check (call : Completion) : Except SimulatorError (String × TradeLineage × String) := do
  let (commandId, lineage) ← found (call.command.lineage "")
    (.valueError "simulation command requires complete canonical trade lineage")
  require (call.receipt.commandId = some commandId ∧ call.receipt.command.commandId = some commandId)
    (.messageIdentityConflict "simulation receipt does not belong to the prepared command")
  require (equal call.receipt.command.payload.value call.command.payload.value = true)
    (.messageIdentityConflict "simulation receipt command differs from the prepared command payload")
  let receiptId ← found call.receipt.receiptId (.valueError "simulation receipt requires its canonical identity")
  validateText "model_state_schema_version" call.modelStateSchemaVersion
  require (equal (getField call.modelStatePayload.fields "session_id") (.str lineage.sessionId) = true ∧
      equal (getField call.modelStatePayload.fields "symbol") (.str lineage.symbol) = true)
    (.valueError "private simulator liquidity snapshot does not match the command session and symbol")
  return (commandId, lineage, receiptId)

/-- `SimulationCommandCompletion`. -/
structure CommandCompletion where
  receipt : SimulationCommandReceipt
  created : Bool

/-- The row of a receipt; its lineage must be complete. -/
def commandReceiptRow (receiptId commandId : String) (receipt : SimulationCommandReceipt) (column : JsonColumn) :
    Option SimCommandReceiptRow := do
  return ⟨receiptId, commandId, ← receipt.sessionId, ← receipt.admissionId, ← receipt.intentId, ← receipt.tradeId,
    receipt.status, digest receipt.payload.value, column⟩

/-- The constraints of `sim_command_receipts`. -/
def SimCommandReceiptRow.Accepted (row : SimCommandReceiptRow) (s : SimJournal) : Prop :=
  isSha256 row.receiptId = true ∧ row.status ∈ ["FILLED", "PARTIAL", "NO_FILL", "BLOCKED"] ∧
    (∃ r ∈ s.commands, r.commandId = row.commandId ∧ r.sessionId = row.sessionId ∧
      r.admissionId = row.admissionId ∧ r.intentId = row.intentId ∧ r.tradeId = row.tradeId) ∧
    ∀ r ∈ s.receipts, r.receiptId ≠ row.receiptId ∧ r.commandId ≠ row.commandId

instance (row : SimCommandReceiptRow) (s : SimJournal) : Decidable (row.Accepted s) :=
  inferInstanceAs (Decidable (_ ∧ _))

def SimLiquidityRow.HasKey (sessionId symbol : String) (row : SimLiquidityRow) : Prop :=
  row.sessionId = sessionId ∧ row.symbol = symbol

instance (sessionId symbol : String) (row : SimLiquidityRow) : Decidable (row.HasKey sessionId symbol) :=
  inferInstanceAs (Decidable (_ ∧ _))

/-- The snapshot replaces the one of its session and symbol. -/
def upsertLiquidity (row : SimLiquidityRow) (rows : List SimLiquidityRow) : List SimLiquidityRow :=
  row :: rows.filter fun r => ¬r.HasKey row.sessionId row.symbol

/-- The loop of `complete_command` over its events. -/
def completeEvents (env : SimulatorEnvironment) (commandId receiptId : String) :
    List SimulationTradeEvent → SimJournal → Except SimulatorError SimJournal
  | [], s => .ok s
  | event :: events, s => do
    require (event.commandId = some commandId ∧ event.receiptId = some receiptId)
      (.messageIdentityConflict "command completion event must reference this command and receipt")
    let (s, _) ← appendTradeEventLocked env event s
    completeEvents env commandId receiptId events s

/-- The `UPDATE` of a command to `COMPLETED`. -/
def SimCommandRow.complete (row : SimCommandRow) (now : Timestamp) : SimCommandRow :=
  { row with
    status := .completed
    completedAt := some now
    completed_at := by simp }

/-- The transaction of `complete_command` on a command without a receipt. -/
def completePrepared (env : SimulatorEnvironment) (call : Completion) (commandId : String) (lineage : TradeLineage)
    (receiptId : String) (row : SimCommandRow) (s : SimJournal) : Except SimulatorError SimJournal := do
  require (row.status = .prepared)
    (.messageIdentityConflict "simulation command is not available for terminal completion")
  assertExactTrade s call.command.trade lineage.sessionId lineage.tradeId
  let receiptColumn ← found (Jsonb.jsonbIn (canonicalPayload call.receipt.payload.value).1) .databaseError
  let receipt ← found (commandReceiptRow receiptId commandId call.receipt receiptColumn) .databaseError
  require (receipt.Accepted s) .databaseError
  let stateColumn ← found (Jsonb.jsonbIn (canonicalPayload call.modelStatePayload.value).1) .databaseError
  require (lineage.symbol ∈ simulationSymbols ∧ (s.session lineage.sessionId).isSome) .databaseError
  let liquidity : SimLiquidityRow := ⟨lineage.sessionId, lineage.symbol, call.modelStateSchemaVersion,
    digest call.modelStatePayload.value, stateColumn⟩
  let s ← completeEvents env commandId receiptId call.events
    { s with receipts := receipt :: s.receipts, liquidity := upsertLiquidity liquidity s.liquidity }
  let prepared := fun (r : SimCommandRow) => r.commandId = commandId ∧ r.status = .prepared
  require (s.commands.countP (fun r => prepared r) = 1)
    (.runtimeError "simulation command completion lost its prepared state")
  let artifacts ← appendArtifact env "kairos.simulation.command_receipt.v1" call.receipt.payload s.artifacts
  return { s with
    commands := s.commands.map fun r => if prepared r then r.complete env.now else r
    artifacts := artifacts }

/-- `complete_command`. -/
def completeCommand (env : SimulatorEnvironment) (contracts : SimulatorContracts) (call : Completion) (s : SimJournal) :
    Except SimulatorError (SimJournal × CommandCompletion) := do
  let (commandId, lineage, receiptId) ← call.check
  let row ← found (s.command commandId) (.keyError "simulation command was not prepared")
  assertPayloadIdentity row.payload row.payloadSha256 (digest call.command.payload.value) "simulation command"
  match s.receiptOf commandId with
  | some existing => do
    assertPayloadIdentity existing.payload existing.payloadSha256 (digest call.receipt.payload.value)
      "simulation command receipt"
    require (row.status = .completed)
      (.messageIdentityConflict "a simulator command receipt exists without a completed command")
    let stored ← storedModel contracts.receipt existing.payload existing.payloadSha256 "simulation command receipt"
    return (s, ⟨stored, false⟩)
  | none => do
    let s ← completePrepared env call commandId lineage receiptId row s
    return (s, ⟨call.receipt, true⟩)

end Commands

section Results

def resultRow (resultId : String) (result : SimulationResult) (column : JsonColumn) : SimResultRow where
  resultId := resultId
  sessionId := result.sessionId
  admissionId := result.admissionId
  intentId := result.intentId
  tradeId := result.tradeId
  terminalEventId := result.terminalEventId
  finalState := result.finalState
  payloadSha256 := digest result.payload.value
  payload := column
  completedAtMs := result.completedAtMs

/-- The constraints of `sim_results`. -/
def SimResultRow.Accepted (row : SimResultRow) (s : SimJournal) : Prop :=
  isSha256 row.resultId = true ∧
    row.finalState ∈ [SimulationTradeState.flat, .unresolved, .noFill, .blocked] ∧ 0 ≤ row.completedAtMs ∧
    (∃ r ∈ s.events, r.tradeId = row.tradeId ∧ r.eventId = row.terminalEventId) ∧
    ∀ r ∈ s.results, r.resultId ≠ row.resultId ∧ r.tradeId ≠ row.tradeId

instance (row : SimResultRow) (s : SimJournal) : Decidable (row.Accepted s) := inferInstanceAs (Decidable (_ ∧ _))

/-- `record_result`. -/
def recordResult (env : SimulatorEnvironment) (result : SimulationResult) (s : SimJournal) :
    Except SimulatorError (SimJournal × Bool) := do
  let resultId ← found result.resultId (.valueError "simulation result requires its canonical identity")
  let trade ← found (s.trade result.tradeId) (.keyError "simulation result references an unknown trade")
  assertTradeLineage trade result.sessionId result.admissionId result.intentId
  require (trade.state = result.finalState)
    (.valueError "simulation result final state does not match the durable trade state")
  let terminal := s.events.find? fun r => r.tradeId = result.tradeId ∧ r.eventId = result.terminalEventId
  require (∃ event ∈ terminal, event.toState = result.finalState)
    (.valueError "simulation result must reference its trade's terminal lifecycle event")
  match s.result resultId with
  | some existing => do
    assertPayloadIdentity existing.payload existing.payloadSha256 (digest result.payload.value) "simulation result"
    return (s, false)
  | none => do
    require (s.resultOf result.tradeId).isNone
      (.messageIdentityConflict "a simulation trade already has a different terminal result")
    let column ← found (Jsonb.jsonbIn (canonicalPayload result.payload.value).1) .databaseError
    require ((resultRow resultId result column).Accepted s) .databaseError
    let artifacts ← appendArtifact env "kairos.simulation.result.v1" result.payload s.artifacts
    return ({ s with results := resultRow resultId result column :: s.results, artifacts := artifacts }, true)

def SimTradeRow.journalHead (row : SimTradeRow) : SimulationTradeJournalHead :=
  ⟨row.tradeId, row.state, row.eventCount, row.journalHeadSha256⟩

/-- The trades of a session in the order of their ids. -/
def SimJournal.journalHeads (s : SimJournal) (sessionId : String) : List SimulationTradeJournalHead :=
  ((s.trades.filter (·.sessionId = sessionId)).insertionSort (·.tradeId ≤ ·.tradeId)).map SimTradeRow.journalHead

def SimulationTradeState.terminal (state : SimulationTradeState) : Bool :=
  state ∈ [SimulationTradeState.flat, .unresolved, .noFill, .blocked]

def sessionReceiptRow (receiptId sessionId tapeId tapeSha256 : String) (receipt : SimulationSessionReceipt)
    (column : JsonColumn) : SimSessionReceiptRow where
  receiptId := receiptId
  sessionId := sessionId
  tapeId := tapeId
  tapeSha256 := tapeSha256
  receiptState := receipt.receiptState
  payloadSha256 := digest receipt.payload.value
  payload := column
  completedAtMs := receipt.completedAtMs

/-- The constraints of `sim_session_receipts`. -/
def SimSessionReceiptRow.Accepted (row : SimSessionReceiptRow) (s : SimJournal) : Prop :=
  isSha256 row.receiptId = true ∧ 0 ≤ row.completedAtMs ∧
    ∀ r ∈ s.sessionReceipts, r.receiptId ≠ row.receiptId ∧ r.sessionId ≠ row.sessionId

instance (row : SimSessionReceiptRow) (s : SimJournal) : Decidable (row.Accepted s) :=
  inferInstanceAs (Decidable (_ ∧ _))

def SessionReceiptState.sessionState : SessionReceiptState → SimulationSessionState
  | .completed => .completed
  | .blocked => .blocked

/-- `record_session_receipt`. -/
def recordSessionReceipt (env : SimulatorEnvironment) (receipt : SimulationSessionReceipt) (s : SimJournal) :
    Except SimulatorError (SimJournal × Bool) := do
  let lineage := SimulatorError.valueError "simulation session receipt requires canonical session lineage"
  let receiptId ← found receipt.receiptId lineage
  let sessionId ← found receipt.sessionId lineage
  let tapeId ← found receipt.tapeId lineage
  let tapeSha256 ← found receipt.tapeSha256 lineage
  let session ← found (s.session sessionId)
    (.keyError "simulation session receipt references an unknown session")
  assertPayloadIdentity session.payload session.payloadSha256 (digest receipt.session.value)
    "simulation session receipt session"
  require (session.tapeId = tapeId ∧ session.tapeSha256 = tapeSha256)
    (.messageIdentityConflict "simulation session receipt tape lineage does not match its session")
  require (receipt.tradeJournals = s.journalHeads sessionId)
    (.messageIdentityConflict "simulation session receipt journal heads do not match durable state")
  require (¬(receipt.receiptState = .completed ∧ (s.journalHeads sessionId).any (!·.state.terminal)))
    (.valueError "a completed simulation session still has a non-terminal trade")
  match s.sessionReceipt receiptId with
  | some existing => do
    assertPayloadIdentity existing.payload existing.payloadSha256 (digest receipt.payload.value)
      "simulation session receipt"
    return (s, false)
  | none => do
    require (s.sessionReceiptOf sessionId).isNone
      (.messageIdentityConflict "simulation session already has a different terminal receipt")
    let column ← found (Jsonb.jsonbIn (canonicalPayload receipt.payload.value).1) .databaseError
    let row := sessionReceiptRow receiptId sessionId tapeId tapeSha256 receipt column
    require (row.Accepted s) .databaseError
    let artifacts ← appendArtifact env "kairos.simulation.session_receipt.v1" receipt.payload s.artifacts
    return ({ s with
      sessions := s.sessions.map fun r =>
        if r.sessionId = sessionId then { r with state := receipt.receiptState.sessionState } else r
      sessionReceipts := row :: s.sessionReceipts
      artifacts := artifacts }, true)

end Results

section Verification

/-- Where `verify_trade_chain` is in a journal. -/
structure ChainCursor where
  sequence : ℤ
  previousEventSha256 : Option String
  state : SimulationTradeState

/-- The body of the loop of `verify_trade_chain`; nothing more is read once it has returned `False`. -/
def verifyEvent (contracts : SimulatorContracts) (trade : SimTradeRow) (cursor : Option ChainCursor)
    (row : SimTradeEventRow) : Except SimulatorError (Option ChainCursor) :=
  match cursor with
  | none => .ok none
  | some cursor => do
    let event ← storedModel contracts.event row.payload row.payloadSha256 "simulation trade event"
    if event.eventSeq ≠ cursor.sequence ∨ event.previousEventSha256 ≠ cursor.previousEventSha256 then return none
    else if event.eventId ≠ some row.eventId ∨ event.eventId ≠ some row.eventSha256 then return none
    else if event.tradeId ≠ trade.tradeId ∨ event.sessionId ≠ trade.sessionId then return none
    else if cursor.sequence = 1 then
      if event.fromState ≠ none ∨ event.toState ≠ cursor.state then return none
      else return some ⟨cursor.sequence + 1, event.eventId, event.toState⟩
    else if event.fromState ≠ some cursor.state then return none
    else return some ⟨cursor.sequence + 1, event.eventId, event.toState⟩

/-- `verify_trade_chain`. -/
def verifyTradeChain (contracts : SimulatorContracts) (tradeId : String) (s : SimJournal) :
    Except SimulatorError Bool := do
  require (isSha256 tradeId = true) (.valueError "trade_id must be a lowercase SHA-256 hex string")
  match s.trade tradeId with
  | none => return false
  | some trade => do
    let events := (s.events.filter (·.tradeId = tradeId)).insertionSort (·.eventSeq ≤ ·.eventSeq)
    match ← events.foldlM (verifyEvent contracts trade) (some ⟨1, none, .pending⟩) with
    | none => return false
    | some cursor => return trade.state = cursor.state ∧ trade.nextEventSeq = cursor.sequence ∧
        trade.journalHeadSha256 = cursor.previousEventSha256 ∧ trade.eventCount = events.length

end Verification

end KairosPersistence
