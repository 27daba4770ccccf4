import KairosPersistence.TradeTransitions

/-!
The public facts of a trade: each is stored under its key with the next sequence
number, in the transaction that writes its audit row and its outbox row.
-/

namespace KairosPersistence.TradeLifecycle

open IsoDatetime (PyDatetime)
open PythonJson PythonText
open Transactions (bind_ok require require_ok found found_ok)

section Contracts

/-- What the repository reads of a `TradeExecutionEventV1`, with `model_dump(mode="json")` and `model_dump_json()`. -/
structure TradeExecutionEvent where
  messageId : String
  eventId : String
  eventSeq : ℕ
  tradeId : String
  intentId : String
  riskDecisionId : String
  strategyId : String
  strategyRevision : String
  accountId : String
  venueSymbol : String
  tradingMode : String
  evedexProfile : String
  lifecycleState : TradeState
  producedAt : Timestamp
  source : String
  schemaVersion : String
  correlationId : Option String
  causationId : Option String
  dump : ModelDump
  dumpJson : String

/-- `model_validate` of the contracts of the repository. -/
structure ExecutionContracts where
  riskDecision : PyJson → Option RiskTradeDecision
  executionEvent : PyJson → Option TradeExecutionEvent

/-- A caller's builder of the event of a sequence number; it may raise. -/
abbrev EventBuilder := ℕ → Option TradeExecutionEvent

def tradeExecutionEventTopic : String := "kairos.execution.trade_event.v1"

def executionOutboxProducer : String := "kairos-execution-engine"

def TradeError.ofOutbox : OutboxError → TradeError
  | .valueError message => .valueError message
  | .runtimeError message => .runtimeError message
  | .messageIdentityConflict messageId => .messageIdentityConflict messageId
  | .databaseError => .databaseError

/-- `_execution_event`. -/
def storedExecutionEvent (contracts : ExecutionContracts) (payload : JsonColumn) (expectedSha256 : String) :
    Except TradeError TradeExecutionEvent := do
  let data ← objectOf payload
  require (digest data = expectedSha256)
    (.messageIdentityConflict "stored public execution event fingerprint does not match")
  found (contracts.executionEvent data) .validationError

/-- The names of the fields that differ from the trade, sorted. -/
def TradeExecutionEvent.mismatches (event : TradeExecutionEvent) (trade : TradeRow) (requireCurrentState : Bool) :
    List String :=
  let lineage : List (String × Bool) :=
    [("trade_id", event.tradeId = trade.tradeId), ("intent_id", event.intentId = trade.strategyIntentId),
      ("risk_decision_id", event.riskDecisionId = trade.riskDecisionId),
      ("strategy_id", event.strategyId = trade.strategyId),
      ("strategy_revision", event.strategyRevision = trade.strategyRevision),
      ("account_id", event.accountId = trade.accountId), ("venue_symbol", event.venueSymbol = trade.venueSymbol),
      ("trading_mode", event.tradingMode = trade.tradingMode), ("profile", event.evedexProfile = trade.profile)]
  let state : List (String × Bool) :=
    if requireCurrentState then [("lifecycle_state", event.lifecycleState = trade.state)] else []
  (((lineage ++ state).filter fun c => !c.2).map (·.1)).insertionSort (· ≤ ·)

/-- `_validate_execution_event`. -/
def validateExecutionEvent (event : TradeExecutionEvent) (trade : TradeRow) (requireCurrentState : Bool) :
    Except TradeError Unit := do
  require (event.messageId = event.eventId) (.valueError "public execution event message_id must equal its event_id")
  let names := event.mismatches trade requireCurrentState
  require (names = [])
    (.messageIdentityConflict ("public execution event differs from durable trade lineage: " ++
      String.intercalate ", " names))

end Contracts

section Append

/-- `AuditRepository.append_event`. -/
def appendAuditEvent (topic : String) (event : TradeExecutionEvent) (audit : List EventAuditRow) :
    Except TradeError (List EventAuditRow) := do
  let column ← found (Jsonb.jsonbIn event.dumpJson) .databaseError
  if audit.any fun r => r.producedAt = event.producedAt ∧ r.messageId = event.messageId then return audit
  else return ⟨event.producedAt, event.messageId, topic, event.source, event.schemaVersion, event.correlationId,
    event.causationId, column⟩ :: audit

/-- The audit row and the outbox row of a fact. -/
def publishFact (now : Timestamp) (event : TradeExecutionEvent) (a : Artifacts) : Except TradeError Artifacts := do
  let audit ← appendAuditEvent tradeExecutionEventTopic event a.audit
  let (outbox, _) ← (enqueueOutbox event.messageId tradeExecutionEventTopic (canonicalPayload event.dump.value).1
    (canonicalPayload event.dump.value).2 executionOutboxProducer now a.outbox).mapError .ofOutbox
  return ⟨audit, outbox⟩

/-- `_execution_fact_row`. -/
def TradeTables.fact (t : TradeTables) (tradeId factKey : String) : Option PublicEventRow :=
  t.facts.find? fun f => f.tradeId = tradeId ∧ f.factKey = factKey

def factRow (factKey : String) (stateVersion : ℕ) (trade : TradeRow) (event : TradeExecutionEvent) (column : JsonColumn) :
    PublicEventRow :=
  ⟨trade.tradeId, factKey, trade.nextExecutionEventSeq, stateVersion, event.eventId, column, digest event.dump.value⟩

/-- What the constraints of `public_execution_events` ask of a new row. -/
def TradeTables.FactInsertable (t : TradeTables) (fact : PublicEventRow) : Prop :=
  Jsonb.nulFree fact.factKey = true ∧ isSha256 fact.eventId = true ∧
    ∀ f ∈ t.facts, f.eventId ≠ fact.eventId ∧ ¬(f.tradeId = fact.tradeId ∧ f.eventSeq = fact.eventSeq)

instance (t : TradeTables) (fact : PublicEventRow) : Decidable (t.FactInsertable fact) :=
  inferInstanceAs (Decidable (_ ∧ _))

def wrongSequence : TradeError := .valueError "public execution event builder returned the wrong sequence"

/-- `_append_execution_event_locked` of a fact that is stored. -/
def replayExecutionEvent (contracts : ExecutionContracts) (now : Timestamp) (trade : TradeRow) (existing : PublicEventRow)
    (expectedStateVersion : ℕ) (build : EventBuilder) (t : TradeTables) :
    Except TradeError (TradeTables × TradeExecutionEvent) := do
  require (existing.stateVersion = expectedStateVersion)
    (.messageIdentityConflict "execution fact was replayed against a different trade state version")
  let event ← storedExecutionEvent contracts existing.payload existing.payloadSha256
  validateExecutionEvent event trade false
  let rebuilt ← found (build existing.eventSeq) .builderError
  require (rebuilt.eventSeq = existing.eventSeq) wrongSequence
  validateExecutionEvent rebuilt trade false
  require (digest rebuilt.dump.value = existing.payloadSha256)
    (.messageIdentityConflict ("execution fact_key '" ++ existing.factKey ++ "' was reused with different content"))
  let artifacts ← publishFact now event t.artifacts
  return ({ t with artifacts := artifacts }, event)

/-- `_append_execution_event_locked`. -/
def appendExecutionEventLocked (contracts : ExecutionContracts) (now : Timestamp) (trade : TradeRow) (factKey : String)
    (expectedStateVersion : ℕ) (build : EventBuilder) (t : TradeTables) :
    Except TradeError (TradeTables × TradeExecutionEvent) :=
  match t.fact trade.tradeId factKey with
  | some existing => replayExecutionEvent contracts now trade existing expectedStateVersion build t
  | none => do
    require (trade.stateVersion = expectedStateVersion)
      (.runtimeError "trade state changed before its public execution fact was appended")
    let row ← found (t.trade trade.tradeId) (.keyError trade.tradeId)
    let event ← found (build row.nextExecutionEventSeq) .builderError
    require (event.eventSeq = row.nextExecutionEventSeq) wrongSequence
    validateExecutionEvent event trade true
    let column ← found (Jsonb.jsonbIn (dumps event.dump.value)) .databaseError
    let fact := factRow factKey expectedStateVersion row event column
    require (t.FactInsertable fact) .databaseError
    let t := { t.update { row with nextExecutionEventSeq := row.nextExecutionEventSeq + 1 } with facts := fact :: t.facts }
    let artifacts ← publishFact now event t.artifacts
    return ({ t with artifacts := artifacts }, event)

end Append

section Replay

/-- What a journal entry says of the trade after it. -/
structure PriorState where
  filledQuantity : Option Binary64
  firstFillAt : Option Timestamp
  identifiers : Identifiers

/-- `_parse_optional_timestamp`. -/
def parseOptionalTimestamp : PyJson → Except TradeError (Option Timestamp)
  | .null => .ok none
  | .str text => do
    let parsed ← found (IsoDatetime.fromisoformat
        ((JsonBytes.points text).flatMap fun c => if c = 'Z'.toNat then JsonBytes.points "+00:00" else [c]))
      (.valueError "Invalid isoformat string")
    let utcoffset ← found parsed.utcoffset
      (.messageIdentityConflict "stored lifecycle timestamp is not timezone-aware")
    let utc ← found (parsed.astimezone utcoffset) .overflowError
    return some utc
  | _ => .error (.messageIdentityConflict "stored lifecycle timestamp is not a string")

/-- `payload[name]` of an object. -/
def fieldOf (payload : PyJson) (name : String) : Except TradeError PyJson :=
  match payload with
  | .obj fields => found ((fields.find? (·.1 = name)).map (·.2)) (.keyError name)
  | _ => .error (.keyError name)

/-- An identifier as the journal stores it. -/
def storedIdentifier : PyJson → Except TradeError (Option String)
  | .null => .ok none
  | .str text => .ok (some text)
  | _ => .error .validationError

/-- The state that the entry before the transition leaves. -/
def priorState (previous : TradeEventRow) (payload : PyJson) : Except TradeError PriorState :=
  if previous.eventType = "CREATED" then .ok ⟨some (Binary64.signedZero false), none, fun _ => none⟩
  else do
    let filled ← fieldOf payload "filled_quantity_hex"
    let filled ← found (FloatHex.fromhex (match filled with | .str text => text | other => dumps other))
      (.valueError "invalid hexadecimal floating-point string")
    let firstFill ← fieldOf payload "first_fill_at"
    let firstFill ← parseOptionalTimestamp firstFill
    let values ← IdentifierName.all.mapM fun name => fieldOf payload name.value >>= storedIdentifier
    return ⟨filled, firstFill, fun name => values.getD (IdentifierName.all.idxOf name) none⟩

/-- `float(value).hex()`; every infinity and NaN is one text here, none of a double. -/
def hexText (value : Option Binary64) : String := value.elim "nan" FloatHex.hex

/-- The payload that the request makes of the state before it. -/
def expectedPayload (request : TransitionRequest) (prior : PriorState) : Except TradeError PyJson := do
  let supplied ← normalizeOptionalTimestamp request.firstFillAt
  require (∀ a ∈ supplied, ∀ b ∈ prior.firstFillAt, a = b)
    (.messageIdentityConflict "first_fill_at is immutable once recorded")
  let identifiers ← mergeIdentifiers prior.identifiers request.identifiers
  return .obj ([("event", request.eventPayload.value),
    ("filled_quantity_hex", .str (hexText (request.filledQuantity.getD prior.filledQuantity))),
    ("first_fill_at", nullable ((prior.firstFillAt.or supplied).map (isoformat false)))] ++
    IdentifierName.all.map fun name => (name.value, nullable (identifiers name)))

/-- `_validate_transition_replay`. -/
def validateTransitionReplay (tradeId : String) (stateVersion : ℕ) (request : TransitionRequest) (t : TradeTables) :
    Except TradeError Unit := do
  require (0 < stateVersion) (.messageIdentityConflict "transition fact must reference a positive state version")
  match (t.journal tradeId).reverse.drop (stateVersion - 1) with
  | previous :: transition :: _ => do
    require (transition.fromState = some previous.toState ∧ transition.toState = request.target.value ∧
        transition.eventType = request.eventType)
      (.messageIdentityConflict "execution fact_key belongs to a different lifecycle transition")
    let previousPayload ← objectOf previous.eventPayload
    let storedPayload ← objectOf transition.eventPayload
    let prior ← priorState previous previousPayload
    let expected ← expectedPayload request prior
    require (digest expected = digest storedPayload)
      (.messageIdentityConflict "execution fact_key was reused for a different transition request")
  | _ => .error (.messageIdentityConflict "transition fact has no matching lifecycle journal entry")

end Replay

section Calls

/-- `_validate_text`. -/
def validateText (name value : String) : Except TradeError Unit :=
  require (strip value ≠ "") (.valueError (name ++ " must not be empty"))

/-- `_validate_fact_arguments`, of the key. -/
def validateFactKey (factKey : String) : Except TradeError Unit :=
  require (factKey ≠ "" ∧ factKey = strip factKey ∧ factKey.length ≤ 512)
    (.valueError "fact_key must be normalized and at most 512 characters")

/-- The row of the trade, read under its lock. -/
def lockTrade (tradeId : String) (t : TradeTables) : Except TradeError TradeRow := do
  let row ← found (t.trade tradeId) (.keyError tradeId)
  let current ← record row
  return current.row

/-- `create`. -/
def create (contracts : ExecutionContracts) (trade : NewTrade) (t : TradeTables) :
    Except TradeError (TradeTables × TradeRow) := do
  let identity ← trade.validate contracts.riskDecision
  let (t, created) ← createLocked identity trade.riskDecisionPayload t
  return (t, created.row)

/-- `create_with_execution_event`. -/
def createWithExecutionEvent (contracts : ExecutionContracts) (now : Timestamp) (trade : NewTrade) (factKey : String)
    (build : EventBuilder) (t : TradeTables) : Except TradeError (TradeTables × TradeRow × TradeExecutionEvent) := do
  let identity ← trade.validate contracts.riskDecision
  validateFactKey factKey
  let (t, created) ← createLocked identity trade.riskDecisionPayload t
  require ((t.fact created.row.tradeId factKey).isNone = true → created.row.stateVersion = 0)
    (.runtimeError "trade creation fact is missing after the lifecycle has already advanced")
  let (t, event) ← appendExecutionEventLocked contracts now created.row factKey 0 build t
  return (t, created.row, event)

/-- `transition`. -/
def transition (tradeId : String) (request : TransitionRequest) (t : TradeTables) :
    Except TradeError (TradeTables × TradeRow) := do
  validateText "trade_id" tradeId
  validateText "event_type" request.eventType
  let current ← lockTrade tradeId t
  let (t, updated) ← transitionLocked current request t
  return (t, updated.row)

/-- `transition_with_execution_event`. -/
def transitionWithExecutionEvent (contracts : ExecutionContracts) (now : Timestamp) (tradeId : String)
    (request : TransitionRequest) (factKey : String) (build : EventBuilder) (t : TradeTables) :
    Except TradeError (TradeTables × TradeRow × TradeExecutionEvent) := do
  validateText "trade_id" tradeId
  validateText "event_type" request.eventType
  validateFactKey factKey
  let current ← lockTrade tradeId t
  match t.fact tradeId factKey with
  | some existing => do
    let existingEvent ← storedExecutionEvent contracts existing.payload existing.payloadSha256
    require (existingEvent.lifecycleState = request.target)
      (.messageIdentityConflict "execution fact_key belongs to a different lifecycle state")
    validateTransitionReplay tradeId existing.stateVersion request t
    let (t, event) ← appendExecutionEventLocked contracts now current factKey existing.stateVersion build t
    return (t, current, event)
  | none => do
    let (t, updated) ← transitionLocked current request t
    let (t, event) ← appendExecutionEventLocked contracts now updated.row factKey updated.row.stateVersion build t
    return (t, updated.row, event)

/-- `append_execution_event`. -/
def appendExecutionEvent (contracts : ExecutionContracts) (now : Timestamp) (tradeId factKey : String)
    (expectedStateVersion : ℤ) (build : EventBuilder) (t : TradeTables) :
    Except TradeError (TradeTables × TradeExecutionEvent) := do
  validateText "trade_id" tradeId
  validateFactKey factKey
  require (0 ≤ expectedStateVersion) (.valueError "expected_state_version must be a non-negative integer")
  let current ← lockTrade tradeId t
  appendExecutionEventLocked contracts now current factKey expectedStateVersion.toNat build t

/-- `mark_reconciled`: the statement commits before the row is read. -/
def markReconciled (now : Timestamp) (tradeId detail : String) (t : TradeTables) :
    TradeTables × Except TradeError TradeRow :=
  match (do
    validateText "trade_id" tradeId
    validateText "reconciliation detail" detail
    require (Jsonb.nulFree detail = true) TradeError.databaseError
    found (t.trade tradeId) (.keyError tradeId)) with
  | .error e => (t, .error e)
  | .ok row =>
    let row := { row with lastReconciledAt := some now, reconciliationDetail := some (sliceTo 4000 detail) }
    (t.update row, (record row).map (·.row))

/-- `next_event_sequence`. -/
def nextEventSequence (tradeId : String) (t : TradeTables) : Except TradeError (TradeTables × ℕ) := do
  validateText "trade_id" tradeId
  let row ← found (t.trade tradeId) (.keyError tradeId)
  return (t.update { row with nextExecutionEventSeq := row.nextExecutionEventSeq + 1 }, row.nextExecutionEventSeq)

end Calls

end KairosPersistence.TradeLifecycle
