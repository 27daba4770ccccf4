import KairosPersistence.KeyedRows
import KairosPersistence.Runs
import KairosPersistence.TradeLifecycle

/-!
The journal of the effects on an exchange: each is prepared before it is sent,
and what came of it is recorded in a chain of entries.
-/

namespace KairosPersistence.ExecutionJournal

open PythonJson PythonText Relation
open TradeLifecycle (nullable orSupplied)
open Transactions (bind_ok require require_ok found found_ok)

section Rows

inductive EffectError where
  | valueError (message : String)
  | runtimeError (message : String)
  | keyError (message : String)
  | messageIdentityConflict (message : String)
  | databaseError
  deriving DecidableEq, Repr

inductive EffectType where
  | placeOrder
  | closePosition
  | protectiveStop
  | takeProfit
  | cancelOrder
  | cancelTpsl
  | timeoutClose
  | emergencyClose
  | setLeverage
  deriving DecidableEq, Repr

def EffectType.value : EffectType → String
  | .placeOrder => "PLACE_ORDER"
  | .closePosition => "CLOSE_POSITION"
  | .protectiveStop => "PROTECTIVE_STOP"
  | .takeProfit => "TAKE_PROFIT"
  | .cancelOrder => "CANCEL_ORDER"
  | .cancelTpsl => "CANCEL_TPSL"
  | .timeoutClose => "TIMEOUT_CLOSE"
  | .emergencyClose => "EMERGENCY_CLOSE"
  | .setLeverage => "SET_LEVERAGE"

inductive EffectStatus where
  | prepared
  | confirmed
  | reconciled
  | failed
  deriving DecidableEq, Repr

def EffectStatus.value : EffectStatus → String
  | .prepared => "PREPARED"
  | .confirmed => "CONFIRMED"
  | .reconciled => "RECONCILED"
  | .failed => "FAILED"

/-- What an effect keeps from its preparation on. -/
structure EffectIdentity where
  effectKey : String
  effectType : EffectType
  exchange : String
  symbol : String
  clientOrderId : Option String
  requestSha256 : String
  environment : Option String
  accountId : Option String
  tradeId : Option String
  orderRole : Option String
  deriving DecidableEq

/-- A row of `execution_effects`. -/
structure EffectRow extends EffectIdentity where
  requestPayload : JsonColumn
  status : EffectStatus
  exchangeEffectId : Option String
  responsePayload : Option JsonColumn
  error : Option String
  journalHeadSha256 : String

/-- A row of `execution_effect_events`. -/
structure EffectEventRow where
  effectKey : String
  phase : String
  eventPayload : JsonColumn
  previousEventSha256 : Option String
  eventSha256 : String

structure EffectTables where
  effects : List EffectRow
  events : List EffectEventRow

structure ExecutionEffect where
  row : EffectRow
  requestPayload : PyJson
  responsePayload : Option PyJson

/-- `_object`. -/
def objectOf (column : JsonColumn) : Except EffectError PyJson :=
  match readColumn column with
  | some (.obj fields) => .ok (.obj fields)
  | _ => .error (.valueError "execution journal payload is not an object")

/-- `_record`. -/
def record (row : EffectRow) : Except EffectError ExecutionEffect := do
  let payload ← objectOf row.requestPayload
  require (digest payload = row.requestSha256)
    (.messageIdentityConflict "stored execution request fingerprint does not match")
  match row.responsePayload with
  | none => return ⟨row, payload, none⟩
  | some column => do
    let response ← objectOf column
    return ⟨row, payload, some response⟩

/-- `_event_sha`. -/
def eventSha (effectKey : String) (phase : EffectStatus) (payload : PyJson) (previousSha256 : Option String) : String :=
  Sha256.hexdigest (dumps (.obj [("domain", .str "kairos.execution-effect-event.v1"), ("effect_key", .str effectKey),
    ("phase", .str phase.value), ("payload", payload), ("previous_event_sha256", nullable previousSha256)]))

def EffectTables.effect (t : EffectTables) (effectKey : String) : Option EffectRow :=
  t.effects.find? (·.effectKey = effectKey)

/-- The journal of an effect, its last entry first. -/
def EffectTables.journal (t : EffectTables) (effectKey : String) : List EffectEventRow :=
  t.events.filter (·.effectKey = effectKey)

/-- `_append_event`. -/
def EffectTables.appendEvent (t : EffectTables) (effectKey : String) (phase : EffectStatus) (payload : PyJson)
    (previousSha256 : Option String) (sha : String) : Except EffectError EffectTables := do
  let column ← found (Jsonb.jsonbIn (dumps payload)) .databaseError
  require (∀ e ∈ t.events, e.eventSha256 ≠ sha) .databaseError
  return { t with events := ⟨effectKey, phase.value, column, previousSha256, sha⟩ :: t.events }

end Rows

section Prepare

structure PrepareRequest where
  effectKey : String
  effectType : EffectType
  exchange : String
  symbol : String
  clientOrderId : Option String
  requestPayload : ModelDump
  environment : Option String
  accountId : Option String
  tradeId : Option String
  orderRole : Option String
  recoveryDelay : ℤ

namespace PrepareRequest

variable (request : PrepareRequest)

def identity : EffectIdentity where
  effectKey := request.effectKey
  effectType := request.effectType
  exchange := request.exchange
  symbol := request.symbol
  clientOrderId := request.clientOrderId
  requestSha256 := digest request.requestPayload.value
  environment := request.environment
  accountId := request.accountId
  tradeId := request.tradeId
  orderRole := request.orderRole

/-- `_validate_identity`. -/
def validateIdentity : Except EffectError Unit := do
  require (strip request.effectKey ≠ "" ∧ strip request.exchange ≠ "" ∧ strip request.symbol ≠ "")
    (.valueError "effect key, exchange and symbol must not be empty")
  require (∀ value ∈ request.clientOrderId, strip value ≠ "") (.valueError "client_order_id must be absent or non-empty")

def lineage : List (Option String) := [request.environment, request.accountId, request.tradeId, request.orderRole]

/-- `_validate_lineage`; `orderRoles` are the values of `OrderRole`. -/
def validateLineage (orderRoles : List String) : Except EffectError Unit :=
  if ∀ value ∈ request.lineage, value = none then .ok ()
  else do
    require (∀ value ∈ request.lineage, value.any (strip · ≠ "") = true)
      (.valueError "execution effect lineage must be complete or entirely absent")
    require (∀ value ∈ request.tradeId, isSha256 value = true)
      (.valueError "execution effect trade_id must be a lowercase SHA-256")
    require (∀ value ∈ request.orderRole, value ∈ orderRoles) (.valueError "execution effect order_role is unknown")

/-- The payload of the first entry of the journal. -/
def eventPayload : PyJson :=
  .obj [("effect_type", .str request.effectType.value), ("exchange", .str request.exchange), ("symbol", .str request.symbol),
    ("client_order_id", nullable request.clientOrderId), ("request_sha256", .str (digest request.requestPayload.value)),
    ("environment", nullable request.environment), ("account_id", nullable request.accountId),
    ("trade_id", nullable request.tradeId), ("order_role", nullable request.orderRole)]

def preparedSha : String := eventSha request.effectKey .prepared request.eventPayload none

def row (column : JsonColumn) : EffectRow where
  toEffectIdentity := request.identity
  requestPayload := column
  status := .prepared
  exchangeEffectId := none
  responsePayload := none
  error := none
  journalHeadSha256 := request.preparedSha

end PrepareRequest

/-- The values that `execution_effects_order_role_check` allows. -/
def storedOrderRoles : List String := ["ENTRY", "STOP_LOSS", "TAKE_PROFIT", "TIMEOUT_EXIT", "EMERGENCY_EXIT"]

/-- `prepare`, with whether the effect was created. -/
def prepare (orderRoles : List String) (request : PrepareRequest) (t : EffectTables) :
    Except EffectError (EffectTables × ExecutionEffect × Bool) := do
  request.validateIdentity
  request.validateLineage orderRoles
  require (0 ≤ request.recoveryDelay) (.valueError "recovery_delay must not be negative")
  match t.effect request.effectKey with
  | some existing => do
    let effect ← record existing
    require (effect.row.toEffectIdentity = request.identity) (.messageIdentityConflict
      ("execution effect '" ++ request.effectKey ++ "' was reused with different immutable content"))
    return (t, effect, false)
  | none => do
    let column ← found (Jsonb.jsonbIn (dumps request.requestPayload.value)) .databaseError
    require (∀ value ∈ request.orderRole, value ∈ storedOrderRoles) .databaseError
    let t ← { t with effects := request.row column :: t.effects }.appendEvent request.effectKey .prepared
      request.eventPayload none request.preparedSha
    let effect ← record (request.row column)
    return (t, effect, true)

end Prepare

section Transition

/-- `_validate_transition`. -/
def allowedTransitions : EffectStatus → List EffectStatus
  | .prepared => [.prepared, .confirmed, .reconciled, .failed]
  | .confirmed => [.confirmed, .reconciled]
  | .reconciled => [.reconciled]
  | .failed => [.failed, .reconciled]

structure TransitionRequest where
  status : EffectStatus
  exchangeEffectId : Option String
  responsePayload : Option ModelDump
  error : Option String

namespace TransitionRequest

variable (request : TransitionRequest) (current : ExecutionEffect)

def exchangeId : Option String := orSupplied request.exchangeEffectId current.row.exchangeEffectId

def response : Option PyJson := (request.responsePayload.map ModelDump.value).or current.responsePayload

def eventPayload : PyJson :=
  .obj [("exchange_effect_id", nullable (request.exchangeId current)),
    ("response_payload", (request.response current).getD .null), ("error", nullable request.error)]

def sha : String :=
  eventSha current.row.effectKey request.status (request.eventPayload current) (some current.row.journalHeadSha256)

/-- The row as `UPDATE` leaves it. -/
def updated (column : Option JsonColumn) : EffectRow :=
  { current.row with
    status := request.status
    exchangeEffectId := request.exchangeId current
    responsePayload := column
    error := request.error
    journalHeadSha256 := request.sha current }

/-- The transition is the one that has been recorded last. -/
def Same : Prop :=
  current.row.exchangeEffectId = request.exchangeId current ∧
    (match current.responsePayload, request.response current with
      | none, none => true
      | some stored, some value => equal stored value
      | _, _ => false) = true ∧ current.row.error = request.error

instance : Decidable (request.Same current) := inferInstanceAs (Decidable (_ ∧ _))

end TransitionRequest

/-- `$4::jsonb` of what may be null. -/
def optionalColumn : Option PyJson → Except EffectError (Option JsonColumn)
  | none => .ok none
  | some value => do
    let column ← found (Jsonb.jsonbIn (dumps value)) .databaseError
    return some column

/-- `_transition`. -/
def transition (effectKey : String) (request : TransitionRequest) (t : EffectTables) :
    Except EffectError (EffectTables × ExecutionEffect) := do
  let row ← found (t.effect effectKey) (.keyError ("execution effect '" ++ effectKey ++ "' was not prepared"))
  let current ← record row
  require (request.status ∈ allowedTransitions row.status)
    (.runtimeError ("invalid execution effect transition " ++ row.status.value ++ "->" ++ request.status.value))
  if row.status = request.status then do
    require (request.Same current)
      (.messageIdentityConflict ("execution effect '" ++ effectKey ++ "' transition payload changed"))
    return (t, current)
  else do
    let column ← optionalColumn (request.response current)
    require (∀ value ∈ request.exchangeId current, Jsonb.nulFree value = true) .databaseError
    require (∀ value ∈ request.error, Jsonb.nulFree value = true) .databaseError
    let t ← { t with effects := KeyedRows.replace (·.effectKey) (request.updated current column) t.effects }.appendEvent
      effectKey request.status (request.eventPayload current) (some current.row.journalHeadSha256) (request.sha current)
    let updated ← record (request.updated current column)
    return (t, updated)

inductive EffectCall where
  | prepare (request : PrepareRequest)
  | confirm (effectKey exchangeEffectId : String) (responsePayload : ModelDump)
  | reconcile (effectKey : String) (exchangeEffectId : Option String) (responsePayload : Option ModelDump)
  | fail (effectKey error : String)

/-- The body of a call. -/
def EffectCall.body (orderRoles : List String) : EffectCall → EffectTables → Except EffectError (EffectTables × ExecutionEffect)
  | .prepare request, t => do
    let (t, effect, _) ← ExecutionJournal.prepare orderRoles request t
    return (t, effect)
  | .confirm effectKey exchangeEffectId responsePayload, t => do
    require (strip exchangeEffectId ≠ "") (.valueError "exchange_effect_id must not be empty")
    transition effectKey ⟨.confirmed, some exchangeEffectId, some responsePayload, none⟩ t
  | .reconcile effectKey exchangeEffectId responsePayload, t =>
    transition effectKey ⟨.reconciled, exchangeEffectId, responsePayload, none⟩ t
  | .fail effectKey error, t => do
    require (strip error ≠ "") (.valueError "journal failure detail must not be empty")
    transition effectKey ⟨.failed, none, none, some (sliceTo 4000 error)⟩ t

def EffectCall.run (orderRoles : List String) (call : EffectCall) (t : EffectTables) :
    EffectTables × Except EffectError ExecutionEffect :=
  Transactions.run (call.body orderRoles) t

inductive EffectStep (orderRoles : List String) : EffectTables → EffectTables → Prop
  | call {t : EffectTables} (call : EffectCall) : EffectStep orderRoles t (call.run orderRoles t).1

def EffectTables.empty : EffectTables := ⟨[], []⟩

end Transition

end KairosPersistence.ExecutionJournal
