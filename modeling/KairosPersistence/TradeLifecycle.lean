import KairosPersistence.FloatHex
import KairosPersistence.IsoDatetime
import KairosPersistence.SimulatorArtifacts

/-!
`trade_lifecycle`: the states of a durable trade, the checks of a new one, and
the texts that its journal hashes.
-/

namespace KairosPersistence.TradeLifecycle

open IsoDatetime (PyDatetime)
open PythonJson PythonText
open Transactions (require found)

inductive TradeError where
  | valueError (message : String)
  | validationError
  | overflowError
  | keyError (tradeId : String)
  | messageIdentityConflict (message : String)
  | runtimeError (message : String)
  | builderError
  | databaseError
  deriving DecidableEq, Repr

section States

/-- `TradeLifecycleState`. -/
inductive TradeState where
  | received
  | entryPending
  | protecting
  | active
  | exitingStop
  | exitingTarget
  | exitingTimeout
  | exitingEmergency
  | flat
  | cancelled
  | failedBlocked
  deriving DecidableEq, Repr

def TradeState.value : TradeState → String
  | .received => "RECEIVED"
  | .entryPending => "ENTRY_PENDING"
  | .protecting => "PROTECTING"
  | .active => "ACTIVE"
  | .exitingStop => "EXITING_STOP"
  | .exitingTarget => "EXITING_TARGET"
  | .exitingTimeout => "EXITING_TIMEOUT"
  | .exitingEmergency => "EXITING_EMERGENCY"
  | .flat => "FLAT"
  | .cancelled => "CANCELLED"
  | .failedBlocked => "FAILED_BLOCKED"

def TradeState.all : List TradeState :=
  [.received, .entryPending, .protecting, .active, .exitingStop, .exitingTarget, .exitingTimeout, .exitingEmergency,
    .flat, .cancelled, .failedBlocked]

/-- `TradeLifecycleState(value)`. -/
def TradeState.ofValue (value : String) : Option TradeState := TradeState.all.find? (·.value = value)

def terminalTradeStates : List TradeState := [.flat, .cancelled]

/-- `_ALLOWED_TRANSITIONS`. -/
def allowedTransitions : TradeState → List TradeState
  | .received => [.entryPending, .cancelled, .failedBlocked]
  | .entryPending => [.entryPending, .protecting, .cancelled, .failedBlocked]
  | .protecting => [.protecting, .active, .exitingStop, .exitingTarget, .exitingEmergency, .failedBlocked]
  | .active => [.active, .exitingStop, .exitingTarget, .exitingTimeout, .exitingEmergency, .failedBlocked]
  | .exitingStop | .exitingTarget | .exitingTimeout | .exitingEmergency => [.flat, .failedBlocked]
  | .failedBlocked => [.exitingEmergency, .flat]
  | .flat | .cancelled => []

def validateTradeTransition (current target : TradeState) : Except TradeError Unit :=
  require (target ∈ allowedTransitions current)
    (.valueError ("invalid trade transition " ++ current.value ++ "->" ++ target.value))

theorem TradeState.value_injective : Function.Injective TradeState.value := by
  intro a b h
  cases a <;> cases b <;> first | rfl | exact absurd h (by decide)

theorem TradeState.ofValue_value (state : TradeState) : TradeState.ofValue state.value = some state := by
  cases state <;> decide

end States

section Identifiers

/-- The identifiers of orders that a trade records as they become known. -/
inductive IdentifierName where
  | entryExchangeOrderId
  | stopClientOrderId
  | stopExchangeOrderId
  | targetClientOrderId
  | targetExchangeOrderId
  | closeClientOrderId
  | closeExchangeOrderId
  deriving DecidableEq, Repr

def IdentifierName.value : IdentifierName → String
  | .entryExchangeOrderId => "entry_exchange_order_id"
  | .stopClientOrderId => "stop_client_order_id"
  | .stopExchangeOrderId => "stop_exchange_order_id"
  | .targetClientOrderId => "target_client_order_id"
  | .targetExchangeOrderId => "target_exchange_order_id"
  | .closeClientOrderId => "close_client_order_id"
  | .closeExchangeOrderId => "close_exchange_order_id"

def IdentifierName.all : List IdentifierName :=
  [.entryExchangeOrderId, .stopClientOrderId, .stopExchangeOrderId, .targetClientOrderId, .targetExchangeOrderId,
    .closeClientOrderId, .closeExchangeOrderId]

theorem IdentifierName.mem_all (name : IdentifierName) : name ∈ IdentifierName.all := by
  cases name <;> decide

abbrev Identifiers := IdentifierName → Option String

/-- `current or supplied`. -/
def orSupplied (current supplied : Option String) : Option String :=
  match current with
  | none => supplied
  | some value => if value = "" then supplied else some value

/-- `_merge_identifier`. -/
def mergeIdentifier (name : IdentifierName) (current supplied : Option String) : Except TradeError (Option String) := do
  require (∀ value ∈ supplied, strip value ≠ "") (.valueError (name.value ++ " must be absent or non-empty"))
  require (∀ value ∈ current, ∀ value' ∈ supplied, value = value')
    (.messageIdentityConflict (name.value ++ " is immutable once recorded"))
  return orSupplied current supplied

/-- The merge of all of them, one after the other. -/
def mergeIdentifiers (current supplied : Identifiers) : Except TradeError Identifiers := do
  IdentifierName.all.forM fun name => (mergeIdentifier name (current name) (supplied name)).map fun _ => ⟨⟩
  return fun name => orSupplied (current name) (supplied name)

end Identifiers

section NewTrade

/-- What `_validate_decision_lineage` reads of a `RiskTradeDecisionV1`. -/
structure RiskTradeDecision where
  approved : Bool
  tradeId : String
  decisionId : String
  intentId : String
  strategyId : String
  strategyRevision : String
  tradingMode : String
  evedexProfile : String
  accountId : String
  symbol : String
  venueSymbol : String
  intentIsLong : Bool
  quantity : Binary64
  leverage : Binary64
  stopPrice : Binary64
  targetPrice : Binary64
  maxHoldingMs : ℤ
  entryEligibleTsMs : ℤ
  entryExpiresTsMs : ℤ

structure NewTrade where
  tradeId : String
  strategyIntentId : String
  riskDecisionId : String
  riskDecisionPayload : ModelDump
  strategyId : String
  strategyRevision : String
  tradingMode : String
  environment : String
  profile : String
  exchange : String
  accountId : String
  symbol : String
  venueSymbol : String
  side : String
  quantity : Option Binary64
  leverage : Option Binary64
  stopPrice : Option Binary64
  targetPrice : Option Binary64
  entryEligibleAt : PyDatetime
  entryExpiresAt : PyDatetime
  maxHoldingMs : ℤ
  entryClientOrderId : String

/-- The columns that a trade keeps from its insertion on, beside its risk decision. -/
structure TradeIdentity where
  tradeId : String
  strategyIntentId : String
  riskDecisionId : String
  strategyId : String
  strategyRevision : String
  tradingMode : String
  environment : String
  profile : String
  exchange : String
  accountId : String
  symbol : String
  venueSymbol : String
  side : String
  quantity : Binary64
  leverage : Binary64
  stopPrice : Binary64
  targetPrice : Binary64
  entryEligibleAt : Timestamp
  entryExpiresAt : Timestamp
  maxHoldingMs : ℤ
  entryClientOrderId : String
  deriving DecidableEq

def unixEpoch : Timestamp := 62135596800000000

/-- `_unix_ms`, with the time in UTC that it is of. -/
def unixMs (value : PyDatetime) : Except TradeError (Timestamp × ℤ) := do
  let utcoffset ← found value.utcoffset (.valueError "entry timestamps must be timezone-aware")
  let normalized ← found (value.astimezone utcoffset) .overflowError
  require (normalized % 1000 = 0) (.valueError "entry timestamps must have millisecond precision")
  return (normalized, (normalized - unixEpoch) / 1000)

def finitePositive (name : String) (value : Option Binary64) : Except TradeError Binary64 := do
  let x ← found value (.valueError (name ++ " must be finite and positive"))
  require (0 < x.scaled) (.valueError (name ++ " must be finite and positive"))
  return x

/-- `1.0`, in units of the smallest subnormal. -/
def unitsPerOne : ℤ := 2 ^ 1074

namespace NewTrade

variable (trade : NewTrade)

def required : List String :=
  [trade.tradeId, trade.strategyIntentId, trade.riskDecisionId, trade.strategyId, trade.strategyRevision,
    trade.environment, trade.exchange, trade.accountId, trade.symbol, trade.venueSymbol, trade.entryClientOrderId]

/-- The names of the fields that differ from the decision, in the order of `comparisons`. -/
def mismatches (decision : RiskTradeDecision) (quantity leverage stopPrice targetPrice : Binary64)
    (eligibleMs expiresMs : ℤ) : List String :=
  let comparisons : List (String × Bool) :=
    [("trade_id", trade.tradeId = decision.tradeId), ("strategy_intent_id", trade.strategyIntentId = decision.intentId),
      ("risk_decision_id", trade.riskDecisionId = decision.decisionId),
      ("strategy_id", trade.strategyId = decision.strategyId),
      ("strategy_revision", trade.strategyRevision = decision.strategyRevision),
      ("trading_mode", trade.tradingMode = decision.tradingMode), ("profile", trade.profile = decision.evedexProfile),
      ("account_id", trade.accountId = decision.accountId), ("symbol", trade.symbol = decision.symbol),
      ("venue_symbol", trade.venueSymbol = decision.venueSymbol),
      ("side", trade.side = if decision.intentIsLong then "BUY" else "SELL"),
      ("quantity", quantity.scaled = decision.quantity.scaled), ("leverage", leverage.scaled = decision.leverage.scaled),
      ("stop_price", stopPrice.scaled = decision.stopPrice.scaled),
      ("target_price", targetPrice.scaled = decision.targetPrice.scaled),
      ("max_holding_ms", trade.maxHoldingMs = decision.maxHoldingMs),
      ("entry_eligible_at", eligibleMs = decision.entryEligibleTsMs),
      ("entry_expires_at", expiresMs = decision.entryExpiresTsMs)]
  (comparisons.filter fun c => !c.2).map (·.1)

/-- `validate`, with the columns that are stored of a trade that it accepts. `modelValidate` is
the contract's own. -/
def validate (modelValidate : PyJson → Option RiskTradeDecision) : Except TradeError TradeIdentity := do
  require (∀ value ∈ trade.required, strip value ≠ "") (.valueError "trade lineage fields must not be empty")
  require (trade.tradingMode = "PAPER" ∨ trade.tradingMode = "LIVE")
    (.valueError "durable trades are only valid for PAPER or LIVE")
  require (trade.profile ∈ ["DEV", "DEMO", "PROD"]) (.valueError "unknown EVEDEX profile")
  require (trade.side = "BUY" ∨ trade.side = "SELL") (.valueError "trade side must be BUY or SELL")
  let quantity ← finitePositive "quantity" trade.quantity
  let leverage ← finitePositive "leverage" trade.leverage
  let stopPrice ← finitePositive "stop_price" trade.stopPrice
  let targetPrice ← finitePositive "target_price" trade.targetPrice
  require (unitsPerOne ≤ leverage.scaled ∧ leverage.scaled ≤ 125 * unitsPerOne)
    (.valueError "leverage must be between 1 and 125")
  require (trade.side = "BUY" → stopPrice.scaled < targetPrice.scaled) (.valueError "BUY stop must be below target")
  require (trade.side = "SELL" → targetPrice.scaled < stopPrice.scaled) (.valueError "SELL stop must be above target")
  let eligibleOffset ← found trade.entryEligibleAt.utcoffset (.valueError "entry timestamps must be timezone-aware")
  let expiresOffset ← found trade.entryExpiresAt.utcoffset (.valueError "entry timestamps must be timezone-aware")
  require (trade.entryEligibleAt.clock - eligibleOffset < trade.entryExpiresAt.clock - expiresOffset)
    (.valueError "entry expiry must follow eligibility")
  require (0 < trade.maxHoldingMs) (.valueError "max_holding_ms must be positive")
  let decision ← found (modelValidate trade.riskDecisionPayload.value) .validationError
  require (decision.approved = true) (.valueError "a durable trade requires an approved risk decision")
  let (eligibleAt, eligibleMs) ← unixMs trade.entryEligibleAt
  let (expiresAt, expiresMs) ← unixMs trade.entryExpiresAt
  let names := trade.mismatches decision quantity leverage stopPrice targetPrice eligibleMs expiresMs
  require (names = [])
    (.valueError ("risk decision payload does not match durable trade lineage: " ++ String.intercalate ", " names))
  require (trade.tradingMode = "PAPER" →
      trade.profile = "DEV" ∧ trade.exchange = "evedex" ∧ (":DEV".toList <:+ trade.venueSymbol.toList))
    (.valueError "PAPER persistence requires the exact EVEDEX DEV venue")
  require (trade.tradingMode = "LIVE" → trade.profile = "PROD")
    (.valueError "LIVE persistence requires the EVEDEX PROD profile")
  return {
    tradeId := trade.tradeId
    strategyIntentId := trade.strategyIntentId
    riskDecisionId := trade.riskDecisionId
    strategyId := trade.strategyId
    strategyRevision := trade.strategyRevision
    tradingMode := trade.tradingMode
    environment := trade.environment
    profile := trade.profile
    exchange := trade.exchange
    accountId := trade.accountId
    symbol := trade.symbol
    venueSymbol := trade.venueSymbol
    side := trade.side
    quantity := quantity
    leverage := leverage
    stopPrice := stopPrice
    targetPrice := targetPrice
    entryEligibleAt := eligibleAt
    entryExpiresAt := expiresAt
    maxHoldingMs := trade.maxHoldingMs
    entryClientOrderId := trade.entryClientOrderId }

end NewTrade

/-- `_new_trade_payload`. -/
def newTradePayload (trade : TradeIdentity) (riskDecisionPayload : PyJson) : PyJson :=
  .obj [("trade_id", .str trade.tradeId), ("strategy_intent_id", .str trade.strategyIntentId),
    ("risk_decision_id", .str trade.riskDecisionId), ("risk_decision_payload", riskDecisionPayload),
    ("strategy_id", .str trade.strategyId), ("strategy_revision", .str trade.strategyRevision),
    ("trading_mode", .str trade.tradingMode), ("environment", .str trade.environment), ("profile", .str trade.profile),
    ("exchange", .str trade.exchange), ("account_id", .str trade.accountId), ("symbol", .str trade.symbol),
    ("venue_symbol", .str trade.venueSymbol), ("side", .str trade.side),
    ("quantity_hex", .str (FloatHex.hex trade.quantity)), ("leverage_hex", .str (FloatHex.hex trade.leverage)),
    ("stop_price_hex", .str (FloatHex.hex trade.stopPrice)), ("target_price_hex", .str (FloatHex.hex trade.targetPrice)),
    ("entry_eligible_at", .str (isoformat false trade.entryEligibleAt)),
    ("entry_expires_at", .str (isoformat false trade.entryExpiresAt)), ("max_holding_ms", .num (.int trade.maxHoldingMs)),
    ("entry_client_order_id", .str trade.entryClientOrderId)]

end NewTrade

section Journal

/-- A text column. -/
def nullable (value : Option String) : PyJson := value.elim .null .str

/-- What `_event_sha` hashes. -/
def eventText (tradeId : String) (fromState : Option String) (toState eventType : String) (payload : PyJson)
    (previousSha : Option String) : String :=
  dumps (.obj [("domain", .str "kairos.trade-lifecycle-event.v1"), ("trade_id", .str tradeId),
    ("from_state", nullable fromState), ("to_state", .str toState), ("event_type", .str eventType), ("payload", payload),
    ("previous_event_sha256", nullable previousSha)])

/-- `_event_sha`. -/
def eventSha (tradeId : String) (fromState : Option String) (toState eventType : String) (payload : PyJson)
    (previousSha : Option String) : String :=
  Sha256.hexdigest (eventText tradeId fromState toState eventType payload previousSha)

/-- The payload of the journal entry of a transition. -/
def transitionPayload (event : PyJson) (filledQuantity : Binary64) (firstFillAt : Option Timestamp)
    (identifiers : Identifiers) : PyJson :=
  .obj ([("event", event), ("filled_quantity_hex", .str (FloatHex.hex filledQuantity)),
    ("first_fill_at", nullable (firstFillAt.map (isoformat false)))] ++
    IdentifierName.all.map fun name => (name.value, nullable (identifiers name)))

/-- A row of `execution_trade_events`. -/
structure TradeEventRow where
  tradeId : String
  fromState : Option String
  toState : String
  eventType : String
  eventPayload : JsonColumn
  previousEventSha256 : Option String
  eventSha256 : String

end Journal

section Texts

theorem nulFree_ofList {cs : List Char} (h : Char.ofNat 0 ∉ cs) : Jsonb.nulFree (String.ofList cs) = true := by
  rw [Jsonb.nulFree, String.toList_ofList, Bool.not_eq_true', List.contains_eq_mem, decide_eq_false_iff_not]
  exact h

theorem nul_not_digits {ds : List ℕ} (h : DecimalDigits.AllDigits ds) : Char.ofNat 0 ∉ ds.map JsonText.digitChar := by
  intro hmem
  obtain ⟨d, hd, heq⟩ := List.mem_map.mp hmem
  have hlt := h d hd
  interval_cases d <;> exact absurd heq (by decide)

theorem nul_not_hexDigits (k n : ℕ) : Char.ofNat 0 ∉ (FloatHex.hexDigits k n).map JsonText.hexChar := by
  intro hmem
  obtain ⟨d, hd, heq⟩ := List.mem_map.mp hmem
  have hlt := FloatHex.hexDigits_lt k n d hd
  interval_cases d <;> exact absurd heq (by decide)

theorem nul_not_signedText (n : ℤ) : Char.ofNat 0 ∉ FloatHex.signedText n := by
  have hdigits := nul_not_digits (DecimalDigits.digits_lt n.natAbs)
  have hminus : Char.ofNat 0 ≠ '-' := by decide
  have hplus : Char.ofNat 0 ≠ '+' := by decide
  unfold FloatHex.signedText
  rw [List.mem_cons]
  split
  · exact not_or.mpr ⟨hminus, hdigits⟩
  · exact not_or.mpr ⟨hplus, hdigits⟩

theorem nulFree_hex (x : Binary64) : Jsonb.nulFree (FloatHex.hex x) = true := by
  have hletters : ∀ c ∈ ['0', '1', '.', 'x', 'p', '+'], Char.ofNat 0 ≠ c := by simp
  simp only [List.forall_mem_cons] at hletters
  apply nulFree_ofList
  unfold FloatHex.hexChars
  split_ifs <;> simp [hletters, nul_not_hexDigits, nul_not_signedText]

theorem nulFree_isoformat (t : Timestamp) : Jsonb.nulFree (isoformat false t) = true := by
  have hpadded : ∀ k n, Char.ofNat 0 ∉ padded k n := fun k n => nul_not_digits (DecimalDigits.fixedDigits_lt k n)
  have hletters : ∀ c ∈ ['-', 'T', ':', '.', '+', '0'], Char.ofNat 0 ≠ c := by simp
  simp only [List.forall_mem_cons] at hletters
  apply nulFree_ofList
  dsimp only [dateChars]
  split_ifs <;> simp [hletters, hpadded]

end Texts

end KairosPersistence.TradeLifecycle
