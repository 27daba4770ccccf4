import KairosPersistence.KeyedRows
import KairosPersistence.TradeLifecycle

/-!
The creation of a trade and its transitions, each with the entry that it appends
to the journal of the trade.
-/

namespace KairosPersistence.TradeLifecycle

open IsoDatetime (PyDatetime)
open PythonJson PythonText
open Transactions (bind_ok require require_ok found found_ok)

section Rows

/-- A row of `execution_trades`. -/
structure TradeRow extends TradeIdentity where
  riskDecisionSha256 : String
  riskDecisionPayload : JsonColumn
  state : TradeState
  identifiers : Identifiers
  filledQuantity : Binary64
  firstFillAt : Option Timestamp
  timeoutAt : Option Timestamp
  lastReconciledAt : Option Timestamp
  reconciliationDetail : Option String
  stateVersion : ℕ
  nextExecutionEventSeq : ℕ
  journalHeadSha256 : String

/-- A row of `public_execution_events`. -/
structure PublicEventRow where
  tradeId : String
  factKey : String
  eventSeq : ℕ
  stateVersion : ℕ
  eventId : String
  payload : JsonColumn
  payloadSha256 : String

structure TradeTables where
  trades : List TradeRow
  events : List TradeEventRow
  facts : List PublicEventRow
  artifacts : Artifacts

structure TradeRecord where
  row : TradeRow
  riskDecisionPayload : PyJson

/-- `_object`. -/
def objectOf (column : JsonColumn) : Except TradeError PyJson :=
  match readColumn column with
  | some (.obj fields) => .ok (.obj fields)
  | _ => .error (.valueError "trade event payload is not an object")

/-- `_record`. -/
def record (row : TradeRow) : Except TradeError TradeRecord := do
  let payload ← objectOf row.riskDecisionPayload
  require (digest payload = row.riskDecisionSha256)
    (.messageIdentityConflict "stored risk decision payload fingerprint does not match")
  return ⟨row, payload⟩

def TradeTables.trade (t : TradeTables) (tradeId : String) : Option TradeRow := t.trades.find? (·.tradeId = tradeId)

/-- The journal of a trade, its last entry first. -/
def TradeTables.journal (t : TradeTables) (tradeId : String) : List TradeEventRow := t.events.filter (·.tradeId = tradeId)

/-- `UPDATE execution_trades` of the row of a trade. -/
def TradeTables.update (t : TradeTables) (row : TradeRow) : TradeTables :=
  { t with trades := KeyedRows.replace (·.tradeId) row t.trades }

/-- `_append_event`. -/
def TradeTables.appendEvent (t : TradeTables) (event : TradeEventRow) : Except TradeError TradeTables := do
  require (Jsonb.nulFree event.eventType = true ∧ ∀ e ∈ t.events, e.eventSha256 ≠ event.eventSha256) .databaseError
  return { t with events := event :: t.events }

end Rows

section Create

/-- `^[A-Z0-9]+:DEV$`. -/
def isDevVenueSymbol (s : String) : Bool :=
  let base := s.toList.take (s.length - 4)
  s.toList = base ++ ":DEV".toList && base ≠ [] && base.all fun c => c.isUpper || c.isDigit

/-- The trade counts for `execution_trades_one_active_symbol_idx`. -/
def TradeRow.Open (r : TradeRow) : Prop := r.state ∉ terminalTradeStates

instance (r : TradeRow) : Decidable r.Open := inferInstanceAs (Decidable (¬_))

/-- Two trades of one symbol of an account. -/
def TradeIdentity.SameSymbol (a b : TradeIdentity) : Prop :=
  a.environment = b.environment ∧ a.accountId = b.accountId ∧ a.symbol = b.symbol

instance (a b : TradeIdentity) : Decidable (a.SameSymbol b) := inferInstanceAs (Decidable (_ ∧ _))

/-- The checks of the columns of a new row. -/
def TradeIdentity.Checks (trade : TradeIdentity) : Prop :=
  (isSha256 trade.tradeId = true ∧ isSha256 trade.strategyIntentId = true ∧ isSha256 trade.riskDecisionId = true) ∧
    (trade.tradingMode = "PAPER" ∨ trade.tradingMode = "LIVE") ∧ trade.profile ∈ ["DEV", "DEMO", "PROD"] ∧
    0 < trade.quantity.scaled ∧ (unitsPerOne ≤ trade.leverage.scaled ∧ trade.leverage.scaled ≤ 125 * unitsPerOne) ∧
    0 < trade.stopPrice.scaled ∧ 0 < trade.targetPrice.scaled ∧ (0 < trade.maxHoldingMs ∧ trade.maxHoldingMs < 2 ^ 63) ∧
    trade.entryEligibleAt < trade.entryExpiresAt ∧
    (trade.tradingMode = "PAPER" → trade.profile = "DEV" ∧ trade.exchange = "evedex" ∧
      isDevVenueSymbol trade.venueSymbol = true) ∧
    (trade.tradingMode = "LIVE" → trade.profile = "PROD") ∧
    (trade.side = "BUY" ∧ trade.stopPrice.scaled < trade.targetPrice.scaled ∨
      trade.side = "SELL" ∧ trade.targetPrice.scaled < trade.stopPrice.scaled)

instance (trade : TradeIdentity) : Decidable trade.Checks := inferInstanceAs (Decidable (_ ∧ _))

/-- What the constraints of the table ask of a new row. -/
def TradeTables.Insertable (t : TradeTables) (trade : TradeIdentity) : Prop :=
  trade.Checks ∧ ∀ r ∈ t.trades, r.riskDecisionId ≠ trade.riskDecisionId ∧
    r.entryClientOrderId ≠ trade.entryClientOrderId ∧ ¬(r.Open ∧ r.SameSymbol trade)

instance (t : TradeTables) (trade : TradeIdentity) : Decidable (t.Insertable trade) :=
  inferInstanceAs (Decidable (_ ∧ _))

/-- The row as `INSERT` fills it. -/
def newTradeRow (trade : TradeIdentity) (riskDecisionSha256 : String) (column : JsonColumn) (journalHeadSha256 : String) :
    TradeRow where
  toTradeIdentity := trade
  riskDecisionSha256 := riskDecisionSha256
  riskDecisionPayload := column
  state := .received
  identifiers := fun _ => none
  filledQuantity := Binary64.signedZero false
  firstFillAt := none
  timeoutAt := none
  lastReconciledAt := none
  reconciliationDetail := none
  stateVersion := 0
  nextExecutionEventSeq := 1
  journalHeadSha256 := journalHeadSha256

/-- The payload of the journal entry of a creation. -/
def createdPayload (trade : TradeIdentity) (riskDecisionPayload : PyJson) : PyJson :=
  .obj [("trade", newTradePayload trade riskDecisionPayload)]

def createdSha (trade : TradeIdentity) (riskDecisionPayload : PyJson) : String :=
  eventSha trade.tradeId none TradeState.received.value "CREATED" (createdPayload trade riskDecisionPayload) none

def createdEvent (trade : TradeIdentity) (riskDecisionPayload : PyJson) (column : JsonColumn) : TradeEventRow :=
  ⟨trade.tradeId, none, TradeState.received.value, "CREATED", column, none, createdSha trade riskDecisionPayload⟩

/-- `_create_locked`. -/
def createLocked (trade : TradeIdentity) (payload : ModelDump) (t : TradeTables) :
    Except TradeError (TradeTables × TradeRecord) :=
  match t.trade trade.tradeId with
  | some row => do
    let existing ← record row
    require (equal (newTradePayload row.toTradeIdentity existing.riskDecisionPayload)
        (newTradePayload trade payload.value) = true)
      (.messageIdentityConflict ("trade_id '" ++ trade.tradeId ++ "' was reused with different immutable content"))
    return (t, existing)
  | none => do
    let column ← found (Jsonb.jsonbIn (dumps payload.value)) .databaseError
    require (t.Insertable trade) .databaseError
    let row := newTradeRow trade (digest payload.value) column (createdSha trade payload.value)
    let eventColumn ← found (Jsonb.jsonbIn (dumps (createdPayload trade payload.value))) .databaseError
    let t ← { t with trades := row :: t.trades }.appendEvent (createdEvent trade payload.value eventColumn)
    let created ← record row
    return (t, created)

end Create

section Transition

structure TransitionRequest where
  target : TradeState
  eventType : String
  eventPayload : ModelDump
  filledQuantity : Option (Option Binary64)
  firstFillAt : Option PyDatetime
  identifiers : Identifiers

/-- What a transition writes beside the state and the head of the journal. -/
structure TradeProgress where
  filledQuantity : Binary64
  firstFillAt : Option Timestamp
  timeoutAt : Option Timestamp
  identifiers : Identifiers

/-- `_normalize_optional_timestamp`. -/
def normalizeOptionalTimestamp : Option PyDatetime → Except TradeError (Option Timestamp)
  | none => .ok none
  | some value => do
    let utcoffset ← found value.utcoffset (.valueError "first_fill_at must be timezone-aware")
    let utc ← found (value.astimezone utcoffset) .overflowError
    return some utc

/-- The states in which there is an exposure. -/
def exposedStates : List TradeState :=
  [.protecting, .active, .exitingStop, .exitingTarget, .exitingTimeout, .exitingEmergency]

/-- What `_transition_locked` computes from the row before it writes. -/
def TradeRow.progress (current : TradeRow) (request : TransitionRequest) : Except TradeError TradeProgress := do
  validateTradeTransition current.state request.target
  let nextFilled ← found (request.filledQuantity.getD (some current.filledQuantity))
    (.valueError "filled_quantity is outside the trade quantity")
  require (0 ≤ nextFilled.scaled ∧ nextFilled.scaled ≤ current.quantity.scaled)
    (.valueError "filled_quantity is outside the trade quantity")
  require (current.filledQuantity.scaled ≤ nextFilled.scaled) (.valueError "filled_quantity must be monotonic")
  let supplied ← normalizeOptionalTimestamp request.firstFillAt
  require (∀ a ∈ supplied, ∀ b ∈ current.firstFillAt, a = b)
    (.messageIdentityConflict "first_fill_at is immutable once recorded")
  let firstFillAt := current.firstFillAt.or supplied
  require (0 < nextFilled.scaled → firstFillAt.isSome = true)
    (.valueError "the first non-zero fill must record first_fill_at")
  require (nextFilled.scaled = 0 → firstFillAt.isSome = false) (.valueError "first_fill_at requires a non-zero fill")
  require (request.target = .cancelled → ¬0 < nextFilled.scaled)
    (.valueError "a partially filled trade cannot be cancelled")
  require (request.target ∈ exposedStates → 0 < nextFilled.scaled)
    (.valueError (request.target.value ++ " requires a non-zero fill"))
  let timeoutAt := firstFillAt.map fun t => t + 1000 * current.maxHoldingMs
  require (∀ t ∈ timeoutAt, t < 315537897600000000)
    (.valueError "max_holding_ms exceeds the supported timestamp range")
  let identifiers ← mergeIdentifiers current.identifiers request.identifiers
  return ⟨nextFilled, firstFillAt, timeoutAt, identifiers⟩

/-- The identifiers that the indexes of the table keep unique in an account. -/
def clientIdentifiers : List IdentifierName := [.stopClientOrderId, .targetClientOrderId, .closeClientOrderId]

/-- No other trade of the account has one of the client identifiers of the row. -/
def TradeTables.ClientIdsFree (t : TradeTables) (row : TradeRow) : Prop :=
  ∀ r ∈ t.trades, r.tradeId ≠ row.tradeId → r.environment = row.environment → r.accountId = row.accountId →
    r.exchange = row.exchange → ∀ name ∈ clientIdentifiers, ∀ value ∈ row.identifiers name, r.identifiers name ≠ some value

instance (t : TradeTables) (row : TradeRow) : Decidable (t.ClientIdsFree row) :=
  inferInstanceAs (Decidable (∀ r ∈ t.trades, _))

namespace TradeRow

variable (current : TradeRow) (request : TransitionRequest) (progress : TradeProgress)

/-- The payload of the journal entry of the transition. -/
def payloadOf : PyJson :=
  transitionPayload request.eventPayload.value progress.filledQuantity progress.firstFillAt progress.identifiers

def shaOf : String :=
  eventSha current.tradeId (some current.state.value) request.target.value request.eventType (payloadOf request progress)
    (some current.journalHeadSha256)

def eventOf (column : JsonColumn) : TradeEventRow :=
  ⟨current.tradeId, some current.state.value, request.target.value, request.eventType, column,
    some current.journalHeadSha256, current.shaOf request progress⟩

/-- The row as the transition writes it. -/
def advanced : TradeRow :=
  { current with
    state := request.target
    filledQuantity := progress.filledQuantity
    firstFillAt := progress.firstFillAt
    timeoutAt := progress.timeoutAt
    identifiers := fun name => (progress.identifiers name).or (current.identifiers name)
    stateVersion := current.stateVersion + 1
    journalHeadSha256 := current.shaOf request progress }

end TradeRow

/-- `_transition_locked`. -/
def transitionLocked (current : TradeRow) (request : TransitionRequest) (t : TradeTables) :
    Except TradeError (TradeTables × TradeRecord) := do
  let progress ← current.progress request
  let row := current.advanced request progress
  require (t.ClientIdsFree row) .databaseError
  let column ← found (Jsonb.jsonbIn (dumps (TradeRow.payloadOf request progress))) .databaseError
  let t ← (t.update row).appendEvent (current.eventOf request progress column)
  let updated ← record row
  return (t, updated)

end Transition

section Progress

variable {current : TradeRow} {request : TransitionRequest} {progress : TradeProgress}

/-- What a transition has checked, and how what it writes continues what is stored. -/
structure TradeRow.Progresses (current : TradeRow) (request : TransitionRequest) (progress : TradeProgress) : Prop where
  allowed : request.target ∈ allowedTransitions current.state
  nonneg : 0 ≤ progress.filledQuantity.scaled
  within : progress.filledQuantity.scaled ≤ current.quantity.scaled
  monotonic : current.filledQuantity.scaled ≤ progress.filledQuantity.scaled
  firstFillAt : ∀ t ∈ current.firstFillAt, progress.firstFillAt = some t
  filled : 0 < progress.filledQuantity.scaled ↔ progress.firstFillAt.isSome = true
  cancelled : request.target = .cancelled → progress.filledQuantity.scaled = 0
  exposed : request.target ∈ exposedStates → 0 < progress.filledQuantity.scaled
  timeoutAt : progress.timeoutAt = progress.firstFillAt.map fun t => t + 1000 * current.maxHoldingMs
  merged : mergeIdentifiers current.identifiers request.identifiers = .ok progress.identifiers

theorem TradeRow.progress_ok (h : current.progress request = .ok progress) : current.Progresses request progress := by
  obtain ⟨_, hallowed, h⟩ := bind_ok h
  obtain ⟨nextFilled, _, h⟩ := bind_ok h
  obtain ⟨_, hrange, h⟩ := bind_ok h
  obtain ⟨_, hmonotonic, h⟩ := bind_ok h
  obtain ⟨supplied, _, h⟩ := bind_ok h
  obtain ⟨_, _, h⟩ := bind_ok h
  obtain ⟨_, hfilled, h⟩ := bind_ok h
  obtain ⟨_, hunfilled, h⟩ := bind_ok h
  obtain ⟨_, hcancelled, h⟩ := bind_ok h
  obtain ⟨_, hexposed, h⟩ := bind_ok h
  obtain ⟨_, _, h⟩ := bind_ok h
  obtain ⟨identifiers, hmerged, h⟩ := bind_ok h
  obtain rfl := Except.ok.inj h
  have hrange := require_ok hrange
  have hfilled := require_ok hfilled
  have hunfilled := require_ok hunfilled
  have hcancelled := require_ok hcancelled
  refine ⟨require_ok hallowed, hrange.1, hrange.2, require_ok hmonotonic, ?_, ⟨hfilled, ?_⟩, ?_, require_ok hexposed, rfl,
    hmerged⟩
  · intro t ht
    dsimp only
    rw [Option.mem_def.mp ht, Option.some_or]
  · intro hsome
    by_contra hnot
    have hzero : nextFilled.scaled = 0 := le_antisymm (not_lt.mp hnot) hrange.1
    rw [hunfilled hzero] at hsome
    cases hsome
  · intro htarget
    exact le_antisymm (not_lt.mp (hcancelled htarget)) hrange.1

end Progress

section Merge

variable {current supplied merged : Identifiers}

theorem mergeIdentifier_ok {name : IdentifierName} {current supplied merged : Option String}
    (h : mergeIdentifier name current supplied = .ok merged) :
    (∀ value ∈ supplied, strip value ≠ "") ∧ (∀ value ∈ current, ∀ value' ∈ supplied, value = value') ∧
      merged = orSupplied current supplied := by
  obtain ⟨_, hsupplied, h⟩ := bind_ok h
  obtain ⟨_, hsame, h⟩ := bind_ok h
  exact ⟨require_ok hsupplied, require_ok hsame, (Except.ok.inj h).symm⟩

theorem mergeIdentifiers_ok (h : mergeIdentifiers current supplied = .ok merged) :
    (∀ name, ∀ value ∈ supplied name, strip value ≠ "") ∧
      (∀ name, ∀ value ∈ current name, ∀ value' ∈ supplied name, value = value') ∧
      merged = fun name => orSupplied (current name) (supplied name) := by
  obtain ⟨u, hloop, h⟩ := bind_ok h
  have hmerge : ∀ name, ∃ value, mergeIdentifier name (current name) (supplied name) = .ok value := by
    intro name
    have hname := Transactions.forM_ok hloop name name.mem_all
    cases hmerge : mergeIdentifier name (current name) (supplied name) with
    | ok value => exact ⟨value, rfl⟩
    | error e =>
      rw [hmerge] at hname
      cases hname
  refine ⟨fun name => ?_, fun name => ?_, (Except.ok.inj h).symm⟩
  · obtain ⟨value, hvalue⟩ := hmerge name
    exact (mergeIdentifier_ok hvalue).1
  · obtain ⟨value, hvalue⟩ := hmerge name
    exact (mergeIdentifier_ok hvalue).2.1

/-- An identifier that is recorded stays, and none becomes recorded that is blank. -/
theorem mergeIdentifiers_keeps (h : mergeIdentifiers current supplied = .ok merged) (name : IdentifierName) {value : String}
    (hcurrent : current name = some value) (hvalue : value ≠ "") : merged name = some value := by
  rw [(mergeIdentifiers_ok h).2.2]
  dsimp only
  rw [hcurrent]
  simp only [orSupplied, if_neg hvalue]

theorem strip_empty : strip "" = "" := by
  decide

theorem ne_empty_of_strip {value : String} (h : strip value ≠ "") : value ≠ "" := by
  rintro rfl
  exact h strip_empty

theorem mergeIdentifiers_nonempty (h : mergeIdentifiers current supplied = .ok merged) (name : IdentifierName) :
    merged name ≠ some "" := by
  obtain ⟨hsupplied, -, rfl⟩ := mergeIdentifiers_ok h
  intro heq
  dsimp only [orSupplied] at heq
  split at heq
  · exact ne_empty_of_strip (hsupplied name "" heq) rfl
  · split at heq
    · exact ne_empty_of_strip (hsupplied name "" heq) rfl
    · rename_i value hvalue hne
      exact hne (Option.some.inj heq)

end Merge

section Writes

variable {trade : TradeIdentity} {payload : ModelDump} {row : TradeRow} {request : TransitionRequest}
  {t t' : TradeTables} {r : TradeRecord}

theorem appendEvent_ok {event : TradeEventRow} (h : t.appendEvent event = .ok t') :
    (∀ e ∈ t.events, e.eventSha256 ≠ event.eventSha256) ∧ t' = { t with events := event :: t.events } := by
  obtain ⟨_, hfresh, h⟩ := bind_ok h
  exact ⟨(require_ok hfresh).2, (Except.ok.inj h).symm⟩

/-- The risk decision of the row reads as it was stored. -/
def TradeRow.Readable (row : TradeRow) : Prop :=
  ∃ decision, objectOf row.riskDecisionPayload = .ok decision ∧ digest decision = row.riskDecisionSha256

theorem record_ok (h : record row = .ok r) : r.row = row ∧ row.Readable := by
  obtain ⟨decision, hread, h⟩ := bind_ok h
  obtain ⟨_, hdigest, h⟩ := bind_ok h
  obtain rfl := Except.ok.inj h
  exact ⟨rfl, decision, hread, require_ok hdigest⟩

theorem TradeRow.Readable.record (h : row.Readable) : ∃ r, record row = .ok r ∧ r.row = row := by
  obtain ⟨decision, hread, hdigest⟩ := h
  refine ⟨⟨row, decision⟩, ?_, rfl⟩
  rw [TradeLifecycle.record, hread, Transactions.ok_bind, Transactions.require_pos hdigest]
  rfl

/-- What a creation does: it finds the trade, or inserts it with the first entry of its journal. -/
inductive Creates (trade : TradeIdentity) (payload : ModelDump) (t : TradeTables) : TradeTables → TradeRow → Prop
  | existing {row decision} (hrow : t.trade trade.tradeId = some row) (hread : objectOf row.riskDecisionPayload = .ok decision)
    (hsame : equal (newTradePayload row.toTradeIdentity decision) (newTradePayload trade payload.value) = true) :
    Creates trade payload t t row
  | inserted {column eventColumn} (habsent : t.trade trade.tradeId = none) (hinsertable : t.Insertable trade)
    (hcolumn : Jsonb.jsonbIn (dumps payload.value) = some column)
    (hevent : Jsonb.jsonbIn (dumps (createdPayload trade payload.value)) = some eventColumn)
    (hfresh : ∀ e ∈ t.events, e.eventSha256 ≠ createdSha trade payload.value)
    (hreadable : (newTradeRow trade (digest payload.value) column (createdSha trade payload.value)).Readable) :
    Creates trade payload t
      { t with
        trades := newTradeRow trade (digest payload.value) column (createdSha trade payload.value) :: t.trades
        events := createdEvent trade payload.value eventColumn :: t.events }
      (newTradeRow trade (digest payload.value) column (createdSha trade payload.value))

theorem createLocked_ok (h : createLocked trade payload t = .ok (t', r)) : Creates trade payload t t' r.row := by
  unfold createLocked at h
  split at h
  · rename_i row hrow
    obtain ⟨existing, hrecord, h⟩ := bind_ok h
    obtain ⟨_, hsame, h⟩ := bind_ok h
    obtain ⟨rfl, rfl⟩ := Prod.mk.inj (Except.ok.inj h)
    obtain ⟨decision, hread, hrecord⟩ := bind_ok hrecord
    obtain ⟨_, _, hrecord⟩ := bind_ok hrecord
    obtain rfl := Except.ok.inj hrecord
    exact .existing hrow hread (require_ok hsame)
  · rename_i habsent
    obtain ⟨column, hcolumn, h⟩ := bind_ok h
    obtain ⟨_, hinsertable, h⟩ := bind_ok h
    obtain ⟨eventColumn, hevent, h⟩ := bind_ok h
    obtain ⟨t₁, happend, h⟩ := bind_ok h
    obtain ⟨created, hrecord, h⟩ := bind_ok h
    obtain ⟨rfl, rfl⟩ := Prod.mk.inj (Except.ok.inj h)
    obtain ⟨hfresh, rfl⟩ := appendEvent_ok happend
    obtain ⟨hrow, hreadable⟩ := record_ok hrecord
    rw [hrow]
    exact .inserted habsent (require_ok hinsertable) (found_ok hcolumn) (found_ok hevent) hfresh hreadable

/-- What a transition of the row does. -/
structure Moves (current : TradeRow) (request : TransitionRequest) (progress : TradeProgress) (column : JsonColumn)
    (t t' : TradeTables) : Prop where
  progresses : current.Progresses request progress
  free : t.ClientIdsFree (current.advanced request progress)
  stored : Jsonb.jsonbIn (dumps (TradeRow.payloadOf request progress)) = some column
  fresh : ∀ e ∈ t.events, e.eventSha256 ≠ current.shaOf request progress
  tables : t' = { t.update (current.advanced request progress) with
    events := current.eventOf request progress column :: t.events }

theorem transitionLocked_ok (h : transitionLocked row request t = .ok (t', r)) :
    ∃ progress column, Moves row request progress column t t' ∧ r.row = row.advanced request progress := by
  obtain ⟨progress, hprogress, h⟩ := bind_ok h
  obtain ⟨_, hfree, h⟩ := bind_ok h
  obtain ⟨column, hcolumn, h⟩ := bind_ok h
  obtain ⟨t₁, happend, h⟩ := bind_ok h
  obtain ⟨updated, hrecord, h⟩ := bind_ok h
  obtain ⟨rfl, rfl⟩ := Prod.mk.inj (Except.ok.inj h)
  obtain ⟨hfresh, rfl⟩ := appendEvent_ok happend
  exact ⟨progress, column, ⟨TradeRow.progress_ok hprogress, require_ok hfree, found_ok hcolumn, hfresh, rfl⟩,
    (record_ok hrecord).1⟩

end Writes

end KairosPersistence.TradeLifecycle
