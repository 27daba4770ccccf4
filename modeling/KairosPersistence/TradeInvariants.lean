import KairosPersistence.SimulatorProgress
import KairosPersistence.TradeRuns

/-!
The invariant of the durable trades: each is a chain of journal entries that
ends in its row, and the columns of the row agree with one another.
-/

namespace KairosPersistence.TradeLifecycle

open PythonJson PythonText Relation
open Transactions (bind_ok found_ok)

section Chains

/-- The journal of a trade, its last entry first, with the state and the digest it ends in. -/
inductive LifecycleChain (stored : ModelDump → Prop) (tradeId : String) : List TradeEventRow → TradeState → String → Prop
  | created {trade payload column} (hid : trade.tradeId = tradeId) (hstored : stored payload)
    (hcolumn : Jsonb.jsonbIn (dumps (createdPayload trade payload.value)) = some column) :
    LifecycleChain stored tradeId [createdEvent trade payload.value column] .received (createdSha trade payload.value)
  | moved {journal state head request progress column sha} (chain : LifecycleChain stored tradeId journal state head)
    (hallowed : request.target ∈ allowedTransitions state) (hstored : stored request.eventPayload)
    (hcolumn : Jsonb.jsonbIn (dumps (TradeRow.payloadOf request progress)) = some column)
    (hsha : sha = eventSha tradeId (some state.value) request.target.value request.eventType
      (TradeRow.payloadOf request progress) (some head)) :
    LifecycleChain stored tradeId
      (⟨tradeId, some state.value, request.target.value, request.eventType, column, some head, sha⟩ :: journal)
      request.target sha

variable {stored : ModelDump → Prop} {tradeId head : String} {journal : List TradeEventRow} {state : TradeState}

theorem LifecycleChain.head_eq (h : LifecycleChain stored tradeId journal state head) :
    journal.head?.map (·.eventSha256) = some head ∧ journal.head?.map (·.toState) = some state.value := by
  cases h with
  | created => exact ⟨rfl, rfl⟩
  | moved => exact ⟨rfl, rfl⟩

end Chains

section Rows

structure TradeRow.Sound (stored : ModelDump → Prop) (journal : List TradeEventRow) (r : TradeRow) : Prop where
  chain : LifecycleChain stored r.tradeId journal r.state r.journalHeadSha256
  length : journal.length = r.stateVersion + 1
  nonneg : 0 ≤ r.filledQuantity.scaled
  within : r.filledQuantity.scaled ≤ r.quantity.scaled
  filled : 0 < r.filledQuantity.scaled ↔ r.firstFillAt.isSome = true
  timeoutAt : r.timeoutAt = r.firstFillAt.map fun t => t + 1000 * r.maxHoldingMs
  cancelled : r.state = .cancelled → r.filledQuantity.scaled = 0
  exposed : r.state ∈ exposedStates → 0 < r.filledQuantity.scaled
  named : ∀ name, r.identifiers name ≠ some ""
  readable : r.Readable

/-- What no later write of the trade undoes. -/
structure TradeRow.Follows (r r' : TradeRow) : Prop where
  identity : r'.toTradeIdentity = r.toTradeIdentity
  decision : r'.riskDecisionSha256 = r.riskDecisionSha256 ∧ r'.riskDecisionPayload = r.riskDecisionPayload
  filled : r.filledQuantity.scaled ≤ r'.filledQuantity.scaled
  firstFillAt : ∀ t ∈ r.firstFillAt, r'.firstFillAt = some t
  identifiers : ∀ name, ∀ value ∈ r.identifiers name, r'.identifiers name = some value
  version : r.stateVersion ≤ r'.stateVersion
  sequence : r.nextExecutionEventSeq ≤ r'.nextExecutionEventSeq
  terminal : r.state ∈ terminalTradeStates → r'.state = r.state ∧ r'.stateVersion = r.stateVersion

variable {stored : ModelDump → Prop} {journal : List TradeEventRow} {r r' r'' : TradeRow}

theorem TradeRow.Follows.refl (r : TradeRow) : r.Follows r :=
  ⟨rfl, ⟨rfl, rfl⟩, le_rfl, fun _ h => h, fun _ _ h => h, le_rfl, le_rfl, fun _ => ⟨rfl, rfl⟩⟩

theorem TradeRow.Follows.trans (h : r.Follows r') (h' : r'.Follows r'') : r.Follows r'' where
  identity := h'.identity.trans h.identity
  decision := ⟨h'.decision.1.trans h.decision.1, h'.decision.2.trans h.decision.2⟩
  filled := h.filled.trans h'.filled
  firstFillAt t ht := h'.firstFillAt t (h.firstFillAt t ht)
  identifiers name value hvalue := h'.identifiers name value (h.identifiers name value hvalue)
  version := h.version.trans h'.version
  sequence := h.sequence.trans h'.sequence
  terminal hstate := by
    obtain ⟨hsame, hversion⟩ := h.terminal hstate
    have hlater := h'.terminal (hsame.symm ▸ hstate)
    exact ⟨hlater.1.trans hsame, hlater.2.trans hversion⟩

theorem TradeRow.Follows.tradeId (h : r.Follows r') : r'.tradeId = r.tradeId := congrArg TradeIdentity.tradeId h.identity

theorem terminal_left {state target : TradeState} (h : target ∈ allowedTransitions state) : state ∉ terminalTradeStates := by
  intro hterminal
  cases state <;> simp [terminalTradeStates, allowedTransitions] at h hterminal

section Move

variable {request : TransitionRequest} {progress : TradeProgress}

theorem TradeRow.Progresses.identifiers (h : r.Progresses request progress) (name : IdentifierName) :
    (progress.identifiers name).or (r.identifiers name) ≠ some "" ∨ r.identifiers name = some "" := by
  by_cases hempty : r.identifiers name = some ""
  · exact Or.inr hempty
  · apply Or.inl
    cases hmerged : progress.identifiers name with
    | none => rwa [Option.none_or]
    | some value =>
      rw [Option.some_or, ← hmerged]
      exact mergeIdentifiers_nonempty h.merged name

theorem TradeRow.Sound.advanced (hr : r.Sound stored journal) (h : r.Progresses request progress) {column : JsonColumn}
    (hstored : stored request.eventPayload)
    (hcolumn : Jsonb.jsonbIn (dumps (TradeRow.payloadOf request progress)) = some column) :
    (r.advanced request progress).Sound stored (r.eventOf request progress column :: journal) where
  chain := hr.chain.moved h.allowed hstored hcolumn rfl
  length := by
    rw [List.length_cons, hr.length]
    rfl
  nonneg := h.nonneg
  within := h.within
  filled := h.filled
  timeoutAt := h.timeoutAt
  cancelled := h.cancelled
  exposed := h.exposed
  named name := (h.identifiers name).resolve_right (hr.named name)
  readable := hr.readable

theorem TradeRow.Sound.follows (hr : r.Sound stored journal) (h : r.Progresses request progress) :
    r.Follows (r.advanced request progress) where
  identity := rfl
  decision := ⟨rfl, rfl⟩
  filled := h.monotonic
  firstFillAt := h.firstFillAt
  identifiers name value hvalue := by
    have hne : value ≠ "" := by
      rintro rfl
      exact hr.named name hvalue
    have hkept := mergeIdentifiers_keeps h.merged name hvalue hne
    change (progress.identifiers name).or (r.identifiers name) = some value
    rw [hkept, Option.some_or]
  version := Nat.le_succ _
  sequence := le_rfl
  terminal hstate := absurd hstate (terminal_left h.allowed)

end Move

theorem newTradeRow_sound {trade : TradeIdentity} {payload : ModelDump} {column eventColumn : JsonColumn}
    (hchecks : trade.Checks) (hstored : stored payload)
    (hevent : Jsonb.jsonbIn (dumps (createdPayload trade payload.value)) = some eventColumn)
    (hreadable : (newTradeRow trade (digest payload.value) column (createdSha trade payload.value)).Readable) :
    (newTradeRow trade (digest payload.value) column (createdSha trade payload.value)).Sound stored
      [createdEvent trade payload.value eventColumn] where
  chain := .created rfl hstored hevent
  length := rfl
  nonneg := le_rfl
  within := hchecks.2.2.2.1.le
  filled := by
    constructor
    · exact fun h => absurd h (lt_irrefl _)
    · intro h
      cases h
  timeoutAt := rfl
  cancelled _ := rfl
  exposed h := by
    have hno : TradeState.received ∉ exposedStates := by decide
    exact absurd h hno
  named _ h := by cases h
  readable := hreadable

end Rows

section Tables

structure TradeTables.Sound (stored : ModelDump → Prop) (t : TradeTables) : Prop where
  ids : (t.trades.map (·.tradeId)).Nodup
  rows : ∀ r ∈ t.trades, r.Sound stored (t.journal r.tradeId)
  known : ∀ e ∈ t.events, ∃ r ∈ t.trades, r.tradeId = e.tradeId

/-- Every trade is still there, further on, with the journal it had. -/
def TradeTables.Follows (t t' : TradeTables) : Prop :=
  ∀ r ∈ t.trades, ∃ r' ∈ t'.trades, r.Follows r' ∧ t.journal r.tradeId <:+ t'.journal r.tradeId

variable {contracts : ExecutionContracts} {legacy : Prop} {stored : ModelDump → Prop} {t t' t'' : TradeTables} {row : TradeRow}

theorem TradeTables.Follows.refl (t : TradeTables) : t.Follows t :=
  fun r hr => ⟨r, hr, .refl r, List.suffix_refl _⟩

theorem TradeTables.Follows.trans (h : t.Follows t') (h' : t'.Follows t'') : t.Follows t'' := by
  intro r hr
  obtain ⟨r', hr', hfollows, hjournal⟩ := h r hr
  obtain ⟨r'', hr'', hfollows', hjournal'⟩ := h' r' hr'
  rw [hfollows.tradeId] at hjournal'
  exact ⟨r'', hr'', hfollows.trans hfollows', hjournal.trans hjournal'⟩

theorem TradeTables.Initial.sound (h : t.Initial) : t.Sound stored where
  ids := by simp [h.trades]
  rows := by simp [h.trades]
  known := by simp [h.events]

theorem TradeTables.Sound.trade (h : t.Sound stored) {r : TradeRow} (hr : r ∈ t.trades) : t.trade r.tradeId = some r :=
  KeyedRows.find?_eq h.ids hr

theorem mem_update_cases {r : TradeRow} (h : r ∈ (t.update row).trades) :
    r = row ∨ r ∈ t.trades ∧ r.tradeId ≠ row.tradeId := KeyedRows.mem_replace h

theorem ids_update : (t.update row).trades.map (·.tradeId) = t.trades.map (·.tradeId) := KeyedRows.replace_keys

theorem mem_ids {tradeId : String} : tradeId ∈ t.trades.map (·.tradeId) ↔ ∃ r ∈ t.trades, r.tradeId = tradeId := List.mem_map

/-- A write of the row of a trade, and of its journal, keeps what the other trades have. -/
theorem TradeTables.Sound.write (h : t.Sound stored) {current : TradeRow} (row : TradeRow) (events : List TradeEventRow)
    (hcurrent : t.trade row.tradeId = some current) (hevents : ∀ e ∈ events, e.tradeId = row.tradeId)
    (hsound : row.Sound stored (events ++ t.journal row.tradeId)) (ht : t'.trades = (t.update row).trades)
    (he : t'.events = events ++ t.events) : t'.Sound stored := by
  have hjournal : ∀ tradeId, t'.journal tradeId = events.filter (·.tradeId = tradeId) ++ t.journal tradeId := by
    intro tradeId
    rw [TradeTables.journal, he, List.filter_append]
    rfl
  have hown : events.filter (·.tradeId = row.tradeId) = events :=
    List.filter_eq_self.mpr fun e he => decide_eq_true (hevents e he)
  refine ⟨?_, ?_, ?_⟩
  · rw [ht, ids_update]
    exact h.ids
  · intro r hr
    rw [ht] at hr
    rcases mem_update_cases hr with rfl | ⟨hr, hne⟩
    · rw [hjournal, hown]
      exact hsound
    · have hother : events.filter (·.tradeId = r.tradeId) = [] := by
        apply List.filter_eq_nil_iff.mpr
        intro e he heq
        exact hne ((of_decide_eq_true heq).symm.trans (hevents e he))
      rw [hjournal, hother, List.nil_append]
      exact h.rows r hr
  · intro e hmem
    apply mem_ids.mp
    rw [ht, ids_update]
    apply mem_ids.mpr
    rw [he] at hmem
    rcases List.mem_append.mp hmem with hmem | hmem
    · rw [hevents e hmem]
      exact ⟨current, trade_mem hcurrent⟩
    · exact h.known e hmem

theorem TradeTables.Sound.writeFollows (h : t.Sound stored) {current : TradeRow} (row : TradeRow)
    (hcurrent : t.trade row.tradeId = some current) (hfollows : current.Follows row) (ht : t'.trades = (t.update row).trades)
    (hevents : ∀ tradeId, t.journal tradeId <:+ t'.journal tradeId) : t.Follows t' := by
  intro r hr
  by_cases hid : r.tradeId = row.tradeId
  · obtain rfl : r = current := by
      have hsame := h.trade hr
      rw [hid, hcurrent] at hsame
      exact (Option.some.inj hsame).symm
    refine ⟨row, ?_, hfollows, hevents _⟩
    rw [ht]
    exact (trade_mem (trade_update hcurrent)).1
  · refine ⟨r, ?_, .refl r, hevents _⟩
    rw [ht]
    exact KeyedRows.mem_replace_of_ne hr hid

theorem journal_suffix (events : List TradeEventRow) (he : t'.events = events ++ t.events) (tradeId : String) :
    t.journal tradeId <:+ t'.journal tradeId := by
  rw [TradeTables.journal, TradeTables.journal, he, List.filter_append]
  exact List.suffix_append _ _

/-- The row with other values of the columns that are not of its lifecycle. -/
def TradeRow.touched (r : TradeRow) (lastReconciledAt : Option Timestamp) (reconciliationDetail : Option String)
    (nextExecutionEventSeq : ℕ) : TradeRow :=
  { r with
    lastReconciledAt := lastReconciledAt
    reconciliationDetail := reconciliationDetail
    nextExecutionEventSeq := nextExecutionEventSeq }

section Touch

variable {r : TradeRow} (lastReconciledAt : Option Timestamp) (reconciliationDetail : Option String)
  {nextExecutionEventSeq : ℕ}

theorem TradeRow.Sound.touched {journal : List TradeEventRow} (h : r.Sound stored journal) :
    (r.touched lastReconciledAt reconciliationDetail nextExecutionEventSeq).Sound stored journal :=
  ⟨h.chain, h.length, h.nonneg, h.within, h.filled, h.timeoutAt, h.cancelled, h.exposed, h.named, h.readable⟩

theorem follows_touched (hsequence : r.nextExecutionEventSeq ≤ nextExecutionEventSeq) :
    r.Follows (r.touched lastReconciledAt reconciliationDetail nextExecutionEventSeq) :=
  ⟨rfl, ⟨rfl, rfl⟩, le_rfl, fun _ h => h, fun _ _ h => h, le_rfl, hsequence, fun _ => ⟨rfl, rfl⟩⟩

end Touch

/-- A write that leaves the journals alone. -/
theorem TradeTables.Sound.touch (h : t.Sound stored) {r : TradeRow} (hr : t.trade r.tradeId = some r)
    (lastReconciledAt : Option Timestamp) (reconciliationDetail : Option String) {nextExecutionEventSeq : ℕ}
    (hsequence : r.nextExecutionEventSeq ≤ nextExecutionEventSeq)
    (ht : t'.trades = (t.update (r.touched lastReconciledAt reconciliationDetail nextExecutionEventSeq)).trades)
    (he : t'.events = t.events) : t'.Sound stored ∧ t.Follows t' := by
  have hsound : (r.touched lastReconciledAt reconciliationDetail nextExecutionEventSeq).Sound stored (t.journal r.tradeId) :=
    (h.rows r (trade_mem hr).1).touched lastReconciledAt reconciliationDetail
  have hfollows := follows_touched lastReconciledAt reconciliationDetail hsequence
  have happend : t'.events = [] ++ t.events := he
  refine ⟨h.write (r.touched lastReconciledAt reconciliationDetail nextExecutionEventSeq) [] hr (by simp) hsound ht happend,
    h.writeFollows (r.touched lastReconciledAt reconciliationDetail nextExecutionEventSeq) hr hfollows ht ?_⟩
  exact journal_suffix [] happend

theorem TradeTables.Sound.create (h : t.Sound stored) {trade : TradeIdentity} {payload : ModelDump} (hstored : stored payload)
    (hcreates : Creates trade payload t t' row) : t'.Sound stored ∧ t.Follows t' := by
  cases hcreates with
  | existing => exact ⟨h, .refl t⟩
  | @inserted column eventColumn habsent hinsertable hcolumn hevent hfresh hreadable =>
    have hnew : ∀ r ∈ t.trades, r.tradeId ≠ trade.tradeId := KeyedRows.find?_eq_none_iff.mp habsent
    have hnone : t.journal trade.tradeId = [] := by
      apply List.filter_eq_nil_iff.mpr
      intro e he heq
      obtain ⟨r, hr, hid⟩ := h.known e he
      exact hnew r hr (hid.trans (of_decide_eq_true heq))
    refine ⟨⟨?_, ?_, ?_⟩, ?_⟩
    · exact KeyedRows.nodup_cons h.ids hnew
    · intro r hr
      rcases List.mem_cons.mp hr with rfl | hr
      · have hown : (createdEvent trade payload.value eventColumn :: t.events).filter (·.tradeId = trade.tradeId) =
            [createdEvent trade payload.value eventColumn] := by
          rw [List.filter_cons_of_pos (by simp [createdEvent])]
          exact congrArg _ hnone
        change TradeRow.Sound stored (List.filter _ _) _
        rw [show (newTradeRow trade (digest payload.value) column (createdSha trade payload.value)).tradeId = trade.tradeId
          from rfl, hown]
        exact newTradeRow_sound hinsertable.1 hstored hevent hreadable
      · have hother : (createdEvent trade payload.value eventColumn :: t.events).filter (·.tradeId = r.tradeId) =
            t.journal r.tradeId := by
          apply List.filter_cons_of_neg
          simpa using fun heq => hnew r hr heq.symm
        change TradeRow.Sound stored (List.filter _ _) _
        rw [hother]
        exact h.rows r hr
    · intro e he
      rcases List.mem_cons.mp he with rfl | he
      · exact ⟨_, List.mem_cons_self, rfl⟩
      · obtain ⟨r, hr, hid⟩ := h.known e he
        exact ⟨r, List.mem_cons_of_mem _ hr, hid⟩
    · intro r hr
      exact ⟨r, List.mem_cons_of_mem _ hr, .refl r, journal_suffix [_] rfl _⟩

/-- Every write keeps the invariant, and only takes the trades further. -/
theorem TradeWrite.keeps (h : t.Sound stored) (hwrite : TradeWrite legacy stored t t') : t'.Sound stored ∧ t.Follows t' := by
  cases hwrite with
  | created hstored hcreates => exact h.create hstored hcreates
  | @moved row request progress column _ hstored hrow hmoves =>
    have hsound := h.rows row (trade_mem hrow).1
    have ht := hmoves.tables
    refine ⟨h.write (row.advanced request progress) [row.eventOf request progress column] hrow ?_ ?_ ?_ ?_,
      h.writeFollows (row.advanced request progress) hrow (hsound.follows hmoves.progresses) ?_ ?_⟩
    · simp [TradeRow.eventOf, TradeRow.advanced]
    · exact hsound.advanced hmoves.progresses hstored hmoves.stored
    · rw [ht]
    · rw [ht]
      rfl
    · rw [ht]
    · exact journal_suffix [row.eventOf request progress column] (by rw [ht]; rfl)
  | @published trade factKey event column now _ hpublishes =>
    obtain ⟨artifacts, -, ht⟩ := hpublishes.tables
    exact h.touch hpublishes.current trade.lastReconciledAt trade.reconciliationDetail (Nat.le_succ _) (by rw [ht]; rfl)
      (by rw [ht]; rfl)
  | republished => exact ⟨⟨h.ids, h.rows, h.known⟩, .refl t⟩
  | @reconciled row now detail hrow => exact h.touch hrow (some now) (some detail) le_rfl rfl rfl
  | @reserved row _ hrow => exact h.touch hrow row.lastReconciledAt row.reconciliationDetail (Nat.le_succ _) rfl rfl

theorem TradeTables.Sound.step (h : t.Sound stored) (hstep : TradeStep contracts legacy stored t t') : t'.Sound stored :=
  hstep.invariant (fun _ _ hs hwrite => (TradeWrite.keeps hs hwrite).1) h

theorem TradeTables.Sound.stepFollows (h : t.Sound stored) (hstep : TradeStep contracts legacy stored t t') : t.Follows t' := by
  cases hstep with
  | call now call hwithin =>
    exact @Runs.run_related _ (TradeTables.Sound stored) _ _ _ _ TradeTables.Follows.refl (fun _ _ _ => .trans)
      (fun _ _ hs hwrite => (TradeWrite.keeps hs hwrite).1) (fun _ _ hs hwrite => (TradeWrite.keeps hs hwrite).2)
      (call.writes hwithin) h

theorem TradeTables.Reachable.sound (h : t.Reachable contracts legacy stored) : t.Sound stored :=
  Runs.Reachable.invariant h (fun _ => TradeTables.Initial.sound) fun _ _ => TradeTables.Sound.step

end Tables

section Raises

variable {contracts : ExecutionContracts} {stored : ModelDump → Prop} {t : TradeTables} {now : Timestamp} {e : TradeError}

theorem committed_error {α : Type} {body : TradeTables → Except TradeError (TradeTables × α)}
    (h : (committed body t).2 = .error e) : (committed body t).1 = t := by
  change (Transactions.run body t).1 = t
  apply @Transactions.run_error _ _ _ body t e
  change (Transactions.run body t).2.map _ = _ at h
  cases hrun : (Transactions.run body t).2 with
  | error e' =>
    rw [hrun] at h
    exact congrArg _ (Except.error.inj h)
  | ok a =>
    rw [hrun] at h
    cases h

theorem markReconciled_error {tradeId detail : String} (ht : t.Sound stored)
    (h : (markReconciled now tradeId detail t).2.map (fun _ => ()) = .error e) :
    (markReconciled now tradeId detail t).1 = t := by
  unfold markReconciled at h ⊢
  split
  · rfl
  · rename_i row hchecks
    exfalso
    obtain ⟨_, -, hfound⟩ := bind_ok hchecks
    obtain ⟨_, -, hfound⟩ := bind_ok hfound
    obtain ⟨_, -, hfound⟩ := bind_ok hfound
    have hreadable := (ht.rows row (trade_mem (found_ok hfound)).1).readable
    obtain ⟨r, hrecord, -⟩ := @TradeRow.Readable.record
      { row with lastReconciledAt := some now, reconciliationDetail := some (sliceTo 4000 detail) } hreadable
    rw [hchecks] at h
    dsimp only at h
    rw [hrecord] at h
    cases h

/-- A call that raises leaves the tables as they were. -/
theorem TradeCall.raises (ht : t.Sound stored) (call : TradeCall) (h : (call.run contracts now t).2 = .error e) :
    (call.run contracts now t).1 = t := by
  cases call with
  | create => exact committed_error h
  | createWithExecutionEvent => exact committed_error h
  | transition => exact committed_error h
  | transitionWithExecutionEvent => exact committed_error h
  | appendExecutionEvent => exact committed_error h
  | markReconciled tradeId detail =>
    dsimp only [TradeCall.run] at h ⊢
    exact markReconciled_error ht h
  | nextEventSequence => exact committed_error h

end Raises

section Example

def exampleAmount (units : ℕ) : Binary64 := (ShortestDecimal.ofScientific false units 0).getD (Binary64.signedZero false)

def exampleDecision : RiskTradeDecision where
  approved := true
  tradeId := exampleSha 'c'
  decisionId := exampleSha 'b'
  intentId := exampleSha 'a'
  strategyId := "breakout"
  strategyRevision := "r1"
  tradingMode := "PAPER"
  evedexProfile := "DEV"
  accountId := "account"
  symbol := "BTCUSDT"
  venueSymbol := "BTCUSD:DEV"
  intentIsLong := true
  quantity := exampleAmount 1
  leverage := exampleAmount 2
  stopPrice := exampleAmount 90
  targetPrice := exampleAmount 110
  maxHoldingMs := 60000
  entryEligibleTsMs := 1767225600000
  entryExpiresTsMs := 1767225660000

def exampleNewTrade : NewTrade where
  tradeId := exampleSha 'c'
  strategyIntentId := exampleSha 'a'
  riskDecisionId := exampleSha 'b'
  riskDecisionPayload := exampleDump "risk" (.int 1)
  strategyId := "breakout"
  strategyRevision := "r1"
  tradingMode := "PAPER"
  environment := "paper"
  profile := "DEV"
  exchange := "evedex"
  accountId := "account"
  symbol := "BTCUSDT"
  venueSymbol := "BTCUSD:DEV"
  side := "BUY"
  quantity := some (exampleAmount 1)
  leverage := some (exampleAmount 2)
  stopPrice := some (exampleAmount 90)
  targetPrice := some (exampleAmount 110)
  entryEligibleAt := ⟨unixEpoch + 1767225600000000, some 0⟩
  entryExpiresAt := ⟨unixEpoch + 1767225660000000, some 0⟩
  maxHoldingMs := 60000
  entryClientOrderId := "entry-1"

def exampleIdentity : TradeIdentity where
  tradeId := exampleSha 'c'
  strategyIntentId := exampleSha 'a'
  riskDecisionId := exampleSha 'b'
  strategyId := "breakout"
  strategyRevision := "r1"
  tradingMode := "PAPER"
  environment := "paper"
  profile := "DEV"
  exchange := "evedex"
  accountId := "account"
  symbol := "BTCUSDT"
  venueSymbol := "BTCUSD:DEV"
  side := "BUY"
  quantity := exampleAmount 1
  leverage := exampleAmount 2
  stopPrice := exampleAmount 90
  targetPrice := exampleAmount 110
  entryEligibleAt := unixEpoch + 1767225600000000
  entryExpiresAt := unixEpoch + 1767225660000000
  maxHoldingMs := 60000
  entryClientOrderId := "entry-1"

/-- The contracts, as far as the example payloads go. -/
def exampleExecutionContracts : ExecutionContracts where
  riskDecision := fun
    | .obj (("message_id", .str "risk") :: _) => some exampleDecision
    | _ => none
  executionEvent _ := none

theorem exampleNewTrade_valid : exampleNewTrade.validate exampleExecutionContracts.riskDecision = .ok exampleIdentity := by
  decide +kernel

theorem Creates.tradeId {trade : TradeIdentity} {payload : ModelDump} {t t' : TradeTables} {row : TradeRow}
    (h : Creates trade payload t t' row) : row.tradeId = trade.tradeId := by
  cases h with
  | existing hrow => exact (trade_mem hrow).2
  | inserted => rfl

theorem createLocked_new {trade : TradeIdentity} {payload : ModelDump} {t : TradeTables} (habsent : t.trade trade.tradeId = none)
    (hinsertable : t.Insertable trade) (hnul : payload.value.everyString Jsonb.nulFree) (hreloads : Reloads payload.value)
    (hcreated : (createdPayload trade payload.value).everyString Jsonb.nulFree)
    (hfresh : ∀ e ∈ t.events, e.eventSha256 ≠ createdSha trade payload.value) :
    ∃ t' r, createLocked trade payload t = .ok (t', r) := by
  obtain ⟨column, hcolumn⟩ : ∃ column, Jsonb.jsonbIn (dumps payload.value) = some column := ⟨_, Jsonb.jsonbIn_dumps hnul⟩
  obtain ⟨eventColumn, hevent⟩ : ∃ column, Jsonb.jsonbIn (dumps (createdPayload trade payload.value)) = some column :=
    ⟨_, Jsonb.jsonbIn_dumps hcreated⟩
  obtain ⟨reread, hread, hdumps⟩ := hreloads column hcolumn
  obtain ⟨fields, rfl⟩ := eq_obj_of_dumps hdumps
  have hobject : objectOf column = .ok (.obj fields) := by
    rw [objectOf, hread]
  have hdigest : digest (.obj fields) = digest payload.value := by
    simp only [digest, canonicalPayload, hdumps]
  have hreadable : (newTradeRow trade (digest payload.value) column (createdSha trade payload.value)).Readable :=
    ⟨_, hobject, hdigest⟩
  obtain ⟨r, hrecord, -⟩ := hreadable.record
  have hfree : Jsonb.nulFree "CREATED" = true := by decide
  have happend : TradeTables.appendEvent
      { t with trades := newTradeRow trade (digest payload.value) column (createdSha trade payload.value) :: t.trades }
      (createdEvent trade payload.value eventColumn) = .ok
      { t with
        trades := newTradeRow trade (digest payload.value) column (createdSha trade payload.value) :: t.trades
        events := createdEvent trade payload.value eventColumn :: t.events } := by
    rw [TradeTables.appendEvent, Transactions.require_pos ⟨hfree, hfresh⟩]
    rfl
  unfold createLocked
  rw [habsent]
  dsimp only
  rw [hcolumn, Transactions.found_some, Transactions.ok_bind, Transactions.require_pos hinsertable, Transactions.ok_bind, hevent,
    Transactions.found_some, Transactions.ok_bind, happend, Transactions.ok_bind, hrecord]
  exact ⟨_, _, rfl⟩

/-- No trade yet. -/
def TradeTables.empty : TradeTables := ⟨[], [], [], ⟨[], Outbox.empty⟩⟩

theorem TradeTables.empty_initial : TradeTables.empty.Initial := ⟨rfl, rfl, rfl, fun _ => rfl⟩

section Run

variable {contracts : ExecutionContracts} {legacy : Prop} {stored : ModelDump → Prop}

/-- The tables that a call leaves. -/
def TradeCall.after (contracts : ExecutionContracts) (now : Timestamp) (call : TradeCall) (t : TradeTables) : TradeTables :=
  (call.run contracts now t).1

theorem TradeCall.after_step {now : Timestamp} {call : TradeCall} {t : TradeTables} (h : call.Within legacy stored) :
    TradeStep contracts legacy stored t (call.after contracts now t) := .call now call h

theorem TradeCall.after_create {now : Timestamp} {trade : NewTrade} {t t' : TradeTables} {row : TradeRow}
    (h : TradeLifecycle.create contracts trade t = .ok (t', row)) : (TradeCall.create trade).after contracts now t = t' := by
  rw [TradeCall.after, TradeCall.run, committed, Transactions.run_ok h]

/-- The trade is created. -/
def exampleCreated : TradeTables := (TradeCall.create exampleNewTrade).after exampleExecutionContracts 0 .empty

/-- It is reconciled then. -/
def exampleTrades : TradeTables :=
  (TradeCall.markReconciled (exampleSha 'c') "checked").after exampleExecutionContracts 1 exampleCreated

theorem exampleCreated_step (h : stored exampleNewTrade.riskDecisionPayload) :
    TradeStep exampleExecutionContracts legacy stored .empty exampleCreated :=
  @TradeCall.after_step exampleExecutionContracts legacy stored 0 (.create exampleNewTrade) .empty h

theorem exampleTrades_step : TradeStep exampleExecutionContracts legacy stored exampleCreated exampleTrades :=
  @TradeCall.after_step exampleExecutionContracts legacy stored 1 (.markReconciled (exampleSha 'c') "checked") exampleCreated
    trivial

end Run

theorem nulFree_exampleSha {c : Char} (h : c ≠ Char.ofNat 0) : Jsonb.nulFree (exampleSha c) = true := by
  apply nulFree_ofList
  intro hmem
  exact h (List.eq_of_mem_replicate hmem).symm

theorem exampleCreatedPayload_nulFree :
    (createdPayload exampleIdentity exampleNewTrade.riskDecisionPayload.value).everyString Jsonb.nulFree := by
  have hid := @nulFree_exampleSha 'c' (by decide)
  have hintent := @nulFree_exampleSha 'a' (by decide)
  have hrisk := @nulFree_exampleSha 'b' (by decide)
  simp [createdPayload, newTradePayload, exampleIdentity, exampleNewTrade, exampleDump, ModelDump.value, Json.everyString,
    Json.everyStringFields, nulFree_hex, nulFree_isoformat, hid, hintent, hrisk]
  decide +kernel

theorem exampleIdentity_insertable : TradeTables.empty.Insertable exampleIdentity := by
  decide +kernel

theorem exampleCreated_trade : ∃ r ∈ exampleCreated.trades, r.tradeId = exampleIdentity.tradeId := by
  have hnul : Jsonb.nulFree "risk" = true := by decide
  obtain ⟨t, r, hcreate⟩ := @createLocked_new exampleIdentity exampleNewTrade.riskDecisionPayload .empty rfl
    exampleIdentity_insertable (exampleDump_nulFree hnul _) (exampleDump_reloads hnul 1) exampleCreatedPayload_nulFree
    (by simp [TradeTables.empty])
  have hbody : create exampleExecutionContracts exampleNewTrade .empty = .ok (t, r.row) := by
    rw [create, exampleNewTrade_valid, Transactions.ok_bind, hcreate]
    rfl
  have hrun : exampleCreated = t := TradeCall.after_create hbody
  have hcreates := createLocked_ok hcreate
  rw [hrun]
  exact ⟨r.row, (trade_mem hcreates.current).1, hcreates.tradeId⟩

end Example

section Results

variable {contracts : ExecutionContracts} {s t : TradeTables}

/-- Whatever the calls and their order, each trade has a journal that leads to its row, and a row whose columns agree. -/
theorem trade_lifecycle (hs : s.Initial) (hrun : ReflTransGen (TradeStep contracts True fun _ => True) s t) :
    t.Sound fun _ => True :=
  @TradeTables.Reachable.sound contracts True (fun _ => True) t ⟨s, hs, hrun⟩

theorem trade_lifecycle_example :
    (∃ r ∈ exampleCreated.trades, r.tradeId = exampleIdentity.tradeId) ∧ exampleTrades.Sound fun _ => True := by
  refine ⟨exampleCreated_trade, ?_⟩
  exact trade_lifecycle TradeTables.empty_initial (.tail (.single (exampleCreated_step trivial)) exampleTrades_step)

/-- From a reachable state on, a run only takes the trades further, and a call that raises changes nothing. -/
theorem trades_advance (hs : s.Reachable contracts True fun _ => True) :
    (∀ t, ReflTransGen (TradeStep contracts True fun _ => True) s t → s.Follows t) ∧
      ∀ now (call : TradeCall) e, (call.run contracts now s).2 = .error e → (call.run contracts now s).1 = s := by
  refine ⟨fun t hrun => ?_, fun now call e h => call.raises hs.sound h⟩
  exact @Runs.run_related _ (TradeTables.Sound fun _ => True) _ _ _ _ TradeTables.Follows.refl (fun _ _ _ => .trans)
    (fun _ _ => TradeTables.Sound.step) (fun _ _ => TradeTables.Sound.stepFollows) hrun hs.sound

theorem trades_advance_example : ∃ r ∈ exampleCreated.trades, ∃ r' ∈ exampleTrades.trades, r.Follows r' := by
  have hs : exampleCreated.Reachable exampleExecutionContracts True fun _ => True :=
    ⟨.empty, TradeTables.empty_initial, .single (exampleCreated_step trivial)⟩
  obtain ⟨r, hr, -⟩ := exampleCreated_trade
  obtain ⟨r', hr', hfollows, -⟩ := (trades_advance hs).1 exampleTrades (.single exampleTrades_step) r hr
  exact ⟨r, hr, r', hr', hfollows⟩

end Results

end KairosPersistence.TradeLifecycle
