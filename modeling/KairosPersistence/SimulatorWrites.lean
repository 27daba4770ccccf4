import KairosPersistence.KeyedRows
import KairosPersistence.SimulatorCommands

/-!
What the operations of the simulator journal write: each transaction is a
sequence of the writes below, or leaves the tables as they were.
-/

namespace KairosPersistence

open PythonJson PythonText
open Transactions (require found require_ok found_ok bind_ok)

/-- An event fits the materialised state of its trade. -/
structure NextEvent (trade : SimTradeRow) (event : SimulationTradeEvent) : Prop where
  sessionId : event.sessionId = trade.sessionId
  eventSeq : event.eventSeq = trade.nextEventSeq
  previousEventSha256 : event.previousEventSha256 = trade.journalHeadSha256
  fromState : if event.eventSeq = 1 then event.fromState = none ∧ event.toState = trade.state
    else event.fromState = some trade.state

/-- The receipt that an event names is that of its command. -/
def EventReceipt (s : SimJournal) (event : SimulationTradeEvent) : Prop :=
  ∀ receiptId ∈ event.receiptId, ∃ receipt ∈ s.receipts, receipt.receiptId = receiptId ∧
    event.commandId = some receipt.commandId

/-- The row is the one that an event leaves. -/
structure SimTradeEventRow.Of (row : SimTradeEventRow) (event : SimulationTradeEvent) : Prop where
  identity : event.eventId = some row.eventId
  column : Jsonb.jsonbIn (dumps event.payload.value) = some row.payload
  inserted : row = eventRow row.eventId event row.payload

/-- The row of an event, and how it comes next in the journal of its trade. -/
structure Appends (s : SimJournal) (event : SimulationTradeEvent) (trade : SimTradeRow) (row : SimTradeEventRow) :
    Prop where
  current : s.trade event.tradeId = some trade
  next : NextEvent trade event
  receipt : EventReceipt s event
  stored : row.Of event
  accepted : row.Accepted s

/-- The journal after the next event of a trade. -/
def SimJournal.append (s : SimJournal) (trade : SimTradeRow) (row : SimTradeEventRow) (artifacts : Artifacts) :
    SimJournal :=
  { s with
    trades := s.trades.map fun r =>
      if r.tradeId = row.tradeId ∧ r.stateVersion = trade.stateVersion then r.advance row.eventId row.toState else r
    events := row :: s.events
    artifacts := artifacts }

/-- The journal when a command gets its receipt. -/
def SimJournal.insertReceipt (s : SimJournal) (receipt : SimCommandReceiptRow) (liquidity : SimLiquidityRow) :
    SimJournal :=
  { s with receipts := receipt :: s.receipts, liquidity := upsertLiquidity liquidity s.liquidity }

/-- The journal when a command is completed. -/
def SimJournal.markCompleted (s : SimJournal) (commandId : String) (now : Timestamp) (artifacts : Artifacts) :
    SimJournal :=
  { s with
    commands := s.commands.map fun r =>
      if r.commandId = commandId ∧ r.status = .prepared then r.complete now else r
    artifacts := artifacts }

/-- The journal when a session is sealed. -/
def SimJournal.sealSession (s : SimJournal) (row : SimSessionReceiptRow) (artifacts : Artifacts) : SimJournal :=
  { s with
    sessions := s.sessions.map fun r =>
      if r.sessionId = row.sessionId then { r with state := row.receiptState.sessionState } else r
    sessionReceipts := row :: s.sessionReceipts
    artifacts := artifacts }

/-- The stored row is that of an event that is delivered again. -/
structure Redelivered (row : SimTradeEventRow) (event : SimulationTradeEvent) : Prop where
  eventId : event.eventId = some row.eventId
  tradeId : row.tradeId = event.tradeId
  payload : assertPayloadIdentity row.payload row.payloadSha256 (digest event.payload.value) "simulation trade event" =
    .ok ()

section Operations

variable {env : SimulatorEnvironment} {contracts : SimulatorContracts} {s t : SimJournal} {created : Bool}

theorem mem_of_find? {α : Type} {p : α → Bool} {l : List α} {a : α} (h : l.find? p = some a) : a ∈ l ∧ p a = true :=
  ⟨List.mem_of_find?_eq_some h, List.find?_some h⟩

theorem checkNextEvent_ok {trade : SimTradeRow} {event : SimulationTradeEvent} {u : Unit}
    (h : checkNextEvent trade event = .ok u) : NextEvent trade event := by
  unfold checkNextEvent at h
  obtain ⟨_, hlineage, h⟩ := bind_ok h
  obtain ⟨_, -, h⟩ := bind_ok h
  obtain ⟨_, hseq, h⟩ := bind_ok h
  obtain ⟨_, hprevious, h⟩ := bind_ok h
  refine ⟨(require_ok hlineage).1.symm, require_ok hseq, require_ok hprevious, ?_⟩
  split at h
  · rename_i hfirst
    rw [if_pos hfirst]
    exact require_ok h
  · rename_i hlater
    rw [if_neg hlater]
    exact require_ok h

theorem checkEventReceipt_ok {event : SimulationTradeEvent} {u : Unit} (h : checkEventReceipt event s = .ok u) :
    EventReceipt s event := by
  unfold checkEventReceipt at h
  intro receiptId hreceipt
  split at h
  · rename_i hnone
    rw [hnone] at hreceipt
    cases hreceipt
  · rename_i commandId _ hcommand hsome
    obtain rfl := Option.some.inj (hsome.symm.trans hreceipt)
    obtain ⟨receipt, hmem, hcommandId, -⟩ := require_ok h
    obtain ⟨hreceipts, hid⟩ := mem_of_find? hmem
    exact ⟨receipt, hreceipts, by simpa using hid, by rw [hcommand, hcommandId]⟩
  · cases h

/-- What `_append_trade_event_locked` does. -/
theorem appendTradeEventLocked_ok {event : SimulationTradeEvent}
    (h : appendTradeEventLocked env event s = .ok (t, created)) :
    (created = false ∧ t = s ∧ ∃ row ∈ s.events, Redelivered row event) ∨
      (created = true ∧ ∃ trade row artifacts, Appends s event trade row ∧ t = s.append trade row artifacts) := by
  unfold appendTradeEventLocked at h
  obtain ⟨eventId, heventId, h⟩ := bind_ok h
  have heventId := found_ok heventId
  split at h
  · rename_i existing hexisting
    obtain ⟨_, htrade, h⟩ := bind_ok h
    obtain ⟨_, hidentity, h⟩ := bind_ok h
    obtain ⟨rfl, rfl⟩ := Prod.mk.inj (Except.ok.inj h)
    obtain ⟨hmem, hkey⟩ := KeyedRows.find?_mem hexisting
    exact Or.inl ⟨rfl, rfl, existing, hmem, ⟨hkey ▸ heventId, require_ok htrade, hidentity⟩⟩
  · obtain ⟨trade, htrade, h⟩ := bind_ok h
    obtain ⟨_, hnext, h⟩ := bind_ok h
    obtain ⟨_, hreceipt, h⟩ := bind_ok h
    obtain ⟨_, -, h⟩ := bind_ok h
    obtain ⟨column, hcolumn, h⟩ := bind_ok h
    obtain ⟨_, haccepted, h⟩ := bind_ok h
    obtain ⟨artifacts, -, h⟩ := bind_ok h
    obtain ⟨rfl, rfl⟩ := Prod.mk.inj (Except.ok.inj h)
    exact Or.inr ⟨rfl, trade, eventRow eventId event column, artifacts,
      ⟨found_ok htrade, checkNextEvent_ok hnext, checkEventReceipt_ok hreceipt,
        ⟨heventId, found_ok hcolumn, rfl⟩, require_ok haccepted⟩, rfl⟩

/-- What `create_trade` does. -/
theorem createTrade_ok {trade : SimulationTrade} (h : createTrade env trade s = .ok (t, created)) :
    ∃ lineage, trade.lineage = some lineage ∧
      ((created = false ∧ t = s ∧ (s.trade lineage.tradeId).isSome) ∨
        (created = true ∧ s.trade lineage.tradeId = none ∧ ∃ column artifacts,
          (tradeRow lineage trade column).Accepted s ∧
          t = { s with trades := tradeRow lineage trade column :: s.trades, artifacts := artifacts })) := by
  unfold createTrade at h
  obtain ⟨_, -, h⟩ := bind_ok h
  obtain ⟨lineage, hlineage, h⟩ := bind_ok h
  obtain ⟨admission, -, h⟩ := bind_ok h
  obtain ⟨_, -, h⟩ := bind_ok h
  refine ⟨lineage, found_ok hlineage, ?_⟩
  split at h
  · rename_i existing hexisting
    obtain ⟨_, -, h⟩ := bind_ok h
    obtain ⟨rfl, rfl⟩ := Prod.mk.inj (Except.ok.inj h)
    exact Or.inl ⟨rfl, rfl, by rw [hexisting]; rfl⟩
  · rename_i hnone
    obtain ⟨column, -, h⟩ := bind_ok h
    obtain ⟨_, haccepted, h⟩ := bind_ok h
    obtain ⟨artifacts, -, h⟩ := bind_ok h
    obtain ⟨rfl, rfl⟩ := Prod.mk.inj (Except.ok.inj h)
    exact Or.inr ⟨rfl, hnone, column, artifacts, require_ok haccepted, rfl⟩

/-- What `prepare_command` does. -/
theorem prepareCommand_ok {command : SimulationCommand} {reply : CommandPreparation}
    (h : prepareCommand env contracts command s = .ok (t, reply)) :
    t = s ∨ ∃ commandId lineage column artifacts, (simCommandRow commandId lineage command column).Accepted s ∧
      t = { s with commands := simCommandRow commandId lineage command column :: s.commands, artifacts := artifacts } := by
  unfold prepareCommand at h
  obtain ⟨⟨commandId, lineage⟩, -, h⟩ := bind_ok h
  obtain ⟨_, -, h⟩ := bind_ok h
  split at h
  · obtain ⟨_, -, h⟩ := bind_ok h
    obtain ⟨_, -, h⟩ := bind_ok h
    exact Or.inl (Prod.mk.inj (Except.ok.inj h)).1.symm
  · obtain ⟨column, -, h⟩ := bind_ok h
    obtain ⟨_, haccepted, h⟩ := bind_ok h
    obtain ⟨artifacts, -, h⟩ := bind_ok h
    exact Or.inr ⟨commandId, lineage, column, artifacts, require_ok haccepted,
      (Prod.mk.inj (Except.ok.inj h)).1.symm⟩

/-- What `record_result` does. -/
theorem recordResult_ok {result : SimulationResult} (h : recordResult env result s = .ok (t, created)) :
    t = s ∨ ∃ row trade event artifacts, row.Accepted s ∧ s.trade row.tradeId = some trade ∧
      trade.state = row.finalState ∧ event ∈ s.events ∧ event.tradeId = row.tradeId ∧
      event.eventId = row.terminalEventId ∧ event.toState = row.finalState ∧
      t = { s with results := row :: s.results, artifacts := artifacts } := by
  unfold recordResult at h
  obtain ⟨resultId, -, h⟩ := bind_ok h
  obtain ⟨trade, htrade, h⟩ := bind_ok h
  obtain ⟨_, -, h⟩ := bind_ok h
  obtain ⟨_, hstate, h⟩ := bind_ok h
  obtain ⟨_, hterminal, h⟩ := bind_ok h
  obtain ⟨event, hevent, hto⟩ := require_ok hterminal
  obtain ⟨hmem, hkeys⟩ := mem_of_find? hevent
  obtain ⟨htradeId, heventId⟩ := of_decide_eq_true hkeys
  split at h
  · obtain ⟨_, -, h⟩ := bind_ok h
    exact Or.inl (Prod.mk.inj (Except.ok.inj h)).1.symm
  · obtain ⟨_, -, h⟩ := bind_ok h
    obtain ⟨column, -, h⟩ := bind_ok h
    obtain ⟨_, haccepted, h⟩ := bind_ok h
    obtain ⟨artifacts, -, h⟩ := bind_ok h
    exact Or.inr ⟨resultRow resultId result column, trade, event, artifacts, require_ok haccepted, found_ok htrade,
      require_ok hstate, hmem, htradeId, heventId, hto, (Prod.mk.inj (Except.ok.inj h)).1.symm⟩

/-- What `record_session_receipt` does. -/
theorem recordSessionReceipt_ok {receipt : SimulationSessionReceipt}
    (h : recordSessionReceipt env receipt s = .ok (t, created)) :
    ∃ sessionId, receipt.sessionId = some sessionId ∧ receipt.tradeJournals = s.journalHeads sessionId ∧
      (t = s ∨ ∃ row artifacts, row.Accepted s ∧ row.sessionId = sessionId ∧ t = s.sealSession row artifacts) := by
  unfold recordSessionReceipt at h
  dsimp only at h
  obtain ⟨receiptId, -, h⟩ := bind_ok h
  obtain ⟨sessionId, hsessionId, h⟩ := bind_ok h
  obtain ⟨tapeId, -, h⟩ := bind_ok h
  obtain ⟨tapeSha256, -, h⟩ := bind_ok h
  obtain ⟨session, -, h⟩ := bind_ok h
  obtain ⟨_, -, h⟩ := bind_ok h
  obtain ⟨_, -, h⟩ := bind_ok h
  obtain ⟨_, hheads, h⟩ := bind_ok h
  obtain ⟨_, -, h⟩ := bind_ok h
  refine ⟨sessionId, found_ok hsessionId, require_ok hheads, ?_⟩
  split at h
  · obtain ⟨_, -, h⟩ := bind_ok h
    exact Or.inl (Prod.mk.inj (Except.ok.inj h)).1.symm
  · obtain ⟨_, -, h⟩ := bind_ok h
    obtain ⟨column, -, h⟩ := bind_ok h
    obtain ⟨_, haccepted, h⟩ := bind_ok h
    obtain ⟨artifacts, -, h⟩ := bind_ok h
    exact Or.inr ⟨sessionReceiptRow receiptId sessionId tapeId tapeSha256 receipt column, artifacts,
      require_ok haccepted, rfl, (Prod.mk.inj (Except.ok.inj h)).1.symm⟩

/-- A transaction that completes a command, from the row of the command to the appended events. -/
structure Completes (env : SimulatorEnvironment) (call : Completion) (s t : SimJournal) (commandId receiptId : String)
    (receipt : SimCommandReceiptRow) (liquidity : SimLiquidityRow) (appended : SimJournal) : Prop where
  ofCommand : call.command.commandId = some commandId
  ofReceipt : call.receipt.receiptId = some receiptId
  checked : ∃ lineage, call.check = .ok (commandId, lineage, receiptId)
  prepared : ∃ row, s.command commandId = some row ∧ row.status = .prepared ∧
    assertPayloadIdentity row.payload row.payloadSha256 (digest call.command.payload.value) "simulation command" =
      .ok ()
  fresh : s.receiptOf commandId = none
  receiptRow : receipt.receiptId = receiptId ∧ receipt.commandId = commandId ∧
    receipt.payloadSha256 = digest call.receipt.payload.value
  receiptColumn : Jsonb.jsonbIn (dumps call.receipt.payload.value) = some receipt.payload
  accepted : receipt.Accepted s
  liquidityRow : call.command.sessionId = some liquidity.sessionId ∧ call.command.symbol = some liquidity.symbol ∧
    liquidity.stateSchemaVersion = call.modelStateSchemaVersion ∧
    liquidity.stateSha256 = digest call.modelStatePayload.value
  liquidityColumn : Jsonb.jsonbIn (dumps call.modelStatePayload.value) = some liquidity.payload
  events : completeEvents env commandId receiptId call.events (s.insertReceipt receipt liquidity) = .ok appended
  completed : ∃ artifacts, t = appended.markCompleted commandId env.now artifacts

theorem SimulationCommand.lineage_ok {command : SimulationCommand} {side commandId : String} {lineage : TradeLineage}
    (h : command.lineage side = some (commandId, lineage)) :
    command.commandId = some commandId ∧ command.sessionId = some lineage.sessionId ∧
      command.symbol = some lineage.symbol := by
  simp only [SimulationCommand.lineage, Option.pure_def, Option.bind_eq_bind, Option.bind_eq_some_iff] at h
  obtain ⟨_, hcommand, _, -, _, hsession, _, -, _, -, _, hsymbol, h⟩ := h
  obtain ⟨rfl, rfl⟩ := Prod.mk.inj (Option.some.inj h)
  exact ⟨hcommand, hsession, hsymbol⟩

theorem Completion.check_ok {call : Completion} {commandId receiptId : String} {lineage : TradeLineage}
    (h : call.check = .ok (commandId, lineage, receiptId)) :
    call.command.lineage "" = some (commandId, lineage) ∧ call.receipt.receiptId = some receiptId := by
  unfold Completion.check at h
  obtain ⟨⟨commandId', lineage'⟩, hlineage, h⟩ := bind_ok h
  obtain ⟨_, -, h⟩ := bind_ok h
  obtain ⟨_, -, h⟩ := bind_ok h
  obtain ⟨receiptId', hreceipt, h⟩ := bind_ok h
  obtain ⟨_, -, h⟩ := bind_ok h
  obtain ⟨_, -, h⟩ := bind_ok h
  obtain ⟨rfl, hrest⟩ := Prod.mk.inj (Except.ok.inj h)
  obtain ⟨rfl, rfl⟩ := Prod.mk.inj hrest
  exact ⟨found_ok hlineage, found_ok hreceipt⟩

theorem commandReceiptRow_ok {receiptId commandId : String} {receipt : SimulationCommandReceipt} {column : JsonColumn}
    {row : SimCommandReceiptRow} (h : commandReceiptRow receiptId commandId receipt column = some row) :
    row.receiptId = receiptId ∧ row.commandId = commandId ∧ row.payloadSha256 = digest receipt.payload.value ∧
      row.payload = column := by
  simp only [commandReceiptRow, Option.pure_def, Option.bind_eq_bind, Option.bind_eq_some_iff] at h
  obtain ⟨_, -, _, -, _, -, _, -, h⟩ := h
  obtain rfl := Option.some.inj h
  exact ⟨rfl, rfl, rfl, rfl⟩

/-- What `complete_command` does. -/
theorem completeCommand_ok {call : Completion} {reply : CommandCompletion}
    (h : completeCommand env contracts call s = .ok (t, reply)) :
    (reply.created = false ∧ t = s ∧ ∃ commandId row existing, call.command.commandId = some commandId ∧
        s.command commandId = some row ∧ row.status = .completed ∧ s.receiptOf commandId = some existing ∧
        existing.payloadSha256 = digest call.receipt.payload.value ∧
        storedModel contracts.receipt existing.payload existing.payloadSha256 "simulation command receipt" =
          .ok reply.receipt) ∨
      (reply = ⟨call.receipt, true⟩ ∧ ∃ commandId receiptId receipt liquidity appended,
        Completes env call s t commandId receiptId receipt liquidity appended) := by
  unfold completeCommand at h
  obtain ⟨⟨commandId, lineage, receiptId⟩, hcheck, h⟩ := bind_ok h
  obtain ⟨hlineage, hreceiptId⟩ := Completion.check_ok hcheck
  obtain ⟨hcommandId, hsessionId, hsymbol⟩ := SimulationCommand.lineage_ok hlineage
  dsimp only at h
  obtain ⟨row, hrow, h⟩ := bind_ok h
  have hrow := found_ok hrow
  obtain ⟨_, hcommand, h⟩ := bind_ok h
  split at h
  · rename_i existing hexisting
    obtain ⟨_, hidentity, h⟩ := bind_ok h
    obtain ⟨_, hstatus, h⟩ := bind_ok h
    obtain ⟨stored, hstored, h⟩ := bind_ok h
    obtain ⟨rfl, rfl⟩ := Prod.mk.inj (Except.ok.inj h)
    exact Or.inl ⟨rfl, rfl, commandId, row, existing, hcommandId, hrow, require_ok hstatus, hexisting,
      (assertPayloadIdentity_ok hidentity).1, hstored⟩
  · rename_i hnone
    obtain ⟨t', hprepared, h⟩ := bind_ok h
    obtain ⟨rfl, rfl⟩ := Prod.mk.inj (Except.ok.inj h)
    refine Or.inr ⟨rfl, ?_⟩
    unfold completePrepared at hprepared
    obtain ⟨_, hstatus, h⟩ := bind_ok hprepared
    obtain ⟨_, -, h⟩ := bind_ok h
    obtain ⟨receiptColumn, hreceiptColumn, h⟩ := bind_ok h
    obtain ⟨receipt, hreceipt, h⟩ := bind_ok h
    obtain ⟨_, haccepted, h⟩ := bind_ok h
    obtain ⟨stateColumn, hstateColumn, h⟩ := bind_ok h
    obtain ⟨_, -, h⟩ := bind_ok h
    obtain ⟨appended, happended, h⟩ := bind_ok h
    obtain ⟨_, -, h⟩ := bind_ok h
    obtain ⟨artifacts, -, h⟩ := bind_ok h
    obtain ⟨hid, hreceiptCommand, hsha, hcolumn⟩ := commandReceiptRow_ok (found_ok hreceipt)
    exact ⟨commandId, receiptId, receipt, ⟨lineage.sessionId, lineage.symbol, call.modelStateSchemaVersion,
      digest call.modelStatePayload.value, stateColumn⟩, appended, {
        ofCommand := hcommandId
        ofReceipt := hreceiptId
        checked := ⟨lineage, hcheck⟩
        prepared := ⟨row, hrow, require_ok hstatus, hcommand⟩
        fresh := hnone
        receiptRow := ⟨hid, hreceiptCommand, hsha⟩
        receiptColumn := hcolumn ▸ found_ok hreceiptColumn
        accepted := require_ok haccepted
        liquidityRow := ⟨hsessionId, hsymbol, rfl, rfl⟩
        liquidityColumn := found_ok hstateColumn
        events := happended
        completed := ⟨artifacts, (Except.ok.inj h).symm⟩ }⟩

/-- What holds of the tables when the loop over the events begins, and stays so with each event, holds when it ends. -/
theorem completeEvents_ok (inv : SimJournal → Prop) {commandId receiptId : String} {events : List SimulationTradeEvent}
    (hstep : ∀ event ∈ events, ∀ s t created, inv s → event.commandId = some commandId →
      event.receiptId = some receiptId → appendTradeEventLocked env event s = .ok (t, created) → inv t)
    (h : completeEvents env commandId receiptId events s = .ok t) (hs : inv s) : inv t := by
  induction events generalizing s with
  | nil => exact Except.ok.inj h ▸ hs
  | cons event events ih =>
    unfold completeEvents at h
    obtain ⟨_, hlineage, h⟩ := bind_ok h
    obtain ⟨⟨s', created⟩, happend, h⟩ := bind_ok h
    obtain ⟨hcommand, hreceipt⟩ := require_ok hlineage
    refine ih (fun e he => hstep e (List.mem_cons_of_mem _ he)) h ?_
    exact hstep event List.mem_cons_self s s' created hs hcommand hreceipt happend

end Operations

end KairosPersistence
