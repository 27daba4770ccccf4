import KairosPersistence.Runs
import KairosPersistence.SimulatorWrites

/-!
Runs of the workers on the simulator journal, and what every write keeps:
the keys of the tables, and that trades, events, receipts and results stay.
-/

namespace KairosPersistence

open PythonJson PythonText Relation
open Transactions (run_spec)

inductive SimulatorCall where
  | createTrade (trade : SimulationTrade)
  | appendTradeEvent (event : SimulationTradeEvent)
  | prepareCommand (command : SimulationCommand)
  | completeCommand (call : Completion)
  | recordResult (result : SimulationResult)
  | recordSessionReceipt (receipt : SimulationSessionReceipt)

/-- The events that a call delivers. -/
def SimulatorCall.events : SimulatorCall → List SimulationTradeEvent
  | .appendTradeEvent event => [event]
  | .completeCommand call => call.events
  | _ => []

/-- The tables after a call, which commits or is rolled back. -/
def SimulatorCall.run (env : SimulatorEnvironment) (contracts : SimulatorContracts) (s : SimJournal) :
    SimulatorCall → SimJournal
  | .createTrade trade => (Transactions.run (KairosPersistence.createTrade env trade) s).1
  | .appendTradeEvent event => (Transactions.run (KairosPersistence.appendTradeEvent env event) s).1
  | .prepareCommand command => (Transactions.run (KairosPersistence.prepareCommand env contracts command) s).1
  | .completeCommand call => (Transactions.run (KairosPersistence.completeCommand env contracts call) s).1
  | .recordResult result => (Transactions.run (KairosPersistence.recordResult env result) s).1
  | .recordSessionReceipt receipt => (Transactions.run (KairosPersistence.recordSessionReceipt env receipt) s).1

/-- A call that is allowed, or what is written by others: sessions and admissions, the audit log and the outbox. -/
inductive SimulatorStep (contracts : SimulatorContracts) (allowed : SimJournal → SimulatorCall → Prop) :
    SimJournal → SimJournal → Prop
  | call {s} (env : SimulatorEnvironment) (call : SimulatorCall) (h : allowed s call) :
    SimulatorStep contracts allowed s (call.run env contracts s)
  | outside {s} (sessions : List SimSessionRow) (admissions : List SimAdmissionRow) (artifacts : Artifacts) :
    SimulatorStep contracts allowed s
      { s with sessions := sessions, admissions := admissions, artifacts := artifacts }

/-- No trade, command or result is stored yet. -/
structure SimJournal.Initial (s : SimJournal) : Prop where
  trades : s.trades = []
  events : s.events = []
  commands : s.commands = []
  receipts : s.receipts = []
  results : s.results = []
  sessionReceipts : s.sessionReceipts = []

abbrev SimJournal.Reachable (contracts : SimulatorContracts) (allowed : SimJournal → SimulatorCall → Prop) :
    SimJournal → Prop :=
  Runs.Reachable SimJournal.Initial (SimulatorStep contracts allowed)

/-- One write of a transaction. -/
inductive SimulatorWrite (delivered : SimulationTradeEvent → Prop) : SimJournal → SimJournal → Prop
  | outside {s} (sessions : List SimSessionRow) (admissions : List SimAdmissionRow) (artifacts : Artifacts) :
    SimulatorWrite delivered s { s with sessions := sessions, admissions := admissions, artifacts := artifacts }
  | trade {s} (lineage : TradeLineage) (trade : SimulationTrade) (column : JsonColumn) (artifacts : Artifacts)
    (h : (tradeRow lineage trade column).Accepted s) :
    SimulatorWrite delivered s
      { s with trades := tradeRow lineage trade column :: s.trades, artifacts := artifacts }
  | event {s event trade row} (artifacts : Artifacts) (hdelivered : delivered event) (h : Appends s event trade row) :
    SimulatorWrite delivered s (s.append trade row artifacts)
  | command {s} (commandId : String) (lineage : TradeLineage) (command : SimulationCommand) (column : JsonColumn)
    (artifacts : Artifacts) (h : (simCommandRow commandId lineage command column).Accepted s) :
    SimulatorWrite delivered s
      { s with commands := simCommandRow commandId lineage command column :: s.commands, artifacts := artifacts }
  | receipt {s} (receipt : SimCommandReceiptRow) (liquidity : SimLiquidityRow) (h : receipt.Accepted s) :
    SimulatorWrite delivered s (s.insertReceipt receipt liquidity)
  | complete {s} (commandId : String) (now : Timestamp) (artifacts : Artifacts) :
    SimulatorWrite delivered s (s.markCompleted commandId now artifacts)
  | result {s} (row : SimResultRow) (trade : SimTradeRow) (event : SimTradeEventRow) (artifacts : Artifacts)
    (h : row.Accepted s) (htrade : s.trade row.tradeId = some trade) (hevent : event ∈ s.events)
    (htradeId : event.tradeId = row.tradeId) (heventId : event.eventId = row.terminalEventId)
    (hto : event.toState = row.finalState) :
    SimulatorWrite delivered s { s with results := row :: s.results, artifacts := artifacts }
  | sessionReceipt {s} (row : SimSessionReceiptRow) (artifacts : Artifacts) (h : row.Accepted s) :
    SimulatorWrite delivered s (s.sealSession row artifacts)

section Writes

variable {env : SimulatorEnvironment} {contracts : SimulatorContracts} {delivered : SimulationTradeEvent → Prop}
  {s t : SimJournal}

theorem writes_append {event : SimulationTradeEvent} {created : Bool} (hdelivered : delivered event)
    (h : appendTradeEventLocked env event s = .ok (t, created)) : ReflTransGen (SimulatorWrite delivered) s t := by
  rcases appendTradeEventLocked_ok h with ⟨-, rfl, -⟩ | ⟨-, trade, row, artifacts, happends, rfl⟩
  · exact .refl
  · exact .single (.event artifacts hdelivered happends)

theorem writes_completes {call : Completion} {commandId receiptId : String} {receipt : SimCommandReceiptRow}
    {liquidity : SimLiquidityRow} {appended : SimJournal} (hdelivered : ∀ event ∈ call.events, delivered event)
    (h : Completes env call s t commandId receiptId receipt liquidity appended) :
    ReflTransGen (SimulatorWrite delivered) s t := by
  have happended : ReflTransGen (SimulatorWrite delivered) s appended :=
    completeEvents_ok (ReflTransGen (SimulatorWrite delivered) s)
      (fun event hevent s' t' created hs' _ _ happend => hs'.trans (writes_append (hdelivered event hevent) happend))
      h.events (.single (.receipt receipt liquidity h.accepted))
  obtain ⟨artifacts, rfl⟩ := h.completed
  exact happended.tail (.complete commandId env.now artifacts)

/-- A call writes, or changes nothing. -/
theorem SimulatorCall.writes (env : SimulatorEnvironment) (contracts : SimulatorContracts) (s : SimJournal)
    {call : SimulatorCall} (hdelivered : ∀ event ∈ call.events, delivered event) :
    ReflTransGen (SimulatorWrite delivered) s (call.run env contracts s) := by
  cases call with
  | createTrade trade =>
    refine run_spec .refl fun t created h => ?_
    obtain ⟨lineage, -, ⟨-, rfl, -⟩ | ⟨-, -, column, artifacts, haccepted, rfl⟩⟩ := createTrade_ok h
    · exact .refl
    · exact .single (.trade lineage trade column artifacts haccepted)
  | appendTradeEvent event =>
    exact run_spec .refl fun t created h => writes_append (hdelivered event List.mem_cons_self) h
  | prepareCommand command =>
    refine run_spec .refl fun t reply h => ?_
    rcases prepareCommand_ok h with rfl | ⟨commandId, lineage, column, artifacts, haccepted, rfl⟩
    · exact .refl
    · exact .single (.command commandId lineage command column artifacts haccepted)
  | completeCommand call =>
    refine run_spec .refl fun t reply h => ?_
    rcases completeCommand_ok h with ⟨-, rfl, -⟩ | ⟨-, commandId, receiptId, receipt, liquidity, appended, hc⟩
    · exact .refl
    · exact writes_completes hdelivered hc
  | recordResult result =>
    refine run_spec .refl fun t created h => ?_
    rcases recordResult_ok h with
      rfl | ⟨row, trade, event, artifacts, haccepted, htrade, -, hevent, htradeId, heventId, hto, rfl⟩
    · exact .refl
    · exact .single (.result row trade event artifacts haccepted htrade hevent htradeId heventId hto)
  | recordSessionReceipt receipt =>
    refine run_spec .refl fun t created h => ?_
    obtain ⟨sessionId, -, -, rfl | ⟨row, artifacts, haccepted, -, rfl⟩⟩ := recordSessionReceipt_ok h
    · exact .refl
    · exact .single (.sessionReceipt row artifacts haccepted)

theorem SimulatorStep.writes {allowed : SimJournal → SimulatorCall → Prop}
    (hallowed : ∀ s call, allowed s call → ∀ event ∈ call.events, delivered event)
    (h : SimulatorStep contracts allowed s t) : ReflTransGen (SimulatorWrite delivered) s t := by
  cases h with
  | call env call h => exact call.writes env contracts s (hallowed s call h)
  | outside sessions admissions artifacts => exact .single (.outside sessions admissions artifacts)

theorem SimulatorStep.run_writes {allowed : SimJournal → SimulatorCall → Prop}
    (hallowed : ∀ s call, allowed s call → ∀ event ∈ call.events, delivered event)
    (h : ReflTransGen (SimulatorStep contracts allowed) s t) : ReflTransGen (SimulatorWrite delivered) s t := by
  induction h with
  | refl => exact .refl
  | tail _ hbc ih => exact ih.trans (hbc.writes hallowed)

end Writes

end KairosPersistence
