import KairosPersistence.SimulatorProgress
import KairosPersistence.TradeJournals

/-!
Events that are delivered again, and results that stay true.
-/

namespace KairosPersistence

open PythonJson PythonText Relation
open Transactions (bind_ok require_ok)

section Redelivery

variable {env : SimulatorEnvironment} {contracts : SimulatorContracts} {delivered : SimulationTradeEvent → Prop}
  {s t : SimJournal}

/-- The event is stored, and recognised when it comes again. -/
def SimJournal.Stores (s : SimJournal) (event : SimulationTradeEvent) : Prop := ∃ row ∈ s.events, Redelivered row event

theorem SimulatorWrite.events_subset (h : SimulatorWrite delivered s t) : s.events ⊆ t.events := by
  cases h with
  | event => exact List.subset_cons_self _ _
  | outside | trade | command | receipt | complete | result | sessionReceipt => exact List.Subset.refl _

theorem SimulatorWrite.results_subset (h : SimulatorWrite delivered s t) : s.results ⊆ t.results := by
  cases h with
  | result => exact List.subset_cons_self _ _
  | outside | trade | command | receipt | complete | event | sessionReceipt => exact List.Subset.refl _

theorem SimulatorWrite.run_subset (h : ReflTransGen (SimulatorWrite delivered) s t) :
    s.events ⊆ t.events ∧ s.results ⊆ t.results := by
  induction h with
  | refl => exact ⟨List.Subset.refl _, List.Subset.refl _⟩
  | tail _ hbc ih => exact ⟨List.Subset.trans ih.1 hbc.events_subset, List.Subset.trans ih.2 hbc.results_subset⟩

theorem SimJournal.Stores.mono {event : SimulationTradeEvent} (h : s.Stores event) (hsubset : s.events ⊆ t.events) :
    t.Stores event := by
  obtain ⟨row, hrow, hredelivered⟩ := h
  exact ⟨row, hsubset hrow, hredelivered⟩

theorem SimTradeEventRow.Of.redelivered {row : SimTradeEventRow} {event : SimulationTradeEvent} (h : row.Of event)
    (hreloads : Reloads event.payload.value) : Redelivered row event := by
  refine ⟨h.identity, h.tradeId, ?_⟩
  rw [h.payloadSha256]
  exact hreloads.identity h.column _

/-- An event that was appended, or recognised, is stored. -/
theorem appendTradeEventLocked_stores {event : SimulationTradeEvent} {created : Bool}
    (hreloads : Reloads event.payload.value) (h : appendTradeEventLocked env event s = .ok (t, created)) :
    t.Stores event := by
  rcases appendTradeEventLocked_ok h with ⟨-, rfl, hstores⟩ | ⟨-, trade, row, artifacts, happends, rfl⟩
  · exact hstores
  · exact ⟨row, List.mem_cons_self, happends.stored.redelivered hreloads⟩

theorem appendTradeEventLocked_subset {event : SimulationTradeEvent} {created : Bool}
    (h : appendTradeEventLocked env event s = .ok (t, created)) : s.events ⊆ t.events :=
  (SimulatorWrite.run_subset (writes_append trivial h : ReflTransGen (SimulatorWrite fun _ => True) s t)).1

/-- Every event of a loop is stored when it ends. -/
theorem completeEvents_stores {commandId receiptId : String} {events : List SimulationTradeEvent}
    (hreloads : ∀ event ∈ events, Reloads event.payload.value)
    (h : completeEvents env commandId receiptId events s = .ok t) : ∀ event ∈ events, t.Stores event := by
  induction events generalizing s with
  | nil => simp
  | cons event events ih =>
    unfold completeEvents at h
    obtain ⟨_, -, h⟩ := bind_ok h
    obtain ⟨⟨s', created⟩, happend, h⟩ := bind_ok h
    refine List.forall_mem_cons.mpr ⟨?_, ih (fun e he => hreloads e (List.mem_cons_of_mem _ he)) h⟩
    have hstores := appendTradeEventLocked_stores (hreloads event List.mem_cons_self) happend
    exact completeEvents_ok (fun s => s.Stores event)
      (fun _ _ _ _ _ hs _ _ hnext => hs.mono (appendTradeEventLocked_subset hnext)) h hstores

/-- A stored event that is delivered again changes nothing. -/
theorem SimJournal.Stores.again {event : SimulationTradeEvent} (hs : s.Journaled delivered) (h : s.Stores event) :
    appendTradeEvent env event s = .ok (s, false) := by
  obtain ⟨row, hrow, heventId, htradeId, hpayload⟩ := h
  have hfind : s.event row.eventId = some row := KeyedRows.find?_eq hs.eventIds hrow
  rw [appendTradeEvent, appendTradeEventLocked, heventId, Transactions.found_some, Transactions.ok_bind, hfind]
  dsimp only
  rw [Transactions.require_pos htradeId, Transactions.ok_bind, hpayload]
  rfl

end Redelivery

section Results

variable {contracts : SimulatorContracts} {delivered : SimulationTradeEvent → Prop} {s t : SimJournal}

/-- A trade as its journal has it: the sequence numbers, the predecessors and the states of the events, and
what the row of the trade says of the last one. -/
structure SimJournal.Materialises (s : SimJournal) (trade : SimTradeRow) : Prop where
  position : ∀ (later : List SimTradeEventRow) (row : SimTradeEventRow) (earlier : List SimTradeEventRow),
    s.eventsOf trade.tradeId = later ++ row :: earlier →
    row.eventSeq = earlier.length + 1 ∧ row.previousEventSha256 = earlier.head?.map (·.eventId) ∧
      row.fromState = earlier.head?.map (·.toState)
  eventCount : trade.eventCount = (s.eventsOf trade.tradeId).length
  nextEventSeq : trade.nextEventSeq = trade.eventCount + 1
  journalHeadSha256 : trade.journalHeadSha256 = (s.eventsOf trade.tradeId).head?.map (·.eventId)
  state : trade.state = ((s.eventsOf trade.tradeId).head?.map (·.toState)).getD .pending

theorem SimJournal.Journaled.materialises (h : s.Journaled delivered) {trade : SimTradeRow} (htrade : trade ∈ s.trades) :
    s.Materialises trade := by
  obtain ⟨chain, hcount⟩ := h.chains trade htrade
  have hlength : trade.nextEventSeq = (s.eventsOf trade.tradeId).length + 1 := chain.sequence
  exact ⟨fun later row earlier => chain.position, by omega, hcount, chain.cursor_eq.1, chain.cursor_eq.2⟩

/-- The trade of a result is in the final state of the result, by the event that the result names. -/
structure SimJournal.Final (s : SimJournal) (result : SimResultRow) : Prop where
  stored : result ∈ s.results
  unique : ∀ r ∈ s.results, r.tradeId = result.tradeId → r = result
  trade : ∃ trade ∈ s.trades, trade.tradeId = result.tradeId ∧ trade.state = result.finalState ∧
    trade.journalHeadSha256 = some result.terminalEventId
  last : ∃ last ∈ (s.eventsOf result.tradeId).head?, last.eventId = result.terminalEventId

theorem SimJournal.Journaled.final (h : s.Journaled delivered) {final : SimulationTradeState → Prop}
    (hfinal : ∀ event, delivered event → ∀ state ∈ event.fromState, ¬final state) {result : SimResultRow}
    (hresult : result ∈ s.results) (hstate : final result.finalState) : s.Final result := by
  obtain ⟨event, hevent, htradeId, heventId, hto⟩ := h.named result hresult
  obtain ⟨trade, htrade, hkey⟩ := h.known event hevent
  have hkey : trade.tradeId = result.tradeId := hkey.trans htradeId
  have hmem : event ∈ s.eventsOf trade.tradeId := List.mem_filter.mpr ⟨hevent, by simp [hkey, htradeId]⟩
  have hlast := (h.chains trade htrade).1.final_head hfinal hmem (hto ▸ hstate)
  have hmaterialises := h.materialises htrade
  refine ⟨hresult, fun r hr hsame => List.inj_on_of_nodup_map h.resultTrades hr hresult hsame,
    ⟨trade, htrade, hkey, ?_, ?_⟩, ?_⟩
  · rw [hmaterialises.state, hlast, Option.map_some, Option.getD_some, hto]
  · rw [hmaterialises.journalHeadSha256, hlast, Option.map_some, heventId]
  · rw [hkey] at hlast
    exact ⟨event, hlast, heventId⟩

/-- The calls deliver events that the contract has, and no others. -/
def Delivers (delivered : SimulationTradeEvent → Prop) (_ : SimJournal) (call : SimulatorCall) : Prop :=
  ∀ event ∈ call.events, delivered event

theorem SimJournal.Journaled.run (h : s.Journaled delivered)
    (hrun : ReflTransGen (SimulatorStep contracts (Delivers delivered)) s t) : t.Journaled delivered :=
  Runs.run_invariant (fun _ _ hs hwrite => hs.write hwrite)
    (SimulatorStep.run_writes (fun _ _ hcall => hcall) hrun) h

theorem SimJournal.Journaled.reachable (h : s.Reachable contracts (Delivers delivered)) : s.Journaled delivered :=
  let ⟨_, hinitial, hrun⟩ := h
  (hinitial.journaled).run hrun

theorem run_subset (hrun : ReflTransGen (SimulatorStep contracts (Delivers delivered)) s t) :
    s.events ⊆ t.events ∧ s.results ⊆ t.results :=
  SimulatorWrite.run_subset (SimulatorStep.run_writes (fun _ _ hcall => hcall) hrun)

/-- Every journal verifies, an event that was accepted changes nothing when it comes again, and a result with a
final state stays the last word on its trade. -/
theorem trade_journals (hreads : ReadsEvents contracts delivered) (hs : s.Reachable contracts (Delivers delivered)) :
    (∀ trade ∈ s.trades, verifyTradeChain contracts trade.tradeId s = .ok true ∧ s.Materialises trade) ∧
    (∀ env event s' created, delivered event → appendTradeEvent env event s = .ok (s', created) →
      ∀ t, ReflTransGen (SimulatorStep contracts (Delivers delivered)) s' t →
        ∀ env', appendTradeEvent env' event t = .ok (t, false)) ∧
    (∀ env call s' reply, (∀ event ∈ call.events, delivered event) →
      completeCommand env contracts call s = .ok (s', reply) → reply.created = true →
      ∀ t, ReflTransGen (SimulatorStep contracts (Delivers delivered)) s' t →
        ∀ event ∈ call.events, ∀ env', appendTradeEvent env' event t = .ok (t, false)) ∧
    ∀ final : SimulationTradeState → Prop, (∀ event, delivered event → ∀ state ∈ event.fromState, ¬final state) →
      ∀ result ∈ s.results, final result.finalState →
        ∀ t, ReflTransGen (SimulatorStep contracts (Delivers delivered)) s t → t.Final result := by
  have hjournaled := SimJournal.Journaled.reachable hs
  refine ⟨?_, ?_, ?_, ?_⟩
  · intro trade htrade
    exact ⟨hjournaled.verify hreads htrade, hjournaled.materialises htrade⟩
  · intro env event s' created hdelivered happend t hrun env'
    have hs' : s'.Journaled delivered :=
      Runs.run_invariant (fun _ _ hs hwrite => hs.write hwrite) (writes_append hdelivered happend) hjournaled
    have hstores := appendTradeEventLocked_stores (hreads event hdelivered).1 happend
    exact (hstores.mono (run_subset hrun).1).again (hs'.run hrun)
  · intro env call s' reply hdelivered hcomplete hcreated t hrun event hevent env'
    rcases completeCommand_ok hcomplete with ⟨hfalse, -⟩ | ⟨-, _, _, _, _, _, hc⟩
    · exact absurd (hfalse.symm.trans hcreated) Bool.false_ne_true
    · have hs' : s'.Journaled delivered :=
        Runs.run_invariant (fun _ _ hs hwrite => hs.write hwrite) (writes_completes hdelivered hc) hjournaled
      have hstores := completeEvents_stores (fun e he => (hreads e (hdelivered e he)).1) hc.events event hevent
      obtain ⟨artifacts, rfl⟩ := hc.completed
      exact SimJournal.Stores.again (hs'.run hrun) (hstores.mono (run_subset hrun).1)
  · intro final hfinal result hresult hstate t hrun
    exact (hjournaled.run hrun).final hfinal ((run_subset hrun).2 hresult) hstate

/-- A trade and its admission event. -/
theorem trade_journals_example : ∃ contracts s, SimJournal.Reachable contracts (Delivers (· = exampleEvent)) s ∧
    s.trades ≠ [] ∧ s.events ≠ [] ∧ ∀ trade ∈ s.trades, verifyTradeChain contracts trade.tradeId s = .ok true := by
  let contracts : SimulatorContracts := { exampleContracts with
    event := fun v => if dumps v = dumps exampleEvent.payload.value then some exampleEvent else none }
  have hreads : ReadsEvents contracts (· = exampleEvent) := by
    rintro event rfl
    refine ⟨exampleDump_reloads (by decide) 1, fun v hv => if_pos hv⟩
  obtain ⟨column, artifacts, -, hcreate, hothers⟩ :=
    @createTrade_example exampleJournal rfl rfl rfl (exampleJournal_lacks _)
  obtain ⟨t, happend⟩ := @appendTradeEvent_example
    { exampleJournal with trades := [tradeRow exampleLineage exampleSimTrade column], artifacts := artifacts } column
    rfl rfl (hothers "event" (by decide) (exampleJournal_lacks _))
  have hcreated : SimJournal.Reachable contracts (Delivers (· = exampleEvent)) _ :=
    Runs.Reachable.next (.start exampleJournal_initial)
      (.call exampleSimEnvironment (.createTrade exampleSimTrade) fun _ h => nomatch h)
  rw [SimulatorCall.run, Transactions.run_ok hcreate] at hcreated
  have hs := hcreated.next (.call exampleSimEnvironment (.appendTradeEvent exampleEvent)
    (by simp [Delivers, SimulatorCall.events]))
  rw [SimulatorCall.run, Transactions.run_ok happend] at hs
  refine ⟨contracts, t, hs, ?_, ?_, fun trade htrade => ((trade_journals hreads hs).1 trade htrade).1⟩
  all_goals
    obtain ⟨hfalse, -⟩ | ⟨-, trade, row, artifacts', -, rfl⟩ := appendTradeEventLocked_ok happend
    · cases hfalse
    · simp [SimJournal.append]

end Results

end KairosPersistence
