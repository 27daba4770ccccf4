import KairosPersistence.KeyedRows
import KairosPersistence.SimulatorRuns

/-!
The journals of the simulated trades: each is a chain of events that ends in the
materialised state of its trade, and a result that names a final state stays true.
-/

namespace KairosPersistence

open PythonJson PythonText Relation

/-- The events of a trade, the last one first. -/
def SimJournal.eventsOf (s : SimJournal) (tradeId : String) : List SimTradeEventRow :=
  s.events.filter (·.tradeId = tradeId)

/-- Events of a trade in its session, the last one first, and where they lead. -/
inductive EventChain (delivered : SimulationTradeEvent → Prop) (tradeId sessionId : String) :
    List SimTradeEventRow → ChainCursor → Prop
  | empty : EventChain delivered tradeId sessionId [] ⟨1, none, .pending⟩
  | append {rows cursor row event} (chain : EventChain delivered tradeId sessionId rows cursor)
    (hdelivered : delivered event) (hof : row.Of event) (htrade : event.tradeId = tradeId)
    (hsession : event.sessionId = sessionId) (hseq : event.eventSeq = cursor.sequence)
    (hprevious : event.previousEventSha256 = cursor.previousEventSha256)
    (hfrom : if event.eventSeq = 1 then event.fromState = none ∧ event.toState = cursor.state
      else event.fromState = some cursor.state) :
    EventChain delivered tradeId sessionId (row :: rows) ⟨cursor.sequence + 1, some row.eventId, event.toState⟩

def SimTradeRow.cursor (r : SimTradeRow) : ChainCursor := ⟨r.nextEventSeq, r.journalHeadSha256, r.state⟩

/-- The row of the event that a result names. -/
def SimResultRow.NamesEvent (r : SimResultRow) (e : SimTradeEventRow) : Prop :=
  e.tradeId = r.tradeId ∧ e.eventId = r.terminalEventId ∧ e.toState = r.finalState

structure SimJournal.Journaled (delivered : SimulationTradeEvent → Prop) (s : SimJournal) : Prop where
  tradeIds : (s.trades.map (·.tradeId)).Nodup
  eventIds : (s.events.map (·.eventId)).Nodup
  resultTrades : (s.results.map (·.tradeId)).Nodup
  sha256 : ∀ r ∈ s.trades, isSha256 r.tradeId = true
  chains : ∀ r ∈ s.trades, EventChain delivered r.tradeId r.sessionId (s.eventsOf r.tradeId) r.cursor ∧
    r.nextEventSeq = r.eventCount + 1
  known : ∀ e ∈ s.events, ∃ r ∈ s.trades, r.tradeId = e.tradeId
  named : ∀ r ∈ s.results, ∃ e ∈ s.events, r.NamesEvent e

section Rows

variable {row : SimTradeEventRow} {event : SimulationTradeEvent} (h : row.Of event)
include h

theorem SimTradeEventRow.Of.tradeId : row.tradeId = event.tradeId := by
  rw [h.inserted]
  rfl

theorem SimTradeEventRow.Of.eventSeq : row.eventSeq = event.eventSeq := by
  rw [h.inserted]
  rfl

theorem SimTradeEventRow.Of.previousEventSha256 : row.previousEventSha256 = event.previousEventSha256 := by
  rw [h.inserted]
  rfl

theorem SimTradeEventRow.Of.fromState : row.fromState = event.fromState := by
  rw [h.inserted]
  rfl

theorem SimTradeEventRow.Of.toState : row.toState = event.toState := by
  rw [h.inserted]
  rfl

theorem SimTradeEventRow.Of.eventSha256 : row.eventSha256 = row.eventId := by
  rw [h.inserted]
  rfl

theorem SimTradeEventRow.Of.payloadSha256 : row.payloadSha256 = digest event.payload.value := by
  rw [h.inserted]
  rfl

end Rows

namespace EventChain

variable {delivered : SimulationTradeEvent → Prop} {tradeId sessionId : String} {rows : List SimTradeEventRow}
  {cursor : ChainCursor}

theorem sequence (h : EventChain delivered tradeId sessionId rows cursor) : cursor.sequence = rows.length + 1 := by
  induction h with
  | empty => rfl
  | append chain _ _ _ _ _ _ _ ih => simp [ih]

theorem eventSeq_lt (h : EventChain delivered tradeId sessionId rows cursor) :
    ∀ row ∈ rows, row.eventSeq < cursor.sequence := by
  induction h with
  | empty => simp
  | @append rows cursor row event chain _ hof _ _ hseq _ _ ih =>
    intro r hr
    dsimp only
    rcases List.mem_cons.mp hr with rfl | hr
    · rw [hof.eventSeq, hseq]
      omega
    · have := ih r hr
      omega

theorem pairwise (h : EventChain delivered tradeId sessionId rows cursor) :
    rows.Pairwise fun a b => b.eventSeq < a.eventSeq := by
  induction h with
  | empty => exact .nil
  | append chain _ hof _ _ hseq _ _ ih =>
    refine List.pairwise_cons.mpr ⟨fun r hr => ?_, ih⟩
    rw [hof.eventSeq, hseq]
    exact chain.eventSeq_lt r hr

/-- Where an event stands in its journal. -/
theorem position (h : EventChain delivered tradeId sessionId rows cursor) {later earlier : List SimTradeEventRow}
    {row : SimTradeEventRow} (hrows : rows = later ++ row :: earlier) :
    row.eventSeq = earlier.length + 1 ∧ row.previousEventSha256 = earlier.head?.map (·.eventId) ∧
      row.fromState = earlier.head?.map (·.toState) := by
  induction h generalizing later with
  | empty => simp at hrows
  | @append rows cursor r event chain _ hof _ _ hseq hprevious hfrom ih =>
    cases later with
    | cons a later =>
      rw [List.cons_append, List.cons.injEq] at hrows
      exact ih hrows.2
    | nil =>
      rw [List.nil_append, List.cons.injEq] at hrows
      obtain ⟨rfl, rfl⟩ := hrows
      have hlength := chain.sequence
      refine ⟨by rw [hof.eventSeq, hseq, hlength], ?_, ?_⟩
      · rw [hof.previousEventSha256, hprevious]
        cases chain <;> rfl
      · rw [hof.fromState]
        cases chain with
        | empty =>
          rw [if_pos hseq] at hfrom
          exact hfrom.1
        | @append rows cursor r' event' chain _ hof' =>
          have hlater : event.eventSeq ≠ 1 := by
            rw [hseq, hlength, List.length_cons]
            omega
          rw [if_neg hlater] at hfrom
          rw [hfrom, List.head?_cons, Option.map_some, hof'.toState]

/-- Where a journal leads. -/
theorem cursor_eq (h : EventChain delivered tradeId sessionId rows cursor) :
    cursor.previousEventSha256 = rows.head?.map (·.eventId) ∧
      cursor.state = (rows.head?.map (·.toState)).getD .pending := by
  cases h with
  | empty => exact ⟨rfl, rfl⟩
  | append chain _ hof => exact ⟨rfl, hof.toState.symm⟩

/-- A state that no event leaves is reached by the last event only. -/
theorem toState_not_mem {final : SimulationTradeState → Prop}
    (hfinal : ∀ event, delivered event → ∀ state ∈ event.fromState, ¬final state)
    (h : EventChain delivered tradeId sessionId rows cursor) {last row : SimTradeEventRow}
    {earlier : List SimTradeEventRow} (hrows : rows = last :: earlier) (hrow : row ∈ earlier) : ¬final row.toState := by
  induction h generalizing last earlier with
  | empty => cases hrows
  | @append rows cursor r event chain hdelivered hof htrade hsession hseq hprevious hfrom ih =>
    obtain ⟨rfl, rfl⟩ := List.cons.inj hrows
    cases rows with
    | nil => cases hrow
    | cons before earlier =>
      rcases List.mem_cons.mp hrow with rfl | hrow
      · have hposition := (chain.append hdelivered hof htrade hsession hseq hprevious hfrom).position
          (List.nil_append _).symm
        refine hfinal event hdelivered _ ?_
        rw [← hof.fromState, hposition.2.2]
        rfl
      · exact ih rfl hrow

/-- The event that reaches a state that no event leaves is the last one. -/
theorem final_head {final : SimulationTradeState → Prop}
    (hfinal : ∀ event, delivered event → ∀ state ∈ event.fromState, ¬final state)
    (h : EventChain delivered tradeId sessionId rows cursor) {row : SimTradeEventRow} (hrow : row ∈ rows)
    (hstate : final row.toState) : rows.head? = some row := by
  cases rows with
  | nil => cases hrow
  | cons last earlier =>
    rcases List.mem_cons.mp hrow with rfl | hrow
    · rfl
    · exact absurd hstate (h.toState_not_mem hfinal rfl hrow)

end EventChain

section Verification

variable {contracts : SimulatorContracts} {delivered : SimulationTradeEvent → Prop} {s : SimJournal}

/-- What is delivered reloads, and reads as the event that was stored. -/
def ReadsEvents (contracts : SimulatorContracts) (delivered : SimulationTradeEvent → Prop) : Prop :=
  ∀ event, delivered event → Reloads event.payload.value ∧
    ∀ v, dumps v = dumps event.payload.value → contracts.event v = some event

theorem ReadsEvents.stored {row : SimTradeEventRow} {event : SimulationTradeEvent}
    (hreads : ReadsEvents contracts delivered) (hdelivered : delivered event) (hof : row.Of event) (entity : String) :
    storedModel contracts.event row.payload row.payloadSha256 entity = .ok event := by
  obtain ⟨hreloads, hvalidate⟩ := hreads event hdelivered
  rw [hof.payloadSha256]
  exact hreloads.model hof.column hvalidate entity

/-- The verifier follows a chain. -/
theorem EventChain.verify {trade : SimTradeRow} {rows : List SimTradeEventRow} {cursor : ChainCursor}
    (hreads : ReadsEvents contracts delivered)
    (h : EventChain delivered trade.tradeId trade.sessionId rows cursor) :
    rows.reverse.foldlM (verifyEvent contracts trade) (some ⟨1, none, .pending⟩) = .ok (some cursor) := by
  induction h with
  | empty => rfl
  | @append rows cursor row event chain hdelivered hof htrade hsession hseq hprevious hfrom ih =>
    rw [List.reverse_cons, List.foldlM_append, ih, Transactions.ok_bind, List.foldlM_cons, verifyEvent,
      hreads.stored hdelivered hof, Transactions.ok_bind, if_neg (by simp [hseq, hprevious]),
      if_neg (by simp [hof.identity, hof.eventSha256]), if_neg (by simp [htrade, hsession])]
    rw [← hseq, hof.identity]
    split at hfrom
    · rename_i hfirst
      rw [if_pos hfirst, if_neg (by simp [hfrom])]
      rfl
    · rename_i hlater
      rw [if_neg hlater, if_neg (by simp [hfrom])]
      rfl

/-- Every journal of the tables verifies. -/
theorem SimJournal.Journaled.verify (h : s.Journaled delivered) (hreads : ReadsEvents contracts delivered)
    {trade : SimTradeRow} (htrade : trade ∈ s.trades) : verifyTradeChain contracts trade.tradeId s = .ok true := by
  obtain ⟨chain, hcount⟩ := h.chains trade htrade
  have hfind : s.trade trade.tradeId = some trade := KeyedRows.find?_eq h.tradeIds htrade
  have hsort : (s.events.filter (·.tradeId = trade.tradeId)).insertionSort (·.eventSeq ≤ ·.eventSeq) =
      (s.eventsOf trade.tradeId).reverse := KeyedRows.insertionSort_eq_reverse chain.pairwise
  have hlength := chain.sequence
  rw [verifyTradeChain, Transactions.require_pos (h.sha256 trade htrade), Transactions.ok_bind, hfind]
  dsimp only
  rw [hsort, chain.verify hreads, Transactions.ok_bind]
  have hevents : trade.eventCount = (s.eventsOf trade.tradeId).length := by
    have hnext : trade.nextEventSeq = (s.eventsOf trade.tradeId).length + 1 := hlength
    omega
  rw [List.length_reverse]
  exact congrArg Except.ok (decide_eq_true ⟨rfl, rfl, rfl, hevents⟩)

end Verification

namespace SimJournal

variable {delivered : SimulationTradeEvent → Prop} {s t : SimJournal}

theorem Initial.journaled (h : s.Initial) : s.Journaled delivered where
  tradeIds := by simp [h.trades]
  eventIds := by simp [h.events]
  resultTrades := by simp [h.results]
  sha256 := by simp [h.trades]
  chains := by simp [h.trades]
  known := by simp [h.events]
  named := by simp [h.results]

/-- What other tables hold is nothing to the journals. -/
theorem Journaled.congr (h : s.Journaled delivered) (htrades : t.trades = s.trades) (hevents : t.events = s.events)
    (hresults : t.results = s.results) : t.Journaled delivered where
  tradeIds := htrades ▸ h.tradeIds
  eventIds := hevents ▸ h.eventIds
  resultTrades := hresults ▸ h.resultTrades
  sha256 := htrades ▸ h.sha256
  chains := by
    unfold eventsOf
    rw [htrades, hevents]
    exact h.chains
  known := by
    rw [htrades, hevents]
    exact h.known
  named := by
    rw [hresults, hevents]
    exact h.named

theorem Journaled.insertTrade (h : s.Journaled delivered) {lineage : TradeLineage} {trade : SimulationTrade}
    {column : JsonColumn} {artifacts : Artifacts} (haccepted : (tradeRow lineage trade column).Accepted s) :
    Journaled delivered { s with trades := tradeRow lineage trade column :: s.trades, artifacts := artifacts } := by
  obtain ⟨hsha, -, -, -, -, -, hunique⟩ := haccepted
  refine { h with tradeIds := ?_, sha256 := ?_, chains := ?_, known := ?_ }
  · exact KeyedRows.nodup_cons h.tradeIds fun r hr => (hunique r hr).1
  · exact List.forall_mem_cons.mpr ⟨hsha, h.sha256⟩
  · refine List.forall_mem_cons.mpr ⟨⟨?_, rfl⟩, h.chains⟩
    -- no event is stored for a trade that is not
    have hnone : s.eventsOf lineage.tradeId = [] := by
      refine List.filter_eq_nil_iff.mpr fun e he => ?_
      obtain ⟨r, hr, hkey⟩ := h.known e he
      rw [← hkey, decide_eq_true_eq]
      exact (hunique r hr).1
    exact hnone ▸ EventChain.empty
  · intro e he
    obtain ⟨r, hr, hkey⟩ := h.known e he
    exact ⟨r, List.mem_cons_of_mem _ hr, hkey⟩

theorem eventsOf_append {trade : SimTradeRow} {row : SimTradeEventRow} {artifacts : Artifacts} (tradeId : String) :
    (s.append trade row artifacts).eventsOf tradeId =
      if row.tradeId = tradeId then row :: s.eventsOf tradeId else s.eventsOf tradeId := by
  simp only [eventsOf, SimJournal.append, List.filter_cons, decide_eq_true_eq]

theorem Journaled.append (h : s.Journaled delivered) {event : SimulationTradeEvent} {trade : SimTradeRow}
    {row : SimTradeEventRow} {artifacts : Artifacts} (hdelivered : delivered event) (happends : Appends s event trade row) :
    (s.append trade row artifacts).Journaled delivered := by
  obtain ⟨hmem, hkey⟩ := KeyedRows.find?_mem happends.current
  have hrow := happends.stored.tradeId
  have hids : (s.append trade row artifacts).trades.map (·.tradeId) = s.trades.map (·.tradeId) := by
    refine KeyedRows.map_key_update fun r => ?_
    split <;> rfl
  obtain ⟨-, -, -, -, -, -, -, hunique⟩ := happends.accepted
  refine ⟨?_, ?_, h.resultTrades, ?_, ?_, ?_, ?_⟩
  · exact hids ▸ h.tradeIds
  · exact KeyedRows.nodup_cons h.eventIds fun e he => (hunique e he).1
  · intro r' hr'
    obtain ⟨r, hr, rfl⟩ := List.mem_map.mp hr'
    split
    · exact h.sha256 r hr
    · exact h.sha256 r hr
  · intro r' hr'
    obtain ⟨r, hr, rfl⟩ := List.mem_map.mp hr'
    obtain ⟨chain, hcount⟩ := h.chains r hr
    by_cases hsame : r.tradeId = row.tradeId
    · -- the trade of the event: its chain grows by the event
      obtain rfl : r = trade := List.inj_on_of_nodup_map h.tradeIds hr hmem (hsame.trans (hrow.trans hkey.symm))
      rw [if_pos ⟨hsame, rfl⟩, eventsOf_append, SimTradeRow.advance_toTradeLineage, if_pos hsame.symm]
      have hnext := happends.next
      refine ⟨?_, congrArg (· + 1) hcount⟩
      have hto := happends.stored.toState
      have hgrown := chain.append hdelivered happends.stored hkey.symm hnext.sessionId hnext.eventSeq
        hnext.previousEventSha256 hnext.fromState
      rw [← hto] at hgrown
      exact hgrown
    · rw [if_neg fun hboth => hsame hboth.1, eventsOf_append, if_neg (Ne.symm hsame)]
      exact ⟨chain, hcount⟩
  · intro e he
    have hknown : ∃ r ∈ s.trades, r.tradeId = e.tradeId := by
      rcases List.mem_cons.mp he with rfl | he
      · exact ⟨trade, hmem, hkey.trans hrow.symm⟩
      · exact h.known e he
    obtain ⟨r, hr, hkey⟩ := hknown
    have hmem' : e.tradeId ∈ (s.append trade row artifacts).trades.map (·.tradeId) := by
      rw [hids, ← hkey]
      exact List.mem_map_of_mem hr
    exact List.mem_map.mp hmem'
  · intro r hr
    obtain ⟨e, he, hnames⟩ := h.named r hr
    exact ⟨e, List.mem_cons_of_mem _ he, hnames⟩

theorem Journaled.write (h : s.Journaled delivered) (hwrite : SimulatorWrite delivered s t) : t.Journaled delivered := by
  cases hwrite with
  | outside => exact h.congr rfl rfl rfl
  | trade lineage trade column artifacts haccepted => exact h.insertTrade haccepted
  | event artifacts hdelivered happends => exact h.append hdelivered happends
  | command => exact h.congr rfl rfl rfl
  | receipt => exact h.congr rfl rfl rfl
  | complete => exact h.congr rfl rfl rfl
  | result row trade event artifacts haccepted htrade hevent htradeId heventId hto =>
    obtain ⟨-, -, -, -, hunique⟩ := haccepted
    refine { h with resultTrades := ?_, named := ?_ }
    · exact KeyedRows.nodup_cons h.resultTrades fun r hr => (hunique r hr).2
    · exact List.forall_mem_cons.mpr ⟨⟨event, hevent, htradeId, heventId, hto⟩, h.named⟩
  | sessionReceipt => exact h.congr rfl rfl rfl

end SimJournal

end KairosPersistence
