import KairosPersistence.SimulatorProgress

/-!
`load_trade_journal` materialises the lifecycle of a trade from the rows that
`verify_trade_chain` walks. The two agree but for the state that the first event
enters, which only the verifier compares.
-/

namespace KairosPersistence

open PythonJson PythonText
open Transactions (require found bind_ok require_ok ok_bind)

section Model

/-- `SimulationTradeJournal`. -/
structure SimulationTradeJournal where
  trade : SimulationTrade
  state : SimulationTradeState
  nextEventSeq : ℤ
  journalHeadSha256 : Option String
  events : List SimulationTradeEvent

/-- The contracts, with the `model_validate` of a trade. -/
structure JournalContracts extends SimulatorContracts where
  trade : PyJson → Option SimulationTrade

def SimJournal.storedEvents (s : SimJournal) (tradeId : String) : List SimTradeEventRow :=
  (s.events.filter (·.tradeId = tradeId)).insertionSort (·.eventSeq ≤ ·.eventSeq)

/-- The columns of a trade are the lineage of its payload. -/
def SimTradeRow.HasLineage (row : SimTradeRow) (trade : SimulationTrade) : Prop :=
  trade.tradeId = some row.tradeId ∧ trade.sessionId = some row.sessionId ∧
    trade.admissionId = some row.admissionId ∧ trade.intentId = some row.intentId ∧
    trade.symbol = some row.symbol ∧ trade.side = some row.side

instance (row : SimTradeRow) (trade : SimulationTrade) : Decidable (row.HasLineage trade) :=
  inferInstanceAs (Decidable (_ ∧ _))

/-- An event of the trade, and the next one after a cursor, whatever its states. -/
def SimulationTradeEvent.Continues (event : SimulationTradeEvent) (trade : SimulationTrade) (cursor : ChainCursor)
    (row : SimTradeEventRow) : Prop :=
  some event.tradeId = trade.tradeId ∧ some event.sessionId = trade.sessionId ∧
    some event.admissionId = trade.admissionId ∧ some event.intentId = trade.intentId ∧
    some event.symbol = trade.symbol ∧ some event.side = trade.side ∧
    event.eventId = some row.eventId ∧ event.eventId = some row.eventSha256 ∧
    event.eventSeq = cursor.sequence ∧ event.previousEventSha256 = cursor.previousEventSha256

instance (event : SimulationTradeEvent) (trade : SimulationTrade) (cursor : ChainCursor) (row : SimTradeEventRow) :
    Decidable (event.Continues trade cursor row) :=
  inferInstanceAs (Decidable (_ ∧ _))

/-- The body of the loop of `_materialize_trade_journal`. -/
def materializeEvent (contracts : JournalContracts) (trade : SimulationTrade)
    (read : ChainCursor × List SimulationTradeEvent) (row : SimTradeEventRow) :
    Except SimulatorError (ChainCursor × List SimulationTradeEvent) := do
  let (cursor, events) := read
  let event ← storedModel contracts.event row.payload row.payloadSha256 "simulation trade event"
  require (event.Continues trade cursor row)
    (.messageIdentityConflict "simulation trade event chain differs from durable lifecycle")
  require (event.fromState = if cursor.sequence = 1 then none else some cursor.state)
    (.messageIdentityConflict "simulation event prior state differs from durable lifecycle")
  return (⟨cursor.sequence + 1, event.eventId, event.toState⟩, events ++ [event])

/-- `_materialize_trade_journal`; the column of the state admits no unknown one. -/
def materializeTradeJournal (contracts : JournalContracts) (row : SimTradeRow) (rows : List SimTradeEventRow) :
    Except SimulatorError SimulationTradeJournal := do
  let trade ← storedModel contracts.trade row.payload row.payloadSha256 "simulation trade"
  require (row.HasLineage trade)
    (.messageIdentityConflict "simulation trade table lineage differs from its public payload")
  let (cursor, events) ← rows.foldlM (materializeEvent contracts trade) (⟨1, none, .pending⟩, [])
  require (row.state = cursor.state ∧ row.nextEventSeq = cursor.sequence ∧
      row.journalHeadSha256 = cursor.previousEventSha256 ∧ row.eventCount = events.length)
    (.messageIdentityConflict "simulation trade materialization does not match its event chain")
  return ⟨trade, row.state, cursor.sequence, cursor.previousEventSha256, events⟩

/-- `load_trade_journal`. -/
def loadTradeJournal (contracts : JournalContracts) (tradeId : String) (s : SimJournal) :
    Except SimulatorError (Option SimulationTradeJournal) := do
  require (isSha256 tradeId = true) (.valueError "trade_id must be a lowercase SHA-256 hex string")
  match s.trade tradeId with
  | none => return none
  | some row => some <$> materializeTradeJournal contracts row (s.storedEvents tradeId)

end Model

section Agreement

variable {contracts : JournalContracts} {tradeRow : SimTradeRow} {trade : SimulationTrade} {cursor cursor' : ChainCursor}
  {events events' : List SimulationTradeEvent} {row : SimTradeEventRow} {rows : List SimTradeEventRow}

theorem materializeEvent_ok {read read' : ChainCursor × List SimulationTradeEvent}
    (h : materializeEvent contracts trade read row = .ok read') :
    ∃ event, storedModel contracts.event row.payload row.payloadSha256 "simulation trade event" = .ok event ∧
      event.Continues trade read.1 row ∧
      event.fromState = (if read.1.sequence = 1 then none else some read.1.state) ∧
      read' = (⟨read.1.sequence + 1, event.eventId, event.toState⟩, read.2 ++ [event]) := by
  obtain ⟨event, hstored, h⟩ := bind_ok h
  obtain ⟨_, hcontinues, h⟩ := bind_ok h
  obtain ⟨_, hfrom, h⟩ := bind_ok h
  exact ⟨event, hstored, require_ok hcontinues, require_ok hfrom, (Except.ok.inj h).symm⟩

/-- What the verifier makes of an event that the materialisation has accepted. -/
theorem verifyEvent_of_materialize (hlineage : tradeRow.HasLineage trade) {event : SimulationTradeEvent}
    (hstored : storedModel contracts.event row.payload row.payloadSha256 "simulation trade event" = .ok event)
    (hcontinues : event.Continues trade cursor row)
    (hfrom : event.fromState = if cursor.sequence = 1 then none else some cursor.state) :
    verifyEvent contracts.toSimulatorContracts tradeRow (some cursor) row =
      .ok (if cursor.sequence = 1 ∧ event.toState ≠ cursor.state then none
        else some ⟨cursor.sequence + 1, event.eventId, event.toState⟩) := by
  obtain ⟨htrade, hsession, -, -, -, -, hid, hsha, hseq, hprevious⟩ := hcontinues
  obtain ⟨hrowTrade, hrowSession, -⟩ := hlineage
  have htradeId : event.tradeId = tradeRow.tradeId := by
    apply Option.some.inj
    rw [htrade, hrowTrade]
  have hsessionId : event.sessionId = tradeRow.sessionId := by
    apply Option.some.inj
    rw [hsession, hrowSession]
  rw [verifyEvent, hstored, ok_bind, if_neg (by simp [hseq, hprevious]), if_neg (by simp [hid, ← hsha]),
    if_neg (by simp [htradeId, hsessionId])]
  by_cases hfirst : cursor.sequence = 1
  · rw [if_pos hfirst] at hfrom ⊢
    by_cases hto : event.toState = cursor.state
    · rw [if_neg (by simp [hfrom, hto]), if_neg (by simp [hto])]
      rfl
    · rw [if_pos (Or.inr hto), if_pos ⟨hfirst, hto⟩]
      rfl
  · rw [if_neg hfirst] at hfrom ⊢
    rw [if_neg (by simp [hfrom]), if_neg (by simp [hfirst])]
    rfl

theorem verifyEvents_none : rows.foldlM (verifyEvent contracts.toSimulatorContracts tradeRow) none = .ok none := by
  induction rows with
  | nil => rfl
  | cons row rows ih => rw [List.foldlM_cons, verifyEvent, ok_bind, ih]

/-- Every event after the first one that is materialised is verified. -/
theorem verifyEvents_of_materialize (hlineage : tradeRow.HasLineage trade) (hlater : 1 < cursor.sequence)
    (h : rows.foldlM (materializeEvent contracts trade) (cursor, events) = .ok (cursor', events')) :
    rows.foldlM (verifyEvent contracts.toSimulatorContracts tradeRow) (some cursor) = .ok (some cursor') := by
  induction rows generalizing cursor events with
  | nil =>
    obtain ⟨rfl, -⟩ := Prod.mk.inj (Except.ok.inj h)
    rfl
  | cons row rows ih =>
    rw [List.foldlM_cons] at h
    obtain ⟨read, hrow, h⟩ := bind_ok h
    obtain ⟨event, hstored, hcontinues, hfrom, rfl⟩ := materializeEvent_ok hrow
    have hnot : ¬(cursor.sequence = 1 ∧ event.toState ≠ cursor.state) := by
      rintro ⟨hone, -⟩
      omega
    rw [List.foldlM_cons, verifyEvent_of_materialize hlineage hstored hcontinues hfrom, if_neg hnot, ok_bind]
    apply ih
    · show 1 < cursor.sequence + 1
      omega
    · exact h

theorem materializeEvents_length
    (h : rows.foldlM (materializeEvent contracts trade) (cursor, events) = .ok (cursor', events')) :
    events'.length = events.length + rows.length := by
  induction rows generalizing cursor events with
  | nil =>
    obtain ⟨-, rfl⟩ := Prod.mk.inj (Except.ok.inj h)
    rfl
  | cons row rows ih =>
    rw [List.foldlM_cons] at h
    obtain ⟨read, hrow, h⟩ := bind_ok h
    obtain ⟨event, -, -, -, rfl⟩ := materializeEvent_ok hrow
    rw [ih h, List.length_append, List.length_singleton, List.length_cons]
    dsimp only
    omega

/-- The first event that is stored, if any, enters `PENDING`. -/
def EntersPending (contracts : JournalContracts) (rows : List SimTradeEventRow) : Prop :=
  ∀ row ∈ rows.head?, ∀ event,
    storedModel contracts.event row.payload row.payloadSha256 "simulation trade event" = .ok event →
      event.toState = .pending

theorem verifyEvents_first (hlineage : tradeRow.HasLineage trade)
    (h : rows.foldlM (materializeEvent contracts trade) (⟨1, none, .pending⟩, []) = .ok (cursor', events')) :
    rows.foldlM (verifyEvent contracts.toSimulatorContracts tradeRow) (some ⟨1, none, .pending⟩) = .ok (some cursor') ∧
        EntersPending contracts rows ∨
      rows.foldlM (verifyEvent contracts.toSimulatorContracts tradeRow) (some ⟨1, none, .pending⟩) = .ok none ∧
        ¬EntersPending contracts rows := by
  cases rows with
  | nil =>
    obtain ⟨rfl, -⟩ := Prod.mk.inj (Except.ok.inj h)
    left
    exact ⟨rfl, by simp [EntersPending]⟩
  | cons row rows =>
    rw [List.foldlM_cons] at h
    obtain ⟨read, hrow, h⟩ := bind_ok h
    obtain ⟨event, hstored, hcontinues, hfrom, rfl⟩ := materializeEvent_ok hrow
    rw [List.foldlM_cons, verifyEvent_of_materialize hlineage hstored hcontinues hfrom]
    by_cases hto : event.toState = .pending
    · left
      rw [if_neg (by simp [hto]), ok_bind]
      constructor
      · exact verifyEvents_of_materialize hlineage (by simp) h
      · simp [EntersPending, hstored, hto]
    · right
      rw [if_pos ⟨rfl, hto⟩, ok_bind]
      constructor
      · exact verifyEvents_none
      · simp [EntersPending, hstored, hto]

theorem materializeTradeJournal_ok {journal : SimulationTradeJournal}
    (h : materializeTradeJournal contracts tradeRow rows = .ok journal) :
    ∃ cursor, tradeRow.HasLineage journal.trade ∧
      rows.foldlM (materializeEvent contracts journal.trade) (⟨1, none, .pending⟩, []) = .ok (cursor, journal.events) ∧
      tradeRow.state = cursor.state ∧ tradeRow.nextEventSeq = cursor.sequence ∧
      tradeRow.journalHeadSha256 = cursor.previousEventSha256 ∧ tradeRow.eventCount = journal.events.length := by
  obtain ⟨trade, -, h⟩ := bind_ok h
  obtain ⟨_, hlineage, h⟩ := bind_ok h
  obtain ⟨⟨cursor, events⟩, hevents, h⟩ := bind_ok h
  obtain ⟨_, hhead, h⟩ := bind_ok h
  obtain rfl := Except.ok.inj h
  exact ⟨cursor, require_ok hlineage, hevents, require_ok hhead⟩

theorem loadTradeJournal_ok {tradeId : String} {s : SimJournal} {journal : SimulationTradeJournal}
    (h : loadTradeJournal contracts tradeId s = .ok (some journal)) :
    isSha256 tradeId = true ∧ ∃ row, s.trade tradeId = some row ∧
      materializeTradeJournal contracts row (s.storedEvents tradeId) = .ok journal := by
  obtain ⟨_, hsha, h⟩ := bind_ok h
  refine ⟨require_ok hsha, ?_⟩
  cases htrade : s.trade tradeId with
  | none =>
    rw [htrade] at h
    cases h
  | some row =>
    rw [htrade] at h
    dsimp only at h
    refine ⟨row, rfl, ?_⟩
    cases hjournal : materializeTradeJournal contracts row (s.storedEvents tradeId) with
    | error e =>
      rw [hjournal] at h
      cases h
    | ok journal' =>
      rw [hjournal] at h
      rw [Option.some.inj (Except.ok.inj h)]

/-- A journal that loads verifies just when its first event enters `PENDING`. -/
theorem loaded_verifies_iff (contracts : JournalContracts) (tradeId : String) (s : SimJournal)
    (journal : SimulationTradeJournal) (h : loadTradeJournal contracts tradeId s = .ok (some journal)) :
    verifyTradeChain contracts.toSimulatorContracts tradeId s = .ok true ↔
      EntersPending contracts (s.storedEvents tradeId) := by
  obtain ⟨hsha, row, htrade, hjournal⟩ := loadTradeJournal_ok h
  obtain ⟨cursor, hlineage, hevents, hstate, hnext, hhead, hcount⟩ := materializeTradeJournal_ok hjournal
  have hlength := materializeEvents_length hevents
  rw [List.length_nil, Nat.zero_add] at hlength
  rw [verifyTradeChain, Transactions.require_pos hsha, ok_bind, htrade]
  dsimp only
  rw [← SimJournal.storedEvents]
  rcases verifyEvents_first hlineage hevents with ⟨hverified, henters⟩ | ⟨hverified, hleaves⟩
  · rw [hverified, ok_bind]
    constructor
    · intro _
      exact henters
    · intro _
      apply congrArg Except.ok
      exact decide_eq_true ⟨hstate, hnext, hhead, by rw [hcount, hlength]⟩
  · rw [hverified, ok_bind]
    constructor
    · intro hfalse
      cases hfalse
    · intro henters
      exact absurd henters hleaves

end Agreement

section Example

variable (state : SimulationTradeState)

/-- The first event of the trade, into a state. -/
def exampleFirstEvent : SimulationTradeEvent := { exampleEvent with toState := state }

def exampleJournalContracts : JournalContracts where
  event := fun v => if dumps v = dumps exampleEvent.payload.value then some (exampleFirstEvent state) else none
  command := fun _ => none
  receipt := fun _ => none
  trade := fun v => if dumps v = dumps exampleSimTrade.payload.value then some exampleSimTrade else none

def exampleStoredTrade : SimTradeRow where
  toTradeLineage := exampleLineage
  state := state
  stateVersion := 1
  nextEventSeq := 2
  journalHeadSha256 := some (exampleSha '1')
  eventCount := 1
  payloadSha256 := digest exampleSimTrade.payload.value
  payload := exampleColumnOf exampleSimTrade.payload
  createdAtMs := 1

def exampleStoredEvent : SimTradeEventRow :=
  eventRow (exampleSha '1') (exampleFirstEvent state) (exampleColumnOf exampleEvent.payload)

/-- The trade with its one event. -/
def exampleStoredJournal : SimJournal :=
  { exampleJournal with trades := [exampleStoredTrade state], events := [exampleStoredEvent state] }

def exampleMaterialised : SimulationTradeJournal :=
  ⟨exampleSimTrade, state, 2, some (exampleSha '1'), [exampleFirstEvent state]⟩

theorem exampleStoredEvents :
    (exampleStoredJournal state).storedEvents exampleLineage.tradeId = [exampleStoredEvent state] := by
  simp [SimJournal.storedEvents, exampleStoredJournal, exampleStoredEvent, eventRow, exampleFirstEvent, exampleEvent]

theorem exampleDump_model {α : Type} {modelValidate : PyJson → Option α} {messageId : String} {a : α}
    (hnul : Jsonb.nulFree messageId = true) (n : ℤ)
    (hvalidate : ∀ v, dumps v = dumps (exampleDump messageId (.int n)).value → modelValidate v = some a) (entity : String) :
    storedModel modelValidate (exampleColumnOf (exampleDump messageId (.int n)))
      (digest (exampleDump messageId (.int n)).value) entity = .ok a := by
  apply (exampleDump_reloads hnul n).model
  · exact exampleColumnOf_eq hnul _
  · exact hvalidate

theorem exampleStoredEvent_reads : storedModel (exampleJournalContracts state).event (exampleStoredEvent state).payload
    (exampleStoredEvent state).payloadSha256 "simulation trade event" = .ok (exampleFirstEvent state) := by
  dsimp only [exampleStoredEvent, eventRow, exampleFirstEvent, exampleEvent]
  apply exampleDump_model (by decide) 1
  intro v hv
  exact if_pos hv

theorem loadTradeJournal_example : loadTradeJournal (exampleJournalContracts state) exampleLineage.tradeId
    (exampleStoredJournal state) = .ok (some (exampleMaterialised state)) := by
  have hsha : isSha256 exampleLineage.tradeId = true := by decide +kernel
  have htrade : (exampleStoredJournal state).trade exampleLineage.tradeId = some (exampleStoredTrade state) := by
    simp [SimJournal.trade, exampleStoredJournal, exampleStoredTrade]
  have hstored : storedModel (exampleJournalContracts state).trade (exampleStoredTrade state).payload
      (exampleStoredTrade state).payloadSha256 "simulation trade" = .ok exampleSimTrade := by
    dsimp only [exampleStoredTrade, exampleSimTrade]
    apply exampleDump_model (by decide) 1
    intro v hv
    exact if_pos hv
  have hlineage : (exampleStoredTrade state).HasLineage exampleSimTrade := ⟨rfl, rfl, rfl, rfl, rfl, rfl⟩
  have hcontinues : (exampleFirstEvent state).Continues exampleSimTrade ⟨1, none, .pending⟩
      (exampleStoredEvent state) := ⟨rfl, rfl, rfl, rfl, rfl, rfl, rfl, rfl, rfl, rfl⟩
  have hevent : materializeEvent (exampleJournalContracts state) exampleSimTrade (⟨1, none, .pending⟩, [])
      (exampleStoredEvent state) = .ok (⟨2, some (exampleSha '1'), state⟩, [exampleFirstEvent state]) := by
    rw [materializeEvent]
    dsimp only
    rw [exampleStoredEvent_reads, ok_bind, Transactions.require_pos hcontinues, ok_bind,
      Transactions.require_pos (by simp [exampleFirstEvent, exampleEvent]), ok_bind]
    rfl
  rw [loadTradeJournal, Transactions.require_pos hsha, ok_bind, htrade]
  dsimp only
  rw [exampleStoredEvents, materializeTradeJournal, hstored, ok_bind, Transactions.require_pos hlineage, ok_bind,
    List.foldlM_cons, hevent, ok_bind, List.foldlM_nil, pure_bind]
  dsimp only
  rw [Transactions.require_pos ⟨rfl, rfl, rfl, rfl⟩]
  rfl

/-- A journal that enters `PENDING` first loads and verifies. -/
theorem loaded_verifies_example : verifyTradeChain (exampleJournalContracts .pending).toSimulatorContracts
    exampleLineage.tradeId (exampleStoredJournal .pending) = .ok true := by
  apply (loaded_verifies_iff _ _ _ _ (loadTradeJournal_example .pending)).mpr
  rw [exampleStoredEvents]
  intro row hrow event hevent
  obtain rfl := Option.some.inj hrow
  rw [exampleStoredEvent_reads] at hevent
  rw [← Except.ok.inj hevent]
  rfl

/-- A journal that enters `ACTIVE` first loads, and does not verify. -/
theorem loaded_not_verified : ¬∀ (contracts : JournalContracts) (tradeId : String) (s : SimJournal)
    (journal : SimulationTradeJournal), loadTradeJournal contracts tradeId s = .ok (some journal) →
      verifyTradeChain contracts.toSimulatorContracts tradeId s = .ok true := by
  intro h
  have hverified := h _ _ _ _ (loadTradeJournal_example .active)
  have hsha : isSha256 exampleLineage.tradeId = true := by decide +kernel
  have htrade : (exampleStoredJournal .active).trade exampleLineage.tradeId = some (exampleStoredTrade .active) := by
    simp [SimJournal.trade, exampleStoredJournal, exampleStoredTrade]
  rw [verifyTradeChain, Transactions.require_pos hsha, ok_bind, htrade] at hverified
  dsimp only at hverified
  rw [← SimJournal.storedEvents, exampleStoredEvents, List.foldlM_cons, verifyEvent, exampleStoredEvent_reads,
    ok_bind] at hverified
  revert hverified
  decide +kernel

end Example

end KairosPersistence
