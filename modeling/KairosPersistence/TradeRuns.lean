import KairosPersistence.PublicExecutionEvents
import KairosPersistence.Runs

/-!
Runs of the trade repository: each call is a transaction under the lock of its
trade, and what it commits is a sequence of a few kinds of writes.
-/

namespace KairosPersistence.TradeLifecycle

open PythonJson PythonText Relation
open Transactions (bind_ok ok_bind require require_ok found found_ok)

section Calls

inductive TradeCall where
  | create (trade : NewTrade)
  | createWithExecutionEvent (trade : NewTrade) (factKey : String) (build : EventBuilder)
  | transition (tradeId : String) (request : TransitionRequest)
  | transitionWithExecutionEvent (tradeId : String) (request : TransitionRequest) (factKey : String) (build : EventBuilder)
  | appendExecutionEvent (tradeId factKey : String) (expectedStateVersion : ℤ) (build : EventBuilder)
  | markReconciled (tradeId detail : String)
  | nextEventSequence (tradeId : String)

/-- What a transaction leaves, and whether it raises. -/
def committed {α : Type} (body : TradeTables → Except TradeError (TradeTables × α)) (t : TradeTables) :
    TradeTables × Except TradeError Unit :=
  ((Transactions.run body t).1, (Transactions.run body t).2.map fun _ => ())

/-- A call at the time `now`. -/
def TradeCall.run (contracts : ExecutionContracts) (now : Timestamp) :
    TradeCall → TradeTables → TradeTables × Except TradeError Unit
  | .create trade => committed (TradeLifecycle.create contracts trade)
  | .createWithExecutionEvent trade factKey build =>
    committed (TradeLifecycle.createWithExecutionEvent contracts now trade factKey build)
  | .transition tradeId request => committed (TradeLifecycle.transition tradeId request)
  | .transitionWithExecutionEvent tradeId request factKey build =>
    committed (TradeLifecycle.transitionWithExecutionEvent contracts now tradeId request factKey build)
  | .appendExecutionEvent tradeId factKey expectedStateVersion build =>
    committed (TradeLifecycle.appendExecutionEvent contracts now tradeId factKey expectedStateVersion build)
  | .markReconciled tradeId detail => fun t =>
    ((TradeLifecycle.markReconciled now tradeId detail t).1,
      (TradeLifecycle.markReconciled now tradeId detail t).2.map fun _ => ())
  | .nextEventSequence tradeId => committed (TradeLifecycle.nextEventSequence tradeId)

/-- The call makes no legacy reservation unless these are allowed, and the payloads that it stores are of a kind. -/
def TradeCall.Within (legacy : Prop) (stored : ModelDump → Prop) : TradeCall → Prop
  | .create trade | .createWithExecutionEvent trade _ _ => stored trade.riskDecisionPayload
  | .transition _ request | .transitionWithExecutionEvent _ request _ _ => stored request.eventPayload
  | .appendExecutionEvent _ _ _ _ | .markReconciled _ _ => True
  | .nextEventSequence _ => legacy

inductive TradeStep (contracts : ExecutionContracts) (legacy : Prop) (stored : ModelDump → Prop) :
    TradeTables → TradeTables → Prop
  | call {t : TradeTables} (now : Timestamp) (call : TradeCall) (hwithin : call.Within legacy stored) :
    TradeStep contracts legacy stored t (call.run contracts now t).1

structure TradeTables.Initial (t : TradeTables) : Prop where
  trades : t.trades = []
  events : t.events = []
  facts : t.facts = []
  outbox : ∀ i, t.artifacts.outbox.rows i = none

/-- The tables that a run from empty ones passes through. -/
def TradeTables.Reachable (contracts : ExecutionContracts) (legacy : Prop) (stored : ModelDump → Prop) : TradeTables → Prop :=
  Runs.Reachable TradeTables.Initial (TradeStep contracts legacy stored)

end Calls

section Writes

/-- What a new fact writes. -/
structure Publishes (trade : TradeRow) (factKey : String) (event : TradeExecutionEvent) (column : JsonColumn)
    (now : Timestamp) (t t' : TradeTables) : Prop where
  current : t.trade trade.tradeId = some trade
  absent : t.fact trade.tradeId factKey = none
  sequence : event.eventSeq = trade.nextExecutionEventSeq
  message : event.messageId = event.eventId
  matching : event.mismatches trade true = []
  stored : Jsonb.jsonbIn (dumps event.dump.value) = some column
  insertable : t.FactInsertable (factRow factKey trade.stateVersion trade event column)
  tables : ∃ artifacts, publishFact now event t.artifacts = .ok artifacts ∧
    t' = { t.update { trade with nextExecutionEventSeq := trade.nextExecutionEventSeq + 1 } with
      facts := factRow factKey trade.stateVersion trade event column :: t.facts
      artifacts := artifacts }

inductive TradeWrite (legacy : Prop) (stored : ModelDump → Prop) (t : TradeTables) : TradeTables → Prop
  | created {trade payload row t'} (hstored : stored payload) (hcreates : Creates trade payload t t' row) :
    TradeWrite legacy stored t t'
  | moved {row request progress column t'} (hstored : stored request.eventPayload)
    (hrow : t.trade row.tradeId = some row) (hmoves : Moves row request progress column t t') :
    TradeWrite legacy stored t t'
  | published {trade factKey event column now t'} (hpublishes : Publishes trade factKey event column now t t') :
    TradeWrite legacy stored t t'
  | republished {existing now event artifacts} (hfact : existing ∈ t.facts)
    (hread : ∃ data, objectOf existing.payload = .ok data ∧ digest data = existing.payloadSha256)
    (hpublish : publishFact now event t.artifacts = .ok artifacts) :
    TradeWrite legacy stored t { t with artifacts := artifacts }
  | reconciled {row} (now : Timestamp) (detail : String) (hrow : t.trade row.tradeId = some row) :
    TradeWrite legacy stored t
      (t.update { row with lastReconciledAt := some now, reconciliationDetail := some detail })
  | reserved {row} (hlegacy : legacy) (hrow : t.trade row.tradeId = some row) :
    TradeWrite legacy stored t (t.update { row with nextExecutionEventSeq := row.nextExecutionEventSeq + 1 })

variable {contracts : ExecutionContracts} {legacy : Prop} {stored : ModelDump → Prop} {t t' : TradeTables}
  {row : TradeRow} {now : Timestamp}

theorem trade_mem {tradeId : String} (h : t.trade tradeId = some row) : row ∈ t.trades ∧ row.tradeId = tradeId :=
  KeyedRows.find?_mem h

theorem trade_self {tradeId : String} (h : t.trade tradeId = some row) : t.trade row.tradeId = some row := by
  rw [(trade_mem h).2]
  exact h

theorem trade_update {r : TradeRow} (h : t.trade row.tradeId = some r) : (t.update row).trade row.tradeId = some row :=
  KeyedRows.find?_replace h

theorem Creates.current {trade : TradeIdentity} {payload : ModelDump} (h : Creates trade payload t t' row) :
    t'.trade row.tradeId = some row := by
  cases h with
  | existing hrow => exact trade_self hrow
  | inserted => exact List.find?_cons_of_pos (decide_eq_true rfl)

theorem Creates.facts {trade : TradeIdentity} {payload : ModelDump} (h : Creates trade payload t t' row) :
    t'.facts = t.facts ∧ t'.artifacts = t.artifacts := by
  cases h with
  | existing => exact ⟨rfl, rfl⟩
  | inserted => exact ⟨rfl, rfl⟩

theorem lockTrade_ok {tradeId : String} (h : lockTrade tradeId t = .ok row) :
    t.trade tradeId = some row ∧ row.Readable := by
  obtain ⟨found, hfound, h⟩ := bind_ok h
  obtain ⟨r, hrecord, h⟩ := bind_ok h
  obtain rfl := Except.ok.inj h
  obtain ⟨hrow, hreadable⟩ := record_ok hrecord
  rw [hrow]
  exact ⟨found_ok hfound, hreadable⟩

theorem storedExecutionEvent_ok {payload : JsonColumn} {sha : String} {event : TradeExecutionEvent}
    (h : storedExecutionEvent contracts payload sha = .ok event) :
    ∃ data, objectOf payload = .ok data ∧ digest data = sha ∧ contracts.executionEvent data = some event := by
  obtain ⟨data, hdata, h⟩ := bind_ok h
  obtain ⟨_, hdigest, h⟩ := bind_ok h
  exact ⟨data, hdata, require_ok hdigest, found_ok h⟩

theorem validateExecutionEvent_ok {event : TradeExecutionEvent} {current : Bool} {u : Unit}
    (h : validateExecutionEvent event row current = .ok u) :
    event.messageId = event.eventId ∧ event.mismatches row current = [] := by
  obtain ⟨_, hmessage, h⟩ := bind_ok h
  exact ⟨require_ok hmessage, require_ok h⟩

/-- What appending a fact has done: it is stored already, or it is written. -/
theorem appendExecutionEventLocked_ok {factKey : String} {version : ℕ} {build : EventBuilder} {event : TradeExecutionEvent}
    (hrow : t.trade row.tradeId = some row)
    (h : appendExecutionEventLocked contracts now row factKey version build t = .ok (t', event)) :
    (∃ existing artifacts, t.fact row.tradeId factKey = some existing ∧
        (∃ data, objectOf existing.payload = .ok data ∧ digest data = existing.payloadSha256) ∧
        publishFact now event t.artifacts = .ok artifacts ∧ t' = { t with artifacts := artifacts }) ∨
      ∃ column, row.stateVersion = version ∧ Publishes row factKey event column now t t' := by
  unfold appendExecutionEventLocked at h
  split at h
  · rename_i existing hexisting
    apply Or.inl
    obtain ⟨_, _, h⟩ := bind_ok h
    obtain ⟨event', hstored, h⟩ := bind_ok h
    obtain ⟨_, _, h⟩ := bind_ok h
    obtain ⟨_, _, h⟩ := bind_ok h
    obtain ⟨_, _, h⟩ := bind_ok h
    obtain ⟨_, _, h⟩ := bind_ok h
    obtain ⟨_, _, h⟩ := bind_ok h
    obtain ⟨artifacts, hpublish, h⟩ := bind_ok h
    obtain ⟨rfl, rfl⟩ := Prod.mk.inj (Except.ok.inj h)
    obtain ⟨data, hdata, hdigest, -⟩ := storedExecutionEvent_ok hstored
    exact ⟨existing, artifacts, hexisting, ⟨data, hdata, hdigest⟩, hpublish, rfl⟩
  · rename_i habsent
    apply Or.inr
    obtain ⟨_, hversion, h⟩ := bind_ok h
    obtain ⟨found, hfound, h⟩ := bind_ok h
    obtain ⟨event', _, h⟩ := bind_ok h
    obtain ⟨_, hsequence, h⟩ := bind_ok h
    obtain ⟨_, hvalid, h⟩ := bind_ok h
    obtain ⟨column, hcolumn, h⟩ := bind_ok h
    obtain ⟨_, hinsertable, h⟩ := bind_ok h
    obtain ⟨artifacts, hpublish, h⟩ := bind_ok h
    obtain ⟨rfl, rfl⟩ := Prod.mk.inj (Except.ok.inj h)
    obtain rfl := Option.some.inj (hrow.symm.trans (found_ok hfound))
    obtain rfl := require_ok hversion
    obtain ⟨hmessage, hmatching⟩ := validateExecutionEvent_ok hvalid
    exact ⟨column, rfl, hrow, habsent, require_ok hsequence, hmessage, hmatching, found_ok hcolumn, require_ok hinsertable,
      artifacts, hpublish, rfl⟩

theorem fact_mem {tradeId factKey : String} {existing : PublicEventRow} (h : t.fact tradeId factKey = some existing) :
    existing ∈ t.facts ∧ existing.tradeId = tradeId ∧ existing.factKey = factKey :=
  ⟨List.mem_of_find?_eq_some h, by simpa using List.find?_some h⟩

theorem appendExecutionEventLocked_writes {factKey : String} {version : ℕ} {build : EventBuilder}
    {event : TradeExecutionEvent} (hrow : t.trade row.tradeId = some row)
    (h : appendExecutionEventLocked contracts now row factKey version build t = .ok (t', event)) :
    TradeWrite legacy stored t t' := by
  rcases appendExecutionEventLocked_ok hrow h with ⟨existing, artifacts, hfact, hread, hpublish, rfl⟩ | ⟨column, -, hpublishes⟩
  · exact .republished (fact_mem hfact).1 hread hpublish
  · exact .published hpublishes

theorem committed_cases {α : Type} (body : TradeTables → Except TradeError (TradeTables × α)) (t : TradeTables) :
    (committed body t).1 = t ∨ ∃ a, body t = .ok ((committed body t).1, a) :=
  Transactions.run_cases body t

/-- What a transaction commits is what its body leaves. -/
theorem committed_writes {α : Type} {body : TradeTables → Except TradeError (TradeTables × α)}
    (h : ∀ t' a, body t = .ok (t', a) → ReflTransGen (TradeWrite legacy stored) t t') :
    ReflTransGen (TradeWrite legacy stored) t (committed body t).1 := by
  rcases committed_cases body t with heq | ⟨a, hbody⟩
  · rw [heq]
  · exact h _ a hbody

theorem moved_current {request : TransitionRequest} {progress : TradeProgress} {column : JsonColumn}
    (hrow : t.trade row.tradeId = some row) (h : Moves row request progress column t t') :
    t'.trade (row.advanced request progress).tradeId = some (row.advanced request progress) := by
  rw [h.tables]
  exact trade_update hrow

/-- What a call commits. -/
theorem TradeCall.writes (call : TradeCall) (hwithin : call.Within legacy stored) :
    ReflTransGen (TradeWrite legacy stored) t (call.run contracts now t).1 := by
  cases call with
  | create trade =>
    apply committed_writes
    intro t' a h
    obtain ⟨identity, -, h⟩ := bind_ok h
    obtain ⟨⟨t₁, created⟩, hcreate, h⟩ := bind_ok h
    obtain ⟨rfl, -⟩ := Prod.mk.inj (Except.ok.inj h)
    exact .single (.created hwithin (createLocked_ok hcreate))
  | createWithExecutionEvent trade factKey build =>
    apply committed_writes
    intro t' a h
    obtain ⟨identity, -, h⟩ := bind_ok h
    obtain ⟨_, -, h⟩ := bind_ok h
    obtain ⟨⟨t₁, created⟩, hcreate, h⟩ := bind_ok h
    obtain ⟨_, -, h⟩ := bind_ok h
    obtain ⟨⟨t₂, event⟩, happend, h⟩ := bind_ok h
    obtain ⟨rfl, -⟩ := Prod.mk.inj (Except.ok.inj h)
    have hcreates := createLocked_ok hcreate
    exact .tail (.single (.created hwithin hcreates)) (appendExecutionEventLocked_writes hcreates.current happend)
  | transition tradeId request =>
    apply committed_writes
    intro t' a h
    obtain ⟨_, -, h⟩ := bind_ok h
    obtain ⟨_, -, h⟩ := bind_ok h
    obtain ⟨current, hcurrent, h⟩ := bind_ok h
    obtain ⟨⟨t₁, updated⟩, hmove, h⟩ := bind_ok h
    obtain ⟨rfl, -⟩ := Prod.mk.inj (Except.ok.inj h)
    obtain ⟨progress, column, hmoves, -⟩ := transitionLocked_ok hmove
    exact .single (.moved hwithin (trade_self (lockTrade_ok hcurrent).1) hmoves)
  | transitionWithExecutionEvent tradeId request factKey build =>
    apply committed_writes
    intro t' a h
    obtain ⟨_, -, h⟩ := bind_ok h
    obtain ⟨_, -, h⟩ := bind_ok h
    obtain ⟨_, -, h⟩ := bind_ok h
    obtain ⟨current, hcurrent, h⟩ := bind_ok h
    have hrow := trade_self (lockTrade_ok hcurrent).1
    split at h
    · obtain ⟨_, -, h⟩ := bind_ok h
      obtain ⟨_, -, h⟩ := bind_ok h
      obtain ⟨_, -, h⟩ := bind_ok h
      obtain ⟨⟨t₁, event⟩, happend, h⟩ := bind_ok h
      obtain ⟨rfl, -⟩ := Prod.mk.inj (Except.ok.inj h)
      exact .single (appendExecutionEventLocked_writes hrow happend)
    · obtain ⟨⟨t₁, updated⟩, hmove, h⟩ := bind_ok h
      obtain ⟨⟨t₂, event⟩, happend, h⟩ := bind_ok h
      obtain ⟨rfl, -⟩ := Prod.mk.inj (Except.ok.inj h)
      obtain ⟨progress, column, hmoves, hupdated⟩ := transitionLocked_ok hmove
      have hcurrent := moved_current hrow hmoves
      rw [← hupdated] at hcurrent
      exact .tail (.single (.moved hwithin hrow hmoves)) (appendExecutionEventLocked_writes hcurrent happend)
  | appendExecutionEvent tradeId factKey expectedStateVersion build =>
    apply committed_writes
    intro t' a h
    obtain ⟨_, -, h⟩ := bind_ok h
    obtain ⟨_, -, h⟩ := bind_ok h
    obtain ⟨_, -, h⟩ := bind_ok h
    obtain ⟨current, hcurrent, h⟩ := bind_ok h
    exact .single (appendExecutionEventLocked_writes (trade_self (lockTrade_ok hcurrent).1) h)
  | markReconciled tradeId detail =>
    dsimp only [TradeCall.run, TradeLifecycle.markReconciled]
    split
    · exact .refl
    · rename_i row hchecks
      obtain ⟨_, -, hchecks⟩ := bind_ok hchecks
      obtain ⟨_, -, hchecks⟩ := bind_ok hchecks
      obtain ⟨_, -, hchecks⟩ := bind_ok hchecks
      exact .single (.reconciled now _ (trade_self (found_ok hchecks)))
  | nextEventSequence tradeId =>
    apply committed_writes
    intro t' a h
    obtain ⟨_, -, h⟩ := bind_ok h
    obtain ⟨row, hrow, h⟩ := bind_ok h
    obtain ⟨rfl, -⟩ := Prod.mk.inj (Except.ok.inj h)
    exact .single (.reserved hwithin (trade_self (found_ok hrow)))

/-- What every write keeps is kept by every step. -/
theorem TradeStep.invariant {p : TradeTables → Prop} (hwrite : ∀ t t', p t → TradeWrite legacy stored t t' → p t')
    (ht : p t) (h : TradeStep contracts legacy stored t t') : p t' := by
  cases h with
  | call now call hwithin => exact Runs.run_invariant hwrite (call.writes hwithin) ht

end Writes

end KairosPersistence.TradeLifecycle
