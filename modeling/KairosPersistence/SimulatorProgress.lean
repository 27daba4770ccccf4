import KairosPersistence.SimulatorRuns

/-!
When the operations of the simulator journal succeed on what is new to the tables.
-/

namespace KairosPersistence

open PythonJson PythonText
open Transactions (require found require_pos found_some ok_bind)

section Artifacts

variable {env : SimulatorEnvironment} {payload : ModelDump} {messageId : String} {a : Artifacts}

/-- Neither the audit log nor the outbox has a message of this id. -/
structure Artifacts.Lacks (a : Artifacts) (messageId : String) : Prop where
  audit : ∀ r ∈ a.audit, r.messageId ≠ messageId
  outbox : ∀ i r, a.outbox.rows i = some r → r.messageId ≠ messageId

/-- A payload that the audit log takes under its message id. -/
structure ModelDump.Durable (env : SimulatorEnvironment) (payload : ModelDump) (messageId : String) : Prop where
  named : getField payload.fields "message_id" = .str messageId
  stripped : strip messageId ≠ ""
  source : ∃ s, nonEmptyText (getField payload.fields "source") = some s
  schemaVersion : ∃ s, nonEmptyText (getField payload.fields "schema_version") = some s
  producedAt : ∃ s t, getField payload.fields "produced_at" = .str s ∧ env.fromisoformat s = some (some t)
  correlationId : ∃ s, textArgument (getField payload.fields "correlation_id") = some s
  causationId : ∃ s, textArgument (getField payload.fields "causation_id") = some s
  nulFree : payload.value.everyString Jsonb.nulFree

theorem ModelDump.Durable.nonEmpty (h : payload.Durable env messageId) :
    nonEmptyText (getField payload.fields "message_id") = some messageId := by
  have hne : messageId ≠ "" := by
    rintro rfl
    exact h.stripped rfl
  rw [h.named, nonEmptyText, if_neg hne]

theorem ModelDump.Durable.column (h : payload.Durable env messageId) :
    ∃ column, Jsonb.jsonbIn (dumps payload.value) = some column := ⟨_, Jsonb.jsonbIn_dumps h.nulFree⟩

theorem appendPayload_new (h : payload.Durable env messageId) {audit : List EventAuditRow}
    (haudit : ∀ r ∈ audit, r.messageId ≠ messageId) (topic : String) :
    ∃ row : EventAuditRow, row.messageId = messageId ∧ appendPayload env topic payload audit = .ok (row :: audit, true) := by
  obtain ⟨source, hsource⟩ := h.source
  obtain ⟨schemaVersion, hschema⟩ := h.schemaVersion
  obtain ⟨text, parsedAt, htext, hparsed⟩ := h.producedAt
  obtain ⟨correlationId, hcorrelation⟩ := h.correlationId
  obtain ⟨causationId, hcausation⟩ := h.causationId
  obtain ⟨column, hcolumn⟩ := h.column
  have hnone : (audit.any fun r => r.producedAt = parsedAt ∧ r.messageId = messageId) = false := by
    refine List.any_eq_false.mpr fun r hr => ?_
    simp [haudit r hr]
  refine ⟨⟨parsedAt, messageId, topic, source, schemaVersion, correlationId, causationId, column⟩, rfl, ?_⟩
  unfold appendPayload
  dsimp only
  rw [h.nonEmpty, found_some, ok_bind, hsource, found_some, ok_bind, hschema, found_some, ok_bind, htext]
  dsimp only
  rw [ok_bind, hparsed, found_some, ok_bind, found_some, ok_bind, hcorrelation, found_some, ok_bind, hcausation,
    found_some, ok_bind, hcolumn, found_some, ok_bind, hnone]
  rfl

theorem findMessage_eq_none_of {o : Outbox} (h : ∀ i r, o.rows i = some r → r.messageId ≠ messageId) :
    o.findMessage messageId = none := by
  refine List.find?_eq_none.mpr fun i _ => ?_
  cases hrow : o.rows i with
  | none => simp
  | some r => simpa using h i r hrow

/-- A new artifact is recorded, and its message id is the only new one. -/
theorem appendArtifact_new (h : payload.Durable env messageId) (ha : a.Lacks messageId) (topic : String) :
    ∃ a', appendArtifact env topic payload a = .ok a' ∧ ∀ m, m ≠ messageId → a.Lacks m → a'.Lacks m := by
  obtain ⟨row, hrow, happend⟩ := appendPayload_new h ha.audit topic
  obtain ⟨column, hcolumn⟩ := h.column
  have hfind := findMessage_eq_none_of ha.outbox
  have hempty : a.audit.filter (·.messageId = messageId) = [] := by
    refine List.filter_eq_nil_iff.mpr fun r hr => ?_
    simpa using ha.audit r hr
  have hstrict : appendPayloadStrict env topic payload a.audit = .ok (row :: a.audit, true) := by
    unfold appendPayloadStrict
    rw [h.nonEmpty, Option.filter_some, if_pos (by simpa using h.stripped), found_some, ok_bind]
    dsimp only
    rw [if_neg (by simp [hempty]), happend, ok_bind]
    rfl
  have hqueued : ∃ newRow hnew, newRow.messageId = messageId ∧
      enqueueOutbox messageId topic (canonicalPayload payload.value).1 (canonicalPayload payload.value).2
        simulatorOutboxProducer env.now a.outbox = .ok (a.outbox.insert newRow hnew, true) := by
    refine ⟨newOutboxRow messageId topic column (canonicalPayload payload.value).2 simulatorOutboxProducer env.now,
      hfind, rfl, ?_⟩
    unfold enqueueOutbox
    rw [if_neg (by decide), show Jsonb.jsonbIn (canonicalPayload payload.value).1 = some column from hcolumn]
    dsimp only
    split
    · rfl
    · rename_i hsome
      rw [hfind] at hsome
      cases hsome
  obtain ⟨newRow, hnew, hid, hqueued⟩ := hqueued
  refine ⟨⟨row :: a.audit, a.outbox.insert newRow hnew⟩, ?_, fun m hm hlacks => ⟨?_, ?_⟩⟩
  · rw [appendArtifact, h.nonEmpty, found_some, ok_bind, hstrict, ok_bind, hqueued]
    rfl
  · exact List.forall_mem_cons.mpr ⟨hrow ▸ Ne.symm hm, hlacks.audit⟩
  · intro i r hr
    have hr : (if i = a.outbox.nextId then some newRow else a.outbox.rows i) = some r := hr
    by_cases hi : i = a.outbox.nextId
    · rw [if_pos hi] at hr
      rw [← Option.some.inj hr, hid]
      exact Ne.symm hm
    · rw [if_neg hi] at hr
      exact hlacks.outbox i r hr

end Artifacts

section Operations

variable {env : SimulatorEnvironment} {contracts : SimulatorContracts} {s : SimJournal} {messageId : String}

theorem createTrade_new {trade : SimulationTrade} {lineage : TradeLineage} {admission : SimAdmissionRow}
    (hbound : trade.decisionBound = true) (hlineage : trade.lineage = some lineage)
    (hadmission : s.admission lineage.sessionId lineage.admissionId = some admission)
    (hidentity : assertPayloadIdentity admission.payload admission.payloadSha256 (digest trade.admission.value)
      "simulation trade admission" = .ok ())
    (htrade : s.trade lineage.tradeId = none)
    (haccepted : ∀ column, (tradeRow lineage trade column).Accepted s)
    (hdurable : trade.payload.Durable env messageId) (hlacks : s.artifacts.Lacks messageId) :
    ∃ column artifacts, Jsonb.jsonbIn (dumps trade.payload.value) = some column ∧ createTrade env trade s =
      .ok ({ s with trades := tradeRow lineage trade column :: s.trades, artifacts := artifacts }, true) ∧
      ∀ m, m ≠ messageId → s.artifacts.Lacks m → artifacts.Lacks m := by
  obtain ⟨column, hcolumn⟩ := hdurable.column
  obtain ⟨artifacts, happend, hothers⟩ := appendArtifact_new hdurable hlacks "kairos.simulation.trade.v1"
  refine ⟨column, artifacts, hcolumn, ?_, hothers⟩
  unfold createTrade
  rw [require_pos hbound, ok_bind, hlineage, found_some, ok_bind, hadmission, found_some, ok_bind, hidentity, ok_bind,
    htrade]
  dsimp only
  rw [show Jsonb.jsonbIn (canonicalPayload trade.payload.value).1 = some column from hcolumn, found_some, ok_bind,
    require_pos (haccepted column), ok_bind, happend]
  rfl

theorem appendTradeEvent_new {event : SimulationTradeEvent} {eventId : String} {trade : SimTradeRow}
    (heventId : event.eventId = some eventId) (hevent : s.event eventId = none)
    (htrade : s.trade event.tradeId = some trade) (hnext : checkNextEvent trade event = .ok ())
    (hreceipt : checkEventReceipt event s = .ok ())
    (hcurrent : s.trades.countP (fun r => r.tradeId = event.tradeId ∧ r.stateVersion = trade.stateVersion) = 1)
    (haccepted : ∀ column, (eventRow eventId event column).Accepted s)
    (hdurable : event.payload.Durable env messageId) (hlacks : s.artifacts.Lacks messageId) :
    ∃ t, appendTradeEvent env event s = .ok (t, true) := by
  obtain ⟨column, hcolumn⟩ := hdurable.column
  obtain ⟨artifacts, happend, -⟩ := appendArtifact_new hdurable hlacks "kairos.simulation.trade_event.v2"
  refine ⟨s.append trade (eventRow eventId event column) artifacts, ?_⟩
  unfold appendTradeEvent appendTradeEventLocked
  rw [heventId, found_some, ok_bind, hevent]
  dsimp only
  rw [htrade, found_some, ok_bind, hnext, ok_bind, hreceipt, ok_bind, require_pos hcurrent, ok_bind,
    show Jsonb.jsonbIn (canonicalPayload event.payload.value).1 = some column from hcolumn, found_some, ok_bind,
    require_pos (haccepted column), ok_bind, happend]
  rfl

theorem prepareCommand_new {command : SimulationCommand} {commandId side : String} {lineage : TradeLineage}
    (hside : command.side = some side) (hlineage : command.lineage side = some (commandId, lineage))
    (htrade : assertExactTrade s command.trade lineage.sessionId lineage.tradeId = .ok ())
    (hcommand : s.command commandId = none)
    (haccepted : ∀ column, (simCommandRow commandId lineage command column).Accepted s)
    (hdurable : command.payload.Durable env messageId) (hlacks : s.artifacts.Lacks messageId) :
    ∃ column artifacts, Jsonb.jsonbIn (dumps command.payload.value) = some column ∧
      prepareCommand env contracts command s =
        .ok ({ s with commands := simCommandRow commandId lineage command column :: s.commands, artifacts := artifacts },
          ⟨command, true, .prepared⟩) ∧
      ∀ m, m ≠ messageId → s.artifacts.Lacks m → artifacts.Lacks m := by
  obtain ⟨column, hcolumn⟩ := hdurable.column
  obtain ⟨artifacts, happend, hothers⟩ := appendArtifact_new hdurable hlacks "kairos.simulation.command.v1"
  refine ⟨column, artifacts, hcolumn, ?_, hothers⟩
  unfold prepareCommand
  rw [hside, Option.bind_some, hlineage, found_some, ok_bind]
  dsimp only
  rw [htrade, ok_bind, hcommand]
  dsimp only
  rw [show Jsonb.jsonbIn (canonicalPayload command.payload.value).1 = some column from hcolumn, found_some, ok_bind,
    require_pos (haccepted column), ok_bind, happend]
  rfl

theorem completeCommand_new {call : Completion} {commandId receiptId : String} {lineage : TradeLineage}
    {row : SimCommandRow} {receipt : JsonColumn → SimCommandReceiptRow}
    (hcheck : call.check = .ok (commandId, lineage, receiptId)) (hrow : s.command commandId = some row)
    (hidentity : assertPayloadIdentity row.payload row.payloadSha256 (digest call.command.payload.value)
      "simulation command" = .ok ())
    (hfresh : s.receiptOf commandId = none) (hstatus : row.status = .prepared)
    (htrade : assertExactTrade s call.command.trade lineage.sessionId lineage.tradeId = .ok ())
    (hreceipt : ∀ column, commandReceiptRow receiptId commandId call.receipt column = some (receipt column))
    (haccepted : ∀ column, (receipt column).Accepted s)
    (hstate : call.modelStatePayload.value.everyString Jsonb.nulFree)
    (hsession : lineage.symbol ∈ simulationSymbols ∧ (s.session lineage.sessionId).isSome)
    (hevents : call.events = [])
    (hprepared : s.commands.countP (fun r => r.commandId = commandId ∧ r.status = .prepared) = 1)
    (hdurable : call.receipt.payload.Durable env messageId) (hlacks : s.artifacts.Lacks messageId) :
    ∃ column liquidity artifacts, completeCommand env contracts call s =
        .ok ((s.insertReceipt (receipt column) liquidity).markCompleted commandId env.now artifacts,
          ⟨call.receipt, true⟩) ∧
      ∀ m, m ≠ messageId → s.artifacts.Lacks m → artifacts.Lacks m := by
  obtain ⟨column, hcolumn⟩ := hdurable.column
  obtain ⟨stateColumn, hstateColumn⟩ : ∃ stateColumn,
      Jsonb.jsonbIn (canonicalPayload call.modelStatePayload.value).1 = some stateColumn :=
    ⟨_, Jsonb.jsonbIn_dumps hstate⟩
  obtain ⟨artifacts, happend, hothers⟩ := appendArtifact_new hdurable hlacks "kairos.simulation.command_receipt.v1"
  refine ⟨column, ⟨lineage.sessionId, lineage.symbol, call.modelStateSchemaVersion,
    digest call.modelStatePayload.value, stateColumn⟩, artifacts, ?_, hothers⟩
  unfold completeCommand
  rw [hcheck, ok_bind]
  dsimp only
  rw [hrow, found_some, ok_bind, hidentity, ok_bind, hfresh]
  dsimp only
  unfold completePrepared
  rw [require_pos hstatus, ok_bind, htrade, ok_bind,
    show Jsonb.jsonbIn (canonicalPayload call.receipt.payload.value).1 = some column from hcolumn, found_some, ok_bind,
    hreceipt, found_some, ok_bind, require_pos (haccepted column), ok_bind,
    hstateColumn, found_some, ok_bind, require_pos hsession, ok_bind, hevents]
  dsimp only
  rw [completeEvents, ok_bind, require_pos hprepared, ok_bind, happend]
  rfl

theorem recordSessionReceipt_new {receipt : SimulationSessionReceipt} {receiptId sessionId tapeId tapeSha256 : String}
    {session : SimSessionRow} (hreceiptId : receipt.receiptId = some receiptId)
    (hsessionId : receipt.sessionId = some sessionId) (htapeId : receipt.tapeId = some tapeId)
    (htapeSha256 : receipt.tapeSha256 = some tapeSha256) (hsession : s.session sessionId = some session)
    (hidentity : assertPayloadIdentity session.payload session.payloadSha256 (digest receipt.session.value)
      "simulation session receipt session" = .ok ())
    (htape : session.tapeId = tapeId ∧ session.tapeSha256 = tapeSha256)
    (hheads : receipt.tradeJournals = s.journalHeads sessionId) (hstate : receipt.receiptState = .blocked)
    (hfresh : s.sessionReceipts = [])
    (haccepted : ∀ column, (sessionReceiptRow receiptId sessionId tapeId tapeSha256 receipt column).Accepted s)
    (hdurable : receipt.payload.Durable env messageId) (hlacks : s.artifacts.Lacks messageId) :
    ∃ column artifacts, recordSessionReceipt env receipt s = .ok (s.sealSession
        (sessionReceiptRow receiptId sessionId tapeId tapeSha256 receipt column) artifacts, true) ∧
      ∀ m, m ≠ messageId → s.artifacts.Lacks m → artifacts.Lacks m := by
  obtain ⟨column, hcolumn⟩ := hdurable.column
  obtain ⟨artifacts, happend, hothers⟩ := appendArtifact_new hdurable hlacks "kairos.simulation.session_receipt.v1"
  have hnone : s.sessionReceipt receiptId = none ∧ s.sessionReceiptOf sessionId = none := by
    rw [SimJournal.sessionReceipt, SimJournal.sessionReceiptOf, hfresh]
    exact ⟨rfl, rfl⟩
  refine ⟨column, artifacts, ?_, hothers⟩
  unfold recordSessionReceipt
  dsimp only
  rw [hreceiptId, found_some, ok_bind, hsessionId, found_some, ok_bind, htapeId, found_some, ok_bind, htapeSha256,
    found_some, ok_bind, hsession, found_some, ok_bind, hidentity, ok_bind, require_pos htape, ok_bind,
    require_pos hheads, ok_bind, require_pos (by simp [hstate]), ok_bind, hnone.1]
  dsimp only
  rw [hnone.2, require_pos (by rfl), ok_bind,
    show Jsonb.jsonbIn (canonicalPayload receipt.payload.value).1 = some column from hcolumn, found_some, ok_bind,
    require_pos (haccepted column), ok_bind, happend]
  rfl

end Operations

section Example

def exampleDump (messageId : String) (value : PyNumber) : ModelDump where
  fields := [("message_id", .str messageId), ("source", .str "simulator"), ("schema_version", .str "v1"),
    ("produced_at", .str "2026-01-01T00:00:00Z"), ("value", .num value)]
  uniqueKeys := by
    rw [Json.uniqueKeys_obj]
    simp [Json.UniqueKeys]

def exampleSimEnvironment : SimulatorEnvironment where
  fromisoformat := fun _ => some (some 1767225600000000)
  now := 0

theorem exampleDump_nulFree {messageId : String} (h : Jsonb.nulFree messageId = true) (value : PyNumber) :
    (exampleDump messageId value).value.everyString Jsonb.nulFree := by
  simp [exampleDump, ModelDump.value, Json.everyString, Json.everyStringFields, h]
  decide

theorem exampleDump_durable {messageId : String} (hnul : Jsonb.nulFree messageId = true) (hstrip : strip messageId ≠ "")
    (value : PyNumber) : (exampleDump messageId value).Durable exampleSimEnvironment messageId where
  named := rfl
  stripped := hstrip
  source := ⟨"simulator", rfl⟩
  schemaVersion := ⟨"v1", rfl⟩
  producedAt := ⟨_, _, rfl, rfl⟩
  correlationId := ⟨none, rfl⟩
  causationId := ⟨none, rfl⟩
  nulFree := exampleDump_nulFree hnul value

theorem exampleDump_reloads {messageId : String} (hnul : Jsonb.nulFree messageId = true) (n : ℤ) :
    Reloads (exampleDump messageId (.int n)).value := by
  refine (reloads_iff (exampleDump_nulFree hnul _)).mpr fun m hm => ?_
  simp [exampleDump, ModelDump.value, Json.numbers, Json.numbersFields] at hm
  rw [hm]
  trivial

def exampleColumnOf (payload : ModelDump) : JsonColumn := (Jsonb.jsonbIn (dumps payload.value)).getD .null

theorem exampleColumnOf_eq {messageId : String} (hnul : Jsonb.nulFree messageId = true) (value : PyNumber) :
    Jsonb.jsonbIn (dumps (exampleDump messageId value).value) = some (exampleColumnOf (exampleDump messageId value)) := by
  rw [exampleColumnOf, Jsonb.jsonbIn_dumps (exampleDump_nulFree hnul value)]
  rfl

theorem exampleDump_identity {messageId : String} (hnul : Jsonb.nulFree messageId = true) (n : ℤ) (entity : String) :
    assertPayloadIdentity (exampleColumnOf (exampleDump messageId (.int n))) (digest (exampleDump messageId (.int n)).value)
      (digest (exampleDump messageId (.int n)).value) entity = .ok () :=
  (exampleDump_reloads hnul n).identity (exampleColumnOf_eq hnul _) entity

def exampleLineage : TradeLineage :=
  ⟨exampleSha 'c', exampleSha 'a', exampleSha 'b', exampleSha 'd', "BTCUSDT", "LONG"⟩

def exampleSimTrade : SimulationTrade where
  decisionBound := true
  admission := exampleDump "admission" (.int 1)
  tradeId := some exampleLineage.tradeId
  sessionId := some exampleLineage.sessionId
  admissionId := some exampleLineage.admissionId
  intentId := some exampleLineage.intentId
  symbol := some exampleLineage.symbol
  side := some exampleLineage.side
  createdAtMs := 1
  payload := exampleDump "trade" (.int 1)

theorem exampleSimTrade_lineage : exampleSimTrade.lineage = some exampleLineage := rfl

def exampleSessionRow : SimSessionRow where
  sessionId := exampleLineage.sessionId
  tapeId := "tape"
  tapeSha256 := exampleSha '0'
  state := .open
  payloadSha256 := digest (exampleDump "session" (.int 1)).value
  payload := exampleColumnOf (exampleDump "session" (.int 1))

def exampleAdmissionRow : SimAdmissionRow where
  admissionId := exampleLineage.admissionId
  sessionId := exampleLineage.sessionId
  payloadSha256 := digest (exampleDump "admission" (.int 1)).value
  payload := exampleColumnOf (exampleDump "admission" (.int 1))

/-- A session and an admission are stored. -/
def exampleJournal : SimJournal where
  sessions := [exampleSessionRow]
  admissions := [exampleAdmissionRow]
  trades := []
  events := []
  commands := []
  receipts := []
  liquidity := []
  results := []
  sessionReceipts := []
  artifacts := ⟨[], Outbox.empty⟩

theorem exampleJournal_initial : exampleJournal.Initial := ⟨rfl, rfl, rfl, rfl, rfl, rfl⟩

theorem exampleJournal_lacks (messageId : String) : exampleJournal.artifacts.Lacks messageId :=
  ⟨by simp [exampleJournal], fun _ _ h => nomatch h⟩

/-- The trade is created in a journal that has its session and its admission, and no trade yet. -/
theorem createTrade_example {s : SimJournal} (hsession : (s.session exampleLineage.sessionId).isSome)
    (hadmissions : s.admissions = exampleJournal.admissions) (htrades : s.trades = [])
    (hlacks : s.artifacts.Lacks "trade") :
    ∃ column artifacts, Jsonb.jsonbIn (dumps exampleSimTrade.payload.value) = some column ∧
      createTrade exampleSimEnvironment exampleSimTrade s =
        .ok ({ s with trades := [tradeRow exampleLineage exampleSimTrade column], artifacts := artifacts }, true) ∧
      ∀ m, m ≠ "trade" → s.artifacts.Lacks m → artifacts.Lacks m := by
  have hadmission : s.admission exampleLineage.sessionId exampleLineage.admissionId = some exampleAdmissionRow := by
    rw [SimJournal.admission, hadmissions, exampleJournal, List.find?_cons_of_pos]
    exact decide_eq_true ⟨rfl, rfl⟩
  have hidentity : assertPayloadIdentity exampleAdmissionRow.payload exampleAdmissionRow.payloadSha256
      (digest exampleSimTrade.admission.value) "simulation trade admission" = .ok () := by
    dsimp only [exampleAdmissionRow, exampleSimTrade]
    exact exampleDump_identity (by decide) 1 _
  have hnone : s.trade exampleLineage.tradeId = none := by
    rw [SimJournal.trade, htrades]
    rfl
  have haccepted : ∀ column, (tradeRow exampleLineage exampleSimTrade column).Accepted s := by
    intro column
    have hsha : isSha256 exampleLineage.tradeId = true ∧ isSha256 exampleLineage.intentId = true := by decide +kernel
    refine ⟨hsha.1, hsha.2, ?_, ?_, ?_, hsession, by simp [htrades]⟩
    · simp [tradeRow, exampleLineage, simulationSymbols]
    · simp [tradeRow, exampleLineage]
    · simp [tradeRow, exampleSimTrade]
  have hdurable : exampleSimTrade.payload.Durable exampleSimEnvironment "trade" :=
    exampleDump_durable (by decide) (by decide) _
  have hcreated := createTrade_new rfl exampleSimTrade_lineage hadmission hidentity hnone haccepted hdurable hlacks
  rw [htrades] at hcreated
  exact hcreated

def exampleContracts : SimulatorContracts := ⟨fun _ => none, fun _ => none, fun _ => none⟩

/-- The admission event of the trade. -/
def exampleEvent : SimulationTradeEvent where
  eventId := some (exampleSha '1')
  sessionId := exampleLineage.sessionId
  admissionId := exampleLineage.admissionId
  intentId := exampleLineage.intentId
  tradeId := exampleLineage.tradeId
  symbol := exampleLineage.symbol
  side := exampleLineage.side
  eventSeq := 1
  previousEventSha256 := none
  eventType := "ADMITTED"
  fromState := none
  toState := .pending
  occurredAtMs := 1
  commandId := none
  receiptId := none
  payload := exampleDump "event" (.int 1)

theorem appendTradeEvent_example {s : SimJournal} {column : JsonColumn}
    (htrades : s.trades = [tradeRow exampleLineage exampleSimTrade column]) (hevents : s.events = [])
    (hlacks : s.artifacts.Lacks "event") : ∃ t, appendTradeEvent exampleSimEnvironment exampleEvent s = .ok (t, true) := by
  have hevent : s.event (exampleSha '1') = none := by
    rw [SimJournal.event, hevents]
    rfl
  have htrade : s.trade exampleLineage.tradeId = some (tradeRow exampleLineage exampleSimTrade column) := by
    rw [SimJournal.trade, htrades, List.find?_cons_of_pos]
    exact decide_eq_true rfl
  have hnext : checkNextEvent (tradeRow exampleLineage exampleSimTrade column) exampleEvent = .ok () := by
    simp [checkNextEvent, assertTradeLineage, tradeRow, exampleEvent]
  have hcurrent : s.trades.countP (fun r => r.tradeId = exampleEvent.tradeId ∧
      r.stateVersion = (tradeRow exampleLineage exampleSimTrade column).stateVersion) = 1 := by
    simp [htrades, tradeRow, exampleEvent]
  have haccepted : ∀ column, (eventRow (exampleSha '1') exampleEvent column).Accepted s := by
    intro column
    have hsha : isSha256 (exampleSha '1') = true := by decide +kernel
    refine ⟨hsha, Int.one_pos, Int.one_nonneg, ?_, by simp [eventRow, exampleEvent], by simp [eventRow, exampleEvent],
      by simp [eventRow, exampleEvent], by simp [hevents]⟩
    rw [show (eventRow (exampleSha '1') exampleEvent column).tradeId = exampleLineage.tradeId from rfl, htrade]
    rfl
  have hdurable : exampleEvent.payload.Durable exampleSimEnvironment "event" :=
    exampleDump_durable (by decide) (by decide) _
  exact appendTradeEvent_new rfl hevent htrade hnext rfl hcurrent haccepted hdurable hlacks

end Example

end KairosPersistence
