import KairosPersistence.SessionReceipts

/-!
Commands and their receipts: a command is completed at most once, by the
transaction that writes its receipt, its liquidity snapshot and its events.
-/

namespace KairosPersistence

open PythonJson PythonText Relation
open Transactions (bind_ok require_ok run_spec require_pos found_some ok_bind)

/-- A command is completed when it has a receipt, and prepared until then. -/
structure SimJournal.Consistent (s : SimJournal) : Prop where
  commandIds : (s.commands.map (·.commandId)).Nodup
  receiptCommands : (s.receipts.map (·.commandId)).Nodup
  receiptIds : (s.receipts.map (·.receiptId)).Nodup
  status : ∀ row ∈ s.commands, row.status = if (s.receiptOf row.commandId).isSome then .completed else .prepared
  known : ∀ receipt ∈ s.receipts, ∃ row ∈ s.commands, row.commandId = receipt.commandId
  eventReceipts : ∀ e ∈ s.events, ∀ receiptId ∈ e.receiptId, ∃ receipt ∈ s.receipts, receipt.receiptId = receiptId

section Loop

variable {env : SimulatorEnvironment} {s t : SimJournal}

/-- What the loop over the events of a command leaves of the other tables. -/
structure SimJournal.SameCommands (s t : SimJournal) : Prop where
  commands : t.commands = s.commands
  receipts : t.receipts = s.receipts
  liquidity : t.liquidity = s.liquidity

/-- What the loop adds to the journals: rows of the events, each with the receipt. -/
def SimJournal.Adds (s t : SimJournal) (events : List SimulationTradeEvent) (commandId receiptId : String) : Prop :=
  ∃ added, t.events = added ++ s.events ∧ ∀ row ∈ added,
    row.commandId = some commandId ∧ row.receiptId = some receiptId ∧ ∃ event ∈ events, row.Of event

theorem SimTradeEventRow.Of.receipt {row : SimTradeEventRow} {event : SimulationTradeEvent} (h : row.Of event) :
    row.commandId = event.commandId ∧ row.receiptId = event.receiptId := by
  rw [h.inserted]
  exact ⟨rfl, rfl⟩

theorem completeEvents_frame {commandId receiptId : String} {events : List SimulationTradeEvent}
    (h : completeEvents env commandId receiptId events s = .ok t) :
    s.SameCommands t ∧ s.Adds t events commandId receiptId := by
  refine completeEvents_ok (fun u => s.SameCommands u ∧ s.Adds u events commandId receiptId) ?_ h
    ⟨⟨rfl, rfl, rfl⟩, [], rfl, fun _ hrow => nomatch hrow⟩
  rintro event hevent u v created ⟨hsame, added, hadded, hrows⟩ hcommand hreceipt happend
  rcases appendTradeEventLocked_ok happend with ⟨-, rfl, -⟩ | ⟨-, trade, row, artifacts, happends, rfl⟩
  · exact ⟨hsame, added, hadded, hrows⟩
  · refine ⟨⟨hsame.commands, hsame.receipts, hsame.liquidity⟩, row :: added, ?_, ?_⟩
    · exact congrArg (row :: ·) hadded
    · obtain ⟨hrowCommand, hrowReceipt⟩ := happends.stored.receipt
      refine List.forall_mem_cons.mpr ⟨?_, hrows⟩
      exact ⟨hrowCommand.trans hcommand, hrowReceipt.trans hreceipt, event, hevent, happends.stored⟩

end Loop

namespace SimJournal

variable {env : SimulatorEnvironment} {contracts : SimulatorContracts} {s t : SimJournal}

theorem Initial.consistent (h : s.Initial) : s.Consistent where
  commandIds := by simp [h.commands]
  receiptCommands := by simp [h.receipts]
  receiptIds := by simp [h.receipts]
  status := by simp [h.commands]
  known := by simp [h.receipts]
  eventReceipts := by simp [h.events]

theorem Consistent.congr (h : s.Consistent) (hcommands : t.commands = s.commands) (hreceipts : t.receipts = s.receipts)
    (hevents : t.events = s.events) : t.Consistent where
  commandIds := hcommands ▸ h.commandIds
  receiptCommands := hreceipts ▸ h.receiptCommands
  receiptIds := hreceipts ▸ h.receiptIds
  status := by
    unfold receiptOf
    rw [hcommands, hreceipts]
    exact h.status
  known := by
    rw [hreceipts, hcommands]
    exact h.known
  eventReceipts := by
    rw [hevents, hreceipts]
    exact h.eventReceipts

theorem Consistent.append (h : s.Consistent) {event : SimulationTradeEvent} {trade : SimTradeRow}
    {row : SimTradeEventRow} {artifacts : Artifacts} (happends : Appends s event trade row) :
    (s.append trade row artifacts).Consistent := by
  refine { h with eventReceipts := List.forall_mem_cons.mpr ⟨fun receiptId hreceipt => ?_, h.eventReceipts⟩ }
  rw [happends.stored.receipt.2] at hreceipt
  obtain ⟨receipt, hmem, hid, -⟩ := happends.receipt receiptId hreceipt
  exact ⟨receipt, hmem, hid⟩

theorem Consistent.insertCommand (h : s.Consistent) {commandId : String} {lineage : TradeLineage}
    {command : SimulationCommand} {column : JsonColumn} {artifacts : Artifacts}
    (haccepted : (simCommandRow commandId lineage command column).Accepted s) :
    Consistent
      { s with commands := simCommandRow commandId lineage command column :: s.commands, artifacts := artifacts } := by
  obtain ⟨-, -, -, -, -, -, -, hunique⟩ := haccepted
  refine { h with commandIds := ?_, status := ?_, known := ?_ }
  · exact KeyedRows.nodup_cons h.commandIds hunique
  · refine List.forall_mem_cons.mpr ⟨?_, h.status⟩
    -- a receipt would be that of a stored command
    have hnone : s.receiptOf commandId = none := by
      refine KeyedRows.find?_eq_none_iff.mpr fun receipt hreceipt hkey => ?_
      obtain ⟨row, hrow, hrowKey⟩ := h.known receipt hreceipt
      exact hunique row hrow (hrowKey.trans hkey)
    exact (if_neg (show ¬(s.receiptOf commandId).isSome = true by simp [hnone])).symm
  · intro receipt hreceipt
    obtain ⟨row, hrow, hkey⟩ := h.known receipt hreceipt
    exact ⟨row, List.mem_cons_of_mem _ hrow, hkey⟩

theorem Consistent.complete (h : s.Consistent) {call : Completion} {commandId receiptId : String}
    {receipt : SimCommandReceiptRow} {liquidity : SimLiquidityRow} {appended : SimJournal}
    (hc : Completes env call s t commandId receiptId receipt liquidity appended) : t.Consistent := by
  obtain ⟨artifacts, rfl⟩ := hc.completed
  obtain ⟨hsame, added, hadded, hrows⟩ := completeEvents_frame hc.events
  obtain ⟨-, -, -, hunique⟩ := hc.accepted
  obtain ⟨hid, hcommand, -⟩ := hc.receiptRow
  obtain ⟨row, hrow, -⟩ := hc.prepared
  have hreceipts : appended.receipts = receipt :: s.receipts := hsame.receipts
  have hcommands : (appended.markCompleted commandId env.now artifacts).commands.map (·.commandId) =
      s.commands.map (·.commandId) := by
    refine (KeyedRows.map_key_update fun r => ?_).trans (congrArg _ hsame.commands)
    split <;> rfl
  refine ⟨hcommands ▸ h.commandIds, ?_, ?_, ?_, ?_, ?_⟩
  · exact hreceipts ▸ KeyedRows.nodup_cons h.receiptCommands fun r hr => (hunique r hr).2
  · exact hreceipts ▸ KeyedRows.nodup_cons h.receiptIds fun r hr => (hunique r hr).1
  · intro r' hr'
    obtain ⟨r, hr, rfl⟩ := List.mem_map.mp hr'
    have hr : r ∈ s.commands := hsame.commands ▸ hr
    have hstatus := h.status r hr
    by_cases hkey : r.commandId = commandId
    · have hnone : (s.receiptOf r.commandId).isSome = false := by rw [hkey, hc.fresh]; rfl
      rw [hnone] at hstatus
      rw [if_pos ⟨hkey, hstatus⟩, receiptOf]
      have hfind : (appended.markCompleted commandId env.now artifacts).receipts.find?
          (·.commandId = (r.complete env.now).commandId) = some receipt := by
        rw [show (appended.markCompleted commandId env.now artifacts).receipts = receipt :: s.receipts from hreceipts]
        exact List.find?_cons_of_pos (decide_eq_true (hcommand.trans hkey.symm))
      rw [hfind]
      rfl
    · rw [if_neg fun hboth => hkey hboth.1, receiptOf,
        show (appended.markCompleted commandId env.now artifacts).receipts = receipt :: s.receipts from hreceipts,
        List.find?_cons_of_neg (by simpa [hcommand] using Ne.symm hkey)]
      exact hstatus
  · intro r hr
    have hknown : r.commandId ∈ s.commands.map (·.commandId) := by
      have hr : r ∈ receipt :: s.receipts := hreceipts ▸ hr
      rcases List.mem_cons.mp hr with rfl | hr
      · obtain ⟨hmem, hkey⟩ := KeyedRows.find?_mem hrow
        exact List.mem_map.mpr ⟨row, hmem, hkey.trans hcommand.symm⟩
      · obtain ⟨row, hrow, hkey⟩ := h.known r hr
        exact List.mem_map.mpr ⟨row, hrow, hkey⟩
    rw [← hcommands] at hknown
    exact List.mem_map.mp hknown
  · intro e he rid hrid
    have he : e ∈ added ++ s.events := hadded ▸ he
    refine hreceipts ▸ ?_
    rcases List.mem_append.mp he with he | he
    · obtain ⟨-, hreceipt, -⟩ := hrows e he
      exact ⟨receipt, List.mem_cons_self, hid.trans (Option.some.inj (hreceipt.symm.trans hrid))⟩
    · obtain ⟨r, hr, hkey⟩ := h.eventReceipts e he rid hrid
      exact ⟨r, List.mem_cons_of_mem _ hr, hkey⟩

theorem Consistent.run (h : s.Consistent) (call : SimulatorCall) : (call.run env contracts s).Consistent := by
  cases call with
  | createTrade trade =>
    refine run_spec h fun t created ht => ?_
    obtain ⟨_, -, ⟨-, rfl, -⟩ | ⟨-, -, _, _, -, rfl⟩⟩ := createTrade_ok ht
    · exact h
    · exact h.congr rfl rfl rfl
  | appendTradeEvent event =>
    refine run_spec h fun t created ht => ?_
    rcases appendTradeEventLocked_ok ht with ⟨-, rfl, -⟩ | ⟨-, trade, row, artifacts, happends, rfl⟩
    · exact h
    · exact h.append happends
  | prepareCommand command =>
    refine run_spec h fun t reply ht => ?_
    rcases prepareCommand_ok ht with rfl | ⟨_, _, _, _, haccepted, rfl⟩
    · exact h
    · exact h.insertCommand haccepted
  | completeCommand call =>
    refine run_spec h fun t reply ht => ?_
    rcases completeCommand_ok ht with ⟨-, rfl, -⟩ | ⟨-, _, _, _, _, _, hc⟩
    · exact h
    · exact h.complete hc
  | recordResult result =>
    refine run_spec h fun t created ht => ?_
    rcases recordResult_ok ht with rfl | ⟨_, _, _, _, -, -, -, -, -, -, -, rfl⟩
    · exact h
    · exact h.congr rfl rfl rfl
  | recordSessionReceipt receipt =>
    refine run_spec h fun t created ht => ?_
    obtain ⟨_, -, -, rfl | ⟨_, _, -, -, rfl⟩⟩ := recordSessionReceipt_ok ht
    · exact h
    · exact h.congr rfl rfl rfl

theorem Consistent.step (h : s.Consistent) (hstep : SimulatorStep contracts AnyCall s t) : t.Consistent := by
  cases hstep with
  | call env call => exact h.run call
  | outside => exact h.congr rfl rfl rfl

end SimJournal

section Completion

variable {env : SimulatorEnvironment} {contracts : SimulatorContracts} {s t u : SimJournal} {call : Completion}
  {commandId receiptId : String}

/-- The stored payload of a command. -/
def SimCommandRow.SamePayload (row row' : SimCommandRow) : Prop :=
  row'.commandId = row.commandId ∧ row'.payload = row.payload ∧ row'.payloadSha256 = row.payloadSha256

theorem SimulatorWrite.keeps {delivered : SimulationTradeEvent → Prop} (h : SimulatorWrite delivered s t) :
    s.receipts ⊆ t.receipts ∧ ∀ row ∈ s.commands, ∃ row' ∈ t.commands, row.SamePayload row' := by
  have hsame : ∀ row ∈ s.commands, ∃ row' ∈ s.commands, row.SamePayload row' :=
    fun row hrow => ⟨row, hrow, rfl, rfl, rfl⟩
  cases h with
  | outside | trade | event | result | sessionReceipt => exact ⟨List.Subset.refl _, hsame⟩
  | receipt => exact ⟨List.subset_cons_self _ _, hsame⟩
  | command => exact ⟨List.Subset.refl _, fun row hrow => ⟨row, List.mem_cons_of_mem _ hrow, rfl, rfl, rfl⟩⟩
  | complete commandId now artifacts =>
    refine ⟨List.Subset.refl _, fun row hrow => ⟨_, List.mem_map_of_mem hrow, ?_⟩⟩
    split <;> exact ⟨rfl, rfl, rfl⟩

theorem SimulatorStep.keeps (h : ReflTransGen (SimulatorStep contracts AnyCall) s t) :
    s.receipts ⊆ t.receipts ∧ s.events ⊆ t.events ∧
      ∀ row ∈ s.commands, ∃ row' ∈ t.commands, row.SamePayload row' := by
  have hwrites : ReflTransGen (SimulatorWrite AnyEvent) s t :=
    SimulatorStep.run_writes (fun _ _ _ _ _ => trivial) h
  have hevents := (SimulatorWrite.run_subset hwrites).1
  clear h
  induction hwrites with
  | refl => exact ⟨List.Subset.refl _, hevents, fun row hrow => ⟨row, hrow, rfl, rfl, rfl⟩⟩
  | @tail u v hsu huv ih =>
    obtain ⟨hreceipts, -, hcommands⟩ := ih (SimulatorWrite.run_subset hsu).1
    refine ⟨List.Subset.trans hreceipts huv.keeps.1, hevents, fun row hrow => ?_⟩
    obtain ⟨row', hrow', hid, hpayload, hsha⟩ := hcommands row hrow
    obtain ⟨row'', hrow'', hid', hpayload', hsha'⟩ := huv.keeps.2 row' hrow'
    exact ⟨row'', hrow'', hid'.trans hid, hpayload'.trans hpayload, hsha'.trans hsha⟩

/-- What the first completion of a command has done, in one transaction. -/
structure CompletesOnce (call : Completion) (s t : SimJournal) (commandId receiptId : String) : Prop where
  prepared : ∃ row ∈ s.commands, row.commandId = commandId ∧ row.status = .prepared
  completed : ∃ row ∈ t.commands, row.commandId = commandId ∧ row.status = .completed
  receipt : ∃ receipt, t.receipts = receipt :: s.receipts ∧ receipt.commandId = commandId ∧
    receipt.receiptId = receiptId ∧ receipt.payloadSha256 = digest call.receipt.payload.value ∧
    Jsonb.jsonbIn (dumps call.receipt.payload.value) = some receipt.payload
  liquidity : ∃ row, t.liquidity = upsertLiquidity row s.liquidity ∧ call.command.sessionId = some row.sessionId ∧
    call.command.symbol = some row.symbol ∧ row.stateSchemaVersion = call.modelStateSchemaVersion ∧
    row.stateSha256 = digest call.modelStatePayload.value ∧
    Jsonb.jsonbIn (dumps call.modelStatePayload.value) = some row.payload
  noEventBefore : ∀ e ∈ s.events, e.receiptId ≠ some receiptId
  events : s.Adds t call.events commandId receiptId

theorem SimJournal.Consistent.completesOnce (hs : s.Consistent) {receipt : SimCommandReceiptRow}
    {liquidity : SimLiquidityRow} {appended : SimJournal}
    (hc : Completes env call s t commandId receiptId receipt liquidity appended) :
    CompletesOnce call s t commandId receiptId := by
  have ht := hs.complete hc
  obtain ⟨artifacts, rfl⟩ := hc.completed
  obtain ⟨hsame, hadds⟩ := completeEvents_frame hc.events
  obtain ⟨row, hrow, hstatus, -⟩ := hc.prepared
  obtain ⟨hmem, hkey⟩ := KeyedRows.find?_mem hrow
  obtain ⟨hid, hcommand, hsha⟩ := hc.receiptRow
  obtain ⟨-, -, -, hunique⟩ := hc.accepted
  refine ⟨⟨row, hmem, hkey, hstatus⟩, ⟨row.complete env.now, ?_, hkey, rfl⟩,
    ⟨receipt, hsame.receipts, hcommand, hid, hsha, hc.receiptColumn⟩, ⟨liquidity, hsame.liquidity, ?_⟩, ?_, hadds⟩
  · refine List.mem_map.mpr ⟨row, hsame.commands ▸ hmem, if_pos ⟨hkey, hstatus⟩⟩
  · obtain ⟨hsession, hsymbol, hversion, hstate⟩ := hc.liquidityRow
    exact ⟨hsession, hsymbol, hversion, hstate, hc.liquidityColumn⟩
  · intro e he hreceipt
    obtain ⟨r, hr, hrid⟩ := hs.eventReceipts e he receiptId hreceipt
    exact (hunique r hr).1 (hrid.trans hid.symm)

/-- A completed command as every later state has it. -/
structure SimJournal.Holds (u : SimJournal) (call : Completion) (commandId : String) (receipt : SimCommandReceiptRow) :
    Prop where
  command : ∃ row, u.command commandId = some row ∧ row.status = .completed ∧
    assertPayloadIdentity row.payload row.payloadSha256 (digest call.command.payload.value) "simulation command" = .ok ()
  receipt : u.receiptOf commandId = some receipt

theorem SimJournal.Consistent.holds (hu : u.Consistent) {receipt : SimCommandReceiptRow} {liquidity : SimLiquidityRow}
    {appended : SimJournal} (hc : Completes env call s t commandId receiptId receipt liquidity appended)
    (hrun : ReflTransGen (SimulatorStep contracts AnyCall) t u) : u.Holds call commandId receipt := by
  obtain ⟨artifacts, rfl⟩ := hc.completed
  obtain ⟨hsame, -⟩ := completeEvents_frame hc.events
  obtain ⟨hreceipts, -, hcommands⟩ := SimulatorStep.keeps hrun
  obtain ⟨row, hrow, hstatus, hidentity⟩ := hc.prepared
  obtain ⟨hmem, hkey⟩ := KeyedRows.find?_mem hrow
  have hreceipt : receipt ∈ u.receipts := hreceipts (hsame.receipts ▸ List.mem_cons_self)
  have hof : u.receiptOf commandId = some receipt :=
    hc.receiptRow.2.1 ▸ KeyedRows.find?_eq hu.receiptCommands hreceipt
  obtain ⟨row', hrow', hid, hpayload, hsha⟩ :=
    hcommands (row.complete env.now) (List.mem_map.mpr ⟨row, hsame.commands ▸ hmem, if_pos ⟨hkey, hstatus⟩⟩)
  have hid : row'.commandId = commandId := hid.trans hkey
  refine ⟨⟨row', hid ▸ KeyedRows.find?_eq hu.commandIds hrow', ?_, ?_⟩, hof⟩
  · rw [hu.status row' hrow', hid, hof]
    rfl
  · rw [hpayload, hsha]
    exact hidentity

/-- A call for a completed command changes nothing. -/
theorem SimJournal.Holds.unchanged {receipt : SimCommandReceiptRow} (h : u.Holds call commandId receipt)
    {call' : Completion} (hcommand : call'.command.commandId = some commandId) {reply : CommandCompletion}
    (hcall : completeCommand env contracts call' u = .ok (t, reply)) :
    t = u ∧ receipt.payloadSha256 = digest call'.receipt.payload.value := by
  rcases completeCommand_ok hcall with
    ⟨-, ht, commandId', row, existing, hcommand', -, -, hexisting, hsha, -⟩ | ⟨-, commandId', _, _, _, _, hc⟩
  · obtain rfl := Option.some.inj (hcommand.symm.trans hcommand')
    obtain rfl := Option.some.inj (h.receipt.symm.trans hexisting)
    exact ⟨ht, hsha⟩
  · obtain rfl := Option.some.inj (hcommand.symm.trans hc.ofCommand)
    have hfresh := hc.fresh
    rw [h.receipt] at hfresh
    cases hfresh

/-- A call with the same receipt reads the stored one. -/
theorem SimJournal.Holds.replay {receipt : SimCommandReceiptRow} (h : u.Holds call commandId receipt)
    {call' : Completion} (hcommand : call'.command = call.command) {lineage : TradeLineage}
    (hcheck : call'.check = .ok (commandId, lineage, receiptId)) :
    completeCommand env contracts call' u = do
      assertPayloadIdentity receipt.payload receipt.payloadSha256 (digest call'.receipt.payload.value)
        "simulation command receipt"
      let stored ← storedModel contracts.receipt receipt.payload receipt.payloadSha256 "simulation command receipt"
      return (u, ⟨stored, false⟩) := by
  obtain ⟨row, hrow, hstatus, hidentity⟩ := h.command
  unfold completeCommand
  rw [hcheck, ok_bind]
  dsimp only
  rw [hrow, found_some, ok_bind, hcommand, hidentity, ok_bind, h.receipt]
  dsimp only
  refine congrArg _ (funext fun _ => ?_)
  rw [require_pos hstatus, ok_bind]

/-- What no call does to a command that was completed: each of its events is stored once, a further call for the
command changes nothing, and one with a receipt of another fingerprint raises. -/
structure SimJournal.Settled (contracts : SimulatorContracts) (call : Completion) (u : SimJournal) : Prop where
  events : ∀ event ∈ call.events, ∃ row ∈ u.events, event.eventId = some row.eventId ∧
    ∀ row' ∈ u.events, event.eventId = some row'.eventId → row' = row
  unchanged : ∀ env (call' : Completion), call'.command.commandId = call.command.commandId →
    (Transactions.run (completeCommand env contracts call') u).1 = u
  otherReceipt : ∀ env (call' : Completion), call'.command.commandId = call.command.commandId →
    digest call'.receipt.payload.value ≠ digest call.receipt.payload.value →
    ∃ e, completeCommand env contracts call' u = .error e

/-- A replay of a completion with its receipt returns the receipt. -/
def SimJournal.Replays (contracts : SimulatorContracts) (call : Completion) (u : SimJournal) : Prop :=
  ∀ env (call' : Completion), call'.command = call.command → call'.receipt = call.receipt →
    (∃ ids, call'.check = .ok ids) → completeCommand env contracts call' u = .ok (u, ⟨call.receipt, false⟩)

/-- A payload that the column gives back with another text has another fingerprint then. -/
def NoCollision (payload : PyJson) : Prop :=
  ∀ v, Jsonb.reload payload = some v → digest v = digest payload → dumps v = dumps payload

theorem SimJournal.Consistent.settled (hu : u.Consistent) (hjournaled : u.Journaled AnyEvent)
    {receipt : SimCommandReceiptRow} {liquidity : SimLiquidityRow} {appended : SimJournal}
    (hc : Completes env call s t commandId receiptId receipt liquidity appended)
    (hrun : ReflTransGen (SimulatorStep contracts AnyCall) t u) : u.Settled contracts call := by
  have hholds := hu.holds hc hrun
  refine ⟨?_, ?_, ?_⟩
  · intro event hevent
    obtain ⟨row, hrow, hid, -⟩ := completeEvents_rows hc.events event hevent
    obtain ⟨artifacts, rfl⟩ := hc.completed
    have hrow : row ∈ u.events := (SimulatorStep.keeps hrun).2.1 hrow
    refine ⟨row, hrow, hid, fun row' hrow' hid' => ?_⟩
    exact List.inj_on_of_nodup_map hjournaled.eventIds hrow' hrow (Option.some.inj (hid'.symm.trans hid))
  · intro env' call' hcommand
    refine run_spec (p := fun v => v = u) rfl fun v reply hv => ?_
    exact (hholds.unchanged (hcommand.trans hc.ofCommand) hv).1
  · intro env' call' hcommand hdigest
    cases hv : completeCommand env' contracts call' u with
    | error e => exact ⟨e, rfl⟩
    | ok reply =>
      have hsame := (hholds.unchanged (hcommand.trans hc.ofCommand) hv).2
      exact absurd (hsame.symm.trans hc.receiptRow.2.2) hdigest

/-- When a replay returns the receipt. -/
theorem SimJournal.Holds.replays_iff {receipt : SimCommandReceiptRow} {liquidity : SimLiquidityRow}
    {appended : SimJournal} (hc : Completes env call s t commandId receiptId receipt liquidity appended)
    (hvalidate : ∀ v, dumps v = dumps call.receipt.payload.value → contracts.receipt v = some call.receipt)
    (hcollision : NoCollision call.receipt.payload.value) (h : u.Holds call commandId receipt) :
    u.Replays contracts call ↔ ∀ n ∈ call.receipt.payload.value.numbers, Jsonb.Stable n := by
  have hnul := Jsonb.nulFree_of_jsonbIn hc.receiptColumn
  obtain ⟨-, -, hsha⟩ := hc.receiptRow
  constructor
  · intro hreplays
    obtain ⟨lineage, hcheck⟩ := hc.checked
    have hreplay := hreplays env call rfl rfl ⟨_, hcheck⟩
    rw [h.replay rfl hcheck] at hreplay
    obtain ⟨_, hidentity, -⟩ := bind_ok hreplay
    obtain ⟨-, reread, hreread, hdigest⟩ := assertPayloadIdentity_ok hidentity
    have hreload : Jsonb.reload call.receipt.payload.value = some reread := by
      rw [Jsonb.reload, hc.receiptColumn, Option.bind_some]
      exact storedObject_ok hreread
    have hdumps := hcollision reread hreload hdigest
    rw [Jsonb.reload_eq hnul] at hreload
    rw [← Option.some.inj hreload] at hdumps
    exact (Jsonb.dumps_reloaded_iff call.receipt.payload.uniqueKeys).mp hdumps
  · rintro hstable env' call' hcommand hreceipt ⟨⟨commandId', lineage, receiptId'⟩, hcheck⟩
    have hreloads : Reloads call.receipt.payload.value := (reloads_iff hnul).mpr hstable
    obtain ⟨hlineage, -⟩ := Completion.check_ok hcheck
    obtain ⟨hid, -⟩ := SimulationCommand.lineage_ok hlineage
    obtain rfl := Option.some.inj (hc.ofCommand.symm.trans (hcommand ▸ hid))
    rw [h.replay hcommand hcheck, hreceipt, hsha, hreloads.identity hc.receiptColumn, ok_bind,
      hreloads.model hc.receiptColumn hvalidate]
    rfl

/-- Completion is atomic and happens once; and a replay of it returns the stored receipt exactly when the receipt has
no float that is a negative zero or has a magnitude of `10 ^ 16` or more. -/
theorem command_completion (hs : s.Reachable contracts AnyCall) :
    ((s.receipts.map (·.commandId)).Nodup ∧ ∀ row ∈ s.commands,
      (row.status = .completed ∨ row.status = .prepared) ∧
        (row.status = .completed ↔ ∃ receipt ∈ s.receipts, receipt.commandId = row.commandId)) ∧
    (∀ env call e, completeCommand env contracts call s = .error e →
      (Transactions.run (completeCommand env contracts call) s).1 = s) ∧
    (∀ env call t reply, completeCommand env contracts call s = .ok (t, reply) →
      (reply.created = false ∧ t = s) ∨ (reply = ⟨call.receipt, true⟩ ∧
        ∃ commandId receiptId, call.command.commandId = some commandId ∧ CompletesOnce call s t commandId receiptId)) ∧
    ∀ env call t, completeCommand env contracts call s = .ok (t, ⟨call.receipt, true⟩) →
      (∀ u, ReflTransGen (SimulatorStep contracts AnyCall) t u → u.Settled contracts call) ∧
      ((∀ v, dumps v = dumps call.receipt.payload.value → contracts.receipt v = some call.receipt) →
        NoCollision call.receipt.payload.value →
        ((∀ u, ReflTransGen (SimulatorStep contracts AnyCall) t u → u.Replays contracts call) ↔
          ∀ n ∈ call.receipt.payload.value.numbers, Jsonb.Stable n)) := by
  obtain ⟨s₀, hinitial, hrun⟩ := hs
  have hconsistent : s.Consistent :=
    Runs.run_invariant (fun _ _ h hstep => h.step hstep) hrun hinitial.consistent
  have hjournaled : s.Journaled AnyEvent := Journaled.anyRun hinitial.journaled hrun
  refine ⟨⟨hconsistent.receiptCommands, fun row hrow => ?_⟩, fun env call e h => ?_, fun env call t reply h => ?_,
    fun env call t h => ?_⟩
  · have hstatus := hconsistent.status row hrow
    have hreceipt : (s.receiptOf row.commandId).isSome ↔ ∃ receipt ∈ s.receipts, receipt.commandId = row.commandId := by
      rw [SimJournal.receiptOf, List.find?_isSome]
      simp
    split at hstatus
    · rename_i hsome
      exact ⟨Or.inl hstatus, iff_of_true hstatus (hreceipt.mp hsome)⟩
    · rename_i hnone
      refine ⟨Or.inr hstatus, iff_of_false ?_ (mt hreceipt.mpr hnone)⟩
      rw [hstatus]
      decide
  · exact Transactions.run_error (by rw [Transactions.run, h])
  · rcases completeCommand_ok h with ⟨hcreated, ht, -⟩ | ⟨hreply, commandId, receiptId, _, _, _, hc⟩
    · exact Or.inl ⟨hcreated, ht⟩
    · exact Or.inr ⟨hreply, commandId, receiptId, hc.ofCommand, hconsistent.completesOnce hc⟩
  · rcases completeCommand_ok h with ⟨hcreated, -⟩ | ⟨-, commandId, receiptId, receipt, _, _, hc⟩
    · cases hcreated
    · have ht : t.Consistent := hconsistent.complete hc
      have htjournaled : t.Journaled AnyEvent := Runs.run_invariant (fun _ _ h hwrite => h.write hwrite)
        (writes_completes (fun _ _ => trivial) hc) hjournaled
      have hlater : ∀ u, ReflTransGen (SimulatorStep contracts AnyCall) t u → u.Consistent :=
        fun u hu => Runs.run_invariant (fun _ _ h hstep => h.step hstep) hu ht
      refine ⟨fun u hu => (hlater u hu).settled (Journaled.anyRun htjournaled hu) hc hu,
        fun hvalidate hcollision => ⟨fun hreplays => ?_, fun hstable u hu => ?_⟩⟩
      · have hstart : ReflTransGen (SimulatorStep contracts AnyCall) t t := .refl
        exact (SimJournal.Holds.replays_iff hc hvalidate hcollision (ht.holds hc hstart)).mp (hreplays t hstart)
      · exact (SimJournal.Holds.replays_iff hc hvalidate hcollision ((hlater u hu).holds hc hu)).mpr hstable

end Completion

section Example

def exampleSimCommand : SimulationCommand where
  commandId := some (exampleSha 'e')
  sessionId := some exampleLineage.sessionId
  admissionId := some exampleLineage.admissionId
  intentId := some exampleLineage.intentId
  tradeId := some exampleLineage.tradeId
  symbol := some exampleLineage.symbol
  side := some exampleLineage.side
  orderSide := "BUY"
  commandKind := "ENTRY_IOC"
  trade := exampleDump "trade" (.int 1)
  payload := exampleDump "command" (.int 1)

/-- The completion of the command by a receipt with a given number. -/
def exampleCompletion (value : PyNumber) : Completion where
  command := exampleSimCommand
  receipt := {
    receiptId := some (exampleSha 'f')
    commandId := some (exampleSha 'e')
    command := exampleSimCommand
    sessionId := some exampleLineage.sessionId
    admissionId := some exampleLineage.admissionId
    intentId := some exampleLineage.intentId
    tradeId := some exampleLineage.tradeId
    status := "NO_FILL"
    payload := exampleDump "receipt" value }
  modelStateSchemaVersion := "v1"
  modelStatePayload := {
    fields := [("session_id", .str exampleLineage.sessionId), ("symbol", .str exampleLineage.symbol)]
    uniqueKeys := by
      rw [Json.uniqueKeys_obj]
      simp [Json.UniqueKeys] }
  events := []

theorem exampleCompletion_check (value : PyNumber) : (exampleCompletion value).check =
    .ok (exampleSha 'e', { exampleLineage with side := "" }, exampleSha 'f') := by
  have hequal : equal (exampleCompletion value).receipt.command.payload.value
      (exampleCompletion value).command.payload.value = true := equal_refl exampleSimCommand.payload.uniqueKeys
  have htext : validateText "model_state_schema_version" "v1" = .ok () := by decide +kernel
  have hstate : equal (getField (exampleCompletion value).modelStatePayload.fields "session_id")
        (.str exampleLineage.sessionId) = true ∧
      equal (getField (exampleCompletion value).modelStatePayload.fields "symbol") (.str exampleLineage.symbol) = true := by
    simp [exampleCompletion, getField, equal]
  unfold Completion.check
  rw [show (exampleCompletion value).command.lineage "" = some (exampleSha 'e', { exampleLineage with side := "" })
    from rfl, found_some, ok_bind]
  dsimp only
  rw [require_pos ⟨rfl, rfl⟩, ok_bind, require_pos hequal, ok_bind,
    show (exampleCompletion value).receipt.receiptId = some (exampleSha 'f') from rfl, found_some, ok_bind,
    show (exampleCompletion value).modelStateSchemaVersion = "v1" from rfl, htext, ok_bind, require_pos hstate, ok_bind]
  rfl

/-- The trade is created, the command prepared and completed. -/
theorem exampleCompletion_run (contracts : SimulatorContracts) (value : PyNumber) : ∃ s t,
    s.Reachable contracts AnyCall ∧ completeCommand exampleSimEnvironment contracts (exampleCompletion value) s =
      .ok (t, ⟨(exampleCompletion value).receipt, true⟩) := by
  obtain ⟨column, artifacts, hcolumn, hcreate, hothers⟩ :=
    @createTrade_example exampleJournal rfl rfl rfl (exampleJournal_lacks _)
  set created : SimJournal :=
    { exampleJournal with trades := [tradeRow exampleLineage exampleSimTrade column], artifacts := artifacts }
  have hexact : ∀ s : SimJournal, s.trades = created.trades →
      assertExactTrade s exampleSimCommand.trade exampleLineage.sessionId exampleLineage.tradeId = .ok () := by
    intro s htrades
    have htrade : s.trade exampleLineage.tradeId = some (tradeRow exampleLineage exampleSimTrade column) := by
      rw [SimJournal.trade, htrades, List.find?_cons_of_pos]
      exact decide_eq_true rfl
    rw [assertExactTrade, htrade, found_some, ok_bind, require_pos (by rfl), ok_bind]
    exact (@exampleDump_reloads "trade" (by decide) 1).identity hcolumn _
  have hsha : isSha256 (exampleSha 'e') = true ∧ isSha256 (exampleSha 'f') = true ∧
      isSha256 exampleLineage.intentId = true := by decide +kernel
  obtain ⟨commandColumn, artifacts', hcommandColumn, hprepare, hmore⟩ :=
    @prepareCommand_new exampleSimEnvironment contracts created "command" exampleSimCommand (exampleSha 'e') "LONG"
      exampleLineage rfl rfl (hexact created rfl) rfl
      (fun _ => ⟨hsha.1, hsha.2.2, List.mem_cons_self, List.mem_cons_self, List.mem_cons_self, List.mem_cons_self,
        ⟨_, List.mem_cons_self, rfl, rfl, rfl⟩, fun r hr => absurd hr List.not_mem_nil⟩)
      (exampleDump_durable (by decide) (by decide) _) (hothers "command" (by decide) (exampleJournal_lacks _))
  set prepared : SimJournal :=
    { created with
      commands := [simCommandRow (exampleSha 'e') exampleLineage exampleSimCommand commandColumn]
      artifacts := artifacts' }
  have hrow : prepared.command (exampleSha 'e') =
      some (simCommandRow (exampleSha 'e') exampleLineage exampleSimCommand commandColumn) :=
    List.find?_cons_of_pos (decide_eq_true rfl)
  have hsession : (prepared.session exampleLineage.sessionId).isSome = true := by
    rw [show prepared.session exampleLineage.sessionId = some exampleSessionRow from
      List.find?_cons_of_pos (decide_eq_true rfl)]
    rfl
  have hstate : (exampleCompletion value).modelStatePayload.value.everyString Jsonb.nulFree = true := by
    simp only [exampleCompletion, ModelDump.value, Json.everyString, Json.everyStringFields]
    decide +kernel
  have hcount : prepared.commands.countP (fun r => r.commandId = exampleSha 'e' ∧ r.status = .prepared) = 1 := by
    rw [show prepared.commands = [simCommandRow (exampleSha 'e') exampleLineage exampleSimCommand commandColumn] from
      rfl, List.countP_singleton]
    exact if_pos (decide_eq_true ⟨rfl, rfl⟩)
  obtain ⟨_, _, _, hcomplete, -⟩ := @completeCommand_new exampleSimEnvironment contracts prepared "receipt"
    (exampleCompletion value) (exampleSha 'e') (exampleSha 'f') { exampleLineage with side := "" } _
    (fun column => ⟨exampleSha 'f', exampleSha 'e', exampleLineage.sessionId, exampleLineage.admissionId,
      exampleLineage.intentId, exampleLineage.tradeId, "NO_FILL", digest (exampleDump "receipt" value).value, column⟩)
    (exampleCompletion_check value) hrow
    ((@exampleDump_reloads "command" (by decide) 1).identity hcommandColumn _) rfl rfl (hexact prepared rfl)
    (fun _ => rfl)
    (fun _ => ⟨hsha.2.1, by simp, ⟨_, List.mem_cons_self, rfl, rfl, rfl, rfl, rfl⟩, fun r hr => absurd hr List.not_mem_nil⟩)
    hstate ⟨List.mem_cons_self, hsession⟩ rfl hcount
    (exampleDump_durable (by decide) (by decide) _)
    (hmore "receipt" (by decide) (hothers "receipt" (by decide) (exampleJournal_lacks _)))
  have hcreated : SimJournal.Reachable contracts AnyCall _ :=
    Runs.Reachable.next (.start exampleJournal_initial) (.call exampleSimEnvironment (.createTrade exampleSimTrade) trivial)
  rw [SimulatorCall.run, Transactions.run_ok hcreate] at hcreated
  have hprepared := hcreated.next (.call exampleSimEnvironment (.prepareCommand exampleSimCommand) trivial)
  rw [SimulatorCall.run, Transactions.run_ok hprepare] at hprepared
  exact ⟨prepared, _, hprepared, hcomplete⟩

theorem exampleReceipt_noCollision :
    NoCollision (exampleCompletion (.int 1)).receipt.payload.value := by
  intro v hv _
  have hnul : (exampleDump "receipt" (.int 1)).value.everyString Jsonb.nulFree := exampleDump_nulFree (by decide) _
  rw [show Jsonb.reload (exampleCompletion (.int 1)).receipt.payload.value = _ from Jsonb.reload_eq hnul] at hv
  rw [← Option.some.inj hv]
  exact (Jsonb.dumps_reloaded_iff (exampleDump "receipt" (.int 1)).uniqueKeys).mpr
    ((reloads_iff hnul).mp (exampleDump_reloads (by decide) 1))

/-- A receipt with an integer is returned to every replay. -/
theorem command_completion_example : ∃ contracts s t, SimJournal.Reachable contracts AnyCall s ∧
    completeCommand exampleSimEnvironment contracts (exampleCompletion (.int 1)) s =
      .ok (t, ⟨(exampleCompletion (.int 1)).receipt, true⟩) ∧
    t.Settled contracts (exampleCompletion (.int 1)) ∧ t.Replays contracts (exampleCompletion (.int 1)) := by
  let contracts : SimulatorContracts := { exampleContracts with
    receipt := fun v => if dumps v = dumps (exampleCompletion (.int 1)).receipt.payload.value then
      some (exampleCompletion (.int 1)).receipt else none }
  obtain ⟨s, t, hs, hcomplete⟩ := exampleCompletion_run contracts (.int 1)
  obtain ⟨-, -, -, hlater⟩ := command_completion hs
  obtain ⟨hsettled, hreplays⟩ := hlater _ _ _ hcomplete
  have hstable : ∀ n ∈ (exampleCompletion (.int 1)).receipt.payload.value.numbers, Jsonb.Stable n :=
    (reloads_iff (exampleDump_nulFree (by decide) _)).mp (@exampleDump_reloads "receipt" (by decide) 1)
  exact ⟨contracts, s, t, hs, hcomplete, hsettled t .refl,
    (hreplays (fun v hv => if_pos hv) exampleReceipt_noCollision).mpr hstable t .refl⟩

/-- What the column gives back of the receipt with the float `-0.0`. -/
def exampleReread : PyJson :=
  ((sortKeys (exampleDump "receipt" (.float (Binary64.signedZero true))).value).orderKeys Jsonb.KeyLE).map
    Jsonb.reloaded

/-- The receipt of a completed command has the float `-0.0`, and the call that completed it raises when it is repeated. -/
theorem command_replay_raises : ∃ s t, SimJournal.Reachable exampleContracts AnyCall s ∧
    completeCommand exampleSimEnvironment exampleContracts (exampleCompletion (.float (Binary64.signedZero true))) s =
      .ok (t, ⟨(exampleCompletion (.float (Binary64.signedZero true))).receipt, true⟩) ∧
    completeCommand exampleSimEnvironment exampleContracts (exampleCompletion (.float (Binary64.signedZero true))) t =
      .error (.messageIdentityConflict
        "simulation command receipt stored payload hash does not match its durable JSON") := by
  obtain ⟨s, t, hs, hcomplete⟩ := exampleCompletion_run exampleContracts (.float (Binary64.signedZero true))
  refine ⟨s, t, hs, hcomplete, ?_⟩
  rcases completeCommand_ok hcomplete with ⟨hcreated, -⟩ | ⟨-, commandId, receiptId, receipt, _, _, hc⟩
  · cases hcreated
  · obtain ⟨s₀, hinitial, hrun⟩ := hs
    have ht : t.Consistent := (Runs.run_invariant (fun _ _ h hstep => h.step hstep) hrun hinitial.consistent :
      s.Consistent).complete hc
    have hstart : ReflTransGen (SimulatorStep exampleContracts AnyCall) t t := .refl
    obtain ⟨lineage, hcheck⟩ := hc.checked
    rw [(ht.holds hc hstart).replay rfl hcheck]
    have hreread : storedObject receipt.payload = .ok exampleReread := by
      have hreload := Jsonb.reload_eq (exampleDump_nulFree (show Jsonb.nulFree "receipt" = true by decide)
        (.float (Binary64.signedZero true)))
      rw [Jsonb.reload, show Jsonb.jsonbIn (dumps (exampleDump "receipt" (.float (Binary64.signedZero true))).value) =
        some receipt.payload from hc.receiptColumn, Option.bind_some] at hreload
      rw [storedObject, readColumn, hreload]
      rfl
    have hdigest : receipt.payloadSha256 ≠ digest exampleReread := by
      rw [hc.receiptRow.2.2]
      decide +kernel
    rw [assertPayloadIdentity, hreread, ok_bind, Transactions.require_neg hdigest]
    rfl

end Example

end KairosPersistence
