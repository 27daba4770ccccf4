import KairosPersistence.SimulatorProgress
import KairosPersistence.TradeResults

/-!
The receipt of a session against what its trades become after it.
-/

namespace KairosPersistence

open PythonJson PythonText Relation
open Transactions (bind_ok require_ok run_spec)

/-- An event that is not stored yet, of a trade of the session. -/
def SimulationTradeEvent.NewIn (event : SimulationTradeEvent) (sessionId : String) (s : SimJournal) : Prop :=
  (∃ trade ∈ s.trade event.tradeId, trade.sessionId = sessionId) ∧ ∃ eventId ∈ event.eventId, s.event eventId = none

/-- The call brings a trade, or an event of a trade, that the session does not have. -/
def SimulatorCall.Extends (sessionId : String) (s : SimJournal) : SimulatorCall → Prop
  | .createTrade trade => trade.sessionId = some sessionId ∧ ∃ tradeId ∈ trade.tradeId, s.trade tradeId = none
  | .appendTradeEvent event => event.NewIn sessionId s
  | .completeCommand call =>
    (∃ commandId ∈ call.command.commandId, s.receiptOf commandId = none) ∧ ∃ event ∈ call.events, event.NewIn sessionId s
  | .prepareCommand _ | .recordResult _ | .recordSessionReceipt _ => False

section Heads

variable {s t : SimJournal} {sessionId : String} {delivered : SimulationTradeEvent → Prop}

theorem mem_journalHeads {head : SimulationTradeJournalHead} :
    head ∈ s.journalHeads sessionId ↔ ∃ r ∈ s.trades, r.sessionId = sessionId ∧ r.journalHead = head := by
  rw [SimJournal.journalHeads, List.mem_map]
  refine exists_congr fun r => ?_
  rw [(List.perm_insertionSort _ _).mem_iff, List.mem_filter, decide_eq_true_eq, and_assoc]

theorem journalHeads_congr (h : t.trades.filter (·.sessionId = sessionId) = s.trades.filter (·.sessionId = sessionId)) :
    t.journalHeads sessionId = s.journalHeads sessionId := by
  rw [SimJournal.journalHeads, h, SimJournal.journalHeads]

/-- An event of a trade of another session changes no head. -/
theorem journalHeads_append (hs : s.Journaled delivered) {event : SimulationTradeEvent} {trade : SimTradeRow}
    {row : SimTradeEventRow} (artifacts : Artifacts) (happends : Appends s event trade row)
    (hsession : trade.sessionId ≠ sessionId) :
    (s.append trade row artifacts).journalHeads sessionId = s.journalHeads sessionId := by
  obtain ⟨hmem, hkey⟩ := KeyedRows.find?_mem happends.current
  refine journalHeads_congr ?_
  have hsessions : ∀ r : SimTradeRow, (if r.tradeId = row.tradeId ∧ r.stateVersion = trade.stateVersion then
      r.advance row.eventId row.toState else r).sessionId = r.sessionId := by
    intro r
    split <;> rfl
  rw [SimJournal.append, List.filter_map]
  simp only [Function.comp_def, hsessions]
  refine (List.map_congr_left fun r hr => ?_).trans (List.map_id _)
  obtain ⟨hr, hrsession⟩ := List.mem_filter.mp hr
  -- the row that the event changes is that of its trade
  refine if_neg fun hsame => hsession ?_
  have htrade : r = trade := List.inj_on_of_nodup_map hs.tradeIds hr hmem
    (hsame.1.trans (happends.stored.tradeId.trans hkey.symm))
  exact htrade ▸ of_decide_eq_true hrsession

/-- More events of a trade of the session change a head. -/
theorem journalHeads_ne (hs : s.Journaled delivered) (ht : t.Journaled delivered) (hsubset : s.events ⊆ t.events)
    {row : SimTradeEventRow} (hrow : row ∈ t.events) (hnew : row ∉ s.events) {trade : SimTradeRow}
    (htrade : trade ∈ s.trades) (hkey : row.tradeId = trade.tradeId) (hsession : trade.sessionId = sessionId) :
    t.journalHeads sessionId ≠ s.journalHeads sessionId := by
  intro hheads
  have hmem : trade.journalHead ∈ t.journalHeads sessionId := hheads ▸ mem_journalHeads.mpr ⟨trade, htrade, hsession, rfl⟩
  obtain ⟨trade', htrade', -, hhead⟩ := mem_journalHeads.mp hmem
  have hid : trade'.tradeId = trade.tradeId := congrArg (·.tradeId) hhead
  have hcount : trade'.eventCount = trade.eventCount := congrArg (·.eventCount) hhead
  have hlonger : (row :: s.eventsOf trade.tradeId).length ≤ (t.eventsOf trade.tradeId).length := by
    have hnodup : (row :: s.eventsOf trade.tradeId).Nodup :=
      List.nodup_cons.mpr ⟨fun hmem => hnew (List.mem_filter.mp hmem).1, (List.Nodup.of_map _ hs.eventIds).filter _⟩
    refine (hnodup.subperm fun e he => ?_).length_le
    rcases List.mem_cons.mp he with rfl | he
    · exact List.mem_filter.mpr ⟨hrow, decide_eq_true hkey⟩
    · obtain ⟨he, hkey⟩ := List.mem_filter.mp he
      exact List.mem_filter.mpr ⟨hsubset he, hkey⟩
  have hs := (hs.materialises htrade).eventCount
  have ht := (ht.materialises htrade').eventCount
  rw [hid] at ht
  rw [List.length_cons] at hlonger
  omega

end Heads

section Calls

variable {env : SimulatorEnvironment} {contracts : SimulatorContracts} {s t : SimJournal} {sessionId : String}

/-- Nothing is asked of the events that are delivered. -/
abbrev AnyEvent (_ : SimulationTradeEvent) : Prop := True

theorem appended_not_stored {event : SimulationTradeEvent} {trade : SimTradeRow} {row : SimTradeEventRow}
    (happends : Appends s event trade row) : s.event row.eventId = none ∧ row ∉ s.events := by
  obtain ⟨-, -, -, -, -, -, -, hunique⟩ := happends.accepted
  refine ⟨KeyedRows.find?_eq_none_iff.mpr fun r hr => (hunique r hr).1, fun hmem => (hunique row hmem).1 rfl⟩

/-- The loop over the events of a command changes the heads of a session only by events that are new in it. -/
theorem journalHeads_completeEvents (hs : s.Journaled AnyEvent) {commandId receiptId : String}
    {events : List SimulationTradeEvent} (hold : ∀ event ∈ events, ¬event.NewIn sessionId s) {start : SimJournal}
    (h : completeEvents env commandId receiptId events start = .ok t)
    (hstart : start.trades = s.trades ∧ start.events = s.events ∧ start.results = s.results) :
    t.journalHeads sessionId = s.journalHeads sessionId := by
  obtain ⟨htrades, hevents, hresults⟩ := hstart
  have hloop := completeEvents_ok (fun u => u.Journaled AnyEvent ∧ s.events ⊆ u.events ∧
    u.trades.map (·.toTradeLineage) = s.trades.map (·.toTradeLineage) ∧
    u.journalHeads sessionId = s.journalHeads sessionId) ?_ h
    ⟨hs.congr htrades hevents hresults, hevents ▸ List.Subset.refl _, by rw [htrades],
      journalHeads_congr (by rw [htrades])⟩
  · exact hloop.2.2.2
  · rintro event hevent u v created ⟨hu, hsubset, hlineages, hheads⟩ - - happend
    rcases appendTradeEventLocked_ok happend with ⟨-, rfl, -⟩ | ⟨-, trade, row, artifacts, happends, rfl⟩
    · exact ⟨hu, hsubset, hlineages, hheads⟩
    · refine ⟨hu.append trivial happends, List.Subset.trans hsubset (List.subset_cons_self _ _), ?_, ?_⟩
      · rw [← hlineages]
        refine KeyedRows.map_key_update fun r => ?_
        split <;> rfl
      · refine (journalHeads_append hu artifacts happends fun hsession => hold event hevent ⟨?_, ?_⟩).trans hheads
        · obtain ⟨hmem, hkey⟩ := KeyedRows.find?_mem happends.current
          obtain ⟨r, hr, hlineage⟩ := List.mem_map.mp (hlineages ▸ List.mem_map_of_mem hmem)
          have hid : r.tradeId = event.tradeId := (congrArg (·.tradeId) hlineage).trans hkey
          exact ⟨r, hid ▸ KeyedRows.find?_eq hs.tradeIds hr, (congrArg (·.sessionId) hlineage).trans hsession⟩
        · refine ⟨row.eventId, happends.stored.identity, KeyedRows.find?_eq_none_iff.mpr fun e he => ?_⟩
          exact KeyedRows.find?_eq_none_iff.mp (appended_not_stored happends).1 e (hsubset he)

theorem SimulationTrade.lineage_ok {trade : SimulationTrade} {lineage : TradeLineage}
    (h : trade.lineage = some lineage) : trade.tradeId = some lineage.tradeId ∧ trade.sessionId = some lineage.sessionId := by
  simp only [SimulationTrade.lineage, Option.pure_def, Option.bind_eq_bind, Option.bind_eq_some_iff] at h
  obtain ⟨_, htrade, _, hsession, _, -, _, -, _, -, _, -, h⟩ := h
  obtain rfl := Option.some.inj h
  exact ⟨htrade, hsession⟩

/-- A call that does not extend a session leaves its heads. -/
theorem SimulatorCall.journalHeads_run (hs : s.Journaled AnyEvent) {call : SimulatorCall}
    (h : ¬call.Extends sessionId s) : (call.run env contracts s).journalHeads sessionId = s.journalHeads sessionId := by
  let kept (t : SimJournal) : Prop := t.journalHeads sessionId = s.journalHeads sessionId
  cases call with
  | createTrade trade =>
    refine run_spec (p := kept) rfl fun t created ht => ?_
    obtain ⟨lineage, hlineage, ⟨-, rfl, -⟩ | ⟨-, hnone, column, artifacts, -, rfl⟩⟩ := createTrade_ok ht
    · rfl
    · obtain ⟨htradeId, hsessionId⟩ := SimulationTrade.lineage_ok hlineage
      have hother : lineage.sessionId ≠ sessionId := by
        rintro rfl
        exact h ⟨hsessionId, lineage.tradeId, htradeId, hnone⟩
      exact journalHeads_congr (List.filter_cons_of_neg fun heq => hother (of_decide_eq_true heq))
  | appendTradeEvent event =>
    refine run_spec (p := kept) rfl fun t created ht => ?_
    rcases appendTradeEventLocked_ok ht with ⟨-, rfl, -⟩ | ⟨-, trade, row, artifacts, happends, rfl⟩
    · rfl
    · refine journalHeads_append hs artifacts happends fun hsession => h ⟨⟨trade, happends.current, hsession⟩, ?_⟩
      exact ⟨row.eventId, happends.stored.identity, (appended_not_stored happends).1⟩
  | prepareCommand command =>
    refine run_spec (p := kept) rfl fun t reply ht => ?_
    rcases prepareCommand_ok ht with rfl | ⟨_, _, _, _, -, rfl⟩
    · rfl
    · exact journalHeads_congr rfl
  | completeCommand call =>
    refine run_spec (p := kept) rfl fun t reply ht => ?_
    rcases completeCommand_ok ht with ⟨-, rfl, -⟩ | ⟨-, commandId, receiptId, receipt, liquidity, appended, hc⟩
    · rfl
    · obtain ⟨artifacts, rfl⟩ := hc.completed
      have hold : ∀ event ∈ call.events, ¬event.NewIn sessionId s :=
        fun event hevent hnew => h ⟨⟨commandId, hc.ofCommand, hc.fresh⟩, event, hevent, hnew⟩
      have happended : appended.journalHeads sessionId = s.journalHeads sessionId :=
        journalHeads_completeEvents hs hold hc.events ⟨rfl, rfl, rfl⟩
      exact happended
  | recordResult result =>
    refine run_spec (p := kept) rfl fun t created ht => ?_
    rcases recordResult_ok ht with rfl | ⟨_, _, _, _, -, -, -, -, -, -, -, rfl⟩
    · rfl
    · exact journalHeads_congr rfl
  | recordSessionReceipt receipt =>
    refine run_spec (p := kept) rfl fun t created ht => ?_
    obtain ⟨_, -, -, rfl | ⟨_, _, -, -, rfl⟩⟩ := recordSessionReceipt_ok ht
    · rfl
    · exact journalHeads_congr rfl

theorem completeEvents_rows {commandId receiptId : String} {events : List SimulationTradeEvent}
    (h : completeEvents env commandId receiptId events s = .ok t) :
    ∀ event ∈ events, ∃ row ∈ t.events, event.eventId = some row.eventId ∧ row.tradeId = event.tradeId := by
  induction events generalizing s with
  | nil => simp
  | cons event events ih =>
    unfold completeEvents at h
    obtain ⟨_, -, h⟩ := bind_ok h
    obtain ⟨⟨s', created⟩, happend, h⟩ := bind_ok h
    refine List.forall_mem_cons.mpr ⟨?_, ih h⟩
    have hstored : ∃ row ∈ s'.events, event.eventId = some row.eventId ∧ row.tradeId = event.tradeId := by
      rcases appendTradeEventLocked_ok happend with
        ⟨-, rfl, row, hrow, hredelivered⟩ | ⟨-, trade, row, artifacts, happends, rfl⟩
      · exact ⟨row, hrow, hredelivered.eventId, hredelivered.tradeId⟩
      · exact ⟨row, List.mem_cons_self, happends.stored.identity, happends.stored.tradeId⟩
    obtain ⟨row, hrow, hrest⟩ := hstored
    have hsubset : s'.events ⊆ t.events := completeEvents_ok (fun u => s'.events ⊆ u.events)
      (fun _ _ _ _ _ hu _ _ hnext => List.Subset.trans hu (appendTradeEventLocked_subset hnext)) h (List.Subset.refl _)
    exact ⟨row, hsubset hrow, hrest⟩

/-- A call that extends a session, and is not refused, changes a head. -/
theorem SimulatorCall.journalHeads_extends (hs : s.Journaled AnyEvent) {call : SimulatorCall}
    (h : call.Extends sessionId s) :
    call.run env contracts s = s ∨ (call.run env contracts s).journalHeads sessionId ≠ s.journalHeads sessionId := by
  have ht : (call.run env contracts s).Journaled AnyEvent :=
    Runs.run_invariant (fun _ _ hs hwrite => hs.write hwrite) (call.writes env contracts s fun _ _ => trivial) hs
  cases call with
  | prepareCommand | recordResult | recordSessionReceipt => exact h.elim
  | createTrade trade =>
    rcases Transactions.run_cases (KairosPersistence.createTrade env trade) s with hrun | ⟨created, hrun⟩
    · exact Or.inl hrun
    · refine Or.inr fun hheads => ?_
      obtain ⟨hsession, tradeId, htradeId, hnone⟩ := h
      obtain ⟨lineage, hlineage, hcases⟩ := createTrade_ok hrun
      obtain ⟨hid, hsessionId⟩ := SimulationTrade.lineage_ok hlineage
      obtain rfl := Option.some.inj (hid.symm.trans htradeId)
      obtain ⟨-, -, hsome⟩ | ⟨-, -, column, artifacts, -, hcreated⟩ := hcases
      · rw [hnone] at hsome
        cases hsome
      · -- the new trade has a head, which it had not before
        have hmem : (tradeRow lineage trade column).journalHead ∈ s.journalHeads sessionId := by
          refine hheads ▸ mem_journalHeads.mpr ⟨tradeRow lineage trade column, ?_, ?_, rfl⟩
          · exact (congrArg (·.trades) hcreated) ▸ List.mem_cons_self
          · exact Option.some.inj (hsessionId.symm.trans hsession)
        obtain ⟨r, hr, -, hhead⟩ := mem_journalHeads.mp hmem
        exact KeyedRows.find?_eq_none_iff.mp hnone r hr (congrArg (·.tradeId) hhead)
  | appendTradeEvent event =>
    rcases Transactions.run_cases (KairosPersistence.appendTradeEvent env event) s with hrun | ⟨created, hrun⟩
    · exact Or.inl hrun
    · obtain ⟨-, hsame, -⟩ | ⟨-, trade, row, artifacts, happends, happended⟩ := appendTradeEventLocked_ok hrun
      · exact Or.inl hsame
      · obtain ⟨⟨trade', htrade', hsession⟩, -⟩ := h
        obtain rfl := Option.some.inj (happends.current.symm.trans htrade')
        obtain ⟨hmem, hkey⟩ := KeyedRows.find?_mem happends.current
        have hevents := congrArg (·.events) happended
        exact Or.inr (journalHeads_ne hs ht (hevents ▸ List.subset_cons_self _ _) (hevents ▸ List.mem_cons_self)
          (appended_not_stored happends).2 hmem (happends.stored.tradeId.trans hkey.symm) hsession)
  | completeCommand call =>
    rcases Transactions.run_cases (KairosPersistence.completeCommand env contracts call) s with hrun | ⟨reply, hrun⟩
    · exact Or.inl hrun
    · obtain ⟨-, hsame, -⟩ | ⟨-, commandId, receiptId, receipt, liquidity, appended, hc⟩ := completeCommand_ok hrun
      · exact Or.inl hsame
      · obtain ⟨-, event, hevent, ⟨trade, htrade, hsession⟩, eventId, heventId, hnone⟩ := h
        obtain ⟨hmem, hkey⟩ := KeyedRows.find?_mem htrade
        obtain ⟨row, hrow, hid, htradeId⟩ := completeEvents_rows hc.events event hevent
        obtain rfl := Option.some.inj (heventId.symm.trans hid)
        have hsubset := (SimulatorWrite.run_subset (writes_completes (fun _ _ => trivial) hc :
          ReflTransGen (SimulatorWrite AnyEvent) s _)).1
        obtain ⟨artifacts, hcompleted⟩ := hc.completed
        have hevents : (completeCommand call : SimulatorCall).run env contracts s = _ := hcompleted
        have hnew : row ∉ s.events := fun hstored => KeyedRows.find?_eq_none_iff.mp hnone row hstored rfl
        exact Or.inr (journalHeads_ne hs ht hsubset ((congrArg (·.events) hevents) ▸ hrow) hnew hmem
          (htradeId.trans hkey.symm) hsession)

end Calls

section Runs

variable {contracts : SimulatorContracts} {s s' : SimJournal} {env : SimulatorEnvironment}
  {receipt : SimulationSessionReceipt} {sessionId : String}

/-- Any call by any worker. -/
abbrev AnyCall (_ : SimJournal) (_ : SimulatorCall) : Prop := True

theorem SimulatorStep.mono {allowed allowed' : SimJournal → SimulatorCall → Prop}
    (h : ∀ s call, allowed s call → allowed' s call) {t u : SimJournal} (hstep : SimulatorStep contracts allowed t u) :
    SimulatorStep contracts allowed' t u := by
  cases hstep with
  | call env call hallowed => exact .call env call (h _ _ hallowed)
  | outside sessions admissions artifacts => exact .outside sessions admissions artifacts

theorem Journaled.anyRun {t u : SimJournal} (ht : t.Journaled AnyEvent)
    (hrun : ReflTransGen (SimulatorStep contracts AnyCall) t u) : u.Journaled AnyEvent :=
  Runs.run_invariant (fun _ _ hs hwrite => hs.write hwrite)
    (SimulatorStep.run_writes (fun _ _ _ _ _ => trivial) hrun) ht

theorem SimulatorStep.journalHeads {t u : SimJournal} (ht : t.Journaled AnyEvent)
    (hstep : SimulatorStep contracts (fun s call => ¬call.Extends sessionId s) t u) :
    u.journalHeads sessionId = t.journalHeads sessionId := by
  cases hstep with
  | call env call hcall => exact call.journalHeads_run ht hcall
  | outside => exact journalHeads_congr rfl

/-- A receipt stays true as long as no call brings a new trade to its session or a new event to a trade of it, and
no longer: such a call is refused, or the trades of the session are no more those of the receipt. -/
theorem session_receipt (hs : s.Reachable contracts AnyCall)
    (h : recordSessionReceipt env receipt s = .ok (s', true)) (hsession : receipt.sessionId = some sessionId) :
    (∀ t, ReflTransGen (SimulatorStep contracts fun s call => ¬call.Extends sessionId s) s' t →
      t.journalHeads sessionId = receipt.tradeJournals) ∧
    ∀ t, ReflTransGen (SimulatorStep contracts AnyCall) s' t → t.journalHeads sessionId = receipt.tradeJournals →
      ∀ env' (call : SimulatorCall), call.Extends sessionId t → call.run env' contracts t = t ∨
        (call.run env' contracts t).journalHeads sessionId ≠ receipt.tradeJournals := by
  obtain ⟨s₀, hinitial, hrun⟩ := hs
  have hjournaled : s.Journaled AnyEvent := Journaled.anyRun hinitial.journaled hrun
  obtain ⟨sessionId', hsession', htrue, hcases⟩ := recordSessionReceipt_ok h
  obtain rfl := Option.some.inj (hsession.symm.trans hsession')
  have hs' : s'.Journaled AnyEvent ∧ s'.journalHeads sessionId = receipt.tradeJournals := by
    rcases hcases with rfl | ⟨row, artifacts, haccepted, -, rfl⟩
    · exact ⟨hjournaled, htrue.symm⟩
    · exact ⟨hjournaled.write (.sessionReceipt row artifacts haccepted), htrue.symm⟩
  constructor
  · intro t hrun
    let inv (u : SimJournal) : Prop := u.Journaled AnyEvent ∧ u.journalHeads sessionId = receipt.tradeJournals
    have hkept : inv t := by
      refine Runs.run_invariant ?_ hrun hs'
      rintro u v ⟨hu, hheads⟩ hstep
      exact ⟨Journaled.anyRun hu (.single (hstep.mono fun _ _ _ => trivial)), (hstep.journalHeads hu).trans hheads⟩
    exact hkept.2
  · intro t hrun hheads env' call hextends
    rw [← hheads]
    exact call.journalHeads_extends (Journaled.anyRun hs'.1 hrun) hextends

/-- A receipt that finds no trade. -/
def exampleSessionReceipt : SimulationSessionReceipt where
  receiptId := some (exampleSha '2')
  sessionId := some exampleLineage.sessionId
  tapeId := some "tape"
  tapeSha256 := some (exampleSha '0')
  session := exampleDump "session" (.int 1)
  tradeJournals := []
  receiptState := .blocked
  completedAtMs := 1
  payload := exampleDump "session receipt" (.int 1)

theorem recordSessionReceipt_example : ∃ column artifacts,
    recordSessionReceipt exampleSimEnvironment exampleSessionReceipt exampleJournal = .ok (exampleJournal.sealSession
      (sessionReceiptRow (exampleSha '2') exampleLineage.sessionId "tape" (exampleSha '0') exampleSessionReceipt column)
      artifacts, true) ∧
    ∀ m, m ≠ "session receipt" → exampleJournal.artifacts.Lacks m → artifacts.Lacks m := by
  have hsession : exampleJournal.session exampleLineage.sessionId = some exampleSessionRow := by
    rw [SimJournal.session, exampleJournal, List.find?_cons_of_pos]
    exact decide_eq_true rfl
  have hidentity : assertPayloadIdentity exampleSessionRow.payload exampleSessionRow.payloadSha256
      (digest exampleSessionReceipt.session.value) "simulation session receipt session" = .ok () := by
    dsimp only [exampleSessionRow, exampleSessionReceipt]
    exact exampleDump_identity (by decide) 1 _
  have haccepted : ∀ column, (sessionReceiptRow (exampleSha '2') exampleLineage.sessionId "tape" (exampleSha '0')
      exampleSessionReceipt column).Accepted exampleJournal := by
    intro column
    have hsha : isSha256 (exampleSha '2') = true := by decide +kernel
    exact ⟨hsha, Int.one_nonneg, fun r hr => absurd hr List.not_mem_nil⟩
  have hdurable : exampleSessionReceipt.payload.Durable exampleSimEnvironment "session receipt" :=
    exampleDump_durable (by decide) (by decide) _
  exact recordSessionReceipt_new rfl rfl rfl rfl hsession hidentity ⟨rfl, rfl⟩ rfl rfl rfl haccepted hdurable
    (exampleJournal_lacks _)

theorem session_receipt_example : ∃ s',
    recordSessionReceipt exampleSimEnvironment exampleSessionReceipt exampleJournal = .ok (s', true) ∧
    ∀ t, ReflTransGen (SimulatorStep exampleContracts fun s call => ¬call.Extends exampleLineage.sessionId s) s' t →
      t.journalHeads exampleLineage.sessionId = [] := by
  obtain ⟨column, artifacts, hrecorded, -⟩ := recordSessionReceipt_example
  exact ⟨_, hrecorded, (session_receipt (.start exampleJournal_initial) hrecorded rfl).1⟩

/-- The trade of an admission is created in its session after the session is sealed without it. -/
theorem session_receipt_outlived : ∃ s' t,
    recordSessionReceipt exampleSimEnvironment exampleSessionReceipt exampleJournal = .ok (s', true) ∧
    (∀ r ∈ s'.sessions, r.state = .blocked) ∧
    createTrade exampleSimEnvironment exampleSimTrade s' = .ok (t, true) ∧
    t.Reachable exampleContracts AnyCall ∧
    t.journalHeads exampleLineage.sessionId ≠ exampleSessionReceipt.tradeJournals := by
  obtain ⟨column, artifacts, hrecorded, hothers⟩ := recordSessionReceipt_example
  set sealed := exampleJournal.sealSession (sessionReceiptRow (exampleSha '2') exampleLineage.sessionId "tape"
    (exampleSha '0') exampleSessionReceipt column) artifacts with hsealed
  have hsessions : sealed.sessions = [{ exampleSessionRow with state := .blocked }] := by
    refine List.map_singleton.trans (congrArg (fun r => [r]) (if_pos ?_))
    rfl
  have hsession : (sealed.session exampleLineage.sessionId).isSome := by
    rw [SimJournal.session, hsessions, List.find?_cons_of_pos]
    · rfl
    · exact decide_eq_true rfl
  obtain ⟨tradeColumn, artifacts', -, hcreate, -⟩ :=
    createTrade_example hsession rfl rfl (hothers "trade" (by decide) (exampleJournal_lacks _))
  have hsealedRun : sealed.Reachable exampleContracts AnyCall := by
    have hstep := Runs.Reachable.next (.start exampleJournal_initial)
      (.call exampleSimEnvironment (.recordSessionReceipt exampleSessionReceipt) trivial :
        SimulatorStep exampleContracts AnyCall exampleJournal _)
    rwa [SimulatorCall.run, Transactions.run_ok hrecorded] at hstep
  have hcreated : SimJournal.Reachable exampleContracts AnyCall _ :=
    hsealedRun.next (.call exampleSimEnvironment (.createTrade exampleSimTrade) trivial)
  rw [SimulatorCall.run, Transactions.run_ok hcreate] at hcreated
  refine ⟨sealed, _, hrecorded, ?_, hcreate, hcreated, fun hheads => ?_⟩
  · rw [hsessions]
    simp
  · have hmem : (tradeRow exampleLineage exampleSimTrade tradeColumn).journalHead ∈
        exampleSessionReceipt.tradeJournals := by
      rw [← hheads]
      exact mem_journalHeads.mpr ⟨_, List.mem_cons_self, rfl, rfl⟩
    cases hmem

end Runs

end KairosPersistence
