import KairosPersistence.TradeInvariants

/-!
The public facts of a trade are a stream: their sequence numbers have no gap,
their state versions do not go back, and each has its audit row and its outbox row.
-/

namespace KairosPersistence.TradeLifecycle

open PythonText Relation
open Transactions (bind_ok found_ok)

section Artifacts

/-- A row of the outbox is of the message, under its topic and with the digest of its payload. -/
def Carries (o : Outbox) (messageId topic payloadSha256 : String) : Prop :=
  ∃ i r, o.rows i = some r ∧ r.messageId = messageId ∧ r.topic = topic ∧ r.payloadSha256 = some payloadSha256

/-- The outbox keeps what it carries. -/
def Keeps (o o' : Outbox) : Prop :=
  ∀ messageId topic payloadSha256, Carries o messageId topic payloadSha256 → Carries o' messageId topic payloadSha256

variable {o o' : Outbox} {messageId topic payload payloadSha256 producer : String} {now : Timestamp}

theorem insert_carries {row : OutboxRow} (hrow : o.findMessage row.messageId = none)
    (hsha : row.payloadSha256 = some payloadSha256) :
    Carries (o.insert row hrow) row.messageId row.topic payloadSha256 ∧ Keeps o (o.insert row hrow) := by
  constructor
  · exact ⟨o.nextId, row, if_pos rfl, rfl, rfl, hsha⟩
  · rintro messageId topic payloadSha256 ⟨i, r, hr, h⟩
    have hne : i ≠ o.nextId := by
      intro heq
      have hfresh := o.fresh i heq.ge
      rw [hr] at hfresh
      cases hfresh
    exact ⟨i, r, (if_neg hne).trans hr, h⟩

theorem update_row {j : ℕ} {f : OutboxRow → Option OutboxRow} {hf : ∀ r r', f r = some r' → r'.messageId = r.messageId}
    {r r' : OutboxRow} (hr : o.rows j = some r) (hwrite : f r = some r') : (o.update j f hf).1.rows j = some r' := by
  have hbind : (o.rows j).bind f = some r' := by rw [hr, Option.bind_some, hwrite]
  unfold Outbox.update
  split
  · rename_i hnone
    rw [hbind] at hnone
    cases hnone
  · rename_i hsome
    obtain rfl := Option.some.inj (hbind.symm.trans hsome)
    exact if_pos rfl

theorem conflicts_ok {r : OutboxRow} (h : ¬conflicts r topic payload payloadSha256 producer = true) :
    r.topic = topic ∧ (r.payloadSha256 = none ∨ r.payloadSha256 = some payloadSha256) := by
  simp only [conflicts, Bool.or_eq_true, not_or, decide_eq_true_eq, Bool.and_eq_true, not_and, not_not] at h
  refine ⟨h.1.1.1, ?_⟩
  by_cases hnone : r.payloadSha256 = none
  · exact Or.inl hnone
  · exact Or.inr (h.2 hnone)

theorem enqueueOutbox_carries {inserted : Bool}
    (h : enqueueOutbox messageId topic payload payloadSha256 producer now o = .ok (o', inserted)) :
    Carries o' messageId topic payloadSha256 ∧ Keeps o o' := by
  unfold enqueueOutbox at h
  split_ifs at h
  split at h
  · cases h
  · rename_i column _
    split at h
    · rename_i hfind
      obtain rfl : _ = o' := congrArg Prod.fst (Except.ok.inj h)
      exact insert_carries hfind rfl
    · rename_i j hfind
      obtain ⟨r, hr, hmessage⟩ := Outbox.findMessage_eq_some hfind
      rw [hr] at h
      dsimp only at h
      split_ifs at h with hconflicts hnone
      · obtain rfl : _ = o' := congrArg Prod.fst (Except.ok.inj h)
        have htopic := (conflicts_ok hconflicts).1
        have hwrite := Outbox.rows_update o.burn j (fun r => some (setPayloadSha256 payloadSha256 r))
          (by rintro r r' ⟨⟩; rfl)
        constructor
        · exact ⟨j, _, update_row hr rfl, hmessage, htopic, rfl⟩
        · rintro messageId' topic' payloadSha256' ⟨i, r', hr', hmessage', htopic', hsha'⟩
          rcases hwrite i with hsame | ⟨rfl, -⟩
          · exact ⟨i, r', hsame.trans hr', hmessage', htopic', hsha'⟩
          · obtain rfl := Option.some.inj (hr.symm.trans hr')
            rw [hnone] at hsha'
            cases hsha'
      · obtain rfl : _ = o' := congrArg Prod.fst (Except.ok.inj h)
        obtain ⟨htopic, hsha⟩ := conflicts_ok hconflicts
        exact ⟨⟨j, r, hr, hmessage, htopic, hsha.resolve_left hnone⟩, fun _ _ _ h => h⟩

/-- The audit log has a row of the message. -/
def Audited (audit : List EventAuditRow) (messageId : String) : Prop := ∃ r ∈ audit, r.messageId = messageId

theorem appendAuditEvent_ok {event : TradeExecutionEvent} {audit audit' : List EventAuditRow}
    (h : appendAuditEvent topic event audit = .ok audit') : Audited audit' event.messageId ∧ audit <:+ audit' := by
  obtain ⟨column, -, h⟩ := bind_ok h
  split_ifs at h with hany
  · obtain rfl := Except.ok.inj h
    obtain ⟨r, hr, hmatch⟩ := List.any_eq_true.mp hany
    exact ⟨⟨r, hr, (of_decide_eq_true hmatch).2⟩, List.suffix_refl _⟩
  · obtain rfl := Except.ok.inj h
    exact ⟨⟨_, List.mem_cons_self, rfl⟩, List.suffix_cons _ _⟩

/-- Publishing a fact writes its audit row and its outbox row, and keeps the others. -/
theorem publishFact_ok {event : TradeExecutionEvent} {a a' : Artifacts} (h : publishFact now event a = .ok a') :
    (Audited a'.audit event.messageId ∧ a.audit <:+ a'.audit) ∧
      Carries a'.outbox event.messageId tradeExecutionEventTopic (digest event.dump.value) ∧ Keeps a.outbox a'.outbox := by
  obtain ⟨audit, haudit, h⟩ := bind_ok h
  obtain ⟨⟨outbox, inserted⟩, henqueue, h⟩ := bind_ok h
  obtain rfl := Except.ok.inj h
  refine ⟨appendAuditEvent_ok haudit, ?_⟩
  cases hok : enqueueOutbox event.messageId tradeExecutionEventTopic (canonicalPayload event.dump.value).1
      (canonicalPayload event.dump.value).2 executionOutboxProducer now a.outbox with
  | error e =>
    rw [hok] at henqueue
    cases henqueue
  | ok result =>
    rw [hok] at henqueue
    obtain rfl := Except.ok.inj henqueue
    exact enqueueOutbox_carries hok

end Artifacts

section Stream

/-- The facts of a trade, newest first, up to the next sequence number and the state version of the trade. -/
structure FactStream (facts : List PublicEventRow) (next version : ℕ) : Prop where
  sequence : facts.reverse.map (·.eventSeq) = List.range' 1 facts.length
  next : next = facts.length + 1
  keys : (facts.map (·.factKey)).Nodup
  versions : facts.Pairwise fun later earlier => earlier.stateVersion ≤ later.stateVersion
  version : ∀ f ∈ facts, f.stateVersion ≤ version

variable {facts : List PublicEventRow} {fact : PublicEventRow} {next version version' : ℕ}

theorem FactStream.start : FactStream [] 1 version := by
  constructor <;> simp

theorem FactStream.later (h : FactStream facts next version) (hle : version ≤ version') : FactStream facts next version' :=
  ⟨h.sequence, h.next, h.keys, h.versions, fun f hf => (h.version f hf).trans hle⟩

theorem FactStream.cons (h : FactStream facts next version) (hsequence : fact.eventSeq = next)
    (hversion : fact.stateVersion = version) (hkey : ∀ f ∈ facts, f.factKey ≠ fact.factKey) :
    FactStream (fact :: facts) (next + 1) version where
  sequence := by
    rw [List.reverse_cons, List.map_append, h.sequence, List.length_cons, List.range'_concat]
    simp only [List.map_cons, List.map_nil]
    rw [hsequence, h.next]
    simp [Nat.add_comm]
  next := by
    rw [h.next, List.length_cons]
  keys := by
    rw [List.map_cons, List.nodup_cons]
    refine ⟨?_, h.keys⟩
    intro hmem
    obtain ⟨f, hf, heq⟩ := List.mem_map.mp hmem
    exact hkey f hf heq
  versions := by
    apply List.pairwise_cons.mpr
    refine ⟨fun f hf => ?_, h.versions⟩
    rw [hversion]
    exact h.version f hf
  version f hf := by
    rcases List.mem_cons.mp hf with rfl | hf
    · exact hversion.le
    · exact h.version f hf

end Stream

section Tables

/-- The facts of a trade, newest first. -/
def TradeTables.factsOf (t : TradeTables) (tradeId : String) : List PublicEventRow := t.facts.filter (·.tradeId = tradeId)

structure TradeTables.FactsSound (t : TradeTables) : Prop where
  streams : ∀ r ∈ t.trades, FactStream (t.factsOf r.tradeId) r.nextExecutionEventSeq r.stateVersion
  known : ∀ f ∈ t.facts, ∃ r ∈ t.trades, r.tradeId = f.tradeId
  events : (t.facts.map (·.eventId)).Nodup
  audited : ∀ f ∈ t.facts, Audited t.artifacts.audit f.eventId
  carried : ∀ f ∈ t.facts, Carries t.artifacts.outbox f.eventId tradeExecutionEventTopic f.payloadSha256

variable {contracts : ExecutionContracts} {stored : ModelDump → Prop} {s t t' : TradeTables} {row : TradeRow}

theorem absent_facts (h : t.FactsSound) {tradeId : String} (hnew : ∀ r ∈ t.trades, r.tradeId ≠ tradeId) :
    t.factsOf tradeId = [] := by
  apply List.filter_eq_nil_iff.mpr
  intro f hf heq
  obtain ⟨r, hr, hid⟩ := h.known f hf
  exact hnew r hr (hid.trans (of_decide_eq_true heq))

/-- A write of the row of a trade that leaves the facts alone. -/
theorem TradeTables.FactsSound.update (h : t.FactsSound) {current : TradeRow} (hcurrent : t.trade row.tradeId = some current)
    (hnext : row.nextExecutionEventSeq = current.nextExecutionEventSeq) (hversion : current.stateVersion ≤ row.stateVersion)
    (ht : t'.trades = (t.update row).trades) (hf : t'.facts = t.facts) (ha : t'.artifacts = t.artifacts) : t'.FactsSound where
  streams r hr := by
    rw [ht] at hr
    rw [TradeTables.factsOf, hf]
    rcases mem_update_cases hr with rfl | ⟨hr, -⟩
    · obtain ⟨hmem, hid⟩ := trade_mem hcurrent
      rw [hnext, ← hid]
      exact (h.streams current hmem).later hversion
    · exact h.streams r hr
  known f hfact := by
    rw [hf] at hfact
    apply mem_ids.mp
    rw [ht, ids_update]
    exact mem_ids.mpr (h.known f hfact)
  events := by
    rw [hf]
    exact h.events
  audited := by
    rw [hf, ha]
    exact h.audited
  carried := by
    rw [hf, ha]
    exact h.carried

theorem TradeTables.FactsSound.create {trade : TradeIdentity} {payload : ModelDump} (h : t.FactsSound)
    (hcreates : Creates trade payload t t' row) : t'.FactsSound := by
  cases hcreates with
  | existing => exact h
  | @inserted column eventColumn habsent =>
    have hnew : ∀ r ∈ t.trades, r.tradeId ≠ trade.tradeId := KeyedRows.find?_eq_none_iff.mp habsent
    refine ⟨?_, ?_, h.events, h.audited, h.carried⟩
    · intro r hr
      rcases List.mem_cons.mp hr with rfl | hr
      · change FactStream (t.factsOf trade.tradeId) 1 0
        rw [absent_facts h hnew]
        exact .start
      · exact h.streams r hr
    · intro f hf
      obtain ⟨r, hr, hid⟩ := h.known f hf
      exact ⟨r, List.mem_cons_of_mem _ hr, hid⟩

theorem TradeTables.FactsSound.republish {now : Timestamp} {event : TradeExecutionEvent} {artifacts : Artifacts}
    (h : t.FactsSound) (hpublish : publishFact now event t.artifacts = .ok artifacts) :
    TradeTables.FactsSound { t with artifacts := artifacts } := by
  obtain ⟨⟨-, haudit⟩, -, hkeeps⟩ := publishFact_ok hpublish
  refine ⟨h.streams, h.known, h.events, fun f hf => ?_, fun f hf => hkeeps _ _ _ (h.carried f hf)⟩
  obtain ⟨r, hr, hid⟩ := h.audited f hf
  exact ⟨r, haudit.subset hr, hid⟩

theorem TradeTables.FactsSound.publish {factKey : String} {event : TradeExecutionEvent} {column : JsonColumn}
    {now : Timestamp} (h : t.FactsSound) (hpublishes : Publishes row factKey event column now t t') : t'.FactsSound := by
  obtain ⟨artifacts, hpublish, rfl⟩ := hpublishes.tables
  obtain ⟨⟨haudited, -⟩, hcarries, -⟩ := publishFact_ok hpublish
  have hkept := h.republish hpublish
  have hmem := (trade_mem hpublishes.current).1
  have hkeys : ∀ f ∈ t.facts, ¬(f.tradeId = row.tradeId ∧ f.factKey = factKey) := by
    intro f hf
    have hnone := List.find?_eq_none.mp hpublishes.absent f hf
    simpa using hnone
  refine ⟨fun r hr => ?_, ?_, ?_, ?_, ?_⟩
  · rcases mem_update_cases hr with rfl | ⟨hr, hne⟩
    · have hown : TradeTables.factsOf { t.update { row with nextExecutionEventSeq := row.nextExecutionEventSeq + 1 } with
            facts := factRow factKey row.stateVersion row event column :: t.facts
            artifacts := artifacts } row.tradeId = factRow factKey row.stateVersion row event column :: t.factsOf row.tradeId :=
        List.filter_cons_of_pos (decide_eq_true rfl)
      dsimp only
      rw [hown]
      apply (h.streams row hmem).cons rfl rfl
      intro f hf
      obtain ⟨hf, hid⟩ := List.mem_filter.mp hf
      exact fun hkey => hkeys f hf ⟨of_decide_eq_true hid, hkey⟩
    · have hother : TradeTables.factsOf { t.update { row with nextExecutionEventSeq := row.nextExecutionEventSeq + 1 } with
            facts := factRow factKey row.stateVersion row event column :: t.facts
            artifacts := artifacts } r.tradeId = t.factsOf r.tradeId := by
        apply List.filter_cons_of_neg
        intro heq
        exact hne (of_decide_eq_true heq).symm
      rw [hother]
      exact h.streams r hr
  · intro f hf
    apply mem_ids.mp
    change _ ∈ (t.update _).trades.map (·.tradeId)
    rw [ids_update]
    apply mem_ids.mpr
    rcases List.mem_cons.mp hf with rfl | hf
    · exact ⟨row, hmem, rfl⟩
    · exact h.known f hf
  · apply List.nodup_cons.mpr
    refine ⟨?_, h.events⟩
    intro hmem
    obtain ⟨f, hf, heq⟩ := List.mem_map.mp hmem
    exact (hpublishes.insertable.2.2 f hf).1 heq
  · intro f hf
    rcases List.mem_cons.mp hf with rfl | hf
    · change Audited artifacts.audit event.eventId
      rw [← hpublishes.message]
      exact haudited
    · exact hkept.audited f hf
  · intro f hf
    rcases List.mem_cons.mp hf with rfl | hf
    · change Carries artifacts.outbox event.eventId tradeExecutionEventTopic (digest event.dump.value)
      rw [← hpublishes.message]
      exact hcarries
    · exact hkept.carried f hf

end Tables

end KairosPersistence.TradeLifecycle
