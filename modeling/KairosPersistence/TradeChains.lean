import KairosPersistence.HashChain
import KairosPersistence.TradeInvariants

/-!
`verify_chain` of a trade: what it accepts, that it accepts every journal the
repository has written, and what an edited journal cannot pass.
-/

namespace KairosPersistence.TradeLifecycle

open PythonJson Relation
open Transactions (bind_ok require found found_ok ok_bind)

section Verify

/-- `TradeState(value)`. -/
def tradeState (value : String) : Except TradeError TradeState :=
  found (TradeState.ofValue value) (.valueError (value ++ " is not a valid TradeLifecycleState"))

/-- The digest of an entry behind the digest `previous`, if it has that digest. -/
def verifyEntry (tradeId : String) (previous : Option String) (row : TradeEventRow) : Except TradeError (Option String) := do
  let fromState ← row.fromState.elim (.ok none) fun value => (tradeState value).map some
  let toState ← tradeState row.toState
  let payload ← objectOf row.eventPayload
  let expected := eventSha tradeId (fromState.map (·.value)) toState.value row.eventType payload previous
  return if row.previousEventSha256 = previous ∧ row.eventSha256 = expected then some expected else none

/-- The loop of `verify_chain`, with the digest that it ends in. -/
def verifyRows (tradeId : String) : Option String → List TradeEventRow → Except TradeError (Option (Option String))
  | previous, [] => .ok (some previous)
  | previous, row :: rows => do
    let expected ← verifyEntry tradeId previous row
    match expected with
    | none => return none
    | some sha => verifyRows tradeId (some sha) rows

/-- `verify_chain`. -/
def verifyChain (tradeId : String) (t : TradeTables) : Except TradeError Bool := do
  let rows := (t.journal tradeId).reverse
  let verified ← verifyRows tradeId none rows
  match verified with
  | none => return false
  | some previous =>
    match t.trade tradeId with
    | none => return false
    | some row => do
      let trade ← record row
      return !rows.isEmpty && (some trade.row.journalHeadSha256 = previous)

end Verify

section Entries

/-- What is hashed of an entry beside the digest before it. -/
def entryContent (row : TradeEventRow) : Option String × String × String × PyJson :=
  (row.fromState, row.toState, row.eventType, (objectOf row.eventPayload).toOption.getD .null)

def entryText (tradeId : String) (previous : Option String) (content : Option String × String × String × PyJson) : String :=
  eventText tradeId content.1 content.2.1 content.2.2.1 content.2.2.2 previous

/-- The columns of an entry that its text shows: the payload up to the order of its keys. -/
def entryColumns (content : Option String × String × String × PyJson) : Option String × String × String × String :=
  (content.1, content.2.1, content.2.2.1, dumps content.2.2.2)

/-- The states of the entry are states, and its payload is an object. -/
def TradeEventRow.Readable (row : TradeEventRow) : Prop :=
  (∀ value ∈ row.fromState, (TradeState.ofValue value).isSome = true) ∧ (TradeState.ofValue row.toState).isSome = true ∧
    ∃ payload, objectOf row.eventPayload = .ok payload

/-- The journal of a trade, newest first, as `verify_chain` accepts it. -/
def JournalVerified (tradeId : String) (journal : List TradeEventRow) : Prop :=
  HashChain.Verified (entryText tradeId) Sha256.hexdigest entryContent (·.previousEventSha256) (·.eventSha256) journal ∧
    ∀ row ∈ journal, row.Readable

variable {tradeId : String} {previous : Option String} {row : TradeEventRow} {rows : List TradeEventRow}

theorem TradeState.value_of_ofValue {value : String} {state : TradeState} (h : TradeState.ofValue value = some state) :
    state.value = value := by
  simpa using List.find?_some h

theorem tradeState_iff {value : String} {state : TradeState} :
    tradeState value = .ok state ↔ TradeState.ofValue value = some state := by
  constructor
  · exact found_ok
  · intro h
    rw [tradeState, h]
    rfl

theorem fromState_iff {fromState : Option String} {state : Option TradeState} :
    (fromState.elim (.ok none) fun value => (tradeState value).map some : Except TradeError _) = .ok state ↔
      (∀ value ∈ fromState, (TradeState.ofValue value).isSome = true) ∧ state = fromState.bind TradeState.ofValue := by
  cases fromState with
  | none =>
    constructor
    · intro h
      exact ⟨fun _ hvalue => (Option.not_mem_none _ hvalue).elim, (Except.ok.inj h).symm⟩
    · rintro ⟨-, rfl⟩
      rfl
  | some value =>
    rw [Option.elim_some, Option.bind_some, tradeState]
    cases hvalue : TradeState.ofValue value with
    | none =>
      constructor
      · intro h
        cases h
      · rintro ⟨hreads, -⟩
        have hsome := hreads value rfl
        rw [hvalue] at hsome
        cases hsome
    | some s =>
      constructor
      · intro h
        refine ⟨?_, (Except.ok.inj h).symm⟩
        rintro _ ⟨⟩
        rw [hvalue]
        rfl
      · rintro ⟨-, rfl⟩
        rfl

theorem value_of_bind {fromState : Option String} (h : ∀ value ∈ fromState, (TradeState.ofValue value).isSome = true) :
    (fromState.bind TradeState.ofValue).map (·.value) = fromState := by
  cases fromState with
  | none => rfl
  | some value =>
    obtain ⟨state, hstate⟩ := Option.isSome_iff_exists.mp (h value rfl)
    rw [Option.bind_some, hstate, Option.map_some, TradeState.value_of_ofValue hstate]

theorem verifyEntry_iff {sha : String} : verifyEntry tradeId previous row = .ok (some sha) ↔
    row.Readable ∧ row.previousEventSha256 = previous ∧ row.eventSha256 = sha ∧
      sha = Sha256.hexdigest (entryText tradeId previous (entryContent row)) := by
  constructor
  · intro h
    obtain ⟨fromState, hfrom, h⟩ := bind_ok h
    obtain ⟨toState, hto, h⟩ := bind_ok h
    obtain ⟨payload, hpayload, h⟩ := bind_ok h
    obtain ⟨hreads, rfl⟩ := fromState_iff.mp hfrom
    have hto := tradeState_iff.mp hto
    have hsome := Except.ok.inj h
    rw [value_of_bind hreads, TradeState.value_of_ofValue hto] at hsome
    split_ifs at hsome with hsame
    obtain rfl := Option.some.inj hsome
    refine ⟨⟨hreads, by rw [hto]; rfl, payload, hpayload⟩, hsame.1, hsame.2, ?_⟩
    rw [entryText, entryContent, hpayload]
    rfl
  · rintro ⟨⟨hreads, hto, payload, hpayload⟩, hprevious, hsha, heq⟩
    obtain ⟨toState, hto⟩ := Option.isSome_iff_exists.mp hto
    rw [entryText, entryContent, hpayload] at heq
    rw [verifyEntry, fromState_iff.mpr ⟨hreads, rfl⟩, ok_bind, tradeState_iff.mpr hto, ok_bind, hpayload, ok_bind,
      value_of_bind hreads, TradeState.value_of_ofValue hto]
    dsimp only
    rw [if_pos ⟨hprevious, hsha.trans heq⟩, heq]
    rfl

theorem verifyRows_snoc {last : Option String} : verifyRows tradeId previous (rows ++ [row]) = .ok (some last) ↔
    ∃ middle sha, verifyRows tradeId previous rows = .ok (some middle) ∧
      verifyEntry tradeId middle row = .ok (some sha) ∧ last = some sha := by
  induction rows generalizing previous with
  | nil =>
    rw [List.nil_append, verifyRows]
    cases hentry : verifyEntry tradeId previous row with
    | error e => simp [verifyRows, hentry]
    | ok expected =>
      cases expected with
      | none => simp [verifyRows, hentry, pure, Except.pure]
      | some sha => simp [verifyRows, hentry, eq_comm]
  | cons first rows ih =>
    rw [List.cons_append, verifyRows, verifyRows]
    cases hentry : verifyEntry tradeId previous first with
    | error e => simp
    | ok expected =>
      cases expected with
      | none => simp [pure, Except.pure]
      | some sha => exact ih

theorem verifyRows_iff {journal : List TradeEventRow} {last : Option String} :
    verifyRows tradeId none journal.reverse = .ok (some last) ↔
      JournalVerified tradeId journal ∧ last = journal.head?.map (·.eventSha256) := by
  induction journal generalizing last with
  | nil => simp [verifyRows, JournalVerified, HashChain.Verified, eq_comm]
  | cons row earlier ih =>
    rw [List.reverse_cons, verifyRows_snoc]
    constructor
    · rintro ⟨middle, sha, hrows, hentry, rfl⟩
      obtain ⟨hverified, rfl⟩ := ih.mp hrows
      obtain ⟨hreadable, hprevious, rfl, hsha⟩ := verifyEntry_iff.mp hentry
      refine ⟨⟨⟨hprevious, ?_, hverified.1⟩, List.forall_mem_cons.mpr ⟨hreadable, hverified.2⟩⟩, rfl⟩
      change row.eventSha256 = Sha256.hexdigest (entryText tradeId row.previousEventSha256 (entryContent row))
      rw [hprevious]
      exact hsha
    · rintro ⟨⟨⟨hprevious, hsha, hverified⟩, hreadable⟩, rfl⟩
      obtain ⟨hrow, hearlier⟩ := List.forall_mem_cons.mp hreadable
      refine ⟨_, row.eventSha256, ih.mpr ⟨⟨hverified, hearlier⟩, rfl⟩, verifyEntry_iff.mpr ⟨hrow, hprevious, rfl, ?_⟩, rfl⟩
      change row.previousEventSha256 = _ at hprevious
      change row.eventSha256 = Sha256.hexdigest (entryText tradeId row.previousEventSha256 (entryContent row)) at hsha
      rw [hprevious] at hsha
      exact hsha

/-- What `verify_chain` accepts. -/
theorem verifyChain_iff {t : TradeTables} : verifyChain tradeId t = .ok true ↔
    ∃ row, t.trade tradeId = some row ∧ row.Readable ∧ JournalVerified tradeId (t.journal tradeId) ∧
      (t.journal tradeId).head?.map (·.eventSha256) = some row.journalHeadSha256 := by
  constructor
  · intro h
    obtain ⟨verified, hverified, h⟩ := bind_ok h
    cases verified with
    | none => cases h
    | some previous =>
      obtain ⟨hjournal, rfl⟩ := verifyRows_iff.mp hverified
      cases htrade : t.trade tradeId with
      | none =>
        rw [htrade] at h
        cases h
      | some row =>
        rw [htrade] at h
        obtain ⟨trade, hrecord, h⟩ := bind_ok h
        obtain ⟨hrow, hreadable⟩ := record_ok hrecord
        have htrue := Except.ok.inj h
        rw [Bool.and_eq_true, decide_eq_true_eq, hrow] at htrue
        exact ⟨row, rfl, hreadable, hjournal, htrue.2.symm⟩
  · rintro ⟨row, htrade, hreadable, hjournal, hhead⟩
    obtain ⟨trade, hrecord, hrow⟩ := hreadable.record
    have hrows := verifyRows_iff.mpr ⟨hjournal, rfl⟩
    have hne : (t.journal tradeId).reverse.isEmpty = false := by
      cases hlist : t.journal tradeId with
      | nil =>
        rw [hlist] at hhead
        cases hhead
      | cons e l => simp
    rw [verifyChain, hrows, ok_bind]
    dsimp only
    rw [htrade]
    dsimp only
    rw [hrecord, ok_bind, hrow, hhead, hne]
    simp [pure, Except.pure]

end Entries

section Encoding

variable {f f' : Option String} {toState toState' eventType eventType' tradeId : String} {payload payload' : PyJson}
  {previous previous' : Option String}

theorem nullable_inj (h : sortKeys (nullable f) = sortKeys (nullable f')) : f = f' := by
  cases f with
  | none =>
    cases f' with
    | none => rfl
    | some value' => simp [nullable, sortKeys, Json.orderKeys] at h
  | some value =>
    cases f' with
    | none => simp [nullable, sortKeys, Json.orderKeys] at h
    | some value' => simpa [nullable, sortKeys, Json.orderKeys] using h

theorem nullable_uniqueKeys : (nullable f).UniqueKeys := by
  cases f <;> simp [nullable, Json.UniqueKeys]

theorem eventText_congr (h : dumps payload = dumps payload') :
    eventText tradeId f toState eventType payload previous = eventText tradeId f toState eventType payload' previous := by
  have hsorted : payload.orderKeys (· ≤ ·) = payload'.orderKeys (· ≤ ·) := dumps_injective h
  simp only [eventText, dumps, sortKeys, Json.orderKeys, Json.orderKeysFields, hsorted]

/-- The text of an entry shows all that is hashed, the payload up to the order of its keys. -/
theorem eventText_inj (hkeys : payload'.UniqueKeys)
    (h : eventText tradeId f toState eventType payload previous = eventText tradeId f' toState' eventType' payload' previous') :
    f = f' ∧ toState = toState' ∧ eventType = eventType' ∧ dumps payload = dumps payload' ∧ previous = previous' := by
  have hunique : Json.UniqueKeys (.obj [("domain", .str "kairos.trade-lifecycle-event.v1"), ("trade_id", .str tradeId),
      ("from_state", nullable f'), ("to_state", .str toState'), ("event_type", .str eventType'), ("payload", payload'),
      ("previous_event_sha256", nullable previous')]) := by
    rw [Json.uniqueKeys_obj]
    simp [Json.UniqueKeys, nullable_uniqueKeys, hkeys]
  have hfield := getField_congr h hunique
  have hpayload : sortKeys payload = sortKeys payload' := hfield "payload"
  refine ⟨nullable_inj (hfield "from_state"), ?_, ?_, ?_, nullable_inj (hfield "previous_event_sha256")⟩
  · have hstate : sortKeys (.str toState) = sortKeys (.str toState') := hfield "to_state"
    simpa [sortKeys, Json.orderKeys] using hstate
  · have htype : sortKeys (.str eventType) = sortKeys (.str eventType') := hfield "event_type"
    simpa [sortKeys, Json.orderKeys] using htype
  · rw [dumps, hpayload, dumps]

end Encoding

section Written

/-- The payload reads back from its column as it was. -/
def StablePayload (payload : ModelDump) : Prop := ∀ n ∈ payload.value.numbers, Jsonb.Stable n

/-- A payload of an entry, as it is hashed and stored. -/
structure EntryPayload (payload : PyJson) : Prop where
  object : ∃ fields, payload = .obj fields
  uniqueKeys : payload.UniqueKeys
  stable : ∀ n ∈ payload.numbers, Jsonb.Stable n

variable {tradeId head : String} {journal : List TradeEventRow} {state : TradeState} {payload : PyJson} {column : JsonColumn}

theorem EntryPayload.reads (h : EntryPayload payload) (hcolumn : Jsonb.jsonbIn (dumps payload) = some column) :
    ∃ reread, objectOf column = .ok reread ∧ dumps reread = dumps payload ∧ reread.UniqueKeys := by
  obtain ⟨reread, hread, hdumps⟩ := readColumn_stable hcolumn h.uniqueKeys (Jsonb.nulFree_of_jsonbIn hcolumn) h.stable
  obtain ⟨fields, rfl⟩ := h.object
  obtain ⟨fields', rfl⟩ := eq_obj_of_dumps hdumps
  refine ⟨.obj fields', by rw [objectOf, hread], hdumps, ?_⟩
  have hsorted := dumps_injective hdumps
  have hkeys : (sortKeys (.obj fields)).UniqueKeys := (Json.uniqueKeys_orderKeys _ _).mpr h.uniqueKeys
  rw [← hsorted] at hkeys
  exact (Json.uniqueKeys_orderKeys _ _).mp hkeys

theorem createdPayload_entry (trade : TradeIdentity) {payload : ModelDump} (h : StablePayload payload) :
    EntryPayload (createdPayload trade payload.value) where
  object := ⟨_, rfl⟩
  uniqueKeys := by
    have hunique : payload.value.UniqueKeys := payload.uniqueKeys
    have hnew : (newTradePayload trade payload.value).UniqueKeys := by
      rw [newTradePayload, Json.uniqueKeys_obj]
      simp [Json.UniqueKeys, hunique]
    rw [createdPayload, Json.uniqueKeys_obj]
    simp [hnew]
  stable n hn := by
    simp [createdPayload, newTradePayload, Json.numbers, Json.numbersFields] at hn
    rcases hn with hn | rfl
    · exact h n hn
    · trivial

theorem numbers_nullable (value : Option String) : (nullable value).numbers = [] := by
  cases value <;> simp [nullable, Json.numbers]

theorem transitionPayload_entry {request : TransitionRequest} (progress : TradeProgress) (h : StablePayload request.eventPayload) :
    EntryPayload (TradeRow.payloadOf request progress) where
  object := ⟨_, rfl⟩
  uniqueKeys := by
    have hunique : request.eventPayload.value.UniqueKeys := request.eventPayload.uniqueKeys
    simp [TradeRow.payloadOf, transitionPayload, Json.uniqueKeys_obj, Json.UniqueKeys, hunique, nullable_uniqueKeys,
      IdentifierName.all, IdentifierName.value]
  stable n hn := by
    simp [TradeRow.payloadOf, transitionPayload, Json.numbers, Json.numbersFields, numbers_nullable, IdentifierName.all] at hn
    exact h n hn

/-- An entry as the repository writes it is verified, behind a journal that is. -/
theorem JournalVerified.cons {row : TradeEventRow} (h : JournalVerified tradeId journal) (hp : EntryPayload payload)
    (hcolumn : Jsonb.jsonbIn (dumps payload) = some row.eventPayload)
    (hstates : (∀ value ∈ row.fromState, (TradeState.ofValue value).isSome = true) ∧
      (TradeState.ofValue row.toState).isSome = true)
    (hprevious : row.previousEventSha256 = journal.head?.map (·.eventSha256))
    (hsha : row.eventSha256 = eventSha tradeId row.fromState row.toState row.eventType payload row.previousEventSha256) :
    JournalVerified tradeId (row :: journal) ∧ (entryContent row).2.2.2.UniqueKeys := by
  obtain ⟨reread, hread, hdumps, hkeys⟩ := hp.reads hcolumn
  have hcontent : entryContent row = (row.fromState, row.toState, row.eventType, reread) := by
    rw [entryContent, hread]
    rfl
  refine ⟨⟨⟨hprevious, ?_, h.1⟩, List.forall_mem_cons.mpr ⟨⟨hstates.1, hstates.2, reread, hread⟩, h.2⟩⟩, ?_⟩
  · dsimp only
    rw [hcontent, hsha, eventSha, entryText, eventText_congr hdumps]
  · rw [hcontent]
    exact hkeys

/-- The journal of a trade verifies, and its payloads have each key once. -/
theorem LifecycleChain.verified (h : LifecycleChain StablePayload tradeId journal state head) :
    JournalVerified tradeId journal ∧ ∀ row ∈ journal, (entryContent row).2.2.2.UniqueKeys := by
  have hnil : JournalVerified tradeId [] := ⟨trivial, by simp⟩
  have hof : ∀ s : TradeState, (TradeState.ofValue s.value).isSome = true := by
    intro s
    rw [TradeState.ofValue_value]
    rfl
  induction h with
  | @created trade payload column hid hstored hcolumn =>
    have hentry := @JournalVerified.cons tradeId [] _ (createdEvent trade payload.value column) hnil
      (createdPayload_entry trade hstored) hcolumn ⟨fun _ h => (Option.not_mem_none _ h).elim, hof .received⟩ rfl
      (by rw [← hid]; rfl)
    exact ⟨hentry.1, List.forall_mem_cons.mpr ⟨hentry.2, by simp⟩⟩
  | @moved journal state head request progress column sha chain hallowed hstored hcolumn hsha ih =>
    have hentry := @JournalVerified.cons tradeId journal _
      ⟨tradeId, some state.value, request.target.value, request.eventType, column, some head, sha⟩ ih.1
      (transitionPayload_entry progress hstored) hcolumn ⟨by rintro _ ⟨⟩; exact hof state, hof request.target⟩
      chain.head_eq.1.symm hsha
    exact ⟨hentry.1, List.forall_mem_cons.mpr ⟨hentry.2, ih.2⟩⟩

end Written

section Results

variable {contracts : ExecutionContracts} {s t : TradeTables} {row : TradeRow} {tradeId : String}

theorem TradeRow.Sound.verifies (h : t.Sound StablePayload) (hrow : row ∈ t.trades) : verifyChain row.tradeId t = .ok true := by
  have hsound := h.rows row hrow
  exact verifyChain_iff.mpr ⟨row, h.trade hrow, hsound.readable, hsound.chain.verified.1, hsound.chain.head_eq.1⟩

/-- The columns of a journal that `verify_chain` looks at. -/
def verifiedColumns (journal : List TradeEventRow) :
    List (Option String × (Option String × String × String × String) × String) :=
  journal.map fun e => (e.previousEventSha256, entryColumns (entryContent e), e.eventSha256)

/-- Two texts of entries of the journals that differ and have one digest. -/
def DigestCollision (tradeId : String) (journal journal' : List TradeEventRow) : Prop :=
  HashChain.Collision (entryText tradeId) Sha256.hexdigest entryContent (·.previousEventSha256) journal journal'

theorem entryText_inj {e e' : TradeEventRow} (hkeys : (entryContent e').2.2.2.UniqueKeys)
    (h : entryText tradeId e.previousEventSha256 (entryContent e) = entryText tradeId e'.previousEventSha256 (entryContent e')) :
    e.previousEventSha256 = e'.previousEventSha256 ∧ entryColumns (entryContent e) = entryColumns (entryContent e') := by
  obtain ⟨hfrom, hto, htype, hpayload, hprevious⟩ := eventText_inj hkeys h
  refine ⟨hprevious, ?_⟩
  rw [entryColumns, entryColumns, hfrom, hto, htype, hpayload]

/-- In every reachable state the journal of every trade verifies, and no other journal with its head does unless two
texts are shown that collide. -/
theorem trade_chains (hs : s.Initial) (hrun : ReflTransGen (TradeStep contracts True StablePayload) s t) :
    ∀ r ∈ t.trades, verifyChain r.tradeId t = .ok true ∧
      ∀ (t' : TradeTables) (r' : TradeRow), verifyChain r.tradeId t' = .ok true → t'.trade r.tradeId = some r' →
        r'.journalHeadSha256 = r.journalHeadSha256 →
        verifiedColumns (t'.journal r.tradeId) = verifiedColumns (t.journal r.tradeId) ∨
          DigestCollision r.tradeId (t'.journal r.tradeId) (t.journal r.tradeId) := by
  have hsound : t.Sound StablePayload := @TradeTables.Reachable.sound contracts True StablePayload t ⟨s, hs, hrun⟩
  intro r hr
  refine ⟨TradeRow.Sound.verifies hsound hr, fun t' r' hverifies hr' hhead => ?_⟩
  obtain ⟨hjournal, hkeys⟩ := (hsound.rows r hr).chain.verified
  obtain ⟨row', hrow', -, hjournal', hhead'⟩ := verifyChain_iff.mp hverifies
  obtain rfl := Option.some.inj (hr'.symm.trans hrow')
  have hheads : (t'.journal r.tradeId).head?.map (·.eventSha256) = (t.journal r.tradeId).head?.map (·.eventSha256) := by
    rw [hhead', (hsound.rows r hr).chain.head_eq.1, hhead]
  exact HashChain.Verified.eq_or_collision (fun e _ e' he' => entryText_inj (hkeys e' he')) hjournal'.1 hjournal.1 hheads

theorem trade_chains_example :
    ∃ r ∈ exampleTrades.trades, r.tradeId = exampleIdentity.tradeId ∧ verifyChain r.tradeId exampleTrades = .ok true := by
  have hnul : Jsonb.nulFree "risk" = true := by decide
  have hstable : StablePayload exampleNewTrade.riskDecisionPayload :=
    (reloads_iff (exampleDump_nulFree hnul (.int 1))).mp (exampleDump_reloads hnul 1)
  have hcreate : TradeStep exampleExecutionContracts True StablePayload .empty exampleCreated := exampleCreated_step hstable
  obtain ⟨r, hr, hid⟩ := exampleCreated_trade
  have hfollows := TradeTables.Sound.stepFollows
    (TradeTables.Sound.step TradeTables.empty_initial.sound hcreate) (@exampleTrades_step True StablePayload)
  obtain ⟨r', hr', hrow, -⟩ := hfollows r hr
  have hchains := trade_chains TradeTables.empty_initial (.tail (.single hcreate) exampleTrades_step) r' hr'
  exact ⟨r', hr', hrow.tradeId.trans hid, hchains.1⟩

end Results

end KairosPersistence.TradeLifecycle
