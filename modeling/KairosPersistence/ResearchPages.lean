import KairosPersistence.ClosedBarPages
import KairosPersistence.ResearchTables

/-!
`load_page` of the decision samples and of the proposals of an arm, in the order
of the market clock and the sample.
-/

namespace KairosPersistence

open PythonJson PythonText
open Transactions (bind_ok ok_bind require require_ok require_pos found found_some found_ok)
open KeysetPages (page Serves Lossless)

section Tables

/-- The columns that both tables are read by. -/
structure ArmKey where
  campaignId : String
  armId : String
  sampleId : String
  marketAsOfTsMs : ℕ
  deriving DecidableEq, Repr

/-- A table with one row for each campaign, arm and sample. -/
structure ArmTable {ρ : Type} (key : ρ → ArmKey) where
  rows : List ρ
  unique : (rows.map fun row => ((key row).campaignId, (key row).armId, (key row).sampleId)).Nodup

/-- What `load_page` of a table has of its own: the key of a row, what it reads of it, and its messages. -/
structure PageSource (ρ α : Type) where
  key : ρ → ArmKey
  read : ρ → Except ResearchError α
  cursorFields : String
  cursorTimestamp : String
  pageLimit : String

def ArmTable.rowsOf {ρ : Type} {key : ρ → ArmKey} (table : ArmTable key) (campaignId armId : String) : List ρ :=
  table.rows.filter fun row => (key row).campaignId = campaignId ∧ (key row).armId = armId

end Tables

section Loading

variable {ρ α γ : Type} [LinearOrder γ] (source : PageSource ρ α) (collation : String → γ)

/-- A non-empty text without white space around it. -/
def Normalized (value : String) : Prop := value ≠ "" ∧ value = strip value

instance (value : String) : Decidable (Normalized value) := inferInstanceAs (Decidable (_ ∧ _))

/-- `_require_identifier`. -/
def requireIdentifier (name value : String) : Except ResearchError Unit :=
  require (Normalized value) (.valueError (name ++ " must be a non-empty normalized identifier"))

/-- `(market_as_of_ts_ms, sample_id)`; texts are compared under the collation of the database. -/
def pageRank (marketAsOfTsMs : ℤ) (sampleId : String) : ℤ ×ₗ γ := toLex (marketAsOfTsMs, collation sampleId)

/-- `load_page`. -/
def loadPage (table : ArmTable source.key) (campaignId armId : String) (afterMarketAsOfTsMs : Option ℤ)
    (afterSampleId : Option String) (limit : ℤ) : Except ResearchError (List α) := do
  requireIdentifier "campaign_id" campaignId
  requireIdentifier "arm_id" armId
  require (afterMarketAsOfTsMs = none ↔ afterSampleId = none) (.valueError source.cursorFields)
  require (∀ after ∈ afterMarketAsOfTsMs, 0 ≤ after) (.valueError source.cursorTimestamp)
  afterSampleId.elim (pure ()) (requireIdentifier "after_sample_id")
  require (1 ≤ limit ∧ limit ≤ 1000) (.valueError source.pageLimit)
  let cursor := afterMarketAsOfTsMs.bind fun after => afterSampleId.map (pageRank collation after)
  let rows := page (table.rowsOf campaignId armId)
    (fun row => pageRank collation (source.key row).marketAsOfTsMs (source.key row).sampleId) cursor limit.toNat
  rows.mapM source.read

end Loading

section Sources

/-- `_decode_payload`. -/
def decodePagePayload (entity : String) (column : JsonColumn) : Except ResearchError PyJson :=
  match readColumn column with
  | none => .error (.messageIdentityConflict (entity ++ " is not valid JSON"))
  | some (.obj fields) => .ok (.obj fields)
  | some _ => .error (.messageIdentityConflict (entity ++ " payload must be a JSON object"))

/-- The stored payload and its fingerprint are those of a model. -/
def PayloadMatches (stored payload : PyJson) (payloadSha256 : String) : Prop :=
  payloadSha256 = digest payload ∧ digest payload = digest stored ∧ dumps stored = dumps payload

instance (stored payload : PyJson) (payloadSha256 : String) : Decidable (PayloadMatches stored payload payloadSha256) :=
  inferInstanceAs (Decidable (_ ∧ _))

/-- `ResearchDecisionSampleV1`. -/
structure SampleContract where
  modelValidate : PyJson → Option DecisionSample
  toPayload : DecisionSample → PyJson

/-- A row of `sim_research_decision_samples`, with its columns as those of a sample. -/
structure DecisionSampleRow where
  sample : DecisionSample
  authority : String
  payload : JsonColumn
  payloadSha256 : String

def sampleAuthority : String := "SIM_RESEARCH_ONLY"

/-- `_sample_from_row` and `_row_matches`. -/
def readSampleRow (contract : SampleContract) (row : DecisionSampleRow) : Except ResearchError DecisionSample := do
  let stored ← decodePagePayload "stored research decision sample" row.payload
  let sample ← found (contract.modelValidate stored)
    (.messageIdentityConflict "stored research decision sample violates its typed contract")
  require (row.sample = sample ∧ row.authority = sampleAuthority ∧
      PayloadMatches stored (contract.toPayload sample) row.payloadSha256)
    (.messageIdentityConflict "stored research decision sample failed integrity verification")
  pure sample

def decisionSamplePages (contract : SampleContract) : PageSource DecisionSampleRow DecisionSample where
  key row := ⟨row.sample.campaignId, row.sample.armId, row.sample.sampleId, row.sample.marketAsOfTsMs⟩
  read := readSampleRow contract
  cursorFields := "both research decision page cursor fields must be set together"
  cursorTimestamp := "research decision page cursor timestamp must be a non-negative integer"
  pageLimit := "research decision page limit must be an integer from 1 through 1000"

theorem readSampleRow_ok {contract : SampleContract} {row : DecisionSampleRow} {sample : DecisionSample}
    (h : readSampleRow contract row = .ok sample) :
    row.sample = sample ∧ ∃ payload, contract.modelValidate payload = some sample := by
  obtain ⟨payload, -, h⟩ := bind_ok h
  obtain ⟨read, hread, h⟩ := bind_ok h
  obtain ⟨_, hmatches, h⟩ := bind_ok h
  obtain rfl := Except.ok.inj h
  exact ⟨(require_ok hmatches).1, payload, found_ok hread⟩

/-- The row that `record` has stored of a sample. -/
structure DecisionSampleRow.Of (contract : SampleContract) (row : DecisionSampleRow) (sample : DecisionSample) : Prop where
  columns : row.sample = sample ∧ row.authority = sampleAuthority
  payloadSha256 : row.payloadSha256 = digest (contract.toPayload sample)
  column : Jsonb.jsonbIn (dumps (contract.toPayload sample)) = some row.payload

/-- A sample whose payload the database gives back is read as it was recorded. -/
theorem DecisionSampleRow.Of.read {contract : SampleContract} {row : DecisionSampleRow} {sample : DecisionSample}
    (h : row.Of contract sample) {fields : List (String × PyJson)} (hfields : contract.toPayload sample = .obj fields)
    (hreloads : Reloads (contract.toPayload sample))
    (hvalidate : ∀ v, dumps v = dumps (contract.toPayload sample) → contract.modelValidate v = some sample) :
    readSampleRow contract row = .ok sample := by
  obtain ⟨reread, hread, hdumps⟩ := hreloads _ h.column
  obtain ⟨stored, rfl⟩ := eq_obj_of_dumps (hdumps.trans (congrArg dumps hfields))
  have hdecoded : decodePagePayload "stored research decision sample" row.payload = .ok (.obj stored) := by
    rw [decodePagePayload, hread]
  have hpayload : PayloadMatches (.obj stored) (contract.toPayload sample) row.payloadSha256 :=
    ⟨h.payloadSha256, (digest_congr hdumps).symm, hdumps⟩
  rw [readSampleRow, hdecoded, ok_bind, hvalidate _ hdumps, found_some, ok_bind,
    require_pos ⟨h.columns.1, h.columns.2, hpayload⟩]
  rfl

/-- `LLMTradeProposalV1`. -/
structure ProposalContract where
  modelValidate : PyJson → Option TradeProposal
  toPayload : TradeProposal → PyJson

/-- A row of `sim_llm_trade_proposals`. -/
structure ProposalRow where
  proposalId : String
  campaignId : String
  armId : String
  sampleId : String
  symbol : String
  timeframe : String
  marketAsOfTsMs : ℕ
  expiresAtTsMs : ℕ
  marketSnapshotSha256 : String
  action : ProposalAction
  payload : JsonColumn
  payloadSha256 : String

/-- The columns of a proposal. -/
def ProposalRow.Matches (row : ProposalRow) (proposal : TradeProposal) : Prop :=
  row.proposalId = proposal.proposalId ∧ row.campaignId = proposal.campaignId ∧ row.armId = proposal.armId.value ∧
    row.sampleId = proposal.sampleId ∧ row.symbol = proposal.symbol ∧ row.timeframe = proposal.timeframe ∧
    row.marketAsOfTsMs = proposal.marketAsOfTsMs ∧ some row.expiresAtTsMs = proposal.expiresAtTsMs ∧
    row.marketSnapshotSha256 = proposal.marketSnapshotSha256 ∧ row.action = proposal.action

instance instDecidableProposalMatches (row : ProposalRow) (proposal : TradeProposal) : Decidable (row.Matches proposal) :=
  inferInstanceAs (Decidable (_ ∧ _))

/-- `_proposal_from_row` and `_row_matches`. -/
def readProposalRow (contract : ProposalContract) (row : ProposalRow) : Except ResearchError TradeProposal := do
  let stored ← decodePagePayload "stored simulator LLM proposal" row.payload
  let proposal ← found (contract.modelValidate stored) (.valueError "LLMTradeProposalV1")
  require (proposal.proposalId = row.proposalId)
    (.messageIdentityConflict "stored simulator LLM proposal ID does not match its payload")
  require (row.Matches proposal ∧ PayloadMatches stored (contract.toPayload proposal) row.payloadSha256)
    (.messageIdentityConflict "stored simulator LLM proposal failed integrity verification")
  pure proposal

theorem readProposalRow_ok {contract : ProposalContract} {row : ProposalRow} {proposal : TradeProposal}
    (h : readProposalRow contract row = .ok proposal) :
    row.Matches proposal ∧ ∃ payload, contract.modelValidate payload = some proposal := by
  obtain ⟨payload, -, h⟩ := bind_ok h
  obtain ⟨read, hread, h⟩ := bind_ok h
  obtain ⟨_, -, h⟩ := bind_ok h
  obtain ⟨_, hmatches, h⟩ := bind_ok h
  obtain rfl := Except.ok.inj h
  exact ⟨(require_ok hmatches).1, payload, found_ok hread⟩

def proposalPages (contract : ProposalContract) : PageSource ProposalRow TradeProposal where
  key row := ⟨row.campaignId, row.armId, row.sampleId, row.marketAsOfTsMs⟩
  read := readProposalRow contract
  cursorFields := "both proposal page cursor fields must be set together"
  cursorTimestamp := "proposal page cursor timestamp must be a non-negative integer"
  pageLimit := "proposal page limit must be an integer from 1 through 1000"

end Sources

section Pages

variable {ρ α γ : Type} [LinearOrder γ] {source : PageSource ρ α} {collation : String → γ} {table : ArmTable source.key}
  {campaignId armId : String} {cursorOf : α → ℤ × String} {stored : List α}

/-- The rows of an arm, in their order. -/
def ArmTable.orderedRows (table : ArmTable source.key) (collation : String → γ) (campaignId armId : String) : List ρ :=
  (table.rowsOf campaignId armId).insertionSort fun a b =>
    pageRank collation (source.key a).marketAsOfTsMs (source.key a).sampleId ≤
      pageRank collation (source.key b).marketAsOfTsMs (source.key b).sampleId

/-- The row is read as an item that a cursor can be made of. -/
structure PageSource.Holds (source : PageSource ρ α) (cursorOf : α → ℤ × String) (row : ρ) (a : α) : Prop where
  read : source.read row = .ok a
  cursor : cursorOf a = (((source.key row).marketAsOfTsMs : ℤ), (source.key row).sampleId)
  normalized : Normalized (source.key row).sampleId

omit [LinearOrder γ] in
theorem ArmTable.nodup_ranks (table : ArmTable source.key) (hcollation : Function.Injective collation)
    (campaignId armId : String) : ((table.rowsOf campaignId armId).map fun row =>
      pageRank collation (source.key row).marketAsOfTsMs (source.key row).sampleId).Nodup := by
  have hkeys := (List.filter_sublist (p := fun row => decide ((source.key row).campaignId = campaignId ∧
    (source.key row).armId = armId)).map _).nodup table.unique
  change ((table.rowsOf campaignId armId).map _).Nodup at hkeys
  rw [List.nodup_map_iff_inj_on hkeys.of_map]
  intro a ha b hb hrank
  have harm {row : ρ} (hrow : row ∈ table.rowsOf campaignId armId) :
      (source.key row).campaignId = campaignId ∧ (source.key row).armId = armId := by
    simpa using (List.mem_filter.mp hrow).2
  have hsample : (source.key a).sampleId = (source.key b).sampleId :=
    hcollation (Prod.mk.inj (toLex.injective hrank)).2
  apply List.inj_on_of_nodup_map hkeys ha hb
  rw [(harm ha).1, (harm ha).2, (harm hb).1, (harm hb).2, hsample]

theorem mapM_read {rows : List ρ} {items : List α} (h : List.Forall₂ (source.Holds cursorOf) rows items) :
    rows.mapM source.read = .ok items := by
  induction h with
  | nil => rfl
  | cons hrow _ ih =>
    rw [List.mapM_cons, hrow.read, ok_bind, ih]
    rfl

/-- The page of arguments that are accepted. -/
theorem loadPage_eq (hcampaign : Normalized campaignId) (harm : Normalized armId) {cursor : Option (ℤ × String)}
    (hcursor : ∀ c ∈ cursor, 0 ≤ c.1 ∧ Normalized c.2) {limit : ℤ} (hlimit : 1 ≤ limit ∧ limit ≤ 1000) :
    loadPage source collation table campaignId armId (cursor.map Prod.fst) (cursor.map Prod.snd) limit =
      (page (table.rowsOf campaignId armId)
        (fun row => pageRank collation (source.key row).marketAsOfTsMs (source.key row).sampleId)
        (cursor.map fun c => pageRank collation c.1 c.2) limit.toNat).mapM source.read := by
  unfold loadPage requireIdentifier
  cases cursor with
  | none =>
    simp only [require_pos hcampaign, require_pos harm, require_pos hlimit, ok_bind, Option.map_none, Option.elim_none,
      Option.bind_none]
    rw [require_pos (by simp), ok_bind, require_pos (by simp), ok_bind]
    rfl
  | some c =>
    obtain ⟨htime, hsample⟩ := hcursor c rfl
    simp only [require_pos hcampaign, require_pos harm, require_pos hsample, require_pos hlimit, ok_bind, Option.map_some,
      Option.elim_some, Option.bind_some]
    rw [require_pos (by simp), ok_bind, require_pos (by simpa using htime), ok_bind]

/-- A page of an arm is the next items. -/
theorem loadPage_serves (hcollation : Function.Injective collation) (hcampaign : Normalized campaignId)
    (harm : Normalized armId)
    (hstored : List.Forall₂ (source.Holds cursorOf) (table.orderedRows collation campaignId armId) stored) :
    Serves (fun cursor limit =>
        loadPage source collation table campaignId armId (cursor.map Prod.fst) (cursor.map Prod.snd) limit)
      cursorOf 1000 stored fun _ _ => True := by
  intro before after limit hsplit hleast hmost
  subst hsplit
  have hbefore := List.forall₂_take_append _ _ _ hstored
  have hafter := List.forall₂_drop_append _ _ _ hstored
  have hrows := (List.take_append_drop before.length (table.orderedRows collation campaignId armId)).symm
  generalize (table.orderedRows collation campaignId armId).take before.length = rowsBefore at *
  generalize (table.orderedRows collation campaignId armId).drop before.length = rowsAfter at *
  have hcursor : (∀ c ∈ before.getLast?.map cursorOf, 0 ≤ c.1 ∧ Normalized c.2) ∧
      (before.getLast?.map cursorOf).map (fun c => pageRank collation c.1 c.2) = rowsBefore.getLast?.map fun row =>
        pageRank collation (source.key row).marketAsOfTsMs (source.key row).sampleId := by
    rcases forall₂_getLast? hbefore with ⟨rfl, rfl⟩ | ⟨row, -, a, hlastRow, hlast, hholds⟩
    · simp
    · rw [hlastRow, hlast]
      simp only [Option.map_some, hholds.cursor, and_true]
      intro c hc
      obtain rfl := Option.some.inj hc
      exact ⟨Int.natCast_nonneg _, hholds.normalized⟩
  have hpage := KeysetPages.page_append (table.nodup_ranks hcollation campaignId armId) hrows limit.toNat
  refine Or.inl ⟨?_, ?_⟩
  · exact (List.pairwise_of_forall fun _ _ => trivial).isChain
  · simp only [loadPage_eq hcampaign harm hcursor.1 ⟨hleast, hmost⟩, hcursor.2, hpage]
    exact mapM_read (List.forall₂_take limit.toNat hafter)

end Pages

section Pagination

variable {γ : Type} [LinearOrder γ]

/-- The key of the last item of a page. -/
def DecisionSample.pageKey (sample : DecisionSample) : ℤ × String := (sample.marketAsOfTsMs, sample.sampleId)

def TradeProposal.pageKey (proposal : TradeProposal) : ℤ × String := (proposal.marketAsOfTsMs, proposal.sampleId)

/-- The pages of the bars of a symbol, and of the samples and the proposals of an arm, lose nothing of what is stored
and pass over no gap; and the bars that the recorders have left have none. -/
structure KeysetPagination (tapes : TapeContracts) (samples : SampleContract) (proposals : ProposalContract)
    (collation : String → γ) : Prop where
  bars : ∀ s tapeId symbol tape columns stored, validateTapeId tapeId = .ok () → symbol ∈ simulationSymbols →
    s.tapes tapeId = some tape → tape.state = .sealed columns →
    List.Forall₂ (SimClosedBarRow.Holds tapes symbol) (tape.orderedBars symbol) stored →
    Lossless (fun cursor limit => loadClosedBarPage tapes tapeId symbol cursor limit s) (·.openTimeMs) 10000 stored
      ClosedBarEvent.Before
  recorded : ∀ bars frames s tapeId symbol tape, tapes.Reads bars frames →
    (∀ frame, frames frame → validateTapeId frame.tapeId = .ok ()) → SimTapes.Reachable tapes bars frames s →
    s.tapes tapeId = some tape → validateTapeId tapeId = .ok () ∧
      ∃ stored, List.Forall₂ (SimClosedBarRow.Holds tapes symbol) (tape.orderedBars symbol) stored ∧
        stored.IsChain ClosedBarEvent.Before
  samples : ∀ (table : ArmTable (decisionSamplePages samples).key) campaignId armId stored, Normalized campaignId →
    Normalized armId →
    List.Forall₂ (fun row sample => readSampleRow samples row = .ok sample) (table.orderedRows collation campaignId armId)
      stored →
    Lossless (fun cursor limit => loadPage (decisionSamplePages samples) collation table campaignId armId
      (cursor.map Prod.fst) (cursor.map Prod.snd) limit) DecisionSample.pageKey 1000 stored fun _ _ => True
  proposals : ∀ (table : ArmTable (proposalPages proposals).key) campaignId armId stored, Normalized campaignId →
    Normalized armId →
    List.Forall₂ (fun row proposal => readProposalRow proposals row = .ok proposal)
      (table.orderedRows collation campaignId armId) stored →
    Lossless (fun cursor limit => loadPage (proposalPages proposals) collation table campaignId armId
      (cursor.map Prod.fst) (cursor.map Prod.snd) limit) TradeProposal.pageKey 1000 stored fun _ _ => True

theorem keyset_pagination (tapes : TapeContracts) (samples : SampleContract) (proposals : ProposalContract)
    (hsamples : ∀ payload sample, samples.modelValidate payload = some sample → Normalized sample.sampleId)
    (hproposals : ∀ payload proposal, proposals.modelValidate payload = some proposal → Normalized proposal.sampleId)
    (collation : String → γ) (hcollation : Function.Injective collation) :
    KeysetPagination tapes samples proposals collation where
  bars _ _ _ _ _ _ hid hsymbol htape hsealed hstored :=
    (loadClosedBarPage_serves hid hsymbol htape hsealed hstored).lossless
  recorded _ _ _ _ symbol _ hreads hids hreachable htape := by
    obtain ⟨hid, hrecorded⟩ := SimTapes.Recorded.reachable hreads hids hreachable _ _ htape
    exact ⟨hid, hrecorded.holds hreads symbol⟩
  samples table campaignId armId stored hcampaign harm hstored := by
    have hholds : List.Forall₂ ((decisionSamplePages samples).Holds DecisionSample.pageKey)
        (table.orderedRows collation campaignId armId) stored := by
      apply hstored.imp
      intro row sample hread
      obtain ⟨rfl, payload, hvalid⟩ := readSampleRow_ok hread
      exact ⟨hread, rfl, hsamples payload _ hvalid⟩
    exact (loadPage_serves hcollation hcampaign harm hholds).lossless
  proposals table campaignId armId stored hcampaign harm hstored := by
    have hholds : List.Forall₂ ((proposalPages proposals).Holds TradeProposal.pageKey)
        (table.orderedRows collation campaignId armId) stored := by
      apply hstored.imp
      intro row proposal hread
      obtain ⟨⟨-, -, -, hsample, -, -, hclock, -⟩, payload, hvalid⟩ := readProposalRow_ok hread
      refine ⟨hread, ?_, ?_⟩
      · simp only [TradeProposal.pageKey, proposalPages, hsample, hclock]
      · change Normalized row.sampleId
        rw [hsample]
        exact hproposals payload _ hvalid
    exact (loadPage_serves hcollation hcampaign harm hholds).lossless

section Example

/-- A sample of an arm, at one market clock. -/
def exampleArmSample (sampleId : String) : DecisionSample where
  campaignId := "campaign"
  armId := "arm"
  sampleId := sampleId
  symbol := "BTCUSDT"
  timeframe := "1m"
  marketAsOfTsMs := 5
  marketSnapshotSha256 := "snapshot"
  strategyId := "strategy"
  strategyRevision := "1"
  pairedAtTsMs := 6
  sampleDeadlineTsMs := 7
  strategyOutcome := .notEvaluated
  strategyEvaluationSha256 := none
  strategyEvidenceAsOfTsMs := none
  strategyMarketSnapshotSha256 := none
  strategyIntentId := none
  strategyIntentExpiresAtTsMs := none
  sampleRecordId := sampleId
  armProtocolDigest := none
  llmOutcome := .notCalled
  llmEvidenceAsOfTsMs := none
  llmMarketSnapshotSha256 := none
  llmProposalId := none
  llmProposalExpiresAtTsMs := none
  llmCompletionReceiptId := none
  llmCompletionStartedAtTsMs := none
  llmCompletionObservedAtTsMs := none
  llmFailureReceiptId := none
  llmFailureClass := none
  llmFailureStartedAtTsMs := none
  llmFailureObservedAtTsMs := none

def exampleSamplePayload (sampleId : String) : PyJson := .obj [("sample_id", .str sampleId)]

def exampleSampleContract : SampleContract where
  toPayload sample := exampleSamplePayload sample.sampleId
  modelValidate
    | .obj fields =>
      match getField fields "sample_id" with
      | .str sampleId => if Normalized sampleId then some (exampleArmSample sampleId) else none
      | _ => none
    | _ => none

def exampleProposalContract : ProposalContract where
  toPayload proposal := .str proposal.proposalId
  modelValidate _ := none

def exampleSampleRow (sampleId : String) : DecisionSampleRow where
  sample := exampleArmSample sampleId
  authority := sampleAuthority
  payload := (Jsonb.jsonbIn (dumps (exampleSamplePayload sampleId))).getD .null
  payloadSha256 := digest (exampleSamplePayload sampleId)

def exampleSampleTable : ArmTable (decisionSamplePages exampleSampleContract).key where
  rows := [exampleSampleRow "b", exampleSampleRow "a"]
  unique := by simp [decisionSamplePages, exampleSampleRow, exampleArmSample]

theorem exampleSampleRow_read {sampleId : String} (hid : Normalized sampleId) (hnul : Jsonb.nulFree sampleId = true) :
    readSampleRow exampleSampleContract (exampleSampleRow sampleId) = .ok (exampleArmSample sampleId) := by
  have hkeys : (exampleSamplePayload sampleId).UniqueKeys := by
    simp [exampleSamplePayload, Json.UniqueKeys, Json.UniqueKeysFields]
  have hfree : (exampleSamplePayload sampleId).everyString Jsonb.nulFree := by
    simp [exampleSamplePayload, Json.everyString, Json.everyStringFields, hnul]
    decide
  have hcolumn : Jsonb.jsonbIn (dumps (exampleSamplePayload sampleId)) = some (exampleSampleRow sampleId).payload := by
    rw [exampleSampleRow, Jsonb.jsonbIn_dumps hfree]
    rfl
  have hof : (exampleSampleRow sampleId).Of exampleSampleContract (exampleArmSample sampleId) := ⟨⟨rfl, rfl⟩, rfl, hcolumn⟩
  have hfields : exampleSampleContract.toPayload (exampleArmSample sampleId) = .obj [("sample_id", .str sampleId)] := rfl
  apply hof.read hfields
  · intro column hstored
    apply readColumn_stable hstored hkeys hfree
    intro n hn
    simp [exampleSampleContract, exampleArmSample, exampleSamplePayload, Json.numbers, Json.numbersFields] at hn
  · intro v hv
    obtain ⟨fields, rfl⟩ := eq_obj_of_dumps hv
    have hfield : getField fields "sample_id" = .str sampleId := sortKeys_str (getField_congr hv hkeys "sample_id")
    simp only [exampleSampleContract, hfield]
    rw [if_pos hid]

theorem exampleSampleContract_normalized {payload : PyJson} {sample : DecisionSample}
    (h : exampleSampleContract.modelValidate payload = some sample) : Normalized sample.sampleId := by
  simp only [exampleSampleContract] at h
  split at h
  · split at h
    · split_ifs at h with hid
      obtain rfl := Option.some.inj h
      exact hid
    · cases h
  · cases h

theorem keyset_pagination_example :
    KeysetPages.readPages (fun cursor limit => loadPage (decisionSamplePages exampleSampleContract) (id : String → String)
      exampleSampleTable "campaign" "arm" (cursor.map Prod.fst) (cursor.map Prod.snd) limit) DecisionSample.pageKey [1, 1, 1]
      none = .ok ([exampleArmSample "a", exampleArmSample "b"], true) := by
  have hpages := keyset_pagination exampleTapeContracts exampleSampleContract exampleProposalContract
    (fun _ _ => exampleSampleContract_normalized) (fun _ _ h => nomatch h) (id : String → String) Function.injective_id
  have hordered : exampleSampleTable.orderedRows (id : String → String) "campaign" "arm" =
      [exampleSampleRow "a", exampleSampleRow "b"] := by
    have hrows : exampleSampleTable.rowsOf "campaign" "arm" = [exampleSampleRow "b", exampleSampleRow "a"] := by
      simp [ArmTable.rowsOf, exampleSampleTable, decisionSamplePages, exampleSampleRow, exampleArmSample]
    have hrank : ¬pageRank (id : String → String) (exampleArmSample "b").marketAsOfTsMs (exampleArmSample "b").sampleId ≤
        pageRank id (exampleArmSample "a").marketAsOfTsMs (exampleArmSample "a").sampleId := by
      rw [pageRank, pageRank, Prod.Lex.toLex_le_toLex]
      decide
    rw [ArmTable.orderedRows, hrows, List.insertionSort_cons, List.insertionSort_cons, List.insertionSort_nil,
      List.orderedInsert_nil, List.orderedInsert_of_not_le]
    · rfl
    · exact hrank
  have hstored : List.Forall₂ (fun row sample => readSampleRow exampleSampleContract row = .ok sample)
      (exampleSampleTable.orderedRows (id : String → String) "campaign" "arm")
      [exampleArmSample "a", exampleArmSample "b"] := by
    rw [hordered]
    exact .cons (exampleSampleRow_read (by decide) (by decide)) (.cons (exampleSampleRow_read (by decide) (by decide)) .nil)
  have hlossless := hpages.samples exampleSampleTable "campaign" "arm" _ (by decide) (by decide) hstored
  obtain ⟨got, done, hread, -, hall, hdone⟩ := hlossless.yields (List.pairwise_of_forall fun _ _ => trivial).isChain
    [1, 1, 1] (by simp [KeysetPages.Accepted])
  obtain rfl := hdone (by decide)
  rw [hread, hall rfl]

end Example

end Pagination

end KairosPersistence
