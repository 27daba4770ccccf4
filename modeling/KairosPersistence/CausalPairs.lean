import KairosPersistence.CampaignStability

/-!
The causal pairs of a campaign: a pair is rebuilt from a history that stays, and
links five records in the order of their times.
-/

namespace KairosPersistence

open Relation
open Transactions (bind_ok require_ok require_pos found_ok found_some ok_bind)

variable {contracts : CampaignContracts} {s t : CampaignDatabase} {scheduler : Option String} {clock recorded : ℕ}
  {campaignId sampleId evaluationReceiptSha256 attemptId : String} {history : PairHistory} {pair : CausalPair}

section History

/-- The history of a pair stays. -/
theorem CampaignDatabase.ReadsIn.pairHistory (hreads : s.ReadsIn contracts t) (hlog : JournalAccepted contracts t.receipts)
    (h : pairHistory contracts scheduler s campaignId sampleId evaluationReceiptSha256 attemptId = .ok history) :
    KairosPersistence.pairHistory contracts scheduler t campaignId sampleId evaluationReceiptSha256 attemptId =
      .ok history := by
  obtain ⟨context, hcontext, h⟩ := bind_ok h
  obtain ⟨_, hplan, h⟩ := bind_ok h
  obtain ⟨claim, hclaim, h⟩ := bind_ok h
  obtain ⟨bundle, hbundle, h⟩ := bind_ok h
  obtain ⟨⟨descriptor, sources, market⟩, hread, h⟩ := bind_ok h
  obtain ⟨evaluation, hevaluation, h⟩ := bind_ok h
  rw [KairosPersistence.pairHistory, hreads.context _ _ _ hcontext, ok_bind, hplan, ok_bind, hreads.loadClaim hclaim,
    ok_bind, hreads.loadBundle hbundle, ok_bind, hreads.causalContext hread, ok_bind]
  dsimp only
  rw [hreads.loadEvaluation hevaluation, ok_bind]
  cases evaluation with
  | core receipt => cases h
  | causal evaluation =>
    obtain ⟨_, hsame, h⟩ := bind_ok h
    obtain ⟨stored, hstored, h⟩ := bind_ok h
    obtain ⟨⟨evaluationRow, slotted⟩, hslotted, h⟩ := bind_ok h
    rw [found_ok hslotted] at hstored
    obtain ⟨_, hslot, h⟩ := bind_ok h
    obtain ⟨_, hone, h⟩ := bind_ok h
    obtain ⟨startRow, hstartRow, h⟩ := bind_ok h
    obtain ⟨start, hstart, h⟩ := bind_ok h
    obtain ⟨terminalRow, hterminalRow, h⟩ := bind_ok h
    obtain ⟨hmem, hstartOf⟩ := startOf?_mem (found_ok hstartRow)
    have hmem' := hreads.journal.subset hmem
    dsimp only
    rw [hsame, ok_bind, hreads.storedEvaluation hstored, ok_bind, found_some, ok_bind]
    dsimp only
    rw [hslot, ok_bind, rowsOf_start hlog hmem' hstartOf, require_pos (by rfl), ok_bind, startOf?_eq_some hlog hmem' hstartOf,
      found_some, ok_bind, hstart, ok_bind, hreads.row _ _ (found_ok hterminalRow), found_some, ok_bind]
    exact h

/-- The rows that a history is made of. -/
structure PairHistory.Stored (contracts : CampaignContracts) (s : CampaignDatabase) (campaignId sampleId attemptId : String)
    (history : PairHistory) : Prop where
  context : ∃ scheduler, campaignContext contracts scheduler s campaignId = .ok history.context
  window : history.context.schedule.window? sampleId = some history.window
  evaluation : history.evaluationRow ∈ s.receipts ∧
    history.evaluationRow.slot = ⟨campaignId, sampleId, none, .evaluation, "one"⟩ ∧
    history.evaluationRow.receipt = .causalEvaluation history.evaluation
  start : ∃ row ∈ s.receipts, row.IsStartOf campaignId sampleId .llmProposalResearch ∧
    row.receipt = .start history.start ∧ history.start.attemptId = attemptId
  terminal : history.terminalRow ∈ s.receipts ∧
    history.terminalRow.slot = ⟨campaignId, sampleId, some .llmProposalResearch, .terminal, attemptId⟩ ∧
    history.terminalRow.receipt = .terminal history.terminal
  completion : history.terminal.completion = some history.completion

theorem PairHistory.Stored.mono (h : history.Stored contracts s campaignId sampleId attemptId)
    (hreads : s.ReadsIn contracts t) : history.Stored contracts t campaignId sampleId attemptId where
  context := by
    obtain ⟨scheduler, hcontext⟩ := h.context
    exact ⟨scheduler, hreads.context _ _ _ hcontext⟩
  window := h.window
  evaluation := ⟨hreads.journal.subset h.evaluation.1, h.evaluation.2⟩
  start := by
    obtain ⟨row, hrow, hstart⟩ := h.start
    exact ⟨row, hreads.journal.subset hrow, hstart⟩
  terminal := ⟨hreads.journal.subset h.terminal.1, h.terminal.2⟩
  completion := h.completion

theorem decodeStart_ok {row : ReceiptRow} {start : AttemptStart} (h : decodeStart row = .ok start) :
    row.receipt = .start start := by
  unfold decodeStart at h
  split at h
  · rename_i heq
    rw [heq, Except.ok.inj h]
  · cases h

theorem decodeTerminal_ok {row : ReceiptRow} {terminal : AttemptTerminal} (h : decodeTerminal row = .ok terminal) :
    row.receipt = .terminal terminal := by
  unfold decodeTerminal at h
  split at h
  · rename_i heq
    rw [heq, Except.ok.inj h]
  · cases h

theorem decodePair_ok {row : ReceiptRow} (h : decodePair row = .ok pair) : row.receipt = .causalPair pair := by
  unfold decodePair at h
  split at h
  · rename_i heq
    rw [heq, Except.ok.inj h]
  · cases h

theorem decodeEvaluation_causal {row : ReceiptRow} {evaluation : CausalEvaluation}
    (h : decodeEvaluation row = .ok (.causal evaluation)) : row.receipt = .causalEvaluation evaluation := by
  unfold decodeEvaluation at h
  split at h
  · cases h
  · rename_i heq
    cases h
    exact heq
  · cases h

theorem storedEvaluation_ok {row : ReceiptRow} {evaluation : CampaignEvaluation}
    (h : storedEvaluation s campaignId sampleId = .ok (some (row, evaluation))) :
    s.row? ⟨campaignId, sampleId, none, .evaluation, "one"⟩ = some row ∧ decodeEvaluation row = .ok evaluation := by
  unfold storedEvaluation at h
  split at h
  · cases h
  · rename_i stored hrow
    obtain ⟨decoded, hdecode, h⟩ := bind_ok h
    obtain ⟨rfl, rfl⟩ := Prod.mk.inj (Option.some.inj (Except.ok.inj h))
    exact ⟨hrow, hdecode⟩

theorem pairHistory_stored
    (h : pairHistory contracts scheduler s campaignId sampleId evaluationReceiptSha256 attemptId = .ok history) :
    history.Stored contracts s campaignId sampleId attemptId := by
  obtain ⟨context, hcontext, h⟩ := bind_ok h
  obtain ⟨_, -, h⟩ := bind_ok h
  obtain ⟨claim, -, h⟩ := bind_ok h
  obtain ⟨bundle, -, h⟩ := bind_ok h
  obtain ⟨⟨descriptor, sources, market⟩, -, h⟩ := bind_ok h
  obtain ⟨evaluation, -, h⟩ := bind_ok h
  cases evaluation with
  | core receipt => cases h
  | causal evaluation =>
    obtain ⟨_, -, h⟩ := bind_ok h
    obtain ⟨stored, hstored, h⟩ := bind_ok h
    obtain ⟨⟨evaluationRow, slotted⟩, hslotted, h⟩ := bind_ok h
    rw [found_ok hslotted] at hstored
    obtain ⟨_, hslot, h⟩ := bind_ok h
    obtain ⟨_, -, h⟩ := bind_ok h
    obtain ⟨startRow, hstartRow, h⟩ := bind_ok h
    obtain ⟨start, hstart, h⟩ := bind_ok h
    obtain ⟨terminalRow, hterminalRow, h⟩ := bind_ok h
    obtain ⟨terminal, hterminal, h⟩ := bind_ok h
    obtain ⟨window, hwindow, h⟩ := bind_ok h
    obtain ⟨arm, -, h⟩ := bind_ok h
    obtain ⟨_, hlinked, h⟩ := bind_ok h
    obtain ⟨proposal, -, h⟩ := bind_ok h
    obtain ⟨completion, hcompletion, h⟩ := bind_ok h
    obtain ⟨_, -, h⟩ := bind_ok h
    obtain ⟨_, -, h⟩ := bind_ok h
    obtain ⟨_, -, h⟩ := bind_ok h
    obtain ⟨_, -, h⟩ := bind_ok h
    obtain ⟨_, -, h⟩ := bind_ok h
    rw [← Except.ok.inj h]
    obtain ⟨hevaluationRow, hdecode⟩ := storedEvaluation_ok hstored
    rw [require_ok hslot] at hdecode
    obtain ⟨hmem, hstartOf⟩ := startOf?_mem (found_ok hstartRow)
    exact
      { context := ⟨scheduler, hcontext⟩
        window := found_ok hwindow
        evaluation := ⟨(row?_mem hevaluationRow).1, (row?_mem hevaluationRow).2, decodeEvaluation_causal hdecode⟩
        start := ⟨startRow, hmem, hstartOf, decodeStart_ok hstart, (Prod.mk.inj (require_ok hlinked).1).1⟩
        terminal := ⟨(row?_mem (found_ok hterminalRow)).1, (row?_mem (found_ok hterminalRow)).2,
          decodeTerminal_ok hterminal⟩
        completion := found_ok hcompletion }

end History

section Pairs

/-- A stored pair, rebuilt from its history; the times of the database are in the rounding of its family. -/
structure CausalPair.Follows (contracts : CampaignContracts) (pair : CausalPair) (recordedAt : ℕ) (history : PairHistory) :
    Prop where
  rebuilt : pair = history.pair contracts pair.campaignId pair.sampleId pair.attemptId pair.pairedAtTsMs
  marketAsOf : history.window.marketAsOfTsMs ≤ history.start.attemptStartedAtTsMs
  responseObserved : history.start.attemptStartedAtTsMs ≤ history.completion.responseObservedAtTsMs
  paired : history.completion.responseObservedAtTsMs ≤ pair.pairedAtTsMs
  terminalRecorded : ceilMs history.terminalRow.recordedAt ≤ pair.pairedAtTsMs
  evaluationRecorded : ceilMs history.evaluationRow.recordedAt ≤ pair.pairedAtTsMs
  recorded : pair.pairedAtTsMs ≤ ceilMs recordedAt
  cutoff : ceilMs recordedAt ≤ history.window.pairedAtTsMs

/-- What a call has read and left. -/
structure PairRecorded (contracts : CampaignContracts) (campaignId sampleId attemptId : String) (history : PairHistory)
    (pair : CausalPair) (row : ReceiptRow) (t : CampaignDatabase) : Prop where
  timely : history.Timely pair.pairedAtTsMs
  rebuilt : pair = history.pair contracts campaignId sampleId attemptId pair.pairedAtTsMs
  valid : pair.verify = .ok ()
  stored : t.row? ⟨campaignId, sampleId, some .llmProposalResearch, .sample, "one"⟩ = some row
  receipt : row.receipt = .causalPair pair
  recorded : pair.pairedAtTsMs ≤ ceilMs row.recordedAt
  cutoff : ceilMs row.recordedAt ≤ history.window.pairedAtTsMs

theorem recordCausalPair_cases {arm : ResearchArm}
    (h : recordCausalPair contracts scheduler campaignId sampleId arm evaluationReceiptSha256 attemptId clock recorded s =
      .ok (t, pair)) :
    arm = .llmProposalResearch ∧ ∃ history row,
      pairHistory contracts scheduler s campaignId sampleId evaluationReceiptSha256 attemptId = .ok history ∧
      PairRecorded contracts campaignId sampleId attemptId history pair row t ∧
      (t = s ∨ t.receipts = row :: s.receipts) := by
  obtain ⟨_, harm, h⟩ := bind_ok h
  obtain ⟨history, hhistory, h⟩ := bind_ok h
  refine ⟨require_ok harm, history, ?_⟩
  split at h
  · rename_i old hold
    obtain ⟨saved, hsaved, h⟩ := bind_ok h
    obtain ⟨_, hclock, h⟩ := bind_ok h
    obtain ⟨_, htimely, h⟩ := bind_ok h
    obtain ⟨_, hvalid, h⟩ := bind_ok h
    obtain ⟨_, hsame, h⟩ := bind_ok h
    obtain ⟨rfl, rfl⟩ := Prod.mk.inj (Except.ok.inj h)
    refine ⟨old, hhistory, ?_, Or.inl rfl⟩
    exact
      { timely := require_ok htimely
        rebuilt := require_ok hsame
        valid := by
          rw [← require_ok hsame] at hvalid
          exact hvalid
        stored := hold
        receipt := decodePair_ok hsaved
        recorded := (require_ok hclock).1
        cutoff := (require_ok hclock).2 }
  · rename_i hnone
    obtain ⟨_, htimely, h⟩ := bind_ok h
    obtain ⟨_, hvalid, h⟩ := bind_ok h
    obtain ⟨⟨u, stored⟩, hstore, h⟩ := bind_ok h
    obtain ⟨_, hclock, h⟩ := bind_ok h
    obtain ⟨rfl, rfl⟩ := Prod.mk.inj (Except.ok.inj h)
    obtain ⟨-, hstores⟩ := storeReceipt_new hnone hstore
    refine ⟨_, hhistory, ?_, Or.inr (congrArg CampaignDatabase.receipts hstores.rows)⟩
    exact
      { timely := require_ok htimely
        rebuilt := rfl
        valid := hvalid
        stored := by
          rw [hstores.rows, CampaignDatabase.row?, List.find?_cons_of_pos]
          exact decide_eq_true rfl
        receipt := rfl
        recorded := (require_ok hclock).1
        cutoff := (require_ok hclock).2 }

/-- What is recorded once is given again, at any clock. -/
theorem PairRecorded.again {row : ReceiptRow} (h : PairRecorded contracts campaignId sampleId attemptId history pair row s)
    (hhistory : pairHistory contracts scheduler t campaignId sampleId evaluationReceiptSha256 attemptId = .ok history)
    (hreads : s.ReadsIn contracts t) (clock recorded : ℕ) :
    recordCausalPair contracts scheduler campaignId sampleId .llmProposalResearch evaluationReceiptSha256 attemptId clock
      recorded t = .ok (t, pair) := by
  have hdecode : decodePair row = .ok pair := by rw [decodePair, h.receipt]
  have hvalid : (history.pair contracts campaignId sampleId attemptId pair.pairedAtTsMs).verify = .ok () := by
    rw [← h.rebuilt]
    exact h.valid
  rw [recordCausalPair, require_pos rfl, ok_bind, hhistory, ok_bind, hreads.row _ _ h.stored]
  dsimp only
  rw [hdecode, ok_bind, require_pos ⟨h.recorded, h.cutoff⟩, ok_bind, require_pos h.timely, ok_bind, hvalid, ok_bind,
    require_pos h.rebuilt, ok_bind]
  rfl

end Pairs

section Runs

variable {system next : CampaignSystem} {call : CampaignCall} {dispatch : Dispatch}

/-- Every pair of the journal follows a history whose rows are there. -/
def PairsFollow (contracts : CampaignContracts) (s : CampaignDatabase) : Prop :=
  ∀ row ∈ s.receipts, ∀ pair, row.receipt = .causalPair pair → ∃ history : PairHistory,
    history.Stored contracts s pair.campaignId pair.sampleId pair.attemptId ∧ pair.Follows contracts row.recordedAt history

theorem PairRecorded.follows {row : ReceiptRow}
    (h : PairRecorded contracts campaignId sampleId attemptId history pair row s) :
    pair.Follows contracts row.recordedAt history := by
  obtain ⟨hmarket, hresponse, hpaired, -, -, hterminal, -, hevaluation, -⟩ := h.timely
  have hrebuilt := h.rebuilt
  exact
    { rebuilt := by
        rw [hrebuilt]
        rfl
      marketAsOf := hmarket
      responseObserved := hresponse
      paired := hpaired
      terminalRecorded := hterminal
      evaluationRecorded := hevaluation
      recorded := h.recorded
      cutoff := h.cutoff }

/-- A transaction that has written a row has returned. -/
theorem run_wrote {ε α : Type} {body : CampaignDatabase → Except ε (CampaignDatabase × α)} {row : ReceiptRow}
    (h : (Transactions.run body s).1.receipts = row :: s.receipts) : ∃ a, body s = .ok ((Transactions.run body s).1, a) := by
  rcases Transactions.run_cases body s with heq | hbody
  · rw [heq] at h
    exact absurd h.symm (List.cons_ne_self _ _)
  · exact hbody

/-- A pair is written by `record_causal_pair` only. -/
theorem CampaignCall.pair_written (hlog : JournalAccepted contracts system.db.receipts) {row : ReceiptRow}
    (hrow : row ∈ (call.rows contracts dispatch system).receipts) (hreceipt : row.receipt = .causalPair pair) :
    row ∈ system.db.receipts ∨ ∃ campaignId sampleId arm evaluationReceiptSha256 attemptId pair',
      KairosPersistence.recordCausalPair contracts dispatch.scheduler campaignId sampleId arm evaluationReceiptSha256
        attemptId dispatch.clock dispatch.recorded system.db = .ok (call.rows contracts dispatch system, pair') := by
  rcases (call.leaves hlog dispatch).receipts with heq | ⟨new, hwrites, -, heq⟩
  · left
    rw [← heq]
    exact hrow
  · rw [heq] at hrow
    rcases List.mem_cons.mp hrow with rfl | hrow
    · right
      have hkind : row.receipt.kind = .sample := by rw [hreceipt, CampaignReceipt.kind]
      cases call with
      | recordCausalPair campaignId sampleId arm evaluationReceiptSha256 attemptId =>
        obtain ⟨pair', hpair⟩ := run_wrote heq
        exact ⟨_, _, _, _, _, pair', hpair⟩
      | recordVerifiedSample sample =>
        obtain ⟨stored, hsample⟩ := run_wrote heq
        rcases recordVerifiedSample_ok hsample with ⟨-, hsame⟩ | ⟨-, arm, -, hstores⟩
        · rw [CampaignCall.rows, hsame] at heq
          exact absurd heq.symm (List.cons_ne_self _ _)
        · have hrows := congrArg CampaignDatabase.receipts hstores.rows
          rw [CampaignCall.rows] at heq
          rw [heq] at hrows
          rw [(List.cons.inj hrows).1] at hreceipt
          cases hreceipt
      | _ => simp_all [CampaignCall.Writes, CampaignReceipt.kind]
    · exact Or.inl hrow

theorem PairsFollow.step (h : PairsFollow contracts system.db) (hfenced : Fenced contracts system)
    (hstep : CampaignStep contracts system next) : PairsFollow contracts next.db := by
  obtain ⟨call, dispatch, rfl⟩ := hstep
  have hreads := hfenced.readsIn_rows call dispatch
  intro row hrow pair hreceipt
  have hcommitted : (call.rows contracts dispatch system).ReadsIn contracts _ := CampaignDatabase.readsIn_committed _
  rcases call.pair_written hfenced.journal hrow hreceipt with hold | ⟨campaignId, sampleId, arm, _, attemptId, pair', hpair⟩
  · obtain ⟨history, hstored, hfollows⟩ := h row hold pair hreceipt
    exact ⟨history, hstored.mono (hreads.trans hcommitted), hfollows⟩
  · by_cases hold : row ∈ system.db.receipts
    · obtain ⟨history, hstored, hfollows⟩ := h row hold pair hreceipt
      exact ⟨history, hstored.mono (hreads.trans hcommitted), hfollows⟩
    · obtain ⟨rfl, history, new, hhistory, hrecorded, hrows⟩ := recordCausalPair_cases hpair
      have hnew : row = new := by
        rcases hrows with hsame | hcons
        · have hmem : row ∈ (call.rows contracts dispatch system).receipts := hrow
          rw [hsame] at hmem
          exact absurd hmem hold
        · have hmem : row ∈ (call.rows contracts dispatch system).receipts := hrow
          rw [hcons] at hmem
          exact (List.mem_cons.mp hmem).resolve_right hold
      subst hnew
      obtain rfl : pair' = pair := CampaignReceipt.causalPair.inj (hrecorded.receipt.symm.trans hreceipt)
      have hstored := (pairHistory_stored hhistory).mono (hreads.trans hcommitted)
      have hids : pair'.campaignId = campaignId ∧ pair'.sampleId = sampleId ∧ pair'.attemptId = attemptId := by
        rw [hrecorded.rebuilt]
        exact ⟨rfl, rfl, rfl⟩
      refine ⟨history, ?_, hrecorded.follows⟩
      rw [hids.1, hids.2.1, hids.2.2]
      exact hstored

theorem pairsFollow_of_reachable (h : CampaignReachable contracts system) : PairsFollow contracts system.db := by
  apply (@Runs.Reachable.invariant _ _ (fun s => Fenced contracts s ∧ PairsFollow contracts s.db) _ _ h _ _).2
  · rintro _ rfl
    constructor
    · exact .start
    · intro row hrow
      cases hrow
  · rintro s t ⟨hfenced, hfollow⟩ hstep
    constructor
    · exact hfenced.step hstep
    · exact hfollow.step hfenced hstep

/-- A recorded pair is given again by every later call, whatever its clock and whatever was written since, and every
stored pair follows its history in time. -/
theorem causal_pairs (h : CampaignReachable contracts system) :
    (∀ (dispatch : Dispatch) (campaignId sampleId : String) (arm : ResearchArm) (evaluationReceiptSha256 attemptId : String)
      (db : CampaignDatabase) (pair : CausalPair),
      recordCausalPair contracts dispatch.scheduler campaignId sampleId arm evaluationReceiptSha256 attemptId dispatch.clock
        dispatch.recorded system.db = .ok (db, pair) →
      ∀ later, ReflTransGen (CampaignStep contracts) (CampaignCall.run contracts
          (.recordCausalPair campaignId sampleId arm evaluationReceiptSha256 attemptId) dispatch system) later →
        ∀ clock recorded, recordCausalPair contracts dispatch.scheduler campaignId sampleId arm evaluationReceiptSha256
          attemptId clock recorded later.db = .ok (later.db, pair)) ∧
    PairsFollow contracts system.db := by
  refine ⟨?_, pairsFollow_of_reachable h⟩
  intro dispatch campaignId sampleId arm evaluationReceiptSha256 attemptId db pair hrecord later hrun clock recorded
  have hfenced := fenced_of_reachable h
  set call : CampaignCall := .recordCausalPair campaignId sampleId arm evaluationReceiptSha256 attemptId with hcall
  have hnext : Fenced contracts (call.run contracts dispatch system) := hfenced.step ⟨call, dispatch, rfl⟩
  have hrows : call.rows contracts dispatch system = db := by
    rw [hcall, CampaignCall.rows, Transactions.run_ok hrecord]
  have hbefore := hfenced.readsIn_rows call dispatch
  have hafter : (call.rows contracts dispatch system).ReadsIn contracts later.db :=
    (CampaignDatabase.readsIn_committed _).trans (hnext.readsIn hrun)
  rw [hrows] at hbefore hafter
  obtain ⟨rfl, history, row, hhistory, hrecorded, -⟩ := recordCausalPair_cases hrecord
  apply hrecorded.again _ hafter
  exact (hbefore.trans hafter).pairHistory (hnext.extends hrun).1.journal hhistory

end Runs

section Example

/-- The contracts of the example, with the messages of its producers. -/
def exampleCausalContracts : CampaignContracts :=
  { exampleCampaignContracts with
    decodeNews := fun _ => some ⟨"news-1", 900⟩
    decodeMacroeconomic := fun _ => some ⟨"macro-1", 900⟩
    marketContext := fun _ => some
      { symbol := "BTCUSDT"
        timeframe := "1m"
        anchorBarSha256 := exampleSha 'a'
        anchorBarCloseTsMs := 880
        snapshotMessageId := "market-1"
        producedAtTsMs := 900
        barWindowSha256 := exampleSha 'b'
        barCount := 2 } }

/-- A process with the scheduler of the plan, at a millisecond. -/
def scheduledAtMs (ms : ℕ) : Dispatch := ⟨some "scheduler-1", ms * 1000, ms * 1000⟩

def exampleBaseline : CausalBaselineResult where
  contextSourceReceiptSha256 := "market-1"
  barWindowSha256 := exampleSha 'b'
  barCount := 2
  intent := none

def exampleProposalAttempt : AttemptStart := exampleAttempt .llmProposalResearch "attempt-1"

def exampleTradeProposal : TradeProposal where
  proposalId := "proposal-1"
  campaignId := "campaign-1"
  armId := .llmProposalResearch
  sampleId := "window-1"
  symbol := "BTCUSDT"
  timeframe := "1m"
  marketAsOfTsMs := 1000
  marketSnapshotSha256 := exampleSha '6'
  modelProvenance := { exampleProposalAttempt.toModelRoute with resolvedModel := "model-1" }
  evidence := []
  action := .noProposal
  expiresAtTsMs := none
  body := ""

def exampleProposalTerminal : AttemptTerminal where
  attemptId := "attempt-1"
  startReceiptSha256 := "start:llm-proposal-research"
  terminalStatus := .completed
  observedAtTsMs := 1500
  proposal := some exampleTradeProposal
  completion := some
    { exampleProposalAttempt.toCallScope with
      completionReceiptId := "completion-1"
      attemptId := "attempt-1"
      proposalId := "proposal-1"
      modelProvenance := exampleTradeProposal.modelProvenance
      responseObservedAtTsMs := 1500 }
  failure := none

/-- A window of the causal family up to the terminal of its proposal. -/
def exampleProposedCalls : List (CampaignCall × Dispatch) :=
  exampleFrozenCalls ++ [(.recordCausalEvaluation exampleClaim exampleBundle exampleBaseline, scheduledAtMs 1100),
    (.startAttempt exampleProposalAttempt true, scheduledAtMs 1200), (.findAttempt "attempt-1" 0, scheduledAtMs 1500),
    (.finishAttempt exampleProposalTerminal (exampleProposalAttempt, none), scheduledAtMs 1500)]

def exampleProposed : CampaignSystem := runCampaignCalls exampleCausalContracts exampleProposedCalls .empty

def exampleProposedPair : CausalPair where
  campaignId := "campaign-1"
  sampleId := "window-1"
  armId := .llmProposalResearch
  scheduleDigest := exampleSha '1'
  candidateProtocolDigest := exampleSha '5'
  armProtocolDigest := exampleSha 'c'
  bundleReceiptSha256 := "bundle"
  evaluationReceiptSha256 := "evaluation"
  sourceReceiptSha256s := ["macro-1", "market-1", "news-1"]
  marketSnapshotSha256 := exampleSha '6'
  anchorBarSha256 := exampleSha 'a'
  barWindowSha256 := exampleSha 'b'
  barCount := 2
  marketAsOfTsMs := 1000
  pairedAtTsMs := 1600
  attemptId := "attempt-1"
  startReceiptSha256 := "start:llm-proposal-research"
  terminalReceiptSha256 := "terminal:attempt-1"
  completionReceiptId := "completion-1"
  proposalId := "proposal-1"
  strategyOutcome := .noIntent
  strategyIntentId := none
  llmOutcome := .noProposal

theorem exampleProposedPair_recorded : (Transactions.run (recordCausalPair exampleCausalContracts (some "scheduler-1")
    "campaign-1" "window-1" .llmProposalResearch "evaluation" "attempt-1" 1600000 1600000) exampleProposed.db).2 =
      .ok exampleProposedPair := by
  decide +kernel

/-- The pair is recorded, and given again at every clock. -/
theorem causal_pairs_example : ∃ later, CampaignReachable exampleCausalContracts later ∧
    ∀ clock recorded, recordCausalPair exampleCausalContracts (some "scheduler-1") "campaign-1" "window-1"
      .llmProposalResearch "evaluation" "attempt-1" clock recorded later.db = .ok (later.db, exampleProposedPair) := by
  have hreachable : CampaignReachable exampleCausalContracts exampleProposed := runCampaignCalls_reachable _ _
  have hrecorded := Transactions.eq_ok_of_run exampleProposedPair_recorded
  refine ⟨_, hreachable.next ⟨.recordCausalPair "campaign-1" "window-1" .llmProposalResearch "evaluation" "attempt-1",
    scheduledAtMs 1600, rfl⟩, ?_⟩
  exact (causal_pairs hreachable).1 (scheduledAtMs 1600) _ _ _ _ _ _ _ hrecorded _ .refl

end Example

end KairosPersistence
