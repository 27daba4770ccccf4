import KairosPersistence.AttemptIdentities
import KairosPersistence.CausalPairs

/-!
The completion of an attempt: its terminal or its review, of which a START has
one at most. The START is looked up before the transaction that completes it.
-/

namespace KairosPersistence

open Relation
open Transactions (bind_ok require require_ok require_pos found_ok ok_bind)

variable {contracts : CampaignContracts} {s t : CampaignDatabase} {scheduler : Option String} {clock recorded : ℕ}
  {start : AttemptStart} {row done : ReceiptRow} {rows older : List ReceiptRow}

section Definitions

/-- The slot of a receipt of an attempt. -/
def AttemptStart.slotAt (start : AttemptStart) (kind : ReceiptKind) : Slot :=
  ⟨start.campaignId, start.sampleId, some start.armId, kind, start.attemptId⟩

/-- The START that a completion names. -/
def CampaignReceipt.startReceiptSha256? : CampaignReceipt → Option String
  | .terminal receipt => some receipt.startReceiptSha256
  | .review receipt => some receipt.startReceiptSha256
  | _ => none

def CampaignReceipt.IsCompletion (receipt : CampaignReceipt) : Prop := receipt.kind = .terminal ∨ receipt.kind = .review

instance (receipt : CampaignReceipt) : Decidable receipt.IsCompletion := inferInstanceAs (Decidable (_ ∨ _))

/-- A row is a completion of the START of another one: it names it, or it has its place in the journal. -/
def ReceiptRow.Completes (done row : ReceiptRow) : Prop :=
  done.receipt.IsCompletion ∧ (done.receipt.startReceiptSha256? = some row.receiptSha256 ∨
    (done.campaignId, done.sampleId, done.arm, done.slotKey) = (row.campaignId, row.sampleId, row.arm, row.slotKey))

instance (done row : ReceiptRow) : Decidable (done.Completes row) := inferInstanceAs (Decidable (_ ∧ _))

def completionsOf (rows : List ReceiptRow) (row : ReceiptRow) : List ReceiptRow := rows.filter (·.Completes row)

/-- What a completion was compared with before its transaction. -/
def CampaignReceipt.Checked (contracts : CampaignContracts) (start : AttemptStart) : CampaignReceipt → Prop
  | .terminal receipt => checkFinish contracts receipt start = .ok ()
  | .review receipt => checkReview contracts receipt (start, none) = .ok ()
  | _ => False

/-- The older rows have the START that a row completes, and no completion of it. -/
structure ReceiptRow.Ends (contracts : CampaignContracts) (older : List ReceiptRow) (start : AttemptStart)
    (row : ReceiptRow) : Prop where
  admitted : ∃ other ∈ older, other.receipt = .start start
  slot : row.slot = start.slotAt row.receipt.kind
  checked : row.receipt.Checked contracts start
  alone : ∀ other ∈ older, other.slot ≠ start.slotAt .terminal ∧ other.slot ≠ start.slotAt .review

def ReceiptRow.Founded (contracts : CampaignContracts) (older : List ReceiptRow) (row : ReceiptRow) : Prop :=
  row.receipt.IsCompletion → ∃ start, row.Ends contracts older start

/-- What a lookup has given is stored. -/
structure Found (rows : List ReceiptRow) (attemptId : String) (answer : AttemptStart × Option AttemptTerminal) : Prop where
  start : ∃ row ∈ rows, row.receipt = .start answer.1
  named : answer.1.attemptId = attemptId
  terminal : ∀ terminal ∈ answer.2, ∃ row ∈ rows, row.slot = answer.1.slotAt .terminal

/-- What the attempt of a START was admitted with. -/
structure AttemptStart.Based (contracts : CampaignContracts) (s : CampaignDatabase) (start : AttemptStart) : Prop where
  context : ∃ scheduler context, campaignContext contracts scheduler s start.campaignId = .ok context ∧
    ∃ window, campaignWindow context.schedule start.sampleId = .ok window
  claim : ∃ claim, loadClaim s start.campaignId start.sampleId = .ok claim
  bundle : ∃ bundle, loadBundle s start.campaignId start.sampleId = .ok bundle

/-- What every run keeps of the attempts and of their completions. -/
structure Attempted (contracts : CampaignContracts) (s : CampaignSystem) : Prop where
  based : ∀ row ∈ s.db.receipts, ∀ start, row.receipt = .start start → start.Based contracts s.db
  founded : AcceptedLogs.Accepted (ReceiptRow.Founded contracts) s.db.receipts
  found : ∀ find ∈ s.finds, Found s.db.receipts find.1 find.2

end Definitions

section Operations

theorem decodeReview_ok {receipt : ReviewReceipt} (h : decodeReview row = .ok receipt) : row.receipt = .review receipt := by
  unfold decodeReview at h
  split at h
  · rename_i heq
    rw [heq, Except.ok.inj h]
  · cases h

/-- A review completes a review attempt whose lookup has given no terminal. -/
theorem checkReview_ok {receipt : ReviewReceipt} {answer : AttemptStart × Option AttemptTerminal}
    (h : checkReview contracts receipt answer = .ok ()) : answer.1.armId = .strategyReview ∧ answer = (answer.1, none) := by
  obtain ⟨_, -, h⟩ := bind_ok h
  obtain ⟨_, harm, h⟩ := bind_ok h
  have hanswer := (require_ok h).1
  exact ⟨require_ok harm, Prod.ext rfl hanswer⟩

/-- A terminal is the stored one, or it completes an attempt that has no completion. -/
theorem finishAttempt_cases {terminal : AttemptTerminal} {finished : Bool} (hid : start.attemptId = terminal.attemptId)
    (h : finishAttempt contracts scheduler terminal start clock recorded s = .ok (t, finished)) :
    checkFinish contracts terminal start = .ok () ∧
    (∃ context, campaignContext contracts scheduler s start.campaignId = .ok context ∧
      ∃ causal, guardCausalEvaluation scheduler s context.planRow.plan start.campaignId start.sampleId = .ok causal) ∧
    s.row? (start.slotAt .review) = none ∧
    (finished = false ∧ t = s ∧ (∃ row, s.row? (start.slotAt .terminal) = some row ∧ row.receipt = .terminal terminal) ∨
      finished = true ∧ s.row? (start.slotAt .terminal) = none ∧
        Stores s (receiptRow contracts start.campaignId start.sampleId (some start.armId) terminal.attemptId
          (.terminal terminal) recorded) t) := by
  obtain ⟨_, hcheck, h⟩ := bind_ok h
  obtain ⟨context, hcontext, h⟩ := bind_ok h
  obtain ⟨causal, hcausal, h⟩ := bind_ok h
  obtain ⟨_, hreview, h⟩ := bind_ok h
  refine ⟨hcheck, ⟨context, hcontext, causal, hcausal⟩, require_ok hreview, ?_⟩
  split at h
  · rename_i row hrow
    obtain ⟨saved, hdecode, h⟩ := bind_ok h
    obtain ⟨_, hsame, h⟩ := bind_ok h
    obtain ⟨rfl, rfl⟩ := Prod.mk.inj (Except.ok.inj h)
    refine Or.inl ⟨rfl, rfl, row, hrow, ?_⟩
    rw [← require_ok hsame]
    exact decodeTerminal_ok hdecode
  · rename_i hnone
    obtain ⟨_, -, h⟩ := bind_ok h
    obtain ⟨_, -, h⟩ := bind_ok h
    obtain ⟨_, -, h⟩ := bind_ok h
    obtain ⟨_, -, h⟩ := bind_ok h
    obtain ⟨_, -, h⟩ := bind_ok h
    have hslot : s.row? (receiptRow contracts start.campaignId start.sampleId (some start.armId) terminal.attemptId
        (.terminal terminal) recorded).slot = none := by
      rw [← hid]
      exact hnone
    obtain ⟨rfl, hstores⟩ := storeReceipt_new hslot h
    exact Or.inr ⟨rfl, hnone, hstores⟩

/-- The slot that a review is stored in. -/
def ReviewReceipt.slotAt (receipt : ReviewReceipt) (kind : ReceiptKind) : Slot :=
  ⟨receipt.campaignId, receipt.sampleId, some .strategyReview, kind, receipt.attemptId⟩

/-- A review is the stored one, or it completes an attempt that has no completion. -/
theorem recordReview_cases {receipt : ReviewReceipt} {answer : AttemptStart × Option AttemptTerminal} {finished : Bool}
    (h : recordReview contracts scheduler receipt answer clock recorded s = .ok (t, finished)) :
    checkReview contracts receipt answer = .ok () ∧
    (∃ context, campaignContext contracts scheduler s receipt.campaignId = .ok context ∧
      ∃ causal, guardCausalEvaluation scheduler s context.planRow.plan receipt.campaignId receipt.sampleId = .ok causal) ∧
    s.row? (receipt.slotAt .terminal) = none ∧
    (finished = false ∧ t = s ∧ (∃ row, s.row? (receipt.slotAt .review) = some row ∧ row.receipt = .review receipt) ∨
      finished = true ∧ s.row? (receipt.slotAt .review) = none ∧
        (answer.1.campaignId = receipt.campaignId ∧ answer.1.sampleId = receipt.sampleId) ∧
        Stores s (receiptRow contracts receipt.campaignId receipt.sampleId (some .strategyReview) receipt.attemptId
          (.review receipt) recorded) t) := by
  obtain ⟨_, hcheck, h⟩ := bind_ok h
  obtain ⟨context, hcontext, h⟩ := bind_ok h
  obtain ⟨causal, hcausal, h⟩ := bind_ok h
  obtain ⟨_, hterminal, h⟩ := bind_ok h
  refine ⟨hcheck, ⟨context, hcontext, causal, hcausal⟩, require_ok hterminal, ?_⟩
  split at h
  · rename_i row hrow
    obtain ⟨saved, hdecode, h⟩ := bind_ok h
    obtain ⟨_, hsame, h⟩ := bind_ok h
    obtain ⟨rfl, rfl⟩ := Prod.mk.inj (Except.ok.inj h)
    refine Or.inl ⟨rfl, rfl, row, hrow, ?_⟩
    rw [← require_ok hsame]
    exact decodeReview_ok hdecode
  · rename_i hnone
    obtain ⟨_, -, h⟩ := bind_ok h
    obtain ⟨_, -, h⟩ := bind_ok h
    obtain ⟨_, -, h⟩ := bind_ok h
    obtain ⟨_, -, h⟩ := bind_ok h
    obtain ⟨_, -, h⟩ := bind_ok h
    obtain ⟨_, hmatched, h⟩ := bind_ok h
    obtain ⟨_, -, h⟩ := bind_ok h
    obtain ⟨_, -, h⟩ := bind_ok h
    obtain ⟨_, -, h⟩ := bind_ok h
    obtain ⟨_, -, h⟩ := bind_ok h
    obtain ⟨rfl, hstores⟩ := storeReceipt_new hnone h
    exact Or.inr ⟨rfl, hnone, (require_ok hmatched).2.2.2.2, hstores⟩

end Operations

section Steps

theorem AttemptStart.Based.mono (h : start.Based contracts s) (hreads : s.ReadsIn contracts t) : start.Based contracts t := by
  obtain ⟨⟨scheduler, context, hcontext, hwindow⟩, ⟨claim, hclaim⟩, bundle, hbundle⟩ := h
  constructor
  · exact ⟨scheduler, context, hreads.context _ _ _ hcontext, hwindow⟩
  · exact ⟨claim, hreads.loadClaim hclaim⟩
  · exact ⟨bundle, hreads.loadBundle hbundle⟩

theorem startAttempt_based {admitted : Bool} (h : startAttempt contracts scheduler start clock s = .ok (t, admitted)) :
    start.Based contracts s := by
  obtain ⟨_, -, h⟩ := bind_ok h
  obtain ⟨context, hcontext, h⟩ := bind_ok h
  obtain ⟨_, -, h⟩ := bind_ok h
  obtain ⟨claim, hclaim, h⟩ := bind_ok h
  obtain ⟨bundle, hbundle, h⟩ := bind_ok h
  obtain ⟨window, hwindow, -⟩ := bind_ok h
  constructor
  · exact ⟨scheduler, context, hcontext, window, hwindow⟩
  · exact ⟨claim, hclaim⟩
  · exact ⟨bundle, hbundle⟩

theorem Found.mono {attemptId : String} {answer : AttemptStart × Option AttemptTerminal} (h : Found older attemptId answer)
    (hrows : older ⊆ rows) : Found rows attemptId answer := by
  obtain ⟨⟨row, hrow, hstart⟩, hnamed, hterminal⟩ := h
  constructor
  · exact ⟨row, hrows hrow, hstart⟩
  · exact hnamed
  · intro terminal hanswer
    obtain ⟨other, hother, hslot⟩ := hterminal terminal hanswer
    exact ⟨other, hrows hother, hslot⟩

theorem start_slot (hlog : JournalAccepted contracts s.receipts) (hrow : row ∈ s.receipts)
    (hstart : row.receipt = .start start) : row.slot = start.slotAt .start := by
  apply ownSlot_of_mem hlog hrow
  rw [hstart]
  rfl

/-- A lookup gives what is stored. -/
theorem findAttempt_found {attemptId : String} {answer : AttemptStart × Option AttemptTerminal}
    (hlog : JournalAccepted contracts s.receipts) (hrow : row ∈ s.startsNamed attemptId)
    (h : findAttempt s attemptId row = .ok answer) : Found s.receipts attemptId answer := by
  obtain ⟨hmem, hmatch⟩ := List.mem_filter.mp hrow
  have hkey : row.slotKey = attemptId := (of_decide_eq_true hmatch).2
  obtain ⟨start, hdecode, h⟩ := bind_ok h
  obtain ⟨terminal, hterminal, h⟩ := bind_ok h
  rw [← Except.ok.inj h]
  have hstart := decodeStart_ok hdecode
  have hslot := start_slot hlog hmem hstart
  have hnamed : start.attemptId = attemptId := by
    rw [← hkey]
    exact (congrArg Slot.slotKey hslot).symm
  constructor
  · exact ⟨row, hmem, hstart⟩
  · exact hnamed
  · rintro terminal' rfl
    cases hstored : s.row? ⟨start.campaignId, start.sampleId, some start.armId, .terminal, attemptId⟩ with
    | none =>
      rw [hstored] at hterminal
      cases hterminal
    | some other =>
      obtain ⟨hother, hslot'⟩ := row?_mem hstored
      exact ⟨other, hother, by rw [hslot', AttemptStart.slotAt, hnamed]⟩

variable {system next : CampaignSystem} {call : CampaignCall} {dispatch : Dispatch}

theorem Attempted.ends (h : Attempted contracts system) (hwrites : call.Writes row)
    (hrows : (call.rows contracts dispatch system).receipts = row :: system.db.receipts)
    (hcompletion : row.receipt.IsCompletion) : ∃ start, row.Ends contracts system.db.receipts start := by
  cases call with
  | finishAttempt terminal answer =>
    rw [CampaignCall.rows] at hrows
    split at hrows
    · rename_i hfind
      obtain ⟨hadmitted, hnamed, -⟩ := h.found _ hfind
      rcases Transactions.run_cases (finishAttempt contracts dispatch.scheduler terminal answer.1 dispatch.clock
        dispatch.recorded) system.db with hsame | ⟨finished, hbody⟩
      · rw [hsame] at hrows
        exact absurd hrows.symm (List.cons_ne_self _ _)
      · obtain ⟨hcheck, -, hreview, hcases⟩ := finishAttempt_cases hnamed hbody
        rcases hcases with ⟨-, hsame, -⟩ | ⟨-, hterminal, hstores⟩
        · rw [hsame] at hrows
          exact absurd hrows.symm (List.cons_ne_self _ _)
        · rw [hstores.rows] at hrows
          obtain ⟨rfl, -⟩ := List.cons.inj hrows
          refine ⟨answer.1, hadmitted, ?_, hcheck, ?_⟩
          · rw [AttemptStart.slotAt, hnamed]
            rfl
          · intro other hother
            exact ⟨row?_eq_none.mp hterminal other hother, row?_eq_none.mp hreview other hother⟩
    · exact absurd hrows.symm (List.cons_ne_self _ _)
  | recordReview receipt answer =>
    rw [CampaignCall.rows] at hrows
    split at hrows
    · rename_i hfind
      obtain ⟨hadmitted, hnamed, -⟩ := h.found _ hfind
      rcases Transactions.run_cases (recordReview contracts dispatch.scheduler receipt answer dispatch.clock
        dispatch.recorded) system.db with hsame | ⟨finished, hbody⟩
      · rw [hsame] at hrows
        exact absurd hrows.symm (List.cons_ne_self _ _)
      · obtain ⟨hcheck, -, hterminal, hcases⟩ := recordReview_cases hbody
        rcases hcases with ⟨-, hsame, -⟩ | ⟨-, hreview, hscope, hstores⟩
        · rw [hsame] at hrows
          exact absurd hrows.symm (List.cons_ne_self _ _)
        · rw [hstores.rows] at hrows
          obtain ⟨rfl, -⟩ := List.cons.inj hrows
          obtain ⟨harm, hanswer⟩ := checkReview_ok hcheck
          have hslot : ∀ kind, answer.1.slotAt kind = receipt.slotAt kind := by
            intro kind
            rw [AttemptStart.slotAt, ReviewReceipt.slotAt, hscope.1, hscope.2, harm, hnamed]
          refine ⟨answer.1, hadmitted, (hslot .review).symm, ?_, ?_⟩
          · rw [hanswer] at hcheck
            exact hcheck
          · intro other hother
            rw [hslot, hslot]
            exact ⟨row?_eq_none.mp hterminal other hother, row?_eq_none.mp hreview other hother⟩
    · exact absurd hrows.symm (List.cons_ne_self _ _)
  | _ => simp_all [CampaignCall.Writes, CampaignReceipt.IsCompletion, CampaignReceipt.kind]

theorem Attempted.empty : Attempted contracts .empty := by
  constructor
  · intro row hrow
    cases hrow
  · exact .nil
  · intro find hfind
    cases hfind

theorem Attempted.step (h : Attempted contracts system) (hfenced : Fenced contracts system)
    (hstep : CampaignStep contracts system next) : Attempted contracts next := by
  obtain ⟨call, dispatch, rfl⟩ := hstep
  have hreads : system.db.ReadsIn contracts (call.run contracts dispatch system).db :=
    (hfenced.readsIn_rows call dispatch).trans (CampaignDatabase.readsIn_committed _)
  have hsub := hreads.journal.subset
  have hleaves := call.leaves hfenced.journal dispatch
  constructor
  · intro row hrow start hstart
    rcases hleaves.receipts with hsame | ⟨new, hwrites, -, hrows⟩
    · have hrow : row ∈ (call.rows contracts dispatch system).receipts := hrow
      rw [hsame] at hrow
      exact (h.based row hrow start hstart).mono hreads
    · have hrow : row ∈ (call.rows contracts dispatch system).receipts := hrow
      rw [hrows] at hrow
      rcases List.mem_cons.mp hrow with rfl | hold
      · obtain ⟨attempt, delivered, rfl, hattempt⟩ := hwrites.start (by rw [hstart]; rfl)
        obtain rfl : attempt = start := CampaignReceipt.start.inj (hattempt.symm.trans hstart)
        rcases Transactions.run_cases (startAttempt contracts dispatch.scheduler attempt dispatch.clock) system.db with
          hsame | ⟨admitted, hbody⟩
        · rw [CampaignCall.rows, hsame] at hrows
          exact absurd hrows.symm (List.cons_ne_self _ _)
        · exact (startAttempt_based hbody).mono hreads
      · exact (h.based row hold start hstart).mono hreads
  · change AcceptedLogs.Accepted _ (call.rows contracts dispatch system).receipts
    rcases hleaves.receipts with hsame | ⟨row, hwrites, -, hrows⟩
    · rw [hsame]
      exact h.founded
    · rw [hrows]
      exact AcceptedLogs.accepted_cons.mpr ⟨h.ends hwrites hrows, h.founded⟩
  · intro find hfind
    rcases List.mem_append.mp hfind with hnew | hold
    · cases call with
      | findAttempt attemptId choice =>
        rw [CampaignCall.found] at hnew
        split at hnew
        · rename_i row hrow
          split at hnew
          · rename_i answer hanswer
            rw [List.mem_singleton.mp hnew]
            exact (findAttempt_found hfenced.journal (List.mem_of_getElem? hrow) hanswer).mono hsub
          · cases hnew
        · cases hnew
      | _ => cases hnew
    · exact (h.found find hold).mono hsub

theorem attempted_of_reachable (h : CampaignReachable contracts system) : Attempted contracts system := by
  apply (@Runs.Reachable.invariant _ _ (fun s => Fenced contracts s ∧ Attempted contracts s) _ _ h _ _).2
  · rintro _ rfl
    exact ⟨.start, .empty⟩
  · rintro s t ⟨hfenced, hattempted⟩ hstep
    exact ⟨hfenced.step hstep, hattempted.step hfenced hstep⟩

end Steps

section Completions

theorem slots_nodup (hlog : JournalAccepted contracts rows) : (rows.map (·.slot)).Nodup :=
  hlog.nodup_key fun _ _ haccepted => haccepted.fresh

theorem shas_nodup (hlog : JournalAccepted contracts rows) : (rows.map (·.receiptSha256)).Nodup :=
  hlog.nodup_key fun _ _ haccepted => haccepted.newSha

/-- What a completion was checked with names the START. -/
theorem CampaignReceipt.Checked.named {receipt : CampaignReceipt} (h : receipt.Checked contracts start) :
    receipt.IsCompletion ∧ receipt.startReceiptSha256? = some (contracts.startSha256 start) := by
  cases receipt with
  | terminal receipt =>
    obtain ⟨_, -, h⟩ := bind_ok h
    obtain ⟨_, hnamed, -⟩ := bind_ok h
    exact ⟨Or.inl rfl, congrArg some (require_ok hnamed).1⟩
  | review receipt =>
    obtain ⟨_, -, h⟩ := bind_ok h
    obtain ⟨_, -, h⟩ := bind_ok h
    exact ⟨Or.inr rfl, congrArg some (require_ok h).2⟩
  | _ => cases h

/-- A row in a slot of the attempt is a completion of its START. -/
theorem completes_of_slot {other : ReceiptRow} {kind : ReceiptKind} (hlog : JournalAccepted contracts s.receipts)
    (hrow : row ∈ s.receipts) (hstart : row.receipt = .start start) (hkind : kind = .terminal ∨ kind = .review)
    (hslot : other.slot = start.slotAt kind) : other.Completes row := by
  have hrow := start_slot hlog hrow hstart
  simp only [ReceiptRow.slot, AttemptStart.slotAt, Slot.mk.injEq] at hslot hrow
  obtain ⟨hcampaign, hsample, harm, hother, hkey⟩ := hslot
  constructor
  · rw [CampaignReceipt.IsCompletion, hother]
    exact hkind
  · right
    rw [hcampaign, hsample, harm, hkey, hrow.1, hrow.2.1, hrow.2.2.1, hrow.2.2.2.2]

variable {system : CampaignSystem} (hattempted : Attempted contracts system)
  (hlog : JournalAccepted contracts system.db.receipts) (hrow : row ∈ system.db.receipts)
  (hstart : row.receipt = .start start)
include hattempted hlog hrow hstart

/-- A completion of a START was recorded with it. -/
theorem ReceiptRow.Completes.ends (h : done.Completes row)
    (hsuffix : (done :: older) <:+ system.db.receipts) : done.Ends contracts older start := by
  obtain ⟨hcompletion, hplace⟩ := h
  obtain ⟨start', hends⟩ := hattempted.founded done older hsuffix hcompletion
  obtain ⟨other, hother, hstart'⟩ := hends.admitted
  have hmem : other ∈ system.db.receipts := hsuffix.subset (List.mem_cons_of_mem _ hother)
  have hsame : other = row := by
    rcases hplace with hlink | hplace
    · apply List.inj_on_of_nodup_map (shas_nodup hlog) hmem hrow
      rw [hends.checked.named.2] at hlink
      rw [← Option.some.inj hlink, sha_of_mem hlog hmem, hstart']
      rfl
    · apply List.inj_on_of_nodup_map (slots_nodup hlog) hmem hrow
      rw [start_slot hlog hmem hstart', start_slot hlog hrow hstart]
      have hslot := hends.slot
      have hslot' := start_slot hlog hrow hstart
      simp only [ReceiptRow.slot, AttemptStart.slotAt, Slot.mk.injEq] at hslot hslot' ⊢
      simp only [Prod.mk.injEq] at hplace
      obtain ⟨hcampaign, hsample, harm, hkey⟩ := hplace
      refine ⟨?_, ?_, ?_, trivial, ?_⟩
      · rw [← hslot.1, hcampaign, hslot'.1]
      · rw [← hslot.2.1, hsample, hslot'.2.1]
      · rw [← hslot.2.2.1, harm, hslot'.2.2.1]
      · rw [← hslot.2.2.2.2, hkey, hslot'.2.2.2.2]
  subst hsame
  obtain rfl : start' = start := CampaignReceipt.start.inj (hstart'.symm.trans hstart)
  exact hends

/-- The younger of two completions would have found the older one in the journal. -/
theorem completion_alone {other : ReceiptRow} (hcompletes : done.Completes row) (hcompletes' : other.Completes row)
    (hsuffix : (done :: older) <:+ system.db.receipts) : other ∉ older := by
  intro hmem
  have hother : other ∈ system.db.receipts := hsuffix.subset (List.mem_cons_of_mem _ hmem)
  obtain ⟨older', hsuffix'⟩ := AcceptedLogs.exists_older hother
  have hslot := (hcompletes'.ends hattempted hlog hrow hstart hsuffix').slot
  obtain ⟨hterminal, hreview⟩ := (hcompletes.ends hattempted hlog hrow hstart hsuffix).alone other hmem
  rcases hcompletes'.1 with hkind | hkind
  · apply hterminal
    rw [hslot, hkind]
  · apply hreview
    rw [hslot, hkind]

theorem completion_unique {other : ReceiptRow} (hdone : done ∈ system.db.receipts) (hcompletes : done.Completes row)
    (hother : other ∈ system.db.receipts) (hcompletes' : other.Completes row) : done = other := by
  rcases AcceptedLogs.older_cases hdone hother with heq | ⟨older, hsuffix, hmem⟩ | ⟨older, hsuffix, hmem⟩
  · exact heq
  · exact absurd hmem (completion_alone hattempted hlog hrow hstart hcompletes hcompletes' hsuffix)
  · exact absurd hmem (completion_alone hattempted hlog hrow hstart hcompletes' hcompletes hsuffix)

/-- A START has one completion at most. -/
theorem completionsOf_le_one : (completionsOf system.db.receipts row).length ≤ 1 := by
  have hnodup : ((completionsOf system.db.receipts row).map (·.slot)).Nodup :=
    (slots_nodup hlog).sublist (List.filter_sublist.map _)
  have hunique : ∀ a ∈ completionsOf system.db.receipts row, ∀ b ∈ completionsOf system.db.receipts row, a = b := by
    intro a ha b hb
    obtain ⟨ha, hcompletes⟩ := List.mem_filter.mp ha
    obtain ⟨hb, hcompletes'⟩ := List.mem_filter.mp hb
    exact completion_unique hattempted hlog hrow hstart ha (of_decide_eq_true hcompletes) hb (of_decide_eq_true hcompletes')
  cases hrows : completionsOf system.db.receipts row with
  | nil => simp
  | cons a rest =>
    cases rest with
    | nil => simp
    | cons b rest =>
      rw [hrows] at hnodup hunique
      have hab : a = b := hunique a (by simp) b (by simp)
      simp [hab] at hnodup

variable (hdone : done ∈ system.db.receipts) (hcompletes : done.Completes row)
include hdone hcompletes

theorem done_slot : done.slot = start.slotAt done.receipt.kind := by
  obtain ⟨older, hsuffix⟩ := AcceptedLogs.exists_older hdone
  exact (hcompletes.ends hattempted hlog hrow hstart hsuffix).slot

theorem row?_done : system.db.row? (start.slotAt done.receipt.kind) = some done := by
  rw [← done_slot hattempted hlog hrow hstart hdone hcompletes]
  exact KeyedRows.find?_eq (slots_nodup hlog) hdone

theorem row?_other {kind : ReceiptKind} (hkind : kind = .terminal ∨ kind = .review) (hother : kind ≠ done.receipt.kind) :
    system.db.row? (start.slotAt kind) = none := by
  apply row?_eq_none.mpr
  intro other hmem hslot
  apply hother
  have hcompletes' := completes_of_slot hlog hrow hstart hkind hslot
  rw [completion_unique hattempted hlog hrow hstart hdone hcompletes hmem hcompletes']
  exact (congrArg Slot.kind hslot).symm

end Completions

section Gate

variable {context : CampaignContext} {campaignId sampleId : String}

/-- The evaluation of a sample is causal. -/
def CampaignDatabase.Causal (s : CampaignDatabase) (campaignId sampleId : String) : Prop :=
  ∃ row ∈ s.row? ⟨campaignId, sampleId, none, .evaluation, "one"⟩, ∃ evaluation, row.receipt = .causalEvaluation evaluation

/-- A process may write of a sample: with the scheduler of its plan, or with none if the sample has no causal
evaluation. -/
def CampaignDatabase.Admits (s : CampaignDatabase) (scheduler : Option String) (campaignId sampleId : String) : Prop :=
  ∃ plan ∈ s.plan? campaignId, scheduler = some plan.plan.schedulerSha256 ∨
    scheduler = none ∧ ¬s.Causal campaignId sampleId

/-- The context of a campaign is the same for every process that has it. -/
theorem campaignContext_scheduler (h : campaignContext contracts scheduler s campaignId = .ok context) :
    s.plan? campaignId = some context.planRow ∧
    (scheduler = none ∨ scheduler = some context.planRow.plan.schedulerSha256) ∧
    ∀ other, other = none ∨ other = some context.planRow.plan.schedulerSha256 →
      campaignContext contracts other s campaignId = .ok context := by
  obtain ⟨planRow, hplan, h⟩ := bind_ok h
  obtain ⟨⟨schedule, protocol⟩, hidentity, h⟩ := bind_ok h
  obtain ⟨_, hdigests, h⟩ := bind_ok h
  have hcontext : context = ⟨planRow, schedule, protocol⟩ ∧
      (scheduler = none ∨ scheduler = some planRow.plan.schedulerSha256) := by
    split at h
    · rename_i hnone
      exact ⟨(Except.ok.inj h).symm, Or.inl hnone⟩
    · obtain ⟨_, hscheduler, h⟩ := bind_ok h
      exact ⟨(Except.ok.inj h).symm, Or.inr (require_ok hscheduler)⟩
  obtain ⟨rfl, hscheduler⟩ := hcontext
  refine ⟨found_ok hplan, hscheduler, ?_⟩
  intro other hother
  rw [campaignContext, found_ok hplan, Transactions.found_some, ok_bind, hidentity, ok_bind]
  dsimp only
  rw [hdigests, ok_bind]
  rcases hother with rfl | rfl
  · rfl
  · rw [if_neg (by simp), requireCausalPlan, require_pos rfl]
    rfl

theorem guardCausalEvaluation_iff {plan : CampaignPlan} :
    (∃ causal, guardCausalEvaluation scheduler s plan campaignId sampleId = .ok causal) ↔
      (s.Causal campaignId sampleId → scheduler = some plan.schedulerSha256) := by
  cases hrow : s.row? ⟨campaignId, sampleId, none, .evaluation, "one"⟩ with
  | none =>
    rw [guardCausalEvaluation, storedEvaluation, CampaignDatabase.Causal, hrow]
    constructor
    · rintro - ⟨_, ⟨⟩, -⟩
    · exact fun _ => ⟨false, rfl⟩
  | some row =>
    have hkind : row.receipt.kind = .evaluation := congrArg Slot.kind (row?_mem hrow).2
    cases hreceipt : row.receipt with
    | evaluation receipt =>
      constructor
      · rintro - ⟨other, hother, evaluation, hevaluation⟩
        obtain rfl : row = other := Option.some.inj (hrow.symm.trans hother)
        rw [hreceipt] at hevaluation
        cases hevaluation
      · intro _
        have hdecode : decodeEvaluation row = .ok (.core receipt) := by rw [decodeEvaluation, hreceipt]
        have hstored : storedEvaluation s campaignId sampleId = .ok (some (row, .core receipt)) := by
          rw [storedEvaluation, hrow]
          dsimp only
          rw [hdecode]
          rfl
        rw [guardCausalEvaluation, hstored]
        exact ⟨false, rfl⟩
    | causalEvaluation receipt =>
      have hdecode : decodeEvaluation row = .ok (.causal receipt) := by rw [decodeEvaluation, hreceipt]
      have hstored : storedEvaluation s campaignId sampleId = .ok (some (row, .causal receipt)) := by
        rw [storedEvaluation, hrow]
        dsimp only
        rw [hdecode]
        rfl
      rw [guardCausalEvaluation, hstored, ok_bind]
      constructor
      · rintro ⟨causal, hcausal⟩ -
        obtain ⟨_, hscheduler, -⟩ := bind_ok hcausal
        exact require_ok hscheduler
      · intro hscheduler
        refine ⟨true, ?_⟩
        rw [requireCausalPlan, require_pos (hscheduler ⟨row, hrow, receipt, hreceipt⟩)]
        rfl
    | _ => simp [hreceipt, CampaignReceipt.kind] at hkind

/-- The gate that a transaction of a campaign passes. -/
theorem admits_iff (hcontext : ∃ scheduler context, campaignContext contracts scheduler s campaignId = .ok context) :
    (∃ context, campaignContext contracts scheduler s campaignId = .ok context ∧
      ∃ causal, guardCausalEvaluation scheduler s context.planRow.plan campaignId sampleId = .ok causal) ↔
        s.Admits scheduler campaignId sampleId := by
  constructor
  · rintro ⟨context, hcontext, hcausal⟩
    obtain ⟨hplan, hscheduler, -⟩ := campaignContext_scheduler hcontext
    refine ⟨context.planRow, hplan, ?_⟩
    rcases hscheduler with rfl | hscheduler
    · right
      refine ⟨rfl, fun hstored => ?_⟩
      have := guardCausalEvaluation_iff.mp hcausal hstored
      cases this
    · exact Or.inl hscheduler
  · rintro ⟨plan, hplan, hscheduler⟩
    obtain ⟨other, context, hcontext⟩ := hcontext
    obtain ⟨hplan', -, hothers⟩ := campaignContext_scheduler hcontext
    obtain rfl : context.planRow = plan := Option.some.inj (hplan'.symm.trans hplan)
    rcases hscheduler with hscheduler | ⟨rfl, hnone⟩
    · exact ⟨context, hothers _ (Or.inr hscheduler), guardCausalEvaluation_iff.mpr fun _ => hscheduler⟩
    · exact ⟨context, hothers _ (Or.inl rfl), guardCausalEvaluation_iff.mpr fun hstored => absurd hstored hnone⟩

end Gate

section Answers

/-- A transaction answers `False` where a condition holds, and raises elsewhere; it writes nothing. -/
def Answered (body : CampaignDatabase → Except ResearchError (CampaignDatabase × Bool)) (s : CampaignDatabase)
    (condition : Prop) : Prop :=
  (condition → Transactions.run body s = (s, .ok false)) ∧ (¬condition → ∃ e, Transactions.run body s = (s, .error e))

theorem answered {body : CampaignDatabase → Except ResearchError (CampaignDatabase × Bool)} {condition : Prop}
    (hok : ∀ t finished, body s = .ok (t, finished) → condition) (hcondition : condition → body s = .ok (s, false)) :
    Answered body s condition := by
  constructor
  · exact fun h => Transactions.run_ok (hcondition h)
  · intro h
    cases hbody : body s with
    | ok result => exact absurd (hok _ _ hbody) h
    | error e => exact ⟨e, by rw [Transactions.run, hbody]⟩

variable {system : CampaignSystem} {answer : Option AttemptTerminal} (hattempted : Attempted contracts system)
  (hlog : JournalAccepted contracts system.db.receipts) (hrow : row ∈ system.db.receipts)
  (hstart : row.receipt = .start start) (hdone : done ∈ system.db.receipts) (hcompletes : done.Completes row)
include hattempted hlog hrow hstart hdone hcompletes

/-- A terminal of a completed attempt is the stored one, or it is refused. -/
theorem finish_answered {terminal : AttemptTerminal} (hnamed : start.attemptId = terminal.attemptId) :
    Answered (finishAttempt contracts scheduler terminal start clock recorded) system.db
      (done.receipt = .terminal terminal ∧ system.db.Admits scheduler start.campaignId start.sampleId) := by
  have hbased := hattempted.based row hrow start hstart
  have hcontext : ∃ scheduler context, campaignContext contracts scheduler system.db start.campaignId = .ok context := by
    obtain ⟨other, context, hcontext, -⟩ := hbased.context
    exact ⟨other, context, hcontext⟩
  have hslot := row?_done hattempted hlog hrow hstart hdone hcompletes
  apply answered
  · intro t finished h
    obtain ⟨-, hgate, hreview, hcases⟩ := finishAttempt_cases hnamed h
    refine ⟨?_, (admits_iff hcontext).mp hgate⟩
    rcases hcompletes.1 with hkind | hkind
    · rw [hkind] at hslot
      rcases hcases with ⟨-, -, other, hother, hterminal⟩ | ⟨-, hnone, -⟩
      · rw [Option.some.inj (hslot.symm.trans hother)]
        exact hterminal
      · rw [hslot] at hnone
        cases hnone
    · rw [hkind, hreview] at hslot
      cases hslot
  · rintro ⟨hterminal, hadmits⟩
    have hkind : done.receipt.kind = .terminal := by rw [hterminal]; rfl
    obtain ⟨context, hcontext, causal, hcausal⟩ := (admits_iff hcontext).mpr hadmits
    obtain ⟨older, hsuffix⟩ := AcceptedLogs.exists_older hdone
    have hcheck := (hcompletes.ends hattempted hlog hrow hstart hsuffix).checked
    have hreview := row?_other hattempted hlog hrow hstart hdone hcompletes (Or.inr rfl) (by rw [hkind]; simp)
    have hdecode : decodeTerminal done = .ok terminal := by rw [decodeTerminal, hterminal]
    rw [hterminal] at hcheck
    rw [hkind] at hslot
    rw [AttemptStart.slotAt] at hreview hslot
    rw [finishAttempt, hcheck, ok_bind, hcontext, ok_bind, hcausal, ok_bind, require_pos hreview, ok_bind, hslot]
    dsimp only
    rw [hdecode, ok_bind, require_pos rfl, ok_bind]
    rfl

/-- A review of a completed attempt is the stored one, or it is refused. -/
theorem review_answered {receipt : ReviewReceipt} (hfound : Found system.db.receipts receipt.attemptId (start, answer)) :
    Answered (recordReview contracts scheduler receipt (start, answer) clock recorded) system.db
      (done.receipt = .review receipt ∧ system.db.Admits scheduler start.campaignId start.sampleId) := by
  have hbased := hattempted.based row hrow start hstart
  have hcontext : ∃ scheduler context, campaignContext contracts scheduler system.db start.campaignId = .ok context := by
    obtain ⟨other, context, hcontext, -⟩ := hbased.context
    exact ⟨other, context, hcontext⟩
  have hslot := row?_done hattempted hlog hrow hstart hdone hcompletes
  apply answered
  · intro t finished h
    obtain ⟨hcheck, hgate, hterminal, hcases⟩ := recordReview_cases h
    obtain ⟨harm, -⟩ := checkReview_ok hcheck
    rcases hcases with ⟨-, -, other, hother, hreview⟩ | ⟨-, hreview, hscope, -⟩
    · -- the stored review names this START
      obtain ⟨hmem, hslot'⟩ := row?_mem hother
      have hnamed : receipt.startReceiptSha256 = row.receiptSha256 := by
        obtain ⟨_, -, hcheck⟩ := bind_ok hcheck
        obtain ⟨_, -, hcheck⟩ := bind_ok hcheck
        rw [(require_ok hcheck).2, sha_of_mem hlog hrow, hstart]
        rfl
      have hcompletes' : other.Completes row := by
        constructor
        · rw [hreview]
          exact Or.inr rfl
        · left
          rw [hreview, ← hnamed]
          rfl
      obtain rfl := completion_unique hattempted hlog hrow hstart hdone hcompletes hmem hcompletes'
      have hscope := (done_slot hattempted hlog hrow hstart hdone hcompletes).symm.trans hslot'
      simp only [AttemptStart.slotAt, ReviewReceipt.slotAt, Slot.mk.injEq] at hscope
      refine ⟨hreview, (admits_iff hcontext).mp ?_⟩
      rw [hscope.1, hscope.2.1]
      exact hgate
    · have hsame : ∀ kind, start.slotAt kind = receipt.slotAt kind := by
        intro kind
        rw [AttemptStart.slotAt, ReviewReceipt.slotAt, hscope.1, hscope.2, harm, hfound.named]
      rw [hsame] at hslot
      rcases hcompletes.1 with hkind | hkind
      · rw [hkind, hterminal] at hslot
        cases hslot
      · rw [hkind, hreview] at hslot
        cases hslot
  · rintro ⟨hreview, hadmits⟩
    have hkind : done.receipt.kind = .review := by rw [hreview]; rfl
    obtain ⟨context, hcontext, causal, hcausal⟩ := (admits_iff hcontext).mpr hadmits
    obtain ⟨older, hsuffix⟩ := AcceptedLogs.exists_older hdone
    have hcheck := (hcompletes.ends hattempted hlog hrow hstart hsuffix).checked
    have hterminal := row?_other hattempted hlog hrow hstart hdone hcompletes (Or.inl rfl) (by rw [hkind]; simp)
    have hdecode : decodeReview done = .ok receipt := by rw [decodeReview, hreview]
    have hanswer : answer = none := by
      cases answer with
      | none => rfl
      | some terminal =>
        obtain ⟨other, hother, hslot'⟩ := hfound.terminal terminal rfl
        exact absurd hslot' (row?_eq_none.mp hterminal other hother)
    subst hanswer
    rw [hreview] at hcheck
    rw [hkind] at hslot
    have hscope : start.slotAt .review = receipt.slotAt .review := by
      rw [← (row?_mem hslot).2]
      apply ownSlot_of_mem hlog hdone
      rw [hreview]
      rfl
    simp only [AttemptStart.slotAt, ReviewReceipt.slotAt, Slot.mk.injEq] at hscope
    obtain ⟨hcampaign, hsample, harm, -, hid⟩ := hscope
    rw [AttemptStart.slotAt, hcampaign, hsample, harm, hid] at hterminal hslot
    rw [hcampaign] at hcontext
    rw [hcampaign, hsample] at hcausal
    rw [recordReview, hcheck, ok_bind]
    dsimp only
    rw [hcontext, ok_bind, hcausal, ok_bind, require_pos hterminal, ok_bind, hslot]
    dsimp only
    rw [hdecode, ok_bind, require_pos rfl, ok_bind]
    rfl

end Answers

section Runs

variable {system : CampaignSystem}

/-- Every call that completes a completed attempt gets its answer, and the completion stays. -/
structure CompletedOnce (contracts : CampaignContracts) (later : CampaignSystem) (row : ReceiptRow) (start : AttemptStart)
    (done : ReceiptRow) : Prop where
  kept : completionsOf later.db.receipts row = [done]
  finish : ∀ (dispatch : Dispatch) (terminal : AttemptTerminal) (answer : Option AttemptTerminal),
    (terminal.attemptId, start, answer) ∈ later.finds →
      Answered (finishAttempt contracts dispatch.scheduler terminal start dispatch.clock dispatch.recorded) later.db
        (done.receipt = .terminal terminal ∧ later.db.Admits dispatch.scheduler start.campaignId start.sampleId)
  review : ∀ (dispatch : Dispatch) (receipt : ReviewReceipt) (answer : Option AttemptTerminal),
    (receipt.attemptId, start, answer) ∈ later.finds →
      Answered (recordReview contracts dispatch.scheduler receipt (start, answer) dispatch.clock dispatch.recorded) later.db
        (done.receipt = .review receipt ∧ later.db.Admits dispatch.scheduler start.campaignId start.sampleId)

theorem one_completion (h : CampaignReachable contracts system) (hrow : row ∈ system.db.receipts)
    (hstart : row.receipt = .start start) : (completionsOf system.db.receipts row).length ≤ 1 ∧
    ∀ done ∈ completionsOf system.db.receipts row, ∀ later, ReflTransGen (CampaignStep contracts) system later →
      CompletedOnce contracts later row start done := by
  have hfenced := fenced_of_reachable h
  refine ⟨completionsOf_le_one (attempted_of_reachable h) hfenced.journal hrow hstart, ?_⟩
  intro done hdone later hrun
  have hlater := attempted_of_reachable (h.run hrun)
  obtain ⟨hfenced', -, hsuffix⟩ := hfenced.extends hrun
  obtain ⟨hdone, hcompletes⟩ := List.mem_filter.mp hdone
  have hcompletes : done.Completes row := of_decide_eq_true hcompletes
  have hrow' := hsuffix.subset hrow
  have hdone' := hsuffix.subset hdone
  constructor
  · have hle := completionsOf_le_one hlater hfenced'.journal hrow' hstart
    have hmem : done ∈ completionsOf later.db.receipts row := List.mem_filter.mpr ⟨hdone', by simpa using hcompletes⟩
    obtain ⟨other, hrows⟩ := List.length_eq_one_iff.mp (le_antisymm hle (List.length_pos_of_mem hmem))
    rw [hrows] at hmem ⊢
    rw [List.mem_singleton.mp hmem]
  · intro dispatch terminal answer hfind
    apply finish_answered hlater hfenced'.journal hrow' hstart hdone' hcompletes
    exact (hlater.found _ hfind).named
  · intro dispatch receipt answer hfind
    apply review_answered hlater hfenced'.journal hrow' hstart hdone' hcompletes
    exact hlater.found _ hfind

end Runs

section Example

/-- The proposal of the example has its terminal. -/
theorem one_completion_example : ∃ row done, row.receipt = .start exampleProposalAttempt ∧
    CompletedOnce exampleCausalContracts exampleProposed row exampleProposalAttempt done := by
  have hreachable : CampaignReachable exampleCausalContracts exampleProposed := runCampaignCalls_reachable _ _
  have hfind : ("attempt-1", exampleProposalAttempt, none) ∈ exampleProposed.finds := by decide +kernel
  obtain ⟨row, hrow, hstart⟩ := ((attempted_of_reachable hreachable).found _ hfind).start
  have hstored : (exampleProposed.db.row? (exampleProposalAttempt.slotAt .terminal)).isSome := by decide +kernel
  obtain ⟨done, hdone⟩ := Option.isSome_iff_exists.mp hstored
  obtain ⟨hmem, hslot⟩ := row?_mem hdone
  have hlog := (fenced_of_reachable hreachable).journal
  have hcompletes := completes_of_slot hlog hrow hstart (Or.inl rfl) hslot
  refine ⟨row, done, hstart, ?_⟩
  apply (one_completion hreachable hrow hstart).2 done _ _ .refl
  exact List.mem_filter.mpr ⟨hmem, by simpa using hcompletes⟩

/-- A process without the scheduler completes the attempt before the causal evaluation of its sample. -/
def exampleGatedCalls : List (CampaignCall × Dispatch) :=
  exampleFrozenCalls ++ [(.startAttempt exampleProposalAttempt true, atMs 1200), (.findAttempt "attempt-1" 0, atMs 1500),
    (.finishAttempt exampleProposalTerminal (exampleProposalAttempt, none), atMs 1500),
    (.recordCausalEvaluation exampleClaim exampleBundle exampleBaseline, scheduledAtMs 1600)]

def exampleGated : CampaignSystem := runCampaignCalls exampleCausalContracts exampleGatedCalls .empty

/-- Its exact replay is refused afterwards. -/
theorem replay_refused : CampaignReachable exampleCausalContracts exampleGated ∧
    ("attempt-1", exampleProposalAttempt, none) ∈ exampleGated.finds ∧
    (exampleGated.db.row? (exampleProposalAttempt.slotAt .terminal)).map decodeTerminal = some (.ok exampleProposalTerminal) ∧
    (Transactions.run (finishAttempt exampleCausalContracts none exampleProposalTerminal exampleProposalAttempt 1700000
      1700000) exampleGated.db).2 = .error (.messageIdentityConflict
        "causal receipt family requires its explicitly frozen scheduler identity") := by
  refine ⟨runCampaignCalls_reachable _ _, ?_, ?_, ?_⟩
  · decide +kernel
  · decide +kernel
  · decide +kernel

end Example

end KairosPersistence
