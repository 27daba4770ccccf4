import KairosPersistence.OutboxWrites
import KairosPersistence.Runs

/-!
The three programs that send outbox messages (the dispatcher of the durable
bus, the prefix drainer and the reconciler), interleaved with each other, with
any other client of the outbox operations and with crashes.
-/

namespace KairosPersistence

open PythonText (Timestamp)

/-- Where the dispatcher `_dispatch_outbox` stands between two of its awaits. -/
inductive DispatcherPhase where
  | claiming
  | delivering (records : List OutboxRecord)
  | publishing (record : OutboxRecord) (rest : List OutboxRecord)
  | acknowledging (record : OutboxRecord) (rest : List OutboxRecord)
  | quarantining (record : OutboxRecord) (reasonCode : String) (rest : List OutboxRecord) (reraise : Bool)

/-- Where `drain_exact` or `reconcile` stands between two of its awaits. -/
inductive ExactPhase where
  | idle
  | claimed (claim : OfflineOutboxClaim)
  | publishing (claim : OfflineOutboxClaim)
  | acknowledging (claim : OfflineOutboxClaim)
  | quarantining (claim : OfflineOutboxClaim) (failureKind : String)

/-- The prefix drainer and the reconciler differ in the claim and in the reason they record. -/
inductive ExactProgram where
  | drainer
  | reconciler

def ExactProgram.claim : ExactProgram → OfflineOutboxIdentity → String → Timestamp → List AuditRow → Timestamp →
    Outbox → Except OutboxError (Outbox × OfflineOutboxClaimResult)
  | .drainer => claimReadyOutboxExact
  | .reconciler => claimExpiredOutboxExact

def ExactProgram.reason (failureKind : String) : ExactProgram → String
  | .drainer => "offline prefix drain " ++ failureKind
  | .reconciler => "offline reconciliation " ++ failureKind

/-- A process that may send. -/
inductive Process where
  | stopped
  | dispatcher (workerId : String) (phase : DispatcherPhase)
  | exact (program : ExactProgram) (phase : ExactPhase)

/-- The record may be sent: its payload has the stored content identity. -/
def prePublishHashMatches (record : OutboxRecord) : Bool :=
  record.payload.any fun payload => record.payloadSha256 = some (canonicalPayload payload).2

/-- The ids a process holds a claim for and has not sent yet. -/
def Process.pending : Process → List ℕ
  | .dispatcher _ (.delivering records) => records.map (·.id)
  | .dispatcher _ (.publishing _ rest) | .dispatcher _ (.acknowledging _ rest)
  | .dispatcher _ (.quarantining _ _ rest _) => rest.map (·.id)
  | .exact _ (.claimed claim) => [claim.identity.id]
  | _ => []

/-- The outbox, the processes, and the ids claimed and sent so far, the last one first. -/
structure Delivery (ι : Type) where
  outbox : Outbox
  processes : ι → Process
  claims : List ℕ
  sends : List ℕ

namespace Delivery

variable {ι : Type} [DecidableEq ι]

def setProcess (s : Delivery ι) (p : ι) (q : Process) : Delivery ι :=
  { s with processes := Function.update s.processes p q }

def setOutbox (s : Delivery ι) (o : Outbox) : Delivery ι := { s with outbox := o }

/-- One step of a run. A process may be stopped between any two of its awaits, and a transaction
whose response is lost may or may not have been committed. -/
inductive Step : Delivery ι → Delivery ι → Prop
  | enqueue {s messageId topic payload payloadSha256 producer now o inserted}
    (h : enqueueOutbox messageId topic payload payloadSha256 producer now s.outbox = .ok (o, inserted)) :
    Step s (s.setOutbox o)
  | client {s o} (h : Outbox.ClientStep s.outbox o) : Step s (s.setOutbox o)
  | crash {s} (p : ι) : Step s (s.setProcess p .stopped)
  | startDispatcher {s} (p : ι) (workerId : String) (h : s.processes p = .stopped) :
    Step s (s.setProcess p (.dispatcher workerId .claiming))
  | startExact {s} (p : ι) (program : ExactProgram) (h : s.processes p = .stopped) :
    Step s (s.setProcess p (.exact program .idle))
  -- the dispatcher
  | claimOutbox {s} (p : ι) {workerId producer uuid limit lease locked now o records}
    (h : s.processes p = .dispatcher workerId .claiming)
    (hc : claimOutbox workerId producer uuid limit lease locked now s.outbox = .ok (o, records)) :
    Step s { (s.setOutbox o).setProcess p (.dispatcher workerId (.delivering records)) with
      claims := records.map (·.id) ++ s.claims }
  | nextClaim {s} (p : ι) {workerId} (h : s.processes p = .dispatcher workerId (.delivering [])) :
    Step s (s.setProcess p (.dispatcher workerId .claiming))
  | hashMismatch {s} (p : ι) {workerId record rest}
    (h : s.processes p = .dispatcher workerId (.delivering (record :: rest)))
    (hm : prePublishHashMatches record = false) :
    Step s (s.setProcess p (.dispatcher workerId (.quarantining record "PRE_PUBLISH_HASH_MISMATCH" rest false)))
  | publish {s} (p : ι) {workerId record rest}
    (h : s.processes p = .dispatcher workerId (.delivering (record :: rest)))
    (hm : prePublishHashMatches record = true) :
    Step s { s.setProcess p (.dispatcher workerId (.publishing record rest)) with sends := record.id :: s.sends }
  | published {s} (p : ι) {workerId record rest}
    (h : s.processes p = .dispatcher workerId (.publishing record rest)) :
    Step s (s.setProcess p (.dispatcher workerId (.acknowledging record rest)))
  | publishFailed {s} (p : ι) {workerId record rest} (cancelled : Bool)
    (h : s.processes p = .dispatcher workerId (.publishing record rest)) :
    Step s (s.setProcess p (.dispatcher workerId (.quarantining record
      (if cancelled then "PUBLISH_CANCELLED" else "PUBLISH_EXCEPTION") rest cancelled)))
  | acknowledged {s} (p : ι) {workerId record rest now o updated}
    (h : s.processes p = .dispatcher workerId (.acknowledging record rest))
    (ho : markPublished record workerId now s.outbox = (o, updated)) :
    Step s ((s.setOutbox o).setProcess p (.dispatcher workerId
      (if updated then .delivering rest else .quarantining record "ACK_NOT_APPLIED" rest false)))
  | acknowledgeFailed {s} (p : ι) {workerId record rest} (cancelled : Bool)
    (h : s.processes p = .dispatcher workerId (.acknowledging record rest)) :
    Step s (s.setProcess p (.dispatcher workerId (.quarantining record
      (if cancelled then "ACK_CANCELLED" else "ACK_EXCEPTION") rest cancelled)))
  | quarantined {s} (p : ι) {workerId record reasonCode rest reraise now o updated}
    (h : s.processes p = .dispatcher workerId (.quarantining record reasonCode rest reraise))
    (ho : markOutboxPublishOutcomeUnknown record workerId reasonCode now s.outbox = .ok (o, updated)) :
    Step s ((s.setOutbox o).setProcess p
      (if reraise then .stopped else .dispatcher workerId (.delivering rest)))
  | quarantineFailed {s} (p : ι) {workerId record reasonCode rest reraise}
    (h : s.processes p = .dispatcher workerId (.quarantining record reasonCode rest reraise)) :
    Step s (s.setProcess p (if reraise then .stopped else .dispatcher workerId (.delivering rest)))
  -- the drainer and the reconciler
  | claimExact {s} (p : ι) {program identity reconciliationId lease auditRows now o claim}
    (h : s.processes p = .exact program .idle)
    (hc : program.claim identity reconciliationId lease auditRows now s.outbox =
      .ok (o, .inr claim)) :
    Step s { (s.setOutbox o).setProcess p (.exact program (.claimed claim)) with
      claims := claim.identity.id :: s.claims }
  | claimRejected {s} (p : ι) {program identity reconciliationId lease auditRows now o rejection}
    (h : s.processes p = .exact program .idle)
    (hc : program.claim identity reconciliationId lease auditRows now s.outbox =
      .ok (o, .inl rejection)) : Step s (s.setOutbox o)
  | publishExact {s} (p : ι) {program claim}
    (h : s.processes p = .exact program (.claimed claim)) :
    Step s { s.setProcess p (.exact program (.publishing claim)) with
      sends := claim.identity.id :: s.sends }
  | publishedExact {s} (p : ι) {program claim}
    (h : s.processes p = .exact program (.publishing claim)) :
    Step s (s.setProcess p (.exact program (.acknowledging claim)))
  | publishExactFailed {s} (p : ι) {program claim} (failureKind : String)
    (h : s.processes p = .exact program (.publishing claim)) :
    Step s (s.setProcess p (.exact program (.quarantining claim failureKind)))
  | acknowledgedExact {s} (p : ι) {program claim now o updated}
    (h : s.processes p = .exact program (.acknowledging claim))
    (ho : acknowledgeExactOutboxPublish claim.identity claim.reconciliationId now s.outbox = .ok (o, updated)) :
    Step s ((s.setOutbox o).setProcess p (.exact program
      (if updated then .idle else .quarantining claim "database_ack_not_applied")))
  | acknowledgeExactFailed {s} (p : ι) {program claim} (failureKind : String)
    (h : s.processes p = .exact program (.acknowledging claim)) :
    Step s (s.setProcess p (.exact program (.quarantining claim failureKind)))
  | quarantinedExact {s} (p : ι) {program claim failureKind now o updated}
    (h : s.processes p = .exact program (.quarantining claim failureKind))
    (ho : markExactOutboxPublishOutcomeUnknown claim.identity claim.reconciliationId
      (program.reason failureKind) now s.outbox =
      .ok (o, updated)) :
    Step s ((s.setOutbox o).setProcess p (.exact program .idle))
  | quarantineExactFailed {s} (p : ι) {program claim failureKind}
    (h : s.processes p = .exact program (.quarantining claim failureKind)) :
    Step s (s.setProcess p (.exact program .idle))

section Effect

variable {s t : Delivery ι}

theorem ExactProgram_claim_cases {program : ExactProgram} {identity : OfflineOutboxIdentity}
    {reconciliationId : String} {lease : Timestamp} {auditRows : List AuditRow} {now : Timestamp} {o o' : Outbox}
    {result : OfflineOutboxClaimResult}
    (h : program.claim identity reconciliationId lease auditRows now o = .ok (o', result)) :
    ((∃ rejection, result = .inl rejection) ∧ o' = o) ∨
      ∃ claim, result = .inr claim ∧ claim.identity = identity ∧ Outbox.Claimed o identity.id o' := by
  cases program <;> exact Outbox.claimOutboxExact_cases h

/-- Nothing is claimed or sent, and no process gains a claim. -/
structure QuietStep (s t : Delivery ι) : Prop where
  outbox : Outbox.Quiet s.outbox t.outbox
  claims : t.claims = s.claims
  sends : t.sends = s.sends
  pending : ∀ q, (t.processes q).pending.Sublist (s.processes q).pending

/-- The process `p`, which held no claim, claims the row `id`. -/
structure ClaimStep (s t : Delivery ι) (p : ι) (id : ℕ) : Prop where
  outbox : Outbox.Claimed s.outbox id t.outbox
  claims : t.claims = id :: s.claims
  sends : t.sends = s.sends
  pending : (t.processes p).pending = [id]
  others : ∀ q ≠ p, t.processes q = s.processes q

/-- The process `p` sends the message of the row `id`, which it had claimed. -/
structure SendStep (s t : Delivery ι) (p : ι) (id : ℕ) : Prop where
  outbox : t.outbox = s.outbox
  claims : t.claims = s.claims
  sends : t.sends = id :: s.sends
  pending : (s.processes p).pending = id :: (t.processes p).pending
  others : ∀ q ≠ p, t.processes q = s.processes q

theorem quietStep_setProcess {o : Outbox} (ho : Outbox.Quiet s.outbox o) {p : ι} {q : Process}
    (hq : q.pending.Sublist (s.processes p).pending) : QuietStep s ((s.setOutbox o).setProcess p q) := by
  refine ⟨ho, rfl, rfl, fun r => ?_⟩
  simp only [setProcess, setOutbox, Function.update_apply]
  split_ifs with hr
  · exact hr ▸ hq
  · exact List.Sublist.refl _

theorem quietStep_process {p : ι} {q : Process} (hq : q.pending.Sublist (s.processes p).pending) :
    QuietStep s (s.setProcess p q) :=
  quietStep_setProcess (Outbox.Quiet.refl _) hq

theorem step_cases (h : Step s t) :
    QuietStep s t ∨ (∃ p id, ClaimStep s t p id) ∨ ∃ p id, SendStep s t p id := by
  cases h with
  | enqueue h => exact Or.inl ⟨Outbox.enqueueOutbox_quiet h, rfl, rfl, fun _ => List.Sublist.refl _⟩
  | client h => exact Or.inl ⟨h.written.quiet, rfl, rfl, fun _ => List.Sublist.refl _⟩
  | crash p => exact Or.inl (quietStep_process (List.nil_sublist _))
  | startDispatcher p _ h | startExact p _ h | nextClaim p h | published p h | publishFailed p _ h
  | acknowledgeFailed p _ h | publishedExact p h | publishExactFailed p _ h | acknowledgeExactFailed p _ h
  | quarantineExactFailed p h =>
    exact Or.inl (quietStep_process (by rw [h]; exact List.Sublist.refl _))
  | claimOutbox p h hc =>
    rcases Outbox.claimOutbox_cases hc with ⟨rfl, rfl⟩ | ⟨record, rfl, hclaimed⟩
    · exact Or.inl (quietStep_setProcess (Outbox.Quiet.refl _) (List.nil_sublist _))
    · refine Or.inr (Or.inl ⟨p, record.id, hclaimed, rfl, rfl, ?_, fun q hq => Function.update_of_ne hq _ _⟩)
      simp [setProcess, Process.pending]
  | hashMismatch p h => exact Or.inl (quietStep_process (by rw [h]; exact List.sublist_cons_self _ _))
  | publish p h =>
    refine Or.inr (Or.inr ⟨p, _, rfl, rfl, rfl, ?_, fun q hq => Function.update_of_ne hq _ _⟩)
    simp [setProcess, Process.pending, h]
  | @acknowledged p _ _ _ _ _ updated h ho =>
    obtain rfl := congrArg Prod.fst ho
    refine Or.inl (quietStep_setProcess (Outbox.markPublished_written _ _ _).quiet ?_)
    rw [h]
    cases updated <;> exact List.Sublist.refl _
  | @quarantined p _ _ _ _ reraise _ _ _ h ho =>
    refine Or.inl (quietStep_setProcess (Outbox.markOutboxPublishOutcomeUnknown_written ho).quiet ?_)
    rw [h]
    cases reraise
    · exact List.Sublist.refl _
    · exact List.nil_sublist _
  | @quarantineFailed p _ _ _ _ reraise h =>
    refine Or.inl (quietStep_process ?_)
    rw [h]
    cases reraise
    · exact List.Sublist.refl _
    · exact List.nil_sublist _
  | claimExact p h hc =>
    rcases ExactProgram_claim_cases hc with ⟨⟨_, hr⟩, -⟩ | ⟨claim, hr, rfl, hclaimed⟩
    · cases hr
    · obtain rfl := Sum.inr.inj hr
      refine Or.inr (Or.inl ⟨p, _, hclaimed, rfl, rfl, ?_, fun q hq => Function.update_of_ne hq _ _⟩)
      simp [setProcess, Process.pending]
  | claimRejected p h hc =>
    rcases ExactProgram_claim_cases hc with ⟨-, rfl⟩ | ⟨_, hr, -⟩
    · exact Or.inl ⟨Outbox.Quiet.refl _, rfl, rfl, fun _ => List.Sublist.refl _⟩
    · cases hr
  | publishExact p h =>
    refine Or.inr (Or.inr ⟨p, _, rfl, rfl, rfl, ?_, fun q hq => Function.update_of_ne hq _ _⟩)
    simp [setProcess, Process.pending, h]
  | @acknowledgedExact p _ _ _ _ updated h ho =>
    refine Or.inl (quietStep_setProcess (Outbox.acknowledgeExactOutboxPublish_written ho).quiet ?_)
    rw [h]
    cases updated <;> exact List.Sublist.refl _
  | quarantinedExact p h ho =>
    exact Or.inl (quietStep_setProcess (Outbox.markExactOutboxPublishOutcomeUnknown_written ho).quiet
      (List.nil_sublist _))

end Effect

section Rows

variable {s t : Delivery ι}

/-- How a step changes one row: not at all, by a claim or another write, or by its insertion. -/
theorem row_cases (h : Step s t) (i : ℕ) : t.outbox.rows i = s.outbox.rows i ∨
    (∃ r r', s.outbox.rows i = some r ∧ t.outbox.rows i = some r' ∧
      (r.Write r' ∨ r.Claimable ∧ ∃ owner k lease now, r' = r.claim owner k lease now)) ∨
    (s.outbox.rows i = none ∧ ∃ messageId topic payload payloadSha256 producer now,
      t.outbox.rows i = some (newOutboxRow messageId topic payload payloadSha256 producer now)) := by
  rcases step_cases h with h | ⟨p, id, h⟩ | ⟨p, id, h⟩
  · rcases h.outbox i with hi | ⟨r, r', hr, hr', hw⟩ | hi
    · exact Or.inl hi
    · exact Or.inr (Or.inl ⟨r, r', hr, hr', Or.inl hw⟩)
    · exact Or.inr (Or.inr hi)
  · obtain ⟨⟨r, owner, k, lease, now, hr, hclaimable, -, hr'⟩, hothers⟩ := h.outbox
    by_cases hi : i = id
    · exact Or.inr (Or.inl ⟨r, _, hi ▸ hr, hi ▸ hr', Or.inr ⟨hclaimable, owner, k, lease, now, rfl⟩⟩)
    · exact Or.inl (hothers i hi)
  · exact Or.inl (by rw [h.outbox])

theorem row_moves (h : Step s t) {i : ℕ} {r : OutboxRow} (hr : s.outbox.rows i = some r) :
    ∃ r', t.outbox.rows i = some r' ∧ r.reconciliationState.Moves r'.reconciliationState := by
  rcases row_cases h i with hi | ⟨r₁, r', hr₁, hr', hw⟩ | ⟨hi, -⟩
  · exact ⟨r, hi.trans hr, Or.inl rfl⟩
  · obtain rfl : r₁ = r := Option.some.inj (hr₁.symm.trans hr)
    refine ⟨r', hr', ?_⟩
    rcases hw with hw | ⟨hclaimable, owner, k, lease, now, rfl⟩
    · exact hw.moves
    · exact Or.inr (hclaimable.state ▸ .claim)
  · rw [hr] at hi
    cases hi

theorem row_consistent (h : Step s t) (hs : ∀ i r, s.outbox.rows i = some r → r.Consistent) {i : ℕ}
    {r' : OutboxRow} (hr' : t.outbox.rows i = some r') : r'.Consistent := by
  rcases row_cases h i with hi | ⟨r, r₁, hr, hr₁, hw⟩ | ⟨-, _, _, _, _, _, _, hnew⟩
  · exact hs i r' (hi ▸ hr')
  · obtain rfl : r₁ = r' := Option.some.inj (hr₁.symm.trans hr')
    rcases hw with hw | ⟨hclaimable, owner, k, lease, now, rfl⟩
    · exact hw.consistent (hs i r hr)
    · simp [OutboxRow.Consistent, OutboxRow.claim, hclaimable.unresolved.1]
  · obtain rfl := Option.some.inj (hnew.symm.trans hr')
    simp [OutboxRow.Consistent, newOutboxRow]

end Rows

/-- An outbox of unpublished rows in state `NONE`, and no process. Leases, attempts and dead
letters are arbitrary. -/
def Initial (s : Delivery ι) : Prop :=
  (∀ i r, s.outbox.rows i = some r → r.publishedAt = none ∧ r.reconciliationState = .none) ∧
    (∀ p, s.processes p = .stopped) ∧ s.claims = [] ∧ s.sends = []

structure Invariant (s : Delivery ι) : Prop where
  consistent : ∀ i r, s.outbox.rows i = some r → r.Consistent
  claimed : ∀ i ∈ s.claims, ∃ r, s.outbox.rows i = some r ∧ r.reconciliationState ≠ .none
  claims_nodup : s.claims.Nodup
  sends_nodup : s.sends.Nodup
  sends_subset : s.sends ⊆ s.claims
  pending_nodup : ∀ p, (s.processes p).pending.Nodup
  pending_subset : ∀ p, (s.processes p).pending ⊆ s.claims
  pending_unsent : ∀ p, ∀ i ∈ (s.processes p).pending, i ∉ s.sends
  pending_disjoint : ∀ p q, p ≠ q → (s.processes p).pending.Disjoint (s.processes q).pending

omit [DecidableEq ι] in
theorem Initial.invariant {s : Delivery ι} (h : Initial s) : Invariant s := by
  obtain ⟨hrows, hprocesses, hclaims, hsends⟩ := h
  have hpending (p : ι) : (s.processes p).pending = [] := by rw [hprocesses p]; rfl
  constructor <;> try simp [hclaims, hsends, hpending]
  exact fun i r hr => by simp [OutboxRow.Consistent, hrows i r hr]

section Invariance

variable {s t : Delivery ι}

/-- No move leads back to `NONE`. -/
theorem moves_ne_none {a b : ReconciliationState} (h : a.Moves b) (ha : a ≠ .none) : b ≠ .none := by
  rcases h with rfl | h
  · exact ha
  · cases h <;> simp

theorem edges_ne_none {a b : ReconciliationState} (h : Relation.ReflTransGen ReconciliationState.Edge a b)
    (ha : a ≠ .none) : b ≠ .none :=
  @Runs.run_invariant _ (· ≠ .none) ReconciliationState.Edge a b
    (fun _ _ ha hedge => moves_ne_none (Or.inr hedge) ha) h ha

theorem claimed_step (h : Step s t) (hs : ∀ i ∈ s.claims, ∃ r, s.outbox.rows i = some r ∧
    r.reconciliationState ≠ .none) {i : ℕ} (hi : i ∈ s.claims) :
    ∃ r, t.outbox.rows i = some r ∧ r.reconciliationState ≠ .none := by
  obtain ⟨r, hr, hne⟩ := hs i hi
  obtain ⟨r', hr', hmoves⟩ := row_moves h hr
  exact ⟨r', hr', moves_ne_none hmoves hne⟩

theorem Invariant.quiet (hs : Invariant s) (hstep : Step s t) (h : QuietStep s t) : Invariant t where
  consistent _ _ := row_consistent hstep hs.consistent
  claimed i hi := claimed_step hstep hs.claimed (h.claims ▸ hi)
  claims_nodup := h.claims ▸ hs.claims_nodup
  sends_nodup := h.sends ▸ hs.sends_nodup
  sends_subset := by rw [h.claims, h.sends]; exact hs.sends_subset
  pending_nodup p := (hs.pending_nodup p).sublist (h.pending p)
  pending_subset p := by rw [h.claims]; exact List.Subset.trans (h.pending p).subset (hs.pending_subset p)
  pending_unsent p i hi := by rw [h.sends]; exact hs.pending_unsent p i ((h.pending p).subset hi)
  pending_disjoint p q hpq i hi hj :=
    hs.pending_disjoint p q hpq ((h.pending p).subset hi) ((h.pending q).subset hj)

omit [DecidableEq ι] in
/-- A row in state `NONE` was not claimed before. -/
theorem Invariant.fresh_claim (hs : Invariant s) {i : ℕ} {r : OutboxRow} (hr : s.outbox.rows i = some r)
    (hstate : r.reconciliationState = .none) : i ∉ s.claims := fun hi => by
  obtain ⟨r', hr', hne⟩ := hs.claimed i hi
  obtain rfl : r' = r := Option.some.inj (hr'.symm.trans hr)
  exact hne hstate

theorem Invariant.claim (hs : Invariant s) (hstep : Step s t) {p : ι} {id : ℕ} (h : ClaimStep s t p id) :
    Invariant t := by
  obtain ⟨⟨r, owner, k, lease, now, hr, hclaimable, -, hr'⟩, -⟩ := h.outbox
  have hfresh := hs.fresh_claim hr hclaimable.state
  have hpending (q : ι) {i : ℕ} (hi : i ∈ (t.processes q).pending) :
      q = p ∧ i = id ∨ q ≠ p ∧ i ∈ (s.processes q).pending := by
    by_cases hq : q = p
    · subst hq
      rw [h.pending, List.mem_singleton] at hi
      exact Or.inl ⟨rfl, hi⟩
    · exact Or.inr ⟨hq, h.others q hq ▸ hi⟩
  refine ⟨fun _ _ => row_consistent hstep hs.consistent, fun i hi => ?_, ?_, ?_, ?_, fun q => ?_, fun q i hi => ?_,
    fun q i hi => ?_, fun q q' hq i hi hi' => ?_⟩
  · rcases List.mem_cons.mp (h.claims ▸ hi) with rfl | hi
    · exact ⟨_, hr', by simp [OutboxRow.claim]⟩
    · exact claimed_step hstep hs.claimed hi
  · rw [h.claims]
    exact List.nodup_cons.mpr ⟨hfresh, hs.claims_nodup⟩
  · exact h.sends ▸ hs.sends_nodup
  · rw [h.claims, h.sends]
    exact List.Subset.trans hs.sends_subset (List.subset_cons_self _ _)
  · by_cases hq : q = p
    · subst hq
      rw [h.pending]
      exact List.nodup_singleton id
    · exact h.others q hq ▸ hs.pending_nodup q
  · rw [h.claims]
    rcases hpending q hi with ⟨-, rfl⟩ | ⟨-, hi⟩
    · exact List.mem_cons_self
    · exact List.mem_cons_of_mem _ (hs.pending_subset q hi)
  · rw [h.sends]
    rcases hpending q hi with ⟨-, rfl⟩ | ⟨-, hi⟩
    · exact fun hsent => hfresh (hs.sends_subset hsent)
    · exact hs.pending_unsent q i hi
  · rcases hpending q hi with ⟨rfl, rfl⟩ | ⟨-, hi⟩ <;> rcases hpending q' hi' with ⟨rfl, hid⟩ | ⟨-, hi'⟩
    · exact hq rfl
    · exact hfresh (hs.pending_subset q' hi')
    · exact hfresh (hs.pending_subset q (hid ▸ hi))
    · exact hs.pending_disjoint q q' hq hi hi'

theorem Invariant.send (hs : Invariant s) (hstep : Step s t) {p : ι} {id : ℕ} (h : SendStep s t p id) :
    Invariant t := by
  have hid : id ∈ (s.processes p).pending := h.pending ▸ List.mem_cons_self
  have hnodup : id ∉ (t.processes p).pending ∧ (t.processes p).pending.Nodup :=
    List.nodup_cons.mp (h.pending ▸ hs.pending_nodup p)
  have hpending (q : ι) : (t.processes q).pending.Sublist (s.processes q).pending := by
    by_cases hq : q = p
    · subst hq
      rw [h.pending]
      exact List.sublist_cons_self _ _
    · rw [h.others q hq]
  refine ⟨fun _ _ => row_consistent hstep hs.consistent, fun i hi => claimed_step hstep hs.claimed (h.claims ▸ hi),
    h.claims ▸ hs.claims_nodup, ?_, ?_, fun q => (hs.pending_nodup q).sublist (hpending q), fun q i hi => ?_,
    fun q i hi => ?_, fun q q' hq i hi hi' => ?_⟩
  · rw [h.sends]
    exact List.nodup_cons.mpr ⟨hs.pending_unsent p id hid, hs.sends_nodup⟩
  · rw [h.claims, h.sends]
    exact List.cons_subset.mpr ⟨hs.pending_subset p hid, hs.sends_subset⟩
  · rw [h.claims]
    exact hs.pending_subset q ((hpending q).subset hi)
  · rw [h.sends, List.mem_cons, not_or]
    refine ⟨?_, hs.pending_unsent q i ((hpending q).subset hi)⟩
    rintro rfl
    by_cases hq : q = p
    · exact hnodup.1 (hq ▸ hi)
    · exact hs.pending_disjoint p q (Ne.symm hq) hid ((hpending q).subset hi)
  · exact hs.pending_disjoint q q' hq ((hpending q).subset hi) ((hpending q').subset hi')

theorem Invariant.step (hs : Invariant s) (h : Step s t) : Invariant t := by
  rcases step_cases h with hq | ⟨p, id, hc⟩ | ⟨p, id, hc⟩
  · exact hs.quiet h hq
  · exact hs.claim h hc
  · exact hs.send h hc

/-- A row that is claimed in a step was unresolved and in state `NONE`. -/
theorem newly_claimed (h : Step s t) {i : ℕ} (hi : i ∈ t.claims) (hnew : i ∉ s.claims) :
    ∃ r, s.outbox.rows i = some r ∧ r.Claimable := by
  rcases step_cases h with h | ⟨p, id, h⟩ | ⟨p, id, h⟩
  · exact absurd (h.claims ▸ hi) hnew
  · obtain ⟨⟨r, _, _, _, _, hr, hclaimable, -⟩, -⟩ := h.outbox
    rcases List.mem_cons.mp (h.claims ▸ hi) with rfl | hi
    · exact ⟨r, hr, hclaimable⟩
    · exact absurd hi hnew
  · exact absurd (h.claims ▸ hi) hnew

end Invariance

/-- The rows of `s` are rows of `t`, and their states have only moved along edges. -/
def Moved (s t : Delivery ι) : Prop :=
  ∀ i r, s.outbox.rows i = some r → ∃ r', t.outbox.rows i = some r' ∧
    Relation.ReflTransGen ReconciliationState.Edge r.reconciliationState r'.reconciliationState

theorem run_moved {s t : Delivery ι} (h : Relation.ReflTransGen Step s t) : Moved s t := by
  refine @Runs.run_related _ (fun _ => True) Step s t Moved (fun s i r hr => ⟨r, hr, .refl⟩) ?_
    (fun _ _ _ _ => trivial) ?_ h trivial
  · intro s t u hst htu i r hr
    obtain ⟨r', hr', hmoves⟩ := hst i r hr
    obtain ⟨r'', hr'', hmoves'⟩ := htu i r' hr'
    exact ⟨r'', hr'', hmoves.trans hmoves'⟩
  · intro s t _ hst i r hr
    obtain ⟨r', hr', hmoves⟩ := row_moves hst hr
    refine ⟨r', hr', ?_⟩
    rcases hmoves with heq | hedge
    · rw [heq]
    · exact .single hedge

/-- At-most-once send. In every reachable state no row was claimed or sent twice, only claimed rows
were sent, and a row is published exactly when it is acknowledged. From there on the states of
rows move along edges only, never back to `NONE`, and a row that is claimed is neither published nor
dead-lettered, nor is its outcome unknown. -/
theorem outbox_at_most_one_send {s : Delivery ι} (hs : Runs.Reachable Initial Step s) :
    s.claims.Nodup ∧ s.sends.Nodup ∧ s.sends ⊆ s.claims ∧
      (∀ i r, s.outbox.rows i = some r → (r.publishedAt.isSome ↔ r.reconciliationState = .acknowledged)) ∧
      (∀ t, Relation.ReflTransGen Step s t → ∀ i r, s.outbox.rows i = some r →
        ∃ r', t.outbox.rows i = some r' ∧
          Relation.ReflTransGen ReconciliationState.Edge r.reconciliationState r'.reconciliationState ∧
          (r.reconciliationState ≠ .none → r'.reconciliationState ≠ .none)) ∧
      ∀ t, Step s t → ∀ i ∈ t.claims, i ∉ s.claims → ∃ r, s.outbox.rows i = some r ∧
        r.publishedAt = none ∧ r.deadLetteredAt = none ∧ r.reconciliationState = .none := by
  have hinv : Invariant s := hs.invariant (fun _ h => h.invariant) fun _ _ hs h => hs.step h
  refine ⟨hinv.claims_nodup, hinv.sends_nodup, hinv.sends_subset, hinv.consistent, fun t hst i r hr => ?_,
    fun t hst i hi hnew => ?_⟩
  · obtain ⟨r', hr', hmoves⟩ := run_moved hst i r hr
    exact ⟨r', hr', hmoves, edges_ne_none hmoves⟩
  · obtain ⟨r, hr, hclaimable⟩ := newly_claimed hst hi hnew
    exact ⟨r, hr, hclaimable.unresolved.1, hclaimable.unresolved.2, hclaimable.state⟩

section Example

def examplePayload : PythonJson.PyJson := .obj [("message_id", .str "m"), ("x", .num (.int 1))]

def exampleRow : OutboxRow :=
  newOutboxRow "m" "orders" ((Jsonb.jsonbIn (canonicalPayload examplePayload).1).getD .null)
    (canonicalPayload examplePayload).2 "risk" 0

def exampleOutbox : Outbox := Outbox.empty.insert exampleRow rfl

def exampleStart : Delivery Unit := ⟨exampleOutbox, fun _ => .stopped, [], []⟩

theorem exampleStart_initial : Initial exampleStart := by
  refine ⟨fun i r hr => ?_, fun _ => rfl, rfl, rfl⟩
  have hr : (if i = 1 then some exampleRow else none) = some r := hr
  rcases eq_or_ne i 1 with rfl | hi
  · obtain rfl := Option.some.inj hr
    exact ⟨rfl, rfl⟩
  · rw [if_neg hi] at hr
    cases hr

theorem ok_of_map {ε α β γ : Type} {x : Except ε (α × β)} {f : β → γ} {v : γ}
    (h : x.toOption.map (fun y => f y.2) = some v) : ∃ a b, x = .ok (a, b) ∧ f b = v := by
  cases x with
  | error e => cases h
  | ok y => exact ⟨y.1, y.2, rfl, Option.some.inj h⟩

theorem exampleClaim : ∃ o record, claimOutbox "w" "risk" "u" 100 30000000 (fun _ => false) 7 exampleOutbox =
    .ok (o, [record]) ∧ record.id = 1 ∧ prePublishHashMatches record = true := by
  obtain ⟨o, records, hok, hrecords⟩ := ok_of_map (f := fun records => records.map fun record =>
      (record.id, prePublishHashMatches record)) (v := [(1, true)])
    (x := claimOutbox "w" "risk" "u" 100 30000000 (fun _ => false) 7 exampleOutbox) (by decide +kernel)
  obtain ⟨record, rfl, hrecord⟩ := List.map_eq_singleton_iff.mp hrecords
  exact ⟨o, record, hok, congrArg Prod.fst hrecord, congrArg Prod.snd hrecord⟩

/-- A dispatcher starts, claims the row and sends it. -/
theorem outbox_at_most_one_send_example : ∃ s : Delivery Unit, s.claims = [1] ∧ s.sends = [1] ∧
    s.sends.Nodup ∧ ∀ i r, s.outbox.rows i = some r →
      (r.publishedAt.isSome ↔ r.reconciliationState = .acknowledged) := by
  obtain ⟨o, record, hclaim, hid, hhash⟩ := exampleClaim
  have hstart := (Runs.Reachable.start exampleStart_initial).next (Step.startDispatcher () "w" rfl)
  have hclaimed := hstart.next (Step.claimOutbox () rfl hclaim)
  have hsent := hclaimed.next (Step.publish () rfl hhash)
  obtain ⟨-, hsends, -, hconsistent, -⟩ := outbox_at_most_one_send hsent
  exact ⟨_, by simp [exampleStart, setProcess, setOutbox, hid],
    by simp [exampleStart, setProcess, setOutbox, hid], hsends, hconsistent⟩

end Example

end Delivery

end KairosPersistence
