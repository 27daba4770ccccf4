import KairosPersistence.OfflineOutbox
import KairosPersistence.Transactions

/-!
What the outbox operations write: every operation claims one row, or makes
only writes that claim none.
-/

namespace KairosPersistence

open PythonText (Timestamp)
open Transactions (bind_ok)

/-- The moves of `reconciliation_state`. -/
inductive ReconciliationState.Edge : ReconciliationState → ReconciliationState → Prop
  | claim : Edge .none .publishing
  | quarantine : Edge .none .publishOutcomeUnknown
  | acknowledge : Edge .publishing .acknowledged
  | markUnknown : Edge .publishing .publishOutcomeUnknown
  | resolve : Edge .publishOutcomeUnknown .acknowledged

/-- A write that claims no row. -/
inductive OutboxRow.Write : OutboxRow → OutboxRow → Prop
  | acknowledge {r} (now : Timestamp) (h : r.reconciliationState = .publishing) (hr : r.Unresolved) :
    Write r (r.acknowledge now h)
  | markUnknown {r} (error : String) (now : Timestamp) (h : r.reconciliationState = .publishing)
    (hr : r.Unresolved) : Write r (r.markUnknown error now h)
  | quarantine {r} (evidence : String) (reconciliationId : ReconciliationId) (now : Timestamp)
    (h : r.reconciliationState = .none) (hr : r.Unresolved) : Write r (r.quarantine evidence reconciliationId now)
  | resolve {r} (resolutionEvidence : String) (now : Timestamp)
    (h : r.reconciliationState = .publishOutcomeUnknown) (hr : r.Unresolved) :
    Write r (r.resolve resolutionEvidence now h)
  | fail {r} (error : String) (retryAfter : Timestamp) (maxAttempts : ℤ) (now : Timestamp)
    (h : r.reconciliationState = .none) (hp : r.publishedAt = none) (hl : r.leaseOwner.isSome) :
    Write r (r.fail error retryAfter maxAttempts now)
  | setPayloadSha256 {r} (payloadSha256 : String) : Write r (setPayloadSha256 payloadSha256 r)

/-- The state of a row stays or moves along an edge. -/
def ReconciliationState.Moves (s t : ReconciliationState) : Prop := t = s ∨ Edge s t

/-- `published_at` is set exactly in the state `ACKNOWLEDGED`. -/
def OutboxRow.Consistent (r : OutboxRow) : Prop :=
  r.publishedAt.isSome ↔ r.reconciliationState = .acknowledged

namespace OutboxRow

variable {r r' : OutboxRow}

theorem Write.moves (h : r.Write r') : r.reconciliationState.Moves r'.reconciliationState := by
  cases h with
  | acknowledge now h => exact Or.inr (h ▸ .acknowledge)
  | markUnknown error now h => exact Or.inr (h ▸ .markUnknown)
  | quarantine evidence k now h => exact Or.inr (h ▸ .quarantine)
  | resolve evidence now h => exact Or.inr (h ▸ .resolve)
  | fail | setPayloadSha256 => exact Or.inl rfl

theorem Write.consistent (h : r.Write r') (hr : r.Consistent) : r'.Consistent := by
  cases h with
  | acknowledge | resolve => simp [Consistent, OutboxRow.acknowledge, OutboxRow.resolve]
  | markUnknown error now h hu => simp [Consistent, OutboxRow.markUnknown, hu.1]
  | quarantine evidence k now h hu => simp [Consistent, OutboxRow.quarantine, hu.1]
  | fail error retryAfter maxAttempts now h hp => simp [Consistent, OutboxRow.fail, hp, h]
  | setPayloadSha256 => exact hr

end OutboxRow

theorem OutboxRow.Write.messageId {r r' : OutboxRow} (h : r.Write r') : r'.messageId = r.messageId := by
  cases h <;> rfl

/-- A row as its claim needs it. -/
structure OutboxRow.Claimable (r : OutboxRow) : Prop where
  unresolved : r.Unresolved
  state : r.reconciliationState = .none

namespace Outbox

/-- No row is claimed or inserted: each is as it was, or written in another way. -/
def Written (o o' : Outbox) : Prop :=
  ∀ i, o'.rows i = o.rows i ∨ ∃ r r', o.rows i = some r ∧ o'.rows i = some r' ∧ r.Write r'

/-- No row is claimed: each is as it was, written in another way, or new. -/
def Quiet (o o' : Outbox) : Prop :=
  ∀ i, o'.rows i = o.rows i ∨ (∃ r r', o.rows i = some r ∧ o'.rows i = some r' ∧ r.Write r') ∨
    (o.rows i = none ∧ ∃ messageId topic payload payloadSha256 producer now,
      o'.rows i = some (newOutboxRow messageId topic payload payloadSha256 producer now))

/-- One row is claimed, and all others are as they were. -/
def Claimed (o : Outbox) (id : ℕ) (o' : Outbox) : Prop :=
  (∃ r owner reconciliationId lease now, o.rows id = some r ∧ r.Claimable ∧
    ¬HasUnpublishedPredecessor o.rows r.producer id ∧
    o'.rows id = some (r.claim owner reconciliationId lease now)) ∧ ∀ i ≠ id, o'.rows i = o.rows i

theorem Quiet.refl (o : Outbox) : Quiet o o := fun _ => Or.inl rfl

theorem Written.refl (o : Outbox) : Written o o := fun _ => Or.inl rfl

theorem Written.quiet {o o' : Outbox} (h : Written o o') : Quiet o o' := by
  intro i
  rcases h i with hi | hi
  · exact Or.inl hi
  · exact Or.inr (Or.inl hi)

/-- A call that returns the table it was given. -/
theorem written_of_ok {ε β : Type} {o o' : Outbox} {x y : β}
    (h : (.ok (o, x) : Except ε (Outbox × β)) = .ok (o', y)) : Written o o' := by
  obtain rfl : o = o' := congrArg Prod.fst (Except.ok.inj h)
  exact Written.refl o

theorem written_update {o : Outbox} {id : ℕ} {f : OutboxRow → Option OutboxRow}
    (h : ∀ r r', f r = some r' → r.Write r') :
    Written o (o.update id f fun r r' hr => (h r r' hr).messageId).1 := by
  intro i
  rcases rows_update o id f (fun r r' hr => (h r r' hr).messageId) i with hi | ⟨rfl, r, r', hr, hfr, hi, -⟩
  · exact Or.inl hi
  · exact Or.inr ⟨r, r', hr, hi, h r r' hfr⟩

theorem written_of_update {ε β : Type} {o o' : Outbox} {id : ℕ} {f : OutboxRow → Option OutboxRow} {x y : β}
    (hw : ∀ r r', f r = some r' → r.Write r')
    (h : (.ok ((o.update id f fun r r' hr => (hw r r' hr).messageId).1, x) : Except ε (Outbox × β)) =
      .ok (o', y)) : Written o o' := by
  obtain rfl : _ = o' := congrArg Prod.fst (Except.ok.inj h)
  exact written_update hw

section Dispatch

variable {o o' : Outbox}

theorem markPublished_written (record : OutboxRecord) (workerId : String) (now : Timestamp) :
    Written o (markPublished record workerId now o).1 := by
  refine written_update fun r r' h => ?_
  split_ifs at h with hs hc
  obtain rfl := Option.some.inj h
  obtain ⟨-, -, -, -, -, -, -, hp, hd⟩ := hc
  exact .acknowledge now hs ⟨hp, hd⟩

theorem markOutboxPublishOutcomeUnknown_written {record : OutboxRecord} {workerId reasonCode : String}
    {now : Timestamp} {updated : Bool}
    (h : markOutboxPublishOutcomeUnknown record workerId reasonCode now o = .ok (o', updated)) : Written o o' := by
  unfold markOutboxPublishOutcomeUnknown at h
  split_ifs at h
  obtain rfl : _ = o' := congrArg Prod.fst (Except.ok.inj h)
  refine written_update fun r r' h => ?_
  split_ifs at h with hs hc
  obtain rfl := Option.some.inj h
  obtain ⟨-, -, -, -, -, -, -, hp, hd⟩ := hc
  exact .markUnknown _ now hs ⟨hp, hd⟩

theorem failOutbox_written (rowId : ℕ) (workerId error : String) (retryAfter : Timestamp) (maxAttempts : ℤ)
    (now : Timestamp) : Written o (failOutbox rowId workerId error retryAfter maxAttempts now o).1 := by
  refine written_update fun r r' h => ?_
  split_ifs at h with hc
  obtain rfl := Option.some.inj h
  exact .fail _ retryAfter maxAttempts now hc.2.2 hc.2.1 (by simp [hc.1])

theorem enqueueOutbox_quiet {messageId topic payload payloadSha256 producer : String} {now : Timestamp}
    {inserted : Bool} (h : enqueueOutbox messageId topic payload payloadSha256 producer now o = .ok (o', inserted)) :
    Quiet o o' := by
  unfold enqueueOutbox at h
  split_ifs at h
  split at h
  · cases h
  · rename_i column _
    split at h
    · rename_i hfind
      obtain rfl : _ = o' := congrArg Prod.fst (Except.ok.inj h)
      intro i
      by_cases hi : i = o.nextId
      · exact Or.inr (Or.inr ⟨o.fresh i hi.ge, _, _, _, _, _, _, if_pos hi⟩)
      · exact Or.inl (if_neg hi)
    · rename_i j _
      split at h
      · cases h
      · split_ifs at h
        · obtain rfl : _ = o' := congrArg Prod.fst (Except.ok.inj h)
          refine Written.quiet (@written_update o.burn _ _ fun r r' hr => ?_)
          obtain rfl := Option.some.inj hr
          exact .setPayloadSha256 _
        · obtain rfl : _ = o' := congrArg Prod.fst (Except.ok.inj h)
          exact Quiet.refl o

/-- `claim_outbox` claims the first unresolved row of the producer, or nothing. -/
theorem claimOutbox_cases {workerId producer uuid : String} {limit : ℤ} {lease : Timestamp} {locked : ℕ → Bool}
    {now : Timestamp} {records : List OutboxRecord}
    (h : claimOutbox workerId producer uuid limit lease locked now o = .ok (o', records)) :
    (records = [] ∧ o' = o) ∨ ∃ record, records = [record] ∧ Claimed o record.id o' := by
  unfold claimOutbox at h
  split_ifs at h
  simp only at h
  split at h
  · obtain ⟨rfl, rfl⟩ := Prod.mk.inj (Except.ok.inj h)
    exact Or.inl ⟨rfl, rfl⟩
  · rename_i i rest hcandidates
    have hi : isCandidate producer now o.rows i := by
      have hmem := List.mem_of_mem_take (hcandidates ▸ List.mem_cons_self)
      simp only [List.mem_filter, Bool.and_eq_true] at hmem
      exact hmem.2.1
    simp only [isCandidate, Bool.and_eq_true, Option.any_eq_true, Bool.not_eq_true', decide_eq_true_eq,
      decide_eq_false_iff_not] at hi
    obtain ⟨⟨r, hr, hprod, hpub, hdead, hstate, -⟩, hpred⟩ := hi
    obtain ⟨rfl, rfl⟩ := Prod.mk.inj (Except.ok.inj h)
    split_ifs with hu
    · obtain ⟨s, r', hs, hclaim, hrows⟩ := update_true hu
      obtain rfl : s = r := Option.some.inj (hs.symm.trans hr)
      unfold claimDispatch at hclaim
      split_ifs at hclaim
      obtain rfl := Option.some.inj hclaim
      refine Or.inr ⟨toRecord i (dispatchId uuid).1 (s.claim workerId (dispatchId uuid) lease now), ?_, ?_⟩
      · simp [hrows]
      · refine ⟨⟨s, workerId, dispatchId uuid, lease, now, hr, ⟨⟨hpub, hdead⟩, hstate⟩, ?_, ?_⟩, fun j hj => ?_⟩
        · rw [hprod]
          exact hpred
        · rw [hrows]
          exact if_pos rfl
        · rw [hrows]
          exact if_neg hj
    · exact Or.inl ⟨rfl, update_false (by simpa using hu)⟩

end Dispatch

section Offline

variable {o o' : Outbox}

/-- What an accepted exact row satisfies. -/
theorem validateExactOfflineOutbox_none {row : Option OutboxRow} {identity : OfflineOutboxIdentity}
    {auditRows : List AuditRow} {predecessor : Bool} {leaseRequirement : LeaseRequirement}
    {requireState requirePredecessor requireAvailable : Bool} {now : Timestamp}
    (h : validateExactOfflineOutbox row identity auditRows predecessor leaseRequirement requireState
      requirePredecessor requireAvailable now = none) :
    ∃ r, row = some r ∧ r.producer = identity.producer ∧ r.Unresolved ∧
      (requireState → r.reconciliationState = .none) ∧ (requirePredecessor → predecessor = false) := by
  unfold validateExactOfflineOutbox at h
  split at h
  · cases h
  · rename_i r
    split_ifs at h with hid hpub hdead hexp hclear havail hstate hpred
    refine ⟨r, rfl, hid.1, ⟨?_, ?_⟩, fun hreq => ?_, fun hreq => ?_⟩
    · simpa using hpub
    · simpa using hdead
    · simpa [hreq] using hstate
    · simpa [hreq] using hpred

/-- An exact claim claims the row of its identity, or nothing. -/
theorem claimOutboxExact_cases {leaseRequirement : LeaseRequirement} {identity : OfflineOutboxIdentity}
    {reconciliationId : String} {lease : Timestamp} {auditRows : List AuditRow} {now : Timestamp}
    {result : OfflineOutboxClaimResult}
    (h : claimOutboxExact leaseRequirement identity reconciliationId lease auditRows now o = .ok (o', result)) :
    ((∃ rejection, result = .inl rejection) ∧ o' = o) ∨
      ∃ claim, result = .inr claim ∧ claim.identity = identity ∧ Claimed o identity.id o' := by
  unfold claimOutboxExact at h
  split at h
  · cases h
  · rename_i k _
    split_ifs at h
    simp only at h
    split at h
    · obtain ⟨rfl, rfl⟩ := Prod.mk.inj (Except.ok.inj h)
      exact Or.inl ⟨⟨_, rfl⟩, rfl⟩
    · rename_i hvalid
      obtain ⟨r, hr, hprod, hunresolved, hstate, hpred⟩ := validateExactOfflineOutbox_none hvalid
      split at h
      · rename_i hnone
        obtain ⟨rfl, rfl⟩ := Prod.mk.inj (Except.ok.inj h)
        refine Or.inl ⟨⟨_, rfl⟩, update_false ?_⟩
        by_contra hu
        rw [Bool.not_eq_false] at hu
        rw [if_pos hu, hr] at hnone
        cases hnone
      · rename_i row hsome
        split_ifs at hsome with hu
        obtain ⟨rfl, rfl⟩ := Prod.mk.inj (Except.ok.inj h)
        obtain ⟨s, r', hs, hclaim, hrows⟩ := update_true hu
        obtain rfl : s = r := Option.some.inj (hs.symm.trans hr)
        unfold claimExact at hclaim
        split_ifs at hclaim
        obtain rfl := Option.some.inj hclaim
        refine Or.inr ⟨_, rfl, rfl, ⟨s, k.1, k, lease, now, hr, ⟨hunresolved, hstate rfl⟩, ?_, ?_⟩, fun j hj => ?_⟩
        · rw [hprod]
          simpa using hpred rfl
        · rw [hrows]
          exact if_pos rfl
        · rw [hrows]
          exact if_neg hj

theorem acknowledgeExactOutboxPublish_written {identity : OfflineOutboxIdentity} {reconciliationId : String}
    {now : Timestamp} {updated : Bool}
    (h : acknowledgeExactOutboxPublish identity reconciliationId now o = .ok (o', updated)) : Written o o' := by
  unfold acknowledgeExactOutboxPublish at h
  obtain ⟨k, -, h⟩ := bind_ok h
  refine written_of_update (fun r r' h => ?_) h
  split_ifs at h with hs hc
  obtain rfl := Option.some.inj h
  exact .acknowledge now hs hc.2.2

theorem markExactOutboxPublishOutcomeUnknown_written {identity : OfflineOutboxIdentity}
    {reconciliationId reason : String} {now : Timestamp} {updated : Bool}
    (h : markExactOutboxPublishOutcomeUnknown identity reconciliationId reason now o = .ok (o', updated)) :
    Written o o' := by
  unfold markExactOutboxPublishOutcomeUnknown at h
  obtain ⟨k, -, h⟩ := bind_ok h
  refine written_of_update (fun r r' h => ?_) h
  split_ifs at h with hs hc
  obtain rfl := Option.some.inj h
  exact .markUnknown _ now hs hc.2.2

theorem quarantineExpiredOutboxExact_written {identity : OfflineOutboxIdentity}
    {expiredLease : OfflineOutboxExpiredLease} {reconciliationId reason : String}
    {migrations : Option (List String)} {auditRows : List AuditRow} {now : Timestamp}
    {result : OfflineOutboxQuarantineResult}
    (h : quarantineExpiredOutboxExact identity expiredLease reconciliationId reason migrations auditRows now o =
      .ok (o', result)) : Written o o' := by
  unfold quarantineExpiredOutboxExact at h
  obtain ⟨k, -, h⟩ := bind_ok h
  obtain ⟨_, -, h⟩ := bind_ok h
  obtain ⟨evidence, -, h⟩ := bind_ok h
  simp only at h
  split at h
  · exact written_of_ok h
  split at h
  · exact written_of_ok h
  · exact written_of_ok h
  split at h
  · split at h
    · exact written_of_ok h
    · exact written_of_ok h
  -- the state, the availability, the expiry and the lease may each refuse the row
  iterate 4 (split at h; · exact written_of_ok h)
  have hwritten (r r' : OutboxRow) (h : quarantineExact identity expiredLease evidence k now r = some r') : r.Write r' := by
    unfold quarantineExact at h
    split_ifs at h with hc
    obtain rfl := Option.some.inj h
    exact .quarantine _ k now hc.2.2.2.2.2.2.2 ⟨hc.2.2.2.1, hc.2.2.2.2.1⟩
  split at h
  · exact written_of_update hwritten h
  · obtain ⟨_, -, h⟩ := bind_ok h
    exact written_of_update hwritten h

theorem resolveUnknownOutboxFromRedisEvidence_written {identity : OfflineOutboxIdentity} {reconciliationId : String}
    {evidence : RedisAcceptanceEvidence} {migrations : Option (List String)} {auditRows : List AuditRow}
    {now : Timestamp} {result : OfflineOutboxTransportResolutionResult}
    (h : resolveUnknownOutboxFromRedisEvidence identity reconciliationId evidence migrations auditRows now o =
      .ok (o', result)) : Written o o' := by
  unfold resolveUnknownOutboxFromRedisEvidence at h
  obtain ⟨k, -, h⟩ := bind_ok h
  -- the evidence, the number of matches and the migration may each end the call
  iterate 4 (split at h; · exact written_of_ok h)
  split at h
  · exact written_of_ok h
  refine written_of_update (fun r r' h => ?_) h
  unfold resolveExact at h
  split_ifs at h with hs hc
  obtain rfl := Option.some.inj h
  exact .resolve _ now hs ⟨hc.2.2.1, hc.2.2.2.1⟩

end Offline

/-- A transaction of any client on rows that are there, other than a claim. -/
inductive ClientStep : Outbox → Outbox → Prop
  | markPublished {o} (record : OutboxRecord) (workerId : String) (now : Timestamp) :
    ClientStep o (markPublished record workerId now o).1
  | markUnknown {o o' record workerId reasonCode now updated}
    (h : markOutboxPublishOutcomeUnknown record workerId reasonCode now o = .ok (o', updated)) : ClientStep o o'
  | fail {o} (rowId : ℕ) (workerId error : String) (retryAfter : Timestamp) (maxAttempts : ℤ) (now : Timestamp) :
    ClientStep o (failOutbox rowId workerId error retryAfter maxAttempts now o).1
  | acknowledgeExact {o o' identity reconciliationId now updated}
    (h : acknowledgeExactOutboxPublish identity reconciliationId now o = .ok (o', updated)) : ClientStep o o'
  | markExactUnknown {o o' identity reconciliationId reason now updated}
    (h : markExactOutboxPublishOutcomeUnknown identity reconciliationId reason now o = .ok (o', updated)) :
    ClientStep o o'
  | quarantine {o o' identity expiredLease reconciliationId reason migrations auditRows now result}
    (h : quarantineExpiredOutboxExact identity expiredLease reconciliationId reason migrations auditRows now o =
      .ok (o', result)) : ClientStep o o'
  | resolve {o o' identity reconciliationId evidence migrations auditRows now result}
    (h : resolveUnknownOutboxFromRedisEvidence identity reconciliationId evidence migrations auditRows now o =
      .ok (o', result)) : ClientStep o o'

theorem ClientStep.written {o o' : Outbox} (h : ClientStep o o') : Written o o' := by
  cases h with
  | markPublished => exact markPublished_written _ _ _
  | markUnknown h => exact markOutboxPublishOutcomeUnknown_written h
  | fail => exact failOutbox_written _ _ _ _ _ _
  | acknowledgeExact h => exact acknowledgeExactOutboxPublish_written h
  | markExactUnknown h => exact markExactOutboxPublishOutcomeUnknown_written h
  | quarantine h => exact quarantineExpiredOutboxExact_written h
  | resolve h => exact resolveUnknownOutboxFromRedisEvidence_written h

end Outbox

end KairosPersistence
