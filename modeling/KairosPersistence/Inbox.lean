import KairosPersistence.OutboxRepository

/-!
The table `message_inbox` and the operations of `AuditRepository` on one of its
rows, which belongs to a consumer and a message id.
-/

namespace KairosPersistence

open PythonJson PythonText

inductive InboxStatus where
  | processing
  | completed
  | failed
  deriving DecidableEq, Repr

structure InboxRow where
  topic : String
  status : InboxStatus
  attempts : ℕ
  leaseUntil : Timestamp
  result : Option PyJson
  error : Option String
  payloadSha256 : Option String
  attempts_pos : 0 < attempts

structure InboxKey where
  consumer : String
  messageId : String
  deriving DecidableEq, Repr

structure InboxClaim where
  claimed : Bool
  duplicateCompleted : Bool
  attempts : ℕ
  deriving DecidableEq, Repr

inductive InboxError where
  | messageIdentityConflict (messageId : String)
  deriving DecidableEq, Repr

/-- A failed row, or one whose lease has expired. -/
def InboxRow.Reclaimable (now : Timestamp) (r : InboxRow) : Prop :=
  r.status = .failed ∨ r.status = .processing ∧ r.leaseUntil < now

instance (now : Timestamp) (r : InboxRow) : Decidable (r.Reclaimable now) :=
  inferInstanceAs (Decidable (r.status = .failed ∨ r.status = .processing ∧ r.leaseUntil < now))

/-- The `INSERT … ON CONFLICT DO UPDATE` of `_claim_message`, and the row it returns. -/
def upsertClaim (topic : String) (lease : Timestamp) (payloadSha256 : Option String) (now : Timestamp) :
    Option InboxRow → Option InboxRow
  | none => some ⟨topic, .processing, 1, now + lease, none, none, payloadSha256, Nat.one_pos⟩
  | some r =>
    if r.Reclaimable now then
      some { r with
        status := .processing
        attempts := r.attempts + 1
        leaseUntil := now + lease
        error := none
        attempts_pos := Nat.succ_pos _ }
    else none

/-- `_claim_message`: the row afterwards and the claim. On an error the transaction is rolled back. -/
def claimMessage (messageId topic : String) (lease : Timestamp) (payloadSha256 : Option String) (now : Timestamp)
    (row : Option InboxRow) : Except InboxError (Option InboxRow × InboxClaim) :=
  match upsertClaim topic lease payloadSha256 now row with
  | some r =>
    if r.topic ≠ topic ∨ r.payloadSha256 ≠ payloadSha256 then .error (.messageIdentityConflict messageId)
    else .ok (some r, ⟨true, false, r.attempts⟩)
  | none =>
    match row with
    | none => .ok (none, ⟨false, false, 0⟩)
    | some existing =>
      if existing.topic ≠ topic ∨ existing.payloadSha256 ≠ payloadSha256 then
        .error (.messageIdentityConflict messageId)
      else .ok (row, ⟨false, existing.status = .completed, 0⟩)

/-- `complete_message`: the row afterwards, and whether it was updated. -/
def completeMessage (result : Option PyJson) : Option InboxRow → Option InboxRow × Bool
  | none => (none, false)
  | some r =>
    if r.status = .processing then (some { r with status := .completed, result := result }, true)
    else (some r, false)

/-- `fail_message`. -/
def failMessage (error : String) : Option InboxRow → Option InboxRow × Bool
  | none => (none, false)
  | some r =>
    if r.status = .processing then (some { r with status := .failed, error := some (sliceTo 4000 error) }, true)
    else (some r, false)

/-- The row is there and was completed. -/
def Completed (row : Option InboxRow) : Prop := ∃ r, row = some r ∧ r.status = .completed

section Operations

variable {messageId topic : String} {lease now : Timestamp} {payloadSha256 : Option String} {row row' : Option InboxRow}

/-- A row with another topic or digest makes the claim fail. -/
theorem claimMessage_conflict {r : InboxRow} (h : r.topic ≠ topic ∨ r.payloadSha256 ≠ payloadSha256) :
    claimMessage messageId topic lease payloadSha256 now (some r) = .error (.messageIdentityConflict messageId) := by
  by_cases hr : r.Reclaimable now
  · simp only [claimMessage, upsertClaim, if_pos hr]
    exact if_pos h
  · simp only [claimMessage, upsertClaim, if_neg hr]
    exact if_pos h

/-- A claimed row is being processed, and it was not completed. -/
theorem claimMessage_claimed {claim : InboxClaim}
    (h : claimMessage messageId topic lease payloadSha256 now row = .ok (row', claim)) (hc : claim.claimed = true) :
    ¬Completed row ∧ ∃ r, row' = some r ∧ r.status = .processing ∧ r.topic = topic ∧
      r.payloadSha256 = payloadSha256 := by
  cases row with
  | none =>
    simp only [claimMessage, upsertClaim] at h
    split_ifs at h
    obtain ⟨rfl, rfl⟩ := Prod.mk.inj (Except.ok.inj h)
    refine ⟨?_, _, rfl, rfl, rfl, rfl⟩
    rintro ⟨_, hr, -⟩
    cases hr
  | some r =>
    by_cases hr : r.Reclaimable now
    · simp only [claimMessage, upsertClaim, if_pos hr] at h
      split_ifs at h with hconflict
      obtain ⟨rfl, rfl⟩ := Prod.mk.inj (Except.ok.inj h)
      rw [not_or, not_not, not_not] at hconflict
      refine ⟨?_, _, rfl, rfl, hconflict.1, hconflict.2⟩
      rintro ⟨r', ⟨⟩, hcompleted⟩
      rcases hr with hfailed | ⟨hprocessing, -⟩
      · rw [hfailed] at hcompleted
        cases hcompleted
      · rw [hprocessing] at hcompleted
        cases hcompleted
    · simp only [claimMessage, upsertClaim, if_neg hr] at h
      split_ifs at h
      obtain ⟨-, rfl⟩ := Prod.mk.inj (Except.ok.inj h)
      cases hc

/-- Without a claim the row stays; it is reported as a duplicate if it was completed. -/
theorem claimMessage_unclaimed {claim : InboxClaim}
    (h : claimMessage messageId topic lease payloadSha256 now row = .ok (row', claim)) (hc : claim.claimed = false) :
    row' = row ∧ (claim.duplicateCompleted = true → Completed row) := by
  cases row with
  | none =>
    simp only [claimMessage, upsertClaim] at h
    split_ifs at h
    obtain ⟨-, rfl⟩ := Prod.mk.inj (Except.ok.inj h)
    cases hc
  | some r =>
    by_cases hr : r.Reclaimable now
    · simp only [claimMessage, upsertClaim, if_pos hr] at h
      split_ifs at h
      obtain ⟨-, rfl⟩ := Prod.mk.inj (Except.ok.inj h)
      cases hc
    · simp only [claimMessage, upsertClaim, if_neg hr] at h
      split_ifs at h
      obtain ⟨rfl, rfl⟩ := Prod.mk.inj (Except.ok.inj h)
      exact ⟨rfl, fun hdup => ⟨r, rfl, of_decide_eq_true hdup⟩⟩

theorem completeMessage_true {result : Option PyJson} (h : completeMessage result row = (row', true)) :
    Completed row' := by
  cases row with
  | none => cases h
  | some r =>
    simp only [completeMessage] at h
    split_ifs at h
    · obtain ⟨rfl, -⟩ := Prod.mk.inj h
      exact ⟨_, rfl, rfl⟩
    · cases h

theorem failMessage_true {error : String} (h : failMessage error row = (row', true)) :
    ∃ r, row' = some r ∧ r.status = .failed := by
  cases row with
  | none => cases h
  | some r =>
    simp only [failMessage] at h
    split_ifs at h
    · obtain ⟨rfl, -⟩ := Prod.mk.inj h
      exact ⟨_, rfl, rfl⟩
    · cases h

end Operations

end KairosPersistence
