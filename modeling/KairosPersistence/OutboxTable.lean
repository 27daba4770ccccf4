import KairosPersistence.CanonicalPayload
import KairosPersistence.PythonText

/-!
The table `message_outbox` and its row updates.
-/

namespace KairosPersistence

open PythonText (Timestamp btrimEmpty)

inductive ReconciliationState where
  | none
  | publishing
  | publishOutcomeUnknown
  | acknowledged
  deriving DecidableEq, Repr

/-- A reconciliation id the table accepts outside the state `NONE`. -/
abbrev ReconciliationId := { k : String // btrimEmpty k = false }

/-- A row of `message_outbox`. Its `id` is its place in the table. The two last fields are the
constraints `message_outbox_lease_pair` and `message_outbox_reconciliation_identity`. -/
structure OutboxRow where
  messageId : String
  topic : String
  payload : JsonColumn
  payloadSha256 : Option String
  producer : String
  publishedAt : Option Timestamp
  publishAttempts : ℕ
  lastError : Option String
  availableAt : Timestamp
  leaseUntil : Option Timestamp
  leaseOwner : Option String
  deadLetteredAt : Option Timestamp
  reconciliationState : ReconciliationState
  reconciliationId : Option String
  reconciliationStartedAt : Option Timestamp
  reconciliationOutcomeAt : Option Timestamp
  lease_pair : leaseUntil.isSome = leaseOwner.isSome
  reconciliation_identity :
    reconciliationState = .none ∨ ∃ k, reconciliationId = some k ∧ btrimEmpty k = false

namespace OutboxRow

theorem no_lease : (none : Option Timestamp).isSome = (none : Option String).isSome := rfl

/-- Neither published nor dead-lettered. -/
def Unresolved (r : OutboxRow) : Prop := r.publishedAt = none ∧ r.deadLetteredAt = none

instance (r : OutboxRow) : Decidable r.Unresolved :=
  inferInstanceAs (Decidable (r.publishedAt = none ∧ r.deadLetteredAt = none))

def leaseExpired (now : Timestamp) (r : OutboxRow) : Bool := r.leaseUntil.any (· < now)

def available (now : Timestamp) (r : OutboxRow) : Bool := r.availableAt ≤ now

/-- The claim of a row: leased, in state `PUBLISHING`, with one more attempt. -/
def claim (owner : String) (reconciliationId : ReconciliationId) (lease now : Timestamp) (r : OutboxRow) :
    OutboxRow :=
  { r with
    leaseOwner := some owner
    leaseUntil := some (now + lease)
    publishAttempts := r.publishAttempts + 1
    reconciliationState := .publishing
    reconciliationId := some reconciliationId.1
    reconciliationStartedAt := some now
    reconciliationOutcomeAt := none
    lastError := none
    lease_pair := rfl
    reconciliation_identity := Or.inr ⟨_, rfl, reconciliationId.2⟩ }

/-- The acknowledgement of a row in state `PUBLISHING`. -/
def acknowledge (now : Timestamp) (r : OutboxRow) (h : r.reconciliationState = .publishing) : OutboxRow :=
  { r with
    publishedAt := some now
    leaseUntil := none
    leaseOwner := none
    lastError := none
    reconciliationState := .acknowledged
    reconciliationOutcomeAt := some now
    lease_pair := rfl
    reconciliation_identity := Or.inr (r.reconciliation_identity.resolve_left (by simp [h])) }

/-- The quarantine of a row in state `PUBLISHING`. -/
def markUnknown (error : String) (now : Timestamp) (r : OutboxRow) (h : r.reconciliationState = .publishing) :
    OutboxRow :=
  { r with
    leaseUntil := none
    leaseOwner := none
    lastError := some error
    reconciliationState := .publishOutcomeUnknown
    reconciliationOutcomeAt := some now
    lease_pair := rfl
    reconciliation_identity := Or.inr (r.reconciliation_identity.resolve_left (by simp [h])) }

/-- The quarantine of a row with an expired lease. -/
def quarantine (evidence : String) (reconciliationId : ReconciliationId) (now : Timestamp) (r : OutboxRow) :
    OutboxRow :=
  { r with
    leaseUntil := none
    leaseOwner := none
    lastError := some evidence
    reconciliationState := .publishOutcomeUnknown
    reconciliationId := some reconciliationId.1
    reconciliationStartedAt := some now
    reconciliationOutcomeAt := some now
    lease_pair := rfl
    reconciliation_identity := Or.inr ⟨_, rfl, reconciliationId.2⟩ }

/-- The resolution of a row of unknown outcome. -/
def resolve (resolutionEvidence : String) (now : Timestamp) (r : OutboxRow)
    (h : r.reconciliationState = .publishOutcomeUnknown) : OutboxRow :=
  { r with
    publishedAt := some now
    reconciliationState := .acknowledged
    lastError := some resolutionEvidence
    reconciliation_identity := Or.inr (r.reconciliation_identity.resolve_left (by simp [h])) }

/-- The failure of a leased row in state `NONE`. -/
def fail (error : String) (retryAfter : Timestamp) (maxAttempts : ℤ) (now : Timestamp) (r : OutboxRow) : OutboxRow :=
  { r with
    lastError := some error
    leaseUntil := none
    leaseOwner := none
    availableAt := now + retryAfter
    deadLetteredAt := if maxAttempts ≤ r.publishAttempts then some now else none
    lease_pair := rfl }

end OutboxRow

/-- The table: rows by id, and the next value of its sequence. Message ids are unique. -/
structure Outbox where
  rows : ℕ → Option OutboxRow
  nextId : ℕ
  fresh : ∀ i, nextId ≤ i → rows i = none
  unique : ∀ i j r s, rows i = some r → rows j = some s → r.messageId = s.messageId → i = j

namespace Outbox

def empty : Outbox := ⟨fun _ => none, 1, fun _ _ => rfl, fun _ _ _ _ h => by simp at h⟩

/-- `UPDATE message_outbox SET … WHERE id = $1 AND …`: `f` is the row to be written, if the
conditions hold. Also returns whether a row was updated. -/
def update (o : Outbox) (id : ℕ) (f : OutboxRow → Option OutboxRow)
    (hf : ∀ r r', f r = some r' → r'.messageId = r.messageId) : Outbox × Bool :=
  match h : (o.rows id).bind f with
  | none => (o, false)
  | some r' =>
    ({ o with
      rows := fun i => if i = id then some r' else o.rows i
      fresh := fun i hi => by
        have hid : i ≠ id := fun he => by simp [he ▸ o.fresh i hi] at h
        rw [if_neg hid, o.fresh i hi]
      unique := by
        obtain ⟨r, hr, hfr⟩ := Option.bind_eq_some_iff.mp h
        have hm := hf r r' hfr
        intro i j s t hs ht hst
        split_ifs at hs ht with hi hj hj
        · rw [hi, hj]
        · simp only [Option.some.injEq] at hs
          exact hi.trans (o.unique id j r t hr ht (by rw [← hm, hs, hst]))
        · simp only [Option.some.injEq] at ht
          exact (o.unique i id s r hs hr (by rw [← hm, ht, hst])).trans hj.symm
        · exact o.unique i j s t hs ht hst }, true)

/-- The id of a row with a given message id. -/
def findMessage (o : Outbox) (messageId : String) : Option ℕ :=
  (List.range o.nextId).find? fun i => (o.rows i).any (·.messageId = messageId)

theorem findMessage_eq_none {o : Outbox} {messageId : String} (h : o.findMessage messageId = none) {i : ℕ}
    {r : OutboxRow} (hr : o.rows i = some r) : r.messageId ≠ messageId := by
  have hi : i < o.nextId := by
    by_contra hle
    rw [o.fresh i (not_lt.mp hle)] at hr
    exact absurd hr (by simp)
  have hall := List.find?_eq_none.mp h i (List.mem_range.mpr hi)
  simpa [hr] using hall

theorem findMessage_eq_some {o : Outbox} {messageId : String} {i : ℕ} (h : o.findMessage messageId = some i) :
    ∃ r, o.rows i = some r ∧ r.messageId = messageId := by
  have hany := List.find?_some h
  simpa [Option.any_eq_true] using hany

/-- `INSERT INTO message_outbox`, for a message id that is not in the table. -/
def insert (o : Outbox) (r : OutboxRow) (h : o.findMessage r.messageId = none) : Outbox where
  rows i := if i = o.nextId then some r else o.rows i
  nextId := o.nextId + 1
  fresh i hi := by rw [if_neg (by omega), o.fresh i (by omega)]
  unique i j s t hs ht hst := by
    split_ifs at hs ht with hi hj hj
    · rw [hi, hj]
    · simp only [Option.some.injEq] at hs
      exact absurd (hs ▸ hst.symm) (findMessage_eq_none h ht)
    · simp only [Option.some.injEq] at ht
      exact absurd (ht ▸ hst) (findMessage_eq_none h hs)
    · exact o.unique i j s t hs ht hst

/-- A sequence value that no row takes. -/
def burn (o : Outbox) : Outbox :=
  { o with nextId := o.nextId + 1, fresh := fun i hi => o.fresh i (by omega) }

/-- An earlier row of the producer that is neither published nor dead-lettered. -/
def HasUnpublishedPredecessor (rows : ℕ → Option OutboxRow) (producer : String) (id : ℕ) : Prop :=
  ∃ j < id, (rows j).any fun r => r.producer = producer ∧ r.Unresolved

instance (rows : ℕ → Option OutboxRow) (producer : String) (id : ℕ) :
    Decidable (HasUnpublishedPredecessor rows producer id) :=
  inferInstanceAs (Decidable (∃ j < id, (rows j).any fun r => r.producer = producer ∧ r.Unresolved))

section Update

variable {o : Outbox} {id : ℕ} {f : OutboxRow → Option OutboxRow}
  {hf : ∀ r r', f r = some r' → r'.messageId = r.messageId}

@[simp] theorem nextId_update : (o.update id f hf).1.nextId = o.nextId := by
  unfold update
  split <;> rfl

variable (o id f hf) in
/-- An update writes one row, or nothing. -/
theorem rows_update (i : ℕ) : (o.update id f hf).1.rows i = o.rows i ∨
    i = id ∧ ∃ r r', o.rows id = some r ∧ f r = some r' ∧ (o.update id f hf).1.rows i = some r' ∧
      (o.update id f hf).2 = true := by
  unfold update
  split
  · exact Or.inl rfl
  · rename_i r' h
    obtain ⟨r, hr, hfr⟩ := Option.bind_eq_some_iff.mp h
    by_cases hi : i = id
    · exact Or.inr ⟨hi, r, r', hr, hfr, if_pos hi, rfl⟩
    · exact Or.inl (if_neg hi)

theorem update_false (h : (o.update id f hf).2 = false) : (o.update id f hf).1 = o := by
  unfold update at h ⊢
  split at h
  · rfl
  · exact absurd h (by simp)

theorem update_true (h : (o.update id f hf).2 = true) :
    ∃ r r', o.rows id = some r ∧ f r = some r' ∧
      (o.update id f hf).1.rows = fun i => if i = id then some r' else o.rows i := by
  unfold update at h ⊢
  split at h
  · exact absurd h (by simp)
  · rename_i r' hr'
    obtain ⟨r, hr, hfr⟩ := Option.bind_eq_some_iff.mp hr'
    exact ⟨r, r', hr, hfr, rfl⟩

end Update

end Outbox

end KairosPersistence
