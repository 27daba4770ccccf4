import KairosPersistence.OutboxTable

/-!
The outbox operations of `AuditRepository`. Each is one transaction on the
table; `now` is its start time.
-/

namespace KairosPersistence

open PythonJson PythonText

inductive OutboxError where
  | valueError (message : String)
  | runtimeError (message : String)
  | messageIdentityConflict (messageId : String)
  | databaseError
  deriving DecidableEq, Repr

/-- `text[:n]`. -/
def sliceTo (n : ℕ) (s : String) : String := String.ofList (s.toList.take n)

def utf8Length (s : String) : ℕ := s.utf8ByteSize

section Enqueue

/-- A row as `INSERT` fills it: the other columns have their defaults. -/
def newOutboxRow (messageId topic : String) (payload : JsonColumn) (payloadSha256 producer : String)
    (now : Timestamp) : OutboxRow where
  messageId := messageId
  topic := topic
  payload := payload
  payloadSha256 := some payloadSha256
  producer := producer
  publishedAt := none
  publishAttempts := 0
  lastError := none
  availableAt := now
  leaseUntil := none
  leaseOwner := none
  deadLetteredAt := none
  reconciliationState := .none
  reconciliationId := none
  reconciliationStartedAt := none
  reconciliationOutcomeAt := none
  lease_pair := OutboxRow.no_lease
  reconciliation_identity := Or.inl rfl

/-- The existing row of a message id holds another topic, producer or payload. -/
def conflicts (r : OutboxRow) (topic payload payloadSha256 producer : String) : Bool :=
  r.topic ≠ topic || r.producer ≠ producer || (readColumn r.payload).map dumps ≠ some payload ||
    (r.payloadSha256 ≠ none && r.payloadSha256 ≠ some payloadSha256)

def setPayloadSha256 (payloadSha256 : String) (r : OutboxRow) : OutboxRow :=
  { r with payloadSha256 := some payloadSha256 }

/-- `enqueue_outbox`. An insert that meets a row of the same message id uses up a sequence value. -/
def enqueueOutbox (messageId topic payload payloadSha256 producer : String) (now : Timestamp) (o : Outbox) :
    Except OutboxError (Outbox × Bool) :=
  if strip producer = "" then .error (.valueError "outbox producer must not be empty")
  else match Jsonb.jsonbIn payload with
    | none => .error .databaseError
    | some column =>
      match h : o.findMessage messageId with
      | none => .ok (o.insert (newOutboxRow messageId topic column payloadSha256 producer now) h, true)
      | some i =>
        match o.rows i with
        | none => .error (.messageIdentityConflict messageId)
        | some r =>
          if conflicts r topic payload payloadSha256 producer then .error (.messageIdentityConflict messageId)
          else if r.payloadSha256 = none then
            .ok ((o.burn.update i (fun r => some (setPayloadSha256 payloadSha256 r)) (by rintro r r' ⟨⟩; rfl)).1,
              false)
          else .ok (o.burn, false)

end Enqueue

section Dispatch

structure OutboxRecord where
  id : ℕ
  producer : String
  messageId : String
  topic : String
  payload : Option PyJson
  payloadSha256 : Option String
  publishAttempts : ℕ
  reconciliationId : String

def toRecord (id : ℕ) (reconciliationId : String) (r : OutboxRow) : OutboxRecord where
  id := id
  producer := r.producer
  messageId := r.messageId
  topic := r.topic
  payload := readColumn r.payload
  payloadSha256 := r.payloadSha256
  publishAttempts := r.publishAttempts
  reconciliationId := reconciliationId

/-- What the row itself must satisfy to be a candidate of `claim_outbox`. -/
def Dispatchable (producer : String) (now : Timestamp) (r : OutboxRow) : Prop :=
  r.producer = producer ∧ r.publishedAt = none ∧ r.deadLetteredAt = none ∧ r.reconciliationState = .none ∧
    r.publishAttempts = 0 ∧ r.availableAt ≤ now ∧ r.leaseOwner = none ∧ r.leaseUntil = none

instance (producer : String) (now : Timestamp) (r : OutboxRow) : Decidable (Dispatchable producer now r) :=
  inferInstanceAs (Decidable (r.producer = producer ∧ r.publishedAt = none ∧ r.deadLetteredAt = none ∧
    r.reconciliationState = .none ∧ r.publishAttempts = 0 ∧ r.availableAt ≤ now ∧ r.leaseOwner = none ∧
    r.leaseUntil = none))

/-- The row `id` is a candidate: no earlier row of its producer is unresolved. -/
def isCandidate (producer : String) (now : Timestamp) (rows : ℕ → Option OutboxRow) (id : ℕ) : Bool :=
  ((rows id).any fun r => Dispatchable producer now r) && !Outbox.HasUnpublishedPredecessor rows producer id

def dispatchId (uuid : String) : ReconciliationId :=
  ⟨"dispatch:" ++ uuid, by
    rw [btrimEmpty, String.toList_append]
    rfl⟩

/-- The `UPDATE` of `claim_outbox`. -/
def claimDispatch (workerId uuid : String) (lease now : Timestamp) (r : OutboxRow) : Option OutboxRow :=
  if r.publishAttempts = 0 ∧ r.leaseOwner = none ∧ r.leaseUntil = none then
    some (r.claim workerId (dispatchId uuid) lease now)
  else none

/-- `claim_outbox`. Rows that another transaction holds locked are skipped. -/
def claimOutbox (workerId producer uuid : String) (limit : ℤ) (lease : Timestamp) (locked : ℕ → Bool)
    (now : Timestamp) (o : Outbox) : Except OutboxError (Outbox × List OutboxRecord) :=
  if strip producer = "" then .error (.valueError "outbox producer must not be empty")
  else if limit < 0 then .error .databaseError
  else
    let candidates := (List.range o.nextId).filter fun i => isCandidate producer now o.rows i && !locked i
    match candidates.take (min limit 1).toNat with
    | [] => .ok (o, [])
    | i :: _ =>
      let (o', updated) := o.update i (claimDispatch workerId uuid lease now) (by
        intro r r' h
        unfold claimDispatch at h
        split_ifs at h
        exact Option.some.inj h ▸ rfl)
      .ok (o', if updated then ((o'.rows i).map (toRecord i (dispatchId uuid).1)).toList else [])

/-- The row is the durable claim that was returned to this worker. -/
def IsClaimOf (record : OutboxRecord) (workerId : String) (r : OutboxRow) : Prop :=
  r.producer = record.producer ∧ r.messageId = record.messageId ∧ r.topic = record.topic ∧
    r.payloadSha256 = record.payloadSha256 ∧ r.publishAttempts = record.publishAttempts ∧
    r.leaseOwner = some workerId ∧ r.reconciliationId = some record.reconciliationId ∧
    r.publishedAt = none ∧ r.deadLetteredAt = none

instance (record : OutboxRecord) (workerId : String) (r : OutboxRow) : Decidable (IsClaimOf record workerId r) :=
  inferInstanceAs (Decidable (_ ∧ _))

/-- `mark_published`. -/
def markPublished (record : OutboxRecord) (workerId : String) (now : Timestamp) (o : Outbox) : Outbox × Bool :=
  o.update record.id
    (fun r => if h : r.reconciliationState = .publishing then
        if IsClaimOf record workerId r then some (r.acknowledge now h) else none
      else none)
    (by intro r r' h; split_ifs at h; exact Option.some.inj h ▸ rfl)

def allowedReasons : List String :=
  ["PRE_PUBLISH_HASH_MISMATCH", "PUBLISH_EXCEPTION", "PUBLISH_CANCELLED", "ACK_NOT_APPLIED", "ACK_EXCEPTION",
    "ACK_CANCELLED"]

/-- `mark_outbox_publish_outcome_unknown`. -/
def markOutboxPublishOutcomeUnknown (record : OutboxRecord) (workerId reasonCode : String) (now : Timestamp)
    (o : Outbox) : Except OutboxError (Outbox × Bool) :=
  if reasonCode ∉ allowedReasons then .error (.valueError "unknown automatic outbox failure category")
  else .ok (o.update record.id
    (fun r => if h : r.reconciliationState = .publishing then
        if IsClaimOf record workerId r then some (r.markUnknown ("automatic_dispatch:" ++ reasonCode) now h)
        else none
      else none)
    (by intro r r' h; split_ifs at h; exact Option.some.inj h ▸ rfl))

/-- `fail_outbox`. -/
def failOutbox (rowId : ℕ) (workerId error : String) (retryAfter : Timestamp) (maxAttempts : ℤ) (now : Timestamp)
    (o : Outbox) : Outbox × Bool :=
  o.update rowId
    (fun r => if r.leaseOwner = some workerId ∧ r.publishedAt = none ∧ r.reconciliationState = .none then
        some (r.fail (sliceTo 4000 error) retryAfter maxAttempts now)
      else none)
    (by intro r r' h; split_ifs at h; exact Option.some.inj h ▸ rfl)

end Dispatch

end KairosPersistence
