import KairosPersistence.OutboxRepository
import KairosPersistence.Transactions

/-!
The exact offline operations of `AuditRepository`: each names one row of the
outbox by all of its immutable fields.
-/

namespace KairosPersistence

open PythonJson PythonText
open Transactions (found require)

structure OfflineOutboxIdentity where
  id : ℕ
  producer : String
  messageId : String
  topic : String
  payloadSha256 : String
  publishAttempts : ℕ
  deriving DecidableEq, Repr

inductive OfflineOutboxClaimRejection where
  | notFound
  | identityMismatch
  | alreadyPublished
  | deadLettered
  | leaseNotExpired
  | leasePresent
  | notYetAvailable
  | reconciliationNotClear
  | earlierUnpublishedPredecessor
  | payloadHashMismatch
  | auditMismatch
  | raceLost
  deriving DecidableEq, Repr

inductive LeaseRequirement where
  | expired
  | clear
  | ignored
  deriving DecidableEq, Repr

/-- A row of `event_audit`, as far as the recovery checks read it. -/
structure AuditRow where
  topic : String
  payload : JsonColumn

/-- The columns a recovery operator commits to. -/
def HasIdentity (identity : OfflineOutboxIdentity) (publishAttempts : ℕ) (r : OutboxRow) : Prop :=
  r.producer = identity.producer ∧ r.messageId = identity.messageId ∧ r.topic = identity.topic ∧
    r.payloadSha256 = some identity.payloadSha256 ∧ r.publishAttempts = publishAttempts

instance (identity : OfflineOutboxIdentity) (publishAttempts : ℕ) (r : OutboxRow) :
    Decidable (HasIdentity identity publishAttempts r) :=
  inferInstanceAs (Decidable (_ ∧ _))

/-- The canonical payload of the row, when it is the one the identity names. -/
def verifiedPayload (identity : OfflineOutboxIdentity) (column : JsonColumn) : Option (List (String × PyJson)) :=
  match canonicalOutboxPayload column with
  | some (payload, sha256) =>
    if sha256 = identity.payloadSha256 ∧ equal (getField payload "message_id") (.str identity.messageId) then
      some payload
    else none
  | none => none

/-- There is one audit row, and it holds the same message. -/
def auditMatches (identity : OfflineOutboxIdentity) (payload : List (String × PyJson)) (auditRows : List AuditRow) :
    Bool :=
  match auditRows with
  | [audit] =>
    match verifiedPayload identity audit.payload with
    | some auditPayload => audit.topic = identity.topic && equal (.obj auditPayload) (.obj payload)
    | none => false
  | _ => false

/-- `_validate_exact_offline_outbox`; the row is the one with the id of the identity. -/
def validateExactOfflineOutbox (row : Option OutboxRow) (identity : OfflineOutboxIdentity)
    (auditRows : List AuditRow) (hasUnpublishedPredecessor : Bool) (leaseRequirement : LeaseRequirement)
    (requireReconciliationClear requireNoUnpublishedPredecessor requireAvailable : Bool) (now : Timestamp) :
    Option OfflineOutboxClaimRejection :=
  match row with
  | none => some .notFound
  | some row =>
    if ¬HasIdentity identity identity.publishAttempts row then some .identityMismatch
    else if row.publishedAt.isSome then some .alreadyPublished
    else if row.deadLetteredAt.isSome then some .deadLettered
    else if leaseRequirement = .expired ∧ ¬row.leaseExpired now then some .leaseNotExpired
    else if leaseRequirement = .clear ∧ row.leaseUntil.isSome then some .leasePresent
    else if requireAvailable ∧ ¬row.available now then some .notYetAvailable
    else if requireReconciliationClear ∧ row.reconciliationState ≠ .none then some .reconciliationNotClear
    else if requireNoUnpublishedPredecessor ∧ hasUnpublishedPredecessor then some .earlierUnpublishedPredecessor
    else match verifiedPayload identity row.payload with
      | none => some .payloadHashMismatch
      | some payload => if auditMatches identity payload auditRows then none else some .auditMismatch

/-- `_require_reconciliation_id`. -/
def requireReconciliationId (reconciliationId : String) : Except OutboxError ReconciliationId :=
  if h : strip reconciliationId = "" ∨ 200 < reconciliationId.length then
    .error (.valueError "offline reconciliation_id must be a non-empty string of at most 200 characters")
  else .ok ⟨strip reconciliationId, btrimEmpty_strip (not_or.mp h).1⟩

section Claim

/-- `OfflineOutboxClaim`. -/
structure OfflineOutboxClaim where
  identity : OfflineOutboxIdentity
  payload : List (String × PyJson)
  reconciliationId : String
  claimedPublishAttempts : ℕ

/-- `OfflineOutboxClaimResult`: a claim or the reason there is none. -/
abbrev OfflineOutboxClaimResult := OfflineOutboxClaimRejection ⊕ OfflineOutboxClaim

/-- The conditions of the `UPDATE` of an exact claim. -/
def ExactlyClaimable (identity : OfflineOutboxIdentity) (leaseRequirement : LeaseRequirement) (now : Timestamp)
    (r : OutboxRow) : Prop :=
  HasIdentity identity identity.publishAttempts r ∧ r.publishedAt = none ∧ r.deadLetteredAt = none ∧
    r.available now ∧ (if leaseRequirement = .expired then r.leaseExpired now else r.leaseUntil = none) ∧
    r.reconciliationState = .none

instance (identity : OfflineOutboxIdentity) (leaseRequirement : LeaseRequirement) (now : Timestamp)
    (r : OutboxRow) : Decidable (ExactlyClaimable identity leaseRequirement now r) := by
  unfold ExactlyClaimable
  infer_instance

def claimExact (identity : OfflineOutboxIdentity) (leaseRequirement : LeaseRequirement)
    (reconciliationId : ReconciliationId) (lease now : Timestamp) (r : OutboxRow) : Option OutboxRow :=
  if ExactlyClaimable identity leaseRequirement now r then
    some (r.claim reconciliationId.1 reconciliationId lease now)
  else none

theorem claimExact_messageId {identity : OfflineOutboxIdentity} {leaseRequirement : LeaseRequirement}
    {reconciliationId : ReconciliationId} {lease now : Timestamp} (r r' : OutboxRow)
    (h : claimExact identity leaseRequirement reconciliationId lease now r = some r') :
    r'.messageId = r.messageId := by
  unfold claimExact at h
  split_ifs at h
  exact Option.some.inj h ▸ rfl

/-- The common body of the two exact claims; `lease` is in microseconds. -/
def claimOutboxExact (leaseRequirement : LeaseRequirement) (identity : OfflineOutboxIdentity)
    (reconciliationId : String) (lease : Timestamp) (auditRows : List AuditRow) (now : Timestamp) (o : Outbox) :
    Except OutboxError (Outbox × OfflineOutboxClaimResult) :=
  match requireReconciliationId reconciliationId with
  | .error e => .error e
  | .ok reconciliationId =>
    if ¬(0 < lease ∧ lease ≤ 5 * 60 * 1000000) then
      .error (.valueError "offline exact outbox lease must be greater than zero and at most five minutes")
    else
      let predecessor := decide (Outbox.HasUnpublishedPredecessor o.rows identity.producer identity.id)
      match validateExactOfflineOutbox (o.rows identity.id) identity auditRows predecessor leaseRequirement
          true true true now with
      | some rejection => .ok (o, .inl rejection)
      | none =>
        let (o', updated) := o.update identity.id
          (claimExact identity leaseRequirement reconciliationId lease now) claimExact_messageId
        match (if updated then o.rows identity.id else none) with
        | none => .ok (o', .inl .raceLost)
        | some row =>
          .ok (o', .inr {
            identity := identity
            payload := ((canonicalOutboxPayload row.payload).map Prod.fst).getD []
            reconciliationId := reconciliationId.1
            claimedPublishAttempts := row.publishAttempts + 1 })

/-- `claim_expired_outbox_exact`. -/
def claimExpiredOutboxExact := claimOutboxExact .expired

/-- `claim_ready_outbox_exact`. -/
def claimReadyOutboxExact := claimOutboxExact .clear

end Claim

section Outcome

/-- The row is the claim of this identity and reconciliation id. -/
def IsExactClaim (identity : OfflineOutboxIdentity) (reconciliationId : ReconciliationId) (r : OutboxRow) : Prop :=
  HasIdentity identity (identity.publishAttempts + 1) r ∧ r.reconciliationId = some reconciliationId.1 ∧
    r.publishedAt = none ∧ r.deadLetteredAt = none

instance (identity : OfflineOutboxIdentity) (reconciliationId : ReconciliationId) (r : OutboxRow) :
    Decidable (IsExactClaim identity reconciliationId r) :=
  inferInstanceAs (Decidable (_ ∧ _))

/-- `acknowledge_exact_outbox_publish`. -/
def acknowledgeExactOutboxPublish (identity : OfflineOutboxIdentity) (reconciliationId : String) (now : Timestamp)
    (o : Outbox) : Except OutboxError (Outbox × Bool) := do
  let reconciliationId ← requireReconciliationId reconciliationId
  .ok (o.update identity.id
    (fun r => if h : r.reconciliationState = .publishing then
        if IsExactClaim identity reconciliationId r then some (r.acknowledge now h) else none
      else none)
    (by intro r r' h; split_ifs at h; exact Option.some.inj h ▸ rfl))

/-- `mark_exact_outbox_publish_outcome_unknown`. -/
def markExactOutboxPublishOutcomeUnknown (identity : OfflineOutboxIdentity) (reconciliationId reason : String)
    (now : Timestamp) (o : Outbox) : Except OutboxError (Outbox × Bool) := do
  let reconciliationId ← requireReconciliationId reconciliationId
  .ok (o.update identity.id
    (fun r => if h : r.reconciliationState = .publishing then
        if IsExactClaim identity reconciliationId r then some (r.markUnknown (sliceTo 4000 reason) now h) else none
      else none)
    (by intro r r' h; split_ifs at h; exact Option.some.inj h ▸ rfl))

end Outcome

def migration018 : String := "018_offline_outbox_reconciliation.sql"

/-- The migrations in `schema_migrations`, if that table exists, include migration 018. -/
def migrationApplied (migrations : Option (List String)) : Bool := migrations.any (migration018 ∈ ·)

section Quarantine

structure OfflineOutboxExpiredLease where
  owner : String
  untilAt : Timestamp
  deriving DecidableEq, Repr

inductive OfflineOutboxQuarantineRejection where
  | migration018Required
  | leaseIdentityMismatch
  | claim (rejection : OfflineOutboxClaimRejection)
  deriving DecidableEq, Repr

/-- `OfflineOutboxQuarantineReceipt`. -/
structure OfflineOutboxQuarantineReceipt where
  reconciliationId : String
  reason : String
  legacyLease : OfflineOutboxExpiredLease
  startedAt : Timestamp
  outcomeAt : Timestamp
  deriving DecidableEq, Repr

inductive OfflineOutboxQuarantineResult where
  | quarantined (receipt : OfflineOutboxQuarantineReceipt)
  | alreadyQuarantined (receipt : OfflineOutboxQuarantineReceipt)
  | rejected (rejection : OfflineOutboxQuarantineRejection)
  deriving DecidableEq, Repr

/-- `_require_quarantine_reason`. -/
def requireQuarantineReason (reason : String) : Except OutboxError String :=
  if strip reason = "" ∨ 3500 < (strip reason).length then
    .error (.valueError "offline quarantine reason must be a non-empty string of at most 3500 characters")
  else .ok (strip reason)

/-- `_quarantine_evidence`. -/
def quarantineEvidence (reason : String) (expiredLease : OfflineOutboxExpiredLease) : Except OutboxError String :=
  let evidence := dumps (.obj [
    ("expired_lease_owner_sha256", .str (Sha256.hexdigest expiredLease.owner)),
    ("expired_lease_until", .str (isoformat true expiredLease.untilAt)),
    ("reason", .str reason)])
  if 4000 < evidence.length then
    .error (.valueError "offline quarantine evidence exceeds the durable error limit")
  else .ok evidence

/-- `_quarantine_receipt`. -/
def quarantineReceipt (reconciliationId reason : String) (legacyLease : OfflineOutboxExpiredLease)
    (startedAt outcomeAt : Option Timestamp) : Option OfflineOutboxQuarantineReceipt :=
  match startedAt, outcomeAt with
  | some startedAt, some outcomeAt =>
    if outcomeAt < startedAt then none else some ⟨reconciliationId, reason, legacyLease, startedAt, outcomeAt⟩
  | _, _ => none

/-- The receipt of a row that is already quarantined for this reason, lease and reconciliation id. -/
def sameQuarantine (reason evidence : String) (expiredLease : OfflineOutboxExpiredLease)
    (reconciliationId : ReconciliationId) (r : OutboxRow) : Option OfflineOutboxQuarantineReceipt :=
  if r.reconciliationId = some reconciliationId.1 ∧ r.lastError = some evidence ∧ r.leaseOwner = none ∧
      r.leaseUntil = none then
    quarantineReceipt reconciliationId.1 reason expiredLease r.reconciliationStartedAt r.reconciliationOutcomeAt
  else none

/-- The receipt that is made of the row that the `UPDATE` returns. -/
def quarantinedReceipt (reason evidence : String) (expiredLease : OfflineOutboxExpiredLease)
    (reconciliationId : ReconciliationId) (r : OutboxRow) : Except OutboxError OfflineOutboxQuarantineReceipt := do
  let receipt ← found (r.reconciliationId.bind fun id =>
      quarantineReceipt id reason expiredLease r.reconciliationStartedAt r.reconciliationOutcomeAt)
    (.runtimeError "quarantine update returned an incomplete durable receipt")
  require (r.reconciliationId = some reconciliationId.1 ∧ r.lastError = some evidence)
    (.runtimeError "quarantine update returned mismatched durable evidence")
  return receipt

/-- The conditions of the `UPDATE` of a quarantine. -/
def Quarantinable (identity : OfflineOutboxIdentity) (expiredLease : OfflineOutboxExpiredLease) (now : Timestamp)
    (r : OutboxRow) : Prop :=
  HasIdentity identity identity.publishAttempts r ∧ r.leaseOwner = some expiredLease.owner ∧
    r.leaseUntil = some expiredLease.untilAt ∧ r.publishedAt = none ∧ r.deadLetteredAt = none ∧ r.available now ∧
    r.leaseExpired now ∧ r.reconciliationState = .none

instance (identity : OfflineOutboxIdentity) (expiredLease : OfflineOutboxExpiredLease) (now : Timestamp)
    (r : OutboxRow) : Decidable (Quarantinable identity expiredLease now r) :=
  inferInstanceAs (Decidable (_ ∧ _))

def quarantineExact (identity : OfflineOutboxIdentity) (expiredLease : OfflineOutboxExpiredLease) (evidence : String)
    (reconciliationId : ReconciliationId) (now : Timestamp) (r : OutboxRow) : Option OutboxRow :=
  if Quarantinable identity expiredLease now r then some (r.quarantine evidence reconciliationId now) else none

theorem quarantineExact_messageId {identity : OfflineOutboxIdentity} {expiredLease : OfflineOutboxExpiredLease}
    {evidence : String} {reconciliationId : ReconciliationId} {now : Timestamp} (r r' : OutboxRow)
    (h : quarantineExact identity expiredLease evidence reconciliationId now r = some r') : r'.messageId = r.messageId := by
  unfold quarantineExact at h
  split_ifs at h
  exact Option.some.inj h ▸ rfl

/-- `quarantine_expired_outbox_exact`. -/
def quarantineExpiredOutboxExact (identity : OfflineOutboxIdentity) (expiredLease : OfflineOutboxExpiredLease)
    (reconciliationId reason : String) (migrations : Option (List String)) (auditRows : List AuditRow)
    (now : Timestamp) (o : Outbox) : Except OutboxError (Outbox × OfflineOutboxQuarantineResult) := do
  let reconciliationId ← requireReconciliationId reconciliationId
  let reason ← requireQuarantineReason reason
  let evidence ← quarantineEvidence reason expiredLease
  let rejection := validateExactOfflineOutbox (o.rows identity.id) identity auditRows false .ignored
    false false false now
  if ¬migrationApplied migrations then .ok (o, .rejected .migration018Required)
  else match rejection, o.rows identity.id with
    | some rejection, _ => .ok (o, .rejected (.claim rejection))
    | none, none => .ok (o, .rejected (.claim .notFound))
    | none, some row =>
      if row.reconciliationState = .publishOutcomeUnknown then
        match sameQuarantine reason evidence expiredLease reconciliationId row with
        | some receipt => .ok (o, .alreadyQuarantined receipt)
        | none => .ok (o, .rejected (.claim .reconciliationNotClear))
      else if row.reconciliationState ≠ .none then .ok (o, .rejected (.claim .reconciliationNotClear))
      else if ¬row.available now then .ok (o, .rejected (.claim .notYetAvailable))
      else if ¬row.leaseExpired now then .ok (o, .rejected (.claim .leaseNotExpired))
      else if row.leaseOwner ≠ some expiredLease.owner ∨ row.leaseUntil ≠ some expiredLease.untilAt then
        .ok (o, .rejected .leaseIdentityMismatch)
      else
        let (o', updated) := o.update identity.id
          (quarantineExact identity expiredLease evidence reconciliationId now) quarantineExact_messageId
        match (if updated then o'.rows identity.id else none) with
        | none => .ok (o', .rejected (.claim .raceLost))
        | some returned => do
          let receipt ← quarantinedReceipt reason evidence expiredLease reconciliationId returned
          .ok (o', .quarantined receipt)

end Quarantine

section Resolution

/-- `RedisAcceptanceEvidenceV1`. -/
structure RedisAcceptanceEvidence where
  redisServerRunId : String
  probeRunId : String
  probedAtUtc : Timestamp
  topic : String
  messageId : String
  canonicalPayloadSha256 : String
  matchCount : ℕ
  streamIds : List String
  deriving DecidableEq, Repr

/-- `isoformat().replace("+00:00", "Z")`. -/
def isoformatZ (t : Timestamp) : String :=
  String.ofList ((isoformat false t).toList.dropLast.dropLast.dropLast.dropLast.dropLast.dropLast ++ ['Z'])

/-- `RedisAcceptanceEvidenceV1.document`. -/
def RedisAcceptanceEvidence.document (e : RedisAcceptanceEvidence) : PyJson :=
  .obj [("schema", .str "kairos.redis-acceptance-evidence.v1"),
    ("redis_server_run_id", .str e.redisServerRunId),
    ("probe_run_id", .str e.probeRunId),
    ("probed_at_utc", .str (isoformatZ e.probedAtUtc)),
    ("topic", .str e.topic),
    ("message_id", .str e.messageId),
    ("canonical_payload_sha256", .str e.canonicalPayloadSha256),
    ("match_count", .num (.int e.matchCount)),
    ("stream_ids", .arr (e.streamIds.map .str))]

def RedisAcceptanceEvidence.sha256 (e : RedisAcceptanceEvidence) : String := Sha256.hexdigest (dumps e.document)

inductive OfflineOutboxTransportResolutionRejection where
  | migration018Required
  | notFound
  | identityMismatch
  | evidenceMismatch
  | auditMismatch
  | payloadHashMismatch
  | reconciliationIdMismatch
  | reconciliationNotUnknown
  | inconsistentPublishedState
  | quarantineMetadataInvalid
  | evidenceTooLarge
  | raceLost
  deriving DecidableEq, Repr

/-- `OfflineOutboxTransportResolutionReceipt`. -/
structure OfflineOutboxTransportResolutionReceipt where
  identity : OfflineOutboxIdentity
  reconciliationId : String
  evidence : RedisAcceptanceEvidence
  resolvedAt : Timestamp
  deriving DecidableEq, Repr

inductive OfflineOutboxTransportResolutionResult where
  | resolved (receipt : OfflineOutboxTransportResolutionReceipt)
  | alreadyResolved (receipt : OfflineOutboxTransportResolutionReceipt)
  | noMatchRemainsUnknown
  | multipleMatchesConflict
  | rejected (rejection : OfflineOutboxTransportResolutionRejection)
  deriving DecidableEq, Repr

def identityDocument (identity : OfflineOutboxIdentity) : PyJson :=
  .obj [("id", .num (.int identity.id)),
    ("producer", .str identity.producer),
    ("message_id", .str identity.messageId),
    ("topic", .str identity.topic),
    ("payload_sha256", .str identity.payloadSha256),
    ("publish_attempts", .num (.int identity.publishAttempts))]

def resolutionSchema : String := "kairos.redis-acceptance-resolution.v1"

def resolutionRecord (identity : OfflineOutboxIdentity) (reconciliationId : String)
    (evidence : RedisAcceptanceEvidence) (legacyLastError : String) : PyJson :=
  .obj [("schema", .str resolutionSchema),
    ("reconciliation_id", .str reconciliationId),
    ("identity", identityDocument identity),
    ("evidence", evidence.document),
    ("evidence_sha256", .str evidence.sha256),
    ("legacy_last_error", .str legacyLastError)]

/-- `last_error` of an acknowledged row is the record of this same resolution. -/
def isSameResolution (identity : OfflineOutboxIdentity) (reconciliationId : String)
    (evidence : RedisAcceptanceEvidence) (lastError : Option String) : Bool :=
  match lastError.bind loads with
  | some (.obj stored) =>
    stored.length = 6 &&
      equal (getField stored "schema") (.str resolutionSchema) &&
      equal (getField stored "reconciliation_id") (.str reconciliationId) &&
      equal (getField stored "identity") (identityDocument identity) &&
      equal (getField stored "evidence") evidence.document &&
      equal (getField stored "evidence_sha256") (.str evidence.sha256) &&
      (match getField stored "legacy_last_error" with | .str _ => true | _ => false)
  | _ => false

/-- The checks between the lock of the row and the `UPDATE`: a refusal, a repeated resolution, or
the text of the resolution record. -/
def checkResolution (identity : OfflineOutboxIdentity) (reconciliationId : ReconciliationId)
    (evidence : RedisAcceptanceEvidence) (auditRows : List AuditRow) (row : Option OutboxRow) :
    Except OfflineOutboxTransportResolutionResult String :=
  match row with
  | none => .error (.rejected .notFound)
  | some row =>
    if ¬HasIdentity identity identity.publishAttempts row then .error (.rejected .identityMismatch)
    else match verifiedPayload identity row.payload with
      | none => .error (.rejected .payloadHashMismatch)
      | some payload =>
        if ¬auditMatches identity payload auditRows then .error (.rejected .auditMismatch)
        else if row.reconciliationId ≠ some reconciliationId.1 then .error (.rejected .reconciliationIdMismatch)
        else if row.reconciliationState = .acknowledged then
          match row.publishedAt with
          | none => .error (.rejected .inconsistentPublishedState)
          | some publishedAt =>
            if row.deadLetteredAt.isSome ∨ row.leaseOwner.isSome ∨ row.leaseUntil.isSome then
              .error (.rejected .inconsistentPublishedState)
            else if isSameResolution identity reconciliationId.1 evidence row.lastError then
              .error (.alreadyResolved ⟨identity, reconciliationId.1, evidence, publishedAt⟩)
            else .error (.rejected .evidenceMismatch)
        else if row.reconciliationState ≠ .publishOutcomeUnknown then
          .error (.rejected .reconciliationNotUnknown)
        else if row.publishedAt.isSome ∨ row.deadLetteredAt.isSome ∨ row.leaseOwner.isSome ∨
            row.leaseUntil.isSome then
          .error (.rejected .inconsistentPublishedState)
        else match row.lastError with
          | none => .error (.rejected .quarantineMetadataInvalid)
          | some lastError =>
            if lastError = "" ∨ row.reconciliationStartedAt = none ∨ row.reconciliationOutcomeAt = none then
              .error (.rejected .quarantineMetadataInvalid)
            else
              let record := dumps (resolutionRecord identity reconciliationId.1 evidence lastError)
              if 4000 < utf8Length record then .error (.rejected .evidenceTooLarge) else .ok record

/-- The conditions of the `UPDATE` of a resolution, but for the state. -/
def Resolvable (identity : OfflineOutboxIdentity) (reconciliationId : ReconciliationId)
    (lastError : Option String) (r : OutboxRow) : Prop :=
  HasIdentity identity identity.publishAttempts r ∧ r.reconciliationId = some reconciliationId.1 ∧
    r.publishedAt = none ∧ r.deadLetteredAt = none ∧ r.leaseOwner = none ∧ r.leaseUntil = none ∧
    r.lastError.isSome ∧ r.lastError = lastError

instance (identity : OfflineOutboxIdentity) (reconciliationId : ReconciliationId) (lastError : Option String)
    (r : OutboxRow) : Decidable (Resolvable identity reconciliationId lastError r) :=
  inferInstanceAs (Decidable (_ ∧ _))

def resolveExact (identity : OfflineOutboxIdentity) (reconciliationId : ReconciliationId) (lastError : Option String)
    (record : String) (now : Timestamp) (r : OutboxRow) : Option OutboxRow :=
  if h : r.reconciliationState = .publishOutcomeUnknown then
    if Resolvable identity reconciliationId lastError r then some (r.resolve record now h) else none
  else none

theorem resolveExact_messageId {identity : OfflineOutboxIdentity} {reconciliationId : ReconciliationId}
    {lastError : Option String} {record : String} {now : Timestamp} (r r' : OutboxRow)
    (h : resolveExact identity reconciliationId lastError record now r = some r') : r'.messageId = r.messageId := by
  unfold resolveExact at h
  split_ifs at h
  exact Option.some.inj h ▸ rfl

/-- `resolve_unknown_outbox_from_redis_evidence`. -/
def resolveUnknownOutboxFromRedisEvidence (identity : OfflineOutboxIdentity) (reconciliationId : String)
    (evidence : RedisAcceptanceEvidence) (migrations : Option (List String)) (auditRows : List AuditRow)
    (now : Timestamp) (o : Outbox) : Except OutboxError (Outbox × OfflineOutboxTransportResolutionResult) := do
  let reconciliationId ← requireReconciliationId reconciliationId
  if evidence.topic ≠ identity.topic ∨ evidence.messageId ≠ identity.messageId ∨
      evidence.canonicalPayloadSha256 ≠ identity.payloadSha256 then
    .ok (o, .rejected .evidenceMismatch)
  else if evidence.matchCount = 0 then .ok (o, .noMatchRemainsUnknown)
  else if evidence.matchCount > 1 then .ok (o, .multipleMatchesConflict)
  else if ¬migrationApplied migrations then .ok (o, .rejected .migration018Required)
  else match checkResolution identity reconciliationId evidence auditRows (o.rows identity.id) with
    | .error result => .ok (o, result)
    | .ok record =>
      let (o', updated) := o.update identity.id
        (resolveExact identity reconciliationId ((o.rows identity.id).bind (·.lastError)) record now) resolveExact_messageId
      .ok (o', if updated then .resolved ⟨identity, reconciliationId.1, evidence, now⟩ else .rejected .raceLost)

end Resolution

end KairosPersistence
