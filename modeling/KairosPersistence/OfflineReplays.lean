import KairosPersistence.OfflineRecovery
import KairosPersistence.SourceUsage

/-!
Quarantines and resolutions that are repeated: the row keeps what the receipt
of the first call was made of, and the record of the evidence.
-/

namespace KairosPersistence

open PythonJson PythonText
open Json (UniqueKeys)
open Transactions

section Frames

/-- A quarantine has written the lease, the error and the reconciliation of a row, and nothing else. -/
structure OutboxRow.QuarantineFrame (r r' : OutboxRow) : Prop where
  message_id : r'.messageId = r.messageId
  topic : r'.topic = r.topic
  payload : r'.payload = r.payload
  payload_sha256 : r'.payloadSha256 = r.payloadSha256
  producer : r'.producer = r.producer
  published_at : r'.publishedAt = r.publishedAt
  publish_attempts : r'.publishAttempts = r.publishAttempts
  available_at : r'.availableAt = r.availableAt
  dead_lettered_at : r'.deadLetteredAt = r.deadLetteredAt

/-- A resolution has written the publication, the error and the reconciliation state of a row, and nothing else. -/
structure OutboxRow.ResolutionFrame (r r' : OutboxRow) : Prop where
  message_id : r'.messageId = r.messageId
  topic : r'.topic = r.topic
  payload : r'.payload = r.payload
  payload_sha256 : r'.payloadSha256 = r.payloadSha256
  producer : r'.producer = r.producer
  publish_attempts : r'.publishAttempts = r.publishAttempts
  available_at : r'.availableAt = r.availableAt
  lease_until : r'.leaseUntil = r.leaseUntil
  lease_owner : r'.leaseOwner = r.leaseOwner
  dead_lettered_at : r'.deadLetteredAt = r.deadLetteredAt
  reconciliation_id : r'.reconciliationId = r.reconciliationId
  reconciliation_started_at : r'.reconciliationStartedAt = r.reconciliationStartedAt
  reconciliation_outcome_at : r'.reconciliationOutcomeAt = r.reconciliationOutcomeAt

theorem OutboxRow.quarantineFrame (r : OutboxRow) (evidence : String) (id : ReconciliationId) (now : Timestamp) :
    r.QuarantineFrame (r.quarantine evidence id now) := ⟨rfl, rfl, rfl, rfl, rfl, rfl, rfl, rfl, rfl⟩

theorem OutboxRow.resolutionFrame (r : OutboxRow) (record : String) (now : Timestamp)
    (h : r.reconciliationState = .publishOutcomeUnknown) : r.ResolutionFrame (r.resolve record now h) :=
  ⟨rfl, rfl, rfl, rfl, rfl, rfl, rfl, rfl, rfl, rfl, rfl, rfl, rfl⟩

end Frames

section Evidence

/-- `isoformat` ends in the offset that `isoformatZ` replaces. -/
theorem isoformat_eq (t : Timestamp) : ∃ cs, isoformat false t = String.ofList (cs ++ ['+', '0', '0', ':', '0', '0']) ∧
    isoformatZ t = String.ofList (cs ++ ['Z']) := by
  obtain ⟨cs, hcs⟩ : ∃ cs, isoformat false t = String.ofList (cs ++ ['+', '0', '0', ':', '0', '0']) := ⟨_, rfl⟩
  refine ⟨cs, hcs, ?_⟩
  rw [isoformatZ, hcs, String.toList_ofList]
  simp only [List.dropLast_append_cons, List.dropLast, List.append_nil]

theorem isoformatZ_injective {t u : Timestamp} (ht : 0 ≤ t ∧ t < 315537897600000000)
    (hu : 0 ≤ u ∧ u < 315537897600000000) (h : isoformatZ t = isoformatZ u) : t = u := by
  obtain ⟨cs, hcs, hcsZ⟩ := isoformat_eq t
  obtain ⟨ds, hds, hdsZ⟩ := isoformat_eq u
  rw [hcsZ, hdsZ] at h
  obtain rfl : cs = ds := List.append_cancel_right (String.ofList_injective h)
  have hread := fromisoformat_isoformat false ht.1 ht.2
  rw [hcs, ← hds, fromisoformat_isoformat false hu.1 hu.2] at hread
  exact (Option.some.inj hread).symm

/-- `re.fullmatch` of a class of characters, repeated as often as the bounds say. -/
def isRepeated (p : Char → Bool) (least most : ℕ) (s : String) : Bool :=
  least ≤ s.length && s.length ≤ most && s.toList.all p

def isLowerHex (c : Char) : Bool := "0123456789abcdef".toList.contains c

/-- `[0-9]{1,20}-[0-9]{1,10}`. -/
def isStreamId (s : String) : Bool :=
  let (ms, rest) := s.toList.span Char.isDigit
  1 ≤ ms.length && ms.length ≤ 20 &&
    match rest with
    | '-' :: seq => 1 ≤ seq.length && seq.length ≤ 10 && seq.all Char.isDigit
    | _ => false

/-- What `RedisAcceptanceEvidenceV1.__post_init__` demands. -/
structure RedisAcceptanceEvidence.Valid (e : RedisAcceptanceEvidence) : Prop where
  redis_server_run_id : isRepeated isLowerHex 40 40 e.redisServerRunId
  probe_run_id : isRepeated (fun c => c.isAlphanum || ['.', '_', '-'].contains c) 1 128 e.probeRunId
  probed_at_utc : 0 ≤ e.probedAtUtc ∧ e.probedAtUtc < 315537897600000000
  topic : isRepeated (fun c => 32 ≤ c.toNat) 1 250 e.topic
  message_id : isRepeated (fun c => 32 ≤ c.toNat) 1 512 e.messageId
  canonical_payload_sha256 : isSha256 e.canonicalPayloadSha256
  match_count : e.matchCount ≤ 10000
  stream_ids : ∀ id ∈ e.streamIds, isStreamId id
  unique : e.streamIds.Nodup
  counted : e.streamIds.length = min e.matchCount 16
  bounded : utf8Length (dumps e.document) ≤ 2048

theorem equal_strings {a b : List String} (h : equal (.arr (a.map .str)) (.arr (b.map .str)) = true) : a = b := by
  rw [equal, equalItems_iff] at h
  induction a generalizing b with
  | nil =>
    cases b with
    | nil => rfl
    | cons => cases h
  | cons x a ih =>
    cases b with
    | nil => cases h
    | cons y b =>
      obtain ⟨hxy, hab⟩ := List.forall₂_cons.mp h
      rw [equal_str hxy, ih hab]

/-- Evidence of one document is the same. -/
theorem RedisAcceptanceEvidence.document_injective {a b : RedisAcceptanceEvidence} (ha : a.Valid) (hb : b.Valid)
    (h : equal a.document b.document = true) : a = b := by
  unfold RedisAcceptanceEvidence.document at h
  have hserver := equal_getField h ("redis_server_run_id", .str a.redisServerRunId) (by simp)
  have hprobe := equal_getField h ("probe_run_id", .str a.probeRunId) (by simp)
  have hprobed := equal_getField h ("probed_at_utc", .str (isoformatZ a.probedAtUtc)) (by simp)
  have htopic := equal_getField h ("topic", .str a.topic) (by simp)
  have hmessage := equal_getField h ("message_id", .str a.messageId) (by simp)
  have hpayload := equal_getField h ("canonical_payload_sha256", .str a.canonicalPayloadSha256) (by simp)
  have hcount := equal_getField h ("match_count", .num (.int a.matchCount)) (by simp)
  have hids := equal_getField h ("stream_ids", .arr (a.streamIds.map .str)) (by simp)
  simp only [getField, List.find?_cons, String.reduceEq, decide_false, decide_true, Option.map_some, Option.getD_some] at *
  cases a
  cases b
  rw [RedisAcceptanceEvidence.mk.injEq]
  exact ⟨equal_str hserver, equal_str hprobe, isoformatZ_injective ha.probed_at_utc hb.probed_at_utc (equal_str hprobed),
    equal_str htopic, equal_str hmessage, equal_str hpayload, Int.ofNat_inj.mp (equal_int hcount), equal_strings hids⟩

end Evidence

section Records

variable {identity : OfflineOutboxIdentity} {id lastError : String} {evidence evidence' : RedisAcceptanceEvidence}

theorem RedisAcceptanceEvidence.uniqueKeys_document (e : RedisAcceptanceEvidence) : e.document.UniqueKeys := by
  have hids : (Json.arr (e.streamIds.map .str) : PyJson).UniqueKeys := by
    rw [Json.uniqueKeys_arr, List.forall_mem_map]
    exact fun _ _ => trivial
  rw [RedisAcceptanceEvidence.document, Json.uniqueKeys_obj]
  constructor
  · simp
  · simp only [List.forall_mem_cons, hids, List.not_mem_nil]
    simp [UniqueKeys]

theorem uniqueKeys_identityDocument : (identityDocument identity).UniqueKeys := by
  rw [identityDocument, Json.uniqueKeys_obj]
  constructor
  · simp
  · simp [UniqueKeys]

theorem uniqueKeys_resolutionRecord : (resolutionRecord identity id evidence lastError).UniqueKeys := by
  rw [resolutionRecord, Json.uniqueKeys_obj]
  constructor
  · simp
  · simp only [List.forall_mem_cons, evidence.uniqueKeys_document, uniqueKeys_identityDocument, List.not_mem_nil]
    simp [UniqueKeys]

/-- A record is little longer than the documents in it. -/
theorem textBound_resolutionRecord_le (identity : OfflineOutboxIdentity) (id : String) (evidence : RedisAcceptanceEvidence)
    (lastError : String) (size : PyNumber → ℕ) : (resolutionRecord identity id evidence lastError).textBound size ≤
      1100 + 6 * id.length + 6 * lastError.length + (identityDocument identity).textBound size +
        evidence.document.textBound size := by
  have hsha : evidence.sha256.length = 64 := Sha256.length_hexdigest _
  have hlengths : "schema".length = 6 ∧ resolutionSchema.length = 37 ∧ "reconciliation_id".length = 17 ∧
      "identity".length = 8 ∧ "evidence".length = 8 ∧ "evidence_sha256".length = 15 ∧ "legacy_last_error".length = 17 := by
    decide
  unfold resolutionRecord
  simp only [Json.textBound, Json.textBoundFields, hsha, hlengths]
  omega

/-- The record of a resolution is taken for the same one when it holds the document and the digest of the evidence. -/
theorem isSameResolution_record : isSameResolution identity id evidence' (some (dumps (resolutionRecord identity id evidence
    lastError))) = (equal evidence.document evidence'.document && decide (evidence.sha256 = evidence'.sha256)) := by
  have hkeys : (resolutionRecord identity id evidence lastError).UniqueKeys := uniqueKeys_resolutionRecord
  have hdumps := dumps_sortKeys hkeys
  unfold resolutionRecord at hkeys hdumps
  obtain ⟨stored, hstored⟩ := eq_obj_of_dumps hdumps
  rw [hstored] at hdumps
  have hlength : stored.length = 6 := by simpa using (keys_perm hdumps).length_eq
  have hlegacy : getField stored "legacy_last_error" = .str lastError := sortKeys_str (getField_congr hdumps hkeys _)
  have hidentity : equal (identityDocument identity) (identityDocument identity) = true :=
    equal_refl uniqueKeys_identityDocument
  have hfield (key : String) (v : PyJson) := equal_getField_congr hdumps hkeys key v
  unfold isSameResolution resolutionRecord
  rw [Option.bind_some, loads_dumps, hstored]
  simp only [hlength, hlegacy, hfield]
  simp [getField, equal, hidentity]

end Records

section Quarantine

variable {identity : OfflineOutboxIdentity} {expiredLease : OfflineOutboxExpiredLease} {reconciliationId reason : String}
  {migrations : Option (List String)} {auditRows : List AuditRow} {now : Timestamp} {o o' t : Outbox}
  {receipt : OfflineOutboxQuarantineReceipt}

theorem sameQuarantine_quarantine {row : OutboxRow} {id : ReconciliationId} {evidence : String} :
    sameQuarantine reason evidence expiredLease id (row.quarantine evidence id now) =
      some ⟨id.1, reason, expiredLease, now, now⟩ := by
  simp [sameQuarantine, OutboxRow.quarantine, quarantineReceipt]

/-- A quarantine that is repeated finds the receipt of the first one. -/
theorem quarantineExpiredOutboxExact_again
    (h : quarantineExpiredOutboxExact identity expiredLease reconciliationId reason migrations auditRows now o =
      .ok (o', .quarantined receipt)) (ht : t.rows identity.id = o'.rows identity.id) (now' : Timestamp) :
    quarantineExpiredOutboxExact identity expiredLease reconciliationId reason migrations auditRows now' t =
      .ok (t, .alreadyQuarantined receipt) := by
  rcases quarantineExpiredOutboxExact_cases h with ⟨-, hne, -⟩ | ⟨id, evidence, row, hrow, hchecked, hreceipt, hreplaced⟩
  · exact absurd rfl (hne receipt)
  · obtain rfl := OfflineOutboxQuarantineResult.quarantined.inj hreceipt
    obtain ⟨hid, hreason, hevidence, hmigrated, hvalid, -⟩ := hchecked
    have hrow' : t.rows identity.id = some (row.quarantine evidence id now) := ht.trans hreplaced.self
    have hvalidated : Validated identity auditRows false .ignored false false false now' (row.quarantine evidence id now) :=
      ⟨hvalid.has_identity, hvalid.unpublished, hvalid.alive, by simp, by simp, by simp, by simp, by simp, hvalid.payload⟩
    have hnone := validateExactOfflineOutbox_eq_none.mpr ⟨_, rfl, hvalidated⟩
    have hstate : (row.quarantine evidence id now).reconciliationState = .publishOutcomeUnknown := rfl
    unfold quarantineExpiredOutboxExact
    rw [hid, ok_bind, hreason, ok_bind, hevidence, ok_bind]
    simp only [hmigrated, hrow', hnone, hstate, sameQuarantine_quarantine, not_true_eq_false, if_true, if_false]

end Quarantine

section Resolution

variable {identity : OfflineOutboxIdentity} {id id' : ReconciliationId} {reconciliationId reconciliationId' record : String}
  {evidence evidence' : RedisAcceptanceEvidence} {migrations migrations' : Option (List String)}
  {auditRows : List AuditRow} {now now' : Timestamp} {row : OutboxRow} {o o' t t' : Outbox}

/-- A row that is acknowledged is compared with the record of its resolution. -/
theorem checkResolution_acknowledged {payload : List (String × PyJson)}
    (hidentity : HasIdentity identity identity.publishAttempts row)
    (hpayload : verifiedPayload identity row.payload = some payload) (haudit : auditMatches identity payload auditRows)
    (hid : row.reconciliationId = some id.1) (hstate : row.reconciliationState = .acknowledged)
    (hpublished : row.publishedAt = some now)
    (hconsistent : row.deadLetteredAt = none ∧ row.leaseOwner = none ∧ row.leaseUntil = none) :
    checkResolution identity id' evidence auditRows (some row) =
      .error (if id' ≠ id then .rejected .reconciliationIdMismatch
        else if isSameResolution identity id'.1 evidence row.lastError then
          .alreadyResolved ⟨identity, id'.1, evidence, now⟩
        else .rejected .evidenceMismatch) := by
  obtain ⟨hdead, howner, huntil⟩ := hconsistent
  have hmatches : row.reconciliationId ≠ some id'.1 ↔ id' ≠ id := by
    rw [hid, ne_eq, Option.some.injEq, ← Subtype.ext_iff, eq_comm]
  simp only [checkResolution]
  rw [if_neg (not_not.mpr hidentity), hpayload]
  simp only [haudit, not_true_eq_false, if_false, hmatches, hstate, if_true, hpublished, hdead, howner, huntil,
    Option.isSome_none, Bool.false_eq_true, or_self]
  split_ifs <;> rfl

/-- What a resolution finds of a row that another one has resolved. -/
theorem checkResolution_resolved (h : ResolutionChecked identity id evidence auditRows record row) :
    checkResolution identity id' evidence' auditRows (some (row.resolve record now h.state)) =
      .error (if id' ≠ id then .rejected .reconciliationIdMismatch
        else if equal evidence.document evidence'.document && decide (evidence.sha256 = evidence'.sha256) then
          .alreadyResolved ⟨identity, id'.1, evidence', now⟩
        else .rejected .evidenceMismatch) := by
  obtain ⟨⟨payload, hpayload, haudit⟩, hstate, hresolvable, lastError, hrecord⟩ := h
  obtain ⟨hidentity, hid, -, hdead, howner, huntil, -⟩ := hresolvable
  have hchecked : checkResolution identity id' evidence' auditRows (some (row.resolve record now hstate)) = _ :=
    checkResolution_acknowledged hidentity hpayload haudit hid rfl rfl ⟨hdead, howner, huntil⟩
  rw [hchecked]
  by_cases hne : id' = id
  · have hlast : (row.resolve record now hstate).lastError = some record := rfl
    rw [hlast, hrecord, hne, isSameResolution_record]
  · rw [if_pos hne, if_pos hne]

/-- A resolution that is admitted and finds a row resolved leaves it, and says what it has found. -/
theorem resolveUnknownOutboxFromRedisEvidence_found {result : OfflineOutboxTransportResolutionResult}
    (hid : requireReconciliationId reconciliationId = .ok id) (hadmitted : ResolutionAdmitted identity evidence migrations)
    (hfound : checkResolution identity id evidence auditRows (o.rows identity.id) = .error result) :
    resolveUnknownOutboxFromRedisEvidence identity reconciliationId evidence migrations auditRows now o =
      .ok (o, result) := by
  obtain ⟨htopic, hmessage, hpayload, hcount, hmigrated⟩ := hadmitted
  unfold resolveUnknownOutboxFromRedisEvidence
  rw [hid, ok_bind]
  simp [htopic, hmessage, hpayload, hcount, hmigrated, hfound]

/-- A resolution that is admitted and finds a row to resolve writes it. -/
theorem resolveUnknownOutboxFromRedisEvidence_resolved (hid : requireReconciliationId reconciliationId = .ok id)
    (hadmitted : ResolutionAdmitted identity evidence migrations)
    (hfound : checkResolution identity id evidence auditRows (o.rows identity.id) = .ok record) (now : Timestamp) :
    ∃ o', resolveUnknownOutboxFromRedisEvidence identity reconciliationId evidence migrations auditRows now o =
      .ok (o', .resolved ⟨identity, id.1, evidence, now⟩) := by
  obtain ⟨row, hrow, hchecked⟩ := checkResolution_ok hfound
  have hwritten : resolveExact identity id ((o.rows identity.id).bind (·.lastError)) record now row =
      some (row.resolve record now hchecked.state) := by
    rw [resolveExact, dif_pos hchecked.state, hrow, Option.bind_some, if_pos hchecked.resolvable]
  have hupdated := (update_matches resolveExact_messageId hrow hwritten).1
  obtain ⟨htopic, hmessage, hpayload, hcount, hmigrated⟩ := hadmitted
  unfold resolveUnknownOutboxFromRedisEvidence
  rw [hid, ok_bind]
  simp [htopic, hmessage, hpayload, hcount, hmigrated, hfound, hupdated]

/-- A resolution that is not admitted has no receipt. -/
theorem resolveUnknownOutboxFromRedisEvidence_refused {result : OfflineOutboxTransportResolutionResult}
    (h : resolveUnknownOutboxFromRedisEvidence identity reconciliationId evidence migrations auditRows now o =
      .ok (o', result)) (hadmitted : ¬ResolutionAdmitted identity evidence migrations) :
    o' = o ∧ ∀ receipt, result ≠ .resolved receipt ∧ result ≠ .alreadyResolved receipt := by
  unfold resolveUnknownOutboxFromRedisEvidence at h
  obtain ⟨id, -, h⟩ := bind_ok h
  have hkept {refused : OfflineOutboxTransportResolutionResult}
      (h : Except.ok (o, refused) = Except.ok (ε := OutboxError) (o', result))
      (hne : ∀ receipt, refused ≠ .resolved receipt ∧ refused ≠ .alreadyResolved receipt) :
      o' = o ∧ ∀ receipt, result ≠ .resolved receipt ∧ result ≠ .alreadyResolved receipt := by
    obtain ⟨rfl, rfl⟩ := Prod.mk.inj (Except.ok.inj h)
    exact ⟨rfl, hne⟩
  iterate 4 (split at h; · exact hkept h (by simp))
  rename_i hevidence hsome hmany hmigrated
  simp only [not_or, not_not] at hevidence
  obtain ⟨htopic, hmessage, hpayload⟩ := hevidence
  exact absurd ⟨htopic, hmessage, hpayload, by omega, by simpa using hmigrated⟩ hadmitted

/-- What a later resolution says of a row that has been resolved: it is the same one, or refused. -/
theorem resolveUnknownOutboxFromRedisEvidence_again {receipt : OfflineOutboxTransportResolutionReceipt}
    (h : resolveUnknownOutboxFromRedisEvidence identity reconciliationId evidence migrations auditRows now o =
      .ok (o', .resolved receipt)) (ht : t.rows identity.id = o'.rows identity.id) :
    ∃ id, requireReconciliationId reconciliationId = .ok id ∧ ResolutionAdmitted identity evidence migrations ∧
      receipt = ⟨identity, id.1, evidence, now⟩ ∧
      ∀ id' evidence', checkResolution identity id' evidence' auditRows (t.rows identity.id) =
        .error (if id' ≠ id then .rejected .reconciliationIdMismatch
          else if equal evidence.document evidence'.document && decide (evidence.sha256 = evidence'.sha256) then
            .alreadyResolved ⟨identity, id'.1, evidence', now⟩
          else .rejected .evidenceMismatch) := by
  rcases resolveUnknownOutboxFromRedisEvidence_cases h with ⟨-, hne, -⟩ |
    ⟨id, record, row, hchecked, hid, hadmitted, hrow, hreceipt, hreplaced⟩
  · exact absurd rfl (hne receipt)
  · refine ⟨id, hid, hadmitted, OfflineOutboxTransportResolutionResult.resolved.inj hreceipt, fun id' evidence' => ?_⟩
    rw [ht, hreplaced.self]
    exact checkResolution_resolved hchecked

theorem requireReconciliationId_ok (h : requireReconciliationId reconciliationId = .ok id) : id.1 = strip reconciliationId := by
  unfold requireReconciliationId at h
  split_ifs at h
  rw [← Except.ok.inj h]

end Resolution

section Recovery

/-- A quarantine or a resolution that is refused leaves the table as it is; one that is written changes the named fields
of the row; one that is repeated finds the receipt of the first; and a row is resolved by no other evidence, and under no
reconciliation id that is another one once it is stripped. -/
structure RecoveryAtomic (identity : OfflineOutboxIdentity) (auditRows : List AuditRow) (o o' : Outbox) (now : Timestamp) :
    Prop where
  quarantine_refused : ∀ expiredLease reconciliationId reason migrations result,
    quarantineExpiredOutboxExact identity expiredLease reconciliationId reason migrations auditRows now o =
      .ok (o', result) → (∀ receipt, result ≠ .quarantined receipt) → o' = o
  quarantine_written : ∀ expiredLease reconciliationId reason migrations receipt,
    quarantineExpiredOutboxExact identity expiredLease reconciliationId reason migrations auditRows now o =
      .ok (o', .quarantined receipt) →
        ∃ row row', o.rows identity.id = some row ∧ o.Replaced o' identity.id row' ∧ row.QuarantineFrame row'
  quarantine_repeated : ∀ expiredLease reconciliationId reason migrations receipt t now',
    quarantineExpiredOutboxExact identity expiredLease reconciliationId reason migrations auditRows now o =
      .ok (o', .quarantined receipt) → t.rows identity.id = o'.rows identity.id →
        quarantineExpiredOutboxExact identity expiredLease reconciliationId reason migrations auditRows now' t =
          .ok (t, .alreadyQuarantined receipt)
  resolution_refused : ∀ reconciliationId evidence migrations result,
    resolveUnknownOutboxFromRedisEvidence identity reconciliationId evidence migrations auditRows now o =
      .ok (o', result) → (∀ receipt, result ≠ .resolved receipt) → o' = o
  resolution_written : ∀ reconciliationId evidence migrations receipt,
    resolveUnknownOutboxFromRedisEvidence identity reconciliationId evidence migrations auditRows now o =
      .ok (o', .resolved receipt) →
        ∃ row row', o.rows identity.id = some row ∧ o.Replaced o' identity.id row' ∧ row.ResolutionFrame row'
  resolution_repeated : ∀ reconciliationId evidence migrations receipt t now',
    resolveUnknownOutboxFromRedisEvidence identity reconciliationId evidence migrations auditRows now o =
      .ok (o', .resolved receipt) → t.rows identity.id = o'.rows identity.id →
        resolveUnknownOutboxFromRedisEvidence identity reconciliationId evidence migrations auditRows now' t =
          .ok (t, .alreadyResolved receipt)
  resolution_different : ∀ reconciliationId evidence migrations receipt t now' reconciliationId' evidence' migrations' t'
      result,
    resolveUnknownOutboxFromRedisEvidence identity reconciliationId evidence migrations auditRows now o =
      .ok (o', .resolved receipt) → t.rows identity.id = o'.rows identity.id → evidence.Valid → evidence'.Valid →
        evidence' ≠ evidence ∨ strip reconciliationId' ≠ strip reconciliationId →
          resolveUnknownOutboxFromRedisEvidence identity reconciliationId' evidence' migrations' auditRows now' t =
            .ok (t', result) →
              t' = t ∧ ∀ receipt, result ≠ .resolved receipt ∧ result ≠ .alreadyResolved receipt

theorem recovery_atomic (identity : OfflineOutboxIdentity) (auditRows : List AuditRow) (o o' : Outbox) (now : Timestamp) :
    RecoveryAtomic identity auditRows o o' now := by
  constructor
  · intro expiredLease reconciliationId reason migrations result h hne
    rcases quarantineExpiredOutboxExact_cases h with ⟨hsame, -⟩ | ⟨_, _, _, -, -, hquarantined, -⟩
    · exact hsame
    · exact absurd hquarantined (hne _)
  · intro expiredLease reconciliationId reason migrations receipt h
    rcases quarantineExpiredOutboxExact_cases h with ⟨-, hne, -⟩ | ⟨id, evidence, row, hrow, -, -, hreplaced⟩
    · exact absurd rfl (hne receipt)
    · exact ⟨row, _, hrow, hreplaced, row.quarantineFrame evidence id now⟩
  · intro expiredLease reconciliationId reason migrations receipt t now' h ht
    exact quarantineExpiredOutboxExact_again h ht now'
  · intro reconciliationId evidence migrations result h hne
    rcases resolveUnknownOutboxFromRedisEvidence_cases h with ⟨hsame, -⟩ | ⟨_, _, _, _, -, -, -, hresolved, -⟩
    · exact hsame
    · exact absurd hresolved (hne _)
  · intro reconciliationId evidence migrations receipt h
    rcases resolveUnknownOutboxFromRedisEvidence_cases h with ⟨-, hne, -⟩ | ⟨_, record, row, hchecked, -, -, hrow, -, hreplaced⟩
    · exact absurd rfl (hne receipt)
    · exact ⟨row, _, hrow, hreplaced, row.resolutionFrame record now hchecked.state⟩
  · intro reconciliationId evidence migrations receipt t now' h ht
    obtain ⟨id, hid, hadmitted, rfl, hfound⟩ := resolveUnknownOutboxFromRedisEvidence_again h ht
    have hsame := hfound id evidence
    rw [if_neg (not_not.mpr rfl), equal_refl evidence.uniqueKeys_document] at hsame
    exact resolveUnknownOutboxFromRedisEvidence_found hid hadmitted (by simpa using hsame)
  · intro reconciliationId evidence migrations receipt t now' reconciliationId' evidence' migrations' t' result h ht hvalid
      hvalid' hdifferent h'
    obtain ⟨id, hid, -, -, hfound⟩ := resolveUnknownOutboxFromRedisEvidence_again h ht
    by_cases hadmitted : ResolutionAdmitted identity evidence' migrations'
    · cases hid' : requireReconciliationId reconciliationId' with
      | error e =>
        unfold resolveUnknownOutboxFromRedisEvidence at h'
        rw [hid'] at h'
        cases h'
      | ok id' =>
        rw [resolveUnknownOutboxFromRedisEvidence_found hid' hadmitted (hfound id' evidence')] at h'
        obtain ⟨rfl, rfl⟩ := Prod.mk.inj (Except.ok.inj h')
        refine ⟨rfl, fun receipt' => ?_⟩
        by_cases hne : id' = id
        · have hevidence : evidence' ≠ evidence := by
            apply hdifferent.resolve_right
            rw [← requireReconciliationId_ok hid, ← requireReconciliationId_ok hid', hne]
            exact not_not.mpr rfl
          have hdocument : equal evidence.document evidence'.document = false := by
            rw [Bool.eq_false_iff]
            exact fun hequal => hevidence (RedisAcceptanceEvidence.document_injective hvalid hvalid' hequal).symm
          simp [hne, hdocument]
        · simp [hne]
    · exact resolveUnknownOutboxFromRedisEvidence_refused h' hadmitted

end Recovery

section Padded

def examplePayloadFields : List (String × PyJson) := [("message_id", .str "m")]

def examplePayloadColumn : JsonColumn := (Jsonb.jsonbIn (dumps (.obj examplePayloadFields))).getD .null

def exampleIdentity : OfflineOutboxIdentity :=
  ⟨1, "r", "m", "t", "6de591e8f31563d26b86521561a91dc79f3f76e74f79ed658bc0b152724789b9", 0⟩

def exampleUnknownRow : OutboxRow where
  messageId := "m"
  topic := "t"
  payload := examplePayloadColumn
  payloadSha256 := some exampleIdentity.payloadSha256
  producer := "r"
  publishedAt := none
  publishAttempts := 0
  lastError := some "e"
  availableAt := 0
  leaseUntil := none
  leaseOwner := none
  deadLetteredAt := none
  reconciliationState := .publishOutcomeUnknown
  reconciliationId := some "x"
  reconciliationStartedAt := some 0
  reconciliationOutcomeAt := some 0
  lease_pair := OutboxRow.no_lease
  reconciliation_identity := .inr ⟨"x", rfl, by decide⟩

def exampleUnknownOutbox : Outbox := Outbox.empty.insert exampleUnknownRow rfl

def exampleAudit : List AuditRow := [⟨"t", examplePayloadColumn⟩]

def exampleEvidence : RedisAcceptanceEvidence where
  redisServerRunId := String.ofList (List.replicate 40 'a')
  probeRunId := "p"
  probedAtUtc := 0
  topic := "t"
  messageId := "m"
  canonicalPayloadSha256 := exampleIdentity.payloadSha256
  matchCount := 1
  streamIds := ["1-1"]

theorem examplePayload_verified : ∃ fields, verifiedPayload exampleIdentity examplePayloadColumn = some fields ∧
    (Json.obj fields : PyJson).UniqueKeys := by
  have hkeys : (Json.obj examplePayloadFields : PyJson).UniqueKeys := by
    simp [examplePayloadFields, UniqueKeys, Json.UniqueKeysFields]
  have hcolumn := @Jsonb.jsonbIn_dumps (.obj examplePayloadFields) (by decide)
  obtain ⟨reread, hread, hdumps⟩ := readColumn_stable hcolumn hkeys (by decide)
    (by simp [examplePayloadFields, Json.numbers, Json.numbersFields])
  obtain ⟨fields, rfl⟩ := eq_obj_of_dumps hdumps
  have hsorted := dumps_sortKeys hkeys
  obtain ⟨canonical, hcanonical⟩ := eq_obj_of_dumps hsorted
  have hmessage : equal (getField canonical "message_id") (.str "m") = true := by
    rw [hcanonical] at hsorted
    rw [equal_getField_congr hsorted hkeys]
    decide
  have hstored : readColumn examplePayloadColumn = some (.obj fields) := by
    rw [examplePayloadColumn, hcolumn, Option.getD_some, hread]
  have hsha : Sha256.hexdigest (dumps (.obj examplePayloadFields)) = exampleIdentity.payloadSha256 := by decide +kernel
  refine ⟨canonical, ?_, ?_⟩
  · unfold verifiedPayload canonicalOutboxPayload
    rw [hstored]
    simp only [hdumps, loads_dumps, hcanonical]
    rw [if_pos ⟨hsha, hmessage⟩]
  · rw [← hcanonical]
    exact (Json.uniqueKeys_orderKeys (· ≤ ·) _).mpr hkeys

theorem exampleEvidence_bound : exampleEvidence.document.textBound (fun n => JsonText.numberSize (numberText n)) ≤ 2000 := by
  decide +kernel

theorem exampleEvidence_valid : exampleEvidence.Valid where
  redis_server_run_id := by decide
  probe_run_id := by decide
  probed_at_utc := by decide
  topic := by decide
  message_id := by decide
  canonical_payload_sha256 := by decide +kernel
  match_count := by decide
  stream_ids := by decide
  unique := by decide
  counted := by decide
  bounded := by
    have hbytes := Jsonb.byteSize_dumps exampleEvidence.document
    have := exampleEvidence_bound
    unfold utf8Length
    omega

/-- The record of the resolution is short enough to be stored. -/
theorem exampleRecord_bytes : ¬4000 < utf8Length (dumps (resolutionRecord exampleIdentity "x" exampleEvidence "e")) := by
  have hbytes := (Jsonb.byteSize_dumps _).trans (textBound_resolutionRecord_le exampleIdentity "x" exampleEvidence "e" _)
  have hdocument := exampleEvidence_bound
  have hidentity : (identityDocument exampleIdentity).textBound (fun n => JsonText.numberSize (numberText n)) ≤ 800 := by
    decide +kernel
  have hlengths : "x".length = 1 ∧ "e".length = 1 := by decide
  unfold utf8Length
  omega

theorem exampleChecked (hid : btrimEmpty "x" = false) : checkResolution exampleIdentity ⟨"x", hid⟩ exampleEvidence
    exampleAudit (exampleUnknownOutbox.rows exampleIdentity.id) =
      .ok (dumps (resolutionRecord exampleIdentity "x" exampleEvidence "e")) := by
  obtain ⟨fields, hverified, hkeys⟩ := examplePayload_verified
  have haudit : auditMatches exampleIdentity fields exampleAudit = true := by
    simp only [auditMatches, exampleAudit, hverified, equal_refl hkeys]
    rfl
  have hrow : exampleUnknownOutbox.rows exampleIdentity.id = some exampleUnknownRow := rfl
  have hidentity : HasIdentity exampleIdentity exampleIdentity.publishAttempts exampleUnknownRow :=
    ⟨rfl, rfl, rfl, rfl, rfl⟩
  have hpayload : exampleUnknownRow.payload = examplePayloadColumn := by simp only [exampleUnknownRow]
  rw [hrow]
  simp only [checkResolution]
  rw [if_neg (not_not.mpr hidentity), hpayload, hverified]
  simp only [haudit, not_true_eq_false, if_false]
  simp only [exampleUnknownRow, exampleRecord_bytes, ne_eq, not_true_eq_false, if_false, reduceCtorEq, Option.isSome_none,
    Bool.false_eq_true, or_self]
  rw [if_neg (by decide)]

/-- White space around a reconciliation id does not make it another one. -/
theorem resolution_repeated_padded : ∃ identity evidence auditRows migrations now o o' receipt,
    RedisAcceptanceEvidence.Valid evidence ∧
    resolveUnknownOutboxFromRedisEvidence identity "x" evidence migrations auditRows now o = .ok (o', .resolved receipt) ∧
    resolveUnknownOutboxFromRedisEvidence identity " x" evidence migrations auditRows now o' =
      .ok (o', .alreadyResolved receipt) := by
  have hid : requireReconciliationId "x" = .ok ⟨"x", by decide⟩ := by decide
  have hpadded : requireReconciliationId " x" = .ok ⟨"x", by decide⟩ := by decide
  have hadmitted : ResolutionAdmitted exampleIdentity exampleEvidence (some [migration018]) :=
    ⟨rfl, rfl, rfl, rfl, by decide⟩
  obtain ⟨o', hresolved⟩ := resolveUnknownOutboxFromRedisEvidence_resolved hid hadmitted (exampleChecked _) 0
  refine ⟨_, _, _, _, _, _, o', _, exampleEvidence_valid, hresolved, ?_⟩
  obtain ⟨id, hid', -, -, hfound⟩ := resolveUnknownOutboxFromRedisEvidence_again hresolved rfl
  obtain rfl := Except.ok.inj (hid.symm.trans hid')
  have hsame := hfound ⟨"x", by decide⟩ exampleEvidence
  rw [if_neg (not_not.mpr rfl), equal_refl exampleEvidence.uniqueKeys_document] at hsame
  exact resolveUnknownOutboxFromRedisEvidence_found hpadded hadmitted (by simpa using hsame)

end Padded

end KairosPersistence
