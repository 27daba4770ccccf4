import KairosPersistence.DatetimeReading
import KairosPersistence.JsonReading
import KairosPersistence.OfflineOutbox
import KairosPersistence.OperatorModels

/-!
What the exact offline operations write: the conditions of their updates are
those that they have checked of the locked row, and a call that refuses the row
leaves it as it is.
-/

namespace KairosPersistence

open PythonJson PythonText
open Transactions

variable {identity : OfflineOutboxIdentity} {o o' : Outbox} {now : Timestamp}

section Validation

variable {row? : Option OutboxRow} {auditRows : List AuditRow} {predecessor clear head available : Bool}
  {lease : LeaseRequirement}

/-- What `_validate_exact_offline_outbox` accepts. -/
structure Validated (identity : OfflineOutboxIdentity) (auditRows : List AuditRow) (predecessor : Bool)
    (lease : LeaseRequirement) (clear head available : Bool) (now : Timestamp) (row : OutboxRow) : Prop where
  has_identity : HasIdentity identity identity.publishAttempts row
  unpublished : row.publishedAt = none
  alive : row.deadLetteredAt = none
  expired : lease = .expired → row.leaseExpired now
  unleased : lease = .clear → row.leaseUntil = none
  is_available : available → row.available now
  is_clear : clear → row.reconciliationState = .none
  is_head : head → predecessor = false
  payload : ∃ payload, verifiedPayload identity row.payload = some payload ∧ auditMatches identity payload auditRows

theorem validateExactOfflineOutbox_eq_none :
    validateExactOfflineOutbox row? identity auditRows predecessor lease clear head available now = none ↔
      ∃ row, row? = some row ∧ Validated identity auditRows predecessor lease clear head available now row := by
  cases row? with
  | none => simp [validateExactOfflineOutbox]
  | some row =>
    constructor
    · intro h
      refine ⟨row, rfl, ?_⟩
      simp only [validateExactOfflineOutbox] at h
      split_ifs at h with hidentity hpublished hdead hexpired hleased havailable hclear hhead
      split at h
      · cases h
      · rename_i payload hpayload
        split_ifs at h with haudit
        exact ⟨hidentity, by simpa using hpublished, by simpa using hdead, by simpa using hexpired,
          by simpa using hleased, by simpa using havailable, by simpa using hclear, by simpa using hhead, payload, hpayload,
          haudit⟩
    · rintro ⟨_, ⟨⟩, h⟩
      obtain ⟨hidentity, hpublished, hdead, hexpired, hleased, havailable, hclear, hhead, payload, hpayload, haudit⟩ := h
      have hunleased : ¬(lease = .clear ∧ row.leaseUntil.isSome) := by
        rintro ⟨hlease, hsome⟩
        simp [hleased hlease] at hsome
      rw [validateExactOfflineOutbox, if_neg (not_not.mpr hidentity), if_neg (by simp [hpublished]), if_neg (by simp [hdead]),
        if_neg (by simpa using hexpired), if_neg hunleased, if_neg (by simpa using havailable),
        if_neg (by simpa using hclear), if_neg (by simpa using hhead)]
      simp [hpayload, haudit]

theorem validateExactOfflineOutbox_ne_raceLost :
    validateExactOfflineOutbox row? identity auditRows predecessor lease clear head available now ≠ some .raceLost := by
  intro h
  cases row? with
  | none => simp [validateExactOfflineOutbox] at h
  | some row =>
    simp only [validateExactOfflineOutbox] at h
    repeat' split at h
    all_goals cases h

end Validation

section Update

variable {id : ℕ} {f : OutboxRow → Option OutboxRow} {r r' : OutboxRow}

/-- The table with the row of an id replaced. -/
def Outbox.Replaced (o o' : Outbox) (id : ℕ) (r : OutboxRow) : Prop :=
  o'.nextId = o.nextId ∧ o'.rows = fun i => if i = id then some r else o.rows i

theorem Outbox.Replaced.self (h : o.Replaced o' id r) : o'.rows id = some r := by
  rw [h.2]
  exact if_pos rfl

/-- An update whose conditions the row meets writes that row, and no other. -/
theorem update_matches (hf : ∀ r r', f r = some r' → r'.messageId = r.messageId) (hr : o.rows id = some r) (hfr : f r = some r') :
    (o.update id f hf).2 = true ∧ o.Replaced (o.update id f hf).1 id r' := by
  have hupdated : (o.update id f hf).2 = true := by
    rcases Outbox.rows_update o id f hf id with hsame | ⟨-, _, _, _, _, _, h⟩
    · by_contra hfalse
      unfold Outbox.update at hfalse
      split at hfalse
      · rename_i hnone
        rw [hr, Option.bind_some, hfr] at hnone
        cases hnone
      · exact hfalse rfl
    · exact h
  obtain ⟨_, _, hr₁, hfr₁, hrows⟩ := Outbox.update_true hupdated
  obtain rfl := Option.some.inj (hr.symm.trans hr₁)
  obtain rfl := Option.some.inj (hfr.symm.trans hfr₁)
  exact ⟨hupdated, Outbox.nextId_update, hrows⟩

end Update

section Claims

variable {lease : LeaseRequirement} {reconciliationId : String} {duration : Timestamp} {auditRows : List AuditRow}
  {result : OfflineOutboxClaimResult}

theorem claimExact_validated {predecessor : Bool} {row : OutboxRow}
    (hlease : lease = .expired ∨ lease = .clear)
    (h : Validated identity auditRows predecessor lease true true true now row) : ExactlyClaimable identity lease now row := by
  have hexpired : (if lease = .expired then row.leaseExpired now else decide (row.leaseUntil = none)) = true := by
    rcases hlease with rfl | rfl
    · exact h.expired rfl
    · exact decide_eq_true (h.unleased rfl)
  exact ⟨h.has_identity, h.unpublished, h.alive, h.is_available rfl, hexpired, h.is_clear rfl⟩

/-- An exact claim is refused for a reason that it has checked, and leaves the table alone, or writes the row. -/
theorem claimOutboxExact_cases (hlease : lease = .expired ∨ lease = .clear)
    (h : claimOutboxExact lease identity reconciliationId duration auditRows now o = .ok (o', result)) :
    (∃ rejection, result = .inl rejection ∧ rejection ≠ .raceLost ∧ o' = o) ∨
      ∃ id claim row, requireReconciliationId reconciliationId = .ok id ∧ result = .inr claim ∧
        o.rows identity.id = some row ∧ o.Replaced o' identity.id (row.claim id.1 id duration now) := by
  unfold claimOutboxExact at h
  cases hid : requireReconciliationId reconciliationId with
  | error e =>
    rw [hid] at h
    cases h
  | ok id =>
    simp only [hid] at h
    split at h
    · cases h
    · split at h
      · rename_i rejection hrejection
        obtain ⟨rfl, rfl⟩ := Prod.mk.inj (Except.ok.inj h)
        refine Or.inl ⟨rejection, rfl, ?_, rfl⟩
        rintro rfl
        exact validateExactOfflineOutbox_ne_raceLost hrejection
      · rename_i hnone
        obtain ⟨row, hrow, hvalid⟩ := validateExactOfflineOutbox_eq_none.mp hnone
        obtain ⟨hupdated, hreplaced⟩ := update_matches claimExact_messageId hrow
          (show claimExact identity lease id duration now row = _ from if_pos (claimExact_validated hlease hvalid))
        simp only [hupdated, hrow, if_true] at h
        obtain ⟨rfl, rfl⟩ := Prod.mk.inj (Except.ok.inj h)
        exact Or.inr ⟨id, _, row, rfl, rfl, hrow, hreplaced⟩

end Claims

section Quarantine

variable {expiredLease : OfflineOutboxExpiredLease} {reconciliationId reason : String} {migrations : Option (List String)}
  {auditRows : List AuditRow} {result : OfflineOutboxQuarantineResult}

theorem requireQuarantineReason_ok {stripped : String} (h : requireQuarantineReason reason = .ok stripped) :
    stripped = strip reason := by
  unfold requireQuarantineReason at h
  split_ifs at h
  exact (Except.ok.inj h).symm

theorem quarantinedReceipt_quarantine {row : OutboxRow} {id : ReconciliationId} {evidence : String} :
    quarantinedReceipt reason evidence expiredLease id (row.quarantine evidence id now) =
      .ok ⟨id.1, reason, expiredLease, now, now⟩ := by
  simp [quarantinedReceipt, OutboxRow.quarantine, quarantineReceipt]

/-- What a quarantine has checked of its arguments and of the row before it writes. -/
structure QuarantineChecked (identity : OfflineOutboxIdentity) (expiredLease : OfflineOutboxExpiredLease)
    (reconciliationId reason : String) (migrations : Option (List String)) (auditRows : List AuditRow) (now : Timestamp)
    (id : ReconciliationId) (evidence : String) (row : OutboxRow) : Prop where
  has_id : requireReconciliationId reconciliationId = .ok id
  has_reason : requireQuarantineReason reason = .ok (strip reason)
  has_evidence : quarantineEvidence (strip reason) expiredLease = .ok evidence
  migrated : migrationApplied migrations
  validated : Validated identity auditRows false .ignored false false false now row
  quarantinable : Quarantinable identity expiredLease now row

/-- A quarantine that is not written leaves the table alone, and is not refused for a lost race. -/
theorem quarantineExpiredOutboxExact_cases
    (h : quarantineExpiredOutboxExact identity expiredLease reconciliationId reason migrations auditRows now o =
      .ok (o', result)) :
    (o' = o ∧ (∀ receipt, result ≠ .quarantined receipt) ∧ result ≠ .rejected (.claim .raceLost)) ∨
      ∃ id evidence row, o.rows identity.id = some row ∧
        QuarantineChecked identity expiredLease reconciliationId reason migrations auditRows now id evidence row ∧
        result = .quarantined ⟨id.1, strip reason, expiredLease, now, now⟩ ∧
        o.Replaced o' identity.id (row.quarantine evidence id now) := by
  unfold quarantineExpiredOutboxExact at h
  obtain ⟨id, hid, h⟩ := bind_ok h
  obtain ⟨reason', hreason, h⟩ := bind_ok h
  obtain ⟨evidence, hevidence, h⟩ := bind_ok h
  obtain rfl := requireQuarantineReason_ok hreason
  have hkept {rejection : OfflineOutboxQuarantineResult} (h : Except.ok (o, rejection) = Except.ok (ε := OutboxError) (o', result))
      (hne : (∀ receipt, rejection ≠ .quarantined receipt) ∧ rejection ≠ .rejected (.claim .raceLost)) :
      o' = o ∧ (∀ receipt, result ≠ .quarantined receipt) ∧ result ≠ .rejected (.claim .raceLost) := by
    obtain ⟨rfl, rfl⟩ := Prod.mk.inj (Except.ok.inj h)
    exact ⟨rfl, hne⟩
  simp only at h
  split at h
  · exact Or.inl (hkept h (by simp))
  split at h
  · rename_i rejection _ hrejection
    refine Or.inl (hkept h ⟨by simp, ?_⟩)
    rintro ⟨⟩
    exact validateExactOfflineOutbox_ne_raceLost hrejection
  · exact Or.inl (hkept h (by simp))
  rename_i hmigrated _ _ row hnone hrow
  obtain ⟨_, hrow', hvalid⟩ := validateExactOfflineOutbox_eq_none.mp hnone
  obtain rfl := Option.some.inj (hrow.symm.trans hrow')
  split at h
  · split at h
    · exact Or.inl (hkept h (by simp))
    · exact Or.inl (hkept h (by simp))
  -- the state, the availability, the expiry and the lease may each refuse the row
  iterate 4 (split at h; · exact Or.inl (hkept h (by simp)))
  rename_i hstate havailable hexpired hidentity
  have hquarantinable : Quarantinable identity expiredLease now row := by
    obtain ⟨howner, huntil⟩ := not_or.mp hidentity
    exact ⟨hvalid.has_identity, not_not.mp howner, not_not.mp huntil, hvalid.unpublished, hvalid.alive,
      not_not.mp havailable, not_not.mp hexpired, not_not.mp hstate⟩
  obtain ⟨hupdated, hreplaced⟩ := update_matches quarantineExact_messageId hrow
    (show quarantineExact identity expiredLease evidence id now row = _ from if_pos hquarantinable)
  simp only [hupdated, if_true, hreplaced.self] at h
  obtain ⟨receipt, hreceipt, h⟩ := bind_ok h
  obtain ⟨rfl, rfl⟩ := Prod.mk.inj (Except.ok.inj h)
  rw [quarantinedReceipt_quarantine] at hreceipt
  obtain rfl := Except.ok.inj hreceipt
  exact Or.inr ⟨id, evidence, row, hrow, ⟨hid, hreason, hevidence, by simpa using hmigrated, hvalid, hquarantinable⟩, rfl, hreplaced⟩

end Quarantine

section Resolution

variable {id : ReconciliationId} {reconciliationId record : String} {evidence : RedisAcceptanceEvidence}
  {migrations : Option (List String)} {auditRows : List AuditRow} {row? : Option OutboxRow} {row : OutboxRow}
  {result : OfflineOutboxTransportResolutionResult}

/-- What a resolution has checked of its arguments before it locks the row. -/
structure ResolutionAdmitted (identity : OfflineOutboxIdentity) (evidence : RedisAcceptanceEvidence)
    (migrations : Option (List String)) : Prop where
  topic : evidence.topic = identity.topic
  message_id : evidence.messageId = identity.messageId
  payload_sha256 : evidence.canonicalPayloadSha256 = identity.payloadSha256
  match_count : evidence.matchCount = 1
  migrated : migrationApplied migrations

/-- What a resolution has checked of the row before it writes the record. -/
structure ResolutionChecked (identity : OfflineOutboxIdentity) (id : ReconciliationId) (evidence : RedisAcceptanceEvidence)
    (auditRows : List AuditRow) (record : String) (row : OutboxRow) : Prop where
  payload : ∃ payload, verifiedPayload identity row.payload = some payload ∧ auditMatches identity payload auditRows
  state : row.reconciliationState = .publishOutcomeUnknown
  resolvable : Resolvable identity id row.lastError row
  record : ∃ lastError, record = dumps (resolutionRecord identity id.1 evidence lastError)

theorem checkResolution_ok (h : checkResolution identity id evidence auditRows row? = .ok record) :
    ∃ row, row? = some row ∧ ResolutionChecked identity id evidence auditRows record row := by
  cases row? with
  | none => cases h
  | some row =>
    simp only [checkResolution] at h
    split at h
    · cases h
    rename_i hidentity
    split at h
    · cases h
    rename_i payload hpayload
    split at h
    · cases h
    rename_i haudit
    split at h
    · cases h
    rename_i hid
    split at h
    · repeat' split at h
      all_goals cases h
    split at h
    · cases h
    rename_i hstate
    split at h
    · cases h
    rename_i hconsistent
    split at h
    · cases h
    rename_i lastError hlastError
    split at h
    · cases h
    split at h
    · cases h
    obtain rfl := Except.ok.inj h
    simp only [not_or, Bool.not_eq_true, Option.isSome_eq_false_iff, Option.isNone_iff_eq_none] at hconsistent
    refine ⟨row, rfl, ⟨payload, hpayload, by simpa using haudit⟩, not_not.mp hstate, ?_, lastError, rfl⟩
    exact ⟨not_not.mp hidentity, not_not.mp hid, hconsistent.1, hconsistent.2.1, hconsistent.2.2.1, hconsistent.2.2.2,
      by rw [hlastError]; rfl, rfl⟩

/-- The checks of a resolution say neither that it is written nor that a race is lost. -/
theorem checkResolution_error (h : checkResolution identity id evidence auditRows row? = .error result) :
    (∀ receipt, result ≠ .resolved receipt) ∧ result ≠ .rejected .raceLost := by
  cases row? with
  | none =>
    obtain rfl := Except.error.inj h
    simp
  | some row =>
    simp only [checkResolution] at h
    repeat' split at h
    all_goals
      cases h
      try simp

/-- A resolution that is not written leaves the table alone, and is not refused for a lost race. -/
theorem resolveUnknownOutboxFromRedisEvidence_cases
    (h : resolveUnknownOutboxFromRedisEvidence identity reconciliationId evidence migrations auditRows now o =
      .ok (o', result)) :
    (o' = o ∧ (∀ receipt, result ≠ .resolved receipt) ∧ result ≠ .rejected .raceLost) ∨
      ∃ id record row, ∃ hchecked : ResolutionChecked identity id evidence auditRows record row,
        requireReconciliationId reconciliationId = .ok id ∧ ResolutionAdmitted identity evidence migrations ∧
        o.rows identity.id = some row ∧ result = .resolved ⟨identity, id.1, evidence, now⟩ ∧
        o.Replaced o' identity.id (row.resolve record now hchecked.state) := by
  unfold resolveUnknownOutboxFromRedisEvidence at h
  obtain ⟨id, hid, h⟩ := bind_ok h
  have hkept {refused : OfflineOutboxTransportResolutionResult}
      (h : Except.ok (o, refused) = Except.ok (ε := OutboxError) (o', result))
      (hne : (∀ receipt, refused ≠ .resolved receipt) ∧ refused ≠ .rejected .raceLost) :
      o' = o ∧ (∀ receipt, result ≠ .resolved receipt) ∧ result ≠ .rejected .raceLost := by
    obtain ⟨rfl, rfl⟩ := Prod.mk.inj (Except.ok.inj h)
    exact ⟨rfl, hne⟩
  -- the evidence, the number of matches and the migration may each end the call
  iterate 4 (split at h; · exact Or.inl (hkept h (by simp)))
  rename_i hevidence hsome hmany hmigrated
  have hadmitted : ResolutionAdmitted identity evidence migrations := by
    simp only [not_or, not_not] at hevidence
    obtain ⟨htopic, hmessage, hpayload⟩ := hevidence
    exact ⟨htopic, hmessage, hpayload, by omega, by simpa using hmigrated⟩
  split at h
  · rename_i hrefused
    exact Or.inl (hkept h (checkResolution_error hrefused))
  rename_i record hrecord
  obtain ⟨row, hrow, hchecked⟩ := checkResolution_ok hrecord
  have hwritten : resolveExact identity id ((o.rows identity.id).bind (·.lastError)) record now row =
      some (row.resolve record now hchecked.state) := by
    rw [resolveExact, dif_pos hchecked.state, hrow, Option.bind_some, if_pos hchecked.resolvable]
  obtain ⟨hupdated, hreplaced⟩ := update_matches resolveExact_messageId hrow hwritten
  simp only [hupdated, if_true] at h
  obtain ⟨rfl, rfl⟩ := Prod.mk.inj (Except.ok.inj h)
  exact Or.inr ⟨id, record, row, hchecked, hid, hadmitted, hrow, rfl, hreplaced⟩

end Resolution

section Race

/-- The update finds the row that was locked, whatever else has changed in the table, and writes no other one. -/
def FindsLockedRow (o : Outbox) (id : ℕ) (f : OutboxRow → Option OutboxRow)
    (hf : ∀ r r', f r = some r' → r'.messageId = r.messageId) : Prop :=
  ∃ r, ∀ t : Outbox, t.rows id = o.rows id → (t.update id f hf).2 = true ∧ t.Replaced (t.update id f hf).1 id r

theorem findsLockedRow {id : ℕ} {f : OutboxRow → Option OutboxRow} {hf : ∀ r r', f r = some r' → r'.messageId = r.messageId}
    {r r' : OutboxRow} (hr : o.rows id = some r) (hfr : f r = some r') : FindsLockedRow o id f hf :=
  ⟨r', fun _ ht => update_matches hf (ht.trans hr) hfr⟩

/-- What the checks in Python accept of a locked row is what the conditional update demands of it: a race is never lost. -/
structure NoRaceLost (identity : OfflineOutboxIdentity) (auditRows : List AuditRow) (now : Timestamp) (o : Outbox) :
    Prop where
  claim_finds : ∀ lease id duration predecessor, lease = .expired ∨ lease = .clear →
    validateExactOfflineOutbox (o.rows identity.id) identity auditRows predecessor lease true true true now = none →
      FindsLockedRow o identity.id (claimExact identity lease id duration now) claimExact_messageId
  claim_expired : ∀ reconciliationId duration o' result,
    claimExpiredOutboxExact identity reconciliationId duration auditRows now o = .ok (o', result) → result ≠ .inl .raceLost
  claim_ready : ∀ reconciliationId duration o' result,
    claimReadyOutboxExact identity reconciliationId duration auditRows now o = .ok (o', result) → result ≠ .inl .raceLost
  quarantine_finds : ∀ (expiredLease : OfflineOutboxExpiredLease) evidence id row,
    validateExactOfflineOutbox (o.rows identity.id) identity auditRows false .ignored false false false now = none →
      o.rows identity.id = some row → row.reconciliationState = .none → row.available now → row.leaseExpired now →
        row.leaseOwner = some expiredLease.owner → row.leaseUntil = some expiredLease.untilAt →
          FindsLockedRow o identity.id (quarantineExact identity expiredLease evidence id now) quarantineExact_messageId
  quarantine : ∀ expiredLease reconciliationId reason migrations o' result,
    quarantineExpiredOutboxExact identity expiredLease reconciliationId reason migrations auditRows now o =
      .ok (o', result) → result ≠ .rejected (.claim .raceLost)
  resolution_finds : ∀ id evidence record, checkResolution identity id evidence auditRows (o.rows identity.id) = .ok record →
    FindsLockedRow o identity.id (resolveExact identity id ((o.rows identity.id).bind (·.lastError)) record now)
      resolveExact_messageId
  resolution : ∀ reconciliationId evidence migrations o' result,
    resolveUnknownOutboxFromRedisEvidence identity reconciliationId evidence migrations auditRows now o =
      .ok (o', result) → result ≠ .rejected .raceLost

theorem race_never_lost (identity : OfflineOutboxIdentity) (auditRows : List AuditRow) (now : Timestamp) (o : Outbox) :
    NoRaceLost identity auditRows now o := by
  have hclaim {lease : LeaseRequirement} (hlease : lease = .expired ∨ lease = .clear) (reconciliationId : String)
      (duration : Timestamp) (o' : Outbox) (result : OfflineOutboxClaimResult)
      (h : claimOutboxExact lease identity reconciliationId duration auditRows now o = .ok (o', result)) :
      result ≠ .inl .raceLost := by
    rcases claimOutboxExact_cases hlease h with ⟨rejection, rfl, hne, -⟩ | ⟨_, claim, _, -, rfl, -⟩
    · exact fun heq => hne (Sum.inl.inj heq)
    · exact Sum.inr_ne_inl
  constructor
  · intro lease id duration predecessor hlease hnone
    obtain ⟨row, hrow, hvalid⟩ := validateExactOfflineOutbox_eq_none.mp hnone
    exact findsLockedRow hrow (if_pos (claimExact_validated hlease hvalid))
  · exact hclaim (Or.inl rfl)
  · exact hclaim (Or.inr rfl)
  · intro expiredLease evidence id row hnone hrow hstate havailable hexpired howner huntil
    obtain ⟨_, hrow', hvalid⟩ := validateExactOfflineOutbox_eq_none.mp hnone
    obtain rfl := Option.some.inj (hrow.symm.trans hrow')
    have hquarantinable : Quarantinable identity expiredLease now row :=
      ⟨hvalid.has_identity, howner, huntil, hvalid.unpublished, hvalid.alive, havailable, hexpired, hstate⟩
    exact findsLockedRow hrow (if_pos hquarantinable)
  · intro expiredLease reconciliationId reason migrations o' result h
    rcases quarantineExpiredOutboxExact_cases h with ⟨-, -, hne⟩ | ⟨_, _, _, -, -, rfl, -⟩
    · exact hne
    · simp
  · intro id evidence record h
    obtain ⟨row, hrow, hchecked⟩ := checkResolution_ok h
    apply findsLockedRow hrow
    rw [resolveExact, dif_pos hchecked.state, hrow, Option.bind_some, if_pos hchecked.resolvable]
  · intro reconciliationId evidence migrations o' result h
    rcases resolveUnknownOutboxFromRedisEvidence_cases h with ⟨-, -, hne⟩ | ⟨_, _, _, _, -, -, -, rfl, -⟩
    · exact hne
    · simp

end Race

end KairosPersistence
