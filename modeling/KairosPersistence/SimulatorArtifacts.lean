import KairosPersistence.CanarySession
import KairosPersistence.JsonReading
import KairosPersistence.PayloadFingerprint
import KairosPersistence.SourceUsage
import KairosPersistence.Transactions

/-!
What the simulator journal shares with the other journals: the checks of a
stored payload, the audit log and the outbox of its public artifacts.
-/

namespace KairosPersistence

open PythonJson PythonText
open Transactions (require found)

inductive SimulatorError where
  | valueError (message : String)
  | keyError (message : String)
  | messageIdentityConflict (message : String)
  | runtimeError (message : String)
  | databaseError
  deriving DecidableEq, Repr

/-- What `model_dump` of a public contract gives: a dictionary. -/
structure ModelDump where
  fields : List (String × PyJson)
  uniqueKeys : (Json.obj fields).UniqueKeys

def ModelDump.value (payload : ModelDump) : PyJson := .obj payload.fields

/-- What a column gives back of the payload has the fingerprint of the payload. -/
def Reloads (payload : PyJson) : Prop :=
  ∀ column, Jsonb.jsonbIn (dumps payload) = some column →
    ∃ reread, readColumn column = some reread ∧ dumps reread = dumps payload

section Stored

/-- `_object`. -/
def storedObject (column : JsonColumn) : Except SimulatorError PyJson :=
  match readColumn column with
  | some (.obj fields) => .ok (.obj fields)
  | _ => .error (.messageIdentityConflict "durable simulator payload is not a JSON object")

/-- `_assert_payload_identity`, without an identifier. -/
def assertPayloadIdentity (column : JsonColumn) (payloadSha256 expectedPayloadSha256 entity : String) :
    Except SimulatorError Unit := do
  let payload ← storedObject column
  require (payloadSha256 = digest payload)
    (.messageIdentityConflict (entity ++ " stored payload hash does not match its durable JSON"))
  require (digest payload = expectedPayloadSha256)
    (.messageIdentityConflict (entity ++ " stable ID was reused with a different immutable payload"))

/-- `_stored_model`; `modelValidate` is the contract's own. -/
def storedModel {α : Type} (modelValidate : PyJson → Option α) (column : JsonColumn) (payloadSha256 entity : String) :
    Except SimulatorError α := do
  let payload ← storedObject column
  require (digest payload = payloadSha256)
    (.messageIdentityConflict (entity ++ " stored payload hash does not match its durable JSON"))
  found (modelValidate payload)
    (.messageIdentityConflict (entity ++ " stored payload no longer satisfies its public contract"))

theorem storedObject_ok {column : JsonColumn} {payload : PyJson} (h : storedObject column = .ok payload) :
    readColumn column = some payload := by
  unfold storedObject at h
  split at h
  · rename_i fields hread
    rw [hread, Except.ok.inj h]
  · cases h

theorem storedObject_of_read {column : JsonColumn} {reread : PyJson} {payload : ModelDump}
    (hread : readColumn column = some reread) (hdumps : dumps reread = dumps payload.value) :
    storedObject column = .ok reread := by
  obtain ⟨fields, rfl⟩ := eq_obj_of_dumps hdumps
  rw [storedObject, hread]

theorem digest_congr {t u : PyJson} (h : dumps t = dumps u) : digest t = digest u := by
  rw [digest, digest, canonicalPayload, canonicalPayload, h]

/-- What a check of a stored payload has read. -/
theorem assertPayloadIdentity_ok {column : JsonColumn} {sha expected entity : String} {u : Unit}
    (h : assertPayloadIdentity column sha expected entity = .ok u) :
    sha = expected ∧ ∃ payload, storedObject column = .ok payload ∧ digest payload = expected := by
  obtain ⟨payload, hpayload, h⟩ := Transactions.bind_ok h
  obtain ⟨_, hsha, h⟩ := Transactions.bind_ok h
  have hsha := Transactions.require_ok hsha
  have hexpected := Transactions.require_ok h
  exact ⟨hsha.trans hexpected, payload, hpayload, hexpected⟩

theorem assertPayloadIdentity_of {column : JsonColumn} {sha entity : String} {payload : PyJson}
    (hpayload : storedObject column = .ok payload) (hsha : digest payload = sha) :
    assertPayloadIdentity column sha sha entity = .ok () := by
  rw [assertPayloadIdentity, hpayload, Transactions.ok_bind, Transactions.require_pos hsha.symm, Transactions.ok_bind,
    Transactions.require_pos hsha]

theorem assertPayloadIdentity_ne {column : JsonColumn} {sha expected entity : String} (h : sha ≠ expected) :
    ∃ e, assertPayloadIdentity column sha expected entity = .error e := by
  cases hcheck : assertPayloadIdentity column sha expected entity with
  | error e => exact ⟨e, rfl⟩
  | ok u => exact absurd (assertPayloadIdentity_ok hcheck).1 h

/-- A payload that reloads passes its check. -/
theorem Reloads.identity {payload : ModelDump} {column : JsonColumn} (h : Reloads payload.value)
    (hcolumn : Jsonb.jsonbIn (dumps payload.value) = some column) (entity : String) :
    assertPayloadIdentity column (digest payload.value) (digest payload.value) entity = .ok () := by
  obtain ⟨reread, hread, hdumps⟩ := h column hcolumn
  exact assertPayloadIdentity_of (storedObject_of_read hread hdumps) (digest_congr hdumps)

/-- A payload that reloads is the model that was stored. -/
theorem Reloads.model {α : Type} {modelValidate : PyJson → Option α} {payload : ModelDump} {column : JsonColumn} {a : α}
    (h : Reloads payload.value) (hcolumn : Jsonb.jsonbIn (dumps payload.value) = some column)
    (hvalidate : ∀ v, dumps v = dumps payload.value → modelValidate v = some a) (entity : String) :
    storedModel modelValidate column (digest payload.value) entity = .ok a := by
  obtain ⟨reread, hread, hdumps⟩ := h column hcolumn
  rw [storedModel, storedObject_of_read hread hdumps, Transactions.ok_bind,
    Transactions.require_pos (digest_congr hdumps), Transactions.ok_bind, hvalidate reread hdumps]
  rfl

/-- Which payloads reload: those that the column refuses, and those without a float that is a negative zero or
has a magnitude of `10 ^ 16` or more. -/
theorem reloads_iff {payload : ModelDump} (hnul : payload.value.everyString Jsonb.nulFree) :
    Reloads payload.value ↔ ∀ n ∈ payload.value.numbers, Jsonb.Stable n := by
  constructor
  · intro h
    obtain ⟨reread, hread, hdumps⟩ := h _ (Jsonb.jsonbIn_dumps hnul)
    have hreload := Jsonb.reload_eq hnul
    rw [Jsonb.reload, Jsonb.jsonbIn_dumps hnul, Option.bind_some] at hreload
    obtain rfl := Option.some.inj (hread.symm.trans hreload)
    exact (Jsonb.dumps_reloaded_iff payload.uniqueKeys).mp hdumps
  · intro h column hcolumn
    exact readColumn_stable hcolumn payload.uniqueKeys hnul h

end Stored

section Audit

/-- A row of `event_audit`. -/
structure EventAuditRow where
  producedAt : Timestamp
  messageId : String
  topic : String
  source : String
  schemaVersion : String
  correlationId : Option String
  causationId : Option String
  payload : JsonColumn

/-- What a transaction takes from outside: `datetime.fromisoformat` in UTC, `none` for a text that is no
timestamp and `some none` for one without an offset; and its start time. -/
structure SimulatorEnvironment where
  fromisoformat : String → Option (Option Timestamp)
  now : Timestamp

/-- A value that is a text other than the empty one. -/
def nonEmptyText : PyJson → Option String
  | .str s => if s = "" then none else some s
  | _ => none

/-- An argument of a `TEXT` column. -/
def textArgument : PyJson → Option (Option String)
  | .null => some none
  | .str s => some (some s)
  | _ => none

/-- `append_payload`. -/
def appendPayload (env : SimulatorEnvironment) (topic : String) (payload : ModelDump) (audit : List EventAuditRow) :
    Except SimulatorError (List EventAuditRow × Bool) := do
  let identity := SimulatorError.valueError "durable payload requires message_id, source and schema_version strings"
  let messageId ← found (nonEmptyText (getField payload.fields "message_id")) identity
  let source ← found (nonEmptyText (getField payload.fields "source")) identity
  let schemaVersion ← found (nonEmptyText (getField payload.fields "schema_version")) identity
  let producedAt ← match getField payload.fields "produced_at" with
    | .str s => .ok s
    | _ => .error (.valueError "durable payload requires an ISO-8601 produced_at string")
  let parsedAt ← found (env.fromisoformat producedAt) (.valueError "durable payload produced_at is not valid ISO-8601")
  let parsedAt ← found parsedAt (.valueError "durable payload produced_at must be timezone-aware")
  let correlationId ← found (textArgument (getField payload.fields "correlation_id")) .databaseError
  let causationId ← found (textArgument (getField payload.fields "causation_id")) .databaseError
  let column ← found (Jsonb.jsonbIn (dumps payload.value)) .databaseError
  if audit.any fun r => r.producedAt = parsedAt ∧ r.messageId = messageId then return (audit, false)
  else return (⟨parsedAt, messageId, topic, source, schemaVersion, correlationId, causationId, column⟩ :: audit, true)

/-- `_require_matching_audit_identity`. -/
def requireMatchingAuditIdentity (rows : List EventAuditRow) (topic canonicalJson : String) :
    Except SimulatorError Unit :=
  match rows with
  | [row] => do
    let stored ← found (readColumn row.payload) (.messageIdentityConflict "event audit has an unreadable payload")
    require (row.topic = topic ∧ dumps stored = canonicalJson)
      (.messageIdentityConflict "event audit message_id was reused with different topic or payload")
  | _ => .error (.messageIdentityConflict "event audit message_id does not identify exactly one immutable payload")

/-- `append_payload_strict`. -/
def appendPayloadStrict (env : SimulatorEnvironment) (topic : String) (payload : ModelDump) (audit : List EventAuditRow) :
    Except SimulatorError (List EventAuditRow × Bool) := do
  let messageId ← found ((nonEmptyText (getField payload.fields "message_id")).filter fun s => strip s ≠ "")
    (.valueError "durable payload requires a non-empty message_id")
  let named := fun (rows : List EventAuditRow) => rows.filter (·.messageId = messageId)
  if named audit ≠ [] then do
    requireMatchingAuditIdentity (named audit) topic (dumps payload.value)
    return (audit, false)
  else do
    let (audit, inserted) ← appendPayload env topic payload audit
    if inserted then return (audit, true)
    else do
      requireMatchingAuditIdentity (named audit) topic (dumps payload.value)
      return (audit, false)

/-- The audit log and the outbox. -/
structure Artifacts where
  audit : List EventAuditRow
  outbox : Outbox

def SimulatorError.ofOutbox : OutboxError → SimulatorError
  | .valueError message => .valueError message
  | .runtimeError message => .runtimeError message
  | .messageIdentityConflict messageId => .messageIdentityConflict messageId
  | .databaseError => .databaseError

def simulatorOutboxProducer : String := "kairos-market-simulator"

/-- `_append_artifact`. -/
def appendArtifact (env : SimulatorEnvironment) (topic : String) (payload : ModelDump) (a : Artifacts) :
    Except SimulatorError Artifacts := do
  let messageId ← found (nonEmptyText (getField payload.fields "message_id"))
    (.valueError "simulation public artifact requires a stable message_id")
  let (audit, _) ← appendPayloadStrict env topic payload a.audit
  let (outbox, _) ← (enqueueOutbox messageId topic (canonicalPayload payload.value).1 (canonicalPayload payload.value).2
    simulatorOutboxProducer env.now a.outbox).mapError .ofOutbox
  return ⟨audit, outbox⟩

end Audit

end KairosPersistence
