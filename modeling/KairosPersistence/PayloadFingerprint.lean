import KairosPersistence.OutboxDelivery

/-!
The content identity of a payload that was stored in a `jsonb` column, against
the identity computed before storing.
-/

namespace KairosPersistence

open PythonJson PythonText Jsonb

/-- `sample_identity`. -/
def sampleIdentity (runId : String) (seq : ℕ) (receivedAt : Timestamp) (previous : String) (data : PyJson) : String :=
  (canonicalPayload (.obj [
    ("domain", .str "kairos.readonly-sample.v1"),
    ("run_id", .str runId),
    ("seq", .num (.int seq)),
    ("received_at", .str (isoformat false receivedAt)),
    ("previous", .str previous),
    ("observation", data)])).2

/-- A dictionary that `canonical_payload` accepts and a `jsonb` column can hold. -/
structure Storable (payload : PyJson) : Prop where
  object : ∃ fields, payload = .obj fields
  uniqueKeys : payload.UniqueKeys
  nulFree : payload.everyString nulFree

/-- The payload is read back with its encoding and identity: the dispatcher accepts every untampered
record of it, an identical enqueue of a stored message changes nothing, and a sample has its digest. -/
def FingerprintStable (payload : PyJson) : Prop :=
  ∃ column reread, jsonbIn (canonicalPayload payload).1 = some column ∧ readColumn column = some reread ∧
    canonicalPayload reread = canonicalPayload payload ∧
    (∀ id k (r : OutboxRow), r.payload = column → r.payloadSha256 = some (canonicalPayload payload).2 →
      prePublishHashMatches (toRecord id k r) = true) ∧
    (∀ messageId topic producer now (o : Outbox) i r, strip producer ≠ "" → o.findMessage messageId = some i →
      o.rows i = some r → r.topic = topic → r.producer = producer → r.payload = column →
      r.payloadSha256 = some (canonicalPayload payload).2 →
      enqueueOutbox messageId topic (canonicalPayload payload).1 (canonicalPayload payload).2 producer now o =
        .ok (o.burn, false)) ∧
    ∀ runId seq receivedAt previous,
      sampleIdentity runId seq receivedAt previous reread = sampleIdentity runId seq receivedAt previous payload

section Reread

variable {payload reread : PyJson} {column : JsonColumn}

theorem canonicalPayload_eq_iff : canonicalPayload reread = canonicalPayload payload ↔ dumps reread = dumps payload := by
  constructor
  · exact fun h => congrArg Prod.fst h
  · exact fun h => by rw [canonicalPayload, h, canonicalPayload]

theorem prePublishHashMatches_of_canonicalPayload (hread : readColumn column = some reread)
    (h : canonicalPayload reread = canonicalPayload payload) {r : OutboxRow} (hr : r.payload = column)
    (hsha : r.payloadSha256 = some (canonicalPayload payload).2) (id : ℕ) (k : String) :
    prePublishHashMatches (toRecord id k r) = true := by
  simp [prePublishHashMatches, toRecord, hr, hread, hsha, h]

theorem conflicts_eq_false (hread : readColumn column = some reread) (h : dumps reread = dumps payload)
    {r : OutboxRow} (hr : r.payload = column) {sha : String} (hsha : r.payloadSha256 = some sha) :
    conflicts r r.topic (dumps payload) sha r.producer = false := by
  simp [conflicts, hr, hread, h, hsha]

theorem enqueueOutbox_again (hcolumn : jsonbIn (canonicalPayload payload).1 = some column)
    (hread : readColumn column = some reread) (h : dumps reread = dumps payload) {messageId : String}
    {now : Timestamp} {o : Outbox} {i : ℕ} {r : OutboxRow} (hproducer : strip r.producer ≠ "")
    (hi : o.findMessage messageId = some i) (hrow : o.rows i = some r) (hr : r.payload = column)
    (hsha : r.payloadSha256 = some (canonicalPayload payload).2) :
    enqueueOutbox messageId r.topic (canonicalPayload payload).1 (canonicalPayload payload).2 r.producer now o =
      .ok (o.burn, false) := by
  unfold enqueueOutbox
  rw [if_neg hproducer, hcolumn]
  have hconflict : conflicts r r.topic (canonicalPayload payload).1 (canonicalPayload payload).2 r.producer = false :=
    conflicts_eq_false hread h hr hsha
  dsimp only
  split
  · rename_i hnone
    rw [hi] at hnone
    cases hnone
  · rename_i j hj
    obtain rfl : i = j := Option.some.inj (hi.symm.trans hj)
    simp [hrow, hconflict, hsha]

/-- The digest of a sample depends on the canonical text of its observation alone. -/
theorem sampleIdentity_congr (h : dumps reread = dumps payload) (runId : String) (seq : ℕ) (receivedAt : Timestamp)
    (previous : String) :
    sampleIdentity runId seq receivedAt previous reread = sampleIdentity runId seq receivedAt previous payload := by
  have hsorted : payload.orderKeys (· ≤ ·) = reread.orderKeys (· ≤ ·) := (dumps_injective h).symm
  simp only [sampleIdentity, canonicalPayload, dumps, sortKeys, Json.orderKeys, Json.orderKeysFields, hsorted]

end Reread

/-- The fingerprint of a payload survives the column exactly when no float of the payload is a
negative zero or has a magnitude of `10 ^ 16` or more. -/
theorem fingerprintStable_iff {payload : PyJson} (h : Storable payload) :
    FingerprintStable payload ↔ ∀ n ∈ payload.numbers, Stable n := by
  obtain ⟨column, hcolumn⟩ : ∃ column, jsonbIn (dumps payload) = some column := ⟨_, jsonbIn_dumps h.nulFree⟩
  have hread : readColumn column = some (((sortKeys payload).orderKeys KeyLE).map reloaded) := by
    have hreload := reload_eq h.nulFree
    rwa [reload, hcolumn, Option.bind_some] at hreload
  rw [← dumps_reloaded_iff h.uniqueKeys]
  constructor
  · rintro ⟨column', reread, hcolumn', hread', hcanonical, -⟩
    obtain rfl : column = column' := Option.some.inj (hcolumn.symm.trans hcolumn')
    obtain rfl := Option.some.inj (hread.symm.trans hread')
    exact canonicalPayload_eq_iff.mp hcanonical
  · intro hdumps
    refine ⟨column, _, hcolumn, hread, canonicalPayload_eq_iff.mpr hdumps, ?_, ?_, ?_⟩
    · exact fun id k r hr hsha =>
        prePublishHashMatches_of_canonicalPayload hread (canonicalPayload_eq_iff.mpr hdumps) hr hsha id k
    · rintro messageId topic producer now o i r hproducer hi hrow rfl rfl hr hsha
      exact enqueueOutbox_again hcolumn hread hdumps hproducer hi hrow hr hsha
    · exact sampleIdentity_congr hdumps

section Example

def floatPayload (x : Binary64) : PyJson := .obj [("message_id", .str "m"), ("x", .num (.float x))]

theorem floatPayload_storable (x : Binary64) : Storable (floatPayload x) := by
  refine ⟨⟨_, rfl⟩, ?_, rfl⟩
  simp [floatPayload, Json.uniqueKeys_obj, Json.UniqueKeys]

theorem numbers_floatPayload {x : Binary64} {n : PyNumber} : n ∈ (floatPayload x).numbers ↔ n = .float x := by
  simp [floatPayload, Json.numbers, Json.numbersFields]

/-- A payload with `1.5`. -/
theorem fingerprintStable_iff_example :
    FingerprintStable (floatPayload ⟨false, 3 * 2 ^ 51, 1022, by norm_num, by norm_num, Or.inr (by norm_num)⟩) := by
  refine (fingerprintStable_iff (floatPayload_storable _)).mpr fun n hn => ?_
  rw [numbers_floatPayload.mp hn]
  constructor
  · decide +kernel
  · exact fun _ => rfl

def largePayload : PyJson := floatPayload ShortestDecimal.tenPower16

def largeColumn : JsonColumn := (jsonbIn (canonicalPayload largePayload).1).getD .null

def largeRow : OutboxRow := newOutboxRow "m" "orders" largeColumn (canonicalPayload largePayload).2 "risk" 0

/-- The identity of a payload with `1e16` is lost: the record of its untouched row is quarantined, and an
identical enqueue of the stored message is a conflict. -/
theorem fingerprint_large_float :
    Storable largePayload ∧ ¬FingerprintStable largePayload ∧
      dumps largePayload = "\x7b\"message_id\":\"m\",\"x\":1e+16\x7d" ∧
      (readColumn largeColumn).map dumps = some "\x7b\"message_id\":\"m\",\"x\":10000000000000000\x7d" ∧
      prePublishHashMatches (toRecord 1 "k" largeRow) = false ∧
      conflicts largeRow "orders" (canonicalPayload largePayload).1 (canonicalPayload largePayload).2 "risk" := by
  refine ⟨floatPayload_storable _, ?_, by decide +kernel, by decide +kernel, by decide +kernel, by decide +kernel⟩
  intro h
  obtain ⟨column, reread, hcolumn, hread, hcanonical, -⟩ := h
  have hdumps := congrArg (Option.map dumps) hread
  rw [show column = largeColumn by rw [largeColumn, hcolumn, Option.getD_some]] at hdumps
  exact absurd (hdumps.trans (congrArg some (canonicalPayload_eq_iff.mp hcanonical))) (by decide +kernel)

end Example

end KairosPersistence
