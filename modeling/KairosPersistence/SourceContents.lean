import KairosPersistence.BoundedJson
import KairosPersistence.CampaignWindows

/-!
Source receipts as they are printed and read: a receipt whose content is any
bounded JSON object is read back equal, whatever its strings and numbers are.
-/

namespace Json

variable {ν : Type}

mutual

def decidableUniqueKeys : (t : Json ν) → Decidable t.UniqueKeys
  | null | bool _ | num _ | str _ => isTrue trivial
  | arr items => decidableUniqueKeysItems items
  | obj fields =>
    have := decidableUniqueKeysFields fields
    inferInstanceAs (Decidable ((fields.map Prod.fst).Nodup ∧ UniqueKeysFields fields))

def decidableUniqueKeysItems : (items : List (Json ν)) → Decidable (UniqueKeysItems items)
  | [] => isTrue trivial
  | x :: xs =>
    have := decidableUniqueKeys x
    have := decidableUniqueKeysItems xs
    inferInstanceAs (Decidable (UniqueKeys x ∧ UniqueKeysItems xs))

def decidableUniqueKeysFields : (fields : List (String × Json ν)) → Decidable (UniqueKeysFields fields)
  | [] => isTrue trivial
  | (_, x) :: ps =>
    have := decidableUniqueKeys x
    have := decidableUniqueKeysFields ps
    inferInstanceAs (Decidable (UniqueKeys x ∧ UniqueKeysFields ps))

end

instance (t : Json ν) : Decidable t.UniqueKeys := decidableUniqueKeys t

end Json

namespace PythonJson

open Json (UniqueKeys)

/-- `d.get(key)`. -/
def lookup (fields : List (String × PyJson)) (key : String) : Option PyJson :=
  (fields.find? (·.1 = key)).map Prod.snd

theorem lookup_cons (k : String) (x : PyJson) (fields : List (String × PyJson)) (key : String) :
    lookup ((k, x) :: fields) key = if k = key then some x else lookup fields key := by
  by_cases h : k = key <;> simp [lookup, h]

theorem lookup_perm {ps qs : List (String × PyJson)} (h : ps.Perm qs) (hn : (ps.map Prod.fst).Nodup) (key : String) :
    lookup ps key = lookup qs key := by
  rw [lookup, lookup]
  cases hp : ps.find? (·.1 = key) with
  | none =>
    have hq : qs.find? (·.1 = key) = none :=
      List.find?_eq_none.mpr fun q hq => List.find?_eq_none.mp hp q (h.mem_iff.mpr hq)
    rw [hq]
  | some p =>
    have hpk : p.1 = key := by simpa using List.find?_some hp
    have hpmem := List.mem_of_find?_eq_some hp
    obtain ⟨q, hq⟩ : ∃ q, qs.find? (·.1 = key) = some q :=
      Option.isSome_iff_exists.mp (List.find?_isSome.mpr ⟨p, h.mem_iff.mp hpmem, decide_eq_true hpk⟩)
    have hqk : q.1 = key := by simpa using List.find?_some hq
    have hqmem := h.mem_iff.mpr (List.mem_of_find?_eq_some hq)
    obtain rfl := List.inj_on_of_nodup_map hn hpmem hqmem (hpk.trans hqk.symm)
    rw [hq]

theorem lookup_map (f : PyJson → PyJson) (fields : List (String × PyJson)) (key : String) :
    lookup (fields.map fun p => (p.1, f p.2)) key = (lookup fields key).map f := by
  rw [lookup, lookup, List.find?_map, Option.map_map, Option.map_map]
  rfl

/-- Objects of one canonical text have the same value at a key, up to the order of the keys below. -/
theorem lookup_congr {fs gs : List (String × PyJson)} (h : dumps (.obj gs) = dumps (.obj fs)) (hu : UniqueKeys (.obj fs))
    (key : String) : (lookup gs key).map sortKeys = (lookup fs key).map sortKeys := by
  have hperm := fields_perm h
  have hnodup : ((fs.map fun p => (p.1, sortKeys p.2)).map Prod.fst).Nodup := by
    rw [List.map_map]
    exact (Json.uniqueKeys_obj.mp hu).1
  rw [← lookup_map, ← lookup_map]
  exact lookup_perm hperm ((hperm.map Prod.fst).nodup_iff.mpr hnodup) key

/-- A value that is not a container has no keys to sort. -/
theorem lookup_scalar {fs gs : List (String × PyJson)} (h : dumps (.obj gs) = dumps (.obj fs)) (hu : UniqueKeys (.obj fs))
    {key : String} {x : PyJson} (hx : lookup fs key = some x) (hscalar : ∀ y, sortKeys y = sortKeys x → y = x) :
    lookup gs key = some x := by
  have hkey := lookup_congr h hu key
  rw [hx, Option.map_some, Option.map_eq_some_iff] at hkey
  obtain ⟨y, hy, hsorted⟩ := hkey
  rw [hy, hscalar y hsorted]

/-- Either printed text of an object is read as an object of its canonical text. -/
theorem loadsText_printed {fs : List (String × PyJson)} (hu : UniqueKeys (.obj fs)) {text : String}
    (htext : text ∈ [dumpsAscii (.obj fs), dumps (.obj fs)]) :
    ∃ gs, loadsText text = some (.obj gs) ∧ dumps (.obj gs) = dumps (.obj fs) := by
  rw [List.mem_pair] at htext
  rcases htext with rfl | rfl
  · exact ⟨fs, loadsText_dumpsAscii _, rfl⟩
  · obtain ⟨gs, hgs⟩ := eq_obj_of_dumps (dumps_sortKeys hu)
    refine ⟨gs, ?_, ?_⟩
    · rw [loadsText_dumps, hgs]
    · rw [← hgs, dumps_sortKeys hu]

end PythonJson

namespace KairosPersistence

open PythonJson
open Json (UniqueKeys)
open Transactions (bind_ok require require_ok require_pos found found_ok found_some ok_bind)

section Source

/-- `_ID`. -/
def isIdentifier (s : String) : Bool :=
  s.length ≤ 128 &&
    match s.toList with
    | [] => false
    | c :: cs => c.isAlphanum && cs.all fun d => d.isAlphanum || ['.', '_', ':', '-'].contains d

/-- The bound of `_MS`. -/
def maxTsMs : ℕ := 253402300799999

def isObject : PyJson → Bool
  | .obj _ => true
  | _ => false

/-- What the fields and the validators of `ResearchSourceReceiptV1` demand. -/
def SourceReceipt.Valid (r : SourceReceipt) : Prop :=
  (∀ s ∈ [r.campaignId, r.sampleId, r.sourceName, r.reference], isIdentifier s) ∧
    (∀ s ∈ [r.scheduleDigest, r.candidateProtocolDigest], isSha256 s) ∧
    r.sourceAsOfTsMs ≤ maxTsMs ∧ r.observedAtTsMs ≤ maxTsMs ∧ r.sourceAsOfTsMs ≤ r.observedAtTsMs ∧
    isObject r.content ∧ r.content.UniqueKeys ∧ boundedJson r.content = .ok ()

instance SourceReceipt.decidableValid (r : SourceReceipt) : Decidable r.Valid := inferInstanceAs (Decidable (_ ∧ _))

variable (sha : String → String)

/-- The fields of a dumped `ResearchSourceReceiptV1`. -/
def SourceReceipt.dump (r : SourceReceipt) : List (String × PyJson) :=
  [("contract_version", .str "research-source-receipt.v1"),
    ("campaign_id", .str r.campaignId),
    ("sample_id", .str r.sampleId),
    ("schedule_digest", .str r.scheduleDigest),
    ("candidate_protocol_digest", .str r.candidateProtocolDigest),
    ("source_kind", .str r.sourceKind.value),
    ("source_name", .str r.sourceName),
    ("reference", .str r.reference),
    ("source_as_of_ts_ms", .num (.int r.sourceAsOfTsMs)),
    ("observed_at_ts_ms", .num (.int r.observedAtTsMs)),
    ("content_sha256", .str (sha (dumps r.content))),
    ("content", r.content)]

/-- `fill_content_identity`. -/
def fillContentIdentity (value : List (String × PyJson)) : Except ResearchError (List (String × PyJson)) :=
  match lookup value "content" with
  | some (.obj content) => do
    boundedJson (.obj content)
    let expected := sha (dumps (.obj content))
    match (lookup value "content_sha256").getD .null with
    | .null => .ok (("content_sha256", .str expected) :: value)
    | .str given => do
      require (given = expected) (.valueError "source content hash does not match stored source bytes")
      .ok (("content_sha256", .str expected) :: value)
    | _ => .error (.valueError "source content hash does not match stored source bytes")
  | _ => .ok value

def textField (value : List (String × PyJson)) (key : String) : Option String :=
  match lookup value key with
  | some (.str s) => some s
  | _ => none

def msField (value : List (String × PyJson)) (key : String) : Option ℕ :=
  match lookup value key with
  | some (.num (.int (.ofNat n))) => some n
  | _ => none

/-- A field with one admitted value, which it has by default. -/
def literalField (value : List (String × PyJson)) (key literal : String) : Option Unit :=
  match lookup value key with
  | none => some ()
  | some (.str s) => if s = literal then some () else none
  | _ => none

/-- A field of type `_SHA | None`. -/
def digestField (value : List (String × PyJson)) (key : String) : Option (Option String) :=
  match lookup value key with
  | none | some .null => some none
  | some (.str s) => if isSha256 s then some (some s) else none
  | _ => none

def sourceKind? (value : String) : Option SourceKind :=
  [SourceKind.marketSnapshot, .news, .macroeconomic].find? (·.value = value)

/-- The fields of a `ResearchSourceReceiptV1`, and the digest of the receipt. -/
def readSource (value : List (String × PyJson)) : Option (Option String × SourceReceipt) := do
  literalField value "authority" "SIM_RESEARCH_ONLY"
  literalField value "contract_version" "research-source-receipt.v1"
  let receiptSha256 ← digestField value "receipt_sha256"
  let campaignId ← textField value "campaign_id"
  let sampleId ← textField value "sample_id"
  let scheduleDigest ← textField value "schedule_digest"
  let candidateProtocolDigest ← textField value "candidate_protocol_digest"
  let sourceKind ← (textField value "source_kind").bind sourceKind?
  let sourceName ← textField value "source_name"
  let reference ← textField value "reference"
  let sourceAsOfTsMs ← msField value "source_as_of_ts_ms"
  let observedAtTsMs ← msField value "observed_at_ts_ms"
  let contentSha256 ← digestField value "content_sha256"
  let content ← lookup value "content"
  -- `content_identity`
  if contentSha256 = none ∨ contentSha256 = some (sha (dumps content)) then
    some (receiptSha256, ⟨⟨campaignId, sampleId, scheduleDigest, candidateProtocolDigest, sourceKind, sourceName, reference,
      sourceAsOfTsMs, observedAtTsMs⟩, content⟩)
  else none

def parseSource (text : String) : Option (Option String × {r : SourceReceipt // r.Valid}) :=
  match loadsText text with
  | some (.obj value) =>
    match fillContentIdentity sha value with
    | .ok filled => (readSource sha filled).bind fun read =>
      if h : read.2.Valid then some (read.1, ⟨read.2, h⟩) else none
    | .error _ => none
  | _ => none

theorem uniqueKeys_source {r : SourceReceipt} (h : r.Valid) (receiptSha256 : Option String) :
    UniqueKeys (.obj (receiptAuthority :: ("receipt_sha256", optionalText receiptSha256) :: r.dump sha)) := by
  obtain ⟨-, -, -, -, -, -, hcontent, -⟩ := h
  have hreceipt : (optionalText receiptSha256).UniqueKeys := by cases receiptSha256 <;> trivial
  rw [Json.uniqueKeys_obj]
  constructor
  · simp [receiptAuthority, SourceReceipt.dump]
  · simp only [receiptAuthority, SourceReceipt.dump, List.forall_mem_cons, hreceipt, hcontent, List.not_mem_nil]
    simp [UniqueKeys]

/-- `ResearchSourceReceiptV1`. -/
def sourceModel : ReceiptModel where
  Fields := {r : SourceReceipt // r.Valid}
  dump r := r.1.dump sha
  parse := parseSource sha
  uniqueKeys r := uniqueKeys_source sha r.2 none

end Source

section Printed

variable {sha : String → String}

/-- Content of one canonical text is valid alike, and has one digest. -/
theorem SourceReceipt.Valid.congr {r : SourceReceipt} (h : r.Valid) {c : PyJson} (hc : sortKeys c = sortKeys r.content) :
    SourceReceipt.Valid { r with content := c } ∧ dumps c = dumps r.content := by
  have hdumps : dumps c = dumps r.content := by rw [dumps, dumps, hc]
  obtain ⟨hids, hdigests, has, hobserved, hle, hobject, hkeys, hbounded⟩ := h
  refine ⟨⟨hids, hdigests, has, hobserved, hle, ?_, ?_, ?_⟩, hdumps⟩
  · cases hcontent : r.content with
    | obj fields =>
      rw [hcontent] at hdumps
      obtain ⟨cs, rfl⟩ := eq_obj_of_dumps hdumps
      rfl
    | null | bool | num | str | arr => simp [hcontent, isObject] at hobject
  · apply (Json.uniqueKeys_orderKeys (· ≤ ·) c).mp
    change (sortKeys c).UniqueKeys
    rw [hc]
    exact (Json.uniqueKeys_orderKeys (· ≤ ·) r.content).mpr hkeys
  · rw [← boundedJson_sortKeys] at hbounded ⊢
    rwa [hc]

/-- An object with the canonical text of a printed receipt is read as its fields, the content with its
keys in another order. -/
theorem readSource_printed (hsha : ∀ s, isSha256 (sha s)) {r : SourceReceipt} (hr : r.Valid) {receiptSha256 : String}
    (hreceipt : isSha256 receiptSha256) {gs : List (String × PyJson)}
    (h : dumps (.obj gs) = dumps (.obj (receiptAuthority :: ("receipt_sha256", .str receiptSha256) :: r.dump sha))) :
    ∃ c, sortKeys c = sortKeys r.content ∧ ∃ filled, fillContentIdentity sha gs = .ok filled ∧
      readSource sha filled = some (some receiptSha256, { r with content := c }) := by
  have hkeys := uniqueKeys_source sha hr (some receiptSha256)
  have htext (key : String) (s : String) (hs : lookup (receiptAuthority :: ("receipt_sha256", .str receiptSha256) ::
      r.dump sha) key = some (.str s)) : lookup gs key = some (.str s) :=
    lookup_scalar h hkeys hs fun _ => sortKeys_str
  have hms (key : String) (n : ℕ) (hn : lookup (receiptAuthority :: ("receipt_sha256", .str receiptSha256) ::
      r.dump sha) key = some (.num (.int n))) : lookup gs key = some (.num (.int n)) :=
    lookup_scalar h hkeys hn fun _ => sortKeys_num
  obtain ⟨c, hlookup, hc⟩ : ∃ c, lookup gs "content" = some c ∧ sortKeys c = sortKeys r.content := by
    have hcontent := lookup_congr h hkeys "content"
    rw [show lookup (receiptAuthority :: ("receipt_sha256", .str receiptSha256) :: r.dump sha) "content" =
      some r.content from rfl, Option.map_some, Option.map_eq_some_iff] at hcontent
    exact hcontent
  obtain ⟨hvalid, hdumps⟩ := hr.congr hc
  obtain ⟨-, -, -, -, -, hobject, -, hbounded⟩ := hvalid
  refine ⟨c, hc, ("content_sha256", .str (sha (dumps c))) :: gs, ?_, ?_⟩
  · cases c with
    | obj cs =>
      have hgiven := htext "content_sha256" (sha (dumps r.content)) rfl
      rw [fillContentIdentity, hlookup]
      simp only [hbounded, hgiven, hdumps, ok_bind, Option.getD_some, require_pos]
    | null | bool | num | str | arr => cases hobject
  · have hkind : sourceKind? r.sourceKind.value = some r.sourceKind := by cases r.sourceKind <;> decide
    simp only [readSource, literalField, digestField, textField, msField, lookup_cons, String.reduceEq, if_false, if_true,
      htext "authority" _ rfl, htext "contract_version" _ rfl, htext "receipt_sha256" _ rfl, htext "campaign_id" _ rfl,
      htext "sample_id" _ rfl, htext "schedule_digest" _ rfl, htext "candidate_protocol_digest" _ rfl,
      htext "source_kind" _ rfl, htext "source_name" _ rfl, htext "reference" _ rfl, hms "source_as_of_ts_ms" _ rfl,
      hms "observed_at_ts_ms" _ rfl, hlookup, hreceipt, hsha, Option.bind_some, Option.bind_eq_bind, hkind, or_true]

/-- Source receipts are read from the texts they are printed as. -/
theorem sourceModel_readsPrinted (hsha : ∀ s, isSha256 (sha s)) : (sourceModel sha).ReadsPrinted sha := by
  rintro ⟨⟨r, hr⟩, receiptSha256⟩ hdigest text htext
  obtain ⟨receiptSha256, rfl⟩ : ∃ s, receiptSha256 = some s := ⟨_, hdigest⟩
  have hreceipt : isSha256 receiptSha256 := by
    rw [Option.some.inj hdigest]
    exact hsha _
  obtain ⟨gs, hload, hgs⟩ := loadsText_printed (uniqueKeys_source sha hr (some receiptSha256)) htext
  obtain ⟨c, hc, filled, hfilled, hread⟩ := readSource_printed hsha hr hreceipt hgs
  obtain ⟨hvalid, hdumps⟩ := hr.congr hc
  refine ⟨⟨{ r with content := c }, hvalid⟩, ?_, ?_⟩
  · change parseSource sha text = _
    rw [parseSource, hload]
    simp only [hfilled, hread, Option.bind_some, hvalid, dif_pos]
    rfl
  · apply dumps_obj_of_perm
    · apply List.Perm.of_eq
      simp only [sourceModel, SourceReceipt.dump, List.map_cons, List.map_nil, hdumps, hc]
    · have hnodup := (Json.uniqueKeys_obj.mp (uniqueKeys_source sha hr none)).1
      exact (List.nodup_cons.mp (List.nodup_cons.mp hnodup).2).2

end Printed

section Evaluations

variable {κ : Type} (sha : String → String) (strategy causal : ReceiptModel)

/-- `campaign_receipt_contract`. -/
def campaignReceiptContract (row : EvidenceRow κ) : Except ResearchError String := do
  require (row.payloadJson.utf8ByteSize ≤ maxReceiptBytes)
    (.messageIdentityConflict "stored campaign receipt exceeds its bounded JSON envelope")
  match loadsText row.payloadJson with
  | some (.obj value) =>
    require (boundedJson (.obj value) = .ok ())
      (.messageIdentityConflict "stored campaign receipt has an invalid contract discriminator")
    found (textField value "contract_version")
      (.messageIdentityConflict "stored campaign receipt has an invalid contract discriminator")
  | _ => .error (.messageIdentityConflict "stored campaign receipt has an invalid contract discriminator")

/-- `decode_campaign_evaluation_row`, of a row of the given kind: the two versions of an evaluation are
`ResearchStrategyEvaluationReceiptV1` and `ResearchCausalStrategyEvaluationReceiptV1`. -/
def decodeCampaignEvaluationRow (kind : String) (row : EvidenceRow κ) :
    Except ResearchError (Receipt strategy ⊕ Receipt causal) := do
  require (kind = "evaluation")
    (.messageIdentityConflict "campaign evaluation contract is stored in a different receipt kind")
  let contract ← campaignReceiptContract row
  if contract = "research-strategy-evaluation.v1" then do
    let receipt ← decodeRow sha strategy row
    .ok (.inl receipt)
  else if contract = "research-causal-strategy-evaluation.v1" then do
    let receipt ← decodeRow sha causal row
    .ok (.inr receipt)
  else .error (.messageIdentityConflict "unknown campaign evaluation contract")

variable {sha strategy causal} {kind : String} {row : EvidenceRow κ}

/-- A row of either version holds the receipt that is read of it. -/
theorem decodeCampaignEvaluationRow_holds {read : Receipt strategy ⊕ Receipt causal}
    (h : decodeCampaignEvaluationRow sha strategy causal kind row = .ok read) :
    kind = "evaluation" ∧ (∀ r, read = .inl r → row.Holds r) ∧ ∀ r, read = .inr r → row.Holds r := by
  obtain ⟨_, hkind, h⟩ := bind_ok h
  obtain ⟨contract, -, h⟩ := bind_ok h
  refine ⟨require_ok hkind, ?_⟩
  split at h
  · obtain ⟨r, hr, h⟩ := bind_ok h
    obtain rfl := Except.ok.inj h
    constructor
    · rintro _ ⟨⟩
      exact (decodeRow_ok hr).1
    · rintro _ ⟨⟩
  · split at h
    · obtain ⟨r, hr, h⟩ := bind_ok h
      obtain rfl := Except.ok.inj h
      constructor
      · rintro _ ⟨⟩
      · rintro _ ⟨⟩
        exact (decodeRow_ok hr).1
    · cases h

end Evaluations

section Claims

variable {κ : Type} [DecidableEq κ]

/-- A printed source receipt is little longer than its content. -/
theorem SourceReceipt.textBoundFields_dump {r : SourceReceipt} (hr : r.Valid) {sha : String → String}
    (hsha : ∀ s, (sha s).length = 64) {size : PyNumber → ℕ} (hsize : ∀ n : ℤ, n.natAbs < 2 ^ 63 → size (.int n) ≤ 20) :
    Json.textBoundFields size (r.dump sha) ≤ 20000 + r.content.textBound size := by
  obtain ⟨hids, hdigests, hasOf, hobserved, -⟩ := hr
  have hid (s : String) (h : isIdentifier s) : s.length ≤ 128 := by
    rw [isIdentifier, Bool.and_eq_true] at h
    exact of_decide_eq_true h.1
  have hdigest (s : String) (h : isSha256 s) : s.length = 64 := by
    rw [isSha256, Bool.and_eq_true] at h
    exact of_decide_eq_true h.1
  simp only [List.forall_mem_cons] at hids hdigests
  have hcampaign := hid _ hids.1
  have hsample := hid _ hids.2.1
  have hname := hid _ hids.2.2.1
  have hreference := hid _ hids.2.2.2.1
  have hschedule := hdigest _ hdigests.1
  have hprotocol := hdigest _ hdigests.2.1
  have hkind : r.sourceKind.value.length ≤ 15 := by cases r.sourceKind <;> decide
  have htimes (n : ℕ) (h : n ≤ maxTsMs) : size (.int n) ≤ 20 := by
    apply hsize
    unfold maxTsMs at h
    omega
  have hkeys : ∀ p ∈ (r.dump sha).take 11, p.1.length ≤ 25 := by
    simp only [SourceReceipt.dump, List.take_succ_cons, List.take_zero, List.forall_mem_cons, List.not_mem_nil,
      false_imp_iff, implies_true, and_true]
    decide
  have hvalues : ∀ p ∈ (r.dump sha).take 11, p.2.textBound size ≤ 770 := by
    simp only [SourceReceipt.dump, List.take_succ_cons, List.take_zero, List.forall_mem_cons, List.not_mem_nil,
      Json.textBound, hsha]
    refine ⟨by decide, by omega, by omega, by omega, by omega, by omega, by omega, by omega, ?_, ?_, by omega, by simp⟩
    · exact (htimes _ hasOf).trans (by decide)
    · exact (htimes _ hobserved).trans (by decide)
  have hheader := List.sum_le_card_nsmul (((r.dump sha).take 11).map fun p => 6 * p.1.length + 6 + p.2.textBound size) 926 <| by
    rw [List.forall_mem_map]
    intro p hp
    have hkey := hkeys p hp
    have hvalue := hvalues p hp
    omega
  have hsplit : r.dump sha = (r.dump sha).take 11 ++ [("content", r.content)] := rfl
  rw [hsplit, Json.textBoundFields_eq, List.map_append, List.sum_append]
  simp only [List.map_cons, List.map_nil, List.sum_cons, List.sum_nil]
  have hcontent : "content".length = 7 := by decide
  have hlength : ((r.dump sha).take 11).length = 11 := rfl
  rw [List.length_map, hlength, Nat.nsmul_eq_mul] at hheader
  have hbound : (((r.dump sha).take 11).map fun p => 6 * p.1.length + 6 + p.2.textBound size).sum ≤ 11 * 926 := hheader
  apply (Nat.add_le_add_right hbound _).trans
  omega

/-- What is written of a receipt is read as an equal receipt, and the text and both digests of a row that
is read are those of the receipt. -/
structure RoundTrips (sha : String → String) (model : ReceiptModel) (table : EvidenceTable κ) : Prop where
  recorded : ∀ rows rows' key columns (r : Receipt model) created,
    recordReceipt table rows key columns sha r = .ok (rows', created) → Readable sha rows' key r
  sealed : ∀ rows rows' key columns (fields : model.Fields) r created,
    recordSeal table rows key columns sha fields = .ok (r, rows', created) → Readable sha rows' key r
  stored : ∀ rows rows' key columns (r : Receipt model) created,
    storeReceiptRow table rows key columns sha r = .ok (rows', created) → Readable sha rows' key r
  canonical : ∀ (row : EvidenceRow κ) (r : Receipt model), decodeRow sha model row = .ok r →
    row.payloadJson = (canonicalPayload r.modelDump).1 ∧ row.payloadSha256 = (canonicalPayload r.modelDump).2 ∧
      row.receiptSha256 = sha (dumps r.identityPayload)

/-- A verified receipt that the table admits is stored. -/
theorem recordReceipt_created {table : EvidenceTable κ} {rows : List (EvidenceRow κ)} {key : String} {columns : κ}
    {sha : String → String} {model : ReceiptModel} {r : Receipt model} {digest : String}
    (hverify : verifyModel sha r = .ok ()) (hdigest : r.receiptSha256 = some digest) (hsha : isSha256 digest)
    (hnul : r.modelDump.everyString Jsonb.nulFree) (hsize : (dumps r.modelDump).utf8ByteSize ≤ maxReceiptBytes)
    (hguard : table.guardInsert rows (writtenRow key columns digest r.modelDump) = .ok ())
    (hfresh : rows.any (table.conflicts (writtenRow key columns digest r.modelDump)) = false) :
    recordReceipt table rows key columns sha r = .ok (writtenRow key columns digest r.modelDump :: rows, true) := by
  have hobject : isJsonObject (dumps r.modelDump) := by
    rw [isJsonObject, Jsonb.jsonbIn_dumps hnul]
    rfl
  have hcheck : table.check (writtenRow key columns digest r.modelDump) = .ok () :=
    require_pos ⟨hsize, hobject, isSha256_hexdigest _, hsha⟩
  rw [recordReceipt, hverify, ok_bind, hdigest, insertRow, found_some, ok_bind]
  dsimp only
  rw [hguard, ok_bind, hcheck, ok_bind, hfresh]
  rfl

theorem receipt_rows (sha : String → String) (model : ReceiptModel) (table : EvidenceTable κ)
    (hreads : model.ReadsPrinted sha) : RoundTrips sha model table where
  recorded _ _ _ _ _ _ h := recordReceipt_readable hreads h
  sealed _ _ _ _ _ _ _ h := recordSeal_readable hreads h
  stored _ _ _ _ _ _ h := storeReceiptRow_readable hreads h
  canonical row r h := by
    obtain ⟨hrow, hdigest⟩ := decodeRow_ok h
    exact ⟨hrow.text, hrow.digest, Option.some.inj (hrow.receipt.symm.trans hdigest)⟩

def exampleWire : SourceReceipt where
  campaignId := "campaign"
  sampleId := "sample"
  scheduleDigest := exampleSha 'a'
  candidateProtocolDigest := exampleSha 'b'
  sourceKind := .news
  sourceName := "wire"
  reference := "wire:1"
  sourceAsOfTsMs := 1000
  observedAtTsMs := 2000
  content := .obj [("title", .str "\"Größe\" 😀\n"), ("id", .num (.int (10 ^ 40))),
    ("scores", .arr [.num (.float ShortestDecimal.tenPower16), .null, .bool true, .obj []])]

theorem exampleWire_valid : exampleWire.Valid := by decide +kernel

def exampleWireTable : EvidenceTable Unit where
  name := "sim_research_source_receipts"
  conflicts row other := row.key = other.key
  guardInsert _ _ := .ok ()

def exampleWireReceipt : Receipt (sourceModel Sha256.hexdigest) :=
  ⟨⟨exampleWire, exampleWire_valid⟩, some (Receipt.digest Sha256.hexdigest
    (⟨⟨exampleWire, exampleWire_valid⟩, none⟩ : Receipt (sourceModel Sha256.hexdigest)))⟩

theorem modelDump_source {sha : String → String} (fields : {r : SourceReceipt // r.Valid}) (digest : String) :
    (⟨fields, some digest⟩ : Receipt (sourceModel sha)).modelDump =
      .obj (receiptAuthority :: ("receipt_sha256", .str digest) :: fields.1.dump sha) := rfl

theorem identityPayload_source {sha : String → String} (fields : {r : SourceReceipt // r.Valid})
    (receiptSha256 : Option String) :
    (⟨fields, receiptSha256⟩ : Receipt (sourceModel sha)).identityPayload = .obj (receiptAuthority :: fields.1.dump sha) :=
  rfl

/-- The texts of a receipt with little content are far below the bound. -/
theorem SourceReceipt.bytes_le {sha : String → String} (hsha : ∀ s, (sha s).length = 64)
    (fields : {r : SourceReceipt // r.Valid}) {digest : String} (hdigest : digest.length = 64)
    (hcontent : (fields.1.content.textBound fun n => JsonText.numberSize (numberText n)) ≤ 1000) :
    (dumps (⟨fields, some digest⟩ : Receipt (sourceModel sha)).modelDump).utf8ByteSize ≤ maxReceiptBytes ∧
      (dumps (⟨fields, some digest⟩ : Receipt (sourceModel sha)).identityPayload).utf8ByteSize ≤ maxReceiptBytes := by
  have hfields := (SourceReceipt.textBoundFields_dump fields.2 hsha
    fun _ => Jsonb.numberSize_intText_le).trans (Nat.add_le_add_left hcontent 20000)
  have hbound (t : PyJson) (h : (t.textBound fun n => JsonText.numberSize (numberText n)) ≤ 60000) :
      (dumps t).utf8ByteSize ≤ maxReceiptBytes := by
    have hbytes := Jsonb.byteSize_dumps t
    unfold maxReceiptBytes
    omega
  have hkeys : "authority".length = 9 ∧ "SIM_RESEARCH_ONLY".length = 17 ∧ "receipt_sha256".length = 14 := by decide
  constructor
  · apply hbound
    rw [modelDump_source]
    simp only [Json.textBoundFields, Json.textBound, receiptAuthority, hdigest, hkeys]
    omega
  · apply hbound
    rw [identityPayload_source]
    simp only [Json.textBoundFields, Json.textBound, receiptAuthority, hkeys]
    omega

theorem exampleWireReceipt_recorded :
    ∃ rows, recordReceipt exampleWireTable [] "wire" () Sha256.hexdigest exampleWireReceipt = .ok (rows, true) := by
  have hcontent : (exampleWire.content.textBound fun n => JsonText.numberSize (numberText n)) ≤ 1000 := by
    decide +kernel
  have hdigest (s : String) := nulFree_sha (isSha256_hexdigest s)
  obtain ⟨htext, hidentity⟩ := SourceReceipt.bytes_le Sha256.length_hexdigest ⟨exampleWire, exampleWire_valid⟩
    (Sha256.length_hexdigest (dumps exampleWireReceipt.identityPayload)) hcontent
  have hverify : verifyModel Sha256.hexdigest exampleWireReceipt = .ok () :=
    verifyModel_of_bounds (sourceModel_readsPrinted isSha256_hexdigest) rfl htext hidentity
  have hnul : exampleWireReceipt.modelDump.everyString Jsonb.nulFree := by
    have hwire : exampleWire.content.everyString Jsonb.nulFree := by decide +kernel
    rw [exampleWireReceipt, modelDump_source]
    simp only [SourceReceipt.dump, receiptAuthority, Json.everyString, Json.everyStringFields, Receipt.digest, hdigest,
      hwire, Bool.and_true]
    decide +kernel
  exact ⟨_, recordReceipt_created hverify rfl (isSha256_hexdigest _) hnul htext rfl rfl⟩

/-- A source with a quote, an emoji, an integer of 41 digits and `1e16` is stored and read. -/
theorem receipt_rows_example :
    RoundTrips Sha256.hexdigest (sourceModel Sha256.hexdigest) exampleWireTable ∧
      ∃ rows, recordReceipt exampleWireTable [] "wire" () Sha256.hexdigest exampleWireReceipt = .ok (rows, true) ∧
        Readable Sha256.hexdigest rows "wire" exampleWireReceipt := by
  have hrows := receipt_rows Sha256.hexdigest (sourceModel Sha256.hexdigest) exampleWireTable
    (sourceModel_readsPrinted isSha256_hexdigest)
  obtain ⟨rows, hrecorded⟩ := exampleWireReceipt_recorded
  exact ⟨hrows, rows, hrecorded, hrows.recorded _ _ _ _ _ _ hrecorded⟩

end Claims

end KairosPersistence
