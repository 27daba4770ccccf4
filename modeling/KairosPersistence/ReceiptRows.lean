import KairosPersistence.AsciiJson
import KairosPersistence.CanonicalPayload
import KairosPersistence.JsonReading
import KairosPersistence.ResearchContracts
import KairosPersistence.SourceUsage

/-!
The rows that research receipts are stored in. A receipt is written as its
canonical text with two digests, and read back from the text alone; the row is
accepted when the receipt that was read has that text and those digests.
-/

namespace Json

theorem uniqueKeys_cons {ν : Type} {p : String × Json ν} {ps : List (String × Json ν)} :
    UniqueKeys (.obj (p :: ps)) ↔ p.1 ∉ ps.map Prod.fst ∧ p.2.UniqueKeys ∧ UniqueKeys (.obj ps) := by
  rw [uniqueKeys_obj, uniqueKeys_obj, List.map_cons, List.nodup_cons, List.forall_mem_cons]
  tauto

end Json

namespace PythonJson

open Json (UniqueKeys)

theorem dumps_obj_of_perm {fs gs : List (String × PyJson)}
    (h : (fs.map fun p => (p.1, sortKeys p.2)).Perm (gs.map fun p => (p.1, sortKeys p.2)))
    (hkeys : (gs.map Prod.fst).Nodup) : dumps (.obj fs) = dumps (.obj gs) := by
  have hnodup : ((fs.map fun p => (p.1, sortKeys p.2)).map Prod.fst).Nodup := by
    apply (h.map Prod.fst).nodup_iff.mpr
    rwa [List.map_map]
  have hsorted : sortKeys (.obj fs) = sortKeys (.obj gs) := by
    simp only [sortKeys, Json.orderKeys, Json.orderKeysFields_eq, Json.obj.injEq] at h hnodup ⊢
    exact Json.insertionSort_perm h hnodup
  rw [dumps, dumps, hsorted]

/-- An object with more fields has one canonical text, whichever the order of the others. -/
theorem dumps_append_congr {fs gs : List (String × PyJson)} (h : dumps (.obj fs) = dumps (.obj gs))
    (pre : List (String × PyJson)) (hkeys : UniqueKeys (.obj (pre ++ gs))) :
    dumps (.obj (pre ++ fs)) = dumps (.obj (pre ++ gs)) := by
  apply dumps_obj_of_perm
  · rw [List.map_append, List.map_append]
    exact (fields_perm h).append_left _
  · exact (Json.uniqueKeys_obj.mp hkeys).1

end PythonJson

namespace KairosPersistence

open PythonJson
open Json (UniqueKeys)
open Transactions (bind_ok require require_ok require_pos found found_ok found_some ok_bind)

/-- `_MAX_RECEIPT_BYTES`. -/
def maxReceiptBytes : ℕ := 262144

section Models

/-- `_Receipt.authority`. -/
def receiptAuthority : String × PyJson := ("authority", .str "SIM_RESEARCH_ONLY")

def optionalText : Option String → PyJson
  | none => .null
  | some text => .str text

/-- A subclass of `_Receipt`: its own fields, how pydantic dumps them, and what pydantic reads of a
JSON text, the digest it gives and the fields, before the digest is checked. -/
structure ReceiptModel where
  Fields : Type
  dump : Fields → List (String × PyJson)
  parse : String → Option (Option String × Fields)
  uniqueKeys : ∀ fields, UniqueKeys (.obj (receiptAuthority :: ("receipt_sha256", .null) :: dump fields))

/-- An instance of a subclass of `_Receipt`. -/
structure Receipt (model : ReceiptModel) where
  fields : model.Fields
  receiptSha256 : Option String

variable {model : ReceiptModel}

def Receipt.identityPayload (r : Receipt model) : PyJson := .obj (receiptAuthority :: model.dump r.fields)

/-- `model_dump(mode="json")`. -/
def Receipt.modelDump (r : Receipt model) : PyJson :=
  .obj (receiptAuthority :: ("receipt_sha256", optionalText r.receiptSha256) :: model.dump r.fields)

/-- The fields of the receipts have the same values, whatever the order of the keys below. -/
def Receipt.Alike (r t : Receipt model) : Prop :=
  dumps (.obj (model.dump r.fields)) = dumps (.obj (model.dump t.fields)) ∧ r.receiptSha256 = t.receiptSha256

variable (sha : String → String)

/-- `canonical_sha256` of the identity payload. -/
def Receipt.digest (r : Receipt model) : String := sha (dumps r.identityPayload)

/-- `_Receipt.canonical_identity`. -/
def Receipt.canonicalIdentity (r : Receipt model) : Except ResearchError (Receipt model) := do
  require ((dumps r.identityPayload).utf8ByteSize ≤ maxReceiptBytes)
    (.valueError "research receipt exceeds the bounded evidence envelope")
  require (r.receiptSha256 = none ∨ r.receiptSha256 = some (r.digest sha))
    (.valueError "research receipt hash differs from its independent content")
  .ok { r with receiptSha256 := some (r.digest sha) }

/-- `model_validate_json`. -/
def modelValidateJson (model : ReceiptModel) (text : String) : Except ResearchError (Receipt model) := do
  let (given, fields) ← found (model.parse text) (.valueError "validation error")
  Receipt.canonicalIdentity sha ⟨fields, given⟩

/-- `_verify_model`. -/
def verifyModel (r : Receipt model) : Except ResearchError Unit := do
  require (r.receiptSha256 = some (r.digest sha))
    (.messageIdentityConflict "research receipt canonical identity changed after validation")
  require ((dumps r.modelDump).utf8ByteSize ≤ maxReceiptBytes)
    (.valueError "research receipt exceeds its bounded JSON envelope")
  let _ ← modelValidateJson sha model (dumpsAscii r.modelDump)
  .ok ()

/-- Pydantic parses the JSON text it printed of a receipt to an equal model. -/
def ReceiptModel.ReadsPrinted (model : ReceiptModel) : Prop :=
  ∀ r : Receipt model, r.receiptSha256 = some (r.digest sha) → ∀ text ∈ [dumpsAscii r.modelDump, dumps r.modelDump],
    ∃ fields, model.parse text = some (r.receiptSha256, fields) ∧
      dumps (.obj (model.dump fields)) = dumps (.obj (model.dump r.fields))

end Models

section Rows

variable {κ : Type}

/-- A row of a table of receipts, by its key. -/
structure EvidenceRow (κ : Type) where
  key : String
  columns : κ
  receiptSha256 : String
  payloadJson : String
  payloadSha256 : String
  deriving DecidableEq

/-- A table of receipts: when two rows clash in a unique column, and the triggers of its inserts, which
refuse a row or leave it as it is. -/
structure EvidenceTable (κ : Type) where
  name : String
  conflicts : EvidenceRow κ → EvidenceRow κ → Bool
  guardInsert : List (EvidenceRow κ) → EvidenceRow κ → Except ResearchError Unit

/-- `jsonb_typeof(text::jsonb) = 'object'`. -/
def isJsonObject (text : String) : Bool :=
  match Jsonb.jsonbIn text with
  | some (.obj _) => true
  | _ => false

/-- The checks of the columns. -/
def EvidenceTable.check (table : EvidenceTable κ) (row : EvidenceRow κ) : Except ResearchError Unit :=
  require (row.payloadJson.utf8ByteSize ≤ maxReceiptBytes ∧ isJsonObject row.payloadJson ∧ isSha256 row.payloadSha256 ∧
    isSha256 row.receiptSha256) (.checkViolation table.name)

/-- `_decode_row`. -/
def decodeRow (sha : String → String) (model : ReceiptModel) (row : EvidenceRow κ) : Except ResearchError (Receipt model) := do
  require (row.payloadJson.utf8ByteSize ≤ maxReceiptBytes)
    (.messageIdentityConflict "stored research receipt exceeds its bounded JSON envelope")
  let receipt ← modelValidateJson sha model row.payloadJson
  verifyModel sha receipt
  let (expectedEncoded, digest) := canonicalPayload receipt.modelDump
  require (expectedEncoded = row.payloadJson ∧ digest = row.payloadSha256 ∧ receipt.receiptSha256 = some row.receiptSha256)
    (.messageIdentityConflict "stored independent research receipt failed byte integrity verification")
  .ok receipt

/-- The row of a payload, with its canonical text and the digest of the text. -/
def writtenRow (key : String) (columns : κ) (receiptSha256 : String) (payload : PyJson) : EvidenceRow κ where
  key := key
  columns := columns
  receiptSha256 := receiptSha256
  payloadJson := (canonicalPayload payload).1
  payloadSha256 := (canonicalPayload payload).2

variable [DecidableEq κ] (table : EvidenceTable κ) (rows : List (EvidenceRow κ)) (key : String) (columns : κ)
  (sha : String → String) {model : ReceiptModel}

/-- `_insert`, of the dump of a receipt. -/
def insertRow (receiptSha256 : Option String) (payload : PyJson) : Except ResearchError (List (EvidenceRow κ) × Bool) := do
  let receiptSha256 ← found receiptSha256 (.checkViolation table.name)
  let row := writtenRow key columns receiptSha256 payload
  table.guardInsert rows row
  table.check row
  if rows.any (table.conflicts row) then
    require (rows.find? (·.key = key) = some row)
      (.messageIdentityConflict "research evidence identity already contains different immutable facts")
    .ok (rows, false)
  else .ok (row :: rows, true)

/-- What `record_source`, `record_evaluation` and the records of attempts do with their receipt. -/
def recordReceipt (receipt : Receipt model) : Except ResearchError (List (EvidenceRow κ) × Bool) := do
  verifyModel sha receipt
  insertRow table rows key columns receipt.receiptSha256 receipt.modelDump

/-- What `seal_verified_coverage` does with the fields of the seal: the model is built and inserted. -/
def recordSeal (fields : model.Fields) : Except ResearchError (Receipt model × List (EvidenceRow κ) × Bool) := do
  let qualified ← Receipt.canonicalIdentity sha ⟨fields, none⟩
  let stored ← insertRow table rows key columns qualified.receiptSha256 qualified.modelDump
  .ok (qualified, stored)

/-- `_store`. -/
def storeReceiptRow (receipt : Receipt model) : Except ResearchError (List (EvidenceRow κ) × Bool) := do
  verifyModel sha receipt
  match rows.find? (·.key = key) with
  | some existing =>
    let stored ← decodeRow sha model existing
    require (equal stored.modelDump receipt.modelDump)
      (.messageIdentityConflict "campaign receipt slot already contains different immutable facts")
    .ok (rows, false)
  | none =>
    let receiptSha256 ← found receipt.receiptSha256 (.checkViolation table.name)
    let row := writtenRow key columns receiptSha256 receipt.modelDump
    table.guardInsert rows row
    table.check row
    require (¬rows.any (table.conflicts row)) (.uniqueViolation table.name)
    .ok (row :: rows, true)

end Rows

section Alike

variable {model : ReceiptModel} {r t : Receipt model} {sha : String → String}

theorem Receipt.Alike.identity (h : r.Alike t) : dumps r.identityPayload = dumps t.identityPayload := by
  have hkeys : UniqueKeys (.obj (receiptAuthority :: model.dump t.fields)) := by
    obtain ⟨hauthority, hvalue, hrest⟩ := Json.uniqueKeys_cons.mp (model.uniqueKeys t.fields)
    obtain ⟨-, -, hdump⟩ := Json.uniqueKeys_cons.mp hrest
    exact Json.uniqueKeys_cons.mpr ⟨fun hmem => hauthority (List.mem_cons_of_mem _ hmem), hvalue, hdump⟩
  exact dumps_append_congr h.1 [receiptAuthority] hkeys

theorem uniqueKeys_modelDump (r : Receipt model) : r.modelDump.UniqueKeys := by
  have hdigest : (optionalText r.receiptSha256).UniqueKeys := by cases r.receiptSha256 <;> trivial
  obtain ⟨hauthority, hvalue, hrest⟩ := Json.uniqueKeys_cons.mp (model.uniqueKeys r.fields)
  obtain ⟨hfresh, -, hdump⟩ := Json.uniqueKeys_cons.mp hrest
  exact Json.uniqueKeys_cons.mpr ⟨hauthority, hvalue, Json.uniqueKeys_cons.mpr ⟨hfresh, hdigest, hdump⟩⟩

theorem Receipt.Alike.text (h : r.Alike t) : dumps r.modelDump = dumps t.modelDump := by
  have hkeys : UniqueKeys (.obj ([receiptAuthority, ("receipt_sha256", optionalText r.receiptSha256)] ++ model.dump t.fields)) := by
    rw [h.2]
    exact uniqueKeys_modelDump t
  rw [Receipt.modelDump, Receipt.modelDump, ← h.2]
  exact dumps_append_congr h.1 [receiptAuthority, ("receipt_sha256", optionalText r.receiptSha256)] hkeys

theorem Receipt.Alike.digest_eq (h : r.Alike t) : r.digest sha = t.digest sha := by
  rw [Receipt.digest, Receipt.digest, h.identity]

/-- Receipts that are alike are equal Python objects. -/
theorem Receipt.Alike.equal (h : r.Alike t) : equal r.modelDump t.modelDump = true := by
  rw [equal_congr h.text]
  exact equal_refl (uniqueKeys_modelDump t)

end Alike

section Reading

variable {model : ReceiptModel} {sha : String → String} {r : Receipt model}

theorem canonicalIdentity_ok {t : Receipt model} (h : r.canonicalIdentity sha = .ok t) :
    (dumps r.identityPayload).utf8ByteSize ≤ maxReceiptBytes ∧ t = { r with receiptSha256 := some (r.digest sha) } := by
  obtain ⟨_, hsize, h⟩ := bind_ok h
  obtain ⟨_, -, h⟩ := bind_ok h
  exact ⟨require_ok hsize, (Except.ok.inj h).symm⟩

theorem canonicalIdentity_of_digest (hsize : (dumps r.identityPayload).utf8ByteSize ≤ maxReceiptBytes)
    (hdigest : r.receiptSha256 = some (r.digest sha)) : r.canonicalIdentity sha = .ok r := by
  rw [Receipt.canonicalIdentity, require_pos hsize, ok_bind, require_pos (Or.inr hdigest), ok_bind, ← hdigest]

/-- The printed text of a receipt within its bound is read as a receipt alike. -/
theorem modelValidateJson_printed (hreads : model.ReadsPrinted sha) (hdigest : r.receiptSha256 = some (r.digest sha))
    (hsize : (dumps r.identityPayload).utf8ByteSize ≤ maxReceiptBytes) {text : String}
    (htext : text ∈ [dumpsAscii r.modelDump, dumps r.modelDump]) :
    ∃ t : Receipt model, modelValidateJson sha model text = .ok t ∧ t.Alike r := by
  obtain ⟨fields, hparse, hfields⟩ := hreads r hdigest text htext
  have halike : Receipt.Alike (⟨fields, r.receiptSha256⟩ : Receipt model) r := ⟨hfields, rfl⟩
  refine ⟨⟨fields, r.receiptSha256⟩, ?_, halike⟩
  rw [modelValidateJson, hparse, found_some, ok_bind]
  apply canonicalIdentity_of_digest
  · rwa [halike.identity]
  · rw [halike.digest_eq]
    exact hdigest

/-- A verified receipt has its own digest, and its texts are within the bound. -/
theorem verifyModel_ok (hreads : model.ReadsPrinted sha) (h : verifyModel sha r = .ok ()) :
    r.receiptSha256 = some (r.digest sha) ∧ (dumps r.modelDump).utf8ByteSize ≤ maxReceiptBytes ∧
      (dumps r.identityPayload).utf8ByteSize ≤ maxReceiptBytes := by
  obtain ⟨_, hdigest, h⟩ := bind_ok h
  obtain ⟨_, hsize, h⟩ := bind_ok h
  obtain ⟨t, hvalid, -⟩ := bind_ok h
  refine ⟨require_ok hdigest, require_ok hsize, ?_⟩
  -- the revalidated receipt is alike, so it bounds the identity text
  have hprinted : dumpsAscii r.modelDump ∈ [dumpsAscii r.modelDump, dumps r.modelDump] := by simp
  obtain ⟨fields, hparse, hfields⟩ := hreads r (require_ok hdigest) _ hprinted
  have halike : Receipt.Alike (⟨fields, r.receiptSha256⟩ : Receipt model) r := ⟨hfields, rfl⟩
  rw [modelValidateJson, hparse, found_some, ok_bind] at hvalid
  rw [← halike.identity]
  exact (canonicalIdentity_ok hvalid).1

theorem verifyModel_of_bounds (hreads : model.ReadsPrinted sha) (hdigest : r.receiptSha256 = some (r.digest sha))
    (hsize : (dumps r.modelDump).utf8ByteSize ≤ maxReceiptBytes)
    (hidentity : (dumps r.identityPayload).utf8ByteSize ≤ maxReceiptBytes) : verifyModel sha r = .ok () := by
  have hprinted : dumpsAscii r.modelDump ∈ [dumpsAscii r.modelDump, dumps r.modelDump] := by simp
  obtain ⟨t, hvalid, -⟩ := modelValidateJson_printed hreads hdigest hidentity hprinted
  rw [verifyModel, require_pos hdigest, ok_bind, require_pos hsize, ok_bind, hvalid, ok_bind]

end Reading

section RoundTrip

variable {κ : Type} {model : ReceiptModel} {sha : String → String} {r : Receipt model} {row : EvidenceRow κ}

/-- The row is what is written of the receipt. -/
structure EvidenceRow.Holds (row : EvidenceRow κ) (r : Receipt model) : Prop where
  text : row.payloadJson = (canonicalPayload r.modelDump).1
  digest : row.payloadSha256 = (canonicalPayload r.modelDump).2
  receipt : r.receiptSha256 = some row.receiptSha256

/-- What is written of a receipt within its bounds is read as a receipt alike. -/
theorem decodeRow_of_holds (hreads : model.ReadsPrinted sha) (hdigest : r.receiptSha256 = some (r.digest sha))
    (hsize : (dumps r.modelDump).utf8ByteSize ≤ maxReceiptBytes)
    (hidentity : (dumps r.identityPayload).utf8ByteSize ≤ maxReceiptBytes) (hrow : row.Holds r) :
    ∃ t, decodeRow sha model row = .ok t ∧ t.Alike r := by
  have htext : row.payloadJson = dumps r.modelDump := hrow.text
  have hprinted : dumps r.modelDump ∈ [dumpsAscii r.modelDump, dumps r.modelDump] := by simp
  obtain ⟨t, hvalid, halike⟩ := modelValidateJson_printed hreads hdigest hidentity hprinted
  have hverify : verifyModel sha t = .ok () := by
    apply verifyModel_of_bounds hreads
    · rw [halike.2, halike.digest_eq]
      exact hdigest
    · rwa [halike.text]
    · rwa [halike.identity]
  refine ⟨t, ?_, halike⟩
  have hcanonical : (canonicalPayload t.modelDump).1 = row.payloadJson ∧
      (canonicalPayload t.modelDump).2 = row.payloadSha256 ∧ t.receiptSha256 = some row.receiptSha256 := by
    have hpayload : canonicalPayload t.modelDump = canonicalPayload r.modelDump := by
      rw [canonicalPayload, canonicalPayload, halike.text]
    rw [hpayload, hrow.text, hrow.digest, halike.2]
    exact ⟨rfl, rfl, hrow.receipt⟩
  rw [decodeRow, htext, require_pos hsize, ok_bind, hvalid, ok_bind, hverify, ok_bind]
  rw [htext] at hcanonical
  dsimp only
  rw [require_pos hcanonical, ok_bind]

/-- A row that is read holds the receipt. -/
theorem decodeRow_ok (h : decodeRow sha model row = .ok r) : row.Holds r ∧ r.receiptSha256 = some (r.digest sha) := by
  obtain ⟨_, -, h⟩ := bind_ok h
  obtain ⟨t, -, h⟩ := bind_ok h
  obtain ⟨_, hverify, h⟩ := bind_ok h
  obtain ⟨_, hcanonical, h⟩ := bind_ok h
  obtain rfl := Except.ok.inj h
  obtain ⟨htext, hdigest, hreceipt⟩ := require_ok hcanonical
  obtain ⟨_, hown, -⟩ := bind_ok hverify
  exact ⟨⟨htext.symm, hdigest.symm, hreceipt⟩, require_ok hown⟩

end RoundTrip

section Writes

variable {κ : Type} [DecidableEq κ] {table : EvidenceTable κ} {rows rows' : List (EvidenceRow κ)} {key : String} {columns : κ}
  {sha : String → String} {model : ReceiptModel} {r : Receipt model} {created : Bool}

/-- The row of the key is read as a receipt equal to the given one. -/
def Readable (sha : String → String) (rows : List (EvidenceRow κ)) (key : String) (r : Receipt model) : Prop :=
  ∃ row ∈ rows, row.key = key ∧ ∃ t, decodeRow sha model row = .ok t ∧ equal t.modelDump r.modelDump = true

/-- An insert leaves a row of the receipt, its text within the bound. -/
theorem insertRow_ok {payload : PyJson} {receiptSha256 : Option String}
    (h : insertRow table rows key columns receiptSha256 payload = .ok (rows', created)) :
    ∃ row ∈ rows', row.key = key ∧ row.payloadJson = (canonicalPayload payload).1 ∧
      row.payloadSha256 = (canonicalPayload payload).2 ∧ receiptSha256 = some row.receiptSha256 ∧
      (dumps payload).utf8ByteSize ≤ maxReceiptBytes := by
  obtain ⟨receiptSha256, hreceipt, h⟩ := bind_ok h
  obtain ⟨_, -, h⟩ := bind_ok h
  obtain ⟨_, hcheck, h⟩ := bind_ok h
  have hsize := (require_ok hcheck).1
  refine ⟨writtenRow key columns receiptSha256 payload, ?_, rfl, rfl, rfl, found_ok hreceipt, hsize⟩
  split at h
  · obtain ⟨_, hsame, h⟩ := bind_ok h
    obtain ⟨rfl, -⟩ := Prod.mk.inj (Except.ok.inj h)
    exact List.mem_of_find?_eq_some (require_ok hsame)
  · obtain ⟨rfl, -⟩ := Prod.mk.inj (Except.ok.inj h)
    exact List.mem_cons_self

theorem recordReceipt_readable (hreads : model.ReadsPrinted sha)
    (h : recordReceipt table rows key columns sha r = .ok (rows', created)) : Readable sha rows' key r := by
  obtain ⟨_, hverify, h⟩ := bind_ok h
  obtain ⟨hdigest, hsize, hidentity⟩ := verifyModel_ok hreads hverify
  obtain ⟨row, hrow, hkey, htext, hpayload, hreceipt, -⟩ := insertRow_ok h
  obtain ⟨t, hdecode, halike⟩ := decodeRow_of_holds hreads hdigest hsize hidentity ⟨htext, hpayload, hreceipt⟩
  exact ⟨row, hrow, hkey, t, hdecode, halike.equal⟩

theorem recordSeal_readable (hreads : model.ReadsPrinted sha) {fields : model.Fields}
    (h : recordSeal table rows key columns sha fields = .ok (r, rows', created)) : Readable sha rows' key r := by
  obtain ⟨t, hbuilt, h⟩ := bind_ok h
  obtain ⟨stored, hinsert, h⟩ := bind_ok h
  obtain ⟨rfl, rfl⟩ := Prod.mk.inj (Except.ok.inj h)
  obtain ⟨hidentity, rfl⟩ := canonicalIdentity_ok hbuilt
  obtain ⟨row, hrow, hkey, htext, hpayload, hreceipt, hsize⟩ := insertRow_ok hinsert
  obtain ⟨u, hdecode, halike⟩ := decodeRow_of_holds hreads rfl hsize hidentity ⟨htext, hpayload, hreceipt⟩
  exact ⟨row, hrow, hkey, u, hdecode, halike.equal⟩

omit [DecidableEq κ] in
theorem storeReceiptRow_readable (hreads : model.ReadsPrinted sha)
    (h : storeReceiptRow table rows key columns sha r = .ok (rows', created)) : Readable sha rows' key r := by
  obtain ⟨_, hverify, h⟩ := bind_ok h
  obtain ⟨hdigest, hsize, hidentity⟩ := verifyModel_ok hreads hverify
  split at h
  · rename_i existing hexisting
    obtain ⟨stored, hdecode, h⟩ := bind_ok h
    obtain ⟨_, hequal, h⟩ := bind_ok h
    obtain ⟨rfl, -⟩ := Prod.mk.inj (Except.ok.inj h)
    have hkey : existing.key = key := by simpa using List.find?_some hexisting
    exact ⟨existing, List.mem_of_find?_eq_some hexisting, hkey, stored, hdecode, require_ok hequal⟩
  · obtain ⟨receiptSha256, hreceipt, h⟩ := bind_ok h
    obtain ⟨_, -, h⟩ := bind_ok h
    obtain ⟨_, -, h⟩ := bind_ok h
    obtain ⟨_, -, h⟩ := bind_ok h
    obtain ⟨rfl, -⟩ := Prod.mk.inj (Except.ok.inj h)
    have hrow : (writtenRow key columns receiptSha256 r.modelDump).Holds r := ⟨rfl, rfl, found_ok hreceipt⟩
    obtain ⟨t, hdecode, halike⟩ := decodeRow_of_holds hreads hdigest hsize hidentity hrow
    exact ⟨_, List.mem_cons_self, rfl, t, hdecode, halike.equal⟩

end Writes

end KairosPersistence
