import KairosPersistence.DatetimeReading
import KairosPersistence.OperatorModels
import KairosPersistence.PayloadFingerprint
import KairosPersistence.RoundingOrder

/-!
Read-only evidence of a canary scope: its observations, and the verifier of the
persisted rows. The JSON values of the rows are read back as they were stored.
-/

namespace KairosPersistence

open PythonJson PythonText ShortestDecimal
open Transactions (require found)

inductive ReadonlyError where
  | canaryAdmission (message : String)
  | messageIdentityConflict (message : String)
  | valueError (message : String)
  | validationError
  | overflowError
  | indexError
  | keyError
  | databaseError
  deriving DecidableEq, Repr

section Floats

/-- `a / b` of integers. -/
def trueDivide (a b : ℕ) : Option Binary64 := Binary64.round false (a * twoPower 1074) b

/-- A literal with `digits` after the point. -/
def literal (m digits : ℕ) : Binary64 := (ofScientific false m (-digits)).getD (Binary64.signedZero false)

/-- `math.ceil(n * 0.95)`. -/
def ceil95 (n : ℕ) : ℕ :=
  (Binary64.roundUnits (n * (literal 95 2).units) 1 + (twoPower 1074 - 1)) / twoPower 1074

/-- `int(n / 1000000 * 1000)`: the quotient and the product are doubles. -/
def roundedMs (n : ℕ) : ℕ :=
  Binary64.roundUnits (Binary64.roundUnits (n * twoPower 1074) 1000000 * 1000) 1 / twoPower 1074

/-- Midnight UTC on 1 January 1970. -/
def epoch : Timestamp := 62135596800000000

/-- `millis`. -/
def millis (t : Timestamp) : ℤ :=
  if epoch ≤ t then roundedMs (t - epoch).toNat else -roundedMs (epoch - t).toNat

theorem roundedMs_mono {m n : ℕ} (h : m ≤ n) : roundedMs m ≤ roundedMs n := by
  apply Nat.div_le_div_right
  apply Binary64.roundUnits_mono
  exact Nat.mul_le_mul_right _ (Binary64.roundUnits_mono _ (Nat.mul_le_mul_right _ h))

theorem millis_mono {s t : Timestamp} (h : s ≤ t) : millis s ≤ millis t := by
  unfold millis
  by_cases hs : epoch ≤ s
  · rw [if_pos hs, if_pos (hs.trans h)]
    exact Int.ofNat_le.mpr (roundedMs_mono (Int.toNat_le_toNat (Int.sub_le_sub_right h _)))
  · rw [if_neg hs]
    by_cases ht : epoch ≤ t
    · rw [if_pos ht]
      omega
    · rw [if_neg ht]
      have := roundedMs_mono (Int.toNat_le_toNat (Int.sub_le_sub_left h epoch))
      omega

end Floats

section Observations

inductive CanarySymbol where
  | btcusdt
  | ethusdt
  | solusdt
  | bnbusdt
  | xrpusdt
  deriving DecidableEq, Repr

def CanarySymbol.value : CanarySymbol → String
  | .btcusdt => "BTCUSDT"
  | .ethusdt => "ETHUSDT"
  | .solusdt => "SOLUSDT"
  | .bnbusdt => "BNBUSDT"
  | .xrpusdt => "XRPUSDT"

/-- `SYMBOLS`. -/
def canarySymbols : List CanarySymbol := [.btcusdt, .ethusdt, .solusdt, .bnbusdt, .xrpusdt]

def canarySymbol? (s : String) : Option CanarySymbol := canarySymbols.find? (·.value = s)

inductive Metric where
  | basis
  | spread
  | slippage
  deriving DecidableEq, Repr

def Metric.value : Metric → String
  | .basis => "basis_bps"
  | .spread => "spread_bps"
  | .slippage => "slippage_bps"

def metrics : List Metric := [.basis, .spread, .slippage]

structure SymbolObservation where
  symbol : CanarySymbol
  available : Bool
  basisBps : Option Binary64
  spreadBps : Option Binary64
  slippageBps : Option Binary64
  bookAgeMs : Option ℕ
  timestampSkewMs : Option ℕ
  bookNonempty : Bool
  nonnegative : (∀ x ∈ spreadBps, 0 ≤ x.scaled) ∧ ∀ x ∈ slippageBps, 0 ≤ x.scaled
  measured : available = true → basisBps.isSome ∧ spreadBps.isSome ∧ slippageBps.isSome ∧ bookAgeMs.isSome ∧
    timestampSkewMs.isSome ∧ bookNonempty = true

/-- The symbols of an observation, sorted. -/
def sortedSymbols : List String := ["BNBUSDT", "BTCUSDT", "ETHUSDT", "SOLUSDT", "XRPUSDT"]

structure ReadonlyObservation where
  observedAtMs : ℕ
  symbols : List SymbolObservation
  unresolvedBarGaps : ℕ
  reconciliationDrift : Bool
  entryMutations : ℕ
  positive : 0 < observedAtMs
  exactSymbols : symbols.map (·.symbol.value) = sortedSymbols

def SymbolObservation.measure (item : SymbolObservation) : Metric → Option Binary64
  | .basis => item.basisBps
  | .spread => item.spreadBps
  | .slippage => item.slippageBps

def optFloat : Option Binary64 → PyJson
  | none => .null
  | some x => .num (.float x)

def SymbolObservation.modelDump (item : SymbolObservation) : PyJson :=
  .obj [
    ("symbol", .str item.symbol.value),
    ("available", .bool item.available),
    ("basis_bps", optFloat item.basisBps),
    ("spread_bps", optFloat item.spreadBps),
    ("slippage_bps", optFloat item.slippageBps),
    ("book_age_ms", optNat item.bookAgeMs),
    ("timestamp_skew_ms", optNat item.timestampSkewMs),
    ("book_nonempty", .bool item.bookNonempty)]

def ReadonlyObservation.modelDump (observation : ReadonlyObservation) : PyJson :=
  .obj [
    ("observed_at_ms", .num (.int observation.observedAtMs)),
    ("symbols", .arr (observation.symbols.map (·.modelDump))),
    ("unresolved_bar_gaps", .num (.int observation.unresolvedBarGaps)),
    ("reconciliation_drift", .bool observation.reconciliationDrift),
    ("entry_mutations", .num (.int observation.entryMutations))]

end Observations

section Validation

def boolField (fields : List (String × PyJson)) (key : String) : Option Bool :=
  match getField fields key with
  | .bool b => some b
  | _ => none

def boolFieldOr (default : Bool) (fields : List (String × PyJson)) (key : String) : Option Bool :=
  if fields.any (·.1 = key) then boolField fields key else some default

/-- A finite float; of an integer the double nearest to it. -/
def floatField (fields : List (String × PyJson)) (key : String) : Option Binary64 :=
  match getField fields key with
  | .num (.float x) => some x
  | .num (.int n) => Binary64.round (n < 0) (n.natAbs * twoPower 1074) 1
  | _ => none

def arrayField (fields : List (String × PyJson)) (key : String) : Option (List PyJson) :=
  match getField fields key with
  | .arr items => some items
  | _ => none

/-- `SymbolObservation.model_validate`. -/
def SymbolObservation.modelValidate : PyJson → Option SymbolObservation
  | .obj fields => do
    guard (onlyFields fields ["symbol", "available", "basis_bps", "spread_bps", "slippage_bps", "book_age_ms",
      "timestamp_skew_ms", "book_nonempty"])
    let symbol ← (strField fields "symbol").bind canarySymbol?
    let available ← boolField fields "available"
    let basisBps ← optField floatField fields "basis_bps"
    let spreadBps ← optField floatField fields "spread_bps"
    let slippageBps ← optField floatField fields "slippage_bps"
    let bookAgeMs ← optField natField fields "book_age_ms"
    let timestampSkewMs ← optField natField fields "timestamp_skew_ms"
    let bookNonempty ← boolFieldOr false fields "book_nonempty"
    if h : ((∀ x ∈ spreadBps, 0 ≤ x.scaled) ∧ ∀ x ∈ slippageBps, 0 ≤ x.scaled) ∧
        (available = true → basisBps.isSome ∧ spreadBps.isSome ∧ slippageBps.isSome ∧ bookAgeMs.isSome ∧
          timestampSkewMs.isSome ∧ bookNonempty = true) then
      some ⟨symbol, available, basisBps, spreadBps, slippageBps, bookAgeMs, timestampSkewMs, bookNonempty, h.1, h.2⟩
    else none
  | _ => none

/-- `exact_symbols`: the observations are of the five symbols when the sorted ones are. -/
def sortObservations (items : List SymbolObservation) : List SymbolObservation :=
  items.insertionSort fun a b => a.symbol.value ≤ b.symbol.value

/-- `ReadonlyObservation.model_validate`. -/
def ReadonlyObservation.modelValidate : PyJson → Option ReadonlyObservation
  | .obj fields => do
    guard (onlyFields fields
      ["observed_at_ms", "symbols", "unresolved_bar_gaps", "reconciliation_drift", "entry_mutations"])
    let observedAtMs ← natField fields "observed_at_ms"
    let items ← arrayField fields "symbols"
    let symbols ← items.mapM SymbolObservation.modelValidate
    let unresolvedBarGaps ← natField fields "unresolved_bar_gaps"
    let reconciliationDrift ← boolField fields "reconciliation_drift"
    let entryMutations ← natField fields "entry_mutations"
    if h : 0 < observedAtMs ∧ (sortObservations symbols).map (·.symbol.value) = sortedSymbols then
      some ⟨observedAtMs, sortObservations symbols, unresolvedBarGaps, reconciliationDrift, entryMutations, h.1, h.2⟩
    else none
  | _ => none

theorem canarySymbol?_value (symbol : CanarySymbol) : canarySymbol? symbol.value = some symbol := by
  cases symbol <;> rfl

theorem optField_float {fs : List (String × PyJson)} {key : String} {o : Option Binary64}
    (h : getField fs key = optFloat o) : optField floatField fs key = some o := by
  unfold optField floatField
  cases o <;> simp [h, optFloat]

theorem SymbolObservation.modelValidate_modelDump (item : SymbolObservation) :
    modelValidate item.modelDump = some item := by
  unfold modelDump
  set fields := [("symbol", Json.str item.symbol.value), _, _, _, _, _, _, _] with hfields
  have hsymbol : (strField fields "symbol").bind canarySymbol? = some item.symbol := canarySymbol?_value _
  have havailable : boolField fields "available" = some item.available := rfl
  have hbasis : optField floatField fields "basis_bps" = some item.basisBps := optField_float rfl
  have hspread : optField floatField fields "spread_bps" = some item.spreadBps := optField_float rfl
  have hslippage : optField floatField fields "slippage_bps" = some item.slippageBps := optField_float rfl
  have hbookAge : optField natField fields "book_age_ms" = some item.bookAgeMs := optField_nat rfl
  have hskew : optField natField fields "timestamp_skew_ms" = some item.timestampSkewMs := optField_nat rfl
  have hbook : boolFieldOr false fields "book_nonempty" = some item.bookNonempty := rfl
  simp only [modelValidate, hsymbol, havailable, hbasis, hspread, hslippage, hbookAge, hskew, hbook,
    Option.bind_eq_bind, Option.bind_some]
  rw [dif_pos ⟨item.nonnegative, item.measured⟩]
  rfl

theorem sortObservations_eq {items : List SymbolObservation} (h : items.map (·.symbol.value) = sortedSymbols) :
    sortObservations items = items := by
  apply List.Pairwise.insertionSort_eq
  rw [← List.pairwise_map (f := fun item : SymbolObservation => item.symbol.value) (R := (· ≤ ·)), h]
  decide

theorem ReadonlyObservation.modelValidate_modelDump (observation : ReadonlyObservation) :
    modelValidate observation.modelDump = some observation := by
  unfold modelDump
  set fields := [("observed_at_ms", Json.num (PyNumber.int observation.observedAtMs)), _, _, _, _] with hfields
  have hobserved : natField fields "observed_at_ms" = some observation.observedAtMs := by
    simp [natField, intField, hfields, getField]
  have hgaps : natField fields "unresolved_bar_gaps" = some observation.unresolvedBarGaps := by
    simp [natField, intField, hfields, getField]
  have hmutations : natField fields "entry_mutations" = some observation.entryMutations := by
    simp [natField, intField, hfields, getField]
  have hitems : arrayField fields "symbols" = some (observation.symbols.map (·.modelDump)) := rfl
  have hsymbols : (observation.symbols.map (·.modelDump)).mapM SymbolObservation.modelValidate = some observation.symbols := by
    generalize observation.symbols = items
    induction items with
    | nil => rfl
    | cons item items ih => simp [List.mapM_cons, SymbolObservation.modelValidate_modelDump, ih]
  have hdrift : boolField fields "reconciliation_drift" = some observation.reconciliationDrift := rfl
  simp only [modelValidate, hobserved, hitems, hsymbols, hgaps, hdrift, hmutations, Option.bind_eq_bind, Option.bind_some,
    sortObservations_eq observation.exactSymbols]
  rw [dif_pos ⟨observation.positive, observation.exactSymbols⟩]
  rfl

end Validation

section Rows

structure ReadonlyRun where
  runId : String
  scope : PyJson
  scopeSha256 : String
  databaseInstanceId : String
  startedAt : Timestamp
  samplePeriodMs : ℕ
  sampleCount : ℕ
  headSha256 : String
  certified : Bool

structure ReadonlySample where
  runId : String
  seq : ℕ
  receivedAt : Timestamp
  payload : PyJson
  previousSha256 : String
  sampleSha256 : String

/-- `payload`. -/
def requireObject (value : PyJson) : Except ReadonlyError Unit :=
  match value with
  | .obj _ => .ok ()
  | _ => .error (.messageIdentityConflict "stored operational evidence is not an object")

end Rows

section Verifier

/-- The accumulators of the verifier's loop, and the sample it leaves. -/
structure SampleTotals where
  head : String
  previousMs : ℤ
  availableMs : CanarySymbol → ℕ
  measures : CanarySymbol → Metric → List Binary64
  sample : Option ReadonlyObservation

/-- An available book counts with its weight and its measures; `measured` says that it has them all. -/
def countItem (weight : ℕ) (evidence : SampleTotals) (item : SymbolObservation) : Except ReadonlyError SampleTotals :=
  if item.available = false then .ok evidence
  else do
    require (item.bookAgeMs.any (· ≤ 5000)) (.canaryAdmission "read-only book age exceeds five seconds")
    require (item.timestampSkewMs.any (· ≤ 2000)) (.canaryAdmission "read-only timestamp skew exceeds two seconds")
    .ok { evidence with
      availableMs := Function.update evidence.availableMs item.symbol (evidence.availableMs item.symbol + weight)
      measures := Function.update evidence.measures item.symbol fun metric =>
        evidence.measures item.symbol metric ++ ((item.measure metric).map Binary64.abs).toList }

/-- A turn of the loop: the row at its place. -/
def verifyObservation (run : ReadonlyRun) (samples : List ReadonlySample) (startMs endMs : ℤ) (evidence : SampleTotals)
    (entry : ReadonlySample × ℕ) : Except ReadonlyError SampleTotals := do
  let (row, seq) := entry
  requireObject row.payload
  let sample ← found (ReadonlyObservation.modelValidate row.payload) .validationError
  let receivedMs := millis row.receivedAt
  let expected := sampleIdentity run.runId seq row.receivedAt evidence.head row.payload
  require (row.seq = seq ∧ row.previousSha256 = evidence.head ∧ row.sampleSha256 = expected)
    (.messageIdentityConflict "read-only observation hash chain is invalid")
  require (startMs ≤ receivedMs ∧ receivedMs ≤ endMs ∧ evidence.previousMs < receivedMs)
    (.canaryAdmission "read-only observation timestamps are reordered or outside the run")
  require (|(sample.observedAtMs : ℤ) - receivedMs| ≤ 2000)
    (.canaryAdmission "read-only observation is backdated or clock-skewed")
  require (sample.unresolvedBarGaps = 0 ∧ sample.reconciliationDrift = false ∧ sample.entryMutations = 0)
    (.canaryAdmission "read-only gap, reconciliation drift or mutation evidence")
  let nextMs := samples[seq]?.elim endMs (millis ·.receivedAt)
  let weight := (min (run.samplePeriodMs : ℤ) (nextMs - receivedMs)).toNat
  let counted ← sample.symbols.foldlM (countItem weight) evidence
  .ok { counted with head := expected, previousMs := receivedMs, sample := some sample }

/-- `ordered[math.ceil(len(ordered) * 0.95) - 1]`; the index of an empty list is out of its range. -/
def percentile95 (values : List Binary64) : Except ReadonlyError Binary64 :=
  found (values.insertionSort fun x y => x.scaled ≤ y.scaled)[ceil95 values.length - 1]? .indexError

def metricEntry (evidence : SampleTotals) (symbol : CanarySymbol) (metric : Metric) : Except ReadonlyError (String × PyJson) := do
  let p95 ← percentile95 (evidence.measures symbol metric)
  require (p95.scaled ≤ 25 * twoPower 1074) (.canaryAdmission "read-only p95 basis/spread/slippage exceeds 25 bps")
  .ok ("p95_" ++ metric.value, .num (.float p95))

def symbolMetrics (evidence : SampleTotals) (duration : ℕ) (symbol : CanarySymbol) :
    Except ReadonlyError (String × PyJson) := do
  let availability ← found (trueDivide (evidence.availableMs symbol) duration) .overflowError
  require ((literal 99 2).scaled ≤ availability.scaled)
    (.canaryAdmission "read-only availability below 99% for a required symbol")
  let entries ← metrics.mapM (metricEntry evidence symbol)
  .ok (symbol.value, .obj (("availability", .num (.float availability)) :: entries))

def readonlyDurationMs : ℕ := 86400000

/-- `verify_readonly_evidence`. -/
def verifyReadonlyEvidence (run : ReadonlyRun) (samples : List ReadonlySample) (endedAt : Timestamp) :
    Except ReadonlyError PyJson := do
  requireObject run.scope
  let scope ← found (CanaryScope.modelValidate run.scope) .validationError
  require (digest scope.modelDump = run.scopeSha256) (.messageIdentityConflict "read-only scope fingerprint mismatch")
  let startMs := millis run.startedAt
  let endMs := millis endedAt
  require (readonlyDurationMs ≤ endMs - startMs ∧ 5000 ≤ run.samplePeriodMs ∧ run.samplePeriodMs ≤ 60000)
    (.canaryAdmission "a real complete 24-hour read-only window is required")
  require (samples.length = run.sampleCount ∧ samples ≠ [])
    (.messageIdentityConflict "read-only sample count mismatch or empty evidence")
  let evidence ← (samples.zipIdx 1).foldlM (verifyObservation run samples startMs endMs)
    ⟨zeroSha, startMs - 1, fun _ => 0, fun _ _ => [], none⟩
  require (evidence.head = run.headSha256)
    (.messageIdentityConflict "read-only terminal chain fingerprint mismatch")
  require (endMs - evidence.previousMs ≤ run.samplePeriodMs ∧
      evidence.sample.any fun sample => sample.symbols.all (·.available))
    (.canaryAdmission "read-only window must end with fresh nonempty books for all five symbols")
  let entries ← canarySymbols.mapM (symbolMetrics evidence (endMs - startMs).toNat)
  .ok (.obj [
    ("domain", .str "kairos.readonly-receipt.v1"),
    ("run_id", .str run.runId),
    ("scope_sha256", .str run.scopeSha256),
    ("database_instance_id", .str run.databaseInstanceId),
    ("started_at", .str (isoformat false run.startedAt)),
    ("ended_at", .str (isoformat false endedAt)),
    ("duration_ms", .num (.int (endMs - startMs))),
    ("sample_count", .num (.int samples.length)),
    ("head_sha256", .str evidence.head),
    ("sample_period_ms", .num (.int run.samplePeriodMs)),
    ("metrics", .obj entries)])

end Verifier

end KairosPersistence
