import KairosPersistence.Binary64
import KairosPersistence.Extremes
import KairosPersistence.KeyedRows
import KairosPersistence.Locking
import KairosPersistence.PythonText
import KairosPersistence.Runs
import KairosPersistence.Transactions
import Mathlib.Data.Int.Interval

/-!
`record_equity`: the row of an account and a trading day is upserted by one
statement for each snapshot, and its callers run side by side.
-/

namespace KairosPersistence

open PythonText (Timestamp strip)
open Relation (ReflTransGen)
open Transactions Extremes

inductive EquityError where
  | valueError (text : String)
  | overflowError
  | checkViolation
  | numericValueOutOfRange

/-- The primary key: the account, and the trading day in days since year 1. -/
structure EquityKey where
  environment : String
  accountId : String
  exchange : String
  tradingDay : ℤ
  deriving DecidableEq

/-- The arguments of `record_equity`. A naive time has no instant, and NaN and the infinities no value. -/
structure EquitySnapshot where
  environment : String
  accountId : String
  exchange : String
  capturedAt : Option Timestamp
  equityUsd : Option Binary64

structure EquityCapture where
  capturedUtc : Timestamp
  equityUsd : Binary64
  deriving DecidableEq

structure EquityRow where
  dayStartEquityUsd : Binary64
  peakEquityUsd : Binary64
  lastEquityUsd : Binary64
  firstCapturedAt : Timestamp
  lastCapturedAt : Timestamp
  reconciliationSeq : ℕ
  updatedAt : Timestamp

/-- The CHECK constraints of `account_equity_state`. -/
structure EquityRow.Checked (row : EquityRow) : Prop where
  day_start_pos : 0 < row.dayStartEquityUsd.scaled
  peak_pos : 0 < row.peakEquityUsd.scaled
  last_pos : 0 < row.lastEquityUsd.scaled
  seq_pos : 0 < row.reconciliationSeq
  captured_le : row.firstCapturedAt ≤ row.lastCapturedAt
  peak_ge : row.dayStartEquityUsd.scaled ≤ row.peakEquityUsd.scaled ∧ row.lastEquityUsd.scaled ≤ row.peakEquityUsd.scaled

instance instDecidableEquityChecked (row : EquityRow) : Decidable row.Checked :=
  decidable_of_iff (0 < row.dayStartEquityUsd.scaled ∧ 0 < row.peakEquityUsd.scaled ∧ 0 < row.lastEquityUsd.scaled ∧
    0 < row.reconciliationSeq ∧ row.firstCapturedAt ≤ row.lastCapturedAt ∧
    row.dayStartEquityUsd.scaled ≤ row.peakEquityUsd.scaled ∧ row.lastEquityUsd.scaled ≤ row.peakEquityUsd.scaled)
    ⟨fun ⟨h1, h2, h3, h4, h5, h6⟩ => ⟨h1, h2, h3, h4, h5, h6⟩, fun ⟨h1, h2, h3, h4, h5, h6⟩ => ⟨h1, h2, h3, h4, h5, h6⟩⟩

/-- `EquityState`, next to its key. -/
structure EquityState where
  dayStartEquityUsd : Binary64
  peakEquityUsd : Binary64
  lastEquityUsd : Binary64
  firstCapturedAt : Timestamp
  lastCapturedAt : Timestamp
  reconciliationSeq : ℕ
  deriving DecidableEq

def equityRecord (row : EquityRow) : EquityState where
  dayStartEquityUsd := row.dayStartEquityUsd
  peakEquityUsd := row.peakEquityUsd
  lastEquityUsd := row.lastEquityUsd
  firstCapturedAt := row.firstCapturedAt
  lastCapturedAt := row.lastCapturedAt
  reconciliationSeq := row.reconciliationSeq

def microsPerDay : ℤ := 86400000000

/-- The UTC times that a `datetime` can hold. -/
def InDatetimeRange (t : Timestamp) : Prop := 0 ≤ t ∧ t < 315537897600000000

instance (t : Timestamp) : Decidable (InDatetimeRange t) := inferInstanceAs (Decidable (_ ∧ _))

def validateEquityText (name value : String) : Except EquityError Unit :=
  require (strip value ≠ "") (.valueError (name ++ " must not be empty"))

def validateEquityScope (environment accountId exchange : String) : Except EquityError Unit := do
  validateEquityText "environment" environment
  validateEquityText "account_id" accountId
  validateEquityText "exchange" exchange

/-- What `record_equity` makes of its arguments before the statement. -/
def EquitySnapshot.capture (snapshot : EquitySnapshot) : Except EquityError (EquityKey × EquityCapture) := do
  validateEquityScope snapshot.environment snapshot.accountId snapshot.exchange
  let captured ← found snapshot.capturedAt (.valueError "captured_at must be timezone-aware")
  let equity ← found snapshot.equityUsd (.valueError "equity_usd must be finite and positive")
  require (0 < equity.scaled) (.valueError "equity_usd must be finite and positive")
  require (InDatetimeRange captured) .overflowError
  return (⟨snapshot.environment, snapshot.accountId, snapshot.exchange, captured / microsPerDay⟩, ⟨captured, equity⟩)

/-- PostgreSQL's `GREATEST` of two doubles. -/
def greatestEquity (a b : Binary64) : Binary64 := if a.scaled < b.scaled then b else a

/-- The tuple that is proposed for insertion. -/
def EquityCapture.excluded (capture : EquityCapture) (now : Timestamp) : EquityRow where
  dayStartEquityUsd := capture.equityUsd
  peakEquityUsd := capture.equityUsd
  lastEquityUsd := capture.equityUsd
  firstCapturedAt := capture.capturedUtc
  lastCapturedAt := capture.capturedUtc
  reconciliationSeq := 1
  updatedAt := now

/-- `ON CONFLICT … DO UPDATE SET`. -/
def EquityRow.update (stored excluded : EquityRow) (now : Timestamp) : EquityRow where
  dayStartEquityUsd :=
    if excluded.firstCapturedAt < stored.firstCapturedAt then excluded.dayStartEquityUsd else stored.dayStartEquityUsd
  peakEquityUsd := greatestEquity stored.peakEquityUsd excluded.peakEquityUsd
  lastEquityUsd :=
    if stored.lastCapturedAt ≤ excluded.lastCapturedAt then excluded.lastEquityUsd else stored.lastEquityUsd
  firstCapturedAt := min stored.firstCapturedAt excluded.firstCapturedAt
  lastCapturedAt := max stored.lastCapturedAt excluded.lastCapturedAt
  reconciliationSeq := stored.reconciliationSeq + 1
  updatedAt := now

/-- The statement of `record_equity` on the row of its key. The constraints are checked on the proposed tuple, and on
what a conflict makes of the stored one. -/
def upsertEquity (capture : EquityCapture) (now : Timestamp) (stored : Option EquityRow) :
    Except EquityError EquityRow := do
  let excluded := capture.excluded now
  require excluded.Checked .checkViolation
  match stored with
  | none => return excluded
  | some row =>
    require (row.reconciliationSeq + 1 < 2 ^ 63) .numericValueOutOfRange
    let updated := row.update excluded now
    require updated.Checked .checkViolation
    return updated

/-- A caller between its calls, or with a row that it has upserted and not yet committed. -/
inductive EquityPhase where
  | idle
  | upserted (key : EquityKey) (capture : EquityCapture) (row : EquityRow)

def EquityPhase.lock : EquityPhase → Option EquityKey
  | .idle => none
  | .upserted key _ _ => some key

/-- The committed rows, the callers, and, the last one first, the snapshots that are recorded and the calls that are
refused. -/
structure EquitySystem (ι : Type) where
  table : EquityKey → Option EquityRow
  callers : ι → EquityPhase
  recorded : List (EquityKey × EquityCapture)
  refused : List (EquitySnapshot × EquityError)

namespace EquitySystem

variable {ι : Type} [DecidableEq ι]

def Unlocked (s : EquitySystem ι) (key : EquityKey) : Prop := Locking.Free (·.lock = some ·) s.callers key

inductive Step : EquitySystem ι → EquitySystem ι → Prop
  -- the statement waits for the transaction that has inserted or updated the row, and reads what it has committed
  | upsert {s} (p : ι) (snapshot : EquitySnapshot) (now : Timestamp) {key capture row} (h : s.callers p = .idle)
    (hcapture : snapshot.capture = .ok (key, capture)) (hl : s.Unlocked key)
    (hrow : upsertEquity capture now (s.table key) = .ok row) :
    Step s { s with callers := Function.update s.callers p (.upserted key capture row) }
  | invalid {s} (p : ι) (snapshot : EquitySnapshot) {e} (h : s.callers p = .idle) (hcapture : snapshot.capture = .error e) :
    Step s { s with refused := (snapshot, e) :: s.refused }
  | refuse {s} (p : ι) (snapshot : EquitySnapshot) (now : Timestamp) {key capture e} (h : s.callers p = .idle)
    (hcapture : snapshot.capture = .ok (key, capture)) (hl : s.Unlocked key)
    (hrow : upsertEquity capture now (s.table key) = .error e) :
    Step s { s with refused := (snapshot, e) :: s.refused }
  | commit {s} (p : ι) {key capture row} (h : s.callers p = .upserted key capture row) :
    Step s { s with
      table := Function.update s.table key (some row)
      callers := Function.update s.callers p .idle
      recorded := (key, capture) :: s.recorded }
  -- cancelled or crashed: the statement rolls back
  | interrupt {s} (p : ι) : Step s { s with callers := Function.update s.callers p .idle }

/-- The snapshots of a key, the one recorded last first. -/
def recordedOn (s : EquitySystem ι) (key : EquityKey) : List EquityCapture :=
  s.recorded.filterMap fun x => if x.1 = key then some x.2 else none

/-- Any rows of other keys, and no call yet. -/
structure Initial (s : EquitySystem ι) (key : EquityKey) : Prop where
  absent : s.table key = none
  idle : ∀ p, s.callers p = .idle
  recorded : s.recorded = []
  refused : s.refused = []

end EquitySystem

/-- What a row says of the snapshots of its day. -/
structure EquityState.Summarises (state : EquityState) (captures : List EquityCapture) : Prop where
  day_start : ∃ capture, LeastBy EquityCapture.capturedUtc captures capture ∧
    state.dayStartEquityUsd = capture.equityUsd ∧ state.firstCapturedAt = capture.capturedUtc
  last : ∃ capture, GreatestBy EquityCapture.capturedUtc captures capture ∧
    state.lastEquityUsd = capture.equityUsd ∧ state.lastCapturedAt = capture.capturedUtc
  peak : ∃ capture, GreatestBy (fun capture => capture.equityUsd.scaled) captures capture ∧
    state.peakEquityUsd = capture.equityUsd
  seq : state.reconciliationSeq = captures.length

/-- No two snapshots are captured at the same time. -/
def DistinctTimes (captures : List EquityCapture) : Prop := (captures.map EquityCapture.capturedUtc).Nodup

/-- What the checks of `record_equity` leave of a snapshot. -/
structure EquityCapture.Valid (capture : EquityCapture) (key : EquityKey) : Prop where
  positive : 0 < capture.equityUsd.scaled
  in_range : InDatetimeRange capture.capturedUtc
  same_day : key.tradingDay = capture.capturedUtc / microsPerDay

section Rows

variable {snapshot : EquitySnapshot} {key : EquityKey} {capture : EquityCapture} {captures : List EquityCapture}
  {stored : Option EquityRow} {row : EquityRow} {now : Timestamp}

theorem EquitySnapshot.capture_valid (h : snapshot.capture = .ok (key, capture)) : capture.Valid key := by
  obtain ⟨_, -, h⟩ := bind_ok h
  obtain ⟨captured, -, h⟩ := bind_ok h
  obtain ⟨equity, -, h⟩ := bind_ok h
  obtain ⟨_, hpositive, h⟩ := bind_ok h
  obtain ⟨_, hrange, h⟩ := bind_ok h
  cases h
  exact ⟨require_ok hpositive, require_ok hrange, rfl⟩

theorem scaled_greatestEquity (a b : Binary64) : (greatestEquity a b).scaled = max a.scaled b.scaled := by
  unfold greatestEquity
  split_ifs with h
  · exact (max_eq_right h.le).symm
  · exact (max_eq_left (not_lt.mp h)).symm

theorem EquityCapture.excluded_checked (h : 0 < capture.equityUsd.scaled) : (capture.excluded now).Checked :=
  ⟨h, h, h, Nat.one_pos, le_refl _, le_refl _, le_refl _⟩

theorem EquityRow.Checked.update (h : row.Checked) (hpositive : 0 < capture.equityUsd.scaled) :
    (row.update (capture.excluded now) now).Checked := by
  obtain ⟨hstart, hpeak, hlast, -, hcaptured, hstartPeak, hlastPeak⟩ := h
  have hstartCases : (row.update (capture.excluded now) now).dayStartEquityUsd = capture.equityUsd ∨
    (row.update (capture.excluded now) now).dayStartEquityUsd = row.dayStartEquityUsd := ite_eq_or_eq _ _ _
  have hlastCases : (row.update (capture.excluded now) now).lastEquityUsd = capture.equityUsd ∨
    (row.update (capture.excluded now) now).lastEquityUsd = row.lastEquityUsd := ite_eq_or_eq _ _ _
  have hnewPeak : (row.update (capture.excluded now) now).peakEquityUsd.scaled =
    max row.peakEquityUsd.scaled capture.equityUsd.scaled := scaled_greatestEquity _ _
  constructor
  · rcases hstartCases with heq | heq <;> rw [heq] <;> assumption
  · rw [hnewPeak]
    exact lt_max_of_lt_left hpeak
  · rcases hlastCases with heq | heq <;> rw [heq] <;> assumption
  · exact Nat.succ_pos _
  · exact (min_le_left _ _).trans (hcaptured.trans (le_max_left _ _))
  · rw [hnewPeak]
    constructor
    · rcases hstartCases with heq | heq <;> rw [heq]
      · exact le_max_right _ _
      · exact hstartPeak.trans (le_max_left _ _)
    · rcases hlastCases with heq | heq <;> rw [heq]
      · exact le_max_right _ _
      · exact hlastPeak.trans (le_max_left _ _)

/-- The constraints refuse no upsert on rows that satisfy them. -/
theorem upsertEquity_created (hstored : ∀ row ∈ stored, row.Checked ∧ row.reconciliationSeq + 1 < 2 ^ 63)
    (hpositive : 0 < capture.equityUsd.scaled) : ∃ row, upsertEquity capture now stored = .ok row := by
  unfold upsertEquity
  dsimp only
  rw [require_pos (EquityCapture.excluded_checked hpositive), ok_bind]
  cases stored with
  | none => exact ⟨_, rfl⟩
  | some row =>
    obtain ⟨hchecked, hseq⟩ := hstored row rfl
    dsimp only
    rw [require_pos hseq, ok_bind, require_pos (hchecked.update hpositive), ok_bind]
    exact ⟨_, rfl⟩

theorem upsertEquity_ok (h : upsertEquity capture now stored = .ok row) :
    row = stored.elim (capture.excluded now) (·.update (capture.excluded now) now) := by
  obtain ⟨_, -, h⟩ := bind_ok h
  cases stored with
  | none =>
    cases h
    rfl
  | some stored =>
    obtain ⟨_, -, h⟩ := bind_ok h
    obtain ⟨_, -, h⟩ := bind_ok h
    cases h
    rfl

/-- A row satisfies the constraints when it summarises positive equities. -/
theorem EquityState.Summarises.checked (h : (equityRecord row).Summarises captures)
    (hpositive : ∀ c ∈ captures, 0 < c.equityUsd.scaled) : row.Checked := by
  obtain ⟨⟨first, hfirst, hstart, hfirstAt⟩, ⟨last, hlast, hlastEquity, hlastAt⟩, ⟨peak, hpeak, hpeakEquity⟩, hseq⟩ := h
  simp only [equityRecord] at hstart hfirstAt hlastEquity hlastAt hpeakEquity hseq
  constructor
  · rw [hstart]
    exact hpositive _ hfirst.1
  · rw [hpeakEquity]
    exact hpositive _ hpeak.1
  · rw [hlastEquity]
    exact hpositive _ hlast.1
  · rw [hseq]
    exact List.length_pos_of_mem hfirst.1
  · rw [hfirstAt, hlastAt]
    exact hfirst.2 last hlast.1
  · rw [hstart, hpeakEquity, hlastEquity]
    exact ⟨hpeak.2 first hfirst.1, hpeak.2 last hlast.1⟩

/-- A row that is inserted summarises its snapshot. -/
theorem EquityCapture.excluded_summarises : (equityRecord (capture.excluded now)).Summarises [capture] where
  day_start := ⟨capture, leastBy_single _ _, rfl, rfl⟩
  last := ⟨capture, leastBy_single _ _, rfl, rfl⟩
  peak := ⟨capture, leastBy_single _ _, rfl⟩
  seq := rfl

/-- A row that is updated summarises one snapshot more, be it early or late. -/
theorem EquityState.Summarises.update (h : (equityRecord row).Summarises captures)
    (hdistinct : DistinctTimes (capture :: captures)) :
    (equityRecord (row.update (capture.excluded now) now)).Summarises (capture :: captures) := by
  obtain ⟨⟨first, hfirst, hstart, hfirstAt⟩, ⟨last, hlast, hlastEquity, hlastAt⟩, ⟨peak, hpeak, hpeakEquity⟩, hseq⟩ := h
  simp only [equityRecord] at hstart hfirstAt hlastEquity hlastAt hpeakEquity hseq
  have hnew : capture.capturedUtc ∉ captures.map EquityCapture.capturedUtc := (List.nodup_cons.mp hdistinct).1
  constructor
  · simp only [equityRecord, EquityRow.update, EquityCapture.excluded, hfirstAt, hstart]
    by_cases hlt : capture.capturedUtc < first.capturedUtc
    · rw [if_pos hlt, min_eq_right hlt.le]
      exact ⟨capture, hfirst.cons_of_lt hlt, rfl, rfl⟩
    · rw [if_neg hlt, min_eq_left (not_lt.mp hlt)]
      exact ⟨first, hfirst.cons_of_le (not_lt.mp hlt), rfl, rfl⟩
  · simp only [equityRecord, EquityRow.update, EquityCapture.excluded, hlastAt, hlastEquity]
    by_cases hle : last.capturedUtc ≤ capture.capturedUtc
    · have hne : last.capturedUtc ≠ capture.capturedUtc := fun heq => hnew (heq ▸ List.mem_map_of_mem hlast.1)
      rw [if_pos hle, max_eq_right hle]
      exact ⟨capture, hlast.cons_of_lt (lt_of_le_of_ne hle hne), rfl, rfl⟩
    · rw [if_neg hle, max_eq_left (not_le.mp hle).le]
      exact ⟨last, hlast.cons_of_le (not_le.mp hle).le, rfl, rfl⟩
  · simp only [equityRecord, EquityRow.update, EquityCapture.excluded, hpeakEquity]
    unfold greatestEquity
    split_ifs with hlt
    · exact ⟨capture, hpeak.cons_of_lt hlt, rfl⟩
    · exact ⟨peak, hpeak.cons_of_le (not_lt.mp hlt), rfl⟩
  · simp only [equityRecord, EquityRow.update, hseq, List.length_cons]

/-- A row says the same of its snapshots in every order. -/
theorem EquityState.Summarises.perm {state : EquityState} {captures' : List EquityCapture} (h : state.Summarises captures)
    (hperm : captures.Perm captures') : state.Summarises captures' := by
  obtain ⟨⟨first, hfirst, hstart⟩, ⟨last, hlast, hlastEquity⟩, ⟨peak, hpeak, hpeakEquity⟩, hseq⟩ := h
  constructor
  · exact ⟨first, hfirst.perm hperm, hstart⟩
  · exact ⟨last, LeastBy.perm hlast hperm, hlastEquity⟩
  · exact ⟨peak, LeastBy.perm hpeak hperm, hpeakEquity⟩
  · rw [hseq, hperm.length_eq]

theorem eq_of_scaled {a b : Binary64} (ha : 0 < a.scaled) (hb : 0 < b.scaled) (h : a.scaled = b.scaled) : a = b := by
  have hsign (x : Binary64) (hx : 0 < x.scaled) : x.negative = false ∧ (x.units : ℤ) = x.scaled := by
    unfold Binary64.scaled at hx ⊢
    split_ifs at hx ⊢ with hn
    · omega
    · exact ⟨by simpa using hn, rfl⟩
  apply Binary64.units_injective
  · rw [(hsign a ha).1, (hsign b hb).1]
  · have hunits : (a.units : ℤ) = b.units := by rw [(hsign a ha).2, (hsign b hb).2, h]
    exact Int.ofNat_inj.mp hunits

/-- Only one row summarises given snapshots. -/
theorem EquityState.Summarises.unique {state state' : EquityState} (hdistinct : DistinctTimes captures)
    (hpositive : ∀ c ∈ captures, 0 < c.equityUsd.scaled) (h : state.Summarises captures)
    (h' : state'.Summarises captures) : state = state' := by
  obtain ⟨⟨first, hfirst, hstart, hfirstAt⟩, ⟨last, hlast, hlastEquity, hlastAt⟩, ⟨peak, hpeak, hpeakEquity⟩, hseq⟩ := h
  obtain ⟨⟨first', hfirst', hstart', hfirstAt'⟩, ⟨last', hlast', hlastEquity', hlastAt'⟩, ⟨peak', hpeak', hpeakEquity'⟩,
    hseq'⟩ := h'
  obtain rfl : first = first' := List.inj_on_of_nodup_map hdistinct hfirst.1 hfirst'.1 (hfirst.eq hfirst')
  obtain rfl : last = last' := List.inj_on_of_nodup_map hdistinct hlast.1 hlast'.1 (hlast.eq hlast')
  have heq : peak.equityUsd = peak'.equityUsd :=
    eq_of_scaled (hpositive _ hpeak.1) (hpositive _ hpeak'.1) (hpeak.eq hpeak')
  cases state
  cases state'
  simp_all

theorem exists_summary (h : captures ≠ []) : ∃ state : EquityState, state.Summarises captures := by
  obtain ⟨first, hfirst⟩ := exists_leastBy EquityCapture.capturedUtc h
  obtain ⟨last, hlast⟩ := exists_greatestBy EquityCapture.capturedUtc h
  obtain ⟨peak, hpeak⟩ := exists_greatestBy (fun capture : EquityCapture => capture.equityUsd.scaled) h
  exact ⟨⟨first.equityUsd, peak.equityUsd, last.equityUsd, first.capturedUtc, last.capturedUtc, captures.length⟩,
    ⟨first, hfirst, rfl, rfl⟩, ⟨last, hlast, rfl, rfl⟩, ⟨peak, hpeak, rfl⟩, rfl⟩

/-- A day has no more microseconds than the sequence of its row counts. -/
theorem length_le_day (hvalid : ∀ c ∈ captures, c.Valid key) (hdistinct : DistinctTimes captures) :
    captures.length ≤ 86400000000 := by
  have hsubset : (captures.map EquityCapture.capturedUtc).toFinset ⊆
      Finset.Ico (key.tradingDay * microsPerDay) (key.tradingDay * microsPerDay + microsPerDay) := by
    intro t ht
    obtain ⟨c, hc, rfl⟩ := List.mem_map.mp (List.mem_toFinset.mp ht)
    have hbounds (t day : ℤ) (h : day = t / microsPerDay) :
        day * microsPerDay ≤ t ∧ t < day * microsPerDay + microsPerDay := by
      unfold microsPerDay at h ⊢
      omega
    exact Finset.mem_Ico.mpr (hbounds _ _ (hvalid c hc).same_day)
  have hcard := Finset.card_le_card hsubset
  rw [List.toFinset_card_of_nodup hdistinct, List.length_map, Int.card_Ico] at hcard
  unfold microsPerDay at hcard
  omega

end Rows

namespace EquitySystem

variable {ι : Type} [DecidableEq ι] {key : EquityKey} {s t : EquitySystem ι}

/-- The row of a key, when it has one, summarises the snapshots that are recorded. -/
def Tracks (stored : Option EquityRow) (captures : List EquityCapture) : Prop :=
  match stored with
  | none => captures = []
  | some row => (equityRecord row).Summarises captures

/-- A caller has made its row from the one that is committed. -/
def PhaseOk (table : EquityKey → Option EquityRow) : EquityPhase → Prop
  | .idle => True
  | .upserted key capture row => capture.Valid key ∧ ∃ now, upsertEquity capture now (table key) = .ok row

structure Invariant (key : EquityKey) (s : EquitySystem ι) : Prop where
  exclusive : Locking.Exclusive (·.lock = some ·) s.callers
  phases : ∀ p, PhaseOk s.table (s.callers p)
  valid : ∀ c ∈ s.recordedOn key, c.Valid key
  tracks : DistinctTimes (s.recordedOn key) → Tracks (s.table key) (s.recordedOn key)
  refused : DistinctTimes (s.recordedOn key) → ∀ x ∈ s.refused, ∀ c, x.1.capture ≠ .ok (key, c)

theorem Tracks.upsert {stored : Option EquityRow} {captures : List EquityCapture} {capture : EquityCapture}
    {row : EquityRow} {now : Timestamp} (h : Tracks stored captures) (hdistinct : DistinctTimes (capture :: captures))
    (hrow : upsertEquity capture now stored = .ok row) : (equityRecord row).Summarises (capture :: captures) := by
  obtain rfl := upsertEquity_ok hrow
  cases stored with
  | none =>
    have hnil : captures = [] := h
    rw [hnil]
    exact EquityCapture.excluded_summarises
  | some stored => exact EquityState.Summarises.update h hdistinct

/-- No snapshot is refused on a row that summarises snapshots of one day at distinct times. -/
theorem Tracks.created {stored : Option EquityRow} {captures : List EquityCapture} {capture : EquityCapture}
    (h : Tracks stored captures) (hdistinct : DistinctTimes captures) (hvalid : ∀ c ∈ captures, c.Valid key)
    (hcapture : capture.Valid key) (now : Timestamp) : ∃ row, upsertEquity capture now stored = .ok row := by
  apply upsertEquity_created _ hcapture.positive
  rintro row ⟨⟩
  have hsummary : (equityRecord row).Summarises captures := h
  have hseq : row.reconciliationSeq = captures.length := hsummary.seq
  have hlength := length_le_day hvalid hdistinct
  constructor
  · exact hsummary.checked fun c hc => (hvalid c hc).positive
  · omega

omit [DecidableEq ι] in
theorem Initial.invariant (h : s.Initial key) : Invariant key s := by
  have hnil : s.recordedOn key = [] := by rw [recordedOn, h.recorded, List.filterMap_nil]
  constructor
  · intro p q k hp
    rw [h.idle p] at hp
    cases hp
  · intro p
    rw [h.idle p]
    trivial
  · simp [hnil]
  · intro _
    rw [h.absent, hnil]
    rfl
  · simp [h.refused]

theorem Invariant.setCaller (hs : Invariant key s) {p : ι} {x : EquityPhase} (hx : PhaseOk s.table x)
    (hl : ∀ k, x.lock = some k → s.Unlocked k ∨ (s.callers p).lock = some k) :
    Invariant key { s with callers := Function.update s.callers p x } where
  exclusive := hs.exclusive.update hl
  phases := (Function.forall_update_iff s.callers fun _ => PhaseOk s.table).mpr ⟨hx, fun q _ => hs.phases q⟩
  valid := hs.valid
  tracks := hs.tracks
  refused := hs.refused

omit [DecidableEq ι] in
theorem Invariant.refuse (hs : Invariant key s) {snapshot : EquitySnapshot} {e : EquityError}
    (h : DistinctTimes (s.recordedOn key) → ∀ c, snapshot.capture ≠ .ok (key, c)) :
    Invariant key { s with refused := (snapshot, e) :: s.refused } where
  exclusive := hs.exclusive
  phases := hs.phases
  valid := hs.valid
  tracks := hs.tracks
  refused hdistinct := List.forall_mem_cons.mpr ⟨h hdistinct, hs.refused hdistinct⟩

omit [DecidableEq ι] in
theorem recordedOn_cons (k : EquityKey) (capture : EquityCapture) (table : EquityKey → Option EquityRow)
    (callers : ι → EquityPhase) :
    recordedOn { s with table := table, callers := callers, recorded := (k, capture) :: s.recorded } key =
      if k = key then capture :: s.recordedOn key else s.recordedOn key := by
  by_cases h : k = key <;> simp [recordedOn, h]

theorem Invariant.commit (hs : Invariant key s) {p : ι} {k : EquityKey} {capture : EquityCapture} {row : EquityRow}
    (h : s.callers p = .upserted k capture row) :
    Invariant key { s with
      table := Function.update s.table k (some row)
      callers := Function.update s.callers p .idle
      recorded := (k, capture) :: s.recorded } := by
  have hphase := hs.phases p
  rw [h] at hphase
  obtain ⟨hvalid, now, hrow⟩ := hphase
  constructor
  · exact hs.exclusive.update (by simp [EquityPhase.lock])
  · refine (Function.forall_update_iff s.callers fun _ => PhaseOk (Function.update s.table k (some row))).mpr
      ⟨trivial, fun q hq => ?_⟩
    have hother := hs.phases q
    cases hcaller : s.callers q with
    | idle => trivial
    | upserted k' capture' row' =>
      rw [hcaller] at hother
      have hne : k' ≠ k := by
        rintro rfl
        exact hq (hs.exclusive q p k' (by rw [hcaller]; rfl) (by rw [h]; rfl))
      simpa only [PhaseOk, Function.update_of_ne hne] using hother
  · rw [recordedOn_cons]
    split_ifs with hk
    · subst hk
      exact List.forall_mem_cons.mpr ⟨hvalid, hs.valid⟩
    · exact hs.valid
  · rw [recordedOn_cons]
    split_ifs with hk
    · subst hk
      intro hdistinct
      dsimp only
      rw [Function.update_self]
      exact (hs.tracks (List.nodup_cons.mp hdistinct).2).upsert hdistinct hrow
    · dsimp only
      rw [Function.update_of_ne (Ne.symm hk)]
      exact hs.tracks
  · rw [recordedOn_cons]
    split_ifs with hk
    · intro hdistinct
      exact hs.refused (List.nodup_cons.mp hdistinct).2
    · exact hs.refused

theorem Invariant.step (hs : Invariant key s) (h : Step s t) : Invariant key t := by
  cases h with
  | upsert p snapshot now hidle hcapture hl hrow =>
    apply hs.setCaller
    · exact ⟨EquitySnapshot.capture_valid hcapture, now, hrow⟩
    · rintro _ ⟨⟩
      exact Or.inl hl
  | invalid p snapshot hidle hcapture =>
    apply hs.refuse
    intro _ c hc
    rw [hcapture] at hc
    cases hc
  | @refuse p snapshot now k capture e hidle hcapture hl hrow =>
    apply hs.refuse
    intro hdistinct c hc
    obtain ⟨rfl, rfl⟩ := Prod.mk.inj (Except.ok.inj (hcapture.symm.trans hc))
    have hvalid := EquitySnapshot.capture_valid hcapture
    obtain ⟨row, hcreated⟩ := (hs.tracks hdistinct).created hdistinct hs.valid hvalid now
    rw [hcreated] at hrow
    cases hrow
  | commit p hcaller => exact hs.commit hcaller
  | interrupt p => exact hs.setCaller trivial (by simp [EquityPhase.lock])

theorem Initial.run (h : s.Initial key) (hrun : ReflTransGen Step s t) : Invariant key t :=
  Runs.run_invariant (fun _ _ (hs : Invariant key _) hstep => hs.step hstep) hrun h.invariant

/-- Whatever the order in which concurrent callers record the snapshots of a day, captured at distinct times, the row
comes to the same: it says which was the earliest, the latest and the highest, and how many they were. No call with a
valid snapshot of that day is refused. -/
theorem daily_equity {snapshots : List EquityCapture} (hsome : snapshots ≠ []) (hdistinct : DistinctTimes snapshots) :
    ∃ state : EquityState, state.Summarises snapshots ∧
      ∀ s t : EquitySystem ι, s.Initial key → ReflTransGen Step s t → (t.recordedOn key).Perm snapshots →
        (t.table key).map equityRecord = some state ∧ ∀ x ∈ t.refused, ∀ c, x.1.capture ≠ .ok (key, c) := by
  obtain ⟨state, hstate⟩ := exists_summary hsome
  refine ⟨state, hstate, fun s t hs hrun hperm => ?_⟩
  have ht := hs.run hrun
  have hrecorded : DistinctTimes (t.recordedOn key) := ((hperm.map EquityCapture.capturedUtc).nodup_iff).mpr hdistinct
  have htracks := ht.tracks hrecorded
  refine ⟨?_, ht.refused hrecorded⟩
  cases hrow : t.table key with
  | none =>
    rw [hrow] at htracks
    rw [show t.recordedOn key = [] from htracks] at hperm
    exact absurd hperm.nil_eq.symm hsome
  | some row =>
    rw [hrow] at htracks
    have hsummary : (equityRecord row).Summarises snapshots := EquityState.Summarises.perm htracks hperm
    have hpositive : ∀ c ∈ snapshots, 0 < c.equityUsd.scaled :=
      fun c hc => (ht.valid c (hperm.mem_iff.mpr hc)).positive
    rw [Option.map_some, hsummary.unique hdistinct hpositive hstate]

section Example

def exampleEquityKey : EquityKey := ⟨"paper", "account", "bybit", 737790⟩

theorem exampleUsd_power : 0 ≤ 2045 := by norm_num

def exampleUsd (units : ℕ) (h : units < 2 ^ 53) : Binary64 := ⟨false, units, 0, h, exampleUsd_power, Or.inl rfl⟩

def exampleNoon : EquityCapture := ⟨63745099200000000, exampleUsd 100 (by norm_num)⟩

def exampleMorning : EquityCapture := ⟨63745074000000000, exampleUsd 80 (by norm_num)⟩

def exampleSnapshot (capture : EquityCapture) : EquitySnapshot :=
  ⟨"paper", "account", "bybit", some capture.capturedUtc, some capture.equityUsd⟩

def exampleEmpty : EquitySystem Bool := ⟨fun _ => none, fun _ => .idle, [], []⟩

def exampleEquityRow : EquityRow := (exampleNoon.excluded 0).update (exampleMorning.excluded 1) 1

theorem exampleSnapshot_capture {capture : EquityCapture} (h : capture.Valid exampleEquityKey) :
    (exampleSnapshot capture).capture = .ok (exampleEquityKey, capture) := by
  have hscope : validateEquityScope "paper" "account" "bybit" = .ok () := by
    simp only [validateEquityScope, validateEquityText]
    rw [require_pos (by decide +kernel), require_pos (by decide +kernel), require_pos (by decide +kernel)]
    rfl
  simp only [EquitySnapshot.capture, exampleSnapshot, hscope, found_some, ok_bind, require_pos h.positive,
    require_pos h.in_range, ← h.same_day]
  rfl

theorem exampleCaptures_valid : exampleNoon.Valid exampleEquityKey ∧ exampleMorning.Valid exampleEquityKey :=
  ⟨⟨by decide, by decide, by decide⟩, ⟨by decide, by decide, by decide⟩⟩

/-- One caller records the snapshot of noon, then another one that of the morning. -/
theorem exampleEmpty_run : ∃ t : EquitySystem Bool, ReflTransGen Step exampleEmpty t ∧
    t.recordedOn exampleEquityKey = [exampleMorning, exampleNoon] ∧ t.table exampleEquityKey = some exampleEquityRow := by
  have hnoon := exampleSnapshot_capture exampleCaptures_valid.1
  have hmorning := exampleSnapshot_capture exampleCaptures_valid.2
  have hinserted : upsertEquity exampleNoon 0 none = .ok (exampleNoon.excluded 0) := rfl
  have hupdated : upsertEquity exampleMorning 1 (some (exampleNoon.excluded 0)) = .ok exampleEquityRow := rfl
  let s₁ : EquitySystem Bool :=
    { exampleEmpty with callers := Function.update exampleEmpty.callers false (.upserted exampleEquityKey exampleNoon
        (exampleNoon.excluded 0)) }
  let s₂ : EquitySystem Bool :=
    { s₁ with
      table := Function.update s₁.table exampleEquityKey (some (exampleNoon.excluded 0))
      callers := Function.update s₁.callers false .idle
      recorded := (exampleEquityKey, exampleNoon) :: s₁.recorded }
  let s₃ : EquitySystem Bool :=
    { s₂ with callers := Function.update s₂.callers true (.upserted exampleEquityKey exampleMorning exampleEquityRow) }
  have h₁ : Step exampleEmpty s₁ := .upsert false _ 0 rfl hnoon (by rintro p ⟨⟩) hinserted
  have h₂ : Step s₁ s₂ := .commit false rfl
  have h₃ : Step s₂ s₃ := .upsert true _ 1 rfl hmorning (by rintro (_ | _) ⟨⟩) hupdated
  have h₄ := Step.commit true (show s₃.callers true = _ from rfl)
  exact ⟨_, (((ReflTransGen.single h₁).tail h₂).tail h₃).tail h₄, by decide, rfl⟩

/-- The snapshot of the morning corrects the start of the day, and neither the last equity nor the peak. -/
theorem daily_equity_example :
    (∃ s t : EquitySystem Bool, s.Initial exampleEquityKey ∧ ReflTransGen Step s t ∧
      (t.table exampleEquityKey).map equityRecord = some ⟨exampleUsd 80 (by norm_num), exampleUsd 100 (by norm_num),
        exampleUsd 100 (by norm_num), 63745074000000000, 63745099200000000, 2⟩) ∧
    ∃ state : EquityState, state.Summarises [exampleNoon, exampleMorning] ∧
      ∀ s t : EquitySystem Bool, s.Initial exampleEquityKey → ReflTransGen Step s t →
        (t.recordedOn exampleEquityKey).Perm [exampleNoon, exampleMorning] →
          (t.table exampleEquityKey).map equityRecord = some state ∧
            ∀ x ∈ t.refused, ∀ c, x.1.capture ≠ .ok (exampleEquityKey, c) := by
  constructor
  · obtain ⟨t, hrun, -, hrow⟩ := exampleEmpty_run
    refine ⟨exampleEmpty, t, ⟨rfl, fun _ => rfl, rfl, rfl⟩, hrun, ?_⟩
    rw [hrow]
    rfl
  · have hdistinct : DistinctTimes [exampleNoon, exampleMorning] := by
      unfold DistinctTimes
      decide
    exact daily_equity (List.cons_ne_nil _ _) hdistinct

end Example

end EquitySystem

end KairosPersistence
