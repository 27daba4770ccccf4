import KairosPersistence.AcceptedLogs
import KairosPersistence.ReadonlyEvidence

/-!
The checks of the verifier against rows that were appended one after the other.
-/

namespace KairosPersistence

open PythonJson PythonText
open Transactions (bind_ok bind_error require found require_ok found_ok mapM_ok)

variable {run : ReadonlyRun} {older log samples : List ReadonlySample} {row : ReadonlySample} {startMs endMs : ℤ}
  {totals : SampleTotals} {endedAt : Timestamp} {proof : PyJson}

section Appended

/-- The head of the chain, the newest row first. -/
def headSha (older : List ReadonlySample) : String := older.head?.elim zeroSha (·.sampleSha256)

/-- When the newest row was received. -/
def newestMs (run : ReadonlyRun) (older : List ReadonlySample) : ℤ :=
  older.head?.elim (millis run.startedAt - 1) (millis ·.receivedAt)

/-- A row as it was appended to the older ones. -/
structure Appended (run : ReadonlyRun) (older : List ReadonlySample) (row : ReadonlySample) : Prop where
  seq : row.seq = older.length + 1
  previous : row.previousSha256 = headSha older
  sha : row.sampleSha256 = sampleIdentity run.runId row.seq row.receivedAt (headSha older) row.payload
  observation : ∃ observation : ReadonlyObservation, row.payload = observation.modelDump ∧
    |(observation.observedAtMs : ℤ) - millis row.receivedAt| ≤ 2000
  started : run.startedAt ≤ row.receivedAt
  later : newestMs run older < millis row.receivedAt

end Appended

section Loop

/-- The failures of the checks that a recorder can meet by itself: shape, chain, sequence, count, order, skew, head. -/
def recorderFailures : List ReadonlyError := [
  .validationError,
  .messageIdentityConflict "stored operational evidence is not an object",
  .messageIdentityConflict "read-only scope fingerprint mismatch",
  .messageIdentityConflict "read-only sample count mismatch or empty evidence",
  .messageIdentityConflict "read-only observation hash chain is invalid",
  .canaryAdmission "read-only observation timestamps are reordered or outside the run",
  .canaryAdmission "read-only observation is backdated or clock-skewed",
  .messageIdentityConflict "read-only terminal chain fingerprint mismatch"]

theorem require_error {p : Prop} [Decidable p] {e e' : ReadonlyError} (h : require p e = .error e') : e' = e := by
  unfold require at h
  split at h
  · cases h
  · exact (Except.error.inj h).symm

theorem found_error {α : Type} {value : Option α} {e e' : ReadonlyError} (h : found value e = .error e') : e' = e := by
  cases value with
  | none => exact (Except.error.inj h).symm
  | some _ => cases h

theorem countItem_error {weight : ℕ} {item : SymbolObservation} {e : ReadonlyError}
    (h : countItem weight totals item = .error e) : e ∉ recorderFailures := by
  unfold countItem at h
  split at h
  · cases h
  · rcases bind_error h with h | ⟨_, -, h⟩
    · rw [require_error h]
      decide
    · rcases bind_error h with h | ⟨_, -, h⟩
      · rw [require_error h]
        decide
      · cases h

theorem countItems_error {weight : ℕ} {items : List SymbolObservation} {e : ReadonlyError}
    (h : items.foldlM (countItem weight) totals = .error e) : e ∉ recorderFailures := by
  induction items generalizing totals with
  | nil => cases h
  | cons item items ih =>
    rw [List.foldlM_cons] at h
    rcases bind_error h with h | ⟨totals', -, h⟩
    · exact countItem_error h
    · exact ih h

/-- The verifier's loop is at the newest of the rows. -/
structure AtHead (run : ReadonlyRun) (older : List ReadonlySample) (totals : SampleTotals) : Prop where
  head : totals.head = headSha older
  previousMs : totals.previousMs = newestMs run older

theorem verifyObservation_appended (hrow : Appended run older row) (htotals : AtHead run older totals)
    (hend : millis row.receivedAt ≤ endMs) :
    (∀ totals', verifyObservation run samples (millis run.startedAt) endMs totals (row, older.length + 1) = .ok totals' →
      AtHead run (row :: older) totals') ∧
    ∀ e, verifyObservation run samples (millis run.startedAt) endMs totals (row, older.length + 1) = .error e →
      e ∉ recorderFailures := by
  obtain ⟨observation, hpayload, hskew⟩ := hrow.observation
  have hobject : requireObject row.payload = .ok () := by rw [hpayload]; rfl
  have hvalid : ReadonlyObservation.modelValidate row.payload = some observation := by
    rw [hpayload]
    exact ReadonlyObservation.modelValidate_modelDump observation
  have hchain : row.seq = older.length + 1 ∧ row.previousSha256 = totals.head ∧ row.sampleSha256 =
      sampleIdentity run.runId (older.length + 1) row.receivedAt totals.head row.payload := by
    rw [htotals.head, ← hrow.seq]
    exact ⟨rfl, hrow.previous, hrow.sha⟩
  have htimes : millis run.startedAt ≤ millis row.receivedAt ∧ millis row.receivedAt ≤ endMs ∧
      totals.previousMs < millis row.receivedAt :=
    ⟨millis_mono hrow.started, hend, htotals.previousMs ▸ hrow.later⟩
  simp only [verifyObservation, hobject, hvalid, Transactions.ok_bind, Transactions.found_some,
    Transactions.require_pos hchain, Transactions.require_pos htimes, Transactions.require_pos hskew]
  constructor
  · intro totals' h
    obtain ⟨_, -, h⟩ := bind_ok h
    obtain ⟨_, -, h⟩ := bind_ok h
    rw [← Except.ok.inj h]
    exact ⟨hchain.2.2.symm, rfl⟩
  · intro e h
    rcases bind_error h with h | ⟨_, -, h⟩
    · rw [require_error h]
      decide
    · rcases bind_error h with h | ⟨_, -, h⟩
      · exact countItems_error h
      · cases h

theorem verifyObservations_appended (hlog : AcceptedLogs.Accepted (Appended run) log)
    (hend : ∀ row ∈ log, millis row.receivedAt ≤ endMs) (hinit : AtHead run [] totals) :
    (∀ totals', (log.reverse.zipIdx 1).foldlM (verifyObservation run samples (millis run.startedAt) endMs) totals = .ok totals' →
      AtHead run log totals') ∧
    ∀ e, (log.reverse.zipIdx 1).foldlM (verifyObservation run samples (millis run.startedAt) endMs) totals = .error e →
      e ∉ recorderFailures := by
  induction log with
  | nil =>
    constructor
    · intro totals' h
      rw [← Except.ok.inj h]
      exact hinit
    · intro e h
      cases h
  | cons row log ih =>
    obtain ⟨hrow, hlog⟩ := AcceptedLogs.accepted_cons.mp hlog
    obtain ⟨hrowEnd, hend⟩ := List.forall_mem_cons.mp hend
    obtain ⟨hok, herror⟩ := ih hlog hend
    have hturn : ((row :: log).reverse.zipIdx 1).foldlM (verifyObservation run samples (millis run.startedAt) endMs) totals =
        (log.reverse.zipIdx 1).foldlM (verifyObservation run samples (millis run.startedAt) endMs) totals >>= fun totals' =>
          verifyObservation run samples (millis run.startedAt) endMs totals' (row, log.length + 1) := by
      rw [List.reverse_cons, List.zipIdx_append, List.foldlM_append, List.length_reverse, Nat.add_comm]
      simp only [List.zipIdx_cons, List.zipIdx_nil, List.foldlM_cons, List.foldlM_nil, bind_pure]
    rw [hturn]
    constructor
    · intro totals' h
      obtain ⟨before, hbefore, h⟩ := bind_ok h
      exact (verifyObservation_appended hrow (hok before hbefore) hrowEnd).1 totals' h
    · intro e h
      rcases bind_error h with h | ⟨before, hbefore, h⟩
      · exact herror e h
      · exact (verifyObservation_appended hrow (hok before hbefore) hrowEnd).2 e h

end Loop

end KairosPersistence
