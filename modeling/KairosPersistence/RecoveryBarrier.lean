import KairosPersistence.PublicExecutionEvents

/-!
The recovery barrier of an account: a restart blocks new entries, and only the
completion of the last recovery that was begun allows them again.
-/

namespace KairosPersistence.TradeLifecycle

open PythonText
open Transactions (bind_ok require require_ok require_pos found found_ok)

section Barrier

/-- The key of `execution_recovery_state`. -/
structure RecoveryScope where
  environment : String
  accountId : String
  exchange : String
  deriving DecidableEq

/-- A row of `execution_recovery_state`, as `RecoveryState` has it. -/
structure RecoveryRow where
  entriesBlocked : Bool
  recoveryEpoch : ℕ
  startedAt : Timestamp
  completedAt : Option Timestamp
  detail : String

abbrev RecoveryTable := RecoveryScope → Option RecoveryRow

def startupDetail : String := "authoritative startup reconciliation required"

/-- `_validate_scope`. -/
def RecoveryScope.validate (scope : RecoveryScope) : Except TradeError Unit := do
  validateText "environment" scope.environment
  validateText "account_id" scope.accountId
  validateText "exchange" scope.exchange

/-- The texts of the scope, as the columns take them. -/
def RecoveryScope.storable (scope : RecoveryScope) : Prop :=
  Jsonb.nulFree scope.environment = true ∧ Jsonb.nulFree scope.accountId = true ∧ Jsonb.nulFree scope.exchange = true

instance (scope : RecoveryScope) : Decidable scope.storable := inferInstanceAs (Decidable (_ ∧ _))

/-- `begin_recovery`. -/
def beginRecovery (now : Timestamp) (scope : RecoveryScope) (t : RecoveryTable) :
    Except TradeError (RecoveryTable × RecoveryRow) := do
  scope.validate
  require scope.storable .databaseError
  let epoch := ((t scope).map (·.recoveryEpoch)).getD 0 + 1
  require (epoch < 2 ^ 63) .databaseError
  let row := ⟨true, epoch, now, none, startupDetail⟩
  return (Function.update t scope (some row), row)

/-- `complete_recovery`. -/
def completeRecovery (now : Timestamp) (scope : RecoveryScope) (expectedEpoch : ℤ) (detail : String) (t : RecoveryTable) :
    Except TradeError (RecoveryTable × RecoveryRow) := do
  scope.validate
  validateText "recovery detail" detail
  require (0 < expectedEpoch) (.valueError "expected_epoch must be positive")
  require (scope.storable ∧ Jsonb.nulFree (sliceTo 4000 detail) = true ∧ expectedEpoch < 2 ^ 63) .databaseError
  let row ← found ((t scope).filter fun row => row.recoveryEpoch = expectedEpoch)
    (.runtimeError "recovery epoch is stale or recovery did not begin")
  let row := { row with entriesBlocked := false, completedAt := some now, detail := sliceTo 4000 detail }
  return (Function.update t scope (some row), row)

/-- `entries_allowed`, of a scope that it accepts. -/
def entriesAllowed (scope : RecoveryScope) (t : RecoveryTable) : Bool := (t scope).any (!·.entriesBlocked)

end Barrier

section Runs

inductive RecoveryCall where
  | begin (scope : RecoveryScope)
  | complete (scope : RecoveryScope) (expectedEpoch : ℤ) (detail : String)

def RecoveryCall.body (now : Timestamp) : RecoveryCall → RecoveryTable → Except TradeError (RecoveryTable × RecoveryRow)
  | .begin scope => beginRecovery now scope
  | .complete scope expectedEpoch detail => completeRecovery now scope expectedEpoch detail

/-- A call that has not raised. -/
inductive RecoveryEvent where
  | begun (scope : RecoveryScope)
  | completed (scope : RecoveryScope) (expectedEpoch : ℤ)
  deriving DecidableEq

def RecoveryCall.event : RecoveryCall → RecoveryEvent
  | .begin scope => .begun scope
  | .complete scope expectedEpoch _ => .completed scope expectedEpoch

/-- The calls of any number of processes in the order of their statements, the last first, with the table that they leave.
A call that raises leaves the table alone. -/
inductive RecoveryRun : List RecoveryEvent → RecoveryTable → Prop
  | start : RecoveryRun [] fun _ => none
  | call {events t t' row} (run : RecoveryRun events t) (now : Timestamp) (call : RecoveryCall)
    (h : call.body now t = .ok (t', row)) : RecoveryRun (call.event :: events) t'

variable {events : List RecoveryEvent} {t t' : RecoveryTable} {now : Timestamp} {scope : RecoveryScope} {row : RecoveryRow}

/-- How often a recovery of the scope was begun. -/
def begins (scope : RecoveryScope) (events : List RecoveryEvent) : ℕ := events.count (.begun scope)

theorem beginRecovery_ok (h : beginRecovery now scope t = .ok (t', row)) :
    t' = Function.update t scope (some row) ∧ row.entriesBlocked = true ∧
      row.recoveryEpoch = ((t scope).map (·.recoveryEpoch)).getD 0 + 1 := by
  obtain ⟨_, -, h⟩ := bind_ok h
  obtain ⟨_, -, h⟩ := bind_ok h
  obtain ⟨_, -, h⟩ := bind_ok h
  obtain ⟨rfl, rfl⟩ := Prod.mk.inj (Except.ok.inj h)
  exact ⟨rfl, rfl, rfl⟩

theorem completeRecovery_ok {expectedEpoch : ℤ} {detail : String}
    (h : completeRecovery now scope expectedEpoch detail t = .ok (t', row)) :
    ∃ before, t scope = some before ∧ (before.recoveryEpoch : ℤ) = expectedEpoch ∧ 0 < expectedEpoch ∧
      t' = Function.update t scope (some row) ∧ row.entriesBlocked = false ∧ row.recoveryEpoch = before.recoveryEpoch := by
  obtain ⟨_, -, h⟩ := bind_ok h
  obtain ⟨_, -, h⟩ := bind_ok h
  obtain ⟨_, hpositive, h⟩ := bind_ok h
  obtain ⟨_, -, h⟩ := bind_ok h
  obtain ⟨before, hbefore, h⟩ := bind_ok h
  obtain ⟨rfl, rfl⟩ := Prod.mk.inj (Except.ok.inj h)
  obtain ⟨hrow, hepoch⟩ := Option.filter_eq_some_iff.mp (found_ok hbefore)
  exact ⟨before, hrow, of_decide_eq_true hepoch, require_ok hpositive, rfl, rfl, rfl⟩

/-- The row of a scope counts the recoveries that were begun. -/
theorem RecoveryRun.epoch (run : RecoveryRun events t) (scope : RecoveryScope) :
    ((t scope).map (·.recoveryEpoch)).getD 0 = begins scope events ∧ ((t scope).isSome = true ↔ 0 < begins scope events) := by
  induction run with
  | start => simp [begins]
  | @call events t t' row run now call h ih =>
    cases call with
    | begin other =>
      obtain ⟨rfl, -, hepoch⟩ := beginRecovery_ok h
      by_cases hscope : other = scope
      · subst hscope
        rw [ih.1] at hepoch
        simp [begins, RecoveryCall.event, hepoch]
      · have hevent : RecoveryEvent.begun other ≠ .begun scope := fun heq => hscope (RecoveryEvent.begun.inj heq)
        rw [Function.update_of_ne (Ne.symm hscope), begins, RecoveryCall.event, List.count_cons_of_ne hevent]
        exact ih
    | complete other expectedEpoch detail =>
      obtain ⟨before, hbefore, -, -, rfl, -, hepoch⟩ := completeRecovery_ok h
      rw [begins, RecoveryCall.event, List.count_cons_of_ne (by simp)]
      by_cases hscope : other = scope
      · subst hscope
        rw [hbefore, Option.map_some, ← hepoch] at ih
        rw [Function.update_self]
        exact ih
      · rw [Function.update_of_ne (Ne.symm hscope)]
        exact ih

/-- Every completion that has not raised carries the epoch of the recovery that was begun last. -/
theorem RecoveryRun.completed (run : RecoveryRun events t) {later earlier : List RecoveryEvent} {expectedEpoch : ℤ}
    (h : events = later ++ .completed scope expectedEpoch :: earlier) :
    expectedEpoch = begins scope earlier ∧ 0 < begins scope earlier := by
  induction run generalizing later with
  | start => simp at h
  | @call events t t' row run now call hcall ih =>
    cases later with
    | cons e later => exact ih (List.cons.inj h).2
    | nil =>
      obtain ⟨hevent, rfl⟩ := List.cons.inj h
      cases call with
      | begin other => cases hevent
      | complete other epoch detail =>
        obtain ⟨rfl, rfl⟩ := RecoveryEvent.completed.inj hevent
        obtain ⟨before, hbefore, hepoch, hpositive, -⟩ := completeRecovery_ok hcall
        have hcount := (run.epoch other).1
        rw [hbefore] at hcount
        have heq : before.recoveryEpoch = begins other events := by simpa using hcount
        rw [heq] at hepoch
        exact ⟨hepoch.symm, by omega⟩

theorem entriesAllowed_self : entriesAllowed scope (Function.update t scope (some row)) = !row.entriesBlocked := by
  simp [entriesAllowed]

theorem entriesAllowed_ne {other : RecoveryScope} (h : other ≠ scope) :
    entriesAllowed scope (Function.update t other (some row)) = entriesAllowed scope t := by
  rw [entriesAllowed, Function.update_of_ne h.symm, entriesAllowed]

/-- A completion of the scope with no later begin. -/
def Released (scope : RecoveryScope) (events : List RecoveryEvent) : Prop :=
  ∃ later expectedEpoch earlier, events = later ++ .completed scope expectedEpoch :: earlier ∧ .begun scope ∉ later

theorem released_cons {e : RecoveryEvent} (hbegun : e ≠ .begun scope) (hcompleted : ∀ epoch, e ≠ .completed scope epoch) :
    Released scope (e :: events) ↔ Released scope events := by
  constructor
  · rintro ⟨later, epoch, earlier, h, hnot⟩
    cases later with
    | nil => exact absurd (List.cons.inj h).1 (hcompleted epoch)
    | cons e' later => exact ⟨later, epoch, earlier, (List.cons.inj h).2, fun hmem => hnot (List.mem_cons_of_mem _ hmem)⟩
  · rintro ⟨later, epoch, earlier, rfl, hnot⟩
    refine ⟨e :: later, epoch, earlier, rfl, ?_⟩
    intro hmem
    rcases List.mem_cons.mp hmem with heq | hmem
    · exact hbegun heq.symm
    · exact hnot hmem

theorem not_released_begun : ¬Released scope (.begun scope :: events) := by
  rintro ⟨later, epoch, earlier, h, hnot⟩
  cases later with
  | nil => cases (List.cons.inj h).1
  | cons e later =>
    apply hnot
    rw [← (List.cons.inj h).1]
    exact List.mem_cons_self

theorem RecoveryRun.allowed (run : RecoveryRun events t) : entriesAllowed scope t = true ↔ Released scope events := by
  induction run with
  | start =>
    constructor
    · intro h
      cases h
    · rintro ⟨later, _, _, h, -⟩
      simp at h
  | @call events t t' row run now call hcall ih =>
    cases call with
    | begin other =>
      obtain ⟨rfl, hblocked, -⟩ := beginRecovery_ok hcall
      by_cases hscope : other = scope
      · subst hscope
        rw [entriesAllowed_self, hblocked]
        exact iff_of_false (by decide) not_released_begun
      · rw [entriesAllowed_ne hscope, ih]
        apply (released_cons _ _).symm
        · exact fun heq => hscope (RecoveryEvent.begun.inj heq)
        · exact fun _ heq => by cases heq
    | complete other epoch detail =>
      obtain ⟨before, -, -, -, rfl, hblocked, -⟩ := completeRecovery_ok hcall
      by_cases hscope : other = scope
      · subst hscope
        rw [entriesAllowed_self, hblocked]
        exact iff_of_true rfl ⟨[], epoch, events, rfl, List.not_mem_nil⟩
      · rw [entriesAllowed_ne hscope, ih]
        apply (released_cons _ _).symm
        · exact fun heq => by cases heq
        · exact fun _ heq => hscope (RecoveryEvent.completed.inj heq).1

/-- Entries are allowed exactly when a completion follows the last begin of the scope, and every completion that has not
raised carries the number of recoveries begun before it: one of an earlier epoch never opens the barrier. -/
theorem recovery_barrier (run : RecoveryRun events t) (scope : RecoveryScope) :
    (entriesAllowed scope t = true ↔ Released scope events) ∧
      ((t scope).map (·.recoveryEpoch)).getD 0 = begins scope events ∧
      ∀ later (expectedEpoch : ℤ) earlier, events = later ++ .completed scope expectedEpoch :: earlier →
        expectedEpoch = begins scope earlier ∧ 0 < begins scope earlier :=
  ⟨run.allowed, (run.epoch scope).1, fun _ _ _ => run.completed⟩

def exampleScope : RecoveryScope := ⟨"paper", "account", "evedex"⟩

theorem exampleScope_valid : exampleScope.validate = .ok () := by decide +kernel

theorem exampleScope_storable : exampleScope.storable := by decide +kernel

def exampleBegun (now : Timestamp) (epoch : ℕ) : RecoveryRow := ⟨true, epoch, now, none, startupDetail⟩

theorem exampleScope_begin {epoch : ℕ} (hepoch : ((t exampleScope).map (·.recoveryEpoch)).getD 0 + 1 = epoch)
    (hbound : epoch < 2 ^ 63) : beginRecovery now exampleScope t =
      .ok (Function.update t exampleScope (some (exampleBegun now epoch)), exampleBegun now epoch) := by
  simp only [beginRecovery, exampleScope_valid, hepoch, require_pos exampleScope_storable, require_pos hbound]
  rfl

def exampleCompleted : RecoveryRow := ⟨false, 2, 1, some 2, "done"⟩

theorem exampleScope_complete (ht : t exampleScope = some (exampleBegun 1 2)) :
    completeRecovery 2 exampleScope 2 "done" t =
      .ok (Function.update t exampleScope (some exampleCompleted), exampleCompleted) := by
  have hdetail : validateText "recovery detail" "done" = .ok () := by decide +kernel
  have hstorable : exampleScope.storable ∧ Jsonb.nulFree "done" = true ∧ (2 : ℤ) < 2 ^ 63 := by decide +kernel
  have hslice : sliceTo 4000 "done" = "done" := by decide +kernel
  have hepoch : (some (exampleBegun 1 2)).filter (fun row => (row.recoveryEpoch : ℤ) = 2) = some (exampleBegun 1 2) := rfl
  simp only [completeRecovery, exampleScope_valid, hdetail, require_pos hstorable, ht, hepoch, hslice]
  rfl

/-- A process begins a recovery, another one begins it again, and only the second can complete it. -/
theorem recovery_barrier_example : ∃ t, RecoveryRun
      [.completed exampleScope 2, .begun exampleScope, .begun exampleScope] t ∧ entriesAllowed exampleScope t = true := by
  have hfirst := @exampleScope_begin (fun _ => none) 0 1 rfl (by decide)
  have hsecond := @exampleScope_begin (Function.update (fun _ => none) exampleScope (some (exampleBegun 0 1))) 1 2
    (by rw [Function.update_self]; rfl) (by decide)
  have hthird := exampleScope_complete (Function.update_self exampleScope (some (exampleBegun 1 2))
    (Function.update (fun _ => none) exampleScope (some (exampleBegun 0 1))))
  have run := RecoveryRun.call (.call (.call .start 0 (.begin exampleScope) hfirst) 1 (.begin exampleScope) hsecond) 2
    (.complete exampleScope 2 "done") hthird
  exact ⟨_, run, (recovery_barrier run exampleScope).1.mpr ⟨[], 2, _, rfl, List.not_mem_nil⟩⟩

end Runs

end KairosPersistence.TradeLifecycle
