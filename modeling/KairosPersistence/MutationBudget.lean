import KairosPersistence.PythonText
import KairosPersistence.Locking
import KairosPersistence.Runs
import KairosPersistence.SlidingWindow
import KairosPersistence.Transactions
import Mathlib.Data.Int.ConditionallyCompleteOrder

/-!
`ExecutionMutationBudgetRepository`: grants of mutations in the sliding window
of an account, and processes that ask for them.
-/

namespace KairosPersistence

open PythonText (Timestamp strip)
open SlidingWindow (recent Paced)

inductive MutationError where
  | valueError (message : String)
  | databaseError
  deriving DecidableEq, Repr

section Tables

structure BudgetScope where
  environment : String
  accountId : String
  exchange : String
  deriving DecidableEq, Repr

/-- The configuration of a row of `execution_mutation_budget_scopes`. -/
structure ScopeConfig where
  capacity : ℕ
  windowMs : ℕ
  compensationReserve : ℕ
  capacity_le : capacity ≤ 30
  window_le : 60000 ≤ windowMs
  reserve_le : 4 ≤ compensationReserve
  reserve_lt : compensationReserve < capacity
  deriving DecidableEq

/-- A row of `execution_mutation_reservations`, in the list of its scope. -/
structure MutationGrant where
  effectId : String
  operation : String
  compensation : Bool
  occurredAt : Timestamp
  deriving DecidableEq, Repr

/-- The tables; the last grant of a scope is the first of its list. -/
structure MutationTables where
  configs : BudgetScope → Option ScopeConfig
  grants : BudgetScope → List MutationGrant
  unique : ∀ scope, ((grants scope).map (·.effectId)).Nodup
  configured : ∀ scope, configs scope = none → grants scope = []

namespace MutationTables

/-- `INSERT INTO execution_mutation_budget_scopes … ON CONFLICT DO NOTHING`. -/
def configure (tables : MutationTables) (scope : BudgetScope) (config : ScopeConfig) : MutationTables :=
  { tables with
    configs := Function.update tables.configs scope (some ((tables.configs scope).getD config))
    configured := fun scope' h => by
      by_cases hs : scope' = scope
      · rw [hs, Function.update_self] at h
        cases h
      · rw [Function.update_of_ne hs] at h
        exact tables.configured scope' h }

/-- `INSERT INTO execution_mutation_reservations`. -/
def insertGrant (tables : MutationTables) (scope : BudgetScope) (grant : MutationGrant) : Option MutationTables :=
  if h : grant.effectId ∉ (tables.grants scope).map (·.effectId) ∧ tables.configs scope ≠ none then
    some { tables with
      grants := Function.update tables.grants scope (grant :: tables.grants scope)
      unique := fun scope' => by
        by_cases hs : scope' = scope
        · rw [hs, Function.update_self]
          exact List.nodup_cons.mpr ⟨h.1, tables.unique scope⟩
        · rw [Function.update_of_ne hs]
          exact tables.unique scope'
      configured := fun scope' hnone => by
        rw [Function.update_of_ne]
        · exact tables.configured scope' hnone
        · rintro rfl
          exact h.2 hnone }
  else none

end MutationTables

end Tables

section Reserve

/-- `_identifier`. -/
def mutationIdentifier (value name : String) : Except MutationError Unit :=
  if value = "" ∨ value ≠ strip value then
    .error (.valueError (name ++ " must be a normalized non-empty string"))
  else .ok ()

/-- The arguments of `reserve`, checked. -/
structure MutationCall where
  scope : BudgetScope
  effectId : String
  operation : String
  compensation : Bool
  config : ScopeConfig

def mutationCall (environment accountId exchange effectId operation : String) (compensation : Bool)
    (capacity windowMs compensationReserve : ℤ) : Except MutationError MutationCall := do
  mutationIdentifier environment "environment"
  mutationIdentifier accountId "account_id"
  mutationIdentifier exchange "exchange"
  mutationIdentifier effectId "effect_id"
  mutationIdentifier operation "operation"
  if 256 < effectId.length ∨ 64 < operation.length then
    throw (.valueError "effect_id/operation exceed their maximum length")
  if hcapacity : 0 < capacity ∧ capacity ≤ 30 then
    if hwindow : 60000 ≤ windowMs then
      if hreserve : 4 ≤ compensationReserve ∧ compensationReserve < capacity then
        -- the column is an `INTEGER`
        if 2 ^ 31 ≤ windowMs then throw .databaseError
        return {
          scope := ⟨environment, accountId, exchange⟩
          effectId := effectId
          operation := operation
          compensation := compensation
          config := {
            capacity := capacity.toNat
            windowMs := windowMs.toNat
            compensationReserve := compensationReserve.toNat
            capacity_le := by omega
            window_le := by omega
            reserve_le := by omega
            reserve_lt := by omega } }
      else throw (.valueError "compensation_reserve must be at least 4 and below capacity")
    else throw (.valueError "window_ms must be an integer of at least 60000")
  else throw (.valueError "capacity must be an integer in [1, 30]")

/-- `ExecutionMutationReservation`. -/
structure MutationReservation where
  call : MutationCall
  occurredAt : Option Timestamp
  granted : Bool
  replay : Bool
  remaining : ℕ

def ScopeConfig.window (config : ScopeConfig) : Timestamp := config.windowMs * 1000

/-- `_used`. The clock is read anew for every row. -/
def usedGrants (readings : MutationGrant → Timestamp) (config : ScopeConfig) (grants : List MutationGrant) : ℕ :=
  grants.countP fun g => readings g - config.window < g.occurredAt

/-- How much capacity must remain for a grant. -/
def minimumBefore (call : MutationCall) : ℕ := if call.compensation then 1 else call.config.compensationReserve + 1

/-- `reserve` up to the insertion of a grant: what it returns without one, or else what remains before it. -/
def checkReserve (call : MutationCall) (tables : MutationTables) (readings : MutationGrant → Timestamp) :
    Except MutationError (MutationReservation ⊕ ℕ) :=
  if (tables.configs call.scope).getD call.config ≠ call.config then
    .error (.valueError "mutation budget configuration conflicts with durable scope")
  else
    let remaining := call.config.capacity - usedGrants readings call.config (tables.grants call.scope)
    match (tables.grants call.scope).find? (·.effectId = call.effectId) with
    | some existing =>
      if existing.operation ≠ call.operation ∨ existing.compensation ≠ call.compensation then
        .error (.valueError "effect_id was reused with different mutation semantics")
      else .ok (.inl ⟨call, some existing.occurredAt, true, true, remaining⟩)
    | none =>
      if remaining < minimumBefore call then .ok (.inl ⟨call, none, false, false, remaining⟩)
      else .ok (.inr remaining)

def MutationCall.grant (call : MutationCall) (occurredAt : Timestamp) : MutationGrant :=
  ⟨call.effectId, call.operation, call.compensation, occurredAt⟩

variable {call : MutationCall} {tables : MutationTables} {readings : MutationGrant → Timestamp}

/-- What a check that admits a grant has found. -/
theorem checkReserve_admitted {remaining : ℕ} (h : checkReserve call tables readings = .ok (.inr remaining)) :
    (tables.configs call.scope).getD call.config = call.config ∧
    (∀ g ∈ tables.grants call.scope, g.effectId ≠ call.effectId) ∧
    usedGrants readings call.config (tables.grants call.scope) + minimumBefore call ≤ call.config.capacity := by
  unfold checkReserve at h
  split at h
  · cases h
  rename_i hconfig
  dsimp only at h
  split at h
  · split at h <;> cases h
  rename_i habsent
  split at h
  · cases h
  rename_i hremaining
  refine ⟨not_not.mp hconfig, fun g hg => ?_, ?_⟩
  · simpa using List.find?_eq_none.mp habsent g hg
  · have hpos : 0 < minimumBefore call := by
      unfold minimumBefore
      split_ifs <;> omega
    omega

/-- What a check that returns a reservation has found. -/
theorem checkReserve_returned {r : MutationReservation} (h : checkReserve call tables readings = .ok (.inl r)) :
    (tables.configs call.scope).getD call.config = call.config ∧ r.call = call ∧
    ((∃ g ∈ tables.grants call.scope, g.effectId = call.effectId ∧ r.occurredAt = some g.occurredAt ∧
        r.granted = true ∧ r.replay = true) ∨
      (∀ g ∈ tables.grants call.scope, g.effectId ≠ call.effectId) ∧ r.granted = false ∧ r.replay = false ∧
        call.config.capacity < usedGrants readings call.config (tables.grants call.scope) + minimumBefore call) := by
  unfold checkReserve at h
  split at h
  · cases h
  rename_i hconfig
  dsimp only at h
  refine ⟨not_not.mp hconfig, ?_⟩
  split at h
  · rename_i g hg
    split at h
    · cases h
    · obtain rfl := Sum.inl.inj (Except.ok.inj h)
      have heffect : g.effectId = call.effectId := by simpa using List.find?_some hg
      exact ⟨rfl, Or.inl ⟨g, List.mem_of_find?_eq_some hg, heffect, rfl, rfl, rfl⟩⟩
  · rename_i habsent
    split at h
    · rename_i hremaining
      obtain rfl := Sum.inl.inj (Except.ok.inj h)
      refine ⟨rfl, Or.inr ⟨fun g hg => ?_, rfl, rfl, by omega⟩⟩
      simpa using List.find?_eq_none.mp habsent g hg
    · cases h

end Reserve

end KairosPersistence
