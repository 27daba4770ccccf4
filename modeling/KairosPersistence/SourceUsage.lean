import KairosPersistence.CanonicalPayload
import KairosPersistence.PythonText
import KairosPersistence.Transactions
import Mathlib.Algebra.Order.BigOperators.Group.List

/-!
The tables `source_usage_reservations` and `campaign_source_budgets`, and the
operations of `SourceStateRepository` on them.
-/

namespace KairosPersistence

open PythonText (Timestamp strip yearMonth)
open Transactions (bind_ok)

inductive SourceError where
  | valueError (message : String)
  | keyError (reservationId : String)
  | runtimeError (message : String)
  | messageIdentityConflict (message : String)
  | sourceBudgetExceeded (message : String)
  deriving DecidableEq, Repr

def maxBigint : ℕ := 2 ^ 63 - 1

def qualificationCampaignId : String := "kairos-dev-qualification-v1"

def campaignProviderCaps : List (String × ℕ) := [("openai", 12000000), ("deepseek", 1000000), ("x", 2000000)]

/-- `_provider_source`. -/
def providerSource (source : String) : String :=
  if source ∈ ["x", "x-api", "x_api"] then "x" else source

/-- `_provider_sources`. -/
def providerSources (source : String) : List String :=
  if source = "x" then ["x", "x-api", "x_api"] else [source]

section Tables

/-- A row of `campaign_source_budgets`; its source is its place in the table. -/
structure Campaign (source : String) where
  campaignId : String
  budgetMicrousd : ℕ
  historicalCostMicrousd : ℕ
  historicalEvidenceSha256 : String
  budget_pos : 0 < budgetMicrousd
  within_cap : ∃ cap, (source, cap) ∈ campaignProviderCaps ∧ budgetMicrousd ≤ cap

inductive UsageStatus where
  | reserved
  | committed
  | released
  deriving DecidableEq, Repr

structure UsageKey where
  service : String
  source : String
  reservationId : String
  deriving DecidableEq, Repr

/-- A row of `source_usage_reservations`, with the constraints of the table. -/
structure UsageRow where
  billingMonth : ℕ × ℕ
  reservedUnits : ℕ
  unitCostMicrousd : ℕ
  reservedCostMicrousd : ℕ
  actualUnits : Option ℕ
  actualCostMicrousd : Option ℕ
  status : UsageStatus
  reservedAt : Timestamp
  finalizedAt : Option Timestamp
  reserved_units : 0 < reservedUnits
  reserved_cost : reservedCostMicrousd = reservedUnits * unitCostMicrousd
  finalization : match status with
    | .reserved => actualUnits = none ∧ actualCostMicrousd = none ∧ finalizedAt = none
    | .committed => finalizedAt.isSome ∧ ∃ units, actualUnits = some units ∧ units ≤ reservedUnits ∧
        actualCostMicrousd = some (units * unitCostMicrousd)
    | .released => actualUnits = none ∧ actualCostMicrousd = none ∧ finalizedAt.isSome

namespace UsageRow

/-- The term of a row in the budget sums. -/
def cost (r : UsageRow) : ℕ :=
  match r.status with
  | .committed => r.actualCostMicrousd.getD 0
  | .reserved => r.reservedCostMicrousd
  | .released => 0

/-- The update of `commit_usage`. -/
def commit (actualUnits : ℕ) (now : Timestamp) (r : UsageRow) (h : actualUnits ≤ r.reservedUnits) : UsageRow :=
  { r with
    status := .committed
    actualUnits := some actualUnits
    actualCostMicrousd := some (actualUnits * r.unitCostMicrousd)
    finalizedAt := some now
    finalization := ⟨rfl, actualUnits, rfl, h, rfl⟩ }

/-- The update of `release_usage`. -/
def release (now : Timestamp) (r : UsageRow) (h : r.status = .reserved) : UsageRow :=
  { r with
    status := .released
    finalizedAt := some now
    finalization := by
      have hreserved := r.finalization
      rw [h] at hreserved
      exact ⟨hreserved.1, hreserved.2.1, rfl⟩ }

theorem cost_commit_le {r : UsageRow} (hr : r.status = .reserved) {actualUnits : ℕ} {now : Timestamp}
    (h : actualUnits ≤ r.reservedUnits) : (r.commit actualUnits now h).cost ≤ r.cost := by
  have hcost : r.cost = r.reservedUnits * r.unitCostMicrousd := by simp [cost, hr, r.reserved_cost]
  rw [hcost]
  exact Nat.mul_le_mul_right _ h

theorem cost_release_le {r : UsageRow} (hr : r.status = .reserved) {now : Timestamp} :
    (r.release now hr).cost ≤ r.cost := Nat.zero_le _

end UsageRow

structure UsageTable where
  rows : List (UsageKey × UsageRow)
  nodup : (rows.map Prod.fst).Nodup

namespace UsageTable

def find (table : UsageTable) (key : UsageKey) : Option UsageRow :=
  (table.rows.find? fun x => x.1 = key).map Prod.snd

theorem find_eq_none {table : UsageTable} {key : UsageKey} (h : table.find key = none) :
    key ∉ table.rows.map Prod.fst := by
  rw [find, Option.map_eq_none_iff, List.find?_eq_none] at h
  intro hmem
  obtain ⟨x, hx, rfl⟩ := List.mem_map.mp hmem
  exact h x hx (decide_eq_true rfl)

theorem eq_of_find {table : UsageTable} {key : UsageKey} {r : UsageRow} (h : table.find key = some r)
    {x : UsageKey × UsageRow} (hx : x ∈ table.rows) (hkey : x.1 = key) : x.2 = r := by
  obtain ⟨y, hy, rfl⟩ := Option.map_eq_some_iff.mp h
  have hykey : y.1 = key := by simpa using List.find?_some hy
  rw [List.inj_on_of_nodup_map table.nodup hx (List.mem_of_find?_eq_some hy) (hkey.trans hykey.symm)]

def insert (table : UsageTable) (key : UsageKey) (r : UsageRow) (h : table.find key = none) : UsageTable where
  rows := (key, r) :: table.rows
  nodup := List.nodup_cons.mpr ⟨find_eq_none h, table.nodup⟩

/-- `UPDATE … WHERE` the primary key is `key`. -/
def set (table : UsageTable) (key : UsageKey) (r : UsageRow) : UsageTable where
  rows := table.rows.map fun x => if x.1 = key then (key, r) else x
  nodup := by
    have hkeys : (table.rows.map fun x => if x.1 = key then (key, r) else x).map Prod.fst =
        table.rows.map Prod.fst := by
      rw [List.map_map]
      refine List.map_congr_left fun x _ => ?_
      by_cases hx : x.1 = key
      · simp [hx]
      · simp [hx]
    rw [hkeys]
    exact table.nodup

/-- `COALESCE(sum(CASE status …), 0) … WHERE counted`. -/
def budgeted (counted : UsageKey → ℕ × ℕ → Bool) (table : UsageTable) : ℕ :=
  (table.rows.map fun x => if counted x.1 x.2.billingMonth then x.2.cost else 0).sum

/-- The cost over all services, months and aliases of a provider. -/
def providerCost (table : UsageTable) (source : String) : ℕ :=
  table.budgeted fun key _ => key.source ∈ providerSources source

def monthlyCost (table : UsageTable) (service source : String) (month : ℕ × ℕ) : ℕ :=
  table.budgeted fun key billingMonth => key.service = service ∧ key.source = source ∧ billingMonth = month

theorem budgeted_insert (counted : UsageKey → ℕ × ℕ → Bool) {table : UsageTable} {key : UsageKey} {r : UsageRow}
    (h : table.find key = none) :
    (table.insert key r h).budgeted counted =
      (if counted key r.billingMonth then r.cost else 0) + table.budgeted counted := by
  rw [budgeted, insert, List.map_cons, List.sum_cons, budgeted]

/-- An update that lowers the cost of its row and keeps its month lowers every sum. -/
theorem budgeted_set_le (counted : UsageKey → ℕ × ℕ → Bool) {table : UsageTable} {key : UsageKey} {r r' : UsageRow}
    (h : table.find key = some r) (hmonth : r'.billingMonth = r.billingMonth) (hcost : r'.cost ≤ r.cost) :
    (table.set key r').budgeted counted ≤ table.budgeted counted := by
  rw [budgeted, budgeted, set, List.map_map]
  refine List.sum_le_sum fun x hx => ?_
  by_cases hkey : x.1 = key
  · obtain rfl : x.2 = r := eq_of_find h hx hkey
    simp only [Function.comp_apply, hkey, if_true, hmonth]
    split_ifs
    · exact hcost
    · exact le_rfl
  · simp [hkey]

end UsageTable

end Tables

/-- `UsageReservation`. -/
structure UsageReservation where
  key : UsageKey
  billingMonth : ℕ × ℕ
  reservedUnits : ℕ
  unitCostMicrousd : ℕ
  status : UsageStatus
  actualUnits : Option ℕ
  deriving DecidableEq, Repr

/-- `_reservation`. -/
def toReservation (key : UsageKey) (r : UsageRow) : UsageReservation :=
  ⟨key, r.billingMonth, r.reservedUnits, r.unitCostMicrousd, r.status, r.actualUnits⟩

section Arguments

/-- `_identity`. -/
def usageIdentity (service source key : String) : Except SourceError UsageKey :=
  let values := [strip service, strip source, strip key]
  if values.any (· = "") then .error (.valueError "service, source and key must not be empty")
  else if values.any (255 < ·.length) then
    .error (.valueError "source state identity values must not exceed 255 characters")
  else .ok ⟨strip service, strip source, strip key⟩

/-- `_positive_int`. -/
def positiveInt (value : ℤ) (label : String) : Except SourceError { n : ℕ // 0 < n } :=
  if h : 0 < value then .ok ⟨value.toNat, by omega⟩
  else .error (.valueError (label ++ " must be a positive integer"))

/-- `_nonnegative_int`. -/
def nonnegativeInt (value : ℤ) (label : String) : Except SourceError ℕ :=
  if 0 ≤ value then .ok value.toNat
  else .error (.valueError (label ++ " must be a non-negative integer"))

/-- `_cost`. -/
def usageCost (units unitCostMicrousd : ℕ) : Except SourceError ℕ :=
  if maxBigint < units * unitCostMicrousd then
    .error (.valueError "source usage cost exceeds PostgreSQL BIGINT range")
  else .ok (units * unitCostMicrousd)

end Arguments

section Settlement

/-- `commit_usage`. The row stays locked from its `SELECT` to the end of the transaction. -/
def commitUsage (service source reservationId : String) (actualUnits : ℤ) (now : Timestamp) (table : UsageTable) :
    Except SourceError (UsageTable × UsageReservation) := do
  let key ← usageIdentity service source reservationId
  let actualUnits ← nonnegativeInt actualUnits "actual_units"
  match table.find key with
  | none => .error (.keyError reservationId)
  | some r =>
    if h : actualUnits ≤ r.reservedUnits then
      match r.status with
      | .released => .error (.runtimeError "released source usage cannot be committed")
      | .committed =>
        if r.actualUnits ≠ some actualUnits then
          .error (.messageIdentityConflict "committed source usage was reused with a new amount")
        else .ok (table, toReservation key r)
      | .reserved =>
        .ok (table.set key (r.commit actualUnits now h), toReservation key (r.commit actualUnits now h))
    else .error (.valueError "actual_units exceeds the durable reservation")

/-- `release_usage`. -/
def releaseUsage (service source reservationId : String) (now : Timestamp) (table : UsageTable) :
    Except SourceError (UsageTable × UsageReservation) := do
  let key ← usageIdentity service source reservationId
  match table.find key with
  | none => .error (.keyError reservationId)
  | some r =>
    match h : r.status with
    | .committed => .error (.runtimeError "committed source usage cannot be released")
    | .released => .ok (table, toReservation key r)
    | .reserved => .ok (table.set key (r.release now h), toReservation key (r.release now h))

variable {service source reservationId : String} {now : Timestamp} {table table' : UsageTable}
  {reservation : UsageReservation}

/-- A commit lowers every budget sum, or leaves it. -/
theorem budgeted_commitUsage {actualUnits : ℤ}
    (h : commitUsage service source reservationId actualUnits now table = .ok (table', reservation))
    (counted : UsageKey → ℕ × ℕ → Bool) : table'.budgeted counted ≤ table.budgeted counted := by
  unfold commitUsage at h
  obtain ⟨key, -, h⟩ := bind_ok h
  obtain ⟨units, -, h⟩ := bind_ok h
  split at h
  · cases h
  · rename_i r hr
    split at h
    · rename_i hunits
      split at h
      · cases h
      · split_ifs at h
        obtain ⟨rfl, -⟩ := Prod.mk.inj (Except.ok.inj h)
        exact le_rfl
      · rename_i hstatus
        obtain ⟨rfl, -⟩ := Prod.mk.inj (Except.ok.inj h)
        exact UsageTable.budgeted_set_le counted hr rfl (UsageRow.cost_commit_le hstatus hunits)
    · cases h

theorem budgeted_releaseUsage (h : releaseUsage service source reservationId now table = .ok (table', reservation))
    (counted : UsageKey → ℕ × ℕ → Bool) : table'.budgeted counted ≤ table.budgeted counted := by
  unfold releaseUsage at h
  obtain ⟨key, -, h⟩ := bind_ok h
  split at h
  · cases h
  · rename_i r hr
    split at h
    · cases h
    · obtain ⟨rfl, -⟩ := Prod.mk.inj (Except.ok.inj h)
      exact le_rfl
    · rename_i hstatus
      obtain ⟨rfl, -⟩ := Prod.mk.inj (Except.ok.inj h)
      exact UsageTable.budgeted_set_le counted hr rfl (UsageRow.cost_release_le hstatus)

end Settlement

section Reservation

/-- The arguments of `reserve_usage`, checked. -/
structure ReserveCall where
  key : UsageKey
  reservedUnits : { n : ℕ // 0 < n }
  unitCostMicrousd : ℕ
  monthlyBudgetMicrousd : ℕ
  requestedAt : Timestamp

namespace ReserveCall

def reservedCost (call : ReserveCall) : ℕ := call.reservedUnits.1 * call.unitCostMicrousd

def provider (call : ReserveCall) : String := providerSource call.key.source

def month (call : ReserveCall) : ℕ × ℕ := yearMonth call.requestedAt

end ReserveCall

def reserveCall (service source reservationId : String)
    (reservedUnits unitCostMicrousd monthlyBudgetMicrousd : ℤ) (requestedAt : Timestamp) :
    Except SourceError ReserveCall := do
  let key ← usageIdentity service source reservationId
  let reservedUnits ← positiveInt reservedUnits "reserved_units"
  let unitCostMicrousd ← nonnegativeInt unitCostMicrousd "unit_cost_microusd"
  let monthlyBudgetMicrousd ← nonnegativeInt monthlyBudgetMicrousd "monthly_budget_microusd"
  let _ ← usageCost reservedUnits unitCostMicrousd
  return ⟨key, reservedUnits, unitCostMicrousd, monthlyBudgetMicrousd, requestedAt⟩

variable (call : ReserveCall) (campaign : Option (Campaign call.provider))

/-- A client of a campaign needs the registration of its campaign. -/
def checkCampaign (campaignId : Option String) : Except SourceError Unit :=
  if campaignId ≠ none ∧ campaign.map (·.campaignId) ≠ campaignId then
    .error (.sourceBudgetExceeded "durable campaign adoption is required before paid calls")
  else .ok ()

/-- What `reserve_usage` returns for a reservation that is there already. -/
def existingReservation (r : UsageRow) : Except SourceError UsageReservation :=
  if (campaign.isNone ∧ r.billingMonth ≠ call.month) ∨ r.reservedUnits ≠ call.reservedUnits.1 ∨
      r.unitCostMicrousd ≠ call.unitCostMicrousd then
    .error (.messageIdentityConflict
      ("source usage reservation '" ++ call.key.reservationId ++ "' was reused with different content"))
  else .ok (toReservation call.key r)

/-- The sum that `reserve_usage` reads. -/
def budgetedCost (table : UsageTable) : ℕ :=
  match campaign with
  | some c => table.providerCost call.provider + c.historicalCostMicrousd
  | none => table.monthlyCost call.key.service call.key.source call.month

def checkBudget (budgeted : ℕ) : Except SourceError Unit :=
  match campaign with
  | some c =>
    if min call.monthlyBudgetMicrousd c.budgetMicrousd < budgeted + call.reservedCost then
      .error (.sourceBudgetExceeded "cumulative campaign provider budget would be exceeded")
    else .ok ()
  | none =>
    if call.monthlyBudgetMicrousd < budgeted + call.reservedCost then
      .error (.sourceBudgetExceeded
        ("monthly " ++ call.key.source ++ " budget would be exceeded by the requested reservation"))
    else .ok ()

def newReservation : UsageRow where
  billingMonth := call.month
  reservedUnits := call.reservedUnits.1
  unitCostMicrousd := call.unitCostMicrousd
  reservedCostMicrousd := call.reservedCost
  actualUnits := none
  actualCostMicrousd := none
  status := .reserved
  reservedAt := call.requestedAt
  finalizedAt := none
  reserved_units := call.reservedUnits.2
  reserved_cost := rfl
  finalization := ⟨rfl, rfl, rfl⟩

end Reservation

section Registration

def isSha256 (s : String) : Bool := s.length = 64 && s.toList.all ("0123456789abcdef".toList.contains ·)

theorem mem_bigEndian {k n b : ℕ} (h : b ∈ Sha256.bigEndian k n) : b < 256 := by
  induction k generalizing n with
  | zero => cases h
  | succ k ih =>
    rw [Sha256.bigEndian, List.mem_append, List.mem_singleton] at h
    rcases h with h | rfl
    · exact ih h
    · exact Nat.mod_lt _ (by norm_num)

theorem isSha256_hexdigest (s : String) : isSha256 (Sha256.hexdigest s) = true := by
  have hdigit (d : ℕ) (hd : d < 16) : "0123456789abcdef".toList.contains (Sha256.hexDigit d) = true := by
    have hall : ∀ i : Fin 16, "0123456789abcdef".toList.contains (Sha256.hexDigit i) = true := by decide +kernel
    exact hall ⟨d, hd⟩
  rw [isSha256, Sha256.length_hexdigest, Bool.and_eq_true]
  refine ⟨rfl, List.all_eq_true.mpr fun c hc => ?_⟩
  unfold Sha256.hexdigest at hc
  rw [String.toList_ofList, List.mem_flatMap] at hc
  obtain ⟨b, hb, hc⟩ := hc
  obtain ⟨w, -, hb⟩ := List.mem_flatMap.mp hb
  have hbyte := mem_bigEndian hb
  simp only [List.mem_cons, List.not_mem_nil, or_false] at hc
  rcases hc with rfl | rfl
  · exact hdigit _ (by omega)
  · exact hdigit _ (by omega)

theorem nulFree_sha {s : String} (h : isSha256 s = true) : Jsonb.nulFree s = true := by
  rw [isSha256, Bool.and_eq_true, List.all_eq_true] at h
  rw [Jsonb.nulFree, Bool.not_eq_true', List.contains_eq_mem, decide_eq_false_iff_not]
  intro hmem
  exact absurd (h.2 _ hmem) (by decide +kernel)

def exampleSha (c : Char) : String := String.ofList (List.replicate 64 c)

/-- The arguments of `register_campaign`, checked: the row it inserts. -/
def registerCall (campaignId : Option String) (source : String) (budgetMicrousd historicalCostMicrousd : ℤ)
    (historicalEvidenceSha256 : String) : Except SourceError (Σ source, Campaign source) :=
  match campaignId with
  | none => .error (.valueError "campaign identity is required for registration")
  | some campaignId => do
    let source := providerSource source
    let budget ← positiveInt budgetMicrousd "budget_microusd"
    let historical ← nonnegativeInt historicalCostMicrousd "historical_cost_microusd"
    match h : campaignProviderCaps.find? (·.1 = source) with
    | none => .error (.valueError "campaign provider budget exceeds the registered ceiling")
    | some cap =>
      if hcap : cap.2 < budget.1 then .error (.valueError "campaign provider budget exceeds the registered ceiling")
      else if maxBigint < historical then .error (.valueError "historical cost exceeds PostgreSQL BIGINT range")
      else if !isSha256 historicalEvidenceSha256 then
        .error (.valueError "historical evidence must be a lowercase SHA-256")
      else .ok ⟨source, {
        campaignId := campaignId
        budgetMicrousd := budget.1
        historicalCostMicrousd := historical
        historicalEvidenceSha256 := historicalEvidenceSha256
        budget_pos := budget.2
        within_cap := ⟨cap.2, by
          have hsource : cap.1 = source := by simpa using List.find?_some h
          rw [← hsource]
          exact List.mem_of_find?_eq_some h, not_lt.mp hcap⟩ }⟩

/-- What `register_campaign` does with a registration that is there already. -/
def existingCampaign {source : String} (actual expected : Campaign source) : Except SourceError Unit :=
  if actual.campaignId ≠ expected.campaignId ∨ actual.budgetMicrousd ≠ expected.budgetMicrousd ∨
      actual.historicalCostMicrousd ≠ expected.historicalCostMicrousd ∨
      actual.historicalEvidenceSha256 ≠ expected.historicalEvidenceSha256 then
    .error (.messageIdentityConflict "campaign adoption cannot be replaced or reset")
  else .ok ()

end Registration

end KairosPersistence
