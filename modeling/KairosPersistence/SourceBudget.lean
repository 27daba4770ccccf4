import KairosPersistence.SourceUsage
import KairosPersistence.Locking
import KairosPersistence.Runs

/-!
Clients that register campaigns and reserve, commit and release usage, between
any two statements of each other.
-/

namespace KairosPersistence

open PythonText (Timestamp)

/-- Where a client stands; all phases but `idle` hold the advisory lock of a provider. -/
inductive ClientPhase where
  | idle
  | reserving (call : ReserveCall) (campaignId : Option String)
  | bound (call : ReserveCall) (campaign : Option (Campaign call.provider))
  | absent (call : ReserveCall) (campaign : Option (Campaign call.provider))
  | admitted (call : ReserveCall) (campaign : Option (Campaign call.provider))
  | registering (registration : Σ source, Campaign source)
  | unregistered (registration : Σ source, Campaign source)

def ClientPhase.Holds : ClientPhase → String → Prop
  | .idle, _ => False
  | .reserving call _, provider | .bound call _, provider | .absent call _, provider
  | .admitted call _, provider => call.provider = provider
  | .registering registration, provider | .unregistered registration, provider => registration.1 = provider

/-- The two tables, the clients, and the reservations admitted so far, the last one first. -/
structure BudgetSystem (ι : Type) where
  usage : UsageTable
  campaigns : (source : String) → Option (Campaign source)
  clients : ι → ClientPhase
  admissions : List ReserveCall

namespace BudgetSystem

variable {ι : Type} [DecidableEq ι]

def setClient (s : BudgetSystem ι) (p : ι) (x : ClientPhase) : BudgetSystem ι :=
  { s with clients := Function.update s.clients p x }

def LockFree (s : BudgetSystem ι) (provider : String) : Prop := Locking.Free ClientPhase.Holds s.clients provider

inductive Step : BudgetSystem ι → BudgetSystem ι → Prop
  -- reserve_usage
  | lockReserve {s} (p : ι) (campaignId : Option String) {service source reservationId reservedUnits
      unitCostMicrousd monthlyBudgetMicrousd requestedAt call}
    (h : s.clients p = .idle) (hl : s.LockFree call.provider)
    (hc : reserveCall service source reservationId reservedUnits unitCostMicrousd monthlyBudgetMicrousd requestedAt =
      .ok call) :
    Step s (s.setClient p (.reserving call campaignId))
  | readCampaign {s} (p : ι) {call campaignId} (h : s.clients p = .reserving call campaignId)
    (hc : checkCampaign call (s.campaigns call.provider) campaignId = .ok ()) :
    Step s (s.setClient p (.bound call (s.campaigns call.provider)))
  | returnExisting {s} (p : ι) {call campaign r reservation} (h : s.clients p = .bound call campaign)
    (hr : s.usage.find call.key = some r) (he : existingReservation call campaign r = .ok reservation) :
    Step s (s.setClient p .idle)
  | readUsage {s} (p : ι) {call campaign} (h : s.clients p = .bound call campaign)
    (hr : s.usage.find call.key = none) : Step s (s.setClient p (.absent call campaign))
  | readBudget {s} (p : ι) {call campaign} (h : s.clients p = .absent call campaign)
    (hb : checkBudget call campaign (budgetedCost call campaign s.usage) = .ok ()) :
    Step s (s.setClient p (.admitted call campaign))
  | insert {s} (p : ι) {call campaign} (h : s.clients p = .admitted call campaign)
    (hr : s.usage.find call.key = none) :
    Step s { s.setClient p .idle with
      usage := s.usage.insert call.key (newReservation call) hr
      admissions := call :: s.admissions }
  -- commit_usage and release_usage
  | commit {s service source reservationId actualUnits now usage reservation}
    (h : commitUsage service source reservationId actualUnits now s.usage = .ok (usage, reservation)) :
    Step s { s with usage := usage }
  | release {s service source reservationId now usage reservation}
    (h : releaseUsage service source reservationId now s.usage = .ok (usage, reservation)) :
    Step s { s with usage := usage }
  -- register_campaign
  | lockRegister {s} (p : ι) {campaignId source budgetMicrousd historicalCostMicrousd historicalEvidenceSha256
      registration} (h : s.clients p = .idle) (hl : s.LockFree registration.1)
    (hc : registerCall campaignId source budgetMicrousd historicalCostMicrousd historicalEvidenceSha256 =
      .ok registration) :
    Step s (s.setClient p (.registering registration))
  | returnRegistered {s} (p : ι) {registration actual} (h : s.clients p = .registering registration)
    (hr : s.campaigns registration.1 = some actual) (he : existingCampaign actual registration.2 = .ok ()) :
    Step s (s.setClient p .idle)
  | readRegistration {s} (p : ι) {registration} (h : s.clients p = .registering registration)
    (hr : s.campaigns registration.1 = none) : Step s (s.setClient p (.unregistered registration))
  | register {s} (p : ι) {registration} (h : s.clients p = .unregistered registration)
    (hr : s.campaigns registration.1 = none) :
    Step s { s.setClient p .idle with
      campaigns := Function.update s.campaigns registration.1 (some registration.2) }
  -- the call raises, is cancelled or crashes
  | rollback {s} (p : ι) : Step s (s.setClient p .idle)

/-- Any tables, and no client at work. -/
def Initial (s : BudgetSystem ι) : Prop := (∀ p, s.clients p = .idle) ∧ s.admissions = []

/-- The exposure of a provider in micro-USD. -/
def exposure (s : BudgetSystem ι) (provider : String) : ℕ :=
  ((s.campaigns provider).map (·.historicalCostMicrousd)).getD 0 + s.usage.providerCost provider

section Sums

theorem providerSource_of_mem {source σ : String} (h : source ∈ providerSources (providerSource σ)) :
    providerSource source = providerSource σ := by
  by_cases hσ : σ ∈ ["x", "x-api", "x_api"]
  · have hx : providerSource σ = "x" := if_pos hσ
    rw [hx, providerSources, if_pos rfl] at h
    rw [hx, providerSource, if_pos h]
  · have hself : providerSource σ = σ := if_neg hσ
    have hne : σ ≠ "x" := by
      rintro rfl
      simp at hσ
    rw [hself, providerSources, if_neg hne] at h
    rw [List.mem_singleton.mp h]

theorem Campaign.providerSource_eq {source : String} (c : Campaign source) : providerSource source = source := by
  obtain ⟨cap, hmem, -⟩ := c.within_cap
  simp only [campaignProviderCaps, List.mem_cons, Prod.mk.injEq, List.not_mem_nil, or_false] at hmem
  rcases hmem with ⟨rfl, -⟩ | ⟨rfl, -⟩ | ⟨rfl, -⟩ <;> rfl

variable {call : ReserveCall} {usage : UsageTable}

/-- A new reservation counts for its own provider only. -/
theorem providerCost_insert_other {σ : String} (h : usage.find call.key = none) (hne : call.provider ≠ providerSource σ) :
    (usage.insert call.key (newReservation call) h).providerCost (providerSource σ) =
      usage.providerCost (providerSource σ) := by
  have hout : call.key.source ∉ providerSources (providerSource σ) := fun hmem => hne (providerSource_of_mem hmem)
  rw [UsageTable.providerCost, UsageTable.budgeted_insert]
  simp [hout, UsageTable.providerCost]

theorem monthlyCost_insert_other {service source : String} {month : ℕ × ℕ} (h : usage.find call.key = none)
    (hne : call.provider ≠ providerSource source) :
    (usage.insert call.key (newReservation call) h).monthlyCost service source month =
      usage.monthlyCost service source month := by
  have hout : call.key.source ≠ source := fun heq => hne (congrArg providerSource heq)
  rw [UsageTable.monthlyCost, UsageTable.budgeted_insert]
  simp [hout, UsageTable.monthlyCost]

theorem budgeted_insert_le (counted : UsageKey → ℕ × ℕ → Bool) (h : usage.find call.key = none) :
    (usage.insert call.key (newReservation call) h).budgeted counted ≤ usage.budgeted counted + call.reservedCost := by
  rw [UsageTable.budgeted_insert, Nat.add_comm]
  refine Nat.add_le_add_left ?_ _
  split_ifs
  · exact le_rfl
  · exact Nat.zero_le _

/-- What an admission has checked. -/
theorem checkBudget_ok_iff {campaign : Option (Campaign call.provider)} {budgeted : ℕ} :
    checkBudget call campaign budgeted = .ok () ↔
      (∀ c, campaign = some c →
        budgeted + call.reservedCost ≤ min c.budgetMicrousd call.monthlyBudgetMicrousd) ∧
      (campaign = none → budgeted + call.reservedCost ≤ call.monthlyBudgetMicrousd) := by
  cases campaign with
  | none => simp [checkBudget]
  | some c =>
    simp [checkBudget, min_comm]

end Sums

/-- The campaign a reservation has read is the registered one, and an admitted reservation fits the budget. -/
def PhaseOk (s : BudgetSystem ι) : ClientPhase → Prop
  | .bound call campaign | .absent call campaign => campaign = s.campaigns call.provider
  | .admitted call campaign => campaign = s.campaigns call.provider ∧
    checkBudget call campaign (budgetedCost call campaign s.usage) = .ok ()
  | _ => True

structure Invariant (s : BudgetSystem ι) : Prop where
  exclusive : Locking.Exclusive ClientPhase.Holds s.clients
  phases : ∀ p, PhaseOk s (s.clients p)

omit [DecidableEq ι] in
theorem Initial.invariant {s : BudgetSystem ι} (h : Initial s) : Invariant s where
  exclusive := .of_free fun p k hk => by
    rw [h.1 p] at hk
    exact hk
  phases p := by
    rw [h.1 p]
    trivial

/-- What other clients may do to a provider while its lock is held. -/
structure Frame (s t : BudgetSystem ι) (provider : String) : Prop where
  campaigns : t.campaigns provider = s.campaigns provider
  providerCost : t.usage.providerCost provider ≤ s.usage.providerCost provider
  monthlyCost : ∀ service source month, providerSource source = provider →
    t.usage.monthlyCost service source month ≤ s.usage.monthlyCost service source month

section Invariance

variable {s t : BudgetSystem ι}

theorem checkBudget_mono {call : ReserveCall} {campaign : Option (Campaign call.provider)} {a b : ℕ} (hab : a ≤ b)
    (h : checkBudget call campaign b = .ok ()) : checkBudget call campaign a = .ok () := by
  rw [checkBudget_ok_iff] at h ⊢
  exact ⟨fun c hc => (Nat.add_le_add_right hab _).trans (h.1 c hc),
    fun hc => (Nat.add_le_add_right hab _).trans (h.2 hc)⟩

omit [DecidableEq ι] in
theorem PhaseOk.frame {x : ClientPhase} (hx : PhaseOk s x) (h : ∀ σ, x.Holds (providerSource σ) → Frame s t (providerSource σ)) :
    PhaseOk t x := by
  cases x with
  | idle | reserving | registering | unregistered => trivial
  | bound call campaign | absent call campaign => exact hx.trans (h call.key.source rfl).campaigns.symm
  | admitted call campaign =>
    have hf := h call.key.source rfl
    refine ⟨hx.1.trans hf.campaigns.symm, checkBudget_mono ?_ hx.2⟩
    cases campaign with
    | none => exact hf.monthlyCost _ _ _ rfl
    | some c => exact Nat.add_le_add_right hf.providerCost _

omit [DecidableEq ι] in
theorem frame_of_usage {usage : UsageTable} (h : ∀ counted, usage.budgeted counted ≤ s.usage.budgeted counted)
    (provider : String) : Frame s { s with usage := usage } provider :=
  ⟨rfl, h _, fun _ _ _ _ => h _⟩

theorem Invariant.setClient (hs : Invariant s) {p : ι} {x : ClientPhase} (hx : PhaseOk s x)
    (hl : ∀ k, x.Holds k → s.LockFree k ∨ (s.clients p).Holds k) : Invariant (s.setClient p x) where
  exclusive := hs.exclusive.update hl
  phases := (Function.forall_update_iff s.clients fun _ => PhaseOk s).mpr ⟨hx, fun q _ => hs.phases q⟩

/-- A client that holds the lock of a provider changes its rows and releases the lock. -/
theorem Invariant.unlock (hs : Invariant s) {p : ι} {provider : String} (hp : (s.clients p).Holds provider)
    (ht : t.clients = Function.update s.clients p .idle)
    (h : ∀ σ, provider ≠ providerSource σ → Frame s t (providerSource σ)) : Invariant t := by
  constructor
  · rw [ht]
    exact hs.exclusive.update (fun k hk => hk.elim)
  · rw [ht]
    refine (Function.forall_update_iff s.clients fun _ => PhaseOk t).mpr ⟨trivial, fun q hq => ?_⟩
    refine PhaseOk.frame (hs.phases q) fun σ hσ => h σ ?_
    rintro rfl
    exact hs.exclusive.other hp hq hσ

omit [DecidableEq ι] in
theorem Invariant.usage (hs : Invariant s) {usage : UsageTable}
    (h : ∀ counted, usage.budgeted counted ≤ s.usage.budgeted counted) : Invariant { s with usage := usage } where
  exclusive := hs.exclusive
  phases p := PhaseOk.frame (hs.phases p) fun σ _ => frame_of_usage h (providerSource σ)

theorem Invariant.step (hs : Invariant s) (h : Step s t) : Invariant t := by
  cases h with
  | lockReserve p campaignId h hl hc =>
    exact hs.setClient trivial fun k hk => Or.inl (hk ▸ hl)
  | readCampaign p h hc => exact hs.setClient rfl fun k hk => Or.inr (by rw [h]; exact hk)
  | returnExisting p h hr he => exact hs.setClient trivial fun k hk => hk.elim
  | readUsage p h hr =>
    have hok := hs.phases p
    rw [h] at hok
    exact hs.setClient hok fun k hk => Or.inr (by rw [h]; exact hk)
  | readBudget p h hb =>
    have hok := hs.phases p
    rw [h] at hok
    exact hs.setClient ⟨hok, hb⟩ fun k hk => Or.inr (by rw [h]; exact hk)
  | @insert p call campaign h hr =>
    refine hs.unlock (show (s.clients p).Holds call.provider by rw [h]; rfl) rfl fun σ hσ => ⟨rfl, ?_, ?_⟩
    · exact (providerCost_insert_other hr hσ).le
    · intro service source month hsource
      exact (monthlyCost_insert_other hr (hsource ▸ hσ)).le
  | commit h => exact hs.usage (budgeted_commitUsage h)
  | release h => exact hs.usage (budgeted_releaseUsage h)
  | lockRegister p h hl hc => exact hs.setClient trivial fun k hk => Or.inl (hk ▸ hl)
  | returnRegistered p h hr he => exact hs.setClient trivial fun k hk => hk.elim
  | readRegistration p h hr => exact hs.setClient trivial fun k hk => Or.inr (by rw [h]; exact hk)
  | @register p registration h hr =>
    refine hs.unlock (show (s.clients p).Holds registration.1 by rw [h]; rfl) rfl fun σ hσ =>
      ⟨?_, le_rfl, fun _ _ _ _ => le_rfl⟩
    exact Function.update_of_ne (Ne.symm hσ) _ _
  | rollback p => exact hs.setClient trivial fun k hk => hk.elim

/-- A registration stays as it is. -/
theorem campaign_step (h : Step s t) {source : String} {c : Campaign source} (hc : s.campaigns source = some c) :
    t.campaigns source = some c := by
  cases h with
  | lockReserve | readCampaign | returnExisting | readUsage | readBudget | insert | commit | release
  | lockRegister | returnRegistered | readRegistration | rollback => exact hc
  | @register p registration h hr =>
    refine (Function.update_of_ne ?_ _ _).trans hc
    rintro rfl
    rw [hr] at hc
    cases hc

/-- A newly admitted reservation fits the budget that is registered for its provider, or else the
monthly budget. -/
theorem admission_step (hs : Invariant s) (h : Step s t) {call : ReserveCall}
    (hlisted : t.admissions = call :: s.admissions) :
    (∀ c, s.campaigns call.provider = some c →
      exposure t call.provider ≤ min c.budgetMicrousd call.monthlyBudgetMicrousd) ∧
    (s.campaigns call.provider = none →
      t.usage.monthlyCost call.key.service call.key.source call.month ≤ call.monthlyBudgetMicrousd) := by
  cases h with
  | lockReserve | readCampaign | returnExisting | readUsage | readBudget | commit | release | lockRegister
  | returnRegistered | readRegistration | register | rollback =>
    exact absurd hlisted (List.cons_ne_self _ _).symm
  | @insert p call' campaign h hr =>
    obtain ⟨rfl, -⟩ := List.cons.inj hlisted
    have hok := hs.phases p
    rw [h] at hok
    obtain ⟨rfl, hbudget⟩ := hok
    obtain ⟨hcampaign, hmonthly⟩ := checkBudget_ok_iff.mp hbudget
    constructor
    · intro c hc
      have hle := hcampaign c hc
      rw [hc] at hle
      have hcost := budgeted_insert_le (fun key _ => key.source ∈ providerSources call'.provider) hr
      have hexposure : exposure { s.setClient p .idle with
          usage := s.usage.insert call'.key (newReservation call') hr
          admissions := call' :: s.admissions } call'.provider =
        c.historicalCostMicrousd +
          (s.usage.insert call'.key (newReservation call') hr).providerCost call'.provider := by
        simp [exposure, setClient, hc]
      rw [hexposure]
      simp only [budgetedCost, UsageTable.providerCost] at hle hcost ⊢
      omega
    · intro hnone
      have hle := hmonthly hnone
      rw [hnone] at hle
      exact (budgeted_insert_le _ hr).trans hle

/-- Without an admission or a registration no exposure grows. -/
theorem exposure_step (h : Step s t) (hlisted : t.admissions = s.admissions) (hcampaigns : t.campaigns = s.campaigns)
    (provider : String) : exposure t provider ≤ exposure s provider := by
  unfold exposure
  rw [hcampaigns]
  refine Nat.add_le_add_left ?_ _
  cases h with
  | lockReserve | readCampaign | returnExisting | readUsage | readBudget | lockRegister | returnRegistered
  | readRegistration | register | rollback => exact le_rfl
  | insert => exact absurd hlisted (List.cons_ne_self _ _)
  | commit h => exact budgeted_commitUsage h _
  | release h => exact budgeted_releaseUsage h _

/-- A step raises the exposure of a registered provider to its budget at most. -/
theorem cap_step (hs : Invariant s) (h : Step s t) {source : String} {c : Campaign source}
    (hc : s.campaigns source = some c) :
    exposure t source ≤ exposure s source ∨ exposure t source ≤ c.budgetMicrousd := by
  cases h with
  | lockReserve | readCampaign | returnExisting | readUsage | readBudget | lockRegister | returnRegistered
  | readRegistration | rollback => exact Or.inl le_rfl
  | commit h => exact Or.inl (exposure_step (.commit h) rfl rfl source)
  | release h => exact Or.inl (exposure_step (.release h) rfl rfl source)
  | @insert p call campaign h hr =>
    by_cases hprovider : call.provider = source
    · subst hprovider
      exact Or.inr (((admission_step hs (.insert p h hr) rfl).1 c hc).trans (min_le_left _ _))
    · rw [← Campaign.providerSource_eq c] at hprovider
      have hcost := providerCost_insert_other hr hprovider
      rw [Campaign.providerSource_eq c] at hcost
      refine Or.inl (Nat.add_le_add_left ?_ _)
      exact hcost.le
  | @register p registration h hr =>
    refine Or.inl (Nat.add_le_add_right ?_ _)
    have hsame : Function.update s.campaigns registration.1 (some registration.2) source = s.campaigns source := by
      refine Function.update_of_ne ?_ _ _
      rintro rfl
      rw [hr] at hc
      cases hc
    exact (congrArg (fun x => (x.map (·.historicalCostMicrousd)).getD 0) hsame).le

end Invariance

open Relation in
/-- The cumulative campaign cap. From a state in which a campaign is registered on, the registration stays
and the exposure of its provider stays below its budget or the exposure at that state; a new admission
fits the registered budget and the monthly one, or the monthly one alone; settlements lower exposures. -/
theorem campaign_cap {s : BudgetSystem ι} (hs : Runs.Reachable Initial Step s) :
    (∀ source c, s.campaigns source = some c → ∀ t, ReflTransGen Step s t →
      t.campaigns source = some c ∧ exposure t source ≤ max (exposure s source) c.budgetMicrousd) ∧
    (∀ t call, Step s t → t.admissions = call :: s.admissions →
      (∀ c, s.campaigns call.provider = some c →
        exposure t call.provider ≤ min c.budgetMicrousd call.monthlyBudgetMicrousd) ∧
      (s.campaigns call.provider = none →
        t.usage.monthlyCost call.key.service call.key.source call.month ≤ call.monthlyBudgetMicrousd)) ∧
    (∀ t, Step s t → t.admissions = s.admissions → t.campaigns = s.campaigns →
      ∀ source, exposure t source ≤ exposure s source) ∧
    (∀ service source reservationId actualUnits now usage reservation,
      commitUsage service source reservationId actualUnits now s.usage = .ok (usage, reservation) →
      ∀ counted, usage.budgeted counted ≤ s.usage.budgeted counted) ∧
    ∀ service source reservationId now usage reservation,
      releaseUsage service source reservationId now s.usage = .ok (usage, reservation) →
      ∀ counted, usage.budgeted counted ≤ s.usage.budgeted counted := by
  have hinv : Invariant s := hs.invariant (fun _ h => h.invariant) fun _ _ hs h => hs.step h
  refine ⟨fun source c hc t hst => ?_, fun t call h hlisted => admission_step hinv h hlisted,
    fun t h hlisted hcampaigns source => exposure_step h hlisted hcampaigns source,
    fun _ _ _ _ _ _ _ h => budgeted_commitUsage h, fun _ _ _ _ _ _ h => budgeted_releaseUsage h⟩
  have hstep (t u : BudgetSystem ι) (ht : Invariant t ∧ t.campaigns source = some c) (h : Step t u) :
      Invariant u ∧ u.campaigns source = some c := ⟨ht.1.step h, campaign_step h ht.2⟩
  constructor
  · exact (Runs.run_invariant hstep hst ⟨hinv, hc⟩).2
  · exact Runs.run_capped hstep (fun t u ht h => cap_step ht.1 h ht.2) hst ⟨hinv, hc⟩

section Example

def exampleCampaign : Campaign "openai" :=
  ⟨qualificationCampaignId, 12000000, 5, "", by decide, 12000000, by decide, le_rfl⟩

def exampleStart : BudgetSystem Unit where
  usage := ⟨[], List.nodup_nil⟩
  campaigns := Function.update (fun _ => none) "openai" (some exampleCampaign)
  clients _ := .idle
  admissions := []

def exampleReserve : ReserveCall := ⟨⟨"llm", "openai", "r"⟩, ⟨2, by decide⟩, 3, 100, 0⟩

/-- Two units at three micro-USD are reserved under a campaign with an old debt of five. -/
theorem campaign_cap_example : ∃ s t : BudgetSystem Unit, Step s t ∧ t.admissions = exampleReserve :: s.admissions ∧
    exposure t "openai" ≤ min 12000000 100 := by
  have hcampaign : exampleStart.campaigns "openai" = some exampleCampaign := by simp [exampleStart]
  have hstart : Runs.Reachable Initial Step exampleStart := .start ⟨fun _ => rfl, rfl⟩
  have hlocked := hstart.next (@Step.lockReserve Unit _ exampleStart () none "llm" "openai" "r" 2 3 100 0
    exampleReserve rfl (fun _ h => h) rfl)
  have hbound := hlocked.next (Step.readCampaign () rfl rfl)
  have habsent := hbound.next (Step.readUsage () rfl rfl)
  have hbudget : checkBudget exampleReserve (exampleStart.campaigns "openai")
      (budgetedCost exampleReserve (exampleStart.campaigns "openai") exampleStart.usage) = .ok () := by
    rw [hcampaign]
    decide
  have hadmitted := habsent.next (Step.readBudget () rfl hbudget)
  obtain ⟨s, hs, hclient, hrow, hregistered⟩ : ∃ s : BudgetSystem Unit, Runs.Reachable Initial Step s ∧
      s.clients () = .admitted exampleReserve (exampleStart.campaigns "openai") ∧
        s.usage.find exampleReserve.key = none ∧ s.campaigns "openai" = some exampleCampaign :=
    ⟨_, hadmitted, rfl, rfl, hcampaign⟩
  have hstep := Step.insert () hclient hrow
  exact ⟨s, _, hstep, rfl, ((campaign_cap hs).2.1 _ _ hstep rfl).1 exampleCampaign hregistered⟩

end Example

end BudgetSystem

end KairosPersistence
