import KairosPersistence.SourceBudget

/-!
What a normal return of `reserve_usage` says about the table, and the
reservations of the language model budgets on top of it.
-/

namespace KairosPersistence

open PythonText (Timestamp)

def llmBudgetService : String := "kairos-llm-v1"

/-- The call of `reserve_usage` in `CampaignLLMUsageBudget.reserve` and `DurableLLMUsageBudget.reserve`. -/
def llmReserveCall (provider reservationId : String) (reservedMicrousd monthlyBudgetMicrousd : ℤ)
    (requestedAt : Timestamp) : Except SourceError ReserveCall :=
  reserveCall llmBudgetService provider reservationId reservedMicrousd 1 monthlyBudgetMicrousd requestedAt

theorem reserveCall_ok {service source reservationId : String}
    {reservedUnits unitCostMicrousd monthlyBudgetMicrousd : ℤ} {requestedAt : Timestamp} {call : ReserveCall}
    (h : reserveCall service source reservationId reservedUnits unitCostMicrousd monthlyBudgetMicrousd requestedAt =
      .ok call) :
    (call.reservedUnits.1 : ℤ) = reservedUnits ∧ (call.unitCostMicrousd : ℤ) = unitCostMicrousd := by
  unfold reserveCall at h
  obtain ⟨key, -, h⟩ := Transactions.bind_ok h
  obtain ⟨units, hunits, h⟩ := Transactions.bind_ok h
  obtain ⟨unitCost, hunitCost, h⟩ := Transactions.bind_ok h
  obtain ⟨monthly, -, h⟩ := Transactions.bind_ok h
  obtain ⟨_, -, h⟩ := Transactions.bind_ok h
  obtain rfl := Except.ok.inj h
  unfold positiveInt at hunits
  unfold nonnegativeInt at hunitCost
  split at hunits
  · obtain rfl := Except.ok.inj hunits
    split at hunitCost
    · obtain rfl := Except.ok.inj hunitCost
      exact ⟨Int.toNat_of_nonneg (by omega), Int.toNat_of_nonneg (by assumption)⟩
    · cases hunitCost
  · cases hunits

/-- A live hold of exactly the amount of the call. -/
def Held (table : UsageTable) (call : ReserveCall) : Prop :=
  ∃ r, table.find call.key = some r ∧ r.status = .reserved ∧ r.reservedUnits = call.reservedUnits.1 ∧
    r.unitCostMicrousd = call.unitCostMicrousd ∧ r.reservedCostMicrousd = call.reservedCost

/-- No reservation of this identity was committed or released before. -/
def Unsettled (table : UsageTable) (call : ReserveCall) : Prop :=
  ∀ r, table.find call.key = some r → r.status = .reserved

theorem UsageTable.find_insert_self {table : UsageTable} {key : UsageKey} {r : UsageRow}
    (h : table.find key = none) : (table.insert key r h).find key = some r := by
  simp [find, insert]

namespace BudgetSystem

variable {ι : Type} [DecidableEq ι] {s t : BudgetSystem ι} {p : ι} {call : ReserveCall}

/-- The step in which `reserve_usage` returns normally to a client. -/
inductive Returns (p : ι) (call : ReserveCall) : BudgetSystem ι → BudgetSystem ι → Prop
  | existing {s campaign r reservation} (h : s.clients p = .bound call campaign)
    (hr : s.usage.find call.key = some r) (he : existingReservation call campaign r = .ok reservation) :
    Returns p call s (s.setClient p .idle)
  | inserted {s campaign} (h : s.clients p = .admitted call campaign) (hr : s.usage.find call.key = none) :
    Returns p call s { s.setClient p .idle with
      usage := s.usage.insert call.key (newReservation call) hr
      admissions := call :: s.admissions }

theorem Returns.step (h : Returns p call s t) : Step s t := by
  cases h with
  | existing h hr he => exact .returnExisting p h hr he
  | inserted h hr => exact .insert p h hr

/-- A row that `reserve_usage` accepts has the amount of the call. -/
theorem existingReservation_ok {campaign : Option (Campaign call.provider)} {r : UsageRow}
    {reservation : UsageReservation} (h : existingReservation call campaign r = .ok reservation) :
    r.reservedUnits = call.reservedUnits.1 ∧ r.unitCostMicrousd = call.unitCostMicrousd := by
  unfold existingReservation at h
  split at h
  · cases h
  · rename_i hsame
    rw [not_or, not_or, not_not, not_not] at hsame
    exact hsame.2

/-- In every reachable state a call that returns normally leaves a live hold of its amount exactly when its
identity was not settled before. A call of a language model budget has the micro-USD it was made for as its
amount. -/
theorem admission_held_iff (hs : Runs.Reachable Initial Step s) (h : Returns p call s t) :
    Runs.Reachable Initial Step t ∧ (Held t.usage call ↔ Unsettled s.usage call) ∧
    ∀ provider reservationId reservedMicrousd monthlyBudgetMicrousd requestedAt,
      llmReserveCall provider reservationId reservedMicrousd monthlyBudgetMicrousd requestedAt = .ok call →
      (call.reservedCost : ℤ) = reservedMicrousd := by
  refine ⟨hs.next h.step, ?_, fun _ _ reserved _ _ hcall => ?_⟩
  · cases h with
    | @existing campaign r reservation h hr he =>
      obtain ⟨hunits, hcost⟩ := existingReservation_ok he
      constructor
      · rintro ⟨r', hr', hstatus, -⟩ r'' hr''
        have hsame : r'' = r' := Option.some.inj (hr''.symm.trans hr')
        rw [hsame]
        exact hstatus
      · intro hunsettled
        refine ⟨r, hr, hunsettled r hr, hunits, hcost, ?_⟩
        rw [r.reserved_cost, hunits, hcost, ReserveCall.reservedCost]
    | inserted h hr =>
      constructor
      · intro _ r hr'
        rw [hr] at hr'
        cases hr'
      · intro _
        exact ⟨newReservation call, UsageTable.find_insert_self hr, rfl, rfl, rfl, rfl⟩
  · obtain ⟨hunits, hcost⟩ := reserveCall_ok hcall
    rw [ReserveCall.reservedCost, Nat.cast_mul, hunits, hcost, mul_one]

section Example

def llmExampleCall : ReserveCall := ⟨⟨llmBudgetService, "openai", "r"⟩, ⟨2, Nat.two_pos⟩, 1, 100, 0⟩

theorem llmExampleCall_eq : llmReserveCall "openai" "r" 2 100 0 = .ok llmExampleCall := by rfl

/-- A client of the campaign has been admitted, and its row is not yet there. -/
theorem llmExample_admitted : ∃ s : BudgetSystem Unit, Runs.Reachable Initial Step s ∧
    s.clients () = .admitted llmExampleCall (some exampleCampaign) ∧ s.usage = ⟨[], List.nodup_nil⟩ ∧
      s.campaigns "openai" = some exampleCampaign := by
  have hcampaign : exampleStart.campaigns "openai" = some exampleCampaign := by simp [exampleStart]
  have hstart : Runs.Reachable Initial Step exampleStart := .start ⟨fun _ => rfl, rfl⟩
  have hlocked := hstart.next (@Step.lockReserve Unit _ exampleStart () (some qualificationCampaignId)
    llmBudgetService "openai" "r" 2 1 100 0 llmExampleCall rfl (fun _ h => h) llmExampleCall_eq)
  have hbound := hlocked.next (Step.readCampaign () rfl (by
    show checkCampaign llmExampleCall (exampleStart.campaigns "openai") _ = _
    rw [hcampaign]
    rfl))
  have habsent := hbound.next (Step.readUsage () rfl rfl)
  have hbudget : checkBudget llmExampleCall (exampleStart.campaigns "openai")
      (budgetedCost llmExampleCall (exampleStart.campaigns "openai") exampleStart.usage) = .ok () := by
    rw [hcampaign]
    decide
  have hadmitted := habsent.next (Step.readBudget () rfl hbudget)
  exact ⟨_, hadmitted, congrArg (ClientPhase.admitted llmExampleCall) hcampaign, rfl, hcampaign⟩

/-- A first reservation is held. -/
theorem admission_held_iff_example : ∃ s t : BudgetSystem Unit, Returns () llmExampleCall s t ∧
    Held t.usage llmExampleCall := by
  obtain ⟨s, hs, hclient, husage, -⟩ := llmExample_admitted
  have hr : s.usage.find llmExampleCall.key = none := by
    rw [husage]
    rfl
  have hreturns := Returns.inserted hclient hr
  refine ⟨s, _, hreturns, (admission_held_iff hs hreturns).2.1.mpr fun r hr' => ?_⟩
  rw [hr] at hr'
  cases hr'

/-- A reservation that was committed is admitted again when it is asked for again, with no hold. -/
theorem admission_after_commit : ∃ s t : BudgetSystem Unit, Runs.Reachable Initial Step s ∧
    llmReserveCall "openai" "r" 2 100 0 = .ok llmExampleCall ∧ Returns () llmExampleCall s t ∧
    ¬Held t.usage llmExampleCall := by
  obtain ⟨s, hs, hclient, husage, hcampaign⟩ := llmExample_admitted
  have hr : s.usage.find llmExampleCall.key = none := by
    rw [husage]
    rfl
  have hreserved := hs.next (Step.insert () hclient hr)
  obtain ⟨usage, reservation, hcommit, hfind⟩ : ∃ usage reservation,
      commitUsage llmBudgetService "openai" "r" 1 5 (s.usage.insert llmExampleCall.key (newReservation llmExampleCall) hr) =
        .ok (usage, reservation) ∧ usage.find llmExampleCall.key =
          some ((newReservation llmExampleCall).commit 1 5 (by decide)) := by
    cases s
    subst husage
    exact ⟨_, _, rfl, rfl⟩
  obtain ⟨s', hs', hidle, husage', hcampaign'⟩ : ∃ s' : BudgetSystem Unit, Runs.Reachable Initial Step s' ∧
      s'.clients () = .idle ∧ s'.usage = usage ∧ s'.campaigns "openai" = some exampleCampaign :=
    ⟨_, hreserved.next (Step.commit hcommit), by simp [setClient], rfl, hcampaign⟩
  have hfree : s'.LockFree llmExampleCall.provider := by
    rintro ⟨⟩ hheld
    rw [hidle] at hheld
    exact hheld
  have hlocked := hs'.next (@Step.lockReserve Unit _ s' () (some qualificationCampaignId)
    llmBudgetService "openai" "r" 2 1 100 0 llmExampleCall hidle hfree llmExampleCall_eq)
  have hbound := hlocked.next (Step.readCampaign () (by simp [setClient]; exact ⟨rfl, rfl⟩) (by
    show checkCampaign llmExampleCall (s'.campaigns "openai") _ = _
    rw [hcampaign']
    rfl))
  obtain ⟨s'', hs'', hclient'', husage''⟩ : ∃ s'' : BudgetSystem Unit, Runs.Reachable Initial Step s'' ∧
      s''.clients () = .bound llmExampleCall (some exampleCampaign) ∧ s''.usage = usage :=
    ⟨_, hbound, by simp [setClient]; exact hcampaign', husage'⟩
  rw [← husage''] at hfind
  refine ⟨s'', _, hs'', llmExampleCall_eq, Returns.existing hclient'' hfind rfl, ?_⟩
  rintro ⟨r, hr, hstatus, -⟩
  obtain rfl := Option.some.inj (hfind.symm.trans hr)
  cases hstatus

end Example

end BudgetSystem

end KairosPersistence
