import KairosPersistence.CampaignJournal

/-!
The costs of a campaign, and when its denominator sums them up exactly.
-/

namespace KairosPersistence

variable {contracts : CampaignContracts} {rows : List ReceiptRow} {campaignId : String} {costs : List CostReceipt}
  {cost : CostReceipt}

section Operations

/-- What a cost is of: the sample, the arm and the attempt. -/
def CostReceipt.operation (cost : CostReceipt) : String × ResearchArm × String := (cost.sampleId, cost.armId, cost.attemptId)

theorem stage_slot_inj {a b : CostStage} {x y : String} (h : a.value ++ ":" ++ x = b.value ++ ":" ++ y) : a = b ∧ x = y := by
  have hchars := congrArg String.toList h
  simp only [String.toList_append] at hchars
  cases a <;> cases b <;> simp [CostStage.value] at hchars ⊢ <;> exact String.toList_inj.mp hchars

theorem slotAt_inj {a b : CostReceipt} {stage stage' : CostStage} (h : a.slotAt stage = b.slotAt stage') :
    a.campaignId = b.campaignId ∧ a.operation = b.operation ∧ stage = stage' := by
  simp only [CostReceipt.slotAt, Slot.mk.injEq, Option.some.injEq, true_and] at h
  obtain ⟨hcampaign, hsample, harm, hkey⟩ := h
  obtain ⟨hstage, hattempt⟩ := stage_slot_inj hkey
  exact ⟨hcampaign, by rw [CostReceipt.operation, hsample, harm, hattempt]; rfl, hstage⟩

theorem mem_costsOf :
    cost ∈ costsOf rows campaignId ↔ ∃ row ∈ rows, row.campaignId = campaignId ∧ row.receipt = .cost cost := by
  simp only [costsOf, List.mem_filterMap, List.mem_filter, decide_eq_true_eq]
  constructor
  · rintro ⟨row, ⟨hrow, hcampaign⟩, hreceipt⟩
    split at hreceipt
    · rename_i heq
      exact ⟨row, hrow, hcampaign, by rw [heq, Option.some.inj hreceipt]⟩
    · cases hreceipt
  · rintro ⟨row, hrow, hcampaign, hreceipt⟩
    exact ⟨row, ⟨hrow, hcampaign⟩, by rw [hreceipt]⟩

/-- The operation has a cost of the stage. -/
def CostReceipt.Reaches (cost : CostReceipt) (costs : List CostReceipt) (stage : CostStage) : Prop :=
  ∃ other ∈ costs, other.stage = stage ∧ other.operation = cost.operation

instance (cost : CostReceipt) (costs : List CostReceipt) (stage : CostStage) : Decidable (cost.Reaches costs stage) :=
  inferInstanceAs (Decidable (∃ _ ∈ costs, _))

/-- The costs of a campaign: one for each stage of an operation, within the amount that was requested for it, and
none that is committed without a reservation. -/
structure CostsFenced (costs : List CostReceipt) : Prop where
  stages : (costs.map fun cost => (cost.operation, cost.stage)).Nodup
  reserved : ∀ cost ∈ costs, cost.stage = .committed → cost.Reaches costs .reserved
  requested : ∀ cost ∈ costs, ∃ request ∈ costs, request.stage = .reservationRequested ∧
    request.operation = cost.operation ∧ cost.amountMicrousd ≤ request.amountMicrousd

end Operations

section Journal

/-- A cost that an accepted row has fenced is one of the campaign. -/
theorem CostReceipt.HasStage.read {stage : CostStage} {p : ℕ → Prop} (hlog : JournalAccepted contracts rows)
    (h : cost.HasStage rows stage p) :
    ∃ other ∈ costsOf rows cost.campaignId, other.stage = stage ∧ other.operation = cost.operation ∧
      p other.amountMicrousd := by
  obtain ⟨row, hrow, other, hreceipt, hslot, hp⟩ := h
  obtain ⟨older, -, haccepted⟩ := hlog.exists_older hrow
  obtain ⟨hcampaign, hoperation, hstage⟩ := slotAt_inj hslot
  have hown := haccepted.ownSlot _ (by rw [hreceipt]; rfl)
  refine ⟨other, mem_costsOf.mpr ⟨row, hrow, ?_, hreceipt⟩, hstage, hoperation, hp⟩
  exact (congrArg Slot.campaignId hown).trans hcampaign

theorem costsOf_suffix {older : List ReceiptRow} (h : older <:+ rows) : costsOf older campaignId ⊆ costsOf rows campaignId := by
  intro cost hcost
  obtain ⟨row, hrow, hrest⟩ := mem_costsOf.mp hcost
  exact mem_costsOf.mpr ⟨row, h.subset hrow, hrest⟩

/-- Every cost is within what was requested for its operation: by the stage, from the one that fenced it. -/
theorem cost_requested (hlog : JournalAccepted contracts rows) (hcost : cost ∈ costsOf rows campaignId) :
    ∃ request ∈ costsOf rows campaignId, request.stage = .reservationRequested ∧
      request.operation = cost.operation ∧ cost.amountMicrousd ≤ request.amountMicrousd := by
  induction rows generalizing cost with
  | nil => exact absurd hcost List.not_mem_nil
  | cons row rows ih =>
    obtain ⟨haccepted, hrows⟩ := AcceptedLogs.accepted_cons.mp hlog
    have hsub : costsOf rows campaignId ⊆ costsOf (row :: rows) campaignId := costsOf_suffix (List.suffix_cons _ _)
    obtain ⟨source, hsource, hcampaign, hreceipt⟩ := mem_costsOf.mp hcost
    rcases List.mem_cons.mp hsource with rfl | hsource
    · have hid : cost.campaignId = campaignId := by
        have hown := haccepted.ownSlot _ (by rw [hreceipt]; rfl)
        exact (congrArg Slot.campaignId hown).symm.trans hcampaign
      have hfenced := haccepted.cost cost hreceipt
      -- what was reserved is within what was requested, which the older rows have
      have hreserved : ∀ p, cost.HasStage rows .reserved p → (∀ amount, p amount → cost.amountMicrousd ≤ amount) →
          ∃ request ∈ costsOf (source :: rows) campaignId, request.stage = .reservationRequested ∧
            request.operation = cost.operation ∧ cost.amountMicrousd ≤ request.amountMicrousd := by
        intro p hstage hp
        obtain ⟨held, hheld, -, hoperation, hamount⟩ := hstage.read hrows
        obtain ⟨request, hrequest, hstage, hsame, hle⟩ := ih hrows (hid ▸ hheld)
        exact ⟨request, hsub hrequest, hstage, hsame.trans hoperation, (hp _ hamount).trans hle⟩
      unfold CostReceipt.Fenced at hfenced
      cases hstage : cost.stage <;> simp only [hstage] at hfenced
      case reservationRequested => exact ⟨cost, hcost, hstage, rfl, Nat.le_refl _⟩
      case reservationDenied =>
        obtain ⟨request, hrequest, hrequested, hoperation, hzero⟩ := hfenced.1.read hrows
        exact ⟨request, hsub (hid ▸ hrequest), hrequested, hoperation, hzero ▸ Nat.zero_le _⟩
      case reserved =>
        obtain ⟨request, hrequest, hrequested, hoperation, heq⟩ := hfenced.1.read hrows
        exact ⟨request, hsub (hid ▸ hrequest), hrequested, hoperation, heq.le⟩
      case commitRequested => exact hreserved _ hfenced fun _ h => h
      case committed => exact hreserved _ hfenced.1 fun _ h => h
    · obtain ⟨request, hrequest, hrest⟩  := ih hrows (mem_costsOf.mpr ⟨source, hsource, hcampaign, hreceipt⟩)
      exact ⟨request, hsub hrequest, hrest⟩

/-- A committed cost has its reservation. -/
theorem cost_reserved (hlog : JournalAccepted contracts rows) (hcost : cost ∈ costsOf rows campaignId)
    (hstage : cost.stage = .committed) : cost.Reaches (costsOf rows campaignId) .reserved := by
  obtain ⟨row, hrow, hcampaign, hreceipt⟩ := mem_costsOf.mp hcost
  obtain ⟨older, hsuffix, haccepted⟩ := hlog.exists_older hrow
  have hown := haccepted.ownSlot _ (by rw [hreceipt]; rfl)
  have hfenced := haccepted.cost cost hreceipt
  simp only [CostReceipt.Fenced, hstage] at hfenced
  have holder : older <:+ rows := (List.suffix_cons _ _).trans hsuffix
  obtain ⟨held, hheld, hreserved, hoperation, -⟩ := hfenced.1.read (hlog.suffix holder)
  have hid : cost.campaignId = campaignId := (congrArg Slot.campaignId hown).symm.trans hcampaign
  exact ⟨held, costsOf_suffix holder (hid ▸ hheld), hreserved, hoperation⟩

theorem costsFenced (hlog : JournalAccepted contracts rows) : CostsFenced (costsOf rows campaignId) where
  stages := by
    have hslots : (rows.map ReceiptRow.slot).Nodup :=
      hlog.nodup_key fun older row haccepted other hother => haccepted.fresh other hother
    have hown : ∀ row ∈ rows, ∀ cost, row.receipt = .cost cost → row.slot = cost.slotAt cost.stage := by
      intro row hrow cost hreceipt
      obtain ⟨older, -, haccepted⟩ := hlog.exists_older hrow
      exact haccepted.ownSlot _ (by rw [hreceipt]; rfl)
    rw [List.Nodup, List.pairwise_map, costsOf, List.pairwise_filterMap, List.pairwise_filter]
    apply (List.pairwise_map.mp hslots).imp_of_mem
    intro a b ha hb hne hcampaign hcampaign' cost hcost other hother heq
    split at hcost
    · rename_i hreceipt
      split at hother
      · rename_i hreceipt'
        rw [Option.some.inj hcost] at hreceipt
        rw [Option.some.inj hother] at hreceipt'
        -- costs of one campaign, operation and stage have one slot
        have hid : cost.campaignId = other.campaignId := by
          have hcost' := congrArg Slot.campaignId (hown a ha cost hreceipt)
          have hother' := congrArg Slot.campaignId (hown b hb other hreceipt')
          exact hcost'.symm.trans ((of_decide_eq_true hcampaign).trans ((of_decide_eq_true hcampaign').symm.trans hother'))
        simp only [Prod.mk.injEq, CostReceipt.operation] at heq
        obtain ⟨⟨hsample, harm, hattempt⟩, hstage⟩ := heq
        apply hne
        rw [hown a ha cost hreceipt, hown b hb other hreceipt', CostReceipt.slotAt, CostReceipt.slotAt, hid, hsample, harm,
          hattempt, hstage]
      · cases hother
    · cases hcost
  reserved _ hcost := cost_reserved hlog hcost
  requested _ hcost := cost_requested hlog hcost

end Journal

section Sums

/-- The sum of all committed costs. -/
def exactCommitted (costs : List CostReceipt) : ℕ :=
  ((costs.filter (·.stage = .committed)).map (·.amountMicrousd)).sum

/-- The sum of all reservations that are not committed, and of all requests neither reserved nor denied. -/
def exactOutstanding (costs : List CostReceipt) : ℕ :=
  ((costs.filter fun cost => cost.stage = .reserved ∧ ¬cost.Reaches costs .committed).map (·.amountMicrousd)).sum +
    ((costs.filter fun cost => cost.stage = .reservationRequested ∧ ¬cost.Reaches costs .reserved ∧
      ¬cost.Reaches costs .reservationDenied).map (·.amountMicrousd)).sum

/-- The sum of all amounts that were requested. -/
def exactRequested (costs : List CostReceipt) : ℕ :=
  ((costs.filter (·.stage = .reservationRequested)).map (·.amountMicrousd)).sum

/-- The denominator has the exact sums, within the requests; the dictionaries that it is folded from have each cost
once in its stage. -/
structure CostsConserved (costs : List CostReceipt) (receipt : DenominatorReceipt) : Prop where
  committed : receipt.committedCostMicrousd = exactCommitted costs
  outstanding : receipt.outstandingReservationMicrousd = exactOutstanding costs
  counted : ∀ stage, (stageAmounts (orderedCosts costs) stage).Perm
    ((costs.filter (·.stage = stage)).map fun cost => (cost.attemptId, cost.amountMicrousd))
  bounded : receipt.committedCostMicrousd + receipt.outstandingReservationMicrousd ≤ exactRequested costs

/-- No two requests are of one attempt id. -/
def RequestsNamedOnce (costs : List CostReceipt) : Prop :=
  ((costs.filter (·.stage = .reservationRequested)).map (·.attemptId)).Nodup

theorem orderedCosts_perm (costs : List CostReceipt) : (orderedCosts costs).Perm costs := List.perm_insertionSort _ _

section Once

variable (hfenced : CostsFenced costs) (honce : RequestsNamedOnce costs)
include hfenced honce

theorem operation_of_attemptId {a b : CostReceipt} (ha : a ∈ costs) (hb : b ∈ costs) (h : a.attemptId = b.attemptId) :
    a.operation = b.operation := by
  obtain ⟨request, hrequest, hstage, hoperation, -⟩ := hfenced.requested a ha
  obtain ⟨request', hrequest', hstage', hoperation', -⟩ := hfenced.requested b hb
  have hattempt : request.attemptId = request'.attemptId := by
    simp only [CostReceipt.operation, Prod.mk.injEq] at hoperation hoperation'
    rw [hoperation.2.2, hoperation'.2.2, h]
  have heq : request = request' := List.inj_on_of_nodup_map honce
    (List.mem_filter.mpr ⟨hrequest, decide_eq_true hstage⟩) (List.mem_filter.mpr ⟨hrequest', decide_eq_true hstage'⟩) hattempt
  rw [← hoperation, ← hoperation', heq]

theorem attemptIds_nodup (stage : CostStage) : ((costs.filter (·.stage = stage)).map (·.attemptId)).Nodup := by
  apply List.Nodup.map_on _ (hfenced.stages.of_map _ |>.filter _)
  intro a ha b hb hattempt
  obtain ⟨ha, hstage⟩ := List.mem_filter.mp ha
  obtain ⟨hb, hstage'⟩ := List.mem_filter.mp hb
  apply List.inj_on_of_nodup_map hfenced.stages ha hb
  rw [operation_of_attemptId hfenced honce ha hb hattempt, of_decide_eq_true hstage, of_decide_eq_true hstage']

theorem stageAmounts_eq (stage : CostStage) : stageAmounts (orderedCosts costs) stage =
    ((orderedCosts costs).filter (·.stage = stage)).map fun cost => (cost.attemptId, cost.amountMicrousd) := by
  apply KeyedRows.dictionary_eq_map
  exact (((orderedCosts_perm costs).filter _).map _).nodup_iff.mpr (attemptIds_nodup hfenced honce stage)

/-- The keys of a stage are the operations that reach it. -/
theorem withoutKeys_map {some : List CostReceipt} (hsome : some ⊆ costs) (stage : CostStage) :
    withoutKeys (some.map fun cost => (cost.attemptId, cost.amountMicrousd)) (stageAmounts (orderedCosts costs) stage) =
      (some.filter fun cost => ¬cost.Reaches costs stage).map fun cost => (cost.attemptId, cost.amountMicrousd) := by
  rw [withoutKeys, List.filter_map, stageAmounts_eq hfenced honce]
  congr 1
  apply List.filter_congr
  intro cost hcost
  simp only [Function.comp_apply, decide_eq_decide, not_iff_not, List.mem_map, List.mem_filter, decide_eq_true_eq]
  constructor
  · rintro ⟨_, ⟨other, ⟨hother, hstage⟩, rfl⟩, hattempt⟩
    have hmem := (orderedCosts_perm costs).subset hother
    exact ⟨other, hmem, hstage, operation_of_attemptId hfenced honce hmem (hsome hcost) hattempt⟩
  · rintro ⟨other, hother, hstage, hoperation⟩
    simp only [CostReceipt.operation, Prod.mk.injEq] at hoperation
    exact ⟨_, ⟨other, ⟨(orderedCosts_perm costs).symm.subset hother, hstage⟩, rfl⟩, hoperation.2.2⟩

theorem committed_eq :
    ((stageAmounts (orderedCosts costs) .committed).map (·.2)).sum = exactCommitted costs := by
  rw [stageAmounts_eq hfenced honce, List.map_map]
  exact (((orderedCosts_perm costs).filter _).map _).sum_eq

theorem outstanding_eq :
    ((withoutKeys (stageAmounts (orderedCosts costs) .reserved) (stageAmounts (orderedCosts costs) .committed)).map (·.2)).sum +
      ((withoutKeys (withoutKeys (stageAmounts (orderedCosts costs) .reservationRequested)
        (stageAmounts (orderedCosts costs) .reserved)) (stageAmounts (orderedCosts costs) .reservationDenied)).map (·.2)).sum =
      exactOutstanding costs := by
  have hsub : ∀ p : CostReceipt → Bool, (orderedCosts costs).filter p ⊆ costs := by
    intro p cost hcost
    exact (orderedCosts_perm costs).subset (List.mem_of_mem_filter hcost)
  have hsum : ∀ p q : CostReceipt → Bool, (∀ cost, p cost = q cost) →
      (((orderedCosts costs).filter p).map (·.amountMicrousd)).sum = ((costs.filter q).map (·.amountMicrousd)).sum := by
    intro p q hpq
    rw [List.filter_congr fun cost _ => hpq cost]
    exact (((orderedCosts_perm costs).filter q).map _).sum_eq
  rw [exactOutstanding]
  congr 1
  · rw [stageAmounts_eq hfenced honce .reserved, withoutKeys_map hfenced honce (hsub _), List.map_map, List.filter_filter]
    apply hsum
    intro cost
    simp only [Bool.decide_and, Bool.and_comm]
  · rw [stageAmounts_eq hfenced honce .reservationRequested, withoutKeys_map hfenced honce (hsub _), List.filter_filter,
      withoutKeys_map hfenced honce (hsub _), List.map_map, List.filter_filter]
    apply hsum
    intro cost
    simp only [Bool.decide_and, Bool.and_comm, Bool.and_left_comm]

end Once

theorem mem_stageAmounts {stage : CostStage} {entry : String × ℕ} (h : entry ∈ stageAmounts (orderedCosts costs) stage) :
    ∃ cost ∈ costs, cost.stage = stage ∧ entry = (cost.attemptId, cost.amountMicrousd) := by
  obtain ⟨cost, hcost, heq⟩ := KeyedRows.mem_of_mem_dictionary h
  obtain ⟨hcost, hstage⟩ := List.mem_filter.mp hcost
  exact ⟨cost, (orderedCosts_perm costs).subset hcost, of_decide_eq_true hstage, heq⟩

theorem exists_mem_stageAmounts {stage : CostStage} (hcost : cost ∈ costs) (hstage : cost.stage = stage) :
    ∃ entry ∈ stageAmounts (orderedCosts costs) stage, entry.1 = cost.attemptId :=
  KeyedRows.exists_mem_dictionary (f := fun cost : CostReceipt => (cost.attemptId, cost.amountMicrousd))
    (List.mem_filter.mpr ⟨(orderedCosts_perm costs).symm.subset hcost, decide_eq_true hstage⟩)

theorem mem_withoutKeys {amounts other : List (String × ℕ)} {entry : String × ℕ} :
    entry ∈ withoutKeys amounts other ↔ entry ∈ amounts ∧ ∀ entry' ∈ other, entry'.1 ≠ entry.1 := by
  simp only [withoutKeys, List.mem_filter, decide_eq_true_eq, not_exists, not_and]

theorem nodup_withoutKeys {amounts other : List (String × ℕ)} (h : (amounts.map (·.1)).Nodup) :
    ((withoutKeys amounts other).map (·.1)).Nodup := (List.filter_sublist.map _).nodup h

/-- What the denominator holds is within the requests, whatever their attempt ids. -/
theorem denominator_bounded (hfenced : CostsFenced costs) :
    ((stageAmounts (orderedCosts costs) .committed).map (·.2)).sum +
      (((withoutKeys (stageAmounts (orderedCosts costs) .reserved)
          (stageAmounts (orderedCosts costs) .committed)).map (·.2)).sum +
        ((withoutKeys (withoutKeys (stageAmounts (orderedCosts costs) .reservationRequested)
          (stageAmounts (orderedCosts costs) .reserved)) (stageAmounts (orderedCosts costs) .reservationDenied)).map (·.2)).sum) ≤
      exactRequested costs := by
  have hnodup : ∀ stage, ((stageAmounts (orderedCosts costs) stage).map (·.1)).Nodup := fun _ => KeyedRows.nodup_dictionary
  -- the three parts have no attempt in common
  have hreserved : ∀ entry ∈ stageAmounts (orderedCosts costs) .committed,
      ∃ entry' ∈ stageAmounts (orderedCosts costs) .reserved, entry'.1 = entry.1 := by
    intro entry hentry
    obtain ⟨cost, hcost, hstage, rfl⟩ := mem_stageAmounts hentry
    obtain ⟨held, hheld, hheldStage, hoperation⟩ := hfenced.reserved cost hcost hstage
    obtain ⟨entry', hentry', hkey⟩ := exists_mem_stageAmounts hheld hheldStage
    simp only [CostReceipt.operation, Prod.mk.injEq] at hoperation
    exact ⟨entry', hentry', hkey.trans hoperation.2.2⟩
  rw [← List.sum_append, ← List.map_append, ← List.sum_append, ← List.map_append]
  apply @KeyedRows.sum_le_sum_of_keys _ _ Prod.fst _ _ _ CostReceipt.attemptId
  · rw [List.map_append, List.map_append, List.nodup_append, List.nodup_append]
    refine ⟨hnodup _, ⟨nodup_withoutKeys (hnodup _), nodup_withoutKeys (nodup_withoutKeys (hnodup _)), ?_⟩, ?_⟩
    · intro a ha b hb
      obtain ⟨entry, hentry, rfl⟩ := List.mem_map.mp ha
      obtain ⟨entry', hentry', rfl⟩ := List.mem_map.mp hb
      exact (mem_withoutKeys.mp (mem_withoutKeys.mp hentry').1).2 entry (mem_withoutKeys.mp hentry).1
    · intro a ha b hb
      obtain ⟨entry, hentry, rfl⟩ := List.mem_map.mp ha
      rcases List.mem_append.mp hb with hb | hb
      · obtain ⟨entry', hentry', rfl⟩ := List.mem_map.mp hb
        exact (mem_withoutKeys.mp hentry').2 entry hentry
      · obtain ⟨entry', hentry', rfl⟩ := List.mem_map.mp hb
        obtain ⟨held, hheld, hkey⟩ := hreserved entry hentry
        exact hkey ▸ (mem_withoutKeys.mp (mem_withoutKeys.mp hentry').1).2 held hheld
  · intro entry hentry
    have hstage : ∃ stage, entry ∈ stageAmounts (orderedCosts costs) stage := by
      rcases List.mem_append.mp hentry with hentry | hentry
      · exact ⟨_, hentry⟩
      · rcases List.mem_append.mp hentry with hentry | hentry
        · exact ⟨_, (mem_withoutKeys.mp hentry).1⟩
        · exact ⟨_, (mem_withoutKeys.mp (mem_withoutKeys.mp hentry).1).1⟩
    obtain ⟨stage, hentry⟩ := hstage
    obtain ⟨cost, hcost, -, rfl⟩ := mem_stageAmounts hentry
    obtain ⟨request, hrequest, hrequested, hoperation, hle⟩ := hfenced.requested cost hcost
    simp only [CostReceipt.operation, Prod.mk.injEq] at hoperation
    exact ⟨request, List.mem_filter.mpr ⟨hrequest, decide_eq_true hrequested⟩, hoperation.2.2, hle⟩

theorem costsConserved_iff (hfenced : CostsFenced costs) {plan : PlanRow} {expected : ℕ} {outcomes : List ArmOutcome} :
    CostsConserved costs (denominatorReceipt contracts plan expected outcomes (orderedCosts costs)) ↔
      RequestsNamedOnce costs := by
  constructor
  · intro h
    -- the dictionary of the requests has each of them, so that no two have one key
    have hperm := (h.counted .reservationRequested).map Prod.fst
    rw [List.map_map] at hperm
    exact hperm.nodup_iff.mp KeyedRows.nodup_dictionary
  · intro honce
    exact
      { committed := committed_eq hfenced honce
        outstanding := outstanding_eq hfenced honce
        counted := fun stage => by
          rw [stageAmounts_eq hfenced honce stage]
          exact ((orderedCosts_perm costs).filter _).map _
        bounded := denominator_bounded hfenced }

end Sums

theorem denominator_conserves {s : CampaignSystem} (h : CampaignReachable contracts s) {scheduler : Option String}
    {t : CampaignDatabase} {receipt : DenominatorReceipt}
    (hseal : sealDenominator contracts scheduler campaignId s.db = .ok (t, receipt))
    (hfresh : s.db.denominator? campaignId = none) :
    CostsConserved (costsOf s.db.receipts campaignId) receipt ↔ RequestsNamedOnce (costsOf s.db.receipts campaignId) := by
  have hfenced : CostsFenced (costsOf s.db.receipts campaignId) := costsFenced (journalAccepted_of_reachable h)
  rcases sealDenominator_ok hseal with ⟨-, hsaved⟩ | ⟨-, plan, expected, -, -, rfl, -⟩
  · rw [hfresh] at hsaved
    cases hsaved
  · exact costsConserved_iff hfenced

section Example

def exampleCost (arm : ResearchArm) (attemptId : String) (amount : ℕ) : CostReceipt where
  campaignId := "campaign-1"
  sampleId := "window-1"
  armId := arm
  attemptId := attemptId
  stage := .reservationRequested
  amountMicrousd := amount
  observedAtTsMs := 1000

/-- The requests of two arms, and the outcomes of all. -/
def exampleCostCalls (attemptId : String) : List (CampaignCall × Dispatch) :=
  exampleFrozenCalls ++
    [(.recordCost (exampleCost .strategyReview "attempt-1" 5), atMs 1000),
      (.recordCost (exampleCost .llmProposalResearch attemptId 7), atMs 1000),
      (.recordOutcome (exampleOutcome .strategyOnly .evaluatorFailed), atMs 1100),
      (.recordOutcome (exampleOutcome .strategyReview .evaluatorFailed), atMs 1100),
      (.recordOutcome (exampleOutcome .llmProposalResearch .evaluatorFailed), atMs 1100)]

/-- The denominator of the requests. -/
def exampleDenominator (outstanding requests : ℕ) : DenominatorReceipt where
  campaignId := "campaign-1"
  planReceiptSha256 := "campaign-1"
  recordingMode := .causalObservation
  expectedOutcomes := 3
  outcomeIdsSha256 := "outcomes"
  statusCounts := [(.evaluatorFailed, 3)]
  committedCostMicrousd := 0
  outstandingReservationMicrousd := outstanding
  unknownAttemptCount := 0
  unknownBudgetOperationCount := requests

def exampleCosts (attemptId : String) : CampaignSystem :=
  runCampaignCalls exampleCampaignContracts (exampleCostCalls attemptId) .empty

theorem exampleCosts_reachable (attemptId : String) : CampaignReachable exampleCampaignContracts (exampleCosts attemptId) :=
  runCampaignCalls_reachable exampleCampaignContracts (exampleCostCalls attemptId)

/-- The seal of the example. -/
def exampleSealing (attemptId : String) : CampaignDatabase × Except ResearchError DenominatorReceipt :=
  Transactions.run (sealDenominator exampleCampaignContracts none "campaign-1") (exampleCosts attemptId).db

theorem denominator_conserves_example :
    CostsConserved (costsOf (exampleCosts "attempt-2").db.receipts "campaign-1") (exampleDenominator 12 2) := by
  have hrun : (exampleSealing "attempt-2").2 = .ok (exampleDenominator 12 2) ∧
      (exampleCosts "attempt-2").db.denominator? "campaign-1" = none ∧
      RequestsNamedOnce (costsOf (exampleCosts "attempt-2").db.receipts "campaign-1") := by
    unfold RequestsNamedOnce
    decide +kernel
  obtain ⟨hseal, hfresh, honce⟩ := hrun
  exact (denominator_conserves (exampleCosts_reachable "attempt-2") (Transactions.eq_ok_of_run hseal) hfresh).mpr honce

/-- Two arms request a reservation under one attempt id: the denominator has one of them. -/
theorem denominator_drops_request : ∃ s t receipt, CampaignReachable exampleCampaignContracts s ∧
    sealDenominator exampleCampaignContracts none "campaign-1" s.db = .ok (t, receipt) ∧
    s.db.denominator? "campaign-1" = none ∧ ¬CostsConserved (costsOf s.db.receipts "campaign-1") receipt := by
  have hrun : (exampleSealing "attempt-1").2 = .ok (exampleDenominator 5 1) ∧
      (exampleCosts "attempt-1").db.denominator? "campaign-1" = none ∧
      exactOutstanding (costsOf (exampleCosts "attempt-1").db.receipts "campaign-1") = 12 := by
    decide +kernel
  obtain ⟨hseal, hfresh, houtstanding⟩ := hrun
  refine ⟨_, _, _, exampleCosts_reachable "attempt-1", Transactions.eq_ok_of_run hseal, hfresh, fun h => ?_⟩
  have heq := h.outstanding
  rw [houtstanding] at heq
  exact absurd heq (by decide)

end Example

end KairosPersistence
