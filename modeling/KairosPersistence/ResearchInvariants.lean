import KairosPersistence.ResearchRuns

/-!
What every run keeps of a frozen campaign: its windows and arms, that its
samples fit them, and that the samples of a sealed one are complete.
-/

namespace KairosPersistence

open PythonText Relation
open Transactions (run_spec)

variable (contracts : ResearchContracts)

/-- A roster as it was frozen, in a transaction before `n`. -/
structure ScheduleRow.Frozen (n : ℕ) (s : ResearchDatabase) (row : ScheduleRow) : Prop where
  campaign : row.payload.campaignId = row.campaignId
  digest : row.payload.scheduleDigest = row.scheduleDigest
  strategy : row.payload.strategyId = row.strategyId ∧ row.payload.strategyRevision = row.strategyRevision
  count : row.windowCount = row.payload.windows.length
  sampleIds : (row.payload.windows.map (·.sampleId)).Nodup
  windows : s.windows.filter (·.campaignId = row.campaignId) = windowRows row.campaignId row.payload.windows
  committed : row.freezeTxid < n

/-- A protocol as it was frozen, in a transaction before `n` and after that of its roster. -/
structure ProtocolRow.Frozen (n : ℕ) (s : ResearchDatabase) (row : ProtocolRow) : Prop where
  campaign : row.payload.campaignId = row.campaignId
  digest : row.payload.protocolDigest = row.protocolDigest
  arms : row.armDigests = KairosPersistence.armDigests contracts row.payload
  threeArms : row.payload.ThreeArms
  roster : ∃ roster ∈ s.schedules, roster.campaignId = row.campaignId ∧ roster.scheduleDigest = row.scheduleDigest ∧
    roster.freezeTxid < row.freezeTxid
  committed : row.freezeTxid < n

/-- A sample of a scheduled campaign fits what was frozen before it. -/
def SampleRow.Frozen (s : ResearchDatabase) (row : SampleRow) : Prop :=
  ∀ roster ∈ s.schedules, roster.campaignId = row.sample.campaignId →
    roster.frozenAt < row.recordedAt ∧ ∃ protocol ∈ s.protocols, protocol.campaignId = row.sample.campaignId ∧
      protocol.freezeTxid < row.xmin ∧ ∃ window ∈ roster.payload.windows, row.sample.Fits roster protocol window

/-- The samples of a sealed campaign are as many as its roster has. -/
def SealRow.Complete (s : ResearchDatabase) (row : SealRow) : Prop :=
  ∃ roster ∈ s.schedules, roster.campaignId = row.coverage.campaignId ∧
    row.coverage.scheduleDigest = roster.scheduleDigest ∧
    (s.samplesOf row.coverage.campaignId).length = roster.windowCount * 3 ∧
    ∃ protocol ∈ s.protocols, protocol.campaignId = row.coverage.campaignId ∧
      row.coverage.candidateProtocolDigest = protocol.protocolDigest

def SampleRow.key (row : SampleRow) : String × String × String :=
  (row.sample.campaignId, row.sample.armId, row.sample.sampleId)

structure ResearchDatabase.Consistent (n : ℕ) (s : ResearchDatabase) : Prop where
  scheduleIds : (s.schedules.map (·.campaignId)).Nodup
  schedules : ∀ row ∈ s.schedules, row.Frozen n s
  windows : ∀ row ∈ s.windows, ∃ roster ∈ s.schedules, roster.campaignId = row.campaignId
  protocolIds : (s.protocols.map (·.campaignId)).Nodup
  protocols : ∀ row ∈ s.protocols, row.Frozen contracts n s
  sampleKeys : (s.samples.map SampleRow.key).Nodup
  samples : ∀ row ∈ s.samples, row.xmin < n ∧ row.Frozen s
  lineage : ∀ a ∈ s.samples, ∀ b ∈ s.samples, (∃ roster ∈ s.schedules, roster.campaignId = a.sample.campaignId) →
    b.sample.campaignId = a.sample.campaignId ∧ b.sample.sampleId = a.sample.sampleId →
    a.sample.toBaselineLineage = b.sample.toBaselineLineage
  sealIds : (s.seals.map (·.coverage.campaignId)).Nodup
  seals : ∀ row ∈ s.seals, row.Complete s

variable {contracts} {n m : ℕ} {s t : ResearchDatabase}

theorem ResearchDatabase.Consistent.start : ResearchDatabase.empty.Consistent contracts n := by
  constructor <;> simp [ResearchDatabase.empty]

theorem ResearchDatabase.Consistent.mono (h : s.Consistent contracts n) (hnm : n ≤ m) : s.Consistent contracts m where
  scheduleIds := h.scheduleIds
  schedules row hrow := { h.schedules row hrow with committed := (h.schedules row hrow).committed.trans_le hnm }
  windows := h.windows
  protocolIds := h.protocolIds
  protocols row hrow := { h.protocols row hrow with committed := (h.protocols row hrow).committed.trans_le hnm }
  sampleKeys := h.sampleKeys
  samples row hrow := ⟨(h.samples row hrow).1.trans_le hnm, (h.samples row hrow).2⟩
  lineage := h.lineage
  sealIds := h.sealIds
  seals := h.seals

/-- Consistency is about the results only. -/
theorem ResearchDatabase.Consistent.congr (h : s.Consistent contracts n) (hst : s.SameResults t) :
    t.Consistent contracts n := by
  obtain ⟨hschedules, hwindows, hprotocols, hsamples, hseals⟩ := hst
  constructor
  · rw [hschedules]
    exact h.scheduleIds
  · intro row hrow
    have hfrozen := h.schedules row (hschedules ▸ hrow)
    exact { hfrozen with windows := hwindows ▸ hfrozen.windows }
  · rw [hwindows, hschedules]
    exact h.windows
  · rw [hprotocols]
    exact h.protocolIds
  · intro row hrow
    have hfrozen := h.protocols row (hprotocols ▸ hrow)
    exact { hfrozen with roster := hschedules ▸ hfrozen.roster }
  · rw [hsamples]
    exact h.sampleKeys
  · rw [hsamples]
    intro row hrow
    refine ⟨(h.samples row hrow).1, ?_⟩
    unfold SampleRow.Frozen
    rw [hschedules, hprotocols]
    exact (h.samples row hrow).2
  · rw [hsamples, hschedules]
    exact h.lineage
  · rw [hseals]
    exact h.sealIds
  · rw [hseals]
    intro row hrow
    unfold SealRow.Complete ResearchDatabase.samplesOf
    rw [hschedules, hprotocols, hsamples]
    exact h.seals row hrow

section Lookups

variable (h : s.Consistent contracts n)
include h

theorem ResearchDatabase.Consistent.schedule?_eq {roster : ScheduleRow} (hroster : roster ∈ s.schedules) :
    s.schedule? roster.campaignId = some roster := KeyedRows.find?_eq h.scheduleIds hroster

theorem ResearchDatabase.Consistent.protocol?_eq {protocol : ProtocolRow} (hprotocol : protocol ∈ s.protocols) :
    s.protocol? protocol.campaignId = some protocol := KeyedRows.find?_eq h.protocolIds hprotocol

/-- A stored window is one of the roster of its campaign. -/
theorem ResearchDatabase.Consistent.window_mem {roster : ScheduleRow} (hroster : roster ∈ s.schedules) {row : WindowRow}
    (hrow : row ∈ s.windows) (hcampaign : row.campaignId = roster.campaignId) :
    row.toObservationWindow ∈ roster.payload.windows := by
  have hmem : row ∈ s.windows.filter (·.campaignId = roster.campaignId) :=
    List.mem_filter.mpr ⟨hrow, decide_eq_true hcampaign⟩
  rw [(h.schedules roster hroster).windows, windowRows, List.mem_reverse, List.mem_map] at hmem
  obtain ⟨window, hwindow, rfl⟩ := hmem
  exact hwindow

end Lookups

section Steps

variable (h : s.Consistent contracts s.txid)
include h

theorem ResearchDatabase.Consistent.registerSchedule {schedule : ObservationSchedule} {now : Timestamp} {registered : Bool}
    (hrun : registerSchedule contracts schedule now s = .ok (t, registered)) : t.Consistent contracts (s.txid + 1) := by
  have hmono := h.mono (Nat.le_succ s.txid)
  rcases registerSchedule_ok hrun with rfl | ⟨hnone, hsamples, hnodup, row, hcampaign, hdigest, hid, hrevision, hcount,
    hpayload, htxid, rfl⟩
  · exact hmono
  have hnew := ResearchDatabase.schedule?_eq_none.mp hnone
  -- the campaign has no windows and no samples yet
  have hnoWindows : ∀ w ∈ s.windows, w.campaignId ≠ schedule.campaignId := by
    intro w hw heq
    obtain ⟨roster, hroster, hrosterId⟩ := h.windows w hw
    exact hnew roster hroster (hrosterId.trans heq)
  have hnoSamples : ∀ r ∈ s.samples, r.sample.campaignId ≠ schedule.campaignId := by
    intro r hr heq
    have hmem : r ∈ s.samplesOf schedule.campaignId := List.mem_filter.mpr ⟨hr, decide_eq_true heq⟩
    rw [hsamples] at hmem
    exact List.not_mem_nil hmem
  have hrows : ∀ w ∈ windowRows schedule.campaignId schedule.windows, w.campaignId = schedule.campaignId := by
    intro w hw
    rw [windowRows, List.mem_reverse, List.mem_map] at hw
    obtain ⟨window, -, rfl⟩ := hw
    rfl
  constructor
  · exact KeyedRows.nodup_cons h.scheduleIds fun r hr => hcampaign.symm ▸ hnew r hr
  · intro r hr
    rcases List.mem_cons.mp hr with rfl | hr
    · refine ⟨?_, ?_, ?_, ?_, ?_, ?_, ?_⟩
      · rw [hpayload, hcampaign]
      · rw [hpayload, hdigest]
      · rw [hpayload, hid, hrevision]
        exact ⟨rfl, rfl⟩
      · rw [hpayload, hcount]
      · rw [hpayload]
        exact hnodup
      · dsimp only
        rw [List.filter_append, hpayload, hcampaign, List.filter_eq_self.mpr fun w hw => decide_eq_true (hrows w hw),
          List.filter_eq_nil_iff.mpr fun w hw => by simpa using hnoWindows w hw, List.append_nil]
      · rw [htxid]
        exact Nat.lt_succ_self _
    · have hfrozen := hmono.schedules r hr
      refine { hfrozen with windows := ?_ }
      dsimp only
      rw [List.filter_append, List.filter_eq_nil_iff.mpr, List.nil_append, hfrozen.windows]
      intro w hw
      simpa [hrows w hw] using (hnew r hr).symm
  · intro w hw
    rcases List.mem_append.mp hw with hw | hw
    · exact ⟨row, List.mem_cons_self, hcampaign.trans (hrows w hw).symm⟩
    · obtain ⟨roster, hroster, heq⟩ := h.windows w hw
      exact ⟨roster, List.mem_cons_of_mem _ hroster, heq⟩
  · exact h.protocolIds
  · intro p hp
    have hfrozen := hmono.protocols p hp
    obtain ⟨roster, hroster, hrest⟩ := hfrozen.roster
    exact { hfrozen with roster := ⟨roster, List.mem_cons_of_mem _ hroster, hrest⟩ }
  · exact h.sampleKeys
  · intro r hr
    refine ⟨(hmono.samples r hr).1, fun roster hroster heq => ?_⟩
    rcases List.mem_cons.mp hroster with rfl | hroster
    · exact absurd (heq.symm.trans hcampaign) (hnoSamples r hr)
    · exact (h.samples r hr).2 roster hroster heq
  · rintro a ha b hb ⟨roster, hroster, heq⟩ hsame
    rcases List.mem_cons.mp hroster with rfl | hroster
    · exact absurd (heq.symm.trans hcampaign) (hnoSamples a ha)
    · exact h.lineage a ha b hb ⟨roster, hroster, heq⟩ hsame
  · exact h.sealIds
  · intro r hr
    obtain ⟨roster, hroster, hrest⟩ := h.seals r hr
    exact ⟨roster, List.mem_cons_of_mem _ hroster, hrest⟩

theorem ResearchDatabase.Consistent.registerProtocol {protocol : CandidateProtocol} {registered : Bool}
    (hrun : registerProtocol contracts protocol s = .ok (t, registered)) : t.Consistent contracts (s.txid + 1) := by
  have hmono := h.mono (Nat.le_succ s.txid)
  rcases registerProtocol_ok hrun with rfl | ⟨hnone, hthree, ⟨roster, hroster, hdigest, hcommitted⟩, row, hcampaign,
    hscheduleDigest, hprotocolDigest, harms, hpayload, htxid, rfl⟩
  · exact hmono
  obtain ⟨hmem, hrosterId⟩ := ResearchDatabase.schedule?_mem hroster
  have hearlier : roster.freezeTxid < s.txid := (h.schedules roster hmem).committed
  constructor
  · exact h.scheduleIds
  · exact fun r hr => { hmono.schedules r hr with }
  · exact h.windows
  · exact KeyedRows.nodup_cons h.protocolIds fun p hp =>
      hcampaign.symm ▸ ResearchDatabase.protocol?_eq_none.mp hnone p hp
  · intro p hp
    rcases List.mem_cons.mp hp with rfl | hp
    · refine ⟨?_, ?_, ?_, ?_, ⟨roster, hmem, ?_, ?_, ?_⟩, ?_⟩
      · rw [hpayload, hcampaign]
      · rw [hpayload, hprotocolDigest]
      · rw [hpayload, harms]
      · rw [hpayload]
        exact hthree
      · rw [hcampaign, hrosterId]
      · rw [hscheduleDigest, hdigest]
      · rw [htxid]
        exact hearlier
      · rw [htxid]
        exact Nat.lt_succ_self _
    · exact { hmono.protocols p hp with }
  · exact h.sampleKeys
  · intro r hr
    refine ⟨(hmono.samples r hr).1, fun roster hroster heq => ?_⟩
    obtain ⟨hrecorded, protocol, hprotocol, hrest⟩ := (h.samples r hr).2 roster hroster heq
    exact ⟨hrecorded, protocol, List.mem_cons_of_mem _ hprotocol, hrest⟩
  · exact h.lineage
  · exact h.sealIds
  · intro r hr
    obtain ⟨roster, hroster, hid, hdigest, hlength, protocol, hprotocol, hrest⟩ := h.seals r hr
    exact ⟨roster, hroster, hid, hdigest, hlength, protocol, List.mem_cons_of_mem _ hprotocol, hrest⟩

theorem ResearchDatabase.Consistent.recordSample {sample : DecisionSample} {now : Timestamp} {recorded : Bool}
    (hrun : recordSample contracts sample now s = .ok (t, recorded)) : t.Consistent contracts (s.txid + 1) := by
  have hmono := h.mono (Nat.le_succ s.txid)
  rcases recordSample_ok hrun with rfl | ⟨hguard, hunique, rfl⟩
  · exact hmono
  constructor
  · exact h.scheduleIds
  · exact fun r hr => { hmono.schedules r hr with }
  · exact h.windows
  · exact h.protocolIds
  · exact fun p hp => { hmono.protocols p hp with }
  · exact KeyedRows.nodup_cons h.sampleKeys fun r hr heq => hunique r hr (Or.inr heq)
  · intro r hr
    rcases List.mem_cons.mp hr with rfl | hr
    · refine ⟨Nat.lt_succ_self _, fun roster hroster heq => ?_⟩
      obtain ⟨-, hfrozenAt, -, protocol, hprotocol, hcommitted, window, hwindow, hfits⟩ :=
        guardScheduledSample_ok hguard (heq ▸ h.schedule?_eq hroster)
      obtain ⟨hprotocol, hprotocolId⟩ := ResearchDatabase.protocol?_mem hprotocol
      obtain ⟨hwindow, hwindowId, -⟩ := ResearchDatabase.window?_mem hwindow
      have hearlier := (h.protocols protocol hprotocol).committed
      exact ⟨hfrozenAt, protocol, hprotocol, hprotocolId, hearlier, _,
        h.window_mem hroster hwindow (hwindowId.trans heq.symm), hfits⟩
    · exact ⟨(hmono.samples r hr).1, (h.samples r hr).2⟩
  · -- an older sample of the window has the lineage that the guard has compared
    have hprior : ∀ a ∈ s.samples, (∃ roster ∈ s.schedules, roster.campaignId = sample.campaignId) →
        a.sample.campaignId = sample.campaignId ∧ a.sample.sampleId = sample.sampleId →
        a.sample.toBaselineLineage = sample.toBaselineLineage := by
      rintro a ha ⟨roster, hroster, heq⟩ hsame
      exact (guardScheduledSample_ok hguard (heq ▸ h.schedule?_eq hroster)).2.2.1 a ha hsame
    rintro a ha b hb hroster ⟨hcampaign, hid⟩
    rcases List.mem_cons.mp ha with rfl | ha
    · rcases List.mem_cons.mp hb with rfl | hb
      · rfl
      · exact (hprior b hb hroster ⟨hcampaign, hid⟩).symm
    · rcases List.mem_cons.mp hb with rfl | hb
      · exact hprior a ha (hcampaign ▸ hroster) ⟨hcampaign.symm, hid.symm⟩
      · exact h.lineage a ha b hb hroster ⟨hcampaign, hid⟩
  · exact h.sealIds
  · intro r hr
    obtain ⟨roster, hroster, hid, hdigest, hlength, hrest⟩ := h.seals r hr
    refine ⟨roster, hroster, hid, hdigest, ?_, hrest⟩
    -- the guard rejects a sample of a sealed campaign
    have hother : sample.campaignId ≠ r.coverage.campaignId := by
      intro heq
      have hseal := (guardScheduledSample_ok hguard (hid.trans heq.symm ▸ h.schedule?_eq hroster)).1
      exact ResearchDatabase.seal?_eq_none.mp hseal r hr heq.symm
    rw [ResearchDatabase.samplesOf, List.filter_cons_of_neg (by simpa using hother)]
    exact hlength

theorem ResearchDatabase.Consistent.sealCoverage {campaignId : String} {coverage : CoverageSeal}
    (hrun : sealCoverage contracts campaignId s = .ok (t, coverage)) : t.Consistent contracts (s.txid + 1) := by
  have hmono := h.mono (Nat.le_succ s.txid)
  obtain ⟨hseal, roster, protocol, hroster, hprotocol, -, hdigest, hprotocolDigest, hcount, rfl⟩ := sealCoverage_ok hrun
  obtain ⟨hroster, hrosterId⟩ := ResearchDatabase.schedule?_mem hroster
  obtain ⟨hprotocol, hprotocolId⟩ := ResearchDatabase.protocol?_mem hprotocol
  constructor
  · exact h.scheduleIds
  · exact fun r hr => { hmono.schedules r hr with }
  · exact h.windows
  · exact h.protocolIds
  · exact fun p hp => { hmono.protocols p hp with }
  · exact h.sampleKeys
  · exact fun r hr => ⟨(hmono.samples r hr).1, (h.samples r hr).2⟩
  · exact h.lineage
  · exact KeyedRows.nodup_cons h.sealIds fun r hr => ResearchDatabase.seal?_eq_none.mp hseal r hr
  · intro r hr
    rcases List.mem_cons.mp hr with rfl | hr
    · exact ⟨roster, hroster, hrosterId, hdigest, hcount, protocol, hprotocol, hprotocolId, hprotocolDigest⟩
    · exact h.seals r hr

theorem ResearchDatabase.Consistent.rows (call : ResearchCall) (now : Timestamp) :
    (call.rows contracts now s).Consistent contracts (s.txid + 1) := by
  have hmono := h.mono (Nat.le_succ s.txid)
  let kept := ResearchDatabase.Consistent contracts (s.txid + 1)
  cases call with
  | registerSchedule schedule => exact run_spec (p := kept) hmono fun _ _ => h.registerSchedule
  | registerProtocol protocol => exact run_spec (p := kept) hmono fun _ _ => h.registerProtocol
  | recordSample sample => exact run_spec (p := kept) hmono fun _ _ => h.recordSample
  | sealCoverage campaignId => exact run_spec (p := kept) hmono fun _ _ => h.sealCoverage
  | enrollCampaign campaignId =>
    exact run_spec (p := kept) hmono fun _ _ ht => hmono.congr (sameResults_enrollCampaign ht)
  | recordSource receipt => exact run_spec (p := kept) hmono fun _ _ ht => hmono.congr (sameResults_recordSource ht)
  | recordEvaluation receipt =>
    exact run_spec (p := kept) hmono fun _ _ ht => hmono.congr (sameResults_recordEvaluation ht)
  | startAttempt attempt => exact run_spec (p := kept) hmono fun _ _ ht => hmono.congr (sameResults_startAttempt ht)
  | finishAttempt terminal =>
    exact run_spec (p := kept) hmono fun _ _ ht => hmono.congr (sameResults_finishAttempt ht)
  | verifyCampaign campaignId => exact hmono
  | qualifyCoverage campaignId coverage =>
    exact run_spec (p := kept) hmono fun _ _ ht => hmono.congr (qualifyCoverage_ok ht).1

end Steps

theorem ResearchStep.consistent (hstep : ResearchStep contracts s t) (h : s.Consistent contracts s.txid) :
    t.Consistent contracts t.txid := by
  obtain ⟨call, now, rfl⟩ := hstep
  exact (h.rows call now).congr ⟨rfl, rfl, rfl, rfl, rfl⟩

theorem consistent_of_reachable (h : Runs.Reachable (· = .empty) (ResearchStep contracts) s) :
    s.Consistent contracts s.txid := by
  apply @Runs.Reachable.invariant _ _ (fun s => s.Consistent contracts s.txid) _ _ h
  · rintro _ rfl
    exact .start
  · exact fun _ _ hs hstep => hstep.consistent hs

end KairosPersistence
