import KairosPersistence.OperatorProgress

/-!
The fence of the operator: what a commanded latch means for the dispatches of
its scope.
-/

namespace KairosPersistence

open Relation (ReflTransGen)

namespace OperatorSystem

variable {ι : Type} [DecidableEq ι] {s t : OperatorSystem ι}

/-- Claims are only ever added. -/
theorem claims_step (hs : Invariant s) (h : Step s t) : s.tables.claims <:+ t.tables.claims := by
  cases h with
  | request | acquire | enter | leave | release | lockCommand | lockBind => exact List.suffix_refl _
  | claim p h hc =>
    rw [(claimOperatorDispatch_ok hc).2.1]
    exact List.suffix_cons _ _
  | commitCommand p h hc =>
    rcases applyCommand_ok hs.logged hc with ⟨rfl, -⟩ | ⟨-, -, row, control, hrecorded⟩
    · exact List.suffix_refl _
    · rw [hrecorded.claims]
  | commitBind p h hc =>
    obtain ⟨⟨control, hbound⟩, hkeep⟩ := bindDecision_ok hc
    rw [(keepAdmission_ok hs.admitted hbound.valid (hbound.columns hs.logged) hkeep).2.2.1]

/-- A command is logged by a process that holds the lock of its scope. -/
theorem command_step (hs : Invariant s) (h : Step s t) {row : CommandRow}
    (hrow : t.tables.commands = row :: s.tables.commands) : ∃ p, (s.processes p).Holds row.scopeKey ∧
      ∀ call claim, s.processes p ≠ .dispatching call claim := by
  cases h with
  | request | acquire | enter | leave | release | lockCommand | lockBind =>
    exact absurd hrow (List.cons_ne_self _ _).symm
  | claim p h hc =>
    exact absurd ((claimOperatorDispatch_ok hc).2.2.2.1.symm.trans hrow) (List.cons_ne_self _ _).symm
  | commitCommand p h hc =>
    rcases applyCommand_ok hs.logged hc with ⟨rfl, -⟩ | ⟨-, -, logged, control, hrecorded⟩
    · exact absurd hrow (List.cons_ne_self _ _).symm
    · obtain ⟨rfl, -⟩ := List.cons.inj (hrecorded.commands.symm.trans hrow)
      refine ⟨p, ?_, fun call claim hp => ?_⟩
      · rw [h]
        exact hrecorded.stored.scopeKey.symm
      · rw [h] at hp
        cases hp
  | commitBind p h hc =>
    obtain ⟨⟨control, hbound⟩, hkeep⟩ := bindDecision_ok hc
    have hcommands := (keepAdmission_ok hs.admitted hbound.valid (hbound.columns hs.logged) hkeep).1
    exact absurd (hcommands.symm.trans hrow) (List.cons_ne_self _ _).symm

/-- A body is entered under a live claim, which is of the last version that is logged. -/
theorem enter_step (hs : Invariant s) (h : Step s t) {claim : OperatorClaim} (henter : t.entered = claim :: s.entered) :
    (∃ call : OperatorCall, claim.Live s.tables call.decision call.scope call.effectId) ∧
      ∀ row ∈ s.tables.commands, row.scopeKey = claim.scopeKey → row.version ≤ claim.version := by
  cases h with
  | request | acquire | claim | leave | release | lockCommand | commitCommand | lockBind | commitBind =>
    exact absurd henter (List.cons_ne_self _ _).symm
  | @enter p call claimed binding nowMs hp =>
    obtain ⟨hsame, -⟩ : claimed = claim ∧ _ := List.cons.inj henter
    subst hsame
    have hok := hs.phases p
    rw [hp] at hok
    refine ⟨⟨call, hok.2⟩, fun row hrow hkey => ?_⟩
    obtain ⟨control, hcontrol, -, hversion⟩ := hok.2.armed
    have hlog := hs.logged claimed.scopeKey
    have hle := hlog.version_le (List.mem_filter.mpr ⟨hrow, decide_eq_true hkey⟩)
    rw [hcontrol] at hle
    exact hle.trans_eq hversion

/-- The operator fence. Every effect and every decision is claimed at most once, and claims are never taken back;
a body runs under a claim of its own, while the latch of its scope is armed at the version at which its decision
was admitted; no body starts under a version older than a logged command's; no command of its scope is logged
while it runs. -/
theorem operator_dispatch_fence (hs : Runs.Reachable Initial Step s) :
    (s.tables.claims.map (·.effectId)).Nodup ∧ (s.tables.claims.map (·.decisionId)).Nodup ∧
    s.entered.Nodup ∧ s.entered ⊆ s.tables.claims ∧
    (∀ t, ReflTransGen Step s t → s.tables.claims <:+ t.tables.claims) ∧
    (∀ p call claim, s.processes p = .dispatching call claim → claim ∈ s.tables.claims ∧
      claim.Live s.tables call.decision call.scope call.effectId) ∧
    ∀ t, Step s t →
      (∀ claim, t.entered = claim :: s.entered →
        (∃ call : OperatorCall, claim.Live s.tables call.decision call.scope call.effectId) ∧
        ∀ row ∈ s.tables.commands, row.scopeKey = claim.scopeKey → row.version ≤ claim.version) ∧
      ∀ row, t.tables.commands = row :: s.tables.commands → ∀ p call claim,
        s.processes p = .dispatching call claim → scopeKey call.scope ≠ row.scopeKey := by
  have hinv := reachable_invariant hs
  refine ⟨s.tables.unique_effects, s.tables.unique_decisions, hinv.entered_nodup, hinv.entered_subset,
    fun t ht => ?_, fun p call claim hp => ?_, fun t h => ⟨fun claim henter => enter_step hinv h henter, ?_⟩⟩
  · exact @Runs.run_related _ Invariant Step s t (fun s t => s.tables.claims <:+ t.tables.claims)
      (fun _ => List.suffix_refl _) (fun _ _ _ => List.IsSuffix.trans) (fun _ _ hi h => hi.step h)
      (fun _ _ hi h => claims_step hi h) ht hinv
  · have hok := hinv.phases p
    rw [hp] at hok
    exact hok
  · intro row hrow p call claim hp hkey
    obtain ⟨q, hq, hnone⟩ := command_step hinv h hrow
    have hholds : (s.processes p).Holds row.scopeKey := by
      rw [hp]
      exact hkey
    obtain rfl := hinv.exclusive p q _ hholds hq
    exact hnone call claim hp

theorem operator_dispatch_fence_example : ∃ (s : OperatorSystem Unit) (claim : OperatorClaim),
    s.processes () = .dispatching exampleCall claim ∧ claim ∈ s.tables.claims ∧
    claim.Live s.tables exampleDecision exampleScope (digestEffect zeroSha) := by
  obtain ⟨s, hs, -, claim, hclaim⟩ := exampleRun
  obtain ⟨-, -, -, -, -, hrunning, -⟩ := operator_dispatch_fence hs
  obtain ⟨hmem, hlive⟩ := hrunning () exampleCall claim hclaim
  exact ⟨s, claim, hclaim, hmem, hlive⟩

end OperatorSystem

end KairosPersistence
