import KairosPersistence.Locking
import KairosPersistence.OperatorCommands
import KairosPersistence.Runs

/-!
Processes that command the operator latch, bind decisions to it and dispatch
their entries. Each takes the advisory lock of the scope: a dispatch from before
its claim until its body has ended, the others for one transaction.
-/

namespace KairosPersistence

structure OperatorCall where
  decision : OperatorDecision
  scope : CanaryScope
  effectId : String

inductive OperatorPhase where
  | idle
  | waiting (call : OperatorCall)
  | locked (call : OperatorCall)
  | claimed (call : OperatorCall) (claim : OperatorClaim) (binding : OperatorAdmission)
  | dispatching (call : OperatorCall) (claim : OperatorClaim)
  | unlocking (scope : CanaryScope)
  | commanding (command : OperatorCommand)
  | binding (decision : OperatorDecision) (scope : CanaryScope) (expectedVersion : ℕ)

/-- The lock that a process holds. -/
def OperatorPhase.Holds : OperatorPhase → String → Prop
  | .idle, _ | .waiting _, _ => False
  | .locked call, key | .claimed call _ _, key | .dispatching call _, key => scopeKey call.scope = key
  | .unlocking scope, key | .binding _ scope _, key => scopeKey scope = key
  | .commanding command, key => scopeKey command.scope = key

/-- What a decision was bound to. -/
structure BoundDecision where
  decision : OperatorDecision
  scope : CanaryScope
  binding : OperatorAdmission

/-- The binding that was returned is stored, and is that of the command under whose version it was made. -/
def BoundDecision.Kept (tables : OperatorTables) (b : BoundDecision) : Prop :=
  (∃ row ∈ tables.admissions, row.Of b.binding) ∧
    ∃ row ∈ tables.commands, ∃ command previousSha256, row.Of command previousSha256 ∧
      row.scopeKey = scopeKey b.scope ∧ row.version = b.binding.controlVersion ∧
      ∃ decisionId tradeId decisionSha256 sessionId expiresAtMs,
        operatorDecision b.decision b.scope = .ok (decisionId, tradeId, decisionSha256) ∧
        command.sessionId = some sessionId ∧ command.expiresAtMs = some expiresAtMs ∧
        b.binding = admissionOf b.scope b.decision decisionId tradeId decisionSha256 row.version sessionId expiresAtMs

/-- The tables, the processes, and, the last one first, the claims under which a body was entered and the
bindings that were returned. -/
structure OperatorSystem (ι : Type) where
  tables : OperatorTables
  processes : ι → OperatorPhase
  entered : List OperatorClaim
  bound : List BoundDecision

namespace OperatorSystem

variable {ι : Type} [DecidableEq ι]

def setProcess (s : OperatorSystem ι) (p : ι) (x : OperatorPhase) : OperatorSystem ι :=
  { s with processes := Function.update s.processes p x }

def LockFree (s : OperatorSystem ι) (scope : CanaryScope) : Prop :=
  Locking.Free OperatorPhase.Holds s.processes (scopeKey scope)

inductive Step : OperatorSystem ι → OperatorSystem ι → Prop
  -- final_dispatch_guard
  | request {s} (p : ι) (call : OperatorCall) (h : s.processes p = .idle) : Step s (s.setProcess p (.waiting call))
  | acquire {s} (p : ι) {call} (h : s.processes p = .waiting call) (hl : s.LockFree call.scope) :
    Step s (s.setProcess p (.locked call))
  | claim {s} (p : ι) {call env entry tables claim binding} (h : s.processes p = .locked call)
    (hc : claimOperatorDispatch env entry call.decision call.scope call.effectId s.tables =
      .ok (tables, claim, binding)) :
    Step s { s.setProcess p (.claimed call claim binding) with tables := tables }
  | enter {s} (p : ι) {call claim binding} (nowMs : ℤ) (h : s.processes p = .claimed call claim binding)
    (hnow : nowMs < binding.expiresAtMs) :
    Step s { s.setProcess p (.dispatching call claim) with entered := claim :: s.entered }
  | leave {s} (p : ι) {call claim} (h : s.processes p = .dispatching call claim) :
    Step s (s.setProcess p (.unlocking call.scope))
  -- the unlock, a timeout, an error or a crash: the connection gives the lock back
  | release {s} (p : ι) : Step s (s.setProcess p .idle)
  -- apply_command
  | lockCommand {s} (p : ι) (command : OperatorCommand) (h : s.processes p = .idle) (hl : s.LockFree command.scope) :
    Step s (s.setProcess p (.commanding command))
  | commitCommand {s} (p : ι) {command env tables snapshot} (h : s.processes p = .commanding command)
    (hc : applyCommand env command s.tables = .ok (tables, snapshot)) :
    Step s { s.setProcess p .idle with tables := tables }
  -- bind_decision
  | lockBind {s} (p : ι) (decision : OperatorDecision) (scope : CanaryScope) (expectedVersion : ℕ)
    (h : s.processes p = .idle) (hl : s.LockFree scope) :
    Step s (s.setProcess p (.binding decision scope expectedVersion))
  | commitBind {s} (p : ι) {decision scope expectedVersion env tables binding}
    (h : s.processes p = .binding decision scope expectedVersion)
    (hc : bindDecision env decision scope expectedVersion s.tables = .ok (tables, binding)) :
    Step s { s.setProcess p .idle with tables := tables, bound := ⟨decision, scope, binding⟩ :: s.bound }

/-- Empty tables, and no process at work. -/
def Initial (s : OperatorSystem ι) : Prop :=
  (∀ key, s.tables.controls key = none) ∧ s.tables.commands = [] ∧ s.tables.admissions = [] ∧ s.tables.claims = [] ∧
    (∀ p, s.processes p = .idle) ∧ s.entered = [] ∧ s.bound = []

/-- What a process that has claimed knows of the tables. -/
def PhaseOk (tables : OperatorTables) : OperatorPhase → Prop
  | .claimed call claim _ | .dispatching call claim =>
    claim ∈ tables.claims ∧ claim.Live tables call.decision call.scope call.effectId
  | _ => True

structure Invariant (s : OperatorSystem ι) : Prop where
  exclusive : Locking.Exclusive OperatorPhase.Holds s.processes
  logged : s.tables.Logged
  admitted : s.tables.Admitted
  phases : ∀ p, PhaseOk s.tables (s.processes p)
  kept : ∀ b ∈ s.bound, b.Kept s.tables
  entered_nodup : s.entered.Nodup
  entered_subset : s.entered ⊆ s.tables.claims
  pending : ∀ p call claim binding, s.processes p = .claimed call claim binding → claim ∉ s.entered

omit [DecidableEq ι] in
theorem Initial.invariant {s : OperatorSystem ι} (h : Initial s) : Invariant s := by
  obtain ⟨hcontrols, hcommands, hadmissions, hclaims, hidle, hentered, hbound⟩ := h
  constructor
  · refine .of_free fun p k hk => ?_
    rw [hidle p] at hk
    exact hk
  · intro key
    rw [hcontrols key, OperatorTables.logOf, hcommands]
    exact .empty
  · intro row hrow
    rw [hadmissions] at hrow
    cases hrow
  · intro p
    rw [hidle p]
    trivial
  · simp [hbound]
  · rw [hentered]
    exact List.nodup_nil
  · rw [hentered]
    exact List.nil_subset _
  · intro p call claim binding hp
    rw [hidle p] at hp
    cases hp

section Invariance

variable {s t : OperatorSystem ι}

theorem Logged.congr {tables tables' : OperatorTables} (h : tables.Logged) (hcommands : tables'.commands = tables.commands)
    (hcontrols : tables'.controls = tables.controls) : tables'.Logged := by
  intro key
  rw [OperatorTables.logOf, hcommands, hcontrols]
  exact h key

theorem Live.advance {tables tables' : OperatorTables} {claim : OperatorClaim} {call : OperatorCall}
    (h : claim.Live tables call.decision call.scope call.effectId) (hadmissions : tables.admissions ⊆ tables'.admissions)
    (hcontrols : tables'.controls claim.scopeKey = tables.controls claim.scopeKey) :
    claim.Live tables' call.decision call.scope call.effectId := by
  obtain ⟨row, hrow, hadmission⟩ := h.admission
  refine ⟨h.effectId, h.decisionId, h.scopeKey, ⟨row, hadmissions hrow, hadmission⟩, ?_⟩
  rw [hcontrols]
  exact h.armed

theorem PhaseOk.advance {tables tables' : OperatorTables} {x : OperatorPhase} (hx : PhaseOk tables x)
    (hclaims : tables.claims ⊆ tables'.claims) (hadmissions : tables.admissions ⊆ tables'.admissions)
    (hcontrols : ∀ key, x.Holds key → tables'.controls key = tables.controls key) : PhaseOk tables' x := by
  cases x with
  | idle | waiting | locked | unlocking | commanding | binding => trivial
  | claimed call claim | dispatching call claim =>
    obtain ⟨hmem, hlive⟩ := hx
    exact ⟨hclaims hmem, Live.advance hlive hadmissions (hcontrols claim.scopeKey hlive.scopeKey.symm)⟩

theorem BoundDecision.Kept.advance {tables tables' : OperatorTables} {b : BoundDecision} (h : b.Kept tables)
    (hadmissions : tables.admissions ⊆ tables'.admissions) (hcommands : tables.commands ⊆ tables'.commands) :
    b.Kept tables' := by
  obtain ⟨⟨admission, hadmission, hof⟩, row, hrow, hrest⟩ := h
  exact ⟨⟨admission, hadmissions hadmission, hof⟩, row, hcommands hrow, hrest⟩

/-- What a bind returns is of the command that armed the latch. -/
theorem Bound.kept {tables tables' : OperatorTables} {decision : OperatorDecision} {scope : CanaryScope} {version : ℕ}
    {control : ControlRow} {binding : OperatorAdmission} (hlog : tables.Logged)
    (h : Bound tables decision scope version control binding) (hadmission : ∃ row ∈ tables'.admissions, row.Of binding)
    (hcommands : tables'.commands = tables.commands) : BoundDecision.Kept tables' ⟨decision, scope, binding⟩ := by
  obtain ⟨decisionId, tradeId, decisionSha256, sessionId, expiresAtMs, hdecision, hsession, hexpires, rfl⟩ := h.binds
  have hscopeLog := hlog (scopeKey scope)
  rw [h.controls] at hscopeLog
  obtain ⟨row, hrow, command, previousSha256, hof, hlatched, -, hkey⟩ := hscopeLog.head
  refine ⟨hadmission, row, ?_, command, previousSha256, hof, hkey, hlatched.version.symm, decisionId, tradeId,
    decisionSha256, sessionId, expiresAtMs, hdecision, ?_, ?_, ?_⟩
  · rw [hcommands]
    exact (List.mem_filter.mp hrow).1
  · rw [← hlatched.sessionId, hsession]
  · rw [← hlatched.expiresAtMs, hexpires]
  · rw [hlatched.version]

/-- One process moves; the latches that it changes are those whose lock it holds. -/
theorem Invariant.move (hs : Invariant s) {p : ι} {x : OperatorPhase} {tables : OperatorTables}
    {entered : List OperatorClaim} {bound : List BoundDecision} (hlogged : tables.Logged) (hadmitted : tables.Admitted)
    (hclaims : s.tables.claims ⊆ tables.claims) (hadmissions : s.tables.admissions ⊆ tables.admissions)
    (hcontrols : ∀ key, ¬(s.processes p).Holds key → tables.controls key = s.tables.controls key)
    (hx : PhaseOk tables x)
    (hl : ∀ k, x.Holds k → Locking.Free OperatorPhase.Holds s.processes k ∨ (s.processes p).Holds k)
    (hkept : ∀ b ∈ bound, b.Kept tables) (hnodup : entered.Nodup) (hsubset : entered ⊆ tables.claims)
    (hpending : ∀ call claim binding, x = .claimed call claim binding → claim ∉ entered)
    (hothers : ∀ q ≠ p, ∀ call claim binding, s.processes q = .claimed call claim binding → claim ∉ entered) :
    Invariant ⟨tables, Function.update s.processes p x, entered, bound⟩ where
  exclusive := hs.exclusive.update hl
  logged := hlogged
  admitted := hadmitted
  phases := (Function.forall_update_iff s.processes fun _ => PhaseOk tables).mpr ⟨hx, fun q hq =>
    PhaseOk.advance (hs.phases q) hclaims hadmissions fun key hkey =>
      hcontrols key fun hheld => hs.exclusive.other hheld hq hkey⟩
  kept := hkept
  entered_nodup := hnodup
  entered_subset := hsubset
  pending q call claim binding hq := by
    by_cases hqp : q = p
    · subst hqp
      exact hpending call claim binding ((Function.update_self ..).symm.trans hq)
    · exact hothers q hqp call claim binding ((Function.update_of_ne hqp ..).symm.trans hq)

theorem Invariant.setProcess (hs : Invariant s) {p : ι} {x : OperatorPhase} (hx : PhaseOk s.tables x)
    (hl : ∀ k, x.Holds k → Locking.Free OperatorPhase.Holds s.processes k ∨ (s.processes p).Holds k)
    (hpending : ∀ call claim binding, x ≠ .claimed call claim binding) : Invariant (s.setProcess p x) :=
  hs.move hs.logged hs.admitted (List.Subset.refl _) (List.Subset.refl _) (fun _ _ => rfl) hx hl hs.kept
    hs.entered_nodup hs.entered_subset (fun call claim binding h => absurd h (hpending call claim binding))
    fun q _ => hs.pending q

theorem Invariant.step (hs : Invariant s) (h : Step s t) : Invariant t := by
  cases h with
  | request p call h => exact hs.setProcess trivial (fun k hk => hk.elim) (by simp)
  | acquire p h hl => exact hs.setProcess trivial (fun k hk => Or.inl (hk ▸ hl)) (by simp)
  | @claim p call env entry tables claim binding h hc =>
    obtain ⟨hlive, hclaims, hnew, hcommands, hcontrols, hadmissions⟩ := claimOperatorDispatch_ok hc
    have hsubset : s.tables.claims ⊆ tables.claims := by
      rw [hclaims]
      exact List.subset_cons_self _ _
    have hmem : claim ∈ tables.claims := by
      rw [hclaims]
      exact List.mem_cons_self
    have hadmitted : tables.Admitted := by
      intro row hrow
      rw [hadmissions] at hrow
      exact hs.admitted row hrow
    have hlive' := @Live.advance _ tables _ call hlive (by rw [hadmissions]; exact List.Subset.refl _)
      (congrFun hcontrols _)
    refine hs.move (Logged.congr hs.logged hcommands hcontrols) hadmitted hsubset
      (by rw [hadmissions]; exact List.Subset.refl _) (fun key _ => congrFun hcontrols key) ⟨hmem, hlive'⟩
      (fun k hk => Or.inr (by rw [h]; exact hk)) (fun b hb => ?_) hs.entered_nodup
      (List.Subset.trans hs.entered_subset hsubset) ?_ fun q _ => hs.pending q
    · exact BoundDecision.Kept.advance (hs.kept b hb) (by rw [hadmissions]; exact List.Subset.refl _)
        (by rw [hcommands]; exact List.Subset.refl _)
    · rintro _ _ _ ⟨⟩
      exact fun hm => hnew (hs.entered_subset hm)
  | @enter p call claim binding nowMs h hnow =>
    have hok := hs.phases p
    rw [h] at hok
    obtain ⟨hmem, hlive⟩ := hok
    have hholds : (s.processes p).Holds claim.scopeKey := by
      rw [h]
      exact hlive.scopeKey.symm
    refine hs.move hs.logged hs.admitted (List.Subset.refl _) (List.Subset.refl _) (fun _ _ => rfl) ⟨hmem, hlive⟩
      (fun k hk => Or.inr (by rw [h]; exact hk)) hs.kept (List.nodup_cons.mpr ⟨hs.pending p _ _ _ h, hs.entered_nodup⟩)
      (List.cons_subset.mpr ⟨hmem, hs.entered_subset⟩) (by simp) fun q hq call' claim' binding' hq' hm => ?_
    rcases List.mem_cons.mp hm with rfl | hm
    · -- another process with this claim would hold the same lock
      have hok' := hs.phases q
      rw [hq'] at hok'
      refine hs.exclusive.other hholds hq ?_
      rw [hq']
      exact hok'.2.scopeKey.symm
    · exact hs.pending q _ _ _ hq' hm
  | leave p h => exact hs.setProcess trivial (fun k hk => Or.inr (by rw [h]; exact hk)) (by simp)
  | release p => exact hs.setProcess trivial (fun k hk => hk.elim) (by simp)
  | lockCommand p command h hl => exact hs.setProcess trivial (fun k hk => Or.inl (hk ▸ hl)) (by simp)
  | @commitCommand p command env tables snapshot h hc =>
    rcases applyCommand_ok hs.logged hc with ⟨rfl, -⟩ | ⟨-, -, row, control, hrecorded⟩
    · exact hs.setProcess trivial (fun k hk => hk.elim) (by simp)
    have hadmitted : tables.Admitted := by
      intro row hrow
      rw [hrecorded.admissions] at hrow
      exact hs.admitted row hrow
    have hclaims : s.tables.claims ⊆ tables.claims := by
      rw [hrecorded.claims]
      exact List.Subset.refl _
    have hadmissions : s.tables.admissions ⊆ tables.admissions := by
      rw [hrecorded.admissions]
      exact List.Subset.refl _
    refine hs.move (hrecorded.logged hs.logged) hadmitted hclaims hadmissions (fun key hkey => ?_) trivial
      (fun k hk => hk.elim) (fun b hb => ?_) hs.entered_nodup (List.Subset.trans hs.entered_subset hclaims) (by simp)
      fun q _ => hs.pending q
    · rw [h] at hkey
      rw [hrecorded.controls]
      exact Function.update_of_ne (Ne.symm hkey) ..
    · refine BoundDecision.Kept.advance (hs.kept b hb) hadmissions ?_
      rw [hrecorded.commands]
      exact List.subset_cons_self _ _
  | lockBind p decision scope expectedVersion h hl =>
    exact hs.setProcess trivial (fun k hk => Or.inl (hk ▸ hl)) (by simp)
  | @commitBind p decision scope expectedVersion env tables binding h hc =>
    obtain ⟨⟨control, hbound⟩, hkeep⟩ := bindDecision_ok hc
    obtain ⟨hcommands, hcontrols, hclaims, hadmitted, hadmissions, hstored⟩ :=
      keepAdmission_ok hs.admitted hbound.valid (hbound.columns hs.logged) hkeep
    have hsubset : s.tables.claims ⊆ tables.claims := by
      rw [hclaims]
      exact List.Subset.refl _
    refine hs.move (Logged.congr hs.logged hcommands hcontrols) hadmitted hsubset hadmissions
      (fun key _ => congrFun hcontrols key) trivial (fun k hk => hk.elim) ?_ hs.entered_nodup
      (List.Subset.trans hs.entered_subset hsubset) (by simp) fun q _ => hs.pending q
    refine List.forall_mem_cons.mpr ⟨Bound.kept hs.logged hbound hstored hcommands, fun b hb => ?_⟩
    refine BoundDecision.Kept.advance (hs.kept b hb) hadmissions ?_
    rw [hcommands]
    exact List.Subset.refl _

theorem reachable_invariant (hs : Runs.Reachable Initial Step s) : Invariant s :=
  hs.invariant (fun _ h => h.invariant) fun _ _ hs h => hs.step h

end Invariance

end OperatorSystem

end KairosPersistence
