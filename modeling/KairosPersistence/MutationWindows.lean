import KairosPersistence.MutationBudget

/-!
Processes that reserve mutations under a clock that never goes back. Each holds
the lock of its scope from before it reads the tables until it has committed.
-/

namespace KairosPersistence

open PythonText (Timestamp)
open SlidingWindow (recent Paced)

inductive ReservePhase where
  | idle
  | locked (call : MutationCall)
  | admitted (call : MutationCall) (remaining : ℕ)
  | inserted (call : MutationCall) (remaining : ℕ) (occurredAt : Timestamp)
  | returned (r : MutationReservation)

def ReservePhase.Holds : ReservePhase → BudgetScope → Prop
  | .idle, _ | .returned _, _ => False
  | .locked call, scope | .admitted call _, scope | .inserted call _ _, scope => call.scope = scope

structure MutationSystem (ι : Type) where
  tables : MutationTables
  clock : Timestamp
  processes : ι → ReservePhase

namespace MutationSystem

variable {ι : Type} [DecidableEq ι]

def setProcess (s : MutationSystem ι) (p : ι) (x : ReservePhase) : MutationSystem ι :=
  { s with processes := Function.update s.processes p x }

inductive Step : MutationSystem ι → MutationSystem ι → Prop
  | tick {s : MutationSystem ι} (now : Timestamp) (h : s.clock ≤ now) : Step s { s with clock := now }
  | lock {s : MutationSystem ι} (p : ι) {environment accountId exchange effectId operation compensation capacity
      windowMs compensationReserve call} (h : s.processes p = .idle)
    (hc : mutationCall environment accountId exchange effectId operation compensation capacity windowMs
      compensationReserve = .ok call)
    (hl : Locking.Free ReservePhase.Holds s.processes call.scope) : Step s (s.setProcess p (.locked call))
  | answer {s : MutationSystem ι} (p : ι) {call r} (readings : MutationGrant → Timestamp) (now : Timestamp)
    (h : s.processes p = .locked call) (hr : ∀ g, s.clock ≤ readings g ∧ readings g ≤ now)
    (hc : checkReserve call s.tables readings = .ok (.inl r)) (hnow : s.clock ≤ now) :
    Step s { s.setProcess p (.returned r) with
      tables := s.tables.configure call.scope call.config
      clock := now }
  | decide {s : MutationSystem ι} (p : ι) {call remaining} (readings : MutationGrant → Timestamp) (now : Timestamp)
    (h : s.processes p = .locked call) (hr : ∀ g, s.clock ≤ readings g ∧ readings g ≤ now)
    (hc : checkReserve call s.tables readings = .ok (.inr remaining)) (hnow : s.clock ≤ now) :
    Step s { s.setProcess p (.admitted call remaining) with clock := now }
  | insert {s : MutationSystem ι} (p : ι) {call remaining} (h : s.processes p = .admitted call remaining) :
    Step s (s.setProcess p (.inserted call remaining s.clock))
  | commit {s : MutationSystem ι} (p : ι) {call remaining occurredAt tables}
    (h : s.processes p = .inserted call remaining occurredAt)
    (hc : (s.tables.configure call.scope call.config).insertGrant call.scope (call.grant occurredAt) = some tables) :
    Step s { s.setProcess p (.returned ⟨call, some occurredAt, true, false, remaining - 1⟩) with tables := tables }
  -- the caller goes on, or the call raises or crashes
  | release {s : MutationSystem ι} (p : ι) : Step s (s.setProcess p .idle)

/-- No scope, and no process at work. -/
def Initial (s : MutationSystem ι) : Prop := (∀ scope, s.tables.configs scope = none) ∧ ∀ p, s.processes p = .idle

/-- The most grants there may be in the window of a grant, itself included. -/
def grantLimit (config : ScopeConfig) (g : MutationGrant) : ℕ :=
  if g.compensation then config.capacity else config.capacity - config.compensationReserve

/-- The next grant of the call finds its window below the limit. -/
def Room (tables : MutationTables) (clock : Timestamp) (call : MutationCall) (now : Timestamp) : Prop :=
  (tables.configs call.scope).getD call.config = call.config ∧ now ≤ clock ∧
    (∀ g ∈ tables.grants call.scope, g.occurredAt ≤ now) ∧
    recent MutationGrant.occurredAt call.config.window now (tables.grants call.scope) <
      grantLimit call.config (call.grant now)

def PhaseOk (tables : MutationTables) (clock : Timestamp) : ReservePhase → Prop
  | .admitted call _ => Room tables clock call clock
  | .inserted call _ occurredAt => Room tables clock call occurredAt
  | _ => True

structure Invariant (s : MutationSystem ι) : Prop where
  exclusive : Locking.Exclusive ReservePhase.Holds s.processes
  past : ∀ scope, ∀ g ∈ s.tables.grants scope, g.occurredAt ≤ s.clock
  paced : ∀ scope config, s.tables.configs scope = some config →
    Paced MutationGrant.occurredAt config.window (grantLimit config) (s.tables.grants scope)
  phases : ∀ p, PhaseOk s.tables s.clock (s.processes p)

omit [DecidableEq ι] in
theorem Initial.invariant {s : MutationSystem ι} (h : Initial s) : Invariant s where
  exclusive := .of_free fun p k hk => by
    rw [h.2 p] at hk
    exact hk
  past scope g hg := by
    rw [s.tables.configured scope (h.1 scope)] at hg
    cases hg
  paced scope config hc := by
    rw [h.1 scope] at hc
    cases hc
  phases p := by
    rw [h.2 p]
    trivial

section Tables

variable {tables tables' : MutationTables} {scope : BudgetScope} {grant : MutationGrant}

theorem insertGrant_some (h : tables.insertGrant scope grant = some tables') :
    tables'.configs = tables.configs ∧ tables'.grants = Function.update tables.grants scope (grant :: tables.grants scope) := by
  unfold MutationTables.insertGrant at h
  split at h
  · obtain rfl := Option.some.inj h
    exact ⟨rfl, rfl⟩
  · cases h

/-- Configuring a scope for a call leaves the configuration of every scope that has one. -/
theorem configure_configs {config config' : ScopeConfig} (h : (tables.configs scope).getD config = config)
    {scope' : BudgetScope} (h' : (tables.configure scope config).configs scope' = some config') :
    tables.configs scope' = some config' ∨ scope' = scope ∧ config' = config ∧ tables.configs scope = none := by
  by_cases hs : scope' = scope
  · subst hs
    simp only [MutationTables.configure, Function.update_self, h] at h'
    obtain rfl := Option.some.inj h'
    cases hc : tables.configs scope' with
    | none => exact Or.inr ⟨rfl, rfl, rfl⟩
    | some c =>
      rw [hc] at h
      obtain rfl : c = config := h
      exact Or.inl rfl
  · simp only [MutationTables.configure, Function.update_of_ne hs] at h'
    exact Or.inl h'

end Tables

section Invariance

variable {s t : MutationSystem ι}

theorem PhaseOk.frame {tables tables' : MutationTables} {clock clock' : Timestamp} {x : ReservePhase}
    (hx : PhaseOk tables clock x) (hclock : clock ≤ clock')
    (h : ∀ scope, x.Holds scope → tables'.configs scope = tables.configs scope ∧
      tables'.grants scope = tables.grants scope) : PhaseOk tables' clock' x := by
  cases x with
  | idle | locked | returned => trivial
  | admitted call remaining =>
    obtain ⟨hconfigs, hgrants⟩ := h call.scope rfl
    obtain ⟨hconfig, -, hpast, hroom⟩ := hx
    refine ⟨by rw [hconfigs, hconfig], le_rfl, ?_, ?_⟩
    · intro g hg
      rw [hgrants] at hg
      exact (hpast g hg).trans hclock
    · rw [hgrants]
      exact (SlidingWindow.recent_mono hclock _).trans_lt hroom
  | inserted call remaining occurredAt =>
    obtain ⟨hconfigs, hgrants⟩ := h call.scope rfl
    obtain ⟨hconfig, hnow, hpast, hroom⟩ := hx
    exact ⟨by rw [hconfigs, hconfig], hnow.trans hclock, by rw [hgrants]; exact hpast, by rw [hgrants]; exact hroom⟩

/-- Time passes, and one process moves and changes its own scope at most. -/
theorem Invariant.move (hs : Invariant s) {p : ι} {x : ReservePhase} {tables : MutationTables} {clock : Timestamp}
    (hclock : s.clock ≤ clock) (hl : ∀ k, x.Holds k → (s.processes p).Holds k ∨ Locking.Free ReservePhase.Holds s.processes k)
    (hx : PhaseOk tables clock x)
    (hothers : ∀ scope, ¬(s.processes p).Holds scope →
      tables.configs scope = s.tables.configs scope ∧ tables.grants scope = s.tables.grants scope)
    (hpast : ∀ scope, ∀ g ∈ tables.grants scope, g.occurredAt ≤ clock)
    (hpaced : ∀ scope config, tables.configs scope = some config →
      Paced MutationGrant.occurredAt config.window (grantLimit config) (tables.grants scope)) :
    Invariant ⟨tables, clock, Function.update s.processes p x⟩ where
  exclusive := hs.exclusive.update fun k hk => (hl k hk).symm
  past := hpast
  paced := hpaced
  phases := (Function.forall_update_iff s.processes fun _ => PhaseOk tables clock).mpr
    ⟨hx, fun q hq => PhaseOk.frame (hs.phases q) hclock fun scope hscope =>
      hothers scope fun hp => hs.exclusive.other hp hq hscope⟩

/-- One process moves, and the tables stay. -/
theorem Invariant.setProcess (hs : Invariant s) {p : ι} {x : ReservePhase}
    (hl : ∀ k, x.Holds k → (s.processes p).Holds k ∨ Locking.Free ReservePhase.Holds s.processes k)
    (hx : PhaseOk s.tables s.clock x) : Invariant (s.setProcess p x) :=
  hs.move le_rfl hl hx (fun _ _ => ⟨rfl, rfl⟩) hs.past hs.paced

omit [DecidableEq ι] in
theorem past_mono (hs : Invariant s) {now : Timestamp} (h : s.clock ≤ now) (scope : BudgetScope) :
    ∀ g ∈ s.tables.grants scope, g.occurredAt ≤ now :=
  fun g hg => (hs.past scope g hg).trans h

omit [DecidableEq ι] in
/-- A check that admits a grant leaves room for it, whenever it read the clock. -/
theorem room_of_check (hs : Invariant s) {call : MutationCall} {remaining : ℕ} {readings : MutationGrant → Timestamp}
    {now : Timestamp} (hr : ∀ g, readings g ≤ now) (hnow : s.clock ≤ now)
    (h : checkReserve call s.tables readings = .ok (.inr remaining)) : Room s.tables now call now := by
  obtain ⟨hconfig, -, hused⟩ := checkReserve_admitted h
  refine ⟨hconfig, le_rfl, past_mono hs hnow call.scope, ?_⟩
  have hle : recent MutationGrant.occurredAt call.config.window now (s.tables.grants call.scope) ≤
      usedGrants readings call.config (s.tables.grants call.scope) := by
    refine List.countP_mono_left fun g _ hg => ?_
    rw [decide_eq_true_eq] at hg ⊢
    exact (sub_le_sub_right (hr g) _).trans_lt hg
  have hlt := call.config.reserve_lt
  unfold grantLimit MutationCall.grant
  unfold minimumBefore at hused
  by_cases hc : call.compensation = true
  · simp only [hc, if_true] at hused ⊢
    omega
  · simp only [hc, if_false, Bool.false_eq_true] at hused ⊢
    omega

omit [DecidableEq ι] in
theorem paced_configure (hs : Invariant s) {call : MutationCall}
    (hconfig : (s.tables.configs call.scope).getD call.config = call.config) (scope : BudgetScope)
    (config : ScopeConfig) (h : (s.tables.configure call.scope call.config).configs scope = some config) :
    Paced MutationGrant.occurredAt config.window (grantLimit config) (s.tables.grants scope) := by
  rcases configure_configs hconfig h with hscope | ⟨rfl, -, hnone⟩
  · exact hs.paced scope config hscope
  · rw [s.tables.configured _ hnone]
    exact .nil

theorem configure_self {tables : MutationTables} {scope : BudgetScope} {config : ScopeConfig} :
    (tables.configure scope config).configs scope = some ((tables.configs scope).getD config) :=
  Function.update_self ..

theorem configure_other {tables : MutationTables} {scope scope' : BudgetScope} {config : ScopeConfig}
    (h : scope' ≠ scope) : (tables.configure scope config).configs scope' = tables.configs scope' :=
  Function.update_of_ne h ..

theorem Invariant.step (hs : Invariant s) (h : Step s t) : Invariant t := by
  cases h with
  | tick now h =>
    exact ⟨hs.exclusive, fun scope => past_mono hs h scope, hs.paced,
      fun p => PhaseOk.frame (hs.phases p) h fun _ _ => ⟨rfl, rfl⟩⟩
  | lock p h hc hl => exact hs.setProcess (fun k hk => Or.inr (hk ▸ hl)) trivial
  | @answer p call r readings now h hr hc hnow =>
    obtain ⟨hconfig, -⟩ := checkReserve_returned hc
    refine hs.move hnow (fun k hk => hk.elim) trivial (fun scope hscope => ⟨configure_other ?_, rfl⟩)
      (fun scope => past_mono hs hnow scope) (paced_configure hs hconfig)
    rintro rfl
    rw [h] at hscope
    exact hscope rfl
  | @decide p call remaining readings now h hr hc hnow =>
    refine hs.move hnow (fun k hk => Or.inl ?_) (room_of_check hs (fun g => (hr g).2) hnow hc)
      (fun _ _ => ⟨rfl, rfl⟩) (fun scope => past_mono hs hnow scope) hs.paced
    rw [h]
    exact hk
  | @insert p call remaining h =>
    have hok := hs.phases p
    rw [h] at hok
    refine hs.setProcess (fun k hk => Or.inl ?_) hok
    rw [h]
    exact hk
  | @commit p call remaining occurredAt tables h hc =>
    have hok := hs.phases p
    rw [h] at hok
    obtain ⟨hconfig, hnow, hpast, hroom⟩ := hok
    obtain ⟨hconfigs, hgrants⟩ := insertGrant_some hc
    have hother (scope : BudgetScope) (hscope : scope ≠ call.scope) :
        tables.grants scope = s.tables.grants scope := by
      rw [hgrants]
      exact Function.update_of_ne hscope ..
    have hself : tables.grants call.scope = call.grant occurredAt :: s.tables.grants call.scope := by
      rw [hgrants]
      exact Function.update_self ..
    refine hs.move le_rfl (fun k hk => hk.elim) trivial (fun scope hscope => ?_) (fun scope g hg => ?_)
      fun scope config hscope => ?_
    · have hne : scope ≠ call.scope := by
        rintro rfl
        rw [h] at hscope
        exact hscope rfl
      exact ⟨by rw [hconfigs]; exact configure_other hne, hother scope hne⟩
    · by_cases hscope : scope = call.scope
      · rw [hscope, hself] at hg
        rcases List.mem_cons.mp hg with rfl | hg
        · exact hnow
        · exact hs.past _ g hg
      · rw [hother scope hscope] at hg
        exact hs.past scope g hg
    · rw [hconfigs] at hscope
      by_cases hne : scope = call.scope
      · have hsame : config = call.config := by
          rw [hne, configure_self, hconfig] at hscope
          exact (Option.some.inj hscope).symm
        rw [hne, hself, hsame]
        refine .cons hroom ?_
        have hpaced := paced_configure hs hconfig scope config hscope
        rw [hne, hsame] at hpaced
        exact hpaced
      · rw [hother scope hne]
        exact paced_configure hs hconfig scope config hscope
  | release p => exact hs.setProcess (fun k hk => hk.elim) trivial

end Invariance

section Example

def exampleConfig : ScopeConfig := ⟨30, 60000, 4, by decide, by decide, by decide, by decide⟩

def exampleCall : MutationCall := ⟨⟨"paper", "acct", "evedex"⟩, "effect", "place", false, exampleConfig⟩

def exampleStart : MutationSystem Unit where
  tables := ⟨fun _ => none, fun _ => [], fun _ => List.nodup_nil, fun _ _ => rfl⟩
  clock := 0
  processes _ := .idle

end Example

end MutationSystem

end KairosPersistence
