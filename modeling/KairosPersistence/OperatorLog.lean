import KairosPersistence.OperatorProgress

/-!
The log of the operator's commands, and what deliveries of a command or of a
decision a second time leave.
-/

namespace KairosPersistence

open PythonJson Jsonb
open Transactions (bind_ok bind_error found_ok require_ok ok_bind error_bind require_pos require_neg found_some)

/-- The errors that deny an entry. -/
def OperatorError.Refusal (e : OperatorError) : Prop := ∃ message, e = .refused message ∨ e = .unavailable message

section Refusals

variable {env : OperatorEnvironment} {scope : CanaryScope} {tables tables' : OperatorTables}
  {decision : OperatorDecision} {binding : OperatorAdmission} {expectedVersion : ℕ} {e : OperatorError}

theorem sanitize_refusal {α : Type} {message : String} {x : Except OperatorError α} (h : sanitize message x = .error e) :
    e.Refusal := by
  unfold sanitize at h
  split at h
  · cases h
  · exact ⟨_, Or.inl (Except.error.inj h).symm⟩
  · exact ⟨_, Or.inr (Except.error.inj h).symm⟩
  · exact ⟨_, Or.inr (Except.error.inj h).symm⟩

theorem require_refusal {p : Prop} [Decidable p] {message : String}
    (h : Transactions.require p (OperatorError.refused message) = .error e) : e.Refusal := by
  unfold Transactions.require at h
  split at h
  · cases h
  · exact ⟨_, Or.inl (Except.error.inj h).symm⟩

theorem found_refusal {α : Type} {row : Option α} {message : String}
    (h : Transactions.found row (OperatorError.refused message) = .error e) : e.Refusal := by
  cases row with
  | none => exact ⟨_, Or.inl (Except.error.inj h).symm⟩
  | some a => cases h

theorem operatorDecision_refusal (h : operatorDecision decision scope = .error e) : e.Refusal := by
  unfold operatorDecision at h
  rcases bind_error h with h | ⟨_, -, h⟩
  · exact require_refusal h
  rcases bind_error h with h | ⟨_, -, h⟩
  · exact found_refusal h
  rcases bind_error h with h | ⟨_, -, h⟩
  · exact found_refusal h
  rcases bind_error h with h | ⟨_, -, h⟩
  · exact require_refusal h
  · cases h

/-- What `bind_decision` raises denies the entry. -/
theorem bindDecision_refusal (h : bindDecision env decision scope expectedVersion tables = .error e) : e.Refusal := by
  unfold bindDecision at h
  rcases bind_error h with h | ⟨_, -, h⟩
  · exact operatorDecision_refusal h
  · exact sanitize_refusal h

/-- A decision that is bound stays bound as it is, under its version only. -/
theorem bindDecision_again {row : AdmissionRow} (hrow : row ∈ tables.admissions)
    (hof : row.Of binding) {tradeId decisionSha256 : String}
    (hdecision : operatorDecision decision scope = .ok (row.decisionId, tradeId, decisionSha256))
    {bound : OperatorAdmission} (h : bindDecision env decision scope expectedVersion tables = .ok (tables', bound)) :
    tables' = tables ∧ bound = binding ∧ expectedVersion = binding.controlVersion ∧
      latchVersion (tables.controls (scopeKey scope)) = binding.controlVersion := by
  obtain ⟨⟨control, hbound⟩, hkeep⟩ := bindDecision_ok h
  obtain ⟨decisionId, _, _, _, _, hdecision', -, -, hbinding⟩ := hbound.binds
  obtain ⟨hid, -⟩ := Prod.mk.inj (Except.ok.inj (hdecision.symm.trans hdecision'))
  have hsame : row.decisionId = bound.decisionId := by
    rw [hid, hbinding]
    rfl
  rw [keepAdmission_stored hrow hof hsame] at hkeep
  split at hkeep
  · rename_i heq
    subst heq
    have hversion : binding.controlVersion = control.version := by rw [hbinding, admissionOf]
    refine ⟨(Except.ok.inj hkeep).symm, rfl, ?_, ?_⟩
    · rw [hversion, hbound.version]
    · rw [latchVersion, hbound.controls, hversion]
      rfl
  · cases hkeep

end Refusals

section Again

variable {env : OperatorEnvironment} {tables : OperatorTables}

/-- While the latch is at the version of a binding and its snapshot is live, the decision is bound to it again. -/
theorem bindDecision_kept (hlog : tables.Logged) {b : BoundDecision} (hkept : b.Kept tables)
    {snapshot : OperatorSnapshot} (hsnapshot : operatorSnapshot env b.scope true tables = .ok snapshot)
    (hversion : snapshot.version = b.binding.controlVersion) :
    bindDecision env b.decision b.scope b.binding.controlVersion tables = .ok (tables, b.binding) := by
  obtain ⟨⟨admission, hadmission, hstores⟩, row, hrow, command, _, hof, hkey, hrowVersion, decisionId, tradeId,
    decisionSha256, sessionId, expiresAtMs, hdecision, hsession, hexpires, hbinding⟩ := hkept
  obtain ⟨control, hcontrol, hshows, -, stored, hstored, hequal⟩ := operatorSnapshot_ok hsnapshot
  have hscopeLog := hlog (scopeKey b.scope)
  rw [hcontrol] at hscopeLog
  obtain ⟨last, hlast, lastCommand, _, hlastOf, hlatched, -, hlastKey⟩ := hscopeLog.head
  -- the command that set the latch is the one under which the decision was bound
  have hcurrent : control.version = row.version := by
    rw [hrowVersion, ← hversion, hshows]
    rfl
  obtain rfl : last = row := List.inj_on_of_nodup_map tables.unique_versions (List.mem_filter.mp hlast).1 hrow
    (Prod.ext (hlastKey.trans hkey.symm) (hlatched.version.symm.trans hcurrent))
  obtain rfl := hlastOf.unique hof
  have hscope : lastCommand.scope = b.scope := by
    refine CanaryScope.modelDump_injective ?_
    rw [← (CanaryScope.evidence hof.valid.2.1).equal_read hlatched.scopePayload hstored]
    exact hequal
  have hvalid : b.scope.Valid := hscope ▸ hof.valid.2.1
  have hid : admission.decisionId = b.binding.decisionId := hstores.decisionId
  have hbound : b.binding = admissionOf b.scope b.decision decisionId tradeId decisionSha256 snapshot.version sessionId
      expiresAtMs := by
    rw [hversion, ← hrowVersion]
    exact hbinding
  unfold bindDecision bindAdmission
  rw [hdecision, ok_bind]
  dsimp only
  rw [require_pos hvalid, ok_bind, hsnapshot, ok_bind, require_pos hversion, ok_bind, hshows]
  have hlatchSession : (control.snapshot b.scope).sessionId = some sessionId := hlatched.sessionId.trans hsession
  have hlatchExpires : (control.snapshot b.scope).expiresAtMs = some expiresAtMs := hlatched.expiresAtMs.trans hexpires
  rw [hlatchSession, found_some, ok_bind, hlatchExpires, found_some, ok_bind, ← hshows, ← hbound,
    require_pos hstores.valid, ok_bind, keepAdmission_stored hadmission hstores hid, if_pos rfl]
  rfl

/-- An expired lease denies entries, of decisions that are bound as well. -/
theorem bindDecision_expired {scope : CanaryScope} {decision : OperatorDecision} {expectedVersion expiry : ℕ}
    {control : ControlRow} {ids : String × String × String} (hvalid : scope.Valid)
    (hprivileges : env.runtimePrivileges = true) (hdecision : operatorDecision decision scope = .ok ids)
    (hready : operatorSnapshot env scope false tables = .ok (control.snapshot scope))
    (hcontrol : tables.controls (scopeKey scope) = some control) (harmed : control.state = .armed)
    (hexpires : control.expiresAtMs = some expiry) (hexpired : ¬env.millis env.now < expiry) :
    bindDecision env decision scope expectedVersion tables =
      .error (.refused "operator control is disarmed, killed or expired") := by
  have hinactive : checkActive env scope control =
      .error (.refused "operator control is disarmed, killed or expired") := by
    unfold checkActive
    dsimp only
    rw [require_pos harmed, ok_bind, hexpires, found_some, ok_bind, require_neg hexpired]
    rfl
  have hsnapshot : operatorSnapshot env scope true tables =
      .error (.refused "operator control is disarmed, killed or expired") := by
    unfold operatorSnapshot at hready ⊢
    rw [require_pos (by simp), ok_bind, hcontrol, found_some, ok_bind] at hready
    rw [require_pos (fun _ => hprivileges), ok_bind, hcontrol, found_some, ok_bind, cond_true, hinactive]
    obtain ⟨_, hstored, hready⟩ := bind_ok hready
    obtain ⟨_, hscope, hready⟩ := bind_ok hready
    obtain ⟨_, hhead, hready⟩ := bind_ok hready
    obtain ⟨_, hcheck, hready⟩ := bind_ok hready
    rw [hstored, ok_bind, hscope, ok_bind, hhead, ok_bind, hcheck]
    rfl
  obtain ⟨decisionId, tradeId, decisionSha256⟩ := ids
  unfold bindDecision bindAdmission
  rw [hdecision, ok_bind]
  dsimp only
  rw [require_pos hvalid, ok_bind, hsnapshot]
  rfl

end Again

namespace OperatorSystem

variable {ι : Type} [DecidableEq ι]

/-- The log of the operator's commands. Each scope has its versions from one on, every event on the one before it, and
the latch as the last command leaves it, of which snapshots are never inconsistent; a command is applied once; what
is delivered again, with the same or other content, and what is stale leaves the tables; a decision that is bound is
bound again, to the same, while its version is the latch's and the snapshot is live, and is refused under any other. -/
theorem operator_log {s : OperatorSystem ι} (hs : Runs.Reachable Initial Step s) :
    (∀ key, CommandLog key (s.tables.logOf key) (s.tables.controls key) ∧
      ((s.tables.logOf key).map (·.version)) = (List.range' 1 (s.tables.logOf key).length).reverse) ∧
    (∀ env scope, (s.tables.controls (scopeKey scope)).isSome →
      (∃ snapshot, operatorSnapshot env scope false s.tables = .ok snapshot) ∨
      operatorSnapshot env scope false s.tables = .error (.refused "operator control scope/config differs")) ∧
    (s.tables.commands.map (·.commandId)).Nodup ∧
    (∀ env command row, s.tables.commandOf command.commandId = some row → ∃ first previousSha256,
      row.Of first previousSha256 ∧
      (command = first → (Transactions.run (applyCommand env command) s.tables).1 = s.tables ∧
        (env.operatorRole = true → ∃ snapshot, applyCommand env command s.tables = .ok (s.tables, snapshot))) ∧
      (command ≠ first → ∃ e, Transactions.run (applyCommand env command) s.tables = (s.tables, .error e))) ∧
    (∀ env command, s.tables.commandOf command.commandId = none →
      latchVersion (s.tables.controls (scopeKey command.scope)) ≠ command.expectedVersion →
      ∃ e, Transactions.run (applyCommand env command) s.tables = (s.tables, .error e)) ∧
    ∀ b ∈ s.bound, ∀ env,
      (∀ snapshot, operatorSnapshot env b.scope true s.tables = .ok snapshot →
        snapshot.version = b.binding.controlVersion →
        bindDecision env b.decision b.scope b.binding.controlVersion s.tables = .ok (s.tables, b.binding)) ∧
      (∀ expectedVersion, expectedVersion ≠ b.binding.controlVersion ∨
        latchVersion (s.tables.controls (scopeKey b.scope)) ≠ b.binding.controlVersion →
        ∃ e, e.Refusal ∧ Transactions.run (bindDecision env b.decision b.scope expectedVersion) s.tables =
          (s.tables, .error e)) ∧
      ∀ decision scope expectedVersion tradeId decisionSha256 tables bound,
        operatorDecision decision scope = .ok (b.binding.decisionId, tradeId, decisionSha256) →
        bindDecision env decision scope expectedVersion s.tables = .ok (tables, bound) →
        tables = s.tables ∧ bound = b.binding := by
  have hinv := reachable_invariant hs
  have hlog := hinv.logged
  refine ⟨fun key => ⟨hlog key, (hlog key).versions.2⟩, fun env scope hsome => ?_, s.tables.unique_commands,
    fun env command row hrow => ?_, fun env command hnew hversion => ?_, fun b hb env => ⟨?_, ?_, ?_⟩⟩
  · obtain ⟨control, hcontrol⟩ := Option.isSome_iff_exists.mp hsome
    have hscopeLog := hlog (scopeKey scope)
    rw [hcontrol] at hscopeLog
    obtain ⟨_, -, command, _, hof, hlatched, -, -⟩ := hscopeLog.head
    rw [operatorSnapshot_logged hlog hcontrol hlatched hof.valid.2.1]
    split
    · exact Or.inl ⟨_, rfl⟩
    · exact Or.inr rfl
  · obtain ⟨first, previousSha256, hof, -⟩ := @stored_command _ command hlog row (List.mem_of_find?_eq_some hrow)
    refine ⟨first, previousSha256, hof, ?_, ?_⟩
    · rintro rfl
      refine ⟨?_, fun hrole => ?_⟩
      · rcases Transactions.run_cases (applyCommand env command) s.tables with hsame | ⟨snapshot, happly⟩
        · exact hsame
        · rcases applyCommand_ok hlog happly with ⟨hsame, -⟩ | ⟨hnew, -⟩
          · exact hsame
          · rw [hrow] at hnew
            cases hnew
      · have hredelivered := applyCommand_redelivered hlog hrow hof hof.valid hrole
        rwa [if_pos rfl] at hredelivered
    · intro hother
      cases happly : applyCommand env command s.tables with
      | error e => exact ⟨e, by rw [Transactions.run, happly]⟩
      | ok result =>
        obtain ⟨tables, snapshot⟩ := result
        rcases applyCommand_ok hlog happly with ⟨-, old, hold, hid, _, hold'⟩ | ⟨hnew, -⟩
        · have hsame : old = row := by
            refine List.inj_on_of_nodup_map s.tables.unique_commands hold (List.mem_of_find?_eq_some hrow) ?_
            have hrowId : row.commandId = command.commandId := by simpa using List.find?_some hrow
            exact hid.trans hrowId.symm
          subst hsame
          exact absurd (hold'.unique hof) hother
        · rw [hrow] at hnew
          cases hnew
  · obtain ⟨e, he⟩ := @applyCommand_stale env s.tables command hnew hversion
    exact ⟨e, by rw [Transactions.run, he]⟩
  · exact fun snapshot hsnapshot hversion => bindDecision_kept hlog (hinv.kept b hb) hsnapshot hversion
  · intro expectedVersion hdiffers
    obtain ⟨⟨admission, hadmission, hstores⟩, _, _, _, _, _, _, _, decisionId, tradeId, decisionSha256, _, _,
      hdecision, -, -, hbinding⟩ := hinv.kept b hb
    have hid : admission.decisionId = decisionId := by
      rw [hstores.decisionId, hbinding]
      rfl
    cases hbind : bindDecision env b.decision b.scope expectedVersion s.tables with
    | error e => exact ⟨e, bindDecision_refusal hbind, by rw [Transactions.run, hbind]⟩
    | ok result =>
      obtain ⟨tables, bound⟩ := result
      rw [← hid] at hdecision
      obtain ⟨-, -, hexpected, hlatch⟩ := bindDecision_again hadmission hstores hdecision hbind
      exact absurd hlatch (hdiffers.resolve_left (not_not.mpr hexpected))
  · intro decision scope expectedVersion tradeId decisionSha256 tables bound hdecision hbind
    obtain ⟨⟨admission, hadmission, hstores⟩, -⟩ := hinv.kept b hb
    rw [← hstores.decisionId] at hdecision
    obtain ⟨hsame, hbound, -⟩ := bindDecision_again hadmission hstores hdecision hbind
    exact ⟨hsame, hbound⟩

/-- A decision that is bound, and its latch at the version of the binding; but the lease has expired. -/
theorem bound_decision_expired : ∃ s : OperatorSystem Unit, Runs.Reachable Initial Step s ∧ ∃ b ∈ s.bound,
    latchVersion (s.tables.controls (scopeKey b.scope)) = b.binding.controlVersion ∧ ∃ env,
      bindDecision env b.decision b.scope b.binding.controlVersion s.tables =
        .error (.refused "operator control is disarmed, killed or expired") := by
  obtain ⟨s, hs, ⟨b, hb, hdecision, hscope, hversion, control, hcontrol, hone, harmed, hexpires, hready⟩, -⟩ :=
    exampleRun
  refine ⟨s, hs, b, hb, ?_, exampleEnvironment 1500, ?_⟩
  · rw [hscope, hcontrol, hversion]
    exact hone
  · obtain ⟨-, _, _, _, _, _, _, _, _, _, _, _, _, hdecided, -⟩ := (reachable_invariant hs).kept b hb
    rw [hdecision, hscope] at hdecided ⊢
    exact bindDecision_expired exampleScope_valid rfl hdecided (hready _) hcontrol harmed hexpires (by decide)

/-- The run of an armed latch, a bound decision and its dispatch. -/
theorem operator_log_example : ∃ s : OperatorSystem Unit, s.bound ≠ [] ∧ (s.tables.commands.map (·.commandId)).Nodup ∧
    ∀ key, CommandLog key (s.tables.logOf key) (s.tables.controls key) := by
  obtain ⟨s, hs, ⟨b, hb, -⟩, -⟩ := exampleRun
  obtain ⟨hlogs, -, hnodup, -⟩ := operator_log hs
  exact ⟨s, List.ne_nil_of_mem hb, hnodup, fun key => (hlogs key).1⟩

end OperatorSystem

end KairosPersistence
