import KairosPersistence.OperatorSystem

/-!
What is not refused: a command on the version of its latch is applied, a decision
is bound to a live latch, and the entry of an admitted decision is claimed.
-/

namespace KairosPersistence

open PythonJson Jsonb
open Transactions (ok_bind require_pos found_some)

theorem isSha256_digest (value : PyJson) : isSha256 (digest value) = true := isSha256_hexdigest _

section Commands

variable {env : OperatorEnvironment} {tables : OperatorTables} {command : OperatorCommand}

theorem isSha256_auditHead {key : String} {rows : List CommandRow} {latch : Option ControlRow}
    (h : CommandLog key rows latch) : isSha256 (auditHead latch) = true := by
  cases h with
  | empty => exact (by decide +kernel : isSha256 zeroSha = true)
  | command _ _ _ hrow hcontrol =>
    obtain ⟨nowMs, -, -, hsha⟩ := hrow.event
    rw [auditHead, Option.map_some, Option.getD_some, hcontrol.auditHead, hsha]
    exact isSha256_digest _

theorem commandEvent_nulFree {commandSha256 previousSha256 : String} {version : ℕ} {observedAtMs : ℤ}
    (hcommand : isSha256 commandSha256 = true) (hprevious : isSha256 previousSha256 = true) :
    (commandEvent commandSha256 version previousSha256 observedAtMs).everyString nulFree := by
  simp only [commandEvent, Json.everyString, Json.everyStringFields, nulFree_sha hcommand, nulFree_sha hprevious]
  decide +kernel

/-- The next command of a scope is recorded. -/
theorem recordCommand_next (hlog : tables.Logged) (hnew : tables.commandOf command.commandId = none)
    (hnul : command.modelDump.everyString nulFree) {nowMs : ℤ}
    (hcolumns : bigintColumns (latchVersion (tables.controls (scopeKey command.scope)) + 1) command.expiresAtMs = true) :
    ∃ tables', recordCommand command nowMs tables = .ok tables' := by
  have hscope : command.scope.modelDump.everyString nulFree :=
    (Json.everyStringFields_iff.mp hnul ("scope", command.scope.modelDump) (by simp)).2
  have hevent := @commandEvent_nulFree _ _ (latchVersion (tables.controls (scopeKey command.scope)) + 1) nowMs
    (isSha256_digest command.modelDump) (isSha256_auditHead (hlog (scopeKey command.scope)))
  unfold recordCommand
  dsimp only
  rw [jsonbIn_dumps hnul, found_some, ok_bind, jsonbIn_dumps hevent, found_some, ok_bind, jsonbIn_dumps hscope,
    found_some, ok_bind, require_pos hcolumns, ok_bind]
  unfold OperatorTables.insertCommand
  split
  · rename_i hold
    rcases hold with hold | hold
    · obtain ⟨row, hrow, hid⟩ := List.mem_map.mp hold
      have hother : row.commandId ≠ command.commandId := by simpa using List.find?_eq_none.mp hnew row hrow
      exact absurd hid hother
    · -- the versions of the log end with that of the latch
      obtain ⟨row, hrow, hsame⟩ := List.mem_map.mp hold
      obtain ⟨hkey, hversion⟩ := Prod.mk.inj hsame
      have hle := (hlog (scopeKey command.scope)).version_le (List.mem_filter.mpr ⟨hrow, decide_eq_true hkey⟩)
      rw [hversion] at hle
      exact absurd hle (Nat.not_succ_le_self _)
  · exact ⟨_, rfl⟩

/-- A command on the version of its latch is applied. -/
theorem applyCommand_next (hlog : tables.Logged) (hvalid : command.Valid) (hrole : env.operatorRole = true)
    (hnew : tables.commandOf command.commandId = none)
    (hversion : latchVersion (tables.controls (scopeKey command.scope)) = command.expectedVersion)
    (hlatch : LatchOf tables command.scope) (harm : checkArm env command = .ok ())
    (hnul : command.modelDump.everyString nulFree)
    (hcolumns : bigintColumns (command.expectedVersion + 1) command.expiresAtMs = true) :
    ∃ tables' row control, applyCommand env command tables = .ok (tables', control.snapshot command.scope) ∧
      Recorded tables tables' command row control := by
  have hchecked : checkLatch env command.scope tables = .ok () := by
    unfold checkLatch
    cases hcontrol : tables.controls (scopeKey command.scope) with
    | none => rfl
    | some control =>
      have hscopeLog := hlog (scopeKey command.scope)
      rw [hcontrol] at hscopeLog
      obtain ⟨_, -, last, _, hof, hlatched, -, -⟩ := hscopeLog.head
      have hsame := CanaryScope.unique hof.valid.2.1 hvalid.2.1 hlatched.scopePayload (hlatch control hcontrol).1
      dsimp only
      rw [operatorSnapshot_logged hlog hcontrol hlatched hof.valid.2.1, if_pos hsame]
      rfl
  rw [← hversion] at hcolumns
  obtain ⟨tables', hrecorded⟩ := @recordCommand_next tables command hlog hnew hnul (env.millis env.now) hcolumns
  obtain ⟨row, control, hrow⟩ :=
    recordCommand_ok hvalid (env.millis_bound env.now) hversion hlatch hrecorded
  have hcontrol : tables'.controls (scopeKey command.scope) = some control := by
    rw [hrow.controls, Function.update_self]
  refine ⟨tables', row, control, ?_, hrow⟩
  unfold applyCommand
  rw [require_pos hvalid, ok_bind, require_pos hrole, ok_bind, hnew]
  dsimp only
  rw [require_pos hversion, ok_bind, hchecked, ok_bind, harm, ok_bind, hrecorded, ok_bind,
    operatorSnapshot_logged (hrow.logged hlog) hcontrol hrow.latched hvalid.2.1, if_pos rfl]
  rfl

end Commands

section Sessions

variable {env : OperatorEnvironment} {tables : OperatorTables} {scope : CanaryScope}

/-- The session is that of the scope, and open until after the expiry. -/
structure SessionOf (env : OperatorEnvironment) (scope : CanaryScope) (session : CanarySession) (expiry : ℕ) : Prop where
  state : session.state = .armed ∨ session.state = .running
  payload : jsonbIn (dumps scope.modelDump) = some session.scope
  digest : session.scopeSha256 = KairosPersistence.digest scope.modelDump
  live : env.millis env.now < expiry ∧ expiry ≤ env.millis session.entryDeadlineAt

theorem checkSession_ok (hvalid : scope.Valid) {sessionId : String} {session : CanarySession} {expiry : ℕ}
    (hsession : env.sessions sessionId = some session) (h : SessionOf env scope session expiry) :
    checkSession env scope (some sessionId) expiry = .ok () := by
  obtain ⟨stored, hread, -, hdumps⟩ := (CanaryScope.evidence hvalid).payload h.payload
  have hequal : equal (.obj stored) scope.modelDump = true := by
    rw [equal_congr hdumps]
    exact equal_refl (CanaryScope.evidence hvalid).keys
  unfold checkSession
  dsimp only
  rw [Option.bind_some, hsession, found_some, ok_bind, require_pos ⟨h.state, h.digest⟩, ok_bind, h.digest, hread,
    ok_bind, require_pos ⟨hequal, h.live⟩]

theorem checkArm_ok {command : OperatorCommand} (hvalid : command.scope.Valid) {sessionId : String}
    {session : CanarySession} {expiry : ℕ} (haction : command.action = .arm)
    (hsessionId : command.sessionId = some sessionId) (hexpires : command.expiresAtMs = some expiry)
    (hsession : env.sessions sessionId = some session) (h : SessionOf env command.scope session expiry) :
    checkArm env command = .ok () := by
  unfold checkArm
  rw [haction]
  dsimp only
  rw [hexpires, found_some, ok_bind, hsessionId]
  exact checkSession_ok hvalid hsession h

/-- The snapshot of an armed latch with a live lease is active. -/
theorem operatorSnapshot_active (hprivileges : env.runtimePrivileges = true) {control : ControlRow} {sessionId : String}
    {session : CanarySession} {expiry : ℕ} (hvalid : scope.Valid)
    (hready : operatorSnapshot env scope false tables = .ok (control.snapshot scope))
    (hcontrol : tables.controls (scopeKey scope) = some control) (harmed : control.state = .armed)
    (hsessionId : control.sessionId = some sessionId) (hexpires : control.expiresAtMs = some expiry)
    (hsession : env.sessions sessionId = some session) (hof : SessionOf env scope session expiry) :
    operatorSnapshot env scope true tables = .ok (control.snapshot scope) := by
  have hactive : checkActive env scope control = .ok () := by
    unfold checkActive
    dsimp only
    rw [require_pos harmed, ok_bind, hexpires, found_some, ok_bind, require_pos hof.live.1, ok_bind, hsessionId]
    exact checkSession_ok hvalid hsession hof
  unfold operatorSnapshot at hready ⊢
  rw [require_pos (by simp), ok_bind, hcontrol, found_some, ok_bind] at hready
  rw [require_pos (fun _ => hprivileges), ok_bind, hcontrol, found_some, ok_bind]
  rw [cond_true, hactive]
  exact hready

theorem OperatorAdmission.nulFree (binding : OperatorAdmission) (h : binding.Valid) :
    binding.modelDump.everyString nulFree := by
  obtain ⟨hscope, -, hsession, hid, hdigest, htrade, -⟩ := h
  simp only [OperatorAdmission.modelDump, Json.everyString, Json.everyStringFields, nulFree_sha hscope,
    nulFree_sha hsession, nulFree_sha hid, nulFree_sha hdigest, nulFree_sha htrade]
  decide +kernel

/-- A decision is bound to a live latch, when it was not bound. -/
theorem bindDecision_next (hlog : tables.Logged) {decision : OperatorDecision} {decisionId tradeId decisionSha256 sessionId : String}
    {expiry : ℕ} {control : ControlRow} (hvalid : scope.Valid)
    (hdecision : operatorDecision decision scope = .ok (decisionId, tradeId, decisionSha256))
    (hactive : operatorSnapshot env scope true tables = .ok (control.snapshot scope))
    (hcontrol : tables.controls (scopeKey scope) = some control) (harmed : control.state = .armed)
    (hsessionId : control.sessionId = some sessionId) (hexpires : control.expiresAtMs = some expiry)
    {binding : OperatorAdmission} (hbinding : binding =
      admissionOf scope decision decisionId tradeId decisionSha256 control.version sessionId expiry)
    (hbound : binding.Valid) (hnew : ∀ row ∈ tables.admissions, row.decisionId ≠ decisionId) :
    ∃ tables' row, bindDecision env decision scope control.version tables = .ok (tables', binding) ∧ row.Of binding ∧
      row.scopeKey = scopeKey scope ∧ tables'.admissions = row :: tables.admissions ∧
      tables'.controls = tables.controls ∧ tables'.commands = tables.commands ∧ tables'.claims = tables.claims := by
  have hnul := binding.nulFree hbound
  have hid : binding.decisionId = decisionId := by rw [hbinding, admissionOf]
  have hfind : tables.admissionOf binding.decisionId = none := by
    rw [OperatorTables.admissionOf, List.find?_eq_none]
    intro row hrow
    rw [hid]
    simpa using hnew row hrow
  have hcolumns : binding.controlVersion ≤ maxBigint ∧ binding.expiresAtMs ≤ maxBigint := by
    refine (⟨hcontrol, harmed, rfl, ?_, hbound⟩ : Bound tables decision scope control.version control binding).columns hlog
    exact ⟨decisionId, tradeId, decisionSha256, sessionId, expiry, hdecision, hsessionId, hexpires, hbinding⟩
  have hkept : ∃ tables' row, keepAdmission scope binding tables = .ok tables' ∧ row.Of binding ∧
      row.scopeKey = scopeKey scope ∧ tables'.admissions = row :: tables.admissions ∧
      tables'.controls = tables.controls ∧ tables'.commands = tables.commands ∧ tables'.claims = tables.claims := by
    unfold keepAdmission
    rw [hfind]
    dsimp only
    rw [jsonbIn_dumps hnul, found_some, ok_bind]
    unfold OperatorTables.insertAdmission
    split
    · rename_i hold
      obtain ⟨row, hrow, hsame⟩ := List.mem_map.mp hold
      exact absurd (hsame.trans hid) (hnew row hrow)
    · exact ⟨_, ⟨binding.decisionId, scopeKey scope, binding.controlVersion, binding.decisionSha256, _,
        digest binding.modelDump⟩, rfl, ⟨hbound, rfl, rfl, rfl, hcolumns, jsonbIn_dumps hnul, rfl⟩, rfl, rfl, rfl, rfl, rfl⟩
  obtain ⟨tables', row, hkept, hrow⟩ := hkept
  refine ⟨tables', row, ?_, hrow⟩
  have hshows : (control.snapshot scope).sessionId = some sessionId ∧
      (control.snapshot scope).expiresAtMs = some expiry := ⟨hsessionId, hexpires⟩
  have hversion : (control.snapshot scope).version = control.version := rfl
  unfold bindDecision bindAdmission
  rw [hdecision, ok_bind]
  dsimp only
  rw [require_pos hvalid, ok_bind, hactive, ok_bind, require_pos hversion, ok_bind, hshows.1, found_some, ok_bind,
    hshows.2, found_some, ok_bind, hversion, ← hbinding, require_pos hbound, ok_bind, hkept, ok_bind]
  rfl

theorem insertClaim_next {claim : OperatorClaim}
    (h : ∀ c ∈ tables.claims, c.effectId ≠ claim.effectId ∧ c.decisionId ≠ claim.decisionId) :
    ∃ tables', tables.insertClaim claim = .ok tables' := by
  unfold OperatorTables.insertClaim
  split
  · rename_i hold
    rcases hold with hold | hold
    · obtain ⟨c, hc, hsame⟩ := List.mem_map.mp hold
      exact absurd hsame (h c hc).1
    · obtain ⟨c, hc, hsame⟩ := List.mem_map.mp hold
      exact absurd hsame (h c hc).2
  · exact ⟨_, rfl⟩

/-- The entry of an admitted decision is claimed once, under a live latch of the version of its admission. -/
theorem claimOperatorDispatch_next {entry : EntryEnvironment} {decision : OperatorDecision}
    {decisionId tradeId decisionSha256 sessionId : String} {expiry : ℕ} {control : ControlRow} (hvalid : scope.Valid)
    (hdecision : operatorDecision decision scope = .ok (decisionId, tradeId, decisionSha256))
    (hactive : operatorSnapshot env scope true tables = .ok (control.snapshot scope))
    (hsessionId : control.sessionId = some sessionId) {binding : OperatorAdmission}
    (hbinding : binding = admissionOf scope decision decisionId tradeId decisionSha256 control.version sessionId expiry)
    {row : AdmissionRow} (hrow : row ∈ tables.admissions) (hof : row.Of binding) (hkey : row.scopeKey = scopeKey scope)
    (hlive : env.millis env.now < binding.expiresAtMs)
    (hprepared : assertPreparedEffect entry decision.toEntryDecision scope (digestEffect tradeId) = .ok ())
    (hfresh : ∀ c ∈ tables.claims, c.effectId ≠ digestEffect tradeId ∧ c.decisionId ≠ decisionId) :
    ∃ tables' claim, claimOperatorDispatch env entry decision scope (digestEffect tradeId) tables =
      .ok (tables', claim, binding) := by
  have hid : binding.decisionId = decisionId := by rw [hbinding, admissionOf]
  have hfind : tables.admissionOf decisionId = some row := by
    rw [← hid, ← hof.decisionId]
    exact admissionOf_eq hrow
  obtain ⟨stored, hread, -, hdumps⟩ := hof.evidence.payload hof.payload
  rw [← hof.payloadSha256] at hread
  have hvalidate := OperatorAdmission.modelValidate_modelDump hof.valid hdumps hof.evidence.keys
  have hchecked : checkAdmission env decision scope (digestEffect tradeId) tables = .ok binding := by
    unfold checkAdmission
    rw [hdecision, ok_bind]
    dsimp only
    rw [require_pos rfl, ok_bind, hactive, ok_bind, hfind, found_some, ok_bind, hread, ok_bind, hvalidate, found_some,
      ok_bind, require_pos]
    · rfl
    · refine ⟨hkey, hof.version, hof.decisionSha256, ?_, ?_, ?_, hid, ?_, ?_, hlive⟩
      · rw [hbinding]
        rfl
      · rw [hbinding]
        exact hsessionId.symm
      · rw [hbinding]
        rfl
      · rw [hbinding]
        rfl
      · rw [hbinding]
        rfl
  have hnul : (operatorClaimPayload (digestEffect tradeId) binding).everyString nulFree := by
    simp only [operatorClaimPayload, Json.everyString, Json.everyStringFields, binding.nulFree hof.valid,
      nulFree_sha (isSha256_hexdigest _), digestEffect]
    decide +kernel
  unfold claimOperatorDispatch claimAdmission
  rw [require_pos hvalid, ok_bind, hchecked, ok_bind, hprepared]
  rw [show (Except.ok () : Except CanaryError Unit).mapError (fun _ => OperatorError.unavailable
    "operator dispatch authority cannot be verified") = .ok () from rfl, ok_bind, hid, require_pos hfresh, ok_bind,
    jsonbIn_dumps hnul, found_some, ok_bind]
  obtain ⟨tables', hinserted⟩ := @insertClaim_next tables ⟨digestEffect tradeId, decisionId, scopeKey scope,
    binding.controlVersion, _, digest (operatorClaimPayload (digestEffect tradeId) binding)⟩ hfresh
  dsimp only
  rw [hinserted]
  exact ⟨tables', _, rfl⟩

end Sessions

namespace OperatorSystem

section Example

def exampleScope : CanaryScope := ⟨"paper-dev", "kairos-paper-dev-a", "remote", zeroSha, zeroSha⟩

def exampleCommand : OperatorCommand := ⟨zeroSha, exampleScope, .arm, 0, "operator", some zeroSha, some 1000⟩

def exampleDecision : OperatorDecision where
  decisionId := some zeroSha
  tradeId := some zeroSha
  reviewId := "review"
  approved := true
  tradingMode := "PAPER"
  evedexProfile := "DEV"
  accountId := "kairos-paper-dev-a"
  symbol := "BTCUSDT"
  exactQuantity := true
  entryEligibleTsMs := 0
  entryExpiresTsMs := 900
  venueExpiresAtMs := 950
  modelDump := .obj []

def exampleSession : CanarySession where
  accountId := "kairos-paper-dev-a"
  scope := (jsonbIn (dumps exampleScope.modelDump)).getD .null
  scopeSha256 := digest exampleScope.modelDump
  plan := .null
  planSha256 := ""
  state := .running
  entryDeadlineAt := 1
  maxAttempts := 10
  attemptsReserved := 1
  stopReason := none

/-- The clock of the database is at `nowMs`, and the entry deadline of the session at 1000. -/
def exampleEnvironment (nowMs : Fin 2000) : OperatorEnvironment where
  operatorRole := true
  runtimePrivileges := true
  now := 0
  millis t := if t = 0 then (nowMs : ℕ) else 1000
  millis_bound t := by
    have := nowMs.isLt
    split <;> omega
  sessions _ := some exampleSession

def exampleEntry : EntryEnvironment where
  now := 3
  millis _ := 3
  fromMillis _ := 900
  evidence _ _ := none
  effects _ := some ⟨"PREPARED", "PLACE_ORDER", "paper-dev:EVEDEX:DEV:PAPER", "kairos-paper-dev-a", some zeroSha,
    "evedex", "BTCUSDT", "ENTRY"⟩
  requestMatches _ := true

def exampleCall : OperatorCall := ⟨exampleDecision, exampleScope, digestEffect zeroSha⟩

def exampleStart : OperatorSystem Unit where
  tables := ⟨fun _ => none, [], [], [], List.nodup_nil, List.nodup_nil, List.nodup_nil, List.nodup_nil, List.nodup_nil⟩
  processes _ := .idle
  entered := []
  bound := []

theorem exampleStart_initial : Initial exampleStart := ⟨fun _ => rfl, rfl, rfl, rfl, fun _ => rfl, rfl, rfl⟩

theorem exampleScope_valid : exampleScope.Valid := by decide +kernel

theorem exampleSession_of : SessionOf (exampleEnvironment 3) exampleScope exampleSession 1000 where
  state := Or.inr rfl
  payload := by
    have hnul : exampleScope.modelDump.everyString nulFree := by decide +kernel
    rw [exampleSession, jsonbIn_dumps hnul]
    rfl
  digest := by rw [exampleSession]
  live := by simp [exampleEnvironment, exampleSession]

/-- An operator arms the latch, a decision is bound to it, and its entry is dispatched. -/
theorem exampleRun : ∃ s : OperatorSystem Unit, Runs.Reachable Initial Step s ∧
    (∃ b ∈ s.bound, b.decision = exampleDecision ∧ b.scope = exampleScope ∧ b.binding.controlVersion = 1 ∧
      ∃ control, s.tables.controls (scopeKey exampleScope) = some control ∧ control.version = 1 ∧
        control.state = .armed ∧ control.expiresAtMs = some 1000 ∧
        ∀ env, operatorSnapshot env exampleScope false s.tables = .ok (control.snapshot exampleScope)) ∧
    ∃ claim, s.processes () = .dispatching exampleCall claim := by
  have hstart : Runs.Reachable Initial Step exampleStart := .start exampleStart_initial
  have hlog : exampleStart.tables.Logged := fun _ => .empty
  have hvalid : exampleCommand.Valid := by decide +kernel
  have harm : checkArm (exampleEnvironment 3) exampleCommand = .ok () :=
    checkArm_ok exampleScope_valid rfl rfl rfl rfl exampleSession_of
  obtain ⟨armed, row, control, happly, hrecorded⟩ := @applyCommand_next (exampleEnvironment 3) exampleStart.tables
    exampleCommand hlog hvalid rfl rfl rfl (fun _ h => nomatch h) harm (by decide +kernel) (by decide)
  have hcommanding := hstart.next (Step.lockCommand () exampleCommand rfl (by rintro ⟨⟩ ⟨⟩))
  have harmed := hcommanding.next (Step.commitCommand () rfl happly)
  -- the decision is bound to the latch
  have hcontrol : armed.controls (scopeKey exampleScope) = some control := by
    rw [hrecorded.controls]
    exact Function.update_self ..
  have hversion : control.version = 1 := hrecorded.latched.version.trans hrecorded.stored.version
  have hready := @operatorSnapshot_logged (exampleEnvironment 3) exampleScope armed (hrecorded.logged hlog) control row
    exampleCommand hcontrol hrecorded.latched exampleScope_valid
  rw [if_pos (show exampleCommand.scope = exampleScope from rfl)] at hready
  have hactive := operatorSnapshot_active rfl exampleScope_valid hready hcontrol hrecorded.latched.state
    hrecorded.latched.sessionId hrecorded.latched.expiresAtMs rfl exampleSession_of
  have hdecision : operatorDecision exampleDecision exampleScope =
      .ok (zeroSha, zeroSha, digest exampleDecision.modelDump) := by
    have hne : zeroSha ≠ "" := by decide +kernel
    have hid : exampleDecision.decisionId = some zeroSha ∧ exampleDecision.tradeId = some zeroSha := ⟨rfl, rfl⟩
    unfold operatorDecision
    rw [require_pos (by decide +kernel), ok_bind, hid.1, hid.2]
    dsimp only
    rw [found_some, ok_bind, ok_bind, require_pos ⟨hne, hne⟩]
    rfl
  have hzero : isSha256 zeroSha = true := by decide +kernel
  have hbinding : (admissionOf exampleScope exampleDecision zeroSha zeroSha (digest exampleDecision.modelDump)
      control.version zeroSha 1000).Valid :=
    ⟨isSha256_digest _, by rw [hversion]; exact Nat.one_pos, hzero, hzero, isSha256_digest _, hzero,
      show (0 : ℤ) < min 1000 (min 900 950) by decide⟩
  have hempty : armed.admissions = [] := hrecorded.admissions
  obtain ⟨admitted, admission, hbind, hof, hkey, hadmissions, hcontrols, hcommands, hclaims⟩ :=
    bindDecision_next (hrecorded.logged hlog) exampleScope_valid hdecision hactive hcontrol hrecorded.latched.state
      hrecorded.latched.sessionId hrecorded.latched.expiresAtMs rfl hbinding (by simp [hempty])
  have hbinds := harmed.next (Step.lockBind () exampleDecision exampleScope control.version rfl (by rintro ⟨⟩ ⟨⟩))
  have hbound := hbinds.next (Step.commitBind () rfl hbind)
  -- its entry is claimed and sent
  have hactive' : operatorSnapshot (exampleEnvironment 3) exampleScope true admitted =
      .ok (control.snapshot exampleScope) := by
    refine operatorSnapshot_active rfl exampleScope_valid ?_ (by rw [hcontrols]; exact hcontrol)
      hrecorded.latched.state hrecorded.latched.sessionId hrecorded.latched.expiresAtMs rfl exampleSession_of
    have hlogged := Logged.congr (hrecorded.logged hlog) hcommands hcontrols
    rw [operatorSnapshot_logged hlogged (by rw [hcontrols]; exact hcontrol) hrecorded.latched exampleScope_valid,
      if_pos (show exampleCommand.scope = exampleScope from rfl)]
  have hprepared : assertPreparedEffect exampleEntry exampleDecision.toEntryDecision exampleScope
      (digestEffect zeroSha) = .ok () := by
    simp [assertPreparedEffect, exampleEntry, exampleDecision, exampleScope]
  obtain ⟨claimed, claim, hclaim⟩ := @claimOperatorDispatch_next (exampleEnvironment 3) admitted exampleScope
    exampleEntry exampleDecision _ _ _ _ 1000 control exampleScope_valid hdecision hactive'
    hrecorded.latched.sessionId _ rfl admission (hadmissions ▸ List.mem_cons_self) hof hkey
    (show (3 : ℤ) < min 1000 (min 900 950) by decide) hprepared
    (by simp [hclaims, hrecorded.claims, exampleStart])
  have hrequested := hbound.next (Step.request () exampleCall rfl)
  have hlocked := hrequested.next (Step.acquire () rfl (by rintro ⟨⟩ ⟨⟩))
  have hclaimed := hlocked.next (Step.claim () rfl hclaim)
  have hentered := hclaimed.next (Step.enter () 3 rfl (show (3 : ℤ) < min 1000 (min 900 950) by decide))
  have hcontrol' : claimed.controls (scopeKey exampleScope) = some control := by
    rw [← hcontrol, ← hcontrols]
    exact congrFun (claimOperatorDispatch_ok hclaim).2.2.2.2.1 _
  refine ⟨_, hentered, ⟨_, List.mem_cons_self, rfl, rfl, hversion, control, hcontrol', hversion,
    hrecorded.latched.state, hrecorded.latched.expiresAtMs, fun env => ?_⟩, claim, rfl⟩
  have hlogged := (reachable_invariant hentered).logged
  have hsnapshot := @operatorSnapshot_logged env exampleScope claimed hlogged control row exampleCommand hcontrol'
    hrecorded.latched exampleScope_valid
  rwa [if_pos (show exampleCommand.scope = exampleScope from rfl)] at hsnapshot

end Example

end OperatorSystem

end KairosPersistence
