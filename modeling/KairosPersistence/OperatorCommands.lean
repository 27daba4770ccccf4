import KairosPersistence.OperatorModels

/-!
What the operations on the latch, the log and the admissions have checked and
written when they return.
-/

namespace KairosPersistence

open PythonJson Jsonb
open Transactions (bind_ok found_ok require_ok ok_bind require_pos require_neg found_some)

/-- The row stores the command, with an event on the given predecessor. -/
structure CommandRow.Of (row : CommandRow) (command : OperatorCommand) (previousSha256 : String) : Prop where
  valid : command.Valid
  commandId : row.commandId = command.commandId
  scopeKey : row.scopeKey = KairosPersistence.scopeKey command.scope
  version : row.version = command.expectedVersion + 1
  columns : bigintColumns row.version command.expiresAtMs = true
  commandPayload : jsonbIn (dumps command.modelDump) = some row.commandPayload
  commandSha256 : row.commandSha256 = digest command.modelDump
  event : ∃ nowMs : ℤ, nowMs.natAbs < 2 ^ 63 ∧
    jsonbIn (dumps (commandEvent row.commandSha256 row.version previousSha256 nowMs)) = some row.eventPayload ∧
    row.eventSha256 = digest (commandEvent row.commandSha256 row.version previousSha256 nowMs)

/-- The latch is the effect of the command that the row stores. -/
structure ControlRow.Of (control : ControlRow) (row : CommandRow) (command : OperatorCommand) : Prop where
  scopePayload : jsonbIn (dumps command.scope.modelDump) = some control.scopePayload
  scopeSha256 : control.scopeSha256 = digest command.scope.modelDump
  version : control.version = row.version
  state : control.state = command.action.latchState
  sessionId : control.sessionId = command.sessionId
  expiresAtMs : control.expiresAtMs = command.expiresAtMs
  auditHead : control.auditHeadSha256 = row.eventSha256

/-- The commands of a scope, the last one first, and the latch they leave: every command is on the version and
the head that the ones before it leave. -/
inductive CommandLog (key : String) : List CommandRow → Option ControlRow → Prop
  | empty : CommandLog key [] none
  | command {rows latch row control command} (log : CommandLog key rows latch) (hkey : row.scopeKey = key)
      (hversion : row.version = latchVersion latch + 1) (hrow : row.Of command (auditHead latch))
      (hcontrol : control.Of row command) (hscope : ∀ previous ∈ latch, control.scopePayload = previous.scopePayload) :
      CommandLog key (row :: rows) (some control)

namespace OperatorTables

def logOf (tables : OperatorTables) (key : String) : List CommandRow :=
  tables.commands.filter (·.scopeKey = key)

/-- Every scope has its log, and the latch is its effect. -/
def Logged (tables : OperatorTables) : Prop := ∀ key, CommandLog key (tables.logOf key) (tables.controls key)

end OperatorTables

section Log

variable {key : String} {rows : List CommandRow} {latch : Option ControlRow}

theorem length_zeroSha : zeroSha.length = 64 := (String.length_ofList).trans List.length_replicate

theorem length_digest (value : PyJson) : (digest value).length = 64 := Sha256.length_hexdigest _

theorem CommandLog.versions (h : CommandLog key rows latch) :
    latchVersion latch = rows.length ∧ rows.map (·.version) = (List.range' 1 rows.length).reverse := by
  induction h with
  | empty => exact ⟨rfl, rfl⟩
  | @command rows latch row control command log hkey hversion hrow hcontrol hscope ih =>
    obtain ⟨hlength, hversions⟩ := ih
    rw [hlength] at hversion
    constructor
    · rw [List.length_cons, ← hversion]
      exact hcontrol.version
    · rw [List.map_cons, hversions, hversion, List.length_cons, List.range'_concat, List.reverse_concat]
      simp [Nat.add_comm]

theorem CommandLog.length_auditHead (h : CommandLog key rows latch) : (auditHead latch).length = 64 := by
  cases h with
  | empty => exact length_zeroSha
  | command _ _ _ hrow hcontrol =>
    obtain ⟨nowMs, -, -, hsha⟩ := hrow.event
    have hhead := hcontrol.auditHead.trans hsha
    rw [auditHead, Option.map_some, Option.getD_some, hhead]
    exact length_digest _

/-- Every command of the log is stored on the event before it. -/
theorem CommandLog.stored (h : CommandLog key rows latch) {row : CommandRow} (hrow : row ∈ rows) :
    ∃ command previousSha256, row.Of command previousSha256 ∧ row.scopeKey = key := by
  induction h with
  | empty => cases hrow
  | @command rows latch head control command log hkey hversion hof hcontrol hscope ih =>
    rcases List.mem_cons.mp hrow with rfl | hrow
    · exact ⟨command, _, hof, hkey⟩
    · exact ih hrow

/-- The latch stands for its last command. -/
theorem CommandLog.head {control : ControlRow} (h : CommandLog key rows (some control)) :
    ∃ row ∈ rows, ∃ command previousSha256, row.Of command previousSha256 ∧ control.Of row command ∧
      previousSha256.length = 64 ∧ row.scopeKey = key := by
  cases h with
  | command log hkey hversion hrow hcontrol hscope =>
    exact ⟨_, List.mem_cons_self, _, _, hrow, hcontrol, log.length_auditHead, hkey⟩

theorem CommandRow.Of.evidence {row : CommandRow} {command : OperatorCommand} {previousSha256 : String}
    (h : row.Of command previousSha256) : Evidence command.modelDump :=
  OperatorCommand.evidence h.valid h.version h.columns

/-- A row stores one command. -/
theorem CommandRow.Of.unique {row : CommandRow} {command command' : OperatorCommand}
    {previousSha256 previousSha256' : String} (h : row.Of command previousSha256) (h' : row.Of command' previousSha256') :
    command = command' := by
  obtain ⟨fields, hread, hdumps⟩ := h.evidence.read h.commandPayload
  obtain ⟨fields', hread', hdumps'⟩ := h'.evidence.read h'.commandPayload
  obtain rfl : fields = fields' := by simpa using hread.symm.trans hread'
  have hvalidate := OperatorCommand.modelValidate_modelDump h.valid hdumps h.evidence.keys
  have hvalidate' := OperatorCommand.modelValidate_modelDump h'.valid hdumps' h'.evidence.keys
  exact Option.some.inj (hvalidate.symm.trans hvalidate')

/-- The commands of a log are of one scope. -/
theorem CommandLog.scope (h : CommandLog key rows latch) {row : CommandRow} (hrow : row ∈ rows)
    {command : OperatorCommand} {previousSha256 : String} (hof : row.Of command previousSha256) :
    ∃ control, latch = some control ∧ jsonbIn (dumps command.scope.modelDump) = some control.scopePayload := by
  induction h with
  | empty => cases hrow
  | @command rows latch head control first log hkey hversion hfirst hcontrol hscope ih =>
    refine ⟨control, rfl, ?_⟩
    rcases List.mem_cons.mp hrow with rfl | hrow
    · rw [hof.unique hfirst]
      exact hcontrol.scopePayload
    · obtain ⟨previous, hprevious, hpayload⟩ := ih hrow
      rw [hscope previous hprevious]
      exact hpayload

theorem CanaryScope.unique {a b : CanaryScope} {column : JsonColumn} (ha : a.Valid) (hb : b.Valid)
    (hcolumn : jsonbIn (dumps a.modelDump) = some column) (hcolumn' : jsonbIn (dumps b.modelDump) = some column) :
    a = b := by
  obtain ⟨fields, hread, hdumps⟩ := (CanaryScope.evidence ha).read hcolumn
  obtain ⟨fields', hread', hdumps'⟩ := (CanaryScope.evidence hb).read hcolumn'
  obtain rfl : fields = fields' := by simpa using hread.symm.trans hread'
  refine CanaryScope.modelDump_injective ?_
  rw [equal_congr (hdumps.symm.trans hdumps') b.modelDump]
  exact equal_refl (CanaryScope.evidence hb).keys

theorem CommandLog.nodup (h : CommandLog key rows latch) : rows.Nodup := by
  have hversions : (rows.map (·.version)).Nodup := by
    rw [h.versions.2]
    exact List.nodup_reverse.mpr List.nodup_range'
  exact hversions.of_map _

theorem CommandLog.version_le (h : CommandLog key rows latch) {row : CommandRow} (hrow : row ∈ rows) : row.version ≤ latchVersion latch := by
  have hmem : row.version ∈ rows.map (·.version) := List.mem_map_of_mem hrow
  rw [h.versions.2, List.mem_reverse, List.mem_range'_1] at hmem
  rw [h.versions.1]
  omega

end Log

section Snapshots

variable {env : OperatorEnvironment} {scope : CanaryScope} {tables tables' : OperatorTables}

theorem checkHead_ok {control : ControlRow} {row : CommandRow} {command : OperatorCommand} {previousSha256 : String}
    (hrow : row.Of command previousSha256) (hcontrol : control.Of row command) (hprevious : previousSha256.length = 64)
    (hscope : command.scope = scope) : checkHead scope control row = .ok () := by
  obtain ⟨payload, hpayload, -, hdumps⟩ := hrow.evidence.payload hrow.commandPayload
  have hvalidate := OperatorCommand.modelValidate_modelDump hrow.valid hdumps hrow.evidence.keys
  obtain ⟨nowMs, hnow, hevent, hsha⟩ := hrow.event
  have hbigint : row.version ≤ maxBigint := by
    have hcolumns := hrow.columns
    rw [bigintColumns, Bool.and_eq_true, decide_eq_true_eq] at hcolumns
    exact hcolumns.1
  have hcommandSha : row.commandSha256.length = 64 := by
    rw [hrow.commandSha256]
    exact length_digest _
  have hevidence := commandEvent_evidence hcommandSha hprevious hbigint hnow
  obtain ⟨event, hread, -, hevents⟩ := hevidence.payload hevent
  have hfield := equal_getField_congr hevents hevidence.keys
  rw [checkHead, require_pos hcontrol.auditHead.symm, ok_bind, hrow.commandSha256, hpayload, ok_bind, hvalidate,
    found_some, ok_bind, hsha, hread, ok_bind]
  refine require_pos ⟨hscope, hrow.version.symm.trans hcontrol.version.symm, hcontrol.state, hcontrol.sessionId,
    hcontrol.expiresAtMs, ?_, ?_, ?_⟩
  · rw [hfield]
    simp [getField, equal]
  · rw [hfield, hrow.commandSha256]
    simp [getField, equal]
  · rw [hfield, hcontrol.version]
    simp [getField, equal, numericValue]

theorem commandAt_eq {row : CommandRow} (h : row ∈ tables.commands) :
    tables.commandAt row.scopeKey row.version = some row := by
  have hfind : (tables.commandAt row.scopeKey row.version).isSome := by
    rw [OperatorTables.commandAt, List.find?_isSome]
    exact ⟨row, h, by simp⟩
  obtain ⟨found, hfound⟩ := Option.isSome_iff_exists.mp hfind
  have hmem := List.mem_of_find?_eq_some hfound
  have hsame := List.find?_some hfound
  simp only [Bool.and_eq_true, decide_eq_true_eq] at hsame
  rw [hfound, List.inj_on_of_nodup_map tables.unique_versions hmem h (Prod.ext hsame.1 hsame.2)]

def ControlRow.snapshot (control : ControlRow) (scope : CanaryScope) : OperatorSnapshot :=
  ⟨scope, control.version, control.state, control.sessionId, control.expiresAtMs, control.auditHeadSha256⟩

/-- The snapshot of a logged latch is never inconsistent. -/
theorem operatorSnapshot_logged (hlog : tables.Logged) {control : ControlRow} {row : CommandRow}
    {command : OperatorCommand} (hcontrol : tables.controls (scopeKey scope) = some control)
    (hof : control.Of row command) (hvalid : command.scope.Valid) :
    operatorSnapshot env scope false tables =
      if command.scope = scope then .ok (control.snapshot scope)
      else .error (.refused "operator control scope/config differs") := by
  have hevidence := CanaryScope.evidence hvalid
  obtain ⟨stored, hstored, -, hdumps⟩ := hevidence.payload hof.scopePayload
  have hequal : (equal (.obj stored) scope.modelDump = true) ↔ command.scope = scope := by
    rw [equal_congr hdumps]
    constructor
    · exact CanaryScope.modelDump_injective
    · rintro rfl
      exact equal_refl hevidence.keys
  rw [operatorSnapshot, require_pos (by simp), ok_bind, hcontrol, found_some, ok_bind, hof.scopeSha256, hstored, ok_bind]
  split
  · rename_i hsame
    have hcontrolLog := hlog (scopeKey scope)
    rw [hcontrol] at hcontrolLog
    obtain ⟨head, hhead, last, previousSha256, hlast, hlastControl, hlength, hkey⟩ := hcontrolLog.head
    obtain ⟨hmem, -⟩ := List.mem_filter.mp hhead
    have hscope : last.scope = scope :=
      (CanaryScope.unique hlast.valid.2.1 hvalid hlastControl.scopePayload hof.scopePayload).trans hsame
    have hat := commandAt_eq hmem
    rw [hkey, ← hlastControl.version] at hat
    rw [require_pos (hequal.mpr hsame), ok_bind, hat, found_some, ok_bind,
      checkHead_ok hlast hlastControl hlength hscope]
    rfl
  · rename_i hdiffers
    rw [require_neg (mt hequal.mp hdiffers)]
    rfl

end Snapshots

section Commands

variable {env : OperatorEnvironment} {tables tables' : OperatorTables} {command : OperatorCommand}

theorem insertCommand_ok {row : CommandRow} (h : tables.insertCommand row = .ok tables') :
    tables'.commands = row :: tables.commands ∧ tables'.controls = tables.controls ∧
      tables'.admissions = tables.admissions ∧ tables'.claims = tables.claims := by
  unfold OperatorTables.insertCommand at h
  split at h
  · cases h
  · obtain rfl := Except.ok.inj h
    exact ⟨rfl, rfl, rfl, rfl⟩

/-- What the writes of a command leave. -/
structure Recorded (tables tables' : OperatorTables) (command : OperatorCommand) (row : CommandRow)
    (control : ControlRow) : Prop where
  stored : row.Of command (auditHead (tables.controls (scopeKey command.scope)))
  next_version : row.version = latchVersion (tables.controls (scopeKey command.scope)) + 1
  latched : control.Of row command
  scopePayload : ∀ previous ∈ tables.controls (scopeKey command.scope), control.scopePayload = previous.scopePayload
  commands : tables'.commands = row :: tables.commands
  controls : tables'.controls = Function.update tables.controls (scopeKey command.scope) (some control)
  admissions : tables'.admissions = tables.admissions
  claims : tables'.claims = tables.claims

/-- The latch, if there is one, is that of the scope. -/
def LatchOf (tables : OperatorTables) (scope : CanaryScope) : Prop :=
  ∀ control ∈ tables.controls (scopeKey scope), jsonbIn (dumps scope.modelDump) = some control.scopePayload ∧
    control.scopeSha256 = digest scope.modelDump

theorem recordCommand_ok {nowMs : ℤ} (hvalid : command.Valid) (hnow : nowMs.natAbs < 2 ^ 63)
    (hversion : latchVersion (tables.controls (scopeKey command.scope)) = command.expectedVersion)
    (hlatch : LatchOf tables command.scope) (h : recordCommand command nowMs tables = .ok tables') :
    ∃ row control, Recorded tables tables' command row control := by
  unfold recordCommand at h
  obtain ⟨commandPayload, hcommand, h⟩ := bind_ok h
  obtain ⟨eventPayload, hevent, h⟩ := bind_ok h
  obtain ⟨scopePayload, hscope, h⟩ := bind_ok h
  obtain ⟨_, hcolumns, h⟩ := bind_ok h
  obtain ⟨inserted, hinserted, h⟩ := bind_ok h
  obtain ⟨hcommands, hcontrols, hadmissions, hclaims⟩ := insertCommand_ok hinserted
  obtain rfl := Except.ok.inj h
  refine ⟨_, controlRow command (tables.controls (scopeKey command.scope)) scopePayload (commandEvent
    (digest command.modelDump) (latchVersion (tables.controls (scopeKey command.scope)) + 1)
    (auditHead (tables.controls (scopeKey command.scope))) nowMs), ⟨?_, rfl, ?_, ?_, hcommands, ?_, hadmissions, hclaims⟩⟩
  · exact {
      valid := hvalid
      commandId := rfl
      scopeKey := rfl
      version := congrArg (· + 1) hversion
      columns := require_ok hcolumns
      commandPayload := found_ok hcommand
      commandSha256 := rfl
      event := ⟨nowMs, hnow, found_ok hevent, rfl⟩ }
  · refine ⟨?_, ?_, rfl, rfl, rfl, rfl, rfl⟩
    · cases hprevious : tables.controls (scopeKey command.scope) with
      | none => exact found_ok hscope
      | some previous => exact (hlatch previous hprevious).1
    · cases hprevious : tables.controls (scopeKey command.scope) with
      | none => rfl
      | some previous => exact (hlatch previous hprevious).2
  · intro previous hprevious
    rw [Option.mem_def.mp hprevious]
    rfl
  · rw [OperatorTables.setControl, hcontrols]

theorem Recorded.logged {row : CommandRow} {control : ControlRow} (hlog : tables.Logged)
    (h : Recorded tables tables' command row control) : tables'.Logged := by
  intro key
  rw [OperatorTables.logOf, h.commands, h.controls]
  by_cases hkey : key = scopeKey command.scope
  · subst hkey
    rw [List.filter_cons_of_pos (by simp [h.stored.scopeKey]), Function.update_self]
    exact .command (hlog _) h.stored.scopeKey h.next_version h.stored h.latched h.scopePayload
  · have hother : row.scopeKey ≠ key := by
      rw [h.stored.scopeKey]
      exact Ne.symm hkey
    rw [List.filter_cons_of_neg (by simpa using hother), Function.update_of_ne hkey]
    exact hlog key

/-- A latch of which the snapshot is taken is that of the scope. -/
theorem latchOf_snapshot {scope : CanaryScope} (hlog : tables.Logged) {snapshot : OperatorSnapshot}
    (h : operatorSnapshot env scope false tables = .ok snapshot) : LatchOf tables scope := by
  intro control hcontrol
  have hscopeLog := hlog (scopeKey scope)
  rw [Option.mem_def.mp hcontrol] at hscopeLog
  obtain ⟨row, -, command, previousSha256, hrow, hof, -, -⟩ := hscopeLog.head
  rw [operatorSnapshot_logged hlog hcontrol hof hrow.valid.2.1] at h
  split at h
  · rename_i hsame
    rw [← hsame]
    exact ⟨hof.scopePayload, hof.scopeSha256⟩
  · cases h

theorem checkLatch_ok {scope : CanaryScope} (hlog : tables.Logged) (h : checkLatch env scope tables = .ok ()) :
    LatchOf tables scope := by
  unfold checkLatch at h
  split at h
  · rename_i hnone
    intro control hcontrol
    rw [Option.mem_def.mp hcontrol] at hnone
    cases hnone
  · obtain ⟨snapshot, hsnapshot, -⟩ := bind_ok h
    exact latchOf_snapshot hlog hsnapshot

/-- A logged command, whose identity is delivered again, reads as itself. -/
theorem stored_command (hlog : tables.Logged) {row : CommandRow} (hrow : row ∈ tables.commands) :
    ∃ first previousSha256, row.Of first previousSha256 ∧ ∃ fields,
      operatorPayload row.commandPayload row.commandSha256 = .ok fields ∧
      (equal (.obj fields) command.modelDump = true ↔ first = command) := by
  obtain ⟨first, previousSha256, hof, -⟩ :=
    (hlog row.scopeKey).stored (List.mem_filter.mpr ⟨hrow, decide_eq_true rfl⟩)
  obtain ⟨fields, hread, -, hdumps⟩ := hof.evidence.payload hof.commandPayload
  rw [← hof.commandSha256] at hread
  refine ⟨first, previousSha256, hof, fields, hread, ?_⟩
  rw [equal_congr hdumps]
  constructor
  · exact OperatorCommand.modelDump_injective
  · rintro rfl
    exact equal_refl hof.evidence.keys

/-- A command is a duplicate that leaves the tables, or the next of its scope that is recorded. -/
theorem applyCommand_ok {snapshot : OperatorSnapshot} (hlog : tables.Logged)
    (h : applyCommand env command tables = .ok (tables', snapshot)) :
    (tables' = tables ∧ ∃ row ∈ tables.commands, row.commandId = command.commandId ∧
        ∃ previousSha256, row.Of command previousSha256) ∨
      (tables.commandOf command.commandId = none ∧
        latchVersion (tables.controls (scopeKey command.scope)) = command.expectedVersion ∧
        ∃ row control, Recorded tables tables' command row control) := by
  unfold applyCommand at h
  obtain ⟨_, hvalid, h⟩ := bind_ok h
  obtain ⟨_, -, h⟩ := bind_ok h
  split at h
  · rename_i old hold
    obtain ⟨stored, hstored, h⟩ := bind_ok h
    obtain ⟨_, hequal, h⟩ := bind_ok h
    obtain ⟨_, -, h⟩ := bind_ok h
    obtain ⟨rfl, -⟩ := Prod.mk.inj (Except.ok.inj h)
    have hmem := List.mem_of_find?_eq_some hold
    obtain ⟨first, previousSha256, hof, fields, hread, hiff⟩ := @stored_command _ command hlog _ hmem
    obtain rfl : stored = fields := Except.ok.inj (hstored.symm.trans hread)
    obtain rfl := hiff.mp (require_ok hequal)
    exact Or.inl ⟨rfl, old, hmem, hof.commandId, previousSha256, hof⟩
  · rename_i hnew
    obtain ⟨_, hversion, h⟩ := bind_ok h
    obtain ⟨_, hlatch, h⟩ := bind_ok h
    obtain ⟨_, -, h⟩ := bind_ok h
    obtain ⟨recorded, hrecorded, h⟩ := bind_ok h
    obtain ⟨_, -, h⟩ := bind_ok h
    obtain ⟨rfl, -⟩ := Prod.mk.inj (Except.ok.inj h)
    have hlatched := checkLatch_ok hlog hlatch
    exact Or.inr ⟨hnew, require_ok hversion,
      recordCommand_ok (require_ok hvalid) (env.millis_bound env.now) (require_ok hversion) hlatched hrecorded⟩

theorem applyCommand_redelivered (hlog : tables.Logged) {row : CommandRow}
    (hrow : tables.commandOf command.commandId = some row) {first : OperatorCommand} {previousSha256 : String}
    (hof : row.Of first previousSha256) (hvalid : command.Valid) (hrole : env.operatorRole = true) :
    if first = command then ∃ snapshot, applyCommand env command tables = .ok (tables, snapshot)
    else applyCommand env command tables =
      .error (.messageIdentityConflict "operator command identity was reused with different content") := by
  have hmem := List.mem_of_find?_eq_some hrow
  obtain ⟨stored, _, hstored, fields, hread, hiff⟩ := @stored_command _ command hlog _ hmem
  obtain rfl := hof.unique hstored
  have happly : applyCommand env command tables = (do
      Transactions.require (equal (.obj fields) command.modelDump = true)
        (OperatorError.messageIdentityConflict "operator command identity was reused with different content")
      let snapshot ← operatorSnapshot env command.scope false tables
      return (tables, snapshot)) := by
    rw [applyCommand, require_pos hvalid, ok_bind, require_pos hrole, ok_bind, hrow]
    dsimp only
    rw [hread, ok_bind]
  rw [happly]
  split
  · rename_i hsame
    subst hsame
    -- the latch exists, as the log of the scope holds the command
    have hlogged : row ∈ tables.logOf (scopeKey first.scope) := List.mem_filter.mpr ⟨hmem, by simp [hof.scopeKey]⟩
    obtain ⟨control, hcontrol, hpayload⟩ := (hlog _).scope hlogged hof
    have hscopeLog := hlog (scopeKey first.scope)
    rw [hcontrol] at hscopeLog
    obtain ⟨_, -, last, _, hlast, hlatched, -, -⟩ := hscopeLog.head
    have hscope : last.scope = first.scope :=
      CanaryScope.unique hlast.valid.2.1 hof.valid.2.1 hlatched.scopePayload hpayload
    rw [require_pos (hiff.mpr rfl), ok_bind,
      operatorSnapshot_logged hlog hcontrol hlatched hlast.valid.2.1, if_pos hscope]
    exact ⟨_, rfl⟩
  · rename_i hdiffers
    rw [require_neg (mt hiff.mp hdiffers)]
    rfl

theorem applyCommand_stale (hnew : tables.commandOf command.commandId = none)
    (hversion : latchVersion (tables.controls (scopeKey command.scope)) ≠ command.expectedVersion) :
    ∃ e, applyCommand env command tables = .error e := by
  unfold applyCommand
  by_cases hvalid : command.Valid
  · by_cases hrole : env.operatorRole = true
    · rw [require_pos hvalid, ok_bind, require_pos hrole, ok_bind, hnew]
      dsimp only
      rw [require_neg hversion]
      exact ⟨_, rfl⟩
    · rw [require_pos hvalid, ok_bind, require_neg hrole]
      exact ⟨_, rfl⟩
  · rw [require_neg hvalid]
    exact ⟨_, rfl⟩

end Commands

section Bindings

variable {env : OperatorEnvironment} {scope : CanaryScope} {tables tables' : OperatorTables}
  {decision : OperatorDecision} {binding : OperatorAdmission}

/-- The row stores the binding of its decision. -/
structure AdmissionRow.Of (row : AdmissionRow) (binding : OperatorAdmission) : Prop where
  valid : binding.Valid
  decisionId : row.decisionId = binding.decisionId
  version : row.version = binding.controlVersion
  decisionSha256 : row.decisionSha256 = binding.decisionSha256
  columns : binding.controlVersion ≤ maxBigint ∧ binding.expiresAtMs ≤ maxBigint
  payload : jsonbIn (dumps binding.modelDump) = some row.payload
  payloadSha256 : row.payloadSha256 = digest binding.modelDump

theorem AdmissionRow.Of.evidence {row : AdmissionRow} (h : row.Of binding) : Evidence binding.modelDump :=
  OperatorAdmission.evidence h.valid h.columns.1 h.columns.2

/-- A stored binding reads as itself. -/
theorem AdmissionRow.Of.read {row : AdmissionRow} (h : row.Of binding) (other : OperatorAdmission) :
    ∃ fields, operatorPayload row.payload row.payloadSha256 = .ok fields ∧
      (equal (.obj fields) other.modelDump = true ↔ binding = other) := by
  obtain ⟨fields, hread, -, hdumps⟩ := h.evidence.payload h.payload
  rw [← h.payloadSha256] at hread
  refine ⟨fields, hread, ?_⟩
  rw [equal_congr hdumps]
  constructor
  · exact OperatorAdmission.modelDump_injective
  · rintro rfl
    exact equal_refl h.evidence.keys

theorem sanitize_ok {α : Type} {message : String} {x : Except OperatorError α} {a : α}
    (h : sanitize message x = .ok a) : x = .ok a := by
  unfold sanitize at h
  split at h <;> first | exact h | cases h

theorem operatorSnapshot_ok {active : Bool} {snapshot : OperatorSnapshot}
    (h : operatorSnapshot env scope active tables = .ok snapshot) :
    ∃ control, tables.controls (scopeKey scope) = some control ∧ snapshot = control.snapshot scope ∧
      (active = true → control.state = .armed) ∧
      ∃ stored, operatorPayload control.scopePayload control.scopeSha256 = .ok stored ∧
        equal (.obj stored) scope.modelDump = true := by
  unfold operatorSnapshot at h
  obtain ⟨_, -, h⟩ := bind_ok h
  obtain ⟨control, hcontrol, h⟩ := bind_ok h
  obtain ⟨stored, hstored, h⟩ := bind_ok h
  obtain ⟨_, hequal, h⟩ := bind_ok h
  obtain ⟨_, -, h⟩ := bind_ok h
  obtain ⟨_, -, h⟩ := bind_ok h
  obtain ⟨_, hlive, h⟩ := bind_ok h
  refine ⟨control, found_ok hcontrol, (Except.ok.inj h).symm, ?_, stored, hstored, require_ok hequal⟩
  rintro rfl
  rw [cond_true, checkActive] at hlive
  obtain ⟨_, harmed, -⟩ := bind_ok hlive
  exact require_ok harmed

/-- What a decision is bound to, when it is. -/
structure Bound (tables : OperatorTables) (decision : OperatorDecision) (scope : CanaryScope) (version : ℕ)
    (control : ControlRow) (binding : OperatorAdmission) : Prop where
  controls : tables.controls (scopeKey scope) = some control
  armed : control.state = .armed
  version : control.version = version
  binds : ∃ decisionId tradeId decisionSha256 sessionId expiresAtMs,
    operatorDecision decision scope = .ok (decisionId, tradeId, decisionSha256) ∧
    control.sessionId = some sessionId ∧ control.expiresAtMs = some expiresAtMs ∧
    binding = admissionOf scope decision decisionId tradeId decisionSha256 control.version sessionId expiresAtMs
  valid : binding.Valid

theorem bindDecision_ok {expectedVersion : ℕ}
    (h : bindDecision env decision scope expectedVersion tables = .ok (tables', binding)) :
    (∃ control, Bound tables decision scope expectedVersion control binding) ∧
      keepAdmission scope binding tables = .ok tables' := by
  unfold bindDecision at h
  obtain ⟨⟨decisionId, tradeId, decisionSha256⟩, hdecision, h⟩ := bind_ok h
  replace h := sanitize_ok h
  unfold bindAdmission at h
  obtain ⟨_, -, h⟩ := bind_ok h
  obtain ⟨current, hcurrent, h⟩ := bind_ok h
  obtain ⟨_, hversion, h⟩ := bind_ok h
  obtain ⟨sessionId, hsession, h⟩ := bind_ok h
  obtain ⟨expiresAtMs, hexpires, h⟩ := bind_ok h
  obtain ⟨_, hvalid, h⟩ := bind_ok h
  obtain ⟨kept, hkept, h⟩ := bind_ok h
  obtain ⟨rfl, rfl⟩ := Prod.mk.inj (Except.ok.inj h)
  obtain ⟨control, hcontrol, rfl, harmed, -⟩ := operatorSnapshot_ok hcurrent
  refine ⟨⟨control, hcontrol, harmed rfl, require_ok hversion, ?_, require_ok hvalid⟩, hkept⟩
  exact ⟨decisionId, tradeId, decisionSha256, sessionId, expiresAtMs, hdecision, found_ok hsession, found_ok hexpires,
    rfl⟩

/-- The binding of a logged latch fits its columns. -/
theorem Bound.columns {version : ℕ} {control : ControlRow} (hlog : tables.Logged)
    (h : Bound tables decision scope version control binding) :
    binding.controlVersion ≤ maxBigint ∧ binding.expiresAtMs ≤ maxBigint := by
  obtain ⟨decisionId, tradeId, decisionSha256, sessionId, expiresAtMs, -, -, hexpires, rfl⟩ := h.binds
  have hscopeLog := hlog (scopeKey scope)
  rw [h.controls] at hscopeLog
  obtain ⟨row, -, command, _, hrow, hlatched, -, -⟩ := hscopeLog.head
  have hcolumns := hrow.columns
  rw [bigintColumns, Bool.and_eq_true, decide_eq_true_eq, ← hlatched.version, ← hlatched.expiresAtMs, hexpires,
    Option.all_some, decide_eq_true_eq] at hcolumns
  exact ⟨hcolumns.1, (min_le_left _ _).trans (Int.ofNat_le.mpr hcolumns.2)⟩

/-- Every admission stores the binding of its decision. -/
def OperatorTables.Admitted (tables : OperatorTables) : Prop := ∀ row ∈ tables.admissions, ∃ binding, row.Of binding

theorem admissionOf_eq {row : AdmissionRow} (h : row ∈ tables.admissions) :
    tables.admissionOf row.decisionId = some row := by
  have hfind : (tables.admissionOf row.decisionId).isSome := by
    rw [OperatorTables.admissionOf, List.find?_isSome]
    exact ⟨row, h, by simp⟩
  obtain ⟨found, hfound⟩ := Option.isSome_iff_exists.mp hfind
  have hsame : found.decisionId = row.decisionId := by simpa using List.find?_some hfound
  rw [hfound, List.inj_on_of_nodup_map tables.unique_admissions (List.mem_of_find?_eq_some hfound) h hsame]

/-- A decision is bound once: a later binding is the one that is stored. -/
theorem keepAdmission_stored {row : AdmissionRow} {stored : OperatorAdmission} (hrow : row ∈ tables.admissions)
    (hof : row.Of stored) (hdecision : row.decisionId = binding.decisionId) :
    keepAdmission scope binding tables = if stored = binding then .ok tables
      else .error (.refused "existing risk decision belongs to a different operator fence") := by
  obtain ⟨fields, hread, hiff⟩ := hof.read binding
  have hfind := admissionOf_eq hrow
  rw [hdecision] at hfind
  unfold keepAdmission
  rw [hfind]
  dsimp only
  rw [hread, ok_bind]
  split
  · rename_i hsame
    rw [require_pos (hiff.mpr hsame)]
    rfl
  · rename_i hdiffers
    rw [require_neg (mt hiff.mp hdiffers)]
    rfl

theorem keepAdmission_ok (hadmitted : tables.Admitted) (hvalid : binding.Valid)
    (hcolumns : binding.controlVersion ≤ maxBigint ∧ binding.expiresAtMs ≤ maxBigint)
    (h : keepAdmission scope binding tables = .ok tables') :
    tables'.commands = tables.commands ∧ tables'.controls = tables.controls ∧ tables'.claims = tables.claims ∧
      tables'.Admitted ∧ tables.admissions ⊆ tables'.admissions ∧ ∃ row ∈ tables'.admissions, row.Of binding := by
  cases hfind : tables.admissionOf binding.decisionId with
  | some old =>
    have hmem := List.mem_of_find?_eq_some hfind
    have hsame : old.decisionId = binding.decisionId := by simpa using List.find?_some hfind
    obtain ⟨stored, hof⟩ := hadmitted old hmem
    rw [keepAdmission_stored hmem hof hsame] at h
    split at h
    · rename_i heq
      obtain rfl := Except.ok.inj h
      exact ⟨rfl, rfl, rfl, hadmitted, List.Subset.refl _, old, hmem, heq ▸ hof⟩
    · cases h
  | none =>
    unfold keepAdmission at h
    rw [hfind] at h
    obtain ⟨payload, hpayload, h⟩ := bind_ok h
    unfold OperatorTables.insertAdmission at h
    split at h
    · cases h
    obtain rfl := Except.ok.inj h
    have hof : AdmissionRow.Of ⟨binding.decisionId, scopeKey scope, binding.controlVersion, binding.decisionSha256,
        payload, digest binding.modelDump⟩ binding :=
      ⟨hvalid, rfl, rfl, rfl, hcolumns, found_ok hpayload, rfl⟩
    refine ⟨rfl, rfl, rfl, ?_, List.subset_cons_self _ _, _, List.mem_cons_self, hof⟩
    exact List.forall_mem_cons.mpr ⟨⟨binding, hof⟩, hadmitted⟩

end Bindings

section Claims

variable {env : OperatorEnvironment} {entry : EntryEnvironment} {scope : CanaryScope} {tables tables' : OperatorTables}
  {decision : OperatorDecision} {effectId : String} {claim : OperatorClaim} {binding : OperatorAdmission}

/-- The claim is for the admission of its decision, under the version at which the latch of the scope is armed. -/
structure OperatorClaim.Live (claim : OperatorClaim) (tables : OperatorTables) (decision : OperatorDecision)
    (scope : CanaryScope) (effectId : String) : Prop where
  effectId : claim.effectId = effectId
  decisionId : decision.decisionId = some claim.decisionId
  scopeKey : claim.scopeKey = KairosPersistence.scopeKey scope
  admission : ∃ row ∈ tables.admissions, row.decisionId = claim.decisionId ∧ row.version = claim.version ∧
    row.scopeKey = claim.scopeKey
  armed : ∃ control, tables.controls claim.scopeKey = some control ∧ control.state = .armed ∧
    control.version = claim.version

theorem operatorDecision_ok {decisionId tradeId decisionSha256 : String}
    (h : operatorDecision decision scope = .ok (decisionId, tradeId, decisionSha256)) :
    decision.decisionId = some decisionId := by
  unfold operatorDecision at h
  obtain ⟨_, -, h⟩ := bind_ok h
  obtain ⟨id, hid, h⟩ := bind_ok h
  obtain ⟨_, -, h⟩ := bind_ok h
  obtain ⟨_, -, h⟩ := bind_ok h
  rw [found_ok hid, (Prod.mk.inj (Except.ok.inj h)).1]

theorem claimOperatorDispatch_ok
    (h : claimOperatorDispatch env entry decision scope effectId tables = .ok (tables', claim, binding)) :
    claim.Live tables decision scope effectId ∧ tables'.claims = claim :: tables.claims ∧ claim ∉ tables.claims ∧
      tables'.commands = tables.commands ∧ tables'.controls = tables.controls ∧
      tables'.admissions = tables.admissions := by
  replace h := sanitize_ok h
  unfold claimAdmission at h
  obtain ⟨_, -, h⟩ := bind_ok h
  obtain ⟨checked, hchecked, h⟩ := bind_ok h
  obtain ⟨_, -, h⟩ := bind_ok h
  obtain ⟨_, hfresh, h⟩ := bind_ok h
  obtain ⟨payload, -, h⟩ := bind_ok h
  obtain ⟨inserted, hinserted, h⟩ := bind_ok h
  obtain ⟨rfl, rfl, rfl⟩ : inserted = tables' ∧ _ = claim ∧ checked = binding := by
    simpa only [Prod.mk.injEq] using Except.ok.inj h
  unfold checkAdmission at hchecked
  obtain ⟨⟨decisionId, tradeId, decisionSha256⟩, hdecision, hchecked⟩ := bind_ok hchecked
  obtain ⟨_, -, hchecked⟩ := bind_ok hchecked
  obtain ⟨current, hcurrent, hchecked⟩ := bind_ok hchecked
  obtain ⟨row, hrow, hchecked⟩ := bind_ok hchecked
  obtain ⟨_, -, hchecked⟩ := bind_ok hchecked
  obtain ⟨admission, -, hchecked⟩ := bind_ok hchecked
  obtain ⟨_, hmatches, hchecked⟩ := bind_ok hchecked
  obtain rfl := Except.ok.inj hchecked
  obtain ⟨hkey, hversion, -, hcurrentVersion, -, -, hid, -, -, -⟩ := require_ok hmatches
  obtain ⟨control, hcontrol, rfl, harmed, -⟩ := operatorSnapshot_ok hcurrent
  have hfind := found_ok hrow
  have hrowId : row.decisionId = decisionId := by simpa using List.find?_some hfind
  refine ⟨⟨rfl, ?_, rfl, ?_, control, hcontrol, harmed rfl, hcurrentVersion.symm⟩, ?_, ?_, ?_⟩
  · rw [operatorDecision_ok hdecision, hid]
  · exact ⟨row, List.mem_of_find?_eq_some hfind, hrowId.trans hid.symm, hversion, hkey⟩
  · unfold OperatorTables.insertClaim at hinserted
    split at hinserted
    · cases hinserted
    · rw [← Except.ok.inj hinserted]
  · intro hmem
    exact (require_ok hfresh _ hmem).1 rfl
  · unfold OperatorTables.insertClaim at hinserted
    split at hinserted
    · cases hinserted
    · rw [← Except.ok.inj hinserted]
      exact ⟨rfl, rfl, rfl⟩

end Claims

end KairosPersistence
