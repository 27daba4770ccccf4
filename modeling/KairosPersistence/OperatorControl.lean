import KairosPersistence.CanarySession
import KairosPersistence.JsonReading
import KairosPersistence.SourceUsage

/-!
`OperatorControlRepository`: the latch of a scope, the log of the commands that
set it, the admissions of decisions and the claims of their dispatches.
-/

namespace KairosPersistence

open PythonJson PythonText
open Transactions (require found)

inductive OperatorError where
  | refused (message : String)
  | unavailable (message : String)
  | messageIdentityConflict (message : String)
  | valueError (message : String)
  | databaseError
  deriving DecidableEq, Repr

def zeroSha : String := String.ofList (List.replicate 64 '0')

def maxPayloadBytes : ℕ := 262144

section Validation

/-- Where `str.casefold` yields ASCII letters only; other characters are left as they are. -/
def casefold (s : String) : String :=
  String.ofList (s.toList.flatMap fun c =>
    if 'A' ≤ c ∧ c ≤ 'Z' then [Char.ofNat (c.toNat + 32)]
    else match c.toNat with
      | 0xdf | 0x1e9e => ['s', 's']
      | 0x17f => ['s']
      | 0x212a => ['k']
      | 0xfb00 => ['f', 'f']
      | 0xfb01 => ['f', 'i']
      | 0xfb02 => ['f', 'l']
      | 0xfb03 => ['f', 'f', 'i']
      | 0xfb04 => ['f', 'f', 'l']
      | 0xfb05 | 0xfb06 => ['s', 't']
      | _ => [c])

def isLowerOrDigit (c : Char) : Bool := ('a' ≤ c && c ≤ 'z') || ('0' ≤ c && c ≤ '9')

/-- The pattern of `CanaryScope.account_id`. -/
def isCanaryAccount (s : String) : Bool :=
  match s.toList.drop 17 with
  | [] => false
  | c :: cs => s.toList.take 17 = "kairos-paper-dev-".toList && isLowerOrDigit c &&
      cs.all (fun d => isLowerOrDigit d || d = '-') && cs.length ≤ 63

/-- What the validators of `CanaryScope` demand. -/
def CanaryScope.Valid (scope : CanaryScope) : Prop :=
  (scope.environment = "paper" ∨ scope.environment = "paper-dev") ∧ isCanaryAccount scope.accountId = true ∧
    0 < scope.remoteAccountId.length ∧ scope.remoteAccountId.length ≤ 128 ∧
    scope.remoteAccountId = strip scope.remoteAccountId ∧
    casefold scope.remoteAccountId ∉ ["prod", "production", "live", "not_configured"] ∧
    isSha256 scope.configSha256 = true ∧ isSha256 scope.recorderCodeSha256 = true

instance (scope : CanaryScope) : Decidable scope.Valid := inferInstanceAs (Decidable (_ ∧ _))

deriving instance DecidableEq for CanaryScope

inductive OperatorAction where
  | arm
  | disarm
  | kill
  deriving DecidableEq, Repr

def OperatorAction.text : OperatorAction → String
  | .arm => "ARM"
  | .disarm => "DISARM"
  | .kill => "KILL"

/-- `OperatorCommandV1`. -/
structure OperatorCommand where
  commandId : String
  scope : CanaryScope
  action : OperatorAction
  expectedVersion : ℕ
  operatorLabel : String
  sessionId : Option String
  expiresAtMs : Option ℕ
  deriving DecidableEq

def isOperatorLabel (s : String) : Bool :=
  0 < s.length && s.length ≤ 64 && s.toList.all fun c =>
    isLowerOrDigit c || ('A' ≤ c && c ≤ 'Z') || c = '_' || c = '.' || c = '-'

/-- What the validators of `OperatorCommandV1` demand; only an `ARM` carries a lease. -/
def OperatorCommand.Valid (command : OperatorCommand) : Prop :=
  isSha256 command.commandId = true ∧ command.scope.Valid ∧ isOperatorLabel command.operatorLabel = true ∧
    (∀ s ∈ command.sessionId, isSha256 s = true) ∧ (∀ n ∈ command.expiresAtMs, 0 < n) ∧
    (command.action = .arm ↔ command.sessionId.isSome ∧ command.expiresAtMs.isSome) ∧
    (command.action ≠ .arm → command.sessionId = none ∧ command.expiresAtMs = none)

instance (command : OperatorCommand) : Decidable command.Valid := inferInstanceAs (Decidable (_ ∧ _))

def optStr : Option String → PyJson
  | none => .null
  | some s => .str s

def optNat : Option ℕ → PyJson
  | none => .null
  | some n => .num (.int n)

/-- `OperatorCommandV1.model_dump`. -/
def OperatorCommand.modelDump (command : OperatorCommand) : PyJson :=
  .obj [
    ("command_id", .str command.commandId),
    ("scope", command.scope.modelDump),
    ("action", .str command.action.text),
    ("expected_version", .num (.int command.expectedVersion)),
    ("operator_label", .str command.operatorLabel),
    ("session_id", optStr command.sessionId),
    ("expires_at_ms", optNat command.expiresAtMs)]

/-- `OperatorAdmissionV1`. -/
structure OperatorAdmission where
  scopeSha256 : String
  controlVersion : ℕ
  sessionId : String
  decisionId : String
  decisionSha256 : String
  tradeId : String
  expiresAtMs : ℤ
  deriving DecidableEq, Repr

def OperatorAdmission.Valid (binding : OperatorAdmission) : Prop :=
  isSha256 binding.scopeSha256 = true ∧ 0 < binding.controlVersion ∧ isSha256 binding.sessionId = true ∧
    isSha256 binding.decisionId = true ∧ isSha256 binding.decisionSha256 = true ∧ isSha256 binding.tradeId = true ∧
    0 < binding.expiresAtMs

instance (binding : OperatorAdmission) : Decidable binding.Valid := inferInstanceAs (Decidable (_ ∧ _))

/-- `OperatorAdmissionV1.model_dump`. -/
def OperatorAdmission.modelDump (binding : OperatorAdmission) : PyJson :=
  .obj [
    ("scope_sha256", .str binding.scopeSha256),
    ("control_version", .num (.int binding.controlVersion)),
    ("session_id", .str binding.sessionId),
    ("decision_id", .str binding.decisionId),
    ("decision_sha256", .str binding.decisionSha256),
    ("trade_id", .str binding.tradeId),
    ("expires_at_ms", .num (.int binding.expiresAtMs))]

section Parsing

def strField (fields : List (String × PyJson)) (key : String) : Option String :=
  match getField fields key with
  | .str s => some s
  | _ => none

def intField (fields : List (String × PyJson)) (key : String) : Option ℤ :=
  match getField fields key with
  | .num (.int n) => some n
  | _ => none

def natField (fields : List (String × PyJson)) (key : String) : Option ℕ :=
  (intField fields key).bind fun n => if 0 ≤ n then some n.toNat else none

/-- A field that may be `None`, or absent. -/
def optField {α : Type} (read : List (String × PyJson) → String → Option α) (fields : List (String × PyJson))
    (key : String) : Option (Option α) :=
  match getField fields key with
  | .null => some none
  | _ => (read fields key).map some

def onlyFields (fields : List (String × PyJson)) (names : List String) : Bool := fields.all fun p => p.1 ∈ names

/-- A constant of the model, which may be left out. -/
def constantField (fields : List (String × PyJson)) (key : String) (value : PyJson) : Bool :=
  fields.all fun p => p.1 ≠ key || equal p.2 value

/-- `CanaryScope.model_validate`. -/
def CanaryScope.modelValidate (value : PyJson) : Option CanaryScope :=
  match value with
  | .obj fields => do
    guard (onlyFields fields ["project", "environment", "account_id", "remote_account_id", "exchange_url", "auth_url",
      "chain_id", "sdk_version", "config_sha256", "recorder_code_sha256"])
    guard (constantField fields "project" (.str "kairos-paper-gate"))
    guard (constantField fields "exchange_url" (.str "https://trading-api.evedex.tech"))
    guard (constantField fields "auth_url" (.str "https://auth-api.evedex.tech"))
    guard (constantField fields "chain_id" (.num (.int 16182)))
    guard (constantField fields "sdk_version" (.str "1.2.11"))
    let environment ← strField fields "environment"
    let accountId ← strField fields "account_id"
    let remoteAccountId ← strField fields "remote_account_id"
    let configSha256 ← strField fields "config_sha256"
    let recorderCodeSha256 ← strField fields "recorder_code_sha256"
    let scope : CanaryScope := ⟨environment, accountId, remoteAccountId, configSha256, recorderCodeSha256⟩
    guard scope.Valid
    return scope
  | _ => none

def OperatorAction.ofText (text : String) : Option OperatorAction :=
  [OperatorAction.arm, .disarm, .kill].find? (·.text = text)

/-- `OperatorCommandV1.model_validate`. -/
def OperatorCommand.modelValidate (fields : List (String × PyJson)) : Option OperatorCommand := do
  guard (onlyFields fields ["command_id", "scope", "action", "expected_version", "operator_label", "session_id",
    "expires_at_ms"])
  let commandId ← strField fields "command_id"
  let scope ← CanaryScope.modelValidate (getField fields "scope")
  let action ← (strField fields "action").bind OperatorAction.ofText
  let expectedVersion ← natField fields "expected_version"
  let operatorLabel ← strField fields "operator_label"
  let sessionId ← optField strField fields "session_id"
  let expiresAtMs ← optField natField fields "expires_at_ms"
  let command : OperatorCommand :=
    ⟨commandId, scope, action, expectedVersion, operatorLabel, sessionId, expiresAtMs⟩
  guard command.Valid
  return command

/-- `OperatorAdmissionV1.model_validate`. -/
def OperatorAdmission.modelValidate (fields : List (String × PyJson)) : Option OperatorAdmission := do
  guard (onlyFields fields ["scope_sha256", "control_version", "session_id", "decision_id", "decision_sha256",
    "trade_id", "expires_at_ms"])
  let scopeSha256 ← strField fields "scope_sha256"
  let controlVersion ← natField fields "control_version"
  let sessionId ← strField fields "session_id"
  let decisionId ← strField fields "decision_id"
  let decisionSha256 ← strField fields "decision_sha256"
  let tradeId ← strField fields "trade_id"
  let expiresAtMs ← intField fields "expires_at_ms"
  let binding : OperatorAdmission :=
    ⟨scopeSha256, controlVersion, sessionId, decisionId, decisionSha256, tradeId, expiresAtMs⟩
  guard binding.Valid
  return binding

end Parsing

end Validation

section Evidence

def childValues : PyJson → List PyJson
  | .arr items => items
  | .obj fields => fields.map Prod.snd
  | _ => []

/-- The loop of `_payload` over the values still pending, the next one first; `nodes` more may be visited. -/
def checkStructure : ℕ → List (PyJson × ℕ) → Except OperatorError Unit
  | _, [] => .ok ()
  | 0, _ :: _ => .error (.messageIdentityConflict "operator evidence exceeds bounded structure")
  | nodes + 1, (item, depth) :: pending =>
    if 32 < depth then .error (.messageIdentityConflict "operator evidence exceeds bounded structure")
    else match item with
      | .obj fields =>
        if 10000 < fields.length then .error (.messageIdentityConflict "operator evidence object is too large")
        else checkStructure nodes (((childValues item).map (·, depth + 1)).reverse ++ pending)
      | .arr items =>
        if 10000 < items.length then .error (.messageIdentityConflict "operator evidence array is too large")
        else checkStructure nodes (((childValues item).map (·, depth + 1)).reverse ++ pending)
      | .str s =>
        if maxPayloadBytes < s.utf8ByteSize then
          .error (.messageIdentityConflict "operator evidence text is too large")
        else checkStructure nodes pending
      | _ => checkStructure nodes pending

/-- `_payload` of a column. -/
def operatorPayload (column : JsonColumn) (expectedSha : String) :
    Except OperatorError (List (String × PyJson)) :=
  if maxPayloadBytes < (Jsonb.jsonbOut column).utf8ByteSize then
    .error (.messageIdentityConflict "operator evidence exceeds its bounded size")
  else match readColumn column with
    | some (.obj fields) => do
      checkStructure 10000 [(.obj fields, 0)]
      require ((dumps (.obj fields)).utf8ByteSize ≤ maxPayloadBytes ∧ digest (.obj fields) = expectedSha)
        (.messageIdentityConflict "operator evidence fingerprint differs")
      return fields
    | _ => .error (.messageIdentityConflict "operator evidence must be an object")

end Evidence

/-- `scope_key`: the local names of a remote account share its latch. -/
def scopeKey (scope : CanaryScope) : String :=
  digest (.obj [
    ("domain", .str "kairos.operator-account.v1"),
    ("profile", .str "DEV"),
    ("exchange", .str "evedex"),
    ("remote_account_id", .str scope.remoteAccountId)])

section Tables

inductive LatchState where
  | armed
  | disarmed
  | killed
  deriving DecidableEq, Repr

def OperatorAction.latchState : OperatorAction → LatchState
  | .arm => .armed
  | .disarm => .disarmed
  | .kill => .killed

/-- A row of `operator_controls`. -/
structure ControlRow where
  scopePayload : JsonColumn
  scopeSha256 : String
  version : ℕ
  state : LatchState
  sessionId : Option String
  expiresAtMs : Option ℕ
  auditHeadSha256 : String

/-- A row of `operator_control_commands`; its actor is the operator role. -/
structure CommandRow where
  commandId : String
  scopeKey : String
  version : ℕ
  commandPayload : JsonColumn
  commandSha256 : String
  eventPayload : JsonColumn
  eventSha256 : String

structure AdmissionRow where
  decisionId : String
  scopeKey : String
  version : ℕ
  decisionSha256 : String
  payload : JsonColumn
  payloadSha256 : String

structure OperatorClaim where
  effectId : String
  decisionId : String
  scopeKey : String
  version : ℕ
  payload : JsonColumn
  payloadSha256 : String

/-- The tables, the last row of each first. -/
structure OperatorTables where
  controls : String → Option ControlRow
  commands : List CommandRow
  admissions : List AdmissionRow
  claims : List OperatorClaim
  unique_commands : (commands.map (·.commandId)).Nodup
  unique_versions : (commands.map fun r => (r.scopeKey, r.version)).Nodup
  unique_admissions : (admissions.map (·.decisionId)).Nodup
  unique_effects : (claims.map (·.effectId)).Nodup
  unique_decisions : (claims.map (·.decisionId)).Nodup

namespace OperatorTables

def commandOf (tables : OperatorTables) (commandId : String) : Option CommandRow :=
  tables.commands.find? (·.commandId = commandId)

def commandAt (tables : OperatorTables) (key : String) (version : ℕ) : Option CommandRow :=
  tables.commands.find? fun r => r.scopeKey = key && r.version = version

def admissionOf (tables : OperatorTables) (decisionId : String) : Option AdmissionRow :=
  tables.admissions.find? (·.decisionId = decisionId)

/-- `INSERT INTO operator_control_commands`. -/
def insertCommand (tables : OperatorTables) (row : CommandRow) : Except OperatorError OperatorTables :=
  if h : row.commandId ∈ tables.commands.map (·.commandId) ∨
      (row.scopeKey, row.version) ∈ tables.commands.map fun r => (r.scopeKey, r.version) then
    .error .databaseError
  else .ok { tables with
    commands := row :: tables.commands
    unique_commands := List.nodup_cons.mpr ⟨fun hm => h (Or.inl hm), tables.unique_commands⟩
    unique_versions := List.nodup_cons.mpr ⟨fun hm => h (Or.inr hm), tables.unique_versions⟩ }

/-- The upsert of `operator_controls`. -/
def setControl (tables : OperatorTables) (key : String) (row : ControlRow) : OperatorTables :=
  { tables with controls := Function.update tables.controls key (some row) }

/-- `INSERT INTO operator_control_admissions`. -/
def insertAdmission (tables : OperatorTables) (row : AdmissionRow) : Except OperatorError OperatorTables :=
  if h : row.decisionId ∈ tables.admissions.map (·.decisionId) then .error .databaseError
  else .ok { tables with
    admissions := row :: tables.admissions
    unique_admissions := List.nodup_cons.mpr ⟨h, tables.unique_admissions⟩ }

/-- `INSERT INTO operator_control_dispatch_claims`. -/
def insertClaim (tables : OperatorTables) (row : OperatorClaim) : Except OperatorError OperatorTables :=
  if h : row.effectId ∈ tables.claims.map (·.effectId) ∨ row.decisionId ∈ tables.claims.map (·.decisionId) then
    .error .databaseError
  else .ok { tables with
    claims := row :: tables.claims
    unique_effects := List.nodup_cons.mpr ⟨fun hm => h (Or.inl hm), tables.unique_effects⟩
    unique_decisions := List.nodup_cons.mpr ⟨fun hm => h (Or.inr hm), tables.unique_decisions⟩ }

end OperatorTables

end Tables

section Operations

/-- What a connection sees besides the tables: what the catalog says of its role, the clock, the conversion
to milliseconds and the canary sessions. -/
structure OperatorEnvironment where
  operatorRole : Bool
  runtimePrivileges : Bool
  now : Timestamp
  millis : Timestamp → ℤ
  -- a `datetime` ends with the year 9999
  millis_bound : ∀ t, (millis t).natAbs < 2 ^ 63
  sessions : String → Option CanarySession

structure OperatorSnapshot where
  scope : CanaryScope
  version : ℕ
  state : LatchState
  sessionId : Option String
  expiresAtMs : Option ℕ
  auditHeadSha256 : String

/-- `_session`. -/
def checkSession (env : OperatorEnvironment) (scope : CanaryScope) (sessionId : Option String) (expiry : ℕ) :
    Except OperatorError Unit := do
  let refusal := OperatorError.refused "operator lease requires the exact active bounded canary session"
  let row ← found (sessionId.bind env.sessions) refusal
  require ((row.state = .armed ∨ row.state = .running) ∧ row.scopeSha256 = digest scope.modelDump) refusal
  let stored ← operatorPayload row.scope row.scopeSha256
  require (equal (.obj stored) scope.modelDump = true ∧ env.millis env.now < expiry ∧
    expiry ≤ env.millis row.entryDeadlineAt) refusal

/-- The event of a command. -/
def commandEvent (commandSha256 : String) (version : ℕ) (previousSha256 : String) (observedAtMs : ℤ) : PyJson :=
  .obj [
    ("domain", .str "kairos.operator-command-event.v1"),
    ("actor", .str "kairos_operator"),
    ("command_sha256", .str commandSha256),
    ("version", .num (.int version)),
    ("previous_sha256", .str previousSha256),
    ("observed_at_ms", .num (.int observedAtMs))]

/-- The head of the log is the command that set the latch. -/
def checkHead (scope : CanaryScope) (row : ControlRow) (head : CommandRow) : Except OperatorError Unit := do
  require (head.eventSha256 = row.auditHeadSha256)
    (.messageIdentityConflict "operator audit head is missing or inconsistent")
  let payload ← operatorPayload head.commandPayload head.commandSha256
  let command ← found (OperatorCommand.modelValidate payload) (.valueError "ValidationError")
  let event ← operatorPayload head.eventPayload head.eventSha256
  require (command.scope = scope ∧ command.expectedVersion + 1 = row.version ∧
      row.state = command.action.latchState ∧ row.sessionId = command.sessionId ∧
      row.expiresAtMs = command.expiresAtMs ∧
      equal (getField event "actor") (.str "kairos_operator") = true ∧
      equal (getField event "command_sha256") (.str head.commandSha256) = true ∧
      equal (getField event "version") (.num (.int row.version)) = true)
    (.messageIdentityConflict "operator latch differs from its authenticated command")

/-- The latch is armed and its lease is live. -/
def checkActive (env : OperatorEnvironment) (scope : CanaryScope) (row : ControlRow) : Except OperatorError Unit := do
  let refusal := OperatorError.refused "operator control is disarmed, killed or expired"
  require (row.state = .armed) refusal
  let expiry ← found row.expiresAtMs refusal
  require (env.millis env.now < expiry) refusal
  checkSession env scope row.sessionId expiry

/-- `_snapshot`. -/
def operatorSnapshot (env : OperatorEnvironment) (scope : CanaryScope) (active : Bool) (tables : OperatorTables) :
    Except OperatorError OperatorSnapshot := do
  require (active = true → env.runtimePrivileges = true)
    (.refused "runtime operator control requires independently separated database roles")
  let row ← found (tables.controls (scopeKey scope)) (.refused "operator control is missing")
  let stored ← operatorPayload row.scopePayload row.scopeSha256
  require (equal (.obj stored) scope.modelDump = true) (.refused "operator control scope/config differs")
  let head ← found (tables.commandAt (scopeKey scope) row.version)
    (.messageIdentityConflict "operator audit head is missing or inconsistent")
  checkHead scope row head
  bif active then checkActive env scope row else .ok ()
  return ⟨scope, row.version, row.state, row.sessionId, row.expiresAtMs, row.auditHeadSha256⟩

/-- The `BIGINT` columns of a command and its latch. -/
def bigintColumns (version : ℕ) (expiresAtMs : Option ℕ) : Bool :=
  version ≤ maxBigint && expiresAtMs.all (· ≤ maxBigint)

def latchVersion (row : Option ControlRow) : ℕ := (row.map (·.version)).getD 0

def auditHead (row : Option ControlRow) : String := (row.map (·.auditHeadSha256)).getD zeroSha

/-- The row that logs a command. -/
def commandRow (command : OperatorCommand) (version : ℕ) (commandPayload : JsonColumn) (event : PyJson)
    (eventPayload : JsonColumn) : CommandRow where
  commandId := command.commandId
  scopeKey := scopeKey command.scope
  version := version
  commandPayload := commandPayload
  commandSha256 := digest command.modelDump
  eventPayload := eventPayload
  eventSha256 := digest event

/-- The upserted latch; the scope that it shows is that of the first command. -/
def controlRow (command : OperatorCommand) (previous : Option ControlRow) (scopePayload : JsonColumn) (event : PyJson) :
    ControlRow where
  scopePayload := (previous.map (·.scopePayload)).getD scopePayload
  scopeSha256 := (previous.map (·.scopeSha256)).getD (digest command.scope.modelDump)
  version := latchVersion previous + 1
  state := command.action.latchState
  sessionId := command.sessionId
  expiresAtMs := command.expiresAtMs
  auditHeadSha256 := digest event

/-- The writes of `apply_command`: the command and its event are logged, the latch is set. -/
def recordCommand (command : OperatorCommand) (nowMs : ℤ) (tables : OperatorTables) :
    Except OperatorError OperatorTables := do
  let previous := tables.controls (scopeKey command.scope)
  let version := latchVersion previous + 1
  let event := commandEvent (digest command.modelDump) version (auditHead previous) nowMs
  let commandPayload ← found (Jsonb.jsonbIn (dumps command.modelDump)) .databaseError
  let eventPayload ← found (Jsonb.jsonbIn (dumps event)) .databaseError
  let scopePayload ← found (Jsonb.jsonbIn (dumps command.scope.modelDump)) .databaseError
  require (bigintColumns version command.expiresAtMs = true) .databaseError
  let tables ← tables.insertCommand (commandRow command version commandPayload event eventPayload)
  return tables.setControl (scopeKey command.scope) (controlRow command previous scopePayload event)

/-- The latch that a command is about to replace is consistent. -/
def checkLatch (env : OperatorEnvironment) (scope : CanaryScope) (tables : OperatorTables) :
    Except OperatorError Unit :=
  match tables.controls (scopeKey scope) with
  | none => .ok ()
  | some _ => do
    let _ ← operatorSnapshot env scope false tables
    return ()

/-- An `ARM` is for the active session. -/
def checkArm (env : OperatorEnvironment) (command : OperatorCommand) : Except OperatorError Unit :=
  match command.action with
  | .arm => do
    let expiry ← found command.expiresAtMs (.refused "operator ARM requires a fixed entry lease")
    checkSession env command.scope command.sessionId expiry
  | .disarm | .kill => .ok ()

/-- `apply_command`, under the lock of the scope. -/
def applyCommand (env : OperatorEnvironment) (command : OperatorCommand) (tables : OperatorTables) :
    Except OperatorError (OperatorTables × OperatorSnapshot) := do
  require command.Valid (.valueError "ValidationError")
  require (env.operatorRole = true)
    (.refused "manual command requires the separately reviewed operator database role")
  match tables.commandOf command.commandId with
  | some old =>
    let stored ← operatorPayload old.commandPayload old.commandSha256
    require (equal (.obj stored) command.modelDump = true)
      (.messageIdentityConflict "operator command identity was reused with different content")
    -- a duplicate is an observation, not a replay of an old command
    let snapshot ← operatorSnapshot env command.scope false tables
    return (tables, snapshot)
  | none =>
    require (latchVersion (tables.controls (scopeKey command.scope)) = command.expectedVersion)
      (.refused "operator command fencing version is stale")
    checkLatch env command.scope tables
    checkArm env command
    let tables ← recordCommand command (env.millis env.now) tables
    let snapshot ← operatorSnapshot env command.scope false tables
    return (tables, snapshot)

/-- A `RiskTradeDecisionV1` with its `model_dump`. -/
structure OperatorDecision extends EntryDecision where
  modelDump : PyJson

/-- `_decision`: the identity, the trade and the digest of a decision that may enter. -/
def operatorDecision (decision : OperatorDecision) (scope : CanaryScope) :
    Except OperatorError (String × String × String) := do
  require (decision.approved = true ∧ decision.tradingMode = "PAPER" ∧ decision.evedexProfile = "DEV" ∧
    decision.accountId = scope.accountId) (.refused "operator admission requires exact risk-approved DEV account")
  let refusal := OperatorError.refused "operator admission requires canonical decision lineage"
  let decisionId ← found decision.decisionId refusal
  let tradeId ← found decision.tradeId refusal
  require (decisionId ≠ "" ∧ tradeId ≠ "") refusal
  return (decisionId, tradeId, digest decision.modelDump)

/-- Errors that are no refusals are reported as unavailability. -/
def sanitize {α : Type} (message : String) : Except OperatorError α → Except OperatorError α
  | .ok a => .ok a
  | .error (.refused m) => .error (.refused m)
  | .error (.unavailable m) => .error (.unavailable m)
  | .error _ => .error (.unavailable message)

/-- The binding of a decision to the latch as a snapshot shows it. -/
def admissionOf (scope : CanaryScope) (decision : OperatorDecision) (decisionId tradeId decisionSha256 : String)
    (version : ℕ) (sessionId : String) (expiresAtMs : ℕ) : OperatorAdmission :=
  ⟨digest scope.modelDump, version, sessionId, decisionId, decisionSha256, tradeId,
    min (expiresAtMs : ℤ) (min decision.entryExpiresTsMs decision.venueExpiresAtMs)⟩

/-- The row of a new admission is inserted; an old one must hold the same binding. -/
def keepAdmission (scope : CanaryScope) (binding : OperatorAdmission) (tables : OperatorTables) :
    Except OperatorError OperatorTables :=
  match tables.admissionOf binding.decisionId with
  | some old => do
    let stored ← operatorPayload old.payload old.payloadSha256
    require (equal (.obj stored) binding.modelDump = true)
      (.refused "existing risk decision belongs to a different operator fence")
    return tables
  | none => do
    let payload ← found (Jsonb.jsonbIn (dumps binding.modelDump)) .databaseError
    tables.insertAdmission
      ⟨binding.decisionId, scopeKey scope, binding.controlVersion, binding.decisionSha256, payload,
        digest binding.modelDump⟩

/-- The transaction of `bind_decision`. -/
def bindAdmission (env : OperatorEnvironment) (decision : OperatorDecision) (scope : CanaryScope)
    (expectedVersion : ℕ) (decisionId tradeId decisionSha256 : String) (tables : OperatorTables) :
    Except OperatorError (OperatorTables × OperatorAdmission) := do
  require scope.Valid (.valueError "ValidationError")
  let current ← operatorSnapshot env scope true tables
  require (current.version = expectedVersion) (.refused "operator authority changed before risk publication")
  let refusal := OperatorError.refused "operator admission requires a fixed session lease"
  let sessionId ← found current.sessionId refusal
  let expiresAtMs ← found current.expiresAtMs refusal
  let binding := admissionOf scope decision decisionId tradeId decisionSha256 current.version sessionId expiresAtMs
  require binding.Valid (.valueError "ValidationError")
  let tables ← keepAdmission scope binding tables
  return (tables, binding)

/-- `bind_decision`, under the lock of the scope. -/
def bindDecision (env : OperatorEnvironment) (decision : OperatorDecision) (scope : CanaryScope)
    (expectedVersion : ℕ) (tables : OperatorTables) : Except OperatorError (OperatorTables × OperatorAdmission) := do
  let (decisionId, tradeId, decisionSha256) ← operatorDecision decision scope
  sanitize "operator risk admission could not be persisted"
    (bindAdmission env decision scope expectedVersion decisionId tradeId decisionSha256 tables)

/-- `digest_effect`. -/
def digestEffect (tradeId : String) : String := Sha256.hexdigest ("paper.v1:" ++ tradeId ++ ":ENTRY:place")

/-- `_check`. -/
def checkAdmission (env : OperatorEnvironment) (decision : OperatorDecision) (scope : CanaryScope)
    (effectId : String) (tables : OperatorTables) : Except OperatorError OperatorAdmission := do
  let (decisionId, tradeId, decisionSha256) ← operatorDecision decision scope
  require (effectId = digestEffect tradeId) (.refused "operator entry effect lineage differs")
  let current ← operatorSnapshot env scope true tables
  let row ← found (tables.admissionOf decisionId) (.refused "entry has no durable operator risk admission")
  let stored ← operatorPayload row.payload row.payloadSha256
  let binding ← found (OperatorAdmission.modelValidate stored) (.valueError "ValidationError")
  require (row.scopeKey = scopeKey scope ∧ row.version = binding.controlVersion ∧
      row.decisionSha256 = binding.decisionSha256 ∧ binding.controlVersion = current.version ∧
      some binding.sessionId = current.sessionId ∧ binding.scopeSha256 = digest scope.modelDump ∧
      binding.decisionId = decisionId ∧ binding.decisionSha256 = decisionSha256 ∧ binding.tradeId = tradeId ∧
      env.millis env.now < binding.expiresAtMs)
    (.refused "operator entry admission is stale or mismatched")
  return binding

/-- The payload of a dispatch claim. -/
def operatorClaimPayload (effectId : String) (binding : OperatorAdmission) : PyJson :=
  .obj [
    ("domain", .str "kairos.operator-dispatch.v1"),
    ("effect_id", .str effectId),
    ("admission", binding.modelDump)]

/-- The transaction of `_final_dispatch_guard`: the claim it inserts, and the binding it yields. -/
def claimAdmission (env : OperatorEnvironment) (entry : EntryEnvironment) (decision : OperatorDecision)
    (scope : CanaryScope) (effectId : String) (tables : OperatorTables) :
    Except OperatorError (OperatorTables × OperatorClaim × OperatorAdmission) := do
  require scope.Valid (.valueError "ValidationError")
  let binding ← checkAdmission env decision scope effectId tables
  (assertPreparedEffect entry decision.toEntryDecision scope effectId).mapError fun _ =>
    .unavailable "operator dispatch authority cannot be verified"
  require (∀ c ∈ tables.claims, c.effectId ≠ effectId ∧ c.decisionId ≠ binding.decisionId)
    (.refused "operator dispatch already claimed; reconcile without resending")
  let payload ← found (Jsonb.jsonbIn (dumps (operatorClaimPayload effectId binding))) .databaseError
  let claim : OperatorClaim := ⟨effectId, binding.decisionId, scopeKey scope, binding.controlVersion, payload,
    digest (operatorClaimPayload effectId binding)⟩
  let tables ← tables.insertClaim claim
  return (tables, claim, binding)

/-- `final_dispatch_guard` up to its body, under the lock of the scope. -/
def claimOperatorDispatch (env : OperatorEnvironment) (entry : EntryEnvironment) (decision : OperatorDecision)
    (scope : CanaryScope) (effectId : String) (tables : OperatorTables) :
    Except OperatorError (OperatorTables × OperatorClaim × OperatorAdmission) :=
  sanitize "operator dispatch authority cannot be verified" (claimAdmission env entry decision scope effectId tables)

end Operations

end KairosPersistence
