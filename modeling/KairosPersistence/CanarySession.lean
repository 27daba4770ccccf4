import KairosPersistence.CanonicalPayload
import KairosPersistence.PythonText
import KairosPersistence.Transactions

/-!
The tables of bounded canary sessions, and the operations of
`CanarySessionRepository` that bind, dispatch, stop and refresh them.
-/

namespace KairosPersistence

open PythonJson PythonText
open Transactions (bind_ok)

inductive CanaryError where
  | canaryAdmission (message : String)
  | messageIdentityConflict (message : String)
  | databaseError
  deriving DecidableEq, Repr

section Tables

inductive SessionState where
  | armed
  | running
  | draining
  | incomplete
  | aborted
  deriving DecidableEq, Repr

inductive AttemptState where
  | armed
  | consumed
  | terminal
  | blocked
  deriving DecidableEq, Repr

structure CanarySession where
  accountId : String
  scope : JsonColumn
  scopeSha256 : String
  plan : JsonColumn
  planSha256 : String
  state : SessionState
  entryDeadlineAt : Timestamp
  maxAttempts : ℕ
  attemptsReserved : ℕ
  stopReason : Option String

structure CanaryAttempt where
  attemptId : String
  sessionId : String
  armId : String
  reviewId : String
  intentId : String
  state : AttemptState
  terminalAt : Option Timestamp
  terminalReason : Option String
  riskDecisionId : Option String
  tradeId : Option String
  entryEffectId : Option String

structure DispatchClaim where
  effectId : String
  attemptId : String
  sessionId : String
  riskDecisionId : String
  tradeId : String
  scopeSha256 : String
  deriving DecidableEq, Repr

/-- The tables with their unique columns. -/
structure CanaryTables where
  sessions : String → Option CanarySession
  attempts : List CanaryAttempt
  claims : List DispatchClaim
  unique_attempts : (attempts.map (·.attemptId)).Nodup
  unique_reviews : (attempts.map (·.reviewId)).Nodup
  unique_effects : (claims.map (·.effectId)).Nodup
  unique_claimed : (claims.map (·.attemptId)).Nodup

namespace CanaryTables

def setSession (tables : CanaryTables) (sessionId : String) (session : CanarySession) : CanaryTables :=
  { tables with sessions := Function.update tables.sessions sessionId (some session) }

/-- An update of attempts that keeps their unique columns. -/
def mapAttempts (tables : CanaryTables) (f : CanaryAttempt → CanaryAttempt)
    (hf : ∀ a, (f a).attemptId = a.attemptId ∧ (f a).reviewId = a.reviewId) : CanaryTables :=
  { tables with
    attempts := tables.attempts.map f
    unique_attempts := by
      rw [List.map_map, show (fun a : CanaryAttempt => a.attemptId) ∘ f = (·.attemptId) from funext fun a => (hf a).1]
      exact tables.unique_attempts
    unique_reviews := by
      rw [List.map_map, show (fun a : CanaryAttempt => a.reviewId) ∘ f = (·.reviewId) from funext fun a => (hf a).2]
      exact tables.unique_reviews }

def attemptOfReview (tables : CanaryTables) (reviewId : String) : Option CanaryAttempt :=
  tables.attempts.find? (·.reviewId = reviewId)

def claimOfAttempt (tables : CanaryTables) (attemptId : String) : Option DispatchClaim :=
  tables.claims.find? (·.attemptId = attemptId)

/-- `INSERT INTO paper_canary_dispatch_claims`. -/
def insertClaim (tables : CanaryTables) (claim : DispatchClaim) : Except CanaryError CanaryTables :=
  if h : claim.effectId ∈ tables.claims.map (·.effectId) ∨ claim.attemptId ∈ tables.claims.map (·.attemptId) then
    .error .databaseError
  else .ok { tables with
    claims := claim :: tables.claims
    unique_effects := List.nodup_cons.mpr ⟨fun hm => h (Or.inl hm), tables.unique_effects⟩
    unique_claimed := List.nodup_cons.mpr ⟨fun hm => h (Or.inr hm), tables.unique_claimed⟩ }

end CanaryTables

end Tables

section Values

/-- `digest`. -/
def digest (value : PyJson) : String := (canonicalPayload value).2

structure CanaryScope where
  environment : String
  accountId : String
  remoteAccountId : String
  configSha256 : String
  recorderCodeSha256 : String

/-- `CanaryScope.model_dump`. -/
def CanaryScope.modelDump (scope : CanaryScope) : PyJson :=
  .obj [
    ("project", .str "kairos-paper-gate"),
    ("environment", .str scope.environment),
    ("account_id", .str scope.accountId),
    ("remote_account_id", .str scope.remoteAccountId),
    ("exchange_url", .str "https://trading-api.evedex.tech"),
    ("auth_url", .str "https://auth-api.evedex.tech"),
    ("chain_id", .num (.int 16182)),
    ("sdk_version", .str "1.2.11"),
    ("config_sha256", .str scope.configSha256),
    ("recorder_code_sha256", .str scope.recorderCodeSha256)]

/-- `_session`: the stored scope and plan have their digests. -/
def sessionIntact (session : CanarySession) : Bool :=
  (readColumn session.scope).any (fun scope => digest scope = session.scopeSha256) &&
    (readColumn session.plan).any fun plan => digest plan = session.planSha256

/-- `jsonb_array_length(plan->'slots')`. -/
def planSlots (plan : JsonColumn) : Option ℕ :=
  match plan with
  | .obj fields =>
    match fields.find? (·.1 = "slots") with
    | some (_, .arr slots) => some slots.length
    | _ => none
  | _ => none

/-- What `_entry_binding` reads of a `RiskTradeDecisionV1`. `exactQuantity` says that the leverage is
one and the quantity the venue minimum of the intent. -/
structure EntryDecision where
  decisionId : Option String
  tradeId : Option String
  reviewId : String
  approved : Bool
  tradingMode : String
  evedexProfile : String
  accountId : String
  symbol : String
  exactQuantity : Bool
  entryEligibleTsMs : ℤ
  entryExpiresTsMs : ℤ
  venueExpiresAtMs : ℤ

/-- A row of `execution_effects`, as far as a dispatch reads it. -/
structure PreparedEffect where
  status : String
  effectType : String
  environment : String
  accountId : String
  tradeId : Option String
  exchange : String
  symbol : String
  orderRole : String

/-- The clock, the conversions of milliseconds, and what other tables hold when a binding is checked:
`evidence` refuses a receipt, arm, review or slot that is not the one of the attempt. -/
structure EntryEnvironment where
  now : Timestamp
  millis : Timestamp → ℤ
  fromMillis : ℤ → Timestamp
  evidence : CanarySession → CanaryAttempt → Option CanaryError
  effects : String → Option PreparedEffect
  requestMatches : PreparedEffect → Bool

structure CanaryEntryBinding where
  sessionId : String
  attemptId : String
  effectId : String
  riskDecisionId : String
  tradeId : String
  entryDeadlineAt : Timestamp
  dispatchClaimed : Bool

end Values

section Binding

/-- A recorded value that is another one. -/
def bindsAnother (recorded : Option String) (expected : String) : Bool := recorded.any (· ≠ expected)

def CanaryAttempt.bind (decisionId tradeId effectId : String) (a : CanaryAttempt) : CanaryAttempt :=
  { a with riskDecisionId := some decisionId, tradeId := some tradeId, entryEffectId := some effectId }

def bindAttempt (attemptId decisionId tradeId effectId : String) (tables : CanaryTables) : CanaryTables :=
  tables.mapAttempts (fun a => if a.attemptId = attemptId then a.bind decisionId tradeId effectId else a) (by
    intro a
    by_cases h : a.attemptId = attemptId
    · rw [if_pos h]
      exact ⟨rfl, rfl⟩
    · rw [if_neg h]
      exact ⟨rfl, rfl⟩)

/-- `_entry_binding` with `active=True`, which locks the session and the attempt. -/
def entryBinding (env : EntryEnvironment) (decision : EntryDecision) (scope : CanaryScope) (effectId : String)
    (tables : CanaryTables) : Except CanaryError (CanaryTables × CanaryEntryBinding) :=
  match decision.decisionId, decision.tradeId with
  | some decisionId, some tradeId =>
    if effectId = "" ∨ strip effectId ≠ effectId ∨ 512 < effectId.length then
      .error (.canaryAdmission "a normalized entry effect identity is required")
    else if ¬(decision.approved = true ∧ decision.tradingMode = "PAPER" ∧ decision.evedexProfile = "DEV" ∧
        decision.accountId = scope.accountId) then
      .error (.canaryAdmission "entry binding requires a risk-approved exact DEV account decision")
    else if decision.exactQuantity = false then
      .error (.canaryAdmission "entry requires exactly 1x and the bound venue-minimum quantity")
    else match tables.attemptOfReview decision.reviewId with
      | none => .error (.canaryAdmission "entry session scope/account/config is missing or mismatched")
      | some attempt =>
        match tables.sessions attempt.sessionId with
        | none => .error (.canaryAdmission "entry session scope/account/config is missing or mismatched")
        | some session =>
          if session.scopeSha256 ≠ digest scope.modelDump then
            .error (.canaryAdmission "entry session scope/account/config is missing or mismatched")
          else if sessionIntact session = false then
            .error (.messageIdentityConflict "stored canary session fingerprint mismatch")
          else match env.evidence session attempt with
            | some e => .error e
            | none =>
              let deadline := min session.entryDeadlineAt (env.fromMillis decision.entryExpiresTsMs)
              if session.state ≠ .running ∨ attempt.state ≠ .consumed ∨ deadline ≤ env.now ∨
                  env.millis env.now < decision.entryEligibleTsMs ∨ decision.venueExpiresAtMs < env.millis env.now then
                .error (.canaryAdmission "entry session/attempt is stopped, expired or not currently eligible")
              else if bindsAnother attempt.riskDecisionId decisionId ∨ bindsAnother attempt.tradeId tradeId ∨
                  bindsAnother attempt.entryEffectId effectId then
                .error (.messageIdentityConflict "canary attempt already binds another decision/trade/effect")
              else if attempt.entryEffectId = none ∧ (env.effects effectId).isSome then
                .error (.canaryAdmission "entry must be bound before PREPARED; existing effects require recovery")
              else
                let bound := bindAttempt attempt.attemptId decisionId tradeId effectId tables
                let binding := ⟨attempt.sessionId, attempt.attemptId, effectId, decisionId, tradeId, deadline, false⟩
                match tables.claimOfAttempt attempt.attemptId with
                | none => .ok (bound, binding)
                | some claim =>
                  if claim.effectId ≠ effectId ∨ claim.riskDecisionId ≠ decisionId ∨ claim.tradeId ≠ tradeId ∨
                      claim.scopeSha256 ≠ session.scopeSha256 then
                    .error (.messageIdentityConflict "durable dispatch claim binding is inconsistent")
                  else .ok (bound, { binding with dispatchClaimed := true })
  | _, _ => .error (.canaryAdmission "entry decision has no canonical lineage")

/-- `_assert_prepared_effect`. -/
def assertPreparedEffect (env : EntryEnvironment) (decision : EntryDecision) (scope : CanaryScope)
    (effectId : String) : Except CanaryError Unit :=
  match env.effects effectId with
  | none => .error (.canaryAdmission "final dispatch requires the exact durable PREPARED entry effect")
  | some effect =>
    if effect.status ≠ "PREPARED" ∨ effect.effectType ≠ "PLACE_ORDER" ∨
        effect.environment ≠ scope.environment ++ ":EVEDEX:DEV:PAPER" ∨ effect.accountId ≠ scope.accountId ∨
        effect.tradeId ≠ decision.tradeId ∨ effect.exchange ≠ "evedex" ∨ effect.symbol ≠ decision.symbol ∨
        effect.orderRole ≠ "ENTRY" then
      .error (.canaryAdmission "final dispatch requires the exact durable PREPARED entry effect")
    else if env.requestMatches effect = false then
      .error (.messageIdentityConflict "prepared canary entry request differs from the immutable decision")
    else .ok ()

/-- The transaction of `final_dispatch`: the claim it inserts, and the deadline. -/
def claimDispatchEntry (env : EntryEnvironment) (decision : EntryDecision) (scope : CanaryScope) (effectId : String)
    (tables : CanaryTables) : Except CanaryError (CanaryTables × DispatchClaim × Timestamp) := do
  let (tables, binding) ← entryBinding env decision scope effectId tables
  if binding.dispatchClaimed then
    throw (.canaryAdmission "entry dispatch was already claimed; reconcile without resubmitting")
  assertPreparedEffect env decision scope effectId
  let claim := ⟨effectId, binding.attemptId, binding.sessionId, binding.riskDecisionId, binding.tradeId,
    digest scope.modelDump⟩
  let tables ← tables.insertClaim claim
  return (tables, claim, binding.entryDeadlineAt)

end Binding

section Stopping

def stopReasons : List String := ["OPERATOR_STOP", "UNPROTECTED_EXPOSURE", "UNKNOWN_MUTATION", "RECONCILIATION_DRIFT"]

/-- `stop`, under the dispatch lock of the session. -/
def stopSession (sessionId reason : String) (tables : CanaryTables) : Except CanaryError CanaryTables :=
  if reason ∉ stopReasons then .error (.canaryAdmission "unsupported non-secret stop reason")
  else match tables.sessions sessionId with
    | none => .error (.canaryAdmission "canary session does not exist")
    | some session =>
      if sessionIntact session = false then .error (.messageIdentityConflict "stored canary session fingerprint mismatch")
      else if session.state = .armed ∨ session.state = .running then
        .ok (tables.setSession sessionId { session with state := .draining, stopReason := some reason })
      else .ok tables

/-- What `refresh_attempts` reads of the one audited decision on a review. -/
structure AuditedDecision where
  decisionId : Option String
  accountId : String
  intentId : String
  tradingMode : String
  evedexProfile : String
  approved : Bool

structure SettledTrade where
  tradeId : String
  state : String
  reconciled : Bool
  unresolvedEffects : Bool

/-- What other tables hold when a session is refreshed. -/
structure RefreshEnvironment where
  now : Timestamp
  armExpired : String → Bool
  decision : String → Option AuditedDecision
  trade : Option String → Option SettledTrade

inductive Closing where
  | remains
  | expired
  | settled (reason : String) (riskDecisionId tradeId : Option String)
  | lineageMismatch
  deriving DecidableEq, Repr

/-- What `refresh_attempts` finds for an attempt. -/
def closing (env : RefreshEnvironment) (sessionId accountId : String) (a : CanaryAttempt) : Closing :=
  if a.sessionId ≠ sessionId ∨ a.state ≠ .armed ∧ a.state ≠ .consumed then .remains
  else if env.armExpired a.armId then .expired
  else match env.decision a.reviewId with
    | none => .remains
    | some decision =>
      if decision.accountId ≠ accountId ∨ decision.intentId ≠ a.intentId ∨ decision.tradingMode ≠ "PAPER" ∨
          decision.evedexProfile ≠ "DEV" then .lineageMismatch
      else if decision.approved = false then .settled "RISK_REJECTED" decision.decisionId none
      else match env.trade decision.decisionId with
        | none => .remains
        | some trade =>
          if (trade.state = "FLAT" ∨ trade.state = "CANCELLED") ∧ trade.reconciled = true ∧
              trade.unresolvedEffects = false then .settled trade.state decision.decisionId (some trade.tradeId)
          else .remains

def CanaryAttempt.close (now : Timestamp) (a : CanaryAttempt) : Closing → CanaryAttempt
  | .expired => { a with state := .terminal, terminalAt := some now, terminalReason := some "ENTRY_EXPIRED" }
  | .settled reason riskDecisionId tradeId =>
    { a with
      state := .terminal
      terminalAt := some now
      terminalReason := some reason
      riskDecisionId := riskDecisionId
      tradeId := tradeId }
  | .remains | .lineageMismatch => a

/-- `refresh_attempts`. -/
def refreshAttempts (env : RefreshEnvironment) (sessionId accountId : String) (tables : CanaryTables) :
    Except CanaryError CanaryTables :=
  if tables.attempts.any fun a => closing env sessionId accountId a = .lineageMismatch then
    .error (.messageIdentityConflict "canary Risk decision lineage mismatch")
  else .ok (tables.mapAttempts (fun a => a.close env.now (closing env sessionId accountId a)) (by
    intro a
    cases closing env sessionId accountId a <;> exact ⟨rfl, rfl⟩))

/-- The session after its deadline. -/
def expireSession (now : Timestamp) (session : CanarySession) : CanarySession :=
  if (session.state = .armed ∨ session.state = .running) ∧ session.entryDeadlineAt ≤ now then
    { session with state := .draining, stopReason := some "SESSION_DEADLINE" }
  else session

/-- The session when no attempt is open. -/
def finishSession (session : CanarySession) : CanarySession :=
  if session.state = .draining ∨ session.maxAttempts ≤ session.attemptsReserved ∨
      (planSlots session.plan).any (· ≤ session.attemptsReserved) then
    { session with state := if session.stopReason = some "OPERATOR_STOP" then .aborted else .incomplete }
  else session

/-- `refresh`. -/
def refreshSession (env : RefreshEnvironment) (sessionId : String) (tables : CanaryTables) :
    Except CanaryError CanaryTables := do
  match tables.sessions sessionId with
  | none => .error (.canaryAdmission "canary session does not exist")
  | some session =>
    if sessionIntact session = false then .error (.messageIdentityConflict "stored canary session fingerprint mismatch")
    else
      let tables ← refreshAttempts env sessionId session.accountId tables
      let expired := expireSession env.now session
      let pending := tables.attempts.any fun a => a.sessionId = sessionId && a.state ≠ .terminal
      return tables.setSession sessionId (if pending then expired else finishSession expired)

end Stopping

def SessionState.Active (state : SessionState) : Prop := state = .armed ∨ state = .running

/-- The claim is one for the decision, its trade and the effect. -/
structure DispatchClaim.Of (claim : DispatchClaim) (decision : EntryDecision) (effectId : String) : Prop where
  decisionId : decision.decisionId = some claim.riskDecisionId
  tradeId : decision.tradeId = some claim.tradeId
  effectId : effectId = claim.effectId

/-- The attempt has the effect of the claim, and until it is closed its decision and trade. -/
structure CanaryAttempt.Bound (a : CanaryAttempt) (claim : DispatchClaim) : Prop where
  attemptId : a.attemptId = claim.attemptId
  sessionId : a.sessionId = claim.sessionId
  entryEffectId : a.entryEffectId = some claim.effectId
  lineage : a.state ≠ .terminal → a.riskDecisionId = some claim.riskDecisionId ∧ a.tradeId = some claim.tradeId

namespace CanaryTables

variable {tables tables' tables'' : CanaryTables}

/-- The session is there and admits no entry any more. -/
def Stopped (tables : CanaryTables) (sessionId : String) : Prop :=
  ∃ session, tables.sessions sessionId = some session ∧ ¬session.state.Active

/-- What every operation keeps: the identity and the binding of attempts, and that a session is stopped. -/
structure Advance (tables tables' : CanaryTables) : Prop where
  attempts : ∀ a ∈ tables.attempts, ∃ a' ∈ tables'.attempts, a'.reviewId = a.reviewId ∧ a'.sessionId = a.sessionId ∧
    ∀ claim, a.Bound claim → a'.Bound claim
  stopped : ∀ sessionId, tables.Stopped sessionId → tables'.Stopped sessionId

theorem Advance.refl (tables : CanaryTables) : Advance tables tables :=
  ⟨fun a ha => ⟨a, ha, rfl, rfl, fun _ h => h⟩, fun _ h => h⟩

/-- The attempts are changed one by one, and no session. -/
theorem advance_mapAttempts {f : CanaryAttempt → CanaryAttempt}
    {hf : ∀ a, (f a).attemptId = a.attemptId ∧ (f a).reviewId = a.reviewId}
    (h : ∀ a ∈ tables.attempts, (f a).sessionId = a.sessionId ∧ ∀ claim, a.Bound claim → (f a).Bound claim) :
    Advance tables (tables.mapAttempts f hf) :=
  ⟨fun a ha => ⟨f a, List.mem_map_of_mem ha, (hf a).2, (h a ha).1, (h a ha).2⟩, fun _ h => h⟩

theorem advance_setSession {sessionId : String} {session session' : CanarySession}
    (h : tables.sessions sessionId = some session) (hstate : ¬session.state.Active → ¬session'.state.Active) :
    Advance tables (tables.setSession sessionId session') := by
  refine ⟨fun a ha => ⟨a, ha, rfl, rfl, fun _ h => h⟩, fun other ⟨row, hrow, hactive⟩ => ?_⟩
  by_cases hother : other = sessionId
  · subst hother
    obtain rfl : session = row := Option.some.inj (h.symm.trans hrow)
    exact ⟨session', Function.update_self .., hstate hactive⟩
  · exact ⟨row, (Function.update_of_ne hother ..).trans hrow, hactive⟩

theorem Advance.trans (h : Advance tables tables') (h' : Advance tables' tables'') : Advance tables tables'' := by
  refine ⟨fun a ha => ?_, fun sessionId hs => h'.stopped _ (h.stopped _ hs)⟩
  obtain ⟨a', ha', hreview, hsession, hbound⟩ := h.attempts a ha
  obtain ⟨a'', ha'', hreview', hsession', hbound'⟩ := h'.attempts a' ha'
  exact ⟨a'', ha'', hreview'.trans hreview, hsession'.trans hsession, fun claim hc => hbound' claim (hbound claim hc)⟩

theorem insertClaim_ok {claim : DispatchClaim} (h : tables.insertClaim claim = .ok tables') :
    tables'.attempts = tables.attempts ∧ tables'.sessions = tables.sessions ∧
      tables'.claims = claim :: tables.claims ∧ claim ∉ tables.claims := by
  unfold insertClaim at h
  split at h
  · cases h
  rename_i hnew
  obtain rfl := Except.ok.inj h
  exact ⟨rfl, rfl, rfl, fun hold => hnew (Or.inl (List.mem_map_of_mem hold))⟩

theorem eq_of_attemptId {a b : CanaryAttempt} (ha : a ∈ tables.attempts) (hb : b ∈ tables.attempts)
    (h : a.attemptId = b.attemptId) : a = b :=
  List.inj_on_of_nodup_map tables.unique_attempts ha hb h

end CanaryTables

section Operations

variable {tables tables' : CanaryTables} {env : EntryEnvironment} {decision : EntryDecision} {scope : CanaryScope}
  {effectId : String}

theorem not_bindsAnother {recorded : Option String} {expected value : String} (h : ¬bindsAnother recorded expected = true)
    (hr : recorded = some value) : value = expected := by
  subst hr
  simpa [bindsAnother] using h

/-- A successful binding is that of a consumed attempt of a running session. -/
theorem entryBinding_ok {binding : CanaryEntryBinding}
    (h : entryBinding env decision scope effectId tables = .ok (tables', binding)) :
    ∃ attempt ∈ tables.attempts, ∃ session, attempt.reviewId = decision.reviewId ∧
      tables.sessions attempt.sessionId = some session ∧ session.state = .running ∧ attempt.state = .consumed ∧
      binding.sessionId = attempt.sessionId ∧ binding.attemptId = attempt.attemptId ∧
      ¬bindsAnother attempt.riskDecisionId binding.riskDecisionId ∧ ¬bindsAnother attempt.tradeId binding.tradeId ∧
      ¬bindsAnother attempt.entryEffectId effectId ∧
      tables' = bindAttempt attempt.attemptId binding.riskDecisionId binding.tradeId effectId tables ∧
      decision.decisionId = some binding.riskDecisionId ∧ decision.tradeId = some binding.tradeId := by
  unfold entryBinding at h
  split at h
  · rename_i decisionId tradeId hdecision htrade
    iterate 3 (split at h; · cases h)
    split at h
    · cases h
    rename_i attempt hattempt
    split at h
    · cases h
    rename_i session hsession
    -- the scope, the fingerprint and the evidence may each refuse the entry
    iterate 3 (split at h; · cases h)
    simp only at h
    split at h
    · cases h
    rename_i hlive
    split at h
    · cases h
    rename_i hother
    split at h
    · cases h
    rw [not_or, not_or, not_not, not_not] at hlive
    rw [not_or, not_or] at hother
    have hreview : attempt.reviewId = decision.reviewId := by simpa using List.find?_some hattempt
    have hmem := List.mem_of_find?_eq_some hattempt
    split at h
    · obtain ⟨rfl, rfl⟩ := Prod.mk.inj (Except.ok.inj h)
      exact ⟨attempt, hmem, session, hreview, hsession, hlive.1, hlive.2.1, rfl, rfl, hother.1, hother.2.1,
        hother.2.2, rfl, hdecision, htrade⟩
    · split at h
      · cases h
      obtain ⟨rfl, rfl⟩ := Prod.mk.inj (Except.ok.inj h)
      exact ⟨attempt, hmem, session, hreview, hsession, hlive.1, hlive.2.1, rfl, rfl, hother.1, hother.2.1,
        hother.2.2, rfl, hdecision, htrade⟩
  · cases h

/-- A binding leaves the values that were recorded before. -/
theorem bind_bound {a : CanaryAttempt} {decisionId tradeId : String} {claim : DispatchClaim}
    (hstate : a.state = .consumed) (hdecision : ¬bindsAnother a.riskDecisionId decisionId = true)
    (htrade : ¬bindsAnother a.tradeId tradeId = true) (heffect : ¬bindsAnother a.entryEffectId effectId = true)
    (h : a.Bound claim) : (a.bind decisionId tradeId effectId).Bound claim := by
  obtain ⟨hrisk, htrade'⟩ := h.lineage (by simp [hstate])
  refine ⟨h.attemptId, h.sessionId, ?_, fun _ => ⟨?_, ?_⟩⟩
  · rw [not_bindsAnother heffect h.entryEffectId]
    rfl
  · rw [not_bindsAnother hdecision hrisk]
    rfl
  · rw [not_bindsAnother htrade htrade']
    rfl

theorem entryBinding_advance {binding : CanaryEntryBinding}
    (h : entryBinding env decision scope effectId tables = .ok (tables', binding)) :
    CanaryTables.Advance tables tables' ∧ tables'.claims = tables.claims := by
  obtain ⟨attempt, hmem, _, -, -, -, hstate, -, -, hdecision, htrade, heffect, rfl, -, -⟩ := entryBinding_ok h
  refine ⟨CanaryTables.advance_mapAttempts fun a ha => ?_, rfl⟩
  by_cases hid : a.attemptId = attempt.attemptId
  · obtain rfl := CanaryTables.eq_of_attemptId ha hmem hid
    rw [if_pos rfl]
    exact ⟨rfl, fun claim hc => bind_bound hstate hdecision htrade heffect hc⟩
  · rw [if_neg hid]
    exact ⟨rfl, fun _ hc => hc⟩

/-- A dispatch claim is new, its session is running, and its attempt is bound to it. -/
theorem claimDispatchEntry_ok {claim : DispatchClaim} {deadline : Timestamp}
    (h : claimDispatchEntry env decision scope effectId tables = .ok (tables', claim, deadline)) :
    CanaryTables.Advance tables tables' ∧ tables'.claims = claim :: tables.claims ∧ claim ∉ tables.claims ∧
      ¬tables.Stopped claim.sessionId ∧ claim.Of decision effectId ∧
      (∃ a ∈ tables.attempts, a.reviewId = decision.reviewId ∧ a.sessionId = claim.sessionId) ∧
      ∃ a ∈ tables'.attempts, a.Bound claim ∧ a.riskDecisionId = some claim.riskDecisionId ∧
        a.tradeId = some claim.tradeId := by
  unfold claimDispatchEntry at h
  obtain ⟨⟨bound, binding⟩, hbinding, h⟩ := bind_ok h
  obtain ⟨attempt, hmem, session, hreview, hsession, hrunning, -, hbs, hba, -, -, -, hbound, hdecision,
    htrade⟩ := entryBinding_ok hbinding
  obtain ⟨hadvance, hclaims⟩ := entryBinding_advance hbinding
  simp only at h
  split at h
  · cases h
  obtain ⟨_, -, h⟩ := bind_ok h
  obtain ⟨inserted, hinsert, h⟩ := bind_ok h
  obtain ⟨hattempts, hsessions, hinserted, hnew⟩ := CanaryTables.insertClaim_ok hinsert
  obtain ⟨rfl, hrest⟩ := Prod.mk.inj (Except.ok.inj h)
  obtain ⟨rfl, -⟩ := Prod.mk.inj hrest
  rw [hclaims] at hinserted hnew
  refine ⟨⟨?_, ?_⟩, hinserted, hnew, ?_, ⟨hdecision, htrade, rfl⟩, ⟨attempt, hmem, hreview, hbs.symm⟩, ?_⟩
  · rw [hattempts]
    exact hadvance.attempts
  · simp only [CanaryTables.Stopped, hsessions]
    exact hadvance.stopped
  · rintro ⟨row, hrow, hactive⟩
    obtain rfl : row = session := Option.some.inj (hrow.symm.trans (hbs ▸ hsession))
    exact hactive (Or.inr hrunning)
  · refine ⟨attempt.bind binding.riskDecisionId binding.tradeId effectId, ?_, ?_, rfl, rfl⟩
    · rw [hattempts, hbound]
      exact List.mem_map.mpr ⟨attempt, hmem, if_pos rfl⟩
    · exact ⟨hba.symm, hbs.symm, rfl, fun _ => ⟨rfl, rfl⟩⟩

theorem stopSession_ok {sessionId reason : String} (h : stopSession sessionId reason tables = .ok tables') :
    CanaryTables.Advance tables tables' ∧ tables'.claims = tables.claims ∧ tables'.Stopped sessionId := by
  unfold stopSession at h
  split_ifs at h
  split at h
  · cases h
  rename_i session hsession
  split at h
  · cases h
  split at h
  · obtain rfl := Except.ok.inj h
    have hdraining : ¬SessionState.Active .draining := by simp [SessionState.Active]
    exact ⟨CanaryTables.advance_setSession hsession fun _ => hdraining, rfl, _, Function.update_self .., hdraining⟩
  · rename_i hactive
    obtain rfl := Except.ok.inj h
    exact ⟨.refl tables, rfl, session, hsession, hactive⟩

theorem close_bound {a : CanaryAttempt} {claim : DispatchClaim} (h : a.Bound claim) (now : Timestamp) (c : Closing) :
    (a.close now c).Bound claim := by
  cases c with
  | remains | lineageMismatch => exact h
  | expired | settled => exact ⟨h.attemptId, h.sessionId, h.entryEffectId, fun hopen => absurd rfl hopen⟩

theorem finishSession_inactive {session : CanarySession} (h : ¬session.state.Active) :
    ¬(finishSession session).state.Active := by
  unfold finishSession
  split_ifs
  · simp [SessionState.Active]
  · simp [SessionState.Active]
  · exact h

theorem expireSession_inactive {session : CanarySession} (now : Timestamp) (h : ¬session.state.Active) :
    ¬(expireSession now session).state.Active := by
  unfold expireSession
  split_ifs
  · simp [SessionState.Active]
  · exact h

theorem refreshSession_ok {env : RefreshEnvironment} {sessionId : String}
    (h : refreshSession env sessionId tables = .ok tables') :
    CanaryTables.Advance tables tables' ∧ tables'.claims = tables.claims := by
  unfold refreshSession at h
  split at h
  · cases h
  rename_i session hsession
  split at h
  · cases h
  obtain ⟨refreshed, hrefreshed, h⟩ := bind_ok h
  obtain rfl := Except.ok.inj h
  unfold refreshAttempts at hrefreshed
  split at hrefreshed
  · cases hrefreshed
  obtain rfl := Except.ok.inj hrefreshed
  refine ⟨CanaryTables.Advance.trans (CanaryTables.advance_mapAttempts fun a _ => ⟨?_, fun claim hc => ?_⟩)
    (CanaryTables.advance_setSession hsession fun hstate => ?_), rfl⟩
  · cases closing env sessionId session.accountId a <;> rfl
  · exact close_bound hc _ _
  · split_ifs
    · exact expireSession_inactive env.now hstate
    · exact finishSession_inactive (expireSession_inactive env.now hstate)

end Operations

end KairosPersistence
