import KairosPersistence.CanarySession
import KairosPersistence.Locking
import KairosPersistence.Runs

/-!
Processes that dispatch entries, stop, bind and refresh canary sessions. A
dispatch holds the session's advisory lock from before its claim until its body
has ended; the transactions of all operations lock the session row.
-/

namespace KairosPersistence

open PythonText (Timestamp)

structure DispatchEntryCall where
  decision : EntryDecision
  scope : CanaryScope
  effectId : String

/-- Where a process stands in `final_dispatch` or `stop`. -/
inductive CanaryPhase where
  | idle
  | waiting (call : DispatchEntryCall) (sessionId : String)
  | locked (call : DispatchEntryCall) (sessionId : String)
  | claimed (call : DispatchEntryCall) (claim : DispatchClaim) (deadline : Timestamp)
  | dispatching (call : DispatchEntryCall) (claim : DispatchClaim)
  | unlocking (sessionId : String)
  | stopping (sessionId : String)

/-- The dispatch lock a process holds. -/
def CanaryPhase.Holds : CanaryPhase → String → Prop
  | .idle, _ | .waiting _ _, _ => False
  | .locked _ sessionId, key | .unlocking sessionId, key | .stopping sessionId, key => sessionId = key
  | .claimed _ claim _, key | .dispatching _ claim, key => claim.sessionId = key

/-- The tables, the processes, and, the last one first, the claims under which a body was entered
and the sessions for which a stop has returned. -/
structure CanarySystem (ι : Type) where
  tables : CanaryTables
  processes : ι → CanaryPhase
  entered : List DispatchClaim
  stopped : List String

namespace CanarySystem

variable {ι : Type} [DecidableEq ι]

def setProcess (s : CanarySystem ι) (p : ι) (x : CanaryPhase) : CanarySystem ι :=
  { s with processes := Function.update s.processes p x }

def LockFree (s : CanarySystem ι) (sessionId : String) : Prop := Locking.Free CanaryPhase.Holds s.processes sessionId

inductive Step : CanarySystem ι → CanarySystem ι → Prop
  -- final_dispatch
  | lookUp {s} (p : ι) (call : DispatchEntryCall) {attempt} (h : s.processes p = .idle)
    (ha : s.tables.attemptOfReview call.decision.reviewId = some attempt) :
    Step s (s.setProcess p (.waiting call attempt.sessionId))
  | acquire {s} (p : ι) {call sessionId} (h : s.processes p = .waiting call sessionId) (hl : s.LockFree sessionId) :
    Step s (s.setProcess p (.locked call sessionId))
  | claim {s} (p : ι) {call sessionId env tables claim deadline} (h : s.processes p = .locked call sessionId)
    (hc : claimDispatchEntry env call.decision call.scope call.effectId s.tables = .ok (tables, claim, deadline)) :
    Step s { s.setProcess p (.claimed call claim deadline) with tables := tables }
  | enter {s} (p : ι) {call claim deadline} (now : Timestamp) (nowMs : ℤ)
    (h : s.processes p = .claimed call claim deadline) (hnow : now < deadline)
    (hvenue : nowMs ≤ call.decision.venueExpiresAtMs) :
    Step s { s.setProcess p (.dispatching call claim) with entered := claim :: s.entered }
  | leave {s} (p : ι) {call claim} (h : s.processes p = .dispatching call claim) :
    Step s (s.setProcess p (.unlocking claim.sessionId))
  -- the unlock, an error before the body, or a crash: the connection gives the lock back
  | release {s} (p : ι) : Step s (s.setProcess p .idle)
  -- stop
  | lockStop {s} (p : ι) (sessionId : String) (h : s.processes p = .idle) (hl : s.LockFree sessionId) :
    Step s (s.setProcess p (.stopping sessionId))
  | commitStop {s} (p : ι) {sessionId reason tables} (h : s.processes p = .stopping sessionId)
    (hc : stopSession sessionId reason s.tables = .ok tables) :
    Step s { s.setProcess p .idle with tables := tables, stopped := sessionId :: s.stopped }
  | bindEntry {s env decision scope effectId tables binding}
    (h : entryBinding env decision scope effectId s.tables = .ok (tables, binding)) :
    Step s { s with tables := tables }
  | refresh {s env sessionId tables} (h : refreshSession env sessionId s.tables = .ok tables) :
    Step s { s with tables := tables }

/-- Any tables, and no process at work. -/
def Initial (s : CanarySystem ι) : Prop := (∀ p, s.processes p = .idle) ∧ s.entered = [] ∧ s.stopped = []

/-- What a process knows of the tables. -/
def PhaseOk (tables : CanaryTables) : CanaryPhase → Prop
  | .waiting call sessionId | .locked call sessionId =>
    ∃ a ∈ tables.attempts, a.reviewId = call.decision.reviewId ∧ a.sessionId = sessionId
  | .claimed call claim _ | .dispatching call claim =>
    claim ∈ tables.claims ∧ claim.Of call.decision call.effectId ∧ ∃ a ∈ tables.attempts, a.Bound claim
  | _ => True

structure Invariant (s : CanarySystem ι) : Prop where
  exclusive : Locking.Exclusive CanaryPhase.Holds s.processes
  phases : ∀ p, PhaseOk s.tables (s.processes p)
  entered_nodup : s.entered.Nodup
  entered_subset : s.entered ⊆ s.tables.claims
  stopped : ∀ sessionId ∈ s.stopped, s.tables.Stopped sessionId
  pending : ∀ p call claim deadline, s.processes p = .claimed call claim deadline →
    claim ∉ s.entered ∧ claim.sessionId ∉ s.stopped

omit [DecidableEq ι] in
theorem Initial.invariant {s : CanarySystem ι} (h : Initial s) : Invariant s := by
  obtain ⟨hidle, hentered, hstopped⟩ := h
  refine ⟨.of_free fun p k hk => ?_, fun p => ?_, ?_, ?_, ?_, fun p _ _ _ hp => ?_⟩
  · rw [hidle p] at hk
    exact hk
  · rw [hidle p]
    trivial
  · rw [hentered]
    exact List.nodup_nil
  · rw [hentered]
    exact List.nil_subset _
  · simp [hstopped]
  · rw [hidle p] at hp
    cases hp

section Invariance

variable {s t : CanarySystem ι}

theorem PhaseOk.advance {tables tables' : CanaryTables} {x : CanaryPhase} (hx : PhaseOk tables x)
    (h : CanaryTables.Advance tables tables') (hclaims : tables.claims ⊆ tables'.claims) : PhaseOk tables' x := by
  cases x with
  | idle | unlocking | stopping => trivial
  | waiting | locked =>
    obtain ⟨a, ha, hreview, hsession⟩ := hx
    obtain ⟨a', ha', hreview', hsession', -⟩ := h.attempts a ha
    exact ⟨a', ha', hreview'.trans hreview, hsession'.trans hsession⟩
  | claimed | dispatching =>
    obtain ⟨hmem, hof, a, ha, hbound⟩ := hx
    obtain ⟨a', ha', -, -, hbound'⟩ := h.attempts a ha
    exact ⟨hclaims hmem, hof, a', ha', hbound' _ hbound⟩

omit [DecidableEq ι] in
theorem Invariant.setTables (hs : Invariant s) {tables : CanaryTables} (h : CanaryTables.Advance s.tables tables)
    (hclaims : tables.claims = s.tables.claims) : Invariant { s with tables := tables } where
  exclusive := hs.exclusive
  phases p := PhaseOk.advance (hs.phases p) h (fun _ hm => hclaims ▸ hm)
  entered_nodup := hs.entered_nodup
  entered_subset := by
    rw [hclaims]
    exact hs.entered_subset
  stopped sessionId hm := h.stopped sessionId (hs.stopped sessionId hm)
  pending := hs.pending

/-- One process moves. The others keep their pending claims as their sessions are locked. -/
theorem Invariant.move (hs : Invariant s) {p : ι} {x : CanaryPhase} {tables : CanaryTables}
    {entered : List DispatchClaim} {stopped : List String} (h : CanaryTables.Advance s.tables tables)
    (hclaims : s.tables.claims ⊆ tables.claims) (hx : PhaseOk tables x)
    (hl : ∀ k, x.Holds k → s.LockFree k ∨ (s.processes p).Holds k) (hnodup : entered.Nodup)
    (hsubset : entered ⊆ tables.claims) (hstopped : ∀ sessionId ∈ stopped, tables.Stopped sessionId)
    (hpending : ∀ call claim deadline, x = .claimed call claim deadline →
      claim ∉ entered ∧ claim.sessionId ∉ stopped)
    (hothers : ∀ q ≠ p, ∀ call claim deadline, s.processes q = .claimed call claim deadline →
      claim ∉ entered ∧ claim.sessionId ∉ stopped) :
    Invariant ⟨tables, Function.update s.processes p x, entered, stopped⟩ where
  exclusive := hs.exclusive.update hl
  phases := (Function.forall_update_iff s.processes fun _ => PhaseOk tables).mpr
    ⟨hx, fun q _ => PhaseOk.advance (hs.phases q) h hclaims⟩
  entered_nodup := hnodup
  entered_subset := hsubset
  stopped := hstopped
  pending q call claim deadline hq := by
    by_cases hqp : q = p
    · subst hqp
      exact hpending call claim deadline ((Function.update_self ..).symm.trans hq)
    · exact hothers q hqp call claim deadline ((Function.update_of_ne hqp ..).symm.trans hq)

theorem Invariant.setProcess (hs : Invariant s) {p : ι} {x : CanaryPhase} (hx : PhaseOk s.tables x)
    (hl : ∀ k, x.Holds k → s.LockFree k ∨ (s.processes p).Holds k)
    (hpending : ∀ call claim deadline, x ≠ .claimed call claim deadline) : Invariant (s.setProcess p x) :=
  hs.move (.refl _) (List.Subset.refl _) hx hl hs.entered_nodup hs.entered_subset hs.stopped
    (fun call claim deadline h => absurd h (hpending call claim deadline)) fun q _ => hs.pending q

theorem Invariant.step (hs : Invariant s) (h : Step s t) : Invariant t := by
  cases h with
  | @lookUp p call attempt h ha =>
    have hreview : attempt.reviewId = call.decision.reviewId := by simpa using List.find?_some ha
    exact hs.setProcess ⟨attempt, List.mem_of_find?_eq_some ha, hreview, rfl⟩ (fun k hk => hk.elim) (by simp)
  | acquire p h hl =>
    have hok := hs.phases p
    rw [h] at hok
    exact hs.setProcess hok (fun k hk => Or.inl (hk ▸ hl)) (by simp)
  | @claim p call sessionId env tables claim deadline h hc =>
    obtain ⟨hadvance, hclaims, hnew, hrunning, hof, ⟨a, ha, hreview, hsession⟩, a', ha', hbound, -⟩ :=
      claimDispatchEntry_ok hc
    have hok := hs.phases p
    rw [h] at hok
    -- the session of the attempt is the one whose lock was taken
    obtain ⟨b, hb, hbreview, hbsession⟩ := hok
    obtain rfl : a = b := List.inj_on_of_nodup_map s.tables.unique_reviews ha hb (hreview.trans hbreview.symm)
    have hlocked : claim.sessionId = sessionId := hsession.symm.trans hbsession
    have hsubset : s.tables.claims ⊆ tables.claims := by
      rw [hclaims]
      exact List.subset_cons_self _ _
    refine hs.move hadvance hsubset ⟨hclaims ▸ List.mem_cons_self, hof, a', ha', hbound⟩ (fun k hk => Or.inr ?_)
      hs.entered_nodup (List.Subset.trans hs.entered_subset hsubset)
      (fun σ hσ => hadvance.stopped σ (hs.stopped σ hσ)) ?_ fun q _ => hs.pending q
    · rw [h]
      exact hlocked.symm.trans hk
    · rintro _ _ _ ⟨⟩
      exact ⟨fun hm => hnew (hs.entered_subset hm), fun hm => hrunning (hs.stopped _ hm)⟩
  | @enter p call claim deadline now nowMs h hnow hvenue =>
    have hok := hs.phases p
    rw [h] at hok
    have hholds : (s.processes p).Holds claim.sessionId := by
      rw [h]
      rfl
    refine hs.move (.refl _) (List.Subset.refl _) hok (fun k hk => Or.inr ?_)
      (List.nodup_cons.mpr ⟨(hs.pending p _ _ _ h).1, hs.entered_nodup⟩)
      (List.cons_subset.mpr ⟨hok.1, hs.entered_subset⟩) hs.stopped (by simp) fun q hq call' claim' deadline' hq' => ?_
    · rw [h]
      exact hk
    · refine ⟨fun hm => ?_, (hs.pending q _ _ _ hq').2⟩
      rcases List.mem_cons.mp hm with rfl | hm
      · refine hs.exclusive.other hholds hq ?_
        rw [hq']
        rfl
      · exact (hs.pending q _ _ _ hq').1 hm
  | leave p h =>
    exact hs.setProcess trivial (fun k hk => Or.inr (by rw [h]; exact hk)) (by simp)
  | release p => exact hs.setProcess trivial (fun k hk => hk.elim) (by simp)
  | lockStop p sessionId h hl => exact hs.setProcess trivial (fun k hk => Or.inl (hk ▸ hl)) (by simp)
  | @commitStop p sessionId reason tables h hc =>
    obtain ⟨hadvance, hclaims, hstop⟩ := stopSession_ok hc
    have hholds : (s.processes p).Holds sessionId := by
      rw [h]
      rfl
    refine hs.move hadvance (fun _ hm => hclaims ▸ hm) trivial (fun k hk => hk.elim) hs.entered_nodup
      (by rw [hclaims]; exact hs.entered_subset) (fun σ hσ => ?_) (by simp) fun q hq call claim deadline hq' => ?_
    · rcases List.mem_cons.mp hσ with rfl | hσ
      · exact hstop
      · exact hadvance.stopped σ (hs.stopped σ hσ)
    · refine ⟨(hs.pending q _ _ _ hq').1, fun hm => ?_⟩
      rcases List.mem_cons.mp hm with rfl | hm
      · refine hs.exclusive.other hholds hq ?_
        rw [hq']
        rfl
      · exact (hs.pending q _ _ _ hq').2 hm
  | bindEntry h =>
    obtain ⟨hadvance, hclaims⟩ := entryBinding_advance h
    exact hs.setTables hadvance hclaims
  | refresh h =>
    obtain ⟨hadvance, hclaims⟩ := refreshSession_ok h
    exact hs.setTables hadvance hclaims

/-- Only a stop of its session ends with a new stopped session, and no body of it runs then. -/
theorem stop_step (hs : Invariant s) (h : Step s t) {sessionId : String}
    (hstop : t.stopped = sessionId :: s.stopped) {p : ι} {call : DispatchEntryCall} {claim : DispatchClaim}
    (hp : s.processes p = .dispatching call claim) : claim.sessionId ≠ sessionId := by
  cases h with
  | lookUp | acquire | claim | enter | leave | release | lockStop | bindEntry | refresh =>
    exact absurd hstop (List.cons_ne_self _ _).symm
  | @commitStop q sessionId' reason tables hq hc =>
    obtain ⟨rfl, -⟩ := List.cons.inj hstop
    intro hsame
    have hholds : (s.processes p).Holds sessionId' := by
      rw [hp]
      exact hsame
    have hheld : (s.processes q).Holds sessionId' := by
      rw [hq]
      rfl
    obtain rfl := hs.exclusive p q sessionId' hholds hheld
    rw [hp] at hq
    cases hq

/-- A body is entered under a claim that is committed, and not after a stop of its session. -/
theorem enter_step (hs : Invariant s) (h : Step s t) {claim : DispatchClaim}
    (henter : t.entered = claim :: s.entered) : claim ∈ s.tables.claims ∧ claim.sessionId ∉ s.stopped := by
  cases h with
  | lookUp | acquire | claim | leave | release | lockStop | commitStop | bindEntry | refresh =>
    exact absurd henter (List.cons_ne_self _ _).symm
  | enter p _ _ hp =>
    obtain ⟨rfl, -⟩ := List.cons.inj henter
    have hok := hs.phases p
    rw [hp] at hok
    exact ⟨hok.1, (hs.pending p _ _ _ hp).2⟩

/-- A claim is inserted for the decision, trade and effect its attempt is bound to. -/
theorem claim_step (h : Step s t) {claim : DispatchClaim} (hclaim : t.tables.claims = claim :: s.tables.claims) :
    ∃ a ∈ t.tables.attempts, a.Bound claim ∧ a.riskDecisionId = some claim.riskDecisionId ∧
      a.tradeId = some claim.tradeId := by
  cases h with
  | lookUp | acquire | enter | leave | release | lockStop => exact absurd hclaim (List.cons_ne_self _ _).symm
  | claim p _ hc =>
    obtain ⟨-, hclaims, -, -, -, -, a, ha, hbound⟩ := claimDispatchEntry_ok hc
    obtain ⟨rfl, -⟩ := List.cons.inj (hclaims.symm.trans hclaim)
    exact ⟨a, ha, hbound⟩
  | commitStop p _ hc => exact absurd ((stopSession_ok hc).2.1.symm.trans hclaim) (List.cons_ne_self _ _).symm
  | bindEntry h => exact absurd ((entryBinding_advance h).2.symm.trans hclaim) (List.cons_ne_self _ _).symm
  | refresh h => exact absurd ((refreshSession_ok h).2.symm.trans hclaim) (List.cons_ne_self _ _).symm

end Invariance

/-- The final dispatch fence. Bodies are entered at most once per attempt and per effect, under committed
claims; a running body is that of the decision, trade and effect of its claim, and the attempt has that effect
and, until it is closed, that decision and trade, to which it was bound when the claim was inserted; no body is
entered after a stop of its session has returned, and no stop commits while one runs. -/
theorem canary_dispatch_fence {s : CanarySystem ι} (hs : Runs.Reachable Initial Step s) :
    (s.entered.map (·.attemptId)).Nodup ∧ (s.entered.map (·.effectId)).Nodup ∧ s.entered ⊆ s.tables.claims ∧
    (∀ p call claim, s.processes p = .dispatching call claim → claim ∈ s.tables.claims ∧
      claim.Of call.decision call.effectId ∧ ∃ a ∈ s.tables.attempts, a.Bound claim) ∧
    ∀ t, Step s t →
      (∀ claim, t.tables.claims = claim :: s.tables.claims → ∃ a ∈ t.tables.attempts, a.Bound claim ∧
        a.riskDecisionId = some claim.riskDecisionId ∧ a.tradeId = some claim.tradeId) ∧
      (∀ claim, t.entered = claim :: s.entered → claim ∈ s.tables.claims ∧ claim.sessionId ∉ s.stopped) ∧
      ∀ sessionId, t.stopped = sessionId :: s.stopped → ∀ p call claim,
        s.processes p = .dispatching call claim → claim.sessionId ≠ sessionId := by
  have hinv : Invariant s := hs.invariant (fun _ h => h.invariant) fun _ _ hs h => hs.step h
  refine ⟨?_, ?_, hinv.entered_subset, fun p call claim hp => ?_, fun t h => ⟨?_, ?_, ?_⟩⟩
  · refine hinv.entered_nodup.map_on fun c hc d hd heq => ?_
    exact List.inj_on_of_nodup_map s.tables.unique_claimed (hinv.entered_subset hc) (hinv.entered_subset hd) heq
  · refine hinv.entered_nodup.map_on fun c hc d hd heq => ?_
    exact List.inj_on_of_nodup_map s.tables.unique_effects (hinv.entered_subset hc) (hinv.entered_subset hd) heq
  · have hok := hinv.phases p
    rw [hp] at hok
    exact hok
  · exact fun claim hclaim => claim_step h hclaim
  · exact fun claim henter => enter_step hinv h henter
  · exact fun sessionId hstop p call claim hp => stop_step hinv h hstop hp

section Example

def exampleScope : CanaryScope := ⟨"paper-dev", "acct", "remote", "c", "r"⟩

def exampleColumn (value : PythonJson.PyJson) : JsonColumn := (Jsonb.jsonbIn (canonicalPayload value).1).getD .null

def examplePlan : PythonJson.PyJson := .obj [("slots", .arr [])]

def exampleSession : CanarySession where
  accountId := "acct"
  scope := exampleColumn exampleScope.modelDump
  scopeSha256 := digest exampleScope.modelDump
  plan := exampleColumn examplePlan
  planSha256 := digest examplePlan
  state := .running
  entryDeadlineAt := 1000
  maxAttempts := 10
  attemptsReserved := 1
  stopReason := none

def exampleAttempt : CanaryAttempt :=
  ⟨"attempt", "session", "arm", "review", "intent", .consumed, none, none, none, none, some "effect"⟩

def exampleDecision : EntryDecision :=
  ⟨some "decision", some "trade", "review", true, "PAPER", "DEV", "acct", "BTCUSDT", true, 0, 1, 5⟩

def exampleEnvironment : EntryEnvironment where
  now := 3
  millis _ := 3
  fromMillis _ := 900
  evidence _ _ := none
  effects _ := some ⟨"PREPARED", "PLACE_ORDER", "paper-dev:EVEDEX:DEV:PAPER", "acct", some "trade", "evedex", "BTCUSDT",
    "ENTRY"⟩
  requestMatches _ := true

def exampleStart : CanarySystem Unit where
  tables := ⟨fun i => if i = "session" then some exampleSession else none, [exampleAttempt], [], by decide, by decide,
    by decide, by decide⟩
  processes _ := .idle
  entered := []
  stopped := []

theorem exampleStart_initial : Initial exampleStart := ⟨fun _ => rfl, rfl, rfl⟩

def exampleCall : DispatchEntryCall := ⟨exampleDecision, exampleScope, "effect"⟩

theorem exampleColumn_intact {value : PythonJson.PyJson} (hkeys : value.UniqueKeys)
    (hnul : value.everyString Jsonb.nulFree) (hstable : ∀ n ∈ value.numbers, Jsonb.Stable n) :
    (readColumn (exampleColumn value)).any (fun reread => digest reread = digest value) = true := by
  have hcolumn := Jsonb.jsonbIn_dumps hnul
  obtain ⟨reread, hread, hdumps⟩ := readColumn_stable hcolumn hkeys hnul hstable
  have hexample : readColumn (exampleColumn value) = some reread := by
    rw [exampleColumn, canonicalPayload, hcolumn, Option.getD_some, hread]
  simp [hexample, digest, canonicalPayload, hdumps]

theorem exampleSession_intact : sessionIntact exampleSession = true := by
  have hscope := @exampleColumn_intact exampleScope.modelDump
    (by simp [CanaryScope.modelDump, Json.uniqueKeys_obj, Json.UniqueKeys]) (by decide +kernel)
    (by simp [CanaryScope.modelDump, Json.numbers, Json.numbersFields, Jsonb.Stable])
  have hplan := @exampleColumn_intact examplePlan
    (by simp [examplePlan, Json.UniqueKeys, Json.UniqueKeysFields, Json.UniqueKeysItems]) (by decide +kernel)
    (by simp [examplePlan, Json.numbers, Json.numbersFields, Json.numbersItems])
  have hcolumns : exampleSession.scope = exampleColumn exampleScope.modelDump ∧
      exampleSession.plan = exampleColumn examplePlan := by simp only [exampleSession, and_self]
  have hdigests : exampleSession.scopeSha256 = digest exampleScope.modelDump ∧
      exampleSession.planSha256 = digest examplePlan := by simp only [exampleSession, and_self]
  rw [sessionIntact, hcolumns.1, hcolumns.2, hdigests.1, hdigests.2, hscope, hplan]
  rfl

theorem exampleClaim : ∃ tables claim, claimDispatchEntry exampleEnvironment exampleDecision exampleScope "effect"
    exampleStart.tables = .ok (tables, claim, 900) ∧ claim.attemptId = "attempt" := by
  have hattempt : exampleStart.tables.attemptOfReview "review" = some exampleAttempt := rfl
  have hsession : exampleStart.tables.sessions "session" = some exampleSession := rfl
  have hscope : exampleSession.scopeSha256 = digest exampleScope.modelDump := by rw [exampleSession]
  have hbinding : entryBinding exampleEnvironment exampleDecision exampleScope "effect" exampleStart.tables =
      .ok (bindAttempt "attempt" "decision" "trade" "effect" exampleStart.tables,
        ⟨"session", "attempt", "effect", "decision", "trade", 900, false⟩) := by
    have hstrip : PythonText.strip "effect" = "effect" := by decide +kernel
    have hlength : "effect".length = 6 := rfl
    have hstate : exampleSession.state = .running := rfl
    have hdeadline : exampleSession.entryDeadlineAt = 1000 := rfl
    have hclaim : exampleStart.tables.claimOfAttempt "attempt" = none := rfl
    simp [entryBinding, exampleDecision, exampleEnvironment, exampleAttempt, exampleScope, bindsAnother, hattempt,
      hsession, hscope, hstrip, hlength, hstate, hdeadline, hclaim, exampleSession_intact]
  rw [claimDispatchEntry, hbinding]
  exact ⟨_, _, rfl, rfl⟩

/-- An entry is looked up, locked, claimed and sent. -/
theorem canary_dispatch_fence_example : ∃ (s : CanarySystem Unit) (claim : DispatchClaim),
    claim.attemptId = "attempt" ∧ s.entered = [claim] ∧ (s.entered.map (·.attemptId)).Nodup ∧
    s.entered ⊆ s.tables.claims := by
  obtain ⟨tables, claim, hclaim, hid⟩ := exampleClaim
  have hwaiting := (Runs.Reachable.start exampleStart_initial).next
    (@Step.lookUp _ _ _ () exampleCall exampleAttempt rfl (by rfl))
  have hlocked := hwaiting.next (Step.acquire () rfl (by rintro ⟨⟩ ⟨⟩))
  have hclaimed := hlocked.next (Step.claim () rfl hclaim)
  have hentered := hclaimed.next (Step.enter () 5 5 rfl (by decide) (by decide))
  obtain ⟨hnodup, -, hsubset, -⟩ := canary_dispatch_fence hentered
  exact ⟨_, claim, hid, rfl, hnodup, hsubset⟩

end Example

end CanarySystem

end KairosPersistence
