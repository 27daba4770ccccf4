import KairosPersistence.EffectJournal
import KairosPersistence.SimulatorProgress

/-!
The journals of the effects over whole runs: a status only advances, and each
advance is one entry.
-/

namespace KairosPersistence.ExecutionJournal

open PythonJson PythonText Relation
open Transactions (bind_ok require_ok found_ok)

section Chains

/-- The statuses that another status is left for. -/
def advances : EffectStatus → List EffectStatus
  | .prepared => [.confirmed, .reconciled, .failed]
  | .confirmed | .failed => [.reconciled]
  | .reconciled => []

/-- The most entries that the journal of an effect of the status has. -/
def mostEntries : EffectStatus → ℕ
  | .prepared => 1
  | .confirmed | .failed => 2
  | .reconciled => 3

theorem mem_advances_iff {status target : EffectStatus} :
    target ∈ advances status ↔ target ∈ allowedTransitions status ∧ status ≠ target := by
  cases status <;> cases target <;> simp [advances, allowedTransitions]

theorem mostEntries_lt {status target : EffectStatus} (h : target ∈ advances status) :
    mostEntries status < mostEntries target := by
  cases status <;> cases target <;> simp [advances, mostEntries] at h ⊢

/-- The journal of an effect, its last entry first, with the status and the digest it ends in. -/
inductive EffectChain (effectKey : String) : List EffectEventRow → EffectStatus → String → Prop
  | prepared {payload column} (hcolumn : Jsonb.jsonbIn (dumps payload) = some column) :
    EffectChain effectKey
      [⟨effectKey, EffectStatus.prepared.value, column, none, eventSha effectKey .prepared payload none⟩] .prepared
      (eventSha effectKey .prepared payload none)
  | moved {journal status head target payload column} (chain : EffectChain effectKey journal status head)
    (hadvances : target ∈ advances status) (hcolumn : Jsonb.jsonbIn (dumps payload) = some column) :
    EffectChain effectKey
      (⟨effectKey, target.value, column, some head, eventSha effectKey target payload (some head)⟩ :: journal) target
      (eventSha effectKey target payload (some head))

variable {effectKey head : String} {journal : List EffectEventRow} {status : EffectStatus}

theorem EffectChain.length (h : EffectChain effectKey journal status head) : journal.length ≤ mostEntries status := by
  induction h with
  | prepared => exact le_rfl
  | moved _ hadvances _ ih =>
    rw [List.length_cons]
    exact ih.trans_lt (mostEntries_lt hadvances)

end Chains

section Writes

variable {orderRoles : List String} {t t' : EffectTables} {effectKey : String}

theorem effect_mem {row : EffectRow} (h : t.effect effectKey = some row) : row ∈ t.effects ∧ row.effectKey = effectKey :=
  KeyedRows.find?_mem h

theorem record_ok {row : EffectRow} {effect : ExecutionEffect} (h : record row = .ok effect) : effect.row = row := by
  obtain ⟨payload, -, h⟩ := bind_ok h
  obtain ⟨_, -, h⟩ := bind_ok h
  split at h
  · rw [← Except.ok.inj h]
  · obtain ⟨response, -, h⟩ := bind_ok h
    rw [← Except.ok.inj h]

theorem appendEvent_ok {phase : EffectStatus} {payload : PyJson} {previous : Option String} {sha : String}
    (h : t.appendEvent effectKey phase payload previous sha = .ok t') :
    ∃ column, Jsonb.jsonbIn (dumps payload) = some column ∧
      t' = { t with events := ⟨effectKey, phase.value, column, previous, sha⟩ :: t.events } := by
  obtain ⟨column, hcolumn, h⟩ := bind_ok h
  obtain ⟨_, -, h⟩ := bind_ok h
  exact ⟨column, found_ok hcolumn, (Except.ok.inj h).symm⟩

/-- What a call writes: a new effect with the first entry of its journal, or an advance with its entry. -/
inductive EffectWrite (t : EffectTables) : EffectTables → Prop
  | unchanged : EffectWrite t t
  | prepared {request column eventColumn} (habsent : t.effect request.effectKey = none)
    (hevent : Jsonb.jsonbIn (dumps request.eventPayload) = some eventColumn) :
    EffectWrite t
      { effects := PrepareRequest.row request column :: t.effects
        events := ⟨request.effectKey, EffectStatus.prepared.value, eventColumn, none, request.preparedSha⟩ :: t.events }
  | moved {request current column eventColumn} (hrow : t.effect current.row.effectKey = some current.row)
    (hadvances : request.status ∈ advances current.row.status)
    (hevent : Jsonb.jsonbIn (dumps (TransitionRequest.eventPayload request current)) = some eventColumn) :
    EffectWrite t
      { effects := KeyedRows.replace (·.effectKey) (request.updated current column) t.effects
        events := ⟨current.row.effectKey, request.status.value, eventColumn, some current.row.journalHeadSha256,
          request.sha current⟩ :: t.events }

theorem prepare_ok {request : PrepareRequest} {effect : ExecutionEffect} {created : Bool}
    (h : prepare orderRoles request t = .ok (t', effect, created)) : EffectWrite t t' := by
  obtain ⟨_, -, h⟩ := bind_ok h
  obtain ⟨_, -, h⟩ := bind_ok h
  obtain ⟨_, -, h⟩ := bind_ok h
  split at h
  · obtain ⟨effect', -, h⟩ := bind_ok h
    obtain ⟨_, -, h⟩ := bind_ok h
    obtain ⟨rfl, -⟩ := Prod.mk.inj (Except.ok.inj h)
    exact .unchanged
  · rename_i habsent
    obtain ⟨column, -, h⟩ := bind_ok h
    obtain ⟨_, -, h⟩ := bind_ok h
    obtain ⟨t₁, happend, h⟩ := bind_ok h
    obtain ⟨effect', -, h⟩ := bind_ok h
    obtain ⟨rfl, -⟩ := Prod.mk.inj (Except.ok.inj h)
    obtain ⟨eventColumn, hevent, rfl⟩ := appendEvent_ok happend
    exact .prepared habsent hevent

theorem transition_ok {request : TransitionRequest} {effect : ExecutionEffect}
    (h : transition effectKey request t = .ok (t', effect)) : EffectWrite t t' := by
  obtain ⟨row, hrow, h⟩ := bind_ok h
  obtain ⟨current, hrecord, h⟩ := bind_ok h
  obtain ⟨_, hallowed, h⟩ := bind_ok h
  obtain rfl := record_ok hrecord
  have hrow := found_ok hrow
  obtain ⟨hmem, rfl⟩ := effect_mem hrow
  split_ifs at h with hsame
  · obtain ⟨_, -, h⟩ := bind_ok h
    obtain ⟨rfl, -⟩ := Prod.mk.inj (Except.ok.inj h)
    exact .unchanged
  · obtain ⟨column, -, h⟩ := bind_ok h
    obtain ⟨_, -, h⟩ := bind_ok h
    obtain ⟨_, -, h⟩ := bind_ok h
    obtain ⟨t₁, happend, h⟩ := bind_ok h
    obtain ⟨updated, -, h⟩ := bind_ok h
    obtain ⟨rfl, -⟩ := Prod.mk.inj (Except.ok.inj h)
    obtain ⟨eventColumn, hevent, rfl⟩ := appendEvent_ok happend
    exact .moved hrow (mem_advances_iff.mpr ⟨require_ok hallowed, hsame⟩) hevent

theorem EffectCall.writes (call : EffectCall) (t : EffectTables) : EffectWrite t (call.run orderRoles t).1 := by
  rcases Transactions.run_cases (call.body orderRoles) t with heq | ⟨effect, hbody⟩
  · rw [EffectCall.run, heq]
    exact .unchanged
  · rw [EffectCall.run]
    cases call with
    | prepare request =>
      obtain ⟨⟨t₁, effect', created⟩, hprepare, h⟩ := bind_ok hbody
      obtain ⟨h₁, -⟩ := Prod.mk.inj (Except.ok.inj h)
      rw [← h₁]
      exact prepare_ok hprepare
    | confirm effectKey exchangeEffectId responsePayload =>
      obtain ⟨_, -, h⟩ := bind_ok hbody
      exact transition_ok h
    | reconcile => exact transition_ok hbody
    | fail effectKey error =>
      obtain ⟨_, -, h⟩ := bind_ok hbody
      exact transition_ok h

end Writes

section Tables

/-- Each effect has a journal that leads to its row, and each entry an effect. -/
structure EffectTables.Sound (t : EffectTables) : Prop where
  ids : (t.effects.map (·.effectKey)).Nodup
  chains : ∀ r ∈ t.effects, EffectChain r.effectKey (t.journal r.effectKey) r.status r.journalHeadSha256
  known : ∀ e ∈ t.events, ∃ r ∈ t.effects, r.effectKey = e.effectKey

/-- Each effect is still there as it was prepared. Its status and its journal are as they were, or it has advanced by one
entry. -/
def EffectTables.Advances (t t' : EffectTables) : Prop :=
  ∀ r ∈ t.effects, ∃ r' ∈ t'.effects, r'.toEffectIdentity = r.toEffectIdentity ∧ r'.requestPayload = r.requestPayload ∧
    (r'.status = r.status ∧ t'.journal r.effectKey = t.journal r.effectKey ∨
      r'.status ∈ advances r.status ∧ ∃ e, t'.journal r.effectKey = e :: t.journal r.effectKey ∧ e.phase = r'.status.value)

variable {orderRoles : List String} {s t t' : EffectTables}

theorem journal_own {e : EffectEventRow} {effects : List EffectRow} {effectKey : String} (h : e.effectKey = effectKey) :
    EffectTables.journal ⟨effects, e :: t.events⟩ effectKey = e :: t.journal effectKey :=
  List.filter_cons_of_pos (decide_eq_true h)

theorem journal_other {e : EffectEventRow} {effects : List EffectRow} {effectKey : String} (h : e.effectKey ≠ effectKey) :
    EffectTables.journal ⟨effects, e :: t.events⟩ effectKey = t.journal effectKey :=
  List.filter_cons_of_neg (by simpa using h)

theorem absent_journal (h : t.Sound) {effectKey : String} (hnew : ∀ r ∈ t.effects, r.effectKey ≠ effectKey) :
    t.journal effectKey = [] := by
  apply List.filter_eq_nil_iff.mpr
  intro e he heq
  obtain ⟨r, hr, hkey⟩ := h.known e he
  exact hnew r hr (hkey.trans (of_decide_eq_true heq))

theorem EffectWrite.sound (h : t.Sound) (hwrite : EffectWrite t t') : t'.Sound := by
  cases hwrite with
  | unchanged => exact h
  | @prepared request column eventColumn habsent hevent =>
    have hnew : ∀ r ∈ t.effects, r.effectKey ≠ request.effectKey := KeyedRows.find?_eq_none_iff.mp habsent
    refine ⟨KeyedRows.nodup_cons h.ids hnew, fun r hr => ?_, fun e he => ?_⟩
    · rcases List.mem_cons.mp hr with rfl | hr
      · rw [journal_own]
        · change EffectChain request.effectKey (_ :: t.journal request.effectKey) _ _
          rw [absent_journal h hnew]
          exact .prepared hevent
        · rfl
      · rw [journal_other]
        · exact h.chains r hr
        · exact (hnew r hr).symm
    · rcases List.mem_cons.mp he with rfl | he
      · exact ⟨_, List.mem_cons_self, rfl⟩
      · obtain ⟨r, hr, hkey⟩ := h.known e he
        exact ⟨r, List.mem_cons_of_mem _ hr, hkey⟩
  | @moved request current column eventColumn hrow hadvances hevent =>
    have hmem := (effect_mem hrow).1
    refine ⟨?_, fun r hr => ?_, fun e he => ?_⟩
    · rw [KeyedRows.replace_keys]
      exact h.ids
    · rcases KeyedRows.mem_replace hr with rfl | ⟨hold, hne⟩
      · rw [journal_own]
        · exact (h.chains current.row hmem).moved hadvances hevent
        · rfl
      · rw [journal_other]
        · exact h.chains r hold
        · exact Ne.symm hne
    · apply List.mem_map.mp
      rw [KeyedRows.replace_keys]
      apply List.mem_map.mpr
      rcases List.mem_cons.mp he with rfl | he
      · exact ⟨current.row, hmem, rfl⟩
      · exact h.known e he

theorem EffectWrite.advances (h : t.Sound) (hwrite : EffectWrite t t') : t.Advances t' := by
  cases hwrite with
  | unchanged => exact fun r hr => ⟨r, hr, rfl, rfl, Or.inl ⟨rfl, rfl⟩⟩
  | @prepared request column eventColumn habsent =>
    intro r hr
    refine ⟨r, List.mem_cons_of_mem _ hr, rfl, rfl, Or.inl ⟨rfl, ?_⟩⟩
    apply journal_other
    exact (KeyedRows.find?_eq_none_iff.mp habsent r hr).symm
  | @moved request current column eventColumn hrow hadvances =>
    intro r hr
    by_cases hkey : r.effectKey = current.row.effectKey
    · obtain rfl : r = current.row := by
        have hsame := KeyedRows.find?_eq h.ids hr
        rw [hkey] at hsame
        exact Option.some.inj (hsame.symm.trans hrow)
      have hupdated := KeyedRows.find?_replace (a := request.updated current column) hrow
      refine ⟨request.updated current column, (KeyedRows.find?_mem hupdated).1, rfl, rfl, Or.inr ⟨hadvances, ?_⟩⟩
      exact ⟨⟨current.row.effectKey, request.status.value, eventColumn, some current.row.journalHeadSha256,
        request.sha current⟩, journal_own rfl, rfl⟩
    · refine ⟨r, KeyedRows.mem_replace_of_ne hr hkey, rfl, rfl, Or.inl ⟨rfl, ?_⟩⟩
      exact journal_other (Ne.symm hkey)

theorem EffectStep.sound (h : t.Sound) (hstep : EffectStep orderRoles t t') : t'.Sound := by
  cases hstep with
  | call call => exact (call.writes t).sound h

end Tables

section Example

variable {orderRoles : List String} {request : PrepareRequest} {t : EffectTables}

/-- The tables that a call leaves. -/
def EffectCall.after (orderRoles : List String) (call : EffectCall) (t : EffectTables) : EffectTables :=
  (call.run orderRoles t).1

theorem EffectCall.after_step (call : EffectCall) : EffectStep orderRoles t (call.after orderRoles t) := .call call

end Example

section Results

variable {orderRoles : List String} {t : EffectTables}

end Results

end KairosPersistence.ExecutionJournal
