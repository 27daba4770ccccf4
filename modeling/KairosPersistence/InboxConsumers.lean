import KairosPersistence.Inbox
import KairosPersistence.Locking
import KairosPersistence.Runs

/-!
The consumers of the durable bus: each runs `_subscribe`, and its deliveries
run inside `message_transaction`. They may be interrupted between any two
awaits, which rolls the open transaction back.
-/

namespace KairosPersistence

open PythonText (Timestamp)

/-- A delivery of the transport to a durable consumer. -/
structure InboxDelivery where
  key : InboxKey
  topic : String
  payloadSha256 : String
  envelopeId : String

/-- Where a consumer stands; `row` is the inbox row as its open transaction has left it, and
`writes` are the statements of the handler in the savepoint. -/
inductive ConsumerPhase (ω : Type) where
  | idle
  | received (delivery : InboxDelivery)
  | skipping (delivery : InboxDelivery) (claim : InboxClaim)
  | handling (delivery : InboxDelivery) (row : Option InboxRow) (writes : List ω) (ackRequested : Bool)
  | completing (delivery : InboxDelivery) (claimed row : Option InboxRow) (writes : List ω)
  | failing (delivery : InboxDelivery) (row : Option InboxRow)
  | acking (delivery : InboxDelivery)

namespace ConsumerPhase

variable {ω : Type}

/-- The inbox row whose lock the open transaction holds. -/
def lock : ConsumerPhase ω → Option InboxKey
  | .handling delivery _ _ _ | .completing delivery _ _ _ | .failing delivery _ => some delivery.key
  | _ => none

/-- The delivery and its row in a transaction that may still fail. -/
def claimed : ConsumerPhase ω → Option (InboxDelivery × Option InboxRow)
  | .handling delivery row _ _ | .completing delivery row _ _ => some (delivery, row)
  | _ => none

end ConsumerPhase

/-- The committed inbox, the consumers, and, the last one first, the committed writes of handlers
and the deliveries acknowledged to the transport. -/
structure InboxSystem (ι ω : Type) where
  inbox : InboxKey → Option InboxRow
  consumers : ι → ConsumerPhase ω
  effects : List (InboxKey × List ω)
  acks : List InboxDelivery

namespace InboxSystem

variable {ι ω : Type} [DecidableEq ι]

def setConsumer (s : InboxSystem ι ω) (p : ι) (x : ConsumerPhase ω) : InboxSystem ι ω :=
  { s with consumers := Function.update s.consumers p x }

def setRow (s : InboxSystem ι ω) (key : InboxKey) (row : Option InboxRow) : InboxSystem ι ω :=
  { s with inbox := Function.update s.inbox key row }

def Unlocked (s : InboxSystem ι ω) (key : InboxKey) : Prop := Locking.Free (·.lock = some ·) s.consumers key

inductive Step : InboxSystem ι ω → InboxSystem ι ω → Prop
  | deliver {s} (p : ι) (delivery : InboxDelivery) (h : s.consumers p = .idle) :
    Step s (s.setConsumer p (.received delivery))
  -- cancelled, left early or crashed: the connection rolls back
  | interrupt {s} (p : ι) : Step s (s.setConsumer p .idle)
  -- the claim waits for the lock of the row
  | claim {s} (p : ι) {delivery lease now row claim} (h : s.consumers p = .received delivery)
    (hl : s.Unlocked delivery.key)
    (hm : claimMessage delivery.key.messageId delivery.topic lease (some delivery.payloadSha256) now
      (s.inbox delivery.key) = .ok (row, claim)) :
    Step s (s.setConsumer p
      (if claim.claimed then .handling delivery row [] false else .skipping delivery claim))
  | claimFailed {s} (p : ι) {delivery lease now e} (h : s.consumers p = .received delivery)
    (hl : s.Unlocked delivery.key)
    (hm : claimMessage delivery.key.messageId delivery.topic lease (some delivery.payloadSha256) now
      (s.inbox delivery.key) = .error e) :
    Step s (s.setConsumer p .idle)
  | skip {s} (p : ι) {delivery claim} (h : s.consumers p = .skipping delivery claim) :
    Step s (s.setConsumer p (if claim.duplicateCompleted then .acking delivery else .idle))
  -- the handler and the audit of its input write in the savepoint
  | write {s} (p : ι) {delivery row writes ackRequested} (w : ω)
    (h : s.consumers p = .handling delivery row writes ackRequested) :
    Step s (s.setConsumer p (.handling delivery row (writes ++ [w]) ackRequested))
  | requestAck {s} (p : ι) {delivery row writes} (h : s.consumers p = .handling delivery row writes false) :
    Step s (s.setConsumer p (.handling delivery row writes true))
  | complete {s} (p : ι) {delivery row row' writes} (h : s.consumers p = .handling delivery row writes true)
    (hc : completeMessage (some (.obj [("transport_id", .str delivery.envelopeId)])) row = (row', true)) :
    Step s (s.setConsumer p (.completing delivery row row' writes))
  -- an exception rolls back to the savepoint; without a request to acknowledge there always is one
  | fail {s} (p : ι) {delivery row row'} (error : String) (h : (s.consumers p).claimed = some (delivery, row))
    (hf : failMessage error row = (row', true)) : Step s (s.setConsumer p (.failing delivery row'))
  -- a commit whose response is lost ends in an exception
  | commit {s} (p : ι) {delivery row row' writes} (lost : Bool)
    (h : s.consumers p = .completing delivery row row' writes) :
    Step s { (s.setRow delivery.key row').setConsumer p (if lost then .idle else .acking delivery) with
      effects := (delivery.key, writes) :: s.effects }
  | commitFailed {s} (p : ι) {delivery row} (h : s.consumers p = .failing delivery row) :
    Step s ((s.setRow delivery.key row).setConsumer p .idle)
  | ack {s} (p : ι) {delivery} (h : s.consumers p = .acking delivery) :
    Step s { s.setConsumer p .idle with acks := delivery :: s.acks }

/-- Any inbox, and no delivery yet. -/
def Initial (s : InboxSystem ι ω) : Prop := (∀ p, s.consumers p = .idle) ∧ s.effects = [] ∧ s.acks = []

def PhaseOk (inbox : InboxKey → Option InboxRow) : ConsumerPhase ω → Prop
  | .idle | .received _ => True
  | .skipping delivery claim => claim.duplicateCompleted = true → Completed (inbox delivery.key)
  | .handling delivery _ _ _ => ¬Completed (inbox delivery.key)
  | .completing delivery _ row _ => Completed row ∧ ¬Completed (inbox delivery.key)
  | .failing delivery row => (∃ r, row = some r ∧ r.status = .failed) ∧ ¬Completed (inbox delivery.key)
  | .acking delivery => Completed (inbox delivery.key)

structure Invariant (s : InboxSystem ι ω) : Prop where
  effects_nodup : (s.effects.map Prod.fst).Nodup
  effects_completed : ∀ k ∈ s.effects.map Prod.fst, Completed (s.inbox k)
  exclusive : Locking.Exclusive (·.lock = some ·) s.consumers
  phases : ∀ p, PhaseOk s.inbox (s.consumers p)

omit [DecidableEq ι] in
theorem Initial.invariant {s : InboxSystem ι ω} (h : Initial s) : Invariant s := by
  obtain ⟨hidle, heffects, -⟩ := h
  constructor
  · simp [heffects]
  · simp [heffects]
  · intro p q k hp
    rw [hidle p] at hp
    cases hp
  · intro p
    rw [hidle p]
    trivial

section Invariance

variable {s t : InboxSystem ι ω} (hs : Invariant s)

/-- What a consumer knows stays true while completed rows stay completed and its own row stays. -/
theorem PhaseOk.mono {inbox inbox' : InboxKey → Option InboxRow} {x : ConsumerPhase ω} (hx : PhaseOk inbox x)
    (hcompleted : ∀ k, Completed (inbox k) → Completed (inbox' k))
    (hlock : ∀ k, x.lock = some k → inbox' k = inbox k) : PhaseOk inbox' x := by
  cases x with
  | idle | received => trivial
  | skipping delivery claim => exact fun hdup => hcompleted _ (hx hdup)
  | acking delivery => exact hcompleted _ hx
  | handling delivery | completing delivery | failing delivery =>
    have hrow := hlock delivery.key rfl
    simpa only [PhaseOk, hrow] using hx

include hs

theorem Invariant.setConsumer {p : ι} {x : ConsumerPhase ω} {acks : List InboxDelivery} (hx : PhaseOk s.inbox x)
    (hl : ∀ k, x.lock = some k → s.Unlocked k ∨ (s.consumers p).lock = some k) :
    Invariant { s.setConsumer p x with acks := acks } := by
  refine ⟨hs.effects_nodup, hs.effects_completed, hs.exclusive.update hl, ?_⟩
  exact (Function.forall_update_iff s.consumers fun _ => PhaseOk s.inbox).mpr ⟨hx, fun q _ => hs.phases q⟩

/-- The row a consumer has locked, which was not completed, is committed and unlocked. -/
theorem Invariant.commit {p : ι} {key : InboxKey} {row : Option InboxRow} {x : ConsumerPhase ω}
    {effects : List (InboxKey × List ω)} (hlock : (s.consumers p).lock = some key)
    (hopen : ¬Completed (s.inbox key)) (hx : x.lock = none)
    (hok : PhaseOk (Function.update s.inbox key row) x)
    (heffects : effects = s.effects ∨ Completed row ∧ ∃ writes, effects = (key, writes) :: s.effects) :
    Invariant { (s.setRow key row).setConsumer p x with effects := effects } := by
  have hmono (k : InboxKey) (hk : Completed (s.inbox k)) : Completed (Function.update s.inbox key row k) := by
    rw [Function.update_of_ne]
    · exact hk
    · rintro rfl
      exact hopen hk
  refine ⟨?_, ?_, hs.exclusive.update (by simp [hx]), ?_⟩
  · rcases heffects with rfl | ⟨-, writes, rfl⟩
    · exact hs.effects_nodup
    · exact List.nodup_cons.mpr ⟨fun hmem => hopen (hs.effects_completed key hmem), hs.effects_nodup⟩
  · intro k hk
    rcases heffects with rfl | ⟨hrow, writes, rfl⟩
    · exact hmono k (hs.effects_completed k hk)
    · rcases List.mem_cons.mp hk with heq | hk
      · have hself : Function.update s.inbox key row key = row := Function.update_self ..
        rw [heq]
        exact (congrArg Completed hself).mpr hrow
      · exact hmono k (hs.effects_completed k hk)
  · refine (Function.forall_update_iff s.consumers fun _ => PhaseOk (Function.update s.inbox key row)).mpr
      ⟨hok, fun q hq => ?_⟩
    refine PhaseOk.mono (hs.phases q) hmono fun k hk => Function.update_of_ne ?_ ..
    rintro rfl
    exact hq (hs.exclusive q p k hk hlock)

theorem Invariant.step (h : Step s t) : Invariant t := by
  cases h with
  | deliver p delivery h => exact hs.setConsumer trivial (by simp [ConsumerPhase.lock])
  | interrupt p => exact hs.setConsumer trivial (by simp [ConsumerPhase.lock])
  | @claim p delivery lease now row claim h hl hm =>
    cases hc : claim.claimed with
    | true =>
      obtain ⟨hopen, -⟩ := claimMessage_claimed hm hc
      exact hs.setConsumer (by simpa [PhaseOk] using hopen) fun k hk => Or.inl (by
        obtain rfl : delivery.key = k := by simpa [ConsumerPhase.lock] using hk
        exact hl)
    | false =>
      obtain ⟨-, hdup⟩ := claimMessage_unclaimed hm hc
      exact hs.setConsumer (by simpa [PhaseOk] using hdup) (by simp [ConsumerPhase.lock])
  | claimFailed p h hl hm => exact hs.setConsumer trivial (by simp [ConsumerPhase.lock])
  | @skip p delivery claim h =>
    have hok := hs.phases p
    rw [h] at hok
    cases hc : claim.duplicateCompleted with
    | true => exact hs.setConsumer (by simpa [PhaseOk] using hok hc) (by simp [ConsumerPhase.lock])
    | false => exact hs.setConsumer (by simp [PhaseOk]) (by simp [ConsumerPhase.lock])
  | write p w h =>
    have hok := hs.phases p
    rw [h] at hok
    exact hs.setConsumer hok fun k hk => Or.inr (by rw [h]; exact hk)
  | requestAck p h =>
    have hok := hs.phases p
    rw [h] at hok
    exact hs.setConsumer hok fun k hk => Or.inr (by rw [h]; exact hk)
  | complete p h hc =>
    have hok := hs.phases p
    rw [h] at hok
    exact hs.setConsumer ⟨completeMessage_true hc, hok⟩ fun k hk => Or.inr (by rw [h]; exact hk)
  | @fail p delivery row row' error h hf =>
    obtain ⟨hopen, hlock⟩ : ¬Completed (s.inbox delivery.key) ∧ (s.consumers p).lock = some delivery.key := by
      have hok := hs.phases p
      revert h hok
      cases s.consumers p <;> simp_all [ConsumerPhase.claimed, PhaseOk, ConsumerPhase.lock]
    exact hs.setConsumer ⟨failMessage_true hf, hopen⟩ fun k hk => Or.inr (hlock.trans hk)
  | @commit p delivery row row' writes lost h =>
    have hok := hs.phases p
    rw [h] at hok
    obtain ⟨hcompleted, hopen⟩ := hok
    refine hs.commit (by rw [h]; rfl) hopen (by cases lost <;> rfl) ?_ (Or.inr ⟨hcompleted, writes, rfl⟩)
    cases lost with
    | true => trivial
    | false => simpa [PhaseOk] using hcompleted
  | commitFailed p h =>
    have hok := hs.phases p
    rw [h] at hok
    exact hs.commit (by rw [h]; rfl) hok.2 rfl trivial (Or.inl rfl)
  | ack p h => exact hs.setConsumer trivial (by simp [ConsumerPhase.lock])

end Invariance

section Outcome

variable (s t : InboxSystem ι ω)

/-- The transaction of a delivery whose handler has returned commits: the row becomes completed and the
writes of the handler take effect. -/
def Commits : Prop :=
  ∃ p delivery claimed row writes, s.consumers p = .completing delivery claimed row writes ∧
    ¬Completed (s.inbox delivery.key) ∧ Completed row ∧ t.inbox = Function.update s.inbox delivery.key row ∧
    t.effects = (delivery.key, writes) :: s.effects

/-- The transaction of a failed delivery commits: no write takes effect, and the row becomes failed. -/
def RecordsFailure : Prop :=
  ∃ p delivery r, s.consumers p = .failing delivery (some r) ∧ r.status = .failed ∧
    ¬Completed (s.inbox delivery.key) ∧ t.inbox = Function.update s.inbox delivery.key (some r) ∧
    t.effects = s.effects

variable {s t}

theorem Invariant.step_cases (hs : Invariant s) (h : Step s t) :
    Commits s t ∨ RecordsFailure s t ∨ t.inbox = s.inbox ∧ t.effects = s.effects := by
  cases h with
  | deliver | interrupt | claim | claimFailed | skip | write | requestAck | complete | fail | ack =>
    exact Or.inr (Or.inr ⟨rfl, rfl⟩)
  | @commit p delivery claimed row writes lost h =>
    have hok := hs.phases p
    rw [h] at hok
    exact Or.inl ⟨p, delivery, claimed, row, writes, h, hok.2, hok.1, rfl, rfl⟩
  | @commitFailed p delivery row h =>
    have hok := hs.phases p
    rw [h] at hok
    obtain ⟨⟨r, rfl, hr⟩, hopen⟩ := hok
    exact Or.inr (Or.inl ⟨p, delivery, r, h, hr, hopen, rfl, rfl⟩)

theorem Invariant.acks_cases (hs : Invariant s) (h : Step s t) :
    t.acks = s.acks ∨ ∃ delivery, t.acks = delivery :: s.acks ∧ Completed (s.inbox delivery.key) := by
  cases h with
  | deliver | interrupt | claim | claimFailed | skip | write | requestAck | complete | fail | commit | commitFailed =>
    exact Or.inl rfl
  | @ack p delivery h =>
    have hok := hs.phases p
    rw [h] at hok
    exact Or.inr ⟨delivery, rfl, hok⟩

/-- A delivery that does not have the identity of its row is given up, and nothing else happens. -/
theorem conflict_step {p : ι} {delivery : InboxDelivery} {r : InboxRow} (hp : s.consumers p = .received delivery)
    (hr : s.inbox delivery.key = some r)
    (hne : r.topic ≠ delivery.topic ∨ r.payloadSha256 ≠ some delivery.payloadSha256) (h : Step s t) :
    t.consumers p = s.consumers p ∨
      t.consumers p = .idle ∧ t.inbox = s.inbox ∧ t.effects = s.effects ∧ t.acks = s.acks := by
  have hother (q : ι) (x : ConsumerPhase ω) (hq : s.consumers q ≠ .received delivery) :
      Function.update s.consumers q x p = s.consumers p := by
    refine Function.update_of_ne ?_ ..
    rintro rfl
    exact hq hp
  cases h with
  | deliver q _ h | skip q h | write q _ h | requestAck q h | complete q h | commit q _ h | commitFailed q h
  | ack q h => exact Or.inl (hother q _ (by rw [h]; simp))
  | fail q _ h =>
    refine Or.inl (hother q _ ?_)
    intro heq
    rw [heq] at h
    cases h
  | interrupt q =>
    by_cases hq : p = q
    · subst hq
      exact Or.inr ⟨Function.update_self .., rfl, rfl, rfl⟩
    · exact Or.inl (Function.update_of_ne hq ..)
  | @claim q delivery' _ _ _ _ h _ hm =>
    by_cases hq : p = q
    · subst hq
      obtain rfl : delivery = delivery' := by simpa using hp.symm.trans h
      rw [hr, claimMessage_conflict hne] at hm
      cases hm
    · exact Or.inl (Function.update_of_ne hq ..)
  | claimFailed q h =>
    by_cases hq : p = q
    · subst hq
      exact Or.inr ⟨Function.update_self .., rfl, rfl, rfl⟩
    · exact Or.inl (Function.update_of_ne hq ..)

/-- Exactly-once inbox effects. For each key the writes of a handler take effect at most once, in the
transaction that completes the row; every other delivery leaves at most a failed row; only deliveries
of completed rows are acknowledged; and a delivery of another identity raises and changes nothing. -/
theorem inbox_exactly_once (hs : Runs.Reachable Initial Step s) :
    (s.effects.map Prod.fst).Nodup ∧ (∀ k ∈ s.effects.map Prod.fst, Completed (s.inbox k)) ∧
      ∀ t, Step s t →
        (Commits s t ∨ RecordsFailure s t ∨ t.inbox = s.inbox ∧ t.effects = s.effects) ∧
        (t.acks = s.acks ∨ ∃ delivery, t.acks = delivery :: s.acks ∧ Completed (s.inbox delivery.key)) ∧
        ∀ p delivery r, s.consumers p = .received delivery → s.inbox delivery.key = some r →
          r.topic ≠ delivery.topic ∨ r.payloadSha256 ≠ some delivery.payloadSha256 →
          (∀ lease now, claimMessage delivery.key.messageId delivery.topic lease (some delivery.payloadSha256) now
            (s.inbox delivery.key) = .error (.messageIdentityConflict delivery.key.messageId)) ∧
          (t.consumers p = s.consumers p ∨
            t.consumers p = .idle ∧ t.inbox = s.inbox ∧ t.effects = s.effects ∧ t.acks = s.acks) := by
  have hinv : Invariant s := hs.invariant (fun _ h => h.invariant) fun _ _ hs h => hs.step h
  refine ⟨hinv.effects_nodup, hinv.effects_completed, fun t h => ⟨hinv.step_cases h, hinv.acks_cases h, ?_⟩⟩
  intro p delivery r hp hr hne
  constructor
  · intro lease now
    rw [hr]
    exact claimMessage_conflict hne
  · exact conflict_step hp hr hne h

end Outcome

section Example

def exampleDelivery : InboxDelivery := ⟨⟨"risk:default", "m"⟩, "orders", "h", "1-0"⟩

def exampleStart : InboxSystem Unit String := ⟨fun _ => none, fun _ => .idle, [], []⟩

/-- A delivery is handled with one write, committed and acknowledged. -/
theorem inbox_exactly_once_example : ∃ s : InboxSystem Unit String,
    s.effects = [(exampleDelivery.key, ["w"])] ∧ s.acks = [exampleDelivery] ∧ (s.effects.map Prod.fst).Nodup ∧
      ∀ k ∈ s.effects.map Prod.fst, Completed (s.inbox k) := by
  have hstart : Runs.Reachable Initial Step exampleStart := .start ⟨fun _ => rfl, rfl, rfl⟩
  have hreceived := hstart.next (.deliver () exampleDelivery rfl)
  have hclaimed := hreceived.next (@Step.claim _ _ _ _ () exampleDelivery 60 0 _ _ rfl (fun _ h => by cases h) rfl)
  have hwritten := hclaimed.next (.write () "w" rfl)
  have hrequested := hwritten.next (.requestAck () rfl)
  have hcompleted := hrequested.next (.complete () rfl rfl)
  have hcommitted := hcompleted.next (.commit () false rfl)
  have hacked := hcommitted.next (.ack () rfl)
  obtain ⟨hnodup, heffects, -⟩ := inbox_exactly_once hacked
  exact ⟨_, rfl, rfl, hnodup, heffects⟩

end Example

end InboxSystem

end KairosPersistence
