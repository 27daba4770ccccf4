import KairosPersistence.OutboxWrites
import KairosPersistence.Locking
import KairosPersistence.Runs

/-!
The claims of the outbox under READ COMMITTED. A statement reads the rows that
were committed when it began; a row it locks is checked again in its last
committed version, but the rows of a subquery are not.
-/

namespace KairosPersistence

open PythonText (Timestamp)

structure OutboxSnapshot where
  rows : ℕ → Option OutboxRow
  nextId : ℕ

structure DispatchCall where
  workerId : String
  producer : String
  uuid : String
  lease : Timestamp
  now : Timestamp

structure ExactCall where
  leaseRequirement : LeaseRequirement
  identity : OfflineOutboxIdentity
  reconciliationId : ReconciliationId
  lease : Timestamp
  now : Timestamp

/-- An open transaction on the outbox, as far as it has come. -/
inductive OutboxTransaction where
  | idle
  | inserting (rows : List (ℕ × OutboxRow))
  | scanning (call : DispatchCall) (snapshot : OutboxSnapshot)
  | locked (call : DispatchCall) (snapshot : OutboxSnapshot) (id : ℕ)
  | exactLocked (call : ExactCall) (row : Option OutboxRow)
  | exactScanning (call : ExactCall) (row : Option OutboxRow) (snapshot : OutboxSnapshot) (next : ℕ)
  | exactChecked (call : ExactCall) (row : Option OutboxRow) (predecessor : Bool)

namespace OutboxTransaction

/-- The row whose lock the transaction holds. -/
def lock : OutboxTransaction → Option ℕ
  | .locked _ _ id => some id
  | .exactLocked call _ | .exactScanning call _ _ _ | .exactChecked call _ _ => some call.identity.id
  | _ => none

def inserted : OutboxTransaction → List (ℕ × OutboxRow)
  | .inserting rows => rows
  | _ => []

end OutboxTransaction

/-- The committed rows, the sequence, the open transactions, the ids claimed so far, and for each
inserted id the rows that were committed when its `INSERT` ran. -/
structure OutboxSystem (ι : Type) where
  rows : ℕ → Option OutboxRow
  nextId : ℕ
  transactions : ι → OutboxTransaction
  claims : List ℕ
  committedBefore : ℕ → ℕ → Prop

namespace OutboxSystem

variable {ι : Type} [DecidableEq ι]

def snapshot (s : OutboxSystem ι) : OutboxSnapshot := ⟨s.rows, s.nextId⟩

def Unlocked (s : OutboxSystem ι) (id : ℕ) : Prop := Locking.Free (·.lock = some ·) s.transactions id

def setTransaction (s : OutboxSystem ι) (p : ι) (x : OutboxTransaction) : OutboxSystem ι :=
  { s with transactions := Function.update s.transactions p x }

def setRow (s : OutboxSystem ι) (id : ℕ) (r : OutboxRow) : OutboxSystem ι :=
  { s with rows := Function.update s.rows id (some r) }

/-- Neither committed nor inserted by an open transaction. -/
def NewMessage (s : OutboxSystem ι) (messageId : String) : Prop :=
  (∀ i r, s.rows i = some r → r.messageId ≠ messageId) ∧
    ∀ p, ∀ x ∈ (s.transactions p).inserted, x.2.messageId ≠ messageId

def IsPredecessor (rows : ℕ → Option OutboxRow) (producer : String) (j : ℕ) : Prop :=
  ∃ r, rows j = some r ∧ r.producer = producer ∧ r.Unresolved

inductive Step : OutboxSystem ι → OutboxSystem ι → Prop
  -- enqueue_outbox inside a business transaction
  | insert {s} (p : ι) {rows messageId topic payload payloadSha256 producer now}
    (h : s.transactions p = .idle ∧ rows = [] ∨ s.transactions p = .inserting rows)
    (hm : s.NewMessage messageId) :
    Step s { s.setTransaction p (.inserting (rows ++ [(s.nextId,
        newOutboxRow messageId topic payload payloadSha256 producer now)])) with
      nextId := s.nextId + 1
      committedBefore := Function.update s.committedBefore s.nextId fun i => (s.rows i).isSome }
  | burn {s} : Step s { s with nextId := s.nextId + 1 }
  | commitInserts {s} (p : ι) {rows} (h : s.transactions p = .inserting rows) :
    Step s { s.setTransaction p .idle with
      rows := fun i => (s.rows i).or ((rows.find? (·.1 = i)).map Prod.snd) }
  -- the transaction is rolled back, or its call returns no claim
  | abort {s} (p : ι) : Step s (s.setTransaction p .idle)
  -- the other operations wait for the locks of the rows they write
  | client {s} {o o' : Outbox} (ho : o.rows = s.rows) (h : o.Written o')
    (hl : ∀ i, ¬s.Unlocked i → o'.rows i = o.rows i) : Step s { s with rows := o'.rows }
  -- claim_outbox
  | scan {s} (p : ι) (call : DispatchCall) (h : s.transactions p = .idle) :
    Step s (s.setTransaction p (.scanning call s.snapshot))
  | lockCandidate {s} (p : ι) {call snapshot} (id : ℕ) {r} (h : s.transactions p = .scanning call snapshot)
    (hl : s.Unlocked id) (hc : isCandidate call.producer call.now snapshot.rows id)
    (hr : s.rows id = some r) (hd : Dispatchable call.producer call.now r) :
    Step s (s.setTransaction p (.locked call snapshot id))
  | commitClaim {s} (p : ι) {call snapshot id r r'} (h : s.transactions p = .locked call snapshot id)
    (hr : s.rows id = some r) (hc : claimDispatch call.workerId call.uuid call.lease call.now r = some r') :
    Step s { (s.setRow id r').setTransaction p .idle with claims := id :: s.claims }
  -- claim_expired_outbox_exact and claim_ready_outbox_exact
  | lockExact {s} (p : ι) (call : ExactCall) (h : s.transactions p = .idle) (hl : s.Unlocked call.identity.id) :
    Step s (s.setTransaction p (.exactLocked call (s.rows call.identity.id)))
  | scanPredecessors {s} (p : ι) {call row} (h : s.transactions p = .exactLocked call row) :
    Step s (s.setTransaction p (.exactScanning call row s.snapshot 0))
  -- a candidate of the snapshot that has lost its conditions when it is locked is passed over
  | skipPredecessor {s} (p : ι) {call row snapshot next}
    (h : s.transactions p = .exactScanning call row snapshot next)
    (hn : ¬(IsPredecessor snapshot.rows call.identity.producer next ∧
      IsPredecessor s.rows call.identity.producer next)) :
    Step s (s.setTransaction p (.exactScanning call row snapshot (next + 1)))
  | foundPredecessor {s} (p : ι) {call row snapshot next}
    (h : s.transactions p = .exactScanning call row snapshot next) (hn : next < call.identity.id)
    (hp : IsPredecessor snapshot.rows call.identity.producer next ∧
      IsPredecessor s.rows call.identity.producer next) :
    Step s (s.setTransaction p (.exactChecked call row true))
  | noPredecessor {s} (p : ι) {call row snapshot next}
    (h : s.transactions p = .exactScanning call row snapshot next) (hn : call.identity.id ≤ next) :
    Step s (s.setTransaction p (.exactChecked call row false))
  | commitExact {s} (p : ι) {call row predecessor auditRows r r'}
    (h : s.transactions p = .exactChecked call row predecessor)
    (hv : validateExactOfflineOutbox row call.identity auditRows predecessor call.leaseRequirement
      true true true call.now = none)
    (hr : s.rows call.identity.id = some r)
    (hc : claimExact call.identity call.leaseRequirement call.reconciliationId call.lease call.now r = some r') :
    Step s { (s.setRow call.identity.id r').setTransaction p .idle with claims := call.identity.id :: s.claims }

/-- No transaction is open, the sequence is past all rows, and a dead-lettered row holds no lease
(`fail_outbox`, which alone marks it, clears the lease). -/
structure Initial (s : OutboxSystem ι) : Prop where
  rows_lt : ∀ i r, s.rows i = some r → i < s.nextId
  idle : ∀ p, s.transactions p = .idle
  unleased : ∀ i r, s.rows i = some r → r.deadLetteredAt.isSome → r.leaseOwner = none
  before_lt : ∀ j i, s.committedBefore j i → i < j
  before_committed : ∀ j i, s.committedBefore j i → (s.rows i).isSome

end OutboxSystem

namespace OutboxRow

/-- A later version of a row: once resolved, it stays so. -/
def Later (r r' : OutboxRow) : Prop := r'.producer = r.producer ∧ (¬r.Unresolved → ¬r'.Unresolved)

def Unleased (r : OutboxRow) : Prop := r.deadLetteredAt.isSome → r.leaseOwner = none

variable {r r' r'' : OutboxRow}

theorem Later.refl (r : OutboxRow) : r.Later r := ⟨rfl, id⟩

theorem Later.trans (h : r.Later r') (h' : r'.Later r'') : r.Later r'' :=
  ⟨h'.1.trans h.1, fun hr => h'.2 (h.2 hr)⟩

theorem Write.later (h : r.Write r') (hr : r.Unleased) : r.Later r' ∧ r'.Unleased := by
  cases h with
  | acknowledge now h hu | markUnknown error now h hu | quarantine evidence k now h hu | resolve evidence now h hu =>
    constructor
    · exact ⟨rfl, fun hn => absurd hu hn⟩
    · intro hd
      exact absurd hd (by
        simp [OutboxRow.acknowledge, OutboxRow.markUnknown, OutboxRow.quarantine, OutboxRow.resolve, hu.2])
  | fail error retryAfter maxAttempts now h hp hl =>
    constructor
    · refine ⟨rfl, fun hn => ?_⟩
      -- a row with a lease carries no dead letter
      have hd : r.deadLetteredAt = none := by
        by_contra hd
        rw [hr (Option.isSome_iff_ne_none.mpr hd)] at hl
        cases hl
      exact absurd ⟨hp, hd⟩ hn
    · exact fun _ => rfl
  | setPayloadSha256 => exact ⟨⟨rfl, id⟩, hr⟩

theorem Claimable.later (h : r.Claimable) (owner : String) (k : ReconciliationId) (lease now : Timestamp) :
    r.Later (r.claim owner k lease now) ∧ (r.claim owner k lease now).Unleased := by
  constructor
  · exact ⟨rfl, fun hn => absurd h.unresolved hn⟩
  · intro hd
    exact absurd hd (by simp [OutboxRow.claim, h.unresolved.2])

end OutboxRow

namespace OutboxSystem

variable {ι : Type} [DecidableEq ι] {s t : OutboxSystem ι}

structure Advance (s t : OutboxSystem ι) : Prop where
  nextId : s.nextId ≤ t.nextId
  rows : ∀ i r, s.rows i = some r → ∃ r', t.rows i = some r' ∧ r.Later r'
  before : ∀ j < s.nextId, t.committedBefore j = s.committedBefore j

/-- The snapshot is an earlier state of the committed rows, and it has every row that was committed
before one of its ids was given out. -/
structure SnapshotOf (s : OutboxSystem ι) (snapshot : OutboxSnapshot) : Prop where
  nextId : snapshot.nextId ≤ s.nextId
  rows_lt : ∀ i r, snapshot.rows i = some r → i < snapshot.nextId
  later : ∀ i r, snapshot.rows i = some r → ∃ r', s.rows i = some r' ∧ r.Later r'
  before : ∀ j < snapshot.nextId, ∀ i, s.committedBefore j i → (snapshot.rows i).isSome

/-- Every row of the producer that was committed before the `INSERT` of `id` is resolved. -/
def PredecessorsResolved (s : OutboxSystem ι) (producer : String) (id : ℕ) : Prop :=
  ∀ j, s.committedBefore id j → ¬IsPredecessor s.rows producer j

def TransactionOk (s : OutboxSystem ι) : OutboxTransaction → Prop
  | .idle => True
  | .inserting rows => ∀ x ∈ rows, x.1 < s.nextId ∧ x.2.deadLetteredAt = none
  | .scanning _ snapshot => SnapshotOf s snapshot
  | .locked call _ id => PredecessorsResolved s call.producer id ∧ id < s.nextId ∧
    ∃ r, s.rows id = some r ∧ Dispatchable call.producer call.now r
  | .exactLocked call row => row.isSome → call.identity.id < s.nextId
  | .exactScanning call row snapshot next => SnapshotOf s snapshot ∧
    (row.isSome → call.identity.id < snapshot.nextId) ∧
    ∀ j < next, IsPredecessor snapshot.rows call.identity.producer j →
      ¬IsPredecessor s.rows call.identity.producer j
  | .exactChecked call row predecessor => row.isSome → call.identity.id < s.nextId ∧
    (predecessor = false → PredecessorsResolved s call.identity.producer call.identity.id)

structure Invariant (s : OutboxSystem ι) : Prop where
  rows_lt : ∀ i r, s.rows i = some r → i < s.nextId
  unleased : ∀ i r, s.rows i = some r → r.Unleased
  before_lt : ∀ j i, s.committedBefore j i → i < j
  before_committed : ∀ j i, s.committedBefore j i → (s.rows i).isSome
  exclusive : Locking.Exclusive (·.lock = some ·) s.transactions
  transactions : ∀ p, TransactionOk s (s.transactions p)

omit [DecidableEq ι] in
theorem Initial.invariant (h : Initial s) : Invariant s where
  rows_lt := h.rows_lt
  unleased := h.unleased
  before_lt := h.before_lt
  before_committed := h.before_committed
  exclusive p q id hp := by rw [h.idle p] at hp; cases hp
  transactions p := by rw [h.idle p]; trivial

section Advance

variable (h : Advance s t)
include h

omit [DecidableEq ι] in
/-- A row that is no unresolved row of the producer does not become one. -/
theorem Advance.isPredecessor {producer : String} {j : ℕ} (hj : (s.rows j).isSome)
    (hp : IsPredecessor t.rows producer j) : IsPredecessor s.rows producer j := by
  obtain ⟨r, hr⟩ := Option.isSome_iff_exists.mp hj
  obtain ⟨r', hr', hlater⟩ := h.rows j r hr
  obtain ⟨r'', hr'', hprod, hunresolved⟩ := hp
  obtain rfl : r' = r'' := Option.some.inj (hr'.symm.trans hr'')
  refine ⟨r, hr, hlater.1.symm.trans hprod, ?_⟩
  by_contra hresolved
  exact hlater.2 hresolved hunresolved

omit [DecidableEq ι] in
theorem SnapshotOf.advance {snapshot : OutboxSnapshot} (hsnap : SnapshotOf s snapshot) :
    SnapshotOf t snapshot where
  nextId := hsnap.nextId.trans h.nextId
  rows_lt := hsnap.rows_lt
  later i r hr := by
    obtain ⟨r', hr', hlater⟩ := hsnap.later i r hr
    obtain ⟨r'', hr'', hlater'⟩ := h.rows i r' hr'
    exact ⟨r'', hr'', hlater.trans hlater'⟩
  before j hj i hi := by
    rw [h.before j (hj.trans_le hsnap.nextId)] at hi
    exact hsnap.before j hj i hi

variable (hs : Invariant s)
include hs

omit [DecidableEq ι] in
theorem PredecessorsResolved.advance {producer : String} {id : ℕ} (hid : id < s.nextId)
    (hp : PredecessorsResolved s producer id) : PredecessorsResolved t producer id := by
  intro j hj
  rw [h.before id hid] at hj
  intro hpred
  exact hp j hj (h.isPredecessor (hs.before_committed id j hj) hpred)

omit [DecidableEq ι] in
/-- What an open transaction knows stays true while the row it has locked stays as it is. -/
theorem TransactionOk.advance {x : OutboxTransaction} (hx : TransactionOk s x)
    (hl : ∀ id r, x.lock = some id → s.rows id = some r → t.rows id = some r) : TransactionOk t x := by
  cases x with
  | idle => trivial
  | inserting rows => exact fun y hy => ⟨(hx y hy).1.trans_le h.nextId, (hx y hy).2⟩
  | scanning call snapshot => exact SnapshotOf.advance h hx
  | locked call snapshot id =>
    obtain ⟨hp, hid, r, hr, hd⟩ := hx
    exact ⟨PredecessorsResolved.advance h hs hid hp, hid.trans_le h.nextId, r, hl id r rfl hr, hd⟩
  | exactLocked call row => exact fun hrow => (hx hrow).trans_le h.nextId
  | exactScanning call row snapshot next =>
    obtain ⟨hsnap, hid, hskipped⟩ := hx
    refine ⟨SnapshotOf.advance h hsnap, hid, fun j hj hp hp' => hskipped j hj hp (h.isPredecessor ?_ hp')⟩
    obtain ⟨r, hr, -⟩ := hp
    obtain ⟨r', hr', -⟩ := hsnap.later j r hr
    simp [hr']
  | exactChecked call row predecessor =>
    intro hrow
    obtain ⟨hid, hp⟩ := hx hrow
    exact ⟨hid.trans_le h.nextId, fun hf => PredecessorsResolved.advance h hs hid (hp hf)⟩

end Advance

section Invariance

variable (hs : Invariant s)
include hs

theorem Invariant.setTransaction {p : ι} {x : OutboxTransaction} (hx : TransactionOk s x)
    (hl : ∀ id, x.lock = some id → s.Unlocked id ∨ (s.transactions p).lock = some id) :
    Invariant (s.setTransaction p x) := by
  have hadvance : Advance s (s.setTransaction p x) := ⟨le_rfl, fun _ r hr => ⟨r, hr, .refl r⟩, fun _ _ => rfl⟩
  refine ⟨hs.rows_lt, hs.unleased, hs.before_lt, hs.before_committed, hs.exclusive.update hl, ?_⟩
  refine (Function.forall_update_iff s.transactions fun _ => TransactionOk (s.setTransaction p x)).mpr ⟨?_, ?_⟩
  · exact TransactionOk.advance hadvance hs hx fun _ _ _ hr => hr
  · exact fun q _ => TransactionOk.advance hadvance hs (hs.transactions q) fun _ _ _ hr => hr

omit [DecidableEq ι] in
theorem Invariant.setRows {rows : ℕ → Option OutboxRow} {claims : List ℕ}
    (hold : ∀ i r, s.rows i = some r → ∃ r', rows i = some r' ∧ r.Later r' ∧ r'.Unleased)
    (hnew : ∀ i r', s.rows i = none → rows i = some r' → i < s.nextId ∧ r'.Unleased)
    (hl : ∀ p id r, (s.transactions p).lock = some id → s.rows id = some r → rows id = some r) :
    Invariant { s with rows := rows, claims := claims } := by
  have hadvance : Advance s { s with rows := rows, claims := claims } := by
    refine ⟨le_rfl, fun i r hr => ?_, fun _ _ => rfl⟩
    obtain ⟨r', hr', hlater, -⟩ := hold i r hr
    exact ⟨r', hr', hlater⟩
  have hrow (i : ℕ) (r' : OutboxRow) (hr' : rows i = some r') : i < s.nextId ∧ r'.Unleased := by
    cases hr : s.rows i with
    | none => exact hnew i r' hr hr'
    | some r =>
      obtain ⟨r'', hr'', -, hunleased⟩ := hold i r hr
      obtain rfl : r' = r'' := Option.some.inj (hr'.symm.trans hr'')
      exact ⟨hs.rows_lt i r hr, hunleased⟩
  refine ⟨fun i r hr => (hrow i r hr).1, fun i r hr => (hrow i r hr).2, hs.before_lt, fun j i hj => ?_,
    hs.exclusive, fun p => TransactionOk.advance hadvance hs (hs.transactions p) (hl p)⟩
  obtain ⟨r, hr⟩ := Option.isSome_iff_exists.mp (hs.before_committed j i hj)
  obtain ⟨r', hr', -⟩ := hold i r hr
  exact Option.isSome_iff_exists.mpr ⟨r', hr'⟩

omit [DecidableEq ι] in
theorem Invariant.setNextId {before : ℕ → ℕ → Prop} (hold : ∀ j < s.nextId, before j = s.committedBefore j)
    (hnew : ∀ j ≥ s.nextId, ∀ i, before j i → (s.rows i).isSome) :
    Invariant { s with nextId := s.nextId + 1, committedBefore := before } := by
  have hadvance : Advance s { s with nextId := s.nextId + 1, committedBefore := before } :=
    ⟨Nat.le_succ _, fun _ r hr => ⟨r, hr, .refl r⟩, hold⟩
  have hcommitted (j i : ℕ) (hj : before j i) : (s.rows i).isSome := by
    rcases lt_or_ge j s.nextId with hlt | hge
    · exact hs.before_committed j i (hold j hlt ▸ hj)
    · exact hnew j hge i hj
  refine ⟨fun i r hr => (hs.rows_lt i r hr).trans (Nat.lt_succ_self _), hs.unleased, fun j i hj => ?_, hcommitted,
    hs.exclusive, fun p => TransactionOk.advance hadvance hs (hs.transactions p) fun _ _ _ hr => hr⟩
  rcases lt_or_ge j s.nextId with hlt | hge
  · exact hs.before_lt j i (hold j hlt ▸ hj)
  · obtain ⟨r, hr⟩ := Option.isSome_iff_exists.mp (hcommitted j i hj)
    exact (hs.rows_lt i r hr).trans_le hge

omit [DecidableEq ι] in
theorem Invariant.snapshotOf : SnapshotOf s s.snapshot where
  nextId := le_rfl
  rows_lt := hs.rows_lt
  later _ r hr := ⟨r, hr, .refl r⟩
  before j _ _ hj := hs.before_committed j _ hj

omit [DecidableEq ι] in
/-- A snapshot that has the row `id` and in which no earlier row blocks it has seen every row that was
committed before. -/
theorem SnapshotOf.resolved {snapshot : OutboxSnapshot} (hsnap : SnapshotOf s snapshot) {producer : String}
    {id : ℕ} (hid : id < snapshot.nextId)
    (hp : ∀ j < id, IsPredecessor snapshot.rows producer j → ¬IsPredecessor s.rows producer j) :
    PredecessorsResolved s producer id := by
  intro j hj hpred
  obtain ⟨r, hr⟩ := Option.isSome_iff_exists.mp (hsnap.before id hid j hj)
  obtain ⟨r', hr', hlater⟩ := hsnap.later j r hr
  refine hp j (hs.before_lt id j hj) ⟨r, hr, ?_⟩ hpred
  obtain ⟨r'', hr'', hprod, hunresolved⟩ := hpred
  obtain rfl : r' = r'' := Option.some.inj (hr'.symm.trans hr'')
  refine ⟨hlater.1.symm.trans hprod, ?_⟩
  by_contra hresolved
  exact hlater.2 hresolved hunresolved

/-- The row a transaction has locked is written and unlocked. -/
theorem Invariant.claim {p : ι} {id : ℕ} {r r' : OutboxRow} {claims : List ℕ} (hr : s.rows id = some r)
    (hlock : (s.transactions p).lock = some id) (hlater : r.Later r' ∧ r'.Unleased) :
    Invariant { (s.setRow id r').setTransaction p .idle with claims := claims } := by
  have hidle : Invariant (s.setTransaction p .idle) := hs.setTransaction trivial (by simp [OutboxTransaction.lock])
  refine hidle.setRows (fun i r₁ hr₁ => ?_) (fun i r₁ hnone hr₁ => ?_) fun q i r₁ hq hr₁ => ?_
  · by_cases hi : i = id
    · subst hi
      obtain rfl : r = r₁ := Option.some.inj (hr.symm.trans hr₁)
      exact ⟨r', Function.update_self .., hlater⟩
    · exact ⟨r₁, (Function.update_of_ne hi ..).trans hr₁, .refl r₁, hs.unleased i r₁ hr₁⟩
  · by_cases hi : i = id
    · subst hi
      exact absurd (hr.symm.trans hnone) (by simp)
    · exact absurd ((Function.update_of_ne hi ..).symm.trans hr₁) (by simp [show s.rows i = none from hnone])
  · refine (Function.update_of_ne ?_ ..).trans hr₁
    rintro rfl
    by_cases hqp : q = p
    · subst hqp
      simp [OutboxSystem.setTransaction, OutboxTransaction.lock] at hq
    · simp only [OutboxSystem.setTransaction, Function.update_of_ne hqp] at hq
      exact hqp (hs.exclusive q p i hq hlock)

omit [DecidableEq ι] in
/-- What a transaction that is about to claim knows of its row. -/
theorem Invariant.dispatchable {p : ι} {call : DispatchCall} {snapshot : OutboxSnapshot} {id : ℕ} {r : OutboxRow}
    (h : s.transactions p = .locked call snapshot id) (hr : s.rows id = some r) :
    r.Claimable ∧ PredecessorsResolved s r.producer id := by
  have hok := hs.transactions p
  rw [h] at hok
  obtain ⟨hp, -, r', hr', hprod, hpub, hdead, hstate, -⟩ := hok
  obtain rfl : r = r' := Option.some.inj (hr.symm.trans hr')
  exact ⟨⟨⟨hpub, hdead⟩, hstate⟩, hprod ▸ hp⟩

omit [DecidableEq ι] in
theorem Invariant.exactlyClaimable {p : ι} {call : ExactCall} {row : Option OutboxRow} {predecessor : Bool}
    {auditRows : List AuditRow} {r r' : OutboxRow} (h : s.transactions p = .exactChecked call row predecessor)
    (hv : validateExactOfflineOutbox row call.identity auditRows predecessor call.leaseRequirement
      true true true call.now = none)
    (hc : claimExact call.identity call.leaseRequirement call.reconciliationId call.lease call.now r = some r') :
    r.Claimable ∧ PredecessorsResolved s r.producer call.identity.id ∧
      r' = r.claim call.reconciliationId.1 call.reconciliationId call.lease call.now := by
  obtain ⟨r₀, rfl, -, -, -, hfree⟩ := Outbox.validateExactOfflineOutbox_none hv
  have hok := hs.transactions p
  rw [h] at hok
  obtain ⟨-, hresolved⟩ := hok rfl
  unfold claimExact at hc
  split_ifs at hc with hclaimable
  obtain ⟨hmatch, hpub, hdead, -, -, hstate⟩ := hclaimable
  refine ⟨⟨⟨hpub, hdead⟩, hstate⟩, ?_, (Option.some.inj hc).symm⟩
  rw [hmatch.1]
  exact hresolved (hfree rfl)

/-- A step claims nothing, or an unresolved row whose earlier committed rows of its producer are resolved. -/
theorem Invariant.claim_cases (h : Step s t) : t.claims = s.claims ∨
    ∃ id r, t.claims = id :: s.claims ∧ s.rows id = some r ∧ r.Claimable ∧
      PredecessorsResolved s r.producer id := by
  cases h with
  | insert | burn | commitInserts | abort | client | scan | lockCandidate | lockExact | scanPredecessors
  | skipPredecessor | foundPredecessor | noPredecessor => exact Or.inl rfl
  | commitClaim p h hr hc => exact Or.inr ⟨_, _, rfl, hr, hs.dispatchable h hr⟩
  | commitExact p h hv hr hc =>
    obtain ⟨hclaimable, hresolved, -⟩ := hs.exactlyClaimable h hv hc
    exact Or.inr ⟨_, _, rfl, hr, hclaimable, hresolved⟩

theorem Invariant.step (h : Step s t) : Invariant t := by
  cases h with
  | @insert p rows messageId topic payload payloadSha256 producer now h hm =>
    have hnext := @Invariant.setNextId ι s hs (Function.update s.committedBefore s.nextId fun i => (s.rows i).isSome)
      (fun j hj => Function.update_of_ne hj.ne ..) (fun j hj i hi => by
        by_cases heq : j = s.nextId
        · rwa [heq, Function.update_self] at hi
        · rw [Function.update_of_ne heq] at hi
          exact hs.before_committed j i hi)
    refine hnext.setTransaction (fun x hx => ?_) (by simp [OutboxTransaction.lock])
    rcases List.mem_append.mp hx with hx | hx
    · rcases h with ⟨-, rfl⟩ | h
      · cases hx
      · have hok := hs.transactions p
        rw [h] at hok
        exact ⟨(hok x hx).1.trans (Nat.lt_succ_self _), (hok x hx).2⟩
    · obtain rfl := List.mem_singleton.mp hx
      exact ⟨Nat.lt_succ_self _, rfl⟩
  | burn => exact hs.setNextId (fun _ _ => rfl) fun j _ i hi => hs.before_committed j i hi
  | @commitInserts p rows h =>
    have hidle : Invariant (s.setTransaction p .idle) := hs.setTransaction trivial (by simp [OutboxTransaction.lock])
    have hok := hs.transactions p
    rw [h] at hok
    refine hidle.setRows (fun i r hr => ⟨r, ?_, .refl r, hs.unleased i r hr⟩) (fun i r hnone hr => ?_)
      fun q i r _ hr => ?_
    · simp [show s.rows i = some r from hr]
    · simp only [show s.rows i = none from hnone, Option.none_or, Option.map_eq_some_iff] at hr
      obtain ⟨x, hx, rfl⟩ := hr
      obtain ⟨hlt, hdead⟩ := hok x (List.mem_of_find?_eq_some hx)
      obtain rfl : x.1 = i := by simpa using List.find?_some hx
      exact ⟨hlt, fun hsome => by rw [hdead] at hsome; cases hsome⟩
    · simp [show s.rows i = some r from hr]
  | abort p => exact hs.setTransaction trivial (by simp [OutboxTransaction.lock])
  | client ho h hl =>
    refine hs.setRows (fun i r hr => ?_) (fun i r' hnone hr' => ?_) fun p id r hp hr => ?_
    · rcases h i with hi | ⟨r₀, r', hr₀, hr', hw⟩
      · exact ⟨r, hi.trans (ho ▸ hr), .refl r, hs.unleased i r hr⟩
      · obtain rfl : r₀ = r := Option.some.inj (hr₀.symm.trans (ho ▸ hr))
        exact ⟨r', hr', hw.later (hs.unleased i r₀ hr)⟩
    · rcases h i with hi | ⟨r₀, _, hr₀, -, -⟩
      · rw [hi, ho, hnone] at hr'
        cases hr'
      · rw [ho, hnone] at hr₀
        cases hr₀
    · rw [hl id fun hunlocked => hunlocked p hp, ho, hr]
  | scan p call h => exact hs.setTransaction hs.snapshotOf (by simp [OutboxTransaction.lock])
  | @lockCandidate p call snapshot id r h hl hc hr hd =>
    have hsnap := hs.transactions p
    rw [h] at hsnap
    refine hs.setTransaction ⟨?_, hs.rows_lt id r hr, r, hr, hd⟩ fun i hi => Or.inl (Option.some.inj hi ▸ hl)
    simp only [isCandidate, Bool.and_eq_true, Option.any_eq_true, Bool.not_eq_true', decide_eq_false_iff_not] at hc
    obtain ⟨⟨r₀, hr₀, -⟩, hnone⟩ := hc
    refine SnapshotOf.resolved hs hsnap (hsnap.rows_lt id r₀ hr₀) fun j hj hp => absurd ?_ hnone
    obtain ⟨r', hr', hprod, hunresolved⟩ := hp
    exact ⟨j, hj, by simp [hr', hprod, hunresolved]⟩
  | @commitClaim p call snapshot id r r' h hr hc =>
    unfold claimDispatch at hc
    split_ifs at hc
    obtain rfl := Option.some.inj hc
    exact hs.claim hr (by rw [h]; rfl) ((hs.dispatchable h hr).1.later _ _ _ _)
  | lockExact p call h hl =>
    refine hs.setTransaction (fun hrow => ?_) fun i hi => Or.inl (Option.some.inj hi ▸ hl)
    obtain ⟨r, hr⟩ := Option.isSome_iff_exists.mp hrow
    exact hs.rows_lt _ r hr
  | scanPredecessors p h =>
    have hok := hs.transactions p
    rw [h] at hok
    exact hs.setTransaction ⟨hs.snapshotOf, hok, fun j hj => absurd hj (Nat.not_lt_zero j)⟩
      fun i hi => Or.inr (by rw [h]; exact hi)
  | @skipPredecessor p call row snapshot next h hn =>
    have hok := hs.transactions p
    rw [h] at hok
    obtain ⟨hsnap, hid, hskipped⟩ := hok
    refine hs.setTransaction ⟨hsnap, hid, fun j hj hp => ?_⟩ fun i hi => Or.inr (by rw [h]; exact hi)
    rcases Nat.lt_succ_iff_lt_or_eq.mp hj with hj | rfl
    · exact hskipped j hj hp
    · exact fun hp' => hn ⟨hp, hp'⟩
  | foundPredecessor p h hn hp =>
    have hok := hs.transactions p
    rw [h] at hok
    exact hs.setTransaction (fun hrow => ⟨(hok.2.1 hrow).trans_le hok.1.nextId, by simp⟩)
      fun i hi => Or.inr (by rw [h]; exact hi)
  | @noPredecessor p call row snapshot next h hn =>
    have hok := hs.transactions p
    rw [h] at hok
    obtain ⟨hsnap, hid, hskipped⟩ := hok
    refine hs.setTransaction (fun hrow => ⟨(hid hrow).trans_le hsnap.nextId, fun _ => ?_⟩)
      fun i hi => Or.inr (by rw [h]; exact hi)
    exact SnapshotOf.resolved hs hsnap (hid hrow) fun j hj hp => hskipped j (hj.trans_le hn) hp
  | commitExact p h hv hr hc =>
    obtain ⟨hclaimable, -, rfl⟩ := hs.exactlyClaimable h hv hc
    exact hs.claim hr (by rw [h]; rfl) (hclaimable.later _ _ _ _)

end Invariance

/-- Causal producer order. In the state in which a row is claimed, each row that was committed when its
`INSERT` ran is there, and if it has the same producer it is published or dead-lettered. -/
theorem outbox_producer_order (hs : Runs.Reachable Initial Step s) (h : Step s t) {m₁ m₂ : ℕ}
    (hclaim : t.claims = m₂ :: s.claims) (hbefore : s.committedBefore m₂ m₁) :
    ∃ r₁ r₂, s.rows m₁ = some r₁ ∧ s.rows m₂ = some r₂ ∧
      (r₁.producer = r₂.producer → r₁.publishedAt.isSome ∨ r₁.deadLetteredAt.isSome) := by
  have hinv : Invariant s := hs.invariant (fun _ h => h.invariant) fun _ _ hs h => hs.step h
  obtain ⟨r₁, hr₁⟩ := Option.isSome_iff_exists.mp (hinv.before_committed m₂ m₁ hbefore)
  rcases hinv.claim_cases h with hsame | ⟨id, r₂, hid, hr₂, -, hresolved⟩
  · exact absurd (hsame.symm.trans hclaim) (List.cons_ne_self _ _).symm
  · obtain ⟨rfl, -⟩ := List.cons.inj (hid.symm.trans hclaim)
    refine ⟨r₁, r₂, hr₁, hr₂, fun hprod => ?_⟩
    by_contra hneither
    rw [not_or, Option.not_isSome_iff_eq_none, Option.not_isSome_iff_eq_none] at hneither
    exact hresolved m₁ hbefore ⟨r₁, hr₁, hprod, hneither⟩

section Example

def examplePublished : OutboxRow :=
  ((newOutboxRow "a" "orders" (.obj []) "h" "risk" 0).claim "w" (dispatchId "u") 30 0).acknowledge 1 rfl

def exampleStart : OutboxSystem Unit where
  rows i := if i = 1 then some examplePublished else none
  nextId := 2
  transactions _ := .idle
  claims := []
  committedBefore _ _ := False

theorem exampleStart_rows {i : ℕ} {r : OutboxRow} (h : exampleStart.rows i = some r) :
    i = 1 ∧ r = examplePublished := by
  simp only [exampleStart] at h
  split_ifs at h with hi
  exact ⟨hi, (Option.some.inj h).symm⟩

theorem exampleStart_initial : Initial exampleStart where
  rows_lt i r hr := by rw [(exampleStart_rows hr).1]; decide
  idle _ := rfl
  unleased i r hr hd := by rw [(exampleStart_rows hr).2]; rfl
  before_lt _ _ h := h.elim
  before_committed _ _ h := h.elim

def exampleCall : DispatchCall := ⟨"w", "risk", "v", 30, 2⟩

/-- A second message of the producer of a published one is inserted, committed and claimed. -/
theorem outbox_producer_order_example : ∃ s t : OutboxSystem Unit, Step s t ∧ t.claims = 2 :: s.claims ∧
    s.committedBefore 2 1 ∧ ∃ r₁ r₂, s.rows 1 = some r₁ ∧ s.rows 2 = some r₂ ∧
      (r₁.producer = r₂.producer → r₁.publishedAt.isSome ∨ r₁.deadLetteredAt.isSome) := by
  have hnew : exampleStart.NewMessage "b" :=
    ⟨fun i r hr => by rw [(exampleStart_rows hr).2]; decide, fun _ x hx => by cases hx⟩
  have hinserted := (Runs.Reachable.start exampleStart_initial).next
    (@Step.insert Unit _ exampleStart () [] "b" "orders" (.obj []) "h" "risk" 2 (Or.inl ⟨rfl, rfl⟩) hnew)
  have hcommitted := hinserted.next (Step.commitInserts () rfl)
  have hscanned := hcommitted.next (Step.scan () exampleCall rfl)
  have hlocked := hscanned.next (Step.lockCandidate () 2 rfl (fun _ h => by cases h) (by decide) rfl (by decide))
  obtain ⟨s, snapshot, r, hs, htransaction, hrow, hclaim, hbefore⟩ : ∃ (s : OutboxSystem Unit) (snapshot : OutboxSnapshot) (r : OutboxRow),
      Runs.Reachable Initial Step s ∧ s.transactions () = .locked exampleCall snapshot 2 ∧ s.rows 2 = some r ∧
        claimDispatch "w" "v" 30 2 r = some (r.claim "w" (dispatchId "v") 30 2) ∧ s.committedBefore 2 1 :=
    ⟨_, _, _, hlocked, rfl, rfl, rfl, rfl⟩
  have hstep := Step.commitClaim () htransaction hrow hclaim
  exact ⟨s, _, hstep, rfl, hbefore, outbox_producer_order hs hstep rfl hbefore⟩

end Example

end OutboxSystem

end KairosPersistence
