import KairosPersistence.KeyedRows
import KairosPersistence.Locking
import KairosPersistence.PythonText
import KairosPersistence.Runs
import KairosPersistence.SourceUsage
import KairosPersistence.Transactions
import Mathlib.Data.List.Sort

/-!
`NewsProcessingRepository`: `claim_batch` and `complete_batch` of any clients,
whose statements lock the rows of `news_processing` one after the other, and
which may be interrupted between any two of them.
-/

namespace KairosPersistence

open PythonText (Timestamp)
open Relation (ReflTransGen)
open Transactions

inductive NewsError where
  | valueError (text : String)
  | runtimeError (text : String)
  | raiseException (text : String)
  | checkViolation

inductive NewsState where
  | claimed
  | completed
  deriving DecidableEq

/-- A row of `news_processing`, next to its key. -/
structure NewsRow where
  attemptId : String
  state : NewsState
  claimedAt : Timestamp
  completedAt : Option Timestamp
  deriving DecidableEq

/-- The primary key: the scope and the event. -/
abbrev NewsKey := String × String

/-- The arguments of a call, as they are validated: the keys are sorted. -/
structure NewsBatch where
  scopeKey : String
  keys : List String
  attemptId : String
  deriving DecidableEq

def newsDigest (value : String) : Except NewsError Unit :=
  require (isSha256 value) (.valueError "news processing identity must be a canonical SHA-256")

def maxNewsBatch : ℕ := 1000

/-- `_keys`. -/
def newsKeys (values : List String) : Except NewsError (List String) := do
  require (values.length ≤ maxNewsBatch) (.valueError "news processing requires a bounded tuple of event keys")
  values.forM newsDigest
  require values.Nodup (.valueError "news processing event keys must be unique")
  return values.insertionSort (· ≤ ·)

/-- What both calls make of their arguments before the transaction. -/
def newsBatch (scopeKey : String) (eventKeys : List String) (attemptId : String) : Except NewsError NewsBatch := do
  newsDigest scopeKey
  newsDigest attemptId
  let keys ← newsKeys eventKeys
  return ⟨scopeKey, keys, attemptId⟩

/-- The row that `claim_batch` inserts. -/
def NewsBatch.claim (batch : NewsBatch) (now : Timestamp) : NewsRow := ⟨batch.attemptId, .claimed, now, none⟩

/-- What `claim_batch` returns for the keys that the statement has inserted. -/
def NewsBatch.claimedKeys (batch : NewsBatch) (inserted : List String) : Except NewsError (List String) := do
  let claimed := inserted.insertionSort (· ≤ ·)
  require (claimed.Nodup ∧ claimed ⊆ batch.keys) (.runtimeError "news claim result does not match the requested batch")
  return claimed

/-- The check of `complete_batch` on the rows that it has locked. -/
def NewsBatch.checkClaims (batch : NewsBatch) (rows : List (String × NewsRow)) : Except NewsError Unit :=
  require (rows.map Prod.fst = batch.keys ∧ ∀ row ∈ rows, row.2.attemptId = batch.attemptId)
    (.valueError "news completion requires every exact owned claim")

/-- The keys of the rows that are not completed yet. -/
def pendingNews (rows : List (String × NewsRow)) : List String :=
  (rows.filter fun row => row.2.state = .claimed).map Prod.fst

/-- The trigger `news_processing_preserve_claim`, on an update. -/
def preserveClaim (old new : NewsRow) : Except NewsError Unit :=
  require ((new.attemptId, new.claimedAt) = (old.attemptId, old.claimedAt) ∧ old.state = .claimed ∧ new.state = .completed)
    (.raiseException "news processing identity is immutable; only completion is allowed")

def NewsRow.check (row : NewsRow) : Except NewsError Unit :=
  require (row.state = .claimed ∧ row.completedAt = none ∨ row.state = .completed ∧ row.completedAt.isSome) .checkViolation

/-- `UPDATE … SET state='COMPLETED'`, on a row that matches. -/
def completeNews (now : Timestamp) (row : NewsRow) : Except NewsError NewsRow := do
  let new := { row with state := .completed, completedAt := some now }
  preserveClaim row new
  new.check
  return new

/-- The rows that the update of `complete_batch` writes: those of the pending keys that are claimed by the attempt. -/
def NewsBatch.updatePending (batch : NewsBatch) (table : NewsKey → Option NewsRow) (now : Timestamp)
    (pending : List String) : Except NewsError (List (String × NewsRow)) := do
  let matching := pending.filterMap fun key => ((table (batch.scopeKey, key)).filter fun row =>
    row.attemptId = batch.attemptId ∧ row.state = .claimed).map (key, ·)
  let writes ← matching.mapM fun (key, row) => do
    let new ← completeNews now row
    return (key, new)
  require ((writes.map Prod.fst).insertionSort (· ≤ ·) = pending)
    (.runtimeError "news completion was not confirmed for the complete owned batch")
  return writes

/-- Where a client stands in its transaction. -/
inductive NewsPhase where
  | idle
  -- the statement of `claim_batch` has inserted some rows, and has not come to others
  | inserting (batch : NewsBatch) (remaining : List String) (inserted : List (String × NewsRow))
  -- `SELECT … FOR UPDATE` has locked some rows, and has not come to others that its snapshot has
  | selecting (batch : NewsBatch) (remaining : List String) (rows : List (String × NewsRow))
  | completing (batch : NewsBatch) (writes : List (String × NewsRow))

/-- The rows that the open transaction has inserted or locked. -/
def NewsPhase.Holds : NewsPhase → NewsKey → Prop
  | .idle, _ => False
  | .inserting batch _ inserted, key => key.1 = batch.scopeKey ∧ key.2 ∈ inserted.map Prod.fst
  | .selecting batch _ rows, key => key.1 = batch.scopeKey ∧ key.2 ∈ rows.map Prod.fst
  | .completing batch _, key => key.1 = batch.scopeKey ∧ key.2 ∈ batch.keys

/-- A call of `claim_batch` that has committed. -/
structure NewsClaim where
  batch : NewsBatch
  claimed : List String
  deriving DecidableEq

/-- The committed rows, the clients, and, the last one first, the claims and the completions that have committed. -/
structure NewsSystem (ι : Type) where
  table : NewsKey → Option NewsRow
  clients : ι → NewsPhase
  claims : List NewsClaim
  completions : List NewsBatch

/-- The rows of a scope once the rows of a transaction are committed. -/
def commitNews (scopeKey : String) (rows : List (String × NewsRow)) (table : NewsKey → Option NewsRow) (key : NewsKey) :
    Option NewsRow :=
  if key.1 = scopeKey then ((rows.find? (·.1 = key.2)).map Prod.snd).or (table key) else table key

namespace NewsSystem

variable {ι : Type} [DecidableEq ι]

def setClient (s : NewsSystem ι) (p : ι) (x : NewsPhase) : NewsSystem ι :=
  { s with clients := Function.update s.clients p x }

@[simp] theorem setClient_setClient (s : NewsSystem ι) (p : ι) (x y : NewsPhase) :
    (s.setClient p x).setClient p y = s.setClient p y := by simp [setClient]

@[simp] theorem setClient_self (s : NewsSystem ι) (p : ι) (x : NewsPhase) : (s.setClient p x).clients p = x :=
  Function.update_self ..

theorem setClient_of_ne (s : NewsSystem ι) {p q : ι} (x : NewsPhase) (h : q ≠ p) :
    (s.setClient p x).clients q = s.clients q := Function.update_of_ne h ..

def Free (s : NewsSystem ι) (key : NewsKey) : Prop := Locking.Free NewsPhase.Holds s.clients key

inductive Step : NewsSystem ι → NewsSystem ι → Prop
  | claim {s} (p : ι) (scopeKey : String) (eventKeys : List String) (attemptId : String) {batch}
    (h : s.clients p = .idle) (hbatch : newsBatch scopeKey eventKeys attemptId = .ok batch) (hkeys : batch.keys ≠ []) :
    Step s (s.setClient p (.inserting batch batch.keys []))
  -- an uncommitted row of the key makes the statement wait until it is committed or rolled back
  | insert {s} (p : ι) (now : Timestamp) {batch key remaining inserted}
    (h : s.clients p = .inserting batch (key :: remaining) inserted)
    (habsent : s.table (batch.scopeKey, key) = none) (hl : s.Free (batch.scopeKey, key)) :
    Step s (s.setClient p (.inserting batch remaining (inserted ++ [(key, batch.claim now)])))
  | conflict {s} (p : ι) {batch key remaining inserted} (h : s.clients p = .inserting batch (key :: remaining) inserted)
    (hrow : (s.table (batch.scopeKey, key)).isSome) :
    Step s (s.setClient p (.inserting batch remaining inserted))
  | commitClaim {s} (p : ι) {batch inserted claimed} (h : s.clients p = .inserting batch [] inserted)
    (hclaimed : batch.claimedKeys (inserted.map Prod.fst) = .ok claimed) :
    Step s { s.setClient p .idle with
      table := commitNews batch.scopeKey inserted s.table
      claims := ⟨batch, claimed⟩ :: s.claims }
  | complete {s} (p : ι) (scopeKey : String) (eventKeys : List String) (attemptId : String) {batch}
    (h : s.clients p = .idle) (hbatch : newsBatch scopeKey eventKeys attemptId = .ok batch) (hkeys : batch.keys ≠ []) :
    Step s (s.setClient p
      (.selecting batch (batch.keys.filter fun key => (s.table (batch.scopeKey, key)).isSome) []))
  | lock {s} (p : ι) {batch key remaining rows row} (h : s.clients p = .selecting batch (key :: remaining) rows)
    (hl : s.Free (batch.scopeKey, key)) (hrow : s.table (batch.scopeKey, key) = some row) :
    Step s (s.setClient p (.selecting batch remaining (rows ++ [(key, row)])))
  -- nothing is pending: the transaction commits what it has read
  | completedBefore {s} (p : ι) {batch rows} (h : s.clients p = .selecting batch [] rows) (hrows : batch.checkClaims rows = .ok ())
    (hpending : pendingNews rows = []) :
    Step s { s.setClient p .idle with completions := batch :: s.completions }
  | update {s} (p : ι) (now : Timestamp) {batch rows writes} (h : s.clients p = .selecting batch [] rows)
    (hrows : batch.checkClaims rows = .ok ()) (hpending : pendingNews rows ≠ [])
    (hwrites : batch.updatePending s.table now (pendingNews rows) = .ok writes) :
    Step s (s.setClient p (.completing batch writes))
  | commitCompletion {s} (p : ι) {batch writes} (h : s.clients p = .completing batch writes) :
    Step s { s.setClient p .idle with
      table := commitNews batch.scopeKey writes s.table
      completions := batch :: s.completions }
  -- a check has failed, or the client is cancelled or has crashed: the transaction rolls back
  | rollback {s} (p : ι) : Step s (s.setClient p .idle)

/-- Any rows, and no call yet. -/
def Initial (s : NewsSystem ι) : Prop := (∀ p, s.clients p = .idle) ∧ s.claims = [] ∧ s.completions = []

def Reachable (s : NewsSystem ι) : Prop := Runs.Reachable Initial Step s

def Owned (s : NewsSystem ι) (scopeKey key attemptId : String) : Prop :=
  ∃ row, s.table (scopeKey, key) = some row ∧ row.attemptId = attemptId

def Completed (s : NewsSystem ι) (scopeKey key : String) : Prop :=
  ∃ row, s.table (scopeKey, key) = some row ∧ row.state = .completed

/-- Rows of the table stay, each with its attempt, and completed ones as they are. -/
def Kept (table table' : NewsKey → Option NewsRow) : Prop :=
  ∀ key row, table key = some row →
    ∃ row', table' key = some row' ∧ row'.attemptId = row.attemptId ∧ (row.state = .completed → row' = row)

theorem Kept.refl (table : NewsKey → Option NewsRow) : Kept table table := fun _ row h => ⟨row, h, rfl, fun _ => rfl⟩

theorem Kept.trans {a b c : NewsKey → Option NewsRow} (h : Kept a b) (h' : Kept b c) : Kept a c := by
  intro key row hrow
  obtain ⟨row', hrow', hattempt, hcompleted⟩ := h key row hrow
  obtain ⟨row'', hrow'', hattempt', hcompleted'⟩ := h' key row' hrow'
  refine ⟨row'', hrow'', hattempt'.trans hattempt, fun hstate => ?_⟩
  have heq := hcompleted hstate
  rw [← heq] at hstate ⊢
  exact hcompleted' hstate

theorem Kept.isSome {a b : NewsKey → Option NewsRow} (h : Kept a b) {key : NewsKey} (hkey : (a key).isSome) :
    (b key).isSome := by
  obtain ⟨row, hrow⟩ := Option.isSome_iff_exists.mp hkey
  obtain ⟨row', hrow', -⟩ := h key row hrow
  rw [hrow']
  rfl

theorem commitNews_cases (scopeKey : String) (rows : List (String × NewsRow)) (table : NewsKey → Option NewsRow)
    (key : NewsKey) :
    (∃ x ∈ rows, key = (scopeKey, x.1) ∧ commitNews scopeKey rows table key = some x.2) ∨
      (∀ x ∈ rows, key ≠ (scopeKey, x.1)) ∧ commitNews scopeKey rows table key = table key := by
  unfold commitNews
  by_cases hscope : key.1 = scopeKey
  · rw [if_pos hscope]
    cases hfind : rows.find? (·.1 = key.2) with
    | none =>
      refine Or.inr ⟨?_, rfl⟩
      rintro x hx rfl
      exact List.find?_eq_none.mp hfind x hx (by simp)
    | some x =>
      have hkey : x.1 = key.2 := by simpa using List.find?_some hfind
      exact Or.inl ⟨x, List.mem_of_find?_eq_some hfind, Prod.ext hscope hkey.symm, rfl⟩
  · rw [if_neg hscope]
    refine Or.inr ⟨?_, rfl⟩
    rintro x _ rfl
    exact hscope rfl

/-- A claim in progress knows of each of its keys whether it is still to come, inserted, or of another claim. -/
structure Inserting (table : NewsKey → Option NewsRow) (batch : NewsBatch) (remaining : List String)
    (inserted : List (String × NewsRow)) : Prop where
  new : ∀ x ∈ inserted, table (batch.scopeKey, x.1) = none
  claimed : ∀ x ∈ inserted, x.2.attemptId = batch.attemptId ∧ x.2.state = .claimed
  covered : ∀ key ∈ batch.keys, key ∈ remaining ∨ key ∈ inserted.map Prod.fst ∨ (table (batch.scopeKey, key)).isSome

/-- A completion that is written has claimed rows of its attempt, and leaves none of its keys out. -/
structure Completing (table : NewsKey → Option NewsRow) (batch : NewsBatch) (writes : List (String × NewsRow)) : Prop where
  owned : ∀ key ∈ batch.keys, ∃ row, table (batch.scopeKey, key) = some row ∧ row.attemptId = batch.attemptId ∧
    (row.state = .completed ∨ key ∈ writes.map Prod.fst)
  writes : ∀ x ∈ writes, x.1 ∈ batch.keys ∧ x.2.attemptId = batch.attemptId ∧ x.2.state = .completed ∧
    ∃ row, table (batch.scopeKey, x.1) = some row ∧ row.state = .claimed

def PhaseOk (table : NewsKey → Option NewsRow) : NewsPhase → Prop
  | .idle => True
  | .inserting batch remaining inserted => Inserting table batch remaining inserted
  | .selecting batch _ rows => ∀ x ∈ rows, table (batch.scopeKey, x.1) = some x.2
  | .completing batch writes => Completing table batch writes

/-- What a client knows stays true while rows stay and those that it holds are left alone. -/
theorem PhaseOk.mono {table table' : NewsKey → Option NewsRow} {x : NewsPhase} (h : PhaseOk table x)
    (hkept : Kept table table') (hheld : ∀ key, x.Holds key → table' key = table key) : PhaseOk table' x := by
  cases x with
  | idle => trivial
  | inserting batch remaining inserted =>
    constructor
    · intro x hx
      rw [hheld _ ⟨rfl, List.mem_map_of_mem hx⟩]
      exact h.new x hx
    · exact h.claimed
    · intro key hkey
      rcases h.covered key hkey with hcase | hcase | hcase
      · exact Or.inl hcase
      · exact Or.inr (Or.inl hcase)
      · exact Or.inr (Or.inr (hkept.isSome hcase))
  | selecting batch remaining rows =>
    intro x hx
    rw [hheld _ ⟨rfl, List.mem_map_of_mem hx⟩]
    exact h x hx
  | completing batch writes =>
    constructor
    · intro key hkey
      rw [hheld _ ⟨rfl, hkey⟩]
      exact h.owned key hkey
    · intro x hx
      obtain ⟨hkey, hx⟩ := h.writes x hx
      rw [hheld _ ⟨rfl, hkey⟩]
      exact ⟨hkey, hx⟩

structure Invariant (s : NewsSystem ι) : Prop where
  exclusive : Locking.Exclusive NewsPhase.Holds s.clients
  phases : ∀ p, PhaseOk s.table (s.clients p)
  disjoint : s.claims.Pairwise fun a b => a.batch.scopeKey = b.batch.scopeKey → a.claimed.Disjoint b.claimed
  claimed : ∀ c ∈ s.claims, ∀ key ∈ c.claimed, key ∈ c.batch.keys ∧ s.Owned c.batch.scopeKey key c.batch.attemptId
  requested : ∀ c ∈ s.claims, ∀ key ∈ c.batch.keys, (s.table (c.batch.scopeKey, key)).isSome
  completions : ∀ b ∈ s.completions, ∀ key ∈ b.keys,
    ∃ row, s.table (b.scopeKey, key) = some row ∧ row.attemptId = b.attemptId ∧ row.state = .completed

/-- What a step of a client can do. -/
structure Moves (p : ι) (s t : NewsSystem ι) : Prop where
  clients : ∃ x, t.clients = Function.update s.clients p x ∧ PhaseOk t.table x ∧
    ∀ key, x.Holds key → s.Free key ∨ (s.clients p).Holds key
  kept : Kept s.table t.table
  frame : ∀ key, ¬(s.clients p).Holds key → t.table key = s.table key
  claims : t.claims = s.claims ∨ ∃ c, t.claims = c :: s.claims ∧
    (∀ key ∈ c.claimed, key ∈ c.batch.keys ∧ s.table (c.batch.scopeKey, key) = none ∧
      t.Owned c.batch.scopeKey key c.batch.attemptId) ∧
    ∀ key ∈ c.batch.keys, (t.table (c.batch.scopeKey, key)).isSome
  completions : t.completions = s.completions ∧ (∀ scopeKey key, t.Completed scopeKey key → s.Completed scopeKey key) ∨
    ∃ b, t.completions = b :: s.completions ∧ (∀ key ∈ b.keys, s.Owned b.scopeKey key b.attemptId) ∧
      (∀ key ∈ b.keys, ∃ row, t.table (b.scopeKey, key) = some row ∧ row.attemptId = b.attemptId ∧ row.state = .completed) ∧
      (∀ key, (key.1 = b.scopeKey → key.2 ∉ b.keys) → t.table key = s.table key) ∧ (b ∈ s.completions → t.table = s.table)

section Moves

variable {s t : NewsSystem ι} (hs : Invariant s)

omit [DecidableEq ι] in
theorem Owned.mono {scopeKey key attemptId : String} (h : s.Owned scopeKey key attemptId) (hkept : Kept s.table t.table) :
    t.Owned scopeKey key attemptId := by
  obtain ⟨row, hrow, hattempt⟩ := h
  obtain ⟨row', hrow', hattempt', -⟩ := hkept _ row hrow
  exact ⟨row', hrow', hattempt'.trans hattempt⟩

omit [DecidableEq ι] in
theorem Completed.mono {scopeKey key : String} (h : s.Completed scopeKey key) (hkept : Kept s.table t.table) :
    t.Completed scopeKey key := by
  obtain ⟨row, hrow, hstate⟩ := h
  obtain ⟨row', hrow', -, hcompleted⟩ := hkept _ row hrow
  exact ⟨row', hrow', by rw [hcompleted hstate, hstate]⟩

/-- A client that goes on in its transaction, or rolls it back, leaves the rows alone. -/
theorem Moves.client {p : ι} {x : NewsPhase} (hx : PhaseOk s.table x)
    (hl : ∀ key, x.Holds key → s.Free key ∨ (s.clients p).Holds key) : Moves p s (s.setClient p x) where
  clients := ⟨x, rfl, hx, hl⟩
  kept := Kept.refl _
  frame _ _ := rfl
  claims := Or.inl rfl
  completions := Or.inl ⟨rfl, fun _ _ h => h⟩

/-- A claim commits rows of keys that had none. -/
theorem Moves.commitClaim {p : ι} {batch : NewsBatch} {inserted : List (String × NewsRow)} {claimed : List String}
    (h : s.clients p = .inserting batch [] inserted) (hphase : Inserting s.table batch [] inserted)
    (hclaimed : batch.claimedKeys (inserted.map Prod.fst) = .ok claimed) :
    Moves p s { s.setClient p .idle with
      table := commitNews batch.scopeKey inserted s.table
      claims := ⟨batch, claimed⟩ :: s.claims } := by
  have hkept : Kept s.table (commitNews batch.scopeKey inserted s.table) := by
    intro key row hrow
    rcases commitNews_cases batch.scopeKey inserted s.table key with ⟨x, hx, rfl, -⟩ | ⟨-, hsame⟩
    · rw [hphase.new x hx] at hrow
      cases hrow
    · exact ⟨row, hsame.trans hrow, rfl, fun _ => rfl⟩
  have hwritten (key : String) (hkey : key ∈ inserted.map Prod.fst) : ∃ row,
      commitNews batch.scopeKey inserted s.table (batch.scopeKey, key) = some row ∧ row.attemptId = batch.attemptId := by
    obtain ⟨x, hx, rfl⟩ := List.mem_map.mp hkey
    rcases commitNews_cases batch.scopeKey inserted s.table (batch.scopeKey, x.1) with ⟨y, hy, -, hrow⟩ | ⟨hne, -⟩
    · exact ⟨y.2, hrow, (hphase.claimed y hy).1⟩
    · exact absurd rfl (hne x hx)
  obtain ⟨_, hsubset, heq⟩ := bind_ok hclaimed
  obtain rfl := Except.ok.inj heq
  constructor
  · exact ⟨.idle, rfl, trivial, by simp [NewsPhase.Holds]⟩
  · exact hkept
  · intro key hheld
    rcases commitNews_cases batch.scopeKey inserted s.table key with ⟨x, hx, rfl, -⟩ | ⟨-, hsame⟩
    · rw [h] at hheld
      exact absurd ⟨rfl, List.mem_map_of_mem hx⟩ hheld
    · exact hsame
  · refine Or.inr ⟨_, rfl, fun key hkey => ?_, fun key hkey => ?_⟩
    · have hmem : key ∈ inserted.map Prod.fst := (List.mem_insertionSort _).mp hkey
      obtain ⟨x, hx, rfl⟩ := List.mem_map.mp hmem
      exact ⟨(require_ok hsubset).2 hkey, hphase.new x hx, hwritten _ hmem⟩
    · rcases hphase.covered key hkey with hcase | hcase | hcase
      · cases hcase
      · obtain ⟨row, hrow, -⟩ := hwritten key hcase
        exact Option.isSome_iff_exists.mpr ⟨row, hrow⟩
      · exact hkept.isSome hcase
  · refine Or.inl ⟨rfl, ?_⟩
    rintro scopeKey key ⟨row, hrow, hstate⟩
    rcases commitNews_cases batch.scopeKey inserted s.table (scopeKey, key) with ⟨x, hx, -, hx'⟩ | ⟨-, hsame⟩
    · obtain rfl := Option.some.inj (hx'.symm.trans hrow)
      rw [(hphase.claimed x hx).2] at hstate
      cases hstate
    · exact ⟨row, hsame.symm.trans hrow, hstate⟩

include hs in
/-- A completion commits a batch whose rows are all of its attempt. -/
theorem Moves.commitCompletion {p : ι} {batch : NewsBatch} {writes : List (String × NewsRow)} {x : NewsPhase}
    (h : s.clients p = x) (hheld : ∀ key ∈ batch.keys, x.Holds (batch.scopeKey, key))
    (hphase : Completing s.table batch writes) :
    Moves p s { s.setClient p .idle with
      table := commitNews batch.scopeKey writes s.table
      completions := batch :: s.completions } := by
  have hwrite (y : String × NewsRow) (hy : y ∈ writes) : ∃ row, s.table (batch.scopeKey, y.1) = some row ∧
      y.2.attemptId = row.attemptId ∧ row.state = .claimed := by
    obtain ⟨hkey, hattempt, -, row, hrow, hstate⟩ := hphase.writes y hy
    obtain ⟨row', hrow', hattempt', -⟩ := hphase.owned y.1 hkey
    obtain rfl := Option.some.inj (hrow.symm.trans hrow')
    exact ⟨row, hrow, hattempt.trans hattempt'.symm, hstate⟩
  constructor
  · exact ⟨.idle, rfl, trivial, by simp [NewsPhase.Holds]⟩
  · intro key row hrow
    rcases commitNews_cases batch.scopeKey writes s.table key with ⟨y, hy, rfl, hy'⟩ | ⟨-, hsame⟩
    · obtain ⟨row', hrow', hattempt, hstate⟩ := hwrite y hy
      obtain rfl := Option.some.inj (hrow'.symm.trans hrow)
      refine ⟨y.2, hy', hattempt, fun hcompleted => ?_⟩
      rw [hstate] at hcompleted
      cases hcompleted
    · exact ⟨row, hsame.trans hrow, rfl, fun _ => rfl⟩
  · intro key hkey
    rcases commitNews_cases batch.scopeKey writes s.table key with ⟨y, hy, rfl, -⟩ | ⟨-, hsame⟩
    · rw [h] at hkey
      exact absurd (hheld _ (hphase.writes y hy).1) hkey
    · exact hsame
  · exact Or.inl rfl
  · refine Or.inr ⟨batch, rfl, fun key hkey => ?_, fun key hkey => ?_, fun key hkey => ?_, fun hrepeated => ?_⟩
    · obtain ⟨row, hrow, hattempt, -⟩ := hphase.owned key hkey
      exact ⟨row, hrow, hattempt⟩
    · rcases commitNews_cases batch.scopeKey writes s.table (batch.scopeKey, key) with ⟨y, hy, -, hy'⟩ | ⟨hne, hsame⟩
      · obtain ⟨-, hattempt, hstate, -⟩ := hphase.writes y hy
        exact ⟨y.2, hy', hattempt, hstate⟩
      · obtain ⟨row, hrow, hattempt, hcase⟩ := hphase.owned key hkey
        refine ⟨row, hsame.trans hrow, hattempt, hcase.resolve_right fun hmem => ?_⟩
        obtain ⟨y, hy, rfl⟩ := List.mem_map.mp hmem
        exact hne y hy rfl
    · rcases commitNews_cases batch.scopeKey writes s.table key with ⟨y, hy, rfl, -⟩ | ⟨-, hsame⟩
      · exact absurd (hphase.writes y hy).1 (hkey rfl)
      · exact hsame
    · funext key
      rcases commitNews_cases batch.scopeKey writes s.table key with ⟨y, hy, rfl, -⟩ | ⟨-, hsame⟩
      · obtain ⟨row, hrow, -, hstate⟩ := hwrite y hy
        obtain ⟨row', hrow', -, hcompleted⟩ := hs.completions batch hrepeated y.1 (hphase.writes y hy).1
        obtain rfl := Option.some.inj (hrow.symm.trans hrow')
        rw [hstate] at hcompleted
        cases hcompleted
      · exact hsame

theorem completeNews_ok {now : Timestamp} {row new : NewsRow} (h : completeNews now row = .ok new) :
    new = { row with state := .completed, completedAt := some now } := by
  obtain ⟨_, -, h⟩ := bind_ok h
  obtain ⟨_, -, h⟩ := bind_ok h
  exact (Except.ok.inj h).symm

theorem mem_pendingNews {rows : List (String × NewsRow)} {key : String} :
    key ∈ pendingNews rows ↔ ∃ row, (key, row) ∈ rows ∧ row.state = .claimed := by
  simp [pendingNews]

/-- The update writes all that is pending of the rows that the check has passed. -/
theorem completing_of_update {table : NewsKey → Option NewsRow} {batch : NewsBatch}
    {rows writes : List (String × NewsRow)} {now : Timestamp}
    (hphase : ∀ x ∈ rows, table (batch.scopeKey, x.1) = some x.2) (hrows : batch.checkClaims rows = .ok ())
    (hwrites : batch.updatePending table now (pendingNews rows) = .ok writes) : Completing table batch writes := by
  obtain ⟨hkeys, hattempts⟩ := require_ok hrows
  obtain ⟨written, hwritten, hwrites⟩ := bind_ok hwrites
  obtain ⟨_, hall, heq⟩ := bind_ok hwrites
  obtain rfl := Except.ok.inj heq
  constructor
  · intro key hkey
    rw [← hkeys] at hkey
    obtain ⟨x, hx, rfl⟩ := List.mem_map.mp hkey
    refine ⟨x.2, hphase x hx, hattempts x hx, ?_⟩
    cases hstate : x.2.state with
    | completed => exact Or.inl rfl
    | claimed =>
      have hpending : x.1 ∈ pendingNews rows := mem_pendingNews.mpr ⟨x.2, hx, hstate⟩
      rw [← require_ok hall, List.mem_insertionSort] at hpending
      exact Or.inr hpending
  · intro y hy
    obtain ⟨⟨key, row⟩, hmatching, hnew⟩ := mem_mapM hwritten y hy
    obtain ⟨new, hcompleted, heq⟩ := bind_ok hnew
    obtain rfl := Except.ok.inj heq
    obtain rfl := completeNews_ok hcompleted
    obtain ⟨key', hpending, hmatch⟩ := List.mem_filterMap.mp hmatching
    obtain ⟨row', hfound, heq⟩ := Option.map_eq_some_iff.mp hmatch
    obtain ⟨rfl, rfl⟩ := Prod.mk.inj heq
    obtain ⟨hrow, hmatches⟩ := Option.filter_eq_some_iff.mp hfound
    obtain ⟨hattempt, hstate⟩ := of_decide_eq_true hmatches
    obtain ⟨row'', hmem, -⟩ := mem_pendingNews.mp hpending
    have hkey : (key', row'').1 ∈ rows.map Prod.fst := List.mem_map_of_mem hmem
    rw [hkeys] at hkey
    exact ⟨hkey, hattempt, rfl, row', hrow, hstate⟩

theorem commitNews_nil (scopeKey : String) (table : NewsKey → Option NewsRow) : commitNews scopeKey [] table = table := by
  funext key
  simp [commitNews]

include hs in
theorem Step.moves (h : Step s t) : ∃ p, Moves p s t := by
  cases h with
  | claim p scopeKey eventKeys attemptId h hbatch hkeys =>
    refine ⟨p, Moves.client ⟨by simp, by simp, fun key hkey => Or.inl hkey⟩ ?_⟩
    rintro key ⟨-, hkey⟩
    cases hkey
  | @insert p now batch key remaining inserted h habsent hl =>
    have hphase := hs.phases p
    rw [h] at hphase
    refine ⟨p, Moves.client ⟨?_, ?_, ?_⟩ ?_⟩
    · intro x hx
      rcases List.mem_append.mp hx with hx | hx
      · exact hphase.new x hx
      · rw [List.mem_singleton.mp hx]
        exact habsent
    · intro x hx
      rcases List.mem_append.mp hx with hx | hx
      · exact hphase.claimed x hx
      · rw [List.mem_singleton.mp hx]
        exact ⟨rfl, rfl⟩
    · intro key' hkey'
      rw [List.map_append, List.mem_append]
      rcases hphase.covered key' hkey' with hcase | hcase | hcase
      · rcases List.mem_cons.mp hcase with rfl | hcase
        · exact Or.inr (Or.inl (Or.inr (List.mem_singleton_self _)))
        · exact Or.inl hcase
      · exact Or.inr (Or.inl (Or.inl hcase))
      · exact Or.inr (Or.inr hcase)
    · rintro key' ⟨hscope, hkey'⟩
      rw [List.map_append, List.mem_append] at hkey'
      rcases hkey' with hkey' | hkey'
      · rw [h]
        exact Or.inr ⟨hscope, hkey'⟩
      · rw [show key' = (batch.scopeKey, key) from Prod.ext hscope (List.mem_singleton.mp hkey')]
        exact Or.inl hl
  | @conflict p batch key remaining inserted h hrow =>
    have hphase := hs.phases p
    rw [h] at hphase
    refine ⟨p, Moves.client ⟨hphase.new, hphase.claimed, ?_⟩ ?_⟩
    · intro key' hkey'
      rcases hphase.covered key' hkey' with hcase | hcase
      · rcases List.mem_cons.mp hcase with rfl | hcase
        · exact Or.inr (Or.inr hrow)
        · exact Or.inl hcase
      · exact Or.inr hcase
    · intro key' hkey'
      rw [h]
      exact Or.inr hkey'
  | commitClaim p h hclaimed =>
    have hphase := hs.phases p
    rw [h] at hphase
    exact ⟨p, Moves.commitClaim h hphase hclaimed⟩
  | complete p scopeKey eventKeys attemptId h hbatch hkeys =>
    refine ⟨p, Moves.client (by simp [PhaseOk]) ?_⟩
    rintro key ⟨-, hkey⟩
    cases hkey
  | @lock p batch key remaining rows row h hl hrow =>
    have hphase := hs.phases p
    rw [h] at hphase
    refine ⟨p, Moves.client ?_ ?_⟩
    · intro x hx
      rcases List.mem_append.mp hx with hx | hx
      · exact hphase x hx
      · rw [List.mem_singleton.mp hx]
        exact hrow
    · rintro key' ⟨hscope, hkey'⟩
      rw [List.map_append, List.mem_append] at hkey'
      rcases hkey' with hkey' | hkey'
      · rw [h]
        exact Or.inr ⟨hscope, hkey'⟩
      · rw [show key' = (batch.scopeKey, key) from Prod.ext hscope (List.mem_singleton.mp hkey')]
        exact Or.inl hl
  | @completedBefore p batch rows h hrows hpending =>
    have hphase := hs.phases p
    rw [h] at hphase
    obtain ⟨hkeys, hattempts⟩ := require_ok hrows
    have hcompleting : Completing s.table batch [] := by
      constructor
      · intro key hkey
        rw [← hkeys] at hkey
        obtain ⟨x, hx, rfl⟩ := List.mem_map.mp hkey
        refine ⟨x.2, hphase x hx, hattempts x hx, ?_⟩
        cases hstate : x.2.state with
        | completed => exact Or.inl rfl
        | claimed =>
          have hmem : x.1 ∈ pendingNews rows := mem_pendingNews.mpr ⟨x.2, hx, hstate⟩
          rw [hpending] at hmem
          cases hmem
      · simp
    have hmoves := Moves.commitCompletion hs h (fun key hkey => ⟨rfl, by rwa [hkeys]⟩) hcompleting
    rw [commitNews_nil] at hmoves
    exact ⟨p, hmoves⟩
  | @update p now batch rows writes h hrows hpending hwrites =>
    have hphase := hs.phases p
    rw [h] at hphase
    refine ⟨p, Moves.client (completing_of_update hphase hrows hwrites) ?_⟩
    rintro key ⟨hscope, hkey⟩
    rw [h]
    refine Or.inr ⟨hscope, ?_⟩
    rwa [(require_ok hrows).1]
  | commitCompletion p h =>
    have hphase := hs.phases p
    rw [h] at hphase
    exact ⟨p, Moves.commitCompletion hs h (fun key hkey => ⟨rfl, hkey⟩) hphase⟩
  | rollback p => exact ⟨p, Moves.client trivial (by simp [NewsPhase.Holds])⟩

omit [DecidableEq ι] in
theorem Initial.invariant (h : Initial s) : Invariant s := by
  obtain ⟨hidle, hclaims, hcompletions⟩ := h
  constructor
  · intro p q key hp
    rw [hidle p] at hp
    cases hp
  · intro p
    rw [hidle p]
    trivial
  · simp [hclaims]
  · simp [hclaims]
  · simp [hclaims]
  · simp [hcompletions]

include hs in
theorem Invariant.moves {p : ι} (h : Moves p s t) : Invariant t := by
  obtain ⟨⟨x, hclients, hx, hl⟩, hkept, hframe, hclaims, hcompletions⟩ := h
  have hclaimed : ∀ c ∈ s.claims, ∀ key ∈ c.claimed, key ∈ c.batch.keys ∧
      t.Owned c.batch.scopeKey key c.batch.attemptId :=
    fun c hc key hkey => ⟨(hs.claimed c hc key hkey).1, (hs.claimed c hc key hkey).2.mono hkept⟩
  have hrequested : ∀ c ∈ s.claims, ∀ key ∈ c.batch.keys, (t.table (c.batch.scopeKey, key)).isSome :=
    fun c hc key hkey => hkept.isSome (hs.requested c hc key hkey)
  have hcompleted : ∀ b ∈ s.completions, ∀ key ∈ b.keys,
      ∃ row, t.table (b.scopeKey, key) = some row ∧ row.attemptId = b.attemptId ∧ row.state = .completed := by
    intro b hb key hkey
    obtain ⟨row, hrow, hattempt, hstate⟩ := hs.completions b hb key hkey
    obtain ⟨row', hrow', -, hsame⟩ := hkept _ row hrow
    obtain rfl := hsame hstate
    exact ⟨row', hrow', hattempt, hstate⟩
  constructor
  · rw [hclients]
    exact hs.exclusive.update hl
  · intro q
    by_cases hq : q = p
    · rw [hclients, hq, Function.update_self]
      exact hx
    · rw [hclients, Function.update_of_ne hq]
      exact (hs.phases q).mono hkept fun key hheld => hframe key fun hp => hq (hs.exclusive q p key hheld hp)
  · rcases hclaims with heq | ⟨c, heq, hnew, -⟩
    · rw [heq]
      exact hs.disjoint
    · rw [heq]
      refine List.pairwise_cons.mpr ⟨fun a ha hscope key hc hold => ?_, hs.disjoint⟩
      obtain ⟨-, row, hrow, -⟩ := hs.claimed a ha key hold
      rw [← hscope, (hnew key hc).2.1] at hrow
      cases hrow
  · rcases hclaims with heq | ⟨c, heq, hnew, -⟩
    · rwa [heq]
    · rw [heq]
      exact List.forall_mem_cons.mpr ⟨fun key hkey => ⟨(hnew key hkey).1, (hnew key hkey).2.2⟩, hclaimed⟩
  · rcases hclaims with heq | ⟨c, heq, -, hall⟩
    · rwa [heq]
    · rw [heq]
      exact List.forall_mem_cons.mpr ⟨hall, hrequested⟩
  · rcases hcompletions with ⟨heq, -⟩ | ⟨b, heq, -, hall, -⟩
    · rwa [heq]
    · rw [heq]
      exact List.forall_mem_cons.mpr ⟨hall, hcompleted⟩

include hs in
theorem Invariant.step (h : Step s t) : Invariant t := by
  obtain ⟨p, hmoves⟩ := Step.moves hs h
  exact hs.moves hmoves

include hs in
theorem Invariant.run_kept (hrun : ReflTransGen Step s t) : Kept s.table t.table := by
  apply @Runs.run_related _ Invariant Step s t (fun s t => Kept s.table t.table) _ _ _ _ hrun hs
  · exact fun s => Kept.refl _
  · exact fun s t u h h' => h.trans h'
  · exact fun s t hs h => hs.step h
  · intro s t hs h
    obtain ⟨p, hmoves⟩ := Step.moves hs h
    exact hmoves.kept

end Moves

theorem Reachable.invariant {s : NewsSystem ι} (h : s.Reachable) : Invariant s :=
  Runs.Reachable.invariant h (fun _ => Initial.invariant) fun _ _ hs hstep => hs.step hstep

/-- What the claims of a system come to, in later states too: an event is claimed by one batch of its scope, and owned
by one attempt for good; a batch is completed whole by the attempt that owns it, or not at all. -/
structure Fences (s t : NewsSystem ι) : Prop where
  disjoint : s.claims.Pairwise fun a b => a.batch.scopeKey = b.batch.scopeKey → a.claimed.Disjoint b.claimed
  claimed : ∀ c ∈ s.claims, ∀ key ∈ c.claimed, key ∈ c.batch.keys ∧ s.Owned c.batch.scopeKey key c.batch.attemptId
  owned : ∀ c ∈ s.claims, ∀ key ∈ c.batch.keys, ∃! attemptId, s.Owned c.batch.scopeKey key attemptId
  permanent : ∀ scopeKey key attemptId, s.Owned scopeKey key attemptId →
    ∀ attemptId', t.Owned scopeKey key attemptId' ↔ attemptId' = attemptId
  completed : ∀ b ∈ s.completions, ∀ key ∈ b.keys, s.Owned b.scopeKey key b.attemptId ∧ s.Completed b.scopeKey key
  final : ∀ scopeKey key, s.Completed scopeKey key → t.Completed scopeKey key
  atomic : ∀ u, Step s u →
    u.completions = s.completions ∧ (∀ scopeKey key, u.Completed scopeKey key → s.Completed scopeKey key) ∨
      ∃ b, u.completions = b :: s.completions ∧ (∀ key ∈ b.keys, s.Owned b.scopeKey key b.attemptId) ∧
        (∀ key ∈ b.keys, u.Completed b.scopeKey key) ∧
        (∀ key, (key.1 = b.scopeKey → key.2 ∉ b.keys) → u.table key = s.table key) ∧ (b ∈ s.completions → u.table = s.table)

omit [DecidableEq ι] in
theorem Owned.unique {s : NewsSystem ι} {scopeKey key attemptId attemptId' : String} (h : s.Owned scopeKey key attemptId)
    (h' : s.Owned scopeKey key attemptId') : attemptId' = attemptId := by
  obtain ⟨row, hrow, rfl⟩ := h
  obtain ⟨row', hrow', rfl⟩ := h'
  obtain rfl := Option.some.inj (hrow.symm.trans hrow')
  rfl

theorem news_fences {s t : NewsSystem ι} (hs : s.Reachable) (hrun : ReflTransGen Step s t) : s.Fences t := by
  have hinv := hs.invariant
  have hkept := hinv.run_kept hrun
  constructor
  · exact hinv.disjoint
  · exact hinv.claimed
  · intro c hc key hkey
    obtain ⟨row, hrow⟩ := Option.isSome_iff_exists.mp (hinv.requested c hc key hkey)
    have howned : s.Owned c.batch.scopeKey key row.attemptId := ⟨row, hrow, rfl⟩
    exact ⟨row.attemptId, howned, fun _ h => howned.unique h⟩
  · intro scopeKey key attemptId howned attemptId'
    have howned' := howned.mono hkept
    constructor
    · exact howned'.unique
    · rintro rfl
      exact howned'
  · intro b hb key hkey
    obtain ⟨row, hrow, hattempt, hstate⟩ := hinv.completions b hb key hkey
    exact ⟨⟨row, hrow, hattempt⟩, row, hrow, hstate⟩
  · exact fun scopeKey key h => h.mono hkept
  · intro u hu
    obtain ⟨p, hmoves⟩ := Step.moves hinv hu
    rcases hmoves.completions with hsame | ⟨b, heq, howned, hall, hframe, hrepeated⟩
    · exact Or.inl hsame
    · refine Or.inr ⟨b, heq, howned, fun key hkey => ?_, hframe, hrepeated⟩
      obtain ⟨row, hrow, -, hstate⟩ := hall key hkey
      exact ⟨row, hrow, hstate⟩

section Example

/-- A call with the arguments of a batch whose keys are sorted digests is one for that batch. -/
theorem newsBatch_created {batch : NewsBatch} (hdigests : ∀ value ∈ batch.scopeKey :: batch.attemptId :: batch.keys, isSha256 value)
    (hlength : batch.keys.length ≤ maxNewsBatch) (hnodup : batch.keys.Nodup) (hsorted : batch.keys.Pairwise (· ≤ ·)) :
    newsBatch batch.scopeKey batch.keys batch.attemptId = .ok batch := by
  obtain ⟨hscope, hdigests⟩ := List.forall_mem_cons.mp hdigests
  obtain ⟨hattempt, hdigests⟩ := List.forall_mem_cons.mp hdigests
  have hkeys : batch.keys.forM newsDigest = .ok ⟨⟩ := forM_of_ok fun key hkey => require_pos (hdigests key hkey)
  simp only [newsBatch, newsDigest, require_pos hscope, require_pos hattempt, newsKeys, require_pos hlength,
    require_pos hnodup, ok_bind, hsorted.insertionSort_eq] at hkeys ⊢
  rw [hkeys]
  rfl

/-- A claim alone comes to the end of its keys with those that had no row. -/
theorem inserting_run {s : NewsSystem ι} {p : ι} {batch : NewsBatch} (now : Timestamp) (remaining : List String)
    (inserted : List (String × NewsRow)) (h : s.clients p = .inserting batch remaining inserted)
    (hothers : ∀ q ≠ p, s.clients q = .idle) (hnodup : (inserted.map Prod.fst ++ remaining).Nodup) :
    ReflTransGen Step s (s.setClient p (.inserting batch [] (inserted ++
      (remaining.filter fun key => s.table (batch.scopeKey, key) = none).map (·, batch.claim now)))) := by
  induction remaining generalizing s inserted with
  | nil =>
    have hsame : s.setClient p (.inserting batch [] (inserted ++ [])) = s := by
      rw [List.append_nil, ← h, setClient, Function.update_eq_self]
    simp only [List.filter_nil, List.map_nil]
    rw [hsame]
  | cons key remaining ih =>
    have hidle (x : NewsPhase) (q : ι) (hq : q ≠ p) : (s.setClient p x).clients q = .idle := by
      rw [setClient_of_ne s x hq]
      exact hothers q hq
    cases hrow : s.table (batch.scopeKey, key) with
    | none =>
      have hfree : s.Free (batch.scopeKey, key) := by
        intro q hq
        by_cases hqp : q = p
        · rw [hqp, h] at hq
          exact (List.nodup_append.mp hnodup).2.2 key hq.2 key List.mem_cons_self rfl
        · rw [hothers q hqp] at hq
          exact hq
      have hrun := ih (inserted ++ [(key, batch.claim now)]) (setClient_self ..) (hidle _) (by simpa using hnodup)
      rw [setClient_setClient, List.append_assoc] at hrun
      rw [List.filter_cons_of_pos (by simp [hrow]), List.map_cons]
      exact hrun.head (.insert p now h hrow hfree)
    | some row =>
      have hrun := ih inserted (setClient_self ..) (hidle _) (hnodup.sublist (by simp))
      rw [setClient_setClient] at hrun
      rw [List.filter_cons_of_neg (by simp [hrow])]
      exact hrun.head (.conflict p h (by simp [hrow]))

/-- A claim of a batch by an idle client, while no other one is in a transaction, commits. -/
theorem claim_run {s : NewsSystem ι} (p : ι) (now : Timestamp) {batch : NewsBatch} (hidle : ∀ q, s.clients q = .idle)
    (hbatch : newsBatch batch.scopeKey batch.keys batch.attemptId = .ok batch) (hkeys : batch.keys ≠ [])
    (hnodup : batch.keys.Nodup) (hsorted : batch.keys.Pairwise (· ≤ ·)) :
    ∃ t, ReflTransGen Step s t ∧ (∀ q, t.clients q = .idle) ∧
      t.table = commitNews batch.scopeKey ((batch.keys.filter fun key => s.table (batch.scopeKey, key) = none).map
        (·, batch.claim now)) s.table ∧
      t.claims = ⟨batch, batch.keys.filter fun key => s.table (batch.scopeKey, key) = none⟩ :: s.claims := by
  let absent := batch.keys.filter fun key => s.table (batch.scopeKey, key) = none
  let started := s.setClient p (.inserting batch batch.keys [])
  have hrun := inserting_run now batch.keys [] (setClient_self s p (.inserting batch batch.keys []))
    (fun q hq => (setClient_of_ne s _ hq).trans (hidle q)) hnodup
  rw [setClient_setClient, List.nil_append] at hrun
  have hfst : (absent.map (·, batch.claim now)).map Prod.fst = absent := by simp [Function.comp_def]
  have hclaimed : batch.claimedKeys ((absent.map (·, batch.claim now)).map Prod.fst) = .ok absent := by
    have hsublist : absent.Sublist batch.keys := List.filter_sublist
    have hsame : absent.insertionSort (· ≤ ·) = absent := (hsorted.sublist hsublist).insertionSort_eq
    rw [hfst, NewsBatch.claimedKeys, hsame, require_pos ⟨hnodup.sublist hsublist, hsublist.subset⟩, ok_bind]
    rfl
  have hcommit := Step.commitClaim p (setClient_self s p (.inserting batch [] (absent.map (·, batch.claim now)))) hclaimed
  refine ⟨_, (hrun.head (.claim p _ _ _ (hidle p) hbatch hkeys)).tail hcommit, fun q => ?_, rfl, rfl⟩
  by_cases hq : q = p
  · rw [hq]
    exact setClient_self ..
  · exact (setClient_of_ne _ _ hq).trans ((setClient_of_ne s _ hq).trans (hidle q))

def exampleNewsBatch (keys : List Char) (attempt : Char) : NewsBatch :=
  ⟨exampleSha 'a', keys.map exampleSha, exampleSha attempt⟩

def exampleNoNews : NewsSystem Bool := ⟨fun _ => none, fun _ => .idle, [], []⟩

theorem exampleNewsBatch_keys {batch : NewsBatch}
    (h : batch ∈ [exampleNewsBatch ['b', 'c'] 'd', exampleNewsBatch ['c', 'e'] 'f']) :
    newsBatch batch.scopeKey batch.keys batch.attemptId = .ok batch ∧ batch.keys ≠ [] ∧ batch.keys.Nodup ∧
      batch.keys.Pairwise (· ≤ ·) := by
  have hall : ∀ batch ∈ [exampleNewsBatch ['b', 'c'] 'd', exampleNewsBatch ['c', 'e'] 'f'],
      (∀ value ∈ batch.scopeKey :: batch.attemptId :: batch.keys, isSha256 value) ∧ batch.keys.length ≤ maxNewsBatch ∧
        batch.keys ≠ [] ∧ batch.keys.Nodup ∧ batch.keys.Pairwise (· ≤ ·) := by decide +kernel
  obtain ⟨hdigests, hlength, hkeys, hnodup, hsorted⟩ := hall batch h
  exact ⟨newsBatch_created hdigests hlength hnodup hsorted, hkeys, hnodup, hsorted⟩

/-- Two attempts claim overlapping batches, one after the other. -/
theorem news_fences_example : ∃ s t : NewsSystem Bool, s.Reachable ∧ ReflTransGen Step s t ∧
    t.claims = [⟨exampleNewsBatch ['c', 'e'] 'f', [exampleSha 'e']⟩,
      ⟨exampleNewsBatch ['b', 'c'] 'd', [exampleSha 'b', exampleSha 'c']⟩] ∧ s.Fences t ∧ t.Fences t := by
  obtain ⟨hfirst, hfirstKeys, hfirstNodup, hfirstSorted⟩ := exampleNewsBatch_keys (List.mem_cons_self ..)
  obtain ⟨hsecond, hsecondKeys, hsecondNodup, hsecondSorted⟩ :=
    exampleNewsBatch_keys (List.mem_cons_of_mem _ (List.mem_singleton_self _))
  obtain ⟨s, hs, hidle, htable, hclaims⟩ :=
    claim_run (s := exampleNoNews) false 0 (fun _ => rfl) hfirst hfirstKeys hfirstNodup hfirstSorted
  obtain ⟨t, ht, -, -, hclaims'⟩ := claim_run true 1 hidle hsecond hsecondKeys hsecondNodup hsecondSorted
  have hreachable : s.Reachable := Runs.Reachable.run (Runs.Reachable.start ⟨fun _ => rfl, rfl, rfl⟩) hs
  refine ⟨s, t, hreachable, ht, ?_, news_fences hreachable ht, news_fences (Runs.Reachable.run hreachable ht) .refl⟩
  rw [hclaims', hclaims, htable]
  decide +kernel

end Example

end NewsSystem

end KairosPersistence
