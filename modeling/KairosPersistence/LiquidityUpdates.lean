import KairosPersistence.ReadModifyWrite
import KairosPersistence.CommandCompletions

/-!
The private liquidity snapshot of a session and a symbol: workers load it,
execute a command on what they have loaded and store what is left of the depth
with the receipt of the command.
-/

namespace KairosPersistence

open PythonJson PythonText Relation
open Transactions (require found bind_ok require_ok require_pos found_some ok_bind run_spec)
open ReadModifyWrite (Register Serial Current)

section Snapshots

def SimJournal.liquidityOf (s : SimJournal) (sessionId symbol : String) : Option SimLiquidityRow :=
  s.liquidity.find? fun r => r.HasKey sessionId symbol

/-- `_validate_session_symbol`. -/
def validateSessionSymbol (sessionId symbol : String) : Except SimulatorError Unit := do
  require (isSha256 sessionId = true) (.valueError "session_id must be a lowercase SHA-256 hex string")
  require (symbol ∈ simulationSymbols) (.valueError "simulation symbol is outside the fixed five-symbol universe")

/-- A loaded snapshot: the version of its schema and its payload. -/
abbrev LiquiditySnapshot := String × PyJson

/-- What `load_liquidity_state` returns of the row that it has found. -/
def loadedFrom : Option SimLiquidityRow → Except SimulatorError (Option LiquiditySnapshot)
  | none => .ok none
  | some row => do
    let payload ← storedObject row.payload
    require (digest payload = row.stateSha256)
      (.messageIdentityConflict "simulation private liquidity state payload hash does not match")
    return some (row.stateSchemaVersion, payload)

/-- `load_liquidity_state`. -/
def loadLiquidityState (sessionId symbol : String) (s : SimJournal) :
    Except SimulatorError (Option LiquiditySnapshot) := do
  validateSessionSymbol sessionId symbol
  loadedFrom (s.liquidityOf sessionId symbol)

/-- The row that `complete_command` stores. -/
def Completion.liquidityRow (call : Completion) : Option SimLiquidityRow := do
  let column ← Jsonb.jsonbIn (canonicalPayload call.modelStatePayload.value).1
  return ⟨← call.command.sessionId, ← call.command.symbol, call.modelStateSchemaVersion,
    digest call.modelStatePayload.value, column⟩

end Snapshots

section Workers

/-- A worker on a command; `execute` is the pure kernel on what has been loaded. -/
structure LiquidityWorker where
  command : SimulationCommand
  execute : Option LiquiditySnapshot → Completion
  executes : ∀ loaded, (execute loaded).command = command

def LiquidityWorker.On (worker : LiquidityWorker) (sessionId symbol : String) : Prop :=
  worker.command.sessionId = some sessionId ∧ worker.command.symbol = some symbol

instance (worker : LiquidityWorker) (sessionId symbol : String) : Decidable (worker.On sessionId symbol) :=
  inferInstanceAs (Decidable (_ ∧ _))

/-- The worker, having loaded `v`, leaves a snapshot that loads as `w`. -/
def LiquidityWorker.Updates (worker : LiquidityWorker) (v w : Except SimulatorError (Option LiquiditySnapshot)) : Prop :=
  ∃ loaded row, v = .ok loaded ∧ (worker.execute loaded).liquidityRow = some row ∧ w = loadedFrom (some row)

/-- The journal, what each worker has loaded, and whose completions have committed, the last one first. -/
structure LiquiditySystem (ι : Type) where
  journal : SimJournal
  loaded : ι → Option (Option LiquiditySnapshot)
  committed : List ι

variable {ι : Type} [DecidableEq ι]

/-- A worker loads, a worker completes its command, or another operation runs. A worker that fails may start again. -/
inductive LiquidityStep (workers : ι → LiquidityWorker) (contracts : SimulatorContracts)
    (allowed : SimJournal → LiquidityWorker → Option LiquiditySnapshot → Prop) :
    LiquiditySystem ι → LiquiditySystem ι → Prop
  | load {s} (i : ι) (sessionId symbol : String) (loaded : Option LiquiditySnapshot)
    (hon : (workers i).On sessionId symbol) (h : loadLiquidityState sessionId symbol s.journal = .ok loaded) :
    LiquidityStep workers contracts allowed s { s with loaded := Function.update s.loaded i (some loaded) }
  | complete {s} (env : SimulatorEnvironment) (i : ι) (loaded : Option LiquiditySnapshot) (t : SimJournal)
    (reply : CommandCompletion) (hloaded : s.loaded i = some loaded)
    (h : completeCommand env contracts ((workers i).execute loaded) s.journal = .ok (t, reply))
    (hallowed : reply.created = true → allowed s.journal (workers i) loaded) :
    LiquidityStep workers contracts allowed s
      { s with journal := t, committed := if reply.created then i :: s.committed else s.committed }
  | other {s} (t : SimJournal)
    (h : SimulatorStep contracts (fun _ call => ∀ completion, call ≠ .completeCommand completion) s.journal t) :
    LiquidityStep workers contracts allowed s { s with journal := t }

/-- No worker has loaded anything yet. -/
structure LiquiditySystem.Initial (contracts : SimulatorContracts) (s : LiquiditySystem ι) : Prop where
  journal : s.journal.Reachable contracts AnyCall
  loaded : ∀ i, s.loaded i = none
  committed : s.committed = []

/-- The snapshot that is stored is the one that the worker has loaded. -/
def LoadedCurrent (s : SimJournal) (worker : LiquidityWorker) (loaded : Option LiquiditySnapshot) : Prop :=
  ∀ sessionId symbol, worker.On sessionId symbol → loadLiquidityState sessionId symbol s = .ok loaded

def AnyCompletion : SimJournal → LiquidityWorker → Option LiquiditySnapshot → Prop := fun _ _ _ => True

/-- In each session and on each symbol the snapshot is what the committed workers leave one after the other. -/
def LiquiditySystem.NoLostUpdate (workers : ι → LiquidityWorker) (s t : LiquiditySystem ι) : Prop :=
  ∀ sessionId symbol, ∃ order : List ι,
    order.Perm (t.committed.filter fun i => (workers i).On sessionId symbol) ∧
      Serial (fun i => (workers i).Updates) order (loadLiquidityState sessionId symbol s.journal)
        (loadLiquidityState sessionId symbol t.journal)

end Workers

section Frame

variable {env : SimulatorEnvironment} {contracts : SimulatorContracts} {s t : SimJournal}

def SimJournal.SameLiquidity (s t : SimJournal) : Prop := t.liquidity = s.liquidity

theorem appendTradeEventLocked_liquidity {event : SimulationTradeEvent} {created : Bool}
    (h : appendTradeEventLocked env event s = .ok (t, created)) : s.SameLiquidity t := by
  rcases appendTradeEventLocked_ok h with ⟨-, rfl, -⟩ | ⟨-, trade, row, artifacts, -, rfl⟩
  · rfl
  · rfl

/-- No operation but the completion of a command writes a snapshot. -/
theorem SimulatorCall.run_liquidity {call : SimulatorCall} (hcall : ∀ completion, call ≠ .completeCommand completion) :
    s.SameLiquidity (call.run env contracts s) := by
  cases call with
  | createTrade trade =>
    refine run_spec (p := s.SameLiquidity) rfl fun t created h => ?_
    obtain ⟨_, -, ⟨-, rfl, -⟩ | ⟨-, -, _, _, -, rfl⟩⟩ := createTrade_ok h
    · rfl
    · rfl
  | appendTradeEvent event =>
    refine run_spec (p := s.SameLiquidity) rfl fun t created h => ?_
    exact appendTradeEventLocked_liquidity h
  | prepareCommand command =>
    refine run_spec (p := s.SameLiquidity) rfl fun t reply h => ?_
    rcases prepareCommand_ok h with rfl | ⟨_, _, _, _, -, rfl⟩
    · rfl
    · rfl
  | completeCommand call => exact absurd rfl (hcall call)
  | recordResult result =>
    refine run_spec (p := s.SameLiquidity) rfl fun t created h => ?_
    rcases recordResult_ok h with rfl | ⟨_, _, _, _, -, -, -, -, -, -, -, rfl⟩
    · rfl
    · rfl
  | recordSessionReceipt receipt =>
    refine run_spec (p := s.SameLiquidity) rfl fun t created h => ?_
    obtain ⟨_, -, -, rfl | ⟨_, _, -, -, rfl⟩⟩ := recordSessionReceipt_ok h
    · rfl
    · rfl

/-- A completion stores its snapshot, whatever is stored. -/
theorem Completes.liquidity_eq {call : Completion} {commandId receiptId : String} {receipt : SimCommandReceiptRow}
    {liquidity : SimLiquidityRow} {appended : SimJournal}
    (h : Completes env call s t commandId receiptId receipt liquidity appended) :
    call.liquidityRow = some liquidity ∧ t.liquidity = upsertLiquidity liquidity s.liquidity := by
  obtain ⟨hsession, hsymbol, hversion, hsha⟩ := h.liquidityRow
  have happended : appended.liquidity = upsertLiquidity liquidity s.liquidity :=
    completeEvents_ok (fun u => u.liquidity = upsertLiquidity liquidity s.liquidity)
      (fun event _ u v created hu _ _ happend => (appendTradeEventLocked_liquidity happend).trans hu) h.events rfl
  obtain ⟨artifacts, rfl⟩ := h.completed
  constructor
  · rw [Completion.liquidityRow, show Jsonb.jsonbIn (canonicalPayload call.modelStatePayload.value).1 = _ from
      h.liquidityColumn, hsession, hsymbol, ← hversion, ← hsha]
    rfl
  · exact happended

theorem liquidityOf_upsert (row : SimLiquidityRow) (rows : List SimLiquidityRow) :
    (upsertLiquidity row rows).find? (fun r => r.HasKey row.sessionId row.symbol) = some row :=
  List.find?_cons_of_pos (decide_eq_true ⟨rfl, rfl⟩)

theorem liquidityOf_upsert_ne {row : SimLiquidityRow} {sessionId symbol : String}
    (h : ¬row.HasKey sessionId symbol) (rows : List SimLiquidityRow) :
    (upsertLiquidity row rows).find? (fun r => r.HasKey sessionId symbol) =
      rows.find? fun r => r.HasKey sessionId symbol := by
  rw [upsertLiquidity, List.find?_cons_of_neg (by simpa using h), List.find?_filter]
  congr 1
  funext r
  by_cases hr : r.HasKey sessionId symbol
  · have hne : ¬r.HasKey row.sessionId row.symbol := fun hk => h ⟨hk.1.symm.trans hr.1, hk.2.symm.trans hr.2⟩
    simp [hr, hne]
  · simp [hr]

end Frame

section Serial

variable {ι : Type} [DecidableEq ι] {workers : ι → LiquidityWorker} {contracts : SimulatorContracts}
  {s t : LiquiditySystem ι} {sessionId symbol : String}

/-- What the workers of a session and a symbol read and write. -/
def LiquiditySystem.register (workers : ι → LiquidityWorker) (sessionId symbol : String) (s : LiquiditySystem ι) :
    Register ι (Except SimulatorError (Option LiquiditySnapshot)) where
  value := loadLiquidityState sessionId symbol s.journal
  readings := fun i => if (workers i).On sessionId symbol then (s.loaded i).map .ok else none
  written := s.committed.filter fun i => (workers i).On sessionId symbol

theorem loadLiquidityState_congr {a b : SimJournal} (h : b.liquidityOf sessionId symbol = a.liquidityOf sessionId symbol) :
    loadLiquidityState sessionId symbol b = loadLiquidityState sessionId symbol a := by
  rw [loadLiquidityState, loadLiquidityState, h]

theorem LiquidityWorker.On.eq {worker : LiquidityWorker} {sessionId' symbol' : String}
    (h : worker.On sessionId symbol) (h' : worker.On sessionId' symbol') : sessionId' = sessionId ∧ symbol' = symbol :=
  ⟨Option.some.inj (h'.1.symm.trans h.1), Option.some.inj (h'.2.symm.trans h.2)⟩

theorem Completion.liquidityRow_on {call : Completion} {row : SimLiquidityRow} (h : call.liquidityRow = some row) :
    call.command.sessionId = some row.sessionId ∧ call.command.symbol = some row.symbol := by
  simp only [Completion.liquidityRow, Option.pure_def, Option.bind_eq_bind, Option.bind_eq_some_iff] at h
  obtain ⟨_, -, _, hsession, _, hsymbol, h⟩ := h
  obtain rfl := Option.some.inj h
  exact ⟨hsession, hsymbol⟩

/-- What a loaded snapshot tells of its session and symbol. -/
theorem loadLiquidityState_ok {a : SimJournal} {loaded : Option LiquiditySnapshot}
    (h : loadLiquidityState sessionId symbol a = .ok loaded) : validateSessionSymbol sessionId symbol = .ok () := by
  obtain ⟨_, hvalid, -⟩ := bind_ok h
  exact hvalid

/-- A load is a read of the register of its session and symbol, and nothing in the others. -/
theorem register_load {i : ι} {sessionId' symbol' : String} {loaded : Option LiquiditySnapshot}
    (hon : (workers i).On sessionId' symbol') (h : loadLiquidityState sessionId' symbol' s.journal = .ok loaded) :
    ReflTransGen (ReadModifyWrite.Step (fun i => (workers i).Updates) Current) (s.register workers sessionId symbol)
      (LiquiditySystem.register workers sessionId symbol
        { s with loaded := Function.update s.loaded i (some loaded) }) := by
  by_cases hkey : (workers i).On sessionId symbol
  · obtain ⟨rfl, rfl⟩ := hkey.eq hon
    have hread : LiquiditySystem.register workers sessionId' symbol'
        { s with loaded := Function.update s.loaded i (some loaded) } =
          (s.register workers sessionId' symbol').read i := by
      simp only [LiquiditySystem.register, Register.read, Register.mk.injEq, true_and, and_true]
      funext j
      by_cases hj : j = i
      · subst hj
        simp [hon, h]
      · simp [Function.update_of_ne hj]
    rw [hread]
    exact .single (.read i)
  · have hsame : LiquiditySystem.register workers sessionId symbol
        { s with loaded := Function.update s.loaded i (some loaded) } = s.register workers sessionId symbol := by
      simp only [LiquiditySystem.register, Register.mk.injEq, true_and, and_true]
      funext j
      by_cases hj : j = i
      · subst hj
        simp [hkey]
      · simp [Function.update_of_ne hj]
    rw [hsame]

/-- A completion that commits is a write to the register of its session and symbol, and nothing in the others. -/
theorem register_complete {i : ι} {loaded : Option LiquiditySnapshot} {row : SimLiquidityRow} {t : SimJournal}
    (hloaded : s.loaded i = some loaded) (hrow : ((workers i).execute loaded).liquidityRow = some row)
    (ht : t.liquidity = upsertLiquidity row s.journal.liquidity) (hcurrent : LoadedCurrent s.journal (workers i) loaded) :
    ReflTransGen (ReadModifyWrite.Step (fun i => (workers i).Updates) Current) (s.register workers sessionId symbol)
      (LiquiditySystem.register workers sessionId symbol { s with journal := t, committed := i :: s.committed }) := by
  have hon : (workers i).On row.sessionId row.symbol := by
    rw [LiquidityWorker.On, ← (workers i).executes loaded]
    exact Completion.liquidityRow_on hrow
  by_cases hkey : (workers i).On sessionId symbol
  · obtain ⟨rfl, rfl⟩ := hkey.eq hon
    have hload := hcurrent _ _ hon
    have hvalue : loadLiquidityState row.sessionId row.symbol t = loadedFrom (some row) := by
      rw [loadLiquidityState, loadLiquidityState_ok hload, ok_bind, SimJournal.liquidityOf, ht, liquidityOf_upsert]
    have hwrite : LiquiditySystem.register workers row.sessionId row.symbol
        { s with journal := t, committed := i :: s.committed } =
          (s.register workers row.sessionId row.symbol).write i (loadedFrom (some row)) := by
      simp [LiquiditySystem.register, Register.write, hvalue, hon]
    rw [hwrite]
    apply ReflTransGen.single
    apply ReadModifyWrite.Step.write i (.ok loaded)
    · simp [LiquiditySystem.register, hon, hloaded]
    · exact ⟨loaded, row, rfl, hrow, rfl⟩
    · exact hload
  · have hother : ¬row.HasKey sessionId symbol := by
      rintro ⟨hsession, hsymbol⟩
      rw [hsession, hsymbol] at hon
      exact hkey hon
    have hvalue : loadLiquidityState sessionId symbol t = loadLiquidityState sessionId symbol s.journal := by
      apply loadLiquidityState_congr
      rw [SimJournal.liquidityOf, ht, liquidityOf_upsert_ne hother, SimJournal.liquidityOf]
    have hsame : LiquiditySystem.register workers sessionId symbol
        { s with journal := t, committed := i :: s.committed } = s.register workers sessionId symbol := by
      simp [LiquiditySystem.register, hvalue, hkey]
    rw [hsame]

theorem LiquidityStep.register (h : LiquidityStep workers contracts LoadedCurrent s t) :
    ReflTransGen (ReadModifyWrite.Step (fun i => (workers i).Updates) Current) (s.register workers sessionId symbol)
      (t.register workers sessionId symbol) := by
  cases h with
  | load i sessionId' symbol' loaded hon h => exact register_load hon h
  | complete env i loaded t reply hloaded h hallowed =>
    rcases completeCommand_ok h with ⟨hcreated, rfl, -⟩ | ⟨rfl, _, _, _, row, _, hc⟩
    · rw [hcreated]
      exact .refl
    · obtain ⟨hrow, ht⟩ := hc.liquidity_eq
      exact register_complete hloaded hrow ht (hallowed rfl)
  | other t h =>
    have hliquidity : t.liquidity = s.journal.liquidity := by
      cases h with
      | call env call hcall => exact SimulatorCall.run_liquidity hcall
      | outside sessions admissions artifacts => rfl
    have hvalue : loadLiquidityState sessionId symbol t = loadLiquidityState sessionId symbol s.journal := by
      apply loadLiquidityState_congr
      rw [SimJournal.liquidityOf, SimJournal.liquidityOf, hliquidity]
    rw [LiquiditySystem.register, LiquiditySystem.register, hvalue]

/-- No update is lost in a run whose completions commit only while the snapshot that is stored is the one that their
worker has loaded: it is what they leave in the order of their commits. -/
theorem liquidity_updates (hs : s.Initial contracts)
    (hrun : ReflTransGen (LiquidityStep workers contracts LoadedCurrent) s t) : s.NoLostUpdate workers t := by
  intro sessionId symbol
  refine ⟨_, .refl _, ?_⟩
  have hwritten : (s.register workers sessionId symbol).written = [] := by
    simp [LiquiditySystem.register, hs.committed]
  have hregister : ReflTransGen (ReadModifyWrite.Step (fun i => (workers i).Updates) Current)
      (s.register workers sessionId symbol) (t.register workers sessionId symbol) := by
    induction hrun with
    | refl => exact .refl
    | tail _ hstep ih => exact ih.trans hstep.register
  exact ReadModifyWrite.run_serial hregister hwritten

end Serial

section Example

theorem exampleSha_inj {c d : Char} : exampleSha c = exampleSha d ↔ c = d := by
  simp [exampleSha]

/-- The text for one of two commands. -/
def ofSide (entry exit : Char) (b : Bool) : Char := if b then entry else exit

def exampleCommandId (b : Bool) : String := exampleSha (ofSide 'e' '7' b)

def exampleReceiptId (b : Bool) : String := exampleSha (ofSide 'f' '8' b)

def exampleReceiptMessage (b : Bool) : String := if b then "entry receipt" else "exit receipt"

/-- The entry of the trade, and its exit. -/
def liquidityCommand (b : Bool) : SimulationCommand :=
  { exampleSimCommand with
    commandId := some (exampleCommandId b)
    orderSide := if b then "BUY" else "SELL"
    commandKind := if b then "ENTRY_IOC" else "TIMEOUT_EXIT_IOC"
    payload := exampleDump (if b then "entry" else "exit") (.int 1) }

/-- The snapshot of a kernel that has consumed a quantity. -/
def consumedState (quantity : ℤ) : ModelDump where
  fields := [("consumed", .num (.int quantity)), ("session_id", .str exampleLineage.sessionId),
    ("symbol", .str exampleLineage.symbol)]
  uniqueKeys := by
    rw [Json.uniqueKeys_obj]
    simp [Json.UniqueKeys]

def consumedOf : Option LiquiditySnapshot → ℤ
  | some (_, .obj fields) =>
    match getField fields "consumed" with
    | .num (.int quantity) => quantity
    | _ => 0
  | _ => 0

def liquidityCompletion (b : Bool) (quantity : ℤ) : Completion where
  command := liquidityCommand b
  receipt := {
    receiptId := some (exampleReceiptId b)
    commandId := some (exampleCommandId b)
    command := liquidityCommand b
    sessionId := some exampleLineage.sessionId
    admissionId := some exampleLineage.admissionId
    intentId := some exampleLineage.intentId
    tradeId := some exampleLineage.tradeId
    status := "FILLED"
    payload := exampleDump (exampleReceiptMessage b) (.int 1) }
  modelStateSchemaVersion := "v1"
  modelStatePayload := consumedState quantity
  events := []

/-- The kernel consumes one unit for the entry and two for the exit. -/
def liquidityWorker (b : Bool) : LiquidityWorker where
  command := liquidityCommand b
  execute := fun loaded => liquidityCompletion b (consumedOf loaded + if b then 1 else 2)
  executes := fun _ => rfl

theorem liquidityCompletion_check (b : Bool) (quantity : ℤ) : (liquidityCompletion b quantity).check =
    .ok (exampleCommandId b, { exampleLineage with side := "" }, exampleReceiptId b) := by
  have hequal : equal (liquidityCompletion b quantity).receipt.command.payload.value
      (liquidityCompletion b quantity).command.payload.value = true := equal_refl (liquidityCommand b).payload.uniqueKeys
  have htext : validateText "model_state_schema_version" "v1" = .ok () := by decide +kernel
  have hstate : equal (getField (liquidityCompletion b quantity).modelStatePayload.fields "session_id")
        (.str exampleLineage.sessionId) = true ∧
      equal (getField (liquidityCompletion b quantity).modelStatePayload.fields "symbol")
        (.str exampleLineage.symbol) = true := by
    simp [liquidityCompletion, consumedState, getField, equal]
  unfold Completion.check
  rw [show (liquidityCompletion b quantity).command.lineage "" =
    some (exampleCommandId b, { exampleLineage with side := "" }) from rfl, found_some, ok_bind]
  dsimp only
  rw [require_pos ⟨rfl, rfl⟩, ok_bind, require_pos hequal, ok_bind,
    show (liquidityCompletion b quantity).receipt.receiptId = some (exampleReceiptId b) from rfl, found_some, ok_bind,
    show (liquidityCompletion b quantity).modelStateSchemaVersion = "v1" from rfl, htext, ok_bind, require_pos hstate,
    ok_bind]
  rfl

theorem consumedState_nulFree (quantity : ℤ) : (consumedState quantity).value.everyString Jsonb.nulFree := by
  simp only [consumedState, ModelDump.value, Json.everyString, Json.everyStringFields]
  decide +kernel

theorem consumedState_reloads (quantity : ℤ) : Reloads (consumedState quantity).value := by
  apply (reloads_iff (consumedState_nulFree quantity)).mpr
  intro n hn
  simp only [consumedState, ModelDump.value, Json.numbers, Json.numbersFields, List.append_nil, List.mem_singleton] at hn
  rw [hn]
  trivial

/-- The kernel reads from the stored snapshot what has been consumed. -/
theorem consumedOf_loaded {b : Bool} {quantity : ℤ} {row : SimLiquidityRow} {loaded : Option LiquiditySnapshot}
    (hrow : (liquidityCompletion b quantity).liquidityRow = some row) (h : loadedFrom (some row) = .ok loaded) :
    consumedOf loaded = quantity := by
  obtain ⟨payload, hpayload, h⟩ := bind_ok h
  obtain ⟨_, -, h⟩ := bind_ok h
  obtain rfl := Except.ok.inj h
  simp only [Completion.liquidityRow, Option.pure_def, Option.bind_eq_bind, Option.bind_eq_some_iff] at hrow
  obtain ⟨column, hcolumn, _, -, _, -, hrow⟩ := hrow
  obtain rfl := Option.some.inj hrow
  obtain ⟨reread, hread, hdumps⟩ := consumedState_reloads quantity column hcolumn
  obtain rfl := Option.some.inj ((storedObject_ok hpayload).symm.trans hread)
  obtain ⟨fields, rfl⟩ := eq_obj_of_dumps hdumps
  have hfield := getField_congr hdumps (consumedState quantity).uniqueKeys "consumed"
  have hnumber : getField fields "consumed" = .num (.int quantity) := by
    rw [show getField (consumedState quantity).fields "consumed" = .num (.int quantity) from rfl] at hfield
    cases hf : getField fields "consumed" with
    | num n => simpa [hf, sortKeys, Json.orderKeys] using hfield
    | null | bool | str | arr | obj => simp [hf, sortKeys, Json.orderKeys] at hfield
  rw [consumedOf, hnumber]

/-- The row of a command, prepared or completed. -/
def liquidityCommandRow (b : Bool) (column : JsonColumn) (done : Bool) : SimCommandRow :=
  if done then (simCommandRow (exampleCommandId b) exampleLineage (liquidityCommand b) column).complete 0
  else simCommandRow (exampleCommandId b) exampleLineage (liquidityCommand b) column

/-- Both commands are prepared; `done` tells which are completed. -/
structure BothPrepared (column : Bool → JsonColumn) (done : Bool → Bool) (s : SimJournal) : Prop where
  columns : ∀ b, Jsonb.jsonbIn (dumps (liquidityCommand b).payload.value) = some (column b)
  session : (s.session exampleLineage.sessionId).isSome = true
  trade : assertExactTrade s exampleSimCommand.trade exampleLineage.sessionId exampleLineage.tradeId = .ok ()
  commands : s.commands =
    [liquidityCommandRow true (column true) (done true), liquidityCommandRow false (column false) (done false)]
  receipts : ∀ r ∈ s.receipts, ∃ b, done b = true ∧ r.receiptId = exampleReceiptId b ∧ r.commandId = exampleCommandId b
  lacks : ∀ b, done b = false → s.artifacts.Lacks (exampleReceiptMessage b)

theorem exampleCommandId_inj {b c : Bool} : exampleCommandId b = exampleCommandId c ↔ b = c := by
  rw [exampleCommandId, exampleCommandId, exampleSha_inj]
  revert b c
  decide

theorem exampleReceiptId_inj {b c : Bool} : exampleReceiptId b = exampleReceiptId c ↔ b = c := by
  rw [exampleReceiptId, exampleReceiptId, exampleSha_inj]
  revert b c
  decide

@[simp] theorem liquidityCommandRow_id (b : Bool) (column : JsonColumn) (done : Bool) :
    (liquidityCommandRow b column done).commandId = exampleCommandId b := by
  cases done <;> rfl

@[simp] theorem liquidityCommandRow_status (b : Bool) (column : JsonColumn) (done : Bool) :
    (liquidityCommandRow b column done).status = .prepared ↔ done = false := by
  cases done <;> simp [liquidityCommandRow, simCommandRow, SimCommandRow.complete]

theorem liquidityCommandRow_complete (b c : Bool) (column : JsonColumn) (done : Bool) :
    (if (liquidityCommandRow b column done).commandId = exampleCommandId c ∧
        (liquidityCommandRow b column done).status = .prepared then (liquidityCommandRow b column done).complete 0
      else liquidityCommandRow b column done) = liquidityCommandRow b column (if b = c then true else done) := by
  simp only [liquidityCommandRow_id, exampleCommandId_inj, liquidityCommandRow_status]
  by_cases hbc : b = c
  · cases done <;> simp [hbc, liquidityCommandRow]
  · simp [hbc]

variable {column : Bool → JsonColumn} {done : Bool → Bool} {s : SimJournal} {contracts : SimulatorContracts}

theorem BothPrepared.command (h : BothPrepared column done s) (b : Bool) :
    s.command (exampleCommandId b) = some (liquidityCommandRow b (column b) (done b)) := by
  rw [SimJournal.command, h.commands]
  cases b
  · rw [List.find?_cons_of_neg (by simp [exampleCommandId_inj]), List.find?_cons_of_pos (by simp)]
  · rw [List.find?_cons_of_pos (by simp)]

theorem BothPrepared.mem (h : BothPrepared column done s) (b : Bool) :
    liquidityCommandRow b (column b) (done b) ∈ s.commands := by
  rw [h.commands]
  cases b <;> simp

theorem BothPrepared.complete (h : BothPrepared column done s) {b : Bool} (hb : done b = false)
    {receipt : SimCommandReceiptRow} (hreceipt : receipt.receiptId = exampleReceiptId b)
    (hcommand : receipt.commandId = exampleCommandId b) (liquidity : SimLiquidityRow) {artifacts : Artifacts}
    (hlacks : ∀ m, m ≠ exampleReceiptMessage b → s.artifacts.Lacks m → artifacts.Lacks m) :
    BothPrepared column (Function.update done b true)
      ((s.insertReceipt receipt liquidity).markCompleted (exampleCommandId b) 0 artifacts) where
  columns := h.columns
  session := h.session
  trade := h.trade
  commands := by
    rw [SimJournal.markCompleted, SimJournal.insertReceipt]
    dsimp only
    rw [h.commands]
    rw [List.map_cons, List.map_cons, List.map_nil, liquidityCommandRow_complete, liquidityCommandRow_complete]
    cases b <;> simp
  receipts := by
    intro r hr
    rcases List.mem_cons.mp hr with rfl | hr
    · exact ⟨b, by simp, hreceipt, hcommand⟩
    · obtain ⟨c, hc, hids⟩ := h.receipts r hr
      refine ⟨c, ?_, hids⟩
      by_cases hcb : c = b
      · simp [hcb]
      · rwa [Function.update_of_ne hcb]
  lacks := by
    intro c hc
    have hcb : c ≠ b := by
      rintro rfl
      simp at hc
    rw [Function.update_of_ne hcb] at hc
    apply hlacks _ _ (h.lacks c hc)
    cases b <;> cases c <;> simp [exampleReceiptMessage] at hcb ⊢

/-- A prepared command is completed. -/
theorem BothPrepared.completes (h : BothPrepared column done s) {b : Bool} (hb : done b = false) (quantity : ℤ) :
    ∃ t, completeCommand exampleSimEnvironment contracts (liquidityCompletion b quantity) s =
      .ok (t, ⟨(liquidityCompletion b quantity).receipt, true⟩) ∧
      BothPrepared column (Function.update done b true) t := by
  have hrow := h.command b
  rw [hb] at hrow
  have hsha : ∀ b, isSha256 (exampleReceiptId b) = true := by decide +kernel
  have hdump : ∀ b : Bool, Jsonb.nulFree (if b then "entry" else "exit") = true := by decide
  have hmessage : ∀ b, Jsonb.nulFree (exampleReceiptMessage b) = true ∧ strip (exampleReceiptMessage b) ≠ "" := by
    decide +kernel
  have hidentity : assertPayloadIdentity (column b) (digest (liquidityCommand b).payload.value)
      (digest (liquidityCommand b).payload.value) "simulation command" = .ok () :=
    (@exampleDump_reloads _ (hdump b) 1).identity (h.columns b) _
  have hfresh : s.receiptOf (exampleCommandId b) = none := by
    apply List.find?_eq_none.mpr
    intro r hr hid
    obtain ⟨c, hc, -, hcommand⟩ := h.receipts r hr
    have hcb : c = b := exampleCommandId_inj.mp (hcommand.symm.trans (by simpa using hid))
    rw [hcb, hb] at hc
    cases hc
  have hcount : s.commands.countP (fun r => r.commandId = exampleCommandId b ∧ r.status = .prepared) = 1 := by
    rw [h.commands]
    cases b <;> simp [exampleCommandId_inj, hb]
  have haccepted : ∀ payload : JsonColumn, SimCommandReceiptRow.Accepted
      ⟨exampleReceiptId b, exampleCommandId b, exampleLineage.sessionId, exampleLineage.admissionId,
        exampleLineage.intentId, exampleLineage.tradeId, "FILLED",
        digest (exampleDump (exampleReceiptMessage b) (.int 1)).value, payload⟩ s := by
    intro payload
    refine ⟨hsha b, by simp, ⟨_, h.mem b, by simp, ?_⟩, ?_⟩
    · cases done b <;> exact ⟨rfl, rfl, rfl, rfl⟩
    · intro r hr
      obtain ⟨c, hc, hreceipt, hcommand⟩ := h.receipts r hr
      have hcb : c ≠ b := by
        rintro rfl
        rw [hb] at hc
        cases hc
      rw [hreceipt, hcommand, ne_eq, ne_eq, exampleReceiptId_inj, exampleCommandId_inj]
      exact ⟨hcb, hcb⟩
  obtain ⟨_, liquidity, artifacts, hcomplete, hothers⟩ :=
    @completeCommand_new exampleSimEnvironment contracts s (exampleReceiptMessage b) (liquidityCompletion b quantity)
      (exampleCommandId b) (exampleReceiptId b) { exampleLineage with side := "" } _ _
      (liquidityCompletion_check b quantity) hrow hidentity hfresh ((liquidityCommandRow_status _ _ _).mpr rfl) h.trade
      (fun _ => rfl) haccepted (consumedState_nulFree quantity) ⟨List.mem_cons_self, h.session⟩ rfl hcount
      (exampleDump_durable (hmessage b).1 (hmessage b).2 _) (h.lacks b hb)
  exact ⟨_, hcomplete, h.complete hb rfl rfl liquidity hothers⟩

/-- The trade is created and both of its commands are prepared. -/
theorem bothPrepared_example (contracts : SimulatorContracts) : ∃ column s,
    SimJournal.Reachable contracts AnyCall s ∧ BothPrepared column (fun _ => false) s ∧ s.liquidity = [] := by
  obtain ⟨tradeColumn, artifacts, htradeColumn, hcreate, hothers⟩ :=
    @createTrade_example exampleJournal rfl rfl rfl (exampleJournal_lacks _)
  set created : SimJournal :=
    { exampleJournal with trades := [tradeRow exampleLineage exampleSimTrade tradeColumn], artifacts := artifacts }
  have htrade : ∀ s : SimJournal, s.trades = created.trades →
      assertExactTrade s exampleSimCommand.trade exampleLineage.sessionId exampleLineage.tradeId = .ok () := by
    intro s htrades
    have hrow : s.trade exampleLineage.tradeId = some (tradeRow exampleLineage exampleSimTrade tradeColumn) := by
      rw [SimJournal.trade, htrades, List.find?_cons_of_pos]
      exact decide_eq_true rfl
    rw [assertExactTrade, hrow, found_some, ok_bind, require_pos (by rfl), ok_bind]
    exact (@exampleDump_reloads "trade" (by decide) 1).identity htradeColumn _
  have hsha : (∀ b, isSha256 (exampleCommandId b) = true) ∧ isSha256 exampleLineage.intentId = true := by decide +kernel
  have haccepted : ∀ (b : Bool) (s : SimJournal) (column : JsonColumn), s.trades = created.trades →
      (∀ r ∈ s.commands, r.commandId ≠ exampleCommandId b) →
      (simCommandRow (exampleCommandId b) exampleLineage (liquidityCommand b) column).Accepted s := by
    intro b s column htrades hcommands
    refine ⟨hsha.1 b, hsha.2, List.mem_cons_self, List.mem_cons_self, ?_, ?_, ?_, hcommands⟩
    · cases b <;> simp [simCommandRow, liquidityCommand]
    · cases b <;> simp [simCommandRow, liquidityCommand]
    · rw [htrades]
      exact ⟨_, List.mem_cons_self, rfl, rfl, rfl⟩
  obtain ⟨exitColumn, artifacts', hexitColumn, hexit, hmore⟩ :=
    @prepareCommand_new exampleSimEnvironment contracts created "exit" (liquidityCommand false)
      (exampleCommandId false) "LONG" exampleLineage rfl rfl (htrade created rfl) rfl
      (fun _ => haccepted false _ _ rfl (fun r hr => absurd hr List.not_mem_nil))
      (exampleDump_durable (by decide) (by decide) _) (hothers "exit" (by decide) (exampleJournal_lacks _))
  set exited : SimJournal :=
    { created with
      commands := [simCommandRow (exampleCommandId false) exampleLineage (liquidityCommand false) exitColumn]
      artifacts := artifacts' }
  have hfresh : ∀ r ∈ exited.commands, r.commandId ≠ exampleCommandId true := by
    intro r hr
    rw [List.mem_singleton.mp hr]
    exact fun h => absurd (exampleCommandId_inj.mp h) Bool.false_ne_true
  obtain ⟨entryColumn, artifacts'', hentryColumn, hentry, hlast⟩ :=
    @prepareCommand_new exampleSimEnvironment contracts exited "entry" (liquidityCommand true)
      (exampleCommandId true) "LONG" exampleLineage rfl rfl (htrade exited rfl)
      (List.find?_eq_none.mpr fun r hr => by simpa using hfresh r hr)
      (fun _ => haccepted true _ _ rfl hfresh) (exampleDump_durable (by decide) (by decide) _)
      (hmore "entry" (by decide) (hothers "entry" (by decide) (exampleJournal_lacks _)))
  have hcreated : SimJournal.Reachable contracts AnyCall _ :=
    Runs.Reachable.next (.start exampleJournal_initial) (.call exampleSimEnvironment (.createTrade exampleSimTrade) trivial)
  rw [SimulatorCall.run, Transactions.run_ok hcreate] at hcreated
  have hexited : exited.Reachable contracts AnyCall := by
    have hnext := hcreated.next (.call exampleSimEnvironment (.prepareCommand (liquidityCommand false)) trivial)
    rw [SimulatorCall.run, Transactions.run_ok hexit] at hnext
    exact hnext
  have hentered := hexited.next (.call exampleSimEnvironment (.prepareCommand (liquidityCommand true)) trivial)
  rw [SimulatorCall.run, Transactions.run_ok hentry] at hentered
  refine ⟨fun b => if b then entryColumn else exitColumn, _, hentered, ?_, rfl⟩
  exact {
    columns := fun b => by cases b; exacts [hexitColumn, hentryColumn]
    session := List.find?_isSome.mpr ⟨exampleSessionRow, List.mem_cons_self, decide_eq_true rfl⟩
    trade := htrade _ rfl
    commands := rfl
    receipts := fun r hr => absurd hr List.not_mem_nil
    lacks := by
      intro b _
      cases b
      · exact hlast _ (by decide) (hmore _ (by decide) (hothers _ (by decide) (exampleJournal_lacks _)))
      · exact hlast _ (by decide) (hmore _ (by decide) (hothers _ (by decide) (exampleJournal_lacks _))) }

theorem liquidityWorker_on (b : Bool) : (liquidityWorker b).On exampleLineage.sessionId exampleLineage.symbol := ⟨rfl, rfl⟩

/-- What the two kernels leave one after the other. -/
theorem consumed_serial {order : List Bool} (horder : order.Perm [false, true])
    {u w : Except SimulatorError (Option LiquiditySnapshot)} {start result : Option LiquiditySnapshot}
    (h : Serial (fun b => (liquidityWorker b).Updates) order u w) (hu : u = .ok start) (hw : w = .ok result) :
    consumedOf result = consumedOf start + 3 := by
  have hupdate : ∀ b {v v' : Except SimulatorError (Option LiquiditySnapshot)} {before after : Option LiquiditySnapshot},
      (liquidityWorker b).Updates v v' → v = .ok before → v' = .ok after →
      consumedOf after = consumedOf before + if b then 1 else 2 := by
    rintro b v v' before after ⟨loaded, row, hv, hrow, hv'⟩ hbefore hafter
    obtain rfl := Except.ok.inj (hv.symm.trans hbefore)
    exact consumedOf_loaded hrow (hv'.symm.trans hafter)
  have hnodup : order.Nodup := horder.nodup_iff.mpr (by decide)
  have hlength : order.length = 2 := horder.length_eq
  match order, hlength with
  | [i, j], _ =>
    obtain ⟨v, hj, hi⟩ := h.two
    obtain ⟨middle, hmiddle⟩ : ∃ middle, v = .ok middle := ⟨_, hi.choose_spec.choose_spec.1⟩
    have hfirst := hupdate j hj hu hmiddle
    have hsecond := hupdate i hi hmiddle hw
    have hij : i ≠ j := by simpa using hnodup
    cases i <;> cases j <;> simp at hij hfirst hsecond <;> omega

theorem exampleLiquidity_valid : validateSessionSymbol exampleLineage.sessionId exampleLineage.symbol = .ok () := by
  decide +kernel

theorem exampleLiquidity_empty {s : SimJournal} (h : s.liquidity = []) :
    loadLiquidityState exampleLineage.sessionId exampleLineage.symbol s = .ok none := by
  rw [loadLiquidityState, exampleLiquidity_valid, ok_bind, SimJournal.liquidityOf, h]
  rfl

/-- What a completion has stored is loaded. -/
theorem exampleLiquidity_stored {contracts : SimulatorContracts} {s t : SimJournal} {b : Bool} {quantity : ℤ}
    (h : completeCommand exampleSimEnvironment contracts (liquidityCompletion b quantity) s =
      .ok (t, ⟨(liquidityCompletion b quantity).receipt, true⟩)) :
    ∃ loaded, loadLiquidityState exampleLineage.sessionId exampleLineage.symbol t = .ok loaded ∧
      consumedOf loaded = quantity := by
  rcases completeCommand_ok h with ⟨hcreated, -⟩ | ⟨-, _, _, _, row, _, hc⟩
  · cases hcreated
  · obtain ⟨hrow, ht⟩ := hc.liquidity_eq
    obtain ⟨hsession, hsymbol⟩ := Completion.liquidityRow_on hrow
    have hsession : exampleLineage.sessionId = row.sessionId := Option.some.inj hsession
    have hsymbol : exampleLineage.symbol = row.symbol := Option.some.inj hsymbol
    have hload : loadLiquidityState exampleLineage.sessionId exampleLineage.symbol t = loadedFrom (some row) := by
      rw [loadLiquidityState, exampleLiquidity_valid, ok_bind, hsession, hsymbol, SimJournal.liquidityOf, ht,
        liquidityOf_upsert]
    obtain ⟨reread, hread, hdumps⟩ := consumedState_reloads quantity row.payload hc.liquidityColumn
    have hloaded : loadedFrom (some row) = .ok (some (row.stateSchemaVersion, reread)) := by
      rw [loadedFrom, storedObject_of_read hread hdumps, ok_bind,
        require_pos ((digest_congr hdumps).trans hc.liquidityRow.2.2.2.symm)]
      rfl
    exact ⟨_, hload.trans hloaded, consumedOf_loaded hrow hloaded⟩

/-- The entry and the exit are completed one after the other, and three units are consumed. -/
theorem liquidity_updates_example : ∃ (contracts : SimulatorContracts) (s t : LiquiditySystem Bool)
    (loaded : Option LiquiditySnapshot), s.Initial contracts ∧ t.committed = [false, true] ∧ s.NoLostUpdate liquidityWorker t ∧
      loadLiquidityState exampleLineage.sessionId exampleLineage.symbol t.journal = .ok loaded ∧
      consumedOf loaded = 3 := by
  obtain ⟨column, s, hs, hprepared, hliquidity⟩ := bothPrepared_example exampleContracts
  obtain ⟨t, hentry, hentered⟩ := @BothPrepared.completes column _ s exampleContracts hprepared true rfl 1
  obtain ⟨loaded, hloaded, hone⟩ := exampleLiquidity_stored hentry
  obtain ⟨u, hexit, -⟩ := @BothPrepared.completes column _ t exampleContracts hentered false rfl 3
  obtain ⟨result, hresult, hthree⟩ := exampleLiquidity_stored hexit
  have hcurrent : ∀ b {a : SimJournal} {v : Option LiquiditySnapshot},
      loadLiquidityState exampleLineage.sessionId exampleLineage.symbol a = .ok v →
      LoadedCurrent a (liquidityWorker b) v := by
    intro b a v hv sessionId symbol hon
    obtain ⟨rfl, rfl⟩ := (liquidityWorker_on b).eq hon
    exact hv
  have hrun : ReflTransGen (LiquidityStep liquidityWorker exampleContracts LoadedCurrent) ⟨s, fun _ => none, []⟩
      ⟨u, Function.update (Function.update (fun _ => none) true (some none)) false (some loaded), [false, true]⟩ := by
    have hzero := exampleLiquidity_empty hliquidity
    have hexecute : (liquidityWorker false).execute loaded = liquidityCompletion false 3 := by
      rw [show (liquidityWorker false).execute loaded = liquidityCompletion false (consumedOf loaded + 2) from rfl, hone]
      rfl
    exact .tail (.tail (.tail (.single (.load true _ _ none (liquidityWorker_on true) hzero))
      (.complete exampleSimEnvironment true none t ⟨_, true⟩ rfl hentry fun _ => hcurrent true hzero))
      (.load false _ _ loaded (liquidityWorker_on false) hloaded))
      (.complete exampleSimEnvironment false loaded u ⟨_, true⟩ rfl (hexecute ▸ hexit) fun _ => hcurrent false hloaded)
  have hinitial : LiquiditySystem.Initial exampleContracts (⟨s, fun _ => none, []⟩ : LiquiditySystem Bool) :=
    ⟨hs, fun _ => rfl, rfl⟩
  exact ⟨exampleContracts, _, _, result, hinitial, rfl, liquidity_updates hinitial hrun, hresult, hthree⟩

/-- Both workers load before one of them completes its command: both completions commit, and what the entry has
consumed is lost. -/
theorem liquidity_update_lost : ∃ (contracts : SimulatorContracts) (s t : LiquiditySystem Bool),
    s.Initial contracts ∧ ReflTransGen (LiquidityStep liquidityWorker contracts AnyCompletion) s t ∧
      t.committed = [false, true] ∧ ¬s.NoLostUpdate liquidityWorker t := by
  obtain ⟨column, s, hs, hprepared, hliquidity⟩ := bothPrepared_example exampleContracts
  obtain ⟨t, hentry, hentered⟩ := @BothPrepared.completes column _ s exampleContracts hprepared true rfl 1
  obtain ⟨u, hexit, -⟩ := @BothPrepared.completes column _ t exampleContracts hentered false rfl 2
  obtain ⟨result, hresult, htwo⟩ := exampleLiquidity_stored hexit
  have hzero := exampleLiquidity_empty hliquidity
  have hrun : ReflTransGen (LiquidityStep liquidityWorker exampleContracts AnyCompletion) ⟨s, fun _ => none, []⟩
      ⟨u, Function.update (Function.update (fun _ => none) true (some none)) false (some none), [false, true]⟩ :=
    .tail (.tail (.tail (.single (.load true _ _ none (liquidityWorker_on true) hzero))
      (.load false _ _ none (liquidityWorker_on false) hzero))
      (.complete exampleSimEnvironment true none t ⟨_, true⟩ rfl hentry fun _ => trivial))
      (.complete exampleSimEnvironment false none u ⟨_, true⟩ rfl hexit fun _ => trivial)
  refine ⟨exampleContracts, _, _, ⟨hs, fun _ => rfl, rfl⟩, hrun, rfl, fun hlost => ?_⟩
  obtain ⟨order, hperm, hserial⟩ := hlost exampleLineage.sessionId exampleLineage.symbol
  have horder : order.Perm [false, true] := hperm
  have hthree := consumed_serial horder hserial hzero hresult
  rw [htwo] at hthree
  exact absurd hthree (by decide)

end Example

end KairosPersistence
