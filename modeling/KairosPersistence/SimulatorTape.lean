import KairosPersistence.KeyedRows
import KairosPersistence.OperatorControl
import KairosPersistence.SimulatorCommands

/-!
`SimulationRepository` before a session: closed bars and book frames are recorded
on a tape, which a barrier blocks and a manifest seals.
-/

namespace KairosPersistence

open PythonJson PythonText
open Transactions (require found)

section Contracts

/-- `ClosedBarEventV1`. -/
structure ClosedBarEvent where
  symbol : String
  venue : String
  messageId : String
  barSha256 : Option String
  openTimeMs : ℤ
  closeTimeMs : ℤ
  payload : ModelDump

inductive BookContinuity where
  | admitted
  | gap
  | reconnect
  | unknown
  | unavailable
  deriving DecidableEq, Repr

def BookContinuity.text : BookContinuity → String
  | .admitted => "ADMITTED"
  | .gap => "GAP"
  | .reconnect => "RECONNECT"
  | .unknown => "UNKNOWN"
  | .unavailable => "UNAVAILABLE"

inductive BookFrameVersion where
  | v1
  | v2
  deriving DecidableEq, Repr

def BookFrameVersion.text : BookFrameVersion → String
  | .v1 => "sim-book-frame.v1"
  | .v2 => "sim-book-frame.v2"

/-- What `RecordedTopNBookFrameV2` has over `RecordedTopNBookFrameV1`. -/
structure BookFrameEvidence where
  sourceReason : String
  rawPayload : String
  deriving DecidableEq, Repr

/-- Where a stream is at a frame. -/
structure BookClock where
  streamEpoch : String
  exchangeUpdateId : ℤ
  exchangeAtMs : ℤ
  receivedAtMs : ℤ
  persistedAtMs : ℤ
  deriving DecidableEq, Repr

/-- `RecordedTopNBookFrameV1` or `RecordedTopNBookFrameV2`. -/
structure RecordedBookFrame extends BookClock where
  tapeId : String
  tapeSequence : ℤ
  symbol : String
  messageId : String
  frameSha256 : Option String
  previousFrameSha256 : Option String
  rawPayloadSha256 : String
  continuity : BookContinuity
  evidence : Option BookFrameEvidence
  payload : ModelDump

def RecordedBookFrame.version (frame : RecordedBookFrame) : BookFrameVersion :=
  if frame.evidence.isSome then .v2 else .v1

/-- `==` of two frames. -/
def RecordedBookFrame.equal (a b : RecordedBookFrame) : Bool :=
  a.toBookClock = b.toBookClock ∧ a.tapeId = b.tapeId ∧ a.tapeSequence = b.tapeSequence ∧ a.symbol = b.symbol ∧
    a.messageId = b.messageId ∧ a.frameSha256 = b.frameSha256 ∧ a.previousFrameSha256 = b.previousFrameSha256 ∧
    a.rawPayloadSha256 = b.rawPayloadSha256 ∧ a.continuity = b.continuity ∧ a.evidence = b.evidence ∧
    PythonJson.equal a.payload.value b.payload.value

/-- `SimulationChainHeadV1`. -/
structure SimulationChainHead where
  symbol : String
  entryCount : ℤ
  headSha256 : String
  deriving DecidableEq, Repr

/-- `SimulationBookChainHeadV1`. -/
structure SimulationBookChainHead where
  entryCount : ℤ
  headSha256 : Option String
  deriving DecidableEq, Repr

/-- `SimulationTapeSealV1`. -/
structure SimulationTapeSeal where
  tapeSha256 : Option String
  barChains : List SimulationChainHead
  bookChain : SimulationBookChainHead
  payload : ModelDump

/-- The arguments of the constructor of a seal. -/
structure TapeManifest where
  source : String
  tapeId : String
  sealedAtMs : ℤ
  barChains : List SimulationChainHead
  bookChain : SimulationBookChainHead

/-- `model_validate` of the contracts that are read back, and the constructor of a seal. -/
structure TapeContracts where
  bar : PyJson → Option ClosedBarEvent
  frame : BookFrameVersion → PyJson → Option RecordedBookFrame
  tapeSeal : PyJson → Option SimulationTapeSeal
  newTapeSeal : TapeManifest → Option SimulationTapeSeal

end Contracts

section Tables

/-- A row of `sim_closed_bars`. -/
structure SimClosedBarRow where
  symbol : String
  openTimeMs : ℤ
  closeTimeMs : ℤ
  barSha256 : String
  previousBarSha256 : Option String
  chainSha256 : String
  payloadSha256 : String
  payload : JsonColumn

/-- A row of `sim_book_frames`. -/
structure SimBookFrameRow extends BookClock where
  tapeSequence : ℤ
  symbol : String
  continuity : BookContinuity
  frameSha256 : String
  previousFrameSha256 : Option String
  chainSha256 : String
  rawPayloadSha256 : String
  frameContractVersion : String
  sourceReason : Option String
  rawPayloadText : Option String
  payloadSha256 : String
  payload : JsonColumn

/-- The columns of `sim_tapes` that a seal sets. -/
structure TapeSealColumns where
  tapeSha256 : String
  sealPayloadSha256 : String
  sealPayload : JsonColumn

inductive SimTapeState where
  | open
  | blocked (reason : String)
  | sealed (columns : TapeSealColumns)

def SimTapeState.isOpen : SimTapeState → Bool
  | .open => true
  | _ => false

/-- A value of a `BIGINT` column that is not negative. -/
def bigint (n : ℤ) : Prop := 0 ≤ n ∧ n < 2 ^ 63

instance (n : ℤ) : Decidable (bigint n) := inferInstanceAs (Decidable (_ ∧ _))

/-- The `CHECK`s of `sim_closed_bars`. -/
def SimClosedBarRow.Checked (row : SimClosedBarRow) : Prop :=
  row.symbol ∈ simulationSymbols ∧ bigint row.openTimeMs ∧ row.openTimeMs % 60000 = 0 ∧ bigint row.closeTimeMs ∧
    row.closeTimeMs = row.openTimeMs + 59999 ∧ isSha256 row.barSha256 = true ∧
    ∀ sha ∈ row.previousBarSha256, isSha256 sha = true

instance (row : SimClosedBarRow) : Decidable row.Checked := inferInstanceAs (Decidable (_ ∧ _))

/-- The rest of `^[A-Z][A-Z0-9]*(?:_[A-Z0-9]+)*$`, after an underscore or not. -/
def reasonTail : Bool → List Char → Bool
  | afterUnderscore, [] => !afterUnderscore
  | afterUnderscore, c :: cs =>
    if c = '_' then !afterUnderscore && reasonTail true cs else (c.isUpper || c.isDigit) && reasonTail false cs

def isSourceReason (s : String) : Bool :=
  match s.toList with
  | [] => false
  | c :: cs => c.isUpper && reasonTail false cs

/-- The `CHECK` of the raw evidence of a frame. -/
def SimBookFrameRow.RawEvidence (row : SimBookFrameRow) : Prop :=
  (row.frameContractVersion = "sim-book-frame.v1" ∧ row.sourceReason = none ∧ row.rawPayloadText = none) ∨
    (row.frameContractVersion = "sim-book-frame.v2" ∧ (∃ s ∈ row.sourceReason, isSourceReason s = true) ∧
      ∃ s ∈ row.rawPayloadText, s ≠ "")

/-- The `CHECK`s of `sim_book_frames`. -/
def SimBookFrameRow.Checked (row : SimBookFrameRow) : Prop :=
  0 < row.tapeSequence ∧ bigint row.tapeSequence ∧ row.symbol ∈ simulationSymbols ∧
    btrimEmpty row.streamEpoch = false ∧ 0 < row.exchangeUpdateId ∧ bigint row.exchangeUpdateId ∧
    bigint row.exchangeAtMs ∧ row.exchangeAtMs ≤ row.receivedAtMs ∧ row.receivedAtMs ≤ row.persistedAtMs ∧
    bigint row.persistedAtMs ∧ isSha256 row.frameSha256 = true ∧
    (∀ sha ∈ row.previousFrameSha256, isSha256 sha = true) ∧ isSha256 row.rawPayloadSha256 = true ∧ row.RawEvidence

instance (row : SimBookFrameRow) : Decidable row.RawEvidence := inferInstanceAs (Decidable (_ ∨ _))

instance (row : SimBookFrameRow) : Decidable row.Checked := inferInstanceAs (Decidable (_ ∧ _))

/-- A row of `sim_tapes` and what is recorded on it, the row inserted last first. -/
structure SimTape where
  state : SimTapeState
  bookFrameCount : ℤ
  bookChainHeadSha256 : Option String
  closedBars : List SimClosedBarRow
  bookFrames : List SimBookFrameRow
  barKeys : (closedBars.map fun r => (r.symbol, r.openTimeMs)).Nodup
  barsChecked : ∀ r ∈ closedBars, r.Checked
  frameKeys : (bookFrames.map (·.tapeSequence)).Nodup
  framesChecked : ∀ r ∈ bookFrames, r.Checked

/-- The tapes under their ids, and the public artifacts. -/
structure SimTapes where
  tapes : String → Option SimTape
  artifacts : Artifacts

def SimTapes.put (s : SimTapes) (tapeId : String) (tape : SimTape) : SimTapes :=
  { s with tapes := Function.update s.tapes tapeId (some tape) }

@[simp] theorem SimTapes.put_self (s : SimTapes) (tapeId : String) (tape : SimTape) :
    (s.put tapeId tape).tapes tapeId = some tape := by
  dsimp only [SimTapes.put]
  rw [Function.update_self]

namespace SimTape

def blank : SimTape where
  state := .open
  bookFrameCount := 0
  bookChainHeadSha256 := none
  closedBars := []
  bookFrames := []
  barKeys := .nil
  barsChecked := by simp
  frameKeys := .nil
  framesChecked := by simp

def barsOf (tape : SimTape) (symbol : String) : List SimClosedBarRow := tape.closedBars.filter (·.symbol = symbol)

def framesOf (tape : SimTape) (symbol : String) : List SimBookFrameRow := tape.bookFrames.filter (·.symbol = symbol)

def lastBar (tape : SimTape) (symbol : String) : Option SimClosedBarRow :=
  KeyedRows.greatest (·.openTimeMs) (tape.barsOf symbol)

def lastFrame (tape : SimTape) : Option SimBookFrameRow := KeyedRows.greatest (·.tapeSequence) tape.bookFrames

def lastFrameOf (tape : SimTape) (symbol : String) : Option SimBookFrameRow :=
  KeyedRows.greatest (·.tapeSequence) (tape.framesOf symbol)

/-- The constraints of `sim_closed_bars`. -/
def AcceptsBar (tape : SimTape) (row : SimClosedBarRow) : Prop :=
  row.Checked ∧ ∀ r ∈ tape.closedBars, r.symbol = row.symbol →
    r.openTimeMs ≠ row.openTimeMs ∧ r.barSha256 ≠ row.barSha256 ∧ r.chainSha256 ≠ row.chainSha256

instance (tape : SimTape) (row : SimClosedBarRow) : Decidable (tape.AcceptsBar row) :=
  inferInstanceAs (Decidable (_ ∧ _))

/-- The constraints of `sim_book_frames`. -/
def AcceptsFrame (tape : SimTape) (row : SimBookFrameRow) : Prop :=
  row.Checked ∧ ∀ r ∈ tape.bookFrames,
    r.tapeSequence ≠ row.tapeSequence ∧ r.frameSha256 ≠ row.frameSha256 ∧ r.chainSha256 ≠ row.chainSha256

instance (tape : SimTape) (row : SimBookFrameRow) : Decidable (tape.AcceptsFrame row) :=
  inferInstanceAs (Decidable (_ ∧ _))

def insertBar (tape : SimTape) (row : SimClosedBarRow) (h : tape.AcceptsBar row) : SimTape :=
  { tape with
    closedBars := row :: tape.closedBars
    barKeys := KeyedRows.nodup_cons tape.barKeys fun r hr hkey =>
      (h.2 r hr (Prod.mk.inj hkey).1).1 (Prod.mk.inj hkey).2
    barsChecked := List.forall_mem_cons.mpr ⟨h.1, tape.barsChecked⟩ }

/-- A frame and its `UPDATE` of the tape. -/
def insertFrame (tape : SimTape) (row : SimBookFrameRow) (h : tape.AcceptsFrame row) : SimTape :=
  { tape with
    state := if row.continuity = .admitted then tape.state else .blocked ("SOURCE_" ++ row.continuity.text)
    bookFrameCount := tape.bookFrameCount + 1
    bookChainHeadSha256 := some row.chainSha256
    bookFrames := row :: tape.bookFrames
    frameKeys := KeyedRows.nodup_cons tape.frameKeys fun r hr => (h.2 r hr).1
    framesChecked := List.forall_mem_cons.mpr ⟨h.1, tape.framesChecked⟩ }

end SimTape

end Tables

section Recording

/-- `_chain_sha256`. -/
def tapeChainSha256 (domain tapeId : String) (symbol previousChainSha256 : Option String) (leafSha256 : String) :
    String :=
  digest (.obj [("domain", .str domain), ("leaf_sha256", .str leafSha256),
    ("previous_chain_sha256", optStr previousChainSha256), ("symbol", optStr symbol), ("tape_id", .str tapeId)])

def barChainSha256 (tapeId symbol : String) (previous : Option String) (leaf : String) : String :=
  tapeChainSha256 "kairos.sim.closed-bar-chain.v1" tapeId (some symbol) previous leaf

def frameChainSha256 (tapeId : String) (previous : Option String) (leaf : String) : String :=
  tapeChainSha256 "kairos.sim.book-frame-chain.v1" tapeId none previous leaf

/-- `_validate_tape_id`. -/
def validateTapeId (tapeId : String) : Except SimulatorError Unit := validateText "tape_id" tapeId

/-- `_ensure_open_tape`. -/
def ensureOpenTape (tapeId : String) (s : SimTapes) : Except SimulatorError SimTape := do
  let inserted : Except SimulatorError SimTape := if btrimEmpty tapeId then .error .databaseError else .ok .blank
  let tape ← (s.tapes tapeId).elim inserted .ok
  require (tape.state.isOpen = true) (.valueError "simulation tape is not open for another immutable input")
  return tape

/-- The identifier that `_assert_payload_identity` compares. -/
def assertIdentifier (entity stored expected : String) : Except SimulatorError Unit :=
  require (stored = expected)
    (.messageIdentityConflict (entity ++ " stable identifier was reused with a different value"))

def closedBarRow (tapeId barSha256 : String) (bar : ClosedBarEvent) (previous : Option SimClosedBarRow)
    (column : JsonColumn) : SimClosedBarRow where
  symbol := bar.symbol
  openTimeMs := bar.openTimeMs
  closeTimeMs := bar.closeTimeMs
  barSha256 := barSha256
  previousBarSha256 := previous.map (·.barSha256)
  chainSha256 := barChainSha256 tapeId bar.symbol (previous.map (·.chainSha256)) barSha256
  payloadSha256 := digest bar.payload.value
  payload := column

/-- `record_closed_bar`. -/
def recordClosedBar (tapeId : String) (bar : ClosedBarEvent) (s : SimTapes) : Except SimulatorError (SimTapes × Bool) := do
  validateTapeId tapeId
  let canonical := SimulatorError.valueError "simulator accepts only canonical five-symbol Binance UM closed bars"
  require (bar.symbol ∈ simulationSymbols ∧ bar.venue = "BINANCE_UM") canonical
  let barSha256 ← found bar.barSha256 canonical
  require (bar.messageId = barSha256)
    (.valueError "simulator closed bar message_id must equal its immutable bar hash")
  let tape ← ensureOpenTape tapeId s
  match tape.closedBars.find? fun r => (r.symbol, r.openTimeMs) = (bar.symbol, bar.openTimeMs) with
  | some existing => do
    assertPayloadIdentity existing.payload existing.payloadSha256 (digest bar.payload.value) "simulation closed bar"
    assertIdentifier "simulation closed bar" existing.barSha256 barSha256
    return (s, false)
  | none => do
    let previous := tape.lastBar bar.symbol
    require (∀ r ∈ previous, bar.openTimeMs = r.closeTimeMs + 1)
      (.valueError "simulation tape closed bars must be a contiguous prefix")
    let column ← found (Jsonb.jsonbIn (canonicalPayload bar.payload.value).1) .databaseError
    if h : tape.AcceptsBar (closedBarRow tapeId barSha256 bar previous column) then
      return (s.put tapeId (tape.insertBar _ h), true)
    else .error .databaseError

/-- The model type of a stored frame. -/
def bookFrameVersion (payload : PyJson) : Except SimulatorError BookFrameVersion :=
  let unknown := SimulatorError.messageIdentityConflict "simulation book frame has an unknown contract version"
  match payload with
  | .obj fields => match getField fields "contract_version" with
    | .str version =>
      if version = BookFrameVersion.v1.text then .ok .v1
      else if version = BookFrameVersion.v2.text then .ok .v2
      else .error unknown
    | _ => .error unknown
  | _ => .error unknown

/-- `_stored_book_frame`. -/
def storedBookFrame (contracts : TapeContracts) (row : SimBookFrameRow) : Except SimulatorError RecordedBookFrame := do
  let payload ← storedObject row.payload
  require (digest payload = row.payloadSha256)
    (.messageIdentityConflict "simulation book frame stored payload hash does not match its durable JSON")
  let version ← bookFrameVersion payload
  let frame ← found (contracts.frame version payload)
    (.messageIdentityConflict "simulation book frame stored payload no longer satisfies its public contract")
  require (frame.frameSha256 = some row.frameSha256)
    (.messageIdentityConflict "simulation book frame identifier does not match durable payload")
  require (row.rawPayloadSha256 = frame.rawPayloadSha256)
    (.messageIdentityConflict "simulation book raw payload hash does not match durable payload")
  require (row.frameContractVersion = frame.version.text)
    (.messageIdentityConflict "simulation book contract version does not match durable payload")
  require (row.sourceReason = frame.evidence.map (·.sourceReason) ∧
      row.rawPayloadText = frame.evidence.map (·.rawPayload))
    (.messageIdentityConflict "simulation book raw evidence columns do not match durable payload")
  return frame

/-- `_assert_book_frame_storage`. -/
def assertBookFrameStorage (contracts : TapeContracts) (row : SimBookFrameRow) (expected : RecordedBookFrame) :
    Except SimulatorError Unit := do
  let actual ← storedBookFrame contracts row
  require (actual.equal expected = true)
    (.messageIdentityConflict "simulation book frame stable ID was reused with different evidence")

def bookFrameRow (frameSha256 : String) (frame : RecordedBookFrame) (previousChainSha256 : Option String)
    (column : JsonColumn) : SimBookFrameRow where
  toBookClock := frame.toBookClock
  tapeSequence := frame.tapeSequence
  symbol := frame.symbol
  continuity := frame.continuity
  frameSha256 := frameSha256
  previousFrameSha256 := frame.previousFrameSha256
  chainSha256 := frameChainSha256 frame.tapeId previousChainSha256 frameSha256
  rawPayloadSha256 := frame.rawPayloadSha256
  frameContractVersion := frame.version.text
  sourceReason := frame.evidence.map (·.sourceReason)
  rawPayloadText := frame.evidence.map (·.rawPayload)
  payloadSha256 := digest frame.payload.value
  payload := column

/-- The clocks or the update ids of a stream that goes on have gone back. -/
def BookClock.Regressed (next prior : BookClock) : Prop :=
  next.exchangeUpdateId ≤ prior.exchangeUpdateId ∨ next.exchangeAtMs < prior.exchangeAtMs ∨
    next.receivedAtMs < prior.receivedAtMs ∨ next.persistedAtMs < prior.persistedAtMs

instance (next prior : BookClock) : Decidable (next.Regressed prior) := inferInstanceAs (Decidable (_ ∨ _))

/-- The place of a frame after the last one of the tape; the chain that it extends. -/
def checkPredecessor (frame : RecordedBookFrame) : Option SimBookFrameRow → Except SimulatorError (Option String)
  | none => do
    require (frame.tapeSequence = 1 ∧ frame.previousFrameSha256 = none)
      (.valueError "a simulation book tape must start at global sequence one")
    return none
  | some previous => do
    require (frame.tapeSequence = previous.tapeSequence + 1)
      (.valueError "simulation book frames must have contiguous global tape sequences")
    require (frame.previousFrameSha256 = some previous.frameSha256)
      (.messageIdentityConflict "simulation book predecessor does not match the durable tape")
    return some previous.chainSha256

/-- The stream of a frame after the last one of its symbol. -/
def checkStream (frame : RecordedBookFrame) : Option SimBookFrameRow → Except SimulatorError Unit
  | none => .ok ()
  | some prior =>
    if frame.streamEpoch = prior.streamEpoch then
      require (¬frame.toBookClock.Regressed prior.toBookClock)
        (.valueError "simulation frame clocks or update IDs regressed for its symbol")
    else
      require (frame.continuity = .reconnect)
        (.valueError "a simulation stream epoch change must be recorded as a reconnect barrier")

/-- `record_book_frame`. -/
def recordBookFrame (contracts : TapeContracts) (frame : RecordedBookFrame) (s : SimTapes) :
    Except SimulatorError (SimTapes × Bool) := do
  let identity := SimulatorError.valueError "simulation book frame requires its canonical message and frame identity"
  let frameSha256 ← found frame.frameSha256 identity
  require (frame.messageId = frameSha256) identity
  let tape ← ensureOpenTape frame.tapeId s
  let payloadSha256 := digest frame.payload.value
  match tape.bookFrames.find? (·.tapeSequence = frame.tapeSequence) with
  | some existing => do
    assertPayloadIdentity existing.payload existing.payloadSha256 payloadSha256 "simulation book frame"
    assertIdentifier "simulation book frame" existing.frameSha256 frameSha256
    assertBookFrameStorage contracts existing frame
    return (s, false)
  | none =>
    match tape.bookFrames.find? (·.frameSha256 = frameSha256) with
    | some sameHash => do
      assertPayloadIdentity sameHash.payload sameHash.payloadSha256 payloadSha256 "simulation book frame"
      assertBookFrameStorage contracts sameHash frame
      .error (.messageIdentityConflict "simulation book frame was replayed at a different tape sequence")
    | none => do
      let previousChainSha256 ← checkPredecessor frame (tape.lastFrame)
      checkStream frame (tape.lastFrameOf frame.symbol)
      let column ← found (Jsonb.jsonbIn (canonicalPayload frame.payload.value).1) .databaseError
      if h : tape.AcceptsFrame (bookFrameRow frameSha256 frame previousChainSha256 column) then
        return (s.put frame.tapeId (tape.insertFrame _ h), true)
      else .error .databaseError

end Recording

section Cursor

/-- `SimulationBookSymbolCursor`. -/
structure BookSymbolCursor extends BookClock where
  symbol : String
  deriving DecidableEq, Repr

/-- `SimulationBookRecordingCursor`. -/
structure BookRecordingCursor where
  tapeId : String
  nextTapeSequence : ℤ
  previousFrameSha256 : Option String
  symbolCursors : List BookSymbolCursor
  deriving DecidableEq, Repr

/-- `SELECT DISTINCT ON (symbol)` of the last frame of each symbol. -/
def SimTape.lastFrames (tape : SimTape) : List SimBookFrameRow :=
  ((tape.bookFrames.map (·.symbol)).dedup.insertionSort (· ≤ ·)).filterMap
    fun symbol => tape.lastFrameOf symbol

def RecordedBookFrame.symbolCursor (frame : RecordedBookFrame) : BookSymbolCursor := ⟨frame.toBookClock, frame.symbol⟩

/-- `load_open_book_recording_cursor`. -/
def loadOpenBookRecordingCursor (contracts : TapeContracts) (tapeId : String) (s : SimTapes) :
    Except SimulatorError (Option BookRecordingCursor) := do
  validateTapeId tapeId
  match s.tapes tapeId with
  | none => return none
  | some tape => do
    require (tape.state.isOpen = true) (.valueError "simulation book recording cursor requires an open tape")
    let frames ← tape.lastFrames.mapM (storedBookFrame contracts)
    let symbolCursors := frames.map RecordedBookFrame.symbolCursor
    match tape.lastFrame with
    | none => return some ⟨tapeId, 1, none, []⟩
    | some tail => do
      let tailFrame ← storedBookFrame contracts tail
      let frameSha256 ← found tailFrame.frameSha256
        (.messageIdentityConflict "simulation book tail has no immutable frame identity")
      return some ⟨tapeId, tailFrame.tapeSequence + 1, some frameSha256,
        symbolCursors.insertionSort (·.symbol ≤ ·.symbol)⟩

end Cursor

section Sealing

/-- The bars of each symbol, counted, under the head of their chain. -/
def SimTape.barHeads (tape : SimTape) : List SimulationChainHead :=
  ((tape.closedBars.map (·.symbol)).dedup.insertionSort (· ≤ ·)).filterMap fun symbol =>
    (tape.lastBar symbol).map fun last =>
      ⟨symbol, (tape.barsOf symbol).length, last.chainSha256⟩

def SimTape.admittedSymbols (tape : SimTape) : List String :=
  ((tape.bookFrames.filter (·.continuity = .admitted)).map (·.symbol)).dedup

/-- The two lists have the same members. -/
def sameSymbols (a b : List String) : Bool := (∀ s ∈ a, s ∈ b) ∧ ∀ s ∈ b, s ∈ a

/-- `seal_tape`. -/
def sealTape (env : SimulatorEnvironment) (contracts : TapeContracts) (tapeId : String) (sealedAtMs : ℤ)
    (source : String) (s : SimTapes) : Except SimulatorError (SimTapes × SimulationTapeSeal) := do
  validateTapeId tapeId
  require (0 ≤ sealedAtMs)
    (.valueError "sealed_at_ms must be a non-negative integer Unix timestamp in milliseconds")
  validateText "source" source
  let tape ← found (s.tapes tapeId) (.keyError "unknown simulation tape")
  match tape.state with
  | .blocked _ => .error (.valueError "a simulation tape with a gap or reconnect barrier cannot seal")
  | .sealed columns => do
    let stored ← storedModel contracts.tapeSeal columns.sealPayload columns.sealPayloadSha256 "simulation tape seal"
    return (s, stored)
  | .open => do
    require (sameSymbols (tape.barHeads.map (·.symbol)) simulationSymbols = true)
      (.valueError "a simulation tape requires a closed-bar chain for all five symbols")
    require (sameSymbols tape.admittedSymbols simulationSymbols = true)
      (.valueError "a simulation tape requires admitted books for all five symbols")
    let tail ← found (tape.lastFrame)
      (.valueError "a simulation tape requires recorded top-N book frames")
    let manifest : TapeManifest :=
      ⟨source, tapeId, sealedAtMs, tape.barHeads, ⟨tape.bookFrames.length, some tail.chainSha256⟩⟩
    let tapeSeal ← found (contracts.newTapeSeal manifest) (.valueError "simulation tape seal violates its public contract")
    let column ← found (Jsonb.jsonbIn (canonicalPayload tapeSeal.payload.value).1) .databaseError
    let tapeSha256 ← found (tapeSeal.tapeSha256.filter isSha256) .databaseError
    let artifacts ← appendArtifact env "kairos.simulation.tape_seal.v1" tapeSeal.payload s.artifacts
    let columns : TapeSealColumns := ⟨tapeSha256, digest tapeSeal.payload.value, column⟩
    return ({ s.put tapeId { tape with state := .sealed columns } with artifacts := artifacts }, tapeSeal)

end Sealing

end KairosPersistence
