import KairosPersistence.RecordedTapes

/-!
Which frame a simulation is given of a sealed tape: the columns select it, the
payload is what it gets.
-/

namespace KairosPersistence

open PythonJson PythonText
open Transactions (bind_ok require_ok found_ok ok_bind require_pos found_some)

section Selection

variable {contracts : TapeContracts} {s : SimTapes} {tapeId symbol : String} {asOfMs : ℤ} {tape : SimTape}
  {frame : RecordedBookFrame} {row : SimBookFrameRow}

/-- A frame that some question is answered with: the last one that its columns admit at its own time. -/
structure SimTape.Selectable (tape : SimTape) (row : SimBookFrameRow) : Prop where
  stored : row ∈ tape.bookFrames
  admitted : row.continuity = .admitted
  last : ∀ r ∈ tape.bookFrames, r.symbol = row.symbol → r.continuity = .admitted →
    r.persistedAtMs = row.persistedAtMs → r.tapeSequence ≤ row.tapeSequence

/-- The payload says of the symbol, the continuity and the time what the columns say. -/
structure RecordedBookFrame.Bears (frame : RecordedBookFrame) (row : SimBookFrameRow) : Prop where
  symbol : frame.symbol = row.symbol
  admitted : frame.continuity = .admitted
  persistedAtMs : frame.persistedAtMs ≤ row.persistedAtMs

theorem SimTape.latestFrame_selectable (h : tape.latestFrame symbol asOfMs = some row) :
    tape.Selectable row ∧ row.symbol = symbol ∧ row.persistedAtMs ≤ asOfMs := by
  obtain ⟨hmem, hcolumns⟩ := List.mem_filter.mp (KeyedRows.greatest_mem h)
  obtain ⟨hsymbol, hadmitted, hpersisted⟩ := of_decide_eq_true hcolumns
  refine ⟨⟨hmem, hadmitted, ?_⟩, hsymbol, hpersisted⟩
  intro r hr hsame hrAdmitted htime
  have hcandidate : r ∈ tape.bookFrames.filter fun r =>
      r.symbol = symbol ∧ r.continuity = .admitted ∧ r.persistedAtMs ≤ asOfMs :=
    List.mem_filter.mpr ⟨hr, decide_eq_true ⟨hsame.trans hsymbol, hrAdmitted, htime.trans_le hpersisted⟩⟩
  rcases Prod.Lex.toLex_le_toLex.mp (KeyedRows.le_of_greatest hcandidate h) with hlt | ⟨-, hle⟩
  · exact absurd htime hlt.ne
  · exact hle

/-- A selectable frame is given at its own time. -/
theorem SimTape.Selectable.latestFrame (h : tape.Selectable row) :
    tape.latestFrame row.symbol row.persistedAtMs = some row := by
  have hcandidate : row ∈ tape.bookFrames.filter fun r =>
      r.symbol = row.symbol ∧ r.continuity = .admitted ∧ r.persistedAtMs ≤ row.persistedAtMs :=
    List.mem_filter.mpr ⟨h.stored, decide_eq_true ⟨rfl, h.admitted, le_refl _⟩⟩
  cases hlatest : tape.latestFrame row.symbol row.persistedAtMs with
  | none =>
    rw [KeyedRows.greatest_eq_none.mp hlatest] at hcandidate
    cases hcandidate
  | some found =>
    obtain ⟨hfound, hsymbol, hpersisted⟩ := latestFrame_selectable hlatest
    have hsequences : found.tapeSequence = row.tapeSequence := by
      rcases Prod.Lex.toLex_le_toLex.mp (KeyedRows.le_of_greatest hcandidate hlatest) with hlt | ⟨htime, hle⟩
      · exact absurd hlt hpersisted.not_gt
      · exact le_antisymm (h.last found hfound.stored hsymbol hfound.admitted htime.symm) hle
    exact congrArg some (List.inj_on_of_nodup_map tape.frameKeys hfound.stored h.stored hsequences)

theorem loadLatestBookFrame_ok (htape : s.tapes tapeId = some tape)
    (h : loadLatestBookFrame contracts tapeId symbol asOfMs s = .ok (some frame)) :
    ∃ row, tape.latestFrame symbol asOfMs = some row ∧ storedBookFrame contracts row = .ok frame := by
  unfold loadLatestBookFrame at h
  obtain ⟨_, -, h⟩ := bind_ok h
  obtain ⟨_, -, h⟩ := bind_ok h
  obtain ⟨_, -, h⟩ := bind_ok h
  obtain ⟨found, hfound, h⟩ := bind_ok h
  obtain rfl : tape = found := Option.some.inj (htape.symm.trans (found_ok hfound))
  split at h
  · split at h
    · cases h
    · rename_i row hrow
      obtain ⟨stored, hstored, h⟩ := bind_ok h
      obtain rfl : stored = frame := Option.some.inj (Except.ok.inj h)
      exact ⟨row, hrow, hstored⟩
  · cases h

theorem loadLatestBookFrame_selectable {columns : TapeSealColumns} (hid : validateTapeId tapeId = .ok ())
    (htape : s.tapes tapeId = some tape) (hsealed : tape.state = .sealed columns) (h : tape.Selectable row)
    (hstored : storedBookFrame contracts row = .ok frame) :
    loadLatestBookFrame contracts tapeId row.symbol row.persistedAtMs s = .ok (some frame) := by
  obtain ⟨-, -, hsymbol, -, -, -, -, -, -, hpersisted, -⟩ := tape.framesChecked row h.stored
  rw [loadLatestBookFrame, hid, ok_bind, require_pos hsymbol, ok_bind, require_pos hpersisted.1, ok_bind, htape,
    found_some, ok_bind, hsealed]
  dsimp only
  rw [h.latestFrame]
  dsimp only
  rw [hstored]
  rfl

theorem validateTapeId_of_verify (h : verifyTape contracts tapeId s = .ok true) : validateTapeId tapeId = .ok () := by
  obtain ⟨_, hid, -⟩ := bind_ok h
  exact hid

/-- On a sealed tape that verifies, no question is answered with a frame of another symbol, of a barrier or of a later
time exactly when no selectable row has a payload that says otherwise. -/
theorem no_look_ahead_iff {columns : TapeSealColumns} (htape : s.tapes tapeId = some tape)
    (hsealed : tape.state = .sealed columns) (hverify : verifyTape contracts tapeId s = .ok true) :
    (∀ symbol asOfMs frame, loadLatestBookFrame contracts tapeId symbol asOfMs s = .ok (some frame) →
      frame.symbol = symbol ∧ frame.continuity = .admitted ∧ frame.persistedAtMs ≤ asOfMs) ↔
    ∀ row, tape.Selectable row → ∀ frame, storedBookFrame contracts row = .ok frame → frame.Bears row := by
  constructor
  · intro h row hrow frame hframe
    have hload := loadLatestBookFrame_selectable (validateTapeId_of_verify hverify) htape hsealed hrow hframe
    obtain ⟨hsymbol, hadmitted, hpersisted⟩ := h _ _ _ hload
    exact ⟨hsymbol, hadmitted, hpersisted⟩
  · intro h symbol asOfMs frame hload
    obtain ⟨row, hlatest, hstored⟩ := loadLatestBookFrame_ok htape hload
    obtain ⟨hselectable, hsymbol, hpersisted⟩ := SimTape.latestFrame_selectable hlatest
    have hbears := h row hselectable frame hstored
    exact ⟨hbears.symbol.trans hsymbol, hbears.admitted, hbears.persistedAtMs.trans hpersisted⟩

end Selection

section Editing

variable {contracts : TapeContracts} {tapeId : String} {tape edited : SimTape} {edit : SimBookFrameRow → SimBookFrameRow}

/-- An edit of the columns that select a frame. -/
structure EditsSelection (edit : SimBookFrameRow → SimBookFrameRow) : Prop where
  tapeSequence : ∀ r, (edit r).tapeSequence = r.tapeSequence
  frameSha256 : ∀ r, (edit r).frameSha256 = r.frameSha256
  chainSha256 : ∀ r, (edit r).chainSha256 = r.chainSha256
  rawPayloadSha256 : ∀ r, (edit r).rawPayloadSha256 = r.rawPayloadSha256
  frameContractVersion : ∀ r, (edit r).frameContractVersion = r.frameContractVersion
  sourceReason : ∀ r, (edit r).sourceReason = r.sourceReason
  rawPayloadText : ∀ r, (edit r).rawPayloadText = r.rawPayloadText
  payloadSha256 : ∀ r, (edit r).payloadSha256 = r.payloadSha256
  payload : ∀ r, (edit r).payload = r.payload

theorem EditsSelection.stored (h : EditsSelection edit) (row : SimBookFrameRow) :
    storedBookFrame contracts (edit row) = storedBookFrame contracts row := by
  simp only [storedBookFrame, h.frameSha256, h.rawPayloadSha256, h.frameContractVersion, h.sourceReason,
    h.rawPayloadText, h.payloadSha256, h.payload]

/-- The verifier does not see such an edit. -/
theorem EditsSelection.verify (h : EditsSelection edit) (hstate : edited.state = tape.state)
    (hcount : edited.bookFrameCount = tape.bookFrameCount) (hhead : edited.bookChainHeadSha256 = tape.bookChainHeadSha256)
    (hbars : edited.closedBars = tape.closedBars) (hframes : edited.bookFrames = tape.bookFrames.map edit) :
    edited.verify contracts tapeId = tape.verify contracts tapeId := by
  have hstep : (fun tail row => verifyFrame contracts tapeId tail (edit row)) = verifyFrame contracts tapeId := by
    funext tail row
    simp only [verifyFrame, h.stored, h.frameSha256, h.chainSha256]
  have hsort : (tape.bookFrames.map edit).insertionSort (·.tapeSequence ≤ ·.tapeSequence) =
      (tape.bookFrames.insertionSort (·.tapeSequence ≤ ·.tapeSequence)).map edit := by
    symm
    apply List.map_insertionSort
    intro a _ b _
    rw [h.tapeSequence, h.tapeSequence]
  unfold SimTape.verify
  rw [hstate, hcount, hhead, hbars, hframes, hsort]
  simp only [List.foldlM_map, hstep, List.length_map]

end Editing

section Example

def exampleStreamDump (p : String × Char) : ModelDump where
  fields := [("contract_version", .str "sim-book-frame.v1"), ("message_id", .str (exampleSha p.2)), ("symbol", .str p.1)]
  uniqueKeys := by
    rw [Json.uniqueKeys_obj]
    simp [Json.UniqueKeys]

def exampleStreamFrame (p : String × Char) (earlier : List (String × Char)) : RecordedBookFrame :=
  { exampleFrame with
    tapeSequence := earlier.length + 1
    symbol := p.1
    messageId := exampleSha p.2
    frameSha256 := some (exampleSha p.2)
    previousFrameSha256 := earlier.head?.map fun q => exampleSha q.2
    payload := exampleStreamDump p }

def exampleStreamFrames : List (String × Char) → List RecordedBookFrame
  | [] => []
  | p :: earlier => exampleStreamFrame p earlier :: exampleStreamFrames earlier

def exampleStreamRows : List (String × Char) → List SimBookFrameRow
  | [] => []
  | p :: earlier => bookFrameRow (exampleSha p.2) (exampleStreamFrame p earlier)
      ((exampleStreamRows earlier).head?.map (·.chainSha256)) (exampleColumnOf (exampleStreamDump p)) ::
    exampleStreamRows earlier

/-- The streams of the example, the last frame first. -/
def exampleStreams : List (String × Char) :=
  [("XRPUSDT", 'f'), ("BNBUSDT", 'e'), ("SOLUSDT", 'd'), ("ETHUSDT", 'c'), ("BTCUSDT", 'b')]

def exampleSymbolBar (symbol : String) : ClosedBarEvent :=
  { exampleBar with symbol := symbol, payload := exampleStreamDump (symbol, 'a') }

def exampleBarRow (symbol : String) : SimClosedBarRow :=
  closedBarRow "tape" (exampleSha 'a') (exampleSymbolBar symbol) none (exampleColumnOf (exampleStreamDump (symbol, 'a')))

theorem length_exampleStreamRows (streams : List (String × Char)) :
    (exampleStreamRows streams).length = streams.length := by
  induction streams with
  | nil => rfl
  | cons p earlier ih => rw [exampleStreamRows, List.length_cons, ih, List.length_cons]

theorem mem_exampleStreamRows {streams : List (String × Char)} {row : SimBookFrameRow} (h : row ∈ exampleStreamRows streams) :
    ∃ p earlier previous, p ∈ streams ∧ exampleStreamFrame p earlier ∈ exampleStreamFrames streams ∧
      row = bookFrameRow (exampleSha p.2) (exampleStreamFrame p earlier) previous (exampleColumnOf (exampleStreamDump p)) := by
  induction streams with
  | nil => cases h
  | cons p earlier ih =>
    rcases List.mem_cons.mp h with rfl | h
    · exact ⟨p, earlier, _, List.mem_cons_self, List.mem_cons_self, rfl⟩
    · obtain ⟨q, before, previous, hq, hframe, rfl⟩ := ih h
      exact ⟨q, before, previous, List.mem_cons_of_mem _ hq, List.mem_cons_of_mem _ hframe, rfl⟩

theorem mem_exampleStreamFrames {streams : List (String × Char)} {frame : RecordedBookFrame}
    (h : frame ∈ exampleStreamFrames streams) : ∃ p earlier, p ∈ streams ∧ frame = exampleStreamFrame p earlier := by
  induction streams with
  | nil => cases h
  | cons p earlier ih =>
    rcases List.mem_cons.mp h with rfl | h
    · exact ⟨p, earlier, List.mem_cons_self, rfl⟩
    · obtain ⟨q, before, hq, rfl⟩ := ih h
      exact ⟨q, before, List.mem_cons_of_mem _ hq, rfl⟩

theorem exampleStreamRows_chain {streams : List (String × Char)} (h : (streams.map Prod.fst).Nodup) :
    FrameChain "tape" (exampleStreamRows streams) := by
  induction streams with
  | nil => exact .empty
  | cons p earlier ih =>
    obtain ⟨hnew, hearlier⟩ := List.nodup_cons.mp h
    refine (ih hearlier).append ?_ ?_ ?_ rfl ?_
    · intro row hrow
      obtain ⟨_, _, _, -, -, rfl⟩ := mem_exampleStreamRows hrow
      rfl
    · rw [length_exampleStreamRows]
      rfl
    · cases earlier <;> rfl
    · have hnone : (exampleStreamRows earlier).filter (·.symbol = p.1) = [] := by
        refine List.filter_eq_nil_iff.mpr fun row hrow hsymbol => ?_
        obtain ⟨q, _, _, hq, -, rfl⟩ := mem_exampleStreamRows hrow
        exact hnew (List.mem_map.mpr ⟨q, hq, of_decide_eq_true hsymbol⟩)
      intro r hr
      have hr : r ∈ ((exampleStreamRows earlier).filter (·.symbol = p.1)).head? := hr
      rw [hnone] at hr
      cases hr

theorem exampleStreamDump_nulFree {p : String × Char} (hsymbol : Jsonb.nulFree p.1 = true)
    (hsha : Jsonb.nulFree (exampleSha p.2) = true) : (exampleStreamDump p).value.everyString Jsonb.nulFree := by
  simp [exampleStreamDump, ModelDump.value, Json.everyString, Json.everyStringFields, hsymbol, hsha]
  decide

theorem exampleStreamDump_reloads {p : String × Char} (h : (exampleStreamDump p).value.everyString Jsonb.nulFree) :
    Reloads (exampleStreamDump p).value := by
  refine (reloads_iff h).mpr ?_
  intro n hn
  simp [exampleStreamDump, ModelDump.value, Json.numbers, Json.numbersFields] at hn

theorem exampleStreamDump_column {p : String × Char} (h : (exampleStreamDump p).value.everyString Jsonb.nulFree) :
    Jsonb.jsonbIn (dumps (exampleStreamDump p).value) = some (exampleColumnOf (exampleStreamDump p)) := by
  rw [exampleColumnOf, Jsonb.jsonbIn_dumps h]
  rfl

theorem exampleStreams_nulFree : ∀ p ∈ exampleStreams, (exampleStreamDump p).value.everyString Jsonb.nulFree := by
  intro p hp
  have h : ∀ p ∈ exampleStreams, Jsonb.nulFree p.1 = true ∧ Jsonb.nulFree (exampleSha p.2) = true := by decide +kernel
  exact exampleStreamDump_nulFree (h p hp).1 (h p hp).2

theorem exampleBars_nulFree : ∀ symbol ∈ simulationSymbols,
    (exampleStreamDump (symbol, 'a')).value.everyString Jsonb.nulFree := by
  intro symbol hsymbol
  have h : ∀ symbol ∈ simulationSymbols, Jsonb.nulFree symbol = true ∧ Jsonb.nulFree (exampleSha 'a') = true := by
    decide +kernel
  exact exampleStreamDump_nulFree (h symbol hsymbol).1 (h symbol hsymbol).2

/-- The symbol of a payload. -/
def payloadSymbol : PyJson → Option String
  | .obj fields => match getField fields "symbol" with
    | .str symbol => some symbol
    | _ => none
  | _ => none

theorem payloadSymbol_dump {p : String × Char} {v : PyJson} (h : dumps v = dumps (exampleStreamDump p).value) :
    payloadSymbol v = some p.1 := by
  obtain ⟨fields, rfl⟩ := eq_obj_of_dumps h
  have hfield : getField fields "symbol" = .str p.1 :=
    sortKeys_eq_str (getField_congr h (exampleStreamDump p).uniqueKeys "symbol")
  rw [payloadSymbol, hfield]

theorem exampleBarRow_checked {symbol : String} (h : symbol ∈ simulationSymbols) : (exampleBarRow symbol).Checked := by
  have hsha : isSha256 (exampleSha 'a') = true := by decide +kernel
  refine ⟨h, ?_, ?_, ?_, ?_, hsha, ?_⟩
  all_goals simp [exampleBarRow, closedBarRow, exampleSymbolBar, exampleBar, bigint]

theorem exampleStreamRow_checked {p : String × Char} {earlier : List (String × Char)} {previous : Option String}
    {column : JsonColumn} (hsymbol : p.1 ∈ simulationSymbols) (hlength : earlier.length < 5)
    (hshas : ∀ q ∈ p :: earlier, isSha256 (exampleSha q.2) = true) :
    (bookFrameRow (exampleSha p.2) (exampleStreamFrame p earlier) previous column).Checked := by
  have hsha : isSha256 (exampleSha 'c') = true := by decide +kernel
  have hepoch : btrimEmpty "epoch" = false := by decide
  have hsequence : bigint ((earlier.length : ℤ) + 1) := ⟨by omega, by omega⟩
  refine ⟨by simp only [bookFrameRow, exampleStreamFrame]; omega, hsequence, hsymbol, hepoch, ?_, ?_, ?_, ?_, ?_, ?_,
    hshas p List.mem_cons_self, ?_, hsha, Or.inl ⟨rfl, rfl, rfl⟩⟩
  · simp [bookFrameRow, exampleStreamFrame, exampleFrame]
  · simp [bookFrameRow, exampleStreamFrame, exampleFrame, bigint]
  · simp [bookFrameRow, exampleStreamFrame, exampleFrame, bigint]
  · simp [bookFrameRow, exampleStreamFrame, exampleFrame]
  · simp [bookFrameRow, exampleStreamFrame, exampleFrame]
  · simp [bookFrameRow, exampleStreamFrame, exampleFrame, bigint]
  · intro sha hsha
    obtain ⟨q, hq, rfl⟩ := Option.map_eq_some_iff.mp hsha
    exact hshas q (List.mem_cons_of_mem _ (List.mem_of_mem_head? hq))

theorem exampleStreamRows_checked : ∀ r ∈ exampleStreamRows exampleStreams, r.Checked := by
  have hshas : ∀ q ∈ exampleStreams, isSha256 (exampleSha q.2) = true := by decide +kernel
  have hsuffix : ∀ streams : List (String × Char), streams <:+ exampleStreams → ∀ r ∈ exampleStreamRows streams, r.Checked := by
    intro streams
    induction streams with
    | nil => simp [exampleStreamRows]
    | cons p earlier ih =>
      intro h
      have hearlier : earlier <:+ exampleStreams := (List.suffix_cons p earlier).trans h
      have hsymbols : ∀ q ∈ exampleStreams, q.1 ∈ simulationSymbols := by decide
      refine List.forall_mem_cons.mpr ⟨?_, ih hearlier⟩
      apply exampleStreamRow_checked
      · exact hsymbols p (h.subset List.mem_cons_self)
      · have := h.length_le
        simp [exampleStreams] at this
        omega
      · exact fun q hq => hshas q (h.subset hq)
  exact hsuffix _ List.suffix_rfl

/-- The tape with a bar and a frame of every symbol. -/
def exampleRecordedTape : SimTape where
  state := .open
  bookFrameCount := 5
  bookChainHeadSha256 := (exampleStreamRows exampleStreams).head?.map (·.chainSha256)
  closedBars := simulationSymbols.map exampleBarRow
  bookFrames := exampleStreamRows exampleStreams
  barKeys := by
    rw [List.map_map]
    exact List.Nodup.map (fun _ _ h => (Prod.mk.inj h).1) (by decide)
  barsChecked := by
    intro r hr
    obtain ⟨symbol, hsymbol, rfl⟩ := List.mem_map.mp hr
    exact exampleBarRow_checked hsymbol
  frameKeys := by
    have hchain : FrameChain "tape" (exampleStreamRows exampleStreams) := exampleStreamRows_chain (by decide)
    exact List.pairwise_map.mpr (hchain.pairwise.imp fun hlt => hlt.ne')
  framesChecked := exampleStreamRows_checked

def exampleTapeSeal : SimulationTapeSeal where
  tapeSha256 := some (exampleSha '0')
  barChains := exampleRecordedTape.barHeads
  bookChain := exampleRecordedTape.bookChain
  payload := exampleDump "seal" (.int 1)

def exampleSealColumns : TapeSealColumns :=
  ⟨exampleSha '0', digest exampleTapeSeal.payload.value, exampleColumnOf exampleTapeSeal.payload⟩

def exampleSealedTape : SimTape := { exampleRecordedTape with state := .sealed exampleSealColumns }

def exampleStreamContracts : TapeContracts where
  bar v := (payloadSymbol v).map exampleSymbolBar
  frame _ v := (payloadSymbol v).bind fun symbol => (exampleStreamFrames exampleStreams).find? (·.symbol = symbol)
  tapeSeal v := if dumps v = dumps exampleTapeSeal.payload.value then some exampleTapeSeal else none
  newTapeSeal _ := none

theorem exampleStreamContracts_reads : exampleStreamContracts.Reads (∃ symbol ∈ simulationSymbols, · = exampleSymbolBar symbol)
    (· ∈ exampleStreamFrames exampleStreams) where
  bar := by
    rintro _ ⟨symbol, hsymbol, rfl⟩
    refine ⟨exampleStreamDump_reloads (exampleBars_nulFree symbol hsymbol), fun v hv => ?_⟩
    dsimp only [exampleStreamContracts]
    rw [payloadSymbol_dump hv]
    rfl
  frame := by
    intro frame hframe
    obtain ⟨p, earlier, hp, rfl⟩ := mem_exampleStreamFrames hframe
    refine ⟨exampleStreamDump_reloads (exampleStreams_nulFree p hp), rfl, fun v hv => ?_⟩
    dsimp only [exampleStreamContracts]
    rw [payloadSymbol_dump hv, Option.bind_some]
    have hsymbols : ((exampleStreamFrames exampleStreams).map (·.symbol)).Nodup := by decide
    exact KeyedRows.find?_eq hsymbols hframe
  tapeSeal := by
    intro manifest tapeSeal h
    cases h

theorem exampleBarRow_of {symbol : String} (h : symbol ∈ simulationSymbols) :
    (exampleBarRow symbol).Of (exampleSymbolBar symbol) :=
  closedBarRow_of rfl (exampleStreamDump_column (exampleBars_nulFree symbol h))

theorem exampleRecordedTape_recorded : exampleRecordedTape.Recorded exampleStreamContracts
    (∃ symbol ∈ simulationSymbols, · = exampleSymbolBar symbol) (· ∈ exampleStreamFrames exampleStreams) "tape" where
  bars := by
    intro r hr
    obtain ⟨symbol, hsymbol, rfl⟩ := List.mem_map.mp hr
    exact ⟨_, ⟨symbol, hsymbol, rfl⟩, exampleBarRow_of hsymbol⟩
  barChain symbol := by
    have hrows : exampleRecordedTape.barsOf symbol = (List.replicate (simulationSymbols.count symbol) symbol).map exampleBarRow := by
      rw [← List.filter_eq]
      exact List.filter_map
    have hcount := List.nodup_iff_count_le_one.mp (show simulationSymbols.Nodup by decide) symbol
    rw [hrows]
    interval_cases simulationSymbols.count symbol
    · exact .empty
    · exact BarChain.empty.append (by simp) rfl rfl
  frames := by
    intro r hr
    obtain ⟨p, earlier, previous, hp, hframe, rfl⟩ := mem_exampleStreamRows hr
    exact ⟨_, hframe, bookFrameRow_of rfl (exampleStreamDump_column (exampleStreams_nulFree p hp))⟩
  frameChain := exampleStreamRows_chain (by decide)
  bookFrameCount := rfl
  bookChainHead := rfl
  admitted := by
    intro _ r hr
    obtain ⟨_, _, _, -, -, rfl⟩ := mem_exampleStreamRows hr
    rfl
  sealed := by
    intro columns hstate
    cases hstate

theorem exampleRecordedTape_symbols (symbol : String) :
    symbol ∈ exampleRecordedTape.barHeads.map (·.symbol) ↔ symbol ∈ simulationSymbols := by
  constructor
  · intro hmem
    obtain ⟨head, hhead, rfl⟩ := List.mem_map.mp hmem
    obtain ⟨last, hlast, -⟩ := Option.map_eq_some_iff.mp (exampleRecordedTape_recorded.mem_barHeads.mp hhead)
    obtain ⟨hrow, hsymbol⟩ := List.mem_filter.mp (List.mem_of_mem_head? hlast)
    rw [← of_decide_eq_true hsymbol]
    exact (exampleRecordedTape.barsChecked last hrow).1
  · intro hsymbol
    have hrow : exampleBarRow symbol ∈ exampleRecordedTape.closedBars.filter (·.symbol = symbol) :=
      List.mem_filter.mpr ⟨List.mem_map_of_mem hsymbol, decide_eq_true rfl⟩
    obtain ⟨last, hlast⟩ := List.isSome_head?.mpr (List.ne_nil_of_mem hrow) |> Option.isSome_iff_exists.mp
    have hhead : barHead exampleRecordedTape.closedBars symbol = some
        ⟨symbol, (exampleRecordedTape.closedBars.filter (·.symbol = symbol)).length, last.chainSha256⟩ := by
      rw [barHead, hlast, Option.map_some]
    exact List.mem_map.mpr ⟨⟨symbol, _, last.chainSha256⟩, exampleRecordedTape_recorded.mem_barHeads.mpr hhead, rfl⟩

theorem exampleTapeSeal_stored (entity : String) : storedModel exampleStreamContracts.tapeSeal
    exampleSealColumns.sealPayload exampleSealColumns.sealPayloadSha256 entity = .ok exampleTapeSeal := by
  have hpayload : exampleTapeSeal.payload = exampleDump "seal" (.int 1) := rfl
  dsimp only [exampleSealColumns]
  rw [hpayload]
  refine (exampleDump_reloads (by decide) 1).model (exampleColumnOf_eq (by decide) _) (fun v hv => ?_) entity
  dsimp only [exampleStreamContracts]
  rw [hpayload, if_pos hv]

theorem exampleSealedTape_recorded : exampleSealedTape.Recorded exampleStreamContracts
    (∃ symbol ∈ simulationSymbols, · = exampleSymbolBar symbol) (· ∈ exampleStreamFrames exampleStreams) "tape" := by
  refine { exampleRecordedTape_recorded with admitted := ?_, sealed := ?_ }
  · intro hstate
    cases hstate
  · intro columns hstate
    obtain rfl : exampleSealColumns = columns := SimTapeState.sealed.inj hstate
    exact ⟨exampleTapeSeal, exampleTapeSeal_stored _, rfl, rfl, rfl, exampleRecordedTape_symbols⟩

/-- The edit of the time of the first frame. -/
def exampleEdit (r : SimBookFrameRow) : SimBookFrameRow :=
  if r.symbol = "BTCUSDT" then { r with toBookClock := { r.toBookClock with persistedAtMs := r.receivedAtMs } } else r

theorem exampleEdit_edits : EditsSelection exampleEdit := by
  constructor <;> intro r <;> unfold exampleEdit <;> split <;> rfl

def exampleEditedTape : SimTape :=
  { exampleSealedTape with
    bookFrames := (exampleStreamRows exampleStreams).map exampleEdit
    frameKeys := by
      rw [KeyedRows.map_key_update exampleEdit_edits.tapeSequence]
      exact exampleSealedTape.frameKeys
    framesChecked := by
      intro r hr
      obtain ⟨row, hrow, rfl⟩ := List.mem_map.mp hr
      have hchecked := exampleStreamRows_checked row hrow
      unfold exampleEdit
      split
      · obtain ⟨h₁, h₂, h₃, h₄, h₅, h₆, h₇, h₈, h₉, h₁₀, h⟩ := hchecked
        exact ⟨h₁, h₂, h₃, h₄, h₅, h₆, h₇, h₈, le_refl _, ⟨h₇.1.trans h₈, h₉.trans_lt h₁₀.2⟩, h⟩
      · exact hchecked }

def exampleEditedTapes : SimTapes := ⟨Function.update (fun _ => none) "tape" (some exampleEditedTape), ⟨[], Outbox.empty⟩⟩

theorem exampleEditedTapes_tape : exampleEditedTapes.tapes "tape" = some exampleEditedTape := by
  dsimp only [exampleEditedTapes]
  rw [Function.update_self]

theorem exampleEditedTape_verified : verifyTape exampleStreamContracts "tape" exampleEditedTapes = .ok true := by
  rw [verifyTape, show validateTapeId "tape" = .ok () by decide, ok_bind, exampleEditedTapes_tape]
  dsimp only
  have hsame : exampleEditedTape.verify exampleStreamContracts "tape" =
      exampleSealedTape.verify exampleStreamContracts "tape" := exampleEdit_edits.verify rfl rfl rfl rfl rfl
  exact hsame.trans (exampleSealedTape_recorded.verify exampleStreamContracts_reads)

def exampleFirst : String × Char := ("BTCUSDT", 'b')

/-- The row of the first frame, whose time was edited. -/
def exampleEditedRow : SimBookFrameRow :=
  exampleEdit (bookFrameRow (exampleSha exampleFirst.2) (exampleStreamFrame exampleFirst []) none
    (exampleColumnOf (exampleStreamDump exampleFirst)))

theorem exampleStreamRow_of {p : String × Char} {earlier : List (String × Char)} {previous : Option String}
    (hp : p ∈ exampleStreams) : (bookFrameRow (exampleSha p.2) (exampleStreamFrame p earlier) previous
      (exampleColumnOf (exampleStreamDump p))).Of (exampleStreamFrame p earlier) :=
  bookFrameRow_of rfl (exampleStreamDump_column (exampleStreams_nulFree p hp))

theorem exampleEditedRow_selectable : exampleEditedTape.Selectable exampleEditedRow where
  stored := by
    apply List.mem_map_of_mem
    simp only [exampleStreams, exampleStreamRows, List.mem_cons]
    exact Or.inr (Or.inr (Or.inr (Or.inr (Or.inl rfl))))
  admitted := rfl
  last := by
    intro r hr hsymbol _ _
    have hr : r ∈ (exampleStreamRows exampleStreams).map exampleEdit := hr
    simp only [exampleStreams, exampleStreamRows, List.map_cons, List.map_nil, List.mem_cons, List.not_mem_nil, or_false] at hr
    rcases hr with rfl | rfl | rfl | rfl | rfl
    · exact absurd hsymbol (by decide)
    · exact absurd hsymbol (by decide)
    · exact absurd hsymbol (by decide)
    · exact absurd hsymbol (by decide)
    · exact le_refl _

/-- The frame of a later time is given. -/
theorem exampleEditedTape_load : loadLatestBookFrame exampleStreamContracts "tape" exampleEditedRow.symbol
    exampleEditedRow.persistedAtMs exampleEditedTapes = .ok (some (exampleStreamFrame exampleFirst [])) := by
  have hframe : exampleStreamFrame exampleFirst [] ∈ exampleStreamFrames exampleStreams := by
    simp only [exampleStreams, exampleStreamFrames, List.mem_cons]
    exact Or.inr (Or.inr (Or.inr (Or.inr (Or.inl rfl))))
  have hstored : storedBookFrame exampleStreamContracts exampleEditedRow = .ok (exampleStreamFrame exampleFirst []) := by
    rw [exampleEditedRow, exampleEdit_edits.stored]
    exact (exampleStreamRow_of (by decide)).stored exampleStreamContracts_reads hframe
  exact loadLatestBookFrame_selectable (by decide) exampleEditedTapes_tape rfl exampleEditedRow_selectable hstored

theorem exampleFirst_late : ¬(exampleStreamFrame exampleFirst []).persistedAtMs ≤ exampleEditedRow.persistedAtMs := by
  decide

theorem no_look_ahead_iff_example : ¬∀ row, exampleEditedTape.Selectable row →
    ∀ frame, storedBookFrame exampleStreamContracts row = .ok frame → frame.Bears row := by
  intro h
  have hall := (no_look_ahead_iff exampleEditedTapes_tape rfl exampleEditedTape_verified).mpr h
  exact exampleFirst_late (hall _ _ _ exampleEditedTape_load).2.2

theorem look_ahead_on_edited_tape : ¬∀ (contracts : TapeContracts) (s : SimTapes) (tapeId symbol : String) (asOfMs : ℤ)
    (frame : RecordedBookFrame), verifyTape contracts tapeId s = .ok true →
    loadLatestBookFrame contracts tapeId symbol asOfMs s = .ok (some frame) →
    frame.symbol = symbol ∧ frame.continuity = .admitted ∧ frame.persistedAtMs ≤ asOfMs := by
  intro h
  exact exampleFirst_late (h _ _ _ _ _ _ exampleEditedTape_verified exampleEditedTape_load).2.2

end Example

end KairosPersistence
