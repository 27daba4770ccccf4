import KairosPersistence.Runs
import KairosPersistence.TapeVerification

/-!
Runs of the recorders on the tapes: what a call writes, and what every tape keeps.
-/

namespace KairosPersistence

open PythonJson PythonText Relation
open Transactions (bind_ok require_ok found_ok run_spec)

inductive TapeCall where
  | recordClosedBar (tapeId : String) (bar : ClosedBarEvent)
  | recordBookFrame (frame : RecordedBookFrame)
  | sealTape (tapeId : String) (sealedAtMs : ℤ) (source : String)

/-- The tapes after a call, which commits or is rolled back. -/
def TapeCall.run (env : SimulatorEnvironment) (contracts : TapeContracts) (s : SimTapes) : TapeCall → SimTapes
  | .recordClosedBar tapeId bar => (Transactions.run (KairosPersistence.recordClosedBar tapeId bar) s).1
  | .recordBookFrame frame => (Transactions.run (KairosPersistence.recordBookFrame contracts frame) s).1
  | .sealTape tapeId sealedAtMs source =>
    (Transactions.run (KairosPersistence.sealTape env contracts tapeId sealedAtMs source) s).1

/-- What a call records is one of the bars or the frames. -/
def TapeCall.Records (bars : ClosedBarEvent → Prop) (frames : RecordedBookFrame → Prop) : TapeCall → Prop
  | .recordClosedBar _ bar => bars bar
  | .recordBookFrame frame => frames frame
  | .sealTape _ _ _ => True

/-- A call, or what others write to the audit log and the outbox. -/
inductive TapeStep (contracts : TapeContracts) (bars : ClosedBarEvent → Prop) (frames : RecordedBookFrame → Prop) :
    SimTapes → SimTapes → Prop
  | call {s} (env : SimulatorEnvironment) (call : TapeCall) (h : call.Records bars frames) :
    TapeStep contracts bars frames s (call.run env contracts s)
  | outside {s} (artifacts : Artifacts) : TapeStep contracts bars frames s { s with artifacts := artifacts }

/-- No tape is recorded yet. -/
def SimTapes.Initial (s : SimTapes) : Prop := ∀ tapeId, s.tapes tapeId = none

abbrev SimTapes.Reachable (contracts : TapeContracts) (bars : ClosedBarEvent → Prop)
    (frames : RecordedBookFrame → Prop) : SimTapes → Prop :=
  Runs.Reachable SimTapes.Initial (TapeStep contracts bars frames)

/-- A write to an open tape. -/
inductive TapeWrite (contracts : TapeContracts) (bars : ClosedBarEvent → Prop) (frames : RecordedBookFrame → Prop)
    (tapeId : String) (tape : SimTape) : SimTape → Prop
  | bar {row : SimClosedBarRow} {bar : ClosedBarEvent} (hbar : bars bar) (hof : row.Of bar)
    (hopen : ∀ r ∈ tape.lastBar row.symbol, row.openTimeMs = r.closeTimeMs + 1)
    (hprevious : row.previousBarSha256 = (tape.lastBar row.symbol).map (·.barSha256))
    (hchain : row.chainSha256 = barChainSha256 tapeId row.symbol
      ((tape.lastBar row.symbol).map (·.chainSha256)) row.barSha256)
    (h : tape.AcceptsBar row) : TapeWrite contracts bars frames tapeId tape (tape.insertBar row h)
  | frame {row : SimBookFrameRow} {frame : RecordedBookFrame} {previous : Option String} (hframe : frames frame)
    (htape : frame.tapeId = tapeId) (hof : row.Of frame)
    (hprevious : checkPredecessor frame (tape.lastFrame) = .ok previous)
    (hstream : checkStream frame (tape.lastFrameOf row.symbol) = .ok ())
    (hchain : row.chainSha256 = frameChainSha256 tapeId previous row.frameSha256)
    (h : tape.AcceptsFrame row) : TapeWrite contracts bars frames tapeId tape (tape.insertFrame row h)
  | manifest {manifest : TapeManifest} {tapeSeal : SimulationTapeSeal} {last : SimBookFrameRow}
    {columns : TapeSealColumns} (hbars : manifest.barChains = tape.barHeads)
    (hlast : tape.lastFrame = some last)
    (hframes : manifest.bookChain = ⟨tape.bookFrames.length, some last.chainSha256⟩)
    (hsymbols : sameSymbols (tape.barHeads.map (·.symbol)) simulationSymbols = true)
    (hseal : contracts.newTapeSeal manifest = some tapeSeal) (htapeSha256 : tapeSeal.tapeSha256 = some columns.tapeSha256)
    (hpayload : columns.sealPayloadSha256 = digest tapeSeal.payload.value)
    (hcolumn : Jsonb.jsonbIn (dumps tapeSeal.payload.value) = some columns.sealPayload) :
    TapeWrite contracts bars frames tapeId tape { tape with state := .sealed columns }

/-- A transaction has written to the tape of an id, which it found open or began. -/
structure TapeWritten (contracts : TapeContracts) (bars : ClosedBarEvent → Prop) (frames : RecordedBookFrame → Prop)
    (s t : SimTapes) (tapeId : String) : Prop where
  known : validateTapeId tapeId = .ok ()
  written : ∃ before after, (s.tapes tapeId = some before ∨ s.tapes tapeId = none ∧ before = .blank) ∧
    before.state.isOpen = true ∧ TapeWrite contracts bars frames tapeId before after ∧
    t.tapes = Function.update s.tapes tapeId (some after)

/-- What `record_closed_bar` checks of a bar alone. -/
structure ClosedBarEvent.Canonical (bar : ClosedBarEvent) : Prop where
  symbol : bar.symbol ∈ simulationSymbols
  venue : bar.venue = "BINANCE_UM"
  barSha256 : bar.barSha256 = some bar.messageId

/-- A stored bar is the one that is recorded again. -/
structure SimClosedBarRow.Recognises (row : SimClosedBarRow) (bar : ClosedBarEvent) : Prop where
  key : (row.symbol, row.openTimeMs) = (bar.symbol, bar.openTimeMs)
  payload : assertPayloadIdentity row.payload row.payloadSha256 (digest bar.payload.value) "simulation closed bar" = .ok ()
  barSha256 : bar.barSha256 = some row.barSha256

/-- A stored frame is the one that is recorded again. -/
structure SimBookFrameRow.Recognises (contracts : TapeContracts) (row : SimBookFrameRow) (frame : RecordedBookFrame) :
    Prop where
  tapeSequence : row.tapeSequence = frame.tapeSequence
  payload : assertPayloadIdentity row.payload row.payloadSha256 (digest frame.payload.value) "simulation book frame" =
    .ok ()
  frameSha256 : frame.frameSha256 = some row.frameSha256
  storage : assertBookFrameStorage contracts row frame = .ok ()

section Inversion

variable {env : SimulatorEnvironment} {contracts : TapeContracts} {bars : ClosedBarEvent → Prop}
  {frames : RecordedBookFrame → Prop} {s t : SimTapes} {tapeId : String}

theorem ensureOpenTape_ok {tape : SimTape} (h : ensureOpenTape tapeId s = .ok tape) :
    (s.tapes tapeId = some tape ∨ s.tapes tapeId = none ∧ tape = .blank) ∧ tape.state.isOpen = true := by
  obtain ⟨tape', htape, h⟩ := bind_ok h
  obtain ⟨_, hopen, h⟩ := bind_ok h
  have hopen := require_ok hopen
  obtain rfl : tape' = tape := Except.ok.inj h
  refine ⟨?_, hopen⟩
  cases hfound : s.tapes tapeId with
  | some stored =>
    rw [hfound] at htape
    exact Or.inl (congrArg some (Except.ok.inj htape))
  | none =>
    rw [hfound, Option.elim_none] at htape
    split at htape
    · cases htape
    · exact Or.inr ⟨rfl, (Except.ok.inj htape).symm⟩

/-- A bar is recognised, or it is written. -/
theorem recordClosedBar_ok {bar : ClosedBarEvent} {created : Bool} (hbar : bars bar)
    (h : recordClosedBar tapeId bar s = .ok (t, created)) :
    validateTapeId tapeId = .ok () ∧ bar.Canonical ∧ ∃ tape row, t.tapes tapeId = some tape ∧ row ∈ tape.closedBars ∧
      ((created = false ∧ t = s ∧ row.Recognises bar) ∨
        (created = true ∧ TapeWritten contracts bars frames s t tapeId ∧ row.Of bar)) := by
  unfold recordClosedBar at h
  obtain ⟨_, hid, h⟩ := bind_ok h
  dsimp only at h
  obtain ⟨_, hcanonical, h⟩ := bind_ok h
  obtain ⟨barSha256, hsha, h⟩ := bind_ok h
  obtain ⟨_, hmessage, h⟩ := bind_ok h
  obtain ⟨tape, hensure, h⟩ := bind_ok h
  have hcanonical := require_ok hcanonical
  have hsha := found_ok hsha
  have hmessage := require_ok hmessage
  obtain ⟨hfound, hopen⟩ := ensureOpenTape_ok hensure
  refine ⟨hid, ⟨hcanonical.1, hcanonical.2, by rw [hsha, hmessage]⟩, ?_⟩
  split at h
  · rename_i row hrow
    obtain ⟨hmem, hkey⟩ := KeyedRows.find?_mem hrow
    obtain ⟨_, hpayload, h⟩ := bind_ok h
    obtain ⟨_, hidentifier, h⟩ := bind_ok h
    have hidentifier := require_ok hidentifier
    obtain ⟨rfl, rfl⟩ := Prod.mk.inj (Except.ok.inj h)
    rcases hfound with hfound | ⟨-, rfl⟩
    · refine ⟨tape, row, hfound, hmem, Or.inl ⟨rfl, rfl, hkey, hpayload, ?_⟩⟩
      rw [hsha, hidentifier]
    · cases hmem
  · obtain ⟨_, hcontiguous, h⟩ := bind_ok h
    obtain ⟨column, hcolumn, h⟩ := bind_ok h
    split at h
    · rename_i haccepts
      obtain ⟨rfl, rfl⟩ := Prod.mk.inj (Except.ok.inj h)
      have hof : (closedBarRow tapeId barSha256 bar (tape.lastBar bar.symbol) column).Of bar :=
        closedBarRow_of hsha (found_ok hcolumn)
      refine ⟨_, _, Function.update_self _ _ _, List.mem_cons_self,
        Or.inr ⟨rfl, ⟨hid, tape, _, hfound, hopen, ?_, rfl⟩, hof⟩⟩
      exact .bar hbar hof (require_ok hcontiguous) rfl rfl haccepts
    · cases h

/-- A frame is recognised, or it is written. -/
theorem recordBookFrame_ok {frame : RecordedBookFrame} {created : Bool} (hframe : frames frame)
    (hid : validateTapeId frame.tapeId = .ok ()) (h : recordBookFrame contracts frame s = .ok (t, created)) :
    frame.frameSha256 = some frame.messageId ∧ ∃ tape row, t.tapes frame.tapeId = some tape ∧ row ∈ tape.bookFrames ∧
      ((created = false ∧ t = s ∧ row.Recognises contracts frame) ∨
        (created = true ∧ TapeWritten contracts bars frames s t frame.tapeId ∧ row.Of frame)) := by
  unfold recordBookFrame at h
  dsimp only at h
  obtain ⟨frameSha256, hsha, h⟩ := bind_ok h
  obtain ⟨_, hmessage, h⟩ := bind_ok h
  obtain ⟨tape, hensure, h⟩ := bind_ok h
  have hsha := found_ok hsha
  have hmessage := require_ok hmessage
  obtain ⟨hfound, hopen⟩ := ensureOpenTape_ok hensure
  refine ⟨by rw [hsha, hmessage], ?_⟩
  split at h
  · rename_i row hrow
    obtain ⟨hmem, hkey⟩ := KeyedRows.find?_mem hrow
    obtain ⟨_, hpayload, h⟩ := bind_ok h
    obtain ⟨_, hidentifier, h⟩ := bind_ok h
    obtain ⟨_, hstorage, h⟩ := bind_ok h
    have hidentifier := require_ok hidentifier
    obtain ⟨rfl, rfl⟩ := Prod.mk.inj (Except.ok.inj h)
    rcases hfound with hfound | ⟨-, rfl⟩
    · refine ⟨tape, row, hfound, hmem, Or.inl ⟨rfl, rfl, hkey, hpayload, ?_, hstorage⟩⟩
      rw [hsha, hidentifier]
    · cases hmem
  · split at h
    · obtain ⟨_, -, h⟩ := bind_ok h
      obtain ⟨_, -, h⟩ := bind_ok h
      cases h
    · obtain ⟨previous, hprevious, h⟩ := bind_ok h
      obtain ⟨_, hstream, h⟩ := bind_ok h
      obtain ⟨column, hcolumn, h⟩ := bind_ok h
      split at h
      · rename_i haccepts
        obtain ⟨rfl, rfl⟩ := Prod.mk.inj (Except.ok.inj h)
        have hof : (bookFrameRow frameSha256 frame previous column).Of frame :=
          bookFrameRow_of hsha (found_ok hcolumn)
        refine ⟨_, _, Function.update_self _ _ _, List.mem_cons_self,
          Or.inr ⟨rfl, ⟨hid, tape, _, hfound, hopen, ?_, rfl⟩, hof⟩⟩
        exact .frame hframe rfl hof hprevious hstream rfl haccepts
      · cases h

/-- A seal is read, or it is written. -/
theorem sealTape_ok {sealedAtMs : ℤ} {source : String} {tapeSeal : SimulationTapeSeal}
    (h : sealTape env contracts tapeId sealedAtMs source s = .ok (t, tapeSeal)) :
    t = s ∨ TapeWritten contracts bars frames s t tapeId := by
  unfold sealTape at h
  obtain ⟨_, hid, h⟩ := bind_ok h
  obtain ⟨_, -, h⟩ := bind_ok h
  obtain ⟨_, -, h⟩ := bind_ok h
  obtain ⟨tape, hfound, h⟩ := bind_ok h
  have hfound := found_ok hfound
  split at h
  · cases h
  · obtain ⟨_, -, h⟩ := bind_ok h
    exact Or.inl (Prod.mk.inj (Except.ok.inj h)).1.symm
  · rename_i hstate
    obtain ⟨_, hsymbols, h⟩ := bind_ok h
    obtain ⟨_, -, h⟩ := bind_ok h
    obtain ⟨last, hlast, h⟩ := bind_ok h
    obtain ⟨made, hmade, h⟩ := bind_ok h
    obtain ⟨column, hcolumn, h⟩ := bind_ok h
    obtain ⟨tapeSha256, hsha, h⟩ := bind_ok h
    obtain ⟨artifacts, -, h⟩ := bind_ok h
    obtain ⟨rfl, rfl⟩ := Prod.mk.inj (Except.ok.inj h)
    have hsha := (Option.filter_eq_some_iff.mp (found_ok hsha)).1
    refine Or.inr ⟨hid, tape, _, Or.inl hfound, by rw [hstate]; rfl, ?_, rfl⟩
    exact .manifest rfl (found_ok hlast) rfl (require_ok hsymbols) (found_ok hmade) hsha rfl (found_ok hcolumn)

/-- A call writes to one tape, or it changes none. -/
theorem TapeCall.written {call : TapeCall} (hrecords : call.Records bars frames)
    (hids : ∀ frame, frames frame → validateTapeId frame.tapeId = .ok ()) :
    (call.run env contracts s).tapes = s.tapes ∨
      ∃ tapeId, TapeWritten contracts bars frames s (call.run env contracts s) tapeId := by
  cases call with
  | recordClosedBar tapeId bar =>
    refine run_spec (p := fun t => t.tapes = s.tapes ∨ ∃ tapeId, TapeWritten contracts bars frames s t tapeId)
      (Or.inl rfl) fun t created h => ?_
    obtain ⟨-, -, tape, row, -, -, ⟨-, rfl, -⟩ | ⟨-, hwritten, -⟩⟩ := recordClosedBar_ok hrecords h
    · exact Or.inl rfl
    · exact Or.inr ⟨tapeId, hwritten⟩
  | recordBookFrame frame =>
    refine run_spec (p := fun t => t.tapes = s.tapes ∨ ∃ tapeId, TapeWritten contracts bars frames s t tapeId)
      (Or.inl rfl) fun t created h => ?_
    obtain ⟨-, tape, row, -, -, ⟨-, rfl, -⟩ | ⟨-, hwritten, -⟩⟩ := recordBookFrame_ok hrecords (hids frame hrecords) h
    · exact Or.inl rfl
    · exact Or.inr ⟨frame.tapeId, hwritten⟩
  | sealTape tapeId sealedAtMs source =>
    refine run_spec (p := fun t => t.tapes = s.tapes ∨ ∃ tapeId, TapeWritten contracts bars frames s t tapeId)
      (Or.inl rfl) fun t tapeSeal h => ?_
    rcases sealTape_ok h with rfl | hwritten
    · exact Or.inl rfl
    · exact Or.inr ⟨tapeId, hwritten⟩

theorem TapeStep.written (h : TapeStep contracts bars frames s t)
    (hids : ∀ frame, frames frame → validateTapeId frame.tapeId = .ok ()) :
    t.tapes = s.tapes ∨ ∃ tapeId, TapeWritten contracts bars frames s t tapeId := by
  cases h with
  | call env call hrecords => exact TapeCall.written hrecords hids
  | outside artifacts => exact Or.inl rfl

end Inversion

end KairosPersistence
