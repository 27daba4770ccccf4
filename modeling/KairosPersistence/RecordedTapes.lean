import KairosPersistence.SimulatorProgress
import KairosPersistence.TapeInvariants

/-!
What the recorders can rely on: every tape verifies and goes forward, what is
recorded again changes nothing, and a cursor can be continued.
-/

namespace KairosPersistence

open PythonJson PythonText Relation
open Transactions (bind_ok require_ok found_ok ok_bind require_pos found_some)

section Chains

variable {tapeId symbol : String}

theorem BarChain.contiguous {rows : List SimClosedBarRow} (h : BarChain tapeId symbol rows) :
    rows.IsChain fun next prior => next.openTimeMs = prior.closeTimeMs + 1 := by
  induction h with
  | empty => exact .nil
  | append chain hopen _ _ ih => exact List.isChain_cons.mpr ⟨hopen, ih⟩

theorem FrameChain.position {rows : List SimBookFrameRow} (h : FrameChain tapeId rows)
    {later earlier : List SimBookFrameRow} {row : SimBookFrameRow} (hrows : rows = later ++ row :: earlier) :
    row.tapeSequence = earlier.length + 1 := by
  induction h generalizing later with
  | empty => simp at hrows
  | append chain _ hsequence _ _ _ ih =>
    cases later with
    | nil =>
      obtain ⟨rfl, rfl⟩ := List.cons.inj hrows
      exact hsequence
    | cons _ later => exact ih (List.cons.inj hrows).2

/-- The update ids rise, and no clock goes back. -/
structure BookClock.Advances (next prior : BookClock) : Prop where
  exchangeUpdateId : prior.exchangeUpdateId < next.exchangeUpdateId
  exchangeAtMs : prior.exchangeAtMs ≤ next.exchangeAtMs
  receivedAtMs : prior.receivedAtMs ≤ next.receivedAtMs
  persistedAtMs : prior.persistedAtMs ≤ next.persistedAtMs

theorem BookClock.advances_iff {next prior : BookClock} : next.Advances prior ↔ ¬next.Regressed prior := by
  unfold BookClock.Regressed
  constructor
  · rintro ⟨h₁, h₂, h₃, h₄⟩
    omega
  · intro h
    constructor <;> omega

theorem BookClock.Advances.trans {a b c : BookClock} (hab : a.Advances b) (hbc : b.Advances c) : a.Advances c where
  exchangeUpdateId := hbc.exchangeUpdateId.trans hab.exchangeUpdateId
  exchangeAtMs := hbc.exchangeAtMs.trans hab.exchangeAtMs
  receivedAtMs := hbc.receivedAtMs.trans hab.receivedAtMs
  persistedAtMs := hbc.persistedAtMs.trans hab.persistedAtMs

/-- The last frame of a symbol, of those before a frame. -/
theorem FrameChain.last {earlier : List SimBookFrameRow} {row r : SimBookFrameRow}
    (h : FrameChain tapeId (row :: earlier)) (hr : r ∈ earlier) (hsymbol : row.symbol = r.symbol) :
    ∃ prior rest, earlier.filter (·.symbol = row.symbol) = prior :: rest ∧ row.Follows prior ∧ (r = prior ∨ r ∈ rest) := by
  have hmem : r ∈ earlier.filter (·.symbol = row.symbol) := List.mem_filter.mpr ⟨hr, decide_eq_true hsymbol.symm⟩
  cases h with
  | append chain _ _ _ _ hstream =>
    cases hfilter : earlier.filter (·.symbol = row.symbol) with
    | nil =>
      rw [hfilter] at hmem
      cases hmem
    | cons prior rest =>
      rw [hfilter] at hmem hstream
      exact ⟨prior, rest, rfl, hstream prior rfl, List.mem_cons.mp hmem⟩

/-- A stream that no barrier has ended has one epoch. -/
theorem FrameChain.epoch {rows : List SimBookFrameRow} (h : FrameChain tapeId rows)
    (hadmitted : ∀ r ∈ rows, r.continuity = .admitted) :
    rows.Pairwise fun next prior => next.symbol = prior.symbol → next.streamEpoch = prior.streamEpoch := by
  induction h with
  | empty => exact .nil
  | @append earlier row chain hearlier hsequence hprevious hchain hstream ih =>
    have ih := ih hearlier
    refine List.pairwise_cons.mpr ⟨fun r hr hsymbol => ?_, ih⟩
    have hrow := FrameChain.append chain hearlier hsequence hprevious hchain hstream
    obtain ⟨prior, rest, hfilter, hfollows, hr⟩ := hrow.last hr hsymbol
    have hepoch : row.streamEpoch = prior.streamEpoch := by
      by_contra hne
      unfold SimBookFrameRow.Follows at hfollows
      rw [if_neg hne, hadmitted row List.mem_cons_self] at hfollows
      cases hfollows
    rcases hr with rfl | hr
    · exact hepoch
    · have hpairs := ih.filter (·.symbol = row.symbol)
      rw [hfilter] at hpairs
      have hprior : prior ∈ earlier.filter (·.symbol = row.symbol) := hfilter ▸ List.mem_cons_self
      have hpriorSymbol := of_decide_eq_true (List.mem_filter.mp hprior).2
      exact hepoch.trans ((List.pairwise_cons.mp hpairs).1 r hr (hpriorSymbol.trans hsymbol))

/-- Within an epoch of a symbol the clocks advance. -/
theorem FrameChain.advances {rows : List SimBookFrameRow} (h : FrameChain tapeId rows) :
    rows.Pairwise fun next prior => next.symbol = prior.symbol → next.streamEpoch = prior.streamEpoch →
      next.toBookClock.Advances prior.toBookClock := by
  induction h with
  | empty => exact .nil
  | @append earlier row chain hearlier hsequence hprevious hchain hstream ih =>
    refine List.pairwise_cons.mpr ⟨fun r hr hsymbol hepoch => ?_, ih⟩
    have hrow := FrameChain.append chain hearlier hsequence hprevious hchain hstream
    obtain ⟨prior, rest, hfilter, hfollows, hr⟩ := hrow.last hr hsymbol
    have hprior : prior ∈ earlier.filter (·.symbol = row.symbol) := hfilter ▸ List.mem_cons_self
    have hpriorSymbol : prior.symbol = r.symbol := (of_decide_eq_true (List.mem_filter.mp hprior).2).trans hsymbol
    have hpriorEpoch : r = prior ∨ r ∈ rest → prior.streamEpoch = r.streamEpoch := by
      rintro (rfl | hr)
      · rfl
      · have hpairs := (chain.epoch hearlier).filter (·.symbol = row.symbol)
        rw [hfilter] at hpairs
        exact (List.pairwise_cons.mp hpairs).1 r hr hpriorSymbol
    have hlast : row.toBookClock.Advances prior.toBookClock := by
      unfold SimBookFrameRow.Follows at hfollows
      rw [if_pos (hepoch.trans (hpriorEpoch hr).symm)] at hfollows
      exact BookClock.advances_iff.mpr hfollows
    rcases hr with rfl | hr
    · exact hlast
    · have hpairs := ih.filter (·.symbol = row.symbol)
      rw [hfilter] at hpairs
      exact hlast.trans ((List.pairwise_cons.mp hpairs).1 r hr hpriorSymbol (hpriorEpoch (Or.inr hr)))

end Chains

section Replays

variable {contracts : TapeContracts} {bars : ClosedBarEvent → Prop} {frames : RecordedBookFrame → Prop}
  {s t : SimTapes} {tapeId : String} {tape : SimTape}

theorem SimClosedBarRow.Of.recognises {row : SimClosedBarRow} {bar : ClosedBarEvent} (h : row.Of bar)
    (hreads : contracts.Reads bars frames) (hbar : bars bar) : row.Recognises bar where
  key := Prod.ext h.symbol h.openTimeMs
  payload := by
    rw [h.payloadSha256]
    exact (hreads.bar bar hbar).1.identity h.column _
  barSha256 := h.barSha256

theorem RecordedBookFrame.equal_refl (frame : RecordedBookFrame) : frame.equal frame = true := by
  have hpayload : PythonJson.equal frame.payload.value frame.payload.value = true :=
    PythonJson.equal_refl frame.payload.uniqueKeys
  simp [RecordedBookFrame.equal, hpayload]

theorem SimBookFrameRow.Of.recognises {row : SimBookFrameRow} {frame : RecordedBookFrame} (h : row.Of frame)
    (hreads : contracts.Reads bars frames) (hframe : frames frame) : row.Recognises contracts frame where
  tapeSequence := h.tapeSequence
  payload := by
    rw [h.payloadSha256]
    exact (hreads.frame frame hframe).1.identity h.column _
  frameSha256 := h.frameSha256
  storage := by
    rw [assertBookFrameStorage, h.stored hreads hframe, ok_bind, require_pos frame.equal_refl]

theorem ensureOpenTape_open (htape : s.tapes tapeId = some tape) (hopen : tape.state.isOpen = true) :
    ensureOpenTape tapeId s = .ok tape := by
  unfold ensureOpenTape
  dsimp only
  rw [htape, Option.elim_some, ok_bind, require_pos hopen]
  rfl

/-- A stored bar that is recorded again changes nothing. -/
theorem recordClosedBar_again {bar : ClosedBarEvent} {row : SimClosedBarRow} (hid : validateTapeId tapeId = .ok ())
    (hcanonical : bar.Canonical) (htape : s.tapes tapeId = some tape) (hopen : tape.state.isOpen = true)
    (hrow : row ∈ tape.closedBars) (h : row.Recognises bar) : recordClosedBar tapeId bar s = .ok (s, false) := by
  have hfind := KeyedRows.find?_eq tape.barKeys hrow
  rw [h.key] at hfind
  have hidentifier : row.barSha256 = bar.messageId := Option.some.inj (h.barSha256.symm.trans hcanonical.barSha256)
  unfold recordClosedBar
  rw [hid, ok_bind]
  dsimp only
  rw [require_pos ⟨hcanonical.symbol, hcanonical.venue⟩, ok_bind, hcanonical.barSha256, found_some, ok_bind,
    require_pos rfl, ok_bind, ensureOpenTape_open htape hopen, ok_bind, hfind]
  dsimp only
  rw [h.payload, ok_bind, assertIdentifier, require_pos hidentifier]
  rfl

/-- A stored frame that is recorded again changes nothing. -/
theorem recordBookFrame_again {frame : RecordedBookFrame} {row : SimBookFrameRow}
    (hmessage : frame.frameSha256 = some frame.messageId) (htape : s.tapes frame.tapeId = some tape)
    (hopen : tape.state.isOpen = true) (hrow : row ∈ tape.bookFrames) (h : row.Recognises contracts frame) :
    recordBookFrame contracts frame s = .ok (s, false) := by
  have hfind := KeyedRows.find?_eq tape.frameKeys hrow
  rw [h.tapeSequence] at hfind
  have hidentifier : row.frameSha256 = frame.messageId := Option.some.inj (h.frameSha256.symm.trans hmessage)
  unfold recordBookFrame
  dsimp only
  rw [hmessage, found_some, ok_bind, require_pos rfl, ok_bind, ensureOpenTape_open htape hopen, ok_bind, hfind]
  dsimp only
  rw [h.payload, ok_bind, assertIdentifier, require_pos hidentifier, ok_bind, h.storage]
  rfl

end Replays

section Cursors

variable {contracts : TapeContracts} {bars : ClosedBarEvent → Prop} {frames : RecordedBookFrame → Prop}
  {s t : SimTapes} {tapeId : String} {tape : SimTape}

/-- Where a cursor says that the tape is. -/
structure BookRecordingCursor.At (cursor : BookRecordingCursor) (tape : SimTape) : Prop where
  nextTapeSequence : cursor.nextTapeSequence = tape.bookFrames.length + 1
  previousFrameSha256 : cursor.previousFrameSha256 = tape.bookFrames.head?.map (·.frameSha256)
  symbolCursors : ∀ symbol, ∀ r ∈ (tape.framesOf symbol).head?, ⟨r.toBookClock, symbol⟩ ∈ cursor.symbolCursors

/-- The cursor of an open tape is at its last frames. -/
theorem loadOpenBookRecordingCursor_at (hreads : contracts.Reads bars frames) (hid : validateTapeId tapeId = .ok ())
    (htape : s.tapes tapeId = some tape) (hopen : tape.state.isOpen = true)
    (h : tape.Recorded contracts bars frames tapeId) :
    ∃ cursor, loadOpenBookRecordingCursor contracts tapeId s = .ok (some cursor) ∧ cursor.At tape := by
  have hread : ∀ r ∈ tape.bookFrames, ∃ frame, storedBookFrame contracts r = .ok frame ∧ r.Of frame := by
    intro r hr
    obtain ⟨frame, hframe, hof⟩ := h.frames r hr
    exact ⟨frame, hof.stored hreads hframe, hof⟩
  have hlast : ∀ r ∈ tape.lastFrames, r ∈ tape.bookFrames := by
    intro r hr
    obtain ⟨symbol, -, hsome⟩ := List.mem_filterMap.mp hr
    exact List.mem_of_mem_filter (KeyedRows.greatest_mem hsome)
  obtain ⟨lastFrames, hmap, hmem⟩ := Transactions.mapM_ok fun r hr => (hread r (hlast r hr)).imp fun _ h => h.1
  unfold loadOpenBookRecordingCursor
  rw [hid, ok_bind, htape]
  dsimp only
  rw [require_pos hopen, ok_bind, hmap, ok_bind, h.lastFrame]
  cases hhead : tape.bookFrames.head? with
  | none =>
    have hnil := List.head?_eq_none_iff.mp hhead
    refine ⟨_, rfl, ?_, ?_, ?_⟩
    · rw [hnil]
      rfl
    · rw [hnil]
      rfl
    · intro symbol r hr
      rw [SimTape.framesOf, hnil] at hr
      cases hr
  | some last =>
    obtain ⟨lastFrame, hstored, hof⟩ := hread last (List.mem_of_mem_head? hhead)
    dsimp only
    rw [hstored, ok_bind, hof.frameSha256, found_some, ok_bind]
    refine ⟨_, rfl, ?_, ?_, ?_⟩
    · dsimp only
      rw [← hof.tapeSequence, h.frameChain.sequence_length last hhead]
    · rw [hhead]
      rfl
    · intro symbol r hr
      obtain ⟨hrframes, hsymbol⟩ := List.mem_filter.mp (List.mem_of_mem_head? hr)
      have hsymbol := of_decide_eq_true hsymbol
      obtain ⟨frame, hframe, hframeOf⟩ := hread r hrframes
      have hrlast : r ∈ tape.lastFrames := by
        refine List.mem_filterMap.mpr ⟨symbol, ?_, ?_⟩
        · rw [List.mem_insertionSort, List.mem_dedup]
          exact List.mem_map.mpr ⟨r, hrframes, hsymbol⟩
        · rw [h.lastFrameOf]
          exact hr
      dsimp only
      rw [List.mem_insertionSort]
      refine List.mem_map.mpr ⟨frame, hmem r hrlast frame hframe, ?_⟩
      rw [RecordedBookFrame.symbolCursor, ← hframeOf.clock, ← hframeOf.symbol, hsymbol]

/-- A frame goes on where a cursor is. -/
structure RecordedBookFrame.Extends (frame : RecordedBookFrame) (cursor : BookRecordingCursor) : Prop where
  tapeSequence : frame.tapeSequence = cursor.nextTapeSequence
  previousFrameSha256 : frame.previousFrameSha256 = cursor.previousFrameSha256
  stream : ∀ c ∈ cursor.symbolCursors, c.symbol = frame.symbol →
    frame.streamEpoch = c.streamEpoch ∧ frame.toBookClock.Advances c.toBookClock

/-- A frame that its table can hold: its row passes the `CHECK`s, and the column takes its payload. -/
structure RecordedBookFrame.Storable (frame : RecordedBookFrame) : Prop where
  frameSha256 : frame.frameSha256 = some frame.messageId
  checked : ∀ previous column, (bookFrameRow frame.messageId frame previous column).Checked
  column : ∃ column, Jsonb.jsonbIn (dumps frame.payload.value) = some column

/-- No digest of the frame is also that of other contents on the tape. -/
structure SimTape.NoCollision (tape : SimTape) (frame : RecordedBookFrame) : Prop where
  leaf : ∀ r ∈ tape.bookFrames, r.frameSha256 = frame.messageId → r.tapeSequence = frame.tapeSequence
  chain : ∀ r ∈ tape.bookFrames,
    r.chainSha256 = frameChainSha256 frame.tapeId (tape.bookFrames.head?.map (·.chainSha256)) frame.messageId →
    r.frameSha256 = frame.messageId

/-- A frame that goes on where the tape is, is recorded. -/
theorem recordBookFrame_extends {frame : RecordedBookFrame} {cursor : BookRecordingCursor}
    (htape : s.tapes frame.tapeId = some tape) (hopen : tape.state.isOpen = true)
    (h : tape.Recorded contracts bars frames frame.tapeId) (hat : cursor.At tape) (hextends : frame.Extends cursor)
    (hstorable : frame.Storable) (hcollision : tape.NoCollision frame) :
    ∃ u, recordBookFrame contracts frame s = .ok (u, true) := by
  have hsequence : frame.tapeSequence = tape.bookFrames.length + 1 := hextends.tapeSequence.trans hat.nextTapeSequence
  have hprevious : frame.previousFrameSha256 = tape.bookFrames.head?.map (·.frameSha256) :=
    hextends.previousFrameSha256.trans hat.previousFrameSha256
  have hnew : ∀ r ∈ tape.bookFrames, r.tapeSequence ≠ frame.tapeSequence := by
    intro r hr
    have := h.frameChain.sequence_le r hr
    omega
  have hsha : ∀ r ∈ tape.bookFrames, r.frameSha256 ≠ frame.messageId :=
    fun r hr hsame => hnew r hr (hcollision.leaf r hr hsame)
  have hplace : checkPredecessor frame tape.bookFrames.head? = .ok (tape.bookFrames.head?.map (·.chainSha256)) := by
    cases hhead : tape.bookFrames.head? with
    | none =>
      rw [hhead] at hprevious
      rw [List.head?_eq_none_iff.mp hhead] at hsequence
      rw [checkPredecessor, require_pos ⟨hsequence, hprevious⟩]
      rfl
    | some last =>
      rw [hhead, Option.map_some] at hprevious
      have hlast := h.frameChain.sequence_length last hhead
      rw [checkPredecessor, require_pos (hsequence.trans (by rw [hlast])), ok_bind, require_pos hprevious]
      rfl
  have hstream : checkStream frame (tape.framesOf frame.symbol).head? = .ok () := by
    cases hhead : (tape.framesOf frame.symbol).head? with
    | none => rfl
    | some prior =>
      obtain ⟨hepoch, hadvances⟩ := hextends.stream _ (hat.symbolCursors frame.symbol prior hhead) rfl
      rw [checkStream, if_pos hepoch, require_pos (BookClock.advances_iff.mp hadvances)]
  obtain ⟨column, hcolumn⟩ := hstorable.column
  have haccepts : tape.AcceptsFrame
      (bookFrameRow frame.messageId frame (tape.bookFrames.head?.map (·.chainSha256)) column) := by
    refine ⟨hstorable.checked _ _, fun r hr => ⟨hnew r hr, hsha r hr, ?_⟩⟩
    intro hchain
    exact hsha r hr (hcollision.chain r hr hchain)
  refine ⟨s.put frame.tapeId (tape.insertFrame _ haccepts), ?_⟩
  unfold recordBookFrame
  dsimp only
  rw [hstorable.frameSha256, found_some, ok_bind, require_pos rfl, ok_bind, ensureOpenTape_open htape hopen, ok_bind,
    KeyedRows.find?_eq_none_iff.mpr hnew]
  dsimp only
  rw [KeyedRows.find?_eq_none_iff.mpr hsha]
  dsimp only
  rw [h.lastFrame, hplace, ok_bind, h.lastFrameOf, hstream, ok_bind,
    show Jsonb.jsonbIn (canonicalPayload frame.payload.value).1 = some column from hcolumn, found_some, ok_bind,
    dif_pos haccepts]
  rfl

end Cursors

section Guarantees

variable {contracts : TapeContracts} {bars : ClosedBarEvent → Prop} {frames : RecordedBookFrame → Prop}
  {s t : SimTapes} {tapeId : String} {tape : SimTape}

/-- The bars of each symbol are contiguous, the frames numbered, and within an epoch of a symbol they advance. -/
structure SimTape.GoesForward (tape : SimTape) : Prop where
  bars : ∀ symbol, (tape.barsOf symbol).IsChain fun next prior => next.openTimeMs = prior.closeTimeMs + 1
  frames : ∀ later (row : SimBookFrameRow) earlier, tape.bookFrames = later ++ row :: earlier → row.tapeSequence = earlier.length + 1
  clocks : tape.bookFrames.Pairwise fun next prior => next.symbol = prior.symbol →
    next.streamEpoch = prior.streamEpoch → next.toBookClock.Advances prior.toBookClock

/-- The counts and the heads of the stored seal are those of the stored rows. -/
def SimTape.SealMatches (contracts : TapeContracts) (tapeId : String) (tape : SimTape) (columns : TapeSealColumns) :
    Prop :=
  ∃ tapeSeal, storedModel contracts.tapeSeal columns.sealPayload columns.sealPayloadSha256 "simulation tape seal" =
      .ok tapeSeal ∧
    (∀ symbol, symbol ∈ tapeSeal.barChains.map (·.symbol) ↔ symbol ∈ simulationSymbols) ∧
    (∀ head ∈ tapeSeal.barChains, head.entryCount = (tape.barsOf head.symbol).length ∧
      some head.headSha256 =
        HashChain.recompute (fun p r => barChainSha256 tapeId head.symbol p r.barSha256) (tape.barsOf head.symbol)) ∧
    tapeSeal.bookChain = ⟨tape.bookFrames.length,
      HashChain.recompute (fun p r => frameChainSha256 tapeId p r.frameSha256) tape.bookFrames⟩

def SimTapes.IsOpen (s : SimTapes) (tapeId : String) : Prop :=
  ∃ tape, s.tapes tapeId = some tape ∧ tape.state.isOpen = true

theorem SimTape.Recorded.goesForward (h : tape.Recorded contracts bars frames tapeId) : tape.GoesForward where
  bars symbol := (h.barChain symbol).contiguous
  frames _ _ _ hrows := h.frameChain.position hrows
  clocks := h.frameChain.advances

theorem SimTape.Recorded.sealMatches (h : tape.Recorded contracts bars frames tapeId) {columns : TapeSealColumns}
    (hstate : tape.state = .sealed columns) : tape.SealMatches contracts tapeId columns := by
  obtain ⟨tapeSeal, hstored, -, hbars, hframes, hsymbols⟩ := h.sealed columns hstate
  refine ⟨tapeSeal, hstored, ?_, ?_, ?_⟩
  · rw [hbars]
    exact hsymbols
  · intro head hhead
    rw [hbars] at hhead
    obtain ⟨last, hlast, heq⟩ := Option.map_eq_some_iff.mp (h.mem_barHeads.mp hhead)
    have hchain := (h.barChain head.symbol).linked.head
    constructor
    · exact (congrArg SimulationChainHead.entryCount heq).symm
    · rw [← hchain, SimTape.barsOf, hlast]
      exact congrArg (fun h : SimulationChainHead => some h.headSha256) heq.symm
  · rw [hframes, SimTape.bookChain, h.frameChain.linked.head]

/-- A bar that was recorded is recognised on every later state of the tape while it is open. -/
theorem recordClosedBar_replay (hreads : contracts.Reads bars frames)
    (hids : ∀ frame, frames frame → validateTapeId frame.tapeId = .ok ()) {bar : ClosedBarEvent} {created : Bool}
    {u : SimTapes} (hbar : bars bar) (h : recordClosedBar tapeId bar s = .ok (u, created))
    (hrun : ReflTransGen (TapeStep contracts bars frames) u t) (hopen : t.IsOpen tapeId) :
    recordClosedBar tapeId bar t = .ok (t, false) := by
  obtain ⟨hid, hcanonical, tape, row, htape, hrow, hcases⟩ := @recordClosedBar_ok contracts bars frames s u tapeId bar created hbar h
  have hrecognises : row.Recognises bar := by
    rcases hcases with ⟨-, -, hrecognises⟩ | ⟨-, -, hof⟩
    · exact hrecognises
    · exact hof.recognises hreads hbar
  obtain ⟨after, hafter, hstays⟩ := run_stays hids hrun htape
  obtain ⟨found, hfound, hopen⟩ := hopen
  obtain rfl : after = found := Option.some.inj (hafter.symm.trans hfound)
  exact recordClosedBar_again hid hcanonical hafter hopen (hstays.bars hrow) hrecognises

theorem recordBookFrame_replay (hreads : contracts.Reads bars frames)
    (hids : ∀ frame, frames frame → validateTapeId frame.tapeId = .ok ()) {frame : RecordedBookFrame} {created : Bool}
    {u : SimTapes} (hframe : frames frame) (h : recordBookFrame contracts frame s = .ok (u, created))
    (hrun : ReflTransGen (TapeStep contracts bars frames) u t) (hopen : t.IsOpen frame.tapeId) :
    recordBookFrame contracts frame t = .ok (t, false) := by
  obtain ⟨hmessage, tape, row, htape, hrow, hcases⟩ := @recordBookFrame_ok contracts bars frames s u frame created hframe (hids frame hframe) h
  have hrecognises : row.Recognises contracts frame := by
    rcases hcases with ⟨-, -, hrecognises⟩ | ⟨-, -, hof⟩
    · exact hrecognises
    · exact hof.recognises hreads hframe
  obtain ⟨after, hafter, hstays⟩ := run_stays hids hrun htape
  obtain ⟨found, hfound, hopen⟩ := hopen
  obtain rfl : after = found := Option.some.inj (hafter.symm.trans hfound)
  exact recordBookFrame_again hmessage hafter hopen (hstays.frames hrow) hrecognises

/-- Every tape that the recorders have left verifies, goes forward, and stays as it is once it is closed; its seal is
that of its rows, its cursor can be continued, and what is recorded again changes nothing. -/
theorem tape_invariant (hreads : contracts.Reads bars frames)
    (hids : ∀ frame, frames frame → validateTapeId frame.tapeId = .ok ())
    (hs : SimTapes.Reachable contracts bars frames s) :
    (∀ tapeId tape, s.tapes tapeId = some tape →
      verifyTape contracts tapeId s = .ok true ∧ tape.GoesForward ∧
      (∀ columns, tape.state = .sealed columns → tape.SealMatches contracts tapeId columns) ∧
      (tape.state.isOpen = false → ∀ t, ReflTransGen (TapeStep contracts bars frames) s t →
        t.tapes tapeId = some tape) ∧
      (tape.state.isOpen = true → ∃ cursor, loadOpenBookRecordingCursor contracts tapeId s = .ok (some cursor) ∧
        cursor.At tape ∧ ∀ t later, ReflTransGen (TapeStep contracts bars frames) s t → t.tapes tapeId = some later →
          later.state.isOpen = true → later.bookFrames = tape.bookFrames → ∀ frame, frame.tapeId = tapeId →
          frame.Extends cursor → frame.Storable → tape.NoCollision frame →
          ∃ u, recordBookFrame contracts frame t = .ok (u, true))) ∧
    (∀ tapeId bar u created t, bars bar → recordClosedBar tapeId bar s = .ok (u, created) →
      ReflTransGen (TapeStep contracts bars frames) u t → t.IsOpen tapeId →
      recordClosedBar tapeId bar t = .ok (t, false)) ∧
    ∀ frame u created t, frames frame → recordBookFrame contracts frame s = .ok (u, created) →
      ReflTransGen (TapeStep contracts bars frames) u t → t.IsOpen frame.tapeId →
      recordBookFrame contracts frame t = .ok (t, false) := by
  refine ⟨?_, ?_, ?_⟩
  · intro tapeId tape htape
    obtain ⟨hid, hrecorded⟩ := SimTapes.Recorded.reachable hreads hids hs tapeId tape htape
    refine ⟨?_, hrecorded.goesForward, fun columns => hrecorded.sealMatches, ?_, ?_⟩
    · rw [verifyTape, hid, ok_bind, htape]
      exact hrecorded.verify hreads
    · intro hclosed t hrun
      obtain ⟨after, hafter, hstays⟩ := run_stays hids hrun htape
      rw [hafter, hstays.closed hclosed]
    · intro hopen
      obtain ⟨cursor, hload, hat⟩ := loadOpenBookRecordingCursor_at hreads hid htape hopen hrecorded
      refine ⟨cursor, hload, hat, ?_⟩
      intro t later hrun hlater hlaterOpen hframes frame hframeTape hextends hstorable hcollision
      subst hframeTape
      have hlaterRecorded := (SimTapes.Recorded.reachable hreads hids (hs.run hrun) _ later hlater).2
      have hlaterAt : cursor.At later := by
        refine ⟨?_, ?_, ?_⟩
        · rw [hframes]
          exact hat.nextTapeSequence
        · rw [hframes]
          exact hat.previousFrameSha256
        · intro symbol
          rw [SimTape.framesOf, hframes]
          exact hat.symbolCursors symbol
      have hlaterCollision : later.NoCollision frame := by
        constructor
        · rw [hframes]
          exact hcollision.leaf
        · rw [hframes]
          exact hcollision.chain
      exact recordBookFrame_extends hlater hlaterOpen hlaterRecorded hlaterAt hextends hstorable hlaterCollision
  · intro tapeId bar u created t hbar h hrun hopen
    exact recordClosedBar_replay hreads hids hbar h hrun hopen
  · intro frame u created t hframe h hrun hopen
    exact recordBookFrame_replay hreads hids hframe h hrun hopen

end Guarantees

section Example

def exampleBar : ClosedBarEvent where
  symbol := "BTCUSDT"
  venue := "BINANCE_UM"
  messageId := exampleSha 'a'
  barSha256 := some (exampleSha 'a')
  openTimeMs := 0
  closeTimeMs := 59999
  payload := exampleDump (exampleSha 'a') (.int 1)

def exampleFrameDump : ModelDump where
  fields := [("contract_version", .str "sim-book-frame.v1"), ("message_id", .str (exampleSha 'b'))]
  uniqueKeys := by
    rw [Json.uniqueKeys_obj]
    simp [Json.UniqueKeys]

def exampleFrame : RecordedBookFrame where
  streamEpoch := "epoch"
  exchangeUpdateId := 1
  exchangeAtMs := 60000
  receivedAtMs := 60001
  persistedAtMs := 60002
  tapeId := "tape"
  tapeSequence := 1
  symbol := "BTCUSDT"
  messageId := exampleSha 'b'
  frameSha256 := some (exampleSha 'b')
  previousFrameSha256 := none
  rawPayloadSha256 := exampleSha 'c'
  continuity := .admitted
  evidence := none
  payload := exampleFrameDump

def exampleTapeContracts : TapeContracts where
  bar v := if dumps v = dumps exampleBar.payload.value then some exampleBar else none
  frame _ v := if dumps v = dumps exampleFrame.payload.value then some exampleFrame else none
  tapeSeal _ := none
  newTapeSeal _ := none

theorem exampleFrameDump_nulFree : exampleFrameDump.value.everyString Jsonb.nulFree := by
  have hsha : Jsonb.nulFree (exampleSha 'b') = true := by decide +kernel
  simp [exampleFrameDump, ModelDump.value, Json.everyString, Json.everyStringFields, hsha]
  decide

theorem exampleTapeContracts_reads : exampleTapeContracts.Reads (· = exampleBar) (· = exampleFrame) where
  bar := by
    rintro _ rfl
    refine ⟨exampleDump_reloads (by decide +kernel) 1, fun v hv => ?_⟩
    dsimp only [exampleTapeContracts]
    rw [if_pos hv]
  frame := by
    rintro _ rfl
    refine ⟨(reloads_iff exampleFrameDump_nulFree).mpr ?_, rfl, fun v hv => ?_⟩
    · intro n hn
      simp [exampleFrameDump, ModelDump.value, Json.numbers, Json.numbersFields] at hn
    · dsimp only [exampleTapeContracts]
      rw [if_pos hv]
  tapeSeal := by
    intro manifest tapeSeal h
    cases h

def exampleTapes : SimTapes := ⟨fun _ => none, ⟨[], Outbox.empty⟩⟩

/-- A bar opens the tape. -/
theorem exampleBar_recorded : ∃ tape, recordClosedBar "tape" exampleBar exampleTapes = .ok (exampleTapes.put "tape" tape, true) ∧
    tape.state.isOpen = true ∧ tape.bookFrames = [] := by
  let previous := SimTape.blank.lastBar exampleBar.symbol
  have hprevious : previous = none := rfl
  have hsha : isSha256 (exampleSha 'a') = true := by decide +kernel
  have haccepts : SimTape.blank.AcceptsBar
      (closedBarRow "tape" (exampleSha 'a') exampleBar previous (exampleColumnOf exampleBar.payload)) := by
    refine ⟨⟨?_, ?_, ?_, ?_, ?_, hsha, ?_⟩, by simp [SimTape.blank]⟩
    · simp [closedBarRow, exampleBar, simulationSymbols]
    all_goals simp [closedBarRow, exampleBar, bigint, hprevious]
  have hcolumn : Jsonb.jsonbIn (canonicalPayload exampleBar.payload.value).1 = some (exampleColumnOf exampleBar.payload) :=
    exampleColumnOf_eq (by decide +kernel) _
  have hfind : SimTape.blank.closedBars.find?
      (fun r => (r.symbol, r.openTimeMs) = (exampleBar.symbol, exampleBar.openTimeMs)) = none := rfl
  refine ⟨SimTape.blank.insertBar _ haccepts, ?_, rfl, rfl⟩
  unfold recordClosedBar
  rw [show validateTapeId "tape" = .ok () by decide, ok_bind]
  dsimp only
  rw [require_pos ⟨by simp [exampleBar, simulationSymbols], rfl⟩, ok_bind, show exampleBar.barSha256 = some (exampleSha 'a') from rfl,
    found_some, ok_bind, require_pos (show exampleBar.messageId = exampleSha 'a' from rfl), ok_bind,
    show ensureOpenTape "tape" exampleTapes = .ok .blank from rfl, ok_bind, hfind]
  dsimp only
  rw [require_pos (show ∀ r ∈ previous, _ by simp [hprevious]), ok_bind, hcolumn, found_some, ok_bind, dif_pos haccepts]
  rfl

theorem exampleFrame_storable : exampleFrame.Storable where
  frameSha256 := rfl
  checked previous column := by
    have hsha : isSha256 (exampleSha 'b') = true ∧ isSha256 (exampleSha 'c') = true := by decide +kernel
    have hepoch : btrimEmpty "epoch" = false := by decide
    refine ⟨?_, ?_, ?_, hepoch, ?_, ?_, ?_, ?_, ?_, ?_, hsha.1, ?_, hsha.2, Or.inl ⟨rfl, rfl, rfl⟩⟩
    all_goals simp [bookFrameRow, exampleFrame, simulationSymbols, bigint]
  column := ⟨_, Jsonb.jsonbIn_dumps exampleFrameDump_nulFree⟩

theorem tape_invariant_example :
    ∃ s cursor u, loadOpenBookRecordingCursor exampleTapeContracts "tape" s = .ok (some cursor) ∧
      recordBookFrame exampleTapeContracts exampleFrame s = .ok (u, true) ∧
      verifyTape exampleTapeContracts "tape" s = .ok true ∧ recordClosedBar "tape" exampleBar s = .ok (s, false) := by
  have hids : ∀ frame, frame = exampleFrame → validateTapeId frame.tapeId = .ok () := by
    rintro _ rfl
    decide
  obtain ⟨tape, hrecorded, hopen, hframes⟩ := exampleBar_recorded
  have hstart : SimTapes.Reachable exampleTapeContracts (· = exampleBar) (· = exampleFrame) exampleTapes :=
    .start fun _ => rfl
  have hstep : TapeStep exampleTapeContracts (· = exampleBar) (· = exampleFrame) exampleTapes
      (TapeCall.run exampleSimEnvironment exampleTapeContracts exampleTapes (.recordClosedBar "tape" exampleBar)) :=
    .call _ _ rfl
  rw [TapeCall.run, Transactions.run_ok hrecorded] at hstep
  have htape : (exampleTapes.put "tape" tape).tapes "tape" = some tape := SimTapes.put_self _ _ _
  have hinvariant := tape_invariant exampleTapeContracts_reads hids (hstart.next hstep)
  obtain ⟨hverify, -, -, -, hcursor⟩ := hinvariant.1 "tape" tape htape
  obtain ⟨cursor, hload, -, haccept⟩ := hcursor hopen
  have hfirst : loadOpenBookRecordingCursor exampleTapeContracts "tape" (exampleTapes.put "tape" tape) =
      .ok (some ⟨"tape", 1, none, []⟩) := by
    rw [loadOpenBookRecordingCursor, show validateTapeId "tape" = .ok () by decide, ok_bind, htape]
    dsimp only
    rw [require_pos hopen, ok_bind, SimTape.lastFrames, SimTape.lastFrame, hframes]
    rfl
  obtain rfl := Option.some.inj (Except.ok.inj (hload.symm.trans hfirst))
  have hextends : exampleFrame.Extends ⟨"tape", 1, none, []⟩ := ⟨rfl, rfl, by simp⟩
  obtain ⟨u, hu⟩ := haccept _ tape .refl htape hopen rfl exampleFrame rfl hextends exampleFrame_storable
    ⟨by simp [hframes], by simp [hframes]⟩
  refine ⟨_, _, u, hload, hu, hverify, ?_⟩
  exact (tape_invariant exampleTapeContracts_reads hids hstart).2.1 "tape" exampleBar _ true _ rfl hrecorded .refl
    ⟨tape, htape, hopen⟩

end Example

end KairosPersistence
