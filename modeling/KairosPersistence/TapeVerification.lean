import KairosPersistence.HashChain
import KairosPersistence.SimulatorTape
import Mathlib.Data.Prod.Lex

/-!
`verify_tape` and `load_latest_book_frame`, and the chains that the verifier follows.
-/

namespace KairosPersistence

open PythonJson PythonText
open Transactions (require found)

section Verifier

/-- A value of `previous_by_symbol`. -/
structure BarTail where
  closeTimeMs : ℤ
  barSha256 : String
  chainSha256 : String

/-- Where `verify_tape` is in the bars: `previous_by_symbol` and `bar_heads`. -/
structure BarTails where
  previous : String → Option BarTail
  heads : List SimulationChainHead

def BarTails.count (tails : BarTails) (symbol : String) : ℤ :=
  ((tails.heads.find? (·.symbol = symbol)).map (·.entryCount)).getD 0

/-- The body of the loop over the bars; nothing more is read once it has returned `False`. -/
def verifyBar (contracts : TapeContracts) (tapeId : String) (tails : Option BarTails) (row : SimClosedBarRow) :
    Except SimulatorError (Option BarTails) :=
  match tails with
  | none => .ok none
  | some tails => do
    let bar ← storedModel contracts.bar row.payload row.payloadSha256 "simulation closed bar"
    let previous := tails.previous row.symbol
    let chain := barChainSha256 tapeId row.symbol (previous.map (·.chainSha256)) row.barSha256
    if bar.barSha256 ≠ some row.barSha256 ∨ bar.symbol ≠ row.symbol ∨ bar.openTimeMs ≠ row.openTimeMs ∨
        bar.closeTimeMs ≠ row.closeTimeMs then return none
    else if ∃ tail ∈ previous, bar.openTimeMs ≠ tail.closeTimeMs + 1 then return none
    else if row.previousBarSha256 ≠ previous.map (·.barSha256) then return none
    else if row.chainSha256 ≠ chain then return none
    else return some {
      previous := Function.update tails.previous row.symbol (some ⟨bar.closeTimeMs, row.barSha256, chain⟩)
      heads := KeyedRows.upsert (·.symbol) ⟨row.symbol, tails.count row.symbol + 1, chain⟩ tails.heads }

/-- Where `verify_tape` is in the frames. -/
structure FrameTail where
  sequence : ℤ
  frameSha256 : Option String
  chainSha256 : Option String
  clocks : String → Option BookClock

/-- The stream of a frame does not go on from the clock of its symbol. -/
def RecordedBookFrame.Breaks (frame : RecordedBookFrame) (prior : BookClock) : Prop :=
  (frame.streamEpoch = prior.streamEpoch ∧ frame.toBookClock.Regressed prior) ∨
    (frame.streamEpoch ≠ prior.streamEpoch ∧ frame.continuity ≠ .reconnect)

instance (frame : RecordedBookFrame) (prior : BookClock) : Decidable (frame.Breaks prior) :=
  inferInstanceAs (Decidable (_ ∨ _))

/-- The body of the loop over the frames. -/
def verifyFrame (contracts : TapeContracts) (tapeId : String) (tail : Option FrameTail) (row : SimBookFrameRow) :
    Except SimulatorError (Option FrameTail) :=
  match tail with
  | none => .ok none
  | some tail => do
    let frame ← storedBookFrame contracts row
    let chain := frameChainSha256 tapeId tail.chainSha256 row.frameSha256
    if frame.frameSha256 ≠ some row.frameSha256 then return none
    else if frame.tapeSequence ≠ tail.sequence + 1 then return none
    else if frame.previousFrameSha256 ≠ tail.frameSha256 then return none
    else if row.chainSha256 ≠ chain then return none
    else if ∃ prior ∈ tail.clocks frame.symbol, frame.Breaks prior then return none
    else return some ⟨frame.tapeSequence, frame.frameSha256, some chain,
      Function.update tail.clocks frame.symbol (some frame.toBookClock)⟩

/-- The comparison of a seal with what the loops have counted. -/
def verifySeal (contracts : TapeContracts) (columns : TapeSealColumns) (bars : BarTails) (frameCount : ℤ)
    (tail : FrameTail) : Except SimulatorError Bool := do
  let stored ← storedModel contracts.tapeSeal columns.sealPayload columns.sealPayloadSha256 "simulation tape seal"
  if stored.tapeSha256 ≠ some columns.tapeSha256 then return false
  else return stored.barChains = bars.heads.insertionSort (·.symbol ≤ ·.symbol) ∧
    stored.bookChain = ⟨frameCount, tail.chainSha256⟩

def SimTape.verify (contracts : TapeContracts) (tapeId : String) (tape : SimTape) : Except SimulatorError Bool := do
  let bars := tape.closedBars.insertionSort fun a b => toLex (a.symbol, a.openTimeMs) ≤ toLex (b.symbol, b.openTimeMs)
  match ← bars.foldlM (verifyBar contracts tapeId) (some ⟨fun _ => none, []⟩) with
  | none => return false
  | some tails => do
    let frames := tape.bookFrames.insertionSort (·.tapeSequence ≤ ·.tapeSequence)
    match ← frames.foldlM (verifyFrame contracts tapeId) (some ⟨0, none, none, fun _ => none⟩) with
    | none => return false
    | some tail =>
      if tape.bookFrameCount ≠ frames.length ∨ tape.bookChainHeadSha256 ≠ tail.chainSha256 then return false
      else match tape.state with
        | .sealed columns => verifySeal contracts columns tails frames.length tail
        | _ => return true

/-- `verify_tape`. -/
def verifyTape (contracts : TapeContracts) (tapeId : String) (s : SimTapes) : Except SimulatorError Bool := do
  validateTapeId tapeId
  match s.tapes tapeId with
  | none => return false
  | some tape => tape.verify contracts tapeId

end Verifier

section Selection

/-- `ORDER BY persisted_at_ms DESC, tape_sequence DESC LIMIT 1`. -/
def SimTape.latestFrame (tape : SimTape) (symbol : String) (asOfMs : ℤ) : Option SimBookFrameRow :=
  KeyedRows.greatest (fun r => toLex (r.persistedAtMs, r.tapeSequence))
    (tape.bookFrames.filter fun r => r.symbol = symbol ∧ r.continuity = .admitted ∧ r.persistedAtMs ≤ asOfMs)

/-- `load_latest_book_frame`. -/
def loadLatestBookFrame (contracts : TapeContracts) (tapeId symbol : String) (asOfMs : ℤ) (s : SimTapes) :
    Except SimulatorError (Option RecordedBookFrame) := do
  validateTapeId tapeId
  require (symbol ∈ simulationSymbols) (.valueError "simulation symbol is outside the fixed five-symbol universe")
  require (0 ≤ asOfMs) (.valueError "as_of_ms must be a non-negative integer Unix timestamp in milliseconds")
  let tape ← found (s.tapes tapeId) (.keyError "unknown simulation tape")
  match tape.state with
  | .sealed _ =>
    match tape.latestFrame symbol asOfMs with
    | none => return none
    | some row => do
      let frame ← storedBookFrame contracts row
      return some frame
  | _ => .error (.valueError "simulation book selection requires an immutable sealed tape")

end Selection

section Chains

/-- The row of a bar. -/
structure SimClosedBarRow.Of (row : SimClosedBarRow) (bar : ClosedBarEvent) : Prop where
  symbol : row.symbol = bar.symbol
  openTimeMs : row.openTimeMs = bar.openTimeMs
  closeTimeMs : row.closeTimeMs = bar.closeTimeMs
  barSha256 : bar.barSha256 = some row.barSha256
  payloadSha256 : row.payloadSha256 = digest bar.payload.value
  column : Jsonb.jsonbIn (dumps bar.payload.value) = some row.payload

/-- The row of a frame. -/
structure SimBookFrameRow.Of (row : SimBookFrameRow) (frame : RecordedBookFrame) : Prop where
  clock : row.toBookClock = frame.toBookClock
  tapeSequence : row.tapeSequence = frame.tapeSequence
  symbol : row.symbol = frame.symbol
  continuity : row.continuity = frame.continuity
  frameSha256 : frame.frameSha256 = some row.frameSha256
  previousFrameSha256 : row.previousFrameSha256 = frame.previousFrameSha256
  rawPayloadSha256 : row.rawPayloadSha256 = frame.rawPayloadSha256
  frameContractVersion : row.frameContractVersion = frame.version.text
  evidence : row.sourceReason = frame.evidence.map (·.sourceReason) ∧
    row.rawPayloadText = frame.evidence.map (·.rawPayload)
  payloadSha256 : row.payloadSha256 = digest frame.payload.value
  column : Jsonb.jsonbIn (dumps frame.payload.value) = some row.payload

theorem closedBarRow_of {tapeId sha : String} {bar : ClosedBarEvent} {previous : Option SimClosedBarRow}
    {column : JsonColumn} (hsha : bar.barSha256 = some sha)
    (hcolumn : Jsonb.jsonbIn (dumps bar.payload.value) = some column) : (closedBarRow tapeId sha bar previous column).Of bar :=
  ⟨rfl, rfl, rfl, hsha, rfl, hcolumn⟩

theorem bookFrameRow_of {sha : String} {frame : RecordedBookFrame} {previous : Option String} {column : JsonColumn}
    (hsha : frame.frameSha256 = some sha) (hcolumn : Jsonb.jsonbIn (dumps frame.payload.value) = some column) :
    (bookFrameRow sha frame previous column).Of frame :=
  ⟨rfl, rfl, rfl, rfl, hsha, rfl, rfl, rfl, ⟨rfl, rfl⟩, rfl, hcolumn⟩

/-- The bars of a symbol, the last one first. -/
inductive BarChain (tapeId symbol : String) : List SimClosedBarRow → Prop
  | empty : BarChain tapeId symbol []
  | append {earlier : List SimClosedBarRow} {row : SimClosedBarRow} (chain : BarChain tapeId symbol earlier)
    (hopen : ∀ r ∈ earlier.head?, row.openTimeMs = r.closeTimeMs + 1)
    (hprevious : row.previousBarSha256 = earlier.head?.map (·.barSha256))
    (hchain : row.chainSha256 = barChainSha256 tapeId symbol (earlier.head?.map (·.chainSha256)) row.barSha256) :
    BarChain tapeId symbol (row :: earlier)

/-- A frame goes on from the last one of its symbol, or its stream begins anew behind a barrier. -/
def SimBookFrameRow.Follows (row prior : SimBookFrameRow) : Prop :=
  if row.streamEpoch = prior.streamEpoch then ¬row.toBookClock.Regressed prior.toBookClock
  else row.continuity = .reconnect

/-- The frames of a tape, the last one first. -/
inductive FrameChain (tapeId : String) : List SimBookFrameRow → Prop
  | empty : FrameChain tapeId []
  | append {earlier : List SimBookFrameRow} {row : SimBookFrameRow} (chain : FrameChain tapeId earlier)
    (hadmitted : ∀ r ∈ earlier, r.continuity = .admitted)
    (hsequence : row.tapeSequence = earlier.length + 1)
    (hprevious : row.previousFrameSha256 = earlier.head?.map (·.frameSha256))
    (hchain : row.chainSha256 = frameChainSha256 tapeId (earlier.head?.map (·.chainSha256)) row.frameSha256)
    (hstream : ∀ r ∈ (earlier.filter (·.symbol = row.symbol)).head?, row.Follows r) :
    FrameChain tapeId (row :: earlier)

variable {tapeId symbol : String}

theorem BarChain.linked {rows : List SimClosedBarRow} (h : BarChain tapeId symbol rows) :
    HashChain.Linked (fun p r => barChainSha256 tapeId symbol p r.barSha256) (·.chainSha256) rows := by
  induction h with
  | empty => trivial
  | append chain _ _ hchain ih => exact ⟨hchain, ih⟩

theorem FrameChain.linked {rows : List SimBookFrameRow} (h : FrameChain tapeId rows) :
    HashChain.Linked (fun p r => frameChainSha256 tapeId p r.frameSha256) (·.chainSha256) rows := by
  induction h with
  | empty => trivial
  | append chain _ _ _ hchain _ ih => exact ⟨hchain, ih⟩

/-- Bars that are contiguous open one after the other. -/
theorem BarChain.pairwise {rows : List SimClosedBarRow} (h : BarChain tapeId symbol rows)
    (hchecked : ∀ r ∈ rows, r.Checked) : rows.Pairwise fun a b => b.openTimeMs < a.openTimeMs := by
  induction h with
  | empty => exact .nil
  | @append earlier row chain hopen _ _ ih =>
    have hearlier : ∀ r ∈ earlier, r.Checked := fun r hr => hchecked r (List.mem_cons_of_mem _ hr)
    have ih := ih hearlier
    refine List.pairwise_cons.mpr ⟨?_, ih⟩
    cases earlier with
    | nil => simp
    | cons last before =>
      have hlast := hopen last rfl
      obtain ⟨-, -, -, -, hclose, -⟩ := hearlier last List.mem_cons_self
      have hbefore := (List.pairwise_cons.mp ih).1
      intro r hr
      rcases List.mem_cons.mp hr with rfl | hr
      · omega
      · have := hbefore r hr
        omega

theorem FrameChain.sequence_le {rows : List SimBookFrameRow} (h : FrameChain tapeId rows) :
    ∀ r ∈ rows, r.tapeSequence ≤ rows.length := by
  induction h with
  | empty => simp
  | @append earlier row chain _ hsequence _ _ _ ih =>
    rw [List.length_cons]
    intro r hr
    rcases List.mem_cons.mp hr with rfl | hr
    · omega
    · have := ih r hr
      omega

theorem FrameChain.sequence_length {rows : List SimBookFrameRow} (h : FrameChain tapeId rows) :
    ∀ last ∈ rows.head?, last.tapeSequence = rows.length := by
  cases h with
  | empty => simp
  | append chain _ hsequence _ _ _ =>
    intro last hlast
    obtain rfl := Option.some.inj hlast
    rw [hsequence, List.length_cons, Nat.cast_add, Nat.cast_one]

theorem FrameChain.pairwise {rows : List SimBookFrameRow} (h : FrameChain tapeId rows) :
    rows.Pairwise fun a b => b.tapeSequence < a.tapeSequence := by
  induction h with
  | empty => exact .nil
  | append chain _ hsequence _ _ _ ih =>
    refine List.pairwise_cons.mpr ⟨?_, ih⟩
    intro r hr
    have := chain.sequence_le r hr
    omega

end Chains

section Following

/-- `model_validate` of what is stored of a model gives the model, and a seal has the manifest that it is made of. -/
structure TapeContracts.Reads (contracts : TapeContracts) (bars : ClosedBarEvent → Prop)
    (frames : RecordedBookFrame → Prop) : Prop where
  bar : ∀ bar, bars bar → Reloads bar.payload.value ∧
    ∀ v, dumps v = dumps bar.payload.value → contracts.bar v = some bar
  frame : ∀ frame, frames frame → Reloads frame.payload.value ∧
    getField frame.payload.fields "contract_version" = .str frame.version.text ∧
    ∀ v, dumps v = dumps frame.payload.value → contracts.frame frame.version v = some frame
  tapeSeal : ∀ manifest tapeSeal, contracts.newTapeSeal manifest = some tapeSeal →
    tapeSeal.barChains = manifest.barChains ∧ tapeSeal.bookChain = manifest.bookChain ∧
    Reloads tapeSeal.payload.value ∧
    ∀ v, dumps v = dumps tapeSeal.payload.value → contracts.tapeSeal v = some tapeSeal

variable {contracts : TapeContracts} {bars : ClosedBarEvent → Prop} {frames : RecordedBookFrame → Prop}
  {tapeId : String}

theorem sortKeys_eq_str {t : PyJson} {s : String} (h : sortKeys t = .str s) : t = .str s := by
  cases t with
  | str u => exact h
  | null | bool | num | arr | obj => simp [sortKeys, Json.orderKeys] at h

theorem bookFrameVersion_text {fields : List (String × PyJson)} {version : BookFrameVersion}
    (h : getField fields "contract_version" = .str version.text) : bookFrameVersion (.obj fields) = .ok version := by
  unfold bookFrameVersion
  dsimp only
  rw [h]
  cases version <;> rfl

theorem SimClosedBarRow.Of.stored {row : SimClosedBarRow} {bar : ClosedBarEvent} (h : row.Of bar)
    (hreads : contracts.Reads bars frames) (hbar : bars bar) (entity : String) :
    storedModel contracts.bar row.payload row.payloadSha256 entity = .ok bar := by
  obtain ⟨hreloads, hvalidate⟩ := hreads.bar bar hbar
  rw [h.payloadSha256]
  exact hreloads.model h.column hvalidate entity

theorem SimBookFrameRow.Of.stored {row : SimBookFrameRow} {frame : RecordedBookFrame} (h : row.Of frame)
    (hreads : contracts.Reads bars frames) (hframe : frames frame) : storedBookFrame contracts row = .ok frame := by
  obtain ⟨hreloads, hversion, hvalidate⟩ := hreads.frame frame hframe
  obtain ⟨reread, hread, hdumps⟩ := hreloads row.payload h.column
  have hobject := storedObject_of_read hread hdumps
  obtain ⟨fields, rfl⟩ := eq_obj_of_dumps hdumps
  have hfield : getField fields "contract_version" = .str frame.version.text := by
    have hcongr := getField_congr hdumps frame.payload.uniqueKeys "contract_version"
    rw [hversion] at hcongr
    exact sortKeys_eq_str hcongr
  rw [storedBookFrame, hobject, Transactions.ok_bind,
    Transactions.require_pos ((digest_congr hdumps).trans h.payloadSha256.symm), Transactions.ok_bind,
    bookFrameVersion_text hfield, Transactions.ok_bind, hvalidate _ hdumps, Transactions.found_some, Transactions.ok_bind,
    Transactions.require_pos h.frameSha256, Transactions.ok_bind, Transactions.require_pos h.rawPayloadSha256,
    Transactions.ok_bind, Transactions.require_pos h.frameContractVersion, Transactions.ok_bind,
    Transactions.require_pos h.evidence]
  rfl

/-- The head of the chain of a symbol. -/
def barHead (rows : List SimClosedBarRow) (symbol : String) : Option SimulationChainHead :=
  (rows.filter (·.symbol = symbol)).head?.map fun last =>
    ⟨symbol, (rows.filter (·.symbol = symbol)).length, last.chainSha256⟩

/-- What the loop over the bars has of those that it has read. -/
structure BarTails.Of (tails : BarTails) (rows : List SimClosedBarRow) : Prop where
  previous : ∀ symbol, tails.previous symbol =
    (rows.filter (·.symbol = symbol)).head?.map fun r => ⟨r.closeTimeMs, r.barSha256, r.chainSha256⟩
  symbols : (tails.heads.map (·.symbol)).Nodup
  heads : ∀ head, head ∈ tails.heads ↔ barHead rows head.symbol = some head

theorem BarTails.Of.count {tails : BarTails} {rows : List SimClosedBarRow} (h : tails.Of rows) (symbol : String) :
    tails.count symbol = (rows.filter (·.symbol = symbol)).length := by
  unfold BarTails.count
  cases hrows : rows.filter (·.symbol = symbol) with
  | nil =>
    have hnone : tails.heads.find? (·.symbol = symbol) = none := by
      apply KeyedRows.find?_eq_none_iff.mpr
      intro head hmem hsymbol
      have hhead := (h.heads head).mp hmem
      rw [barHead, hsymbol, hrows] at hhead
      cases hhead
    rw [hnone]
    rfl
  | cons last earlier =>
    have hmem : (⟨symbol, (rows.filter (·.symbol = symbol)).length, last.chainSha256⟩ : SimulationChainHead) ∈ tails.heads := by
      apply (h.heads _).mpr
      rw [barHead, hrows]
      rfl
    have hfind := KeyedRows.find?_eq h.symbols hmem
    dsimp only at hfind
    rw [hfind, Option.map_some, Option.getD_some, hrows]

/-- The verifier follows the chain of a symbol. -/
theorem BarTails.Of.step {tails : BarTails} {earlier : List SimClosedBarRow} {row : SimClosedBarRow}
    {bar : ClosedBarEvent} (h : tails.Of earlier) (hreads : contracts.Reads bars frames) (hbar : bars bar)
    (hof : row.Of bar) (hchain : BarChain tapeId row.symbol (row :: earlier.filter (·.symbol = row.symbol))) :
    ∃ next, verifyBar contracts tapeId (some tails) row = .ok (some next) ∧ next.Of (row :: earlier) := by
  cases hchain with
  | append chain hopen hprevious hlink =>
    have htail := h.previous row.symbol
    have hsha : (tails.previous row.symbol).map (·.barSha256) = row.previousBarSha256 := by
      rw [htail, Option.map_map, hprevious]
      rfl
    have hhead : barChainSha256 tapeId row.symbol ((tails.previous row.symbol).map (·.chainSha256)) row.barSha256 =
        row.chainSha256 := by
      rw [htail, Option.map_map, hlink]
      rfl
    have hcontiguous : ¬∃ tail ∈ tails.previous row.symbol, bar.openTimeMs ≠ tail.closeTimeMs + 1 := by
      rintro ⟨tail, hmem, hne⟩
      rw [htail] at hmem
      obtain ⟨last, hlast, rfl⟩ := Option.map_eq_some_iff.mp hmem
      exact hne (hof.openTimeMs.symm.trans (hopen last hlast))
    have hsame : ¬(bar.barSha256 ≠ some row.barSha256 ∨ bar.symbol ≠ row.symbol ∨ bar.openTimeMs ≠ row.openTimeMs ∨
        bar.closeTimeMs ≠ row.closeTimeMs) := by
      simp [hof.barSha256, hof.symbol, hof.openTimeMs, hof.closeTimeMs]
    refine ⟨⟨Function.update tails.previous row.symbol (some ⟨bar.closeTimeMs, row.barSha256, row.chainSha256⟩),
      KeyedRows.upsert (·.symbol) ⟨row.symbol, tails.count row.symbol + 1, row.chainSha256⟩ tails.heads⟩, ?_, ?_, ?_, ?_⟩
    · rw [verifyBar, hof.stored hreads hbar, Transactions.ok_bind]
      dsimp only
      rw [hhead, hsha, if_neg hsame, if_neg hcontiguous, if_neg (not_not.mpr rfl), if_neg (not_not.mpr rfl)]
      rfl
    · intro symbol
      dsimp only
      by_cases hsymbol : row.symbol = symbol
      · subst hsymbol
        rw [Function.update_self, List.filter_cons, if_pos (decide_eq_true rfl), List.head?_cons, Option.map_some,
          hof.closeTimeMs]
      · rw [Function.update_of_ne (Ne.symm hsymbol), h.previous,
          List.filter_cons, if_neg (by simpa using hsymbol)]
    · exact KeyedRows.nodup_upsert h.symbols
    · intro head
      dsimp only
      rw [KeyedRows.mem_upsert, barHead, h.count]
      dsimp only
      by_cases hsymbol : row.symbol = head.symbol
      · rw [List.filter_cons, if_pos (decide_eq_true hsymbol), List.head?_cons, Option.map_some, ← hsymbol,
          List.length_cons, Nat.cast_add, Nat.cast_one, Option.some.injEq]
        simp [eq_comm]
      · rw [List.filter_cons, if_neg (by simpa using hsymbol), h.heads, barHead]
        constructor
        · rintro (rfl | ⟨hmem, -⟩)
          · exact absurd rfl hsymbol
          · exact hmem
        · intro hmem
          exact Or.inr ⟨hmem, Ne.symm hsymbol⟩

theorem BarChain.of_filter_cons {symbol : String} {earlier : List SimClosedBarRow} {row : SimClosedBarRow}
    (h : BarChain tapeId symbol ((row :: earlier).filter (·.symbol = symbol))) :
    BarChain tapeId symbol (earlier.filter (·.symbol = symbol)) := by
  by_cases hsymbol : row.symbol = symbol
  · rw [List.filter_cons, if_pos (decide_eq_true hsymbol)] at h
    cases h with
    | append chain _ _ _ => exact chain
  · rwa [List.filter_cons, if_neg (by simpa using hsymbol)] at h

/-- The verifier follows the chains of all symbols. -/
theorem verifyBars {rows : List SimClosedBarRow} (hreads : contracts.Reads bars frames)
    (hrows : ∀ r ∈ rows, ∃ bar, bars bar ∧ r.Of bar)
    (hchains : ∀ symbol, BarChain tapeId symbol (rows.filter (·.symbol = symbol))) :
    ∃ tails, rows.reverse.foldlM (verifyBar contracts tapeId) (some ⟨fun _ => none, []⟩) = .ok (some tails) ∧
      tails.Of rows := by
  induction rows with
  | nil => exact ⟨_, rfl, fun _ => rfl, List.nodup_nil, by simp [barHead]⟩
  | cons row earlier ih =>
    obtain ⟨⟨bar, hbar, hof⟩, hrows⟩ := List.forall_mem_cons.mp hrows
    obtain ⟨tails, hfold, htails⟩ := ih hrows fun symbol => (hchains symbol).of_filter_cons
    have hchain := hchains row.symbol
    rw [List.filter_cons, if_pos (decide_eq_true rfl)] at hchain
    obtain ⟨next, hstep, hnext⟩ := htails.step hreads hbar hof hchain
    refine ⟨next, ?_, hnext⟩
    rw [List.reverse_cons, List.foldlM_append, hfold, Transactions.ok_bind, List.foldlM_cons, hstep]
    rfl

/-- Where the loop over the frames is after those that it has read. -/
def frameTail (rows : List SimBookFrameRow) : FrameTail where
  sequence := rows.length
  frameSha256 := rows.head?.map (·.frameSha256)
  chainSha256 := rows.head?.map (·.chainSha256)
  clocks symbol := (rows.filter (·.symbol = symbol)).head?.map (·.toBookClock)

theorem SimBookFrameRow.Follows.not_breaks {row prior : SimBookFrameRow} {frame : RecordedBookFrame}
    (h : row.Follows prior) (hof : row.Of frame) : ¬frame.Breaks prior.toBookClock := by
  unfold SimBookFrameRow.Follows at h
  rw [hof.clock, hof.continuity] at h
  split at h
  · rename_i hepoch
    rintro (⟨-, hregressed⟩ | ⟨hne, -⟩)
    · exact h hregressed
    · exact hne hepoch
  · rename_i hepoch
    rintro (⟨heq, -⟩ | ⟨-, hne⟩)
    · exact hepoch heq
    · exact hne h

/-- The verifier follows the chain of the frames. -/
theorem verifyFrames {rows : List SimBookFrameRow} (hreads : contracts.Reads bars frames)
    (hrows : ∀ r ∈ rows, ∃ frame, frames frame ∧ r.Of frame) (hchain : FrameChain tapeId rows) :
    rows.reverse.foldlM (verifyFrame contracts tapeId) (some ⟨0, none, none, fun _ => none⟩) =
      .ok (some (frameTail rows)) := by
  induction hchain with
  | empty => rfl
  | @append earlier row chain _ hsequence hprevious hlink hstream ih =>
    obtain ⟨⟨frame, hframe, hof⟩, hrows⟩ := List.forall_mem_cons.mp hrows
    have hcontinues : ¬∃ prior ∈ (frameTail earlier).clocks frame.symbol, frame.Breaks prior := by
      rintro ⟨clock, hclock, hbreaks⟩
      rw [← hof.symbol] at hclock
      obtain ⟨prior, hprior, rfl⟩ := Option.map_eq_some_iff.mp hclock
      exact (hstream prior hprior).not_breaks hof hbreaks
    have hnext : frame.tapeSequence = (frameTail earlier).sequence + 1 := hof.tapeSequence.symm.trans hsequence
    have hbefore : frame.previousFrameSha256 = (frameTail earlier).frameSha256 :=
      hof.previousFrameSha256.symm.trans hprevious
    have hlink : row.chainSha256 = frameChainSha256 tapeId (frameTail earlier).chainSha256 row.frameSha256 := hlink
    rw [List.reverse_cons, List.foldlM_append, ih hrows, Transactions.ok_bind, List.foldlM_cons, verifyFrame,
      hof.stored hreads hframe, Transactions.ok_bind]
    dsimp only
    rw [if_neg (not_not.mpr hof.frameSha256), if_neg (not_not.mpr hnext), if_neg (not_not.mpr hbefore),
      if_neg (not_not.mpr hlink), if_neg hcontinues]
    refine congrArg (fun tail => Except.ok (some tail)) ?_
    have hclocks : Function.update (frameTail earlier).clocks frame.symbol (some frame.toBookClock) =
        (frameTail (row :: earlier)).clocks := by
      funext symbol
      dsimp only [frameTail]
      by_cases hsymbol : row.symbol = symbol
      · rw [List.filter_cons, if_pos (decide_eq_true hsymbol), ← hsymbol, hof.symbol, Function.update_self, ← hof.clock]
        rfl
      · rw [List.filter_cons, if_neg (by simpa using hsymbol),
          Function.update_of_ne fun heq => hsymbol (hof.symbol.trans heq.symm)]
    have hlength : frame.tapeSequence = ((row :: earlier).length : ℤ) := by
      rw [← hof.tapeSequence, hsequence, List.length_cons, Nat.cast_add, Nat.cast_one]
    rw [hclocks, hof.frameSha256, ← hlink, hlength]
    rfl

end Following

end KairosPersistence
