import KairosPersistence.TapeRecords

/-!
What every tape keeps: its bars and its frames are chains, its columns are those
of the last frame, a seal has the heads of the chains, and it verifies.
-/

namespace KairosPersistence

open PythonJson PythonText Relation
open Transactions (bind_ok require_ok ok_bind require_pos)

variable {contracts : TapeContracts} {bars : ClosedBarEvent → Prop} {frames : RecordedBookFrame → Prop}
  {tapeId : String} {tape after : SimTape}

def SimTape.bookChain (tape : SimTape) : SimulationBookChainHead :=
  ⟨tape.bookFrames.length, tape.bookFrames.head?.map (·.chainSha256)⟩

structure SimTape.Recorded (contracts : TapeContracts) (bars : ClosedBarEvent → Prop)
    (frames : RecordedBookFrame → Prop) (tapeId : String) (tape : SimTape) : Prop where
  bars : ∀ r ∈ tape.closedBars, ∃ bar, bars bar ∧ r.Of bar
  barChain : ∀ symbol, BarChain tapeId symbol (tape.barsOf symbol)
  frames : ∀ r ∈ tape.bookFrames, ∃ frame, frames frame ∧ r.Of frame
  frameChain : FrameChain tapeId tape.bookFrames
  bookFrameCount : tape.bookFrameCount = tape.bookFrames.length
  bookChainHead : tape.bookChainHeadSha256 = tape.bookFrames.head?.map (·.chainSha256)
  admitted : tape.state.isOpen = true → ∀ r ∈ tape.bookFrames, r.continuity = .admitted
  sealed : ∀ columns, tape.state = .sealed columns → ∃ tapeSeal,
    storedModel contracts.tapeSeal columns.sealPayload columns.sealPayloadSha256 "simulation tape seal" = .ok tapeSeal ∧
    tapeSeal.tapeSha256 = some columns.tapeSha256 ∧ tapeSeal.barChains = tape.barHeads ∧
    tapeSeal.bookChain = tape.bookChain ∧ ∀ symbol, symbol ∈ tape.barHeads.map (·.symbol) ↔ symbol ∈ simulationSymbols

namespace SimTape.Recorded

theorem blank : SimTape.blank.Recorded contracts bars frames tapeId where
  bars := by simp [SimTape.blank]
  barChain _ := .empty
  frames := by simp [SimTape.blank]
  frameChain := .empty
  bookFrameCount := rfl
  bookChainHead := rfl
  admitted := by simp [SimTape.blank]
  sealed := by simp [SimTape.blank]

theorem lastBar (h : tape.Recorded contracts bars frames tapeId) (symbol : String) :
    tape.lastBar symbol = (tape.barsOf symbol).head? := by
  apply KeyedRows.greatest_eq_head?
  apply (h.barChain symbol).pairwise
  intro r hr
  exact tape.barsChecked r (List.mem_of_mem_filter hr)

theorem lastFrame (h : tape.Recorded contracts bars frames tapeId) :
    tape.lastFrame = tape.bookFrames.head? :=
  KeyedRows.greatest_eq_head? h.frameChain.pairwise

theorem lastFrameOf (h : tape.Recorded contracts bars frames tapeId) (symbol : String) :
    tape.lastFrameOf symbol = (tape.framesOf symbol).head? :=
  KeyedRows.greatest_eq_head? (h.frameChain.pairwise.filter _)

theorem not_sealed (h : tape.state.isOpen = true) (columns : TapeSealColumns) : tape.state ≠ .sealed columns := by
  intro hstate
  rw [hstate] at h
  cases h

theorem insertBar (h : tape.Recorded contracts bars frames tapeId) (hopen : tape.state.isOpen = true)
    {row : SimClosedBarRow} {bar : ClosedBarEvent} (hbar : bars bar) (hof : row.Of bar)
    (hcontiguous : ∀ r ∈ (tape.barsOf row.symbol).head?, row.openTimeMs = r.closeTimeMs + 1)
    (hprevious : row.previousBarSha256 = (tape.barsOf row.symbol).head?.map (·.barSha256))
    (hchain : row.chainSha256 = barChainSha256 tapeId row.symbol
      ((tape.barsOf row.symbol).head?.map (·.chainSha256)) row.barSha256)
    (haccepts : tape.AcceptsBar row) : (tape.insertBar row haccepts).Recorded contracts bars frames tapeId := by
  refine { h with bars := ?_, barChain := ?_, sealed := ?_ }
  · exact List.forall_mem_cons.mpr ⟨⟨bar, hbar, hof⟩, h.bars⟩
  · intro symbol
    rw [SimTape.barsOf, SimTape.insertBar, List.filter_cons]
    by_cases hsymbol : row.symbol = symbol
    · rw [if_pos (decide_eq_true hsymbol)]
      subst hsymbol
      exact (h.barChain row.symbol).append hcontiguous hprevious hchain
    · rw [if_neg (by simpa using hsymbol)]
      exact h.barChain symbol
  · intro columns hstate
    exact absurd hstate (not_sealed hopen columns)

/-- The checks of a frame are those of its chain. -/
theorem follows (h : tape.Recorded contracts bars frames tapeId) (hopen : tape.state.isOpen = true)
    {row : SimBookFrameRow} {frame : RecordedBookFrame} {previous : Option String} (hof : row.Of frame)
    (hprevious : checkPredecessor frame tape.bookFrames.head? = .ok previous)
    (hstream : checkStream frame (tape.framesOf row.symbol).head? = .ok ())
    (hchain : row.chainSha256 = frameChainSha256 tapeId previous row.frameSha256) :
    FrameChain tapeId (row :: tape.bookFrames) := by
  have hlength := h.frameChain.sequence_length
  have hplace : row.tapeSequence = tape.bookFrames.length + 1 ∧
      row.previousFrameSha256 = tape.bookFrames.head?.map (·.frameSha256) ∧
      previous = tape.bookFrames.head?.map (·.chainSha256) := by
    cases hhead : tape.bookFrames.head? with
    | none =>
      rw [hhead] at hprevious
      obtain ⟨_, hfirst, hnone⟩ := bind_ok hprevious
      obtain ⟨hsequence, hsha⟩ := require_ok hfirst
      rw [List.head?_eq_none_iff.mp hhead]
      exact ⟨hof.tapeSequence.trans hsequence, hof.previousFrameSha256.trans hsha, (Except.ok.inj hnone).symm⟩
    | some last =>
      rw [hhead] at hprevious
      obtain ⟨_, hnext, hprevious⟩ := bind_ok hprevious
      obtain ⟨_, hsha, hsome⟩ := bind_ok hprevious
      refine ⟨?_, hof.previousFrameSha256.trans (require_ok hsha), (Except.ok.inj hsome).symm⟩
      rw [hof.tapeSequence, require_ok hnext, hlength last hhead]
  refine h.frameChain.append (h.admitted hopen) hplace.1 hplace.2.1 (hplace.2.2 ▸ hchain) ?_
  intro prior hprior
  rw [SimTape.framesOf, Option.mem_def.mp hprior] at hstream
  unfold checkStream at hstream
  unfold SimBookFrameRow.Follows
  rw [hof.clock, hof.continuity]
  dsimp only at hstream
  split at hstream
  · rename_i hepoch
    rw [if_pos hepoch]
    exact require_ok hstream
  · rename_i hepoch
    rw [if_neg hepoch]
    exact require_ok hstream

theorem insertFrame (h : tape.Recorded contracts bars frames tapeId) (hopen : tape.state.isOpen = true)
    {row : SimBookFrameRow} {frame : RecordedBookFrame} (hframe : frames frame) (hof : row.Of frame)
    (hchain : FrameChain tapeId (row :: tape.bookFrames)) (haccepts : tape.AcceptsFrame row) :
    (tape.insertFrame row haccepts).Recorded contracts bars frames tapeId := by
  refine { h with frames := ?_, frameChain := hchain, bookFrameCount := ?_, bookChainHead := rfl, admitted := ?_, sealed := ?_ }
  · exact List.forall_mem_cons.mpr ⟨⟨frame, hframe, hof⟩, h.frames⟩
  · have hcount := h.bookFrameCount
    simp only [SimTape.insertFrame, List.length_cons]
    omega
  · intro hstate
    refine List.forall_mem_cons.mpr ⟨?_, h.admitted hopen⟩
    by_contra hbarrier
    simp only [SimTape.insertFrame] at hstate
    rw [if_neg hbarrier] at hstate
    cases hstate
  · intro columns hstate
    simp only [SimTape.insertFrame] at hstate
    split at hstate
    · exact absurd hstate (not_sealed hopen columns)
    · cases hstate

theorem setSealed (h : tape.Recorded contracts bars frames tapeId) (hreads : contracts.Reads bars frames)
    {manifest : TapeManifest} {tapeSeal : SimulationTapeSeal} {columns : TapeSealColumns}
    (hbars : manifest.barChains = tape.barHeads) (hframes : manifest.bookChain = tape.bookChain)
    (hsymbols : sameSymbols (tape.barHeads.map (·.symbol)) simulationSymbols = true)
    (hseal : contracts.newTapeSeal manifest = some tapeSeal) (htapeSha256 : tapeSeal.tapeSha256 = some columns.tapeSha256)
    (hpayload : columns.sealPayloadSha256 = digest tapeSeal.payload.value)
    (hcolumn : Jsonb.jsonbIn (dumps tapeSeal.payload.value) = some columns.sealPayload) :
    SimTape.Recorded contracts bars frames tapeId { tape with state := .sealed columns } := by
  refine { h with admitted := ?_, sealed := ?_ }
  · intro hstate
    cases hstate
  · intro columns' hstate
    obtain rfl : columns = columns' := SimTapeState.sealed.inj hstate
    obtain ⟨hmadeBars, hmadeFrames, hreloads, hvalidate⟩ := hreads.tapeSeal manifest tapeSeal hseal
    refine ⟨tapeSeal, ?_, htapeSha256, hmadeBars.trans hbars, hmadeFrames.trans hframes, ?_⟩
    · rw [hpayload]
      exact hreloads.model hcolumn hvalidate _
    · intro symbol
      have hsame := of_decide_eq_true hsymbols
      exact ⟨hsame.1 symbol, hsame.2 symbol⟩

theorem write (h : tape.Recorded contracts bars frames tapeId) (hreads : contracts.Reads bars frames)
    (hopen : tape.state.isOpen = true) (hwrite : TapeWrite contracts bars frames tapeId tape after) :
    after.Recorded contracts bars frames tapeId := by
  cases hwrite with
  | bar hbar hof hcontiguous hprevious hchain haccepts =>
    rw [h.lastBar] at hcontiguous hprevious hchain
    exact h.insertBar hopen hbar hof hcontiguous hprevious hchain haccepts
  | frame hframe htape hof hprevious hstream hchain haccepts =>
    rw [h.lastFrame] at hprevious
    rw [h.lastFrameOf] at hstream
    exact h.insertFrame hopen hframe hof (h.follows hopen hof hprevious hstream hchain) haccepts
  | manifest hbars hlast hframes hsymbols hseal htapeSha256 hpayload hcolumn =>
    rw [h.lastFrame] at hlast
    refine h.setSealed hreads hbars ?_ hsymbols hseal htapeSha256 hpayload hcolumn
    rw [hframes, SimTape.bookChain, hlast]
    rfl

/-- The bars of the tape in the order that the verifier reads them, the last one first. -/
def sortedBars (tape : SimTape) : List SimClosedBarRow :=
  (tape.closedBars.insertionSort fun a b => toLex (a.symbol, a.openTimeMs) ≤ toLex (b.symbol, b.openTimeMs)).reverse

theorem mem_sortedBars {row : SimClosedBarRow} : row ∈ sortedBars tape ↔ row ∈ tape.closedBars := by
  rw [sortedBars, List.mem_reverse, List.mem_insertionSort]

/-- Sorting does not change the bars of a symbol. -/
theorem sortedBars_filter (h : tape.Recorded contracts bars frames tapeId) (symbol : String) :
    (sortedBars tape).filter (·.symbol = symbol) = tape.barsOf symbol := by
  have hperm : ((sortedBars tape).filter (·.symbol = symbol)).Perm (tape.barsOf symbol) :=
    ((List.reverse_perm _).trans (List.perm_insertionSort _ _)).filter _
  have hchecked : ∀ r ∈ tape.barsOf symbol, r.Checked := fun r hr => tape.barsChecked r (List.mem_of_mem_filter hr)
  have hsorted : (sortedBars tape).Pairwise fun a b => toLex (b.symbol, b.openTimeMs) ≤ toLex (a.symbol, a.openTimeMs) := by
    apply List.pairwise_reverse.mpr
    have : Std.Total fun a b : SimClosedBarRow => toLex (a.symbol, a.openTimeMs) ≤ toLex (b.symbol, b.openTimeMs) :=
      ⟨fun a b => le_total (toLex (a.symbol, a.openTimeMs)) (toLex (b.symbol, b.openTimeMs))⟩
    have : IsTrans SimClosedBarRow fun a b => toLex (a.symbol, a.openTimeMs) ≤ toLex (b.symbol, b.openTimeMs) :=
      ⟨fun _ _ _ hab hbc => hab.trans hbc⟩
    exact List.pairwise_insertionSort _ _
  have hfilter : ((sortedBars tape).filter (·.symbol = symbol)).Pairwise fun a b => b.openTimeMs ≤ a.openTimeMs := by
    refine (hsorted.filter _).imp_of_mem fun {a b} ha hb hle => ?_
    have hsymbols : b.symbol = a.symbol :=
      (of_decide_eq_true (List.mem_filter.mp hb).2).trans (of_decide_eq_true (List.mem_filter.mp ha).2).symm
    rcases Prod.Lex.toLex_le_toLex.mp hle with hlt | ⟨-, hle⟩
    · exact absurd hsymbols hlt.ne
    · exact hle
  refine hperm.eq_of_pairwise ?_ hfilter (((h.barChain symbol).pairwise hchecked).imp fun hlt => hlt.le)
  intro a b ha hb hba hab
  have ha := List.mem_filter.mp (hperm.mem_iff.mp ha)
  have hb := List.mem_filter.mp hb
  refine List.inj_on_of_nodup_map tape.barKeys ha.1 hb.1 ?_
  exact Prod.ext ((of_decide_eq_true ha.2).trans (of_decide_eq_true hb.2).symm) (le_antisymm hab hba)

theorem mem_barHeads (h : tape.Recorded contracts bars frames tapeId) {head : SimulationChainHead} :
    head ∈ tape.barHeads ↔ barHead tape.closedBars head.symbol = some head := by
  rw [SimTape.barHeads, List.mem_filterMap]
  constructor
  · rintro ⟨symbol, -, hsome⟩
    rw [h.lastBar] at hsome
    obtain ⟨last, hlast, rfl⟩ := Option.map_eq_some_iff.mp hsome
    exact Option.map_eq_some_iff.mpr ⟨last, hlast, rfl⟩
  · intro hhead
    refine ⟨head.symbol, ?_, ?_⟩
    · obtain ⟨last, hlast, -⟩ := Option.map_eq_some_iff.mp hhead
      obtain ⟨hmem, hsymbol⟩ := List.mem_filter.mp (List.mem_of_mem_head? hlast)
      rw [List.mem_insertionSort, List.mem_dedup]
      exact List.mem_map.mpr ⟨last, hmem, of_decide_eq_true hsymbol⟩
    · rw [h.lastBar]
      exact hhead

/-- The heads are in the order of their symbols. -/
theorem barHeads_pairwise : tape.barHeads.Pairwise fun a b => a.symbol < b.symbol := by
  have hsymbols : ((tape.closedBars.map (·.symbol)).dedup.insertionSort (· ≤ ·)).Pairwise (· < ·) := by
    have hsorted := List.pairwise_insertionSort (· ≤ ·) (tape.closedBars.map (·.symbol)).dedup
    have hnodup := (List.perm_insertionSort (· ≤ ·) (tape.closedBars.map (·.symbol)).dedup).nodup_iff.mpr (List.nodup_dedup _)
    exact hsorted.imp₂ (fun _ _ hle hne => lt_of_le_of_ne hle hne) hnodup
  refine hsymbols.filterMap _ ?_
  intro a b hlt x hx y hy
  obtain ⟨_, -, rfl⟩ := Option.map_eq_some_iff.mp hx
  obtain ⟨_, -, rfl⟩ := Option.map_eq_some_iff.mp hy
  exact hlt

theorem verify (h : tape.Recorded contracts bars frames tapeId) (hreads : contracts.Reads bars frames) :
    tape.verify contracts tapeId = .ok true := by
  obtain ⟨tails, hbars, htails⟩ : ∃ tails, (sortedBars tape).reverse.foldlM (verifyBar contracts tapeId)
      (some ⟨fun _ => none, []⟩) = .ok (some tails) ∧ tails.Of (sortedBars tape) :=
    verifyBars hreads (fun r hr => h.bars r (mem_sortedBars.mp hr))
      fun symbol => (h.sortedBars_filter symbol).symm ▸ h.barChain symbol
  have hframes := verifyFrames hreads h.frames h.frameChain
  have hsort : tape.bookFrames.insertionSort (·.tapeSequence ≤ ·.tapeSequence) = tape.bookFrames.reverse :=
    KeyedRows.insertionSort_eq_reverse h.frameChain.pairwise
  rw [sortedBars, List.reverse_reverse] at hbars
  unfold SimTape.verify
  dsimp only
  rw [hbars, ok_bind]
  dsimp only
  rw [hsort, hframes, ok_bind]
  dsimp only
  rw [List.length_reverse, if_neg (by simp [h.bookFrameCount, h.bookChainHead, frameTail])]
  cases hstate : tape.state with
  | «open» => rfl
  | blocked reason => rfl
  | sealed columns =>
    obtain ⟨tapeSeal, hstored, hsha, hbarChains, hbookChain, -⟩ := h.sealed columns hstate
    have hheads : tails.heads.insertionSort (·.symbol ≤ ·.symbol) = tape.barHeads := by
      apply KeyedRows.insertionSort_eq_of_mem_iff htails.symbols barHeads_pairwise
      intro head
      rw [htails.heads, h.mem_barHeads, barHead, barHead, h.sortedBars_filter]
      rfl
    dsimp only
    rw [verifySeal, hstored, ok_bind, if_neg (not_not.mpr hsha), hheads, hbarChains, hbookChain]
    exact congrArg Except.ok (decide_eq_true ⟨rfl, rfl⟩)

end SimTape.Recorded

section Runs

variable {s t : SimTapes}

/-- Every tape is recorded. -/
def SimTapes.Recorded (contracts : TapeContracts) (bars : ClosedBarEvent → Prop) (frames : RecordedBookFrame → Prop)
    (s : SimTapes) : Prop :=
  ∀ tapeId tape, s.tapes tapeId = some tape → validateTapeId tapeId = .ok () ∧ tape.Recorded contracts bars frames tapeId

theorem SimTapes.Recorded.step (h : s.Recorded contracts bars frames) (hreads : contracts.Reads bars frames)
    (hids : ∀ frame, frames frame → validateTapeId frame.tapeId = .ok ()) (hstep : TapeStep contracts bars frames s t) :
    t.Recorded contracts bars frames := by
  rcases hstep.written hids with hsame | ⟨written, hid, before, after, hbefore, hopen, hwrite, htapes⟩
  · unfold SimTapes.Recorded
    rw [hsame]
    exact h
  · intro tapeId tape htape
    rw [htapes] at htape
    by_cases hwritten : tapeId = written
    · subst hwritten
      rw [Function.update_self] at htape
      obtain rfl := Option.some.inj htape
      refine ⟨hid, ?_⟩
      rcases hbefore with hstored | ⟨-, rfl⟩
      · exact (h tapeId before hstored).2.write hreads hopen hwrite
      · exact SimTape.Recorded.blank.write hreads hopen hwrite
    · rw [Function.update_of_ne hwritten] at htape
      exact h tapeId tape htape

theorem SimTapes.Recorded.reachable (hreads : contracts.Reads bars frames)
    (hids : ∀ frame, frames frame → validateTapeId frame.tapeId = .ok ())
    (hs : SimTapes.Reachable contracts bars frames s) : s.Recorded contracts bars frames := by
  refine hs.invariant ?_ fun s t h hstep => h.step hreads hids hstep
  intro s₀ h₀ tapeId tape htape
  rw [h₀ tapeId] at htape
  cases htape

theorem TapeWrite.subset {before : SimTape} (h : TapeWrite contracts bars frames tapeId before after) :
    before.closedBars ⊆ after.closedBars ∧ before.bookFrames ⊆ after.bookFrames := by
  cases h with
  | bar => exact ⟨List.subset_cons_self _ _, List.Subset.refl _⟩
  | frame => exact ⟨List.Subset.refl _, List.subset_cons_self _ _⟩
  | manifest => exact ⟨List.Subset.refl _, List.Subset.refl _⟩

/-- A tape stays, with what is recorded on it, and one that is not open stays as it is. -/
structure SimTape.Stays (before after : SimTape) : Prop where
  bars : before.closedBars ⊆ after.closedBars
  frames : before.bookFrames ⊆ after.bookFrames
  closed : before.state.isOpen = false → after = before

theorem SimTape.Stays.refl (tape : SimTape) : tape.Stays tape := ⟨List.Subset.refl _, List.Subset.refl _, fun _ => rfl⟩

theorem SimTape.Stays.trans {a b c : SimTape} (hab : a.Stays b) (hbc : b.Stays c) : a.Stays c where
  bars := List.Subset.trans hab.bars hbc.bars
  frames := List.Subset.trans hab.frames hbc.frames
  closed hclosed := by
    obtain rfl := hab.closed hclosed
    exact hbc.closed hclosed

theorem TapeStep.stays (hids : ∀ frame, frames frame → validateTapeId frame.tapeId = .ok ())
    (hstep : TapeStep contracts bars frames s t) (htape : s.tapes tapeId = some tape) :
    ∃ after, t.tapes tapeId = some after ∧ tape.Stays after := by
  rcases hstep.written hids with hsame | ⟨written, -, before, after, hbefore, hopen, hwrite, htapes⟩
  · rw [hsame]
    exact ⟨tape, htape, .refl tape⟩
  · rw [htapes]
    by_cases hwritten : tapeId = written
    · subst hwritten
      rw [Function.update_self]
      rcases hbefore with hstored | ⟨hnone, -⟩
      · obtain rfl : tape = before := Option.some.inj (htape.symm.trans hstored)
        refine ⟨after, rfl, hwrite.subset.1, hwrite.subset.2, fun hclosed => ?_⟩
        rw [hclosed] at hopen
        cases hopen
      · rw [hnone] at htape
        cases htape
    · rw [Function.update_of_ne hwritten]
      exact ⟨tape, htape, .refl tape⟩

theorem run_stays (hids : ∀ frame, frames frame → validateTapeId frame.tapeId = .ok ())
    (hrun : ReflTransGen (TapeStep contracts bars frames) s t) (htape : s.tapes tapeId = some tape) :
    ∃ after, t.tapes tapeId = some after ∧ tape.Stays after := by
  induction hrun with
  | refl => exact ⟨tape, htape, .refl tape⟩
  | tail _ hbc ih =>
    obtain ⟨middle, hmiddle, hstays⟩ := ih
    obtain ⟨after, hafter, hnext⟩ := hbc.stays hids hmiddle
    exact ⟨after, hafter, hstays.trans hnext⟩

end Runs

end KairosPersistence
