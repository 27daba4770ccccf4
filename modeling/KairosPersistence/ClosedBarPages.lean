import KairosPersistence.KeysetPages
import KairosPersistence.RecordedTapes

/-!
`load_closed_bar_page`: the bars of a symbol of a sealed tape, page by page, and
never over a gap.
-/

namespace KairosPersistence

open PythonJson PythonText
open Transactions (bind_ok ok_bind error_bind require require_ok require_pos require_neg found found_some)
open KeysetPages (page Serves Lossless)

section Loading

variable (contracts : TapeContracts)

/-- The columns of a row are those of the bar that it holds, which is of the symbol. -/
def SimClosedBarRow.Matches (row : SimClosedBarRow) (symbol : String) (bar : ClosedBarEvent) : Prop :=
  bar.symbol = symbol ∧ bar.symbol = row.symbol ∧ bar.openTimeMs = row.openTimeMs ∧ bar.closeTimeMs = row.closeTimeMs ∧
    bar.barSha256 = some row.barSha256

instance (row : SimClosedBarRow) (symbol : String) (bar : ClosedBarEvent) : Decidable (row.Matches symbol bar) :=
  inferInstanceAs (Decidable (_ ∧ _))

/-- The end of the bar at the cursor. -/
def cursorCloseTimeMs (tape : SimTape) (symbol : String) (afterOpenTimeMs : ℤ) : Except SimulatorError ℤ := do
  let cursor ← found ((tape.barsOf symbol).find? (·.openTimeMs = afterOpenTimeMs))
    (.valueError "simulation bar page cursor is not a stored bar boundary")
  let previous ← storedModel contracts.bar cursor.payload cursor.payloadSha256 "simulation closed bar cursor"
  require (cursor.Matches symbol previous)
    (.messageIdentityConflict "simulation bar page cursor identity does not match its row")
  pure previous.closeTimeMs

/-- The loop over the bars and their rows; `previous` is where the last bar has closed. -/
def checkBarPage (symbol : String) : Option ℤ → List (ClosedBarEvent × SimClosedBarRow) → Except SimulatorError Unit
  | _, [] => .ok ()
  | previous, (bar, row) :: rest => do
    require (row.Matches symbol bar)
      (.messageIdentityConflict "simulation closed bar identity does not match its tape row")
    require (∀ closeTimeMs ∈ previous, bar.openTimeMs = closeTimeMs + 1)
      (.messageIdentityConflict "simulation closed bar page is not a contiguous tape prefix")
    checkBarPage symbol (some bar.closeTimeMs) rest

/-- `load_closed_bar_page`. -/
def loadClosedBarPage (tapeId symbol : String) (afterOpenTimeMs : Option ℤ) (limit : ℤ) (s : SimTapes) :
    Except SimulatorError (List ClosedBarEvent) := do
  validateTapeId tapeId
  require (symbol ∈ simulationSymbols)
    (.valueError "simulation bar selection is outside the fixed five-symbol universe")
  require (∀ after ∈ afterOpenTimeMs, 0 ≤ after)
    (.valueError "after_open_time_ms must be a non-negative integer Unix timestamp in milliseconds")
  require (1 ≤ limit ∧ limit ≤ 10000)
    (.valueError "simulation bar page limit must be an integer from 1 through 10000")
  let tape ← found (s.tapes tapeId) (.keyError "unknown simulation tape")
  match tape.state with
  | .sealed _ => do
    let previous ← afterOpenTimeMs.mapM (cursorCloseTimeMs contracts tape symbol)
    let rows := page (tape.barsOf symbol) (·.openTimeMs) afterOpenTimeMs limit.toNat
    let bars ← rows.mapM fun row => storedModel contracts.bar row.payload row.payloadSha256 "simulation closed bar"
    checkBarPage symbol previous (bars.zip rows)
    pure bars
  | _ => .error (.valueError "simulation bar replay requires an immutable sealed tape")

end Loading

/-- The next bar opens where the last one has closed. -/
def ClosedBarEvent.Before (prior next : ClosedBarEvent) : Prop := next.openTimeMs = prior.closeTimeMs + 1

/-- The rows of a symbol, in their order. -/
def SimTape.orderedBars (tape : SimTape) (symbol : String) : List SimClosedBarRow :=
  (tape.barsOf symbol).insertionSort fun a b => a.openTimeMs ≤ b.openTimeMs

/-- The row holds the bar. -/
structure SimClosedBarRow.Holds (contracts : TapeContracts) (symbol : String) (row : SimClosedBarRow)
    (bar : ClosedBarEvent) : Prop where
  stored : ∀ entity, storedModel contracts.bar row.payload row.payloadSha256 entity = .ok bar
  identity : row.Matches symbol bar

section Pages

variable {contracts : TapeContracts} {tape : SimTape} {symbol : String} {rows : List SimClosedBarRow}
  {bars before after : List ClosedBarEvent}

theorem SimTape.nodup_openTimeMs (tape : SimTape) (symbol : String) :
    ((tape.barsOf symbol).map (·.openTimeMs)).Nodup := by
  have hkeys : ((tape.barsOf symbol).map fun r => (r.symbol, r.openTimeMs)).Nodup :=
    (List.filter_sublist.map _).nodup tape.barKeys
  rw [List.nodup_map_iff_inj_on hkeys.of_map]
  intro a ha b hb hopen
  have hsymbol {r : SimClosedBarRow} (hr : r ∈ tape.barsOf symbol) : r.symbol = symbol := by
    simpa using (List.mem_filter.mp hr).2
  apply List.inj_on_of_nodup_map hkeys ha hb
  rw [hsymbol ha, hsymbol hb, hopen]

theorem forall₂_getLast? {α β : Type} {S : α → β → Prop} {l : List α} {m : List β} (h : List.Forall₂ S l m) :
    (l = [] ∧ m = []) ∨ ∃ a ∈ l, ∃ b, l.getLast? = some a ∧ m.getLast? = some b ∧ S a b := by
  rcases m.eq_nil_or_concat' with rfl | ⟨front, b, rfl⟩
  · exact Or.inl ⟨List.forall₂_nil_right_iff.mp h, rfl⟩
  · have hlast := List.forall₂_drop_append _ _ _ h
    obtain ⟨a, rest, hab, hrest, hdrop⟩ := List.forall₂_cons_right_iff.mp hlast
    obtain rfl := List.forall₂_nil_right_iff.mp hrest
    have hl : l = l.take front.length ++ [a] := by
      rw [← hdrop, List.take_append_drop]
    refine Or.inr ⟨a, ?_, b, ?_, by simp, hab⟩
    · rw [hl]
      simp
    · rw [hl]
      simp

theorem mapM_stored (h : List.Forall₂ (SimClosedBarRow.Holds contracts symbol) rows bars) (entity : String) :
    rows.mapM (fun row => storedModel contracts.bar row.payload row.payloadSha256 entity) = .ok bars := by
  induction h with
  | nil => rfl
  | cons hrow _ ih =>
    rw [List.mapM_cons, hrow.stored, ok_bind, ih]
    rfl

/-- The loop accepts the bars that go on where the last one has closed. -/
theorem checkBarPage_holds (h : List.Forall₂ (SimClosedBarRow.Holds contracts symbol) rows bars)
    (prior : Option ClosedBarEvent) :
    ((prior.toList ++ bars).IsChain ClosedBarEvent.Before ∧
        checkBarPage symbol (prior.map (·.closeTimeMs)) (bars.zip rows) = .ok ()) ∨
      (¬(prior.toList ++ bars).IsChain ClosedBarEvent.Before ∧
        ∃ e, checkBarPage symbol (prior.map (·.closeTimeMs)) (bars.zip rows) = .error e) := by
  induction h generalizing prior with
  | nil =>
    refine Or.inl ⟨?_, rfl⟩
    cases prior <;> simp
  | @cons row bar rows bars hrow _ ih =>
    have hchain : (prior.toList ++ bar :: bars).IsChain ClosedBarEvent.Before ↔
        (∀ last ∈ prior, last.Before bar) ∧ (bar :: bars).IsChain ClosedBarEvent.Before := by
      cases prior with
      | none => simp
      | some last => simp [List.isChain_cons_cons]
    rw [hchain, List.zip_cons_cons, checkBarPage, require_pos hrow.identity, ok_bind]
    by_cases hnext : ∀ last ∈ prior, last.Before bar
    · rw [require_pos, ok_bind]
      · rcases ih (some bar) with ⟨hrest, hcheck⟩ | ⟨hrest, hcheck⟩
        · exact Or.inl ⟨⟨hnext, hrest⟩, hcheck⟩
        · exact Or.inr ⟨fun hall => hrest hall.2, hcheck⟩
      · intro closeTimeMs hclose
        obtain ⟨last, hlast, rfl⟩ := Option.mem_map.mp hclose
        exact hnext last hlast
    · refine Or.inr ⟨fun hall => hnext hall.1, ?_⟩
      rw [require_neg]
      · exact ⟨_, rfl⟩
      · intro hall
        exact hnext fun last hlast => hall _ (Option.mem_map.mpr ⟨last, hlast, rfl⟩)

theorem cursorCloseTimeMs_holds {row : SimClosedBarRow} {bar : ClosedBarEvent} (hmem : row ∈ tape.barsOf symbol)
    (h : row.Holds contracts symbol bar) : cursorCloseTimeMs contracts tape symbol bar.openTimeMs = .ok bar.closeTimeMs := by
  rw [cursorCloseTimeMs, h.identity.2.2.1, KeyedRows.find?_eq (tape.nodup_openTimeMs symbol) hmem, found_some, ok_bind,
    h.stored, ok_bind, require_pos h.identity, ok_bind]
  rfl

/-- A page of a sealed tape is the next bars, unless there is a gap before one of them. -/
theorem loadClosedBarPage_serves {s : SimTapes} {tapeId : String} {columns : TapeSealColumns}
    (hid : validateTapeId tapeId = .ok ()) (hsymbol : symbol ∈ simulationSymbols) (htape : s.tapes tapeId = some tape)
    (hsealed : tape.state = .sealed columns)
    (hbars : List.Forall₂ (SimClosedBarRow.Holds contracts symbol) (tape.orderedBars symbol) bars) :
    Serves (fun cursor limit => loadClosedBarPage contracts tapeId symbol cursor limit s) (·.openTimeMs) 10000 bars
      ClosedBarEvent.Before := by
  intro before after limit hsplit hleast hmost
  subst hsplit
  have hbefore := List.forall₂_take_append _ _ _ hbars
  have hafter := List.forall₂_drop_append _ _ _ hbars
  have hrows := (List.take_append_drop before.length (tape.orderedBars symbol)).symm
  generalize (tape.orderedBars symbol).take before.length = rowsBefore at *
  generalize (tape.orderedBars symbol).drop before.length = rowsAfter at *
  have hcursor : before.getLast?.map (·.openTimeMs) = rowsBefore.getLast?.map (·.openTimeMs) ∧
      (before.getLast?.map (·.openTimeMs)).mapM (cursorCloseTimeMs contracts tape symbol) =
        .ok (before.getLast?.map (·.closeTimeMs)) ∧
      ∀ openTimeMs ∈ before.getLast?.map (·.openTimeMs), 0 ≤ openTimeMs := by
    rcases forall₂_getLast? hbefore with ⟨rfl, rfl⟩ | ⟨row, hrow, bar, hlastRow, hlastBar, hholds⟩
    · exact ⟨rfl, rfl, by simp⟩
    · have hmem : row ∈ tape.barsOf symbol := by
        rw [← List.mem_insertionSort fun a b : SimClosedBarRow => a.openTimeMs ≤ b.openTimeMs]
        change row ∈ tape.orderedBars symbol
        rw [hrows]
        exact List.mem_append_left _ hrow
      obtain ⟨-, hopen, -⟩ := tape.barsChecked row (List.mem_of_mem_filter hmem)
      rw [hlastRow, hlastBar]
      refine ⟨congrArg some hholds.identity.2.2.1, ?_, ?_⟩
      · simp only [Option.map_some, Option.mapM_some, cursorCloseTimeMs_holds hmem hholds]
        rfl
      · intro openTimeMs hopenTimeMs
        obtain rfl := Option.some.inj hopenTimeMs
        exact hopen.1.trans_eq hholds.identity.2.2.1.symm
  obtain ⟨hcursor, hprevious, hpositive⟩ := hcursor
  have hpage : page (tape.barsOf symbol) (·.openTimeMs) (before.getLast?.map (·.openTimeMs)) limit.toNat =
      rowsAfter.take limit.toNat := by
    rw [hcursor]
    exact KeysetPages.page_append (tape.nodup_openTimeMs symbol) hrows _
  have htake := List.forall₂_take limit.toNat hafter
  have hload : loadClosedBarPage contracts tapeId symbol (before.getLast?.map (·.openTimeMs)) limit s =
      (checkBarPage symbol (before.getLast?.map (·.closeTimeMs)) ((after.take limit.toNat).zip (rowsAfter.take limit.toNat)) >>=
        fun _ => pure (after.take limit.toNat)) := by
    unfold loadClosedBarPage
    rw [hid, ok_bind, require_pos hsymbol, ok_bind, require_pos hpositive, ok_bind, require_pos ⟨hleast, hmost⟩, ok_bind,
      htape, found_some, ok_bind, hsealed]
    simp only [hprevious, hpage, ok_bind, mapM_stored htake]
  rcases checkBarPage_holds htake before.getLast? with ⟨hchain, hcheck⟩ | ⟨hbroken, e, hcheck⟩
  · refine Or.inl ⟨hchain, ?_⟩
    simp only [hload, hcheck]
    rfl
  · refine Or.inr ⟨hbroken, e, ?_⟩
    simp only [hload, hcheck]
    rfl

end Pages

section Recorded

variable {contracts : TapeContracts} {bars : ClosedBarEvent → Prop} {frames : RecordedBookFrame → Prop} {tape : SimTape}
  {tapeId : String}

theorem exists_forall₂ {α β : Type} {S : α → β → Prop} {l : List α} (h : ∀ a ∈ l, ∃ b, S a b) :
    ∃ m, List.Forall₂ S l m := by
  induction l with
  | nil => exact ⟨[], .nil⟩
  | cons a l ih =>
    obtain ⟨⟨b, hb⟩, hl⟩ := List.forall_mem_cons.mp h
    obtain ⟨m, hm⟩ := ih hl
    exact ⟨b :: m, .cons hb hm⟩

theorem isChain_of_forall₂ {α β : Type} {S : α → β → Prop} {R : α → α → Prop} {T : β → β → Prop} {l : List α} {m : List β}
    (h : List.Forall₂ S l m) (hRT : ∀ a b a' b', S a b → S a' b' → R a a' → T b b') (hl : l.IsChain R) : m.IsChain T := by
  induction h with
  | nil => exact .nil
  | cons hab hrest ih =>
    cases hrest with
    | nil => exact .singleton _
    | cons hab' hrest =>
      obtain ⟨hfirst, hl⟩ := List.isChain_cons_cons.mp hl
      exact List.isChain_cons_cons.mpr ⟨hRT _ _ _ _ hab hab' hfirst, ih hl⟩

/-- The bars that the recorders have left on a tape are stored without a gap. -/
theorem SimTape.Recorded.holds (h : tape.Recorded contracts bars frames tapeId) (hreads : contracts.Reads bars frames)
    (symbol : String) : ∃ stored, List.Forall₂ (SimClosedBarRow.Holds contracts symbol) (tape.orderedBars symbol) stored ∧
      stored.IsChain ClosedBarEvent.Before := by
  have hchecked : ∀ r ∈ tape.barsOf symbol, r.Checked := fun r hr => tape.barsChecked r (List.mem_of_mem_filter hr)
  have hordered : tape.orderedBars symbol = (tape.barsOf symbol).reverse :=
    KeyedRows.insertionSort_eq_reverse ((h.barChain symbol).pairwise hchecked)
  have hholds : ∀ row ∈ tape.orderedBars symbol, ∃ bar, SimClosedBarRow.Holds contracts symbol row bar := by
    intro row hrow
    rw [hordered, List.mem_reverse] at hrow
    obtain ⟨bar, hbar, hof⟩ := h.bars row (List.mem_of_mem_filter hrow)
    have hsymbol : row.symbol = symbol := by simpa using (List.mem_filter.mp hrow).2
    exact ⟨bar, fun entity => hof.stored hreads hbar entity, hof.symbol.symm.trans hsymbol, hof.symbol.symm,
      hof.openTimeMs.symm, hof.closeTimeMs.symm, hof.barSha256⟩
  obtain ⟨stored, hstored⟩ := exists_forall₂ hholds
  refine ⟨stored, hstored, ?_⟩
  apply isChain_of_forall₂ hstored (R := fun prior next => next.openTimeMs = prior.closeTimeMs + 1)
  · intro row bar row' bar' hrow hrow' hnext
    rw [ClosedBarEvent.Before, hrow'.identity.2.2.1, hrow.identity.2.2.2.1, hnext]
  · rw [hordered, List.isChain_reverse]
    exact (h.barChain symbol).contiguous

end Recorded

end KairosPersistence
