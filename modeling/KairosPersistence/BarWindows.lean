import KairosPersistence.PythonJson
import KairosPersistence.Sha256
import KairosPersistence.Transactions

/-!
The digest of a window of closed bars: as a capture takes it of the bars that
it has read back, and as a replay takes it of the bars themselves.
-/

namespace KairosPersistence

open PythonJson
open Transactions (bind_ok ok_bind require require_ok require_pos found found_ok found_some)

/-- `ClosedBarEventV1` and `canonical_sha256` of the contract library. -/
structure BarContract (Bar : Type) where
  symbol : Bar → String
  timeframe : Bar → String
  openTimeMs : Bar → ℤ
  barSha256 : Bar → Option String
  identityPayload : Bar → PyJson
  modelDumpJson : Bar → String
  modelValidateJson : Bool → String → Option Bar
  canonicalSha256 : PyJson → String

/-- An item of a tuple: a bar of the exact class, or anything else. -/
inductive WindowItem (Bar : Type) where
  | exact (bar : Bar)
  | other

inductive WindowError where
  | valueError (message : String)
  | typeError (message : String)
  | validationError
  deriving DecidableEq, Repr

variable {Bar : Type} (contract : BarContract Bar)

namespace BarContract

/-- The bar that comes after another one in a window. -/
def Follows (prior current : Bar) : Prop :=
  contract.symbol current = contract.symbol prior ∧ contract.timeframe current = contract.timeframe prior ∧
    contract.openTimeMs current = contract.openTimeMs prior + 60000

instance (prior current : Bar) : Decidable (contract.Follows prior current) := inferInstanceAs (Decidable (_ ∧ _))

/-- `{"bars": [bar.identity_payload() for bar in bars]}`. -/
def windowPayload (bars : List Bar) : PyJson := .obj [("bars", .arr (bars.map contract.identityPayload))]

end BarContract

section Capture

/-- The copy of an item that `_bars` checks. -/
def checkedBar : WindowItem Bar → Except WindowError Bar
  | .exact bar => found (contract.modelValidateJson true (contract.modelDumpJson bar)) .validationError
  | .other => .error (.typeError "bar window requires exact strict closed-bar messages")

/-- `_bars`. -/
def bars (value : List (WindowItem Bar)) : Except WindowError (List Bar) := do
  require (1 ≤ value.length ∧ value.length ≤ 50000)
    (.valueError "bar window must be an explicit bounded nonempty sequence")
  let checked ← value.mapM (checkedBar contract)
  require (∀ p ∈ checked.zip checked.tail, contract.Follows p.1 p.2)
    (.valueError "bar window must preserve one gap-free symbol/timeframe chain")
  pure checked

/-- `_window_hash`. -/
def windowHash (bars : List Bar) : String := contract.canonicalSha256 (contract.windowPayload bars)

end Capture

section Replay

/-- What an item must be by itself. -/
def canonicalBar : WindowItem Bar → Except WindowError Bar
  | .exact bar => do
    require (contract.barSha256 bar = some (contract.canonicalSha256 (contract.identityPayload bar)))
      (.valueError "campaign bar window contains a noncanonical closed bar")
    pure bar
  | .other => .error (.valueError "campaign bar window contains a noncanonical closed bar")

/-- The loop over the bars; `window` is the first bar and the one before, after the first round. -/
def canonicalBars : Option (Bar × Bar) → List (WindowItem Bar) → Except WindowError (List Bar)
  | _, [] => .ok []
  | window, item :: items => do
    let bar ← canonicalBar contract item
    let _ ← found (contract.modelValidateJson false (contract.modelDumpJson bar)) .validationError
    require (∀ w ∈ window, contract.symbol bar = contract.symbol w.1 ∧ contract.timeframe bar = contract.timeframe w.1 ∧
        contract.openTimeMs bar = contract.openTimeMs w.2 + 60000)
      (.valueError "campaign bar window is not one contiguous instrument history")
    let rest ← canonicalBars (some ((window.map Prod.fst).getD bar, bar)) items
    pure (bar :: rest)

/-- `campaign_bar_window_sha256` of a tuple. -/
def campaignBarWindowSha256 (value : List (WindowItem Bar)) : Except WindowError String := do
  require (1 ≤ value.length ∧ value.length ≤ 50000) (.valueError "campaign bar window must be a bounded immutable tuple")
  let checked ← canonicalBars contract none value
  pure (contract.canonicalSha256 (contract.windowPayload checked))

end Replay

section Agreement

variable {contract} {value : List (WindowItem Bar)} {checked : List Bar}

theorem forall_zip_tail {α : Type} {R : α → α → Prop} {l : List α} : (∀ p ∈ l.zip l.tail, R p.1 p.2) ↔ l.IsChain R := by
  induction l with
  | nil => simp
  | cons a l ih =>
    cases l with
    | nil => simp
    | cons b l =>
      rw [List.isChain_cons_cons, ← ih, List.tail_cons, List.zip_cons_cons, List.forall_mem_cons]
      rfl

section Items

variable (hdump : ∀ strict bar, contract.modelValidateJson strict (contract.modelDumpJson bar) = some bar)

include hdump in
theorem mapM_checkedBar : value.mapM (checkedBar contract) = .ok checked ↔ value = checked.map .exact := by
  induction value generalizing checked with
  | nil =>
    cases checked with
    | nil => exact ⟨fun _ => rfl, fun _ => rfl⟩
    | cons => simp [List.mapM_nil, pure, Except.pure]
  | cons item items ih =>
    rw [List.mapM_cons]
    constructor
    · intro h
      obtain ⟨bar, hbar, h⟩ := bind_ok h
      obtain ⟨rest, hrest, h⟩ := bind_ok h
      obtain rfl := Except.ok.inj h
      cases item with
      | exact original =>
        have hvalid := found_ok hbar
        rw [hdump, Option.some.injEq] at hvalid
        rw [List.map_cons, hvalid, ih.mp hrest]
      | other => cases hbar
    · intro h
      cases checked with
      | nil => cases h
      | cons bar rest =>
        obtain ⟨rfl, hrest⟩ := List.cons.inj h
        rw [checkedBar, hdump, found_some, ok_bind, ih.mpr hrest]
        rfl

include hdump in
/-- A capture accepts a chain of bars. -/
theorem bars_ok_iff : bars contract value = .ok checked ↔
    value = checked.map .exact ∧ (1 ≤ value.length ∧ value.length ≤ 50000) ∧ checked.IsChain contract.Follows := by
  constructor
  · intro h
    obtain ⟨_, hlength, h⟩ := bind_ok h
    obtain ⟨read, hread, h⟩ := bind_ok h
    obtain ⟨_, hchain, h⟩ := bind_ok h
    obtain rfl := Except.ok.inj h
    exact ⟨(mapM_checkedBar hdump).mp hread, require_ok hlength, forall_zip_tail.mp (require_ok hchain)⟩
  · rintro ⟨hread, hlength, hchain⟩
    rw [bars, require_pos hlength, ok_bind, (mapM_checkedBar hdump).mpr hread, ok_bind,
      require_pos (forall_zip_tail.mpr hchain)]
    rfl

variable (hdigest : ∀ strict text bar, contract.modelValidateJson strict text = some bar →
  contract.barSha256 bar = some (contract.canonicalSha256 (contract.identityPayload bar)))

include hdump hdigest in
theorem canonicalBar_exact (bar : Bar) : canonicalBar contract (.exact bar) = .ok bar := by
  rw [canonicalBar, require_pos (hdigest false _ bar (hdump false bar))]
  rfl

include hdump hdigest in
/-- The bars that the loop accepts after a first one: a chain that goes on from the one before, which is of the
instrument of the first. -/
theorem canonicalBars_ok_iff {first prior : Bar} (hsymbol : contract.symbol prior = contract.symbol first)
    (htimeframe : contract.timeframe prior = contract.timeframe first) :
    canonicalBars contract (some (first, prior)) value = .ok checked ↔
      value = checked.map .exact ∧ (prior :: checked).IsChain contract.Follows := by
  induction value generalizing prior checked with
  | nil =>
    cases checked with
    | nil => simp [canonicalBars]
    | cons => simp [canonicalBars]
  | cons item items ih =>
    rw [canonicalBars]
    constructor
    · intro h
      obtain ⟨bar, hbar, h⟩ := bind_ok h
      obtain ⟨_, -, h⟩ := bind_ok h
      obtain ⟨_, hfollows, h⟩ := bind_ok h
      obtain ⟨rest, hrest, h⟩ := bind_ok h
      obtain rfl := Except.ok.inj h
      have hfollows := require_ok hfollows (first, prior) rfl
      obtain ⟨hitems, hchain⟩ := (ih hfollows.1 hfollows.2.1).mp hrest
      cases item with
      | exact original =>
        rw [canonicalBar_exact hdump hdigest, Except.ok.injEq] at hbar
        refine ⟨by rw [List.map_cons, hbar, hitems], List.isChain_cons_cons.mpr ⟨?_, hchain⟩⟩
        exact ⟨hfollows.1.trans hsymbol.symm, hfollows.2.1.trans htimeframe.symm, hfollows.2.2⟩
      | other => cases hbar
    · rintro ⟨hitems, hchain⟩
      cases checked with
      | nil => cases hitems
      | cons bar rest =>
        obtain ⟨rfl, hrest⟩ := List.cons.inj hitems
        obtain ⟨⟨hsymbol', htimeframe', hopen⟩, hchain⟩ := List.isChain_cons_cons.mp hchain
        have hinstrument := And.intro (hsymbol'.trans hsymbol) (htimeframe'.trans htimeframe)
        rw [canonicalBar_exact hdump hdigest, ok_bind, hdump, found_some, ok_bind, require_pos, ok_bind]
        · simp only [Option.map_some, Option.getD_some]
          rw [(ih hinstrument.1 hinstrument.2).mpr ⟨hrest, hchain⟩]
          rfl
        · rintro w hw
          obtain rfl := Option.some.inj hw
          exact ⟨hinstrument.1, hinstrument.2, hopen⟩

include hdump hdigest in
theorem canonicalBars_none_ok_iff : canonicalBars contract none value = .ok checked ↔
    value = checked.map .exact ∧ checked.IsChain contract.Follows := by
  cases value with
  | nil =>
    cases checked with
    | nil => simp [canonicalBars]
    | cons => simp [canonicalBars]
  | cons item items =>
    rw [canonicalBars]
    constructor
    · intro h
      obtain ⟨bar, hbar, h⟩ := bind_ok h
      obtain ⟨_, -, h⟩ := bind_ok h
      obtain ⟨_, -, h⟩ := bind_ok h
      obtain ⟨rest, hrest, h⟩ := bind_ok h
      obtain rfl := Except.ok.inj h
      obtain ⟨hitems, hchain⟩ := (canonicalBars_ok_iff hdump hdigest rfl rfl).mp hrest
      cases item with
      | exact original =>
        rw [canonicalBar_exact hdump hdigest, Except.ok.injEq] at hbar
        exact ⟨by rw [List.map_cons, hbar, hitems], hchain⟩
      | other => cases hbar
    · rintro ⟨hitems, hchain⟩
      cases checked with
      | nil => cases hitems
      | cons bar rest =>
        obtain ⟨rfl, hrest⟩ := List.cons.inj hitems
        rw [canonicalBar_exact hdump hdigest, ok_bind, hdump, found_some, ok_bind, require_pos (by simp), ok_bind]
        simp only [Option.map_none, Option.getD_none]
        rw [(canonicalBars_ok_iff hdump hdigest rfl rfl).mpr ⟨hrest, hchain⟩]
        rfl

end Items

/-- A capture and a replay take the same digest of the same tuples. -/
theorem windowHash_iff_campaignBarWindowSha256 (contract : BarContract Bar)
    (hdigest : ∀ strict text bar, contract.modelValidateJson strict text = some bar →
      contract.barSha256 bar = some (contract.canonicalSha256 (contract.identityPayload bar)))
    (hdump : ∀ strict bar, contract.modelValidateJson strict (contract.modelDumpJson bar) = some bar)
    (value : List (WindowItem Bar)) (digest : String) :
    (do let checked ← bars contract value; pure (windowHash contract checked)) = .ok digest ↔
      campaignBarWindowSha256 contract value = .ok digest := by
  constructor
  · intro h
    obtain ⟨checked, hchecked, h⟩ := bind_ok h
    obtain ⟨hitems, hlength, hchain⟩ := (bars_ok_iff hdump).mp hchecked
    rw [campaignBarWindowSha256, require_pos hlength, ok_bind,
      (canonicalBars_none_ok_iff hdump hdigest).mpr ⟨hitems, hchain⟩]
    exact h
  · intro h
    obtain ⟨_, hlength, h⟩ := bind_ok h
    obtain ⟨checked, hchecked, h⟩ := bind_ok h
    obtain ⟨hitems, hchain⟩ := (canonicalBars_none_ok_iff hdump hdigest).mp hchecked
    rw [(bars_ok_iff hdump).mpr ⟨hitems, require_ok hlength, hchain⟩]
    exact h

/-- Bars of one instrument, told apart by the time that they open at. -/
def exampleBarContract : BarContract ℤ where
  symbol _ := "BTCUSDT"
  timeframe _ := "1m"
  openTimeMs bar := bar
  barSha256 bar := some (Sha256.hexdigest (dumps (.obj [("open_time_ms", .num (.int bar)), ("symbol", .str "BTCUSDT")])))
  identityPayload bar := .obj [("open_time_ms", .num (.int bar)), ("symbol", .str "BTCUSDT")]
  modelDumpJson bar := dumps (.obj [("open_time_ms", .num (.int bar))])
  modelValidateJson _ text :=
    match loads text with
    | some (.obj [("open_time_ms", .num (.int bar))]) => some bar
    | _ => none
  canonicalSha256 := fun value => Sha256.hexdigest (dumps value)

theorem windowHash_iff_campaignBarWindowSha256_example : ∃ digest,
    (do let checked ← bars exampleBarContract [.exact 0, .exact 60000]; pure (windowHash exampleBarContract checked)) =
        .ok digest ∧
      campaignBarWindowSha256 exampleBarContract [.exact 0, .exact 60000] = .ok digest := by
  have hdump : ∀ (strict : Bool) (bar : ℤ),
      exampleBarContract.modelValidateJson strict (exampleBarContract.modelDumpJson bar) = some bar := by
    intro strict bar
    simp only [exampleBarContract, loads_dumps]
    rfl
  have hchecked : bars exampleBarContract [.exact 0, .exact 60000] = .ok [0, 60000] := by
    rw [bars_ok_iff hdump]
    refine ⟨rfl, by decide, ?_⟩
    simp [BarContract.Follows, exampleBarContract]
  refine ⟨windowHash exampleBarContract [0, 60000], by rw [hchecked]; rfl, ?_⟩
  apply (windowHash_iff_campaignBarWindowSha256 exampleBarContract (fun strict text bar _ => rfl) hdump _ _).mp
  rw [hchecked]
  rfl

end Agreement

end KairosPersistence
