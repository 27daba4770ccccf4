import KairosPersistence.ShortestDecimal
import KairosPersistence.JsonText

/-!
JSON as Python's `json` module writes and reads it: integers in full, floats
by `repr`, keys sorted by code points, no space between tokens.
-/

namespace NumberText

open DecimalDigits

/-- The digits of the number, without the point. -/
def mantissa (t : NumberText) : ℕ := value (t.whole ++ t.fraction)

def exponentValue (t : NumberText) : ℤ :=
  match t.exponent with
  | none => 0
  | some (negative, ds) => if negative then -(value ds : ℤ) else value ds

/-- The number is `mantissa * 10 ^ power`. -/
def power (t : NumberText) : ℤ := t.exponentValue - t.fraction.length

end NumberText

namespace PythonJson

open DecimalDigits ShortestDecimal

inductive PyNumber where
  | int (n : ℤ)
  | float (x : Binary64)
  deriving DecidableEq, Repr

abbrev PyJson := Json PyNumber

def intText (n : ℤ) : NumberText := ⟨n < 0, digits n.natAbs, [], none⟩

/-- An exponent has two digits at least. -/
def exponentDigits (n : ℕ) : List ℕ := if n < 10 then [0, n] else digits n

/-- Digits with the point after the first `point` of them: in exponent form when it would stand
more than sixteen digits to the right or four zeros to the left. -/
def layout (negative : Bool) (ds : List ℕ) (point : ℤ) : NumberText :=
  if -4 < point ∧ point ≤ 16 then
    if point ≤ 0 then ⟨negative, [0], List.replicate (-point).toNat 0 ++ ds, none⟩
    else if ds.length ≤ point then ⟨negative, ds ++ List.replicate (point.toNat - ds.length) 0, [0], none⟩
    else ⟨negative, ds.take point.toNat, ds.drop point.toNat, none⟩
  else ⟨negative, ds.take 1, ds.drop 1, some (point - 1 < 0, exponentDigits (point - 1).natAbs)⟩

/-- `float.__repr__`. -/
def floatText (x : Binary64) : NumberText :=
  if x.units = 0 then ⟨x.negative, [0], [0], none⟩
  else layout x.negative (digits (shortest x).1) (pointPosition x)

def numberText : PyNumber → NumberText
  | .int n => intText n
  | .float x => floatText x

/-- A number with a point or an exponent is read as a float, any other as an integer. A float
beyond the largest one has no value here. -/
def readNumber (t : NumberText) : Option PyNumber :=
  if t.fraction = [] ∧ t.exponent = none then
    some (.int (if t.negative then -(t.mantissa : ℤ) else t.mantissa))
  else (ofScientific t.negative t.mantissa t.power).map .float

theorem value_exponentDigits (n : ℕ) : value (exponentDigits n) = n := by
  unfold exponentDigits
  split_ifs
  · simp [value]
  · exact value_digits n

theorem exponentDigits_lt (n : ℕ) : AllDigits (exponentDigits n) ∧ exponentDigits n ≠ [] := by
  unfold exponentDigits
  split_ifs with h
  · exact ⟨by simp [AllDigits, h], by simp⟩
  · exact ⟨digits_lt n, digits_ne_nil n⟩

theorem head?_digits {n : ℕ} (hn : 0 < n) : (digits n).head? ≠ some 0 := by
  intro h
  obtain ⟨ds, hds⟩ : ∃ ds, digits n = 0 :: ds := by
    cases hd : digits n with
    | nil => exact absurd hd (digits_ne_nil n)
    | cons d ds => exact ⟨ds, by simp_all⟩
  have hlow := digits_lower hn
  have hval : value (digits n) = value ds := by rw [hds, value_cons, zero_mul, zero_add]
  have hup : value ds < 10 ^ ds.length :=
    value_lt fun d hd => digits_lt n d (by rw [hds]; exact List.mem_cons_of_mem _ hd)
  rw [hds, List.length_cons, Nat.add_sub_cancel] at hlow
  rw [value_digits] at hval
  omega

theorem intText_valid (n : ℤ) : (intText n).Valid where
  whole_digits := digits_lt _
  whole_ne_nil := digits_ne_nil _
  no_leading_zero h := by
    rcases Nat.eq_zero_or_pos n.natAbs with hz | hpos
    · simp [intText, hz, digits]
    · exact absurd h (head?_digits hpos)
  fraction_digits := by simp [intText, AllDigits]
  exponent_digits := by simp [intText]

theorem allDigits_append {ds es : List ℕ} : AllDigits (ds ++ es) ↔ AllDigits ds ∧ AllDigits es :=
  List.forall_mem_append

theorem allDigits_replicate_zero (k : ℕ) : AllDigits (List.replicate k 0) := by
  simp [AllDigits, List.mem_replicate]

theorem allDigits_take {ds : List ℕ} (h : AllDigits ds) (k : ℕ) : AllDigits (ds.take k) :=
  fun d hd => h d (List.mem_of_mem_take hd)

theorem allDigits_drop {ds : List ℕ} (h : AllDigits ds) (k : ℕ) : AllDigits (ds.drop k) :=
  fun d hd => h d (List.mem_of_mem_drop hd)

theorem head?_take {ds : List ℕ} {k : ℕ} (hk : 0 < k) : (ds.take k).head? = ds.head? := by
  cases k with
  | zero => omega
  | succ k => cases ds <;> rfl

section Layout

variable (negative : Bool) {ds : List ℕ} (point : ℤ)

theorem layout_valid (hds : AllDigits ds) (hne : ds ≠ []) (hhead : ds.head? ≠ some 0) :
    (layout negative ds point).Valid := by
  unfold layout
  split_ifs with hp h₁ h₂
  · refine ⟨by simp [AllDigits], by simp, by simp, ?_, by simp⟩
    exact allDigits_append.mpr ⟨allDigits_replicate_zero _, hds⟩
  · refine ⟨allDigits_append.mpr ⟨hds, allDigits_replicate_zero _⟩, by simp [hne], fun h => ?_,
      by simp [AllDigits], by simp⟩
    rw [List.head?_append_of_ne_nil _ hne] at h
    exact absurd h hhead
  · refine ⟨allDigits_take hds _, ?_, fun h => ?_, allDigits_drop hds _, by simp⟩
    · simp only [ne_eq, List.take_eq_nil_iff, hne, or_false]
      omega
    · rw [head?_take (by omega)] at h
      exact absurd h hhead
  · refine ⟨allDigits_take hds _, by simp [hne], fun h => ?_, allDigits_drop hds _, ?_⟩
    · rw [head?_take one_pos] at h
      exact absurd h hhead
    · rintro e ⟨⟩
      exact exponentDigits_lt _

/-- The text spells the digits, with `j` zeros appended. -/
theorem layout_value (hne : ds ≠ []) :
    ∃ j : ℕ, (layout negative ds point).mantissa = value ds * 10 ^ j ∧
      (layout negative ds point).power = point - ds.length - j := by
  have hlen := List.length_pos_iff.mpr hne
  unfold layout
  split_ifs with hp h₁ h₂
  · refine ⟨0, ?_, ?_⟩
    · simp [NumberText.mantissa, value_cons, value_append, value_replicate_zero]
    · simp only [NumberText.power, NumberText.exponentValue, List.length_append, List.length_replicate]
      omega
  · refine ⟨point.toNat - ds.length + 1, ?_, ?_⟩
    · simp [NumberText.mantissa, value_append, value_replicate_zero, value_cons, pow_succ]
    · simp only [NumberText.power, NumberText.exponentValue, List.length_singleton]
      omega
  · refine ⟨0, ?_, ?_⟩
    · simp [NumberText.mantissa, List.take_append_drop]
    · simp only [NumberText.power, NumberText.exponentValue, List.length_drop]
      omega
  · refine ⟨0, ?_, ?_⟩
    · simp only [NumberText.mantissa, List.take_append_drop, pow_zero, mul_one]
    · simp only [NumberText.power, NumberText.exponentValue, List.length_drop, value_exponentDigits,
        decide_eq_true_eq]
      split_ifs <;> omega

theorem layout_negative : (layout negative ds point).negative = negative := by
  unfold layout
  split_ifs <;> rfl

/-- Up to sixteen digits before the point there is always one after it. -/
theorem layout_power_neg (hne : ds ≠ []) (h : point ≤ 16) : (layout negative ds point).power < 0 := by
  have hlen := List.length_pos_iff.mpr hne
  unfold layout
  split_ifs with hp h₁ h₂
  all_goals
    simp only [NumberText.power, NumberText.exponentValue, List.length_append, List.length_replicate,
      List.length_singleton, List.length_drop, value_exponentDigits, decide_eq_true_eq]
  · omega
  · omega
  · omega
  · split_ifs <;> omega

/-- In exponent form the text spells the digits as they are. -/
theorem layout_large (h : 16 < point) :
    (layout negative ds point).mantissa = value ds ∧
      (layout negative ds point).power = point - 1 - (ds.length - 1 : ℕ) := by
  rw [layout, if_neg (by omega)]
  constructor
  · simp only [NumberText.mantissa, List.take_append_drop]
  · simp only [NumberText.power, NumberText.exponentValue, List.length_drop, value_exponentDigits,
      decide_eq_true_eq]
    split_ifs <;> omega

theorem layout_exponent (h : 16 < point) : (layout negative ds point).exponent ≠ none := by
  rw [layout, if_neg (by omega)]
  simp

theorem layout_not_integer (hne : ds ≠ []) :
    ¬((layout negative ds point).fraction = [] ∧ (layout negative ds point).exponent = none) := by
  rintro ⟨hf, he⟩
  by_cases hp : point ≤ 16
  · have hneg := layout_power_neg negative point hne hp
    simp [NumberText.power, NumberText.exponentValue, hf, he] at hneg
  · exact layout_exponent negative point (not_le.mp hp) he

end Layout

section Float

variable {x : Binary64}

theorem floatText_nonzero (hx : x.units ≠ 0) :
    floatText x = layout x.negative (digits (shortest x).1) (pointPosition x) :=
  if_neg hx

theorem floatText_valid (x : Binary64) : (floatText x).Valid := by
  unfold floatText
  split_ifs with hz
  · exact ⟨by simp [AllDigits], by simp, by simp, by simp [AllDigits], by simp⟩
  · exact layout_valid _ _ (digits_lt _) (digits_ne_nil _) (head?_digits (shortest_pos hz))

theorem floatText_negative (x : Binary64) : (floatText x).negative = x.negative := by
  unfold floatText
  split_ifs
  · rfl
  · exact layout_negative _ _

/-- The text of a float spells its shortest decimal, with `j` zeros appended. -/
theorem floatText_value (hx : x.units ≠ 0) :
    ∃ j : ℕ, (floatText x).mantissa = (shortest x).1 * 10 ^ j ∧
      (floatText x).power = (shortest x).2 - 1074 - j := by
  rw [floatText_nonzero hx]
  obtain ⟨j, hm, hp⟩ := layout_value x.negative (pointPosition x) (digits_ne_nil (shortest x).1)
  refine ⟨j, by rw [hm, value_digits], ?_⟩
  rw [hp, pointPosition]
  omega

end Float

theorem numberText_valid (n : PyNumber) : (numberText n).Valid := by
  cases n with
  | int n => exact intText_valid n
  | float x => exact floatText_valid x

section Reading

theorem readNumber_intText (n : ℤ) : readNumber (intText n) = some (.int n) := by
  rw [readNumber, if_pos ⟨rfl, rfl⟩]
  simp only [intText, NumberText.mantissa, List.append_nil, value_digits, decide_eq_true_eq, Option.some.injEq,
    PyNumber.int.injEq]
  split_ifs <;> omega

theorem floatText_not_integer (x : Binary64) :
    ¬((floatText x).fraction = [] ∧ (floatText x).exponent = none) := by
  rintro ⟨hf, he⟩
  by_cases hx : x.units = 0
  · simp [floatText, hx] at hf
  · rw [floatText_nonzero hx] at hf he
    exact layout_not_integer x.negative (pointPosition x) (digits_ne_nil (shortest x).1) ⟨hf, he⟩

theorem readNumber_floatText (x : Binary64) : readNumber (floatText x) = some (.float x) := by
  rw [readNumber, if_neg (floatText_not_integer x), floatText_negative]
  by_cases hx : x.units = 0
  · have hm : (floatText x).mantissa = 0 := by simp [floatText, hx, NumberText.mantissa, value]
    rw [hm, ofScientific_zero, ← Binary64.eq_signedZero hx, Option.map_some]
  · obtain ⟨j, hm, he⟩ := floatText_value hx
    rw [ofScientific_shortest hm he, Option.map_some]

theorem readNumber_numberText (n : PyNumber) : readNumber (numberText n) = some n := by
  cases n with
  | int n => exact readNumber_intText n
  | float x => exact readNumber_floatText x

theorem numberText_injective : Function.Injective numberText := fun m n h => by
  have hm := readNumber_numberText m
  rw [h, readNumber_numberText] at hm
  exact (Option.some.inj hm).symm

end Reading

/-- `sort_keys=True`: strings are compared by code points. -/
def sortKeys (t : PyJson) : PyJson := t.orderKeys (· ≤ ·)

/-- `json.dumps(t, sort_keys=True, separators=(",", ":"), ensure_ascii=False)`. -/
def dumps (t : PyJson) : String := String.ofList (JsonText.print [] ((sortKeys t).map numberText))

/-- `json.loads`, of texts in which no object repeats a key. -/
def loads (s : String) : Option PyJson := (JsonText.parse s.toList).bind (Json.mapOption readNumber)

theorem numbers_valid (t : PyJson) : ∀ x ∈ (t.map numberText).numbers, x.Valid := by
  intro x hx
  obtain ⟨n, -, rfl⟩ := (Json.mem_numbers_map t).mp hx
  exact numberText_valid n

theorem mapOption_numberText (t : PyJson) : (t.map numberText).mapOption readNumber = some t := by
  rw [Json.mapOption_map fun n _ => readNumber_numberText n, Json.map_id]

theorem loads_dumps (t : PyJson) : loads (dumps t) = some (sortKeys t) := by
  rw [loads, dumps, String.toList_ofList, JsonText.parse_print (by simp) (numbers_valid _)]
  exact mapOption_numberText _

theorem dumps_injective {t u : PyJson} (h : dumps t = dumps u) : sortKeys t = sortKeys u := by
  have ht := loads_dumps t
  rw [h, loads_dumps] at ht
  exact (Option.some.inj ht).symm

section Equality

/-- The exact value of a number, in units of `2 ^ (-1074)`. -/
def numericValue : PyJson → Option ℤ
  | .bool b => some (if b then twoPower 1074 else 0)
  | .num (.int n) => some (n * twoPower 1074)
  | .num (.float x) => some x.scaled
  | _ => none

mutual

/-- `==` of Python values: objects are equal whatever the order of their keys, and numbers and
booleans by value. -/
def equal : PyJson → PyJson → Bool
  | .null, .null => true
  | .str s, .str t => s = t
  | .arr xs, .arr ys => equalItems xs ys
  | .obj ps, .obj qs => ps.length = qs.length && equalFields ps qs
  | t, u => (numericValue t).isSome && numericValue t = numericValue u

def equalItems : List PyJson → List PyJson → Bool
  | [], [] => true
  | x :: xs, y :: ys => equal x y && equalItems xs ys
  | _, _ => false

/-- Every field of the first object is in the second. -/
def equalFields : List (String × PyJson) → List (String × PyJson) → Bool
  | [], _ => true
  | (k, x) :: ps, qs => ((qs.find? (·.1 = k)).any fun q => equal x q.2) && equalFields ps qs

end

/-- `d.get(key)` of an object, `None` being `null`. -/
def getField (fields : List (String × PyJson)) (key : String) : PyJson :=
  ((fields.find? (·.1 = key)).map Prod.snd).getD .null

end Equality

end PythonJson
