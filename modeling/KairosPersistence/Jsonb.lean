import KairosPersistence.PythonJson

/-!
JSON documents as PostgreSQL's `jsonb` type stores them: numbers are exact
decimals that print without an exponent, zero has no sign, keys are ordered by
their length in bytes and then by their bytes, and no string has a NUL.
-/

namespace Jsonb

open DecimalDigits ShortestDecimal PythonJson
open Json (UniqueKeys)

/-- A `numeric`: `coefficient` over `10 ^ scale`, printed with `scale` digits after the point. -/
structure Numeric where
  negative : Bool
  coefficient : ℕ
  scale : ℕ
  zero_unsigned : coefficient = 0 → negative = false
  deriving DecidableEq, Repr

def numericIn (t : NumberText) : Numeric where
  negative := t.negative && t.mantissa * 10 ^ t.power.toNat != 0
  coefficient := t.mantissa * 10 ^ t.power.toNat
  scale := (-t.power).toNat
  zero_unsigned h := by simp [h]

def numericOut (n : Numeric) : NumberText :=
  ⟨n.negative, digits (n.coefficient / 10 ^ n.scale), fixedDigits n.scale (n.coefficient % 10 ^ n.scale), none⟩

theorem numericOut_valid (n : Numeric) : (numericOut n).Valid where
  whole_digits := digits_lt _
  whole_ne_nil := digits_ne_nil _
  no_leading_zero h := by
    rcases Nat.eq_zero_or_pos (n.coefficient / 10 ^ n.scale) with hz | hpos
    · simp [numericOut, hz, digits]
    · exact absurd h (head?_digits hpos)
  fraction_digits := fixedDigits_lt _ _
  exponent_digits := by simp [numericOut]

theorem mantissa_numericOut (n : Numeric) : (numericOut n).mantissa = n.coefficient := by
  have hlt : n.coefficient % 10 ^ n.scale < 10 ^ n.scale := Nat.mod_lt _ (by positivity)
  rw [NumberText.mantissa, numericOut, value_append, value_digits, value_fixedDigits hlt, length_fixedDigits]
  exact Nat.div_add_mod' _ _

theorem power_numericOut (n : Numeric) : (numericOut n).power = -n.scale := by
  simp [NumberText.power, NumberText.exponentValue, numericOut]

/-- The printed number is an integer exactly when the scale is zero. -/
theorem readNumber_numericOut (n : Numeric) :
    readNumber (numericOut n) =
      if n.scale = 0 then some (.int (if n.negative then -(n.coefficient : ℤ) else n.coefficient))
      else (ofScientific n.negative n.coefficient (-n.scale)).map .float := by
  have hfraction : (numericOut n).fraction = [] ↔ n.scale = 0 := by
    rw [← List.length_eq_zero_iff, numericOut, length_fixedDigits]
  have hexponent : (numericOut n).exponent = none := rfl
  have hnegative : (numericOut n).negative = n.negative := rfl
  simp only [readNumber, hfraction, hexponent, hnegative, and_true, mantissa_numericOut, power_numericOut]

/-- The number that is read back after a number was stored. -/
def reloadNumber (n : PyNumber) : Option PyNumber := readNumber (numericOut (numericIn (numberText n)))

def signed (negative : Bool) (n : ℕ) : ℤ := if negative then -(n : ℤ) else n

/-- What a stored number is read back as: a float from `10 ^ 16` on has lost its exponent and
is an integer, a zero has lost its sign. -/
def reloaded : PyNumber → PyNumber
  | .int n => .int n
  | .float x =>
    if tenPower16.units ≤ x.units then
      .int (signed x.negative ((shortest x).1 * 10 ^ ((shortest x).2 - 1074)))
    else if x.units = 0 then .float (Binary64.signedZero false) else .float x

section Numeral

variable {t : NumberText}

theorem reload_integer {k : ℕ} (hpower : t.power = k) (h : t.mantissa * 10 ^ k ≠ 0) :
    readNumber (numericOut (numericIn t)) = some (.int (signed t.negative (t.mantissa * 10 ^ k))) := by
  simp only [readNumber_numericOut, numericIn, hpower, Int.toNat_natCast, Int.toNat_neg_natCast, if_true,
    bne_iff_ne.mpr h, Bool.and_true, signed]

theorem reload_fraction (hpower : t.power < 0) :
    readNumber (numericOut (numericIn t)) =
      (ofScientific (t.negative && t.mantissa != 0) t.mantissa t.power).map .float := by
  obtain ⟨s, hs⟩ : ∃ s : ℕ, t.power = -(s + 1 : ℕ) := ⟨(-t.power).toNat - 1, by omega⟩
  simp only [readNumber_numericOut, numericIn, hs, neg_neg, Int.toNat_natCast, Int.toNat_neg_natCast, pow_zero,
    mul_one]
  rw [if_neg (Nat.succ_ne_zero s)]

end Numeral

theorem reloadNumber_int (n : ℤ) : reloadNumber (.int n) = some (.int n) := by
  have hpower : (intText n).power = 0 := by simp [NumberText.power, NumberText.exponentValue, intText]
  have hmantissa : (intText n).mantissa = n.natAbs := by simp [NumberText.mantissa, intText, value_digits]
  have hnegative : (intText n).negative = decide (n < 0) := rfl
  simp only [reloadNumber, numberText, readNumber_numericOut, numericIn, hpower, hmantissa, hnegative, neg_zero,
    Int.toNat_zero, pow_zero, mul_one, if_true, Option.some.injEq, PyNumber.int.injEq]
  by_cases hn : n < 0
  · have hne : n.natAbs ≠ 0 := by omega
    simp only [hn, decide_true, bne_iff_ne.mpr hne, Bool.and_true, if_true]
    omega
  · simp only [hn, decide_false, Bool.false_and, Bool.false_eq_true, if_false]
    omega

section Float

variable {x : Binary64}

theorem reloadNumber_zero (hx : x.units = 0) :
    reloadNumber (.float x) = some (.float (Binary64.signedZero false)) := by
  have htext : floatText x = ⟨x.negative, [0], [0], none⟩ := if_pos hx
  have hmantissa : (floatText x).mantissa = 0 := by simp [htext, NumberText.mantissa, value]
  have hpower : (floatText x).power = -1 := by simp [htext, NumberText.power, NumberText.exponentValue]
  rw [reloadNumber, numberText, reload_fraction (by rw [hpower]; decide), hmantissa, bne_self_eq_false,
    Bool.and_false, ofScientific_zero, Option.map_some]

theorem reloadNumber_small (hx : x.units ≠ 0) (hlt : x.units < tenPower16.units) :
    reloadNumber (.float x) = some (.float x) := by
  have hneg : (floatText x).power < 0 := by
    rw [floatText_nonzero hx]
    exact layout_power_neg _ _ (digits_ne_nil _) (small_shortest hx hlt)
  obtain ⟨j, hmantissa, hpower⟩ := floatText_value hx
  have hne : (floatText x).mantissa ≠ 0 := by
    rw [hmantissa]
    exact (Nat.mul_pos (shortest_pos hx) (by positivity)).ne'
  rw [reloadNumber, numberText, reload_fraction hneg, bne_iff_ne.mpr hne, Bool.and_true, floatText_negative,
    ofScientific_shortest hmantissa hpower, Option.map_some]

theorem units_ne_zero (hle : tenPower16.units ≤ x.units) : x.units ≠ 0 := by
  have hten : 0 < tenPower16.units := by decide +kernel
  exact (hten.trans_le hle).ne'

theorem floatText_large (hle : tenPower16.units ≤ x.units) :
    (floatText x).mantissa = (shortest x).1 ∧ (floatText x).power = ((shortest x).2 - 1074 : ℕ) := by
  obtain ⟨hp, hpoint⟩ := large_shortest hle
  have hlen := length_digits_pos (shortest x).1
  rw [floatText_nonzero (units_ne_zero hle), (layout_large x.negative _ hpoint).1,
    (layout_large x.negative _ hpoint).2, value_digits, pointPosition]
  refine ⟨rfl, ?_⟩
  -- the exponents are kept abstract: no one should evaluate the digits of a float here
  generalize (digits (shortest x).1).length = len at hlen ⊢
  generalize (shortest x).2 = p at hp ⊢
  omega

theorem reloadNumber_large (hle : tenPower16.units ≤ x.units) :
    reloadNumber (.float x) = some (reloaded (.float x)) := by
  obtain ⟨hmantissa, hpower⟩ := floatText_large hle
  have hne : (floatText x).mantissa * 10 ^ ((shortest x).2 - 1074) ≠ 0 := by
    rw [hmantissa]
    exact (Nat.mul_pos (shortest_pos (units_ne_zero hle)) (by positivity)).ne'
  rw [reloadNumber, numberText, reload_integer hpower hne, floatText_negative, hmantissa, reloaded, if_pos hle]

end Float

theorem reloadNumber_eq (n : PyNumber) : reloadNumber n = some (reloaded n) := by
  cases n with
  | int n => exact reloadNumber_int n
  | float x =>
    by_cases hle : tenPower16.units ≤ x.units
    · exact reloadNumber_large hle
    · by_cases hx : x.units = 0
      · rw [reloadNumber_zero hx, reloaded, if_neg hle, if_pos hx]
      · rw [reloadNumber_small hx (not_le.mp hle), reloaded, if_neg hle, if_neg hx]

/-- The numbers that come back as they were stored. -/
def Stable : PyNumber → Prop
  | .int _ => True
  | .float x => x.units < tenPower16.units ∧ (x.units = 0 → x.negative = false)

theorem reloaded_eq_iff (n : PyNumber) : reloaded n = n ↔ Stable n := by
  cases n with
  | int n => simp [reloaded, Stable]
  | float x =>
    simp only [reloaded, Stable]
    split_ifs with hle hx
    · simp [not_lt.mpr hle]
    · have hlt := not_le.mp hle
      rw [PyNumber.float.injEq]
      constructor
      · exact fun h => ⟨hlt, fun _ => by rw [← h]; rfl⟩
      · exact fun h => by rw [Binary64.eq_signedZero hx, h.2 hx]
    · exact ⟨fun _ => ⟨not_le.mp hle, fun h => absurd h hx⟩, fun _ => rfl⟩

/-- `jsonb` orders the keys of an object by length, then byte by byte. -/
def KeyLE (k l : String) : Prop := k.utf8ByteSize < l.utf8ByteSize ∨ k.utf8ByteSize = l.utf8ByteSize ∧ k ≤ l

instance : DecidableRel KeyLE := fun k l =>
  inferInstanceAs (Decidable (k.utf8ByteSize < l.utf8ByteSize ∨ k.utf8ByteSize = l.utf8ByteSize ∧ k ≤ l))

def nulFree (s : String) : Bool := !s.toList.contains (Char.ofNat 0)

/-- `text::jsonb`, of texts in which no object repeats a key. -/
def jsonbIn (s : String) : Option (Json Numeric) :=
  (JsonText.parse s.toList).bind fun t =>
    if t.everyString nulFree then some ((t.map numericIn).orderKeys KeyLE) else none

/-- `jsonb::text`. -/
def jsonbOut (t : Json Numeric) : String := String.ofList (JsonText.print [' '] (t.map numericOut))

theorem jsonbIn_dumps {t : PyJson} (h : t.everyString nulFree) :
    jsonbIn (dumps t) = some (((sortKeys t).map fun n => numericIn (numberText n)).orderKeys KeyLE) := by
  have hnul : ((sortKeys t).map numberText).everyString nulFree := by
    rw [Json.everyString_map, sortKeys, Json.everyString_orderKeys]
    exact h
  rw [jsonbIn, dumps, String.toList_ofList, JsonText.parse_print (by simp) (numbers_valid _), Option.bind_some,
    if_pos hnul, Json.map_map]

/-- The tree that is read back after a tree was encoded and stored. -/
def reload (t : PyJson) : Option PyJson := (jsonbIn (dumps t)).bind fun u => loads (jsonbOut u)

theorem reload_eq {t : PyJson} (h : t.everyString nulFree) :
    reload t = some (((sortKeys t).orderKeys KeyLE).map reloaded) := by
  have htext : ((((sortKeys t).map fun n => numericIn (numberText n)).orderKeys KeyLE).map numericOut) =
      ((sortKeys t).orderKeys KeyLE).map fun n => numericOut (numericIn (numberText n)) := by
    rw [Json.orderKeys_map, Json.map_map]
  have hvalid : ∀ x ∈ (((sortKeys t).orderKeys KeyLE).map fun n => numericOut (numericIn (numberText n))).numbers,
      x.Valid := by
    intro x hx
    obtain ⟨n, -, rfl⟩ := (Json.mem_numbers_map _).mp hx
    exact numericOut_valid _
  rw [reload, jsonbIn_dumps h, Option.bind_some, jsonbOut, htext, loads, String.toList_ofList,
    JsonText.parse_print (by simp [JsonText.isSpace]) hvalid, Option.bind_some]
  exact Json.mapOption_map fun n _ => reloadNumber_eq n

/-- A tree that comes back has the text it was stored with exactly when its numbers are stable. -/
theorem dumps_reloaded_iff {t : PyJson} (h : t.UniqueKeys) :
    dumps (((sortKeys t).orderKeys KeyLE).map reloaded) = dumps t ↔ ∀ n ∈ t.numbers, Stable n := by
  have hsort : sortKeys (((sortKeys t).orderKeys KeyLE).map reloaded) = (sortKeys t).map reloaded := by
    have hu : UniqueKeys (sortKeys t) := (Json.uniqueKeys_orderKeys _ t).mpr h
    unfold sortKeys at hu ⊢
    rw [Json.orderKeys_map, Json.orderKeys_orderKeys KeyLE hu, Json.orderKeys_orderKeys _ h]
  have hidem : sortKeys t = sortKeys (sortKeys t) := (Json.orderKeys_orderKeys _ h).symm
  calc dumps (((sortKeys t).orderKeys KeyLE).map reloaded) = dumps t
      ↔ (sortKeys t).map reloaded = sortKeys t := by
        constructor
        · intro heq
          rw [← hsort]
          exact dumps_injective heq
        · intro heq
          rw [dumps, hsort, heq, dumps]
    _ ↔ ∀ n ∈ (sortKeys t).numbers, reloaded n = n := by
        conv_lhs => rhs; rw [← Json.map_id (sortKeys t)]
        exact Json.map_eq_map_iff _
    _ ↔ ∀ n ∈ t.numbers, Stable n := by
        simp only [sortKeys, Json.mem_numbers_orderKeys, reloaded_eq_iff]

end Jsonb
