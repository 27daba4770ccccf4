import Mathlib.Algebra.Order.Ring.Star
import Mathlib.Algebra.Order.Ring.Nat
import Mathlib.Data.Nat.Log
import Mathlib.Tactic.Ring
import Mathlib.Tactic.Linarith

/-!
Finite IEEE 754 doubles as scaled naturals, and correct rounding of a ratio of
naturals to the nearest double, ties to even.
-/

/-- A finite double. Its magnitude is `mantissa * 2 ^ shift` units of `2 ^ (-1074)`,
the smallest subnormal. -/
structure Binary64 where
  negative : Bool
  mantissa : ℕ
  shift : ℕ
  mantissa_lt : mantissa < 2 ^ 53
  shift_le : shift ≤ 2045
  normalized : shift = 0 ∨ 2 ^ 52 ≤ mantissa
  deriving DecidableEq, Repr

namespace Binary64

def units (x : Binary64) : ℕ := x.mantissa * 2 ^ x.shift

/-- The signed magnitude in units; it orders the doubles, both zeros being equal. -/
def scaled (x : Binary64) : ℤ := if x.negative then -(x.units : ℤ) else x.units

def abs (x : Binary64) : Binary64 := { x with negative := false }

/-- The nearest natural to `a / d`, ties to even. -/
def nearest (a d : ℕ) : ℕ :=
  if 2 * (a % d) < d then a / d
  else if d < 2 * (a % d) then a / d + 1
  else if a / d % 2 = 0 then a / d else a / d + 1

/-- The exponent of the last mantissa bit of `a / d` units. -/
def ulp (a d : ℕ) : ℕ := Nat.log2 (a / d) - 52

theorem nearest_le (a d : ℕ) : nearest a d ≤ a / d + 1 := by
  unfold nearest
  split_ifs <;> omega

theorem le_nearest (a d : ℕ) : a / d ≤ nearest a d := by
  unfold nearest
  split_ifs <;> omega

theorem nearest_mul (q : ℕ) {d : ℕ} (hd : 0 < d) : nearest (q * d) d = q := by
  simp [nearest, Nat.mul_div_cancel _ hd, hd]

theorem nearest_scale (a d : ℕ) {k : ℕ} (hk : 0 < k) : nearest (a * k) (d * k) = nearest a d := by
  have hm : 2 * (a * k % (d * k)) = 2 * (a % d) * k := by rw [Nat.mul_mod_mul_right]; ring
  have h₁ : 2 * (a % d) * k < d * k ↔ 2 * (a % d) < d := Nat.mul_lt_mul_right hk
  have h₂ : d * k < 2 * (a % d) * k ↔ d < 2 * (a % d) := Nat.mul_lt_mul_right hk
  simp only [nearest, Nat.mul_div_mul_right _ _ hk, hm, h₁, h₂]

theorem ulp_scale (a d : ℕ) {k : ℕ} (hk : 0 < k) : ulp (a * k) (d * k) = ulp a d := by
  simp only [ulp, Nat.mul_div_mul_right _ _ hk]

theorem quotient_lt (a d : ℕ) : a / (d * 2 ^ ulp a d) < 2 ^ 53 := by
  rw [← Nat.div_div_eq_div_mul, Nat.div_lt_iff_lt_mul (by positivity), ← pow_add]
  have hlt := Nat.lt_log2_self (n := a / d)
  have hle : 2 ^ ((a / d).log2 + 1) ≤ 2 ^ (53 + ulp a d) :=
    Nat.pow_le_pow_right (by norm_num) (by unfold ulp; omega)
  omega

theorem le_quotient {a d : ℕ} (h : ulp a d ≠ 0) : 2 ^ 52 ≤ a / (d * 2 ^ ulp a d) := by
  have hz : a / d ≠ 0 := by
    intro hz
    simp [ulp, hz] at h
  rw [← Nat.div_div_eq_div_mul, Nat.le_div_iff_mul_le (by positivity), ← pow_add]
  have he : 52 + ulp a d = (a / d).log2 := by unfold ulp at h ⊢; omega
  rw [he]
  exact Nat.log2_self_le hz

theorem nearest_ulp_le (a d : ℕ) : nearest a (d * 2 ^ ulp a d) ≤ 2 ^ 53 :=
  (nearest_le _ _).trans (quotient_lt a d)

/-- The double nearest to `a / d` units, or `none` beyond the largest finite double. -/
def round (negative : Bool) (a d : ℕ) : Option Binary64 :=
  let m := nearest a (d * 2 ^ ulp a d)
  if hm : m = 2 ^ 53 then
    if hs : ulp a d + 1 ≤ 2045 then
      some ⟨negative, 2 ^ 52, ulp a d + 1, by norm_num, hs, Or.inr le_rfl⟩
    else none
  else
    if hs : ulp a d ≤ 2045 then
      some ⟨negative, m, ulp a d, by have := nearest_ulp_le a d; omega, hs, by
        by_cases hz : ulp a d = 0
        · exact Or.inl hz
        · exact Or.inr ((le_quotient hz).trans (le_nearest _ _))⟩
    else none

theorem round_scale (negative : Bool) (a d : ℕ) {k : ℕ} (hk : 0 < k) :
    round negative (a * k) (d * k) = round negative a d := by
  have hn : nearest (a * k) (d * k * 2 ^ ulp a d) = nearest a (d * 2 ^ ulp a d) := by
    rw [show d * k * 2 ^ ulp a d = d * 2 ^ ulp a d * k by ring, nearest_scale _ _ hk]
  simp only [round, ulp_scale a d hk, hn]

/-- The rounding depends on the ratio only. -/
theorem round_eq_of_mul_eq (negative : Bool) {a d a' d' : ℕ} (hd : 0 < d) (hd' : 0 < d')
    (h : a * d' = a' * d) : round negative a d = round negative a' d' := by
  rw [← round_scale negative a d hd', ← round_scale negative a' d' hd, h, mul_comm d d']

theorem ulp_units (x : Binary64) {d : ℕ} (hd : 0 < d) : ulp (x.units * d) d = x.shift := by
  unfold ulp units
  rw [Nat.mul_div_cancel _ hd]
  have hm := x.mantissa_lt
  rcases x.normalized with hs | hs
  · rw [hs, pow_zero, mul_one]
    by_cases hz : x.mantissa = 0
    · simp [hz]
    · have := (Nat.log2_lt hz).mpr hm
      omega
  · have hlog : (x.mantissa * 2 ^ x.shift).log2 = 52 + x.shift := by
      have hz : x.mantissa * 2 ^ x.shift ≠ 0 := by positivity
      rw [Nat.log2_eq_iff hz, pow_add, show 52 + x.shift + 1 = 53 + x.shift by omega, pow_add]
      exact ⟨Nat.mul_le_mul_right _ hs, Nat.mul_lt_mul_of_pos_right hm (by positivity)⟩
    omega

/-- A double is its own rounding. -/
theorem round_units (x : Binary64) {d : ℕ} (hd : 0 < d) :
    round x.negative (x.units * d) d = some x := by
  have hn : nearest (x.units * d) (d * 2 ^ x.shift) = x.mantissa := by
    rw [units, show x.mantissa * 2 ^ x.shift * d = x.mantissa * (d * 2 ^ x.shift) by ring]
    exact nearest_mul _ (by positivity)
  have hm := x.mantissa_lt
  simp only [round, ulp_units x hd, hn, x.shift_le, dif_pos]
  rw [dif_neg (by omega)]

/-- The zero of either sign. -/
def signedZero (negative : Bool) : Binary64 := ⟨negative, 0, 0, by norm_num, by norm_num, Or.inl rfl⟩

theorem round_zero (negative : Bool) {d : ℕ} (hd : 0 < d) : round negative 0 d = some (signedZero negative) := by
  have h := round_units (signedZero negative) hd
  rwa [show (signedZero negative).units = 0 from rfl, zero_mul] at h

theorem units_lt {x : Binary64} {k : ℕ} (h : x.shift ≤ k) : x.units < 2 ^ 53 * 2 ^ k :=
  (Nat.mul_le_mul_left _ (Nat.pow_le_pow_right (Nat.succ_pos 1) h)).trans_lt
    (Nat.mul_lt_mul_of_pos_right x.mantissa_lt (Nat.pow_pos (Nat.succ_pos 1)))

theorem units_injective {x y : Binary64} (hn : x.negative = y.negative) (h : x.units = y.units) : x = y := by
  have hx := round_units x one_pos
  have hy := round_units y one_pos
  rw [h, hn, hy] at hx
  exact (Option.some.inj hx).symm

theorem eq_signedZero {x : Binary64} (h : x.units = 0) : x = signedZero x.negative :=
  units_injective rfl h

end Binary64
