import KairosPersistence.Binary64

/-!
Rounding to doubles keeps the order of the ratios.
-/

namespace Binary64

/-- The units of the double nearest to `a / d` units, of any exponent. -/
def roundUnits (a d : ℕ) : ℕ := nearest a (d * 2 ^ ulp a d) * 2 ^ ulp a d

theorem units_round {negative : Bool} {a d : ℕ} {x : Binary64} (h : round negative a d = some x) :
    x.units = roundUnits a d := by
  simp only [round] at h
  split at h
  case isTrue hm =>
    split at h
    · obtain rfl := Option.some.inj h
      change 2 ^ 52 * 2 ^ (ulp a d + 1) = nearest a (d * 2 ^ ulp a d) * 2 ^ ulp a d
      rw [hm]
      ring
    · cases h
  case isFalse =>
    split at h
    · obtain rfl := Option.some.inj h
      rfl
    · cases h

theorem nearest_mono {a b : ℕ} (d : ℕ) (h : a ≤ b) : nearest a d ≤ nearest b d := by
  rcases (Nat.div_le_div_right h : a / d ≤ b / d).lt_or_eq with hlt | heq
  · calc nearest a d ≤ a / d + 1 := nearest_le a d
      _ ≤ b / d := hlt
      _ ≤ nearest b d := le_nearest b d
  · have ha := Nat.div_add_mod a d
    have hb := Nat.div_add_mod b d
    rw [heq] at ha
    unfold nearest
    rw [heq]
    split_ifs <;> omega

theorem roundUnits_mono {a b : ℕ} (d : ℕ) (h : a ≤ b) : roundUnits a d ≤ roundUnits b d := by
  have hdiv : a / d ≤ b / d := Nat.div_le_div_right h
  have hulp : ulp a d ≤ ulp b d := by
    unfold ulp
    rw [Nat.log2_eq_log_two, Nat.log2_eq_log_two]
    have := Nat.log_mono_right (b := 2) hdiv
    omega
  unfold roundUnits
  rcases hulp.lt_or_eq with hlt | heq
  · -- the lower one is at most the least double of the next exponent
    calc nearest a (d * 2 ^ ulp a d) * 2 ^ ulp a d ≤ 2 ^ 53 * 2 ^ ulp a d :=
          Nat.mul_le_mul_right _ (nearest_ulp_le a d)
      _ = 2 ^ 52 * 2 ^ (ulp a d + 1) := by rw [pow_succ (n := ulp a d)]; ring
      _ ≤ 2 ^ 52 * 2 ^ ulp b d := Nat.mul_le_mul_left _ (Nat.pow_le_pow_right (by norm_num) hlt)
      _ ≤ nearest b (d * 2 ^ ulp b d) * 2 ^ ulp b d :=
          Nat.mul_le_mul_right _ ((le_quotient (by omega)).trans (le_nearest _ _))
  · rw [heq]
    exact Nat.mul_le_mul_right _ (nearest_mono _ h)

end Binary64
