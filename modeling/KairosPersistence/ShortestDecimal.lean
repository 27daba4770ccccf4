import KairosPersistence.DecimalDigits
import KairosPersistence.Binary64

/-!
The shortest decimal that rounds to a given double: `c * 10 ^ p` units of
`10 ^ (-1074)`, with `p` as large as possible and, for that `p`, `c` as close
as possible to the double.
-/

namespace ShortestDecimal

open Binary64

@[irreducible] def fivePower (k : ℕ) : ℕ := 5 ^ k

theorem fivePower_pos (k : ℕ) : 0 < fivePower k := by
  rw [fivePower]
  positivity

theorem tenPower_dvd {k s : ℕ} (h : k ≤ s) (m : ℕ) : 10 ^ k ∣ m * 2 ^ s * fivePower k := by
  rw [fivePower, show (10 : ℕ) = 2 * 5 by norm_num, mul_pow]
  exact mul_dvd_mul_right (dvd_mul_of_dvd_right (pow_dvd_pow 2 h) _) _

/-- One unit of `2 ^ (-1074)` is that many units of `10 ^ (-1074)`. -/
def unit : ℕ := fivePower 1074

theorem unit_pos : 0 < unit := fivePower_pos 1074

@[irreducible] def twoPower (k : ℕ) : ℕ := 2 ^ k

theorem twoPower_mul_fivePower (k : ℕ) : twoPower k * fivePower k = 10 ^ k := by
  rw [twoPower, fivePower, show (10 : ℕ) = 2 * 5 by norm_num, mul_pow]

/-- The magnitude of a double in units of `10 ^ (-1074)`. -/
def coefficient (x : Binary64) : ℕ := x.units * unit

/-- The double nearest to `c * 10 ^ p` units of `10 ^ (-1074)`. -/
def ofDecimal (negative : Bool) (c p : ℕ) : Option Binary64 :=
  Binary64.round negative (c * 10 ^ p) unit

/-- The double nearest to `m * 10 ^ e`. -/
def ofScientific (negative : Bool) (m : ℕ) (e : ℤ) : Option Binary64 :=
  Binary64.round negative (m * 10 ^ e.toNat * twoPower 1074) (10 ^ (-e).toNat)

/-- Zeros may move between the digits and the power of ten. -/
theorem ofScientific_eq (negative : Bool) (c p j : ℕ) :
    ofScientific negative (c * 10 ^ j) (p - 1074 - j) = ofDecimal negative c p := by
  refine round_eq_of_mul_eq negative (by positivity) unit_pos ?_
  obtain ⟨u, hu⟩ : ∃ u, u = ((p : ℤ) - 1074 - j).toNat := ⟨_, rfl⟩
  obtain ⟨v, hv⟩ : ∃ v, v = (-((p : ℤ) - 1074 - j)).toNat := ⟨_, rfl⟩
  have hpow : j + u + 1074 = p + v := by omega
  rw [← hu, ← hv]
  calc c * 10 ^ j * 10 ^ u * twoPower 1074 * unit
      = c * (10 ^ j * 10 ^ u * (twoPower 1074 * fivePower 1074)) := by rw [unit]; ring
    _ = c * 10 ^ (j + u + 1074) := by rw [twoPower_mul_fivePower, ← pow_add, ← pow_add]
    _ = c * 10 ^ p * 10 ^ v := by rw [hpow, pow_add, mul_assoc]

/-- The multiple of `10 ^ p` closest to `x` among those that round to `x`. -/
def pick (x : Binary64) (p : ℕ) : Option ℕ :=
  if ofDecimal x.negative (coefficient x / 10 ^ p) p = some x then
    if ofDecimal x.negative (coefficient x / 10 ^ p + 1) p = some x then
      some (nearest (coefficient x) (10 ^ p))
    else some (coefficient x / 10 ^ p)
  else if ofDecimal x.negative (coefficient x / 10 ^ p + 1) p = some x then
    some (coefficient x / 10 ^ p + 1)
  else none

def search (x : Binary64) : ℕ → ℕ × ℕ
  | 0 => (coefficient x, 0)
  | p + 1 => (pick x (p + 1)).elim (search x p) fun c => (c, p + 1)

def shortest (x : Binary64) : ℕ × ℕ := search x (DecimalDigits.digits (coefficient x)).length

theorem ofDecimal_exact {x : Binary64} {c p : ℕ} (h : c * 10 ^ p = coefficient x) :
    ofDecimal x.negative c p = some x := by
  rw [ofDecimal, h]
  exact round_units x unit_pos

/-- Trailing zeros of the digits may move to the power of ten. -/
theorem ofDecimal_shift (negative : Bool) (c p k : ℕ) :
    ofDecimal negative (c * 10 ^ k) p = ofDecimal negative c (p + k) := by
  simp only [ofDecimal, pow_add]
  congr 1
  ring

theorem pick_spec {x : Binary64} {p c : ℕ} (h : pick x p = some c) :
    ofDecimal x.negative c p = some x ∧ (c = coefficient x / 10 ^ p ∨ c = coefficient x / 10 ^ p + 1) := by
  have hlo := le_nearest (coefficient x) (10 ^ p)
  have hhi := nearest_le (coefficient x) (10 ^ p)
  unfold pick at h
  split_ifs at h with h₁ h₂ h₂
  · simp only [Option.some.injEq] at h
    obtain hc | hc : c = coefficient x / 10 ^ p ∨ c = coefficient x / 10 ^ p + 1 := by omega
    · exact ⟨hc ▸ h₁, Or.inl hc⟩
    · exact ⟨hc ▸ h₂, Or.inr hc⟩
  · simp only [Option.some.injEq] at h
    exact ⟨h ▸ h₁, Or.inl h.symm⟩
  · simp only [Option.some.injEq] at h
    exact ⟨h ▸ h₂, Or.inr h.symm⟩

theorem pick_exact {x : Binary64} {p : ℕ} (hp : 10 ^ p ∣ coefficient x) : pick x p ≠ none := by
  have hexact : ofDecimal x.negative (coefficient x / 10 ^ p) p = some x :=
    ofDecimal_exact (Nat.div_mul_cancel hp)
  rw [pick, if_pos hexact]
  split_ifs <;> simp

theorem search_spec (x : Binary64) (n : ℕ) :
    ofDecimal x.negative (search x n).1 (search x n).2 = some x ∧ (search x n).2 ≤ n ∧
      ((search x n).1 = coefficient x / 10 ^ (search x n).2 ∨
        (search x n).1 = coefficient x / 10 ^ (search x n).2 + 1) := by
  induction n with
  | zero => exact ⟨ofDecimal_exact (by simp [search]), le_rfl, Or.inl (by simp [search])⟩
  | succ p ih =>
    cases h : pick x (p + 1) with
    | some c =>
      obtain ⟨hround, hc⟩ := pick_spec h
      simp only [search, h, Option.elim_some]
      exact ⟨hround, le_rfl, hc⟩
    | none =>
      simp only [search, h, Option.elim_none]
      exact ⟨ih.1, ih.2.1.trans (Nat.le_succ p), ih.2.2⟩

/-- The search stops no later than at a power of ten that divides the magnitude. -/
theorem le_search {x : Binary64} {p : ℕ} (hp : 10 ^ p ∣ coefficient x) {n : ℕ} (hn : p ≤ n) :
    p ≤ (search x n).2 := by
  induction n with
  | zero => omega
  | succ n ih =>
    cases h : pick x (n + 1) with
    | some c => simpa only [search, h, Option.elim_some] using hn
    | none =>
      simp only [search, h, Option.elim_none]
      apply ih
      by_contra hlt
      obtain rfl : p = n + 1 := by omega
      exact pick_exact hp h

theorem shortest_round (x : Binary64) : ofDecimal x.negative (shortest x).1 (shortest x).2 = some x :=
  (search_spec x _).1

theorem shortest_quotient (x : Binary64) :
    (shortest x).1 = coefficient x / 10 ^ (shortest x).2 ∨
      (shortest x).1 = coefficient x / 10 ^ (shortest x).2 + 1 :=
  (search_spec x _).2.2

theorem ofDecimal_zero (negative : Bool) (p : ℕ) : ofDecimal negative 0 p = some (signedZero negative) := by
  rw [ofDecimal, zero_mul, round_zero negative unit_pos]

theorem ofScientific_zero (negative : Bool) (e : ℤ) : ofScientific negative 0 e = some (signedZero negative) := by
  rw [ofScientific, zero_mul, zero_mul, round_zero negative (by positivity)]

theorem shortest_pos {x : Binary64} (hx : x.units ≠ 0) : 0 < (shortest x).1 := by
  rcases Nat.eq_zero_or_pos (shortest x).1 with h | h
  · have hround := shortest_round x
    rw [h, ofDecimal_zero, Option.some.injEq] at hround
    exact absurd (by rw [← hround]; rfl) hx
  · exact h

/-- Digits and a power of ten that spell the shortest decimal of `x` are read as `x`. -/
theorem ofScientific_shortest {x : Binary64} {m j : ℕ} {e : ℤ} (hm : m = (shortest x).1 * 10 ^ j)
    (he : e = (shortest x).2 - 1074 - j) : ofScientific x.negative m e = some x := by
  rw [hm, he, ofScientific_eq]
  exact shortest_round x

theorem lt_length_add {x : Binary64} {e : ℕ} (h : 10 ^ e ≤ coefficient x) :
    e < (DecimalDigits.digits (shortest x).1).length + (shortest x).2 := by
  have hlen := DecimalDigits.digits_upper (shortest x).1
  have hpos := DecimalDigits.length_digits_pos (shortest x).1
  have hlo : coefficient x / 10 ^ (shortest x).2 ≤ (shortest x).1 := by
    rcases shortest_quotient x with hc | hc <;> omega
  by_contra hlt
  have hpow : 10 ^ (e - (shortest x).2) ≤ coefficient x / 10 ^ (shortest x).2 := by
    rw [Nat.le_div_iff_mul_le (by positivity), ← pow_add]
    exact (Nat.pow_le_pow_right (by norm_num) (by omega)).trans h
  have hexp := (Nat.pow_lt_pow_iff_right (a := 10) (by norm_num)).mp (hpow.trans_lt (hlo.trans_lt hlen))
  omega

theorem length_add_le {x : Binary64} (hx : x.units ≠ 0) {e : ℕ} (h : coefficient x < 10 ^ e) :
    (DecimalDigits.digits (shortest x).1).length + (shortest x).2 ≤ e ∨
      (shortest x).1 * 10 ^ (shortest x).2 = 10 ^ e := by
  have hcpos : 0 < coefficient x := Nat.mul_pos (Nat.pos_of_ne_zero hx) unit_pos
  have hlower := DecimalDigits.digits_lower (shortest_pos hx)
  have hL : (shortest x).2 ≤ e := by
    have hp : (shortest x).2 ≤ (DecimalDigits.digits (coefficient x)).length := (search_spec x _).2.1
    have hd := (DecimalDigits.digits_lower hcpos).trans_lt h
    have := (Nat.pow_lt_pow_iff_right (a := 10) (by norm_num)).mp hd
    omega
  have hsplit : 10 ^ e = 10 ^ (e - (shortest x).2) * 10 ^ (shortest x).2 := by
    rw [← pow_add, Nat.sub_add_cancel hL]
  have hhi : (shortest x).1 ≤ 10 ^ (e - (shortest x).2) := by
    have hq : coefficient x / 10 ^ (shortest x).2 < 10 ^ (e - (shortest x).2) := by
      rw [Nat.div_lt_iff_lt_mul (by positivity), ← hsplit]
      exact h
    rcases shortest_quotient x with hc | hc <;> omega
  rcases hhi.eq_or_lt with heq | hlt
  · exact Or.inr (by rw [hsplit, heq])
  · have hexp := (Nat.pow_lt_pow_iff_right (a := 10) (by norm_num)).mp (hlower.trans_lt hlt)
    exact Or.inl (by omega)

/-- The number of digits before the decimal point of the shortest decimal. -/
def pointPosition (x : Binary64) : ℤ :=
  (DecimalDigits.digits (shortest x).1).length + (shortest x).2 - 1074

section Threshold

/-! From `10 ^ 16` on, a double is an integer and its shortest decimal has no
digit after the point; below, the point stands after sixteen digits at most. -/

def tenPower16 : Binary64 :=
  ⟨false, 5 ^ 16 * 2 ^ 15, 1075, by norm_num, by norm_num, Or.inr (by norm_num)⟩

theorem coefficient_tenPower16 : coefficient tenPower16 = 10 ^ 1090 := by
  decide +kernel

variable {x : Binary64}

theorem coefficient_dvd (h : tenPower16.units ≤ x.units) : 10 ^ 1074 ∣ coefficient x := by
  have hs : 1074 ≤ x.shift := by
    by_contra hlt
    have hu : x.units < 2 ^ 53 * 2 ^ 1073 := units_lt (by omega)
    have ht : 2 ^ 53 * 2 ^ 1073 ≤ tenPower16.units := by decide +kernel
    exact absurd (hu.trans_le (ht.trans h)) (lt_irrefl _)
  exact tenPower_dvd hs x.mantissa

theorem large_shortest (h : tenPower16.units ≤ x.units) :
    1074 ≤ (shortest x).2 ∧ 16 < pointPosition x := by
  have hC : 10 ^ 1090 ≤ coefficient x := by
    rw [← coefficient_tenPower16]
    exact Nat.mul_le_mul_right _ h
  have hlen := hC.trans_lt (DecimalDigits.digits_upper (coefficient x))
  have hL := (Nat.pow_lt_pow_iff_right (a := 10) (by norm_num)).mp hlen
  have hpos := lt_length_add hC
  refine ⟨le_search (coefficient_dvd h) (by omega), ?_⟩
  unfold pointPosition
  omega

theorem small_shortest (hx : x.units ≠ 0) (h : x.units < tenPower16.units) : pointPosition x ≤ 16 := by
  have hC : coefficient x < 10 ^ 1090 := by
    rw [← coefficient_tenPower16]
    exact Nat.mul_lt_mul_of_pos_right h unit_pos
  rcases length_add_le hx hC with hle | heq
  · unfold pointPosition
    omega
  · -- the power of ten itself is another double
    have hround := shortest_round x
    rw [ofDecimal, heq, ← coefficient_tenPower16] at hround
    have hten := round_units { tenPower16 with negative := x.negative } unit_pos
    have heq' := Option.some.inj (hround.symm.trans hten)
    exact absurd (congrArg Binary64.units heq') h.ne

end Threshold

end ShortestDecimal
