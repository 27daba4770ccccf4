import Mathlib.Data.Nat.Digits.Lemmas
import Mathlib.Tactic.Ring
import Mathlib.Tactic.Linarith

/-!
Decimal digit lists, most significant digit first, and the naturals they
denote.
-/

namespace DecimalDigits

/-- The decimal digits of a natural, without leading zeros; `0` has one digit. -/
def digits (n : ℕ) : List ℕ :=
  if n = 0 then [0] else (Nat.digits 10 n).reverse

def value (ds : List ℕ) : ℕ := ds.foldl (fun a d => 10 * a + d) 0

def AllDigits (ds : List ℕ) : Prop := ∀ d ∈ ds, d < 10

instance (ds : List ℕ) : Decidable (AllDigits ds) := inferInstanceAs (Decidable (∀ d ∈ ds, d < 10))

theorem foldl_value (ds : List ℕ) (a : ℕ) :
    ds.foldl (fun a d => 10 * a + d) a = a * 10 ^ ds.length + value ds := by
  induction ds generalizing a with
  | nil => simp [value]
  | cons d ds ih =>
    simp only [value, List.foldl_cons, List.length_cons] at *
    rw [ih, ih (10 * 0 + d)]
    ring

@[simp] theorem value_nil : value [] = 0 := rfl

theorem value_append (ds es : List ℕ) :
    value (ds ++ es) = value ds * 10 ^ es.length + value es := by
  rw [value, List.foldl_append, foldl_value]
  rfl

theorem value_cons (d : ℕ) (ds : List ℕ) : value (d :: ds) = d * 10 ^ ds.length + value ds := by
  simpa [value] using foldl_value ds d

theorem value_replicate_zero (k : ℕ) : value (List.replicate k 0) = 0 := by
  induction k with
  | zero => rfl
  | succ k ih => rw [List.replicate_succ, value_cons, ih]; simp

theorem value_reverse (ds : List ℕ) : value ds.reverse = Nat.ofDigits 10 ds := by
  induction ds with
  | nil => rfl
  | cons d ds ih =>
    rw [List.reverse_cons, value_append, ih, Nat.ofDigits_cons]
    simp [value]
    ring

theorem value_digits (n : ℕ) : value (digits n) = n := by
  unfold digits
  split_ifs with h
  · simp [value, h]
  · rw [value_reverse, Nat.ofDigits_digits]

theorem digits_injective : Function.Injective digits := fun m n h => by
  rw [← value_digits m, h, value_digits]

theorem digits_lt (n : ℕ) : AllDigits (digits n) := by
  intro d hd
  unfold digits at hd
  split_ifs at hd with h
  · simp only [List.mem_singleton] at hd; omega
  · exact Nat.digits_lt_base (by norm_num) (List.mem_reverse.mp hd)

theorem digits_ne_nil (n : ℕ) : digits n ≠ [] := by
  unfold digits
  split_ifs with h
  · simp
  · simpa using Nat.digits_ne_nil_iff_ne_zero.mpr h

theorem length_digits_pos (n : ℕ) : 0 < (digits n).length :=
  List.length_pos_iff.mpr (digits_ne_nil n)

theorem digits_lower {n : ℕ} (hn : 0 < n) : 10 ^ ((digits n).length - 1) ≤ n := by
  have hl : (digits n).length = (Nat.digits 10 n).length := by simp [digits, hn.ne']
  have hp := length_digits_pos n
  have hb := Nat.base_pow_length_digits_le 10 n (by norm_num) hn.ne'
  rw [hl] at hp ⊢
  have he : 10 ^ (Nat.digits 10 n).length = 10 * 10 ^ ((Nat.digits 10 n).length - 1) := by
    rw [← pow_succ']
    congr 1
    omega
  omega

theorem digits_upper (n : ℕ) : n < 10 ^ (digits n).length := by
  unfold digits
  split_ifs with h
  · subst h; norm_num
  · simpa using Nat.lt_base_pow_length_digits (m := n) (by norm_num : 1 < 10)

theorem value_lt {ds : List ℕ} (h : AllDigits ds) : value ds < 10 ^ ds.length := by
  induction ds with
  | nil => simp
  | cons d ds ih =>
    have hd : d < 10 := h d (by simp)
    have ht := ih (fun e he => h e (List.mem_cons_of_mem _ he))
    rw [value_cons, List.length_cons, pow_succ]
    nlinarith

/-- A digit list whose first digit is not zero is the digit list of its value. -/
theorem digits_value {d : ℕ} {ds : List ℕ} (h : AllDigits (d :: ds)) (hd : d ≠ 0) :
    digits (value (d :: ds)) = d :: ds := by
  have hr : value (d :: ds) = Nat.ofDigits 10 (d :: ds).reverse := by
    rw [← value_reverse, List.reverse_reverse]
  have hpos : value (d :: ds) ≠ 0 := by
    rw [value_cons]
    have : 0 < d * 10 ^ ds.length := Nat.mul_pos (by omega) (by positivity)
    omega
  unfold digits
  rw [if_neg hpos, hr, Nat.digits_ofDigits 10 (by norm_num), List.reverse_reverse]
  · intro e he
    exact h e (List.mem_reverse.mp he)
  · intro hne
    simpa using hd

/-- Exactly `k` digits of `n`, the higher ones dropped. -/
def fixedDigits : ℕ → ℕ → List ℕ
  | 0, _ => []
  | k + 1, n => fixedDigits k (n / 10) ++ [n % 10]

@[simp] theorem length_fixedDigits (k n : ℕ) : (fixedDigits k n).length = k := by
  induction k generalizing n with
  | zero => rfl
  | succ k ih => simp [fixedDigits, ih]

theorem fixedDigits_lt (k n : ℕ) : AllDigits (fixedDigits k n) := by
  induction k generalizing n with
  | zero => simp [fixedDigits, AllDigits]
  | succ k ih =>
    intro d hd
    rcases List.mem_append.mp hd with hd | hd
    · exact ih (n / 10) d hd
    · simp only [List.mem_singleton] at hd; omega

theorem value_fixedDigits {k n : ℕ} (h : n < 10 ^ k) : value (fixedDigits k n) = n := by
  induction k generalizing n with
  | zero => simp at h; simp [fixedDigits, h]
  | succ k ih =>
    have hd : n / 10 < 10 ^ k := by
      rw [pow_succ] at h
      exact Nat.div_lt_of_lt_mul (by omega)
    rw [fixedDigits, value_append, ih hd]
    simp [value]
    omega

end DecimalDigits
