import KairosPersistence.AsciiJson
import KairosPersistence.Binary64

/-!
`float.hex` and `float.fromhex`. A double is a hexadecimal significand and a
power of two; what was printed is read back.
-/

namespace FloatHex

open DecimalDigits
open JsonText (digit? digitChar hexChar hexDigit? hexDigit?_hexChar spanDigits spanDigits_append)

section Print

/-- The last `k` hexadecimal digits of a natural. -/
def hexDigits : ℕ → ℕ → List ℕ
  | 0, _ => []
  | k + 1, n => hexDigits k (n / 16) ++ [n % 16]

def signedText (n : ℤ) : List Char := (if n < 0 then '-' else '+') :: (digits n.natAbs).map digitChar

/-- The digits behind the point, the one in front of it being 1 or, of a subnormal, 0. -/
def hexChars (x : Binary64) : List Char :=
  (if x.negative then ['-'] else []) ++ '0' :: 'x' ::
    if x.units = 0 then ['0', '.', '0', 'p', '+', '0']
    else if 2 ^ 52 ≤ x.mantissa then
      '1' :: '.' :: (hexDigits 13 (x.mantissa - 2 ^ 52)).map hexChar ++ 'p' :: signedText (x.shift - 1022)
    else '0' :: '.' :: (hexDigits 13 x.mantissa).map hexChar ++ 'p' :: signedText (-1022)

def hex (x : Binary64) : String := String.ofList (hexChars x)

end Print

section Read

def isSpace (c : Char) : Bool := c = ' ' || (9 ≤ c.toNat && c.toNat ≤ 13)

def spanHex : List Char → List ℕ × List Char
  | [] => ([], [])
  | c :: cs => match hexDigit? c with
    | some d => (d :: (spanHex cs).1, (spanHex cs).2)
    | none => ([], c :: cs)

def hexValue (ds : List ℕ) : ℕ := ds.foldl (fun n d => 16 * n + d) 0

def readSign : List Char → Bool × List Char
  | '-' :: cs => (true, cs)
  | '+' :: cs => (false, cs)
  | cs => (false, cs)

def skipPrefix : List Char → List Char
  | '0' :: c :: cs => if c = 'x' ∨ c = 'X' then cs else '0' :: c :: cs
  | cs => cs

def readFraction : List Char → List ℕ × List Char
  | '.' :: cs => spanHex cs
  | cs => ([], cs)

/-- The exponent, if there is one, and the rest. -/
def readExponent : List Char → Option (ℤ × List Char)
  | c :: cs =>
    if c = 'p' ∨ c = 'P' then
      let (negative, cs) := readSign cs
      let (ds, cs) := spanDigits cs
      if ds = [] then none else some (if negative then -(value ds : ℤ) else value ds, cs)
    else some (0, c :: cs)
  | [] => some (0, [])

/-- What follows a word, in letters of either case. -/
def afterWord : List Char → List Char → Option (List Char)
  | [], cs => some cs
  | _ :: _, [] => none
  | w :: word, c :: cs => if c.toLower = w then afterWord word cs else none

/-- `_Py_parse_inf_or_nan` of what follows the sign. -/
def readNonFinite (cs : List Char) : Option (List Char) :=
  [['i', 'n', 'f', 'i', 'n', 'i', 't', 'y'], ['i', 'n', 'f'], ['n', 'a', 'n']].findSome? fun word => afterWord word cs

/-- The double nearest to `n * 2 ^ e`. -/
def roundScaled (negative : Bool) (n : ℕ) (e : ℤ) : Option Binary64 :=
  Binary64.round negative (n * 2 ^ (e + 1074).toNat) (2 ^ (-(e + 1074)).toNat)

/-- `float.fromhex`: none where it raises, and no double for an infinity or a NaN. -/
def fromhex (s : String) : Option (Option Binary64) :=
  let (negative, cs) := readSign (s.toList.dropWhile isSpace)
  match readNonFinite cs with
  | some rest => if rest.all isSpace then some none else none
  | none =>
    let (whole, cs) := spanHex (skipPrefix cs)
    let (fraction, cs) := readFraction cs
    if whole ++ fraction = [] then none
    else (readExponent cs).bind fun (exponent, rest) =>
      if rest.all isSpace then
        (roundScaled negative (hexValue (whole ++ fraction)) (exponent - 4 * fraction.length)).map some
      else none

end Read

section Reread

theorem spanHex_stop {cs : List Char} (h : ∀ c ∈ cs.head?, hexDigit? c = none) : spanHex cs = ([], cs) := by
  cases cs with
  | nil => rfl
  | cons c cs => simp [spanHex, h c (by simp)]

theorem spanHex_append {ds : List ℕ} (hds : ∀ d ∈ ds, d < 16) {cs : List Char}
    (h : ∀ c ∈ cs.head?, hexDigit? c = none) : spanHex (ds.map hexChar ++ cs) = (ds, cs) := by
  induction ds with
  | nil => exact spanHex_stop h
  | cons d ds ih =>
    have ih := ih fun e he => hds e (List.mem_cons_of_mem _ he)
    simp [spanHex, hexDigit?_hexChar (hds d (by simp)), ih]

theorem hexDigits_lt (k n : ℕ) : ∀ d ∈ hexDigits k n, d < 16 := by
  induction k generalizing n with
  | zero => simp [hexDigits]
  | succ k ih =>
    intro d hd
    rcases List.mem_append.mp hd with hd | hd
    · exact ih _ d hd
    · rw [List.mem_singleton.mp hd]
      exact Nat.mod_lt _ (by norm_num)

@[simp] theorem length_hexDigits (k n : ℕ) : (hexDigits k n).length = k := by
  induction k generalizing n with
  | zero => rfl
  | succ k ih => simp [hexDigits, ih]

theorem hexValue_hexDigits {k n : ℕ} (h : n < 16 ^ k) : hexValue (hexDigits k n) = n := by
  induction k generalizing n with
  | zero =>
    have hzero : n = 0 := by omega
    simp [hexValue, hexDigits, hzero]
  | succ k ih =>
    have hdiv : n / 16 < 16 ^ k := by
      apply Nat.div_lt_of_lt_mul
      rwa [pow_succ, mul_comm] at h
    have hvalue := ih hdiv
    unfold hexValue at hvalue ⊢
    rw [hexDigits, List.foldl_append, hvalue]
    simp only [List.foldl_cons, List.foldl_nil]
    omega

theorem foldl_hexValue (ds : List ℕ) (n : ℕ) :
    ds.foldl (fun n d => 16 * n + d) n = n * 16 ^ ds.length + hexValue ds := by
  unfold hexValue
  induction ds generalizing n with
  | nil => simp
  | cons d ds ih =>
    simp only [List.foldl_cons, List.length_cons]
    rw [ih, ih (16 * 0 + d)]
    ring

theorem hexValue_cons (d : ℕ) (ds : List ℕ) : hexValue (d :: ds) = d * 16 ^ ds.length + hexValue ds := by
  have h := foldl_hexValue ds (16 * 0 + d)
  rw [mul_zero, zero_add] at h
  rw [← h, hexValue, List.foldl_cons, mul_zero, zero_add]

theorem readExponent_signedText (n : ℤ) : readExponent ('p' :: signedText n) = some (n, []) := by
  have hspan : spanDigits ((digits n.natAbs).map digitChar) = (digits n.natAbs, []) := by
    have h := @spanDigits_append _ (digits_lt n.natAbs) [] (by simp)
    rwa [List.append_nil] at h
  by_cases hn : n < 0
  · have habs : -(n.natAbs : ℤ) = n := by omega
    simp only [readExponent, signedText, readSign, hn, hspan, digits_ne_nil, value_digits, habs, true_or, if_true, if_false]
  · have habs : (n.natAbs : ℤ) = n := by omega
    simp only [readExponent, signedText, readSign, hn, hspan, digits_ne_nil, value_digits, habs, true_or, if_true, if_false,
      Bool.false_eq_true]

/-- A significand and its exponent are the double they were taken from. -/
theorem roundScaled_units (x : Binary64) {n : ℕ} {e : ℤ} (h : n * 2 ^ (e + 1074).toNat = x.units * 2 ^ (-(e + 1074)).toNat) :
    roundScaled x.negative n e = some x := by
  rw [roundScaled, h]
  exact Binary64.round_units x (by positivity)

theorem skipPrefix_hex (cs : List Char) : skipPrefix ('0' :: 'x' :: cs) = cs := by simp [skipPrefix]

theorem readNonFinite_hex (cs : List Char) : readNonFinite ('0' :: cs) = none := by
  simp [readNonFinite, afterWord]

/-- What is read of the digits of a significand with its exponent. -/
theorem fromhex_chars {negative : Bool} {d n : ℕ} {e : ℤ} {x : Binary64} (hd : d < 10) (hn : n < 16 ^ 13)
    (hx : roundScaled negative (d * 16 ^ 13 + n) (e - 52) = some x) :
    fromhex (String.ofList ((if negative then ['-'] else []) ++ '0' :: 'x' :: digitChar d :: '.' ::
      (hexDigits 13 n).map hexChar ++ 'p' :: signedText e)) = some (some x) := by
  have hdigit : hexDigit? (digitChar d) = some d := by interval_cases d <;> rfl
  have hpoint : spanHex ('.' :: (hexDigits 13 n).map hexChar ++ 'p' :: signedText e) =
      ([], '.' :: (hexDigits 13 n).map hexChar ++ 'p' :: signedText e) := by
    apply spanHex_stop
    intro c hc
    obtain rfl : '.' = c := by simpa using hc
    rfl
  have hfraction : readFraction ('.' :: (hexDigits 13 n).map hexChar ++ 'p' :: signedText e) =
      (hexDigits 13 n, 'p' :: signedText e) := by
    apply spanHex_append (hexDigits_lt 13 n)
    intro c hc
    obtain rfl : 'p' = c := by simpa using hc
    rfl
  have hvalue : hexValue (d :: hexDigits 13 n) = d * 16 ^ 13 + n := by
    rw [hexValue_cons, length_hexDigits, hexValue_hexDigits hn]
  have hsign : readSign (((if negative then ['-'] else []) ++ '0' :: 'x' :: digitChar d :: '.' ::
      (hexDigits 13 n).map hexChar ++ 'p' :: signedText e).dropWhile isSpace) =
      (negative, '0' :: 'x' :: digitChar d :: '.' :: (hexDigits 13 n).map hexChar ++ 'p' :: signedText e) := by
    cases negative <;> rfl
  have hfinite : readNonFinite ('0' :: 'x' :: digitChar d :: '.' :: (hexDigits 13 n).map hexChar ++ 'p' :: signedText e) =
      none := readNonFinite_hex _
  have hskip : spanHex (skipPrefix ('0' :: 'x' :: digitChar d :: '.' :: (hexDigits 13 n).map hexChar ++ 'p' :: signedText e)) =
      ([d], '.' :: (hexDigits 13 n).map hexChar ++ 'p' :: signedText e) := by
    rw [List.cons_append, List.cons_append, skipPrefix_hex, List.cons_append, spanHex, hdigit]
    simp only [hpoint]
  have hexponent := readExponent_signedText e
  have hscale : e - 4 * ((hexDigits 13 n).length : ℤ) = e - 52 := by
    rw [length_hexDigits]
    norm_num
  rw [fromhex, String.toList_ofList, hsign]
  dsimp only
  rw [hfinite]
  dsimp only
  rw [hskip]
  dsimp only
  rw [hfraction]
  dsimp only
  rw [if_neg (by simp), hexponent, List.singleton_append, hvalue]
  rw [Option.bind_some, hscale, List.all_nil, if_pos rfl, hx, Option.map_some]

/-- What was printed is read back. -/
theorem fromhex_hex (x : Binary64) : fromhex (hex x) = some (some x) := by
  by_cases hzero : x.units = 0
  · obtain rfl | rfl : x = Binary64.signedZero false ∨ x = Binary64.signedZero true := by
      rw [Binary64.eq_signedZero hzero]
      cases x.negative <;> simp
    · decide +kernel
    · decide +kernel
  have hmantissa := x.mantissa_lt
  by_cases hnormal : 2 ^ 52 ≤ x.mantissa
  · have hchars : hexChars x = (if x.negative then ['-'] else []) ++ '0' :: 'x' :: digitChar 1 :: '.' ::
        (hexDigits 13 (x.mantissa - 2 ^ 52)).map hexChar ++ 'p' :: signedText (x.shift - 1022) := by
      rw [hexChars, if_neg hzero, if_pos hnormal]
      simp [digitChar]
    rw [hex, hchars]
    apply fromhex_chars (by norm_num) (by omega)
    apply roundScaled_units
    have hsum : 1 * 16 ^ 13 + (x.mantissa - 2 ^ 52) = x.mantissa := by omega
    have hup : ((x.shift - 1022 : ℤ) - 52 + 1074).toNat = x.shift := by omega
    have hdown : (-((x.shift - 1022 : ℤ) - 52 + 1074)).toNat = 0 := by omega
    rw [hsum, hup, hdown, pow_zero, mul_one, Binary64.units]
  · have hshift : x.shift = 0 := x.normalized.resolve_right hnormal
    have hchars : hexChars x = (if x.negative then ['-'] else []) ++ '0' :: 'x' :: digitChar 0 :: '.' ::
        (hexDigits 13 x.mantissa).map hexChar ++ 'p' :: signedText (-1022) := by
      rw [hexChars, if_neg hzero, if_neg hnormal]
      simp [digitChar]
    rw [hex, hchars]
    apply fromhex_chars (by norm_num) (by omega)
    apply roundScaled_units
    have hexponent : ((-1022 : ℤ) - 52 + 1074).toNat = 0 := by norm_num
    have hdown : (-((-1022 : ℤ) - 52 + 1074)).toNat = 0 := by norm_num
    simp only [Binary64.units, hshift, hexponent, hdown, zero_mul, zero_add, pow_zero, mul_one]

theorem hex_injective : Function.Injective hex := by
  intro x y h
  have hx := fromhex_hex x
  rw [h, fromhex_hex y] at hx
  simpa using hx.symm

end Reread

end FloatHex
