import KairosPersistence.JsonText
import KairosPersistence.PythonText

/-!
`datetime.fromisoformat` of what `datetime.isoformat` prints in UTC.
-/

namespace PythonText

open DecimalDigits JsonText

def daysBeforeYear (year : ℕ) : ℕ := (year - 1) * 365 + (year - 1) / 4 - (year - 1) / 100 + (year - 1) / 400

def daysOfYear (leap : Bool) : ℕ := if leap then 366 else 365

/-- Exactly `k` digits. -/
def readDigits (k : ℕ) (cs : List Char) : Option (ℕ × List Char) :=
  if (spanDigits cs).1.length = k then some (value (spanDigits cs).1, (spanDigits cs).2) else none

def readMark (mark : Char) : List Char → Option (List Char)
  | c :: cs => if c = mark then some cs else none
  | [] => none

/-- The days since 1 January of year 1, of a date of the calendar. -/
def readDate (cs : List Char) : Option (ℕ × List Char) := do
  let (year, cs) ← readDigits 4 cs
  let cs ← readMark '-' cs
  let (month, cs) ← readDigits 2 cs
  let cs ← readMark '-' cs
  let (day, cs) ← readDigits 2 cs
  if 1 ≤ year ∧ 1 ≤ month ∧ month ≤ 12 ∧ 1 ≤ day ∧
      (monthDay (isLeap year) (daysBeforeMonth (isLeap year) month + day - 1)).1 = month ∧
      daysBeforeMonth (isLeap year) month + day ≤ daysOfYear (isLeap year) then
    some (daysBeforeYear year + (daysBeforeMonth (isLeap year) month + day - 1), cs)
  else none

def readSeconds (cs : List Char) : Option (ℕ × List Char) := do
  let (hour, cs) ← readDigits 2 cs
  let cs ← readMark ':' cs
  let (minute, cs) ← readDigits 2 cs
  let cs ← readMark ':' cs
  let (second, cs) ← readDigits 2 cs
  if hour < 24 ∧ minute < 60 ∧ second < 60 then some (hour * 3600 + minute * 60 + second, cs) else none

def readMicros : List Char → Option (ℕ × List Char)
  | '.' :: cs => readDigits 6 cs
  | cs => some (0, cs)

def fromisoformat (s : String) : Option Timestamp := do
  let (days, cs) ← readDate s.toList
  let cs ← readMark 'T' cs
  let (seconds, cs) ← readSeconds cs
  let (micros, cs) ← readMicros cs
  if cs = ['+', '0', '0', ':', '0', '0'] then some ((days * 86400 + seconds) * 1000000 + micros : ℕ) else none

section Calendar

theorem monthDay_spec : ∀ leap : Bool, ∀ n < daysOfYear leap,
    daysBeforeMonth leap (monthDay leap n).1 + (monthDay leap n).2 = n + 1 ∧ 1 ≤ (monthDay leap n).1 ∧
      (monthDay leap n).1 ≤ 12 ∧ 1 ≤ (monthDay leap n).2 ∧ (monthDay leap n).2 ≤ 31 := by
  decide +kernel

/-- The day `n` is in its year. -/
theorem yearDay_spec (n : ℕ) : daysBeforeYear (yearDay n).1 + (yearDay n).2 = n ∧ 1 ≤ (yearDay n).1 ∧
    (yearDay n).2 < daysOfYear (isLeap (yearDay n).1) := by
  have h400 := Nat.div_add_mod n 146097
  have h100 := Nat.div_add_mod (n % 146097) 36524
  have h4 := Nat.div_add_mod (n % 146097 % 36524) 1461
  have h1 := Nat.div_add_mod (n % 146097 % 36524 % 1461) 365
  have hcycle : n % 146097 < 146097 := Nat.mod_lt _ (by norm_num)
  have hcentury : n % 146097 % 36524 < 36524 := Nat.mod_lt _ (by norm_num)
  have hfour : n % 146097 % 36524 % 1461 < 1461 := Nat.mod_lt _ (by norm_num)
  have hday : n % 146097 % 36524 % 1461 % 365 < 365 := Nat.mod_lt _ (by norm_num)
  unfold yearDay
  simp only
  generalize n / 146097 = n400 at *
  generalize n % 146097 = cycle at *
  generalize cycle / 36524 = n100 at *
  generalize cycle % 36524 = century at *
  generalize century / 1461 = n4 at *
  generalize century % 1461 = four at *
  generalize four / 365 = n1 at *
  generalize four % 365 = day at *
  split
  case isTrue hlast =>
    -- the last day of a leap year
    have hleap : isLeap (n400 * 400 + n100 * 100 + n4 * 4 + n1 + 1 - 1) = true := by
      simp only [isLeap, Bool.and_eq_true, Bool.or_eq_true, decide_eq_true_eq]
      omega
    rw [hleap]
    simp only [daysBeforeYear, daysOfYear, if_true]
    refine ⟨?_, by omega, by omega⟩
    rcases hlast with rfl | rfl
    · have hquarters : (n400 * 400 + n100 * 100 + n4 * 4 + 4 + 1 - 1 - 1) / 4 = n400 * 100 + n100 * 25 + n4 := by omega
      have hcenturies : (n400 * 400 + n100 * 100 + n4 * 4 + 4 + 1 - 1 - 1) / 100 = n400 * 4 + n100 := by omega
      have hcycles : (n400 * 400 + n100 * 100 + n4 * 4 + 4 + 1 - 1 - 1) / 400 = n400 := by omega
      rw [hquarters, hcenturies, hcycles]
      omega
    · obtain rfl : n4 = 0 := by omega
      obtain rfl : n1 = 0 := by omega
      omega
  case isFalse hlast =>
    have hquarters : (n400 * 400 + n100 * 100 + n4 * 4 + n1 + 1 - 1) / 4 = n400 * 100 + n100 * 25 + n4 := by omega
    have hcenturies : (n400 * 400 + n100 * 100 + n4 * 4 + n1 + 1 - 1) / 100 = n400 * 4 + n100 := by omega
    have hcycles : (n400 * 400 + n100 * 100 + n4 * 4 + n1 + 1 - 1) / 400 = n400 := by omega
    simp only [daysBeforeYear, daysOfYear, hquarters, hcenturies, hcycles]
    refine ⟨by omega, by omega, ?_⟩
    split <;> omega

theorem yearDay_lt {n : ℕ} (h : n < 3652059) : (yearDay n).1 < 10000 := by
  have hspec := yearDay_spec n
  unfold daysBeforeYear at hspec
  omega

end Calendar

section Digits

theorem readDigits_padded {k n : ℕ} (h : n < 10 ^ k) {cs : List Char} (hcs : ∀ c ∈ cs.head?, digit? c = none) :
    readDigits k (padded k n ++ cs) = some (n, cs) := by
  have hspan : spanDigits (padded k n ++ cs) = (fixedDigits k n, cs) := spanDigits_append (fixedDigits_lt k n) hcs
  rw [readDigits, hspan, if_pos (length_fixedDigits k n), value_fixedDigits h]

theorem readMark_cons (mark : Char) (cs : List Char) : readMark mark (mark :: cs) = some cs := if_pos rfl

theorem readDate_dateChars {days : ℕ} (h : days < 3652059) {cs : List Char} (hcs : ∀ c ∈ cs.head?, digit? c = none) :
    readDate (dateChars days ++ cs) = some (days, cs) := by
  obtain ⟨hsum, hyear, hday⟩ := yearDay_spec days
  have hlt := yearDay_lt h
  unfold dateChars
  generalize yearDay days = date at *
  obtain ⟨year, n⟩ := date
  obtain ⟨hmonthDay, hmonth, hmonth', hdayOf, hdayOf'⟩ := monthDay_spec (isLeap year) n hday
  have hmonths : (monthDay (isLeap year) n).1 = (monthDay (isLeap year) n).1 := rfl
  simp only at hsum hyear hlt hday ⊢
  have hback : daysBeforeMonth (isLeap year) (monthDay (isLeap year) n).1 + (monthDay (isLeap year) n).2 - 1 = n := by omega
  simp only [readDate, List.append_assoc, List.cons_append]
  rw [readDigits_padded (by omega) (by simp [digit?])]
  simp only [Option.bind_eq_bind, Option.bind_some, readMark_cons]
  rw [readDigits_padded (by omega) (by simp [digit?])]
  simp only [Option.bind_some, readMark_cons]
  rw [readDigits_padded (by omega) hcs]
  simp only [Option.bind_some]
  rw [hback, if_pos ⟨hyear, hmonth, hmonth', hdayOf, rfl, by omega⟩, hsum]

theorem readSeconds_padded {seconds : ℕ} (h : seconds < 86400) {cs : List Char} (hcs : ∀ c ∈ cs.head?, digit? c = none) :
    readSeconds (padded 2 (seconds / 3600) ++ ':' :: padded 2 (seconds / 60 % 60) ++ ':' :: padded 2 (seconds % 60) ++ cs) =
      some (seconds, cs) := by
  simp only [readSeconds, List.append_assoc, List.cons_append]
  rw [readDigits_padded (by omega) (by simp [digit?])]
  simp only [Option.bind_eq_bind, Option.bind_some, readMark_cons]
  rw [readDigits_padded (by omega) (by simp [digit?])]
  simp only [Option.bind_some, readMark_cons]
  rw [readDigits_padded (by omega) hcs]
  simp only [Option.bind_some]
  rw [if_pos (by omega)]
  congr 2
  omega

theorem readMicros_printed {micros : ℕ} (h : micros < 1000000) {always : Prop} [Decidable always] :
    readMicros ((if always ∨ micros ≠ 0 then '.' :: padded 6 micros else []) ++ ['+', '0', '0', ':', '0', '0']) =
      some (micros, ['+', '0', '0', ':', '0', '0']) := by
  split
  · exact readDigits_padded h (by simp [digit?])
  · rename_i hzero
    have hmicros : micros = 0 := by
      by_contra hne
      exact hzero (Or.inr hne)
    rw [hmicros]
    rfl

/-- Every time of the calendar is read as it was printed. -/
theorem fromisoformat_isoformat (always : Bool) {t : Timestamp} (h0 : 0 ≤ t) (h : t < 315537897600000000) :
    fromisoformat (isoformat always t) = some t := by
  obtain ⟨n, rfl⟩ := Int.eq_ofNat_of_zero_le h0
  have hn : n < 315537897600000000 := Int.ofNat_lt.mp h
  simp only [fromisoformat, isoformat, String.toList_ofList, Int.toNat_natCast]
  simp only [List.append_assoc, List.cons_append]
  rw [readDate_dateChars (by omega) (by simp [digit?])]
  simp only [Option.bind_eq_bind, Option.bind_some, readMark_cons]
  have hoffset : ∀ c ∈ ((if always = true ∨ n % 1000000 ≠ 0 then '.' :: padded 6 (n % 1000000) else []) ++
      ['+', '0', '0', ':', '0', '0']).head?, digit? c = none := by
    split <;> simp [digit?]
  have hseconds := readSeconds_padded (Nat.mod_lt (n / 1000000) (show 86400 > 0 by norm_num)) hoffset
  simp only [List.append_assoc, List.cons_append] at hseconds
  rw [hseconds]
  simp only [Option.bind_some]
  rw [readMicros_printed (Nat.mod_lt _ (by norm_num))]
  have hsum : (n / 86400000000 * 86400 + n / 1000000 % 86400) * 1000000 + n % 1000000 = n := by omega
  simp only [Option.bind_some, if_true, hsum]

end Digits

end PythonText
