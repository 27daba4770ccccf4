import KairosPersistence.DecimalDigits
import Mathlib.Data.String.Basic

/-!
Python's `str.strip` and `datetime.isoformat`.
-/

namespace PythonText

/-- The characters `str.strip` removes. -/
def isSpace (c : Char) : Bool :=
  let n := c.toNat
  (9 ≤ n && n ≤ 13) || (28 ≤ n && n ≤ 32) || n = 0x85 || n = 0xa0 || n = 0x1680 || (0x2000 ≤ n && n ≤ 0x200a) ||
    n = 0x2028 || n = 0x2029 || n = 0x202f || n = 0x205f || n = 0x3000

def stripChars (cs : List Char) : List Char :=
  ((cs.dropWhile isSpace).reverse.dropWhile isSpace).reverse

def strip (s : String) : String := String.ofList (stripChars s.toList)

/-- PostgreSQL's `btrim(s) = ''`: there is nothing but blanks. -/
def btrimEmpty (s : String) : Bool := s.toList.all (· = ' ')

theorem mem_dropWhile_of_not {p : Char → Bool} {c : Char} (hc : p c = false) {cs : List Char} (h : c ∈ cs) :
    c ∈ cs.dropWhile p := by
  induction cs with
  | nil => exact absurd h (by simp)
  | cons d cs ih =>
    rw [List.dropWhile_cons]
    split_ifs with hd
    · rcases List.mem_cons.mp h with rfl | h
      · rw [hc] at hd
        exact absurd hd (by simp)
      · exact ih h
    · exact h

theorem mem_strip {c : Char} {s : String} (h : c ∈ s.toList) (hc : isSpace c = false) : c ∈ (strip s).toList := by
  rw [strip, String.toList_ofList, stripChars, List.mem_reverse]
  exact mem_dropWhile_of_not hc (List.mem_reverse.mpr (mem_dropWhile_of_not hc h))

theorem head?_dropWhile {p : Char → Bool} {c : Char} {cs ds : List Char} (h : cs.dropWhile p = c :: ds) :
    p c = false := by
  have hc := List.head?_dropWhile_not p cs
  rw [h] at hc
  simpa using hc

/-- A stripped text that is not empty has a character that is not a space. -/
theorem btrimEmpty_strip {s : String} (h : strip s ≠ "") : btrimEmpty (strip s) = false := by
  cases hr : (s.toList.dropWhile isSpace).reverse.dropWhile isSpace with
  | nil =>
    refine absurd ?_ h
    rw [strip, stripChars, hr]
    rfl
  | cons c cs =>
    have hspace := head?_dropWhile hr
    have hne : c ≠ ' ' := by
      rintro rfl
      exact absurd hspace (by decide)
    simp [btrimEmpty, strip, stripChars, hr, hne]

/-- Microseconds, of a day that begins at midnight UTC on 1 January of year 1. -/
abbrev Timestamp := ℤ

def daysBeforeMonth (leap : Bool) (month : ℕ) : ℕ :=
  [0, 0, 31, 59, 90, 120, 151, 181, 212, 243, 273, 304, 334].getD month 0 + if month > 2 ∧ leap then 1 else 0

def isLeap (year : ℕ) : Bool := year % 4 = 0 && (year % 100 ≠ 0 || year % 400 = 0)

/-- Month and day of month of the day `n`, counted from 0, of a year. -/
def monthDay (leap : Bool) (n : ℕ) : ℕ × ℕ :=
  let month := (n + 50) / 32
  if daysBeforeMonth leap month > n then (month - 1, n - daysBeforeMonth leap (month - 1) + 1)
  else (month, n - daysBeforeMonth leap month + 1)

/-- Year and day of the year of the day `n` since 1 January of year 1. -/
def yearDay (n : ℕ) : ℕ × ℕ :=
  let n400 := n / 146097
  let n100 := n % 146097 / 36524
  let n4 := n % 146097 % 36524 / 1461
  let n1 := n % 146097 % 36524 % 1461 / 365
  let year := n400 * 400 + n100 * 100 + n4 * 4 + n1 + 1
  if n1 = 4 ∨ n100 = 4 then (year - 1, 365) else (year, n % 146097 % 36524 % 1461 % 365)

def digitChars (ds : List ℕ) : List Char := ds.map fun d => Char.ofNat ('0'.toNat + d)

def padded (k n : ℕ) : List Char := digitChars (DecimalDigits.fixedDigits k n)

def dateChars (days : ℕ) : List Char :=
  let (year, n) := yearDay days
  let (month, day) := monthDay (isLeap year) n
  padded 4 year ++ '-' :: padded 2 month ++ '-' :: padded 2 day

/-- `date(t.year, t.month, 1)`, as year and month. -/
def yearMonth (t : Timestamp) : ℕ × ℕ :=
  let (year, n) := yearDay (t.toNat / 86400000000)
  (year, (monthDay (isLeap year) n).1)

/-- `datetime.isoformat()` in UTC; microseconds are printed when they are not zero, or always
with `timespec="microseconds"`. -/
def isoformat (always : Bool) (t : Timestamp) : String :=
  let n := t.toNat
  let seconds := n / 1000000 % 86400
  let micros := n % 1000000
  String.ofList (dateChars (n / 86400000000) ++ 'T' :: padded 2 (seconds / 3600) ++
    ':' :: padded 2 (seconds / 60 % 60) ++ ':' :: padded 2 (seconds % 60) ++
    (if always ∨ micros ≠ 0 then '.' :: padded 6 micros else []) ++ ['+', '0', '0', ':', '0', '0'])

example : isoformat false (63800000000 * 1000000 + 5) = "2022-09-28T22:13:20.000005+00:00" := by
  decide +kernel

end PythonText
