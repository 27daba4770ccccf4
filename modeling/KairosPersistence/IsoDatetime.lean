import KairosPersistence.DatetimeReading
import KairosPersistence.JsonBytes

/-!
`datetime.fromisoformat` of any text, as the C implementation of CPython 3.11
reads its UTF-8 bytes. Behind the last byte it reads a zero.
-/

namespace IsoDatetime

open JsonBytes (CodePoints isDigit digitsValue isHighSurrogate isLowSurrogate)
open PythonText

/-- A `datetime`: its own clock in microseconds since year 1, and the offset of its zone, if it has one. -/
structure PyDatetime where
  clock : Timestamp
  utcoffset : Option ℤ
  deriving DecidableEq, Repr

section Bytes

def utf8Bytes (c : ℕ) : List ℕ :=
  if c < 0x80 then [c]
  else if c < 0x800 then [0xC0 + c / 0x40, 0x80 + c % 0x40]
  else if c < 0x10000 then [0xE0 + c / 0x1000, 0x80 + c / 0x40 % 0x40, 0x80 + c % 0x40]
  else [0xF0 + c / 0x40000, 0x80 + c / 0x1000 % 0x40, 0x80 + c / 0x40 % 0x40, 0x80 + c % 0x40]

def isSurrogate (c : ℕ) : Bool := isHighSurrogate c || isLowSurrogate c

/-- `PyUnicode_AsUTF8AndSize`. -/
def asUtf8 (s : CodePoints) : Option (List ℕ) := if s.any isSurrogate then none else some (s.flatMap utf8Bytes)

/-- `_sanitize_isoformat_str`: a surrogate where the separator can be is taken for a `T`. -/
def sanitize (s : CodePoints) : Option CodePoints :=
  if s.length < 7 then none
  else some (([7, 8, 10].find? fun i => isSurrogate (s.getD i 0)).elim s fun i => s.set i 'T'.toNat)

def parseDigits (count : ℕ) (p : List ℕ) : Option (ℕ × List ℕ) :=
  if (p.take count).length = count ∧ (p.take count).all isDigit then some (digitsValue (p.take count), p.drop count)
  else none

/-- The digits behind a dash, where the date has dashes. -/
def parseDashed (separated : Bool) (count : ℕ) (p : List ℕ) : Option (ℕ × List ℕ) :=
  if separated then if p.headD 0 = '-'.toNat then parseDigits count (p.drop 1) else none
  else parseDigits count p

end Bytes

section Dates

def daysInMonth (leap : Bool) (month : ℕ) : ℕ :=
  if month = 2 then if leap then 29 else 28
  else if month ∈ [4, 6, 9, 11] then 30
  else 31

/-- The days before a date of the calendar, since 1 January of year 1. -/
def calendarDays (year month day : ℕ) : Option ℕ :=
  if 1 ≤ year ∧ 1 ≤ month ∧ month ≤ 12 ∧ 1 ≤ day ∧ day ≤ daysInMonth (isLeap year) month then
    some (daysBeforeYear year + (daysBeforeMonth (isLeap year) month + (day - 1)))
  else none

/-- `iso_to_ymd`, as days; 1 January of year 1 is a Monday. -/
def isoDays (year week day : ℕ) : Option ℕ :=
  let weekday := daysBeforeYear year % 7
  let weeks := if weekday = 3 ∨ weekday = 2 ∧ isLeap year then 53 else 52
  let monday := daysBeforeYear year - weekday + if 3 < weekday then 7 else 0
  let days := monday + (week - 1) * 7 + (day - 1)
  if 1 ≤ year ∧ 1 ≤ week ∧ week ≤ weeks ∧ 1 ≤ day ∧ day ≤ 7 ∧ days < 3652059 then some days else none

/-- `_find_isoformat_datetime_separator`. -/
def findSeparator (s : List ℕ) : Option ℕ :=
  if s.length = 7 then some 7
  else if s.getD 4 0 = '-'.toNat then
    if s.getD 5 0 ≠ 'W'.toNat then some 10
    else if s.getD 8 0 ≠ '-'.toNat then some 8
    else if s.length = 9 then none
    else if isDigit (s.getD 10 0) then some 8
    else some 10
  else if s.getD 4 0 ≠ 'W'.toNat then some 8
  else
    let stop := 7 + ((s.drop 7).takeWhile isDigit).length
    if stop < 9 then some stop else if stop % 2 = 0 then some 7 else some 8

/-- `parse_isoformat_date` of the bytes before the separator. -/
def parseDate (p : List ℕ) (separator : ℕ) : Option ℕ := do
  let (year, p) ← parseDigits 4 p
  let separated : Bool := p.headD 0 = '-'.toNat
  let p := if separated then p.drop 1 else p
  if p.headD 0 = 'W'.toNat then
    let (week, p) ← parseDigits 2 (p.drop 1)
    if (if separated then 8 else 7) < separator then
      let (day, _) ← parseDashed separated 1 p
      isoDays year week day
    else isoDays year week 1
  else
    let (month, p) ← parseDigits 2 p
    let (day, _) ← parseDashed separated 2 p
    calendarDays year month day

end Dates

section Times

/-- The hour, the minute and the second, as far as they are written in `size` bytes. They end the time, and `true` stands
for a byte behind them; or a fraction follows in so many bytes. -/
def parseComponents : (count : ℕ) → (separated : Option Bool) → (p : List ℕ) → (size : ℕ) →
    Option (List ℕ × (Bool ⊕ List ℕ × ℕ))
  | 0, _, p, size => some ([], .inr (p, size))
  | count + 1, separated, p, size => do
    let (value, p) ← parseDigits 2 p
    let c := p.headD 0
    let separated := separated.getD (c = ':'.toNat)
    if size ≤ 3 then pure ([value], .inl (c ≠ 0))
    else if separated ∧ c = ':'.toNat then do
      let (values, rest) ← parseComponents count separated (p.drop 1) (size - 3)
      pure (value :: values, rest)
    else if c = '.'.toNat ∨ c = ','.toNat then pure ([value], .inr (p.drop 1, size - 3))
    else if separated then none
    else do
      let (values, rest) ← parseComponents count separated p (size - 2)
      pure (value :: values, rest)

/-- The microseconds of a fraction, and whether a byte stands behind its digits. -/
def parseFraction (p : List ℕ) (size : ℕ) : Option (ℕ × Bool) := do
  let count := min size 6
  let (value, p) ← parseDigits count p
  pure (value * 10 ^ (6 - count), (p.dropWhile isDigit).headD 0 ≠ 0)

structure TimeReading where
  hour : ℕ
  minute : ℕ
  second : ℕ
  microsecond : ℕ
  trailing : Bool

/-- `parse_hh_mm_ss_ff`. -/
def parseTimeFields (p : List ℕ) (size : ℕ) : Option TimeReading := do
  let (values, rest) ← parseComponents 3 none p size
  let (microsecond, trailing) ← match rest with
    | .inl trailing => some (0, trailing)
    | .inr (p, size) => parseFraction p size
  pure ⟨values.getD 0 0, values.getD 1 0, values.getD 2 0, microsecond, trailing⟩

def microsPerHour : ℤ := 3600000000

/-- A zone without seconds is UTC, whatever its microseconds; `timezone` refuses a day or more. -/
def zoneOffset (negative : Bool) (time : TimeReading) : Option ℤ :=
  let seconds := time.hour * 3600 + time.minute * 60 + time.second
  let micros : ℤ := if seconds = 0 then 0 else seconds * 1000000 + time.microsecond
  if micros < 24 * microsPerHour then some (if negative then -micros else micros) else none

def isZoneMark (c : ℕ) : Bool := c == '+'.toNat || c == '-'.toNat || c == 'Z'.toNat

/-- `parse_isoformat_time`: the time of the day and the zone. -/
def parseTime (p : List ℕ) : Option (TimeReading × Option ℤ) := do
  let mark := p.findIdx isZoneMark
  let time ← parseTimeFields p mark
  match p.drop mark with
  | [] => if time.trailing then none else pure (time, none)
  | c :: zone =>
    if c = 'Z'.toNat then if zone.headD 0 = 0 then pure (time, some 0) else none
    else do
      let offset ← parseTimeFields zone zone.length
      if offset.trailing then none
      else do
        let utcoffset ← zoneOffset (c = '-'.toNat) offset
        pure (time, some utcoffset)

/-- The time of the day in microseconds. -/
def TimeReading.micros (time : TimeReading) : Option ℤ :=
  if time.hour < 24 ∧ time.minute < 60 ∧ time.second < 60 then
    some (((time.hour * 60 + time.minute) * 60 + time.second) * 1000000 + time.microsecond)
  else none

end Times

/-- The bytes of the character that starts here. -/
def characterSize (first : ℕ) : ℕ :=
  if first < 0x80 then 1 else if first / 0x10 = 0xE then 3 else if first / 0x10 = 0xF then 4 else 2

def microsPerDate : ℤ := 86400000000

/-- `datetime.fromisoformat`; `none` is a ValueError. -/
def fromisoformat (s : CodePoints) : Option PyDatetime := do
  let clean ← sanitize s
  let bytes ← asUtf8 clean
  let separator ← findSeparator bytes
  let days ← parseDate bytes separator
  if bytes.length ≤ separator then pure ⟨days * microsPerDate, none⟩
  else do
    let rest := bytes.drop separator
    let (time, utcoffset) ← parseTime (rest.drop (characterSize (rest.headD 0)))
    let micros ← time.micros
    pure ⟨days * microsPerDate + micros, utcoffset⟩

/-- The UTC time of a `datetime` of a zone, by `astimezone`; `none` is an OverflowError. -/
def PyDatetime.astimezone (d : PyDatetime) (utcoffset : ℤ) : Option Timestamp :=
  if 0 ≤ d.clock - utcoffset ∧ d.clock - utcoffset < 315537897600000000 then some (d.clock - utcoffset) else none

end IsoDatetime
