import KairosPersistence.FrameDepth
import Mathlib.Data.List.TakeDrop

/-!
`json.loads` of the bytes of a file: the detection of the encoding, its decoder
with `surrogatepass`, and the C scanner, which enters a frame for each container.
-/

namespace JsonBytes

open FrameDepth

/-- The code points of a Python text; surrogates may stand alone. -/
abbrev CodePoints := List ℕ

def points (s : String) : CodePoints := s.toList.map Char.toNat

/-- What is read of a document. The value of a float is read by nobody. -/
inductive Loaded where
  | null
  | bool (b : Bool)
  | int (n : ℤ)
  | float
  | str (s : CodePoints)
  | list (items : List Loaded)
  | dict (fields : List (CodePoints × Loaded))

inductive JsonFault where
  | valueError
  | outOfFuel
  deriving DecidableEq

section Decoding

inductive Encoding where
  | utf8
  | utf8Sig
  | utf16
  | utf16Be
  | utf16Le
  | utf32
  | utf32Be
  | utf32Le
  deriving DecidableEq

/-- `json.detect_encoding`. -/
def detectEncoding (b : List ℕ) : Encoding :=
  if [0x00, 0x00, 0xFE, 0xFF] <+: b ∨ [0xFF, 0xFE, 0x00, 0x00] <+: b then .utf32
  else if [0xFE, 0xFF] <+: b ∨ [0xFF, 0xFE] <+: b then .utf16
  else if [0xEF, 0xBB, 0xBF] <+: b then .utf8Sig
  else
    match b with
    | b₀ :: b₁ :: b₂ :: b₃ :: _ =>
      if b₀ = 0 then if b₁ = 0 then .utf32Be else .utf16Be
      else if b₁ = 0 then if b₂ = 0 ∧ b₃ = 0 then .utf32Le else .utf16Le
      else .utf8
    | [b₀, b₁] => if b₀ = 0 then .utf16Be else if b₁ = 0 then .utf16Le else .utf8
    | _ => .utf8

/-- UTF-8 where `owed` bytes are left of a character of at least `least`, whose first bytes are `high`. -/
def decodeUtf8 : (owed least high : ℕ) → List ℕ → Option CodePoints
  | 0, _, _, [] => some []
  | _ + 1, _, _, [] => none
  | 0, _, _, b :: bs =>
    if b < 0x80 then (decodeUtf8 0 0 0 bs).map (b :: ·)
    else if 0xC0 ≤ b ∧ b < 0xE0 then decodeUtf8 1 0x80 (b - 0xC0) bs
    else if 0xE0 ≤ b ∧ b < 0xF0 then decodeUtf8 2 0x800 (b - 0xE0) bs
    else if 0xF0 ≤ b ∧ b < 0xF8 then decodeUtf8 3 0x10000 (b - 0xF0) bs
    else none
  | owed + 1, least, high, b :: bs =>
    if 0x80 ≤ b ∧ b < 0xC0 then
      let point := high * 0x40 + (b - 0x80)
      if owed ≠ 0 then decodeUtf8 owed least point bs
      else if least ≤ point ∧ point < 0x110000 then (decodeUtf8 0 0 0 bs).map (point :: ·)
      else none
    else none

def isHighSurrogate (unit : ℕ) : Bool := 0xD800 ≤ unit && unit < 0xDC00

def isLowSurrogate (unit : ℕ) : Bool := 0xDC00 ≤ unit && unit < 0xE000

def joinSurrogates (high low : ℕ) : ℕ := 0x10000 + (high - 0xD800) * 0x400 + (low - 0xDC00)

def units16 (bigEndian : Bool) : List ℕ → Option (List ℕ)
  | [] => some []
  | [_] => none
  | a :: b :: bs => (units16 bigEndian bs).map ((if bigEndian then a * 0x100 + b else b * 0x100 + a) :: ·)

/-- A surrogate without its other half is passed. -/
def joinUnits : List ℕ → CodePoints
  | [] => []
  | [unit] => [unit]
  | unit :: next :: units =>
    if isHighSurrogate unit && isLowSurrogate next then joinSurrogates unit next :: joinUnits units
    else unit :: joinUnits (next :: units)

def decodeUtf16 (bigEndian : Bool) (bs : List ℕ) : Option CodePoints := (units16 bigEndian bs).map joinUnits

def decodeUtf32 (bigEndian : Bool) : List ℕ → Option CodePoints
  | [] => some []
  | a :: b :: c :: d :: bs =>
    let point := if bigEndian then ((a * 0x100 + b) * 0x100 + c) * 0x100 + d else ((d * 0x100 + c) * 0x100 + b) * 0x100 + a
    if point < 0x110000 then (decodeUtf32 bigEndian bs).map (point :: ·) else none
  | _ => none

/-- `b.decode(json.detect_encoding(b), "surrogatepass")`; the two encodings with a mark drop it. -/
def decode (b : List ℕ) : Option CodePoints :=
  match detectEncoding b with
  | .utf8 => decodeUtf8 0 0 0 b
  | .utf8Sig => decodeUtf8 0 0 0 (b.drop 3)
  | .utf16 => decodeUtf16 (b.head? = some 0xFE) (b.drop 2)
  | .utf16Be => decodeUtf16 true b
  | .utf16Le => decodeUtf16 false b
  | .utf32 => decodeUtf32 (b.head? = some 0x00) (b.drop 4)
  | .utf32Be => decodeUtf32 true b
  | .utf32Le => decodeUtf32 false b

end Decoding

section Tokens

def isSpace (c : ℕ) : Bool := c == 32 || c == 9 || c == 10 || c == 13

def skipSpace (text : CodePoints) : CodePoints := text.dropWhile isSpace

def isDigit (c : ℕ) : Bool := 48 ≤ c && c ≤ 57

def hexDigit (c : ℕ) : Option ℕ :=
  if isDigit c then some (c - 48)
  else if 97 ≤ c ∧ c ≤ 102 then some (c - 87)
  else if 65 ≤ c ∧ c ≤ 70 then some (c - 55)
  else none

def hexUnit (a b c d : ℕ) : Option ℕ := do
  let a ← hexDigit a
  let b ← hexDigit b
  let c ← hexDigit c
  let d ← hexDigit d
  pure (((a * 16 + b) * 16 + c) * 16 + d)

def simpleEscape (c : ℕ) : Option ℕ :=
  if c = '"'.toNat then some '"'.toNat
  else if c = '\\'.toNat then some '\\'.toNat
  else if c = '/'.toNat then some '/'.toNat
  else if c = 'b'.toNat then some 8
  else if c = 'f'.toNat then some 12
  else if c = 'n'.toNat then some 10
  else if c = 'r'.toNat then some 13
  else if c = 't'.toNat then some 9
  else none

/-- An item of a string: a character, or the unit that an escape gives by its digits. -/
inductive StringItem where
  | character (c : ℕ)
  | unit (u : ℕ)

/-- Two escapes in a row may give the two surrogates of one character. -/
def joinItems : List StringItem → CodePoints
  | [] => []
  | .character c :: items => c :: joinItems items
  | .unit high :: .unit low :: items =>
    if isHighSurrogate high && isLowSurrogate low then joinSurrogates high low :: joinItems items
    else high :: joinItems (.unit low :: items)
  | .unit u :: items => u :: joinItems items

/-- The items up to the closing quote, and what stands behind it. -/
def scanStringItems : CodePoints → Option (List StringItem × CodePoints)
  | [] => none
  | c :: text =>
    if c = '"'.toNat then some ([], text)
    else if c ≤ 0x1F then none
    else if c ≠ '\\'.toNat then do
      let (items, text) ← scanStringItems text
      pure (.character c :: items, text)
    else
      match text with
      | [] => none
      | e :: text =>
        if e ≠ 'u'.toNat then do
          let c ← simpleEscape e
          let (items, text) ← scanStringItems text
          pure (.character c :: items, text)
        else
          match text with
          | a :: b :: c :: d :: text => do
            let u ← hexUnit a b c d
            let (items, text) ← scanStringItems text
            pure (.unit u :: items, text)
          | _ => none

/-- `scanstring_unicode` behind the opening quote, strict. -/
def scanString (text : CodePoints) : Option (CodePoints × CodePoints) :=
  (scanStringItems text).map fun read => (joinItems read.1, read.2)

def afterWord (word : String) (text : CodePoints) : Option CodePoints :=
  if points word <+: text then some (text.drop word.length) else none

def constants : List (String × Loaded) :=
  [("null", .null), ("true", .bool true), ("false", .bool false), ("NaN", .float), ("Infinity", .float), ("-Infinity", .float)]

def scanConstant (text : CodePoints) : Option (Loaded × CodePoints) :=
  constants.findSome? fun constant => (afterWord constant.1 text).map (constant.2, ·)

/-- The digits of an integer that `int` reads. -/
def intMaxStrDigits : ℕ := 4300

def digitsValue (digits : CodePoints) : ℕ := digits.foldl (fun n c => n * 10 + (c - 48)) 0

/-- The digits before the point. -/
def scanInteger : CodePoints → Option (CodePoints × CodePoints)
  | [] => none
  | c :: text =>
    if c = 48 then some ([c], text)
    else if isDigit c then some ((c :: text).span isDigit)
    else none

/-- The digits behind the point, if there are any. -/
def skipFraction : CodePoints → Option CodePoints
  | c :: d :: text => if c = '.'.toNat ∧ isDigit d then some (text.dropWhile isDigit) else none
  | _ => none

/-- An exponent, if it has digits. -/
def skipExponent : CodePoints → Option CodePoints
  | c :: text =>
    if c = 'e'.toNat ∨ c = 'E'.toNat then
      let text := match text with
        | s :: rest => if s = '-'.toNat ∨ s = '+'.toNat then rest else text
        | [] => []
      match text with
      | d :: rest => if isDigit d then some (rest.dropWhile isDigit) else none
      | [] => none
    else none
  | [] => none

/-- `_match_number_unicode`. -/
def matchNumber (text : CodePoints) : Option (Loaded × CodePoints) := do
  let negative := text.head? = some '-'.toNat
  let (digits, text) ← scanInteger (if negative then text.drop 1 else text)
  let fraction := skipFraction text
  let exponent := skipExponent (fraction.getD text)
  if fraction.isNone ∧ exponent.isNone then
    if digits.length ≤ intMaxStrDigits then
      let n : ℤ := digitsValue digits
      pure (.int (if negative then -n else n), text)
    else none
  else pure (.float, exponent.getD (fraction.getD text))

end Tokens

section Scanning

variable {m : Type → Type} [Framed JsonFault m] {β : Type}

/-- Items between commas, up to the closing bracket. -/
def scanMore (item : CodePoints → m (β × CodePoints)) (close : ℕ) : (fuel : ℕ) → CodePoints → m (List β × CodePoints)
  | 0, _ => raise .outOfFuel
  | fuel + 1, text => do
    let (value, text) ← item text
    match skipSpace text with
    | [] => raise .valueError
    | c :: text =>
      if c = close then pure ([value], text)
      else if c = ','.toNat then do
        let (values, text) ← scanMore item close fuel (skipSpace text)
        pure (value :: values, text)
      else raise .valueError

/-- The rest of a container behind its opening bracket. -/
def scanItems (item : CodePoints → m (β × CodePoints)) (close fuel : ℕ) (text : CodePoints) : m (List β × CodePoints) :=
  let text := skipSpace text
  if text.head? = some close then pure ([], text.drop 1) else scanMore item close fuel text

/-- A key and its value. -/
def scanMember (scan : CodePoints → m (Loaded × CodePoints)) : CodePoints → m ((CodePoints × Loaded) × CodePoints)
  | [] => raise .valueError
  | c :: text =>
    if c = '"'.toNat then do
      let (key, text) ← orRaise .valueError (scanString text)
      match skipSpace text with
      | [] => raise .valueError
      | c :: text =>
        if c = ':'.toNat then do
          let (value, text) ← scan (skipSpace text)
          pure ((key, value), text)
        else raise .valueError
    else raise .valueError

/-- `scan_once_unicode`. A container enters a frame, and `object_pairs_hook` so many more while it is called. -/
def scanOnce (hookFrames : ℕ) (hook : List (CodePoints × Loaded) → Option Loaded) :
    (fuel : ℕ) → CodePoints → m (Loaded × CodePoints)
  | 0, _ => raise .outOfFuel
  | _ + 1, [] => raise .valueError
  | fuel + 1, c :: text =>
    if c = '"'.toNat then do
      let (s, text) ← orRaise .valueError (scanString text)
      pure (.str s, text)
    else if c = '{'.toNat then
      enter 1 do
        let (pairs, text) ← scanItems (scanMember (scanOnce hookFrames hook fuel)) '}'.toNat (text.length + 1) text
        let value ← enter hookFrames (orRaise .valueError (hook pairs))
        pure (value, text)
    else if c = '['.toNat then
      enter 1 do
        let (items, text) ← scanItems (scanOnce hookFrames hook fuel) ']'.toNat (text.length + 1) text
        pure (.list items, text)
    else orRaise .valueError (scanConstant (c :: text) <|> matchNumber (c :: text))

/-- `json.loads(raw, object_pairs_hook=hook)`. -/
def loads (hookFrames : ℕ) (hook : List (CodePoints × Loaded) → Option Loaded) (raw : List ℕ) : m Loaded := do
  let text ← orRaise .valueError (decode raw)
  let (value, rest) ← scanOnce hookFrames hook (text.length + 1) (skipSpace text)
  if skipSpace rest = [] then pure value else raise .valueError

end Scanning

section Agreement

variable {β : Type} {hookFrames : ℕ} {hook : List (CodePoints × Loaded) → Option Loaded}

end Agreement

section Fuel

variable {β : Type} {hookFrames : ℕ} {hook : List (CodePoints × Loaded) → Option Loaded}

/-- The scan raises nothing for want of fuel, and leaves less than `size`. -/
def Leaves (size : ℕ) (x : Measured JsonFault (β × CodePoints)) : Prop :=
  x.Ends (fun read => read.2.length < size) (· ≠ .outOfFuel)

end Fuel

end JsonBytes
