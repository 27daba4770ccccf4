import KairosPersistence.DecimalDigits
import KairosPersistence.Json

/-!
The text of a JSON tree and its parser. A tree is printed with a given gap
after every comma and colon; the parser reads back every such text.
-/

/-- The spelling of a JSON number: a sign, the integer part, the digits after the point
(none when there is no point) and an exponent, whose sign is always printed. -/
structure NumberText where
  negative : Bool
  whole : List ℕ
  fraction : List ℕ
  exponent : Option (Bool × List ℕ)
  deriving DecidableEq, Repr

namespace NumberText

open DecimalDigits

/-- The grammar of JSON numbers. -/
structure Valid (n : NumberText) : Prop where
  whole_digits : AllDigits n.whole
  whole_ne_nil : n.whole ≠ []
  no_leading_zero : n.whole.head? = some 0 → n.whole = [0]
  fraction_digits : AllDigits n.fraction
  exponent_digits : ∀ e ∈ n.exponent, AllDigits e.2 ∧ e.2 ≠ []

end NumberText

namespace JsonText

open DecimalDigits

def digitChar (d : ℕ) : Char := Char.ofNat ('0'.toNat + d)

/-- The digit a character spells. -/
def digit? (c : Char) : Option ℕ := if '0' ≤ c ∧ c ≤ '9' then some (c.toNat - '0'.toNat) else none

theorem digit?_digitChar {d : ℕ} (h : d < 10) : digit? (digitChar d) = some d := by
  interval_cases d <;> rfl

def spanDigits : List Char → List ℕ × List Char
  | [] => ([], [])
  | c :: cs => match digit? c with
    | some d => (d :: (spanDigits cs).1, (spanDigits cs).2)
    | none => ([], c :: cs)

theorem spanDigits_stop {cs : List Char} (h : ∀ c ∈ cs.head?, digit? c = none) : spanDigits cs = ([], cs) := by
  cases cs with
  | nil => rfl
  | cons c cs => simp [spanDigits, h c (by simp)]

theorem spanDigits_append {ds : List ℕ} (hds : AllDigits ds) {cs : List Char}
    (h : ∀ c ∈ cs.head?, digit? c = none) : spanDigits (ds.map digitChar ++ cs) = (ds, cs) := by
  induction ds with
  | nil => exact spanDigits_stop h
  | cons d ds ih =>
    have ih := ih fun e he => hds e (List.mem_cons_of_mem _ he)
    simp [spanDigits, digit?_digitChar (hds d (by simp)), ih]

section Number

def signChar (negative : Bool) : Char := if negative then '-' else '+'

def printExponent : Option (Bool × List ℕ) → List Char
  | none => []
  | some (negative, ds) => 'e' :: signChar negative :: ds.map digitChar

def printFraction (ds : List ℕ) : List Char := if ds = [] then [] else '.' :: ds.map digitChar

def printNumber (n : NumberText) : List Char :=
  (if n.negative then ['-'] else []) ++ n.whole.map digitChar ++ printFraction n.fraction ++
    printExponent n.exponent

def parseSign : List Char → Bool × List Char
  | '-' :: cs => (true, cs)
  | '+' :: cs => (false, cs)
  | cs => (false, cs)

/-- The digits of an exponent that stands at the head of the text, if one does. -/
def parseExponent : List Char → Option (Bool × List ℕ) × List Char
  | [] => (none, [])
  | c :: cs =>
    let ds := spanDigits (parseSign cs).2
    if (c = 'e' ∨ c = 'E') ∧ ds.1 ≠ [] then (some ((parseSign cs).1, ds.1), ds.2) else (none, c :: cs)

def parseFraction : List Char → List ℕ × List Char
  | [] => ([], [])
  | c :: cs => if c = '.' ∧ (spanDigits cs).1 ≠ [] then spanDigits cs else ([], c :: cs)

def parseMinus : List Char → Bool × List Char
  | '-' :: cs => (true, cs)
  | cs => (false, cs)

def parseNumber (cs : List Char) : Option (NumberText × List Char) :=
  let whole := spanDigits (parseMinus cs).2
  let fraction := parseFraction whole.2
  let exponent := parseExponent fraction.2
  if whole.1 ≠ [] ∧ (whole.1.head? = some 0 → whole.1 = [0]) then
    some (⟨(parseMinus cs).1, whole.1, fraction.1, exponent.1⟩, exponent.2)
  else none

/-- No character that could continue a number. -/
def Boundary (cs : List Char) : Prop :=
  ∀ c ∈ cs.head?, digit? c = none ∧ c ≠ '.' ∧ c ≠ 'e' ∧ c ≠ 'E'

theorem parseSign_signChar (negative : Bool) (cs : List Char) :
    parseSign (signChar negative :: cs) = (negative, cs) := by
  cases negative <;> rfl

theorem parseExponent_print {e : Option (Bool × List ℕ)} (he : ∀ x ∈ e, AllDigits x.2 ∧ x.2 ≠ [])
    {cs : List Char} (h : Boundary cs) : parseExponent (printExponent e ++ cs) = (e, cs) := by
  cases e with
  | none =>
    cases cs with
    | nil => rfl
    | cons c cs =>
      obtain ⟨-, -, he, hE⟩ := h c (by simp)
      simp [printExponent, parseExponent, he, hE]
  | some x =>
    obtain ⟨hds, hne⟩ := he x rfl
    have hspan := spanDigits_append hds fun c hc => (h c hc).1
    simp [printExponent, parseExponent, parseSign_signChar, hspan, hne]

theorem parseFraction_print {ds : List ℕ} (hds : AllDigits ds) {cs : List Char}
    (h : ∀ c ∈ cs.head?, digit? c = none ∧ c ≠ '.') : parseFraction (printFraction ds ++ cs) = (ds, cs) := by
  by_cases hne : ds = []
  · subst hne
    cases cs with
    | nil => rfl
    | cons c cs => simp [printFraction, parseFraction, (h c (by simp)).2]
  · have hspan := spanDigits_append hds fun c hc => (h c hc).1
    simp [printFraction, parseFraction, hne, hspan]

theorem head?_printExponent (e : Option (Bool × List ℕ)) {cs : List Char} (h : Boundary cs) :
    ∀ c ∈ (printExponent e ++ cs).head?, digit? c = none ∧ c ≠ '.' := by
  cases e with
  | none => exact fun c hc => ⟨(h c hc).1, (h c hc).2.1⟩
  | some x =>
    intro c hc
    simp only [printExponent, List.cons_append, List.head?_cons, Option.mem_some_iff] at hc
    subst hc
    exact ⟨rfl, by decide⟩

theorem head?_printFraction (ds : List ℕ) {cs : List Char} (h : ∀ c ∈ cs.head?, digit? c = none) :
    ∀ c ∈ (printFraction ds ++ cs).head?, digit? c = none := by
  unfold printFraction
  split_ifs
  · exact h
  · intro c hc
    simp only [List.cons_append, List.head?_cons, Option.mem_some_iff] at hc
    subst hc
    rfl

theorem digitChar_ne_minus {d : ℕ} (h : d < 10) : digitChar d ≠ '-' := by
  interval_cases d <;> decide

theorem parseMinus_print (negative : Bool) {ds : List ℕ} (hds : AllDigits ds) (hne : ds ≠ []) (cs : List Char) :
    parseMinus ((if negative then ['-'] else []) ++ ds.map digitChar ++ cs) =
      (negative, ds.map digitChar ++ cs) := by
  cases negative with
  | true => rfl
  | false =>
    cases ds with
    | nil => exact absurd rfl hne
    | cons d ds =>
      have hd := digitChar_ne_minus (hds d (by simp))
      simp [parseMinus, hd]

theorem parseNumber_print {n : NumberText} (hn : n.Valid) {cs : List Char} (h : Boundary cs) :
    parseNumber (printNumber n ++ cs) = some (n, cs) := by
  have hexp := parseExponent_print hn.exponent_digits h
  have hfrac := parseFraction_print hn.fraction_digits (head?_printExponent n.exponent h)
  have hwhole := spanDigits_append hn.whole_digits (head?_printFraction n.fraction fun c hc =>
    (head?_printExponent n.exponent h c hc).1)
  have hsign := parseMinus_print n.negative hn.whole_digits hn.whole_ne_nil
    (printFraction n.fraction ++ (printExponent n.exponent ++ cs))
  simp only [printNumber, parseNumber, List.append_assoc] at hsign ⊢
  simp only [hsign, hwhole, hfrac, hexp]
  exact if_pos ⟨hn.whole_ne_nil, hn.no_leading_zero⟩

end Number

section StringLiteral

def hexChar (d : ℕ) : Char := if d < 10 then digitChar d else Char.ofNat ('a'.toNat + (d - 10))

def hexDigit? (c : Char) : Option ℕ :=
  if '0' ≤ c ∧ c ≤ '9' then some (c.toNat - '0'.toNat)
  else if 'a' ≤ c ∧ c ≤ 'f' then some (c.toNat - 'a'.toNat + 10)
  else if 'A' ≤ c ∧ c ≤ 'F' then some (c.toNat - 'A'.toNat + 10)
  else none

/-- Only the quote, the backslash and the control characters are escaped. -/
def escape (c : Char) : List Char :=
  if c = '"' then ['\\', '"']
  else if c = '\\' then ['\\', '\\']
  else if c = '\n' then ['\\', 'n']
  else if c = '\r' then ['\\', 'r']
  else if c = '\t' then ['\\', 't']
  else if c.toNat = 8 then ['\\', 'b']
  else if c.toNat = 12 then ['\\', 'f']
  else if c.toNat < 32 then ['\\', 'u', '0', '0', hexChar (c.toNat / 16), hexChar (c.toNat % 16)]
  else [c]

def printString (s : String) : List Char := '"' :: s.toList.flatMap escape ++ ['"']

def unescape? (c : Char) : Option Char :=
  if c = '"' ∨ c = '\\' ∨ c = '/' then some c
  else if c = 'n' then some '\n'
  else if c = 'r' then some '\r'
  else if c = 't' then some '\t'
  else if c = 'b' then some (Char.ofNat 8)
  else if c = 'f' then some (Char.ofNat 12)
  else none

/-- What the characters read so far leave open. -/
inductive Pending where
  | plain
  | escape
  | hex (count value : ℕ)

/-- The characters up to the closing quote. A code unit of a surrogate pair is not a character. -/
def parseChars : Pending → List Char → Option (List Char × List Char)
  | _, [] => none
  | .plain, c :: cs =>
    if c = '"' then some ([], cs)
    else if c = '\\' then parseChars .escape cs
    else if c.toNat < 32 then none
    else (parseChars .plain cs).map fun r => (c :: r.1, r.2)
  | .escape, c :: cs =>
    if c = 'u' then parseChars (.hex 3 0) cs
    else (unescape? c).bind fun e => (parseChars .plain cs).map fun r => (e :: r.1, r.2)
  | .hex 0 value, c :: cs => (hexDigit? c).bind fun d =>
    if (16 * value + d).isValidChar then
      (parseChars .plain cs).map fun r => (Char.ofNat (16 * value + d) :: r.1, r.2)
    else none
  | .hex (count + 1) value, c :: cs => (hexDigit? c).bind fun d => parseChars (.hex count (16 * value + d)) cs

theorem parseChars_control {k : ℕ} (hk : k < 32) (cs : List Char) :
    parseChars .plain (escape (Char.ofNat k) ++ cs) =
      (parseChars .plain cs).map fun r => (Char.ofNat k :: r.1, r.2) := by
  interval_cases k <;> rfl

theorem parseChars_escape (c : Char) (cs : List Char) :
    parseChars .plain (escape c ++ cs) = (parseChars .plain cs).map fun r => (c :: r.1, r.2) := by
  by_cases hc : c.toNat < 32
  · simpa [Char.ofNat_toNat] using parseChars_control hc cs
  · by_cases hq : c = '"'
    · subst hq; rfl
    · by_cases hb : c = '\\'
      · subst hb; rfl
      · have hn : c ≠ '\n' := fun h => hc (by subst h; decide)
        have hr : c ≠ '\r' := fun h => hc (by subst h; decide)
        have ht : c ≠ '\t' := fun h => hc (by subst h; decide)
        have h8 : c.toNat ≠ 8 := by omega
        have h12 : c.toNat ≠ 12 := by omega
        simp [escape, parseChars, hq, hb, hn, hr, ht, h8, h12, hc]

theorem parseChars_print (cs rest : List Char) :
    parseChars .plain (cs.flatMap escape ++ '"' :: rest) = some (cs, rest) := by
  induction cs with
  | nil => rfl
  | cons c cs ih => simp [List.flatMap_cons, List.append_assoc, parseChars_escape, ih]

end StringLiteral

section Value

mutual

def print (gap : List Char) : Json NumberText → List Char
  | .null => ['n', 'u', 'l', 'l']
  | .bool true => ['t', 'r', 'u', 'e']
  | .bool false => ['f', 'a', 'l', 's', 'e']
  | .num n => printNumber n
  | .str s => printString s
  | .arr [] => ['[', ']']
  | .arr (x :: xs) => '[' :: print gap x ++ printItems gap xs ++ [']']
  | .obj [] => ['{', '}']
  | .obj ((k, x) :: ps) =>
    '{' :: printString k ++ ':' :: gap ++ print gap x ++ printFields gap ps ++ ['}']

/-- The items after the first one. -/
def printItems (gap : List Char) : List (Json NumberText) → List Char
  | [] => []
  | x :: xs => ',' :: gap ++ print gap x ++ printItems gap xs

/-- The fields after the first one. -/
def printFields (gap : List Char) : List (String × Json NumberText) → List Char
  | [] => []
  | (k, x) :: ps => ',' :: gap ++ printString k ++ ':' :: gap ++ print gap x ++ printFields gap ps

end

def isSpace (c : Char) : Bool := c = ' ' ∨ c = '\t' ∨ c = '\n' ∨ c = '\r'

def skipSpace (cs : List Char) : List Char := cs.dropWhile isSpace

/-- A string literal whose opening quote is at the head of the text. -/
def parseString : List Char → Option (String × List Char)
  | '"' :: cs => (parseChars .plain cs).map fun r => (String.ofList r.1, r.2)
  | _ => none

def parseColon (cs : List Char) : Option (List Char) :=
  match skipSpace cs with
  | ':' :: cs => some cs
  | _ => none

mutual

def parseValue : ℕ → List Char → Option (Json NumberText × List Char)
  | 0, _ => none
  | n + 1, cs =>
    match skipSpace cs with
    | 'n' :: 'u' :: 'l' :: 'l' :: cs => some (.null, cs)
    | 't' :: 'r' :: 'u' :: 'e' :: cs => some (.bool true, cs)
    | 'f' :: 'a' :: 'l' :: 's' :: 'e' :: cs => some (.bool false, cs)
    | '"' :: cs => (parseString ('"' :: cs)).map fun r => (.str r.1, r.2)
    | '[' :: cs =>
      match skipSpace cs with
      | ']' :: cs => some (.arr [], cs)
      | cs => do
        let (x, cs) ← parseValue n cs
        let (xs, cs) ← parseItems n cs
        some (.arr (x :: xs), cs)
    | '{' :: cs =>
      match skipSpace cs with
      | '}' :: cs => some (.obj [], cs)
      | cs => do
        let (p, cs) ← parseField n cs
        let (ps, cs) ← parseFields n cs
        some (.obj (p :: ps), cs)
    | cs => (parseNumber cs).map fun r => (.num r.1, r.2)

/-- The items after the first one, up to the closing bracket. -/
def parseItems : ℕ → List Char → Option (List (Json NumberText) × List Char)
  | 0, _ => none
  | n + 1, cs =>
    match skipSpace cs with
    | ']' :: cs => some ([], cs)
    | ',' :: cs => do
      let (x, cs) ← parseValue n cs
      let (xs, cs) ← parseItems n cs
      some (x :: xs, cs)
    | _ => none

def parseField : ℕ → List Char → Option ((String × Json NumberText) × List Char)
  | 0, _ => none
  | n + 1, cs => do
    let (k, cs) ← parseString (skipSpace cs)
    let cs ← parseColon cs
    let (x, cs) ← parseValue n cs
    some ((k, x), cs)

/-- The fields after the first one, up to the closing brace. -/
def parseFields : ℕ → List Char → Option (List (String × Json NumberText) × List Char)
  | 0, _ => none
  | n + 1, cs =>
    match skipSpace cs with
    | '}' :: cs => some ([], cs)
    | ',' :: cs => do
      let (p, cs) ← parseField n cs
      let (ps, cs) ← parseFields n cs
      some (p :: ps, cs)
    | _ => none

end

/-- The tree a text spells: one value, with nothing but space after it. Every recursive call
consumes a character or is for a value that does, so the length of the text is enough fuel. -/
def parse (cs : List Char) : Option (Json NumberText) :=
  match parseValue (2 * cs.length + 1) cs with
  | some (t, rest) => if skipSpace rest = [] then some t else none
  | none => none

/-! ### Reading a printed tree -/

mutual

/-- Enough fuel to read the tree. -/
def size : Json NumberText → ℕ
  | .arr items => 1 + sizeItems items
  | .obj fields => 1 + sizeFields fields
  | _ => 1

def sizeItems : List (Json NumberText) → ℕ
  | [] => 1
  | x :: xs => 1 + size x + sizeItems xs

def sizeFields : List (String × Json NumberText) → ℕ
  | [] => 1
  | (_, x) :: ps => 2 + size x + sizeFields ps

end

theorem skipSpace_append {gap : List Char} (h : ∀ c ∈ gap, isSpace c) (cs : List Char) :
    skipSpace (gap ++ cs) = skipSpace cs := by
  induction gap with
  | nil => rfl
  | cons c gap ih =>
    have hc : isSpace c = true := h c (by simp)
    have ih := ih fun d hd => h d (List.mem_cons_of_mem _ hd)
    simp only [skipSpace, List.cons_append, List.dropWhile_cons, hc, if_true] at ih ⊢
    exact ih

theorem skipSpace_cons {c : Char} (h : isSpace c = false) (cs : List Char) : skipSpace (c :: cs) = c :: cs := by
  simp [skipSpace, h]

theorem parseValue_gap {gap : List Char} (h : ∀ c ∈ gap, isSpace c) (n : ℕ) (cs : List Char) :
    parseValue n (gap ++ cs) = parseValue n cs := by
  cases n with
  | zero => rfl
  | succ n => simp only [parseValue, skipSpace_append h]

theorem parseField_gap {gap : List Char} (h : ∀ c ∈ gap, isSpace c) (n : ℕ) (cs : List Char) :
    parseField n (gap ++ cs) = parseField n cs := by
  cases n with
  | zero => rfl
  | succ n => simp only [parseField, skipSpace_append h]

theorem printNumber_head {n : NumberText} (hn : n.Valid) :
    ∃ c cs, printNumber n = c :: cs ∧ (c = '-' ∨ ∃ d < 10, c = digitChar d) := by
  unfold printNumber
  cases n.negative with
  | true => exact ⟨'-', _, rfl, Or.inl rfl⟩
  | false =>
    cases hw : n.whole with
    | nil => exact absurd hw hn.whole_ne_nil
    | cons d ds => exact ⟨digitChar d, _, rfl, Or.inr ⟨d, hn.whole_digits d (by simp [hw]), rfl⟩⟩

theorem print_head (gap : List Char) {t : Json NumberText} (ht : ∀ n ∈ t.numbers, n.Valid) :
    ∃ c cs, print gap t = c :: cs ∧ isSpace c = false ∧ c ≠ ']' := by
  match t with
  | .null | .bool true | .bool false | .str _ | .arr [] | .arr (_ :: _) | .obj [] | .obj ((_, _) :: _) =>
    exact ⟨_, _, rfl, by decide, by decide⟩
  | .num n =>
    obtain ⟨c, cs, hcs, hc | ⟨d, hd, hc⟩⟩ := printNumber_head (ht n (by simp [Json.numbers]))
    · exact ⟨c, cs, hcs, by subst hc; decide, by subst hc; decide⟩
    · exact ⟨c, cs, hcs, by subst hc; interval_cases d <;> decide, by subst hc; interval_cases d <;> decide⟩

theorem parseString_print (s : String) (rest : List Char) :
    parseString (printString s ++ rest) = some (s, rest) := by
  simp [printString, parseString, parseChars_print, List.append_assoc]

theorem boundary_cons {c : Char} (h : c = ',' ∨ c = ']' ∨ c = '}') (cs : List Char) : Boundary (c :: cs) := by
  intro d hd
  simp only [List.head?_cons, Option.mem_some_iff] at hd
  subst hd
  rcases h with rfl | rfl | rfl <;> decide

variable {gap : List Char}

theorem parseValue_number (n : ℕ) {x : NumberText} (hx : x.Valid) {rest : List Char} (h : Boundary rest) :
    parseValue (n + 1) (printNumber x ++ rest) = some (.num x, rest) := by
  have hparse := parseNumber_print hx h
  obtain ⟨c, cs, hcs, hc | ⟨d, hd, hc⟩⟩ := printNumber_head hx
  · subst hc
    rw [hcs, List.cons_append] at hparse ⊢
    simp [parseValue, skipSpace_cons, isSpace, hparse]
  · subst hc
    rw [hcs, List.cons_append] at hparse ⊢
    interval_cases d <;> simp_all [parseValue, skipSpace, isSpace, digitChar]

theorem printItems_boundary (gap : List Char) (xs : List (Json NumberText)) (rest : List Char) :
    Boundary (printItems gap xs ++ ']' :: rest) := by
  cases xs <;> exact boundary_cons (by simp) _

theorem printFields_boundary (gap : List Char) (ps : List (String × Json NumberText)) (rest : List Char) :
    Boundary (printFields gap ps ++ '}' :: rest) := by
  cases ps <;> exact boundary_cons (by simp) _

/-- The parser reads the printed tree from the head of a text. -/
def Reads (gap : List Char) (t : Json NumberText) : Prop :=
  ∀ n, size t ≤ n → ∀ rest, Boundary rest → parseValue n (print gap t ++ rest) = some (t, rest)

theorem size_pos (t : Json NumberText) : 0 < size t := by
  cases t <;> simp only [size] <;> omega

theorem reads_of_succ {t : Json NumberText} (h : ∀ n, size t ≤ n + 1 → ∀ rest, Boundary rest →
    parseValue (n + 1) (print gap t ++ rest) = some (t, rest)) : Reads gap t := by
  intro n hn
  have hpos := size_pos t
  obtain ⟨n, rfl⟩ : ∃ m, n = m + 1 := ⟨n - 1, by omega⟩
  exact h n hn

section RoundTrip

variable (hgap : ∀ c ∈ gap, isSpace c)
include hgap

theorem parseItems_print {xs : List (Json NumberText)} (hxs : ∀ x ∈ xs, Reads gap x) {n : ℕ}
    (hn : sizeItems xs ≤ n) (rest : List Char) :
    parseItems n (printItems gap xs ++ ']' :: rest) = some (xs, rest) := by
  induction xs generalizing n with
  | nil =>
    simp only [sizeItems] at hn
    obtain ⟨n, rfl⟩ := Nat.exists_eq_add_of_le' hn
    simp [parseItems, printItems, skipSpace, isSpace]
  | cons x xs ih =>
    simp only [sizeItems] at hn
    obtain ⟨n, rfl⟩ : ∃ m, n = m + 1 := ⟨n - 1, by omega⟩
    have hx := hxs x (by simp) n (by omega) _ (printItems_boundary gap xs rest)
    have hrest := ih (fun y hy => hxs y (List.mem_cons_of_mem _ hy)) (n := n) (by omega)
    simp [parseItems, printItems, skipSpace_cons, isSpace, parseValue_gap hgap, hx, hrest]

theorem parseField_print {k : String} {x : Json NumberText} (hx : Reads gap x) {n : ℕ}
    (hn : 1 + size x ≤ n) {rest : List Char} (h : Boundary rest) :
    parseField n (printString k ++ ':' :: gap ++ print gap x ++ rest) = some ((k, x), rest) := by
  obtain ⟨n, rfl⟩ : ∃ m, n = m + 1 := ⟨n - 1, by omega⟩
  have hx := hx n (by omega) rest h
  have hspace : skipSpace (printString k ++ (':' :: (gap ++ (print gap x ++ rest)))) =
      printString k ++ (':' :: (gap ++ (print gap x ++ rest))) := skipSpace_cons rfl _
  simp [parseField, hspace, parseString_print, parseColon, skipSpace_cons, isSpace, parseValue_gap hgap, hx]

theorem parseFields_print {ps : List (String × Json NumberText)} (hps : ∀ p ∈ ps, Reads gap p.2) {n : ℕ}
    (hn : sizeFields ps ≤ n) (rest : List Char) :
    parseFields n (printFields gap ps ++ '}' :: rest) = some (ps, rest) := by
  induction ps generalizing n with
  | nil =>
    simp only [sizeFields] at hn
    obtain ⟨n, rfl⟩ := Nat.exists_eq_add_of_le' hn
    simp [parseFields, printFields, skipSpace, isSpace]
  | cons p ps ih =>
    simp only [sizeFields] at hn
    obtain ⟨n, rfl⟩ : ∃ m, n = m + 1 := ⟨n - 1, by omega⟩
    have hp := parseField_print hgap (k := p.1) (hps p (by simp)) (n := n) (by omega)
      (printFields_boundary gap ps rest)
    have hrest := ih (fun q hq => hps q (List.mem_cons_of_mem _ hq)) (n := n) (by omega)
    simp only [List.append_assoc, List.cons_append] at hp
    simp [parseFields, printFields, skipSpace_cons, isSpace, parseField_gap hgap, hp, hrest]

theorem reads_arr {items : List (Json NumberText)} (ht : ∀ x ∈ (Json.arr items).numbers, x.Valid)
    (ih : ∀ x ∈ items, Reads gap x) : Reads gap (.arr items) := by
  refine reads_of_succ fun n hn rest _ => ?_
  cases items with
  | nil => simp [print, parseValue, skipSpace_cons, isSpace]
  | cons x xs =>
    simp only [size, sizeItems] at hn
    have hx := ih x (by simp) n (by omega) _ (printItems_boundary gap xs rest)
    have hxs := parseItems_print hgap (fun y hy => ih y (List.mem_cons_of_mem _ hy)) (n := n) (by omega) rest
    obtain ⟨c, cs, hcs, hspace, hne⟩ := print_head gap (t := x) fun y hy => ht y (by
      simp only [Json.numbers, Json.numbersItems, List.mem_append]
      exact Or.inl hy)
    rw [hcs, List.cons_append] at hx
    simp [print, hcs, parseValue, skipSpace_cons (rfl : isSpace '[' = false), skipSpace_cons hspace, hne, hx, hxs]

theorem reads_obj {fields : List (String × Json NumberText)} (ih : ∀ p ∈ fields, Reads gap p.2) :
    Reads gap (.obj fields) := by
  refine reads_of_succ fun n hn rest _ => ?_
  cases fields with
  | nil => simp [print, parseValue, skipSpace_cons, isSpace]
  | cons p ps =>
    simp only [size, sizeFields] at hn
    have hp := parseField_print hgap (k := p.1) (ih p (by simp)) (n := n) (by omega)
      (printFields_boundary gap ps rest)
    have hps := parseFields_print hgap (fun q hq => ih q (List.mem_cons_of_mem _ hq)) (n := n) (by omega) rest
    simp only [printString, List.cons_append, List.append_assoc, List.nil_append] at hp
    simp [print, printString, parseValue, skipSpace_cons, isSpace, hp, hps]

theorem reads_print {t : Json NumberText} (ht : ∀ x ∈ t.numbers, x.Valid) : Reads gap t := by
  induction t with
  | null => exact reads_of_succ fun n _ rest _ => by simp [print, parseValue, skipSpace_cons, isSpace]
  | bool b =>
    refine reads_of_succ fun n _ rest _ => ?_
    cases b <;> simp [print, parseValue, skipSpace_cons, isSpace]
  | num x =>
    exact reads_of_succ fun n _ rest hrest => parseValue_number n (ht x (by simp [Json.numbers])) hrest
  | str s =>
    refine reads_of_succ fun n _ rest _ => ?_
    have hs := parseString_print s rest
    simp only [printString, List.cons_append, List.append_assoc, List.nil_append] at hs
    simp [print, printString, parseValue, skipSpace_cons, isSpace, hs]
  | arr items ih =>
    refine reads_arr hgap ht fun x hx => ih x hx fun y hy => ht y ?_
    rw [Json.numbers, Json.mem_numbersItems]
    exact ⟨x, hx, hy⟩
  | obj fields ih =>
    refine reads_obj hgap fun p hp => ih p hp fun y hy => ht y ?_
    rw [Json.numbers, Json.mem_numbersFields]
    exact ⟨p, hp, hy⟩

end RoundTrip

/-! ### Printing is injective -/

theorem sizeItems_le_print {xs : List (Json NumberText)} (h : ∀ x ∈ xs, size x ≤ 2 * (print gap x).length) :
    sizeItems xs ≤ 2 * (printItems gap xs).length + 1 := by
  induction xs with
  | nil => simp [sizeItems]
  | cons x xs ih =>
    have hx := h x (by simp)
    have ih := ih fun y hy => h y (List.mem_cons_of_mem _ hy)
    simp only [sizeItems, printItems, List.length_append, List.length_cons]
    omega

theorem sizeFields_le_print {ps : List (String × Json NumberText)}
    (h : ∀ p ∈ ps, size p.2 ≤ 2 * (print gap p.2).length) :
    sizeFields ps ≤ 2 * (printFields gap ps).length + 1 := by
  induction ps with
  | nil => simp [sizeFields]
  | cons p ps ih =>
    have hp := h p (by simp)
    have ih := ih fun q hq => h q (List.mem_cons_of_mem _ hq)
    simp only [sizeFields, printFields, List.length_append, List.length_cons]
    omega

theorem size_le_print {t : Json NumberText} (ht : ∀ x ∈ t.numbers, x.Valid) :
    size t ≤ 2 * (print gap t).length := by
  induction t with
  | null => simp [size, print]
  | bool b => cases b <;> simp [size, print]
  | num x =>
    obtain ⟨c, cs, hcs, -⟩ := printNumber_head (ht x (by simp [Json.numbers]))
    simp only [size, print, hcs, List.length_cons]
    omega
  | str s =>
    simp only [size, print, printString, List.length_cons, List.length_append]
    omega
  | arr items ih =>
    have ih : ∀ x ∈ items, size x ≤ 2 * (print gap x).length := fun x hx => ih x hx fun y hy => ht y (by
      rw [Json.numbers, Json.mem_numbersItems]
      exact ⟨x, hx, hy⟩)
    cases items with
    | nil => simp [size, sizeItems, print]
    | cons x xs =>
      have hx := ih x (by simp)
      have hxs := sizeItems_le_print fun y hy => ih y (List.mem_cons_of_mem _ hy)
      simp only [size, sizeItems, print, List.length_append, List.length_cons]
      omega
  | obj fields ih =>
    have ih : ∀ p ∈ fields, size p.2 ≤ 2 * (print gap p.2).length := fun p hp => ih p hp fun y hy => ht y (by
      rw [Json.numbers, Json.mem_numbersFields]
      exact ⟨p, hp, hy⟩)
    cases fields with
    | nil => simp [size, sizeFields, print]
    | cons p ps =>
      have hp := ih p (by simp)
      have hps := sizeFields_le_print fun q hq => ih q (List.mem_cons_of_mem _ hq)
      simp only [size, sizeFields, print, List.length_append, List.length_cons]
      omega

theorem parse_print (hgap : ∀ c ∈ gap, isSpace c) {t : Json NumberText}
    (ht : ∀ x ∈ t.numbers, x.Valid) : parse (print gap t) = some t := by
  have hread := reads_print hgap ht (2 * (print gap t).length + 1)
    ((size_le_print ht).trans (Nat.le_succ _)) [] (by simp [Boundary])
  rw [List.append_nil] at hread
  simp [parse, hread, skipSpace]

theorem print_injective {t u : Json NumberText} (ht : ∀ x ∈ t.numbers, x.Valid) (hu : ∀ x ∈ u.numbers, x.Valid)
    (h : print [] t = print [] u) : t = u := by
  have hparse : parse (print [] t) = some t := parse_print (by simp) ht
  rw [h, parse_print (by simp) hu] at hparse
  exact (Option.some.inj hparse).symm

end Value

end JsonText
