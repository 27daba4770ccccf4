import KairosPersistence.PythonJson

/-!
The text that `json.dumps` writes by default: keys in their own order, a space
after every comma and colon, and every character above `~` as `\uXXXX`.
-/

namespace JsonText

open DecimalDigits

section Escapes

/-- A code unit as `\uXXXX`. -/
def unitEscape (n : ℕ) : List Char :=
  ['\\', 'u', hexChar (n / 4096), hexChar (n / 256 % 16), hexChar (n / 16 % 16), hexChar (n % 16)]

/-- `ensure_ascii`: a character outside the basic plane is a surrogate pair. -/
def asciiEscape (c : Char) : List Char :=
  if c.toNat < 127 then [c]
  else if c.toNat < 0x10000 then unitEscape c.toNat
  else unitEscape (0xd800 + (c.toNat - 0x10000) / 1024) ++ unitEscape (0xdc00 + (c.toNat - 0x10000) % 1024)

/-- The code unit that stands at the head of the text, if one does. -/
def takeUnit : List Char → Option (ℕ × List Char)
  | s :: u :: a :: b :: c :: d :: cs =>
    if s = '\\' ∧ u = 'u' then
      (hexDigit? a).bind fun a => (hexDigit? b).bind fun b => (hexDigit? c).bind fun c => (hexDigit? d).bind fun d =>
        some (((a * 16 + b) * 16 + c) * 16 + d, cs)
    else none
  | _ => none

/-- What the head of the text spells, and the rest of it: the character of a code unit above `~` or
of a surrogate pair, else an escape or a character as it is. -/
def decodeHead (cs : List Char) : Option (List Char × List Char) :=
  match takeUnit cs with
  | some (unit, rest) =>
    if 0xd800 ≤ unit ∧ unit < 0xdc00 then
      (takeUnit rest).map fun low => ([Char.ofNat (0x10000 + (unit - 0xd800) * 1024 + (low.1 - 0xdc00))], low.2)
    else if unit < 127 then some (cs.take 6, rest)
    else some ([Char.ofNat unit], rest)
  | none =>
    match cs with
    | [] => none
    | [c] => some ([c], [])
    | c :: d :: cs => if c = '\\' then some ([c, d], cs) else some ([c], d :: cs)

/-- The text with the characters above `~` in place of their escapes. -/
def decodeUnits : ℕ → List Char → List Char
  | 0, cs => cs
  | n + 1, cs =>
    match decodeHead cs with
    | some (head, rest) => head ++ decodeUnits n rest
    | none => cs

theorem hexDigit?_hexChar {d : ℕ} (h : d < 16) : hexDigit? (hexChar d) = some d := by
  interval_cases d <;> rfl

theorem takeUnit_unitEscape {n : ℕ} (h : n < 0x10000) (cs : List Char) :
    takeUnit (unitEscape n ++ cs) = some (n, cs) := by
  have h₁ : n / 4096 < 16 := by omega
  have h₂ : n / 256 % 16 < 16 := by omega
  have h₃ : n / 16 % 16 < 16 := by omega
  have h₄ : n % 16 < 16 := by omega
  simp only [unitEscape, List.cons_append, List.nil_append, takeUnit, and_self, if_true, hexDigit?_hexChar h₁,
    hexDigit?_hexChar h₂, hexDigit?_hexChar h₃, hexDigit?_hexChar h₄, Option.bind_some, Option.some.injEq,
    Prod.mk.injEq, and_true]
  omega

theorem takeUnit_cons {c : Char} (h : c ≠ '\\') (cs : List Char) : takeUnit (c :: cs) = none := by
  unfold takeUnit
  split
  · rename_i heq
    obtain ⟨rfl, -⟩ := List.cons.inj heq
    exact if_neg fun hc => h hc.1
  · rfl

theorem takeUnit_escape {c : Char} (h : c ≠ 'u') (cs : List Char) : takeUnit ('\\' :: c :: cs) = none := by
  unfold takeUnit
  split
  · rename_i heq
    obtain ⟨-, heq⟩ := List.cons.inj heq
    obtain ⟨rfl, -⟩ := List.cons.inj heq
    exact if_neg fun hc => h hc.2
  · rfl

theorem decodeUnits_of_head {n : ℕ} {cs head rest : List Char} (h : decodeHead cs = some (head, rest)) :
    decodeUnits (n + 1) cs = head ++ decodeUnits n rest := by
  simp [decodeUnits, h]

theorem decodeUnits_cons {c : Char} (h : c ≠ '\\') (n : ℕ) (cs : List Char) :
    decodeUnits (n + 1) (c :: cs) = c :: decodeUnits n cs := by
  apply @decodeUnits_of_head n _ [c] cs
  cases cs <;> simp [decodeHead, takeUnit_cons h, h]

theorem decodeUnits_escape {c : Char} (h : c ≠ 'u') (n : ℕ) (cs : List Char) :
    decodeUnits (n + 1) ('\\' :: c :: cs) = '\\' :: c :: decodeUnits n cs := by
  apply @decodeUnits_of_head n _ ['\\', c] cs
  simp [decodeHead, takeUnit_escape h]

theorem decodeUnits_control {k : ℕ} (h : k < 127) (n : ℕ) (cs : List Char) :
    decodeUnits (n + 1) (unitEscape k ++ cs) = unitEscape k ++ decodeUnits n cs := by
  apply decodeUnits_of_head
  have hhigh : ¬(0xd800 ≤ k ∧ k < 0xdc00) := by omega
  simp only [decodeHead, takeUnit_unitEscape (show k < 0x10000 by omega), hhigh, if_false, h, if_true]
  rfl

theorem decodeUnits_unit {k : ℕ} (hlow : ¬k < 127) (hhigh : ¬(0xd800 ≤ k ∧ k < 0xdc00)) (hk : k < 0x10000) (n : ℕ)
    (cs : List Char) : decodeUnits (n + 1) (unitEscape k ++ cs) = Char.ofNat k :: decodeUnits n cs := by
  apply @decodeUnits_of_head n _ [Char.ofNat k] cs
  simp only [decodeHead, takeUnit_unitEscape hk, hhigh, if_false, hlow]

theorem decodeUnits_pair {high low : ℕ} (hhigh : 0xd800 ≤ high ∧ high < 0xdc00) (hlow : low < 0x10000) (n : ℕ)
    (cs : List Char) : decodeUnits (n + 1) (unitEscape high ++ (unitEscape low ++ cs)) =
      Char.ofNat (0x10000 + (high - 0xd800) * 1024 + (low - 0xdc00)) :: decodeUnits n cs := by
  apply @decodeUnits_of_head n _ [Char.ofNat (0x10000 + (high - 0xd800) * 1024 + (low - 0xdc00))] cs
  simp only [decodeHead, takeUnit_unitEscape (show high < 0x10000 by omega), if_pos hhigh, takeUnit_unitEscape hlow,
    Option.map_some]

/-- A character that is escaped is read back. -/
theorem decodeUnits_asciiEscape {c : Char} (h : c ≠ '\\') (n : ℕ) (cs : List Char) :
    decodeUnits (n + 1) (asciiEscape c ++ cs) = c :: decodeUnits n cs := by
  have hvalid : c.toNat < 0xd800 ∨ 0xdfff < c.toNat ∧ c.toNat < 0x110000 := c.valid
  have hchar : Char.ofNat c.toNat = c := Char.ofNat_toNat c
  unfold asciiEscape
  split_ifs with hlow hbasic
  · exact decodeUnits_cons h n cs
  · rw [decodeUnits_unit hlow (by omega) hbasic, hchar]
  · have hunit : 0x10000 + (0xd800 + (c.toNat - 0x10000) / 1024 - 0xd800) * 1024 +
        (0xdc00 + (c.toNat - 0x10000) % 1024 - 0xdc00) = c.toNat := by omega
    rw [List.append_assoc, decodeUnits_pair (by omega) (by omega), hunit, hchar]

end Escapes

section Escaped

/-- Every backslash of the text starts an escape, of one character or of a control character. -/
inductive Escaped : List Char → Prop
  | nil : Escaped []
  | plain {c : Char} {cs : List Char} (hc : c ≠ '\\') (h : Escaped cs) : Escaped (c :: cs)
  | escape {c : Char} {cs : List Char} (hc : c ≠ 'u') (hascii : c.toNat < 127) (h : Escaped cs) :
      Escaped ('\\' :: c :: cs)
  | control {k : ℕ} {cs : List Char} (hk : k < 32) (h : Escaped cs) : Escaped (unitEscape k ++ cs)

theorem Escaped.append {cs ds : List Char} (hcs : Escaped cs) (hds : Escaped ds) : Escaped (cs ++ ds) := by
  induction hcs with
  | nil => exact hds
  | plain hc _ ih => exact ih.plain hc
  | escape hc hascii _ ih => exact ih.escape hc hascii
  | control hk _ ih =>
    rw [List.append_assoc]
    exact ih.control hk

theorem escaped_of_plain {cs : List Char} (h : ∀ c ∈ cs, c ≠ '\\') : Escaped cs := by
  induction cs with
  | nil => exact .nil
  | cons c cs ih => exact .plain (h c (by simp)) (ih fun d hd => h d (List.mem_cons_of_mem _ hd))

theorem escaped_escape (c : Char) : Escaped (escape c) := by
  unfold escape
  split_ifs with _ hbackslash
  iterate 7 exact .escape (by decide) (by decide) .nil
  · rename_i hcontrol
    have hunit : unitEscape c.toNat = ['\\', 'u', '0', '0', hexChar (c.toNat / 16), hexChar (c.toNat % 16)] := by
      have h₁ : c.toNat / 4096 = 0 := by omega
      have h₂ : c.toNat / 256 % 16 = 0 := by omega
      have h₃ : c.toNat / 16 % 16 = c.toNat / 16 := by omega
      rw [unitEscape, h₁, h₂, h₃]
      rfl
    rw [← hunit, ← List.append_nil (unitEscape _)]
    exact .control hcontrol .nil
  · exact .plain hbackslash .nil

theorem escaped_printString (s : String) : Escaped (printString s) := by
  have hchars : Escaped (s.toList.flatMap escape) := by
    induction s.toList with
    | nil => exact .nil
    | cons c cs ih =>
      rw [List.flatMap_cons]
      exact (escaped_escape c).append ih
  exact .plain (by decide) (hchars.append (escaped_of_plain (by simp)))

theorem escaped_digits {ds : List ℕ} (h : AllDigits ds) : Escaped (ds.map digitChar) := by
  apply escaped_of_plain
  intro c hc
  obtain ⟨d, hd, rfl⟩ := List.mem_map.mp hc
  have hlt := h d hd
  interval_cases d <;> decide

theorem escaped_printNumber {n : NumberText} (h : n.Valid) : Escaped (printNumber n) := by
  have hfraction : Escaped (printFraction n.fraction) := by
    unfold printFraction
    split_ifs
    · exact .nil
    · exact .plain (by decide) (escaped_digits h.fraction_digits)
  have hexponent : Escaped (printExponent n.exponent) := by
    cases he : n.exponent with
    | none => exact .nil
    | some e =>
      have hsign : signChar e.1 ≠ '\\' := by cases e.1 <;> decide
      exact .plain (by decide) (.plain hsign (escaped_digits (h.exponent_digits e he).1))
  have hminus : Escaped (if n.negative then ['-'] else []) := by
    split_ifs
    · exact .plain (by decide) .nil
    · exact .nil
  exact ((hminus.append (escaped_digits h.whole_digits)).append hfraction).append hexponent

variable {gap : List Char} (hgap : Escaped gap)

include hgap in
theorem escaped_printItems {items : List (Json NumberText)} (h : ∀ x ∈ items, Escaped (print gap x)) :
    Escaped (printItems gap items) := by
  induction items with
  | nil => exact .nil
  | cons x xs ih =>
    have hxs := ih fun y hy => h y (List.mem_cons_of_mem _ hy)
    exact .plain (by decide) ((hgap.append (h x (by simp))).append hxs)

include hgap in
theorem escaped_printFields {fields : List (String × Json NumberText)}
    (h : ∀ p ∈ fields, Escaped (print gap p.2)) : Escaped (printFields gap fields) := by
  induction fields with
  | nil => exact .nil
  | cons p ps ih =>
    have hps := ih fun q hq => h q (List.mem_cons_of_mem _ hq)
    have hkey := hgap.append (escaped_printString p.1)
    have hvalue := Escaped.plain (c := ':') (by decide) (hgap.append (h p (by simp)))
    have hfield := Escaped.plain (c := ',') (by decide) ((hkey.append hvalue).append hps)
    simpa [printFields, List.append_assoc] using hfield

include hgap in
theorem escaped_print {t : Json NumberText} (ht : ∀ n ∈ t.numbers, n.Valid) : Escaped (print gap t) := by
  induction t with
  | null => exact escaped_of_plain (by simp [print])
  | bool b => cases b <;> exact escaped_of_plain (by simp [print])
  | num n => exact escaped_printNumber (ht n (by simp [Json.numbers]))
  | str s => exact escaped_printString s
  | arr items ih =>
    have hitems : ∀ x ∈ items, Escaped (print gap x) := fun x hx => ih x hx fun n hn => ht n <| by
      rw [Json.numbers, Json.mem_numbersItems]
      exact ⟨x, hx, hn⟩
    cases items with
    | nil => exact escaped_of_plain (by simp [print])
    | cons x xs =>
      have hxs := escaped_printItems hgap fun y hy => hitems y (List.mem_cons_of_mem _ hy)
      have hall := ((hitems x (by simp)).append hxs).append (escaped_of_plain (by simp) : Escaped [']'])
      exact .plain (by decide) hall
  | obj fields ih =>
    have hfields : ∀ p ∈ fields, Escaped (print gap p.2) := fun p hp => ih p hp fun n hn => ht n <| by
      rw [Json.numbers, Json.mem_numbersFields]
      exact ⟨p, hp, hn⟩
    cases fields with
    | nil => exact escaped_of_plain (by simp [print])
    | cons p ps =>
      have hps := escaped_printFields hgap fun q hq => hfields q (List.mem_cons_of_mem _ hq)
      have hvalue := Escaped.plain (c := ':') (by decide) (hgap.append (hfields p (by simp)))
      have hall := (((escaped_printString p.1).append hvalue).append hps).append
        (escaped_of_plain (by simp) : Escaped ['}'])
      have hobject := Escaped.plain (c := '{') (by decide) hall
      simpa [print, List.append_assoc] using hobject

/-- A text is read back from its escaped form. -/
theorem decodeUnits_flatMap {cs : List Char} (h : Escaped cs) :
    ∀ n, cs.length ≤ n → decodeUnits n (cs.flatMap asciiEscape) = cs := by
  induction h with
  | nil => exact fun n _ => by cases n <;> rfl
  | plain hc _ ih =>
    rintro (_ | n) hn
    · simp at hn
    · rw [List.flatMap_cons, decodeUnits_asciiEscape hc, ih n (by simpa using hn)]
  | escape hc hascii _ ih =>
    rintro (_ | n) hn
    · simp at hn
    · have hbackslash : asciiEscape '\\' = ['\\'] := rfl
      rw [List.flatMap_cons, List.flatMap_cons, hbackslash, asciiEscape, if_pos hascii, List.singleton_append,
        List.singleton_append, decodeUnits_escape hc, ih n (by simp at hn; omega)]
  | control hk _ ih =>
    rintro (_ | n) hn
    · simp [unitEscape] at hn
    · rename_i k cs _
      have hunit : (unitEscape k).flatMap asciiEscape = unitEscape k := by interval_cases k <;> rfl
      rw [List.flatMap_append, hunit, decodeUnits_control (by omega), ih n (by simp [unitEscape] at hn; omega)]

/-- A text with no escaped character is read as it is. -/
theorem decodeUnits_escaped {cs : List Char} (h : Escaped cs) :
    ∀ n, cs.length ≤ n → decodeUnits n cs = cs := by
  induction h with
  | nil => exact fun n _ => by cases n <;> rfl
  | plain hc _ ih =>
    rintro (_ | n) hn
    · simp at hn
    · rw [decodeUnits_cons hc, ih n (by simpa using hn)]
  | escape hc _ _ ih =>
    rintro (_ | n) hn
    · simp at hn
    · rw [decodeUnits_escape hc, ih n (by simp at hn; omega)]
  | control hk _ ih =>
    rintro (_ | n) hn
    · simp [unitEscape] at hn
    · rw [decodeUnits_control (by omega), ih n (by simp [unitEscape] at hn; omega)]

end Escaped

end JsonText

namespace PythonJson

/-- `json.dumps(t, allow_nan=False)`. -/
def dumpsAscii (t : PyJson) : String :=
  String.ofList ((JsonText.print [' '] (t.map numberText)).flatMap JsonText.asciiEscape)

/-- A parser of JSON text that knows surrogate pairs, of texts in which no object repeats a key. -/
def loadsText (s : String) : Option PyJson := loads (String.ofList (JsonText.decodeUnits s.length s.toList))

theorem escaped_numberText {gap : List Char} (hgap : JsonText.Escaped gap) (t : PyJson) :
    JsonText.Escaped (JsonText.print gap (t.map numberText)) :=
  JsonText.escaped_print hgap (numbers_valid t)

theorem length_le_flatMap_asciiEscape (cs : List Char) : cs.length ≤ (cs.flatMap JsonText.asciiEscape).length := by
  induction cs with
  | nil => simp
  | cons c cs ih =>
    have hpos : 1 ≤ (JsonText.asciiEscape c).length := by
      unfold JsonText.asciiEscape
      split_ifs <;> simp [JsonText.unitEscape]
    simp only [List.flatMap_cons, List.length_append, List.length_cons]
    omega

theorem loadsText_dumpsAscii (t : PyJson) : loadsText (dumpsAscii t) = some t := by
  have hescaped := escaped_numberText (JsonText.escaped_of_plain (by simp) : JsonText.Escaped [' ']) t
  have hdecode := JsonText.decodeUnits_flatMap hescaped _ (length_le_flatMap_asciiEscape _)
  rw [loadsText, dumpsAscii, String.length_ofList, String.toList_ofList, hdecode, loads, String.toList_ofList,
    JsonText.parse_print (by simp [JsonText.isSpace]) (numbers_valid t)]
  exact mapOption_numberText t

theorem loadsText_dumps (t : PyJson) : loadsText (dumps t) = some (sortKeys t) := by
  have hescaped := escaped_numberText .nil (sortKeys t)
  have hdecode := JsonText.decodeUnits_escaped hescaped _ le_rfl
  have htext : String.ofList (JsonText.decodeUnits (dumps t).length (dumps t).toList) = dumps t := by
    rw [dumps, String.length_ofList, String.toList_ofList, hdecode]
  rw [loadsText, htext, loads_dumps]

example : dumpsAscii (.obj [("b", .str "é😀\n"), ("a", .arr [.num (.int 1), .null])]) =
    "\x7b\"b\": \"\\u00e9\\ud83d\\ude00\\n\", \"a\": [1, null]\x7d" := by decide +kernel

end PythonJson
