import KairosPersistence.PythonJson
import KairosPersistence.Jsonb
import Mathlib.Algebra.Order.BigOperators.Group.List

/-!
What depends on the canonical text of a value only: comparisons with other
values, its fields, and the length of the text that a stored value is read from.
-/

namespace PythonJson

open Json (UniqueKeys)

section Equality

theorem equalFields_iff {ps qs : List (String × PyJson)} :
    equalFields ps qs = true ↔ ∀ p ∈ ps, ∃ q, qs.find? (·.1 = p.1) = some q ∧ equal p.2 q.2 = true := by
  induction ps with
  | nil => simp [equalFields]
  | cons p ps ih =>
    rw [equalFields, Bool.and_eq_true, ih, List.forall_mem_cons]
    refine and_congr_left fun _ => ?_
    cases qs.find? (·.1 = p.1) <;> simp

theorem equalItems_iff {xs ys : List PyJson} :
    equalItems xs ys = true ↔ List.Forall₂ (fun x y => equal x y = true) xs ys := by
  induction xs generalizing ys with
  | nil => cases ys <;> simp [equalItems]
  | cons x xs ih => cases ys <;> simp [equalItems, ih]

theorem equal_getField {ps qs : List (String × PyJson)} (h : equal (.obj ps) (.obj qs) = true) (p : String × PyJson)
    (hp : p ∈ ps) : equal p.2 (getField qs p.1) = true := by
  rw [equal, Bool.and_eq_true] at h
  obtain ⟨q, hq, hequal⟩ := equalFields_iff.mp h.2 p hp
  rw [getField, hq]
  exact hequal

/-- Comparisons do not depend on the order of the keys. -/
theorem equal_orderKeys (le : String → String → Prop) [DecidableRel le] (t u : PyJson) :
    equal (t.orderKeys le) u = equal t u := by
  induction t using Json.induction generalizing u with
  | null | bool | num | str => rfl
  | arr items ih =>
    cases u with
    | arr ys =>
      rw [Json.orderKeys, Json.orderKeysItems_eq, equal, equal, Bool.eq_iff_iff, equalItems_iff, equalItems_iff,
        List.forall₂_map_left_iff, List.forall₂_iff_zip, List.forall₂_iff_zip]
      refine and_congr_right fun _ => forall₂_congr fun x y => ?_
      refine forall_congr' fun hxy => ?_
      rw [ih x (List.of_mem_zip hxy).1]
    | null | bool | num | str | obj => rfl
  | obj fields ih =>
    cases u with
    | obj qs =>
      rw [Json.orderKeys, Json.orderKeysFields_eq, equal, equal, List.length_insertionSort, List.length_map,
        Bool.eq_iff_iff, Bool.and_eq_true, Bool.and_eq_true, equalFields_iff, equalFields_iff]
      simp only [(List.perm_insertionSort _ _).mem_iff, List.forall_mem_map]
      refine and_congr_right fun _ => forall₂_congr fun p hp => ?_
      simp only [ih p hp]
    | null | bool | num | str | arr => rfl

/-- Values of one canonical text are equal to the same values. -/
theorem equal_congr {t u : PyJson} (h : dumps t = dumps u) (v : PyJson) : equal t v = equal u v := by
  rw [← equal_orderKeys (· ≤ ·) t v, ← equal_orderKeys (· ≤ ·) u v]
  exact congrArg (equal · v) (dumps_injective h)

theorem equal_refl {t : PyJson} (h : t.UniqueKeys) : equal t t = true := by
  induction t using Json.induction with
  | null => rfl
  | bool b => simp [equal, numericValue]
  | num n => cases n <;> simp [equal, numericValue]
  | str s => simp [equal]
  | arr items ih =>
    rw [Json.uniqueKeys_arr] at h
    rw [equal, equalItems_iff, List.forall₂_same]
    exact fun x hx => ih x hx (h x hx)
  | obj fields ih =>
    rw [Json.uniqueKeys_obj] at h
    rw [equal, Bool.and_eq_true, equalFields_iff]
    refine ⟨decide_eq_true rfl, fun p hp => ?_⟩
    obtain ⟨q, hq⟩ : ∃ q, fields.find? (·.1 = p.1) = some q :=
      Option.isSome_iff_exists.mp (List.find?_isSome.mpr ⟨p, hp, decide_eq_true rfl⟩)
    have hkey : q.1 = p.1 := by simpa using List.find?_some hq
    obtain rfl := List.inj_on_of_nodup_map h.1 (List.mem_of_find?_eq_some hq) hp hkey
    exact ⟨q, hq, ih q hp (h.2 q hp)⟩

end Equality

section Fields

theorem getField_perm {ps qs : List (String × PyJson)} (h : ps.Perm qs) (hn : (ps.map Prod.fst).Nodup)
    (key : String) : getField ps key = getField qs key := by
  cases hp : ps.find? (·.1 = key) with
  | none =>
    have hq : qs.find? (·.1 = key) = none :=
      List.find?_eq_none.mpr fun q hq => List.find?_eq_none.mp hp q (h.mem_iff.mpr hq)
    rw [getField, getField, hp, hq]
  | some p =>
    have hpk : p.1 = key := by simpa using List.find?_some hp
    have hpmem := List.mem_of_find?_eq_some hp
    obtain ⟨q, hq⟩ : ∃ q, qs.find? (·.1 = key) = some q :=
      Option.isSome_iff_exists.mp (List.find?_isSome.mpr ⟨p, h.mem_iff.mp hpmem, decide_eq_true hpk⟩)
    have hqk : q.1 = key := by simpa using List.find?_some hq
    have hqmem := h.mem_iff.mpr (List.mem_of_find?_eq_some hq)
    obtain rfl := List.inj_on_of_nodup_map hn hpmem hqmem (hpk.trans hqk.symm)
    rw [getField, getField, hp, hq]

theorem getField_map (f : PyJson → PyJson) (hf : f .null = .null) (fields : List (String × PyJson)) (key : String) :
    getField (fields.map fun p => (p.1, f p.2)) key = f (getField fields key) := by
  rw [getField, getField, List.find?_map]
  cases h : fields.find? ((fun p : String × PyJson => decide (p.1 = key)) ∘ fun p => (p.1, f p.2)) with
  | none =>
    have h' : fields.find? (·.1 = key) = none := h
    rw [h']
    exact hf.symm
  | some p =>
    have h' : fields.find? (·.1 = key) = some p := h
    rw [h']
    rfl

theorem dumps_sortKeys {t : PyJson} (h : t.UniqueKeys) : dumps (sortKeys t) = dumps t := by
  rw [dumps, dumps, sortKeys, sortKeys, Json.orderKeys_orderKeys _ h]

theorem sortKeys_str {y : PyJson} {s : String} (h : sortKeys y = sortKeys (.str s)) : y = .str s := by
  cases y with
  | null | bool | num | str | arr | obj => simp_all [sortKeys, Json.orderKeys]

theorem sortKeys_num {y : PyJson} {n : PyNumber} (h : sortKeys y = sortKeys (.num n)) : y = .num n := by
  cases y with
  | null | bool | num | str | arr | obj => simp_all [sortKeys, Json.orderKeys]

/-- Objects of one canonical text have the same fields, up to the order of the keys below. -/
theorem fields_perm {fs gs : List (String × PyJson)} (h : dumps (.obj fs) = dumps (.obj gs)) :
    (fs.map fun p => (p.1, sortKeys p.2)).Perm (gs.map fun p => (p.1, sortKeys p.2)) := by
  have hsorted := dumps_injective h
  simp only [sortKeys, Json.orderKeys, Json.orderKeysFields_eq, Json.obj.injEq] at hsorted
  exact ((List.perm_insertionSort _ _).symm.trans (.of_eq hsorted)).trans (List.perm_insertionSort _ _)

theorem keys_perm {fs gs : List (String × PyJson)} (h : dumps (.obj fs) = dumps (.obj gs)) :
    (fs.map Prod.fst).Perm (gs.map Prod.fst) := by
  have hperm := (fields_perm h).map Prod.fst
  rwa [List.map_map, List.map_map] at hperm

theorem eq_obj_of_dumps {t : PyJson} {gs : List (String × PyJson)} (h : dumps t = dumps (.obj gs)) :
    ∃ fs, t = .obj fs := by
  have hsorted := dumps_injective h
  cases t with
  | obj fs => exact ⟨fs, rfl⟩
  | null | bool | num | str | arr => simp [sortKeys, Json.orderKeys] at hsorted

theorem getField_congr {fs gs : List (String × PyJson)} (h : dumps (.obj fs) = dumps (.obj gs))
    (hu : Json.UniqueKeys (Json.obj gs)) (key : String) :
    sortKeys (getField fs key) = sortKeys (getField gs key) := by
  have hperm := fields_perm h
  have hn : ((gs.map fun p => (p.1, sortKeys p.2)).map Prod.fst).Nodup := by
    rw [List.map_map]
    exact (Json.uniqueKeys_obj.mp hu).1
  rw [← getField_map sortKeys rfl, ← getField_map sortKeys rfl]
  exact getField_perm hperm ((hperm.map Prod.fst).nodup_iff.mpr hn) key

theorem equal_getField_congr {fs gs : List (String × PyJson)} (h : dumps (.obj fs) = dumps (.obj gs))
    (hu : Json.UniqueKeys (Json.obj gs)) (key : String) (v : PyJson) :
    equal (getField fs key) v = equal (getField gs key) v := by
  rw [← equal_orderKeys (· ≤ ·) (getField fs key), ← equal_orderKeys (· ≤ ·) (getField gs key)]
  exact congrArg (equal · v) (getField_congr h hu key)

end Fields

end PythonJson

namespace Json

variable {ν μ : Type}

mutual

/-- A bound of the length of a printed tree, given one for its numbers. -/
def textBound (size : ν → ℕ) : Json ν → ℕ
  | null => 4
  | bool _ => 5
  | num n => size n
  | str s => 6 * s.length + 2
  | arr items => textBoundItems size items + 2
  | obj fields => textBoundFields size fields + 2

def textBoundItems (size : ν → ℕ) : List (Json ν) → ℕ
  | [] => 0
  | x :: xs => textBound size x + 2 + textBoundItems size xs

def textBoundFields (size : ν → ℕ) : List (String × Json ν) → ℕ
  | [] => 0
  | (k, x) :: ps => 6 * k.length + 6 + textBound size x + textBoundFields size ps

end

variable {size : ν → ℕ}

theorem textBoundItems_eq (items : List (Json ν)) :
    textBoundItems size items = (items.map fun x => textBound size x + 2).sum := by
  induction items with
  | nil => rfl
  | cons x xs ih => simp [textBoundItems, ih]

theorem textBoundFields_eq (fields : List (String × Json ν)) :
    textBoundFields size fields = (fields.map fun p => 6 * p.1.length + 6 + textBound size p.2).sum := by
  induction fields with
  | nil => rfl
  | cons p ps ih => simp [textBoundFields, ih]

theorem textBound_map (f : μ → ν) (t : Json μ) : textBound size (map f t) = textBound (fun n => size (f n)) t := by
  induction t with
  | null | bool | num | str => rfl
  | arr items ih =>
    simp only [map, mapItems_eq, textBound, textBoundItems_eq, List.map_map]
    rw [List.map_congr_left fun x hx => by rw [Function.comp_apply, ih x hx]]
  | obj fields ih =>
    simp only [map, mapFields_eq, textBound, textBoundFields_eq, List.map_map]
    rw [List.map_congr_left fun p hp => by rw [Function.comp_apply, ih p hp]]

theorem textBound_orderKeys (le : String → String → Prop) [DecidableRel le] (t : Json ν) :
    textBound size (orderKeys le t) = textBound size t := by
  induction t with
  | null | bool | num | str => rfl
  | arr items ih =>
    simp only [orderKeys, orderKeysItems_eq, textBound, textBoundItems_eq, List.map_map]
    rw [List.map_congr_left fun x hx => by rw [Function.comp_apply, ih x hx]]
  | obj fields ih =>
    simp only [orderKeys, orderKeysFields_eq, textBound, textBoundFields_eq,
      ((List.perm_insertionSort _ _).map _).sum_eq, List.map_map]
    rw [List.map_congr_left fun p hp => by rw [Function.comp_apply, ih p hp]]

theorem textBound_mono {size' : ν → ℕ} (t : Json ν) (h : ∀ n ∈ numbers t, size n ≤ size' n) :
    textBound size t ≤ textBound size' t := by
  induction t with
  | null | bool | str => rfl
  | num n => exact h n (by simp [numbers])
  | arr items ih =>
    simp only [textBound, textBoundItems_eq]
    refine Nat.add_le_add_right (List.sum_le_sum fun x hx => Nat.add_le_add_right (ih x hx fun n hn => ?_) 2) 2
    exact h n (mem_numbersItems.mpr ⟨x, hx, hn⟩)
  | obj fields ih =>
    simp only [textBound, textBoundFields_eq]
    refine Nat.add_le_add_right (List.sum_le_sum fun p hp => Nat.add_le_add_left (ih p hp fun n hn => ?_) _) 2
    exact h n (mem_numbersFields.mpr ⟨p, hp, hn⟩)

/-- The members of a container are smaller together than the container. -/
theorem sum_textBound_arr (items : List (Json ν)) :
    (items.map (textBound size)).sum + items.length < textBound size (arr items) := by
  rw [textBound]
  induction items with
  | nil => simp
  | cons x xs ih =>
    simp only [textBoundItems, List.map_cons, List.sum_cons, List.length_cons]
    omega

theorem sum_textBound_obj (fields : List (String × Json ν)) :
    (fields.map fun p => textBound size p.2).sum + fields.length < textBound size (obj fields) := by
  rw [textBound]
  induction fields with
  | nil => simp
  | cons p ps ih =>
    simp only [textBoundFields, List.map_cons, List.sum_cons, List.length_cons]
    omega

/-- Containers are nested at most so deep. -/
def HeightLE : ℕ → Json ν → Prop
  | n + 1, arr items => ∀ x ∈ items, HeightLE n x
  | n + 1, obj fields => ∀ p ∈ fields, HeightLE n p.2
  | 0, arr _ | 0, obj _ => False
  | _, _ => True

theorem heightLE_orderKeys (le : String → String → Prop) [DecidableRel le] (n : ℕ) (t : Json ν) :
    HeightLE n (orderKeys le t) ↔ HeightLE n t := by
  induction n generalizing t with
  | zero => cases t <;> simp [orderKeys, HeightLE]
  | succ n ih =>
    cases t with
    | null | bool | num | str => rfl
    | arr items => simp [orderKeys, orderKeysItems_eq, HeightLE, ih]
    | obj fields =>
      simp only [orderKeys, orderKeysFields_eq, HeightLE, List.mem_insertionSort, List.forall_mem_map, ih]

end Json

namespace JsonText

/-- The length of a text in UTF-8. -/
def byteSize (cs : List Char) : ℕ := (cs.map Char.utf8Size).sum

@[simp] theorem byteSize_nil : byteSize [] = 0 := rfl

@[simp] theorem byteSize_cons (c : Char) (cs : List Char) : byteSize (c :: cs) = c.utf8Size + byteSize cs := rfl

@[simp] theorem byteSize_append (cs ds : List Char) : byteSize (cs ++ ds) = byteSize cs + byteSize ds := by
  rw [byteSize, List.map_append, List.sum_append, byteSize, byteSize]

theorem utf8ByteSize_ofList (cs : List Char) : (String.ofList cs).utf8ByteSize = byteSize cs := by
  induction cs using List.reverseRecOn with
  | nil => rfl
  | append_singleton cs c ih =>
    rw [String.ofList_append, String.utf8ByteSize_append, ih, byteSize_append]
    simp

theorem byteSize_le (cs : List Char) : byteSize cs ≤ 4 * cs.length := by
  induction cs with
  | nil => rfl
  | cons c cs ih =>
    have := Char.utf8Size_le_four c
    rw [byteSize_cons, List.length_cons]
    omega

theorem utf8Size_digitChar {d : ℕ} (h : d < 10) : (digitChar d).utf8Size = 1 := by
  interval_cases d <;> rfl

theorem byteSize_escape_le (c : Char) : byteSize (escape c) ≤ 6 := by
  have hhex (d : ℕ) (h : d < 16) : (hexChar d).utf8Size = 1 := by interval_cases d <;> rfl
  unfold escape
  split_ifs with _ _ _ _ _ _ _ hcontrol
  iterate 7 exact (by decide)
  · simp only [byteSize_cons, byteSize_nil, hhex (c.toNat / 16) (by omega), hhex (c.toNat % 16) (by omega)]
    decide
  · have := Char.utf8Size_le_four c
    simp only [byteSize_cons, byteSize_nil]
    omega

theorem byteSize_printString_le (s : String) : byteSize (printString s) ≤ 6 * s.length + 2 := by
  have h : byteSize (s.toList.flatMap escape) ≤ 6 * s.toList.length := by
    induction s.toList with
    | nil => simp
    | cons c cs ih =>
      rw [List.flatMap_cons, byteSize_append, List.length_cons]
      have := byteSize_escape_le c
      omega
  rw [String.length_toList] at h
  have hquote : Char.utf8Size '"' = 1 := rfl
  simp only [printString, byteSize_append, byteSize_cons, byteSize_nil, hquote]
  omega

def numberSize (n : NumberText) : ℕ := byteSize (printNumber n)

theorem byteSize_print_le {gap : List Char} (hgap : byteSize gap ≤ 1) (t : Json NumberText) :
    byteSize (print gap t) ≤ t.textBound numberSize := by
  have hcomma : Char.utf8Size ',' = 1 := rfl
  have hcolon : Char.utf8Size ':' = 1 := rfl
  induction t with
  | null => rfl
  | bool b => cases b <;> simp only [print, Json.textBound] <;> decide
  | num n => rfl
  | str s => exact byteSize_printString_le s
  | arr items ih =>
    have hopen : Char.utf8Size '[' = 1 ∧ Char.utf8Size ']' = 1 := ⟨rfl, rfl⟩
    have hitems (xs : List (Json NumberText)) (hxs : ∀ x ∈ xs, byteSize (print gap x) ≤ x.textBound numberSize) :
        byteSize (printItems gap xs) ≤ Json.textBoundItems numberSize xs := by
      induction xs with
      | nil => rfl
      | cons x xs ihx =>
        have := hxs x (by simp)
        have := ihx fun y hy => hxs y (List.mem_cons_of_mem _ hy)
        simp only [printItems, Json.textBoundItems, byteSize_append, byteSize_cons]
        omega
    cases items with
    | nil => simp [print, Json.textBound, Json.textBoundItems, hopen]
    | cons x xs =>
      have := ih x (by simp)
      have := hitems xs fun y hy => ih y (List.mem_cons_of_mem _ hy)
      simp only [print, Json.textBound, Json.textBoundItems, byteSize_append, byteSize_cons, byteSize_nil]
      omega
  | obj fields ih =>
    have hopen : Char.utf8Size '{' = 1 ∧ Char.utf8Size '}' = 1 := ⟨rfl, rfl⟩
    have hfields (ps : List (String × Json NumberText))
        (hps : ∀ p ∈ ps, byteSize (print gap p.2) ≤ p.2.textBound numberSize) :
        byteSize (printFields gap ps) ≤ Json.textBoundFields numberSize ps := by
      induction ps with
      | nil => rfl
      | cons p ps ihp =>
        have := hps p (by simp)
        have := ihp fun q hq => hps q (List.mem_cons_of_mem _ hq)
        have := byteSize_printString_le p.1
        simp only [printFields, Json.textBoundFields, byteSize_append, byteSize_cons]
        omega
    cases fields with
    | nil => simp [print, Json.textBound, Json.textBoundFields, hopen]
    | cons p ps =>
      have := ih p (by simp)
      have := hfields ps fun q hq => ih q (List.mem_cons_of_mem _ hq)
      have := byteSize_printString_le p.1
      simp only [print, Json.textBound, Json.textBoundFields, byteSize_append, byteSize_cons, byteSize_nil]
      omega

end JsonText

namespace Jsonb

open PythonJson DecimalDigits

theorem numericOut_intText (n : ℤ) : numericOut (numericIn (intText n)) = intText n := by
  have hpower : (intText n).power = 0 := by simp [NumberText.power, NumberText.exponentValue, intText]
  have hmantissa : (intText n).mantissa = n.natAbs := by simp [NumberText.mantissa, intText, value_digits]
  have hnegative : (decide (n < 0) && n.natAbs != 0) = decide (n < 0) := by
    by_cases hn : n < 0
    · have hne : n.natAbs ≠ 0 := by omega
      simp [hn, hne]
    · simp [hn]
  have hsign : (intText n).negative = decide (n < 0) := rfl
  simp only [numericOut, numericIn, hpower, hmantissa, hsign, Int.toNat_zero, pow_zero, mul_one, neg_zero,
    Nat.div_one, Nat.mod_one, hnegative]
  rfl

/-- An integer of the range of a `BIGINT` prints in twenty characters. -/
theorem numberSize_intText_le {n : ℤ} (h : n.natAbs < 2 ^ 63) : JsonText.numberSize (intText n) ≤ 20 := by
  have hdigits : (digits n.natAbs).length ≤ 19 := by
    rcases Nat.eq_zero_or_pos n.natAbs with hz | hpos
    · rw [hz]
      decide
    · by_contra hlong
      have hpow : 10 ^ 19 ≤ 10 ^ ((digits n.natAbs).length - 1) := Nat.pow_le_pow_right (by norm_num) (by omega)
      have := digits_lower hpos
      have : (2 : ℕ) ^ 63 < 10 ^ 19 := by norm_num
      omega
  have hsize : JsonText.byteSize ((digits n.natAbs).map JsonText.digitChar) = (digits n.natAbs).length := by
    have hone : ∀ d ∈ digits n.natAbs, (Char.utf8Size ∘ JsonText.digitChar) d = 1 :=
      fun d hd => JsonText.utf8Size_digitChar (digits_lt n.natAbs d hd)
    rw [JsonText.byteSize, List.map_map, List.map_congr_left hone]
    simp
  have hminus : Char.utf8Size '-' = 1 := rfl
  simp only [JsonText.numberSize, JsonText.printNumber, intText, JsonText.printFraction, JsonText.printExponent,
    JsonText.byteSize_append, hsize]
  by_cases hn : n < 0 <;> simp [hn] <;> omega

/-- A text the database accepts has no NUL. -/
theorem nulFree_of_jsonbIn {t : PyJson} {column : Json Numeric} (h : jsonbIn (dumps t) = some column) :
    t.everyString nulFree := by
  rw [jsonbIn, dumps, String.toList_ofList, JsonText.parse_print (by simp) (numbers_valid _), Option.bind_some] at h
  split_ifs at h with hnul
  rwa [Json.everyString_map, sortKeys, Json.everyString_orderKeys] at hnul

/-- The text a value is read from, and its canonical text, are not longer than its bound. -/
theorem byteSize_stored {t : PyJson} {column : Json Numeric} (h : jsonbIn (dumps t) = some column) :
    (jsonbOut column).utf8ByteSize ≤
      t.textBound fun n => JsonText.numberSize (numericOut (numericIn (numberText n))) := by
  rw [jsonbIn_dumps (nulFree_of_jsonbIn h)] at h
  obtain rfl := Option.some.inj h
  refine (JsonText.utf8ByteSize_ofList _).trans_le ((JsonText.byteSize_print_le (by decide) _).trans ?_)
  rw [Json.textBound_map, Json.textBound_orderKeys, Json.textBound_map, sortKeys, Json.textBound_orderKeys]

theorem byteSize_dumps (t : PyJson) :
    (dumps t).utf8ByteSize ≤ t.textBound fun n => JsonText.numberSize (numberText n) := by
  refine (JsonText.utf8ByteSize_ofList _).trans_le ((JsonText.byteSize_print_le (by decide) _).trans ?_)
  rw [Json.textBound_map, sortKeys, Json.textBound_orderKeys]

end Jsonb
