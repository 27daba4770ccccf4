import Mathlib.Data.List.Sort
import Mathlib.Data.String.Basic
import Mathlib.Order.Defs.Unbundled

/-!
JSON trees over a type of numbers, and the order of their object keys.
-/

inductive Json (ν : Type) where
  | null
  | bool (b : Bool)
  | num (n : ν)
  | str (s : String)
  | arr (items : List (Json ν))
  | obj (fields : List (String × Json ν))
  deriving Repr

namespace Json

variable {ν μ ρ : Type}

@[elab_as_elim, induction_eliminator]
theorem induction {motive : Json ν → Prop} (null : motive null) (bool : ∀ b, motive (bool b))
    (num : ∀ n, motive (num n)) (str : ∀ s, motive (str s))
    (arr : ∀ items, (∀ x ∈ items, motive x) → motive (arr items))
    (obj : ∀ fields, (∀ p ∈ fields, motive p.2) → motive (obj fields)) (t : Json ν) : motive t :=
  Json.rec (motive_1 := motive) (motive_2 := fun items => ∀ x ∈ items, motive x)
    (motive_3 := fun fields => ∀ p ∈ fields, motive p.2) (motive_4 := fun p => motive p.2)
    null bool num str arr obj (by simp) (fun _ _ hx hxs => List.forall_mem_cons.mpr ⟨hx, hxs⟩)
    (by simp) (fun _ _ hp hps => List.forall_mem_cons.mpr ⟨hp, hps⟩) (fun _ _ hx => hx) t

mutual

def map (f : ν → μ) : Json ν → Json μ
  | null => null
  | bool b => bool b
  | num n => num (f n)
  | str s => str s
  | arr items => arr (mapItems f items)
  | obj fields => obj (mapFields f fields)

def mapItems (f : ν → μ) : List (Json ν) → List (Json μ)
  | [] => []
  | x :: xs => map f x :: mapItems f xs

def mapFields (f : ν → μ) : List (String × Json ν) → List (String × Json μ)
  | [] => []
  | (k, x) :: ps => (k, map f x) :: mapFields f ps

end

theorem mapItems_eq (f : ν → μ) (items : List (Json ν)) : mapItems f items = items.map (map f) := by
  induction items with
  | nil => rfl
  | cons x xs ih => simp [mapItems, ih]

theorem mapFields_eq (f : ν → μ) (fields : List (String × Json ν)) :
    mapFields f fields = fields.map fun p => (p.1, map f p.2) := by
  induction fields with
  | nil => rfl
  | cons p ps ih => simp [mapFields, ih]

mutual

/-- The numbers of a tree, from left to right. -/
def numbers : Json ν → List ν
  | num n => [n]
  | arr items => numbersItems items
  | obj fields => numbersFields fields
  | _ => []

def numbersItems : List (Json ν) → List ν
  | [] => []
  | x :: xs => numbers x ++ numbersItems xs

def numbersFields : List (String × Json ν) → List ν
  | [] => []
  | (_, x) :: ps => numbers x ++ numbersFields ps

end

theorem mem_numbersItems {n : ν} {items : List (Json ν)} :
    n ∈ numbersItems items ↔ ∃ x ∈ items, n ∈ numbers x := by
  induction items with
  | nil => simp [numbersItems]
  | cons x xs ih => simp [numbersItems, ih]

theorem mem_numbersFields {n : ν} {fields : List (String × Json ν)} :
    n ∈ numbersFields fields ↔ ∃ p ∈ fields, n ∈ numbers p.2 := by
  induction fields with
  | nil => simp [numbersFields]
  | cons p ps ih => simp [numbersFields, ih]

theorem map_eq_map_iff {f g : ν → μ} (t : Json ν) : map f t = map g t ↔ ∀ n ∈ numbers t, f n = g n := by
  induction t with
  | null | bool | num | str => simp [map, numbers]
  | arr items ih =>
    simp only [map, numbers, mapItems_eq, arr.injEq, List.map_inj_left, mem_numbersItems]
    constructor
    · rintro h n ⟨x, hx, hn⟩
      exact (ih x hx).mp (h x hx) n hn
    · exact fun h x hx => (ih x hx).mpr fun n hn => h n ⟨x, hx, hn⟩
  | obj fields ih =>
    simp only [map, numbers, mapFields_eq, obj.injEq, List.map_inj_left, mem_numbersFields, Prod.mk.injEq,
      true_and]
    constructor
    · rintro h n ⟨p, hp, hn⟩
      exact (ih p hp).mp (h p hp) n hn
    · exact fun h p hp => (ih p hp).mpr fun n hn => h n ⟨p, hp, hn⟩

theorem map_map (g : μ → ρ) (f : ν → μ) (t : Json ν) : map g (map f t) = map (fun n => g (f n)) t := by
  induction t with
  | null | bool | num | str => rfl
  | arr items ih => simpa [map, mapItems_eq, List.map_map] using ih
  | obj fields ih => simpa [map, mapFields_eq, List.map_map] using fun k x => ih (k, x)

mutual

/-- `map` with a partial function; the tree has an image when all its numbers do. -/
def mapOption (f : ν → Option μ) : Json ν → Option (Json μ)
  | null => some null
  | bool b => some (bool b)
  | num n => (f n).map num
  | str s => some (str s)
  | arr items => (mapOptionItems f items).map arr
  | obj fields => (mapOptionFields f fields).map obj

def mapOptionItems (f : ν → Option μ) : List (Json ν) → Option (List (Json μ))
  | [] => some []
  | x :: xs => (mapOption f x).bind fun y => (mapOptionItems f xs).map (y :: ·)

def mapOptionFields (f : ν → Option μ) : List (String × Json ν) → Option (List (String × Json μ))
  | [] => some []
  | (k, x) :: ps => (mapOption f x).bind fun y => (mapOptionFields f ps).map ((k, y) :: ·)

end

theorem mapOptionItems_map {f : μ → Option ρ} {g : Json ν → Json μ} {h : Json ν → Json ρ} {items : List (Json ν)}
    (hfg : ∀ x ∈ items, mapOption f (g x) = some (h x)) :
    mapOptionItems f (items.map g) = some (items.map h) := by
  induction items with
  | nil => rfl
  | cons x xs ih =>
    have ih := ih fun y hy => hfg y (List.mem_cons_of_mem _ hy)
    simp [mapOptionItems, hfg x (by simp), ih]

theorem mapOptionFields_map {f : μ → Option ρ} {g : Json ν → Json μ} {h : Json ν → Json ρ}
    {fields : List (String × Json ν)} (hfg : ∀ p ∈ fields, mapOption f (g p.2) = some (h p.2)) :
    mapOptionFields f (fields.map fun p => (p.1, g p.2)) = some (fields.map fun p => (p.1, h p.2)) := by
  induction fields with
  | nil => rfl
  | cons p ps ih =>
    have ih := ih fun q hq => hfg q (List.mem_cons_of_mem _ hq)
    simp [mapOptionFields, hfg p (by simp), ih]

/-- `f` after `g` on every number. -/
theorem mapOption_map {f : μ → Option ρ} {g : ν → μ} {h : ν → ρ} {t : Json ν}
    (hfg : ∀ n ∈ numbers t, f (g n) = some (h n)) : mapOption f (map g t) = some (map h t) := by
  induction t with
  | null | bool | str => rfl
  | num n => simp [mapOption, map, hfg n (by simp [numbers])]
  | arr items ih =>
    have hitems := mapOptionItems_map fun x hx => ih x hx fun n hn => hfg n (by
      rw [numbers, mem_numbersItems]
      exact ⟨x, hx, hn⟩)
    rw [map, mapItems_eq, mapOption, hitems, map, mapItems_eq]
    rfl
  | obj fields ih =>
    have hfields := mapOptionFields_map fun p hp => ih p hp fun n hn => hfg n (by
      rw [numbers, mem_numbersFields]
      exact ⟨p, hp, hn⟩)
    rw [map, mapFields_eq, mapOption, hfields, map, mapFields_eq]
    rfl

theorem map_id (t : Json ν) : map (fun n => n) t = t := by
  induction t with
  | null | bool | num | str => rfl
  | arr items ih =>
    rw [map, mapItems_eq, List.map_congr_left ih, List.map_id']
  | obj fields ih =>
    rw [map, mapFields_eq, List.map_congr_left fun p hp => by rw [ih p hp], List.map_id']

theorem mem_numbers_map {f : ν → μ} {n : μ} (t : Json ν) : n ∈ numbers (map f t) ↔ ∃ m ∈ numbers t, f m = n := by
  induction t with
  | null | bool | str => simp [map, numbers]
  | num m => simp [map, numbers, eq_comm]
  | arr items ih =>
    simp only [map, numbers, mapItems_eq, mem_numbersItems, List.mem_map, exists_exists_and_eq_and]
    constructor
    · rintro ⟨x, hx, hn⟩
      obtain ⟨m, hm, hfm⟩ := (ih x hx).mp hn
      exact ⟨m, ⟨x, hx, hm⟩, hfm⟩
    · rintro ⟨m, ⟨x, hx, hm⟩, hfm⟩
      exact ⟨x, hx, (ih x hx).mpr ⟨m, hm, hfm⟩⟩
  | obj fields ih =>
    simp only [map, numbers, mapFields_eq, mem_numbersFields, List.mem_map, exists_exists_and_eq_and]
    constructor
    · rintro ⟨p, hp, hn⟩
      obtain ⟨m, hm, hfm⟩ := (ih p hp).mp hn
      exact ⟨m, ⟨p, hp, hm⟩, hfm⟩
    · rintro ⟨m, ⟨p, hp, hm⟩, hfm⟩
      exact ⟨p, hp, (ih p hp).mpr ⟨m, hm, hfm⟩⟩

mutual

/-- No object of the tree has two fields of one key. -/
def UniqueKeys : Json ν → Prop
  | arr items => UniqueKeysItems items
  | obj fields => (fields.map Prod.fst).Nodup ∧ UniqueKeysFields fields
  | _ => True

def UniqueKeysItems : List (Json ν) → Prop
  | [] => True
  | x :: xs => UniqueKeys x ∧ UniqueKeysItems xs

def UniqueKeysFields : List (String × Json ν) → Prop
  | [] => True
  | (_, x) :: ps => UniqueKeys x ∧ UniqueKeysFields ps

end

theorem uniqueKeysItems_iff {items : List (Json ν)} : UniqueKeysItems items ↔ ∀ x ∈ items, UniqueKeys x := by
  induction items with
  | nil => simp [UniqueKeysItems]
  | cons x xs ih => simp [UniqueKeysItems, ih]

theorem uniqueKeysFields_iff {fields : List (String × Json ν)} :
    UniqueKeysFields fields ↔ ∀ p ∈ fields, UniqueKeys p.2 := by
  induction fields with
  | nil => simp [UniqueKeysFields]
  | cons p ps ih => simp [UniqueKeysFields, ih]

theorem uniqueKeys_arr {items : List (Json ν)} : UniqueKeys (arr items) ↔ ∀ x ∈ items, UniqueKeys x := by
  rw [UniqueKeys, uniqueKeysItems_iff]

theorem uniqueKeys_obj {fields : List (String × Json ν)} :
    UniqueKeys (obj fields) ↔ (fields.map Prod.fst).Nodup ∧ ∀ p ∈ fields, UniqueKeys p.2 := by
  rw [UniqueKeys, uniqueKeysFields_iff]

mutual

/-- A property of all strings of a tree, keys included. -/
def everyString (p : String → Bool) : Json ν → Bool
  | str s => p s
  | arr items => everyStringItems p items
  | obj fields => everyStringFields p fields
  | _ => true

def everyStringItems (p : String → Bool) : List (Json ν) → Bool
  | [] => true
  | x :: xs => everyString p x && everyStringItems p xs

def everyStringFields (p : String → Bool) : List (String × Json ν) → Bool
  | [] => true
  | (k, x) :: ps => p k && everyString p x && everyStringFields p ps

end

theorem everyStringItems_iff {p : String → Bool} {items : List (Json ν)} :
    everyStringItems p items ↔ ∀ x ∈ items, everyString p x := by
  induction items with
  | nil => simp [everyStringItems]
  | cons x xs ih => simp [everyStringItems, ih]

theorem everyStringFields_iff {p : String → Bool} {fields : List (String × Json ν)} :
    everyStringFields p fields ↔ ∀ q ∈ fields, p q.1 ∧ everyString p q.2 := by
  induction fields with
  | nil => simp [everyStringFields]
  | cons q qs ih => simp [everyStringFields, ih]

section KeyOrder

variable (le : String → String → Prop) [DecidableRel le]

mutual

/-- The tree with the fields of every object sorted by key. -/
def orderKeys : Json ν → Json ν
  | arr items => arr (orderKeysItems items)
  | obj fields => obj ((orderKeysFields fields).insertionSort fun p q => le p.1 q.1)
  | t => t

def orderKeysItems : List (Json ν) → List (Json ν)
  | [] => []
  | x :: xs => orderKeys x :: orderKeysItems xs

def orderKeysFields : List (String × Json ν) → List (String × Json ν)
  | [] => []
  | (k, x) :: ps => (k, orderKeys x) :: orderKeysFields ps

end

theorem orderKeysItems_eq (items : List (Json ν)) : orderKeysItems le items = items.map (orderKeys le) := by
  induction items with
  | nil => rfl
  | cons x xs ih => simp [orderKeysItems, ih]

theorem orderKeysFields_eq (fields : List (String × Json ν)) :
    orderKeysFields le fields = fields.map fun p => (p.1, orderKeys le p.2) := by
  induction fields with
  | nil => rfl
  | cons p ps ih => simp [orderKeysFields, ih]

end KeyOrder

section LinearKeyOrder

variable {le : String → String → Prop} [DecidableRel le] [Std.Total le] [IsTrans String le] [Std.Antisymm le]

/-- Lists of the same fields, their keys unique, have one sorted order. -/
theorem insertionSort_perm {ps qs : List (String × Json ν)} (h : ps.Perm qs) (hn : (ps.map Prod.fst).Nodup) :
    ps.insertionSort (fun p q => le p.1 q.1) = qs.insertionSort fun p q => le p.1 q.1 := by
  have : Std.Total fun p q : String × Json ν => le p.1 q.1 := ⟨fun p q => Std.Total.total p.1 q.1⟩
  have : IsTrans (String × Json ν) fun p q => le p.1 q.1 := ⟨fun p q r => IsTrans.trans p.1 q.1 r.1⟩
  have hperm := ((List.perm_insertionSort (fun p q => le p.1 q.1) ps).trans h).trans
    (List.perm_insertionSort (fun p q => le p.1 q.1) qs).symm
  apply hperm.eq_of_pairwise _ (List.pairwise_insertionSort _ _) (List.pairwise_insertionSort _ _)
  intro p q hp hq hpq hqp
  have hp := (List.perm_insertionSort _ ps).mem_iff.mp hp
  have hq := h.mem_iff.mpr ((List.perm_insertionSort _ qs).mem_iff.mp hq)
  exact List.inj_on_of_nodup_map hn hp hq (Std.Antisymm.antisymm _ _ hpq hqp)

/-- Sorting by a linear order of the keys forgets any earlier order. -/
theorem orderKeys_orderKeys (le' : String → String → Prop) [DecidableRel le'] {t : Json ν} (h : UniqueKeys t) :
    orderKeys le (orderKeys le' t) = orderKeys le t := by
  induction t with
  | null | bool | num | str => rfl
  | arr items ih =>
    rw [uniqueKeys_arr] at h
    simpa [orderKeys, orderKeysItems_eq] using fun x hx => ih x hx (h x hx)
  | obj fields ih =>
    rw [uniqueKeys_obj] at h
    simp only [orderKeys, orderKeysFields_eq, obj.injEq]
    set g : String × Json ν → String × Json ν := fun p => (p.1, orderKeys le p.2)
    have hperm := ((List.perm_insertionSort (fun p q : String × Json ν => le' p.1 q.1)
      (fields.map fun p => (p.1, orderKeys le' p.2))).map g)
    have hmap : (fields.map fun p => (p.1, orderKeys le' p.2)).map g = fields.map g := by
      simp only [List.map_map, List.map_inj_left, Function.comp, g]
      exact fun p hp => by rw [ih p hp (h.2 p hp)]
    rw [hmap] at hperm
    refine insertionSort_perm hperm ((hperm.map Prod.fst).nodup_iff.mpr ?_)
    simpa [g, List.map_map, Function.comp_def] using h.1

end LinearKeyOrder

section KeyOrder

variable (le : String → String → Prop) [DecidableRel le]

theorem orderKeys_map (f : ν → μ) (t : Json ν) : orderKeys le (map f t) = map f (orderKeys le t) := by
  induction t with
  | null | bool | num | str => rfl
  | arr items ih => simpa [orderKeys, orderKeysItems_eq, map, mapItems_eq] using ih
  | obj fields ih =>
    simp only [orderKeys, orderKeysFields_eq, map, mapFields_eq, obj.injEq]
    rw [List.map_insertionSort (fun p q : String × Json ν => le p.1 q.1)
      (fun p q : String × Json μ => le p.1 q.1) _ _ (by simp)]
    simp only [List.map_map]
    congr 1
    exact List.map_congr_left fun p hp => by simp [ih p hp]

theorem mem_numbers_orderKeys {n : ν} (t : Json ν) : n ∈ numbers (orderKeys le t) ↔ n ∈ numbers t := by
  induction t with
  | null | bool | num | str => rfl
  | arr items ih =>
    simp only [orderKeys, orderKeysItems_eq, numbers, mem_numbersItems, List.mem_map,
      exists_exists_and_eq_and]
    exact exists_congr fun x => and_congr_right fun hx => ih x hx
  | obj fields ih =>
    simp only [orderKeys, orderKeysFields_eq, numbers, mem_numbersFields,
      (List.perm_insertionSort _ _).mem_iff, List.mem_map, exists_exists_and_eq_and]
    exact exists_congr fun p => and_congr_right fun hp => ih p hp

theorem uniqueKeys_map (f : ν → μ) (t : Json ν) : UniqueKeys (map f t) ↔ UniqueKeys t := by
  induction t with
  | null | bool | num | str => rfl
  | arr items ih =>
    simp only [map, mapItems_eq, uniqueKeys_arr, List.forall_mem_map]
    exact forall₂_congr ih
  | obj fields ih =>
    simp only [map, mapFields_eq, uniqueKeys_obj, List.forall_mem_map, List.map_map, Function.comp_def]
    exact and_congr_right fun _ => forall₂_congr ih

theorem uniqueKeys_orderKeys (t : Json ν) : UniqueKeys (orderKeys le t) ↔ UniqueKeys t := by
  induction t with
  | null | bool | num | str => rfl
  | arr items ih =>
    simp only [orderKeys, orderKeysItems_eq, uniqueKeys_arr, List.forall_mem_map]
    exact forall₂_congr ih
  | obj fields ih =>
    simp only [orderKeys, orderKeysFields_eq, uniqueKeys_obj, (List.perm_insertionSort _ _).mem_iff,
      ((List.perm_insertionSort _ _).map Prod.fst).nodup_iff, List.forall_mem_map, List.map_map, Function.comp_def]
    exact and_congr_right fun _ => forall₂_congr ih

theorem everyString_map (p : String → Bool) (f : ν → μ) (t : Json ν) :
    everyString p (map f t) ↔ everyString p t := by
  induction t with
  | null | bool | num | str => rfl
  | arr items ih =>
    simp only [map, mapItems_eq, everyString, everyStringItems_iff, List.forall_mem_map]
    exact forall₂_congr ih
  | obj fields ih =>
    simp only [map, mapFields_eq, everyString, everyStringFields_iff, List.forall_mem_map]
    exact forall₂_congr fun q hq => and_congr_right fun _ => ih q hq

theorem everyString_orderKeys (p : String → Bool) (t : Json ν) :
    everyString p (orderKeys le t) ↔ everyString p t := by
  induction t with
  | null | bool | num | str => rfl
  | arr items ih =>
    simp only [orderKeys, orderKeysItems_eq, everyString, everyStringItems_iff, List.forall_mem_map]
    exact forall₂_congr ih
  | obj fields ih =>
    simp only [orderKeys, orderKeysFields_eq, everyString, everyStringFields_iff,
      (List.perm_insertionSort _ _).mem_iff, List.forall_mem_map]
    exact forall₂_congr fun q hq => and_congr_right fun _ => ih q hq

end KeyOrder

end Json
