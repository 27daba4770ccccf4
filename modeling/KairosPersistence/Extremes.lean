import Mathlib.Data.List.MinMax

/-!
The elements of a list at which a key is least; by the dual order, those at
which it is greatest.
-/

namespace Extremes

variable {α β : Type*} [LinearOrder β] {f : α → β} {l : List α} {a x y : α}

def LeastBy (f : α → β) (l : List α) (x : α) : Prop := x ∈ l ∧ ∀ y ∈ l, f x ≤ f y

def GreatestBy (f : α → β) (l : List α) (x : α) : Prop := LeastBy (fun y => OrderDual.toDual (f y)) l x

theorem leastBy_single (f : α → β) (x : α) : LeastBy f [x] x := ⟨List.mem_singleton_self x, by simp⟩

theorem LeastBy.cons_of_lt (h : LeastBy f l x) (ha : f a < f x) : LeastBy f (a :: l) a := by
  constructor
  · exact List.mem_cons_self
  · intro y hy
    rcases List.mem_cons.mp hy with rfl | hy
    · exact le_refl _
    · exact ha.le.trans (h.2 y hy)

theorem LeastBy.cons_of_le (h : LeastBy f l x) (ha : f x ≤ f a) : LeastBy f (a :: l) x := by
  constructor
  · exact List.mem_cons_of_mem a h.1
  · intro y hy
    rcases List.mem_cons.mp hy with rfl | hy
    · exact ha
    · exact h.2 y hy

theorem GreatestBy.cons_of_lt (h : GreatestBy f l x) (ha : f x < f a) : GreatestBy f (a :: l) a :=
  LeastBy.cons_of_lt h ha

theorem GreatestBy.cons_of_le (h : GreatestBy f l x) (ha : f a ≤ f x) : GreatestBy f (a :: l) x :=
  LeastBy.cons_of_le h ha

theorem LeastBy.perm {l' : List α} (h : LeastBy f l x) (hperm : l.Perm l') : LeastBy f l' x :=
  ⟨hperm.mem_iff.mp h.1, fun y hy => h.2 y (hperm.mem_iff.mpr hy)⟩

theorem LeastBy.eq (hx : LeastBy f l x) (hy : LeastBy f l y) : f x = f y :=
  le_antisymm (hx.2 y hy.1) (hy.2 x hx.1)

theorem GreatestBy.eq (hx : GreatestBy f l x) (hy : GreatestBy f l y) : f x = f y :=
  le_antisymm (hy.2 x hx.1) (hx.2 y hy.1)

theorem exists_leastBy (f : α → β) (h : l ≠ []) : ∃ x, LeastBy f l x := by
  cases hx : l.argmin f with
  | none => exact absurd (List.argmin_eq_none.mp hx) h
  | some x => exact ⟨x, List.argmin_mem hx, fun y hy => List.le_of_mem_argmin hy hx⟩

theorem exists_greatestBy (f : α → β) (h : l ≠ []) : ∃ x, GreatestBy f l x :=
  @exists_leastBy α βᵒᵈ _ l _ h

end Extremes
