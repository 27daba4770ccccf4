import Mathlib.Algebra.Order.Group.Defs
import Mathlib.Algebra.Order.Sub.Basic
import Mathlib.Data.List.Basic
import Mathlib.Order.Interval.Set.Defs

/-!
Events that are admitted only while a limit of recent ones is not reached, and
how many of them any window of that length can hold.
-/

namespace SlidingWindow

variable {α T : Type*} [AddCommGroup T] [LinearOrder T] (time : α → T) (window : T)

/-- The number of events less than a window before `now`, or after it. -/
def recent (now : T) (events : List α) : ℕ := events.countP fun e => decide (now - window < time e)

/-- When an event came, the last one being the first of the list, fewer than its limit were recent. -/
inductive Paced (limit : α → ℕ) : List α → Prop
  | nil : Paced limit []
  | cons {e : α} {events : List α} (h : recent time window (time e) events < limit e) (hs : Paced limit events) :
    Paced limit (e :: events)

/-- No two times of the set are a window apart. -/
def Within (times : Set T) : Prop := ∀ x ∈ times, ∀ y ∈ times, x - window < y

variable {time window} {limit : α → ℕ}

theorem recent_mono [IsOrderedAddMonoid T] {now later : T} (h : now ≤ later) (events : List α) :
    recent time window later events ≤ recent time window now events := by
  refine List.countP_mono_left fun e _ he => ?_
  rw [decide_eq_true_eq] at he ⊢
  exact (sub_le_sub_right h window).trans_lt he

end SlidingWindow
