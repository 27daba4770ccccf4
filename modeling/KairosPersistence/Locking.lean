import Mathlib.Logic.Function.Basic

/-!
Processes that hold exclusive locks: what a process holds is read off its
phase, and no lock is held by two processes.
-/

namespace Locking

variable {ι φ κ : Type*} {holds : φ → κ → Prop} {phases : ι → φ}

def Exclusive (holds : φ → κ → Prop) (phases : ι → φ) : Prop :=
  ∀ p q k, holds (phases p) k → holds (phases q) k → p = q

def Free (holds : φ → κ → Prop) (phases : ι → φ) (k : κ) : Prop := ∀ p, ¬holds (phases p) k

theorem Exclusive.of_free (h : ∀ p k, ¬holds (phases p) k) : Exclusive holds phases :=
  fun p _ k hp => absurd hp (h p k)

/-- What one process holds is free for no other. -/
theorem Exclusive.other (h : Exclusive holds phases) {p q : ι} {k : κ} (hp : holds (phases p) k) (hq : q ≠ p) :
    ¬holds (phases q) k :=
  fun hk => hq (h q p k hk hp)

variable [DecidableEq ι]

/-- A process moves to a phase in which it holds free locks, or ones it held before. -/
theorem Exclusive.update (h : Exclusive holds phases) {p : ι} {x : φ}
    (hx : ∀ k, holds x k → Free holds phases k ∨ holds (phases p) k) :
    Exclusive holds (Function.update phases p x) := by
  have hother (q : ι) (hqp : q ≠ p) (k : κ) (hk : holds (phases q) k) : ¬holds x k := by
    intro hxk
    rcases hx k hxk with hfree | hheld
    · exact hfree q hk
    · exact h.other hheld hqp hk
  intro q r k hq hr
  by_cases hqp : q = p <;> by_cases hrp : r = p
  · exact hqp.trans hrp.symm
  · rw [hqp, Function.update_self] at hq
    rw [Function.update_of_ne hrp] at hr
    exact absurd hq (hother r hrp k hr)
  · rw [hrp, Function.update_self] at hr
    rw [Function.update_of_ne hqp] at hq
    exact absurd hr (hother q hqp k hq)
  · rw [Function.update_of_ne hqp] at hq
    rw [Function.update_of_ne hrp] at hr
    exact h q r k hq hr

end Locking
