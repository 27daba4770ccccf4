import Mathlib.Logic.Relation
import Mathlib.Order.Lattice

/-!
Runs of a transition relation: what holds at the start and is kept by every
step holds in every reachable state.
-/

namespace Runs

open Relation

variable {σ : Type*}

/-- The states a run from an initial state passes through. -/
def Reachable (initial : σ → Prop) (step : σ → σ → Prop) (s : σ) : Prop :=
  ∃ s₀, initial s₀ ∧ ReflTransGen step s₀ s

variable {initial inv : σ → Prop} {step : σ → σ → Prop} {s t : σ}

theorem Reachable.start (h : initial s) : Reachable initial step s := ⟨s, h, .refl⟩

theorem Reachable.run (h : Reachable initial step s) (hst : ReflTransGen step s t) : Reachable initial step t :=
  let ⟨s₀, h₀, hs⟩ := h
  ⟨s₀, h₀, hs.trans hst⟩

theorem Reachable.next (h : Reachable initial step s) (hst : step s t) : Reachable initial step t :=
  h.run (.single hst)

theorem run_invariant (hstep : ∀ s t, inv s → step s t → inv t) (hst : ReflTransGen step s t) (h : inv s) :
    inv t := by
  induction hst with
  | refl => exact h
  | tail _ hbc ih => exact hstep _ _ ih hbc

theorem Reachable.invariant (h : Reachable initial step s) (hinit : ∀ s, initial s → inv s)
    (hstep : ∀ s t, inv s → step s t → inv t) : inv s :=
  let ⟨s₀, h₀, hs⟩ := h
  run_invariant hstep hs (hinit s₀ h₀)

/-- What every step from a state with the invariant relates is related along the whole run,
when the relation is reflexive and transitive. -/
theorem run_related {rel : σ → σ → Prop} (hrefl : ∀ s, rel s s) (htrans : ∀ s t u, rel s t → rel t u → rel s u)
    (hinv : ∀ s t, inv s → step s t → inv t) (hrel : ∀ s t, inv s → step s t → rel s t)
    (hst : ReflTransGen step s t) (h : inv s) : rel s t := by
  induction hst with
  | refl => exact hrefl s
  | tail hab hbc ih => exact htrans _ _ _ ih (hrel _ _ (run_invariant hinv hab h) hbc)

/-- A quantity that every step lowers or leaves below a bound stays below the bound or its start. -/
theorem run_capped {meter : σ → ℕ} {bound : ℕ} (hinv : ∀ s t, inv s → step s t → inv t)
    (hcap : ∀ s t, inv s → step s t → meter t ≤ meter s ∨ meter t ≤ bound) (hst : ReflTransGen step s t)
    (h : inv s) : meter t ≤ max (meter s) bound := by
  induction hst with
  | refl => exact le_max_left _ _
  | tail hab hbc ih =>
    rcases hcap _ _ (run_invariant hinv hab h) hbc with hle | hle
    · exact hle.trans ih
    · exact hle.trans (le_max_right _ _)

end Runs
