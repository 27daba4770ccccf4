import Mathlib.Order.Lattice
import Mathlib.Order.Nat

/-!
Computations that enter frames of a stack: on a stack with so many frames left,
and measured on a stack without end.
-/

namespace FrameDepth

/-- Computations that raise an `ε` and that enter frames. -/
class Framed (ε : outParam Type) (m : Type → Type) extends Monad m where
  raise {α : Type} : ε → m α
  enter {α : Type} : ℕ → m α → m α

export Framed (raise enter)

/-- What ends a computation early: an error of its own, or a stack without frames. -/
inductive Stop (ε : Type) where
  | raised (e : ε)
  | overflow
  deriving DecidableEq

/-- A computation on a stack with so many frames left. -/
def Bounded (ε α : Type) : Type := ℕ → Except (Stop ε) α

/-- The outcome on a stack without end, and the most frames that it has been in at once. -/
structure Measured (ε α : Type) where
  frames : ℕ
  outcome : Except ε α

variable {ε α β : Type}

instance : Framed ε (Bounded ε) where
  pure a := fun _ => .ok a
  bind x f := fun left =>
    match x left with
    | .ok a => f a left
    | .error stop => .error stop
  raise e := fun _ => .error (.raised e)
  enter k x := fun left => if k ≤ left then x (left - k) else .error .overflow

instance : Framed ε (Measured ε) where
  pure a := ⟨0, .ok a⟩
  bind x f :=
    match x.outcome with
    | .ok a => ⟨max x.frames (f a).frames, (f a).outcome⟩
    | .error e => ⟨x.frames, .error e⟩
  raise e := ⟨0, .error e⟩
  enter k x := ⟨k + x.frames, x.outcome⟩

/-- The value of an option, or the error. -/
def orRaise {m : Type → Type} [Framed ε m] (e : ε) : Option α → m α
  | some a => pure a
  | none => raise e

section Agreement

/-- What a measured computation does with so many frames left. -/
def Measured.within (y : Measured ε α) (left : ℕ) : Except (Stop ε) α :=
  if y.frames ≤ left then y.outcome.mapError .raised else .error .overflow

end Agreement

section Outcomes

/-- The computation ends with a value of the one kind or with an error of the other. -/
def Measured.Ends (y : Measured ε α) (P : α → Prop) (Q : ε → Prop) : Prop :=
  (∀ a, y.outcome = .ok a → P a) ∧ ∀ e, y.outcome = .error e → Q e

variable {P : α → Prop} {Q : ε → Prop}

end Outcomes

end FrameDepth
