import Mathlib.Logic.Function.Basic
import Mathlib.Logic.Relation

/-!
A register that processes read in one step and write in a later one, from what
they have read. Writes on what is still there are serial.
-/

namespace ReadModifyWrite

open Relation

variable {ι α : Type*}

/-- The register, what each process has read last, and who has written, the last one first. -/
structure Register (ι α : Type*) where
  value : α
  readings : ι → Option α
  written : List ι

variable [DecidableEq ι]

def Register.read (s : Register ι α) (i : ι) : Register ι α :=
  { s with readings := Function.update s.readings i (some s.value) }

def Register.write (s : Register ι α) (i : ι) (w : α) : Register ι α :=
  { s with value := w, written := i :: s.written }

/-- `update i v w` when `i` writes `w` after it has read `v`. -/
inductive Step (update : ι → α → α → Prop) (allowed : Register ι α → α → Prop) : Register ι α → Register ι α → Prop
  | read {s} (i : ι) : Step update allowed s (s.read i)
  | write {s} (i : ι) (v w : α) (hread : s.readings i = some v) (hupdate : update i v w) (hallowed : allowed s v) :
    Step update allowed s (s.write i w)

/-- What was read is still there. -/
def Current (s : Register ι α) (v : α) : Prop := s.value = v

omit [DecidableEq ι] in
/-- The processes have written one after the other, the last one first. -/
inductive Serial (update : ι → α → α → Prop) : List ι → α → α → Prop
  | nil {v} : Serial update [] v v
  | cons {order u v w} (i : ι) (h : Serial update order u v) (hupdate : update i v w) : Serial update (i :: order) u w

variable {update : ι → α → α → Prop} {s t : Register ι α} {u : α}

theorem Step.serial (hstep : Step update Current s t) (h : Serial update s.written u s.value) :
    Serial update t.written u t.value := by
  cases hstep with
  | read i => exact h
  | write i v w _ hupdate hcurrent =>
    have hcurrent : s.value = v := hcurrent
    apply Serial.cons i h
    rwa [hcurrent]

/-- When every write is on what is still there, the processes have written one after the other. -/
theorem run_serial (hrun : ReflTransGen (Step update Current) s t) (hs : s.written = []) :
    Serial update t.written s.value t.value := by
  induction hrun with
  | refl =>
    rw [hs]
    exact .nil
  | tail _ hstep ih => exact hstep.serial ih

omit [DecidableEq ι] in
/-- The order of two updates determines the value when each update does. -/
theorem Serial.two {i j : ι} {w : α} (h : Serial update [i, j] u w) : ∃ v, update j u v ∧ update i v w := by
  cases h with
  | cons _ h hi =>
    cases h with
    | cons _ h hj =>
      cases h with
      | nil => exact ⟨_, hj, hi⟩

end ReadModifyWrite
