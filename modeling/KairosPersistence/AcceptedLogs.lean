import Mathlib.Data.List.Infix
import Mathlib.Data.List.Nodup

/-!
Append-only logs, the newest entry first: each entry was accepted after the
older ones.
-/

namespace AcceptedLogs

variable {α β : Type*} {accepts : List α → α → Prop} {log older : List α} {a b : α} {key : α → β}

/-- Every entry was accepted after the older ones. -/
def Accepted (accepts : List α → α → Prop) (log : List α) : Prop := ∀ a older, (a :: older) <:+ log → accepts older a

theorem Accepted.nil : Accepted accepts [] := fun _ _ h => absurd (List.suffix_nil.mp h) (List.cons_ne_nil _ _)

theorem accepted_cons : Accepted accepts (a :: log) ↔ accepts log a ∧ Accepted accepts log := by
  constructor
  · intro h
    exact ⟨h a log (List.suffix_refl _), fun b older hb => h b older (hb.trans (List.suffix_cons _ _))⟩
  · rintro ⟨ha, h⟩ b older hb
    rcases List.suffix_cons_iff.mp hb with heq | hb
    · obtain ⟨rfl, rfl⟩ := List.cons.inj heq
      exact ha
    · exact h b older hb

theorem Accepted.suffix (h : Accepted accepts log) (hs : older <:+ log) : Accepted accepts older :=
  fun a rest ha => h a rest (ha.trans hs)

theorem exists_older (ha : a ∈ log) : ∃ older, (a :: older) <:+ log := by
  obtain ⟨newer, older, rfl⟩ := List.append_of_mem ha
  exact ⟨older, List.suffix_append _ _⟩

theorem Accepted.exists_older (h : Accepted accepts log) (ha : a ∈ log) :
    ∃ older, (a :: older) <:+ log ∧ accepts older a := by
  obtain ⟨older, hs⟩ := AcceptedLogs.exists_older ha
  exact ⟨older, hs, h a older hs⟩

/-- Of two entries one is the older. -/
theorem older_cases (ha : a ∈ log) (hb : b ∈ log) :
    a = b ∨ (∃ older, (a :: older) <:+ log ∧ b ∈ older) ∨ ∃ older, (b :: older) <:+ log ∧ a ∈ older := by
  induction log with
  | nil => exact absurd ha List.not_mem_nil
  | cons c log ih =>
    rcases List.mem_cons.mp ha with rfl | ha'
    · rcases List.mem_cons.mp hb with rfl | hb'
      · exact Or.inl rfl
      · exact Or.inr (Or.inl ⟨log, List.suffix_refl _, hb'⟩)
    · rcases List.mem_cons.mp hb with rfl | hb'
      · exact Or.inr (Or.inr ⟨log, List.suffix_refl _, ha'⟩)
      · rcases ih ha' hb' with heq | ⟨older, hs, hmem⟩ | ⟨older, hs, hmem⟩
        · exact Or.inl heq
        · exact Or.inr (Or.inl ⟨older, hs.trans (List.suffix_cons _ _), hmem⟩)
        · exact Or.inr (Or.inr ⟨older, hs.trans (List.suffix_cons _ _), hmem⟩)

/-- A key that each entry has as the first is unique. -/
theorem Accepted.nodup_key (h : Accepted accepts log) (hfresh : ∀ older a, accepts older a → ∀ b ∈ older, key b ≠ key a) :
    (log.map key).Nodup := by
  induction log with
  | nil => exact List.nodup_nil
  | cons a log ih =>
    obtain ⟨ha, h⟩ := accepted_cons.mp h
    rw [List.map_cons, List.nodup_cons]
    refine ⟨fun hmem => ?_, ih h⟩
    obtain ⟨b, hb, heq⟩ := List.mem_map.mp hmem
    exact hfresh log a ha b hb heq

end AcceptedLogs
