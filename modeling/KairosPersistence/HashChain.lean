import Mathlib.Data.List.Basic

/-!
Lists whose entries are hashed together with the hash of the entry before, the
last entry first.
-/

namespace HashChain

variable {α η : Type*} (link : Option η → α → η) (hash : α → η)

/-- The head of the chain, recomputed from the entries alone. -/
def recompute : List α → Option η
  | [] => none
  | a :: earlier => some (link (recompute earlier) a)

/-- Every entry has the hash of itself and of the stored hash before it. -/
def Linked : List α → Prop
  | [] => True
  | a :: earlier => hash a = link (earlier.head?.map hash) a ∧ Linked earlier

variable {link hash}

theorem Linked.head (l : List α) (h : Linked link hash l) : l.head?.map hash = recompute link l := by
  induction l with
  | nil => rfl
  | cons a earlier ih => rw [List.head?_cons, Option.map_some, h.1, ih h.2, recompute]

section Tampering

variable {κ ρ β : Type*} (encode : Option η → κ → β) (digest : β → η) (content : α → κ) (before : α → Option η) (stored : α → η)

/-- Each entry is stored with the digest of its content and of the digest before it. -/
def Verified : List α → Prop
  | [] => True
  | a :: earlier => before a = earlier.head?.map stored ∧ stored a = digest (encode (before a) (content a)) ∧
      Verified earlier

/-- Two different texts that were hashed have one digest. -/
def Collision (l l' : List α) : Prop :=
  ∃ a ∈ l, ∃ b ∈ l', encode (before a) (content a) ≠ encode (before b) (content b) ∧
    digest (encode (before a) (content a)) = digest (encode (before b) (content b))

variable {encode digest content before stored} {canon : κ → ρ} {l l' : List α}

theorem Collision.cons (a b : α) (h : Collision encode digest content before l l') :
    Collision encode digest content before (a :: l) (b :: l') := by
  obtain ⟨x, hx, y, hy, h⟩ := h
  exact ⟨x, List.mem_cons_of_mem a hx, y, List.mem_cons_of_mem b hy, h⟩

/-- Two verified chains with one head have the same entries, as far as the text of an entry shows
them, or show a collision. -/
theorem Verified.eq_or_collision
    (hencode : ∀ a ∈ l, ∀ b ∈ l', encode (before a) (content a) = encode (before b) (content b) →
      before a = before b ∧ canon (content a) = canon (content b))
    (h : Verified encode digest content before stored l) (h' : Verified encode digest content before stored l')
    (hhead : l.head?.map stored = l'.head?.map stored) :
    (l.map fun a => (before a, canon (content a), stored a)) = (l'.map fun a => (before a, canon (content a), stored a)) ∨
      Collision encode digest content before l l' := by
  induction l generalizing l' with
  | nil =>
    cases l' with
    | nil => exact Or.inl rfl
    | cons b l' => simp at hhead
  | cons a l ih =>
    cases l' with
    | nil => simp at hhead
    | cons b l' =>
      have hstored : stored a = stored b := by simpa using hhead
      have hdigest : digest (encode (before a) (content a)) = digest (encode (before b) (content b)) := by
        rw [← h.2.1, ← h'.2.1, hstored]
      by_cases htext : encode (before a) (content a) = encode (before b) (content b)
      · have hsame := hencode a List.mem_cons_self b List.mem_cons_self htext
        have hbefore : l.head?.map stored = l'.head?.map stored := by rw [← h.1, ← h'.1, hsame.1]
        have hearlier := fun x hx y hy => hencode x (List.mem_cons_of_mem a hx) y (List.mem_cons_of_mem b hy)
        rcases ih hearlier h.2.2 h'.2.2 hbefore with heq | hcollision
        · apply Or.inl
          rw [List.map_cons, List.map_cons, heq, hsame.1, hsame.2, hstored]
        · exact Or.inr (hcollision.cons a b)
      · exact Or.inr ⟨a, List.mem_cons_self, b, List.mem_cons_self, htext, hdigest⟩

end Tampering

end HashChain
