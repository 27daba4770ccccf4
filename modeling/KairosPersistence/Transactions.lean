import Mathlib.Logic.Basic

/-!
Transactions: computations that may raise, and that leave the state as it was
when they do.
-/

namespace Transactions

variable {ε δ α β : Type*}

theorem bind_ok {ε α β : Type _} {x : Except ε α} {f : α → Except ε β} {b : β} (h : x >>= f = .ok b) :
    ∃ a, x = .ok a ∧ f a = .ok b := by
  cases x with
  | error e => cases h
  | ok a => exact ⟨a, rfl, h⟩

theorem bind_error {ε α β : Type _} {x : Except ε α} {f : α → Except ε β} {e : ε} (h : x >>= f = .error e) :
    x = .error e ∨ ∃ a, x = .ok a ∧ f a = .error e := by
  cases x with
  | error e' => exact Or.inl (congrArg Except.error (Except.error.inj h))
  | ok a => exact Or.inr ⟨a, rfl, h⟩

/-- Raises unless the condition holds. -/
def require (p : Prop) [Decidable p] (e : ε) : Except ε Unit := if p then .ok () else .error e

theorem require_ok {p : Prop} [Decidable p] {e : ε} {u : Unit} (h : require p e = .ok u) : p := by
  unfold require at h
  split at h
  · assumption
  · cases h

@[simp] theorem require_pos {p : Prop} [Decidable p] {e : ε} (h : p) : require p e = .ok () := if_pos h

@[simp] theorem require_neg {p : Prop} [Decidable p] {e : ε} (h : ¬p) : require p e = .error e := if_neg h

/-- Raises when a query finds no row. -/
def found (row : Option α) (e : ε) : Except ε α := row.elim (.error e) .ok

@[simp] theorem found_some {a : α} {e : ε} : found (some a) e = .ok a := rfl

@[simp] theorem found_none {e : ε} : found (none : Option α) e = .error e := rfl

theorem found_ok {row : Option α} {e : ε} {a : α} (h : found row e = .ok a) : row = some a := by
  cases row with
  | none => cases h
  | some b => exact congrArg some (Except.ok.inj h)

@[simp] theorem ok_bind {ε α β : Type _} {a : α} {f : α → Except ε β} : (.ok a : Except ε α) >>= f = f a := rfl

@[simp] theorem error_bind {ε α β : Type _} {e : ε} {f : α → Except ε β} : (.error e : Except ε α) >>= f = .error e := rfl

/-- A loop over what can all be read has all of it. -/
theorem mapM_ok {ε α β : Type _} {f : α → Except ε β} {l : List α} (h : ∀ a ∈ l, ∃ b, f a = .ok b) :
    ∃ bs, l.mapM f = .ok bs ∧ ∀ a ∈ l, ∀ b, f a = .ok b → b ∈ bs := by
  induction l with
  | nil => exact ⟨[], rfl, by simp⟩
  | cons a l ih =>
    obtain ⟨⟨b, hb⟩, hl⟩ := List.forall_mem_cons.mp h
    obtain ⟨bs, hbs, hmem⟩ := ih hl
    refine ⟨b :: bs, ?_, List.forall_mem_cons.mpr ⟨?_, fun a' ha' b' hb' => List.mem_cons_of_mem _ (hmem a' ha' b' hb')⟩⟩
    · rw [List.mapM_cons, hb, ok_bind, hbs]
      rfl
    · intro b' hb'
      rw [Except.ok.inj (hb'.symm.trans hb)]
      exact List.mem_cons_self

/-- What a loop has read is what it reads of one of its items. -/
theorem mem_mapM {ε α β : Type _} {f : α → Except ε β} {l : List α} {bs : List β} (h : l.mapM f = .ok bs) :
    ∀ b ∈ bs, ∃ a ∈ l, f a = .ok b := by
  induction l generalizing bs with
  | nil =>
    obtain rfl := Except.ok.inj h
    simp
  | cons a l ih =>
    rw [List.mapM_cons] at h
    obtain ⟨b, hb, h⟩ := bind_ok h
    obtain ⟨bs', hbs, h⟩ := bind_ok h
    obtain rfl := Except.ok.inj h
    intro c hc
    rcases List.mem_cons.mp hc with rfl | hc
    · exact ⟨a, List.mem_cons_self, hb⟩
    · obtain ⟨a', ha', hc⟩ := ih hbs c hc
      exact ⟨a', List.mem_cons_of_mem a ha', hc⟩

/-- A loop reads what another one has read when each of its readings does. -/
theorem mapM_mono {ε α β : Type _} {f g : α → Except ε β} {l : List α} {bs : List β}
    (hfg : ∀ a ∈ l, ∀ b, f a = .ok b → g a = .ok b) (h : l.mapM f = .ok bs) : l.mapM g = .ok bs := by
  induction l generalizing bs with
  | nil => exact h
  | cons a l ih =>
    rw [List.mapM_cons] at h
    obtain ⟨b, hb, h⟩ := bind_ok h
    obtain ⟨bs', hbs, h⟩ := bind_ok h
    have hl := ih (fun a' ha' => hfg a' (List.mem_cons_of_mem _ ha')) hbs
    rw [List.mapM_cons, hfg a List.mem_cons_self b hb, ok_bind, hl, ok_bind]
    exact h

/-- A fold comes to what another one comes to when each of its steps does. -/
theorem foldlM_mono {ε α β : Type _} {f g : β → α → Except ε β} {l : List α} {b c : β}
    (hfg : ∀ a ∈ l, ∀ b c, f b a = .ok c → g b a = .ok c) (h : l.foldlM f b = .ok c) : l.foldlM g b = .ok c := by
  induction l generalizing b with
  | nil => exact h
  | cons a l ih =>
    rw [List.foldlM_cons] at h
    obtain ⟨b', hb, h⟩ := bind_ok h
    rw [List.foldlM_cons, hfg a List.mem_cons_self b b' hb, ok_bind]
    exact ih (fun a' ha' => hfg a' (List.mem_cons_of_mem _ ha')) h

/-- A loop of checks that has passed has passed each of them. -/
theorem forM_ok {ε α : Type _} {f : α → Except ε PUnit} {l : List α} (h : l.forM f = .ok ⟨⟩) : ∀ a ∈ l, f a = .ok ⟨⟩ := by
  induction l with
  | nil => simp
  | cons a l ih =>
    obtain ⟨_, ha, hl⟩ := bind_ok h
    exact List.forall_mem_cons.mpr ⟨ha, ih hl⟩

theorem forM_of_ok {ε α : Type _} {f : α → Except ε PUnit} {l : List α} (h : ∀ a ∈ l, f a = .ok ⟨⟩) :
    l.forM f = .ok ⟨⟩ := by
  induction l with
  | nil => rfl
  | cons a l ih =>
    obtain ⟨ha, hl⟩ := List.forall_mem_cons.mp h
    change (f a >>= fun _ => l.forM f) = _
    rw [ha]
    exact ih hl

/-- Commits what the body leaves, or rolls back. -/
def run (body : δ → Except ε (δ × α)) (s : δ) : δ × Except ε α :=
  match body s with
  | .ok (t, a) => (t, .ok a)
  | .error e => (s, .error e)

variable {body : δ → Except ε (δ × α)} {s t : δ}

theorem run_ok {a : α} (h : body s = .ok (t, a)) : run body s = (t, .ok a) := by
  rw [run, h]

theorem run_error {e : ε} (h : (run body s).2 = .error e) : (run body s).1 = s := by
  unfold run at h ⊢
  split at h
  · cases h
  · rfl

theorem run_eq_ok {a : α} (h : run body s = (t, .ok a)) : body s = .ok (t, a) := by
  unfold run at h
  split at h
  · rename_i t' a' hbody
    obtain ⟨rfl, ha⟩ := Prod.mk.inj h
    rw [hbody, Except.ok.inj ha]
  · cases (Prod.mk.inj h).2

theorem eq_ok_of_run {a : α} (h : (run body s).2 = .ok a) : body s = .ok ((run body s).1, a) :=
  run_eq_ok (Prod.ext rfl h)

/-- A transaction ends in the state it began in, or in one its body leaves. -/
theorem run_cases (body : δ → Except ε (δ × α)) (s : δ) :
    (run body s).1 = s ∨ ∃ a, body s = .ok ((run body s).1, a) := by
  unfold run
  split
  · rename_i t a hbody
    exact Or.inr ⟨a, hbody⟩
  · exact Or.inl rfl

/-- What holds at the start and of every state that the body leaves holds after the transaction. -/
theorem run_spec {p : δ → Prop} (hs : p s) (h : ∀ t a, body s = .ok (t, a) → p t) : p (run body s).1 := by
  rcases run_cases body s with hrun | ⟨a, hbody⟩
  · rw [hrun]
    exact hs
  · exact h _ a hbody

end Transactions
