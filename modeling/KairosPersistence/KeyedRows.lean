import Mathlib.Algebra.GroupWithZero.Nat
import Mathlib.Data.List.Find
import Mathlib.Data.List.MinMax
import Mathlib.Data.List.Nodup
import Mathlib.Data.List.Sort

/-!
Lists of rows with a unique key: reading one by its key, inserting, updating,
and reading all in the order of a key.
-/

namespace KeyedRows

variable {α β : Type*} {key : α → β} {l : List α} {a b : α} {k : β}

section Reading

variable [DecidableEq β]

theorem find?_mem (h : l.find? (fun a => key a = k) = some a) : a ∈ l ∧ key a = k :=
  ⟨List.mem_of_find?_eq_some h, by simpa using List.find?_some h⟩

/-- A unique key finds its row. -/
theorem find?_eq (hkeys : (l.map key).Nodup) (ha : a ∈ l) : l.find? (fun b => key b = key a) = some a := by
  cases h : l.find? (fun b => key b = key a) with
  | none =>
    have hnone := List.find?_eq_none.mp h a ha
    simp at hnone
  | some b =>
    obtain ⟨hb, hkey⟩ := find?_mem h
    rw [List.inj_on_of_nodup_map hkeys hb ha hkey]

/-- A unique key selects its row only. -/
theorem filter_eq_singleton (hkeys : (l.map key).Nodup) (ha : a ∈ l) : l.filter (fun b => key b = key a) = [a] := by
  induction l with
  | nil => exact absurd ha List.not_mem_nil
  | cons c l ih =>
    rw [List.map_cons, List.nodup_cons] at hkeys
    obtain ⟨hnew, hkeys⟩ := hkeys
    by_cases hkey : key c = key a
    · have hca : a = c := by
        rcases List.mem_cons.mp ha with heq | hmem
        · exact heq
        · exact absurd (hkey ▸ List.mem_map_of_mem hmem) hnew
      subst hca
      rw [List.filter_cons_of_pos (by simp), List.filter_eq_nil_iff.mpr]
      intro b hb
      simp only [decide_eq_true_eq]
      exact fun heq => hnew (heq ▸ List.mem_map_of_mem hb)
    · have hmem : a ∈ l := (List.mem_cons.mp ha).resolve_left fun heq => hkey (heq ▸ rfl)
      rw [List.filter_cons_of_neg (by simpa using hkey)]
      exact ih hkeys hmem

theorem find?_eq_none_iff : l.find? (fun a => key a = k) = none ↔ ∀ a ∈ l, key a ≠ k := by
  simp

end Reading

theorem nodup_cons (hkeys : (l.map key).Nodup) (hnew : ∀ b ∈ l, key b ≠ key a) : ((a :: l).map key).Nodup := by
  rw [List.map_cons, List.nodup_cons]
  refine ⟨fun hmem => ?_, hkeys⟩
  obtain ⟨b, hb, hkey⟩ := List.mem_map.mp hmem
  exact hnew b hb hkey

/-- An update keeps the keys. -/
theorem map_key_update {γ : Type*} {key : α → γ} {update : α → α} (h : ∀ a, key (update a) = key a) :
    (l.map update).map key = l.map key := by
  rw [List.map_map]
  exact List.map_congr_left fun a _ => h a

section Update

variable [DecidableEq β]

/-- The row of a key is replaced. -/
def replace (key : α → β) (a : α) (l : List α) : List α := l.map fun b => if key b = key a then a else b

theorem mem_replace (h : b ∈ replace key a l) : b = a ∨ b ∈ l ∧ key b ≠ key a := by
  obtain ⟨c, hc, rfl⟩ := List.mem_map.mp h
  by_cases hkey : key c = key a
  · exact Or.inl (if_pos hkey)
  · rw [if_neg hkey]
    exact Or.inr ⟨hc, hkey⟩

theorem replace_keys : (replace key a l).map key = l.map key := by
  apply map_key_update
  intro b
  split
  · rename_i hkey
    exact hkey.symm
  · rfl

theorem mem_replace_of_ne (hb : b ∈ l) (h : key b ≠ key a) : b ∈ replace key a l := by
  apply List.mem_map.mpr
  exact ⟨b, hb, if_neg h⟩

theorem find?_replace (h : l.find? (fun c => key c = key a) = some b) :
    (replace key a l).find? (fun c => key c = key a) = some a := by
  induction l with
  | nil => simp at h
  | cons c l ih =>
    by_cases hkey : key c = key a
    · simp [replace, hkey]
    · rw [List.find?_cons_of_neg (by simpa using hkey)] at h
      have hrest := ih h
      simpa [replace, hkey] using hrest

theorem find?_replace_ne (h : k ≠ key a) :
    (replace key a l).find? (fun c => key c = k) = l.find? (fun c => key c = k) := by
  induction l with
  | nil => rfl
  | cons c l ih =>
    unfold replace at ih ⊢
    by_cases hkey : key c = key a
    · have hne : key c ≠ k := fun hc => h (hc.symm.trans hkey)
      rw [List.map_cons, if_pos hkey, List.find?_cons_of_neg (by simpa using Ne.symm h),
        List.find?_cons_of_neg (by simpa using hne), ih]
    · rw [List.map_cons, if_neg hkey, List.find?_cons, List.find?_cons, ih]

end Update

section Upsert

variable [DecidableEq β]

/-- Sets the value of a key in a dictionary, which keeps its place there. -/
def upsert (key : α → β) (a : α) (l : List α) : List α :=
  if l.any (key · = key a) then l.map fun b => if key b = key a then a else b else l ++ [a]

theorem mem_upsert : b ∈ upsert key a l ↔ b = a ∨ b ∈ l ∧ key b ≠ key a := by
  unfold upsert
  split
  · rename_i hany
    simp only [List.any_eq_true, decide_eq_true_eq] at hany
    obtain ⟨c, hc, hkey⟩ := hany
    rw [List.mem_map]
    constructor
    · rintro ⟨d, hd, rfl⟩
      by_cases hdk : key d = key a
      · exact Or.inl (if_pos hdk)
      · rw [if_neg hdk]
        exact Or.inr ⟨hd, hdk⟩
    · rintro (rfl | ⟨hb, hne⟩)
      · exact ⟨c, hc, if_pos hkey⟩
      · exact ⟨b, hb, if_neg hne⟩
  · rename_i hany
    simp only [List.any_eq_true, decide_eq_true_eq, not_exists, not_and] at hany
    rw [List.mem_append, List.mem_singleton]
    constructor
    · rintro (hb | rfl)
      · exact Or.inr ⟨hb, hany b hb⟩
      · exact Or.inl rfl
    · rintro (rfl | ⟨hb, -⟩)
      · exact Or.inr rfl
      · exact Or.inl hb

theorem nodup_upsert (hkeys : (l.map key).Nodup) : ((upsert key a l).map key).Nodup := by
  unfold upsert
  split
  · rw [map_key_update]
    · exact hkeys
    · intro b
      split
      · rename_i h
        exact h.symm
      · rfl
  · rename_i hany
    simp only [List.any_eq_true, decide_eq_true_eq, not_exists, not_and] at hany
    rw [List.map_append, List.map_singleton, List.nodup_append]
    refine ⟨hkeys, List.nodup_singleton _, ?_⟩
    intro k hk k' hk'
    obtain ⟨b, hb, rfl⟩ := List.mem_map.mp hk
    rw [List.mem_singleton.mp hk']
    exact hany b hb

theorem upsert_new (hnew : ∀ b ∈ l, key b ≠ key a) : upsert key a l = l ++ [a] := by
  unfold upsert
  rw [if_neg]
  simpa using hnew

section Dictionaries

variable {γ : Type*} {f : γ → α} {items : List γ}

/-- A dictionary of items by a key: the last item of a key gives its value. -/
def dictionary (key : α → β) (f : γ → α) (items : List γ) : List α :=
  items.foldl (fun entries item => upsert key (f item) entries) []

theorem nodup_dictionary : ((dictionary key f items).map key).Nodup := by
  have hfold : ∀ entries : List α, (entries.map key).Nodup →
      ((items.foldl (fun entries item => upsert key (f item) entries) entries).map key).Nodup := by
    induction items with
    | nil => exact fun _ h => h
    | cons item items ih => exact fun _ h => ih _ (nodup_upsert h)
  exact hfold [] List.nodup_nil

theorem mem_of_mem_dictionary (h : a ∈ dictionary key f items) : ∃ item ∈ items, a = f item := by
  have hfold : ∀ entries : List α, a ∈ items.foldl (fun entries item => upsert key (f item) entries) entries →
      a ∈ entries ∨ ∃ item ∈ items, a = f item := by
    clear h
    induction items with
    | nil => exact fun _ h => Or.inl h
    | cons item items ih =>
      intro entries hmem
      rcases ih _ hmem with hmem | ⟨other, hother, heq⟩
      · rcases mem_upsert.mp hmem with heq | ⟨hmem, -⟩
        · exact Or.inr ⟨item, List.mem_cons_self, heq⟩
        · exact Or.inl hmem
      · exact Or.inr ⟨other, List.mem_cons_of_mem _ hother, heq⟩
  exact (hfold [] h).resolve_left List.not_mem_nil

/-- Every item has an entry of its key. -/
theorem exists_mem_dictionary {item : γ} (h : item ∈ items) : ∃ a ∈ dictionary key f items, key a = key (f item) := by
  have hkeep : ∀ (rest : List γ) (entries : List α), (∃ a ∈ entries, key a = key (f item)) →
      ∃ a ∈ rest.foldl (fun entries item => upsert key (f item) entries) entries, key a = key (f item) := by
    intro rest
    induction rest with
    | nil => exact fun _ h => h
    | cons other rest ih =>
      rintro entries ⟨a, ha, hkey⟩
      apply ih
      by_cases hsame : key a = key (f other)
      · exact ⟨f other, mem_upsert.mpr (Or.inl rfl), hsame.symm.trans hkey⟩
      · exact ⟨a, mem_upsert.mpr (Or.inr ⟨ha, hsame⟩), hkey⟩
  have hfold : ∀ entries : List α,
      ∃ a ∈ items.foldl (fun entries item => upsert key (f item) entries) entries, key a = key (f item) := by
    induction items with
    | nil => exact absurd h List.not_mem_nil
    | cons other items ih =>
      intro entries
      rcases List.mem_cons.mp h with rfl | h
      · exact hkeep items _ ⟨f item, mem_upsert.mpr (Or.inl rfl), rfl⟩
      · exact ih h _
  exact hfold []

/-- Items with keys of their own are the entries. -/
theorem dictionary_eq_map (h : (items.map fun item => key (f item)).Nodup) : dictionary key f items = items.map f := by
  have hfold : ∀ entries : List α, (∀ entry ∈ entries, ∀ item ∈ items, key entry ≠ key (f item)) →
      items.foldl (fun entries item => upsert key (f item) entries) entries = entries ++ items.map f := by
    induction items with
    | nil => exact fun _ _ => (List.append_nil _).symm
    | cons item items ih =>
      intro entries hdisjoint
      rw [List.map_cons, List.nodup_cons] at h
      obtain ⟨hnew, hkeys⟩ := h
      rw [List.foldl_cons, upsert_new fun entry hentry => hdisjoint entry hentry item List.mem_cons_self, ih hkeys]
      · rw [List.append_assoc]
        rfl
      · intro entry hentry other hother
        rcases List.mem_append.mp hentry with hentry | hentry
        · exact hdisjoint entry hentry other (List.mem_cons_of_mem _ hother)
        · rw [List.mem_singleton.mp hentry]
          exact fun heq => hnew (List.mem_map.mpr ⟨other, hother, heq.symm⟩)
  exact hfold [] fun _ h => absurd h List.not_mem_nil

end Dictionaries

end Upsert

/-- Entries with keys of their own, each within the amount of an item of its key, are within all the items. -/
theorem sum_le_sum_of_keys {γ : Type*} {amount : α → ℕ} {keyOf : γ → β} {amountOf : γ → ℕ} {items : List γ}
    (hkeys : (l.map key).Nodup) (h : ∀ a ∈ l, ∃ item ∈ items, keyOf item = key a ∧ amount a ≤ amountOf item) :
    (l.map amount).sum ≤ (items.map amountOf).sum := by
  induction l generalizing items with
  | nil => exact Nat.zero_le _
  | cons a l ih =>
    rw [List.map_cons, List.nodup_cons] at hkeys
    obtain ⟨hnew, hkeys⟩ := hkeys
    obtain ⟨⟨item, hitem, hkey, hle⟩, hrest⟩ := List.forall_mem_cons.mp h
    obtain ⟨before, after, rfl⟩ := List.append_of_mem hitem
    -- the other entries are within the other items
    have hsum := @ih (before ++ after) hkeys fun b hb => by
      obtain ⟨other, hother, hkeyOther, hleOther⟩ := hrest b hb
      have hne : other ≠ item := by
        rintro rfl
        exact hnew (List.mem_map.mpr ⟨b, hb, hkeyOther.symm.trans hkey⟩)
      refine ⟨other, ?_, hkeyOther, hleOther⟩
      simpa [hne] using hother
    simp only [List.map_cons, List.map_append, List.sum_cons, List.sum_append] at hsum ⊢
    omega

/-- `ORDER BY rank DESC LIMIT 1`. -/
def greatest {γ : Type*} [LT γ] [DecidableLT γ] (rank : α → γ) (l : List α) : Option α :=
  l.foldl (List.argAux fun b c => rank c < rank b) none

section Order

variable {γ : Type*} [LinearOrder γ] {rank : α → γ} {l' : List α}

theorem insertionSort_eq_of_perm (hranks : (l.map rank).Nodup) (hperm : l.Perm l')
    (hsorted : l'.Pairwise fun a b => rank a ≤ rank b) : l.insertionSort (fun a b => rank a ≤ rank b) = l' := by
  have : Std.Total fun a b : α => rank a ≤ rank b := ⟨fun a b => le_total (rank a) (rank b)⟩
  have : IsTrans α fun a b => rank a ≤ rank b := ⟨fun _ _ _ hab hbc => hab.trans hbc⟩
  refine ((List.perm_insertionSort _ l).trans hperm).eq_of_pairwise ?_ (List.pairwise_insertionSort _ _) hsorted
  intro a b ha hb hab hba
  have ha : a ∈ l := (List.perm_insertionSort _ l).mem_iff.mp ha
  exact List.inj_on_of_nodup_map hranks ha (hperm.mem_iff.mpr hb) (le_antisymm hab hba)

/-- Rows whose ranks fall, sorted by rank, are the rows in reverse. -/
theorem insertionSort_eq_reverse (h : l.Pairwise fun a b => rank b < rank a) :
    l.insertionSort (fun a b => rank a ≤ rank b) = l.reverse := by
  apply insertionSort_eq_of_perm
  · exact List.pairwise_map.mpr (h.imp fun hlt => hlt.ne')
  · exact l.reverse_perm.symm
  · exact List.pairwise_reverse.mpr (h.imp fun hlt => hlt.le)

/-- The rows of a dictionary in the order of their keys. -/
theorem insertionSort_eq_of_mem_iff (hranks : (l.map rank).Nodup) (hsorted : l'.Pairwise fun a b => rank a < rank b)
    (hmem : ∀ a, a ∈ l ↔ a ∈ l') : l.insertionSort (fun a b => rank a ≤ rank b) = l' := by
  have hnodup : l'.Nodup := hsorted.imp fun hlt heq => hlt.ne (congrArg rank heq)
  apply insertionSort_eq_of_perm hranks
  · exact (List.perm_ext_iff_of_nodup hranks.of_map hnodup).mpr hmem
  · exact hsorted.imp fun hlt => hlt.le

theorem greatest_eq_argmax : greatest rank l = l.argmax rank := rfl

theorem greatest_mem (h : greatest rank l = some a) : a ∈ l := List.argmax_mem h

theorem le_of_greatest (hb : b ∈ l) (h : greatest rank l = some a) : rank b ≤ rank a := List.le_of_mem_argmax hb h

theorem greatest_eq_none : greatest rank l = none ↔ l = [] := List.argmax_eq_none

/-- Rows whose ranks fall have the highest rank first. -/
theorem greatest_eq_head? (h : l.Pairwise fun a b => rank b < rank a) : greatest rank l = l.head? := by
  rw [greatest_eq_argmax]
  induction l with
  | nil => rfl
  | cons a l ih =>
    obtain ⟨ha, hl⟩ := List.pairwise_cons.mp h
    rw [List.argmax_cons, ih hl, List.head?_cons]
    cases l with
    | nil => rfl
    | cons b l => exact if_neg (ha b List.mem_cons_self).not_gt

end Order

section Queues

variable {due : α → Prop} [DecidablePred due] [DecidableEq β] {done : List β}

/-- In a queue whose items fall due in order, the first one that is due and not done is the next one. -/
theorem prefix_of_find? (hkeys : (l.map key).Nodup) (hdue : l.Pairwise fun a b => due b → due a)
    (hdone : done <+: l.map key) (h : l.find? (fun a => due a ∧ key a ∉ done) = some a) :
    done ++ [key a] <+: l.map key := by
  induction l generalizing done with
  | nil => cases h
  | cons b l ih =>
    rw [List.map_cons, List.nodup_cons] at hkeys
    obtain ⟨hnew, hkeys⟩ := hkeys
    obtain ⟨hfirst, hdue⟩ := List.pairwise_cons.mp hdue
    cases done with
    | nil =>
      by_cases hb : due b
      · rw [List.find?_cons_of_pos (by simpa using hb)] at h
        rw [← Option.some.inj h, List.nil_append, List.map_cons]
        exact ⟨l.map key, rfl⟩
      · rw [List.find?_cons_of_neg (by simpa using hb)] at h
        have ha : due a := by
          have := List.find?_some h
          simpa using this
        exact absurd (hfirst a (List.mem_of_find?_eq_some h) ha) hb
    | cons k done =>
      obtain ⟨rfl, hdone'⟩ := List.cons_prefix_cons.mp hdone
      rw [List.find?_cons_of_neg (by simp)] at h
      have hrest : l.find? (fun a => due a ∧ key a ∉ done) = some a := by
        rw [← h]
        apply List.find?_congr
        intro c hc
        have hne : key c ≠ key b := fun heq => hnew (heq ▸ List.mem_map_of_mem hc)
        simp [hne]
      rw [List.map_cons, List.cons_append]
      exact List.cons_prefix_cons.mpr ⟨rfl, ih hkeys hdue hdone' hrest⟩

end Queues

end KeyedRows
