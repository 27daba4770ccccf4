import KairosPersistence.KeyedRows
import KairosPersistence.Transactions
import Mathlib.Data.List.Chain
import Mathlib.Data.List.Infix

/-!
Keyset pagination: each page starts behind the key of the last item of the page
before, and the last page is empty.
-/

namespace KeysetPages

open Transactions (bind_ok ok_bind)

section Queries

variable {α κ : Type*} [LinearOrder κ] {rows before after : List α} {rank : α → κ}

/-- The rows behind a cursor that the condition leaves. -/
def behind (rank : α → κ) (cursor : Option κ) (rows : List α) : List α :=
  rows.filter fun row => ∀ k ∈ cursor, k < rank row

/-- `WHERE rank > cursor ORDER BY rank LIMIT limit`. -/
def page (rows : List α) (rank : α → κ) (cursor : Option κ) (limit : ℕ) : List α :=
  ((behind rank cursor rows).insertionSort fun a b => rank a ≤ rank b).take limit

theorem behind_append (hsorted : (before ++ after).Pairwise fun a b => rank a < rank b) :
    behind rank (before.getLast?.map rank) (before ++ after) = after := by
  cases hlast : before.getLast? with
  | none =>
    obtain rfl := List.getLast?_eq_none_iff.mp hlast
    simp [behind]
  | some last =>
    obtain ⟨first, rfl⟩ := List.getLast?_eq_some_iff.mp hlast
    obtain ⟨hbefore, -, hafter⟩ := List.pairwise_append.mp hsorted
    have hle : ∀ row ∈ first ++ [last], rank row ≤ rank last := by
      intro row hrow
      rcases List.mem_append.mp hrow with hrow | hrow
      · exact ((List.pairwise_append.mp hbefore).2.2 row hrow last List.mem_cons_self).le
      · exact (congrArg rank (List.mem_singleton.mp hrow)).le
    have hnone : behind rank (some (rank last)) (first ++ [last]) = [] := by
      rw [behind, List.filter_eq_nil_iff]
      intro row hrow
      simpa using hle row hrow
    have hall : behind rank (some (rank last)) after = after := by
      rw [behind, List.filter_eq_self]
      intro row hrow
      simpa using hafter last (by simp) row hrow
    simp only [behind, Option.map_some] at hnone hall ⊢
    rw [List.filter_append, hnone, hall, List.nil_append]

/-- Behind the last of the first rows in their order come the others. -/
theorem page_append (hranks : (rows.map rank).Nodup)
    (h : rows.insertionSort (fun a b => rank a ≤ rank b) = before ++ after) (limit : ℕ) :
    page rows rank (before.getLast?.map rank) limit = after.take limit := by
  have hperm : rows.Perm (before ++ after) := by
    rw [← h]
    exact (List.perm_insertionSort _ rows).symm
  have hranks' : ((before ++ after).map rank).Nodup := (hperm.map rank).nodup_iff.mp hranks
  have : Std.Total fun a b : α => rank a ≤ rank b := ⟨fun a b => le_total (rank a) (rank b)⟩
  have : IsTrans α fun a b => rank a ≤ rank b := ⟨fun _ _ _ hab hbc => hab.trans hbc⟩
  have hle : (before ++ after).Pairwise fun a b => rank a ≤ rank b := by
    rw [← h]
    exact List.pairwise_insertionSort _ rows
  have hsorted : (before ++ after).Pairwise fun a b => rank a < rank b :=
    (hle.and (List.pairwise_map.mp hranks')).imp fun hab => lt_of_le_of_ne hab.1 hab.2
  rw [page]
  congr 1
  apply KeyedRows.insertionSort_eq_of_perm
  · exact ((List.filter_sublist).map rank).nodup hranks
  · refine (hperm.filter _).trans (.of_eq ?_)
    exact behind_append hsorted
  · exact (List.pairwise_append.mp hle).2.1

end Queries

section Reading

variable {α κ ε : Type*} {load : Option κ → ℤ → Except ε (List α)} {key : α → κ} {items before after : List α}
  {most : ℤ} {R : α → α → Prop}

/-- The pages of the limits, one after the other, and whether an empty one has been reached. -/
def readPages (load : Option κ → ℤ → Except ε (List α)) (key : α → κ) : List ℤ → Option κ → Except ε (List α × Bool)
  | [], _ => .ok ([], false)
  | limit :: limits, cursor => do
    let page ← load cursor limit
    match page.getLast? with
    | none => pure ([], true)
    | some last => do
      let rest ← readPages load key limits (some (key last))
      pure (page ++ rest.1, rest.2)

/-- The limits that a repository accepts. -/
def Accepted (most : ℤ) (limits : List ℤ) : Prop := ∀ limit ∈ limits, 1 ≤ limit ∧ limit ≤ most

/-- A page is the next items, unless two of them, or the last item before and the first of them, are not linked. -/
def Serves (load : Option κ → ℤ → Except ε (List α)) (key : α → κ) (most : ℤ) (items : List α) (R : α → α → Prop) :
    Prop :=
  ∀ before after limit, items = before ++ after → 1 ≤ limit → limit ≤ most →
    ((before.getLast?.toList ++ after.take limit.toNat).IsChain R ∧
        load (before.getLast?.map key) limit = .ok (after.take limit.toNat)) ∨
      (¬(before.getLast?.toList ++ after.take limit.toNat).IsChain R ∧
        ∃ e, load (before.getLast?.map key) limit = .error e)

theorem isChain_toList_append {last : Option α} {first : List α} {a : α} {rest : List α} (h : first.getLast? = some a) :
    (last.toList ++ (first ++ rest)).IsChain R ↔ (last.toList ++ first).IsChain R ∧ (a :: rest).IsChain R := by
  obtain ⟨front, rfl⟩ := List.getLast?_eq_some_iff.mp h
  rw [List.append_assoc, List.singleton_append, ← List.append_assoc, ← List.append_assoc]
  exact List.isChain_split

/-- The pages behind some of the items: the others, or an error where they are not linked. -/
theorem readPages_behind (hserves : Serves load key most items R) {limits : List ℤ} (hlimits : Accepted most limits)
    (hitems : items = before ++ after) :
    (∃ got done, readPages load key limits (before.getLast?.map key) = .ok (got, done) ∧ got <+: after ∧
        (before.getLast?.toList ++ got).IsChain R ∧ (done = true → got = after) ∧
        (after.length < limits.length → done = true)) ∨
      (¬(before.getLast?.toList ++ after).IsChain R ∧
        ∃ e, readPages load key limits (before.getLast?.map key) = .error e) := by
  induction limits generalizing before after with
  | nil =>
    refine Or.inl ⟨[], false, rfl, List.nil_prefix, ?_, by simp, by simp⟩
    cases before.getLast? <;> simp
  | cons limit limits ih =>
    obtain ⟨⟨hleast, hmost⟩, hlimits⟩ := List.forall_mem_cons.mp hlimits
    rcases hserves before after limit hitems hleast hmost with ⟨hchain, hload⟩ | ⟨hbroken, e, hload⟩
    · rw [readPages, hload, ok_bind]
      cases hlast : (after.take limit.toNat).getLast? with
      | none =>
        have hempty := List.getLast?_eq_none_iff.mp hlast
        have hafter : after = [] := by
          cases after with
          | nil => rfl
          | cons a after =>
            obtain ⟨n, hn⟩ : ∃ n, limit.toNat = n + 1 := ⟨limit.toNat - 1, by omega⟩
            rw [hn, List.take_succ_cons] at hempty
            cases hempty
        rw [hempty] at hchain
        refine Or.inl ⟨[], true, rfl, List.nil_prefix, hchain, fun _ => hafter.symm, fun _ => rfl⟩
      | some last =>
        have hsplit : after = after.take limit.toNat ++ after.drop limit.toNat := (List.take_append_drop _ _).symm
        have hitems' : items = (before ++ after.take limit.toNat) ++ after.drop limit.toNat := by
          rw [List.append_assoc, ← hsplit, hitems]
        have hcursor : (before ++ after.take limit.toNat).getLast? = some last := by
          rw [List.getLast?_append, hlast]
          rfl
        have hshorter : (after.drop limit.toNat).length < after.length := by
          have hne : after.take limit.toNat ≠ [] := by
            intro hempty
            rw [hempty] at hlast
            cases hlast
          have := List.length_pos_iff.mpr hne
          rw [List.length_take] at this
          rw [List.length_drop]
          omega
        have ih := ih hlimits hitems'
        rw [hcursor] at ih
        simp only [Option.map_some, Option.toList_some, List.singleton_append] at ih
        rcases ih with ⟨got, done, hread, hprefix, hgot, hdone, hlong⟩ | ⟨hbroken, e, hread⟩
        · refine Or.inl ⟨after.take limit.toNat ++ got, done, ?_, ?_, ?_, ?_, ?_⟩
          · simp only [hread, ok_bind]
            rfl
          · conv_rhs => rw [hsplit]
            exact (List.prefix_append_right_inj _).mpr hprefix
          · exact (isChain_toList_append hlast).mpr ⟨hchain, hgot⟩
          · intro h
            rw [hdone h, ← hsplit]
          · intro h
            apply hlong
            rw [List.length_cons] at h
            omega
        · refine Or.inr ⟨?_, e, ?_⟩
          · intro hall
            rw [hsplit] at hall
            exact hbroken ((isChain_toList_append hlast).mp hall).2
          · simp only [hread]
            rfl
    · refine Or.inr ⟨?_, e, ?_⟩
      · intro hall
        apply hbroken
        have htake : (before.getLast?.toList ++ after.take limit.toNat) <+: before.getLast?.toList ++ after :=
          (List.prefix_append_right_inj _).mpr (List.take_prefix _ _)
        exact hall.prefix htake
      · rw [readPages, hload]
        rfl

/-- Pages lose nothing of items that are linked, and never pass over a gap between items. -/
structure Lossless (load : Option κ → ℤ → Except ε (List α)) (key : α → κ) (most : ℤ) (items : List α)
    (R : α → α → Prop) : Prop where
  yields : items.IsChain R → ∀ limits, Accepted most limits →
    ∃ got done, readPages load key limits none = .ok (got, done) ∧ got <+: items ∧ (done = true → got = items) ∧
      (items.length < limits.length → done = true)
  raises : ¬items.IsChain R → ∀ limits, Accepted most limits →
    (∀ got, readPages load key limits none ≠ .ok (got, true)) ∧
      (items.length < limits.length → ∃ e, readPages load key limits none = .error e)

theorem Serves.lossless (h : Serves load key most items R) : Lossless load key most items R := by
  have hread {limits : List ℤ} (hlimits : Accepted most limits) :=
    readPages_behind h hlimits (List.nil_append items).symm
  simp only [List.getLast?_nil, Option.map_none, Option.toList_none, List.nil_append] at hread
  constructor
  · intro hchain limits hlimits
    rcases hread hlimits with ⟨got, done, hgot, hprefix, -, hdone, hlong⟩ | ⟨hbroken, -⟩
    · exact ⟨got, done, hgot, hprefix, hdone, hlong⟩
    · exact absurd hchain hbroken
  · intro hbroken limits hlimits
    rcases hread hlimits with ⟨got, done, hgot, -, hlinked, hdone, hlong⟩ | ⟨-, e, herror⟩
    · have hopen : done = false := by
        by_contra hne
        have hall := hdone (by simpa using hne)
        exact hbroken (hall ▸ hlinked)
      constructor
      · intro other hother
        rw [hgot, Except.ok.injEq, Prod.mk.injEq] at hother
        rw [hopen] at hother
        exact absurd hother.2 (by decide)
      · intro hlength
        rw [hlong hlength] at hopen
        cases hopen
    · refine ⟨fun other hother => ?_, fun _ => ⟨e, herror⟩⟩
      rw [herror] at hother
      cases hother

end Reading

end KeysetPages
