import KairosPersistence.ReceiptRows

/-!
The walk that bounds a JSON tree before it is serialized: the number of its
nodes, their depth and the bytes of its strings. The order of the keys of an
object does not matter to it.
-/

namespace Json

variable {ν : Type} {own : Json ν → ℕ}

def children : Json ν → List (Json ν)
  | arr items => items
  | obj fields => fields.map Prod.snd
  | _ => []

mutual

/-- The sum over the nodes of a tree. -/
def total (own : Json ν → ℕ) : Json ν → ℕ
  | null => own null
  | bool b => own (bool b)
  | num n => own (num n)
  | str s => own (str s)
  | arr items => own (arr items) + totalItems own items
  | obj fields => own (obj fields) + totalFields own fields

def totalItems (own : Json ν → ℕ) : List (Json ν) → ℕ
  | [] => 0
  | x :: xs => total own x + totalItems own xs

def totalFields (own : Json ν → ℕ) : List (String × Json ν) → ℕ
  | [] => 0
  | (_, x) :: ps => total own x + totalFields own ps

end

theorem totalItems_eq (items : List (Json ν)) : totalItems own items = (items.map (total own)).sum := by
  induction items with
  | nil => rfl
  | cons x xs ih => simp [totalItems, ih]

theorem totalFields_eq (fields : List (String × Json ν)) :
    totalFields own fields = (fields.map fun p => total own p.2).sum := by
  induction fields with
  | nil => rfl
  | cons p ps ih => simp [totalFields, ih]

theorem total_eq (t : Json ν) : total own t = own t + (t.children.map (total own)).sum := by
  cases t with
  | null | bool | num | str => rfl
  | arr items => rw [total, totalItems_eq, children]
  | obj fields => rw [total, totalFields_eq, children, List.map_map, Function.comp_def]

/-- Every node is at most so deep below the root. -/
def DepthLE : ℕ → Json ν → Prop
  | 0, t => t.children = []
  | n + 1, t => ∀ c ∈ t.children, DepthLE n c

section KeyOrder

variable (le : String → String → Prop) [DecidableRel le]

theorem children_orderKeys (t : Json ν) : (orderKeys le t).children.Perm (t.children.map (orderKeys le)) := by
  cases t with
  | null | bool | num | str => rfl
  | arr items => rw [orderKeys, orderKeysItems_eq, children, children]
  | obj fields =>
    rw [orderKeys, orderKeysFields_eq, children, children, List.map_map]
    apply ((List.perm_insertionSort _ _).map Prod.snd).trans
    rw [List.map_map]
    rfl

theorem total_orderKeys (hown : ∀ t, own (orderKeys le t) = own t) (t : Json ν) :
    total own (orderKeys le t) = total own t := by
  rw [total_eq, hown, ((children_orderKeys le t).map (total own)).sum_eq, total_eq t, List.map_map]
  congr 2
  induction t with
  | null | bool | num | str => rfl
  | arr items ih =>
    apply List.map_congr_left
    intro x hx
    rw [Function.comp_apply, total_eq, hown, ((children_orderKeys le x).map (total own)).sum_eq, List.map_map, ih x hx,
      ← total_eq]
  | obj fields ih =>
    apply List.map_congr_left
    intro x hx
    obtain ⟨p, hp, rfl⟩ := List.mem_map.mp hx
    rw [Function.comp_apply, total_eq, hown, ((children_orderKeys le p.2).map (total own)).sum_eq, List.map_map, ih p hp,
      ← total_eq]

theorem depthLE_orderKeys (n : ℕ) (t : Json ν) : DepthLE n (orderKeys le t) ↔ DepthLE n t := by
  induction n generalizing t with
  | zero =>
    have hperm := children_orderKeys le t
    constructor
    · intro h
      rw [DepthLE] at h
      rw [h, List.nil_perm, List.map_eq_nil_iff] at hperm
      exact hperm
    · intro h
      rw [DepthLE] at h
      rw [h, List.map_nil, List.perm_nil] at hperm
      exact hperm
  | succ n ih =>
    simp only [DepthLE, (children_orderKeys le t).mem_iff, List.forall_mem_map, ih]

end KeyOrder

end Json

namespace KairosPersistence

open PythonJson
open Json (total total_eq DepthLE children)
open Transactions (bind_ok require require_ok require_pos require_neg ok_bind)

/-- `_MAX_SOURCE_NODES`. -/
def maxSourceNodes : ℕ := 10000

/-- `_MAX_SOURCE_DEPTH`. -/
def maxSourceDepth : ℕ := 32

/-- The bytes of the keys of an object, or of a string. -/
def textBytes : PyJson → ℕ
  | .obj fields => (fields.map fun p => p.1.utf8ByteSize).sum
  | .str s => s.utf8ByteSize
  | _ => 0

/-- The loop of `_bounded_json` over the pending nodes, the last one first, with `n` visits left. -/
def boundedLoop : ℕ → List (PyJson × ℕ) → ℕ → Except ResearchError Unit
  | _, [], _ => .ok ()
  | 0, _ :: _, _ => .error (.valueError "source JSON exceeds its bounded tree envelope")
  | n + 1, (node, depth) :: pending, text => do
    require (depth ≤ maxSourceDepth) (.valueError "source JSON exceeds its bounded tree envelope")
    require (text + textBytes node ≤ maxReceiptBytes) (.valueError "source JSON exceeds its bounded text envelope")
    boundedLoop n ((children node).reverse.map (·, depth + 1) ++ pending) (text + textBytes node)

/-- `_bounded_json`. -/
def boundedJson (value : PyJson) : Except ResearchError Unit := boundedLoop maxSourceNodes [(value, 0)] 0

/-- The bounds of the pending nodes. -/
structure Bounded (n : ℕ) (pending : List (PyJson × ℕ)) (text : ℕ) : Prop where
  nodes : (pending.map fun p => total (fun _ => 1) p.1).sum ≤ n
  depth : ∀ p ∈ pending, p.2 ≤ maxSourceDepth ∧ DepthLE (maxSourceDepth - p.2) p.1
  text : pending = [] ∨ text + (pending.map fun p => total textBytes p.1).sum ≤ maxReceiptBytes

theorem depthLE_children {node : PyJson} {depth : ℕ} (h : depth ≤ maxSourceDepth) :
    DepthLE (maxSourceDepth - depth) node ↔
      ∀ c ∈ children node, depth + 1 ≤ maxSourceDepth ∧ DepthLE (maxSourceDepth - (depth + 1)) c := by
  rcases Nat.lt_or_ge depth maxSourceDepth with hlt | hge
  · obtain ⟨k, hk⟩ : ∃ k, maxSourceDepth - depth = k + 1 := ⟨maxSourceDepth - depth - 1, by omega⟩
    have hnext : maxSourceDepth - (depth + 1) = k := by omega
    rw [hk, hnext, DepthLE]
    exact forall₂_congr fun c _ => ⟨fun hc => ⟨hlt, hc⟩, And.right⟩
  · have hzero : maxSourceDepth - depth = 0 := by omega
    rw [hzero, DepthLE, List.eq_nil_iff_forall_not_mem]
    exact forall₂_congr fun c _ => ⟨False.elim, fun hc => by omega⟩

theorem bounded_cons {n depth text : ℕ} {node : PyJson} {pending : List (PyJson × ℕ)} :
    Bounded (n + 1) ((node, depth) :: pending) text ↔ depth ≤ maxSourceDepth ∧ text + textBytes node ≤ maxReceiptBytes ∧
      Bounded n ((children node).reverse.map (·, depth + 1) ++ pending) (text + textBytes node) := by
  have hsum (own : PyJson → ℕ) : (((children node).reverse.map (·, depth + 1) ++ pending).map fun p => total own p.1).sum =
      ((children node).map (total own)).sum + (pending.map fun p => total own p.1).sum := by
    rw [List.map_append, List.sum_append, List.map_map, List.map_reverse, List.sum_reverse]
    rfl
  have hcons (own : PyJson → ℕ) : (((node, depth) :: pending).map fun p => total own p.1).sum =
      own node + ((children node).map (total own)).sum + (pending.map fun p => total own p.1).sum := by
    rw [List.map_cons, List.sum_cons, total_eq]
  constructor
  · rintro ⟨hnodes, hdepth, htext⟩
    obtain ⟨⟨hle, hnode⟩, hpending⟩ := List.forall_mem_cons.mp hdepth
    have htext := htext.resolve_left (List.cons_ne_nil _ _)
    rw [hcons] at hnodes htext
    refine ⟨hle, by omega, ?_, ?_, Or.inr ?_⟩
    · rw [hsum]
      omega
    · intro p hp
      rcases List.mem_append.mp hp with hp | hp
      · obtain ⟨c, hc, rfl⟩ := List.mem_map.mp hp
        exact (depthLE_children hle).mp hnode c (List.mem_reverse.mp hc)
      · exact hpending p hp
    · rw [hsum]
      omega
  · rintro ⟨hle, hown, hnodes, hdepth, htext⟩
    rw [hsum] at hnodes htext
    refine ⟨?_, List.forall_mem_cons.mpr ⟨⟨hle, ?_⟩, ?_⟩, Or.inr ?_⟩
    · rw [hcons]
      omega
    · apply (depthLE_children hle).mpr
      exact fun c hc => hdepth (c, depth + 1) (List.mem_append_left _ (List.mem_map.mpr ⟨c, List.mem_reverse.mpr hc, rfl⟩))
    · exact fun p hp => hdepth p (List.mem_append_right _ hp)
    · rw [hcons]
      rcases htext with hnil | htext
      · obtain ⟨hchildren, hpending⟩ := List.append_eq_nil_iff.mp hnil
        rw [List.map_eq_nil_iff, List.reverse_eq_nil_iff] at hchildren
        simpa [hchildren, hpending] using hown
      · omega

/-- The loop accepts the trees within its bounds. -/
theorem boundedLoop_ok {n text : ℕ} {pending : List (PyJson × ℕ)} :
    boundedLoop n pending text = .ok () ↔ Bounded n pending text := by
  induction n generalizing pending text with
  | zero =>
    cases pending with
    | nil => exact ⟨fun _ => ⟨by simp, by simp, Or.inl rfl⟩, fun _ => by simp [boundedLoop]⟩
    | cons p pending =>
      constructor
      · intro h
        cases h
      · rintro ⟨hnodes, -, -⟩
        rw [List.map_cons, List.sum_cons, total_eq] at hnodes
        omega
  | succ n ih =>
    cases pending with
    | nil => exact ⟨fun _ => ⟨by simp, by simp, Or.inl rfl⟩, fun _ => by simp [boundedLoop]⟩
    | cons p pending =>
      obtain ⟨node, depth⟩ := p
      rw [bounded_cons, ← ih]
      constructor
      · intro h
        obtain ⟨_, hdepth, h⟩ := bind_ok h
        obtain ⟨_, htext, h⟩ := bind_ok h
        exact ⟨require_ok hdepth, require_ok htext, h⟩
      · rintro ⟨hdepth, htext, h⟩
        rw [boundedLoop, require_pos hdepth, ok_bind, require_pos htext, ok_bind, h]

theorem textBytes_orderKeys (le : String → String → Prop) [DecidableRel le] (t : PyJson) :
    textBytes (t.orderKeys le) = textBytes t := by
  cases t with
  | null | bool | num | str | arr => rfl
  | obj fields =>
    rw [Json.orderKeys, Json.orderKeysFields_eq, textBytes, textBytes, ((List.perm_insertionSort _ _).map _).sum_eq,
      List.map_map]
    rfl

/-- A tree is bounded whatever the order of its keys. -/
theorem boundedJson_sortKeys (t : PyJson) : boundedJson (sortKeys t) = .ok () ↔ boundedJson t = .ok () := by
  have hnodes := @Json.total_orderKeys PyNumber (fun _ => 1) (· ≤ ·) _ (fun _ => rfl) t
  have htext := Json.total_orderKeys (· ≤ ·) (textBytes_orderKeys (· ≤ ·)) t
  rw [boundedJson, boundedJson, boundedLoop_ok, boundedLoop_ok]
  constructor
  · rintro ⟨hn, hdepth, hbytes⟩
    refine ⟨?_, ?_, ?_⟩
    · simpa [sortKeys, hnodes] using hn
    · simpa [sortKeys, Json.depthLE_orderKeys] using hdepth
    · simpa [sortKeys, htext] using hbytes
  · rintro ⟨hn, hdepth, hbytes⟩
    refine ⟨?_, ?_, ?_⟩
    · simpa [sortKeys, hnodes] using hn
    · simpa [sortKeys, Json.depthLE_orderKeys] using hdepth
    · simpa [sortKeys, htext] using hbytes

end KairosPersistence
