import Mathlib.Tactic
import Tarka.Lib.Sorting

/-! # Node indices of a layered binary tree

A layer of `n` nodes has the indices `0, …, n - 1`; the node `i` of a layer is below the node
`i / 2` of the next one, and its sibling is the other node below the same parent, if there is
one. A multiproof for a set `S` of nodes has to supply the siblings that are not in `S`
themselves (`helpers`).

The point of this module is `insertionSort_helpers`: once the helpers are merged in, the layer
consists of complete blocks, each holding all the nodes below one parent of `S`. Everything
about multiproofs is about such complete layers. -/

namespace Tarka.Lib

open List Nat

theorem increasing_insertionSort {l : List Nat} (h : l.Nodup) :
    (l.insertionSort (· ≤ ·)).Pairwise (· < ·) := by
  have hle := pairwise_insertionSort (· ≤ ·) l
  have hnd : (l.insertionSort (· ≤ ·)).Nodup := (perm_insertionSort _ l).nodup_iff.mpr h
  exact (hle.sortedLE.sortedLT_of_nodup hnd).pairwise

variable {x : Nat}

theorem getLast?_eq_of_upperBound {l : List Nat} (h : l.Pairwise (· < ·)) (hx : x ∈ l)
    (hle : ∀ a ∈ l, a ≤ x) : l.getLast? = some x := by
  obtain ⟨pre, a, rfl⟩ := (eq_nil_or_concat' l).resolve_left (ne_nil_of_mem hx)
  have hax := hle a (by simp)
  rw [pairwise_append] at h
  rcases mem_append.mp hx with hx' | hx'
  · have := h.2.2 x hx' a (by simp)
    omega
  · have hxa : x = a := mem_singleton.mp hx'
    simp [hxa]

/-! ## Parents -/

/-- Append `p` unless the list already ends in it. -/
def pushNew (out : List Nat) (p : Nat) : List Nat :=
  if out.getLast? = some p then out else out ++ [p]

/-- The parents of a layer's nodes, each once if the nodes are in order. -/
def parents (S : List Nat) : List Nat := (S.map (· / 2)).foldl pushNew []

variable {p : Nat}

theorem mem_pushNew {out : List Nat} : x ∈ pushNew out p ↔ x ∈ out ∨ x = p := by
  unfold pushNew
  split_ifs with h
  · have hp : p ∈ out := mem_of_getLast? h
    constructor
    · exact .inl
    · rintro (hx | rfl)
      · exact hx
      · exact hp
  · simp

theorem mem_foldl_pushNew : ∀ {ps out : List Nat} {x : Nat},
    x ∈ ps.foldl pushNew out ↔ x ∈ out ∨ x ∈ ps
  | [], out, x => by simp
  | p :: ps, out, x => by
    rw [foldl_cons, mem_foldl_pushNew, mem_pushNew, mem_cons]
    tauto

variable {S : List Nat}

theorem mem_parents : p ∈ parents S ↔ ∃ s ∈ S, s / 2 = p := by
  simp [parents, mem_foldl_pushNew]

/-- Pushing keeps a list increasing as long as nothing pushed is below its end. -/
theorem increasing_pushNew {out : List Nat} (h : out.Pairwise (· < ·)) (hp : ∀ x ∈ out, x ≤ p) :
    (pushNew out p).Pairwise (· < ·) := by
  unfold pushNew
  split_ifs with hlast
  · exact h
  · refine pairwise_append.mpr ⟨h, pairwise_singleton _ _, ?_⟩
    intro x hx y hy
    have hy' : y = p := mem_singleton.mp hy
    have hne : x ≠ p := by
      rintro rfl
      exact hlast (getLast?_eq_of_upperBound h hx hp)
    have hle := hp x hx
    omega

theorem increasing_foldl_pushNew : ∀ {ps out : List Nat}, out.Pairwise (· < ·) →
    (∀ x ∈ out, ∀ p ∈ ps, x ≤ p) → ps.Pairwise (· ≤ ·) → (ps.foldl pushNew out).Pairwise (· < ·)
  | [], _, hout, _, _ => hout
  | p :: ps, out, hout, hle, hps => by
    rw [pairwise_cons] at hps
    rw [foldl_cons]
    refine increasing_foldl_pushNew (increasing_pushNew hout (fun x hx => hle x hx p (by simp)))
      ?_ hps.2
    intro x hx q hq
    rcases mem_pushNew.mp hx with hx | rfl
    · exact hle x hx q (by simp [hq])
    · exact hps.1 q hq

theorem increasing_parents (h : S.Pairwise (· < ·)) : (parents S).Pairwise (· < ·) := by
  refine increasing_foldl_pushNew .nil (by simp) ?_
  rw [pairwise_map]
  exact h.imp (fun hab => Nat.div_le_div_right (Nat.le_of_lt hab))

variable {n : Nat}

/-- Nodes of a layer of `n` nodes, in order. -/
structure InLayer (n : Nat) (S : List Nat) : Prop where
  increasing : S.Pairwise (· < ·)
  lt : ∀ s ∈ S, s < n

theorem InLayer.up (h : InLayer n S) : InLayer ((n + 1) / 2) (parents S) := by
  refine ⟨increasing_parents h.increasing, ?_⟩
  intro p hp
  obtain ⟨s, hs, rfl⟩ := mem_parents.mp hp
  have := h.lt s hs
  omega

theorem parents_ne_nil (h : S ≠ []) : parents S ≠ [] := by
  obtain ⟨s, hs⟩ := exists_mem_of_ne_nil S h
  exact ne_nil_of_mem (mem_parents.mpr ⟨s, hs, rfl⟩)

/-! ## Complete layers -/

/-- The nodes below `p` in a layer of `n` nodes. -/
def block (n p : Nat) : List Nat := if 2 * p + 1 < n then [2 * p, 2 * p + 1] else [2 * p]

/-- All the nodes below the parents `P`. -/
def expand (n : Nat) (P : List Nat) : List Nat := P.flatMap (block n)

theorem mem_block (hp : p < (n + 1) / 2) : x ∈ block n p ↔ x < n ∧ x / 2 = p := by
  unfold block
  split_ifs with h
  · simp only [mem_cons, not_mem_nil, or_false]
    omega
  · simp only [mem_cons, not_mem_nil, or_false]
    omega

variable {P : List Nat}

section

variable (hP : InLayer ((n + 1) / 2) P)

include hP

theorem mem_expand : x ∈ expand n P ↔ x < n ∧ x / 2 ∈ P := by
  unfold expand
  rw [mem_flatMap]
  constructor
  · rintro ⟨p, hp, hx⟩
    obtain ⟨hlt, rfl⟩ := (mem_block (hP.lt p hp)).mp hx
    exact ⟨hlt, hp⟩
  · rintro ⟨hlt, hp⟩
    exact ⟨x / 2, hp, (mem_block (hP.lt _ hp)).mpr ⟨hlt, rfl⟩⟩

theorem increasing_expand : (expand n P).Pairwise (· < ·) := by
  refine pairwise_flatMap.mpr ⟨?_, ?_⟩
  · intro p _
    unfold block
    split_ifs <;> simp
  · refine hP.increasing.imp_of_mem ?_
    intro p q hp hq hpq x hx y hy
    have hx' := (mem_block (hP.lt p hp)).mp hx
    have hy' := (mem_block (hP.lt q hq)).mp hy
    omega

theorem parents_expand : parents (expand n P) = P := by
  refine (increasing_parents (increasing_expand hP)).eq_of_mem_iff hP.increasing ?_
  intro p
  rw [mem_parents]
  constructor
  · rintro ⟨x, hx, rfl⟩
    exact ((mem_expand hP).mp hx).2
  · intro hp
    have hlt := hP.lt p hp
    have hdiv : 2 * p / 2 = p := by omega
    exact ⟨2 * p, (mem_expand hP).mpr ⟨by omega, hdiv.symm ▸ hp⟩, hdiv⟩

end

/-! ## Helpers -/

def sibling (i : Nat) : Nat := if i % 2 = 0 then i + 1 else i - 1

theorem sibling_div (i : Nat) : sibling i / 2 = i / 2 := by
  unfold sibling
  split_ifs <;> omega

theorem eq_or_eq_sibling {i j : Nat} (h : i / 2 = j / 2) : i = j ∨ i = sibling j := by
  unfold sibling
  split_ifs <;> omega

theorem sibling_injective : Function.Injective sibling := by
  intro i j h
  have hi := sibling_div i
  have hj := sibling_div j
  unfold sibling at h hi hj
  split_ifs at h <;> omega

/-- The siblings of `S` in a layer of `n` nodes that are not in `S` themselves. -/
def helpers (n : Nat) (S : List Nat) : List Nat :=
  (S.map sibling).filter (fun x => decide (x < n) && decide (x ∉ S))

theorem mem_helpers : x ∈ helpers n S ↔ x < n ∧ x ∉ S ∧ ∃ s ∈ S, sibling s = x := by
  simp only [helpers, mem_filter, mem_map, Bool.and_eq_true, decide_eq_true_eq]
  tauto

theorem nodup_append_helpers (h : S.Nodup) : (S ++ helpers n S).Nodup := by
  have hhelp : (helpers n S).Nodup := (h.map sibling_injective).filter _
  refine nodup_append.mpr ⟨h, hhelp, ?_⟩
  rintro a ha b hb rfl
  exact (mem_helpers.mp hb).2.1 ha

/-- **With its helpers, a layer is complete.** -/
theorem insertionSort_helpers (hS : InLayer n S) :
    (S ++ helpers n S).insertionSort (· ≤ ·) = expand n (parents S) := by
  have hnd : S.Nodup := hS.increasing.imp ne_of_lt
  refine (increasing_insertionSort (nodup_append_helpers hnd)).eq_of_mem_iff
    (increasing_expand hS.up) ?_
  intro x
  rw [(perm_insertionSort _ _).mem_iff, mem_expand hS.up, mem_append, mem_helpers, mem_parents]
  constructor
  · rintro (hx | ⟨hx, -, s, hs, rfl⟩)
    · exact ⟨hS.lt x hx, x, hx, rfl⟩
    · exact ⟨hx, s, hs, (sibling_div s).symm⟩
  · rintro ⟨hx, s, hs, hdiv⟩
    by_cases hmem : x ∈ S
    · exact .inl hmem
    · rcases eq_or_eq_sibling hdiv.symm with rfl | hsib
      · exact absurd hs hmem
      · exact .inr ⟨hx, hmem, s, hs, hsib.symm⟩

/-! ## The layers above -/

/-- The number of nodes of the layer `d` above a layer of `n` nodes. -/
def layerSize (d n : Nat) : Nat := (fun n => (n + 1) / 2)^[d] n

/-- The nodes above `S`, `d` layers up. -/
def ancestors (d : Nat) (S : List Nat) : List Nat := parents^[d] S

/-- A layer of at most `2 ^ d` nodes shrinks to one node in `d` steps. -/
theorem layerSize_le_one : ∀ (d : Nat) {n : Nat}, n ≤ 2 ^ d → layerSize d n ≤ 1
  | 0, _, h => h
  | d + 1, n, h => by
    have hhalf : (n + 1) / 2 ≤ 2 ^ d := by
      omega
    exact layerSize_le_one d hhalf

theorem ancestors_eq_zero (d : Nat) (hn : layerSize d n ≤ 1) (hS : InLayer n S) (hne : S ≠ []) :
    ancestors d S = [0] := by
  induction d generalizing n S with
  | zero =>
    have hn' : n ≤ 1 := hn
    obtain ⟨s, hs⟩ := exists_mem_of_ne_nil S hne
    refine hS.increasing.eq_of_mem_iff (pairwise_singleton _ _) ?_
    intro x
    rw [mem_singleton]
    constructor
    · intro hx
      have := hS.lt x hx
      omega
    · rintro rfl
      have := hS.lt s hs
      have hs0 : s = 0 := by omega
      rwa [hs0] at hs
  | succ d ih => exact ih hn hS.up (parents_ne_nil hne)

/-! ## The full layer -/

variable (n : Nat)

theorem inLayer_range : InLayer n (range n) :=
  ⟨pairwise_lt_range, fun _ => mem_range.mp⟩

theorem helpers_range : helpers n (range n) = [] := by
  refine eq_nil_iff_forall_not_mem.mpr ?_
  intro x hx
  obtain ⟨hlt, hnot, -⟩ := mem_helpers.mp hx
  exact hnot (mem_range.mpr hlt)

theorem parents_range : parents (range n) = range ((n + 1) / 2) := by
  refine (inLayer_range n).up.increasing.eq_of_mem_iff pairwise_lt_range ?_
  intro p
  simp only [mem_parents, mem_range]
  constructor
  · rintro ⟨s, hs, rfl⟩
    omega
  · intro hp
    exact ⟨2 * p, by omega, by omega⟩

theorem expand_range : expand n (range ((n + 1) / 2)) = range n := by
  have hP := inLayer_range ((n + 1) / 2)
  refine (increasing_expand hP).eq_of_mem_iff pairwise_lt_range ?_
  intro x
  rw [mem_expand hP, mem_range, mem_range]
  omega

end Tarka.Lib
