import Mathlib.Data.List.Sort

/-! # Sorting

What a sort yields does not depend on the order in which the elements come, as long as it tells
different elements apart (`insertionSort_eq_of_perm`). -/

namespace Tarka.Lib

open List

variable {α κ V : Type}

theorem insertionSort_eq_of_perm {r : α → α → Prop} [DecidableRel r] [Std.Total r] [IsTrans α r]
    {l l' : List α} (h : l.Perm l') (hanti : ∀ a ∈ l', ∀ b ∈ l', r a b → r b a → a = b) :
    l.insertionSort r = l'.insertionSort r := by
  have hperm := (perm_insertionSort r l).trans (h.trans (perm_insertionSort r l').symm)
  refine hperm.eq_of_pairwise ?_ (pairwise_insertionSort r l) (pairwise_insertionSort r l')
  intro a b ha hb
  exact hanti a (h.mem_iff.mp ((mem_insertionSort r).mp ha)) b ((mem_insertionSort r).mp hb)

/-- Entries with the same distinct keys, one after the other, are permutations of each other only
when they are the same. -/
theorem eq_of_perm_of_keys {l₁ l₂ : List (κ × V)} (hperm : l₁.Perm l₂)
    (hkeys : l₁.map Prod.fst = l₂.map Prod.fst) (hnd : (l₁.map Prod.fst).Nodup) : l₁ = l₂ := by
  induction l₁ generalizing l₂ with
  | nil => exact (nil_perm.mp hperm).symm
  | cons a l₁ ih =>
    cases l₂ with
    | nil => simp at hkeys
    | cons b l₂ =>
      simp only [map_cons, cons.injEq] at hkeys
      -- the entry of the first key is the first one on both sides
      have hmem : a ∈ b :: l₂ := hperm.mem_iff.mp (by simp)
      have hnd' : ((b :: l₂).map Prod.fst).Nodup := (hperm.map Prod.fst).nodup_iff.mp hnd
      obtain rfl : a = b := inj_on_of_nodup_map hnd' hmem (by simp) hkeys.1
      rw [ih hperm.cons_inv hkeys.2 (nodup_cons.mp hnd).2]

end Tarka.Lib
