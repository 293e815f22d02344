import Mathlib.Data.List.Basic
import Mathlib.Order.Lattice

/-! # Queues of times

A sliding window is kept as a queue from whose front the times before a cutoff are dropped. What a
later cutoff keeps is not lost (`since_prune`), and of a queue in order exactly the times from the
cutoff on are left (`prune_eq_since`). -/

namespace Tarka.Lib.Window

open List

variable {T : Type} [LinearOrder T] {c c' : T} {q : List T}

def prune (c : T) (q : List T) : List T := q.dropWhile (fun t => decide (t < c))

def since (c : T) (q : List T) : List T := q.filter (fun t => decide (c ≤ t))

theorem prune_sublist (c : T) (q : List T) : (prune c q).Sublist q := dropWhile_sublist _

theorem since_append (c : T) (q r : List T) : since c (q ++ r) = since c q ++ since c r :=
  filter_append ..

theorem since_prune (h : c ≤ c') (q : List T) : since c' (prune c q) = since c' q := by
  induction q with
  | nil => rfl
  | cons t q ih =>
    by_cases ht : t < c
    · have hout : ¬ c' ≤ t := not_le.mpr (lt_of_lt_of_le ht h)
      simpa [prune, since, ht, hout] using ih
    · simp [prune, ht]

theorem prune_eq_since (hq : q.Pairwise (· ≤ ·)) : prune c q = since c q := by
  induction q with
  | nil => rfl
  | cons t q ih =>
    obtain ⟨hhead, htail⟩ := pairwise_cons.mp hq
    by_cases ht : t < c
    · simpa [prune, since, ht, not_le.mpr ht] using ih htail
    · -- from here on every time is late enough
      have hall : ∀ u ∈ t :: q, c ≤ u := by
        intro u hu
        rcases mem_cons.mp hu with rfl | hu
        · exact not_lt.mp ht
        · exact le_trans (not_lt.mp ht) (hhead u hu)
      rw [since, filter_eq_self.mpr (fun u hu => decide_eq_true (hall u hu))]
      simp [prune, ht]

end Tarka.Lib.Window
