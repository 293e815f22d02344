import Tarka.Lib.EditDistance
import Tarka.Compiler.Yaml

/-! # The suggestion for an unknown signal

`levenshtein` keeps two rows of the table. The row above is read from left to right while the next
one is written, so one row is related to the next by `levenshteinRow_distances`, and the outer loop
by `foldl_distances`. -/

namespace Tarka.Compiler

open Tarka.Lib Tarka.Lib.EditDistance List

/-- The loop over the second word: its first entries are known, the entries after them follow. -/
theorem levenshteinRow_distances (c : Char) (as bs cs : List Char) :
    editDistance (c :: as) bs :: levenshteinRow c (editDistance (c :: as) bs) cs
      (distances as bs cs)
      = distances (c :: as) bs cs := by
  induction cs generalizing bs with
  | nil => rfl
  | cons b cs ih =>
    have hhead : ∃ ds, distances as (b :: bs) cs = editDistance as (b :: bs) :: ds := by
      cases cs <;> exact ⟨_, rfl⟩
    obtain ⟨ds, hds⟩ := hhead
    have hrow := ih (b :: bs)
    rw [hds, editDistance] at hrow
    rw [distances, distances, hds, levenshteinRow, hrow]

/-- The loop over the first word: the row is that of the letters read so far. -/
theorem foldl_distances (as read cs : List Char) :
    (as.zipIdx read.length).foldl (fun prev p =>
      (p.2 + 1) :: levenshteinRow p.1 (p.2 + 1) cs prev) (distances read [] cs)
      = distances (as.reverse ++ read) [] cs := by
  induction as generalizing read with
  | nil => rfl
  | cons a as ih =>
    have hrow := levenshteinRow_distances a read [] cs
    rw [editDistance_nil, length_cons] at hrow
    rw [zipIdx_cons, foldl_cons, hrow, ← length_cons (a := a), ih, reverse_cons, append_assoc,
      singleton_append]

theorem levenshtein_eq (a b : String) : levenshtein a b = editDistance a.toList b.toList := by
  rw [levenshtein]
  split_ifs with ha hb
  · rw [length_eq_zero_iff.mp ha, nil_editDistance]
  · rw [length_eq_zero_iff.mp hb, editDistance_nil]
  · have htable := foldl_distances a.toList [] b.toList
    rw [length_nil, distances_nil, length_nil, ← range_eq_range'] at htable
    dsimp only
    rw [htable, distances_getElem?, append_nil, append_nil, editDistance_reverse, Option.getD_some]

/-! ## The closest name -/

/-- A registered name as near as any, and near enough. -/
structure IsNearest (unknown : String) (registry : SignalRegistry) (name : String) : Prop where
  registered : name ∈ registry.names
  minimal : ∀ other ∈ registry.names,
    editDistance unknown.toList name.toList ≤ editDistance unknown.toList other.toList
  within : editDistance unknown.toList name.toList ≤ max 2 (min 12 ((utf8 unknown).length / 3))

/-- What the loop over the names keeps: the first of those at the least distance. -/
structure Closest (f : String → Nat) (names : List String) (best : Option (Nat × String)) :
    Prop where
  isSome : best.isSome = !names.isEmpty
  mem : ∀ b ∈ best, b.2 ∈ names ∧ b.1 = f b.2 ∧ ∀ other ∈ names, b.1 ≤ f other

theorem closest_foldl (f : String → Nat) (names : List String) :
    Closest f names (names.foldl (fun best name =>
      match best with
      | none => some (f name, name)
      | some b => if f name < b.1 then some (f name, name) else some b) none) := by
  induction names using reverseRecOn with
  | nil => exact ⟨rfl, by simp⟩
  | append_singleton names name ih =>
    rw [foldl_concat]
    split
    · rename_i hnone
      have hempty : names = [] := by simpa [hnone] using ih.isSome
      exact ⟨by simp, by simp [hempty]⟩
    · rename_i b hb
      obtain ⟨hmem, hdist, hmin⟩ := ih.mem b hb
      split_ifs with hlt
      · refine ⟨by simp, ?_⟩
        rintro _ ⟨⟩
        exact ⟨by simp, rfl, forall_mem_append.mpr ⟨fun o ho => hlt.le.trans (hmin o ho), by simp⟩⟩
      · refine ⟨by simp, ?_⟩
        rintro _ ⟨⟩
        exact ⟨mem_append_left _ hmem, hdist, forall_mem_append.mpr ⟨hmin, by simpa using hlt⟩⟩

/-- The two-row loop computes the recursive edit distance. A suggestion is a registered name at the
least distance and within the threshold, and there is one if such a name exists. -/
theorem closestRegistryMatch_nearest (unknown : String) (registry : SignalRegistry) :
    (∀ a b, levenshtein a b = editDistance a.toList b.toList)
      ∧ (∀ name ∈ closestRegistryMatch unknown registry, IsNearest unknown registry name)
      ∧ ((∃ name, IsNearest unknown registry name) →
        (closestRegistryMatch unknown registry).isSome) := by
  have hbest := closest_foldl (fun name => editDistance unknown.toList name.toList) registry.names
  refine ⟨levenshtein_eq, ?_⟩
  simp only [closestRegistryMatch, levenshtein_eq]
  generalize registry.names.foldl _ none = best at hbest ⊢
  cases best with
  | none =>
    refine ⟨by simp, ?_⟩
    rintro ⟨name, hnear⟩
    have hempty : registry.names = [] := by simpa using hbest.isSome
    exact absurd (hempty ▸ hnear.registered) not_mem_nil
  | some b =>
    obtain ⟨hmem, hdist, hmin⟩ := hbest.mem b rfl
    refine ⟨?_, ?_⟩
    · intro name hname
      obtain ⟨hle, rfl⟩ : b.1 ≤ max 2 (min 12 ((utf8 unknown).length / 3)) ∧ b.2 = name := by
        simpa using hname
      exact ⟨hmem, hdist ▸ hmin, hdist ▸ hle⟩
    · rintro ⟨name, hnear⟩
      have hle := (hmin name hnear.registered).trans hnear.within
      rw [Option.bind_some, if_pos hle, Option.isSome_some]

end Tarka.Compiler
