import Mathlib.Order.MinMax
import Mathlib.Data.List.Basic

/-! # Edit distance

The distance of two words by the recursion on their first letters, and the rows of its table. A
table is filled from the front, so a row holds distances of reversed words; that this makes no
difference comes from the alignments of the words, whose least cost the distance is
(`editDistance_reverse`). -/

namespace Tarka.Lib.EditDistance

variable {α : Type} [DecidableEq α]

def editDistance : List α → List α → Nat
  | [], bs => bs.length
  | _ :: as, [] => as.length + 1
  | a :: as, b :: bs =>
    min (min (editDistance (a :: as) bs + 1) (editDistance as (b :: bs) + 1))
      (editDistance as bs + if a = b then 0 else 1)
termination_by as bs => as.length + bs.length

@[simp] theorem editDistance_nil (as : List α) : editDistance as [] = as.length := by
  cases as <;> simp [editDistance]

@[simp] theorem nil_editDistance (bs : List α) : editDistance [] bs = bs.length := by
  rw [editDistance]

/-! ## Alignments -/

/-- One word is turned into the other, letter by letter, at a cost. -/
inductive Aligned : List α → List α → Nat → Prop
  | nil : Aligned [] [] 0
  | drop (a : α) {as bs : List α} {n : Nat} (h : Aligned as bs n) : Aligned (a :: as) bs (n + 1)
  | insert (b : α) {as bs : List α} {n : Nat} (h : Aligned as bs n) : Aligned as (b :: bs) (n + 1)
  | swap (a b : α) {as bs : List α} {n : Nat} (h : Aligned as bs n) :
      Aligned (a :: as) (b :: bs) (n + if a = b then 0 else 1)

variable {as bs as' bs' : List α} {m n : Nat}

theorem aligned_editDistance (as bs : List α) : Aligned as bs (editDistance as bs) := by
  fun_induction editDistance as bs with
  | case1 bs =>
    induction bs with
    | nil => exact .nil
    | cons b bs ih => exact .insert b ih
  | case2 a as =>
    induction as generalizing a with
    | nil => exact .drop a .nil
    | cons a' as ih => exact .drop a (ih a')
  | case3 a as b bs ihInsert ihDrop ihSwap =>
    exact min_rec' _ (min_rec' _ (.insert b ihInsert) (.drop a ihDrop)) (.swap a b ihSwap)

theorem editDistance_le (h : Aligned as bs n) : editDistance as bs ≤ n := by
  induction h with
  | nil => simp
  | drop a h ih =>
    rename_i as bs n
    cases bs with
    | nil => simpa using ih
    | cons b bs =>
      rw [editDistance]
      omega
  | insert b h ih =>
    rename_i as bs n
    cases as with
    | nil => simpa using ih
    | cons a as =>
      rw [editDistance]
      omega
  | swap a b h ih =>
    rw [editDistance]
    omega

theorem Aligned.append (h : Aligned as bs m) (h' : Aligned as' bs' n) :
    Aligned (as ++ as') (bs ++ bs') (m + n) := by
  induction h with
  | nil => simpa using h'
  | drop a h ih => exact Nat.add_right_comm .. ▸ .drop a ih
  | insert b h ih => exact Nat.add_right_comm .. ▸ .insert b ih
  | swap a b h ih => exact Nat.add_right_comm .. ▸ .swap a b ih

theorem Aligned.reverse (h : Aligned as bs n) : Aligned as.reverse bs.reverse n := by
  induction h with
  | nil => exact .nil
  | drop a h ih => simpa using ih.append (.drop a .nil)
  | insert b h ih => simpa using ih.append (.insert b .nil)
  | swap a b h ih => simpa using ih.append (.swap a b .nil)

theorem editDistance_reverse (as bs : List α) :
    editDistance as.reverse bs.reverse = editDistance as bs := by
  refine le_antisymm (editDistance_le (aligned_editDistance as bs).reverse) (editDistance_le ?_)
  simpa using (aligned_editDistance as.reverse bs.reverse).reverse

/-! ## Rows -/

/-- The distances of a word to another one as that grows, each letter put in front. -/
def distances (as : List α) : List α → List α → List Nat
  | bs, [] => [editDistance as bs]
  | bs, c :: cs => editDistance as bs :: distances as (c :: bs) cs

theorem distances_nil (bs cs : List α) :
    distances [] bs cs = List.range' bs.length (cs.length + 1) := by
  induction cs generalizing bs with
  | nil => simp [distances]
  | cons c cs ih =>
    rw [distances, ih, nil_editDistance, List.length_cons, List.length_cons, ← List.range'_succ]

theorem distances_getElem? (as bs cs : List α) :
    (distances as bs cs)[cs.length]? = some (editDistance as (cs.reverse ++ bs)) := by
  induction cs generalizing bs with
  | nil => rfl
  | cons c cs ih => simp [distances, ih]

end Tarka.Lib.EditDistance
