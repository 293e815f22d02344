import Tarka.Lib.HashRun

/-! # Merkle roots with promoted odd nodes

The root of a list of digests is computed level by level: adjacent nodes are hashed in pairs
and a last node without a partner is carried up unchanged. Every level therefore is a list of
digests of binary trees, and the root is the digest of one tree over all the leaves.

`MerkleTree.eq_or_collides` is the reason such a root binds its leaves, over lists of any two
lengths: as soon as no leaf input can be read as the input of an inner node, two trees with
one digest are one tree, or a first difference on the way down is a collision. -/

namespace Tarka.Lib

open List

section

variable {Q D ε : Type} (H : Q → D) (pair : D → D → Q)

/-! ## The computation -/

/-- One level up: adjacent pairs are hashed, an odd last node is promoted. -/
def levelUp : List D → HashRun Q ε (List D)
  | l :: r :: rest => do
    let h ← HashRun.query H (pair l r)
    let up ← levelUp rest
    return h :: up
  | [d] => return [d]
  | [] => return []

/-- Level after level until one node is left. The fuel bounds the number of levels. -/
def rootLoop : Nat → List D → HashRun Q ε (Option D)
  | _, [] => return none
  | _, [d] => return some d
  | 0, _ :: _ :: _ => return none
  | k + 1, l :: r :: rest => do
    let up ← levelUp H pair (l :: r :: rest)
    rootLoop k up

/-- The Merkle root of a list of leaf digests; an empty list has none. -/
def merkleRoot (leaves : List D) : HashRun Q ε (Option D) := rootLoop H pair leaves.length leaves

/-! ## Trees -/

/-- A binary hash tree. A leaf holds the input that is hashed at it. -/
inductive MerkleTree (Q : Type) where
  | leaf (q : Q)
  | node (l r : MerkleTree Q)

namespace MerkleTree

def digest : MerkleTree Q → D
  | leaf q => H q
  | node l r => H (pair l.digest r.digest)

def leaves : MerkleTree Q → List Q
  | leaf q => [q]
  | node l r => l.leaves ++ r.leaves

def inner : MerkleTree Q → List Q
  | leaf _ => []
  | node l r => pair (l.digest H pair) (r.digest H pair) :: (l.inner ++ r.inner)

theorem exists_mem_digest (t : MerkleTree Q) :
    ∃ q ∈ t.leaves ++ t.inner H pair, H q = t.digest H pair := by
  cases t with
  | leaf q => exact ⟨q, by simp [leaves], rfl⟩
  | node l r => exact ⟨_, mem_append_right _ mem_cons_self, rfl⟩

/-- **One digest, one tree.** If the pairing is injective and no leaf input is the pairing of
two digests, trees with equal digests are equal, or their hash inputs exhibit a collision. -/
theorem eq_or_collides (hpair : Function.Injective2 pair) :
    ∀ t₁ t₂ : MerkleTree Q,
      (∀ q ∈ t₁.leaves, ∀ a b, q ≠ pair a b) → (∀ q ∈ t₂.leaves, ∀ a b, q ≠ pair a b) →
      t₁.digest H pair = t₂.digest H pair →
      t₁ = t₂ ∨
        Collides H (t₁.leaves ++ t₁.inner H pair) (t₂.leaves ++ t₂.inner H pair) := by
  intro t₁
  induction t₁ with
  | leaf q =>
    intro t₂ hs₁ _ hd
    cases t₂ with
    | leaf q' =>
      have hq : q = q' ∨ Collides H [q] [q'] :=
        Tarka.Lib.eq_or_collides (by simp) (by simp) hd
      rcases hq with rfl | hc
      · exact .inl rfl
      · exact .inr (hc.mono (by simp [leaves]) (by simp [leaves]))
    | node l r =>
      -- a leaf and an inner node never hash the same input
      refine .inr ⟨q, by simp [leaves], _, mem_append_right _ mem_cons_self, ?_, hd⟩
      exact hs₁ q (by simp [leaves]) _ _
  | node l r ihl ihr =>
    intro t₂ hs₁ hs₂ hd
    cases t₂ with
    | leaf q' =>
      refine .inr ⟨_, mem_append_right _ mem_cons_self, q', by simp [leaves], ?_, hd⟩
      exact (hs₂ q' (by simp [leaves]) _ _).symm
    | node l' r' =>
      by_cases hp : pair (l.digest H pair) (r.digest H pair)
          = pair (l'.digest H pair) (r'.digest H pair)
      · obtain ⟨hl, hr⟩ := hpair hp
        have hlL := ihl l' (fun q hq => hs₁ q (by simp [leaves, hq]))
          (fun q hq => hs₂ q (by simp [leaves, hq])) hl
        have hrR := ihr r' (fun q hq => hs₁ q (by simp [leaves, hq]))
          (fun q hq => hs₂ q (by simp [leaves, hq])) hr
        rcases hlL with rfl | hc
        · rcases hrR with rfl | hc
          · exact .inl rfl
          · refine .inr (hc.mono ?_ ?_) <;> (intro x hx; simp [leaves, inner] at hx ⊢; tauto)
        · refine .inr (hc.mono ?_ ?_) <;> (intro x hx; simp [leaves, inner] at hx ⊢; tauto)
      · exact .inr ⟨_, mem_append_right _ mem_cons_self, _,
          mem_append_right _ mem_cons_self, hp, hd⟩

end MerkleTree

/-! ## The levels are forests -/

open MerkleTree

def pairTrees : List (MerkleTree Q) → List (MerkleTree Q)
  | l :: r :: rest => .node l r :: pairTrees rest
  | [t] => [t]
  | [] => []

theorem length_pairTrees : ∀ ts : List (MerkleTree Q),
    (pairTrees ts).length = (ts.length + 1) / 2
  | l :: r :: rest => by simp only [pairTrees, length_cons, length_pairTrees rest]; omega
  | [_] => by simp [pairTrees]
  | [] => by simp [pairTrees]

theorem leaves_pairTrees : ∀ ts : List (MerkleTree Q),
    (pairTrees ts).flatMap leaves = ts.flatMap leaves
  | l :: r :: rest => by simp [pairTrees, leaves, leaves_pairTrees rest]
  | [_] => by simp [pairTrees]
  | [] => by simp [pairTrees]

/-- **One level of the computation is one level of pairing**, and the inputs of the new inner
nodes are in the log. -/
theorem levelUp_digests : ∀ ts : List (MerkleTree Q), ∃ log,
    (levelUp H pair (ts.map (digest H pair)) : HashRun Q ε _)
      = ⟨.ok ((pairTrees ts).map (digest H pair)), log⟩
    ∧ (pairTrees ts).flatMap (inner H pair)
        ⊆ ts.flatMap (inner H pair) ++ log
  | l :: r :: rest => by
    obtain ⟨log, hrun, hsub⟩ := levelUp_digests rest
    refine ⟨pair (l.digest H pair) (r.digest H pair) :: log, ?_, ?_⟩
    · simp [levelUp, hrun, HashRun.query, pairTrees, digest]
    · intro x hx
      simp only [pairTrees, flatMap_cons, MerkleTree.inner, cons_append, mem_cons, mem_append] at hx
      rcases hx with rfl | (hx | hx) | hx
      · simp
      · simp [hx]
      · simp [hx]
      · have := hsub hx
        simp only [mem_append] at this
        rcases this with h | h
        · simp only [flatMap_cons, mem_append]; tauto
        · simp [h]
  | [t] => ⟨[], by simp [levelUp, pairTrees], by simp [pairTrees]⟩
  | [] => ⟨[], by simp [levelUp, pairTrees], by simp [pairTrees]⟩

theorem rootLoop_digests : ∀ (k : Nat) (ts : List (MerkleTree Q)), ts ≠ [] → ts.length ≤ k + 1 →
    ∃ (t : MerkleTree Q) (log : List Q),
      (rootLoop H pair k (ts.map (digest H pair)) : HashRun Q ε _)
        = ⟨.ok (some (t.digest H pair)), log⟩
      ∧ t.leaves = ts.flatMap leaves
      ∧ t.inner H pair ⊆ ts.flatMap (inner H pair) ++ log
  | _, [], hne, _ => absurd rfl hne
  | k, [t], _, _ => ⟨t, [], by cases k <;> simp [rootLoop], by simp, by simp⟩
  | 0, _ :: _ :: _, _, hlen => by simp at hlen
  | k + 1, l :: r :: rest, _, hlen => by
    obtain ⟨log₁, hrun₁, hsub₁⟩ := levelUp_digests (ε := ε) H pair (l :: r :: rest)
    have hlen' : (pairTrees (l :: r :: rest)).length ≤ k + 1 := by
      rw [length_pairTrees]; simp only [length_cons] at hlen ⊢; omega
    obtain ⟨t, log₂, hrun₂, hleaves, hsub₂⟩ :=
      rootLoop_digests k (pairTrees (l :: r :: rest)) (by simp [pairTrees]) hlen'
    refine ⟨t, log₁ ++ log₂, ?_, ?_, ?_⟩
    · rw [map_cons, map_cons] at hrun₁ ⊢
      rw [rootLoop, hrun₁, HashRun.ok_bind, hrun₂]
    · rw [hleaves, leaves_pairTrees]
    · intro x hx
      have h₂ := hsub₂ hx
      simp only [mem_append] at h₂ ⊢
      rcases h₂ with h | h
      · have h₁ := hsub₁ h
        simp only [mem_append] at h₁
        tauto
      · tauto

/-- **The root of a list of leaf digests is the digest of a tree over exactly those leaves**,
and the inputs of its inner nodes are all in the log. -/
theorem merkleRoot_eq_digest (qs : List Q) (hne : qs ≠ []) :
    ∃ (t : MerkleTree Q) (log : List Q),
      (merkleRoot H pair (qs.map H) : HashRun Q ε _) = ⟨.ok (some (t.digest H pair)), log⟩
      ∧ t.leaves = qs ∧ t.inner H pair ⊆ log := by
  have hmap : (qs.map leaf).map (digest H pair) = qs.map H := by
    simp [digest]
  obtain ⟨t, log, hrun, hleaves, hsub⟩ :=
    rootLoop_digests (ε := ε) H pair qs.length (qs.map .leaf) (by simpa using hne) (by simp)
  refine ⟨t, log, ?_, ?_, ?_⟩
  · rw [merkleRoot, length_map, ← hmap, hrun]
  · rw [hleaves, flatMap_map]
    simp [leaves]
  · intro x hx
    have := hsub hx
    simpa [flatMap_map, MerkleTree.inner] using this

end

end Tarka.Lib
