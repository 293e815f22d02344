import Tarka.Lib.MerkleTree
import Tarka.Lib.TreeIndex

/-! # Multiproofs

A verifier that knows some nodes of the bottom layer of a hash tree climbs to the root: on each
layer it merges in the helper hashes the proof supplies, hashes adjacent nodes and goes on with
the parents. `climb` is that loop; which nodes it has on which layer depends only on the indices
(`Lib/TreeIndex.lean`).

* `climb_honest`: with the tree's own nodes as helpers, the climb computes the tree's root, and
  hashes nothing that building the tree does not hash.
* `climb_unique`: two climbs along the same indices to the same nodes started from the same
  nodes and used the same helpers, or their logs exhibit a collision. -/

namespace Tarka.Lib

open List HashRun Nat

section

variable {Q D ε : Type} (H : Q → D) (pair : D → D → Q)

/-! ## One level -/

def nextLevel : List D → List D
  | l :: r :: rest => H (pair l r) :: nextLevel rest
  | [d] => [d]
  | [] => []

def levelInputs : List D → List Q
  | l :: r :: rest => pair l r :: levelInputs rest
  | [_] => []
  | [] => []

theorem levelUp_eq : ∀ l : List D,
    (levelUp H pair l : HashRun Q ε (List D)) = ⟨.ok (nextLevel H pair l), levelInputs pair l⟩
  | l :: r :: rest => by simp [levelUp, HashRun.query, levelUp_eq rest, nextLevel, levelInputs]
  | [_] => rfl
  | [] => rfl

theorem length_nextLevel : ∀ l : List D, (nextLevel H pair l).length = (l.length + 1) / 2
  | l :: r :: rest => by simp only [nextLevel, length_cons, length_nextLevel rest]; omega
  | [_] => by simp [nextLevel]
  | [] => by simp [nextLevel]

/-- **One level is injective up to collisions**, for nodes in the same number. -/
theorem nextLevel_inj_or_collides (hpair : Function.Injective2 pair) : ∀ l₁ l₂ : List D,
    l₁.length = l₂.length → nextLevel H pair l₁ = nextLevel H pair l₂ →
    l₁ = l₂ ∨ Collides H (levelInputs pair l₁) (levelInputs pair l₂)
  | a :: b :: l₁, c :: d :: l₂, hlen, h => by
    simp only [nextLevel, cons.injEq] at h
    have hrest := nextLevel_inj_or_collides hpair l₁ l₂ (by simpa using hlen) h.2
    have hhead : pair a b = pair c d ∨
        Collides H (pair a b :: levelInputs pair l₁) (pair c d :: levelInputs pair l₂) :=
      eq_or_collides (by simp) (by simp) h.1
    rcases hhead with hhead | hc
    · obtain ⟨rfl, rfl⟩ := hpair hhead
      rcases hrest with rfl | hc
      · exact Or.inl rfl
      · exact Or.inr (hc.mono (subset_cons_self _ _) (subset_cons_self _ _))
    · exact Or.inr hc
  | [a], [b], _, h => Or.inl h
  | [], [], _, _ => Or.inl rfl
  | [], _ :: _, hlen, _ => by simp at hlen
  | _ :: _, [], hlen, _ => by simp at hlen
  | [_], _ :: _ :: _, hlen, _ => by simp at hlen
  | _ :: _ :: _, [_], hlen, _ => by simp at hlen

/-! ## The nodes of a tree, layer by layer -/

/-- The node `p` of the layer above a layer of `n` nodes `t 0, …, t (n - 1)`. -/
def above (n : Nat) (t : Nat → D) (p : Nat) : D :=
  if 2 * p + 1 < n then H (pair (t (2 * p)) (t (2 * p + 1))) else t (2 * p)

/-- What is hashed to obtain the nodes `P` of the layer above. -/
def aboveInputs (n : Nat) (t : Nat → D) (P : List Nat) : List Q :=
  (P.filter (fun p => decide (2 * p + 1 < n))).map (fun p => pair (t (2 * p)) (t (2 * p + 1)))

theorem nextLevel_expand (n : Nat) (t : Nat → D) : ∀ {P : List Nat}, InLayer ((n + 1) / 2) P →
    nextLevel H pair ((expand n P).map t) = P.map (above H pair n t)
      ∧ levelInputs pair ((expand n P).map t) = aboveInputs pair n t P
  | [], _ => by simp [expand, nextLevel, levelInputs, aboveInputs]
  | [p], _ => by
    by_cases hp : 2 * p + 1 < n
    · simp [expand, block, hp, nextLevel, levelInputs, aboveInputs, above]
    · simp [expand, block, hp, nextLevel, levelInputs, aboveInputs, above]
  | p :: q :: P, hP => by
    have hpq : p < q := rel_of_pairwise_cons hP.increasing (by simp)
    have hq := hP.lt q (by simp)
    have hp : 2 * p + 1 < n := by omega
    obtain ⟨hnext, hin⟩ := nextLevel_expand n t
      ⟨hP.increasing.of_cons, fun x hx => hP.lt x (mem_cons_of_mem _ hx)⟩
    have hexp : expand n (p :: q :: P) = 2 * p :: (2 * p + 1) :: expand n (q :: P) := by
      simp [expand, block, hp]
    constructor
    · have habove : above H pair n t p = H (pair (t (2 * p)) (t (2 * p + 1))) := if_pos hp
      rw [hexp, map_cons, map_cons, nextLevel, hnext, ← habove]
      rfl
    · rw [hexp, map_cons, map_cons, levelInputs, hin]
      simp [aboveInputs, hp]

variable {n : Nat}

/-- The nodes of the layer `d` above. -/
def layerAt : Nat → Nat → (Nat → D) → Nat → D
  | 0, _, t => t
  | d + 1, n, t => layerAt d ((n + 1) / 2) (above H pair n t)

/-- What is hashed on the way up from the nodes `S`, layer by layer. -/
def climbInputs : Nat → Nat → List Nat → (Nat → D) → List Q
  | 0, _, _, _ => []
  | d + 1, n, S, t =>
    aboveInputs pair n t (parents S)
      ++ climbInputs d ((n + 1) / 2) (parents S) (above H pair n t)

variable {d : Nat} {S : List Nat} {t : Nat → D}

theorem climbInputs_mono {T : List Nat} (h : S ⊆ T) :
    climbInputs H pair d n S t ⊆ climbInputs H pair d n T t := by
  induction d generalizing n S T t with
  | zero => simp [climbInputs]
  | succ d ih =>
    have hparents : parents S ⊆ parents T := by
      intro p hp
      obtain ⟨s, hs, rfl⟩ := mem_parents.mp hp
      exact mem_parents.mpr ⟨s, h hs, rfl⟩
    have hhere : aboveInputs pair n t (parents S) ⊆ aboveInputs pair n t (parents T) :=
      map_subset _ (filter_subset _ hparents)
    intro q hq
    rcases mem_append.mp hq with hq | hq
    · exact mem_append_left _ (hhere hq)
    · exact mem_append_right _ (ih hparents hq)

/-! ## The climb -/

def sortNodes (l : List (Nat × D)) : List (Nat × D) :=
  l.insertionSort (fun a b => a.1 ≤ b.1)

/-- From a layer's nodes to the layer `layers.length` above, merging the given nodes into each
layer on the way. -/
def climb : List (List (Nat × D)) → List (Nat × D) → HashRun Q ε (List (Nat × D))
  | [], cur => return cur
  | layer :: layers, cur => do
    let merged := sortNodes (cur ++ layer)
    let up ← levelUp H pair (merged.map Prod.snd)
    climb layers ((parents (merged.map Prod.fst)).zip up)

def helperLayers : Nat → Nat → List Nat → List (List Nat)
  | 0, _, _ => []
  | d + 1, n, S => helpers n S :: helperLayers d ((n + 1) / 2) (parents S)

def honestLayers : Nat → Nat → List Nat → (Nat → D) → List (List D)
  | 0, _, _, _ => []
  | d + 1, n, S, t =>
    (helpers n S).map t :: honestLayers d ((n + 1) / 2) (parents S) (above H pair n t)

theorem map_fst_sortNodes (l : List (Nat × D)) :
    (sortNodes l).map Prod.fst = (l.map Prod.fst).insertionSort (· ≤ ·) :=
  map_insertionSort _ _ _ _ (fun _ _ _ _ => Iff.rfl)

theorem sortNodes_map (t : Nat → D) (l : List Nat) :
    sortNodes (l.map (fun i => (i, t i)))
      = (l.insertionSort (· ≤ ·)).map (fun i => (i, t i)) :=
  (map_insertionSort _ _ (fun i => (i, t i)) _ (fun _ _ _ _ => Iff.rfl)).symm

theorem zip_map_self (t : Nat → D) (l : List Nat) :
    l.zip (l.map t) = l.map (fun i => (i, t i)) := by
  rw [← zip_map', map_id']

/-- **The honest climb** computes the tree's nodes and hashes only what the tree hashes. -/
theorem climb_honest (hS : InLayer n S) :
    (climb H pair (zipWith zip (helperLayers d n S) (honestLayers H pair d n S t))
        (S.map (fun i => (i, t i))) : HashRun Q ε _)
      = ⟨.ok ((ancestors d S).map (fun i => (i, layerAt H pair d n t i))),
          climbInputs H pair d n S t⟩ := by
  induction d generalizing n S t with
  | zero => rfl
  | succ d ih =>
    have hmerged : sortNodes (S.map (fun i => (i, t i)) ++ (helpers n S).map (fun i => (i, t i)))
        = (expand n (parents S)).map (fun i => (i, t i)) := by
      rw [← map_append, sortNodes_map, insertionSort_helpers hS]
    obtain ⟨hnext, hin⟩ := nextLevel_expand H pair n t hS.up
    simp only [helperLayers, honestLayers, zipWith_cons_cons, climb]
    rw [zip_map_self, hmerged, map_map, map_map, levelUp_eq]
    have hsnd : (Prod.snd ∘ fun i => (i, t i)) = t := rfl
    have hfst : (Prod.fst ∘ fun i => (i, t i)) = id := rfl
    rw [hsnd, hfst, map_id, hnext, hin, ok_bind, parents_expand hS.up, zip_map_self, ih hS.up]
    rfl

/-- The order in which nodes with distinct indices come does not matter. -/
theorem sortNodes_eq_of_perm {l₁ l₂ : List (Nat × D)} (hperm : l₁.Perm l₂)
    (hnd : (l₁.map Prod.fst).Nodup) : sortNodes l₁ = sortNodes l₂ := by
  have htotal : Std.Total (fun a b : Nat × D => a.1 ≤ b.1) := ⟨fun a b => le_total a.1 b.1⟩
  have htrans : IsTrans (Nat × D) (fun a b => a.1 ≤ b.1) := ⟨fun _ _ _ => Nat.le_trans⟩
  have hnd₂ : (l₂.map Prod.fst).Nodup := (hperm.map Prod.fst).nodup_iff.mp hnd
  refine insertionSort_eq_of_perm hperm ?_
  intro a ha b hb hab hba
  exact inj_on_of_nodup_map hnd₂ ha hb (le_antisymm hab hba)

variable {v : List D}

/-- Sorting loses nothing: sorted nodes with the same indices and values come from the same
values. -/
theorem sortNodes_zip_inj {I : List Nat} {w : List D} (hnd : I.Nodup) (hv : v.length = I.length)
    (hw : w.length = I.length)
    (h : (sortNodes (I.zip v)).map Prod.snd = (sortNodes (I.zip w)).map Prod.snd) : v = w := by
  have fst_zip : ∀ {u : List D}, u.length = I.length → (I.zip u).map Prod.fst = I :=
    fun hu => map_fst_zip (le_of_eq hu.symm)
  have hfst : (sortNodes (I.zip v)).map Prod.fst = (sortNodes (I.zip w)).map Prod.fst := by
    rw [map_fst_sortNodes, map_fst_sortNodes, fst_zip hv, fst_zip hw]
  have hsorted : sortNodes (I.zip v) = sortNodes (I.zip w) :=
    (zip_of_prod hfst h).trans (zip_of_prod rfl rfl).symm
  have hperm : (I.zip v).Perm (I.zip w) :=
    (perm_insertionSort _ _).symm.trans ((Perm.of_eq hsorted).trans (perm_insertionSort _ _))
  have hzip : I.zip v = I.zip w :=
    eq_of_perm_of_keys hperm (by rw [fst_zip hv, fst_zip hw]) (by rwa [fst_zip hv])
  have hsnd := congrArg (map Prod.snd) hzip
  rwa [map_snd_zip (le_of_eq hv), map_snd_zip (le_of_eq hw)] at hsnd

/-- The values of a layer with nodes `S` and helpers merged in, in the order of the indices. -/
def layerValues (n : Nat) (S : List Nat) (v c : List D) : List D :=
  (sortNodes ((S ++ helpers n S).zip (v ++ c))).map Prod.snd

section

variable {c : List D} (hS : InLayer n S) (hv : v.length = S.length)
  (hc : c.length = (helpers n S).length)

include hS hv hc

theorem length_layerValues :
    (layerValues n S v c).length = (expand n (parents S)).length := by
  rw [← insertionSort_helpers hS]
  simp [layerValues, sortNodes, hv, hc]

theorem length_nextLevel_layerValues :
    (nextLevel H pair (layerValues n S v c)).length = (parents S).length := by
  have h := (nextLevel_expand (fun _ : Unit => ()) (fun _ _ => ()) n (fun _ => ()) hS.up).1
  have hlenExp := congrArg length h
  rw [length_nextLevel, length_map, length_map] at hlenExp
  rw [length_nextLevel, length_layerValues hS hv hc, hlenExp]

/-- With its helpers, a layer has the indices of the complete layer over `parents S`. -/
theorem map_fst_layer :
    (sortNodes ((S ++ helpers n S).zip (v ++ c))).map Prod.fst = expand n (parents S) := by
  rw [map_fst_sortNodes, map_fst_zip (by simp [hv, hc]), insertionSort_helpers hS]

/-- **One layer of a climb.** -/
theorem climb_cons (layers : List (List (Nat × D))) :
    (climb H pair ((helpers n S).zip c :: layers) (S.zip v) : HashRun Q ε _)
      = ⟨.ok (nextLevel H pair (layerValues n S v c)), levelInputs pair (layerValues n S v c)⟩
          >>= fun up => climb H pair layers ((parents S).zip up) := by
  have hzip : S.zip v ++ (helpers n S).zip c = (S ++ helpers n S).zip (v ++ c) :=
    (zip_append hv.symm).symm
  rw [climb, hzip, map_fst_layer hS hv hc, parents_expand hS.up, levelUp_eq]
  rfl

end

/-- The chunks of helper hashes have the sizes the indices ask for. -/
def ChunksFit (d n : Nat) (S : List Nat) (cs : List (List D)) : Prop :=
  cs.map List.length = (helperLayers d n S).map List.length

theorem chunksFit_honest : ChunksFit d n S (honestLayers H pair d n S t) := by
  induction d generalizing n S t with
  | zero => rfl
  | succ d ih =>
    simp only [ChunksFit, honestLayers, helperLayers, map_cons, length_map] at ih ⊢
    rw [ih]

variable {cs : List (List D)}

theorem ChunksFit.exists_cons (h : ChunksFit (d + 1) n S cs) :
    ∃ c rest, cs = c :: rest ∧ c.length = (helpers n S).length
      ∧ ChunksFit d ((n + 1) / 2) (parents S) rest := by
  cases cs with
  | nil => simp [ChunksFit, helperLayers] at h
  | cons c rest =>
    simp only [ChunksFit, helperLayers, map_cons, cons.injEq] at h
    exact ⟨c, rest, rfl, h⟩

theorem helperLayers_range : ∀ d n : Nat, helperLayers d n (range n) = replicate d []
  | 0, _ => rfl
  | d + 1, n => by
    rw [helperLayers, helpers_range, parents_range, helperLayers_range d, replicate_succ]

theorem zip_helperLayers_range :
    ∀ l ∈ zipWith zip (helperLayers d n (range n)) cs, l = [] := by
  rw [helperLayers_range]
  induction d generalizing cs with
  | zero => simp
  | succ d ih =>
    cases cs with
    | nil => simp
    | cons c cs =>
      exact forall_mem_cons.mpr ⟨rfl, ih⟩

/-- **A climb ends at the ancestors.** -/
theorem climb_ok (hS : InLayer n S) (hv : v.length = S.length) (hfit : ChunksFit d n S cs) :
    ∃ vs log, (climb H pair (zipWith zip (helperLayers d n S) cs) (S.zip v) :
        HashRun Q ε _) = ⟨.ok ((ancestors d S).zip vs), log⟩
      ∧ vs.length = (ancestors d S).length := by
  induction d generalizing n S v cs with
  | zero => exact ⟨v, [], rfl, hv⟩
  | succ d ih =>
    obtain ⟨c, rest, rfl, hc, hrest⟩ := hfit.exists_cons
    obtain ⟨vs, log, hrun, hlen⟩ := ih hS.up (length_nextLevel_layerValues H pair hS hv hc) hrest
    refine ⟨vs, levelInputs pair (layerValues n S v c) ++ log, ?_, hlen⟩
    rw [helperLayers, zipWith_cons_cons, climb_cons H pair hS hv hc, ok_bind, hrun]
    rfl

/-- **Two climbs to the same nodes** along the same indices started from the same nodes with the
same helpers, or they exhibit a collision. -/
theorem climb_unique (hpair : Function.Injective2 pair) {v₁ v₂ : List D} {cs₁ cs₂ : List (List D)}
    {out : List (Nat × D)} {log₁ log₂ : List Q} (hS : InLayer n S) (hv₁ : v₁.length = S.length)
    (hv₂ : v₂.length = S.length) (hf₁ : ChunksFit d n S cs₁) (hf₂ : ChunksFit d n S cs₂)
    (h₁ : (climb H pair (zipWith zip (helperLayers d n S) cs₁) (S.zip v₁) : HashRun Q ε _)
      = ⟨.ok out, log₁⟩)
    (h₂ : (climb H pair (zipWith zip (helperLayers d n S) cs₂) (S.zip v₂) : HashRun Q ε _)
      = ⟨.ok out, log₂⟩) :
    (v₁ = v₂ ∧ cs₁ = cs₂) ∨ Collides H log₁ log₂ := by
  induction d generalizing n S v₁ v₂ cs₁ cs₂ log₁ log₂ with
  | zero =>
    have hcs : cs₁ = cs₂ := by
      simp only [ChunksFit, helperLayers, map_nil, map_eq_nil_iff] at hf₁ hf₂
      rw [hf₁, hf₂]
    have hzip : S.zip v₁ = S.zip v₂ := by
      simp only [helperLayers, zipWith_nil_left, climb, pure_eq, HashRun.mk.injEq,
        Except.ok.injEq] at h₁ h₂
      exact h₁.1.trans h₂.1.symm
    have hsnd := congrArg (map Prod.snd) hzip
    rw [map_snd_zip (le_of_eq hv₁), map_snd_zip (le_of_eq hv₂)] at hsnd
    exact .inl ⟨hsnd, hcs⟩
  | succ d ih =>
    obtain ⟨c₁, cs₁, rfl, hc₁, hf₁⟩ := hf₁.exists_cons
    obtain ⟨c₂, cs₂, rfl, hc₂, hf₂⟩ := hf₂.exists_cons
    rw [helperLayers, zipWith_cons_cons, climb_cons H pair hS hv₁ hc₁, ok_bind,
      HashRun.mk.injEq] at h₁
    rw [helperLayers, zipWith_cons_cons, climb_cons H pair hS hv₂ hc₂, ok_bind,
      HashRun.mk.injEq] at h₂
    -- from the top down: first the layers above, then the hashes of this one
    have habove := ih hS.up (length_nextLevel_layerValues H pair hS hv₁ hc₁)
      (length_nextLevel_layerValues H pair hS hv₂ hc₂) hf₁ hf₂ (by rw [← h₁.1]) (by rw [← h₂.1])
    rw [← h₁.2, ← h₂.2]
    rcases habove with ⟨hnext, hcs⟩ | hcol
    · have hlen := (length_layerValues hS hv₁ hc₁).trans (length_layerValues hS hv₂ hc₂).symm
      rcases nextLevel_inj_or_collides H pair hpair _ _ hlen hnext with hvals | hcol
      · have happ := sortNodes_zip_inj (nodup_append_helpers (hS.increasing.imp ne_of_lt))
          (by simp [hv₁, hc₁]) (by simp [hv₂, hc₂]) hvals
        obtain ⟨hv, hc⟩ := append_inj happ (hv₁.trans hv₂.symm)
        exact .inl ⟨hv, by rw [hc, hcs]⟩
      · exact .inr (hcol.mono (subset_append_left _ _) (subset_append_left _ _))
    · exact .inr (hcol.mono (subset_append_right _ _) (subset_append_right _ _))

/-! ## The root of a full layer -/

theorem layerAt_one : layerAt H pair d 1 t 0 = t 0 := by
  induction d generalizing t with
  | zero => rfl
  | succ d ih =>
    rw [layerAt, ih]
    simp [above]

/-- **The root that the level-wise loop finds** is the top node of the layers over the leaves. -/
theorem rootLoop_eq_layerAt : ∀ {k d n : Nat} {t : Nat → D}, 0 < n → n ≤ k + 1 → n ≤ 2 ^ d →
    (rootLoop H pair k ((range n).map t) : HashRun Q ε _).result
      = .ok (some (layerAt H pair d n t 0))
  | _, _, 0, _, hpos, _, _ => absurd hpos (lt_irrefl 0)
  | k, d, 1, t, _, _, _ => by
    rw [layerAt_one]
    cases k <;> rfl
  | 0, _, n + 2, _, _, hk, _ => by omega
  | _, 0, n + 2, _, _, _, hd => by simp at hd
  | k + 1, d + 1, n + 2, t, _, hk, hd => by
    have hup : nextLevel H pair ((range (n + 2)).map t)
        = (range ((n + 2 + 1) / 2)).map (above H pair (n + 2) t) := by
      rw [← (nextLevel_expand H pair (n + 2) t (inLayer_range _)).1, expand_range]
    have hcons : ∃ a b rest, (range (n + 2)).map t = a :: b :: rest := by
      rw [range_succ_eq_map, range_succ_eq_map]
      exact ⟨_, _, _, rfl⟩
    obtain ⟨a, b, rest, hlist⟩ := hcons
    rw [hlist, rootLoop, ← hlist, levelUp_eq, hup]
    exact rootLoop_eq_layerAt (by omega) (by omega) (by rw [pow_succ] at hd; omega)

end

end Tarka.Lib
