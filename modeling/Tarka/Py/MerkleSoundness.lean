import Tarka.Py.MerkleProof

/-! # What a Python Merkle proof proves

* The proof that the tree itself generates is accepted, and an accepted proof is for the leaves of
  the tree, or it exhibits a collision with the tree (`proofs_complete_and_sound`). Both need a
  non-empty set of indices: for an empty one the verifier finds no root and raises.
* Accepted proofs of one length are one proof, up to collisions, but an accepted proof may be
  continued with any whole number of hashes (`proofs_equal_iff_extra_equal`): the verifier does not
  look at the hashes that its climb has not asked for. -/

namespace Tarka.Py

open Tarka.Lib Tarka.Evidence List Subtype

section

variable (sha256 : Bytes → Digest)

/-! ## The honest proof -/

def treeRoot (leaves : List Digest) : Digest :=
  layerAt sha256 nodeInput (treeDepth leaves.length) leaves.length (leafAt leaves) 0

/-- The proof `rs_merkle` generates for the leaves at the indices: on each layer from the bottom,
the nodes of the tree beside those above the leaves, as far as they exist. -/
def honestProof (leaves : List Digest) (I : List Nat) : Bytes :=
  hashBytes (honestLayers sha256 nodeInput (treeDepth leaves.length) leaves.length
    (sortedIndices I) (leafAt leaves)).flatten

theorem sortedHashes_map (I : List Nat) (t : Nat → Digest) :
    sortedHashes I (I.map t) = (sortedIndices I).map t := by
  rw [sortedHashes, zip_map_self, sortNodes_map, map_map]
  rfl

variable {I : List Nat}

/-- **The honest proof leads to the root of the tree**, and verifying it hashes nothing that
building the tree does not. -/
theorem merkleProofRoot_honest {leaves : List Digest} (hI : ValidIndices leaves.length I) :
    merkleProofRoot sha256 (honestProof sha256 leaves I) I
        ((I.map (leafAt leaves)).map val) leaves.length
      = ⟨.ok (treeRoot sha256 leaves).val,
          climbInputs sha256 nodeInput (treeDepth leaves.length) leaves.length (sortedIndices I)
            (leafAt leaves)⟩ := by
  have hrun : proofClimb sha256 leaves.length I (I.map (leafAt leaves))
      (honestLayers sha256 nodeInput (treeDepth leaves.length) leaves.length (sortedIndices I)
        (leafAt leaves))
      = ⟨.ok [(0, treeRoot sha256 leaves)], climbInputs sha256 nodeInput (treeDepth leaves.length)
          leaves.length (sortedIndices I) (leafAt leaves)⟩ := by
    rw [proofClimb, sortedHashes_map, zip_map_self, climb_honest _ _ hI.inLayer,
      ancestors_treeDepth hI.inLayer hI.sorted_ne_nil]
    rfl
  have heq := merkleProofRoot_eq sha256 hI (by simp) (chunksFit_honest _ _) [] hrun
  rw [append_nil] at heq
  exact heq

/-! ## Two accepted proofs -/

def proofLength (n : Nat) (I : List Nat) : Nat :=
  32 * ((proofIndicesByLayers (sortedIndices I) n).map List.length).sum

variable {n : Nat}

theorem length_chunks {cs : List (List Digest)} (hI : ValidIndices n I)
    (hcs : ProofChunks n I cs) : (hashBytes cs.flatten).length = proofLength n I := by
  have hbins := proofIndicesByLayers_eq hI.inLayer
  rw [ProofChunks, ChunksFit, ← hbins] at hcs
  rw [length_hashBytes, length_flatten, hcs, proofLength]

variable {p r : Bytes} {hs : List Bytes}

/-- **Two accepted proofs** for one set of indices and one root are for the same leaves and agree
on the bytes that are asked for, or they exhibit a collision. -/
theorem accepted_unique {q : Bytes} {hs' log log' : List Bytes} (hI : ValidIndices n I)
    (hp : merkleProofRoot sha256 p I hs n = ⟨.ok r, log⟩)
    (hq : merkleProofRoot sha256 q I hs' n = ⟨.ok r, log'⟩) :
    (hs = hs' ∧ p.take (proofLength n I) = q.take (proofLength n I))
      ∨ Collides sha256 log log' := by
  obtain ⟨ds, cs, extra, root, hds, hlen, hpEq, hcs, hr, hrun⟩ := merkleProofRoot_inv sha256 hI hp
  obtain ⟨ds', cs', extra', root', hds', hlen', hqEq, hcs', hr', hrun'⟩ :=
    merkleProofRoot_inv sha256 hI hq
  have hroot : root = root' := Subtype.ext (hr.symm.trans hr')
  subst hroot
  have htake : ∀ {cs : List (List Digest)} (extra : List Digest), ProofChunks n I cs →
      (hashBytes (cs.flatten ++ extra)).take (proofLength n I) = hashBytes cs.flatten := by
    intro cs extra hcs
    rw [hashBytes_append, take_left' (length_chunks hI hcs)]
  rcases climb_unique sha256 nodeInput nodeInput_injective2 hI.inLayer (length_sortedHashes hlen)
    (length_sortedHashes hlen') hcs hcs' hrun hrun' with ⟨hv, hc⟩ | hcol
  · have hsame : ds = ds' := sortNodes_zip_inj hI.nodup hlen hlen' hv
    refine .inl ⟨by rw [hds, hds', hsame], ?_⟩
    rw [hpEq, hqEq, htake extra hcs, htake extra' hcs', hc]
  · exact .inr hcol

theorem run_eq {α : Type} {x : HashRun Bytes PyException α} {a : α} (h : x.result = .ok a) :
    x = ⟨.ok a, x.log⟩ := by
  rw [← h]

theorem accepted_append_iff (hI : ValidIndices n I)
    (hp : (merkleProofRoot sha256 p I hs n).result = .ok r) (extra : Bytes) :
    (merkleProofRoot sha256 (p ++ extra) I hs n).result = .ok r ↔ 32 ∣ extra.length := by
  obtain ⟨ds, cs, ex, root, hds, hlen, hpEq, hcs, hr, hrun⟩ :=
    merkleProofRoot_inv sha256 hI (run_eq hp)
  constructor
  · intro hacc
    obtain ⟨_, cs', ex', _, _, _, hEq, _⟩ := merkleProofRoot_inv sha256 hI (run_eq hacc)
    have hlens := congrArg length hEq
    rw [hpEq, length_append, length_hashBytes, length_hashBytes] at hlens
    omega
  · rintro ⟨k, hk⟩
    obtain ⟨es, hes⟩ := exists_hashBytes k extra hk
    have hwhole : p ++ extra = hashBytes (cs.flatten ++ (ex ++ es)) := by
      rw [hpEq, ← hes, ← hashBytes_append, append_assoc]
    rw [hwhole, hds, merkleProofRoot_eq sha256 hI hlen hcs (ex ++ es) hrun, hr]

/-- Accepted proofs are equal exactly if they are equal beyond the bytes that are asked for, or
they exhibit a collision. -/
theorem accepted_eq_iff_drop {q : Bytes} {hs' : List Bytes} (hI : ValidIndices n I)
    (hp : (merkleProofRoot sha256 p I hs n).result = .ok r)
    (hq : (merkleProofRoot sha256 q I hs' n).result = .ok r) :
    (p = q ↔ p.drop (proofLength n I) = q.drop (proofLength n I))
      ∨ Collides sha256 (merkleProofRoot sha256 p I hs n).log
          (merkleProofRoot sha256 q I hs' n).log := by
  rcases accepted_unique sha256 hI (run_eq hp) (run_eq hq) with ⟨-, htake⟩ | hcol
  · refine .inl ⟨fun h => by rw [h], ?_⟩
    intro hdrop
    rw [← take_append_drop (proofLength n I) p, htake, hdrop, take_append_drop]
  · exact .inr hcol

/-! ## The single-leaf verifier -/

theorem validIndices_singleton {i : Nat} (h : i < n) : ValidIndices n [i] where
  ne_nil := by simp
  nodup := by simp
  lt := by simpa using h

theorem comparedRoot_eq_true {run : HashRun Bytes PyException Bytes} {root : Bytes} :
    (comparedRoot run root).result = .ok true ↔ run.result = .ok root := by
  unfold comparedRoot
  cases run.result with
  | ok got => simp
  | error e => cases e <;> simp

/-- **`proof_verify` accepts** exactly if its arguments are in range and the root that the proof
leads to is the expected one. -/
theorem proofVerify_eq_true {root leafHash : Bytes} {i n : Int} :
    (proofVerify sha256 root leafHash p i n).result = .ok true ↔
      (root.length = 32 ∧ leafHash.length = 32 ∧ 0 ≤ i ∧ i < n)
      ∧ (merkleProofRoot sha256 p [i.toNat] [leafHash] n.toNat).result = .ok root := by
  have hrejected : (pure false : HashRun Bytes PyException Bool).result ≠ .ok true := by simp
  unfold proofVerify
  split_ifs with hroot hleaf hneg hzero hge
  · exact iff_of_false hrejected (fun h => hroot h.1.1)
  · exact iff_of_false hrejected (fun h => hleaf h.1.2.1)
  · exact iff_of_false hrejected (fun h => by omega)
  · exact iff_of_false hrejected (fun h => by omega)
  · exact iff_of_false hrejected (fun h => by omega)
  · have hrange : root.length = 32 ∧ leafHash.length = 32 ∧ 0 ≤ i ∧ i < n := by omega
    rw [comparedRoot_eq_true]
    exact ⟨fun h => ⟨hrange, h⟩, fun h => h.2⟩

theorem proofVerify_log {root leafHash : Bytes} {i n : Int}
    (h : (proofVerify sha256 root leafHash p i n).result = .ok true) :
    (proofVerify sha256 root leafHash p i n).log
      = (merkleProofRoot sha256 p [i.toNat] [leafHash] n.toNat).log := by
  obtain ⟨⟨hroot, hleaf, h0, hn⟩, -⟩ := (proofVerify_eq_true sha256).mp h
  unfold proofVerify
  rw [if_neg (by omega), if_neg (by omega), if_neg (by omega), if_neg (by omega),
    if_neg (by omega), comparedRoot]

end

/-! ## Completeness and soundness -/

/-- **Honest proofs are accepted, and accepted proofs are honest up to collisions**, for every
non-empty set of leaves of every tree, and for `proof_verify` on every leaf. -/
theorem proofs_complete_and_sound (sha256 : Bytes → Digest) (leaves : List Digest)
    (hne : leaves ≠ []) : ∃ root : Digest,
    (merkleRootRsSha256 sha256 (leaves.map Subtype.val)).result = .ok root.val
    ∧ (∀ I, ValidIndices leaves.length I →
        (merkleProofRoot sha256 (honestProof sha256 leaves I) I
          ((I.map (leafAt leaves)).map Subtype.val) leaves.length).result = .ok root.val
        ∧ ∀ (proof : Bytes) (claimed : List Bytes),
          (merkleProofRoot sha256 proof I claimed leaves.length).result = .ok root.val →
          claimed = (I.map (leafAt leaves)).map Subtype.val
            ∨ Collides sha256 (merkleProofRoot sha256 proof I claimed leaves.length).log
                (merkleRootRsSha256 sha256 (leaves.map Subtype.val)).log)
    ∧ (∀ i, i < leaves.length →
        (proofVerify sha256 root.val (leafAt leaves i).val (honestProof sha256 leaves [i]) i
          leaves.length).result = .ok true
        ∧ ∀ proof claimed : Bytes,
          (proofVerify sha256 root.val claimed proof i leaves.length).result = .ok true →
          claimed = (leafAt leaves i).val
            ∨ Collides sha256 (proofVerify sha256 root.val claimed proof i leaves.length).log
                (merkleRootRsSha256 sha256 (leaves.map Subtype.val)).log) := by
  have htree := merkleRootRsSha256_eq sha256 hne
  have hcomplete : ∀ I, ValidIndices leaves.length I →
      (merkleProofRoot sha256 (honestProof sha256 leaves I) I
        ((I.map (leafAt leaves)).map val) leaves.length).result
        = .ok (treeRoot sha256 leaves).val := by
    intro I hI
    rw [merkleProofRoot_honest sha256 hI]
  have hsound : ∀ I, ValidIndices leaves.length I → ∀ (proof : Bytes) (claimed : List Bytes),
      (merkleProofRoot sha256 proof I claimed leaves.length).result
        = .ok (treeRoot sha256 leaves).val →
      claimed = (I.map (leafAt leaves)).map val
        ∨ Collides sha256 (merkleProofRoot sha256 proof I claimed leaves.length).log
            (merkleRootRsSha256 sha256 (leaves.map val)).log := by
    intro I hI proof claimed hacc
    rcases accepted_unique sha256 hI (run_eq hacc) (merkleProofRoot_honest sha256 hI)
      with ⟨hsame, -⟩ | hcol
    · exact .inl hsame
    · -- what the honest run hashes, the tree hashes
      refine .inr (hcol.mono (Subset.refl _) ?_)
      rw [htree]
      exact climbInputs_mono _ _ (fun s hs => mem_range.mpr (hI.inLayer.lt s hs))
  refine ⟨treeRoot sha256 leaves, by rw [htree]; rfl, fun I hI => ⟨hcomplete I hI, hsound I hI⟩, ?_⟩
  intro i hi
  have hI := validIndices_singleton hi
  have hrange : 0 ≤ (i : Int) ∧ (i : Int) < (leaves.length : Int) := by omega
  constructor
  · refine (proofVerify_eq_true sha256).mpr ⟨⟨(treeRoot sha256 leaves).property,
      (leafAt leaves i).property, hrange⟩, ?_⟩
    exact hcomplete [i] hI
  · intro proof claimed hacc
    have hlog := proofVerify_log sha256 hacc
    have hrun := ((proofVerify_eq_true sha256).mp hacc).2
    rcases hsound [i] hI proof [claimed] hrun with hsame | hcol
    · exact .inl (cons.inj hsame).1
    · rw [hlog]
      exact .inr hcol

/-! ### Three zero leaves -/

namespace ThreeZeros

def pairDigest : Digest := ⟨[
    245, 165, 253, 66, 209, 106, 32, 48, 39, 152, 239, 110, 211, 9, 151, 155, 67, 0, 61, 35, 32,
    217, 240, 232, 234, 152, 49, 169, 39, 89, 251, 75], rfl⟩

/-- SHA-256 of `pairDigest` followed by 32 zero bytes. -/
def rootDigest : Digest := ⟨[
    122, 5, 1, 245, 149, 123, 223, 156, 179, 168, 255, 73, 102, 240, 34, 101, 249, 104, 101, 139,
    122, 156, 98, 100, 44, 186, 17, 101, 232, 102, 66, 245], rfl⟩

def sha256 (b : Bytes) : Digest :=
  if b = nodeInput zeroDigest zeroDigest then pairDigest
  else if b = nodeInput pairDigest zeroDigest then rootDigest
  else zeroDigest

def leaves : List Digest := [zeroDigest, zeroDigest, zeroDigest]

end ThreeZeros

open ThreeZeros

/-- The first and the last of three leaves. -/
theorem proofs_complete_and_sound_threeZeros : ∃ root : Digest,
    (merkleRootRsSha256 sha256 (leaves.map Subtype.val)).result
      = .ok root.val
    ∧ (merkleProofRoot sha256 (honestProof sha256 leaves [2, 0]) [2, 0]
        (([2, 0].map (leafAt leaves)).map Subtype.val) 3).result = .ok root.val := by
  obtain ⟨root, hroot, hsets, -⟩ :=
    proofs_complete_and_sound sha256 leaves (by simp [leaves])
  have hI : ValidIndices leaves.length [2, 0] :=
    ⟨by simp, by decide, by decide⟩
  exact ⟨root, hroot, (hsets [2, 0] hI).1⟩

/-- For no leaves at all there is no root to find, although the tree has one. Nothing is hashed on
the way. -/
theorem merkleProofRoot_no_indices :
    let sha256 : Bytes → Digest := fun _ => zeroDigest
    (merkleRootRsSha256 sha256 [zeroDigest.val]).result = .ok zeroDigest.val
    ∧ (merkleProofRoot sha256 (honestProof sha256 [zeroDigest] []) [] [] 1).result
        = .error (.runtimeError "could not derive single root from proof")
    ∧ (merkleProofRoot sha256 (honestProof sha256 [zeroDigest] []) [] [] 1).log = [] := by
  decide +kernel

/-! ## Malleability -/

/-- **Accepted proofs are equal up to the bytes that are not asked for.** Two accepted proofs for
one set of indices and one root are equal exactly if they agree beyond `proofLength`, or they
exhibit a collision; and an accepted proof stays accepted with extra bytes appended exactly if
these are whole hashes. -/
theorem proofs_equal_iff_extra_equal (sha256 : Bytes → Digest) :
    (∀ (n : Nat) (I : List Nat), ValidIndices n I → ∀ (root p q : Bytes) (hs hs' : List Bytes),
      (merkleProofRoot sha256 p I hs n).result = .ok root →
      (merkleProofRoot sha256 q I hs' n).result = .ok root →
      ((p = q ↔ p.drop (proofLength n I) = q.drop (proofLength n I))
        ∨ Collides sha256 (merkleProofRoot sha256 p I hs n).log
            (merkleProofRoot sha256 q I hs' n).log)
      ∧ ∀ extra, (merkleProofRoot sha256 (p ++ extra) I hs n).result = .ok root
          ↔ 32 ∣ extra.length)
    ∧ (∀ (root leafHash leafHash' p q : Bytes) (i n : Int),
      (proofVerify sha256 root leafHash p i n).result = .ok true →
      (proofVerify sha256 root leafHash' q i n).result = .ok true →
      ((p = q ↔ p.drop (proofLength n.toNat [i.toNat]) = q.drop (proofLength n.toNat [i.toNat]))
        ∨ Collides sha256 (proofVerify sha256 root leafHash p i n).log
            (proofVerify sha256 root leafHash' q i n).log)
      ∧ ∀ extra, (proofVerify sha256 root leafHash (p ++ extra) i n).result = .ok true
          ↔ 32 ∣ extra.length) := by
  constructor
  · intro n I hI root p q hs hs' hp hq
    exact ⟨accepted_eq_iff_drop sha256 hI hp hq, accepted_append_iff sha256 hI hp⟩
  · intro root leafHash leafHash' p q i n hp hq
    have hlogp := proofVerify_log sha256 hp
    have hlogq := proofVerify_log sha256 hq
    obtain ⟨hrange, hrunp⟩ := (proofVerify_eq_true sha256).mp hp
    have hrunq := ((proofVerify_eq_true sha256).mp hq).2
    have hI : ValidIndices n.toNat [i.toNat] := validIndices_singleton (by omega)
    constructor
    · rw [hlogp, hlogq]
      exact accepted_eq_iff_drop sha256 hI hrunp hrunq
    · intro extra
      rw [proofVerify_eq_true, accepted_append_iff sha256 hI hrunp]
      exact ⟨fun h => h.2, fun h => ⟨hrange, h⟩⟩

/-- The first of three leaves, with its proof and with one hash too many. -/
theorem proofs_equal_iff_extra_equal_threeZeros :
    (zeroDigest.val ++ zeroDigest.val = zeroDigest.val ++ zeroDigest.val ++ zeroDigest.val ↔
        (zeroDigest.val ++ zeroDigest.val).drop (proofLength 3 [0])
          = (zeroDigest.val ++ zeroDigest.val ++ zeroDigest.val).drop (proofLength 3 [0]))
      ∨ Collides sha256
          (proofVerify sha256 rootDigest.val zeroDigest.val
            (zeroDigest.val ++ zeroDigest.val) 0 3).log
          (proofVerify sha256 rootDigest.val zeroDigest.val
            (zeroDigest.val ++ zeroDigest.val ++ zeroDigest.val) 0 3).log :=
  ((proofs_equal_iff_extra_equal sha256).2 rootDigest.val zeroDigest.val
    zeroDigest.val (zeroDigest.val ++ zeroDigest.val)
    (zeroDigest.val ++ zeroDigest.val ++ zeroDigest.val) 0 3 (by decide +kernel)
    (by decide +kernel)).1

/-- Both proofs are accepted. -/
theorem proofVerify_accepts_extra_hash :
    (proofVerify sha256 rootDigest.val zeroDigest.val
      (zeroDigest.val ++ zeroDigest.val) 0 3).result = .ok true
    ∧ (proofVerify sha256 rootDigest.val zeroDigest.val
      (zeroDigest.val ++ zeroDigest.val ++ zeroDigest.val) 0 3).result = .ok true := by
  decide +kernel

end Tarka.Py
