import Tarka.Py.MerkleWire

/-! # Completeness, soundness and malleability of the Python proofs

The run of `merkle_proof_root` on 32-byte hashes is a climb of `Lib/Multiproof.lean` along the
sorted indices (`merkleProofRoot_eq`), and it succeeds in no other way (`merkleProofRoot_inv`).
From there the properties of the verifier are those of climbs: the tree's own helpers lead to the
tree's root, two successful climbs to one root used the same hashes or exhibit a collision, and
hashes beyond those the climb asks for are never looked at. -/

namespace Tarka.Py

open Tarka.Lib Tarka.Evidence List HashRun Nat Subtype

/-! ## The tree builder is a climb -/

def bytesOf (l : List (Nat × Digest)) : List (Nat × Bytes) := l.map (Prod.map id Subtype.val)

variable (l : List (Nat × Digest))

@[simp] theorem map_fst_bytesOf :
    (bytesOf l).map Prod.fst = l.map Prod.fst := by
  simp [bytesOf]

@[simp] theorem map_snd_bytesOf :
    (bytesOf l).map Prod.snd = (l.map Prod.snd).map val := by
  simp [bytesOf]

theorem bytesOf_append (l m : List (Nat × Digest)) : bytesOf (l ++ m) = bytesOf l ++ bytesOf m :=
  map_append

theorem bytesOf_zip (I : List Nat) (ds : List Digest) :
    bytesOf (I.zip ds) = I.zip (ds.map val) := by
  rw [bytesOf, zip_map_right]

theorem sortNodes_bytesOf (l : List (Nat × Digest)) :
    sortNodes (bytesOf l) = bytesOf (sortNodes l) :=
  (map_insertionSort _ _ (Prod.map id val) _ (fun _ _ _ _ => Iff.rfl)).symm

section

variable (sha256 : Bytes → Digest)

theorem concatAndHash_digests (l r : Digest) :
    concatAndHash sha256 l.val (some r.val)
      = ⟨.ok (sha256 (nodeInput l r)).val, [nodeInput l r]⟩ := by
  have hlen : ¬ (l.val.length ≠ 32 ∨ r.val.length ≠ 32) := by
    omega
  simp [concatAndHash, HashRun.failIf, hlen, HashRun.query, nodeInput]

theorem mapM_parentNode : ∀ (ps : List Nat) (k : Nat) (pre : List Bytes) (ds : List Digest),
    pre.length = 2 * k → ps.length = (ds.length + 1) / 2 →
    (ps.zipIdx k).mapM (parentNode sha256 (pre ++ ds.map val))
      = ⟨.ok (bytesOf (ps.zip (nextLevel sha256 nodeInput ds))), levelInputs nodeInput ds⟩
  | [], _, _, [], _, _ => rfl
  | [], _, _, _ :: _, _, hlen => by simp only [length_cons, length_nil] at hlen; omega
  | _ :: _, _, _, [], _, hlen => by simp at hlen
  | [p], k, pre, [a], hpre, _ => by
    have hleft : (pre ++ [a.val])[k * 2]? = some a.val := by
      rw [getElem?_append_right (by omega), show k * 2 - pre.length = 0 from by omega]
      rfl
    have hright : (pre ++ [a.val])[k * 2 + 1]? = none := by
      simp
      omega
    simp [parentNode, hleft, hright, HashRun.okOr, concatAndHash, nextLevel, levelInputs, bytesOf]
  | _ :: _ :: _, _, _, [_], _, hlen => by simp at hlen
  | p :: ps, k, pre, a :: b :: ds, hpre, hlen => by
    have ih := mapM_parentNode ps (k + 1) (pre ++ [a.val, b.val]) ds (by simp; omega)
      (by simp only [length_cons] at hlen; omega)
    have hleft : (pre ++ (a :: b :: ds).map val)[k * 2]? = some a.val := by
      rw [getElem?_append_right (by omega), show k * 2 - pre.length = 0 from by omega]
      rfl
    have hright : (pre ++ (a :: b :: ds).map val)[k * 2 + 1]? = some b.val := by
      rw [getElem?_append_right (by omega), show k * 2 + 1 - pre.length = 1 from by omega]
      rfl
    have hnodes : pre ++ (a :: b :: ds).map val
        = pre ++ [a.val, b.val] ++ ds.map val := by simp
    rw [← hnodes] at ih
    rw [zipIdx_cons, mapM_cons, ih]
    simp only [parentNode, hleft, hright, HashRun.okOr, pure_eq, ok_bind,
      concatAndHash_digests, nil_append, append_nil]
    rfl

/-- **The tree builder is the climb**, on every plan of helper nodes. -/
theorem buildTreeLoop_climb {d n : Nat} {S : List Nat} {v : List Digest} {cs : List (List Digest)}
    (hS : InLayer n S) (hv : v.length = S.length) (hfit : ChunksFit d n S cs) :
    ∃ (tree : List (List (Nat × Bytes))) (out : List (Nat × Digest)) (log : List Bytes),
      (climb sha256 nodeInput (zipWith zip (helperLayers d n S) cs) (S.zip v) :
        HashRun Bytes PyException _) = ⟨.ok out, log⟩
      ∧ buildTreeLoop sha256 d ((zipWith zip (helperLayers d n S) cs).map bytesOf)
          (bytesOf (S.zip v)) = ⟨.ok tree, log⟩
      ∧ tree.getLast? = some (bytesOf out) := by
  induction d generalizing n S v cs with
  | zero => exact ⟨[bytesOf (S.zip v)], S.zip v, [], rfl, rfl, rfl⟩
  | succ d ih =>
    obtain ⟨c, cs, rfl, hc, hrest⟩ := hfit.exists_cons
    have hup := length_nextLevel_layerValues sha256 nodeInput hS hv hc
    obtain ⟨tree, out, log, hclimb, hbuild, hlast⟩ := ih hS.up hup hrest
    have hzip : S.zip v ++ (helpers n S).zip c = (S ++ helpers n S).zip (v ++ c) :=
      (zip_append hv.symm).symm
    have hnodes := mapM_parentNode sha256 (parents S) 0 [] (layerValues n S v c) rfl
      (by rw [← hup, length_nextLevel])
    rw [nil_append] at hnodes
    refine ⟨bytesOf (sortNodes ((S ++ helpers n S).zip (v ++ c))) :: tree, out,
      levelInputs nodeInput (layerValues n S v c) ++ log, ?_, ?_, ?_⟩
    · rw [helperLayers, zipWith_cons_cons, climb_cons _ _ hS hv hc, ok_bind, hclimb]
    · rw [helperLayers, zipWith_cons_cons, map_cons, buildTreeLoop, headD_cons,
        tail_cons, ← bytesOf_append, hzip, sortNodes_bytesOf, map_fst_bytesOf,
        map_fst_layer hS hv hc, parentIndices_eq, parents_expand hS.up, map_snd_bytesOf]
      show (zipIdx (parents S)).mapM
        (parentNode sha256 ((layerValues n S v c).map val)) >>= _ = _
      rw [hnodes, ok_bind, hbuild]
      simp
    · rw [getLast?_cons, hlast]
      rfl

end

/-! ## Parsing a proof -/

theorem not_wrongLength (ds : List Digest) : ¬ ∃ lh ∈ ds.map val, lh.length ≠ 32 := by
  rintro ⟨lh, hmem, hne⟩
  obtain ⟨d, -, rfl⟩ := mem_map.mp hmem
  exact hne d.property

def hashBytes (ds : List Digest) : Bytes := ds.flatMap Subtype.val

theorem hashBytes_append (ds es : List Digest) :
    hashBytes (ds ++ es) = hashBytes ds ++ hashBytes es := flatMap_append

theorem length_hashBytes : ∀ ds : List Digest, (hashBytes ds).length = 32 * ds.length
  | [] => rfl
  | d :: ds => by
    have ih := length_hashBytes ds
    rw [hashBytes, flatMap_cons, length_append, d.property, length_cons]
    rw [hashBytes] at ih
    omega

theorem exists_hashBytes : ∀ (k : Nat) (p : Bytes), p.length = 32 * k → ∃ ds, hashBytes ds = p
  | 0, p, h => ⟨[], (eq_nil_of_length_eq_zero h).symm⟩
  | k + 1, p, h => by
    obtain ⟨ds, hds⟩ := exists_hashBytes k (p.drop 32) (by rw [length_drop]; omega)
    have htake : (p.take 32).length = 32 := by rw [length_take]; omega
    refine ⟨⟨p.take 32, htake⟩ :: ds, ?_⟩
    rw [hashBytes] at hds ⊢
    rw [flatMap_cons, hds, take_append_drop]

theorem chunks_hashBytes : ∀ ds : List Digest,
    (range ds.length).map (fun i => ((hashBytes ds).drop (32 * i)).take 32)
      = ds.map val
  | [] => rfl
  | d :: ds => by
    have ih := chunks_hashBytes ds
    have hcons : hashBytes (d :: ds) = d.val ++ hashBytes ds := rfl
    have hhead : (hashBytes (d :: ds)).take 32 = d.val := by
      rw [hcons, take_left' d.property]
    have htail : ∀ i, ((hashBytes (d :: ds)).drop (32 * (i + 1)))
        = (hashBytes ds).drop (32 * i) := by
      intro i
      rw [hcons, show 32 * (i + 1) = d.val.length + 32 * i from by rw [d.property]; omega,
        ← drop_drop, drop_left' rfl]
    rw [length_cons, range_succ_eq_map, map_cons, map_map, map_cons, drop_zero, hhead, ← ih]
    refine congrArg _ (map_congr_left ?_)
    intro i _
    show ((hashBytes (d :: ds)).drop (32 * (i + 1))).take 32 = _
    rw [htail]

theorem parseProof_hashBytes (ds : List Digest) : parseProof (hashBytes ds) = .ok (ds.map val) := by
  unfold parseProof
  rw [length_hashBytes, if_neg (by omega), show 32 * ds.length / 32 = ds.length from by omega,
    chunks_hashBytes]

/-- **Only whole hashes parse.** -/
theorem parseProof_inv {p : Bytes} {hs : List Bytes} (h : parseProof p = .ok hs) :
    ∃ ds, p = hashBytes ds ∧ hs = ds.map val := by
  have hlen : p.length % 32 = 0 := by
    unfold parseProof at h
    split_ifs at h with hbad
    omega
  obtain ⟨ds, rfl⟩ := exists_hashBytes (p.length / 32) p (by omega)
  rw [parseProof_hashBytes] at h
  cases h
  exact ⟨ds, rfl, rfl⟩

/-! ## Dealing the hashes out -/

theorem dealHashes_eq : ∀ (bins : List (List Nat)) (cs : List (List Digest)) (extra : List Digest),
    cs.map length = bins.map length →
    dealHashes bins ((cs.flatten ++ extra).map val)
      = .ok ((zipWith zip bins cs).map bytesOf)
  | [], _, _, _ => by simp [dealHashes]
  | _ :: _, [], _, h => by simp at h
  | bin :: bins, c :: cs, extra, h => by
    simp only [map_cons, cons.injEq] at h
    have ih := dealHashes_eq bins cs extra h.2
    have hlist : (((c :: cs).flatten ++ extra).map val : List Bytes)
        = c.map val ++ (cs.flatten ++ extra).map val := by simp
    have hclen : (c.map val : List Bytes).length = bin.length := by
      rw [length_map, h.1]
    have hnot : ¬ (c.map val ++ (cs.flatten ++ extra).map val : List Bytes).length
        < bin.length := by
      rw [length_append]
      omega
    rw [dealHashes, hlist, if_neg hnot, drop_left' hclen, take_left' hclen, ih,
      zipWith_cons_cons, map_cons, bytesOf_zip]
    rfl

theorem dealHashes_inv : ∀ {bins : List (List Nat)} {ds : List Digest}
    {layers : List (List (Nat × Bytes))}, dealHashes bins (ds.map val) = .ok layers →
    ∃ (cs : List (List Digest)) (extra : List Digest),
      cs.map length = bins.map length ∧ ds = cs.flatten ++ extra
  | [], ds, _, _ => ⟨[], ds, rfl, rfl⟩
  | bin :: bins, ds, layers, h => by
    rw [dealHashes] at h
    split_ifs at h with hshort
    obtain ⟨rest, hrest, -⟩ := except_bind_eq_ok.mp h
    rw [← map_drop] at hrest
    obtain ⟨cs, extra, hlen, hds⟩ := dealHashes_inv hrest
    refine ⟨ds.take bin.length :: cs, extra, ?_, ?_⟩
    · rw [map_cons, map_cons, hlen, length_take]
      rw [length_map] at hshort
      rw [min_eq_left (by omega)]
    · rw [flatten_cons, append_assoc, ← hds, take_append_drop]

/-! ## The run of the verifier -/

/-- A non-empty set of leaf indices of a tree with `n` leaves, listed in any order. -/
structure ValidIndices (n : Nat) (I : List Nat) : Prop where
  ne_nil : I ≠ []
  nodup : I.Nodup
  lt : ∀ i ∈ I, i < n

def sortedIndices (I : List Nat) : List Nat := I.insertionSort (· ≤ ·)

def sortedHashes (I : List Nat) (ds : List Digest) : List Digest :=
  (sortNodes (I.zip ds)).map Prod.snd

variable {n : Nat} {I : List Nat}

theorem ValidIndices.inLayer (h : ValidIndices n I) : InLayer n (sortedIndices I) :=
  ⟨increasing_insertionSort h.nodup, fun s hs => h.lt s ((perm_insertionSort _ I).mem_iff.mp hs)⟩

theorem ValidIndices.sorted_ne_nil (h : ValidIndices n I) : sortedIndices I ≠ [] := by
  intro hnil
  have hlen := (perm_insertionSort (· ≤ ·) I).length_eq
  rw [show I.insertionSort (· ≤ ·) = [] from hnil] at hlen
  exact h.ne_nil (eq_nil_of_length_eq_zero hlen.symm)

theorem ValidIndices.pos (h : ValidIndices n I) : 0 < n := by
  obtain ⟨i, hi⟩ := exists_mem_of_ne_nil I h.ne_nil
  have := h.lt i hi
  omega

variable {ds : List Digest}

theorem sortNodes_zip (hlen : ds.length = I.length) :
    sortNodes (I.zip ds) = (sortedIndices I).zip (sortedHashes I ds) := by
  refine zip_of_prod ?_ rfl
  rw [map_fst_sortNodes, map_fst_zip (le_of_eq hlen.symm), sortedIndices]

theorem length_sortedHashes (hlen : ds.length = I.length) :
    (sortedHashes I ds).length = (sortedIndices I).length := by
  simp [sortedHashes, sortedIndices, sortNodes, hlen]

section

variable (sha256 : Bytes → Digest)

theorem buildTreeLoop_first (k : Nat) (first leaves : List (Nat × Bytes))
    (rest : List (List (Nat × Bytes))) (hnd : ((first ++ leaves).map Prod.fst).Nodup) :
    buildTreeLoop sha256 (k + 1) (sortNodes (first ++ leaves) :: rest) []
      = buildTreeLoop sha256 (k + 1) (first :: rest) leaves := by
  have hsort : sortNodes ([] ++ sortNodes (first ++ leaves)) = sortNodes (leaves ++ first) := by
    have hperm : (sortNodes (first ++ leaves)).Perm (leaves ++ first) :=
      (perm_insertionSort _ _).trans perm_append_comm
    refine sortNodes_eq_of_perm hperm ?_
    exact ((perm_insertionSort _ _).map Prod.fst).nodup_iff.mpr hnd
  rw [buildTreeLoop, headD_cons, hsort]
  rfl

/-- The climb of a proof with chunks `cs` for the leaves `ds` at the indices `I`. -/
def proofClimb (n : Nat) (I : List Nat) (ds : List Digest) (cs : List (List Digest)) :
    HashRun Bytes PyException (List (Nat × Digest)) :=
  climb sha256 nodeInput (List.zipWith List.zip (helperLayers (treeDepth n) n (sortedIndices I)) cs)
    ((sortedIndices I).zip (sortedHashes I ds))

/-- The chunks a proof for the indices `I` is dealt out to. -/
def ProofChunks (n : Nat) (I : List Nat) (cs : List (List Digest)) : Prop :=
  ChunksFit (treeDepth n) n (sortedIndices I) cs

theorem treeDepth_pos (h : 0 < n) : ∃ k, treeDepth n = k + 1 := by
  have hlt := lt_two_pow_treeDepth n
  cases hd : treeDepth n with
  | zero => rw [hd] at hlt; omega
  | succ k => exact ⟨k, rfl⟩

theorem ancestors_treeDepth {S : List Nat} (hS : InLayer n S) (hne : S ≠ []) :
    ancestors (treeDepth n) S = [0] :=
  ancestors_eq_zero _ (layerSize_le_one _ (le_of_lt (lt_two_pow_treeDepth n))) hS hne

variable {cs : List (List Digest)}

theorem proofClimb_root (hI : ValidIndices n I) (hds : ds.length = I.length)
    (hcs : ProofChunks n I cs) :
    ∃ root log, proofClimb sha256 n I ds cs = ⟨.ok [(0, root)], log⟩ := by
  obtain ⟨vs, log, hrun, hlen⟩ := climb_ok (ε := PyException) sha256 nodeInput hI.inLayer
    (length_sortedHashes hds) hcs
  rw [ancestors_treeDepth hI.inLayer hI.sorted_ne_nil] at hrun hlen
  obtain ⟨root, rfl⟩ := length_eq_one_iff.mp hlen
  exact ⟨root, log, hrun⟩

theorem exists_firstLayer {k : Nat} (hk : treeDepth n = k + 1) (hcs : ProofChunks n I cs) :
    ∃ first rest,
    (zipWith zip (helperLayers (treeDepth n) n (sortedIndices I)) cs).map bytesOf
      = first :: rest ∧ first.map Prod.fst = helpers n (sortedIndices I) := by
  rw [ProofChunks, ChunksFit, hk, helperLayers] at hcs
  rw [hk]
  cases cs with
  | nil => simp at hcs
  | cons c cs =>
    simp only [map_cons, cons.injEq] at hcs
    refine ⟨_, _, rfl, ?_⟩
    rw [map_fst_bytesOf, map_fst_zip (le_of_eq hcs.1.symm)]

/-- **The run of `merkle_proof_root`** on whole hashes is the climb; hashes beyond the chunks are
not looked at. -/
theorem merkleProofRoot_eq (hI : ValidIndices n I) (hds : ds.length = I.length)
    (hcs : ProofChunks n I cs) (extra : List Digest) {root : Digest} {log : List Bytes}
    (hrun : proofClimb sha256 n I ds cs = ⟨.ok [(0, root)], log⟩) :
    merkleProofRoot sha256 (hashBytes (cs.flatten ++ extra)) I (ds.map val) n
      = ⟨.ok root.val, log⟩ := by
  obtain ⟨k, hk⟩ := treeDepth_pos hI.pos
  have hbins : proofIndicesByLayers (sortedIndices I) n
      = helperLayers (treeDepth n) n (sortedIndices I) :=
    proofIndicesByLayers_eq hI.inLayer
  have hleaf : sortNodes (I.zip (ds.map val))
      = bytesOf ((sortedIndices I).zip (sortedHashes I ds)) := by
    rw [← bytesOf_zip, sortNodes_bytesOf, sortNodes_zip hds]
  obtain ⟨tree, out, log', hclimb, hbuild, hlast⟩ := buildTreeLoop_climb sha256 hI.inLayer
    (length_sortedHashes hds) hcs
  have hsame := hclimb.symm.trans hrun
  simp only [HashRun.mk.injEq, Except.ok.injEq] at hsame
  obtain ⟨hout, hlog⟩ := hsame
  have hlens : ¬ I.length ≠ (ds.map val).length := by simp [hds]
  have hfst : (bytesOf ((sortedIndices I).zip (sortedHashes I ds))).map Prod.fst
      = sortedIndices I := by
    rw [map_fst_bytesOf, map_fst_zip (le_of_eq (length_sortedHashes hds).symm)]
  have hdeal := dealHashes_eq (helperLayers (treeDepth n) n (sortedIndices I)) cs extra hcs
  -- the leaves are merged into the first layer before the tree is built
  obtain ⟨first, rest, hlayers, hhelpers⟩ := exists_firstLayer hk hcs
  have hnd : ((first ++ bytesOf ((sortedIndices I).zip (sortedHashes I ds))).map
      Prod.fst).Nodup := by
    rw [map_append, hhelpers, hfst, nodup_append_comm]
    exact nodup_append_helpers (hI.inLayer.increasing.imp ne_of_lt)
  have htree : buildTreeInner sha256
      (sortNodes (first ++ bytesOf ((sortedIndices I).zip (sortedHashes I ds))) :: rest)
      (treeDepth n) = ⟨.ok tree, log⟩ := by
    rw [hlayers] at hbuild
    rw [buildTreeInner, hk, buildTreeLoop_first sha256 k _ _ _ hnd, ← hk, hbuild, hlog]
  have hroot : ∀ e, singleRoot tree e = .ok root.val := by
    intro e
    rw [singleRoot, getLastD_eq_getLast?, hlast, hout]
    rfl
  simp only [merkleProofRoot, HashRun.failIf, if_neg hlens, parseProof_hashBytes,
    if_neg (not_wrongLength ds), hleaf, hfst, hbins, hdeal, hlayers, htree, hroot, pure_eq, lift_eq,
    ok_bind, nil_append, append_nil]

/-- **There is no other way for `merkle_proof_root` to succeed.** -/
theorem merkleProofRoot_inv {p r : Bytes} {hs log : List Bytes} (hI : ValidIndices n I)
    (h : merkleProofRoot sha256 p I hs n = ⟨.ok r, log⟩) :
    ∃ (ds : List Digest) (cs : List (List Digest)) (extra : List Digest) (root : Digest),
      hs = ds.map val ∧ ds.length = I.length ∧ p = hashBytes (cs.flatten ++ extra)
      ∧ ProofChunks n I cs ∧ r = root.val
      ∧ proofClimb sha256 n I ds cs = ⟨.ok [(0, root)], log⟩ := by
  have h' := h
  obtain ⟨_, _, _, hlens, h', -⟩ := bind_eq_ok.mp h'
  obtain ⟨hashes, _, _, hparse, h', -⟩ := bind_eq_ok.mp h'
  obtain ⟨_, _, _, h32, h', -⟩ := bind_eq_ok.mp h'
  obtain ⟨layers, _, _, hdeal, -, -⟩ := bind_eq_ok.mp h'
  have hlen : I.length = hs.length := not_not.mp (failIf_eq_ok.mp hlens).1
  have hall : ∀ lh ∈ hs, lh.length = 32 := by
    intro lh hmem
    by_contra hne
    exact (failIf_eq_ok.mp h32).1 ⟨lh, hmem, hne⟩
  obtain ⟨ps, hp, hps⟩ := parseProof_inv (lift_eq_ok.mp hparse).1
  lift hs to List Digest using hall with ds
  have hds : ds.length = I.length := by rw [hlen, length_map]
  have hleaf : (sortNodes (I.zip (ds.map val))).map Prod.fst = sortedIndices I := by
    rw [map_fst_sortNodes, map_fst_zip (by rw [length_map]; omega), sortedIndices]
  have hdeal' := (lift_eq_ok.mp hdeal).1
  rw [hleaf, proofIndicesByLayers_eq hI.inLayer, hps] at hdeal'
  obtain ⟨cs, extra, hcs, hsplit⟩ := dealHashes_inv hdeal'
  obtain ⟨root, log', hrun⟩ := proofClimb_root sha256 hI hds hcs
  have heq := merkleProofRoot_eq sha256 hI hds hcs extra hrun
  rw [hp, hsplit, heq] at h
  cases h
  exact ⟨ds, cs, extra, root, rfl, hds, by rw [hp, hsplit], hcs, rfl, hrun⟩

/-! ## The tree -/

def leafAt (leaves : List Digest) (i : Nat) : Digest := leaves.getD i zeroDigest

theorem map_leafAt_range (leaves : List Digest) :
    (range leaves.length).map (leafAt leaves) = leaves := by
  refine ext_getElem (by simp) ?_
  intro i h₁ h₂
  simp [leafAt, h₂]

theorem buildTreeLoop_nil : ∀ (k : Nat) (layers : List (List (Nat × Bytes)))
    (cur : List (Nat × Bytes)), (∀ l ∈ layers, l = []) →
    buildTreeLoop sha256 k layers cur = buildTreeLoop sha256 k [] cur
  | 0, _, _, _ => rfl
  | k + 1, layers, cur, h => by
    have hhead : layers.headD [] = [] := by
      cases layers with
      | nil => rfl
      | cons l _ => exact h l (by simp)
    have htail := fun cur => buildTreeLoop_nil k layers.tail cur
      (fun l hl => h l (mem_of_mem_tail hl))
    rw [buildTreeLoop, hhead]
    simp only [htail]
    rfl

/-- **The run of `merkle_root_rs_sha256`.** -/
theorem merkleRootRsSha256_eq {leaves : List Digest} (hne : leaves ≠ []) :
    merkleRootRsSha256 sha256 (leaves.map val)
      = ⟨.ok (layerAt sha256 nodeInput (treeDepth leaves.length) leaves.length (leafAt leaves)
            0).val,
          climbInputs sha256 nodeInput (treeDepth leaves.length) leaves.length
            (range leaves.length) (leafAt leaves)⟩ := by
  have hpos : 0 < leaves.length := length_pos_iff.mpr hne
  obtain ⟨k, hk⟩ := treeDepth_pos hpos
  have hrange := inLayer_range leaves.length
  have hcur : (range leaves.length).zip leaves
      = (range leaves.length).map (fun i => (i, leafAt leaves i)) := by
    rw [← zip_map_self, map_leafAt_range]
  obtain ⟨tree, out, log, hclimb, hbuild, hlast⟩ := buildTreeLoop_climb sha256 hrange
    length_range.symm
    (chunksFit_honest sha256 nodeInput (d := treeDepth leaves.length) (t := leafAt leaves))
  have hhonest := climb_honest (ε := PyException) sha256 nodeInput (d := treeDepth leaves.length)
    (t := leafAt leaves) hrange
  rw [← hcur, hclimb, ancestors_treeDepth hrange (by simpa using hne)] at hhonest
  simp only [HashRun.mk.injEq, Except.ok.injEq] at hhonest
  obtain ⟨hout, hlog⟩ := hhonest
  -- no layer supplies helpers, so the leaves may as well be the first layer
  have hempty : ∀ l ∈ (zipWith zip
      (helperLayers (treeDepth leaves.length) leaves.length (range leaves.length))
      (honestLayers sha256 nodeInput (treeDepth leaves.length) leaves.length
        (range leaves.length) (leafAt leaves))).map bytesOf, l = [] := by
    intro l hl
    obtain ⟨l', hl', rfl⟩ := mem_map.mp hl
    rw [zip_helperLayers_range l' hl']
    rfl
  have htree : buildTreeInner sha256
      [(range leaves.length).zip (leaves.map val)] (treeDepth leaves.length)
      = ⟨.ok tree, log⟩ := by
    rw [← hbuild, buildTreeLoop_nil sha256 _ _ _ hempty, buildTreeInner, hk, bytesOf_zip,
      buildTreeLoop, buildTreeLoop, headD_nil, append_nil]
    rfl
  have hroot : ∀ e, singleRoot tree e
      = .ok (layerAt sha256 nodeInput (treeDepth leaves.length) leaves.length (leafAt leaves)
          0).val := by
    intro e
    rw [singleRoot, getLastD_eq_getLast?, hlast, hout]
    rfl
  have hne' : ¬ leaves.map val = [] := by
    rw [map_eq_nil_iff]
    exact hne
  simp only [merkleRootRsSha256, HashRun.failIf, if_neg hne', if_neg (not_wrongLength leaves),
    length_map, htree, hroot, hlog, pure_eq, lift_eq, ok_bind, nil_append, append_nil]

end

end Tarka.Py
