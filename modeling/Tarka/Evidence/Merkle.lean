import Tarka.Lib.MerkleTree
import Tarka.Evidence.Hasher

/-! # The trace root (`evidence/merkle.rs`)

Every step of the trace is encoded canonically, prefixed with a schema tag and hashed into a
leaf digest; `rs_merkle` then reduces the leaves to one root. Its documented behaviour is taken
as given: a parent is the hash of its two children's bytes, an odd node is promoted
(`Lib.merkleRoot`). An empty trace has the all-zero root.

Two facts make the root binding. The step encoding is injective up to the order of the
operands (`stepPreimage_inj`), and a leaf input is never as short as the 64 bytes of an inner
node (`stepPreimage_ne_nodeInput`). -/

namespace Tarka.Evidence

open Tarka.Lib List HashRun

/-! ## The source -/

inductive TraceMerkleError where
  | tooLarge
  | snapshotInvariant
  | merkleRootMissing
  deriving DecidableEq

def leafSchema : Bytes := utf8 "tarka.evidence.wire.v1/TraceMerkleRoot/leaf\x01"

def writeLenPrefixed : Bytes → Bytes → Except TraceMerkleError Bytes :=
  writeLenPrefixedWith .tooLarge

/-- A count as a `u32`: `try_into` followed by `to_be_bytes`. -/
def countBytes (n : Nat) : Except TraceMerkleError Bytes :=
  if n < 256 ^ 4 then .ok (beBytes 4 n) else .error .tooLarge

def writeSnapshotEntry (snapshot : KeyMap String) (out : Bytes) (k : String) :
    Except TraceMerkleError Bytes :=
  match snapshot.get? k with
  | none => .error .snapshotInvariant
  | some v => do
    let out ← writeLenPrefixed out (utf8 k)
    writeLenPrefixed out (utf8 v)

def canonicalStepBytes (step : ExecutionStep) : Except TraceMerkleError Bytes := do
  let out := beBytes 4 step.sequence.toNat
  let out ← writeLenPrefixed out (utf8 step.ruleId)
  let out ← writeLenPrefixed out (utf8 step.operator)
  let operands := sortByBytes step.operands
  let opCount ← countBytes operands.length
  let out := out ++ opCount
  let out ← operands.foldlM (fun out op => writeLenPrefixed out (utf8 op)) out
  let out := out ++ [if step.result then 1 else 0]
  let snapKeys := sortByBytes step.stateSnapshot.keys
  let snapCount ← countBytes snapKeys.length
  let out := out ++ snapCount
  snapKeys.foldlM (writeSnapshotEntry step.stateSnapshot) out

section

variable (sha256 : Bytes → Digest)

def leafDigest (step : ExecutionStep) : HashRun Bytes TraceMerkleError Digest := do
  let body ← liftM (canonicalStepBytes step)
  HashRun.query sha256 (leafSchema ++ body)

/-- What `rs_merkle` hashes at an inner node: the bytes of the left child, then of the right. -/
def nodeInput (l r : Digest) : Bytes := l.val ++ r.val

/-- `TraceMerkleRoot::try_calculate`. -/
def tryCalculateTraceRoot (trace : List ExecutionStep) :
    HashRun Bytes TraceMerkleError Bytes := do
  if trace.isEmpty then
    return List.replicate 32 0
  let leaves ← trace.mapM (leafDigest sha256)
  let root ← merkleRoot sha256 nodeInput leaves
  match root with
  | some root => return root.val
  | none => HashRun.fail .merkleRootMissing

end

/-! ## The encoding of a step -/

/-- The canonical form of a step: sequence, rule id, operator, sorted operands, result and
sorted snapshot entries. -/
structure CanonicalStep where
  sequence : Nat
  ruleId : String
  operator : String
  operands : List String
  result : Bool
  snapshot : List (String × String)

def encStr (s : String) : Bytes := lenPrefixed (utf8 s)

def StrFits (s : String) : Prop := (utf8 s).length < 256 ^ 4

def encPair (e : String × String) : Bytes := encStr e.1 ++ encStr e.2

def PairFits (e : String × String) : Prop := StrFits e.1 ∧ StrFits e.2

def encBool (b : Bool) : Bytes := [if b then 1 else 0]

def encStep (c : CanonicalStep) : Bytes :=
  beBytes 4 c.sequence ++ (encStr c.ruleId ++ (encStr c.operator ++
    (counted encStr c.operands ++ (encBool c.result ++ counted encPair c.snapshot))))

/-- A canonical step all of whose fields and counts fit four bytes. -/
structure StepFits (c : CanonicalStep) : Prop where
  sequence : c.sequence < 256 ^ 4
  ruleId : StrFits c.ruleId
  operator : StrFits c.operator
  operands : c.operands.length < 256 ^ 4 ∧ ∀ o ∈ c.operands, StrFits o
  snapshot : c.snapshot.length < 256 ^ 4 ∧ ∀ e ∈ c.snapshot, PairFits e

theorem selfDelimiting_encStr : SelfDelimiting StrFits encStr := selfDelimiting_lenPrefixed_utf8

theorem selfDelimiting_encPair : SelfDelimiting PairFits encPair :=
  selfDelimiting_encStr.append selfDelimiting_encStr

theorem selfDelimiting_encBool : SelfDelimiting (fun _ => True) encBool :=
  .of_width 1 (fun _ => rfl) (fun a b _ _ h => by cases a <;> cases b <;> simp_all [encBool])

variable {c : CanonicalStep}

/-- **The step encoding is injective.** -/
theorem encStep_inj {d : CanonicalStep} (hc : StepFits c) (hd : StepFits d)
    (h : encStep c = encStep d) : c = d := by
  obtain ⟨hseq, h⟩ := selfDelimiting_beBytes 4 _ _ hc.sequence hd.sequence _ _ h
  obtain ⟨hid, h⟩ := selfDelimiting_encStr _ _ hc.ruleId hd.ruleId _ _ h
  obtain ⟨hop, h⟩ := selfDelimiting_encStr _ _ hc.operator hd.operator _ _ h
  obtain ⟨hops, h⟩ := selfDelimiting_encStr.counted _ _ hc.operands hd.operands _ _ h
  obtain ⟨hres, h⟩ := selfDelimiting_encBool _ _ trivial trivial _ _ h
  have hsnap := selfDelimiting_encPair.counted.inj hc.snapshot hd.snapshot h
  cases c
  cases d
  simp_all

theorem length_encStep (c : CanonicalStep) : 21 ≤ (encStep c).length := by
  simp only [encStep, encStr, encBool, counted, length_append, length_beBytes,
    length_lenPrefixed, length_cons, length_nil]
  omega

/-! ## Specification of the encoder -/

variable {out : Bytes}

theorem countBytes_eq_ok {n : Nat} : countBytes n = .ok out ↔ n < 256 ^ 4 ∧ out = beBytes 4 n := by
  unfold countBytes
  split_ifs with h
  · simp only [Except.ok.injEq, h, true_and]
    exact eq_comm
  · constructor
    · intro he; cases he
    · rintro ⟨hlt, -⟩; exact absurd hlt h

theorem writeSnapshotEntry_ok {snapshot : KeyMap String} {out' : Bytes} {k : String}
    (h : writeSnapshotEntry snapshot out k = .ok out') :
    ∃ e : String × String, (e.1 = k ∧ snapshot.get? k = some e.2 ∧ PairFits e)
      ∧ out' = out ++ encPair e := by
  unfold writeSnapshotEntry at h
  cases hv : snapshot.get? k with
  | none => rw [hv] at h; cases h
  | some v =>
    rw [hv] at h
    obtain ⟨mid, hk, hw⟩ := except_bind_eq_ok.mp h
    obtain ⟨hkfits, hmid⟩ := writeLenPrefixedWith_eq_ok.mp hk
    obtain ⟨hvfits, hout⟩ := writeLenPrefixedWith_eq_ok.mp hw
    refine ⟨(k, v), ⟨rfl, rfl, hkfits, hvfits⟩, ?_⟩
    rw [hout, hmid]
    simp [encPair, encStr]

/-- `c` is the canonical form of `step`. -/
structure CanonicalOf (step : ExecutionStep) (c : CanonicalStep) : Prop where
  sequence : c.sequence = step.sequence.toNat
  ruleId : c.ruleId = step.ruleId
  operator : c.operator = step.operator
  operands : c.operands = sortByBytes step.operands
  result : c.result = step.result
  snapshot : c.snapshot = step.stateSnapshot.sortedEntries

variable {step : ExecutionStep}

/-- **Specification of `canonical_step_bytes`.** -/
theorem canonicalStepBytes_ok (h : canonicalStepBytes step = .ok out) :
    ∃ c, CanonicalOf step c ∧ StepFits c ∧ out = encStep c := by
  obtain ⟨o₁, hid, h⟩ := except_bind_eq_ok.mp h
  obtain ⟨o₂, hop, h⟩ := except_bind_eq_ok.mp h
  obtain ⟨o₃, hcount, h⟩ := except_bind_eq_ok.mp h
  obtain ⟨o₄, hops, h⟩ := except_bind_eq_ok.mp h
  obtain ⟨o₅, hscount, hsnap⟩ := except_bind_eq_ok.mp h
  obtain ⟨hidFits, ho₁⟩ := writeLenPrefixedWith_eq_ok.mp hid
  obtain ⟨hopFits, ho₂⟩ := writeLenPrefixedWith_eq_ok.mp hop
  obtain ⟨hcountFits, ho₃⟩ := countBytes_eq_ok.mp hcount
  obtain ⟨hscountFits, ho₅⟩ := countBytes_eq_ok.mp hscount
  -- the loop over the operands
  have hopStep : ∀ acc op mid, writeLenPrefixed acc (utf8 op) = .ok mid →
      ∃ y, (y = op ∧ StrFits y) ∧ mid = acc ++ encStr y := by
    intro acc op mid hw
    obtain ⟨hfits, hmid⟩ := writeLenPrefixedWith_eq_ok.mp hw
    exact ⟨op, ⟨rfl, hfits⟩, hmid⟩
  obtain ⟨ops, hopsRel, ho₄⟩ := foldlM_append_ok hopStep _ _ _ hops
  -- the loop over the snapshot
  have hsnapStep : ∀ acc k mid, writeSnapshotEntry step.stateSnapshot acc k = .ok mid →
      ∃ e : String × String, (e.1 = k ∧ step.stateSnapshot.get? k = some e.2 ∧ PairFits e)
        ∧ mid = acc ++ encPair e := fun _ _ _ => writeSnapshotEntry_ok
  obtain ⟨snap, hsnapRel, hout⟩ := foldlM_append_ok hsnapStep _ _ _ hsnap
  have hopsEq : ops = sortByBytes step.operands := by
    have := Forall₂.imp (fun _ _ hy => hy.1.symm) hopsRel
    exact (forall₂_eq_eq_eq ▸ this).symm
  have hsnapEq : step.stateSnapshot.sortedEntries = snap := by
    rw [KeyMap.sortedEntries_eq_map (fun _ _ he => ⟨he.1, he.2.1⟩) hsnapRel, map_id']
  have hsnapLen : snap.length = (sortByBytes step.stateSnapshot.keys).length :=
    hsnapRel.length_eq.symm
  refine ⟨⟨step.sequence.toNat, step.ruleId, step.operator, ops, step.result, snap⟩,
    ⟨rfl, rfl, rfl, hopsEq, rfl, hsnapEq.symm⟩, ⟨step.sequence.toNat_lt, hidFits, hopFits,
    ⟨hopsEq ▸ hcountFits, forall_mem_of_forall₂ (fun _ _ hy => hy.2) hopsRel⟩,
    ⟨hsnapLen ▸ hscountFits, forall_mem_of_forall₂ (fun _ _ he => he.2.2) hsnapRel⟩⟩, ?_⟩
  rw [hout, ho₄, ho₅, ho₃, ho₂, ho₁]
  simp [encStep, counted, encStr, encBool, hopsEq, hsnapLen]

variable {s₁ s₂ : ExecutionStep}

/-- **Steps with the same canonical form are the same step**, up to the order of operands. -/
theorem CanonicalOf.same (h₁ : CanonicalOf s₁ c) (h₂ : CanonicalOf s₂ c) : s₁.Same s₂ where
  sequence := UInt32.toNat_inj.mp (h₁.sequence.symm.trans h₂.sequence)
  ruleId := h₁.ruleId.symm.trans h₂.ruleId
  operator := h₁.operator.symm.trans h₂.operator
  operands := perm_of_sortByBytes_eq (h₁.operands.symm.trans h₂.operands)
  result := h₁.result.symm.trans h₂.result
  stateSnapshot := KeyMap.get?_eq_of_sortedEntries_eq (h₁.snapshot.symm.trans h₂.snapshot)

/-! ## Leaves -/

def stepPreimage (c : CanonicalStep) : Bytes := leafSchema ++ encStep c

theorem length_leafSchema : leafSchema.length = 44 := by decide

/-- **A leaf input is never the input of an inner node**: it is longer than two digests. -/
theorem stepPreimage_ne_nodeInput (c : CanonicalStep) (l r : Digest) :
    stepPreimage c ≠ nodeInput l r := by
  intro h
  have hlen := congrArg length h
  have hstep := length_encStep c
  simp only [stepPreimage, nodeInput, length_append, length_leafSchema, l.property,
    r.property] at hlen
  omega

theorem nodeInput_injective2 : Function.Injective2 nodeInput := by
  intro l l' r r' h
  have hlen : l.val.length = l'.val.length := by rw [l.property, l'.property]
  obtain ⟨hl, hr⟩ := append_inj h hlen
  exact ⟨Subtype.ext hl, Subtype.ext hr⟩

/-- `c` is the canonical form of `step`, within its length prefixes. -/
def StepOf (step : ExecutionStep) (c : CanonicalStep) : Prop := CanonicalOf step c ∧ StepFits c

/-- **The leaf inputs determine the steps**, up to the order of their operands. -/
theorem stepPreimage_inj {c₁ c₂ : CanonicalStep} (h₁ : StepOf s₁ c₁)
    (h₂ : StepOf s₂ c₂) (h : stepPreimage c₁ = stepPreimage c₂) : s₁.Same s₂ := by
  have hc : c₁ = c₂ := encStep_inj h₁.2 h₂.2 (append_cancel_left h)
  exact h₁.1.same (hc ▸ h₂.1)

variable {t₁ t₂ : List ExecutionStep}

theorem traces_same {cs₁ cs₂ : List CanonicalStep} (h₁ : Forall₂ StepOf t₁ cs₁)
    (h₂ : Forall₂ StepOf t₂ cs₂) (h : cs₁.map stepPreimage = cs₂.map stepPreimage) :
    Forall₂ ExecutionStep.Same t₁ t₂ := by
  induction h₁ generalizing t₂ cs₂ with
  | nil =>
    cases h₂ with
    | nil => exact .nil
    | cons _ _ => simp at h
  | cons hs _ ih =>
    cases h₂ with
    | nil => simp at h
    | cons hs' hrest =>
      simp only [map_cons, cons.injEq] at h
      exact .cons (stepPreimage_inj hs hs' h.1) (ih hrest h.2)

section

variable {sha256 : Bytes → Digest} {log : List Bytes}

theorem leafDigest_ok {d : Digest} (h : leafDigest sha256 step = ⟨.ok d, log⟩) :
    ∃ c, StepOf step c ∧ d = sha256 (stepPreimage c) ∧ log = [stepPreimage c] := by
  obtain ⟨body, l₁, l₂, hbody, hquery, hlog⟩ := bind_eq_ok.mp h
  obtain ⟨hcanon, hl₁⟩ := lift_eq_ok.mp hbody
  obtain ⟨hd, hl₂⟩ := query_eq_ok.mp hquery
  obtain ⟨c, hc, hfits, henc⟩ := canonicalStepBytes_ok hcanon
  have hpre : leafSchema ++ body = stepPreimage c := by rw [henc, stepPreimage]
  exact ⟨c, ⟨hc, hfits⟩, by rw [← hd, hpre], by rw [hlog, hl₁, hl₂, hpre, nil_append]⟩

theorem mapM_leafDigest_ok : ∀ {trace : List ExecutionStep} {leaves : List Digest}
    {log : List Bytes}, trace.mapM (leafDigest sha256) = ⟨.ok leaves, log⟩ →
    ∃ cs, Forall₂ StepOf trace cs ∧ leaves = (cs.map stepPreimage).map sha256
      ∧ log = cs.map stepPreimage
  | [], leaves, log, h => by
    rw [mapM_nil] at h
    cases h
    exact ⟨[], .nil, rfl, rfl⟩
  | step :: rest, leaves, log, h => by
    rw [mapM_cons] at h
    obtain ⟨d, l₁, l₂, hd, h, hlog⟩ := bind_eq_ok.mp h
    obtain ⟨ds, l₃, l₄, hds, hpure, hl₂⟩ := bind_eq_ok.mp h
    obtain ⟨c, hc, hdc, hl₁⟩ := leafDigest_ok hd
    obtain ⟨cs, hcs, hdcs, hl₃⟩ := mapM_leafDigest_ok hds
    cases hpure
    refine ⟨c :: cs, .cons hc hcs, ?_, ?_⟩
    · rw [hdc, hdcs, map_cons, map_cons]
    · rw [hlog, hl₁, hl₂, hl₃, append_nil, map_cons, singleton_append]

/-! ## The root -/

/-- What a successful run of the trace root computed: the zero root of an empty trace, or the
digest of a tree whose leaves are the canonical steps in order, with every hash input of the
tree in the log. -/
inductive RootOf (sha256 : Bytes → Digest) (trace : List ExecutionStep) (out : Bytes)
    (log : List Bytes) : Prop where
  | empty (htrace : trace = []) (hout : out = zeroDigest.val)
  | tree (cs : List CanonicalStep) (t : MerkleTree Bytes) (hcs : List.Forall₂ StepOf trace cs)
      (hleaves : t.leaves = cs.map stepPreimage) (hout : out = (t.digest sha256 nodeInput).val)
      (hlog : t.leaves ++ t.inner sha256 nodeInput ⊆ log)

/-- **Specification of `try_calculate`.** -/
theorem tryCalculateTraceRoot_ok {trace : List ExecutionStep}
    (h : tryCalculateTraceRoot sha256 trace = ⟨.ok out, log⟩) : RootOf sha256 trace out log := by
  cases trace with
  | nil =>
    have hout : out = zeroDigest.val := by
      cases h
      rfl
    exact .empty rfl hout
  | cons step rest =>
    obtain ⟨leaves, l₁, l₂, hleaves, h, hlog⟩ := bind_eq_ok.mp h
    obtain ⟨root, l₃, l₄, hroot, hret, hl₂⟩ := bind_eq_ok.mp h
    obtain ⟨cs, hcs, hds, hl₁⟩ := mapM_leafDigest_ok hleaves
    have hne : cs.map stepPreimage ≠ [] := by
      cases hcs
      simp
    obtain ⟨t, tlog, hrun, htl, hinner⟩ :=
      merkleRoot_eq_digest (ε := TraceMerkleError) sha256 nodeInput _ hne
    rw [← hds, hroot] at hrun
    cases hrun
    cases hret
    refine .tree cs t hcs htl rfl ?_
    -- the leaves are in the first part of the log, the inner nodes in the second
    rw [hlog, hl₂, hl₁, htl]
    intro q hq
    rcases mem_append.mp hq with hq | hq
    · exact mem_append_left _ hq
    · exact mem_append_right _ (mem_append_left _ (hinner hq))

theorem hitsZero_of_tree {t : MerkleTree Bytes} (hlog : t.leaves ++ t.inner sha256 nodeInput ⊆ log)
    (h : zeroDigest.val = (t.digest sha256 nodeInput).val) : HitsDigest sha256 zeroDigest log := by
  obtain ⟨q, hq, hdigest⟩ := t.exists_mem_digest sha256 nodeInput
  exact ⟨q, hlog hq, by rw [hdigest, Subtype.ext h]⟩

/-- **The trace root binds the trace.** Two runs that end in one root ran on the same trace
step by step, or exhibit a collision or a preimage of the zero digest. -/
theorem RootOf.same_or_collides {log₁ log₂ : List Bytes}
    (h₁ : RootOf sha256 t₁ out log₁) (h₂ : RootOf sha256 t₂ out log₂) :
    Forall₂ ExecutionStep.Same t₁ t₂ ∨ Collides sha256 log₁ log₂
      ∨ HitsDigest sha256 zeroDigest log₁ ∨ HitsDigest sha256 zeroDigest log₂ := by
  cases h₁ with
  | empty ht₁ ho₁ =>
    cases h₂ with
    | empty ht₂ _ =>
      rw [ht₁, ht₂]
      exact .inl .nil
    | tree _ _ _ _ ho₂ hlog₂ =>
      exact .inr (.inr (.inr (hitsZero_of_tree hlog₂ (ho₁.symm.trans ho₂))))
  | tree cs₁ tr₁ hcs₁ hl₁ ho₁ hlog₁ =>
    cases h₂ with
    | empty _ ho₂ =>
      exact .inr (.inr (.inl (hitsZero_of_tree hlog₁ (ho₂.symm.trans ho₁))))
    | tree cs₂ tr₂ hcs₂ hl₂ ho₂ hlog₂ =>
      have hsep : ∀ {cs : List CanonicalStep}, ∀ q ∈ cs.map stepPreimage, ∀ a b,
          q ≠ nodeInput a b := by
        intro cs q hq a b
        obtain ⟨c, -, rfl⟩ := mem_map.mp hq
        exact stepPreimage_ne_nodeInput c a b
      have hdigest := Subtype.ext (ho₁.symm.trans ho₂)
      rcases MerkleTree.eq_or_collides sha256 nodeInput nodeInput_injective2 tr₁ tr₂
        (hl₁ ▸ hsep) (hl₂ ▸ hsep) hdigest with htr | hc
      · exact .inl (traces_same hcs₁ hcs₂ (by rw [← hl₁, ← hl₂, htr]))
      · exact .inr (.inl (hc.mono hlog₁ hlog₂))

end

end Tarka.Evidence
