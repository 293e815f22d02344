import Tarka.Evidence.WireIntegrity
import Tarka.Py.MerkleSoundness

/-! # The auditor verifier in Python (`tarka/verifier.py`)

The Python package verifies the same manifests as `evidence/wire_integrity.rs`, with its own
implementation of every digest: strings are sorted by code points instead of UTF-8 bytes, doubles
go through `struct`, and the trace root comes from `tarka/merkle_wire.py`.

`verdicts_agree_iff` is the comparison of the two verifiers on a decoded manifest. Each digest of
the one is shown to be the digest of the other, in values (`toOption`), the errors apart: every
failure of a digest ends in one failure code on both sides. What is left is the signature, which the
two libraries do not verify alike.

`nacl.bindings` is a parameter like `ed25519_dalek`. `Ed25519phLibraries` states what is known of
the two libraries. -/

namespace Tarka.Py

open Tarka.Lib Tarka.Evidence HashRun Option Subtype

/-! ## The source -/

/-- `_SignalHashError`. -/
structure SignalHashException where
  msg : String

/-- `_TraceMerkleError`. -/
structure TraceMerkleException where
  msg : String

/-- `_SealEncodeError`. -/
structure SealEncodeException where
  msg : String

inductive VerificationFailureReason where
  | signatureMismatch
  | rootHashMismatch
  | decodeError
  | incompleteProof
  | engineMetadataMissing
  | invalidPublicKey
  | invalidSealFields
  | canonicalizationError
  deriving DecidableEq

/-- The value of a `VerificationFailureReason`, which is a `str` enumeration. -/
def VerificationFailureReason.code : VerificationFailureReason → String
  | signatureMismatch => "SIGNATURE_MISMATCH"
  | rootHashMismatch => "ROOT_HASH_MISMATCH"
  | decodeError => "DECODE_ERROR"
  | incompleteProof => "INCOMPLETE_PROOF"
  | engineMetadataMissing => "ENGINE_METADATA_MISSING"
  | invalidPublicKey => "INVALID_PUBLIC_KEY"
  | invalidSealFields => "INVALID_SEAL_FIELDS"
  | canonicalizationError => "CANONICALIZATION_ERROR"

structure VerificationResult where
  status : Bool
  failureReason : Option VerificationFailureReason
  deriving DecidableEq

def VerificationResult.failed (r : VerificationFailureReason) : VerificationResult :=
  ⟨false, some r⟩

/-- The helpers `_write_len_prefixed`, `_write_len_prefixed_digest` and
`_append_len_prefixed_trace`, which differ in the exception they raise. -/
def appendLenPrefixed {ε : Type} (tooLong : ε) (buf chunk : Bytes) : Except ε Bytes :=
  if chunk.length > 0xFFFFFFFF then .error tooLong
  else .ok (buf ++ beBytes 4 chunk.length ++ chunk)

def writeLenPrefixed : Bytes → Bytes → Except SealEncodeException Bytes :=
  appendLenPrefixed ⟨"length exceeds u32::MAX"⟩

def writeLenPrefixedDigest : Bytes → Bytes → Except SignalHashException Bytes :=
  appendLenPrefixed ⟨"length exceeds u32::MAX"⟩

def appendLenPrefixedTrace : Bytes → Bytes → Except TraceMerkleException Bytes :=
  appendLenPrefixed ⟨"encoded field length exceeds u32::MAX"⟩

/-- `struct.pack(">d", n)`. -/
def structPackD (n : F64) : Bytes := beBytes 8 n.bits.toNat

/-- `struct.unpack(">Q", b)[0]`. -/
def structUnpackQ (b : Bytes) : Nat := ofBeBytes b

def updateHasherWithSignal (hasher : Bytes) (fieldName : String) (sv : SignalValue) :
    Except SignalHashException Bytes := do
  let hasher ← writeLenPrefixedDigest hasher (utf8 fieldName)
  let hasher ← writeLenPrefixedDigest hasher (utf8 sv.source)
  match sv.value with
  | none => .error ⟨"unset payload for `" ++ fieldName ++ "`"⟩
  | some (.strVal s) => writeLenPrefixedDigest (hasher ++ [1]) (utf8 s)
  | some (.numVal n) => .ok (hasher ++ [2] ++ beBytes 8 (structUnpackQ (structPackD n)))
  | some (.boolVal b) => .ok (hasher ++ [3] ++ [if b then 1 else 0])
  | some (.rawBytes b) => writeLenPrefixedDigest (hasher ++ [4]) b

/-- The body of the loop of `_hash_signals_map`. -/
def hashSignalsMapStep (signals : KeyMap SignalValue) (hasher : Bytes) (name : String) :
    Except SignalHashException Bytes :=
  match signals.get? name with
  | none => .error ⟨"missing key after sort"⟩
  | some sv => updateHasherWithSignal hasher name sv

def countToBytes (n : Nat) (msg : String) : Except TraceMerkleException Bytes :=
  if n > 0xFFFFFFFF then .error ⟨msg⟩ else .ok (beBytes 4 n)

def appendSnapshotEntry (snapshot : KeyMap String) (out : Bytes) (k : String) :
    Except TraceMerkleException Bytes :=
  match snapshot.get? k with
  | none => .error ⟨"state_snapshot missing key after sort"⟩
  | some v => do
    let out ← appendLenPrefixedTrace out (utf8 k)
    appendLenPrefixedTrace out (utf8 v)

def canonicalStepBytes (step : ExecutionStep) : Except TraceMerkleException Bytes := do
  let out := beBytes 4 step.sequence.toNat
  let out ← appendLenPrefixedTrace out (utf8 step.ruleId)
  let out ← appendLenPrefixedTrace out (utf8 step.operator)
  let operands := sortByCodePoints step.operands
  let opCount ← countToBytes operands.length "operand count exceeds u32::MAX"
  let out := out ++ opCount
  let out ← operands.foldlM (fun out op => appendLenPrefixedTrace out (utf8 op)) out
  let out := out ++ [if step.result then 1 else 0]
  let snapKeys := sortByCodePoints step.stateSnapshot.keys
  let snapCount ← countToBytes snapKeys.length "snapshot key count exceeds u32::MAX"
  let out := out ++ snapCount
  snapKeys.foldlM (appendSnapshotEntry step.stateSnapshot) out

/-- What escapes or is caught in `verify_manifest_integrity`. -/
inductive AuditException where
  | signalHash (e : SignalHashException)
  | traceMerkle (e : TraceMerkleException)
  | sealEncode (e : SealEncodeException)
  | uncaught (e : PyException)

/-- What `nacl.bindings` raises for a signature it does not accept. -/
inductive NaclError where
  | badSignatureError
  | valueError

/-- The part of `nacl.bindings` the verifier calls: an Ed25519ph state that has absorbed the
message is verified against a signature and a key. -/
structure Sodium where
  finalVerify : Bytes → Bytes → Bytes → Except NaclError Unit

section

variable (sha256 : Bytes → Digest) (sodium : Sodium)

def hashSignalsMap (signals : KeyMap SignalValue) : HashRun Bytes SignalHashException Bytes := do
  let keys := sortByCodePoints signals.keys
  let hasher ← liftM (keys.foldlM (hashSignalsMapStep signals) inputStateSchema)
  let digest ← HashRun.query sha256 hasher
  return digest.val

def leafDigest (step : ExecutionStep) : HashRun Bytes TraceMerkleException Bytes := do
  let body ← liftM (canonicalStepBytes step)
  let digest ← HashRun.query sha256 (leafSchema ++ body)
  return digest.val

def calculateTraceRoot (trace : List ExecutionStep) : HashRun Bytes AuditException Bytes :=
  if trace.isEmpty then
    return List.replicate 32 0
  else do
    let leaves ← (trace.mapM (leafDigest sha256)).mapErr .traceMerkle
    (merkleRootRsSha256 sha256 leaves).mapErr .uncaught

def sealSuperBlockDigest (signalsDigest traceDigest : Bytes) (manifestId gitHash : String) :
    HashRun Bytes SealEncodeException Bytes := do
  HashRun.failIf (signalsDigest.length ≠ 32 ∨ traceDigest.length ≠ 32)
    ⟨"digest length invariant"⟩
  let buf := sealSuperBlockSchema ++ signalsDigest ++ traceDigest
  let buf ← liftM (writeLenPrefixed buf (utf8 manifestId))
  let buf ← liftM (writeLenPrefixed buf (utf8 gitHash))
  let digest ← HashRun.query sha256 buf
  return digest.val

/-- The `try` block of `verify_manifest_integrity` that recomputes the root. -/
def recomputeRoot (manifest : EvidenceManifest) (gitHash : String) :
    HashRun Bytes AuditException Bytes := do
  let signalsDigest ← (hashSignalsMap sha256 manifest.signals).mapErr .signalHash
  let traceDigest ← calculateTraceRoot sha256 manifest.trace
  (sealSuperBlockDigest sha256 signalsDigest traceDigest manifest.manifestId gitHash).mapErr
    .sealEncode

/-- `_verify_ed25519ph_prehashed_root`: whether it returns without an exception. -/
def verifyEd25519phPrehashedRoot (publicKey signature merkleRoot : Bytes) : Bool :=
  if publicKey.length ≠ 32 then false
  else if signature.length ≠ 64 then false
  else if merkleRoot.length ≠ 32 then false
  else
    match sodium.finalVerify merkleRoot signature publicKey with
    | .ok () => true
    | .error .badSignatureError => false
    | .error .valueError => false

/-- `verify_manifest_integrity`, for a manifest that has been decoded. -/
def verifyManifestIntegrity (manifest : EvidenceManifest) (publicKey : Bytes) :
    Except AuditException VerificationResult :=
  if publicKey.length ≠ 32 then .ok (.failed .invalidPublicKey)
  else
    let rootEmbedded := manifest.merkleRoot
    let sig := manifest.signature
    match manifest.engine with
    | none => .ok (.failed .engineMetadataMissing)
    | some engine =>
      if rootEmbedded.length = 32 ∧ sig.length = 64 ∧ manifest.merkleProof.isNone then
        .ok (.failed .incompleteProof)
      else if rootEmbedded.length ≠ 32 ∨ sig.length ≠ 64 then
        .ok (.failed .invalidSealFields)
      else
        match (recomputeRoot sha256 manifest engine.gitHash).result with
        | .error (.uncaught e) => .error (.uncaught e)
        | .error _ => .ok (.failed .canonicalizationError)
        | .ok recomputed =>
          if recomputed ≠ rootEmbedded then .ok (.failed .rootHashMismatch)
          else if verifyEd25519phPrehashedRoot sodium publicKey sig recomputed then
            .ok ⟨true, none⟩
          else .ok (.failed .signatureMismatch)

end

/-! ## The digests agree -/

theorem appendLenPrefixed_toOption {ε ε' : Type} (e : ε) (e' : ε') (buf chunk : Bytes) :
    (appendLenPrefixed e buf chunk).toOption
      = (writeLenPrefixedWith e' buf chunk).toOption := by
  unfold appendLenPrefixed writeLenPrefixedWith
  by_cases h : chunk.length < 256 ^ 4
  · rw [if_pos h, if_neg (by omega)]
    rfl
  · rw [if_neg h, if_pos (by omega)]
    rfl

theorem countToBytes_toOption (n : Nat) (msg : String) :
    (countToBytes n msg).toOption = (countBytes n).toOption := by
  unfold countToBytes countBytes
  by_cases h : n < 256 ^ 4
  · rw [if_pos h, if_neg (by omega)]
    rfl
  · rw [if_neg h, if_pos (by omega)]
    rfl

theorem structUnpackQ_structPackD (n : F64) : structUnpackQ (structPackD n) = n.bits.toNat :=
  ofBeBytes_beBytes n.bits.toNat_lt

theorem updateHasherWithSignal_toOption (hasher : Bytes) (name : String) (sv : SignalValue) :
    (updateHasherWithSignal hasher name sv).toOption
      = (updateHasherWithEntry hasher name sv).toOption := by
  unfold updateHasherWithSignal updateHasherWithEntry writeLenPrefixedDigest
  simp only [toOption_bind, appendLenPrefixed_toOption _ SignalHashError.tooLarge]
  refine congrArg _ (funext fun h₁ => congrArg _ (funext fun h₂ => ?_))
  cases sv.value with
  | none => rfl
  | some v =>
    cases v with
    | strVal s => exact appendLenPrefixed_toOption _ _ _ _
    | numVal n =>
      simp only [structUnpackQ_structPackD]
      rfl
    | boolVal b => rfl
    | rawBytes b => exact appendLenPrefixed_toOption _ _ _ _

section

variable (sha256 : Bytes → Digest)

/-- **The signal digests agree**: the order of the keys is the same one. -/
theorem hashSignalsMap_outcome (signals : KeyMap SignalValue) :
    (hashSignalsMap sha256 signals).outcome = (hashSignals sha256 signals).outcome := by
  have hstep : ∀ (hasher : Bytes) (name : String),
      (hashSignalsMapStep signals hasher name).toOption
        = (hashSignalsStep signals hasher name).toOption := by
    intro hasher name
    unfold hashSignalsMapStep hashSignalsStep
    cases signals.get? name with
    | none => rfl
    | some sv => exact updateHasherWithSignal_toOption _ _ _
  unfold hashSignalsMap hashSignals
  simp only [outcome_bind, outcome_lift, outcome_query,
    outcome_pure, sortByCodePoints_eq, toOption_foldlM hstep]

variable (step : ExecutionStep)

/-- **The step encodings agree.** -/
theorem canonicalStepBytes_toOption :
    (canonicalStepBytes step).toOption = (Evidence.canonicalStepBytes step).toOption := by
  have hwrite : ∀ buf chunk, (appendLenPrefixedTrace buf chunk).toOption
      = (Evidence.writeLenPrefixed buf chunk).toOption :=
    fun _ _ => appendLenPrefixed_toOption _ _ _ _
  have hsnap : ∀ out k, (appendSnapshotEntry step.stateSnapshot out k).toOption
      = (writeSnapshotEntry step.stateSnapshot out k).toOption := by
    intro out k
    unfold appendSnapshotEntry writeSnapshotEntry
    cases step.stateSnapshot.get? k with
    | none => rfl
    | some v => simp only [toOption_bind, hwrite]
  unfold canonicalStepBytes Evidence.canonicalStepBytes
  simp only [toOption_bind, hwrite, countToBytes_toOption, sortByCodePoints_eq,
    toOption_foldlM hsnap, toOption_foldlM (fun out op => hwrite out (utf8 op))]

theorem leafDigest_outcome :
    (leafDigest sha256 step).outcome
      = (Evidence.leafDigest sha256 step).outcome.map val := by
  unfold leafDigest Evidence.leafDigest
  simp only [outcome_bind, outcome_lift, canonicalStepBytes_toOption, outcome_query, outcome_pure]
  cases (Evidence.canonicalStepBytes step).toOption <;> rfl

/-- **The Merkle roots agree** on every non-empty list of leaves. -/
theorem merkleRootRsSha256_outcome {leaves : List Digest} (hne : leaves ≠ []) :
    (merkleRootRsSha256 sha256 (leaves.map val)).outcome
      = some (treeRoot sha256 leaves).val
    ∧ (merkleRoot sha256 nodeInput leaves : HashRun Bytes TraceMerkleError _).outcome
      = some (some (treeRoot sha256 leaves)) := by
  have hrust := rootLoop_eq_layerAt (ε := TraceMerkleError) sha256 nodeInput (t := leafAt leaves)
    (List.length_pos_iff.mpr hne) (Nat.le_succ _) (Nat.le_of_lt (lt_two_pow_treeDepth _))
  rw [map_leafAt_range] at hrust
  constructor
  · rw [merkleRootRsSha256_eq sha256 hne]
    rfl
  · rw [HashRun.outcome, merkleRoot, hrust]
    rfl

theorem leaves_of_trace {step : ExecutionStep} {rest : List ExecutionStep} {ds : List Digest}
    (hds : ((step :: rest).mapM (Evidence.leafDigest sha256)).outcome = some ds) : ds ≠ [] := by
  obtain ⟨cs, hcs, hdsEq, -⟩ := mapM_leafDigest_ok (eq_of_outcome hds)
  cases hcs
  simp [hdsEq]

/-- **The trace roots agree.** -/
theorem calculateTraceRoot_outcome (trace : List ExecutionStep) :
    (calculateTraceRoot sha256 trace).outcome
      = (tryCalculateTraceRoot sha256 trace).outcome := by
  cases trace with
  | nil => rfl
  | cons step rest =>
    have hleaves := outcome_mapM_map val (leafDigest_outcome sha256)
      (step :: rest)
    unfold calculateTraceRoot tryCalculateTraceRoot
    simp only [List.isEmpty_cons, Bool.false_eq_true, if_false, outcome_bind,
      outcome_mapErr, hleaves]
    cases hds : ((step :: rest).mapM (Evidence.leafDigest sha256)).outcome with
    | none => rfl
    | some ds =>
      obtain ⟨hpy, hrust⟩ := merkleRootRsSha256_outcome sha256 (leaves_of_trace sha256 hds)
      simp only [map_some, bind_some, hpy, hrust]
      rfl

/-- **The super-block digests agree.** -/
theorem sealSuperBlockDigest_outcome (sd td : Bytes) (mid gh : String) :
    (sealSuperBlockDigest sha256 sd td mid gh).outcome
      = (Evidence.sealSuperBlockDigest sha256 sd td mid gh).outcome.map val := by
  have hwrite : ∀ buf chunk, (writeLenPrefixed buf chunk).toOption
      = (writeLenPrefixedSeal buf chunk).toOption :=
    fun _ _ => appendLenPrefixed_toOption _ _ _ _
  unfold sealSuperBlockDigest Evidence.sealSuperBlockDigest
  simp only [outcome_bind, outcome_failIf, outcome_lift, outcome_query, outcome_pure, hwrite]
  split_ifs
  · rfl
  · cases (writeLenPrefixedSeal (sealSuperBlockSchema ++ sd ++ td) (utf8 mid)).toOption with
    | none => rfl
    | some b₁ =>
      simp only [bind_some]
      cases (writeLenPrefixedSeal b₁ (utf8 gh)).toOption <;> rfl

/-- **The recomputed roots agree.** -/
theorem recomputeRoot_outcome (m : EvidenceManifest) (gitHash : String) :
    (recomputeRoot sha256 m gitHash).outcome
      = (sealedRoot sha256 m gitHash).map val := by
  unfold recomputeRoot sealedRoot
  simp only [outcome_bind, outcome_mapErr, hashSignalsMap_outcome,
    calculateTraceRoot_outcome, sealSuperBlockDigest_outcome]
  cases (hashSignals sha256 m.signals).outcome with
  | none => rfl
  | some sd => cases (tryCalculateTraceRoot sha256 m.trace).outcome <;> rfl

theorem calculateTraceRoot_caught (trace : List ExecutionStep) (e : PyException) :
    (calculateTraceRoot sha256 trace).result ≠ .error (.uncaught e) := by
  intro h
  cases trace with
  | nil => cases h
  | cons step rest =>
    rcases bind_eq_error.mp h with hleaf | ⟨leaves, hleaves, hroot⟩
    · obtain ⟨_, -, he⟩ := mapErr_eq_error.mp hleaf
      cases he
    · have hout := outcome_of_result hleaves
      rw [outcome_mapErr, outcome_mapM_map val (leafDigest_outcome sha256)] at hout
      obtain ⟨ds, hds, rfl⟩ := map_eq_some_iff.mp hout
      obtain ⟨_, hfail, -⟩ := mapErr_eq_error.mp hroot
      have hok := (merkleRootRsSha256_outcome sha256 (leaves_of_trace sha256 hds)).1
      exact result_ne_error hok hfail

theorem recomputeRoot_caught (m : EvidenceManifest) (gitHash : String) (e : PyException) :
    (recomputeRoot sha256 m gitHash).result ≠ .error (.uncaught e) := by
  intro h
  rcases bind_eq_error.mp h with hsignals | ⟨sd, -, h⟩
  · obtain ⟨_, -, he⟩ := mapErr_eq_error.mp hsignals
    cases he
  · rcases bind_eq_error.mp h with htrace | ⟨td, -, hseal⟩
    · exact calculateTraceRoot_caught sha256 m.trace e htrace
    · obtain ⟨_, -, he⟩ := mapErr_eq_error.mp hseal
      cases he

end

/-! ## The verdicts -/

/-- The points of small order, by their coordinate `y`, with the two that are not reduced. -/
def smallOrderPoints : List Nat :=
  [0, 1, 2 ^ 255 - 20, 2 ^ 255 - 19, 2 ^ 255 - 18,
    2707385501144840649318225287225658788936804267575313519463743609750303402022,
    55188659117513257062467267217118295137698188065244968500265048394206261417927]

/-- The first half of a signature, the point `R`, is of small order. -/
def hasSmallOrder (sig : Bytes) : Bool :=
  smallOrderPoints.contains (ofBeBytes (sig.take 32).reverse % 2 ^ 255)

/-- What is known of the two libraries on a valid key and on signatures of 64 bytes. `Verifies` is
the equation of Ed25519ph, the point that is recomputed from a signature is its `R`. By it dalek
decides. libsodium refuses an `R` of small order, and a version that multiplies by the cofactor also
accepts signatures for which the equation holds up to a point of small order (`Cofactored`). -/
structure Ed25519phLibraries (dalek : Dalek) (sodium : Sodium) (ValidKey : PublicKey → Prop)
    (Verifies Cofactored : PublicKey → Bytes → Bytes → Prop) : Prop where
  key : ∀ pk, ValidKey pk → ∃ vk, dalek.fromBytes pk = some vk
  dalek : ∀ pk vk, ValidKey pk → dalek.fromBytes pk = some vk → ∀ msg sig : Bytes,
    sig.length = 64 → (signatureAccepted dalek vk msg sig = true ↔ Verifies pk msg sig)
  sodium : ∀ pk, ValidKey pk → ∀ msg sig : Bytes, sig.length = 64 →
    (sodium.finalVerify msg sig pk.val = .ok ()
      ↔ hasSmallOrder sig = false ∧ (Verifies pk msg sig ∨ Cofactored pk msg sig))

def reasonOf : WireManifestVerifyFailure → VerificationFailureReason
  | .signatureMismatch => .signatureMismatch
  | .rootHashMismatch => .rootHashMismatch
  | .decodeError => .decodeError
  | .incompleteProof => .incompleteProof
  | .engineMetadataMissing => .engineMetadataMissing
  | .invalidPublicKey => .invalidPublicKey
  | .invalidSealFields => .invalidSealFields
  | .canonicalizationError => .canonicalizationError

theorem code_reasonOf (e : WireManifestVerifyFailure) : (reasonOf e).code = e.code := by
  cases e <;> rfl

/-- The result the Python verifier has to return for a Rust verdict. -/
def resultOf : Except WireManifestVerifyFailure Unit → VerificationResult
  | .ok () => ⟨true, none⟩
  | .error e => .failed (reasonOf e)

/-- Both verifiers accept, or both reject with one failure code. -/
def SameVerdict (rust : Except WireManifestVerifyFailure Unit)
    (python : Except AuditException VerificationResult) : Prop :=
  (rust = .ok () ∧ python = .ok ⟨true, none⟩)
  ∨ ∃ e reason, rust = .error e ∧ python = .ok ⟨false, some reason⟩ ∧ reason.code = e.code

theorem sameVerdict_iff {rust rust' : Except WireManifestVerifyFailure Unit} :
    SameVerdict rust (.ok (resultOf rust')) ↔ rust = rust' := by
  constructor
  · rintro (⟨rfl, h⟩ | ⟨e, reason, rfl, h, hcode⟩)
    · rcases rust' with e | u
      · cases h
      · rfl
    · rcases rust' with e' | u
      · obtain rfl : reasonOf e' = reason := Option.some.inj
          (congrArg VerificationResult.failureReason (Except.ok.inj h))
        rw [code_reasonOf] at hcode
        revert hcode
        cases e <;> cases e' <;> decide
      · cases h
  · rintro rfl
    rcases rust with e | u
    · exact .inr ⟨e, reasonOf e, rfl, rfl, code_reasonOf e⟩
    · exact .inl ⟨rfl, rfl⟩

section

variable (sha256 : Bytes → Digest) (m : EvidenceManifest)

/-- Every check before that of the signature passes. -/
def ReachesSignature : Prop :=
  m.signature.length = 64 ∧ m.merkleProof.isSome = true
  ∧ ∃ engine root, m.engine = some engine ∧ sealedRoot sha256 m engine.gitHash = some root
    ∧ root.val = m.merkleRoot

theorem verdict_eq_iff {accepted accepted' : Bytes → Bool} :
    verdict sha256 m accepted = verdict sha256 m accepted'
      ↔ (ReachesSignature sha256 m → accepted m.merkleRoot = accepted' m.merkleRoot) := by
  constructor
  · rintro h ⟨hsig, hproof, engine, root, hengine, hroot, hsame⟩
    have hlen : m.merkleRoot.length = 32 := hsame ▸ root.property
    have hopen : m.merkleProof.isNone = false := by rw [← Option.not_isSome, hproof]; rfl
    simp only [verdict, hengine, hroot, hsame, hlen, hsig, hopen, ne_eq, not_true_eq_false,
      Bool.false_eq_true, and_false, or_false, if_false] at h
    cases ha : accepted m.merkleRoot <;> cases ha' : accepted' m.merkleRoot <;>
      simp [ha, ha'] at h ⊢
  · intro h
    unfold verdict
    cases hengine : m.engine with
    | none => rfl
    | some engine =>
      simp only
      split_ifs with hproof hfields
      · rfl
      · rfl
      cases hroot : sealedRoot sha256 m engine.gitHash with
      | none => rfl
      | some root =>
        simp only
        by_cases hsame : root.val = m.merkleRoot
        · have hproof' : m.merkleProof.isSome = true := by
            cases hp : m.merkleProof with
            | none => exact absurd ⟨by omega, by omega, by rw [hp]; rfl⟩ hproof
            | some p => rfl
          rw [hsame, h ⟨by omega, hproof', engine, root, hengine, hroot, hsame⟩]
        · rw [if_pos hsame, if_pos hsame]

variable {sodium : Sodium} {pk : PublicKey}

theorem verifyEd25519phPrehashedRoot_eq {sig root : Bytes}
    (hsig : sig.length = 64) (hroot : root.length = 32) :
    verifyEd25519phPrehashedRoot sodium pk.val sig root ↔
      sodium.finalVerify root sig pk.val = .ok () := by
  unfold verifyEd25519phPrehashedRoot
  rw [if_neg (by omega), if_neg (by omega), if_neg (by omega)]
  rcases sodium.finalVerify root sig pk.val with e | u
  · cases e <;> simp
  · simp

/-- **The checks of the Python verifier** are those of the Rust verifier, up to the signature. -/
theorem verifyManifestIntegrity_eq :
    verifyManifestIntegrity sha256 sodium m pk.val
      = .ok (resultOf (verdict sha256 m
        (verifyEd25519phPrehashedRoot sodium pk.val m.signature))) := by
  rw [verifyManifestIntegrity, verdict, if_neg (by simp [pk.property])]
  cases m.engine with
  | none => rfl
  | some engine =>
    simp only
    split_ifs with hproof hfields
    · rfl
    · rfl
    have houtcome := recomputeRoot_outcome sha256 m engine.gitHash
    have hcaught := recomputeRoot_caught sha256 m engine.gitHash
    cases hroot : sealedRoot sha256 m engine.gitHash with
    | none =>
      rw [hroot, HashRun.outcome] at houtcome
      cases hres : (recomputeRoot sha256 m engine.gitHash).result with
      | ok r => rw [hres] at houtcome; cases houtcome
      | error e =>
        cases e with
        | uncaught e => exact absurd hres (hcaught e)
        | signalHash e | traceMerkle e | sealEncode e => rfl
    | some root =>
      rw [hroot] at houtcome
      rw [eq_of_outcome houtcome]
      simp only
      split_ifs <;> rfl

end

/-- **When both verifiers accept, or both reject with one failure code**: on every decoded manifest
under every valid key, unless the signature is reached and is one on which the libraries differ. -/
theorem verdicts_agree_iff (sha256 : Bytes → Digest) (dalek : Dalek) (sodium : Sodium)
    (ValidKey : PublicKey → Prop) (Verifies Cofactored : PublicKey → Bytes → Bytes → Prop)
    (hlib : Ed25519phLibraries dalek sodium ValidKey Verifies Cofactored) (m : EvidenceManifest)
    (pk : PublicKey) (hpk : ValidKey pk) :
    SameVerdict (verifyManifest sha256 dalek m pk).result
        (verifyManifestIntegrity sha256 sodium m pk.val)
      ↔ ¬ (ReachesSignature sha256 m
        ∧ ((hasSmallOrder m.signature = true ∧ Verifies pk m.merkleRoot m.signature)
          ∨ (hasSmallOrder m.signature = false ∧ Cofactored pk m.merkleRoot m.signature
            ∧ ¬ Verifies pk m.merkleRoot m.signature))) := by
  obtain ⟨vk, hvk⟩ := hlib.key pk hpk
  rw [verifyManifestIntegrity_eq, sameVerdict_iff, verifyManifest_result sha256 hvk, verdict_eq_iff,
    not_and]
  -- before the signature both fail alike; from there on the libraries decide
  refine forall_congr' fun hreach => ?_
  obtain ⟨hsig, -, -, root, -, -, hroot⟩ := hreach
  have hlen : m.merkleRoot.length = 32 := hroot ▸ root.property
  rw [Bool.eq_iff_iff, hlib.dalek pk vk hpk hvk _ _ hsig, verifyEd25519phPrehashedRoot_eq hsig hlen,
    hlib.sodium pk hpk _ _ hsig]
  cases hasSmallOrder m.signature with
  | true => simp
  | false => simp only [true_and, Bool.false_eq_true, false_and, false_or]; tauto

/-! ### The golden fixture -/

open Golden

/-- A signature of the fixture's root under its key, with the neutral element as `R`. -/
def neutralSignature : Bytes := 1 :: List.replicate 31 0 ++ [
    241, 26, 15, 152, 188, 84, 92, 77, 13, 110, 169, 250, 222, 233, 130, 218, 132, 18, 112, 19, 60,
    41, 155, 13, 234, 255, 39, 237, 207, 150, 92, 9]

/-- The two signatures of the root for which the equation holds. -/
def VerifiesGolden (pk : PublicKey) (msg sig : Bytes) : Prop :=
  pk = publicKey ∧ msg = root.val ∧ (sig = signature ∨ sig = neutralSignature)

instance (pk : PublicKey) (msg sig : Bytes) : Decidable (VerifiesGolden pk msg sig) :=
  inferInstanceAs (Decidable (_ ∧ _))

def goldenDalek : Dalek where
  VerifyingKey := PublicKey
  Signature := Bytes
  fromBytes := some
  fromSlice b := if b.length = 64 then some b else none
  verifyPrehashed vk msg sig := decide (VerifiesGolden vk msg sig)

/-- `nacl.bindings` on the fixture's root and key. -/
def goldenSodium : Sodium where
  finalVerify msg sig pk :=
    if pk = publicKey.val ∧ msg = root.val ∧ sig = signature then .ok ()
    else .error .badSignatureError

theorem golden_libraries : Ed25519phLibraries goldenDalek goldenSodium (fun pk => pk = publicKey)
    VerifiesGolden (fun _ _ _ => False) where
  key pk _ := ⟨pk, rfl⟩
  dalek pk vk _ hvk msg sig hsig := by
    cases hvk
    simp [signatureAccepted, goldenDalek, hsig]
  sodium pk hpk msg sig _ := by
    subst hpk
    have hplain : hasSmallOrder signature = false := by decide +kernel
    have hneutral : hasSmallOrder neutralSignature = true := by decide +kernel
    simp only [goldenSodium, VerifiesGolden, true_and, or_false]
    constructor
    · intro h
      split_ifs at h with hgolden
      exact ⟨hgolden.2 ▸ hplain, hgolden.1, .inl hgolden.2⟩
    · rintro ⟨hsmall, hmsg, rfl | rfl⟩
      · exact if_pos ⟨hmsg, rfl⟩
      · rw [hneutral] at hsmall
        cases hsmall

/-- Both verifiers on the golden fixture. -/
theorem verdicts_agree_golden :
    SameVerdict (verifyManifest sha256 goldenDalek (manifest (some [])) publicKey).result
      (verifyManifestIntegrity sha256 goldenSodium (manifest (some [])) publicKey.val) :=
  (verdicts_agree_iff sha256 goldenDalek goldenSodium _ _ _ golden_libraries (manifest (some []))
    publicKey rfl).mpr
    (fun h => h.2.elim (fun h => absurd h.1 (by decide +kernel)) (fun h => h.2.1))

def neutralManifest : EvidenceManifest := { manifest (some []) with signature := neutralSignature }

/-- **The fixture with the other signature**: the Rust verifier accepts it, and the Python verifier
reports a mismatch. -/
theorem neutral_signature_disagrees :
    Ed25519phLibraries goldenDalek goldenSodium (fun pk => pk = publicKey) VerifiesGolden
      (fun _ _ _ => False)
    ∧ (verifyManifest sha256 goldenDalek neutralManifest publicKey).result = .ok ()
    ∧ verifyManifestIntegrity sha256 goldenSodium neutralManifest publicKey.val
      = .ok (.failed .signatureMismatch) := by
  refine ⟨golden_libraries, by decide +kernel, ?_⟩
  rw [verifyManifestIntegrity_eq]
  exact congrArg Except.ok (by decide +kernel)

end Tarka.Py
