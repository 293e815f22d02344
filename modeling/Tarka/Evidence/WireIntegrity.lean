import Tarka.Evidence.Seal

/-! # Verification of wire manifests (`evidence/wire_integrity.rs`)

The verifier decodes a manifest, recomputes the sealed root from the signals, the trace, the
manifest id and the engine revision, compares it with the embedded root and checks the Ed25519ph
signature over it.

The protobuf decoder and the two libraries behind the verifier are parameters: `decode` for
`prost`, `sha256` for `sha2`, and `Dalek` for `ed25519_dalek`. Nothing is assumed about any of
them.

`SealedBy` says what an accepted manifest has been recomputed to, and
`SealedBy.same_or_collides` that one root seals one body of evidence. -/

namespace Tarka.Evidence

open Tarka.Lib HashRun Option List

/-! ## The source -/

/-- Stable failure codes, shared with the Python verifier. -/
inductive WireManifestVerifyFailure where
  | signatureMismatch
  | rootHashMismatch
  | decodeError
  | incompleteProof
  | engineMetadataMissing
  | invalidPublicKey
  | invalidSealFields
  | canonicalizationError
  deriving DecidableEq

def WireManifestVerifyFailure.code : WireManifestVerifyFailure → String
  | signatureMismatch => "SIGNATURE_MISMATCH"
  | rootHashMismatch => "ROOT_HASH_MISMATCH"
  | decodeError => "DECODE_ERROR"
  | incompleteProof => "INCOMPLETE_PROOF"
  | engineMetadataMissing => "ENGINE_METADATA_MISSING"
  | invalidPublicKey => "INVALID_PUBLIC_KEY"
  | invalidSealFields => "INVALID_SEAL_FIELDS"
  | canonicalizationError => "CANONICALIZATION_ERROR"

abbrev PublicKey := {b : Bytes // b.length = 32}

/-- The part of `ed25519_dalek` the verifier calls. `verifyPrehashed` stands for
`verify_prehashed` over a SHA-512 hasher that has absorbed the given message. -/
structure Dalek where
  VerifyingKey : Type
  Signature : Type
  fromBytes : PublicKey → Option VerifyingKey
  fromSlice : Bytes → Option Signature
  verifyPrehashed : VerifyingKey → Bytes → Signature → Bool

section

variable (sha256 : Bytes → Digest) (dalek : Dalek)

/-- `verify_wire_manifest_integrity` from the decoded manifest on. -/
def verifyManifest (manifest : EvidenceManifest) (publicKey : PublicKey) :
    HashRun Bytes WireManifestVerifyFailure Unit := do
  let rootEmbedded := manifest.merkleRoot
  let sig := manifest.signature
  let engine ← HashRun.okOr manifest.engine .engineMetadataMissing
  let merkleProofMissing := manifest.merkleProof.isNone
  HashRun.failIf (rootEmbedded.length = 32 ∧ sig.length = 64 ∧ merkleProofMissing) .incompleteProof
  HashRun.failIf (rootEmbedded.length ≠ 32 ∨ sig.length ≠ 64) .invalidSealFields
  let vk ← HashRun.okOr (dalek.fromBytes publicKey) .invalidPublicKey
  let signalsDigest ←
    (hashSignals sha256 manifest.signals).mapErr (fun _ => .canonicalizationError)
  let traceRoot ←
    (tryCalculateTraceRoot sha256 manifest.trace).mapErr (fun _ => .canonicalizationError)
  HashRun.failIf (signalsDigest.length ≠ 32 ∨ traceRoot.length ≠ 32) .canonicalizationError
  let recomputed ←
    (sealSuperBlockDigest sha256 signalsDigest traceRoot manifest.manifestId engine.gitHash).mapErr
      (fun _ => .canonicalizationError)
  HashRun.failIf (recomputed.val ≠ rootEmbedded) .rootHashMismatch
  let sigObj ← HashRun.okOr (dalek.fromSlice sig) .signatureMismatch
  HashRun.failIf (¬ dalek.verifyPrehashed vk recomputed.val sigObj) .signatureMismatch

def verifyWireManifestIntegrity (decode : Bytes → Option EvidenceManifest) (manifestBytes : Bytes)
    (publicKey : PublicKey) : HashRun Bytes WireManifestVerifyFailure Unit := do
  let manifest ← HashRun.okOr (decode manifestBytes) .decodeError
  verifyManifest sha256 dalek manifest publicKey

end

/-! ## The verdict -/

section

variable (sha256 : Bytes → Digest)

/-- The root that is recomputed from a manifest, unless a digest fails. -/
def sealedRoot (m : EvidenceManifest) (gitHash : String) : Option Digest :=
  (hashSignals sha256 m.signals).outcome.bind (fun sd =>
    (tryCalculateTraceRoot sha256 m.trace).outcome.bind (fun td =>
      (sealSuperBlockDigest sha256 sd td m.manifestId gitHash).outcome))

/-- Whether the signature of a manifest is one of the recomputed root. -/
def signatureAccepted (dalek : Dalek) (vk : dalek.VerifyingKey) (root sig : Bytes) : Bool :=
  (dalek.fromSlice sig).any (dalek.verifyPrehashed vk root)

/-- The checks of the verifier in their order, with a check of the signature. -/
def verdict (m : EvidenceManifest) (accepted : Bytes → Bool) :
    Except WireManifestVerifyFailure Unit :=
  match m.engine with
  | none => .error .engineMetadataMissing
  | some engine =>
    if m.merkleRoot.length = 32 ∧ m.signature.length = 64 ∧ m.merkleProof.isNone then
      .error .incompleteProof
    else if m.merkleRoot.length ≠ 32 ∨ m.signature.length ≠ 64 then .error .invalidSealFields
    else
      match sealedRoot sha256 m engine.gitHash with
      | none => .error .canonicalizationError
      | some root =>
        if root.val ≠ m.merkleRoot then .error .rootHashMismatch
        else if accepted root.val then .ok ()
        else .error .signatureMismatch

variable {dalek : Dalek}

theorem signatureCheck_result {ε : Type} (vk : dalek.VerifyingKey) (root sig : Bytes) (e : ε) :
    (dalek.fromSlice sig).elim (Except.error e)
        (fun s => if ¬ dalek.verifyPrehashed vk root s = true then .error e else .ok ())
      = if signatureAccepted dalek vk root sig then .ok () else .error e := by
  cases hsig : dalek.fromSlice sig with
  | none => simp [signatureAccepted, hsig]
  | some s => cases hver : dalek.verifyPrehashed vk root s <;> simp [signatureAccepted, hsig, hver]

variable {m : EvidenceManifest} {pk : PublicKey}

/-- **The verdict of the verifier**, for a key that is one. -/
theorem verifyManifest_result {vk : dalek.VerifyingKey} (hvk : dalek.fromBytes pk = some vk) :
    (verifyManifest sha256 dalek m pk).result
      = verdict sha256 m (fun root => signatureAccepted dalek vk root m.signature) := by
  unfold verifyManifest verdict
  cases m.engine with
  | none => rfl
  | some engine =>
    simp only [result_okOr_bind, result_failIf_bind,
      result_mapErr_const_bind, result_failIf, hvk, elim_some, sealedRoot]
    -- a digest of a wrong length fails the super-block as well
    have hseal : ∀ sd td : Bytes, sd.length ≠ 32 ∨ td.length ≠ 32 →
        (sealSuperBlockDigest sha256 sd td m.manifestId engine.gitHash).outcome = none := by
      intro sd td hlen
      simp [sealSuperBlockDigest, hlen]
    split_ifs with hproof hfields
    · rfl
    · rfl
    cases (hashSignals sha256 m.signals).outcome with
    | none => rfl
    | some sd =>
      cases (tryCalculateTraceRoot sha256 m.trace).outcome with
      | none => rfl
      | some td =>
        simp only [elim_some, bind_some]
        by_cases hlen : sd.length ≠ 32 ∨ td.length ≠ 32
        · rw [if_pos hlen, hseal sd td hlen]
        rw [if_neg hlen]
        cases (sealSuperBlockDigest sha256 sd td m.manifestId engine.gitHash).outcome with
        | none => rfl
        | some root =>
          rw [elim_some, signatureCheck_result]

end

/-! ## What acceptance means -/

/-- The embedded root of `m` has been recomputed from its evidence, and every hash input on the
way is in the log. -/
structure SealedBy (sha256 : Bytes → Digest) (m : EvidenceManifest) (log : List Bytes) where
  engine : EngineMetadata
  entries : List SignalEntry
  traceRoot : Bytes
  hengine : m.engine = some engine
  hentries : List.Forall₂ (EntryOf m.signals) (sortByBytes m.signals.keys) entries
  htrace : RootOf sha256 m.trace traceRoot log
  hfits : SuperBlockFits (sha256 (signalsPreimage entries)).val traceRoot m.manifestId
    engine.gitHash
  hroot : m.merkleRoot = (sha256 (superBlockPreimage (sha256 (signalsPreimage entries)).val
    traceRoot m.manifestId engine.gitHash)).val
  hsignalsLog : signalsPreimage entries ∈ log
  hblockLog : superBlockPreimage (sha256 (signalsPreimage entries)).val traceRoot m.manifestId
    engine.gitHash ∈ log

section

variable {sha256 : Bytes → Digest} {log : List Bytes}

theorem RootOf.mono {trace : List ExecutionStep} {out : Bytes} {log' : List Bytes}
    (h : RootOf sha256 trace out log) (hsub : log ⊆ log') : RootOf sha256 trace out log' := by
  cases h with
  | empty htrace hout => exact .empty htrace hout
  | tree cs t hcs hleaves hout hlog => exact .tree cs t hcs hleaves hout (Subset.trans hlog hsub)

/-- **An accepted manifest is sealed.** -/
theorem verifyManifest_ok (h : verifyManifest sha256 dalek m pk = ⟨.ok (), log⟩) :
    Nonempty (SealedBy sha256 m log) := by
  obtain ⟨engine, l₁, l₂, hengine, h, hl₀⟩ := bind_eq_ok.mp h
  obtain ⟨_, l₃, l₄, hproof, h, hl₂⟩ := bind_eq_ok.mp h
  obtain ⟨_, l₅, l₆, hfields, h, hl₄⟩ := bind_eq_ok.mp h
  obtain ⟨vk, l₇, l₈, hvk, h, hl₆⟩ := bind_eq_ok.mp h
  obtain ⟨sd, l₉, l₁₀, hsd, h, hl₈⟩ := bind_eq_ok.mp h
  obtain ⟨td, l₁₁, l₁₂, htd, h, hl₁₀⟩ := bind_eq_ok.mp h
  obtain ⟨_, l₁₃, l₁₄, hlens, h, hl₁₂⟩ := bind_eq_ok.mp h
  obtain ⟨root, l₁₅, l₁₆, hseal, h, hl₁₄⟩ := bind_eq_ok.mp h
  obtain ⟨_, l₁₇, l₁₈, hcmp, _, hl₁₆⟩ := bind_eq_ok.mp h
  obtain ⟨es, hes, hsdEq, hl₉⟩ := hashSignals_ok (mapErr_eq_ok.mp hsd)
  have htrace := tryCalculateTraceRoot_ok (mapErr_eq_ok.mp htd)
  obtain ⟨hfits, hrootEq, hl₁₅⟩ := sealSuperBlockDigest_ok (mapErr_eq_ok.mp hseal)
  have heng := (okOr_eq_ok.mp hengine).1
  have hembedded : root.val = m.merkleRoot := not_not.mp (failIf_eq_ok.mp hcmp).1
  subst hsdEq
  -- the three hashing stages log into disjoint segments of one log
  have hlog : ∀ q, q ∈ l₉ ∨ q ∈ l₁₁ ∨ q ∈ l₁₅ → q ∈ log := by
    intro q hq
    rw [hl₀, hl₂, hl₄, hl₆, hl₈, hl₁₀, hl₁₂, hl₁₄]
    simp only [mem_append]
    tauto
  exact ⟨{
    engine := engine
    entries := es
    traceRoot := td
    hengine := heng
    hentries := hes
    htrace := htrace.mono (fun q hq => hlog q (.inr (.inl hq)))
    hfits := hfits
    hroot := by rw [← hembedded, hrootEq]
    hsignalsLog := hlog _ (.inl (by rw [hl₉]; exact mem_singleton_self _))
    hblockLog := hlog _ (.inr (.inr (by rw [hl₁₅]; exact mem_singleton_self _))) }⟩

/-- **One root seals one body of evidence**, or the two logs exhibit a collision or a preimage
of the zero digest. -/
theorem SealedBy.same_or_collides {m₁ m₂ : EvidenceManifest} {log₁ log₂ : List Bytes}
    (s₁ : SealedBy sha256 m₁ log₁) (s₂ : SealedBy sha256 m₂ log₂)
    (hroot : m₁.merkleRoot = m₂.merkleRoot) :
    m₁.SameEvidence m₂ ∨ Collides sha256 log₁ log₂
      ∨ HitsDigest sha256 zeroDigest log₁ ∨ HitsDigest sha256 zeroDigest log₂ := by
  have hdigest := Subtype.ext (s₁.hroot.symm.trans (hroot.trans s₂.hroot))
  rcases eq_or_collides s₁.hblockLog s₂.hblockLog hdigest with hblock | hc
  · obtain ⟨hsd, htd, hmid, hgh⟩ := superBlockPreimage_inj s₁.hfits s₂.hfits hblock
    rcases eq_or_collides s₁.hsignalsLog s₂.hsignalsLog (Subtype.ext hsd) with hpre | hc
    · rcases s₁.htrace.same_or_collides (htd ▸ s₂.htrace) with htrace | hbad
      · refine .inl ⟨signalsPreimage_inj s₁.hentries s₂.hentries hpre, hmid, ?_, htrace⟩
        rw [s₁.hengine, s₂.hengine, map_some, map_some, hgh]
      · exact .inr hbad
    · exact .inr (.inl hc)
  · exact .inr (.inl hc)

end

/-- **Accepted manifests with one root carry one body of evidence.** -/
theorem accepted_sameEvidence_or_collision (sha256 : Bytes → Digest) (dalek : Dalek)
    (decode : Bytes → Option EvidenceManifest) (bytes₁ bytes₂ : Bytes) (pk₁ pk₂ : PublicKey)
    (m₁ m₂ : EvidenceManifest) (hdec₁ : decode bytes₁ = some m₁) (hdec₂ : decode bytes₂ = some m₂)
    (hacc₁ : (verifyWireManifestIntegrity sha256 dalek decode bytes₁ pk₁).result = .ok ())
    (hacc₂ : (verifyWireManifestIntegrity sha256 dalek decode bytes₂ pk₂).result = .ok ())
    (hroot : m₁.merkleRoot = m₂.merkleRoot) :
    m₁.SameEvidence m₂
      ∨ Collides sha256 (verifyWireManifestIntegrity sha256 dalek decode bytes₁ pk₁).log
          (verifyWireManifestIntegrity sha256 dalek decode bytes₂ pk₂).log
      ∨ HitsDigest sha256 zeroDigest
          (verifyWireManifestIntegrity sha256 dalek decode bytes₁ pk₁).log
      ∨ HitsDigest sha256 zeroDigest
          (verifyWireManifestIntegrity sha256 dalek decode bytes₂ pk₂).log := by
  have sealed : ∀ (bytes : Bytes) (pk : PublicKey) (m : EvidenceManifest), decode bytes = some m →
      (verifyWireManifestIntegrity sha256 dalek decode bytes pk).result = .ok () →
      Nonempty (SealedBy sha256 m
        (verifyWireManifestIntegrity sha256 dalek decode bytes pk).log) := by
    intro bytes pk m hdec hacc
    have hrun : verifyWireManifestIntegrity sha256 dalek decode bytes pk
        = verifyManifest sha256 dalek m pk := by
      simp [verifyWireManifestIntegrity, hdec, HashRun.okOr]
    rw [hrun] at hacc ⊢
    have hok : verifyManifest sha256 dalek m pk
        = ⟨.ok (), (verifyManifest sha256 dalek m pk).log⟩ := by rw [← hacc]
    exact verifyManifest_ok hok
  obtain ⟨s₁⟩ := sealed bytes₁ pk₁ m₁ hdec₁ hacc₁
  obtain ⟨s₂⟩ := sealed bytes₂ pk₂ m₂ hdec₂ hacc₂
  exact s₁.same_or_collides s₂ hroot

/-! ## Sealed manifests -/

/-- **Which sealed manifests are accepted** under the public key of the signer: those that had a
`merkle_proof` before. Sealing sets none, and without one the verifier stops before it looks at the
root. What the signer signs is a signature of 64 bytes that its public key accepts (`hsign`). -/
theorem sealed_verified {sha256 : Bytes → Digest} {dalek : Dalek} {m m' : EvidenceManifest}
    {pk : PublicKey} {vk : dalek.VerifyingKey} {signPrehashed : Bytes → Option Bytes}
    (hvk : dalek.fromBytes pk = some vk)
    (hsign : ∀ root sig, signPrehashed root = some sig →
      sig.length = 64 ∧ signatureAccepted dalek vk root sig = true)
    (hseal : (TarkaEvidence.seal sha256 signPrehashed m).result = .ok m') :
    (verifyManifest sha256 dalek m' pk).result
      = if m.merkleProof.isNone then .error .incompleteProof else .ok () := by
  have hm' := outcome_of_result hseal
  simp only [TarkaEvidence.seal, outcome_bind, outcome_mapErr, outcome_okOr, outcome_pure,
    bind_eq_some_iff, some.injEq] at hm'
  obtain ⟨sd, hsd, td, htd, -, -, engine, hengine, root, hroot, sig, hsig, rfl⟩ := hm'
  obtain ⟨hlength, haccepted⟩ := hsign root.val sig hsig
  -- the root that is recomputed does not depend on the fields that sealing writes
  have hsame : sealedRoot sha256
      { m with engine := some engine, merkleRoot := root.val, signature := sig } engine.gitHash
        = some root := by
    rw [sealedRoot, hsd, bind_some, htd, bind_some, hroot]
  rw [verifyManifest_result sha256 hvk, verdict]
  simp [hengine, root.property, hlength, hsame, haccepted]

/-! ## The golden fixture

`tests/fixtures/golden_sealed_manifest.pb` of the Python package is a sealed manifest with one
signal and an empty trace. -/

namespace Golden

/-- `merkle_root` of the fixture. -/
def root : Digest := ⟨[
    66, 218, 8, 204, 73, 37, 38, 202, 109, 132, 210, 143, 250, 75, 153, 130, 121, 47, 68, 55, 58,
    155, 177, 82, 73, 200, 130, 5, 66, 123, 244, 242], rfl⟩

def signalsDigest : Digest := ⟨[
    143, 181, 185, 59, 223, 66, 163, 222, 148, 203, 76, 151, 205, 87, 237, 118, 231, 232, 45, 73,
    128, 54, 191, 56, 112, 247, 117, 203, 52, 52, 56, 33], rfl⟩

/-- `signature` of the fixture. -/
def signature : Bytes := [
    54, 253, 110, 71, 31, 55, 73, 105, 196, 216, 23, 141, 34, 225, 255, 183, 251, 217, 231, 178,
    71, 149, 69, 51, 44, 186, 59, 137, 250, 245, 59, 67, 189, 41, 133, 107, 225, 46, 111, 102,
    11, 218, 36, 196, 205, 168, 184, 29, 118, 160, 110, 19, 64, 70, 199, 34, 0, 225, 120, 206,
    160, 7, 112, 12]

def publicKey : PublicKey := ⟨[
    129, 70, 100, 15, 2, 73, 58, 244, 251, 197, 79, 227, 51, 136, 231, 93, 194, 201, 55, 174, 11,
    119, 39, 204, 43, 42, 251, 27, 117, 25, 154, 62], rfl⟩

def quarter : F64 := ⟨0x3FD0000000000000⟩

def gitHash : String := "aaaaaaaaaaaaaaaaaaaaaaaaaaaaaaaaaaaaaaaa"

/-- The decoded fixture, with the given `merkle_proof`. -/
def manifest (merkleProof : Option Bytes) : EvidenceManifest where
  manifestId := "018f1234-5678-7abc-8def-123456789abc"
  engine := some ⟨gitHash⟩
  signals := ⟨[("parity_k", ⟨some (.numVal quarter), "golden-src"⟩)], by decide⟩
  trace := []
  merkleRoot := root.val
  signature := signature
  merkleProof := merkleProof

/-- The fixture up to its last field, `merkle_proof`. -/
def wireHead : Bytes := [
    10, 36, 48, 49, 56, 102, 49, 50, 51, 52, 45, 53, 54, 55, 56, 45, 55, 97, 98, 99, 45, 56, 100,
    101, 102, 45, 49, 50, 51, 52, 53, 54, 55, 56, 57, 97, 98, 99, 16, 128, 160, 216, 247, 225,
    238, 3, 26, 50, 10, 6, 103, 111, 108, 100, 101, 110, 18, 40, 97, 97, 97, 97, 97, 97, 97, 97,
    97, 97, 97, 97, 97, 97, 97, 97, 97, 97, 97, 97, 97, 97, 97, 97, 97, 97, 97, 97, 97, 97, 97,
    97, 97, 97, 97, 97, 97, 97, 97, 97, 34, 33, 10, 8, 112, 97, 114, 105, 116, 121, 95, 107, 18,
    21, 17, 0, 0, 0, 0, 0, 0, 208, 63, 42, 10, 103, 111, 108, 100, 101, 110, 45, 115, 114, 99,
    58, 32, 66, 218, 8, 204, 73, 37, 38, 202, 109, 132, 210, 143, 250, 75, 153, 130, 121, 47, 68,
    55, 58, 155, 177, 82, 73, 200, 130, 5, 66, 123, 244, 242, 66, 64, 54, 253, 110, 71, 31, 55,
    73, 105, 196, 216, 23, 141, 34, 225, 255, 183, 251, 217, 231, 178, 71, 149, 69, 51, 44, 186,
    59, 137, 250, 245, 59, 67, 189, 41, 133, 107, 225, 46, 111, 102, 11, 218, 36, 196, 205, 168,
    184, 29, 118, 160, 110, 19, 64, 70, 199, 34, 0, 225, 120, 206, 160, 7, 112, 12]

def wireBytes : Bytes := wireHead ++ [74, 0]

/-- The same manifest with a one-byte `merkle_proof`. -/
def wireBytesWithProof : Bytes := wireHead ++ [74, 1, 7]

def decode (b : Bytes) : Option EvidenceManifest :=
  if b = wireBytes then some (manifest (some []))
  else if b = wireBytesWithProof then some (manifest (some [7]))
  else none

def sha256 (b : Bytes) : Digest :=
  if b = signalsPreimage [("parity_k", "golden-src", .numVal quarter)] then signalsDigest
  else if b = superBlockPreimage signalsDigest.val zeroDigest.val
      "018f1234-5678-7abc-8def-123456789abc" gitHash then root
  else zeroDigest

def dalek : Dalek where
  VerifyingKey := PublicKey
  Signature := Bytes
  fromBytes := some
  fromSlice b := if b.length = 64 then some b else none
  verifyPrehashed vk msg sig := vk = publicKey ∧ msg = root.val ∧ sig = signature

def signPrehashed (msg : Bytes) : Option Bytes := if msg = root.val then some signature else none

end Golden

open Golden

/-- The fixture, and the fixture with another `merkle_proof`: two accepted manifests with one
root. -/
theorem accepted_golden_pair :
    (manifest (some [])).SameEvidence (manifest (some [7]))
      ∨ Collides sha256
          (verifyWireManifestIntegrity sha256 dalek decode wireBytes publicKey).log
          (verifyWireManifestIntegrity sha256 dalek decode wireBytesWithProof publicKey).log
      ∨ HitsDigest sha256 zeroDigest
          (verifyWireManifestIntegrity sha256 dalek decode wireBytes publicKey).log
      ∨ HitsDigest sha256 zeroDigest
          (verifyWireManifestIntegrity sha256 dalek decode wireBytesWithProof publicKey).log :=
  accepted_sameEvidence_or_collision sha256 dalek decode wireBytes
    wireBytesWithProof publicKey publicKey (manifest (some []))
    (manifest (some [7])) (if_pos rfl)
    (by
      have hne : wireBytesWithProof ≠ wireBytes := by decide +kernel
      unfold decode
      rw [if_neg hne, if_pos rfl])
    (by decide +kernel) (by decide +kernel) rfl

/-- The fixture, sealed again without a `merkle_proof`. -/
theorem sealed_golden_refused : ∃ m',
    (TarkaEvidence.seal sha256 signPrehashed (manifest none)).result = .ok m'
      ∧ (verifyManifest sha256 dalek m' publicKey).result = .error .incompleteProof := by
  have hsealed : (TarkaEvidence.seal sha256 signPrehashed (manifest none)).outcome.isSome := by
    decide +kernel
  obtain ⟨m', hm'⟩ := isSome_iff_exists.mp hsealed
  have hresult : (TarkaEvidence.seal sha256 signPrehashed (manifest none)).result = .ok m' := by
    rw [eq_of_outcome hm']
  refine ⟨m', hresult, sealed_verified rfl ?_ hresult⟩
  intro msg sig hsig
  obtain ⟨rfl, hsig⟩ := ite_none_right_eq_some.mp hsig
  cases hsig
  decide +kernel

end Tarka.Evidence
