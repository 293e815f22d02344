import Tarka.Evidence.Merkle

/-! # The sealed super-block (`evidence/mod.rs`)

The manifest root is the hash of the signal digest, the trace root, the manifest id and the
engine revision behind a schema tag. The two digests have a fixed width and the two strings are
length-prefixed, so that the hashed bytes determine all four (`superBlockPreimage_inj`). -/

namespace Tarka.Evidence

open Tarka.Lib HashRun List

/-! ## The source -/

/-- Hard failures while sealing a wire manifest. -/
inductive EvidenceError where
  | signalHash (e : SignalHashError)
  | traceMerkle (e : TraceMerkleError)
  | missingEngine
  | digestLength
  | tooLarge
  | signature

def sealSuperBlockSchema : Bytes := utf8 "tarka.evidence.wire.v1/TarkaEvidence/seal_super_block\x01"

def writeLenPrefixedSeal : Bytes → Bytes → Except EvidenceError Bytes :=
  writeLenPrefixedWith .tooLarge

def sealSuperBlockDigest (sha256 : Bytes → Digest) (signalsDigest traceDigest : Bytes)
    (manifestId gitHash : String) : HashRun Bytes EvidenceError Digest := do
  HashRun.failIf (signalsDigest.length ≠ 32 ∨ traceDigest.length ≠ 32) .digestLength
  let buf := sealSuperBlockSchema ++ signalsDigest ++ traceDigest
  let buf ← liftM (writeLenPrefixedSeal buf (utf8 manifestId))
  let buf ← liftM (writeLenPrefixedSeal buf (utf8 gitHash))
  HashRun.query sha256 buf

/-- `TarkaEvidence::seal`. `signPrehashed` stands for `sign_prehashed` of the signing key over a
SHA-512 hasher that has absorbed the given message, and for the bytes of its signature. -/
def TarkaEvidence.seal (sha256 : Bytes → Digest) (signPrehashed : Bytes → Option Bytes)
    (manifest : EvidenceManifest) : HashRun Bytes EvidenceError EvidenceManifest := do
  let signalsHash ← (hashSignals sha256 manifest.signals).mapErr .signalHash
  let traceRoot ← (tryCalculateTraceRoot sha256 manifest.trace).mapErr .traceMerkle
  HashRun.failIf (signalsHash.length ≠ 32 ∨ traceRoot.length ≠ 32) .digestLength
  let engine ← HashRun.okOr manifest.engine .missingEngine
  let merkleRoot ←
    sealSuperBlockDigest sha256 signalsHash traceRoot manifest.manifestId engine.gitHash
  let signature ← HashRun.okOr (signPrehashed merkleRoot.val) .signature
  return { manifest with merkleRoot := merkleRoot.val, signature := signature }

/-! ## Specification -/

def superBlockPreimage (signalsDigest traceDigest : Bytes) (manifestId gitHash : String) : Bytes :=
  sealSuperBlockSchema ++ (signalsDigest ++ (traceDigest ++ (encStr manifestId ++ encStr gitHash)))

/-- The parts of a super-block fit their places. -/
structure SuperBlockFits (signalsDigest traceDigest : Bytes) (manifestId gitHash : String) :
    Prop where
  signalsDigest : signalsDigest.length = 32
  traceDigest : traceDigest.length = 32
  manifestId : StrFits manifestId
  gitHash : StrFits gitHash

/-- **Specification of `seal_super_block_digest`.** -/
theorem sealSuperBlockDigest_ok {sha256 : Bytes → Digest} {sd td : Bytes} {mid gh : String}
    {d : Digest} {log : List Bytes} (h : sealSuperBlockDigest sha256 sd td mid gh = ⟨.ok d, log⟩) :
    SuperBlockFits sd td mid gh ∧ d = sha256 (superBlockPreimage sd td mid gh)
      ∧ log = [superBlockPreimage sd td mid gh] := by
  obtain ⟨_, l₁, l₂, hlen, h, hlog⟩ := bind_eq_ok.mp h
  obtain ⟨b₁, l₃, l₄, hmid, h, hl₂⟩ := bind_eq_ok.mp h
  obtain ⟨b₂, l₅, l₆, hgh, hquery, hl₄⟩ := bind_eq_ok.mp h
  obtain ⟨hw₁, hl₃⟩ := lift_eq_ok.mp hmid
  obtain ⟨hw₂, hl₅⟩ := lift_eq_ok.mp hgh
  obtain ⟨hmidFits, hb₁⟩ := writeLenPrefixedWith_eq_ok.mp hw₁
  obtain ⟨hghFits, hb₂⟩ := writeLenPrefixedWith_eq_ok.mp hw₂
  obtain ⟨hd, hl₆⟩ := query_eq_ok.mp hquery
  obtain ⟨hlens, hl₁⟩ := failIf_eq_ok.mp hlen
  have hbuf : b₂ = superBlockPreimage sd td mid gh := by
    rw [hb₂, hb₁]
    simp [superBlockPreimage, encStr]
  refine ⟨⟨by omega, by omega, hmidFits, hghFits⟩, ?_, ?_⟩
  · rw [← hd, hbuf]
  · rw [hlog, hl₁, hl₂, hl₃, hl₄, hl₅, hl₆, hbuf]
    rfl

/-- **The super-block determines its four parts.** -/
theorem superBlockPreimage_inj {sd₁ td₁ sd₂ td₂ : Bytes} {mid₁ gh₁ mid₂ gh₂ : String}
    (h₁ : SuperBlockFits sd₁ td₁ mid₁ gh₁) (h₂ : SuperBlockFits sd₂ td₂ mid₂ gh₂)
    (h : superBlockPreimage sd₁ td₁ mid₁ gh₁ = superBlockPreimage sd₂ td₂ mid₂ gh₂) :
    sd₁ = sd₂ ∧ td₁ = td₂ ∧ mid₁ = mid₂ ∧ gh₁ = gh₂ := by
  have hbody := append_cancel_left h
  have hsdLen : sd₁.length = sd₂.length := by rw [h₁.signalsDigest, h₂.signalsDigest]
  have htdLen : td₁.length = td₂.length := by rw [h₁.traceDigest, h₂.traceDigest]
  obtain ⟨hsd, hbody⟩ := append_inj hbody hsdLen
  obtain ⟨htd, hbody⟩ := append_inj hbody htdLen
  obtain ⟨hmid, hbody⟩ := selfDelimiting_encStr _ _ h₁.manifestId h₂.manifestId _ _ hbody
  have hgh := selfDelimiting_encStr.inj h₁.gitHash h₂.gitHash hbody
  exact ⟨hsd, htd, hmid, hgh⟩

end Tarka.Evidence
