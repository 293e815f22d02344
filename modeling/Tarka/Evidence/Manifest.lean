import Tarka.Lib.Float64
import Tarka.Lib.HashRun
import Tarka.Lib.KeyMap

/-! # The wire evidence manifest

The messages of `proto/tarka/evidence/wire/v1/evidence.proto`, as the Rust and the Python
verifier see them after decoding. Only the fields a verifier reads are kept: `occurred_at_unix_ns`,
`verdict` and the build labels of `EngineMetadata` other than `git_hash` take part in no digest.

A `map` field is a `KeyMap`: both decoders keep one value per key and neither depends on the
order of the entries. A `double` is its IEEE 754 bit pattern, since the digests hash exactly
that. -/

namespace Tarka.Evidence

open Tarka.Lib

/-- The `oneof value` of a `SignalValue`. -/
inductive Value where
  | strVal (s : String)
  | numVal (n : F64)
  | boolVal (b : Bool)
  | rawBytes (b : Bytes)
  deriving DecidableEq

/-- A typed signal with its upstream label. The payload may be unset. -/
structure SignalValue where
  value : Option Value
  source : String
  deriving DecidableEq

/-- One recorded evaluation step. -/
structure ExecutionStep where
  sequence : UInt32
  ruleId : String
  operator : String
  operands : List String
  result : Bool
  stateSnapshot : KeyMap String

/-- The provenance of the engine. -/
structure EngineMetadata where
  gitHash : String

/-- The wire `EvidenceManifest`. -/
structure EvidenceManifest where
  manifestId : String
  engine : Option EngineMetadata
  signals : KeyMap SignalValue
  trace : List ExecutionStep
  merkleRoot : Bytes
  signature : Bytes
  merkleProof : Option Bytes

/-- Two steps with the same content, up to the order of the operands. -/
structure ExecutionStep.Same (s t : ExecutionStep) : Prop where
  sequence : s.sequence = t.sequence
  ruleId : s.ruleId = t.ruleId
  operator : s.operator = t.operator
  operands : s.operands.Perm t.operands
  result : s.result = t.result
  stateSnapshot : ∀ k, s.stateSnapshot.get? k = t.stateSnapshot.get? k

/-- Two manifests that carry the same evidence: the same signal map, manifest id and engine
revision, and the same rule trace step by step. -/
structure EvidenceManifest.SameEvidence (m n : EvidenceManifest) : Prop where
  signals : ∀ k, m.signals.get? k = n.signals.get? k
  manifestId : m.manifestId = n.manifestId
  gitHash : m.engine.map EngineMetadata.gitHash = n.engine.map EngineMetadata.gitHash
  trace : List.Forall₂ ExecutionStep.Same m.trace n.trace

end Tarka.Evidence
