import Tarka.Engine.Rule

/-! # Evidence manifests of the evaluator

The messages of `tarka.evidence.v1` as the evaluator fills them in, from the recorded steps and
the flattened input. -/

namespace Tarka.Engine

open Tarka.Lib Tarka.Json

/-! ## Messages -/

structure Header where
  manifestId : Bytes
  engineVersion : String
  timestampNs : Nat
  engineFingerprint : String

/-- The `oneof value` of a `SignalValue`, which the evaluator always sets. -/
inductive SignalValue where
  | stringValue (s : String)
  | intValue (i : Int)
  | doubleValue (x : F64)
  | boolValue (b : Bool)
  deriving DecidableEq

structure Step where
  ruleId : String
  logicOperator : String
  operands : List String
  result : Bool
  stateSnapshot : KeyMap String
  otelTraceId : String

structure Metadata where
  finalDecision : Bool
  totalExecutionTimeUs : Nat
  deriving DecidableEq

structure CryptoSignature where
  algorithm : String
  signature : Bytes
  keyId : String

structure EvidenceManifest where
  header : Option Header
  inputMap : Option (KeyMap SignalValue)
  trace : Option (List Step)
  metadata : Option Metadata
  cryptoSignature : Option CryptoSignature

/-- Evidence with the failure that aborted the evaluation. -/
structure PartialManifest where
  evidence : EvidenceManifest
  failureMessage : String
  failingRuleId : Option String

def EvidenceManifest.steps (m : EvidenceManifest) : List Step := m.trace.getD []

def EvidenceManifest.finalDecision (m : EvidenceManifest) : Option Bool :=
  m.metadata.map Metadata.finalDecision

/-! ## The input map -/

/-- `json_to_signal_value`. An integer above the signed range wraps around. -/
def jsonToSignalValue (rt : Runtime) : Value → SignalValue
  | .null => .stringValue ""
  | .bool b => .boolValue b
  | .number n =>
    match n.asI64, n.asU64, n.asF64 with
    | some i, _, _ => .intValue i
    | none, some u, _ => .intValue (Int.bmod u (2 ^ 64))
    | none, none, some x => .doubleValue x
    | none, none, none => .stringValue (rt.displayNumber n)
  | .string s => .stringValue s
  | .array items => .stringValue (rt.display (.array items))
  | .object entries => .stringValue (rt.display (.object entries))

mutual

def flattenJson (rt : Runtime) (path : String) (value : Value) (out : KeyMap SignalValue) :
    KeyMap SignalValue :=
  match value with
  | .object entries =>
    if entries.isEmpty && path.isEmpty then
      out.insert "_empty_object" (jsonToSignalValue rt (.object entries))
    else flattenEntries rt path entries out
  | .array items => flattenItems rt path 0 items out
  | v => out.insert (if path.isEmpty then "_root" else path) (jsonToSignalValue rt v)

def flattenEntries (rt : Runtime) (path : String) (entries : List (String × Value))
    (out : KeyMap SignalValue) : KeyMap SignalValue :=
  match entries with
  | [] => out
  | (key, child) :: entries =>
    let next := if path.isEmpty then key else path ++ "." ++ key
    flattenEntries rt path entries (flattenJson rt next child out)

def flattenItems (rt : Runtime) (path : String) (idx : Nat) (items : List Value)
    (out : KeyMap SignalValue) : KeyMap SignalValue :=
  match items with
  | [] => out
  | child :: items =>
    -- an empty path adds nothing in front of the index
    flattenItems rt path (idx + 1) items
      (flattenJson rt (path ++ "[" ++ toString idx ++ "]") child out)

end

def inputMapFromJson (rt : Runtime) (root : Value) : KeyMap SignalValue :=
  flattenJson rt "" root KeyMap.empty

/-! ## Building a manifest -/

def traceStepToProto (s : LeafRow) (otelTraceId : Option String) : Step where
  ruleId := s.ruleId
  logicOperator := s.operator
  operands := s.operands
  result := s.result
  stateSnapshot := s.scope
  otelTraceId := otelTraceId.getD ""

/-- What a manifest takes from the call: the drawn id, the clock reading for the header and the
elapsed time. -/
structure Stamp where
  manifestId : Bytes
  now : Int
  elapsedUs : Nat

def buildHeader (rt : Runtime) (engineVersion : String) (stamp : Stamp) : Header where
  manifestId := stamp.manifestId
  engineVersion := engineVersion
  timestampNs := unixNanosForClock stamp.now
  engineFingerprint := rt.engineFingerprint

def emptyManifest : EvidenceManifest := ⟨none, none, none, none, none⟩

def buildEvidenceManifest (rt : Runtime) (traceSteps : List TraceStep) (data : Value)
    (engineVersion : String) (decision : Bool) (stamp : Stamp) (otelTraceId : Option String) :
    EvidenceManifest where
  header := some (buildHeader rt engineVersion stamp)
  inputMap := some (inputMapFromJson rt data)
  trace := some (traceSteps.map (fun s => traceStepToProto s.row otelTraceId))
  metadata := some ⟨decision, stamp.elapsedUs⟩
  cryptoSignature := some ⟨"none", [], ""⟩

def failingRuleIdFromFatal (err : EvalFatalError) : Option String := some err.ruleId

/-- `build_partial_manifest`: the evidence is that of a negative decision. -/
def buildPartialManifest (rt : Runtime) (err : EvalFatalError) (traceSteps : List TraceStep)
    (data : Value) (engineVersion : String) (stamp : Stamp) (otelTraceId : Option String) :
    PartialManifest where
  evidence := buildEvidenceManifest rt traceSteps data engineVersion false stamp otelTraceId
  failureMessage := err.message
  failingRuleId :=
    (failingRuleIdFromFatal err).or (traceSteps.getLast?.map (fun s => s.row.ruleId))

theorem steps_buildEvidenceManifest {rt : Runtime} {traceSteps : List TraceStep} {data : Value}
    {engineVersion : String} {decision : Bool} {stamp : Stamp} {otelTraceId : Option String}
    {rows : List LeafRow} (h : traceSteps.map TraceStep.row = rows) :
    (buildEvidenceManifest rt traceSteps data engineVersion decision stamp otelTraceId).steps
      = rows.map (fun r => traceStepToProto r otelTraceId) := by
  subst h
  simp [EvidenceManifest.steps, buildEvidenceManifest]

end Tarka.Engine
