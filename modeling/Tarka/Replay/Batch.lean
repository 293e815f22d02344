import Tarka.Engine.Evaluator
import Tarka.Lib.Dict
import Tarka.Lib.Hex

/-! # Replay of evidence manifests

The command line tool evaluates a decision again from its manifest alone (`replay.rs`, with
`signals.rs` and `mock_external.rs`): the payload is rebuilt from the flattened input map, whose
strings are decoded to values, and the external source from what the steps have recorded of it. The
decision and the steps of the replay are then compared with those of the manifest.

How the rule of a manifest is found, verified and parsed is a parameter, and so is whether the
modules of the sandbox can be registered; those that are registered are those of the evaluation.
What an outcome carries for the scorecard is left out. -/

namespace Tarka.Replay

open Tarka.Lib Tarka.Json Tarka.Engine

/-! ## The payload -/

/-- `Number::from` of an `i64`. -/
def numberOfI64 : Int → Number
  | .ofNat n => .posInt (UInt64.ofNat n)
  | .negSucc k => .negInt (Fin.ofNat (2 ^ 63) k)

/-- `json!` of an `f64`, and `Number::from_f64` with `Null` for none. -/
def valueOfF64 (x : F64) : Value :=
  if h : x.isFinite = true then .number (.float ⟨x, h⟩) else .null

def digitsValue (ds : List Char) : Option Nat :=
  if ds ≠ [] ∧ ds.all Char.isDigit then
    some (ds.foldl (fun n d => 10 * n + (d.toNat - 48)) 0)
  else none

/-- `str::parse::<i64>`. -/
def parseI64 (s : String) : Option Int :=
  match s.toList with
  | '-' :: ds => ((digitsValue ds).filter (fun n => n ≤ 2 ^ 63)).map (fun n => -(n : Int))
  | '+' :: ds => ((digitsValue ds).filter (fun n => n < 2 ^ 63)).map (fun n => (n : Int))
  | ds => ((digitsValue ds).filter (fun n => n < 2 ^ 63)).map (fun n => (n : Int))

section

variable (rt : Runtime)

def decodeSignalString (s : String) : Value :=
  if s = "true" then .bool true
  else if s = "false" then .bool false
  else
    match rt.fromStr s with
    | some v => v
    | none =>
      match parseI64 s with
      | some i => .number (numberOfI64 i)
      | none =>
        match rt.parseF64 s with
        | some x => valueOfF64 x
        | none => .string s

def normalizeSignalValue : Value → Value
  | .string s => decodeSignalString rt s
  | v => v

def evaluationPayload (signals : List (String × Value)) : Value :=
  .object ((signals.filter (fun e => !"tarka.".toList.isPrefixOf e.1.toList)).map
    (fun e => (e.1, normalizeSignalValue rt e.2)))

end

def signalValueToJson : SignalValue → Value
  | .boolValue b => .bool b
  | .intValue i => .number (numberOfI64 i)
  | .doubleValue x => valueOfF64 x
  | .stringValue s => .string s

/-- `signals_map_from_manifest`, in the order of the keys. -/
def signalsMapFromManifest (m : EvidenceManifest) : List (String × Value) :=
  m.inputMap.elim [] (fun input => input.sortedEntries.map (fun e => (e.1, signalValueToJson e.2)))

/-! ## The external source -/

/-- What a `REDIS` step tells. -/
def redisOf (step : Step) : Option (String × String) :=
  if step.logicOperator = "REDIS" then
    step.operands.head?.bind (fun key =>
      (step.stateSnapshot.get? "redis.value.raw").map (fun raw => (key, raw)))
  else none

/-- What a `LIST` step tells: a list, and an item that it contains. -/
def listOf (step : Step) : Option (String × Option String) :=
  if step.logicOperator = "LIST" then
    let name := ((step.stateSnapshot.get? "list.name").or step.operands.head?).getD ""
    let item := (step.stateSnapshot.get? "list.item.resolved").getD ""
    let contains :=
      ((step.stateSnapshot.get? "list.lookup.contains").map (fun s => s == "true")).getD
      step.result
    if name.isEmpty then none
    else some (name, if contains && !item.isEmpty then some item else none)
  else none

/-- What a `CUSTOM` step tells. -/
def customOf (step : Step) : Option (String × Bool) :=
  if step.logicOperator = "CUSTOM" then
    some ((step.stateSnapshot.get? "custom.name").getD step.ruleId,
      ((step.stateSnapshot.get? "custom.result").map (fun s => s == "true")).getD step.result)
  else none

def addItem (lists : List (String × List String)) (name : String) (item : Option String) :
    List (String × List String) :=
  let bucket := (lists.lookup name).getD []
  Dict.set lists name (item.elim bucket (fun i => if i ∈ bucket then bucket else bucket ++ [i]))

/-- One step of the loop of `mock_external_from_steps`. -/
def mockStep (mock : MockExternal) (step : Step) : MockExternal where
  redis := (redisOf step).elim mock.redis (fun e => Dict.set mock.redis e.1 e.2)
  lists := (listOf step).elim mock.lists (fun e => addItem mock.lists e.1 e.2)
  customs := (customOf step).elim mock.customs (fun e => Dict.set mock.customs e.1 e.2)

def mockExternalFromSteps (steps : List Step) : MockExternal := steps.foldl mockStep ⟨[], [], []⟩

/-! ## Trace ids -/

def isAsciiHexdigit (c : Char) : Bool :=
  c.isDigit || decide ('a' ≤ c ∧ c ≤ 'f') || decide ('A' ≤ c ∧ c ≤ 'F')

/-- `normalize_otel_trace_id` of a text; an invalid one counts as none. -/
def normalizeOtelTraceId (raw : String) : Option String :=
  let t := trim raw
  if t.isEmpty then none
  else if (utf8 t).length ≠ 32 then none
  else if t.toList.all isAsciiHexdigit then some (asciiLower t) else none

def resolveNormalizedOtel (steps : List Step) : Option String :=
  (steps.findSome? (fun s => let t := trim s.otelTraceId; if t.isEmpty then none else some t)).bind
    normalizeOtelTraceId

/-! ## The replay -/

/-- Two steps that `trace_steps_equivalent` does not tell apart. -/
def stepEquivalent (compareOtel : Bool) (left right : Step) : Bool :=
  left.ruleId == right.ruleId && left.logicOperator == right.logicOperator
    && left.result == right.result && left.operands == right.operands
    && left.stateSnapshot.sortedEntries == right.stateSnapshot.sortedEntries
    && (!compareOtel || left.otelTraceId == right.otelTraceId)

def traceStepsEquivalent (original replay : List Step) (compareOtel : Bool) : Bool :=
  original.length == replay.length
    && (original.zip replay).all (fun p => stepEquivalent compareOtel p.1 p.2)

inductive BatchReplayStatus where
  | matched
  | mismatched
  | partialRun
  | error
  deriving DecidableEq

/-- Why a manifest could not be replayed to the end. -/
inductive ReplayError where
  | missingHeader
  | manifestIdLength (length : Nat)
  | rule (message : String)
  | wasmRegistry (message : String)
  | evaluation (failureMessage : String) (failingRuleId : Option String)

structure BatchManifestReplayOutcome where
  manifestId : String
  status : BatchReplayStatus
  originalDecision : Option Bool
  replayDecision : Option Bool
  decisionMatch : Bool
  stepParity : Bool
  error : Option ReplayError

/-- `Uuid::hyphenated` of sixteen bytes. -/
def hyphenated (b : Bytes) : String :=
  "-".intercalate [hexText (b.take 4), hexText ((b.drop 4).take 2), hexText ((b.drop 6).take 2),
    hexText ((b.drop 8).take 2), hexText (b.drop 10)]

def manifestUuidFromHeader (m : EvidenceManifest) : Except ReplayError String :=
  match m.header with
  | none => .error .missingHeader
  | some header =>
    if header.manifestId.length ≠ 16 then .error (.manifestIdLength header.manifestId.length)
    else .ok (hyphenated header.manifestId)

/-- `BatchReplayExecutionContext`: how the rule of a manifest is found, verified and parsed, and
what is compared. -/
structure BatchReplayExecutionContext where
  rule : EvidenceManifest → Except String RuleExpr
  /-- Why `with_wasm_modules` refuses the modules of the directory, if it does. -/
  wasmError : Option String
  strictTiming : Bool
  compareOtel : Bool
  /-- The id that the replay draws for its own manifest. -/
  drawnId : Bytes

def replayEvaluation (rt : Runtime) (drawnId : Bytes) (root : RuleExpr) (m : EvidenceManifest) :
    EvaluateOutcome :=
  let timestampNs : Int := (m.header.elim 0 Header.timestampNs : Nat)
  let call : Call :=
    ⟨fun _ => timestampNs, fun _ => (mockExternalFromSteps m.steps).source, drawnId⟩
  ((Evaluator.fresh root (resolveNormalizedOtel m.steps) (m.header.elim "" Header.engineVersion)
    rt).evaluate call (evaluationPayload rt (signalsMapFromManifest m))).1

def replayLoadedManifest (rt : Runtime) (ctx : BatchReplayExecutionContext) (m : EvidenceManifest) :
    BatchManifestReplayOutcome :=
  let originalDecision := m.finalDecision
  match manifestUuidFromHeader m with
  | .error e => ⟨"unknown", .error, originalDecision, none, false, false, some e⟩
  | .ok manifestId =>
    match ctx.rule m with
    | .error e => ⟨manifestId, .error, originalDecision, none, false, false, some (.rule e)⟩
    | .ok root =>
      match ctx.wasmError with
      | some e =>
        ⟨manifestId, .error, originalDecision, none, false, false, some (.wasmRegistry e)⟩
      | none =>
        let outcome := replayEvaluation rt ctx.drawnId root m
        let decisionMatches := originalDecision == some outcome.1
        match outcome.2 with
        | .error p =>
          ⟨manifestId, .partialRun, originalDecision, some outcome.1, decisionMatches, false,
            some (.evaluation p.failureMessage p.failingRuleId)⟩
        | .ok replay =>
          let execUs (m : EvidenceManifest) := m.metadata.elim 0 Metadata.totalExecutionTimeUs
          let timingMatches := !ctx.strictTiming || execUs m == execUs replay
          let traceMatches := traceStepsEquivalent m.steps replay.steps ctx.compareOtel
          let status :=
            if decisionMatches && timingMatches && traceMatches then .matched else .mismatched
          ⟨manifestId, status, originalDecision, some outcome.1, decisionMatches, traceMatches,
            none⟩

end Tarka.Replay
