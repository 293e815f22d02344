import Tarka.Json.Value
import Tarka.Lib.ShortCircuit
import Tarka.Engine.Trace

/-! # Rule trees and their leaves (`engine/evaluator.rs`)

A rule tree has leaves below `AND`, `OR` and `NOT`. A leaf either fails, with an error that names
it, or yields the row that it records in the trace; `leafRow` is that computation, for each kind
of leaf as the source does it.

`Runtime` collects what the leaves call outside of the engine: the texts of `serde_json` values
and of doubles, and the WebAssembly sandbox. Nothing is assumed about it. -/

namespace Tarka.Engine

open Tarka.Lib Tarka.Json

/-- Comparison operators for leaf rules. -/
inductive CompareOp where
  | eq
  | ne
  | lt
  | lte
  | gt
  | gte
  | stringContains
  deriving DecidableEq

/-- The `Debug` text of an operator. -/
def CompareOp.debug : CompareOp → String
  | eq => "Eq"
  | ne => "Ne"
  | lt => "Lt"
  | lte => "Lte"
  | gt => "Gt"
  | gte => "Gte"
  | stringContains => "StringContains"

/-- The leaf variants of `RuleExpr`. -/
inductive Leaf where
  | compareLeaf (id path : String) (op : CompareOp) (expected : Value)
  | redisCompareLeaf (id redisKey : String) (op : CompareOp) (expected : Value)
  | listContainsLeaf (id listName itemPath : String)
  | customLeaf (id name : String)
  | wasmCustomLeaf (id wasmContentIdHex : String) (name : Option String) (export_ : String)
  | graphMatch (id : String) (threshold : F64)

def Leaf.id : Leaf → String
  | compareLeaf id .. => id
  | redisCompareLeaf id .. => id
  | listContainsLeaf id .. => id
  | customLeaf id _ => id
  | wasmCustomLeaf id .. => id
  | graphMatch id _ => id

/-- `RuleExpr`: the variants `And`, `Or` and `Not` with their ids, over the leaves. -/
abbrev RuleExpr := ShortCircuit.Tree String Leaf

/-! ## Failures -/

/-- Structured failure of an external data source. -/
inductive ExternalError where
  | redis (key message : String)
  | list (name message : String)
  | custom (name message : String)
  deriving DecidableEq

def ExternalError.message : ExternalError → String
  | redis key message => "redis key `" ++ key ++ "`: " ++ message
  | list name message => "list `" ++ name ++ "`: " ++ message
  | custom name message => "custom `" ++ name ++ "`: " ++ message

/-- Why a leaf aborted the evaluation. A `serde_json` error is its text. -/
inductive RuleFail where
  | external (e : ExternalError)
  | json (message : String)
  | comparison (message : String)
  | wasm (message : String)
  | tracePoisoned
  deriving DecidableEq

def RuleFail.message : RuleFail → String
  | external e => e.message
  | json message => message
  | comparison message => message
  | wasm message => "wasm sandbox: " ++ message
  | tracePoisoned => "trace recorder closed unexpectedly"

/-- `EvalFatalError::Rule`. -/
structure EvalFatalError where
  ruleId : String
  source : RuleFail
  deriving DecidableEq

def EvalFatalError.message (e : EvalFatalError) : String :=
  "rule `" ++ e.ruleId ++ "`: " ++ e.source.message

/-! ## The surroundings of a leaf -/

structure ExternalDataSource where
  redisGet : String → Except ExternalError String
  listContains : String → String → Except ExternalError Bool
  customEval : String → Value → Except ExternalError Bool

/-- Texts of values and doubles, the hash, the identity of the node and the sandbox. -/
structure Runtime where
  sha256 : Bytes → Digest
  engineFingerprint : String
  /-- `serde_json::to_string`. -/
  toJson : Value → Except String String
  fromStr : String → Option Value
  /-- `Display` of a value and of a number. -/
  display : Value → String
  displayNumber : Number → String
  /-- `Display` of a double, and `str::parse` to one. -/
  displayF64 : F64 → String
  parseF64 : String → Option F64
  /-- `RuleContentId::parse_hex` followed by `to_hex`; the error is its text. -/
  contentIdHex : String → Except String String
  /-- The registered modules by content id, if any: `evaluate_json_with_module` of an export. -/
  wasm : Option (String → Option (String → Value → Except String Bool))

section

variable (rt : Runtime) (external : ExternalDataSource)

/-! ## Comparisons -/

def graphScoreFromPayload (data : Value) : Option F64 :=
  match (data.pointer "/context/graph_score").or (data.pointer "/graph_score") with
  | some (.number n) => n.asF64
  | some (.string s) => rt.parseF64 s
  | some (.bool b) => some (if b then F64.ofNat 1 else F64.ofNat 0)
  | _ => none

def normalizeJsonPointer (path : String) : String :=
  match path.toList with
  | [] => path
  | '/' :: _ => path
  | _ => "/" ++ path

def jsonScalarToString : Value → Except RuleFail String
  | .string s => .ok s
  | .null => .ok ""
  | .bool b => .ok (if b then "true" else "false")
  | .number n => .ok (rt.displayNumber n)
  | .array _ => .error (.comparison "list membership expects scalar JSON value")
  | .object _ => .error (.comparison "list membership expects scalar JSON value")

def stringifyForCompare : Value → String
  | .string s => s
  | other => rt.display other

def numberRank : Value → Except String F64
  | .number n =>
    match n.asF64 with
    | some x => .ok x
    | none => .error ("unsupported number " ++ rt.displayNumber n)
  | .string s =>
    match rt.parseF64 s with
    | some x => .ok x
    | none => .error ("cannot parse `" ++ s ++ "` as number")
  | other => .error ("expected numeric operand, got " ++ rt.display other)

def CompareOp.accepts : CompareOp → Ordering → Bool
  | lt, o => o == .lt
  | lte, o => o == .lt || o == .eq
  | gt, o => o == .gt
  | gte, o => o == .gt || o == .eq
  | _, _ => false

def compareOrderedNumbers (actual : Value) (op : CompareOp) (expected : Value) :
    Except String Bool := do
  let av ← numberRank rt actual
  let ev ← numberRank rt expected
  match av.partialCmp ev with
  | none => .error ("non-comparable numeric ordering: " ++ rt.display actual ++ " vs "
      ++ rt.display expected)
  | some cmp => .ok (op.accepts cmp)

def compareJsonValues (actual : Value) (op : CompareOp) (expected : Value) :
    Except String Bool :=
  match op with
  | .eq => .ok (actual.eq expected)
  | .ne => .ok (!actual.eq expected)
  | .stringContains =>
    .ok (strContains (stringifyForCompare rt actual) (stringifyForCompare rt expected))
  | op => compareOrderedNumbers rt actual op expected

/-! ## The rows -/

def boolText (b : Bool) : String := if b then "true" else "false"

def failAt {ε α : Type} (ruleId : String) (f : ε → RuleFail) (x : Except ε α) :
    Except EvalFatalError α :=
  x.mapError (fun e => ⟨ruleId, f e⟩)

def evalGraphMatch (ruleId : String) (threshold : F64) (data : Value) :
    Except EvalFatalError LeafRow :=
  let score := graphScoreFromPayload rt data
  let pass :=
    match score with
    | some s => s.isFinite && (s.partialCmp threshold == some .gt)
    | none => false
  .ok {
    ruleId := ruleId
    operator := "GRAPH_MATCH"
    operands := ["threshold=" ++ rt.displayF64 threshold]
    result := pass
    scope := ((KeyMap.empty.insert
      "context.graph_score" ((score.map rt.displayF64).getD "null")).insert
      "graph_match.threshold" (rt.displayF64 threshold)).insert
      "graph_match.result" (boolText pass) }

def evalCompareLeaf (ruleId path : String) (op : CompareOp) (expected data : Value) :
    Except EvalFatalError LeafRow := do
  let pointer := normalizeJsonPointer path
  let actual := (data.pointer pointer).getD .null
  let inputBefore ← failAt ruleId .json (rt.toJson actual)
  let expectedJson ← failAt ruleId .json (rt.toJson expected)
  let scope := ((KeyMap.empty.insert "input.before" inputBefore).insert
    "expected.json" expectedJson).insert "comparison.op" op.debug
  let pass ← failAt ruleId .comparison (compareJsonValues rt actual op expected)
  let inputAfter ← failAt ruleId .json (rt.toJson actual)
  return {
    ruleId := ruleId
    operator := "COMPARE"
    operands := [pointer, "op=" ++ op.debug]
    result := pass
    scope := (scope.insert "comparison.result" (boolText pass)).insert "input.after" inputAfter }

def evalRedisCompareLeaf (ruleId redisKey : String) (op : CompareOp) (expected : Value) :
    Except EvalFatalError LeafRow := do
  let retrieved ← failAt ruleId .external (external.redisGet redisKey)
  let parsedActual := (rt.fromStr retrieved).getD (.string retrieved)
  let actualJson ← failAt ruleId .json (rt.toJson parsedActual)
  let expectedJson ← failAt ruleId .json (rt.toJson expected)
  let pass ← failAt ruleId .comparison (compareJsonValues rt parsedActual op expected)
  return {
    ruleId := ruleId
    operator := "REDIS"
    operands := [redisKey, "op=" ++ op.debug]
    result := pass
    scope := ((((KeyMap.empty.insert "redis.key" redisKey).insert
      "redis.value.raw" retrieved).insert
      "external.actual.json" actualJson).insert "expected.json" expectedJson).insert
      "comparison.result" (boolText pass) }

def evalListContainsLeaf (ruleId listName itemPath : String) (data : Value) :
    Except EvalFatalError LeafRow := do
  let pointer := normalizeJsonPointer itemPath
  let itemValue := (data.pointer pointer).getD .null
  let itemStr ← failAt ruleId (fun e => e) (jsonScalarToString rt itemValue)
  let contains ← failAt ruleId .external (external.listContains listName itemStr)
  return {
    ruleId := ruleId
    operator := "LIST"
    operands := [listName, pointer]
    result := contains
    scope := (((KeyMap.empty.insert "list.name" listName).insert "list.item.path" pointer).insert
      "list.item.resolved" itemStr).insert "list.lookup.contains" (boolText contains) }

def evalCustomLeaf (ruleId name : String) (data : Value) : Except EvalFatalError LeafRow := do
  let outcome ← failAt ruleId .external (external.customEval name data)
  return {
    ruleId := ruleId
    operator := "CUSTOM"
    operands := [name]
    result := outcome
    scope := (KeyMap.empty.insert "custom.name" name).insert "custom.result" (boolText outcome) }

def evalWasmCustomLeaf (ruleId wasmContentIdHex exportName : String) (labelName : Option String)
    (data : Value) : Except EvalFatalError LeafRow := do
  let hexKey ← failAt ruleId (fun e => .wasm ("invalid wasm content id: " ++ e))
    (rt.contentIdHex wasmContentIdHex)
  let modules ← failAt ruleId .wasm (rt.wasm.elim
    (.error ("no wasm modules registered; call Evaluator::with_wasm_modules before evaluating "
      ++ "wasm_custom_leaf rules")) .ok)
  let run ← failAt ruleId .wasm ((modules hexKey).elim
    (.error ("wasm module `" ++ hexKey ++ "` not loaded in evaluator registry")) .ok)
  let pass ← failAt ruleId .wasm (run exportName data)
  let scope := (KeyMap.empty.insert "wasm.content_id_hex" hexKey).insert "wasm.export" exportName
  let scope := labelName.elim scope (scope.insert "wasm.label")
  return {
    ruleId := ruleId
    operator := "WASM"
    operands := [hexKey, exportName]
    result := pass
    scope := scope.insert "wasm.result" (boolText pass) }

def leafRow (data : Value) : Leaf → Except EvalFatalError LeafRow
  | .compareLeaf id path op expected => evalCompareLeaf rt id path op expected data
  | .redisCompareLeaf id redisKey op expected =>
    evalRedisCompareLeaf rt external id redisKey op expected
  | .listContainsLeaf id listName itemPath =>
    evalListContainsLeaf rt external id listName itemPath data
  | .customLeaf id name => evalCustomLeaf external id name data
  | .wasmCustomLeaf id wasmContentIdHex name export_ =>
    evalWasmCustomLeaf rt id wasmContentIdHex export_ name data
  | .graphMatch id threshold => evalGraphMatch rt id threshold data

/-! ## Rows and errors name their leaf -/

def ErrorsAt {α : Type} (ruleId : String) (x : Except EvalFatalError α) : Prop :=
  ∀ e, x = .error e → e.ruleId = ruleId

/-- A computation of a row that names the given rule, as its errors do. -/
structure RowAt (ruleId : String) (x : Except EvalFatalError LeafRow) : Prop where
  errorsAt : ErrorsAt ruleId x
  row : ∀ r, x = .ok r → r.ruleId = ruleId

variable {ruleId : String}

theorem errorsAt_failAt {α ε : Type} {f : ε → RuleFail} {x : Except ε α} :
    ErrorsAt ruleId (failAt ruleId f x) := by
  intro e h
  cases x with
  | ok a => cases h
  | error e' =>
    cases h
    rfl

theorem rowAt_ok {r : LeafRow} (h : r.ruleId = ruleId) : RowAt ruleId (.ok r) := by
  constructor
  · intro e he
    cases he
  · intro r' hr
    cases hr
    exact h

theorem rowAt_bind {α : Type} {x : Except EvalFatalError α} {f : α → Except EvalFatalError LeafRow}
    (hx : ErrorsAt ruleId x) (hf : ∀ a, RowAt ruleId (f a)) : RowAt ruleId (x >>= f) := by
  cases x with
  | ok a => exact hf a
  | error e =>
    have he : e.ruleId = ruleId := hx e rfl
    constructor
    · intro e' h
      cases h
      exact he
    · intro r h
      cases h

/-- **Every leaf records, and fails, under its own id.** -/
theorem rowAt_leafRow (data : Value) (l : Leaf) : RowAt l.id (leafRow rt external data l) := by
  cases l with
  | compareLeaf id path op expected =>
    iterate 4 refine rowAt_bind errorsAt_failAt (fun _ => ?_)
    exact rowAt_ok rfl
  | redisCompareLeaf id redisKey op expected =>
    iterate 4 refine rowAt_bind errorsAt_failAt (fun _ => ?_)
    exact rowAt_ok rfl
  | listContainsLeaf id listName itemPath =>
    refine rowAt_bind errorsAt_failAt (fun _ => ?_)
    exact rowAt_bind errorsAt_failAt (fun _ => rowAt_ok rfl)
  | customLeaf id name =>
    exact rowAt_bind errorsAt_failAt (fun _ => rowAt_ok rfl)
  | wasmCustomLeaf id wasmContentIdHex name export_ =>
    iterate 4 refine rowAt_bind errorsAt_failAt (fun _ => ?_)
    exact rowAt_ok rfl
  | graphMatch id threshold => exact rowAt_ok rfl

end

end Tarka.Engine
