import Tarka.Compiler.RuleSet
import Tarka.Json.Reader
import Tarka.Lib.FloatValue

/-! # The YAML rule compiler (`compiler/yaml.rs`)

`compile_yaml_rule_set` with its passes in the order of the source: rule ids, limits on the trees,
undefined signals, the type check of every leaf and the generation of the messages. The YAML parser
is a parameter, as is the conversion of a YAML value into a JSON value; the texts of `serde_json`
are those of its reader and printer. -/

namespace Tarka.Compiler

open Tarka.Lib

/-! ## Errors and the signal registry -/

structure CompileError where
  message : String
  /-- The line in the source, counted from one. -/
  line : Option Nat
  suggestion : Option String
  deriving DecidableEq

namespace CompileError

def yamlParse (message : String) (line : Option Nat) : CompileError := ⟨message, line, none⟩

def undefinedSignal (signal : String) (line : Option Nat) (suggestion : Option String) :
    CompileError :=
  ⟨"undefined signal `" ++ signal ++ "` (not present in SignalRegistry)", line, suggestion⟩

def validation (message : String) (line : Option Nat) : CompileError := ⟨message, line, none⟩

end CompileError

inductive SignalType where
  | integer
  | float
  | boolean
  | string
  | list
  deriving DecidableEq

def SignalType.label : SignalType → String
  | integer => "Integer"
  | float => "Float"
  | boolean => "Boolean"
  | string => "String"
  | list => "List"

structure SignalMeta where
  signalType : SignalType
  deriving DecidableEq

structure SignalRegistry where
  signals : KeyMap SignalMeta

namespace SignalRegistry

variable (r : SignalRegistry)

def contains (name : String) : Bool := (r.signals.get? name).isSome

def signalType (name : String) : Option SignalType :=
  (r.signals.get? name).map SignalMeta.signalType

def names : List String := sortByBytes r.signals.keys

end SignalRegistry

/-! ## YAML values -/

namespace Yaml

inductive Number where
  | posInt (n : UInt64)
  /-- The negative integer `-(k + 1)`. -/
  | negInt (k : Fin (2 ^ 63))
  | float (x : F64)
  deriving DecidableEq

namespace Number

def asI64 : Number → Option Int
  | posInt n => if n.toNat < 2 ^ 63 then some n.toNat else none
  | negInt k => some (Int.negSucc k.val)
  | float _ => none

def asU64 : Number → Option Nat
  | posInt n => some n.toNat
  | negInt _ => none
  | float _ => none

def asF64 : Number → Option F64
  | posInt n => some (F64.ofNat n.toNat)
  | negInt k => some (F64.ofInt (Int.negSucc k.val))
  | float x => some x

end Number

inductive Value where
  | null
  | bool (b : Bool)
  | number (n : Number)
  | string (s : String)
  | sequence (items : List Value)
  | mapping (entries : List (Value × Value))
  | tagged (tag : String) (value : Value)

structure Error where
  text : String
  line : Option Nat

end Yaml

inductive YamlExpr where
  | and (children : List YamlExpr)
  | or (children : List YamlExpr)
  | not (child : YamlExpr)
  | compareSignal (signalName : String) (op : String) (expected : Yaml.Value)

structure YamlRuleInput where
  id : String
  expression : YamlExpr

structure YamlRuleSetInput where
  version : UInt32
  rules : List YamlRuleInput

/-- The libraries the compiler calls. -/
structure Host where
  fromStr : String → Except Yaml.Error YamlRuleSetInput
  serde : Json.Serde
  /-- `serde_json::to_value` of a YAML value. -/
  toValue : Yaml.Value → Except String Json.Value

/-! ## Locating a signal in the source -/

/-- A scalar without its quotes, or up to the punctuation that ends it. -/
def parseYamlScalarToken (s : List Char) : List Char :=
  let s := (trim (String.ofList s)).toList
  let quotedBy := fun q => s.head? = some q ∧ s.getLast? = some q
  if quotedBy Json.quote ∨ quotedBy (Char.ofNat 39) then (s.drop 1).dropLast
  else
    (trim (String.ofList (s.takeWhile (fun c =>
      !(c == ':' || c == Char.ofNat 123 || c == Char.ofNat 125 || c == '[' || c == ']'
        || c == ','))))).toList

def assignsSignal (needle : List Char) (rawLine : List Char) : Bool :=
  let code := rawLine.dropWhile isWhiteSpace
  if code.head? = some '#' then false
  else
    let code := ((code.takeWhile (· != '#')).rdropWhile isWhiteSpace).dropWhile isWhiteSpace
    let code := (expect "- ".toList code).getD code
    match expect "signal_name:".toList code with
    | none => false
    | some rest => parseYamlScalarToken rest == needle

/-- The first line that assigns the signal, as a `u32`. -/
def lineForSignalAssignment (source : String) (needle : String) : Option Nat :=
  ((lines source.toList).findIdx? (assignsSignal (trim needle).toList)).map
    (fun idx => (idx + 1) % 2 ^ 32)

/-! ## Suggestions -/

/-- One row of the distance table, from the entry to the left on. -/
def levenshteinRow (c : Char) : Nat → List Char → List Nat → List Nat
  | left, b :: bs, diag :: up :: prev =>
    let entry := min (min (left + 1) (up + 1)) (diag + if c = b then 0 else 1)
    entry :: levenshteinRow c entry bs (up :: prev)
  | _, _, _ => []

def levenshtein (a b : String) : Nat :=
  let a := a.toList
  let b := b.toList
  if a.length = 0 then b.length
  else if b.length = 0 then a.length
  else
    let table := a.zipIdx.foldl (fun prev p =>
      (p.2 + 1) :: levenshteinRow p.1 (p.2 + 1) b prev) (List.range (b.length + 1))
    (table[b.length]?).getD 0

def closestRegistryMatch (unknown : String) (registry : SignalRegistry) : Option String :=
  let threshold := max 2 (min 12 ((utf8 unknown).length / 3))
  let best := registry.names.foldl (fun (best : Option (Nat × String)) name =>
    let d := levenshtein unknown name
    match best with
    | none => some (d, name)
    | some b => if d < b.1 then some (d, name) else some b) none
  best.bind (fun b => if b.1 ≤ threshold then some b.2 else none)

/-! ## Limits -/

/-- Nesting of `and`, `or` and `not`. -/
def maxRuleTreeDepth : Nat := 96

def maxRuleTreeNodes : Nat := 4096

mutual

def exprDepth : YamlExpr → Nat
  | .and children => 1 + maxDepth children
  | .or children => 1 + maxDepth children
  | .not child => 1 + exprDepth child
  | .compareSignal _ _ _ => 1

def maxDepth : List YamlExpr → Nat
  | [] => 0
  | e :: es => max (exprDepth e) (maxDepth es)

end

mutual

def countNodes : YamlExpr → Nat
  | .and children => 1 + sumNodes children
  | .or children => 1 + sumNodes children
  | .not child => 1 + countNodes child
  | .compareSignal _ _ _ => 1

def sumNodes : List YamlExpr → Nat
  | [] => 0
  | e :: es => countNodes e + sumNodes es

end

mutual

def collectSignalNamesInOrder : YamlExpr → List String
  | .and children => collectAll children
  | .or children => collectAll children
  | .not child => collectSignalNamesInOrder child
  | .compareSignal signalName _ _ => [trim signalName]

def collectAll : List YamlExpr → List String
  | [] => []
  | e :: es => collectSignalNamesInOrder e ++ collectAll es

end

/-- One rule of the first pass, for the ids seen before it. -/
def checkRuleId (seen : List String) (r : YamlRuleInput) : Except CompileError (List String) :=
  let canon := trim r.id
  if canon.isEmpty then .error (.validation "every rule must have a non-empty `id`" none)
  else if canon ∈ seen then .error (.validation ("duplicate rule id `" ++ canon ++ "`") none)
  else .ok (canon :: seen)

/-- The first pass: ids are not empty and not repeated, once they are trimmed. -/
def validateRuleIds (rules : List YamlRuleInput) : Except CompileError Unit := do
  let _ ← rules.foldlM checkRuleId []

def saturatingAdd (a b : Nat) : Nat := min (a + b) (2 ^ 64 - 1)

/-- One rule of the second pass, for the nodes of the rules before it. -/
def checkRuleLimits (totalNodes : Nat) (r : YamlRuleInput) : Except CompileError Nat :=
  if maxRuleTreeDepth < exprDepth r.expression then
    .error (.validation ("rule `" ++ r.id ++ "` exceeds maximum expression depth (96)") none)
  else if maxRuleTreeNodes < saturatingAdd totalNodes (countNodes r.expression) then
    .error (.validation "rule set exceeds maximum expression node budget (4096)" none)
  else .ok (saturatingAdd totalNodes (countNodes r.expression))

/-- The second pass: the depth of each tree and the nodes of all of them. -/
def checkLimits (rules : List YamlRuleInput) : Except CompileError Unit := do
  let _ ← rules.foldlM checkRuleLimits 0

def checkSignals (yamlSource : String) (registry : SignalRegistry) (rule : YamlRuleInput) :
    Except CompileError Unit :=
  (collectSignalNamesInOrder rule.expression).forM (fun name =>
    if registry.contains name then .ok ()
    else .error (CompileError.undefinedSignal name (lineForSignalAssignment yamlSource name)
      (closestRegistryMatch name registry)))

/-! ## The type check (`compiler/type_check.rs`) -/

def opsAllowedForType : SignalType → List String
  | .boolean => ["eq", "ne"]
  | .integer => ["eq", "ne", "lt", "lte", "gt", "gte"]
  | .float => ["eq", "ne", "lt", "lte", "gt", "gte"]
  | .string => ["eq", "ne", "lt", "lte", "gt", "gte", "string_contains"]
  | .list => ["eq", "ne"]

def opsListForType : SignalType → String
  | .boolean => "eq, ne"
  | .integer => "eq, ne, lt, lte, gt, gte"
  | .float => "eq, ne, lt, lte, gt, gte"
  | .string => "eq, ne, lt, lte, gt, gte, string_contains"
  | .list => "eq, ne"

/-- `f64::EPSILON`, in the unit of doubles. -/
def epsilon : Nat := 2 ^ 1022

/-- An integer, or a double that is one up to `f64::EPSILON`. -/
def yamlNumberIsIntegral (n : Yaml.Number) : Bool :=
  n.asI64.isSome || n.asU64.isSome ||
    match n.asF64 with
    | some f => f.isFinite && decide (f.fract.natAbs ≤ epsilon)
        && decide (f.scaled.natAbs ≤ 2 ^ 63 * F64.unit)
    | none => false

def isArray : Json.Value → Bool
  | .array _ => true
  | _ => false

def checkExpectedShape (h : Host) (sty : SignalType) (expected : Yaml.Value) (signalName : String)
    (op : String) (line : Option Nat) : Except CompileError Unit :=
  match sty with
  | .boolean =>
    match expected with
    | .bool _ => .ok ()
    | _ => .error (CompileError.validation ("signal `" ++ signalName
        ++ "` is Boolean: `expected` must be a YAML boolean (true/false)") line)
  | .integer =>
    match expected with
    | .number n =>
      if yamlNumberIsIntegral n then .ok ()
      else .error (CompileError.validation ("signal `" ++ signalName
        ++ "` is Integer: `expected` must be an integral number") line)
    | _ => .error (CompileError.validation ("signal `" ++ signalName
        ++ "` is Integer: `expected` must be a YAML integer number") line)
  | .float =>
    match expected with
    | .number _ => .ok ()
    | _ => .error (CompileError.validation ("signal `" ++ signalName
        ++ "` is Float: `expected` must be a YAML number") line)
  | .string =>
    match expected with
    | .string _ => .ok ()
    | _ =>
      if op = "string_contains" then
        .error (CompileError.validation ("signal `" ++ signalName
          ++ "`: `string_contains` requires a string `expected` value") line)
      else .error (CompileError.validation ("signal `" ++ signalName
        ++ "` is String: `expected` must be a YAML string for operator `" ++ op ++ "`") line)
  | .list =>
    match expected with
    | .sequence _ => .ok ()
    | .string s =>
      match h.serde.fromStr (trim s) with
      | .error e => .error (CompileError.validation ("signal `" ++ signalName
          ++ "` is List: string `expected` must be valid JSON (array): " ++ e) line)
      | .ok jv =>
        if isArray jv then .ok ()
        else .error (CompileError.validation ("signal `" ++ signalName
          ++ "` is List: string `expected` must be a JSON array") line)
    | _ => .error (CompileError.validation ("signal `" ++ signalName
        ++ "` is List: `expected` must be a YAML sequence or JSON-array string") line)

def typeCheckCompareLeaf (h : Host) (signalName : String) (op : String) (expected : Yaml.Value)
    (registry : SignalRegistry) (yamlSource : String) : Except CompileError Unit :=
  let name := trim signalName
  let opNorm := asciiLower (trim op)
  let line := lineForSignalAssignment yamlSource name
  match registry.signalType name with
  | none => .error (CompileError.validation
      ("internal: missing registry type for signal `" ++ name ++ "`") line)
  | some sty =>
    if opNorm ∈ opsAllowedForType sty then checkExpectedShape h sty expected name opNorm line
    else .error (CompileError.validation ("operator `" ++ opNorm ++ "` is not valid for signal `"
      ++ name ++ "` (type " ++ sty.label ++ "); allowed: " ++ opsListForType sty) line)

section

variable (h : Host) (registry : SignalRegistry) (yamlSource : String)

mutual

def typeCheckExpr : YamlExpr → Except CompileError Unit
  | .and children => typeCheckAll children
  | .or children => typeCheckAll children
  | .not child => typeCheckExpr child
  | .compareSignal signalName op expected =>
    typeCheckCompareLeaf h signalName op expected registry yamlSource

def typeCheckAll : List YamlExpr → Except CompileError Unit
  | [] => .ok ()
  | e :: es => do
    typeCheckExpr e
    typeCheckAll es

end

end

/-! ## Code generation -/

def allowedOps : List String := ["eq", "ne", "lt", "lte", "gt", "gte", "string_contains"]

def integerScalar (n : Yaml.Number) : Except CompileError ScalarArm :=
  match n.asI64 with
  | some i => .ok (.intValue i)
  | none =>
    match n.asU64.filter (fun u => decide (u < 2 ^ 63)) with
    | some u => .ok (.intValue u)
    | none =>
      if yamlNumberIsIntegral n then .ok (.intValue (n.asF64.getD ⟨0⟩).toI64)
      else .error (CompileError.validation
        "Integer signal: `expected` must be an integral YAML number" none)

def listScalar (h : Host) : Yaml.Value → Except CompileError ScalarArm
  | .sequence items =>
    match h.toValue (.sequence items) with
    | .error e => .error (CompileError.validation
        ("list `expected` JSON encode failed: " ++ e) none)
    | .ok json => .ok (.stringValue (h.serde.text json))
  | .string s =>
    match h.serde.fromStr (trim s) with
    | .error e => .error (CompileError.validation
        ("List signal: string `expected` must be valid JSON: " ++ e) none)
    | .ok jv =>
      if isArray jv then .ok (.stringValue (h.serde.text jv))
      else .error (CompileError.validation
        "List signal: string `expected` must be a JSON array" none)
  | _ => .error (CompileError.validation
      "List signal: `expected` must be a YAML sequence or JSON-array string" none)

def yamlExpectedToScalarForSignal (h : Host) (v : Yaml.Value) (sty : SignalType) :
    Except CompileError ScalarArm :=
  match sty with
  | .boolean =>
    match v with
    | .bool b => .ok (.boolValue b)
    | _ => .error (CompileError.validation
        "Boolean signal: `expected` must be a YAML boolean" none)
  | .integer =>
    match v with
    | .number n => integerScalar n
    | _ => .error (CompileError.validation
        "Integer signal: `expected` must be a YAML number" none)
  | .float =>
    match v with
    | .number n =>
      match n.asF64 with
      | some f => .ok (.doubleValue f)
      | none => .error (CompileError.validation "Float signal: invalid YAML number" none)
    | _ => .error (CompileError.validation "Float signal: `expected` must be a YAML number" none)
  | .string =>
    match v with
    | .string s => .ok (.stringValue s)
    | _ => .error (CompileError.validation
        "String signal: `expected` must be a YAML string" none)
  | .list => listScalar h v

def compareLeafToProto (h : Host) (registry : SignalRegistry) (signalName : String) (op : String)
    (expected : Yaml.Value) : Except CompileError RuleExpression :=
  let opNorm := trim op
  let sn := trim signalName
  if opNorm ∉ allowedOps then
    .error (CompileError.validation ("unsupported comparison op `" ++ opNorm ++ "` (allowed: "
      ++ String.intercalate ", " allowedOps ++ ")") none)
  else if sn.isEmpty then
    .error (CompileError.validation "`signal_name` must be non-empty for compare_signal" none)
  else
    match registry.signalType sn with
    | none => .error (CompileError.validation ("unknown signal `" ++ sn ++ "`") none)
    | some sty => do
      let scalar ← yamlExpectedToScalarForSignal h expected sty
      .ok (.compareSignal ⟨sn, opNorm, some ⟨some scalar⟩⟩)

section

variable (h : Host) (registry : SignalRegistry)

mutual

def yamlExprToProto : YamlExpr → Except CompileError RuleExpression
  | .and children =>
    if children.isEmpty then
      .error (CompileError.validation "`kind: and` requires a non-empty `children` list" none)
    else do
      let ch ← yamlExprsToProto children
      .ok (.and ch)
  | .or children =>
    if children.isEmpty then
      .error (CompileError.validation "`kind: or` requires a non-empty `children` list" none)
    else do
      let ch ← yamlExprsToProto children
      .ok (.or ch)
  | .not child => do
    let c ← yamlExprToProto child
    .ok (.not (some c))
  | .compareSignal signalName op expected =>
    compareLeafToProto h registry signalName op expected

def yamlExprsToProto : List YamlExpr → Except CompileError (List RuleExpression)
  | [] => .ok []
  | e :: es => do
    let c ← yamlExprToProto e
    let cs ← yamlExprsToProto es
    .ok (c :: cs)

end

def compileRule (rule : YamlRuleInput) : Except CompileError CompiledRule := do
  let expr ← yamlExprToProto h registry rule.expression
  .ok ⟨trim rule.id, some expr⟩

end

def yamlParseErr (e : Yaml.Error) : CompileError :=
  CompileError.yamlParse ("YAML parse error: " ++ e.text) e.line

def compileYamlRuleSet (h : Host) (yamlSource : String) (registry : SignalRegistry) :
    Except CompileError RuleSet := do
  let parsed ← (h.fromStr yamlSource).mapError yamlParseErr
  validateRuleIds parsed.rules
  checkLimits parsed.rules
  parsed.rules.forM (checkSignals yamlSource registry)
  parsed.rules.forM (fun rule => typeCheckExpr h registry yamlSource rule.expression)
  let rulesOut ← parsed.rules.mapM (compileRule h registry)
  .ok ⟨parsed.version, rulesOut⟩

end Tarka.Compiler
