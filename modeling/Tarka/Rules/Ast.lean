import Tarka.Rules.Condition

/-! # Nested rule conditions in two engines

The `when_ast` documents of a rule: the strict parser and the evaluator of the Rust engine
(`pack_json_ast.rs`), and the Pydantic models with their evaluator in Python (`ast_models.py`,
`ast_evaluator.py`).

Both read an object by its keys. A `NodeView` is a document taken apart that far: the entries of
every node, with its children as nodes. -/

namespace Tarka.Rules

open Tarka.Lib Tarka.Json

/-! ## Documents as nodes -/

/-- A node of a document: the entries of an object, whether `children` is an array, and its
items. -/
inductive NodeView where
  | notObject
  | node (entries : List (String × Value)) (hasChildren : Bool) (children : List NodeView)

/-- The array `children` of an object. -/
def childrenArray (entries : List (String × Value)) : Option (List Value) :=
  (entries.lookup "children").bind isArray

mutual

def nodeView : Value → NodeView
  | .object entries => .node entries (childrenArray entries).isSome (childViews entries)
  | _ => .notObject

/-- The items of `children`, if it is an array. -/
def childViews : List (String × Value) → List NodeView
  | [] => []
  | (k, .array items) :: es => if k = "children" then nodeViews items else childViews es
  | (k, _) :: es => if k = "children" then [] else childViews es

def nodeViews : List Value → List NodeView
  | [] => []
  | v :: vs => nodeView v :: nodeViews vs

end

def maxAstDepth : Nat := 24

def maxAstNodes : Nat := 384

def maxAstChildren : Nat := 32

def conditionKeys : List String := ["type", "op", "field", "value"]

def compositeKeys : List String := ["type", "children"]

def customSignalKeys : List String := ["type", "plugin_id", "params", "output_key"]

def extraKey (allowed : List String) (entries : List (String × Value)) : Option String :=
  (entries.map Prod.fst).find? (fun k => !allowed.contains k)

def stringEntry (entries : List (String × Value)) (k : String) : Option String :=
  (entries.lookup k).bind isString

/-! ## Rust -/

namespace Rust

inductive AstNode where
  | condition (c : Condition)
  | customSignal (pluginId outputKey : String)
  | and (children : List AstNode)
  | or (children : List AstNode)

mutual

def astDepth : AstNode → Nat
  | .condition _ => 1
  | .customSignal .. => 1
  | .and children => 1 + astDepths children
  | .or children => 1 + astDepths children

def astDepths : List AstNode → Nat
  | [] => 0
  | n :: ns => max (astDepth n) (astDepths ns)

def astCount : AstNode → Nat
  | .condition _ => 1
  | .customSignal .. => 1
  | .and children => 1 + astCounts children
  | .or children => 1 + astCounts children

def astCounts : List AstNode → Nat
  | [] => 0
  | n :: ns => astCount n + astCounts ns

end

structure AstMalformed where
  code : String
  message : String
  path : String
  ruleId : Option String
  astNodeIndex : Option Nat
  deriving DecidableEq

section

variable (eng : Engines) (ruleId : String)

/-- `AstParseCtx::err`, at a node. -/
def malformed {α : Type} (code message path : String) (index : Nat) : Except AstMalformed α :=
  .error ⟨code, message, path, some ruleId, some index⟩

def enforceLimits (n : AstNode) (path : String) (index : Nat) : Except AstMalformed AstNode :=
  if maxAstDepth < astDepth n then
    malformed ruleId "ast_depth_exceeded"
      ("depth " ++ toString (astDepth n) ++ " exceeds maximum " ++ toString maxAstDepth) path index
  else if maxAstNodes < astCount n then
    malformed ruleId "ast_node_count_exceeded"
      ("node count " ++ toString (astCount n) ++ " exceeds maximum " ++ toString maxAstNodes) path
      index
  else .ok n

/-- Reject the first key that is not allowed. -/
def forbidExtra (allowed : List String) (kind path : String) (index : Nat)
    (entries : List (String × Value)) : Except AstMalformed Unit :=
  match extraKey allowed entries with
  | some k => malformed ruleId "ast_extra_key" ("unexpected key on " ++ kind ++ " node: " ++ k)
      (path ++ "." ++ k) index
  | none => .ok ()

def compileNodeRegex (value : Value) (path : String) (index : Nat) :
    Except AstMalformed (String → Bool) :=
  let pattern := (isString value).getD ""
  if pattern.isEmpty || decide (maxRegexPatternLen < byteLen pattern) then
    malformed ruleId "ast_regex_pattern_invalid" "regex pattern empty or too long"
      (path ++ ".value") index
  else
    match eng.regexNew (buildSafeRegexPattern pattern) with
    | .ok re => .ok re
    | .error message =>
      malformed ruleId "ast_regex_compile_failed" message (path ++ ".value") index

/-- The node of a condition whose entries have passed their checks. -/
def conditionNode (op field : String) (value : Value) (path : String) (index : Nat) :
    Except AstMalformed AstNode :=
  if op = "regex" then
    match compileNodeRegex eng ruleId value path index with
    | .error e => .error e
    | .ok re => enforceLimits ruleId (.condition ⟨op, field, value, some re⟩) path index
  else enforceLimits ruleId (.condition ⟨op, field, value, none⟩) path index

/-- The `condition` branch of `parse_ast_strict_ctx`. -/
def parseConditionNode (entries : List (String × Value)) (path : String) (index : Nat) :
    Except AstMalformed AstNode := do
  forbidExtra ruleId conditionKeys "condition" path index entries
  let op := (stringEntry entries "op").getD "eq"
  let field := (stringEntry entries "field").getD ""
  let value := (entries.lookup "value").getD .null
  if (Op.ofName op).isNone then
    malformed ruleId "ast_unknown_op" ("unknown condition op: " ++ op) (path ++ ".op") index
  else if field.isEmpty then
    malformed ruleId "ast_invalid_field" "condition.field must be non-empty" (path ++ ".field")
      index
  else if maxFieldLen < byteLen field then
    malformed ruleId "ast_field_too_long" "condition.field exceeds maximum length"
      (path ++ ".field") index
  else if !value.isNull && decide (maxValueLen < byteLen (display eng value)) then
    malformed ruleId "ast_value_too_long" "condition.value exceeds maximum serialized length"
      (path ++ ".value") index
  else conditionNode eng ruleId op field value path index

/-- The length check of the two names of a custom signal, in bytes. -/
def badName (s : String) : Bool := s.isEmpty || decide (maxFieldLen < byteLen s)

/-- The `params` that Rust accepts. -/
def objectOrNull : Value → Bool
  | .null => true
  | .object _ => true
  | _ => false

/-- The `custom_signal` branch of `parse_ast_strict_ctx`. -/
def parseCustomSignal (entries : List (String × Value)) (path : String) (index : Nat) :
    Except AstMalformed AstNode := do
  forbidExtra ruleId customSignalKeys "custom_signal" path index entries
  let pluginId := (stringEntry entries "plugin_id").getD ""
  let outputKey := (stringEntry entries "output_key").getD ""
  if badName pluginId then
    malformed ruleId "ast_invalid_plugin_id" "custom_signal.plugin_id must be 1..=128 chars"
      (path ++ ".plugin_id") index
  else if badName outputKey then
    malformed ruleId "ast_invalid_output_key" "custom_signal.output_key must be 1..=128 chars"
      (path ++ ".output_key") index
  else if !objectOrNull ((entries.lookup "params").getD .null) then
    malformed ruleId "ast_invalid_params" "custom_signal.params must be a JSON object when present"
      (path ++ ".params") index
  else enforceLimits ruleId (.customSignal pluginId outputKey) path index

/-- The checks of a composite node before its children are parsed. -/
def checkComposite (typ : String) (entries : List (String × Value)) (hasChildren : Bool)
    (count : Nat) (path : String) (index : Nat) : Except AstMalformed Unit := do
  forbidExtra ruleId compositeKeys typ path index entries
  if !hasChildren then
    malformed ruleId "ast_missing_children" ("'" ++ typ ++ "' node requires array 'children'")
      (path ++ ".children") index
  else if count = 0 then
    malformed ruleId "ast_empty_children" ("'" ++ typ ++ "' node must have at least one child")
      (path ++ ".children") index
  else if maxAstChildren < count then
    malformed ruleId "ast_too_many_children"
      ("more than " ++ toString maxAstChildren ++ " children") (path ++ ".children") index
  else .ok ()

def composite (typ path : String) (index : Nat) (parsed : List AstNode × Nat) :
    Except AstMalformed (AstNode × Nat) :=
  (enforceLimits ruleId (if typ = "and" then .and parsed.1 else .or parsed.1) path index).map
    (fun n => (n, parsed.2))

mutual

/-- `parse_ast_strict_ctx`: the node, and the next index in preorder. -/
def parseAstStrictCtx (view : NodeView) (path : String) (index : Nat) :
    Except AstMalformed (AstNode × Nat) :=
  match view with
  | .notObject => malformed ruleId "ast_not_object" "AST node must be a JSON object" path index
  | .node entries hasChildren children =>
    match stringEntry entries "type" with
    | none => malformed ruleId "ast_missing_type" "missing string field 'type'" path index
    | some typ =>
      if typ = "condition" then
        (parseConditionNode eng ruleId entries path index).map (fun n => (n, index + 1))
      else if typ = "custom_signal" then
        (parseCustomSignal ruleId entries path index).map (fun n => (n, index + 1))
      else if typ = "and" ∨ typ = "or" then
        match checkComposite ruleId typ entries hasChildren children.length path index with
        | .error e => .error e
        | .ok _ =>
          (parseChildren children path 0 (index + 1)).bind (composite ruleId typ path index)
      else malformed ruleId "ast_unknown_node_type" ("unknown node type: " ++ typ)
        (path ++ ".type") index

def parseChildren (views : List NodeView) (path : String) (i index : Nat) :
    Except AstMalformed (List AstNode × Nat) :=
  match views with
  | [] => .ok ([], index)
  | view :: views =>
    match parseAstStrictCtx view (path ++ ".children[" ++ toString i ++ "]") index with
    | .error e => .error e
    | .ok (n, next) =>
      match parseChildren views path (i + 1) next with
      | .error e => .error e
      | .ok (ns, next') => .ok (n :: ns, next')

end

def parseAstStrictInRule (v : Value) (path : String) : Except AstMalformed AstNode :=
  (parseAstStrictCtx eng ruleId (nodeView v) path 0).map Prod.fst

end

mutual

/-- `eval_ast_inner`. A custom signal is resolved before the evaluation and counts as true. -/
def evalAst (eng : Engines) (features : KeyMap Value) : AstNode → Bool
  | .customSignal .. => true
  | .condition c => matchCondition eng features c
  | .and children => evalAll eng features children
  | .or children => evalAny eng features children

def evalAll (eng : Engines) (features : KeyMap Value) : List AstNode → Bool
  | [] => true
  | n :: ns => evalAst eng features n && evalAll eng features ns

def evalAny (eng : Engines) (features : KeyMap Value) : List AstNode → Bool
  | [] => false
  | n :: ns => evalAst eng features n || evalAny eng features ns

end

end Rust

/-! ## Python -/

namespace Py

/-- A validated node. -/
inductive AstNode where
  | condition (op field : String) (value : Value)
  | customSignal (pluginId outputKey : String)
  | graphV1 (atom : String) (etype role : Option String)
  | and (children : List AstNode)
  | or (children : List AstNode)

/-- The Unicode tables of CPython, and the graph atoms. -/
structure Tables where
  upper : String → String
  isAlpha : Char → Bool
  isAlnum : Char → Bool
  /-- `eval_graph_v1_from_features`: atom, edge type and role. -/
  evalGraphV1 : KeyMap Value → String → Option String → Option String → Bool

section

variable (eng : Engines) (tables : Tables)

/-- A string field with `min_length=1` and `max_length`, in characters. -/
def boundedString (entries : List (String × Value)) (k : String) : Option String :=
  (stringEntry entries k).bind (fun s =>
    if s.isEmpty || decide (maxFieldLen < s.length) then none else some s)

/-- `extra="forbid"`. -/
def forbidExtra (allowed : List String) (entries : List (String × Value)) : Option Unit :=
  if (extraKey allowed entries).isSome then none else some ()

/-- The `op` of a condition: one of the names, `eq` by default. -/
def conditionOp (entries : List (String × Value)) : Option String :=
  match entries.lookup "op" with
  | none => some "eq"
  | some (.string s) => if (Op.ofName s).isSome then some s else none
  | some _ => none

/-- `JsonAstCondition`. -/
def validateCondition (entries : List (String × Value)) : Option AstNode := do
  forbidExtra conditionKeys entries
  let op ← conditionOp entries
  let field ← boundedString entries "field"
  let value := (entries.lookup "value").getD .null
  if !value.isNull && decide (maxValueLen < (value.pyStr eng.py).length) then none
  else some (.condition op field value)

def maxCustomSignalParamsJsonBytes : Nat := 8192

/-- The `params` of a custom signal: an object whose text is not too long. Its text is ASCII. -/
def paramsOk (params : Option Value) : Bool :=
  match params with
  | none => true
  | some (.object es) =>
    decide ((pyDumpsSorted eng.py (.object es)).length ≤ maxCustomSignalParamsJsonBytes)
  | some _ => false

/-- `JsonAstCustomSignal`. -/
def validateCustomSignal (entries : List (String × Value)) : Option AstNode := do
  forbidExtra customSignalKeys entries
  let pluginId ← boundedString entries "plugin_id"
  let outputKey ← boundedString entries "output_key"
  if paramsOk eng (entries.lookup "params") then some (.customSignal pluginId outputKey) else none

def normEtype (raw : String) : String :=
  String.ofList ((tables.upper (strip raw)).toList.map (fun c =>
    if c = ' ' ∨ c = '-' then '_' else c))

/-- The expression `_SAFE`. -/
def safeToken (s : String) : Bool :=
  match s.toList with
  | [] => false
  | c :: cs => c.isAlpha && decide (cs.length ≤ 63) && cs.all (fun c => c.isAlphanum || c == '_')

/-- `refuse_pack_etype_token` does not raise. -/
def etypeTokenOk (etype : String) : Bool :=
  let token := normEtype tables etype
  !token.isEmpty && safeToken token && token != "RELATED"

/-- The format of a `role`. -/
def roleOk (role : String) : Bool :=
  match (strip role).toList with
  | [] => false
  | c :: cs => tables.isAlpha c
      && (c :: cs).all (fun ch => tables.isAlnum ch || ch == '_' || ch == '-')

/-- An optional string field: `None` if it is missing or `null`. -/
def optionalString (entries : List (String × Value)) (k : String) : Option (Option String) :=
  match entries.lookup k with
  | none => some none
  | some .null => some none
  | some (.string s) => some (some s)
  | some _ => none

/-- `JsonAstGraphV1`. -/
def validateGraphV1 (entries : List (String × Value)) : Option AstNode := do
  forbidExtra ["type", "atom", "etype", "role"] entries
  let atom ← stringEntry entries "atom"
  let etype ← optionalString entries "etype"
  let role ← optionalString entries "role"
  let etypeOk :=
    if atom = "has_etype" then
      !(strip (etype.getD "")).isEmpty && etypeTokenOk tables (etype.getD "")
    else (etype.getD "").isEmpty
  if ["has_etype", "has_multi_id", "sibling_prior_flag"].contains atom && etypeOk
      && role.elim true (roleOk tables) then some (.graphV1 atom etype role)
  else none

/-- The checks of `JsonAstAnd` and `JsonAstOr` before their children. -/
def compositeOk (entries : List (String × Value)) (hasChildren : Bool) (count : Nat) : Bool :=
  (extraKey compositeKeys entries).isNone && hasChildren && decide (1 ≤ count)
    && decide (count ≤ maxAstChildren)

mutual

/-- `JsonAstNode`, discriminated by `type`: `none` is a validation error. -/
def validate (view : NodeView) : Option AstNode :=
  match view with
  | .notObject => none
  | .node entries hasChildren children =>
    match stringEntry entries "type" with
    | none => none
    | some typ =>
      if typ = "condition" then validateCondition eng entries
      else if typ = "custom_signal" then validateCustomSignal eng entries
      else if typ = "graph_v1" then validateGraphV1 tables entries
      else if typ = "and" ∨ typ = "or" then
        if compositeOk entries hasChildren children.length then
          (validateAll children).map (fun ns => if typ = "and" then .and ns else .or ns)
        else none
      else none

def validateAll (views : List NodeView) : Option (List AstNode) :=
  match views with
  | [] => some []
  | view :: views =>
    match validate view, validateAll views with
    | some n, some ns => some (n :: ns)
    | _, _ => none

end

end

mutual

def astMaxDepth : AstNode → Nat
  | .condition .. => 1
  | .customSignal .. => 1
  | .graphV1 .. => 1
  | .and children => 1 + astMaxDepths children
  | .or children => 1 + astMaxDepths children

def astMaxDepths : List AstNode → Nat
  | [] => 0
  | n :: ns => max (astMaxDepth n) (astMaxDepths ns)

def astNodeCount : AstNode → Nat
  | .condition .. => 1
  | .customSignal .. => 1
  | .graphV1 .. => 1
  | .and children => 1 + astNodeCounts children
  | .or children => 1 + astNodeCounts children

def astNodeCounts : List AstNode → Nat
  | [] => 0
  | n :: ns => astNodeCount n + astNodeCounts ns

end

/-- `enforce_ast_limits` does not raise. -/
def withinLimits (n : AstNode) : Bool :=
  decide (astMaxDepth n ≤ maxAstDepth) && decide (astNodeCount n ≤ maxAstNodes)

/-- A document that the authoring models accept, with the limits on the whole tree. -/
def acceptAst (eng : Engines) (tables : Tables) (v : Value) : Option AstNode :=
  (validate eng tables (nodeView v)).bind (fun n => if withinLimits n then some n else none)

mutual

def evaluateJsonAst (eng : Engines) (tables : Tables) (features : KeyMap Value) : AstNode → Bool
  | .graphV1 atom etype role => tables.evalGraphV1 features atom etype role
  | .customSignal _ outputKey =>
    !(strip outputKey).isEmpty && (features.get? (strip outputKey)).isSome
  | .condition op field value =>
    -- the field is a string, so that the matcher does not raise
    match matchCondition eng features ⟨some (.string op), some (.string field), some value⟩ with
    | .ok b => b
    | .error _ => false
  | .and children => evaluateAll eng tables features children
  | .or children => evaluateAny eng tables features children

def evaluateAll (eng : Engines) (tables : Tables) (features : KeyMap Value) : List AstNode → Bool
  | [] => true
  | n :: ns => evaluateJsonAst eng tables features n && evaluateAll eng tables features ns

def evaluateAny (eng : Engines) (tables : Tables) (features : KeyMap Value) : List AstNode → Bool
  | [] => false
  | n :: ns => evaluateJsonAst eng tables features n || evaluateAny eng tables features ns

end

end Py

end Tarka.Rules
