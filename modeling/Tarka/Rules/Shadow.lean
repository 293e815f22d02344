import Tarka.Rules.Ast

/-! # Shadow rules of the rule engine

The second rule format of the Rust engine: the nodes of `json_ast.rs`, which has graph atoms and
fewer checks on names than `pack_json_ast.rs`, and the rule sets of `ruleset.rs`, which separate
observed rules from blocking ones. Conditions are matched as in the packs. A rule that does not
parse is left out of its rule set. -/

namespace Tarka.Rules.Shadow

open Tarka.Lib Tarka.Json List
open Tarka.Rules.Rust (AstMalformed malformed forbidExtra compileNodeRegex matchCondition)

/-! ## Nodes -/

inductive AstNode where
  | condition (c : Rust.Condition)
  | customSignal (pluginId outputKey : String)
  | graphV1 (atom : String) (etype role : Option String)
  | and (children : List AstNode)
  | or (children : List AstNode)

mutual

def astDepth : AstNode → Nat
  | .condition _ => 1
  | .customSignal .. => 1
  | .graphV1 .. => 1
  | .and children => 1 + astDepths children
  | .or children => 1 + astDepths children

def astDepths : List AstNode → Nat
  | [] => 0
  | n :: ns => max (astDepth n) (astDepths ns)

def astCount : AstNode → Nat
  | .condition _ => 1
  | .customSignal .. => 1
  | .graphV1 .. => 1
  | .and children => 1 + astCounts children
  | .or children => 1 + astCounts children

def astCounts : List AstNode → Nat
  | [] => 0
  | n :: ns => astCount n + astCounts ns

end

def graphV1Keys : List String := ["type", "atom", "etype", "role"]

def graphV1Atoms : List String := ["has_etype", "has_multi_id", "sibling_prior_flag"]

def normEtype (raw : String) : String :=
  String.ofList (((trim raw).toList.map Char.toUpper).map (fun c =>
    if c = ' ' ∨ c = '-' then '_' else c))

def etypeTokenOk (token : String) : Bool :=
  match token.toList with
  | [] => false
  | c :: cs =>
    c.isAlpha && decide (byteLen token ≤ 64) && cs.all (fun c => c.isAlphanum || c == '_')

/-! ## Parser -/

section

variable (eng : Engines) (ruleId : String)

def enforceLimits (n : AstNode) (path : String) (index : Nat) : Except AstMalformed AstNode :=
  if maxAstDepth < astDepth n then
    malformed ruleId "ast_depth_exceeded" ("depth exceeds maximum " ++ toString maxAstDepth) path
      index
  else if maxAstNodes < astCount n then
    malformed ruleId "ast_node_count_exceeded"
      ("node count exceeds maximum " ++ toString maxAstNodes) path index
  else .ok n

/-- The `condition` branch of `parse_ast_strict_ctx`: any operator is accepted. -/
def parseConditionNode (entries : List (String × Value)) (path : String) (index : Nat) :
    Except AstMalformed AstNode := do
  forbidExtra ruleId conditionKeys "condition" path index entries
  let op := (stringEntry entries "op").getD "eq"
  let field := (stringEntry entries "field").getD ""
  let value := (entries.lookup "value").getD .null
  if field.isEmpty then
    malformed ruleId "ast_invalid_field" "condition.field must be non-empty" (path ++ ".field")
      index
  else if op = "regex" then
    let re ← compileNodeRegex eng ruleId value path index
    enforceLimits ruleId (.condition ⟨op, field, value, some re⟩) path index
  else enforceLimits ruleId (.condition ⟨op, field, value, none⟩) path index

/-- The `graph_v1` branch of `parse_ast_strict_ctx`. -/
def parseGraphV1 (entries : List (String × Value)) (path : String) (index : Nat) :
    Except AstMalformed AstNode := do
  forbidExtra ruleId graphV1Keys "graph_v1" path index entries
  let atom := (stringEntry entries "atom").getD ""
  let etype := stringEntry entries "etype"
  let role := stringEntry entries "role"
  let raw := etype.getD ""
  if atom ∉ graphV1Atoms then
    malformed ruleId "ast_invalid_graph_v1" ("unknown graph_v1 atom: " ++ atom) (path ++ ".atom")
      index
  else if atom = "has_etype"
      ∧ (raw.isEmpty || !etypeTokenOk (normEtype raw) || normEtype raw == "RELATED") then
    malformed ruleId "ast_unsigned_etype" ("unsigned etype: " ++ raw) (path ++ ".etype") index
  else if atom ≠ "has_etype" ∧ !raw.isEmpty then
    malformed ruleId "ast_invalid_graph_v1" "etype is only valid on graph_v1.has_etype"
      (path ++ ".etype") index
  else enforceLimits ruleId (.graphV1 atom etype role) path index

/-- The `custom_signal` branch of `parse_ast_strict_ctx`. -/
def parseCustomSignal (entries : List (String × Value)) (path : String) (index : Nat) :
    Except AstMalformed AstNode := do
  forbidExtra ruleId customSignalKeys "custom_signal" path index entries
  let pluginId := (stringEntry entries "plugin_id").getD ""
  let outputKey := (stringEntry entries "output_key").getD ""
  if pluginId.isEmpty || outputKey.isEmpty then
    malformed ruleId "ast_invalid_custom_signal" "custom_signal requires plugin_id and output_key"
      path index
  else enforceLimits ruleId (.customSignal pluginId outputKey) path index

/-- The checks of a composite node before its children are parsed. -/
def checkComposite (typ : String) (entries : List (String × Value)) (hasChildren : Bool)
    (count : Nat) (path : String) (index : Nat) : Except AstMalformed Unit := do
  forbidExtra ruleId compositeKeys typ path index entries
  if !hasChildren then
    malformed ruleId "ast_missing_children" ("'" ++ typ ++ "' node requires array 'children'")
      (path ++ ".children") index
  else if count = 0 ∨ maxAstChildren < count then
    malformed ruleId "ast_invalid_children" "children must be non-empty and within limit"
      (path ++ ".children") index
  else .ok ()

def composite (typ path : String) (index : Nat) (parsed : List AstNode × Nat) :
    Except AstMalformed (AstNode × Nat) :=
  (enforceLimits ruleId (if typ = "and" then .and parsed.1 else .or parsed.1) path index).map
    (fun n => (n, parsed.2))

mutual

/-- `parse_ast_strict_ctx`: the node, and the next index in preorder. -/
def parseAstStrictCtx (view : NodeView) (path : String) (index : Nat) :
    Except AstMalformed (AstNode × Nat) :=
  match view with
  | .notObject => malformed ruleId "ast_not_object" "AST node must be a JSON object" path index
  | .node entries hasChildren children =>
    match stringEntry entries "type" with
    | none => malformed ruleId "ast_missing_type" "missing string field 'type'" path index
    | some typ =>
      if typ = "condition" then
        (parseConditionNode eng ruleId entries path index).map (fun n => (n, index + 1))
      else if typ = "graph_v1" then
        (parseGraphV1 ruleId entries path index).map (fun n => (n, index + 1))
      else if typ = "custom_signal" then
        (parseCustomSignal ruleId entries path index).map (fun n => (n, index + 1))
      else if typ = "and" ∨ typ = "or" then
        match checkComposite ruleId typ entries hasChildren children.length path index with
        | .error e => .error e
        | .ok _ =>
          (parseChildren children path 0 (index + 1)).bind (composite ruleId typ path index)
      else malformed ruleId "ast_unknown_node_type" ("unknown node type: " ++ typ)
        (path ++ ".type") index

def parseChildren (views : List NodeView) (path : String) (i index : Nat) :
    Except AstMalformed (List AstNode × Nat) :=
  match views with
  | [] => .ok ([], index)
  | view :: views =>
    match parseAstStrictCtx view (path ++ ".children[" ++ toString i ++ "]") index with
    | .error e => .error e
    | .ok (n, next) =>
      match parseChildren views path (i + 1) next with
      | .error e => .error e
      | .ok (ns, next') => .ok (n :: ns, next')

end

def parseAstStrictInRule (v : Value) (path : String) : Except AstMalformed AstNode :=
  (parseAstStrictCtx eng ruleId (nodeView v) path 0).map Prod.fst

end

/-! ## Evaluation -/

def hopStatusMissing (status : String) : Bool :=
  ["graph:missing", "graph:unavailable", "graph:empty", ""].contains status

/-- The words that `positive_flag` takes for a flag. -/
def flagWords : List String := ["1", "true", "flag", "flagged", "fraud", "block", "blocked"]

def positiveFlag : Value → Bool
  | .bool b => b
  | .number n => n.asI64 == some 1 || n.asU64 == some 1
  | .string s => flagWords.contains (asciiLower (trim s))
  | _ => false

/-- A string item of an array entry for which the test holds. -/
def anyString (hop : List (String × Value)) (k : String) (test : String → Bool) : Bool :=
  ((hop.lookup k).bind isArray).elim false (fun items =>
    items.any (fun x => (isString x).elim false test))

/-- `e.get("type").or_else(|| e.get("etype"))`, as a string. -/
def edgeType (e : Value) : Option String := ((e.get? "type").or (e.get? "etype")).bind isString

/-- The role that an atom asks for, if any, is one of the roles of the hop. -/
def roleHolds (hop : List (String × Value)) (role : Option String) : Bool :=
  match role.map trim with
  | none => true
  | some want =>
    want.isEmpty || anyString hop "roles" (fun s => asciiLower (trim s) == asciiLower want)

/-- The branch of `has_etype`. -/
def hasEtype (hop : List (String × Value)) (etype : Option String) : Bool :=
  let want := normEtype (etype.getD "")
  !want.isEmpty && want != "RELATED" && etypeTokenOk want
    && anyString hop "signed_etypes" (fun s => s == want)
    && ((hop.lookup "named_edges").bind isArray).elim false (fun edges =>
      edges.any (fun e => (edgeType e).elim false (fun t => normEtype t == want)))

def evalHop (hop : List (String × Value)) (atom : String) (etype role : Option String) : Bool :=
  if hopStatusMissing (((hop.lookup "status").bind isString).getD "") then false
  else if !roleHolds hop role then false
  else if atom = "has_etype" then hasEtype hop etype
  else if atom = "has_multi_id" then anyString hop "multi_id_user_ids" (fun s => !s.isEmpty)
  else if atom = "sibling_prior_flag" then
    match hop.lookup "sibling_flags" with
    | some (.object flags) => flags.any (fun e => positiveFlag e.2)
    | _ => false
  else false

def evalGraphV1 (features : KeyMap Value) (atom : String) (etype role : Option String) : Bool :=
  match features.get? "_graph_hop_v1" with
  | some (.object hop) => evalHop hop atom etype role
  | _ => false

mutual

def evalAst (eng : Engines) (features : KeyMap Value) : AstNode → Bool
  | .graphV1 atom etype role => evalGraphV1 features atom etype role
  | .customSignal _ outputKey => !outputKey.isEmpty && (features.get? outputKey).isSome
  | .condition c => matchCondition eng features c
  | .and children => evalAll eng features children
  | .or children => evalAny eng features children

def evalAll (eng : Engines) (features : KeyMap Value) : List AstNode → Bool
  | [] => true
  | n :: ns => evalAst eng features n && evalAll eng features ns

def evalAny (eng : Engines) (features : KeyMap Value) : List AstNode → Bool
  | [] => false
  | n :: ns => evalAst eng features n || evalAny eng features ns

end

/-! ## Rule sets -/

def maxConditionsPerRule : Nat := 20

inductive RulePredicate where
  | flat (conds : List Rust.Condition)
  | ast (node : AstNode)

structure ParsedRule where
  id : String
  isShadow : Bool
  predicate : RulePredicate

/-- A versioned rule bundle. -/
structure RuleSet where
  version : UInt64
  rules : List ParsedRule

def RuleSet.empty : RuleSet := ⟨0, []⟩

def ruleIsShadow (rule : Value) : Bool :=
  match (rule.get? "metadata").bind (fun m => m.get? "is_shadow") with
  | some (.bool b) => b
  | _ => false

section

variable (eng : Engines)

/-- One condition of `parse_flat_when`. -/
def parseFlatCondition (c : Value) : Option Rust.Condition :=
  let op := ((c.get? "op").bind isString).getD "eq"
  let field := ((c.get? "field").bind isString).getD ""
  let value := (c.get? "value").getD .null
  if field.isEmpty || decide (maxFieldLen < byteLen field) then none
  else if op = "regex" then
    (isString value).bind (fun pat =>
      if pat.isEmpty || decide (maxRegexPatternLen < byteLen pat) then none
      else (eng.regexNew (Rust.buildSafeRegexPattern pat)).toOption.map
        (fun re => ⟨op, field, value, some re⟩))
  else some ⟨op, field, value, none⟩

def parseFlatWhen (rule : Value) : Option (List Rust.Condition) := do
  let when_ ← (rule.get? "when").bind isArray
  if when_.isEmpty || decide (maxConditionsPerRule < when_.length) then none
  else when_.mapM (parseFlatCondition eng)

def parseRule (rule : Value) : Option ParsedRule :=
  let rid := ((rule.get? "id").bind isString).getD "unknown"
  let hasFlat := ((rule.get? "when").bind isArray).elim false (fun w => !w.isEmpty)
  let isShadow := ruleIsShadow rule
  match (rule.get? "when_ast").filter (fun v => !v.isNull) with
  | some raw =>
    if hasFlat then none
    else (parseAstStrictInRule eng rid raw "when_ast").toOption.map
      (fun ast => ⟨rid, isShadow, .ast ast⟩)
  | none => (parseFlatWhen eng rule).map (fun conds => ⟨rid, isShadow, .flat conds⟩)

def RuleSet.fromRulesJson (rules : List Value) (version : UInt64) : RuleSet :=
  ⟨version, rules.filterMap (parseRule eng)⟩

def ruleMatches (features : KeyMap Value) (rule : ParsedRule) : Bool :=
  match rule.predicate with
  | .ast node => evalAst eng features node
  | .flat conds => !conds.isEmpty && conds.all (matchCondition eng features)

/-- `EvaluationResult`; of two shadow rules with one id the later one is kept. -/
structure EvaluationResult where
  isBlocked : Bool
  shadowResults : KeyMap Bool

/-- One rule of `evaluate_rules`. -/
def evaluateRule (features : KeyMap Value) (acc : EvaluationResult) (rule : ParsedRule) :
    EvaluationResult :=
  let matched := ruleMatches eng features rule
  if rule.isShadow then { acc with shadowResults := acc.shadowResults.insert rule.id matched }
  else { acc with isBlocked := acc.isBlocked || matched }

/-- `evaluate_rules`. -/
def RuleSet.evaluate (rs : RuleSet) (features : KeyMap Value) : EvaluationResult :=
  rs.rules.foldl (evaluateRule eng features) ⟨false, KeyMap.empty⟩

/-! ## Shadow rules do not interfere -/

/-- A rule that blocks what it matches: it parses, and not as a shadow rule. -/
def isActive (rule : Value) : Bool := (parseRule eng rule).any (fun parsed => !parsed.isShadow)

variable {eng}

theorem isBlocked_foldl (features : KeyMap Value) (rules : List ParsedRule)
    (acc : EvaluationResult) :
    (rules.foldl (evaluateRule eng features) acc).isBlocked
      = (acc.isBlocked || rules.any (fun r => !r.isShadow && ruleMatches eng features r)) := by
  induction rules generalizing acc with
  | nil => simp
  | cons rule rules ih =>
    rw [foldl_cons, ih, any_cons]
    cases hshadow : rule.isShadow with
    | false => simp [evaluateRule, hshadow, Bool.or_assoc]
    | true => simp [evaluateRule, hshadow]

/-- **A request is blocked** if an active rule matches it. -/
theorem isBlocked_eq (rules : List Value) (version : UInt64) (features : KeyMap Value) :
    ((RuleSet.fromRulesJson eng rules version).evaluate eng features).isBlocked
      = (rules.filter (isActive eng)).any (fun rule =>
          (parseRule eng rule).any (ruleMatches eng features)) := by
  rw [RuleSet.evaluate, isBlocked_foldl, Bool.false_or, RuleSet.fromRulesJson, any_filter,
    any_filterMap]
  congr 1
  funext rule
  unfold isActive
  cases parseRule eng rule <;> rfl

/-- **Shadow rules and rules that do not parse do not block**: two lists with the same active rules
block the same requests, those that an active rule matches. -/
theorem blocked_iff_active_match (rules rules' : List Value) (version version' : UInt64)
    (features : KeyMap Value) (hsame : rules.filter (isActive eng) = rules'.filter (isActive eng)) :
    ((RuleSet.fromRulesJson eng rules version).evaluate eng features).isBlocked
        = ((RuleSet.fromRulesJson eng rules' version').evaluate eng features).isBlocked
      ∧ (((RuleSet.fromRulesJson eng rules version).evaluate eng features).isBlocked
        ↔ ∃ rule ∈ rules, ∃ parsed, parseRule eng rule = some parsed ∧ parsed.isShadow = false
          ∧ ruleMatches eng features parsed) := by
  refine ⟨by rw [isBlocked_eq, isBlocked_eq, hsame], ?_⟩
  rw [isBlocked_eq, any_filter, any_eq_true]
  refine exists_congr (fun rule => and_congr_right (fun _ => ?_))
  unfold isActive
  cases parseRule eng rule <;> simp

end

namespace Demo

/-- Engines for rules without patterns. -/
def engines : Engines :=
  ⟨fun _ => "", ⟨fun _ => "", id⟩, fun _ => .error "", fun _ _ => false, id⟩

def countryRule (shadow : Bool) : Value :=
  .object [("metadata", .object [("is_shadow", .bool shadow)]),
    ("when", .array [.object [("field", .string "country"), ("value", .string "XX")]])]

def result (rules : List Value) : EvaluationResult :=
  (RuleSet.fromRulesJson engines rules 1).evaluate engines
    (KeyMap.empty.insert "country" (.string "XX"))

end Demo

open Demo

/-- A shadow rule and one that is no object beside a rule that blocks. -/
theorem blocked_beside_shadow_rule :
    (result [countryRule false]).isBlocked
      ∧ (result [countryRule false]).isBlocked
        = (result [countryRule true, .null, countryRule false]).isBlocked :=
  ⟨by decide +kernel, (blocked_iff_active_match [countryRule false]
    [countryRule true, .null, countryRule false] 1 1 _ rfl).1⟩

end Tarka.Rules.Shadow
