import Tarka.Rules.PackRust

/-! # Rule packs in Python

The fallback evaluator (`pack_evaluator.py`, with `evaluate_rule_when` of `json_rules.py`) and the
resolution of custom signals before it (`engine_adapter.py`). -/

namespace Tarka.Rules.Py

open Tarka.Lib Tarka.Json

/-- What the evaluator reads besides its arguments, as in `Rust.Host`. A handler of a plugin takes
the parameters, the features, the tenant and the entity; `none` is a timeout or an error. -/
structure Host where
  eng : Engines
  tables : Tables
  dates : Dates
  /-- `float` of a string; `none` is a `ValueError`. -/
  parseFloat : String → Option F64
  sha256 : List UInt8 → List UInt8
  now : Int
  add : F64 → F64 → F64
  clock : Nat → RuleKind → Nat → Bool
  handlers : String → Option (Value → KeyMap Value → String → String → Option Value)

/-- The exceptions that leave an evaluation. -/
inductive PyError where
  | typeError
  | attributeError
  | budgetExceeded (ruleId : String) (phase : RuleKind)
  deriving DecidableEq

/-! ## Custom signals -/

/-- A task of the resolver. -/
structure Spec where
  pluginId : String
  params : Value
  outputKey : String

section

variable (t : PyText)

/-- The parameters that are passed on: a text that is too long is dropped. -/
def safeParams (params : Option Value) : Value :=
  match params with
  | some (.object ps) =>
    if maxCustomSignalParamsJsonBytes < (pyDumpsSorted t (.object ps)).length then .object []
    else .object ps
  | _ => .object []

def nodeSpec (es : List (String × Value)) : List Spec :=
  match stringEntry es "type", stringEntry es "plugin_id", stringEntry es "output_key" with
  | some "custom_signal", some pid, some out =>
    if (strip pid).isEmpty || (strip out).isEmpty then []
    else [⟨strip pid, safeParams t (es.lookup "params"), strip out⟩]
  | _, _, _ => []

mutual

def iterCustomSignalSpecs : NodeView → List Spec
  | .notObject => []
  | .node es _ children => nodeSpec t es ++ iterChildSpecs children

def iterChildSpecs : List NodeView → List Spec
  | [] => []
  | c :: cs => iterCustomSignalSpecs c ++ iterChildSpecs cs

end

def ruleSpecs (rule : Value) : List Spec :=
  ((rule.get? "when_ast").map (fun ast => iterCustomSignalSpecs t (nodeView ast))).getD []

def packSpecs (pack : Value) : List Spec :=
  (((pack.get? "rules").bind isArray).getD []).flatMap (ruleSpecs t)

/-- The plugin, the text of the parameters and the output key of a task. -/
def Spec.dedup (s : Spec) : String × List Char × String :=
  (s.pluginId, pyDumpsSorted t s.params, s.outputKey)

/-- Keep a task unless it is there already. -/
def addSpec (out : List Spec) (s : Spec) : List Spec :=
  if out.any (fun s' => s'.dedup t == s.dedup t) then out else out ++ [s]

/-- `collect_custom_signal_specs_from_packs`: every task once. -/
def collectSpecs (packs : List Value) : List Spec :=
  (packs.flatMap (packSpecs t)).foldl (addSpec t) []

end

/-- One task of `resolve_all`: the resolved signals and the features the next handler sees. -/
def resolveSpec (host : Host) (tid eid : String) (state : KeyMap Value × KeyMap Value)
    (s : Spec) : KeyMap Value × KeyMap Value :=
  match host.handlers s.pluginId with
  | none => (state.1.insert s.outputKey .null, state.2)
  | some handler =>
    let v := (handler s.params state.2 tid eid).getD .null
    (state.1.insert s.outputKey v, state.2.insert s.outputKey v)

/-- `merge_features_with_resolved_from_packs`. -/
def mergeFeatures (host : Host) (tid eid : String) (features : KeyMap Value)
    (packs : List Value) : KeyMap Value :=
  let resolved := ((collectSpecs host.eng.py packs).foldl (resolveSpec host tid eid)
    (KeyMap.empty, features)).1
  resolved.entries.foldl (fun m e => m.insert e.1 e.2) features

/-! ## Rules -/

section

variable (host : Host) (features : KeyMap Value)

/-- The loop over the conditions of `evaluate_rule_when`. -/
def evaluateConditions : List Value → Except PyError Bool
  | [] => .ok true
  | .object es :: cs =>
    match matchCondition host.eng features
        ⟨es.lookup "op", es.lookup "field", es.lookup "value"⟩ with
    | .error _ => .error .typeError
    | .ok false => .ok false
    | .ok true => evaluateConditions cs
  | _ :: _ => .ok false

/-- `evaluate_rule_when`. Every exception of the tree counts as no match. -/
def evaluateRuleWhen (rule : List (String × Value)) : Except PyError Bool :=
  let whenArr := ((rule.lookup "when").bind isArray).getD []
  let rawAst := (rule.lookup "when_ast").getD .null
  if !whenArr.isEmpty && !rawAst.isNull then .ok false
  else if !rawAst.isNull then
    .ok ((acceptAst host.eng host.tables rawAst).elim false
      (evaluateJsonAst host.eng host.tables features))
  else if whenArr.isEmpty || decide (maxConditionsPerRule < whenArr.length) then .ok false
  else evaluateConditions host features whenArr

/-- `for t in rule.get("tags") or []`: the strings that the iteration yields. -/
def ruleTags (tags : Option Value) : Except PyError (List String) :=
  match orElse tags with
  | none => .ok []
  | some (.array items) => .ok (items.filterMap isString)
  | some (.string s) => .ok (s.toList.map (fun c => String.ofList [c]))
  | some (.object es) => .ok (es.map Prod.fst)
  | some _ => .error .typeError

/-- The score of a rule; `none` is a suppressed error. -/
def ruleScore (rule : Value) : Option F64 :=
  match orElse (rule.get? "score_delta") with
  | none => some (F64.ofNat 0)
  | some v => toFloat host.parseFloat v

/-- The tags of a rule that hits; `none` is a rule that does not. -/
def ruleHit (rule : Value) : Except PyError (Option (List String)) :=
  match rule with
  | .object es =>
    match evaluateRuleWhen host features es with
    | .error e => .error e
    | .ok false => .ok none
    | .ok true => (ruleTags (es.lookup "tags")).map some
  | _ => .ok none

def ruleId (rule : Value) : String := strOr host.eng.py (rule.get? "id") "unknown"

/-- Whether the budget is checked before a rule, and found exceeded: only objects get that far. -/
def overBudget (expired : Bool) (rule : Value) : Bool :=
  match rule with
  | .object _ => expired
  | _ => false

/-- One rule of `_evaluate_one_pack`. -/
def evalRule (file : String) (expired : Nat → Bool) (o : PackOutcome) (r : Value × Nat) :
    Except PyError PackOutcome :=
  if overBudget (expired r.2) r.1 then .error (.budgetExceeded (ruleId host r.1) .rule)
  else
    match ruleHit host features r.1 with
    | .error e => .error e
    | .ok none => .ok o
    | .ok (some tags) =>
      .ok (o.record host.add (if file.isEmpty then "unknown" else file) (ruleId host r.1) .rule
        tags (ruleScore host r.1))

def tagRuleId (rule : Value) : String :=
  let s := strOr host.eng.py (rule.get? "id") ""
  if (strip s).isEmpty then "tagrule" else s

/-- `evaluate_tag_rule_when`, on the value of `any_tag`. -/
def evaluateTagRuleWhen (anyTag : Option Value) (redisTags : List String) : Bool :=
  match orElse anyTag with
  | some (.array items) => (items.filterMap isString).any redisTags.contains
  | _ => false

def tagRuleHit (redisTags : List String) (rule : Value) : Except PyError (Option (List String)) :=
  match rule with
  | .object es =>
    if evaluateTagRuleWhen (es.lookup "any_tag") redisTags then
      (ruleTags (es.lookup "tags")).map some
    else .ok none
  | _ => .ok none

/-- One tag rule of `_evaluate_one_pack`. -/
def evalTagRule (file : String) (redisTags : List String) (expired : Nat → Bool)
    (o : PackOutcome) (r : Value × Nat) : Except PyError PackOutcome :=
  if overBudget (expired r.2) r.1 then .error (.budgetExceeded (tagRuleId host r.1) .tagRule)
  else
    match tagRuleHit redisTags r.1 with
    | .error e => .error e
    | .ok none => .ok o
    | .ok (some tags) =>
      .ok (o.record host.add (if file.isEmpty then "unknown" else file) (tagRuleId host r.1)
        .tagRule tags (ruleScore host r.1))

end

/-! ## Packs -/

/-- The list under a key, at most as many items as a pack may have rules. -/
def packRules (pack : Value) (k : String) : List Value :=
  (((pack.get? k).bind isArray).getD []).take maxRulesPerPack

/-- `p.get("version", 1) != 1` fails: `1`, `1.0` and `True` are equal. -/
def versionIsOne (pack : Value) : Bool :=
  match pack.get? "version" with
  | none => true
  | some (.number n) => n.asF64.any (fun x => x.eq (F64.ofNat 1))
  | some (.bool b) => b
  | some _ => false

/-- The filter of `_iter_eligible_packs`. -/
def eligible (excludeShadow : Bool) (pack : Value) : Bool :=
  let mode := (pack.get? "mode").getD (.string "active")
  versionIsOne pack && isString mode != some "disabled"
    && !(excludeShadow && isString mode == some "shadow")

/-- One pack of `_iter_eligible_packs`: only an object has the method `get`. -/
def eligiblePack (excludeShadow : Bool) (pack : Value) : Except PyError (Option Value) :=
  match pack with
  | .object _ => .ok (if eligible excludeShadow pack then some pack else none)
  | _ => .error .attributeError

def iterEligiblePacks (excludeShadow : Bool) (packs : List Value) : Except PyError (List Value) :=
  collect (eligiblePack excludeShadow) packs

section

variable (host : Host) (features : KeyMap Value) (redisTags : List String)

/-- `_evaluate_one_pack`, past its gate. -/
def evaluateRules (clock : RuleKind → Nat → Bool) (pack : Value) : Except PyError PackOutcome := do
  let file := strOr host.eng.py (pack.get? "_source_file") ""
  let o ← (packRules pack "rules").zipIdx.foldlM
    (evalRule host features file (clock .rule)) .empty
  (packRules pack "tag_rules").zipIdx.foldlM
    (evalTagRule host file redisTags (clock .tagRule)) o

def evaluateOnePack (tid eid : String) (mode : EvaluationMode) (clock : RuleKind → Nat → Bool)
    (pack : Value) : Except PyError PackOutcome :=
  if packShouldApply host.eng.py host.dates host.parseFloat host.sha256 host.now tid eid mode pack
  then evaluateRules host features redisTags clock pack
  else .ok .empty

/-- One pack of `evaluate_packs_python`. -/
def packStep (tid eid : String) (mode : EvaluationMode) (out : Outcome) (p : Value × Nat) :
    Except PyError Outcome :=
  (evaluateOnePack host features redisTags tid eid mode (host.clock p.2) p.1).map
    (out.extend host.add (strOr host.eng.py (p.1.get? "_source_file") ""))

end

def evaluatePacksPython (host : Host) (req : Request) (excludeShadow : Bool) (packs : List Value)
    (features : KeyMap Value) (redisTags : List String) : Except PyError Outcome := do
  let tid := orDefault (strip req.tenantId)
  let eid := orDefault (strip req.entityId)
  let eligible ← iterEligiblePacks excludeShadow packs
  let fmap := mergeFeatures host tid eid features eligible
  let out ← eligible.zipIdx.foldlM
    (packStep host fmap redisTags tid eid (.ofName req.evaluationMode)) .empty
  return { out with contributingPackFiles := sortByCodePoints out.contributingPackFiles.dedup }

end Tarka.Rules.Py
