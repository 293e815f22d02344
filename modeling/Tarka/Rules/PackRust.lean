import Tarka.Lib.Loop
import Tarka.Rules.Ast
import Tarka.Rules.PackGate

/-! # Rule packs in Rust

`parse_active_packs`, `evaluate_pack` and `evaluate_parsed_slice` of the Rust engine
(`pack_ffi.rs`). The values are those of `serde_json`. -/

namespace Tarka.Rules

open Tarka.Lib Tarka.Json

def maxRulesPerPack : Nat := 200

def maxConditionsPerRule : Nat := 20

/-- The two kinds of rules of a pack, and the two passes over them. -/
inductive RuleKind where
  | rule | tagRule
  deriving DecidableEq

/-- A hit, for telemetry. -/
structure TelEvent where
  packFile : String
  ruleId : String
  kind : RuleKind
  deriving DecidableEq

/-- What the rules of one pack have contributed so far. -/
structure PackOutcome where
  hits : List String
  tags : List String
  delta : F64
  telemetry : List TelEvent
  deriving DecidableEq

def PackOutcome.empty : PackOutcome := ⟨[], [], F64.ofNat 0, []⟩

/-- A hit of a rule. In Python a score that is no number is left out. -/
def PackOutcome.record (add : F64 → F64 → F64) (o : PackOutcome) (packFile ruleId : String)
    (kind : RuleKind) (tags : List String) (score : Option F64) : PackOutcome where
  hits := o.hits ++ [ruleId]
  tags := o.tags ++ tags
  delta := score.elim o.delta (add o.delta)
  telemetry := o.telemetry ++ [⟨packFile, ruleId, kind⟩]

/-- The result of an evaluation. -/
structure Outcome where
  ruleHits : List String
  tags : List String
  scoreDelta : F64
  contributingPackFiles : List String
  telemetry : List TelEvent
  deriving DecidableEq

def Outcome.empty : Outcome := ⟨[], [], F64.ofNat 0, [], []⟩

/-- The result with those of one more pack; a pack with hits is a contributing one. -/
def Outcome.extend (add : F64 → F64 → F64) (out : Outcome) (packFile : String)
    (o : PackOutcome) : Outcome where
  ruleHits := out.ruleHits ++ o.hits
  tags := out.tags ++ o.tags
  scoreDelta := add out.scoreDelta o.delta
  contributingPackFiles :=
    if o.hits.isEmpty then out.contributingPackFiles else out.contributingPackFiles ++ [packFile]
  telemetry := out.telemetry ++ o.telemetry

namespace Rust

/-- What the engine reads besides its arguments: the instant, and at each budget check whether the
time is up (by the pack, the pass and the position of the rule). -/
structure Host where
  eng : Engines
  dates : Dates
  sha256 : List UInt8 → List UInt8
  now : Int
  /-- The addition of doubles. -/
  add : F64 → F64 → F64
  clock : Nat → RuleKind → Nat → Bool

/-- `TarkaEngineError`, as far as an evaluation can return it. -/
inductive EngineError where
  | astValidation (ruleId : String) (astNodeIndex : Option Nat) (path code message : String)
  | regexCompilation (e : RegexCompilation)
  | evaluationBudget (ruleId message : String)
  deriving DecidableEq

/-- `From<AstMalformed>`. -/
def EngineError.ofAst (m : AstMalformed) : EngineError :=
  .astValidation (m.ruleId.getD "") m.astNodeIndex m.path m.code m.message

structure Rule where
  id : String
  when_ : List Condition
  whenAst : Option AstNode
  tags : List String
  scoreDelta : F64

structure TagRule where
  id : String
  anyTag : List String
  tags : List String
  scoreDelta : F64

structure ParsedPack extends PackGate where
  rules : List Rule
  tagRules : List TagRule

/-! ## Parsing -/

def packVersionIsV1 (v : Value) : Bool :=
  match v.get? "version" with
  | none => true
  | some (.number n) => n.asU64 == some 1
  | some _ => false

def stringField (v : Value) (k default : String) : String :=
  ((v.get? k).bind isString).getD default

def stringItems (v : Value) (k : String) : List String :=
  ((((v.get? k).bind isArray).getD []).filterMap isString).take 50

def scoreDelta (v : Value) : F64 := ((v.get? "score_delta").bind jsonF64).getD (F64.ofNat 0)

def rawOf (c : Value) : RawCondition := ⟨c.get? "op", c.get? "field", c.get? "value"⟩

section

variable (eng : Engines)

/-- The loop over the conditions: `none` skips the rule at the first bad field. -/
def parseConditions (ruleId : String) :
    List Value → Except RegexCompilation (Option (List Condition))
  | [] => .ok (some [])
  | c :: cs =>
    match parseCondition eng ruleId (rawOf c) with
    | .error e => .error e
    | .ok none => .ok none
    | .ok (some cond) => (parseConditions ruleId cs).map (Option.map (cond :: ·))

/-- One rule of `parse_active_packs`: `none` skips it, an error ends the parsing of all packs. -/
def parseRule (rule : Value) : Except EngineError (Option Rule) :=
  let rid := stringField rule "id" "unknown"
  let whenArr := ((rule.get? "when").bind isArray).getD []
  let rawAst := (rule.get? "when_ast").getD .null
  let tags := stringItems rule "tags"
  if !whenArr.isEmpty && !rawAst.isNull then .ok none
  else if !rawAst.isNull then
    match parseAstStrictInRule eng rid rawAst "when_ast" with
    | .error m => .error (.ofAst m)
    | .ok ast => .ok (some ⟨rid, [], some ast, tags, scoreDelta rule⟩)
  else if whenArr.isEmpty || decide (maxConditionsPerRule < whenArr.length) then .ok none
  else
    match parseConditions eng rid whenArr with
    | .error e => .error (.regexCompilation e)
    | .ok none => .ok none
    | .ok (some conds) => .ok (some ⟨rid, conds, none, tags, scoreDelta rule⟩)

def parseTagRule (rule : Value) : TagRule where
  id := stringField rule "id" ""
  anyTag := stringItems rule "any_tag"
  tags := stringItems rule "tags"
  scoreDelta := scoreDelta rule

/-- A pack that is not filtered out by its version and its mode. -/
def eligible (excludeShadow : Bool) (v : Value) : Bool :=
  let mode := stringField v "mode" "active"
  packVersionIsV1 v && mode != "disabled" && !(excludeShadow && mode == "shadow")

/-- The array under a key, at most as many items as a pack may have rules. -/
def packRules (v : Value) (k : String) : List Value :=
  (((v.get? k).bind isArray).getD []).take maxRulesPerPack

/-- The fields of the gate, as `parse_active_packs` reads them. -/
def packGate (dates : Dates) (v : Value) : PackGate where
  sourceFile := stringField v "_source_file" ""
  name := stringField v "name" ""
  canaryPercent := (v.get? "canary_percent").bind jsonF64
  effectiveAt := ((v.get? "effective_at").bind isString).bind (parseEffectiveAt dates)

/-- One pack of `parse_active_packs`. -/
def parsePack (dates : Dates) (excludeShadow : Bool) (v : Value) :
    Except EngineError (Option ParsedPack) :=
  if eligible excludeShadow v then
    (collect (parseRule eng) (packRules v "rules")).map (fun rules => some
      { packGate dates v with
        rules := rules
        tagRules := (packRules v "tag_rules").map parseTagRule })
  else .ok none

def parseActivePacks (dates : Dates) (excludeShadow : Bool) (arr : List Value) :
    Except EngineError (List ParsedPack) :=
  collect (parsePack eng dates excludeShadow) arr

end

/-! ## Evaluation -/

def ruleWhenMatches (eng : Engines) (features : KeyMap Value) (rule : Rule) : Bool :=
  match rule.whenAst with
  | some ast => evalAst eng features ast
  | none => !rule.when_.isEmpty && decide (rule.when_.length ≤ maxConditionsPerRule)
      && rule.when_.all (matchCondition eng features)

section

variable (host : Host) (features : KeyMap Value) (redisTags : List String)

/-- One rule of `evaluate_pack`. -/
def evalRule (file : String) (expired : Nat → Bool) (o : PackOutcome) (r : Rule × Nat) :
    Except EngineError PackOutcome :=
  if expired r.2 then .error (.evaluationBudget r.1.id "evaluate_pack exceeded 50ms")
  else if ruleWhenMatches host.eng features r.1 then
    .ok (o.record host.add file r.1.id .rule r.1.tags (some r.1.scoreDelta))
  else .ok o

/-- One tag rule of `evaluate_pack`. -/
def evalTagRule (file : String) (expired : Nat → Bool) (o : PackOutcome) (r : TagRule × Nat) :
    Except EngineError PackOutcome :=
  if expired r.2 then .error (.evaluationBudget r.1.id "tag_rule pass exceeded 50ms")
  else if r.1.anyTag.any redisTags.contains then
    .ok (o.record host.add file (if r.1.id.isEmpty then "tagrule" else r.1.id) .tagRule r.1.tags
      (some r.1.scoreDelta))
  else .ok o

def evaluatePack (clock : RuleKind → Nat → Bool) (pack : ParsedPack) :
    Except EngineError PackOutcome := do
  let o ← pack.rules.zipIdx.foldlM (evalRule host features pack.sourceFile (clock .rule)) .empty
  (pack.tagRules.take maxRulesPerPack).zipIdx.foldlM
    (evalTagRule host redisTags pack.sourceFile (clock .tagRule)) o

/-- `Vec::dedup`: equal neighbours count once. -/
def dedupNeighbours : List String → List String
  | [] => []
  | [s] => [s]
  | s :: t :: ts => if s = t then dedupNeighbours (t :: ts) else s :: dedupNeighbours (t :: ts)

/-- One pack of `evaluate_parsed_slice`. -/
def slicePack (tid eid : String) (mode : EvaluationMode) (out : Outcome) (p : ParsedPack × Nat) :
    Except EngineError Outcome :=
  if packShouldApply host.sha256 host.now tid eid mode p.1.toPackGate then
    (evaluatePack host features redisTags (host.clock p.2) p.1).map
      (out.extend host.add p.1.sourceFile)
  else .ok out

def evaluateParsedSlice (tid eid : String) (mode : EvaluationMode) (parsed : List ParsedPack) :
    Except EngineError Outcome :=
  (parsed.zipIdx.foldlM (slicePack host features redisTags tid eid mode) .empty).map (fun out =>
    { out with
      contributingPackFiles := dedupNeighbours (sortByBytes out.contributingPackFiles) })

end

/-- `merge_tags_signal`: the tags of the request, then its new signal tags. -/
def mergeTagsSignal (redisTags : List String) (signalTags : Option (List String)) : List String :=
  (signalTags.getD []).foldl (fun acc t => if acc.contains t then acc else acc ++ [t]) redisTags

def evaluatePacks (host : Host) (req : Request) (excludeShadow : Bool) (packs : List Value)
    (features : KeyMap Value) (redisTags : List String) (signalTags : Option (List String)) :
    Except EngineError Outcome := do
  let parsed ← parseActivePacks host.eng host.dates excludeShadow packs
  evaluateParsedSlice host features (mergeTagsSignal redisTags signalTags)
    (orDefault (trim req.tenantId)) (orDefault (trim req.entityId))
    (.ofName req.evaluationMode) parsed

end Rust

end Tarka.Rules
