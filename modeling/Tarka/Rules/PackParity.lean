import Tarka.Rules.GateParity
import Tarka.Rules.PackIsolation

/-! # The two evaluators of packs

`evaluate_parsed_slice` of the Rust engine against `evaluate_packs_python`, on the same packs and
with conditions that evaluate alike. The evaluators are two loops over the same rules, and what they
do in lock step is compared field by field: Rust takes an identifier, a tag or a score only if it
has the right type, and at most fifty tags of a rule; Python converts with `str` and `float` and
takes all of them. That matters for rules that hit, in packs that are not left out and apply.
`packs_agree` collects what is left. -/

namespace Tarka.Rules

open Tarka.Lib Tarka.Json List Option Value F64

/-! ## Fields that are read alike -/

/-- A text: a string, an empty one only where it is the default too, or a value that counts as
false. -/
def portableText (emptyOk : Bool) : Option Value → Bool
  | none => true
  | some (.string s) => emptyOk || !s.isEmpty
  | some v => !v.truthy

/-- The identifier of a tag rule: not one of white space alone. -/
def portableTagId : Option Value → Bool
  | none => true
  | some (.string s) => s.isEmpty || !(strip s).isEmpty
  | some v => !v.truthy

/-- Tags: a list with at most fifty strings, or a value that counts as false. -/
def portableTags : Option Value → Bool
  | none => true
  | some (.array items) => decide ((items.filterMap isString).length ≤ 50)
  | some v => !v.truthy

def listStrings (o : Option Value) : List String := ((o.bind isArray).getD []).filterMap isString

/-- The tags a tag rule asks for: one that hits does so by one of the first fifty strings. -/
def portableAnyTag (redisTags : List String) (o : Option Value) : Bool :=
  !(listStrings o).any redisTags.contains || ((listStrings o).take 50).any redisTags.contains

/-- A score: a number that comes through as it is, and nothing else that Python reads as a
number. -/
def portableScore (read : FiniteF64 → FiniteF64) (parseFloat : String → Option F64) :
    Option Value → Bool
  | some (.number (.float x)) => decide (read x = x)
  | some (.bool b) => !b
  | some (.string s) => s.isEmpty || (parseFloat s).all (fun x => x.magnitude == 0)
  | _ => true

/-- A version: neither `True` nor a double that equals one. -/
def portableVersion : Option Value → Bool
  | some (.bool b) => !b
  | some (.number (.float x)) => !x.val.eq (F64.ofNat 1)
  | _ => true

variable {v : Value}

section

variable {t : PyText} {o : Option Value}

theorem orElse_truthy (h : v.truthy) : Py.orElse (some v) = some v := by
  simp [Py.orElse, h]

theorem orElse_falsy (h : v.truthy = false) : Py.orElse (some v) = none := by
  simp [Py.orElse, h]

theorem strOr_eq {emptyOk : Bool} {d : String} (hd : emptyOk → d = "")
    (h : portableText emptyOk o) : Py.strOr t o d = (o.bind isString).getD d := by
  cases o with
  | none => rfl
  | some v =>
    cases v with
    | string s =>
      by_cases hs : s.isEmpty = true
      · have hempty : emptyOk := by simpa [portableText, hs] using h
        have hs' : s = "" := by simpa using hs
        rw [hs', hd hempty]
        rfl
      · have htrue : (string s).truthy := by simpa [truthy] using hs
        rw [Py.strOr, orElse_truthy htrue]
        rfl
    | _ =>
      simp only [portableText, Bool.not_eq_true'] at h
      rw [Py.strOr, orElse_falsy h]
      rfl

theorem tagId_eq (h : portableTagId o) :
    (if (strip (Py.strOr t o "")).isEmpty then "tagrule" else Py.strOr t o "")
      = if ((o.bind isString).getD "").isEmpty then "tagrule" else (o.bind isString).getD "" := by
  have htext : portableText true o := by
    cases o with
    | none => rfl
    | some v => cases v <;> first | rfl | exact h
  have hblank : (strip ((o.bind isString).getD "")).isEmpty
      = ((o.bind isString).getD "").isEmpty := by
    cases o with
    | none => rfl
    | some v =>
      cases v with
      | string s =>
        by_cases hs : s.isEmpty = true
        · have hs' : s = "" := by simpa using hs
          subst hs'
          rfl
        · have hstrip : (strip s).isEmpty = false := by simpa [portableTagId, hs] using h
          simpa [isString, hstrip] using hs
      | _ => rfl
  rw [strOr_eq (fun _ => rfl) htext, hblank]

theorem ruleTags_eq (h : portableTags o) : Py.ruleTags o = .ok ((listStrings o).take 50) := by
  cases o with
  | none => rfl
  | some v =>
    cases v with
    | array items =>
      have hlen : (items.filterMap isString).length ≤ 50 := by simpa [portableTags] using h
      cases items with
      | nil => rfl
      | cons a as =>
        show Except.ok _ = Except.ok (((a :: as).filterMap isString).take 50)
        rw [take_of_length_le hlen]
    | _ =>
      simp only [portableTags, Bool.not_eq_true'] at h
      rw [Py.ruleTags, orElse_falsy h]
      rfl

theorem evaluateTagRuleWhen_eq (redisTags : List String) :
    Py.evaluateTagRuleWhen o redisTags = (listStrings o).any redisTags.contains := by
  rcases o with _ | (_ | _ | _ | _ | (_ | _) | _)
  case some.array.nil => rfl
  case some.array.cons => rfl
  all_goals
    simp only [Py.evaluateTagRuleWhen, Py.orElse, listStrings]
    split <;> simp_all [isArray]

theorem anyTag_eq {redisTags : List String} (h : portableAnyTag redisTags o) :
    ((listStrings o).take 50).any redisTags.contains
      = (listStrings o).any redisTags.contains := by
  cases hall : (listStrings o).any redisTags.contains with
  | false =>
    rw [List.any_eq_false] at hall ⊢
    exact fun s hs => hall s (mem_of_mem_take hs)
  | true => simpa [portableAnyTag, hall] using h

end

/-! ## What is received of a rule -/

section

variable {read : FiniteF64 → FiniteF64}

theorem items_received (read : FiniteF64 → FiniteF64) (hd : v.distinctKeys) (k : String) :
    (((v.received read).get? k).bind isArray).getD []
      = (((v.get? k).bind isArray).getD []).map (received read) := by
  rw [get?_received read hd]
  cases v.get? k with
  | none => rfl
  | some w =>
    rw [Option.map_some, bind_some, bind_some, isArray_received]
    cases isArray w <;> rfl

theorem distinctKeys_item (hd : v.distinctKeys) {k : String} {w : Value}
    (hw : w ∈ ((v.get? k).bind isArray).getD []) : w.distinctKeys := by
  rcases hk : v.get? k with _ | (_ | _ | _ | _ | items | _) <;> rw [hk] at hw
  case some.array => exact distinctKeys_of_mem_items (distinctKeys_get? hd hk) hw
  all_goals cases hw

theorem packRules_received (hd : v.distinctKeys) (k : String) :
    Rust.packRules (v.received read) k = (Rust.packRules v k).map (received read) := by
  rw [Rust.packRules, items_received _ hd, ← map_take]
  rfl

theorem distinctKeys_rule (hd : v.distinctKeys) {k : String} {rule : Value}
    (h : rule ∈ Rust.packRules v k) : rule.distinctKeys :=
  distinctKeys_item hd (mem_of_mem_take h)

theorem stringItems_received (hd : v.distinctKeys) (k : String) :
    Rust.stringItems (v.received read) k = Rust.stringItems v k := by
  rw [Rust.stringItems, items_received _ hd, filterMap_map]
  exact congrArg (take 50) (filterMap_congr fun w _ => isString_received (v := some w))

theorem scoreDelta_received {parseFloat : String → Option F64} (hd : v.distinctKeys)
    (h : portableScore read parseFloat (v.get? "score_delta")) :
    Rust.scoreDelta (v.received read) = Rust.scoreDelta v := by
  unfold Rust.scoreDelta
  rw [get?_received read hd]
  rcases hscore : v.get? "score_delta" with _ | (_ | _ | (_ | _ | x) | _ | _ | _)
  case some.number.float =>
    have hx : read x = x := by simpa [hscore, portableScore] using h
    show (jsonF64 (number (.float (read x)))).getD _ = _
    rw [hx]
    rfl
  all_goals rfl

end

/-! ## Scores -/

/-- A double that a sum of scores can be: a sum that starts at zero is never the negative zero. -/
def isSum (x : F64) : Bool := !x.isNegZero && !x.isSignalling

/-- The addition of doubles, as far as zeros go: adding one to a sum changes nothing. -/
structure AddLawful (add : F64 → F64 → F64) : Prop where
  zero : ∀ x y : F64, isSum x = true → y.magnitude = 0 → add x y = x
  sum : ∀ x y : F64, isSum x = true → isSum (add x y) = true

theorem magnitude_of_falsy {n : Number} {x : F64} (h : (number n).truthy = false)
    (hx : n.asF64 = some x) : x.magnitude = 0 := by
  cases n with
  | posInt n =>
    have hn : n = 0 := by simpa [truthy] using h
    cases hx
    rw [hn]
    rfl
  | negInt k => cases h
  | float y =>
    cases hx
    simpa [truthy] using h

variable {rule : Value}

theorem score_eq {host : Py.Host} (hadd : AddLawful host.add)
    (h : portableScore host.eng.readF64 host.parseFloat (rule.get? "score_delta")) {x : F64}
    (hx : isSum x) :
    (Py.ruleScore host rule).elim x (host.add x) = host.add x (Rust.scoreDelta rule) := by
  have hzero : (ofNat 0).magnitude = 0 := by decide
  have hkeep : ∀ y : F64, y.magnitude = 0 → host.add x y = x := fun y => hadd.zero x y hx
  unfold Py.ruleScore Rust.scoreDelta
  cases hv : rule.get? "score_delta" with
  | none => rfl
  | some v =>
    rw [hv] at h
    cases htruthy : v.truthy with
    | false =>
      rw [orElse_falsy htruthy]
      show host.add x (ofNat 0) = host.add x (((some v).bind jsonF64).getD (ofNat 0))
      rw [hkeep _ hzero]
      cases v with
      | number n =>
        obtain ⟨y, hy⟩ : ∃ y, n.asF64 = some y := by cases n <;> exact ⟨_, rfl⟩
        have hscore : ((some (number n)).bind jsonF64).getD (ofNat 0) = y := by
          simp [jsonF64, hy]
        rw [hscore, hkeep y (magnitude_of_falsy htruthy hy)]
      | _ => exact (hkeep _ hzero).symm
    | true =>
      rw [orElse_truthy htruthy]
      cases v with
      | number n =>
        obtain ⟨y, hy⟩ : ∃ y, n.asF64 = some y := by cases n <;> exact ⟨_, rfl⟩
        simp [Py.toFloat, jsonF64, hy]
      | bool b =>
        simp only [truthy] at htruthy
        simp [portableScore, htruthy] at h
      | string s =>
        have hnone : ∀ y, host.parseFloat s = some y → y.magnitude = 0 := by
          intro y hy
          have hs : s.isEmpty = false := by simpa [truthy] using htruthy
          simpa [portableScore, hs, hy] using h
        have hrust : ((some (string s)).bind jsonF64).getD (ofNat 0) = ofNat 0 :=
          rfl
        rw [hrust, hkeep _ hzero]
        simp only [Py.toFloat]
        cases hparse : host.parseFloat s with
        | none => rfl
        | some y => exact hkeep y (hnone y hparse)
      | _ => exact (hkeep _ hzero).symm

/-! ## Conditions -/

/-- A condition of a rule in Rust, which receives it. -/
def Rust.ruleConditionHolds (eng : Engines) (ruleId : String) (features : KeyMap Value)
    (c : Value) : Except Rust.RegexCompilation Bool :=
  (Rust.parseCondition eng ruleId (Rust.rawOf (c.received eng.readF64))).map
    (fun parsed => parsed.elim false (Rust.matchCondition eng features))

/-- A condition of a rule in Python; what is no object does not hold. -/
def Py.ruleConditionHolds (eng : Engines) (features : KeyMap Value) (c : Value) :
    Except Py.Raised Bool :=
  match c with
  | .object es =>
    Py.matchCondition eng features ⟨es.lookup "op", es.lookup "field", es.lookup "value"⟩
  | _ => .ok false

/-- The conditions of a rule evaluate alike in the two engines, each with its own features. -/
structure ConditionsAgree (py : Py.Host) (features fmap : KeyMap Value) (rule : Value) : Prop where
  flat : ∀ c ∈ ((rule.get? "when").bind isArray).getD [], ∃ b,
    Rust.ruleConditionHolds py.eng (Rust.stringField rule "id" "unknown") features c = .ok b
      ∧ Py.ruleConditionHolds py.eng fmap c = .ok b
  tree : ∀ ast, rule.get? "when_ast" = some ast → ast.isNull = false → ∃ node,
    Rust.parseAstStrictInRule py.eng (Rust.stringField rule "id" "unknown")
        (ast.received py.eng.readF64) "when_ast" = .ok node
      ∧ Rust.evalAst py.eng features node
        = (Py.acceptAst py.eng py.tables ast).elim false
          (Py.evaluateJsonAst py.eng py.tables fmap)

variable {fmap features : KeyMap Value} {py : Py.Host}

theorem conditionsAgree_of_single {c : Value}
    (hwhen : ((rule.get? "when").bind isArray).getD [] = [c]) (hast : rule.get? "when_ast" = none)
    (hrust : Rust.ruleConditionHolds py.eng (Rust.stringField rule "id" "unknown") features c
      = .ok true)
    (hpy : Py.ruleConditionHolds py.eng fmap c = .ok true) :
    ConditionsAgree py features fmap rule where
  flat := by
    intro d hd
    rw [hwhen] at hd
    obtain rfl := mem_singleton.mp hd
    exact ⟨true, hrust, hpy⟩
  tree := by
    intro ast h
    rw [hast] at h
    cases h

theorem Py.evaluateConditions_cons (host : Py.Host) (fmap : KeyMap Value) (c : Value)
    (cs : List Value) {b : Bool} (h : Py.ruleConditionHolds host.eng fmap c = .ok b) :
    Py.evaluateConditions host fmap (c :: cs)
      = if b then Py.evaluateConditions host fmap cs else .ok false := by
  cases c with
  | object es =>
    simp only [Py.ruleConditionHolds] at h
    rw [Py.evaluateConditions, h]
    cases b <;> rfl
  | _ =>
    cases h
    rfl

/-- **The loops over the conditions agree.** -/
theorem conditions_agree {ruleId : String} {cs : List Value}
    (h : ∀ c ∈ cs, ∃ b, Rust.ruleConditionHolds py.eng ruleId features c = .ok b
      ∧ Py.ruleConditionHolds py.eng fmap c = .ok b) :
    ∃ conds, Rust.parseConditions py.eng ruleId (cs.map (received py.eng.readF64)) = .ok conds
      ∧ (∀ l, conds = some l → l.length = cs.length)
      ∧ Py.evaluateConditions py fmap cs
        = .ok (conds.elim false (fun l => l.all (Rust.matchCondition py.eng features))) := by
  induction cs with
  | nil => exact ⟨some [], rfl, by simp, rfl⟩
  | cons c cs ih =>
    obtain ⟨conds, hconds, hlen, hpy⟩ := ih (fun d hd => h d (mem_cons_of_mem _ hd))
    obtain ⟨b, hrust, hb⟩ := h c (by simp)
    unfold Rust.ruleConditionHolds at hrust
    rw [Py.evaluateConditions_cons py fmap c cs hb, map_cons, Rust.parseConditions]
    cases hparse : Rust.parseCondition py.eng ruleId (Rust.rawOf (c.received py.eng.readF64)) with
    | error e =>
      rw [hparse] at hrust
      cases hrust
    | ok parsed =>
      rw [hparse] at hrust
      cases hrust
      cases parsed with
      | none => exact ⟨none, rfl, by simp, rfl⟩
      | some cond =>
        refine ⟨conds.map (cond :: ·), by rw [hconds]; rfl, ?_, ?_⟩
        · intro l hl
          obtain ⟨l', hl', rfl⟩ := map_eq_some_iff.mp hl
          rw [length_cons, length_cons, hlen l' hl']
        · rw [hpy]
          -- a condition that fails ends the loop of Python
          cases hmatch : Rust.matchCondition py.eng features cond with
          | false => cases conds <;> simp [hmatch]
          | true => cases conds <;> simp [hmatch]

def Py.whenHolds (py : Py.Host) (fmap : KeyMap Value) (rule : Value) : Except Py.PyError Bool :=
  match rule with
  | .object es => Py.evaluateRuleWhen py fmap es
  | _ => .ok false

/-- **A rule matches alike**, and Rust can parse it. -/
theorem when_agree (hd : rule.distinctKeys) (h : ConditionsAgree py features fmap rule) :
    ∃ r, Rust.parseRule py.eng (rule.received py.eng.readF64) = .ok r
      ∧ Py.whenHolds py fmap rule
        = .ok (r.elim false (Rust.ruleWhenMatches py.eng features)) := by
  rcases rule with _ | _ | (_ | _ | _) | _ | _ | es
  case object =>
    have hget : ∀ k, (object es).get? k = es.lookup k := fun _ => rfl
    have hwhenArr := items_received py.eng.readF64 hd "when"
    have hwhenAst := get?_received py.eng.readF64 hd "when_ast"
    obtain ⟨hflat, htree⟩ := h
    unfold Rust.parseRule
    simp only [Rust.stringField_received hd, hwhenArr, hwhenAst, getD_received, isNull_received,
      isEmpty_map, length_map, Py.whenHolds, Py.evaluateRuleWhen, hget] at hflat htree ⊢
    cases hnull : ((es.lookup "when_ast").getD .null).isNull with
    | false =>
      cases hwhen : (((es.lookup "when").bind isArray).getD []).isEmpty with
      | false => exact ⟨none, rfl, rfl⟩
      | true =>
        obtain ⟨ast, hast⟩ : ∃ ast, es.lookup "when_ast" = some ast := by
          cases hast : es.lookup "when_ast" with
          | none =>
            rw [hast] at hnull
            cases hnull
          | some ast => exact ⟨ast, rfl⟩
        simp only [hast, getD_some] at hnull ⊢
        obtain ⟨node, hparse, heval⟩ := htree ast hast hnull
        refine ⟨some _, by rw [hparse]; rfl, ?_⟩
        simp [Rust.ruleWhenMatches, heval]
    | true =>
      by_cases hskip : ((((es.lookup "when").bind isArray).getD []).isEmpty
          || decide (maxConditionsPerRule < (((es.lookup "when").bind isArray).getD []).length))
      · exact ⟨none, by simp [hskip], by simp [hskip]⟩
      · obtain ⟨conds, hconds, hlen, hpy⟩ := conditions_agree hflat
        simp only [Bool.not_true, Bool.and_false, Bool.false_eq_true, if_false, if_neg hskip,
          hconds, hpy]
        cases conds with
        | none => exact ⟨none, rfl, rfl⟩
        | some l =>
          -- as many conditions as in the document, so that the length check passes
          have hl := hlen l rfl
          rw [Bool.or_eq_true, decide_eq_true_eq, not_or, Nat.not_lt] at hskip
          have hle : l.length ≤ maxConditionsPerRule := by
            rw [hl]
            exact hskip.2
          have hne : l.isEmpty = false := by
            rw [isEmpty_eq_false_iff, ← length_pos_iff, hl, length_pos_iff]
            simpa using hskip.1
          refine ⟨some _, rfl, ?_⟩
          simp [Rust.ruleWhenMatches, hne, hle]
  all_goals exact ⟨none, rfl, rfl⟩

/-! ## Rules -/

/-- The host of the Rust engine that runs at the same instant, with the same hash and the same
addition. -/
def rustHost (py : Py.Host) (dates : Rust.Dates) (clock : Nat → RuleKind → Nat → Bool) :
    Rust.Host :=
  ⟨py.eng, dates, py.sha256, py.now, py.add, clock⟩

/-- The results of two packs, apart from the telemetry; with hits only if something hits. -/
structure SameHits (hit : Prop) (o o' : PackOutcome) : Prop where
  hits : o.hits = o'.hits
  tags : o.tags = o'.tags
  delta : o.delta = o'.delta
  sum : isSum o.delta = true
  anyHit : o.hits ≠ [] → hit

def portableRule (py : Py.Host) (rule : Value) : Bool :=
  portableText false (rule.get? "id") && portableTags (rule.get? "tags")
    && portableScore py.eng.readF64 py.parseFloat (rule.get? "score_delta")

def portableTagRule (py : Py.Host) (rule : Value) : Bool :=
  portableTagId (rule.get? "id") && portableTags (rule.get? "tags")
    && portableScore py.eng.readF64 py.parseFloat (rule.get? "score_delta")

def tagRuleHits (redisTags : List String) (rule : Value) : Bool :=
  (listStrings (rule.get? "any_tag")).any redisTags.contains

variable {eng : Engines}

theorem parseRule_fields {r : Rust.Rule}
    (h : Rust.parseRule eng rule = .ok (some r)) :
    r.id = Rust.stringField rule "id" "unknown" ∧ r.tags = Rust.stringItems rule "tags"
      ∧ r.scoreDelta = Rust.scoreDelta rule := by
  unfold Rust.parseRule at h
  simp only at h
  split_ifs at h
  · cases h
  · split at h
    · cases h
    · obtain rfl := some.inj (Except.ok.inj h)
      exact ⟨rfl, rfl, rfl⟩
  · cases h
  · split at h
    · cases h
    · cases h
    · obtain rfl := some.inj (Except.ok.inj h)
      exact ⟨rfl, rfl, rfl⟩

def ruleOf (eng : Engines) (rule : Value) : Option Rust.Rule :=
  (Rust.parseRule eng (rule.received eng.readF64)).toOption.join

/-- One tag rule in Rust before a clock that does not run out. -/
def rustTagRuleInTime (host : Rust.Host) (redisTags : List String) (file : String)
    (o : PackOutcome) (rule : Value) : Except Rust.EngineError PackOutcome :=
  Rust.evalTagRule host redisTags file (fun _ => false) o
    (Rust.parseTagRule (rule.received host.eng.readF64), 0)

def pyTagRuleInTime (py : Py.Host) (redisTags : List String) (file : String) (o : PackOutcome)
    (rule : Value) : Except Py.PyError PackOutcome :=
  Py.evalTagRule py file redisTags (fun _ => false) o (rule, 0)

theorem py_rule_step {b : Bool} (hrule : b = true → portableRule py rule)
    (hwhen : Py.whenHolds py fmap rule = .ok b) (file' : String) (o' : PackOutcome) :
    evalRuleInTime py fmap file' o' rule
      = .ok (if b then
          o'.record py.add (if file'.isEmpty then "unknown" else file')
            (Rust.stringField rule "id" "unknown") .rule (Rust.stringItems rule "tags")
            (Py.ruleScore py rule)
        else o') := by
  cases rule with
  | object es =>
    simp only [Py.whenHolds] at hwhen
    simp only [evalRuleInTime, Py.evalRule, Py.overBudget, Py.ruleHit, hwhen, Bool.false_eq_true,
      if_false]
    cases b with
    | false => rfl
    | true =>
      have hrule := hrule rfl
      simp only [portableRule, Bool.and_eq_true] at hrule
      obtain ⟨⟨hid, htags⟩, -⟩ := hrule
      have hruleTags : Py.ruleTags (es.lookup "tags")
          = .ok (Rust.stringItems (.object es) "tags") := ruleTags_eq htags
      have hruleId : Py.ruleId py (.object es) = Rust.stringField (.object es) "id" "unknown" :=
        strOr_eq (by simp) hid
      rw [hruleTags, hruleId]
      rfl
  | _ =>
    cases hwhen
    rfl

theorem py_tagRule_step {redisTags : List String}
    (hrule : tagRuleHits redisTags rule → portableTagRule py rule) (file' : String)
    (o' : PackOutcome) :
    pyTagRuleInTime py redisTags file' o' rule
      = .ok (if tagRuleHits redisTags rule then
          o'.record py.add (if file'.isEmpty then "unknown" else file')
            (if (Rust.stringField rule "id" "").isEmpty then "tagrule"
              else Rust.stringField rule "id" "")
            .tagRule (Rust.stringItems rule "tags") (Py.ruleScore py rule)
        else o') := by
  cases rule with
  | object es =>
    have hhits : Py.evaluateTagRuleWhen (es.lookup "any_tag") redisTags
        = tagRuleHits redisTags (.object es) := evaluateTagRuleWhen_eq redisTags
    simp only [pyTagRuleInTime, Py.evalTagRule, Py.overBudget, Py.tagRuleHit, hhits,
      Bool.false_eq_true, if_false]
    cases hhit : tagRuleHits redisTags (.object es) with
    | false => rfl
    | true =>
      have hrule := hrule hhit
      simp only [portableTagRule, Bool.and_eq_true] at hrule
      obtain ⟨⟨hid, htags⟩, -⟩ := hrule
      have hruleTags : Py.ruleTags (es.lookup "tags")
          = .ok (Rust.stringItems (.object es) "tags") := ruleTags_eq htags
      have hruleId : Py.tagRuleId py (.object es)
          = if (Rust.stringField (.object es) "id" "").isEmpty then "tagrule"
            else Rust.stringField (.object es) "id" "" := by
        unfold Py.tagRuleId Rust.stringField
        exact tagId_eq hid
      simp only [if_true, hruleTags, hruleId]
      rfl
  | _ => rfl

theorem rust_tagRule_step (host : Rust.Host) (hd : rule.distinctKeys) {redisTags : List String}
    (hany : portableAnyTag redisTags (rule.get? "any_tag")) (file : String) (o : PackOutcome) :
    rustTagRuleInTime host redisTags file o rule
      = .ok (if tagRuleHits redisTags rule then
          o.record host.add file
            (if (Rust.stringField rule "id" "").isEmpty then "tagrule"
              else Rust.stringField rule "id" "")
            .tagRule (Rust.stringItems rule "tags")
            (some (Rust.scoreDelta (rule.received host.eng.readF64)))
        else o) := by
  have hhits : (Rust.stringItems rule "any_tag").any redisTags.contains
      = tagRuleHits redisTags rule := anyTag_eq hany
  simp only [rustTagRuleInTime, Rust.evalTagRule, Rust.parseTagRule, Rust.stringField_received hd,
    stringItems_received hd, hhits, Bool.false_eq_true, if_false]
  split_ifs <;> rfl

section

variable {py : Py.Host} {dates : Rust.Dates} {clock : Nat → RuleKind → Nat → Bool}
  {o o' : PackOutcome} {hit : Prop}

theorem SameHits.record (hadd : AddLawful py.add) (h : SameHits hit o o')
    (hd : rule.distinctKeys)
    (hscore : portableScore py.eng.readF64 py.parseFloat (rule.get? "score_delta")) (hhit : hit)
    (file file' : String) (id : String) (kind : RuleKind) (tags : List String) :
    SameHits hit
      (o.record py.add file id kind tags (some (Rust.scoreDelta (rule.received py.eng.readF64))))
      (o'.record py.add file' id kind tags (Py.ruleScore py rule)) where
  hits := by
    show o.hits ++ [id] = o'.hits ++ [id]
    rw [h.hits]
  tags := by
    show o.tags ++ tags = o'.tags ++ tags
    rw [h.tags]
  delta := by
    show py.add o.delta (Rust.scoreDelta (rule.received py.eng.readF64))
      = (Py.ruleScore py rule).elim o'.delta (py.add o'.delta)
    rw [scoreDelta_received hd hscore, ← h.delta, score_eq hadd hscore h.sum]
  sum := hadd.sum o.delta _ h.sum
  anyHit := fun _ => hhit

/-- **One rule in both engines.** -/
theorem rule_step (hadd : AddLawful py.add) (hd : rule.distinctKeys)
    (hwhen : ConditionsAgree py features fmap rule)
    (hrule : Py.whenHolds py fmap rule = .ok true → portableRule py rule ∧ hit)
    (file file' : String) (h : SameHits hit o o') :
    ∃ t t', (ruleOf py.eng rule).elim (.ok o)
        (rustRuleInTime (rustHost py dates clock) features file o) = .ok t
      ∧ evalRuleInTime py fmap file' o' rule = .ok t' ∧ SameHits hit t t' := by
  obtain ⟨r, hparse, hpy⟩ := when_agree hd hwhen
  have hr : ruleOf py.eng rule = r := by
    rw [ruleOf, hparse]
    rfl
  rw [hr, py_rule_step (fun hb => (hrule (by rw [hpy, hb])).1) hpy]
  cases r with
  | none => exact ⟨o, o', rfl, rfl, h⟩
  | some r =>
    cases hmatch : Rust.ruleWhenMatches py.eng features r with
    | false =>
      refine ⟨o, o', ?_, ?_, h⟩
      · simp [rustRuleInTime, Rust.evalRule, rustHost, hmatch]
      · rw [elim_some, hmatch]
        rfl
    | true =>
      obtain ⟨hportable, hhit⟩ := hrule (by rw [hpy, elim_some, hmatch])
      have hscore : portableScore py.eng.readF64 py.parseFloat (rule.get? "score_delta") := by
        simp only [portableRule, Bool.and_eq_true] at hportable
        exact hportable.2
      obtain ⟨hid', htags', hscore'⟩ := parseRule_fields hparse
      rw [Rust.stringField_received hd] at hid'
      rw [stringItems_received hd] at htags'
      have hrecord := h.record hadd hd hscore hhit file
        (if file'.isEmpty then "unknown" else file') (Rust.stringField rule "id" "unknown") .rule
        (Rust.stringItems rule "tags")
      refine ⟨_, _, ?_, ?_, hrecord⟩
      · simp [rustRuleInTime, Rust.evalRule, rustHost, hmatch, hid', htags', hscore']
      · rw [elim_some, hmatch]
        rfl

/-- **One tag rule in both engines.** -/
theorem tagRule_step (hadd : AddLawful py.add) (hd : rule.distinctKeys) {redisTags : List String}
    (hany : portableAnyTag redisTags (rule.get? "any_tag"))
    (hrule : tagRuleHits redisTags rule → portableTagRule py rule ∧ hit)
    (file file' : String) (h : SameHits hit o o') :
    ∃ t t', rustTagRuleInTime (rustHost py dates clock) redisTags file o rule = .ok t
      ∧ pyTagRuleInTime py redisTags file' o' rule = .ok t' ∧ SameHits hit t t' := by
  rw [py_tagRule_step (fun hhit => (hrule hhit).1), rust_tagRule_step _ hd hany]
  cases hhits : tagRuleHits redisTags rule with
  | false => exact ⟨o, o', rfl, rfl, h⟩
  | true =>
    obtain ⟨hportable, hhit⟩ := hrule hhits
    simp only [portableTagRule, Bool.and_eq_true] at hportable
    exact ⟨_, _, rfl, rfl, h.record hadd hd hportable.2 hhit file _ _ .tagRule _⟩

end

/-! ## Packs -/

def inTime (_ : Nat) (_ : RuleKind) (_ : Nat) : Bool := false

/-- A pack as Rust receives it, with the rules that it can read. -/
def packOf (eng : Engines) (dates : Rust.Dates) (v : Value) : Rust.ParsedPack :=
  packWith dates (v.received eng.readF64) ((Rust.packRules v "rules").filterMap (ruleOf eng))

theorem parsePack_eq (dates : Rust.Dates) (excludeShadow : Bool) (hd : v.distinctKeys)
    (h : Rust.eligible excludeShadow (v.received eng.readF64) →
      ∀ rule ∈ Rust.packRules v "rules", ∃ r,
        Rust.parseRule eng (rule.received eng.readF64) = .ok r) :
    Rust.parsePack eng dates excludeShadow (v.received eng.readF64)
      = .ok (if Rust.eligible excludeShadow (v.received eng.readF64) then some (packOf eng dates v)
        else none) := by
  unfold Rust.parsePack
  split_ifs with heligible
  · have hrules : collect (Rust.parseRule eng) (Rust.packRules (v.received eng.readF64) "rules")
        = .ok ((Rust.packRules v "rules").filterMap (ruleOf eng)) := by
      rw [packRules_received hd, collect_map]
      apply collect_eq_filterMap
      intro rule hmem
      obtain ⟨r, hr⟩ := h heligible rule hmem
      rw [ruleOf, hr]
      rfl
    rw [hrules]
    rfl
  · rfl

/-- Some rule or tag rule of a pack hits. -/
def Hits (py : Py.Host) (fmap : KeyMap Value) (redisTags : List String) (v : Value) : Prop :=
  (∃ rule ∈ Rust.packRules v "rules", Py.whenHolds py fmap rule = .ok true)
    ∨ ∃ rule ∈ Rust.packRules v "tag_rules", tagRuleHits redisTags rule = true

/-- The rules of a pack that hit are read alike, and its file if there is one. -/
structure PortableRules (py : Py.Host) (fmap : KeyMap Value) (redisTags : List String)
    (v : Value) : Prop where
  rules : ∀ rule ∈ Rust.packRules v "rules", Py.whenHolds py fmap rule = .ok true →
    portableRule py rule = true
  anyTags : ∀ rule ∈ Rust.packRules v "tag_rules",
    portableAnyTag redisTags (rule.get? "any_tag") = true
  tagRules : ∀ rule ∈ Rust.packRules v "tag_rules", tagRuleHits redisTags rule = true →
    portableTagRule py rule = true
  file : Hits py fmap redisTags v → portableText true (v.get? "_source_file") = true

section

variable {py : Py.Host} (dates : Rust.Dates) {features fmap : KeyMap Value}
  (redisTags : List String)

theorem rust_evaluatePack_eq (py : Py.Host) (features : KeyMap Value) (hd : v.distinctKeys) :
    Rust.evaluatePack (rustHost py dates inTime) features redisTags (inTime 0)
        (packOf py.eng dates v)
      = (Rust.packRules v "rules").foldlM (fun o rule => (ruleOf py.eng rule).elim (.ok o)
          (rustRuleInTime (rustHost py dates inTime) features
            (packOf py.eng dates v).sourceFile o)) .empty
        >>= fun o => (Rust.packRules v "tag_rules").foldlM
          (rustTagRuleInTime (rustHost py dates inTime) redisTags
            (packOf py.eng dates v).sourceFile) o := by
  have htake : (packOf py.eng dates v).tagRules.take maxRulesPerPack
      = (Rust.packRules v "tag_rules").map
        (fun rule => Rust.parseTagRule (rule.received py.eng.readF64)) := by
    show ((Rust.packRules (v.received py.eng.readF64) "tag_rules").map
      Rust.parseTagRule).take maxRulesPerPack = _
    rw [packRules_received hd, List.map_map, ← map_take, Rust.packRules, take_take, Nat.min_self]
    rfl
  rw [Rust.evaluatePack, htake]
  -- no step reads its position
  refine congrArg₂ (· >>= ·) (Eq.trans ?_ (foldlM_filterMap_elim _ _)) (funext fun o => ?_)
  · exact foldlM_zipIdx (fun _ _ _ => rfl) _ _ _
  · rw [zipIdx_map, foldlM_map]
    exact foldlM_zipIdx (fun _ _ _ => rfl) _ _ _

theorem py_evaluateRules_eq (py : Py.Host) (fmap : KeyMap Value) (v : Value) :
    Py.evaluateRules py fmap redisTags (inTime 0) v
      = (Py.packRules v "rules").foldlM
          (evalRuleInTime py fmap (Py.strOr py.eng.py (v.get? "_source_file") "")) .empty
        >>= fun o => (Py.packRules v "tag_rules").foldlM
          (pyTagRuleInTime py redisTags (Py.strOr py.eng.py (v.get? "_source_file") "")) o := by
  refine congrArg₂ (· >>= ·) ?_ (funext fun o => ?_)
  · exact foldlM_zipIdx (fun _ _ _ => rfl) _ _ _
  · exact foldlM_zipIdx (fun _ _ _ => rfl) _ _ _

/-- **One pack in both engines**: two pairs of loops in lock step. -/
theorem pack_agree (hadd : AddLawful py.add) (hd : v.distinctKeys)
    (hconditions : ∀ rule ∈ Rust.packRules v "rules", ConditionsAgree py features fmap rule)
    (h : PortableRules py fmap redisTags v) :
    ∃ o o', Rust.evaluatePack (rustHost py dates inTime) features redisTags (inTime 0)
        (packOf py.eng dates v) = .ok o
      ∧ Py.evaluateRules py fmap redisTags (inTime 0) v = .ok o'
      ∧ SameHits (Hits py fmap redisTags v) o o' := by
  have hstart : SameHits (Hits py fmap redisTags v) .empty .empty :=
    ⟨rfl, rfl, rfl, by decide, fun h => absurd rfl h⟩
  obtain ⟨o, o', hrust, hpy, hsame⟩ := foldlM_lockstep (R := SameHits (Hits py fmap redisTags v))
    (fun rule hmem s s' hs => rule_step hadd (distinctKeys_rule hd hmem) (hconditions rule hmem)
      (fun hhit => ⟨h.rules rule hmem hhit, .inl ⟨rule, hmem, hhit⟩⟩)
      (packOf py.eng dates v).sourceFile (Py.strOr py.eng.py (v.get? "_source_file") "") hs) hstart
  obtain ⟨t, t', htag, htag', hend⟩ := foldlM_lockstep (R := SameHits (Hits py fmap redisTags v))
    (fun rule hmem s s' hs => tagRule_step hadd (distinctKeys_rule hd hmem) (h.anyTags rule hmem)
      (fun hhit => ⟨h.tagRules rule hmem hhit, .inr ⟨rule, hmem, hhit⟩⟩)
      (packOf py.eng dates v).sourceFile (Py.strOr py.eng.py (v.get? "_source_file") "") hs) hsame
  refine ⟨t, t', ?_, ?_, hend⟩
  · rw [rust_evaluatePack_eq dates redisTags py features hd]
    exact (congrArg (· >>= _) hrust).trans htag
  · rw [py_evaluateRules_eq]
    exact (congrArg (· >>= _) hpy).trans htag'

end

/-! ## Eligible packs -/

theorem number_is_one {n : Number} (h : portableVersion (some (.number n))) :
    (n.asU64 == some 1) = n.asF64.any (fun x => x.eq (ofNat 1)) := by
  cases n with
  | posInt n =>
    rw [Number.asF64, any_some, Bool.eq_iff_iff, ofNat_eq_one_iff n.toNat_lt,
      Number.asU64, beq_iff_eq, some.injEq]
  | negInt k =>
    rw [Number.asF64, any_some, negSucc_ne_one k.isLt]
    rfl
  | float x =>
    have hone : x.val.eq (ofNat 1) = false := by simpa [portableVersion] using h
    rw [Number.asF64, any_some, hone]
    rfl

/-- A pack that both leave out by its mode, whatever its version. -/
def modeOut (excludeShadow : Bool) (v : Value) : Bool :=
  Rust.stringField v "mode" "active" == "disabled"
    || (excludeShadow && Rust.stringField v "mode" "active" == "shadow")

theorem version_eq {read : FiniteF64 → FiniteF64} (hd : v.distinctKeys)
    (h : portableVersion (v.get? "version")) :
    Rust.packVersionIsV1 (v.received read) = Py.versionIsOne v := by
  unfold Rust.packVersionIsV1 Py.versionIsOne
  rw [get?_received read hd]
  rcases hv : v.get? "version" with _ | (_ | b | n | _ | _ | _)
  case some.number =>
    rw [hv] at h
    cases n <;> exact number_is_one h
  case some.bool =>
    have hb : b = false := by simpa [hv, portableVersion] using h
    rw [hb]
    rfl
  all_goals rfl

theorem eligible_eq {read : FiniteF64 → FiniteF64} (excludeShadow : Bool) (hd : v.distinctKeys)
    (h : modeOut excludeShadow v = false → portableVersion (v.get? "version")) :
    Rust.eligible excludeShadow (v.received read) = Py.eligible excludeShadow v := by
  have hrust : Rust.eligible excludeShadow (v.received read)
      = (Rust.packVersionIsV1 (v.received read) && !modeOut excludeShadow v) := by
    simp [Rust.eligible, modeOut, Rust.stringField_received hd, bne, Bool.and_assoc]
  have hpy : Py.eligible excludeShadow v
      = (Py.versionIsOne v && !modeOut excludeShadow v) := by
    unfold Py.eligible modeOut Rust.stringField
    rcases v.get? "mode" with _ | (_ | _ | _ | _ | _ | _) <;>
      simp [isString, bne, Bool.and_assoc]
  rw [hrust, hpy]
  cases hout : modeOut excludeShadow v with
  | true => simp
  | false => rw [version_eq hd (h hout)]

/-- What the two evaluators read alike in a pack: its version, unless its mode leaves it out; its
conditions and its gate, if it is not left out; and its rules, if it applies. -/
structure PortablePack (py : Py.Host) (dates : Rust.Dates) (req : Request) (excludeShadow : Bool)
    (features fmap : KeyMap Value) (redisTags : List String) (v : Value) : Prop where
  isObject : ∃ es, v = .object es
  version : modeOut excludeShadow v = false → portableVersion (v.get? "version") = true
  conditions : Py.eligible excludeShadow v = true →
    ∀ rule ∈ Rust.packRules v "rules", ConditionsAgree py features fmap rule
  date : Py.eligible excludeShadow v = true →
    EvaluationMode.ofName req.evaluationMode ≠ .simulation →
    Py.overflows py.dates (v.get? "effective_at") = false
  gate : Py.eligible excludeShadow v = true →
    GatesShared py.eng dates py.dates py.parseFloat py.sha256 py.now
      (orDefault (trim req.tenantId)) (orDefault (trim req.entityId))
      (orDefault (strip req.tenantId)) (orDefault (strip req.entityId))
      (.ofName req.evaluationMode) v
  rules : Py.eligible excludeShadow v = true →
    Py.packShouldApply py.eng.py py.dates py.parseFloat py.sha256 py.now
      (orDefault (strip req.tenantId)) (orDefault (strip req.entityId))
      (.ofName req.evaluationMode) v = true →
    PortableRules py fmap redisTags v

def rustPack (eng : Engines) (dates : Rust.Dates) (excludeShadow : Bool) (v : Value) :
    Option Rust.ParsedPack :=
  if Rust.eligible excludeShadow (v.received eng.readF64) then some (packOf eng dates v) else none

def pyPack (excludeShadow : Bool) (v : Value) : Option Value :=
  if Py.eligible excludeShadow v then some v else none

section

variable (py : Py.Host) (dates : Rust.Dates) (req : Request) (excludeShadow : Bool)
  (features fmap : KeyMap Value) (redisTags : List String) (out : Outcome)

/-- One pack in Rust, before a clock that does not run out. -/
def rustPackInTime (p : Rust.ParsedPack) : Except Rust.EngineError Outcome :=
  Rust.slicePack (rustHost py dates inTime) features redisTags (orDefault (trim req.tenantId))
    (orDefault (trim req.entityId)) (.ofName req.evaluationMode) out (p, 0)

def pyPackInTime (v : Value) : Except Py.PyError Outcome :=
  Py.packStep py fmap redisTags (orDefault (strip req.tenantId)) (orDefault (strip req.entityId))
    (.ofName req.evaluationMode) out (v, 0)

end

/-- The results of two evaluations, apart from the telemetry. -/
structure SameResult (out out' : Outcome) : Prop where
  ruleHits : out.ruleHits = out'.ruleHits
  tags : out.tags = out'.tags
  scoreDelta : out.scoreDelta = out'.scoreDelta
  contributing : out.contributingPackFiles = out'.contributingPackFiles
  sum : isSum out.scoreDelta = true

section

variable {py : Py.Host} {dates : Rust.Dates} {features fmap : KeyMap Value}
  {redisTags : List String} {req : Request} {excludeShadow : Bool} {out out' : Outcome}

theorem SameResult.extend (hadd : AddLawful py.add) (h : SameResult out out') {hit : Prop}
    {o o' : PackOutcome} (ho : SameHits hit o o') {file file' : String}
    (hfile : hit → file' = file) :
    SameResult (out.extend py.add file o) (out'.extend py.add file' o') where
  ruleHits := by
    show out.ruleHits ++ o.hits = out'.ruleHits ++ o'.hits
    rw [h.ruleHits, ho.hits]
  tags := by
    show out.tags ++ o.tags = out'.tags ++ o'.tags
    rw [h.tags, ho.tags]
  scoreDelta := by
    show py.add out.scoreDelta o.delta = py.add out'.scoreDelta o'.delta
    rw [h.scoreDelta, ho.delta]
  contributing := by
    by_cases hnone : o.hits = []
    · simp [Outcome.extend, ← ho.hits, hnone, h.contributing]
    · simp [Outcome.extend, ← ho.hits, hnone, h.contributing, hfile (ho.anyHit hnone)]
  sum := hadd.sum out.scoreDelta o.delta h.sum

/-- The empty result of a pack that does not apply changes nothing. -/
theorem SameResult.extend_empty (hadd : AddLawful py.add) (h : SameResult out out')
    (file : String) : SameResult out (out'.extend py.add file .empty) where
  ruleHits := by simp [Outcome.extend, PackOutcome.empty, h.ruleHits]
  tags := by simp [Outcome.extend, PackOutcome.empty, h.tags]
  scoreDelta := by
    have hsum : isSum out'.scoreDelta := by rw [← h.scoreDelta, h.sum]
    show out.scoreDelta = py.add out'.scoreDelta (ofNat 0)
    rw [hadd.zero _ _ hsum (by decide), h.scoreDelta]
  contributing := by simp [Outcome.extend, PackOutcome.empty, h.contributing]
  sum := h.sum

/-- **One pack of the list in both engines.** -/
theorem pack_step (hadd : AddLawful py.add) (hclock : ∀ i k j, py.clock i k j = false)
    (hd : v.distinctKeys)
    (hpack : PortablePack py dates req excludeShadow features fmap redisTags v)
    (h : SameResult out out') : ∃ t t', (rustPack py.eng dates excludeShadow v).elim (.ok out)
        (rustPackInTime py dates req features redisTags out) = .ok t
      ∧ (pyPack excludeShadow v).elim (.ok out') (pyPackInTime py req fmap redisTags out') = .ok t'
      ∧ SameResult t t' := by
  rw [rustPack, pyPack, eligible_eq excludeShadow hd hpack.version]
  cases heligible : Py.eligible excludeShadow v with
  | false => exact ⟨out, out', rfl, rfl, h⟩
  | true =>
    -- from here on the pack is in both lists, and the gates decide whether its rules are read
    have hgate := (packShouldApply_eq_iff hd).mpr (hpack.gate heligible)
    have hpyClock : py.clock 0 = inTime 0 := by
      funext k j
      exact hclock 0 k j
    have hrustStep : rustPackInTime py dates req features redisTags out (packOf py.eng dates v)
        = if Rust.packShouldApply py.sha256 py.now (orDefault (trim req.tenantId))
            (orDefault (trim req.entityId)) (.ofName req.evaluationMode)
            (Rust.packGate dates (v.received py.eng.readF64)) then
            (Rust.evaluatePack (rustHost py dates inTime) features redisTags (inTime 0)
              (packOf py.eng dates v)).map (out.extend py.add (packOf py.eng dates v).sourceFile)
          else .ok out := rfl
    simp only [if_true, elim_some, hrustStep, pyPackInTime, Py.packStep, Py.evaluateOnePack,
      hpyClock, hgate]
    cases happly : Py.packShouldApply py.eng.py py.dates py.parseFloat py.sha256 py.now
        (orDefault (strip req.tenantId)) (orDefault (strip req.entityId))
        (.ofName req.evaluationMode) v with
    -- Rust skips the pack, Python adds an empty result
    | false => exact ⟨out, _, rfl, rfl, h.extend_empty hadd _⟩
    | true =>
      have hrules := hpack.rules heligible happly
      obtain ⟨o, o', hrust, hpy, hsame⟩ :=
        pack_agree dates redisTags hadd hd (hpack.conditions heligible) hrules
      have hfile : Hits py fmap redisTags v → Py.strOr py.eng.py (v.get? "_source_file") ""
          = (packOf py.eng dates v).sourceFile := fun hhit =>
        (strOr_eq (fun _ => rfl) (hrules.file hhit)).trans
          (Rust.stringField_received hd "_source_file" "").symm
      refine ⟨_, _, ?_, ?_, h.extend hadd hsame hfile⟩
      · rw [hrust]
        rfl
      · rw [hpy]
        rfl

end

/-! ## Contributing packs -/

theorem mem_dedupNeighbours (l : List String) (s : String) :
    s ∈ Rust.dedupNeighbours l ↔ s ∈ l := by
  fun_induction Rust.dedupNeighbours l with
  | case1 => rfl
  | case2 a => rfl
  | case3 t ts ih =>
    rw [ih]
    simp
  | case4 a t ts hne ih => rw [mem_cons, mem_cons, ih]

theorem dedupNeighbours_sublist (l : List String) : (Rust.dedupNeighbours l).Sublist l := by
  fun_induction Rust.dedupNeighbours l with
  | case1 => exact Sublist.refl _
  | case2 a => exact Sublist.refl _
  | case3 t ts ih => exact ih.cons _
  | case4 a t ts hne ih => exact ih.cons_cons _

theorem nodup_dedupNeighbours {l : List String}
    (h : l.Pairwise (fun a b => byteLe a b)) : (Rust.dedupNeighbours l).Nodup := by
  fun_induction Rust.dedupNeighbours l with
  | case1 => exact nodup_nil
  | case2 a => exact nodup_singleton a
  | case3 t ts ih => exact ih (pairwise_cons.mp h).2
  | case4 a t ts hne ih =>
    obtain ⟨hhead, htail⟩ := pairwise_cons.mp h
    refine nodup_cons.mpr ⟨?_, ih htail⟩
    intro hmem
    rw [mem_dedupNeighbours, mem_cons] at hmem
    obtain hmem | hmem := hmem
    · exact hne hmem
    · exact hne (byteLe_antisymm (hhead t (by simp)) ((pairwise_cons.mp htail).1 a hmem))

/-- **Sorting and dropping neighbours is dropping duplicates and sorting.** -/
theorem contributing_eq (l : List String) :
    Rust.dedupNeighbours (sortByBytes l) = sortByCodePoints l.dedup := by
  have hsorted := sortByBytes_sorted l
  have hperm : (Rust.dedupNeighbours (sortByBytes l)).Perm (sortByBytes l.dedup) := by
    refine (Perm.trans ?_ (sortByBytes_perm l.dedup).symm)
    rw [perm_ext_iff_of_nodup (nodup_dedupNeighbours hsorted) (nodup_dedup l)]
    intro s
    rw [mem_dedupNeighbours, (sortByBytes_perm l).mem_iff, mem_dedup]
  rw [sortByCodePoints_eq]
  exact hperm.eq_of_pairwise (fun _ _ _ _ => byteLe_antisymm)
    (hsorted.sublist (dedupNeighbours_sublist _)) (sortByBytes_sorted l.dedup)

/-! ## Evaluations -/

/-- The features of the rules in Python: with the custom signals of the packs that are not left
out. -/
def pyFeatures (py : Py.Host) (req : Request) (excludeShadow : Bool) (packs : List Document)
    (features : KeyMap Value) : KeyMap Value :=
  runFeatures py req features (packs.filterMap (fun d => pyPack excludeShadow d.value))

section

variable {packs : List Document} {dates : Rust.Dates} {req : Request} {excludeShadow : Bool}
  {redisTags : List String}

theorem rust_evaluatePacks_eq {tags : List String} {signalTags : Option (List String)}
    (h : ∀ d ∈ packs, PortablePack py dates req excludeShadow features fmap tags d.value) :
    Rust.evaluatePacks (rustHost py dates inTime) req excludeShadow
        (packs.map (fun d => d.value.received py.eng.readF64)) features redisTags signalTags
      = (packs.foldlM (fun out d => (rustPack py.eng dates excludeShadow d.value).elim (.ok out)
          (rustPackInTime py dates req features (Rust.mergeTagsSignal redisTags signalTags) out))
          .empty).map
        (fun out => { out with
          contributingPackFiles :=
            Rust.dedupNeighbours (sortByBytes out.contributingPackFiles) }) := by
  have hparse : Rust.parseActivePacks py.eng dates excludeShadow
        (packs.map (fun d => d.value.received py.eng.readF64))
      = .ok (packs.filterMap (fun d => rustPack py.eng dates excludeShadow d.value)) := by
    rw [Rust.parseActivePacks, collect_map]
    apply collect_eq_filterMap
    intro d hmem
    apply parsePack_eq dates excludeShadow d.distinct
    intro heligible rule hrule
    rw [eligible_eq excludeShadow d.distinct (h d hmem).version] at heligible
    obtain ⟨r, hr, -⟩ := when_agree (distinctKeys_rule d.distinct hrule)
      ((h d hmem).conditions heligible rule hrule)
    exact ⟨r, hr⟩
  show (Rust.parseActivePacks py.eng dates excludeShadow _ >>= _) = _
  rw [hparse]
  show Rust.evaluateParsedSlice _ _ _ _ _ _ _ = _
  rw [Rust.evaluateParsedSlice]
  refine congrArg (Except.map _) (Eq.trans ?_ (foldlM_filterMap_elim _ _))
  exact foldlM_zipIdx (fun _ _ _ => rfl) _ _ _

theorem py_evaluatePacks_eq (hclock : ∀ i k j, py.clock i k j = false)
    (features : KeyMap Value) (redisTags : List String)
    (h : ∀ d ∈ packs, ∃ es, d.value = object es) :
    Py.evaluatePacksPython py req excludeShadow (packs.map Document.value) features redisTags
      = (packs.foldlM (fun out d => (pyPack excludeShadow d.value).elim (.ok out)
          (pyPackInTime py req (pyFeatures py req excludeShadow packs features) redisTags out))
          .empty).map
        (fun out => { out with
          contributingPackFiles := sortByCodePoints out.contributingPackFiles.dedup }) := by
  have heligible : Py.iterEligiblePacks excludeShadow (packs.map Document.value)
      = .ok (packs.filterMap (fun d => pyPack excludeShadow d.value)) := by
    rw [Py.iterEligiblePacks, collect_map]
    apply collect_eq_filterMap
    intro d hmem
    obtain ⟨es, hes⟩ := h d hmem
    rw [hes]
    rfl
  rw [evaluatePacksPython_eq heligible, ← pyFeatures]
  refine congrArg (Except.map _) (Eq.trans ?_ (foldlM_filterMap_elim _ _))
  refine foldlM_zipIdx (fun out v i => ?_) _ _ _
  have hsame : py.clock i = py.clock 0 := by
    funext k j
    rw [hclock, hclock]
  simp [pyPackInTime, Py.packStep, hsame]

end

namespace Reference

def addToZero (x y : F64) : F64 :=
  if y.magnitude = 0 then x else if x = F64.ofNat 0 ∧ y.isFinite then y else x

theorem addToZero_lawful : AddLawful addToZero where
  zero := fun x y _ hy => if_pos hy
  sum := by
    intro x y hx
    unfold addToZero
    split_ifs with hy hzero
    · exact hx
    · simp [isSum, isNegZero, isSignalling, isNaN_of_isFinite hzero.2, hy]
    · exact hx

/-- A host with the dates of `datetime`, where `float` reads one string. -/
def parityHost : Py.Host :=
  { pyHost with
    dates := Py.datetime noDecimal
    parseFloat := fun s => if s = "10" then some (F64.ofNat 10) else none
    add := addToZero }

def geoPack : Document where
  value := .object [("_source_file", .string "geo.json"), ("rules", .array [geoRule]),
    ("tag_rules", .array [.object [("id", .string "vip"), ("any_tag", .array [.string "vip"]),
      ("score_delta", .number (.posInt 0))]])]
  distinct := by decide +kernel

/-- A pack that is left out, with an identifier that the engines would not read alike. -/
def disabledPack : Document where
  value := .object [("mode", .string "disabled"),
    ("rules", .array [.object [("id", .number (.posInt 7))]])]
  distinct := by decide +kernel

/-- A rule that hits in `country`, with a number for its identifier and a string for its score. -/
def loosePack : Document where
  value := .object [("_source_file", .string "geo.json"), ("rules", .array [
    .object [("id", .number (.posInt 7)),
      ("when", .array [.object [("field", .string "country"), ("value", .string "XX")]]),
      ("score_delta", .string "10")]])]
  distinct := by decide +kernel

end Reference

open Reference

end Tarka.Rules
