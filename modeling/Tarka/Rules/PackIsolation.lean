import Tarka.Rules.AstParity
import Tarka.Rules.PackPython

/-! # What one bad rule does to the others

A rule that contributes nothing is skipped, or it ends the evaluation of every pack. A `Slot` is a
place for a rule in a list of packs; a rule is put there and the result is compared with the one
without it. Only the first rules of a pack are read, and only those of packs that are not left out.

* `Rust.rejectsRule`: the rules that end the parsing, by their tree or by a pattern. The result
  stays exactly if the rule is not one of them, or is not read (`rust_with_iff`).
* `Py.raisesRule`: the rules that raise, by a field or by their tags. The result stays exactly if
  the rule is not one of them, or is not evaluated (`py_with_iff`). -/

namespace Tarka.Json

namespace Value

/-- The value with its entry `rules` replaced. -/
def setRules (v : Value) (rules : List Value) : Value :=
  match v with
  | object es => object (es.map (fun e => if e.1 = "rules" then ("rules", array rules) else e))
  | v => v

theorem lookup_setRules (rules : List Value) (k : String) (es : List (String × Value)) :
    (es.map (fun e => if e.1 = "rules" then ("rules", array rules) else e)).lookup k
      = if k = "rules" then (es.lookup k).map (fun _ => array rules) else es.lookup k := by
  induction es with
  | nil => simp
  | cons e es ih =>
    obtain ⟨k', v⟩ := e
    rw [List.map_cons, List.lookup_cons, List.lookup_cons, ih]
    by_cases hk' : k' = "rules"
    · by_cases hk : k = "rules"
      · simp [hk, hk']
      · have hne : (k == "rules") = false := beq_false_of_ne hk
        simp [hk, hk', hne]
    · by_cases hk : k = "rules"
      · have hne : ("rules" == k') = false := beq_false_of_ne (Ne.symm hk')
        simp [hk, hk', hne]
      · simp [hk, hk']

theorem get?_setRules_ne (v : Value) (rules : List Value) {k : String} (hk : k ≠ "rules") :
    (v.setRules rules).get? k = v.get? k := by
  cases v with
  | object es =>
    show (es.map _).lookup k = es.lookup k
    rw [lookup_setRules, if_neg hk]
  | _ => rfl

theorem get?_setRules {v : Value} (rules : List Value) (h : (v.get? "rules").isSome) :
    (v.setRules rules).get? "rules" = some (array rules) := by
  cases v with
  | object es =>
    change (es.lookup "rules").isSome = true at h
    obtain ⟨w, hw⟩ := Option.isSome_iff_exists.mp h
    show (es.map _).lookup "rules" = some (array rules)
    rw [lookup_setRules, hw]
    rfl
  | _ => cases h

end Value

end Tarka.Json

namespace Tarka.Rules

open Tarka.Lib Tarka.Json Value

variable {v : Value}

/-- A place for one more rule in one of the packs. -/
structure Slot where
  before : List Value
  pack : Value
  after : List Value
  pre : List Value
  post : List Value
  hasRules : (pack.get? "rules").isSome = true

namespace Slot

def packs (s : Slot) (rules : List Value) : List Value :=
  s.before ++ s.pack.setRules rules :: s.after

def without (s : Slot) : List Value := s.packs (s.pre ++ s.post)

def with_ (s : Slot) (r : Value) : List Value := s.packs (s.pre ++ r :: s.post)

/-- The place is among those that are read. -/
def inReach (s : Slot) : Bool := decide (s.pre.length < maxRulesPerPack)

/-- With one more rule, none loses its place. -/
def Room (s : Slot) : Prop := s.pre.length + s.post.length < maxRulesPerPack

variable {s : Slot}

theorem take_without (h : s.Room) :
    (s.pre ++ s.post).take maxRulesPerPack = s.pre ++ s.post := by
  unfold Room at h
  apply List.take_of_length_le
  rw [List.length_append]
  omega

theorem take_with (h : s.Room) (r : Value) :
    (s.pre ++ r :: s.post).take maxRulesPerPack = s.pre ++ r :: s.post := by
  unfold Room at h
  apply List.take_of_length_le
  rw [List.length_append, List.length_cons]
  omega

theorem take_out_of_reach (h : s.inReach = false) (r : Value) :
    (s.pre ++ r :: s.post).take maxRulesPerPack = (s.pre ++ s.post).take maxRulesPerPack := by
  have hlen : maxRulesPerPack ≤ s.pre.length := by simpa [inReach] using h
  rw [List.take_append_of_le_length hlen, List.take_append_of_le_length hlen]

end Slot

/-! ## Rust -/

namespace Rust

def fieldOk (c : Value) : Bool :=
  !(stringField c "field" "").isEmpty && decide (byteLen (stringField c "field" "") ≤ maxFieldLen)

def patternOk (eng : Engines) : Value → Bool
  | .string pattern => !pattern.isEmpty && decide (byteLen pattern ≤ maxRegexPatternLen)
      && (eng.regexNew (buildSafeRegexPattern pattern)).toOption.isSome
  | _ => false

/-- A condition that needs no expression, or whose pattern compiles. -/
def regexOk (eng : Engines) (c : Value) : Bool :=
  stringField c "op" "eq" != "regex" || patternOk eng ((c.get? "value").getD .null)

def rejectsConditions (eng : Engines) : List Value → Bool
  | [] => false
  | c :: cs => fieldOk c && (!regexOk eng c || rejectsConditions eng cs)

/-- A rule with a tree that the strict parser rejects, or with a bad pattern among its
conditions. -/
def rejectsRule (eng : Engines) (rule : Value) : Bool :=
  let whenArr := ((rule.get? "when").bind isArray).getD []
  let rawAst := (rule.get? "when_ast").getD .null
  if rawAst.isNull then
    decide (whenArr.length ≤ maxConditionsPerRule) && rejectsConditions eng whenArr
  else
    whenArr.isEmpty
      && (parseAstStrictInRule eng (stringField rule "id" "unknown") rawAst
        "when_ast").toOption.isNone

end Rust

section

variable (eng : Engines) (ruleId : String)

theorem compileRegexForRule_cases (pattern : String) :
    (Rust.patternOk eng (.string pattern) = false
        ∧ ∃ e, Rust.compileRegexForRule eng pattern ruleId = .error e)
      ∨ (Rust.patternOk eng (.string pattern)
        ∧ ∃ re, Rust.compileRegexForRule eng pattern ruleId = .ok re) := by
  unfold Rust.compileRegexForRule Rust.patternOk
  by_cases hempty : pattern.isEmpty = true
  · exact .inl ⟨by simp [hempty], _, if_pos (by simp [hempty])⟩
  · by_cases hlen : maxRegexPatternLen < byteLen pattern
    · exact .inl ⟨by simp [hlen], _, if_pos (by simp [hlen])⟩
    · rw [if_neg (by simp [hempty, hlen])]
      have hle : byteLen pattern ≤ maxRegexPatternLen := by omega
      cases hnew : eng.regexNew (Rust.buildSafeRegexPattern pattern) with
      | error e => exact Or.inl ⟨by simp [hnew, Except.toOption], _, rfl⟩
      | ok re => exact Or.inr ⟨by simpa [hle, hnew, Except.toOption] using hempty, _, rfl⟩

theorem parseCondition_cases (c : Value) :
    (Rust.fieldOk c = false ∧ Rust.parseCondition eng ruleId (Rust.rawOf c) = .ok none)
      ∨ (Rust.fieldOk c ∧ Rust.regexOk eng c = false
        ∧ ∃ e, Rust.parseCondition eng ruleId (Rust.rawOf c) = .error e)
      ∨ (Rust.fieldOk c ∧ Rust.regexOk eng c
        ∧ ∃ cond, Rust.parseCondition eng ruleId (Rust.rawOf c) = .ok (some cond)) := by
  unfold Rust.parseCondition Rust.regexOk Rust.fieldOk Rust.rawOf Rust.stringField
  by_cases hempty : (((c.get? "field").bind isString).getD "").isEmpty = true
  · exact .inl ⟨by simp [hempty], if_pos (by simp [hempty])⟩
  by_cases hlong : maxFieldLen < byteLen (((c.get? "field").bind isString).getD "")
  · exact .inl ⟨by simp [hlong], if_pos (by simp [hlong])⟩
  have hle : byteLen (((c.get? "field").bind isString).getD "") ≤ maxFieldLen := by omega
  simp only [hempty, hlong, hle]
  by_cases hop : ((c.get? "op").bind isString).getD "eq" = "regex"
  · simp only [hop]
    cases (c.get? "value").getD .null with
    | string pattern =>
      rcases compileRegexForRule_cases eng ruleId pattern with
        ⟨hbad, e, he⟩ | ⟨hok, re, hre⟩
      · simp [hbad, he, Except.map]
      · simp [hok, hre, Except.map]
    | _ => simp [Rust.patternOk]
  · simp [hop]

theorem parseConditions_error_iff (cs : List Value) :
    (∃ e, Rust.parseConditions eng ruleId cs = .error e)
      ↔ Rust.rejectsConditions eng cs = true := by
  induction cs with
  | nil => simp [Rust.parseConditions, Rust.rejectsConditions]
  | cons c cs ih =>
    rw [Rust.parseConditions, Rust.rejectsConditions]
    rcases parseCondition_cases eng ruleId c with ⟨hfield, hparse⟩ | ⟨hfield, hregex, e, hparse⟩
      | ⟨hfield, hregex, cond, hparse⟩
    · simp [hfield, hparse]
    · simp [hfield, hregex, hparse]
    · simp only [hfield, hregex, hparse, Bool.true_and, Bool.not_true, Bool.false_or, ← ih]
      cases Rust.parseConditions eng ruleId cs <;> simp [Except.map]

/-- **The rules that end the parsing.** -/
theorem parseRule_error_iff (r : Value) :
    (∃ e, Rust.parseRule eng r = .error e) ↔ Rust.rejectsRule eng r = true := by
  unfold Rust.parseRule Rust.rejectsRule
  by_cases hnull : ((r.get? "when_ast").getD .null).isNull = true
  · simp only [hnull, Bool.not_true, Bool.and_false, Bool.false_eq_true, if_false, if_true]
    by_cases hmany : maxConditionsPerRule < (((r.get? "when").bind isArray).getD []).length
    · simp [hmany]
    · have hle : (((r.get? "when").bind isArray).getD []).length ≤ maxConditionsPerRule := by omega
      simp only [hmany, hle, decide_true, decide_false, Bool.or_false, Bool.true_and]
      rw [← parseConditions_error_iff eng (Rust.stringField r "id" "unknown")]
      cases ((r.get? "when").bind isArray).getD [] with
      | nil => simp [Rust.parseConditions]
      | cons c cs =>
        cases Rust.parseConditions eng (Rust.stringField r "id" "unknown") (c :: cs) with
        | error e => simp
        | ok conds => cases conds <;> simp
  · simp only [hnull, Bool.not_false, Bool.and_true, Bool.false_eq_true, if_false, if_true]
    cases ((r.get? "when").bind isArray).getD [] with
    | cons c cs => simp
    | nil =>
      cases Rust.parseAstStrictInRule eng (Rust.stringField r "id" "unknown")
        ((r.get? "when_ast").getD .null) "when_ast" <;> simp [Except.toOption]

end

variable {r : Value}

section

variable (eng : Engines) (dates : Rust.Dates) (excludeShadow : Bool)

theorem rust_eligible_setRules (v : Value) (rules : List Value) :
    Rust.eligible excludeShadow (v.setRules rules) = Rust.eligible excludeShadow v := by
  simp [Rust.eligible, Rust.packVersionIsV1, Rust.stringField, get?_setRules_ne]

/-- A pack with the rules that were read from it. -/
def packWith (v : Value) (rules : List Rust.Rule) : Rust.ParsedPack :=
  { Rust.packGate dates v with
    rules := rules
    tagRules := (Rust.packRules v "tag_rules").map Rust.parseTagRule }

theorem parsePack_setRules (h : (v.get? "rules").isSome) (rules : List Value) :
    Rust.parsePack eng dates excludeShadow (v.setRules rules)
      = if Rust.eligible excludeShadow v then
          (collect (Rust.parseRule eng) (rules.take maxRulesPerPack)).map
            (fun rs => some (packWith dates v rs))
        else .ok none := by
  unfold Rust.parsePack
  rw [rust_eligible_setRules]
  simp [Rust.packRules, Rust.packGate, packWith, Rust.stringField, get?_setRules rules h,
    get?_setRules_ne, isArray]

/-- Rust reads the rule: its pack is not left out, and it is among the first rules. -/
def Rust.readsAt (s : Slot) : Bool := Rust.eligible excludeShadow s.pack && s.inReach

/-- A rule that is skipped or not read does not change what is parsed. -/
theorem parseActivePacks_skip (s : Slot)
    (h : Rust.readsAt excludeShadow s → s.Room ∧ Rust.parseRule eng r = .ok none) :
    Rust.parseActivePacks eng dates excludeShadow (s.with_ r)
      = Rust.parseActivePacks eng dates excludeShadow s.without := by
  apply collect_congr_at
  rw [parsePack_setRules eng dates excludeShadow s.hasRules,
    parsePack_setRules eng dates excludeShadow s.hasRules]
  split_ifs with heligible
  · cases hreach : s.inReach with
    | false => rw [Slot.take_out_of_reach hreach]
    | true =>
      obtain ⟨hroom, hskip⟩ := h (by rw [Rust.readsAt, heligible, hreach]; rfl)
      rw [Slot.take_with hroom, Slot.take_without hroom, collect_insert_skip hskip]
  · rfl

theorem parseActivePacks_fails (s : Slot) {e : Rust.EngineError}
    (h : Rust.parseRule eng r = .error e) (heligible : Rust.eligible excludeShadow s.pack)
    (hroom : s.Room) : Fails (Rust.parseActivePacks eng dates excludeShadow (s.with_ r)) := by
  have hrule : Fails (Rust.parseRule eng r) := by
    intro rule hrule
    rw [h] at hrule
    cases hrule
  apply fails_collect_at
  rw [parsePack_setRules eng dates excludeShadow s.hasRules, if_pos heligible,
    Slot.take_with hroom]
  exact (fails_collect_at hrule).map _

/-- What is parsed with a rule that Rust reads: the same packs, with one more rule in one of them,
unless another rule is rejected. -/
theorem parseActivePacks_insert (s : Slot) {rule : Rust.Rule}
    (h : Rust.parseRule eng r = .ok (some rule)) (heligible : Rust.eligible excludeShadow s.pack)
    (hroom : s.Room) :
    Rust.parseActivePacks eng dates excludeShadow (s.with_ r)
        = Rust.parseActivePacks eng dates excludeShadow s.without
      ∨ ∃ bs cs pre post, Rust.parseActivePacks eng dates excludeShadow s.without
          = .ok (bs ++ packWith dates s.pack (pre ++ post) :: cs)
        ∧ Rust.parseActivePacks eng dates excludeShadow (s.with_ r)
          = .ok (bs ++ packWith dates s.pack (pre ++ rule :: post) :: cs) := by
  have hwith := parsePack_setRules eng dates excludeShadow s.hasRules (s.pre ++ r :: s.post)
  have hwithout := parsePack_setRules eng dates excludeShadow s.hasRules (s.pre ++ s.post)
  rw [if_pos heligible, Slot.take_with hroom] at hwith
  rw [if_pos heligible, Slot.take_without hroom] at hwithout
  rcases collect_insert_some h s.pre s.post with hsame | ⟨pre, post, hrules, hinsert⟩
  · rw [hsame, ← hwithout] at hwith
    exact .inl (collect_congr_at hwith _ _)
  · rw [hrules] at hwithout
    rw [hinsert] at hwith
    rcases collect_some_at hwithout hwith s.before s.after with hsame | ⟨bs, cs, hok, hok'⟩
    · exact .inl hsame
    · exact .inr ⟨bs, cs, pre, post, hok, hok'⟩

end

variable {out : Outcome}
  {excludeShadow : Bool} {features : KeyMap Value} {redisTags : List String} {req : Request}

/-- A rule that contributes nothing to an evaluation: no rule is read from it, or one that does not
match and that uses up no time. -/
def Rust.Idle (host : Rust.Host) (features : KeyMap Value) (r : Value) : Prop :=
  ∀ rule, Rust.parseRule host.eng r = .ok (some rule) →
    Rust.ruleWhenMatches host.eng features rule = false ∧ ∀ i k j, host.clock i k j = false

section

variable {host : Rust.Host} {rule : Rust.Rule}

/-- One rule in Rust before a clock that does not run out. -/
def rustRuleInTime (host : Rust.Host) (features : KeyMap Value) (file : String) (o : PackOutcome)
    (r : Rust.Rule) : Except Rust.EngineError PackOutcome :=
  Rust.evalRule host features file (fun _ => false) o (r, 0)

theorem evaluatePack_unmatched (hmatch : Rust.ruleWhenMatches host.eng features rule = false)
    {clock : RuleKind → Nat → Bool} (hclock : ∀ k j, clock k j = false) (v : Value)
    (pre post : List Rust.Rule) :
    Rust.evaluatePack host features redisTags clock (packWith host.dates v (pre ++ rule :: post))
      = Rust.evaluatePack host features redisTags clock (packWith host.dates v (pre ++ post)) := by
  have hstep : ∀ file o r j, Rust.evalRule host features file (clock .rule) o (r, j)
      = rustRuleInTime host features file o r := by
    intro file o r j
    simp only [rustRuleInTime, Rust.evalRule, hclock]
  have hskip : ∀ file o, rustRuleInTime host features file o rule = .ok o := by
    intro file o
    simp [rustRuleInTime, Rust.evalRule, hmatch]
  have hrules : ∀ file, (pre ++ rule :: post).zipIdx.foldlM
        (Rust.evalRule host features file (clock .rule)) .empty
      = (pre ++ post).zipIdx.foldlM (Rust.evalRule host features file (clock .rule)) .empty := by
    intro file
    rw [foldlM_zipIdx (hstep file), foldlM_zipIdx (hstep file), foldlM_insert_skip (hskip file)]
  exact congrArg (· >>= _) (hrules _)

/-- A rule that does not match leaves the evaluation as it is. -/
theorem evaluateParsedSlice_unmatched
    (hmatch : Rust.ruleWhenMatches host.eng features rule = false)
    (hclock : ∀ i k j, host.clock i k j = false) (tid eid : String) (mode : EvaluationMode)
    (v : Value) (bs cs : List Rust.ParsedPack) (pre post : List Rust.Rule) :
    Rust.evaluateParsedSlice host features redisTags tid eid mode
        (bs ++ packWith host.dates v (pre ++ rule :: post) :: cs)
      = Rust.evaluateParsedSlice host features redisTags tid eid mode
        (bs ++ packWith host.dates v (pre ++ post) :: cs) := by
  have hstep : ∀ i out, Rust.slicePack host features redisTags tid eid mode out
        (packWith host.dates v (pre ++ rule :: post), i)
      = Rust.slicePack host features redisTags tid eid mode out
        (packWith host.dates v (pre ++ post), i) := by
    intro i out
    unfold Rust.slicePack
    rw [evaluatePack_unmatched hmatch (hclock i)]
    rfl
  unfold Rust.evaluateParsedSlice
  rw [List.zipIdx_append, List.zipIdx_append, List.zipIdx_cons, List.zipIdx_cons,
    foldlM_congr_at (hstep _)]

end

section

variable {host : Rust.Host} {signalTags : Option (List String)} {s : Slot}
  (hroom : Rust.readsAt excludeShadow s → s.Room)
  (hr : Rust.readsAt excludeShadow s → Rust.Idle host features r)

include hroom hr

theorem evaluatePacks_idle (h : Rust.readsAt excludeShadow s → Rust.rejectsRule host.eng r = false) :
    Rust.evaluatePacks host req excludeShadow (s.with_ r) features redisTags signalTags
      = Rust.evaluatePacks host req excludeShadow s.without features redisTags signalTags := by
  unfold Rust.evaluatePacks
  by_cases hskip : Rust.readsAt excludeShadow s = true → Rust.parseRule host.eng r = .ok none
  · rw [parseActivePacks_skip host.eng host.dates excludeShadow s
      (fun hreads => ⟨hroom hreads, hskip hreads⟩)]
  · -- a rule is read, so that there is one that does not match
    obtain ⟨hreads, hsome⟩ := Classical.not_imp.mp hskip
    obtain ⟨rule, hrule⟩ : ∃ rule, Rust.parseRule host.eng r = .ok (some rule) := by
      by_contra hnone
      exact hsome (eq_ok_none (parseRule_error_iff host.eng r)
        (fun rule hrule => hnone ⟨rule, hrule⟩) (h hreads))
    obtain ⟨hmatch, hclock⟩ := hr hreads rule hrule
    rcases parseActivePacks_insert host.eng host.dates excludeShadow s hrule
      (Bool.and_eq_true_iff.mp hreads).1 (hroom hreads) with hsame | ⟨bs, cs, pre, post, hok, hok'⟩
    · rw [hsame]
    · rw [hok, hok']
      exact evaluateParsedSlice_unmatched hmatch hclock _ _ _ _ _ _ _ _

/-- **Rust**: with an idle rule the result is the one without it exactly if the parser does not
reject the rule, or does not read it. -/
theorem rust_with_iff :
    Rust.evaluatePacks host req excludeShadow (s.with_ r) features redisTags signalTags = .ok out
      ↔ Rust.evaluatePacks host req excludeShadow s.without features redisTags signalTags = .ok out
        ∧ (Rust.readsAt excludeShadow s → Rust.rejectsRule host.eng r = false) := by
  by_cases h : Rust.readsAt excludeShadow s → Rust.rejectsRule host.eng r = false
  · rw [evaluatePacks_idle hroom hr h, and_iff_left h]
  · obtain ⟨hreads, hbad⟩ := Classical.not_imp.mp h
    obtain ⟨e, hparse⟩ := (parseRule_error_iff host.eng r).mpr (Bool.not_eq_false _ ▸ hbad)
    have hfails : Fails (Rust.evaluatePacks host req excludeShadow (s.with_ r) features redisTags
        signalTags) :=
      (parseActivePacks_fails host.eng host.dates excludeShadow s hparse
        (Bool.and_eq_true_iff.mp hreads).1 (hroom hreads)).bind _
    exact iff_of_false (hfails out) (fun hok => h hok.2)

end

/-! ## Python -/

namespace Py

def isCollection : Value → Bool
  | .array _ => true
  | .object _ => true
  | _ => false

def unhashable (t : PyText) (v : Value) : Bool :=
  isCollection v && !(!v.truthy || decide (maxFieldLen < (v.pyStr t).length))

def holds (host : Host) (features : KeyMap Value) (c : List (String × Value)) : Bool :=
  match matchCondition host.eng features ⟨c.lookup "op", c.lookup "field", c.lookup "value"⟩ with
  | .ok b => b
  | .error _ => false

def raisesConditions (host : Host) (features : KeyMap Value) : List Value → Bool
  | .object c :: cs => unhashable host.eng.py ((c.lookup "field").getD .null)
      || (holds host features c && raisesConditions host features cs)
  | _ => false

def notIterable (tags : Option Value) : Bool :=
  match orElse tags with
  | none => false
  | some (.array _) => false
  | some (.string _) => false
  | some (.object _) => false
  | some _ => true

/-- A rule with such a field among its conditions, or one that matches and has such tags. -/
def raisesRule (host : Host) (features : KeyMap Value) : Value → Bool
  | .object es =>
    let whenArr := ((es.lookup "when").bind isArray).getD []
    (((es.lookup "when_ast").getD .null).isNull && decide (whenArr.length ≤ maxConditionsPerRule)
        && raisesConditions host features whenArr)
      || (decide (evaluateRuleWhen host features es = .ok true) && notIterable (es.lookup "tags"))
  | _ => false

end Py

section

variable (host : Py.Host) (features : KeyMap Value)

theorem matchCondition_error_iff (c : RawCondition) :
    (∃ e, Py.matchCondition host.eng features c = .error e)
      ↔ Py.unhashable host.eng.py (c.field.getD .null) = true := by
  unfold Py.matchCondition Py.unhashable
  by_cases hcap : (!(c.field.getD .null).truthy
      || decide (maxFieldLen < ((c.field.getD .null).pyStr host.eng.py).length)) = true
  · simp only [hcap, if_true]
    simp
  · simp only [hcap, Bool.not_false, Bool.and_true, Bool.false_eq_true, if_false]
    have hraised : Nonempty Py.Raised := ⟨.typeError⟩
    cases c.field.getD .null <;> simp [Py.isCollection]

theorem evaluateConditions_error_iff (cs : List Value) :
    (∃ e, Py.evaluateConditions host features cs = .error e)
      ↔ Py.raisesConditions host features cs = true := by
  induction cs with
  | nil => simp [Py.evaluateConditions, Py.raisesConditions]
  | cons c cs ih =>
    cases c with
    | object es =>
      have herror := matchCondition_error_iff host features
        ⟨es.lookup "op", es.lookup "field", es.lookup "value"⟩
      rw [Py.evaluateConditions, Py.raisesConditions, Py.holds]
      cases hmatch : Py.matchCondition host.eng features
          ⟨es.lookup "op", es.lookup "field", es.lookup "value"⟩ with
      | error e =>
        have hbad := herror.mp ⟨e, hmatch⟩
        simp only [hbad, Bool.true_or]
        simp
      | ok b =>
        have hgood : Py.unhashable host.eng.py ((es.lookup "field").getD .null) = false := by
          rw [← Bool.not_eq_true]
          intro hbad
          obtain ⟨e, he⟩ := herror.mpr hbad
          rw [hmatch] at he
          cases he
        cases b with
        | false => simp [hgood]
        | true =>
          simp only [hgood, Bool.false_or, Bool.true_and]
          exact ih
    | _ => simp [Py.evaluateConditions, Py.raisesConditions]

theorem ruleTags_error_iff (tags : Option Value) :
    (∃ e, Py.ruleTags tags = .error e) ↔ Py.notIterable tags = true := by
  unfold Py.ruleTags Py.notIterable
  rcases Py.orElse tags with _ | (_ | _ | _ | _ | _ | _) <;> simp

theorem evaluateRuleWhen_error_iff (es : List (String × Value)) :
    (∃ e, Py.evaluateRuleWhen host features es = .error e)
      ↔ (((es.lookup "when_ast").getD .null).isNull
        && decide ((((es.lookup "when").bind isArray).getD []).length ≤ maxConditionsPerRule)
        && Py.raisesConditions host features (((es.lookup "when").bind isArray).getD []))
          = true := by
  unfold Py.evaluateRuleWhen
  by_cases hnull : ((es.lookup "when_ast").getD .null).isNull = true
  · simp only [hnull, Bool.not_true, Bool.and_false, Bool.false_eq_true, if_false, Bool.true_and]
    by_cases hmany : maxConditionsPerRule < (((es.lookup "when").bind isArray).getD []).length
    · simp [hmany]
    · have hle : (((es.lookup "when").bind isArray).getD []).length
          ≤ maxConditionsPerRule := by omega
      simp only [hmany, hle, decide_true, decide_false, Bool.or_false, Bool.true_and]
      rw [← evaluateConditions_error_iff]
      cases ((es.lookup "when").bind isArray).getD [] with
      | nil => simp [Py.evaluateConditions]
      | cons c cs => rw [if_neg (by simp)]
  · simp only [hnull, Bool.not_false, Bool.and_true, Bool.false_and, if_true]
    split_ifs <;> simp

/-- **The rules that raise.** -/
theorem ruleHit_error_iff (r : Value) :
    (∃ e, Py.ruleHit host features r = .error e) ↔ Py.raisesRule host features r = true := by
  cases r with
  | object es =>
    rw [Py.ruleHit, Py.raisesRule]
    simp only [Bool.or_eq_true]
    rw [← evaluateRuleWhen_error_iff]
    cases hwhen : Py.evaluateRuleWhen host features es with
    | error e => simp
    | ok b =>
      cases b with
      | false => simp
      | true =>
        simp only [decide_true, Bool.true_and, ← ruleTags_error_iff]
        cases Py.ruleTags (es.lookup "tags") <;> simp [Except.map]
  | _ => simp [Py.ruleHit, Py.raisesRule]

end

theorem eligiblePack_setRules {rules : List Value}
    (h : (v.get? "rules").isSome) : Py.eligiblePack excludeShadow (v.setRules rules)
      = .ok (if Py.eligible excludeShadow v then some (v.setRules rules) else none) := by
  have heligible : Py.eligible excludeShadow (v.setRules rules) = Py.eligible excludeShadow v := by
    simp [Py.eligible, Py.versionIsOne, get?_setRules_ne]
  rw [← heligible]
  cases v with
  | object es => rfl
  | _ => cases h

variable {e : Py.PyError}

section

variable (host : Py.Host) (features : KeyMap Value) (redisTags : List String) (tid eid : String)
  (mode : EvaluationMode)

theorem py_packShouldApply_setRules (v : Value) (rules : List Value) :
    Py.packShouldApply host.eng.py host.dates host.parseFloat host.sha256 host.now tid eid mode
        (v.setRules rules)
      = Py.packShouldApply host.eng.py host.dates host.parseFloat host.sha256 host.now tid eid mode
        v := by
  simp [Py.packShouldApply, Py.inRollout, get?_setRules_ne]

/-- A rule before a clock that does not run out. -/
def evalRuleInTime (file : String) (o : PackOutcome) (rule : Value) :
    Except Py.PyError PackOutcome :=
  Py.evalRule host features file (fun _ => false) o (rule, 0)

theorem py_evalRule_eq {file : String} {expired : Nat → Bool} (hclock : ∀ j, expired j = false)
    (o : PackOutcome) (rule : Value) (j : Nat) :
    Py.evalRule host features file expired o (rule, j)
      = evalRuleInTime host features file o rule := by
  unfold evalRuleInTime Py.evalRule
  rw [hclock j]

variable {clock : RuleKind → Nat → Bool}

theorem evaluateRules_setRules (hclock : ∀ k j, clock k j = false) (h : (v.get? "rules").isSome) :
    ∃ (file : String) (rest : PackOutcome → Except Py.PyError PackOutcome),
      ∀ rules : List Value, Py.evaluateRules host features redisTags clock (v.setRules rules)
        = ((rules.take maxRulesPerPack).foldlM (evalRuleInTime host features file) .empty).bind
          rest := by
  refine ⟨Py.strOr host.eng.py (v.get? "_source_file") "", fun o =>
    (Py.packRules v "tag_rules").zipIdx.foldlM (Py.evalTagRule host
      (Py.strOr host.eng.py (v.get? "_source_file") "") redisTags (clock .tagRule)) o, ?_⟩
  intro rules
  unfold Py.evaluateRules
  simp only [Py.packRules, get?_setRules rules h,
    get?_setRules_ne v rules (show "_source_file" ≠ "rules" by decide),
    get?_setRules_ne v rules (show "tag_rules" ≠ "rules" by decide),
    Option.bind_some, isArray, Option.getD_some]
  rw [foldlM_zipIdx (fun o rule j => py_evalRule_eq host features (hclock .rule) o rule j)]
  rfl

theorem evalRuleInTime_eq (file : String) (o : PackOutcome) : evalRuleInTime host features file o r
    = (Py.ruleHit host features r).map (fun hit => hit.elim o (fun tags =>
      o.record host.add (if file.isEmpty then "unknown" else file) (Py.ruleId host r) .rule tags
        (Py.ruleScore host r))) := by
  have hbudget : Py.overBudget false r = false := by cases r <;> rfl
  simp only [evalRuleInTime, Py.evalRule, hbudget]
  rcases Py.ruleHit host features r with e | _ | tags <;> rfl

/-- Python evaluates the rule, if its pack is not left out: the pack applies, and the rule is among
the first ones. -/
def Py.evaluatesAt (s : Slot) : Bool :=
  Py.packShouldApply host.eng.py host.dates host.parseFloat host.sha256 host.now tid eid mode s.pack
    && s.inReach

theorem evaluateOnePack_skip (hclock : ∀ k j, clock k j = false) (s : Slot)
    (h : Py.evaluatesAt host tid eid mode s → s.Room ∧ Py.ruleHit host features r = .ok none) :
    Py.evaluateOnePack host features redisTags tid eid mode clock
        (s.pack.setRules (s.pre ++ r :: s.post))
      = Py.evaluateOnePack host features redisTags tid eid mode clock
        (s.pack.setRules (s.pre ++ s.post)) := by
  unfold Py.evaluateOnePack
  rw [py_packShouldApply_setRules, py_packShouldApply_setRules]
  split_ifs with happly
  · obtain ⟨file, rest, heq⟩ :=
      evaluateRules_setRules host features redisTags hclock s.hasRules
    rw [heq, heq]
    cases hreach : s.inReach with
    | false => rw [Slot.take_out_of_reach hreach]
    | true =>
      obtain ⟨hroom, hquiet⟩ := h (by rw [Py.evaluatesAt, happly, hreach]; rfl)
      rw [Slot.take_with hroom, Slot.take_without hroom,
        foldlM_insert_skip (fun o => by rw [evalRuleInTime_eq, hquiet]; rfl)]
  · rfl

theorem evaluateOnePack_fails {clock : RuleKind → Nat → Bool} (hclock : ∀ k j, clock k j = false)
    (s : Slot) {e : Py.PyError} (h : Py.ruleHit host features r = .error e) (hroom : s.Room)
    (happly : Py.packShouldApply host.eng.py host.dates host.parseFloat host.sha256 host.now tid eid
      mode s.pack) :
    Fails (Py.evaluateOnePack host features redisTags tid eid mode clock
      (s.pack.setRules (s.pre ++ r :: s.post))) := by
  obtain ⟨file, rest, heq⟩ := evaluateRules_setRules host features redisTags hclock s.hasRules
  have hrule : ∀ o, Fails (evalRuleInTime host features file o r) := by
    intro o out hout
    rw [evalRuleInTime_eq, h] at hout
    cases hout
  unfold Py.evaluateOnePack
  rw [py_packShouldApply_setRules, if_pos happly, heq, Slot.take_with hroom]
  exact (fails_foldlM_at hrule).bind _

end

section

variable (host : Py.Host) {features : KeyMap Value} (redisTags : List String) (tid eid : String)
  (mode : EvaluationMode) (hclock : ∀ i k j, host.clock i k j = false)

include hclock

theorem packStep_skip (s : Slot)
    (h : Py.evaluatesAt host tid eid mode s → s.Room ∧ Py.ruleHit host features r = .ok none)
    (i : Nat) (out : Outcome) :
    Py.packStep host features redisTags tid eid mode out
        (s.pack.setRules (s.pre ++ r :: s.post), i)
      = Py.packStep host features redisTags tid eid mode out
        (s.pack.setRules (s.pre ++ s.post), i) := by
  have hfile : ∀ rules, (s.pack.setRules rules).get? "_source_file" = s.pack.get? "_source_file" :=
    fun rules => get?_setRules_ne s.pack rules (by decide)
  unfold Py.packStep
  rw [evaluateOnePack_skip host features redisTags tid eid mode (hclock i) s h, hfile, hfile]

end

def runFeatures (host : Py.Host) (req : Request) (features : KeyMap Value)
    (eligible : List Value) : KeyMap Value :=
  Py.mergeFeatures host (orDefault (strip req.tenantId)) (orDefault (strip req.entityId)) features
    eligible

theorem runFeatures_eq (host : Py.Host) (req : Request) (features : KeyMap Value) (s : Slot)
    (hspecs : Py.ruleSpecs host.eng.py r = []) (bs cs : List Value) :
    runFeatures host req features (bs ++ s.pack.setRules (s.pre ++ r :: s.post) :: cs)
      = runFeatures host req features (bs ++ s.pack.setRules (s.pre ++ s.post) :: cs) := by
  have hpack : ∀ rules, Py.packSpecs host.eng.py (s.pack.setRules rules)
      = rules.flatMap (Py.ruleSpecs host.eng.py) := by
    intro rules
    rw [Py.packSpecs, get?_setRules rules s.hasRules]
    rfl
  unfold runFeatures Py.mergeFeatures Py.collectSpecs
  simp [hpack, hspecs]

variable {eligible : List Value} {host : Py.Host}

theorem evaluatePacksPython_eq {packs : List Value}
    (h : Py.iterEligiblePacks excludeShadow packs = .ok eligible) :
    Py.evaluatePacksPython host req excludeShadow packs features redisTags
      = (eligible.zipIdx.foldlM (Py.packStep host (runFeatures host req features eligible) redisTags
          (orDefault (strip req.tenantId)) (orDefault (strip req.entityId))
          (.ofName req.evaluationMode)) .empty).map
        (fun out => { out with
          contributingPackFiles := sortByCodePoints out.contributingPackFiles.dedup }) := by
  unfold Py.evaluatePacksPython
  rw [h]
  cases eligible.zipIdx.foldlM (Py.packStep host (Py.mergeFeatures host
    (orDefault (strip req.tenantId)) (orDefault (strip req.entityId)) features eligible) redisTags
    (orDefault (strip req.tenantId)) (orDefault (strip req.entityId))
    (.ofName req.evaluationMode)) .empty <;> rfl

/-- Python evaluates the rule in a run: its pack is not left out and applies, and the rule is among
the first ones. -/
def Py.readsAt (host : Py.Host) (req : Request) (excludeShadow : Bool) (s : Slot) : Bool :=
  Py.eligible excludeShadow s.pack && Py.evaluatesAt host (orDefault (strip req.tenantId))
    (orDefault (strip req.entityId)) (.ofName req.evaluationMode) s

/-- **Python**: with a rule that does not hit, the result is the one without it exactly if the rule
does not raise or is not evaluated. Custom signals are collected from all rules of the packs that
are not left out. -/
theorem py_with_iff {s : Slot} {r : Value} (hclock : ∀ i k j, host.clock i k j = false)
    (hspecs : Py.eligible excludeShadow s.pack → Py.ruleSpecs host.eng.py r = [])
    (heligible : Py.iterEligiblePacks excludeShadow s.without = .ok eligible)
    (hroom : Py.readsAt host req excludeShadow s → s.Room)
    (hr : Py.readsAt host req excludeShadow s →
      ∀ tags, Py.ruleHit host (runFeatures host req features eligible) r ≠ .ok (some tags)) :
    Py.evaluatePacksPython host req excludeShadow (s.with_ r) features redisTags = .ok out
      ↔ Py.evaluatePacksPython host req excludeShadow s.without features redisTags = .ok out
        ∧ (Py.readsAt host req excludeShadow s →
          Py.raisesRule host (runFeatures host req features eligible) r = false) := by
  have hraises := ruleHit_error_iff host (runFeatures host req features eligible) r
  by_cases hpack : Py.eligible excludeShadow s.pack = true
  · have hreads : Py.readsAt host req excludeShadow s = Py.evaluatesAt host
        (orDefault (strip req.tenantId)) (orDefault (strip req.entityId))
        (.ofName req.evaluationMode) s := by
      rw [Py.readsAt, hpack, Bool.true_and]
    have hentry : ∀ rules, Py.eligiblePack excludeShadow (s.pack.setRules rules)
        = .ok (some (s.pack.setRules rules)) := by
      intro rules
      rw [eligiblePack_setRules s.hasRules, if_pos hpack]
    obtain ⟨bs, tail, hbefore, htail, rfl⟩ := collect_append_eq_ok.mp heligible
    obtain ⟨cs, hafter, rfl⟩ := (collect_cons_eq_ok (hentry _)).mp htail
    have hwith : Py.iterEligiblePacks excludeShadow (s.with_ r)
        = .ok (bs ++ s.pack.setRules (s.pre ++ r :: s.post) :: cs) :=
      collect_append_eq_ok.mpr
        ⟨bs, _, hbefore, (collect_cons_eq_ok (hentry _)).mpr ⟨cs, hafter, rfl⟩, rfl⟩
    -- both runs have the same features, for the rule brings no signal
    have hfeatures := runFeatures_eq host req features s (hspecs hpack) bs cs
    rw [evaluatePacksPython_eq heligible, evaluatePacksPython_eq hwith, hfeatures,
      List.zipIdx_append, List.zipIdx_append, List.zipIdx_cons, List.zipIdx_cons]
    by_cases h : Py.readsAt host req excludeShadow s → Py.raisesRule host (runFeatures host req
        features (bs ++ s.pack.setRules (s.pre ++ s.post) :: cs)) r = false
    · rw [and_iff_left h, foldlM_congr_at (packStep_skip host redisTags _ _ _ hclock s
        (fun hevaluates =>
          have hread := hreads ▸ hevaluates
          ⟨hroom hread, eq_ok_none hraises (hr hread) (h hread)⟩) _)]
    · obtain ⟨hread, hbad⟩ := Classical.not_imp.mp h
      obtain ⟨e, hhit⟩ := hraises.mpr (Bool.not_eq_false _ ▸ hbad)
      have happly := (Bool.and_eq_true_iff.mp (hreads ▸ hread)).1
      have hfails : ∀ i out, Fails (Py.packStep host (runFeatures host req features _) redisTags
          _ _ _ out (s.pack.setRules (s.pre ++ r :: s.post), i)) := fun i _ =>
        (evaluateOnePack_fails host _ redisTags _ _ _ (hclock i) s hhit (hroom hread)
          happly).map _
      exact iff_of_false ((fails_foldlM_at (hfails _)).map _ out) (fun hok => h hok.2)
  · have hsame : Py.iterEligiblePacks excludeShadow (s.with_ r)
        = Py.iterEligiblePacks excludeShadow s.without := by
      apply collect_congr_at
      rw [eligiblePack_setRules s.hasRules, if_neg hpack,
        eligiblePack_setRules s.hasRules, if_neg hpack]
    rw [Py.evaluatePacksPython, Py.evaluatePacksPython, hsame, and_iff_left]
    intro hread
    exact absurd (Bool.and_eq_true_iff.mp hread).1 hpack

namespace Reference

def addZero (x y : F64) : F64 := if x = F64.ofNat 0 then y else x

/-- Hosts for packs without dates, rollouts, plugins and texts as scores. -/
def rustHost : Rust.Host where
  eng := engines
  dates := ⟨fun _ => none, fun _ => none⟩
  sha256 := fun _ => []
  now := 0
  add := addZero
  clock := fun _ _ _ => false

def pyHost : Py.Host where
  eng := engines
  tables := tables
  dates := ⟨fun _ => none, fun _ => none⟩
  parseFloat := fun _ => none
  sha256 := fun _ => []
  now := 0
  add := addZero
  clock := fun _ _ _ => false
  handlers := fun _ => none

def request : Request := ⟨"acme", "e1", "production"⟩

def country : KeyMap Value := KeyMap.empty.insert "country" (.string "XX")

/-- A rule that hits in `country`. -/
def geoRule : Value := .object [("id", .string "geo"),
  ("when", .array [.object [("field", .string "country"), ("value", .string "XX")]]),
  ("tags", .array [.string "risky"]), ("score_delta", .number (.posInt 10))]

def slot : Slot where
  before := [.object [("_source_file", .string "geo.json"), ("rules", .array [geoRule])]]
  pack := .object [("_source_file", .string "new.json"), ("rules", .array [])]
  after := []
  pre := []
  post := []
  hasRules := by decide

def geoOutcome : Outcome where
  ruleHits := ["geo"]
  tags := ["risky"]
  scoreDelta := F64.ofNat 10
  contributingPackFiles := ["geo.json"]
  telemetry := [⟨"geo.json", "geo", .rule⟩]

def blankField : Value := .object [("id", .string "blank"),
  ("when", .array [.object [("field", .string ""), ("value", .string "XX")]])]

def unknownNode : Value := .object [("id", .string "bad"),
  ("when_ast", .object [("type", .string "nope")])]

/-- A rule that hits in `country`, with a number for its tags. -/
def numberTags : Value := .object [("id", .string "num"),
  ("when", .array [.object [("field", .string "country"), ("value", .string "XX")]]),
  ("tags", .number (.posInt 5))]

end Reference

open Reference

end Tarka.Rules
