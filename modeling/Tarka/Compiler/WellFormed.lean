import Tarka.Compiler.Lowering

/-! # Compiled rule sets are well formed

What a consumer of a bundle may rely on (`RuleSet.WellFormed`), and that every bundle the compiler
puts out has it. No pass establishes it alone: the ids are trimmed for the check and once more for
the output; the type check reads an operator in lower case and the generator as it is written; the
limits are checked on the source tree. -/

namespace Tarka.Compiler

open Tarka.Lib List Option

/-- The arm of a scalar and the type of the signal it is compared with. A list is kept as the text
of a JSON array. -/
def ScalarArm.HasType (serde : Json.Serde) : SignalType → ScalarArm → Prop
  | .boolean, .boolValue _ => True
  | .integer, .intValue i => -2 ^ 63 ≤ i ∧ i < 2 ^ 63
  | .float, .doubleValue _ => True
  | .string, .stringValue _ => True
  | .list, .stringValue s => ∃ items, s = serde.text (.array items)
  | _, _ => False

/-- A leaf names a registered signal, with an operator and a constant of its type. -/
def SignalCompareLeaf.WellFormed (serde : Json.Serde) (registry : SignalRegistry)
    (leaf : SignalCompareLeaf) : Prop :=
  ∃ sty arm, registry.signalType leaf.signalName = some sty ∧ leaf.op ∈ opsAllowedForType sty
    ∧ leaf.expected = some ⟨some arm⟩ ∧ arm.HasType serde sty

namespace RuleExpression

section

variable (serde : Json.Serde) (registry : SignalRegistry)

mutual

/-- No arm is unset, no composite is empty, and the leaves are well formed. -/
def WellFormed : RuleExpression → Prop
  | and children => children ≠ [] ∧ WellFormedAll children
  | or children => children ≠ [] ∧ WellFormedAll children
  | not (some child) => WellFormed child
  | compareSignal leaf => leaf.WellFormed serde registry
  | _ => False

def WellFormedAll : List RuleExpression → Prop
  | [] => True
  | e :: es => WellFormed e ∧ WellFormedAll es

end

end

end RuleExpression

def CompiledRule.nodes (r : CompiledRule) : Nat := (r.expression.map RuleExpression.nodes).getD 0

/-- What a consumer may rely on. -/
structure RuleSet.WellFormed (serde : Json.Serde) (registry : SignalRegistry) (rs : RuleSet) :
    Prop where
  unique : (rs.rules.map CompiledRule.id).Nodup
  trimmed : ∀ r ∈ rs.rules, trim r.id = r.id
  nonempty : ∀ r ∈ rs.rules, r.id ≠ ""
  trees : ∀ r ∈ rs.rules, ∃ e, r.expression = some e ∧ e.WellFormed serde registry ∧ e.depth ≤ 96
  nodes : (rs.rules.map CompiledRule.nodes).sum ≤ 4096

/-! ## The ids -/

variable {rules : List YamlRuleInput}

theorem ids_of_foldlM {seen out : List String}
    (hok : rules.foldlM checkRuleId seen = .ok out) :
    (∀ r ∈ rules, trim r.id ≠ "" ∧ trim r.id ∉ seen)
      ∧ (rules.map (fun r => trim r.id)).Nodup := by
  induction rules generalizing seen with
  | nil => simp
  | cons r rules ih =>
    rw [foldlM_cons] at hok
    obtain ⟨seen', hstep, hrest⟩ := except_bind_eq_ok.mp hok
    simp only [checkRuleId] at hstep
    split_ifs at hstep with hempty hseen
    cases hstep
    obtain ⟨htail, hnd⟩ := ih hrest
    have hne : trim r.id ≠ "" := by
      intro h
      exact hempty (by rw [h]; rfl)
    constructor
    · intro r' hr'
      rcases mem_cons.mp hr' with rfl | hr'
      · exact ⟨hne, hseen⟩
      · have h := htail r' hr'
        exact ⟨h.1, fun hmem => h.2 (mem_cons_of_mem _ hmem)⟩
    · rw [map_cons, nodup_cons]
      refine ⟨?_, hnd⟩
      -- a later rule with this id would have found it among those seen
      intro hmem
      obtain ⟨r', hr', hid⟩ := mem_map.mp hmem
      exact (htail r' hr').2 (by rw [hid]; simp)

theorem ids_of_validateRuleIds (hok : validateRuleIds rules = .ok ()) :
    (∀ r ∈ rules, trim r.id ≠ "") ∧ (rules.map (fun r => trim r.id)).Nodup := by
  obtain ⟨out, hloop, -⟩ := except_bind_eq_ok.mp hok
  obtain ⟨hids, hnd⟩ := ids_of_foldlM hloop
  exact ⟨fun r hr => (hids r hr).1, hnd⟩

/-! ## The limits -/

theorem limits_of_foldlM {total out : Nat} (htotal : total ≤ 4096)
    (hok : rules.foldlM checkRuleLimits total = .ok out) :
    (∀ r ∈ rules, exprDepth r.expression ≤ 96)
      ∧ total + (rules.map (fun r => countNodes r.expression)).sum ≤ 4096 := by
  induction rules generalizing total with
  | nil => simpa using htotal
  | cons r rules ih =>
    rw [foldlM_cons] at hok
    obtain ⟨total', hstep, hrest⟩ := except_bind_eq_ok.mp hok
    unfold checkRuleLimits at hstep
    split_ifs at hstep with hdeep hmany
    cases hstep
    -- below the budget nothing saturates
    have hadd : saturatingAdd total (countNodes r.expression)
        = total + countNodes r.expression := by
      unfold saturatingAdd maxRuleTreeNodes at *
      omega
    have hle : saturatingAdd total (countNodes r.expression) ≤ 4096 := Nat.le_of_not_lt hmany
    obtain ⟨hdepths, hsum⟩ := ih hle hrest
    constructor
    · intro r' hr'
      rcases mem_cons.mp hr' with rfl | hr'
      · exact Nat.le_of_not_lt hdeep
      · exact hdepths r' hr'
    · rw [map_cons, sum_cons]
      omega

theorem limits_of_checkLimits (hok : checkLimits rules = .ok ()) :
    (∀ r ∈ rules, exprDepth r.expression ≤ 96)
      ∧ (rules.map (fun r => countNodes r.expression)).sum ≤ 4096 := by
  obtain ⟨out, hloop, -⟩ := except_bind_eq_ok.mp hok
  obtain ⟨hdepths, hsum⟩ := limits_of_foldlM (Nat.zero_le _) hloop
  exact ⟨hdepths, by omega⟩

/-! ## The leaves -/

variable {arm : ScalarArm}

theorem integerScalar_eq_ok {n : Yaml.Number} (hok : integerScalar n = .ok arm) :
    ∃ i, arm = .intValue i ∧ -2 ^ 63 ≤ i ∧ i < 2 ^ 63 := by
  rw [integerScalar] at hok
  split at hok
  · rename_i i hi
    cases hok
    refine ⟨i, rfl, ?_⟩
    cases n with
    | posInt m =>
      simp only [Yaml.Number.asI64, ite_none_right_eq_some, some.injEq] at hi
      omega
    | negInt k =>
      obtain rfl : Int.negSucc k.val = i := by simpa [Yaml.Number.asI64] using hi
      omega
    | float x => simp [Yaml.Number.asI64] at hi
  · split at hok
    · rename_i u hu
      cases hok
      have hlt : u < 2 ^ 63 := by simpa using (filter_eq_some_iff.mp hu).2
      exact ⟨u, rfl, by omega, by omega⟩
    · split_ifs at hok
      cases hok
      exact ⟨_, rfl, F64.toI64_bounds _⟩

theorem isArray_iff {v : Json.Value} : isArray v ↔ ∃ items, v = .array items := by
  cases v <;> simp [isArray]

variable {h : Host} {x : Yaml.Value}

theorem listScalar_eq_ok (hseq : ∀ items j, h.toValue (.sequence items) = .ok j → isArray j)
    (hok : listScalar h x = .ok arm) :
    ∃ items, arm = .stringValue (h.serde.text (.array items)) := by
  unfold listScalar at hok
  split at hok
  · split at hok
    · cases hok
    · rename_i json hjson
      obtain ⟨vs, rfl⟩ := isArray_iff.mp (hseq _ _ hjson)
      exact ⟨vs, (Except.ok.inj hok).symm⟩
  · split at hok
    · cases hok
    · split_ifs at hok with harray
      obtain ⟨vs, rfl⟩ := isArray_iff.mp harray
      exact ⟨vs, (Except.ok.inj hok).symm⟩
  · cases hok

variable {sty : SignalType}

/-- **The constant has the type of the signal.** -/
theorem hasType_of_scalar (hseq : ∀ items j, h.toValue (.sequence items) = .ok j → isArray j)
    (hok : yamlExpectedToScalarForSignal h x sty = .ok arm) : arm.HasType h.serde sty := by
  rcases scalar_cases hok with ⟨rfl, b, -, rfl⟩ | ⟨rfl, n, -, hint⟩ | ⟨rfl, n, f, -, -, rfl⟩ |
    ⟨rfl, s, -, rfl⟩ | ⟨rfl, hlist⟩
  · trivial
  · obtain ⟨i, rfl, hi⟩ := integerScalar_eq_ok hint
    exact hi
  · trivial
  · trivial
  · obtain ⟨items, rfl⟩ := listScalar_eq_ok hseq hlist
    exact ⟨items, rfl⟩

theorem asciiLower_of_allowedOps {op : String} (hop : op ∈ allowedOps) : asciiLower op = op := by
  simp only [allowedOps, mem_cons, not_mem_nil, or_false] at hop
  rcases hop with rfl | rfl | rfl | rfl | rfl | rfl | rfl <;> decide

variable {yamlSource : String} {n o : String}

theorem typeCheckCompareLeaf_eq_ok {registry : SignalRegistry}
    (hok : typeCheckCompareLeaf h n o x registry yamlSource = .ok ())
    (hsty : registry.signalType (trim n) = some sty) :
    asciiLower (trim o) ∈ opsAllowedForType sty := by
  simp only [typeCheckCompareLeaf, hsty] at hok
  split_ifs at hok with hop
  exact hop

/-- **A leaf that was checked and generated is well formed.** -/
theorem leaf_wellFormed (hseq : ∀ items j, h.toValue (.sequence items) = .ok j → isArray j)
    {registry : SignalRegistry} {l : SignalCompareLeaf}
    (hgen : compareLeafToProto h registry n o x = .ok (.compareSignal l))
    (hcheck : typeCheckCompareLeaf h n o x registry yamlSource = .ok ()) :
    l.WellFormed h.serde registry := by
  obtain ⟨hop, sty, arm, hsty, harm, rfl⟩ := compareLeafToProto_eq_ok hgen
  have hallowed := typeCheckCompareLeaf_eq_ok hcheck hsty
  rw [asciiLower_of_allowedOps hop] at hallowed
  exact ⟨sty, arm, hsty, hallowed, rfl, hasType_of_scalar hseq harm⟩

/-! ## The trees -/

variable {P : String → String → Yaml.Value → SignalCompareLeaf → Prop}

theorem ne_nil_of_lowersAll {es : List YamlExpr} {ds : List RuleExpression} (hne : es ≠ [])
    (h : LowersAll P es ds) : ds ≠ [] := by
  rintro rfl
  cases es with
  | nil => exact hne rfl
  | cons e es => exact h

mutual

variable {R : String → String → Yaml.Value → Prop} {serde : Json.Serde}

/-- **Well-formed leaves make a well-formed tree.** -/
theorem wellFormed_of_lowers {registry : SignalRegistry}
    (hleaf : ∀ n o x l, P n o x l → R n o x → l.WellFormed serde registry) :
    ∀ {e : YamlExpr} {d : RuleExpression}, Lowers P e d → e.AllLeaves R →
      d.WellFormed serde registry
  | .and _, .and _, h, hall =>
    ⟨ne_nil_of_lowersAll h.1 h.2, wellFormedAll_of_lowersAll hleaf h.2 hall⟩
  | .or _, .or _, h, hall =>
    ⟨ne_nil_of_lowersAll h.1 h.2, wellFormedAll_of_lowersAll hleaf h.2 hall⟩
  | .not c, .not (some d), h, hall => by
    have hchild := wellFormed_of_lowers hleaf (show Lowers P c d from h) hall
    exact hchild
  | .compareSignal n o x, .compareSignal l, h, hall => hleaf n o x l h hall

theorem wellFormedAll_of_lowersAll {registry : SignalRegistry}
    (hleaf : ∀ n o x l, P n o x l → R n o x → l.WellFormed serde registry) :
    ∀ {es : List YamlExpr} {ds : List RuleExpression}, LowersAll P es ds →
      YamlExpr.AllLeavesList R es → RuleExpression.WellFormedAll serde registry ds
  | [], [], _, _ => trivial
  | _ :: _, _ :: _, h, hall =>
    ⟨wellFormed_of_lowers hleaf h.1 hall.1, wellFormedAll_of_lowersAll hleaf h.2 hall.2⟩

end

/-! ## The rule set -/

theorem tree_wellFormed (hseq : ∀ items j, h.toValue (.sequence items) = .ok j → isArray j)
    {registry : SignalRegistry} {rule : YamlRuleInput} {out : CompiledRule}
    (hout : compileRule h registry rule = .ok out)
    (hcheck : typeCheckExpr h registry yamlSource rule.expression = .ok ())
    (hdepth : exprDepth rule.expression ≤ 96) :
    ∃ e, out.expression = some e ∧ e.WellFormed h.serde registry ∧ e.depth ≤ 96 := by
  obtain ⟨-, d, hd, hlow⟩ := compileRule_eq_ok hout
  have hleaves := allLeaves_of_typeCheckExpr rule.expression hcheck
  have hleaf : ∀ n o x l, compareLeafToProto h registry n o x = .ok (.compareSignal l) →
      typeCheckCompareLeaf h n o x registry yamlSource = .ok () → l.WellFormed h.serde registry :=
    fun _ _ _ _ hgen hcheck => leaf_wellFormed hseq hgen hcheck
  have hwf := wellFormed_of_lowers hleaf hlow hleaves
  have hsize : d.depth = exprDepth rule.expression := (size_of_lowers hlow).1
  exact ⟨d, hd, hwf, hsize.trans_le hdepth⟩

/-- **Compiled rule sets are well formed.** -/
theorem compile_wellFormed {h : Host}
    (hseq : ∀ items j, h.toValue (.sequence items) = .ok j → isArray j = true)
    {registry : SignalRegistry} {yamlSource : String} {rs : RuleSet}
    (hok : compileYamlRuleSet h yamlSource registry = .ok rs) : rs.WellFormed h.serde registry := by
  obtain ⟨doc, -, hids, hlimits, htypes, hrules, -⟩ := compile_eq_ok hok
  obtain ⟨hne, hnd⟩ := ids_of_validateRuleIds hids
  obtain ⟨hdepths, hsum⟩ := limits_of_checkLimits hlimits
  have hidEq : rs.rules.map CompiledRule.id = doc.rules.map (fun r => trim r.id) :=
    map_eq_of_forall₂ (hrules.imp (fun rule out hout => (compileRule_eq_ok hout).1))
  have hnodesEq : rs.rules.map CompiledRule.nodes
      = doc.rules.map (fun r => countNodes r.expression) := by
    apply map_eq_of_forall₂
    refine hrules.imp ?_
    intro rule out hout
    obtain ⟨-, d, hd, hlow⟩ := compileRule_eq_ok hout
    rw [CompiledRule.nodes, hd, map_some, getD_some, (size_of_lowers hlow).2]
  refine ⟨?_, ?_, ?_, ?_, ?_⟩
  · rw [hidEq]
    exact hnd
  · intro out hout
    obtain ⟨rule, -, hrule⟩ := exists_of_mem_forall₂ hrules hout
    rw [(compileRule_eq_ok hrule).1, trim_trim]
  · intro out hout
    obtain ⟨rule, hmem, hrule⟩ := exists_of_mem_forall₂ hrules hout
    rw [(compileRule_eq_ok hrule).1]
    exact hne rule hmem
  · intro out hout
    obtain ⟨rule, hmem, hrule⟩ := exists_of_mem_forall₂ hrules hout
    exact tree_wellFormed hseq hrule (htypes rule hmem) (hdepths rule hmem)
  · rw [hnodesEq]
    exact hsum

open Sample

/-- The sample bundle is well formed. -/
theorem compile_wellFormed_sample :
    compileYamlRuleSet (host source doc) source registry = .ok ruleSet
      ∧ ruleSet.WellFormed (host source doc).serde registry := by
  have hok : compileYamlRuleSet (host source doc) source registry = .ok ruleSet := by
    decide +kernel
  exact ⟨hok, compile_wellFormed (host_sequence source doc) hok⟩

end Tarka.Compiler
