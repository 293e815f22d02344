import Tarka.Compiler.Lowering
import Tarka.Json.Exact

/-! # Compiled constants and the literals they come from

A compiled bundle is faithful to its document when it has the same trees and each constant denotes
the literal at its place. Which literals survive is a property of the document (`ExactLiteral`):
an Integer signal takes integers of `i64` and doubles that are such an integer, a Float signal takes
integers of at most 53 significant digits, and the text of a list keeps the integers of 64 bits. -/

namespace Tarka.Compiler

open Tarka.Lib Option List Yaml.Number F64

/-! ## What literals and constants denote -/

/-- The number a YAML number denotes; an infinity or a NaN denotes none. -/
def Yaml.Number.value : Yaml.Number → Option ℚ
  | .posInt n => some (n.toNat : Int)
  | .negInt k => some (Int.negSucc k.val : Int)
  | .float x => if x.isFinite then some x.toRat else none

def Denotes (serde : Json.Serde) : SignalType → Yaml.Value → ScalarArm → Prop
  | .boolean, .bool b, .boolValue c => c = b
  | .integer, .number n, .intValue i => n.value = some (i : ℚ)
  | .float, .number (.float y), .doubleValue x => x = y
  | .float, .number n, .doubleValue x => x.isFinite = true ∧ n.value = some x.toRat
  | .string, .string s, .stringValue t => t = s
  -- a list is kept as the text of the array with the same elements
  | .list, .sequence items, .stringValue t =>
    ∃ j, (Yaml.Value.sequence items).jsonImage = some j ∧ t = serde.text j
  -- a list that is given as a JSON text is kept as a text with the same meaning
  | .list, .string s, .stringValue t => ∃ a b, Json.readTree (trim s).toList = some a
      ∧ Json.readTree t.toList = some b ∧ b.exact = a.exact
  | _, _, _ => False

def ExactLiteral (serde : Json.Serde) : SignalType → Yaml.Value → Prop
  | .integer, .number (.posInt n) => n.toNat < 2 ^ 63
  | .integer, .number (.float x) => x.fract = 0 ∧ x.scaled < 2 ^ 63 * F64.unit
  | .float, .number (.posInt n) => n.toNat % 2 ^ (Nat.log2 n.toNat - 52) = 0
  | .float, .number (.negInt k) => (k.val + 1) % 2 ^ (Nat.log2 (k.val + 1) - 52) = 0
  | .list, .sequence items => (Yaml.Value.sequence items).jsonImage.isSome
  | .list, .string s => ∀ a, Json.readTree (trim s).toList = some a → a.Kept serde
  | _, _ => True

/-- What the libraries promise: doubles are written as numbers, and a YAML value that JSON can
express becomes the JSON value with the same content. -/
structure Host.Lawful (h : Host) : Prop where
  serde : h.serde.Lawful
  image : ∀ v j, v.jsonImage = some j → h.toValue v = .ok j

/-! ## The constants -/

variable {serde : Json.Serde} {n : Yaml.Number} {arm : ScalarArm}

theorem denotes_integer_iff (hok : integerScalar n = .ok arm) :
    Denotes serde .integer (.number n) arm ↔ ExactLiteral serde .integer (.number n) := by
  cases n with
  | posInt m =>
    by_cases hm : m.toNat < 2 ^ 63
    · have hi : integerScalar (.posInt m) = .ok (.intValue m.toNat) := by
        simp only [integerScalar, asI64, if_pos hm]
      obtain rfl : ScalarArm.intValue m.toNat = arm := by simpa [hi] using hok
      exact iff_of_true rfl hm
    · -- beyond `i64` the double saturates
      have hi : integerScalar (.posInt m) = .ok (.intValue (ofNat m.toNat).toI64) := by
        simp only [integerScalar, asI64, asU64, filter_some, hm,
           decide_false, Bool.false_eq_true, if_false, yamlNumberIsIntegral, asF64,
           isSome_some, Bool.or_true, Bool.true_or, if_true, getD_some]
      obtain rfl : ScalarArm.intValue (ofNat m.toNat).toI64 = arm := by simpa [hi] using hok
      refine iff_of_false ?_ hm
      intro hden
      have hval : ((m.toNat : Int) : ℚ) = ((ofNat m.toNat).toI64 : ℚ) := some.inj hden
      have hint : (m.toNat : Int) = (ofNat m.toNat).toI64 := by exact_mod_cast hval
      have hbound := (toI64_bounds (ofNat m.toNat)).2
      omega
  | negInt k =>
    have hi : integerScalar (.negInt k) = .ok (.intValue (Int.negSucc k.val)) := rfl
    obtain rfl : ScalarArm.intValue (Int.negSucc k.val) = arm := by simpa [hi] using hok
    exact iff_of_true rfl trivial
  | float x =>
    have hcheck : yamlNumberIsIntegral (.float x) ∧ ScalarArm.intValue x.toI64 = arm := by
      simp only [integerScalar, asI64, asU64, filter_none,
        asF64, getD_some] at hok
      split_ifs at hok with hint
      exact ⟨hint, Except.ok.inj hok⟩
    obtain ⟨hint, rfl⟩ := hcheck
    simp only [yamlNumberIsIntegral, asI64, asU64, asF64,
      isSome_none, Bool.or_self, Bool.false_or, Bool.and_eq_true, decide_eq_true_eq] at hint
    obtain ⟨⟨hfinite, -⟩, hbound⟩ := hint
    rw [ExactLiteral, ← scaled_eq_toI64_iff hfinite hbound, ← toRat_eq_intCast]
    simp [Denotes, value, hfinite]

theorem denotes_float_iff {f : F64} (hf : n.asF64 = some f) :
    Denotes serde .float (.number n) (.doubleValue f) ↔ ExactLiteral serde .float (.number n) := by
  cases n with
  | posInt m =>
    cases hf
    have hfinite := isFinite_ofNat m.toNat_lt
    have hexact := scaled_ofNat_eq_iff m.toNat_lt
    rw [ExactLiteral, ← hexact, Nat.cast_mul, ← toRat_eq_intCast]
    simp only [Denotes, hfinite, true_and, value, some.injEq]
    exact eq_comm
  | negInt k =>
    cases hf
    have hfinite := isFinite_ofInt_negSucc k.isLt
    have hexact := scaled_ofInt_negSucc_eq_iff k.isLt
    rw [ExactLiteral, ← hexact, ← toRat_eq_intCast]
    simp only [Denotes, hfinite, true_and, value, some.injEq]
    exact eq_comm
  | float x =>
    cases hf
    exact iff_of_true rfl trivial

variable {h : Host}

theorem denotes_listText_iff (hl : h.Lawful) {s : String} {jv : Json.Value}
    (hread : h.serde.fromStr (trim s) = .ok jv) :
    Denotes h.serde .list (.string s) (.stringValue (h.serde.text jv))
      ↔ ExactLiteral h.serde .list (.string s) := by
  obtain ⟨-, hdepth⟩ := Json.canonical_of_fromStr hread
  have hback := Json.readTree_text hl.serde hdepth
  obtain ⟨a, ha, hvalue⟩ : ∃ a, Json.readTree (trim s).toList = some a
      ∧ a.toValue h.serde = some jv := by
    rw [Json.Serde.fromStr] at hread
    split at hread
    · rename_i v hv
      cases hread
      exact bind_eq_some_iff.mp hv
    · cases hread
  have hiff := Json.exact_tree_iff hl.serde a jv hvalue
  simp only [Denotes, ExactLiteral, ha, hback, some.injEq, forall_eq']
  constructor
  · rintro ⟨a', b, rfl, rfl, heq⟩
    exact hiff.mp heq
  · intro hkept
    exact ⟨a, _, rfl, rfl, hiff.mpr hkept⟩

/-- **Which literals keep their meaning**, for every type of signal. -/
theorem denotes_iff (hl : h.Lawful) {x : Yaml.Value} {sty : SignalType}
    (hok : yamlExpectedToScalarForSignal h x sty = .ok arm) :
    Denotes h.serde sty x arm ↔ ExactLiteral h.serde sty x := by
  rcases scalar_cases hok with ⟨rfl, b, rfl, rfl⟩ | ⟨rfl, n, rfl, hint⟩ |
    ⟨rfl, n, f, rfl, hf, rfl⟩ |
    ⟨rfl, s, rfl, rfl⟩ | ⟨rfl, hlist⟩
  · exact iff_of_true rfl trivial
  · exact denotes_integer_iff hint
  · exact denotes_float_iff hf
  · exact iff_of_true rfl trivial
  · cases x with
    | sequence items =>
      rw [listScalar] at hlist
      split at hlist
      · cases hlist
      · rename_i json hjson
        cases hlist
        rw [ExactLiteral, isSome_iff_exists]
        constructor
        · rintro ⟨j, hj, -⟩
          exact ⟨j, hj⟩
        · rintro ⟨j, hj⟩
          rw [hl.image _ _ hj] at hjson
          exact ⟨j, hj, by rw [Except.ok.inj hjson]⟩
    | string s =>
      rw [listScalar] at hlist
      split at hlist
      · cases hlist
      · rename_i jv hjv
        split_ifs at hlist
        cases hlist
        exact denotes_listText_iff hl hjv
    | null => cases hlist
    | bool b => cases hlist
    | number n => cases hlist
    | mapping es => cases hlist
    | tagged t v => cases hlist

/-! ## Bundles -/

/-- A leaf has the signal and the operator of the source, and a constant that denotes its
literal. -/
def FaithfulLeaf (serde : Json.Serde) (registry : SignalRegistry) (signalName op : String)
    (expected : Yaml.Value) (leaf : SignalCompareLeaf) : Prop :=
  leaf.signalName = trim signalName ∧ leaf.op = trim op ∧ ∃ sty arm,
    registry.signalType (trim signalName) = some sty ∧ leaf.expected = some ⟨some arm⟩
      ∧ Denotes serde sty expected arm

/-- A bundle has the rules of its document, with trees of the same shape and faithful leaves. -/
structure Faithful (serde : Json.Serde) (registry : SignalRegistry) (doc : YamlRuleSetInput)
    (rs : RuleSet) : Prop where
  version : rs.version = doc.version
  rules : List.Forall₂ (fun rule out => out.id = trim rule.id ∧ ∃ d, out.expression = some d
    ∧ Lowers (FaithfulLeaf serde registry) rule.expression d) doc.rules rs.rules

/-- Every literal of the document is kept by the signal it is compared with. -/
def YamlRuleSetInput.ExactLiterals (serde : Json.Serde) (registry : SignalRegistry)
    (doc : YamlRuleSetInput) : Prop :=
  ∀ rule ∈ doc.rules, rule.expression.AllLeaves (fun signalName _ expected =>
    ∀ sty, registry.signalType (trim signalName) = some sty → ExactLiteral serde sty expected)

variable {registry : SignalRegistry}

theorem faithfulLeaf_iff (hl : h.Lawful) (n o : String) (x : Yaml.Value) (l : SignalCompareLeaf)
    (hgen : compareLeafToProto h registry n o x = .ok (.compareSignal l)) :
    FaithfulLeaf h.serde registry n o x l
      ↔ ∀ sty, registry.signalType (trim n) = some sty → ExactLiteral h.serde sty x := by
  obtain ⟨-, sty, arm, hsty, harm, rfl⟩ := compareLeafToProto_eq_ok hgen
  have hiff := denotes_iff hl harm
  constructor
  · rintro ⟨-, -, sty', arm', hsty', harm', hden⟩ sty'' hsty''
    obtain rfl : sty = sty' := some.inj (hsty.symm.trans hsty')
    obtain rfl : sty = sty'' := some.inj (hsty.symm.trans hsty'')
    obtain rfl : arm = arm' := by simpa using harm'
    exact hiff.mp hden
  · intro hexact
    exact ⟨rfl, rfl, sty, arm, hsty, rfl, hiff.mpr (hexact sty hsty)⟩

theorem forall₂_faithful_iff (hl : h.Lawful) {rules : List YamlRuleInput} {outs : List CompiledRule}
    (hgen : Forall₂ (fun rule out => compileRule h registry rule = .ok out) rules outs) :
    Forall₂ (fun rule out => out.id = trim rule.id ∧ ∃ d, out.expression = some d
        ∧ Lowers (FaithfulLeaf h.serde registry) rule.expression d) rules outs
      ↔ ∀ rule ∈ rules, rule.expression.AllLeaves (fun signalName _ expected =>
          ∀ sty, registry.signalType (trim signalName) = some sty
            → ExactLiteral h.serde sty expected) := by
  induction hgen with
  | nil => simp
  | @cons rule out rules outs hrule _ ih =>
    obtain ⟨hid, d, hd, hlow⟩ := compileRule_eq_ok hrule
    have htree := lowers_iff (faithfulLeaf_iff hl) hlow
    rw [forall₂_cons, ih, forall_mem_cons, ← htree, hd]
    simp [hid]

/-- **A bundle is faithful to its document exactly when the literals are kept.** -/
theorem compile_faithful_iff {h : Host} (hl : h.Lawful) {registry : SignalRegistry}
    {yamlSource : String} {rs : RuleSet} (hok : compileYamlRuleSet h yamlSource registry = .ok rs) :
    ∃ doc, h.fromStr yamlSource = .ok doc
      ∧ (Faithful h.serde registry doc rs ↔ doc.ExactLiterals h.serde registry) := by
  obtain ⟨doc, hdoc, -, -, -, hrules, hversion⟩ := compile_eq_ok hok
  have hiff := forall₂_faithful_iff hl hrules
  refine ⟨doc, hdoc, ?_⟩
  constructor
  · intro hfaithful
    exact hiff.mp hfaithful.rules
  · intro hexact
    exact ⟨hversion, hiff.mpr hexact⟩

namespace Sample

theorem host_lawful (s : String) (d : YamlRuleSetInput) : (host s d).Lawful where
  serde := by
    refine ⟨fun _ => ⟨⟨false, ['0'], ['0'], none⟩, rfl, ?_⟩⟩
    intro r hr
    have hzero : ∀ c ∈ ['0'], c.isDigit := by decide
    show Json.readNumeral ("0.0".toList ++ r) = _
    exact Json.readNumeral_point hzero (by decide) (by decide) hzero (by decide) hr
  image := by
    intro v j hj
    simp [host, hj]

def bigSource : String :=
  "\n".intercalate ["version: 1", "rules:", "  - id: big", "    expression:",
    "      kind: compare_signal", "      signal_name: payment.amount", "      op: eq",
    "      expected: 9223372036854775808"]

/-- A document with the integer `2 ^ 63` for an Integer signal. -/
def bigAmount : YamlRuleSetInput :=
  ⟨1, [⟨"big", .compareSignal "payment.amount" "eq" (.number (.posInt 9223372036854775808))⟩]⟩

end Sample

open Sample

theorem compile_faithful_iff_sample :
    compileYamlRuleSet (host source doc) source Sample.registry = .ok ruleSet
      ∧ ∃ d, (host source doc).fromStr source = .ok d
        ∧ (Faithful (host source doc).serde Sample.registry d ruleSet
          ↔ d.ExactLiterals (host source doc).serde Sample.registry) := by
  have hok : compileYamlRuleSet (host source doc) source Sample.registry = .ok ruleSet := by
    decide +kernel
  exact ⟨hok, compile_faithful_iff (host_lawful source doc) hok⟩

/-- The constant of an integer beyond `i64` is the largest one. -/
theorem saturated_constant :
    compileYamlRuleSet (host bigSource bigAmount) bigSource Sample.registry
        = .ok ⟨1, [⟨"big", some (.compareSignal
            ⟨"payment.amount", "eq", some ⟨some (.intValue 9223372036854775807)⟩⟩)⟩]⟩
      ∧ ¬ Faithful (host bigSource bigAmount).serde Sample.registry bigAmount
        ⟨1, [⟨"big", some (.compareSignal
          ⟨"payment.amount", "eq", some ⟨some (.intValue 9223372036854775807)⟩⟩)⟩]⟩ := by
  refine ⟨by decide +kernel, ?_⟩
  intro hfaithful
  obtain ⟨⟨-, d, hd, hlow⟩, -⟩ := forall₂_cons.mp hfaithful.rules
  cases hd
  obtain ⟨-, -, sty, arm, hsty, harm, hden⟩ := hlow
  obtain rfl : SignalType.integer = sty := some.inj ((by decide +kernel :
    Sample.registry.signalType (trim "payment.amount") = some .integer).symm.trans hsty)
  obtain rfl : ScalarArm.intValue 9223372036854775807 = arm := by simpa using harm
  have hvalue : ((9223372036854775808 : Int) : ℚ) = ((9223372036854775807 : Int) : ℚ) :=
    some.inj hden
  norm_num at hvalue

end Tarka.Compiler
