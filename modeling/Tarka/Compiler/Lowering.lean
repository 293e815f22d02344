import Tarka.Compiler.Yaml
import Tarka.Lib.Loop

/-! # What the code generator does to a tree

The generated tree has the shape of the source, with one leaf for each leaf (`Lowers`). What the
generator does to a leaf is a parameter, so that the same relation says what was generated and what
the generated tree means; `lowers_iff` compares the two leaf by leaf. `compile_eq_ok` reads off
a successful run what every pass has established. -/

namespace Tarka.Compiler

open Tarka.Lib RuleExpression

/-! ## Trees of one shape -/

section

variable (P : String → String → Yaml.Value → SignalCompareLeaf → Prop)

mutual

/-- The same connectives in the same places, no empty one, and related leaves. -/
def Lowers : YamlExpr → RuleExpression → Prop
  | .and cs, .and ds => cs ≠ [] ∧ LowersAll cs ds
  | .or cs, .or ds => cs ≠ [] ∧ LowersAll cs ds
  | .not c, .not (some d) => Lowers c d
  | .compareSignal signalName op expected, .compareSignal leaf => P signalName op expected leaf
  | _, _ => False

def LowersAll : List YamlExpr → List RuleExpression → Prop
  | [], [] => True
  | c :: cs, d :: ds => Lowers c d ∧ LowersAll cs ds
  | _, _ => False

end

end

section

variable (R : String → String → Yaml.Value → Prop)

mutual

def YamlExpr.AllLeaves : YamlExpr → Prop
  | .and cs => AllLeavesList cs
  | .or cs => AllLeavesList cs
  | .not c => c.AllLeaves
  | .compareSignal signalName op expected => R signalName op expected

def YamlExpr.AllLeavesList : List YamlExpr → Prop
  | [] => True
  | c :: cs => c.AllLeaves ∧ AllLeavesList cs

end

end

mutual

variable {P Q : String → String → Yaml.Value → SignalCompareLeaf → Prop}
  {R : String → String → Yaml.Value → Prop}

/-- **Two meanings of the leaves, compared over a tree.** -/
theorem lowers_iff (hleaf : ∀ n o x l, P n o x l → (Q n o x l ↔ R n o x)) :
    ∀ {e : YamlExpr} {d : RuleExpression}, Lowers P e d → (Lowers Q e d ↔ e.AllLeaves R)
  | .and cs, .and ds, h => by
    rw [Lowers, YamlExpr.AllLeaves, ← lowersAll_iff hleaf h.2]
    exact and_iff_right h.1
  | .or cs, .or ds, h => by
    rw [Lowers, YamlExpr.AllLeaves, ← lowersAll_iff hleaf h.2]
    exact and_iff_right h.1
  | .not c, .not (some d), h => by
    rw [Lowers, YamlExpr.AllLeaves]
    exact lowers_iff hleaf h
  | .compareSignal n o x, .compareSignal l, h => hleaf n o x l h

theorem lowersAll_iff (hleaf : ∀ n o x l, P n o x l → (Q n o x l ↔ R n o x)) :
    ∀ {es : List YamlExpr} {ds : List RuleExpression}, LowersAll P es ds →
      (LowersAll Q es ds ↔ YamlExpr.AllLeavesList R es)
  | [], [], _ => Iff.rfl
  | e :: es, d :: ds, h => by
    rw [LowersAll, YamlExpr.AllLeavesList, lowers_iff hleaf h.1, lowersAll_iff hleaf h.2]

end

/-! ## The size of a generated tree -/

namespace RuleExpression

mutual

def depth : RuleExpression → Nat
  | and children => 1 + depthAll children
  | or children => 1 + depthAll children
  | not (some child) => 1 + depth child
  | _ => 1

def depthAll : List RuleExpression → Nat
  | [] => 0
  | e :: es => max (depth e) (depthAll es)

end

mutual

def nodes : RuleExpression → Nat
  | and children => 1 + nodesAll children
  | or children => 1 + nodesAll children
  | not (some child) => 1 + nodes child
  | _ => 1

def nodesAll : List RuleExpression → Nat
  | [] => 0
  | e :: es => nodes e + nodesAll es

end

end RuleExpression

mutual

/-- **Generation keeps the depth and the number of nodes.** -/
theorem size_of_lowers :
    ∀ {e : YamlExpr} {d : RuleExpression}, Lowers P e d →
      d.depth = exprDepth e ∧ d.nodes = countNodes e
  | .and cs, .and ds, h => by
    obtain ⟨hdepth, hnodes⟩ := size_of_lowersAll h.2
    simp [depth, nodes, exprDepth, countNodes, hdepth, hnodes]
  | .or cs, .or ds, h => by
    obtain ⟨hdepth, hnodes⟩ := size_of_lowersAll h.2
    simp [depth, nodes, exprDepth, countNodes, hdepth, hnodes]
  | .not c, .not (some d), h => by
    obtain ⟨hdepth, hnodes⟩ := size_of_lowers (show Lowers P c d from h)
    simp [depth, nodes, exprDepth, countNodes, hdepth, hnodes]
  | .compareSignal _ _ _, .compareSignal _, _ => ⟨rfl, rfl⟩

theorem size_of_lowersAll :
    ∀ {es : List YamlExpr} {ds : List RuleExpression}, LowersAll P es ds →
      depthAll ds = maxDepth es ∧ nodesAll ds = sumNodes es
  | [], [], _ => ⟨rfl, rfl⟩
  | e :: es, d :: ds, h => by
    obtain ⟨hdepth, hnodes⟩ := size_of_lowers h.1
    obtain ⟨hdepths, hsum⟩ := size_of_lowersAll h.2
    simp [depthAll, nodesAll, maxDepth, sumNodes, hdepth, hnodes, hdepths, hsum]

end

/-! ## The passes -/

section

variable {h : Host} {registry : SignalRegistry} {yamlSource : String}

mutual

/-- **The generated tree lowers the source**, each leaf as the generator does it. -/
theorem lowers_of_yamlExprToProto : ∀ {e : YamlExpr} {d : RuleExpression},
    yamlExprToProto h registry e = .ok d →
      Lowers (fun n o x l => compareLeafToProto h registry n o x = .ok (.compareSignal l)) e d
  | .and cs, d, hd => by
    rw [yamlExprToProto] at hd
    split_ifs at hd with hempty
    obtain ⟨ds, hds, hd⟩ := except_bind_eq_ok.mp hd
    cases hd
    exact ⟨fun hnil => hempty (by rw [hnil]; rfl), lowersAll_of_yamlExprsToProto hds⟩
  | .or cs, d, hd => by
    rw [yamlExprToProto] at hd
    split_ifs at hd with hempty
    obtain ⟨ds, hds, hd⟩ := except_bind_eq_ok.mp hd
    cases hd
    exact ⟨fun hnil => hempty (by rw [hnil]; rfl), lowersAll_of_yamlExprsToProto hds⟩
  | .not c, d, hd => by
    rw [yamlExprToProto] at hd
    obtain ⟨c', hc, hd⟩ := except_bind_eq_ok.mp hd
    cases hd
    have hchild := lowers_of_yamlExprToProto hc
    exact hchild
  | .compareSignal n o x, d, hd => by
    rw [yamlExprToProto] at hd
    have hleaf : ∃ l, d = .compareSignal l := by
      rw [compareLeafToProto] at hd
      split_ifs at hd
      split at hd
      · cases hd
      · obtain ⟨scalar, -, hd⟩ := except_bind_eq_ok.mp hd
        exact ⟨_, (Except.ok.inj hd).symm⟩
    obtain ⟨l, rfl⟩ := hleaf
    exact hd

theorem lowersAll_of_yamlExprsToProto : ∀ {es : List YamlExpr} {ds : List RuleExpression},
    yamlExprsToProto h registry es = .ok ds →
      LowersAll (fun n o x l => compareLeafToProto h registry n o x = .ok (.compareSignal l)) es ds
  | [], ds, hds => by
    cases hds
    trivial
  | e :: es, ds, hds => by
    obtain ⟨c, hc, hds⟩ := except_bind_eq_ok.mp hds
    obtain ⟨cs, hcs, hds⟩ := except_bind_eq_ok.mp hds
    cases hds
    exact ⟨lowers_of_yamlExprToProto hc, lowersAll_of_yamlExprsToProto hcs⟩

end

mutual

theorem allLeaves_of_typeCheckExpr : ∀ e : YamlExpr,
    typeCheckExpr h registry yamlSource e = .ok () →
      e.AllLeaves (fun n o x => typeCheckCompareLeaf h n o x registry yamlSource = .ok ())
  | .and cs, he => allLeavesList_of_typeCheckAll cs he
  | .or cs, he => allLeavesList_of_typeCheckAll cs he
  | .not c, he => allLeaves_of_typeCheckExpr c he
  | .compareSignal _ _ _, he => he

theorem allLeavesList_of_typeCheckAll : ∀ es : List YamlExpr,
    typeCheckAll h registry yamlSource es = .ok () →
      YamlExpr.AllLeavesList
        (fun n o x => typeCheckCompareLeaf h n o x registry yamlSource = .ok ()) es
  | [], _ => trivial
  | e :: es, hes => by
    rw [typeCheckAll] at hes
    obtain ⟨⟨⟩, he, hes⟩ := except_bind_eq_ok.mp hes
    exact ⟨allLeaves_of_typeCheckExpr e he, allLeavesList_of_typeCheckAll es hes⟩

end

/-- **What a successful compilation has gone through.** -/
theorem compile_eq_ok {rs : RuleSet} (hok : compileYamlRuleSet h yamlSource registry = .ok rs) :
    ∃ doc, h.fromStr yamlSource = .ok doc ∧ validateRuleIds doc.rules = .ok ()
      ∧ checkLimits doc.rules = .ok ()
      ∧ (∀ rule ∈ doc.rules, typeCheckExpr h registry yamlSource rule.expression = .ok ())
      ∧ List.Forall₂ (fun rule out => compileRule h registry rule = .ok out) doc.rules rs.rules
      ∧ rs.version = doc.version := by
  obtain ⟨doc, hdoc, hok⟩ := except_bind_eq_ok.mp hok
  obtain ⟨⟨⟩, hids, hok⟩ := except_bind_eq_ok.mp hok
  obtain ⟨⟨⟩, hlimits, hok⟩ := except_bind_eq_ok.mp hok
  obtain ⟨⟨⟩, -, hok⟩ := except_bind_eq_ok.mp hok
  obtain ⟨⟨⟩, htypes, hok⟩ := except_bind_eq_ok.mp hok
  obtain ⟨out, hout, hok⟩ := except_bind_eq_ok.mp hok
  cases hok
  exact ⟨doc, mapError_eq_ok.mp hdoc, hids, hlimits, forM_eq_ok.mp htypes, mapM_eq_ok.mp hout, rfl⟩

theorem compileRule_eq_ok {rule : YamlRuleInput} {out : CompiledRule}
    (hok : compileRule h registry rule = .ok out) :
    out.id = trim rule.id ∧ ∃ d, out.expression = some d ∧
      Lowers (fun n o x l => compareLeafToProto h registry n o x = .ok (.compareSignal l))
        rule.expression d := by
  obtain ⟨d, hd, hout⟩ := except_bind_eq_ok.mp hok
  cases hout
  exact ⟨rfl, d, rfl, lowers_of_yamlExprToProto hd⟩

variable {x : Yaml.Value}

theorem scalar_cases {sty : SignalType} {arm : ScalarArm}
    (hok : yamlExpectedToScalarForSignal h x sty = .ok arm) :
    (sty = .boolean ∧ ∃ b, x = .bool b ∧ arm = .boolValue b)
      ∨ (sty = .integer ∧ ∃ n, x = .number n ∧ integerScalar n = .ok arm)
      ∨ (sty = .float ∧ ∃ n f, x = .number n ∧ n.asF64 = some f ∧ arm = .doubleValue f)
      ∨ (sty = .string ∧ ∃ s, x = .string s ∧ arm = .stringValue s)
      ∨ (sty = .list ∧ listScalar h x = .ok arm) := by
  have herr : ∀ e, (Except.error e : Except CompileError ScalarArm) ≠ .ok arm := fun _ => nofun
  cases sty with
  | boolean =>
    cases x with
    | bool b => exact Or.inl ⟨rfl, b, rfl, (Except.ok.inj hok).symm⟩
    | _ => exact absurd hok (herr _)
  | integer =>
    cases x with
    | number n => exact Or.inr (Or.inl ⟨rfl, n, rfl, hok⟩)
    | _ => exact absurd hok (herr _)
  | float =>
    cases x with
    | number n =>
      refine .inr (.inr (.inl ⟨rfl, n, ?_⟩))
      cases hf : n.asF64 with
      | some f =>
        simp only [yamlExpectedToScalarForSignal, hf] at hok
        exact ⟨f, rfl, rfl, (Except.ok.inj hok).symm⟩
      | none =>
        simp only [yamlExpectedToScalarForSignal, hf] at hok
        exact absurd hok (herr _)
    | _ => exact absurd hok (herr _)
  | string =>
    cases x with
    | string s => exact Or.inr (Or.inr (Or.inr (Or.inl ⟨rfl, s, rfl, (Except.ok.inj hok).symm⟩)))
    | _ => exact absurd hok (herr _)
  | list => exact Or.inr (Or.inr (Or.inr (Or.inr ⟨rfl, hok⟩)))

theorem compareLeafToProto_eq_ok {n o : String} {l : SignalCompareLeaf}
    (hok : compareLeafToProto h registry n o x = .ok (.compareSignal l)) :
    trim o ∈ allowedOps ∧ ∃ sty arm, registry.signalType (trim n) = some sty
      ∧ yamlExpectedToScalarForSignal h x sty = .ok arm
      ∧ l = ⟨trim n, trim o, some ⟨some arm⟩⟩ := by
  rw [compareLeafToProto] at hok
  split_ifs at hok with hop
  split at hok
  · cases hok
  · rename_i sty hsty
    obtain ⟨arm, harm, hok⟩ := except_bind_eq_ok.mp hok
    simp only [Except.ok.injEq, compareSignal.injEq] at hok
    exact ⟨hop, sty, arm, hsty, harm, hok.symm⟩

end

/-! ## YAML values that JSON can express -/

namespace Yaml.Value

mutual

/-- The JSON value with the same content. JSON has no infinities and no NaN, no tags and only
strings for keys. -/
def jsonImage : Yaml.Value → Option Json.Value
  | null => some .null
  | bool b => some (.bool b)
  | number (.posInt n) => some (.number (.posInt n))
  | number (.negInt k) => some (.number (.negInt k))
  | number (.float x) =>
    if h : x.isFinite = true then some (.number (.float ⟨x, h⟩)) else none
  | string s => some (.string s)
  | sequence items => (imageItems items).map .array
  | mapping entries => (imageEntries entries).map (fun es => .object (Json.orderedMap es))
  | tagged _ _ => none

def imageItems : List Yaml.Value → Option (List Json.Value)
  | [] => some []
  | v :: vs => (jsonImage v).bind (fun w => (imageItems vs).map (w :: ·))

def imageEntries : List (Yaml.Value × Yaml.Value) → Option (List (String × Json.Value))
  | [] => some []
  | (string k, v) :: es => (jsonImage v).bind (fun w => (imageEntries es).map ((k, w) :: ·))
  | _ :: _ => none

end

end Yaml.Value

/-! ## A bundle to look at -/

namespace Sample

def registry : SignalRegistry :=
  ⟨⟨[("device.is_emulator", ⟨.boolean⟩), ("payment.amount", ⟨.integer⟩),
    ("payment.methods", ⟨.list⟩)], by simp⟩⟩

/-- The libraries on a text that is parsed as `doc`; no double is written or read. -/
def host (source : String) (doc : YamlRuleSetInput) : Host where
  fromStr := fun s => if s = source then .ok doc else .error ⟨"missing field `version`", none⟩
  serde := ⟨fun _ => "0.0", fun _ => none, fun _ => "expected value at line 1 column 1"⟩
  toValue := fun v =>
    match v.jsonImage with
    | some j => .ok j
    | none => .error "key must be a string"

def source : String := "\n".intercalate ["version: 1", "rules:", "  - id: \" high_amount \"",
  "    expression:", "      kind: and", "      children:", "        - kind: compare_signal",
  "          signal_name: payment.amount", "          op: gte", "          expected: 5000",
  "        - kind: not", "          child:", "            kind: compare_signal",
  "            signal_name: \" device.is_emulator\"", "            op: eq",
  "            expected: true", "        - kind: compare_signal",
  "          signal_name: payment.methods", "          op: ne", "          expected: [card, 7]"]

/-- Large payments that do not come from an emulator. -/
def doc : YamlRuleSetInput :=
  ⟨1, [⟨" high_amount ", .and [.compareSignal "payment.amount" "gte" (.number (.posInt 5000)),
    .not (.compareSignal " device.is_emulator" "eq" (.bool true)),
    .compareSignal "payment.methods" "ne" (.sequence [.string "card", .number (.posInt 7)])]⟩]⟩

/-- What `doc` compiles to. -/
def ruleSet : RuleSet :=
  ⟨1, [⟨"high_amount", some (.and [
    .compareSignal ⟨"payment.amount", "gte", some ⟨some (.intValue 5000)⟩⟩,
    .not (some (.compareSignal ⟨"device.is_emulator", "eq", some ⟨some (.boolValue true)⟩⟩)),
    .compareSignal ⟨"payment.methods", "ne", some ⟨some (.stringValue "[\"card\",7]")⟩⟩])⟩]⟩

theorem host_sequence (s : String) (d : YamlRuleSetInput) (items : List Yaml.Value) (j : Json.Value)
    (h : (host s d).toValue (.sequence items) = .ok j) : isArray j = true := by
  simp only [host, Yaml.Value.jsonImage] at h
  cases hitems : Yaml.Value.imageItems items <;> rw [hitems] at h <;> cases h
  rfl

end Sample

end Tarka.Compiler
