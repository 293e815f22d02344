import Tarka.Rules.Ast
import Tarka.Rules.ConditionParity

/-! # Where the two readings of a nested condition agree

The Rust parser checks every node as it goes, with the limits on each subtree; the Python models
validate the document first and measure the whole tree afterwards. A document that fails a check
both have is refused by both (`refused`); one that passes all checks of both (`Clear`) is accepted
by both or is beyond the limits, and the trees they build correspond node by node. What is left out
are the documents that fail a check of one alone.

* `Mirrors`: the nodes Rust reads are those of the document, as they are received.
* `Corresponds`: the trees of the two engines.
* **`refused_both`**, **`clear_agree`**: the inductions over both grammars. -/

namespace Tarka.Rules

open Tarka.Lib Tarka.Json Option List Value KeyMap

/-! ## The nodes Rust reads -/

section

variable (read : FiniteF64 → FiniteF64)

/-- The entries of an object in Rust, against those of the document. -/
structure EntriesMirror (rust doc : List (String × Value)) : Prop where
  lookup : ∀ k, rust.lookup k = (doc.lookup k).map (received read)
  keys : ∀ k, k ∈ rust.map Prod.fst ↔ k ∈ doc.map Prod.fst

mutual

def Mirrors : NodeView → NodeView → Prop
  | .notObject, .notObject => True
  | .node es' b' cs', .node es b cs => EntriesMirror read es' es ∧ b' = b ∧ MirrorsAll cs' cs
  | _, _ => False

def MirrorsAll : List NodeView → List NodeView → Prop
  | [], [] => True
  | c' :: cs', c :: cs => Mirrors c' c ∧ MirrorsAll cs' cs
  | _, _ => False

end

variable {read : FiniteF64 → FiniteF64} {es : List (String × Value)}

theorem MirrorsAll.length_eq : ∀ {cs' cs : List NodeView}, MirrorsAll read cs' cs →
    cs'.length = cs.length
  | [], [], _ => rfl
  | [], _ :: _, h => absurd h (by simp [MirrorsAll])
  | _ :: _, [], h => absurd h (by simp [MirrorsAll])
  | _ :: cs', _ :: cs, h => by
    rw [MirrorsAll] at h
    rw [length_cons, length_cons, MirrorsAll.length_eq h.2]

theorem childViews_eq (es : List (String × Value)) :
    childViews es = (childrenArray es).elim [] nodeViews := by
  induction es with
  | nil => rfl
  | cons e es ih =>
    obtain ⟨k, v⟩ := e
    by_cases hk : k = "children"
    · subst hk
      cases v <;> rfl
    · have hne : ("children" == k) = false := beq_false_of_ne (Ne.symm hk)
      have harray : childrenArray ((k, v) :: es) = childrenArray es := by
        rw [childrenArray, lookup_cons, hne]
        rfl
      rw [harray, ← ih]
      cases v <;> exact if_neg hk

theorem childrenArray_receivedEntries (hnd : (es.map Prod.fst).Nodup) :
    childrenArray (receivedEntries read es)
      = (childrenArray es).map (List.map (received read)) := by
  rw [childrenArray, childrenArray, lookup_receivedEntries read hnd]
  cases es.lookup "children" with
  | none => rfl
  | some v => exact isArray_received v

mutual

/-- **Rust reads the nodes of the document.** -/
theorem mirrors_received : ∀ v : Value, v.distinctKeys →
    Mirrors read (nodeView (v.received read)) (nodeView v)
  | .null, _ => trivial
  | .bool _, _ => trivial
  | .number (.posInt _), _ => trivial
  | .number (.negInt _), _ => trivial
  | .number (.float _), _ => trivial
  | .string _, _ => trivial
  | .array _, _ => trivial
  | .object es, h => by
    rw [distinctKeys, Bool.and_eq_true, decide_eq_true_eq] at h
    obtain ⟨hnd, hvalues⟩ := h
    have hmirror : EntriesMirror read (receivedEntries read es) es :=
      ⟨lookup_receivedEntries read hnd, fun _ => (keys_receivedEntries read es).mem_iff⟩
    rw [received_object, nodeView, nodeView, Mirrors, childViews_eq, childViews_eq,
      childrenArray_receivedEntries hnd]
    refine ⟨hmirror, isSome_map, ?_⟩
    cases hitems : childrenArray es with
    | none => trivial
    | some items =>
      have hmem : ("children", array items) ∈ es := by
        obtain ⟨v, hlookup, harray⟩ := bind_eq_some_iff.mp hitems
        rw [isArray_eq_some harray] at hlookup
        exact mem_entries_of_lookup hlookup
      exact mirrors_entries es hvalues _ items hmem

theorem mirrors_entries : ∀ es : List (String × Value), distinctKeysEntries es →
    ∀ k items, (k, array items) ∈ es →
      MirrorsAll read (nodeViews (items.map (received read))) (nodeViews items)
  | [], _, _, _, hmem => absurd hmem (by simp)
  | (k', v) :: es, h, k, items, hmem => by
    rw [distinctKeysEntries, Bool.and_eq_true] at h
    rcases mem_cons.mp hmem with heq | hrest
    · cases v with
      | array vs =>
        have hvs : distinctKeysItems vs := h.1
        obtain ⟨-, hitems⟩ := Prod.mk.inj heq
        rw [array.inj hitems]
        exact mirrors_items vs hvs
      | _ => cases heq
    · exact mirrors_entries es h.2 k items hrest

theorem mirrors_items : ∀ vs : List Value, distinctKeysItems vs →
    MirrorsAll read (nodeViews (vs.map (received read))) (nodeViews vs)
  | [], _ => trivial
  | v :: vs, h => by
    rw [distinctKeysItems, Bool.and_eq_true] at h
    exact ⟨mirrors_received v h.1, mirrors_items vs h.2⟩

end

end

section

variable {read : FiniteF64 → FiniteF64} {es' es : List (String × Value)}

theorem EntriesMirror.stringEntry_eq (h : EntriesMirror read es' es) (k : String) :
    stringEntry es' k = stringEntry es k := by
  rw [stringEntry, h.lookup, stringEntry, isString_received]

theorem EntriesMirror.getD_eq (h : EntriesMirror read es' es) (k : String) :
    (es'.lookup k).getD .null = ((es.lookup k).getD .null).received read := by
  rw [h.lookup, getD_received]

theorem extraKey_eq_none {allowed : List String} :
    extraKey allowed es = none ↔ ∀ k ∈ es.map Prod.fst, k ∈ allowed := by
  simp [extraKey]

theorem EntriesMirror.extraKey_iff (h : EntriesMirror read es' es) (allowed : List String) :
    extraKey allowed es' = none ↔ extraKey allowed es = none := by
  rw [extraKey_eq_none, extraKey_eq_none]
  constructor
  · intro hkeys k hk
    exact hkeys k ((h.keys k).mpr hk)
  · intro hkeys k hk
    exact hkeys k ((h.keys k).mp hk)

end

/-! ## Documents clear of the differences -/

/-- A name that is missing, empty or too long in characters, and so in bytes. -/
def nameRefused (es : List (String × Value)) (k : String) : Bool :=
  (stringEntry es k).all (fun f => f.isEmpty || decide (maxFieldLen < f.length))

/-- A condition that fails a check of both engines. -/
def conditionRefused (eng : Engines) (es : List (String × Value)) : Bool :=
  (extraKey conditionKeys es).isSome
    || (stringEntry es "op").any (fun name => (Op.ofName name).isNone)
    || nameRefused es "field"
    || let value := (es.lookup "value").getD .null
      !value.isNull
        && decide (maxValueLen < byteLen (Rust.display eng (value.received eng.readF64)))
        && decide (maxValueLen < (value.pyStr eng.py).length)

/-- A custom signal that fails a check of both engines. -/
def signalRefused (es : List (String × Value)) : Bool :=
  (extraKey customSignalKeys es).isSome || nameRefused es "plugin_id"
    || nameRefused es "output_key"
    || (es.lookup "params").any (fun params => !Rust.objectOrNull params)

/-- A name within the cap in bytes, and so in characters. -/
def ShortName (es : List (String × Value)) (k : String) : Prop :=
  ∃ f, stringEntry es k = some f ∧ f.isEmpty = false ∧ byteLen f ≤ maxFieldLen

/-- A condition that passes the checks of both engines: a known operator, a field and a value that
are short in both measures, and for `regex` a safe pattern. -/
structure ConditionClear (eng : Engines) (es : List (String × Value)) : Prop where
  keys : extraKey conditionKeys es = none
  operator : es.lookup "op" = none
    ∨ ∃ name, es.lookup "op" = some (.string name) ∧ (Op.ofName name).isSome = true
  field : ShortName es "field"
  value : (es.lookup "value").getD .null = .null
    ∨ byteLen (Rust.display eng (((es.lookup "value").getD .null).received eng.readF64))
      ≤ maxValueLen
      ∧ (((es.lookup "value").getD .null).pyStr eng.py).length ≤ maxValueLen
  pattern : stringEntry es "op" = some "regex" → SafePattern ((es.lookup "value").getD .null)

/-- A custom signal that passes the checks of both engines: its parameters are missing, or an object
whose text is within Python's limit. -/
structure SignalClear (eng : Engines) (es : List (String × Value)) : Prop where
  keys : extraKey customSignalKeys es = none
  pluginId : ShortName es "plugin_id"
  outputKey : ShortName es "output_key"
  params : es.lookup "params" = none ∨ ∃ ps, es.lookup "params" = some (.object ps)
    ∧ (pyDumpsSorted eng.py (.object ps)).length ≤ Py.maxCustomSignalParamsJsonBytes

mutual

/-- A document that both engines refuse, before they measure its tree. Rust knows no graph atoms, so
that those are refused which the Python models do not accept. -/
def refused (eng : Engines) (tables : Py.Tables) : NodeView → Bool
  | .notObject => true
  | .node es hasChildren children =>
    match stringEntry es "type" with
    | none => true
    | some typ =>
      if typ = "condition" then conditionRefused eng es
      else if typ = "custom_signal" then signalRefused es
      else if typ = "graph_v1" then (Py.validateGraphV1 tables es).isNone
      else if typ = "and" ∨ typ = "or" then
        !Py.compositeOk es hasChildren children.length || refusedAny eng tables children
      else true

def refusedAny (eng : Engines) (tables : Py.Tables) : List NodeView → Bool
  | [] => false
  | view :: views => refused eng tables view || refusedAny eng tables views

end

mutual

/-- A document of which every node passes the checks of both engines. -/
def Clear (eng : Engines) : NodeView → Prop
  | .notObject => False
  | .node es hasChildren children =>
    match stringEntry es "type" with
    | none => False
    | some typ =>
      if typ = "condition" then ConditionClear eng es
      else if typ = "custom_signal" then SignalClear eng es
      else if typ = "and" ∨ typ = "or" then
        Py.compositeOk es hasChildren children.length = true ∧ AllClear eng children
      else False

def AllClear (eng : Engines) : List NodeView → Prop
  | [] => True
  | view :: views => Clear eng view ∧ AllClear eng views

end

def AstPortable (eng : Engines) (tables : Py.Tables) (view : NodeView) : Prop :=
  refused eng tables view = true ∨ Clear eng view

/-! ## Corresponding trees -/

def rawCondition (op field : String) (value : Value) : RawCondition :=
  ⟨some (.string op), some (.string field), some value⟩

/-- A condition of Rust that reads as one of Python does. -/
structure SameCondition (eng : Engines) (c : Rust.Condition) (op field : String) (value : Value) :
    Prop where
  nonempty : field.isEmpty = false
  fieldCap : byteLen field ≤ maxFieldLen
  valueCap : ValueCap eng value
  pattern : op = "regex" → SafePattern value
  parsed : Rust.parseCondition eng "" ((rawCondition op field value).received eng.readF64)
    = .ok (some c)

mutual

def Corresponds (eng : Engines) : Rust.AstNode → Py.AstNode → Prop
  | .condition c, .condition op field value => SameCondition eng c op field value
  | .customSignal p k, .customSignal p' k' => p = p' ∧ k = k'
  | .and rs, .and ns => CorrespondAll eng rs ns
  | .or rs, .or ns => CorrespondAll eng rs ns
  | _, _ => False

def CorrespondAll (eng : Engines) : List Rust.AstNode → List Py.AstNode → Prop
  | [], [] => True
  | r :: rs, n :: ns => Corresponds eng r n ∧ CorrespondAll eng rs ns
  | _, _ => False

end

mutual

variable {eng : Engines}

theorem Corresponds.size_eq : ∀ {r : Rust.AstNode} {n : Py.AstNode},
    Corresponds eng r n →
      Rust.astDepth r = Py.astMaxDepth n ∧ Rust.astCount r = Py.astNodeCount n
  | .condition _, .condition .., _ => ⟨rfl, rfl⟩
  | .customSignal .., .customSignal .., _ => ⟨rfl, rfl⟩
  | .and rs, .and ns, h => by
    have hall : CorrespondAll eng rs ns := h
    obtain ⟨hdepth, hcount⟩ := CorrespondAll.size_eq hall
    exact ⟨congrArg (1 + ·) hdepth, congrArg (1 + ·) hcount⟩
  | .or rs, .or ns, h => by
    have hall : CorrespondAll eng rs ns := h
    obtain ⟨hdepth, hcount⟩ := CorrespondAll.size_eq hall
    exact ⟨congrArg (1 + ·) hdepth, congrArg (1 + ·) hcount⟩

theorem CorrespondAll.size_eq : ∀ {rs : List Rust.AstNode} {ns : List Py.AstNode},
    CorrespondAll eng rs ns →
      Rust.astDepths rs = Py.astMaxDepths ns ∧ Rust.astCounts rs = Py.astNodeCounts ns
  | [], [], _ => ⟨rfl, rfl⟩
  | r :: rs, n :: ns, h => by
    rw [CorrespondAll] at h
    obtain ⟨hd, hc⟩ := Corresponds.size_eq h.1
    obtain ⟨hds, hcs⟩ := CorrespondAll.size_eq h.2
    simp only [Rust.astDepths, Py.astMaxDepths, Rust.astCounts, Py.astNodeCounts]
    exact ⟨by rw [hd, hds], by rw [hc, hcs]⟩

end

variable {n : Py.AstNode}

theorem withinLimits_eq_false_iff : Py.withinLimits n = false
      ↔ maxAstDepth < Py.astMaxDepth n ∨ maxAstNodes < Py.astNodeCount n := by
  rw [Py.withinLimits, Bool.and_eq_false_iff, decide_eq_false_iff_not, decide_eq_false_iff_not]
  omega

theorem enforceLimits_agree {r : Rust.AstNode} (h : Corresponds eng r n)
    (ruleId path : String) (index : Nat) :
    (Rust.enforceLimits ruleId r path index = .ok r ∧ Py.withinLimits n)
      ∨ ((∃ e, Rust.enforceLimits ruleId r path index = .error e) ∧ Py.withinLimits n = false) := by
  obtain ⟨hdepth, hcount⟩ := h.size_eq
  unfold Rust.enforceLimits
  rw [hdepth, hcount]
  by_cases hd : maxAstDepth < Py.astMaxDepth n
  · rw [if_pos hd]
    exact .inr ⟨⟨_, rfl⟩, withinLimits_eq_false_iff.mpr (.inl hd)⟩
  · rw [if_neg hd]
    split_ifs with hc
    · exact .inr ⟨⟨_, rfl⟩, withinLimits_eq_false_iff.mpr (.inr hc)⟩
    · refine .inl ⟨rfl, ?_⟩
      rw [← Bool.not_eq_false, withinLimits_eq_false_iff]
      omega

theorem size_le_of_mem : ∀ {ns : List Py.AstNode} {n : Py.AstNode}, n ∈ ns →
    Py.astMaxDepth n ≤ Py.astMaxDepths ns ∧ Py.astNodeCount n ≤ Py.astNodeCounts ns
  | m :: ns, n, h => by
    rw [Py.astMaxDepths, Py.astNodeCounts]
    rcases mem_cons.mp h with rfl | hmem
    · omega
    · have ih := size_le_of_mem hmem
      omega

variable {ns : List Py.AstNode}

theorem withinLimits_of_child (hmem : n ∈ ns) (h : Py.withinLimits n = false) :
    Py.withinLimits (.and ns) = false ∧ Py.withinLimits (.or ns) = false := by
  have hle := size_le_of_mem hmem
  rw [withinLimits_eq_false_iff] at h
  rw [withinLimits_eq_false_iff, withinLimits_eq_false_iff]
  simp only [Py.astMaxDepth, Py.astNodeCount]
  omega

/-! ## Leaves -/

section

variable {eng : Engines} {es' es : List (String × Value)} {k : String}

theorem rust_forbidExtra_eq_ok {allowed : List String} {ruleId kind path : String} {index : Nat}
    {u : Unit} : Rust.forbidExtra ruleId allowed kind path index es = .ok u
      ↔ extraKey allowed es = none := by
  unfold Rust.forbidExtra
  cases extraKey allowed es <;> simp [Rust.malformed]

theorem py_forbidExtra_eq_some {allowed : List String} {u : Unit} :
    Py.forbidExtra allowed es = some u ↔ extraKey allowed es = none := by
  unfold Py.forbidExtra
  cases extraKey allowed es <;> simp

theorem enforceLimits_leaf {n : Rust.AstNode} (hdepth : Rust.astDepth n = 1)
    (hcount : Rust.astCount n = 1) (ruleId path : String) (index : Nat) :
    Rust.enforceLimits ruleId n path index = .ok n := by
  unfold Rust.enforceLimits
  rw [hdepth, hcount, if_neg (by decide), if_neg (by decide)]

theorem boundedString_eq_some {f : String} : Py.boundedString es k = some f
    ↔ stringEntry es k = some f ∧ f.isEmpty = false ∧ f.length ≤ maxFieldLen := by
  unfold Py.boundedString
  rw [bind_eq_some_iff]
  constructor
  · rintro ⟨s, hs, hf⟩
    split_ifs at hf with hbad
    cases hf
    simpa [hs] using hbad
  · rintro ⟨hs, hne, hlen⟩
    exact ⟨f, hs, if_neg (by simp [hne, hlen])⟩

theorem ShortName.bounded (h : ShortName es k) :
    ∃ f, stringEntry es k = some f ∧ f.isEmpty = false ∧ byteLen f ≤ maxFieldLen
      ∧ Py.boundedString es k = some f := by
  obtain ⟨f, hf, hne, hbytes⟩ := h
  exact ⟨f, hf, hne, hbytes,
    boundedString_eq_some.mpr ⟨hf, hne, (length_le_byteLen f).trans hbytes⟩⟩

theorem nameRefused_of_rust (hne : ((stringEntry es k).getD "").isEmpty = false)
    (hbytes : byteLen ((stringEntry es k).getD "") ≤ maxFieldLen) : nameRefused es k = false := by
  unfold nameRefused
  cases hf : stringEntry es k with
  | none =>
    rw [hf] at hne
    cases hne
  | some f =>
    rw [hf, getD_some] at hne hbytes
    have hlen : f.length ≤ maxFieldLen := (length_le_byteLen f).trans hbytes
    simp [hne, hlen]

theorem nameRefused_of_bounded {f : String} (h : Py.boundedString es k = some f) :
    nameRefused es k = false := by
  obtain ⟨hf, hne, hlen⟩ := boundedString_eq_some.mp h
  simp [nameRefused, hf, hne, hlen]

/-- **The checks of a condition in Rust.** -/
theorem parseConditionNode_eq_ok {ruleId path : String} {index : Nat} {n : Rust.AstNode} :
    Rust.parseConditionNode eng ruleId es path index = .ok n
      ↔ extraKey conditionKeys es = none
        ∧ (Op.ofName ((stringEntry es "op").getD "eq")).isSome = true
        ∧ ((stringEntry es "field").getD "").isEmpty = false
        ∧ byteLen ((stringEntry es "field").getD "") ≤ maxFieldLen
        ∧ (((es.lookup "value").getD .null).isNull = true
          ∨ byteLen (Rust.display eng ((es.lookup "value").getD .null)) ≤ maxValueLen)
        ∧ Rust.conditionNode eng ruleId ((stringEntry es "op").getD "eq")
            ((stringEntry es "field").getD "") ((es.lookup "value").getD .null) path index
          = .ok n := by
  unfold Rust.parseConditionNode
  rw [except_bind_eq_ok]
  simp only [rust_forbidExtra_eq_ok, exists_const]
  refine and_congr_right fun _ => ?_
  split_ifs with hop hempty hlong hvalue
  case neg =>
    have hshort : ((es.lookup "value").getD .null).isNull = true
        ∨ byteLen (Rust.display eng ((es.lookup "value").getD .null)) ≤ maxValueLen := by
      rw [or_iff_not_imp_left]
      intro hnull
      simpa [hnull] using hvalue
    have hknown : (Op.ofName ((stringEntry es "op").getD "eq")).isSome :=
      isSome_iff_ne_none.mpr (by simpa using hop)
    have hfield : ((stringEntry es "field").getD "").isEmpty = false := by simpa using hempty
    simp [hknown, hfield, hshort, not_lt.mp hlong]
  all_goals simp_all [Rust.malformed]

theorem validateCondition_eq_some {n : Py.AstNode} : Py.validateCondition eng es = some n
    ↔ extraKey conditionKeys es = none ∧ ∃ op f, Py.conditionOp es = some op
      ∧ Py.boundedString es "field" = some f
      ∧ Py.withinCap eng.py ((es.lookup "value").getD .null) = true
      ∧ n = .condition op f ((es.lookup "value").getD .null) := by
  unfold Py.validateCondition
  simp only [Option.bind_eq_bind, bind_eq_some_iff, py_forbidExtra_eq_some, exists_const]
  refine and_congr_right fun _ => exists_congr fun op => ?_
  rw [← exists_and_left]
  refine exists_congr fun f => and_congr_right fun _ => and_congr_right fun _ => ?_
  have hcap : (!((es.lookup "value").getD .null).isNull
      && decide (maxValueLen < (((es.lookup "value").getD .null).pyStr eng.py).length))
      = !Py.withinCap eng.py ((es.lookup "value").getD .null) := by
    simp only [Py.withinCap, Bool.not_or, ← decide_not, Nat.not_le]
  rw [hcap]
  cases Py.withinCap eng.py ((es.lookup "value").getD .null) <;> simp [eq_comm]

theorem conditionOp_eq_some {op : String} (h : Py.conditionOp es = some op) :
    (stringEntry es "op").any (fun name => (Op.ofName name).isNone) = false := by
  unfold Py.conditionOp at h
  unfold stringEntry
  rcases hop : es.lookup "op" with _ | (_ | _ | _ | name | _ | _)
  case some.string =>
    simp only [hop] at h
    split_ifs at h with hknown
    simp only [bind_some, isString, any_some]
    exact Option.isNone_eq_false_iff.mpr hknown
  all_goals rfl

/-- **Conditions that both refuse.** -/
theorem condition_refused (hm : EntriesMirror eng.readF64 es' es) (h : conditionRefused eng es)
    (ruleId path : String) (index : Nat) :
    (∃ e, Rust.parseConditionNode eng ruleId es' path index = .error e)
      ∧ Py.validateCondition eng es = none := by
  constructor
  · cases hres : Rust.parseConditionNode eng ruleId es' path index with
    | error e => exact ⟨e, rfl⟩
    | ok n =>
      obtain ⟨hkeys, hop, hne, hbytes, hvalue, -⟩ := parseConditionNode_eq_ok.mp hres
      rw [hm.stringEntry_eq] at hop hne hbytes
      rw [hm.getD_eq, isNull_received] at hvalue
      have hop' : (stringEntry es "op").any (fun name => (Op.ofName name).isNone) = false := by
        cases hname : stringEntry es "op" with
        | none => rfl
        | some name => simpa [hname] using hop
      simp only [conditionRefused, (hm.extraKey_iff _).mp hkeys, hop',
        nameRefused_of_rust hne hbytes, isSome_none, Bool.false_or, Bool.and_eq_true,
        Bool.not_eq_true', decide_eq_true_eq] at h
      rcases hvalue with hnull | hshort
      · rw [hnull] at h
        cases h.1.1
      · omega
  · cases hres : Py.validateCondition eng es with
    | none => rfl
    | some n =>
      obtain ⟨hkeys, op, f, hop, hfield, hvalue, -⟩ := validateCondition_eq_some.mp hres
      simp only [conditionRefused, hkeys, conditionOp_eq_some hop, nameRefused_of_bounded hfield,
        isSome_none, Bool.false_or, Bool.and_eq_true, Bool.not_eq_true', decide_eq_true_eq] at h
      simp only [Py.withinCap, h.1.1, Bool.false_or, decide_eq_true_eq] at hvalue
      omega

variable {field op : String} {value : Value}

theorem condition_accepted (hre : eng.RegexLawful) (hfield : field.isEmpty = false)
    (hbytes : byteLen field ≤ maxFieldLen) (hvalue : ValueCap eng value)
    (hpattern : op = "regex" → SafePattern value) (ruleId path : String) (index : Nat) :
    ∃ c, SameCondition eng c op field value
      ∧ Rust.conditionNode eng ruleId op field (value.received eng.readF64) path index
        = .ok (.condition c) := by
  unfold Rust.conditionNode
  by_cases hop : op = "regex"
  · obtain ⟨pattern, hstring, hne, hlen, hascii⟩ := hpattern hop
    obtain ⟨re, hcompiled, -⟩ := hre.rust pattern hascii
    have hdoc : value.received eng.readF64 = .string pattern := by
      rw [hstring]
      rfl
    have hnode : Rust.compileNodeRegex eng ruleId (.string pattern) path index = .ok re := by
      have hcap : ¬ (pattern.isEmpty || decide (maxRegexPatternLen < byteLen pattern)) := by
        simp [hne, hlen]
      refine (if_neg hcap).trans ?_
      simp only [isString, getD_some, hcompiled]
    refine ⟨⟨op, field, .string pattern, some re⟩, ⟨hfield, hbytes, hvalue, hpattern, ?_⟩, ?_⟩
    · exact parseCondition_regex (c := rawCondition op field value) rfl hfield hbytes hop hstring
        hne hlen hcompiled
    · rw [if_pos hop, hdoc, hnode]
      exact enforceLimits_leaf rfl rfl ruleId path index
  · refine ⟨⟨op, field, value.received eng.readF64, none⟩,
      ⟨hfield, hbytes, hvalue, hpattern, ?_⟩, ?_⟩
    · exact parseCondition_eq (c := rawCondition op field value) rfl hfield hbytes hop
    · rw [if_neg hop]
      exact enforceLimits_leaf rfl rfl ruleId path index

/-- **Conditions that both accept.** -/
theorem condition_clear (hre : eng.RegexLawful) (hm : EntriesMirror eng.readF64 es' es)
    (h : ConditionClear eng es) : ∃ n, Py.validateCondition eng es = some n
      ∧ ∀ (ruleId path : String) (index : Nat), ∃ r,
        Rust.parseConditionNode eng ruleId es' path index = .ok r ∧ Corresponds eng r n
          ∧ Py.withinLimits n = true := by
  obtain ⟨f, hf, hne, hbytes, hbounded⟩ := h.field.bounded
  have hop : Py.conditionOp es = some ((stringEntry es "op").getD "eq")
      ∧ (Op.ofName ((stringEntry es "op").getD "eq")).isSome := by
    rcases h.operator with hnone | ⟨name, hname, hknown⟩
    · have heq : (Op.ofName "eq").isSome := by decide
      simp [Py.conditionOp, stringEntry, hnone, heq]
    · simp [Py.conditionOp, stringEntry, hname, isString, hknown]
  have hcap : ValueCap eng ((es.lookup "value").getD .null) :=
    h.value.imp id (fun hshort => iff_of_true hshort.1 hshort.2)
  have hpattern : (stringEntry es "op").getD "eq" = "regex" →
      SafePattern ((es.lookup "value").getD .null) := by
    intro hregex
    apply h.pattern
    cases hentry : stringEntry es "op" with
    | none =>
      rw [hentry] at hregex
      exact absurd hregex (by decide)
    | some name =>
      rw [hentry] at hregex
      exact congrArg some hregex
  refine ⟨_, validateCondition_eq_some.mpr ⟨h.keys, _, f, hop.1, hbounded, ?_, rfl⟩, ?_⟩
  · rcases h.value with hnull | hshort
    · rw [hnull]
      rfl
    · simp [Py.withinCap, hshort.2]
  · intro ruleId path index
    obtain ⟨c, hsame, hnode⟩ := condition_accepted hre hne hbytes hcap hpattern ruleId path index
    refine ⟨.condition c, parseConditionNode_eq_ok.mpr ?_, hsame, rfl⟩
    rw [hm.stringEntry_eq, hm.stringEntry_eq, hm.getD_eq, isNull_received, hf]
    refine ⟨(hm.extraKey_iff _).mpr h.keys, hop.2, hne, hbytes, ?_, hnode⟩
    rcases h.value with hnull | hshort
    · rw [hnull]
      exact .inl rfl
    · exact .inr hshort.1

theorem objectOrNull_received {read : FiniteF64 → FiniteF64} {v : Value} :
    Rust.objectOrNull (v.received read) = Rust.objectOrNull v := by
  rcases v with _ | _ | (_ | _ | _) | _ | _ | _ <;> rfl

theorem parseCustomSignal_eq_ok {ruleId path : String} {index : Nat} {n : Rust.AstNode} :
    Rust.parseCustomSignal ruleId es path index = .ok n
      ↔ extraKey customSignalKeys es = none
        ∧ Rust.badName ((stringEntry es "plugin_id").getD "") = false
        ∧ Rust.badName ((stringEntry es "output_key").getD "") = false
        ∧ Rust.objectOrNull ((es.lookup "params").getD .null) = true
        ∧ .customSignal ((stringEntry es "plugin_id").getD "")
          ((stringEntry es "output_key").getD "")
          = n := by
  unfold Rust.parseCustomSignal
  rw [except_bind_eq_ok]
  simp only [rust_forbidExtra_eq_ok, exists_const]
  refine and_congr_right fun _ => ?_
  split_ifs
  case neg =>
    rw [enforceLimits_leaf rfl rfl]
    simp_all
  all_goals simp_all [Rust.malformed]

theorem validateCustomSignal_eq_some {n : Py.AstNode} : Py.validateCustomSignal eng es = some n
    ↔ extraKey customSignalKeys es = none ∧ ∃ p k, Py.boundedString es "plugin_id" = some p
      ∧ Py.boundedString es "output_key" = some k ∧ Py.paramsOk eng (es.lookup "params") = true
      ∧ .customSignal p k = n := by
  unfold Py.validateCustomSignal
  simp only [Option.bind_eq_bind, bind_eq_some_iff, py_forbidExtra_eq_some, exists_const,
    Option.ite_none_right_eq_some, some.injEq, exists_and_left]

theorem badName_eq_false {f : String} :
    Rust.badName f = false ↔ f.isEmpty = false ∧ byteLen f ≤ maxFieldLen := by
  simp [Rust.badName]

variable (eng) in
/-- **Custom signals that both refuse.** -/
theorem signal_refused (hm : EntriesMirror eng.readF64 es' es) (h : signalRefused es)
    (ruleId path : String) (index : Nat) :
    (∃ e, Rust.parseCustomSignal ruleId es' path index = .error e)
      ∧ Py.validateCustomSignal eng es = none := by
  constructor
  · cases hres : Rust.parseCustomSignal ruleId es' path index with
    | error e => exact ⟨e, rfl⟩
    | ok n =>
      obtain ⟨hkeys, hplugin, houtput, hparams, -⟩ := parseCustomSignal_eq_ok.mp hres
      rw [hm.stringEntry_eq, badName_eq_false] at hplugin houtput
      rw [hm.getD_eq, objectOrNull_received] at hparams
      simp only [signalRefused, (hm.extraKey_iff _).mp hkeys,
        nameRefused_of_rust hplugin.1 hplugin.2, nameRefused_of_rust houtput.1 houtput.2,
        isSome_none, Bool.false_or] at h
      cases hentry : es.lookup "params" with
      | none => simp [hentry] at h
      | some params => simp_all
  · cases hres : Py.validateCustomSignal eng es with
    | none => rfl
    | some n =>
      obtain ⟨hkeys, p, key, hplugin, houtput, hparams, -⟩ := validateCustomSignal_eq_some.mp hres
      simp only [signalRefused, hkeys, nameRefused_of_bounded hplugin,
        nameRefused_of_bounded houtput, isSome_none, Bool.false_or] at h
      rcases hentry : es.lookup "params" with _ | (_ | _ | _ | _ | _ | _) <;>
        simp_all [Py.paramsOk, Rust.objectOrNull]

/-- **Custom signals that both accept.** -/
theorem signal_clear (hm : EntriesMirror eng.readF64 es' es) (h : SignalClear eng es) :
    ∃ n, Py.validateCustomSignal eng es = some n
      ∧ ∀ (ruleId path : String) (index : Nat), ∃ r,
        Rust.parseCustomSignal ruleId es' path index = .ok r ∧ Corresponds eng r n
          ∧ Py.withinLimits n = true := by
  obtain ⟨p, hp, hne, hbytes, hbounded⟩ := h.pluginId.bounded
  obtain ⟨key, hk, hne', hbytes', hbounded'⟩ := h.outputKey.bounded
  have hparams : Py.paramsOk eng (es.lookup "params")
      ∧ Rust.objectOrNull ((es.lookup "params").getD .null) := by
    rcases h.params with hnone | ⟨ps, hps, hlen⟩
    · rw [hnone]
      exact ⟨rfl, rfl⟩
    · rw [hps]
      exact ⟨decide_eq_true hlen, rfl⟩
  refine ⟨_, validateCustomSignal_eq_some.mpr
    ⟨h.keys, p, key, hbounded, hbounded', hparams.1, rfl⟩, ?_⟩
  intro ruleId path index
  refine ⟨.customSignal p key, parseCustomSignal_eq_ok.mpr ?_, ⟨rfl, rfl⟩, rfl⟩
  rw [hm.stringEntry_eq, hm.stringEntry_eq, hm.getD_eq, objectOrNull_received, hp, hk]
  exact ⟨(hm.extraKey_iff _).mpr h.keys, badName_eq_false.mpr ⟨hne, hbytes⟩,
    badName_eq_false.mpr ⟨hne', hbytes'⟩, hparams.2, rfl⟩

/-! ## Whole trees -/

theorem checkComposite_agree (hm : EntriesMirror eng.readF64 es' es) (ruleId typ : String)
    (b : Bool) (count : Nat) (path : String) (index : Nat) :
    (Rust.checkComposite ruleId typ es' b count path index = .ok () ∧ Py.compositeOk es b count)
      ∨ ((∃ e, Rust.checkComposite ruleId typ es' b count path index = .error e)
        ∧ Py.compositeOk es b count = false) := by
  have hextra := hm.extraKey_iff compositeKeys
  unfold Rust.checkComposite Rust.forbidExtra Py.compositeOk
  cases hrust : extraKey compositeKeys es' with
  | some k =>
    have hsome : (extraKey compositeKeys es).isNone = false := by
      rw [← Bool.not_eq_true, isNone_iff_eq_none, ← hextra, hrust]
      simp
    rw [hsome]
    exact .inr ⟨⟨_, rfl⟩, rfl⟩
  | none =>
    rw [hextra.mp hrust]
    cases b with
    | false => exact Or.inr ⟨⟨_, rfl⟩, rfl⟩
    | true =>
      rw [if_neg (by decide)]
      by_cases hzero : count = 0
      · rw [hzero]
        exact .inr ⟨⟨_, rfl⟩, rfl⟩
      · rw [if_neg hzero]
        split_ifs with hmany
        · exact .inr ⟨⟨_, rfl⟩, by simp [hmany]⟩
        · exact .inl ⟨rfl, by simp; omega⟩

mutual

/-- **Documents that both refuse**: Rust stops at the first bad node, Python validates them all. -/
theorem refused_both (tables : Py.Tables) (ruleId : String) :
    ∀ r p : NodeView, Mirrors eng.readF64 r p → refused eng tables p →
      (∀ path index, ∃ e, Rust.parseAstStrictCtx eng ruleId r path index = .error e)
        ∧ Py.validate eng tables p = none
  | .notObject, .notObject, _, _ => ⟨fun _ _ => ⟨_, rfl⟩, rfl⟩
  | .notObject, .node .., h, _ => absurd h (by simp [Mirrors])
  | .node .., .notObject, h, _ => absurd h (by simp [Mirrors])
  | .node es' b' cs', .node es b cs, hm, hp => by
    rw [Mirrors] at hm
    obtain ⟨hentries, rfl, hchildren⟩ := hm
    rw [refused] at hp
    simp only [Rust.parseAstStrictCtx, Py.validate, hentries.stringEntry_eq]
    cases htype : stringEntry es "type" with
    | none => exact ⟨fun _ _ => ⟨_, rfl⟩, rfl⟩
    | some typ =>
      simp only [htype] at hp ⊢
      by_cases hcond : typ = "condition"
      · simp only [if_pos hcond] at hp ⊢
        refine ⟨fun path index => ?_, (condition_refused hentries hp ruleId "" 0).2⟩
        obtain ⟨e, he⟩ := (condition_refused hentries hp ruleId path index).1
        exact ⟨e, by rw [he]; rfl⟩
      by_cases hsignal : typ = "custom_signal"
      · simp only [if_neg hcond, if_pos hsignal] at hp ⊢
        refine ⟨fun path index => ?_, (signal_refused eng hentries hp ruleId "" 0).2⟩
        obtain ⟨e, he⟩ := (signal_refused eng hentries hp ruleId path index).1
        exact ⟨e, by rw [he]; rfl⟩
      by_cases hgraph : typ = "graph_v1"
      · have hother : ¬ (typ = "and" ∨ typ = "or") := by
          rw [hgraph]
          decide
        -- to Rust this is an unknown type
        simp only [if_neg hcond, if_neg hsignal, if_pos hgraph, if_neg hother] at hp ⊢
        exact ⟨fun _ _ => ⟨_, rfl⟩, isNone_iff_eq_none.mp hp⟩
      by_cases hcomposite : typ = "and" ∨ typ = "or"
      · simp only [if_neg hcond, if_neg hsignal, if_neg hgraph, if_pos hcomposite] at hp ⊢
        rw [Bool.or_eq_true, Bool.not_eq_true'] at hp
        rw [hchildren.length_eq]
        rcases hp with hbad | hany
        · refine ⟨fun path index => ?_, if_neg (by simp [hbad])⟩
          rcases checkComposite_agree hentries ruleId typ b' cs.length path index with
            ⟨-, hok⟩ | ⟨⟨e, hr⟩, -⟩
          · rw [hbad] at hok
            cases hok
          · exact ⟨e, by rw [hr]⟩
        · -- a bad child below a node that may itself be bad for Rust, which looks at it first
          obtain ⟨hrust, hpy⟩ := refusedAny_both tables ruleId cs' cs hchildren hany
          refine ⟨fun path index => ?_, by rw [hpy]; exact ite_self none⟩
          obtain ⟨e, he⟩ := hrust path 0 (index + 1)
          rcases checkComposite_agree hentries ruleId typ b' cs.length path index with
            ⟨hr, -⟩ | ⟨⟨e', hr⟩, -⟩
          · exact ⟨e, by rw [hr, he]; rfl⟩
          · exact ⟨e', by rw [hr]⟩
      · simp only [if_neg hcond, if_neg hsignal, if_neg hgraph, if_neg hcomposite]
        exact ⟨fun _ _ => ⟨_, rfl⟩, trivial⟩

theorem refusedAny_both (tables : Py.Tables) (ruleId : String) :
    ∀ rs ps : List NodeView, MirrorsAll eng.readF64 rs ps → refusedAny eng tables ps →
      (∀ path i index, ∃ e, Rust.parseChildren eng ruleId rs path i index = .error e)
        ∧ Py.validateAll eng tables ps = none
  | [], [], _, h => absurd h (by simp [refusedAny])
  | [], _ :: _, h, _ => absurd h (by simp [MirrorsAll])
  | _ :: _, [], h, _ => absurd h (by simp [MirrorsAll])
  | r :: rs, p :: ps, hm, hp => by
    rw [MirrorsAll] at hm
    rw [refusedAny, Bool.or_eq_true] at hp
    simp only [Rust.parseChildren, Py.validateAll]
    rcases hp with hhead | htail
    · obtain ⟨hrust, hpy⟩ := refused_both tables ruleId r p hm.1 hhead
      refine ⟨fun path i index => ?_, by rw [hpy]⟩
      obtain ⟨e, he⟩ := hrust (path ++ ".children[" ++ toString i ++ "]") index
      exact ⟨e, by rw [he]⟩
    · obtain ⟨hrust, hpy⟩ := refusedAny_both tables ruleId rs ps hm.2 htail
      refine ⟨fun path i index => ?_, by rw [hpy]; split <;> simp_all⟩
      cases Rust.parseAstStrictCtx eng ruleId r
        (path ++ ".children[" ++ toString i ++ "]") index with
      | error e => exact ⟨e, rfl⟩
      | ok parsed =>
        obtain ⟨e, he⟩ := hrust path (i + 1) parsed.2
        exact ⟨e, by simp only [he]⟩

end

/-- What Rust makes of a node that Python accepts: a corresponding tree, or an error where the tree
is beyond the limits. -/
def Parsed (eng : Engines) (rust : Except Rust.AstMalformed (Rust.AstNode × Nat))
    (n : Py.AstNode) : Prop :=
  (∃ r next, rust = .ok (r, next) ∧ Corresponds eng r n ∧ Py.withinLimits n = true)
    ∨ ((∃ e, rust = .error e) ∧ Py.withinLimits n = false)

def ParsedAll (eng : Engines) (rust : Except Rust.AstMalformed (List Rust.AstNode × Nat))
    (ns : List Py.AstNode) : Prop :=
  (∃ rs next, rust = .ok (rs, next) ∧ CorrespondAll eng rs ns)
    ∨ ((∃ e, rust = .error e) ∧ ∃ n ∈ ns, Py.withinLimits n = false)

theorem parsed_leaf {rust : Except Rust.AstMalformed Rust.AstNode}
    (h : ∃ r, rust = .ok r ∧ Corresponds eng r n ∧ Py.withinLimits n = true) (next : Nat) :
    Parsed eng (rust.map (fun r => (r, next))) n := by
  obtain ⟨r, rfl, hcorr, hwithin⟩ := h
  exact .inl ⟨r, next, rfl, hcorr, hwithin⟩

theorem corresponds_composite {rs : List Rust.AstNode}
    (h : CorrespondAll eng rs ns) (typ : String) :
    Corresponds eng (if typ = "and" then .and rs else .or rs)
      (if typ = "and" then .and ns else .or ns) := by
  split_ifs
  · exact h
  · exact h

theorem parsed_composite {rust : Except Rust.AstMalformed (List Rust.AstNode × Nat)}
    (h : ParsedAll eng rust ns) (ruleId typ path : String) (index : Nat) :
    Parsed eng (rust.bind (Rust.composite ruleId typ path index))
      (if typ = "and" then .and ns else .or ns) := by
  rcases h with ⟨rs, next, rfl, hall⟩ | ⟨⟨e, rfl⟩, child, hmem, hchild⟩
  · have hnode := corresponds_composite hall typ
    rcases enforceLimits_agree hnode ruleId path index with ⟨hr, hwithin⟩ | ⟨⟨e, hr⟩, hwithin⟩
    · refine .inl ⟨_, next, ?_, hnode, hwithin⟩
      simp [Except.bind, Rust.composite, hr, Except.map]
    · refine .inr ⟨⟨e, ?_⟩, hwithin⟩
      simp [Except.bind, Rust.composite, hr, Except.map]
  · -- Rust has stopped at the child whose own subtree is beyond the limits
    have hlimits := withinLimits_of_child hmem hchild
    refine .inr ⟨⟨e, rfl⟩, ?_⟩
    split_ifs
    · exact hlimits.1
    · exact hlimits.2

mutual

/-- **Documents that both accept**, up to the limits. -/
theorem clear_agree (hre : eng.RegexLawful) (tables : Py.Tables) (ruleId : String) :
    ∀ r p : NodeView, Mirrors eng.readF64 r p → Clear eng p →
      ∃ n, Py.validate eng tables p = some n
        ∧ ∀ path index, Parsed eng (Rust.parseAstStrictCtx eng ruleId r path index) n
  | .notObject, .notObject, _, h => absurd h (by simp [Clear])
  | .notObject, .node .., h, _ => absurd h (by simp [Mirrors])
  | .node .., .notObject, h, _ => absurd h (by simp [Mirrors])
  | .node es' b' cs', .node es b cs, hm, hp => by
    rw [Mirrors] at hm
    obtain ⟨hentries, rfl, hchildren⟩ := hm
    rw [Clear] at hp
    simp only [Rust.parseAstStrictCtx, Py.validate, hentries.stringEntry_eq]
    cases htype : stringEntry es "type" with
    | none =>
      rw [htype] at hp
      exact hp.elim
    | some typ =>
      simp only [htype] at hp ⊢
      by_cases hcond : typ = "condition"
      · simp only [if_pos hcond] at hp ⊢
        obtain ⟨n, hn, hrust⟩ := condition_clear hre hentries hp
        exact ⟨n, hn, fun path index => parsed_leaf (hrust ruleId path index) _⟩
      by_cases hsignal : typ = "custom_signal"
      · simp only [if_neg hcond, if_pos hsignal] at hp ⊢
        obtain ⟨n, hn, hrust⟩ := signal_clear hentries hp
        exact ⟨n, hn, fun path index => parsed_leaf (hrust ruleId path index) _⟩
      by_cases hcomposite : typ = "and" ∨ typ = "or"
      · have hgraph : typ ≠ "graph_v1" := by
          rintro rfl
          exact absurd hcomposite (by decide)
        simp only [if_neg hcond, if_neg hsignal, if_neg hgraph, if_pos hcomposite] at hp ⊢
        obtain ⟨ns, hns, hrust⟩ := clear_agree_all hre tables ruleId cs' cs hchildren hp.2
        refine ⟨_, by rw [if_pos hp.1, hns]; rfl, fun path index => ?_⟩
        rw [hchildren.length_eq]
        rcases checkComposite_agree hentries ruleId typ b' cs.length path index with
          ⟨hr, -⟩ | ⟨-, hbad⟩
        · simp only [hr]
          exact parsed_composite (hrust path 0 (index + 1)) ruleId typ path index
        · rw [hp.1] at hbad
          cases hbad
      · simp only [if_neg hcond, if_neg hsignal, if_neg hcomposite] at hp

theorem clear_agree_all (hre : eng.RegexLawful) (tables : Py.Tables) (ruleId : String) :
    ∀ rs ps : List NodeView, MirrorsAll eng.readF64 rs ps → AllClear eng ps →
      ∃ ns, Py.validateAll eng tables ps = some ns
        ∧ ∀ path i index, ParsedAll eng (Rust.parseChildren eng ruleId rs path i index) ns
  | [], [], _, _ => ⟨[], rfl, fun _ _ index => .inl ⟨[], index, rfl, trivial⟩⟩
  | [], _ :: _, h, _ => absurd h (by simp [MirrorsAll])
  | _ :: _, [], h, _ => absurd h (by simp [MirrorsAll])
  | r :: rs, p :: ps, hm, hp => by
    rw [MirrorsAll] at hm
    rw [AllClear] at hp
    obtain ⟨n, hn, hhead⟩ := clear_agree hre tables ruleId r p hm.1 hp.1
    obtain ⟨ns, hns, htail⟩ := clear_agree_all hre tables ruleId rs ps hm.2 hp.2
    refine ⟨n :: ns, by rw [Py.validateAll, hn, hns], fun path i index => ?_⟩
    rw [Rust.parseChildren]
    rcases hhead (path ++ ".children[" ++ toString i ++ "]") index with
      ⟨r', next, hr, hcorr, -⟩ | ⟨⟨e, hr⟩, hbeyond⟩
    · rw [hr]
      rcases htail path (i + 1) next with ⟨rs', next', hrs, hcorrs⟩ | ⟨⟨e, hrs⟩, m, hmem, hbeyond⟩
      · simp only [hrs]
        exact .inl ⟨r' :: rs', next', rfl, hcorr, hcorrs⟩
      · simp only [hrs]
        exact .inr ⟨⟨e, rfl⟩, m, mem_cons_of_mem _ hmem, hbeyond⟩
    · rw [hr]
      exact .inr ⟨⟨e, rfl⟩, n, mem_cons_self, hbeyond⟩

end

end

/-! ## Evaluation -/

section

variable (eng : Engines) (tables : Py.Tables) (features : KeyMap Value)

mutual

/-- The leaves that an evaluation reaches evaluate alike: portable operands, and a value for every
custom signal. An `and` ends at the first child that is false, an `or` at the first that is true. -/
def ReachedPortable : Py.AstNode → Prop
  | .condition op field value => ∀ o, Op.ofName op = some o →
      OperandsPortable eng o (features.get? field) value
  | .customSignal _ key =>
    (strip key).isEmpty = false ∧ (features.get? (strip key)).isSome = true
  | .graphV1 .. => False
  | .and children => AllReachedPortable children
  | .or children => AnyReachedPortable children

def AllReachedPortable : List Py.AstNode → Prop
  | [] => True
  | n :: ns => ReachedPortable n
      ∧ (Py.evaluateJsonAst eng tables features n = true → AllReachedPortable ns)

def AnyReachedPortable : List Py.AstNode → Prop
  | [] => True
  | n :: ns => ReachedPortable n
      ∧ (Py.evaluateJsonAst eng tables features n = false → AnyReachedPortable ns)

end

end

section

variable {eng : Engines} {features : KeyMap Value} {op field : String} {value : Value}

theorem condition_eval_agree (hpy : eng.py.Lawful) (hre : eng.RegexLawful) {c : Rust.Condition}
    (hsame : SameCondition eng c op field value)
    (hops : ∀ o, Op.ofName op = some o → OperandsPortable eng o (features.get? field) value) :
    Py.matchCondition eng features (rawCondition op field value)
      = .ok (Rust.matchCondition eng (features.map (received eng.readF64)) c) := by
  have hmatched : Matched eng features (rawCondition op field value) field :=
    ⟨rfl, hsame.fieldCap, hsame.valueCap, hsame.pattern, fun _ => .inr ⟨op, rfl⟩, fun _ => hops⟩
  obtain ⟨cond, hparsed, hmatch⟩ := matched_agree hpy hre hmatched hsame.nonempty
  obtain rfl : cond = c := some.inj (Except.ok.inj (hparsed.symm.trans hsame.parsed))
  have hfield : Py.fieldRefused eng.py (.string field) = false := by
    have hlen : ¬ maxFieldLen < field.length := by
      have hbytes := length_le_byteLen field
      have hcap := hsame.fieldCap
      omega
    simp [Py.fieldRefused, truthy, pyStr, hsame.nonempty, hlen]
  rw [hmatch, py_matchCondition_eq rfl hfield]

mutual

/-- **Corresponding trees evaluate alike.** -/
theorem eval_agree (hpy : eng.py.Lawful) (hre : eng.RegexLawful) (tables : Py.Tables) :
    ∀ (r : Rust.AstNode) (n : Py.AstNode), Corresponds eng r n →
      ReachedPortable eng tables features n →
      Rust.evalAst eng (features.map (received eng.readF64)) r
        = Py.evaluateJsonAst eng tables features n
  | .condition c, .condition op field value, h, hf => by
    have hmatch : Py.matchCondition eng features
        ⟨some (.string op), some (.string field), some value⟩ = _ :=
      condition_eval_agree hpy hre h hf
    rw [Rust.evalAst, Py.evaluateJsonAst, hmatch]
  | .customSignal _ _, .customSignal _ key, _, hf => by
    obtain ⟨hne, hsome⟩ := hf
    rw [Rust.evalAst, Py.evaluateJsonAst, hne, hsome]
    rfl
  | .and rs, .and ns, h, hf => evalAll_agree hpy hre tables rs ns h hf
  | .or rs, .or ns, h, hf => evalAny_agree hpy hre tables rs ns h hf

theorem evalAll_agree (hpy : eng.py.Lawful) (hre : eng.RegexLawful) (tables : Py.Tables) :
    ∀ (rs : List Rust.AstNode) (ns : List Py.AstNode), CorrespondAll eng rs ns →
      AllReachedPortable eng tables features ns →
      Rust.evalAll eng (features.map (received eng.readF64)) rs
        = Py.evaluateAll eng tables features ns
  | [], [], _, _ => rfl
  | r :: rs, n :: ns, h, hf => by
    rw [CorrespondAll] at h
    rw [AllReachedPortable] at hf
    rw [Rust.evalAll, Py.evaluateAll, eval_agree hpy hre tables r n h.1 hf.1]
    -- after a child that is false nothing is read, so nothing is known of it
    cases hn : Py.evaluateJsonAst eng tables features n with
    | false => rfl
    | true => rw [evalAll_agree hpy hre tables rs ns h.2 (hf.2 hn)]

theorem evalAny_agree (hpy : eng.py.Lawful) (hre : eng.RegexLawful) (tables : Py.Tables) :
    ∀ (rs : List Rust.AstNode) (ns : List Py.AstNode), CorrespondAll eng rs ns →
      AnyReachedPortable eng tables features ns →
      Rust.evalAny eng (features.map (received eng.readF64)) rs
        = Py.evaluateAny eng tables features ns
  | [], [], _, _ => rfl
  | r :: rs, n :: ns, h, hf => by
    rw [CorrespondAll] at h
    rw [AnyReachedPortable] at hf
    rw [Rust.evalAny, Py.evaluateAny, eval_agree hpy hre tables r n h.1 hf.1]
    cases hn : Py.evaluateJsonAst eng tables features n with
    | true => rfl
    | false => rw [evalAny_agree hpy hre tables rs ns h.2 (hf.2 hn)]

end

end

open Reference

/-- Tables that are those of CPython on ASCII; without a hop every graph atom is false. -/
def Reference.tables : Py.Tables where
  upper := fun s => String.ofList (s.toList.map Char.toUpper)
  isAlpha := Char.isAlpha
  isAlnum := Char.isAlphanum
  evalGraphV1 := fun _ _ _ _ => false

/-- A condition and a custom signal below an `or`. -/
def Reference.nested : Document where
  value := .object [("type", .string "or"), ("children", .array [
    .object [("type", .string "condition"), ("field", .string "vpn"), ("value", .bool true)],
    .object [("type", .string "custom_signal"), ("plugin_id", .string "geo"),
      ("output_key", .string "geo_score")]])]
  distinct := by decide +kernel

def Reference.signal : Document where
  value := .object [("type", .string "custom_signal"), ("plugin_id", .string "geo"),
    ("output_key", .string "geo_score")]
  distinct := by decide +kernel

def Reference.graphAtom : Document where
  value := .object [("type", .string "graph_v1"), ("atom", .string "has_multi_id")]
  distinct := by decide +kernel

theorem Reference.nested_clear : Clear engines (nodeView nested.value) := by
  have hcondition : ConditionClear engines [("type", .string "condition"),
      ("field", .string "vpn"), ("value", .bool true)] :=
    ⟨by decide +kernel, .inl (by decide +kernel),
      ⟨"vpn", by decide +kernel, by decide +kernel, by decide +kernel⟩,
      .inr (by decide +kernel), fun hop => absurd hop (by decide +kernel)⟩
  have hsignal : SignalClear engines [("type", .string "custom_signal"),
      ("plugin_id", .string "geo"), ("output_key", .string "geo_score")] :=
    ⟨by decide +kernel, ⟨"geo", by decide +kernel, by decide +kernel, by decide +kernel⟩,
      ⟨"geo_score", by decide +kernel, by decide +kernel, by decide +kernel⟩, .inl rfl⟩
  exact ⟨by decide +kernel, hcondition, hsignal, trivial⟩

end Tarka.Rules
