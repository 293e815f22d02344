import Tarka.Lib.Loop
import Tarka.Rules.Condition

/-! # Where the two condition matchers agree

The Rust matcher and its Python fallback measure lengths in bytes and in characters, compare
values as values and as texts, and write doubles and object keys differently; and a double may
change on its way to Rust. `Portable` collects what keeps a condition clear of these differences,
for what is read of it: a condition that is given up at its field or at the length of its value is
not read further.

**`matched_agree`**: a condition past its field is parsed by Rust and matched alike. -/

namespace Tarka.Rules

open Tarka.Lib Tarka.Json List Value

/-- What the regular expression engines document about the expressions built from wildcard
patterns, for ASCII patterns and texts. In Python `$` also matches before a newline at the end. -/
structure Engines.RegexLawful (eng : Engines) : Prop where
  rust : ∀ pattern, isAscii pattern = true →
    ∃ re, eng.regexNew (Rust.buildSafeRegexPattern pattern) = .ok re
      ∧ ∀ s, isAscii s = true → re s = globMatch pattern.toList s.toList
  python : ∀ pattern s, isAscii pattern = true → isAscii s = true →
    eng.reMatch (Py.safeRe pattern) s
      = (globMatch pattern.toList s.toList
        || (decide (s.toList.getLast? = some '\n') && globMatch pattern.toList s.toList.dropLast))

/-! ## Conditions clear of the differences -/

/-- A value that both engines write alike: it comes through as it is, with its keys in order, and
its doubles have the same text. -/
structure SameText (eng : Engines) (v : Value) : Prop where
  intact : v.received eng.readF64 = v
  floats : v.allFloats (fun x => eng.displayF64 x == eng.py.reprFloat x) = true

/-- Two doubles, or two collections, which may have doubles at the same place. -/
def doublesMeet : Value → Value → Bool
  | .number (.float _), .number (.float _) => true
  | .array _, .array _ => true
  | .object _, .object _ => true
  | _, _ => false

/-- Doubles that are compared alike as values and as texts. -/
structure PlainDoubles (eng : Engines) (v : Value) : Prop where
  survives : v.Survives eng.readF64
  unsigned : v.noNegZero = true

def Comparable (eng : Engines) (a e : Value) : Prop :=
  doublesMeet a e = true → PlainDoubles eng a ∧ PlainDoubles eng e

/-- What an operator reads of its operands is read alike. -/
def OperandsPortable (eng : Engines) (op : Op) (actual : Option Value) (expected : Value) : Prop :=
  match op with
  | .eq | .notEq => ∀ a ∈ actual, Comparable eng a expected
  | .gte | .gt | .lte | .lt => ∀ m n, actual = some (.number m) → expected = .number n →
      (Value.number m).Survives eng.readF64 ∧ (Value.number n).Survives eng.readF64
  | .in_ | .notIn => ∀ items, isArray expected = some items →
      actual.elim (.null ∉ items)
        (fun a => Decided (Comparable eng a) (Py.jsonCollectionEquals eng a) items)
  | .contains =>
    SameText eng expected ∧ (expected ≠ .string "" → SameText eng (actual.getD .null))
  | .regex =>
    SameText eng (actual.getD .null)
    ∧ isAscii (Py.jsonValueDisplayForRegex eng (actual.getD .null)) = true
    ∧ (Py.jsonValueDisplayForRegex eng (actual.getD .null)).toList.getLast? ≠ some '\n'
  | _ => True

/-- A pattern that both engines accept and of which their documentation speaks. -/
def SafePattern (v : Value) : Prop :=
  ∃ pattern, v = .string pattern ∧ pattern.isEmpty = false ∧ byteLen pattern ≤ maxRegexPatternLen
    ∧ isAscii pattern = true

/-- A value that is within the cap in both measures, or in neither. -/
def ValueCap (eng : Engines) (v : Value) : Prop :=
  v = .null ∨ (byteLen (Rust.display eng (v.received eng.readF64)) ≤ maxValueLen
    ↔ (v.pyStr eng.py).length ≤ maxValueLen)

def RawCondition.opName (c : RawCondition) : String := (c.op.bind isString).getD "eq"

namespace Py

/-- The check of the field, at which most malformed conditions end. -/
def fieldRefused (t : PyText) (key : Value) : Bool :=
  !key.truthy || decide (maxFieldLen < (key.pyStr t).length)

def withinCap (t : PyText) (v : Value) : Bool :=
  v.isNull || decide ((v.pyStr t).length ≤ maxValueLen)

end Py

/-- A condition with a field, clear of the differences between the engines. A pattern is compiled
by Rust before anything is matched. -/
structure Matched (eng : Engines) (features : KeyMap Value) (c : RawCondition) (field : String) :
    Prop where
  key : c.field = some (.string field)
  fieldCap : byteLen field ≤ maxFieldLen
  valueCap : ValueCap eng (c.value.getD .null)
  pattern : c.opName = "regex" → SafePattern (c.value.getD .null)
  operator : Py.withinCap eng.py (c.value.getD .null) = true →
    c.op = none ∨ ∃ name, c.op = some (.string name)
  operands : Py.withinCap eng.py (c.value.getD .null) = true →
    ∀ op, Op.ofName c.opName = some op →
      OperandsPortable eng op (features.get? field) (c.value.getD .null)

/-- A condition that ends at its field, or that is clear of the differences. -/
def Portable (eng : Engines) (features : KeyMap Value) (c : RawCondition) : Prop :=
  Py.fieldRefused eng.py (c.field.getD .null) = true ∨ ∃ field, Matched eng features c field

/-! ## Operands as they are received -/

variable {expected : Value} {actual : Option Value} {read : FiniteF64 → FiniteF64}

theorem compareWith_received {cmp : F64 → F64 → Bool}
    (h : ∀ m n, actual = some (number m) → expected = number n →
      (number m).Survives read ∧ (number n).Survives read) :
    compareWith cmp (actual.map (received read)) (expected.received read)
      = compareWith cmp (some (actual.getD .null)) expected := by
  rcases actual with _ | (_ | _ | m | _ | _ | _)
  case some.number =>
    rcases expected with _ | _ | n | _ | _ | _
    case number =>
      obtain ⟨hm, hn⟩ := h m n rfl rfl
      rw [Option.map_some, hm.received_eq, hn.received_eq]
      rfl
    all_goals cases m <;> rfl
  all_goals rfl

theorem affixWith_received {isAffix : List Char → List Char → Bool} :
    affixWith isAffix (actual.map (received read)) (expected.received read)
      = affixWith isAffix (some (actual.getD .null)) expected := by
  rcases actual with _ | (_ | _ | (_ | _ | _) | _ | _ | _) <;>
    rcases expected with _ | _ | (_ | _ | _) | _ | _ | _ <;> rfl

theorem isArray_received (v : Value) :
    isArray (v.received read) = (isArray v).map (map (received read)) := by
  rcases v with _ | _ | (_ | _ | _) | _ | items | _
  case array =>
    rw [received_array]
    rfl
  all_goals rfl

variable {v : Value} {items : List Value}

theorem isArray_eq_some (h : isArray v = some items) : v = .array items := by
  cases v with
  | array vs =>
    cases h
    rfl
  | _ => cases h

theorem isNull_received : (v.received read).isNull = v.isNull := by
  rcases v with _ | _ | (_ | _ | _) | _ | _ | _ <;> rfl

theorem isString_received {v : Option Value} :
    (v.map (received read)).bind isString = v.bind isString := by
  rcases v with _ | (_ | _ | (_ | _ | _) | _ | _ | _) <;> rfl

theorem getD_received {v : Option Value} :
    (v.map (received read)).getD .null = (v.getD .null).received read := by
  cases v <;> rfl

theorem length_le_byteLen (s : String) : s.length ≤ byteLen s := by
  have hchars : ∀ cs : List Char, cs.length ≤ (cs.flatMap String.utf8EncodeChar).length := by
    intro cs
    induction cs with
    | nil => simp
    | cons c cs ih =>
      have hc : 1 ≤ (String.utf8EncodeChar c).length := by
        rcases utf8EncodeChar_cases c with ⟨-, h⟩ | ⟨-, -, h⟩ | ⟨-, -, h⟩ | ⟨-, -, h⟩ <;>
          simp [h]
      rw [flatMap_cons, length_append, length_cons]
      omega
  exact hchars s.toList

/-! ## Operator by operator -/

section

variable {eng : Engines} {actual : Option Value}

theorem jsonCollectionEquals_iff (hpy : eng.py.Lawful) {a e : Value} :
    Py.jsonCollectionEquals eng a e = true ↔ a.ofDocument = e.ofDocument := by
  rw [Py.jsonCollectionEquals, beq_iff_eq, pyDumpsSorted_inj hpy]

/-- **The comparisons agree**: where no doubles meet, the constructors decide in both engines. -/
theorem equals_eq (hpy : eng.py.Lawful) {a e : Value} (h : Comparable eng a e) :
    (a.received eng.readF64).eq (e.received eng.readF64) = Py.jsonCollectionEquals eng a e := by
  by_cases hmeet : doublesMeet a e = true
  · obtain ⟨ha, he⟩ := h hmeet
    rw [ha.survives.received_eq, he.survives.received_eq]
    exact (pyDumpsSorted_beq hpy ha.unsigned he.unsigned).symm
  · rw [Bool.eq_iff_iff, jsonCollectionEquals_iff hpy]
    rcases a with _ | _ | (_ | _ | _) | _ | _ | _ <;>
      rcases e with _ | _ | (_ | _ | _) | _ | _ | _ <;>
      simp_all [doublesMeet, received, mapFloats, ofDocument, sortedBy, Value.eq, Number.eq]

theorem equals_eq_option (hpy : eng.py.Lawful) (h : ∀ a ∈ actual, Comparable eng a expected) :
    Rust.equals (actual.map (received eng.readF64)) (expected.received eng.readF64)
      = (actual.isSome && Py.jsonCollectionEquals eng (actual.getD .null) expected) := by
  cases actual with
  | none => rfl
  | some a => exact equals_eq hpy (h a rfl)

/-- Membership in a list: a missing feature is compared as `None`, which is not in the list. -/
theorem any_equals_eq (hpy : eng.py.Lawful)
    (h : actual.elim (null ∉ items)
      (fun a => Decided (Comparable eng a) (Py.jsonCollectionEquals eng a) items)) :
    (items.map (received eng.readF64)).any
        (fun v => Rust.equals (actual.map (received eng.readF64)) v)
      = items.any (Py.jsonCollectionEquals eng (actual.getD .null)) := by
  rw [any_map]
  cases actual with
  | some a => exact any_eq_of_decided h (fun v hv => equals_eq hpy hv)
  | none =>
    have hnone : items.any (Py.jsonCollectionEquals eng .null) = false := by
      rw [any_eq_false]
      intro v hv heq
      rw [jsonCollectionEquals_iff hpy] at heq
      cases v with
      | null => exact h hv
      | _ => cases heq
    rw [Option.getD_none, hnone, any_eq_false]
    intro v _
    exact Bool.false_ne_true

theorem jsonStrPythonish_eq (h : SameText eng v) :
    Rust.jsonStrPythonish eng (v.received eng.readF64) = Py.jsonStrPythonish eng v := by
  have htext : jsonChars escapeChar eng.displayF64 v = jsonChars escapeChar eng.py.reprFloat v :=
    jsonChars_congr v h.floats
  rw [h.intact]
  cases v with
  | null => rfl
  | bool b => cases b <;> rfl
  | number n =>
    simp only [jsonChars] at htext
    simp [Rust.jsonStrPythonish, Py.jsonStrPythonish, htext]
  | string s => rfl
  | array items => simp [Rust.jsonStrPythonish, Py.jsonStrPythonish, Rust.display, pyDumps, htext]
  | object entries =>
    simp [Rust.jsonStrPythonish, Py.jsonStrPythonish, Rust.display, pyDumps, htext]

theorem contains_eq (h : SameText eng expected)
    (ha : expected ≠ .string "" → SameText eng (actual.getD .null)) :
    Rust.matchOp eng .contains (actual.map (received eng.readF64)) (expected.received eng.readF64)
        none = Py.matchOp eng .contains actual expected := by
  by_cases hempty : expected = .string ""
  · subst hempty
    rfl
  · simp only [Rust.matchOp, Py.matchOp, getD_received, jsonStrPythonish_eq h,
      jsonStrPythonish_eq (ha hempty)]

theorem jsonRegexSubject_eq (h : SameText eng (actual.getD .null)) :
    Rust.jsonRegexSubject eng (actual.map (received eng.readF64))
      = Py.jsonValueDisplayForRegex eng (actual.getD .null) := by
  cases actual with
  | none => exact String.ofList_toList.symm
  | some v =>
    have htext : jsonChars escapeChar eng.displayF64 v
        = jsonChars escapeChar eng.py.reprFloat v := jsonChars_congr v h.floats
    have hintact : v.received eng.readF64 = v := h.intact
    rw [Option.map_some, hintact, Option.getD_some]
    cases v <;>
      simp [Rust.jsonRegexSubject, Py.jsonValueDisplayForRegex, Rust.display, pyDumps, htext]

variable {re : String → Bool} {pattern : String}

theorem regex_eq (hre : eng.RegexLawful) (hne : pattern.isEmpty = false)
    (hlen : byteLen pattern ≤ maxRegexPatternLen) (hascii : isAscii pattern)
    (hcompiled : eng.regexNew (Rust.buildSafeRegexPattern pattern) = .ok re)
    (h : OperandsPortable eng .regex actual (.string pattern)) :
    re (Rust.jsonRegexSubject eng (actual.map (received eng.readF64)))
      = Py.matchRegex eng (actual.getD .null) (.string pattern) := by
  obtain ⟨htext, hsubject, hnewline⟩ := h
  have hchars : pattern.length ≤ maxRegexPatternLen := (length_le_byteLen pattern).trans hlen
  have hpy : Py.matchRegex eng (actual.getD .null) (.string pattern)
      = eng.reMatch (Py.safeRe pattern) (Py.jsonValueDisplayForRegex eng (actual.getD .null)) := by
    unfold Py.matchRegex
    rw [if_neg (by simp [truthy, hne])]
    exact if_neg (by simp only [pyStr]; omega)
  obtain ⟨re', hre', hmatch⟩ := hre.rust pattern hascii
  have hsame : re = re' := by
    rw [hcompiled] at hre'
    exact Except.ok.inj hre'
  rw [hpy, hsame, jsonRegexSubject_eq htext, hmatch _ hsubject,
    hre.python pattern _ hascii hsubject]
  simp [hnewline]

/-- **The operators agree** on portable operands, apart from `regex`, which needs its compiled
expression. -/
theorem matchOp_agree (hpy : eng.py.Lawful) {op : Op} (hop : op ≠ .regex)
    (h : OperandsPortable eng op actual expected) :
    Rust.matchOp eng op (actual.map (received eng.readF64)) (expected.received eng.readF64) none
      = Py.matchOp eng op actual expected := by
  cases op with
  | eq => exact equals_eq_option hpy h
  | notEq =>
    have heq := equals_eq_option hpy h
    simp [Rust.matchOp, Py.matchOp, heq]
  | gte => exact compareWith_received h
  | gt => exact compareWith_received h
  | lte => exact compareWith_received h
  | lt => exact compareWith_received h
  | in_ =>
    simp only [Rust.matchOp, Py.matchOp, isArray_received]
    cases hitems : isArray expected with
    | none => rfl
    | some items => exact any_equals_eq hpy (h items hitems)
  | notIn =>
    simp only [Rust.matchOp, Py.matchOp, isArray_received]
    cases hitems : isArray expected with
    | none => rfl
    | some items => exact congrArg (fun b => !b) (any_equals_eq hpy (h items hitems))
  | contains => exact contains_eq h.1 h.2
  | startsWith => exact affixWith_received
  | endsWith => exact affixWith_received
  | regex => exact absurd rfl hop
  | isTrue => rcases actual with _ | (_ | (_ | _) | (_ | _ | _) | _ | _ | _) <;> rfl
  | isFalse => rcases actual with _ | (_ | (_ | _) | (_ | _ | _) | _ | _ | _) <;> rfl
  | exists_ => exact Option.isSome_map
  | notExists => cases actual <;> rfl

/-! ## Whole conditions -/

theorem withinCap_eq (h : ValueCap eng v) :
    ((v.received eng.readF64).isNull
        || decide (byteLen (Rust.display eng (v.received eng.readF64)) ≤ maxValueLen))
      = Py.withinCap eng.py v := by
  rw [isNull_received, Py.withinCap]
  rcases h with rfl | h
  · rfl
  · rw [decide_eq_decide.mpr h]

variable {c : RawCondition}

theorem matchFound_eq {found : Option Value}
    (hop : Py.withinCap eng.py (c.value.getD .null) →
      c.op = none ∨ ∃ name, c.op = some (.string name)) :
    Py.matchFound eng (c.op.getD (.string "eq")) found (c.value.getD .null)
      = (Py.withinCap eng.py (c.value.getD .null)
        && (Op.ofName c.opName).elim false (fun op =>
          Py.matchOp eng op found (c.value.getD .null))) := by
  have hcap : (!(c.value.getD .null).isNull
      && decide (maxValueLen < ((c.value.getD .null).pyStr eng.py).length))
      = !Py.withinCap eng.py (c.value.getD .null) := by
    simp only [Py.withinCap, Bool.not_or, ← decide_not, Nat.not_le]
  unfold Py.matchFound
  rw [hcap]
  cases hwithin : Py.withinCap eng.py (c.value.getD .null) with
  | false => rfl
  | true =>
    have hname : c.op.getD (.string "eq") = .string c.opName := by
      rcases hop hwithin with h | ⟨name, h⟩ <;> simp [RawCondition.opName, h, isString]
    rw [hname]
    rfl

theorem ofName_eq_regex {name : String} (h : Op.ofName name = some .regex) : name = "regex" := by
  have hmem := KeyMap.mem_entries_of_lookup h
  simpa [Op.names] using hmem

variable {field : String} {ruleId : String}

theorem parseCondition_eq (hkey : c.field = some (.string field))
    (hne : field.isEmpty = false) (hfield : byteLen field ≤ maxFieldLen)
    (hop : c.opName ≠ "regex") : Rust.parseCondition eng ruleId (c.received eng.readF64)
      = .ok (some ⟨c.opName, field, (c.value.getD .null).received eng.readF64, none⟩) := by
  have hcap : ¬ (field.isEmpty || decide (maxFieldLen < byteLen field)) := by
    simp [hne, hfield]
  unfold Rust.parseCondition RawCondition.received
  simp only [isString_received, hkey, Option.bind_some, isString, Option.getD_some, getD_received]
  rw [if_neg hcap]
  exact if_neg hop

/-- How Rust reads a `regex` condition with a pattern that it compiles. -/
theorem parseCondition_regex (hkey : c.field = some (.string field)) (hne : field.isEmpty = false)
    (hfield : byteLen field ≤ maxFieldLen) (hop : c.opName = "regex")
    (hvalue : c.value.getD .null = .string pattern) (hpne : pattern.isEmpty = false)
    (hlen : byteLen pattern ≤ maxRegexPatternLen)
    (hcompiled : eng.regexNew (Rust.buildSafeRegexPattern pattern) = .ok re) :
    Rust.parseCondition eng ruleId (c.received eng.readF64)
      = .ok (some ⟨c.opName, field, .string pattern, some re⟩) := by
  have hcap : ¬ (field.isEmpty || decide (maxFieldLen < byteLen field)) := by
    simp [hne, hfield]
  have hstring : (Value.string pattern).received eng.readF64 = .string pattern := rfl
  have hcompile : Rust.compileRegexForRule eng pattern ruleId = .ok re := by
    unfold Rust.compileRegexForRule
    rw [if_neg (by simp [hpne, hlen]), hcompiled]
    rfl
  unfold Rust.parseCondition RawCondition.received
  simp only [isString_received, hkey, Option.bind_some, isString, Option.getD_some, getD_received,
    hvalue, hstring]
  rw [if_neg hcap, hcompile]
  exact if_pos hop

theorem rust_matchCondition_eq (features : KeyMap Value) (op : String) (re : Option (String → Bool))
    (hne : field.isEmpty = false) (hfield : byteLen field ≤ maxFieldLen)
    (hcap : ValueCap eng expected) :
    Rust.matchCondition eng (features.map (received eng.readF64))
        ⟨op, field, expected.received eng.readF64, re⟩
      = (Py.withinCap eng.py expected
        && (Op.ofName op).elim false (fun op => Rust.matchOp eng op
          ((features.get? field).map (received eng.readF64))
          (expected.received eng.readF64) re)) := by
  have hcaps : Rust.withinCaps eng field (expected.received eng.readF64)
      = Py.withinCap eng.py expected := by
    rw [← withinCap_eq hcap]
    simp [Rust.withinCaps, hne, hfield]
  unfold Rust.matchCondition
  rw [hcaps, KeyMap.get?_map]

variable {features : KeyMap Value}

/-- **Past the field** the two matchers agree, on the condition that Rust has parsed. -/
theorem matched_agree (hpy : eng.py.Lawful) (hre : eng.RegexLawful)
    (h : Matched eng features c field) (hne : field.isEmpty = false) :
    ∃ cond, Rust.parseCondition eng ruleId (c.received eng.readF64) = .ok (some cond)
      ∧ Rust.matchCondition eng (features.map (received eng.readF64)) cond
        = Py.matchFound eng (c.op.getD (.string "eq")) (features.get? field)
          (c.value.getD .null) := by
  have hrust := fun op re => rust_matchCondition_eq features op re hne h.fieldCap h.valueCap
  rw [matchFound_eq h.operator]
  -- a `regex` condition carries its compiled expression, every other one does not
  by_cases hregex : c.opName = "regex"
  · have hname : Op.ofName c.opName = some .regex := by
      rw [hregex]
      decide
    obtain ⟨pattern, hvalue, hpne, hlen, hascii⟩ := h.pattern hregex
    obtain ⟨re, hcompiled, -⟩ := hre.rust pattern hascii
    refine ⟨_, parseCondition_regex h.key hne h.fieldCap hregex hvalue hpne hlen hcompiled, ?_⟩
    have hoperands := fun hcap => h.operands hcap .regex hname
    rw [hvalue] at hrust hoperands ⊢
    refine (hrust c.opName (some re)).trans ?_
    rw [hname]
    cases hcap : Py.withinCap eng.py (.string pattern) with
    | false => rfl
    | true => exact regex_eq hre hpne hlen hascii hcompiled (hoperands hcap)
  · refine ⟨_, parseCondition_eq h.key hne h.fieldCap hregex, ?_⟩
    rw [hrust]
    cases hcap : Py.withinCap eng.py (c.value.getD .null) with
    | false => rfl
    | true =>
      cases hname : Op.ofName c.opName with
      | none => rfl
      | some op =>
        have hop : op ≠ .regex := by
          rintro rfl
          exact hregex (ofName_eq_regex hname)
        exact matchOp_agree hpy hop (h.operands hcap op hname)

/-- A condition that Python gives up at its field is given up by Rust too. -/
theorem no_match_of_field (h : Py.fieldRefused eng.py (c.field.getD .null)) :
    Rust.conditionHolds eng ruleId features c = .ok false
      ∧ Py.matchCondition eng features c = .ok false := by
  have hrust : (((c.field.bind isString).getD "").isEmpty
      || decide (maxFieldLen < byteLen ((c.field.bind isString).getD ""))) := by
    rcases hfield : c.field with _ | (_ | _ | _ | field | _ | _)
    case some.string =>
      have hbytes := length_le_byteLen field
      simp only [hfield, Option.getD_some, Py.fieldRefused, truthy, pyStr, Bool.not_not,
        Bool.or_eq_true, decide_eq_true_eq] at h
      rcases h with hempty | hlong
      · simp [isString, hempty]
      · simp [isString, show maxFieldLen < byteLen field by omega]
    all_goals rfl
  constructor
  · have hparse : Rust.parseCondition eng ruleId (c.received eng.readF64) = .ok none := by
      unfold Rust.parseCondition RawCondition.received
      simp only [isString_received]
      exact if_pos hrust
    rw [Rust.conditionHolds, hparse]
    rfl
  · exact if_pos h

theorem py_matchCondition_eq (hkey : c.field = some (.string field))
    (hfield : Py.fieldRefused eng.py (.string field) = false) :
    Py.matchCondition eng features c = .ok (Py.matchFound eng (c.op.getD (.string "eq"))
      (features.get? field) (c.value.getD .null)) := by
  unfold Py.matchCondition
  rw [hkey]
  exact if_neg (by rw [Option.getD_some, ← Py.fieldRefused, hfield]; exact Bool.false_ne_true)

end

/-! ## Reference engines

Engines for which the documented behaviour is a definition: the expressions are read back as
wildcard patterns, the doubles other than one half are written by their bits, and one double is read
as its neighbour. -/

namespace Reference

def half : F64 := ⟨0x3FE0000000000000⟩

def floatText (x : F64) : String :=
  if x = half then "0.5" else Nat.repr x.bits.toNat ++ "e"

/-- The doubles `9.008299839474441` and `9.00829983947444`: `serde_json` reads the second from both
texts. -/
def written : FiniteF64 := ⟨⟨0x4022043FE06635A5⟩, by decide⟩

def neighbour : FiniteF64 := ⟨⟨0x4022043FE06635A4⟩, by decide⟩

def engines : Engines where
  displayF64 := floatText
  py := ⟨floatText, fun s => s⟩
  regexNew := fun text => .ok (fun s => globMatch (regexToGlob (text.drop 5).dropLast) s.toList)
  reMatch := fun text s =>
    let pattern := regexToGlob (text.drop 1).dropLast
    globMatch pattern s.toList
      || (decide (s.toList.getLast? = some '\n') && globMatch pattern s.toList.dropLast)
  readF64 := fun x => if x = written then neighbour else x

theorem floatText_other {x : F64} (h : x ≠ half) :
    (floatText x).toList = (Nat.repr x.bits.toNat).toList ++ ['e'] := by
  rw [floatText, if_neg h, String.toList_append]
  rfl

theorem py_lawful : engines.py.Lawful where
  numeric := by
    intro x c hc
    change c ∈ (floatText x.val).toList at hc
    by_cases hx : x.val = half
    · rw [hx] at hc
      have hmem : c ∈ ['0', '.', '5'] := hc
      simp only [mem_cons, not_mem_nil, or_false] at hmem
      rcases hmem with rfl | rfl | rfl <;> decide
    · rw [floatText_other hx, mem_append] at hc
      rcases hc with hc | hc
      · simp [isNumberChar, isDigit_of_mem_repr hc]
      · rw [mem_singleton.mp hc]
        decide
  notInteger := by
    intro x
    show '.' ∈ (floatText x.val).toList ∨ 'e' ∈ (floatText x.val).toList
    by_cases hx : x.val = half
    · rw [hx]
      exact Or.inl (by decide)
    · rw [floatText_other hx]
      exact .inr (by simp)
  injective := by
    -- only the text of one half ends in a five
    have hmixed : ∀ y : F64, y ≠ half → (floatText half).toList ≠ (floatText y).toList := by
      intro y hy h
      have hlast := congrArg getLast? h
      rw [floatText_other hy, getLast?_concat] at hlast
      exact absurd hlast (by decide)
    intro x y h
    have hlist := congrArg String.toList h
    change (floatText x.val).toList = (floatText y.val).toList at hlist
    apply Subtype.ext
    by_cases hx : x.val = half
    · by_cases hy : y.val = half
      · rw [hx, hy]
      · rw [hx] at hlist
        exact absurd hlist (hmixed _ hy)
    · by_cases hy : y.val = half
      · rw [hy] at hlist
        exact absurd hlist.symm (hmixed _ hx)
      · rw [floatText_other hx, floatText_other hy] at hlist
        have hrepr := String.toList_injective (append_cancel_right hlist)
        have hbits := UInt64.toNat_inj.mp (repr_injective hrepr)
        exact (F64.mk.injEq ..).mpr hbits

theorem regex_lawful : engines.RegexLawful where
  rust := by
    intro pattern _
    refine ⟨_, rfl, fun s _ => ?_⟩
    have hbody : ((Rust.buildSafeRegexPattern pattern).drop 5).dropLast
        = globToRegex Rust.metaCharacters pattern := by
      show (("(?i)^".toList ++ globToRegex Rust.metaCharacters pattern ++ ['$']).drop 5).dropLast
        = _
      rw [append_assoc "(?i)^".toList, drop_left' (by decide +kernel),
        dropLast_concat]
    rw [hbody, globToRegex_eq (by decide) (by decide) (by decide),
      regexToGlob_flatMap (by decide) (by decide)]
  python := by
    intro pattern s _ _
    have hbody : ((Py.safeRe pattern).drop 1).dropLast
        = globToRegex Py.specialCharacters pattern := by
      rw [Py.safeRe, drop_one, tail_cons, dropLast_concat]
    simp only [engines]
    rw [hbody, globToRegex_eq (by decide) (by decide) (by decide),
      regexToGlob_flatMap (by decide) (by decide)]

end Reference

end Tarka.Rules
