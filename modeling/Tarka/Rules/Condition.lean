import Tarka.Json.Document
import Tarka.Lib.Glob

/-! # Flat rule conditions in two engines

`match_condition` of the Rust engine (`pack_ffi.rs`, and the same function in `ruleset.rs`) and
its Python fallback `_match_condition` (`json_rules.py`). The Rust engine gets the features and the
condition as a JSON text that Python writes, so its objects have sorted keys and its doubles are
those `serde_json` reads (`Value.received`); Python keeps what the document has. -/

namespace Tarka.Rules

open Tarka.Lib Tarka.Json

/-- What the two engines call outside of the repository. -/
structure Engines where
  /-- The text `serde_json` writes for a double. -/
  displayF64 : F64 → String
  /-- The texts of CPython. -/
  py : PyText
  /-- `Regex::new`, with `is_match` of the result; the error is its text. -/
  regexNew : List Char → Except String (String → Bool)
  /-- `re.match` with `re.IGNORECASE`. -/
  reMatch : List Char → String → Bool
  /-- The double `serde_json` reads from the text `json.dumps` writes, without its feature
  `float_roundtrip`. -/
  readF64 : FiniteF64 → FiniteF64

def maxFieldLen : Nat := 128

def maxValueLen : Nat := 1024

def maxRegexPatternLen : Nat := 256

/-- The operators; every other name is unknown to both engines. -/
inductive Op where
  | eq | notEq | gte | gt | lte | lt | in_ | notIn | contains | startsWith | endsWith | regex
  | isTrue | isFalse | exists_ | notExists
  deriving DecidableEq

def Op.names : List (String × Op) :=
  [("eq", .eq), ("not_eq", .notEq), ("gte", .gte), ("gt", .gt), ("lte", .lte), ("lt", .lt),
    ("in", .in_), ("not_in", .notIn), ("contains", .contains), ("starts_with", .startsWith),
    ("ends_with", .endsWith), ("regex", .regex), ("is_true", .isTrue), ("is_false", .isFalse),
    ("exists", .exists_), ("not_exists", .notExists)]

def Op.ofName (s : String) : Option Op := Op.names.lookup s

def byteLen (s : String) : Nat := (utf8 s).length

/-- The entries of a condition object, as far as they are read. -/
structure RawCondition where
  op : Option Value
  field : Option Value
  value : Option Value

def RawCondition.received (read : FiniteF64 → FiniteF64) (c : RawCondition) : RawCondition :=
  ⟨c.op.map (Value.received read), c.field.map (Value.received read),
    c.value.map (Value.received read)⟩

/-! ## Operators on numbers and strings -/

/-- `json_f64`, and `_json_f64_py`: the double of a JSON number. -/
def jsonF64 : Value → Option F64
  | .number n => n.asF64
  | _ => none

def compareWith (cmp : F64 → F64 → Bool) (actual : Option Value) (expected : Value) : Bool :=
  match actual.bind jsonF64, jsonF64 expected with
  | some a, some e => cmp a e
  | _, _ => false

/-- `starts_with` and `ends_with`: an expected value that is not a string counts as empty. -/
def affixWith (isAffix : List Char → List Char → Bool) (actual : Option Value)
    (expected : Value) : Bool :=
  match actual with
  | some (.string a) => isAffix (match expected with | .string e => e.toList | _ => []) a.toList
  | _ => false

def isArray : Value → Option (List Value)
  | .array items => some items
  | _ => none

def isString : Value → Option String
  | .string s => some s
  | _ => none

/-! ## Rust -/

namespace Rust

/-- `Display` of a value. -/
def display (eng : Engines) (v : Value) : String :=
  String.ofList (jsonChars escapeChar eng.displayF64 v)

def jsonStrPythonish (eng : Engines) : Value → String
  | .string s => s
  | .bool true => "true"
  | .bool false => "false"
  | .number n => String.ofList (numberChars eng.displayF64 n)
  | .null => "None"
  | v => display eng v

def jsonRegexSubject (eng : Engines) : Option Value → String
  | some (.string s) => s
  | some v => display eng v
  | none => "null"

/-- `regex::escape`: the meta characters. -/
def metaCharacters : List Char :=
  [Char.ofNat 92, '.', '+', '*', '?', '(', ')', '|', '[', ']', Char.ofNat 123, Char.ofNat 125, '^',
    '$', '#', '&', '-', '~']

def buildSafeRegexPattern (pattern : String) : List Char :=
  "(?i)^".toList ++ globToRegex metaCharacters pattern ++ ['$']

/-- `Condition`; a compiled expression is its `is_match`. -/
structure Condition where
  op : String
  field : String
  value : Value
  regexCompiled : Option (String → Bool)

/-- `actual == Some(expected)`. -/
def equals (actual : Option Value) (expected : Value) : Bool :=
  match actual with
  | some a => a.eq expected
  | none => false

/-- The branches of `match_condition`. -/
def matchOp (eng : Engines) (op : Op) (actual : Option Value) (expected : Value)
    (regexCompiled : Option (String → Bool)) : Bool :=
  match op with
  | .eq => equals actual expected
  | .notEq => !equals actual expected
  | .gte => compareWith (fun a e => e.le a) actual expected
  | .gt => compareWith (fun a e => e.lt a) actual expected
  | .lte => compareWith F64.le actual expected
  | .lt => compareWith F64.lt actual expected
  | .in_ => (isArray expected).elim false (fun arr => arr.any (fun v => equals actual v))
  | .notIn => (isArray expected).elim true (fun arr => !arr.any (fun v => equals actual v))
  | .contains =>
    let exp := jsonStrPythonish eng expected
    let act := jsonStrPythonish eng (actual.getD .null)
    !exp.isEmpty && strContains act exp
  | .startsWith => affixWith List.isPrefixOf actual expected
  | .endsWith => affixWith List.isSuffixOf actual expected
  | .regex => regexCompiled.elim false (fun re => re (jsonRegexSubject eng actual))
  | .isTrue => equals actual (.bool true)
  | .isFalse => equals actual (.bool false)
  | .exists_ => actual.isSome
  | .notExists => actual.isNone

/-- The two length caps of `match_condition`. -/
def withinCaps (eng : Engines) (field : String) (expected : Value) : Bool :=
  !field.isEmpty && decide (byteLen field ≤ maxFieldLen)
    && (expected.isNull || decide (byteLen (display eng expected) ≤ maxValueLen))

def matchCondition (eng : Engines) (features : KeyMap Value) (c : Condition) : Bool :=
  withinCaps eng c.field c.value
    && (Op.ofName c.op).elim false (fun op =>
      matchOp eng op (features.get? c.field) c.value c.regexCompiled)

structure RegexCompilation where
  ruleId : String
  patternLen : Nat
  message : String
  deriving DecidableEq

def compileRegexForRule (eng : Engines) (pattern ruleId : String) :
    Except RegexCompilation (String → Bool) :=
  if pattern.isEmpty || decide (maxRegexPatternLen < byteLen pattern) then
    .error ⟨ruleId, byteLen pattern, "pattern empty or exceeds MAX_REGEX_PATTERN_LEN"⟩
  else (eng.regexNew (buildSafeRegexPattern pattern)).mapError
    (fun message => ⟨ruleId, byteLen pattern, message⟩)

/-- How `parse_active_packs` reads a condition: `none` skips the rule. -/
def parseCondition (eng : Engines) (ruleId : String) (c : RawCondition) :
    Except RegexCompilation (Option Condition) :=
  let op := (c.op.bind isString).getD "eq"
  let field := (c.field.bind isString).getD ""
  let value := c.value.getD .null
  if field.isEmpty || decide (maxFieldLen < byteLen field) then .ok none
  else if op = "regex" then
    match value with
    | .string pattern =>
      (compileRegexForRule eng pattern ruleId).map (fun re => some ⟨op, field, value, some re⟩)
    | _ => .error ⟨ruleId, 0, "regex condition requires string value"⟩
  else .ok (some ⟨op, field, value, none⟩)

/-- A condition of a document, parsed and matched against the features of a document. -/
def conditionHolds (eng : Engines) (ruleId : String) (features : KeyMap Value)
    (c : RawCondition) : Except RegexCompilation Bool :=
  (parseCondition eng ruleId (c.received eng.readF64)).map (fun parsed =>
    parsed.elim false (matchCondition eng (features.map (Value.received eng.readF64))))

end Rust

/-! ## Python -/

namespace Py

/-- The exceptions that escape from the matcher. -/
inductive Raised where
  | typeError
  deriving DecidableEq

/-- `_json_str_pythonish_actual`, one side of it. -/
def jsonStrPythonish (eng : Engines) : Value → String
  | .null => "None"
  | .bool true => "true"
  | .bool false => "false"
  | .number n => String.ofList (numberChars eng.py.reprFloat n)
  | .string s => s
  | v => String.ofList (pyDumps eng.py v)

def jsonValueDisplayForRegex (eng : Engines) : Value → String
  | .string s => s
  | v => String.ofList (pyDumps eng.py v)

def jsonCollectionEquals (eng : Engines) (actual elem : Value) : Bool :=
  pyDumpsSorted eng.py actual == pyDumpsSorted eng.py elem

/-- `re.escape`: the special characters. -/
def specialCharacters : List Char :=
  ['(', ')', '[', ']', Char.ofNat 123, Char.ofNat 125, '?', '*', '+', '-', '|', '^', '$',
    Char.ofNat 92, '.', '&', '~', '#', ' ', Char.ofNat 9, Char.ofNat 10, Char.ofNat 13,
    Char.ofNat 11, Char.ofNat 12]

def safeRe (pattern : String) : List Char :=
  '^' :: (globToRegex specialCharacters pattern ++ ['$'])

/-- The `regex` branch. -/
def matchRegex (eng : Engines) (actual expected : Value) : Bool :=
  if !expected.truthy then false
  else
    let pattern := expected.pyStr eng.py
    if maxRegexPatternLen < pattern.length then false
    else eng.reMatch (safeRe pattern) (jsonValueDisplayForRegex eng actual)

/-- The branches of `_match_condition`; a missing feature is `None`. -/
def matchOp (eng : Engines) (op : Op) (found : Option Value) (expected : Value) : Bool :=
  let actual := found.getD .null
  let present := found.isSome
  match op with
  | .eq => present && jsonCollectionEquals eng actual expected
  | .notEq => !present || !jsonCollectionEquals eng actual expected
  | .gte => compareWith (fun a e => e.le a) (some actual) expected
  | .gt => compareWith (fun a e => e.lt a) (some actual) expected
  | .lte => compareWith F64.le (some actual) expected
  | .lt => compareWith F64.lt (some actual) expected
  | .in_ => (isArray expected).elim false (fun arr => arr.any (jsonCollectionEquals eng actual))
  | .notIn => (isArray expected).elim true (fun arr => !arr.any (jsonCollectionEquals eng actual))
  | .contains =>
    let exp := jsonStrPythonish eng expected
    let act := jsonStrPythonish eng actual
    !exp.isEmpty && strContains act exp
  | .startsWith => affixWith List.isPrefixOf (some actual) expected
  | .endsWith => affixWith List.isSuffixOf (some actual) expected
  | .regex => matchRegex eng actual expected
  | .isTrue => match actual with | .bool true => true | _ => false
  | .isFalse => match actual with | .bool false => true | _ => false
  | .exists_ => present
  | .notExists => !present

/-- The part of `_match_condition` after the lookup of the feature. -/
def matchFound (eng : Engines) (op : Value) (found : Option Value) (expected : Value) : Bool :=
  if !expected.isNull && decide (maxValueLen < (expected.pyStr eng.py).length) then false
  else
    match op with
    | .string name => (Op.ofName name).elim false (fun op => matchOp eng op found expected)
    | _ => false

/-- `_match_condition`. A key that is no string is not in the feature map, and one that cannot be
hashed raises. -/
def matchCondition (eng : Engines) (features : KeyMap Value) (c : RawCondition) :
    Except Raised Bool :=
  let op := c.op.getD (.string "eq")
  let key := c.field.getD .null
  let expected := c.value.getD .null
  if !key.truthy || decide (maxFieldLen < (key.pyStr eng.py).length) then .ok false
  else
    match key with
    | .string k => .ok (matchFound eng op (features.get? k) expected)
    | .array _ => .error .typeError
    | .object _ => .error .typeError
    | _ => .ok (matchFound eng op none expected)

end Py

end Tarka.Rules
