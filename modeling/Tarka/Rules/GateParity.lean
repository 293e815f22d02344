import Tarka.Lib.Dict
import Tarka.Lib.FloatValue
import Tarka.Lib.IsoDate
import Tarka.Rules.ConditionParity
import Tarka.Rules.PackRust

/-! # The two gates of a pack

`pack_should_apply` of the Rust engine against `_pack_should_apply` of the Python one, on the same
pack. Both read a date and a percentage out of loosely typed JSON.

The date is read by `chrono` in Rust and by `datetime` in Python. They agree on a time of RFC 3339,
and on one without an offset that has whole seconds (`parseEffectiveAt_agree`); Python also reads
dates without a time and a dozen other forms, for which Rust finds no date. That matters only while
such a date lies in the future, and where a date is read at all.

The percentage has to be a number in Rust, which may change on its way there, while Python passes
any value to `float`. What follows is `gates_agree_iff`. -/

namespace Tarka.Rules

open Tarka.Lib Tarka.Json IsoDate Option List Stamp F64 Value

/-- The readers of `datetime`, in nanoseconds. -/
def Py.datetime (decimal : Char → Option Nat) : Py.Dates where
  fromIsoFormat s := (IsoDate.fromIsoFormat s.toList).map (fun t =>
    t.2.elim (.naive (t.1 * 1000)) (fun offset => .aware ((t.1 - offset) * 1000)))
  strptime s := (IsoDate.strptime decimal s.toList).map (· * 1000)

/-! ## Dates -/

def instant (d : Stamp) : Int := d.utcMicros * 1000

/-- What `chrono` promises about the texts of RFC 3339, and about the same texts without an
offset. -/
structure Rust.Dates.Lawful (dates : Rust.Dates) : Prop where
  offset : ∀ d : Stamp, d.offset.isSome = true →
    dates.rfc3339 (String.ofList d.text) = some (instant d)
  zulu : ∀ d : Stamp, d.offset = none →
    dates.rfc3339 (String.ofList (d.text ++ ['Z'])) = some (instant d)
  notZoned : ∀ d : Stamp, d.offset = none → dates.rfc3339 (String.ofList d.text) = none
  naive : ∀ d : Stamp, d.offset = none → d.fraction.digits = [] →
    dates.naive (String.ofList d.text) = some (instant d)

/-- The instants that `astimezone` can represent, in nanoseconds. -/
def inYears (t : Int) : Bool :=
  decide (microsPerDay * 1000 ≤ t ∧ t < (ordinal maxYear 12 31 + 1) * microsPerDay * 1000)

/-- `astimezone` raises an `OverflowError`, which `_parse_effective_at` lets pass. -/
def Py.overflows (dates : Py.Dates) (raw : Option Value) : Bool :=
  match raw with
  | some (.string raw) =>
    match dates.fromIsoFormat (utcOffset (strip raw)) with
    | some (.aware t) => !(strip raw).isEmpty && !inYears t
    | _ => false
  | _ => false

/-- A text that both engines read alike. -/
inductive SharedForm : List Char → Prop where
  | blank : SharedForm []
  | stamp (d : Stamp) (hyears : inYears (instant d) = true)
      (hseconds : d.offset = none → d.fraction.digits = []) : SharedForm d.text
  | zulu (d : Stamp) (hyears : inYears (instant d) = true) (hoffset : d.offset = none) :
      SharedForm (d.text ++ ['Z'])

def SharedDate (raw : String) : Prop :=
  ∃ w₁ t w₂, (∀ c ∈ w₁, isWhiteSpace c = true) ∧ (∀ c ∈ w₂, isWhiteSpace c = true)
    ∧ raw.toList = w₁ ++ (t ++ w₂) ∧ SharedForm t

theorem isStripSpace_of_isWhiteSpace {c : Char} (h : isWhiteSpace c = true) :
    isStripSpace c = true := by
  exact (Bool.and_eq_true_iff.mp h).1

theorem isWhiteSpace_eq_false {c : Char} (h : isStripSpace c = false) : isWhiteSpace c = false := by
  rw [isWhiteSpace, h, Bool.false_and]

theorem SharedForm.ends {t : List Char} (h : SharedForm t) :
    (∀ c ∈ t.head?, isStripSpace c = false) ∧ ∀ c ∈ t.getLast?, isStripSpace c = false := by
  cases h with
  | blank => exact ⟨by simp, by simp⟩
  | stamp d hyears hseconds =>
    obtain ⟨⟨a, t, hhead, ha⟩, r, b, hlast, hb⟩ := d.text_ends
    constructor
    · intro c hc
      rw [hhead] at hc
      cases hc
      exact isStripSpace_of_isDigit ha
    · intro c hc
      rw [hlast, getLast?_concat] at hc
      cases hc
      exact isStripSpace_of_isDigit hb
  | zulu d hyears hoffset =>
    obtain ⟨⟨a, t, hhead, ha⟩, -⟩ := d.text_ends
    constructor
    · intro c hc
      rw [hhead] at hc
      cases hc
      exact isStripSpace_of_isDigit ha
    · intro c hc
      rw [getLast?_concat] at hc
      cases hc
      decide

theorem SharedDate.text {raw : String} (h : SharedDate raw) :
    ∃ t, SharedForm t ∧ trim raw = String.ofList t ∧ strip raw = String.ofList t := by
  obtain ⟨w₁, t, w₂, h₁, h₂, hraw, hform⟩ := h
  obtain ⟨hhead, hlast⟩ := hform.ends
  refine ⟨t, hform, ?_, ?_⟩
  · rw [trim, hraw, dropWhile_rdropWhile_pad h₁ h₂ (fun c hc => isWhiteSpace_eq_false (hhead c hc))
      (fun c hc => isWhiteSpace_eq_false (hlast c hc))]
  · rw [strip, stripChars, hraw, dropWhile_rdropWhile_pad (fun c hc => isStripSpace_of_isWhiteSpace
      (h₁ c hc)) (fun c hc => isStripSpace_of_isWhiteSpace (h₂ c hc)) hhead hlast]

theorem utcOffset_text (d : Stamp) : utcOffset (String.ofList d.text) = String.ofList d.text := by
  obtain ⟨-, r, c, hlast, hc⟩ := d.text_ends
  have hz : c ≠ 'Z' := by
    rintro rfl
    exact absurd hc (by decide)
  unfold utcOffset
  rw [String.toList_ofList, hlast, getLast?_concat]
  split
  · rename_i h
    exact absurd (some.inj h) hz
  · rfl

def utc : Offset := ⟨false, 0, 0⟩

variable {d : Stamp}

theorem utcOffset_zulu (hoffset : d.offset = none) : utcOffset (String.ofList (d.text ++ ['Z']))
      = String.ofList { d with offset := some utc }.text := by
  have htext : { d with offset := some utc }.text = d.text ++ "+00:00".toList := by
    have hutc : utc.text = "+00:00".toList := by decide
    simp [text, zoneText, hoffset, hutc, dateText, clockText]
  rw [utcOffset, htext]
  simp [String.ofList_append]

theorem instant_utc (hoffset : d.offset = none) :
    instant { d with offset := some utc } = instant d := by
  simp [instant, utcMicros, hoffset, utc, Offset.micros, Offset.parts, Parts.micros,
    Parts.seconds, localMicros, parts]

theorem isEmpty_text (r : List Char) : (String.ofList (d.text ++ r)).isEmpty = false := by
  obtain ⟨⟨c, t, hhead, -⟩, -⟩ := d.text_ends
  simp [hhead]

theorem fromIsoFormat_stamp (decimal : Char → Option Nat) (d : Stamp) :
    (Py.datetime decimal).fromIsoFormat (String.ofList d.text)
      = some (if d.offset.isSome then .aware (instant d) else .naive (instant d)) := by
  simp only [Py.datetime, String.toList_ofList, fromIsoFormat_text, instant, utcMicros]
  cases d.offset with
  | none => simp
  | some o => simp

/-- **The two readers agree** on the shared forms. -/
theorem parseEffectiveAt_agree {dates : Rust.Dates} (hdates : dates.Lawful)
    (decimal : Char → Option Nat) {raw : String} (h : SharedDate raw) :
    Rust.parseEffectiveAt dates raw
      = Py.parseEffectiveAt (Py.datetime decimal) (some (.string raw)) := by
  obtain ⟨t, hform, htrim, hstrip⟩ := h.text
  simp only [Rust.parseEffectiveAt, Py.parseEffectiveAt, htrim, hstrip]
  cases hform with
  | blank => rfl
  | stamp d hyears hseconds =>
    have hempty : (String.ofList d.text).isEmpty = false := by
      rw [← append_nil d.text]
      exact isEmpty_text []
    simp only [hempty, Bool.false_eq_true, if_false, utcOffset_text, fromIsoFormat_stamp]
    cases hoffset : d.offset with
    | some o =>
      rw [hdates.offset d (by rw [hoffset]; rfl)]
      rfl
    | none =>
      rw [hdates.notZoned d hoffset, hdates.naive d hoffset (hseconds hoffset)]
      rfl
  | zulu d hyears hoffset =>
    simp only [isEmpty_text, Bool.false_eq_true, if_false, utcOffset_zulu hoffset,
      fromIsoFormat_stamp, hdates.zulu d hoffset, isSome_some, if_true, instant_utc hoffset]
    rfl

/-- The date of a pack is missing, no string, or in a shared form. -/
def SharedEffectiveAt (pack : Value) : Prop :=
  ∀ raw, pack.get? "effective_at" = some (.string raw) → SharedDate raw

theorem not_overflows (decimal : Char → Option Nat) {raw : String} (h : SharedDate raw) :
    Py.overflows (Py.datetime decimal) (some (.string raw)) = false := by
  obtain ⟨t, hform, -, hstrip⟩ := h.text
  simp only [Py.overflows, hstrip]
  cases hform with
  | blank =>
    split
    · rfl
    · rfl
  | stamp d hyears hseconds =>
    rw [utcOffset_text, fromIsoFormat_stamp]
    cases d.offset.isSome <;> simp [hyears]
  | zulu d hyears hoffset =>
    rw [utcOffset_zulu hoffset, fromIsoFormat_stamp, instant_utc hoffset]
    simp [hyears]

variable {read : FiniteF64 → FiniteF64} {pack : Value}

theorem Rust.stringField_received (hd : pack.distinctKeys) (k default : String) :
    Rust.stringField (pack.received read) k default = Rust.stringField pack k default := by
  rw [Rust.stringField, get?_received read hd, isString_received]
  rfl

/-- Only the percentage of a gate can change on its way to Rust. -/
theorem Rust.packGate_received (dates : Rust.Dates) (hd : pack.distinctKeys) :
    Rust.packGate dates (pack.received read) = { Rust.packGate dates pack with
      canaryPercent := ((pack.get? "canary_percent").map (received read)).bind jsonF64 } := by
  simp only [Rust.packGate, Rust.stringField_received hd, get?_received read hd, isString_received]

theorem effectiveAt_agree {dates : Rust.Dates} (hdates : dates.Lawful)
    (decimal : Char → Option Nat) (h : SharedEffectiveAt pack) :
    (Rust.packGate dates pack).effectiveAt
        = Py.parseEffectiveAt (Py.datetime decimal) (pack.get? "effective_at")
      ∧ Py.overflows (Py.datetime decimal) (pack.get? "effective_at") = false := by
  unfold Rust.packGate
  cases hraw : pack.get? "effective_at" with
  | none => exact ⟨rfl, rfl⟩
  | some v =>
    cases v with
    | string raw =>
      simp only [bind_some, isString]
      exact ⟨parseEffectiveAt_agree hdates decimal (h raw hraw), not_overflows decimal (h raw hraw)⟩
    | _ => exact ⟨rfl, rfl⟩

/-! ## Reference dates

Readers for which the promise of `chrono` is a definition: they take the forms of RFC 3339 and the
fixed format of whole seconds. -/

namespace Reference

def dates : Rust.Dates where
  rfc3339 s :=
    (IsoDate.fromIsoFormat (utcOffset s).toList).bind (fun t =>
      t.2.map (fun offset => (t.1 - offset) * 1000))
  naive s :=
    (IsoDate.fromIsoFormat s.toList).bind (fun t =>
      if t.2 = none ∧ s.toList.length = 19 then some (t.1 * 1000) else none)

theorem dates_lawful : dates.Lawful where
  offset := by
    intro d hoffset
    obtain ⟨o, ho⟩ := isSome_iff_exists.mp hoffset
    simp only [dates, utcOffset_text, String.toList_ofList, fromIsoFormat_text, ho]
    simp [instant, utcMicros, ho]
  zulu := by
    intro d hoffset
    simp only [dates, utcOffset_zulu hoffset, String.toList_ofList, fromIsoFormat_text]
    rw [← instant_utc hoffset]
    simp [instant, utcMicros]
  notZoned := by
    intro d hoffset
    simp [dates, utcOffset_text, fromIsoFormat_text, hoffset]
  naive := by
    intro d hoffset hfraction
    have hlen : d.text.length = 19 := by
      simp [text, dateText, clockText, zoneText, Fraction.text, hoffset,
        hfraction, digits4, digits2]
    simp [dates, fromIsoFormat_text, hoffset, hlen, instant, utcMicros]

end Reference

/-! ## Percentages -/

section

variable (t : PyText) (sha256 : List UInt8 → List UInt8) (tenantId entityId : String)

def Py.packKey (pack : Value) : String :=
  Py.strOr t (pack.get? "_source_file") (Py.strOr t (pack.get? "name") "pack")

def bucketOf (key : String) : F64 := F64.ofNat (packExperimentBucket sha256 tenantId entityId key)

/-- A percentage lets a bucket in. -/
def admits (bucket pct : F64) : Bool :=
  (F64.ofNat 100).le pct || (!pct.le (F64.ofNat 0) && bucket.lt pct)

/-- In Python so does what is not a number. -/
def Py.admits (bucket pct : F64) : Bool :=
  (F64.ofNat 100).le pct || (!pct.le (F64.ofNat 0) && !pct.le bucket)

/-- When the two gates decide alike about the percentage. A number as it is received and the number
itself are compared with the buckets of two keys, which differ when a name is not a string. Any
other value is ignored by Rust, and has to be one that Python ignores or that lets the entity in. -/
def rolloutShared (read : FiniteF64 → FiniteF64) (parseFloat : String → Option F64)
    (bucket bucket' : F64) (pack : Value) : Bool :=
  match pack.get? "canary_percent" with
  | none => true
  | some (.number n) => (jsonF64 ((Value.number n).received read)).all (admits bucket)
      == n.asF64.all (admits bucket')
  | some v => (Py.toFloat parseFloat v).all (Py.admits bucket')

end

theorem isNaN_asF64 {n : Number} {x : F64} (h : n.asF64 = some x) : x.isNaN = false := by
  apply isNaN_of_isFinite
  cases n with
  | posInt n =>
    cases h
    exact isFinite_ofNat n.toNat_lt
  | negInt k =>
    cases h
    exact isFinite_ofInt_negSucc k.isLt
  | float x =>
    cases h
    exact x.property

theorem isNaN_bucketOf (sha256 : List UInt8 → List UInt8) (tenantId entityId key : String) :
    (bucketOf sha256 tenantId entityId key).isNaN = false := by
  apply isNaN_of_isFinite
  apply isFinite_ofNat
  have hlt : packExperimentBucket sha256 tenantId entityId key < 100 :=
    Nat.mod_lt _ (by decide)
  omega

section

variable (t : PyText) (parseFloat : String → Option F64) (sha256 : List UInt8 → List UInt8)
  (tenantId entityId : String) (dates : Rust.Dates) {pack : Value}

theorem Py.inRollout_eq : Py.inRollout t parseFloat sha256 tenantId entityId pack
    = ((pack.get? "canary_percent").bind (Py.toFloat parseFloat)).all
      (Py.admits (bucketOf sha256 tenantId entityId (Py.packKey t pack))) := by
  unfold Py.inRollout
  cases pack.get? "canary_percent" with
  | none => rfl
  | some v =>
    simp only [bind_some]
    cases Py.toFloat parseFloat v with
    | none => rfl
    | some pct =>
      simp only [all_some, Py.admits, bucketOf, Py.packKey]
      cases (ofNat 100).le pct <;> cases pct.le (ofNat 0) <;> simp

theorem Rust.inRollout_eq (gate : Rust.PackGate) :
    Rust.inRollout sha256 tenantId entityId gate
      = gate.canaryPercent.all (admits (bucketOf sha256 tenantId entityId gate.key)) := by
  unfold Rust.inRollout
  cases gate.canaryPercent with
  | none => rfl
  | some pct =>
    simp only [all_some, admits, bucketOf]
    cases (ofNat 100).le pct <;> cases pct.le (ofNat 0) <;> simp

theorem py_admits_eq {n : Number} {pct bucket : F64} (hpct : n.asF64 = some pct)
    (hb : bucket.isNaN = false) : Py.admits bucket pct = admits bucket pct := by
  rw [Py.admits, admits, lt_eq_not_le hb (isNaN_asF64 hpct)]

variable (read) in
/-- **The percentages agree** exactly when they are shared. -/
theorem inRollout_eq_iff (tenantId' entityId' : String) (hd : pack.distinctKeys) :
    Rust.inRollout sha256 tenantId entityId (Rust.packGate dates (pack.received read))
        = Py.inRollout t parseFloat sha256 tenantId' entityId' pack
      ↔ rolloutShared read parseFloat
          (bucketOf sha256 tenantId entityId (Rust.packGate dates (pack.received read)).key)
          (bucketOf sha256 tenantId' entityId' (Py.packKey t pack)) pack = true := by
  have hcanary : (Rust.packGate dates (pack.received read)).canaryPercent
      = (pack.get? "canary_percent").bind (fun v => jsonF64 (v.received read)) := by
    show ((pack.received read).get? "canary_percent").bind jsonF64 = _
    rw [get?_received read hd, bind_map]
    rfl
  rw [Rust.inRollout_eq, Py.inRollout_eq, hcanary]
  unfold rolloutShared
  cases pack.get? "canary_percent" with
  | none => simp
  | some v =>
    rw [bind_some, bind_some]
    rcases v with _ | _ | n | _ | _ | _
    case number =>
      obtain ⟨pct, hpct⟩ : ∃ pct, n.asF64 = some pct := by cases n <;> exact ⟨_, rfl⟩
      have hadmits := py_admits_eq hpct
        (isNaN_bucketOf sha256 tenantId' entityId' (Py.packKey t pack))
      rw [beq_iff_eq]
      simp only [Py.toFloat, hpct, all_some, hadmits]
    all_goals exact eq_comm

end

/-! ## Gates -/

/-- A pack is in effect unless its date lies in the future. -/
def inEffect (now : Int) (eff : Option Int) : Bool := eff.elim true (fun eff => decide (eff ≤ now))

section

variable (eng : Engines) (dates : Rust.Dates) (pyDates : Py.Dates)
  (parseFloat : String → Option F64) (sha256 : List UInt8 → List UInt8) (now : Int)
  (tenantId entityId tenantId' entityId' : String) (mode : EvaluationMode) (pack : Value)

/-- When the two gates decide alike, each with its names of the tenant and the entity. In simulation
nothing is read. Otherwise the pack has to be in effect for both or for neither, and in production
the percentage has to be shared once it is; or the one for which it is in effect leaves the entity
out. -/
def GatesShared : Prop :=
  let gate := Rust.packGate dates (pack.received eng.readF64)
  let due := inEffect now gate.effectiveAt
  let due' := inEffect now (Py.parseEffectiveAt pyDates (pack.get? "effective_at"))
  let bucket := bucketOf sha256 tenantId entityId gate.key
  let bucket' := bucketOf sha256 tenantId' entityId' (Py.packKey eng.py pack)
  mode = .simulation
  ∨ (due = due' ∧ (mode = .challenger ∨ due = false
      ∨ rolloutShared eng.readF64 parseFloat bucket bucket' pack = true))
  ∨ (mode = .production ∧ due ≠ due'
      ∧ (if due then gate.canaryPercent.all (admits bucket)
        else ((pack.get? "canary_percent").bind (Py.toFloat parseFloat)).all (Py.admits bucket'))
          = false)

variable {eng dates pyDates parseFloat sha256 now tenantId entityId tenantId' entityId' mode pack}

/-- **The two gates decide alike** exactly when they are shared. -/
theorem packShouldApply_eq_iff (hd : pack.distinctKeys) :
    Rust.packShouldApply sha256 now tenantId entityId mode
        (Rust.packGate dates (pack.received eng.readF64))
      = Py.packShouldApply eng.py pyDates parseFloat sha256 now tenantId' entityId' mode pack
      ↔ GatesShared eng dates pyDates parseFloat sha256 now tenantId entityId tenantId' entityId'
        mode pack := by
  have hrollout := inRollout_eq_iff eng.readF64 eng.py parseFloat sha256 tenantId entityId
    dates tenantId' entityId' hd
  unfold GatesShared Rust.packShouldApply Py.packShouldApply
  -- with the percentages settled, what is left is a table over the modes and the two dates
  simp only [← inEffect.eq_def, ← hrollout, ← Rust.inRollout_eq, ← Py.inRollout_eq]
  cases mode with
  | simulation => simp
  | challenger => simp
  | production =>
    cases inEffect now (Rust.packGate dates (pack.received eng.readF64)).effectiveAt <;>
      cases inEffect now (Py.parseEffectiveAt pyDates (pack.get? "effective_at")) <;> simp

end

/-- `_pack_should_apply` with the exception of its date; `none` is an `OverflowError`. -/
def Py.gateResult (t : PyText) (dates : Py.Dates) (parseFloat : String → Option F64)
    (sha256 : List UInt8 → List UInt8) (now : Int) (tenantId entityId : String)
    (mode : EvaluationMode) (pack : Value) : Option Bool :=
  if mode ≠ .simulation ∧ Py.overflows dates (pack.get? "effective_at") then none
  else some (Py.packShouldApply t dates parseFloat sha256 now tenantId entityId mode pack)

namespace Reference

/-- `float` of the strings below. -/
def parseFloat (s : String) : Option F64 := if s = "0" then some (F64.ofNat 0) else none

def noDecimal (_ : Char) : Option Nat := none

def sha256 (_ : List UInt8) : List UInt8 := [0, 0, 0, 7]

def newYear : Stamp where
  year := 2026
  month := 1
  day := 1
  isDate := by decide
  hour := 0
  minute := 0
  second := 0
  fraction := ⟨[], by simp, by simp⟩
  offset := none

/-- A pack with a percentage that does not change on its way. -/
def halfPack : Document where
  value := .object [("_source_file", .string "geo.json"),
    ("canary_percent", .number (.float ⟨F64.ofNat 50, by decide⟩)),
    ("effective_at", .string "2026-01-01T00:00:00Z")]
  distinct := by decide +kernel

end Reference

open Reference

/-- What applies at a percentage applies at every larger one, never at zero and always at a
hundred. -/
structure Grows (applies : Number → Bool) : Prop where
  mono : ∀ m n p q, m.asF64 = some p → n.asF64 = some q → p.le q = true → applies m = true →
    applies n = true
  zero : ∀ n p, n.asF64 = some p → p.le (F64.ofNat 0) = true → applies n = false
  hundred : ∀ n p, n.asF64 = some p → (F64.ofNat 100).le p = true → applies n = true

theorem grows_of_bucket {applies : Number → Bool} {bucket : F64} (hb : bucket.isNaN = false)
    (h : ∀ n p, n.asF64 = some p → applies n = ((ofNat 100).le p
      || (!p.le (ofNat 0) && bucket.lt p))) : Grows applies := by
  -- every comparison is one of keys
  have hkeys : ∀ n p, n.asF64 = some p → (applies n = true
      ↔ (ofNat 100).key ≤ p.key ∨ (ofNat 0).key < p.key ∧ bucket.key < p.key) := by
    intro n p hp
    have hnan := isNaN_asF64 hp
    rw [h n p hp, lt_eq_not_le hb hnan, Bool.or_eq_true, Bool.and_eq_true,
      le_iff_key (by decide) hnan, Bool.not_eq_true', Bool.not_eq_true', ← Bool.not_eq_true,
      ← Bool.not_eq_true, le_iff_key hnan (by decide), le_iff_key hnan hb, not_le, not_le]
  have horder : (ofNat 0).key < (ofNat 100).key := by decide
  constructor
  · intro m n p q hp hq hle happlies
    rw [le_iff_key (isNaN_asF64 hp) (isNaN_asF64 hq)] at hle
    rw [hkeys m p hp] at happlies
    rw [hkeys n q hq]
    omega
  · intro n p hp hle
    rw [le_iff_key (isNaN_asF64 hp) (by decide)] at hle
    rw [← Bool.not_eq_true, hkeys n p hp]
    omega
  · intro n p hp hle
    rw [h n p hp, hle, Bool.true_or]

section

variable (t : PyText) (parseFloat : String → Option F64) (sha256 : List UInt8 → List UInt8)
  (tenantId entityId : String) (dates : Rust.Dates) (pyDates : Py.Dates) (now : Int)
  (pack : List (String × Value)) (pct : Number)

def atPercent : Value := .object (Dict.set pack "canary_percent" (.number pct))

theorem get?_atPercent (k : String) : (atPercent pack pct).get? k
    = if k = "canary_percent" then some (.number pct) else (Value.object pack).get? k := by
  rw [atPercent, Value.get?, Dict.lookup_set, Value.get?]

theorem Rust.packGate_atPercent : Rust.packGate dates (atPercent pack pct)
    = { Rust.packGate dates (.object pack) with canaryPercent := pct.asF64 } := by
  simp only [Rust.packGate, Rust.stringField, get?_atPercent]
  rfl

theorem Py.packKey_atPercent :
    Py.packKey t (atPercent pack pct) = Py.packKey t (.object pack) := by
  simp only [Py.packKey, get?_atPercent]
  rfl

/-- **Rollouts grow.** The bucket of an entity is below a hundred and does not depend on the
percentage, so that in production a pack in effect applies to more and more entities. -/
theorem rollout_grows
    (hrust : (Rust.packGate dates (.object pack)).effectiveAt.elim true (· ≤ now) = true)
    (hpy : (Py.parseEffectiveAt pyDates ((Value.object pack).get? "effective_at")).elim true
      (· ≤ now) = true) :
    (∀ key, packExperimentBucket sha256 tenantId entityId key < 100)
    ∧ (∀ pct, (Rust.packGate dates (atPercent pack pct)).key
          = (Rust.packGate dates (.object pack)).key
        ∧ Py.packKey t (atPercent pack pct) = Py.packKey t (.object pack))
    ∧ Grows (fun pct => Rust.packShouldApply sha256 now tenantId entityId .production
        (Rust.packGate dates (atPercent pack pct)))
    ∧ Grows (fun pct => Py.packShouldApply t pyDates parseFloat sha256 now tenantId entityId
        .production (atPercent pack pct)) := by
  refine ⟨fun key => Nat.mod_lt _ (by decide), fun pct =>
    ⟨by rw [Rust.packGate_atPercent]; rfl, Py.packKey_atPercent t pack pct⟩,
    grows_of_bucket (isNaN_bucketOf sha256 tenantId entityId
      (Rust.packGate dates (.object pack)).key) ?_,
    grows_of_bucket (isNaN_bucketOf sha256 tenantId entityId (Py.packKey t (.object pack))) ?_⟩
  · intro pct p hp
    rw [Rust.packShouldApply, Rust.inRollout_eq, Rust.packGate_atPercent]
    simp only [hrust, Bool.true_and, hp, all_some]
    rfl
  · intro pct p hp
    rw [Py.packShouldApply, Py.inRollout_eq, get?_atPercent, get?_atPercent, if_pos rfl, bind_some,
      Py.toFloat, hp, all_some, Py.packKey_atPercent, py_admits_eq hp (isNaN_bucketOf ..)]
    simp [hpy, admits]

end

def Reference.datedPack : List (String × Value) :=
  [("_source_file", .string "geo.json"), ("effective_at", .string "2026-01-01T00:00:00Z")]

theorem rollout_grows_dated :
    Grows (fun pct => Rust.packShouldApply sha256 (instant newYear) "acme" "e1" .production
      (Rust.packGate dates (atPercent datedPack pct))) :=
  (rollout_grows engines.py parseFloat sha256 "acme" "e1" dates (Py.datetime noDecimal)
    (instant newYear)
    datedPack (by decide +kernel) (by decide +kernel)).2.2.1

end Tarka.Rules
