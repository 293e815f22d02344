import Tarka.Rules.Condition

/-! # When a pack applies

The gate in front of a rule pack, in Rust (`pack_should_apply`) and in Python
(`_pack_should_apply`): the evaluation mode, the date from which the pack is in effect and the
percentage of a canary rollout. -/

namespace Tarka.Rules

open Tarka.Lib Tarka.Json

/-- The modes of an evaluation; every other name counts as production. -/
inductive EvaluationMode where
  | production | simulation | challenger
  deriving DecidableEq

def EvaluationMode.ofName (s : String) : EvaluationMode :=
  if s = "simulation" then .simulation else if s = "challenger" then .challenger else .production

/-- Who is evaluated, and how. -/
structure Request where
  tenantId : String
  entityId : String
  evaluationMode : String

def orDefault (s : String) : String := if s.isEmpty then "default" else s

/-- `pack_experiment_bucket`: the first four bytes of the hash, as a number modulo 100. -/
def packExperimentBucket (sha256 : List UInt8 → List UInt8) (tenantId entityId packKey : String) :
    Nat :=
  ((sha256 (utf8 (tenantId ++ "|" ++ entityId ++ "|" ++ packKey))).take 4).foldl
    (fun n b => n * 256 + b.toNat) 0 % 100

/-- The text of a date with the suffix `Z` replaced by an offset. -/
def utcOffset (s : String) : String :=
  match s.toList.getLast? with
  | some 'Z' => String.ofList s.toList.dropLast ++ "+00:00"
  | _ => s

namespace Rust

/-- The date parsers of `chrono`; instants are counted in one unit from one epoch. -/
structure Dates where
  /-- `DateTime::parse_from_rfc3339`. -/
  rfc3339 : String → Option Int
  /-- `NaiveDateTime::parse_from_str` with `%Y-%m-%dT%H:%M:%S`, read as UTC. -/
  naive : String → Option Int

def parseEffectiveAt (dates : Dates) (raw : String) : Option Int :=
  let s := trim raw
  if s.isEmpty then none
  else (dates.rfc3339 s).or ((dates.rfc3339 (utcOffset s)).or (dates.naive s))

/-- The fields of a pack that its gate reads. -/
structure PackGate where
  sourceFile : String
  name : String
  canaryPercent : Option F64
  effectiveAt : Option Int

def PackGate.key (pack : PackGate) : String :=
  if !pack.sourceFile.isEmpty then pack.sourceFile
  else if !pack.name.isEmpty then pack.name
  else "pack"

/-- The rollout branch of `pack_should_apply`. -/
def inRollout (sha256 : List UInt8 → List UInt8) (tenantId entityId : String) (pack : PackGate) :
    Bool :=
  match pack.canaryPercent with
  | none => true
  | some cp =>
    if (F64.ofNat 100).le cp then true
    else if cp.le (F64.ofNat 0) then false
    else (F64.ofNat (packExperimentBucket sha256 tenantId entityId pack.key)).lt cp

def packShouldApply (sha256 : List UInt8 → List UInt8) (now : Int) (tenantId entityId : String)
    (mode : EvaluationMode) (pack : PackGate) : Bool :=
  let inEffect := pack.effectiveAt.elim true (fun eff => decide (eff ≤ now))
  match mode with
  | .simulation => true
  | .challenger => inEffect
  | .production => inEffect && inRollout sha256 tenantId entityId pack

end Rust

namespace Py

/-- What the date parsers of `datetime` return: a time without or with an offset, as UTC. -/
inductive IsoTime where
  | naive (utc : Int)
  | aware (utc : Int)

structure Dates where
  /-- `datetime.fromisoformat`; `none` is a `ValueError`. -/
  fromIsoFormat : String → Option IsoTime
  /-- `datetime.strptime` with `%Y-%m-%dT%H:%M:%S`, read as UTC. -/
  strptime : String → Option Int

def parseEffectiveAt (dates : Dates) (raw : Option Value) : Option Int :=
  match raw with
  | some (.string raw) =>
    let s := strip raw
    if s.isEmpty then none
    else
      match dates.fromIsoFormat (utcOffset s) with
      | some (.naive t) => some t
      | some (.aware t) => some t
      | none => dates.strptime (utcOffset s)
  | _ => none

/-- `v or …`: a value that counts as true. -/
def orElse (v : Option Value) : Option Value := v.filter Value.truthy

/-- `str(v or default)`. -/
def strOr (t : PyText) (v : Option Value) (default : String) : String :=
  (orElse v).elim default (Value.pyStr t)

/-- `float`: `none` is a `TypeError` or a `ValueError`. -/
def toFloat (parseFloat : String → Option F64) : Value → Option F64
  | .number n => n.asF64
  | .bool b => some (F64.ofNat (if b then 1 else 0))
  | .string s => parseFloat s
  | _ => none

/-- The rollout branch of `_pack_should_apply`. -/
def inRollout (t : PyText) (parseFloat : String → Option F64)
    (sha256 : List UInt8 → List UInt8) (tenantId entityId : String) (pack : Value) : Bool :=
  match pack.get? "canary_percent" with
  | none => true
  | some cp =>
    match toFloat parseFloat cp with
    | none => true
    | some pct =>
      if (F64.ofNat 100).le pct then true
      else if pct.le (F64.ofNat 0) then false
      else
        let key := strOr t (pack.get? "_source_file") (strOr t (pack.get? "name") "pack")
        !pct.le (F64.ofNat (packExperimentBucket sha256 tenantId entityId key))

/-- `_pack_should_apply`, without its reason. -/
def packShouldApply (t : PyText) (dates : Dates) (parseFloat : String → Option F64)
    (sha256 : List UInt8 → List UInt8) (now : Int) (tenantId entityId : String)
    (mode : EvaluationMode) (pack : Value) : Bool :=
  let inEffect :=
    (parseEffectiveAt dates (pack.get? "effective_at")).elim true (fun eff => decide (eff ≤ now))
  match mode with
  | .simulation => true
  | .challenger => inEffect
  | .production => inEffect && inRollout t parseFloat sha256 tenantId entityId pack

end Py

end Tarka.Rules
