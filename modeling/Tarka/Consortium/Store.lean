import Tarka.Lib.Dict
import Tarka.Lib.Float64
import Tarka.Lib.Steps
import Tarka.Lib.Strip

/-! # Consortium signals in Redis (`redis_store.py`)

The reports about one entity are one JSON document under one key. `record_consortium_signal` and
`add_consortium_feedback` read it with `GET`, compute the new document and write it with `SETEX`:
two commands, between which other clients may run theirs.

`Metrics` is the document. A key that is absent from it reads as the value of `Metrics.empty`, as
the defaults of the source do, and `json.loads` returns what `json.dumps` was given. -/

namespace Tarka.Consortium

open Tarka.Lib

/-- The document of one entity. -/
structure Metrics where
  consortiumId : Option String
  tenantCount : Nat
  tenants : List String
  tenantTrust : List (String × F64)
  signalCounts : List (String × Nat)
  reportCount : Nat
  maxSeverity : F64
  weightedTenantScore : F64
  weightedReportScore : F64
  falsePositiveCount : Nat
  confirmedFraudCount : Nat
  falsePositiveRate : F64
  qualityScore : F64

def Metrics.empty : Metrics where
  consortiumId := none
  tenantCount := 0
  tenants := []
  tenantTrust := []
  signalCounts := []
  reportCount := 0
  maxSeverity := F64.ofNat 0
  weightedTenantScore := F64.ofNat 0
  weightedReportScore := F64.ofNat 0
  falsePositiveCount := 0
  confirmedFraudCount := 0
  falsePositiveRate := F64.ofNat 0
  qualityScore := F64.ofNat 0

/-- What the functions call: `str.lower` and the arithmetic of floats. -/
structure Host where
  lower : String → String
  arith : F64.Arith

/-! ## Metrics -/

/-- `0.1` and `0.2`, as doubles. -/
def tenth : F64 := ⟨0x3FB999999999999A⟩

def fifth : F64 := ⟨0x3FC999999999999A⟩

/-- `max(lo, min(hi, x))`. -/
def clamp (lo hi x : F64) : F64 := lo.pyMax (hi.pyMin x)

/-- The trust of a tenant, between `0.1` and `2.0`. -/
def clampTrust (x : F64) : F64 := clamp tenth (F64.ofNat 2) x

section

variable (host : Host)

/-- The name under which a signal is counted. -/
def signalKey (signalType : String) : String := host.lower (strip signalType)

def normalizeEntry {V W : Type} (key : String → String) (f : V → W) (e : String × V) :
    Option (String × W) :=
  if (key e.1).isEmpty then none else some (key e.1, f e.2)

/-- `_consortium_metrics_recompute`. -/
def metricsRecompute (current : Metrics) : Metrics :=
  let tenants := sortByCodePoints ((current.tenants.map strip).filter (fun t => !t.isEmpty)).dedup
  let trust := tenants.foldl (fun m t => Dict.setDefault m t (F64.ofNat 1))
    (Dict.rebuild (normalizeEntry strip clampTrust) current.tenantTrust)
  let signalCounts := Dict.rebuild (normalizeEntry (signalKey host) id) current.signalCounts
  let reportCountDefault := (signalCounts.map Prod.snd).sum
  let reportCount := if current.reportCount = 0 then reportCountDefault else current.reportCount
  let trustSum := host.arith.sum (trust.map Prod.snd)
  let weightedReportScore :=
    if current.weightedReportScore.le (F64.ofNat 0) && decide (0 < reportCount) then
      host.arith.mul (F64.ofNat reportCount)
        (host.arith.div trustSum (F64.ofNat (max 1 trust.length)))
    else current.weightedReportScore
  let weightedTenantScore := if trust.isEmpty then F64.ofNat 0 else trustSum
  let falsePositiveRate := host.arith.ratio current.falsePositiveCount
    (max 1 (current.falsePositiveCount + current.confirmedFraudCount))
  let coverage := (F64.ofNat 1).pyMin (host.arith.div (F64.ofNat tenants.length) (F64.ofNat 10))
  let trustNorm := (⟨0x3FF8000000000000⟩ : F64).pyMin
    (host.arith.div weightedTenantScore ((F64.ofNat 1).pyMax (F64.ofNat tenants.length)))
  { current with
    tenantCount := tenants.length
    tenants := tenants
    tenantTrust := trust
    signalCounts := signalCounts
    reportCount := reportCount
    maxSeverity := clamp (F64.ofNat 0) (F64.ofNat 5) current.maxSeverity
    weightedTenantScore := weightedTenantScore
    weightedReportScore := weightedReportScore
    falsePositiveRate := falsePositiveRate
    qualityScore := fifth.pyMax (host.arith.mul (host.arith.mul coverage trustNorm)
      (fifth.pyMax (host.arith.sub (F64.ofNat 1) falsePositiveRate))) }

/-! ## Updates -/

/-- An operation of a client. -/
inductive Op where
  | signal (signalType reporterTenant : String) (severity : F64)
  | feedback (outcome : String)
  deriving DecidableEq

/-- The body of `record_consortium_signal`. -/
def recordSignal (consortiumId signalType reporterTenant : String) (severity trustSeed : F64)
    (current : Metrics) : Metrics :=
  let trust := Dict.setDefault current.tenantTrust reporterTenant trustSeed
  metricsRecompute host
    { Metrics.empty with
      consortiumId := some consortiumId
      tenants := sortByCodePoints (reporterTenant :: current.tenants).dedup
      tenantTrust := trust
      signalCounts := Dict.set current.signalCounts signalType
        ((current.signalCounts.lookup signalType).getD 0 + 1)
      reportCount := current.reportCount + 1
      maxSeverity := current.maxSeverity.pyMax severity
      weightedReportScore := host.arith.add current.weightedReportScore
        ((trust.lookup reporterTenant).getD trustSeed)
      falsePositiveCount := current.falsePositiveCount
      confirmedFraudCount := current.confirmedFraudCount }

/-- `_mutate` of `add_consortium_feedback`. -/
def addFeedback (outcome : String) (current : Metrics) : Metrics :=
  metricsRecompute host
    { current with
      falsePositiveCount :=
        if outcome = "false_positive" then current.falsePositiveCount + 1
        else current.falsePositiveCount
      confirmedFraudCount :=
        if outcome = "confirmed_fraud" then current.confirmedFraudCount + 1
        else current.confirmedFraudCount }

def Op.apply (consortiumId : String) (trustSeed : F64) (current : Metrics) : Op → Metrics
  | .signal signalType tenant severity =>
    recordSignal host consortiumId signalType tenant severity trustSeed current
  | .feedback outcome => addFeedback host outcome current

end

/-! ## Clients -/

/-- A client between its commands: what it wants to do, and what `GET` returned. -/
inductive Client where
  | idle
  | got (op : Op) (raw : Option Metrics)

/-- The document under the key, and the clients. History: the operations in the order of their
`SETEX`, each with the trust it would seed a new tenant with. -/
structure State where
  document : Option Metrics
  clients : Nat → Client
  seeded : List (Op × F64)

def State.performed (s : State) : List Op := s.seeded.map Prod.fst

def State.init : State := ⟨none, fun _ => .idle, []⟩

/-- The commands. The trust that seeds a new tenant is read from another key, by `HGET`. -/
inductive Command where
  | get (client : Nat) (op : Op)
  | setex (client : Nat) (trustSeed : F64)

def consortiumStep (host : Host) (consortiumId : String) (s : State) (c : Command) :
    Option State :=
  match c with
  | .get i op =>
    match s.clients i with
    | .idle => some { s with clients := Function.update s.clients i (.got op s.document) }
    | .got _ _ => none
  | .setex i trustSeed =>
    match s.clients i with
    | .idle => none
    | .got op raw =>
      some
        { document := some (op.apply host consortiumId trustSeed (raw.getD .empty))
          clients := Function.update s.clients i .idle
          seeded := s.seeded ++ [(op, trustSeed)] }

end Tarka.Consortium
