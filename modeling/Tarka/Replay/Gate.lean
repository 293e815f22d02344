import Tarka.Lib.FloatQuotient
import Tarka.Replay.Batch

/-! # The gate of a batch replay

The manifests of a window are replayed in parallel, and their outcomes are counted (`scorecard.rs`):
each worker counts its own share, and the counters are merged. The gate (`main.rs`) computes rates
from the counters and passes when none of them violates its threshold.

The counters are those of the window, however it is shared out (`collect_eq`). A manifest that
cannot be replayed has no new decision and is not in the denominator of the rates, so that it goes
unnoticed unless something else violates a threshold or the run ends with an error
(`gate_sound_iff`).

The label of a manifest is a parameter, and so is what a run reads before its first replay. Times,
the mismatches that are printed and the format of the rates in the violations are left out. -/

namespace Tarka.Replay

open Tarka.Lib Tarka.Engine List

/-! ## Counters -/

structure EvaluatedManifestRecord where
  manifestId : String
  historicalDecision : Option Bool
  newDecision : Option Bool
  decisionMatch : Bool
  stepParity : Bool
  groundTruthFraud : Option Bool
  error : Option ReplayError

inductive ManifestRunClass where
  | matched
  | mismatched
  | partialRun
  | error
  deriving DecidableEq

def classifyManifestRecord (record : EvaluatedManifestRecord) : ManifestRunClass :=
  if record.newDecision.isNone then .error
  else if record.error.isSome then .partialRun
  else if record.decisionMatch && record.stepParity then .matched
  else .mismatched

/-- Predictions by what they predict and what is true. -/
structure Confusion where
  truePositive : Nat
  falsePositive : Nat
  trueNegative : Nat
  falseNegative : Nat
  deriving DecidableEq

namespace Confusion

def zero : Confusion := ⟨0, 0, 0, 0⟩

/-- `absorb_prediction_vs_ground_truth`. -/
def absorb (c : Confusion) (predicted truth : Bool) : Confusion :=
  match predicted, truth with
  | true, true => { c with truePositive := c.truePositive + 1 }
  | true, false => { c with falsePositive := c.falsePositive + 1 }
  | false, false => { c with trueNegative := c.trueNegative + 1 }
  | false, true => { c with falseNegative := c.falseNegative + 1 }

def absorb? (c : Confusion) (predicted truth : Option Bool) : Confusion :=
  match predicted, truth with
  | some predicted, some truth => c.absorb predicted truth
  | _, _ => c

def merge (c d : Confusion) : Confusion where
  truePositive := c.truePositive + d.truePositive
  falsePositive := c.falsePositive + d.falsePositive
  trueNegative := c.trueNegative + d.trueNegative
  falseNegative := c.falseNegative + d.falseNegative

end Confusion

structure ScorecardCounterMatrix where
  manifestsConsumed : Nat
  totalEvaluated : Nat
  decisionMatchCount : Nat
  stepParityCount : Nat
  statusMatch : Nat
  statusMismatch : Nat
  statusPartial : Nat
  statusError : Nat
  /-- Replayed decisions against those of the audit. -/
  audit : Confusion
  groundTruthLabeled : Nat
  historicalGroundTruth : Confusion
  replayGroundTruth : Confusion
  deriving DecidableEq

namespace ScorecardCounterMatrix

def zero : ScorecardCounterMatrix := ⟨0, 0, 0, 0, 0, 0, 0, 0, .zero, 0, .zero, .zero⟩

def absorbRecord (c : ScorecardCounterMatrix) (r : EvaluatedManifestRecord) :
    ScorecardCounterMatrix where
  manifestsConsumed := c.manifestsConsumed + 1
  totalEvaluated := c.totalEvaluated + (if r.newDecision.isSome then 1 else 0)
  decisionMatchCount :=
    c.decisionMatchCount + (if r.newDecision.isSome && r.decisionMatch then 1 else 0)
  stepParityCount := c.stepParityCount + (if r.newDecision.isSome && r.stepParity then 1 else 0)
  statusMatch := c.statusMatch + (if classifyManifestRecord r = .matched then 1 else 0)
  statusMismatch := c.statusMismatch + (if classifyManifestRecord r = .mismatched then 1 else 0)
  statusPartial := c.statusPartial + (if classifyManifestRecord r = .partialRun then 1 else 0)
  statusError := c.statusError + (if classifyManifestRecord r = .error then 1 else 0)
  audit := c.audit.absorb? r.newDecision r.historicalDecision
  groundTruthLabeled := c.groundTruthLabeled + (if r.groundTruthFraud.isSome then 1 else 0)
  historicalGroundTruth := c.historicalGroundTruth.absorb? r.historicalDecision r.groundTruthFraud
  replayGroundTruth := c.replayGroundTruth.absorb? r.newDecision r.groundTruthFraud

def merge (c d : ScorecardCounterMatrix) : ScorecardCounterMatrix where
  manifestsConsumed := c.manifestsConsumed + d.manifestsConsumed
  totalEvaluated := c.totalEvaluated + d.totalEvaluated
  decisionMatchCount := c.decisionMatchCount + d.decisionMatchCount
  stepParityCount := c.stepParityCount + d.stepParityCount
  statusMatch := c.statusMatch + d.statusMatch
  statusMismatch := c.statusMismatch + d.statusMismatch
  statusPartial := c.statusPartial + d.statusPartial
  statusError := c.statusError + d.statusError
  audit := c.audit.merge d.audit
  groundTruthLabeled := c.groundTruthLabeled + d.groundTruthLabeled
  historicalGroundTruth := c.historicalGroundTruth.merge d.historicalGroundTruth
  replayGroundTruth := c.replayGroundTruth.merge d.replayGroundTruth

end ScorecardCounterMatrix

/-! ## The scorecard -/

def finiteOrZero (x : F64) : F64 := if x.isFinite then x else F64.ofNat 0

/-- A share of a count, and `0.0` of nothing. -/
def share (part other : Nat) : F64 :=
  if part + other > 0 then (F64.ofNat part).div (F64.ofNat (part + other)) else F64.ofNat 0

structure ClassifierMetrics where
  precision : F64
  recallRate : F64
  falsePositiveRate : F64

def classifierMetrics (c : Confusion) : ClassifierMetrics where
  precision := share c.truePositive c.falsePositive
  recallRate := share c.truePositive c.falseNegative
  falsePositiveRate := share c.falsePositive c.trueNegative

structure Adjustments where
  falsePositiveRateDelta : F64
  precisionDelta : F64
  recallDelta : F64

def computeAuditReferenceDeltas (c : ScorecardCounterMatrix) : Adjustments where
  falsePositiveRateDelta :=
    finiteOrZero ((classifierMetrics c.audit).falsePositiveRate.sub (F64.ofNat 0))
  precisionDelta := finiteOrZero ((classifierMetrics c.audit).precision.sub (F64.ofNat 1))
  recallDelta := F64.ofNat 0

def computeAdjustmentsFromMatrix (c : ScorecardCounterMatrix) : Adjustments :=
  if c.groundTruthLabeled > 0 then
    let historical := classifierMetrics c.historicalGroundTruth
    let replay := classifierMetrics c.replayGroundTruth
    { falsePositiveRateDelta :=
        finiteOrZero (replay.falsePositiveRate.sub historical.falsePositiveRate)
      precisionDelta := finiteOrZero (replay.precision.sub historical.precision)
      recallDelta := finiteOrZero (replay.recallRate.sub historical.recallRate) }
  else computeAuditReferenceDeltas c

structure ReplayScorecard where
  totalEvaluated : Nat
  decisionMatchCount : Nat
  stepParityCount : Nat
  adjustments : Adjustments

def intoReplayScorecard (c : ScorecardCounterMatrix) : ReplayScorecard :=
  ⟨c.totalEvaluated, c.decisionMatchCount, c.stepParityCount, computeAdjustmentsFromMatrix c⟩

/-! ## The run -/

/-- How the manifests of a window are shared out: a worker folds over some of them, and the
collectors of two shares are merged. -/
inductive Shares where
  | worker (manifests : List EvidenceManifest)
  | merged (left right : Shares)

def Shares.window : Shares → List EvidenceManifest
  | worker manifests => manifests
  | merged left right => left.window ++ right.window

def maxManifestBatchWindowPull : Nat := 50000

section

variable (rt : Runtime) (ctx : BatchReplayExecutionContext) (label : EvidenceManifest → Option Bool)

/-- `evaluated_record_from_outcome` of a replay. -/
def evaluatedRecord (m : EvidenceManifest) : EvaluatedManifestRecord :=
  let outcome := replayLoadedManifest rt ctx m
  ⟨outcome.manifestId, outcome.originalDecision, outcome.replayDecision, outcome.decisionMatch,
    outcome.stepParity, label m, outcome.error⟩

/-- `execute_batch_replay_parallel`, and the loop over the pages of the window. -/
def Shares.collect : Shares → ScorecardCounterMatrix
  | worker manifests =>
    (manifests.map (evaluatedRecord rt ctx label)).foldl ScorecardCounterMatrix.absorbRecord .zero
  | merged left right => left.collect.merge right.collect

end

/-- What a run reads before its first replay: the rules of `resolve_batch_rule_catalog` and the
modules of a directory, in the context, and the labels. -/
structure Prepared where
  ctx : BatchReplayExecutionContext
  label : EvidenceManifest → Option Bool

/-- The rows of a window, shared out, and why one of them is no manifest, if there is such a row. -/
structure Rows where
  shares : Shares
  undecodable : Option String

/-- `run_batch_replay`. Errors are a window that is too large, whatever keeps the run from being
prepared (such as a window without content ids, or a hash of the registry that is not the one that
was asked for) and a row that is no manifest. An empty window needs no preparation. -/
def runBatchReplay (rt : Runtime) (prepared : Except String Prepared) (rows : Rows) :
    Except String ReplayScorecard :=
  if rows.shares.window.length > maxManifestBatchWindowPull then
    .error "manifest batch window exceeded memory-safe cap 50000 during streaming"
  else if rows.shares.window.isEmpty && rows.undecodable.isNone then
    .ok (intoReplayScorecard .zero)
  else
    prepared.bind (fun p => rows.undecodable.elim
      (.ok (intoReplayScorecard (rows.shares.collect rt p.ctx p.label))) .error)

/-! ## The gate -/

/-- `PerformanceThresholds`, as `parse_performance_thresholds` lets it pass. -/
structure PerformanceThresholds where
  maxFalsePositiveRateDelta : F64
  finite : maxFalsePositiveRateDelta.isFinite = true
  nonnegative : maxFalsePositiveRateDelta.lt (F64.ofNat 0) = false

/-- What a report complains about. -/
inductive Violation where
  | decisionMatchRate (rate : F64)
  | stepParityRate (rate : F64)
  | falsePositiveRateDelta (delta max : F64)

def rateViolation (violation : F64 → Violation) (count total : Nat) : List Violation :=
  let rate := (F64.ofNat count).div (F64.ofNat total)
  if rate.lt (F64.ofNat 1) then [violation rate] else []

/-- The two rates of a report, which an empty window does not have. -/
def rateViolations (replay : ReplayScorecard) : List Violation :=
  if replay.totalEvaluated = 0 then []
  else rateViolation .decisionMatchRate replay.decisionMatchCount replay.totalEvaluated
    ++ rateViolation .stepParityRate replay.stepParityCount replay.totalEvaluated

/-- `evaluate_performance_thresholds`, by its violations. -/
def evaluatePerformanceThresholds (replay : ReplayScorecard) (thresholds : PerformanceThresholds) :
    List Violation :=
  rateViolations replay
    ++ if thresholds.maxFalsePositiveRateDelta.lt replay.adjustments.falsePositiveRateDelta then
        [.falsePositiveRateDelta replay.adjustments.falsePositiveRateDelta
          thresholds.maxFalsePositiveRateDelta]
      else []

/-- The command succeeds: the run ends without an error, and its report has no violation. -/
def gatePasses (rt : Runtime) (thresholds : PerformanceThresholds)
    (prepared : Except String Prepared) (rows : Rows) : Bool :=
  (runBatchReplay rt prepared rows).toOption.elim false (fun replay =>
    (evaluatePerformanceThresholds replay thresholds).isEmpty)

/-! ## The counters of a window -/

def Confusion.count (predictions : List (Option Bool × Option Bool)) : Confusion where
  truePositive := predictions.count (some true, some true)
  falsePositive := predictions.count (some true, some false)
  trueNegative := predictions.count (some false, some false)
  falseNegative := predictions.count (some false, some true)

theorem Confusion.absorb?_count (predictions : List (Option Bool × Option Bool))
    (predicted truth : Option Bool) :
    (count predictions).absorb? predicted truth = count (predictions ++ [(predicted, truth)]) := by
  rcases predicted with _ | predicted
  · simp [absorb?, count]
  · rcases truth with _ | truth
    · simp [absorb?, count]
    · cases predicted <;> cases truth <;> simp [absorb?, absorb, count]

theorem Confusion.merge_count (a b : List (Option Bool × Option Bool)) :
    (count a).merge (count b) = count (a ++ b) := by
  simp only [merge, count, count_append]

def countMatrix (records : List EvaluatedManifestRecord) : ScorecardCounterMatrix where
  manifestsConsumed := records.length
  totalEvaluated := records.countP (fun r => r.newDecision.isSome)
  decisionMatchCount := records.countP (fun r => r.newDecision.isSome && r.decisionMatch)
  stepParityCount := records.countP (fun r => r.newDecision.isSome && r.stepParity)
  statusMatch := records.countP (fun r => classifyManifestRecord r = .matched)
  statusMismatch := records.countP (fun r => classifyManifestRecord r = .mismatched)
  statusPartial := records.countP (fun r => classifyManifestRecord r = .partialRun)
  statusError := records.countP (fun r => classifyManifestRecord r = .error)
  audit := .count (records.map (fun r => (r.newDecision, r.historicalDecision)))
  groundTruthLabeled := records.countP (fun r => r.groundTruthFraud.isSome)
  historicalGroundTruth :=
    .count (records.map (fun r => (r.historicalDecision, r.groundTruthFraud)))
  replayGroundTruth := .count (records.map (fun r => (r.newDecision, r.groundTruthFraud)))

theorem absorbRecord_countMatrix (records : List EvaluatedManifestRecord)
    (r : EvaluatedManifestRecord) :
    (countMatrix records).absorbRecord r = countMatrix (records ++ [r]) := by
  simp only [ScorecardCounterMatrix.absorbRecord, countMatrix, Confusion.absorb?_count,
    countP_append, countP_singleton, map_append, map_cons, map_nil,
    length_append, length_singleton, decide_eq_true_eq]

theorem merge_countMatrix (a b : List EvaluatedManifestRecord) :
    (countMatrix a).merge (countMatrix b) = countMatrix (a ++ b) := by
  simp only [ScorecardCounterMatrix.merge, countMatrix, Confusion.merge_count, countP_append,
    map_append, length_append]

theorem foldl_absorbRecord (records : List EvaluatedManifestRecord) :
    records.foldl ScorecardCounterMatrix.absorbRecord .zero = countMatrix records := by
  induction records using List.reverseRecOn with
  | nil => rfl
  | append_singleton records r ih =>
    rw [foldl_append, ih, foldl_cons, foldl_nil, absorbRecord_countMatrix]

section

variable {rt : Runtime} {ctx : BatchReplayExecutionContext} {label : EvidenceManifest → Option Bool}

/-- **The counters do not depend on how the window is shared out.** -/
theorem collect_eq (shares : Shares) :
    shares.collect rt ctx label
      = countMatrix (shares.window.map (evaluatedRecord rt ctx label)) := by
  induction shares with
  | worker manifests => exact foldl_absorbRecord _
  | merged left right ihl ihr =>
    rw [Shares.collect, Shares.window, map_append, ihl, ihr, merge_countMatrix]

/-! ## What is replayed -/

def Replayable (ctx : BatchReplayExecutionContext) (m : EvidenceManifest) : Prop :=
  (∃ manifestId, manifestUuidFromHeader m = .ok manifestId) ∧ ctx.wasmError = none
  ∧ ∃ root, ctx.rule m = .ok root

/-- The manifest is replayed to the end, to its own decision and its own steps. -/
def Reproduced (rt : Runtime) (ctx : BatchReplayExecutionContext) (m : EvidenceManifest) : Prop :=
  (∃ manifestId, manifestUuidFromHeader m = .ok manifestId) ∧ ctx.wasmError = none
  ∧ ∃ root replay decision, ctx.rule m = .ok root
    ∧ replayEvaluation rt ctx.drawnId root m = (decision, .ok replay)
    ∧ m.finalDecision = some decision
    ∧ traceStepsEquivalent m.steps replay.steps ctx.compareOtel = true

variable {m : EvidenceManifest}

theorem Reproduced.replayable (h : Reproduced rt ctx m) : Replayable ctx m := by
  obtain ⟨hid, hwasm, root, _, _, hrule, -⟩ := h
  exact ⟨hid, hwasm, root, hrule⟩

theorem evaluatedRecord_iff :
    ((evaluatedRecord rt ctx label m).newDecision.isSome ↔ Replayable ctx m)
    ∧ ((evaluatedRecord rt ctx label m).decisionMatch ∧ (evaluatedRecord rt ctx label m).stepParity
      ↔ Reproduced rt ctx m) := by
  simp only [evaluatedRecord, replayLoadedManifest, Replayable, Reproduced]
  cases manifestUuidFromHeader m with
  | error e => simp
  | ok manifestId =>
    cases ctx.rule m with
    | error e => simp
    | ok root =>
      cases ctx.wasmError with
      | some e => simp
      | none =>
        rcases heval : replayEvaluation rt ctx.drawnId root m with ⟨decision, p | replay⟩
        · simp [heval]
        · cases decision <;> simp [heval]

end

/-! ## When the gate passes -/

theorem countP_and_lt_iff {α : Type} {p q : α → Bool} {l : List α} :
    l.countP (fun a => p a && q a) < l.countP p ↔ ∃ a ∈ l, p a ∧ q a = false := by
  have hfilter : l.countP (fun a => p a && q a) = (l.filter p).countP q := by
    rw [countP_filter]
    congr 1
    funext a
    exact Bool.and_comm _ _
  rw [hfilter, countP_eq_length_filter (p := p), countP_lt_length_iff]
  simp only [mem_filter, and_assoc]

theorem countP_and_le {α : Type} (p q : α → Bool) (l : List α) :
    l.countP (fun a => p a && q a) ≤ l.countP p :=
  countP_mono_left (fun _ _ h => (Bool.and_eq_true_iff.mp h).1)

theorem rateViolation_isEmpty {violation : F64 → Violation} {count total : Nat}
    (hle : count ≤ total) (hpos : 0 < total) (hsmall : total ≤ maxManifestBatchWindowPull) :
    (rateViolation violation count total).isEmpty = !decide (count < total) := by
  have htotal : total ≤ 2 ^ 53 := hsmall.trans (by decide)
  rw [rateViolation, F64.div_ofNat_lt_one hle hpos htotal]
  by_cases hlt : count < total
  · simp [hlt]
  · simp [hlt]

variable {replay : ReplayScorecard}

theorem evaluatePerformanceThresholds_isEmpty {thresholds : PerformanceThresholds} :
    (evaluatePerformanceThresholds replay thresholds).isEmpty
      ↔ (rateViolations replay).isEmpty
        ∧ ¬ thresholds.maxFalsePositiveRateDelta.lt replay.adjustments.falsePositiveRateDelta
          = true := by
  rw [evaluatePerformanceThresholds, List.isEmpty_iff, List.append_eq_nil_iff, List.isEmpty_iff]
  refine and_congr Iff.rfl ?_
  split_ifs with hrise
  · simp [hrise]
  · simp [hrise]

theorem rates_isEmpty (hdecisions : replay.decisionMatchCount ≤ replay.totalEvaluated)
    (hsteps : replay.stepParityCount ≤ replay.totalEvaluated)
    (hsize : replay.totalEvaluated ≤ maxManifestBatchWindowPull) :
    (rateViolations replay).isEmpty
      ↔ ¬ replay.decisionMatchCount < replay.totalEvaluated
        ∧ ¬ replay.stepParityCount < replay.totalEvaluated := by
  rw [rateViolations]
  split_ifs with hzero
  · simp [hzero]
  · have hpos : 0 < replay.totalEvaluated := Nat.pos_of_ne_zero hzero
    have hfirst : (rateViolation .decisionMatchRate _ _).isEmpty = _ :=
      rateViolation_isEmpty hdecisions hpos hsize
    have hsecond : (rateViolation .stepParityRate _ _).isEmpty = _ :=
      rateViolation_isEmpty hsteps hpos hsize
    rw [List.isEmpty_iff, List.append_eq_nil_iff, ← List.isEmpty_iff, ← List.isEmpty_iff, hfirst,
      hsecond, Bool.not_eq_true', Bool.not_eq_true', decide_eq_false_iff_not,
      decide_eq_false_iff_not]

section

variable (rt : Runtime) (ctx : BatchReplayExecutionContext) (label : EvidenceManifest → Option Bool)
  (thresholds : PerformanceThresholds)

/-- The rate of false positives among the decisions of a window rises by more than is allowed. -/
def FalsePositivesRise (window : List EvidenceManifest) : Prop :=
  thresholds.maxFalsePositiveRateDelta.lt (computeAdjustmentsFromMatrix
    (countMatrix (window.map (evaluatedRecord rt ctx label)))).falsePositiveRateDelta = true

theorem reproduced_iff_records {window : List EvidenceManifest} :
    (∀ m ∈ window, Replayable ctx m → Reproduced rt ctx m)
      ↔ (¬ ∃ r ∈ window.map (evaluatedRecord rt ctx label),
            r.newDecision.isSome ∧ r.decisionMatch = false)
        ∧ ¬ ∃ r ∈ window.map (evaluatedRecord rt ctx label),
            r.newDecision.isSome ∧ r.stepParity = false := by
  simp only [mem_map, not_exists, not_and, forall_exists_index, and_imp,
    forall_apply_eq_imp_iff₂, Bool.not_eq_false]
  constructor
  · intro h
    exact ⟨fun m hm hsome =>
        (evaluatedRecord_iff.2.mpr (h m hm (evaluatedRecord_iff.1.mp hsome))).1,
      fun m hm hsome => (evaluatedRecord_iff.2.mpr (h m hm (evaluatedRecord_iff.1.mp hsome))).2⟩
  · rintro ⟨hdecision, hsteps⟩ m hm hreplayable
    have hsome : (evaluatedRecord rt ctx label m).newDecision.isSome :=
      evaluatedRecord_iff.1.mpr hreplayable
    exact evaluatedRecord_iff.2.mp ⟨hdecision m hm hsome, hsteps m hm hsome⟩

theorem card_isEmpty {window : List EvidenceManifest}
    (hsize : window.length ≤ maxManifestBatchWindowPull) :
    (evaluatePerformanceThresholds
        (intoReplayScorecard (countMatrix (window.map (evaluatedRecord rt ctx label))))
        thresholds).isEmpty
      ↔ (∀ m ∈ window, Replayable ctx m → Reproduced rt ctx m)
        ∧ ¬ FalsePositivesRise rt ctx label thresholds window := by
  have htotal : (window.map (evaluatedRecord rt ctx label)).countP
      (fun r => r.newDecision.isSome) ≤ maxManifestBatchWindowPull := by
    refine countP_le_length.trans ?_
    rwa [length_map]
  rw [evaluatePerformanceThresholds_isEmpty, reproduced_iff_records rt ctx label]
  refine and_congr ?_ Iff.rfl
  exact (rates_isEmpty (countP_and_le _ _ _) (countP_and_le _ _ _) htotal).trans
    (and_congr (not_congr countP_and_lt_iff) (not_congr countP_and_lt_iff))

/-- **The gate passes** a window with manifests when the run is prepared, every row is a manifest
and no manifest that is replayed differs. -/
theorem gatePasses_iff {prepared : Except String Prepared} {rows : Rows}
    (hrows : rows.shares.window ≠ []) :
    gatePasses rt thresholds prepared rows
      ↔ rows.shares.window.length ≤ maxManifestBatchWindowPull ∧ rows.undecodable = none
        ∧ ∃ p, prepared = .ok p
          ∧ (∀ m ∈ rows.shares.window, Replayable p.ctx m → Reproduced rt p.ctx m)
          ∧ ¬ FalsePositivesRise rt p.ctx p.label thresholds rows.shares.window := by
  have hsome : rows.shares.window.isEmpty = false := by simpa using hrows
  rw [gatePasses, runBatchReplay, hsome, Bool.false_and, if_neg Bool.false_ne_true]
  by_cases hlarge : rows.shares.window.length > maxManifestBatchWindowPull
  · rw [if_pos hlarge]
    exact iff_of_false Bool.false_ne_true (fun h => absurd h.1 (by omega))
  · rw [if_neg hlarge]
    cases prepared with
    | error e => exact iff_of_false Bool.false_ne_true (by simp)
    | ok p =>
      cases rows.undecodable with
      | some e => exact iff_of_false Bool.false_ne_true (by simp)
      | none =>
        have hsize : rows.shares.window.length ≤ maxManifestBatchWindowPull := by omega
        refine Iff.trans (Eq.to_iff ?_) ((card_isEmpty rt p.ctx p.label thresholds hsize).trans ?_)
        · rw [← collect_eq]
          rfl
        · simp [hsize]

/-- **When a passed gate means that the window is reproduced**: every manifest can be replayed, or
the gate does not pass, because one that is replayed differs, because of the false positives, or
because the run ends with an error. -/
theorem gate_sound_iff (prepared : Except String Prepared) (rows : Rows) :
    (gatePasses rt thresholds prepared rows = true →
        ∀ m ∈ rows.shares.window, ∃ p, prepared = .ok p ∧ Reproduced rt p.ctx m)
      ↔ (∃ p, prepared = .ok p ∧ ((∀ m ∈ rows.shares.window, Replayable p.ctx m)
          ∨ (∃ m ∈ rows.shares.window, Replayable p.ctx m ∧ ¬ Reproduced rt p.ctx m)
          ∨ FalsePositivesRise rt p.ctx p.label thresholds rows.shares.window))
        ∨ (∃ e, prepared = .error e) ∨ rows.undecodable ≠ none
        ∨ maxManifestBatchWindowPull < rows.shares.window.length := by
  by_cases hrows : rows.shares.window = []
  · simp only [hrows, not_mem_nil, false_implies, implies_true, true_iff]
    cases prepared with
    | error e => exact .inr (.inl ⟨e, rfl⟩)
    | ok p => exact .inl ⟨p, rfl, .inl trivial⟩
  · rw [gatePasses_iff rt thresholds hrows]
    constructor
    · -- without one of the reasons the gate passes, so that what it promises holds
      intro h
      by_contra hnot
      simp only [not_or, not_exists, not_and, not_not, not_lt] at hnot
      obtain ⟨hopen, hprepared, hrow, hsize⟩ := hnot
      cases hp : prepared with
      | error e => exact hprepared e hp
      | ok p =>
        obtain ⟨hreplayable, hsame, hrise⟩ := hopen p hp
        refine hreplayable (fun m hm => ?_)
        obtain ⟨p', hp', hreproduced⟩ := h ⟨hsize, hrow, p, hp, hsame, hrise⟩ m hm
        obtain rfl : p = p' := Except.ok.inj (hp.symm.trans hp')
        exact hreproduced.replayable
    · rintro h ⟨hsize, hrow, p, rfl, hsame, hrise⟩ m hm
      refine ⟨p, rfl, ?_⟩
      rcases h with ⟨p', hp', h⟩ | ⟨e, he⟩ | hno | hlarge
      · obtain rfl : p = p' := Except.ok.inj hp'
        rcases h with h | ⟨m', hm', hreplayable, hnot⟩ | h
        · exact hsame m hm (h m hm)
        · exact absurd (hsame m' hm' hreplayable) hnot
        · exact absurd h hrise
      · cases he
      · exact absurd hrow hno
      · exact absurd hsize (by omega)

end

namespace GateDemo

def manifest : EvidenceManifest :=
  ⟨some ⟨List.replicate 16 1, "1.0", 1700000000000000000, "demo"⟩, none, none, some ⟨true, 10⟩,
    none⟩

def ctx : BatchReplayExecutionContext :=
  ⟨fun _ => .error "EOF while parsing an object at line 1 column 1", none, false, false,
    List.replicate 16 2⟩

/-- The default of the threshold, `0.0005`. -/
def thresholds : PerformanceThresholds := ⟨⟨0x3F40624DD2F1A9FC⟩, by decide, by decide⟩

end GateDemo

/-- A window whose only manifest cannot be replayed passes the gate. -/
theorem unreplayable_window_passes :
    gatePasses Engine.Demo.runtime GateDemo.thresholds (.ok ⟨GateDemo.ctx, fun _ => none⟩)
        ⟨.worker [GateDemo.manifest], none⟩ = true
      ∧ ¬ Replayable GateDemo.ctx GateDemo.manifest
      ∧ ¬ Reproduced Engine.Demo.runtime GateDemo.ctx GateDemo.manifest := by
  have hrule : ¬ Replayable GateDemo.ctx GateDemo.manifest := by
    rintro ⟨-, -, root, hrule⟩
    cases hrule
  exact ⟨by decide +kernel, hrule, fun h => hrule h.replayable⟩

end Tarka.Replay
