import Tarka.Engine.Manifest

/-! # The evaluator (`engine/evaluator.rs`)

`evaluate` walks the rule tree, recording one step for every leaf it evaluates, finalizes the
trace into a manifest and starts over with an empty trace.

The walk is compared with the reference semantics of short-circuit trees. It arrives exactly at
the leaves that semantics reaches and records exactly the leaves it evaluates:

* `evalExpr_of_evaluates` and `evalExpr_of_failsAt` for a tree,
* `evaluate_of_evaluates` and `evaluate_of_failsAt` for a whole call,
* `afterAll_fresh`: no earlier call leaves anything behind. -/

namespace Tarka.Engine

open Tarka.Lib Tarka.Lib.ShortCircuit Tarka.Json List Nat TraceContext

/-- What one call of `evaluate` meets outside of the evaluator. Moment `0` is the start of the
call; every recorded step takes one moment, at which its leaf asks the external source and the
clock is read. -/
structure Call where
  clock : Nat → Int
  external : Nat → ExternalDataSource
  /-- The id `Uuid::now_v7` draws for the manifest. -/
  manifestId : Bytes

/-- The trace of a call so far, and the next moment. -/
structure CallState where
  trace : TraceContext
  tick : Nat

section

variable (rt : Runtime) (call : Call) (data : Value)

def leafAt (t : Nat) (l : Leaf) : Except EvalFatalError LeafRow :=
  leafRow rt (call.external t) data l

def evalLeaf (l : Leaf) (s : CallState) : Except EvalFatalError Bool × CallState :=
  match leafAt rt call data s.tick l with
  | .error e => (.error e, s)
  | .ok row =>
    match s.trace.recordStep (call.clock s.tick) row with
    | .error _ => (.error ⟨l.id, .tracePoisoned⟩, s)
    | .ok trace => (.ok row.result, ⟨trace, s.tick + 1⟩)

mutual

def evalExpr : RuleExpr → CallState → Except EvalFatalError Bool × CallState
  | .and _ children, s => evalAnd children s
  | .or _ children, s => evalOr children s
  | .not _ child, s =>
    match evalExpr child s with
    | (.error e, s') => (.error e, s')
    | (.ok b, s') => (.ok (!b), s')
  | .leaf l, s => evalLeaf rt call data l s

/-- The loop over the children of an `And`: it breaks at the first `false`. -/
def evalAnd : List RuleExpr → CallState → Except EvalFatalError Bool × CallState
  | [], s => (.ok true, s)
  | child :: children, s =>
    match evalExpr child s with
    | (.error e, s') => (.error e, s')
    | (.ok false, s') => (.ok false, s')
    | (.ok true, s') => evalAnd children s'

/-- The loop over the children of an `Or`: it breaks at the first `true`. -/
def evalOr : List RuleExpr → CallState → Except EvalFatalError Bool × CallState
  | [], s => (.ok false, s)
  | child :: children, s =>
    match evalExpr child s with
    | (.error e, s') => (.error e, s')
    | (.ok true, s') => (.ok true, s')
    | (.ok false, s') => evalOr children s'

end

end

/-- Microseconds between two readings, `0` if the clock went back. -/
def elapsedUs (start now : Int) : Nat := (now - start).toNat / 1000 % 2 ^ 64

/-- `Evaluator`: the rule, the trace and what the leaves run against. -/
structure Evaluator where
  root : RuleExpr
  trace : TraceContext
  engineVersion : String
  runtime : Runtime

open Evaluator

def Evaluator.resetTracePreservingOtel (ev : Evaluator) : Evaluator :=
  { ev with trace := TraceContext.withOtel ev.trace.otelTraceId }

abbrev EvaluateOutcome := Bool × Except PartialManifest EvidenceManifest

/-- `evaluate`: the outcome, and the evaluator afterwards. -/
def Evaluator.evaluate (ev : Evaluator) (call : Call) (data : Value) :
    EvaluateOutcome × Evaluator :=
  let walk := evalExpr ev.runtime call data ev.root ⟨ev.trace, 1⟩
  let tick := walk.2.tick
  let stamp : Stamp :=
    ⟨call.manifestId, call.clock (tick + 1), elapsedUs (call.clock 0) (call.clock tick)⟩
  let finalized := walk.2.trace.finalizeWithTrace ev.runtime.sha256
  let otel := finalized.2.otelTraceId
  let after := Evaluator.resetTracePreservingOtel { ev with trace := finalized.2 }
  match walk.1, finalized.1 with
  | .ok decision, .ok (_, steps) =>
    ((decision, .ok (buildEvidenceManifest ev.runtime steps data ev.engineVersion decision stamp
      otel)), after)
  | .ok _, .error e =>
    ((false, .error ⟨emptyManifest, "trace finalize: " ++ e.message, none⟩), after)
  | .error fatal, .ok (_, steps) =>
    ((false, .error (buildPartialManifest ev.runtime fatal steps data ev.engineVersion stamp
      otel)), after)
  | .error fatal, .error e =>
    ((false, .error ⟨emptyManifest,
      "trace finalize after error (" ++ e.message ++ "): " ++ fatal.message, none⟩), after)

def Evaluator.fresh (root : RuleExpr) (otelTraceId : Option String) (engineVersion : String)
    (runtime : Runtime) : Evaluator :=
  ⟨root, TraceContext.withOtel otelTraceId, engineVersion, runtime⟩

def Evaluator.afterAll (ev : Evaluator) (history : List (Call × Value)) : Evaluator :=
  history.foldl (fun ev c => (ev.evaluate c.1 c.2).2) ev

/-! ## The walk against the reference semantics -/

variable {l : Leaf} {otel : Option String} {t : Nat} {rows : List LeafRow}

section

variable {rt : Runtime} {call : Call} {data : Value}

/-- The state at moment `t` of a call that has recorded the given rows. -/
structure CallState.At (s : CallState) (otel : Option String) (t : Nat) (rows : List LeafRow) :
    Prop where
  tick : s.tick = t
  recorded : s.trace.Recorded rows
  otel : s.trace.otelTraceId = otel

variable {s : CallState} {row : LeafRow}

theorem evalLeaf_of_ok (hs : s.At otel t rows) (hrow : leafAt rt call data t l = .ok row) :
    ∃ s', evalLeaf rt call data l s = (.ok row.result, s')
      ∧ s'.At otel (t + 1) (rows ++ [row]) := by
  obtain ⟨ctx', hrec, hctx, hotel⟩ := hs.recorded.recordStep (call.clock s.tick) row
  refine ⟨⟨ctx', s.tick + 1⟩, ?_, ⟨by rw [hs.tick], hctx, hotel.trans hs.otel⟩⟩
  simp only [evalLeaf, hs.tick, hrow]
  rw [hs.tick] at hrec
  rw [hrec]

variable {e : RuleExpr} {log : List (Leaf × LeafRow)}

/-- **The walk of a tree with a value** returns it and records the evaluated leaves. -/
theorem evalExpr_of_evaluates {b : Bool}
    (h : Evaluates (leafAt rt call data) LeafRow.result t e log b) (hs : s.At otel t rows) :
    ∃ s', evalExpr rt call data e s = (.ok b, s')
      ∧ s'.At otel (t + log.length) (rows ++ log.map Prod.snd) := by
  induction h generalizing s rows with
  | leaf h => exact evalLeaf_of_ok hs h
  | andNil => exact ⟨s, rfl, by simpa using hs⟩
  | andStop _ ih =>
    obtain ⟨s', hrun, hs'⟩ := ih hs
    refine ⟨s', ?_, hs'⟩
    rw [evalExpr, evalAnd, hrun]
  | andNext _ _ ih ih' =>
    obtain ⟨s₁, hrun, hs₁⟩ := ih hs
    obtain ⟨s₂, hrun', hs₂⟩ := ih' hs₁
    refine ⟨s₂, ?_, by simpa [add_assoc] using hs₂⟩
    rw [evalExpr, evalAnd, hrun]
    exact hrun'
  | orNil => exact ⟨s, rfl, by simpa using hs⟩
  | orStop _ ih =>
    obtain ⟨s', hrun, hs'⟩ := ih hs
    refine ⟨s', ?_, hs'⟩
    rw [evalExpr, evalOr, hrun]
  | orNext _ _ ih ih' =>
    obtain ⟨s₁, hrun, hs₁⟩ := ih hs
    obtain ⟨s₂, hrun', hs₂⟩ := ih' hs₁
    refine ⟨s₂, ?_, by simpa [add_assoc] using hs₂⟩
    rw [evalExpr, evalOr, hrun]
    exact hrun'
  | not _ ih =>
    obtain ⟨s', hrun, hs'⟩ := ih hs
    refine ⟨s', ?_, hs'⟩
    rw [evalExpr, hrun]

variable {err : EvalFatalError}

/-- **The walk up to a failing leaf** returns its error and records the leaves before it. -/
theorem evalExpr_of_failsAt
    (h : FailsAt (leafAt rt call data) LeafRow.result t e log l err) (hs : s.At otel t rows) :
    ∃ s', evalExpr rt call data e s = (.error err, s')
      ∧ s'.At otel (t + log.length) (rows ++ log.map Prod.snd) := by
  obtain ⟨hreach, herr⟩ := h
  induction hreach generalizing s rows with
  | leaf =>
    refine ⟨s, ?_, by simpa using hs⟩
    rw [evalExpr, evalLeaf, hs.tick]
    simp only [length_nil, add_zero] at herr
    rw [herr]
  | andHead _ ih =>
    obtain ⟨s', hrun, hs'⟩ := ih hs herr
    refine ⟨s', ?_, hs'⟩
    rw [evalExpr, evalAnd, hrun]
  | andNext h _ ih =>
    obtain ⟨s₁, hrun, hs₁⟩ := evalExpr_of_evaluates h hs
    obtain ⟨s₂, hrun', hs₂⟩ := ih hs₁ (by rwa [add_assoc, ← length_append])
    refine ⟨s₂, ?_, by simpa [add_assoc] using hs₂⟩
    rw [evalExpr, evalAnd, hrun]
    exact hrun'
  | orHead _ ih =>
    obtain ⟨s', hrun, hs'⟩ := ih hs herr
    refine ⟨s', ?_, hs'⟩
    rw [evalExpr, evalOr, hrun]
  | orNext h _ ih =>
    obtain ⟨s₁, hrun, hs₁⟩ := evalExpr_of_evaluates h hs
    obtain ⟨s₂, hrun', hs₂⟩ := ih hs₁ (by rwa [add_assoc, ← length_append])
    refine ⟨s₂, ?_, by simpa [add_assoc] using hs₂⟩
    rw [evalExpr, evalOr, hrun]
    exact hrun'
  | not _ ih =>
    obtain ⟨s', hrun, hs'⟩ := ih hs herr
    refine ⟨s', ?_, hs'⟩
    rw [evalExpr, hrun]

end

/-! ## Whole calls -/

section

variable {call : Call} {data : Value}

/-- The state in which a call on an evaluator with an empty trace starts. -/
theorem at_start (ev : Evaluator) (h : ev.trace = withOtel ev.trace.otelTraceId) :
    CallState.At ⟨ev.trace, 1⟩ ev.trace.otelTraceId 1 [] := by
  refine ⟨rfl, ?_, rfl⟩
  rw [h]
  exact recorded_withOtel _

theorem evaluate_of_walk {ev : Evaluator} {outcome : Except EvalFatalError Bool} {s' : CallState}
    (hrun : evalExpr ev.runtime call data ev.root ⟨ev.trace, 1⟩ = (outcome, s'))
    (hs' : s'.At otel t rows) :
    ∃ steps stamp, steps.map TraceStep.row = rows ∧ (ev.evaluate call data).1 =
      match outcome with
      | .ok decision => (decision, .ok (buildEvidenceManifest ev.runtime steps data
          ev.engineVersion decision stamp otel))
      | .error fatal => (false, .error (buildPartialManifest ev.runtime fatal steps data
          ev.engineVersion stamp otel)) := by
  obtain ⟨fp, steps, ctx', hfin, hrows, hotel⟩ := hs'.recorded.finalize ev.runtime.sha256
  have hotel' : ctx'.otelTraceId = otel := hotel.trans hs'.otel
  refine ⟨steps, ⟨call.manifestId, call.clock (s'.tick + 1),
    elapsedUs (call.clock 0) (call.clock s'.tick)⟩, hrows, ?_⟩
  rw [evaluate, hrun]
  simp only [hfin, hotel']
  cases outcome <;> rfl

variable {log : List (Leaf × LeafRow)}

theorem evaluate_of_evaluates (ev : Evaluator) {b : Bool}
    (hev : ev.trace = withOtel ev.trace.otelTraceId)
    (h : Evaluates (leafAt ev.runtime call data) LeafRow.result 1 ev.root log b) :
    ∃ m, (ev.evaluate call data).1 = (b, .ok m) ∧ m.finalDecision = some b
      ∧ m.steps = log.map (fun p => traceStepToProto p.2 ev.trace.otelTraceId) := by
  obtain ⟨s', hrun, hs'⟩ := evalExpr_of_evaluates h (at_start ev hev)
  obtain ⟨steps, stamp, hrows, hout⟩ := evaluate_of_walk hrun hs'
  refine ⟨_, hout, rfl, ?_⟩
  rw [steps_buildEvidenceManifest hrows]
  simp

theorem evaluate_of_failsAt (ev : Evaluator)
    (hev : ev.trace = withOtel ev.trace.otelTraceId)
    (h : FailsAt (leafAt ev.runtime call data) LeafRow.result 1 ev.root log l err) :
    ∃ p, (ev.evaluate call data).1 = (false, .error p)
      ∧ p.evidence.finalDecision = some false
      ∧ p.evidence.steps = log.map (fun p => traceStepToProto p.2 ev.trace.otelTraceId)
      ∧ p.failureMessage = err.message ∧ p.failingRuleId = some l.id := by
  obtain ⟨s', hrun, hs'⟩ := evalExpr_of_failsAt h (at_start ev hev)
  obtain ⟨steps, stamp, hrows, hout⟩ := evaluate_of_walk hrun hs'
  have hid : err.ruleId = l.id := (rowAt_leafRow _ _ data l).errorsAt err h.2
  refine ⟨_, hout, rfl, ?_, rfl, ?_⟩
  · rw [buildPartialManifest, steps_buildEvidenceManifest hrows]
    simp
  · simp [buildPartialManifest, failingRuleIdFromFatal, hid]

end

/-! ## Reuse of an evaluator -/

section

variable (rt : Runtime) (call : Call) (data : Value)

theorem otelTraceId_recordStep {ctx ctx' : TraceContext} {now : Int}
    (h : ctx.recordStep now row = .ok ctx') : ctx'.otelTraceId = ctx.otelTraceId := by
  unfold recordStep at h
  split at h
  · cases h
  · cases h
    rfl

theorem otelTraceId_evalLeaf (l : Leaf) (s : CallState) :
    (evalLeaf rt call data l s).2.trace.otelTraceId = s.trace.otelTraceId := by
  unfold evalLeaf
  split
  · rfl
  · split
    · rfl
    · exact otelTraceId_recordStep (by assumption)

mutual

theorem otelTraceId_evalExpr : ∀ (e : RuleExpr) (s : CallState),
    (evalExpr rt call data e s).2.trace.otelTraceId = s.trace.otelTraceId
  | .and _ children, s => otelTraceId_evalAnd children s
  | .or _ children, s => otelTraceId_evalOr children s
  | .not _ child, s => by
    have ih := otelTraceId_evalExpr child s
    rw [evalExpr]
    split <;> simp_all
  | .leaf l, s => otelTraceId_evalLeaf rt call data l s

theorem otelTraceId_evalAnd : ∀ (children : List RuleExpr) (s : CallState),
    (evalAnd rt call data children s).2.trace.otelTraceId = s.trace.otelTraceId
  | [], _ => rfl
  | child :: children, s => by
    have ih := otelTraceId_evalExpr child s
    rw [evalAnd]
    split <;> rename_i s' heq <;> rw [heq] at ih
    · exact ih
    · exact ih
    · rw [otelTraceId_evalAnd children s']
      exact ih

theorem otelTraceId_evalOr : ∀ (children : List RuleExpr) (s : CallState),
    (evalOr rt call data children s).2.trace.otelTraceId = s.trace.otelTraceId
  | [], _ => rfl
  | child :: children, s => by
    have ih := otelTraceId_evalExpr child s
    rw [evalOr]
    split <;> rename_i s' heq <;> rw [heq] at ih
    · exact ih
    · exact ih
    · rw [otelTraceId_evalOr children s']
      exact ih

end

theorem otelTraceId_finalizeWithTrace (sha256 : Bytes → Digest) (ctx : TraceContext) :
    (ctx.finalizeWithTrace sha256).2.otelTraceId = ctx.otelTraceId := by
  unfold finalizeWithTrace
  split <;> rfl

/-- **A call leaves an empty trace behind**, whatever happened in it. -/
theorem evaluate_after (ev : Evaluator) :
    (ev.evaluate call data).2 = ev.resetTracePreservingOtel := by
  have hotel := otelTraceId_evalExpr ev.runtime call data ev.root ⟨ev.trace, 1⟩
  unfold evaluate
  simp only
  split <;> simp [resetTracePreservingOtel, otelTraceId_finalizeWithTrace, hotel]

/-- **No history**: a new evaluator is the same after any calls. -/
theorem afterAll_fresh (root : RuleExpr) (otel : Option String) (engineVersion : String)
    (history : List (Call × Value)) :
    (fresh root otel engineVersion rt).afterAll history
      = fresh root otel engineVersion rt := by
  unfold afterAll
  induction history with
  | nil => rfl
  | cons c history ih =>
    rw [foldl_cons, evaluate_after]
    exact ih

end

/-! ## Replay and failure -/

/-- `MockExternal`: the map-backed source of tests and local tooling. -/
structure MockExternal where
  redis : List (String × String)
  lists : List (String × List String)
  customs : List (String × Bool)

/-- The answers of a `MockExternal`. -/
def MockExternal.source (mock : MockExternal) : ExternalDataSource where
  redisGet key := (mock.redis.lookup key).elim (.error (.redis key "missing key")) .ok
  listContains list item :=
    (mock.lists.lookup list).elim (.error (.list list "unknown list")) (fun items =>
      .ok (items.any (· == item)))
  customEval name _ :=
    (mock.customs.lookup name).elim (.error (.custom name "unknown custom rule")) .ok

namespace Demo

/-- A source with two custom rules, a fixed clock and a drawn id. -/
def call : Call where
  clock := fun _ => 1700000000000000000
  external := fun _ => MockExternal.source ⟨[], [], [("watchlisted", true), ("vip", true)]⟩
  manifestId := List.replicate 16 1

def sha256 (b : Bytes) : Digest :=
  if b.length = 115 then ⟨[151, 224, 102, 36, 208, 26, 255, 167, 7, 18, 217, 101, 221, 86, 238,
    150, 210, 174, 58, 239, 179, 9, 166, 169, 193, 106, 113, 129, 125, 138, 234, 107], rfl⟩
  else ⟨[13, 241, 104, 2, 88, 199, 31, 91, 251, 72, 8, 161, 169, 189, 100, 43, 189, 95, 232, 125,
    142, 234, 151, 130, 219, 181, 46, 131, 10, 251, 229, 65], rfl⟩

/-- Custom rules need no texts and no sandbox. -/
def runtime : Runtime where
  sha256 := sha256
  engineFingerprint := "demo"
  toJson := fun _ => .ok "null"
  fromStr := fun _ => none
  display := fun _ => "null"
  displayNumber := fun _ => "0"
  displayF64 := fun _ => "0"
  parseF64 := fun _ => none
  contentIdHex := fun _ => .error "invalid hex"
  wasm := none

def rule (name : String) : RuleExpr :=
  .or "any" [.not "clean" (.leaf (.customLeaf "r1" "watchlisted")), .leaf (.customLeaf "r2" name)]

def watchlistedRow : LeafRow where
  ruleId := "r1"
  operator := "CUSTOM"
  operands := ["watchlisted"]
  result := true
  scope := (KeyMap.empty.insert "custom.name" "watchlisted").insert "custom.result" "true"

end Demo

open Demo

/-- **Replay of a manifest**: earlier calls on the same evaluator do not matter, and unless a
reached leaf fails the recorded outcomes replay, all of them, to the decision of the manifest. -/
theorem manifest_replays (rt : Runtime) (root : RuleExpr) (otel : Option String)
    (engineVersion : String) (history : List (Call × Value)) (call : Call) (data : Value) :
    (((Evaluator.fresh root otel engineVersion rt).afterAll history).evaluate call data).1
        = ((Evaluator.fresh root otel engineVersion rt).evaluate call data).1
      ∧ ((∀ log l e, ¬ FailsAt (leafAt rt call data) LeafRow.result 1 root log l e) →
        ∃ decision m,
          (((Evaluator.fresh root otel engineVersion rt).afterAll history).evaluate call data).1
              = (decision, .ok m)
            ∧ m.finalDecision = some decision
            ∧ replay root (m.steps.map Step.result) = some (decision, [])) := by
  rw [afterAll_fresh]
  refine ⟨rfl, fun hok => ?_⟩
  rcases evaluates_or_failsAt (leafAt rt call data) LeafRow.result root 1 with
    ⟨log, b, h⟩ | ⟨log, l, e, h⟩
  · obtain ⟨m, hout, hdecision, hsteps⟩ :=
      evaluate_of_evaluates (Evaluator.fresh root otel engineVersion rt) rfl h
    refine ⟨b, m, hout, hdecision, ?_⟩
    have hreplay := h.replay []
    rw [append_nil] at hreplay
    rw [hsteps, map_map]
    exact hreplay
  · exact absurd h (hok log l e)

/-- A rule whose two leaves are both evaluated, after another call. -/
theorem manifest_replays_vip :
    ∃ decision m,
      (((Evaluator.fresh (rule "vip") none "1.0" runtime).afterAll
          [(call, .null)]).evaluate call (.bool true)).1 = (decision, .ok m)
        ∧ m.finalDecision = some decision
        ∧ replay (rule "vip") (m.steps.map Step.result) = some (decision, []) := by
  refine (manifest_replays runtime (rule "vip") none "1.0" [(call, .null)] call
    (.bool true)).2 ?_
  rintro log l e ⟨hreach, herr⟩
  have hok : ∀ t id name, name = "watchlisted" ∨ name = "vip" →
      leafAt runtime call (.bool true) t (.customLeaf id name) ≠ .error e := by
    rintro t id name (rfl | rfl) h <;> cases h
  cases hreach with
  | orHead h =>
    cases h with
    | not h =>
      cases h
      exact hok _ _ _ (.inl rfl) herr
  | orNext _ h =>
    cases h with
    | orHead h =>
      cases h
      exact hok _ _ _ (.inr rfl) herr
    | orNext _ h => cases h

/-- **A failing leaf**: the decision is negative, the trace is exactly the leaves evaluated
before the failing one, and the failure is under its id. -/
theorem failing_leaf_partial_manifest (rt : Runtime) (root : RuleExpr) (otel : Option String)
    (engineVersion : String) (history : List (Call × Value)) (call : Call) (data : Value)
    (log : List (Leaf × LeafRow)) (l : Leaf) (err : EvalFatalError)
    (h : FailsAt (leafAt rt call data) LeafRow.result 1 root log l err) :
    ∃ p, (((Evaluator.fresh root otel engineVersion rt).afterAll history).evaluate call data).1
          = (false, .error p)
      ∧ p.evidence.finalDecision = some false
      ∧ p.evidence.steps = log.map (fun x => traceStepToProto x.2 otel)
      ∧ p.evidence.steps.map Step.ruleId = log.map (fun x => x.1.id)
      ∧ p.failingRuleId = some l.id := by
  rw [afterAll_fresh]
  obtain ⟨p, hout, hdecision, hsteps, -, hid⟩ :=
    evaluate_of_failsAt (Evaluator.fresh root otel engineVersion rt) rfl h
  refine ⟨p, hout, hdecision, hsteps, ?_, hid⟩
  rw [hsteps, map_map]
  refine map_congr_left (fun x hx => ?_)
  obtain ⟨t, hrow⟩ := h.1.log_ok x hx
  exact (rowAt_leafRow rt (call.external t) data x.1).row x.2 hrow

/-- A rule that reaches an unknown custom rule after one leaf. -/
theorem failing_leaf_partial_manifest_unknown :
    ∃ p, (((Evaluator.fresh (rule "unknown") none "1.0" runtime).afterAll
          [(call, .null)]).evaluate call (.bool true)).1 = (false, .error p)
      ∧ p.evidence.finalDecision = some false
      ∧ p.evidence.steps = [(Leaf.customLeaf "r1" "watchlisted", watchlistedRow)].map
          (fun x => traceStepToProto x.2 none)
      ∧ p.evidence.steps.map Step.ruleId
          = [(Leaf.customLeaf "r1" "watchlisted", watchlistedRow)].map (fun x => x.1.id)
      ∧ p.failingRuleId = some (Leaf.customLeaf "r2" "unknown").id := by
  have hfirst : Evaluates (leafAt runtime call (.bool true)) LeafRow.result 1
      (Tree.not "clean" (.leaf (.customLeaf "r1" "watchlisted")))
      [(Leaf.customLeaf "r1" "watchlisted", watchlistedRow)] false := .not (.leaf rfl)
  exact failing_leaf_partial_manifest runtime (rule "unknown") none "1.0"
    [(call, .null)] call (.bool true)
    [(.customLeaf "r1" "watchlisted", watchlistedRow)] (.customLeaf "r2" "unknown")
    ⟨"r2", .external (.custom "unknown" "unknown custom rule")⟩
    ⟨.orNext hfirst (.orHead .leaf), rfl⟩

end Tarka.Engine
