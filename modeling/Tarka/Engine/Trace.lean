import Tarka.Lib.KeyMap

/-! # The trace recorder (`engine/trace.rs`)

A trace context numbers the steps it records and hands them out once, in the order of their
numbers. One evaluation has it to itself, so that the lock-free queue is a list and the atomic
counter a natural number.

`Recorded.recordStep` and `Recorded.finalize` are what the evaluator needs: an open context
records every row, and finalizing returns exactly the recorded rows in order. -/

namespace Tarka.Engine

open Tarka.Lib List KeyMap

/-- What a leaf hands to `record_step`. -/
structure LeafRow where
  ruleId : String
  operator : String
  operands : List String
  result : Bool
  scope : KeyMap String

/-- One recorded rule invocation. -/
structure TraceStep where
  sequence : Nat
  capturedAtMs : Nat
  row : LeafRow

inductive TraceError where
  | finalized
  deriving DecidableEq

def TraceError.message : TraceError → String
  | finalized => "trace has already been finalized"

/-- The state of a trace context. -/
structure TraceContext where
  nextSequence : Nat
  queue : List TraceStep
  finalized : Bool
  otelTraceId : Option String

/-- `TraceContext::with_clock_and_otel`. -/
def TraceContext.withOtel (traceId : Option String) : TraceContext := ⟨0, [], false, traceId⟩

/-- `wall_clock_ms`. A reading of the clock is in nanoseconds since the epoch, and negative
before it. -/
def wallClockMs (now : Int) : Nat := now.toNat / 1000000 % 2 ^ 64

def unixNanosForClock (now : Int) : Nat := now.toNat % 2 ^ 64

/-- `record_step`, at a reading of the clock. -/
def TraceContext.recordStep (ctx : TraceContext) (now : Int) (row : LeafRow) :
    Except TraceError TraceContext :=
  if ctx.finalized then .error .finalized
  else .ok { ctx with
    nextSequence := ctx.nextSequence + 1
    queue := ctx.queue ++ [⟨ctx.nextSequence, wallClockMs now, row⟩] }

def writeLenPrefixedBytes (b : Bytes) : Bytes := beBytes 4 b.length ++ b

def stepPayload (s : TraceStep) : Bytes :=
  beBytes 8 s.sequence ++ beBytes 8 s.capturedAtMs
    ++ writeLenPrefixedBytes (utf8 s.row.ruleId) ++ writeLenPrefixedBytes (utf8 s.row.operator)
    ++ beBytes 4 s.row.operands.length
    ++ s.row.operands.flatMap (fun o => writeLenPrefixedBytes (utf8 o))
    ++ [if s.row.result then 1 else 0]
    ++ beBytes 4 s.row.scope.entries.length
    ++ s.row.scope.sortedEntries.flatMap
        (fun e => writeLenPrefixedBytes (utf8 e.1) ++ writeLenPrefixedBytes (utf8 e.2))

def canonicalStepPayload (otelTraceId : Option String) (steps : List TraceStep) : Bytes :=
  writeLenPrefixedBytes (utf8 (otelTraceId.getD "")) ++ steps.flatMap stepPayload

/-- `finalize_with_trace`: the logic fingerprint and the steps in order, once. -/
def TraceContext.finalizeWithTrace (sha256 : Bytes → Digest) (ctx : TraceContext) :
    Except TraceError (Digest × List TraceStep) × TraceContext :=
  if ctx.finalized then (.error .finalized, ctx)
  else
    let steps := ctx.queue.insertionSort (fun a b => a.sequence ≤ b.sequence)
    (.ok (sha256 (canonicalStepPayload ctx.otelTraceId steps), steps),
      { ctx with queue := [], finalized := true })

/-! ## Recorded rows -/

/-- An open context that has recorded the given rows, and nothing else. -/
structure TraceContext.Recorded (ctx : TraceContext) (rows : List LeafRow) : Prop where
  opened : ctx.finalized = false
  rows : ctx.queue.map TraceStep.row = rows
  ordered : (ctx.queue.map TraceStep.sequence) = List.range ctx.nextSequence

namespace TraceContext

theorem recorded_withOtel (traceId : Option String) : (withOtel traceId).Recorded [] :=
  ⟨rfl, rfl, rfl⟩

variable {rows : List LeafRow} {ctx : TraceContext}

/-- **Recording a step**: an open context records it at the end. -/
theorem Recorded.recordStep (h : ctx.Recorded rows) (now : Int) (row : LeafRow) :
    ∃ ctx', ctx.recordStep now row = .ok ctx' ∧ ctx'.Recorded (rows ++ [row])
      ∧ ctx'.otelTraceId = ctx.otelTraceId := by
  refine ⟨{ ctx with
    nextSequence := ctx.nextSequence + 1
    queue := ctx.queue ++ [⟨ctx.nextSequence, wallClockMs now, row⟩] }, ?_, ⟨h.opened, ?_, ?_⟩, rfl⟩
  · rw [TraceContext.recordStep, if_neg (by simp [h.opened])]
  · simp [h.rows]
  · simp [h.ordered, range_succ]

/-- **Finalizing returns the recorded rows in order.** -/
theorem Recorded.finalize (h : ctx.Recorded rows) (sha256 : Bytes → Digest) :
    ∃ fp steps ctx', ctx.finalizeWithTrace sha256 = (.ok (fp, steps), ctx')
      ∧ steps.map TraceStep.row = rows ∧ ctx'.otelTraceId = ctx.otelTraceId := by
  have hsorted : ctx.queue.Pairwise (fun a b => a.sequence ≤ b.sequence) := by
    have hrange : (ctx.queue.map TraceStep.sequence).Pairwise (· ≤ ·) := by
      rw [h.ordered]
      exact pairwise_le_range
    exact pairwise_map.mp hrange
  refine ⟨_, _, { ctx with queue := [], finalized := true },
    by rw [finalizeWithTrace, if_neg (by simp [h.opened])], ?_, rfl⟩
  rw [hsorted.insertionSort_eq, h.rows]

end TraceContext

/-! ## The fingerprint payload

The payload has no count of its steps. Every step knows where it ends, so that the payload is read
back from the left. -/

/-- The ranges of the two `u64` fields, and the lengths that `write_len_prefixed_bytes` and the
counts convert to `u32` without a panic. -/
structure TraceStep.Fits (s : TraceStep) : Prop where
  sequence : s.sequence < 2 ^ 64
  capturedAtMs : s.capturedAtMs < 2 ^ 64
  ruleId : (utf8 s.row.ruleId).length < 2 ^ 32
  operator : (utf8 s.row.operator).length < 2 ^ 32
  operands : s.row.operands.length < 2 ^ 32 ∧ ∀ o ∈ s.row.operands, (utf8 o).length < 2 ^ 32
  scope : s.row.scope.entries.length < 2 ^ 32
    ∧ ∀ e ∈ s.row.scope.entries, (utf8 e.1).length < 2 ^ 32 ∧ (utf8 e.2).length < 2 ^ 32

/-- Two steps that agree in every field; their scopes are maps. -/
structure TraceStep.Same (s s' : TraceStep) : Prop where
  sequence : s.sequence = s'.sequence
  capturedAtMs : s.capturedAtMs = s'.capturedAtMs
  ruleId : s.row.ruleId = s'.row.ruleId
  operator : s.row.operator = s'.row.operator
  operands : s.row.operands = s'.row.operands
  result : s.row.result = s'.row.result
  scope : ∀ k, s.row.scope.get? k = s'.row.scope.get? k

/-- The fields of a step in the order of the payload. -/
abbrev StepFields :=
  Nat × Nat × String × String × List String × Bool × List (String × String)

def TraceStep.fields (s : TraceStep) : StepFields :=
  (s.sequence, s.capturedAtMs, s.row.ruleId, s.row.operator, s.row.operands, s.row.result,
    s.row.scope.sortedEntries)

variable {s : TraceStep}

theorem TraceStep.same_of_fields {s' : TraceStep} (h : s.fields = s'.fields) : s.Same s' := by
  simp only [fields, Prod.mk.injEq] at h
  obtain ⟨hseq, hms, hid, hop, hoperands, hresult, hscope⟩ := h
  exact ⟨hseq, hms, hid, hop, hoperands, hresult, get?_eq_of_sortedEntries_eq hscope⟩

def encodeText (s : String) : Bytes := lenPrefixed (utf8 s)

def encodeFields (x : StepFields) : Bytes :=
  beBytes 8 x.1 ++ (beBytes 8 x.2.1 ++ (encodeText x.2.2.1 ++ (encodeText x.2.2.2.1
    ++ (counted encodeText x.2.2.2.2.1 ++ ([if x.2.2.2.2.2.1 then (1 : UInt8) else 0]
      ++ counted (fun e => encodeText e.1 ++ encodeText e.2) x.2.2.2.2.2.2)))))

theorem stepPayload_eq (s : TraceStep) : stepPayload s = encodeFields s.fields := by
  simp only [stepPayload, encodeFields, TraceStep.fields, counted, length_sortedEntries,
    append_assoc]
  rfl

/-- The values of the fields that are encoded without loss. -/
def FieldsFit (x : StepFields) : Prop :=
  x.1 < 256 ^ 8 ∧ x.2.1 < 256 ^ 8 ∧ (utf8 x.2.2.1).length < 256 ^ 4
    ∧ (utf8 x.2.2.2.1).length < 256 ^ 4
    ∧ (x.2.2.2.2.1.length < 256 ^ 4 ∧ ∀ o ∈ x.2.2.2.2.1, (utf8 o).length < 256 ^ 4) ∧ True
    ∧ x.2.2.2.2.2.2.length < 256 ^ 4
    ∧ ∀ e ∈ x.2.2.2.2.2.2, (utf8 e.1).length < 256 ^ 4 ∧ (utf8 e.2).length < 256 ^ 4

theorem selfDelimiting_encodeFields : SelfDelimiting FieldsFit encodeFields := by
  have htext : SelfDelimiting (fun s : String => (utf8 s).length < 256 ^ 4) encodeText :=
    selfDelimiting_lenPrefixed.comap utf8_injective
  have hflag : SelfDelimiting (fun _ : Bool => True) (fun b => [if b then (1 : UInt8) else 0]) :=
    .of_width 1 (fun _ => rfl) (by decide)
  exact (selfDelimiting_beBytes 8).append ((selfDelimiting_beBytes 8).append (htext.append
    (htext.append (htext.counted.append (hflag.append (htext.append htext).counted)))))

theorem TraceStep.Fits.fieldsFit (h : s.Fits) : FieldsFit s.fields := by
  refine ⟨h.sequence, h.capturedAtMs, h.ruleId, h.operator, h.operands, trivial, ?_, ?_⟩
  · exact s.row.scope.length_sortedEntries ▸ h.scope.1
  · rintro ⟨k, v⟩ he
    rw [TraceStep.fields, mem_sortedEntries, get?_eq_some_iff] at he
    exact h.scope.2 _ he

/-- **The payload is injective**: it determines the trace id, a missing one being the empty one,
and the steps. -/
theorem canonicalStepPayload_injective (id id' : Option String) (steps steps' : List TraceStep)
    (hid : (utf8 (id.getD "")).length < 2 ^ 32) (hid' : (utf8 (id'.getD "")).length < 2 ^ 32)
    (hfits : ∀ s ∈ steps, s.Fits) (hfits' : ∀ s ∈ steps', s.Fits)
    (h : canonicalStepPayload id steps = canonicalStepPayload id' steps') :
    id.getD "" = id'.getD "" ∧ steps.length = steps'.length
      ∧ List.Forall₂ TraceStep.Same steps steps' := by
  have hflat : ∀ l : List TraceStep,
      l.flatMap stepPayload = (l.map TraceStep.fields).flatMap encodeFields := by
    intro l
    rw [flatMap_map]
    exact flatMap_congr fun s _ => stepPayload_eq s
  have hfit : ∀ l : List TraceStep, (∀ s ∈ l, s.Fits) →
      ∀ x ∈ l.map TraceStep.fields, FieldsFit x := by
    intro l hl x hx
    obtain ⟨s, hs, rfl⟩ := mem_map.mp hx
    exact (hl s hs).fieldsFit
  obtain ⟨hids, hsteps⟩ := selfDelimiting_lenPrefixed.comap utf8_injective _ _ hid hid' _ _ h
  rw [hflat, hflat] at hsteps
  have hfields : steps.map TraceStep.fields = steps'.map TraceStep.fields :=
    selfDelimiting_encodeFields.flatMap_inj (fun x _ => by simp [encodeFields, beBytes]) _ _
      (hfit steps hfits) (hfit steps' hfits') hsteps
  rw [← forall₂_eq_eq_eq, forall₂_map_left_iff, forall₂_map_right_iff] at hfields
  exact ⟨hids, hfields.length_eq, hfields.imp fun _ _ => TraceStep.same_of_fields⟩

/-- A step whose scope was filled in one of two orders. -/
def scopedStep (swap : Bool) : TraceStep where
  sequence := 0
  capturedAtMs := 7
  row := ⟨"r1", "gt", ["amount", "10"], true,
    if swap then (KeyMap.empty.insert "b" "2").insert "a" "1"
    else (KeyMap.empty.insert "a" "1").insert "b" "2"⟩

theorem canonicalStepPayload_injective_scoped :
    canonicalStepPayload none [scopedStep false] = canonicalStepPayload (some "") [scopedStep true]
      ∧ List.Forall₂ TraceStep.Same [scopedStep false] [scopedStep true] := by
  have hfits : ∀ b, (scopedStep b).Fits := fun b => by cases b <;> constructor <;> decide
  have hpayload : canonicalStepPayload none [scopedStep false]
      = canonicalStepPayload (some "") [scopedStep true] := by decide +kernel
  exact ⟨hpayload, (canonicalStepPayload_injective none (some "") _ _ (by decide) (by decide)
    (forall_mem_singleton.mpr (hfits false)) (forall_mem_singleton.mpr (hfits true))
    hpayload).2.2⟩

end Tarka.Engine
