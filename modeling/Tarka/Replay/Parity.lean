import Tarka.Json.Reader
import Tarka.Replay.Leaves
import Tarka.Replay.Payload
import Tarka.Rules.ConditionParity

/-! # When a replay agrees with the evaluation

A replay gives the decision and the steps of the manifest exactly if the modules of the sandbox can
be registered, every leaf that was evaluated reads of the rebuilt payload what it has read of the
payload, lists have names, the items found in them have texts, and a trace id that is compared is a
normal one (`replay_matches_iff`). -/

namespace Tarka.Replay

open Tarka.Lib Tarka.Lib.ShortCircuit Tarka.Json Tarka.Engine List KeyMap Evaluator LeafRow

/-- What is known of the texts: that of a value determines it, that of a double determines it unless
it is no number, and no double has the text `null`. -/
structure Faithful (rt : Runtime) : Prop where
  toJson_inj : ∀ v w text, rt.toJson v = .ok text → rt.toJson w = .ok text → v = w
  displayF64_inj : ∀ x y, rt.displayF64 x = rt.displayF64 y →
    x = y ∨ x.isNaN = true ∧ y.isNaN = true
  displayF64_ne_null : ∀ x, rt.displayF64 x ≠ "null"

/-! ## Leaves -/

/-- What a leaf reads of the payload is in the rebuilt payload; a list has a name, and an item that
it contains has a text. -/
def Kept (rt : Runtime) (external : ExternalDataSource) (data payload : Value) : Leaf → Prop
  | .compareLeaf _ path _ _ => readAt payload path = readAt data path
  | .redisCompareLeaf .. => True
  | .listContainsLeaf _ name path =>
    jsonScalarToString rt (readAt payload path) = jsonScalarToString rt (readAt data path)
      ∧ name.isEmpty = false
      ∧ ∀ item, jsonScalarToString rt (readAt data path) = .ok item →
        external.listContains name item = .ok true → item.isEmpty = false
  | .customLeaf .. => True
  | .wasmCustomLeaf _ hex _ exportName =>
    wasmAnswer rt hex exportName payload = wasmAnswer rt hex exportName data
  | .graphMatch .. =>
    (graphScoreFromPayload rt payload).map rt.displayF64
      = (graphScoreFromPayload rt data).map rt.displayF64

/-- Rows that a comparison of steps does not tell apart. -/
structure Alike (row row' : LeafRow) : Prop where
  ruleId : row.ruleId = row'.ruleId
  operator : row.operator = row'.operator
  result : row.result = row'.result
  operands : row.operands = row'.operands
  scope : row.scope.sortedEntries = row'.scope.sortedEntries

theorem Alike.refl (row : LeafRow) : Alike row row := ⟨rfl, rfl, rfl, rfl, rfl⟩

variable {row row' : LeafRow}

theorem Alike.get? (h : Alike row row') (k : String) :
    row.scope.get? k = row'.scope.get? k := get?_eq_of_sortedEntries_eq h.scope k

theorem not_isFinite {x : F64} (h : x.isNaN) : x.isFinite = false := by
  by_contra hfinite
  rw [F64.isNaN_of_isFinite (Bool.not_eq_false _ ▸ hfinite)] at h
  cases h

theorem map_eq_of_getD_eq {α : Type} {f : α → String} {text : String} (hf : ∀ x, f x ≠ text)
    {o o' : Option α} (h : (o.map f).getD text = (o'.map f).getD text) : o.map f = o'.map f := by
  cases o with
  | none =>
    cases o' with
    | none => rfl
    | some y => exact absurd h.symm (hf y)
  | some x =>
    cases o' with
    | none => exact absurd h (hf x)
    | some y => exact congrArg some h

section

variable {rt : Runtime} {external : ExternalDataSource} {data payload : Value}
  {threshold : F64} {id : String}

/-- The row of a graph match depends on the text of the score only. -/
theorem evalGraphMatch_congr (hrt : Faithful rt)
    (h : (graphScoreFromPayload rt payload).map rt.displayF64
      = (graphScoreFromPayload rt data).map rt.displayF64) :
    evalGraphMatch rt id threshold payload = evalGraphMatch rt id threshold data := by
  cases hp : graphScoreFromPayload rt payload with
  | none =>
    rw [hp] at h
    have hd := Option.map_eq_none_iff.mp h.symm
    simp [evalGraphMatch, hp, hd]
  | some x =>
    rw [hp] at h
    obtain ⟨y, hd, htext⟩ := Option.map_eq_some_iff.mp h.symm
    rcases hrt.displayF64_inj y x htext with rfl | ⟨hy, hx⟩
    · simp [evalGraphMatch, hp, hd]
    · -- both are no numbers, which pass no threshold and have one text
      simp [evalGraphMatch, hp, hd, htext, not_isFinite hx, not_isFinite hy]

theorem evalGraphMatch_shows
    (h : evalGraphMatch rt id threshold data = .ok row) : row.scope.get? "context.graph_score"
      = some (((graphScoreFromPayload rt data).map rt.displayF64).getD "null") := by
  cases h
  simp [get?_insert]

variable (hrt : Faithful rt) {log : List (Leaf × LeafRow)}
  (hlog : ∀ p ∈ log, leafRow rt external data p.1 = .ok p.2) (otel : Option String)

include hrt hlog

/-- **A leaf that reads the same is the same in the replay.** -/
theorem leafRow_of_kept {l : Leaf} (hmem : (l, row) ∈ log) (h : Kept rt external data payload l) :
    leafRow rt (mockExternalFromSteps (stepsOf log otel)).source payload l = .ok row := by
  have hrow := hlog _ hmem
  cases l with
  | compareLeaf id path op expected => exact (evalCompareLeaf_congr h).trans hrow
  | redisCompareLeaf id key op expected =>
    exact (evalRedisCompareLeaf_congr (redis_rebuilt hlog otel hmem)).trans hrow
  | listContainsLeaf id name path =>
    obtain ⟨hread, hname, hitem⟩ := h
    obtain ⟨item, contains, hscalar, hcontains, rfl⟩ := evalListContainsLeaf_eq_ok.mp hrow
    refine evalListContainsLeaf_eq_ok.mpr ⟨item, contains, hread.trans hscalar, ?_, rfl⟩
    refine (list_rebuilt hlog otel hmem hcontains).mpr ⟨hname, fun hfound => ?_⟩
    exact hitem item hscalar (hfound ▸ hcontains)
  | customLeaf id name =>
    exact (evalCustomLeaf_congr (custom_rebuilt hlog otel hmem payload)).trans hrow
  | wasmCustomLeaf id hex name exportName =>
    obtain ⟨key, pass, hkey, hanswer, hpass⟩ := evalWasmCustomLeaf_eq_ok.mp hrow
    exact evalWasmCustomLeaf_eq_ok.mpr ⟨key, pass, hkey, Eq.trans h hanswer, hpass⟩
  | graphMatch id threshold => exact (evalGraphMatch_congr hrt h).trans hrow

/-- **A leaf that is the same in the replay reads the same.** -/
theorem kept_of_alike {l : Leaf} (hmem : (l, row) ∈ log)
    (hrow' : leafRow rt (mockExternalFromSteps (stepsOf log otel)).source payload l = .ok row')
    (h : Alike row row') : Kept rt external data payload l := by
  have hrow := hlog _ hmem
  cases l with
  | compareLeaf id path op expected =>
    obtain ⟨text, htext, -, hshown⟩ := evalCompareLeaf_shows hrow
    obtain ⟨text', htext', -, hshown'⟩ := evalCompareLeaf_shows hrow'
    rw [h.get? "input.before", hshown'] at hshown
    rw [← Option.some.inj hshown] at htext
    exact hrt.toJson_inj _ _ _ htext' htext
  | redisCompareLeaf id key op expected => trivial
  | listContainsLeaf id name path =>
    obtain ⟨item, contains, hscalar, hcontains, rfl⟩ := evalListContainsLeaf_eq_ok.mp hrow
    obtain ⟨item', contains', hscalar', hcontains', rfl⟩ := evalListContainsLeaf_eq_ok.mp hrow'
    have hsame : item = item' := by
      have := h.get? "list.item.resolved"
      simpa [listRow, get?_insert] using this
    have hresult : contains = contains' := h.result
    subst hsame hresult
    obtain ⟨hname, hitem⟩ := (list_rebuilt hlog otel hmem hcontains).mp hcontains'
    refine ⟨hscalar'.trans hscalar.symm, hname, fun item' hscalar'' hfound => ?_⟩
    rw [hscalar] at hscalar''
    rw [← Except.ok.inj hscalar''] at hfound ⊢
    exact hitem (Except.ok.inj (hcontains.symm.trans hfound))
  | customLeaf id name => trivial
  | wasmCustomLeaf id hex name exportName =>
    obtain ⟨key, pass, hkey, hanswer, rfl⟩ := evalWasmCustomLeaf_eq_ok.mp hrow
    obtain ⟨key', pass', hkey', hanswer', rfl⟩ := evalWasmCustomLeaf_eq_ok.mp hrow'
    have hresult : pass = pass' := h.result
    exact hanswer'.trans (hresult ▸ hanswer.symm)
  | graphMatch id threshold =>
    have htext := h.get? "context.graph_score"
    rw [evalGraphMatch_shows hrow, evalGraphMatch_shows hrow'] at htext
    exact map_eq_of_getD_eq hrt.displayF64_ne_null (Option.some.inj htext).symm

end

/-! ## Steps -/

variable {compareOtel : Bool} {otel' otel : Option String}

theorem stepEquivalent_iff :
    stepEquivalent compareOtel (traceStepToProto row otel) (traceStepToProto row' otel')
      ↔ Alike row row' ∧ (compareOtel → otel'.getD "" = otel.getD "") := by
  have hotel : (!compareOtel || otel.getD "" == otel'.getD "")
      ↔ (compareOtel → otel'.getD "" = otel.getD "") := by
    cases compareOtel with
    | false => simp
    | true => simpa using eq_comm
  simp only [stepEquivalent, traceStepToProto, Bool.and_eq_true, beq_iff_eq, hotel]
  constructor
  · rintro ⟨⟨⟨⟨⟨hid, hop⟩, hresult⟩, hoperands⟩, hscope⟩, hsame⟩
    exact ⟨⟨hid, hop, hresult, hoperands, hscope⟩, hsame⟩
  · rintro ⟨⟨hid, hop, hresult, hoperands, hscope⟩, hsame⟩
    exact ⟨⟨⟨⟨⟨hid, hop⟩, hresult⟩, hoperands⟩, hscope⟩, hsame⟩

theorem traceStepsEquivalent_iff {original replay : List Step} :
    traceStepsEquivalent original replay compareOtel
      ↔ Forall₂ (fun a b => stepEquivalent compareOtel a b) original replay := by
  rw [traceStepsEquivalent, forall₂_iff_zip, Bool.and_eq_true, beq_iff_eq, all_eq_true]
  refine and_congr_right fun _ => ⟨fun h a b hab => h (a, b) hab, fun h p hp => h hp⟩

variable {log' log : List (Leaf × LeafRow)}

theorem stepsOf_equivalent_iff :
    traceStepsEquivalent (stepsOf log otel) (stepsOf log' otel') compareOtel
      ↔ Forall₂ (fun p p' => Alike p.2 p'.2) log log'
        ∧ (compareOtel → log = [] ∨ otel'.getD "" = otel.getD "") := by
  rw [traceStepsEquivalent_iff, stepsOf, stepsOf, forall₂_map_left_iff, forall₂_map_right_iff]
  simp only [stepEquivalent_iff]
  constructor
  · intro h
    refine ⟨h.imp fun _ _ hp => hp.1, fun hcompare => ?_⟩
    cases h with
    | nil => exact .inl rfl
    | cons hp _ => exact .inr (hp.2 hcompare)
  · rintro ⟨h, hotel⟩
    induction h with
    | nil => exact .nil
    | cons hp _ ih =>
      have hsame := fun hcompare => (hotel hcompare).resolve_left (cons_ne_nil _ _)
      exact .cons ⟨hp, hsame⟩ (ih fun hcompare => .inr (hsame hcompare))

/-! ## Manifests -/

variable {decision : Bool}

theorem manifestId_evaluate {ev : Evaluator} {call : Call} {data : Value}
    {m : EvidenceManifest} (h : (ev.evaluate call data).1 = (decision, .ok m)) :
    m.header.map Header.manifestId = some call.manifestId
      ∧ m.inputMap = some (inputMapFromJson ev.runtime data) := by
  unfold evaluate at h
  simp only at h
  split at h
  · cases h
    exact ⟨rfl, rfl⟩
  all_goals cases h

def replayOtel (otel : Option String) : Option String :=
  if (trim (otel.getD "")).isEmpty then none else normalizeOtelTraceId (trim (otel.getD ""))

theorem resolveNormalizedOtel_stepsOf (hlog : log ≠ [])
    (otel : Option String) : resolveNormalizedOtel (stepsOf log otel) = replayOtel otel := by
  have hfind : ∀ log : List (Leaf × LeafRow), (stepsOf log otel).findSome? (fun s =>
      if (trim s.otelTraceId).isEmpty then none else some (trim s.otelTraceId))
        = if log = [] ∨ (trim (otel.getD "")).isEmpty then none
          else some (trim (otel.getD "")) := by
    intro log
    induction log with
    | nil => rfl
    | cons p log ih =>
      rw [stepsOf, map_cons, findSome?_cons, ← stepsOf, ih]
      by_cases hempty : (trim (otel.getD "")).isEmpty = true <;>
        simp [traceStepToProto, hempty]
  rw [resolveNormalizedOtel, hfind, replayOtel]
  by_cases hempty : (trim (otel.getD "")).isEmpty = true <;> simp [hempty, hlog]

/-! ## Replays -/

/-- Every leaf that is evaluated reads of the rebuilt payload what it has read of the payload, and
so does, if trace ids are compared, a step of its trace id. -/
structure Survives (rt : Runtime) (compareOtel : Bool) (external : ExternalDataSource)
    (root : RuleExpr) (otel : Option String) (data : Value) : Prop where
  reads : ∀ log b, Evaluates (fun _ => leafRow rt external data) LeafRow.result 1 root log b →
    ∀ p ∈ log, Kept rt external data (replayPayload rt data) p.1
  traceId : compareOtel = true → ∀ log b,
    Evaluates (fun _ => leafRow rt external data) LeafRow.result 1 root log b →
      log = [] ∨ (replayOtel otel).getD "" = otel.getD ""

section

variable {rt : Runtime} {root : RuleExpr} {otel : Option String} {engineVersion : String}
  {clock : Nat → Int} {external : ExternalDataSource} {manifestId : Bytes} {data : Value}
  {decision : Bool} {m : EvidenceManifest} {log : List (Leaf × LeafRow)} {b : Bool}

theorem rows_of_log (h : Evaluates (fun _ => leafRow rt external data) result 1 root log b) :
    ∀ p ∈ log, leafRow rt external data p.1 = .ok p.2 := by
  intro p hp
  obtain ⟨-, hrow⟩ := h.log_ok p hp
  exact hrow

section

variable (h : ((fresh root otel engineVersion rt).evaluate
    ⟨clock, fun _ => external, manifestId⟩ data).1 = (decision, .ok m))

include h

theorem manifest_of_evaluates
    (hlog : Evaluates (fun _ => leafRow rt external data) result 1 root log b) :
    decision = b ∧ m.finalDecision = some b ∧ m.steps = stepsOf log otel := by
  have hlog' : Evaluates (leafAt rt ⟨clock, fun _ => external, manifestId⟩ data) result 1
      root log b := hlog
  obtain ⟨m', hout, hdecision, hsteps⟩ :=
    evaluate_of_evaluates (fresh root otel engineVersion rt) rfl hlog'
  rw [h] at hout
  cases hout
  exact ⟨rfl, hdecision, hsteps⟩

theorem exists_log :
    ∃ log b, Evaluates (fun _ => leafRow rt external data) result 1 root log b := by
  rcases evaluates_or_failsAt (leafAt rt ⟨clock, fun _ => external, manifestId⟩ data)
    result root 1 with hlog | ⟨log, l, e, hfails⟩
  · exact hlog
  · obtain ⟨p, hout, -⟩ :=
      evaluate_of_failsAt (fresh root otel engineVersion rt) rfl hfails
    rw [h] at hout
    cases hout

end

theorem survives_of_flat {entries : List (String × Value)} (h : Flat rt entries)
    (hlists : ∀ name item b, external.listContains name item = .ok b →
      name.isEmpty = false ∧ (b → item.isEmpty = false))
    (hotel : compareOtel → (replayOtel otel).getD "" = otel.getD "") :
    Survives rt compareOtel external root otel (.object entries) := by
  refine ⟨fun log b hlog p hp => ?_, fun hcompare _ _ _ => .inr (hotel hcompare)⟩
  have hrow := rows_of_log hlog p hp
  rw [replayPayload_flat h]
  cases hl : p.1 with
  | listContainsLeaf id name path =>
    rw [hl] at hrow
    obtain ⟨item, contains, hscalar, hcontains, -⟩ := evalListContainsLeaf_eq_ok.mp hrow
    refine ⟨rfl, (hlists name item contains hcontains).1, fun item' _ hfound => ?_⟩
    exact (hlists name item' true hfound).2 rfl
  | redisCompareLeaf => trivial
  | customLeaf => trivial
  | _ => exact rfl

theorem replayEvaluation_eq {root : RuleExpr} {drawnId : Bytes}
    (hsteps : m.steps = stepsOf log otel) (hinput : m.inputMap = some (inputMapFromJson rt data)) :
    ∃ version now, replayEvaluation rt drawnId root m
      = ((fresh root (resolveNormalizedOtel (stepsOf log otel)) version rt).evaluate
          ⟨now, fun _ => (mockExternalFromSteps (stepsOf log otel)).source, drawnId⟩
          (replayPayload rt data)).1 := by
  refine ⟨m.header.elim "" Header.engineVersion,
    fun _ => ((m.header.elim 0 Header.timestampNs : Nat) : Int), ?_⟩
  rw [replayEvaluation, signalsMapFromManifest, hsteps, hinput]
  rfl

/-- A manifest with an id and a rule is replayed; its steps agree only if the replay gives a
manifest. -/
theorem replayLoadedManifest_iff {ctx : BatchReplayExecutionContext} {header : Header}
    (hheader : m.header = some header) (hid : header.manifestId.length = 16)
    (hrule : ctx.rule m = .ok root) (hdecision : m.finalDecision = some decision) :
    ((replayLoadedManifest rt ctx m).replayDecision = some decision
        ∧ (replayLoadedManifest rt ctx m).decisionMatch
        ∧ (replayLoadedManifest rt ctx m).stepParity)
      ↔ ctx.wasmError = none ∧ ∃ m', replayEvaluation rt ctx.drawnId root m = (decision, .ok m')
        ∧ traceStepsEquivalent m.steps m'.steps ctx.compareOtel = true := by
  have huuid : manifestUuidFromHeader m = .ok (hyphenated header.manifestId) := by
    rw [manifestUuidFromHeader, hheader]
    exact if_neg (not_not.mpr hid)
  rw [replayLoadedManifest, huuid, hrule, hdecision]
  cases ctx.wasmError with
  | some e => simp
  | none =>
    simp only [true_and]
    obtain ⟨b, hb⟩ : ∃ b, (replayEvaluation rt ctx.drawnId root m).1 = b := ⟨_, rfl⟩
    cases hout : (replayEvaluation rt ctx.drawnId root m).2 with
    | error p =>
      simp only [Bool.false_eq_true, and_false, false_iff, not_exists]
      rintro m' ⟨heq, -⟩
      rw [heq] at hout
      cases hout
    | ok m' =>
      have hpair : replayEvaluation rt ctx.drawnId root m = (b, .ok m') := Prod.ext hb hout
      simp only [hpair, Option.some.injEq, Prod.mk.injEq, Except.ok.injEq, beq_iff_eq]
      constructor
      · rintro ⟨hsame, -, htrace⟩
        exact ⟨m', ⟨hsame, rfl⟩, htrace⟩
      · rintro ⟨m'', ⟨hsame, rfl⟩, htrace⟩
        exact ⟨hsame, hsame.symm, htrace⟩

theorem replay_of_kept (hrt : Faithful rt)
    (hlog : Evaluates (fun _ => leafRow rt external data) result 1 root log b)
    (hkept : ∀ p ∈ log, Kept rt external data (replayPayload rt data) p.1) :
    Evaluates (fun _ => leafRow rt (mockExternalFromSteps (stepsOf log otel)).source
      (replayPayload rt data)) result 1 root log b := by
  refine hlog.congr fun p hp _ => ?_
  exact leafRow_of_kept hrt (rows_of_log hlog) otel hp (hkept p hp)

theorem kept_of_replay (hrt : Faithful rt) {b' : Bool}
    (hlog : Evaluates (fun _ => leafRow rt external data) result 1 root log b)
    (hlog' : Evaluates
      (fun _ => leafRow rt (mockExternalFromSteps (stepsOf log otel)).source
        (replayPayload rt data)) result 1 root log' b')
    (halike : Forall₂ (fun p p' => Alike p.2 p'.2) log log') :
    ∀ p ∈ log, Kept rt external data (replayPayload rt data) p.1 := by
  have hrows : Forall₂ Alike (log.map Prod.snd ++ []) (log'.map Prod.snd ++ []) := by
    rw [append_nil, append_nil, forall₂_map_left_iff, forall₂_map_right_iff]
    exact halike
  obtain ⟨hpairs, -, -⟩ := hlog.match_leaves (fun _ _ h => h.result) hlog' hrows
  intro p hp
  have hback : Forall₂ (fun p' p => p.1 = p'.1 ∧ Alike p.2 p'.2) log' log := hpairs.flip
  obtain ⟨p', hp', hleaf, hrow⟩ := exists_of_mem_forall₂ hback hp
  have hrow' := rows_of_log hlog' p' hp'
  rw [← hleaf] at hrow'
  exact kept_of_alike hrt (rows_of_log hlog) otel hp hrow' hrow

theorem otel_resolved_iff : (compareOtel → log = []
        ∨ (resolveNormalizedOtel (stepsOf log otel)).getD "" = otel.getD "")
      ↔ (compareOtel → log = [] ∨ (replayOtel otel).getD "" = otel.getD "") := by
  by_cases hlog : log = []
  · simp [hlog]
  · rw [resolveNormalizedOtel_stepsOf hlog]

/-- **When a replay agrees**: it gives the decision and the steps of the manifest exactly if the
modules of the sandbox are registered, every leaf that was evaluated reads the same of the rebuilt
payload, lists have names and the items found in them texts, and a trace id that is compared is a
normal one. -/
theorem replay_matches_iff (rt : Runtime) (hrt : Faithful rt) (ctx : BatchReplayExecutionContext)
    (root : RuleExpr) (otel : Option String) (engineVersion : String) (clock : Nat → Int)
    (external : ExternalDataSource) (manifestId : Bytes) (data : Value) (decision : Bool)
    (m : EvidenceManifest) (hid : manifestId.length = 16)
    (h : ((Evaluator.fresh root otel engineVersion rt).evaluate
      ⟨clock, fun _ => external, manifestId⟩ data).1 = (decision, .ok m))
    (hrule : ctx.rule m = .ok root) :
    ((replayLoadedManifest rt ctx m).replayDecision = some decision
        ∧ (replayLoadedManifest rt ctx m).decisionMatch = true
        ∧ (replayLoadedManifest rt ctx m).stepParity = true)
      ↔ ctx.wasmError = none ∧ Survives rt ctx.compareOtel external root otel data := by
  obtain ⟨header, hheader, hheaderId⟩ := Option.map_eq_some_iff.mp (manifestId_evaluate h).1
  have hinput : m.inputMap = some (inputMapFromJson rt data) := (manifestId_evaluate h).2
  obtain ⟨log₀, b₀, hlog₀⟩ := exists_log h
  obtain ⟨rfl, hfinal, -⟩ := manifest_of_evaluates h hlog₀
  rw [replayLoadedManifest_iff hheader (by rw [hheaderId]; exact hid) hrule hfinal]
  refine and_congr Iff.rfl ?_
  constructor
  · rintro ⟨m', hreplay, htrace⟩
    have hlogs :
        ∀ log b, Evaluates (fun _ => leafRow rt external data) LeafRow.result 1 root log b →
        (∀ p ∈ log, Kept rt external data (replayPayload rt data) p.1)
          ∧ (ctx.compareOtel = true → log = [] ∨ (replayOtel otel).getD "" = otel.getD "") := by
      intro log b hlog
      obtain ⟨-, -, hsteps⟩ := manifest_of_evaluates h hlog
      obtain ⟨version, now, heq⟩ := replayEvaluation_eq hsteps hinput
      rw [heq] at hreplay
      obtain ⟨log', b', hlog'⟩ := exists_log hreplay
      obtain ⟨-, -, hsteps'⟩ := manifest_of_evaluates hreplay hlog'
      rw [hsteps, hsteps', stepsOf_equivalent_iff] at htrace
      obtain ⟨halike, hotel⟩ := htrace
      exact ⟨kept_of_replay hrt hlog hlog' halike, otel_resolved_iff.mp hotel⟩
    exact ⟨fun log b hlog => (hlogs log b hlog).1, fun hc log b hlog => (hlogs log b hlog).2 hc⟩
  · intro hs
    obtain ⟨-, -, hsteps⟩ := manifest_of_evaluates h hlog₀
    obtain ⟨version, now, heq⟩ := replayEvaluation_eq hsteps hinput
    have hagain : Evaluates (leafAt rt ⟨now, fun _ =>
        (mockExternalFromSteps (stepsOf log₀ otel)).source, ctx.drawnId⟩ (replayPayload rt data))
        LeafRow.result 1 root log₀ decision :=
      replay_of_kept hrt hlog₀ (hs.reads log₀ decision hlog₀)
    obtain ⟨m', hout, -, hsteps'⟩ := evaluate_of_evaluates
      (fresh root (resolveNormalizedOtel (stepsOf log₀ otel)) version rt) rfl hagain
    refine ⟨m', heq.trans hout, ?_⟩
    rw [hsteps, hsteps']
    refine stepsOf_equivalent_iff.mpr ⟨forall₂_same.mpr fun p _ => Alike.refl p.2, ?_⟩
    exact otel_resolved_iff.mpr fun hcompare => hs.traceId hcompare log₀ decision hlog₀

end

/-! ## A flat payload and a nested one -/

namespace Demo

open Tarka.Rules

/-- Texts as `serde_json` has them, but for characters outside of ASCII and doubles, which are
written by their bits. -/
def runtime : Runtime where
  sha256 := Engine.Demo.sha256
  engineFingerprint := "demo"
  toJson v := .ok (String.ofList (jsonChars escapeAscii Reference.engines.py.reprFloat v))
  fromStr s := (Serde.fromStr ⟨Reference.floatText, fun _ => none, fun _ => "not JSON"⟩ s).toOption
  display v := String.ofList (jsonChars escapeAscii Reference.engines.py.reprFloat v)
  displayNumber n := String.ofList (numberChars Reference.engines.py.reprFloat n)
  displayF64 x := Nat.repr x.bits.toNat
  parseF64 _ := none
  contentIdHex _ := .error "invalid hex"
  wasm := none

theorem runtime_faithful : Faithful runtime where
  toJson_inj := by
    intro v w text hv hw
    have htext := String.ofList_injective (Except.ok.inj (hv.trans hw.symm))
    refine (jsonChars_cancel Reference.py_lawful v w [] [] rfl rfl ?_).1
    rw [append_nil, append_nil]
    exact htext
  displayF64_inj := by
    intro x y h
    have hbits := UInt64.toNat_inj.mp (repr_injective h)
    exact .inl ((F64.mk.injEq ..).mpr hbits)
  displayF64_ne_null := by
    intro x h
    have hmem : 'n' ∈ (Nat.repr x.bits.toNat).toList := by
      rw [show Nat.repr x.bits.toNat = "null" from h]
      decide
    exact absurd (isDigit_of_mem_repr hmem) (by decide)

def external : ExternalDataSource := MockExternal.source ⟨[], [("blocked", ["bob"])], []⟩

def manifestId : Bytes := List.replicate 16 1

def rule : RuleExpr :=
  .and "all" [.leaf (.compareLeaf "amount" "/amount" .gt (.number (.posInt 10))),
    .leaf (.listContainsLeaf "user" "blocked" "/user")]

def nestedRule : RuleExpr := .leaf (.compareLeaf "age" "/user/age" .eq (.number (.posInt 5)))

def entries : List (String × Value) :=
  [("amount", .number (.posInt 25)), ("user", .string "bob")]

def nested : Value := .object [("user", .object [("age", .number (.posInt 5))])]

def traceId : Option String := some "0af7651916cd43dd8448eb211c80319c"

def outcome (rule : RuleExpr) (data : Value) : EvaluateOutcome :=
  ((Evaluator.fresh rule traceId "1.0" runtime).evaluate ⟨fun _ => 0, fun _ => external, manifestId⟩
    data).1

def ctx (rule : RuleExpr) : BatchReplayExecutionContext :=
  ⟨fun _ => .ok rule, none, false, true, manifestId⟩

end Demo

def manifestOf (outcome : EvaluateOutcome) : EvidenceManifest :=
  outcome.2.toOption.getD emptyManifest

theorem outcome_eq {outcome : EvaluateOutcome} (h : outcome.1 = decision)
    (hok : outcome.2.toOption.isSome) : outcome = (decision, .ok (manifestOf outcome)) := by
  obtain ⟨b, out⟩ := outcome
  cases out with
  | error p => cases hok
  | ok m => exact congrArg (fun b => (b, Except.ok m)) h

theorem Demo.flat : Flat Demo.runtime Demo.entries where
  nonempty := by decide
  sorted := by decide +kernel
  nodup := by decide +kernel
  keys := by decide +kernel
  lasting := by
    intro e he
    simp only [Demo.entries, mem_cons, not_mem_nil, or_false] at he
    rcases he with rfl | rfl
    · exact .inr rfl
    · show decodeSignalString Demo.runtime "bob" = _
      rfl

theorem Demo.lists (name item : String) (b : Bool)
    (h : Demo.external.listContains name item = .ok b) :
    name.isEmpty = false ∧ (b → item.isEmpty = false) := by
  by_cases hname : name = "blocked"
  · subst hname
    have hb : ("bob" == item) = b := by
      simpa [Demo.external, MockExternal.source] using h
    refine ⟨by decide, fun htrue => ?_⟩
    rw [htrue, beq_iff_eq] at hb
    rw [← hb]
    decide
  · have hnone : [("blocked", ["bob"])].lookup name = none := by
      simp [hname]
    simp [Demo.external, MockExternal.source, hnone] at h

/-- A rule over a flat payload is replayed. -/
theorem flat_replay_matches :
    (replayLoadedManifest Demo.runtime (Demo.ctx Demo.rule)
        (manifestOf (Demo.outcome Demo.rule (.object Demo.entries)))).replayDecision = some true
      ∧ (replayLoadedManifest Demo.runtime (Demo.ctx Demo.rule)
        (manifestOf (Demo.outcome Demo.rule (.object Demo.entries)))).decisionMatch = true
      ∧ (replayLoadedManifest Demo.runtime (Demo.ctx Demo.rule)
        (manifestOf (Demo.outcome Demo.rule (.object Demo.entries)))).stepParity = true :=
  (replay_matches_iff Demo.runtime Demo.runtime_faithful (Demo.ctx Demo.rule) Demo.rule Demo.traceId
    "1.0" (fun _ => 0) Demo.external Demo.manifestId (.object Demo.entries) true _ rfl
    (outcome_eq (by decide +kernel) (by decide +kernel)) rfl).mpr
    ⟨rfl, survives_of_flat Demo.flat Demo.lists (fun _ => by decide +kernel)⟩

/-- **A nested value is lost**: the age of the user is five, and is read as `null` by the replay,
which comes to the other decision. -/
theorem nested_replay_differs :
    (Demo.outcome Demo.nestedRule Demo.nested).1 = true
      ∧ (Demo.outcome Demo.nestedRule Demo.nested).2.toOption.isSome = true
      ∧ (replayLoadedManifest Demo.runtime (Demo.ctx Demo.nestedRule)
          (manifestOf (Demo.outcome Demo.nestedRule Demo.nested))).replayDecision = some false
      ∧ (replayLoadedManifest Demo.runtime (Demo.ctx Demo.nestedRule)
          (manifestOf (Demo.outcome Demo.nestedRule Demo.nested))).stepParity = false := by
  decide +kernel

end Tarka.Replay
