import Tarka.Lib.Loop
import Tarka.Replay.Batch

/-! # What a step tells of its leaf

For each kind of leaf: what its row depends on, of the payload and of the external source, and what
a step with that row tells to the replay. From that, the source that is rebuilt from the steps of a
log answers every question of the log as the first source did (`redis_rebuilt`, `list_rebuilt`,
`custom_rebuilt`), but for an item without text. -/

namespace Tarka.Replay

open Tarka.Lib Tarka.Json Tarka.Engine List Option Dict KeyMap MockExternal

variable {op : CompareOp}

section

variable {rt : Runtime} {external external' : ExternalDataSource} {data data' : Value}

/-! ## Rows -/

variable {id : String}

theorem failAt_eq_ok {ε α : Type} {f : ε → RuleFail} {x : Except ε α} {a : α} :
    failAt id f x = .ok a ↔ x = .ok a := mapError_eq_ok

def readAt (data : Value) (path : String) : Value :=
  (data.pointer (normalizeJsonPointer path)).getD .null

variable {expected : Value} {path : String}

theorem evalCompareLeaf_congr (h : readAt data' path = readAt data path) :
    evalCompareLeaf rt id path op expected data' = evalCompareLeaf rt id path op expected data := by
  unfold readAt at h
  simp [evalCompareLeaf, h]

variable {row : LeafRow}

theorem evalCompareLeaf_shows
    (h : evalCompareLeaf rt id path op expected data = .ok row) :
    ∃ text, rt.toJson (readAt data path) = .ok text ∧ row.operator = "COMPARE"
      ∧ row.scope.get? "input.before" = some text := by
  obtain ⟨before, hbefore, h⟩ := except_bind_eq_ok.mp h
  obtain ⟨_, _, h⟩ := except_bind_eq_ok.mp h
  obtain ⟨_, _, h⟩ := except_bind_eq_ok.mp h
  obtain ⟨_, _, h⟩ := except_bind_eq_ok.mp h
  refine ⟨before, failAt_eq_ok.mp hbefore, ?_⟩
  cases h
  exact ⟨rfl, by simp [get?_insert]⟩

variable {key : String}

theorem evalRedisCompareLeaf_congr
    (h : external'.redisGet key = external.redisGet key) :
    evalRedisCompareLeaf rt external' id key op expected
      = evalRedisCompareLeaf rt external id key op expected := by
  unfold evalRedisCompareLeaf
  rw [h]

theorem evalRedisCompareLeaf_tells
    (h : evalRedisCompareLeaf rt external id key op expected = .ok row) (otel : Option String) :
    ∃ raw, external.redisGet key = .ok raw ∧ row.operator = "REDIS"
      ∧ redisOf (traceStepToProto row otel) = some (key, raw) := by
  obtain ⟨raw, hraw, h⟩ := except_bind_eq_ok.mp h
  obtain ⟨_, _, h⟩ := except_bind_eq_ok.mp h
  obtain ⟨_, _, h⟩ := except_bind_eq_ok.mp h
  obtain ⟨_, _, h⟩ := except_bind_eq_ok.mp h
  refine ⟨raw, failAt_eq_ok.mp hraw, ?_⟩
  cases h
  exact ⟨rfl, by simp [redisOf, traceStepToProto, get?_insert]⟩

def listRow (id name path item : String) (contains : Bool) : LeafRow where
  ruleId := id
  operator := "LIST"
  operands := [name, normalizeJsonPointer path]
  result := contains
  scope := (((KeyMap.empty.insert "list.name" name).insert "list.item.path"
    (normalizeJsonPointer path)).insert "list.item.resolved" item).insert "list.lookup.contains"
    (boolText contains)

variable {name : String}

theorem evalListContainsLeaf_eq_ok :
    evalListContainsLeaf rt external id name path data = .ok row
      ↔ ∃ item contains, jsonScalarToString rt (readAt data path) = .ok item
        ∧ external.listContains name item = .ok contains
        ∧ listRow id name path item contains = row := by
  constructor
  · intro h
    obtain ⟨item, hitem, h⟩ := except_bind_eq_ok.mp h
    obtain ⟨contains, hcontains, h⟩ := except_bind_eq_ok.mp h
    exact ⟨item, contains, failAt_eq_ok.mp hitem, failAt_eq_ok.mp hcontains, Except.ok.inj h⟩
  · rintro ⟨item, contains, hitem, hcontains, rfl⟩
    apply except_bind_eq_ok.mpr
    exact ⟨item, failAt_eq_ok.mpr hitem,
      except_bind_eq_ok.mpr ⟨contains, failAt_eq_ok.mpr hcontains, rfl⟩⟩

theorem boolText_beq_true (b : Bool) : (boolText b == "true") = b := by
  cases b <;> rfl

theorem listOf_listRow (id name path item : String) (contains : Bool) (otel : Option String) :
    listOf (traceStepToProto (listRow id name path item contains) otel)
      = if name.isEmpty then none
        else some (name, if contains && !item.isEmpty then some item else none) := by
  simp [listOf, traceStepToProto, listRow, get?_insert, boolText_beq_true]

theorem evalCustomLeaf_congr
    (h : external'.customEval name data' = external.customEval name data) :
    evalCustomLeaf external' id name data' = evalCustomLeaf external id name data := by
  unfold evalCustomLeaf
  rw [h]

theorem evalCustomLeaf_tells
    (h : evalCustomLeaf external id name data = .ok row) (otel : Option String) :
    ∃ outcome, external.customEval name data = .ok outcome ∧ row.operator = "CUSTOM"
      ∧ customOf (traceStepToProto row otel) = some (name, outcome) := by
  obtain ⟨outcome, houtcome, h⟩ := except_bind_eq_ok.mp h
  refine ⟨outcome, failAt_eq_ok.mp houtcome, ?_⟩
  cases h
  exact ⟨rfl, by simp [customOf, traceStepToProto, get?_insert, boolText_beq_true]⟩

def wasmAnswer (rt : Runtime) (wasmContentIdHex exportName : String) (data : Value) :
    Option (Except String Bool) :=
  ((rt.contentIdHex wasmContentIdHex).toOption.bind (fun key => rt.wasm.bind (fun modules =>
    modules key))).map (fun run => run exportName data)

def wasmRow (id key exportName : String) (label : Option String) (pass : Bool) : LeafRow where
  ruleId := id
  operator := "WASM"
  operands := [key, exportName]
  result := pass
  scope :=
    let scope := (KeyMap.empty.insert "wasm.content_id_hex" key).insert "wasm.export" exportName
    (label.elim scope (scope.insert "wasm.label")).insert "wasm.result" (boolText pass)

theorem evalWasmCustomLeaf_eq_ok {hex exportName : String} {label : Option String} :
    evalWasmCustomLeaf rt id hex exportName label data = .ok row
      ↔ ∃ key pass, rt.contentIdHex hex = .ok key
        ∧ wasmAnswer rt hex exportName data = some (.ok pass)
        ∧ wasmRow id key exportName label pass = row := by
  unfold evalWasmCustomLeaf wasmAnswer
  simp only [except_bind_eq_ok, failAt_eq_ok, elim_eq_ok, Except.ok.injEq, exists_eq_right]
  constructor
  · rintro ⟨key, hkey, modules, hmodules, run, hrun, pass, hpass, h⟩
    refine ⟨key, pass, hkey, ?_, Except.ok.inj h⟩
    simp [hkey, hmodules, hrun, hpass, Except.toOption]
  · rintro ⟨key, pass, hkey, hanswer, rfl⟩
    obtain ⟨run, hfound, hpass⟩ := map_eq_some_iff.mp hanswer
    obtain ⟨key', hkey', hfound⟩ := bind_eq_some_iff.mp hfound
    obtain ⟨modules, hmodules, hrun⟩ := bind_eq_some_iff.mp hfound
    rw [hkey] at hkey'
    rw [← some.inj hkey'] at hrun
    exact ⟨key, hkey, modules, hmodules, run, hrun, pass, hpass, rfl⟩

end

/-! ## The rebuilt source -/

variable (steps : List Step)

theorem mock_redis :
    (mockExternalFromSteps steps).redis = collect redisOf steps :=
  (foldl_hom redis (fun _ _ => rfl)).symm

theorem mock_customs :
    (mockExternalFromSteps steps).customs = collect customOf steps :=
  (foldl_hom customs (fun _ _ => rfl)).symm

theorem mock_lists_append (step : Step) :
    (mockExternalFromSteps (steps ++ [step])).lists
      = (listOf step).elim (mockExternalFromSteps steps).lists (fun e =>
        addItem (mockExternalFromSteps steps).lists e.1 e.2) := by
  rw [mockExternalFromSteps, foldl_append]
  rfl

theorem mem_bucket (bucket : List String) (added : Option String) (item : String) :
    item ∈ added.elim bucket (fun i => if i ∈ bucket then bucket else bucket ++ [i])
      ↔ item ∈ bucket ∨ added = some item := by
  cases added with
  | none => simp
  | some i =>
    rw [elim_some, some.injEq]
    split_ifs with hi
    · exact (or_iff_left_of_imp (fun h => h ▸ hi)).symm
    · rw [mem_append, mem_singleton, eq_comm]

theorem lookup_lists (steps : List Step) (name : String) :
    (((mockExternalFromSteps steps).lists.lookup name).isSome
        ↔ ∃ step ∈ steps, ∃ item, listOf step = some (name, item))
      ∧ ∀ item, item ∈ ((mockExternalFromSteps steps).lists.lookup name).getD []
        ↔ ∃ step ∈ steps, listOf step = some (name, some item) := by
  induction steps using List.reverseRecOn with
  | nil => simp [mockExternalFromSteps]
  | append_singleton steps step ih =>
    rw [mock_lists_append]
    simp only [mem_append, mem_singleton, or_and_right, exists_or, exists_eq_left]
    cases htold : listOf step with
    | none => simp [ih]
    | some e =>
      rw [elim_some, addItem, lookup_set]
      split_ifs with hname
      · refine ⟨iff_of_true rfl (.inr ⟨e.2, by rw [hname]⟩), fun item => ?_⟩
        rw [getD_some, ← hname, mem_bucket, ih.2, some.injEq, Prod.ext_iff]
        exact or_congr_right (and_iff_right hname.symm).symm
      · have hother : ∀ {item}, some e ≠ some (name, item) :=
          fun h => hname (congrArg Prod.fst (some.inj h)).symm
        simp only [ih.1, ih.2, hother, exists_false, or_false, implies_true, and_self]

/-! ## What a step tells -/

section

variable {rt : Runtime} {external : ExternalDataSource} {data : Value} {step : Step}

theorem operator_of_redisOf {e : String × String} (h : redisOf step = some e) :
    step.logicOperator = "REDIS" := by
  by_contra hne
  rw [redisOf, if_neg hne] at h
  cases h

theorem operator_of_listOf {e : String × Option String} (h : listOf step = some e) :
    step.logicOperator = "LIST" := by
  by_contra hne
  rw [listOf, if_neg hne] at h
  cases h

theorem operator_of_customOf {e : String × Bool} (h : customOf step = some e) :
    step.logicOperator = "CUSTOM" := by
  by_contra hne
  rw [customOf, if_neg hne] at h
  cases h

def operatorOf : Leaf → String
  | .compareLeaf .. => "COMPARE"
  | .redisCompareLeaf .. => "REDIS"
  | .listContainsLeaf .. => "LIST"
  | .customLeaf .. => "CUSTOM"
  | .wasmCustomLeaf .. => "WASM"
  | .graphMatch .. => "GRAPH_MATCH"

theorem operator_leafRow {l : Leaf} (h : leafRow rt external data l = .ok row) :
    row.operator = operatorOf l := by
  cases l with
  | compareLeaf id path op expected =>
    obtain ⟨_, _, hop, _⟩ := evalCompareLeaf_shows h
    exact hop
  | redisCompareLeaf id key op expected =>
    obtain ⟨_, _, hop, _⟩ := evalRedisCompareLeaf_tells h none
    exact hop
  | listContainsLeaf id name path =>
    obtain ⟨_, _, _, _, rfl⟩ := evalListContainsLeaf_eq_ok.mp h
    rfl
  | customLeaf id name =>
    obtain ⟨_, _, hop, _⟩ := evalCustomLeaf_tells h none
    exact hop
  | wasmCustomLeaf id hex name exportName =>
    obtain ⟨_, _, _, _, rfl⟩ := evalWasmCustomLeaf_eq_ok.mp h
    rfl
  | graphMatch id threshold =>
    cases h
    rfl

section

variable {l : Leaf} {row : LeafRow} (h : leafRow rt external data l = .ok row)
    {otel : Option String}

include h

theorem redisOf_leafRow {raw : String}
    (htold : redisOf (traceStepToProto row otel) = some (key, raw)) :
    external.redisGet key = .ok raw := by
  have hop : operatorOf l = "REDIS" := (operator_leafRow h).symm.trans (operator_of_redisOf htold)
  cases l with
  | redisCompareLeaf id key' op expected =>
    obtain ⟨raw', hraw, -, htold'⟩ := evalRedisCompareLeaf_tells h otel
    rw [htold] at htold'
    cases htold'
    exact hraw
  | _ => simp [operatorOf] at hop

theorem customOf_leafRow {outcome : Bool}
    (htold : customOf (traceStepToProto row otel) = some (name, outcome)) :
    external.customEval name data = .ok outcome := by
  have hop : operatorOf l = "CUSTOM" := (operator_leafRow h).symm.trans (operator_of_customOf htold)
  cases l with
  | customLeaf id name' =>
    obtain ⟨outcome', houtcome, -, htold'⟩ := evalCustomLeaf_tells h otel
    rw [htold] at htold'
    cases htold'
    exact houtcome
  | _ => simp [operatorOf] at hop

theorem listOf_leafRow {found : Option String}
    (htold : listOf (traceStepToProto row otel) = some (name, found)) :
    name.isEmpty = false
      ∧ ∀ item ∈ found, item.isEmpty = false ∧ external.listContains name item = .ok true := by
  have hop : operatorOf l = "LIST" := (operator_leafRow h).symm.trans (operator_of_listOf htold)
  cases l with
  | listContainsLeaf id name' path =>
    obtain ⟨item, contains, -, hcontains, rfl⟩ := evalListContainsLeaf_eq_ok.mp h
    rw [listOf_listRow] at htold
    split_ifs at htold with hname hfound
    · cases htold
      refine ⟨Bool.eq_false_iff.mpr hname, ?_⟩
      intro item' hitem'
      cases hitem'
      rw [Bool.and_eq_true, Bool.not_eq_true'] at hfound
      exact ⟨hfound.2, hfound.1 ▸ hcontains⟩
    · cases htold
      exact ⟨Bool.eq_false_iff.mpr hname, by simp⟩
  | _ => simp [operatorOf] at hop

end

/-! ## Logs -/

variable {log : List (Leaf × LeafRow)} (hlog : ∀ p ∈ log, leafRow rt external data p.1 = .ok p.2)
  (otel : Option String)

def stepsOf (log : List (Leaf × LeafRow)) (otel : Option String) : List Step :=
  log.map (fun p => traceStepToProto p.2 otel)

theorem mem_stepsOf {p : Leaf × LeafRow} (h : p ∈ log) :
    traceStepToProto p.2 otel ∈ stepsOf log otel := mem_map_of_mem h

include hlog

variable {id : String}

/-- **The rebuilt Redis** answers as the source did. -/
theorem redis_rebuilt (hmem : (.redisCompareLeaf id key op expected, row) ∈ log) :
    (mockExternalFromSteps (stepsOf log otel)).source.redisGet key = external.redisGet key := by
  obtain ⟨raw, hraw, -, htold⟩ := evalRedisCompareLeaf_tells (hlog _ hmem) otel
  obtain ⟨step, hstep, raw', htold', hlookup⟩ :=
    exists_lookup_collect (mem_stepsOf otel hmem) htold
  obtain ⟨p, hp, rfl⟩ := mem_map.mp hstep
  rw [redisOf_leafRow (hlog p hp) htold']
  simp [source, mock_redis, hlookup]

/-- **The rebuilt custom rules** answer as the source did. -/
theorem custom_rebuilt (hmem : (.customLeaf id name, row) ∈ log) (data' : Value) :
    (mockExternalFromSteps (stepsOf log otel)).source.customEval name data'
      = external.customEval name data := by
  obtain ⟨outcome, houtcome, -, htold⟩ := evalCustomLeaf_tells (hlog _ hmem) otel
  obtain ⟨step, hstep, outcome', htold', hlookup⟩ :=
    exists_lookup_collect (mem_stepsOf otel hmem) htold
  obtain ⟨p, hp, rfl⟩ := mem_map.mp hstep
  rw [customOf_leafRow (hlog p hp) htold']
  simp [source, mock_customs, hlookup]

variable {item : String}

theorem mem_rebuilt
    (h : item ∈ ((mockExternalFromSteps (stepsOf log otel)).lists.lookup name).getD []) :
    item.isEmpty = false ∧ external.listContains name item = .ok true := by
  obtain ⟨step, hstep, htold⟩ := ((lookup_lists _ _).2 _).mp h
  obtain ⟨p, hp, rfl⟩ := mem_map.mp hstep
  exact (listOf_leafRow (hlog p hp) htold).2 item rfl

/-- **The rebuilt lists** answer as the source did if the list has a name, and the item a text in
case it is in the list. -/
theorem list_rebuilt {contains : Bool}
    (hmem : (.listContainsLeaf id name path, listRow id name path item contains) ∈ log)
    (hcontains : external.listContains name item = .ok contains) :
    (mockExternalFromSteps (stepsOf log otel)).source.listContains name item = .ok contains
      ↔ name.isEmpty = false ∧ (contains → item.isEmpty = false) := by
  obtain ⟨hlisted, hmembers⟩ := lookup_lists (stepsOf log otel) name
  have hown := listOf_listRow id name path item contains otel
  have hstep := mem_stepsOf otel hmem
  unfold source
  cases hlookup : (mockExternalFromSteps (stepsOf log otel)).lists.lookup name with
  | none =>
    -- without a name the step has told nothing, and nothing else is a list without a name
    have hname : name.isEmpty := by
      by_contra hne
      rw [if_neg hne] at hown
      have := hlisted.mpr ⟨_, hstep, _, hown⟩
      rw [hlookup] at this
      cases this
    simp [hlookup, hname]
  | some items =>
    rw [hlookup] at hmembers
    have hname : name.isEmpty = false := by
      obtain ⟨step, hstep', found, htold⟩ := hlisted.mp (by rw [hlookup]; rfl)
      obtain ⟨p, hp, rfl⟩ := mem_map.mp hstep'
      exact (listOf_leafRow (hlog p hp) htold).1
    rw [hname, if_neg Bool.false_ne_true] at hown
    have hitems : item ∈ items → item.isEmpty = false ∧ contains := by
      intro hitem
      have hrebuilt := mem_rebuilt hlog otel (by rw [hlookup]; exact hitem)
      exact ⟨hrebuilt.1, Except.ok.inj (hcontains.symm.trans hrebuilt.2)⟩
    have hfound : contains → item.isEmpty = false → item ∈ items := by
      intro hcont hitem
      refine (hmembers item).mpr ⟨_, hstep, ?_⟩
      rw [hown, if_pos (by rw [hcont, hitem]; rfl)]
    simp only [hlookup, elim_some, Except.ok.injEq, hname, true_and]
    cases contains with
    | true =>
      rw [any_beq', contains_iff_mem]
      exact ⟨fun h _ => (hitems h).1, fun h => hfound rfl (h rfl)⟩
    | false =>
      rw [any_beq', ← Bool.not_eq_true, contains_iff_mem]
      exact iff_of_true (fun h => Bool.false_ne_true (hitems h).2)
        (fun h => absurd h Bool.false_ne_true)

end

end Tarka.Replay
