import Tarka.Rules.PackPython

/-! # Custom signals from the resolver to the evaluator

The handlers of the custom signals run before an evaluation (`SignalResolver.resolve_all`), what
they return is merged into the features (`engine_adapter.py`), and a `custom_signal` node of the
tree holds if its output key is among them (`ast_evaluator.py`). A task that fails is recorded with
the value `None`, so its key is there as well.

`signals_safe_iff` says for which outcomes of the handlers no unresolved signal holds and no feature
of the client is lost, on both ways into the evaluator: one tree of a request, and the packs. -/

namespace Tarka.Rules.Py

open Tarka.Lib Tarka.Json List Option KeyMap

/-! ## Entry points -/

section

variable (host : Host) (tid eid : String)

/-- `resolve_all` on a list of tasks, and `out.update(resolved_signals)`. -/
def mergeTasks (features : KeyMap Value) (tasks : List Spec) : KeyMap Value :=
  (tasks.foldl (resolveSpec host tid eid) (KeyMap.empty, features)).1.entries.foldl
    (fun m e => m.insert e.1 e.2) features

def astTasks (ast : Value) : List Spec := iterCustomSignalSpecs host.eng.py (nodeView ast)

/-- `merge_features_with_resolved_from_ast`. -/
def mergeFeaturesFromAst (features : KeyMap Value) (ast : Value) : KeyMap Value :=
  mergeTasks host tid eid features (astTasks host ast)

end

/-- `evaluate_ast_payload`: `none` is a request that the models reject. The dump of an accepted tree
has the custom signals of the document. -/
def evaluateAstPayload (host : Host) (tenantId entityId : String) (features : KeyMap Value)
    (ast : Value) : Option Bool :=
  (acceptAst host.eng host.tables ast).map (evaluateJsonAst host.eng host.tables
    (mergeFeaturesFromAst host (orDefault (strip tenantId)) (orDefault (strip entityId)) features
      ast))

/-! ## Outcomes of the handlers -/

section

variable (host : Host) (tid eid : String)

/-- What a task returns; `none`: no handler is registered, or it raised or timed out. -/
def outcome (base : KeyMap Value) (s : Spec) : Option Value :=
  (host.handlers s.pluginId).bind (fun handler => handler s.params base tid eid)

def baseAfter (base : KeyMap Value) (s : Spec) : KeyMap Value :=
  (host.handlers s.pluginId).elim base
    (fun _ => base.insert s.outputKey ((outcome host tid eid base s).getD .null))

def outcomes : KeyMap Value → List Spec → List (Spec × Option Value)
  | _, [] => []
  | base, s :: ss => (s, outcome host tid eid base s) :: outcomes (baseAfter host tid eid base s) ss

end

/-- The outcome of the last task with an output key, or what was there before. -/
def lastOutcome (log : List (Spec × Option Value)) (k : String) (before : Option (Option Value)) :
    Option (Option Value) :=
  log.foldl (fun acc e => if e.1.outputKey = k then some e.2 else acc) before

variable {k : String} {before : Option (Option Value)}

theorem lastOutcome_isSome_iff {log : List (Spec × Option Value)} :
    (lastOutcome log k before).isSome ↔ before.isSome ∨ ∃ e ∈ log, e.1.outputKey = k := by
  induction log generalizing before with
  | nil => simp [lastOutcome]
  | cons e log ih =>
    rw [lastOutcome, foldl_cons, ← lastOutcome, ih]
    by_cases hk : e.1.outputKey = k
    · simp [hk]
    · simp [hk]

section

variable {host : Host} {tid eid : String}

theorem resolveSpec_eq (resolved base : KeyMap Value) (s : Spec) :
    resolveSpec host tid eid (resolved, base) s
      = (resolved.insert s.outputKey ((outcome host tid eid base s).getD .null),
          baseAfter host tid eid base s) := by
  unfold resolveSpec outcome baseAfter
  cases hhandler : host.handlers s.pluginId with
  | none => rfl
  | some handler => simp [outcome, hhandler]

/-- A resolved signal is the outcome of its last task, with `None` for a failure. -/
theorem get?_resolved {resolved base : KeyMap Value}
    (hbefore : resolved.get? k = before.map (fun o => o.getD .null)) (tasks : List Spec) :
    (tasks.foldl (resolveSpec host tid eid) (resolved, base)).1.get? k
      = (lastOutcome (outcomes host tid eid base tasks) k before).map (fun o => o.getD .null) := by
  induction tasks generalizing resolved base before with
  | nil => exact hbefore
  | cons s tasks ih =>
    rw [foldl_cons, resolveSpec_eq, outcomes, lastOutcome, foldl_cons]
    refine ih ?_
    rw [get?_insert]
    by_cases hk : s.outputKey = k
    · rw [if_pos hk.symm, if_pos hk, map_some]
    · rw [if_neg (fun h => hk h.symm), if_neg hk, hbefore]

/-- **A merged feature** is the outcome of the last task with its key, or else that of the
client. -/
theorem get?_mergeTasks (features : KeyMap Value) (tasks : List Spec) (k : String) :
    (mergeTasks host tid eid features tasks).get? k
      = ((lastOutcome (outcomes host tid eid features tasks) k none).map (fun o => o.getD .null)).or
          (features.get? k) := by
  have hnone : (empty : KeyMap Value).get? k
      = (none : Option (Option Value)).map (fun o => o.getD .null) := rfl
  rw [mergeTasks, get?_foldl_insert _ (nodup _)]
  show (get? _ k).or _ = _
  rw [get?_resolved hnone]

end

/-! ## Atoms -/

mutual

/-- The `custom_signal` nodes that an evaluation of the document reaches. -/
def customSignals : NodeView → List (List (String × Value))
  | .notObject => []
  | .node es _ children =>
    if stringEntry es "type" = some "custom_signal" then [es]
    else if stringEntry es "type" = some "and" ∨ stringEntry es "type" = some "or" then
      childSignals children
    else []

def childSignals : List NodeView → List (List (String × Value))
  | [] => []
  | c :: cs => customSignals c ++ childSignals cs

end

section

variable (host : Host)

/-- The atoms of a tree that is evaluated: one that the models accept. -/
def astSignals (ast : Value) : List (List (String × Value)) :=
  if (acceptAst host.eng host.tables ast).isSome then customSignals (nodeView ast) else []

def ruleSignals (rule : Value) : List (List (String × Value)) :=
  if (((rule.get? "when").bind isArray).getD []).isEmpty then
    ((rule.get? "when_ast").map (astSignals host)).getD []
  else []

def packSignals (packs : List Value) : List (List (String × Value)) :=
  packs.flatMap
    (fun pack => (((pack.get? "rules").bind isArray).getD []).flatMap (ruleSignals host))

def atomHolds (features : KeyMap Value) (atom : List (String × Value)) : Bool :=
  (validateCustomSignal host.eng atom).elim false (evaluateJsonAst host.eng host.tables features)

/-- A task with the plugin, the parameters and the output key of the atom has returned a value. -/
def Resolved (log : List (Spec × Option Value)) (atom : List (String × Value)) : Prop :=
  ∃ s ∈ nodeSpec host.eng.py atom, ∃ e ∈ log,
    e.1.dedup host.eng.py = s.dedup host.eng.py ∧ e.2.isSome

/-- No atom holds whose signal was not resolved, and no feature of the client is replaced by
`None`. -/
structure SignalsSafe (features merged : KeyMap Value) (atoms : List (List (String × Value)))
    (log : List (Spec × Option Value)) : Prop where
  unresolved : ∀ atom ∈ atoms, ¬ Resolved host log atom → atomHolds host merged atom = false
  client : ∀ k v, features.get? k = some v → v.isNull = false →
    (merged.get? k).all (fun w => !w.isNull) = true

/-- What the handlers have to return. -/
structure SignalsReturn (features : KeyMap Value) (atoms : List (List (String × Value)))
    (log : List (Spec × Option Value)) : Prop where
  /-- The task of every atom returns a value. -/
  returned : ∀ atom ∈ atoms, ∀ s ∈ nodeSpec host.eng.py atom, ∃ e ∈ log,
    e.1.dedup host.eng.py = s.dedup host.eng.py ∧ e.2.isSome
  /-- An atom with a blank plugin has no task: its output key is blank as well, or it is neither a
  feature of the client nor the output key of a task. -/
  blank : ∀ atom ∈ atoms, nodeSpec host.eng.py atom = [] →
    ∀ k, stringEntry atom "output_key" = some k → (strip k).isEmpty = false →
      features.get? (strip k) = none ∧ ∀ e ∈ log, e.1.outputKey ≠ strip k
  /-- The last task for a feature of the client returns a value other than `None`. -/
  kept : ∀ k v, features.get? k = some v → v.isNull = false →
    (lastOutcome log k none).all (fun o => o.any (fun w => !w.isNull)) = true

end

/-! ## Every atom has its task -/

mutual

theorem nodeSpec_mem_iter (t : PyText) : ∀ (view : NodeView), ∀ atom ∈ customSignals view,
    ∀ s ∈ nodeSpec t atom, s ∈ iterCustomSignalSpecs t view
  | .notObject, _, h, _, _ => absurd h (by simp [customSignals])
  | .node es _ children, atom, h, s, hs => by
    rw [iterCustomSignalSpecs, mem_append]
    rw [customSignals] at h
    split_ifs at h
    · rw [mem_singleton] at h
      exact Or.inl (h ▸ hs)
    · exact Or.inr (nodeSpec_mem_iterChild t children atom h s hs)
    · cases h

theorem nodeSpec_mem_iterChild (t : PyText) :
    ∀ (views : List NodeView), ∀ atom ∈ childSignals views, ∀ s ∈ nodeSpec t atom,
      s ∈ iterChildSpecs t views
  | [], _, h, _, _ => absurd h (by simp [childSignals])
  | c :: cs, atom, h, s, hs => by
    rw [iterChildSpecs, mem_append]
    rw [childSignals, mem_append] at h
    rcases h with h | h
    · exact Or.inl (nodeSpec_mem_iter t c atom h s hs)
    · exact Or.inr (nodeSpec_mem_iterChild t cs atom h s hs)

end

variable {s : Spec}

theorem exists_dedup_collect {t : PyText} {all : List Spec} (kept : List Spec)
    (h : s ∈ all ∨ ∃ s' ∈ kept, s'.dedup t = s.dedup t) :
    ∃ s' ∈ all.foldl (addSpec t) kept, s'.dedup t = s.dedup t := by
  induction all generalizing kept with
  | nil => exact h.resolve_left (by simp)
  | cons a all ih =>
    rw [foldl_cons]
    apply ih
    rw [addSpec]
    rcases h with h | ⟨s', hs', heq⟩
    · rcases mem_cons.mp h with rfl | h
      · right
        split_ifs with hany
        · obtain ⟨s', hs', heq⟩ := any_eq_true.mp hany
          exact ⟨s', hs', beq_iff_eq.mp heq⟩
        · exact ⟨s, by simp, rfl⟩
      · exact .inl h
    · right
      refine ⟨s', ?_, heq⟩
      split_ifs
      · exact hs'
      · exact mem_append_left _ hs'

theorem outcomes_map_fst (host : Host) (tid eid : String) (base : KeyMap Value)
    (tasks : List Spec) : (outcomes host tid eid base tasks).map Prod.fst = tasks := by
  induction tasks generalizing base with
  | nil => rfl
  | cons s tasks ih => rw [outcomes, map_cons, ih]

/-! ## Atoms of an accepted tree -/

/-- An atom that the models accept, with its two names. -/
structure ValidAtom (eng : Engines) (atom : List (String × Value)) (pid key : String) : Prop where
  pluginId : stringEntry atom "plugin_id" = some pid
  outputKey : stringEntry atom "output_key" = some key
  type : stringEntry atom "type" = some "custom_signal"
  valid : validateCustomSignal eng atom = some (.customSignal pid key)

theorem boundedString_eq_some {entries : List (String × Value)} {s : String}
    (h : boundedString entries k = some s) : stringEntry entries k = some s := by
  obtain ⟨s', hentry, hs'⟩ := bind_eq_some_iff.mp h
  split_ifs at hs'
  rw [hentry, ← Option.some.inj hs']

variable {atom : List (String × Value)} {eng : Engines}

theorem validAtom_of_validate {n : AstNode} (htype : stringEntry atom "type" = some "custom_signal")
    (h : validateCustomSignal eng atom = some n) : ∃ pid key, ValidAtom eng atom pid key := by
  have hvalid := h
  obtain ⟨_, -, h⟩ := bind_eq_some_iff.mp h
  obtain ⟨pid, hpid, h⟩ := bind_eq_some_iff.mp h
  obtain ⟨key, hkey, h⟩ := bind_eq_some_iff.mp h
  split_ifs at h
  cases h
  exact ⟨pid, key, boundedString_eq_some hpid, boundedString_eq_some hkey, htype, hvalid⟩

mutual

variable {tables : Tables}

theorem validAtom_of_mem : ∀ (view : NodeView) (n : AstNode),
    validate eng tables view = some n → ∀ atom ∈ customSignals view,
      ∃ pid key, ValidAtom eng atom pid key
  | .notObject, _, _, _, h => absurd h (by simp [customSignals])
  | .node es hasChildren children, n, hn, atom, h => by
    rw [customSignals] at h
    rw [validate] at hn
    split_ifs at h with htype hcomposite
    · rw [mem_singleton] at h
      rw [htype] at hn
      simp only [String.reduceEq, if_false, if_true] at hn
      exact h ▸ validAtom_of_validate htype hn
    · have hchildren : ∃ ns, validateAll eng tables children = some ns := by
        rcases hcomposite with htyp | htyp <;> rw [htyp] at hn <;>
          simp only [String.reduceEq, if_false, if_true, true_or, or_true] at hn <;>
          split_ifs at hn <;>
          exact (map_eq_some_iff.mp hn).imp (fun _ hns => hns.1)
      obtain ⟨ns, hns⟩ := hchildren
      exact validAtom_of_memChild children ns hns atom h
    · cases h

theorem validAtom_of_memChild :
    ∀ (views : List NodeView) (ns : List AstNode), validateAll eng tables views = some ns →
      ∀ atom ∈ childSignals views, ∃ pid key, ValidAtom eng atom pid key
  | [], _, _, _, h => absurd h (by simp [childSignals])
  | c :: cs, ns, hns, atom, h => by
    rw [validateAll] at hns
    rw [childSignals, mem_append] at h
    cases hc : validate eng tables c with
    | none => simp [hc] at hns
    | some m =>
      cases hcs : validateAll eng tables cs with
      | none => simp [hcs] at hns
      | some ms =>
        rcases h with h | h
        · exact validAtom_of_mem c m hc atom h
        · exact validAtom_of_memChild cs ms hcs atom h

end

variable {ast : Value}

theorem validAtom_astSignals {host : Host}
    (h : atom ∈ astSignals host ast) : ∃ pid key, ValidAtom host.eng atom pid key := by
  unfold astSignals at h
  split_ifs at h with haccept
  · obtain ⟨n, hn⟩ := isSome_iff_exists.mp haccept
    obtain ⟨m, hm, -⟩ := bind_eq_some_iff.mp hn
    exact validAtom_of_mem (nodeView ast) m hm atom h
  · cases h

section

variable {host : Host} {atom : List (String × Value)} {pid key : String}
  (h : ValidAtom host.eng atom pid key)

include h

theorem ValidAtom.holds (features : KeyMap Value) :
    atomHolds host features atom
      = (!(strip key).isEmpty && (features.get? (strip key)).isSome) := by
  rw [atomHolds, h.valid, elim_some, evaluateJsonAst]

theorem ValidAtom.nodeSpec_eq :
    nodeSpec host.eng.py atom
      = if (strip pid).isEmpty || (strip key).isEmpty then []
        else [⟨strip pid, safeParams host.eng.py (atom.lookup "params"), strip key⟩] := by
  rw [nodeSpec, h.type, h.pluginId, h.outputKey]
  rfl

end

theorem nodeSpec_mem_tasks {host : Host} (hatom : atom ∈ astSignals host ast)
    (hs : s ∈ nodeSpec host.eng.py atom) : s ∈ astTasks host ast := by
  unfold astSignals at hatom
  split_ifs at hatom
  · exact nodeSpec_mem_iter host.eng.py (nodeView ast) atom hatom s hs
  · cases hatom

theorem mem_packSignals {host : Host} {packs : List Value} (h : atom ∈ packSignals host packs) :
    ∃ ast, (∀ s ∈ astTasks host ast, s ∈ packs.flatMap (packSpecs host.eng.py))
      ∧ atom ∈ astSignals host ast := by
  obtain ⟨pack, hpack, h⟩ := mem_flatMap.mp h
  obtain ⟨rule, hrule, h⟩ := mem_flatMap.mp h
  unfold ruleSignals at h
  split_ifs at h
  · cases hast : rule.get? "when_ast" <;> rw [hast] at h
    · cases h
    next ast =>
    refine ⟨ast, fun s hs => ?_, h⟩
    refine mem_flatMap.mpr ⟨pack, hpack, mem_flatMap.mpr ⟨rule, hrule, ?_⟩⟩
    rw [ruleSpecs, hast]
    exact hs
  · cases h

/-! ## When the signals are safe -/

section

variable {host : Host} {tid eid : String} {features : KeyMap Value} {tasks : List Spec}
  {atoms : List (List (String × Value))}

/-- An output key of a task is among the merged features, whatever the task returned. -/
theorem mergeTasks_isSome_iff (k : String) :
    ((mergeTasks host tid eid features tasks).get? k).isSome
      ↔ (features.get? k).isSome ∨ ∃ e ∈ outcomes host tid eid features tasks,
        e.1.outputKey = k := by
  rw [get?_mergeTasks, isSome_or, isSome_map, Bool.or_eq_true, lastOutcome_isSome_iff]
  simp [or_comm]

variable {pid key : String}

theorem atomHolds_blank_iff (h : ValidAtom host.eng atom pid key) :
    atomHolds host (mergeTasks host tid eid features tasks) atom = false
      ↔ ∀ k, stringEntry atom "output_key" = some k → (strip k).isEmpty = false →
        features.get? (strip k) = none
          ∧ ∀ e ∈ outcomes host tid eid features tasks, e.1.outputKey ≠ strip k := by
  have hmerged : ((mergeTasks host tid eid features tasks).get? (strip key)).isSome = false
      ↔ features.get? (strip key) = none
        ∧ ∀ e ∈ outcomes host tid eid features tasks, e.1.outputKey ≠ strip key := by
    rw [← Bool.not_eq_true, mergeTasks_isSome_iff, not_or, not_isSome_iff_eq_none]
    simp
  rw [h.holds, h.outputKey, Bool.and_eq_false_iff, hmerged]
  constructor
  · rintro hor k hk hne
    cases hk
    exact hor.resolve_left (by simp [hne])
  · intro hall
    cases hempty : (strip key).isEmpty with
    | true => exact Or.inl rfl
    | false => exact Or.inr (hall key rfl hempty)

/-- An atom with a task holds, whether the task returned a value or not. -/
theorem atomHolds_of_task
    (h : ValidAtom host.eng atom pid key) {s' : Spec} (hs : s ∈ nodeSpec host.eng.py atom)
    (hs' : s' ∈ tasks) (hdedup : s'.dedup host.eng.py = s.dedup host.eng.py) :
    atomHolds host (mergeTasks host tid eid features tasks) atom = true := by
  rw [h.nodeSpec_eq] at hs
  split_ifs at hs with hblank
  · cases hs
  · rw [mem_singleton] at hs
    rw [Bool.or_eq_true, not_or, Bool.not_eq_true, Bool.not_eq_true] at hblank
    rw [← outcomes_map_fst host tid eid features tasks] at hs'
    obtain ⟨e, he, hes⟩ := mem_map.mp hs'
    have hkey : e.1.outputKey = strip key := by
      have hthird := congrArg (fun d => d.2.2) hdedup
      rw [hes]
      rw [hs] at hthird
      exact hthird
    rw [h.holds, hblank.2, (mergeTasks_isSome_iff _).mpr (.inr ⟨e, he, hkey⟩)]
    rfl

/-- **The signals of a list of tasks are safe exactly when the handlers return what they have
to.** -/
theorem safe_iff (hvalid : ∀ atom ∈ atoms, ∃ pid key, ValidAtom host.eng atom pid key)
    (hcover : ∀ atom ∈ atoms, ∀ s ∈ nodeSpec host.eng.py atom, ∃ s' ∈ tasks,
      s'.dedup host.eng.py = s.dedup host.eng.py) :
    SignalsSafe host features (mergeTasks host tid eid features tasks) atoms
        (outcomes host tid eid features tasks)
      ↔ SignalsReturn host features atoms (outcomes host tid eid features tasks) := by
  -- a feature of the client is kept or replaced by the outcome of the last task for its key
  have hclient : ∀ k v, features.get? k = some v → v.isNull = false →
      ((mergeTasks host tid eid features tasks).get? k).all (fun w => !w.isNull)
        = (lastOutcome (outcomes host tid eid features tasks) k none).all
            (fun o => o.any (fun w => !w.isNull)) := by
    intro k v hv hnull
    rw [get?_mergeTasks, hv]
    cases lastOutcome (outcomes host tid eid features tasks) k none with
    | none => simp [hnull]
    | some o =>
      cases o with
      | none => rfl
      | some w => simp
  constructor
  · intro hsafe
    refine ⟨?_, ?_, fun k v hv hnull => hclient k v hv hnull ▸ hsafe.client k v hv hnull⟩
    · intro atom hatom s hs
      obtain ⟨pid, key, h⟩ := hvalid atom hatom
      obtain ⟨s', hs', hdedup⟩ := hcover atom hatom s hs
      have hresolved : Resolved host (outcomes host tid eid features tasks) atom := by
        by_contra hnot
        have hfalse := hsafe.unresolved atom hatom hnot
        rw [atomHolds_of_task h hs hs' hdedup] at hfalse
        cases hfalse
      obtain ⟨s₁, hs₁, he⟩ := hresolved
      -- an atom has at most one task
      have heq : s₁ = s := by
        rw [h.nodeSpec_eq] at hs hs₁
        split_ifs at hs hs₁
        · cases hs
        · rw [mem_singleton.mp hs, mem_singleton.mp hs₁]
      exact heq ▸ he
    · intro atom hatom hnil
      obtain ⟨pid, key, h⟩ := hvalid atom hatom
      refine (atomHolds_blank_iff h).mp (hsafe.unresolved atom hatom ?_)
      rintro ⟨s, hs, -⟩
      rw [hnil] at hs
      cases hs
  · intro hreturn
    refine ⟨?_, fun k v hv hnull => hclient k v hv hnull ▸ hreturn.kept k v hv hnull⟩
    intro atom hatom hnot
    obtain ⟨pid, key, h⟩ := hvalid atom hatom
    have hnil : nodeSpec host.eng.py atom = [] := by
      rw [eq_nil_iff_forall_not_mem]
      intro s hs
      exact hnot ⟨s, hs, hreturn.returned atom hatom s hs⟩
    exact (atomHolds_blank_iff h).mpr (hreturn.blank atom hatom hnil)

end

/-- **Custom signals from the resolver to the evaluator.** On a tree of a request and on packs: no
unresolved signal holds and no feature of the client is replaced by `None`, exactly when the
handlers return what they have to. -/
theorem signals_safe_iff (host : Host) (tid eid : String) (features : KeyMap Value) :
    (∀ ast, SignalsSafe host features (mergeFeaturesFromAst host tid eid features ast)
          (astSignals host ast) (outcomes host tid eid features (astTasks host ast))
        ↔ SignalsReturn host features (astSignals host ast)
          (outcomes host tid eid features (astTasks host ast)))
      ∧ ∀ packs, SignalsSafe host features (mergeFeatures host tid eid features packs)
          (packSignals host packs)
          (outcomes host tid eid features (collectSpecs host.eng.py packs))
        ↔ SignalsReturn host features (packSignals host packs)
          (outcomes host tid eid features (collectSpecs host.eng.py packs)) := by
  constructor
  · intro ast
    refine safe_iff (fun atom => validAtom_astSignals) (fun atom hatom s hs => ?_)
    exact ⟨s, nodeSpec_mem_tasks hatom hs, rfl⟩
  · intro packs
    refine safe_iff (fun atom hatom => ?_) (fun atom hatom s hs => ?_)
    · obtain ⟨ast, -, hast⟩ := mem_packSignals hatom
      exact validAtom_astSignals hast
    · obtain ⟨ast, hall, hast⟩ := mem_packSignals hatom
      exact exists_dedup_collect [] (.inl (hall s (nodeSpec_mem_tasks hast hs)))

namespace Demo

def host : Host where
  eng := ⟨fun _ => "0.0", ⟨fun _ => "0.0", fun s => s⟩, fun _ => .error "unused", fun _ _ => false,
    id⟩
  tables := ⟨fun s => s, Char.isAlpha, Char.isAlphanum, fun _ _ _ _ => false⟩
  dates := ⟨fun _ => none, fun _ => none⟩
  parseFloat := fun _ => none
  sha256 := fun _ => []
  now := 0
  add := fun x _ => x
  clock := fun _ _ _ => false
  handlers := fun _ => none

def signal : Value :=
  .object [("type", .string "custom_signal"), ("plugin_id", .string "geo.risk"),
    ("output_key", .string "geo_risk")]

end Demo

/-- A signal without a handler holds, and the feature of the client is lost. -/
theorem unresolved_signal_holds :
    evaluateAstPayload Demo.host "acme" "user-1" (KeyMap.empty.insert "geo_risk" (.bool true))
        Demo.signal = some true
      ∧ ((mergeFeaturesFromAst Demo.host "acme" "user-1"
          (KeyMap.empty.insert "geo_risk" (.bool true)) Demo.signal).get? "geo_risk").map
          Value.isNull
        = some true := by
  decide +kernel

end Tarka.Rules.Py
