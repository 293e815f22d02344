import Tarka.Lib.Dict
import Tarka.Lib.Hex
import Tarka.Lib.ReadAppend
import Tarka.Rules.ConditionParity

/-! # The decision log

Every decision is appended to a file as a line of JSON (`decision_log.py`). A line has the hash of
its record, which covers the hash of the line before it, as it was read from the end of the file.
The reading and the appending are two steps, and the calls of several requests take them in any
order.

The lines are a chain when no call appends between the two steps of another (`linearChain_iff`). A
line is what it is parsed to. -/

namespace Tarka.Decision.DecisionLog

open Tarka.Lib Tarka.Json ReadAppend Option List Value Dict Steps

/-- `str.lower`, `json.dumps` of doubles and SHA-256. -/
structure Host where
  lower : String → String
  text : PyText
  sha256 : Bytes → Digest

abbrev Line := List (String × Value)

/-! ## Records -/

def sensitiveKeys : List String :=
  ["password", "passcode", "token", "secret", "api_key", "authorization", "cookie"]

def isSensitive (host : Host) (key : String) : Bool :=
  let lk := host.lower (strip key)
  decide (lk ∈ sensitiveKeys)
    || ["_token", "_secret", "_key"].any (fun tail => tail.toList.isSuffixOf lk.toList)

mutual

def redactSensitive (host : Host) : Value → Value
  | .object entries => .object (redactEntries host entries)
  | .array items => .array (redactItems host items)
  | v => v

def redactItems (host : Host) : List Value → List Value
  | [] => []
  | v :: vs => redactSensitive host v :: redactItems host vs

def redactEntries (host : Host) : List (String × Value) → List (String × Value)
  | [] => []
  | (k, v) :: es =>
    (k, if isSensitive host k then .string "[REDACTED]" else redactSensitive host v)
      :: redactEntries host es

end

/-- A record that has no place in the chain yet. -/
structure Record where
  entries : Line
  proper : Dict.Proper entries
  unlinked : "previous_record_hash" ∉ entries.map Prod.fst
  unhashed : "record_hash" ∉ entries.map Prod.fst

/-- The arguments of `build_decision_log_record`, the time and the setting for the payload. -/
structure DecisionInputs where
  loggedAt : String
  traceId : String
  tenantId : String
  entityId : String
  eventType : String
  decision : String
  score : FiniteF64
  tags : List String
  ruleHits : List String
  reasons : List String
  mlScore : Option FiniteF64
  inferenceContext : List (String × Value)
  recommendedAction : Option String
  challengePolicyId : Option String
  challengeMetadata : Option (List (String × Value))
  fallbackReason : Option String
  payloadSnapshot : List (String × Value)
  artifactManifest : Option (List (String × Value))
  enforcementAction : Option String
  includePayloadSnapshot : Bool

/-- A text or `None`. -/
def optionalText (text : Option String) : Value := text.elim .null .string

def texts (ts : List String) : Value := .array (ts.map .string)

def decisionEntries (host : Host) (d : DecisionInputs) : Line :=
  [("schema_id", .string "tarka.decision_log/v1"), ("logged_at", .string d.loggedAt),
    ("trace_id", .string d.traceId), ("tenant_id", .string d.tenantId),
    ("entity_id", .string d.entityId), ("event_type", .string d.eventType),
    ("decision", .string d.decision), ("score", .number (.float d.score)), ("tags", texts d.tags),
    ("rule_hits", texts d.ruleHits), ("reasons", texts d.reasons),
    ("ml_score", d.mlScore.elim .null (fun x => .number (.float x))),
    ("inference_context", .object d.inferenceContext),
    ("recommended_action", optionalText d.recommendedAction),
    ("enforcement_action", optionalText d.enforcementAction),
    ("challenge_policy_id", optionalText d.challengePolicyId),
    ("challenge_metadata", .object (d.challengeMetadata.getD [])),
    ("fallback_reason", optionalText d.fallbackReason),
    ("payload_snapshot", redactSensitive host
      (if d.includePayloadSnapshot then .object d.payloadSnapshot
        else .object [("omitted", .bool true)])),
    ("artifact_manifest", .object (d.artifactManifest.getD []))]

def decisionKeys : List String :=
  ["schema_id", "logged_at", "trace_id", "tenant_id", "entity_id", "event_type", "decision",
    "score", "tags", "rule_hits", "reasons", "ml_score", "inference_context", "recommended_action",
    "enforcement_action", "challenge_policy_id", "challenge_metadata", "fallback_reason",
    "payload_snapshot", "artifact_manifest"]

theorem keys_decisionEntries (host : Host) (d : DecisionInputs) :
    (decisionEntries host d).map Prod.fst = decisionKeys := rfl

def buildDecisionLogRecord (host : Host) (d : DecisionInputs) : Record where
  entries := decisionEntries host d
  proper := by
    rw [Dict.Proper, keys_decisionEntries]
    decide
  unlinked := by
    rw [keys_decisionEntries]
    decide
  unhashed := by
    rw [keys_decisionEntries]
    decide

/-! ## The chain -/

def jsonDumps (host : Host) (line : Line) : String :=
  String.ofList (pyDumpsSorted host.text (.object line))

def recordHash (host : Host) (line : Line) : String :=
  hexText (host.sha256 (utf8 (jsonDumps host line))).val

/-- What `isinstance(val, str)` lets through. -/
def asText : Value → Option String
  | .string s => some s
  | _ => none

def textField (line : Line) (key : String) : Option String := (line.lookup key).bind asText

def lastRecordHash (lines : List Line) : Option String :=
  lines.getLast?.bind (fun line =>
    (textField line "record_hash").bind (fun val =>
      if (strip val).isEmpty then none else some (strip val)))

def chained (record : Record) (prevHash : Option String) : Line :=
  prevHash.elim record.entries (fun h =>
    if h.isEmpty then record.entries
    else Dict.set record.entries "previous_record_hash" (.string h))

/-- The line that `emit_decision_log` writes. -/
def recordOut (host : Host) (record : Record) (prevHash : Option String) : Line :=
  Dict.set (chained record prevHash) "record_hash"
    (.string (recordHash host (chained record prevHash)))

/-- The two steps of `emit_decision_log`, for the calls of several requests. -/
def emitStep {ι : Type} [DecidableEq ι] (host : Host) (record : ι → Record) :
    State ι Line String → Turn ι → Option (State ι Line String) :=
  step lastRecordHash (fun i => recordOut host (record i))

def statedHash (line : Line) : String := (textField line "record_hash").getD ""

def previousHash (line : Line) : Option String := textField line "previous_record_hash"

/-- Every line after the first refers to the one directly before it. -/
def LinearChain (log : List Line) : Prop := log.IsChain (Linked statedHash previousHash)

def hashedText (host : Host) (line : Line) : String :=
  jsonDumps host (Dict.erase line "record_hash")

def NoCollision (host : Host) (log : List Line) : Prop :=
  ∀ a ∈ log, ∀ b ∈ log,
    host.sha256 (utf8 (hashedText host a)) = host.sha256 (utf8 (hashedText host b)) →
      hashedText host a = hashedText host b

/-! ## Lines -/

section

variable {host : Host} {record : Record} {prevHash : Option String}

theorem textField_set (d : Line) (k k' s : String) :
    textField (set d k (.string s)) k' = if k' = k then some s else textField d k' := by
  rw [textField, lookup_set]
  split_ifs with h
  · rfl
  · rfl

theorem textField_of_notMem {d : Line} {k : String} (h : k ∉ d.map Prod.fst) :
    textField d k = none := by
  have hnone : d.lookup k = none := by
    rw [lookup_eq_none_iff]
    intro e he
    rw [bne_iff_ne]
    rintro rfl
    exact h (mem_map_of_mem he)
  rw [textField, hnone]
  rfl

theorem recordHash_visible (host : Host) (line : Line) :
    strip (recordHash host line) = recordHash host line
      ∧ (recordHash host line).isEmpty = false := by
  refine ⟨strip_hexText _, ?_⟩
  rw [Bool.eq_false_iff]
  intro h
  have hlength := congrArg (fun s => s.toList.length) (String.isEmpty_iff.mp h)
  simp only [recordHash, length_hexText, (host.sha256 _).property] at hlength
  exact absurd hlength (by decide)

theorem notMem_chained {k : String} (h : k ∉ record.entries.map Prod.fst)
    (hne : k ≠ "previous_record_hash") : k ∉ (chained record prevHash).map Prod.fst := by
  cases prevHash with
  | none => exact h
  | some hash =>
    rw [chained, elim_some]
    split_ifs
    · exact h
    · rw [set_of_not_mem record.unlinked, map_append, mem_append, not_or]
      exact ⟨h, by simpa using hne⟩

theorem proper_chained : Proper (chained record prevHash) := by
  cases prevHash with
  | none => exact record.proper
  | some hash =>
    rw [chained, elim_some]
    split_ifs
    · exact record.proper
    · exact record.proper.set _ _

theorem statedHash_recordOut :
    statedHash (recordOut host record prevHash) = recordHash host (chained record prevHash) := by
  rw [statedHash, recordOut, textField_set]
  rfl

theorem hashedText_recordOut :
    hashedText host (recordOut host record prevHash)
      = jsonDumps host (chained record prevHash) := by
  have hkey : "record_hash" ∉ (chained record prevHash).map Prod.fst :=
    notMem_chained record.unhashed (by decide)
  have hkept : ∀ e ∈ chained record prevHash, decide (e.1 ≠ "record_hash") := by
    intro e he
    rw [decide_eq_true_eq]
    rintro heq
    exact hkey (heq ▸ mem_map_of_mem he)
  rw [hashedText, recordOut, set_of_not_mem hkey, erase, filter_append, filter_eq_self.mpr hkept]
  simp

theorem lastRecordHash_append (lines : List Line) :
    lastRecordHash (lines ++ [recordOut host record prevHash])
      = some (recordHash host (chained record prevHash)) := by
  obtain ⟨hstrip, hnonempty⟩ := recordHash_visible host (chained record prevHash)
  rw [lastRecordHash, List.getLast?_concat, bind_some, recordOut, textField_set, if_pos rfl,
    bind_some, hstrip, hnonempty]
  rfl

theorem lastRecordHash_nonempty {lines : List Line} {h : String}
    (hlast : lastRecordHash lines = some h) :
    h.isEmpty = false := by
  obtain ⟨line, -, hfield⟩ := bind_eq_some_iff.mp hlast
  obtain ⟨val, -, hval⟩ := bind_eq_some_iff.mp hfield
  split_ifs at hval with hempty
  cases hval
  exact Bool.eq_false_iff.mpr hempty

theorem previousHash_recordOut (hread : ∀ h, prevHash = some h → h.isEmpty = false) :
    previousHash (recordOut host record prevHash) = prevHash := by
  rw [previousHash, recordOut, textField_set, if_neg (by decide)]
  cases prevHash with
  | none => exact textField_of_notMem record.unlinked
  | some h =>
    rw [chained, elim_some, hread h rfl, if_neg Bool.false_ne_true, textField_set, if_pos rfl]

theorem asText_ofDocument (v : Value) : asText v.ofDocument = asText v := by
  cases v <;> rfl

theorem textField_eq_of_ofDocument {d d' : Line} (hd : Proper d) (hd' : Proper d')
    (h : (object d).ofDocument = (object d').ofDocument) (k : String) :
    textField d k = textField d' k := by
  have hfield : ∀ {d : Line}, Proper d →
      ((rustEntries d).lookup k).bind asText = textField d k := by
    intro d hd
    rw [lookup_rustEntries hd, textField]
    cases d.lookup k with
    | none => rfl
    | some v => exact asText_ofDocument v
  rw [ofDocument_object, ofDocument_object, object.injEq] at h
  rw [← hfield hd, ← hfield hd', h]

/-! ## Interleavings -/

variable {ι : Type} {records : ι → Record}

theorem faithful (host : Host) (records : ι → Record) :
    Faithful lastRecordHash (fun i => recordOut host (records i)) statedHash previousHash where
  last_nil := rfl
  last_append := by
    intro lines i seen
    rw [lastRecordHash_append, statedHash_recordOut]
  prev_make := fun i seen => previousHash_recordOut (fun _ => lastRecordHash_nonempty)

/-- Lines that state one hash refer to one line, as no two texts share a hash. -/
theorem previousHash_eq_of_statedHash_eq (htext : host.text.Lawful) {log : List Line}
    (hmade : ∀ a ∈ log, ∃ i seen, a = recordOut host (records i) (lastRecordHash seen))
    (hcollision : NoCollision host log) :
    ∀ a ∈ log, ∀ b ∈ log, statedHash a = statedHash b → previousHash a = previousHash b := by
  intro a ha b hb h
  have htexts := hcollision a ha b hb
  obtain ⟨i, seen, rfl⟩ := hmade a ha
  obtain ⟨j, seen', rfl⟩ := hmade b hb
  rw [statedHash_recordOut, statedHash_recordOut] at h
  rw [hashedText_recordOut, hashedText_recordOut] at htexts
  have hsame := htexts (Subtype.ext (hexText_inj h))
  have hdocument := (pyDumpsSorted_inj htext).mp (String.ofList_injective hsame)
  have hfield := textField_eq_of_ofDocument proper_chained proper_chained hdocument
  rw [previousHash, recordOut, textField_set, if_neg (by decide), hfield, previousHash, recordOut,
    textField_set, if_neg (by decide)]

/-- **When the log is one chain**: exactly if no call appends its line between the two steps of
another. -/
theorem linearChain_iff [DecidableEq ι] (htext : host.text.Lawful) {turns : List (Turn ι)}
    {s : State ι Line String} (hrun : Steps.run (emitStep host records) start turns = some s)
    (hcollision : NoCollision host s.log) : LinearChain s.log ↔ Undisturbed turns := by
  have hinv : Inv lastRecordHash (fun i => recordOut host (records i)) s := by
    refine invariant_of_run ?_ inv_start (meets_true _ _) hrun
    intro s t s' hinv _ hstep
    exact hinv.of_step hstep
  exact linked_iff (faithful host records) hrun
    (previousHash_eq_of_statedHash_eq htext hinv.made hcollision)

end

namespace Demo

def host : Host :=
  ⟨asciiLower, Rules.Reference.engines.py,
    fun b => ⟨(b.reverse ++ List.replicate 32 0).take 32, by simp⟩⟩

def ofTrace (traceId : String) : Record where
  entries := [("trace_id", .string traceId)]
  proper := List.nodup_singleton _
  unlinked := by simp
  unhashed := by simp

def records : Bool → Record
  | true => ofTrace "x1"
  | false => ofTrace "x2"

def log (turns : List (Turn Bool)) : List Line :=
  (Steps.run (emitStep host records) start turns).elim [] State.log

def oneByOne : List (Turn Bool) := [.read true, .append true, .read false, .append false]

def together : List (Turn Bool) := [.read true, .read false, .append true, .append false]

end Demo

open Demo

/-- One call after the other. -/
theorem oneByOne_chain : LinearChain (log oneByOne) := by
  have hrun : ∃ s, run (emitStep host records) start oneByOne = some s :=
    isSome_iff_exists.mp (by decide +kernel)
  obtain ⟨s, hs⟩ := hrun
  have hlog : log oneByOne = s.log := by
    rw [log, hs]
    rfl
  have hcollision : NoCollision host (log oneByOne) := by
    unfold NoCollision
    decide +kernel
  rw [hlog] at hcollision ⊢
  exact (linearChain_iff Rules.Reference.py_lawful hs hcollision).mpr (by decide)

/-- Two calls that both read before one of them writes: the second line does not refer to the
first. -/
theorem together_no_chain :
    (log together).map previousHash = [none, none]
      ∧ ¬ LinearChain (log together) := by
  have hlog : log together
      = [recordOut host (records true) none, recordOut host (records false) none] :=
    rfl
  have hnone : ∀ i, previousHash (recordOut host (records i) none) = none :=
    fun i => previousHash_recordOut (fun _ h => by cases h)
  rw [hlog]
  refine ⟨by rw [map_cons, map_cons, map_nil, hnone, hnone], ?_⟩
  intro hchain
  have hlink : Linked statedHash previousHash _ _ := (isChain_cons_cons.mp hchain).1
  cases hlink

end Tarka.Decision.DecisionLog
