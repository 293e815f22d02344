import Mathlib.Data.Nat.Find
import Tarka.Ingest.Events
import Tarka.Lib.Affix
import Tarka.Lib.Base64
import Tarka.Lib.Dict

/-! # The consumer of ingested events

`_consumer_loop` takes a message, has the decision service evaluate its event, has the orchestrator
commit the side effects, and acknowledges the message; or it parks a copy on the dead-letter queue
and acknowledges; or it gives the message back, to be delivered again. `onMessage` is one delivery,
and `trace` what happens to a message over its deliveries. An acknowledgement always arrives.

A message that an endpoint has published is acknowledged in time, and never dropped, exactly if some
delivery comes to an end that the consumer treats as final (`acknowledged_in_time_iff`). An
evaluation that answers with a server error is final at no delivery. -/

namespace Tarka.Ingest.Consumer

open Tarka.Lib Tarka.Json Tarka.Ingest Option List

/-- The settings of the consumer. -/
structure Settings where
  subjectPrefix : String
  ingestDlqSubject : String
  ingestDlqPublishOnEvaluate4xx : Bool
  ingestDlqPublishOnSideEffectFailure : Bool
  ingestMaxDeliver : Int
  orchestratorUrl : String
  orchestratorInternalSecret : String

/-- `str.upper`, and the texts of Python. -/
structure Host where
  upper : String → String
  text : PyText

/-- A message: its subject, its bytes, and what `json.loads` makes of them. -/
structure Message where
  subject : String
  data : Bytes
  payload : Option Value

/-- An answer of the decision service. -/
structure HttpReply where
  statusCode : Nat
  text : String
  json : Option Value

/-- What the environment does at one delivery; `none` is an exception of the transport. -/
structure Outcome where
  evaluate : Option HttpReply
  /-- The status of the answer of the orchestrator. -/
  sideEffects : Option Nat
  /-- A publish to the dead-letter queue is carried out. -/
  dlqReachable : Bool

/-- What a delivery does, in order. -/
inductive Effect where
  /-- The orchestrator has accepted the side effects. -/
  | committed (url : String) (headers : List (String × String)) (body : List (String × Value))
  /-- A copy is on the dead-letter queue. -/
  | published (subject : String) (envelope : List (String × Value))
  | ack
  | nak

open Effect

namespace Effect

def isAck : Effect → Bool
  | ack => true
  | _ => false

def keeps : Effect → Bool
  | committed _ _ _ | published _ _ => true
  | _ => false

end Effect

/-! ## Helpers -/

/-- `str.rstrip` of one character. -/
def rstripOf (c : Char) (s : String) : String :=
  String.ofList (s.toList.rdropWhile (fun d => d == c))

def dlqOverlapsConsumer (dlqSubject subjectPrefix : String) : Bool :=
  let subj := strip dlqSubject
  let start := rstripOf '.' (strip subjectPrefix)
  if subj.isEmpty || start.isEmpty then false
  else subj == start || hasStart (start ++ ".") subj

section

variable (cfg : Settings) (host : Host)

/-- `str(entries.get(key) or "").strip()`. -/
def textAt (entries : List (String × Value)) (key : String) : String :=
  let v := (entries.lookup key).getD .null
  strip ((if v.truthy then v else .string "").pyStr host.text)

def isParkedEvaluateEnvelope : Value → Bool
  | .object entries => textAt host entries "kind" == "evaluate_4xx"
  | _ => false

/-- `_payload_for_decision_api`; what is no `dict` has no `get`. -/
def payloadForDecisionApi : Value → Option (List (String × Value))
  | .object msg =>
    let src := match msg.lookup "evaluate_request" with
      | some (.object inner) => inner
      | _ => msg
    let out := src.filter (fun e => e.1 ≠ "_ingest_id")
    some (if (textAt host out "role").isEmpty then Dict.set out "role" (.string "member") else out)
  | _ => none

/-- `rule_data` and the actions, of the answer of the decision service. -/
def ruleData (reply : HttpReply) : List (String × Value) :=
  match reply.json with
  | some (.object entries) => entries
  | _ => []

def ruleActions (ruleData : List (String × Value)) : List String :=
  match ruleData.lookup "actions" with
  | some (.array actions) => actions.map (fun a => a.pyStr host.text)
  | _ =>
    let decision := textAt host ruleData "decision"
    if decision.isEmpty then [] else [host.upper decision]

/-- The request to the orchestrator: its address, headers and body. -/
def sideEffectsRequest (evalBody : List (String × Value)) (reply : HttpReply) : Effect :=
  let secret := strip cfg.orchestratorInternalSecret
  .committed (rstripOf '/' (strip cfg.orchestratorUrl) ++ "/v1/internal/ingest-side-effects")
    (("Content-Type", "application/json")
      :: (if secret.isEmpty then [] else [("x-internal-secret", secret)]))
    [("event", .object evalBody), ("rule_data", .object (ruleData reply)),
      ("actions", .array ((ruleActions host (ruleData reply)).map .string))]

/-- `_commit_evaluate_side_effects`: whether the message may be acknowledged, and what was done. -/
def commitEvaluateSideEffects (evalBody : List (String × Value)) (reply : HttpReply)
    (sideEffects : Option Nat) : Bool × List Effect :=
  if (strip cfg.orchestratorUrl).isEmpty then (true, [])
  else
    match sideEffects with
    | none => (false, [])
    | some statusCode =>
      if 200 ≤ statusCode ∧ statusCode < 300 then
        (true, [sideEffectsRequest cfg host evalBody reply])
      else (false, [])

/-- The envelope of `_publish_evaluate_dlq`. -/
def evaluateEnvelope (subject : String) (rawEvent : Value) (evalBody : List (String × Value))
    (statusCode : Nat) (responseText : String) : List (String × Value) :=
  [("schema_version", .string "1"), ("kind", .string "evaluate_4xx"),
    ("status_code", .number (.posInt (UInt64.ofNat statusCode))),
    ("nats_source_subject", .string subject), ("event", rawEvent),
    ("evaluate_request", .object evalBody),
    ("evaluate_response_preview", .string (cut 8192 responseText))]

/-- `_park_evaluate_4xx`: whether a copy is on the dead-letter queue. -/
def parkEvaluate4xx (subject : String) (rawEvent : Value) (evalBody : List (String × Value))
    (reply : HttpReply) (dlqReachable : Bool) : Bool × List Effect :=
  if !cfg.ingestDlqPublishOnEvaluate4xx then (false, [])
  else if (strip cfg.ingestDlqSubject).isEmpty then (false, [])
  else if dlqOverlapsConsumer cfg.ingestDlqSubject cfg.subjectPrefix then (false, [])
  else if dlqReachable then
    (true, [.published (strip cfg.ingestDlqSubject)
      (evaluateEnvelope subject rawEvent evalBody reply.statusCode reply.text)])
  else (false, [])

/-- What `_handle_message_failure` is told of a failure. -/
structure Failure where
  kind : String
  evalBody : List (String × Value)
  rawEvent : List (String × Value)
  responseText : String
  payloadB64 : Option String

/-- The envelope of `_handle_message_failure`. -/
def failureEnvelope (subject : String) (delivered : Nat) (f : Failure) : List (String × Value) :=
  [("schema_version", .string "1"), ("kind", .string f.kind),
    ("deliveries", .number (.posInt (UInt64.ofNat delivered))),
    ("nats_source_subject", .string subject), ("event", .object f.rawEvent),
    ("evaluate_request", .object f.evalBody),
    ("evaluate_response_preview", .string (cut 8192 f.responseText))]
    ++ (f.payloadB64.elim [] (fun b => if b.isEmpty then [] else [("payload_b64", .string b)]))

def handleMessageFailure (msg : Message) (delivered : Nat) (f : Failure) (dlqReachable : Bool) :
    List Effect :=
  if (delivered : Int) < cfg.ingestMaxDeliver then [.nak]
  else if cfg.ingestDlqPublishOnSideEffectFailure && !(strip cfg.ingestDlqSubject).isEmpty
      && !dlqOverlapsConsumer cfg.ingestDlqSubject cfg.subjectPrefix && dlqReachable then
    [.published (strip cfg.ingestDlqSubject) (failureEnvelope msg.subject delivered f), .ack]
  else [.nak]

/-- `base64.b64encode(msg.data).decode()`. -/
def payloadB64 (msg : Message) : String := String.ofList (Base64.encode Base64.standard msg.data)

/-- The entries of a `dict`, or none. -/
def entriesOf : Value → List (String × Value)
  | .object entries => entries
  | _ => []

/-- One delivery of a message: the body of the loop over `msgs`. -/
def onMessage (msg : Message) (delivered : Nat) (o : Outcome) : List Effect :=
  match msg.payload with
  | none => handleMessageFailure cfg msg delivered
      ⟨"json_decode_error", [], [], "", some (payloadB64 msg)⟩ o.dlqReachable
  | some payload =>
    if isParkedEvaluateEnvelope host payload then [.ack]
    else
      match payloadForDecisionApi host payload, o.evaluate with
      | some evalBody, some reply =>
        if reply.statusCode < 400 then
          let committed := commitEvaluateSideEffects cfg host evalBody reply o.sideEffects
          if committed.1 then committed.2 ++ [.ack]
          else handleMessageFailure cfg msg delivered
            ⟨"side_effect_failure", evalBody, entriesOf payload, reply.text,
              some (payloadB64 msg)⟩ o.dlqReachable
        else if reply.statusCode < 500 then
          let parked := parkEvaluate4xx cfg msg.subject payload evalBody reply o.dlqReachable
          if parked.1 then parked.2 ++ [.ack]
          else handleMessageFailure cfg msg delivered
            ⟨"evaluate_4xx_park_failed", evalBody, entriesOf payload, reply.text, none⟩
            o.dlqReachable
        -- an evaluation that failed on the server is given back, however often it came
        else [.nak]
      -- the clause of `except Exception`
      | _, _ => handleMessageFailure cfg msg delivered
          ⟨"consumer_error", [], [], "", some (payloadB64 msg)⟩ o.dlqReachable

/-- What happens to a message in its first deliveries: they count from 1 and end with an
acknowledgement. -/
def trace (msg : Message) (o : Nat → Outcome) : Nat → List Effect
  | 0 => []
  | n + 1 =>
    if (trace msg o n).any Effect.isAck then trace msg o n
    else trace msg o n ++ onMessage cfg host msg (n + 1) (o (n + 1))

end

/-! ## Messages of the endpoints -/

/-- The message of an event: `json.dumps(data).encode()`, and the same data again when it is
read. -/
def endpointMessage (cfg : Ingest.Settings) (text : PyText) (event : EventPayload)
    (ingestId : String) : Message where
  subject := subjectOf cfg event
  data := utf8 (String.ofList
    (spacedChars escapeAscii text.reprFloat (.object (messageData event ingestId))))
  payload := some (.object (messageData event ingestId))

/-- The dead-letter queue is enabled: both flags are set and its subject is not one the consumer
reads. -/
def DlqEnabled (cfg : Settings) : Prop :=
  cfg.ingestDlqPublishOnEvaluate4xx = true ∧ cfg.ingestDlqPublishOnSideEffectFailure = true
    ∧ (strip cfg.ingestDlqSubject).isEmpty = false
    ∧ dlqOverlapsConsumer cfg.ingestDlqSubject cfg.subjectPrefix = false

def beforeAck (effects : List Effect) : List Effect := effects.takeWhile (fun e => !e.isAck)

/-- An acknowledgement comes only after a commit or a copy on the dead-letter queue. -/
def NeverDropped (effects : List Effect) : Prop :=
  effects.any Effect.isAck = true → (beforeAck effects).any Effect.keeps = true

section

variable (cfg : Settings)

/-- The orchestrator has accepted the side effects, or there is none. -/
def sideEffectsDone (o : Outcome) : Bool :=
  (strip cfg.orchestratorUrl).isEmpty
    || o.sideEffects.elim false (fun statusCode => decide (200 ≤ statusCode ∧ statusCode < 300))

/-- The delivery is the last one: the evaluation succeeded and its side effects are done, or it was
refused, or nothing worked at the last delivery that is allowed. A server error is never the end. -/
def isFinal (k : Nat) (o : Outcome) : Bool :=
  match o.evaluate with
  | none => decide (cfg.ingestMaxDeliver ≤ k)
  | some reply =>
    if reply.statusCode < 400 then sideEffectsDone cfg o || decide (cfg.ingestMaxDeliver ≤ k)
    else decide (reply.statusCode < 500)

/-- The evaluation succeeded and there is no orchestrator to commit to. -/
def isSkipped (o : Outcome) : Bool :=
  (strip cfg.orchestratorUrl).isEmpty
    && o.evaluate.elim false (fun reply => decide (reply.statusCode < 400))

end

section

variable {cfg : Settings} {host : Host} {icfg : Ingest.Settings} {text : PyText}
  {event : EventPayload} {ingestId : String} {o : Outcome} {k : Nat}

theorem endpoint_not_parked :
    isParkedEvaluateEnvelope host (.object (messageData event ingestId)) = false := by
  have htext : textAt host (messageData event ingestId) "kind" = strip "" := by
    rfl
  rw [isParkedEvaluateEnvelope, htext]
  decide +kernel

def Kept (effects : List Effect) : Prop := ∃ e : Effect, e.keeps = true ∧ effects = [e, .ack]

theorem handleMessageFailure_nak (msg : Message) (f : Failure) (dlqReachable : Bool)
    (hk : (k : Int) < cfg.ingestMaxDeliver) :
    handleMessageFailure cfg msg k f dlqReachable = [.nak] := by
  rw [handleMessageFailure, if_pos hk]

theorem handleMessageFailure_kept (h : DlqEnabled cfg) (msg : Message) (f : Failure)
    (hk : cfg.ingestMaxDeliver ≤ k) : Kept (handleMessageFailure cfg msg k f true) := by
  obtain ⟨-, hflag, hsubject, hoverlap⟩ := h
  refine ⟨.published (strip cfg.ingestDlqSubject) (failureEnvelope msg.subject k f), rfl, ?_⟩
  simp [handleMessageFailure, not_lt.mpr hk, hflag, hsubject, hoverlap]

theorem handleMessageFailure_cases (h : DlqEnabled cfg) (msg : Message) (f : Failure) :
    (decide (cfg.ingestMaxDeliver ≤ k) = false → handleMessageFailure cfg msg k f true = [.nak])
      ∧ (decide (cfg.ingestMaxDeliver ≤ k) →
          Kept (handleMessageFailure cfg msg k f true)) := by
  constructor
  · intro hk
    exact handleMessageFailure_nak msg f true (not_le.mp (of_decide_eq_false hk))
  · intro hk
    exact handleMessageFailure_kept h msg f (of_decide_eq_true hk)

theorem parkEvaluate4xx_of_enabled (h : DlqEnabled cfg) (subject : String) (rawEvent : Value)
    (evalBody : List (String × Value)) (reply : HttpReply) :
    ∃ envelope, parkEvaluate4xx cfg subject rawEvent evalBody reply true
      = (true, [.published (strip cfg.ingestDlqSubject) envelope]) := by
  obtain ⟨hflag, -, hsubject, hoverlap⟩ := h
  refine ⟨evaluateEnvelope subject rawEvent evalBody reply.statusCode reply.text, ?_⟩
  simp [parkEvaluate4xx, hflag, hsubject, hoverlap]

/-- The three ends of the side effects: skipped, accepted, or not done. -/
theorem commitEvaluateSideEffects_cases (evalBody : List (String × Value)) (reply : HttpReply) :
    ((strip cfg.orchestratorUrl).isEmpty
        ∧ commitEvaluateSideEffects cfg host evalBody reply o.sideEffects = (true, []))
      ∨ ((strip cfg.orchestratorUrl).isEmpty = false ∧ sideEffectsDone cfg o
        ∧ commitEvaluateSideEffects cfg host evalBody reply o.sideEffects
          = (true, [sideEffectsRequest cfg host evalBody reply]))
      ∨ (sideEffectsDone cfg o = false
        ∧ commitEvaluateSideEffects cfg host evalBody reply o.sideEffects = (false, [])) := by
  cases hbase : (strip cfg.orchestratorUrl).isEmpty with
  | true => exact .inl ⟨rfl, by rw [commitEvaluateSideEffects.eq_def, if_pos hbase]⟩
  | false =>
    rw [commitEvaluateSideEffects.eq_def, sideEffectsDone, hbase]
    cases o.sideEffects with
    | none => exact .inr (.inr ⟨rfl, rfl⟩)
    | some statusCode =>
      by_cases hstatus : 200 ≤ statusCode ∧ statusCode < 300
      · exact .inr (.inl ⟨rfl, decide_eq_true hstatus, if_pos hstatus⟩)
      · exact .inr (.inr ⟨decide_eq_false hstatus, if_neg hstatus⟩)

theorem onMessage_endpoint (h : DlqEnabled cfg) (hreach : o.dlqReachable) :
    (isFinal cfg k o = false →
        onMessage cfg host (endpointMessage icfg text event ingestId) k o = [.nak])
      ∧ (isFinal cfg k o → isSkipped cfg o →
        onMessage cfg host (endpointMessage icfg text event ingestId) k o = [.ack])
      ∧ (isFinal cfg k o → isSkipped cfg o = false →
        Kept (onMessage cfg host (endpointMessage icfg text event ingestId) k o)) := by
  generalize hmsg : endpointMessage icfg text event ingestId = msg
  have hpayload : msg.payload = some (.object (messageData event ingestId)) := by rw [← hmsg]; rfl
  obtain ⟨evalBody, hbody⟩ : ∃ evalBody,
      payloadForDecisionApi host (.object (messageData event ingestId)) = some evalBody := ⟨_, rfl⟩
  unfold onMessage isFinal isSkipped
  simp only [hpayload, endpoint_not_parked, hbody, hreach, Bool.false_eq_true, ↓reduceIte]
  cases o.evaluate with
  | none =>
    obtain ⟨hnak, hkept⟩ := handleMessageFailure_cases (k := k) h msg
      ⟨"consumer_error", [], [], "", some (payloadB64 msg)⟩
    simp only [elim_none, Bool.and_false, Bool.false_eq_true, false_implies, implies_true,
      true_and, forall_const]
    exact ⟨hnak, hkept⟩
  | some reply =>
    by_cases hok : reply.statusCode < 400
    · simp only [hok, ↓reduceIte, elim_some, decide_true, Bool.and_true]
      obtain ⟨hnak, hkept⟩ := handleMessageFailure_cases (k := k) h msg
        ⟨"side_effect_failure", evalBody, messageData event ingestId, reply.text,
          some (payloadB64 msg)⟩
      rcases @commitEvaluateSideEffects_cases cfg host o evalBody reply with
        ⟨hbase, hcommit⟩ | ⟨hbase, hdone, hcommit⟩ | ⟨hdone, hcommit⟩
      · have hdone : sideEffectsDone cfg o := by simp [sideEffectsDone, hbase]
        simp [hcommit, hdone, hbase]
      · simp only [hcommit, hdone, hbase, Bool.true_or, ↓reduceIte]
        exact ⟨by simp, by simp, fun _ _ => ⟨_, rfl, rfl⟩⟩
      · have hbase : (strip cfg.orchestratorUrl).isEmpty = false := by
          cases hb : (strip cfg.orchestratorUrl).isEmpty with
          | true => simp [sideEffectsDone, hb] at hdone
          | false => rfl
        simp only [hcommit, hdone, hbase, Bool.false_or, Bool.false_eq_true, ↓reduceIte,
          false_implies, implies_true, true_and, forall_const]
        exact ⟨hnak, hkept⟩
    · simp only [hok, ↓reduceIte, elim_some, decide_false, Bool.and_false,
        Bool.false_eq_true, false_implies, implies_true, true_and, forall_const]
      by_cases hclient : reply.statusCode < 500
      · obtain ⟨envelope, hparked⟩ := parkEvaluate4xx_of_enabled h msg.subject
          (.object (messageData event ingestId)) evalBody reply
        simp only [hclient, hparked, ↓reduceIte, decide_true, Bool.true_eq_false, false_implies,
          true_and, forall_const]
        exact ⟨_, rfl, rfl⟩
      · simp [hclient]

/-! ## All deliveries -/

/-- No delivery up to `n` is final. -/
def NotYet (cfg : Settings) (o : Nat → Outcome) (n : Nat) : Prop :=
  ∀ j, 1 ≤ j → j ≤ n → isFinal cfg j (o j) = false

end

section

variable {cfg : Settings} {host : Host} {icfg : Ingest.Settings} {text : PyText}
  {event : EventPayload} {ingestId : String} {o : Nat → Outcome} {k n : Nat}

/-- Up to the first final delivery the message is only given back. -/
theorem trace_of_notYet (h : DlqEnabled cfg) (hreach : ∀ k, (o k).dlqReachable)
    (hnot : NotYet cfg o n) :
    trace cfg host (endpointMessage icfg text event ingestId) o n = replicate n .nak := by
  induction n with
  | zero => rfl
  | succ n ih =>
    have hbefore : NotYet cfg o n := fun j hj hjn => hnot j hj (by omega)
    have hlast : isFinal cfg (n + 1) (o (n + 1)) = false := hnot (n + 1) (by omega) le_rfl
    have hnoack : (replicate n nak).any isAck = false := by
      simp [isAck]
    rw [trace, ih hbefore, hnoack, (onMessage_endpoint h (hreach (n + 1))).1 hlast,
      if_neg Bool.false_ne_true, ← replicate_succ']

theorem trace_of_first (h : DlqEnabled cfg) (hreach : ∀ k, (o k).dlqReachable)
    (hnot : NotYet cfg o k) :
    trace cfg host (endpointMessage icfg text event ingestId) o (k + 1)
      = replicate k .nak
        ++ onMessage cfg host (endpointMessage icfg text event ingestId) (k + 1) (o (k + 1)) := by
  have hnoack : (replicate k nak).any isAck = false := by
    simp [isAck]
  rw [trace, trace_of_notYet h hreach hnot, hnoack, if_neg Bool.false_ne_true]

theorem trace_of_le {msg : Message} (hack : (trace cfg host msg o k).any isAck)
    (hkn : k ≤ n) : trace cfg host msg o n = trace cfg host msg o k := by
  induction n, hkn using Nat.le_induction with
  | base => rfl
  | succ n hkn ih => rw [trace, ih, if_pos hack]

theorem any_isAck_nak (n : Nat) : (replicate n nak).any isAck = false := by
  simp [isAck]

theorem beforeAck_nak_append (n : Nat) (effects : List Effect) :
    beforeAck (replicate n .nak ++ effects) = replicate n .nak ++ beforeAck effects := by
  refine takeWhile_append_of_pos ?_
  intro e he
  rw [eq_of_mem_replicate he]
  rfl

theorem any_keeps_nak (n : Nat) : (replicate n nak).any keeps = false := by
  simp [keeps]

variable {effects : List Effect}

theorem any_keeps_of_kept (n : Nat) (h : Kept effects) :
    (beforeAck (replicate n .nak ++ effects)).any keeps = true := by
  obtain ⟨e, hkeeps, rfl⟩ := h
  have hack : e.isAck = false := by
    cases e with
    | committed url headers body | published subject envelope => rfl
    | ack | nak => simp [keeps] at hkeeps
  rw [beforeAck_nak_append]
  simp [beforeAck, hack, hkeeps]

theorem any_isAck_of_kept (n : Nat) (h : Kept effects) :
    (replicate n nak ++ effects).any isAck = true := by
  obtain ⟨e, _, rfl⟩ := h
  simp [isAck]

theorem exists_first_final (h : ¬ NotYet cfg o n) :
    ∃ k, k + 1 ≤ n ∧ isFinal cfg (k + 1) (o (k + 1)) ∧ NotYet cfg o k := by
  have hex : ∃ k, k + 1 ≤ n ∧ isFinal cfg (k + 1) (o (k + 1)) := by
    by_contra hnone
    refine h ?_
    intro j hj hjn
    cases hfinal : isFinal cfg j (o j) with
    | false => rfl
    | true => exact absurd ⟨j - 1, by omega, by rwa [Nat.sub_add_cancel hj]⟩ hnone
  refine ⟨Nat.find hex, (Nat.find_spec hex).1, (Nat.find_spec hex).2, ?_⟩
  intro j hj hjk
  cases hfinal : isFinal cfg j (o j) with
  | false => rfl
  | true =>
    have hspec := (Nat.find_spec hex).1
    have hlt : j - 1 < Nat.find hex := by omega
    exact absurd ⟨by omega, by rwa [Nat.sub_add_cancel hj]⟩ (Nat.find_min hex hlt)

/-- A message of an endpoint, with a dead-letter queue that is enabled and reachable, is
acknowledged within the deliveries that are allowed and is never dropped, exactly if one of these
deliveries is final and the first one that is does not skip the side effects. -/
theorem acknowledged_in_time_iff (cfg : Settings) (host : Host) (icfg : Ingest.Settings)
    (text : PyText) (event : EventPayload) (ingestId : String) (o : Nat → Outcome)
    (hdlq : DlqEnabled cfg) (hreach : ∀ k, (o k).dlqReachable = true) :
    ((∃ n : Nat, (n : Int) ≤ cfg.ingestMaxDeliver
        ∧ (trace cfg host (endpointMessage icfg text event ingestId) o n).any Effect.isAck = true)
      ∧ ∀ n, NeverDropped (trace cfg host (endpointMessage icfg text event ingestId) o n))
    ↔ ∃ k : Nat, ((k + 1 : Nat) : Int) ≤ cfg.ingestMaxDeliver
        ∧ isFinal cfg (k + 1) (o (k + 1)) = true ∧ NotYet cfg o k
        ∧ isSkipped cfg (o (k + 1)) = false := by
  constructor
  · rintro ⟨⟨n, hn, hack⟩, hsafe⟩
    have hsome : ¬ NotYet cfg o n := by
      intro hnot
      rw [trace_of_notYet hdlq hreach hnot, any_isAck_nak] at hack
      exact Bool.false_ne_true hack
    obtain ⟨k, hkn, hfinal, hnot⟩ := exists_first_final hsome
    refine ⟨k, by omega, hfinal, hnot, ?_⟩
    -- a delivery that skips the side effects acknowledges with nothing before it
    cases hskip : isSkipped cfg (o (k + 1)) with
    | false => rfl
    | true =>
      have hsafe := hsafe (k + 1)
      rw [NeverDropped, trace_of_first hdlq hreach hnot, (onMessage_endpoint hdlq (hreach (k +
        1))).2.1 hfinal hskip, beforeAck_nak_append, any_append, any_append, any_keeps_nak] at hsafe
      simp [Effect.isAck, beforeAck] at hsafe
  · rintro ⟨k, hk, hfinal, hnot, hskip⟩
    have hkept : Kept (onMessage cfg host (endpointMessage icfg text event ingestId) _ _) :=
      (onMessage_endpoint hdlq (hreach (k + 1))).2.2 hfinal hskip
    have hack :
        (trace cfg host (endpointMessage icfg text event ingestId) o (k + 1)).any Effect.isAck
        = true := by
      rw [trace_of_first hdlq hreach hnot]
      exact any_isAck_of_kept k hkept
    refine ⟨⟨k + 1, hk, hack⟩, ?_⟩
    intro n hn
    rcases Nat.lt_or_ge n (k + 1) with hlt | hge
    · rw [trace_of_notYet hdlq hreach (fun j hj hjn => hnot j hj (by omega)), any_isAck_nak] at hn
      cases hn
    · rw [trace_of_le hack hge, trace_of_first hdlq hreach hnot]
      exact any_keeps_of_kept k hkept

end

/-! ## A decision service that is down -/

namespace Sample

def cfg : Settings :=
  ⟨"fraud.events", "fraud.dlq.evaluate", true, true, 5, "http://orchestrator:8000", "secret"⟩

def host : Host := ⟨fun s => s, fun _ => "0.0", fun s => s⟩

def icfg : Ingest.Settings := ⟨"fraud.events", "ingest:idemp", false⟩

def event : EventPayload := ⟨"acme", "payment", "e1", none, none, [], none, []⟩

def msg : Message := endpointMessage icfg host.text event "a0"

def unavailable : Outcome := ⟨some ⟨503, "", none⟩, some 200, true⟩

def accepted : Outcome := ⟨some ⟨200, "", none⟩, some 200, true⟩

theorem dlqEnabled : DlqEnabled cfg := by
  refine ⟨rfl, rfl, ?_, ?_⟩ <;> decide +kernel

end Sample

open Sample in
theorem recovered_service_acknowledged :
    (∃ n : Nat, (n : Int) ≤ cfg.ingestMaxDeliver ∧ (trace cfg host msg
        (fun k => if k = 1 then unavailable else accepted) n).any Effect.isAck = true)
      ∧ ∀ n, NeverDropped (trace cfg host msg
        (fun k => if k = 1 then unavailable else accepted) n) := by
  have hreach : ∀ k : Nat, (if k = 1 then unavailable else accepted).dlqReachable = true := by
    intro k
    split <;> rfl
  refine (acknowledged_in_time_iff cfg host icfg host.text event "a0" _ dlqEnabled hreach).mpr
    ⟨1, by decide, by decide +kernel, ?_, by decide +kernel⟩
  intro j hj hj1
  obtain rfl : j = 1 := by omega
  decide +kernel

open Sample in
/-- A decision service that is down at every delivery: the message is given back at the last
delivery that is allowed and at the next. Without an orchestrator a message is acknowledged with no
trace. -/
theorem unavailable_service_not_acknowledged :
    (trace cfg host msg (fun _ => unavailable) 5).map Effect.isAck = List.replicate 5 false
      ∧ (trace cfg host msg (fun _ => unavailable) 6).map Effect.isAck = List.replicate 6 false
      ∧ (trace { cfg with orchestratorUrl := "" } host msg (fun _ => accepted) 1).map
          (fun e => (e.isAck, e.keeps)) = [(true, false)] := by
  refine ⟨?_, ?_, ?_⟩ <;> decide +kernel

end Tarka.Ingest.Consumer
