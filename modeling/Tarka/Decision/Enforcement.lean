import Tarka.Json.Value
import Tarka.Lib.Dict
import Tarka.Lib.Hex
import Tarka.Lib.SharedLog

/-! # Enforcement deliveries

How a decision is handed to the platform that enforces it (`enforcement.py` of the decision
service). A delivery is a coroutine: it posts to the webhook of the tenant, up to three times, and
writes a row to a journal for every attempt. It is interrupted while it waits for the sink and
between attempts, so deliveries take turns (`step`), and all write to one journal, an append-only
file.

The journal is read back as *logical deliveries*, all rows of one action id taken together, and a
query shows those of one tenant and trace.

A row stands for the line with its JSON text, and the journal file can be written. The counters for
metrics, the signature and the JSON text of a POST are left out. -/

namespace Tarka.Decision.Enforcement

open Tarka.Lib Tarka.Json

/-- `str.lower` with the Unicode tables of CPython, and `hashlib.sha256`. -/
structure Host where
  lower : String → String
  sha256 : Bytes → Bytes

/-! ## Actions -/

inductive EnforcementAction where
  | allow
  | stepUp
  | block
  deriving DecidableEq

/-- What `enforcement_mode` can give. -/
inductive EnforcementMode where
  | emitOnly
  | handoff
  deriving DecidableEq

structure EnforcementIntent where
  action : EnforcementAction
  decision : String
  recommendedAction : Option String

def actionIdScheme : String := "tarka.action_id/v1"

def enforcementSchema : String := "tarka.enforcement/v1"

def enforcementJournalSchema : String := "tarka.enforcement_delivery/v1"

def stepUpActions : List String :=
  ["step_up_mfa", "step_up_attestation", "step_up_auth", "challenge", "step_up", "step-up",
    "step-up-mfa", "step-up-attestation"]

/-- `part in s`. -/
def contains (part s : String) : Bool := decide (part.toList <:+: s.toList)

def startsWith (front s : String) : Bool := decide (front.toList <+: s.toList)

section

variable (host : Host)

/-- `(s or "").strip().lower()`. -/
def normal (s : String) : String := host.lower (strip s)

def idempotentActionId (tenantId traceId action packHash : String) : String :=
  hexText (host.sha256 (utf8 ("\n".intercalate
    [actionIdScheme, strip tenantId, strip traceId, normal host action, strip packHash])))

def actionIdsFor (tokens : List String) (tenantId traceId packHash : String) :
    List (String × String) :=
  tokens.foldl (fun ids token =>
    Dict.set ids token (idempotentActionId host tenantId traceId token packHash)) []

/-- `_delivery_action_id`; a token that is not in the dictionary is a `KeyError`. -/
def deliveryActionId (tokens : List String) (ids : List (String × String))
    (tenantId traceId packHash : String) : Except String String :=
  match tokens with
  | token :: _ => (ids.lookup token).elim (.error token) .ok
  | [] => .ok (idempotentActionId host tenantId traceId "" packHash)

def isStepUpRecommended (recommendedAction : Option String) : Bool :=
  let recommended := String.ofList ((normal host (recommendedAction.getD "")).toList.map
    (fun c => if c = ' ' ∨ c = '-' then '_' else c))
  !recommended.isEmpty && (decide (recommended ∈ stepUpActions) || startsWith "step_up" recommended
    || startsWith "challenge" recommended)

def suggestedActions (decision : String) (recommendedAction : Option String) : List String :=
  let d := normal host decision
  let recommended := normal host (recommendedAction.getD "")
  (if d ∈ ["deny", "block"] then ["deny"] else [])
    ++ (if d = "review" then ["review"] else if d = "flag" then ["flag"] else [])
    ++ (if contains "payout" recommended || contains "hold" recommended then ["hold_payout"]
      else [])
    ++ (if contains "promo" recommended then ["deny_promo"] else [])
    ++ (if contains "courier" recommended then ["suspend_courier"] else [])
    ++ (if isStepUpRecommended host recommendedAction then ["step_up"] else [])

def resolveEnforcementAction (decision : String) (recommendedAction : Option String) :
    EnforcementAction :=
  if normal host decision = "deny" then .block
  else if isStepUpRecommended host recommendedAction then .stepUp
  else .allow

def resolveEnforcementIntent (decision : String) (recommendedAction : Option String) :
    EnforcementIntent where
  action := resolveEnforcementAction host decision recommendedAction
  decision := normal host decision
  recommendedAction := recommendedAction

end

/-! ## The journal -/

/-- The statuses of rows. -/
inductive Status where
  | skipped
  | retrying
  | acked
  | deadLettered
  | error
  | non2xx
  deriving DecidableEq

def Status.name : Status → String
  | .skipped => "skipped"
  | .retrying => "retrying"
  | .acked => "acked"
  | .deadLettered => "dead_lettered"
  | .error => "error"
  | .non2xx => "non_2xx"

/-- `base_journal`, but for the time. -/
structure JournalBase where
  schemaId : String
  traceId : String
  tenantId : String
  entityId : String
  enforcementAction : EnforcementAction
  decision : String
  recommendedAction : Option String
  enforcementMode : EnforcementMode
  webhookEvent : String
  actionId : String
  idempotencyKey : String

/-- A row of the journal. -/
structure Row extends JournalBase where
  ts : String
  status : Status
  reason : Option String := none
  attemptCount : Option Nat := none
  httpStatus : Option Int := none
  error : Option String := none
  lastError : Option String := none

/-! ## A delivery -/

/-- The arguments of `apply_enforcement_adapters`, with the settings it reads. -/
structure Call where
  traceId : String
  tenantId : String
  entityId : String
  eventType : String
  decision : String
  score : F64
  tags : List String
  recommendedAction : Option String
  challengeMetadata : Option (List (String × Value))
  packHash : String
  hookUrl : String
  mode : EnforcementMode

/-- The body of a POST. -/
structure Payload where
  schemaId : String
  enforcementAction : EnforcementAction
  traceId : String
  tenantId : String
  entityId : String
  eventType : String
  decision : String
  recommendedAction : Option String
  score : F64
  tags : List String
  challengeMetadata : List (String × Value)
  suggestedActions : List String
  actionId : String
  idempotencyKey : String
  actionIds : List (String × String)
  enforcementMode : EnforcementMode
  authority : Bool
  webhookEvent : String

/-- The entry of the summary about the webhook. -/
structure Webhook where
  dispatched : Bool
  ok : Bool
  statusCode : Option Int
  error : Option String

/-- What a delivery returns. -/
structure Summary where
  enforcementAction : EnforcementAction
  enforcementMode : EnforcementMode
  authority : Bool
  suggestedActions : List String
  actionId : String
  idempotencyKey : String
  actionIds : List (String × String)
  webhook : Option Webhook
  webhookEvent : String
  journal : Option Status

/-- `"decision.enforced" if mode == "handoff" else "decision.emitted"`. -/
def webhookEvent (mode : EnforcementMode) : String :=
  if mode = .handoff then "decision.enforced" else "decision.emitted"

/-- The variables of a delivery before it looks for a webhook. -/
structure Opening where
  intent : EnforcementIntent
  base : JournalBase
  summary : Summary

section

variable (host : Host) (call : Call)

/-- The start of `apply_enforcement_adapters`. -/
def opening : Except String Opening := do
  let intent := resolveEnforcementIntent host call.decision call.recommendedAction
  let hints := suggestedActions host call.decision call.recommendedAction
  let ids := actionIdsFor host hints call.tenantId call.traceId call.packHash
  let deliveryId ← deliveryActionId host hints ids call.tenantId call.traceId call.packHash
  return {
    intent := intent
    base := {
      schemaId := enforcementJournalSchema
      traceId := call.traceId
      tenantId := call.tenantId
      entityId := call.entityId
      enforcementAction := intent.action
      decision := intent.decision
      recommendedAction := intent.recommendedAction
      enforcementMode := call.mode
      webhookEvent := webhookEvent call.mode
      actionId := deliveryId
      idempotencyKey := deliveryId }
    summary := {
      enforcementAction := intent.action
      enforcementMode := call.mode
      authority := decide (call.mode = .handoff)
      suggestedActions := hints
      actionId := deliveryId
      idempotencyKey := deliveryId
      actionIds := ids
      webhook := none
      webhookEvent := webhookEvent call.mode
      journal := none } }

/-- `_build_payload`, which takes the hints from the intent. -/
def buildPayload (intent : EnforcementIntent) : Except String Payload := do
  let hints := suggestedActions host intent.decision intent.recommendedAction
  let ids := actionIdsFor host hints call.tenantId call.traceId call.packHash
  let deliveryId ← deliveryActionId host hints ids call.tenantId call.traceId call.packHash
  return {
    schemaId := enforcementSchema
    enforcementAction := intent.action
    traceId := call.traceId
    tenantId := call.tenantId
    entityId := call.entityId
    eventType := call.eventType
    decision := intent.decision
    recommendedAction := intent.recommendedAction
    score := call.score
    tags := call.tags
    challengeMetadata := call.challengeMetadata.getD []
    suggestedActions := hints
    actionId := deliveryId
    idempotencyKey := deliveryId
    actionIds := ids
    enforcementMode := call.mode
    authority := decide (call.mode = .handoff)
    webhookEvent := webhookEvent call.mode }

end

/-- `ENFORCEMENT_RETRY_ATTEMPTS`. -/
def retryAttempts : Nat := 3

/-- What becomes of a POST: a response, with its status code if it has one, or an exception, with
its text. -/
abbrev Reply := Except String (Option Int)

/-- `last_status` after an attempt. -/
def lastStatus : Reply → Option Int
  | .ok status => status
  | .error _ => none

/-- `last_error` after an attempt, if it is a text that is true. -/
def lastError : Reply → Option String
  | .ok _ => none
  | .error text => if text.isEmpty then none else some (String.ofList (text.toList.take 200))

/-- `ok` after an attempt. -/
def isOk : Reply → Bool
  | .ok (some status) => decide (200 ≤ status ∧ status < 300)
  | _ => false

def retryable (status : Option Int) (error : Option String) : Bool :=
  if error.isSome then true
  else status.elim true (fun code => decide (500 ≤ code ∨ code = 429))

section

variable (base : JournalBase) (attempt : Nat) (ts : String) (reply : Reply)

/-- `attempt_journal` with a status. -/
def attemptRow (status : Status) : Row :=
  { base with ts := ts, status := status, attemptCount := some attempt }

def retryingRow : Row :=
  if (lastError reply).isSome then
    { attemptRow base attempt ts .retrying with error := lastError reply }
  else { attemptRow base attempt ts .retrying with httpStatus := lastStatus reply }

def failedRow : Row :=
  if retryable (lastStatus reply) (lastError reply) then
    { attemptRow base attempt ts .deadLettered with
      lastError :=
        some ((lastError reply).getD ("http_" ++ (lastStatus reply).elim "None" toString))
      httpStatus := lastStatus reply }
  else if (lastError reply).isSome then
    { attemptRow base attempt ts .error with error := lastError reply }
  else { attemptRow base attempt ts .non2xx with httpStatus := lastStatus reply }

/-- What the loop does after an attempt. -/
inductive AfterPost where
  | finish (row : Row) (webhook : Webhook)
  | again (row : Row)

/-- The body of the loop, once the sink has replied. -/
def afterPost : AfterPost :=
  if isOk reply then
    .finish { attemptRow base attempt ts .acked with httpStatus := lastStatus reply }
      ⟨true, true, lastStatus reply, none⟩
  else if attempt < retryAttempts ∧ retryable (lastStatus reply) (lastError reply) then
    .again (retryingRow base attempt ts reply)
  else
    .finish (failedRow base attempt ts reply) ⟨true, false, lastStatus reply, lastError reply⟩

end

/-- Where a delivery stands. -/
inductive Phase where
  | fresh
  /-- The POST of an attempt that began at a time is under way. -/
  | posting (vars : Opening) (payload : Payload) (attempt : Nat) (ts : String)
  /-- In `_retry_wait` after an attempt. -/
  | waiting (vars : Opening) (payload : Payload) (attempt : Nat)
  | returned (summary : Summary)
  | raised (exception : String)

/-- A delivery, with the bodies it has posted. -/
structure Delivery where
  phase : Phase
  posts : List Payload

/-- What a delivery gets when it runs on: the text of the time, and the reply of the sink if it has
waited for it. -/
structure Resume where
  now : String
  reply : Reply

/-- The turns of `apply_enforcement_adapters`, each up to the next `await`, with the rows it appends
to the journal. -/
def step (host : Host) (call : Call) (d : Delivery) (r : Resume) : Delivery × List Row :=
  match d.phase with
  | .fresh =>
    match opening host call with
    | .error e => (⟨.raised e, d.posts⟩, [])
    | .ok vars =>
      if call.hookUrl.isEmpty then
        (⟨.returned { vars.summary with journal := some .skipped }, d.posts⟩,
          [{ vars.base with ts := r.now, status := .skipped, reason := some "webhook_unset" }])
      else
        match buildPayload host call vars.intent with
        | .error e => (⟨.raised e, d.posts⟩, [])
        | .ok payload => (⟨.posting vars payload 1 r.now, d.posts ++ [payload]⟩, [])
  | .posting vars payload attempt ts =>
    match afterPost vars.base attempt ts r.reply with
    | .finish row webhook =>
      (⟨.returned { vars.summary with webhook := some webhook, journal := some row.status },
        d.posts⟩, [row])
    | .again row => (⟨.waiting vars payload attempt, d.posts⟩, [row])
  | .waiting vars payload attempt =>
    if attempt + 1 ≤ retryAttempts then
      (⟨.posting vars payload (attempt + 1) r.now, d.posts ++ [payload]⟩, [])
    else (⟨.returned vars.summary, d.posts⟩, [])
  | .returned _ => (d, [])
  | .raised _ => (d, [])

/-- The deliveries and the journal after some turns, from an empty journal. -/
def run {ι : Type} [DecidableEq ι] (host : Host) (calls : ι → Call) (turns : List (ι × Resume)) :
    SharedLog.Shared ι Delivery Row :=
  SharedLog.run (fun i => step host (calls i)) ⟨fun _ => ⟨.fresh, []⟩, []⟩ turns

/-! ## Reading the journal -/

/-- A logical delivery. -/
structure Logical where
  actionId : String
  idempotencyKey : String
  attemptCount : Nat
  status : Status
  traceId : String
  tenantId : String
  lastError : Option String
  ts : String
  reason : Option String

/-- A row of a query. -/
structure QueryRow where
  traceId : String
  tenantId : String
  actionId : String
  attemptCount : Nat
  lastStatus : String
  lastError : Option String
  ackedAt : Option String

def attemptsOf (rows : List Row) : Nat :=
  rows.foldl (fun attempts row => max attempts (row.attemptCount.getD 1)) 1

/-- The rows under a key, taken together; the last one tells where the delivery stands. -/
def logicalOf (key : String) (rows : List Row) : Option Logical :=
  rows.getLast?.map (fun last => {
    actionId := key
    idempotencyKey := key
    attemptCount := attemptsOf rows
    status := last.status
    traceId := last.traceId
    tenantId := last.tenantId
    lastError := (last.lastError.filter (fun e => !e.isEmpty)).or last.error
    ts := last.ts
    reason := last.reason })

section

variable (host : Host) (journal : List Row)

def isUnder (key : String) (row : Row) : Bool :=
  normal host row.actionId == key || normal host row.idempotencyKey == key

def logicalEnforcementDelivery (actionId : String) : Option Logical :=
  let key := normal host actionId
  if key.isEmpty then none else logicalOf key (journal.filter (isUnder host key))

def mapJournalQueryStatus (status : Status) (reason : Option String) : String :=
  if status = .skipped ∨ normal host (reason.getD "") = "webhook_unset" then "not_configured"
  else if status = .acked then "emitted"
  else status.name

def queryId (row : Row) : String :=
  normal host (if row.actionId.isEmpty then row.idempotencyKey else row.actionId)

/-- The loop body of `_action_ids_for_query`. -/
def noteAction (tid ten wanted : String) (seen : List String) (row : Row) : List String :=
  if row.traceId ≠ tid then seen
  else if row.tenantId ≠ ten then seen
  else
    let aid := queryId host row
    if aid.isEmpty || (!wanted.isEmpty && aid != wanted) || decide (aid ∈ seen) then seen
    else seen ++ [aid]

def actionIdsForQuery (traceId tenantId : String) (actionId : Option String) : List String :=
  let tid := strip traceId
  let ten := strip tenantId
  let wanted := normal host (actionId.getD "")
  if tid.isEmpty || ten.isEmpty then [] else journal.foldl (noteAction host tid ten wanted) []

def logicalToQueryRow (logical : Logical) : QueryRow where
  traceId := logical.traceId
  tenantId := logical.tenantId
  actionId := logical.actionId
  attemptCount := logical.attemptCount
  lastStatus := mapJournalQueryStatus host logical.status
    (some (normal host (logical.reason.getD "")))
  lastError := (logical.lastError.filter (fun e => !e.isEmpty)).map strip
  ackedAt :=
    if logical.status = .acked then
      let ts := strip logical.ts
      if ts.isEmpty then none else some ts
    else none

/-- The row of a query for a logical delivery, if it is asked for. -/
def showLogical (tid ten wantStatus : String) (logical : Logical) : Option QueryRow :=
  if logical.tenantId ≠ ten then none
  else if logical.traceId ≠ tid then none
  else
    let row := logicalToQueryRow host logical
    if !wantStatus.isEmpty && row.lastStatus != wantStatus then none else some row

def queryEnforcementDeliveries (traceId tenantId : String) (actionId status : Option String) :
    List QueryRow :=
  let tid := strip traceId
  let ten := strip tenantId
  let wantStatus := normal host (status.getD "")
  if tid.isEmpty || ten.isEmpty then []
  else
    (actionIdsForQuery host journal tid ten actionId).filterMap (fun aid =>
      (logicalEnforcementDelivery host journal aid).bind (showLogical host tid ten wantStatus))

end

end Tarka.Decision.Enforcement
