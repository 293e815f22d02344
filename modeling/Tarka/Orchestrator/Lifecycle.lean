import Tarka.Json.Value
import Tarka.Lib.Hex

/-! # Status of lifecycle cases

The requests that move a lifecycle case from one status to another (`case_transition_api.py`). In
one transaction such a request writes an audit log, the status, a row of the case history, a label
if the case is resolved as fraud or as legitimate, and the tasks of the outbox, whose idempotency
keys are unique. Nothing of a request that fails is kept.

The ids of rows count up from 1. The entity of a case has an id, the ids of labels are drawn, and
the update of the graph after the transaction is left out. -/

namespace Tarka.Orchestrator

open Tarka.Lib Tarka.Json

/-! ## The state machine of a case -/

inductive CaseStatus where
  | opened
  | underReview
  | pendingAction
  | resolvedFraud
  | resolvedLegit
  | resolvedAuto
  deriving DecidableEq

namespace CaseStatus

def value : CaseStatus → String
  | opened => "OPEN"
  | underReview => "UNDER_REVIEW"
  | pendingAction => "PENDING_ACTION"
  | resolvedFraud => "RESOLVED_FRAUD"
  | resolvedLegit => "RESOLVED_LEGIT"
  | resolvedAuto => "RESOLVED_AUTO"

def all : List CaseStatus :=
  [opened, underReview, pendingAction, resolvedFraud, resolvedLegit, resolvedAuto]

/-- `CaseStatus(text)`; `none` is the `ValueError`. -/
def ofValue (text : String) : Option CaseStatus := all.find? (fun s => s.value == text)

/-- `_RESOLVED`, and `_TERMINAL_STATUSES`. -/
def isResolved : CaseStatus → Bool
  | resolvedFraud | resolvedLegit | resolvedAuto => true
  | _ => false

/-- `_REOPEN_TARGETS`. -/
def isReopenTarget (s : CaseStatus) : Bool := !s.isResolved

def forward : CaseStatus → List CaseStatus
  | opened => [underReview, pendingAction, resolvedFraud, resolvedLegit, resolvedAuto]
  | underReview => [opened, pendingAction, resolvedFraud, resolvedLegit, resolvedAuto]
  | pendingAction => [opened, underReview, resolvedFraud, resolvedLegit, resolvedAuto]
  | resolvedFraud => [resolvedLegit, resolvedAuto]
  | resolvedLegit => [resolvedFraud, resolvedAuto]
  | resolvedAuto => [resolvedFraud, resolvedLegit]

end CaseStatus

/-- `transition_status`; the error is the text of the `StateTransitionError`. -/
def transitionStatus (current new : CaseStatus) (reopenReason : Option String) :
    Except String CaseStatus :=
  if current = new then .ok new
  else if current.isResolved && new.isReopenTarget then
    if (reopenReason.elim true (fun reason => (strip reason).isEmpty)) then
      .error ("cannot transition from " ++ current.value ++ " to " ++ new.value
        ++ " without a non-empty reopen_reason")
    else .ok new
  else if current.isResolved && new.isResolved then .ok new
  else if new ∈ current.forward then .ok new
  else .error ("illegal transition: " ++ current.value ++ " -> " ++ new.value)

/-! ## Rows -/

/-- The text of a UUID. -/
structure UuidText where
  text : String
  length : text.toList.length = 36
  visible : ∀ c ∈ text.toList, 0x20 < c.toNat ∧ c.toNat < 0x7f
  deriving DecidableEq

/-- A row of `lifecycle_cases`. -/
structure CaseRow where
  caseId : String
  entityId : UuidText
  status : String
  deriving DecidableEq

/-- A row of `audit_logs`, by its payload. -/
structure AuditLog where
  caseId : String
  oldStatus : String
  newStatus : String
  lifecycleCaseId : String
  actorId : String
  justification : String
  agentNotes : Option String

/-- A row of `case_history`. -/
structure HistoryRow where
  id : Nat
  caseId : String
  auditLogId : Option Nat
  fromStatus : Option String
  toStatus : Option String
  reasonCode : Option String
  authTokenFingerprint : Option String

inductive GroundTruthClass where
  | fraud
  | legitimate
  deriving DecidableEq

def GroundTruthClass.value : GroundTruthClass → String
  | fraud => "FRAUD"
  | legitimate => "LEGITIMATE"

/-- A row of `normalized_labels`. -/
structure LabelRow where
  id : String
  sourceType : String
  sourceId : String
  entityId : String
  groundTruthClass : GroundTruthClass
  tags : List String

/-- A row of `tarka_outbox`, as it is created. -/
structure OutboxRow where
  eventType : String
  idempotencyKey : String
  payload : List (String × Value)

structure Db where
  cases : List CaseRow
  auditLogs : List AuditLog
  history : List HistoryRow
  labels : List LabelRow
  outbox : List OutboxRow

/-! ## Requests -/

/-- The arguments of `put_lifecycle_case_status`, and the id that is drawn for a label. -/
structure Request where
  caseId : String
  newStatusRaw : String
  reasonCode : String
  authToken : String
  agentNotes : Option String
  analystNotes : Option String
  drawnLabelId : UuidText
  /-- `max_length` of the body of the request. -/
  short : reasonCode.toList.length ≤ 128

inductive RequestError where
  | invalidCaseId
  | missingReasonCode
  | missingAuthToken
  | invalidStatus (text : String)
  | caseNotFound (caseId : String)
  | corruptCaseStatus (text : String)
  | illegalTransition (message : String)
  | missingEntityId
  /-- A `ValueError` of a helper. -/
  | invalidValue (message : String)
  /-- `TarkaDatabaseException`. -/
  | databaseTransactionFailed
  deriving DecidableEq

structure Response where
  caseId : String
  status : String
  historyRowId : Nat
  auditLogId : Nat
  deriving DecidableEq

/-- `hashlib.sha256`, and `uuid5` in the namespace of URLs. -/
structure Host where
  sha256 : Bytes → Digest
  uuid5 : String → String

/-! ## Helpers -/

def fingerprintAuthToken (host : Host) (raw : String) : String :=
  hexText (host.sha256 (utf8 raw)).val

def groundTruthClassForResolvedStatus : CaseStatus → Option GroundTruthClass
  | .resolvedFraud => some .fraud
  | .resolvedLegit => some .legitimate
  | _ => none

def caseHistorySourceId (host : Host) (caseHistoryId : Nat) : Except RequestError String :=
  if caseHistoryId < 1 then .error (.invalidValue "case_history_id must be a positive integer")
  else .ok (host.uuid5 ("tarka:case_history:" ++ toString caseHistoryId))

def normalizeEntityId (entityId : String) : Except RequestError String :=
  let token := strip entityId
  if token.isEmpty || decide (512 < token.toList.length) then
    .error (.invalidValue "entity_id must be a non-empty string up to 512 characters")
  else .ok token

/-- `_normalize_tags` without tags of the caller. -/
def normalizeTags (reasonCode resolvedStatus : String) : List String :=
  ["analyst_disposition", strip resolvedStatus]
    ++ if (strip reasonCode).isEmpty then [] else ["reason:" ++ strip reasonCode]

/-- `create_analyst_disposition`: the row of a label. -/
def createAnalystDisposition (host : Host) (drawnId : String) (caseHistoryId : Nat)
    (entityId : String) (groundTruthClass : GroundTruthClass) (reasonCode resolvedStatus : String) :
    Except RequestError LabelRow := do
  let sourceId ← caseHistorySourceId host caseHistoryId
  let entityId ← normalizeEntityId entityId
  return ⟨drawnId, "ANALYST_DISPOSITION", sourceId, entityId, groundTruthClass,
    normalizeTags reasonCode resolvedStatus⟩

/-- `OutboxDAO.create_task`, on the rows that are there: the key is unique. -/
def createTask (outbox : List OutboxRow) (eventType idempotencyKey : String)
    (payload : List (String × Value)) : Except RequestError (List OutboxRow) :=
  let key := strip idempotencyKey
  if key.isEmpty || decide (255 < key.toList.length) then
    .error (.invalidValue "idempotency_key must be a non-empty string up to 255 characters")
  else if outbox.any (fun row => row.idempotencyKey == key) then .error .databaseTransactionFailed
  else .ok (outbox ++ [⟨eventType, key, payload⟩])

def labelPropagateKey (labelId : String) : String := "label_propagate:" ++ labelId

def buildLabelPropagatePayload (label : LabelRow) (entityId dispositionText : String)
    (caseHistoryId auditLogId : Nat) : List (String × Value) :=
  [("schema", .string "tarka.label_propagate.v1"), ("normalized_label_id", .string label.id),
    ("entity_id", .string entityId), ("source_type", .string label.sourceType),
    ("source_id", .string label.sourceId),
    ("ground_truth_class", .string label.groundTruthClass.value),
    ("disposition_text", .string dispositionText),
    ("case_history_id", .number (.posInt (UInt64.ofNat caseHistoryId))),
    ("audit_log_id", .number (.posInt (UInt64.ofNat auditLogId)))]

def enqueueLabelPropagateTask (outbox : List OutboxRow) (label : LabelRow)
    (entityId dispositionText : String) (caseHistoryId auditLogId : Nat) :
    Except RequestError (List OutboxRow) :=
  createTask outbox "LABEL_PROPAGATE" (labelPropagateKey label.id)
    (buildLabelPropagatePayload label entityId dispositionText caseHistoryId auditLogId)

def shadowTagKey (caseId newStatus : String) : String :=
  "shadow_tag_case:" ++ caseId ++ ":" ++ newStatus

def shadowRetroCaseOutboxPayload (entityId caseId newStatus : String)
    (analystNotes : Option String) :
    List (String × Value) :=
  [("entity_id", .string entityId), ("case_id", .string caseId), ("new_status", .string newStatus)]
    ++ (analystNotes.elim [] (fun notes =>
      if (strip notes).isEmpty then [] else [("analyst_notes", .string (strip notes))]))

/-- `_enqueue_shadow_retro_tag_for_case_resolution`. -/
def enqueueShadowRetroTag (outbox : List OutboxRow) (caseId entityId newStatus : String)
    (analystNotes : Option String) : Except RequestError (List OutboxRow) :=
  createTask outbox "SHADOW_RETRO_TAG" (shadowTagKey caseId newStatus)
    (shadowRetroCaseOutboxPayload entityId caseId newStatus analystNotes)

/-! ## The transition -/

/-- A request after its checks. -/
structure Checked where
  caseId : String
  reasonCode : String
  token : String
  newStatus : CaseStatus
  deriving DecidableEq

def Request.check (r : Request) : Except RequestError Checked :=
  let cid := strip r.caseId
  if cid.isEmpty || decide (64 < cid.toList.length) || cid.toList.contains (Char.ofNat 0) then
    .error .invalidCaseId
  else if (strip r.reasonCode).isEmpty then .error .missingReasonCode
  else if (strip r.authToken).isEmpty then .error .missingAuthToken
  else
    match CaseStatus.ofValue (strip r.newStatusRaw) with
    | none => .error (.invalidStatus (strip r.newStatusRaw))
    | some status => .ok ⟨cid, strip r.reasonCode, strip r.authToken, status⟩

/-- `analyst_notes if analyst_notes is not None else agent_notes`. -/
def Request.notesForAudit (r : Request) : Option String := r.analystNotes.or r.agentNotes

section

variable (host : Host) (db : Db) (r : Request)

def historyRow (c : Checked) (row : CaseRow) (next : CaseStatus) : HistoryRow where
  id := db.history.length + 1
  caseId := c.caseId
  auditLogId := some (db.auditLogs.length + 1)
  fromStatus := some row.status
  toStatus := some next.value
  reasonCode := some c.reasonCode
  authTokenFingerprint := some (fingerprintAuthToken host c.token)

def auditLog (c : Checked) (row : CaseRow) (next : CaseStatus) : AuditLog where
  caseId := strip row.entityId.text
  oldStatus := row.status
  newStatus := next.value
  lifecycleCaseId := c.caseId
  actorId := fingerprintAuthToken host c.token
  justification := c.reasonCode
  agentNotes := r.notesForAudit

def labelled (c : Checked) (row : CaseRow) (next : CaseStatus) :
    Except RequestError (List LabelRow × List OutboxRow) :=
  match groundTruthClassForResolvedStatus next with
  | none => .ok (db.labels, db.outbox)
  | some groundTruth =>
    (createAnalystDisposition host r.drawnLabelId.text (db.history.length + 1) row.entityId.text
      groundTruth c.reasonCode next.value).bind (fun label =>
        (enqueueLabelPropagateTask db.outbox label row.entityId.text c.reasonCode
          (db.history.length + 1) (db.auditLogs.length + 1)).bind (fun outbox =>
            .ok (db.labels ++ [label], outbox)))

def tagged (c : Checked) (row : CaseRow) (next : CaseStatus) (outbox : List OutboxRow) :
    Except RequestError (List OutboxRow) :=
  if next.isResolved then
    enqueueShadowRetroTag outbox c.caseId row.entityId.text next.value r.notesForAudit
  else .ok outbox

def setStatus (cases : List CaseRow) (caseId : String) (next : CaseStatus) : List CaseRow :=
  cases.map (fun row => if row.caseId == caseId then { row with status := next.value } else row)

/-- What the transaction writes once the move is accepted. -/
def write (c : Checked) (row : CaseRow) (next : CaseStatus) : Except RequestError (Response × Db) :=
  -- the history has no two rows of one audit log
  if db.history.any (fun h => h.auditLogId == some (db.auditLogs.length + 1)) then
    .error .databaseTransactionFailed
  else
    (labelled host db r c row next).bind (fun written =>
      (tagged r c row next written.2).bind (fun outbox =>
        .ok (⟨c.caseId, next.value, db.history.length + 1, db.auditLogs.length + 1⟩,
          { cases := setStatus db.cases c.caseId next
            auditLogs := db.auditLogs ++ [auditLog host r c row next]
            history := db.history ++ [historyRow host db c row next]
            labels := written.1
            outbox := outbox })))

def transact (c : Checked) : Except RequestError (Response × Db) :=
  match db.cases.find? (fun row => row.caseId == c.caseId) with
  | none => .error (.caseNotFound c.caseId)
  | some row =>
    match CaseStatus.ofValue row.status with
    | none => .error (.corruptCaseStatus row.status)
    | some current =>
      match transitionStatus current c.newStatus (some c.reasonCode) with
      | .error message => .error (.illegalTransition message)
      | .ok next =>
        if (strip row.entityId.text).isEmpty then .error .missingEntityId
        else write host db r c row next

/-- `put_lifecycle_case_status`: the answer, and the database if the request is carried out. -/
def putLifecycleCaseStatus : Except RequestError (Response × Db) :=
  r.check.bind (transact host db r)

def after : Db := (putLifecycleCaseStatus host db r).toOption.elim db Prod.snd

end

def afterAll (host : Host) (db : Db) (rs : List Request) : Db := rs.foldl (after host) db

end Tarka.Orchestrator
