import Mathlib.Data.List.Dedup
import Tarka.Lib.Affix
import Tarka.Lib.Strip

/-! # Dispositions and the second actor

Some statuses of a case need two actors: one requests the status, and another approves it
(`disposition.py`). What is pending is kept in labels of the case, with a part for the status and
one for the actor. The requests that change the status or the labels of a case (`main.py`,
`template_apply.py`) are modelled as operations on these two fields; an operation that is refused
changes nothing. -/

namespace Tarka.Case

open Tarka.Lib

/-- `str.lower` and `str.upper`. -/
structure Cases where
  lower : String → String
  upper : String → String

/-! ## Reasons -/

def dispositionReasonCodes : List (String × String) :=
  [("CONFIRMED_FRAUD", "FRAUD"), ("ACCOUNT_TAKEOVER", "FRAUD"), ("FRIENDLY_FRAUD", "FRAUD"),
    ("SAR_FILED", "FRAUD"), ("FALSE_POSITIVE", "LEGITIMATE"), ("CUSTOMER_CLEARED", "LEGITIMATE"),
    ("INSUFFICIENT_EVIDENCE", "LEGITIMATE")]

/-- Why an operation is refused. -/
inductive Refusal where
  | unknownReason (token : String)
  | nothingPending
  | sameActor
  | claimed
  | noLeftover
  deriving DecidableEq

section

variable (str : Cases)

def parseMakerCheckerStatuses (raw : String) : List String :=
  let out := ((split ',' (strip raw)).filter (fun p => !(strip p).isEmpty)).map
    (fun p => str.lower (strip p))
  if out.isEmpty then ["resolved_fraud", "sar_filed"] else out

def normalizeReasonCode (raw : String) : Except Refusal String :=
  let token := str.upper (strip raw)
  if token.isEmpty then .ok ""
  else if (dispositionReasonCodes.lookup token).isSome then .ok token
  else .error (.unknownReason token)

def givenReason (reasonCode : Option String) : Option String :=
  reasonCode.bind (fun reason => if reason.isEmpty then none else some reason)

/-- `escalate_status_for_reason`. A blank reason has no class, which is a `KeyError`. -/
def escalateStatusForReason (status : String) (reasonCode : Option String) :
    Except Refusal String :=
  let st := str.lower (strip status)
  match givenReason reasonCode with
  | none => .ok st
  | some raw =>
    (normalizeReasonCode str raw).bind (fun reason =>
      match dispositionReasonCodes.lookup reason with
      | none => .error (.unknownReason reason)
      | some y =>
        .ok (if st ∈ ["resolved", "closed"] ∧ y = "FRAUD" then
            if reason = "SAR_FILED" then "sar_filed" else "resolved_fraud"
          else if st ∈ ["resolved", "closed"] ∧ y = "LEGITIMATE" then
            if st = "resolved" then "resolved_legit" else st
          else st))

end

/-! ## Labels -/

def mcPendingPrefix : String := "mc_pending:"

def mcRequesterPrefix : String := "mc_requester:"

def reasonLabelPrefix : String := "disposition:"

def isMcLabel (label : String) : Bool :=
  hasStart mcPendingPrefix label || hasStart mcRequesterPrefix label

def stripMcLabels (labels : List String) : List String := labels.filter (fun x => !isMcLabel x)

/-- `sorted(set(…))`. -/
def sortedSet (labels : List String) : List String := sortByCodePoints labels.dedup

def nonEmpty (s : String) : Option String := if s.isEmpty then none else some s

def pendingTargetStatus (str : Cases) (labels : List String) : Option String :=
  (labels.find? (hasStart mcPendingPrefix)).bind (fun s =>
    nonEmpty (str.lower (strip (afterStart mcPendingPrefix s))))

def pendingRequester (labels : List String) : Option String :=
  (labels.find? (hasStart mcRequesterPrefix)).bind (fun s =>
    nonEmpty (strip (afterStart mcRequesterPrefix s)))

/-! ## The second actor -/

structure MakerCheckerResult where
  statusApplied : Bool
  pending : Bool
  targetStatus : Option String
  requester : Option String
  labels : List String
  status : String
  detail : String

/-- `(actor or "").strip() or "anonymous"`. -/
def actorId (actor : String) : String := if (strip actor).isEmpty then "anonymous" else strip actor

section

variable (str : Cases)

def withReason (labels : List String) (reasonCode : Option String) : Except Refusal (List String) :=
  match givenReason reasonCode with
  | none => .ok labels
  | some raw =>
    (normalizeReasonCode str raw).bind (fun code =>
      .ok (labels.filter (fun x => !hasStart reasonLabelPrefix x) ++ [reasonLabelPrefix ++ code]))

def applyStatusWithMakerChecker (currentStatus : String) (labels : List String) (actor : String)
    (requestedStatus reasonCode : Option String) (approve : Bool) (makerStatuses : List String) :
    Except Refusal MakerCheckerResult :=
  if approve then
    match pendingTargetStatus str labels with
    | none => .error .nothingPending
    | some target =>
      if pendingRequester labels = some (actorId actor) then .error .sameActor
      else
        (withReason str (stripMcLabels labels) reasonCode).bind (fun clean =>
          .ok ⟨true, false, some target, pendingRequester labels, sortedSet clean, target,
            "approved"⟩)
  else
    match requestedStatus with
    | none =>
      .ok ⟨false, (pendingTargetStatus str labels).isSome, pendingTargetStatus str labels,
        pendingRequester labels, labels, currentStatus, "no_status_change"⟩
    | some requested =>
      (escalateStatusForReason str requested reasonCode).bind (fun target =>
        (withReason str (stripMcLabels labels) reasonCode).bind (fun clean =>
          if target ∈ makerStatuses then
            .ok ⟨false, true, some target, some (actorId actor),
              sortedSet (clean ++ [mcPendingPrefix ++ target, mcRequesterPrefix ++ actorId actor]),
              currentStatus, "pending_second_actor"⟩
          else
            .ok ⟨true, false, some target, none, sortedSet clean, target, "applied"⟩))

end

/-! ## Operations on a case -/

/-- The fields of a case that the rule is about. -/
structure CaseState where
  status : String
  labels : List String
  deriving DecidableEq

/-- A request for a case. -/
inductive Operation where
  /-- `update_case`, with the texts of the fields of its body. -/
  | patch (actor : String) (status reasonCode : Option String) (approve : Bool)
  /-- `bulk_update_cases`. -/
  | bulkUpdate (status : Option String) (addLabels : List String)
  /-- `apply_labels`. -/
  | addLabels (labels : List String)
  /-- `act_on_entity`; the claim of another actor stands in the way of a hold and of a release. -/
  | hold (claimedByOther : Bool)
  | release (claimedByOther : Bool)
  | resolve (reasonCode : String)
  /-- `apply_playbook`, by the configuration of the template. -/
  | applyTemplate (status : Option String) (labels : List String) (escalationTeam : Option String)

section

variable (str : Cases) (makerStatuses : List String)

/-- `apply_case_payload_to_case`. -/
def applyCasePayload (s : CaseState) (status : Option String) (labels : List String) :
    CaseState where
  status := (status.bind nonEmpty).getD s.status
  labels := sortedSet (s.labels ++ labels.filter (fun x => !(strip x).isEmpty))

/-- `_normalize_apply_config`: the labels of a template. -/
def templateLabels (labels : List String) (escalationTeam : Option String) : List String :=
  labels ++ ((escalationTeam.bind (fun team => nonEmpty (strip team))).map
    ("escalation_team:" ++ ·)).toList

/-- The query of `_open_case_for_entity`. -/
def isOpen (s : CaseState) : Bool := decide (str.lower s.status ∈ ["open", "investigating"])

/-- `is_leftover`, of a case with an entity. -/
def isLeftover (s : CaseState) : Bool :=
  decide (str.lower (strip s.status) ∈ ["open", "investigating"])
    && (s.labels.contains "act:hold" || s.labels.contains "origin:evaluate")

/-- The case as `update_case` leaves it. -/
def updateCase (s : CaseState) (actor : String) (status reasonCode : Option String)
    (approve : Bool) :
    Except Refusal CaseState :=
  let reasonCode := reasonCode.map strip
  if approve || status.isSome || (givenReason reasonCode).isSome then
    (applyStatusWithMakerChecker str s.status s.labels actor status reasonCode approve
      makerStatuses).bind (fun mc =>
        .ok ⟨if mc.statusApplied then mc.status else s.status, mc.labels⟩)
  else .ok s

def apply (s : CaseState) : Operation → Except Refusal CaseState
  | .patch actor status reasonCode approve =>
    updateCase str makerStatuses s actor status reasonCode approve
  | .bulkUpdate status addLabels => .ok (applyCasePayload s status addLabels)
  | .addLabels labels => .ok { s with labels := sortedSet (s.labels ++ labels) }
  | .hold claimedByOther =>
    if !isOpen str s then .error .noLeftover
    else if claimedByOther then .error .claimed
    else .ok (if "act:hold" ∈ s.labels then s else { s with labels := s.labels ++ ["act:hold"] })
  | .release claimedByOther =>
    if !isOpen str s || !isLeftover str s then .error .noLeftover
    else if claimedByOther then .error .claimed
    else .ok s
  | .resolve reasonCode =>
    if !isOpen str s || !isLeftover str s then .error .noLeftover
    else
      (normalizeReasonCode str reasonCode).bind (fun reason =>
        if reason.isEmpty then .error (.unknownReason "")
        else
          (escalateStatusForReason str "resolved" (some reason)).bind (fun status =>
            .ok { s with status := status }))
  | .applyTemplate status labels escalationTeam =>
    .ok (applyCasePayload s status (templateLabels labels escalationTeam))

def afterOperation (s : CaseState) (op : Operation) : CaseState :=
  (apply str makerStatuses s op).toOption.getD s

def afterOperations (s : CaseState) (ops : List Operation) : CaseState :=
  ops.foldl (afterOperation str makerStatuses) s

end

end Tarka.Case
