import Tarka.Json.Text
import Tarka.Lib.Affix
import Tarka.Lib.Dict
import Tarka.Lib.Hex

/-! # Rule packs and the calls that change them

A rule pack is a JSON file in the directory of the rules. The calls of `rule_api.py` read and write
these files; `load_rules` then takes them into memory, each as a live pack, as one in shadow mode
(*Observe*) or as a disabled one. A draft (`l2_draft.py`) is a pack with a lifecycle: it is open,
was abandoned or was promoted. A live pack is demoted by a proposal and its confirmation. A tick
(`shadow_auto_promote.py`) promotes what a model has written, parks drafts for rules that slip and
disables drafts that do not help.

Every file holds a JSON object and is named without blanks at its ends. What a call computes from
the audit trail, from its gates and from the checks of the rules is an argument of the operation; a
call that is refused because of the governance secret changes nothing and is left out, as is the
change log. -/

namespace Tarka.Decision.RulePacks

open Tarka.Lib Tarka.Json

/-- The texts of CPython, `str.lower`, SHA-256, and the settings that the calls read. -/
structure Host where
  text : PyText
  lower : String → String
  sha256 : Bytes → Digest
  /-- `RULE_FORCE_LIVE_TWO_PERSON`. -/
  twoPerson : Bool
  /-- `OPENAI_BASE_URL` or `SHADOW_LLM_BASE_URL`. -/
  llmUrl : String
  ruleChangeActor : String

/-- An answer other than a success. -/
structure HttpError where
  code : Nat
  detail : String
  deriving DecidableEq

/-! ## Texts -/

/-- `s or other`. -/
def orText (s other : String) : String := if s.isEmpty then other else s

/-! ## Packs -/

/-- The `dict` of a rule file. -/
abbrev Pack := List (String × Value)

abbrev Files := KeyMap Pack

def Pack.get (p : Pack) (key : String) : Value := (p.lookup key).getD .null

/-- `x is True`. -/
def isTrue : Value → Bool
  | .bool b => b
  | _ => false

/-- `x == text`. -/
def isText (text : String) : Value → Bool
  | .string s => s == text
  | _ => false

/-- `x == 1`. -/
def isOne : Value → Bool
  | .number (.posInt n) => n == 1
  | .number (.float x) => decide (x.val = F64.ofNat 1)
  | .bool b => b
  | _ => false

/-- `dict(x or {})`. It would also take a list of pairs, but the service writes `lifecycle` and
`evidence` as objects only. -/
def dictOr : Value → Except HttpError Pack
  | .object entries => .ok entries
  | v => if v.truthy then .error ⟨500, "Internal Server Error"⟩ else .ok []

/-- `x if isinstance(x, dict) else {}`. -/
def dictOrEmpty : Value → Pack
  | .object entries => entries
  | _ => []

def isDict : Value → Bool
  | .object _ => true
  | _ => false

inductive Mode where
  | active
  | shadow
  | disabled
  deriving DecidableEq

/-- `mode` of `load_rules`: whatever is not one of two texts is active. -/
def Pack.mode (p : Pack) : Mode :=
  let mode := (p.lookup "mode").getD (.string "active")
  if isText "disabled" mode then .disabled
  else if isText "shadow" mode then .shadow
  else .active

/-- How `load_rules` takes a pack; one of another version is skipped. -/
def Pack.loadedAs (p : Pack) : Option Mode :=
  if ((p.lookup "version").map isOne).getD true then some p.mode else none

def Pack.isLive (p : Pack) : Bool := decide (p.loadedAs = some .active)

/-- `pack.get("observe_locked") is True`. -/
def Pack.observeLocked (p : Pack) : Bool := isTrue (p.get "observe_locked")

section

variable (host : Host)

/-- `str(x or other)`. -/
def strOr (v : Value) (other : String) : String := if v.truthy then v.pyStr host.text else other

/-- `str(pack.get("mode") or "active")`. -/
def modeText (p : Pack) : String := strOr host (p.get "mode") "active"

/-- `mode in {"active", ""}`. -/
def saysLive (p : Pack) : Bool := modeText host p == "active" || modeText host p == ""

/-- `str(pack.get("name") or "")`. -/
def nameText (p : Pack) : String := strOr host (p.get "name") ""

/-- `str((pack.get("lifecycle") or {}).get("state") or other)`. -/
def stateText (p : Pack) (other : String) : String :=
  strOr host (Pack.get (dictOrEmpty (p.get "lifecycle")) "state") other

end

/-- `_CLOSED`. -/
def closedStates : List String := ["abandoned", "promoted"]

/-! ## The directory and what is loaded from it -/

structure State where
  files : Files
  /-- `get_shadow_packs()`, with the names of their files. -/
  loaded : List (String × Pack)

def shadowPacks (files : Files) : List (String × Pack) :=
  files.sortedEntries.filter (fun e => decide (e.2.loadedAs = some .shadow))

def loadRules (s : State) : State := { s with loaded := shadowPacks s.files }

/-- `fpath.write_text(json.dumps(pack))`, and `load_rules()`. -/
def save (s : State) (file : String) (p : Pack) : State :=
  loadRules { s with files := s.files.insert file p }

/-- `_SAFE_FILENAME_RE.fullmatch`. -/
def isSafeFilename (filename : String) : Bool :=
  let cs := filename.toList
  let stem := cs.take (cs.length - 5)
  decide (cs.drop (cs.length - 5) = ".json".toList) && decide (1 ≤ stem.length ∧ stem.length ≤ 120)
    && stem.all (fun c => c.isAlphanum || c == '_' || c == '-')

/-- The pack of `_existing_pack_path`. -/
def existingPack (s : State) (filename : String) : Except HttpError Pack :=
  if !isSafeFilename filename then .error ⟨400, "invalid filename"⟩
  else (s.files.get? filename).elim (.error ⟨404, "pack not found"⟩) .ok

/-! ## Actors -/

section

variable (host : Host)

def actorFromHeaders (xActor : Option String) : String :=
  let a := strip (orText (xActor.getD "") (orText host.ruleChangeActor "api"))
  orText (cut 256 a) "api"

def requireForceLiveHuman (xActor : Option String) : Except HttpError String :=
  let actor := strip (xActor.getD "")
  let low := host.lower actor
  if actor.isEmpty || hasStart "scout" low || hasPart "assist" low then
    .error ⟨403, "force_live_human_only"⟩
  else .ok (cut 256 actor)

def requireForceLiveApprover (actor : String) (xApprover : Option String) : Except HttpError Unit :=
  if !host.twoPerson then .ok ()
  else
    let approver := strip (xApprover.getD "")
    let low := host.lower approver
    if approver.isEmpty then .error ⟨403, "force_live_approver_required"⟩
    else if hasStart "scout" low || hasPart "assist" low then .error ⟨403, "force_live_human_only"⟩
    else if low == host.lower (strip actor) then .error ⟨403, "force_live_approver_must_differ"⟩
    else .ok ()

def demotePrefixes : List String :=
  ["scout", "byom", "llm", "vllm", "vertex", "openai", "anthropic"]

def isForbiddenDemoteActor (actor : String) : Bool :=
  let token := host.lower (strip actor)
  token.isEmpty || hasPart "assist" token || ["ai", "llm", "byom"].contains token
    || demotePrefixes.any (fun p => hasStart p token)

def requireDemoteHuman (xActor : Option String) : Except HttpError String :=
  let actor := strip (xActor.getD "")
  if isForbiddenDemoteActor host actor then .error ⟨403, "demote_human_only"⟩
  else .ok (cut 256 actor)

/-! ## Demotion -/

def requireDemoteAudit (actor reason : String) : Except HttpError (String × String) :=
  let who := strip actor
  let why := strip reason
  if who.isEmpty || why.isEmpty then .error ⟨400, "actor and reason"⟩
  else if isForbiddenDemoteActor host who then .error ⟨403, "demote_human_only"⟩
  else .ok (who, why)

def demoteBlob (p : Pack) : Pack :=
  dictOrEmpty (Pack.get (dictOrEmpty (p.get "lifecycle")) "demote")

/-- `str(blob.get("state") or "")` of the demotion. -/
def demoteState (p : Pack) : String := strOr host ((demoteBlob p).get "state") ""

def proposeDemote (p : Pack) (actor reason now : String) : Except HttpError Pack :=
  if !saysLive host p then .error ⟨409, "not_live"⟩
  else
    (requireDemoteAudit host actor reason).bind (fun (who, why) =>
      if demoteState host p = "proposed" then .error ⟨409, "demote_already_proposed"⟩
      else if demoteState host p = "confirmed" then .error ⟨409, "already_demoted"⟩
      else
        .ok (Dict.set p "lifecycle" (.object (Dict.set (dictOrEmpty (p.get "lifecycle")) "demote"
          (.object [("state", .string "proposed"), ("proposed_by", .string who),
            ("proposed_reason", .string why), ("proposed_at", .string now)])))))

def confirmDemote (p : Pack) (actor reason now : String) : Except HttpError Pack :=
  if !saysLive host p then .error ⟨409, "not_live"⟩
  else
    (requireDemoteAudit host actor reason).bind (fun (who, why) =>
      if demoteState host p ≠ "proposed" then .error ⟨409, "demote_propose_first"⟩
      else
        let blob := Dict.set (Dict.set (Dict.set (Dict.set (demoteBlob p)
          "state" (.string "confirmed")) "confirmed_by" (.string who))
          "confirmed_reason" (.string why)) "confirmed_at" (.string now)
        .ok (Dict.set (Dict.set p "lifecycle"
          (.object (Dict.set (dictOrEmpty (p.get "lifecycle")) "demote" (.object blob))))
          "mode" (.string "shadow")))

/-! ## Drafts -/

def sourceKey (leftoverId hilEventId : String) : String :=
  if (strip leftoverId).isEmpty then "hil:" ++ strip hilEventId else "leftover:" ++ strip leftoverId

/-- The key of a pack in `find_open_draft`. -/
def packKey (p : Pack) : Except HttpError String :=
  let key := strip (strOr host (p.get "source_key") "")
  if !key.isEmpty then .ok key
  else
    (dictOr (p.get "evidence")).bind (fun ev =>
      .ok (sourceKey (strOr host (Pack.get ev "leftover_id") "")
        (strOr host (Pack.get ev "hil_event_id") "")))

/-- The loop of `find_open_draft`. -/
def findOpen (want : String) : List Pack → Except HttpError (Option Pack)
  | [] => .ok none
  | p :: packs =>
    (packKey host p).bind (fun key =>
      (dictOr (p.get "lifecycle")).bind (fun life =>
        if key = want ∧ strOr host (Pack.get life "state") "observe" ∉ closedStates then
          .ok (some p)
        else findOpen want packs))

def findOpenDraft (packs : List Pack) (leftoverId hilEventId : String) :
    Except HttpError (Option Pack) :=
  let want := sourceKey leftoverId hilEventId
  if want.toList.getLast? = some ':' then .ok none else findOpen host want packs

def abandonDraft (p : Pack) (actor now : String) : Except HttpError Pack :=
  (dictOr (p.get "lifecycle")).bind (fun life =>
    if strOr host (Pack.get life "state") "" ∈ closedStates then
      .error ⟨409, "draft already closed"⟩
    else if (strip actor).isEmpty then .error ⟨400, "actor"⟩
    else
      .ok (Dict.set p "lifecycle" (.object (Dict.set (Dict.set (Dict.set life
        "state" (.string "abandoned")) "abandoned_at" (.string now))
        "abandoned_by" (.string (strip actor))))))

def markPromoted (p : Pack) (now : String) : Except HttpError Pack :=
  (dictOr (p.get "lifecycle")).bind (fun life =>
    .ok (Dict.set p "lifecycle" (.object (Dict.set (Dict.set life
      "state" (.string "promoted")) "promoted_at" (.string now)))))

def shadowDraft (s : State) (want : String) : Option (String × Pack) :=
  s.loaded.find? (fun e => nameText host e.2 == want)

/-- `ObserveLocked`. -/
def observeLockedError : HttpError := ⟨409, "observe_locked"⟩

/-- The pack as `activate_shadow_pack` writes it. -/
def activatedPack (p : Pack) (now : String) : Except HttpError Pack :=
  let live := Dict.set p "mode" (.string "active")
  if isDict (p.get "lifecycle") || (p.get "source_key").truthy then markPromoted live now
  else .ok live

def activateShadowPack (s : State) (draftId now : String) : Except HttpError State :=
  (shadowDraft host s (strip draftId)).elim (.error ⟨404, "no_shadow_draft"⟩) (fun found =>
    (s.files.get? found.1).elim (.error ⟨500, "Internal Server Error"⟩) (fun p =>
      if p.observeLocked then .error observeLockedError
      else (activatedPack p now).bind (fun p' => .ok (save s found.1 p'))))

def shadowPacksEligibleForAutoPromote (packs : List Pack) : List String :=
  packs.filterMap (fun p =>
    if !(p.get "is_ai_authored").truthy || p.observeLocked then none
    else if (strip (nameText host p)).isEmpty then none
    else some (strip (nameText host p)))

/-- The loop of `maybe_auto_promote_shadow`. A locked pack is passed over; every other failure ends
the tick, with what is done done. -/
def activateAll (now : String) : State → List String → State × Bool
  | s, [] => (s, true)
  | s, name :: names =>
    match activateShadowPack host s name now with
    | .ok s' => activateAll now s' names
    | .error e => if e = observeLockedError then activateAll now s names else (s, false)

/-! ## Ticks -/

inductive SlipKind where
  | retire
  | successor

def SlipKind.name : SlipKind → String
  | retire => "retire"
  | successor => "successor"

/-- A rule that slips, with the rule of its draft and the evidence for it. -/
structure Slip where
  kind : SlipKind
  ruleId : String
  rule : Value
  evidence : Pack

/-- The runs of characters that `_SAFE` matches, each as one underscore. -/
def sanitizeChars : Bool → List Char → List Char
  | _, [] => []
  | inRun, c :: cs =>
    if c.isAlphanum || c == '_' then c :: sanitizeChars false cs
    else if inRun then sanitizeChars true cs
    else '_' :: sanitizeChars true cs

def sanitizeRuleId (ruleId : String) : String :=
  orText (String.ofList ((sanitizeChars false (strip ruleId).toList).take 80)) "rule"

/-- `build_retire_pack` and `build_successor_pack`. -/
def slipPack (slip : Slip) : Pack :=
  [("version", .number (.posInt 1)),
    ("name", .string ("slip_" ++ slip.kind.name ++ "_" ++ sanitizeRuleId slip.ruleId)),
    ("mode", .string "shadow"), ("is_ai_authored", .bool false),
    ("authored_by", .string "slip_critic"), ("rules", .array [slip.rule]),
    ("evidence", .object ([("slip_kind", .string slip.kind.name),
      ("live_rule_id", .string slip.ruleId)] ++ slip.evidence))]

def slipFile (slip : Slip) : String :=
  "slip_" ++ slip.kind.name ++ "_" ++ sanitizeRuleId slip.ruleId ++ ".json"

/-- `write_slip_pack`, and `load_rules()`. -/
def writeSlipPack (s : State) (slip : Slip) : State :=
  if (s.files.get? (slipFile slip)).isSome then loadRules s
  else save s (slipFile slip) (slipPack slip)

/-- A pack that `disable_ai_shadow_packs` disables. -/
def isKillable (p : Pack) : Bool :=
  isText "shadow" (p.get "mode") && isTrue (p.get "is_ai_authored")
    && !(strOr host (p.get "authored_by") "" == "slip_critic")

/-- The file of a pack in shadow mode, after `disable_ai_shadow_packs` has seen it. -/
def killOne (files : Files) (e : String × Pack) : Files :=
  if isKillable host e.2 then
    (files.get? e.1).elim files (fun p =>
      if isKillable host p then files.insert e.1 (Dict.set p "mode" (.string "disabled"))
      else files)
  else files

def disableAiShadowPacks (s : State) : State :=
  loadRules { s with files := s.loaded.foldl (killOne host) s.files }

/-- What a tick finds: whether promotion is provisioned and its gates are green, the rules that
slip, and whether the drafts of a model are to be disabled. -/
structure Tick where
  provisioned : Bool
  promoteAllowed : Bool
  slips : List Slip
  shouldKill : Bool
  now : String

def maybeAutoPromoteShadow (s : State) (tick : Tick) : State × Bool :=
  if !tick.provisioned || !tick.promoteAllowed then (s, true)
  else activateAll host tick.now s (shadowPacksEligibleForAutoPromote host (s.loaded.map Prod.snd))

/-- `maybe_auto_promote_shadow`, `maybe_park_live_rule_slip` and
`maybe_kill_leftover_fp_shadows`. -/
def runTick (s : State) (tick : Tick) : State :=
  let (s, done) := maybeAutoPromoteShadow host s tick
  if !done then s
  else
    let s := tick.slips.foldl writeSlipPack s
    if tick.shouldKill then disableAiShadowPacks host s else s

/-! ## Bodies -/

/-- `RulePackIn`, with the dictionaries of its rules. -/
structure RulePackIn where
  name : String
  rules : List Value
  tagRules : List Value
  canaryPercent : Value
  effectiveAt : Value
  approvedBy : Value

/-- The pack of `create_rule_pack` and `update_rule_pack`. -/
def rulePack (body : RulePackIn) : Pack :=
  [("version", .number (.posInt 1)), ("name", .string body.name), ("mode", .string "shadow"),
    ("rules", .array body.rules), ("tag_rules", .array body.tagRules),
    ("canary_percent", body.canaryPercent), ("effective_at", body.effectiveAt),
    ("approved_by", body.approvedBy)]

/-- `s.lower().replace(" ", "_")`, without the blanks at the ends. -/
def nameToken (s : String) : String :=
  String.ofList ((host.lower (strip s)).toList.map (fun c => if c = ' ' then '_' else c))

def slugifyPackName (name : String) : Except HttpError String :=
  let kept := (nameToken host name).toList.filter
    (fun c => c.isLower || c.isDigit || c == '_' || c == '-')
  let isEnd := fun c => c == '.' || c == '_' || c == '-'
  let slug := (kept.dropWhile isEnd).rdropWhile isEnd
  if slug.isEmpty then .error ⟨400, "invalid pack name"⟩ else .ok (String.ofList (slug.take 80))

structure L2DraftIn where
  leftoverId : String
  hilEventId : String
  overrideWhy : String
  authoredBy : String
  isAiAuthored : Bool
  skipBacktest : Bool
  skipReason : String
  rules : List Value

/-- The audit record of a draft. -/
structure Receipt where
  tenantId : String
  entityId : String
  userId : String
  traceId : String

/-- `_HUMAN`. -/
def humanKinds : List String := ["human", "seed", ""]

def aiMarkers : List String :=
  ["scout", "vllm", "vertex", "ai", "llm", "byom", "assist", "openai", "anthropic"]

def authoredByKind (authoredBy : String) (isAiAuthored : Bool) : String × Bool :=
  let token := host.lower (strip authoredBy)
  if (strip host.llmUrl).isEmpty then (if humanKinds.contains token then token else "human", false)
  else if isAiAuthored || aiMarkers.contains token then (orText token "scout", true)
  else if humanKinds.contains token then (token, false)
  else ("human", false)

def computePackHash (p : Pack) : String :=
  hexText (host.sha256 (utf8 (String.ofList (pyDumpsSorted host.text
    (.object [("name", p.get "name"), ("mode", p.get "mode"), ("rules", p.get "rules")]))))).val

def seedRule (entity : String) : Value :=
  .object [("id", .string "leftover_observe"),
    ("when", .array [.object [("field", .string "entity_id"), ("op", .string "eq"),
      ("value", .string entity)]]),
    ("tags", .array []), ("score_delta", .number (.posInt 5)),
    ("description", .string "leftover/override seed; not model-authored")]

/-- The pack of `build_l2_draft`, without its hash and its lifecycle. -/
def l2Fields (receipt : Receipt) (body : L2DraftIn) : Pack :=
  let leftover := strip body.leftoverId
  let hil := strip body.hilEventId
  let entity := orText (strip receipt.entityId) (strip receipt.userId)
  let author := authoredByKind host body.authoredBy body.isAiAuthored
  [("version", .number (.posInt 1)), ("name", .string (cut 80 ("l2_" ++ orText leftover hil))),
    ("mode", .string "shadow"),
    ("rules", .array (if body.rules.isEmpty then [seedRule entity] else body.rules)),
    ("tag_rules", .array []), ("authored_by", .string author.1), ("is_ai_authored", .bool author.2),
    ("tenant_id", .string (strip receipt.tenantId)),
    ("evidence", .object [("leftover_id", .string leftover), ("hil_event_id", .string hil),
      ("trace_id", .string (strip receipt.traceId)),
      ("override_why", .string (strip body.overrideWhy)),
      ("source", .string (if leftover.isEmpty then "hil_override" else "leftover")),
      ("intent", .string "")]),
    ("schema_version", .number (.posInt 1)),
    ("source_key", .string (sourceKey body.leftoverId body.hilEventId))]

def l2Lifecycle (receipt : Receipt) (body : L2DraftIn) (actor now : String) : Pack :=
  let ai := (authoredByKind host body.authoredBy body.isAiAuthored).2
  let skipped := !ai && body.skipBacktest
  [("state", .string "observe"),
    ("gate", .string (if skipped then "backtest_skipped_human" else "backtest_passed")),
    ("backtest_artifact_id", .string (if ai then "replay:" ++ receipt.traceId else "")),
    ("created_at", .string now), ("observe_entered_at", .string now),
    ("skip", if skipped then .object [("actor", .string (strip actor)),
      ("reason", .string (strip body.skipReason)), ("at", .string now)] else .null)]

/-- The pack of `build_l2_draft`. -/
def l2Pack (receipt : Receipt) (body : L2DraftIn) (actor now : String) : Pack :=
  l2Fields host receipt body
    ++ [("pack_hash", .string (computePackHash host (l2Fields host receipt body))),
      ("lifecycle", .object (l2Lifecycle host receipt body actor now))]

/-- `build_l2_draft`, with the outcome of the replay and of the checks of the rules. -/
def buildL2Draft (receipt : Receipt) (body : L2DraftIn) (actor now : String)
    (backtestOk valid : Bool) : Except HttpError Pack :=
  let ai := (authoredByKind host body.authoredBy body.isAiAuthored).2
  if (strip body.leftoverId).isEmpty && (strip body.hilEventId).isEmpty then
    .error ⟨400, "leftover_id or hil_event_id"⟩
  else if (strip receipt.tenantId).isEmpty
      || (orText (strip receipt.entityId) (strip receipt.userId)).isEmpty then
    .error ⟨404, "receipt tenant_id/entity_id"⟩
  else if ai && (body.skipBacktest || !backtestOk) then .error ⟨409, "AI draft needs replay pass"⟩
  else if body.skipBacktest && !ai
      && ((strip actor).isEmpty || (strip body.skipReason).isEmpty) then
    .error ⟨400, "actor and skip_reason"⟩
  else if !(strip body.leftoverId).isEmpty && decide ((strip body.overrideWhy).length < 8) then
    .error ⟨400, "override_why must be at least 8 characters"⟩
  else if !valid then .error ⟨422, "schema_invalid"⟩
  else .ok (l2Pack host receipt body actor now)

/-- What the checks leave of a `ScoutPackIn`. -/
structure ScoutPackIn where
  name : String
  rules : List Value
  tagRules : List Value
  authoredBy : String
  isAiAuthored : Bool
  scoutReportId : String
  tenantId : String
  evidence : Pack

/-- The pack of `create_scout_pack`. -/
def scoutPack (body : ScoutPackIn) : Pack :=
  let authoredBy := orText (strip body.authoredBy) "scout_coordinated_burst"
  [("version", .number (.posInt 1)), ("name", .string body.name), ("mode", .string "shadow"),
    ("rules", .array body.rules), ("tag_rules", .array body.tagRules), ("canary_percent", .null),
    ("effective_at", .null), ("approved_by", .null),
    ("authored_by", .string
      (if authoredBy = "slip_critic" then "scout_coordinated_burst" else authoredBy)),
    ("is_ai_authored", .bool body.isAiAuthored), ("scout_report_id", .string body.scoutReportId),
    ("evidence", .object body.evidence), ("tenant_id", .string (strip body.tenantId))]

/-- An entry of the catalogue of vertical packs. -/
structure VerticalPack where
  id : String
  name : String
  velocityPresets : Value
  rules : List Value
  tagRules : List Value
  killCriteria : Value
  posture : Value

/-- The pack of `_install_vertical_pack_core`. -/
def verticalPack (v : VerticalPack) (verticalId : String) : Pack :=
  [("id", .string v.id), ("name", .string v.name), ("version", .number (.posInt 1)),
    ("velocity_presets", v.velocityPresets), ("rules", .array v.rules),
    ("tag_rules", .array v.tagRules), ("kill_criteria", v.killCriteria), ("posture", v.posture),
    ("__vertical_id", .string verticalId)]

/-! ## Calls -/

/-- A call, with the name that is drawn for a new file and with what its checks have found. -/
inductive Operation where
  | createRulePack (file : String) (body : RulePackIn) (valid : Bool)
  | updateRulePack (filename : String) (body : RulePackIn) (valid : Bool)
  | deleteRulePack (filename : String)
  | addRule (filename : String) (rule : Value) (valid : Bool)
  | removeRule (filename ruleId : String)
  | setPackMode (filename mode : String) (xActor : Option String)
  | promoteShadowPack (draftId : String) (promoteAllowed : Bool) (now : String)
  | autoPromoteTick (tick : Tick)
  | forceLivePack (filename reason : String) (xActor xApprover : Option String)
  | proposeDemotePack (filename reason : String) (xActor : Option String) (now : String)
  | confirmDemotePack (filename reason : String) (xActor : Option String) (now : String)
  | createL2Draft (file : String) (receipt : Option Receipt) (tenantId : Option String)
      (body : L2DraftIn) (xActor : Option String) (backtestOk valid : Bool) (now : String)
  | abandonL2Draft (draftName : String) (xActor : Option String) (now : String)
  | createScoutPack (file : String) (body : ScoutPackIn) (accepted : Bool) (tick : Tick)
  | installVerticalPack (file verticalName : String) (pack : Option VerticalPack) (overwrite : Bool)
      (promoteAllowed : Bool)

/-- The bounds of a `ForceLiveBody`. -/
def checkReason (reason : String) : Except HttpError Unit :=
  if 8 ≤ reason.length ∧ reason.length ≤ 2000 then .ok () else .error ⟨422, "reason"⟩

/-- `pack.setdefault("rules", []).append(rule)`. -/
def appendRule (p : Pack) (rule : Value) : Except HttpError Pack :=
  match p.lookup "rules" with
  | none => .ok (Dict.set p "rules" (.array [rule]))
  | some (.array rules) => .ok (Dict.set p "rules" (.array (rules ++ [rule])))
  | some _ => .error ⟨500, "Internal Server Error"⟩

def withoutRule (p : Pack) (ruleId : String) : Except HttpError Pack :=
  match (p.lookup "rules").getD (.array []) with
  | .array rules =>
    if rules.any (fun r => !isDict r) then .error ⟨500, "Internal Server Error"⟩
    else
      let kept := rules.filter (fun r => !isText ruleId (Pack.get (dictOrEmpty r) "id"))
      if kept.length = rules.length then .error ⟨404, "rule '" ++ ruleId ++ "' not found"⟩
      else .ok (Dict.set p "rules" (.array kept))
  | _ => .error ⟨500, "Internal Server Error"⟩

def readAllPacks (s : State) : List (String × Pack) := s.files.sortedEntries

/-- The pack that `abandon_l2_draft` finds by a name. -/
def namedDraft (s : State) (want : String) : Option (String × Pack) :=
  (readAllPacks s).find? (fun e => nameText host e.2 == want)

def createRulePack (s : State) (file : String) (body : RulePackIn) (valid : Bool) :
    Except HttpError State :=
  (slugifyPackName host body.name).bind (fun slug =>
    if s.files.entries.any (fun e =>
        nameToken host ((e.2.lookup "name").elim "" (Value.pyStr host.text)) == slug) then
      .error ⟨409, "pack name '" ++ body.name ++ "' already exists"⟩
    else if !valid then .error ⟨422, "validation_errors"⟩
    else .ok (save s file (rulePack body)))

def setPackMode (s : State) (filename mode : String) (xActor : Option String) :
    Except HttpError State :=
  (existingPack s filename).bind (fun p =>
    if mode ∉ ["active", "shadow", "disabled"] then
      .error ⟨400, "mode must be 'active', 'shadow', or 'disabled'"⟩
    else if mode = "shadow" ∧ saysLive host p then
      (requireDemoteHuman host xActor).bind (fun _ => .error ⟨409, "demote_propose_first"⟩)
    else
      (if mode = "active" then requireForceLiveHuman host xActor
        else .ok (actorFromHeaders host xActor)).bind (fun _ =>
          .ok (save s filename (Dict.set p "mode" (.string mode)))))

def forceLivePack (s : State) (filename reason : String) (xActor xApprover : Option String) :
    Except HttpError State :=
  (checkReason reason).bind (fun _ =>
    (requireForceLiveHuman host xActor).bind (fun actor =>
      (requireForceLiveApprover host actor xApprover).bind (fun _ =>
        (existingPack s filename).bind (fun p =>
          if p.observeLocked then .error observeLockedError
          else .ok (save s filename (Dict.set p "mode" (.string "active")))))))

/-- `propose_demote_pack`. What is loaded stays as it is. -/
def proposeDemotePack (s : State) (filename reason : String) (xActor : Option String)
    (now : String) :
    Except HttpError State :=
  (checkReason reason).bind (fun _ =>
    (requireDemoteHuman host xActor).bind (fun actor =>
      (existingPack s filename).bind (fun p =>
        (proposeDemote host p actor reason now).bind (fun p' =>
          .ok { s with files := s.files.insert filename p' }))))

def confirmDemotePack (s : State) (filename reason : String) (xActor : Option String)
    (now : String) :
    Except HttpError State :=
  (checkReason reason).bind (fun _ =>
    (requireDemoteHuman host xActor).bind (fun actor =>
      (existingPack s filename).bind (fun p =>
        (confirmDemote host p actor reason now).bind (fun p' => .ok (save s filename p')))))

def createL2Draft (s : State) (file : String) (receipt : Option Receipt) (tenantId : Option String)
    (body : L2DraftIn) (xActor : Option String) (backtestOk valid : Bool) (now : String) :
    Except HttpError State :=
  receipt.elim (.error ⟨404, "receipt"⟩) (fun receipt =>
    if !(tenantId.getD "").isEmpty && strip (tenantId.getD "") != strip receipt.tenantId then
      .error ⟨403, "receipt tenant"⟩
    else
      (findOpenDraft host ((readAllPacks s).map Prod.snd) body.leftoverId body.hilEventId).bind
        (fun hit =>
          if hit.isSome then .error ⟨409, "draft_exists"⟩
          else
            (buildL2Draft host receipt body (actorFromHeaders host xActor) now
              backtestOk valid).bind
              (fun p => .ok (save s file p))))

def abandonL2Draft (s : State) (draftName : String) (xActor : Option String) (now : String) :
    Except HttpError State :=
  (namedDraft host s (strip draftName)).elim (.error ⟨404, strip draftName⟩) (fun found =>
    (abandonDraft host found.2 (actorFromHeaders host xActor) now).bind (fun p =>
      .ok (save s found.1 (Dict.erase p "_file"))))

/-- `_install_vertical_pack_core`, behind its gates. -/
def installVerticalPack (s : State) (file verticalName : String) (pack : Option VerticalPack)
    (overwrite promoteAllowed : Bool) : Except HttpError State :=
  pack.elim (.error ⟨404, "unknown vertical pack '" ++ verticalName ++ "'"⟩) (fun v =>
    if !promoteAllowed then .error ⟨409, "blockers"⟩
    else
      (slugifyPackName host verticalName).bind (fun verticalId =>
        match s.files.entries.find? (fun e =>
            (e.2.lookup "__vertical_id").elim "" (Value.pyStr host.text) == verticalId) with
        | some found =>
          if !overwrite then
            .error ⟨409, "pack '" ++ found.1 ++ "' already exists; pass overwrite=true to replace"⟩
          else .ok (save s found.1 (verticalPack v verticalId))
        | none => .ok (save s file (verticalPack v verticalId))))

def apply (s : State) : Operation → Except HttpError State
  | .createRulePack file body valid => createRulePack host s file body valid
  | .updateRulePack filename body valid =>
    (existingPack s filename).bind (fun _ =>
      if !valid then .error ⟨422, "validation_errors"⟩ else .ok (save s filename (rulePack body)))
  | .deleteRulePack filename =>
    (existingPack s filename).bind (fun _ =>
      .ok (loadRules { s with files := s.files.erase filename }))
  | .addRule filename rule valid =>
    (existingPack s filename).bind (fun p =>
      if !valid then .error ⟨422, "validation_errors"⟩
      else (appendRule p rule).bind (fun p' =>
        .ok (save s filename (Dict.set p' "mode" (.string "shadow")))))
  | .removeRule filename ruleId =>
    (existingPack s filename).bind (fun p =>
      (withoutRule p ruleId).bind (fun p' => .ok (save s filename p')))
  | .setPackMode filename mode xActor => setPackMode host s filename mode xActor
  | .promoteShadowPack draftId promoteAllowed now =>
    (shadowDraft host s (strip draftId)).elim (.error ⟨404, "no_shadow_draft"⟩) (fun _ =>
      if !promoteAllowed then .error ⟨409, "promote_blocked"⟩
      else activateShadowPack host s (strip draftId) now)
  | .autoPromoteTick tick => .ok (runTick host s tick)
  | .forceLivePack filename reason xActor xApprover =>
    forceLivePack host s filename reason xActor xApprover
  | .proposeDemotePack filename reason xActor now =>
    proposeDemotePack host s filename reason xActor now
  | .confirmDemotePack filename reason xActor now =>
    confirmDemotePack host s filename reason xActor now
  | .createL2Draft file receipt tenantId body xActor backtestOk valid now =>
    createL2Draft host s file receipt tenantId body xActor backtestOk valid now
  | .abandonL2Draft draftName xActor now => abandonL2Draft host s draftName xActor now
  | .createScoutPack file body accepted tick =>
    if (strip body.tenantId).isEmpty then .error ⟨409, "leftover_helpfulness_no_tenant"⟩
    else if !accepted then .error ⟨409, "leftover_helpfulness_refused"⟩
    else .ok (runTick host (save s file (scoutPack body)) tick)
  | .installVerticalPack file verticalName pack overwrite promoteAllowed =>
    installVerticalPack host s file verticalName pack overwrite promoteAllowed

/-- The state after a call; one that is refused changes nothing. -/
def after (s : State) (op : Operation) : State := (apply host s op).toOption.getD s

def afterAll (s : State) (ops : List Operation) : State := ops.foldl (after host) s

end

end Tarka.Decision.RulePacks
