import Tarka.Lib.Dict
import Tarka.Rules.Ast

/-! # Graph atoms in Python

What rules may ask of the graph around an entity (`graph_pack_atoms.py`, over `graph_contract.py`):
whether it has an edge of a type, whether other users share its identifiers, and whether one of them
was flagged before. The answers are computed from a *hop view*, which is taken from the reply of the
graph service at the time of the decision, stored with it, and read back for a replay.

A hop view that is read back may be any document. Where Python iterates over a value that is no
collection it raises a `TypeError`; the evaluation is then `none`. The order in which Python
iterates over a set is left open; the model takes the order of the list the set is made from. -/

namespace Tarka.Graph

open Tarka.Lib Tarka.Json
open Tarka.Rules (isArray isString)
open Tarka.Rules.Py (safeToken)

/-- The texts and the Unicode tables of CPython. -/
structure Host where
  py : PyText
  upper : String → String
  lower : String → String

def asciiHost : Host where
  py := ⟨fun _ => "0.0", fun s => "'" ++ s ++ "'"⟩
  upper := fun s => String.ofList (s.toList.map Char.toUpper)
  lower := asciiLower

/-- `_tenant_etypes` and `_tenant_roles`: what tenants have registered. -/
structure Registry where
  etypes : String → List String
  roles : String → List String

def openRegistry : Registry := ⟨fun _ => [], fun _ => []⟩

/-- A `dict` of a document. -/
abbrev Entries := List (String × Value)

/-- `isinstance(v, dict)`. -/
def isObject : Value → Option Entries
  | .object es => some es
  | _ => none

/-! ## Names -/

def coreEtypes : List String :=
  ["USED", "SEEN_AT", "PARTY_WITH", "OWNS", "REFERRED", "KYC_VERIFIED_BY", "USED_DEVICE",
    "USED_SESSION", "USED_IP", "MADE_PAYMENT", "PERFORMED_LOGIN"]

def packHopEtypes : List String :=
  ["USES_DEVICE", "HAS_EMAIL", "HAS_PHONE", "HAS_CARD", "HAS_LIST", "SEEN_FROM_IP", "SEEN_AT",
    "PAYS_WITH", "REDEEMS", "ON_ORDER", "PARTY_WITH"]

def etypeWriteToPack : List (String × String) :=
  [("USED_DEVICE", "USES_DEVICE"), ("USED", "USES_DEVICE"), ("USED_IP", "SEEN_FROM_IP"),
    ("MADE_PAYMENT", "PAYS_WITH")]

/-- `_MISSING`. -/
def missingStatuses : List String := ["graph:missing", "graph:unavailable", "graph:empty"]

def positiveFlags : List String := ["1", "true", "flag", "flagged", "fraud", "block", "blocked"]

def schemaId : String := "tarka.graph_pack_atoms/v1"

def hopFeatureKey : String := "_graph_hop_v1"

def roleSafe (s : String) : Bool :=
  match s.toList with
  | [] => false
  | c :: cs => c.isAlpha && decide (cs.length ≤ 63)
      && cs.all (fun c => c.isAlphanum || c == '_' || c == '-')

section

variable (host : Host)

/-- `str(a or b or …)`, with an empty text at the end. -/
def orText (vs : List (Option Value)) : String :=
  ((vs.filterMap id).find? Value.truthy).elim "" (Value.pyStr host.py)

theorem orText_string {s : String} (h : s.isEmpty = false) (vs : List (Option Value)) :
    orText host (some (.string s) :: vs) = s := by
  simp [orText, Value.truthy, h, Value.pyStr]

/-- `str(given or a or b or …)`. -/
def orGiven (given : String) (vs : List (Option Value)) : String :=
  if given.isEmpty then orText host vs else given

def normEtype (raw : String) : String :=
  String.ofList ((host.upper (strip raw)).toList.map (fun c =>
    if c = ' ' ∨ c = '-' then '_' else c))

def canonicalPackEtype (raw : String) : String :=
  (etypeWriteToPack.lookup (normEtype host raw)).getD (normEtype host raw)

def signedPackEtypes (reg : Registry) (tenantId : String) : List String :=
  packHopEtypes ++ coreEtypes ++ reg.etypes tenantId

/-- `sorted` of a set of texts. -/
def sortedSet (texts : List String) : List String :=
  texts.dedup.insertionSort (fun a b => codePointLe a b = true)

/-- `require_pack_etype`; `none` is an `UnsignedGraphToken`. -/
def requirePackEtype (reg : Registry) (tenantId etype : String) : Option String :=
  let token := normEtype host etype
  if token.isEmpty || !safeToken token || !(signedPackEtypes reg tenantId).contains token then none
  else some token

/-- `require_role`: once a tenant has registered a role, it has no others. -/
def requireRole (reg : Registry) (tenantId role : String) : Option String :=
  let token := host.lower (strip role)
  if token.isEmpty || !roleSafe token then none
  else if !(reg.roles tenantId).isEmpty && !(reg.roles tenantId).contains token then none
  else some token

/-! ## Answers of the graph service -/

structure NamedEdge where
  fromId : String
  toId : String
  type : String

def NamedEdge.toValue (e : NamedEdge) : Value :=
  .object [("from_id", .string e.fromId), ("to_id", .string e.toId), ("type", .string e.type)]

structure Answers where
  roles : List String
  multiIdUserIds : List String
  namedEdges : List NamedEdge

def arrayAt (raw : Entries) (k : String) : List Value := ((raw.lookup k).bind isArray).getD []

/-- One edge of `consume_graph_answers`: an edge without a type or an end is left out. -/
def consumeEdge (v : Value) : Option NamedEdge :=
  match v with
  | .object e =>
    let et := strip (orText host
      [e.lookup "type", e.lookup "rel", e.lookup "etype", e.lookup "relationship"])
    let src := strip (orText host
      [e.lookup "from_id", e.lookup "src", e.lookup "from", e.lookup "from_external_id"])
    let dst := strip (orText host
      [e.lookup "to_id", e.lookup "dst", e.lookup "to", e.lookup "to_external_id"])
    if !et.isEmpty && !src.isEmpty && !dst.isEmpty then some ⟨src, dst, et⟩ else none
  | _ => none

/-- The stripped texts of a list that are not empty. -/
def consumeTexts (vs : List Value) : List String :=
  (vs.map (fun v => strip (v.pyStr host.py))).filter (fun s => !s.isEmpty)

/-- `consume_graph_answers` of a `dict`. -/
def consumeGraphAnswers (raw : Entries) : Answers where
  roles := consumeTexts host (arrayAt raw "roles")
  multiIdUserIds := consumeTexts host (arrayAt raw "multi_id_user_ids")
  namedEdges := (arrayAt raw "named_edges").filterMap (consumeEdge host)

/-! ## Flags of siblings -/

def positiveFlag (v : Value) : Bool :=
  match v with
  | .bool b => b
  | .null => false
  | .number (.posInt n) => n == 1
  | .number (.negInt _) => false
  | .number (.float x) => x.val.eq (F64.ofNat 1)
  | v => positiveFlags.contains (host.lower (strip (v.pyStr host.py)))

def properties (node : Entries) : Entries := ((node.lookup "properties").bind isObject).getD []

def nodeId (node : Entries) : String :=
  strip (orText host [node.lookup "id", node.lookup "external_id", node.lookup "entity_id",
    (properties node).lookup "external_id", (properties node).lookup "id"])

def iterNodes (raw : Entries) : List Entries :=
  (arrayAt raw "vertices" ++ arrayAt raw "nodes").filterMap isObject

/-- A label that is neither `None` nor empty. -/
def label? (src : Entries) (k : String) : Option Value :=
  match src.lookup k with
  | some .null => none
  | some (.string "") => none
  | other => other

/-- What `_node_flag_value` finds in one of its sources. -/
def flagIn (src : Entries) : Option Value :=
  match ["y_label", "FLAG", "flag"].findSome? (label? src) with
  | some v => some v
  | none =>
    if (arrayAt src "tags").any (fun t =>
        positiveFlags.contains (host.lower (strip (t.pyStr host.py)))) then
      some (.string "FLAG")
    else none

def nodeFlagValue (node : Entries) : Option Value :=
  (flagIn host node).or (flagIn host (properties node))

def labelFlags (raw : Entries) (sid k : String) (flags : Entries) : Entries :=
  (((raw.lookup k).bind isObject).getD []).foldl (fun flags e =>
    let token := strip e.1
    if !token.isEmpty && token != sid && positiveFlag host e.2 then Dict.set flags token e.2
    else flags) flags

def listedFlags (raw : Entries) (sid : String) (flags : Entries) : Entries :=
  (arrayAt raw "flagged_user_ids").foldl (fun flags uid =>
    let token := strip (uid.pyStr host.py)
    if !token.isEmpty && token != sid then Dict.set flags token (.string "FLAG") else flags) flags

def nodeFlags (raw : Entries) (sid : String) (flags : Entries) : Entries :=
  (iterNodes raw).foldl (fun flags node =>
    let nid := nodeId host node
    match nodeFlagValue host node with
    | none => flags
    | some v =>
      if !nid.isEmpty && nid != sid && positiveFlag host v then Dict.set flags nid v else flags)
    flags

def siblingFlagsFromPayload (raw : Entries) (multiIdUserIds : List String) (subjectId : String) :
    Entries :=
  let sid := strip subjectId
  let flags := nodeFlags host raw sid (listedFlags host raw sid
    (labelFlags host raw sid "y_labels" (labelFlags host raw sid "sibling_y_labels" [])))
  let multi := ((multiIdUserIds.map strip).filter (fun s => !s.isEmpty)).dedup
  if multi.isEmpty then flags
  else multi.filterMap (fun uid => (flags.lookup uid).map (fun v => (uid, v)))

/-! ## Hop views -/

structure HopView where
  status : String
  tenantId : String
  subjectId : String
  namedEdges : List NamedEdge
  multiIdUserIds : List String
  roles : List String
  siblingFlags : Entries
  signedEtypes : List String

def texts (ss : List String) : Value := .array (ss.map .string)

/-- The `dict` of a hop view. -/
def HopView.entries (h : HopView) : Entries :=
  [("schema_id", .string schemaId), ("status", .string h.status), ("tenant_id", .string h.tenantId),
    ("subject_id", .string h.subjectId),
    ("named_edges", .array (h.namedEdges.map NamedEdge.toValue)),
    ("multi_id_user_ids", texts h.multiIdUserIds), ("roles", texts h.roles),
    ("sibling_flags", .object h.siblingFlags), ("signed_etypes", texts h.signedEtypes),
    ("invented_edges", .bool false)]

def HopView.toValue (h : HopView) : Value := .object h.entries

variable (reg : Registry)

def isMissing (graphUrl : String) (degradeTags : List String) : Bool :=
  (strip graphUrl).isEmpty || degradeTags.contains "graph:missing"

def blankHop (status tenantId subjectId : String) : HopView :=
  ⟨status, tenantId, subjectId, [], [], [], [], sortedSet (signedPackEtypes reg tenantId)⟩

/-- The view that `hop_view_from_graph_meta` makes of a reply. -/
def hopOfAnswers (raw : Entries) (tenantId subjectId : String) : HopView :=
  let answers := consumeGraphAnswers host raw
  ⟨"graph:ok", tenantId, subjectId, answers.namedEdges, answers.multiIdUserIds, answers.roles,
    siblingFlagsFromPayload host raw answers.multiIdUserIds subjectId,
    sortedSet (signedPackEtypes reg tenantId)⟩

def hopViewFromGraphMeta (graphMeta : Value) (graphUrl : String) (degradeTags : List String)
    (tenantId subjectId : String) : HopView :=
  if isMissing graphUrl degradeTags then blankHop reg "graph:missing" tenantId subjectId
  else
    match graphMeta with
    | .object raw =>
      let status := orText host [raw.lookup "status"]
      if missingStatuses.contains status then blankHop reg status tenantId subjectId
      else hopOfAnswers host reg raw tenantId subjectId
    | _ => blankHop reg "graph:empty" tenantId subjectId

def asStoredHop (raw : Entries) (tenantId subjectId : String) : Option HopView :=
  let status := orText host [raw.lookup "status"]
  if missingStatuses.contains status then some (blankHop reg status tenantId subjectId)
  else if (raw.lookup "schema_id").bind isString = some schemaId
      ∨ (raw.lookup "signed_etypes").isSome ∨ (raw.lookup "sibling_flags").isSome then
    let answers := consumeGraphAnswers host raw
    some ⟨if status.isEmpty then "graph:ok" else status,
      orGiven host tenantId [raw.lookup "tenant_id"],
      orGiven host subjectId [raw.lookup "subject_id"], answers.namedEdges,
      answers.multiIdUserIds, answers.roles,
      ((raw.lookup "sibling_flags").bind isObject).getD
        (siblingFlagsFromPayload host raw answers.multiIdUserIds subjectId),
      (arrayAt raw "signed_etypes").map (Value.pyStr host.py)⟩
  else if ((raw.lookup "named_edges").filter (fun v => !v.isNull)).isSome
      ∨ ((raw.lookup "multi_id_user_ids").filter (fun v => !v.isNull)).isSome then
    some (hopViewFromGraphMeta host reg (.object raw) "snapshot" [] tenantId subjectId)
  else none

/-- The places of a snapshot where a hop may be stored, in the order they are tried. -/
def candidates (snapshot : Entries) : List Entries :=
  [snapshot.lookup hopFeatureKey, snapshot.lookup "graph_hop_v1",
    (((snapshot.lookup "pack_why").bind isObject).getD []).lookup "graph",
    snapshot.lookup "subgraph_snapshot", snapshot.lookup "inference_context"].filterMap
      (fun v => v.bind isObject)

/-- What `hop_view_from_snapshot` makes of one of them. -/
def hopOfCandidate (tid sid : String) (raw : Entries) : Option HopView :=
  let status := orText host [raw.lookup "status"]
  if missingStatuses.contains status then
    some (blankHop reg status (orGiven host tid [raw.lookup "tenant_id"])
      (orGiven host sid [raw.lookup "entity_id"]))
  else asStoredHop host reg raw tid sid

def hopViewFromSnapshot (snapshot : Value) (tenantId subjectId : String) : HopView :=
  match snapshot with
  | .object entries =>
    let tid := orGiven host tenantId [entries.lookup "tenant_id"]
    let sid := orGiven host subjectId [entries.lookup "entity_id", entries.lookup "subject_id"]
    ((candidates entries).findSome? (hopOfCandidate host reg tid sid)).getD
      (blankHop reg "graph:empty" tid sid)
  | _ => blankHop reg "graph:missing" tenantId subjectId

/-! ## Evaluation -/

/-- `hop_is_present`. A hop without a status is present. -/
def hopIsPresent (hop : Entries) : Bool :=
  !missingStatuses.contains (orText host [hop.lookup "status"])
    && (hop.lookup "status").bind isString != some ""

/-- Iterating over a value: the items of a list, the keys of a `dict`, the characters of a text. -/
def iterItems : Value → Option (List Value)
  | .array items => some items
  | .object es => some (es.map (fun e => .string e.1))
  | .string s => some (s.toList.map (fun c => .string (String.singleton c)))
  | _ => none

/-- Iterating over `hop.get(k) or []`. -/
def itemsOf (hop : Entries) (k : String) : Option (List Value) :=
  ((hop.lookup k).filter Value.truthy).elim (some []) iterItems

/-- The role that an atom asks for, if any, is one of the roles of the hop. -/
def roleHolds (hop : Entries) (tid : String) (role : Option String) : Option Bool :=
  match role.filter (fun r => !r.isEmpty) with
  | none => some true
  | some r =>
    match requireRole host reg tid r with
    | none => some false
    | some token => (itemsOf hop "roles").map (fun items =>
      items.any (fun x => host.lower (strip (x.pyStr host.py)) == token))

def edgeType (edge : Value) : Option String :=
  (isObject edge).map (fun e => orText host [e.lookup "type", e.lookup "etype"])

/-- The branch of `has_etype`. -/
def hasEtype (hop : Entries) (tid : String) (etype : Option String) : Option Bool :=
  match requirePackEtype host reg tid (etype.getD "") with
  | none => some false
  | some want => (itemsOf hop "named_edges").map (fun edges =>
    edges.any (fun e => (edgeType host e).elim false
      (fun t => canonicalPackEtype host t == canonicalPackEtype host want)))

/-- The branch of `has_multi_id`. -/
def hasMultiId (hop : Entries) : Option Bool :=
  (itemsOf hop "multi_id_user_ids").map (fun ids =>
    ids.any (fun x => !(strip (x.pyStr host.py)).isEmpty))

/-- The branch of `sibling_prior_flag`. -/
def siblingPriorFlag (hop : Entries) : Bool :=
  (((hop.lookup "sibling_flags").bind isObject).getD []).any (fun e => positiveFlag host e.2)

def evalAtom (atom : String) (hop : Entries) (tid : String) (etype : Option String) : Option Bool :=
  if strip atom = "has_etype" then hasEtype host reg hop tid etype
  else if strip atom = "has_multi_id" then hasMultiId host hop
  else if strip atom = "sibling_prior_flag" then some (siblingPriorFlag host hop)
  else some false

/-- `eval_graph_v1`; `none` is a `TypeError`. -/
def evalGraphV1 (atom : String) (hop : Value) (etype role : Option String) (tenantId : String) :
    Option Bool :=
  match hop with
  | .object entries =>
    if !hopIsPresent host entries then some false
    else
      let tid := orGiven host tenantId [entries.lookup "tenant_id"]
      (roleHolds host reg entries tid role).bind (fun holds =>
        if holds then evalAtom host reg atom entries tid etype else some false)
  | _ => some false

def evalGraphV1FromFeatures (features : KeyMap Value) (atom : String) (etype role : Option String)
    (tenantId : String) : Option Bool :=
  evalGraphV1 host reg atom ((features.get? hopFeatureKey).getD .null) etype role
    (orGiven host tenantId [features.get? "_graph_hop_tenant_id"])

/-! ## The reasons that are stored with a decision -/

/-- The loop of `fired_graph_v1_atoms` over the edges. -/
def firedEtypes (hop : HopView) : List String :=
  hop.namedEdges.foldl (fun seen e =>
    let et := normEtype host ((edgeType host e.toValue).getD "")
    if et.isEmpty || seen.contains et then seen
    else if
        evalGraphV1 host reg "has_etype" hop.toValue (some et) none hop.tenantId = some true then
      seen ++ [et]
    else seen) []

/-- `fired_graph_v1_atoms`: the atoms with their edge types. -/
def firedGraphV1Atoms (hop : HopView) : List (String × Option String) :=
  if !hopIsPresent host hop.entries then []
  else
    (firedEtypes host reg hop).map (fun et => ("has_etype", some et))
      ++ (["has_multi_id", "sibling_prior_flag"].filter (fun atom =>
        decide (evalGraphV1 host reg atom hop.toValue none none hop.tenantId = some true))).map
          (fun atom => (atom, none))

def namedFromHop (hop : HopView) : String :=
  if !hopIsPresent host hop.entries then "graph:missing"
  else
    match (firedGraphV1Atoms host reg hop).map
      (fun a => a.2.elim a.1 (fun et => a.1 ++ ":" ++ et)) with
    | [] => if hop.status.isEmpty then "graph:ok" else hop.status
    | parts => "+".intercalate parts

def packWhyFromHop (hop : HopView) : Entries :=
  [("named_edges", .array (hop.namedEdges.map NamedEdge.toValue)),
    ("multi_id_user_ids", texts hop.multiIdUserIds), ("roles", texts hop.roles),
    ("invented_edges", .bool false),
    ("status", .string (if hop.status.isEmpty then "graph:missing" else hop.status)),
    ("schema_id", .string schemaId), ("sibling_flags", .object hop.siblingFlags),
    ("signed_etypes", texts hop.signedEtypes),
    ("fired", .array ((firedGraphV1Atoms host reg hop).map (fun a =>
      .object (("atom", .string a.1) :: a.2.toList.map (fun et => ("etype", .string et)))))),
    ("named", .string (namedFromHop host reg hop))]

end

end Tarka.Graph
