import Tarka.Graph.PackAtoms

/-! # Replay of graph atoms

The hop view of a decision is stored with it, as such or in the reasons of the decision. When the
decision is replayed, the view is read back by a normaliser that also takes replies of the graph
service. What it has normalised once it leaves alone, so every atom has the value it had
(`hop_replay`). The registries of edge types and roles may have changed in between: the atoms are
compared under one registry, and the edge types that a view lists do not matter to them.

Without a graph, or with an empty one, no atom holds. -/

namespace Tarka.Graph

open Tarka.Lib Tarka.Json List Value
open Tarka.Rules (isArray isString)

variable (host : Host)

/-! ## Normal forms -/

/-- A text without white space at its ends that is not empty. -/
def Clean (s : String) : Prop := strip s = s ∧ s.isEmpty = false

/-- What the normaliser makes of a reply. -/
structure HopView.Clean (h : HopView) : Prop where
  edges : ∀ e ∈ h.namedEdges, Graph.Clean e.fromId ∧ Graph.Clean e.toId ∧ Graph.Clean e.type
  ids : ∀ s ∈ h.multiIdUserIds, Graph.Clean s
  roles : ∀ s ∈ h.roles, Graph.Clean s

theorem consumeTexts_clean (vs : List Value) : ∀ s ∈ consumeTexts host vs, Clean s := by
  intro s hs
  obtain ⟨hmem, hne⟩ := mem_filter.mp hs
  obtain ⟨v, -, rfl⟩ := mem_map.mp hmem
  exact ⟨strip_strip _, by simpa using hne⟩

variable {ss : List String}

theorem consumeTexts_texts (h : ∀ s ∈ ss, Clean s) : consumeTexts host (ss.map .string) = ss := by
  have hstrip : (ss.map string).map (fun v => strip (v.pyStr host.py)) = ss := by
    rw [map_map]
    calc ss.map ((fun v => strip (v.pyStr host.py)) ∘ string)
        = ss.map id := map_congr_left (fun s hs => (h s hs).1)
      _ = ss := map_id ss
  rw [consumeTexts, hstrip, filter_eq_self]
  intro s hs
  rw [(h s hs).2]
  rfl

variable {e : NamedEdge}

theorem consumeEdge_clean {v : Value} (h : consumeEdge host v = some e) :
    Clean e.fromId ∧ Clean e.toId ∧ Clean e.type := by
  cases v with
  | object es =>
    simp only [consumeEdge] at h
    split_ifs at h with hne
    simp only [Bool.and_eq_true, Bool.not_eq_true'] at hne
    cases h
    exact ⟨⟨strip_strip _, hne.1.2⟩, ⟨strip_strip _, hne.2⟩, ⟨strip_strip _, hne.1.1⟩⟩
  | _ => cases h

theorem consumeEdge_toValue (hfrom : Clean e.fromId) (hto : Clean e.toId)
    (htype : Clean e.type) : consumeEdge host e.toValue = some e := by
  have hlookups : ∀ es, e.toValue = .object es → es.lookup "type" = some (.string e.type)
      ∧ es.lookup "from_id" = some (.string e.fromId)
      ∧ es.lookup "to_id" = some (.string e.toId) := by
    rintro es h
    cases h
    exact ⟨rfl, rfl, rfl⟩
  obtain ⟨h₁, h₂, h₃⟩ := hlookups _ rfl
  unfold NamedEdge.toValue consumeEdge
  simp only [h₁, h₂, h₃, orText_string host htype.2, orText_string host hfrom.2,
    orText_string host hto.2, htype.1, hfrom.1, hto.1, htype.2, hfrom.2, hto.2]
  rfl

theorem hopOfAnswers_clean (reg : Registry) (raw : Entries) (t sid : String) :
    (hopOfAnswers host reg raw t sid).Clean where
  edges := by
    intro e he
    obtain ⟨v, -, hv⟩ := mem_filterMap.mp he
    exact consumeEdge_clean host hv
  ids := consumeTexts_clean host _
  roles := consumeTexts_clean host _

theorem hopViewFromGraphMeta_cases (reg : Registry) (graphMeta : Value) (url : String)
    (tags : List String) (t sid : String) :
    (∃ status ∈ missingStatuses,
        hopViewFromGraphMeta host reg graphMeta url tags t sid = blankHop reg status t sid)
      ∨ ∃ raw, graphMeta = .object raw
        ∧ hopViewFromGraphMeta host reg graphMeta url tags t sid
          = hopOfAnswers host reg raw t sid := by
  unfold hopViewFromGraphMeta
  split_ifs
  · exact Or.inl ⟨"graph:missing", by decide, rfl⟩
  · cases graphMeta with
    | object raw =>
      simp only
      split_ifs with hstatus
      · exact .inl ⟨_, by simpa using hstatus, rfl⟩
      · exact .inr ⟨raw, rfl, rfl⟩
    | _ => exact Or.inl ⟨"graph:empty", by decide, rfl⟩

/-! ## Reading a view back -/

/-- A document with the answers of a view. -/
structure Records (raw : Entries) (h : HopView) : Prop where
  status : raw.lookup "status" = some (.string h.status)
  schema : raw.lookup "schema_id" = some (.string schemaId)
  edges : raw.lookup "named_edges" = some (.array (h.namedEdges.map NamedEdge.toValue))
  ids : raw.lookup "multi_id_user_ids" = some (texts h.multiIdUserIds)
  roles : raw.lookup "roles" = some (texts h.roles)
  flags : raw.lookup "sibling_flags" = some (.object h.siblingFlags)
  tenant : raw.lookup "tenant_id" = none ∨ raw.lookup "tenant_id" = some (.string h.tenantId)

theorem records_entries (h : HopView) : Records h.entries h :=
  ⟨rfl, rfl, rfl, rfl, rfl, rfl, Or.inr rfl⟩

theorem records_packWhyFromHop (reg : Registry) {h : HopView} (hstatus : h.status.isEmpty = false) :
    Records (packWhyFromHop host reg h) h where
  status := by
    show some (string (if h.status.isEmpty then "graph:missing" else h.status)) = _
    rw [hstatus]
    rfl
  schema := rfl
  edges := rfl
  ids := rfl
  roles := rfl
  flags := rfl
  tenant := .inl rfl

variable {raw : Entries}

theorem consumeGraphAnswers_of_records {h : HopView} (hr : Records raw h)
    (hclean : h.Clean) :
    consumeGraphAnswers host raw = ⟨h.roles, h.multiIdUserIds, h.namedEdges⟩ := by
  have hroles : arrayAt raw "roles" = h.roles.map .string := by rw [arrayAt, hr.roles]; rfl
  have hids : arrayAt raw "multi_id_user_ids" = h.multiIdUserIds.map .string := by
    rw [arrayAt, hr.ids]; rfl
  have hedges : arrayAt raw "named_edges" = h.namedEdges.map NamedEdge.toValue := by
    rw [arrayAt, hr.edges]; rfl
  have hconsumed : (h.namedEdges.map NamedEdge.toValue).filterMap (consumeEdge host)
      = h.namedEdges := by
    have hedge : ∀ e ∈ h.namedEdges, (consumeEdge host ∘ NamedEdge.toValue) e = some e := by
      intro e he
      obtain ⟨hfrom, hto, htype⟩ := hclean.edges e he
      rw [Function.comp_apply, consumeEdge_toValue host hfrom hto htype]
    rw [filterMap_map, filterMap_congr hedge, filterMap_some]
  rw [consumeGraphAnswers, hroles, hids, hedges, consumeTexts_texts host hclean.roles,
    consumeTexts_texts host hclean.ids, hconsumed]

/-- Two views that no atom can tell apart, the tenant aside. -/
structure SameAnswers (h h' : HopView) : Prop where
  status : h.status = h'.status
  edges : h.namedEdges = h'.namedEdges
  ids : h.multiIdUserIds = h'.multiIdUserIds
  roles : h.roles = h'.roles
  flags : h.siblingFlags = h'.siblingFlags

/-- **Normalising again changes nothing** that an atom reads. -/
theorem asStoredHop_of_records (reg : Registry) {h : HopView} (hr : Records raw h)
    (hclean : h.Clean) (hstatus : h.status = "graph:ok") (t sid : String) :
    ∃ h', asStoredHop host reg raw t sid = some h' ∧ SameAnswers h' h
      ∧ h'.tenantId = orGiven host t [raw.lookup "tenant_id"] := by
  have htext : orText host [raw.lookup "status"] = "graph:ok" := by
    rw [hr.status, hstatus]
    exact orText_string host (by decide) []
  have hschema : (raw.lookup "schema_id").bind isString = some schemaId := by rw [hr.schema]; rfl
  refine ⟨⟨"graph:ok", orGiven host t [raw.lookup "tenant_id"],
    orGiven host sid [raw.lookup "subject_id"], h.namedEdges, h.multiIdUserIds, h.roles,
    h.siblingFlags, (arrayAt raw "signed_etypes").map (pyStr host.py)⟩, ?_,
    ⟨hstatus.symm, rfl, rfl, rfl, rfl⟩, rfl⟩
  simp only [asStoredHop, htext, hschema, true_or, if_true,
    consumeGraphAnswers_of_records host hr hclean, hr.flags]
  rfl

/-! ## Evaluation of a view -/

variable {k : String}

theorem itemsOf_texts {hop : Entries} (h : hop.lookup k = some (texts ss)) :
    itemsOf hop k = some (ss.map .string) := by
  rw [itemsOf, h]
  cases ss <;> rfl

theorem evalGraphV1_congr {h h' : HopView} (hsame : SameAnswers h h')
    (htenant : h.tenantId = h'.tenantId)
    (reg : Registry) (atom : String) (etype role : Option String) (t : String) :
    evalGraphV1 host reg atom h.toValue etype role t
      = evalGraphV1 host reg atom h'.toValue etype role t := by
  obtain ⟨hstatus, hedges, hids, hroles, hflags⟩ := hsame
  cases h
  cases h'
  subst hstatus hedges hids hroles hflags htenant
  rfl

/-! ## Views without content -/

/-- A view in which no atom finds anything. -/
structure HopView.Silent (h : HopView) : Prop where
  edges : h.namedEdges = []
  ids : h.multiIdUserIds = []
  flags : h.siblingFlags = []

variable {reg : Registry} {t : String}

theorem blankHop_silent {status sid : String} : (blankHop reg status t sid).Silent :=
  ⟨rfl, rfl, rfl⟩

theorem evalGraphV1_of_silent {h : HopView} (hs : h.Silent) (reg : Registry) (atom : String)
    (etype role : Option String) (t : String) :
    evalGraphV1 host reg atom h.toValue etype role t = some false := by
  have hroles : itemsOf h.entries "roles" = some (h.roles.map .string) := itemsOf_texts rfl
  have hids : itemsOf h.entries "multi_id_user_ids" = some [] := by
    have htexts : itemsOf h.entries "multi_id_user_ids" = some (h.multiIdUserIds.map .string) :=
      itemsOf_texts rfl
    rw [htexts, hs.ids]
    rfl
  have hedges : itemsOf h.entries "named_edges" = some [] := by
    have hlookup : h.entries.lookup "named_edges"
        = some (.array (h.namedEdges.map NamedEdge.toValue)) := rfl
    rw [itemsOf, hlookup, hs.edges]
    rfl
  have hflags : h.entries.lookup "sibling_flags" = some (.object []) := by
    rw [← hs.flags]
    rfl
  have hatom : ∀ tid, evalAtom host reg atom h.entries tid etype = some false := by
    intro tid
    unfold evalAtom
    split_ifs
    · unfold hasEtype
      cases requirePackEtype host reg tid (etype.getD "") with
      | none => rfl
      | some want => simp [hedges]
    · simp [hasMultiId, hids]
    · simp [siblingPriorFlag, hflags, isObject]
    · rfl
  have hrole : ∀ tid, ∃ b, roleHolds host reg h.entries tid role = some b := by
    intro tid
    unfold roleHolds
    cases role.filter (fun r => !r.isEmpty) with
    | none => exact ⟨true, rfl⟩
    | some r =>
      cases hreq : requireRole host reg tid r with
      | none => exact ⟨false, by simp [hreq]⟩
      | some token => exact ⟨_, by simp only [hreq, hroles]; rfl⟩
  unfold evalGraphV1 HopView.toValue
  simp only
  split_ifs
  · rfl
  · obtain ⟨b, hb⟩ := hrole (orGiven host t [h.entries.lookup "tenant_id"])
    rw [hb, Option.bind_some]
    cases b with
    | true => rw [if_pos rfl, hatom]
    | false => rw [if_neg Bool.false_ne_true]

def bare : Value → Bool
  | .array items => items.isEmpty
  | .object es => es.isEmpty
  | _ => true

/-- The keys under which a document tells of edges, users and flags. -/
def contentKeys : List String :=
  ["named_edges", "multi_id_user_ids", "sibling_flags", "sibling_y_labels", "y_labels",
    "flagged_user_ids", "vertices", "nodes"]

/-- A document that says that there is no graph, or tells nothing of one. -/
def Blank (raw : Entries) : Prop :=
  orText host [raw.lookup "status"] ∈ missingStatuses
    ∨ ∀ k ∈ contentKeys, ∀ v ∈ raw.lookup k, bare v = true

section

variable {raw : Entries} (h : ∀ k ∈ contentKeys, ∀ v ∈ raw.lookup k, bare v = true)

include h

theorem arrayAt_of_bare (hk : k ∈ contentKeys) : arrayAt raw k = [] := by
  unfold arrayAt
  cases hv : raw.lookup k with
  | none => rfl
  | some v =>
    have hbare := h k hk v hv
    cases v with
    | array items => simpa [bare, isArray] using hbare
    | _ => rfl

theorem objectAt_of_bare (hk : k ∈ contentKeys) : ((raw.lookup k).bind isObject).getD [] = [] := by
  cases hv : raw.lookup k with
  | none => rfl
  | some v =>
    have hbare := h k hk v hv
    cases v with
    | object es => simpa [bare, isObject] using hbare
    | _ => rfl

theorem consumeGraphAnswers_of_bare :
    (consumeGraphAnswers host raw).namedEdges = []
      ∧ (consumeGraphAnswers host raw).multiIdUserIds = [] := by
  constructor
  · show (arrayAt raw "named_edges").filterMap (consumeEdge host) = []
    rw [arrayAt_of_bare h (by decide), filterMap_nil]
  · show consumeTexts host (arrayAt raw "multi_id_user_ids") = []
    rw [arrayAt_of_bare h (by decide)]
    rfl

theorem siblingFlagsFromPayload_of_bare (sid : String) :
    siblingFlagsFromPayload host raw [] sid = [] := by
  have hlabels : ∀ k ∈ contentKeys, labelFlags host raw (strip sid) k [] = [] := by
    intro k hk
    rw [labelFlags, objectAt_of_bare h hk]
    rfl
  have hlisted : listedFlags host raw (strip sid) [] = [] := by
    rw [listedFlags, arrayAt_of_bare h (by decide)]
    rfl
  have hnodes : nodeFlags host raw (strip sid) [] = [] := by
    rw [nodeFlags, iterNodes, arrayAt_of_bare h (by decide), arrayAt_of_bare h (by decide)]
    rfl
  simp only [siblingFlagsFromPayload, hlabels "sibling_y_labels" (by decide),
    hlabels "y_labels" (by decide), hlisted, hnodes]
  rfl

theorem hopOfAnswers_of_bare (reg : Registry) (t sid : String) :
    (hopOfAnswers host reg raw t sid).Silent := by
  obtain ⟨hedges, hids⟩ := consumeGraphAnswers_of_bare host h
  refine ⟨hedges, hids, ?_⟩
  simp [hopOfAnswers, hids, siblingFlagsFromPayload_of_bare host h]

end

theorem hopViewFromGraphMeta_silent (reg : Registry) {graphMeta : Value} {url : String}
    {tags : List String} (t sid : String)
    (h : isMissing url tags ∨ ∀ raw, graphMeta = .object raw → Blank host raw) :
    (hopViewFromGraphMeta host reg graphMeta url tags t sid).Silent := by
  unfold hopViewFromGraphMeta
  split_ifs with hmissing
  · exact blankHop_silent
  · cases graphMeta with
    | object raw =>
      simp only
      split_ifs with hstatus
      · exact blankHop_silent
      · rcases (h.resolve_left hmissing) raw rfl with hin | hbare
        · exact absurd (contains_iff_mem.mpr hin) hstatus
        · exact hopOfAnswers_of_bare host hbare reg t sid
    | _ => exact blankHop_silent

variable {hop : HopView} {sid : String}

theorem asStoredHop_silent (reg : Registry) (h : Blank host raw)
    (hhop : asStoredHop host reg raw t sid = some hop) : hop.Silent := by
  simp only [asStoredHop] at hhop
  split at hhop
  · cases hhop
    exact blankHop_silent
  · rename_i hstatus
    have hbare := h.resolve_left (fun hin => hstatus (contains_iff_mem.mpr hin))
    split at hhop
    · obtain ⟨hedges, hids⟩ := consumeGraphAnswers_of_bare host hbare
      cases hhop
      refine ⟨hedges, hids, ?_⟩
      simp only [hids, siblingFlagsFromPayload_of_bare host hbare]
      exact objectAt_of_bare hbare (by decide)
    · split at hhop
      · cases hhop
        refine hopViewFromGraphMeta_silent host reg t sid (.inr ?_)
        rintro _ ⟨⟩
        exact h
      · cases hhop

theorem hopOfCandidate_silent (reg : Registry) (h : Blank host raw) {tid : String}
    (hhop : hopOfCandidate host reg tid sid raw = some hop) : hop.Silent := by
  simp only [hopOfCandidate] at hhop
  split_ifs at hhop
  · cases hhop
    exact blankHop_silent
  · exact asStoredHop_silent host reg h hhop

theorem hopOfCandidate_of_missing (reg : Registry)
    (h : orText host [raw.lookup "status"] ∈ missingStatuses) (tid sid : String) :
    ∃ hop, hopOfCandidate host reg tid sid raw = some hop := by
  simp only [hopOfCandidate, contains_iff_mem.mpr h, if_true, Option.some.injEq, exists_eq']

theorem hopViewFromSnapshot_silent (reg : Registry) {snapshot : Value} (t sid : String)
    (h : ∀ entries, snapshot = .object entries → ∀ raw ∈ candidates entries, Blank host raw) :
    (hopViewFromSnapshot host reg snapshot t sid).Silent := by
  cases snapshot with
  | object entries =>
    simp only [hopViewFromSnapshot]
    cases hfound : (candidates entries).findSome? (hopOfCandidate host reg _ _) with
    | none => exact blankHop_silent
    | some hop =>
      obtain ⟨raw, hmem, hhop⟩ := exists_of_findSome?_eq_some hfound
      exact hopOfCandidate_silent host reg (h entries rfl raw hmem) hhop
  | _ => exact blankHop_silent

/-! ## Replay -/

/-- A view is stored in a snapshot, as such or in the reasons of the decision, before anything else
that is taken for a view. A view of no tenant is stored in a snapshot of no tenant. -/
structure StoredIn (reg : Registry) (snapshot : Entries) (h : HopView) : Prop where
  first : (candidates snapshot).head? = some h.entries
    ∨ (candidates snapshot).head? = some (packWhyFromHop host reg h)
  tenant : h.tenantId.isEmpty = true → orText host [snapshot.lookup "tenant_id"] = ""

variable {snapshot : Entries}

theorem StoredIn.records {h : HopView} (hstored : StoredIn host reg snapshot h)
    (hstatus : h.status.isEmpty = false) :
    ∃ raw, (candidates snapshot).head? = some raw ∧ Records raw h := by
  rcases hstored.first with hhead | hhead
  · exact ⟨_, hhead, records_entries h⟩
  · exact ⟨_, hhead, records_packWhyFromHop host reg hstatus⟩

theorem hopViewFromSnapshot_of_head (reg : Registry)
    (hhead : (candidates snapshot).head? = some raw)
    (hhop : hopOfCandidate host reg (orGiven host t [snapshot.lookup "tenant_id"])
      (orGiven host sid [snapshot.lookup "entity_id", snapshot.lookup "subject_id"])
      raw = some hop) :
    hopViewFromSnapshot host reg (.object snapshot) t sid = hop := by
  obtain ⟨rest, hcons⟩ := List.head?_eq_some_iff.mp hhead
  simp [hopViewFromSnapshot, hcons, hhop]

theorem orGiven_stored {h : HopView} (hstored : StoredIn host reg snapshot h) (hr : Records raw h) :
    orGiven host (orGiven host h.tenantId [snapshot.lookup "tenant_id"]) [raw.lookup "tenant_id"]
      = h.tenantId := by
  cases hempty : h.tenantId.isEmpty with
  | false => simp [orGiven, hempty]
  | true =>
    have hname : h.tenantId = "" := String.isEmpty_iff.mp hempty
    have hraw : orText host [raw.lookup "tenant_id"] = "" := by
      rcases hr.tenant with hnone | hsome
      · rw [hnone]
        rfl
      · rw [hsome, hname]
        rfl
    simp [orGiven, hname, hstored.tenant hempty, hraw]

/-- **An atom has the value in a replay that it had in the decision**, and without a graph it has
none. -/
theorem hop_replay (reg reg' reg'' : Registry) (graphMeta : Value) (url : String)
    (tags : List String) (t sid : String) (atom : String) (etype role : Option String)
    (t' : String) :
    (∀ snapshot,
      StoredIn host reg snapshot (hopViewFromGraphMeta host reg graphMeta url tags t sid) →
      evalGraphV1 host reg'' atom (hopViewFromSnapshot host reg' (.object snapshot) t sid).toValue
          etype role t'
        = evalGraphV1 host reg'' atom
          (hopViewFromGraphMeta host reg graphMeta url tags t sid).toValue etype role t')
    ∧ ((isMissing url tags = true ∨ ∀ raw, graphMeta = .object raw → Blank host raw) →
      evalGraphV1 host reg'' atom
        (hopViewFromGraphMeta host reg graphMeta url tags t sid).toValue etype role t' = some false)
    ∧ ∀ snapshot,
      (∀ entries, snapshot = .object entries → ∀ raw ∈ candidates entries, Blank host raw) →
      evalGraphV1 host reg'' atom (hopViewFromSnapshot host reg' snapshot t sid).toValue
          etype role t'
        = some false := by
  refine ⟨?_, ?_, ?_⟩
  · intro snapshot hstored
    obtain ⟨status, hstatus, hlive⟩ | ⟨raw, -, hlive⟩ :=
      hopViewFromGraphMeta_cases host reg graphMeta url tags t sid
    · rw [hlive] at hstored ⊢
      have hne : ∀ s ∈ missingStatuses, s.isEmpty = false := by decide
      obtain ⟨stored, hhead, hr⟩ := hstored.records host (hne status hstatus)
      have htext : orText host [stored.lookup "status"] = status := by
        rw [hr.status]
        exact orText_string host (hne status hstatus) []
      obtain ⟨hop, hhop⟩ := hopOfCandidate_of_missing host reg' (htext ▸ hstatus)
        (orGiven host t [snapshot.lookup "tenant_id"])
        (orGiven host sid [snapshot.lookup "entity_id", snapshot.lookup "subject_id"])
      have hsilent : (hopViewFromSnapshot host reg' (.object snapshot) t sid).Silent := by
        rw [hopViewFromSnapshot_of_head host reg' hhead hhop]
        exact hopOfCandidate_silent host reg' (.inl (htext ▸ hstatus)) hhop
      rw [evalGraphV1_of_silent host hsilent, evalGraphV1_of_silent host (blankHop_silent)]
    · rw [hlive] at hstored ⊢
      obtain ⟨stored, hhead, hr⟩ := hstored.records host rfl
      obtain ⟨h', hstoredHop, hsame, htenant⟩ := asStoredHop_of_records host reg' hr
        (hopOfAnswers_clean host reg raw t sid) rfl (orGiven host t [snapshot.lookup "tenant_id"])
        (orGiven host sid [snapshot.lookup "entity_id", snapshot.lookup "subject_id"])
      have htext : orText host [stored.lookup "status"] = "graph:ok" := by
        rw [hr.status]
        exact orText_string host rfl []
      have hhop : hopOfCandidate host reg' (orGiven host t [snapshot.lookup "tenant_id"])
          (orGiven host sid [snapshot.lookup "entity_id", snapshot.lookup "subject_id"]) stored
          = some h' := by
        simp only [hopOfCandidate, htext]
        exact hstoredHop
      rw [hopViewFromSnapshot_of_head host reg' hhead hhop]
      exact evalGraphV1_congr host hsame (htenant.trans (orGiven_stored host hstored hr)) reg'' atom
        etype role t'
  · intro h
    exact evalGraphV1_of_silent host (hopViewFromGraphMeta_silent host reg t sid h) reg'' atom etype
      role t'
  · intro snapshot h
    exact evalGraphV1_of_silent host (hopViewFromSnapshot_silent host reg' t sid h) reg'' atom etype
      role t'

def deviceReply : Value :=
  .object [("named_edges", .array [.object [("type", .string " uses_device"),
      ("from_id", .string "alice"), ("to_id", .string "dev-1")]]),
    ("multi_id_user_ids", .array [.string "bob "]), ("flagged_user_ids", .array [.string "bob"])]

theorem hop_replay_device :
    evalGraphV1 asciiHost openRegistry "has_etype" (hopViewFromSnapshot asciiHost openRegistry
        (.object [("graph_hop_v1", (hopViewFromGraphMeta asciiHost openRegistry deviceReply
          "http://graph" [] "t1" "alice").toValue)]) "t1" "alice").toValue
          (some "USES_DEVICE") none "t1"
      = some true
    ∧ evalGraphV1 asciiHost openRegistry "has_multi_id" (hopViewFromGraphMeta asciiHost openRegistry
        deviceReply "" [] "t1" "alice").toValue none none "t1" = some false
    ∧ evalGraphV1 asciiHost openRegistry "has_multi_id" (hopViewFromSnapshot asciiHost openRegistry
        .null "t1" "alice").toValue none none "t1" = some false := by
  refine ⟨?_, ?_, ?_⟩
  · refine ((hop_replay asciiHost openRegistry openRegistry openRegistry deviceReply
      "http://graph" [] "t1" "alice" "has_etype" (some "USES_DEVICE") none "t1").1 _
      ⟨.inl rfl, by decide +kernel⟩).trans ?_
    decide +kernel
  · exact (hop_replay asciiHost openRegistry openRegistry openRegistry deviceReply "" []
      "t1" "alice" "has_multi_id" none none "t1").2.1 (Or.inl (by decide +kernel))
  · refine (hop_replay asciiHost openRegistry openRegistry openRegistry deviceReply "" []
      "t1" "alice" "has_multi_id" none none "t1").2.2 .null ?_
    rintro _ ⟨⟩

end Tarka.Graph
