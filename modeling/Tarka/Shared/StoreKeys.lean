import Tarka.Lib.Joined
import Tarka.Lib.Strip

/-! # Keys of the tenants' data

The keys under which the services keep the data of an entity: the tag store (`redis_store.py`), the
aggregate store (`fraud_aggregates.py`), the in-memory list store (`entity_lists.py`) and the vertex
ids of the graph (`graph_contract.py`). All of them join the tenant, the entity and more with a
colon that is not escaped, and a request may have colons in both (`schemas.py`).

`keys_separate_iff` says which two requests share a key. -/

namespace Tarka.Shared

open Tarka.Lib String

/-! ## Requests -/

/-- What an accepted `EvaluateRequest` says about its tenant and entity: any tenant, and an entity
that is stripped and not empty. -/
structure EvaluateRequest where
  tenantId : String
  entityId : String
  stripped : strip entityId = entityId
  nonempty : entityId ≠ ""

open EvaluateRequest

def EvaluateRequest.identity (r : EvaluateRequest) : String × String := (r.tenantId, r.entityId)

/-! ## Keys -/

def tagPrefix : String := "fraud:tags:"

def scorePrefix : String := "fraud:score:"

def aggPrefix : String := "fraud:agg:"

def aggValPrefix : String := "fraud:aggval:"

def keyTags (tenantId entityId : String) : String := tagPrefix ++ tenantId ++ ":" ++ entityId

def keyScore (tenantId entityId : String) : String := scorePrefix ++ tenantId ++ ":" ++ entityId

/-- `AggregateStore._key`, with the version segment. -/
def aggKey (vs tenantId entityId metric : String) : String :=
  aggPrefix ++ vs ++ tenantId ++ ":" ++ entityId ++ ":" ++ metric

/-- `AggregateStore._val_key`. -/
def aggValKey (vs tenantId entityId metric : String) : String :=
  aggValPrefix ++ vs ++ tenantId ++ ":" ++ entityId ++ ":" ++ metric

inductive ListType where
  | whitelist
  | blacklist
  | testBypass
  deriving DecidableEq

def ListType.name : ListType → String
  | whitelist => "whitelist"
  | blacklist => "blacklist"
  | testBypass => "test_bypass"

/-- `MemoryListStore._key`. -/
def listKey (listType : ListType) (tenantId entityId : String) : String :=
  listType.name ++ ":" ++ tenantId ++ ":" ++ entityId

/-- The start of the keys that `get_all` and `count` of `MemoryListStore` collect. -/
def listScan (listType : ListType) (tenantId : String) : String :=
  listType.name ++ ":" ++ tenantId ++ ":"

def janusGraphId (tenantId vtype entityId : String) : String :=
  "jvg:" ++ tenantId ++ ":" ++ vtype ++ ":" ++ entityId

/-! ## Shared keys -/

def SharesKey (p q : String × String) : Prop :=
  Clash ':' (p.1.toList, p.2.toList) (q.1.toList, q.2.toList)

/-- **Keys of one kind are the same** for the same parts, and for parts that share a key. -/
theorem key_eq_iff (front a b c d : String) :
    front ++ a ++ ":" ++ b = front ++ c ++ ":" ++ d
      ↔ (a, b) = (c, d) ∨ SharesKey (a, b) (c, d) := by
  have hpair : (a.toList, b.toList) = (c.toList, d.toList) ↔ (a, b) = (c, d) := by
    rw [Prod.mk.injEq, Prod.mk.injEq, toList_inj, toList_inj]
  rw [SharesKey, ← hpair, ← joined_eq_iff, ← toList_inj]
  simp [joined, toList_append]

variable {a b c d : String}

theorem SharesKey.fst_ne (h : SharesKey (a, b) (c, d)) : a ≠ c := by
  rintro rfl
  exact h.length_ne rfl

theorem SharesKey.snd_ne (h : SharesKey (a, b) (c, d)) : b ≠ d := by
  rintro rfl
  exact h.snd_length_ne rfl

variable {front : String}

theorem key₃_eq_iff {a' b' c' : String} :
    front ++ a ++ ":" ++ b ++ ":" ++ c = front ++ a' ++ ":" ++ b' ++ ":" ++ c'
      ↔ (a, b, c) = (a', b', c') ∨ (a = a' ∧ SharesKey (b, c) (b', c'))
        ∨ SharesKey (a, b ++ ":" ++ c) (a', b' ++ ":" ++ c') := by
  have hrest : b ++ ":" ++ c = b' ++ ":" ++ c' ↔ (b, c) = (b', c') ∨ SharesKey (b, c) (b', c') := by
    have h := key_eq_iff "" b c b' c'
    rwa [empty_append, empty_append] at h
  have hassoc : ∀ x y z : String,
      front ++ x ++ ":" ++ y ++ ":" ++ z = front ++ x ++ ":" ++ (y ++ ":" ++ z) := by
    intro x y z
    simp only [append_assoc]
  rw [hassoc, hassoc, key_eq_iff, Prod.mk.injEq, hrest, and_or_left, or_assoc, Prod.mk.injEq a]

theorem ListType.colon_not_mem_name (lt : ListType) : ':' ∉ lt.name.toList := by
  cases lt <;> decide +kernel

theorem ListType.name_injective : Function.Injective ListType.name := by
  intro lt lt' h
  revert h
  cases lt <;> cases lt' <;> decide +kernel

variable {lt' lt : ListType}

theorem ListType.name_append_inj {rest rest' : List Char} :
    lt.name.toList ++ ':' :: rest = lt'.name.toList ++ ':' :: rest' ↔ lt = lt' ∧ rest = rest' := by
  constructor
  · intro h
    have hjoined : joined ':' (lt.name.toList, rest) = joined ':' (lt'.name.toList, rest') := h
    have heq := (joined_eq_iff.mp hjoined).resolve_right
      (not_clash lt.colon_not_mem_name lt'.colon_not_mem_name)
    rw [Prod.mk.injEq, toList_inj] at heq
    exact ⟨ListType.name_injective heq.1, heq.2⟩
  · rintro ⟨rfl, rfl⟩
    rfl

theorem exists_text {P : List Char → Prop} : (∃ cs, P cs) ↔ ∃ m : String, P m.toList :=
  ⟨fun ⟨cs, h⟩ => ⟨String.ofList cs, by rwa [toList_ofList]⟩, fun ⟨m, h⟩ => ⟨m.toList, h⟩⟩

theorem toList_eq_append_colon {x y m : String} :
    x.toList = y.toList ++ ':' :: m.toList ↔ x = y ++ ":" ++ m := by
  rw [← toList_inj]
  simp [toList_append]

theorem toList_listKey (lt : ListType) (t e : String) :
    (listKey lt t e).toList = lt.name.toList ++ ':' :: joined ':' (t.toList, e.toList) := by
  simp [listKey, joined, toList_append]

/-- **Which keys a scan of the in-memory store collects.** -/
theorem listScan_isPrefix_iff {t t' e' : String} :
    (listScan lt t).toList <+: (listKey lt' t' e').toList
      ↔ lt = lt' ∧ (t = t' ∨ (∃ m, t' = t ++ ":" ++ m)
        ∨ ∃ m, t = t' ++ ":" ++ m ∧ (m ++ ":").toList <+: e'.toList) := by
  have hscan : (listScan lt t).toList = (lt.name.toList ++ ':' :: t.toList) ++ [':'] := by
    simp [listScan, toList_append]
  have hname : (∃ u, (lt.name.toList ++ ':' :: t.toList) ++ ':' :: u
        = lt'.name.toList ++ ':' :: joined ':' (t'.toList, e'.toList))
      ↔ lt = lt' ∧ ∃ u, t.toList ++ ':' :: u = joined ':' (t'.toList, e'.toList) := by
    simp [ListType.name_append_inj]
  have hfirst : (∃ m, t'.toList = t.toList ++ ':' :: m) ↔ ∃ m, t' = t ++ ":" ++ m := by
    rw [exists_text]
    simp [toList_eq_append_colon]
  have hsecond : (∃ m, t.toList = t'.toList ++ ':' :: m ∧ m ++ [':'] <+: e'.toList)
      ↔ ∃ m, t = t' ++ ":" ++ m ∧ (m ++ ":").toList <+: e'.toList := by
    rw [exists_text]
    simp only [toList_eq_append_colon, toList_append]
    rfl
  rw [hscan, toList_listKey, isPrefix_append_singleton_iff, hname, ← isPrefix_append_singleton_iff,
    isPrefix_joined_iff, hfirst, hsecond, toList_inj]

/-! ## Separation -/

/-- The stores keep the data of two requests apart. The metrics, the lists and the types of the
vertices may differ. -/
structure KeysSeparate (vs : String) (r s : EvaluateRequest) (metric metric' : String)
    (lt lt' : ListType) (vtype vtype' : String) : Prop where
  tags : r.identity ≠ s.identity →
    keyTags r.tenantId r.entityId ≠ keyTags s.tenantId s.entityId
      ∧ keyScore r.tenantId r.entityId ≠ keyScore s.tenantId s.entityId
  aggregates : (r.identity, metric) ≠ (s.identity, metric') →
    aggKey vs r.tenantId r.entityId metric ≠ aggKey vs s.tenantId s.entityId metric'
      ∧ aggValKey vs r.tenantId r.entityId metric ≠ aggValKey vs s.tenantId s.entityId metric'
  lists : r.identity ≠ s.identity →
    listKey lt r.tenantId r.entityId ≠ listKey lt' s.tenantId s.entityId
  scans : r.tenantId ≠ s.tenantId →
    ¬ (listScan lt r.tenantId).toList <+: (listKey lt' s.tenantId s.entityId).toList
  vertices : r.identity ≠ s.identity →
    janusGraphId r.tenantId vtype r.entityId ≠ janusGraphId s.tenantId vtype' s.entityId

/-- No colon of a tenant, an entity, a metric or a type can be taken for the one that joins them. -/
structure NoSharedKey (r s : EvaluateRequest) (metric metric' : String) (lt lt' : ListType)
    (vtype vtype' : String) : Prop where
  pair : ¬ SharesKey r.identity s.identity
  triple : ¬ SharesKey (r.tenantId, r.entityId ++ ":" ++ metric)
    (s.tenantId, s.entityId ++ ":" ++ metric')
  metric : r.tenantId = s.tenantId → ¬ SharesKey (r.entityId, metric) (s.entityId, metric')
  scan : lt = lt' → (∀ m, s.tenantId ≠ r.tenantId ++ ":" ++ m)
    ∧ ∀ m, r.tenantId = s.tenantId ++ ":" ++ m → ¬ (m ++ ":").toList <+: s.entityId.toList
  vertex : ¬ SharesKey (r.tenantId, vtype ++ ":" ++ r.entityId)
    (s.tenantId, vtype' ++ ":" ++ s.entityId)
  vtype : r.tenantId = s.tenantId → ¬ SharesKey (vtype, r.entityId) (vtype', s.entityId)

/-- What is not the same has different keys, exactly if no key is shared. -/
theorem separate_iff {same same' key shared : Prop} (hkey : key ↔ same' ∨ shared)
    (hsame : same' → same) (hshared : shared → ¬ same) : (¬ same → ¬ key) ↔ ¬ shared := by
  constructor
  · intro h hs
    exact h (hshared hs) (hkey.mpr (.inr hs))
  · intro h hne hk
    exact (hkey.mp hk).elim (fun hs => hne (hsame hs)) h

section

variable {r s : EvaluateRequest} {metric metric' vtype vtype' : String} {lt lt' : ListType}

theorem pair_separate_iff :
    (r.identity ≠ s.identity →
        front ++ r.tenantId ++ ":" ++ r.entityId ≠ front ++ s.tenantId ++ ":" ++ s.entityId)
      ↔ ¬ SharesKey r.identity s.identity :=
  separate_iff (key_eq_iff front _ _ _ _) id
    (fun h heq => h.fst_ne (congrArg Prod.fst heq))

theorem triple_separate_iff (front : String) :
    ((r.identity, metric) ≠ (s.identity, metric') →
        front ++ r.tenantId ++ ":" ++ r.entityId ++ ":" ++ metric
          ≠ front ++ s.tenantId ++ ":" ++ s.entityId ++ ":" ++ metric')
      ↔ ¬ ((r.tenantId = s.tenantId ∧ SharesKey (r.entityId, metric) (s.entityId, metric'))
        ∨ SharesKey (r.tenantId, r.entityId ++ ":" ++ metric)
          (s.tenantId, s.entityId ++ ":" ++ metric')) := by
  refine separate_iff (key₃_eq_iff) (fun h => ?_) (fun h heq => ?_)
  · simp only [Prod.mk.injEq] at h
    simp only [identity, h.1, h.2.1, h.2.2]
  · simp only [identity, Prod.mk.injEq] at heq
    rcases h with ⟨-, h⟩ | h
    · exact h.fst_ne heq.1.2
    · exact h.fst_ne heq.1.1

theorem vertex_separate_iff :
    (r.identity ≠ s.identity →
        janusGraphId r.tenantId vtype r.entityId ≠ janusGraphId s.tenantId vtype' s.entityId)
      ↔ ¬ ((r.tenantId = s.tenantId ∧ SharesKey (vtype, r.entityId) (vtype', s.entityId))
        ∨ SharesKey (r.tenantId, vtype ++ ":" ++ r.entityId)
          (s.tenantId, vtype' ++ ":" ++ s.entityId)) := by
  refine separate_iff (key₃_eq_iff) (fun h => ?_) (fun h heq => ?_)
  · simp only [Prod.mk.injEq] at h
    rw [identity, identity, h.1, h.2.2]
  · simp only [identity, Prod.mk.injEq] at heq
    rcases h with ⟨-, h⟩ | h
    · exact h.snd_ne heq.2
    · exact h.fst_ne heq.1

theorem scan_separate_iff :
    (r.tenantId ≠ s.tenantId →
        ¬ (listScan lt r.tenantId).toList <+: (listKey lt' s.tenantId s.entityId).toList)
      ↔ (lt = lt' → (∀ m, s.tenantId ≠ r.tenantId ++ ":" ++ m)
        ∧ ∀ m, r.tenantId = s.tenantId ++ ":" ++ m →
          ¬ (m ++ ":").toList <+: s.entityId.toList) := by
  have hne : ∀ x m : String, x ≠ x ++ ":" ++ m := by
    intro x m heq
    have hlen := congrArg (fun t => t.toList.length) heq
    simp [toList_append] at hlen
  rw [separate_iff ((listScan_isPrefix_iff).trans and_or_left) And.right ?_]
  · simp
  · rintro ⟨-, ⟨m, h⟩ | ⟨m, h, -⟩⟩ heq
    · exact hne _ m (heq ▸ h)
    · exact hne _ m (heq ▸ h)

theorem listKey_ne (h : ¬ SharesKey r.identity s.identity) (hne : r.identity ≠ s.identity) :
    listKey lt r.tenantId r.entityId ≠ listKey lt' s.tenantId s.entityId := by
  intro heq
  rw [← toList_inj, toList_listKey, toList_listKey, ListType.name_append_inj, joined_eq_iff] at heq
  rcases heq.2 with hpair | hclash
  · rw [Prod.mk.injEq, toList_inj, toList_inj] at hpair
    exact hne (Prod.ext hpair.1 hpair.2)
  · exact h hclash

end

/-- **Two requests have different keys in every store exactly when no colon can be taken for
another.** -/
theorem keys_separate_iff (vs : String) (r s : EvaluateRequest) (metric metric' : String)
    (lt lt' : ListType) (vtype vtype' : String) :
    KeysSeparate vs r s metric metric' lt lt' vtype vtype'
      ↔ NoSharedKey r s metric metric' lt lt' vtype vtype' := by
  constructor
  · intro h
    have hpair := (pair_separate_iff).mp (fun hne => (h.tags hne).1)
    have htriple := (triple_separate_iff (aggPrefix ++ vs)).mp (fun hne => (h.aggregates hne).1)
    have hvertex := vertex_separate_iff.mp h.vertices
    rw [not_or, not_and] at htriple hvertex
    exact ⟨hpair, htriple.2, htriple.1, scan_separate_iff.mp h.scans, hvertex.2, hvertex.1⟩
  · intro h
    have htriple : ∀ front : String, _ := fun front => (triple_separate_iff front).mpr
      (not_or.mpr ⟨not_and.mpr h.metric, h.triple⟩)
    exact ⟨fun hne => ⟨(pair_separate_iff).mpr h.pair hne,
        (pair_separate_iff).mpr h.pair hne⟩,
      fun hne => ⟨htriple (aggPrefix ++ vs) hne, htriple (aggValPrefix ++ vs) hne⟩,
      listKey_ne h.pair, scan_separate_iff.mpr h.scan,
      vertex_separate_iff.mpr (not_or.mpr ⟨not_and.mpr h.vtype, h.vertex⟩)⟩

namespace Demo

/-- Entity `b:c` of tenant `a`. -/
def first : EvaluateRequest := ⟨"a", "b:c", by decide +kernel, by decide⟩

/-- Entity `c` of tenant `a:b`. -/
def second : EvaluateRequest := ⟨"a:b", "c", by decide +kernel, by decide⟩

end Demo

open Demo

/-- Two tenants share a key in every store. -/
theorem tenants_share_keys :
    first.tenantId ≠ second.tenantId
      ∧ keyTags first.tenantId first.entityId
        = keyTags second.tenantId second.entityId
      ∧ aggKey "" first.tenantId first.entityId "events"
        = aggKey "" second.tenantId second.entityId "events"
      ∧ listKey .blacklist first.tenantId first.entityId
        = listKey .blacklist second.tenantId second.entityId
      ∧ janusGraphId first.tenantId "b" first.entityId
        = janusGraphId second.tenantId "b" second.entityId := by
  decide +kernel

end Tarka.Shared
