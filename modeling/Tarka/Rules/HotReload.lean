import Tarka.Rules.Shadow

/-! # Hot reload of shadow rules

The store of the active rule set (`hot_reload.rs`) and the listener that reloads it on deploy events
(`nats_watcher.rs`). A message is processed to its end before the next one is taken, so that a run
of the listener is a fold over the messages in the order of their delivery.

A reload replaces the active rule set without a look at its version; only the counter for versions
that the store picks itself is kept ahead. `highest_active_iff` says for which deliveries the active
version never decreases and the active rule set ends up with the highest version. -/

namespace Tarka.Rules.HotReload

open Tarka.Lib Tarka.Json Tarka.Rules.Shadow List Option

/-! ## Store -/

structure HotReloadRuleStore where
  active : RuleSet
  nextVersion : UInt64

/-- `saturating_add(1)`. -/
def saturatingSucc (v : UInt64) : UInt64 := if v = UInt64.ofNat (2 ^ 64 - 1) then v else v + 1

namespace HotReloadRuleStore

def new (initial : RuleSet) : HotReloadRuleStore := ⟨initial, saturatingSucc initial.version⟩

def activeVersion (store : HotReloadRuleStore) : UInt64 := store.active.version

def reload (store : HotReloadRuleStore) (ruleset : RuleSet) : HotReloadRuleStore :=
  let v := ruleset.version
  ⟨ruleset, if store.nextVersion ≤ v then saturatingSucc v else store.nextVersion⟩

end HotReloadRuleStore

/-! ## Listener -/

/-- `HypothesisDeployEvent`; its tenant is only logged. -/
structure HypothesisDeployEvent where
  event : String
  version : Option UInt64
  rules : Option (List Value)
  redisKey : Option String

def HypothesisDeployEvent.isDeploy (e : HypothesisDeployEvent) : Bool :=
  e.event == "hypothesis_deployed" || e.event == "hypothesis.deployed"

/-- What the listener reads of `NatsWatcherConfig`, the regular expressions of the rules, and
`serde_json::from_str`. -/
structure Watcher where
  redisUrl : Option String
  redisKey : String
  eng : Engines
  fromStr : String → Except String Value

/-- A message: the event in its payload, `none` if it is no such event, and how Redis answers a
`GET` of a URL and a key while the message is processed. -/
structure Delivery where
  payload : Option HypothesisDeployEvent
  redisGet : String → String → Except String (Option String)

/-- One item of `flatten_rules_blob`: a bundle that is not disabled stands for its rules. -/
def flattenItem (item : Value) : List Value :=
  match item.get? "rules" with
  | some (.array rules) =>
    if ((item.get? "mode").bind isString) = some "disabled" then [] else rules
  | _ => [item]

def flattenRulesBlob : Value → List Value
  | .array items => items.flatMap flattenItem
  | _ => []

def resolveRulesForEvent (w : Watcher) (redisGet : String → String → Except String (Option String))
    (e : HypothesisDeployEvent) : Except String (List Value) :=
  match e.rules.filter (fun rules => !rules.isEmpty) with
  | some rules => .ok rules
  | none =>
    match w.redisUrl with
    | none => .error "redis_url not configured and event.rules empty"
    | some url => do
      match ← redisGet url (e.redisKey.getD w.redisKey) with
      | none => return []
      | some blob => return flattenRulesBlob (← w.fromStr blob)

/-- `apply_hypothesis_deploy_event`: the store after it. -/
def applyHypothesisDeployEvent (w : Watcher)
    (redisGet : String → String → Except String (Option String)) (store : HotReloadRuleStore)
    (e : HypothesisDeployEvent) : Except String HotReloadRuleStore :=
  if !e.isDeploy then .ok store
  else do
    let rules ← resolveRulesForEvent w redisGet e
    let version := e.version.getD (store.activeVersion + 1)
    return store.reload (RuleSet.fromRulesJson w.eng rules version)

/-- One turn of the listener: a message that cannot be read or applied is logged. -/
def handle (w : Watcher) (store : HotReloadRuleStore) (d : Delivery) : HotReloadRuleStore :=
  match d.payload with
  | none => store
  | some e =>
    match applyHypothesisDeployEvent w d.redisGet store e with
    | .ok store' => store'
    | .error _ => store

/-- `run_hypothesis_deploy_watcher` over the messages in the order of their delivery. -/
def runHypothesisDeployWatcher (w : Watcher) (store : HotReloadRuleStore) (ds : List Delivery) :
    HotReloadRuleStore :=
  ds.foldl (handle w) store

/-! ## What a delivery stands for -/

def Delivery.deploy (d : Delivery) : Option HypothesisDeployEvent :=
  d.payload.filter HypothesisDeployEvent.isDeploy

def Delivery.version (d : Delivery) : Option UInt64 := d.deploy.bind HypothesisDeployEvent.version

def Delivery.rules (w : Watcher) (d : Delivery) : Option (List Value) :=
  d.deploy.bind (fun e => (resolveRulesForEvent w d.redisGet e).toOption)

def Delivery.ruleset (w : Watcher) (d : Delivery) : Option RuleSet :=
  (d.rules w).bind (fun rules => d.version.map (RuleSet.fromRulesJson w.eng rules))

def Versioned (ds : List Delivery) : Prop := ∀ d ∈ ds, ∀ e ∈ d.deploy, e.version.isSome

/-- The active version never decreases along the run. -/
def NeverDecreases (w : Watcher) (store : HotReloadRuleStore) (ds : List Delivery) : Prop :=
  ((ds.scanl (handle w) store).map HotReloadRuleStore.activeVersion).IsChain (· ≤ ·)

/-- Once a version was delivered, the active rule set is one with the highest version delivered. -/
def HighestActive (w : Watcher) (store : HotReloadRuleStore) (ds : List Delivery) : Prop :=
  (∃ d ∈ ds, d.version.isSome) →
    ∃ d ∈ ds, d.ruleset w = some (runHypothesisDeployWatcher w store ds).active
      ∧ ∀ d' ∈ ds, ∀ v ∈ d'.version, v ≤ (runHypothesisDeployWatcher w store ds).activeVersion

/-- The versions of the deploy events whose rules can be had, in the order of their delivery. -/
def appliedVersions (w : Watcher) (ds : List Delivery) : List UInt64 :=
  ds.filterMap (fun d => (d.ruleset w).map RuleSet.version)

/-- The events arrive in the order of their versions, from the version that was active at first on,
and no event without rules has a version above all others. -/
def InOrder (w : Watcher) (store : HotReloadRuleStore) (ds : List Delivery) : Prop :=
  (store.activeVersion :: appliedVersions w ds).IsChain (· ≤ ·)
    ∧ ∀ d ∈ ds, ∀ v ∈ d.version, ∃ v' ∈ appliedVersions w ds, v ≤ v'

/-! ## Runs -/

variable {w : Watcher} {store : HotReloadRuleStore} {d : Delivery} {ds : List Delivery}

/-- **One turn**: a message with a rule set makes it active, any other one changes nothing. -/
theorem handle_eq (hd : ∀ e ∈ d.deploy, e.version.isSome) :
    handle w store d = (d.ruleset w).elim store store.reload := by
  unfold handle Delivery.ruleset Delivery.rules Delivery.version
  cases hpayload : d.payload with
  | none => simp [Delivery.deploy, hpayload]
  | some e =>
    by_cases hdeploy : e.isDeploy = true
    · have hev : d.deploy = some e := by simp [Delivery.deploy, hpayload, hdeploy]
      obtain ⟨v, hv⟩ := isSome_iff_exists.mp (hd e (by simp [hev]))
      rw [hev]
      simp only [applyHypothesisDeployEvent, hdeploy, bind_some, hv]
      cases resolveRulesForEvent w d.redisGet e <;> rfl
    · have hev : d.deploy = none := by simp [Delivery.deploy, hpayload, hdeploy]
      rw [hev]
      simp only [applyHypothesisDeployEvent, Bool.not_eq_true] at hdeploy ⊢
      rw [hdeploy]
      rfl

theorem Versioned.tail (h : Versioned (d :: ds)) : Versioned ds :=
  fun d' hd' => h d' (mem_cons_of_mem _ hd')

/-- **A run ends with the last rule set that was delivered.** -/
theorem run_active (h : Versioned ds) :
    (runHypothesisDeployWatcher w store ds).active
      = ((ds.filterMap (Delivery.ruleset w)).getLast?).getD store.active := by
  induction ds generalizing store with
  | nil => rfl
  | cons d ds ih =>
    show (runHypothesisDeployWatcher w (handle w store d) ds).active = _
    rw [ih h.tail, handle_eq (h d (by simp))]
    cases hrs : d.ruleset w with
    | none => rw [filterMap_cons_none hrs]; rfl
    | some rs =>
      rw [filterMap_cons_some hrs, getLast?_cons]
      rfl

theorem neverDecreases_iff (h : Versioned ds) :
    NeverDecreases w store ds
      ↔ (store.activeVersion :: appliedVersions w ds).IsChain (· ≤ ·) := by
  unfold NeverDecreases appliedVersions
  induction ds generalizing store with
  | nil => simp
  | cons d ds ih =>
    rw [scanl_cons, map_cons]
    have hnext := @ih (handle w store d) h.tail
    rw [handle_eq (h d (by simp))] at hnext ⊢
    have hhead : ∀ s : HotReloadRuleStore, ∃ l,
        (ds.scanl (handle w) s).map HotReloadRuleStore.activeVersion = s.activeVersion :: l := by
      intro s
      cases ds with
      | nil => exact ⟨[], rfl⟩
      | cons d' ds' => exact ⟨_, by rw [scanl_cons, map_cons]⟩
    obtain ⟨l, hl⟩ := hhead ((d.ruleset w).elim store store.reload)
    rw [hl] at hnext ⊢
    rw [isChain_cons_cons, hnext]
    cases hrs : d.ruleset w with
    | none => simp [hrs]
    | some rs =>
      simp [hrs, HotReloadRuleStore.reload, HotReloadRuleStore.activeVersion]

theorem mem_appliedVersions {v : UInt64} :
    v ∈ appliedVersions w ds ↔ ∃ d ∈ ds, ∃ rs, d.ruleset w = some rs ∧ rs.version = v := by
  simp [appliedVersions, mem_filterMap]

theorem le_last_of_inOrder {rulesets : List RuleSet} {v₀ v : UInt64} {rs : RuleSet}
    (hchain : (v₀ :: rulesets.map RuleSet.version).IsChain (· ≤ ·))
    (hlast : rulesets.getLast? = some rs) (hv : v ∈ rulesets.map RuleSet.version) :
    v ≤ rs.version := by
  obtain ⟨front, hfront⟩ := getLast?_eq_some_iff.mp hlast
  rw [hfront, map_append] at hchain hv
  have hpairs := (isChain_iff_pairwise.mp hchain).of_cons
  rw [pairwise_append] at hpairs
  rcases mem_append.mp hv with hv | hv
  · exact hpairs.2.2 v hv rs.version (by simp)
  · rw [mem_singleton.mp hv]
    exact UInt64.le_refl _

/-- **The active rule set has the highest version delivered and the active version never decreases,
exactly when the events are delivered in the order of their versions.** -/
theorem highest_active_iff (w : Watcher) (store : HotReloadRuleStore) (ds : List Delivery)
    (h : Versioned ds) :
    (NeverDecreases w store ds ∧ HighestActive w store ds) ↔ InOrder w store ds := by
  rw [neverDecreases_iff h]
  refine and_congr_right (fun hchain => ?_)
  constructor
  · intro hhighest d hd v hv
    obtain ⟨d₀, hd₀, hrs, hmax⟩ := hhighest ⟨d, hd, isSome_of_mem hv⟩
    exact ⟨_, mem_appliedVersions.mpr ⟨d₀, hd₀, _, hrs, rfl⟩, hmax d hd v hv⟩
  · rintro hresolved ⟨d, hd, hsome⟩
    obtain ⟨v, hv⟩ := isSome_iff_exists.mp hsome
    obtain ⟨v', hv', -⟩ := hresolved d hd v hv
    have happlied : appliedVersions w ds
        = (ds.filterMap (Delivery.ruleset w)).map RuleSet.version := by
      rw [appliedVersions, map_filterMap]
    -- some event was applied, so that there is a last one
    have hne : ds.filterMap (Delivery.ruleset w) ≠ [] := by
      intro hnil
      rw [happlied, hnil] at hv'
      cases hv'
    obtain ⟨rs, hlast⟩ := isSome_iff_exists.mp (getLast?_isSome.mpr hne)
    have hactive : (runHypothesisDeployWatcher w store ds).active = rs := by
      rw [run_active h, hlast, getD_some]
    obtain ⟨d₀, hd₀, hrs⟩ := mem_filterMap.mp (mem_of_getLast? hlast)
    refine ⟨d₀, hd₀, by rw [hactive, hrs], ?_⟩
    intro d' hd' v' hv'
    obtain ⟨v'', hv'', hle⟩ := hresolved d' hd' v' hv'
    rw [happlied] at hchain hv''
    rw [HotReloadRuleStore.activeVersion, hactive]
    exact UInt64.le_trans hle (le_last_of_inOrder hchain hlast hv'')

namespace Demo

def watcher : Watcher where
  redisUrl := none
  redisKey := "shadow:rules:active"
  eng := ⟨fun _ => "0.0", ⟨fun _ => "0.0", fun s => s⟩, fun _ => .error "unused", fun _ _ => false,
    id⟩
  fromStr := fun _ => .error "unused"

def deploy (version : UInt64) : Delivery where
  payload := some {
    event := "hypothesis_deployed"
    version := some version
    rules := some [.object [("id", .string "shadow_lane"),
      ("metadata", .object [("is_shadow", .bool true)]),
      ("when", .array [.object [("op", .string "exists"), ("field", .string "lane")]])]]
    redisKey := none }
  redisGet := fun _ _ => .ok none

end Demo

open Demo

theorem highest_active_of_order :
    NeverDecreases watcher (.new .empty) [deploy 1, deploy 2, deploy 2]
      ∧ HighestActive watcher (.new .empty) [deploy 1, deploy 2, deploy 2] := by
  have hversioned : Versioned [deploy 1, deploy 2, deploy 2] := by
    simp [Versioned, Delivery.deploy, deploy, HypothesisDeployEvent.isDeploy]
  have happlied : appliedVersions watcher [deploy 1, deploy 2, deploy 2]
      = [1, 2, 2] := rfl
  have hversion : ∀ v, (deploy v).version = some v := fun _ => rfl
  refine (highest_active_iff _ _ _ hversioned).mpr ⟨by rw [happlied]; decide, ?_⟩
  rw [happlied]
  simp [hversion]

/-- Version 1, delivered after version 2, becomes active. -/
theorem older_version_active :
    (runHypothesisDeployWatcher watcher (.new .empty) [deploy 2]).activeVersion = 2
      ∧ (runHypothesisDeployWatcher watcher (.new .empty) [deploy 2, deploy 1]).activeVersion = 1 :=
  ⟨rfl, rfl⟩

end Tarka.Rules.HotReload
