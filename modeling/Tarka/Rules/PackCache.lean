import Tarka.Json.RoundTrip
import Tarka.Lib.Steps
import Tarka.Rules.PackRust

/-! # The parse cache of the Rust engine (`pack_ffi.rs`)

`sync_packs_json` keeps the text of the active packs; `evaluate_json_rules_rust` parses that text
once and finds the result by the hash of the text afterwards. Both take their locks only for the
moment of an access, so that syncs and evaluations of any number of callers interleave: a call reads
the text, looks it up, parses and stores it after a miss, and evaluates.

A call should return what evaluating the list that was synced last, when it read the text, returns
(`Call.direct`). `cached_eq_direct` says that it does as long as the doubles of the packs survive
the text that is kept of them: sync writes the packs with `serde_json` and the evaluation reads them
again, and that reader rounds some doubles differently (`rounded_twice`). -/

namespace Tarka.Rules.Rust.PackCache

open Tarka.Lib Tarka.Json Option Function List Value Steps

def hexByte (b : UInt8) : List Char :=
  [Nat.digitChar (b.toNat / 16), Nat.digitChar (b.toNat % 16)]

/-- What the engine calls. -/
structure Env where
  eng : Engines
  dates : Dates
  sha256 : List UInt8 → List UInt8
  add : F64 → F64 → F64
  /-- The double `serde_json` reads for a numeral. -/
  parseFloat : Numeral → Option FiniteF64
  /-- The message of `serde_json` about a text. -/
  error : String → String

def Env.serde (env : Env) : Serde := ⟨env.eng.displayF64, env.parseFloat, env.error⟩

/-- An evaluation with its arguments, parsed, and the clock it runs by. -/
structure Call where
  req : Request
  features : KeyMap Value
  redisTags : List String
  signalTags : Option (List String)
  now : Int
  clock : Nat → RuleKind → Nat → Bool

inductive CallError where
  | engineNotInitialized
  | jsonParse (source text : String)
  | engine (e : EngineError)
  deriving DecidableEq

section

variable (env : Env)

def Call.host (c : Call) : Host where
  eng := env.eng
  dates := env.dates
  sha256 := env.sha256
  now := c.now
  add := env.add
  clock := c.clock

def Call.evaluate (c : Call) (parsed : List ParsedPack) : Except CallError Outcome :=
  (evaluateParsedSlice (c.host env) c.features (mergeTagsSignal c.redisTags c.signalTags)
    (orDefault (trim c.req.tenantId)) (orDefault (trim c.req.entityId))
    (.ofName c.req.evaluationMode) parsed).mapError .engine

def Call.direct (c : Call) (packs : List Value) : Except CallError Outcome :=
  (evaluatePacks (c.host env) c.req true packs c.features c.redisTags c.signalTags).mapError .engine

def isActive (v : Value) : Bool :=
  packVersionIsV1 v && (v.get? "mode").bind isString != some "disabled"
    && (v.get? "mode").bind isString != some "shadow"

/-- `serde_json::from_str` as a `Vec`. -/
def fromStrVec (source text : String) : Except CallError (List Value) :=
  match env.serde.fromStr text with
  | .ok (.array vs) => .ok vs
  | .ok _ => .error (.jsonParse source (env.error text))
  | .error e => .error (.jsonParse source e)

def activeText (packs : List Value) : String := env.serde.text (.array (packs.filter isActive))

def cacheKey (text : String) : String :=
  String.ofList ((env.sha256 (utf8 text)).flatMap hexByte)

end

/-! ## States and steps -/

/-- Where a call is. It remembers the list that was synced last when it read the text. -/
inductive Phase where
  | idle
  | holding (call : Call) (packs : List Value) (text : String)
  | missed (call : Call) (packs : List Value) (text : String)
  | ready (call : Call) (packs : List Value) (parsed : List ParsedPack)
  | done (call : Call) (packs : Option (List Value)) (result : Except CallError Outcome)

/-- `ACTIVE_PACKS_JSON`, `PARSED_CACHE` and the calls. The field `synced` is history: the list that
was synced last. -/
structure State where
  activePacksJson : Option String
  parsedCache : List (String × List ParsedPack)
  calls : Nat → Phase
  synced : Option (List Value)

def State.init : State := ⟨none, [], fun _ => .idle, none⟩

def State.setPhase (s : State) (i : Nat) (p : Phase) : State :=
  { s with calls := Function.update s.calls i p }

inductive Action where
  | sync (packsJson : String)
  | read (i : Nat) (call : Call)
  | lookUp (i : Nat)
  | parse (i : Nat)
  | finish (i : Nat)

section

variable (env : Env)

/-- `get_cached_parsed` after a miss: the packs, which are stored, or an error. -/
def parseAndStore (s : State) (i : Nat) (call : Call) (packs : List Value) (text : String) :
    State :=
  match fromStrVec env "packs_cache" text with
  | .error e => s.setPhase i (.done call (some packs) (.error e))
  | .ok arr =>
    match parseActivePacks env.eng env.dates true arr with
    | .error e => s.setPhase i (.done call (some packs) (.error (.engine e)))
    | .ok parsed =>
      { s with parsedCache := Dict.set s.parsedCache (cacheKey env text) parsed }.setPhase i
        (.ready call packs parsed)

def step (s : State) : Action → Option State
  | .sync packsJson =>
    match fromStrVec env "sync_packs_json" packsJson with
    | .error _ => some s
    | .ok arr => some { s with activePacksJson := some (activeText env arr), synced := some arr }
  | .read i call =>
    match s.calls i with
    | .idle =>
      match s.activePacksJson with
      | none => some (s.setPhase i (.done call s.synced (.error .engineNotInitialized)))
      | some text => some (s.setPhase i (.holding call (s.synced.getD []) text))
    | _ => none
  | .lookUp i =>
    match s.calls i with
    | .holding call packs text =>
      match s.parsedCache.lookup (cacheKey env text) with
      | some parsed => some (s.setPhase i (.ready call packs parsed))
      | none => some (s.setPhase i (.missed call packs text))
    | _ => none
  | .parse i =>
    match s.calls i with
    | .missed call packs text => some (parseAndStore env s i call packs text)
    | _ => none
  | .finish i =>
    match s.calls i with
    | .ready call packs parsed =>
      some (s.setPhase i (.done call (some packs) (call.evaluate env parsed)))
    | _ => none

end

@[simp] theorem calls_setPhase_self (s : State) (i : Nat) (p : Phase) :
    (s.setPhase i p).calls i = p := by
  show update s.calls i p i = p
  rw [update_self]

variable {i : Nat}

theorem calls_setPhase_ne (s : State) {j : Nat} (p : Phase) (h : j ≠ i) :
    (s.setPhase i p).calls j = s.calls j := by
  show update s.calls i p j = s.calls j
  rw [update_of_ne h]

/-! ## What is kept of a list of packs -/

theorem isActive_eq_eligible (v : Value) : isActive v = eligible true v := by
  unfold isActive eligible stringField
  cases (v.get? "mode").bind isString with
  | none => simp [bne]
  | some mode => simp [bne]

theorem parseActivePacks_filter (eng : Engines) (dates : Dates) (packs : List Value) :
    parseActivePacks eng dates true (packs.filter isActive)
      = parseActivePacks eng dates true packs := by
  unfold parseActivePacks
  induction packs with
  | nil => rfl
  | cons v packs ih =>
    by_cases hv : isActive v = true
    · rw [filter_cons_of_pos hv, collect, collect, ih]
    · have hskip : parsePack eng dates true v = .ok none := by
        rw [isActive_eq_eligible] at hv
        rw [parsePack, if_neg hv]
      rw [filter_cons_of_neg hv, ih, collect, hskip]

section

variable {env : Env} (hs : env.serde.Lawful)

/-- A list that sync accepts. -/
structure Synced (env : Env) (packs : List Value) : Prop where
  canonical : ∀ v ∈ packs, v.Canonical
  depth : Value.depthItems packs + 1 < recursionLimit
  survives : Value.allFloatsItems env.serde.survives (packs.filter isActive) = true

include hs

variable {packs : List Value}

/-- **The text of the active packs is read back as these packs.** -/
theorem fromStrVec_activeText (h : Synced env packs) (source : String) :
    fromStrVec env source (activeText env packs) = .ok (packs.filter isActive) := by
  have hcanonical : (array (packs.filter isActive)).Canonical :=
    canonicalItems_iff.mpr (fun v hv => h.canonical v (mem_of_mem_filter hv))
  have hitems : depthItems (packs.filter isActive) ≤ depthItems packs :=
    depthItems_le.mpr (fun v hv => depthItems_le.mp (Nat.le_refl _) v (mem_of_mem_filter hv))
  have hdepth : (array (packs.filter isActive)).depth < recursionLimit := by
    have hlimit := h.depth
    rw [depth]
    omega
  rw [fromStrVec, activeText, fromStr_text hs hcanonical hdepth h.survives]

omit hs in
theorem synced_of_fromStrVec {source text : String} (hok : fromStrVec env source text = .ok packs)
    (hsurvives : allFloatsItems env.serde.survives (packs.filter isActive)) : Synced env packs := by
  rw [fromStrVec] at hok
  split at hok
  · rename_i vs hread
    cases hok
    obtain ⟨hcanonical, hdepth⟩ := canonical_of_fromStr hread
    exact ⟨canonicalItems_iff.mp hcanonical, hdepth, hsurvives⟩
  · cases hok
  · cases hok

/-! ## The invariant -/

def ParsesTo (env : Env) (packs : List Value) (parsed : List ParsedPack) : Prop :=
  parseActivePacks env.eng env.dates true packs = .ok parsed

def Call.expected (env : Env) (c : Call) (packs : Option (List Value)) :
    Except CallError Outcome :=
  packs.elim (.error .engineNotInitialized) (c.direct env)

def PhaseOk (env : Env) (texts : Set String) : Phase → Prop
  | .idle => True
  | .holding _ packs text => Synced env packs ∧ text = activeText env packs ∧ text ∈ texts
  | .missed _ packs text => Synced env packs ∧ text = activeText env packs ∧ text ∈ texts
  | .ready _ packs parsed => ParsesTo env packs parsed
  | .done call packs result => result = call.expected env packs

/-- **The invariant**: the text is that of the list synced last, and what is stored under the key of
a text is what the text is parsed to. -/
structure Inv (env : Env) (texts : Set String) (s : State) : Prop where
  active : s.activePacksJson = s.synced.map (activeText env)
  synced : ∀ packs, s.synced = some packs → Synced env packs ∧ activeText env packs ∈ texts
  cache : ∀ k parsed, s.parsedCache.lookup k = some parsed → ∃ packs, Synced env packs
    ∧ activeText env packs ∈ texts ∧ k = cacheKey env (activeText env packs)
    ∧ ParsesTo env packs parsed
  calls : ∀ i, PhaseOk env texts (s.calls i)

omit hs in
theorem inv_init (env : Env) (texts : Set String) : Inv env texts State.init where
  active := rfl
  synced := by
    intro packs h
    cases h
  cache := by
    intro k parsed h
    cases h
  calls := fun _ => trivial

omit hs in
theorem Inv.setPhase {texts : Set String} {s : State} (hinv : Inv env texts s)
    {p : Phase} (hp : PhaseOk env texts p) : Inv env texts (s.setPhase i p) where
  active := hinv.active
  synced := hinv.synced
  cache := hinv.cache
  calls := by
    intro j
    by_cases hj : j = i
    · rw [hj, calls_setPhase_self]
      exact hp
    · rw [calls_setPhase_ne s p hj]
      exact hinv.calls j

omit hs in
theorem evaluate_eq_direct {call : Call} {parsed : List ParsedPack}
    (h : ParsesTo env packs parsed) : call.evaluate env parsed = call.direct env packs := by
  have hparse : parseActivePacks (call.host env).eng (call.host env).dates true packs
      = .ok parsed :=
    h
  rw [Call.direct, evaluatePacks, hparse]
  rfl

omit hs in
theorem direct_eq_error {call : Call} {e : EngineError}
    (h : parseActivePacks env.eng env.dates true packs = .error e) :
    call.direct env packs = .error (.engine e) := by
  have hparse : parseActivePacks (call.host env).eng (call.host env).dates true packs
      = .error e := h
  rw [Call.direct, evaluatePacks, hparse]
  rfl

theorem inv_parseAndStore {texts : Set String} {s : State} (hinv : Inv env texts s) {call : Call}
    {text : String} (hsynced : Synced env packs) (htext : text = activeText env packs)
    (hmem : text ∈ texts) : Inv env texts (parseAndStore env s i call packs text) := by
  subst htext
  simp only [parseAndStore, fromStrVec_activeText hs hsynced, parseActivePacks_filter]
  cases hparse : parseActivePacks env.eng env.dates true packs with
  | error e => exact hinv.setPhase (show _ = _ from (direct_eq_error hparse).symm)
  | ok parsed =>
    have hphase : PhaseOk env texts (.ready call packs parsed) := hparse
    apply Inv.setPhase _ hphase
    refine ⟨hinv.active, hinv.synced, ?_, hinv.calls⟩
    intro k parsed' hlookup
    rw [Dict.lookup_set] at hlookup
    split_ifs at hlookup with hk
    · cases hlookup
      exact ⟨packs, hsynced, hmem, hk, hparse⟩
    · exact hinv.cache k parsed' hlookup

/-- Lists whose texts have one key are parsed alike: no two texts have the same. -/
theorem ParsesTo.of_cacheKey_eq {texts : Set String} (hkey : Set.InjOn (cacheKey env) texts)
    {packs' : List Value} (hgood : Synced env packs) (hgood' : Synced env packs')
    (hmem : activeText env packs ∈ texts) (hmem' : activeText env packs' ∈ texts)
    (hk : cacheKey env (activeText env packs) = cacheKey env (activeText env packs'))
    {parsed : List ParsedPack} (h : ParsesTo env packs' parsed) : ParsesTo env packs parsed := by
  have htext := hkey hmem hmem' hk
  have hfilter : packs.filter isActive = packs'.filter isActive := by
    have hread := fromStrVec_activeText hs hgood ""
    rw [htext, fromStrVec_activeText hs hgood' ""] at hread
    exact (Except.ok.inj hread).symm
  show parseActivePacks env.eng env.dates true packs = .ok parsed
  rw [← parseActivePacks_filter, hfilter, parseActivePacks_filter]
  exact h

/-- What a sync step has to meet: the doubles of the packs that are kept survive. -/
def SyncOk (env : Env) (texts : Set String) : Action → Prop
  | .sync packsJson => ∀ packs, fromStrVec env "sync_packs_json" packsJson = .ok packs →
      activeText env packs ∈ texts
        ∧ Value.allFloatsItems env.serde.survives (packs.filter isActive) = true
  | _ => True

omit hs in
theorem inv_sync {texts : Set String} {s s' : State} {packsJson : String}
    (hinv : Inv env texts s) (hok : SyncOk env texts (.sync packsJson))
    (hstep : step env s (.sync packsJson) = some s') : Inv env texts s' := by
  simp only [step] at hstep
  cases hread : fromStrVec env "sync_packs_json" packsJson with
  | error e =>
    rw [hread] at hstep
    cases hstep
    exact hinv
  | ok packs =>
    rw [hread] at hstep
    cases hstep
    obtain ⟨hmem, hsurvives⟩ := hok packs hread
    refine ⟨rfl, ?_, hinv.cache, hinv.calls⟩
    intro packs' hpacks
    cases hpacks
    exact ⟨synced_of_fromStrVec hread hsurvives, hmem⟩

omit hs in
theorem inv_read {texts : Set String} {s s' : State} {call : Call}
    (hinv : Inv env texts s) (hstep : step env s (.read i call) = some s') : Inv env texts s' := by
  simp only [step] at hstep
  split at hstep
  · have hactive := hinv.active
    cases hsynced : s.synced with
    | none =>
      rw [hsynced] at hactive
      rw [hactive, hsynced] at hstep
      cases hstep
      exact hinv.setPhase rfl
    | some packs =>
      rw [hsynced] at hactive
      rw [hactive, hsynced] at hstep
      cases hstep
      obtain ⟨hgood, hmem⟩ := hinv.synced packs hsynced
      exact hinv.setPhase ⟨hgood, rfl, hmem⟩
  · cases hstep

/-- **Every step keeps the invariant.** -/
theorem inv_step {texts : Set String} (hkey : Set.InjOn (cacheKey env) texts) (s : State)
    (a : Action) (s' : State) (hinv : Inv env texts s) (hok : SyncOk env texts a)
    (hstep : step env s a = some s') : Inv env texts s' := by
  cases a with
  | sync packsJson => exact inv_sync hinv hok hstep
  | read i call => exact inv_read hinv hstep
  | lookUp i =>
    simp only [step] at hstep
    split at hstep
    · rename_i call packs text hphase
      have hcall := hinv.calls i
      rw [hphase] at hcall
      obtain ⟨hgood, rfl, hmem⟩ := hcall
      split at hstep
      · rename_i parsed hlookup
        cases hstep
        -- the entry was stored for the same text
        obtain ⟨packs', hgood', hmem', hk, hparse⟩ := hinv.cache _ _ hlookup
        have hsame := ParsesTo.of_cacheKey_eq hs hkey hgood hgood' hmem hmem' hk hparse
        exact hinv.setPhase hsame
      · cases hstep
        exact hinv.setPhase ⟨hgood, rfl, hmem⟩
    · cases hstep
  | parse i =>
    simp only [step] at hstep
    split at hstep
    · rename_i call packs text hphase
      have hcall := hinv.calls i
      rw [hphase] at hcall
      obtain ⟨hgood, htext, hmem⟩ := hcall
      cases hstep
      exact inv_parseAndStore hs hinv hgood htext hmem
    · cases hstep
  | finish i =>
    simp only [step] at hstep
    split at hstep
    · rename_i call packs parsed hphase
      have hcall := hinv.calls i
      rw [hphase] at hcall
      cases hstep
      exact hinv.setPhase (evaluate_eq_direct hcall)
    · cases hstep

end

/-! ## Runs -/

def syncedTexts (env : Env) (as : List Action) : Set String :=
  { t | ∃ packsJson packs, Action.sync packsJson ∈ as
    ∧ fromStrVec env "sync_packs_json" packsJson = .ok packs ∧ t = activeText env packs }

/-- The answer of a call that is done, with the one it should have given. -/
def Phase.answer (env : Env) :
    Phase → Option (Except CallError Outcome × Except CallError Outcome)
  | .done call packs result => some (result, call.expected env packs)
  | _ => none

theorem exists_of_answer {env : Env} {p : Phase}
    {a : Except CallError Outcome × Except CallError Outcome} (h : p.answer env = some a) :
    ∃ call packs, p = .done call packs a.1 := by
  cases p with
  | done call packs result =>
    cases h
    exact ⟨call, packs, rfl⟩
  | _ => cases h

namespace Sample

/-- The double `serde_json` reads for `9.008299839474442`. -/
def once : F64 := ⟨0x4022043FE06635A5⟩

/-- The double it reads for the text of that one. The digits of the text exceed 53 bits, and the
reader rounds them before it divides. -/
def twice : F64 := ⟨0x4022043FE06635A4⟩

/-- The digits of `once` and `twice` after the point; other doubles are written by their bits. -/
def fraction (x : F64) : List Char :=
  if x = once then "008299839474441".toList
  else if x = twice then "00829983947444".toList
  else Nat.toDigits 10 x.bits.toNat

def parseFloat (n : Numeral) : Option FiniteF64 :=
  if n.frac = "008299839474442".toList then some ⟨once, by decide⟩
  else if n.frac = "008299839474441".toList ∨ n.frac = "00829983947444".toList then
    some ⟨twice, by decide⟩
  else none

def env : Env where
  eng := ⟨fun x => String.ofList ('9' :: '.' :: fraction x), ⟨fun _ => "0.0", fun s => s⟩,
    fun _ => .error "", fun _ _ => false, id⟩
  dates := ⟨fun _ => none, fun _ => none⟩
  sha256 := fun bytes => bytes
  add := fun _ y => y
  parseFloat := parseFloat
  error := fun _ => "expected value"

theorem isDigit_fraction (x : F64) : ∀ c ∈ fraction x, c.isDigit = true := by
  unfold fraction
  split_ifs
  · decide
  · decide
  · intro c hc
    exact isDigit_of_mem_toDigits hc

theorem fraction_ne_nil (x : F64) : fraction x ≠ [] := by
  unfold fraction
  split_ifs
  · decide
  · decide
  · exact Nat.toDigits_ne_nil

theorem serde_lawful : env.serde.Lawful where
  spells := by
    intro x
    refine ⟨⟨false, ['9'], fraction x.val, none⟩, ?_, ?_⟩
    · simp [Numeral.isInteger, fraction_ne_nil]
    · intro r hr
      show readNumeral ((String.ofList ('9' :: '.' :: fraction x.val)).toList ++ r) = _
      rw [String.toList_ofList]
      have hnine : ∀ c ∈ ['9'], c.isDigit := by decide
      exact readNumeral_point hnine (by decide) (by decide) (isDigit_fraction x.val)
        (fraction_ne_nil x.val) hr

def packsJson (score : String) : String :=
  "[\x7b\"tag_rules\":[\x7b\"id\":\"t\",\"any_tag\":[\"vip\"],\"score_delta\":" ++ score
    ++ "\x7d]\x7d]"

def call : Call where
  req := ⟨"acme", "e1", "production"⟩
  features := KeyMap.empty
  redisTags := ["vip"]
  signalTags := none
  now := 0
  clock := fun _ _ _ => false

/-- One list, an evaluation that fills the cache and one that finds it there. -/
def schedule (score : String) : List Action :=
  [.sync (packsJson score), .read 0 call, .lookUp 0, .parse 0, .finish 0, .read 1 call, .lookUp 1,
    .finish 1]

theorem sync_mem_schedule {score packsJson' : String}
    (h : Action.sync packsJson' ∈ schedule score) : packsJson' = packsJson score := by
  simpa [schedule] using h

end Sample

open Sample

/-- **The cache is transparent**: in every interleaving of syncs and evaluations, a call returns
what the direct evaluation of the list synced last returns, if the doubles of the packs survive
their text and no two texts have one hash. -/
theorem cached_eq_direct {env : Env} (hs : env.serde.Lawful) {as : List Action} {s : State}
    (hkey : Set.InjOn (cacheKey env) (syncedTexts env as))
    (hsurvives : ∀ packsJson packs, Action.sync packsJson ∈ as →
      fromStrVec env "sync_packs_json" packsJson = .ok packs →
      Value.allFloatsItems env.serde.survives (packs.filter isActive) = true)
    (hrun : Steps.run (step env) State.init as = some s) {i : Nat} {call : Call}
    {packs : Option (List Value)} {result : Except CallError Outcome}
    (hdone : s.calls i = .done call packs result) : result = call.expected env packs := by
  have hsync : ∀ a ∈ as, SyncOk env (syncedTexts env as) a := by
    intro a ha
    cases a with
    | sync packsJson =>
      intro packs hread
      exact ⟨⟨packsJson, packs, ha, hread, rfl⟩, hsurvives packsJson packs ha hread⟩
    | _ => trivial
  have htrue : Meets (step env) (fun _ _ => True) State.init as :=
    meets_true State.init as
  have hmeets := htrue.and_forall hsync
  have hinv : Inv env (syncedTexts env as) s :=
    invariant_of_run (fun s a s' hinv hok hstep => inv_step hs hkey s a s' hinv hok.2 hstep)
      (inv_init env _) hmeets hrun
  have hcall := hinv.calls i
  rw [hdone] at hcall
  exact hcall

/-- An integer score, evaluated from the cache. -/
theorem cached_eq_direct_integer :
    ∃ s call packs result, Steps.run (step env) State.init (schedule "7") = some s
      ∧ s.calls 1 = .done call packs result ∧ result = call.expected env packs := by
  have hkey : Set.InjOn (cacheKey env) (syncedTexts env (schedule "7")) := by
    apply Set.Subsingleton.injOn
    rintro _ ⟨json, packs, hsync, hread, rfl⟩ _ ⟨json', packs', hsync', hread', rfl⟩
    rw [sync_mem_schedule hsync] at hread
    rw [sync_mem_schedule hsync', hread] at hread'
    rw [Except.ok.inj hread']
  have hsurvives : ∀ json packs, Action.sync json ∈ schedule "7" →
      fromStrVec env "sync_packs_json" json = .ok packs →
        allFloatsItems env.serde.survives (packs.filter isActive) = true := by
    intro json packs hsync hread
    have hall : (fromStrVec env "sync_packs_json" (packsJson "7")).toOption.all
        (fun packs => allFloatsItems env.serde.survives (packs.filter isActive)) := by
      decide +kernel
    rw [sync_mem_schedule hsync] at hread
    rw [hread] at hall
    exact hall
  have hanswer : ((run (step env) State.init (schedule "7")).bind
      (fun s => (s.calls 1).answer env)).isSome := by
    decide +kernel
  obtain ⟨p, hp⟩ := isSome_iff_exists.mp hanswer
  obtain ⟨s, hrun, hphase⟩ := bind_eq_some_iff.mp hp
  obtain ⟨call, packs, hdone⟩ := exists_of_answer hphase
  exact ⟨s, call, packs, p.1, hrun, hdone, cached_eq_direct serde_lawful hkey hsurvives hrun hdone⟩

/-- A score that is read, written and read again is not the score of the list. -/
theorem rounded_twice :
    ((Steps.run (step env) State.init (schedule "9.008299839474442")).bind
        (fun s => (s.calls 0).answer env)).map
          (fun p => (p.1.toOption.map Outcome.scoreDelta, p.2.toOption.map Outcome.scoreDelta))
      = some (some twice, some once) := by
  decide +kernel

end Tarka.Rules.Rust.PackCache
