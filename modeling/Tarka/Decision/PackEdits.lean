import Tarka.Decision.RulePacks
import Tarka.Lib.Loop

/-! # What a call can write

Every call on the rule packs is a chain of writes, and every write replaces one file. `Edit` says
once what each call can make of a file; `after_writes` says that there is nothing else. What is
proved about edits then holds for every call, and for every run of calls, without a look at the
calls. -/

namespace Tarka.Decision.RulePacks

open Tarka.Lib Tarka.Json Option Dict

/-! ## Files -/

def put (files : Files) (file : String) : Option Pack → Files
  | some p => files.insert file p
  | none => files.erase file

theorem get?_put (files : Files) (file g : String) (new : Option Pack) :
    (put files file new).get? g = if g = file then new else files.get? g := by
  cases new with
  | some p => exact files.get?_insert file g p
  | none => exact files.get?_erase file g

/-! ## Edits -/

def Operation.ticks : Operation → Bool
  | .autoPromoteTick _ => true
  | .createScoutPack _ _ _ _ => true
  | _ => false

def Operation.activates : Operation → Bool
  | .promoteShadowPack _ _ _ => true
  | op => op.ticks

/-- What a call can make of a file. -/
inductive Edit (host : Host) : Operation → String → Option Pack → Option Pack → Prop where
  | create {file : String} {body : RulePackIn} {valid : Bool} {old : Option Pack} :
      Edit host (.createRulePack file body valid) file old (some (rulePack body))
  | update {filename : String} {body : RulePackIn} {valid : Bool} {p : Pack} :
      Edit host (.updateRulePack filename body valid) filename (some p) (some (rulePack body))
  | delete {filename : String} {p : Pack} :
    Edit host (.deleteRulePack filename) filename (some p) none
  | addRule {filename : String} {rule : Value} {valid : Bool} {p p' : Pack}
      (h : appendRule p rule = .ok p') :
      Edit host (.addRule filename rule valid) filename (some p)
        (some (Dict.set p' "mode" (.string "shadow")))
  | removeRule {filename ruleId : String} {p p' : Pack} (h : withoutRule p ruleId = .ok p') :
      Edit host (.removeRule filename ruleId) filename (some p) (some p')
  | setMode {filename mode : String} {xActor : Option String} {p : Pack}
      (hmode : mode ∈ ["active", "shadow", "disabled"])
      (h : ¬ (mode = "shadow" ∧ saysLive host p = true)) :
      Edit host (.setPackMode filename mode xActor) filename (some p)
        (some (Dict.set p "mode" (.string mode)))
  | activate {op : Operation} {file now : String} {p p' : Pack} (hop : op.activates = true)
      (hlock : p.observeLocked = false) (h : activatedPack p now = .ok p') :
      Edit host op file (some p) (some p')
  | forceLive {filename reason : String} {xActor xApprover : Option String} {p : Pack}
      (hlock : p.observeLocked = false) :
      Edit host (.forceLivePack filename reason xActor xApprover) filename (some p)
        (some (Dict.set p "mode" (.string "active")))
  | propose {filename reason now who : String} {xActor : Option String} {p p' : Pack}
      (hactor : requireDemoteHuman host xActor = .ok who)
      (h : proposeDemote host p who reason now = .ok p') :
      Edit host (.proposeDemotePack filename reason xActor now) filename (some p) (some p')
  | confirm {filename reason now who : String} {xActor : Option String} {p p' : Pack}
      (hactor : requireDemoteHuman host xActor = .ok who)
      (h : confirmDemote host p who reason now = .ok p') :
      Edit host (.confirmDemotePack filename reason xActor now) filename (some p) (some p')
  | draft {file actor now : String} {receipt : Receipt} {tenantId xActor : Option String}
      {body : L2DraftIn} {backtestOk valid : Bool} {old : Option Pack} :
      Edit host (.createL2Draft file (some receipt) tenantId body xActor backtestOk valid now)
        file old (some (l2Pack host receipt body actor now))
  | abandon {file draftName actor now : String} {xActor : Option String} {p p' : Pack}
      (h : abandonDraft host p actor now = .ok p') :
      Edit host (.abandonL2Draft draftName xActor now) file (some p) (some (Dict.erase p' "_file"))
  | scout {file : String} {body : ScoutPackIn} {accepted : Bool} {tick : Tick} {old : Option Pack} :
      Edit host (.createScoutPack file body accepted tick) file old (some (scoutPack body))
  | slip {op : Operation} {slip : Slip} (hop : op.ticks = true) :
      Edit host op (slipFile slip) none (some (slipPack slip))
  | kill {op : Operation} {file : String} {p : Pack} (hop : op.ticks = true)
      (h : isKillable host p = true) :
      Edit host op file (some p) (some (Dict.set p "mode" (.string "disabled")))
  | vertical {file verticalName verticalId g : String} {v : VerticalPack}
      {overwrite promoteAllowed : Bool} {old : Option Pack} (h : g = file ∨ overwrite = true) :
      Edit host (.installVerticalPack file verticalName (some v) overwrite promoteAllowed) g old
        (some (verticalPack v verticalId))

open Edit

def Wrote (host : Host) (op : Operation) (files files' : Files) : Prop :=
  ∃ file new, Edit host op file (files.get? file) new ∧ files' = put files file new

def Writes (host : Host) (op : Operation) : Files → Files → Prop :=
  Relation.ReflTransGen (Wrote host op)

section

variable {host : Host} {op : Operation} {files files' : Files}

theorem Writes.preserves {P : Option Pack → Prop} {g : String} (h : Writes host op files files')
    (hedit : ∀ old new, Edit host op g old new → P old → P new) (hold : P (files.get? g)) :
    P (files'.get? g) := by
  induction h with
  | refl => exact hold
  | tail _ hwrote ih =>
    obtain ⟨file, new, hstep, rfl⟩ := hwrote
    rw [get?_put]
    by_cases hg : g = file
    · subst hg
      rw [if_pos rfl]
      exact hedit _ _ hstep ih
    · rw [if_neg hg]
      exact ih

variable {old new : Option Pack} {file : String}

theorem Edit.wrote (h : Edit host op file old new)
    (hold : files.get? file = old) : Wrote host op files (put files file new) :=
  ⟨file, new, by rw [hold]; exact h, rfl⟩

theorem Edit.writes (h : Edit host op file old new)
    (hold : files.get? file = old) : Writes host op files (put files file new) :=
  Relation.ReflTransGen.single (h.wrote hold)

end

/-! ## Ticks -/

variable {s : State}

section

variable {host : Host} {op : Operation} {filename : String}

theorem get?_of_existingPack {p : Pack} (h : existingPack s filename = .ok p) :
    s.files.get? filename = some p := by
  rw [existingPack] at h
  split_ifs at h
  obtain ⟨q, hq, hok⟩ := elim_eq_ok.mp h
  cases hok
  exact hq

variable {s' : State}

theorem existingPack_bind_eq_ok {f : Pack → Except HttpError State}
    (h : existingPack s filename >>= f = .ok s') :
    ∃ p, s.files.get? filename = some p ∧ f p = .ok s' := by
  obtain ⟨p, hp, hf⟩ := except_bind_eq_ok.mp h
  exact ⟨p, get?_of_existingPack hp, hf⟩

variable {now draftId : String}

/-- What is promoted by its name: a loaded pack of that name whose file is not locked. -/
theorem activateShadowPack_cases (h : activateShadowPack host s draftId now = .ok s') :
    ∃ found p p', shadowDraft host s (strip draftId) = some found ∧ s.files.get? found.1 = some p
      ∧ p.observeLocked = false ∧ activatedPack p now = .ok p' ∧ s' = save s found.1 p' := by
  rw [activateShadowPack] at h
  obtain ⟨found, hfound, h⟩ := elim_eq_ok.mp h
  obtain ⟨p, hfile, h⟩ := elim_eq_ok.mp h
  split_ifs at h with hlock
  obtain ⟨p', hp', hok⟩ := except_bind_eq_ok.mp h
  cases hok
  exact ⟨found, p, p', hfound, hfile, Bool.eq_false_iff.mpr hlock, hp', rfl⟩

theorem activateShadowPack_writes (hop : op.activates)
    (h : activateShadowPack host s draftId now = .ok s') : Writes host op s.files s'.files := by
  obtain ⟨found, p, p', -, hfile, hlock, hp', rfl⟩ := activateShadowPack_cases h
  exact (activate hop hlock hp').writes hfile

/-- What every activation keeps, the loop over the names keeps. -/
theorem activateAll_invariant {I : State → Prop} {names : List String}
    (hstep : ∀ s s', ∀ name ∈ names, I s → activateShadowPack host s name now = .ok s' → I s')
    (h : I s) : I (activateAll host now s names).1 := by
  induction names generalizing s with
  | nil => exact h
  | cons name names ih =>
    have hrest := fun s s' n hn => hstep s s' n (List.mem_cons_of_mem name hn)
    rw [activateAll]
    cases hactivate : activateShadowPack host s name now with
    | ok s' => exact ih hrest (hstep s s' name List.mem_cons_self h hactivate)
    | error e =>
      by_cases he : e = observeLockedError
      · simp only [he, if_true]
        exact ih hrest h
      · simp only [he, if_false]
        exact h

theorem activateAll_writes (hop : op.activates) (now : String) (s : State)
    (names : List String) : Writes host op s.files (activateAll host now s names).1.files := by
  refine activateAll_invariant (I := fun s' => Writes host op s.files s'.files) ?_ .refl
  intro s₁ s₂ name _ hwrites hactivate
  exact hwrites.trans (activateShadowPack_writes hop hactivate)

section

variable (hop : op.ticks)

include hop

theorem writeSlipPack_writes (s : State) (slip : Slip) :
    Writes host op s.files (writeSlipPack s slip).files := by
  rw [writeSlipPack]
  cases hfile : s.files.get? (slipFile slip) with
  | none => exact (Edit.slip hop).writes hfile
  | some p => exact .refl

theorem slips_writes (slips : List Slip) (s : State) :
    Writes host op s.files (slips.foldl writeSlipPack s).files := by
  induction slips generalizing s with
  | nil => exact .refl
  | cons slip slips ih => exact (writeSlipPack_writes hop s slip).trans (ih _)

theorem killOne_writes (files : Files) (e : String × Pack) :
    Writes host op files (killOne host files e) := by
  rw [killOne]
  split_ifs with hloaded
  · cases hfile : files.get? e.1 with
    | none => exact .refl
    | some p =>
      rw [elim_some]
      split_ifs with hkill
      · exact (kill hop hkill).writes hfile
      · exact .refl
  · exact .refl

theorem kills_writes (loaded : List (String × Pack)) (files : Files) :
    Writes host op files (loaded.foldl (killOne host) files) := by
  induction loaded generalizing files with
  | nil => exact .refl
  | cons e loaded ih => exact (killOne_writes hop files e).trans (ih _)

theorem activates_of_ticks : op.activates = true := by
  cases op <;> simp_all [Operation.activates, Operation.ticks]

theorem runTick_writes (s : State) (tick : Tick) :
    Writes host op s.files (runTick host s tick).files := by
  have hpromote : Writes host op s.files (maybeAutoPromoteShadow host s tick).1.files := by
    rw [maybeAutoPromoteShadow]
    split_ifs
    · exact .refl
    · exact activateAll_writes (activates_of_ticks hop) _ _ _
  rw [runTick]
  generalize maybeAutoPromoteShadow host s tick = promoted at hpromote
  obtain ⟨s₁, done⟩ := promoted
  simp only at hpromote ⊢
  split_ifs with hdone hkill
  · exact hpromote
  · have hslips := hpromote.trans (slips_writes hop tick.slips s₁)
    exact hslips.trans (kills_writes hop _ _)
  · exact hpromote.trans (slips_writes hop tick.slips s₁)

end

/-! ## Calls -/

/-- **What a call writes.** -/
theorem apply_writes (h : apply host s op = .ok s') : Writes host op s.files s'.files := by
  cases op with
  | createRulePack file body valid =>
    obtain ⟨slug, -, h⟩ := except_bind_eq_ok.mp h
    split_ifs at h
    cases h
    exact create.writes rfl
  | updateRulePack filename body valid =>
    obtain ⟨p, hp, h⟩ := existingPack_bind_eq_ok h
    split_ifs at h
    cases h
    exact update.writes hp
  | deleteRulePack filename =>
    obtain ⟨p, hp, h⟩ := existingPack_bind_eq_ok h
    cases h
    exact delete.writes hp
  | addRule filename rule valid =>
    obtain ⟨p, hp, h⟩ := existingPack_bind_eq_ok h
    split_ifs at h
    obtain ⟨p', hp', h⟩ := except_bind_eq_ok.mp h
    cases h
    exact (addRule hp').writes hp
  | removeRule filename ruleId =>
    obtain ⟨p, hp, h⟩ := existingPack_bind_eq_ok h
    obtain ⟨p', hp', h⟩ := except_bind_eq_ok.mp h
    cases h
    exact (removeRule hp').writes hp
  | setPackMode filename mode xActor =>
    obtain ⟨p, hp, h⟩ := existingPack_bind_eq_ok h
    split_ifs at h with hmode hlive hactive
    · obtain ⟨who, -, h⟩ := except_bind_eq_ok.mp h
      cases h
    · obtain ⟨who, -, h⟩ := except_bind_eq_ok.mp h
      cases h
      exact (setMode hmode hlive).writes hp
    · cases h
      exact (setMode hmode hlive).writes hp
  | promoteShadowPack draftId promoteAllowed now =>
    rw [apply] at h
    obtain ⟨found, -, h⟩ := elim_eq_ok.mp h
    split_ifs at h
    exact activateShadowPack_writes rfl h
  | autoPromoteTick tick =>
    cases h
    exact runTick_writes rfl s tick
  | forceLivePack filename reason xActor xApprover =>
    obtain ⟨_, -, h⟩ := except_bind_eq_ok.mp h
    obtain ⟨actor, -, h⟩ := except_bind_eq_ok.mp h
    obtain ⟨_, -, h⟩ := except_bind_eq_ok.mp h
    obtain ⟨p, hp, h⟩ := existingPack_bind_eq_ok h
    split_ifs at h with hlock
    cases h
    exact (forceLive (Bool.eq_false_iff.mpr hlock)).writes hp
  | proposeDemotePack filename reason xActor now =>
    obtain ⟨_, -, h⟩ := except_bind_eq_ok.mp h
    obtain ⟨who, hactor, h⟩ := except_bind_eq_ok.mp h
    obtain ⟨p, hp, h⟩ := existingPack_bind_eq_ok h
    obtain ⟨p', hp', h⟩ := except_bind_eq_ok.mp h
    cases h
    exact (propose hactor hp').writes hp
  | confirmDemotePack filename reason xActor now =>
    obtain ⟨_, -, h⟩ := except_bind_eq_ok.mp h
    obtain ⟨who, hactor, h⟩ := except_bind_eq_ok.mp h
    obtain ⟨p, hp, h⟩ := existingPack_bind_eq_ok h
    obtain ⟨p', hp', h⟩ := except_bind_eq_ok.mp h
    cases h
    exact (confirm hactor hp').writes hp
  | createL2Draft file receipt tenantId body xActor backtestOk valid now =>
    cases receipt with
    | none => cases h
    | some receipt =>
      simp only [apply, createL2Draft, elim_some] at h
      split_ifs at h
      obtain ⟨hit, -, h⟩ := except_bind_eq_ok.mp h
      split_ifs at h
      obtain ⟨p, hp, h⟩ := except_bind_eq_ok.mp h
      cases h
      simp only [buildL2Draft] at hp
      split_ifs at hp
      cases hp
      exact draft.writes rfl
  | abandonL2Draft draftName xActor now =>
    simp only [apply, abandonL2Draft] at h
    obtain ⟨found, hfound, h⟩ := elim_eq_ok.mp h
    obtain ⟨p, hp, h⟩ := except_bind_eq_ok.mp h
    cases h
    have hread := List.mem_of_find?_eq_some hfound
    exact (abandon hp).writes ((KeyMap.mem_sortedEntries _ _ _).mp hread)
  | createScoutPack file body accepted tick =>
    rw [apply] at h
    split_ifs at h
    cases h
    have hcreated : Writes host (.createScoutPack file body accepted tick) s.files
        (save s file (scoutPack body)).files := scout.writes rfl
    exact hcreated.trans (runTick_writes rfl _ tick)
  | installVerticalPack file verticalName pack overwrite promoteAllowed =>
    cases pack with
    | none => cases h
    | some v =>
      simp only [apply, installVerticalPack, elim_some] at h
      by_cases hallowed : (!promoteAllowed) = true
      · rw [if_pos hallowed] at h
        cases h
      rw [if_neg hallowed] at h
      obtain ⟨verticalId, -, h⟩ := except_bind_eq_ok.mp h
      split at h
      · split_ifs at h with hoverwrite
        cases h
        exact (vertical (.inr (by simpa using hoverwrite))).writes rfl
      · cases h
        exact (vertical (.inl rfl)).writes rfl

theorem after_writes (host : Host) (s : State) (op : Operation) :
    Writes host op s.files (after host s op).files := by
  rw [after]
  cases h : apply host s op with
  | error e => exact .refl
  | ok s' => exact apply_writes h

end

/-! ## Runs -/

/-- Every call of a run meets a condition in the state it is made in. -/
def along (host : Host) (cond : State → Operation → Bool) : State → List Operation → Bool
  | _, [] => true
  | s, op :: ops => cond s op && along host cond (after host s op) ops

variable {cond : State → Operation → Bool} {ops : List Operation}

theorem along_cons {host : Host} {op : Operation} : along host cond s (op :: ops)
      ↔ cond s op ∧ along host cond (after host s op) ops = true := by
  rw [along, Bool.and_eq_true]

theorem along_append {host : Host} {before : List Operation} : along host cond s (before ++ ops)
      ↔ along host cond s before ∧ along host cond (afterAll host s before) ops = true := by
  induction before generalizing s with
  | nil => simp [along, afterAll]
  | cons op before ih =>
    rw [List.cons_append, along_cons, along_cons, ih, and_assoc]
    exact Iff.rfl

/-! ## What an edit leaves as it is -/

section

variable {host : Host} {p p' : Pack} {k : String}

theorem lookup_set_self (p : Pack) (k : String) (v : Value) : (set p k v).lookup k = some v := by
  rw [lookup_set, if_pos rfl]

variable {k' k : String}

theorem lookup_set_of_ne {p : Pack} {v : Value} (h : k' ≠ k) :
    (set p k v).lookup k' = p.lookup k' := by
  rw [lookup_set, if_neg h]

theorem lookup_erase_of_ne (p : Pack) (h : k' ≠ k) : (erase p k).lookup k' = p.lookup k' := by
  have hfilter := KeyMap.lookup_filter_ne p k k'
  rw [if_neg h] at hfilter
  exact hfilter

theorem lookup_appendRule {rule : Value} (h : appendRule p rule = .ok p') (hk : k ≠ "rules") :
    p'.lookup k = p.lookup k := by
  rw [appendRule] at h
  split at h <;> cases h <;> exact lookup_set_of_ne hk

theorem lookup_withoutRule {ruleId : String} (h : withoutRule p ruleId = .ok p')
    (hk : k ≠ "rules") : p'.lookup k = p.lookup k := by
  rw [withoutRule] at h
  split at h
  · dsimp only at h
    split_ifs at h
    cases h
    exact lookup_set_of_ne hk
  · cases h

variable {actor reason : String}

theorem lookup_proposeDemote (h : proposeDemote host p actor reason now = .ok p')
    (hk : k ≠ "lifecycle") : p'.lookup k = p.lookup k := by
  rw [proposeDemote] at h
  split_ifs at h with hlive hproposed hconfirmed <;>
    obtain ⟨⟨who, why⟩, -, h⟩ := except_bind_eq_ok.mp h <;> cases h
  exact lookup_set_of_ne hk

theorem confirmDemote_cases (h : confirmDemote host p actor reason now = .ok p') :
    demoteState host p = "proposed" ∧ p'.lookup "mode" = some (.string "shadow")
      ∧ ∀ k, k ≠ "lifecycle" → k ≠ "mode" → p'.lookup k = p.lookup k := by
  rw [confirmDemote] at h
  split_ifs at h with hlive hstate <;>
    obtain ⟨⟨who, why⟩, -, h⟩ := except_bind_eq_ok.mp h <;> cases h
  refine ⟨not_not.mp hstate, lookup_set_self _ _ _, ?_⟩
  intro k hlife hmode
  rw [lookup_set_of_ne hmode, lookup_set_of_ne hlife]

theorem lookup_abandonDraft (h : abandonDraft host p actor now = .ok p')
    (hk : k ≠ "lifecycle") : p'.lookup k = p.lookup k := by
  obtain ⟨life, -, h⟩ := except_bind_eq_ok.mp h
  split_ifs at h
  cases h
  exact lookup_set_of_ne hk

end

/-! ## Modes -/

theorem Pack.isLive_congr {p p' : Pack} (hmode : p'.lookup "mode" = p.lookup "mode")
    (hversion : p'.lookup "version" = p.lookup "version") : p'.isLive = p.isLive := by
  rw [isLive, isLive, loadedAs, loadedAs, mode, mode, hmode, hversion]

theorem Pack.isLive_of_mode {p : Pack} {m : String} (hmode : p.lookup "mode" = some (.string m))
    (hm : m = "shadow" ∨ m = "disabled") : p.isLive = false := by
  have hnot : p.mode ≠ .active := by
    rw [mode, hmode]
    rcases hm with rfl | rfl
    · decide
    · decide
  rw [isLive, decide_eq_false_iff_not, loadedAs]
  split_ifs
  · intro h
    exact hnot (some.inj h)
  · intro h
    cases h

/-! ## A host for examples -/

namespace Demo

/-- A host that knows the ASCII letters; no number is written. -/
def host : Host where
  text := ⟨fun _ => "0.0", fun s => s⟩
  lower := asciiLower
  sha256 := fun _ => zeroDigest
  twoPerson := false
  llmUrl := ""
  ruleChangeActor := ""

def now : String := "2026-01-01T00:00:00+00:00"

def pack (name mode : String) (more : Pack) : Pack :=
  [("version", .number (.posInt 1)), ("name", .string name), ("mode", .string mode),
    ("rules", .array [])] ++ more

def started (files : Files) : State := loadRules ⟨files, []⟩

end Demo

end Tarka.Decision.RulePacks
