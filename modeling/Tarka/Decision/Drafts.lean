import Tarka.Decision.Demotion

/-! # Drafts and their names

A draft is found by its name, which repeats when a source gets a new draft after its last one was
closed. `abandon_l2_draft` takes the first pack of that name, open or not, and a promotion the first
one in shadow mode, which an abandoned draft still is: it can go live, by hand and by a tick
(`abandoned_goes_live`). When a name is not shared by an open and a closed draft, and no abandoned
draft has the name of a promotion, both find the open draft, and what was abandoned never goes live
(`draftsHold_of_tidy`). -/

namespace Tarka.Decision.RulePacks

open Tarka.Lib Tarka.Json List KeyMap

/-! ## The rule -/

/-- A pack that `list_l2_drafts` lists. -/
def Pack.isDraft (p : Pack) : Bool :=
  let ev := dictOrEmpty (p.get "evidence")
  (p.get "source_key").truthy || (Pack.get ev "leftover_id").truthy
    || (Pack.get ev "hil_event_id").truthy

def Pack.isShadow (p : Pack) : Bool := decide (p.loadedAs = some .shadow)

section

variable (host : Host)

def isOpenDraft (p : Pack) : Bool := p.isDraft && decide (stateText host p "observe" ∉ closedStates)

def isAbandoned (p : Pack) : Bool := decide (stateText host p "" = "abandoned")

def Operation.isDraftCall : Operation → Bool
  | .createL2Draft _ _ _ _ _ _ _ _ => true
  | .abandonL2Draft _ _ _ => true
  | .promoteShadowPack _ _ _ => true
  | .autoPromoteTick _ => true
  | _ => false

/-- A file holds an abandoned draft that is not live. -/
def Dormant (old : Option Pack) : Prop :=
  ∃ p, old = some p ∧ isAbandoned host p = true ∧ p.isLive = false

/-- The pack that is found is an open draft, if there is one of that name. -/
def FindsOpen (s : State) (name : String) (found : Option (String × Pack)) : Prop :=
  (∃ file p, s.files.get? file = some p ∧ nameText host p = name ∧ isOpenDraft host p = true) →
    ∃ file p, found = some (file, p) ∧ s.files.get? file = some p ∧ isOpenDraft host p = true

/-- The pack that a call by name acts on is an open draft, if there is one of that name. -/
def ActsOnOpen (s : State) : Operation → Prop
  | .abandonL2Draft draftName _ _ =>
    FindsOpen host s draftName (namedDraft host s (strip draftName))
  | .promoteShadowPack draftId _ _ => FindsOpen host s draftId (shadowDraft host s (strip draftId))
  | _ => True

/-- What was abandoned stays so, and calls by name act on open drafts. -/
def DraftsHold (s : State) (ops : List Operation) : Prop :=
  (∀ file before mid, before ++ mid <+: ops →
    Dormant host ((afterAll host s before).files.get? file) →
    ∀ p, (afterAll host s (before ++ mid)).files.get? file = some p → p.isLive = false)
  ∧ ∀ before op, before ++ [op] <+: ops → ActsOnOpen host (afterAll host s before) op

def named (s : State) (name : String) : List (String × Pack) :=
  s.files.entries.filter (fun e => nameText host e.2 == name)

/-- A pack that a promotion finds although it was abandoned. -/
def isDormantShadow (p : Pack) : Bool := p.isShadow && isAbandoned host p

/-- The name of a call has no blanks at its ends, and is that of open drafts only or of none; for a
promotion these are in shadow mode, and none that is was abandoned. -/
def tidy (s : State) : Operation → Bool
  | .createL2Draft file _ _ _ _ _ _ _ => (s.files.get? file).isNone
  | .abandonL2Draft draftName _ _ =>
    strip draftName == draftName
      && ((named host s draftName).all (fun e => isOpenDraft host e.2)
        || (named host s draftName).all (fun e => !isOpenDraft host e.2))
  | .promoteShadowPack draftId _ _ =>
    strip draftId == draftId
      && ((named host s draftId).all (fun e => isOpenDraft host e.2 && e.2.isShadow)
        || (named host s draftId).all (fun e => !isOpenDraft host e.2))
      && (named host s draftId).all (fun e => !isDormantShadow host e.2)
  | .autoPromoteTick tick =>
    !(tick.provisioned && tick.promoteAllowed)
      || (shadowPacksEligibleForAutoPromote host (s.loaded.map Prod.snd)).all (fun name =>
        (named host s name).all (fun e => !isDormantShadow host e.2))
  | _ => true

end

def Fresh (s : State) : Prop := s.loaded = shadowPacks s.files

section

variable {host : Host} {op : Operation} {s s' : State}

/-! ## What is loaded -/

theorem fresh_loadRules (s : State) : Fresh (loadRules s) := rfl

theorem fresh_activate {name now : String} (h : activateShadowPack host s name now = .ok s') :
    Fresh s' := by
  obtain ⟨_, _, _, -, -, -, -, rfl⟩ := activateShadowPack_cases h
  exact fresh_loadRules _

theorem fresh_activateAll (now : String) (names : List String) (h : Fresh s) :
    Fresh (activateAll host now s names).1 :=
  activateAll_invariant (fun _ _ _ _ _ => fresh_activate) h

theorem fresh_slips (slips : List Slip) (h : Fresh s) : Fresh (slips.foldl writeSlipPack s) := by
  induction slips generalizing s with
  | nil => exact h
  | cons slip slips ih =>
    apply ih
    rw [writeSlipPack]
    split_ifs
    · exact fresh_loadRules _
    · exact fresh_loadRules _

theorem fresh_runTick (tick : Tick) (h : Fresh s) : Fresh (runTick host s tick) := by
  have hpromote : Fresh (maybeAutoPromoteShadow host s tick).1 := by
    rw [maybeAutoPromoteShadow]
    split_ifs
    · exact h
    · exact fresh_activateAll _ _ h
  rw [runTick]
  generalize maybeAutoPromoteShadow host s tick = promoted at hpromote
  simp only at hpromote ⊢
  split_ifs
  · exact hpromote
  · exact fresh_loadRules _
  · exact fresh_slips tick.slips hpromote

theorem fresh_after (hop : op.isDraftCall) (h : Fresh s) : Fresh (after host s op) := by
  rw [after]
  cases happly : apply host s op with
  | error e => exact h
  | ok s' =>
    show Fresh s'
    cases op with
    | createL2Draft file receipt tenantId body xActor backtestOk valid now =>
      cases receipt with
      | none => cases happly
      | some receipt =>
        simp only [apply, createL2Draft, Option.elim_some] at happly
        split_ifs at happly
        obtain ⟨hit, -, happly⟩ := except_bind_eq_ok.mp happly
        split_ifs at happly
        obtain ⟨p, -, happly⟩ := except_bind_eq_ok.mp happly
        cases happly
        exact fresh_loadRules _
    | abandonL2Draft draftName xActor now =>
      simp only [apply, abandonL2Draft] at happly
      obtain ⟨found, -, happly⟩ := elim_eq_ok.mp happly
      obtain ⟨p, -, happly⟩ := except_bind_eq_ok.mp happly
      cases happly
      exact fresh_loadRules _
    | promoteShadowPack draftId promoteAllowed now =>
      rw [apply] at happly
      obtain ⟨found, -, happly⟩ := elim_eq_ok.mp happly
      split_ifs at happly
      obtain ⟨_, _, _, -, -, -, -, rfl⟩ := activateShadowPack_cases happly
      exact fresh_loadRules _
    | autoPromoteTick tick =>
      cases happly
      exact fresh_runTick tick h
    | _ => cases hop

/-! ## What is found by a name -/

variable {e : String × Pack} {name : String}

theorem mem_named :
    e ∈ named host s name ↔ s.files.get? e.1 = some e.2 ∧ nameText host e.2 = name := by
  rw [named, mem_filter, get?_eq_some_iff, beq_iff_eq]

theorem mem_loaded (hfresh : Fresh s) :
    e ∈ s.loaded ↔ s.files.get? e.1 = some e.2 ∧ e.2.isShadow = true := by
  rw [hfresh, shadowPacks, mem_filter, mem_sortedEntries]
  rfl

theorem find?_name {entries : List (String × Pack)} (he : e ∈ entries)
    (hname : nameText host e.2 = name) :
    ∃ e' ∈ entries, entries.find? (fun e => nameText host e.2 == name) = some e'
      ∧ nameText host e'.2 = name := by
  have hsome : (entries.find? (fun e => nameText host e.2 == name)).isSome := by
    rw [find?_isSome]
    exact ⟨e, he, beq_iff_eq.mpr hname⟩
  obtain ⟨e', hfound⟩ := Option.isSome_iff_exists.mp hsome
  have hbeq := find?_some hfound
  exact ⟨e', mem_of_find?_eq_some hfound, hfound, beq_iff_eq.mp hbeq⟩

theorem shadowDraft_spec (hfresh : Fresh s) {want : String} {found : String × Pack}
    (h : shadowDraft host s want = some found) :
    s.files.get? found.1 = some found.2 ∧ found.2.isShadow ∧ nameText host found.2 = want := by
  have hloaded := (mem_loaded hfresh).mp (mem_of_find?_eq_some h)
  have hbeq := find?_some h
  exact ⟨hloaded.1, hloaded.2, beq_iff_eq.mp hbeq⟩

variable {p : Pack}

/-- Packs of a name that are all open, or all not, once there is an open one. -/
theorem all_of_all_or {P Q : Pack → Bool} {file : String}
    (hall : ((named host s name).all (fun e => P e.2) || (named host s name).all (fun e => !Q e.2)))
    (hp : s.files.get? file = some p) (hname : nameText host p = name) (hQ : Q p) :
    ∀ e : String × Pack, s.files.get? e.1 = some e.2 → nameText host e.2 = name → P e.2 = true := by
  intro e he hen
  rcases Bool.or_eq_true_iff.mp hall with hP | hQnot
  · exact all_eq_true.mp hP e (mem_named.mpr ⟨he, hen⟩)
  · have hnot := all_eq_true.mp hQnot (file, p) (mem_named.mpr ⟨hp, hname⟩)
    rw [show Q (file, p).2 = true from hQ] at hnot
    cases hnot

/-- **A call by name** acts on an open draft of that name, if there is one. -/
theorem actsOnOpen_of_tidy (hfresh : Fresh s) (hop : tidy host s op) : ActsOnOpen host s op := by
  cases op with
  | abandonL2Draft draftName xActor now =>
    rintro ⟨file, p, hp, hname, hopen⟩
    simp only [tidy, Bool.and_eq_true, beq_iff_eq] at hop
    have hall := all_of_all_or hop.2 hp hname hopen
    have hmem : (file, p) ∈ readAllPacks s := (mem_sortedEntries _ _ _).mpr hp
    obtain ⟨e, he, hfound, hen⟩ := find?_name hmem hname
    have hget := (mem_sortedEntries s.files e.1 e.2).mp he
    rw [hop.1]
    exact ⟨e.1, e.2, hfound, hget, hall e hget hen⟩
  | promoteShadowPack draftId promoteAllowed now =>
    rintro ⟨file, p, hp, hname, hopen⟩
    simp only [tidy, Bool.and_eq_true, beq_iff_eq] at hop
    have hall : ∀ e : String × Pack, s.files.get? e.1 = some e.2 → nameText host e.2 = draftId →
        (isOpenDraft host e.2 && e.2.isShadow) :=
      all_of_all_or (P := fun p => isOpenDraft host p && p.isShadow) hop.1.2 hp hname hopen
    have hshadow := (Bool.and_eq_true_iff.mp (hall (file, p) hp hname)).2
    obtain ⟨e, he, hfound, hen⟩ := find?_name ((mem_loaded hfresh).mpr ⟨hp, hshadow⟩) hname
    have hget := ((mem_loaded hfresh).mp he).1
    rw [hop.1.1]
    exact ⟨e.1, e.2, hfound, hget, (Bool.and_eq_true_iff.mp (hall e hget hen)).1⟩
  | _ => exact trivial

/-! ## What was abandoned -/

theorem isAbandoned_congr {p' : Pack} (h : p'.lookup "lifecycle" = p.lookup "lifecycle") :
    isAbandoned host p' = isAbandoned host p := by
  rw [isAbandoned, isAbandoned, stateText, stateText, Pack.get, Pack.get, Pack.get, Pack.get, h]

def NoneDormant (host : Host) (s : State) (name : String) : Prop :=
  ∀ e ∈ named host s name, isDormantShadow host e.2 = false

theorem noneDormant_of_all (h : (named host s name).all (fun e => !isDormantShadow host e.2)) :
    NoneDormant host s name := by
  intro e he
  simpa using all_eq_true.mp h e he

variable {g : String} {now : String}

theorem dormant_activate (hfresh : Fresh s)
    (h : activateShadowPack host s name now = .ok s') (hname : NoneDormant host s (strip name))
    (hg : Dormant host (s.files.get? g)) : Dormant host (s'.files.get? g) := by
  obtain ⟨found, p, p', hfound, -, -, -, rfl⟩ := activateShadowPack_cases h
  obtain ⟨hget, hshadow, hwant⟩ := shadowDraft_spec hfresh hfound
  show Dormant host ((s.files.insert found.1 p').get? g)
  rw [get?_insert]
  by_cases hgf : g = found.1
  · -- the abandoned pack would be in shadow mode, under the name of the promotion
    obtain ⟨q, hq, habandoned, -⟩ := hg
    rw [hgf, hget] at hq
    cases hq
    have hnone := hname found (mem_named.mpr ⟨hget, hwant⟩)
    rw [isDormantShadow, hshadow, habandoned] at hnone
    cases hnone
  · rw [if_neg hgf]
    exact hg

theorem Pack.isShadow_of_active (hmode : p.lookup "mode" = some (.string "active")) :
    p.isShadow = false := by
  have hactive : p.mode = .active := by
    rw [mode, hmode]
    rfl
  rw [isShadow, loadedAs, hactive]
  split_ifs
  · rfl
  · rfl

theorem noneDormant_activate {other : String} (h : activateShadowPack host s name now = .ok s')
    (hother : NoneDormant host s other) : NoneDormant host s' other := by
  obtain ⟨found, p, p', -, -, -, hp', rfl⟩ := activateShadowPack_cases h
  intro e he
  have hmem : (s.files.insert found.1 p').get? e.1 = some e.2 ∧ nameText host e.2 = other :=
    mem_named.mp he
  rw [get?_insert] at hmem
  split_ifs at hmem
  · rw [Option.some.injEq] at hmem
    have hnot := Pack.isShadow_of_active (activatedPack_cases hp').1
    rw [isDormantShadow, ← hmem.1, hnot, Bool.false_and]
  · exact hother e (mem_named.mpr hmem)

theorem dormant_activateAll (hfresh : Fresh s) {names : List String}
    (hnames : ∀ name ∈ names, NoneDormant host s (strip name))
    (hg : Dormant host (s.files.get? g)) :
    Dormant host ((activateAll host now s names).1.files.get? g) := by
  refine (activateAll_invariant (I := fun s => Fresh s
    ∧ (∀ name ∈ names, NoneDormant host s (strip name)) ∧ Dormant host (s.files.get? g))
    ?_ ⟨hfresh, hnames, hg⟩).2.2
  rintro s s' name hname ⟨hfresh, hnames, hg⟩ hactivate
  exact ⟨fresh_activate hactivate, fun n hn => noneDormant_activate hactivate (hnames n hn),
    dormant_activate hfresh hactivate (hnames name hname) hg⟩

theorem get?_slips (slips : List Slip) (h : s.files.get? g = some p) :
    (slips.foldl writeSlipPack s).files.get? g = some p := by
  induction slips generalizing s with
  | nil => exact h
  | cons slip slips ih =>
    apply ih
    rw [writeSlipPack]
    split_ifs with hthere
    · exact h
    · show (s.files.insert (slipFile slip) (slipPack slip)).get? g = some p
      have hne : g ≠ slipFile slip := by
        rintro rfl
        rw [h] at hthere
        exact hthere rfl
      rw [get?_insert, if_neg hne, h]

/-- A pack that is disabled is not live, and its lifecycle stays. -/
theorem dormant_kills (loaded : List (String × Pack)) {files : Files}
    (h : Dormant host (files.get? g)) :
    Dormant host ((loaded.foldl (killOne host) files).get? g) := by
  induction loaded generalizing files with
  | nil => exact h
  | cons e loaded ih =>
    apply ih
    rw [killOne]
    split_ifs with hloaded
    · cases hfile : files.get? e.1 with
      | none => exact h
      | some p =>
        rw [Option.elim_some]
        split_ifs with hkill
        · rw [get?_insert]
          split_ifs with hge
          · obtain ⟨q, hq, habandoned, -⟩ := h
            rw [hge, hfile] at hq
            cases hq
            refine ⟨_, rfl, ?_, Pack.isLive_of_mode (lookup_set_self _ _ _) (.inr rfl)⟩
            rw [isAbandoned_congr (lookup_set_of_ne (by decide))]
            exact habandoned
          · exact h
        · exact h
    · exact h

theorem abandonDraft_of_isAbandoned {actor : String} (h : isAbandoned host p) :
    ∃ e, abandonDraft host p actor now = .error e := by
  rw [abandonDraft]
  cases hlife : dictOr (p.get "lifecycle") with
  | error e => exact ⟨e, rfl⟩
  | ok life =>
    have hstate : strOr host (Pack.get life "state") "" = "abandoned" := by
      rw [eq_dictOrEmpty hlife]
      exact of_decide_eq_true h
    refine ⟨⟨409, "draft already closed"⟩, ?_⟩
    show (if strOr host (Pack.get life "state") "" ∈ closedStates then _ else _) = _
    rw [hstate]
    rfl

theorem strip_eligible {packs : List Pack}
    (h : name ∈ shadowPacksEligibleForAutoPromote host packs) : strip name = name := by
  obtain ⟨p, -, hname⟩ := mem_filterMap.mp h
  split_ifs at hname
  cases hname
  exact strip_strip _

theorem dormant_runTick (hfresh : Fresh s) {tick : Tick} (hop : tidy host s (.autoPromoteTick tick))
    (hg : Dormant host (s.files.get? g)) : Dormant host ((runTick host s tick).files.get? g) := by
  have hpromote : Dormant host ((maybeAutoPromoteShadow host s tick).1.files.get? g) := by
    rw [maybeAutoPromoteShadow]
    split_ifs with hblocked
    · exact hg
    · have hgreen : (tick.provisioned && tick.promoteAllowed) := by simpa using hblocked
      rw [tidy, hgreen, Bool.not_true, Bool.false_or, all_eq_true] at hop
      refine dormant_activateAll hfresh ?_ hg
      intro name hname
      rw [strip_eligible hname]
      exact noneDormant_of_all (hop name hname)
  rw [runTick]
  generalize maybeAutoPromoteShadow host s tick = promoted at hpromote
  obtain ⟨s₁, done⟩ := promoted
  simp only at hpromote ⊢
  have hslips : Dormant host ((tick.slips.foldl writeSlipPack s₁).files.get? g) := by
    obtain ⟨p, hp, hrest⟩ := hpromote
    exact ⟨p, get?_slips tick.slips hp, hrest⟩
  split_ifs
  · exact hpromote
  · exact dormant_kills _ hslips
  · exact hslips

/-- **One call.** What was abandoned, and is not live, stays so. -/
theorem dormant_after (hfresh : Fresh s) (hcall : op.isDraftCall) (hop : tidy host s op)
    (hg : Dormant host (s.files.get? g)) : Dormant host ((after host s op).files.get? g) := by
  cases op with
  | createL2Draft file receipt tenantId body xActor backtestOk valid now =>
    refine (after_writes host s _).preserves ?_ hg
    intro old new hedit hold
    cases hedit with
    | draft =>
      obtain ⟨p, hp, -⟩ := hg
      rw [tidy, hp] at hop
      cases hop
    | activate hactivates => cases hactivates
    | slip hticks => cases hticks
    | kill hticks => cases hticks
  | abandonL2Draft draftName xActor now =>
    refine (after_writes host s _).preserves ?_ hg
    intro old new hedit hold
    cases hedit with
    | abandon habandon =>
      obtain ⟨p, hp, habandoned, -⟩ := hold
      cases hp
      obtain ⟨e, he⟩ := abandonDraft_of_isAbandoned habandoned
      rw [habandon] at he
      cases he
    | activate hactivates => cases hactivates
    | slip hticks => cases hticks
    | kill hticks => cases hticks
  | promoteShadowPack draftId promoteAllowed now =>
    simp only [tidy, Bool.and_eq_true, beq_iff_eq] at hop
    rw [after, apply]
    cases hfound : shadowDraft host s (strip draftId) with
    | none => exact hg
    | some found =>
      split_ifs
      · exact hg
      · cases hactivate : activateShadowPack host s (strip draftId) now with
        | error e => exact hg
        | ok s' =>
          refine dormant_activate hfresh hactivate ?_ hg
          rw [strip_strip, hop.1.1]
          exact noneDormant_of_all hop.2
  | autoPromoteTick tick => exact dormant_runTick hfresh hop hg
  | _ => cases hcall

/-! ## Runs -/

theorem fresh_afterAll (host : Host) (ops : List Operation)
    (hcalls : ∀ op ∈ ops, op.isDraftCall) (h : Fresh s) : Fresh (afterAll host s ops) := by
  induction ops generalizing s with
  | nil => exact h
  | cons op ops ih =>
    exact ih (fun op' hmem => hcalls op' (mem_cons_of_mem _ hmem))
      (fresh_after (hcalls op mem_cons_self) h)

theorem dormant_afterAll (hfresh : Fresh s) {ops : List Operation}
    (hcalls : ∀ op ∈ ops, op.isDraftCall) (hops : along host (tidy host) s ops)
    (hg : Dormant host (s.files.get? g)) : Dormant host ((afterAll host s ops).files.get? g) := by
  induction ops generalizing s with
  | nil => exact hg
  | cons op ops ih =>
    have hcall := hcalls op mem_cons_self
    have hboth := along_cons.mp hops
    exact ih (fresh_after hcall hfresh) (fun op' hmem => hcalls op' (mem_cons_of_mem _ hmem))
      hboth.2 (dormant_after hfresh hcall hboth.1 hg)

/-- **Drafts and their names.** In every run of tidy calls on drafts, what was abandoned does not go
live, and a call by name acts on an open draft of that name if there is one. -/
theorem draftsHold_of_tidy (hfresh : Fresh s) {ops : List Operation}
    (hcalls : ∀ op ∈ ops, op.isDraftCall = true) (hops : along host (tidy host) s ops = true) :
    DraftsHold host s ops := by
  constructor
  · rintro file before mid ⟨rest, rfl⟩ hdormant p hp
    rw [along_append, along_append] at hops
    have hbefore := fresh_afterAll host before (fun op hmem => hcalls op (by simp [hmem])) hfresh
    obtain ⟨q, hq, -, hlive⟩ := dormant_afterAll hbefore
      (fun op hmem => hcalls op (by simp [hmem])) hops.1.2 hdormant
    rw [afterAll, foldl_append] at hp
    cases hp.symm.trans hq
    exact hlive
  · rintro before op ⟨rest, rfl⟩
    rw [along_append, along_append, along_cons] at hops
    have hbefore := fresh_afterAll host before (fun op hmem => hcalls op (by simp [hmem])) hfresh
    exact actsOnOpen_of_tidy hbefore hops.1.2.1

end

/-! ## Runs on new drafts -/

namespace Demo

def modelHost : Host := { host with llmUrl := "http://model" }

def empty : State := started KeyMap.empty

def draft (file leftoverId : String) (ai : Bool) : Operation :=
  .createL2Draft file (some ⟨"acme", "user-1", "", "trace-1"⟩) none
    ⟨leftoverId, "", "seen in review", if ai then "scout" else "human", ai, !ai, "small change", []⟩
    (some "ann") ai true now

def abandon (name : String) : Operation := .abandonL2Draft name (some "ann") now

def promote (name : String) : Operation := .promoteShadowPack name true now

def tick : Operation := .autoPromoteTick ⟨true, true, [], false, now⟩

/-- Two sources: the draft of the first is abandoned, that of the second promoted. -/
def twoSources : List Operation :=
  [draft "l2_1.json" "case7" false, abandon "l2_case7", draft "l2_2.json" "case8" true,
    promote "l2_case8"]

end Demo

open Demo

theorem two_sources_hold :
    along modelHost (tidy modelHost) empty twoSources = true
    ∧ liveAt (afterAll modelHost empty twoSources) "l2_2.json" = true
    ∧ DraftsHold modelHost empty twoSources :=
  ⟨by decide +kernel, by decide +kernel,
    draftsHold_of_tidy (fresh_loadRules _) (by decide +kernel) (by decide +kernel)⟩

theorem not_draftsHold_of_live {host : Host} {s : State} (before mid : List Operation)
    (file : String)
    (habandoned : ((afterAll host s before).files.get? file).any
      (fun p => isAbandoned host p && !p.isLive))
    (hlive : liveAt (afterAll host s (before ++ mid)) file) :
    ¬ DraftsHold host s (before ++ mid) := by
  intro h
  obtain ⟨p, hp, hboth⟩ := (Option.any_eq_true _ _).mp habandoned
  obtain ⟨q, hq, hqlive⟩ := (Option.any_eq_true _ _).mp hlive
  have hparts := Bool.and_eq_true_iff.mp hboth
  have hdormant : Dormant host ((afterAll host s before).files.get? file) :=
    ⟨p, hp, hparts.1, by simpa using hparts.2⟩
  have hfalse := h.1 file before mid prefix_rfl hdormant q hq
  rw [hqlive] at hfalse
  cases hfalse

theorem not_draftsHold_of_closed {host : Host} {s : State} (before : List Operation)
    (draftName now : String) (xActor : Option String)
    (hopen : (named host (afterAll host s before) draftName).any (fun e => isOpenDraft host e.2))
    (hclosed : (namedDraft host (afterAll host s before) (strip draftName)).all
      (fun e => !isOpenDraft host e.2)) :
    ¬ DraftsHold host s (before ++ [.abandonL2Draft draftName xActor now]) := by
  intro h
  obtain ⟨e, he, heopen⟩ := any_eq_true.mp hopen
  obtain ⟨hget, hname⟩ := mem_named.mp he
  obtain ⟨file, p, hfound, -, hpopen⟩ :=
    h.2 before _ prefix_rfl ⟨e.1, e.2, hget, hname, heopen⟩
  rw [hfound] at hclosed
  simp [hpopen] at hclosed

/-- An abandoned draft goes live by hand and by a tick, and an open draft is not found when a closed
one has its name. -/
theorem abandoned_goes_live :
    ¬ DraftsHold host empty
        ([draft "l2_1.json" "case7" false, abandon "l2_case7"] ++ [promote "l2_case7"])
    ∧ ¬ DraftsHold modelHost empty
        ([draft "l2_1.json" "case7" true, abandon "l2_case7"] ++ [tick])
    ∧ ¬ DraftsHold host empty
        ([draft "l2_1.json" "case7" false, abandon "l2_case7",
          draft "l2_2.json" "case7" false] ++ [abandon "l2_case7"]) := by
  refine ⟨not_draftsHold_of_live _ _ "l2_1.json" ?_ ?_,
      not_draftsHold_of_live _ _ "l2_1.json" ?_ ?_, not_draftsHold_of_closed _ _ _ _ ?_ ?_⟩ <;>
    decide +kernel

end Tarka.Decision.RulePacks
