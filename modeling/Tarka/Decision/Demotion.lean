import Tarka.Decision.PackEdits

/-! # Demotion in two steps

A live pack is to go back to shadow mode by a proposal and a confirmation, both of human actors.
`update_rule_pack` and `add_rule` put a live pack into shadow mode in one step, whoever calls them,
and `set_pack_mode` does so by way of the disabled mode (`demoted_in_one_step`). Without these
three, every demotion is confirmed and was proposed (`twoSteps_of_careful`). -/

namespace Tarka.Decision.RulePacks

open Tarka.Lib Tarka.Json List Pack

/-! ## The rule -/

def liveAt (s : State) (file : String) : Bool := (s.files.get? file).any Pack.isLive

def shadowAt (s : State) (file : String) : Bool :=
  (s.files.get? file).any (fun p => decide (p.loadedAs = some .shadow))

section

variable (host : Host)

/-- The actor of a header may demote: it is no model and no assist. -/
def MayDemote (xActor : Option String) : Prop :=
  isForbiddenDemoteActor host (strip (xActor.getD "")) = false

def Proposed (ops : List Operation) (file : String) : Prop :=
  ∃ reason xActor now, Operation.proposeDemotePack file reason xActor now ∈ ops
    ∧ MayDemote host xActor

/-- When a live pack is found in shadow mode some calls later, and was not removed in between, one
of these calls has confirmed its demotion, after a proposal, and has put it in shadow mode. -/
def TwoSteps (s : State) (ops : List Operation) : Prop :=
  ∀ file before mid, before ++ mid <+: ops → (Operation.deleteRulePack file) ∉ mid →
    liveAt (afterAll host s before) file = true →
    shadowAt (afterAll host s (before ++ mid)) file = true →
    ∃ early reason xActor now late, mid = early ++ .confirmDemotePack file reason xActor now :: late
      ∧ MayDemote host xActor ∧ Proposed host (before ++ early) file
      ∧ liveAt (afterAll host s (before ++ early)) file = true
      ∧ shadowAt (afterAll host s
        (before ++ early ++ [.confirmDemotePack file reason xActor now])) file = true

def NothingProposed (s : State) : Prop :=
  ∀ file p, s.files.get? file = some p → demoteState host p ≠ "proposed"

/-- The call replaces no live pack, adds no rule to one, and sets no other mode of one. A `PUT` of
the shadow mode is refused by itself when the pack says that it is active. -/
def careful (s : State) : Operation → Bool
  | .createRulePack file _ _ => !liveAt s file
  | .updateRulePack filename _ _ => !liveAt s filename
  | .addRule filename _ _ => !liveAt s filename
  | .setPackMode filename mode _ =>
    mode == "active" || !liveAt s filename
      || (mode == "shadow" && (s.files.get? filename).any (saysLive host))
  | .createL2Draft file _ _ _ _ _ _ _ => !liveAt s file
  | .createScoutPack file _ _ _ => !liveAt s file
  | _ => true

end

/-! ## A live pack stays live -/

variable {s : State}

section

variable {host : Host} {op : Operation} {p : Pack}

theorem Pack.isLive_iff :
    p.isLive ↔ ((p.lookup "version").map isOne).getD true ∧ p.mode = .active := by
  rw [isLive, decide_eq_true_iff, loadedAs]
  split_ifs with h
  · rw [Option.some.injEq]
    exact (and_iff_right h).symm
  · constructor
    · intro hnone
      cases hnone
    · intro hboth
      exact absurd hboth.1 h

variable {p' : Pack}

theorem Pack.isLive_of_active (h : p.isLive) (hmode : p'.lookup "mode" = some (.string "active"))
    (hversion : p'.lookup "version" = p.lookup "version") : p'.isLive = true := by
  rw [isLive_iff, hversion]
  refine ⟨(isLive_iff.mp h).1, ?_⟩
  rw [mode, hmode]
  rfl

theorem verticalPack_isLive (v : VerticalPack) (verticalId : String) :
    (verticalPack v verticalId).isLive = true := rfl

variable {now : String}

theorem activatedPack_cases (h : activatedPack p now = .ok p') :
    p'.lookup "mode" = some (.string "active")
      ∧ ∀ k, k ≠ "mode" → k ≠ "lifecycle" → p'.lookup k = p.lookup k := by
  rw [activatedPack] at h
  split_ifs at h
  · obtain ⟨life, -, h⟩ := except_bind_eq_ok.mp h
    cases h
    refine ⟨?_, fun k hmode hlife => ?_⟩
    · rw [lookup_set_of_ne (by decide), lookup_set_self]
    · rw [lookup_set_of_ne hlife, lookup_set_of_ne hmode]
  · cases h
    exact ⟨lookup_set_self _ _ _, fun k hmode _ => lookup_set_of_ne hmode⟩

theorem lookup_mode_of_isKillable (h : isKillable host p) :
    p.lookup "mode" = some (.string "shadow") := by
  rw [isKillable, Bool.and_eq_true, Bool.and_eq_true, Pack.get] at h
  cases hlookup : p.lookup "mode" with
  | none =>
    rw [hlookup] at h
    cases h.1.1
  | some v =>
    rw [hlookup] at h
    cases v with
    | string m => rw [eq_of_beq h.1.1]
    | _ => cases h.1.1

def Confirms (op : Operation) (file : String) : Prop :=
  ∃ reason xActor now, op = .confirmDemotePack file reason xActor now

variable {old new : Option Pack} {g : String}

/-- An edit of a live pack, in a careful call that removes nothing and confirms nothing. -/
theorem Edit.live (h : Edit host op g old new) (hop : careful host s op) (hlive : liveAt s g)
    (hput : ∀ xActor, op ≠ .setPackMode g "shadow" xActor) (hdelete : op ≠ .deleteRulePack g)
    (hconfirm : ¬ Confirms op g) (hold : old.any isLive) : new.any isLive = true := by
  have hcontra : ∀ {P : Prop}, (!liveAt s g) → P := by
    intro P hfalse
    rw [hlive] at hfalse
    cases hfalse
  cases h with
  | create => exact hcontra hop
  | update => exact hcontra hop
  | delete => exact absurd rfl hdelete
  | addRule => exact hcontra hop
  | removeRule hrule =>
    rw [← hold]
    exact isLive_congr (lookup_withoutRule hrule (by decide))
      (lookup_withoutRule hrule (by decide))
  | @setMode _ mode xActor p hmode _ =>
    have hnotShadow : mode ≠ "shadow" := fun h => hput xActor (by rw [h])
    by_cases hactive : mode = "active"
    · rw [hactive]
      exact isLive_of_active hold (lookup_set_self _ _ _) (lookup_set_of_ne (by decide))
    · simp only [careful, beq_eq_false_iff_ne.mpr hactive, beq_eq_false_iff_ne.mpr hnotShadow,
        Bool.false_or, Bool.false_and, Bool.or_false] at hop
      exact hcontra hop
  | activate _ _ hactivate =>
    obtain ⟨hmode, hrest⟩ := activatedPack_cases hactivate
    exact isLive_of_active hold hmode (hrest _ (by decide) (by decide))
  | forceLive =>
    exact isLive_of_active hold (lookup_set_self _ _ _) (lookup_set_of_ne (by decide))
  | propose _ hpropose =>
    rw [← hold]
    exact isLive_congr (lookup_proposeDemote hpropose (by decide))
      (lookup_proposeDemote hpropose (by decide))
  | confirm => exact absurd ⟨_, _, _, rfl⟩ hconfirm
  | draft => exact hcontra hop
  | @abandon _ _ _ _ _ p p' habandon =>
    have hframe : ∀ k, k ≠ "_file" → k ≠ "lifecycle" →
        (Dict.erase p' "_file").lookup k = p.lookup k :=
      fun k hfile hlife =>
        (lookup_erase_of_ne _ hfile).trans (lookup_abandonDraft habandon hlife)
    rw [← hold]
    exact isLive_congr (hframe _ (by decide) (by decide)) (hframe _ (by decide) (by decide))
  | scout => exact hcontra hop
  | slip => cases hold
  | @kill _ _ p _ hkill =>
    have hmode : p.isLive = false := isLive_of_mode (lookup_mode_of_isKillable hkill) (.inl rfl)
    rw [Option.any_some, hmode] at hold
    cases hold
  | vertical => exact verticalPack_isLive _ _

variable {file : String}

/-- A `PUT` of the shadow mode is refused when the pack says that it is active. -/
theorem after_setPackMode_shadow (xActor : Option String)
    (h : (s.files.get? file).any (saysLive host)) :
    after host s (.setPackMode file "shadow" xActor) = s := by
  rw [after, apply, setPackMode]
  cases hpack : existingPack s file with
  | error e => rfl
  | ok p =>
    rw [get?_of_existingPack hpack, Option.any_some] at h
    simp only [Except.bind, h]
    cases requireDemoteHuman host xActor <;> rfl

variable {reason : String}

theorem confirmDemotePack_cases {s' : State} {xActor : Option String}
    (h : confirmDemotePack host s file reason xActor now = .ok s') :
    MayDemote host xActor ∧ (∃ p, s.files.get? file = some p ∧ demoteState host p = "proposed")
      ∧ (liveAt s file → shadowAt s' file = true) := by
  obtain ⟨_, -, h⟩ := except_bind_eq_ok.mp h
  obtain ⟨who, hwho, h⟩ := except_bind_eq_ok.mp h
  obtain ⟨p, hp, h⟩ := existingPack_bind_eq_ok h
  obtain ⟨p', hp', h⟩ := except_bind_eq_ok.mp h
  rw [requireDemoteHuman] at hwho
  split_ifs at hwho with hforbidden
  obtain ⟨hstate, hmode, hrest⟩ := confirmDemote_cases hp'
  refine ⟨Bool.eq_false_iff.mpr hforbidden, ⟨p, hp, hstate⟩, fun hlive => ?_⟩
  cases h
  rw [liveAt, hp, Option.any_some, Pack.isLive_iff] at hlive
  have hfile : (save s file p').files.get? file = some p' :=
    (KeyMap.get?_insert _ _ _ _).trans (if_pos rfl)
  rw [shadowAt, hfile, Option.any_some, Pack.loadedAs, hrest "version" (by decide) (by decide),
    if_pos hlive.1, Pack.mode, hmode]
  rfl

/-- **One call.** A live pack stays live, is removed, or is demoted as it was proposed. -/
theorem live_after (hlive : liveAt s file) (hop : careful host s op)
    (hdelete : op ≠ .deleteRulePack file) : liveAt (after host s op) file
    ∨ ∃ reason xActor now, op = .confirmDemotePack file reason xActor now ∧ MayDemote host xActor
        ∧ (∃ p, s.files.get? file = some p ∧ demoteState host p = "proposed")
        ∧ shadowAt (after host s op) file = true := by
  by_cases hconfirm : Confirms op file
  · obtain ⟨reason, xActor, now, rfl⟩ := hconfirm
    cases happly : confirmDemotePack host s file reason xActor now with
    | error e =>
      left
      rw [after, apply, happly]
      exact hlive
    | ok s' =>
      obtain ⟨hmay, hproposed, hshadow⟩ := confirmDemotePack_cases happly
      refine .inr ⟨reason, xActor, now, rfl, hmay, hproposed, ?_⟩
      rw [after, apply, happly]
      exact hshadow hlive
  · left
    by_cases hput : ∃ xActor, op = .setPackMode file "shadow" xActor
    · obtain ⟨xActor, rfl⟩ := hput
      simp only [careful, hlive] at hop
      rw [after_setPackMode_shadow xActor (by simpa using hop)]
      exact hlive
    · exact (after_writes host s op).preserves
        (fun _ _ hedit => hedit.live hop hlive (fun x hx => hput ⟨x, hx⟩) hdelete hconfirm) hlive

/-! ## What is proposed was proposed by a call -/

theorem get_set_self (p : Pack) (k : String) (v : Value) : Pack.get (Dict.set p k v) k = v := by
  rw [Pack.get, lookup_set_self, Option.getD_some]

theorem eq_dictOrEmpty {v : Value} {life : Pack} (h : dictOr v = .ok life) :
    life = dictOrEmpty v := by
  cases v with
  | object entries =>
    cases h
    rfl
  | _ =>
    rw [dictOr] at h
    · split_ifs at h
      cases h
      rfl
    · intro entries hentries
      cases hentries

theorem demoteState_of_life
    (h : (dictOrEmpty (p'.get "lifecycle")).lookup "demote"
      = (dictOrEmpty (p.get "lifecycle")).lookup "demote") :
    demoteState host p' = demoteState host p := by
  have hblob : demoteBlob p' = demoteBlob p := by
    show dictOrEmpty (((dictOrEmpty (p'.get "lifecycle")).lookup "demote").getD .null) = _
    rw [h]
    rfl
  rw [demoteState, demoteState, hblob]

theorem demoteState_congr (h : p'.lookup "lifecycle" = p.lookup "lifecycle") :
    demoteState host p' = demoteState host p := by
  apply demoteState_of_life
  rw [Pack.get, Pack.get, h]

theorem demoteState_of_none (h : p.lookup "lifecycle" = none) : demoteState host p = "" := by
  rw [demoteState, demoteBlob, Pack.get, Pack.get, Pack.get, h]
  rfl

variable {actor : String}

theorem demoteState_of_confirmDemote
    (h : confirmDemote host p actor reason now = .ok p') : demoteState host p' = "confirmed" := by
  rw [confirmDemote] at h
  split_ifs at h <;> obtain ⟨⟨who, why⟩, -, h⟩ := except_bind_eq_ok.mp h <;> cases h
  rw [demoteState, demoteBlob, Pack.get, Pack.get, Pack.get, lookup_set_of_ne (by decide),
    lookup_set_self, Option.getD_some, dictOrEmpty, lookup_set_self, Option.getD_some, dictOrEmpty,
    lookup_set_of_ne (by decide), lookup_set_of_ne (by decide),
    lookup_set_of_ne (by decide), lookup_set_self]
  rfl

theorem demoteState_of_activatedPack (h : activatedPack p now = .ok p') :
    demoteState host p' = demoteState host p := by
  rw [activatedPack] at h
  split_ifs at h
  · obtain ⟨life, hlife, hok⟩ := except_bind_eq_ok.mp h
    cases hok
    apply demoteState_of_life
    rw [get_set_self, dictOrEmpty, lookup_set_of_ne (by decide),
      lookup_set_of_ne (by decide), eq_dictOrEmpty hlife, Pack.get, Pack.get,
      lookup_set_of_ne (by decide)]
  · cases h
    exact demoteState_congr (lookup_set_of_ne (by decide))

theorem demoteState_of_abandonDraft
    (h : abandonDraft host p actor now = .ok p') : demoteState host p' = demoteState host p := by
  obtain ⟨life, hlife, h⟩ := except_bind_eq_ok.mp h
  split_ifs at h
  cases h
  apply demoteState_of_life
  rw [get_set_self, dictOrEmpty, lookup_set_of_ne (by decide), lookup_set_of_ne (by decide),
    lookup_set_of_ne (by decide), eq_dictOrEmpty hlife]

theorem demoteState_l2Pack (receipt : Receipt) (body : L2DraftIn) (actor now : String) :
    demoteState host (l2Pack host receipt body actor now) = "" := by
  rfl

def ProposedIn (host : Host) (old : Option Pack) : Prop :=
  ∃ p, old = some p ∧ demoteState host p = "proposed"

theorem not_proposedIn (h : p.lookup "lifecycle" = none) : ¬ ProposedIn host (some p) := by
  rintro ⟨q, hq, hstate⟩
  cases hq
  rw [demoteState_of_none h] at hstate
  exact absurd hstate (by decide)

theorem ProposedIn.congr (hnew : ProposedIn host (some p'))
    (h : demoteState host p' = demoteState host p) : ProposedIn host (some p) := by
  obtain ⟨q, hq, hstate⟩ := hnew
  cases hq
  exact ⟨p, rfl, h ▸ hstate⟩

theorem Edit.proposed (h : Edit host op g old new) (hnew : ProposedIn host new) :
    ProposedIn host old
    ∨ ∃ reason xActor now, op = .proposeDemotePack g reason xActor now ∧ MayDemote host xActor := by
  cases h with
  | create => exact absurd hnew (not_proposedIn rfl)
  | update => exact absurd hnew (not_proposedIn rfl)
  | delete =>
    obtain ⟨q, hq, -⟩ := hnew
    cases hq
  | addRule happend =>
    refine .inl (hnew.congr (demoteState_congr ?_))
    rw [lookup_set_of_ne (by decide), lookup_appendRule happend (by decide)]
  | removeRule hrule =>
    exact .inl (hnew.congr (demoteState_congr (lookup_withoutRule hrule (by decide))))
  | setMode => exact .inl (hnew.congr (demoteState_congr (lookup_set_of_ne (by decide))))
  | activate _ _ hactivate =>
    exact .inl (hnew.congr (demoteState_of_activatedPack hactivate))
  | forceLive => exact .inl (hnew.congr (demoteState_congr (lookup_set_of_ne (by decide))))
  | propose hactor =>
    right
    rw [requireDemoteHuman] at hactor
    split_ifs at hactor with hforbidden
    exact ⟨_, _, _, rfl, Bool.eq_false_iff.mpr hforbidden⟩
  | confirm _ hconfirm =>
    obtain ⟨q, hq, hstate⟩ := hnew
    cases hq
    rw [demoteState_of_confirmDemote hconfirm] at hstate
    exact absurd hstate (by decide)
  | draft =>
    obtain ⟨q, hq, hstate⟩ := hnew
    cases hq
    rw [demoteState_l2Pack] at hstate
    exact absurd hstate (by decide)
  | abandon habandon =>
    refine .inl (hnew.congr ?_)
    rw [demoteState_congr (lookup_erase_of_ne _ (by decide)), demoteState_of_abandonDraft habandon]
  | scout => exact absurd hnew (not_proposedIn rfl)
  | slip => exact absurd hnew (not_proposedIn rfl)
  | kill => exact .inl (hnew.congr (demoteState_congr (lookup_set_of_ne (by decide))))
  | vertical => exact absurd hnew (not_proposedIn rfl)

/-- **One call.** -/
theorem proposedIn_after (h : ProposedIn host ((after host s op).files.get? file)) :
    ProposedIn host (s.files.get? file)
    ∨ ∃ reason xActor now, op = .proposeDemotePack file reason xActor now
      ∧ MayDemote host xActor := by
  have hchain := (after_writes host s op).preserves (g := file)
    (P := fun o => ProposedIn host o → ProposedIn host (s.files.get? file)
      ∨ ∃ reason xActor now, op = .proposeDemotePack file reason xActor now ∧ MayDemote host xActor)
    ?_ .inl
  · exact hchain h
  · intro old new hedit hold hnew
    rcases hedit.proposed hnew with hbefore | hop
    · exact hold hbefore
    · exact .inr hop

/-! ## Runs -/

theorem afterAll_concat (s : State) (ops : List Operation) (op : Operation) :
    afterAll host s (ops ++ [op]) = after host (afterAll host s ops) op := by
  rw [afterAll, foldl_append]
  rfl

theorem proposed_of_proposedIn (hstart : NothingProposed host s) (ops : List Operation)
    (h : ProposedIn host ((afterAll host s ops).files.get? file)) : Proposed host ops file := by
  -- from the last call on: it has found the proposal, or has made it
  induction ops using List.reverseRecOn with
  | nil =>
    obtain ⟨p, hp, hstate⟩ := h
    exact absurd hstate (hstart file p hp)
  | append_singleton ops op ih =>
    rw [afterAll_concat] at h
    rcases proposedIn_after h with hbefore | ⟨reason, xActor, now, rfl, hmay⟩
    · obtain ⟨reason, xActor, now, hmem, hmay⟩ := ih hbefore
      exact ⟨reason, xActor, now, mem_append_left _ hmem, hmay⟩
    · exact ⟨reason, xActor, now, by simp, hmay⟩

theorem not_shadowAt_of_liveAt (h : liveAt s file) : shadowAt s file = false := by
  obtain ⟨p, hp, hlive⟩ := (Option.any_eq_true _ _).mp h
  rw [shadowAt, hp, Option.any_some, of_decide_eq_true hlive]
  rfl

/-- **Demotion in two steps.** From a directory in which nothing is proposed, and in every run of
careful calls, a live pack is put in shadow mode only by a confirmation, after a proposal, both of
actors that may demote. -/
theorem twoSteps_of_careful {s : State} (hstart : NothingProposed host s) {ops : List Operation}
    (hops : along host (careful host) s ops = true) : TwoSteps host s ops := by
  intro file before mid hprefix hdelete hlive hshadow
  obtain ⟨rest, rfl⟩ := hprefix
  rw [along_append, along_append] at hops
  have hmid := hops.1.2
  clear hops
  -- by induction on the calls after `before`: as long as none confirms, the pack stays live
  induction mid generalizing before with
  | nil =>
    rw [append_nil, not_shadowAt_of_liveAt hlive] at hshadow
    cases hshadow
  | cons op mid ih =>
    rw [along_cons] at hmid
    have hop : op ≠ .deleteRulePack file := fun h => hdelete (h ▸ mem_cons_self)
    have hmem : Operation.deleteRulePack file ∉ mid :=
      fun h => hdelete (mem_cons_of_mem _ h)
    have happend : before ++ op :: mid = (before ++ [op]) ++ mid := by simp
    rcases live_after hlive hmid.1 hop with
      hstays | ⟨reason, xActor, now, rfl, hmay, hproposed, hdemoted⟩
    · rw [← afterAll_concat] at hstays
      rw [happend] at hshadow
      have hrest := hmid.2
      rw [← afterAll_concat] at hrest
      obtain ⟨early, reason, xActor, now, late, rfl, hmay, hproposed⟩ :=
        ih (before ++ [op]) hmem hstays hshadow hrest
      refine ⟨op :: early, reason, xActor, now, late, rfl, hmay, ?_⟩
      rw [append_assoc before [op] early] at hproposed
      exact hproposed
    · refine ⟨[], reason, xActor, now, mid, rfl, hmay, ?_⟩
      rw [append_nil, afterAll_concat]
      exact ⟨proposed_of_proposedIn hstart before hproposed, hlive, hdemoted⟩

end

/-! ## Runs on one file -/

namespace Demo

def liveFile : String := "pack_1.json"

def oneLive : State := started (KeyMap.empty.insert liveFile (pack "velocity" "active" []))

/-- A proposal and its confirmation, after a `PUT` of the shadow mode that is refused. -/
def inTwoSteps : List Operation :=
  [.setPackMode liveFile "shadow" (some "ann"),
    .proposeDemotePack liveFile "too many alerts" (some "ann") now,
    .confirmDemotePack liveFile "seen and agreed" (some "bob") now]

theorem nothingProposed_oneLive : NothingProposed host oneLive := by
  intro file p h
  rw [KeyMap.get?_eq_some_iff] at h
  have hentry : (file, p) = (liveFile, pack "velocity" "active" []) := mem_singleton.mp h
  cases hentry
  decide

end Demo

open Demo

theorem ann_and_bob_demote :
    NothingProposed host oneLive
    ∧ along host (careful host) oneLive inTwoSteps = true
    ∧ shadowAt (afterAll host oneLive inTwoSteps) liveFile = true
    ∧ TwoSteps host oneLive inTwoSteps :=
  ⟨nothingProposed_oneLive, by decide +kernel, by decide +kernel,
    twoSteps_of_careful nothingProposed_oneLive (by decide +kernel)⟩

def Operation.isPlain : Operation → Bool
  | .confirmDemotePack _ _ _ _ => false
  | .deleteRulePack _ => false
  | _ => true

theorem not_twoSteps {host : Host} {ops : List Operation} (file : String)
    (hlive : liveAt s file) (hshadow : shadowAt (afterAll host s ops) file)
    (hplain : ops.all Operation.isPlain) : ¬ TwoSteps host s ops := by
  intro h
  rw [all_eq_true] at hplain
  have hdelete : Operation.deleteRulePack file ∉ ops :=
    fun hmem => Bool.false_ne_true (hplain _ hmem)
  obtain ⟨early, reason, xActor, now, late, rfl, -⟩ :=
    h file [] ops prefix_rfl hdelete hlive hshadow
  exact Bool.false_ne_true (hplain (.confirmDemotePack file reason xActor now) (by simp))

/-- An update, a new rule, and two changes of the mode, by a model. -/
theorem demoted_in_one_step :
    ¬ TwoSteps host oneLive
        [.updateRulePack liveFile ⟨"velocity", [], [], .null, .null, .null⟩ true]
    ∧ ¬ TwoSteps host oneLive [.addRule liveFile .null true]
    ∧ ¬ TwoSteps host oneLive
        [.setPackMode liveFile "disabled" (some "scout"),
          .setPackMode liveFile "shadow" (some "scout")] := by
  refine ⟨not_twoSteps liveFile ?_ ?_ rfl, not_twoSteps liveFile ?_ ?_ rfl,
    not_twoSteps liveFile ?_ ?_ rfl⟩ <;> decide +kernel

end Tarka.Decision.RulePacks
