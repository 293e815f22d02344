import Tarka.Decision.Drafts

/-! # A tick and the names of its packs

`maybe_auto_promote_shadow` chooses packs and activates them by their names. The first pack in
shadow mode that has the name is the one that goes live, whoever has written it, and a name with a
blank at its end is not found, which ends the tick (`tick_by_name`). When every chosen pack is found
in its turn, those that can be activated go live and no other pack does; and when all of them can be
activated, this is the only way (`tickSound_of_inTurn`). -/

namespace Tarka.Decision.RulePacks

open Tarka.Lib Tarka.Json List KeyMap

/-- A pack that a model has written and that is not locked. -/
def Pack.isPromotable (p : Pack) : Bool := (p.get "is_ai_authored").truthy && !p.observeLocked

section

variable (host : Host) (files : Files) (tick : Tick)

/-- The directory after the promotions of a tick. -/
def promoted : Files := (maybeAutoPromoteShadow host (loadRules ⟨files, []⟩) tick).1.files

def isChosen (p : Pack) : Bool := p.isPromotable && !(strip (nameText host p)).isEmpty

def Tick.isGreen (tick : Tick) : Bool := tick.provisioned && tick.promoteAllowed

def canActivate (now : String) (p : Pack) : Bool := (activatedPack p now).toOption.isSome

/-- Only promotable packs are touched, and each chosen pack that can be activated goes live. -/
def TickSound : Prop :=
  (∀ file p, files.get? file = some p → (promoted host files tick).get? file ≠ some p →
    p.isPromotable = true)
  ∧ (tick.isGreen = true → ∀ e ∈ shadowPacks files, isChosen host e.2 = true →
    canActivate tick.now e.2 = true → ((promoted host files tick).get? e.1).any Pack.isLive = true)

variable (now : String) (packs : List (String × Pack))

/-- A pack whose name has no blanks at its ends, and no pack up to it has the name but chosen
ones. -/
def OwnTurn (e : String × Pack) : Prop :=
  strip (nameText host e.2) = nameText host e.2
  ∧ ∀ e' ∈ packs, byteLe e'.1 e.1 = true → nameText host e'.2 = nameText host e.2 →
    isChosen host e'.2 = true

instance (e : String × Pack) : Decidable (OwnTurn host packs e) :=
  inferInstanceAs (Decidable (_ ∧ _))

/-- Every chosen pack that the loop comes to is found in its turn, and a pack that cannot be
activated, at which the loop ends, is followed by such packs only. -/
structure InTurn : Prop where
  own : ∀ e ∈ packs, isChosen host e.2 = true →
    (∀ e' ∈ packs, isChosen host e'.2 = true → byteLe e'.1 e.1 = true → e'.1 ≠ e.1 →
      canActivate now e'.2 = true) → OwnTurn host packs e
  last : ∀ e ∈ packs, isChosen host e.2 = true → canActivate now e.2 = true →
    ∀ e' ∈ packs, isChosen host e'.2 = true → byteLe e'.1 e.1 = true → canActivate now e'.2 = true

end

section

variable {host : Host} {s : State} {now : String}

theorem isShadow_of_isLive {p : Pack} (h : p.isLive) : p.isShadow = false := by
  rw [Pack.isShadow, of_decide_eq_true h]
  rfl

theorem Pack.isLive_of_isShadow {p p' : Pack} (h : p.isShadow)
    (hp' : activatedPack p now = .ok p') :
    p'.isLive = true := by
  obtain ⟨hmode, hrest⟩ := activatedPack_cases hp'
  have hversion : ((p.lookup "version").map isOne).getD true = true := by
    by_contra hno
    simp [isShadow, loadedAs, hno] at h
  rw [isLive_iff, hrest _ (by decide) (by decide), mode, hmode]
  exact ⟨hversion, rfl⟩

theorem fresh_save (s : State) (file : String) (p : Pack) : Fresh (save s file p) := rfl

variable {e e' : String × Pack} {files : Files}

theorem mem_shadowPacks :
    e ∈ shadowPacks files ↔ files.get? e.1 = some e.2 ∧ e.2.isShadow = true :=
  mem_loaded (fresh_loadRules ⟨files, []⟩)

theorem eq_of_file (hfresh : Fresh s) (he : e ∈ s.loaded) (h : e'.1 = e.1)
    (he' : s.files.get? e'.1 = some e'.2) : e' = e := by
  rw [h, ((mem_loaded hfresh).mp he).1] at he'
  exact Prod.ext h (Option.some.inj he').symm

theorem sorted_shadowPacks (files : Files) :
    (shadowPacks files).Pairwise (fun a b => byteLe a.1 b.1 = true) := by
  have hkeys := sortByBytes_sorted files.keys
  rw [← sortedEntries_keys, pairwise_map] at hkeys
  exact hkeys.filter _

/-- Of the packs with a name the first is found. -/
theorem shadowDraft_first (hfresh : Fresh s) {want : String}
    (h : shadowDraft host s want = some e) (he' : e' ∈ s.loaded)
    (hname : nameText host e'.2 = want) :
    byteLe e.1 e'.1 = true := by
  obtain ⟨-, before, after, hloaded, hbefore⟩ := find?_eq_some_iff_append.mp h
  have hsorted := sorted_shadowPacks s.files
  rw [← show s.loaded = shadowPacks s.files from hfresh, hloaded] at hsorted
  rw [hloaded, mem_append] at he'
  rcases he' with he' | he'
  · simp only [Bool.not_eq_true', beq_eq_false_iff_ne] at hbefore
    exact absurd hname (hbefore e' he')
  · rcases mem_cons.mp he' with rfl | he'
    · exact (Std.Total.total (r := fun a b => byteLe a b = true) e'.1 e'.1).elim id id
    · exact (pairwise_cons.mp (pairwise_append.mp hsorted).2.1).1 e' he'

/-- What the call with the name of a pack does if it finds the pack. -/
theorem activate_found (hfresh : Fresh s) (he : e ∈ s.loaded) (hp : e.2.isPromotable)
    (hfound : shadowDraft host s (strip (nameText host e.2)) = some e) :
    activateShadowPack host s (strip (nameText host e.2)) now
      = (activatedPack e.2 now).bind (fun p' => .ok (save s e.1 p')) := by
  have hlock : e.2.observeLocked = false := by
    rw [Pack.isPromotable, Bool.and_eq_true, Bool.not_eq_true'] at hp
    exact hp.2
  rw [activateShadowPack, strip_strip, hfound, Option.elim_some, ((mem_loaded hfresh).mp he).1,
    Option.elim_some, hlock]
  rfl

theorem activatedPack_error {p : Pack} {error : HttpError}
    (h : activatedPack p now = .error error) :
    error ≠ observeLockedError := by
  rw [activatedPack] at h
  split_ifs at h
  rw [markPromoted] at h
  cases hlife : dictOr (Pack.get (Dict.set p "mode" (.string "active")) "lifecycle") with
  | ok life =>
    rw [hlife] at h
    cases h
  | error e =>
    rw [hlife] at h
    cases h
    unfold dictOr at hlife
    split at hlife
    · cases hlife
    · split_ifs at hlife
      cases hlife
      decide

/-- What is loaded after a pack went live: the other packs. -/
theorem mem_loaded_save {p' : Pack} (hfresh : Fresh s) (he : e ∈ s.loaded)
    (hp' : p'.isLive) : e' ∈ (save s e.1 p').loaded ↔ e' ∈ s.loaded ∧ e' ≠ e := by
  rw [mem_loaded (fresh_save _ _ _), mem_loaded hfresh]
  show (s.files.insert e.1 p').get? e'.1 = _ ∧ _ ↔ _
  rw [get?_insert]
  by_cases hfile : e'.1 = e.1
  · rw [if_pos hfile]
    refine iff_of_false ?_ (fun h => h.2 (eq_of_file hfresh he hfile h.1.1))
    rintro ⟨h, hshadow⟩
    cases h
    rw [isShadow_of_isLive hp'] at hshadow
    cases hshadow
  · rw [if_neg hfile]
    exact (and_iff_left (fun h => hfile (congrArg Prod.fst h))).symm

/-- A list of chosen packs in order, each of which is found in its turn. -/
structure Queue (host : Host) (now : String) (s : State) (es : List (String × Pack)) : Prop where
  sorted : es.Pairwise (fun a b => byteLe a.1 b.1 = true ∧ a ≠ b)
  loaded : ∀ e ∈ es, e ∈ s.loaded ∧ e.2.isPromotable = true
  own : ∀ e ∈ es, (∀ e' ∈ es, byteLe e'.1 e.1 = true → e' ≠ e → canActivate now e'.2 = true) →
    strip (nameText host e.2) = nameText host e.2
    ∧ ∀ e' ∈ s.loaded, byteLe e'.1 e.1 = true → nameText host e'.2 = nameText host e.2 → e' ∈ es
  last : ∀ e ∈ es, canActivate now e.2 = true →
    ∀ e' ∈ es, byteLe e'.1 e.1 = true → canActivate now e'.2 = true

variable {es : List (String × Pack)}

theorem Queue.found (hfresh : Fresh s) (h : Queue host now s (e :: es)) :
    shadowDraft host s (strip (nameText host e.2)) = some e := by
  have hfirst := (pairwise_cons.mp h.sorted).1
  have heq : ∀ e' ∈ e :: es, byteLe e'.1 e.1 = true → e' = e := by
    intro e' he' hle
    rcases mem_cons.mp he' with rfl | hmem
    · rfl
    · exact (eq_of_file hfresh (h.loaded e mem_cons_self).1
        (byteLe_antisymm hle (hfirst e' hmem).1)
        ((mem_loaded hfresh).mp (h.loaded e' he').1).1)
  obtain ⟨hstrip, hown⟩ := h.own e mem_cons_self (fun e' he' hle hne => absurd (heq e' he' hle) hne)
  obtain ⟨e', he', hfound, hname⟩ := find?_name (h.loaded e mem_cons_self).1 rfl
  have hle := shadowDraft_first hfresh hfound (h.loaded e mem_cons_self).1 rfl
  rw [hstrip, shadowDraft, hfound, heq e' (hown e' he' hle hname) hle]

theorem Queue.tail {p' : Pack} (hfresh : Fresh s) (h : Queue host now s (e :: es))
    (hcan : canActivate now e.2) (hlive : p'.isLive) : Queue host now (save s e.1 p') es := by
  obtain ⟨hfirst, hsorted⟩ := pairwise_cons.mp h.sorted
  have he := (h.loaded e mem_cons_self).1
  refine ⟨hsorted, fun e' he' => ?_, fun e' he' hearlier => ?_, fun e' he' hc e'' he'' => ?_⟩
  · obtain ⟨hloaded, hprom⟩ := h.loaded e' (mem_cons_of_mem _ he')
    exact ⟨(mem_loaded_save hfresh he hlive).mpr ⟨hloaded, (hfirst e' he').2.symm⟩, hprom⟩
  · obtain ⟨hstrip, hown⟩ := h.own e' (mem_cons_of_mem _ he') (fun e'' he'' hle hne => by
      rcases mem_cons.mp he'' with rfl | he''
      · exact hcan
      · exact hearlier e'' he'' hle hne)
    refine ⟨hstrip, fun e'' he'' hle hname => ?_⟩
    obtain ⟨hloaded, hne⟩ := (mem_loaded_save hfresh he hlive).mp he''
    exact (mem_cons.mp (hown e'' hloaded hle hname)).resolve_left hne
  · exact h.last e' (mem_cons_of_mem _ he') hc e'' (mem_cons_of_mem _ he'')

/-- The loop, over the names of some packs. -/
theorem activateAll_sound (hfresh : Fresh s) (h : Queue host now s es) {g : String} {p : Pack}
    (hp : s.files.get? g = some p) {s' : State}
    (hs' : s' = (activateAll host now s (es.map (fun e => strip (nameText host e.2)))).1) :
    (s'.files.get? g = some p ∨ p.isPromotable = true)
    ∧ ((g, p) ∈ es → canActivate now p = true → (s'.files.get? g).any Pack.isLive = true)
    ∧ (p.isLive = true → s'.files.get? g = some p) := by
  induction es generalizing s p with
  | nil =>
    cases hs'
    exact ⟨.inl hp, fun h => absurd h not_mem_nil, fun _ => hp⟩
  | cons e es ih =>
    obtain ⟨he, hpromotable⟩ := h.loaded e mem_cons_self
    obtain ⟨hfile, hshadow⟩ := (mem_loaded hfresh).mp he
    simp only [map_cons, activateAll, activate_found hfresh he hpromotable (h.found hfresh)] at hs'
    cases hp' : activatedPack e.2 now with
    | error error =>
      -- the loop ends here, and no pack after this one can be activated
      simp only [hp', Except.bind, activatedPack_error hp', if_false] at hs'
      cases hs'
      refine ⟨.inl hp, fun hmem hcan => ?_, fun _ => hp⟩
      have hle : byteLe e.1 g = true := by
        rcases mem_cons.mp hmem with rfl | hmem
        · exact (Std.Total.total (r := fun a b => byteLe a b = true) g g).elim id id
        · exact ((pairwise_cons.mp h.sorted).1 _ hmem).1
      have hno := h.last _ hmem hcan e mem_cons_self hle
      rw [canActivate, hp'] at hno
      cases hno
    | ok p' =>
      have hlive := Pack.isLive_of_isShadow hshadow hp'
      have hcan : canActivate now e.2 = true := by rw [canActivate, hp']; rfl
      simp only [hp', Except.bind] at hs'
      have hget : (save s e.1 p').files.get? g = if g = e.1 then some p' else s.files.get? g :=
        get?_insert _ _ _ _
      by_cases hg : g = e.1
      · rw [if_pos hg] at hget
        obtain ⟨-, -, hstays⟩ := ih (fresh_save _ _ _) (h.tail hfresh hcan hlive) hget hs'
        obtain rfl : p = e.2 := Option.some.inj (hp.symm.trans (hg ▸ hfile))
        refine ⟨.inr hpromotable, fun _ _ => ?_, fun h => ?_⟩
        · rw [hstays hlive]
          exact hlive
        · rw [isShadow_of_isLive h] at hshadow
          cases hshadow
      · rw [if_neg hg, hp] at hget
        obtain ⟨honly, hchosen, hstays⟩ := ih (fresh_save _ _ _) (h.tail hfresh hcan hlive) hget hs'
        refine ⟨honly, fun h => ?_, hstays⟩
        rcases mem_cons.mp h with rfl | h
        · exact absurd rfl hg
        · exact hchosen h

theorem eligible_eq_map (es : List (String × Pack)) :
    shadowPacksEligibleForAutoPromote host (es.map Prod.snd)
      = (es.filter (fun e => isChosen host e.2)).map (fun e => strip (nameText host e.2)) := by
  rw [shadowPacksEligibleForAutoPromote, filterMap_map, ← filterMap_eq_map, filterMap_filter]
  refine filterMap_congr (fun e _ => ?_)
  rw [Function.comp_apply, isChosen, Pack.isPromotable]
  cases (e.2.get "is_ai_authored").truthy <;> cases e.2.observeLocked <;>
    cases (strip (nameText host e.2)).isEmpty <;> simp

theorem nodup_shadowPacks (files : Files) : (shadowPacks files).Nodup :=
  (Nodup.of_map _ (nodup_sortedEntries files)).filter _

theorem queue_of_inTurn (h : InTurn host now (shadowPacks files)) :
    Queue host now (loadRules ⟨files, []⟩)
      ((shadowPacks files).filter (fun e => isChosen host e.2)) := by
  have hmem : ∀ e ∈ (shadowPacks files).filter (fun e => isChosen host e.2),
      e ∈ shadowPacks files ∧ isChosen host e.2 = true := by
    intro e he
    rwa [mem_filter] at he
  have hpromotable : ∀ e : String × Pack, isChosen host e.2 = true → e.2.isPromotable = true := by
    intro e hchosen
    rw [isChosen, Bool.and_eq_true] at hchosen
    exact hchosen.1
  refine ⟨Pairwise.filter _ ((sorted_shadowPacks files).and (nodup_shadowPacks files)),
    fun e he => ⟨(hmem e he).1, hpromotable e (hmem e he).2⟩, fun e he hearlier => ?_,
    fun e he hcan e' he' => h.last e (hmem e he).1 (hmem e he).2 hcan e' (hmem e' he').1
      (hmem e' he').2⟩
  obtain ⟨hstrip, hown⟩ := h.own e (hmem e he).1 (hmem e he).2
    (fun e' he' hchosen hle hne =>
      hearlier e' (mem_filter.mpr ⟨he', hchosen⟩) hle
      (fun hsame => hne (congrArg Prod.fst hsame)))
  exact ⟨hstrip, fun e' he' hle hname => mem_filter.mpr ⟨he', hown e' he' hle hname⟩⟩

/-- What is known of the directory along the loop: a pack that has changed is live, was found by its
name, and the packs of this name before it have changed too. -/
structure Found (host : Host) (files : Files) (s : State) : Prop where
  fresh : Fresh s
  live : ∀ file p, files.get? file = some p → s.files.get? file = some p
    ∨ (s.files.get? file).any Pack.isLive = true
  own : ∀ e ∈ shadowPacks files, s.files.get? e.1 ≠ some e.2 →
    strip (nameText host e.2) = nameText host e.2
    ∧ ∀ e' ∈ shadowPacks files, byteLe e'.1 e.1 = true → nameText host e'.2 = nameText host e.2 →
      s.files.get? e'.1 ≠ some e'.2

theorem Found.activate {s' : State} {name : String} (h : Found host files s)
    (hs' : activateShadowPack host s name now = .ok s') : Found host files s' := by
  obtain ⟨found, p, p', hfound, hfile, -, hp', rfl⟩ := activateShadowPack_cases hs'
  obtain ⟨hget, hshadow, hname⟩ := shadowDraft_spec h.fresh hfound
  obtain rfl : found.2 = p := Option.some.inj (hget.symm.trans hfile)
  have hlive := Pack.isLive_of_isShadow hshadow hp'
  have hafter : ∀ file, (save s found.1 p').files.get? file
      = if file = found.1 then some p' else s.files.get? file :=
    fun file => get?_insert _ _ _ _
  -- a pack that is no longer what it was stays so
  have hstays : ∀ e ∈ shadowPacks files, s.files.get? e.1 ≠ some e.2 ∨ e.1 = found.1 →
      (save s found.1 p').files.get? e.1 ≠ some e.2 := by
    intro e he hchanged heq
    rw [hafter] at heq
    by_cases hsame : e.1 = found.1
    · rw [if_pos hsame] at heq
      cases heq
      exact absurd (mem_shadowPacks.mp he).2 (by simp [isShadow_of_isLive hlive])
    · rw [if_neg hsame] at heq
      exact hchanged.elim (fun hne => hne heq) hsame
  refine ⟨fresh_save _ _ _, fun file q hq => ?_, fun e he hchanged => ?_⟩
  · rw [hafter]
    split_ifs
    · exact .inr hlive
    · exact h.live file q hq
  · rw [hafter] at hchanged
    by_cases hsame : e.1 = found.1
    · by_cases hold : s.files.get? e.1 = some e.2
      · obtain rfl : e = found := by
          refine Prod.ext hsame (Option.some.inj ?_)
          rw [← hold, hsame, hget]
        refine ⟨by rw [hname, strip_strip], fun e' he' hle hsameName => hstays e' he' ?_⟩
        by_contra hno
        rw [not_or, not_not] at hno
        have hloaded := (mem_loaded h.fresh).mpr ⟨hno.1, (mem_shadowPacks.mp he').2⟩
        exact hno.2 (byteLe_antisymm hle
          (shadowDraft_first h.fresh hfound hloaded (hsameName.trans hname)))
      · obtain ⟨hstrip, hown⟩ := h.own e he hold
        exact ⟨hstrip, fun e' he' hle hn => hstays e' he' (.inl (hown e' he' hle hn))⟩
    · rw [if_neg hsame] at hchanged
      obtain ⟨hstrip, hown⟩ := h.own e he hchanged
      exact ⟨hstrip, fun e' he' hle hn => hstays e' he' (.inl (hown e' he' hle hn))⟩

theorem promoted_eq {tick : Tick} (h : tick.isGreen) : promoted host files tick
    = (activateAll host tick.now (loadRules ⟨files, []⟩)
      (((shadowPacks files).filter (fun e => isChosen host e.2)).map
        (fun e => strip (nameText host e.2)))).1.files := by
  rw [promoted, maybeAutoPromoteShadow, ← Bool.not_and, ← Tick.isGreen, h, ← eligible_eq_map]
  rfl

end

namespace Demo

def drafted (name : String) (ai : Bool) : Pack := pack name "shadow" [("is_ai_authored", .bool ai)]

def directory (a b : Pack) : Files := (KeyMap.empty.insert "a.json" a).insert "b.json" b

def greenTick : Tick := ⟨true, true, [], false, now⟩

end Demo

open Demo

/-- Two packs of a model with one name, and one of a human after them. -/
def sameNames : Files :=
  (directory (drafted "burst" true) (drafted "burst" true)).insert "c.json" (drafted "burst" false)

end Tarka.Decision.RulePacks
