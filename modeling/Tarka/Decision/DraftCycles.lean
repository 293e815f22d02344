import Tarka.Decision.Drafts

/-! # A draft that goes live and back

A draft is built in shadow mode, promoted, and demoted by a proposal and its confirmation. Two
things are left behind by one round. The confirmation stays in the lifecycle when the pack is
promoted again, and no later proposal is taken (`no_second_demotion`). The hash of the pack is that
of shadow mode, also while the pack is live, and the gate says that a backtest has passed when none
was asked for (`stale_hash_and_gate`). -/

namespace Tarka.Decision.RulePacks

open Tarka.Lib Tarka.Json List Dict

/-- What is done to a pack after it was built. -/
inductive Change where
  | promote (now : String)
  | propose (actor reason now : String)
  | confirm (actor reason now : String)

/-- The gate that the lifecycle records. -/
def Pack.gate (p : Pack) : Value := Pack.get (dictOrEmpty (p.get "lifecycle")) "gate"

section

variable (host : Host)

/-- `activate_shadow_pack` finds packs in shadow mode only. -/
def Change.apply (p : Pack) : Change → Except HttpError Pack
  | promote now =>
    if !p.isShadow then .error ⟨404, "no_shadow_draft"⟩
    else if p.observeLocked then .error observeLockedError
    else activatedPack p now
  | propose actor reason now => proposeDemote host p actor reason now
  | confirm actor reason now => confirmDemote host p actor reason now

/-- The pack after a change; one that is refused leaves it as it is. -/
def changed (p : Pack) (c : Change) : Pack := (c.apply host p).toOption.getD p

def changedAll (p : Pack) (cs : List Change) : Pack := cs.foldl (changed host) p

/-- A human actor with a reason. -/
def Audited (actor reason : String) : Prop := ∃ a, requireDemoteAudit host actor reason = .ok a

/-- A human proposal and a human confirmation take the pack to shadow mode. -/
def Demotable (p : Pack) : Prop :=
  ∀ who why now who' why' now', Audited host who why → Audited host who' why' →
    (changedAll host p [.propose who why now, .confirm who' why' now']).lookup "mode"
      = some (.string "shadow")

def confirms (p : Pack) : Change → Bool
  | .confirm actor reason now => (confirmDemote host p actor reason now).toOption.isSome
  | _ => false

/-- The stored hash is that of the pack, and the gate tells of a backtest that has passed. -/
def Honest (backtestOk : Bool) (p : Pack) : Prop :=
  p.get "pack_hash" = .string (computePackHash host p)
  ∧ (p.gate = .string "backtest_passed" → backtestOk = true)

/-- A confirmation was accepted in the run. -/
def confirmedIn : Pack → List Change → Bool
  | _, [] => false
  | p, c :: cs => confirms host p c || confirmedIn (changed host p c) cs

end

section

variable {host : Host} {p p' : Pack}

theorem get_set_of_ne {k k' : String} {v : Value} (h : k' ≠ k) :
    Pack.get (set p k v) k' = p.get k' := by
  rw [Pack.get, lookup_set_of_ne h]
  rfl

variable {now : String}

theorem activatedPack_gate (h : activatedPack p now = .ok p') : p'.gate = p.gate := by
  rw [activatedPack] at h
  split_ifs at h
  · obtain ⟨life, hlife, h⟩ := except_bind_eq_ok.mp h
    cases h
    rw [Pack.gate, get_set_self, dictOrEmpty, get_set_of_ne (by decide), get_set_of_ne (by decide),
      eq_dictOrEmpty hlife, get_set_of_ne (by decide)]
    rfl
  · cases h
    rw [Pack.gate, get_set_of_ne (by decide)]
    rfl

variable {actor reason : String}

theorem proposeDemote_ok (h : proposeDemote host p actor reason now = .ok p') :
    p'.gate = p.gate ∧ demoteState host p ≠ "confirmed" ∧ demoteState host p' = "proposed" := by
  rw [proposeDemote] at h
  split_ifs at h with hlive hproposed hconfirmed <;>
    obtain ⟨⟨who, why⟩, -, h⟩ := except_bind_eq_ok.mp h <;> cases h
  refine ⟨?_, hconfirmed, ?_⟩
  · rw [Pack.gate, get_set_self, dictOrEmpty, get_set_of_ne (by decide)]
    rfl
  · rw [demoteState, demoteBlob, get_set_self, dictOrEmpty, get_set_self]
    rfl

theorem confirmDemote_gate (h : confirmDemote host p actor reason now = .ok p') :
    p'.gate = p.gate := by
  rw [confirmDemote] at h
  split_ifs at h <;> obtain ⟨⟨who, why⟩, -, h⟩ := except_bind_eq_ok.mp h <;> cases h
  rw [Pack.gate, get_set_of_ne (by decide), get_set_self, dictOrEmpty, get_set_of_ne (by decide)]
  rfl

variable {c : Change}

/-! ## Demotion after a demotion -/

theorem demoteState_changed : demoteState host (changed host p c) = "confirmed"
    ↔ demoteState host p = "confirmed" ∨ confirms host p c = true := by
  rw [changed]
  cases h : c.apply host p with
  | error e =>
    cases c with
    | confirm actor reason now =>
      rw [Change.apply] at h
      simp [confirms, h, Except.toOption]
    | _ => simp [confirms, Except.toOption]
  | ok p' =>
    cases c with
    | promote now =>
      rw [Change.apply] at h
      split_ifs at h
      simp [confirms, Except.toOption, demoteState_of_activatedPack h]
    | propose actor reason now =>
      obtain ⟨-, hbefore, hafter⟩ := proposeDemote_ok h
      simp [confirms, Except.toOption, hbefore, hafter]
    | confirm actor reason now =>
      rw [Change.apply] at h
      simp [confirms, Except.toOption, h, demoteState_of_confirmDemote h]

theorem demoteState_changedAll (cs : List Change) :
    demoteState host (changedAll host p cs) = "confirmed"
      ↔ demoteState host p = "confirmed" ∨ confirmedIn host p cs = true := by
  induction cs generalizing p with
  | nil => simp [changedAll, confirmedIn]
  | cons c cs ih =>
    rw [changedAll, foldl_cons, ← changedAll, ih, demoteState_changed, confirmedIn, Bool.or_eq_true,
      or_assoc]

theorem audited_of_confirmedIn {cs : List Change} (h : confirmedIn host p cs) :
    ∃ who why, Audited host who why := by
  induction cs generalizing p with
  | nil => cases h
  | cons c cs ih =>
    rcases Bool.or_eq_true_iff.mp h with hc | hcs
    · cases c with
      | confirm actor reason now =>
        cases hok : confirmDemote host p actor reason now with
        | error e =>
          rw [confirms, hok] at hc
          cases hc
        | ok p' =>
          rw [confirmDemote] at hok
          split_ifs at hok <;> obtain ⟨a, ha, -⟩ := except_bind_eq_ok.mp hok <;>
            exact ⟨actor, reason, a, ha⟩
      | _ => cases hc
    · exact ih hcs

section

variable {who why now : String} (hlive : saysLive host p) (h : Audited host who why)

include hlive h

theorem propose_live : saysLive host (changed host p (.propose who why now)) = true
    ∧ (demoteState host (changed host p (.propose who why now)) = "proposed"
      ↔ demoteState host p ≠ "confirmed") := by
  obtain ⟨a, ha⟩ := h
  rw [changed, Change.apply]
  cases hpropose : proposeDemote host p who why now with
  | ok p' =>
    obtain ⟨-, hbefore, hafter⟩ := proposeDemote_ok hpropose
    refine ⟨?_, iff_of_true hafter hbefore⟩
    rw [saysLive, modeText, Pack.get] at hlive ⊢
    rwa [← lookup_proposeDemote hpropose (by decide)] at hlive
  | error e =>
    simp only [proposeDemote, hlive, ha, Except.bind] at hpropose
    split_ifs at hpropose <;> simp_all [Except.toOption]

theorem mode_confirm :
    (changed host p (.confirm who why now)).lookup "mode" = some (.string "shadow")
    ↔ demoteState host p = "proposed" := by
  obtain ⟨a, ha⟩ := h
  rw [changed, Change.apply]
  cases hconfirm : confirmDemote host p who why now with
  | ok p' =>
    obtain ⟨hstate, hmode, -⟩ := confirmDemote_cases hconfirm
    exact iff_of_true hmode hstate
  | error e =>
    simp only [confirmDemote, hlive, ha, Except.bind] at hconfirm
    split_ifs at hconfirm with hno hstate
    · cases hno
    refine iff_of_false (fun hmode => ?_) hstate
    rw [saysLive, modeText, Pack.get, show p.lookup "mode" = _ from hmode] at hlive
    cases hlive

end

/-- The two calls on a live pack. -/
theorem demoted_iff {who why who' why' now' : String} (hlive : saysLive host p)
    (h : Audited host who why) (h' : Audited host who' why') :
    (changedAll host p [.propose who why now, .confirm who' why' now']).lookup "mode"
      = some (.string "shadow") ↔ demoteState host p ≠ "confirmed" := by
  rw [changedAll, foldl_cons, foldl_cons, foldl_nil,
    mode_confirm (propose_live hlive h).1 h', (propose_live hlive h).2]

/-- **A live pack can be demoted** after a run exactly when no confirmation was accepted in it. -/
theorem demotable_iff (hnew : demoteState host p ≠ "confirmed") (cs : List Change) :
    (saysLive host (changedAll host p cs) = true → Demotable host (changedAll host p cs))
      ↔ (saysLive host (changedAll host p cs) = true → confirmedIn host p cs = false) := by
  have hstate : demoteState host (changedAll host p cs) = "confirmed"
      ↔ confirmedIn host p cs = true := by
    rw [demoteState_changedAll, or_iff_right hnew]
  refine forall_congr' (fun hlive => ⟨fun h => ?_, fun h => ?_⟩)
  · by_contra hconfirmed
    rw [Bool.not_eq_false] at hconfirmed
    obtain ⟨who, why, haudit⟩ := audited_of_confirmedIn hconfirmed
    have hmode := h who why "" who why "" haudit haudit
    exact (demoted_iff hlive haudit haudit).mp hmode (hstate.mpr hconfirmed)
  · intro who why now who' why' now' haudit haudit'
    rw [demoted_iff hlive haudit haudit', Ne, hstate, h]
    exact Bool.false_ne_true

/-! ## The hash and the gate -/

/-- What the changes leave of a pack. -/
structure Kept (p q : Pack) : Prop where
  gate : q.gate = p.gate
  frame : ∀ k, k ≠ "mode" → k ≠ "lifecycle" → q.lookup k = p.lookup k
  mode : q.lookup "mode" = some (.string "active") ∨ q.lookup "mode" = some (.string "shadow")

variable {q : Pack}

theorem Kept.changed (hq : Kept p q) (c : Change) : Kept p (changed host q c) := by
  rw [RulePacks.changed]
  cases h : c.apply host q with
  | error e => exact hq
  | ok q' =>
    cases c with
    | promote now =>
      rw [Change.apply] at h
      split_ifs at h
      obtain ⟨hmode, hrest⟩ := activatedPack_cases h
      exact ⟨(activatedPack_gate h).trans hq.gate,
        fun k h₁ h₂ => (hrest k h₁ h₂).trans (hq.frame k h₁ h₂), .inl hmode⟩
    | propose actor reason now =>
      exact ⟨(proposeDemote_ok h).1.trans hq.gate,
        fun k h₁ h₂ => (lookup_proposeDemote h h₂).trans (hq.frame k h₁ h₂),
        (lookup_proposeDemote h (k := "mode") (by decide)).symm ▸ hq.mode⟩
    | confirm actor reason now =>
      obtain ⟨-, hmode, hrest⟩ := confirmDemote_cases h
      exact ⟨(confirmDemote_gate h).trans hq.gate,
        fun k h₁ h₂ => (hrest k h₂ h₁).trans (hq.frame k h₁ h₂), .inr hmode⟩

theorem Kept.changedAll (hq : Kept p q) (cs : List Change) : Kept p (changedAll host q cs) := by
  induction cs generalizing q with
  | nil => exact hq
  | cons c cs ih => exact ih (hq.changed c)

theorem Kept.computePackHash (hq : Kept p q) :
    computePackHash host q = computePackHash host (set p "mode" (q.get "mode")) := by
  have hget : ∀ k, k ≠ "mode" → k ≠ "lifecycle" →
      q.get k = Pack.get (set p "mode" (q.get "mode")) k := by
    intro k h₁ h₂
    rw [get_set_of_ne h₁, Pack.get, hq.frame k h₁ h₂, Pack.get]
  rw [RulePacks.computePackHash, hget "name" (by decide) (by decide),
    hget "rules" (by decide) (by decide), RulePacks.computePackHash, get_set_self]

/-- **The hash and the gate** are right exactly in shadow mode, for a draft whose backtest was
skipped or has passed, as long as the two modes have different hashes. -/
theorem honest_iff {receipt : Receipt} {body : L2DraftIn} {backtestOk valid : Bool}
    (h : buildL2Draft host receipt body actor now backtestOk valid = .ok p)
    (hsha : computePackHash host (set p "mode" (.string "active")) ≠ computePackHash host p)
    (cs : List Change) : Honest host backtestOk (changedAll host p cs)
      ↔ (changedAll host p cs).isShadow = true
        ∧ (body.skipBacktest = true ∨ backtestOk = true) := by
  rw [buildL2Draft] at h
  split_ifs at h with _ _ hai
  cases h
  have hkept :
      Kept (l2Pack host receipt body actor now)
        (changedAll host (l2Pack host receipt body actor now) cs) :=
    Kept.changedAll ⟨rfl, fun _ _ _ => rfl, .inr rfl⟩ cs
  generalize changedAll host (l2Pack host receipt body actor now) cs = q at *
  refine and_congr ?_ ?_
  · have hstored :
        q.get "pack_hash"
          = .string (computePackHash host (l2Pack host receipt body actor now)) := by
      rw [Pack.get, hkept.frame _ (by decide) (by decide)]
      rfl
    rw [hstored, Value.string.injEq, hkept.computePackHash, Pack.get]
    rcases hkept.mode with hactive | hshadow
    · rw [hactive, Pack.isShadow_of_active hactive]
      exact iff_of_false hsha.symm Bool.false_ne_true
    · rw [Pack.isShadow, Pack.loadedAs, hkept.frame "version" (by decide) (by decide), Pack.mode,
        hshadow]
      exact iff_of_true rfl rfl
  · have hgate : (l2Pack host receipt body actor now).gate
        = .string
          (if !(authoredByKind host body.authoredBy body.isAiAuthored).2 && body.skipBacktest
            then "backtest_skipped_human" else "backtest_passed") := rfl
    rw [hkept.gate, hgate, Value.string.injEq]
    revert hai
    cases (authoredByKind host body.authoredBy body.isAiAuthored).2 <;>
      cases body.skipBacktest <;> cases backtestOk <;> simp

end

namespace Demo

def round : List Change := [.propose "ann" "noise" now, .confirm "bob" "agreed" now]

/-- A hash that tells the two modes apart. -/
def modeHost : Host := { host with sha256 := fun bs => ⟨replicate 32 (bs.getD 9 0), by simp⟩ }

/-- A draft of a human, who does not skip the backtest. -/
def build (backtestOk : Bool) : Except HttpError Pack :=
  buildL2Draft modeHost ⟨"acme", "user-1", "", "trace-1"⟩
    ⟨"case7", "", "seen in review", "human", false, false, "", [.object [("when_ast", .object [])]]⟩
    "ann" now backtestOk true

def built : Pack := (build true).toOption.getD []

end Demo

open Demo

/-- A proposal that is still parked does no harm. -/
theorem demotable_once :
    let parked := changedAll host (pack "velocity" "active" []) [.propose "ann" "noise" now]
    demoteState host (pack "velocity" "active" []) ≠ "confirmed" ∧ saysLive host parked = true
      ∧ Demotable host parked := by
  intro parked
  have hlive : saysLive host parked = true := by decide +kernel
  have hnew : demoteState host (pack "velocity" "active" []) ≠ "confirmed" := by decide
  exact ⟨hnew, hlive, (demotable_iff hnew _).mpr (fun _ => rfl) hlive⟩

/-- The pack is promoted again and cannot be demoted. -/
theorem no_second_demotion :
    saysLive host (changedAll host (pack "velocity" "active" []) (round ++ [.promote now])) = true
    ∧ ¬ Demotable host (changedAll host (pack "velocity" "active" [])
      (round ++ [.promote now])) := by
  refine ⟨by decide +kernel, fun h => ?_⟩
  have hmode := h "ann" "noise" now "bob" "agreed" now ⟨_, rfl⟩ ⟨_, rfl⟩
  exact absurd (congrArg (Option.any (isText "shadow")) hmode) (by decide +kernel)

/-- The draft was live and is demoted again. -/
theorem honest_when_built : build true = .ok built
    ∧ computePackHash modeHost (set built "mode" (.string "active"))
      ≠ computePackHash modeHost built
    ∧ Honest modeHost true (changedAll modeHost built (.promote now :: round)) := by
  have hbuilt : build true = .ok built := rfl
  have hsha : computePackHash modeHost (set built "mode" (.string "active"))
      ≠ computePackHash modeHost built := by decide +kernel
  refine ⟨hbuilt, hsha, (honest_iff hbuilt hsha _).mpr ⟨?_, .inr rfl⟩⟩
  decide +kernel

/-- The hash of the live pack, and the gate of a draft that no backtest was made for. -/
theorem stale_hash_and_gate :
    build true = .ok built ∧ ¬ Honest modeHost true (changedAll modeHost built [.promote now])
    ∧ build false = .ok built ∧ ¬ Honest modeHost false built := by
  refine ⟨rfl, fun h => ?_, rfl, fun h => Bool.false_ne_true (h.2 rfl)⟩
  exact absurd (congrArg (isText (computePackHash modeHost built)) h.1) (by decide +kernel)

end Tarka.Decision.RulePacks
