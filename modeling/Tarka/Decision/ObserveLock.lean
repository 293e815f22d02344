import Tarka.Decision.PackEdits

/-! # Packs that stay in Observe

A pack that is marked `observe_locked` is to stay in shadow mode. A promotion, a tick and a forced
start look at the mark; `set_pack_mode` does not, and `update_rule_pack` writes the pack anew
without it (`locked_goes_live`). When neither of the two meets a locked pack, it never becomes live
(`locked_stays_of_respected`). -/

namespace Tarka.Decision.RulePacks

open Tarka.Lib Tarka.Json Option Pack

theorem Pack.observeLocked_congr {p p' : Pack}
    (h : p'.lookup "observe_locked" = p.lookup "observe_locked") :
    p'.observeLocked = p.observeLocked := by
  rw [observeLocked, observeLocked, get, get, h]

/-! ## The rule -/

/-- The pack of a file is locked, and is not live. -/
def Guarded (old : Option Pack) : Prop :=
  ∃ p, old = some p ∧ p.observeLocked = true ∧ p.isLive = false

/-- A locked pack that is not live does not become so, whatever is called. -/
def LockHolds (host : Host) (s : State) (ops : List Operation) : Prop :=
  ∀ file, Guarded (s.files.get? file) → ∀ before, before <+: ops →
    ∀ p, (afterAll host s before).files.get? file = some p → p.isLive = false

def lockedAt (s : State) (file : String) : Bool := (s.files.get? file).any Pack.observeLocked

/-- The call does not set a locked pack active, and replaces or removes none. -/
def respected (s : State) : Operation → Bool
  | .createRulePack file _ _ => !lockedAt s file
  | .updateRulePack filename _ _ => !lockedAt s filename
  | .deleteRulePack filename => !lockedAt s filename
  | .setPackMode filename mode _ => mode != "active" || !lockedAt s filename
  | .createL2Draft file _ _ _ _ _ _ _ => !lockedAt s file
  | .createScoutPack file _ _ _ => !lockedAt s file
  | .installVerticalPack file _ _ overwrite _ => !lockedAt s file && !overwrite
  | _ => true

/-! ## One call -/

variable {s : State}

section

variable {host : Host} {op : Operation} {file : String}

theorem lockedAt_of_guarded (h : Guarded (s.files.get? file)) : lockedAt s file = true := by
  obtain ⟨p, hp, hlock, -⟩ := h
  rw [lockedAt, hp]
  exact hlock

theorem Edit.guarded {g : String} {old new : Option Pack} (h : Edit host op g old new)
    (hop : respected s op) (hlocked : lockedAt s g) (hold : Guarded old) : Guarded new := by
  have hcontra : ∀ {P : Prop}, (!lockedAt s g) → P := by
    intro P hfalse
    rw [hlocked] at hfalse
    cases hfalse
  obtain ⟨q, hq, hlock, hlive⟩ := hold
  cases h with
  | create => exact hcontra hop
  | update => exact hcontra hop
  | delete => exact hcontra hop
  | addRule happend =>
    cases hq
    refine ⟨_, rfl, ?_, isLive_of_mode (lookup_set_self _ _ _) (.inl rfl)⟩
    rw [← hlock]
    apply observeLocked_congr
    rw [lookup_set_of_ne (by decide), lookup_appendRule happend (by decide)]
  | removeRule hrule =>
    cases hq
    refine ⟨_, rfl, ?_, ?_⟩
    · rw [← hlock]
      exact observeLocked_congr (lookup_withoutRule hrule (by decide))
    · rw [← hlive]
      exact isLive_congr (lookup_withoutRule hrule (by decide))
        (lookup_withoutRule hrule (by decide))
  | @setMode _ mode _ _ hmode _ =>
    cases hq
    by_cases hactive : mode = "active"
    · rw [hactive] at hop
      exact hcontra hop
    · refine ⟨_, rfl, ?_, isLive_of_mode (lookup_set_self _ _ _) ?_⟩
      · rw [← hlock]
        exact observeLocked_congr (lookup_set_of_ne (by decide))
      · simpa [hactive] using hmode
  | activate _ hfree =>
    cases hq
    rw [hfree] at hlock
    cases hlock
  | forceLive hfree =>
    cases hq
    rw [hfree] at hlock
    cases hlock
  | propose _ hpropose =>
    cases hq
    refine ⟨_, rfl, ?_, ?_⟩
    · rw [← hlock]
      exact observeLocked_congr (lookup_proposeDemote hpropose (by decide))
    · rw [← hlive]
      exact isLive_congr (lookup_proposeDemote hpropose (by decide))
        (lookup_proposeDemote hpropose (by decide))
  | confirm _ hconfirm =>
    cases hq
    obtain ⟨-, hmode, hrest⟩ := confirmDemote_cases hconfirm
    refine ⟨_, rfl, ?_, isLive_of_mode hmode (.inl rfl)⟩
    rw [← hlock]
    exact observeLocked_congr (hrest _ (by decide) (by decide))
  | draft => exact hcontra hop
  | abandon habandon =>
    cases hq
    have hframe : ∀ k, k ≠ "_file" → k ≠ "lifecycle" →
        (Dict.erase _ "_file").lookup k = q.lookup k :=
      fun k hfile hlife =>
        (lookup_erase_of_ne _ hfile).trans (lookup_abandonDraft habandon hlife)
    refine ⟨_, rfl, ?_, ?_⟩
    · rw [← hlock]
      exact observeLocked_congr (hframe _ (by decide) (by decide))
    · rw [← hlive]
      exact isLive_congr (hframe _ (by decide) (by decide)) (hframe _ (by decide) (by decide))
  | scout => exact hcontra hop
  | slip => cases hq
  | kill =>
    cases hq
    refine ⟨_, rfl, ?_, isLive_of_mode (lookup_set_self _ _ _) (.inr rfl)⟩
    rw [← hlock]
    exact observeLocked_congr (lookup_set_of_ne (by decide))
  | vertical hfile =>
    have hboth := Bool.and_eq_true_iff.mp hop
    rcases hfile with rfl | hoverwrite
    · exact hcontra hboth.1
    · rw [hoverwrite] at hboth
      cases hboth.2

/-- **One call.** -/
theorem guarded_after (h : Guarded (s.files.get? file)) (hop : respected s op) :
    Guarded ((after host s op).files.get? file) :=
  (after_writes host s op).preserves
    (fun _ _ hedit => hedit.guarded hop (lockedAt_of_guarded h)) h

/-! ## Runs -/

theorem guarded_afterAll {before ops : List Operation} (h : Guarded (s.files.get? file))
    (hops : along host respected s ops) (hbefore : before <+: ops) :
    Guarded ((afterAll host s before).files.get? file) := by
  induction before generalizing s ops with
  | nil => exact h
  | cons op before ih =>
    obtain ⟨rest, rfl⟩ := hbefore
    have hboth := along_cons.mp hops
    exact ih (guarded_after h hboth.1) hboth.2 ⟨rest, rfl⟩

/-- **The lock holds.** In every run of calls that do not set a locked pack active and that replace
or remove none, no locked pack becomes live. -/
theorem locked_stays_of_respected {s : State} {ops : List Operation}
    (hops : along host respected s ops = true) : LockHolds host s ops := by
  intro file hguarded before hbefore p hp
  obtain ⟨q, hq, -, hlive⟩ := guarded_afterAll hguarded hops hbefore
  rw [hp] at hq
  cases hq
  exact hlive

end

namespace Demo

def seedFile : String := "seed_agent_mandate_observe_v1.json"

/-- A seed that is locked, and a pack that is not. -/
def seeded : State :=
  started ((KeyMap.empty.insert seedFile
    (pack "seed_agent_mandate_observe" "shadow" [("observe_locked", .bool true)])).insert
    "pack_1.json" (pack "velocity" "shadow" []))

def body : RulePackIn := ⟨"seed_agent_mandate_observe", [], [], .null, .null, .null⟩

/-- The lock is met by a promotion, a forced start and a new rule; another pack is rewritten and
goes live. -/
def respectful : List Operation :=
  [.promoteShadowPack "seed_agent_mandate_observe" true now,
    .forceLivePack seedFile "a good reason" (some "alice") none, .addRule seedFile .null true,
    .updateRulePack "pack_1.json" { body with name := "velocity" } true,
    .setPackMode "pack_1.json" "active" (some "alice")]

end Demo

open Demo

theorem seed_stays_locked :
    along host respected seeded respectful = true
    ∧ LockHolds host seeded respectful :=
  ⟨by decide +kernel, locked_stays_of_respected (by decide +kernel)⟩

theorem not_lockHolds {host : Host} {ops : List Operation} (file : String)
    (hlocked : (s.files.get? file).any (fun p => p.observeLocked && !p.isLive))
    (hlive : ((afterAll host s ops).files.get? file).any isLive) : ¬ LockHolds host s ops := by
  intro h
  obtain ⟨p, hp, hguarded⟩ := (any_eq_true _ _).mp hlocked
  obtain ⟨q, hq, hqlive⟩ := (any_eq_true _ _).mp hlive
  have hboth := Bool.and_eq_true_iff.mp hguarded
  have hstart : Guarded (s.files.get? file) := ⟨p, hp, hboth.1, by simpa using hboth.2⟩
  have hfalse := h file hstart ops List.prefix_rfl q hq
  rw [hqlive] at hfalse
  cases hfalse

/-- The mode of a locked pack can be set, and an update drops the mark before a promotion. -/
theorem locked_goes_live :
    ¬ LockHolds host seeded [.setPackMode seedFile "active" (some "alice")]
    ∧ ¬ LockHolds host seeded
        [.updateRulePack seedFile body true,
          .promoteShadowPack "seed_agent_mandate_observe" true now] :=
  ⟨not_lockHolds seedFile (by decide +kernel) (by decide +kernel),
    not_lockHolds seedFile (by decide +kernel) (by decide +kernel)⟩

end Tarka.Decision.RulePacks
