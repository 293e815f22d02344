import Mathlib.Tactic

/-! # Machines that write to one log

Several machines take turns. Each has a state of its own, and what it writes goes to the end of a
log that all of them share. In every interleaving a machine runs as it would on its own
(`states_run`), and if its entries can be told from those of the others, the log has them as the
machine wrote them (`filter_log_run`; states that the machines cannot reach may be left out, as not
`Good`). So what is shown of one machine alone, by the rule `runOne_invariant`, holds of it among
the others. -/

namespace Tarka.Lib.SharedLog

open List

variable {ι σ α ρ : Type}

/-! ## One machine -/

/-- A machine on its own: the last state, and all it has written. -/
def runOne (step : σ → α → σ × List ρ) : σ → List α → σ × List ρ
  | s, [] => (s, [])
  | s, a :: as =>
    ((runOne step (step s a).1 as).1, (step s a).2 ++ (runOne step (step s a).1 as).2)

variable {step : σ → α → σ × List ρ}

/-- What every step keeps of the state and of the entries so far, the run keeps. -/
theorem runOne_invariant {Inv : σ → List ρ → Prop}
    (hstep : ∀ s out a, Inv s out → Inv (step s a).1 (out ++ (step s a).2)) {s : σ} {out : List ρ}
    (as : List α) (h : Inv s out) : Inv (runOne step s as).1 (out ++ (runOne step s as).2) := by
  induction as generalizing s out with
  | nil => rwa [runOne, append_nil]
  | cons a as ih =>
    rw [runOne, ← append_assoc]
    exact ih (hstep s out a h)

theorem runOne_measure (measure : σ → Nat) (hstep : ∀ s a, measure (step s a).1 ≤ measure s - 1)
    {s : σ} {as : List α} (h : measure s ≤ as.length) : measure (runOne step s as).1 = 0 := by
  induction as generalizing s with
  | nil => exact Nat.le_zero.mp h
  | cons a as ih =>
    have hdrop := hstep s a
    rw [length_cons] at h
    exact ih (by omega)

/-! ## Turns -/

/-- The states of the machines, and the log. -/
structure Shared (ι σ ρ : Type) where
  states : ι → σ
  log : List ρ

variable [DecidableEq ι]

def turn (step : ι → σ → α → σ × List ρ) (s : Shared ι σ ρ) (t : ι × α) : Shared ι σ ρ where
  states := Function.update s.states t.1 (step t.1 (s.states t.1) t.2).1
  log := s.log ++ (step t.1 (s.states t.1) t.2).2

def run (step : ι → σ → α → σ × List ρ) (s : Shared ι σ ρ) (turns : List (ι × α)) : Shared ι σ ρ :=
  turns.foldl (turn step) s

def inputs (i : ι) (turns : List (ι × α)) : List α :=
  (turns.filter (fun t => decide (t.1 = i))).map Prod.snd

theorem inputs_cons (i : ι) (t : ι × α) (turns : List (ι × α)) :
    inputs i (t :: turns) = if t.1 = i then t.2 :: inputs i turns else inputs i turns := by
  rw [inputs, filter_cons]
  by_cases h : t.1 = i
  · rw [if_pos h, if_pos (decide_eq_true h)]
    rfl
  · rw [if_neg h, if_neg (by simpa using h)]
    rfl

section

variable (step : ι → σ → α → σ × List ρ) (s : Shared ι σ ρ)

theorem turn_states_self (t : ι × α) :
    (turn step s t).states t.1 = (step t.1 (s.states t.1) t.2).1 :=
  Function.update_self ..

theorem turn_states_ne {t : ι × α} {i : ι} (h : t.1 ≠ i) :
    (turn step s t).states i = s.states i :=
  Function.update_of_ne (Ne.symm h) ..

theorem turn_log (t : ι × α) :
    (turn step s t).log = s.log ++ (step t.1 (s.states t.1) t.2).2 := rfl

theorem states_run (turns : List (ι × α)) (i : ι) :
    (run step s turns).states i = (runOne (step i) (s.states i) (inputs i turns)).1 := by
  induction turns generalizing s with
  | nil => rfl
  | cons t turns ih =>
    have hrest : (run step s (t :: turns)).states i
        = (runOne (step i) ((turn step s t).states i) (inputs i turns)).1 := ih (turn step s t)
    rw [hrest, inputs_cons]
    by_cases h : t.1 = i
    · subst h
      rw [if_pos rfl, turn_states_self, runOne]
    · rw [if_neg h, turn_states_ne step s h]

variable {step} {Good : ι → σ → Prop} (hkeep : ∀ j s a, Good j s → Good j (step j s a).1)

include hkeep

variable {s : Shared ι σ ρ}

theorem good_turn (hs : ∀ j, Good j (s.states j)) (t : ι × α) :
    ∀ j, Good j ((turn step s t).states j) := by
  intro j
  by_cases h : t.1 = j
  · subst h
    rw [turn_states_self]
    exact hkeep _ _ _ (hs _)
  · rw [turn_states_ne step s h]
    exact hs j

theorem filter_log_run {p : ρ → Bool} {i : ι} (hown : ∀ s a, Good i s → ∀ r ∈ (step i s a).2, p r)
    (hother : ∀ j, j ≠ i → ∀ s a, Good j s → ∀ r ∈ (step j s a).2, p r = false)
    (hs : ∀ j, Good j (s.states j)) (turns : List (ι × α)) : (run step s turns).log.filter p
      = s.log.filter p ++ (runOne (step i) (s.states i) (inputs i turns)).2 := by
  induction turns generalizing s with
  | nil => exact (append_nil _).symm
  | cons t turns ih =>
    have hrest : (run step s (t :: turns)).log.filter p
        = (turn step s t).log.filter p
          ++ (runOne (step i) ((turn step s t).states i) (inputs i turns)).2 :=
      ih (good_turn hkeep hs t)
    rw [hrest, inputs_cons, turn_log, filter_append]
    by_cases h : t.1 = i
    · subst h
      rw [if_pos rfl, turn_states_self, runOne, filter_eq_self.mpr (hown _ _ (hs _)), append_assoc]
    · have hnone : (step t.1 (s.states t.1) t.2).2.filter p = [] := by
        rw [filter_eq_nil_iff]
        intro r hr
        rw [hother t.1 h _ _ (hs _) r hr]
        exact Bool.false_ne_true
      rw [if_neg h, turn_states_ne step s h, hnone, append_nil]

theorem forall_mem_log_run {Q : ρ → Prop} (hstep : ∀ j s a, Good j s → ∀ r ∈ (step j s a).2, Q r)
    (hs : ∀ j, Good j (s.states j)) (hlog : ∀ r ∈ s.log, Q r) (turns : List (ι × α)) :
    ∀ r ∈ (run step s turns).log, Q r := by
  induction turns generalizing s with
  | nil => exact hlog
  | cons t turns ih =>
    apply ih (good_turn hkeep hs t)
    intro r hr
    rcases mem_append.mp hr with hr | hr
    · exact hlog r hr
    · exact hstep _ _ _ (hs _) r hr

end

end Tarka.Lib.SharedLog
