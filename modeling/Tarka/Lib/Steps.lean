import Mathlib.Tactic

/-! # Runs of a step function

A system is a step function on its states: an action that is not enabled has no next state. A
schedule is a list of actions, so that a statement about every schedule is one about every
interleaving of the parties that take them.

`Meets` restricts a schedule to actions that fulfil a condition in the state they are taken in.
`invariant_of_run` is the induction over runs: what every such action preserves holds in every state
that is reached. `Endless` is a run that goes on for ever, and `Endless.eventually` the argument
from a bounded measure that something happens in it. -/

namespace Tarka.Lib.Steps

variable {σ α : Type} {step : σ → α → Option σ} {cond : σ → α → Prop}

/-- The state after a schedule; `none` if one of its actions is not enabled when its turn comes. -/
def run (step : σ → α → Option σ) : σ → List α → Option σ
  | s, [] => some s
  | s, a :: as => (step s a).bind (fun s' => run step s' as)

/-- Every action of the schedule meets the condition in the state it is taken in. -/
def Meets (step : σ → α → Option σ) (cond : σ → α → Prop) : σ → List α → Prop
  | _, [] => True
  | s, a :: as => cond s a ∧ ((step s a).elim True (fun s' => Meets step cond s' as))

variable {as : List α}

theorem run_cons_eq_some {s s' : σ} {a : α} :
    run step s (a :: as) = some s' ↔ ∃ s₁, step s a = some s₁ ∧ run step s₁ as = some s' := by
  rw [run, Option.bind_eq_some_iff]

theorem meets_cons {s s₁ : σ} {a : α} (hstep : step s a = some s₁) :
    Meets step cond s (a :: as) ↔ cond s a ∧ Meets step cond s₁ as := by
  rw [Meets, hstep]
  rfl

theorem meets_true (s : σ) (as : List α) : Meets step (fun _ _ => True) s as := by
  induction as generalizing s with
  | nil => trivial
  | cons a as ih =>
    refine ⟨trivial, ?_⟩
    cases step s a with
    | none => trivial
    | some s' => exact ih s'

theorem Meets.and_forall {P : α → Prop} {s : σ} (h : Meets step cond s as) (hP : ∀ a ∈ as, P a) :
    Meets step (fun s a => cond s a ∧ P a) s as := by
  induction as generalizing s with
  | nil => trivial
  | cons a as ih =>
    have htail : ∀ a ∈ as, P a := fun a ha => hP a (List.mem_cons_of_mem _ ha)
    refine ⟨⟨h.1, hP a (by simp)⟩, ?_⟩
    cases hstep : step s a with
    | none => trivial
    | some s' => exact ih ((meets_cons hstep).mp h).2 htail

theorem Meets.of_append {s s₁ : σ} {bs : List α} (h : Meets step cond s (as ++ bs))
    (hrun : run step s as = some s₁) : Meets step cond s as ∧ Meets step cond s₁ bs := by
  induction as generalizing s with
  | nil =>
    cases hrun
    exact ⟨trivial, h⟩
  | cons a as ih =>
    obtain ⟨s₂, hstep, hrest⟩ := run_cons_eq_some.mp hrun
    rw [List.cons_append, meets_cons hstep] at h
    obtain ⟨has, hbs⟩ := ih h.2 hrest
    exact ⟨(meets_cons hstep).mpr ⟨h.1, has⟩, hbs⟩

variable {I : σ → Prop}

/-- **Induction over runs.** What every action that meets the condition preserves holds at the end
of every schedule of such actions. -/
theorem invariant_of_run
    (hstep : ∀ s a s', I s → cond s a → step s a = some s' → I s') {s s' : σ} (hinit : I s)
    (hmeets : Meets step cond s as) (hrun : run step s as = some s') : I s' := by
  induction as generalizing s with
  | nil =>
    cases hrun
    exact hinit
  | cons a as ih =>
    obtain ⟨s₁, hs₁, hrest⟩ := run_cons_eq_some.mp hrun
    rw [meets_cons hs₁] at hmeets
    exact ih (hstep s a s₁ hinit hmeets.1 hs₁) hmeets.2 hrest

/-! ## Runs without end -/

/-- A run that goes on for ever. -/
structure Endless (step : σ → α → Option σ) (cond : σ → α → Prop) (s : Nat → σ) (a : Nat → α) :
    Prop where
  next : ∀ n, step (s n) (a n) = some (s (n + 1))
  meets : ∀ n, cond (s n) (a n)

namespace Endless

variable {s : Nat → σ} {a : Nat → α}

theorem invariant (h : Endless step cond s a)
    (hstep : ∀ s a s', I s → cond s a → step s a = some s' → I s') {n : Nat} (hn : I (s n)) :
    ∀ m, n ≤ m → I (s m) := by
  intro m hm
  induction m, hm using Nat.le_induction with
  | base => exact hn
  | succ m _ ih => exact hstep (s m) (a m) (s (m + 1)) ih (h.meets m) (h.next m)

/-- A measure that no step lowers and that has a bound is not raised again and again. -/
theorem eventually (h : Endless step cond s a) {f : σ → Nat} {P : σ → Prop} {bound : Nat}
    (hmono : ∀ s a s', step s a = some s' → f s ≤ f s') (hbound : ∀ n, f (s n) ≤ bound)
    (hagain : ∀ n, ∃ m ≥ n, P (s m) ∨ f (s m) < f (s (m + 1))) : ∃ n, P (s n) := by
  by_contra hnever
  have hle : ∀ n m, n ≤ m → f (s n) ≤ f (s m) := fun n =>
    h.invariant (fun _ _ _ hs _ hstep => le_trans hs (hmono _ _ _ hstep)) le_rfl
  have hunbounded : ∀ j, ∃ n, j ≤ f (s n) := by
    intro j
    induction j with
    | zero => exact ⟨0, Nat.zero_le _⟩
    | succ j ih =>
      obtain ⟨n, hn⟩ := ih
      obtain ⟨m, hm, hP | hlt⟩ := hagain n
      · exact absurd ⟨m, hP⟩ hnever
      · exact ⟨m + 1, Nat.succ_le_of_lt (lt_of_le_of_lt (hn.trans (hle n m hm)) hlt)⟩
  obtain ⟨n, hn⟩ := hunbounded (bound + 1)
  have := hbound n
  omega

end Endless

instance decidableMeets (step : σ → α → Option σ) (cond : σ → α → Prop)
    [hdec : ∀ s a, Decidable (cond s a)] : ∀ (s : σ) (as : List α), Decidable (Meets step cond s as)
  | _, [] => inferInstanceAs (Decidable True)
  | s, a :: as =>
    have : Decidable ((step s a).elim True (fun s' => Meets step cond s' as)) :=
      match step s a with
      | none => inferInstanceAs (Decidable True)
      | some s' => decidableMeets step cond s' as
    inferInstanceAs (Decidable (cond s a ∧ _))

end Tarka.Lib.Steps
