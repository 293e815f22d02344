import Mathlib.Tactic

/-! # Machines with answers, as one of their users sees them

A machine takes an input, changes its state and gives an output. Of the inputs of a run some are one
user's own. `outputsFor` lists the outputs to them, in a run that has the inputs of everybody.

`outputsFor_eq` is the rule to show that the user cannot tell the machine from a simpler one that
gets the user's own inputs only: a relation between the two states that own inputs keep, with the
same output, and that the inputs of others keep with the simpler machine at rest. So it shows at
once that the machine computes what the simpler one does and that the users do not interfere. -/

namespace Tarka.Lib.Machine

variable {σ α ι ω : Type}

def outputs (step : σ → ι → σ × ω) : σ → List ι → List ω
  | _, [] => []
  | s, i :: is => (step s i).2 :: outputs step (step s i).1 is

/-- The outputs to own inputs, in a run with the inputs of everybody. -/
def outputsFor (own : ι → Bool) (step : σ → ι → σ × ω) : σ → List ι → List ω
  | _, [] => []
  | s, i :: is =>
    if own i then (step s i).2 :: outputsFor own step (step s i).1 is
    else outputsFor own step (step s i).1 is

/-- Every input of a run meets a condition in the state it is taken in. -/
def Along (step : σ → ι → σ × ω) (cond : σ → ι → Prop) : σ → List ι → Prop
  | _, [] => True
  | s, i :: is => cond s i ∧ Along step cond (step s i).1 is

/-- **One user's view of a machine is a simpler machine.** `P` may restrict the inputs of the
run. -/
theorem outputsFor_eq {own : ι → Bool} {step : σ → ι → σ × ω} {astep : α → ι → α × ω}
    {R : σ → α → Prop} {cond : α → ι → Prop} {P : ι → Prop}
    (hown : ∀ s a i, P i → own i → cond a i → R s a →
      (step s i).2 = (astep a i).2 ∧ R (step s i).1 (astep a i).1)
    (hother : ∀ s a i, P i → own i = false → R s a → R (step s i).1 a) {s : σ} {a : α} {is : List ι}
    (hP : ∀ i ∈ is, P i) (hR : R s a) (hcond : Along astep cond a (is.filter own)) :
    outputsFor own step s is = outputs astep a (is.filter own) := by
  induction is generalizing s a with
  | nil => rfl
  | cons i is ih =>
    have hi : P i := hP i (by simp)
    have hrest : ∀ j ∈ is, P j := fun j hj => hP j (List.mem_cons_of_mem _ hj)
    rw [outputsFor]
    cases ho : own i with
    | true =>
      rw [List.filter_cons_of_pos ho] at hcond ⊢
      obtain ⟨hout, hR'⟩ := hown s a i hi ho hcond.1 hR
      rw [if_pos rfl, outputs, hout, ih hrest hR' hcond.2]
    | false =>
      have hne : ¬ own i := by rw [ho]; exact Bool.false_ne_true
      rw [List.filter_cons_of_neg hne] at hcond ⊢
      rw [if_neg Bool.false_ne_true, ih hrest (hother s a i hi ho hR) hcond]

end Tarka.Lib.Machine
