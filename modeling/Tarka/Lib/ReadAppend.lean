import Tarka.Lib.Steps

/-! # Writers that read the end of a log and append to it

Each writer first reads what the last record of a shared log is known by, and later appends a record
that refers to it. Other writers may take their turns in between. The records are linked one by one
if each refers to the one before it.

`linked_iff` says in which interleavings they are: those in which the next append after the read of
a writer is its own. One direction needs that records which are known by the same hash refer to the
same record; then the hashes of a linked log are all different (`pairwise_ne_of_linked`), and a
reference to any other record than the last one shows. -/

namespace Tarka.Lib.ReadAppend

open List Option Function Steps

variable {ι α H : Type}

/-- Where a writer stands. -/
inductive Phase (H : Type) where
  | idle
  | read (seen : Option H)
  | done

structure State (ι α H : Type) where
  log : List α
  phase : ι → Phase H

inductive Turn (ι : Type) where
  | read (i : ι)
  | append (i : ι)
  deriving DecidableEq

def Turn.isAppend : Turn ι → Bool
  | read _ => false
  | append _ => true

section

variable [DecidableEq ι]

def State.afterRead (last : List α → Option H) (s : State ι α H) (i : ι) : State ι α H :=
  ⟨s.log, Function.update s.phase i (.read (last s.log))⟩

def State.afterAppend (make : ι → Option H → α) (s : State ι α H) (i : ι) (seen : Option H) :
    State ι α H :=
  ⟨s.log ++ [make i seen], Function.update s.phase i .done⟩

def step (last : List α → Option H) (make : ι → Option H → α) (s : State ι α H) :
    Turn ι → Option (State ι α H)
  | .read i =>
    match s.phase i with
    | .idle => some (s.afterRead last i)
    | _ => none
  | .append i =>
    match s.phase i with
    | .read seen => some (s.afterAppend make i seen)
    | _ => none

end

def start : State ι α H := ⟨[], fun _ => .idle⟩

/-- After the read of a writer the next append is its own, if there is one. -/
def Undisturbed : List (Turn ι) → Prop
  | [] => True
  | .read i :: ts =>
    (Turn.append i ∈ ts → ts.find? Turn.isAppend = some (.append i)) ∧ Undisturbed ts
  | .append _ :: ts => Undisturbed ts

instance decidableUndisturbed [DecidableEq ι] : DecidablePred (Undisturbed : List (Turn ι) → Prop)
  | [] => .isTrue trivial
  | .read i :: ts =>
    haveI := decidableUndisturbed ts
    inferInstanceAs (Decidable
      ((Turn.append i ∈ ts → ts.find? Turn.isAppend = some (.append i)) ∧ Undisturbed ts))
  | .append _ :: ts => decidableUndisturbed ts

def Linked (hash : α → H) (prev : α → Option H) (a b : α) : Prop := prev b = some (hash a)

variable {prev : α → Option H} {hash : α → H} {l : List α}

/-- **The records of a linked log are known by different hashes**: two that share one refer to the
same record, and so on back to the first, which refers to none. -/
theorem pairwise_ne_of_linked
    (hlinked : l.IsChain (Linked hash prev)) (hfirst : ∀ a ∈ l.head?, prev a = none)
    (hprev : ∀ a ∈ l, ∀ b ∈ l, hash a = hash b → prev a = prev b) :
    l.Pairwise (fun a b => hash a ≠ hash b) := by
  rw [pairwise_iff_getElem]
  intro i j hi hj hij heq
  have hlink := isChain_iff_getElem.mp hlinked
  induction i generalizing j with
  | zero =>
    obtain ⟨k, rfl⟩ : ∃ k, j = k + 1 := ⟨j - 1, by omega⟩
    have hsame := hprev _ (getElem_mem hi) _ (getElem_mem hj) heq
    have hnone : prev l[0] = none := by
      apply hfirst
      rw [head?_eq_getElem?, getElem?_eq_getElem hi]
      rfl
    rw [hnone, hlink k hj] at hsame
    cases hsame
  | succ i ih =>
    obtain ⟨k, rfl⟩ : ∃ k, j = k + 1 := ⟨j - 1, by omega⟩
    have hsame := hprev _ (getElem_mem hi) _ (getElem_mem hj) heq
    rw [hlink i hi, hlink k hj] at hsame
    exact ih k (by omega) (by omega) (by omega) (some.inj hsame)

/-- What writers know of records: the log tells its last record by its hash, and a record tells what
its writer has read. -/
structure Faithful (last : List α → Option H) (make : ι → Option H → α) (hash : α → H)
    (prev : α → Option H) : Prop where
  last_nil : last [] = none
  last_append : ∀ l i seen, last (l ++ [make i (last seen)]) = some (hash (make i (last seen)))
  prev_make : ∀ i seen, prev (make i (last seen)) = last seen

/-- Records are appended by writers, and a writer that is about to append has read an earlier
log. -/
structure Inv (last : List α → Option H) (make : ι → Option H → α) (s : State ι α H) : Prop where
  made : ∀ a ∈ s.log, ∃ i seen, a = make i (last seen)
  pending : ∀ i seen, s.phase i = .read seen → ∃ l, l <+: s.log ∧ seen = last l
  first : ∀ a ∈ s.log.head?, ∃ i, a = make i (last [])

variable {last : List α → Option H} {make : ι → Option H → α}

theorem inv_start :
    Inv last make (start : State ι α H) where
  made := fun _ h => absurd h not_mem_nil
  pending := fun _ _ h => by cases h
  first := fun _ h => by cases h

variable {s : State ι α H}

theorem linked_append (i : ι) (hf : Faithful last make hash prev) (hinv : Inv last make s)
    (hlinked : s.log.IsChain (Linked hash prev)) :
    (s.log ++ [make i (last s.log)]).IsChain (Linked hash prev) := by
  rw [isChain_append]
  refine ⟨hlinked, isChain_singleton _, ?_⟩
  intro a ha b hb
  cases hb
  obtain ⟨l, hl⟩ := getLast?_eq_some_iff.mp ha
  obtain ⟨j, seen, rfl⟩ := hinv.made a (by rw [hl]; simp)
  rw [Linked, hf.prev_make, hl, hf.last_append]

/-- A reader that appends after others have done so is not linked to the record before its own. -/
theorem eq_log_of_linked {i : ι} (hf : Faithful last make hash prev) (hinv : Inv last make s)
    (hl : l <+: s.log) (hlinked : (s.log ++ [make i (last l)]).IsChain (Linked hash prev))
    (hprev : ∀ a ∈ s.log, ∀ b ∈ s.log, hash a = hash b → prev a = prev b) : l = s.log := by
  obtain ⟨hchain, -, hlink⟩ := isChain_append.mp hlinked
  obtain ⟨m, hm⟩ := hl
  rcases eq_nil_or_concat m with rfl | ⟨m, b, rfl⟩
  · rw [← hm, append_nil]
  exfalso
  -- the writer refers to the last record of `l`, and the last record of the log is `b`
  have hb : Linked hash prev b (make i (last l)) := by
    apply hlink b _ _ rfl
    rw [← hm]
    simp
  rw [Linked, hf.prev_make] at hb
  rcases eq_nil_or_concat l with rfl | ⟨l, a, rfl⟩
  · rw [hf.last_nil] at hb
    cases hb
  · rw [concat_eq_append] at hm hb
    obtain ⟨j, seen, rfl⟩ := hinv.made a (by rw [← hm]; simp)
    rw [hf.last_append] at hb
    have hfirst : ∀ a ∈ s.log.head?, prev a = none := by
      intro a ha
      obtain ⟨k, rfl⟩ := hinv.first a ha
      rw [hf.prev_make, hf.last_nil]
    have hpairwise := pairwise_ne_of_linked hchain hfirst hprev
    rw [← hm, pairwise_append] at hpairwise
    exact hpairwise.2.2 (make j (last seen)) (by simp) b (by simp) (some.inj hb)

section

variable [DecidableEq ι] {last : List α → Option H} {make : ι → Option H → α} {hash : α → H}
  {prev : α → Option H} {s s' : State ι α H} {ts : List (Turn ι)} {t : Turn ι} {i j : ι}
  {seen seen' : Option H}

/-! ## One turn -/

theorem step_read_eq_some :
    step last make s (.read i) = some s' ↔ s.phase i = .idle ∧ s.afterRead last i = s' := by
  rw [step]
  cases s.phase i <;> simp

theorem step_append_eq_some :
    step last make s (.append i) = some s'
      ↔ ∃ seen, s.phase i = .read seen ∧ s.afterAppend make i seen = s' := by
  rw [step]
  cases s.phase i <;> simp

theorem phase_afterRead (h : (s.afterRead last i).phase j = .read seen) :
    (j = i ∧ seen = last s.log) ∨ s.phase j = .read seen := by
  by_cases hij : j = i
  · subst hij
    simp only [State.afterRead, update_self] at h
    exact .inl ⟨rfl, (Phase.read.inj h).symm⟩
  · simp only [State.afterRead, update_of_ne hij] at h
    exact .inr h

theorem phase_afterAppend (h : (s.afterAppend make i seen).phase j = .read seen') :
    j ≠ i ∧ s.phase j = .read seen' := by
  by_cases hij : j = i
  · subst hij
    simp only [State.afterAppend, update_self] at h
    cases h
  · simp only [State.afterAppend, update_of_ne hij] at h
    exact ⟨hij, h⟩

theorem log_prefix_of_step (hstep : step last make s t = some s') : s.log <+: s'.log := by
  cases t with
  | read i =>
    obtain ⟨-, rfl⟩ := step_read_eq_some.mp hstep
    exact prefix_rfl
  | append i =>
    obtain ⟨seen, -, rfl⟩ := step_append_eq_some.mp hstep
    exact prefix_append _ _

/-- **A turn keeps what is known of the log and of its readers.** -/
theorem Inv.of_step (h : Inv last make s) (hstep : step last make s t = some s') :
    Inv last make s' := by
  cases t with
  | read i =>
    obtain ⟨-, rfl⟩ := step_read_eq_some.mp hstep
    refine ⟨h.made, ?_, h.first⟩
    intro j seen hj
    rcases phase_afterRead hj with ⟨-, rfl⟩ | hold
    · exact ⟨s.log, prefix_rfl, rfl⟩
    · exact h.pending j seen hold
  | append i =>
    obtain ⟨seen, hseen, rfl⟩ := step_append_eq_some.mp hstep
    obtain ⟨l, hl, rfl⟩ := h.pending i seen hseen
    refine ⟨?_, ?_, ?_⟩
    · intro a ha
      rcases mem_append.mp ha with hold | hnew
      · exact h.made a hold
      · exact ⟨i, l, mem_singleton.mp hnew⟩
    · intro j seen' hj
      obtain ⟨l', hl', heq⟩ := h.pending j seen' (phase_afterAppend hj).2
      exact ⟨l', hl'.trans (prefix_append _ _), heq⟩
    · -- the first record is written by one who has read the empty log
      intro a ha
      cases hlog : s.log with
      | nil =>
        rw [State.afterAppend, hlog] at ha
        rw [hlog, prefix_nil] at hl
        subst hl
        cases ha
        exact ⟨i, rfl⟩
      | cons b rest =>
        apply h.first
        rw [State.afterAppend, hlog] at ha
        rw [hlog]
        exact ha

/-! ## Runs -/

theorem log_prefix_of_run (hrun : run (step last make) s ts = some s') : s.log <+: s'.log := by
  refine invariant_of_run (I := fun s₁ => s.log <+: s₁.log) ?_ prefix_rfl (meets_true _ _) hrun
  intro s₁ t s₂ hlog _ hstep
  exact hlog.trans (log_prefix_of_step hstep)

/-- A reader whose own append comes next has read the last record. -/
def Current (last : List α → Option H) (s : State ι α H) (ts : List (Turn ι)) : Prop :=
  ∀ i seen, s.phase i = .read seen → Turn.append i ∈ ts →
    seen = last s.log ∧ ts.find? Turn.isAppend = some (.append i)

variable (hf : Faithful last make hash prev)

include hf

/-- **Undisturbed writers keep the log linked.** -/
theorem linked_of_undisturbed (hinv : Inv last make s)
    (hlinked : s.log.IsChain (Linked hash prev)) (hcurrent : Current last s ts)
    (hundisturbed : Undisturbed ts) (hrun : run (step last make) s ts = some s') :
    s'.log.IsChain (Linked hash prev) := by
  induction ts generalizing s with
  | nil =>
    cases hrun
    exact hlinked
  | cons t ts ih =>
    obtain ⟨s₁, hstep, hrest⟩ := run_cons_eq_some.mp hrun
    cases t with
    | read i =>
      obtain ⟨-, rfl⟩ := step_read_eq_some.mp hstep
      refine ih (hinv.of_step hstep) hlinked ?_ hundisturbed.2 hrest
      intro j seen hj hmem
      rcases phase_afterRead hj with ⟨rfl, rfl⟩ | hold
      · exact ⟨rfl, hundisturbed.1 hmem⟩
      · exact hcurrent j seen hold (mem_cons_of_mem _ hmem)
    | append i =>
      obtain ⟨seen, hseen, rfl⟩ := step_append_eq_some.mp hstep
      obtain ⟨rfl, -⟩ := hcurrent i seen hseen mem_cons_self
      refine ih (hinv.of_step hstep) (linked_append i hf hinv hlinked) ?_ hundisturbed hrest
      -- another reader would have been next
      intro j seen hj hmem
      obtain ⟨hne, hold⟩ := phase_afterAppend hj
      obtain ⟨-, hnext⟩ := hcurrent j seen hold (mem_cons_of_mem _ hmem)
      cases hnext
      exact absurd rfl hne

/-- **In a linked log every writer was undisturbed.** -/
theorem undisturbed_of_linked (hinv : Inv last make s)
    (hrun : run (step last make) s ts = some s') (hlinked : s'.log.IsChain (Linked hash prev))
    (hprev : ∀ a ∈ s'.log, ∀ b ∈ s'.log, hash a = hash b → prev a = prev b) :
    Undisturbed ts ∧ ∀ i l, s.phase i = .read (last l) → l <+: s.log → Turn.append i ∈ ts →
      l = s.log ∧ ts.find? Turn.isAppend = some (.append i) := by
  induction ts generalizing s with
  | nil => exact ⟨trivial, fun _ _ _ _ hmem => absurd hmem not_mem_nil⟩
  | cons t ts ih =>
    obtain ⟨s₁, hstep, hrest⟩ := run_cons_eq_some.mp hrun
    obtain ⟨hundisturbed, hreaders⟩ := ih (hinv.of_step hstep) hrest
    cases t with
    | read i =>
      obtain ⟨hidle, rfl⟩ := step_read_eq_some.mp hstep
      have hown : (s.afterRead last i).phase i = .read (last s.log) := update_self _ _ _
      refine ⟨⟨fun hmem => (hreaders i s.log hown prefix_rfl hmem).2, hundisturbed⟩, ?_⟩
      intro j l hj hl hmem
      have hne : j ≠ i := by
        rintro rfl
        rw [hidle] at hj
        cases hj
      have hkept : (s.afterRead last i).phase j = .read (last l) := by
        rw [← hj]
        exact update_of_ne hne _ _
      have hlater : Turn.append j ∈ ts := (mem_cons.mp hmem).resolve_left (by simp)
      exact hreaders j l hkept hl hlater
    | append i =>
      obtain ⟨seen, hseen, rfl⟩ := step_append_eq_some.mp hstep
      refine ⟨hundisturbed, ?_⟩
      intro j l hj hl hmem
      have hlog := log_prefix_of_run hrest
      by_cases hij : j = i
      · subst hij
        rw [hj] at hseen
        obtain rfl := Phase.read.inj hseen
        have hold : ∀ a ∈ s.log, a ∈ s'.log :=
          fun a ha => hlog.subset (mem_append_left _ ha)
        have hpart := IsChain.prefix hlinked hlog
        refine ⟨eq_log_of_linked hf hinv hl hpart ?_, rfl⟩
        exact fun a ha b hb => hprev a (hold a ha) b (hold b hb)
      · -- a reader that is still to append would be linked to an earlier record
        have hkept : (s.afterAppend make i seen).phase j = .read (last l) := by
          rw [← hj]
          exact update_of_ne hij _ _
        have hlater : Turn.append j ∈ ts := by
          refine (mem_cons.mp hmem).resolve_left ?_
          simpa using hij
        obtain ⟨hall, -⟩ := hreaders j l hkept (hl.trans (prefix_append _ _)) hlater
        have hlength := hl.length_le
        rw [hall, State.afterAppend, length_append, length_singleton] at hlength
        omega

/-- **When the log is linked**: exactly if no record is appended between the read and the append of
another writer. -/
theorem linked_iff
    (hrun : run (step last make) start ts = some s')
    (hprev : ∀ a ∈ s'.log, ∀ b ∈ s'.log, hash a = hash b → prev a = prev b) :
    s'.log.IsChain (Linked hash prev) ↔ Undisturbed ts := by
  constructor
  · intro hlinked
    exact (undisturbed_of_linked hf inv_start hrun hlinked hprev).1
  · intro hundisturbed
    have hcurrent : Current last (start : State ι α H) ts := fun i seen h => by cases h
    exact linked_of_undisturbed hf inv_start isChain_nil hcurrent hundisturbed hrun

end

end Tarka.Lib.ReadAppend
